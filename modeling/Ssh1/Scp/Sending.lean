import Ssh1.Scp.Source
import Ssh1.Scp.Sink

/-
  What a source sends of a file.

  The source sends as many bytes as it announced, whatever it
  reads, and one status record.

  Main declarations:
    * `Scp.wholeBlocks`, `Scp.allocbuf_run`
    * `Scp.pieces`, `Scp.localFailure`
    * `Scp.sendFile_run`
-/

------------------------------------------------------------
-- Buffers
------------------------------------------------------------

namespace Ssh1

namespace Scp

open Recorded

variable {sys : ScpSystem}

/- So many bytes, in whole blocks. -/
def wholeBlocks (stBlksize n : Nat) : Nat :=
  if stBlksize = 0 then n
  else (n + stBlksize - 1) / stBlksize * stBlksize

/- The size is rounded up to whole blocks of the file. -/
theorem allocSize_eq
    (blksize stBlksize : Nat) :
    allocSize blksize stBlksize =
      wholeBlocks stBlksize blksize := by
  unfold allocSize wholeBlocks
  by_cases hZero : stBlksize = 0
  · rw [if_pos hZero, if_pos hZero]
  · rw [if_neg hZero, if_neg hZero]
    have hPos : 0 < stBlksize := Nat.pos_of_ne_zero hZero
    have hDiv := Nat.div_add_mod blksize stBlksize
    have hMod := Nat.mod_lt blksize hPos
    by_cases hWhole : blksize % stBlksize = 0
    · have hUp : (blksize + stBlksize - 1) / stBlksize =
          blksize / stBlksize := by
        apply Nat.div_eq_of_lt_le
        · rw [Nat.mul_comm]
          omega
        · rw [Nat.mul_comm, Nat.mul_succ]
          omega
      rw [hWhole, hUp, Nat.mul_comm, Nat.sub_zero,
        Nat.mod_self]
      omega
    · have hUp : (blksize + stBlksize - 1) / stBlksize =
          blksize / stBlksize + 1 := by
        apply Nat.div_eq_of_lt_le
        · rw [Nat.mul_comm, Nat.mul_succ]
          omega
        · rw [Nat.mul_comm, Nat.mul_succ, Nat.mul_succ]
          omega
      rw [hUp, Nat.add_mul, Nat.one_mul,
        Nat.mul_comm (blksize / stBlksize),
        Nat.mod_eq_of_lt (by omega)]
      omega

/- A size of blocks that is an `int` gives one for buffers. -/
theorem allocSize_lt
    {blksize stBlksize : Nat}
    (hBlksize : blksize ≤ 4096)
    (hInt : stBlksize < 2 ^ 31) :
    allocSize blksize stBlksize < 2 ^ 31 := by
  unfold allocSize
  split
  · omega
  · rename_i hZero
    have hPos : 0 < stBlksize := Nat.pos_of_ne_zero hZero
    have hMod := Nat.mod_lt
      (stBlksize - blksize % stBlksize) hPos
    by_cases hSmall : blksize < stBlksize
    · rw [Nat.mod_eq_of_lt hSmall] at hMod ⊢
      by_cases hNone : blksize = 0
      · omega
      · rw [Nat.mod_eq_of_lt (by omega)]
        omega
    · omega

theorem le_wholeBlocks (stBlksize n : Nat) :
    n ≤ wholeBlocks stBlksize n := by
  rw [← allocSize_eq, allocSize]
  split
  · exact Nat.le_refl n
  · exact Nat.le_add_right _ _

/- A buffer after `allocbuf`. -/
theorem allocbuf_run
    (blksize : Nat)
    {stBlksize : Nat}
    {s : ScpState}
    (hBlksize : sys.blksize s.calls = .ok stBlksize) :
    ∃ buffer,
      allocbuf sys blksize s =
        ⟨[], .ok (true, { s with
          calls := s.calls + 1
          buffer := buffer })⟩ ∧
      buffer.length =
        max s.buffer.length
          (wholeBlocks stBlksize blksize) := by
  rw [← allocSize_eq]
  have hAsk : ask sys.blksize s =
      ⟨[], .ok (.ok stBlksize,
        { s with calls := s.calls + 1 })⟩ := by
    rw [ask, ofRuns_apply, hBlksize]
  by_cases hLarge :
      s.buffer.length ≥ allocSize blksize stBlksize
  · refine ⟨s.buffer, ?_, by omega⟩
    refine bind_of_ok hAsk (bind_of_ok (modify_apply _ _) ?_)
    rw [if_pos hLarge]
    rfl
  · refine ⟨List.replicate (allocSize blksize stBlksize) 0,
      ?_, ?_⟩
    · refine bind_of_ok hAsk (bind_of_ok (modify_apply _ _) ?_)
      rw [if_neg hLarge]
      rfl
    · rw [List.length_replicate]
      omega

/- Bytes that are written over leave the length. -/
theorem length_overwrite
    {old data : List UInt8}
    {pos : Nat}
    (hFits : pos + data.length ≤ old.length) :
    (overwrite old pos data).length = old.length := by
  simp only [overwrite, List.length_append, List.length_take,
    List.length_drop]
  omega

/- What is stored at an offset can be loaded again. -/
theorem take_overwrite
    {old : List UInt8}
    {pos : Nat}
    (data : List UInt8)
    (hPos : pos ≤ old.length) :
    (overwrite old pos data).take (pos + data.length) =
      old.take pos ++ data := by
  rw [overwrite]
  apply List.take_left'
  rw [List.length_append, List.length_take]
  omega

/- Bytes that fit are stored. -/
theorem storeAt_run
    (off : Nat)
    (data : List UInt8)
    (s : ScpState)
    (hFits : off + data.length ≤ s.buffer.length) :
    storeAt off data s =
      ⟨[], .ok ((), { s with
        buffer := overwrite s.buffer off data })⟩ := by
  rw [storeAt, ofRuns_apply, if_pos hFits]

/- Bytes that do not fit are written out of bounds. -/
theorem storeAt_overflow
    {off : Nat}
    {data : List UInt8}
    {s : ScpState}
    (hLong : s.buffer.length < off + data.length) :
    storeAt off data s = ⟨[], .error .outOfBounds⟩ := by
  rw [storeAt, ofRuns_apply, if_neg (by omega)]

theorem loadBytes_run
    {count : Nat}
    {s : ScpState}
    (hFits : count ≤ s.buffer.length) :
    loadBytes count s =
      ⟨[], .ok (s.buffer.take count, s)⟩ := by
  rw [loadBytes, ofRuns_apply, if_pos hFits]

end Scp

end Ssh1

------------------------------------------------------------
-- The Source
------------------------------------------------------------

namespace Ssh1

namespace Scp

open Recorded

variable {sys : ScpSystem}

/- The sizes of the pieces of a file. -/
def pieces (cnt size : Nat) : List Nat :=
  List.replicate (size / cnt) cnt ++
    (if size % cnt = 0 then [] else [size % cnt])

/- A buffer full, and the pieces of the rest. -/
theorem pieces_pos
    {cnt size : Nat}
    (hCnt : 0 < cnt)
    (hSize : 0 < size) :
    pieces cnt size =
      min cnt size :: pieces cnt (size - cnt) := by
  unfold pieces
  by_cases hLarge : cnt ≤ size
  · rw [Nat.div_eq_sub_div hCnt hLarge,
      Nat.mod_eq_sub_mod hLarge, List.replicate_succ,
      Nat.min_eq_left hLarge, List.cons_append]
  · rw [Nat.div_eq_of_lt (by omega),
      Nat.mod_eq_of_lt (by omega),
      Nat.sub_eq_zero_of_le (by omega),
      Nat.min_eq_right (by omega)]
    simp [Nat.ne_of_gt hSize]

/- A read that does not give the whole piece. -/
def pieceFailure
    (amt : Nat) :
    Except Errno (List UInt8) → Option Errno
| .error errno => some errno
| .ok data => if amt ≤ data.length then none else some eio

/- The first read that does not give its piece. -/
def firstFailure
    (sys : ScpSystem) :
    Nat → List Nat → Option Errno
| _, [] => none
| calls, amt :: amts =>
    (pieceFailure amt (sys.fileRead calls amt)).or
      (firstFailure sys (calls + 1) amts)

/- The error of the local file, if there is one. -/
def localFailure
    (sys : ScpSystem)
    (calls : Nat)
    (amts : List Nat) : Option Errno :=
  (firstFailure sys calls amts).or
    (sys.close (calls + amts.length))

/- A piece that fits is read, or its error is noted. -/
theorem readPiece_run
    {amt : Nat}
    {s : ScpState}
    (hFits : amt ≤ s.buffer.length) :
    ∃ buffer,
      readPiece sys amt none s =
        ⟨[], .ok
          (pieceFailure amt (sys.fileRead s.calls amt),
            { s with
              calls := s.calls + 1
              buffer := buffer })⟩ ∧
      buffer.length = s.buffer.length := by
  have hAsk :
      ask (fun calls => sys.fileRead calls amt) s =
        ⟨[], .ok (sys.fileRead s.calls amt,
          { s with calls := s.calls + 1 })⟩ :=
    rfl
  cases hRead : sys.fileRead s.calls amt with
  | error errno =>
      rw [hRead] at hAsk
      exact ⟨s.buffer, bind_of_ok hAsk rfl, rfl⟩
  | ok data =>
      rw [hRead] at hAsk
      have hLength : (data.take amt).length =
          min amt data.length :=
        List.length_take
      have hStore : 0 + (data.take amt).length ≤
          s.buffer.length := by
        omega
      refine ⟨overwrite s.buffer 0 (data.take amt), ?_,
        length_overwrite hStore⟩
      refine bind_of_ok hAsk (bind_of_ok (storeAt_run
        0 (data.take amt) { s with calls := s.calls + 1 }
        hStore) ?_)
      rw [pieceFailure, hLength]
      by_cases hWhole : amt ≤ data.length
      · rw [if_pos hWhole, if_neg (by omega)]
        rfl
      · rw [if_neg hWhole, if_pos (by omega)]
        rfl

/- The source sends every byte, before and after an error. -/
theorem sendLoop_run
    (sys : ScpSystem)
    {turns left : Nat}
    (haderr : Option Errno)
    {s : ScpState}
    (hTurns : left < turns)
    (hBuffer : 0 < s.buffer.length) :
    ∃ events haderr' s',
      sendLoop sys turns left haderr s =
        ⟨events, .ok (haderr', s')⟩ ∧
      (sentBytes events).length = left ∧
      haderr' = haderr.or
        (firstFailure sys s.calls
          (pieces s.buffer.length left)) ∧
      (haderr' = none →
        s'.calls =
          s.calls + (pieces s.buffer.length left).length) ∧
      s'.input = s.input := by
  induction turns generalizing left haderr s with
  | zero => omega
  | succ turns ih =>
      rw [sendLoop]
      by_cases hDone : left = 0
      · rw [if_pos hDone]
        refine ⟨[], haderr, s, rfl, ?_, ?_, ?_, rfl⟩
        · rw [hDone]
          rfl
        · simp [hDone, pieces, firstFailure]
        · simp [hDone, pieces]
      · rw [if_neg hDone]
        have hFits : min s.buffer.length left ≤
            s.buffer.length :=
          Nat.min_le_left _ _
        -- the piece is read, unless there was an error
        have hRead : ∃ haderr₁ calls buffer,
            readPiece sys (min s.buffer.length left) haderr s =
              ⟨[], .ok (haderr₁, { s with
                calls := calls
                buffer := buffer })⟩ ∧
            buffer.length = s.buffer.length ∧
            haderr₁ = haderr.or (pieceFailure
              (min s.buffer.length left)
              (sys.fileRead s.calls
                (min s.buffer.length left))) ∧
            (haderr = none → calls = s.calls + 1) := by
          cases haderr with
          | some errno =>
              exact ⟨some errno, s.calls, s.buffer, rfl, rfl,
                rfl, nofun⟩
          | none =>
              rcases readPiece_run hFits with
                ⟨buffer, hRun, hLength⟩
              exact ⟨_, _, buffer, hRun, hLength, rfl,
                fun _ => rfl⟩
        rcases hRead with
          ⟨haderr₁, calls, buffer, hRun, hLength, hHaderr₁,
            hCalls⟩
        rcases @ih (left - s.buffer.length) haderr₁
            { s with calls := calls, buffer := buffer }
            (by omega)
            (by
              show 0 < buffer.length
              omega) with
          ⟨events, haderr', s', hRest, hSent, hHaderr',
            hCalls', hInput⟩
        simp only [hLength] at hHaderr' hCalls'
        have hPieces := pieces_pos hBuffer
          (Nat.pos_of_ne_zero hDone)
        have hLoad : min s.buffer.length left ≤
            buffer.length := by
          omega
        refine ⟨.send (buffer.take
            (min s.buffer.length left)) :: events,
          haderr', s', ?_, ?_, ?_, ?_, hInput⟩
        · exact bind_of_ok (get_apply s) (bind_of_ok hRun
            (bind_of_ok (loadBytes_run
              (s := { s with calls := calls, buffer := buffer })
              hLoad)
              (bind_of_ok (record_apply _ _) hRest)))
        · rw [sentBytes, List.flatMap_cons, List.length_append,
            List.length_take]
          rw [sentBytes] at hSent
          omega
        · cases haderr with
          | some errno =>
              rw [hHaderr', hHaderr₁]
              rfl
          | none =>
              rw [hHaderr', hHaderr₁, hCalls rfl, hPieces,
                firstFailure, Option.none_or, Option.none_or]
        · intro hNone
          cases haderr with
          | some errno =>
              rw [hHaderr', hHaderr₁] at hNone
              cases hNone
          | none =>
              rw [hCalls' hNone, hCalls rfl, hPieces,
                List.length_cons]
              omega

/- The status record after the bytes of a file. -/
def statusRecord
    (sys : ScpSystem)
    (name : FilePath) :
    Option Errno → List UInt8
| none => [0]
| some errno => errorRecord (errorText sys name errno)

/- The bytes of both runs, in their order. -/
theorem sentBytes_append
    (events events' : List ScpEvent) :
    sentBytes (events ++ events') =
      sentBytes events ++ sentBytes events' :=
  List.flatMap_append

theorem sentBytes_send (data : List UInt8) :
    sentBytes [.send data] = data :=
  List.append_nil data

/- All bytes that were announced, and one status record. -/
theorem sendFile_run
    (name : FilePath)
    (size : Nat)
    {stBlksize : Nat}
    {s : ScpState}
    (hBlksize : sys.blksize s.calls = .ok stBlksize) :
    ∃ events data s',
      sendFile sys name size s = ⟨events, .ok (true, s')⟩ ∧
      sentBytes events =
        data ++ statusRecord sys name
          (localFailure sys (s.calls + 1)
            (pieces
              (max s.buffer.length
                (wholeBlocks stBlksize 2048)) size)) ∧
      data.length = size ∧
      s'.input = s.input := by
  rcases allocbuf_run 2048 hBlksize with
    ⟨buffer, hAlloc, hLength⟩
  have hBlocks := le_wholeBlocks stBlksize 2048
  have hBuffer : 0 < buffer.length := by
    omega
  rcases sendLoop_run sys none
      (s := { s with calls := s.calls + 1, buffer := buffer })
      (Nat.lt_succ_self size) hBuffer with
    ⟨events, haderr, s', hLoop, hSent, hHaderr, hCalls,
      hInput⟩
  rw [Option.none_or] at hHaderr
  simp only [hLength] at hHaderr hCalls
  -- `close` counts only where nothing went wrong before
  have hFailure :
      haderr.or (sys.close s'.calls) =
        localFailure sys (s.calls + 1)
          (pieces
            (max s.buffer.length
              (wholeBlocks stBlksize 2048)) size) := by
    rw [localFailure, ← hHaderr]
    cases haderr with
    | some errno => rfl
    | none => rw [hCalls rfl]
  have hClose : ask sys.close s' =
      ⟨[], .ok (sys.close s'.calls,
        { s' with calls := s'.calls + 1 })⟩ :=
    rfl
  rw [← hFailure]
  cases hStatus : haderr.or (sys.close s'.calls) with
  | none =>
      refine ⟨[] ++ (events ++ ([] ++ [.send [0]])),
        sentBytes events, { s' with calls := s'.calls + 1 },
        bind_of_ok hAlloc (bind_of_ok hLoop
          (bind_of_ok hClose ?_)), ?_, hSent, hInput⟩
      · rw [hStatus]
        rfl
      · rw [List.nil_append, sentBytes_append,
          List.nil_append, sentBytes_send]
        rfl
  | some errno =>
      refine ⟨[] ++ (events ++ ([] ++
          [.send (errorRecord (errorText sys name errno))])),
        sentBytes events,
        { s' with calls := s'.calls + 1, errs := s'.errs + 1 },
        bind_of_ok hAlloc (bind_of_ok hLoop
          (bind_of_ok hClose ?_)), ?_, hSent, hInput⟩
      · rw [hStatus]
        rfl
      · rw [List.nil_append, sentBytes_append,
          List.nil_append, sentBytes_send]
        rfl

end Scp

end Ssh1
