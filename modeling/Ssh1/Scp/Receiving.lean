import Ssh1.Scp.Sending

/-
  What a sink takes of a file.

  The sink fills up its buffer piece by piece, and flushes it
  when it is exactly full. It reads a status record whole if
  the text in it fits.

  Main declarations:
    * `Scp.readInto_run`, `Scp.flushBuffer_run`
    * `Scp.receive_run`, `Scp.receive_overflow`
    * `Scp.response_run`
-/

------------------------------------------------------------
-- Reading Pieces
------------------------------------------------------------

namespace Ssh1

namespace Scp

open Recorded

variable {sys : ScpSystem}

/- Some bytes of the next piece, and at least one of them. -/
theorem readSocket_run
    (sys : ScpSystem)
    {amt : Nat}
    {s : ScpState}
    (hAmt : 0 < amt)
    (hInput : amt ≤ s.input.length) :
    ∃ k, 0 < k ∧ k ≤ amt ∧
      readSocket sys amt s =
        ⟨[], .ok (s.input.take k, { s with
          input := s.input.drop k
          calls := s.calls + 1 })⟩ := by
  have hAsk : ask sys.arrived s =
      ⟨[], .ok (sys.arrived s.calls,
        { s with calls := s.calls + 1 })⟩ :=
    rfl
  refine ⟨min amt (max 1 (sys.arrived s.calls)), by omega,
    Nat.min_le_left _ _, ?_⟩
  have hLength :
      (s.input.take
        (min amt (max 1 (sys.arrived s.calls)))).length =
        min amt (max 1 (sys.arrived s.calls)) := by
    rw [List.length_take]
    omega
  have hSome :
      s.input.take
        (min amt (max 1 (sys.arrived s.calls))) ≠ [] := by
    intro hEmpty
    rw [hEmpty, List.length_nil] at hLength
    omega
  refine bind_of_ok hAsk (bind_of_ok (get_apply _) ?_)
  rw [if_neg hSome]
  refine (bind_of_ok (modify_apply _ _) rfl).trans ?_
  rw [hLength]
  rfl

theorem take_add_drop
    (data : List UInt8)
    (k rest : Nat) :
    data.take k ++ (data.drop k).take rest =
      data.take (k + rest) :=
  List.take_add.symm

/- Bytes after others, over the same ones. -/
theorem overwrite_overwrite
    {old : List UInt8}
    {pos : Nat}
    (data data' : List UInt8)
    (hPos : pos ≤ old.length) :
    overwrite (overwrite old pos data) (pos + data.length)
        data' =
      overwrite old pos (data ++ data') := by
  have hDrop :
      (overwrite old pos data).drop
          (pos + data.length + data'.length) =
        old.drop (pos + (data ++ data').length) := by
    have hHead : (old.take pos ++ data).length =
        pos + data.length := by
      rw [List.length_append, List.length_take]
      omega
    rw [overwrite, List.drop_append, hHead,
      List.drop_eq_nil_of_le (by omega), List.nil_append,
      List.drop_drop, List.length_append]
    congr 1
    omega
  rw [overwrite, take_overwrite data hPos, hDrop, overwrite,
    List.append_assoc (old.take pos)]

theorem readInto_run
    (sys : ScpSystem)
    {turns off amt : Nat}
    {s : ScpState}
    (hAmt : 0 < amt)
    (hTurns : amt ≤ turns)
    (hInput : amt ≤ s.input.length)
    (hFits : off + amt ≤ s.buffer.length) :
    ∃ calls,
      readInto sys turns off amt s =
        ⟨[], .ok ((), { s with
          input := s.input.drop amt
          calls := calls
          buffer := overwrite s.buffer off
            (s.input.take amt) })⟩ := by
  induction turns generalizing off amt s with
  | zero => omega
  | succ turns ih =>
      rcases readSocket_run sys hAmt hInput with
        ⟨k, hPos, hLe, hRead⟩
      have hLength : (s.input.take k).length = k := by
        rw [List.length_take]
        omega
      have hStore := storeAt_run off (s.input.take k)
        { s with
          input := s.input.drop k
          calls := s.calls + 1 }
        (by
          show _ ≤ s.buffer.length
          omega)
      by_cases hMore : k < amt
      · have hStored : (overwrite s.buffer off
            (s.input.take k)).length = s.buffer.length :=
          length_overwrite (by omega)
        have hNext := @ih (off + k) (amt - k)
          { s with
            input := s.input.drop k
            calls := s.calls + 1
            buffer := overwrite s.buffer off
              (s.input.take k) }
          (by omega) (by omega)
          (by
            show _ ≤ (s.input.drop k).length
            rw [List.length_drop]
            omega)
          (by
            show _ ≤ (overwrite s.buffer off _).length
            omega)
        rcases hNext with ⟨calls, hNext⟩
        have hBuffer :
            overwrite
                (overwrite s.buffer off (s.input.take k))
                (off + k) ((s.input.drop k).take (amt - k)) =
              overwrite s.buffer off (s.input.take amt) := by
          have hTwo := overwrite_overwrite (s.input.take k)
            ((s.input.drop k).take (amt - k))
            (show off ≤ s.buffer.length by omega)
          rw [hLength, take_add_drop] at hTwo
          rw [hTwo]
          congr 2
          omega
        have hDrop : (s.input.drop k).drop (amt - k) =
            s.input.drop amt := by
          rw [List.drop_drop]
          congr 1
          omega
        refine ⟨calls, bind_of_ok hRead
          (bind_of_ok hStore ?_)⟩
        rw [hLength, if_pos hMore, hNext]
        simp only [hBuffer, hDrop]
      · have hAll : k = amt := by
          omega
        refine ⟨s.calls + 1, bind_of_ok hRead
          (bind_of_ok hStore ?_)⟩
        rw [hLength, if_neg hMore, hAll]
        rfl

/- A piece that does not fit goes outside of the buffer. -/
theorem readInto_overflow
    {turns off amt : Nat}
    {s : ScpState}
    (hAmt : 0 < amt)
    (hTurns : amt ≤ turns)
    (hInput : amt ≤ s.input.length)
    (hLong : s.buffer.length < off + amt) :
    readInto sys turns off amt s =
      ⟨[], .error .outOfBounds⟩ := by
  induction turns generalizing off amt s with
  | zero => omega
  | succ turns ih =>
      rcases readSocket_run sys hAmt hInput with
        ⟨k, hPos, hLe, hRead⟩
      have hLength : (s.input.take k).length = k := by
        rw [List.length_take]
        omega
      by_cases hFits : off + k ≤ s.buffer.length
      · have hStore := storeAt_run off (s.input.take k)
          { s with
            input := s.input.drop k
            calls := s.calls + 1 }
          (by
            show _ ≤ s.buffer.length
            omega)
        refine bind_of_ok hRead (bind_of_ok hStore ?_)
        rw [hLength, if_pos (by omega)]
        refine ih (by omega) (by omega) ?_ ?_
        · show _ ≤ (s.input.drop k).length
          rw [List.length_drop]
          omega
        · show (overwrite s.buffer off _).length < _
          rw [length_overwrite (by omega)]
          omega
      · refine bind_of_ok hRead
          (bind_of_error (storeAt_overflow ?_))
        show s.buffer.length < _
        omega

end Scp

end Ssh1

------------------------------------------------------------
-- Filling the Buffer
------------------------------------------------------------

namespace Ssh1

namespace Scp

open Recorded

variable {sys : ScpSystem}

/- What was written, unless an error was noted. -/
structure Wrote
    (old w : List UInt8)
    (file : TargetFile) : Prop where
  hidden : file.wrerr ≠ .displayed
  content : file.wrerr = .no →
    file.content = w ++ old.drop w.length ∧
      file.pos = w.length

theorem overwrite_next (w old data : List UInt8) :
    overwrite (w ++ old.drop w.length) w.length data =
      w ++ data ++ old.drop (w ++ data).length := by
  rw [overwrite, List.take_left, List.drop_append,
    List.drop_eq_nil_of_le (by omega), List.nil_append,
    List.drop_drop, List.length_append]
  congr 2
  omega

theorem flushBuffer_run
    (sys : ScpSystem)
    {count : Nat}
    {file : TargetFile}
    {s : ScpState}
    {old w : List UInt8}
    (hFits : count ≤ s.buffer.length)
    (hWrote : Wrote old w file) :
    ∃ calls file',
      flushBuffer sys count file s =
        ⟨[], .ok (file', { s with calls := calls })⟩ ∧
      Wrote old (w ++ s.buffer.take count) file' := by
  unfold flushBuffer
  by_cases hGood : file.wrerr = .no
  · rw [if_pos hGood]
    rcases hWrote.content hGood with ⟨hContent, hPos⟩
    have hAsk :
        ask (fun calls => sys.written calls count) s =
          ⟨[], .ok (sys.written s.calls count,
            { s with calls := s.calls + 1 })⟩ :=
      rfl
    cases hAnswer : sys.written s.calls count with
    | error errno =>
        rw [hAnswer] at hAsk
        exact ⟨s.calls + 1, { file with wrerr := .yes errno },
          bind_of_ok (loadBytes_run hFits)
            (bind_of_ok hAsk rfl), nofun, nofun⟩
    | ok written =>
        rw [hAnswer] at hAsk
        by_cases hAll :
            ((s.buffer.take count).take written).length = count
        · have hTake : (s.buffer.take count).take written =
              s.buffer.take count := by
            apply List.take_of_length_le
            rw [List.length_take] at hAll ⊢
            omega
          refine ⟨s.calls + 1,
            { file with
              content := overwrite file.content file.pos
                (s.buffer.take count)
              pos := file.pos + (s.buffer.take count).length },
            bind_of_ok (loadBytes_run hFits)
              (bind_of_ok hAsk ?_), ?_, ?_⟩
          · show (ite _ _ _ : Scp TargetFile) _ = _
            rw [if_pos hAll, hTake]
            rfl
          · exact hWrote.hidden
          · intro _
            constructor
            · show overwrite file.content file.pos _ = _
              rw [hContent, hPos, overwrite_next]
            · show file.pos + _ = _
              rw [hPos, List.length_append]
        · refine ⟨s.calls + 1,
            ⟨overwrite file.content file.pos
                ((s.buffer.take count).take written),
              file.pos +
                ((s.buffer.take count).take written).length,
              .yes eio⟩,
            bind_of_ok (loadBytes_run hFits)
              (bind_of_ok hAsk ?_), ?_, ?_⟩
          · show (ite _ _ _ : Scp TargetFile) _ = _
            rw [if_neg hAll]
            rfl
          · exact nofun
          · exact nofun
  · rw [if_neg hGood]
    exact ⟨s.calls, file, rfl, hWrote.hidden,
      fun hNo => absurd hNo hGood⟩

/-
  The rest of the file has room: the buffer is filled up
  exactly from time to time, or it holds all of it.
-/
def HasRoom (cnt count left : Nat) : Prop :=
  4096 ∣ cnt ∧ 4096 ∣ count ∧ count < cnt ∨
    count + left ≤ cnt

/- The next piece fits, and the room is kept. -/
theorem HasRoom.next
    {cnt count left : Nat}
    (hRoom : HasRoom cnt count left)
    (hLeft : 0 < left) :
    count + min 4096 left ≤ cnt ∧
      HasRoom cnt
        (if count + min 4096 left = cnt then 0
          else count + min 4096 left)
        (left - min 4096 left) := by
  unfold HasRoom at hRoom ⊢
  rcases hRoom with ⟨hCnt, hCount, hLess⟩ | hAll
  · rcases hCnt with ⟨a, rfl⟩
    rcases hCount with ⟨b, rfl⟩
    have hFits : 4096 * b + 4096 ≤ 4096 * a := by
      omega
    refine ⟨by omega, ?_⟩
    by_cases hFull : 4096 ≤ left
    · rw [Nat.min_eq_left hFull]
      left
      refine ⟨Dvd.intro _ rfl, ?_, ?_⟩
      · split
        · exact Nat.dvd_zero _
        · exact ⟨b + 1, rfl⟩
      · split
        · omega
        · omega
    · right
      split
      · omega
      · omega
  · refine ⟨by omega, Or.inr ?_⟩
    split
    · omega
    · omega

/- A piece lies in the buffer, after what was there. -/
theorem readInto_piece
    (sys : ScpSystem)
    {count : Nat}
    {s : ScpState}
    {data rest : List UInt8}
    (hData : 0 < data.length)
    (hInput : s.input = data ++ rest)
    (hFits : count + min 4096 data.length ≤ s.buffer.length) :
    ∃ calls buffer,
      readInto sys (min 4096 data.length) count
          (min 4096 data.length) s =
        ⟨[], .ok ((), { s with
          input := data.drop (min 4096 data.length) ++ rest
          calls := calls
          buffer := buffer })⟩ ∧
      buffer.length = s.buffer.length ∧
      buffer.take (count + min 4096 data.length) =
        s.buffer.take count ++
          data.take (min 4096 data.length) := by
  have hAmt : min 4096 data.length ≤ data.length :=
    Nat.min_le_right _ _
  have hTake : s.input.take (min 4096 data.length) =
      data.take (min 4096 data.length) := by
    rw [hInput, List.take_append_of_le_length hAmt]
  have hDrop : s.input.drop (min 4096 data.length) =
      data.drop (min 4096 data.length) ++ rest := by
    rw [hInput, List.drop_append_of_le_length hAmt]
  have hTaken : (data.take (min 4096 data.length)).length =
      min 4096 data.length := by
    rw [List.length_take]
    omega
  have hLong : min 4096 data.length ≤ s.input.length := by
    rw [hInput, List.length_append]
    omega
  rcases readInto_run sys (by omega)
      (Nat.le_refl (min 4096 data.length)) hLong hFits with
    ⟨calls, hRead⟩
  rw [hTake, hDrop] at hRead
  refine ⟨calls, _, hRead, length_overwrite (by omega), ?_⟩
  have hStored := take_overwrite
    (data.take (min 4096 data.length))
    (show count ≤ s.buffer.length by omega)
  rw [hTaken] at hStored
  exact hStored

/-
  By induction on the turns: every byte lies in the buffer or
  was written, and the bytes of the file are taken.
-/
theorem receive_run
    (sys : ScpSystem)
    {turns count : Nat}
    {file : TargetFile}
    {s : ScpState}
    {data rest old w : List UInt8}
    (hTurns : data.length < turns)
    (hInput : s.input = data ++ rest)
    (hRoom : HasRoom s.buffer.length count data.length)
    (hWrote : Wrote old w file) :
    ∃ calls buffer file',
      receive sys turns data.length count file s =
        ⟨[], .ok (file', { s with
          input := rest
          calls := calls
          buffer := buffer })⟩ ∧
      Wrote old (w ++ s.buffer.take count ++ data) file' := by
  induction turns generalizing count file s data w with
  | zero => omega
  | succ turns ih =>
      rw [receive]
      by_cases hDone : data.length = 0
      · have hEmpty : data = [] :=
          List.eq_nil_of_length_eq_zero hDone
        have hRest : rest = s.input := by
          rw [hInput, hEmpty, List.nil_append]
        rw [if_pos hDone, hEmpty, List.append_nil, hRest]
        have hFits : count ≤ s.buffer.length := by
          rcases hRoom with ⟨-, -, hLess⟩ | hAll
          · omega
          · omega
        by_cases hCount : count = 0
        · refine ⟨s.calls, s.buffer, file, ?_, ?_⟩
          · rw [if_neg (not_not_intro hCount)]
            rfl
          · rw [hCount, List.take_zero, List.append_nil]
            exact hWrote
        · rcases flushBuffer_run sys hFits hWrote with
            ⟨calls, file', hRun, hWrote'⟩
          refine ⟨calls, s.buffer, file', ?_, hWrote'⟩
          rw [if_pos hCount]
          exact hRun
      · rw [if_neg hDone]
        have hData := Nat.pos_of_ne_zero hDone
        rcases hRoom.next hData with ⟨hFits, hRoom'⟩
        rcases readInto_piece sys hData hInput hFits with
          ⟨calls, buffer, hRead, hLength, hStored⟩
        rw [← hLength, ← List.length_drop] at hRoom'
        have hNext : (data.drop
            (min 4096 data.length)).length < turns := by
          rw [List.length_drop]
          omega
        have hWhole (front : List UInt8) :
            front ++ data.take (min 4096 data.length) ++
                data.drop (min 4096 data.length) =
              front ++ data := by
          rw [List.append_assoc, List.take_append_drop]
        by_cases hFull :
            count + min 4096 data.length = buffer.length
        · rw [if_pos hFull] at hRoom'
          rcases flushBuffer_run sys
              (s := { s with
                input :=
                  data.drop (min 4096 data.length) ++ rest
                calls := calls
                buffer := buffer })
              (Nat.le_of_eq hFull) hWrote with
            ⟨calls', file', hFlush, hWrote'⟩
          rcases ih
              (s := { s with
                input :=
                  data.drop (min 4096 data.length) ++ rest
                calls := calls'
                buffer := buffer })
              hNext rfl hRoom' hWrote' with
            ⟨calls'', buffer'', file'', hRun, hWrote''⟩
          refine ⟨calls'', buffer'', file'',
            bind_of_ok hRead
              (bind_of_ok (get_apply _) ?_), ?_⟩
          · rw [if_pos hFull]
            rw [List.length_drop] at hRun
            exact bind_of_ok hFlush hRun
          · simp only [hStored, List.take_zero,
              List.append_nil] at hWrote''
            rw [← List.append_assoc, hWhole] at hWrote''
            exact hWrote''
        · rw [if_neg hFull] at hRoom'
          rcases ih
              (s := { s with
                input :=
                  data.drop (min 4096 data.length) ++ rest
                calls := calls
                buffer := buffer })
              hNext rfl hRoom' hWrote with
            ⟨calls'', buffer'', file'', hRun, hWrote''⟩
          refine ⟨calls'', buffer'', file'',
            bind_of_ok hRead
              (bind_of_ok (get_apply _) ?_), ?_⟩
          · rw [if_neg hFull]
            rw [List.length_drop] at hRun
            exact hRun
          · simp only [hStored] at hWrote''
            rw [← List.append_assoc, hWhole] at hWrote''
            exact hWrote''

/-
  A file that is larger than the buffer never fills it up
  exactly where its size is no multiple of the pieces.
-/
theorem receive_overflow
    {turns count : Nat}
    {file : TargetFile}
    {s : ScpState}
    {data rest : List UInt8}
    (hTurns : data.length < turns)
    (hInput : s.input = data ++ rest)
    (hOdd : ¬ 4096 ∣ s.buffer.length)
    (hCount : 4096 ∣ count)
    (hFits : count ≤ s.buffer.length)
    (hLarge : s.buffer.length < count + data.length) :
    receive sys turns data.length count file s =
      ⟨[], .error .outOfBounds⟩ := by
  induction turns generalizing count s data with
  | zero => omega
  | succ turns ih =>
      have hDone : data.length ≠ 0 := by
        omega
      have hData : 0 < data.length := Nat.pos_of_ne_zero hDone
      rw [receive, if_neg hDone]
      by_cases hPiece :
          count + min 4096 data.length ≤ s.buffer.length
      · rcases readInto_piece sys hData hInput hPiece with
          ⟨calls, buffer, hRead, hLength, -⟩
        -- the last piece would not fit, so this one is whole
        have hWhole : min 4096 data.length = 4096 := by
          omega
        have hNext : 4096 ∣ count + min 4096 data.length := by
          rw [hWhole]
          exact Dvd.dvd.add hCount (Nat.dvd_refl _)
        have hNotFull :
            count + min 4096 data.length ≠ buffer.length := by
          intro hFull
          rw [hFull, hLength] at hNext
          exact hOdd hNext
        refine bind_of_ok hRead
          (bind_of_ok (get_apply _) ?_)
        rw [if_neg hNotFull, ← List.length_drop]
        refine ih ?_ rfl ?_ hNext ?_ ?_
        · rw [List.length_drop]
          omega
        · show ¬ 4096 ∣ buffer.length
          rw [hLength]
          exact hOdd
        · show _ ≤ buffer.length
          omega
        · show buffer.length < _
          rw [List.length_drop]
          omega
      · refine bind_of_error
          (readInto_overflow (by omega) (Nat.le_refl _) ?_ ?_)
        · rw [hInput, List.length_append]
          omega
        · omega

end Scp

end Ssh1

------------------------------------------------------------
-- Status Records
------------------------------------------------------------

namespace Ssh1

namespace Scp

open Recorded

/- The text is one line that `rbuf` has room for. -/
def StatusFits (name text : List UInt8) : Prop :=
  10 ∉ name ++ text ∧ name.length + text.length ≤ 2039

theorem responseText_run
    {room : Nat}
    {text rest : List UInt8}
    {s : ScpState}
    (hInput : s.input = text ++ 10 :: rest)
    (hLine : 10 ∉ text)
    (hRoom : text.length < room) :
    responseText room s =
      ⟨[], .ok ((), { s with input := rest })⟩ := by
  induction room generalizing text s with
  | zero => omega
  | succ room ih =>
      cases text with
      | nil =>
          rw [List.nil_append] at hInput
          refine bind_of_ok (readByte_run hInput) ?_
          rfl
      | cons ch text =>
          rw [List.cons_append] at hInput
          rw [List.mem_cons, not_or] at hLine
          refine bind_of_ok (readByte_run hInput) ?_
          show (ite _ _ _ : Scp Unit) _ = _
          rw [if_neg (Ne.symm hLine.1)]
          rw [List.length_cons] at hRoom
          exact ih rfl hLine.2 (by omega)

/- Where a text does not fit, some of it stays. -/
theorem responseText_run_rest
    {room : Nat}
    {text rest : List UInt8}
    {s : ScpState}
    (hInput : s.input = text ++ 10 :: rest)
    (hLong : 10 ∈ text ∨ room ≤ text.length) :
    ∃ left,
      responseText room s =
        ⟨[], .ok ((), { s with input := left })⟩ ∧
      rest.length < left.length := by
  induction room generalizing text s with
  | zero =>
      refine ⟨s.input, rfl, ?_⟩
      rw [hInput, List.length_append, List.length_cons]
      omega
  | succ room ih =>
      cases text with
      | nil =>
          rcases hLong with hMem | hRoom
          · cases hMem
          · simp at hRoom
      | cons ch text =>
          rw [List.cons_append] at hInput
          by_cases hNewline : ch = 10
          · refine ⟨text ++ 10 :: rest,
              bind_of_ok (readByte_run hInput) ?_, ?_⟩
            · show (ite _ _ _ : Scp Unit) _ = _
              rw [if_pos hNewline]
              rfl
            · rw [List.length_append, List.length_cons]
              omega
          · have hLong' : 10 ∈ text ∨ room ≤ text.length := by
              rcases hLong with hMem | hRoom
              · rcases List.mem_cons.mp hMem with hEq | hMem
                · exact absurd hEq.symm hNewline
                · exact Or.inl hMem
              · rw [List.length_cons] at hRoom
                exact Or.inr (by omega)
            rcases @ih text
                { s with input := text ++ 10 :: rest }
                rfl hLong' with
              ⟨left, hRun, hLeft⟩
            refine ⟨left,
              bind_of_ok (readByte_run hInput) ?_, hLeft⟩
            show (ite _ _ _ : Scp Unit) _ = _
            rw [if_neg hNewline]
            exact hRun

/- The text of a status record, without its newline. -/
theorem statusRecord_some
    (sys : ScpSystem)
    (name : FilePath)
    (errno : Errno) :
    ∃ text,
      statusRecord sys name (some errno) =
        1 :: (text ++ [10]) ∧
      text.length =
        name.length + (sys.strerror errno).length + 7 ∧
      (10 ∈ text ↔ 10 ∈ name ++ sys.strerror errno) := by
  refine ⟨asciiBytes "scp: " ++
    (name ++ asciiBytes ": " ++ sys.strerror errno), rfl,
    ?_, ?_⟩
  · have hScp : (asciiBytes "scp: ").length = 5 := rfl
    have hColon : (asciiBytes ": ").length = 2 := rfl
    simp only [List.length_append, hScp, hColon]
    omega
  · have hScp : 10 ∉ asciiBytes "scp: " := by decide
    have hColon : 10 ∉ asciiBytes ": " := by decide
    simp only [List.mem_append, hScp, hColon, false_or,
      or_false]

/-
  A status record is read, with or without an error, and
  nothing of it is left if and only if its text fits.
-/
theorem response_run
    (sys : ScpSystem)
    (name : FilePath)
    (failure : Option Errno)
    {rest : List UInt8}
    {s : ScpState}
    (hInput : s.input = statusRecord sys name failure ++ rest) :
    ∃ ok left errs,
      response s =
        ⟨[], .ok (ok, { s with
          input := left
          errs := errs })⟩ ∧
      s.errs ≤ errs ∧
      (left = rest ↔
        ∀ errno, failure = some errno →
          StatusFits name (sys.strerror errno)) := by
  cases failure with
  | none =>
      refine ⟨true, rest, s.errs,
        bind_of_ok (readByte_run hInput) rfl, Nat.le_refl _, ?_⟩
      exact ⟨fun _ => nofun, fun _ => rfl⟩
  | some errno =>
      rcases statusRecord_some sys name errno with
        ⟨text, hRecord, hLength, hLines⟩
      have hText : s.input = 1 :: (text ++ 10 :: rest) := by
        rw [hInput, hRecord, List.cons_append,
          List.append_assoc, List.singleton_append]
      by_cases hFits : 10 ∉ text ∧ text.length < 2047
      · have hRest := responseText_run
          (s := { s with input := text ++ 10 :: rest })
          rfl hFits.1 hFits.2
        refine ⟨false, rest, s.errs + 1,
          bind_of_ok (readByte_run hText)
            (bind_of_ok hRest rfl), Nat.le_succ _, ?_⟩
        refine ⟨?_, fun _ => rfl⟩
        intro _ errno' hErrno
        cases hErrno
        refine ⟨fun hMem => hFits.1 (hLines.mpr hMem), ?_⟩
        have hRoom := hFits.2
        omega
      · have hLong : 10 ∈ text ∨ 2047 ≤ text.length := by
          by_cases hMem : 10 ∈ text
          · exact Or.inl hMem
          · refine Or.inr (Nat.le_of_not_lt fun hRoom => ?_)
            exact hFits ⟨hMem, hRoom⟩
        rcases responseText_run_rest
            (s := { s with input := text ++ 10 :: rest })
            rfl hLong with
          ⟨left, hRest, hLeft⟩
        refine ⟨false, left, s.errs + 1,
          bind_of_ok (readByte_run hText)
            (bind_of_ok hRest rfl), Nat.le_succ _, ?_⟩
        constructor
        · rintro rfl
          exact absurd hLeft (Nat.lt_irrefl _)
        · intro hAll
          rcases hAll errno rfl with ⟨hLine, hRoom⟩
          refine absurd ⟨fun hMem => ?_, ?_⟩ hFits
          · exact hLine (hLines.mp hMem)
          · omega

end Scp

end Ssh1
