import Ssh1.Scp.Receiving

/-
  A file on its way from a source to a sink.

  The source announces a file and sends its bytes. The sink
  takes as many, and the status record, if its buffer is
  filled up exactly.

  Main declarations:
    * `Scp.sourceFile_run`
    * `Scp.receiveFile_run`, `Scp.receiveFile_overflow`
    * `Scp.TransferInStep`
    * `Scp.transferInStep_iff`
-/

------------------------------------------------------------
-- The Records of the Source
------------------------------------------------------------

namespace Ssh1

namespace Scp

open Recorded

variable (sys : ScpSystem)

/- The peer agrees. -/
theorem response_zero
    {rest : List UInt8}
    {s : ScpState}
    (hInput : s.input = 0 :: rest) :
    response s = ⟨[], .ok (true, { s with input := rest })⟩ :=
  bind_of_ok (readByte_run hInput) rfl

/-
  What the source sends for a file from its record on, if the
  peer agrees: the record, as many bytes as it announces, and
  one status record.
-/
theorem sourceRecord_run
    (name : FilePath)
    (stb : FileStat)
    {stBlksize : Nat}
    {s : ScpState}
    (hBlksize : sys.blksize s.calls = .ok stBlksize)
    (peer : ScpSystem)
    (np : FilePath)
    (failure : Option Errno)
    {rest : List UInt8}
    (hInput :
      s.input = 0 :: (statusRecord peer np failure ++ rest)) :
    ∃ events data s',
      sourceRecord sys name stb s =
        ⟨events, .ok ((), s')⟩ ∧
      sentBytes events =
        fileRecord name stb ++
          (data ++ statusRecord sys name
            (localFailure sys (s.calls + 1)
              (pieces
                (max s.buffer.length
                  (wholeBlocks stBlksize 2048))
                stb.size))) ∧
      data.length = stb.size := by
  rcases @sendFile_run sys name stb.size stBlksize
      { s with input := statusRecord peer np failure ++ rest }
      hBlksize with
    ⟨events, data, mid, hSend, hSent, hLength, hKept⟩
  -- The peer's answer to the file is read at the end.
  rcases response_run peer np failure hKept with
    ⟨ok, left, errs, hAnswer, -, -⟩
  refine ⟨[.send (fileRecord name stb)] ++ ([] ++ (events ++
      ([] ++ []))), data, { mid with
        input := left
        errs := errs }, ?_, ?_, hLength⟩
  · refine bind_of_ok (record_apply _ _)
      (bind_of_ok (response_zero hInput) ?_)
    rw [if_pos rfl]
    refine bind_of_ok hSend ?_
    rw [if_pos rfl]
    exact bind_of_ok hAnswer rfl
  · rw [sentBytes_append, sentBytes_send, List.nil_append,
      List.append_nil, List.append_nil, hSent]

/- With the times of the file first, if these are kept. -/
theorem sourceFile_run
    (pflag : Bool)
    (name : FilePath)
    (stb : FileStat)
    {stBlksize : Nat}
    {s : ScpState}
    (hBlksize : sys.blksize s.calls = .ok stBlksize)
    (peer : ScpSystem)
    (np : FilePath)
    (failure : Option Errno)
    {rest : List UInt8}
    (hInput :
      s.input =
        (if pflag then [0] else []) ++
          0 :: (statusRecord peer np failure ++ rest)) :
    ∃ events data s',
      sourceFile sys pflag name stb s =
        ⟨events, .ok ((), s')⟩ ∧
      sentBytes events =
        (if pflag then timesRecord stb else []) ++
          (fileRecord name stb ++
            (data ++ statusRecord sys name
              (localFailure sys (s.calls + 1)
                (pieces
                  (max s.buffer.length
                    (wholeBlocks stBlksize 2048))
                  stb.size)))) ∧
      data.length = stb.size := by
  cases pflag with
  | false =>
      exact sourceRecord_run sys name stb hBlksize peer np
        failure hInput
  | true =>
      rcases @sourceRecord_run sys name stb stBlksize
          { s with
            input :=
              0 :: (statusRecord peer np failure ++ rest) }
          hBlksize peer np failure rest rfl with
        ⟨events, data, s', hRun, hSent, hLength⟩
      refine ⟨[.send (timesRecord stb)] ++ ([] ++ events),
        data, s', ?_, ?_, hLength⟩
      · refine bind_of_ok (record_apply _ _)
          (bind_of_ok (response_zero hInput) ?_)
        rw [if_pos rfl]
        exact hRun
      · rw [sentBytes_append, sentBytes_send, List.nil_append,
          hSent]
        rfl

end Scp

end Ssh1

------------------------------------------------------------
-- The Sink
------------------------------------------------------------

namespace Ssh1

namespace Scp

open Recorded

variable (sys : ScpSystem)
variable (options : ScpOptions)
variable (np : FilePath)

/- `ftruncate` leaves the input and the buffer. -/
theorem truncateFile_run
    (size : Nat)
    (file : TargetFile)
    (s : ScpState) :
    ∃ events calls errs file',
      truncateFile sys np size file s =
        ⟨events, .ok (file', { s with
          calls := calls
          errs := errs })⟩ ∧
      s.errs ≤ errs ∧
      (errs = s.errs →
        file'.wrerr = file.wrerr ∧
          file'.content = file.content.take size ++
            List.replicate (size - file.content.length) 0) := by
  have hAsk : ask sys.ftruncate s =
      ⟨[], .ok (sys.ftruncate s.calls,
        { s with calls := s.calls + 1 })⟩ :=
    rfl
  cases hAnswer : sys.ftruncate s.calls with
  | none =>
      rw [hAnswer] at hAsk
      exact ⟨[] ++ [], s.calls + 1, s.errs,
        { file with content := file.content.take size ++
            List.replicate (size - file.content.length) 0 },
        bind_of_ok hAsk rfl, Nat.le_refl _,
        fun _ => ⟨rfl, rfl⟩⟩
  | some errno =>
      rw [hAnswer] at hAsk
      refine ⟨[] ++ [.send (errorRecord (np ++
          asciiBytes ": truncate: " ++ sys.strerror errno))],
        s.calls + 1, s.errs + 1,
        { file with wrerr := .displayed },
        bind_of_ok hAsk rfl, Nat.le_succ _, ?_⟩
      intro hSame
      omega

/- So does `chmod`. -/
theorem setMode_run
    (found : Bool)
    (omode mode : UInt32)
    (s : ScpState) :
    ∃ events calls errs,
      setMode sys options np found omode mode s =
        ⟨events, .ok ((), { s with
          calls := calls
          errs := errs })⟩ ∧
      s.errs ≤ errs := by
  unfold setMode
  split
  · generalize (if options.pflag = true then omode
      else omode &&& ~~~options.mask) = omode'
    have hAct : fileAct sys (.chmod omode') np s =
        ⟨[.act (.chmod omode') np],
          .ok (sys.act s.calls (.chmod omode') np,
            { s with calls := s.calls + 1 })⟩ :=
      rfl
    cases hAnswer : sys.act s.calls (.chmod omode') np with
    | none =>
        rw [hAnswer] at hAct
        exact ⟨_, s.calls + 1, s.errs, bind_of_ok hAct rfl,
          Nat.le_refl _⟩
    | some errno =>
        rw [hAnswer] at hAct
        exact ⟨_, s.calls + 1, s.errs + 1,
          bind_of_ok hAct rfl, Nat.le_succ _⟩
  · exact ⟨[], s.calls, s.errs, rfl, Nat.le_refl _⟩

/- So does `utime`. -/
theorem setTimes_run
    (times : Times)
    (s : ScpState) :
    ∃ events ok calls errs,
      setTimes sys np times s =
        ⟨events, .ok (ok, { s with
          calls := calls
          errs := errs })⟩ ∧
      s.errs ≤ errs := by
  have hAct :
      fileAct sys (.utime times.modtime times.actime) np s =
        ⟨[.act (.utime times.modtime times.actime) np],
          .ok (sys.act s.calls
              (.utime times.modtime times.actime) np,
            { s with calls := s.calls + 1 })⟩ :=
    rfl
  cases hAnswer : sys.act s.calls
      (.utime times.modtime times.actime) np with
  | none =>
      rw [hAnswer] at hAct
      exact ⟨_, true, s.calls + 1, s.errs,
        bind_of_ok hAct rfl, Nat.le_refl _⟩
  | some errno =>
      rw [hAnswer] at hAct
      exact ⟨_, false, s.calls + 1, s.errs + 1,
        bind_of_ok hAct rfl, Nat.le_succ _⟩

/- An error of a write is reported. -/
theorem answerFile_run
    (times : Option Times)
    (wrerr : WriteError)
    (s : ScpState) :
    ∃ events times' calls errs,
      answerFile sys np times wrerr s =
        ⟨events, .ok (times', { s with
          calls := calls
          errs := errs })⟩ ∧
      s.errs ≤ errs ∧
      (errs = s.errs → ∀ errno, wrerr ≠ .yes errno) := by
  cases wrerr with
  | displayed =>
      exact ⟨[], times, s.calls, s.errs, rfl, Nat.le_refl _,
        fun _ => nofun⟩
  | yes errno =>
      refine ⟨_, times, s.calls, s.errs + 1, rfl,
        Nat.le_succ _, ?_⟩
      intro hSame
      omega
  | no =>
      cases times with
      | none =>
          exact ⟨_, none, s.calls, s.errs, rfl, Nat.le_refl _,
            fun _ => nofun⟩
      | some t =>
          rcases setTimes_run sys np t s with
            ⟨events, ok, calls, errs, hRun, hErrs⟩
          cases ok with
          | true =>
              exact ⟨_, none, calls, errs,
                bind_of_ok hRun rfl, hErrs, fun _ => nofun⟩
          | false =>
              exact ⟨_, none, calls, errs,
                bind_of_ok hRun rfl, hErrs, fun _ => nofun⟩

variable {np : FilePath}
variable {found : Bool}
variable {omode : UInt32}
variable {size stBlksize : Nat}
variable {times : Option Times}
variable {s : ScpState}

/- The start of a file that can be opened. -/
theorem sinkFile_open
    (found : Bool)
    (size : Nat)
    (times : Option Times)
    (hOpen : sys.act s.calls (.openWrite (omode ||| ownerWrite))
      np = none)
    (hBlksize : sys.blksize (s.calls + 2) = .ok stBlksize) :
    ∃ buffer,
      buffer.length =
        max s.buffer.length (wholeBlocks stBlksize 4096) ∧
      ∀ run,
        receiveFile sys options np found omode
            (omode ||| ownerWrite) size times
            (sys.content (s.calls + 1) np)
            { s with calls := s.calls + 3, buffer := buffer } =
          run →
        sinkFile sys options np found omode size times s =
          ⟨[.act (.openWrite (omode ||| ownerWrite)) np,
              .send [0]] ++ run.events, run.result⟩ := by
  have hAct :
      fileAct sys (.openWrite (omode ||| ownerWrite)) np s =
        ⟨[.act (.openWrite (omode ||| ownerWrite)) np],
          .ok (none, { s with calls := s.calls + 1 })⟩ := by
    rw [← hOpen]
    rfl
  have hContent :
      ask (fun calls => sys.content calls np)
          { s with calls := s.calls + 1 } =
        ⟨[], .ok (sys.content (s.calls + 1) np,
          { s with calls := s.calls + 2 })⟩ :=
    rfl
  rcases allocbuf_run 4096
      (s := { s with calls := s.calls + 2 }) hBlksize with
    ⟨buffer, hAlloc, hLength⟩
  refine ⟨buffer, hLength, ?_⟩
  intro run hRun
  exact (bind_of_ok hAct (bind_of_ok hContent
    (bind_of_ok (record_apply _ _)
      (bind_of_ok hAlloc hRun)))).trans rfl

/- A buffer of whole blocks has room for each piece. -/
theorem hasRoom_start
    {cnt left : Nat}
    (hCnt : 4096 ≤ cnt)
    (hRoom : 4096 ∣ cnt ∨ left ≤ cnt) :
    HasRoom cnt 0 left := by
  rcases hRoom with hWhole | hAll
  · exact Or.inl ⟨hWhole, Nat.dvd_zero _, by omega⟩
  · exact Or.inr (by omega)

theorem wrote_start (old : List UInt8) :
    Wrote old [] ⟨old, 0, .no⟩ :=
  ⟨nofun, fun _ => ⟨rfl, rfl⟩⟩

/- A file that the buffer is good for, up to its answer. -/
theorem receiveFile_run
    (np : FilePath)
    (found : Bool)
    (omode mode : UInt32)
    (times : Option Times)
    (old : List UInt8)
    (src : ScpSystem)
    (name : FilePath)
    (failure : Option Errno)
    {data rest : List UInt8}
    (hInput :
      s.input =
        data ++ (statusRecord src name failure ++ rest))
    (hCnt : 4096 ≤ s.buffer.length)
    (hRoom :
      4096 ∣ s.buffer.length ∨ data.length ≤ s.buffer.length) :
    ∃ events times' s',
      receiveFile sys options np found omode mode data.length
          times old s =
        ⟨events, .ok (times', s')⟩ ∧
      (s'.input = rest ↔
        ∀ errno, failure = some errno →
          StatusFits name (src.strerror errno)) ∧
      (s'.errs = s.errs → .stored np data ∈ events) := by
  rcases receive_run sys (Nat.lt_succ_self data.length) hInput
      (hasRoom_start hCnt hRoom) (wrote_start old) with
    ⟨calls₁, buffer₁, file₁, hReceive, hWrote⟩
  rw [List.take_zero, List.append_nil, List.nil_append]
    at hWrote
  rcases truncateFile_run sys np data.length file₁ _ with
    ⟨events₂, calls₂, errs₂, file₂, hTruncate, hErrs₂, hFile₂⟩
  rcases setMode_run sys options np found omode mode _ with
    ⟨events₃, calls₃, errs₃, hMode, hErrs₃⟩
  rcases response_run src name failure
      (s := { s with
        input := statusRecord src name failure ++ rest
        calls := calls₃
        errs := errs₃
        buffer := buffer₁ })
      rfl with
    ⟨ok, left, errs₄, hResponse, hErrs₄, hLeft⟩
  rcases answerFile_run sys np times file₂.wrerr _ with
    ⟨events₅, times', calls₅, errs₅, hAnswer, hErrs₅, hReported⟩
  refine ⟨_, times', _,
    bind_of_ok hReceive (bind_of_ok hTruncate
      (bind_of_ok hMode (bind_of_ok (record_apply _ _)
        (bind_of_ok hResponse hAnswer)))), hLeft, ?_⟩
  intro hSame
  have hSame₂ : errs₂ = s.errs := by
    have hLe : s.errs ≤ errs₂ := hErrs₂
    have hLe₃ : errs₂ ≤ errs₃ := hErrs₃
    have hLe₄ : errs₃ ≤ errs₄ := hErrs₄
    have hLe₅ : errs₄ ≤ errs₅ := hErrs₅
    have hEq : errs₅ = s.errs := hSame
    omega
  have hSame₅ : errs₅ = errs₄ := by
    have hLe₃ : errs₂ ≤ errs₃ := hErrs₃
    have hLe₄ : errs₃ ≤ errs₄ := hErrs₄
    have hLe₅ : errs₄ ≤ errs₅ := hErrs₅
    have hEq : errs₅ = s.errs := hSame
    omega
  rcases hFile₂ hSame₂ with ⟨hWrerr, hContent⟩
  have hGood : file₁.wrerr = .no := by
    cases hCase : file₁.wrerr with
    | no => rfl
    | yes errno =>
        exact absurd (hWrerr.trans hCase)
          (hReported hSame₅ errno)
    | displayed => exact absurd hCase hWrote.hidden
  have hStored : file₂.content = data := by
    rw [hContent, (hWrote.content hGood).1, List.take_left,
      List.length_append, Nat.sub_eq_zero_of_le (by omega)]
    exact List.append_nil data
  rw [← hStored]
  simp

/- A buffer that is not good for a file is left behind. -/
theorem receiveFile_overflow
    {mode : UInt32}
    {data rest old : List UInt8}
    (hInput : s.input = data ++ rest)
    (hOdd : ¬ 4096 ∣ s.buffer.length)
    (hLarge : s.buffer.length < data.length) :
    receiveFile sys options np found omode mode data.length
        times old s =
      ⟨[], .error .outOfBounds⟩ :=
  bind_of_error (receive_overflow (Nat.lt_succ_self _) hInput
    hOdd (Nat.dvd_zero _) (Nat.zero_le _) (by omega))

end Scp

end Ssh1

------------------------------------------------------------
-- In Step
------------------------------------------------------------

namespace Ssh1

namespace Scp

open Recorded

/- What a source sends after the bytes of a file. -/
def IsStatusRecord (status : List UInt8) : Prop :=
  status = [0] ∨ ∃ text, status = errorRecord text

/- The status is a zero byte or an error text. -/
theorem isStatusRecord_statusRecord
    (sys : ScpSystem)
    (name : FilePath)
    (failure : Option Errno) :
    IsStatusRecord (statusRecord sys name failure) := by
  cases failure with
  | none => exact Or.inl rfl
  | some errno => exact Or.inr ⟨_, rfl⟩

/- A sink that was told of a file, and how it goes on. -/
structure Receiver where
  sys : ScpSystem
  options : ScpOptions
  np : FilePath
  found : Bool
  omode : UInt32
  times : Option Times
  state : ScpState

/- The sink on what the peer sends from now on. -/
def Receiver.run
    (receiver : Receiver)
    (size : Nat)
    (input : List UInt8) :
    Run ScpEvent ScpEnd ScpState (Option Times) :=
  sinkFile receiver.sys receiver.options receiver.np
    receiver.found receiver.omode size receiver.times
    { receiver.state with input := input }

/- A source at the bytes of a file that it has announced. -/
structure Sender where
  sys : ScpSystem
  name : FilePath
  state : ScpState

/-
  The source sends the bytes that were announced and a status
  record. The sink takes both, whatever follows, and the file
  has these bytes where no error is reported.
-/
def TransferInStep
    (sender : Sender)
    (receiver : Receiver)
    (size : Nat) : Prop :=
  ∃ events data status sent,
    sendFile sender.sys sender.name size sender.state =
      ⟨events, .ok (true, sent)⟩ ∧
    sentBytes events = data ++ status ∧
    data.length = size ∧
    IsStatusRecord status ∧
    ∀ rest, ∃ events' times received,
      receiver.run size (data ++ (status ++ rest)) =
        ⟨events', .ok (times, received)⟩ ∧
      received.input = rest ∧
      (received.errs = receiver.state.errs →
        .stored receiver.np data ∈ events')

/- The buffer of a sender, for blocks of the local file. -/
def Sender.cnt
    (sender : Sender)
    (stBlksize : Nat) : Nat :=
  max sender.state.buffer.length (wholeBlocks stBlksize 2048)

/- The size of the buffer after `allocbuf`. -/
def Receiver.cnt
    (receiver : Receiver)
    (stBlksize : Nat) : Nat :=
  max receiver.state.buffer.length
    (wholeBlocks stBlksize 4096)

/-
  The receiver fills up its buffer exactly, or has room for
  the whole file.
-/
def BufferFits
    (receiver : Receiver)
    (stBlksize size : Nat) : Prop :=
  4096 ∣ receiver.cnt stBlksize ∨
    size ≤ receiver.cnt stBlksize

/- What is told of an error of the local file fits. -/
def ErrorFits
    (sender : Sender)
    (stBlksize size : Nat) : Prop :=
  ∀ errno,
    localFailure sender.sys (sender.state.calls + 1)
        (pieces (sender.cnt stBlksize) size) = some errno →
      StatusFits sender.name (sender.sys.strerror errno)

/- A sender that can ask for the blocks of its file. -/
structure Sender.Ready
    (sender : Sender)
    (stBlksize : Nat) : Prop where
  blksize :
    sender.sys.blksize sender.state.calls = .ok stBlksize
  -- the size of a buffer is an `int`
  fitsInt : stBlksize < 2 ^ 31

/- A receiver with a file that can be opened. -/
structure Receiver.Ready
    (receiver : Receiver)
    (stBlksize : Nat) : Prop where
  opens :
    receiver.sys.act receiver.state.calls
        (.openWrite (receiver.omode ||| ownerWrite))
        receiver.np =
      none
  blksize :
    receiver.sys.blksize (receiver.state.calls + 2) =
      .ok stBlksize
  fitsInt : stBlksize < 2 ^ 31

/- The receiver takes the file and the status. -/
theorem Receiver.run_fits
    {receiver : Receiver}
    {stBlksize : Nat}
    (hReady : receiver.Ready stBlksize)
    (src : ScpSystem)
    (name : FilePath)
    (failure : Option Errno)
    {data : List UInt8}
    (hFits : BufferFits receiver stBlksize data.length)
    (rest : List UInt8) :
    ∃ events times received,
      receiver.run data.length
          (data ++ (statusRecord src name failure ++ rest)) =
        ⟨events, .ok (times, received)⟩ ∧
      (received.input = rest ↔
        ∀ errno, failure = some errno →
          StatusFits name (src.strerror errno)) ∧
      (received.errs = receiver.state.errs →
        .stored receiver.np data ∈ events) := by
  have hBlocks := le_wholeBlocks stBlksize 4096
  rcases sinkFile_open receiver.sys receiver.options
      (s := { receiver.state with
        input :=
          data ++ (statusRecord src name failure ++ rest) })
      receiver.found data.length receiver.times
      hReady.opens hReady.blksize with
    ⟨buffer, hLength, hOpen⟩
  rcases receiveFile_run receiver.sys receiver.options
      receiver.np receiver.found receiver.omode
      (receiver.omode ||| ownerWrite) receiver.times
      (receiver.sys.content
        (receiver.state.calls + 1) receiver.np)
      (s := { receiver.state with
        input :=
          data ++ (statusRecord src name failure ++ rest)
        calls := receiver.state.calls + 3
        buffer := buffer })
      src name failure rfl
      (show 4096 ≤ buffer.length by
        rw [hLength]
        omega)
      (show 4096 ∣ buffer.length ∨
          data.length ≤ buffer.length by
        rw [hLength]
        exact hFits) with
    ⟨events, times', s', hRun, hInput, hStored⟩
  refine ⟨_, times', s', hOpen _ hRun, hInput, ?_⟩
  intro hErrs
  exact List.mem_append_right _ (hStored hErrs)

/- The receiver writes out of its buffer. -/
theorem Receiver.run_overflow
    {receiver : Receiver}
    {stBlksize : Nat}
    (hReady : receiver.Ready stBlksize)
    {data rest : List UInt8}
    (hLarge : ¬ BufferFits receiver stBlksize data.length) :
    ∃ events,
      receiver.run data.length (data ++ rest) =
        ⟨events, .error .outOfBounds⟩ := by
  rcases not_or.mp hLarge with ⟨hOdd, hLess⟩
  rcases sinkFile_open receiver.sys receiver.options
      (s := { receiver.state with input := data ++ rest })
      receiver.found data.length receiver.times
      hReady.opens hReady.blksize with
    ⟨buffer, hLength, hOpen⟩
  have hCnt : buffer.length = receiver.cnt stBlksize := hLength
  refine ⟨_, hOpen _
    (receiveFile_overflow receiver.sys receiver.options
      (s := { receiver.state with
        input := data ++ rest
        calls := receiver.state.calls + 3
        buffer := buffer })
      rfl ?_ ?_)⟩
  · show ¬ 4096 ∣ buffer.length
    rw [hCnt]
    exact hOdd
  · show buffer.length < data.length
    omega

/-
  The sizes of new buffers are values of an `int`. Both ends
  are in step if and only if the receiver's buffer is good
  for the file and errors of the sender fit.
-/
theorem transferInStep_iff
    (sender : Sender)
    (receiver : Receiver)
    (size srcBlksize dstBlksize : Nat)
    (hSender : sender.Ready srcBlksize)
    (hReady : receiver.Ready dstBlksize) :
    allocSize 2048 srcBlksize < 2 ^ 31 ∧
      allocSize 4096 dstBlksize < 2 ^ 31 ∧
      (TransferInStep sender receiver size ↔
        BufferFits receiver dstBlksize size ∧
          ErrorFits sender srcBlksize size) := by
  refine ⟨allocSize_lt (by omega) hSender.fitsInt,
    allocSize_lt le_rfl hReady.fitsInt, ?_⟩
  rcases sendFile_run sender.name size hSender.blksize with
    ⟨events, data, sent, hSend, hSent, rfl, -⟩
  constructor
  · rintro ⟨events', data', status, sent', hSend', hSent',
      hData', -, hRun⟩
    rw [hSend] at hSend'
    cases hSend'
    rw [hSent] at hSent'
    rcases List.append_inj hSent' hData'.symm with
      ⟨rfl, rfl⟩
    have hFits : BufferFits receiver dstBlksize data.length := by
      by_contra hNot
      rcases Receiver.run_overflow hReady hNot with
        ⟨events₁, hOver⟩
      rcases hRun [] with ⟨events₂, times, received, hOk, -, -⟩
      rw [hOver] at hOk
      cases hOk
    refine ⟨hFits, ?_⟩
    rcases Receiver.run_fits hReady sender.sys sender.name
        (localFailure sender.sys (sender.state.calls + 1)
          (pieces (sender.cnt srcBlksize) data.length))
        hFits [] with
      ⟨events₁, times₁, received₁, hRun₁, hInput, -⟩
    rcases hRun [] with
      ⟨events₂, times₂, received₂, hRun₂, hRest, -⟩
    have hSame := hRun₁.symm.trans hRun₂
    cases hSame
    exact hInput.mp hRest
  · rintro ⟨hFits, hError⟩
    refine ⟨events, data, _, sent, hSend, hSent, rfl,
      isStatusRecord_statusRecord _ _ _, ?_⟩
    intro rest
    rcases Receiver.run_fits hReady sender.sys sender.name
        _ hFits rest with
      ⟨events', times, received, hRun, hInput, hStored⟩
    refine ⟨events', times, received, hRun, ?_, hStored⟩
    exact hInput.mpr hError

/- A sender and a receiver at their first file. -/
def firstSender : Sender where
  sys := willingSystem
  name := [102]
  state := ⟨[], 0, 0, []⟩

/- A receiver at its first file. -/
def firstReceiver (stBlksize : Nat) : Receiver where
  sys := { willingSystem with blksize _ := .ok stBlksize }
  options := plainOptions
  np := [102]
  found := false
  omode := 0o644
  times := none
  state := ⟨[], 0, 0, []⟩

/- A first file, of 10000 bytes. -/
theorem transferInStep_iff_first :
    firstSender.Ready 4096 ∧
      (firstReceiver 4096).Ready 4096 ∧
      allocSize 2048 4096 < 2 ^ 31 ∧
      allocSize 4096 4096 < 2 ^ 31 ∧
      (TransferInStep firstSender (firstReceiver 4096) 10000 ↔
        BufferFits (firstReceiver 4096) 4096 10000 ∧
          ErrorFits firstSender 4096 10000) :=
  ⟨⟨rfl, by decide⟩, ⟨rfl, rfl, by decide⟩,
    transferInStep_iff firstSender (firstReceiver 4096)
      10000 4096 4096 ⟨rfl, by decide⟩
      ⟨rfl, rfl, by decide⟩⟩

/- Blocks of 6144 bytes, and a file of 8192. -/
theorem transfer_not_inStep :
    ¬ TransferInStep firstSender (firstReceiver 6144)
      8192 := by
  rintro ⟨events, data, status, sent, -, -, hData, -, hRun⟩
  have hReady : (firstReceiver 6144).Ready 6144 :=
    ⟨rfl, rfl, by decide⟩
  have hLarge :
      ¬ BufferFits (firstReceiver 6144) 6144 data.length := by
    rw [hData]
    rintro (hWhole | hLess)
    · exact absurd hWhole (by decide)
    · exact absurd hLess (by decide)
  rcases hRun [] with ⟨events₁, times, received, hOk, -, -⟩
  rw [← hData] at hOk
  rcases Receiver.run_overflow hReady hLarge with
    ⟨events₂, hOver⟩
  rw [hOver] at hOk
  cases hOk

end Scp

end Ssh1
