import Ssh1.Lib.MonitoredRun
import Ssh1.Server.Indifference

/-
  The descriptors of the program in a session.

  A monitor knows which descriptors were closed. The loop
  keeps its own variables in step with it, unless it closes
  the input of a program that is gone while the output has
  the same descriptor.

  Main declarations:
    * `descriptorMonitor`
    * `InStep`
    * `Aside.watched`
-/

------------------------------------------------------------
-- Discipline
------------------------------------------------------------

namespace Ssh1

/- A call for the descriptor. -/
def ServerEvent.Uses
    (fd : Nat) : ServerEvent → Prop
| selected fds => fd ∈ fds
| read _ fd' _ => fd' = fd
| wrote fd' _ => fd' = fd
| writeFailed fd' => fd' = fd
| shutDown fd' => fd' = fd
| closed fd' => fd' = fd
| _ => False

/- The descriptors so far, and the end of the output. -/
structure Closings where
  closed : List Nat
  ended : Bool

/- Nothing was closed, and there was no end. -/
def Closings.none : Closings where
  closed := []
  ended := false

/-
  What is known after an event. Reading gives no data at the
  end of the output and where the call fails, as when the
  other side of a pty is gone: both count as the end, which
  is what the test `len <= 0` of the loop says.
-/
def Closings.next
    (k : Closings) : ServerEvent → Closings
| .closed fd => { k with closed := fd :: k.closed }
| .read .stdout _ [] => { k with ended := true }
| _ => k

/-
  Closed descriptors are not used again. The given output is
  closed only after its end was read.
-/
def descriptorMonitor
    (output : Option Nat) : Monitor ServerEvent Closings where
  allows k event :=
    (∀ fd ∈ k.closed, ¬ event.Uses fd) ∧
      ∀ fd, event = .closed fd → output = some fd →
        k.ended = true
  next := Closings.next

/- The variables of the loop agree with the monitor. -/
structure InStep
    (fdout : Nat)
    (state : LoopState)
    (k : Closings) : Prop where
  stdinOpen : ∀ fd, state.fdin = some fd → fd ∉ k.closed
  outputOpen : ∀ stream fd,
    state.fd stream = some fd → fd ∉ k.closed
  selectable : ∀ stream,
    state.eof stream = false → ∃ fd, state.fd stream = some fd
  stdoutGiven : ∀ fd, state.fdout = some fd → fd = fdout
  stdinGiven : ∀ fd,
    state.fdin = some fd → state.fdout ≠ some fd → fd ≠ fdout
  stderrApart : ∀ fd,
    state.fderr = some fd → fd ≠ fdout ∧ state.fdin ≠ some fd
  ended : state.fdoutEof = true → k.ended = true

/- Nothing with a descriptor of the program. -/
def ServerEvent.IsAside (event : ServerEvent) : Prop :=
  ∀ fd, ¬ event.Uses fd

/- The variables about descriptors stay as they are. -/
structure SameDescriptors
    (state : LoopState)
    (_ : List ServerEvent)
    (state' : LoopState) : Prop where
  fdin : state'.fdin = state.fdin
  fd : ∀ stream, state'.fd stream = state.fd stream
  eof : ∀ stream, state'.eof stream = state.eof stream

end Ssh1

------------------------------------------------------------
-- Work Aside
------------------------------------------------------------

namespace Ssh1

open Recorded

theorem sameDescriptors_refl
    (state : LoopState)
    (events : List ServerEvent) :
    SameDescriptors state events state :=
  ⟨rfl, fun _ => rfl, fun _ => rfl⟩

/- Two steps that keep the descriptors keep them together. -/
theorem sameDescriptors_composes :
    Composes SameDescriptors where
  refl state := sameDescriptors_refl state []
  trans hFirst hSecond :=
    ⟨hSecond.fdin.trans hFirst.fdin,
      fun stream =>
        (hSecond.fd stream).trans (hFirst.fd stream),
      fun stream =>
        (hSecond.eof stream).trans (hFirst.eof stream)⟩

/- A buffer is no descriptor. -/
theorem setBuffer_sameDescriptors
    (stream : OutputStream)
    (buffer : Buffer)
    (state : LoopState) :
    SameDescriptors state []
      (state.setBuffer stream buffer) := by
  cases stream with
  | stdout =>
      refine ⟨rfl, fun stream' => ?_, fun stream' => ?_⟩
      · cases stream' <;> rfl
      · cases stream' <;> rfl
  | stderr =>
      refine ⟨rfl, fun stream' => ?_, fun stream' => ?_⟩
      · cases stream' <;> rfl
      · cases stream' <;> rfl

/- The variables about descriptors are few. -/
theorem sameDescriptors_of_eq
    {state state' : LoopState}
    {events : List ServerEvent}
    (hFdin : state'.fdin = state.fdin)
    (hFdout : state'.fdout = state.fdout)
    (hFderr : state'.fderr = state.fderr)
    (hFdoutEof : state'.fdoutEof = state.fdoutEof)
    (hFderrEof : state'.fderrEof = state.fderrEof) :
    SameDescriptors state events state' := by
  refine ⟨hFdin, fun stream => ?_, fun stream => ?_⟩
  · cases stream with
    | stdout => exact hFdout
    | stderr => exact hFderr
  · cases stream with
    | stdout => exact hFdoutEof
    | stderr => exact hFderrEof

/- A computation without the descriptors of the program. -/
abbrev Aside
    {α : Type}
    (m : Serving LoopState α) : Prop :=
  Kept ServerEvent.IsAside SameDescriptors m

namespace Serving

variable {α β : Type}

/- A value touches no descriptor. -/
theorem aside_pure
    (a : α) :
    Aside (pure a) :=
  Kept.pure sameDescriptors_composes a

theorem aside_get : Aside Recorded.get :=
  Kept.get sameDescriptors_composes

/- An event that is none of a descriptor's. -/
theorem aside_record
    {event : ServerEvent}
    (hAside : event.IsAside) :
    Aside (Recorded.record event) :=
  Kept.record hAside fun state =>
    sameDescriptors_refl state [event]

/- A change that keeps all that the descriptors go by. -/
theorem aside_modify
    {f : LoopState → LoopState}
    (hSame : ∀ state, SameDescriptors state [] (f state)) :
    Aside (Recorded.modify f) :=
  Kept.modify hSame

/- Two pieces aside are aside together. -/
theorem aside_bind
    {m : Serving LoopState α}
    {f : α → Serving LoopState β}
    (hFirst : Aside m)
    (hRest : ∀ a, Aside (f a)) :
    Aside (m >>= f) :=
  Kept.bind sameDescriptors_composes hFirst hRest

/- Packets go over the connection, not over a descriptor. -/
theorem aside_packetSend
    (packet : ServerPacket) :
    Aside (packetSend packet) :=
  aside_record fun _ => id

/- All that is shared with the other relations. -/
theorem aside_indifferent :
    Indifferent ServerEvent.IsAside SameDescriptors where
  composes := sameDescriptors_composes
  sent _ _ :=
    ⟨fun _ => id, fun state => sameDescriptors_refl state _⟩
  reachedOut _ _ :=
    ⟨fun _ => id, fun state => sameDescriptors_refl state _⟩
  table _ _ := sameDescriptors_of_eq rfl rfl rfl rfl rfl
  exits _ := sameDescriptors_of_eq rfl rfl rfl rfl rfl

/- A failing value ends the run without a descriptor. -/
theorem aside_ofOutcome
    (x : Outcome α) :
    Aside (ofOutcome x) :=
  aside_indifferent.ofOutcome x

theorem aside_changeTable
    (f : ChannelTable → Outcome ChannelTable) :
    Aside (changeTable f) :=
  aside_indifferent.changeTable f

/- Input for the program goes to a buffer first. -/
theorem aside_stdinData
    (payload : Buffer) :
    Aside (stdinData payload) := by
  refine aside_bind aside_get fun state => ?_
  cases state.fdin with
  | none => exact aside_pure ()
  | some fd =>
      refine aside_bind (aside_ofOutcome _) fun read => ?_
      exact aside_modify fun state =>
        sameDescriptors_of_eq rfl rfl rfl rfl rfl

/- None of the packets touches a descriptor. -/
theorem aside_processBufferedInputPackets
    (conf : ServerConf)
    (polled : List Polled) :
    Aside (processBufferedInputPackets conf polled) := by
  refine aside_indifferent.processBufferedInputPackets conf
    polled fun packet => ?_
  refine aside_indifferent.processPacket conf packet
    (aside_stdinData packet.payload) ?_
  exact aside_modify fun state =>
    sameDescriptors_of_eq rfl rfl rfl rfl rfl

theorem aside_sendData
    (conf : ChannelConf)
    (type : UInt8)
    (data : List UInt8) :
    Aside (sendData conf type data) := by
  unfold sendData
  simp only []
  split
  · exact Kept.stop _
  · exact aside_packetSend _

/- Output is sent from a buffer. -/
theorem aside_makePackets
    (conf : ChannelConf)
    (stream : OutputStream)
    (room : Nat) :
    Aside (makePackets conf stream room) := by
  induction room with
  | zero => exact aside_pure ()
  | succ room ih =>
      refine aside_bind aside_get fun state => ?_
      simp only []
      split
      · refine aside_bind (aside_sendData _ _ _) fun _ => ?_
        refine aside_bind (aside_ofOutcome _) fun rest => ?_
        exact aside_bind
          (aside_modify
            (setBuffer_sameDescriptors stream rest))
          fun _ => ih
      · exact aside_pure ()

theorem aside_makePacketsFromStdoutData
    (conf : ChannelConf)
    (room : Nat) :
    Aside (makePacketsFromStdoutData conf room) := by
  have hPrevious :
      Aside (Recorded.modify fun state =>
        { state with
          previousStdoutBufferBytes :=
            state.stdoutBuffer.length }) :=
    aside_modify fun state =>
      sameDescriptors_of_eq rfl rfl rfl rfl rfl
  refine aside_bind aside_get fun state => ?_
  simp only []
  split
  · exact aside_bind (aside_pure ()) fun _ => hPrevious
  · exact aside_bind (aside_makePackets _ _ _)
      fun _ => hPrevious

/- So it is when the loop has ended. -/
theorem aside_drainOutput
    (conf : ChannelConf) :
    Aside (drainOutput conf) := by
  have hDrain (stream : OutputStream) :
      Aside (drainBuffer conf stream) := by
    refine aside_bind aside_get fun state => ?_
    split
    · exact aside_sendData _ _ _
    · exact aside_pure ()
  exact aside_bind (hDrain .stdout) fun _ => hDrain .stderr

/- The handler sets flags only. -/
theorem aside_sigchldHandler
    (arrives : Bool) :
    Aside (sigchldHandler arrives) :=
  aside_indifferent.sigchldHandler arrives

theorem aside_readClient
    (read : ClientRead) :
    Aside (readClient read) :=
  aside_indifferent.readClient read

theorem aside_exitStatus
    (input : QuitInput) :
    Aside (exitStatus input) :=
  aside_indifferent.exitStatus input

end Serving

end Ssh1

------------------------------------------------------------
-- Closing
------------------------------------------------------------

namespace Ssh1

open Recorded

variable {output : Option Nat}
variable {fdout : Nat}

/- The monitor lets such an event pass. -/
theorem isAside_passed
    (output : Option Nat)
    (k : Closings)
    (event : ServerEvent)
    (hAside : event.IsAside) :
    (descriptorMonitor output).allows k event ∧
      (descriptorMonitor output).next k event = k := by
  cases event with
  | closed fd => exact (hAside fd rfl).elim
  | read stream fd data => exact (hAside fd rfl).elim
  | sent packet => exact ⟨⟨fun fd _ => id, nofun⟩, rfl⟩
  | allocatedPty => exact ⟨⟨fun fd _ => id, nofun⟩, rfl⟩
  | listenedX11 => exact ⟨⟨fun fd _ => id, nofun⟩, rfl⟩
  | listenedAgent => exact ⟨⟨fun fd _ => id, nofun⟩, rfl⟩
  | listened port => exact ⟨⟨fun fd _ => id, nofun⟩, rfl⟩
  | reachedOut host port =>
      exact ⟨⟨fun fd _ => id, nofun⟩, rfl⟩
  | noted text => exact ⟨⟨fun fd _ => id, nofun⟩, rfl⟩
  | selected fds =>
      exact ⟨⟨fun fd _ => hAside fd, nofun⟩, rfl⟩
  | wrote fd data => exact (hAside fd rfl).elim
  | writeFailed fd => exact (hAside fd rfl).elim
  | shutDown fd => exact (hAside fd rfl).elim
  | closedAfterExit =>
      exact ⟨⟨fun fd _ => id, nofun⟩, rfl⟩

/- A descriptor is closed once, and the output at its end. -/
theorem allows_closed
    {k : Closings}
    {fd : Nat}
    (hOpen : fd ∉ k.closed)
    (hEnded : output = some fd → k.ended = true) :
    (descriptorMonitor output).allows k (.closed fd) := by
  constructor
  · intro fd' hMem hUses
    change fd = fd' at hUses
    exact hOpen (hUses ▸ hMem)
  · intro fd' hClosed hGiven
    injection hClosed with hFd
    exact hEnded (hFd ▸ hGiven)

/- A descriptor that is not closed may be used. -/
theorem allows_use
    {k : Closings}
    {event : ServerEvent}
    (hOpen : ∀ fd, event.Uses fd → fd ∉ k.closed)
    (hNotClosed : ∀ fd, event ≠ .closed fd) :
    (descriptorMonitor output).allows k event := by
  constructor
  · exact fun fd hMem hUses => hOpen fd hUses hMem
  · exact fun fd hClosed => (hNotClosed fd hClosed).elim

/- Work aside keeps what the variables agree on. -/
theorem Aside.watched
    {α : Type}
    {P : LoopState → Closings → Prop}
    {m : Serving LoopState α}
    (hAside : Aside m)
    (hKeeps : ∀ state events state' k,
      P state k → SameDescriptors state events state' →
        P state' k) :
    Watched (descriptorMonitor output) P m fun _ => P :=
  Watched.of_always (isAside_passed output) hAside.always
    hAside.leads hKeeps

/- What keeps the descriptors keeps the invariant. -/
theorem InStep.same
    {state state' : LoopState}
    {events : List ServerEvent}
    {k : Closings}
    (hInStep : InStep fdout state k)
    (hSame : SameDescriptors state events state') :
    InStep fdout state' k := by
  have hFdout : state'.fdout = state.fdout := hSame.fd .stdout
  have hFderr : state'.fderr = state.fderr := hSame.fd .stderr
  have hEof : state'.fdoutEof = state.fdoutEof :=
    hSame.eof .stdout
  constructor
  · rw [hSame.fdin]
    exact hInStep.stdinOpen
  · intro stream
    rw [hSame.fd]
    exact hInStep.outputOpen stream
  · intro stream
    rw [hSame.fd, hSame.eof]
    exact hInStep.selectable stream
  · rw [hFdout]
    exact hInStep.stdoutGiven
  · rw [hSame.fdin, hFdout]
    exact hInStep.stdinGiven
  · rw [hSame.fdin, hFderr]
    exact hInStep.stderrApart
  · rw [hEof]
    exact hInStep.ended

/- A piece aside keeps the invariant. -/
theorem Aside.inStep
    {α : Type}
    {m : Serving LoopState α}
    (hAside : Aside m) :
    Watched (descriptorMonitor output) (InStep fdout) m
      fun _ => InStep fdout :=
  hAside.watched fun _ _ _ _ hInStep hSame =>
    hInStep.same hSame

/- The input is not the output. -/
def Unshared (state : LoopState) : Prop :=
  ∀ fd, state.fdin = some fd → state.fdout ≠ some fd

/- The descriptor of the input may be given up. -/
theorem InStep.dropStdin
    {state : LoopState}
    {k : Closings}
    (hInStep : InStep fdout state k) :
    InStep fdout { state with fdin := none } k where
  stdinOpen := nofun
  outputOpen := fun stream => by
    cases stream with
    | stdout => exact hInStep.outputOpen .stdout
    | stderr => exact hInStep.outputOpen .stderr
  selectable := fun stream => by
    cases stream with
    | stdout => exact hInStep.selectable .stdout
    | stderr => exact hInStep.selectable .stderr
  stdoutGiven := hInStep.stdoutGiven
  stdinGiven := nofun
  stderrApart := fun fd hFd =>
    ⟨(hInStep.stderrApart fd hFd).1, nofun⟩
  ended := hInStep.ended

/- The program's input is none of its outputs. -/
theorem InStep.stdin_apart
    {state : LoopState}
    {k : Closings}
    {fd : Nat}
    (hInStep : InStep fdout state k)
    (hFdin : state.fdin = some fd)
    (hUnshared : state.fdout ≠ some fd)
    (stream : OutputStream) :
    ({ state with fdin := none } : LoopState).fd stream ≠
      some fd := by
  cases stream with
  | stdout => exact hUnshared
  | stderr =>
      intro hFderr
      exact (hInStep.stderrApart fd hFderr).2 hFdin

/- So may that of an output whose end was seen. -/
theorem InStep.dropFd
    {state : LoopState}
    {k : Closings}
    {stream : OutputStream}
    (hInStep : InStep fdout state k)
    (hUnshared : Unshared state)
    (hEof : state.eof stream = true) :
    InStep fdout (state.dropFd stream) k := by
  cases stream with
  | stdout =>
      refine ⟨hInStep.stdinOpen, fun stream => ?_,
        fun stream => ?_, nofun, fun fd hFdin _ => ?_,
        hInStep.stderrApart, hInStep.ended⟩
      · cases stream with
        | stdout => exact nofun
        | stderr => exact hInStep.outputOpen .stderr
      · cases stream with
        | stdout =>
            intro hMore
            cases hMore.symm.trans hEof
        | stderr => exact hInStep.selectable .stderr
      · exact hInStep.stdinGiven fd hFdin
          (hUnshared fd hFdin)
  | stderr =>
      refine ⟨hInStep.stdinOpen, fun stream => ?_,
        fun stream => ?_, hInStep.stdoutGiven,
        hInStep.stdinGiven, nofun, hInStep.ended⟩
      · cases stream with
        | stdout => exact hInStep.outputOpen .stdout
        | stderr => exact nofun
      · cases stream with
        | stdout => exact hInStep.selectable .stdout
        | stderr =>
            intro hMore
            cases hMore.symm.trans hEof

/- A dropped descriptor is shared with no one. -/
theorem Unshared.dropFd
    {state : LoopState}
    (hUnshared : Unshared state)
    (stream : OutputStream) :
    Unshared (state.dropFd stream) := by
  cases stream with
  | stdout => exact fun fd _ => nofun
  | stderr => exact hUnshared

/- Then no other variable has its descriptor. -/
theorem InStep.apart_of_fd
    {state : LoopState}
    {k : Closings}
    {stream : OutputStream}
    {fd : Nat}
    (hInStep : InStep fdout state k)
    (hUnshared : Unshared state)
    (hFd : state.fd stream = some fd) :
    (state.dropFd stream).fdin ≠ some fd ∧
      ∀ other, (state.dropFd stream).fd other ≠ some fd := by
  cases stream with
  | stdout =>
      refine ⟨fun hFdin => hUnshared fd hFdin hFd, ?_⟩
      intro other
      cases other with
      | stdout => exact nofun
      | stderr =>
          intro hFderr
          exact (hInStep.stderrApart fd hFderr).1
            (hInStep.stdoutGiven fd hFd)
  | stderr =>
      refine ⟨(hInStep.stderrApart fd hFd).2, ?_⟩
      intro other
      cases other with
      | stdout =>
          intro hFdout
          exact (hInStep.stderrApart fd hFd).1
            (hInStep.stdoutGiven fd hFdout)
      | stderr => exact nofun

/- A descriptor that no variable names may be closed. -/
theorem InStep.close
    {state : LoopState}
    {k : Closings}
    {fd : Nat}
    (hInStep : InStep fdout state k)
    (hStdin : state.fdin ≠ some fd)
    (hOutput : ∀ stream, state.fd stream ≠ some fd) :
    InStep fdout state (k.next (.closed fd)) where
  stdinOpen := fun fd' hFd' hMem => by
    rcases List.mem_cons.mp hMem with rfl | hOld
    · exact hStdin hFd'
    · exact hInStep.stdinOpen fd' hFd' hOld
  outputOpen := fun stream fd' hFd' hMem => by
    rcases List.mem_cons.mp hMem with rfl | hOld
    · exact hOutput stream hFd'
    · exact hInStep.outputOpen stream fd' hFd' hOld
  selectable := hInStep.selectable
  stdoutGiven := hInStep.stdoutGiven
  stdinGiven := hInStep.stdinGiven
  stderrApart := hInStep.stderrApart
  ended := hInStep.ended

namespace Serving

/- The descriptor of the input alone is closed. -/
theorem watched_closed_stdin
    {read : LoopState}
    {fd : Nat}
    (hFdin : read.fdin = some fd)
    (hUnshared : read.fdout ≠ some fd) :
    Watched (descriptorMonitor (some fdout))
      (fun state k => state = read ∧ InStep fdout state k)
      (do
        record (.closed fd)
        modify fun state => { state with fdin := none } :
        Serving LoopState Unit)
      fun _ => InStep fdout := by
  have hClose :
      Watched (descriptorMonitor (some fdout))
        (fun state k => state = read ∧ InStep fdout state k)
        (record (.closed fd) : Serving LoopState Unit)
        fun _ state k =>
          InStep fdout { state with fdin := none } k := by
    refine Watched.record ?_ ?_
    · intro state k hPre
      rcases hPre with
        ⟨rfl, hInStep⟩
      refine allows_closed (hInStep.stdinOpen fd hFdin) ?_
      intro hGiven
      exact (hInStep.stdinGiven fd hFdin hUnshared
        (Option.some.inj hGiven).symm).elim
    · intro state k hPre
      rcases hPre with
        ⟨rfl, hInStep⟩
      exact hInStep.dropStdin.close nofun
        (hInStep.stdin_apart hFdin hUnshared)
  exact hClose.bind fun _ =>
    Watched.modify fun state k hInStep => hInStep

/- The end of the input closes its descriptor, if need be. -/
theorem watched_closeStdin
    (fd : Nat) :
    Watched (descriptorMonitor (some fdout))
      (fun state k =>
        InStep fdout state k ∧ state.fdin = some fd)
      (closeStdin fd) fun _ => InStep fdout := by
  refine Watched.get_bind fun read => ?_
  simp only []
  split
  · have hShutDown :
        Watched (descriptorMonitor (some fdout))
          (fun state k => state = read ∧
            InStep fdout state k ∧ state.fdin = some fd)
          (record (.shutDown fd) : Serving LoopState Unit)
          fun _ => InStep fdout := by
      refine Watched.record ?_ fun state k hPre => hPre.2.1
      intro state k hPre
      refine allows_use ?_ nofun
      intro fd' hUses
      change fd = fd' at hUses
      exact hUses ▸ hPre.2.1.stdinOpen fd hPre.2.2
    exact hShutDown.bind fun _ =>
      Watched.modify fun state k hInStep => hInStep.dropStdin
  · rename_i hUnshared
    by_cases hFdin : read.fdin = some fd
    · exact (watched_closed_stdin hFdin hUnshared).mono
        (fun state k hPre => ⟨hPre.1, hPre.2.1⟩)
        fun _ state k hPost => hPost
    · intro state k hPre
      rcases hPre with
        ⟨rfl, _, hOther⟩
      exact (hFdin hOther).elim

/- An output whose end was seen is closed for good. -/
theorem watched_closeAtEof
    (stream : OutputStream) :
    Watched (descriptorMonitor (some fdout))
      (fun state k => InStep fdout state k ∧ Unshared state)
      (closeAtEof stream)
      fun _ state k =>
        InStep fdout state k ∧ Unshared state := by
  refine Watched.get_bind fun read => ?_
  cases hFd : read.fd stream with
  | none => exact Watched.pure fun state k hPre => hPre.2
  | some fd =>
      simp only []
      split
      · rename_i hEof
        have hClose :
            Watched (descriptorMonitor (some fdout))
              (fun state k => state = read ∧
                InStep fdout state k ∧ Unshared state)
              (record (.closed fd) : Serving LoopState Unit)
              fun _ state k =>
                InStep fdout (state.dropFd stream) k ∧
                  Unshared (state.dropFd stream) := by
          refine Watched.record ?_ ?_
          · intro state k hPre
            rcases hPre with
              ⟨rfl, hInStep, _⟩
            refine allows_closed
              (hInStep.outputOpen stream fd hFd) ?_
            intro hGiven
            cases stream with
            | stdout => exact hInStep.ended hEof
            | stderr =>
                exact ((hInStep.stderrApart fd hFd).1
                  (Option.some.inj hGiven).symm).elim
          · intro state k hPre
            rcases hPre with
              ⟨rfl, hInStep, hUnshared⟩
            have hApart := hInStep.apart_of_fd hUnshared hFd
            exact ⟨(hInStep.dropFd hUnshared hEof).close
              hApart.1 hApart.2, hUnshared.dropFd stream⟩
        exact hClose.bind fun _ =>
          Watched.modify fun state k hPost => hPost
      · exact Watched.pure fun state k hPre => hPre.2

/- The input is closed without looking at the output. -/
theorem watched_closeAfterExit :
    Watched (descriptorMonitor (some fdout))
      (fun state k => InStep fdout state k ∧ Unshared state)
      closeAfterExit fun _ => InStep fdout := by
  have hExit :
      Watched (descriptorMonitor (some fdout))
        (fun state k => InStep fdout state k ∧ Unshared state)
        (record .closedAfterExit : Serving LoopState Unit)
        fun _ state k =>
          InStep fdout state k ∧ Unshared state :=
    Watched.record
      (fun state k _ => allows_use (fun fd => nofun) nofun)
      fun state k hPre => hPre
  refine hExit.bind fun _ => ?_
  refine (watched_closeAtEof .stdout).bind fun _ => ?_
  refine (watched_closeAtEof .stderr).bind fun _ => ?_
  refine Watched.get_bind fun read => ?_
  cases hFdin : read.fdin with
  | none => exact Watched.pure fun state k hPre => hPre.2.1
  | some fd =>
      by_cases hShared : read.fdout = some fd
      · intro state k hPre
        rcases hPre with
          ⟨rfl, _, hUnshared⟩
        exact (hUnshared fd hFdin hShared).elim
      · exact (watched_closed_stdin hFdin hShared).mono
          (fun state k hPre => ⟨hPre.1, hPre.2.1⟩)
          fun _ state k hPost => hPost

end Serving

end Ssh1

------------------------------------------------------------
-- Reading and Writing
------------------------------------------------------------

namespace Ssh1

open Recorded

variable {fdout : Nat}

/- The monitor may learn that the output has ended. -/
theorem InStep.read
    {state : LoopState}
    {k : Closings}
    (hInStep : InStep fdout state k)
    (stream : OutputStream)
    (fd : Nat)
    (data : List UInt8) :
    InStep fdout state (k.next (.read stream fd data)) := by
  have hClosed :
      (k.next (.read stream fd data)).closed = k.closed := by
    cases stream <;> cases data <;> rfl
  have hEnded : k.ended = true →
      (k.next (.read stream fd data)).ended = true := by
    intro hEnded
    cases stream <;> cases data <;>
      first | rfl | exact hEnded
  constructor
  · rw [hClosed]
    exact hInStep.stdinOpen
  · rw [hClosed]
    exact hInStep.outputOpen
  · exact hInStep.selectable
  · exact hInStep.stdoutGiven
  · exact hInStep.stdinGiven
  · exact hInStep.stderrApart
  · exact fun hEof => hEnded (hInStep.ended hEof)

/- The end of an output is noted on both sides. -/
theorem InStep.setEof
    {state : LoopState}
    {k : Closings}
    {stream : OutputStream}
    (hInStep : InStep fdout state k)
    (hEnded : stream = .stdout → k.ended = true) :
    InStep fdout (state.setEof stream) k := by
  cases stream with
  | stdout =>
      refine ⟨hInStep.stdinOpen, fun stream => ?_,
        fun stream => ?_, hInStep.stdoutGiven,
        hInStep.stdinGiven, hInStep.stderrApart,
        fun _ => hEnded rfl⟩
      · cases stream with
        | stdout => exact hInStep.outputOpen .stdout
        | stderr => exact hInStep.outputOpen .stderr
      · cases stream with
        | stdout => exact nofun
        | stderr => exact hInStep.selectable .stderr
  | stderr =>
      refine ⟨hInStep.stdinOpen, fun stream => ?_,
        fun stream => ?_, hInStep.stdoutGiven,
        hInStep.stdinGiven, hInStep.stderrApart,
        hInStep.ended⟩
      · cases stream with
        | stdout => exact hInStep.outputOpen .stdout
        | stderr => exact hInStep.outputOpen .stderr
      · cases stream with
        | stdout => exact hInStep.selectable .stdout
        | stderr => exact nofun

namespace Serving

/- Closing the input at its end keeps the invariant. -/
theorem watched_closeStdinAtEof :
    Watched (descriptorMonitor (some fdout)) (InStep fdout)
      closeStdinAtEof fun _ => InStep fdout := by
  refine Watched.get_bind fun read => ?_
  cases hFdin : read.fdin with
  | none => exact Watched.pure fun state k hPre => hPre.2
  | some fd =>
      simp only []
      split
      · refine (watched_closeStdin fd).mono ?_
          fun _ state k hPost => hPost
        intro state k hPre
        exact ⟨hPre.2, hPre.1 ▸ hFdin⟩
      · exact Watched.pure fun state k hPre => hPre.2

/- Reading an output that is open keeps the invariant. -/
theorem watched_readOutput
    (ready : ReadySet)
    (stream : OutputStream)
    (data : List UInt8) :
    Watched (descriptorMonitor (some fdout)) (InStep fdout)
      (readOutput ready stream data)
      fun _ => InStep fdout := by
  refine Watched.get_bind fun read => ?_
  cases hFd : read.fd stream with
  | none => exact Watched.pure fun state k hPre => hPre.2
  | some fd =>
      simp only []
      split
      · have hRead :
            Watched (descriptorMonitor (some fdout))
              (fun state k =>
                state = read ∧ InStep fdout state k)
              (record (.read stream fd (data.take 16384)) :
                Serving LoopState Unit)
              fun _ state k => InStep fdout state k ∧
                ((data.take 16384).length = 0 →
                  stream = .stdout → k.ended = true) := by
          refine Watched.record ?_ ?_
          · intro state k hPre
            refine allows_use ?_ nofun
            intro fd' hUses
            change fd = fd' at hUses
            rw [← hUses]
            exact hPre.2.outputOpen stream fd (hPre.1 ▸ hFd)
          · intro state k hPre
            refine ⟨hPre.2.read stream fd _, ?_⟩
            intro hNone hStdout
            rw [List.eq_nil_of_length_eq_zero hNone, hStdout]
            rfl
        refine hRead.bind fun _ => ?_
        split
        · rename_i hNone
          exact Watched.modify fun state k hPre =>
            hPre.1.setEof (hPre.2 hNone)
        · exact Watched.modify fun state k hPre =>
            hPre.1.same
              (setBuffer_sameDescriptors stream _ state)
      · exact Watched.pure fun state k hPre => hPre.2

/- The connection, then both outputs. -/
theorem watched_processInput
    (input : TurnInput)
    (ready : ReadySet) :
    Watched (descriptorMonitor (some fdout)) (InStep fdout)
      (processInput input ready) fun _ => InStep fdout := by
  have hOutput :
      Watched (descriptorMonitor (some fdout)) (InStep fdout)
        (do
          readOutput ready .stdout (input.outputRead .stdout)
          readOutput ready .stderr (input.outputRead .stderr))
        fun _ => InStep fdout :=
    (watched_readOutput ready .stdout _).bind fun _ =>
      watched_readOutput ready .stderr _
  unfold processInput
  simp only []
  split
  · exact (aside_readClient _).inStep.bind fun _ => hOutput
  · exact hOutput

/- A call that writes to the input. -/
theorem watched_record_stdin
    {event : ServerEvent}
    {fd : Nat}
    (hUses : ∀ fd', event.Uses fd' → fd' = fd)
    (hNext : ∀ k : Closings, k.next event = k)
    (hNotClosed : ∀ fd', event ≠ .closed fd') :
    Watched (descriptorMonitor (some fdout))
      (fun state k =>
        InStep fdout state k ∧ state.fdin = some fd)
      (record event : Serving LoopState Unit)
      fun _ state k =>
        InStep fdout state k ∧ state.fdin = some fd := by
  refine Watched.record ?_ ?_
  · intro state k hPre
    refine allows_use ?_ hNotClosed
    intro fd' hUse
    rw [hUses fd' hUse]
    exact hPre.1.stdinOpen fd hPre.2
  · intro state k hPre
    change InStep fdout state (k.next event) ∧ _
    rw [hNext]
    exact hPre

/- A write to the program's input, which is still open. -/
theorem watched_wrote
    (fd : Nat)
    (data : List UInt8) :
    Watched (descriptorMonitor (some fdout))
      (fun state k =>
        InStep fdout state k ∧ state.fdin = some fd)
      (record (.wrote fd data) : Serving LoopState Unit)
      fun _ state k =>
        InStep fdout state k ∧ state.fdin = some fd := by
  apply watched_record_stdin
  · exact fun fd' hUses => Eq.symm hUses
  · exact fun k => rfl
  · exact fun fd' => nofun

/- A failing write is a use of the descriptor as well. -/
theorem watched_writeFailed
    (fd : Nat) :
    Watched (descriptorMonitor (some fdout))
      (fun state k =>
        InStep fdout state k ∧ state.fdin = some fd)
      (record (.writeFailed fd) : Serving LoopState Unit)
      fun _ state k =>
        InStep fdout state k ∧ state.fdin = some fd := by
  apply watched_record_stdin
  · exact fun fd' hUses => Eq.symm hUses
  · exact fun k => rfl
  · exact fun fd' => nofun

/- After a failing write the input is closed. -/
theorem watched_writeStdin
    (fd : Nat)
    (result : WriteResult) :
    Watched (descriptorMonitor (some fdout))
      (fun state k =>
        InStep fdout state k ∧ state.fdin = some fd)
      (writeStdin fd result) fun _ => InStep fdout := by
  have hFailed :
      Watched (descriptorMonitor (some fdout))
        (fun state k =>
          InStep fdout state k ∧ state.fdin = some fd)
        (do
          record (.writeFailed fd)
          closeStdin fd)
        fun _ => InStep fdout :=
    (watched_writeFailed fd).bind
      fun _ => watched_closeStdin fd
  refine Watched.get_bind fun read => ?_
  refine Watched.mono ?_ (fun state k hPre => hPre.2)
    fun _ state k hPost => hPost
  cases result with
  | wouldBlock =>
      exact (watched_wrote fd []).mono
        (fun state k hPre => hPre)
        fun _ state k hPost => hPost.1
  | failed => exact hFailed
  | wrote len =>
      simp only []
      split
      · exact hFailed
      · refine (watched_wrote fd _).bind fun _ => ?_
        refine Watched.mono ?_
          (fun state k hPre => hPre.1)
          fun _ state k hPost => hPost
        refine (aside_ofOutcome _).inStep.bind fun rest => ?_
        have hRest : Aside (modify fun state =>
            { state with stdinBuffer := rest }) :=
          aside_modify fun state =>
            sameDescriptors_of_eq rfl rfl rfl rfl rfl
        exact hRest.inStep

end Serving

end Ssh1

------------------------------------------------------------
-- Waiting
------------------------------------------------------------

namespace Ssh1

open Recorded

/- `select` has found something. -/
def SelectResult.isReady : SelectResult → Bool
| ready _ _ => true
| _ => false

/-
  The program is gone, `select` finds nothing, and the input
  has the descriptor of the output. Then `close` is called
  for the input, whatever the output is still needed for.
-/
def ClosesShared
    (input : TurnInput)
    (state : LoopState) : Prop :=
  input.select.isReady = false ∧
    (state.childTerminated = true ∨ input.exitsLate = true) ∧
    input.exitsWaiting = false ∧
    ∃ fd, state.fdin = some fd ∧ state.fdout = some fd

variable {fdout : Nat}

/- The input may be closed where that can happen. -/
structure WaitsWell
    (input : TurnInput)
    (fdout : Nat)
    (state : LoopState)
    (k : Closings) : Prop where
  inStep : InStep fdout state k
  unshared :
    input.select.isReady = false →
      state.childTerminated = true →
        input.exitsWaiting = false → Unshared state

namespace Serving

/- A child that exits late finds nothing shared to close. -/
theorem watched_sigchldHandler_late
    (input : TurnInput) :
    Watched (descriptorMonitor (some fdout))
      (fun state k =>
        InStep fdout state k ∧ ¬ ClosesShared input state)
      (sigchldHandler input.exitsLate)
      fun _ => WaitsWell input fdout := by
  have hSpared : ∀ state : LoopState,
      ¬ ClosesShared input state →
      (state.childTerminated = true ∨
        input.exitsLate = true) →
      input.select.isReady = false →
      input.exitsWaiting = false → Unshared state := by
    intro state hNot hExit hReady hWaiting fd hFdin hFdout
    exact hNot ⟨hReady, hExit, hWaiting, fd, hFdin, hFdout⟩
  unfold sigchldHandler
  split
  · rename_i hLate
    refine Watched.modify fun state k hPre => ?_
    have hSame :
        SameDescriptors state []
          { state with
            childTerminated := true
            childJustTerminated := true } :=
      sameDescriptors_of_eq rfl rfl rfl rfl rfl
    refine ⟨hPre.1.same hSame, ?_⟩
    intro hReady _ hWaiting
    exact hSpared state hPre.2 (Or.inr hLate) hReady hWaiting
  · refine Watched.pure fun state k hPre => ⟨hPre.1, ?_⟩
    intro hReady hExit hWaiting
    exact hSpared state hPre.2 (Or.inl hExit) hReady hWaiting

/- Changes of the channels change nothing else. -/
theorem changeTable_cases
    (f : ChannelTable → Outcome ChannelTable)
    (state : LoopState) :
    (∃ table,
      f state.table = .ok table ∧
        changeTable f state =
          ⟨[], .ok ((), { state with table })⟩) ∨
      ∃ halt,
        f state.table = .error halt ∧
          changeTable f state = haltWith halt state := by
  have hRun :
      changeTable f state =
        andThen (ofOutcome (f state.table) state) fun table =>
          modify fun state => { state with table } :=
    rfl
  rw [hRun]
  cases hTable : f state.table with
  | ok table => exact Or.inl ⟨table, rfl, rfl⟩
  | error halt =>
      right
      refine ⟨halt, rfl, ?_⟩
      cases halt <;> rfl

/- The table is none of what is watched. -/
theorem watched_changeTable
    {P : LoopState → Closings → Prop}
    {output : Option Nat}
    (f : ChannelTable → Outcome ChannelTable)
    (hKeeps : ∀ state k table,
      P state k → P { state with table } k) :
    Watched (descriptorMonitor output) P (changeTable f)
      fun _ => P := by
  intro state k hPre
  rcases changeTable_cases f state with
    ⟨table, _, hRun⟩ | ⟨halt, _, hRun⟩
  · rw [hRun]
    refine ⟨trivial, ?_⟩
    intro a state' hResult
    cases hResult
    exact hKeeps state k table hPre
  · rw [hRun]
    cases halt with
    | disconnect message =>
        exact ⟨⟨⟨fun _ _ => id, nofun⟩, trivial⟩, nofun⟩
    | fatal message => exact ⟨trivial, nofun⟩
    | exit message => exact ⟨trivial, nofun⟩
    | assertion => exact ⟨trivial, nofun⟩
    | outOfBounds => exact ⟨trivial, nofun⟩
    | diverges => exact ⟨trivial, nofun⟩

end Serving

/- The descriptors that `select` is called with are open. -/
theorem InStep.selectable_eq
    {state : LoopState}
    {k : Closings}
    (hInStep : InStep fdout state k)
    (stream : OutputStream) :
    ∃ fds,
      Serving.selectable state stream = .ok fds ∧
        ∀ fd ∈ fds, fd ∉ k.closed := by
  unfold Serving.selectable
  cases hEof : state.eof stream with
  | true => exact ⟨[], rfl, nofun⟩
  | false =>
      rcases hInStep.selectable stream hEof with
        ⟨fd, hFd⟩
      rw [hFd]
      refine ⟨[fd], rfl, ?_⟩
      intro fd' hMem
      rw [List.mem_singleton.mp hMem]
      exact hInStep.outputOpen stream fd hFd

/- What `select` is asked to write to is open. -/
theorem InStep.writable_open
    {state : LoopState}
    {k : Closings}
    (hInStep : InStep fdout state k) :
    ∀ fd ∈ Serving.writable state, fd ∉ k.closed := by
  unfold Serving.writable
  intro fd hMem
  cases hFdin : state.fdin with
  | none =>
      rw [hFdin] at hMem
      cases hMem
  | some fd' =>
      rw [hFdin] at hMem
      simp only [List.mem_ite_nil_right,
        List.mem_singleton] at hMem
      rw [hMem.2]
      exact hInStep.stdinOpen fd' hFdin

end Ssh1
