import Ssh1.Server.Descriptors
import Ssh1.Channels.Safety

/-
  The discipline of the descriptors in whole sessions.

  Only the wait can go wrong. Where it finds nothing after
  the end of the program, it closes the input without asking
  whether the output has the same descriptor.

  Main declarations:
    * `Serving.watched_turnWait`
    * `SparesShared`
    * `serverLoop_disciplined`
-/

------------------------------------------------------------
-- The Wait
------------------------------------------------------------

namespace Ssh1

open Recorded

variable {fdout : Nat}

theorem WaitsWell.same
    {input : TurnInput}
    {state state' : LoopState}
    {k : Closings}
    (hWaits : WaitsWell input fdout state k)
    (hSame : SameDescriptors state [] state')
    (hChild :
      state'.childTerminated = state.childTerminated) :
    WaitsWell input fdout state' k := by
  have hFdout : state'.fdout = state.fdout := hSame.fd .stdout
  refine ⟨hWaits.inStep.same hSame, ?_⟩
  rw [hChild]
  intro hReady hExit hWaiting
  unfold Unshared
  rw [hSame.fdin, hFdout]
  exact hWaits.unshared hReady hExit hWaiting

/- The input may be closed once the wait is over. -/
structure WaitedWell
    (input : TurnInput)
    (fdout : Nat)
    (state : LoopState)
    (k : Closings) : Prop where
  inStep : InStep fdout state k
  unshared :
    input.select.isReady = false →
      state.childTerminated = true →
        state.childJustTerminated = false → Unshared state

namespace Serving

/- The part of the wait in `select`. -/
theorem watched_select
    (input : TurnInput)
    (fds : List Nat) :
    Watched (descriptorMonitor (some fdout))
      (fun state k =>
        WaitsWell input fdout state k ∧
          ∀ fd ∈ fds, fd ∉ k.closed)
      (do
        record (.selected fds)
        sigchldHandler input.exitsWaiting)
      fun _ => WaitedWell input fdout := by
  have hSelect :
      Watched (descriptorMonitor (some fdout))
        (fun state k =>
          WaitsWell input fdout state k ∧
            ∀ fd ∈ fds, fd ∉ k.closed)
        (record (.selected fds) : Serving LoopState Unit)
        fun _ => WaitsWell input fdout :=
    Watched.record
      (fun state k hPre => allows_use hPre.2 nofun)
      fun state k hPre => hPre.1
  refine hSelect.bind fun _ => ?_
  unfold sigchldHandler
  split
  · refine Watched.modify fun state k hWaits => ?_
    have hSame :
        SameDescriptors state []
          { state with
            childTerminated := true
            childJustTerminated := true } :=
      sameDescriptors_of_eq rfl rfl rfl rfl rfl
    exact ⟨hWaits.inStep.same hSame, fun _ _ => nofun⟩
  · rename_i hNone
    have hWaiting : input.exitsWaiting = false := by
      simpa using hNone
    exact Watched.pure fun state k hWaits =>
      ⟨hWaits.inStep, fun hReady hExit _ =>
        hWaits.unshared hReady hExit hWaiting⟩

/- After a wait in vain. -/
theorem watched_afterVainSelect
    (input : TurnInput)
    (hReady : input.select.isReady = false) :
    Watched (descriptorMonitor (some fdout))
      (WaitedWell input fdout) afterVainSelect
      fun _ => InStep fdout := by
  refine Watched.get_bind fun read => ?_
  simp only []
  split
  · rename_i hExit
    have hClose :
        Watched (descriptorMonitor (some fdout))
          (fun state k =>
            state = read ∧ WaitedWell input fdout state k)
          closeAfterExit fun _ => InStep fdout := by
      refine watched_closeAfterExit.mono ?_
        fun _ state k hPost => hPost
      rintro state k ⟨rfl, hWaited⟩
      exact ⟨hWaited.inStep, hWaited.unshared hReady hExit.1
        (by simpa using hExit.2)⟩
    exact hClose.bind fun _ =>
      Watched.pure fun state k hPost => hPost
  · exact Watched.pure fun state k hPre => hPre.2.inStep

/- The wait with the descriptors of the outputs. -/
theorem watched_selecting
    (conf : ChannelConf)
    (input : TurnInput)
    (read : LoopState)
    (readFds : List Nat) :
    Watched (descriptorMonitor (some fdout))
      (fun state k =>
        (state = read ∧ WaitsWell input fdout state k) ∧
          ∀ fd ∈ readFds, fd ∉ k.closed)
      (selecting conf input read readFds)
      fun _ => InStep fdout := by
  have hTable :
      ∀ change : ChannelTable → Outcome ChannelTable,
        Watched (descriptorMonitor (some fdout))
          (fun state k =>
            (state = read ∧ WaitsWell input fdout state k) ∧
              ∀ fd ∈ readFds, fd ∉ k.closed)
          (changeTable change)
          fun _ state k =>
            WaitsWell input fdout state k ∧
              ∀ fd ∈ readFds ++ writable read,
                fd ∉ k.closed := by
    intro change
    refine Watched.mono
      (watched_changeTable
        (P := fun state k =>
          WaitsWell input fdout state k ∧
            ∀ fd ∈ readFds ++ writable read, fd ∉ k.closed)
        _ ?_) ?_ fun _ state k hPost => hPost
    · rintro state k table ⟨hWaits, hOpen⟩
      exact ⟨hWaits.same
        (sameDescriptors_of_eq rfl rfl rfl rfl rfl) rfl,
        hOpen⟩
    · rintro state k ⟨⟨rfl, hWaits⟩, hOpen⟩
      refine ⟨hWaits, fun fd hMem => ?_⟩
      rcases List.mem_append.mp hMem with hRead | hWrite
      · exact hOpen fd hRead
      · exact hWaits.inStep.writable_open fd hWrite
  unfold selecting
  refine (hTable _).bind fun _ => ?_
  simp only []
  rw [← bind_bind]
  refine (watched_select input _).bind fun _ => ?_
  cases hSelect : input.select with
  | ready readable writable =>
      exact Watched.pure fun state k hWaited => hWaited.inStep
  | failed =>
      exact watched_afterVainSelect input
        (by rw [hSelect]; rfl)
  | timeout =>
      exact watched_afterVainSelect input
        (by rw [hSelect]; rfl)

theorem watched_waitUntilCanDoSomething
    (conf : ChannelConf)
    (input : TurnInput) :
    Watched (descriptorMonitor (some fdout))
      (WaitsWell input fdout)
      (waitUntilCanDoSomething conf input)
      fun _ => InStep fdout := by
  have hSlept :
      Watched (descriptorMonitor (some fdout))
        (WaitsWell input fdout)
        (modify fun state =>
            { state with childJustTerminated := false } :
          Serving LoopState Unit)
        fun _ => WaitsWell input fdout := by
    refine Watched.modify fun state k hWaits => ?_
    exact hWaits.same
      (sameDescriptors_of_eq rfl rfl rfl rfl rfl) rfl
  rw [waitUntilCanDoSomething_eq]
  refine hSlept.bind fun _ => ?_
  refine Watched.get_bind fun read => ?_
  intro state k hPre
  have hInStep : InStep fdout read k := hPre.1 ▸ hPre.2.inStep
  unfold selectedOutputs
  cases input.outputRoom with
  | false =>
      simp only [Bool.false_eq_true, if_false, return_bind]
      exact watched_selecting conf input read [] state k
        ⟨hPre, nofun⟩
  | true =>
      rcases hInStep.selectable_eq .stdout with
        ⟨stdout, hStdout, hOpen⟩
      rcases hInStep.selectable_eq .stderr with
        ⟨stderr, hStderr, hOpen'⟩
      simp only [if_true, hStdout, hStderr, ofOutcome,
        return_bind]
      refine watched_selecting conf input read
        (stdout ++ stderr) state k ⟨hPre, ?_⟩
      intro fd hMem
      rcases List.mem_append.mp hMem with hMem | hMem
      · exact hOpen fd hMem
      · exact hOpen' fd hMem

end Serving

end Ssh1

------------------------------------------------------------
-- Turns
------------------------------------------------------------

namespace Ssh1

open Recorded

variable {fdout : Nat}

namespace Serving

theorem watched_processOutput
    (input : TurnInput)
    (ready : ReadySet) :
    Watched (descriptorMonitor (some fdout)) (InStep fdout)
      (processOutput input ready) fun _ => InStep fdout := by
  have hClient :
      Watched (descriptorMonitor (some fdout)) (InStep fdout)
        (ofOutcome input.clientWrite : Serving LoopState Unit)
        fun _ => InStep fdout :=
    (aside_ofOutcome _).inStep
  refine Watched.get_bind fun read => ?_
  cases hFdin : read.fdin with
  | none =>
      simp only []
      exact hClient.mono (fun state k hPre => hPre.2)
        fun _ state k hPost => hPost
  | some fd =>
      simp only []
      split
      · have hWrite :
            Watched (descriptorMonitor (some fdout))
              (fun state k =>
                state = read ∧ InStep fdout state k)
              (writeStdin fd input.write)
              fun _ => InStep fdout := by
          refine (watched_writeStdin fd input.write).mono ?_
            fun _ state k hPost => hPost
          intro state k hPre
          exact ⟨hPre.2, hPre.1 ▸ hFdin⟩
        exact hWrite.bind fun _ => hClient
      · exact hClient.mono (fun state k hPre => hPre.2)
          fun _ state k hPost => hPost

/- The part of a turn that waits, where that goes well. -/
theorem watched_turnWait
    (conf : ServerConf)
    (input : TurnInput) :
    Watched (descriptorMonitor (some fdout))
      (fun state k =>
        InStep fdout state k ∧ ¬ ClosesShared input state)
      (turnWait conf input) fun _ => InStep fdout := by
  unfold turnWait
  refine (watched_sigchldHandler_late input).bind fun _ => ?_
  refine (watched_waitUntilCanDoSomething _ input).bind
    fun ready => ?_
  refine (aside_changeTable _).inStep.bind fun _ => ?_
  refine (watched_processInput input ready).bind fun _ => ?_
  exact watched_processOutput input ready

/- The loop comes to its end once the output has ended. -/
theorem watched_turnOutput
    (conf : ServerConf)
    (input : TurnInput) :
    Watched (descriptorMonitor (some fdout)) (InStep fdout)
      (turnOutput conf input) fun quits state k =>
        InStep fdout state k ∧
          (quits = true → k.ended = true) := by
  have hBail :
      Watched (descriptorMonitor (some fdout)) (InStep fdout)
        (bailOut input) fun quits state k =>
          InStep fdout state k ∧
            (quits = true → k.ended = true) := by
    refine Watched.get_bind fun read => ?_
    have hFalse :
        Watched (descriptorMonitor (some fdout))
          (InStep fdout)
          (pure false : Serving LoopState Bool)
          fun quits state k =>
            InStep fdout state k ∧
              (quits = true → k.ended = true) :=
      Watched.pure fun state k hPre => ⟨hPre, nofun⟩
    split
    · rename_i hEnd
      split
      · refine Watched.pure fun state k hPre => ?_
        refine ⟨hPre.2, fun _ => ?_⟩
        exact hPre.2.ended (by rw [hPre.1]; exact hEnd.1)
      · split
        · have hNote : Aside (noteWaiting input.openMessage) := by
            refine aside_bind (aside_record fun _ => id)
              fun _ => ?_
            exact aside_modify fun state =>
              sameDescriptors_of_eq rfl rfl rfl rfl rfl
          exact (hNote.inStep.bind fun _ => hFalse).mono
            (fun state k hPre => hPre.2)
            fun _ state k hPost => hPost
        · exact hFalse.mono (fun state k hPre => hPre.2)
            fun _ state k hPost => hPost
    · exact hFalse.mono (fun state k hPre => hPre.2)
        fun _ state k hPost => hPost
  unfold turnOutput
  refine (aside_processBufferedInputPackets _ _).inStep.bind
    fun _ => ?_
  refine watched_closeStdinAtEof.bind fun _ => ?_
  refine (aside_makePackets _ _ _).inStep.bind fun _ => ?_
  refine (aside_makePacketsFromStdoutData _ _).inStep.bind
    fun _ => ?_
  refine (aside_changeTable _).inStep.bind fun _ => ?_
  exact (aside_sigchldHandler _).inStep.bind fun _ => hBail

end Serving

/-
  In no wait of these turns the input of a program that is
  gone is closed while the output has the same descriptor.
-/
def SparesShared
    (conf : ServerConf) :
    List TurnInput → LoopState → Prop
| [], _ => True
| input :: inputs, state =>
    ∀ state',
      (Serving.turnOutput conf input state).result =
          .ok (false, state') →
        ¬ ClosesShared input state' ∧
          ∀ state'',
            (Serving.turnWait conf input state').result =
                .ok ((), state'') →
              SparesShared conf inputs state''

namespace Serving

/- All turns together. -/
theorem watched_turns
    (conf : ServerConf)
    (inputs : List TurnInput) :
    Watched (descriptorMonitor (some fdout))
      (fun state k =>
        InStep fdout state k ∧
          SparesShared conf inputs state)
      (turns conf inputs) fun quits state k =>
        InStep fdout state k ∧
          (quits = true → k.ended = true) := by
  induction inputs with
  | nil =>
      exact Watched.pure fun state k hPre => ⟨hPre.1, nofun⟩
  | cons input inputs ih =>
      rw [turns_cons]
      rintro start k ⟨hInStep, hSpares⟩
      have hTurn :
          Watched (descriptorMonitor (some fdout))
            (fun state k => state = start ∧ InStep fdout state k)
            (do
              let quits ← turnOutput conf input
              if quits then
                pure true
              else do
                turnWait conf input
                turns conf inputs)
            fun quits state k =>
              InStep fdout state k ∧
                (quits = true → k.ended = true) := by
        refine ((watched_turnOutput conf input).from_state
          start).bind fun quits => ?_
        cases quits with
        | true =>
            exact Watched.pure fun state k hPre => hPre.1
        | false =>
            rintro state k ⟨⟨hInStep, -⟩, hResult⟩
            rcases hSpares state hResult with ⟨hNot, hNext⟩
            have hWait :=
              (@watched_turnWait fdout conf input).from_state state
            have hRest :
                Watched (descriptorMonitor (some fdout))
                  (fun state' k =>
                    state' = state ∧ InStep fdout state' k ∧
                      ¬ ClosesShared input state')
                  (do
                    turnWait conf input
                    turns conf inputs)
                  fun quits state k =>
                    InStep fdout state k ∧
                      (quits = true → k.ended = true) := by
              refine hWait.bind fun _ => ?_
              exact ih.mono
                (fun state' k hPre =>
                  ⟨hPre.1, hNext state' hPre.2⟩)
                fun _ state' k hPost => hPost
            exact hRest state k ⟨rfl, hInStep, hNot⟩
      exact hTurn start k ⟨rfl, hInStep⟩

end Serving

end Ssh1

------------------------------------------------------------
-- The End of the Loop
------------------------------------------------------------

namespace Ssh1

open Recorded

variable {fdout : Nat}

namespace Serving

/- The descriptor is closed, where there is one. -/
def closeKnown : Option Nat → Serving LoopState Unit
| none => pure ()
| some fd => record (.closed fd)

/- The input is closed apart where it is one of its own. -/
def ownStdin (state : LoopState) : Option Nat :=
  if state.fdin ≠ state.fdout then state.fdin else none

theorem closeDescriptors_eq :
    closeDescriptors =
      (do
        let state ← get
        closeKnown state.fdout
        closeKnown (ownStdin state)
        closeKnown state.fderr) := by
  unfold closeDescriptors
  congr 1
  funext state
  unfold ownStdin
  cases state.fdout with
  | none =>
      cases state.fdin with
      | none => rfl
      | some fd =>
          simp only [ne_eq, reduceCtorEq, not_false_eq_true,
            if_true]
          rfl
  | some out =>
      cases state.fdin with
      | none => rfl
      | some fd =>
          by_cases hSame : fd = out
          · simp only [hSame, ne_eq, not_true_eq_false,
              if_false]
            rfl
          · simp only [hSame, ne_eq, Option.some.injEq,
              not_false_eq_true, if_true]
            rfl

/- What is still to be closed at the end. -/
structure LeftOpen
    (fds : List (Option Nat))
    (k : Closings) : Prop where
  ended : k.ended = true
  left : ∀ fd, some fd ∈ fds → fd ∉ k.closed

/- Descriptors that are closed one after the other. -/
theorem watched_closeKnown_left
    (known : Option Nat)
    (fds : List (Option Nat))
    (hApart : known ≠ none → known ∉ fds) :
    Watched (descriptorMonitor (some fdout))
      (fun _ => LeftOpen (known :: fds))
      (closeKnown known) fun _ _ => LeftOpen fds := by
  cases known with
  | none =>
      refine Watched.pure fun state k hLeft => ?_
      exact ⟨hLeft.ended, fun fd hMem =>
        hLeft.left fd (List.mem_cons_of_mem none hMem)⟩
  | some fd =>
      have hOther : some fd ∉ fds := hApart nofun
      refine Watched.record ?_ ?_
      · intro state k hLeft
        exact allows_closed (hLeft.left fd List.mem_cons_self)
          fun _ => hLeft.ended
      · intro state k hLeft
        refine ⟨hLeft.ended, fun fd' hMem hClosed => ?_⟩
        rcases List.mem_cons.mp hClosed with rfl | hClosed
        · exact hOther hMem
        · exact hLeft.left fd'
            (List.mem_cons_of_mem _ hMem) hClosed

/- The variables at the end are in step with each other. -/
theorem leftOpen_of_inStep
    {state : LoopState}
    {k : Closings}
    (hInStep : InStep fdout state k)
    (hEnded : k.ended = true) :
    LeftOpen [state.fdout, ownStdin state, state.fderr]
      k := by
  refine ⟨hEnded, fun fd hMem => ?_⟩
  simp only [List.mem_cons, List.not_mem_nil, or_false]
    at hMem
  rcases hMem with hMem | hMem | hMem
  · exact hInStep.outputOpen .stdout fd hMem.symm
  · unfold ownStdin at hMem
    split at hMem
    · exact hInStep.stdinOpen fd hMem.symm
    · cases hMem
  · exact hInStep.outputOpen .stderr fd hMem.symm

/- The end of the loop closes what is still open. -/
theorem watched_closeDescriptors :
    Watched (descriptorMonitor (some fdout))
      (fun state k =>
        InStep fdout state k ∧ k.ended = true)
      closeDescriptors fun _ _ _ => True := by
  rw [closeDescriptors_eq]
  refine Watched.get_bind fun read => ?_
  intro state k hPre
  rcases hPre with ⟨rfl, hInStep, hEnded⟩
  have hFdout :
      state.fdout ≠ none →
        state.fdout ∉ [ownStdin state, state.fderr] := by
    intro hSome hMem
    simp only [List.mem_cons, List.not_mem_nil, or_false]
      at hMem
    rcases Option.ne_none_iff_exists'.mp hSome with
      ⟨out, hOut⟩
    rcases hMem with hMem | hMem
    · unfold ownStdin at hMem
      split at hMem
      · rename_i hApart
        exact hApart hMem.symm
      · exact hSome hMem
    · have hStderr := hInStep.stderrApart out
        (hMem ▸ hOut)
      exact hStderr.1 (hInStep.stdoutGiven out hOut)
  have hFdin :
      ownStdin state ≠ none →
        ownStdin state ∉ [state.fderr] := by
    intro hSome hMem
    have hMem := List.mem_singleton.mp hMem
    unfold ownStdin at hSome hMem
    split at hMem
    · rcases Option.ne_none_iff_exists'.mp hSome with
        ⟨fd, hFd⟩
      rename_i hApart
      rw [if_pos hApart] at hFd
      exact (hInStep.stderrApart fd (hMem ▸ hFd)).2 hFd
    · rename_i hShared
      rw [if_neg hShared] at hSome
      exact hSome rfl
  have hAll :
      Watched (descriptorMonitor (some fdout))
        (fun _ =>
          LeftOpen [state.fdout, ownStdin state, state.fderr])
        (do
          closeKnown state.fdout
          closeKnown (ownStdin state)
          closeKnown state.fderr)
        fun _ _ _ => True := by
    refine (watched_closeKnown_left _ _ hFdout).bind
      fun _ => ?_
    refine (watched_closeKnown_left _ _ hFdin).bind
      fun _ => ?_
    exact (watched_closeKnown_left _ [] nofun).mono
      (fun _ _ hPre => hPre) fun _ _ _ _ => trivial
  exact hAll state k (leftOpen_of_inStep hInStep hEnded)

/- Cleanup and termination. -/
theorem watched_quit
    (conf : ServerConf)
    (input : QuitInput) :
    Watched (descriptorMonitor (some fdout))
      (fun state k =>
        InStep fdout state k ∧ k.ended = true)
      (quit conf input) fun _ _ _ => True := by
  have hDrain :
      Watched (descriptorMonitor (some fdout))
        (fun state k =>
          InStep fdout state k ∧ k.ended = true)
        (drainOutput conf.channels) fun _ state k =>
          InStep fdout state k ∧ k.ended = true :=
    (aside_drainOutput conf.channels).watched
      fun _ _ _ _ hPre hSame => ⟨hPre.1.same hSame, hPre.2⟩
  unfold quit
  refine hDrain.bind fun _ => ?_
  refine watched_closeDescriptors.bind fun _ => ?_
  -- The rest leaves the descriptors alone.
  refine Aside.watched ?_ fun _ _ _ _ _ _ => trivial
  refine aside_bind (aside_changeTable _) fun _ => ?_
  refine aside_bind (aside_sigchldHandler _) fun _ => ?_
  refine aside_bind (aside_exitStatus input) fun status => ?_
  cases status with
  | exited status => exact aside_packetSend _
  | signaled signal => exact aside_indifferent.packetDisconnect _
  | other status => exact aside_indifferent.packetDisconnect _

end Serving

end Ssh1

------------------------------------------------------------
-- Main Results
------------------------------------------------------------

namespace Ssh1

open Recorded

/- The loop starts in step, with all descriptors open. -/
theorem initial_inStep
    {fdin fdout : Nat}
    {fderr : Option Nat}
    {table : ChannelTable}
    (hApart : ∀ fd, fderr = some fd → fd ≠ fdin ∧ fd ≠ fdout) :
    InStep fdout (.initial fdin fdout fderr table)
      Closings.none := by
  constructor
  · exact fun fd _ => List.not_mem_nil
  · exact fun stream fd _ => List.not_mem_nil
  · intro stream hOpen
    cases stream with
    | stdout => exact ⟨fdout, rfl⟩
    | stderr =>
        cases fderr with
        | none => cases hOpen
        | some fd => exact ⟨fd, rfl⟩
  · intro fd hFdout
    exact (Option.some.inj hFdout).symm
  · intro fd hFdin hOther hSame
    exact hOther (congrArg some hSame.symm)
  · intro fd hFderr
    refine ⟨(hApart fd hFderr).2, fun hFdin => ?_⟩
    exact (hApart fd hFderr).1 (Option.some.inj hFdin).symm
  · nofun

/-
  In a run that spares the input of a program that is gone
  while the output has the same descriptor, no descriptor of
  the program is used or closed after it was closed, and the
  output is closed after its end was read.
-/
theorem serverLoop_disciplined
    {conf : ServerConf}
    {inputs : List TurnInput}
    {quitInput : QuitInput}
    {fdin fdout : Nat}
    {fderr : Option Nat}
    {table : ChannelTable}
    (hApart : ∀ fd, fderr = some fd → fd ≠ fdin ∧ fd ≠ fdout)
    (hSpares :
      SparesShared conf inputs
        (.initial fdin fdout fderr table)) :
    (descriptorMonitor (some fdout)).Accepts Closings.none
      (serverLoop conf inputs quitInput
        (.initial fdin fdout fderr table)).events := by
  have hLoop :
      Watched (descriptorMonitor (some fdout))
        (fun state k =>
          InStep fdout state k ∧
            SparesShared conf inputs state)
        (serverLoop conf inputs quitInput)
        fun _ _ _ => True := by
    refine (Serving.watched_turns conf inputs).bind
      fun quits => ?_
    cases quits with
    | false => exact Watched.pure fun _ _ _ => trivial
    | true =>
        have hQuit :
            Watched (descriptorMonitor (some fdout))
              (fun state k =>
                InStep fdout state k ∧
                  (true = true → k.ended = true))
              (Serving.quit conf quitInput)
              fun _ _ _ => True :=
          (Serving.watched_quit conf quitInput).mono
            (fun state k hPre => ⟨hPre.1, hPre.2 rfl⟩)
            fun _ _ _ hPost => hPost
        exact hQuit.bind fun _ =>
          Watched.pure fun _ _ _ => trivial
  exact (hLoop _ _ ⟨initial_inStep hApart, hSpares⟩).1

/- A turn in which nothing happens and select finds nothing. -/
def idleTurn : TurnInput where
  polled := []
  stderrRoom := 0
  stdoutRoom := 0
  channelRoom := fun _ => false
  haveDataToWrite := false
  openMessage := []
  exitsEarly := false
  exitsLate := false
  exitsWaiting := false
  outputRoom := true
  select := .timeout
  channelIo := fun _ => .idle
  clientRead := .received
  outputRead := fun _ => []
  write := .wouldBlock
  clientWrite := .ok ()

/- The program writes one byte and goes. -/
def outputTurn : TurnInput :=
  { idleTurn with
    select := .ready (fun _ => true) fun _ => false
    outputRead := fun _ => [104]
    exitsWaiting := true }

/- The program is gone before the wait. -/
def exitedTurn : TurnInput :=
  { idleTurn with exitsEarly := true }

/- A server that permits port forwarding. -/
def plainServer : ServerConf where
  channels := plainConf
  noPortForwardingFlag := false

/- The child has exited with status 0. -/
def exitedZero : QuitInput where
  exits := false
  childWaitStatus := .exited 0
  wait := .ok (.exited 0)

/- The run of a program that writes, and goes. -/
theorem serverLoop_disciplined_sample :
    (descriptorMonitor (some 5)).Accepts Closings.none
      (serverLoop plainServer [outputTurn] exitedZero
        (.initial 5 5 (some 6)
          (.initial clearedMemory))).events := by
  apply serverLoop_disciplined
  · decide
  · intro state _
    refine ⟨fun hCloses => ?_, fun _ _ => trivial⟩
    cases hCloses.1

/-
  The output of a program that is gone is closed unread: the
  input has the same descriptor, and select found nothing.
-/
theorem serverLoop_not_disciplined :
    ¬ (descriptorMonitor (some 5)).Accepts Closings.none
      (serverLoop plainServer [exitedTurn] exitedZero
        (.initial 5 5 (some 6)
          (.initial clearedMemory))).events := by
  have hEvents :
      (serverLoop plainServer [exitedTurn] exitedZero
        (.initial 5 5 (some 6)
          (.initial clearedMemory))).events =
        [.selected [5, 6], .closedAfterExit,
          .closed 5] := by
    rfl
  rw [hEvents]
  intro hAccepts
  cases hAccepts.2.2.1.2 5 rfl rfl

end Ssh1
