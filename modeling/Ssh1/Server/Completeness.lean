import Ssh1.Server.Ledger

/-
  The bytes that go through a session.

  What is in the buffers of the loop is what is still on its
  way, so at the end of the loop all output of the program is
  sent, and all input of the client is written or the program
  takes no more.

  Main declarations:
    * `balanced_turns`, `Delivered`
    * `serverLoop_complete`
-/

------------------------------------------------------------
-- The Program
------------------------------------------------------------

namespace Ssh1

open Recorded

variable {conf : ChannelConf}
variable {received : List UInt8}

namespace Serving

/- What is read of an output is held or sent. -/
theorem balanced_readOutput
    (ready : ReadySet)
    (stream : OutputStream)
    (data : List UInt8) :
    Watched (ledgerMonitor conf) (Balanced received)
      (readOutput ready stream data) fun _ => Balanced received := by
  refine Watched.get_bind fun read => ?_
  cases read.fd stream with
  | none => exact Watched.pure fun _ _ hPre => hPre.2
  | some fd =>
      simp only []
      split
      · split
        · rename_i hNone
          refine Watched.record_modify
            (fun _ k _ =>
              allows_of_notSent (fun _ hSent => by cases hSent)
                k)
            ?_
          rintro state k ⟨-, hBalanced⟩
          have hReceived := hBalanced.receive stream []
          rw [List.append_nil] at hReceived
          rw [List.eq_nil_of_length_eq_zero hNone]
          refine @Balanced.same _ _ _ [] _ hReceived ?_
          cases stream with
          | stdout => exact sameBuffers_of_eq rfl rfl rfl rfl
          | stderr => exact sameBuffers_of_eq rfl rfl rfl rfl
        · refine Watched.record_modify
            (fun _ k _ =>
              allows_of_notSent (fun _ hSent => by cases hSent)
                k)
            ?_
          rintro state k ⟨-, hBalanced⟩
          exact hBalanced.receive stream _
      · exact Watched.pure fun _ _ hPre => hPre.2

/- A write that fails closes the input. -/
theorem balanced_writeFailed
    (fd : Nat) :
    Watched (ledgerMonitor conf) (Balanced received)
      (do
        Recorded.record (.writeFailed fd)
        closeStdin fd)
      fun _ => Balanced received := by
  have hFails :
      Watched (ledgerMonitor conf) (Balanced received)
        (Recorded.record (.writeFailed fd) :
          Serving LoopState Unit)
        fun _ state k =>
          Balanced received state k ∧
            (k.inputEnds = false → state.stdinBuffer = []) := by
    refine Watched.record
      (fun _ k _ =>
        allows_of_notSent (fun _ hSent => by cases hSent) k)
      ?_
    intro state k hBalanced
    exact ⟨⟨hBalanced.output, hBalanced.input, nofun⟩, nofun⟩
  exact hFails.bind fun _ => balanced_closeStdin fd

/- What is written leaves the buffer for the program. -/
theorem balanced_writeStdin
    (fd : Nat)
    (result : WriteResult) :
    Watched (ledgerMonitor conf)
      (fun state k =>
        Balanced received state k ∧ state.fdin = some fd)
      (writeStdin fd result) fun _ => Balanced received := by
  have hFails :
      Watched (ledgerMonitor conf)
        (fun state k =>
          Balanced received state k ∧ state.fdin = some fd)
        (do
          Recorded.record (.writeFailed fd)
          closeStdin fd)
        fun _ => Balanced received :=
    (balanced_writeFailed fd).mono (fun _ _ hPre => hPre.1)
      fun _ _ _ hPost => hPost
  refine Watched.get_bind fun read => ?_
  cases result with
  | wouldBlock =>
      refine Watched.record
        (fun _ k _ =>
          allows_of_notSent (fun _ hSent => by cases hSent) k)
        ?_
      rintro state k ⟨-, hBalanced, -⟩
      refine ⟨hBalanced.output, ?_, hBalanced.delivered⟩
      change received = k.toProgram ++ [] ++ _
      rw [List.append_nil]
      exact hBalanced.input
  | failed =>
      exact hFails.mono (fun _ _ hPre => hPre.2)
        fun _ _ _ hPost => hPost
  | wrote len =>
      have hLength :
          min len read.stdinBuffer.length ≤
            read.stdinBuffer.length :=
        Nat.min_le_right _ _
      simp only []
      split
      · exact hFails.mono (fun _ _ hPre => hPre.2)
          fun _ _ _ hPost => hPost
      · simp only [bufferConsume_of_le hLength, ofOutcome,
          return_bind]
        refine Watched.record_modify
          (fun _ k _ =>
            allows_of_notSent (fun _ hSent => by cases hSent)
              k)
          ?_
        rintro state k ⟨rfl, hBalanced, hFdin⟩
        refine ⟨hBalanced.output, ?_, fun hNone => ?_⟩
        · change received =
            k.toProgram ++ state.stdinBuffer.take _ ++
              state.stdinBuffer.drop _
          rw [List.append_assoc, List.take_append_drop]
          exact hBalanced.input
        · cases hFdin.symm.trans hNone

/- The connection and the two outputs. -/
theorem balanced_processInput
    (input : TurnInput)
    (ready : ReadySet) :
    Watched (ledgerMonitor conf) (Balanced received)
      (processInput input ready) fun _ => Balanced received := by
  have hOutput :
      Watched (ledgerMonitor conf) (Balanced received)
        (do
          readOutput ready .stdout (input.outputRead .stdout)
          readOutput ready .stderr (input.outputRead .stderr))
        fun _ => Balanced received :=
    (balanced_readOutput ready .stdout _).bind fun _ =>
      balanced_readOutput ready .stderr _
  unfold processInput
  split
  · exact (Silent.balanced
      (silent_indifferent.readClient _)).bind fun _ => hOutput
  · exact hOutput

/- The program's input and the connection. -/
theorem balanced_processOutput
    (input : TurnInput)
    (ready : ReadySet) :
    Watched (ledgerMonitor conf) (Balanced received)
      (processOutput input ready) fun _ => Balanced received := by
  have hClient :
      Watched (ledgerMonitor conf) (Balanced received)
        (ofOutcome input.clientWrite : Serving LoopState Unit)
        fun _ => Balanced received :=
    (silent_ofOutcome _).balanced
  refine Watched.get_bind fun read => ?_
  cases hFdin : read.fdin with
  | none =>
      exact hClient.mono (fun _ _ hPre => hPre.2)
        fun _ _ _ hPost => hPost
  | some fd =>
      simp only []
      split
      · have hWrite :
            Watched (ledgerMonitor conf)
              (fun state k => state = read ∧ Balanced received state k)
              (writeStdin fd input.write)
              fun _ => Balanced received := by
          refine (balanced_writeStdin fd input.write).mono ?_
            fun _ _ _ hPost => hPost
          intro state k hPre
          exact ⟨hPre.2, hPre.1 ▸ hFdin⟩
        exact hWrite.bind fun _ => hClient
      · exact hClient.mono (fun _ _ hPre => hPre.2)
          fun _ _ _ hPost => hPost

/- Closing an output passes no byte on. -/
theorem silent_closeAtEof
    (stream : OutputStream) :
    Silent (closeAtEof stream) := by
  refine silent_indifferent.get_bind fun read => ?_
  cases read.fd stream with
  | none => exact silent_indifferent.pure ()
  | some fd =>
      simp only []
      split
      · refine silent_indifferent.bind
          (silent_record (fun _ => rfl) nofun) fun _ => ?_
        refine silent_modify fun state => ?_
        cases stream with
        | stdout => exact sameBuffers_of_eq rfl rfl rfl rfl
        | stderr => exact sameBuffers_of_eq rfl rfl rfl rfl
      · exact silent_indifferent.pure ()

/- The input is closed with what was not written. -/
theorem balanced_closeAfterExit :
    Watched (ledgerMonitor conf) (Balanced received) closeAfterExit
      fun _ => Balanced received := by
  have hExit :
      Watched (ledgerMonitor conf) (Balanced received)
        (Recorded.record .closedAfterExit :
          Serving LoopState Unit)
        fun _ state k =>
          Balanced received state k ∧ k.inputEnds = true := by
    refine Watched.record
      (fun _ k _ =>
        allows_of_notSent (fun _ hSent => by cases hSent) k)
      ?_
    intro state k hBalanced
    exact ⟨⟨hBalanced.output, hBalanced.input, nofun⟩, rfl⟩
  have hClose (stream : OutputStream) :
      Watched (ledgerMonitor conf)
        (fun state k => Balanced received state k ∧ k.inputEnds = true)
        (closeAtEof stream) fun _ state k =>
          Balanced received state k ∧ k.inputEnds = true :=
    (silent_closeAtEof stream).watched
      fun _ _ _ _ hPre hSame => ⟨hPre.1.same hSame, hPre.2⟩
  unfold closeAfterExit
  refine hExit.bind fun _ => ?_
  refine (hClose .stdout).bind fun _ => ?_
  refine (hClose .stderr).bind fun _ => ?_
  refine Watched.get_bind fun read => ?_
  cases read.fdin with
  | none => exact Watched.pure fun _ _ hPre => hPre.2.1
  | some fd =>
      refine Watched.record_modify
        (fun _ k _ =>
          allows_of_notSent (fun _ hSent => by cases hSent) k)
        ?_
      rintro state k ⟨-, hBalanced, hEnds⟩
      refine ⟨hBalanced.output, hBalanced.input, ?_⟩
      intro _ hGoesOn
      cases hEnds.symm.trans hGoesOn

theorem balanced_afterVainSelect :
    Watched (ledgerMonitor conf) (Balanced received) afterVainSelect
      fun _ => Balanced received := by
  refine Watched.get_bind fun read => ?_
  simp only []
  split
  · exact (balanced_closeAfterExit.mono
      (fun _ _ hPre => hPre.2) fun _ _ _ hPost => hPost).bind
      fun _ => Watched.pure fun _ _ hPost => hPost
  · exact Watched.pure fun _ _ hPre => hPre.2

theorem silent_selectedOutputs
    (input : TurnInput)
    (read : LoopState) :
    Silent (selectedOutputs input read) := by
  unfold selectedOutputs
  split
  · refine silent_indifferent.ofOutcome_bind _ fun _ => ?_
    refine silent_indifferent.ofOutcome_bind _ fun _ => ?_
    exact silent_indifferent.pure _
  · exact silent_indifferent.pure _

/- Waiting sends what there is room for. -/
theorem balanced_waitUntilCanDoSomething
    (input : TurnInput) :
    Watched (ledgerMonitor conf) (Balanced received)
      (waitUntilCanDoSomething conf input)
      fun _ => Balanced received := by
  have hSlept :
      Silent (Recorded.modify fun state =>
        { state with childJustTerminated := false }) :=
    silent_modify fun _ => sameBuffers_of_eq rfl rfl rfl rfl
  rw [waitUntilCanDoSomething_eq]
  refine (Silent.balanced hSlept).bind fun _ => ?_
  refine Watched.get_bind fun read => ?_
  refine Watched.mono
    ((Silent.balanced (silent_selectedOutputs input read)).bind
      fun readFds => ?_)
    (fun _ _ hPre => hPre.2) fun _ _ _ hPost => hPost
  unfold selecting
  refine (Silent.balanced (silent_changeTable _)).bind
    fun _ => ?_
  simp only []
  have hSelected :
      Silent (Recorded.record
        (.selected (readFds ++ writable read))) :=
    silent_record (fun _ => rfl) nofun
  refine (Silent.balanced hSelected).bind fun _ => ?_
  refine (Silent.balanced (silent_sigchldHandler _)).bind
    fun _ => ?_
  cases input.select with
  | ready readable writable =>
      exact Watched.pure fun _ _ hPre => hPre
  | failed => exact balanced_afterVainSelect
  | timeout => exact balanced_afterVainSelect

end Serving

end Ssh1

------------------------------------------------------------
-- Turns
------------------------------------------------------------

namespace Ssh1

open Recorded

variable {conf : ServerConf}
variable {received : List UInt8}

namespace Serving

/- The first half of a turn. -/
theorem balanced_turnWait
    (input : TurnInput) :
    Watched (ledgerMonitor conf.channels) (Balanced received)
      (turnWait conf input) fun _ => Balanced received := by
  unfold turnWait
  refine (Silent.balanced (silent_sigchldHandler _)).bind
    fun _ => ?_
  refine (balanced_waitUntilCanDoSomething input).bind
    fun ready => ?_
  refine (Silent.balanced (silent_changeTable _)).bind
    fun _ => ?_
  refine (balanced_processInput input ready).bind fun _ => ?_
  exact balanced_processOutput input ready

/- The second half, with the input that its packets bring.
  The loop ends with the output buffers empty. -/
theorem balanced_turnOutput
    (hSize : 4096 ≤ conf.channels.maxPacketSize)
    (input : TurnInput)
    (start : LoopState) :
    Watched (ledgerMonitor conf.channels)
      (fun state k => state = start ∧ Balanced received state k)
      (turnOutput conf input) fun quits state k =>
        Balanced (received ++ turnText input start) state k ∧
          (quits = true →
            Drained (received ++ turnText input start) state
              k) := by
  have hPackets :
      Watched (ledgerMonitor conf.channels)
        (fun state k =>
          state = start ∧ Balanced received state k)
        (processBufferedInputPackets conf input.polled)
        fun _ =>
          Balanced (received ++ turnText input start) :=
    (balanced_processBufferedInputPackets conf input.polled
      start.fdin).mono (fun _ _ hPre => ⟨by rw [hPre.1], hPre.2⟩)
      fun _ _ _ hPost => hPost
  unfold turnOutput
  refine hPackets.bind fun _ => ?_
  refine balanced_closeStdinAtEof.bind fun _ => ?_
  refine (balanced_makePackets hSize _ _).bind fun _ => ?_
  refine (balanced_makePacketsFromStdoutData hSize _).bind
    fun _ => ?_
  refine (Silent.balanced (silent_changeTable _)).bind
    fun _ => ?_
  refine (Silent.balanced (silent_sigchldHandler _)).bind
    fun _ => ?_
  exact balanced_bailOut input

/- A turn, with the packets that are polled in it. -/
theorem balanced_turn
    (hSize : 4096 ≤ conf.channels.maxPacketSize)
    (input : TurnInput)
    (start : LoopState) :
    Watched (ledgerMonitor conf.channels)
      (fun state k => state = start ∧ Balanced received state k)
      (turn conf input) fun quits state k =>
        Balanced (received ++ turnText input start) state k ∧
          (quits = true →
            Drained (received ++ turnText input start) state
              k) := by
  refine (balanced_turnOutput hSize input start).bind
    fun quits => ?_
  cases quits with
  | true => exact Watched.pure fun _ _ hPre => hPre
  | false =>
      refine Watched.bind
        ((balanced_turnWait input).mono (fun _ _ hPre => hPre.1)
          fun _ _ _ hPost => hPost)
        fun _ => ?_
      exact Watched.pure fun _ _ hPre => ⟨hPre, nofun⟩

/- All turns up to the end of the loop. -/
theorem balanced_turns
    (hSize : 4096 ≤ conf.channels.maxPacketSize)
    (inputs : List TurnInput)
    (start : LoopState) :
    Watched (ledgerMonitor conf.channels)
      (fun state k => state = start ∧ Balanced received state k)
      (turns conf inputs) fun quits state k =>
        Balanced (received ++ acceptedInput conf inputs start)
            state k ∧
          (quits = true →
            Drained
              (received ++ acceptedInput conf inputs start)
              state k) := by
  induction inputs generalizing received start with
  | nil =>
      refine Watched.pure fun state k hPre => ⟨?_, nofun⟩
      rw [acceptedInput, List.append_nil]
      exact hPre.2
  | cons input inputs ih =>
      have hTurn :=
        (@balanced_turn conf received hSize input
          start).from_state start
      refine (hTurn.mono (fun _ _ hPre => ⟨hPre.1, hPre⟩)
        fun _ _ _ hPost => hPost).bind fun quits => ?_
      intro state k hPre
      rcases hPre with
        ⟨hBalanced, hResult⟩
      cases quits with
      | true =>
          have hAll :
              acceptedInput conf (input :: inputs) start =
                turnText input start := by
            rw [acceptedInput, hResult]
            exact List.append_nil _
          rw [hAll]
          refine ⟨trivial, ?_⟩
          intro quits state' hReturn
          cases hReturn
          exact hBalanced
      | false =>
          have hAll :
              acceptedInput conf (input :: inputs) start =
                turnText input start ++
                  acceptedInput conf inputs state := by
            rw [acceptedInput, hResult]
          rw [hAll, ← List.append_assoc]
          exact ih state state k ⟨rfl, hBalanced.1⟩

end Serving

end Ssh1

------------------------------------------------------------
-- The End of the Loop
------------------------------------------------------------

namespace Ssh1

open Recorded

variable {conf : ServerConf}
variable {received : List UInt8}

/- What keeps the buffers keeps them empty. -/
theorem Drained.same
    {state state' : LoopState}
    {events : List ServerEvent}
    {k : Ledger}
    (hDrained : Drained received state k)
    (hSame : SameBuffers state events state') :
    Drained received state' k := by
  refine ⟨hDrained.balanced.same hSame, fun stream => ?_⟩
  rw [hSame.output]
  exact hDrained.empty stream

/- All that the program wrote has been sent. -/
theorem Drained.sent
    {state : LoopState}
    {k : Ledger}
    (hDrained : Drained received state k) :
    k.toClient = k.fromProgram := by
  funext stream
  rw [hDrained.balanced.output, hDrained.empty,
    List.append_nil]

namespace Serving

/- With empty buffers there is nothing to drain. -/
theorem drained_drainOutput
    (channels : ChannelConf) :
    Watched (ledgerMonitor channels) (Drained received)
      (drainOutput channels) fun _ => Drained received := by
  have hDrain (stream : OutputStream) :
      Watched (ledgerMonitor channels) (Drained received)
        (drainBuffer channels stream) fun _ => Drained received := by
    refine Watched.get_bind fun read => ?_
    split
    · rename_i hSome
      rintro state k ⟨rfl, hDrained⟩
      rw [hDrained.empty stream] at hSome
      cases hSome
    · exact Watched.pure fun _ _ hPre => hPre.2
  exact (hDrain .stdout).bind fun _ => hDrain .stderr

/- Closing a descriptor passes no byte on. -/
theorem silent_closeKnown
    (known : Option Nat) :
    Silent (closeKnown known) := by
  cases known with
  | none => exact silent_indifferent.pure ()
  | some fd => exact silent_record (fun _ => rfl) nofun

/- The exit status comes after all output. -/
theorem drained_quit
    (input : QuitInput) :
    Watched (ledgerMonitor conf.channels) (Drained received)
      (quit conf input) fun _ _ _ => True := by
  have hSilent {α : Type}
      {m : Serving LoopState α}
      (hSilent : Silent m) :
      Watched (ledgerMonitor conf.channels) (Drained received) m
        fun _ => Drained received :=
    hSilent.watched fun _ _ _ _ hDrained hSame =>
      hDrained.same hSame
  have hClose : Silent closeDescriptors := by
    rw [closeDescriptors_eq]
    refine silent_indifferent.get_bind fun state => ?_
    refine silent_indifferent.bind (silent_closeKnown _)
      fun _ => ?_
    exact silent_indifferent.bind (silent_closeKnown _)
      fun _ => silent_closeKnown _
  unfold quit
  refine (drained_drainOutput conf.channels).bind fun _ => ?_
  refine (hSilent hClose).bind fun _ => ?_
  refine (hSilent (silent_changeTable _)).bind fun _ => ?_
  refine (hSilent (silent_sigchldHandler _)).bind fun _ => ?_
  refine (hSilent (silent_indifferent.exitStatus input)).bind
    fun status => ?_
  cases status with
  | exited status =>
      refine Watched.record ?_ fun _ _ _ => trivial
      intro state k hDrained packet hSent
      injection hSent with hSent
      subst hSent
      refine ⟨fun stream hType => ?_, fun _ => hDrained.sent⟩
      cases stream with
      | stdout => cases hType
      | stderr => cases hType
  | signaled signal =>
      exact (hSilent (silent_indifferent.packetDisconnect _)).mono
        (fun _ _ hPre => hPre) fun _ _ _ _ => trivial
  | other status =>
      exact (hSilent (silent_indifferent.packetDisconnect _)).mono
        (fun _ _ hPre => hPre) fun _ _ _ _ => trivial

end Serving

end Ssh1

------------------------------------------------------------
-- Main Results
------------------------------------------------------------

namespace Ssh1

open Recorded

/-
  All output was sent. What the client sent was written, up
  to what is left in the buffer of an input that is open, or
  that failed or was closed at the exit.
-/
structure Delivered
    (received : List UInt8)
    (state : LoopState)
    (k : Ledger) : Prop where
  output : k.toClient = k.fromProgram
  input : received = k.toProgram ++ state.stdinBuffer
  written :
    state.fdin = none → k.inputEnds = false →
      k.toProgram = received

/- Empty buffers mean that all is delivered. -/
theorem Drained.delivered
    {received : List UInt8}
    {state : LoopState}
    {k : Ledger}
    (hDrained : Drained received state k) :
    Delivered received state k := by
  refine ⟨hDrained.sent, hDrained.balanced.input, ?_⟩
  intro hNone hGoesOn
  rw [hDrained.balanced.input,
    hDrained.balanced.delivered hNone hGoesOn,
    List.append_nil]

/- Nothing has been read or written yet. -/
theorem initial_balanced
    (fdin fdout : Nat)
    (fderr : Option Nat)
    (table : ChannelTable) :
    Balanced [] (.initial fdin fdout fderr table)
      Ledger.none := by
  refine ⟨fun stream => ?_, rfl, nofun⟩
  cases stream with
  | stdout => rfl
  | stderr => rfl

/-
  Where the loop comes to its end, everything was delivered:
  what was read from the program, and what the packets of
  the client carried for its input while that was open. In
  the whole run the exit status comes after all output,
  and no packet with output is too big to be sent.
-/
theorem serverLoop_complete
    {conf : ServerConf}
    {inputs : List TurnInput}
    {quitInput : QuitInput}
    {fdin fdout : Nat}
    {fderr : Option Nat}
    {table : ChannelTable}
    {final : LoopState}
    (hSize : 4096 ≤ conf.channels.maxPacketSize)
    (hQuits :
      (Serving.turns conf inputs
        (.initial fdin fdout fderr table)).result =
          .ok (true, final)) :
    Delivered
        (acceptedInput conf inputs
          (.initial fdin fdout fderr table))
        final
        ((ledgerMonitor conf.channels).after Ledger.none
          (Serving.turns conf inputs
            (.initial fdin fdout fderr table)).events) ∧
      (serverLoop conf inputs quitInput
          (.initial fdin fdout fderr table)).events =
        (Serving.turns conf inputs
          (.initial fdin fdout fderr table)).events ++
          (Serving.quit conf quitInput final).events ∧
      (ledgerMonitor conf.channels).Accepts Ledger.none
        (serverLoop conf inputs quitInput
          (.initial fdin fdout fderr table)).events ∧
      ∀ stream room state, ∃ state',
        (Serving.makePackets conf.channels stream room
          state).result = .ok ((), state') := by
  have hTurns :=
    Serving.balanced_turns hSize inputs
      (.initial fdin fdout fderr table) _ Ledger.none
      ⟨rfl, initial_balanced fdin fdout fderr table⟩
  have hDrained := (hTurns.2 true final hQuits).2 rfl
  rw [List.nil_append] at hDrained
  have hQuit :=
    @Serving.drained_quit conf _ quitInput final _ hDrained
  have hEvents :
      (serverLoop conf inputs quitInput
          (.initial fdin fdout fderr table)).events =
        (Serving.turns conf inputs
          (.initial fdin fdout fderr table)).events ++
          (Serving.quit conf quitInput final).events := by
    unfold serverLoop
    rw [bind_apply]
    unfold andThen
    rw [hQuits]
    simp only [if_true, events_bind_pure]
  refine ⟨hDrained.delivered, hEvents, ?_,
    Serving.makePackets_ok hSize⟩
  rw [hEvents]
  exact (Monitor.accepts_append _ _ _ _).mpr
    ⟨hTurns.1, hQuit.1⟩

/- A packet with one byte for the program. -/
def typedPacket : ClientPacket where
  type := sshCmsgStdinData
  payload := bufferPutString [] [97]
  connecting := .refused

/- The byte arrives while the program ends its output. -/
def typedTurn (write : WriteResult) : TurnInput :=
  { idleTurn with
    polled := [.packet typedPacket]
    select := .ready (fun _ => true) fun _ => true
    write }

/- The loop comes to its end in the turn after that. -/
def typedTurns (write : WriteResult) : List TurnInput :=
  [typedTurn write, idleTurn]

/- A loop with three descriptors of the program. -/
def typedStart : LoopState :=
  .initial 4 5 (some 6) (.initial clearedMemory)

/- One letter is typed and written to the program. -/
theorem serverLoop_complete_sample :
    acceptedInput plainServer (typedTurns (.wrote 1))
        typedStart = [97] ∧
      ∃ final,
        Delivered
          (acceptedInput plainServer (typedTurns (.wrote 1))
            typedStart)
          final
          ((ledgerMonitor plainServer.channels).after Ledger.none
            (Serving.turns plainServer (typedTurns (.wrote 1))
              typedStart).events) := by
  have hQuits :
      ∃ final,
        (Serving.turns plainServer (typedTurns (.wrote 1))
          typedStart).result = .ok (true, final) :=
    ⟨_, rfl⟩
  have hSize : 4096 ≤ plainServer.channels.maxPacketSize := by
    decide
  rcases hQuits with
    ⟨final, hQuits⟩
  have hComplete :=
    @serverLoop_complete plainServer (typedTurns (.wrote 1))
      exitedZero 4 5 (some 6) (.initial clearedMemory) final
      hSize hQuits
  exact ⟨rfl, final, hComplete.1⟩

/- The byte is lost: the loop does not wait to write it. -/
theorem serverLoop_not_complete :
    ∃ final,
      (Serving.turns plainServer (typedTurns .wouldBlock)
          typedStart).result = .ok (true, final) ∧
        ((ledgerMonitor plainServer.channels).after Ledger.none
          (Serving.turns plainServer (typedTurns .wouldBlock)
            typedStart).events).inputEnds = false ∧
        acceptedInput plainServer (typedTurns .wouldBlock)
          typedStart = [97] ∧
        ((ledgerMonitor plainServer.channels).after Ledger.none
          (Serving.turns plainServer (typedTurns .wouldBlock)
            typedStart).events).toProgram = [] :=
  ⟨_, rfl, rfl, rfl, rfl⟩

end Ssh1
