import Ssh1.Server.Loop

/-
  Work that has nothing to do with the program.

  Channel messages, refusals and the end of the program leave
  alone what the loop knows of the output and the input. Such
  work keeps every relation that is indifferent to it.

  Main declarations:
    * `Indifferent`
    * `Indifferent.processPacket`
-/

------------------------------------------------------------
-- Indifference
------------------------------------------------------------

namespace Ssh1

open Recorded

/- Neither output of the program, nor its exit status. -/
structure ServerPacket.IsOther
    (packet : ServerPacket) : Prop where
  notData : ∀ stream : OutputStream,
    packet.type ≠ stream.dataType
  notStatus : packet.type ≠ sshSmsgExitstatus

/-
  Events and a relation that do not depend on the channels,
  on other packets, or on the end of the program.
-/
structure Indifferent
    (P : ServerEvent → Prop)
    (R : LoopState → List ServerEvent → LoopState → Prop) :
    Prop where
  composes : Composes R
  sent : ∀ packet : ServerPacket, packet.IsOther →
    P (.sent packet) ∧ ∀ state, R state [.sent packet] state
  reachedOut : ∀ host port,
    P (.reachedOut host port) ∧
      ∀ state, R state [.reachedOut host port] state
  table : ∀ state table, R state [] { state with table }
  exits : ∀ state : LoopState,
    R state []
      { state with
        childTerminated := true
        childJustTerminated := true }

/- A packet of another type carries no output and no status. -/
theorem ServerPacket.isOther_of_type
    {packet : ServerPacket}
    (hType :
      packet.type ∉
        [sshSmsgStdoutData, sshSmsgStderrData,
          sshSmsgExitstatus]) :
    packet.IsOther := by
  simp only [List.mem_cons, List.not_mem_nil, or_false,
    not_or] at hType
  rcases hType with
    ⟨hStdout, hStderr, hStatus⟩
  refine ⟨fun stream => ?_, hStatus⟩
  cases stream with
  | stdout => exact hStdout
  | stderr => exact hStderr

/- A disconnect message is none of the output. -/
theorem disconnectPacket_isOther
    (message : String) :
    (disconnectPacket message).IsOther := by
  apply ServerPacket.isOther_of_type
  change (1 : UInt8) ∉ _
  decide

theorem openFailurePacket_isOther
    (remoteChannel : Nat) :
    (openFailurePacket remoteChannel).IsOther := by
  apply ServerPacket.isOther_of_type
  change (22 : UInt8) ∉ _
  decide

end Ssh1

------------------------------------------------------------
-- Indifferent Work
------------------------------------------------------------

namespace Ssh1

open Recorded
open Serving

namespace Indifferent

variable {α : Type}
variable {P : ServerEvent → Prop}
variable {R : LoopState → List ServerEvent → LoopState → Prop}

/- A value alone changes nothing. -/
theorem pure
    (hR : Indifferent P R)
    (a : α) :
    Kept P R (Pure.pure a : Serving LoopState α) :=
  Kept.pure hR.composes a

/- Two pieces that keep the relation keep it together. -/
theorem bind
    {β : Type}
    {m : Serving LoopState α}
    {f : α → Serving LoopState β}
    (hR : Indifferent P R)
    (hFirst : Kept P R m)
    (hRest : ∀ a, Kept P R (f a)) :
    Kept P R (m >>= f) :=
  Kept.bind hR.composes hFirst hRest

/- Reading the state first makes no difference. -/
theorem get_bind
    {f : LoopState → Serving LoopState α}
    (hR : Indifferent P R)
    (hRest : ∀ state, Kept P R (f state)) :
    Kept P R (Recorded.get >>= f) :=
  hR.bind (Kept.get hR.composes) hRest

/- Sending a packet that is none of the output. -/
theorem packetSend
    (hR : Indifferent P R)
    {packet : ServerPacket}
    (hOther : packet.IsOther) :
    Kept P R (Serving.packetSend packet) :=
  Kept.record (hR.sent packet hOther).1
    (hR.sent packet hOther).2

theorem packetDisconnect
    (hR : Indifferent P R)
    (message : String) :
    Kept P R
      (Serving.packetDisconnect message :
        Serving LoopState α) :=
  hR.bind (hR.packetSend (disconnectPacket_isOther message))
    fun _ => Kept.stop _

/- The end of the server is no output. -/
theorem haltWith
    (hR : Indifferent P R)
    (halt : Halt) :
    Kept P R
      (Serving.haltWith halt : Serving LoopState α) := by
  cases halt with
  | disconnect message => exact hR.packetDisconnect message
  | fatal message => exact Kept.stop _
  | exit message => exact Kept.stop _
  | assertion => exact Kept.stop _
  | outOfBounds => exact Kept.stop _
  | diverges => exact Kept.stop _

theorem ofOutcome
    (hR : Indifferent P R)
    (x : Outcome α) :
    Kept P R (Serving.ofOutcome x) := by
  cases x with
  | ok a => exact hR.pure a
  | error halt => exact hR.haltWith halt

/- A value that may be missing, and what follows it. -/
theorem ofOutcome_bind
    {β : Type}
    (hR : Indifferent P R)
    (x : Outcome α)
    {f : α → Serving LoopState β}
    (hRest : ∀ a, Kept P R (f a)) :
    Kept P R (Serving.ofOutcome x >>= f) :=
  hR.bind (hR.ofOutcome x) hRest

/- The channel table is none of the output either. -/
theorem changeTable
    (hR : Indifferent P R)
    (f : ChannelTable → Outcome ChannelTable) :
    Kept P R (Serving.changeTable f) := by
  refine hR.get_bind fun state => ?_
  refine hR.ofOutcome_bind _ fun table => ?_
  exact Kept.modify fun state => hR.table state table

theorem sigchldHandler
    (hR : Indifferent P R)
    (arrives : Bool) :
    Kept P R (Serving.sigchldHandler arrives) := by
  unfold Serving.sigchldHandler
  split
  · exact Kept.modify hR.exits
  · exact hR.pure ()

theorem windowSize
    (hR : Indifferent P R)
    (payload : Buffer) :
    Kept P R (Serving.windowSize payload) := by
  refine hR.ofOutcome_bind _ fun _ => ?_
  refine hR.ofOutcome_bind _ fun _ => ?_
  refine hR.ofOutcome_bind _ fun _ => ?_
  exact hR.ofOutcome_bind _ fun _ => hR.pure ()

theorem denyPortOpen
    (hR : Indifferent P R)
    (payload : Buffer) :
    Kept P R (Serving.denyPortOpen payload) := by
  refine hR.ofOutcome_bind _ fun _ => ?_
  exact hR.packetSend (openFailurePacket_isOther _)

/- A channel that is opened or refused sends no output. -/
theorem portOpen
    (hR : Indifferent P R)
    (conf : ChannelConf)
    (packet : ClientPacket) :
    Kept P R (Serving.portOpen conf packet) := by
  refine hR.ofOutcome_bind _ fun read => ?_
  refine hR.ofOutcome_bind _ fun target => ?_
  cases target with
  | none => exact hR.changeTable _
  | some hostPort =>
      simp only []
      split
      · refine hR.bind ?_ fun _ => hR.changeTable _
        exact Kept.record (hR.reachedOut _ _).1
          (hR.reachedOut _ _).2
      · exact hR.changeTable _

/- A message for a channel leaves the output alone. -/
theorem channelMessage
    (hR : Indifferent P R)
    (conf : ChannelConf)
    (packet : ClientPacket) :
    Kept P R (Serving.channelMessage conf packet) := by
  refine hR.get_bind fun state => ?_
  refine hR.ofOutcome_bind _ fun message => ?_
  cases message with
  | none => exact hR.pure ()
  | some message => exact hR.changeTable _

/- A packet, where its input and its end are provided for. -/
theorem processPacket
    (hR : Indifferent P R)
    (conf : ServerConf)
    (packet : ClientPacket)
    (hStdin : Kept P R (stdinData packet.payload))
    (hEof :
      Kept P R
        (modify fun state => { state with stdinEof := true } :
          Serving LoopState Unit)) :
    Kept P R (Serving.processPacket conf packet) := by
  unfold Serving.processPacket
  split
  · exact hStdin
  split
  · exact hEof
  split
  · exact hR.windowSize _
  split
  · split
    · exact hR.denyPortOpen _
    · exact hR.portOpen _ _
  split
  · exact hR.channelMessage _ _
  · exact hR.packetDisconnect _

/- As long as one packet leaves the output alone, so does the
  loop over all that were polled. -/
theorem processBufferedInputPackets
    (hR : Indifferent P R)
    (conf : ServerConf)
    (polled : List Polled)
    (hPacket : ∀ packet,
      Kept P R (Serving.processPacket conf packet)) :
    Kept P R
      (Serving.processBufferedInputPackets conf polled) := by
  induction polled with
  | nil => exact hR.pure ()
  | cons poll polled ih =>
      cases poll with
      | ends halt => exact hR.haltWith halt
      | packet packet =>
          exact hR.bind (hPacket packet) fun _ => ih

/- Reading from the client leaves the output alone. -/
theorem readClient
    (hR : Indifferent P R)
    (read : ClientRead) :
    Kept P R (Serving.readClient read) := by
  cases read with
  | received => exact hR.pure ()
  | closed =>
      exact hR.haltWith
        (.fatal "Connection closed by remote host.")
  | failed cause =>
      exact hR.haltWith
        (.fatal ("Read error from remote host: " ++ cause))

/- The status is the last packet, and not part of the output. -/
theorem exitStatus
    (hR : Indifferent P R)
    (input : QuitInput) :
    Kept P R (Serving.exitStatus input) := by
  refine hR.get_bind fun state => ?_
  split
  · exact hR.pure _
  · cases input.wait with
    | error cause => exact hR.packetDisconnect _
    | ok status => exact hR.pure status

end Indifferent

end Ssh1
