import Ssh1.Server.Discipline
import Ssh1.Server.Preparation

/-
  What a session may not have.

  The options and the flags of the key forbid ptys, displays,
  agents and ports. Requests for these are refused before the
  session starts. In the session, only the flag of the key
  keeps the client from connecting to other hosts.

  Main declarations:
    * `PrepConf.Permits`, `PrepConf.Refuses`
    * `SparesPortOpen`
    * `interactiveSession_restricted`
-/

------------------------------------------------------------
-- Restrictions
------------------------------------------------------------

namespace Ssh1

open Recorded

namespace PrepConf

/- Ports may be forwarded. -/
def PermitsPorts (conf : PrepConf) : Prop :=
  conf.noPortForwardingFlag = false ∧
    conf.allowTcpForwarding = true

/- What may be made for the client. -/
def Permits
    (conf : PrepConf) : ServerEvent → Prop
| .allocatedPty => conf.noPtyFlag = false
| .listenedX11 =>
    conf.noX11ForwardingFlag = false ∧
      conf.x11Forwarding = true
| .listenedAgent => conf.noAgentForwardingFlag = false
| .listened _ => conf.PermitsPorts
| .reachedOut _ _ => conf.PermitsPorts
| _ => True

/- The requests for what may not be made. -/
inductive Refuses
    (conf : PrepConf) : UInt8 → Prop where
  | pty :
      conf.noPtyFlag = true →
        Refuses conf sshCmsgRequestPty
  | x11 :
      conf.noX11ForwardingFlag = true ∨
          conf.x11Forwarding = false →
        Refuses conf sshCmsgX11RequestForwarding
  | agent :
      conf.noAgentForwardingFlag = true →
        Refuses conf sshCmsgAgentRequestForwarding
  | port :
      ¬ conf.PermitsPorts →
        Refuses conf sshCmsgPortForwardRequest

end PrepConf

/- Debug messages, one failure, and the same state. -/
def AnsweredOnce
    (run :
      Run ServerEvent Halt PrepState (Option ExecRequest))
    (state : PrepState) : Prop :=
  ∃ messages : List String,
    run =
      ⟨(messages.map fun message =>
          ServerEvent.sent (debugPacket message)) ++
        [.sent failurePacket], .ok (none, state)⟩

/-
  No client asks the session for a connection that only the
  options forbid.
-/
def SparesPortOpen
    (conf : PrepConf)
    (turns : List TurnInput) : Prop :=
  conf.noPortForwardingFlag = false →
    conf.allowTcpForwarding = false →
      ∀ input ∈ turns, ∀ packet,
        .packet packet ∈ input.polled →
          packet.type ≠ sshMsgPortOpen

end Ssh1

------------------------------------------------------------
-- Preparation
------------------------------------------------------------

namespace Ssh1

open Recorded

namespace Preparing

variable {conf : PrepConf}
variable {α : Type}

/- Sending is always permitted. -/
theorem permits_packetSend
    {σ : Type}
    (packet : ServerPacket) :
    Always conf.Permits
      (Serving.packetSend packet : Serving σ Unit) :=
  Always.record trivial

/- A disconnect does nothing that could be forbidden. -/
theorem permits_packetDisconnect
    {σ : Type}
    (message : String) :
    Always conf.Permits
      (Serving.packetDisconnect message : Serving σ α) :=
  Always.bind (permits_packetSend _) fun _ => Always.stop _

theorem permits_haltWith
    {σ : Type}
    (halt : Halt) :
    Always conf.Permits
      (Serving.haltWith halt : Serving σ α) := by
  cases halt with
  | disconnect message => exact permits_packetDisconnect message
  | fatal message => exact Always.stop _
  | exit message => exact Always.stop _
  | assertion => exact Always.stop _
  | outOfBounds => exact Always.stop _
  | diverges => exact Always.stop _

theorem permits_ofOutcome
    {σ : Type}
    (x : Outcome α) :
    Always conf.Permits
      (Serving.ofOutcome x : Serving σ α) := by
  cases x with
  | ok a => exact Always.pure a
  | error halt => exact permits_haltWith halt

/- Nor does reading a field. -/
theorem permits_packetGet
    (get' : Buffer → Outcome (α × Buffer)) :
    Always conf.Permits (packetGet get') := by
  refine Always.bind Always.get fun state => ?_
  refine Always.bind (permits_ofOutcome _) fun read => ?_
  exact Always.bind (Always.modify _) fun _ => Always.pure _

/- Nor does a debug message. -/
theorem permits_packetSendDebug
    (message : String) :
    Always conf.Permits (packetSendDebug conf message) := by
  unfold packetSendDebug
  split
  · exact permits_packetSend _
  · exact Always.pure ()

/- A refusal is always permitted. -/
theorem permits_refuse
    (message : String) :
    Always conf.Permits (refuse conf message) := by
  refine Always.bind (Always.modify _) fun _ => ?_
  exact Always.bind (permits_packetSendDebug message)
    fun _ => Always.pure _

/- Compression is never forbidden. -/
theorem permits_requestCompression :
    Always conf.Permits (requestCompression conf) := by
  refine Always.bind (permits_packetGet _) fun level => ?_
  refine Always.bind (Always.modify _) fun _ => ?_
  split
  · exact Always.bind (permits_packetSendDebug _)
      fun _ => Always.pure _
  · exact Always.bind (Always.modify _) fun _ => Always.pure _

/- Nor is the size of a packet. -/
theorem permits_maxPacketSize :
    Always conf.Permits (maxPacketSize conf) := by
  refine Always.bind (permits_packetGet _) fun maxSize => ?_
  split
  · exact Always.bind (permits_packetSendDebug _)
      fun _ => Always.pure _
  · exact Always.bind (Always.modify _) fun _ => Always.pure _

theorem permits_readPty
    (ops : LocalOps) :
    Always conf.Permits (readPty conf ops) := by
  refine Always.bind (permits_packetGet _) fun term => ?_
  refine Always.bind (Always.modify _) fun _ => ?_
  refine Always.bind (permits_packetGet _) fun _ => ?_
  refine Always.bind (permits_packetGet _) fun _ => ?_
  refine Always.bind (permits_packetGet _) fun _ => ?_
  refine Always.bind (permits_packetGet _) fun _ => ?_
  refine Always.bind (permits_packetGet _) fun _ => ?_
  exact Always.bind (Always.modify _) fun _ => Always.pure _

/- The terminal is allocated behind the test of its flag. -/
theorem permits_requestPty
    (ops : LocalOps) :
    Always conf.Permits (requestPty conf ops) := by
  unfold requestPty
  split
  · exact Always.bind (Always.modify _) fun _ => Always.pure _
  · rename_i hAllowed
    refine Always.bind Always.get fun state => ?_
    split
    · exact permits_packetDisconnect _
    split
    · exact Always.bind (Always.modify _)
        fun _ => Always.pure _
    · have hPty : conf.Permits .allocatedPty := by
        change conf.noPtyFlag = false
        simpa using hAllowed
      refine Always.bind (Always.record hPty) fun _ => ?_
      split
      · exact Always.pure _
      split
      · exact Always.pure _
      · exact permits_readPty ops

/- The display is opened by a caller that may. -/
theorem permits_x11CreateDisplayInet
    (hX11 : conf.Permits .listenedX11)
    (socket : X11Socket)
    (screen : Int) :
    Always conf.Permits (x11CreateDisplayInet socket screen) := by
  cases socket with
  | failed => exact Always.pure _
  | noHostname cause =>
      exact Always.bind (Always.record hX11)
        fun _ => permits_haltWith _
  | created sock display =>
      refine Always.bind (Always.record hX11) fun _ => ?_
      refine Always.bind Always.get fun state => ?_
      refine Always.bind (permits_ofOutcome _) fun table => ?_
      exact Always.bind (Always.modify _) fun _ => Always.pure _

/- Both tests stand before the display. -/
theorem permits_x11RequestForwarding
    (ops : LocalOps) :
    Always conf.Permits (x11RequestForwarding conf ops) := by
  unfold x11RequestForwarding
  split
  · exact permits_refuse _
  split
  · exact permits_refuse _
  · rename_i hOption hFlag
    have hX11 : conf.Permits .listenedX11 :=
      ⟨by simpa using hFlag, by simpa using hOption⟩
    refine Always.bind Always.get fun state => ?_
    split
    · exact permits_packetDisconnect _
    split
    · exact permits_refuse _
    · refine Always.bind (permits_packetGet _) fun proto => ?_
      refine Always.bind (permits_packetGet _) fun data => ?_
      refine Always.bind (Always.modify _) fun _ => ?_
      refine Always.bind Always.get fun state => ?_
      split
      · exact Always.bind (permits_packetGet _)
          fun screen =>
            permits_x11CreateDisplayInet hX11 _ screen
      · exact permits_x11CreateDisplayInet hX11 _ 0

theorem permits_sendMessages
    (messages : List String) :
    Always conf.Permits (sendMessages conf messages) := by
  induction messages with
  | nil => exact Always.pure ()
  | cons message messages ih =>
      exact Always.bind (permits_packetSendDebug message)
        fun _ => ih

/- The agent's socket stands behind the test of its flag. -/
theorem permits_agentRequestForwarding
    (ops : LocalOps) :
    Always conf.Permits (agentRequestForwarding conf ops) := by
  unfold agentRequestForwarding
  split
  · exact Always.bind (Always.modify _) fun _ => Always.pure _
  split
  · exact Always.pure _
  · rename_i hFlag _
    have hAgent : conf.Permits .listenedAgent := by
      change conf.noAgentForwardingFlag = false
      simpa using hFlag
    refine Always.bind Always.get fun state => ?_
    split
    · exact permits_haltWith _
    · refine Always.bind (Always.modify _) fun _ => ?_
      cases ops.agentSocket with
      | refused messages =>
          exact Always.bind (permits_sendMessages messages)
            fun _ => Always.pure _
      | failed message => exact permits_packetDisconnect _
      | created sock path =>
          refine Always.bind (Always.record hAgent)
            fun _ => ?_
          refine Always.bind Always.get fun state => ?_
          refine Always.bind (permits_ofOutcome _)
            fun table => ?_
          exact Always.bind (Always.modify _)
            fun _ => Always.pure _

/- A port is listened on by a caller that may. -/
theorem permits_listenOn
    (hPorts : conf.PermitsPorts)
    (port : Int)
    (hostname : List UInt8)
    (hostPort : Int)
    (listening : Except String Int) :
    Always conf.Permits
      (listenOn port hostname hostPort listening) := by
  have hRest :
      Always conf.Permits
        (do
          let state ← get
          let table ←
            Serving.ofOutcome
              (channelRequestLocalForwarding port hostname
                hostPort listening state.table)
          modify fun state => { state with table }
          return .success :
          Serving PrepState RequestResult) := by
    refine Always.bind Always.get fun state => ?_
    refine Always.bind (permits_ofOutcome _) fun table => ?_
    exact Always.bind (Always.modify _) fun _ => Always.pure _
  have hListened : conf.Permits (.listened port) := hPorts
  cases listening with
  | error message => exact hRest
  | ok sock =>
      unfold listenOn
      simp only []
      split
      · exact Always.bind (Always.record hListened)
          fun _ => hRest
      · exact hRest

/- Both tests stand before the listening socket. -/
theorem permits_portForwardRequest
    (ops : LocalOps) :
    Always conf.Permits (portForwardRequest conf ops) := by
  unfold portForwardRequest
  split
  · exact Always.bind (Always.modify _) fun _ => Always.pure _
  · rename_i hAllowed
    have hPorts : conf.PermitsPorts := by
      simpa [PrepConf.PermitsPorts] using hAllowed
    refine Always.bind (permits_packetGet _) fun port => ?_
    refine Always.bind (permits_packetGet _) fun string => ?_
    refine Always.bind (permits_packetGet _) fun hostPort => ?_
    simp only []
    split
    · exact permits_packetDisconnect _
    split
    · exact permits_packetDisconnect _
    · exact permits_listenOn hPorts _ _ _ _

/- The cases of the request, one by one. -/
theorem permits_processRequest
    (ops : LocalOps)
    (type : UInt8) :
    Always conf.Permits (processRequest conf ops type) := by
  unfold processRequest
  split
  · exact permits_requestCompression
  split
  · exact permits_maxPacketSize
  split
  · exact permits_requestPty ops
  split
  · exact permits_x11RequestForwarding ops
  split
  · exact permits_agentRequestForwarding ops
  split
  · exact permits_portForwardRequest ops
  split
  · refine Always.bind (Always.modify _) fun _ => ?_
    cases conf.forcedCommand with
    | none => exact Always.pure _
    | some forced => exact Always.pure _
  split
  · refine Always.bind (Always.modify _) fun _ => ?_
    exact Always.bind (permits_packetGet _)
      fun command => Always.pure _
  · exact Always.bind (Always.modify _) fun _ => Always.pure _

theorem permits_reportSuccess :
    Always conf.Permits reportSuccess := by
  refine Always.bind (permits_packetSend _) fun _ => ?_
  refine Always.bind Always.get fun state => ?_
  split
  · refine Always.bind (Always.modify _) fun _ => ?_
    refine Always.bind Always.get fun state => ?_
    split
    · exact permits_haltWith _
    · exact Always.modify _
  · exact Always.pure ()

/- Taking a packet does nothing yet. -/
theorem permits_takePacket
    (body : Buffer) :
    Always conf.Permits (takePacket body) := by
  refine Always.bind Always.get fun state => ?_
  split
  · exact permits_packetDisconnect _
  · refine Always.bind (permits_ofOutcome _) fun read => ?_
    exact Always.bind (Always.modify _) fun _ =>
      Always.pure _

/- One turn of the loop makes what may be made. -/
theorem permits_turn
    (body : Buffer)
    (ops : LocalOps) :
    Always conf.Permits (turn conf body ops) := by
  refine Always.bind (permits_takePacket body) fun taken => ?_
  cases taken with
  | none => exact Always.pure _
  | some type =>
      refine Always.bind (permits_processRequest ops type)
        fun result => ?_
      cases result with
      | success =>
          exact Always.bind permits_reportSuccess
            fun _ => Always.pure _
      | failure =>
          refine Always.bind ?_ fun _ => Always.pure _
          exact Always.bind (Always.modify _)
            fun _ => permits_packetSend _
      | exec request => exact Always.pure _

end Preparing

/- And so does the whole preparation. -/
theorem permits_doAuthenticated
    {conf : PrepConf}
    (inputs : List PrepInput) :
    Always conf.Permits (doAuthenticated conf inputs) := by
  induction inputs with
  | nil => exact Always.pure _
  | cons input inputs ih =>
      cases input with
      | ends halt => exact Preparing.permits_haltWith halt
      | packet body ops =>
          refine Always.bind (Preparing.permits_turn body ops)
            fun request => ?_
          cases request with
          | none => exact ih
          | some request => exact Always.pure _

end Ssh1

------------------------------------------------------------
-- The Session
------------------------------------------------------------

namespace Ssh1

open Recorded
open Preparing

variable {conf : PrepConf}

namespace Serving

/- The table changes, and no one outside sees it. -/
theorem permits_changeTable
    (f : ChannelTable → Outcome ChannelTable) :
    Always conf.Permits (changeTable f) := by
  refine Always.bind Always.get fun state => ?_
  refine Always.bind (permits_ofOutcome _) fun table => ?_
  exact Always.modify _

theorem permits_sigchldHandler
    (arrives : Bool) :
    Always conf.Permits (sigchldHandler arrives) := by
  unfold sigchldHandler
  split
  · exact Always.modify _
  · exact Always.pure ()

/- Input for the program is never forbidden. -/
theorem permits_stdinData
    (payload : Buffer) :
    Always conf.Permits (stdinData payload) := by
  refine Always.bind Always.get fun state => ?_
  cases state.fdin with
  | none => exact Always.pure ()
  | some fd =>
      exact Always.bind (permits_ofOutcome _)
        fun read => Always.modify _

theorem permits_windowSize
    (payload : Buffer) :
    Always conf.Permits (windowSize payload) := by
  refine Always.bind (permits_ofOutcome _) fun _ => ?_
  refine Always.bind (permits_ofOutcome _) fun _ => ?_
  refine Always.bind (permits_ofOutcome _) fun _ => ?_
  exact Always.bind (permits_ofOutcome _)
    fun _ => Always.pure ()

/- A connection is made by a caller that may. -/
theorem permits_portOpen
    (hPorts : conf.PermitsPorts)
    (channels : ChannelConf)
    (packet : ClientPacket) :
    Always conf.Permits (portOpen channels packet) := by
  have hReached (host : List UInt8) (port : Int) :
      conf.Permits (.reachedOut host port) :=
    hPorts
  refine Always.bind (permits_ofOutcome _) fun read => ?_
  refine Always.bind (permits_ofOutcome _) fun target => ?_
  cases target with
  | none => exact permits_changeTable _
  | some hostPort =>
      simp only []
      split
      · exact Always.bind (Always.record (hReached _ _))
          fun _ => permits_changeTable _
      · exact permits_changeTable _

/- A packet that is no reason for the options to matter. -/
theorem permits_processPacket
    (prep : PrepState)
    (packet : ClientPacket)
    (hSpared :
      conf.noPortForwardingFlag = false →
        conf.allowTcpForwarding = false →
          packet.type ≠ sshMsgPortOpen) :
    Always conf.Permits
      (processPacket (conf.serverConf prep) packet) := by
  unfold processPacket
  split
  · exact permits_stdinData _
  split
  · exact Always.modify _
  split
  · exact permits_windowSize _
  split
  · rename_i hPortOpen
    split
    · exact Always.bind (permits_ofOutcome _)
        fun _ => permits_packetSend _
    · rename_i hFlag
      have hFlag : conf.noPortForwardingFlag = false :=
        eq_false_of_ne_true hFlag
      refine permits_portOpen ⟨hFlag, ?_⟩ _ _
      cases hTcp : conf.allowTcpForwarding with
      | true => rfl
      | false => exact (hSpared hFlag hTcp hPortOpen).elim
  split
  · refine Always.bind Always.get fun state => ?_
    refine Always.bind (permits_ofOutcome _) fun message => ?_
    cases message with
    | none => exact Always.pure ()
    | some message => exact permits_changeTable _
  · exact permits_packetDisconnect _

/- The packets that were polled, none of them the one that
  only the flag of the key would have refused. -/
theorem permits_processBufferedInputPackets
    (prep : PrepState)
    (polled : List Polled)
    (hSpared :
      conf.noPortForwardingFlag = false →
        conf.allowTcpForwarding = false →
          ∀ packet, .packet packet ∈ polled →
            packet.type ≠ sshMsgPortOpen) :
    Always conf.Permits
      (processBufferedInputPackets (conf.serverConf prep)
        polled) := by
  induction polled with
  | nil => exact Always.pure ()
  | cons poll polled ih =>
      cases poll with
      | ends halt => exact permits_haltWith halt
      | packet packet =>
          refine Always.bind
            (permits_processPacket prep packet ?_) fun _ => ?_
          · intro hFlag hTcp
            exact hSpared hFlag hTcp packet List.mem_cons_self
          · refine ih fun hFlag hTcp packet' hMem => ?_
            exact hSpared hFlag hTcp packet'
              (List.mem_cons_of_mem _ hMem)

theorem permits_sendData
    (channels : ChannelConf)
    (type : UInt8)
    (data : List UInt8) :
    Always conf.Permits (sendData channels type data) := by
  unfold sendData
  simp only []
  split
  · exact Always.stop _
  · exact permits_packetSend _

/- Sending the program's output is never forbidden. -/
theorem permits_makePackets
    (channels : ChannelConf)
    (stream : OutputStream)
    (room : Nat) :
    Always conf.Permits (makePackets channels stream room) := by
  induction room with
  | zero => exact Always.pure ()
  | succ room ih =>
      refine Always.bind Always.get fun state => ?_
      simp only []
      split
      · refine Always.bind (permits_sendData _ _ _)
          fun _ => ?_
        refine Always.bind (permits_ofOutcome _)
          fun rest => ?_
        exact Always.bind (Always.modify _) fun _ => ih
      · exact Always.pure ()

theorem permits_makePacketsFromStdoutData
    (channels : ChannelConf)
    (room : Nat) :
    Always conf.Permits
      (makePacketsFromStdoutData channels room) := by
  refine Always.bind Always.get fun state => ?_
  simp only []
  split
  · exact Always.modify _
  · exact Always.bind (permits_makePackets _ _ _)
      fun _ => Always.modify _

theorem permits_closeStdin
    (fd : Nat) :
    Always conf.Permits (closeStdin fd) := by
  refine Always.bind Always.get fun state => ?_
  simp only []
  split
  · exact Always.bind (Always.record trivial)
      fun _ => Always.modify _
  · exact Always.bind (Always.record trivial)
      fun _ => Always.modify _

/- Closing the program's input is never forbidden. -/
theorem permits_closeStdinAtEof :
    Always conf.Permits closeStdinAtEof := by
  refine Always.bind Always.get fun state => ?_
  cases state.fdin with
  | none => exact Always.pure ()
  | some fd =>
      simp only []
      split
      · exact permits_closeStdin fd
      · exact Always.pure ()

/- Nor is closing its output. -/
theorem permits_closeAtEof
    (stream : OutputStream) :
    Always conf.Permits (closeAtEof stream) := by
  refine Always.bind Always.get fun state => ?_
  cases state.fd stream with
  | none => exact Always.pure ()
  | some fd =>
      simp only []
      split
      · exact Always.bind (Always.record trivial)
          fun _ => Always.modify _
      · exact Always.pure ()

theorem permits_afterVainSelect :
    Always conf.Permits afterVainSelect := by
  have hClose : Always conf.Permits closeAfterExit := by
    refine Always.bind (Always.record trivial) fun _ => ?_
    refine Always.bind (permits_closeAtEof .stdout)
      fun _ => ?_
    refine Always.bind (permits_closeAtEof .stderr)
      fun _ => ?_
    refine Always.bind Always.get fun state => ?_
    cases state.fdin with
    | none => exact Always.pure ()
    | some fd =>
        exact Always.bind (Always.record trivial)
          fun _ => Always.modify _
  refine Always.bind Always.get fun state => ?_
  simp only []
  split
  · exact Always.bind hClose fun _ => Always.pure _
  · exact Always.pure _

/- Waiting does nothing that could be forbidden. -/
theorem permits_waitUntilCanDoSomething
    (channels : ChannelConf)
    (input : TurnInput) :
    Always conf.Permits
      (waitUntilCanDoSomething channels input) := by
  rw [waitUntilCanDoSomething_eq]
  refine Always.bind (Always.modify _) fun _ => ?_
  refine Always.bind Always.get fun state => ?_
  refine Always.bind ?_ fun readFds => ?_
  · unfold selectedOutputs
    split
    · refine Always.bind (permits_ofOutcome _) fun _ => ?_
      exact Always.bind (permits_ofOutcome _)
        fun _ => Always.pure _
    · exact Always.pure _
  · refine Always.bind (permits_changeTable _) fun _ => ?_
    refine Always.bind (Always.record trivial) fun _ => ?_
    refine Always.bind (permits_sigchldHandler _) fun _ => ?_
    cases input.select with
    | ready readable writable => exact Always.pure _
    | failed => exact permits_afterVainSelect
    | timeout => exact permits_afterVainSelect

/- Reading what `select` has found ready. -/
theorem permits_processInput
    (input : TurnInput)
    (ready : ReadySet) :
    Always conf.Permits (processInput input ready) := by
  have hRead (stream : OutputStream) (data : List UInt8) :
      Always conf.Permits (readOutput ready stream data) := by
    refine Always.bind Always.get fun state => ?_
    cases state.fd stream with
    | none => exact Always.pure ()
    | some fd =>
        simp only []
        split
        · refine Always.bind (Always.record trivial)
            fun _ => ?_
          split
          · exact Always.modify _
          · exact Always.modify _
        · exact Always.pure ()
  have hClient :
      Always conf.Permits (readClient input.clientRead) := by
    cases input.clientRead with
    | received => exact Always.pure ()
    | closed => exact Always.stop _
    | failed cause => exact Always.stop _
  have hOutput :=
    Always.bind (hRead .stdout (input.outputRead .stdout))
      fun _ => hRead .stderr (input.outputRead .stderr)
  unfold processInput
  split
  · exact Always.bind hClient fun _ => hOutput
  · exact hOutput

/- Writing to what `select` has found ready. -/
theorem permits_processOutput
    (input : TurnInput)
    (ready : ReadySet) :
    Always conf.Permits (processOutput input ready) := by
  have hFails (fd : Nat) :
      Always conf.Permits
        (do
          record (.writeFailed fd)
          closeStdin fd : Serving LoopState Unit) :=
    Always.bind (Always.record trivial)
      fun _ => permits_closeStdin fd
  have hWrite (fd : Nat) :
      Always conf.Permits (writeStdin fd input.write) := by
    refine Always.bind Always.get fun state => ?_
    cases input.write with
    | wouldBlock => exact Always.record trivial
    | failed => exact hFails fd
    | wrote len =>
        simp only []
        split
        · exact hFails fd
        · refine Always.bind (Always.record trivial)
            fun _ => ?_
          exact Always.bind (permits_ofOutcome _)
            fun _ => Always.modify _
  refine Always.bind Always.get fun state => ?_
  cases state.fdin with
  | none => exact permits_ofOutcome _
  | some fd =>
      simp only []
      split
      · exact Always.bind (hWrite fd)
          fun _ => permits_ofOutcome _
      · exact permits_ofOutcome _

/- The loop ends when the descriptors are closed. -/
theorem permits_bailOut
    (input : TurnInput) :
    Always conf.Permits (bailOut input) := by
  refine Always.bind Always.get fun state => ?_
  split
  · split
    · exact Always.pure _
    · split
      · refine Always.bind ?_ fun _ => Always.pure _
        exact Always.bind (Always.record trivial)
          fun _ => Always.modify _
      · exact Always.pure _
  · exact Always.pure _

theorem permits_turnWait
    (server : ServerConf)
    (input : TurnInput) :
    Always conf.Permits (turnWait server input) := by
  refine Always.bind (permits_sigchldHandler _) fun _ => ?_
  refine Always.bind (permits_waitUntilCanDoSomething _ input)
    fun ready => ?_
  refine Always.bind (permits_changeTable _) fun _ => ?_
  refine Always.bind (permits_processInput input ready)
    fun _ => ?_
  exact permits_processOutput input ready

/- The second half of a turn, with the packets in it. -/
theorem permits_turnOutput
    (prep : PrepState)
    (input : TurnInput)
    (hSpared : SparesPortOpen conf [input]) :
    Always conf.Permits
      (turnOutput (conf.serverConf prep) input) := by
  refine Always.bind
    (permits_processBufferedInputPackets prep input.polled
      fun hFlag hTcp =>
        hSpared hFlag hTcp input List.mem_cons_self)
    fun _ => ?_
  refine Always.bind permits_closeStdinAtEof fun _ => ?_
  refine Always.bind (permits_makePackets _ _ _) fun _ => ?_
  refine Always.bind (permits_makePacketsFromStdoutData _ _)
    fun _ => ?_
  refine Always.bind (permits_changeTable _) fun _ => ?_
  refine Always.bind (permits_sigchldHandler _) fun _ => ?_
  exact permits_bailOut input

/- By induction on the turns. -/
theorem permits_turns
    (prep : PrepState)
    (inputs : List TurnInput)
    (hSpared : SparesPortOpen conf inputs) :
    Always conf.Permits
      (turns (conf.serverConf prep) inputs) := by
  induction inputs with
  | nil => exact Always.pure _
  | cons input inputs ih =>
      rw [turns_cons]
      refine Always.bind (permits_turnOutput prep input ?_)
        fun quits => ?_
      · intro hFlag hTcp input' hMem
        rw [List.mem_singleton] at hMem
        exact hSpared hFlag hTcp input'
          (hMem ▸ List.mem_cons_self)
      cases quits with
      | true => exact Always.pure _
      | false =>
          refine Always.bind (permits_turnWait _ input)
            fun _ => ih ?_
          intro hFlag hTcp input' hMem
          exact hSpared hFlag hTcp input'
            (List.mem_cons_of_mem _ hMem)

/- The end of the session is never forbidden. -/
theorem permits_quit
    (server : ServerConf)
    (input : QuitInput) :
    Always conf.Permits (quit server input) := by
  have hDrain (stream : OutputStream) :
      Always conf.Permits
        (drainBuffer server.channels stream) := by
    refine Always.bind Always.get fun state => ?_
    split
    · exact permits_sendData _ _ _
    · exact Always.pure ()
  have hClose (known : Option Nat) :
      Always conf.Permits (closeKnown known) := by
    cases known with
    | none => exact Always.pure ()
    | some fd => exact Always.record trivial
  have hStatus : Always conf.Permits (exitStatus input) := by
    refine Always.bind Always.get fun state => ?_
    split
    · exact Always.pure _
    · cases input.wait with
      | error cause => exact permits_packetDisconnect _
      | ok status => exact Always.pure _
  refine Always.bind
    (Always.bind (hDrain .stdout) fun _ => hDrain .stderr)
    fun _ => ?_
  refine Always.bind ?_ fun _ => ?_
  · rw [closeDescriptors_eq]
    refine Always.bind Always.get fun state => ?_
    refine Always.bind (hClose _) fun _ => ?_
    exact Always.bind (hClose _) fun _ => hClose _
  refine Always.bind (permits_changeTable _) fun _ => ?_
  refine Always.bind (permits_sigchldHandler _) fun _ => ?_
  refine Always.bind hStatus fun status => ?_
  cases status with
  | exited status => exact permits_packetSend _
  | signaled signal => exact permits_packetDisconnect _
  | other status => exact permits_packetDisconnect _

end Serving

/- All the turns and the end. -/
theorem permits_serverLoop
    (prep : PrepState)
    (inputs : List TurnInput)
    (quitInput : QuitInput)
    (hSpared : SparesPortOpen conf inputs) :
    Always conf.Permits
      (serverLoop (conf.serverConf prep) inputs
        quitInput) := by
  refine Always.bind (Serving.permits_turns prep inputs hSpared)
    fun quits => ?_
  cases quits with
  | false => exact Always.pure _
  | true =>
      exact Always.bind (Serving.permits_quit _ quitInput)
        fun _ => Always.pure _

end Ssh1

------------------------------------------------------------
-- Refusals
------------------------------------------------------------

namespace Ssh1

open Recorded

namespace Preparing

variable {conf : PrepConf}

/- The packet is taken if nothing is left of the last one. -/
theorem takePacket_request
    {type : UInt8}
    (payload : Buffer)
    {state : PrepState}
    (hEmpty : state.incomingPacket = [])
    (hRequest : type ∉ handledTypes) :
    takePacket (type :: payload) state =
      ⟨[], .ok (some type,
        { state with incomingPacket := payload })⟩ := by
  have hOpen := openPacket_other payload hRequest
  unfold takePacket
  rw [bind_apply, get_apply, andThen_ok]
  simp only [hEmpty, List.length_nil, ne_eq,
    not_true_eq_false, if_false, hOpen, Serving.ofOutcome,
    return_bind]
  rfl

/- A request that is refused with a message. -/
theorem refuse_apply
    (message : String)
    (state : PrepState) :
    refuse conf message state =
      ⟨if conf.packetDebugOn then
          [.sent (debugPacket message)]
        else
          [],
        .ok (.failure,
          { state with incomingPacket := [] })⟩ := by
  unfold refuse packetSendDebug
  cases conf.packetDebugOn with
  | true => rfl
  | false => rfl

/- Refusals change nothing but the packet. -/
theorem processRequest_refused
    {type : UInt8}
    (ops : LocalOps)
    (state : PrepState)
    (hRefuses : conf.Refuses type) :
    ∃ messages : List String,
      processRequest conf ops type state =
        ⟨messages.map fun message =>
            ServerEvent.sent (debugPacket message),
          .ok (.failure,
            { state with incomingPacket := [] })⟩ := by
  have hMessage (message : String) :
      ∃ messages : List String,
        refuse conf message state =
          ⟨messages.map fun message =>
              ServerEvent.sent (debugPacket message),
            .ok (.failure,
              { state with incomingPacket := [] })⟩ := by
    rw [refuse_apply]
    cases conf.packetDebugOn with
    | true => exact ⟨[message], rfl⟩
    | false => exact ⟨[], rfl⟩
  cases hRefuses with
  | pty hFlag =>
      refine ⟨[], ?_⟩
      change requestPty conf ops state = _
      unfold requestPty
      rw [if_pos hFlag]
      rfl
  | x11 hForbidden =>
      change ∃ messages, x11RequestForwarding conf ops state = _
      unfold x11RequestForwarding
      cases hOption : conf.x11Forwarding with
      | false =>
          rw [if_pos (by decide)]
          exact hMessage _
      | true =>
          have hFlag : conf.noX11ForwardingFlag = true := by
            rw [hOption] at hForbidden
            exact hForbidden.resolve_right nofun
          rw [if_neg (by decide), if_pos hFlag]
          exact hMessage _
  | agent hFlag =>
      refine ⟨[], ?_⟩
      change agentRequestForwarding conf ops state = _
      unfold agentRequestForwarding
      rw [if_pos hFlag]
      rfl
  | port hForbidden =>
      refine ⟨[], ?_⟩
      change portForwardRequest conf ops state = _
      unfold portForwardRequest
      have hRefused :
          conf.noPortForwardingFlag ∨
            ¬ conf.allowTcpForwarding := by
        unfold PrepConf.PermitsPorts at hForbidden
        cases hFlag : conf.noPortForwardingFlag with
        | true => exact Or.inl rfl
        | false => exact Or.inr fun hTcp =>
            hForbidden ⟨hFlag, hTcp⟩
      rw [if_pos hRefused]
      rfl

/- A refused request is answered by one failure. -/
theorem turn_refused
    {type : UInt8}
    (payload : Buffer)
    (ops : LocalOps)
    {state : PrepState}
    (hRefuses : conf.Refuses type)
    (hEmpty : state.incomingPacket = []) :
    AnsweredOnce (turn conf (type :: payload) ops state)
      state := by
  have hRequest : type ∉ handledTypes := by
    cases hRefuses with
    | pty _ => decide
    | x11 _ => decide
    | agent _ => decide
    | port _ => decide
  have hTaken := takePacket_request payload hEmpty hRequest
  rcases processRequest_refused ops
      { state with incomingPacket := payload } hRefuses with
    ⟨messages, hRefused⟩
  refine ⟨messages, ?_⟩
  have hState : { state with incomingPacket := [] } = state := by
    cases state
    cases hEmpty
    rfl
  have hTurn :
      turn conf (type :: payload) ops state =
        ⟨[] ++
            ((messages.map fun message =>
              ServerEvent.sent (debugPacket message)) ++
              [.sent failurePacket]),
          .ok (none, { state with incomingPacket := [] })⟩ :=
    bind_of_ok hTaken (bind_of_ok hRefused rfl)
  rw [hTurn, hState, List.nil_append]

end Preparing

/- A refused connection is answered by one failure. -/
theorem processPacket_denied
    {conf : PrepConf}
    (prep : PrepState)
    {packet : ClientPacket}
    {state : LoopState}
    {remoteChannel : Nat}
    {rest : Buffer}
    (hFlag : conf.noPortForwardingFlag = true)
    (hType : packet.type = sshMsgPortOpen)
    (hRead :
      bufferGetInt packet.payload = .ok (remoteChannel, rest)) :
    Serving.processPacket (conf.serverConf prep) packet state =
      ⟨[.sent (openFailurePacket remoteChannel)],
        .ok ((), state)⟩ := by
  have hFlag :
      (conf.serverConf prep).noPortForwardingFlag = true :=
    hFlag
  have hOthers :
      sshMsgPortOpen ≠ sshCmsgStdinData ∧
        sshMsgPortOpen ≠ sshCmsgEof ∧
        sshMsgPortOpen ≠ sshCmsgWindowSize := by
    decide
  unfold Serving.processPacket
  rw [hType, if_neg hOthers.1, if_neg hOthers.2.1,
    if_neg hOthers.2.2, if_pos rfl, if_pos hFlag]
  unfold Serving.denyPortOpen
  rw [hRead]
  rfl

end Ssh1

------------------------------------------------------------
-- Main Results
------------------------------------------------------------

namespace Ssh1

open Recorded

/-
  A session makes what the options and the flags permit,
  where no client asks for a connection that only the options
  forbid. Each request that is refused gets one failure, and
  changes nothing.
-/
theorem interactiveSession_restricted
    {conf : PrepConf}
    {input : SessionInput}
    {memory : Nat → Channel}
    (hSpared : SparesPortOpen conf input.turns) :
    (∀ event ∈
        interactiveSession conf input (.initial memory),
      conf.Permits event) ∧
      (∀ type payload ops state,
        conf.Refuses type → state.incomingPacket = [] →
          AnsweredOnce
            (Preparing.turn conf (type :: payload) ops state)
            state) ∧
      ∀ turn ∈ input.turns, ∀ packet,
        .packet packet ∈ turn.polled →
          packet.type = sshMsgPortOpen →
            ¬ conf.PermitsPorts →
              ∀ prep state remoteChannel rest,
                bufferGetInt packet.payload =
                    .ok (remoteChannel, rest) →
                  Serving.processPacket (conf.serverConf prep)
                      packet state =
                    ⟨[.sent (openFailurePacket remoteChannel)],
                      .ok ((), state)⟩ := by
  refine ⟨?_, ?_, ?_⟩
  · intro event hMem
    have hPrepared :=
      @permits_doAuthenticated conf input.requests
        (.initial memory)
    unfold interactiveSession at hMem
    simp only [] at hMem
    split at hMem
    · rename_i request state hResult
      rcases List.mem_append.mp hMem with hMem | hMem
      · exact hPrepared event hMem
      · unfold runProgram at hMem
        split at hMem
        · rw [List.mem_singleton.mp hMem]
          exact trivial
        · exact permits_serverLoop state input.turns
            input.quit hSpared _ event hMem
    · exact hPrepared event hMem
  · intro type payload ops state hRefuses hEmpty
    exact Preparing.turn_refused payload ops hRefuses hEmpty
  · intro turn hTurn packet hPacket hType hForbidden prep state
      remoteChannel rest hRead
    refine processPacket_denied prep ?_ hType hRead
    cases hFlag : conf.noPortForwardingFlag with
    | true => rfl
    | false =>
        cases hTcp : conf.allowTcpForwarding with
        | true => exact (hForbidden ⟨hFlag, hTcp⟩).elim
        | false =>
            exact (hSpared hFlag hTcp turn hTurn packet hPacket
              hType).elim

/- A build without modes of terminals. -/
def bareTermios : TermiosBuild where
  index := fun _ => none
  mask := fun _ => none
  csize := 0
  speed := fun _ => none
  b9600 := 13

/- The options forbid to forward ports, the key does not. -/
def noTcpConf : PrepConf where
  noPtyFlag := false
  noPortForwardingFlag := false
  noAgentForwardingFlag := false
  noX11ForwardingFlag := false
  forcedCommand := none
  allowTcpForwarding := false
  x11Forwarding := true
  packetDebugOn := false
  oldAgentBug := false
  screenNumber := true
  haveHostnameInOpen := false
  runsAsRoot := true
  userIsRoot := false
  termios := bareTermios

/- Calls that all fail. -/
def failingOps : LocalOps where
  ptyAllocate := false
  chown := false
  chmod := false
  ttyAttributes := none
  xauthFound := false
  x11Socket := .failed
  agentSocket := .refused []
  listening := .error "bind: Address already in use"

/- A connection to port 25 of the host `h`. -/
def portOpenPacket : ClientPacket where
  type := sshMsgPortOpen
  payload :=
    put32Bit 0 ++ bufferPutString [] [104] ++ put32Bit 25
  connecting := .connected 7

/- The client forwards a port, and asks for a shell. -/
def shellSession (turns : List TurnInput) : SessionInput where
  requests :=
    [.packet
        (sshCmsgPortForwardRequest ::
          (put32Bit 2001 ++ bufferPutString [] [104] ++
            put32Bit 25))
        failingOps,
      .packet [sshCmsgExecShell] failingOps]
  program := .ok ⟨4, 5, some 6⟩
  turns
  quit := exitedZero

/- A shell without forwarding writes its output. -/
theorem interactiveSession_restricted_sample :
    SparesPortOpen noTcpConf
        (shellSession [outputTurn]).turns ∧
      ∀ event ∈
        interactiveSession noTcpConf (shellSession [outputTurn])
          (.initial clearedMemory),
      noTcpConf.Permits event := by
  have hSpared :
      SparesPortOpen noTcpConf
        (shellSession [outputTurn]).turns := by
    intro _ _ input hMem packet hPacket
    rw [List.mem_singleton.mp hMem] at hPacket
    cases hPacket
  exact ⟨hSpared, (interactiveSession_restricted hSpared).1⟩

/- The server connects to the host all the same. -/
theorem interactiveSession_not_restricted :
    ¬ ∀ event ∈
        interactiveSession noTcpConf
          (shellSession
            [{ idleTurn with
                polled := [.packet portOpenPacket] }])
          (.initial clearedMemory),
      noTcpConf.Permits event := by
  have hMem :
      ServerEvent.reachedOut [104] 25 ∈
        interactiveSession noTcpConf
          (shellSession
            [{ idleTurn with
                polled := [.packet portOpenPacket] }])
          (.initial clearedMemory) := by
    have hEvents :
        interactiveSession noTcpConf
            (shellSession
              [{ idleTurn with
                  polled := [.packet portOpenPacket] }])
            (.initial clearedMemory) =
          [.sent failurePacket, .reachedOut [104] 25,
            .selected [5, 6]] := by
      rfl
    rw [hEvents]
    exact List.mem_cons_of_mem _ List.mem_cons_self
  intro hAll
  cases (hAll _ hMem).2

end Ssh1
