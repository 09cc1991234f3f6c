import Ssh1.Server.Loop
import Ssh1.Tty.Modes

/-
  Preparing an interactive session.

  After the login the client asks for what it wants to have,
  one request after the other, until it asks for a shell or
  a command. Each request is answered by a success or by a
  failure.

  Main declarations:
    * `PrepConf`, `PrepState`, `LocalOps`
    * `Preparing.processRequest`
    * `doAuthenticated`
    * `interactiveSession`
-/

------------------------------------------------------------
-- Settings
------------------------------------------------------------

namespace Ssh1

/- `SSH_CMSG_REQUEST_PTY` -/
def sshCmsgRequestPty : UInt8 := 10

/- `SSH_CMSG_EXEC_SHELL` -/
def sshCmsgExecShell : UInt8 := 12

/- `SSH_CMSG_EXEC_CMD` -/
def sshCmsgExecCmd : UInt8 := 13

/- `SSH_CMSG_PORT_FORWARD_REQUEST` -/
def sshCmsgPortForwardRequest : UInt8 := 28

/- `SSH_CMSG_AGENT_REQUEST_FORWARDING` -/
def sshCmsgAgentRequestForwarding : UInt8 := 30

/- `SSH_CMSG_X11_REQUEST_FORWARDING` -/
def sshCmsgX11RequestForwarding : UInt8 := 34

/- `SSH_CMSG_REQUEST_COMPRESSION` -/
def sshCmsgRequestCompression : UInt8 := 37

/- `SSH_CMSG_MAX_PACKET_SIZE` -/
def sshCmsgMaxPacketSize : UInt8 := 38

/- The options, and what the key restricts. -/
structure PrepConf where
  noPtyFlag : Bool
  noPortForwardingFlag : Bool
  noAgentForwardingFlag : Bool
  noX11ForwardingFlag : Bool
  forcedCommand : Option (List UInt8)
  allowTcpForwarding : Bool
  x11Forwarding : Bool
  -- whether `packet_send_debug` sends anything
  packetDebugOn : Bool
  -- `EMULATE_OLD_AGENT_BUG`
  oldAgentBug : Bool
  -- `SSH_PROTOFLAG_SCREEN_NUMBER`
  screenNumber : Bool
  haveHostnameInOpen : Bool
  -- whether the process, and whether the user, is root
  runsAsRoot : Bool
  userIsRoot : Bool
  termios : TermiosBuild

/- What `auth_input_request_forwarding` comes to. -/
inductive AgentSocket where
  -- with the messages for the client
  | refused (messages : List String)
  | failed (message : String)
  | created (sock : Int) (path : List UInt8)

/- What `x11_create_display_inet` comes to. -/
inductive X11Socket where
  | failed
  | noHostname (cause : String)
  -- with the value of the display for a screen
  | created (sock : Int) (display : Int → List UInt8)

/- What the calls give that a request makes. -/
structure LocalOps where
  ptyAllocate : Bool
  -- with the second try on systems with file flags
  chown : Bool
  chmod : Bool
  -- what `tcgetattr` gives
  ttyAttributes : Option Termios
  xauthFound : Bool
  x11Socket : X11Socket
  agentSocket : AgentSocket
  listening : Except String Int

/- What is known of the session. -/
structure PrepState where
  -- the unread rest of the packet
  incomingPacket : Buffer
  compressionLevel : Int
  enableCompressionAfterReply : Bool
  -- the level, once the packets are compressed
  compression : Option Int
  maxPacketSize : Nat
  interactive : Bool
  havePty : Bool
  term : Option (List UInt8)
  display : Option (List UInt8)
  proto : List UInt8
  data : List UInt8
  -- whether the name of the agent socket was set
  agentSocketName : Bool
  table : ChannelTable

/- The start of the preparation. -/
def PrepState.initial
    (memory : Nat → Channel) : PrepState where
  incomingPacket := []
  compressionLevel := 0
  enableCompressionAfterReply := false
  compression := none
  maxPacketSize := 256000
  interactive := false
  havePty := false
  term := none
  display := none
  proto := []
  data := []
  agentSocketName := false
  table := .initial memory

/- What the client has asked for at the end. -/
inductive ExecRequest where
  | shell
  | command (command : List UInt8)
  deriving DecidableEq

/- How the body of the `switch` is left. -/
inductive RequestResult where
  | success
  -- `goto fail`
  | failure
  | exec (request : ExecRequest)
  deriving DecidableEq

end Ssh1

------------------------------------------------------------
-- Requests
------------------------------------------------------------

namespace Ssh1

namespace Preparing

open Recorded
open Serving

/- Takes something from the packet that was received. -/
def packetGet
    {α : Type}
    (get' : Buffer → Outcome (α × Buffer)) :
    Serving PrepState α := do
  let state ← get
  let (a, rest) ← ofOutcome (get' state.incomingPacket)
  modify fun state => { state with incomingPacket := rest }
  return a

/- `packet_get_all` -/
def packetGetAll : Serving PrepState Unit :=
  modify fun state => { state with incomingPacket := [] }

/- A message for the client, if these are wanted. -/
def packetSendDebug
    (conf : PrepConf)
    (message : String) : Serving PrepState Unit :=
  if conf.packetDebugOn then
    Serving.packetSend (debugPacket message)
  else
    return ()

/- A request that is refused with a message. -/
def refuse
    (conf : PrepConf)
    (message : String) : Serving PrepState RequestResult := do
  packetGetAll
  packetSendDebug conf message
  return .failure

/- The case `SSH_CMSG_REQUEST_COMPRESSION`. -/
def requestCompression
    (conf : PrepConf) : Serving PrepState RequestResult := do
  let level ← packetGet packetGetInt32
  modify fun state => { state with compressionLevel := level }
  if level < 1 ∨ level > 9 then
    packetSendDebug conf
      ("Received illegal compression level " ++
        toString level ++ ".")
    return .failure
  else
    modify fun state =>
      { state with enableCompressionAfterReply := true }
    return .success

/- The case `SSH_CMSG_MAX_PACKET_SIZE`. -/
def maxPacketSize
    (conf : PrepConf) : Serving PrepState RequestResult := do
  let maxSize ← packetGet bufferGetInt
  if maxSize < 4096 ∨ maxSize > 256 * 1024 then
    packetSendDebug conf
      ("Received illegal max packet size " ++
        toString maxSize ++ ".")
    return .failure
  else
    modify fun state => { state with maxPacketSize := maxSize }
    return .success

/- Reads what the pty is to be like. -/
def readPty
    (conf : PrepConf)
    (ops : LocalOps) : Serving PrepState RequestResult := do
  let term ← packetGet bufferGetString
  modify fun state =>
    { state with
      term := if cString term = [] then none else some term }
  let _row ← packetGet packetGetInt32
  let _col ← packetGet packetGetInt32
  let _xpixel ← packetGet packetGetInt32
  let _ypixel ← packetGet packetGetInt32
  let _modes ←
    packetGet (ttyParseModes conf.termios ops.ttyAttributes)
  modify fun state => { state with havePty := true }
  return .success

/- The case `SSH_CMSG_REQUEST_PTY`. -/
def requestPty
    (conf : PrepConf)
    (ops : LocalOps) : Serving PrepState RequestResult := do
  if conf.noPtyFlag then
    packetGetAll
    return .failure
  else
    let state ← get
    if state.havePty then
      Serving.packetDisconnect
        "Protocol error: you already have a pty."
    else if ¬ ops.ptyAllocate then
      packetGetAll
      return .failure
    else
      record .allocatedPty
      if ¬ ops.chown ∧ conf.runsAsRoot then
        return .failure
      else if ¬ ops.chmod ∧ conf.runsAsRoot then
        return .failure
      else
        readPty conf ops

/- Opens a socket for X11 connections, for a screen. -/
def x11CreateDisplayInet
    (socket : X11Socket)
    (screen : Int) : Serving PrepState RequestResult :=
  match socket with
  | .failed => return .failure
  | .noHostname cause => do
      record .listenedX11
      haltWith (.fatal ("gethostname: " ++ cause))
  | .created sock display => do
      record .listenedX11
      let state ← get
      let table ←
        ofOutcome
          (createListener .x11Listener sock [] state.table)
      modify fun state =>
        { state with table, display := some (display screen) }
      return .success

/- The case `SSH_CMSG_X11_REQUEST_FORWARDING`. -/
def x11RequestForwarding
    (conf : PrepConf)
    (ops : LocalOps) : Serving PrepState RequestResult := do
  if ¬ conf.x11Forwarding then
    refuse conf
      "X11 forwarding disabled in server configuration file."
  else if conf.noX11ForwardingFlag then
    refuse conf
      "X11 forwarding not permitted for this authentication."
  else
    let state ← get
    if state.display.isSome then
      Serving.packetDisconnect
        "Protocol error: X11 display already set."
    else if ¬ ops.xauthFound then
      refuse conf "Remote host has no X11 installed."
    else
      let proto ← packetGet bufferGetString
      let data ← packetGet bufferGetString
      modify fun state => { state with proto, data }
      let state ← get
      if conf.screenNumber ∨ state.incomingPacket.length > 0 then
        let screen ← packetGet packetGetInt32
        x11CreateDisplayInet ops.x11Socket screen
      else
        x11CreateDisplayInet ops.x11Socket 0

/- The messages about a socket that is not made. -/
def sendMessages
    (conf : PrepConf) : List String → Serving PrepState Unit
| [] => return ()
| message :: messages => do
    packetSendDebug conf message
    sendMessages conf messages

/- `auth_input_request_forwarding`: the agent's socket. -/
def authInputRequestForwarding
    (conf : PrepConf)
    (socket : AgentSocket) :
    Serving PrepState RequestResult := do
  let state ← get
  if state.agentSocketName then
    haltWith (.fatal
      ("Protocol error: authentication forwarding requested" ++
        " twice."))
  else
    modify fun state => { state with agentSocketName := true }
    match socket with
    | .refused messages =>
        sendMessages conf messages
        return .failure
    | .failed message => Serving.packetDisconnect message
    | .created sock path =>
        record .listenedAgent
        let state ← get
        let table ←
          ofOutcome
            (createListener .authListener sock path state.table)
        modify fun state => { state with table }
        return .success

/- The case `SSH_CMSG_AGENT_REQUEST_FORWARDING`. -/
def agentRequestForwarding
    (conf : PrepConf)
    (ops : LocalOps) : Serving PrepState RequestResult := do
  if conf.noAgentForwardingFlag then
    packetGetAll
    return .failure
  else if conf.oldAgentBug then
    return .failure
  else
    authInputRequestForwarding conf ops.agentSocket

/- Listens on a port for the client. -/
def listenOn
    (port : Int)
    (hostname : List UInt8)
    (hostPort : Int)
    (listening : Except String Int) :
    Serving PrepState RequestResult := do
  match listening with
  | .error _ => pure ()
  | .ok _ =>
      if hostname.length ≤ 199 then
        record (.listened port)
  let state ← get
  let table ←
    ofOutcome
      (channelRequestLocalForwarding port hostname hostPort
        listening state.table)
  modify fun state => { state with table }
  return .success

/- `channel_input_port_forward_request`. -/
def channelInputPortForwardRequest
    (isRoot : Bool)
    (listening : Except String Int) :
    Serving PrepState RequestResult := do
  let port ← packetGet packetGetInt32
  let string ← packetGet bufferGetString
  let hostPort ← packetGet packetGetInt32
  let hostname := cString string
  if hostname.length > 255 then
    Serving.packetDisconnect
      ("Requested forwarding hostname too long: " ++
        cStringText (hostname.take 200) ++ ".")
  else if (port < 1024 ∨ port > 65535) ∧ ¬ isRoot then
    Serving.packetDisconnect
      ("Requested forwarding of port " ++ toString port ++
        " but user is not root.")
  else
    listenOn port hostname hostPort listening

/- The case `SSH_CMSG_PORT_FORWARD_REQUEST`. -/
def portForwardRequest
    (conf : PrepConf)
    (ops : LocalOps) : Serving PrepState RequestResult := do
  if conf.noPortForwardingFlag ∨ ¬ conf.allowTcpForwarding then
    packetGetAll
    return .failure
  else
    channelInputPortForwardRequest conf.userIsRoot
      ops.listening

/- `packet_set_interactive` -/
def packetSetInteractive : Serving PrepState Unit :=
  modify fun state =>
    { state with
      interactive := state.havePty ∨ state.display.isSome }

/- The case `SSH_CMSG_EXEC_SHELL`. -/
def execShell
    (conf : PrepConf) : Serving PrepState RequestResult := do
  packetSetInteractive
  match conf.forcedCommand with
  | none => return .exec .shell
  | some forced => return .exec (.command forced)

/- The case `SSH_CMSG_EXEC_CMD`. -/
def execCmd
    (conf : PrepConf) : Serving PrepState RequestResult := do
  packetSetInteractive
  let command ← packetGet bufferGetString
  return .exec (.command (conf.forcedCommand.getD command))

/- One request of the client. -/
def processRequest
    (conf : PrepConf)
    (ops : LocalOps)
    (type : UInt8) : Serving PrepState RequestResult :=
  if type = sshCmsgRequestCompression then
    requestCompression conf
  else if type = sshCmsgMaxPacketSize then
    maxPacketSize conf
  else if type = sshCmsgRequestPty then
    requestPty conf ops
  else if type = sshCmsgX11RequestForwarding then
    x11RequestForwarding conf ops
  else if type = sshCmsgAgentRequestForwarding then
    agentRequestForwarding conf ops
  else if type = sshCmsgPortForwardRequest then
    portForwardRequest conf ops
  else if type = sshCmsgExecShell then
    execShell conf
  else if type = sshCmsgExecCmd then
    execCmd conf
  else do
    packetGetAll
    return .failure

/- `packet_start_compression` -/
def packetStartCompression
    (level : Int) : Serving PrepState Unit := do
  let state ← get
  if state.compression.isSome then
    haltWith (.fatal "Compression already enabled.")
  else
    modify fun state => { state with compression := some level }

/- The request was successfully processed. -/
def reportSuccess : Serving PrepState Unit := do
  Serving.packetSend successPacket
  let state ← get
  if state.enableCompressionAfterReply then
    modify fun state =>
      { state with enableCompressionAfterReply := false }
    packetStartCompression state.compressionLevel

/- The request failed. -/
def reportFailure : Serving PrepState Unit := do
  packetGetAll
  Serving.packetSend failurePacket

end Preparing

end Ssh1

------------------------------------------------------------
-- The Loop
------------------------------------------------------------

namespace Ssh1

/- What `packet_read` gets, and what the request meets. -/
inductive PrepInput where
  -- the type byte and what follows it
  | packet (body : Buffer) (ops : LocalOps)
  -- it ends the process
  | ends (halt : Halt)

namespace Preparing

open Recorded
open Serving

/- A complete packet is taken in, once the last is read. -/
def takePacket
    (body : Buffer) : Serving PrepState (Option UInt8) := do
  let state ← get
  if state.incomingPacket.length ≠ 0 then
    Serving.packetDisconnect Session.junkMessage
  else
    let (type, rest) ← ofOutcome (openPacket body)
    modify fun state => { state with incomingPacket := rest }
    return type

/-
  One turn of the loop: what the client has asked for, if it
  was a shell or a command.
-/
def turn
    (conf : PrepConf)
    (body : Buffer)
    (ops : LocalOps) :
    Serving PrepState (Option ExecRequest) := do
  match ← takePacket body with
  | none => return none
  | some type =>
      match ← processRequest conf ops type with
      | .success =>
          reportSuccess
          return none
      | .failure =>
          reportFailure
          return none
      | .exec request => return some request

end Preparing

open Preparing

/-
  Prepares for an interactive session, for so many packets:
  the request that ends it, if it is among these.
-/
def doAuthenticated
    (conf : PrepConf) :
    List PrepInput → Serving PrepState (Option ExecRequest)
| [] => return none
| .ends halt :: _ => Serving.haltWith halt
| .packet body ops :: inputs => do
    match ← turn conf body ops with
    | some request => return some request
    | none => doAuthenticated conf inputs

/- What the loop of the session does not change. -/
def PrepConf.serverConf
    (conf : PrepConf)
    (state : PrepState) : ServerConf where
  channels :=
    { maxPacketSize := state.maxPacketSize
      interactive := state.interactive
      haveHostnameInOpen := conf.haveHostnameInOpen
      allOpensPermitted := true
      permittedOpens := []
      x11ForwardingPermitted := false
      authForwardingPermitted := false
      x11Saved := none }
  noPortForwardingFlag := conf.noPortForwardingFlag

/- The descriptors of a program that was started. -/
structure Started where
  fdin : Nat
  fdout : Nat
  fderr : Option Nat

/- What there is in a whole session. -/
structure SessionInput where
  requests : List PrepInput
  -- the cause, if the program cannot be started
  program : Except String Started
  turns : List TurnInput
  quit : QuitInput

/- The program is started, and the loop of the session. -/
def runProgram
    (conf : PrepConf)
    (input : SessionInput)
    (state : PrepState) : List ServerEvent :=
  match input.program with
  | .error cause => [.sent (disconnectPacket cause)]
  | .ok started =>
      (serverLoop (conf.serverConf state) input.turns input.quit
        (.initial started.fdin started.fdout started.fderr
          state.table)).events

/- What the server does in a session. -/
def interactiveSession
    (conf : PrepConf)
    (input : SessionInput)
    (state : PrepState) : List ServerEvent :=
  let run := doAuthenticated conf input.requests state
  match run.result with
  | .ok (some _, state) =>
      run.events ++ runProgram conf input state
  | _ => run.events

end Ssh1
