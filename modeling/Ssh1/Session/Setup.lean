import Ssh1.Client.Capabilities
import Ssh1.Server.Preparation
import Mathlib.Algebra.Order.Ring.Int

/-
  The client and the server while a session is prepared.

  The client sends one request after the other and reads the
  reply to each of them. The server reads the requests in its
  loop. The packets are on two links that keep their order.

  Main declarations:
    * `ClientRequest`, `ClientSetup`
    * `ClientRequest.start`, `ClientRequest.finish`
    * `SetupNet`, `SetupNet.step`
-/

------------------------------------------------------------
-- Values in Packets
------------------------------------------------------------

namespace Ssh1

/- A value of the type `int`. -/
structure PacketInt where
  value : Int
  lower : -2 ^ 31 ≤ value
  upper : value < 2 ^ 31

/- `packet_put_int`, which takes the bits of an `int`. -/
def packetPutInt32
    (buffer : Buffer)
    (n : PacketInt) : Buffer :=
  bufferPutInt buffer (n.value % 2 ^ 32).toNat

end Ssh1

------------------------------------------------------------
-- Requests of the Client
------------------------------------------------------------

namespace Ssh1

/- What a terminal of the client is like. -/
structure PtyRequest where
  term : List UInt8
  row : UInt16
  col : UInt16
  xpixel : UInt16
  ypixel : UInt16
  build : TermiosBuild
  -- what `tcgetattr` gives
  tio : Option Termios

/- The data for X11 connections, with the fake data as hex. -/
structure X11Request where
  auth : X11Auth
  proto : List UInt8
  newData : List UInt8
  screenNumber : PacketInt

/- A remote forward that the client asks for. -/
structure ForwardRequest where
  port : PacketInt
  host : List UInt8
  -- the host is a string
  isString : cString host = host
  hostPort : PacketInt

/- What the client asks for before the session starts. -/
inductive ClientRequest where
  | compression (level : Int)
  | pty (request : PtyRequest)
  -- none if the authentication data is not hexadecimal
  | x11 (request : Option X11Request)
  | agent
  | forward (request : ForwardRequest)
  | shell
  | command (command : List UInt8)

/- What the client wants, by its options. -/
structure ClientSetup where
  compression : Option Int
  pty : Option PtyRequest
  x11 : Option (Option X11Request)
  forwardAgent : Bool
  remoteForwards : List ForwardRequest
  command : Option (List UInt8)

/- The end of the preparation. -/
def ClientSetup.exec (setup : ClientSetup) : ClientRequest :=
  match setup.command with
  | some command => .command command
  | none => .shell

/- The requests that are made once at most. -/
def ClientSetup.options
    (setup : ClientSetup) : List ClientRequest :=
  (setup.compression.map ClientRequest.compression).toList ++
    (setup.pty.map ClientRequest.pty).toList ++
    (setup.x11.map ClientRequest.x11).toList ++
    (if setup.forwardAgent then [.agent] else [])

/- The requests of `main`, in their order. -/
def ClientSetup.requests
    (setup : ClientSetup) : List ClientRequest :=
  setup.options ++
    setup.remoteForwards.map ClientRequest.forward ++
    [setup.exec]

/- What is known of the session. -/
structure ClientPrep where
  -- the unread rest of the packet
  incomingPacket : Buffer
  -- the level, once the packets are compressed
  compression : Option Int
  interactive : Bool
  opens : OpensState

namespace ClientRequest

/- The packet type of a request. -/
def type : ClientRequest → UInt8
| .compression _ => sshCmsgRequestCompression
| .pty _ => sshCmsgRequestPty
| .x11 _ => sshCmsgX11RequestForwarding
| .agent => sshCmsgAgentRequestForwarding
| .forward _ => sshCmsgPortForwardRequest
| .shell => sshCmsgExecShell
| .command _ => sshCmsgExecCmd

/- The fields that the client puts for a request. -/
def payload : ClientRequest → Buffer
| .compression level => bufferPutInt [] level.toNat
| .pty request =>
    let buffer := bufferPutString [] request.term
    let buffer := bufferPutInt buffer request.row.toNat
    let buffer := bufferPutInt buffer request.col.toNat
    let buffer := bufferPutInt buffer request.xpixel.toNat
    let buffer := bufferPutInt buffer request.ypixel.toNat
    bufferAppend buffer (ttyMakeModes request.build request.tio)
| .x11 none => []
| .x11 (some request) =>
    let buffer := bufferPutString [] request.proto
    let buffer := bufferPutString buffer request.newData
    packetPutInt32 buffer request.screenNumber
| .agent => []
| .forward request =>
    let buffer := packetPutInt32 [] request.port
    let buffer := bufferPutString buffer request.host
    packetPutInt32 buffer request.hostPort
| .shell => []
| .command text => bufferPutString [] text

/- The length of the packet, with eight bytes of padding. -/
def size (request : ClientRequest) : Nat :=
  9 + request.payload.length

/- Whether the preparation ends with the request. -/
def isExec : ClientRequest → Bool
| .shell => true
| .command _ => true
| _ => false

/- `max_packet_size`, which the client does not set. -/
def maxSize : Nat := 256000

/- The check of `packet_send`. -/
def checkSize (request : ClientRequest) : Outcome Unit :=
  if request.size ≥ maxSize - 30 then
    .error (.fatal
      ("packet_send: sending too big a packet: size " ++
        toString request.size ++ ", limit " ++
        toString maxSize ++ "."))
  else
    .ok ()

/- What comes before the packet, and what it permits. -/
def prepare
    (request : ClientRequest)
    (client : ClientPrep) : Outcome ClientPrep :=
  match request with
  | .compression level =>
      if level < 1 ∨ level > 9 then
        .error (.fatal
          ("Compression level must be from 1 (fast) to 9" ++
            " (slow, best)."))
      else
        .ok client
  | .x11 none =>
      .error (.fatal
        "x11_request_forwarding: bad authentication data")
  | .x11 (some request) =>
      .ok { client with
        opens :=
          { client.opens with
            conf :=
              { client.opens.conf with
                x11Saved := some request.auth
                x11ForwardingPermitted := true } } }
  | .agent =>
      .ok { client with
        opens :=
          { client.opens with
            conf :=
              { client.opens.conf with
                authForwardingPermitted := true } } }
  | _ => .ok client

/- Sends the request, or ends the client. -/
def start
    (request : ClientRequest)
    (client : ClientPrep) : Outcome ClientPrep := do
  let client ← request.prepare client
  request.checkSize
  return client

/- What the client makes of the reply. -/
def finish
    (request : ClientRequest)
    (reply : UInt8)
    (client : ClientPrep) : Outcome ClientPrep :=
  match request with
  | .compression level =>
      if reply = sshSmsgSuccess then
        -- `packet_start_compression`
        if client.compression.isSome then
          .error (.fatal "Compression already enabled.")
        else
          .ok { client with compression := some level }
      else
        .ok { client with incomingPacket := [] }
  | .pty _ | .x11 _ =>
      if reply = sshSmsgSuccess then
        .ok { client with interactive := true }
      else
        .ok { client with incomingPacket := [] }
  | .agent =>
      if reply = sshSmsgSuccess then
        .ok client
      else
        .ok { client with incomingPacket := [] }
  | .forward request => do
      let run :=
        ClientSide.channelRequestRemoteForwarding
          request.port.value request.host
          request.hostPort.value (.packet reply) client.opens
      let (_, opens) ← run.result
      return { client with opens }
  | .shell | .command _ => .ok client

end ClientRequest

/- A complete packet is taken in, once the last is read. -/
def ClientPrep.takePacket
    (body : Buffer)
    (client : ClientPrep) :
    Outcome (Option UInt8 × ClientPrep) := do
  if client.incomingPacket.length ≠ 0 then
    .error (.disconnect Session.junkMessage)
  else
    let (type, rest) ← openPacket body
    return (type, { client with incomingPacket := rest })

end Ssh1

------------------------------------------------------------
-- The Two Programs
------------------------------------------------------------

namespace Ssh1

open Preparing

/- A packet on its way, as it was sent. -/
structure Wire where
  compressed : Bool
  body : Buffer

/- The request as it goes out. -/
def ClientRequest.wire
    (compressed : Bool)
    (request : ClientRequest) : Wire :=
  ⟨compressed, request.type :: request.payload⟩

/- A packet of the server as it goes out. -/
def replyWire
    (compressed : Bool)
    (packet : ServerPacket) : Wire :=
  ⟨compressed, packet.type :: packet.payload⟩

/-
  What the calls of the server come to. The attributes of a
  pty that was just allocated can be read.
-/
structure SoundOps where
  ops : LocalOps
  ttyAttributes : ops.ttyAttributes.isSome

/- The client, the server and the two links between them. -/
structure SetupNet where
  client : ClientPrep
  -- what the client goes on to ask for
  remaining : List ClientRequest
  -- the request that it waits for the reply to
  waiting : Option ClientRequest
  server : PrepState
  -- what the server has been asked to start
  started : Option ExecRequest
  toServer : List Wire
  toClient : List Wire
  -- requests and replies, as each of the two sees them
  clientLog : List (UInt8 × UInt8)
  serverLog : List (UInt8 × UInt8)

/- How the preparation ends without a program. -/
inductive SetupEnd where
  | client (halt : Halt)
  | server (ops : LocalOps) (halt : Halt)
  -- a packet is not read the way it was sent
  | garbled

/- Which party goes on, and how the server's system answers. -/
inductive SetupStep where
  | clientSends
  | clientReads
  | serverTurns (ops : SoundOps)

/- Before the first request. -/
def SetupNet.initial
    (setup : ClientSetup)
    (haveHostnameInOpen : Bool)
    (memory serverMemory : Nat → Channel) : SetupNet where
  client :=
    { incomingPacket := []
      compression := none
      interactive := false
      opens :=
        .initial ClientRequest.maxSize false haveHostnameInOpen
          memory }
  remaining := setup.requests
  waiting := none
  server := .initial serverMemory
  started := none
  toServer := []
  toClient := []
  clientLog := []
  serverLog := []

/- What a turn of the server has sent. -/
def sentPackets
    (events : List ServerEvent) : List ServerPacket :=
  events.filterMap fun event =>
    match event with
    | .sent packet => some packet
    | _ => none

/- The packets that are not mere messages. -/
def repliesAmong
    (packets : List ServerPacket) : List ServerPacket :=
  packets.filter fun packet => packet.type ≠ sshMsgDebug

/- The client sends its next request. -/
def SetupNet.clientSends
    (net : SetupNet) : Except SetupEnd SetupNet :=
  match net.waiting, net.remaining with
  | none, request :: rest =>
      match request.start net.client with
      | .error halt => .error (.client halt)
      | .ok client =>
          .ok { net with
            client
            remaining := rest
            waiting :=
              if request.isExec then none else some request
            toServer :=
              net.toServer ++
                [request.wire net.client.compression.isSome] }
  | _, _ => .ok net

/- The client reads a packet, if it waits for one. -/
def SetupNet.clientReads
    (net : SetupNet) : Except SetupEnd SetupNet :=
  match net.waiting, net.toClient with
  | some request, wire :: wires =>
      if wire.compressed ≠ net.client.compression.isSome then
        .error .garbled
      else
        match net.client.takePacket wire.body with
        | .error halt => .error (.client halt)
        | .ok (none, client) =>
            .ok { net with client, toClient := wires }
        | .ok (some reply, client) =>
            match request.finish reply client with
            | .error halt => .error (.client halt)
            | .ok client =>
                .ok { net with
                  client
                  waiting := none
                  toClient := wires
                  clientLog :=
                    net.clientLog ++ [(request.type, reply)] }
  | _, _ => .ok net

/-
  The server does one turn of its loop. Compression is
  switched on after the packets of a turn have been sent.
-/
def SetupNet.serverTurns
    (conf : PrepConf)
    (ops : LocalOps)
    (net : SetupNet) : Except SetupEnd SetupNet :=
  match net.started, net.toServer with
  | none, wire :: wires =>
      if wire.compressed ≠ net.server.compression.isSome then
        .error .garbled
      else
        let run := turn conf wire.body ops net.server
        match run.result with
        | .error halt => .error (.server ops halt)
        | .ok (started, server) =>
            let packets := sentPackets run.events
            .ok { net with
              server
              started
              toServer := wires
              toClient :=
                net.toClient ++
                  packets.map
                    (replyWire net.server.compression.isSome)
              serverLog :=
                net.serverLog ++
                  (repliesAmong packets).map fun packet =>
                    (wire.body.headD 0, packet.type) }
  | _, _ => .ok net

/- One step of either party. -/
def SetupNet.step
    (conf : PrepConf)
    (net : SetupNet) :
    SetupStep → Except SetupEnd SetupNet
| .clientSends => net.clientSends
| .clientReads => net.clientReads
| .serverTurns ops => net.serverTurns conf ops.ops

end Ssh1
