import Ssh1.Channels.Events

/-
  Packets about channels.

  A packet is read into a message and dispatched. A request
  for a port is taken apart: what it asks for is known before
  anything is looked up, and only then a connection is made.

  Main declarations:
    * `readChannelMessage`
    * `portOpenTarget`
    * `channelInputPortOpen_eq`
-/

------------------------------------------------------------
-- Packets
------------------------------------------------------------

namespace Ssh1

/- `SSH_MSG_CHANNEL_OPEN_CONFIRMATION` -/
def sshMsgChannelOpenConfirmation : UInt8 := 21

/- `SSH_MSG_CHANNEL_OPEN_FAILURE` -/
def sshMsgChannelOpenFailure : UInt8 := 22

/- `SSH_MSG_CHANNEL_DATA` -/
def sshMsgChannelData : UInt8 := 23

/- `SSH_MSG_CHANNEL_INPUT_EOF` -/
def sshMsgChannelInputEof : UInt8 := 24

/- `SSH_MSG_CHANNEL_OUTPUT_CLOSED` -/
def sshMsgChannelOutputClosed : UInt8 := 25

/- `SSH_SMSG_X11_OPEN` -/
def sshSmsgX11Open : UInt8 := 27

/- `SSH_MSG_PORT_OPEN` -/
def sshMsgPortOpen : UInt8 := 29

/- `SSH_SMSG_AGENT_OPEN` -/
def sshSmsgAgentOpen : UInt8 := 31

/- Gets a number of a packet into an `int`. -/
def packetGetInt32
    (buffer : Buffer) : Outcome (Int × Buffer) := do
  let (value, rest) ← bufferGetInt buffer
  return (toInt32 value, rest)

/-
  The confirmation of an open request. The channel is checked
  before the number of the other side is read.
-/
def readOpenConfirmation
    (payload : Buffer)
    (table : ChannelTable) : Outcome ChannelMessage := do
  let (channel, rest) ← packetGetInt32 payload
  let _ ← channelInputOpenConfirmation channel 0 table
  let (remoteChannel, _) ← packetGetInt32 rest
  return .openConfirmation channel remoteChannel

/- The message in a packet, if it is one about channels. -/
def readChannelMessage
    (type : UInt8)
    (payload : Buffer)
    (table : ChannelTable) :
    Outcome (Option ChannelMessage) := do
  if type = sshMsgChannelOpenConfirmation then
    return some (← readOpenConfirmation payload table)
  else if type = sshMsgChannelOpenFailure then
    let (channel, _) ← packetGetInt32 payload
    return some (.openFailure channel)
  else if type = sshMsgChannelData then
    let (channel, body) ← packetGetInt32 payload
    return some (.data channel body)
  else if type = sshMsgChannelInputEof then
    let (channel, _) ← packetGetInt32 payload
    return some (.inputEof channel)
  else if type = sshMsgChannelOutputClosed then
    let (channel, _) ← packetGetInt32 payload
    return some (.outputClosed channel)
  else if type = sshSmsgX11Open then
    let (remoteChannel, body) ← packetGetInt32 payload
    return some (.x11Open remoteChannel body)
  else if type = sshMsgPortOpen then
    let (remoteChannel, body) ← packetGetInt32 payload
    return some (.portOpen remoteChannel body)
  else if type = sshSmsgAgentOpen then
    let (remoteChannel, _) ← packetGetInt32 payload
    return some (.agentOpen remoteChannel)
  else
    return none

end Ssh1

------------------------------------------------------------
-- Connecting to a Port
------------------------------------------------------------

namespace Ssh1

/- What looking up a host and connecting to it gives. -/
inductive Connecting where
  | unknownHost
  | noSocket
  | refused
  | connected (sock : Int)
  deriving DecidableEq

namespace Connecting

/- The socket of a connection that was made. -/
def sock : Connecting → Option Int
| connected sock => some sock
| _ => none

/- The host was sent something. -/
def reachesOut : Connecting → Bool
| refused => true
| connected _ => true
| _ => false

end Connecting

/- Hosts and ports are compared as pairs. -/
instance lawfulBEqTarget : LawfulBEq (List UInt8 × Int) :=
  inferInstance

/-
  The host and the port that a packet of type `PORT_OPEN`
  makes the program connect to, if that is permitted.
-/
def portOpenTarget
    (conf : ChannelConf)
    (body : Buffer) :
    Outcome (Option (List UInt8 × Int)) := do
  let (host, body) ← bufferGetString body
  let host := cString host
  if host.length > 255 then
    .error (.disconnect
      ("Requested forwarding hostname too long: " ++
        cStringText (host.take 200) ++ "."))
  else
    let (port, body) ← bufferGetInt body
    let hostPort := toInt32 port
    if conf.haveHostnameInOpen then
      let _ ← bufferGetString body
    if ¬ conf.allOpensPermitted ∧
        (host, hostPort) ∉ conf.permittedOpens then
      return none
    else
      return some (host, hostPort)

/- The handler of the packet, with its target apart. -/
theorem channelInputPortOpen_eq
    (conf : ChannelConf)
    (remoteChannel : Int)
    (body : Buffer)
    (connection : Option Int)
    (table : ChannelTable) :
    channelInputPortOpen conf remoteChannel body connection
        table =
      (do
        match ← portOpenTarget conf body, connection with
        | some _, some sock =>
            confirmOpen .opened sock false remoteChannel table
        | _, _ => return sendOpenFailure remoteChannel table) := by
  unfold channelInputPortOpen portOpenTarget
  cases bufferGetString body with
  | error halt => rfl
  | ok read =>
      rcases read with
        ⟨host, body⟩
      simp only [FallibleRun.ok_bind]
      split
      · rfl
      · cases bufferGetInt body with
        | error halt => rfl
        | ok read =>
            rcases read with
              ⟨port, body⟩
            simp only [FallibleRun.ok_bind]
            have hRest :
                (if ¬ conf.allOpensPermitted ∧
                    (cString host, toInt32 port) ∉
                      conf.permittedOpens then
                  pure (sendOpenFailure remoteChannel table)
                else
                  connection.elim
                    (pure (sendOpenFailure remoteChannel table))
                    fun sock =>
                      confirmOpen .opened sock false
                        remoteChannel table) =
                  (do
                    match ← (if ¬ conf.allOpensPermitted ∧
                        (cString host, toInt32 port) ∉
                          conf.permittedOpens then
                        pure none
                      else
                        pure (some
                          (cString host, toInt32 port)) :
                        Outcome
                          (Option (List UInt8 × Int))),
                      connection with
                    | some _, some sock =>
                        confirmOpen .opened sock false
                          remoteChannel table
                    | _, _ =>
                        pure (sendOpenFailure remoteChannel
                          table)) := by
              split
              · rfl
              · cases connection <;> rfl
            split
            · cases bufferGetString body with
              | error halt => rfl
              | ok read => cases connection <;> exact hRest
            · cases connection <;> exact hRest

end Ssh1
