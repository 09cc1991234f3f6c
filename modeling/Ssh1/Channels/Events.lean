import Ssh1.Channels.Close
import Ssh1.Channels.X11Packet
import Ssh1.Lib.FallibleRun

/-
  The select loop and the messages about channels.

  The program prepares a select, reads and writes the sockets
  that are ready, sends what it has read, and handles the
  messages of the peer. The results of system calls come with
  the events.

  Main declarations:
    * `channelPrepareSelect`, `channelAfterSelect`
    * `channelOutputPoll`
    * `channelInputData`, `channelInputPortOpen`, ...
    * `ChannelEvent.step`
-/

------------------------------------------------------------
-- Surroundings
------------------------------------------------------------

namespace Ssh1

/- The variables that the event loops do not change. -/
structure ChannelConf where
  maxPacketSize : Nat
  interactive : Bool
  haveHostnameInOpen : Bool
  allOpensPermitted : Bool
  permittedOpens : List (List UInt8 × Int)
  x11ForwardingPermitted : Bool
  authForwardingPermitted : Bool
  -- none while `x11_saved_proto` is NULL
  x11Saved : Option X11Auth

/- A file descriptor set, by the slots of the sockets. -/
abbrev FdSet := Nat → Bool

/- The two masks that `select` is called with. -/
structure FdSets where
  readset : FdSet
  writeset : FdSet

/- `FD_ZERO` of both masks. -/
def FdSets.zero : FdSets where
  readset := fun _ => false
  writeset := fun _ => false

/- `FD_SET` in the read mask. -/
def FdSets.setRead (i : Nat) (sets : FdSets) : FdSets :=
  { sets with readset := Function.update sets.readset i true }

/- `FD_SET` in the write mask. -/
def FdSets.setWrite (i : Nat) (sets : FdSets) : FdSets :=
  { sets with
      writeset := Function.update sets.writeset i true }

/- What `accept` gives, and whether access is granted. -/
inductive AcceptResult where
  | failed
  | refused
  | accepted (sock : Int) (originator : List UInt8)
  deriving DecidableEq, Repr

/- What `read` gives; end of file is an empty result. -/
inductive ReadResult where
  | wouldBlock
  | failed
  | bytes (data : List UInt8)
  deriving DecidableEq, Repr

/- What `write` gives. -/
inductive WriteResult where
  | wouldBlock
  | failed
  | wrote (len : Nat)
  deriving DecidableEq, Repr

/- The outcome of a select for one slot. -/
structure SlotIo where
  readable : Bool
  writable : Bool
  accept : AcceptResult
  read : ReadResult
  write : WriteResult

end Ssh1

------------------------------------------------------------
-- Before Select
------------------------------------------------------------

namespace Ssh1

/- The case of an open channel. -/
def prepareOpened
    (conf : ChannelConf)
    (i : Nat)
    (table : ChannelTable)
    (sets : FdSets) : Outcome (ChannelTable × FdSets) := do
  let ch := table.channels i
  let sets :=
    if ch.input.length < conf.maxPacketSize / 2 ∧
        ¬ ch.statusFlags.inputSocketClosed then
      sets.setRead i
    else
      sets
  if ¬ ch.statusFlags.outputSocketClosed then
    if ch.output.length > 0 then
      return (table, sets.setWrite i)
    else if ch.statusFlags.eofReceived then
      let table ← channelCloseOutput i table
      return (table, sets)
    else
      return (table, sets)
  else
    return (table, sets)

/- A connection with bad authentication information. -/
def rejectX11
    (i : Nat)
    (table : ChannelTable) : Outcome ChannelTable := do
  let table :=
    table.modify i fun ch =>
      { ch with type := .opened, input := [], output := [] }
  let table ← channelCloseInput i table
  channelCloseOutput i table

/- The case of a connection whose first packet is read. -/
def prepareX11Open
    (conf : ChannelConf)
    (i : Nat)
    (table : ChannelTable)
    (sets : FdSets) : Outcome (ChannelTable × FdSets) := do
  match conf.x11Saved with
  | none =>
      -- `strlen` of a null pointer
      .error .outOfBounds
  | some auth =>
      match ← x11CheckPacket auth
          (table.channels i).output with
      | .incomplete => return (table, sets)
      | .rejected =>
          let table ← rejectX11 i table
          return (table, sets)
      | .accepted output =>
          let table :=
            table.modify i fun ch =>
              { ch with type := .opened, output }
          prepareOpened conf i table sets

/- One turn of the loop. -/
def prepareSlot
    (conf : ChannelConf)
    (state : ChannelTable × FdSets)
    (i : Nat) : Outcome (ChannelTable × FdSets) :=
  let (table, sets) := state
  match (table.channels i).type with
  | .x11Listener => .ok (table, sets.setRead i)
  | .portListener => .ok (table, sets.setRead i)
  | .authListener => .ok (table, sets.setRead i)
  | .opened => prepareOpened conf i table sets
  | .x11Open => prepareX11Open conf i table sets
  | .free => .ok (table, sets)
  | .opening => .ok (table, sets)

/-
  This is called just before select to add any bits relevant
  to channels in the select bitmasks.
-/
def channelPrepareSelect
    (conf : ChannelConf)
    (table : ChannelTable) :
    Outcome (ChannelTable × FdSets) :=
  FallibleRun.run (prepareSlot conf) (table, .zero)
    (List.range table.channelsAlloc)

end Ssh1

------------------------------------------------------------
-- After Select
------------------------------------------------------------

namespace Ssh1

/- The body of an open message that may name its origin. -/
def originatorBody
    (conf : ChannelConf)
    (originator : List UInt8) : Buffer :=
  if conf.haveHostnameInOpen then
    bufferPutString [] originator
  else
    []

/- The connection of a socket that listens for X11. -/
def acceptX11
    (conf : ChannelConf)
    (newsock : Int)
    (originator : List UInt8)
    (table : ChannelTable) : Outcome ChannelTable := do
  let (newch, table) ←
    channelAllocate .opening newsock table
  let table :=
    table.modify newch fun ch =>
      { ch with isXConnection := true }
  return channelSend newch
    (.x11Open newch (originatorBody conf originator)) table

/- The connection of a socket that listens on a port. -/
def acceptPort
    (conf : ChannelConf)
    (i : Nat)
    (newsock : Int)
    (originator : List UInt8)
    (table : ChannelTable) : Outcome ChannelTable := do
  let (newch, table) ←
    channelAllocate .opening newsock table
  let ch := table.channels i
  return channelSend newch
    (.portOpen newch
      (bufferPutInt (bufferPutString [] ch.path)
          (ch.hostPort % 2 ^ 32).toNat ++
        originatorBody conf originator)) table

/- The connection of the agent socket. -/
def acceptAuth
    (newsock : Int)
    (table : ChannelTable) : Outcome ChannelTable := do
  let (newch, table) ←
    channelAllocate .opening newsock table
  return channelSend newch (.agentOpen newch) table

/- Accepts a connection of a listening socket. -/
def acceptSlot
    (io : SlotIo)
    (table : ChannelTable)
    (open' :
      Int → List UInt8 → ChannelTable →
        Outcome ChannelTable) :
    Outcome ChannelTable :=
  if io.readable then
    match io.accept with
    | .failed => .ok table
    | .refused => .ok table
    | .accepted sock originator => open' sock originator table
  else
    .ok table

/- How many bytes are read from a socket at a time. -/
def readSize (conf : ChannelConf) : Nat :=
  min 16384 (conf.maxPacketSize / 4)

/- Sends buffered output data to the socket. -/
def writeOpened
    (io : SlotIo)
    (i : Nat)
    (table : ChannelTable) : Outcome ChannelTable := do
  let output := (table.channels i).output
  if io.writable ∧ output.length > 0 then
    match io.write with
    | .wouldBlock => return table
    | .failed => channelCloseOutput i table
    | .wrote len =>
        let len := min len output.length
        if len = 0 then
          channelCloseOutput i table
        else
          let rest ← bufferConsume output len
          let table :=
            table.modify i fun ch => { ch with output := rest }
          return table.record (.wrote i (output.take len))
  else
    return table

/- The case of an open channel. -/
def afterOpened
    (conf : ChannelConf)
    (io : SlotIo)
    (i : Nat)
    (table : ChannelTable) : Outcome ChannelTable :=
  if io.readable then
    match io.read with
    | .wouldBlock => writeOpened io i table
    | .failed => channelCloseInput i table
    | .bytes data =>
        let buf := data.take (readSize conf)
        if buf.length = 0 then
          channelCloseInput i table
        else
          writeOpened io i
            (table.modify i fun ch =>
              { ch with input := bufferAppend ch.input buf })
  else
    writeOpened io i table

/- One turn of the loop. -/
def afterSlot
    (conf : ChannelConf)
    (io : Nat → SlotIo)
    (table : ChannelTable)
    (i : Nat) : Outcome ChannelTable :=
  match (table.channels i).type with
  | .x11Listener =>
      acceptSlot (io i) table (acceptX11 conf)
  | .portListener =>
      acceptSlot (io i) table (acceptPort conf i)
  | .authListener =>
      acceptSlot (io i) table fun sock _ => acceptAuth sock
  | .opened => afterOpened conf (io i) i table
  | .x11Open => .ok table
  | .free => .ok table
  | .opening => .ok table

/-
  After select, perform any appropriate operations for
  channels which have events pending. The slots by which the
  loop extends the table are free or opening, and a turn of
  the loop passes over these.
-/
def channelAfterSelect
    (conf : ChannelConf)
    (io : Nat → SlotIo)
    (table : ChannelTable) : Outcome ChannelTable :=
  FallibleRun.run (afterSlot conf io) table
    (List.range table.channelsAlloc)

end Ssh1

------------------------------------------------------------
-- Output to the Connection
------------------------------------------------------------

namespace Ssh1

/- How much buffered data goes into one packet. -/
def dataSize
    (conf : ChannelConf)
    (len : Nat) : Nat :=
  if conf.interactive then
    min len 512
  else
    min (min len 8192) (conf.maxPacketSize / 2)

/- One turn of the loop. -/
def outputSlot
    (conf : ChannelConf)
    (table : ChannelTable)
    (i : Nat) : Outcome ChannelTable := do
  let ch := table.channels i
  if ch.type ≠ .opened then
    return table
  else if ch.input.length > 0 then
    let len := dataSize conf ch.input.length
    let table :=
      channelSend i
        (.data ch.remoteId
          (bufferPutString [] (ch.input.take len))) table
    let rest ← bufferConsume ch.input len
    return table.modify i fun ch => { ch with input := rest }
  else if ch.statusFlags.inputSocketClosed ∧
      ¬ ch.statusFlags.eofSent then
    channelSendIeof i table
  else
    return table

/-
  If there is data to send to the connection, send some of it
  now. The loop ends at the first turn at which the packet
  layer holds much data already.
-/
def channelOutputPoll
    (conf : ChannelConf)
    (notVeryMuch : Nat → Bool)
    (table : ChannelTable) : Outcome ChannelTable :=
  FallibleRun.run (outputSlot conf) table
    ((List.range table.channelsAlloc).takeWhile notVeryMuch)

end Ssh1

------------------------------------------------------------
-- Messages of the Peer
------------------------------------------------------------

namespace Ssh1

/- The data in the body of a data packet. -/
def bodyData (body : Buffer) : List UInt8 :=
  match bufferGetString body with
  | .ok (data, _) => data
  | .error _ => []

/- A packet of type `CHANNEL_DATA`. -/
def channelInputData
    (channel : Int)
    (body : Buffer)
    (table : ChannelTable) : Outcome ChannelTable := do
  match channelInUse channel table with
  | none =>
      .error (.disconnect
        ("Received data for nonexistent channel " ++
          toString channel ++ "."))
  | some i =>
      let ch := table.channels i
      if ch.type ≠ .opened ∧ ch.type ≠ .x11Open then
        -- Any data for a channel that is not open is ignored.
        return table
      else if ch.statusFlags.eofReceived then
        .error (.disconnect
          ("Other party sent data after eof for channel " ++
            toString channel ++ "."))
      else if ¬ ch.statusFlags.outputSocketClosed then
        let (data, _) ← bufferGetString body
        let table :=
          table.modify i fun ch =>
            { ch with output := bufferAppend ch.output data }
        return table.record (.received i data)
      else
        -- The rest of the packet is passed over.
        return table.record (.received i (bodyData body))

/- A packet of type `CHANNEL_OPEN_CONFIRMATION`. -/
def channelInputOpenConfirmation
    (channel remoteChannel : Int)
    (table : ChannelTable) : Outcome ChannelTable :=
  if channel < 0 ∨ channel ≥ table.channelsAlloc ∨
      (table.channels channel.toNat).type ≠ .opening then
    .error (.disconnect
      ("Received open confirmation for non-opening channel " ++
        toString channel ++ "."))
  else
    .ok (table.modify channel.toNat fun ch =>
      { ch with remoteId := remoteChannel, type := .opened })

/- A packet of type `CHANNEL_OPEN_FAILURE`. -/
def channelInputOpenFailure
    (channel : Int)
    (table : ChannelTable) : Outcome ChannelTable :=
  if channel < 0 ∨ channel ≥ table.channelsAlloc ∨
      (table.channels channel.toNat).type ≠ .opening then
    .error (.disconnect
      ("Received open failure for non-opening channel " ++
        toString channel ++ "."))
  else
    channelFree channel.toNat table

/- Refuses to open a channel. -/
def sendOpenFailure
    (remoteChannel : Int)
    (table : ChannelTable) : ChannelTable :=
  table.record (.sent none (.openFailure remoteChannel))

/- A new channel for the peer, and the confirmation. -/
def confirmOpen
    (type : ChannelType)
    (sock : Int)
    (isX : Bool)
    (remoteChannel : Int)
    (table : ChannelTable) : Outcome ChannelTable := do
  let (newch, table) ← channelAllocate type sock table
  let table :=
    table.modify newch fun ch =>
      { ch with remoteId := remoteChannel, isXConnection := isX }
  return channelSend newch
    (.openConfirmation remoteChannel newch) table

/-
  A packet of type `PORT_OPEN`. The connection, or none, is
  what looking up the host and connecting to it gives.
-/
def channelInputPortOpen
    (conf : ChannelConf)
    (remoteChannel : Int)
    (body : Buffer)
    (connection : Option Int)
    (table : ChannelTable) : Outcome ChannelTable := do
  let (host, body) ← bufferGetString body
  let host := cString host
  if host.length > 255 then
    .error (.disconnect
      ("Requested forwarding hostname too long: " ++
        cStringText (host.take 200) ++ "."))
  else
    let (port, body) ← bufferGetInt body
    let hostPort := toInt32 port
    if conf.haveHostnameInOpen then
      let _ ← bufferGetString body
    if ¬ conf.allOpensPermitted ∧
        (host, hostPort) ∉ conf.permittedOpens then
      return sendOpenFailure remoteChannel table
    else
      match connection with
      | none => return sendOpenFailure remoteChannel table
      | some sock =>
          confirmOpen .opened sock false remoteChannel table

/-
  A packet of type `X11_OPEN`. The connection, or none, is
  what opening the display of the environment gives.
-/
def x11InputOpen
    (conf : ChannelConf)
    (remoteChannel : Int)
    (body : Buffer)
    (connection : Option Int)
    (table : ChannelTable) : Outcome ChannelTable := do
  if conf.haveHostnameInOpen then
    let _ ← bufferGetString body
  if ¬ conf.x11ForwardingPermitted then
    return sendOpenFailure remoteChannel table
  else
    match connection with
    | none => return sendOpenFailure remoteChannel table
    | some sock =>
        if conf.x11Saved.isNone then
          confirmOpen .opened sock true remoteChannel table
        else
          confirmOpen .x11Open sock true remoteChannel table

/-
  A packet of type `AGENT_OPEN`. The connection, or none, is
  that to the authentication agent.
-/
def authInputOpenRequest
    (conf : ChannelConf)
    (remoteChannel : Int)
    (connection : Option Int)
    (table : ChannelTable) : Outcome ChannelTable :=
  if ¬ conf.authForwardingPermitted then
    .ok (sendOpenFailure remoteChannel table)
  else
    match connection with
    | none => .ok (sendOpenFailure remoteChannel table)
    | some sock =>
        confirmOpen .opened sock false remoteChannel table

/- Dispatches a message about channels. -/
def handleMessage
    (conf : ChannelConf)
    (message : ChannelMessage)
    (connection : Option Int)
    (table : ChannelTable) : Outcome ChannelTable :=
  match message with
  | .openConfirmation channel remoteChannel =>
      channelInputOpenConfirmation channel remoteChannel table
  | .openFailure channel =>
      channelInputOpenFailure channel table
  | .data channel body => channelInputData channel body table
  | .inputEof channel => channelIeof channel table
  | .outputClosed channel => channelOclosed channel table
  | .x11Open remoteChannel body =>
      x11InputOpen conf remoteChannel body connection table
  | .portOpen remoteChannel body =>
      channelInputPortOpen conf remoteChannel body connection
        table
  | .agentOpen remoteChannel =>
      authInputOpenRequest conf remoteChannel connection table

end Ssh1

------------------------------------------------------------
-- Listening
------------------------------------------------------------

namespace Ssh1

/-
  Listening on a port whose connections are forwarded to a
  host of the remote side. The socket, or what the error is
  reported with, is what creating and binding it gives.
-/
def channelRequestLocalForwarding
    (port : Int)
    (host : List UInt8)
    (hostPort : Int)
    (socket : Except String Int)
    (table : ChannelTable) : Outcome ChannelTable := do
  if host.length > 199 then
    .error (.disconnect "Forward host name too long.")
  else
    match socket with
    | .error message => .error (.disconnect message)
    | .ok sock =>
        let (ch, table) ←
          channelAllocate .portListener sock table
        return table.modify ch fun ch =>
          { ch with
            path := host
            hostPort
            listeningPort := port }

/- A socket that listens for X11 or agent connections. -/
def createListener
    (type : ChannelType)
    (sock : Int)
    (path : List UInt8)
    (table : ChannelTable) : Outcome ChannelTable := do
  let (ch, table) ← channelAllocate type sock table
  return table.modify ch fun ch => { ch with path }

end Ssh1

------------------------------------------------------------
-- Events
------------------------------------------------------------

namespace Ssh1

/- What can happen to the channels of a process. -/
inductive ChannelEvent where
  | message
      (message : ChannelMessage)
      (connection : Option Int)
  | prepareSelect
  | afterSelect (io : Nat → SlotIo)
  | outputPoll (notVeryMuch : Nat → Bool)
  | listenPort
      (port : Int)
      (host : List UInt8)
      (hostPort : Int)
      (socket : Except String Int)
  | listenX11 (sock : Int)
  | listenAuth (sock : Int) (path : List UInt8)

/- One call into newchannels.c. -/
def ChannelEvent.step
    (conf : ChannelConf)
    (table : ChannelTable) :
    ChannelEvent → Outcome ChannelTable
| message m connection =>
    handleMessage conf m connection table
| prepareSelect => do
    let (table, _) ← channelPrepareSelect conf table
    return table
| afterSelect io => channelAfterSelect conf io table
| outputPoll notVeryMuch =>
    channelOutputPoll conf notVeryMuch table
| listenPort port host hostPort socket =>
    channelRequestLocalForwarding port host hostPort socket
      table
| listenX11 sock => createListener .x11Listener sock [] table
| listenAuth sock path =>
    createListener .authListener sock path table

end Ssh1
