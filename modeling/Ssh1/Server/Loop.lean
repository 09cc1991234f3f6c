import Ssh1.Server.Actions

/-
  The server main loop of an interactive session.

  A turn of the loop handles the packets of the client, makes
  packets from the output of the program, waits in a select,
  and moves data. What the system calls give, and when the
  program ends, comes with the input of the turn.

  Main declarations:
    * `LoopState`, `TurnInput`
    * `Serving.processBufferedInputPackets`
    * `Serving.waitUntilCanDoSomething`
    * `Serving.turn`, `serverLoop`
-/

------------------------------------------------------------
-- State
------------------------------------------------------------

namespace Ssh1

/- `SSH_CMSG_WINDOW_SIZE` -/
def sshCmsgWindowSize : UInt8 := 11

/- `SSH_CMSG_STDIN_DATA` -/
def sshCmsgStdinData : UInt8 := 16

/- `SSH_SMSG_STDOUT_DATA` -/
def sshSmsgStdoutData : UInt8 := 17

/- `SSH_SMSG_STDERR_DATA` -/
def sshSmsgStderrData : UInt8 := 18

/- `SSH_CMSG_EOF` -/
def sshCmsgEof : UInt8 := 19

/- `SSH_SMSG_EXITSTATUS` -/
def sshSmsgExitstatus : UInt8 := 20

/- What the loop reads and does not change. -/
structure ServerConf where
  channels : ChannelConf
  noPortForwardingFlag : Bool

/- A descriptor is none once it is closed, or shut down. -/
structure LoopState where
  fdin : Option Nat
  fdout : Option Nat
  fderr : Option Nat
  stdinBuffer : Buffer
  stdoutBuffer : Buffer
  stderrBuffer : Buffer
  stdinEof : Bool
  fdoutEof : Bool
  fderrEof : Bool
  childTerminated : Bool
  childJustTerminated : Bool
  previousStdoutBufferBytes : Nat
  waitingTermination : Bool
  table : ChannelTable

namespace LoopState

/- The loop starts with the descriptors of the program. -/
def initial
    (fdin fdout : Nat)
    (fderr : Option Nat)
    (table : ChannelTable) : LoopState where
  fdin := some fdin
  fdout := some fdout
  fderr := fderr
  stdinBuffer := []
  stdoutBuffer := []
  stderrBuffer := []
  stdinEof := false
  fdoutEof := false
  -- with a pty there is no separate error output
  fderrEof := fderr.isNone
  childTerminated := false
  childJustTerminated := false
  previousStdoutBufferBytes := 0
  waitingTermination := false
  table := table

/- The descriptor of an output of the program. -/
def fd (state : LoopState) : OutputStream → Option Nat
| .stdout => state.fdout
| .stderr => state.fderr

/- `fdout_eof` or `fderr_eof`. -/
def eof (state : LoopState) : OutputStream → Bool
| .stdout => state.fdoutEof
| .stderr => state.fderrEof

/- `stdout_buffer` or `stderr_buffer`. -/
def buffer (state : LoopState) : OutputStream → Buffer
| .stdout => state.stdoutBuffer
| .stderr => state.stderrBuffer

/- Replaces the buffer of a stream. -/
def setBuffer
    (stream : OutputStream)
    (buffer : Buffer)
    (state : LoopState) : LoopState :=
  match stream with
  | .stdout => { state with stdoutBuffer := buffer }
  | .stderr => { state with stderrBuffer := buffer }

/- The stream has ended. -/
def setEof
    (stream : OutputStream)
    (state : LoopState) : LoopState :=
  match stream with
  | .stdout => { state with fdoutEof := true }
  | .stderr => { state with fderrEof := true }

/- The descriptor is closed and set to -1. -/
def dropFd
    (stream : OutputStream)
    (state : LoopState) : LoopState :=
  match stream with
  | .stdout => { state with fdout := none }
  | .stderr => { state with fderr := none }

end LoopState

end Ssh1

------------------------------------------------------------
-- Inputs
------------------------------------------------------------

namespace Ssh1

/- A packet, and what connecting gives if it asks for that. -/
structure ClientPacket where
  type : UInt8
  payload : Buffer
  connecting : Connecting

/-
  What `packet_read_poll` gives, up to `SSH_MSG_NONE`. The
  payload of a packet of that type is found at the next poll,
  which it ends the process at.
-/
inductive Polled where
  | packet (packet : ClientPacket)
  -- it ends the process, as for data that was left unread
  | ends (halt : Halt)

/- What `select` returns with. -/
inductive SelectResult where
  | failed
  | timeout
  | ready (readable writable : Nat → Bool)

/- What reading from the client gives. -/
inductive ClientRead where
  | received
  | closed
  | failed (cause : String)

/-
  What the surroundings of a turn do. The packets that there
  is room for are counted, since each of them is one turn of
  an inner loop.
-/
structure TurnInput where
  polled : List Polled
  stderrRoom : Nat
  stdoutRoom : Nat
  channelRoom : Nat → Bool
  haveDataToWrite : Bool
  -- the text of `channel_open_message`
  openMessage : List UInt8
  -- when `SIGCHLD` comes: before the end is looked for,
  -- before the wait, and in it
  exitsEarly : Bool
  exitsLate : Bool
  exitsWaiting : Bool
  outputRoom : Bool
  select : SelectResult
  channelIo : Nat → SlotIo
  clientRead : ClientRead
  outputRead : OutputStream → List UInt8
  write : WriteResult
  -- how `packet_write_poll` ends
  clientWrite : Outcome Unit

end Ssh1

------------------------------------------------------------
-- Packets of the Client
------------------------------------------------------------

namespace Ssh1

namespace Serving

open Recorded

/- Changes the channels. -/
def changeTable
    (f : ChannelTable → Outcome ChannelTable) :
    Serving LoopState Unit := do
  let state ← get
  let table ← ofOutcome (f state.table)
  modify fun state => { state with table }

/- Stdin data from the client, appended to the buffer. -/
def stdinData
    (payload : Buffer) : Serving LoopState Unit := do
  let state ← get
  match state.fdin with
  | none => return ()
  | some _ =>
      let (data, _) ← ofOutcome (bufferGetString payload)
      modify fun state =>
        { state with
          stdinBuffer := bufferAppend state.stdinBuffer data }

/- Row, column and pixels, for the pty alone. -/
def windowSize
    (payload : Buffer) : Serving LoopState Unit := do
  let (_, payload) ← ofOutcome (packetGetInt32 payload)
  let (_, payload) ← ofOutcome (packetGetInt32 payload)
  let (_, payload) ← ofOutcome (packetGetInt32 payload)
  let _ ← ofOutcome (packetGetInt32 payload)
  return ()

/- The answer to a port that may not be opened. -/
def denyPortOpen
    (payload : Buffer) : Serving LoopState Unit := do
  let (remoteChannel, _) ← ofOutcome (bufferGetInt payload)
  packetSend (openFailurePacket remoteChannel)

/- `channel_input_port_open` -/
def portOpen
    (conf : ChannelConf)
    (packet : ClientPacket) : Serving LoopState Unit := do
  let (remoteChannel, body) ←
    ofOutcome (packetGetInt32 packet.payload)
  let target ← ofOutcome (portOpenTarget conf body)
  match target with
  | none => pure ()
  | some (host, port) =>
      if packet.connecting.reachesOut then
        record (.reachedOut host port)
  changeTable
    (channelInputPortOpen conf remoteChannel body
      packet.connecting.sock)

/- The other messages about channels that a server gets. -/
def isChannelMessage (type : UInt8) : Bool :=
  type = sshMsgChannelOpenConfirmation ∨
    type = sshMsgChannelOpenFailure ∨
    type = sshMsgChannelData ∨
    type = sshMsgChannelInputEof ∨
    type = sshMsgChannelOutputClosed

/- Handles a message about a channel. -/
def channelMessage
    (conf : ChannelConf)
    (packet : ClientPacket) : Serving LoopState Unit := do
  let state ← get
  let message ←
    ofOutcome
      (readChannelMessage packet.type packet.payload
        state.table)
  match message with
  | none => return ()
  | some message =>
      changeTable
        (handleMessage conf message packet.connecting.sock)

/- One packet that was received from the client. -/
def processPacket
    (conf : ServerConf)
    (packet : ClientPacket) : Serving LoopState Unit :=
  if packet.type = sshCmsgStdinData then
    stdinData packet.payload
  else if packet.type = sshCmsgEof then
    modify fun state => { state with stdinEof := true }
  else if packet.type = sshCmsgWindowSize then
    windowSize packet.payload
  else if packet.type = sshMsgPortOpen then
    if conf.noPortForwardingFlag then
      denyPortOpen packet.payload
    else
      portOpen conf.channels packet
  else if isChannelMessage packet.type then
    channelMessage conf.channels packet
  else
    packetDisconnect
      ("Protocol error during session: type " ++
        toString packet.type.toNat)

/- Process any buffered packets from the client. -/
def processBufferedInputPackets
    (conf : ServerConf) :
    List Polled → Serving LoopState Unit
| [] => return ()
| .ends halt :: _ => haltWith halt
| .packet packet :: polled => do
    processPacket conf packet
    processBufferedInputPackets conf polled

end Serving

end Ssh1

------------------------------------------------------------
-- Packets for the Client
------------------------------------------------------------

namespace Ssh1

/- The message that carries an output. -/
def OutputStream.dataType : OutputStream → UInt8
| stdout => sshSmsgStdoutData
| stderr => sshSmsgStderrData

/- How much buffered output goes into one packet. -/
def outputSize
    (conf : ChannelConf)
    (len : Nat) : Nat :=
  if conf.interactive then
    min len 512
  else
    min (min len 32768) (conf.maxPacketSize / 2)

namespace Serving

open Recorded

/- Builds a packet with a string and sends it. -/
def sendData
    (conf : ChannelConf)
    (type : UInt8)
    (data : List UInt8) : Serving LoopState Unit := do
  let payload := bufferPutString [] data
  -- eight bytes for padding, and the type
  let size := 9 + payload.length
  if size ≥ conf.maxPacketSize - 30 then
    stop (.fatal
      ("packet_send: sending too big a packet: size " ++
        toString size ++ ", limit " ++
        toString conf.maxPacketSize ++ "."))
  else
    packetSend ⟨type, payload⟩

/-
  Makes packets from buffered output, while there is room
  for more of them.
-/
def makePackets
    (conf : ChannelConf)
    (stream : OutputStream) :
    (room : Nat) → Serving LoopState Unit
| 0 => return ()
| room + 1 => do
    let state ← get
    let buffer := state.buffer stream
    if buffer.length > 0 then
      let len := outputSize conf buffer.length
      sendData conf stream.dataType (buffer.take len)
      let rest ← ofOutcome (bufferConsume buffer len)
      modify (LoopState.setBuffer stream rest)
      makePackets conf stream room
    else
      return ()

/-
  Very little output is not sent now: more of it may come in
  a short while.
-/
def makePacketsFromStdoutData
    (conf : ChannelConf)
    (room : Nat) : Serving LoopState Unit := do
  let state ← get
  let bytes := state.stdoutBuffer.length
  if bytes ≠ 0 ∧ bytes < 512 ∧
      bytes ≠ state.previousStdoutBufferBytes then
    pure ()
  else
    makePackets conf .stdout room
  modify fun state =>
    { state with
      previousStdoutBufferBytes := state.stdoutBuffer.length }

/- Sends what is left in a buffer as one packet. -/
def drainBuffer
    (conf : ChannelConf)
    (stream : OutputStream) : Serving LoopState Unit := do
  let state ← get
  if (state.buffer stream).length > 0 then
    sendData conf stream.dataType (state.buffer stream)

/- Sends all buffered output to the client. -/
def drainOutput
    (conf : ChannelConf) : Serving LoopState Unit := do
  drainBuffer conf .stdout
  drainBuffer conf .stderr

end Serving

end Ssh1

------------------------------------------------------------
-- Descriptors of the Program
------------------------------------------------------------

namespace Ssh1

namespace Serving

open Recorded

/- `SIGCHLD` arrives at this point, or not. -/
def sigchldHandler
    (arrives : Bool) : Serving LoopState Unit :=
  if arrives then
    modify fun state =>
      { state with
        childTerminated := true
        childJustTerminated := true }
  else
    return ()

/- We will no longer send to the program. -/
def closeStdin (fd : Nat) : Serving LoopState Unit := do
  let state ← get
  if state.fdout = some fd then
    record (.shutDown fd)
  else
    record (.closed fd)
  modify fun state => { state with fdin := none }

/- A real end of file, when there is no pending input. -/
def closeStdinAtEof : Serving LoopState Unit := do
  let state ← get
  match state.fdin with
  | none => return ()
  | some fd =>
      if state.stdinEof ∧ state.stdinBuffer.length = 0 then
        closeStdin fd

/- The descriptor of an output that may be read from. -/
def selectable
    (state : LoopState)
    (stream : OutputStream) : Outcome (List Nat) :=
  if state.eof stream then
    .ok []
  else
    match state.fd stream with
    | some fd => .ok [fd]
    -- `FD_SET` of -1
    | none => .error .outOfBounds

/- The descriptor of the input, if there is something. -/
def writable (state : LoopState) : List Nat :=
  match state.fdin with
  | some fd => if state.stdinBuffer.length > 0 then [fd] else []
  | none => []

/- Closes an output whose end was seen. -/
def closeAtEof
    (stream : OutputStream) : Serving LoopState Unit := do
  let state ← get
  match state.fd stream with
  | none => return ()
  | some fd =>
      if state.eof stream then
        record (.closed fd)
        modify (LoopState.dropFd stream)

/- Shuts down all descriptors to the child. -/
def closeAfterExit : Serving LoopState Unit := do
  record .closedAfterExit
  closeAtEof .stdout
  closeAtEof .stderr
  let state ← get
  match state.fdin with
  | none => return ()
  | some fd =>
      record (.closed fd)
      modify fun state => { state with fdin := none }

end Serving

/- The descriptors for which there is something to do. -/
structure ReadySet where
  client : Bool
  readset : Nat → Bool
  writeset : Nat → Bool
  channelIo : Nat → SlotIo

/- Nothing is ready for a channel. -/
def SlotIo.idle : SlotIo where
  readable := false
  writable := false
  accept := .failed
  read := .wouldBlock
  write := .wouldBlock

namespace Serving

open Recorded

/- Sleeps in `select` until we can do something. -/
def waitUntilCanDoSomething
    (conf : ChannelConf)
    (input : TurnInput) : Serving LoopState ReadySet := do
  modify fun state =>
    { state with childJustTerminated := false }
  let state ← get
  let (stdout, stderr) ←
    if input.outputRoom then
      let stdout ← ofOutcome (selectable state .stdout)
      let stderr ← ofOutcome (selectable state .stderr)
      pure (stdout, stderr)
    else
      pure ([], [])
  changeTable fun table => do
    let (table, _) ← channelPrepareSelect conf table
    return table
  let readFds := stdout ++ stderr
  let writeFds := writable state
  record (.selected (readFds ++ writeFds))
  sigchldHandler input.exitsWaiting
  match input.select with
  | .ready readable writable =>
      return {
        client := state.stdinBuffer.length < 4096
        readset := fun fd => fd ∈ readFds ∧ readable fd
        writeset := fun fd => fd ∈ writeFds ∧ writable fd
        channelIo := input.channelIo }
  | _ =>
      let state ← get
      if state.childTerminated ∧
          ¬ state.childJustTerminated then
        closeAfterExit
      return {
        client := false
        readset := fun _ => false
        writeset := fun _ => false
        channelIo := fun _ => .idle }

/- The outputs that may be read from, if there is room. -/
def selectedOutputs
    (input : TurnInput)
    (state : LoopState) : Serving LoopState (List Nat) :=
  if input.outputRoom then do
    let stdout ← ofOutcome (selectable state .stdout)
    let stderr ← ofOutcome (selectable state .stderr)
    pure (stdout ++ stderr)
  else
    pure []

/- The wait that has found nothing. -/
def afterVainSelect : Serving LoopState ReadySet := do
  let state ← get
  if state.childTerminated ∧
      ¬ state.childJustTerminated then
    closeAfterExit
  return {
    client := false
    readset := fun _ => false
    writeset := fun _ => false
    channelIo := fun _ => .idle }

/- The wait with the outputs that are waited for. -/
def selecting
    (conf : ChannelConf)
    (input : TurnInput)
    (state : LoopState)
    (readFds : List Nat) : Serving LoopState ReadySet := do
  changeTable fun table => do
    let (table, _) ← channelPrepareSelect conf table
    return table
  let writeFds := writable state
  record (.selected (readFds ++ writeFds))
  sigchldHandler input.exitsWaiting
  match input.select with
  | .ready readable writable =>
      return {
        client := state.stdinBuffer.length < 4096
        readset := fun fd => fd ∈ readFds ∧ readable fd
        writeset := fun fd => fd ∈ writeFds ∧ writable fd
        channelIo := input.channelIo }
  | _ => afterVainSelect

/- The wait in its parts. -/
theorem waitUntilCanDoSomething_eq
    (conf : ChannelConf)
    (input : TurnInput) :
    waitUntilCanDoSomething conf input =
      (do
        modify fun state =>
          { state with childJustTerminated := false }
        let state ← get
        let readFds ← selectedOutputs input state
        selecting conf input state readFds) := by
  unfold waitUntilCanDoSomething
  congr 1
  funext _
  congr 1
  funext state
  unfold selectedOutputs
  cases input.outputRoom with
  | false =>
      simp only [Bool.false_eq_true, if_false, return_bind]
      rfl
  | true =>
      simp only [if_true, bind_bind, return_bind]
      rfl

end Serving

end Ssh1

------------------------------------------------------------
-- Moving Data
------------------------------------------------------------

namespace Ssh1

namespace Serving

open Recorded

/- Reads what the client has sent. -/
def readClient : ClientRead → Serving LoopState Unit
| .received => return ()
| .closed =>
    haltWith (.fatal "Connection closed by remote host.")
| .failed cause =>
    haltWith
      (.fatal ("Read error from remote host: " ++ cause))

/- Reads and buffers available data from the program. -/
def readOutput
    (ready : ReadySet)
    (stream : OutputStream)
    (data : List UInt8) : Serving LoopState Unit := do
  let state ← get
  match state.fd stream with
  | none => return ()
  | some fd =>
      if ¬ state.eof stream ∧ ready.readset fd then
        let data := data.take 16384
        record (.read stream fd data)
        if data.length = 0 then
          modify (LoopState.setEof stream)
        else
          modify fun state =>
            state.setBuffer stream
              (bufferAppend (state.buffer stream) data)

/- Processes input from the client and from the program. -/
def processInput
    (input : TurnInput)
    (ready : ReadySet) : Serving LoopState Unit := do
  if ready.client then
    readClient input.clientRead
  readOutput ready .stdout (input.outputRead .stdout)
  readOutput ready .stderr (input.outputRead .stderr)

/- Writes buffered data to the input of the program. -/
def writeStdin
    (fd : Nat)
    (result : WriteResult) : Serving LoopState Unit := do
  let state ← get
  match result with
  | .wouldBlock => record (.wrote fd [])
  | .failed =>
      record (.writeFailed fd)
      closeStdin fd
  | .wrote len =>
      let len := min len state.stdinBuffer.length
      if len = 0 then
        record (.writeFailed fd)
        closeStdin fd
      else
        record (.wrote fd (state.stdinBuffer.take len))
        let rest ←
          ofOutcome (bufferConsume state.stdinBuffer len)
        modify fun state =>
          { state with stdinBuffer := rest }

/- Processes output to the client and to the program. -/
def processOutput
    (input : TurnInput)
    (ready : ReadySet) : Serving LoopState Unit := do
  let state ← get
  match state.fdin with
  | none => pure ()
  | some fd =>
      if ready.writeset fd then
        writeStdin fd input.write
  ofOutcome input.clientWrite

end Serving

end Ssh1

------------------------------------------------------------
-- The Loop
------------------------------------------------------------

namespace Ssh1

/- Whether a channel is open or opening. -/
def channelStillOpen (table : ChannelTable) : Bool :=
  (List.range table.channelsAlloc).any fun i =>
    (table.channels i).type = .opening ∨
      (table.channels i).type = .opened ∨
      (table.channels i).type = .x11Open

/- What the client shows while forwarded channels are open. -/
def waitingMessage : List UInt8 :=
  messageBytes
    "Waiting for forwarded connections to terminate...\r\n"

namespace Serving

open Recorded

/- Tells the client that there are channels left. -/
def noteWaiting
    (openMessage : List UInt8) : Serving LoopState Unit := do
  record (.noted (waitingMessage ++ openMessage))
  modify fun state =>
    { state with
      waitingTermination := true
      stderrBuffer :=
        bufferAppend
          (bufferAppend state.stderrBuffer waitingMessage)
          openMessage }

/- Whether to bail out of the loop. -/
def bailOut (input : TurnInput) : Serving LoopState Bool := do
  let state ← get
  if state.fdoutEof ∧ state.fderrEof ∧
      ¬ input.haveDataToWrite ∧
      state.stdoutBuffer.length = 0 ∧
      state.stderrBuffer.length = 0 then
    if ¬ channelStillOpen state.table then
      return true
    else
      if ¬ state.waitingTermination ∧
          ¬ state.childJustTerminated then
        noteWaiting input.openMessage
      return false
  else
    return false

/- The part of a turn up to the end of the loop. -/
def turnOutput
    (conf : ServerConf)
    (input : TurnInput) : Serving LoopState Bool := do
  processBufferedInputPackets conf input.polled
  closeStdinAtEof
  makePackets conf.channels .stderr input.stderrRoom
  makePacketsFromStdoutData conf.channels input.stdoutRoom
  changeTable
    (channelOutputPoll conf.channels input.channelRoom)
  sigchldHandler input.exitsEarly
  bailOut input

/- The part of a turn that waits. -/
def turnWait
    (conf : ServerConf)
    (input : TurnInput) : Serving LoopState Unit := do
  sigchldHandler input.exitsLate
  let ready ← waitUntilCanDoSomething conf.channels input
  changeTable
    (channelAfterSelect conf.channels ready.channelIo)
  processInput input ready
  processOutput input ready

/- One turn of the loop: whether it was the last one. -/
def turn
    (conf : ServerConf)
    (input : TurnInput) : Serving LoopState Bool := do
  let quits ← turnOutput conf input
  if quits then
    return true
  else
    turnWait conf input
    return false

/- So many turns: whether the loop has come to its end. -/
def turns
    (conf : ServerConf) :
    List TurnInput → Serving LoopState Bool
| [] => return false
| input :: inputs => do
    let quits ← turn conf input
    if quits then
      return true
    else
      turns conf inputs

theorem turns_cons
    (conf : ServerConf)
    (input : TurnInput)
    (inputs : List TurnInput) :
    turns conf (input :: inputs) =
      (do
        let quits ← turnOutput conf input
        if quits then
          pure true
        else do
          turnWait conf input
          turns conf inputs) := by
  rw [turns, turn, bind_bind]
  congr 1
  funext quits
  cases quits with
  | true => simp only [if_true, return_bind]
  | false =>
      simp only [Bool.false_eq_true, if_false, bind_bind,
        return_bind]

end Serving

end Ssh1

------------------------------------------------------------
-- The End of the Session
------------------------------------------------------------

namespace Ssh1

/- How a program has ended. -/
inductive WaitStatus where
  | exited (status : Nat)
  | signaled (signal : Nat)
  | other (status : Nat)

/- What is found at the end of the session. -/
structure QuitInput where
  -- the program ends only while the output is drained
  exits : Bool
  childWaitStatus : WaitStatus
  -- what `wait` gives if no `SIGCHLD` has come
  wait : Except String WaitStatus

/- A number as `%04x` prints it. -/
def hexStatus (status : Nat) : String :=
  String.ofList
    (List.leftpad 4 '0' (Nat.toDigits 16 status))

/- One turn of the loop that stops listening. -/
def stopListeningSlot
    (table : ChannelTable)
    (i : Nat) : Outcome ChannelTable :=
  match (table.channels i).type with
  | .portListener => channelFree i table
  | .x11Listener => channelFree i table
  | _ => .ok table

/- Stops listening for channels. -/
def channelStopListening
    (table : ChannelTable) : Outcome ChannelTable :=
  FallibleRun.run stopListeningSlot table
    (List.range table.channelsAlloc)

namespace Serving

open Recorded

/- Closes the descriptors at the end. -/
def closeDescriptors : Serving LoopState Unit := do
  let state ← get
  match state.fdout with
  | none => pure ()
  | some fd => record (.closed fd)
  match state.fdin with
  | none => pure ()
  | some fd =>
      if state.fdin ≠ state.fdout then
        record (.closed fd)
  match state.fderr with
  | none => pure ()
  | some fd => record (.closed fd)

/- The exit status of the child. -/
def exitStatus
    (input : QuitInput) : Serving LoopState WaitStatus := do
  let state ← get
  if state.childTerminated then
    return input.childWaitStatus
  else
    match input.wait with
    | .error cause => packetDisconnect ("wait: " ++ cause)
    | .ok status => return status

/- Cleanup and termination. -/
def quit
    (conf : ServerConf)
    (input : QuitInput) : Serving LoopState Unit := do
  drainOutput conf.channels
  closeDescriptors
  changeTable channelStopListening
  sigchldHandler input.exits
  let status ← exitStatus input
  match status with
  | .exited status =>
      packetSend
        ⟨sshSmsgExitstatus, bufferPutInt [] status⟩
  | .signaled signal =>
      packetDisconnect
        ("Command terminated on signal " ++ toString signal ++
          ".")
  | .other status =>
      packetDisconnect
        ("wait returned status " ++ hexStatus status ++ ".")

end Serving

open Serving

/-
  Performs the interactive session, for so many turns:
  whether it has come to its end with these.
-/
def serverLoop
    (conf : ServerConf)
    (inputs : List TurnInput)
    (quitInput : QuitInput) :
    Serving LoopState Bool := do
  let quits ← turns conf inputs
  if quits then
    quit conf quitInput
  return quits

end Ssh1
