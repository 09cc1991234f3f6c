import Ssh1.Base.Buffer

/-
  What a user types, on its way to the server.

  The characters that are read are looked at one by one,
  where there is an escape character. The memory they are
  read into serves for messages, too.

  Main declarations:
    * `Client`
    * `clientCheckInitialEofOnStdin`
    * `processTypedChar`, `processTyped`
    * `clientProcessStdin`, `clientMakePacketsFromStdinData`
-/

------------------------------------------------------------
-- The Client
------------------------------------------------------------

namespace Ssh1

/- What an escape command does. -/
inductive EscapeAction where
  | disconnect
  | suspend
  | background
  | help
  | list
  deriving DecidableEq

/- The commands, by the character that is typed for them. -/
def escapeAction (ch : UInt8) : Option EscapeAction :=
  if ch = 46 then some .disconnect
  else if ch = 26 then some .suspend
  else if ch = 38 then some .background
  else if ch = 63 then some .help
  else if ch = 35 then some .list
  else none

/- The packets that say what comes in on standard input. -/
inductive StdinPacket where
  -- `SSH_CMSG_STDIN_DATA` from the buffer
  | data (bytes : List UInt8)
  -- the one of the background command
  | controlD
  -- `SSH_CMSG_EOF`
  | eof
  deriving DecidableEq

/- The static variables of clientloop.c that typing uses. -/
structure Client where
  stdinBuffer : Buffer
  stderrBuffer : Buffer
  stdinEof : Bool
  escapePending : Bool
  lastWasCr : Bool
  quitPending : Bool
  sent : List StdinPacket
  -- all that was ever appended to `stdin_buffer`
  appended : List UInt8
  -- the escape commands that were carried out
  actions : List EscapeAction
  deriving DecidableEq

namespace Client

/- When the client loop is entered. -/
def start : Client where
  stdinBuffer := []
  stderrBuffer := []
  stdinEof := false
  escapePending := false
  lastWasCr := true
  quitPending := false
  sent := []
  appended := []
  actions := []

/- Appends bytes to the buffer of standard input. -/
def append
    (client : Client)
    (bytes : List UInt8) : Client :=
  { client with
    stdinBuffer := bufferAppend client.stdinBuffer bytes
    appended := client.appended ++ bytes }

/- No escape character is pending any more. -/
def clearPending (client : Client) : Client :=
  { client with escapePending := false }

/- Prints a message, up to its first zero byte. -/
def print
    (client : Client)
    (text : List UInt8) : Client :=
  { client with
    stderrBuffer :=
      bufferAppend client.stderrBuffer (cString text) }

/- A packet goes to the server. -/
def send
    (client : Client)
    (packet : StdinPacket) : Client :=
  { client with sent := client.sent ++ [packet] }

/- Sends the end of file when nothing is left before it. -/
def sendEofIfEmpty (client : Client) : Client :=
  if client.stdinBuffer.length = 0 then
    client.send .eof
  else
    client

/- `client_suspend_self`, which frees the buffers. -/
def suspendSelf (client : Client) : Client :=
  { client with
    stdinBuffer := []
    stderrBuffer := [] }

end Client

end Ssh1

------------------------------------------------------------
-- Escape Commands
------------------------------------------------------------

namespace Ssh1

/- What is printed into `buf` for a command. -/
def escapeText
    (escapeChar : UInt8) :
    EscapeAction → Option (List UInt8)
| .disconnect => some [escapeChar, 46, 13, 10]
| .suspend => some [escapeChar, 94, 90, 13, 10]
| .background => none
| .help =>
    some (escapeChar :: asciiBytes
      ("?\r\n" ++
        "Supported escape sequences:\r\n" ++
        "~.  - terminate connection\r\n" ++
        "~^Z - suspend ssh\r\n" ++
        "~#  - list forwarded connections\r\n" ++
        "~&  - background ssh (when waiting for " ++
        "connections to terminate)\r\n" ++
        "~?  - this message\r\n" ++
        "~~  - send the escape character by " ++
        "typing it twice\r\n" ++
        "(Note that escapes are only recognized " ++
        "immediately after newline.)\r\n"))
| .list => some [escapeChar, 35, 13, 10]

/- `snprintf` into the memory of the characters read. -/
def printInto
    (buf text : List UInt8) : List UInt8 :=
  (text ++ [0]).take buf.length ++ buf.drop (text.length + 1)

/-
  What the commands do with the client. The parent process
  of a client that goes into the background exits, and its
  child goes on.
-/
def carryOut
    (escapeChar : UInt8)
    (channelOpenMessage : List UInt8)
    (client : Client)
    (action : EscapeAction) : Client :=
  let client := { client with
    actions := client.actions ++ [action] }
  let client :=
    client.print ((escapeText escapeChar action).getD [])
  match action with
  | .disconnect => { client with quitPending := true }
  | .suspend => client.suspendSelf
  | .background =>
      if client.stdinEof then
        client
      else
        let client := client.send .controlD
        let client := { client with stdinEof := true }
        client.sendEofIfEmpty
  | .help => client
  | .list => client.print channelOpenMessage

end Ssh1

------------------------------------------------------------
-- Reading Standard Input
------------------------------------------------------------

namespace Ssh1

/- What the loop over the characters works on. -/
structure TypedLoop where
  buf : List UInt8
  i : Nat
  client : Client

/- `buf[i]` -/
def TypedLoop.current (loop : TypedLoop) : UInt8 :=
  loop.buf.getD loop.i 0

/- What sets `last_was_cr`. -/
def isNewline (ch : UInt8) : Bool :=
  ch = 13 ∨ ch = 10

/- A character that is sent, and remembered. -/
def processNormalChar
    (loop : TypedLoop)
    (ch : UInt8) : TypedLoop where
  buf := loop.buf.set 0 ch
  i := loop.i + 1
  client :=
    ({ loop.client with
        lastWasCr := isNewline ch }).append [ch]

/- The memory after a command has printed its message. -/
def printCommand
    (escapeChar : UInt8)
    (buf : List UInt8)
    (action : EscapeAction) : List UInt8 :=
  match escapeText escapeChar action with
  | some text => printInto buf text
  | none => buf

/- The character behind an escape character. -/
def processEscapedChar
    (escapeChar : UInt8)
    (channelOpenMessage : List UInt8)
    (loop : TypedLoop)
    (ch : UInt8) : TypedLoop :=
  let client := loop.client.clearPending
  match escapeAction ch with
  | some action => {
      buf := printCommand escapeChar loop.buf action
      i := loop.i + 1
      client :=
        carryOut escapeChar channelOpenMessage client action }
  | none =>
      if ch ≠ escapeChar then {
        buf := (loop.buf.set 0 escapeChar).set 1 ch
        i := loop.i + 1
        client := client.append [escapeChar, ch] }
      else
        -- typed twice, the character is a normal one
        processNormalChar { loop with client := client } ch

/- The body of the loop, unless it was left. -/
def processTypedChar
    (escapeChar : UInt8)
    (channelOpenMessage : List UInt8)
    (loop : TypedLoop) : TypedLoop :=
  if loop.client.quitPending then
    loop
  else
    let ch := loop.current
    if loop.client.escapePending then
      processEscapedChar escapeChar channelOpenMessage loop ch
    else if loop.client.lastWasCr ∧ ch = escapeChar then
      { loop with
        i := loop.i + 1
        client := { loop.client with escapePending := true } }
    else
      processNormalChar loop ch

/- The loop, so many characters before its end. -/
def processTyped
    (escapeChar : UInt8)
    (channelOpenMessage : List UInt8) :
    (left : Nat) → TypedLoop → TypedLoop
| 0, loop => loop
| left + 1, loop =>
    processTyped escapeChar channelOpenMessage left
      (processTypedChar escapeChar channelOpenMessage loop)

/- What a `read` from standard input gives. -/
inductive StdinRead where
  | data (chars : List UInt8)
  | eof
  | error (cause : List UInt8)

/- The part of `client_process_input` about standard input. -/
def clientProcessStdin
    (escapeChar : Option UInt8)
    (channelOpenMessage : List UInt8)
    (client : Client) :
    StdinRead → Client
| .eof =>
    ({ client with stdinEof := true }).sendEofIfEmpty
| .error cause =>
    ({ client.print
          (asciiBytes "read: " ++ cause.take 100 ++ [13, 10])
        with stdinEof := true }).sendEofIfEmpty
| .data chars =>
    match escapeChar with
    | none => client.append chars
    | some escapeChar =>
        (processTyped escapeChar channelOpenMessage
          chars.length ⟨chars, 0, client⟩).client

/- What the first `read` gives, if there is one. -/
inductive InitialRead where
  -- `stdin_null_flag` is set
  | stdinNull
  | eof
  | char (ch : UInt8)
  -- the call fails
  | nothing

/- `client_check_initial_eof_on_stdin`, with what its read
  returns. -/
def clientCheckInitialEofOnStdin
    (escapeChar : Option UInt8)
    (client : Client) :
    InitialRead → Client
| .stdinNull => ({ client with stdinEof := true }).send .eof
| .eof => ({ client with stdinEof := true }).send .eof
| .char ch =>
    if some ch = escapeChar then
      { client with escapePending := true }
    else
      client.append [ch]
| .nothing => client

/-
  Sends what is in the buffer, as long as there is not much
  to write to the server: that many packets.
-/
def clientMakePacketsFromStdinData :
    (room : Nat) → Client → Client
| 0, client => client
| room + 1, client =>
    if client.stdinBuffer.length > 0 then
      let len := min client.stdinBuffer.length 32768
      let client :=
        client.send (.data (client.stdinBuffer.take len))
      let client := { client with
        stdinBuffer := client.stdinBuffer.drop len }
      clientMakePacketsFromStdinData room
        (if client.stdinEof then client.sendEofIfEmpty
          else client)
    else
      client

end Ssh1

------------------------------------------------------------
-- The Cases of a Character
------------------------------------------------------------

namespace Ssh1

variable {escapeChar : UInt8}
variable {channelOpenMessage : List UInt8}
variable {loop : TypedLoop}

theorem processTypedChar_quit
    (hQuit : loop.client.quitPending = true) :
    processTypedChar escapeChar channelOpenMessage loop =
      loop := by
  rw [processTypedChar, if_pos hQuit]

theorem processTypedChar_pending
    (hQuit : loop.client.quitPending = false)
    (hPending : loop.client.escapePending = true) :
    processTypedChar escapeChar channelOpenMessage loop =
      processEscapedChar escapeChar channelOpenMessage loop
        loop.current := by
  simp only [processTypedChar, hQuit, hPending, if_true,
    Bool.false_eq_true, if_false]

/- A command is carried out. -/
theorem processEscapedChar_command
    {ch : UInt8}
    {action : EscapeAction}
    (hAction : escapeAction ch = some action) :
    processEscapedChar escapeChar channelOpenMessage loop ch =
      ⟨printCommand escapeChar loop.buf action, loop.i + 1,
        carryOut escapeChar channelOpenMessage
          loop.client.clearPending action⟩ := by
  simp only [processEscapedChar, hAction]

/- An unassigned character is sent behind the escape. -/
theorem processEscapedChar_unassigned
    {ch : UInt8}
    (hAction : escapeAction ch = none)
    (hOther : ch ≠ escapeChar) :
    processEscapedChar escapeChar channelOpenMessage loop ch =
      ⟨(loop.buf.set 0 escapeChar).set 1 ch, loop.i + 1,
        loop.client.clearPending.append [escapeChar, ch]⟩ := by
  simp only [processEscapedChar, hAction]
  rw [if_pos hOther]

/- The escape character typed twice is sent. -/
theorem processEscapedChar_twice
    (hAction : escapeAction escapeChar = none) :
    processEscapedChar escapeChar channelOpenMessage loop
        escapeChar =
      processNormalChar
        { loop with client := loop.client.clearPending }
        escapeChar := by
  simp only [processEscapedChar, hAction]
  rw [if_neg (not_not_intro rfl)]

/- The escape character begins a sequence. -/
theorem processTypedChar_escape
    (hQuit : loop.client.quitPending = false)
    (hPending : loop.client.escapePending = false)
    (hEscape :
      loop.client.lastWasCr = true ∧
        loop.current = escapeChar) :
    processTypedChar escapeChar channelOpenMessage loop =
      ⟨loop.buf, loop.i + 1,
        { loop.client with escapePending := true }⟩ := by
  simp only [processTypedChar, hQuit, hPending,
    Bool.false_eq_true, if_false]
  rw [if_pos hEscape]

/- Any other character is a normal one. -/
theorem processTypedChar_normal
    (hQuit : loop.client.quitPending = false)
    (hPending : loop.client.escapePending = false)
    (hNormal :
      ¬ (loop.client.lastWasCr = true ∧
        loop.current = escapeChar)) :
    processTypedChar escapeChar channelOpenMessage loop =
      processNormalChar loop loop.current := by
  simp only [processTypedChar, hQuit, hPending,
    Bool.false_eq_true, if_false]
  rw [if_neg hNormal]

end Ssh1
