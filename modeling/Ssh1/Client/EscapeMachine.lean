import Ssh1.Client.Typing
import Ssh1.Lib.Lockstep

/-
  Escape sequences, one character at a time.

  The machine of this module says what each typed character
  is for. The client does the same exactly as long as no
  character comes where it goes wrong.

  Main declarations:
    * `EscapeMachine`, `EscapeMachine.type`
    * `TypedChar`, `typedChars`
    * `Undisturbed`
    * `typing_follows_machine_iff`
-/

------------------------------------------------------------
-- The Machine
------------------------------------------------------------

namespace Ssh1

/- What was typed, what was sent, and what was done. -/
structure EscapeMachine where
  -- the last character
  previous : Option UInt8
  -- it was an escape character at the start of a line
  pending : Bool
  disconnected : Bool
  sent : List UInt8
  actions : List EscapeAction

namespace EscapeMachine

/- Before the first character. -/
def start : EscapeMachine where
  previous := none
  pending := false
  disconnected := false
  sent := []
  actions := []

/- The next character is the first one of a line. -/
def atLineStart (machine : EscapeMachine) : Bool :=
  match machine.previous with
  | none => true
  | some ch => isNewline ch

/- The character behind an escape character. -/
def typeEscaped
    (escapeChar : UInt8)
    (machine : EscapeMachine)
    (ch : UInt8) : EscapeMachine :=
  if ch = escapeChar then
    { machine with sent := machine.sent ++ [escapeChar] }
  else
    match escapeAction ch with
    | some action =>
        { machine with
          actions := machine.actions ++ [action]
          disconnected := action = .disconnect }
    | none =>
        { machine with sent := machine.sent ++ [escapeChar, ch] }

/- One more character is typed. -/
def type
    (escapeChar : UInt8)
    (machine : EscapeMachine)
    (ch : UInt8) : EscapeMachine :=
  if machine.disconnected then
    machine
  else
    let typed := { machine with
      previous := some ch
      pending := false }
    if machine.pending then
      typeEscaped escapeChar typed ch
    else if machine.atLineStart ∧ ch = escapeChar then
      { typed with pending := true }
    else
      { typed with sent := typed.sent ++ [ch] }

/- Everything that was typed. -/
def typeAll
    (escapeChar : UInt8)
    (text : List UInt8) : EscapeMachine :=
  text.foldl (type escapeChar) start

/- What can be seen of the machine. -/
def seen
    (machine : EscapeMachine) :
    List UInt8 × List EscapeAction :=
  (machine.sent, machine.actions)

end EscapeMachine

/- The same of a client. -/
def Client.seen
    (client : Client) : List UInt8 × List EscapeAction :=
  (client.appended, client.actions)

end Ssh1

------------------------------------------------------------
-- Typed Characters
------------------------------------------------------------

namespace Ssh1

/-
  A character, and if it is the first one that a call of
  `read` returned, all of these.
-/
structure TypedChar where
  chunk : Option (List UInt8)
  ch : UInt8

/- The characters of one read, the first with the read. -/
def chunkChars : List UInt8 → List TypedChar
| [] => []
| ch :: chars =>
    ⟨some (ch :: chars), ch⟩ :: chars.map (⟨none, ·⟩)

/- The characters of some reads, one after the other. -/
def typedChars
    (chunks : List (List UInt8)) : List TypedChar :=
  chunks.flatMap chunkChars

/- The loop begins with the characters that were read. -/
def TypedLoop.fill
    (loop : TypedLoop)
    (typed : TypedChar) : TypedLoop :=
  match typed.chunk with
  | some chunk => ⟨chunk, 0, loop.client⟩
  | none => loop

/- The client takes the next character, as its loop does. -/
def takeChar
    (escapeChar : UInt8)
    (channelOpenMessage : List UInt8)
    (loop : TypedLoop)
    (typed : TypedChar) : TypedLoop :=
  processTypedChar escapeChar channelOpenMessage
    (loop.fill typed)

/- The loop over one read takes its characters in turn. -/
theorem processTyped_eq_foldl
    (escapeChar : UInt8)
    (channelOpenMessage : List UInt8)
    (chars : List UInt8)
    (loop : TypedLoop) :
    processTyped escapeChar channelOpenMessage chars.length
        loop =
      (chars.map (⟨none, ·⟩)).foldl
        (takeChar escapeChar channelOpenMessage) loop := by
  induction chars generalizing loop with
  | nil => rfl
  | cons ch chars ih =>
      rw [List.length_cons, processTyped, ih]
      rfl

/- The characters of a read are taken by the loop over it. -/
theorem foldl_takeChar_chunkChars
    (escapeChar : UInt8)
    (channelOpenMessage : List UInt8)
    (chunk : List UInt8)
    (loop : TypedLoop) :
    ((chunkChars chunk).foldl
        (takeChar escapeChar channelOpenMessage) loop).client =
      clientProcessStdin (some escapeChar) channelOpenMessage
        loop.client (.data chunk) := by
  cases chunk with
  | nil => rfl
  | cons ch chars =>
      rw [clientProcessStdin, List.length_cons, processTyped,
        processTyped_eq_foldl]
      rfl

/- So do the loops over several reads. -/
theorem foldl_takeChar_typedChars
    (escapeChar : UInt8)
    (channelOpenMessage : List UInt8)
    (chunks : List (List UInt8))
    (loop : TypedLoop) :
    ((typedChars chunks).foldl
        (takeChar escapeChar channelOpenMessage) loop).client =
      chunks.foldl
        (fun client chunk =>
          clientProcessStdin (some escapeChar)
            channelOpenMessage client (.data chunk))
        loop.client := by
  induction chunks generalizing loop with
  | nil => rfl
  | cons chunk chunks ih =>
      rw [typedChars, List.flatMap_cons, List.foldl_append,
        ← typedChars, ih, foldl_takeChar_chunkChars]
      rfl

end Ssh1

------------------------------------------------------------
-- Where the Client Goes Wrong
------------------------------------------------------------

namespace Ssh1

/-
  The machine, and what lies in the memory of the last read:
  its characters, and over them what was printed since.
-/
structure Typing where
  machine : EscapeMachine
  -- the last character is one of an escape sequence, or it
  -- was read before the loop was entered
  apart : Bool
  shown : List UInt8
  i : Nat

namespace Typing

/- A new read takes the place of the old one. -/
def fill
    (typing : Typing)
    (typed : TypedChar) : Typing :=
  match typed.chunk with
  | some chunk => { typing with shown := chunk, i := 0 }
  | none => typing

/- The memory after the end of an escape sequence. -/
def printOver
    (escapeChar : UInt8)
    (shown : List UInt8)
    (ch : UInt8) : List UInt8 :=
  match escapeAction ch with
  | some action => printCommand escapeChar shown action
  | none =>
      if ch ≠ escapeChar then shown.set 1 ch else shown

/- One character of the read is used up. -/
def advance
    (escapeChar : UInt8)
    (typing : Typing)
    (ch : UInt8) : Typing where
  machine := typing.machine.type escapeChar ch
  apart :=
    if typing.machine.pending then ch ≠ escapeChar
    else typing.machine.atLineStart ∧ ch = escapeChar
  shown :=
    if typing.machine.pending then
      printOver escapeChar typing.shown ch
    else
      typing.shown
  i := typing.i + 1

/- One more character is typed. -/
def next
    (escapeChar : UInt8)
    (typing : Typing)
    (typed : TypedChar) : Typing :=
  let typing := typing.fill typed
  if typing.machine.disconnected then
    typing
  else
    typing.advance escapeChar typed.ch

/-
  The character still lies where it was read, and if it is
  the escape character, it is no escape command that is typed
  twice, and it does not come right behind a character that
  was apart and no newline.
-/
def Allows
    (escapeChar : UInt8)
    (typing : Typing)
    (typed : TypedChar) : Prop :=
  let typing := typing.fill typed
  typing.machine.disconnected = true ∨
    typing.shown.getD typing.i 0 = typed.ch ∧
      (typed.ch = escapeChar →
        if typing.machine.pending then
          escapeAction escapeChar = none
        else
          typing.apart = true →
            typing.machine.atLineStart = true)

/- The condition on what is typed, character by character. -/
def monitor (escapeChar : UInt8) : Monitor TypedChar Typing where
  allows := Allows escapeChar
  next := next escapeChar

/- After the first read, that may return a character. -/
def initial
    (escapeChar : UInt8)
    (first : Option UInt8) : Typing where
  machine := EscapeMachine.typeAll escapeChar first.toList
  apart := first.isSome
  shown := []
  i := 0

end Typing

/- No character comes where the client goes wrong. -/
def Undisturbed
    (escapeChar : UInt8)
    (first : Option UInt8)
    (chunks : List (List UInt8)) : Prop :=
  (Typing.monitor escapeChar).Accepts
    (Typing.initial escapeChar first) (typedChars chunks)

end Ssh1

------------------------------------------------------------
-- Answers to a Character
------------------------------------------------------------

namespace Ssh1

/- What the client sends and does for a character. -/
def clientAnswer
    (escapeChar : UInt8)
    (pending lastWasCr : Bool)
    (ch : UInt8) : List UInt8 × List EscapeAction :=
  if pending then
    match escapeAction ch with
    | some action => ([], [action])
    | none =>
        if ch ≠ escapeChar then ([escapeChar, ch], [])
        else ([ch], [])
  else if lastWasCr ∧ ch = escapeChar then
    ([], [])
  else
    ([ch], [])

/- What the machine does. -/
def machineAnswer
    (escapeChar : UInt8)
    (pending atLineStart : Bool)
    (ch : UInt8) : List UInt8 × List EscapeAction :=
  if pending then
    if ch = escapeChar then ([escapeChar], [])
    else
      match escapeAction ch with
      | some action => ([], [action])
      | none => ([escapeChar, ch], [])
  else if atLineStart ∧ ch = escapeChar then
    ([], [])
  else
    ([ch], [])

/- Each action has one character. -/
theorem escapeAction_injective
    {ch ch' : UInt8}
    {action : EscapeAction}
    (hFirst : escapeAction ch = some action)
    (hSecond : escapeAction ch' = some action) :
    ch = ch' := by
  unfold escapeAction at hFirst hSecond
  grind

/- After an escape character the answers agree when the
  character read is the one typed. -/
theorem clientAnswer_pending_iff
    {escapeChar : UInt8}
    {lastWasCr atLineStart : Bool}
    {read ch : UInt8} :
    clientAnswer escapeChar true lastWasCr read =
        machineAnswer escapeChar true atLineStart ch ↔
      read = ch ∧
        (ch = escapeChar → escapeAction escapeChar = none) := by
  have hSame := @escapeAction_injective read ch
  simp only [clientAnswer, machineAnswer, if_true]
  cases hRead : escapeAction read with
  | some action =>
      cases hTyped : escapeAction ch with
      | some other => grind
      | none => grind
  | none =>
      cases hTyped : escapeAction ch with
      | some other => grind
      | none => grind

/-
  The answers differ where another character is looked at,
  and where the escape character is taken for another one.
-/
theorem clientAnswer_eq_machineAnswer_iff
    {escapeChar : UInt8}
    {pending lastWasCr atLineStart : Bool}
    (hLine : atLineStart = true → lastWasCr = true)
    {read ch : UInt8} :
    clientAnswer escapeChar pending lastWasCr read =
        machineAnswer escapeChar pending atLineStart ch ↔
      read = ch ∧
        (ch = escapeChar →
          if pending then escapeAction escapeChar = none
          else lastWasCr = true → atLineStart = true) := by
  cases pending with
  | true =>
      simpa using clientAnswer_pending_iff
  | false =>
      simp only [clientAnswer, machineAnswer,
        Bool.false_eq_true, if_false]
      by_cases hClient : lastWasCr = true ∧ read = escapeChar
      · rw [if_pos hClient]
        grind
      · rw [if_neg hClient]
        grind

end Ssh1

------------------------------------------------------------
-- Single Characters
------------------------------------------------------------

namespace Ssh1

/- What can be seen after an answer. -/
def afterAnswer
    (seen answer : List UInt8 × List EscapeAction) :
    List UInt8 × List EscapeAction :=
  (seen.1 ++ answer.1, seen.2 ++ answer.2)

/- An answer can be told from what is seen after it. -/
theorem afterAnswer_left_cancel
    {seen answer other : List UInt8 × List EscapeAction} :
    afterAnswer seen answer = afterAnswer seen other ↔
      answer = other := by
  simp [afterAnswer, Prod.ext_iff]

/- What a character does to the machine. -/
structure EscapeMachine.Types
    (escapeChar : UInt8)
    (machine : EscapeMachine)
    (ch : UInt8)
    (next : EscapeMachine) : Prop where
  seen :
    next.seen =
      afterAnswer machine.seen
        (machineAnswer escapeChar machine.pending
          machine.atLineStart ch)
  pending :
    next.pending =
      (!machine.pending && machine.atLineStart &&
        decide (ch = escapeChar))
  previous : next.previous = some ch
  disconnected :
    next.disconnected =
      (machine.pending && decide (ch ≠ escapeChar) &&
        decide (escapeAction ch = some .disconnect))

/- The machine does what the rules of typing say. -/
theorem EscapeMachine.types
    (escapeChar : UInt8)
    {machine : EscapeMachine}
    (hConnected : machine.disconnected = false)
    (ch : UInt8) :
    machine.Types escapeChar ch
      (machine.type escapeChar ch) := by
  cases hPending : machine.pending with
  | true =>
      by_cases hSame : ch = escapeChar
      · constructor <;>
          simp [type, hConnected, hPending, typeEscaped, hSame,
            seen, afterAnswer, machineAnswer]
      · cases hAction : escapeAction ch with
        | some action =>
            constructor <;>
              simp [type, hConnected, hPending, typeEscaped,
                hSame, hAction, seen, afterAnswer,
                machineAnswer]
        | none =>
            constructor <;>
              simp [type, hConnected, hPending, typeEscaped,
                hSame, hAction, seen, afterAnswer,
                machineAnswer]
  | false =>
      by_cases hEscape :
          machine.atLineStart = true ∧ ch = escapeChar
      · constructor <;>
          simp [type, hConnected, hPending, hEscape, seen,
            afterAnswer, machineAnswer]
      · constructor <;>
          simp [type, hConnected, hPending, hEscape, seen,
            afterAnswer, machineAnswer]
        simpa using hEscape

/- A newline starts a line. -/
theorem EscapeMachine.Types.atLineStart
    {escapeChar : UInt8}
    {machine next : EscapeMachine}
    {ch : UInt8}
    (hTypes : machine.Types escapeChar ch next) :
    next.atLineStart = isNewline ch := by
  rw [EscapeMachine.atLineStart, hTypes.previous]

/- What a character does to the client. -/
structure Client.Takes
    (escapeChar : UInt8)
    (client : Client)
    (read : UInt8)
    (next : Client) : Prop where
  seen :
    next.seen =
      afterAnswer client.seen
        (clientAnswer escapeChar client.escapePending
          client.lastWasCr read)
  pending :
    next.escapePending =
      (!client.escapePending && client.lastWasCr &&
        decide (read = escapeChar))
  lastWasCr :
    next.lastWasCr =
      if client.escapePending then
        if escapeAction read = none ∧ read = escapeChar then
          isNewline read
        else client.lastWasCr
      else
        client.lastWasCr && decide (read = escapeChar) ||
          isNewline read
  quitPending :
    next.quitPending =
      (client.escapePending &&
        decide (escapeAction read = some .disconnect))

/- The commands only leave a trace of themselves. -/
theorem carryOut_spec
    (escapeChar : UInt8)
    (channelOpenMessage : List UInt8)
    (client : Client)
    (hQuit : client.quitPending = false)
    (action : EscapeAction) :
    (carryOut escapeChar channelOpenMessage client
          action).seen =
        afterAnswer client.seen ([], [action]) ∧
      (carryOut escapeChar channelOpenMessage client
          action).escapePending = client.escapePending ∧
      (carryOut escapeChar channelOpenMessage client
          action).lastWasCr = client.lastWasCr ∧
      (carryOut escapeChar channelOpenMessage client
          action).quitPending =
        decide (action = .disconnect) := by
  cases action with
  | disconnect =>
      simp [carryOut, Client.print, Client.seen, afterAnswer]
  | suspend =>
      simp [carryOut, Client.print, Client.seen, afterAnswer,
        Client.suspendSelf, hQuit]
  | background =>
      cases hEof : client.stdinEof with
      | true =>
          simp [carryOut, Client.print, Client.seen,
            afterAnswer, hEof, hQuit]
      | false =>
          by_cases hEmpty : client.stdinBuffer.length = 0
          · simp [carryOut, Client.print, Client.seen,
              afterAnswer, hEof, hQuit, Client.sendEofIfEmpty,
              Client.send, hEmpty]
          · simp [carryOut, Client.print, Client.seen,
              afterAnswer, hEof, hQuit, Client.sendEofIfEmpty,
              Client.send, hEmpty]
  | help =>
      simp [carryOut, Client.print, Client.seen, afterAnswer,
        hQuit]
  | list =>
      simp [carryOut, Client.print, Client.seen, afterAnswer,
        hQuit]

/- The client does what the rules of taking say. -/
theorem takes_processTypedChar
    (escapeChar : UInt8)
    (channelOpenMessage : List UInt8)
    {loop : TypedLoop}
    (hQuit : loop.client.quitPending = false) :
    loop.client.Takes escapeChar loop.current
      (processTypedChar escapeChar channelOpenMessage
        loop).client := by
  generalize hRead : loop.current = read
  cases hPending : loop.client.escapePending with
  | true =>
      rw [processTypedChar_pending hQuit hPending, hRead]
      cases hAction : escapeAction read with
      | some action =>
          rcases carryOut_spec escapeChar channelOpenMessage
              loop.client.clearPending hQuit action with
            ⟨hSeen, hEscape, hCr, hEnd⟩
          rw [processEscapedChar_command hAction]
          constructor
          · rw [hSeen, hPending, clientAnswer]
            simp only [if_true, hAction]
            rfl
          · rw [hEscape, hPending]
            rfl
          · rw [hCr, hPending]
            simp [hAction, Client.clearPending]
          · rw [hEnd, hPending]
            simp [hAction]
      | none =>
          by_cases hSame : read = escapeChar
          · rw [hSame] at hAction
            rw [hSame, processEscapedChar_twice hAction]
            constructor <;>
              simp [hPending, hAction, hQuit,
                processNormalChar, Client.append, Client.seen,
                Client.clearPending, afterAnswer,
                clientAnswer]
          · rw [processEscapedChar_unassigned hAction hSame]
            constructor <;>
              simp [hPending, hAction, hQuit, hSame,
                Client.append, Client.seen,
                Client.clearPending, afterAnswer,
                clientAnswer]
  | false =>
      by_cases hEscape :
          loop.client.lastWasCr = true ∧ read = escapeChar
      · rw [← hRead] at hEscape
        rw [processTypedChar_escape hQuit hPending hEscape]
        rw [hRead] at hEscape
        constructor <;>
          simp [hPending, hQuit, hEscape, Client.seen,
            afterAnswer, clientAnswer]
      · rw [← hRead] at hEscape
        rw [processTypedChar_normal hQuit hPending hEscape]
        rw [hRead] at hEscape ⊢
        constructor <;>
          simp [hPending, hQuit, hEscape, processNormalChar,
            Client.append, Client.seen, afterAnswer,
            clientAnswer]
        simpa using hEscape

end Ssh1

------------------------------------------------------------
-- The Memory of a Read
------------------------------------------------------------

namespace Ssh1

/- Two memories are the same from an index on. -/
structure SameFrom
    (i : Nat)
    (buf shown : List UInt8) : Prop where
  length : buf.length = shown.length
  bytes : ∀ j, i ≤ j → buf[j]? = shown[j]?

variable {i : Nat}
variable {buf shown : List UInt8}

theorem SameFrom.refl
    (i : Nat)
    (buf : List UInt8) :
    SameFrom i buf buf :=
  ⟨rfl, fun _ _ => rfl⟩

/- The bytes from here on are the same. -/
theorem SameFrom.getD_eq
    (hSame : SameFrom i buf shown) :
    buf.getD i 0 = shown.getD i 0 := by
  rw [List.getD_eq_getElem?_getD, List.getD_eq_getElem?_getD,
    hSame.bytes i (Nat.le_refl i)]

theorem SameFrom.succ
    (hSame : SameFrom i buf shown) :
    SameFrom (i + 1) buf shown :=
  ⟨hSame.length, fun j hj => hSame.bytes j (by omega)⟩

/- The first byte is not looked at any more. -/
theorem SameFrom.set_zero
    (hSame : SameFrom i buf shown)
    (ch : UInt8) :
    SameFrom (i + 1) (buf.set 0 ch) shown where
  length := by rw [List.length_set, hSame.length]
  bytes := by
    intro j hj
    rw [List.getElem?_set_ne (by omega)]
    exact hSame.bytes j (by omega)

/- A byte that is put before does not count. -/
theorem SameFrom.set_one
    (hSame : SameFrom (i + 1) buf shown)
    (ch : UInt8) :
    SameFrom (i + 1) (buf.set 1 ch) (shown.set 1 ch) where
  length := by
    rw [List.length_set, List.length_set, hSame.length]
  bytes := by
    intro j hj
    rw [List.getElem?_set, List.getElem?_set, hSame.length,
      hSame.bytes j hj]

/- The same text is printed into both. -/
theorem SameFrom.printInto
    (hSame : SameFrom i buf shown)
    (text : List UInt8) :
    SameFrom i (printInto buf text) (printInto shown text) where
  length := by
    rw [Ssh1.printInto, Ssh1.printInto, List.length_append,
      List.length_append, List.length_drop, List.length_drop,
      hSame.length]
  bytes := by
    intro j hj
    rw [Ssh1.printInto, Ssh1.printInto, hSame.length,
      List.getElem?_append, List.getElem?_append,
      List.getElem?_drop, List.getElem?_drop]
    split
    · rfl
    · rename_i hBeyond
      have hLength := hSame.length
      rw [List.length_take, List.length_append,
        List.length_singleton] at hBeyond ⊢
      rcases Nat.le_total (text.length + 1) shown.length with
        hShort | hLong
      · rw [Nat.min_eq_right hShort] at hBeyond ⊢
        exact hSame.bytes _ (by omega)
      · rw [Nat.min_eq_left hLong] at hBeyond ⊢
        rw [List.getElem?_eq_none (by omega),
          List.getElem?_eq_none (by omega)]

theorem SameFrom.printCommand
    (hSame : SameFrom i buf shown)
    (escapeChar : UInt8)
    (action : EscapeAction) :
    SameFrom i (printCommand escapeChar buf action)
      (printCommand escapeChar shown action) := by
  unfold Ssh1.printCommand
  split
  · exact hSame.printInto _
  · exact hSame

end Ssh1

------------------------------------------------------------
-- The Client and the Machine
------------------------------------------------------------

namespace Ssh1

variable {escapeChar : UInt8}
variable {channelOpenMessage : List UInt8}

/- The client is where the typing is. -/
structure TypedLoop.Follows
    (loop : TypedLoop)
    (typing : Typing) : Prop where
  same : SameFrom typing.i loop.buf typing.shown
  i : loop.i = typing.i
  pending :
    loop.client.escapePending = typing.machine.pending
  lastWasCr :
    loop.client.lastWasCr =
      (typing.apart || typing.machine.atLineStart)
  quitPending :
    loop.client.quitPending = typing.machine.disconnected
  seen : loop.client.seen = typing.machine.seen
  -- what is pending is the start of an escape sequence
  apart :
    typing.machine.pending = true → typing.apart = true

/- A new read is followed. -/
theorem TypedLoop.Follows.fill
    {loop : TypedLoop}
    {typing : Typing}
    (hFollows : loop.Follows typing)
    (typed : TypedChar) :
    (loop.fill typed).Follows (typing.fill typed) := by
  unfold TypedLoop.fill Typing.fill
  cases typed.chunk with
  | none => exact hFollows
  | some chunk =>
      exact {
        same := SameFrom.refl 0 chunk
        i := rfl
        pending := hFollows.pending
        lastWasCr := hFollows.lastWasCr
        quitPending := hFollows.quitPending
        seen := hFollows.seen
        apart := hFollows.apart }

theorem i_processTypedChar
    {loop : TypedLoop}
    (hQuit : loop.client.quitPending = false) :
    (processTypedChar escapeChar channelOpenMessage loop).i =
      loop.i + 1 := by
  cases hPending : loop.client.escapePending with
  | true =>
      rw [processTypedChar_pending hQuit hPending]
      unfold processEscapedChar
      cases escapeAction loop.current with
      | some action => rfl
      | none =>
          simp only
          split
          · rfl
          · rfl
  | false =>
      by_cases hEscape :
          loop.client.lastWasCr = true ∧
            loop.current = escapeChar
      · rw [processTypedChar_escape hQuit hPending hEscape]
      · rw [processTypedChar_normal hQuit hPending hEscape]
        rfl

/- The memory is used in the same way. -/
theorem buf_processTypedChar
    (escapeChar : UInt8)
    (channelOpenMessage : List UInt8)
    {loop : TypedLoop}
    (hQuit : loop.client.quitPending = false)
    {shown : List UInt8}
    (hSame : SameFrom loop.i loop.buf shown) :
    SameFrom (loop.i + 1)
      (processTypedChar escapeChar channelOpenMessage loop).buf
      (if loop.client.escapePending then
        Typing.printOver escapeChar shown loop.current
      else shown) := by
  cases hPending : loop.client.escapePending with
  | true =>
      rw [processTypedChar_pending hQuit hPending, if_pos rfl,
        Typing.printOver]
      cases hAction : escapeAction loop.current with
      | some action =>
          rw [processEscapedChar_command hAction]
          exact (hSame.printCommand escapeChar action).succ
      | none =>
          by_cases hTwice : loop.current = escapeChar
          · rw [hTwice] at hAction ⊢
            rw [processEscapedChar_twice hAction]
            simp only
            rw [if_neg (not_not_intro rfl)]
            exact hSame.set_zero escapeChar
          · rw [processEscapedChar_unassigned hAction hTwice]
            simp only
            rw [if_pos hTwice]
            exact (hSame.set_zero escapeChar).set_one _
  | false =>
      rw [if_neg Bool.false_ne_true]
      by_cases hEscape :
          loop.client.lastWasCr = true ∧
            loop.current = escapeChar
      · rw [processTypedChar_escape hQuit hPending hEscape]
        exact hSame.succ
      · rw [processTypedChar_normal hQuit hPending hEscape]
        exact hSame.set_zero _

/- What the client looks at, and what was typed. -/
theorem TypedLoop.Follows.current
    {loop : TypedLoop}
    {typing : Typing}
    (hFollows : loop.Follows typing) :
    loop.current = typing.shown.getD typing.i 0 := by
  rw [TypedLoop.current, hFollows.i]
  exact hFollows.same.getD_eq

/- Both answer alike exactly where the character is allowed. -/
theorem TypedLoop.Follows.answer_iff
    {loop : TypedLoop}
    {typing : Typing}
    (hFollows : loop.Follows typing)
    (escapeChar ch : UInt8) :
    clientAnswer escapeChar loop.client.escapePending
          loop.client.lastWasCr loop.current =
        machineAnswer escapeChar typing.machine.pending
          typing.machine.atLineStart ch ↔
      typing.shown.getD typing.i 0 = ch ∧
        (ch = escapeChar →
          if typing.machine.pending then
            escapeAction escapeChar = none
          else
            typing.apart = true →
              typing.machine.atLineStart = true) := by
  have hLine :
      typing.machine.atLineStart = true →
        loop.client.lastWasCr = true := by
    intro hStart
    rw [hFollows.lastWasCr, hStart, Bool.or_true]
  rw [hFollows.pending,
    clientAnswer_eq_machineAnswer_iff hLine,
    hFollows.current, hFollows.lastWasCr, Bool.or_eq_true]
  have hApart :
      (typing.apart = true ∨
            typing.machine.atLineStart = true →
          typing.machine.atLineStart = true) ↔
        (typing.apart = true →
          typing.machine.atLineStart = true) := by
    constructor
    · intro hEither hApart
      exact hEither (Or.inl hApart)
    · rintro hOne (hApart | hStart)
      · exact hOne hApart
      · exact hStart
  rw [hApart]

/- An allowed character is taken by both in the same way. -/
theorem TypedLoop.Follows.advance
    {loop : TypedLoop}
    {typing : Typing}
    (hFollows : loop.Follows typing)
    (hConnected : typing.machine.disconnected = false)
    {ch : UInt8}
    (hCurrent : loop.current = ch)
    (hEscape :
      ch = escapeChar →
        if typing.machine.pending then
          escapeAction escapeChar = none
        else
          typing.apart = true →
            typing.machine.atLineStart = true) :
    (processTypedChar escapeChar channelOpenMessage
      loop).Follows (typing.advance escapeChar ch) := by
  have hQuit : loop.client.quitPending = false := by
    rw [hFollows.quitPending, hConnected]
  have hTakes :=
    takes_processTypedChar escapeChar channelOpenMessage hQuit
  have hTypes :=
    EscapeMachine.types escapeChar hConnected ch
  have hAnswer :=
    (hFollows.answer_iff escapeChar ch).mpr
      ⟨hFollows.current.symm.trans hCurrent, hEscape⟩
  have hPending := hFollows.pending
  have hCr := hFollows.lastWasCr
  constructor
  · have hBuf :=
      buf_processTypedChar escapeChar channelOpenMessage hQuit
        (hFollows.i ▸ hFollows.same)
    rw [hFollows.i, hPending, hCurrent] at hBuf
    exact hBuf
  · rw [i_processTypedChar hQuit, hFollows.i]
    rfl
  · show _ = (typing.machine.type escapeChar ch).pending
    rw [hTakes.pending, hTypes.pending, hPending, hCr,
      hCurrent]
    grind
  · have hApart := hFollows.apart
    show _ = (_ ||
      (typing.machine.type escapeChar ch).atLineStart)
    rw [hTakes.lastWasCr, hTypes.atLineStart, hPending, hCr,
      hCurrent]
    simp only [Typing.advance]
    grind
  · show _ = (typing.machine.type escapeChar ch).disconnected
    rw [hTakes.quitPending, hTypes.disconnected, hPending,
      hCurrent]
    grind
  · show _ = (typing.machine.type escapeChar ch).seen
    rw [hTakes.seen, hTypes.seen, hAnswer, hFollows.seen]
  · intro hNext
    have hStart :
        (typing.machine.type escapeChar ch).pending = true :=
      hNext
    rw [hTypes.pending] at hStart
    simp only [Typing.advance]
    grind

end Ssh1

------------------------------------------------------------
-- The Whole Typing
------------------------------------------------------------

namespace Ssh1

variable {escapeChar : UInt8}
variable {channelOpenMessage : List UInt8}

/- One character that is allowed is followed. -/
theorem TypedLoop.Follows.next
    {loop : TypedLoop}
    {typing : Typing}
    (hFollows : loop.Follows typing)
    {typed : TypedChar}
    (hAllows : typing.Allows escapeChar typed) :
    (takeChar escapeChar channelOpenMessage loop
      typed).Follows (typing.next escapeChar typed) := by
  have hFilled := hFollows.fill typed
  unfold takeChar Typing.next
  unfold Typing.Allows at hAllows
  cases hEnd : (typing.fill typed).machine.disconnected with
  | true =>
      have hQuit :
          (loop.fill typed).client.quitPending = true := by
        rw [hFilled.quitPending, hEnd]
      rw [processTypedChar_quit hQuit]
      simp only [hEnd, if_true]
      exact hFilled
  | false =>
      simp only [hEnd, Bool.false_eq_true, false_or] at hAllows
      simp only [hEnd, Bool.false_eq_true, if_false]
      exact hFilled.advance hEnd
        (hFilled.current.trans hAllows.1) hAllows.2

/- A character that is not allowed is seen at once. -/
theorem TypedLoop.Follows.allows_of_seen
    {loop : TypedLoop}
    {typing : Typing}
    (hFollows : loop.Follows typing)
    {typed : TypedChar}
    (hSeen :
      (takeChar escapeChar channelOpenMessage loop
          typed).client.seen =
        (typing.next escapeChar typed).machine.seen) :
    typing.Allows escapeChar typed := by
  have hFilled := hFollows.fill typed
  unfold takeChar Typing.next at hSeen
  unfold Typing.Allows
  cases hEnd : (typing.fill typed).machine.disconnected with
  | true => exact Or.inl hEnd
  | false =>
      right
      have hQuit :
          (loop.fill typed).client.quitPending = false := by
        rw [hFilled.quitPending, hEnd]
      simp only [hEnd, Bool.false_eq_true, if_false] at hSeen
      have hTypes :=
        EscapeMachine.types escapeChar hEnd typed.ch
      have hMachine :
          ((typing.fill typed).advance escapeChar
              typed.ch).machine.seen =
            afterAnswer (typing.fill typed).machine.seen
              (machineAnswer escapeChar
                (typing.fill typed).machine.pending
                (typing.fill typed).machine.atLineStart
                typed.ch) :=
        hTypes.seen
      rw [(takes_processTypedChar _ _ hQuit).seen, hMachine,
        hFilled.seen, afterAnswer_left_cancel] at hSeen
      exact (hFilled.answer_iff _ typed.ch).mp hSeen

/- The first read, whether it returns a character or not. -/
def initialRead : Option UInt8 → InitialRead
| some ch => .char ch
| none => .nothing

/- Both start alike. -/
theorem follows_initial
    (escapeChar : UInt8)
    (first : Option UInt8) :
    TypedLoop.Follows
      ⟨[], 0, clientCheckInitialEofOnStdin (some escapeChar)
        Client.start (initialRead first)⟩
      (Typing.initial escapeChar first) := by
  cases first with
  | none =>
      constructor <;> first | rfl | simp [Typing.initial,
        EscapeMachine.typeAll, EscapeMachine.start]
      exact SameFrom.refl 0 []
  | some ch =>
      by_cases hEscape : ch = escapeChar
      · subst hEscape
        constructor <;> simp [initialRead,
          clientCheckInitialEofOnStdin, Typing.initial,
          EscapeMachine.typeAll, EscapeMachine.start,
          EscapeMachine.type, EscapeMachine.atLineStart,
          Client.start, Client.seen, EscapeMachine.seen]
        exact SameFrom.refl 0 []
      · constructor <;> simp [initialRead, hEscape,
          clientCheckInitialEofOnStdin, Typing.initial,
          EscapeMachine.typeAll, EscapeMachine.start,
          EscapeMachine.type, EscapeMachine.atLineStart,
          Client.start, Client.seen, EscapeMachine.seen,
          Client.append]
        exact SameFrom.refl 0 []

/- The machine takes every character as it is. -/
theorem machine_after
    (typing : Typing)
    (done : List TypedChar) :
    ((Typing.monitor escapeChar).after typing done).machine =
      (done.map TypedChar.ch).foldl
        (EscapeMachine.type escapeChar) typing.machine := by
  induction done generalizing typing with
  | nil => rfl
  | cons typed done ih =>
      have hFill :
          (typing.fill typed).machine = typing.machine := by
        unfold Typing.fill
        cases typed.chunk with
        | none => rfl
        | some chunk => rfl
      have hNext :
          (typing.next escapeChar typed).machine =
            typing.machine.type escapeChar typed.ch := by
        unfold Typing.next
        simp only
        split
        · rename_i hEnd
          rw [hFill] at hEnd
          rw [EscapeMachine.type, if_pos hEnd, hFill]
        · rw [← hFill]
          rfl
      rw [Monitor.after, ih, List.map_cons, List.foldl_cons]
      exact congrArg
        (fun machine => List.foldl
          (EscapeMachine.type escapeChar) machine
          (done.map TypedChar.ch)) hNext

end Ssh1

------------------------------------------------------------
-- Agreement
------------------------------------------------------------

namespace Ssh1

/- The client after its first read and some more of them. -/
def clientAfterReads
    (escapeChar : Option UInt8)
    (channelOpenMessage : List UInt8)
    (first : Option UInt8)
    (chunks : List (List UInt8)) : Client :=
  chunks.foldl
    (fun client chunk =>
      clientProcessStdin escapeChar channelOpenMessage client
        (.data chunk))
    (clientCheckInitialEofOnStdin escapeChar Client.start
      (initialRead first))

/- The loop over the characters behind the first read. -/
def loopAfterChars
    (escapeChar : UInt8)
    (channelOpenMessage : List UInt8)
    (first : Option UInt8)
    (done : List TypedChar) : TypedLoop :=
  done.foldl (takeChar escapeChar channelOpenMessage)
    ⟨[], 0, clientCheckInitialEofOnStdin (some escapeChar)
      Client.start (initialRead first)⟩

/- After whole reads, the loop has the client of the reads. -/
theorem client_loopAfterChars
    (escapeChar : UInt8)
    (channelOpenMessage : List UInt8)
    (first : Option UInt8)
    (chunks : List (List UInt8)) :
    (loopAfterChars escapeChar channelOpenMessage first
        (typedChars chunks)).client =
      clientAfterReads (some escapeChar) channelOpenMessage
        first chunks := by
  rw [loopAfterChars, foldl_takeChar_typedChars]
  rfl

/- Without an escape character everything is sent. -/
theorem seen_clientAfterReads_none
    (channelOpenMessage : List UInt8)
    (first : Option UInt8)
    (chunks : List (List UInt8)) :
    (clientAfterReads none channelOpenMessage first
        chunks).seen =
      (first.toList ++ chunks.flatten, []) := by
  have hFirst :
      (clientCheckInitialEofOnStdin none Client.start
        (initialRead first)).seen = (first.toList, []) := by
    cases first with
    | none => rfl
    | some ch => rfl
  have hReads :
      ∀ client : Client,
        (chunks.foldl
          (fun client chunk =>
            clientProcessStdin none channelOpenMessage client
              (.data chunk)) client).seen =
          (client.seen.1 ++ chunks.flatten,
            client.seen.2) := by
    induction chunks with
    | nil =>
        intro client
        simp
    | cons chunk chunks ih =>
        intro client
        rw [List.foldl_cons, ih, List.flatten_cons,
          ← List.append_assoc]
        rfl
  rw [clientAfterReads, hReads, hFirst]

/- The machine behind some of the characters. -/
theorem machine_after_initial
    (escapeChar : UInt8)
    (first : Option UInt8)
    (done : List TypedChar) :
    ((Typing.monitor escapeChar).after
        (Typing.initial escapeChar first) done).machine =
      EscapeMachine.typeAll escapeChar
        (first.toList ++ done.map TypedChar.ch) := by
  rw [machine_after, Typing.initial, EscapeMachine.typeAll,
    ← List.foldl_append]
  rfl

/-
  After all characters the client is where the reads take it,
  and it does for every character what the machine does
  exactly if no character comes where it goes wrong.
-/
theorem typing_follows_machine_iff
    (channelOpenMessage : List UInt8)
    (first : Option UInt8)
    (chunks : List (List UInt8)) :
    (clientAfterReads none channelOpenMessage first
          chunks).seen =
        (first.toList ++ chunks.flatten, []) ∧
      ∀ escapeChar,
        (loopAfterChars escapeChar channelOpenMessage first
            (typedChars chunks)).client =
          clientAfterReads (some escapeChar)
            channelOpenMessage first chunks ∧
        ((∀ done, done <+: typedChars chunks →
          (loopAfterChars escapeChar channelOpenMessage first
              done).client.seen =
            (EscapeMachine.typeAll escapeChar
              (first.toList ++
                done.map TypedChar.ch)).seen) ↔
          Undisturbed escapeChar first chunks) := by
  refine ⟨seen_clientAfterReads_none channelOpenMessage first
    chunks, ?_⟩
  intro escapeChar
  refine ⟨client_loopAfterChars escapeChar channelOpenMessage
    first chunks, ?_⟩
  have hAgree :=
    Lockstep.agree_iff_accepts
      (takeChar escapeChar channelOpenMessage)
      (Typing.monitor escapeChar)
      (fun loop => loop.client.seen)
      (fun typing => typing.machine.seen)
      (fun _ _ _ hRel hAllows => hRel.next hAllows)
      (fun _ _ hRel => hRel.seen)
      (fun _ _ _ hRel hSeen => hRel.allows_of_seen hSeen)
      (follows_initial escapeChar first)
      (typedChars chunks)
  simp only [machine_after_initial] at hAgree
  exact hAgree

/-
  A character that was read before the loop was entered is
  forgotten: `~` behind an `a` begins an escape sequence. The
  characters behind `~#` give way to its message.
-/
theorem typing_not_machine :
    (clientAfterReads (some 126) [] (some 97)
          [[126, 46]]).seen ≠
        (EscapeMachine.typeAll 126 [97, 126, 46]).seen ∧
      (clientAfterReads (some 126) [] none
          [[126, 35, 97, 98]]).seen ≠
        (EscapeMachine.typeAll 126 [126, 35, 97, 98]).seen := by
  constructor
  · decide +kernel
  · decide +kernel

end Ssh1
