import Ssh1.Client.Typing

/-
  The stream of standard input, over whole runs.

  The packets carry what was appended to the buffer, and the
  end of file comes last, unless an escape command comes at
  the wrong time.

  Main declarations:
    * `clientTurn`, `clientRun`
    * `StreamInOrder`, `SparesStream`
    * `clientRun_streamInOrder`
-/

------------------------------------------------------------
-- The Client Loop
------------------------------------------------------------

namespace Ssh1

/- The session ends with a message. -/
def Client.quit
    (client : Client)
    (text : List UInt8) : Client :=
  { client.print text with quitPending := true }

/- What happens in one turn of the loop. -/
structure ClientTurn where
  -- the packets of the server end the session
  serverEnds : Bool
  -- so many packets may be sent before there is much to write
  room : Nat
  -- `select` fails, for this reason
  selectError : Option (List UInt8)
  -- the connection is closed or broken, with this message
  connectionEnds : Option (List UInt8)
  -- standard input, where it was selected and is ready
  stdin : Option StdinRead
  -- the output cannot be written, with this message
  outputFails : Option (List UInt8)

/- The select masks name standard input up to its end. -/
def clientProcessInput
    (escapeChar : Option UInt8)
    (channelOpenMessage : List UInt8)
    (client : Client)
    (turn : ClientTurn) : Client :=
  match turn.connectionEnds with
  | some text => client.quit text
  | none =>
      match turn.stdin with
      | some read =>
          if client.stdinEof then
            client
          else
            clientProcessStdin escapeChar channelOpenMessage
              client read
      | none => client

/- `client_process_output`: a failing write ends the client. -/
def clientProcessOutput
    (client : Client)
    (turn : ClientTurn) : Client :=
  match turn.outputFails with
  | some text => client.quit text
  | none => client

/- The client as it waits, unless it was left before. -/
def clientBeforeWait
    (client : Client)
    (turn : ClientTurn) : Client :=
  clientMakePacketsFromStdinData turn.room
    { client with
      quitPending := client.quitPending || turn.serverEnds }

/- The body of the loop, as long as it is not left. -/
def clientTurn
    (escapeChar : Option UInt8)
    (channelOpenMessage : List UInt8)
    (client : Client)
    (turn : ClientTurn) : Client :=
  if client.quitPending then
    client
  else
    let client := clientBeforeWait client turn
    if client.quitPending then
      client
    else
      match turn.selectError with
      | some cause =>
          client.quit (asciiBytes "select: " ++
            cause.take 100 ++ [13, 10])
      | none =>
          clientProcessOutput
            (clientProcessInput escapeChar channelOpenMessage
              client turn) turn

/- The client loop after some turns. -/
def clientRun
    (escapeChar : Option UInt8)
    (channelOpenMessage : List UInt8)
    (initial : InitialRead)
    (turns : List ClientTurn) : Client :=
  turns.foldl (clientTurn escapeChar channelOpenMessage)
    (clientCheckInitialEofOnStdin escapeChar Client.start
      initial)

end Ssh1

------------------------------------------------------------
-- The Stream
------------------------------------------------------------

namespace Ssh1

/- The bytes of the packets, but for the one of `&`. -/
def streamData (packets : List StdinPacket) : List UInt8 :=
  packets.flatMap fun packet =>
    match packet with
    | .data bytes => bytes
    | .controlD => []
    | .eof => []

/-
  The packets carry exactly what was appended, the end of
  file is the last packet, and nothing is left behind it.
-/
structure StreamInOrder (client : Client) : Prop where
  carried :
    streamData client.sent ++ client.stdinBuffer =
      client.appended
  eofLast : StdinPacket.eof ∉ client.sent.dropLast
  eofBehind :
    StdinPacket.eof ∈ client.sent → client.stdinBuffer = []

/- The same, and the end of file is sent in time. -/
structure Streams
    (sent : List StdinPacket)
    (buffer appended : List UInt8)
    (stdinEof : Bool) : Prop where
  carried : streamData sent ++ buffer = appended
  eofLast : StdinPacket.eof ∉ sent.dropLast
  eofSent :
    StdinPacket.eof ∈ sent ↔ stdinEof = true ∧ buffer = []

/- What a client has of the stream. -/
def Client.Streams (client : Client) : Prop :=
  Ssh1.Streams client.sent client.stdinBuffer client.appended
    client.stdinEof

/- The invariant says that the stream is in order. -/
theorem Client.Streams.streamInOrder
    {client : Client}
    (hStreams : client.Streams) :
    StreamInOrder client where
  carried := hStreams.carried
  eofLast := hStreams.eofLast
  eofBehind := fun hSent => (hStreams.eofSent.mp hSent).2

/- The data of the next packet comes last. -/
theorem streamData_append
    (packets : List StdinPacket)
    (packet : StdinPacket) :
    streamData (packets ++ [packet]) =
      streamData packets ++ streamData [packet] := by
  rw [streamData, List.flatMap_append]
  rfl

variable {sent : List StdinPacket}
variable {buffer appended : List UInt8}
variable {stdinEof : Bool}

/- As long as no end of file was sent, packets may follow. -/
theorem eof_not_mem_dropLast_append
    (hNone : StdinPacket.eof ∉ sent)
    (packet : StdinPacket) :
    StdinPacket.eof ∉ (sent ++ [packet]).dropLast := by
  rw [List.dropLast_concat]
  exact hNone

namespace Streams

/- Nothing has been typed at first. -/
theorem start : Streams [] [] [] false where
  carried := rfl
  eofLast := List.not_mem_nil
  eofSent := by simp

/- Bytes may come as long as the stream is not at its end. -/
theorem append
    (hStreams : Streams sent buffer appended stdinEof)
    {bytes : List UInt8}
    (hOpen : stdinEof = true → buffer ≠ []) :
    Streams sent (bufferAppend buffer bytes)
      (appended ++ bytes) stdinEof where
  carried := by
    rw [← hStreams.carried, List.append_assoc]
    rfl
  eofLast := hStreams.eofLast
  eofSent := by
    constructor
    · intro hSent
      rcases hStreams.eofSent.mp hSent with ⟨hEof, hEmpty⟩
      exact absurd hEmpty (hOpen hEof)
    · rintro ⟨hEof, hEmpty⟩
      have hBuffer : buffer = [] :=
        (List.append_eq_nil_iff.mp hEmpty).1
      exact absurd hBuffer (hOpen hEof)

/- The end of file, where standard input is closed. -/
theorem closeEmpty
    (hStreams : Streams sent [] appended false) :
    Streams (sent ++ [.eof]) [] appended true where
  carried := by
    rw [streamData_append, ← hStreams.carried]
    simp [streamData]
  eofLast := by
    refine eof_not_mem_dropLast_append ?_ _
    intro hSent
    exact absurd (hStreams.eofSent.mp hSent).1 (by simp)
  eofSent := by simp

/- It has to wait for what is in the buffer. -/
theorem closeLater
    (hStreams : Streams sent buffer appended false)
    (hRest : buffer ≠ []) :
    Streams sent buffer appended true where
  carried := hStreams.carried
  eofLast := hStreams.eofLast
  eofSent := by
    constructor
    · intro hSent
      exact absurd (hStreams.eofSent.mp hSent).1 (by simp)
    · rintro ⟨_, hEmpty⟩
      exact absurd hEmpty hRest

theorem controlD
    (hStreams : Streams sent buffer appended false) :
    Streams (sent ++ [.controlD]) buffer appended false where
  carried := by
    rw [streamData_append, ← hStreams.carried]
    simp [streamData]
  eofLast := by
    refine eof_not_mem_dropLast_append ?_ _
    intro hSent
    exact absurd (hStreams.eofSent.mp hSent).1 (by simp)
  eofSent := by
    have hNone := hStreams.eofSent
    simpa using hNone

/- Where something is left, no end of file was sent. -/
theorem eof_not_mem
    (hStreams : Streams sent buffer appended stdinEof)
    (hRest : buffer ≠ []) :
    StdinPacket.eof ∉ sent := by
  intro hSent
  exact hRest (hStreams.eofSent.mp hSent).2

/- Some of the bytes, unless they are the last ones. -/
theorem data
    {bytes rest : List UInt8}
    (hStreams : Streams sent (bytes ++ rest) appended stdinEof)
    (hSome : bytes ++ rest ≠ [])
    (hMore : stdinEof = true → rest ≠ []) :
    Streams (sent ++ [.data bytes]) rest appended
      stdinEof where
  carried := by
    rw [streamData_append, List.append_assoc,
      ← hStreams.carried]
    simp [streamData]
  eofLast :=
    eof_not_mem_dropLast_append (hStreams.eof_not_mem hSome) _
  eofSent := by
    have hNone := hStreams.eof_not_mem hSome
    constructor
    · intro hSent
      simp [hNone] at hSent
    · rintro ⟨hEof, hEmpty⟩
      exact absurd hEmpty (hMore hEof)

/- The last bytes, and the end of file behind them. -/
theorem lastData
    {bytes : List UInt8}
    (hStreams : Streams sent bytes appended true)
    (hSome : bytes ≠ []) :
    Streams (sent ++ [.data bytes] ++ [.eof]) [] appended
      true := by
  have hNone := hStreams.eof_not_mem hSome
  have hOpen : Streams sent (bytes ++ []) appended false := by
    rw [List.append_nil]
    exact {
      carried := hStreams.carried
      eofLast := hStreams.eofLast
      eofSent := by simp [hNone] }
  exact (hOpen.data (by simpa using hSome) (by simp)).closeEmpty

end Streams

end Ssh1

------------------------------------------------------------
-- The Operations of the Client
------------------------------------------------------------

namespace Ssh1

variable {client : Client}

namespace Client.Streams

/- Characters are put into an open stream. -/
theorem append
    (hStreams : client.Streams)
    {bytes : List UInt8}
    (hOpen :
      client.stdinEof = true → client.stdinBuffer ≠ []) :
    (client.append bytes).Streams :=
  Ssh1.Streams.append hStreams hOpen

/- Standard input is closed, by its end or by `&`. -/
theorem close
    (hStreams : client.Streams)
    (hOpen : client.stdinEof = false) :
    ({ client with
        stdinEof := true }).sendEofIfEmpty.Streams := by
  unfold Client.Streams at hStreams
  rw [hOpen] at hStreams
  unfold Client.sendEofIfEmpty
  split
  · rename_i hEmpty
    have hBuffer : client.stdinBuffer = [] :=
      List.eq_nil_of_length_eq_zero hEmpty
    have hClosed := (hBuffer ▸ hStreams).closeEmpty
    show Ssh1.Streams _ client.stdinBuffer _ _
    rw [hBuffer]
    exact hClosed
  · rename_i hRest
    exact hStreams.closeLater fun hNil =>
      hRest (List.length_eq_zero_iff.mpr hNil)

theorem controlD
    (hStreams : client.Streams)
    (hOpen : client.stdinEof = false) :
    (client.send .controlD).Streams := by
  unfold Client.Streams at hStreams
  rw [hOpen] at hStreams
  show Ssh1.Streams _ _ _ client.stdinEof
  rw [hOpen]
  exact hStreams.controlD

/- What is freed with an empty buffer is not missed. -/
theorem suspendSelf
    (hStreams : client.Streams)
    (hEmpty : client.stdinBuffer = []) :
    client.suspendSelf.Streams := by
  unfold Client.Streams at hStreams
  rw [hEmpty] at hStreams
  exact hStreams

/- An action that spares the stream. -/
theorem carryOut
    (hStreams : client.Streams)
    (escapeChar : UInt8)
    (channelOpenMessage : List UInt8)
    {action : EscapeAction}
    (hSpares :
      action = .suspend → client.stdinBuffer = []) :
    (carryOut escapeChar channelOpenMessage client
      action).Streams := by
  have hPrinted :
      (Client.print { client with
          actions := client.actions ++ [action] }
        ((escapeText escapeChar action).getD [])).Streams :=
    hStreams
  have hBuffer :
      (Client.print { client with
          actions := client.actions ++ [action] }
        ((escapeText escapeChar action).getD
          [])).stdinBuffer = client.stdinBuffer :=
    rfl
  unfold Ssh1.carryOut
  simp only
  generalize Client.print _ _ = printed at hPrinted hBuffer ⊢
  cases action with
  | disconnect => exact hPrinted
  | suspend =>
      exact hPrinted.suspendSelf (hBuffer.trans (hSpares rfl))
  | background =>
      cases hEof : printed.stdinEof with
      | true =>
          simp only [if_true]
          exact hPrinted
      | false =>
          simp only [Bool.false_eq_true, if_false]
          exact (hPrinted.controlD hEof).close hEof
  | help => exact hPrinted
  | list => exact hPrinted

/- One packet, and the end of file if it is the last one. -/
theorem sendData
    (hStreams : client.Streams)
    (hRest : client.stdinBuffer ≠ [])
    (len : Nat) :
    (if client.stdinEof then
        Client.sendEofIfEmpty { client with
          sent := client.sent ++
            [.data (client.stdinBuffer.take len)]
          stdinBuffer := client.stdinBuffer.drop len }
      else
        { client with
          sent := client.sent ++
            [.data (client.stdinBuffer.take len)]
          stdinBuffer :=
            client.stdinBuffer.drop len }).Streams := by
  have hParts :=
    List.take_append_drop len client.stdinBuffer
  have hSome :
      client.stdinBuffer.take len ++
        client.stdinBuffer.drop len ≠ [] := by
    rw [hParts]
    exact hRest
  unfold Client.Streams at hStreams
  rw [← hParts] at hStreams
  cases hEof : client.stdinEof with
  | false =>
      rw [hEof] at hStreams
      rw [if_neg Bool.false_ne_true]
      exact hStreams.data hSome (fun hTrue => by cases hTrue)
  | true =>
      rw [hEof] at hStreams
      rw [if_pos rfl, Client.sendEofIfEmpty]
      split
      · rename_i hEnd
        have hDrop : client.stdinBuffer.drop len = [] :=
          List.eq_nil_of_length_eq_zero hEnd
        rw [hDrop, List.append_nil] at hStreams hSome
        rw [hDrop]
        exact hStreams.lastData hSome
      · rename_i hMore
        refine hStreams.data hSome ?_
        intro _ hNil
        exact hMore (List.length_eq_zero_iff.mpr hNil)

end Client.Streams

/- The packets that are made of the buffer. -/
theorem streams_clientMakePackets
    (room : Nat)
    (hStreams : client.Streams) :
    (clientMakePacketsFromStdinData room client).Streams := by
  induction room generalizing client with
  | zero => exact hStreams
  | succ room ih =>
      rw [clientMakePacketsFromStdinData]
      split
      · rename_i hSome
        have hRest : client.stdinBuffer ≠ [] :=
          List.length_pos_iff.mp hSome
        exact ih (hStreams.sendData hRest _)
      · exact hStreams

end Ssh1

------------------------------------------------------------
-- Characters and Reads
------------------------------------------------------------

namespace Ssh1

/-
  No suspension while something is in the buffer, and no
  byte for it behind the end of file.
-/
def SparesStream
    (escapeChar : UInt8)
    (loop : TypedLoop) : Prop :=
  loop.client.quitPending = false →
    if loop.client.escapePending then
      match escapeAction loop.current with
      | some action =>
          action = .suspend → loop.client.stdinBuffer = []
      | none =>
          loop.client.stdinEof = true →
            loop.client.stdinBuffer ≠ []
    else
      ¬ (loop.client.lastWasCr = true ∧
          loop.current = escapeChar) →
        loop.client.stdinEof = true →
          loop.client.stdinBuffer ≠ []

instance
    (escapeChar : UInt8)
    (loop : TypedLoop) :
    Decidable (SparesStream escapeChar loop) := by
  unfold SparesStream
  cases escapeAction loop.current with
  | none => infer_instance
  | some action => infer_instance

/- Each of the characters, when its turn comes. -/
def CharsSpare
    (escapeChar : UInt8)
    (channelOpenMessage : List UInt8) :
    (left : Nat) → TypedLoop → Prop
| 0, _ => True
| left + 1, loop =>
    SparesStream escapeChar loop ∧
      CharsSpare escapeChar channelOpenMessage left
        (processTypedChar escapeChar channelOpenMessage loop)

/- Each character of a read leaves the stream alone. -/
def ReadSpares
    (escapeChar : Option UInt8)
    (channelOpenMessage : List UInt8)
    (client : Client) :
    StdinRead → Prop
| .data chars =>
    match escapeChar with
    | some escapeChar =>
        CharsSpare escapeChar channelOpenMessage chars.length
          ⟨chars, 0, client⟩
    | none => True
| .eof => True
| .error _ => True

variable {escapeChar : UInt8}
variable {channelOpenMessage : List UInt8}

/- One character that spares the stream. -/
theorem streams_processTypedChar
    {loop : TypedLoop}
    (hStreams : loop.client.Streams)
    (hSpares : SparesStream escapeChar loop) :
    (processTypedChar escapeChar channelOpenMessage
      loop).client.Streams := by
  cases hQuit : loop.client.quitPending with
  | true =>
      rw [processTypedChar_quit hQuit]
      exact hStreams
  | false =>
      have hGuard := hSpares hQuit
      cases hPending : loop.client.escapePending with
      | true =>
          rw [processTypedChar_pending hQuit hPending]
          simp only [hPending, if_true] at hGuard
          cases hAction : escapeAction loop.current with
          | some action =>
              simp only [hAction] at hGuard
              rw [processEscapedChar_command hAction]
              have hCleared :
                  loop.client.clearPending.Streams :=
                hStreams
              exact hCleared.carryOut escapeChar
                channelOpenMessage hGuard
          | none =>
              simp only [hAction] at hGuard
              by_cases hTwice : loop.current = escapeChar
              · rw [hTwice] at hAction ⊢
                rw [processEscapedChar_twice hAction]
                exact hStreams.append hGuard
              · rw [processEscapedChar_unassigned hAction
                  hTwice]
                exact hStreams.append hGuard
      | false =>
          simp only [hPending, Bool.false_eq_true,
            if_false] at hGuard
          by_cases hEscape :
              loop.client.lastWasCr = true ∧
                loop.current = escapeChar
          · rw [processTypedChar_escape hQuit hPending hEscape]
            exact hStreams
          · rw [processTypedChar_normal hQuit hPending hEscape]
            exact hStreams.append (hGuard hEscape)

/- By induction on the characters of the read. -/
theorem streams_processTyped
    {left : Nat}
    {loop : TypedLoop}
    (hStreams : loop.client.Streams)
    (hSpare :
      CharsSpare escapeChar channelOpenMessage left loop) :
    (processTyped escapeChar channelOpenMessage left
      loop).client.Streams := by
  induction left generalizing loop with
  | zero => exact hStreams
  | succ left ih =>
      exact ih (streams_processTypedChar hStreams hSpare.1)
        hSpare.2

/- A read is made only before the end of standard input. -/
theorem streams_clientProcessStdin
    {escapeChar : Option UInt8}
    {client : Client}
    (hStreams : client.Streams)
    (hOpen : client.stdinEof = false)
    {read : StdinRead}
    (hSpares :
      ReadSpares escapeChar channelOpenMessage client read) :
    (clientProcessStdin escapeChar channelOpenMessage client
      read).Streams := by
  cases read with
  | eof => exact hStreams.close hOpen
  | error cause =>
      have hPrinted :
          (client.print (asciiBytes "read: " ++
            cause.take 100 ++ [13, 10])).Streams :=
        hStreams
      exact hPrinted.close hOpen
  | data chars =>
      cases escapeChar with
      | none =>
          refine hStreams.append ?_
          intro hEof
          rw [hOpen] at hEof
          cases hEof
      | some escapeChar =>
          exact streams_processTyped hStreams hSpares

end Ssh1

------------------------------------------------------------
-- Turns and Runs
------------------------------------------------------------

namespace Ssh1

variable {escapeChar : Option UInt8}
variable {channelOpenMessage : List UInt8}

/- The characters of the turn, where they are read. -/
def TurnSpares
    (escapeChar : Option UInt8)
    (channelOpenMessage : List UInt8)
    (client : Client)
    (turn : ClientTurn) : Prop :=
  let client := clientBeforeWait client turn
  match turn.stdin with
  | some read =>
      client.quitPending = false →
        turn.selectError = none →
        turn.connectionEnds = none →
        client.stdinEof = false →
          ReadSpares escapeChar channelOpenMessage client read
  | none => True

/- Each turn of the loop leaves the stream alone. -/
def RunSpares
    (escapeChar : Option UInt8)
    (channelOpenMessage : List UInt8) :
    Client → List ClientTurn → Prop
| _, [] => True
| client, turn :: turns =>
    TurnSpares escapeChar channelOpenMessage client turn ∧
      RunSpares escapeChar channelOpenMessage
        (clientTurn escapeChar channelOpenMessage client turn)
        turns

/- One turn of the loop. -/
theorem streams_clientTurn
    {client : Client}
    {turn : ClientTurn}
    (hStreams : client.Streams)
    (hSpares :
      TurnSpares escapeChar channelOpenMessage client turn) :
    (clientTurn escapeChar channelOpenMessage client
      turn).Streams := by
  have hHandled :
      Client.Streams { client with
        quitPending :=
          client.quitPending || turn.serverEnds } :=
    hStreams
  have hBefore : (clientBeforeWait client turn).Streams :=
    streams_clientMakePackets turn.room hHandled
  unfold TurnSpares at hSpares
  unfold clientTurn
  simp only at hSpares ⊢
  generalize clientBeforeWait client turn = waiting at *
  split
  · exact hStreams
  · split
    · exact hBefore
    · rename_i hQuit
      have hQuit : waiting.quitPending = false := by
        simpa using hQuit
      cases hSelect : turn.selectError with
      | some cause => exact hBefore
      | none =>
          have hInput :
              (clientProcessInput escapeChar
                channelOpenMessage waiting turn).Streams := by
            unfold clientProcessInput
            cases hConnection : turn.connectionEnds with
            | some text => exact hBefore
            | none =>
                cases hStdin : turn.stdin with
                | none => exact hBefore
                | some read =>
                    simp only [hStdin] at hSpares
                    cases hEof : waiting.stdinEof with
                    | true => exact hBefore
                    | false =>
                        exact streams_clientProcessStdin
                          hBefore hEof
                          (hSpares hQuit hSelect hConnection
                            hEof)
          show (clientProcessOutput _ turn).Streams
          unfold clientProcessOutput
          cases turn.outputFails with
          | none => exact hInput
          | some text => exact hInput

/- The initial read. -/
theorem streams_initial
    (escapeChar : Option UInt8)
    (initial : InitialRead) :
    (clientCheckInitialEofOnStdin escapeChar Client.start
      initial).Streams := by
  have hStart : Client.start.Streams := Streams.start
  cases initial with
  | stdinNull => exact hStart.close rfl
  | eof => exact hStart.close rfl
  | nothing => exact hStart
  | char ch =>
      rw [clientCheckInitialEofOnStdin]
      split
      · exact hStart
      · exact hStart.append (fun hEof => by cases hEof)

/-
  In every run that spares the stream, the stream is in order
  in every state that is reached.
-/
theorem clientRun_streamInOrder
    (escapeChar : Option UInt8)
    (channelOpenMessage : List UInt8)
    (initial : InitialRead)
    (turns : List ClientTurn)
    (hSpares :
      RunSpares escapeChar channelOpenMessage
        (clientCheckInitialEofOnStdin escapeChar Client.start
          initial) turns) :
    StreamInOrder
      (clientRun escapeChar channelOpenMessage initial
        turns) := by
  refine Client.Streams.streamInOrder ?_
  unfold clientRun
  have hStreams := streams_initial escapeChar initial
  generalize clientCheckInitialEofOnStdin escapeChar
    Client.start initial = client at *
  induction turns generalizing client with
  | nil => exact hStreams
  | cons turn turns ih =>
      exact ih _ hSpares.2
        (streams_clientTurn hStreams hSpares.1)

end Ssh1

------------------------------------------------------------
-- Single Runs
------------------------------------------------------------

namespace Ssh1

/- A turn that only reads these characters. -/
def readingTurn
    (room : Nat)
    (chars : List UInt8) : ClientTurn where
  serverEnds := false
  room := room
  selectError := none
  connectionEnds := none
  stdin := some (.data chars)
  outputFails := none

/- `~&` with input in front of it, which is sent later. -/
theorem clientRun_streamInOrder_background :
    StreamInOrder
        (clientRun (some 126) [] .nothing
          [readingTurn 0 [97, 13, 126, 38], readingTurn 1 []]) ∧
      (clientRun (some 126) [] .nothing
        [readingTurn 0 [97, 13, 126, 38],
          readingTurn 1 []]).sent =
        [.controlD, .data [97, 13], .eof] := by
  refine ⟨clientRun_streamInOrder (some 126) [] .nothing _ ?_,
    by decide +kernel⟩
  refine ⟨?_, ?_, trivial⟩
  · intro _ _ _ _
    refine ⟨?_, ?_, ?_, ?_, trivial⟩
    · decide +kernel
    · decide +kernel
    · decide +kernel
    · decide +kernel
  · intro _ _ _ _
    exact trivial

/-
  A character behind `~&` is sent behind the end of file, and
  a suspension loses what is in the buffer.
-/
theorem clientRun_not_streamInOrder :
    ¬ StreamInOrder
        (clientRun (some 126) [] .nothing
          [readingTurn 0 [126, 38, 120], readingTurn 1 []]) ∧
      ¬ StreamInOrder
        (clientRun (some 126) [] .nothing
          [readingTurn 0 [97, 13, 126, 26]]) := by
  constructor
  · intro hOrder
    exact hOrder.eofLast (by decide +kernel)
  · intro hOrder
    exact absurd hOrder.carried (by decide +kernel)

end Ssh1
