import Ssh1.Server.Discipline

/-
  The account of the bytes of a session.

  A ledger counts what was read, sent and written, and the
  packets of the turns say what the client has sent.

  Main declarations:
    * `Ledger`, `ledgerMonitor`
    * `acceptedInput`
    * `Balanced`
-/

------------------------------------------------------------
-- The Ledger
------------------------------------------------------------

namespace Ssh1

/- The string at the start of a payload, if there is one. -/
def payloadString (payload : Buffer) : List UInt8 :=
  match bufferGetString payload with
  | .ok (data, _) => data
  | .error _ => []

/- The string that is the payload of a packet. -/
def ServerPacket.string (packet : ServerPacket) : List UInt8 :=
  payloadString packet.payload

/- Bytes by the direction in which they went. -/
structure Ledger where
  -- read from an output, or added to it by the server
  fromProgram : OutputStream → List UInt8
  -- in the packets that carry the output
  toClient : OutputStream → List UInt8
  toProgram : List UInt8
  -- a write failed, or the input was closed at the exit
  inputEnds : Bool

namespace Ledger

/- Nothing has been counted. -/
def none : Ledger where
  fromProgram := fun _ => []
  toClient := fun _ => []
  toProgram := []
  inputEnds := false

/- More was read from an output. -/
def addOutput
    (k : Ledger)
    (stream : OutputStream)
    (data : List UInt8) : Ledger :=
  { k with
    fromProgram :=
      Function.update k.fromProgram stream
        (k.fromProgram stream ++ data) }

/- The output that a packet carries. -/
def addPacket
    (k : Ledger)
    (packet : ServerPacket) : Ledger :=
  { k with
    toClient := fun stream =>
      if packet.type = stream.dataType then
        k.toClient stream ++ packet.string
      else
        k.toClient stream }

/- What the ledger says after an event. -/
def next
    (k : Ledger) : ServerEvent → Ledger
| .read stream _ data => k.addOutput stream data
| .noted text => k.addOutput .stderr text
| .sent packet => k.addPacket packet
| .wrote _ data => { k with toProgram := k.toProgram ++ data }
| .writeFailed _ => { k with inputEnds := true }
| .closedAfterExit => { k with inputEnds := true }
| _ => k

end Ledger

/-
  Packets with output are of a size that can be sent, and
  the exit status comes after all output.
-/
def ledgerMonitor
    (conf : ChannelConf) : Monitor ServerEvent Ledger where
  allows k event :=
    ∀ packet, event = .sent packet →
      (∀ stream : OutputStream,
        packet.type = stream.dataType →
          9 + packet.payload.length < conf.maxPacketSize - 30) ∧
      (packet.type = sshSmsgExitstatus →
        k.toClient = k.fromProgram)
  next := Ledger.next

/- The text of a packet with data for the program. -/
def ClientPacket.stdinText (packet : ClientPacket) : List UInt8 :=
  if packet.type = sshCmsgStdinData then
    payloadString packet.payload
  else
    []

/- The text of all packets that are polled in a turn. -/
def stdinText : List Polled → List UInt8
| [] => []
| .ends _ :: _ => []
| .packet packet :: polled =>
    packet.stdinText ++ stdinText polled

/- The text counts where the input of the program is open. -/
def turnText
    (input : TurnInput)
    (state : LoopState) : List UInt8 :=
  if state.fdin.isSome then stdinText input.polled else []

/-
  What the packets of the client carry for the program, in
  the turns that the loop comes to.
-/
def acceptedInput
    (conf : ServerConf) :
    List TurnInput → LoopState → List UInt8
| [], _ => []
| input :: inputs, state =>
    turnText input state ++
      match (Serving.turn conf input state).result with
      | .ok (false, state') => acceptedInput conf inputs state'
      | _ => []

/-
  The buffers hold what is on its way. So much was received
  for the program.
-/
structure Balanced
    (received : List UInt8)
    (state : LoopState)
    (k : Ledger) : Prop where
  output : ∀ stream,
    k.fromProgram stream =
      k.toClient stream ++ state.buffer stream
  input : received = k.toProgram ++ state.stdinBuffer
  delivered :
    state.fdin = none → k.inputEnds = false →
      state.stdinBuffer = []

/- The end of the loop comes with empty buffers. -/
structure Drained
    (received : List UInt8)
    (state : LoopState)
    (k : Ledger) : Prop where
  balanced : Balanced received state k
  empty : ∀ stream, state.buffer stream = []

end Ssh1

------------------------------------------------------------
-- Silent Work
------------------------------------------------------------

namespace Ssh1

open Recorded

variable {conf : ChannelConf}
variable {received : List UInt8}

/- Nothing that the ledger counts. -/
def ServerEvent.IsSilent (event : ServerEvent) : Prop :=
  (∀ k : Ledger, k.next event = k) ∧
    ∀ conf k, (ledgerMonitor conf).allows k event

/- The bytes in the buffers stay, and so does the input. -/
structure SameBuffers
    (state : LoopState)
    (_ : List ServerEvent)
    (state' : LoopState) : Prop where
  output : ∀ stream,
    state'.buffer stream = state.buffer stream
  input : state'.stdinBuffer = state.stdinBuffer
  fdin : state'.fdin = state.fdin

/- A computation that moves no bytes. -/
abbrev Silent
    {α : Type}
    (m : Serving LoopState α) : Prop :=
  Kept ServerEvent.IsSilent SameBuffers m

/- A state with the same three buffers. -/
theorem sameBuffers_of_eq
    {state state' : LoopState}
    {events : List ServerEvent}
    (hStdout : state'.stdoutBuffer = state.stdoutBuffer)
    (hStderr : state'.stderrBuffer = state.stderrBuffer)
    (hStdin : state'.stdinBuffer = state.stdinBuffer)
    (hFdin : state'.fdin = state.fdin) :
    SameBuffers state events state' := by
  refine ⟨fun stream => ?_, hStdin, hFdin⟩
  cases stream with
  | stdout => exact hStdout
  | stderr => exact hStderr

/- What two steps keep, they keep together. -/
theorem sameBuffers_composes : Composes SameBuffers where
  refl _ := sameBuffers_of_eq rfl rfl rfl rfl
  trans hFirst hSecond :=
    ⟨fun stream =>
      (hSecond.output stream).trans (hFirst.output stream),
      hSecond.input.trans hFirst.input,
      hSecond.fdin.trans hFirst.fdin⟩

/- A packet without output counts nothing. -/
theorem addPacket_of_other
    {packet : ServerPacket}
    (hOther : ∀ stream : OutputStream,
      packet.type ≠ stream.dataType)
    (k : Ledger) :
    k.addPacket packet = k := by
  have hToClient :
      (fun stream : OutputStream =>
        if packet.type = stream.dataType then
          k.toClient stream ++ packet.string
        else
          k.toClient stream) =
        k.toClient := by
    funext stream
    exact if_neg (hOther stream)
  rw [Ledger.addPacket, hToClient]

/- A packet of another type brings no output. -/
theorem ServerPacket.IsOther.silent
    {packet : ServerPacket}
    (hOther : packet.IsOther) :
    (ServerEvent.sent packet).IsSilent := by
  refine ⟨addPacket_of_other hOther.notData, ?_⟩
  intro conf k packet' hSame
  injection hSame with hSame
  subst hSame
  exact ⟨fun stream hType => (hOther.notData stream hType).elim,
    fun hType => (hOther.notStatus hType).elim⟩

/- The calls for descriptors count nothing by themselves. -/
theorem isSilent_of_next
    {event : ServerEvent}
    (hNext : ∀ k : Ledger, k.next event = k)
    (hNotSent : ∀ packet, event ≠ .sent packet) :
    event.IsSilent :=
  ⟨hNext, fun _ _ packet hSent =>
    (hNotSent packet hSent).elim⟩

/- All that is shared with the other relations. -/
theorem silent_indifferent :
    Indifferent ServerEvent.IsSilent SameBuffers where
  composes := sameBuffers_composes
  sent _ hOther :=
    ⟨hOther.silent, fun _ => sameBuffers_of_eq rfl rfl rfl rfl⟩
  reachedOut _ _ :=
    ⟨isSilent_of_next (fun _ => rfl) nofun,
      fun _ => sameBuffers_of_eq rfl rfl rfl rfl⟩
  table _ _ := sameBuffers_of_eq rfl rfl rfl rfl
  exits _ := sameBuffers_of_eq rfl rfl rfl rfl

/- What keeps the buffers keeps the balance. -/
theorem Balanced.same
    {state state' : LoopState}
    {events : List ServerEvent}
    {k : Ledger}
    (hBalanced : Balanced received state k)
    (hSame : SameBuffers state events state') :
    Balanced received state' k := by
  constructor
  · intro stream
    rw [hSame.output]
    exact hBalanced.output stream
  · rw [hSame.input]
    exact hBalanced.input
  · rw [hSame.fdin, hSame.input]
    exact hBalanced.delivered

/- A silent piece keeps what goes by the buffers. -/
theorem Silent.watched
    {α : Type}
    {P : LoopState → Ledger → Prop}
    {m : Serving LoopState α}
    (hSilent : Silent m)
    (hKeeps : ∀ state events state' k,
      P state k → SameBuffers state events state' →
        P state' k) :
    Watched (ledgerMonitor conf) P m fun _ => P :=
  Watched.of_always
    (fun k _ hEvent => ⟨hEvent.2 conf k, hEvent.1 k⟩)
    hSilent.always hSilent.leads hKeeps

/- Work that moves no bytes keeps the balance. -/
theorem Silent.balanced
    {α : Type}
    {m : Serving LoopState α}
    (hSilent : Silent m) :
    Watched (ledgerMonitor conf) (Balanced received) m
      fun _ => Balanced received :=
  hSilent.watched fun _ _ _ _ hBalanced hSame =>
    hBalanced.same hSame

end Ssh1

------------------------------------------------------------
-- Output
------------------------------------------------------------

namespace Ssh1

open Recorded

variable {conf : ChannelConf}
variable {received : List UInt8}

/- An output packet is of a size that can be sent. -/
theorem outputSize_fits
    (hSize : 4096 ≤ conf.maxPacketSize)
    (len : Nat) :
    13 + outputSize conf len < conf.maxPacketSize - 30 ∧
      outputSize conf len ≤ 32768 := by
  unfold outputSize
  split
  · omega
  · omega

/- No more is sent than there is. -/
theorem outputSize_le
    (len : Nat) :
    outputSize conf len ≤ len := by
  unfold outputSize
  split
  · omega
  · omega

/- The two streams have packets of their own. -/
theorem dataType_inj
    {stream stream' : OutputStream}
    (hSame : stream.dataType = stream'.dataType) :
    stream = stream' := by
  revert hSame
  cases stream <;> cases stream' <;> decide

/- The packet with a string for the client. -/
def outputPacket
    (stream : OutputStream)
    (data : List UInt8) : ServerPacket where
  type := stream.dataType
  payload := bufferPutString [] data

/- The length in front takes four bytes. -/
theorem length_outputPacket
    (stream : OutputStream)
    (data : List UInt8) :
    (outputPacket stream data).payload.length =
      4 + data.length := by
  change (bufferPutString [] data).length = _
  simp [bufferPutString, bufferPutInt, bufferAppend]

/- The client reads the data as it was. -/
theorem string_outputPacket
    (stream : OutputStream)
    {data : List UInt8}
    (hLength : data.length ≤ 32768) :
    (outputPacket stream data).string = data := by
  have hShort : data.length ≤ maxStringLength := by
    unfold maxStringLength
    omega
  have hGet :=
    bufferGetString_bufferPutString_append hShort []
  rw [List.append_nil] at hGet
  change payloadString (bufferPutString [] data) = data
  rw [payloadString, hGet]

/- What is left after a packet was sent. -/
theorem addPacket_output
    (k : Ledger)
    (stream : OutputStream)
    {data : List UInt8}
    (hLength : data.length ≤ 32768) :
    k.addPacket (outputPacket stream data) =
      { k with
        toClient :=
          Function.update k.toClient stream
            (k.toClient stream ++ data) } := by
  have hToClient :
      (fun stream' : OutputStream =>
        if stream.dataType = stream'.dataType then
          k.toClient stream' ++
            (outputPacket stream data).string
        else
          k.toClient stream') =
        Function.update k.toClient stream
          (k.toClient stream ++ data) := by
    funext stream'
    rw [string_outputPacket stream hLength]
    by_cases hSame : stream' = stream
    · subst hSame
      rw [if_pos rfl, Function.update_self]
    · rw [if_neg fun hType => hSame (dataType_inj hType).symm,
        Function.update_of_ne hSame]
  unfold Ledger.addPacket
  change { k with toClient := _ } = _
  rw [← hToClient]
  rfl

/- The other stream keeps its buffer. -/
theorem buffer_setBuffer
    (stream stream' : OutputStream)
    (buffer : Buffer)
    (state : LoopState) :
    (state.setBuffer stream buffer).buffer stream' =
      if stream' = stream then buffer
      else state.buffer stream' := by
  cases stream <;> cases stream' <;> rfl

/- Only a buffer of the output changes. -/
theorem stdinBuffer_setBuffer
    (stream : OutputStream)
    (buffer : Buffer)
    (state : LoopState) :
    (state.setBuffer stream buffer).stdinBuffer =
        state.stdinBuffer ∧
      (state.setBuffer stream buffer).fdin = state.fdin := by
  cases stream <;> exact ⟨rfl, rfl⟩

/- Bytes go from the buffer into a packet. -/
theorem Balanced.send
    {state : LoopState}
    {k : Ledger}
    (hBalanced : Balanced received state k)
    (stream : OutputStream)
    (len : Nat)
    (hLength :
      ((state.buffer stream).take len).length ≤ 32768) :
    Balanced received
      (state.setBuffer stream ((state.buffer stream).drop len))
      (k.addPacket
        (outputPacket stream
          ((state.buffer stream).take len))) := by
  rw [addPacket_output k stream hLength]
  have hKept :=
    stdinBuffer_setBuffer stream
      ((state.buffer stream).drop len) state
  constructor
  · intro stream'
    rw [buffer_setBuffer]
    by_cases hSame : stream' = stream
    · subst hSame
      rw [if_pos rfl]
      change k.fromProgram stream' =
        Function.update k.toClient stream' _ stream' ++ _
      rw [Function.update_self, List.append_assoc,
        List.take_append_drop]
      exact hBalanced.output stream'
    · rw [if_neg hSame]
      change k.fromProgram stream' =
        Function.update k.toClient stream _ stream' ++ _
      rw [Function.update_of_ne hSame]
      exact hBalanced.output stream'
  · rw [hKept.1]
    exact hBalanced.input
  · rw [hKept.1, hKept.2]
    exact hBalanced.delivered

/- Bytes that were read go into the buffer. -/
theorem Balanced.receive
    {state : LoopState}
    {k : Ledger}
    (hBalanced : Balanced received state k)
    (stream : OutputStream)
    (data : List UInt8) :
    Balanced received
      (state.setBuffer stream (state.buffer stream ++ data))
      (k.addOutput stream data) := by
  have hKept :=
    stdinBuffer_setBuffer stream
      (state.buffer stream ++ data) state
  constructor
  · intro stream'
    rw [buffer_setBuffer]
    change Function.update k.fromProgram stream _ stream' =
      k.toClient stream' ++ _
    by_cases hSame : stream' = stream
    · subst hSame
      rw [if_pos rfl, Function.update_self, ← List.append_assoc,
        ← hBalanced.output stream']
    · rw [if_neg hSame, Function.update_of_ne hSame]
      exact hBalanced.output stream'
  · rw [hKept.1]
    exact hBalanced.input
  · rw [hKept.1, hKept.2]
    exact hBalanced.delivered

end Ssh1

------------------------------------------------------------
-- The Client
------------------------------------------------------------

namespace Ssh1

open Recorded

variable {conf : ChannelConf}
variable {received : List UInt8}

namespace Serving

/- Only packets have to be of some size, or late. -/
theorem allows_of_notSent
    {event : ServerEvent}
    (hNotSent : ∀ packet, event ≠ .sent packet)
    (k : Ledger) :
    (ledgerMonitor conf).allows k event :=
  fun packet hSent => (hNotSent packet hSent).elim

/- A change of the state that keeps the buffers. -/
theorem silent_modify
    {f : LoopState → LoopState}
    (hSame : ∀ state, SameBuffers state [] (f state)) :
    Silent (Recorded.modify f) :=
  Kept.modify hSame

/- An event that the ledger does not count. -/
theorem silent_record
    {event : ServerEvent}
    (hNext : ∀ k : Ledger, k.next event = k)
    (hNotSent : ∀ packet, event ≠ .sent packet) :
    Silent (Recorded.record event) :=
  Kept.record (isSilent_of_next hNext hNotSent)
    fun _ => sameBuffers_of_eq rfl rfl rfl rfl

/- The channel table is no part of the ledger. -/
theorem silent_changeTable
    (f : ChannelTable → Outcome ChannelTable) :
    Silent (changeTable f) :=
  silent_indifferent.changeTable f

theorem silent_ofOutcome
    {α : Type}
    (x : Outcome α) :
    Silent (ofOutcome x) :=
  silent_indifferent.ofOutcome x

theorem silent_sigchldHandler
    (arrives : Bool) :
    Silent (sigchldHandler arrives) :=
  silent_indifferent.sigchldHandler arrives

/- Where the process ends there is nothing after it. -/
theorem watched_haltWith
    {α : Type}
    {P : LoopState → Ledger → Prop}
    {Q : α → LoopState → Ledger → Prop}
    (halt : Halt) :
    Watched (ledgerMonitor conf) P
      (haltWith halt : Serving LoopState α) Q := by
  cases halt with
  | disconnect message =>
      have hSent :
          Silent (packetSend (disconnectPacket message)) :=
        silent_indifferent.packetSend
          (disconnectPacket_isOther message)
      exact ((Silent.watched hSent
        (P := fun _ _ => True)
        fun _ _ _ _ _ _ => trivial).bind
          fun _ => Watched.stop _).mono
            (fun _ _ _ => trivial) fun _ _ _ hPost => hPost
  | fatal message => exact Watched.stop _
  | exit message => exact Watched.stop _
  | assertion => exact Watched.stop _
  | outOfBounds => exact Watched.stop _
  | diverges => exact Watched.stop _

/- Work that moves no bytes receives nothing. -/
theorem Silent.receives_nothing
    {α : Type}
    {m : Serving LoopState α}
    (hSilent : Silent m)
    (fdin : Option Nat) :
    Watched (ledgerMonitor conf)
      (fun state k =>
        state.fdin = fdin ∧ Balanced received state k)
      m fun _ state k =>
        state.fdin = fdin ∧ Balanced received state k :=
  Silent.watched hSilent fun _ _ _ _ hPre hSame =>
    ⟨hSame.fdin.trans hPre.1, hPre.2.same hSame⟩

/- What the client sends for the program. -/
theorem balanced_stdinData
    (payload : Buffer)
    (fdin : Option Nat) :
    Watched (ledgerMonitor conf)
      (fun state k =>
        state.fdin = fdin ∧ Balanced received state k)
      (stdinData payload) fun _ state k =>
        state.fdin = fdin ∧
          Balanced
            (received ++
              if fdin.isSome then payloadString payload else [])
            state k := by
  refine Watched.get_bind fun read => ?_
  cases hFdin : read.fdin with
  | none =>
      refine Watched.pure ?_
      rintro state k ⟨rfl, rfl, hBalanced⟩
      refine ⟨rfl, ?_⟩
      rw [hFdin, Option.isSome_none, if_neg Bool.false_ne_true,
        List.append_nil]
      exact hBalanced
  | some fd =>
      cases hString : bufferGetString payload with
      | error halt =>
          exact (watched_haltWith
            (Q := fun _ _ _ => False) halt).bind
              fun _ _ _ hNever => hNever.elim
      | ok given =>
          simp only [ofOutcome, return_bind]
          refine Watched.modify ?_
          rintro state k ⟨rfl, rfl, hBalanced⟩
          refine ⟨rfl, hBalanced.output, ?_, fun hNone => ?_⟩
          · change received ++ _ =
              k.toProgram ++ (state.stdinBuffer ++ given.1)
            rw [hFdin, Option.isSome_some, if_pos rfl,
              payloadString, hString, hBalanced.input,
              List.append_assoc]
          · cases hFdin.symm.trans hNone

/- A packet of input is put into the buffer and counted. -/
theorem balanced_processPacket
    (server : ServerConf)
    (packet : ClientPacket)
    (fdin : Option Nat) :
    Watched (ledgerMonitor conf)
      (fun state k =>
        state.fdin = fdin ∧ Balanced received state k)
      (processPacket server packet) fun _ state k =>
        state.fdin = fdin ∧
          Balanced
            (received ++
              if fdin.isSome then packet.stdinText else [])
            state k := by
  by_cases hType : packet.type = sshCmsgStdinData
  · rw [processPacket, if_pos hType, ClientPacket.stdinText,
      if_pos hType]
    exact balanced_stdinData packet.payload fdin
  · have hSilent : Silent (processPacket server packet) := by
      rw [processPacket, if_neg hType]
      split
      · refine silent_modify ?_
        exact fun _ => sameBuffers_of_eq rfl rfl rfl rfl
      split
      · exact silent_indifferent.windowSize _
      split
      · split
        · exact silent_indifferent.denyPortOpen _
        · exact silent_indifferent.portOpen _ _
      split
      · exact silent_indifferent.channelMessage _ _
      · exact silent_indifferent.packetDisconnect _
    rw [ClientPacket.stdinText, if_neg hType, ite_self,
      List.append_nil]
    exact Silent.receives_nothing hSilent fdin

/- The packets that are polled, while the input is the same. -/
theorem balanced_processBufferedInputPackets
    (server : ServerConf)
    (polled : List Polled)
    (fdin : Option Nat) :
    Watched (ledgerMonitor conf)
      (fun state k =>
        state.fdin = fdin ∧ Balanced received state k)
      (processBufferedInputPackets server polled)
      fun _ state k =>
        Balanced
          (received ++
            if fdin.isSome then stdinText polled else [])
          state k := by
  induction polled generalizing received with
  | nil =>
      refine Watched.pure fun state k hPre => ?_
      rw [stdinText, ite_self, List.append_nil]
      exact hPre.2
  | cons poll polled ih =>
      cases poll with
      | ends halt =>
          exact watched_haltWith halt
      | packet packet =>
          have hText :
              received ++
                  (if fdin.isSome then
                    stdinText (.packet packet :: polled)
                  else
                    []) =
                received ++
                    (if fdin.isSome then packet.stdinText
                    else []) ++
                  if fdin.isSome then stdinText polled
                  else [] := by
            split
            · rw [stdinText, List.append_assoc]
            · simp only [List.append_nil]
          rw [hText]
          exact (balanced_processPacket server packet fdin).bind
            fun _ => ih

/- The input is closed once all of it was written. -/
theorem balanced_closeStdin
    (fd : Nat) :
    Watched (ledgerMonitor conf)
      (fun state k =>
        Balanced received state k ∧
          (k.inputEnds = false → state.stdinBuffer = []))
      (closeStdin fd) fun _ => Balanced received := by
  have hDrop (event : ServerEvent)
      (hNext : ∀ k : Ledger, k.next event = k)
      (hNotSent : ∀ packet, event ≠ .sent packet) :
      Watched (ledgerMonitor conf)
        (fun state k =>
          Balanced received state k ∧
            (k.inputEnds = false → state.stdinBuffer = []))
        (do
          Recorded.record event
          Recorded.modify fun state =>
            { state with fdin := none } :
          Serving LoopState Unit)
        fun _ => Balanced received := by
    refine Watched.record_modify
      (fun state k hPre => allows_of_notSent hNotSent k) ?_
    intro state k hPre
    change Balanced received _ (k.next event)
    rw [hNext]
    exact ⟨hPre.1.output, hPre.1.input, fun _ => hPre.2⟩
  refine Watched.get_bind fun read => ?_
  simp only []
  split
  · exact (hDrop (.shutDown fd) (fun _ => rfl) nofun).mono
      (fun state k hPre => hPre.2) fun _ _ _ hPost => hPost
  · exact (hDrop (.closed fd) (fun _ => rfl) nofun).mono
      (fun state k hPre => hPre.2) fun _ _ _ hPost => hPost

/- The input is closed when its buffer is empty. -/
theorem balanced_closeStdinAtEof :
    Watched (ledgerMonitor conf) (Balanced received) closeStdinAtEof
      fun _ => Balanced received := by
  refine Watched.get_bind fun read => ?_
  cases read.fdin with
  | none => exact Watched.pure fun state k hPre => hPre.2
  | some fd =>
      simp only []
      split
      · rename_i hEnds
        refine (balanced_closeStdin fd).mono ?_
          fun _ _ _ hPost => hPost
        rintro state k ⟨rfl, hBalanced⟩
        exact ⟨hBalanced, fun _ =>
          List.eq_nil_of_length_eq_zero hEnds.2⟩
      · exact Watched.pure fun state k hPre => hPre.2

end Serving

end Ssh1

------------------------------------------------------------
-- Packets
------------------------------------------------------------

namespace Ssh1

open Recorded

variable {conf : ChannelConf}
variable {received : List UInt8}

namespace Serving

/- Output packets are never too big. -/
theorem sendData_eq
    (hSize : 4096 ≤ conf.maxPacketSize)
    (stream : OutputStream)
    (buffer : Buffer) :
    sendData conf stream.dataType
        (buffer.take (outputSize conf buffer.length)) =
      packetSend
        (outputPacket stream
          (buffer.take (outputSize conf buffer.length))) := by
  have hLength :=
    length_outputPacket stream
      (buffer.take (outputSize conf buffer.length))
  have hTake :=
    List.length_take_le (outputSize conf buffer.length) buffer
  have hFits := outputSize_fits hSize buffer.length
  unfold sendData
  refine if_neg ?_
  change ¬ 9 + (outputPacket stream _).payload.length ≥ _
  omega

/- An output packet may be sent. -/
theorem allows_outputPacket
    (hSize : 4096 ≤ conf.maxPacketSize)
    (stream : OutputStream)
    (buffer : Buffer)
    (k : Ledger) :
    (ledgerMonitor conf).allows k
      (.sent
        (outputPacket stream
          (buffer.take (outputSize conf buffer.length)))) := by
  intro packet hSent
  injection hSent with hSent
  subst hSent
  have hLength :=
    length_outputPacket stream
      (buffer.take (outputSize conf buffer.length))
  have hTake :=
    List.length_take_le (outputSize conf buffer.length) buffer
  have hFits := outputSize_fits hSize buffer.length
  refine ⟨fun _ _ => by omega, fun hStatus => ?_⟩
  cases stream with
  | stdout => cases hStatus
  | stderr => cases hStatus

/- The start of the buffer as a packet. -/
def sendStart
    (conf : ChannelConf)
    (stream : OutputStream)
    (buffer : Buffer) : Serving LoopState Unit := do
  let len := outputSize conf buffer.length
  record (.sent (outputPacket stream (buffer.take len)))
  modify (LoopState.setBuffer stream (buffer.drop len))

/- What a turn of the inner loop comes down to. -/
theorem makePackets_succ
    (hSize : 4096 ≤ conf.maxPacketSize)
    (stream : OutputStream)
    (room : Nat)
    (state : LoopState)
    (hSome : (state.buffer stream).length > 0) :
    makePackets conf stream (room + 1) state =
      (do
        sendStart conf stream (state.buffer stream)
        makePackets conf stream room) state := by
  have hConsume :
      bufferConsume (state.buffer stream)
          (outputSize conf (state.buffer stream).length) =
        .ok ((state.buffer stream).drop
          (outputSize conf (state.buffer stream).length)) :=
    bufferConsume_of_le (outputSize_le _)
  rw [makePackets, bind_apply, get_apply, andThen_ok]
  simp only [hSome, if_true, sendData_eq hSize stream, hConsume,
    ofOutcome, return_bind, packetSend, List.nil_append,
    sendStart, bind_bind]

/- With nothing in the buffer nothing is sent. -/
theorem makePackets_empty
    (stream : OutputStream)
    (room : Nat)
    (state : LoopState)
    (hNone : ¬ (state.buffer stream).length > 0) :
    makePackets conf stream room state =
      ⟨[], .ok ((), state)⟩ := by
  cases room with
  | zero => rfl
  | succ room =>
      rw [makePackets, bind_apply, get_apply, andThen_ok]
      simp only [hNone, if_false]
      rfl

/- The start of the buffer goes out as one packet. -/
theorem balanced_sendStart
    (hSize : 4096 ≤ conf.maxPacketSize)
    (stream : OutputStream)
    (read : LoopState) :
    Watched (ledgerMonitor conf)
      (fun state k => state = read ∧ Balanced received state k)
      (sendStart conf stream (read.buffer stream))
      fun _ => Balanced received := by
  refine Watched.record_modify
    (fun _ k _ => allows_outputPacket hSize stream _ k) ?_
  rintro state k ⟨rfl, hBalanced⟩
  refine hBalanced.send stream _ ?_
  have hFits :=
    (outputSize_fits hSize (state.buffer stream).length).2
  rw [List.length_take]
  omega

/- By induction on the room for packets. -/
theorem balanced_makePackets
    (hSize : 4096 ≤ conf.maxPacketSize)
    (stream : OutputStream)
    (room : Nat) :
    Watched (ledgerMonitor conf) (Balanced received)
      (makePackets conf stream room) fun _ => Balanced received := by
  induction room with
  | zero => exact Watched.pure fun state k hPre => hPre
  | succ room ih =>
      intro state k hBalanced
      by_cases hSome : (state.buffer stream).length > 0
      · rw [makePackets_succ hSize stream room state hSome]
        exact ((balanced_sendStart hSize stream state).bind
          fun _ => ih) state k ⟨rfl, hBalanced⟩
      · rw [makePackets_empty stream _ state hSome]
        refine ⟨trivial, fun _ _ hResult => ?_⟩
        cases hResult
        exact hBalanced

/- It never ends the process. -/
theorem makePackets_ok
    (hSize : 4096 ≤ conf.maxPacketSize)
    (stream : OutputStream)
    (room : Nat)
    (state : LoopState) :
    ∃ state',
      (makePackets conf stream room state).result =
        .ok ((), state') := by
  induction room generalizing state with
  | zero => exact ⟨state, rfl⟩
  | succ room ih =>
      by_cases hSome : (state.buffer stream).length > 0
      · rw [makePackets_succ hSize stream room state hSome]
        exact ih _
      · rw [makePackets_empty stream _ state hSome]
        exact ⟨state, rfl⟩

/- Both streams, one after the other. -/
theorem balanced_makePacketsFromStdoutData
    (hSize : 4096 ≤ conf.maxPacketSize)
    (room : Nat) :
    Watched (ledgerMonitor conf) (Balanced received)
      (makePacketsFromStdoutData conf room)
      fun _ => Balanced received := by
  have hPrevious :
      Watched (ledgerMonitor conf) (Balanced received)
        (Recorded.modify fun state =>
            { state with
              previousStdoutBufferBytes :=
                state.stdoutBuffer.length } :
          Serving LoopState Unit)
        fun _ => Balanced received := by
    refine Silent.balanced (silent_modify ?_)
    exact fun _ => sameBuffers_of_eq rfl rfl rfl rfl
  refine Watched.get_bind fun read => ?_
  simp only []
  split
  · exact hPrevious.mono (fun _ _ hPre => hPre.2)
      fun _ _ _ hPost => hPost
  · exact ((balanced_makePackets hSize .stdout room).mono
      (fun _ _ hPre => hPre.2)
      fun _ _ _ hPost => hPost).bind fun _ => hPrevious

/- The note on the waiting is no output of the program. -/
theorem balanced_noteWaiting
    (openMessage : List UInt8) :
    Watched (ledgerMonitor conf) (Balanced received)
      (noteWaiting openMessage) fun _ => Balanced received := by
  refine Watched.record_modify
    (fun _ k _ =>
      allows_of_notSent (fun _ hSent => by cases hSent) k) ?_
  intro state k hBalanced
  have hReceived :=
    hBalanced.receive .stderr (waitingMessage ++ openMessage)
  refine @Balanced.same _ _ _ [] _ hReceived ?_
  exact sameBuffers_of_eq rfl
    (List.append_assoc _ _ _) rfl rfl

/- The loop ends with the output buffers empty. -/
theorem balanced_bailOut
    (input : TurnInput) :
    Watched (ledgerMonitor conf) (Balanced received) (bailOut input)
      fun quits state k =>
        Balanced received state k ∧
          (quits = true → Drained received state k) := by
  have hGoesOn :
      Watched (ledgerMonitor conf) (Balanced received)
        (pure false : Serving LoopState Bool)
        fun quits state k =>
          Balanced received state k ∧
            (quits = true → Drained received state k) :=
    Watched.pure fun state k hPre => ⟨hPre, nofun⟩
  refine Watched.get_bind fun read => ?_
  split
  · rename_i hEnds
    split
    · refine Watched.pure ?_
      rintro state k ⟨rfl, hBalanced⟩
      refine ⟨hBalanced, fun _ => ⟨hBalanced, fun stream => ?_⟩⟩
      cases stream with
      | stdout =>
          exact List.eq_nil_of_length_eq_zero hEnds.2.2.2.1
      | stderr =>
          exact List.eq_nil_of_length_eq_zero hEnds.2.2.2.2
    · split
      · exact ((balanced_noteWaiting input.openMessage).mono
          (fun _ _ hPre => hPre.2)
          fun _ _ _ hPost => hPost).bind fun _ => hGoesOn
      · exact hGoesOn.mono (fun _ _ hPre => hPre.2)
          fun _ _ _ hPost => hPost
  · exact hGoesOn.mono (fun _ _ hPre => hPre.2)
      fun _ _ _ hPost => hPost

end Serving

end Ssh1
