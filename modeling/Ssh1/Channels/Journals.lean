import Ssh1.Channels.Handshake
import Ssh1.Lib.Pipeline

/-
  The data of the channels of two parties.

  A journal notes what has been read and written for a
  channel; the histories of the parties hold what has been
  sent and received. The two buffers of a channel and the
  link between them are pipes in series.

  Main declarations:
    * `sentData`, `receivedData`
    * `Network.Fifo`
    * `Journal`, `Network.observe`
    * `Endpoint.Streams`
-/

------------------------------------------------------------
-- Data in Histories
------------------------------------------------------------

namespace Ssh1

/- The data that a message carries. -/
def dataIn : ChannelMessage → List UInt8
| .data _ body => bodyData body
| _ => []

/- The data that an entry says was sent on a channel. -/
def HistoryEntry.sentOn
    (label : Label) : HistoryEntry → List UInt8
| .sent l m => if l = some label then dataIn m else []
| _ => []

/- The data that an entry brings for a channel. -/
def HistoryEntry.receivedOn
    (label : Label) : HistoryEntry → List UInt8
| .received l m => if l = some label then dataIn m else []
| _ => []

/- All the data that a party has sent on a channel. -/
def sentData
    (label : Label)
    (history : List HistoryEntry) : List UInt8 :=
  history.flatMap (HistoryEntry.sentOn label)

/- All the data that has come for a channel. -/
def receivedData
    (label : Label)
    (history : List HistoryEntry) : List UInt8 :=
  history.flatMap (HistoryEntry.receivedOn label)

variable {label l : Label}

/- What was sent in both histories. -/
@[simp] theorem sentData_append
    (history entries : List HistoryEntry) :
    sentData label (history ++ entries) =
      sentData label history ++ sentData label entries :=
  List.flatMap_append

/- What was received in both histories. -/
@[simp] theorem receivedData_append
    (history entries : List HistoryEntry) :
    receivedData label (history ++ entries) =
      receivedData label history ++
        receivedData label entries :=
  List.flatMap_append

/- What is put on the record about a slot. -/
theorem sentData_slotEntries_self
    (free : Bool)
    (es : List ChannelEffect) :
    sentData label (slotEntries (some label) free es) =
      (sentMessages es).flatMap dataIn := by
  unfold slotEntries
  rw [sentData_append]
  have hFreed :
      sentData label
          (if free then [.freed (some label)] else []) =
        [] := by
    cases free <;> rfl
  rw [hFreed, List.append_nil]
  unfold sentData
  rw [List.flatMap_map]
  congr 1
  funext m
  simp [HistoryEntry.sentOn]

/- Another channel has sent nothing for this one. -/
theorem sentData_slotEntries_ne
    {entered : Option Label}
    (hl : entered ≠ some l)
    (free : Bool)
    (es : List ChannelEffect) :
    sentData l (slotEntries entered free es) = [] := by
  unfold slotEntries
  rw [sentData_append]
  have hFreed :
      sentData l (if free then [.freed entered] else []) =
        [] := by
    cases free <;> rfl
  rw [hFreed, List.append_nil]
  unfold sentData
  rw [List.flatMap_map]
  simp [HistoryEntry.sentOn, hl]

/- Nothing is received while a slot is changed. -/
theorem receivedData_slotEntries
    (entered : Option Label)
    (free : Bool)
    (es : List ChannelEffect) :
    receivedData l (slotEntries entered free es) = [] := by
  unfold slotEntries
  rw [receivedData_append]
  have hFreed :
      receivedData l (if free then [.freed entered] else []) =
        [] := by
    cases free <;> rfl
  rw [hFreed, List.append_nil]
  unfold receivedData
  rw [List.flatMap_map]
  simp [HistoryEntry.receivedOn]

/- A packet gives back the data that was put into it. -/
theorem dataIn_data
    {bytes : List UInt8}
    (hLength : bytes.length ≤ maxStringLength)
    (channel : Int) :
    dataIn (.data channel (bufferPutString [] bytes)) =
      bytes := by
  have hGet :=
    bufferGetString_bufferPutString_append hLength []
  rw [List.append_nil] at hGet
  simp only [dataIn, bodyData, hGet]

end Ssh1

------------------------------------------------------------
-- Links Keep the Order
------------------------------------------------------------

namespace Ssh1

/- The data of some envelopes that is about a channel. -/
def Envelope.dataOn
    (label : Label)
    (envelope : Envelope) : List UInt8 :=
  if envelope.label = some label then
    dataIn envelope.message
  else
    []

/- The data about a channel on its way to a party. -/
def Network.flying
    (net : Network)
    (p : Party)
    (label : Label) : List UInt8 :=
  (net.link p).flatMap (Envelope.dataOn label)

/-
  What has been sent to a party is what it has received, and
  then what is on its way.
-/
def Network.Fifo (net : Network) : Prop :=
  ∀ p label,
    sentData label (net.endpoint p.other).history =
      receivedData label (net.endpoint p).history ++
        net.flying p label

variable {p : Party}
variable {incoming : Option Label}
variable {net : Network}

/- Whatever is put on the record is also put on the link. -/
theorem Endpoint.foldl_note_data
    (label : Label)
    (es : List ChannelEffect)
    (state : Endpoint × List Envelope) :
    ∃ entries outbox,
      (es.foldl (note p incoming) state).1.history =
          state.1.history ++ entries ∧
        (es.foldl (note p incoming) state).2 =
          state.2 ++ outbox ∧
        sentData label entries =
          outbox.flatMap (Envelope.dataOn label) ∧
        receivedData label entries = [] := by
  induction es generalizing state with
  | nil => exact ⟨[], [], by simp, by simp, rfl, rfl⟩
  | cons effect es ih =>
      rw [List.foldl_cons]
      rcases ih (note p incoming state effect) with
        ⟨entries, outbox, hHistory, hOutbox, hSent,
          hReceived⟩
      rw [hHistory, hOutbox]
      cases effect with
      | allocated i type =>
          cases type <;>
            exact ⟨entries, outbox, rfl, rfl, hSent,
              hReceived⟩
      | freed i =>
          refine ⟨.freed (state.1.labels i) :: entries, outbox,
            by simp [note], rfl, hSent, hReceived⟩
      | sent i m =>
          cases i with
          | none =>
              refine ⟨.sent incoming m :: entries,
                ⟨incoming, m⟩ :: outbox, by simp [note],
                by simp [note], ?_, hReceived⟩
              rw [List.flatMap_cons, ← hSent]
              rfl
          | some i =>
              refine ⟨.sent (state.1.labels i) m :: entries,
                ⟨state.1.labels i, m⟩ :: outbox,
                by simp [note], by simp [note], ?_, hReceived⟩
              rw [List.flatMap_cons, ← hSent]
              rfl
      | received i data =>
          exact ⟨entries, outbox, rfl, rfl, hSent, hReceived⟩
      | wrote i data =>
          exact ⟨entries, outbox, rfl, rfl, hSent, hReceived⟩

/- Nothing is in flight at first. -/
theorem Network.Fifo.initial
    (memory : Party → Nat → Channel) :
    (Network.initial memory).Fifo := by
  intro p label
  rfl

/- What is sent joins the end of the link. -/
theorem Network.Fifo.advance
    (hFifo : net.Fifo)
    (p : Party)
    (incoming : Option Label)
    (table : ChannelTable) :
    (net.advance p incoming table).Fifo := by
  unfold Network.Fifo
  rw [Network.forall_party_iff p]
  have hNe : p ≠ p.other := (Party.other_ne p).symm
  constructor
  · intro label
    rcases @Endpoint.foldl_note_data p incoming label
        (table.effects.drop
          (net.endpoint p).table.effects.length)
        ({ net.endpoint p with table }, []) with
      ⟨entries, outbox, hHistory, -, -, hReceived⟩
    have hOld := hFifo p label
    simp only [Network.advance, Endpoint.follow,
      Network.flying, Function.update_self, ne_eq, hNe,
      Party.other_ne, not_false_eq_true,
      Function.update_of_ne, hHistory, receivedData_append,
      hReceived, List.append_nil] at hOld ⊢
    exact hOld
  · intro label
    rcases @Endpoint.foldl_note_data p incoming label
        (table.effects.drop
          (net.endpoint p).table.effects.length)
        ({ net.endpoint p with table }, []) with
      ⟨entries, outbox, hHistory, hOutbox, hSent, -⟩
    have hOld := hFifo p.other label
    simp only [Party.other_other, Network.advance,
      Endpoint.follow, Network.flying, Function.update_self,
      ne_eq, Party.other_ne, not_false_eq_true,
      Function.update_of_ne, hHistory, hOutbox,
      sentData_append, hSent, List.nil_append,
      List.flatMap_append] at hOld ⊢
    rw [hOld, List.append_assoc]

/- What is taken off a link is received. -/
theorem Network.Fifo.take
    {envelope : Envelope}
    {rest : List Envelope}
    (hFifo : net.Fifo)
    (hLink : net.link p = envelope :: rest) :
    (net.take p envelope rest).Fifo := by
  unfold Network.Fifo
  rw [Network.forall_party_iff p]
  constructor
  · intro label
    have hOld := hFifo p label
    rw [Network.take_endpoint_other, hOld]
    simp only [Network.flying, Network.take_link_self, hLink,
      Network.take_endpoint_self, receivedData_append,
      List.flatMap_cons, List.append_assoc]
    congr 1
    simp [receivedData, HistoryEntry.receivedOn,
      Envelope.dataOn]
  · intro label
    have hOld := hFifo p.other label
    rw [Party.other_other] at hOld ⊢
    simp only [Network.flying, Network.take_link_other,
      Network.take_endpoint_self, Network.take_endpoint_other,
      sentData_append] at hOld ⊢
    rw [hOld]
    simp [sentData, HistoryEntry.sentOn]

/- The masks are no part of the links. -/
theorem Network.Fifo.select
    (hFifo : net.Fifo)
    (p : Party)
    (selecting : Option FdSets) :
    (net.select p selecting).Fifo := by
  have hHistory :
      ∀ q, ((net.select p selecting).endpoint q).history =
        (net.endpoint q).history := by
    intro q
    by_cases hq : q = p
    · subst hq
      simp [Network.select, Network.setEndpoint]
    · simp [Network.select, Network.setEndpoint, hq]
  intro q label
  rw [hHistory, hHistory]
  exact hFifo q label

end Ssh1

------------------------------------------------------------
-- Journals
------------------------------------------------------------

namespace Ssh1

/- What has been read and written for the channels. -/
structure Journal where
  read : Party → Label → List UInt8
  written : Party → Label → List UInt8

/- Before the first call. -/
def Journal.empty : Journal where
  read := fun _ _ => []
  written := fun _ _ => []

/- What a turn of the loop reads from the socket of a slot. -/
def readNow
    (conf : ChannelConf)
    (io : SlotIo)
    (ch : Channel) : List UInt8 :=
  if ch.type = .opened ∧ io.readable then
    match io.read with
    | .bytes data => data.take (readSize conf)
    | .wouldBlock => []
    | .failed => []
  else
    []

/-
  What the loop reads for a channel. A turn is about the
  channel that the slot belongs to at that time.
-/
def Endpoint.reads
    (conf : ChannelConf)
    (io : Nat → SlotIo)
    (p : Party)
    (label : Label) : List Nat → Endpoint → List UInt8
| [], _ => []
| i :: slots, e =>
    (if e.labels i = some label then
        readNow conf (io i) (e.table.channels i)
      else
        []) ++
      match afterSlot conf io e.table i with
      | .ok table =>
          reads conf io p label slots
            (e.follow p none table).1
      | .error _ => []

/- What an effect says was written for a channel. -/
def wroteNow
    (labels : Nat → Option Label)
    (label : Label) : ChannelEffect → List UInt8
| .wrote i data => if labels i = some label then data else []
| _ => []

/- What the effects say, while the labels follow them. -/
def Endpoint.writesOf
    (p : Party)
    (incoming : Option Label)
    (label : Label) :
    Endpoint × List Envelope → List ChannelEffect →
      List UInt8
| _, [] => []
| state, effect :: es =>
    wroteNow state.1.labels label effect ++
      writesOf p incoming label (note p incoming state effect)
        es

/- What is written for a channel on the way to a table. -/
def Endpoint.writes
    (p : Party)
    (incoming : Option Label)
    (label : Label)
    (table : ChannelTable)
    (e : Endpoint) : List UInt8 :=
  writesOf p incoming label ({ e with table }, [])
    (table.effects.drop e.table.effects.length)

/- What a step reads for a channel. -/
def Network.reading
    (conf : Party → ChannelConf)
    (net : Network)
    (event : Party × NetworkAction)
    (label : Label) : List UInt8 :=
  let p := event.1
  let e := net.endpoint p
  match event.2, e.selecting with
  | .afterSelect io, some sets =>
      e.reads (conf p) (maskedIo sets io) p label
        (List.range e.table.channelsAlloc)
  | _, _ => []

/- The channel of the message that a step handles. -/
def Network.handling
    (net : Network)
    (event : Party × NetworkAction) : Option Label :=
  match event.2 with
  | .deliver _ => (net.link event.1).head?.bind Envelope.label
  | _ => none

/- A journal after a step. -/
def Network.noted
    (conf : Party → ChannelConf)
    (net : Network)
    (event : Party × NetworkAction)
    (net' : Network)
    (journal : Journal) : Journal :=
  let p := event.1
  { read :=
      Function.update journal.read p fun label =>
        journal.read p label ++ net.reading conf event label
    written :=
      Function.update journal.written p fun label =>
        journal.written p label ++
          (net.endpoint p).writes p (net.handling event) label
            (net'.endpoint p).table }

/- One step of a party, with what it reads and writes. -/
def Network.observe
    (conf : Party → ChannelConf)
    (state : Network × Journal)
    (event : Party × NetworkAction) :
    Outcome (Network × Journal) := do
  let net' ← state.1.step conf event
  return (net', state.1.noted conf event net' state.2)

end Ssh1

------------------------------------------------------------
-- What Is Written
------------------------------------------------------------

namespace Ssh1

variable {p : Party}
variable {incoming : Option Label}
variable {label : Label}
variable {e : Endpoint}
variable {i : Nat}
variable {es : List ChannelEffect}

/- The labels go by the labels alone. -/
theorem Endpoint.note_labels_congr
    {state state' : Endpoint × List Envelope}
    (hLabels : state.1.labels = state'.1.labels)
    (hAsked : state.1.asked = state'.1.asked)
    (effect : ChannelEffect) :
    (note p incoming state effect).1.labels =
        (note p incoming state' effect).1.labels ∧
      (note p incoming state effect).1.asked =
        (note p incoming state' effect).1.asked := by
  cases effect with
  | allocated i type =>
      cases type <;> simp [note, hLabels, hAsked]
  | freed i => exact ⟨hLabels, hAsked⟩
  | sent i message => cases i <;> exact ⟨hLabels, hAsked⟩
  | received i data => exact ⟨hLabels, hAsked⟩
  | wrote i data => exact ⟨hLabels, hAsked⟩

/- Only the labels matter for what is written. -/
theorem Endpoint.writesOf_congr
    {state state' : Endpoint × List Envelope}
    (hLabels : state.1.labels = state'.1.labels)
    (hAsked : state.1.asked = state'.1.asked) :
    writesOf p incoming label state es =
      writesOf p incoming label state' es := by
  induction es generalizing state state' with
  | nil => rfl
  | cons effect es ih =>
      rcases @note_labels_congr p incoming _ _ hLabels hAsked
          effect with
        ⟨hLabels', hAsked'⟩
      rw [writesOf, writesOf, hLabels, ih hLabels' hAsked']

/- The writes go on with the next effects. -/
theorem Endpoint.writesOf_append
    (es es' : List ChannelEffect)
    (state : Endpoint × List Envelope) :
    writesOf p incoming label state (es ++ es') =
      writesOf p incoming label state es ++
        writesOf p incoming label
          (es.foldl (note p incoming) state) es' := by
  induction es generalizing state with
  | nil => rfl
  | cons effect es ih =>
      rw [List.cons_append, writesOf, writesOf, ih,
        List.append_assoc, List.foldl_cons]

/- One table after the other. -/
theorem Endpoint.writes_follow
    {table table' : ChannelTable}
    {es es' : List ChannelEffect}
    (hEffects : table.effects = e.table.effects ++ es)
    (hEffects' : table'.effects = table.effects ++ es') :
    e.writes p incoming label table' =
      e.writes p incoming label table ++
        (e.follow p incoming table).1.writes p incoming label
          table' := by
  have hBoth :
      table'.effects.drop e.table.effects.length =
        es ++ es' := by
    rw [hEffects', hEffects, List.append_assoc,
      List.drop_left]
  have hFirst :
      table.effects.drop e.table.effects.length = es := by
    rw [hEffects, List.drop_left]
  have hSecond :
      table'.effects.drop
          (e.follow p incoming table).1.table.effects.length =
        es' := by
    rw [follow_table, hEffects', List.drop_left]
  have hWith :=
    @foldl_note_with_table p incoming table' []
      ({ e with table }, []) es
  simp only [List.nil_append] at hWith
  unfold writes
  rw [hBoth, hFirst, hSecond, writesOf_append, hWith]
  congr 1
  · exact writesOf_congr rfl rfl
  · apply writesOf_congr
    · simp only [follow, hFirst]
    · simp only [follow, hFirst]

theorem Endpoint.writes_self :
    e.writes p incoming label e.table = [] := by
  simp [writes, writesOf]

theorem Endpoint.writes_follow_table
    {e' : Endpoint}
    {incoming' : Option Label}
    (table : ChannelTable) :
    e.writes p incoming label
        (e'.follow p incoming' table).1.table =
      e.writes p incoming label table := by
  rw [follow_table]

/- The data that the effects say was written. -/
def wroteData (es : List ChannelEffect) : List UInt8 :=
  es.flatMap fun effect =>
    match effect with
    | .wrote _ data => data
    | _ => []

/- All of it is about the channel of the slot. -/
theorem Endpoint.writesOf_onSlot
    (hSlot : OnSlot i es)
    (state : Endpoint × List Envelope) :
    writesOf p incoming label state es =
      if state.1.labels i = some label then
        wroteData es
      else
        [] := by
  induction es generalizing state with
  | nil => simp [writesOf, wroteData]
  | cons effect es ih =>
      have hRest : OnSlot i es := fun effect' hMem =>
        hSlot effect' (by simp [hMem])
      have hLabels :
          (note p incoming state effect).1.labels =
            state.1.labels := by
        rcases hSlot effect (by simp) with
          ⟨message, rfl⟩ | ⟨data, rfl⟩ | ⟨data, rfl⟩ <;> rfl
      rw [writesOf, ih hRest, hLabels]
      rcases hSlot effect (by simp) with
        ⟨message, rfl⟩ | ⟨data, rfl⟩ | ⟨data, rfl⟩
      · simp [wroteNow, wroteData]
      · simp [wroteNow, wroteData]
      · split <;> simp_all [wroteNow, wroteData]

/- A slot writes for its own label. -/
theorem Endpoint.writes_put
    (hSlot : OnSlot i es)
    (free : Bool)
    (ch : Channel)
    (e : Endpoint) :
    e.writes p incoming label (putSlot free i ch es e.table) =
      if e.labels i = some label then wroteData es else [] := by
  unfold writes
  cases free with
  | false =>
      have hDrop :
          (putSlot false i ch es e.table).effects.drop
              e.table.effects.length = es := by
        simp [putSlot, setSlot]
      rw [hDrop, writesOf_onSlot hSlot]
  | true =>
      have hDrop :
          (putSlot true i ch es e.table).effects.drop
              e.table.effects.length =
            es ++ [.freed i] := by
        simp [putSlot, setSlot, releaseSlot]
      rw [hDrop, writesOf_append, writesOf_onSlot hSlot]
      simp [writesOf, wroteNow]

/- Nothing is written to the socket of a new slot. -/
theorem Endpoint.writes_enter
    {type : ChannelType}
    {sock : Int}
    {mid : ChannelTable}
    (hAllocates :
      ChannelTable.Allocates type sock e.table i mid)
    (hSlot : OnSlot i es)
    (hNone : wroteData es = [])
    (ch : Channel) :
    e.writes p incoming label (setSlot i ch es mid) = [] := by
  have hDrop :
      (setSlot i ch es mid).effects.drop
          e.table.effects.length =
        .allocated i type :: es := by
    simp [setSlot, hAllocates.effects]
  unfold writes
  rw [hDrop, writesOf, writesOf_onSlot hSlot, hNone]
  simp [wroteNow]

end Ssh1

------------------------------------------------------------
-- Buffers as Pipes
------------------------------------------------------------

namespace Ssh1

/-
  What has been read for a channel waits to be sent, until
  the peer takes no more data.
-/
def Channel.inPipe (ch : Channel) : Pipe UInt8 where
  dropped := ch.statusFlags.closeReceived
  buffer := ch.input

/-
  What has been received waits to be written, until the
  socket takes no more data.
-/
def Channel.outPipe (ch : Channel) : Pipe UInt8 where
  dropped := ch.statusFlags.outputSocketClosed
  buffer := ch.output

/- The pipe from the socket, for a slot that may be missing. -/
def slotInPipe : Option (Nat × Channel) → Pipe UInt8
| none => .gone
| some slot => slot.2.inPipe

/- The pipe to the socket, for a slot that may be missing. -/
def slotOutPipe : Option (Nat × Channel) → Pipe UInt8
| none => .gone
| some slot => slot.2.outPipe

/- A change of the channel, with the data that moves. -/
structure Channel.Moves
    (read sent received wrote : List UInt8)
    (ch ch' : Channel) : Prop where
  input : Pipe.Step read sent ch.inPipe ch'.inPipe
  output : Pipe.Step received wrote ch.outPipe ch'.outPipe

/- A channel that keeps its pipes moves nothing. -/
theorem Channel.Moves.still
    {ch ch' : Channel}
    (hInput : ch'.inPipe = ch.inPipe)
    (hOutput : ch'.outPipe = ch.outPipe) :
    ch.Moves [] [] [] [] ch' where
  input := by
    rw [hInput]
    exact .stay
  output := by
    rw [hOutput]
    exact .stay

/-
  The data about a channel, by what a party knows of it: the
  channel has been opened if there is any, and the two
  buffers hold what has not gone on yet.
-/
structure Endpoint.Streams
    (e : Endpoint)
    (label : Label)
    (read written : List UInt8) : Prop where
  unopened :
    tally label e.history .opened = 0 →
      read = [] ∧ sentData label e.history = [] ∧
        receivedData label e.history = [] ∧ written = []
  input :
    Pipe.Sound read (sentData label e.history)
      (slotInPipe (e.slotOf label))
  output :
    Pipe.Sound (receivedData label e.history) written
      (slotOutPipe (e.slotOf label))

variable {e e' : Endpoint}
variable {label : Label}
variable {read written : List UInt8}

/- Nothing has been read or written at first. -/
theorem Endpoint.Streams.initial
    (memory : Nat → Channel)
    (label : Label) :
    (Endpoint.initial memory).Streams label [] [] where
  unopened := fun _ => ⟨rfl, rfl, rfl, rfl⟩
  input := by
    have hNone :
        (Endpoint.initial memory).slotOf label = none := rfl
    rw [hNone]
    exact .gone List.nil_prefix
  output := by
    have hNone :
        (Endpoint.initial memory).slotOf label = none := rfl
    rw [hNone]
    exact .gone List.nil_prefix

/- Another channel does not notice. -/
theorem Endpoint.Streams.of_same
    (hStreams : e.Streams label read written)
    (hSlot : e'.slotOf label = e.slotOf label)
    (hCount :
      tally label e'.history .opened =
        tally label e.history .opened)
    (hSent :
      sentData label e'.history = sentData label e.history)
    (hReceived :
      receivedData label e'.history =
        receivedData label e.history) :
    e'.Streams label read written := by
  refine ⟨?_, ?_, ?_⟩
  · rw [hCount, hSent, hReceived]
    exact hStreams.unopened
  · rw [hSlot, hSent]
    exact hStreams.input
  · rw [hSlot, hReceived]
    exact hStreams.output

/-
  A channel that is open moves its data, and its slot may be
  freed then.
-/
theorem Endpoint.Streams.move
    {free : Bool}
    {i : Nat}
    {ch ch' : Channel}
    {taken given received wrote : List UInt8}
    (hStreams : e.Streams label read written)
    (hOpened : 0 < tally label e'.history .opened)
    (hMoves : ch.Moves taken given received wrote ch')
    (hSlot : e.slotOf label = some (i, ch))
    (hSlot' :
      e'.slotOf label =
        if free then none else some (i, ch'))
    (hSent :
      sentData label e'.history =
        sentData label e.history ++ given)
    (hReceived :
      receivedData label e'.history =
        receivedData label e.history ++ received) :
    e'.Streams label (read ++ taken) (written ++ wrote) := by
  have hInput := hStreams.input
  have hOutput := hStreams.output
  rw [hSlot] at hInput hOutput
  have hInput' := hInput.step hMoves.input
  have hOutput' := hOutput.step hMoves.output
  refine ⟨?_, ?_, ?_⟩
  · intro hNone
    omega
  · rw [hSlot', hSent]
    cases free with
    | true => exact .gone hInput'.front
    | false => exact hInput'
  · rw [hSlot', hReceived]
    cases free with
    | true => exact .gone hOutput'.front
    | false => exact hOutput'

/- A new channel has no data yet. -/
theorem Endpoint.Streams.enter
    {i : Nat}
    {type : ChannelType}
    {ch : Channel}
    (hStreams : e.Streams label read written)
    (hNone : tally label e.history .opened = 0)
    (hFresh : ch.IsFresh type i)
    (hSlot : e'.slotOf label = some (i, ch))
    (hSent : sentData label e'.history = [])
    (hReceived : receivedData label e'.history = []) :
    e'.Streams label read written := by
  rcases hStreams.unopened hNone with ⟨rfl, -, -, rfl⟩
  have hNew : ch.inPipe = .new ∧ ch.outPipe = .new := by
    simp [Channel.inPipe, Channel.outPipe, Pipe.new,
      hFresh.statusFlags_eq, hFresh.input_eq,
      hFresh.output_eq, StatusFlags.clear]
  refine ⟨fun _ => ⟨rfl, hSent, hReceived, rfl⟩, ?_, ?_⟩
  · rw [hSlot, hSent]
    change Pipe.Sound [] [] ch.inPipe
    rw [hNew.1]
    exact .new
  · rw [hSlot, hReceived]
    change Pipe.Sound [] [] ch.outPipe
    rw [hNew.2]
    exact .new

end Ssh1
