import Ssh1.Channels.Network
import Ssh1.Channels.Safety

/-
  What a party has said and heard of its channels.

  A channel is known by its label, and a party has a slot for
  it or none. What a step does to one slot changes the
  history of the label of the slot, and of no other one.

  Main declarations:
    * `Endpoint.slotOf`
    * `FreedLast`, `slotEntries`
    * `Endpoint.put`, `Endpoint.enter`
    * `Endpoint.follow_put`, `Endpoint.follow_enter`
-/

------------------------------------------------------------
-- Slots of Channels
------------------------------------------------------------

namespace Ssh1

/- The slot of a channel, if the party has one for it. -/
def Endpoint.slotOf
    (e : Endpoint)
    (label : Label) : Option (Nat × Channel) :=
  ((List.range e.table.channelsAlloc).find? fun i =>
      e.Holds label i).map fun i => (i, e.table.channels i)

/- No channel has two slots. -/
def Endpoint.Distinct (e : Endpoint) : Prop :=
  ∀ label i j, e.Holds label i → e.Holds label j → i = j

variable {e e' : Endpoint}
variable {label : Label}
variable {i : Nat}
variable {ch : Channel}

/- No slot has the label. -/
theorem Endpoint.slotOf_eq_none_iff :
    e.slotOf label = none ↔ ∀ i, ¬ e.Holds label i := by
  simp only [slotOf, Option.map_eq_none_iff,
    List.find?_eq_none, List.mem_range, decide_eq_true_eq]
  constructor
  · intro hNone i hHolds
    exact hNone i hHolds.1 hHolds
  · intro hNone i _
    exact hNone i

/- The slot of a label is the only one that has it. -/
theorem Endpoint.slotOf_eq_some_iff
    (hDistinct : e.Distinct) :
    e.slotOf label = some (i, ch) ↔
      e.Holds label i ∧ e.table.channels i = ch := by
  constructor
  · intro hSlot
    simp only [slotOf, Option.map_eq_some_iff] at hSlot
    rcases hSlot with ⟨j, hFind, hPair⟩
    have hHolds := List.find?_some hFind
    cases hPair
    exact ⟨by simpa using hHolds, rfl⟩
  · rintro ⟨hHolds, rfl⟩
    cases hSlot : e.slotOf label with
    | none => exact absurd hHolds (slotOf_eq_none_iff.mp hSlot i)
    | some slot =>
        simp only [slotOf, Option.map_eq_some_iff] at hSlot
        rcases hSlot with ⟨j, hFind, hPair⟩
        have hOther : e.Holds label j := by
          simpa using List.find?_some hFind
        have hSame := hDistinct label j i hOther hHolds
        subst hSame
        rw [← hPair]

/- The slot does not change where the same slots are held. -/
theorem Endpoint.slotOf_congr
    (hDistinct : e.Distinct)
    (hDistinct' : e'.Distinct)
    (hHolds : ∀ i, e'.Holds label i ↔ e.Holds label i)
    (hSame :
      ∀ i, e.Holds label i →
        e'.table.channels i = e.table.channels i) :
    e'.slotOf label = e.slotOf label := by
  cases hSlot : e.slotOf label with
  | none =>
      rw [slotOf_eq_none_iff] at hSlot ⊢
      intro i
      rw [hHolds]
      exact hSlot i
  | some slot =>
      rcases slot with ⟨i, ch⟩
      rw [slotOf_eq_some_iff hDistinct] at hSlot
      rw [slotOf_eq_some_iff hDistinct', hHolds]
      exact ⟨hSlot.1, (hSame i hSlot.1).trans hSlot.2⟩

end Ssh1

------------------------------------------------------------
-- Histories
------------------------------------------------------------

namespace Ssh1

variable {label : Label}
variable {history : List HistoryEntry}

/- The counts of two histories add up. -/
theorem tally_append
    (history entries : List HistoryEntry) :
    tally label (history ++ entries) =
      fun counter =>
        tally label history counter +
          tally label entries counter := by
  funext counter
  simp [tally, List.countP_append]

/- Entries about another channel count for nothing. -/
theorem tally_eq_zero
    {entries : List HistoryEntry}
    (hOther :
      ∀ entry ∈ entries, ∀ counter,
        entry.counts label counter = false) :
    tally label entries = fun _ => 0 := by
  funext counter
  simp only [tally, List.countP_eq_zero, Bool.not_eq_true]
  exact fun entry hMem => hOther entry hMem counter

/- A message on another channel does not count. -/
theorem counts_sent_ne
    {l : Option Label}
    (hNe : l ≠ some label)
    (m : ChannelMessage)
    (counter : Counter) :
    (HistoryEntry.sent l m).counts label counter = false := by
  cases counter <;> simp [HistoryEntry.counts, hNe]

theorem counts_received_ne
    {l : Option Label}
    (hNe : l ≠ some label)
    (m : ChannelMessage)
    (counter : Counter) :
    (HistoryEntry.received l m).counts label counter =
      false := by
  cases counter <;> simp [HistoryEntry.counts, hNe]

/- Freeing a slot is not one of the counted events. -/
theorem counts_freed
    (l : Option Label)
    (counter : Counter) :
    (HistoryEntry.freed l).counts label counter = false := by
  cases counter <;> rfl

/-
  An open channel is freed only after everything about it has
  been said and heard.
-/
def FreedLast (history : List HistoryEntry) : Prop :=
  ∀ label before after,
    history = before ++ .freed (some label) :: after →
      0 < tally label before .opened →
      ∀ counter, tally label before counter = 1

theorem FreedLast.nil : FreedLast [] := by
  intro label before after hSplit
  simp at hSplit

/- One entry more, if a freed channel has had its five
  events before. -/
theorem FreedLast.snoc
    {entry : HistoryEntry}
    (hFreed : FreedLast history)
    (hEntry :
      ∀ label, entry = .freed (some label) →
        0 < tally label history .opened →
        ∀ counter, tally label history counter = 1) :
    FreedLast (history ++ [entry]) := by
  intro label before after hSplit hOpened
  rcases List.append_eq_append_iff.mp hSplit with
    ⟨more, hBefore, hRest⟩ | ⟨more, hHistory, hRest⟩
  · cases more with
    | nil =>
        simp only [List.append_nil, List.nil_append] at hBefore hRest
        cases hRest
        subst hBefore
        exact hEntry label rfl hOpened
    | cons entry' more =>
        simp at hRest
  · cases more with
    | nil =>
        simp only [List.append_nil, List.nil_append] at hHistory hRest
        cases hRest
        subst hHistory
        exact hEntry label rfl hOpened
    | cons entry' more =>
        simp only [List.cons_append, List.cons.injEq] at hRest
        rcases hRest with ⟨rfl, hRest⟩
        exact hFreed label before more hHistory hOpened

/- Entries that free nothing change nothing. -/
theorem FreedLast.append
    {entries : List HistoryEntry}
    (hFreed : FreedLast history)
    (hEntries :
      ∀ entry ∈ entries, ∀ l, entry ≠ .freed l) :
    FreedLast (history ++ entries) := by
  induction entries generalizing history with
  | nil => simpa using hFreed
  | cons entry entries ih =>
      have hSnoc : FreedLast (history ++ [entry]) := by
        apply hFreed.snoc
        intro label hEntry
        exact absurd hEntry (hEntries entry (by simp) _)
      have hMore := ih hSnoc fun entry' hMem =>
        hEntries entry' (by simp [hMem])
      simpa using hMore

end Ssh1

------------------------------------------------------------
-- Following the Table
------------------------------------------------------------

namespace Ssh1

/- The messages among the effects. -/
def sentMessages
    (es : List ChannelEffect) : List ChannelMessage :=
  es.filterMap fun effect =>
    match effect with
    | .sent _ message => some message
    | _ => none

/- Effects on one slot that leave it allocated as it is. -/
def OnSlot (i : Nat) (es : List ChannelEffect) : Prop :=
  ∀ effect ∈ es,
    (∃ message, effect = .sent (some i) message) ∨
      (∃ data, effect = .received i data) ∨
      ∃ data, effect = .wrote i data

/- The table with a slot changed, and perhaps freed. -/
def putSlot
    (free : Bool)
    (i : Nat)
    (ch : Channel)
    (es : List ChannelEffect)
    (table : ChannelTable) : ChannelTable :=
  if free then
    releaseSlot i (setSlot i ch es table)
  else
    setSlot i ch es table

/- A closing slot is put back, or freed at the end. -/
theorem closeSlot_eq_putSlot
    (i : Nat)
    (ch : Channel)
    (es : List ChannelEffect)
    (table : ChannelTable) :
    closeSlot i ch es table =
      putSlot ch.statusFlags.terminate i ch es table := rfl

/- What a party does about a slot, on the record. -/
def slotEntries
    (label : Option Label)
    (free : Bool)
    (es : List ChannelEffect) : List HistoryEntry :=
  (sentMessages es).map (.sent label) ++
    if free then [.freed label] else []

/- The endpoint after a slot is changed, and perhaps freed. -/
def Endpoint.put
    (free : Bool)
    (i : Nat)
    (ch : Channel)
    (es : List ChannelEffect)
    (e : Endpoint) : Endpoint :=
  { e with
      table := putSlot free i ch es e.table
      history := e.history ++ slotEntries (e.labels i) free es }

/- The endpoint after a slot is allocated for a channel. -/
def Endpoint.enter
    (label : Option Label)
    (asked : Nat)
    (i : Nat)
    (es : List ChannelEffect)
    (table : ChannelTable)
    (e : Endpoint) : Endpoint :=
  { e with
      table
      labels := Function.update e.labels i label
      asked
      history := e.history ++ slotEntries label false es }

/- Messages of a slot, as they are put on the link. -/
def envelopes
    (label : Option Label)
    (es : List ChannelEffect) : List Envelope :=
  (sentMessages es).map fun m => ⟨label, m⟩

variable {p : Party}
variable {incoming : Option Label}
variable {i : Nat}
variable {es : List ChannelEffect}

/- What happens on one slot is noted under its label. -/
theorem foldl_note_onSlot
    (hSlot : OnSlot i es)
    (state : Endpoint × List Envelope) :
    es.foldl (Endpoint.note p incoming) state =
      ({ state.1 with
          history :=
            state.1.history ++
              slotEntries (state.1.labels i) false es },
        state.2 ++ envelopes (state.1.labels i) es) := by
  induction es generalizing state with
  | nil => simp [slotEntries, sentMessages, envelopes]
  | cons effect es ih =>
      have hRest : OnSlot i es := fun effect' hMem =>
        hSlot effect' (by simp [hMem])
      rw [List.foldl_cons, ih hRest]
      rcases hSlot effect (by simp) with
        ⟨message, rfl⟩ | ⟨data, rfl⟩ | ⟨data, rfl⟩
      · simp [Endpoint.note, slotEntries, sentMessages,
          envelopes]
      · simp [Endpoint.note, slotEntries, sentMessages,
          envelopes]
      · simp [Endpoint.note, slotEntries, sentMessages,
          envelopes]

/- Following a change of a slot. -/
theorem Endpoint.follow_put
    (hSlot : OnSlot i es)
    (free : Bool)
    (ch : Channel)
    (e : Endpoint) :
    e.follow p incoming (putSlot free i ch es e.table) =
      (e.put free i ch es, envelopes (e.labels i) es) := by
  cases free with
  | false =>
      have hDrop :
          (putSlot false i ch es e.table).effects.drop
              e.table.effects.length = es := by
        simp [putSlot, setSlot]
      rw [follow, hDrop, foldl_note_onSlot hSlot]
      simp [put]
  | true =>
      have hDrop :
          (putSlot true i ch es e.table).effects.drop
              e.table.effects.length =
            es ++ [.freed i] := by
        simp [putSlot, setSlot, releaseSlot]
      rw [follow, hDrop, List.foldl_append,
        foldl_note_onSlot hSlot]
      simp [put, note, slotEntries]

/- Following an allocation, by the label that it gets. -/
theorem Endpoint.follow_enter
    {type : ChannelType}
    {sock : Int}
    {mid : ChannelTable}
    {e : Endpoint}
    {label : Option Label}
    {asked : Nat}
    (hAllocates :
      ChannelTable.Allocates type sock e.table i mid)
    (hNote :
      ∀ state : Endpoint × List Envelope,
        state.1.asked = e.asked →
        Endpoint.note p incoming state (.allocated i type) =
          ({ state.1 with
              labels :=
                Function.update state.1.labels i label
              asked := asked },
            state.2))
    (hSlot : OnSlot i es)
    (ch : Channel) :
    e.follow p incoming (setSlot i ch es mid) =
      (e.enter label asked i es (setSlot i ch es mid),
        envelopes label es) := by
  have hDrop :
      (setSlot i ch es mid).effects.drop
          e.table.effects.length =
        .allocated i type :: es := by
    simp [setSlot, hAllocates.effects]
  rw [follow, hDrop, List.foldl_cons,
    hNote _ rfl, foldl_note_onSlot hSlot]
  simp [enter]

end Ssh1

------------------------------------------------------------
-- Changes of an Endpoint
------------------------------------------------------------

namespace Ssh1

variable {e : Endpoint}
variable {label l : Label}
variable {free : Bool}
variable {i j : Nat}
variable {ch : Channel}
variable {es : List ChannelEffect}

@[simp] theorem putSlot_channelsAlloc
    {table : ChannelTable} :
    (putSlot free i ch es table).channelsAlloc =
      table.channelsAlloc := by
  unfold putSlot
  split <;> rfl

/- The other slots stay. -/
theorem putSlot_channels_ne
    {table : ChannelTable}
    (hj : j ≠ i) :
    (putSlot free i ch es table).channels j =
      table.channels j := by
  unfold putSlot
  split
  · exact releaseSlot_setSlot_channels_ne hj
  · exact setSlot_channels_ne hj

section Put

variable (hHolds : e.Holds label i)
variable (hType : ch.type = .opening ∨ ch.type = .opened)

include hHolds hType

/- The slots of channels, but for the one that is freed. -/
theorem Endpoint.put_holds_iff :
    (e.put free i ch es).Holds l j ↔
      e.Holds l j ∧ ¬ (free = true ∧ j = i) := by
  by_cases hj : j = i
  · subst hj
    cases free with
    | false =>
        simp only [Holds, put, putSlot, Bool.false_eq_true,
          if_false, setSlot_channels_self,
          setSlot_channelsAlloc, hType, hHolds.2.1]
        simp
    | true =>
        have hNot :
            ¬ (e.put true j ch es).Holds l j := by
          rintro ⟨-, hOther, -⟩
          simp [put, putSlot,
            releaseSlot_setSlot_channels_self] at hOther
        simp [hNot]
  · have hSame :
        (e.put free i ch es).table.channels j =
          e.table.channels j :=
      putSlot_channels_ne hj
    simp only [Holds, hSame]
    simp [put, hj]

/- No two slots get the same label. -/
theorem Endpoint.put_distinct
    (hDistinct : e.Distinct) :
    (e.put free i ch es).Distinct := by
  intro l j k hj hk
  rw [put_holds_iff hHolds hType] at hj hk
  exact hDistinct l j k hj.1 hk.1

/- The label of the slot finds it, unless it is freed. -/
theorem Endpoint.put_slotOf_self
    (hDistinct : e.Distinct) :
    (e.put free i ch es).slotOf label =
      if free then none else some (i, ch) := by
  cases free with
  | true =>
      rw [if_pos rfl, slotOf_eq_none_iff]
      intro j hj
      rw [put_holds_iff hHolds hType] at hj
      exact hj.2 ⟨rfl, hDistinct label j i hj.1 hHolds⟩
  | false =>
      rw [if_neg (by simp), slotOf_eq_some_iff
        (put_distinct hHolds hType hDistinct),
        put_holds_iff hHolds hType]
      exact ⟨⟨hHolds, by simp⟩, by simp [put, putSlot]⟩

/- The other labels find what they found before. -/
theorem Endpoint.put_slotOf_ne
    (hDistinct : e.Distinct)
    (hl : l ≠ label) :
    (e.put free i ch es).slotOf l = e.slotOf l := by
  have hNot : ∀ j, e.Holds l j → j ≠ i := by
    rintro j hj rfl
    have hSame := hj.2.2
    rw [hHolds.2.2] at hSame
    cases hSame
    exact hl rfl
  apply slotOf_congr hDistinct
    (put_distinct hHolds hType hDistinct)
  · intro j
    rw [put_holds_iff hHolds hType]
    constructor
    · exact And.left
    · intro hj
      exact ⟨hj, fun hFreed => hNot j hj hFreed.2⟩
  · intro j hj
    exact putSlot_channels_ne (hNot j hj)

end Put

/- A slot with a label is in use. -/
theorem Endpoint.Holds.inUse
    (hHolds : e.Holds label i) :
    (e.table.channels i).InUse := by
  rcases hHolds.2.1 with hType | hType <;>
    simp [Channel.InUse, hType]

section Enter

variable {type : ChannelType}
variable {sock : Int}
variable {mid : ChannelTable}
variable {entered : Option Label}
variable {asked : Nat}
variable
  (hAllocates :
    ChannelTable.Allocates type sock e.table i mid)

include hAllocates

/- The slots of channels, and the new one if it is one. -/
theorem Endpoint.enter_holds_iff :
    (e.enter entered asked i es
        (setSlot i ch es mid)).Holds l j ↔
      (j = i ∧ entered = some l ∧
        (ch.type = .opening ∨ ch.type = .opened)) ∨
      e.Holds l j := by
  by_cases hj : j = i
  · subst hj
    have hNot : ¬ e.Holds l j := fun hHolds =>
      hAllocates.fresh hHolds.1 hHolds.inUse
    simp only [hNot, or_false]
    simp [Holds, enter, hAllocates.bound, and_comm]
  · have hNew :
        (e.enter entered asked i es
            (setSlot i ch es mid)).Holds l j ↔
          j < mid.channelsAlloc ∧
            ((mid.channels j).type = .opening ∨
              (mid.channels j).type = .opened) ∧
            e.labels j = some l := by
      simp [Holds, enter, hj]
    rw [hNew]
    by_cases hOld : j < e.table.channelsAlloc
    · have hGrows := hAllocates.grows
      rw [hAllocates.others j hOld hj]
      have hBound : j < mid.channelsAlloc := by omega
      simp [Holds, hj, hOld, hBound]
    · have hNot : ¬ e.Holds l j := fun hHolds =>
        hOld hHolds.1
      simp only [hj, false_and, hNot, or_self, iff_false]
      rintro ⟨hBound, hType, -⟩
      apply hAllocates.unused j (by omega) hBound hj
      rcases hType with hType | hType <;>
        simp [Channel.InUse, hType]

variable (hNew : ∀ l, entered = some l → e.slotOf l = none)

include hNew

/- A new channel gets a label of its own. -/
theorem Endpoint.enter_distinct
    (hDistinct : e.Distinct) :
    (e.enter entered asked i es
      (setSlot i ch es mid)).Distinct := by
  intro l j k hj hk
  rw [enter_holds_iff hAllocates] at hj hk
  rcases hj with ⟨rfl, hLabel, -⟩ | hj
  · rcases hk with ⟨rfl, -, -⟩ | hk
    · rfl
    · exact absurd hk
        (slotOf_eq_none_iff.mp (hNew l hLabel) k)
  · rcases hk with ⟨rfl, hLabel, -⟩ | hk
    · exact absurd hj
        (slotOf_eq_none_iff.mp (hNew l hLabel) j)
    · exact hDistinct l j k hj hk

/- The other labels find what they found before. -/
theorem Endpoint.enter_slotOf_ne
    (hDistinct : e.Distinct)
    (hl : entered ≠ some l) :
    (e.enter entered asked i es
        (setSlot i ch es mid)).slotOf l = e.slotOf l := by
  apply slotOf_congr hDistinct
    (enter_distinct hAllocates hNew hDistinct)
  · intro j
    rw [enter_holds_iff hAllocates]
    simp [hl]
  · intro j hj
    have hNe : j ≠ i := by
      rintro rfl
      exact hAllocates.fresh hj.1 hj.inUse
    simp only [enter, ne_eq, hNe, not_false_eq_true,
      setSlot_channels_ne]
    exact hAllocates.others j hj.1 hNe

/- The new label finds the new slot. -/
theorem Endpoint.enter_slotOf_self
    (hDistinct : e.Distinct)
    (hl : entered = some l)
    (hType : ch.type = .opening ∨ ch.type = .opened) :
    (e.enter entered asked i es
        (setSlot i ch es mid)).slotOf l = some (i, ch) := by
  rw [slotOf_eq_some_iff
      (enter_distinct hAllocates hNew hDistinct),
    enter_holds_iff hAllocates]
  exact ⟨.inl ⟨rfl, hl, hType⟩, by simp [enter]⟩

end Enter

end Ssh1
