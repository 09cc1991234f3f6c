import Ssh1.Channels.SlotActions

/-
  The select loop of one party.

  A step of the loop is an action on a slot or a request for
  a new channel, and each of them keeps the invariant. Only
  the slots that may be read from are read.

  Main declarations:
    * `NetworkInv.request`
    * `NetworkInv.localStep`, `NetworkInv.localSteps`
    * `MayRead`, `NoX11`
    * `run_afterSlot_loops`, `run_prepareSlot_loops`
-/

------------------------------------------------------------
-- Requests for Channels
------------------------------------------------------------

namespace Ssh1

variable {conf : Party → ChannelConf}
variable {net : Network}
variable {label : Label}
variable {p : Party}
variable {type : ChannelType}
variable {sock : Int}
variable {mid : ChannelTable}
variable {entered incoming : Option Label}
variable {asked i : Nat}
variable {ch : Channel}
variable {es : List ChannelEffect}

section Enter

variable (hOk : (net.endpoint p).Ok (conf p))
variable
  (hAllocates :
    ChannelTable.Allocates type sock
      (net.endpoint p).table i mid)
variable
  (hNew :
    ∀ l, entered = some l →
      (net.endpoint p).slotOf l = none)

include hOk hAllocates hNew

/- An allocation for one channel is no matter of another. -/
theorem Network.frames_enter
    {l : Label}
    (hl : entered ≠ some l) :
    Network.Frames l net
      (net.install p
        ((net.endpoint p).enter entered asked i es
          (setSlot i ch es mid))
        (envelopes entered es)) := by
  apply Network.frames_install
  · exact Endpoint.enter_slotOf_ne hAllocates hNew
      hOk.distinct hl
  · simp only [Endpoint.enter]
    rw [tally_append, tally_slotEntries_ne hl]
    simp
  · exact Network.filterMap_envelopes_ne hl es

/- The channel itself has a slot now. -/
theorem Network.half_enter
    (hl : entered = some label)
    (hType : ch.type = .opening ∨ ch.type = .opened) :
    (net.install p
        ((net.endpoint p).enter entered asked i es
          (setSlot i ch es mid))
        (envelopes entered es)).half p label =
      ⟨some (i, ch), fun counter =>
        tally label (net.endpoint p).history counter +
          sentCount label (sentMessages es) counter⟩ := by
  rw [Network.half_install_self,
    Endpoint.enter_slotOf_self hAllocates hNew hOk.distinct hl
      hType]
  subst hl
  simp only [Endpoint.enter]
  rw [tally_append, tally_slotEntries_self]

end Enter

theorem onSlot_sent
    (i : Nat)
    (message : ChannelMessage) :
    OnSlot i [.sent (some i) message] := by
  intro effect hMem
  exact .inl ⟨message, List.mem_singleton.mp hMem⟩

/- A connection to a listener asks for a new channel. -/
theorem NetworkInv.request
    {listener : Nat}
    {message : ChannelMessage}
    {allowed : Nat → Channel → Prop}
    (hInv : NetworkInv conf net)
    (hBound : listener < (net.endpoint p).table.channelsAlloc)
    (hRequest :
      message.Requests i
        ((net.endpoint p).table.channels listener).type)
    (hAllocates :
      ChannelTable.Allocates .opening sock
        (net.endpoint p).table i mid)
    (hFresh : ch.IsFresh .opening i) :
    NetworkInv conf
      (net.advance p none
        (setSlot i ch [.sent (some i) message] mid)) := by
  have hOk := hInv.ok p
  have hStep :
      LocalStep (conf p) allowed (net.endpoint p).table
        (setSlot i ch [.sent (some i) message] mid) :=
    .request i listener hBound hRequest hAllocates hFresh
  have hTable := hStep.inv hOk.table
  have hType : ch.type = .opening ∨ ch.type = .opened :=
    .inl hFresh.type_eq
  -- the channel that is asked for
  have hNumber :
      net.Untouched ⟨p, (net.endpoint p).asked⟩ :=
    hInv.unasked _ le_rfl
  have hNew :
      ∀ l : Label,
        some ⟨p, (net.endpoint p).asked⟩ = some l →
        (net.endpoint p).slotOf l = none := by
    intro l hl
    cases hl
    exact (hNumber p).1.slot_eq
  -- only ports are listened to
  have hPort : ∃ body, message = .portOpen i body := by
    generalize hListener :
      ((net.endpoint p).table.channels listener).type =
        kind at hRequest
    have hKind :
        kind ≠ .free → kind = .portListener ∨
          kind = .opening ∨ kind = .opened := by
      intro hUse
      rcases hOk.kinds listener hBound (by
          rw [Channel.InUse, hListener]
          exact hUse) with hPort | ⟨l, hHolds⟩
      · exact .inl (hListener ▸ hPort)
      · have hOther := hHolds.2.1
        rw [hListener] at hOther
        exact .inr hOther
    cases hRequest with
    | x11 body => simp at hKind
    | port body => exact ⟨body, rfl⟩
    | agent => simp at hKind
  rcases hPort with ⟨body, rfl⟩
  have hSlot := onSlot_sent i (.portOpen i body)
  have hFollow :=
    @Endpoint.follow_enter p none i _ .opening sock mid
      (net.endpoint p) (some ⟨p, (net.endpoint p).asked⟩)
      ((net.endpoint p).asked + 1) hAllocates
      (fun state hAsked => by
        simp [Endpoint.note, hAsked])
      hSlot ch
  rw [Network.advance_eq hFollow]
  refine ((hInv.others ⟨p, (net.endpoint p).asked⟩).of_frames
    ?_ (Network.labelled_install hInv.labelled p _ _) ?_
    ?_).inv ?_ ?_
  · rw [Network.forall_party_iff p,
      Network.install_endpoint_self,
      Network.install_endpoint_other]
    exact ⟨hOk.enter hAllocates hTable (.inr ⟨hType, _, rfl⟩)
      hNew, hInv.ok p.other⟩
  · rw [Network.forall_party_iff p,
      Network.install_endpoint_self,
      Network.install_endpoint_other]
    exact ⟨Nat.le_succ _, le_rfl⟩
  · intro l hl
    exact Network.frames_enter hOk hAllocates hNew
      (by simpa using Ne.symm hl)
  · simp [Endpoint.enter]
  · unfold Network.InPhase
    simp only
    rw [Network.half_enter hOk hAllocates hNew rfl hType,
      Network.half_install_other,
      Network.through_install_self,
      Network.through_install_other,
      Network.filterMap_envelopes_self, (hNumber p).2,
      (hNumber p.other).2]
    have hCount := (hNumber p).1.count_eq
    refine .requested i body
      ⟨⟨ch, rfl, hFresh.type_eq, hFresh.statusFlags_eq⟩, ?_⟩
      (hNumber p.other).1
    funext counter
    have hZero := congrFun hCount counter
    simp only [Network.half] at hZero
    simp only
    rw [hZero]
    cases counter <;>
      simp [sentCount, sentMessages, tally,
        HistoryEntry.counts, ChannelMessage.isEof,
        ChannelMessage.isClose, ChannelMessage.isConfirmation]

end Ssh1

------------------------------------------------------------
-- Many Steps of the Loop
------------------------------------------------------------

namespace Ssh1

variable {conf : Party → ChannelConf}
variable {net : Network}
variable {p : Party}
variable {incoming : Option Label}

/- The record of a table is not a part of the notes. -/
theorem Endpoint.note_with_table
    (table : ChannelTable)
    (outbox : List Envelope)
    (state : Endpoint × List Envelope)
    (effect : ChannelEffect) :
    note p incoming
        ({ state.1 with table }, outbox ++ state.2) effect =
      ({ (note p incoming state effect).1 with table },
        outbox ++ (note p incoming state effect).2) := by
  cases effect with
  | allocated i type => cases type <;> rfl
  | freed i => rfl
  | sent i message => cases i <;> simp [note]
  | received i data => rfl
  | wrote i data => rfl

theorem Endpoint.foldl_note_with_table
    (table : ChannelTable)
    (outbox : List Envelope)
    (state : Endpoint × List Envelope)
    (es : List ChannelEffect) :
    es.foldl (note p incoming)
        ({ state.1 with table }, outbox ++ state.2) =
      ({ (es.foldl (note p incoming) state).1 with table },
        outbox ++ (es.foldl (note p incoming) state).2) := by
  induction es generalizing state with
  | nil => rfl
  | cons effect es ih =>
      rw [List.foldl_cons, note_with_table, ih]
      rfl

/- Notes of a table keep the table. -/
theorem Endpoint.note_table
    (state : Endpoint × List Envelope)
    (effect : ChannelEffect) :
    (note p incoming state effect).1.table =
      state.1.table := by
  cases effect with
  | allocated i type => cases type <;> rfl
  | freed i => rfl
  | sent i message => cases i <;> rfl
  | received i data => rfl
  | wrote i data => rfl

/- Noting leaves the table. -/
theorem Endpoint.foldl_note_table
    (state : Endpoint × List Envelope)
    (es : List ChannelEffect) :
    (es.foldl (note p incoming) state).1.table =
      state.1.table := by
  induction es generalizing state with
  | nil => rfl
  | cons effect es ih =>
      rw [List.foldl_cons, ih, note_table]

theorem Endpoint.follow_table
    (table : ChannelTable)
    (e : Endpoint) :
    (e.follow p incoming table).1.table = table :=
  foldl_note_table _ _

/- Following a table over another one. -/
theorem Endpoint.follow_follow
    {table table' : ChannelTable}
    {e : Endpoint}
    {es es' : List ChannelEffect}
    (hEffects : table.effects = e.table.effects ++ es)
    (hEffects' : table'.effects = table.effects ++ es') :
    e.follow p incoming table' =
      (((e.follow p incoming table).1.follow p incoming
          table').1,
        (e.follow p incoming table).2 ++
          ((e.follow p incoming table).1.follow p incoming
            table').2) := by
  have hTable :
      (e.follow p incoming table).1.table = table :=
    follow_table table e
  have hBoth :
      table'.effects.drop e.table.effects.length =
        es ++ es' := by
    rw [hEffects', hEffects, List.append_assoc,
      List.drop_left]
  have hFirst :
      table.effects.drop e.table.effects.length = es := by
    rw [hEffects, List.drop_left]
  have hSecond :
      table'.effects.drop
          (e.follow p incoming table).1.table.effects.length =
        es' := by
    rw [hTable, hEffects', List.drop_left]
  have hUnfold :
      (e.follow p incoming table).1.follow p incoming table' =
        es'.foldl (note p incoming)
          ({ (e.follow p incoming table).1 with
              table := table' }, []) := by
    rw [follow, hSecond]
  have hFollow :
      e.follow p incoming table =
        es.foldl (note p incoming) ({ e with table }, []) := by
    rw [follow, hFirst]
  have hStart :
      es.foldl (note p incoming) ({ e with table := table' }, []) =
        ({ (e.follow p incoming table).1 with
            table := table' },
          (e.follow p incoming table).2) := by
    have hWith :=
      @foldl_note_with_table p incoming table' []
        ({ e with table }, []) es
    simp only [List.nil_append] at hWith
    rw [hWith, hFollow]
  have hMore :=
    @foldl_note_with_table p incoming table'
      (e.follow p incoming table).2
      ({ (e.follow p incoming table).1 with
          table := table' }, []) es'
  simp only [List.append_nil] at hMore
  rw [follow, hBoth, List.foldl_append, hStart, hMore, hUnfold]
  have hKeep :
      (es'.foldl (note p incoming)
          ({ (e.follow p incoming table).1 with
              table := table' }, [])).1.table = table' :=
    foldl_note_table _ _
  have hSame :
      ∀ e' : Endpoint, e'.table = table' →
        { e' with table := table' } = e' := by
    rintro e' rfl
    rfl
  exact Prod.ext (hSame _ hKeep) rfl

/- One table after the other. -/
theorem Network.advance_advance
    {table table' : ChannelTable}
    {es es' : List ChannelEffect}
    (hEffects :
      table.effects = (net.endpoint p).table.effects ++ es)
    (hEffects' : table'.effects = table.effects ++ es') :
    (net.advance p incoming table).advance p incoming table' =
      net.advance p incoming table' := by
  have hFollow :=
    @Endpoint.follow_follow p incoming _ _ _ _ _ hEffects
      hEffects'
  have hOther : p ≠ p.other := (Party.other_ne p).symm
  rw [advance_eq hFollow]
  simp only [advance, Function.update_self,
    Function.update_idem, install, List.append_assoc]

/- Nothing new to follow. -/
theorem Network.advance_self :
    net.advance p incoming (net.endpoint p).table = net := by
  have hFollow :
      (net.endpoint p).follow p incoming
          (net.endpoint p).table =
        (net.endpoint p, []) := by
    simp [Endpoint.follow]
  rw [advance_eq hFollow]
  simp [install]

/- Every step adds to the record of what has happened. -/
theorem LocalStep.effects
    {conf : ChannelConf}
    {allowed : Nat → Channel → Prop}
    {table table' : ChannelTable}
    (hStep : LocalStep conf allowed table table') :
    ∃ es, table'.effects = table.effects ++ es := by
  cases hStep with
  | act i hBound hUse hAction =>
      unfold closeSlot
      split
      · exact ⟨_, List.append_assoc _ _ _⟩
      · exact ⟨_, rfl⟩
  | request i listener hBound hRequest hAllocates hFresh =>
      simp only [setSlot_effects, hAllocates.effects,
        List.append_assoc]
      exact ⟨_, rfl⟩

/- Effects are only added. -/
theorem LocalSteps.effects
    {conf : ChannelConf}
    {allowed : Nat → Channel → Prop}
    {table table' : ChannelTable}
    (hSteps : LocalSteps conf allowed table table') :
    ∃ es, table'.effects = table.effects ++ es := by
  induction hSteps with
  | refl => exact ⟨[], (List.append_nil _).symm⟩
  | tail _ hStep ih =>
      rcases ih with ⟨es, hEffects⟩
      rcases hStep.effects with ⟨es', hEffects'⟩
      exact ⟨es ++ es', by
        rw [hEffects', hEffects, List.append_assoc]⟩

variable {allowed : Nat → Channel → Prop}

/- One local step of a party keeps the invariant. -/
theorem NetworkInv.localStep
    {table' : ChannelTable}
    (hInv : NetworkInv conf net)
    (hAllowed : ∀ i ch, allowed i ch → inputOpen ch)
    (hStep :
      LocalStep (conf p) allowed (net.endpoint p).table
        table') :
    NetworkInv conf (net.advance p none table') := by
  cases hStep with
  | act i hBound hUse hAction =>
      exact hInv.act hBound hUse hAction (hAllowed i)
  | request i listener hBound hRequest hAllocates hFresh =>
      exact @NetworkInv.request conf net p _ _ i _ listener _
        allowed hInv hBound hRequest hAllocates hFresh

/- Many steps of the loop keep the invariant. -/
theorem NetworkInv.localSteps
    {table' : ChannelTable}
    (hInv : NetworkInv conf net)
    (hAllowed : ∀ i ch, allowed i ch → inputOpen ch)
    (hSteps :
      LocalSteps (conf p) allowed (net.endpoint p).table
        table') :
    NetworkInv conf (net.advance p none table') := by
  induction hSteps with
  | refl =>
      rw [Network.advance_self]
      exact hInv
  | tail hSteps hStep ih =>
      rcases LocalSteps.effects hSteps with ⟨es, hEffects⟩
      rcases hStep.effects with ⟨es', hEffects'⟩
      have hTable :
          ∀ table,
            ((net.advance p none table).endpoint p).table =
              table := by
        intro table
        simp only [Network.advance, Function.update_self]
        exact Endpoint.follow_table _ _
      rw [← Network.advance_advance hEffects hEffects']
      apply ih.localStep hAllowed
      rw [hTable]
      exact hStep

end Ssh1

------------------------------------------------------------
-- Select
------------------------------------------------------------

namespace Ssh1

variable {conf : ChannelConf}
variable {bad : Halt → Prop}
variable {allowed : Nat → Channel → Prop}
variable {table table' : ChannelTable}
variable {i j : Nat}

/- A slot that may be read from if its bit is set. -/
def MayRead (table : ChannelTable) (i : Nat) : Prop :=
  i < table.channelsAlloc ∧
    ((table.channels i).type = .opened →
      inputOpen (table.channels i))

/- No connection waits for its first X11 packet. -/
def NoX11 (table : ChannelTable) : Prop :=
  ∀ i < table.channelsAlloc,
    (table.channels i).type ≠ .x11Open

/- The other slots stay. -/
theorem closeSlot_channels_ne
    {ch : Channel}
    {es : List ChannelEffect}
    (hj : j ≠ i) :
    (closeSlot i ch es table).channels j =
      table.channels j := by
  rw [closeSlot_eq_putSlot]
  exact putSlot_channels_ne hj

/- The slot holds the channel, or it is freed. -/
theorem closeSlot_channels_self
    {ch : Channel}
    {es : List ChannelEffect} :
    (closeSlot i ch es table).channels i = ch ∨
      ((closeSlot i ch es table).channels i).type = .free := by
  unfold closeSlot
  split
  · exact .inr (by simp [releaseSlot])
  · exact .inl setSlot_channels_self

/- No local step starts an X11 check. -/
theorem LocalStep.noX11
    (hStep : LocalStep conf allowed table table')
    (hNone : NoX11 table) :
    NoX11 table' := by
  intro j hj
  cases hStep with
  | @act i es ch hBound hUse hAction =>
      by_cases hji : j = i
      · subst hji
        rcases @closeSlot_channels_self table j ch es with
          hSelf | hFree
        · rw [hSelf]
          rcases hAction.type_eq with hType | hType
          · simp [hAction.opened hType]
          · exact absurd hType (hNone j hBound)
        · simp [hFree]
      · rw [closeSlot_channels_ne hji]
        exact hNone j (by simpa using hj)
  | @request i listener sock mid ch message hBound hRequest
      hAllocates hFresh =>
      by_cases hji : j = i
      · subst hji
        simp [hFresh.type_eq]
      · rw [setSlot_channels_ne hji]
        by_cases hOld : j < table.channelsAlloc
        · rw [hAllocates.others j hOld hji]
          exact hNone j hOld
        · intro hType
          apply hAllocates.unused j (by omega)
            (by simpa using hj) hji
          simp [Channel.InUse, hType]

/-
  A slot that the loop does not read from stays readable, or
  it is freed.
-/
theorem LocalStep.mayRead
    (hStep : LocalStep conf allowed table table')
    (hNone : NoX11 table)
    (hNot : ∀ ch, ¬ allowed j ch)
    (hRead : MayRead table j) :
    MayRead table' j := by
  have hGrows := hStep.grows
  rcases hRead with ⟨hj, hRead⟩
  refine ⟨by omega, ?_⟩
  cases hStep with
  | @act i es ch hBound hUse hAction =>
      intro hType
      by_cases hji : j = i
      · subst hji
        rcases @closeSlot_channels_self table j ch es with
          hSelf | hFree
        · rw [hSelf]
          have hOld := hAction.type_eq.resolve_right
            (hNone j hBound)
          have hOpen := hRead hOld
          cases hAction with
          | read data hType' hAllowed =>
              exact absurd hAllowed (hNot _)
          | closeInput hType' hAllowed hNew =>
              exact absurd hAllowed (hNot _)
          | write len hType' hLen => exact hOpen
          | closeOutput hType' hNew => exact hOpen
          | sendData len hType' hData hLen => exact hOpen
          | sendIeof hType' hDrained hClosed hNew =>
              exact hOpen
          | acceptX11 auth output hX11 hSaved hCheck hNew =>
              exact absurd hX11 (hNone j hBound)
          | rejectX11 auth hX11 hSaved hCheck hNew =>
              exact absurd hX11 (hNone j hBound)
        · rw [hFree] at hType
          cases hType
      · rw [closeSlot_channels_ne hji] at hType ⊢
        exact hRead hType
  | @request i listener sock mid ch message hBound hRequest
      hAllocates hFresh =>
      intro hType
      by_cases hji : j = i
      · subst hji
        simp [hFresh.type_eq] at hType
      · rw [setSlot_channels_ne hji,
          hAllocates.others j hj hji] at hType ⊢
        exact hRead hType

theorem LocalSteps.noX11
    (hSteps : LocalSteps conf allowed table table')
    (hNone : NoX11 table) :
    NoX11 table' := by
  induction hSteps with
  | refl => exact hNone
  | tail _ hStep ih => exact hStep.noX11 ih

/- A slot that may be read stays so. -/
theorem LocalSteps.mayRead
    (hSteps : LocalSteps conf allowed table table')
    (hNone : NoX11 table)
    (hNot : ∀ ch, ¬ allowed j ch)
    (hRead : MayRead table j) :
    MayRead table' j := by
  induction hSteps with
  | refl => exact hRead
  | tail hSteps hStep ih =>
      exact hStep.mayRead (LocalSteps.noX11 hSteps hNone) hNot
        ih

/- More may be allowed. -/
theorem LocalSteps.mono
    {allowed' : Nat → Channel → Prop}
    (hSteps : LocalSteps conf allowed table table')
    (hMore : ∀ i ch, allowed i ch → allowed' i ch) :
    LocalSteps conf allowed' table table' := by
  induction hSteps with
  | refl => exact .refl
  | tail _ hStep ih =>
      refine ih.tail ?_
      cases hStep with
      | act i hBound hUse hAction =>
          refine .act i hBound hUse ?_
          cases hAction with
          | read data hType hAllowed =>
              exact .read data hType (hMore _ _ hAllowed)
          | closeInput hType hAllowed hNew =>
              exact .closeInput hType (hMore _ _ hAllowed) hNew
          | write len hType hLen => exact .write len hType hLen
          | closeOutput hType hNew =>
              exact .closeOutput hType hNew
          | sendData len hType hData hLen =>
              exact .sendData len hType hData hLen
          | sendIeof hType hDrained hClosed hNew =>
              exact .sendIeof hType hDrained hClosed hNew
          | acceptX11 auth output hType hSaved hCheck hNew =>
              exact .acceptX11 auth output hType hSaved hCheck
                hNew
          | rejectX11 auth hType hSaved hCheck hNew =>
              exact .rejectX11 auth hType hSaved hCheck hNew
      | request i listener hBound hRequest hAllocates hFresh =>
          exact .request i listener hBound hRequest hAllocates
            hFresh

/- Reading is allowed only while the input is open. -/
abbrev openSlots : Nat → Channel → Prop :=
  fun _ ch => inputOpen ch

/- After a select that was prepared, only open inputs are read. -/
theorem run_afterSlot_loops
    (io : Nat → SlotIo)
    (slots : List Nat)
    (hNodup : slots.Nodup)
    (hInv : TableInv conf table)
    (hNone : NoX11 table)
    (hSlots : ∀ i ∈ slots, i < table.channelsAlloc)
    (hRead :
      ∀ i ∈ slots, (io i).readable = true →
        MayRead table i) :
    Loops bad conf openSlots table
      (FallibleRun.run (afterSlot conf io) table slots) := by
  induction slots generalizing table with
  | nil => exact Relation.ReflTransGen.refl
  | cons i slots ih =>
      rw [List.nodup_cons] at hNodup
      have hTurn :
          Loops bad conf (fun j ch => j = i ∧ inputOpen ch)
            table (afterSlot conf io table i) := by
        apply afterSlot_loops hInv io (hSlots i (by simp))
        intro hReadable hType
        exact ⟨rfl, (hRead i (by simp) hReadable).2 hType⟩
      refine FallibleRun.Ensures.bind hTurn ?_
      intro mid hSteps
      have hGrows := LocalSteps.grows hSteps
      have hRest :
          Loops bad conf openSlots mid
            (FallibleRun.run (afterSlot conf io) mid
              slots) := by
        apply ih hNodup.2 (LocalSteps.inv hSteps hInv)
          (LocalSteps.noX11 hSteps hNone)
        · intro j hj
          have hOld := hSlots j (by simp [hj])
          omega
        · intro j hj hReadable
          refine LocalSteps.mayRead hSteps hNone ?_
            (hRead j (by simp [hj]) hReadable)
          rintro ch ⟨rfl, -⟩
          exact hNodup.1 hj
      refine hRest.mono ?_
      intro table' hMore
      exact (LocalSteps.mono hSteps fun _ _ hOpen =>
        hOpen.2).trans hMore

/- What a select is prepared with may be read. -/
theorem run_prepareSlot_loops
    (slots : List Nat)
    {sets : FdSets}
    (hInv : TableInv conf table)
    (hNone : NoX11 table)
    (hSlots : ∀ i ∈ slots, i < table.channelsAlloc)
    (hRead :
      ∀ i, sets.readset i = true → MayRead table i) :
    FallibleRun.Ensures bad
      (FallibleRun.run (prepareSlot conf) (table, sets) slots)
      fun result =>
        LocalSteps conf (fun _ _ => False) table result.1 ∧
          ∀ i, result.2.readset i = true →
            MayRead result.1 i := by
  induction slots generalizing table sets with
  | nil => exact ⟨.refl, hRead⟩
  | cons i slots ih =>
      have hBound := hSlots i (by simp)
      have hTurn :=
        @prepareSlot_loops conf bad (fun _ _ => False) table i
          hInv hBound sets
      refine FallibleRun.Ensures.bind hTurn ?_
      rintro ⟨mid, sets'⟩ ⟨hSteps, hReads⟩
      have hGrows :
          table.channelsAlloc ≤ mid.channelsAlloc :=
        LocalSteps.grows hSteps
      refine (ih (LocalSteps.inv hSteps hInv)
        (LocalSteps.noX11 hSteps hNone) ?_ ?_).mono ?_
      · intro j hj
        have hOld := hSlots j (by simp [hj])
        simp only
        omega
      · intro j hSet
        refine LocalSteps.mayRead hSteps hNone
          (fun _ hFalse => hFalse) ?_
        rcases hReads j hSet with hOld | ⟨rfl, hOpen⟩
        · exact hRead j hOld
        · exact ⟨hBound, hOpen⟩
      · intro result hResult
        exact ⟨hSteps.trans hResult.1, hResult.2⟩

end Ssh1
