import Ssh1.Channels.Phases

/-
  One party does something to one slot.

  What the party sends goes to the end of the link, and the
  channel of the slot goes to another phase. The other
  channels stay as they are.

  Main declarations:
    * `Endpoint.Ok.put`, `Endpoint.Ok.enter`
    * `frames_install`
    * `NetworkInv.Others.put`
    * `NetworkInv.act`
-/

------------------------------------------------------------
-- Endpoints Stay Sound
------------------------------------------------------------

namespace Ssh1

variable {conf : ChannelConf}
variable {e : Endpoint}
variable {label l : Label}
variable {free : Bool}
variable {i : Nat}
variable {ch : Channel}
variable {es : List ChannelEffect}

/- What a slot sends is counted for its label. -/
theorem tally_slotEntries_self :
    tally label (slotEntries (some label) free es) =
      sentCount label (sentMessages es) := by
  funext counter
  unfold slotEntries sentCount
  rw [tally_append]
  cases free <;> simp [tally, HistoryEntry.counts]

/- It is not counted for another. -/
theorem tally_slotEntries_ne
    {entered : Option Label}
    (hl : entered ≠ some l) :
    tally l (slotEntries entered free es) = fun _ => 0 := by
  apply tally_eq_zero
  intro entry hMem counter
  simp only [slotEntries, List.mem_append,
    List.mem_map] at hMem
  rcases hMem with ⟨m, -, rfl⟩ | hFreed
  · exact counts_sent_ne hl m counter
  · cases free with
    | false => simp at hFreed
    | true =>
        simp only [if_true, List.mem_singleton] at hFreed
        rw [hFreed]
        exact counts_freed _ counter

/- The messages of a slot free nothing. -/
theorem FreedLast.sent
    {history : List HistoryEntry}
    (hFreed : FreedLast history)
    (entered : Option Label)
    (messages : List ChannelMessage) :
    FreedLast (history ++ messages.map (.sent entered)) := by
  apply hFreed.append
  intro entry hMem l hEntry
  rw [hEntry] at hMem
  simp at hMem

/-
  A change of a slot keeps the endpoint sound if the slot is
  freed only at the end.
-/
theorem Endpoint.Ok.put
    (hOk : e.Ok conf)
    (hHolds : e.Holds label i)
    (hType : ch.type = .opening ∨ ch.type = .opened)
    (hTable : TableInv conf (putSlot free i ch es e.table))
    (hLast :
      free = true →
        0 < tally label (e.put free i ch es).history .opened →
        ∀ counter,
          tally label (e.put free i ch es).history counter =
            1) :
    (e.put free i ch es).Ok conf := by
  refine ⟨hTable, ?_, put_distinct hHolds hType hOk.distinct,
    ?_⟩
  · intro j hj hUse
    by_cases hji : j = i
    · subst hji
      right
      cases free with
      | false =>
          exact ⟨label, (put_holds_iff hHolds hType).mpr
            ⟨hHolds, by simp⟩⟩
      | true =>
          simp [Endpoint.put, putSlot,
            releaseSlot_setSlot_channels_self,
            Channel.InUse] at hUse
    · have hSame :
          (e.put free i ch es).table.channels j =
            e.table.channels j :=
        putSlot_channels_ne hji
      rw [hSame] at hUse ⊢
      rcases hOk.kinds j (by simpa [Endpoint.put] using hj)
          hUse with hListener | ⟨l, hOther⟩
      · exact .inl hListener
      · exact .inr ⟨l, (put_holds_iff hHolds hType).mpr
          ⟨hOther, by simp [hji]⟩⟩
  · have hSent := hOk.freed.sent (e.labels i) (sentMessages es)
    cases hFree : free with
    | false =>
        simpa [Endpoint.put, slotEntries] using hSent
    | true =>
        have hLast := hLast hFree
        simp only [Endpoint.put, slotEntries, hFree,
          if_true] at hLast ⊢
        rw [← List.append_assoc] at hLast ⊢
        apply hSent.snoc
        intro l hEntry hOpened
        rw [hHolds.2.2] at hEntry
        cases hEntry
        rw [tally_append] at hLast
        have hNone :
            tally label [.freed (e.labels i)] = fun _ => 0 := by
          apply tally_eq_zero
          intro entry hMem counter
          rw [List.mem_singleton.mp hMem]
          exact counts_freed _ counter
        rw [hNone] at hLast
        exact hLast hOpened

/- So does an allocation for a listener or a channel. -/
theorem Endpoint.Ok.enter
    {type : ChannelType}
    {sock : Int}
    {mid : ChannelTable}
    {entered : Option Label}
    {asked : Nat}
    (hOk : e.Ok conf)
    (hAllocates :
      ChannelTable.Allocates type sock e.table i mid)
    (hTable : TableInv conf (setSlot i ch es mid))
    (hKind :
      ch.type = .portListener ∨
        (ch.type = .opening ∨ ch.type = .opened) ∧
          ∃ l, entered = some l)
    (hNew : ∀ l, entered = some l → e.slotOf l = none) :
    (e.enter entered asked i es
      (setSlot i ch es mid)).Ok conf := by
  refine ⟨hTable, ?_,
    enter_distinct hAllocates hNew hOk.distinct, ?_⟩
  · intro j hj hUse
    simp only [enter_holds_iff hAllocates]
    by_cases hji : j = i
    · subst hji
      rcases hKind with hListener | ⟨hType, l, hLabel⟩
      · exact .inl (by simpa [Endpoint.enter] using hListener)
      · exact .inr ⟨l, .inl ⟨rfl, hLabel, hType⟩⟩
    · have hSame :
          (e.enter entered asked i es
              (setSlot i ch es mid)).table.channels j =
            mid.channels j := by
        simp [Endpoint.enter, hji]
      rw [hSame] at hUse ⊢
      have hOld : j < e.table.channelsAlloc := by
        by_contra hLater
        exact hAllocates.unused j (by omega) hj hji hUse
      rw [hAllocates.others j hOld hji] at hUse ⊢
      rcases hOk.kinds j hOld hUse with
        hListener | ⟨l, hOther⟩
      · exact .inl hListener
      · exact .inr ⟨l, .inr hOther⟩
  · simpa [Endpoint.enter, slotEntries] using
      hOk.freed.sent entered (sentMessages es)

end Ssh1

------------------------------------------------------------
-- Sending on the Link
------------------------------------------------------------

namespace Ssh1

namespace Network

/- A party has another endpoint and puts messages on a link. -/
def install
    (p : Party)
    (e : Endpoint)
    (outbox : List Envelope)
    (net : Network) : Network where
  endpoint := Function.update net.endpoint p e
  link :=
    Function.update net.link p.other
      (net.link p.other ++ outbox)

variable {net : Network}
variable {p : Party}
variable {e : Endpoint}
variable {outbox : List Envelope}
variable {label l : Label}

/- A party's step is the new endpoint and what it sends. -/
theorem advance_eq
    {incoming : Option Label}
    {table : ChannelTable}
    (hFollow :
      (net.endpoint p).follow p incoming table =
        (e, outbox)) :
    net.advance p incoming table = net.install p e outbox := by
  simp only [advance, hFollow]
  rfl

@[simp] theorem install_endpoint_self :
    (net.install p e outbox).endpoint p = e := by
  simp [install]

@[simp] theorem install_endpoint_other :
    (net.install p e outbox).endpoint p.other =
      net.endpoint p.other := by
  simp [install]

@[simp] theorem install_link_self :
    (net.install p e outbox).link p = net.link p := by
  have hNe : p ≠ p.other := (Party.other_ne p).symm
  simp [install, hNe]

/- What is sent joins the other party's link. -/
@[simp] theorem install_link_other :
    (net.install p e outbox).link p.other =
      net.link p.other ++ outbox := by
  simp [install]

/- There are two parties. -/
theorem forall_party_iff
    {P : Party → Prop}
    (p : Party) :
    (∀ q, P q) ↔ P p ∧ P p.other := by
  constructor
  · exact fun hAll => ⟨hAll p, hAll p.other⟩
  · rintro ⟨hSelf, hOther⟩ q
    cases p <;> cases q <;> assumption

/- The party's own half of the channel is the new one. -/
theorem half_install_self :
    (net.install p e outbox).half p label =
      ⟨e.slotOf label, tally label e.history⟩ := by
  simp [half]

/- The other half stays. -/
theorem half_install_other :
    (net.install p e outbox).half p.other label =
      net.half p.other label := by
  simp [half]

theorem through_install_self :
    (net.install p e outbox).through p label =
      net.through p label := by
  simp [through]

/- Its messages on the channel join what is on the way. -/
theorem through_install_other :
    (net.install p e outbox).through p.other label =
      net.through p.other label ++
        outbox.filterMap fun envelope =>
          if envelope.label = some label then
            some envelope.message
          else
            none := by
  simp [through]

theorem filterMap_envelopes_self
    (es : List ChannelEffect) :
    ((envelopes (some label) es).filterMap fun envelope =>
        if envelope.label = some label then
          some envelope.message
        else
          none) = sentMessages es := by
  simp [envelopes, List.filterMap_map]

theorem filterMap_envelopes_ne
    {entered : Option Label}
    (hl : entered ≠ some l)
    (es : List ChannelEffect) :
    ((envelopes entered es).filterMap fun envelope =>
        if envelope.label = some l then
          some envelope.message
        else
          none) = [] := by
  simp [envelopes, hl]

/- Another channel does not notice what is installed. -/
theorem frames_install
    (hSlot : e.slotOf l = (net.endpoint p).slotOf l)
    (hCount :
      tally l e.history = tally l (net.endpoint p).history)
    (hOutbox :
      (outbox.filterMap fun envelope =>
        if envelope.label = some l then
          some envelope.message
        else
          none) = []) :
    Frames l net (net.install p e outbox) := by
  unfold Frames
  rw [forall_party_iff p]
  refine ⟨⟨?_, through_install_self⟩, half_install_other, ?_⟩
  · rw [half_install_self, hSlot, hCount]
    rfl
  · rw [through_install_other, hOutbox, List.append_nil]

/- The links stay labelled. -/
theorem labelled_install
    (hLabelled :
      ∀ p, ∀ envelope ∈ net.link p,
        ∃ label, envelope.label = some label)
    (p : Party)
    (label : Label)
    (es : List ChannelEffect) :
    ∀ q, ∀ envelope ∈
        (net.install p e (envelopes (some label) es)).link q,
      ∃ label, envelope.label = some label := by
  rw [forall_party_iff p, install_link_self,
    install_link_other]
  refine ⟨hLabelled p, ?_⟩
  intro envelope hMem
  rcases List.mem_append.mp hMem with hOld | hNew
  · exact hLabelled p.other envelope hOld
  · rcases List.mem_map.mp hNew with ⟨m, -, rfl⟩
    exact ⟨label, rfl⟩

/- What the parties know of the initiator and its peer. -/
theorem initiator_eq_or
    (p : Party)
    (label : Label) :
    label.initiator = p ∨ label.initiator = p.other := by
  cases p <;> cases label.initiator <;> simp [Party.other]

end Network

end Ssh1

------------------------------------------------------------
-- Changes of One Slot
------------------------------------------------------------

namespace Ssh1

variable {conf : Party → ChannelConf}
variable {net : Network}
variable {label : Label}
variable {p : Party}
variable {incoming : Option Label}
variable {free : Bool}
variable {i : Nat}
variable {ch : Channel}
variable {es : List ChannelEffect}

/- A change of a slot, seen from its channel. -/
theorem Network.advance_put
    (hOk : (net.endpoint p).Ok (conf p))
    (hHolds : (net.endpoint p).Holds label i)
    (hType : ch.type = .opening ∨ ch.type = .opened)
    (hSlot : OnSlot i es) :
    net.advance p incoming
        (putSlot free i ch es (net.endpoint p).table) =
      net.install p ((net.endpoint p).put free i ch es)
        (envelopes (some label) es) ∧
    (net.install p ((net.endpoint p).put free i ch es)
        (envelopes (some label) es)).half p label =
      (net.half p label).put free i ch
        (sentCount label (sentMessages es)) ∧
    (net.install p ((net.endpoint p).put free i ch es)
        (envelopes (some label) es)).through p.other label =
      net.through p.other label ++ sentMessages es ∧
    ∀ l, l ≠ label →
      Network.Frames l net
        (net.install p ((net.endpoint p).put free i ch es)
          (envelopes (some label) es)) := by
  have hLabel := hHolds.2.2
  refine ⟨?_, ?_, ?_, ?_⟩
  · apply Network.advance_eq
    rw [Endpoint.follow_put hSlot, hLabel]
  · rw [Network.half_install_self,
      Endpoint.put_slotOf_self hHolds hType hOk.distinct]
    simp only [Endpoint.put, hLabel, tally_append,
      tally_slotEntries_self, Half.put, Network.half]
  · rw [Network.through_install_other,
      Network.filterMap_envelopes_self]
  · intro l hl
    have hNe : some label ≠ some l := by
      simpa using Ne.symm hl
    apply Network.frames_install
    · exact Endpoint.put_slotOf_ne hHolds hType hOk.distinct hl
    · simp only [Endpoint.put, hLabel]
      rw [tally_append, tally_slotEntries_ne hNe]
      simp
    · exact Network.filterMap_envelopes_ne hNe es

/- What is known of a slot that is held. -/
theorem Network.half_slot
    (hOk : (net.endpoint p).Ok (conf p))
    (hHolds : (net.endpoint p).Holds label i) :
    (net.half p label).slot =
      some (i, (net.endpoint p).table.channels i) := by
  rw [Network.half]
  exact (Endpoint.slotOf_eq_some_iff hOk.distinct).mpr
    ⟨hHolds, rfl⟩

/- A channel with a slot is not untouched. -/
theorem Network.not_untouched
    (hOk : (net.endpoint p).Ok (conf p))
    (hHolds : (net.endpoint p).Holds label i) :
    ¬ net.Untouched label := by
  intro hUntouched
  have hNone := (hUntouched p).1.slot_eq
  rw [half_slot hOk hHolds] at hNone
  cases hNone

end Ssh1

------------------------------------------------------------
-- The End of a Channel
------------------------------------------------------------

namespace Ssh1

variable {conf : Party → ChannelConf}
variable {net : Network}
variable {label : Label}
variable {p : Party}
variable {free : Bool}
variable {i : Nat}
variable {ch : Channel}
variable {es : List ChannelEffect}

/- An open half without a slot has everything behind it. -/
theorem Half.Open.count_eq_one
    {c d : Nat}
    {said heard : HalfClose.Said}
    {h : Half}
    (hOpen : h.Open c d said heard)
    (hSlot : h.slot = none)
    (counter : Counter) :
    h.count counter = 1 := by
  rcases hOpen.slot_eq with ⟨-, rfl, rfl⟩ | ⟨ch, hSome, -⟩
  · rw [hOpen.count_eq]
    cases counter <;> rfl
  · rw [hSlot] at hSome
    cases hSome

/-
  At every phase a party that had an open channel and has no
  slot for it any more has counted everything once.
-/
theorem Phase.count_eq_one
    {x y : Half}
    {toX toY : List ChannelMessage}
    (hPhase : Phase x y toX toY) :
    (x.slot = none → 0 < x.count .opened →
      ∀ counter, x.count counter = 1) ∧
    (y.slot = none → 0 < y.count .opened →
      ∀ counter, y.count counter = 1) := by
  have hBlank :
      ∀ h : Half, h.Blank → h.slot = none →
        0 < h.count .opened →
        ∀ counter, h.count counter = 1 := by
    intro h hBlank _ hOpened
    simp [hBlank.count_eq] at hOpened
  have hWaiting :
      ∀ (h : Half) c, h.Waiting c → h.slot = none →
        0 < h.count .opened →
        ∀ counter, h.count counter = 1 := by
    intro h c hWaiting _ hOpened
    simp [hWaiting.count_eq] at hOpened
  cases hPhase with
  | unused hx hy => exact ⟨hBlank _ hx, hBlank _ hy⟩
  | requested c body hx hy =>
      exact ⟨hWaiting _ c hx, hBlank _ hy⟩
  | refused c hx hy => exact ⟨hWaiting _ c hx, hBlank _ hy⟩
  | confirmed c d said heard hx hy hToX hToY =>
      exact ⟨hWaiting _ c hx, fun hSlot _ =>
        hy.count_eq_one hSlot⟩
  | joined c d saidX heardX saidY heardY hx hy hToX hToY =>
      exact ⟨fun hSlot _ => hx.count_eq_one hSlot,
        fun hSlot _ => hy.count_eq_one hSlot⟩

/- A channel that is gone has had each of its events once. -/
theorem Network.InPhase.count_eq_one
    (hPhase : net.InPhase label)
    (p : Party)
    (hSlot : (net.half p label).slot = none)
    (hOpened : 0 < (net.half p label).count .opened)
    (counter : Counter) :
    (net.half p label).count counter = 1 := by
  have hCounts := Phase.count_eq_one hPhase
  rcases initiator_eq_or p label with hRole | hRole
  · rw [hRole] at hCounts
    exact hCounts.1 hSlot hOpened counter
  · rw [hRole, Party.other_other] at hCounts
    exact hCounts.2 hSlot hOpened counter

/- A change of a slot that leads to a phase is sound. -/
theorem NetworkInv.Others.put
    (hInv : NetworkInv.Others conf label net)
    (hNumber :
      label.number < (net.endpoint label.initiator).asked)
    (hHolds : (net.endpoint p).Holds label i)
    (hType : ch.type = .opening ∨ ch.type = .opened)
    (hSlot : OnSlot i es)
    (hTable :
      TableInv (conf p)
        (putSlot free i ch es (net.endpoint p).table))
    (hPhase :
      (net.install p ((net.endpoint p).put free i ch es)
        (envelopes (some label) es)).InPhase label) :
    NetworkInv conf
      (net.install p ((net.endpoint p).put free i ch es)
        (envelopes (some label) es)) := by
  have hOk := hInv.ok p
  have hHalf :
      (net.install p ((net.endpoint p).put free i ch es)
        (envelopes (some label) es)).half p label =
        ⟨((net.endpoint p).put free i ch es).slotOf label,
          tally label
            ((net.endpoint p).put free i ch es).history⟩ :=
    Network.half_install_self
  rcases @Network.advance_put conf net label p none free i ch
      es hOk hHolds hType hSlot with
    ⟨-, -, -, hFrames⟩
  have hAsked :
      ∀ q, (net.endpoint q).asked ≤
        ((net.install p ((net.endpoint p).put free i ch es)
          (envelopes (some label) es)).endpoint q).asked := by
    rw [Network.forall_party_iff p,
      Network.install_endpoint_self,
      Network.install_endpoint_other]
    exact ⟨le_rfl, le_rfl⟩
  refine (hInv.of_frames ?_
    (Network.labelled_install hInv.labelled p label es)
    hAsked hFrames).inv
    (hNumber.trans_le (hAsked label.initiator)) hPhase
  rw [Network.forall_party_iff p,
    Network.install_endpoint_self,
    Network.install_endpoint_other]
  refine ⟨hOk.put hHolds hType hTable ?_, hInv.ok p.other⟩
  intro hFree hOpened counter
  have hCount := hPhase.count_eq_one p
  rw [hHalf] at hCount
  apply hCount
  · rw [Endpoint.put_slotOf_self hHolds hType hOk.distinct,
      if_pos hFree]
  · exact hOpened

end Ssh1

------------------------------------------------------------
-- Steps of the Loop
------------------------------------------------------------

namespace Ssh1

variable {conf : Party → ChannelConf}
variable {net : Network}
variable {label : Label}
variable {p : Party}
variable {allowed : Nat → Channel → Prop}

/- No party has a connection that waits for an X11 packet. -/
theorem Endpoint.Ok.holds_of_opened
    {conf : ChannelConf}
    {e : Endpoint}
    {i : Nat}
    (hOk : e.Ok conf)
    (hBound : i < e.table.channelsAlloc)
    (hUse : (e.table.channels i).InUse)
    (hType : (e.table.channels i).type ≠ .portListener) :
    ∃ label, e.Holds label i := by
  rcases hOk.kinds i hBound hUse with hListener | hHolds
  · exact absurd hListener hType
  · exact hHolds

/- Only open channels are worked on by the loop. -/
theorem LocalAction.type_eq
    {conf : ChannelConf}
    {allowed : Channel → Prop}
    {i : Nat}
    {ch ch' : Channel}
    {es : List ChannelEffect}
    (hAction : LocalAction conf allowed i ch es ch') :
    ch.type = .opened ∨ ch.type = .x11Open := by
  cases hAction <;> simp_all

/- A local action leaves the channel open. -/
theorem LocalAction.opened
    {conf : ChannelConf}
    {allowed : Channel → Prop}
    {i : Nat}
    {ch ch' : Channel}
    {es : List ChannelEffect}
    (hAction : LocalAction conf allowed i ch es ch')
    (hType : ch.type = .opened) :
    ch'.type = .opened := by
  cases hAction <;> simp_all

/- An action on a slot speaks for the channel in it. -/
theorem NetworkInv.act
    {i : Nat}
    {ch : Channel}
    {es : List ChannelEffect}
    (hInv : NetworkInv conf net)
    (hBound : i < (net.endpoint p).table.channelsAlloc)
    (hUse : ((net.endpoint p).table.channels i).InUse)
    (hAction :
      LocalAction (conf p) (allowed i) i
        ((net.endpoint p).table.channels i) es ch)
    (hAllowed : ∀ ch, allowed i ch → inputOpen ch) :
    NetworkInv conf
      (net.advance p none
        (closeSlot i ch es (net.endpoint p).table)) := by
  have hOk := hInv.ok p
  have hWell := hOk.table.wellFormed i hBound hUse
  have hKind := hAction.type_eq
  have hSteps :
      LocalStep (conf p) allowed (net.endpoint p).table
        (closeSlot i ch es (net.endpoint p).table) :=
    .act i hBound hUse hAction
  have hTable := hSteps.inv hOk.table
  have hListener :
      ((net.endpoint p).table.channels i).type ≠
        .portListener := by
    rcases hKind with hKind | hKind <;> simp [hKind]
  rcases hOk.holds_of_opened hBound hUse hListener with
    ⟨label, hHolds⟩
  have hType :
      ((net.endpoint p).table.channels i).type = .opened := by
    rcases hKind with hKind | hKind
    · exact hKind
    · have hOther := hHolds.2.1
      simp [hKind] at hOther
  have hSpeaks :
      ∀ d, ((net.endpoint p).table.channels i).IsOpen d →
        Speaks d ((net.endpoint p).table.channels i)
          (sentMessages es) ch :=
    fun d hOpen => hAction.speaks hOpen hWell (hAllowed _)
  have hOpened : ch.type = .opening ∨ ch.type = .opened :=
    .inr (hAction.opened hType)
  rcases Network.advance_put hOk hHolds hOpened
      hAction.onSlot with
    ⟨hNet, hHalf, hThrough, -⟩
  have hEq := closeSlot_eq_putSlot i ch es
    (net.endpoint p).table
  rw [hEq] at hTable ⊢
  rw [hNet]
  apply (hInv.others label).put
    (hInv.number_lt (Network.not_untouched hOk hHolds)) hHolds
    hOpened hAction.onSlot hTable
  have hSlot := Network.half_slot hOk hHolds
  have hPhase := hInv.phases label
  unfold Network.InPhase at hPhase ⊢
  rcases Network.initiator_eq_or p label with hRole | hRole
  · rw [hRole] at hPhase ⊢
    rw [hHalf, hThrough, Network.half_install_other,
      Network.through_install_self]
    exact hPhase.speak_initiator hSlot hType hSpeaks
  · rw [hRole, Party.other_other] at hPhase ⊢
    rw [hHalf, hThrough, Network.half_install_other,
      Network.through_install_self]
    exact hPhase.speak_responder hSlot hSpeaks

end Ssh1
