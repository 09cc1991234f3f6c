import Ssh1.Channels.Deliveries

/-
  The close handshake of two honest parties.

  Every step of a party takes each channel from one phase to
  another, so the phases hold in every run, and each closing
  message is sent and received at most once.

  Main declarations:
    * `Network.Selects`
    * `Network.step_inv`
    * `NetworkInv.handshake`
    * `closeHandshake`
-/

------------------------------------------------------------
-- Every Step
------------------------------------------------------------

namespace Ssh1

variable {conf : Party → ChannelConf}
variable {net : Network}
variable {p : Party}
variable {incoming : Option Label}
variable {table : ChannelTable}

/- The masks of a select are of slots that may be read. -/
def Network.Selects (net : Network) : Prop :=
  ∀ p sets, (net.endpoint p).selecting = some sets →
    ∀ i, sets.readset i = true →
      MayRead (net.endpoint p).table i

theorem Endpoint.follow_selecting
    (e : Endpoint) :
    (e.follow p incoming table).1.selecting = e.selecting := by
  have hFold :
      ∀ (es : List ChannelEffect)
        (state : Endpoint × List Envelope),
        (es.foldl (note p incoming) state).1.selecting =
          state.1.selecting := by
    intro es
    induction es with
    | nil => intro state; rfl
    | cons effect es ih =>
        intro state
        rw [List.foldl_cons, ih]
        cases effect with
        | allocated i type => cases type <;> rfl
        | freed i => rfl
        | sent i message => cases i <;> rfl
        | received i data => rfl
        | wrote i data => rfl
  exact hFold _ _

@[simp] theorem Network.advance_table :
    ((net.advance p incoming table).endpoint p).table =
      table := by
  simp only [Network.advance, Function.update_self]
  exact Endpoint.follow_table _ _

@[simp] theorem Network.advance_selecting :
    ((net.advance p incoming table).endpoint p).selecting =
      (net.endpoint p).selecting := by
  simp only [Network.advance, Function.update_self]
  exact Endpoint.follow_selecting _

@[simp] theorem Network.advance_endpoint_other :
    (net.advance p incoming table).endpoint p.other =
      net.endpoint p.other := by
  simp [Network.advance]

/- A party that is not in a select stays out of it. -/
theorem Network.Selects.advance
    (hSelects : net.Selects)
    (hNone : (net.endpoint p).selecting = none) :
    (net.advance p incoming table).Selects := by
  unfold Network.Selects
  rw [Network.forall_party_iff p]
  constructor
  · intro sets hSome
    rw [Network.advance_selecting, hNone] at hSome
    cases hSome
  · rw [Network.advance_endpoint_other]
    exact hSelects p.other

/- The masks have no part in the invariant. -/
theorem NetworkInv.select
    (hInv : NetworkInv conf net)
    (selecting : Option FdSets) :
    NetworkInv conf (net.select p selecting) := by
  have hOther : p ≠ p.other := (Party.other_ne p).symm
  have hHalf :
      ∀ q label,
        (net.select p selecting).half q label =
          net.half q label := by
    intro q label
    by_cases hq : q = p
    · subst hq
      simp [Network.half, Network.select,
        Network.setEndpoint]
      rfl
    · simp [Network.half, Network.select,
        Network.setEndpoint, hq]
  have hAsked :
      ∀ q, ((net.select p selecting).endpoint q).asked =
        (net.endpoint q).asked := by
    intro q
    by_cases hq : q = p
    · subst hq
      simp [Network.select, Network.setEndpoint]
    · simp [Network.select, Network.setEndpoint, hq]
  have hFrames :
      ∀ label, Network.Frames label net
        (net.select p selecting) :=
    fun label q => ⟨hHalf q label, rfl⟩
  refine hInv.of_frames_all ?_ hInv.labelled ?_ hFrames
  · rw [Network.forall_party_iff p]
    constructor
    · have hOk := hInv.ok p
      simp only [Network.select, Network.setEndpoint,
        Function.update_self]
      exact ⟨hOk.table, hOk.kinds, hOk.distinct, hOk.freed⟩
    · simp only [Network.select, Network.setEndpoint, ne_eq,
        Party.other_ne, not_false_eq_true,
        Function.update_of_ne]
      exact hInv.ok p.other
  · exact fun q => (hAsked q).ge

/- Beginning or ending a select. -/
theorem Network.Selects.select
    {selecting : Option FdSets}
    (hSelects : net.Selects)
    (hRead :
      ∀ sets, selecting = some sets →
        ∀ i, sets.readset i = true → MayRead table i) :
    ((net.advance p incoming table).select p
      selecting).Selects := by
  unfold Network.Selects
  rw [Network.forall_party_iff p]
  constructor
  · simp only [Network.select, Network.setEndpoint,
      Function.update_self, Network.advance_table]
    exact hRead
  · simp only [Network.select, Network.setEndpoint, ne_eq,
      Party.other_ne, not_false_eq_true, Function.update_of_ne,
      Network.advance_endpoint_other]
    exact hSelects p.other

theorem Endpoint.Ok.noX11
    {conf : ChannelConf}
    {e : Endpoint}
    (hOk : e.Ok conf) :
    NoX11 e.table := by
  intro i hBound hType
  have hUse : (e.table.channels i).InUse := by
    simp [Channel.InUse, hType]
  rcases hOk.kinds i hBound hUse with
    hListener | ⟨label, hHolds⟩
  · rw [hType] at hListener
    cases hListener
  · have hOther := hHolds.2.1
    rw [hType] at hOther
    rcases hOther with hOther | hOther <;> cases hOther

/- A new listener is no channel. -/
theorem NetworkInv.listen
    (hInv : NetworkInv conf net)
    (port : Int)
    (host : List UInt8)
    (hostPort sock : Int) :
    FallibleRun.Ensures Halt.Unfair
      (channelRequestLocalForwarding port host hostPort
        (.ok sock) (net.endpoint p).table)
      fun table => NetworkInv conf (net.advance p none table) := by
  have hOk := hInv.ok p
  have hMoves :
      Moves (conf p) anySlot (net.endpoint p).table
        (channelRequestLocalForwarding port host hostPort
          (.ok sock) (net.endpoint p).table) :=
    channelRequestLocalForwarding_moves hOk.table _ _ _ _
  unfold channelRequestLocalForwarding at hMoves ⊢
  split
  · apply not_unfair_of_not (not_breaksTable_disconnect _)
    apply not_blamesPeer_disconnect
    simp
  · next hShort =>
      rw [if_neg hShort] at hMoves
      simp only at hMoves ⊢
      rcases channelAllocate_eq_ok sock
          (by simp : ChannelType.portListener ≠ .free)
          hOk.table.counted with
        ⟨i, mid, hAllocate, hAllocates⟩
      rw [hAllocate, FallibleRun.ok_bind] at hMoves ⊢
      simp only [FallibleRun.pure_eq_ok, modify_eq_setSlot,
        FallibleRun.ensures_ok] at hMoves ⊢
      have hTable := TableSteps.inv hMoves hOk.table
      have hNew :
          ∀ l : Label, none = some l →
            (net.endpoint p).slotOf l = none := by
        intro l hl
        cases hl
      have hFollow :=
        @Endpoint.follow_enter p none i [] .portListener sock
          mid (net.endpoint p) none (net.endpoint p).asked
          hAllocates
          (fun state hSame => by
            simp [Endpoint.note, ← hSame])
          (fun effect hMem => by cases hMem)
          { mid.channels i with
            path := host, hostPort, listeningPort := port }
      rw [Network.advance_eq hFollow]
      apply hInv.of_frames_all
      · rw [Network.forall_party_iff p,
          Network.install_endpoint_self,
          Network.install_endpoint_other]
        exact ⟨hOk.enter hAllocates hTable
          (.inl hAllocates.new.type_eq) hNew,
          hInv.ok p.other⟩
      · rw [Network.forall_party_iff p,
          Network.install_link_self,
          Network.install_link_other]
        refine ⟨hInv.labelled p, ?_⟩
        simpa [envelopes, sentMessages] using
          hInv.labelled p.other
      · rw [Network.forall_party_iff p,
          Network.install_endpoint_self,
          Network.install_endpoint_other]
        exact ⟨le_rfl, le_rfl⟩
      · intro l
        exact Network.frames_enter hOk hAllocates hNew
          (by simp)

end Ssh1

------------------------------------------------------------
-- Every Run
------------------------------------------------------------

namespace Ssh1

open HalfClose

variable {conf : Party → ChannelConf}
variable {net : Network}

/- A step of a party keeps the invariants and is fair. -/
theorem Network.step_inv
    (hInv : NetworkInv conf net)
    (hSelects : net.Selects)
    (event : Party × NetworkAction) :
    FallibleRun.Ensures Halt.Unfair (net.step conf event)
      fun net' => NetworkInv conf net' ∧ net'.Selects := by
  rcases event with ⟨p, action⟩
  have hOk := hInv.ok p
  unfold Network.step
  simp only
  cases hSelecting : (net.endpoint p).selecting with
  | none =>
      cases action with
      | deliver connection =>
          simp only
          cases hLink : net.link p with
          | nil => exact ⟨hInv, hSelects⟩
          | cons envelope rest =>
              refine FallibleRun.Ensures.bind
                (hInv.deliver hLink connection) ?_
              intro table hNext
              refine ⟨hNext, Network.Selects.advance ?_ ?_⟩
              · unfold Network.Selects
                rw [Network.forall_party_iff p,
                  Network.take_endpoint_self,
                  Network.take_endpoint_other]
                exact ⟨hSelects p, hSelects p.other⟩
              · rw [Network.take_endpoint_self]
                exact hSelecting
      | prepareSelect =>
          simp only
          have hPrepare :=
            @run_prepareSlot_loops (conf p) Halt.Unfair
              (net.endpoint p).table
              (List.range (net.endpoint p).table.channelsAlloc)
              .zero hOk.table hOk.noX11
              (fun i hi => List.mem_range.mp hi)
              (fun i hi => by simp [FdSets.zero] at hi)
          refine FallibleRun.Ensures.bind hPrepare ?_
          rintro ⟨table, sets⟩ ⟨hSteps, hRead⟩
          refine ⟨NetworkInv.select (hInv.localSteps
            (fun _ _ hFalse => hFalse.elim) hSteps) _, ?_⟩
          apply Network.Selects.select hSelects
          intro sets' hSame i hSet
          cases hSame
          exact hRead i hSet
      | afterSelect io => exact ⟨hInv, hSelects⟩
      | outputPoll notVeryMuch =>
          simp only
          have hPoll :
              Loops Halt.Unfair (conf p) openSlots
                (net.endpoint p).table
                (channelOutputPoll (conf p) notVeryMuch
                  (net.endpoint p).table) :=
            channelOutputPoll_loops hOk.table notVeryMuch
          refine FallibleRun.Ensures.bind hPoll ?_
          intro table hSteps
          exact ⟨hInv.localSteps (fun _ _ hOpen => hOpen)
            hSteps, hSelects.advance hSelecting⟩
      | listenPort port host hostPort sock =>
          simp only
          refine FallibleRun.Ensures.bind
            (hInv.listen port host hostPort sock) ?_
          intro table hNext
          exact ⟨hNext, hSelects.advance hSelecting⟩
  | some sets =>
      cases action with
      | deliver connection => exact ⟨hInv, hSelects⟩
      | prepareSelect => exact ⟨hInv, hSelects⟩
      | afterSelect io =>
          simp only
          have hAfter :
              Loops Halt.Unfair (conf p) openSlots
                (net.endpoint p).table
                (channelAfterSelect (conf p) (maskedIo sets io)
                  (net.endpoint p).table) := by
            apply run_afterSlot_loops _ _ List.nodup_range
              hOk.table hOk.noX11
              (fun i hi => List.mem_range.mp hi)
            intro i hi hReadable
            simp only [maskedIo, Bool.and_eq_true] at hReadable
            exact hSelects p sets hSelecting i hReadable.2
          refine FallibleRun.Ensures.bind hAfter ?_
          intro table hSteps
          refine ⟨NetworkInv.select (hInv.localSteps
            (fun _ _ hOpen => hOpen) hSteps) _, ?_⟩
          apply Network.Selects.select hSelects
          intro sets' hSame
          cases hSame
      | outputPoll notVeryMuch => exact ⟨hInv, hSelects⟩
      | listenPort port host hostPort sock =>
          exact ⟨hInv, hSelects⟩

/- No count of a channel is above one. -/
theorem Phase.count_le_one
    {x y : Half}
    {toX toY : List ChannelMessage}
    (hPhase : Phase x y toX toY)
    (counter : Counter) :
    x.count counter ≤ 1 ∧ y.count counter ≤ 1 := by
  have hOpen :
      ∀ {h : Half} {c d said heard},
        h.Open c d said heard → h.count counter ≤ 1 := by
    intro h c d said heard hOpen
    rw [hOpen.count_eq]
    cases counter <;> simp [countsOf, Bool.toNat_le]
  cases hPhase with
  | unused hx hy => simp [hx.count_eq, hy.count_eq]
  | requested c body hx hy => simp [hx.count_eq, hy.count_eq]
  | refused c hx hy => simp [hx.count_eq, hy.count_eq]
  | confirmed c d said heard hx hy hToX hToY =>
      exact ⟨by simp [hx.count_eq], hOpen hy⟩
  | joined c d saidX heardX saidY heardY hx hy hToX hToY =>
      exact ⟨hOpen hx, hOpen hy⟩

/- Messages that are carried find an open half. -/
theorem Half.Open.slot_of_flow
    {h : Half}
    {c d : Nat}
    {said heard sent : Said}
    {queue : List ChannelMessage}
    {m : ChannelMessage}
    {channel : Int}
    (hOpen : h.Open c d said heard)
    (hFlow : Flow (Carries c) sent heard queue)
    (hMem : m ∈ queue)
    (hAddressee : m.addressee = some channel) :
    ∃ (i : Nat) (ch : Channel),
      channel = i ∧ h.slot = some (i, ch) := by
  rcases hOpen.slot_eq with ⟨-, -, rfl⟩ | ⟨ch, hSlot, -⟩
  · rw [hFlow.of_everything.1] at hMem
    cases hMem
  · rcases hFlow.carries_of_mem hMem with ⟨item, hCarries⟩
    refine ⟨c, ch, ?_, hSlot⟩
    cases hCarries <;>
      simpa [ChannelMessage.addressee] using hAddressee.symm

/- Messages on their way find the slot that they are for. -/
theorem Phase.slot_of_mem
    {x y : Half}
    {toX toY : List ChannelMessage}
    {m : ChannelMessage}
    {channel : Int}
    (hPhase : Phase x y toX toY)
    (hAddressee : m.addressee = some channel) :
    (m ∈ toX →
      ∃ (i : Nat) (ch : Channel),
        channel = i ∧ x.slot = some (i, ch)) ∧
    (m ∈ toY →
      ∃ (i : Nat) (ch : Channel),
        channel = i ∧ y.slot = some (i, ch)) := by
  cases hPhase with
  | unused hx hy => simp
  | requested c body hx hy =>
      refine ⟨by simp, ?_⟩
      intro hMem
      rw [List.mem_singleton.mp hMem] at hAddressee
      cases hAddressee
  | refused c hx hy =>
      refine ⟨?_, by simp⟩
      intro hMem
      rw [List.mem_singleton.mp hMem] at hAddressee
      cases hAddressee
      rcases hx.slot_eq with ⟨ch, hSlot, -⟩
      exact ⟨c, ch, rfl, hSlot⟩
  | confirmed c d said heard hx hy hToX hToY =>
      rcases hx.slot_eq with ⟨ch, hSlot, -⟩
      refine ⟨?_, fun hMem =>
        hy.slot_of_flow hToY hMem hAddressee⟩
      intro hMem
      rcases List.mem_cons.mp hMem with rfl | hMem
      · cases hAddressee
        exact ⟨c, ch, rfl, hSlot⟩
      · rcases hToX.carries_of_mem hMem with ⟨item, hCarries⟩
        refine ⟨c, ch, ?_, hSlot⟩
        cases hCarries <;>
          simpa [ChannelMessage.addressee] using
            hAddressee.symm
  | joined c d saidX heardX saidY heardY hx hy hToX hToY =>
      exact ⟨fun hMem => hx.slot_of_flow hToX hMem hAddressee,
        fun hMem => hy.slot_of_flow hToY hMem hAddressee⟩

/- What the invariant says of the handshake. -/
theorem NetworkInv.handshake
    (hInv : NetworkInv conf net) :
    net.Handshake where
  once := by
    intro p label
    have hCount :
        ∀ counter, (net.half p label).count counter ≤ 1 := by
      intro counter
      have hBoth :=
        Phase.count_le_one (hInv.phases label) counter
      rcases Network.initiator_eq_or p label with hRole | hRole
      · rw [hRole] at hBoth
        exact hBoth.1
      · rw [hRole, Party.other_other] at hBoth
        exact hBoth.2
    exact ⟨hCount .eofSent, hCount .closeSent⟩
  freed := fun p => (hInv.ok p).freed
  addressed := by
    intro p envelope hMem channel hAddressee
    rcases hInv.labelled p envelope hMem with ⟨label, hLabel⟩
    have hThrough :
        envelope.message ∈ net.through p label := by
      simp only [Network.through, List.mem_filterMap]
      exact ⟨envelope, hMem, by simp [hLabel]⟩
    have hSlot :
        ∃ (i : Nat) (ch : Channel),
          channel = i ∧
            (net.half p label).slot = some (i, ch) := by
      have hBoth :=
        Phase.slot_of_mem (hInv.phases label) hAddressee
      rcases Network.initiator_eq_or p label with hRole | hRole
      · rw [hRole] at hBoth
        exact hBoth.1 hThrough
      · rw [hRole, Party.other_other] at hBoth
        exact hBoth.2 hThrough
    rcases hSlot with ⟨i, ch, hChannel, hSlot⟩
    exact ⟨i, label, hChannel, hLabel,
      (hInv.holds_of_slot hSlot).1⟩

/-
  Two honest parties close their channels in order: no party
  ever ends the connection because of what the other one has
  done, and in every state that is reached the handshake is
  kept.
-/
theorem closeHandshake
    (conf : Party → ChannelConf)
    (memory : Party → Nat → Channel)
    (events : List (Party × NetworkAction)) :
    FallibleRun.Ensures Halt.Unfair
      (FallibleRun.run (Network.step conf) (.initial memory)
        events)
      Network.Handshake := by
  have hRun :
      ∀ (events : List (Party × NetworkAction)) net,
        NetworkInv conf net ∧ net.Selects →
        FallibleRun.Ensures Halt.Unfair
          (FallibleRun.run (Network.step conf) net events)
          fun net' => NetworkInv conf net' ∧ net'.Selects := by
    intro events
    induction events with
    | nil => exact fun net hNet => hNet
    | cons event events ih =>
        rintro net ⟨hInv, hSelects⟩
        exact FallibleRun.Ensures.bind
          (Network.step_inv hInv hSelects event) ih
  have hStart : (Network.initial memory).Selects := by
    intro p sets hSome
    cases hSome
  exact (hRun events _ ⟨.initial conf memory, hStart⟩).mono
    fun _ hNet => hNet.1.handshake

end Ssh1
