import Ssh1.Channels.LoopSteps

/-
  A message is taken from the link.

  Whatever the message is, it is the one that the phase of
  its channel expects, and the party answers it as the other
  one expects. So neither party blames the other.

  Main declarations:
    * `PhaseFor`
    * `NetworkInv.deliver_put`, `NetworkInv.deliver_open`
    * `NetworkInv.deliver_initiator`
    * `NetworkInv.deliver`
-/

------------------------------------------------------------
-- Taking a Message
------------------------------------------------------------

namespace Ssh1

open HalfClose

variable {conf : Party → ChannelConf}
variable {net : Network}
variable {label l : Label}
variable {p : Party}
variable {envelope : Envelope}
variable {rest : List Envelope}

namespace Network

/- The channel, seen by one of the parties. -/
def PhaseFor
    (p : Party)
    (label : Label)
    (mine theirs : Half)
    (toMe toThem : List ChannelMessage) : Prop :=
  (label.initiator = p → Phase mine theirs toMe toThem) ∧
    (label.initiator = p.other →
      Phase theirs mine toThem toMe)

/- The phase as one party sees it. -/
theorem inPhase_iff
    (p : Party) :
    net.InPhase label ↔
      PhaseFor p label (net.half p label)
        (net.half p.other label) (net.through p label)
        (net.through p.other label) := by
  unfold PhaseFor InPhase
  rcases initiator_eq_or p label with hRole | hRole
  · have hNe : p ≠ p.other := (Party.other_ne p).symm
    simp [hRole, hNe]
  · simp [hRole]

/- What a received message counts for. -/
def receivedCount
    (label : Label)
    (m : ChannelMessage) : Counter → Nat :=
  tally label [.received (some label) m]

@[simp] theorem take_endpoint_other :
    (net.take p envelope rest).endpoint p.other =
      net.endpoint p.other := by
  simp [take]

/- The message leaves the link. -/
@[simp] theorem take_link_self :
    (net.take p envelope rest).link p = rest := by
  simp [take]

@[simp] theorem take_link_other :
    (net.take p envelope rest).link p.other =
      net.link p.other := by
  simp [take]

@[simp] theorem take_endpoint_self :
    (net.take p envelope rest).endpoint p =
      { net.endpoint p with
        history :=
          (net.endpoint p).history ++
            [.received envelope.label envelope.message] } := by
  simp [take]

/- It is counted for its channel. -/
theorem take_half_self
    (hLabel : envelope.label = some label) :
    (net.take p envelope rest).half p label =
      ⟨(net.half p label).slot, fun counter =>
        (net.half p label).count counter +
          receivedCount label envelope.message counter⟩ := by
  simp only [half, take_endpoint_self, tally_append, hLabel]
  rfl

/- The other party's half stays. -/
theorem take_half_other :
    (net.take p envelope rest).half p.other l =
      net.half p.other l := by
  simp [half]

theorem take_through_other :
    (net.take p envelope rest).through p.other l =
      net.through p.other l := by
  simp [through]

/- The first message of a channel is the one that is taken. -/
theorem take_through_self
    (hLink : net.link p = envelope :: rest)
    (hLabel : envelope.label = some label) :
    net.through p label =
      envelope.message ::
        (net.take p envelope rest).through p label := by
  simp [through, hLink, hLabel]

/- Other channels do not notice that a message is taken. -/
theorem frames_take
    (hLink : net.link p = envelope :: rest)
    (hl : envelope.label ≠ some l) :
    Frames l net (net.take p envelope rest) := by
  unfold Frames
  rw [forall_party_iff p]
  refine ⟨⟨?_, ?_⟩, take_half_other, take_through_other⟩
  · have hNone :
        tally l [.received envelope.label envelope.message] =
          fun _ => 0 := by
      apply tally_eq_zero
      intro entry hMem counter
      rw [List.mem_singleton.mp hMem]
      exact counts_received_ne hl _ counter
    simp only [half, take_endpoint_self, tally_append, hNone]
    rfl
  · simp [through, hLink, hl]

end Network

/- Noting a message keeps an endpoint in order. -/
theorem Endpoint.Ok.received
    {conf : ChannelConf}
    {e : Endpoint}
    (hOk : e.Ok conf)
    (entered : Option Label)
    (m : ChannelMessage) :
    Endpoint.Ok conf
      { e with
        history := e.history ++ [.received entered m] } := by
  refine ⟨hOk.table, hOk.kinds, hOk.distinct, ?_⟩
  apply hOk.freed.append
  intro entry hMem l hEntry
  rw [hEntry] at hMem
  simp at hMem

/- Taking a message is no matter of the other channels. -/
theorem NetworkInv.others_take
    (hInv : NetworkInv conf net)
    (hLink : net.link p = envelope :: rest)
    (hLabel : envelope.label = some label) :
    NetworkInv.Others conf label
      (net.take p envelope rest) := by
  apply (hInv.others label).of_frames
  · rw [Network.forall_party_iff p,
      Network.take_endpoint_self, Network.take_endpoint_other]
    exact ⟨(hInv.ok p).received _ _, hInv.ok p.other⟩
  · rw [Network.forall_party_iff p, Network.take_link_self,
      Network.take_link_other]
    refine ⟨?_, hInv.labelled p.other⟩
    intro envelope' hMem
    exact hInv.labelled p envelope' (by simp [hLink, hMem])
  · rw [Network.forall_party_iff p,
      Network.take_endpoint_self, Network.take_endpoint_other]
    exact ⟨le_rfl, le_rfl⟩
  · intro l hl
    apply Network.frames_take hLink
    rw [hLabel]
    simpa using Ne.symm hl

/- The channel of a message on its way has been asked for. -/
theorem NetworkInv.number_lt_of_link
    (hInv : NetworkInv conf net)
    (hLink : net.link p = envelope :: rest)
    (hLabel : envelope.label = some label) :
    label.number < (net.endpoint label.initiator).asked := by
  apply hInv.number_lt
  intro hUntouched
  have hNone := (hUntouched p).2
  rw [Network.take_through_self hLink hLabel] at hNone
  cases hNone

/- Answering a message by a change of the slot. -/
theorem NetworkInv.deliver_put
    {free : Bool}
    {i : Nat}
    {ch : Channel}
    {es : List ChannelEffect}
    (hInv : NetworkInv conf net)
    (hLink : net.link p = envelope :: rest)
    (hLabel : envelope.label = some label)
    (hHolds : (net.endpoint p).Holds label i)
    (hType : ch.type = .opening ∨ ch.type = .opened)
    (hSlot : OnSlot i es)
    (hSilent : sentMessages es = [])
    (hTable :
      TableInv (conf p)
        (putSlot free i ch es (net.endpoint p).table))
    (hPhase :
      Network.PhaseFor p label
        ((net.half p label).put free i ch
          (Network.receivedCount label envelope.message))
        (net.half p.other label)
        ((net.take p envelope rest).through p label)
        (net.through p.other label)) :
    NetworkInv conf
      ((net.take p envelope rest).advance p envelope.label
        (putSlot free i ch es (net.endpoint p).table)) := by
  have hOthers := hInv.others_take hLink hLabel
  have hNumber := hInv.number_lt_of_link hLink hLabel
  have hHolds' :
      ((net.take p envelope rest).endpoint p).Holds label
        i := by
    rw [Network.take_endpoint_self]
    exact hHolds
  have hSame :
      ((net.take p envelope rest).endpoint p).table =
        (net.endpoint p).table := by
    rw [Network.take_endpoint_self]
  have hAsked :
      label.number <
        ((net.take p envelope rest).endpoint
          label.initiator).asked := by
    rcases Network.initiator_eq_or p label with hRole | hRole
    · rw [hRole] at hNumber ⊢
      rw [Network.take_endpoint_self]
      exact hNumber
    · rw [hRole] at hNumber ⊢
      rw [Network.take_endpoint_other]
      exact hNumber
  rcases @Network.advance_put conf (net.take p envelope rest)
      label p envelope.label free i ch es (hOthers.ok p)
      hHolds' hType hSlot with
    ⟨hNet, hHalf, hThrough, -⟩
  rw [hSame] at hNet
  rw [hNet]
  apply hOthers.put hAsked hHolds' hType hSlot
    (by rwa [hSame])
  rw [Network.inPhase_iff p, hHalf, hThrough,
    Network.half_install_other, Network.through_install_self,
    Network.take_half_self hLabel, Network.take_half_other,
    Network.take_through_other, hSilent, List.append_nil]
  simpa [Half.put, sentCount, tally] using hPhase

end Ssh1

------------------------------------------------------------
-- Deliveries
------------------------------------------------------------

namespace Ssh1

open HalfClose

/- The ends that an honest peer does not bring about. -/
def Halt.Unfair (halt : Halt) : Prop :=
  halt.BreaksTable ∨ halt.BlamesPeer

/- An end that is no one's fault. -/
theorem not_unfair_of_not
    {halt : Halt}
    (hTable : ¬ halt.BreaksTable)
    (hPeer : ¬ halt.BlamesPeer) :
    ¬ halt.Unfair := by
  rintro (hBreaks | hBlames)
  · exact hTable hBreaks
  · exact hPeer hBlames

/- No fatal error blames the peer. -/
theorem not_blamesPeer_fatal
    (message : String) :
    ¬ (Halt.fatal message).BlamesPeer := by
  rintro (⟨channel, h | h | h | h | h | h⟩ | h | h) <;> cases h

/- The texts that do not differ in their third letter. -/
theorem not_blamesPeer_disconnect
    {message : String}
    (hThird :
      message.toList[2]? ≠ some 'c' ∧
        message.toList[2]? ≠ some 'h') :
    ¬ (Halt.disconnect message).BlamesPeer := by
  rintro (⟨channel, h | h | h | h | h | h⟩ | h | h) <;>
    · cases h
      simp [String.toList_append] at hThird

/- A short buffer is not the peer's fault. -/
theorem bufferGet_blameless
    (buffer : Buffer)
    (len : Nat) :
    FallibleRun.Ensures Halt.BlamesPeer (bufferGet buffer len)
      fun _ => True := by
  unfold bufferGet
  split
  · exact not_blamesPeer_fatal _
  · trivial

theorem bufferGetInt_blameless
    (buffer : Buffer) :
    FallibleRun.Ensures Halt.BlamesPeer (bufferGetInt buffer)
      fun _ => True := by
  unfold bufferGetInt
  exact (bufferGet_blameless buffer 4).bind fun _ _ => trivial

theorem bufferGetString_blameless
    (buffer : Buffer) :
    FallibleRun.Ensures Halt.BlamesPeer
      (bufferGetString buffer) fun _ => True := by
  unfold bufferGetString
  refine (bufferGetInt_blameless buffer).bind ?_
  rintro ⟨len, rest⟩ -
  simp only
  split
  · exact not_blamesPeer_fatal _
  · exact bufferGet_blameless rest len

/- A request for a port is answered without a fault. -/
theorem channelInputPortOpen_fair
    {conf : ChannelConf}
    {table : ChannelTable}
    (hInv : TableInv conf table)
    (remoteChannel : Int)
    (body : Buffer)
    (connection : Option Int) :
    FallibleRun.Ensures Halt.Unfair
      (channelInputPortOpen conf remoteChannel body connection
        table)
      (PortAnswer remoteChannel table) := by
  apply channelInputPortOpen_answers hInv
  · exact fun buffer => (bufferGetString_sound buffer).or
      (bufferGetString_blameless buffer)
  · exact fun buffer => (bufferGetInt_sound buffer).or
      (bufferGetInt_blameless buffer)
  · intro host
    apply not_unfair_of_not (not_breaksTable_disconnect _)
    apply not_blamesPeer_disconnect
    simp [String.toList_append]

variable {conf : Party → ChannelConf}
variable {net : Network}
variable {label : Label}
variable {p : Party}
variable {envelope : Envelope}
variable {rest : List Envelope}
variable {c d : Nat}

/- The slot of a half is one that the party holds. -/
theorem NetworkInv.holds_of_slot
    {ch : Channel}
    (hInv : NetworkInv conf net)
    (hSlot : (net.half p label).slot = some (c, ch)) :
    (net.endpoint p).Holds label c ∧
      (net.endpoint p).table.channels c = ch :=
  (Endpoint.slotOf_eq_some_iff (hInv.ok p).distinct).mp hSlot

/- What is heard is counted. -/
theorem countsOf_next
    {m : ChannelMessage}
    {item : Item}
    {said heard heard' : Said}
    (hCarries : Carries c m item)
    (hNext : heard.next item = some heard')
    (counter : Counter) :
    countsOf said heard counter +
        Network.receivedCount label m counter =
      countsOf said heard' counter := by
  rcases heard with ⟨ended, closed⟩
  cases hCarries with
  | data bytes hLength =>
      cases ended <;> simp [Said.next] at hNext
      subst hNext
      cases counter <;>
        simp [countsOf, Network.receivedCount, tally,
          HistoryEntry.counts, ChannelMessage.isEof,
          ChannelMessage.isClose,
          ChannelMessage.isConfirmation]
  | eof =>
      cases ended <;> simp [Said.next] at hNext
      subst hNext
      cases counter <;>
        simp [countsOf, Network.receivedCount, tally,
          HistoryEntry.counts, ChannelMessage.isEof,
          ChannelMessage.isClose,
          ChannelMessage.isConfirmation]
  | close =>
      cases closed <;> simp [Said.next] at hNext
      subst hNext
      cases counter <;>
        simp [countsOf, Network.receivedCount, tally,
          HistoryEntry.counts, ChannelMessage.isEof,
          ChannelMessage.isClose,
          ChannelMessage.isConfirmation]

section Deliver

variable (hInv : NetworkInv conf net)
variable (hLink : net.link p = envelope :: rest)
variable (hLabel : envelope.label = some label)

include hInv hLink hLabel

/- A message to an open channel. -/
theorem NetworkInv.deliver_open
    {said heard heard' : Said}
    {item : Item}
    (hOpen : (net.half p label).Open c d said heard)
    (hCarries : Carries c envelope.message item)
    (hNext : heard.next item = some heard')
    (hPhase :
      ∀ mine : Half, mine.Open c d said heard' →
        Network.PhaseFor p label mine
          (net.half p.other label)
          ((net.take p envelope rest).through p label)
          (net.through p.other label))
    (connection : Option Int) :
    ∃ table,
      handleMessage (conf p) envelope.message connection
          (net.endpoint p).table = .ok table ∧
        NetworkInv conf
          ((net.take p envelope rest).advance p envelope.label
            table) := by
  rcases hOpen.slot_eq with
    ⟨-, -, rfl⟩ | ⟨ch, hSlot, hCh, hSaid, hHeard⟩
  · rw [Said.next_everything] at hNext
    cases hNext
  rcases hInv.holds_of_slot hSlot with ⟨hHolds, rfl⟩
  have hOk := hInv.ok p
  subst hHeard
  rcases handleMessage_carries hOk.table hHolds.1 hCh hCarries
      hNext connection with
    ⟨es, ch', hHandle, hHears⟩
  refine ⟨_, hHandle, ?_⟩
  have hStep :
      (ChannelEvent.message envelope.message connection).step
          (conf p) (net.endpoint p).table =
        .ok (closeSlot c ch' es (net.endpoint p).table) :=
    hHandle
  have hTable := ChannelEvent.step_inv hOk.table hStep
  rw [closeSlot_eq_putSlot] at hTable ⊢
  apply hInv.deliver_put hLink hLabel hHolds
    (.inr hHears.isOpen.type_eq) hHears.onSlot hHears.silent
    hTable
  apply hPhase
  exact hOpen.put hHears.isOpen (hHears.said_eq.trans hSaid)
    hHears.heard_eq (countsOf_next hCarries hNext)

/- The answer to a request is that there is no channel. -/
theorem NetworkInv.deliver_failure
    (hMessage : envelope.message = .openFailure c)
    (hWaiting : (net.half p label).Waiting c)
    (hPhase :
      ∀ mine : Half, mine.Blank →
        Network.PhaseFor p label mine
          (net.half p.other label)
          ((net.take p envelope rest).through p label)
          (net.through p.other label))
    (connection : Option Int) :
    ∃ table,
      handleMessage (conf p) envelope.message connection
          (net.endpoint p).table = .ok table ∧
        NetworkInv conf
          ((net.take p envelope rest).advance p envelope.label
            table) := by
  rcases hWaiting.slot_eq with ⟨ch, hSlot, hType, hFlags⟩
  rcases hInv.holds_of_slot hSlot with ⟨hHolds, rfl⟩
  have hOk := hInv.ok p
  have hTable : TableInv (conf p)
      (putSlot true c ((net.endpoint p).table.channels c) []
        (net.endpoint p).table) :=
    hOk.table.releaseSlot_setSlot hHolds.1 hHolds.inUse
      hHolds.inUse
  refine ⟨putSlot true c ((net.endpoint p).table.channels c)
    [] (net.endpoint p).table, ?_, ?_⟩
  · rw [hMessage, putSlot, if_pos rfl, setSlot_self]
    simp only [handleMessage, channelInputOpenFailure,
      Int.toNat_natCast, hType, ne_eq, not_true_eq_false,
      or_false]
    rw [if_neg (by
      have hBound := hHolds.1
      omega)]
    exact channelFree_eq_ok hHolds.1 hHolds.inUse
  · apply hInv.deliver_put hLink hLabel hHolds (.inl hType)
      (fun effect hMem => by cases hMem) rfl hTable
    apply hPhase
    refine ⟨by simp [Half.put], ?_⟩
    funext counter
    simp only [Half.put, hWaiting.count_eq, hMessage]
    cases counter <;>
      simp [Network.receivedCount, tally,
        HistoryEntry.counts, ChannelMessage.isEof,
        ChannelMessage.isClose, ChannelMessage.isConfirmation]

/- The answer to a request is the channel of the peer. -/
theorem NetworkInv.deliver_confirmation
    (hMessage : envelope.message = .openConfirmation c d)
    (hWaiting : (net.half p label).Waiting c)
    (hPhase :
      ∀ mine : Half, mine.Open c d .nothing .nothing →
        Network.PhaseFor p label mine
          (net.half p.other label)
          ((net.take p envelope rest).through p label)
          (net.through p.other label))
    (connection : Option Int) :
    ∃ table,
      handleMessage (conf p) envelope.message connection
          (net.endpoint p).table = .ok table ∧
        NetworkInv conf
          ((net.take p envelope rest).advance p envelope.label
            table) := by
  rcases hWaiting.slot_eq with ⟨ch, hSlot, hType, hFlags⟩
  rcases hInv.holds_of_slot hSlot with ⟨hHolds, rfl⟩
  have hOk := hInv.ok p
  have hHandle :
      handleMessage (conf p) envelope.message connection
          (net.endpoint p).table =
        .ok (putSlot false c
          { (net.endpoint p).table.channels c with
            remoteId := d, type := .opened }
          [] (net.endpoint p).table) := by
    rw [hMessage]
    simp only [handleMessage, channelInputOpenConfirmation,
      Int.toNat_natCast, hType, ne_eq, not_true_eq_false,
      or_false]
    rw [if_neg (by
        have hBound := hHolds.1
        omega), modify_eq_setSlot]
    rfl
  have hStep :
      (ChannelEvent.message envelope.message connection).step
          (conf p) (net.endpoint p).table = _ :=
    hHandle
  refine ⟨_, hHandle, ?_⟩
  apply hInv.deliver_put hLink hLabel hHolds (.inr rfl)
    (fun effect hMem => by cases hMem) rfl
    (ChannelEvent.step_inv hOk.table hStep)
  apply hPhase
  refine ⟨.inr ⟨_, rfl, ⟨rfl, rfl, ?_⟩, ?_, ?_⟩, ?_⟩
  · intro hSent
    simp [hFlags, StatusFlags.clear] at hSent
  · simp [Channel.said, hFlags, StatusFlags.clear,
      Said.nothing]
  · simp [Channel.heard, hFlags, StatusFlags.clear,
      Said.nothing]
  · funext counter
    simp only [Half.put, hWaiting.count_eq, hMessage]
    cases counter <;>
      simp [Network.receivedCount, tally, countsOf,
        Said.nothing, HistoryEntry.counts,
        ChannelMessage.isEof, ChannelMessage.isClose,
        ChannelMessage.isConfirmation]

end Deliver

end Ssh1

------------------------------------------------------------
-- Answers to Requests
------------------------------------------------------------

namespace Ssh1

open HalfClose

variable {conf : Party → ChannelConf}
variable {net : Network}
variable {label : Label}
variable {p : Party}
variable {c : Nat}

/- What a party has when it has not had a part in a channel. -/
structure Network.AskedFor
    (net : Network)
    (p : Party)
    (label : Label)
    (c : Nat) : Prop where
  role : label.initiator = p.other
  waiting : (net.half p.other label).Waiting c
  slot_eq : (net.half p label).slot = none
  count_eq : (net.half p label).count = fun _ => 0
  toMe : net.through p label = []
  toThem : net.through p.other label = []

section Answer

variable (hInv : NetworkInv.Others conf label net)
variable (hAsked : net.AskedFor p label c)
variable
  (hNumber :
    label.number < (net.endpoint label.initiator).asked)

include hInv hAsked hNumber

/- The party refuses. -/
theorem NetworkInv.Others.refuse :
    NetworkInv conf
      (net.advance p (some label)
        (sendOpenFailure c (net.endpoint p).table)) := by
  have hOk := hInv.ok p
  have hNone : ∀ l, l ≠ label →
      tally l [.sent (some label) (.openFailure c)] =
        fun _ => 0 := by
    intro l hl
    apply tally_eq_zero
    intro entry hMem counter
    rw [List.mem_singleton.mp hMem]
    exact counts_sent_ne (by simpa using Ne.symm hl) _ counter
  have hFollow :
      (net.endpoint p).follow p (some label)
          (sendOpenFailure c (net.endpoint p).table) =
        ({ net.endpoint p with
            table := sendOpenFailure c (net.endpoint p).table
            history :=
              (net.endpoint p).history ++
                [.sent (some label) (.openFailure c)] },
          [⟨some label, .openFailure c⟩]) := by
    simp [Endpoint.follow, sendOpenFailure, Endpoint.note]
  have hHolds :
      ∀ l i,
        Endpoint.Holds
          { net.endpoint p with
            table := sendOpenFailure c (net.endpoint p).table
            history :=
              (net.endpoint p).history ++
                [.sent (some label) (.openFailure c)] } l i ↔
          (net.endpoint p).Holds l i := fun l i => Iff.rfl
  rw [Network.advance_eq hFollow]
  refine (hInv.of_frames ?_ ?_ ?_ ?_).inv ?_ ?_
  · rw [Network.forall_party_iff p,
      Network.install_endpoint_self,
      Network.install_endpoint_other]
    refine ⟨⟨hOk.table.record _, hOk.kinds, hOk.distinct, ?_⟩,
      hInv.ok p.other⟩
    exact hOk.freed.sent (some label) [.openFailure c]
  · exact Network.labelled_install hInv.labelled p label
      [.sent none (.openFailure c)]
  · rw [Network.forall_party_iff p,
      Network.install_endpoint_self,
      Network.install_endpoint_other]
    exact ⟨le_rfl, le_rfl⟩
  · intro l hl
    apply Network.frames_install
    · rfl
    · simp only
      rw [tally_append, hNone l hl]
      simp
    · simp [Ne.symm hl]
  · rw [hAsked.role] at hNumber ⊢
    rwa [Network.install_endpoint_other]
  · rw [Network.inPhase_iff p, Network.half_install_other,
      Network.through_install_self,
      Network.through_install_other, hAsked.toMe,
      hAsked.toThem]
    have hNe : p.other ≠ p := Party.other_ne p
    refine ⟨fun hSelf => absurd (hAsked.role.symm.trans hSelf)
      hNe, fun _ => ?_⟩
    simp only [if_true, List.filterMap_cons, List.filterMap_nil,
      List.nil_append]
    refine .refused c hAsked.waiting ⟨?_, ?_⟩
    · rw [Network.half_install_self]
      exact hAsked.slot_eq
    · have hCount := hAsked.count_eq
      rw [Network.half] at hCount
      simp only at hCount
      rw [Network.half_install_self]
      simp only
      rw [tally_append, hCount]
      funext counter
      cases counter <;>
        simp [tally, HistoryEntry.counts,
          ChannelMessage.isEof, ChannelMessage.isClose,
          ChannelMessage.isConfirmation]

/- The party opens a channel of its own. -/
theorem NetworkInv.Others.confirm
    {i : Nat}
    {sock : Int}
    {mid : ChannelTable}
    {ch : Channel}
    (hAllocates :
      ChannelTable.Allocates .opened sock
        (net.endpoint p).table i mid)
    (hFresh : ch.IsFresh .opened i)
    (hRemote : ch.remoteId = c)
    (hTable :
      TableInv (conf p)
        (setSlot i ch
          [.sent (some i) (.openConfirmation c i)] mid)) :
    NetworkInv conf
      (net.advance p (some label)
        (setSlot i ch
          [.sent (some i) (.openConfirmation c i)] mid)) := by
  have hOk := hInv.ok p
  have hType : ch.type = .opening ∨ ch.type = .opened :=
    .inr hFresh.type_eq
  have hNew :
      ∀ l : Label, some label = some l →
        (net.endpoint p).slotOf l = none := by
    intro l hl
    cases hl
    exact hAsked.slot_eq
  have hFollow :=
    @Endpoint.follow_enter p (some label) i _ .opened sock mid
      (net.endpoint p) (some label) (net.endpoint p).asked
      hAllocates
      (fun state hSame => by simp [Endpoint.note, ← hSame])
      (onSlot_sent i (.openConfirmation c i)) ch
  rw [Network.advance_eq hFollow]
  refine (hInv.of_frames ?_
    (Network.labelled_install hInv.labelled p label _)
    ?_ ?_).inv ?_ ?_
  · rw [Network.forall_party_iff p,
      Network.install_endpoint_self,
      Network.install_endpoint_other]
    exact ⟨hOk.enter hAllocates hTable
      (.inr ⟨hType, _, rfl⟩) hNew, hInv.ok p.other⟩
  · rw [Network.forall_party_iff p,
      Network.install_endpoint_self,
      Network.install_endpoint_other]
    exact ⟨le_rfl, le_rfl⟩
  · intro l hl
    exact Network.frames_enter hOk hAllocates hNew
      (by simpa using Ne.symm hl)
  · rw [hAsked.role] at hNumber ⊢
    rwa [Network.install_endpoint_other]
  · rw [Network.inPhase_iff p,
      Network.half_enter hOk hAllocates hNew rfl hType,
      Network.half_install_other,
      Network.through_install_self,
      Network.through_install_other,
      Network.filterMap_envelopes_self, hAsked.toMe,
      hAsked.toThem]
    have hNe : p.other ≠ p := Party.other_ne p
    refine ⟨fun hSelf => absurd (hAsked.role.symm.trans hSelf)
      hNe, fun _ => ?_⟩
    refine .confirmed c i .nothing .nothing hAsked.waiting
      ⟨.inr ⟨ch, rfl, ⟨hFresh.type_eq, hRemote, ?_⟩, ?_, ?_⟩,
        ?_⟩ (.refl _) (.refl _)
    · exact fun _ => hFresh.input_eq
    · simp [Channel.said, hFresh.statusFlags_eq,
        StatusFlags.clear, Said.nothing]
    · simp [Channel.heard, hFresh.statusFlags_eq,
        StatusFlags.clear, Said.nothing]
    · have hCount := hAsked.count_eq
      rw [Network.half] at hCount
      simp only at hCount
      simp only
      rw [hCount]
      funext counter
      cases counter <;>
        simp [sentCount, sentMessages, tally, countsOf,
          Said.nothing, HistoryEntry.counts,
          ChannelMessage.isEof, ChannelMessage.isClose,
          ChannelMessage.isConfirmation]

end Answer

end Ssh1

------------------------------------------------------------
-- Every Delivery
------------------------------------------------------------

namespace Ssh1

open HalfClose

section First

variable {x y : Half}
variable {m : ChannelMessage}
variable {toX toY : List ChannelMessage}

/- What the initiator can get next, and where it leads. -/
theorem Phase.first_toX
    (hPhase : Phase x y (m :: toX) toY) :
    (∃ c : Nat, m = .openFailure c ∧ x.Waiting c ∧
      ∀ x' : Half, x'.Blank → Phase x' y toX toY) ∨
    (∃ c d : Nat, m = .openConfirmation c d ∧ x.Waiting c ∧
      ∀ x' : Half, x'.Open c d .nothing .nothing →
        Phase x' y toX toY) ∨
    ∃ c d said heard heard' item,
      x.Open c d said heard ∧ Carries c m item ∧
        heard.next item = some heard' ∧
        ∀ x' : Half, x'.Open c d said heard' →
          Phase x' y toX toY := by
  cases hPhase with
  | refused c hx hy =>
      exact .inl ⟨c, rfl, hx, fun _ hx' => .unused hx' hy⟩
  | confirmed c d said heard hx hy hToX hToY =>
      exact .inr (.inl ⟨c, d, rfl, hx, fun _ hx' =>
        .joined c d _ _ _ _ hx' hy hToX hToY⟩)
  | joined c d saidX heardX saidY heardY hx hy hToX hToY =>
      rcases hToX.receive with
        ⟨item, heard', hCarries, hNext, hFlow⟩
      exact .inr (.inr ⟨c, d, saidX, heardX, heard', item, hx,
        hCarries, hNext, fun _ hx' =>
          .joined c d _ _ _ _ hx' hy hFlow hToY⟩)

/- What its peer can get next, and where it leads. -/
theorem Phase.first_toY
    (hPhase : Phase x y toX (m :: toY)) :
    (∃ c body, m = .portOpen (c : Nat) body ∧ x.Waiting c ∧
      y.Blank ∧ toX = [] ∧ toY = []) ∨
    ∃ d c said heard heard' item,
      y.Open d c said heard ∧ Carries d m item ∧
        heard.next item = some heard' ∧
        ∀ y' : Half, y'.Open d c said heard' →
          Phase x y' toX toY := by
  cases hPhase with
  | requested c body hx hy =>
      exact .inl ⟨c, body, rfl, hx, hy, rfl, rfl⟩
  | confirmed c d said heard hx hy hToX hToY =>
      rcases hToY.receive with
        ⟨item, heard', hCarries, hNext, hFlow⟩
      exact .inr ⟨d, c, said, heard, heard', item, hy,
        hCarries, hNext, fun _ hy' =>
          .confirmed c d _ _ hx hy' hToX hFlow⟩
  | joined c d saidX heardX saidY heardY hx hy hToX hToY =>
      rcases hToY.receive with
        ⟨item, heard', hCarries, hNext, hFlow⟩
      exact .inr ⟨d, c, saidY, heardY, heard', item, hy,
        hCarries, hNext, fun _ hy' =>
          .joined c d _ _ _ _ hx hy' hToX hFlow⟩

end First

variable {conf : Party → ChannelConf}
variable {net : Network}
variable {label : Label}
variable {p : Party}
variable {envelope : Envelope}
variable {rest : List Envelope}

/- A call that returns returns without a fault. -/
theorem ensures_of_ok
    {x : Outcome ChannelTable}
    {bad : Halt → Prop}
    {post : ChannelTable → Prop}
    (hOk : ∃ table, x = .ok table ∧ post table) :
    FallibleRun.Ensures bad x post := by
  rcases hOk with ⟨table, rfl, hPost⟩
  exact hPost

section Deliver

variable (hInv : NetworkInv conf net)
variable (hLink : net.link p = envelope :: rest)
variable (hLabel : envelope.label = some label)

include hInv hLink hLabel

/- The initiator of a channel gets a message. -/
theorem NetworkInv.deliver_initiator
    (hRole : label.initiator = p)
    (connection : Option Int) :
    ∃ table,
      handleMessage (conf p) envelope.message connection
          (net.endpoint p).table = .ok table ∧
        NetworkInv conf
          ((net.take p envelope rest).advance p envelope.label
            table) := by
  have hPhase :=
    ((Network.inPhase_iff p).mp (hInv.phases label)).1 hRole
  rw [Network.take_through_self hLink hLabel] at hPhase
  have hFor :
      ∀ {mine theirs : Half} {toMe toThem},
        Phase mine theirs toMe toThem →
        Network.PhaseFor p label mine theirs toMe toThem := by
    intro mine theirs toMe toThem hNow
    have hNe : p ≠ p.other := (Party.other_ne p).symm
    exact ⟨fun _ => hNow, fun hOther =>
      absurd (hRole.symm.trans hOther) hNe⟩
  rcases hPhase.first_toX with
    ⟨c, hMessage, hWaiting, hNext⟩ |
    ⟨c, d, hMessage, hWaiting, hNext⟩ |
    ⟨c, d, said, heard, heard', item, hOpen, hCarries, hSay,
      hNext⟩
  · exact hInv.deliver_failure hLink hLabel hMessage hWaiting
      (fun mine hBlank => hFor (hNext mine hBlank)) connection
  · exact hInv.deliver_confirmation hLink hLabel hMessage
      hWaiting (fun mine hOpen => hFor (hNext mine hOpen))
      connection
  · exact hInv.deliver_open hLink hLabel hOpen hCarries hSay
      (fun mine hOpen' => hFor (hNext mine hOpen')) connection

/- Its peer gets a message. -/
theorem NetworkInv.deliver_responder
    (hRole : label.initiator = p.other)
    (connection : Option Int) :
    FallibleRun.Ensures Halt.Unfair
      (handleMessage (conf p) envelope.message connection
        (net.endpoint p).table)
      fun table =>
        NetworkInv conf
          ((net.take p envelope rest).advance p envelope.label
            table) := by
  have hPhase :=
    ((Network.inPhase_iff p).mp (hInv.phases label)).2 hRole
  rw [Network.take_through_self hLink hLabel] at hPhase
  have hNe : p.other ≠ p := Party.other_ne p
  rcases hPhase.first_toY with
    ⟨c, body, hMessage, hWaiting, hBlank, hToX, hToY⟩ |
    ⟨d, c, said, heard, heard', item, hOpen, hCarries, hSay,
      hNext⟩
  · have hTake := hInv.others_take hLink hLabel
    have hNumber := hInv.number_lt_of_link hLink hLabel
    have hTable :
        ((net.take p envelope rest).endpoint p).table =
          (net.endpoint p).table := by
      rw [Network.take_endpoint_self]
    have hAsked :
        (net.take p envelope rest).AskedFor p label c := by
      refine ⟨hRole, ?_, ?_, ?_, hToY, ?_⟩
      · rw [Network.take_half_other]
        exact hWaiting
      · rw [Network.take_half_self hLabel]
        exact hBlank.slot_eq
      · rw [Network.take_half_self hLabel, hBlank.count_eq,
          hMessage]
        funext counter
        cases counter <;>
          simp [Network.receivedCount, tally,
            HistoryEntry.counts, ChannelMessage.isEof,
            ChannelMessage.isClose,
            ChannelMessage.isConfirmation]
      · rw [Network.take_through_other]
        exact hToX
    have hNumber' :
        label.number <
          ((net.take p envelope rest).endpoint
            label.initiator).asked := by
      rw [hRole] at hNumber ⊢
      rwa [Network.take_endpoint_other]
    have hAnswer := channelInputPortOpen_fair
      (hInv.ok p).table c body connection
    have hInvTable :=
      fun table' hStep =>
        @ChannelEvent.step_inv (conf p) (net.endpoint p).table
          table' (hInv.ok p).table
          (.message (.portOpen c body) connection) hStep
    rw [hMessage, hLabel]
    simp only [handleMessage]
    cases hResult :
        channelInputPortOpen (conf p) c body connection
          (net.endpoint p).table with
    | error halt =>
        rw [hResult] at hAnswer
        exact hAnswer
    | ok table' =>
        rw [hResult] at hAnswer
        have hInvTable := hInvTable table' hResult
        cases hAnswer with
        | refused =>
            have hRefuse := hTake.refuse hAsked hNumber'
            rw [hTable] at hRefuse
            exact hRefuse
        | confirmed i hAllocates hFresh hRemote hPlain =>
            exact hTake.confirm hAsked hNumber'
              (by rwa [hTable]) hFresh hRemote hInvTable
  · apply ensures_of_ok
    apply hInv.deliver_open hLink hLabel hOpen hCarries hSay
      _ connection
    intro mine hOpen'
    exact ⟨fun hSelf => absurd (hRole.symm.trans hSelf) hNe,
      fun _ => hNext mine hOpen'⟩

end Deliver

/- Every message finds the party ready for it. -/
theorem NetworkInv.deliver
    (hInv : NetworkInv conf net)
    (hLink : net.link p = envelope :: rest)
    (connection : Option Int) :
    FallibleRun.Ensures Halt.Unfair
      (handleMessage (conf p) envelope.message connection
        (net.endpoint p).table)
      fun table =>
        NetworkInv conf
          ((net.take p envelope rest).advance p envelope.label
            table) := by
  rcases hInv.labelled p envelope (by simp [hLink]) with
    ⟨label, hLabel⟩
  rcases Network.initiator_eq_or p label with hRole | hRole
  · exact ensures_of_ok
      (hInv.deliver_initiator hLink hLabel hRole connection)
  · exact hInv.deliver_responder hLink hLabel hRole connection

end Ssh1
