import Ssh1.Channels.Histories
import Ssh1.Lib.HalfClose

/-
  The phases of a channel of two parties.

  For every channel the flags of its two slots and the
  messages between them fit together: what one party has said,
  the other one has heard or will hear. The channel is new,
  asked for, refused, confirmed or joined.

  Main declarations:
    * `Half`, `Carries`
    * `Speaks`, `Hears`
    * `Phase`
    * `NetworkInv`
-/

------------------------------------------------------------
-- Halves of a Channel
------------------------------------------------------------

namespace Ssh1

open HalfClose

/- What a party has of a channel. -/
structure Half where
  slot : Option (Nat × Channel)
  count : Counter → Nat

/- What the messages to a channel number carry. -/
inductive Carries
    (c : Nat) : ChannelMessage → Item → Prop where
  | data
      (bytes : List UInt8)
      (hLength : bytes.length ≤ maxStringLength) :
      Carries c (.data c (bufferPutString [] bytes)) .data
  | eof : Carries c (.inputEof c) .ended
  | close : Carries c (.outputClosed c) .closed

/- What a channel has said and heard, by its flags. -/
def Channel.said (ch : Channel) : Said :=
  ⟨ch.statusFlags.eofSent, ch.statusFlags.closeSent⟩

/- The closing messages that a channel has received. -/
def Channel.heard (ch : Channel) : Said :=
  ⟨ch.statusFlags.eofReceived, ch.statusFlags.closeReceived⟩

/- An open channel of a remote one. -/
structure Channel.IsOpen
    (d : Nat)
    (ch : Channel) : Prop where
  type_eq : ch.type = .opened
  remoteId_eq : ch.remoteId = d
  drained : ch.statusFlags.eofSent = true → ch.input = []

/- The counts that go with what has been said and heard. -/
def countsOf (said heard : Said) : Counter → Nat
| .eofSent => said.ended.toNat
| .closeSent => said.closed.toNat
| .eofReceived => heard.ended.toNat
| .closeReceived => heard.closed.toNat
| .opened => 1

namespace Half

/- The party has no slot for the channel and never had one. -/
structure Blank (h : Half) : Prop where
  slot_eq : h.slot = none
  count_eq : h.count = fun _ => 0

/- The party waits for the answer in a slot. -/
structure Waiting (c : Nat) (h : Half) : Prop where
  slot_eq :
    ∃ ch, h.slot = some (c, ch) ∧ ch.type = .opening ∧
      ch.statusFlags = .clear
  count_eq : h.count = fun _ => 0

/-
  The channel is open in a slot, or everything has been said
  and heard and the slot is freed.
-/
structure Open
    (c d : Nat)
    (said heard : Said)
    (h : Half) : Prop where
  slot_eq :
    (h.slot = none ∧ said = .everything ∧
        heard = .everything) ∨
      ∃ ch, h.slot = some (c, ch) ∧ ch.IsOpen d ∧
        ch.said = said ∧ ch.heard = heard
  count_eq : h.count = countsOf said heard

variable {h : Half}
variable {c d i : Nat}
variable {said heard : Said}
variable {ch : Channel}

theorem Blank.slot_ne
    (hBlank : h.Blank) :
    h.slot ≠ some (i, ch) := by
  simp [hBlank.slot_eq]

/- A waiting channel is not open. -/
theorem Waiting.type_eq
    (hWaiting : h.Waiting c)
    (hSlot : h.slot = some (i, ch)) :
    i = c ∧ ch.type = .opening ∧ ch.statusFlags = .clear := by
  rcases hWaiting.slot_eq with ⟨ch', hSlot', hType, hFlags⟩
  rw [hSlot] at hSlot'
  cases hSlot'
  exact ⟨rfl, hType, hFlags⟩

/- The slot of an open channel is as the phase says. -/
theorem Open.isOpen
    (hOpen : h.Open c d said heard)
    (hSlot : h.slot = some (i, ch)) :
    i = c ∧ ch.IsOpen d ∧ ch.said = said ∧
      ch.heard = heard := by
  rcases hOpen.slot_eq with ⟨hNone, -⟩ | ⟨ch', hSome, hRest⟩
  · rw [hSlot] at hNone
    cases hNone
  · rw [hSlot] at hSome
    cases hSome
    exact ⟨rfl, hRest⟩

/- The half after a change of its slot. -/
def put
    (free : Bool)
    (i : Nat)
    (ch : Channel)
    (entries : Counter → Nat)
    (h : Half) : Half where
  slot := if free then none else some (i, ch)
  count := fun counter => h.count counter + entries counter

/-
  An open half stays open when its slot is freed exactly at
  the end.
-/
theorem Open.put
    {said' heard' : Said}
    {entries : Counter → Nat}
    (hOpen : h.Open c d said heard)
    (hCh : ch.IsOpen d)
    (hSaid : ch.said = said')
    (hHeard : ch.heard = heard')
    (hCount :
      ∀ counter,
        countsOf said heard counter + entries counter =
          countsOf said' heard' counter) :
    (h.put ch.statusFlags.terminate c ch entries).Open c d
      said' heard' := by
  constructor
  · cases hEnd : ch.statusFlags.terminate with
    | false => exact .inr ⟨ch, by simp [Half.put], hCh, hSaid, hHeard⟩
    | true =>
        left
        simp only [StatusFlags.terminate,
          Bool.and_eq_true] at hEnd
        rcases hEnd with ⟨⟨⟨⟨⟨-, -⟩, hES⟩, hER⟩, hCS⟩, hCR⟩
        refine ⟨by simp [Half.put], ?_, ?_⟩
        · rw [← hSaid, Channel.said, hES, hCS]
          rfl
        · rw [← hHeard, Channel.heard, hER, hCR]
          rfl
  · funext counter
    rw [Half.put]
    simp only
    rw [hOpen.count_eq]
    exact hCount counter

end Half

end Ssh1

------------------------------------------------------------
-- Saying Something
------------------------------------------------------------

namespace Ssh1

open HalfClose

variable {conf : ChannelConf}
variable {allowed : Channel → Prop}
variable {i d : Nat}
variable {ch ch' : Channel}
variable {es : List ChannelEffect}

/- An input that is closed is not read from. -/
def inputOpen (ch : Channel) : Prop :=
  ch.statusFlags.inputSocketClosed = false

/- A step of the loop on an open channel. -/
structure Speaks
    (d : Nat)
    (ch : Channel)
    (messages : List ChannelMessage)
    (ch' : Channel) : Prop where
  isOpen : ch'.IsOpen d
  heard_eq : ch'.heard = ch.heard
  flow :
    ∀ heard queue,
      Flow (Carries d) ch.said heard queue →
        Flow (Carries d) ch'.said heard (queue ++ messages)
  count :
    ∀ label counter,
      countsOf ch.said ch.heard counter +
          tally label
            (messages.map (.sent (some label))) counter =
        countsOf ch'.said ch'.heard counter

/- Saying nothing is also a step. -/
theorem Speaks.silent
    (hOpen : ch'.IsOpen d)
    (hSaid : ch'.said = ch.said)
    (hHeard : ch'.heard = ch.heard) :
    Speaks d ch [] ch' where
  isOpen := hOpen
  heard_eq := hHeard
  flow := by
    intro heard queue hFlow
    rw [hSaid, List.append_nil]
    exact hFlow
  count := by
    intro label counter
    rw [hSaid, hHeard]
    rfl

theorem LocalAction.onSlot
    (hAction : LocalAction conf allowed i ch es ch') :
    OnSlot i es := by
  cases hAction <;> intro effect hMem <;> simp_all

/- What the loop does to an open channel. -/
theorem LocalAction.speaks
    (hAction : LocalAction conf allowed i ch es ch')
    (hOpen : ch.IsOpen d)
    (hWell : ch.WellFormed conf i)
    (hAllowed : allowed ch → inputOpen ch) :
    Speaks d ch (sentMessages es) ch' := by
  have hType := hOpen.type_eq
  have hRemote := hOpen.remoteId_eq
  cases hAction with
  | read data hType' hRead =>
      refine .silent ⟨hType, hRemote, ?_⟩ rfl rfl
      intro hSent
      have hInput := hWell.of_eofSent hSent
      rw [hAllowed hRead] at hInput
      cases hInput
  | closeInput hType' hRead hNew =>
      exact .silent ⟨hType, hRemote, hOpen.drained⟩ rfl rfl
  | write len hType' hLen =>
      exact .silent ⟨hType, hRemote, hOpen.drained⟩ rfl rfl
  | closeOutput hType' hNew =>
      have hUnsent : ch.statusFlags.closeSent = false :=
        hWell.closeSent_eq.trans hNew
      have hNext :
          ch.said.next .closed =
            some { ch.said with closed := true } :=
        Said.next_closed hUnsent
      refine ⟨⟨hType, hRemote, hOpen.drained⟩, rfl, ?_, ?_⟩
      · intro heard queue hFlow
        rw [hRemote]
        exact hFlow.send .close hNext
      · intro label counter
        cases counter <;>
          simp [countsOf, Channel.said, Channel.heard, tally,
            sentMessages, HistoryEntry.counts,
            ChannelMessage.isEof, ChannelMessage.isClose,
            ChannelMessage.isConfirmation, hUnsent]
  | sendData len hType' hData hLen =>
      have hMore : ch.statusFlags.eofSent = false := by
        cases hSent : ch.statusFlags.eofSent with
        | false => rfl
        | true => exact absurd (hOpen.drained hSent) hData
      have hNext : ch.said.next .data = some ch.said :=
        Said.next_data hMore
      refine ⟨⟨hType, hRemote, ?_⟩, rfl, ?_, ?_⟩
      · intro hSent
        rw [hMore] at hSent
        cases hSent
      · intro heard queue hFlow
        rw [hRemote]
        refine hFlow.send (.data _ ?_) hNext
        simp only [List.length_take]
        unfold maxStringLength
        omega
      · intro label counter
        cases counter <;>
          simp [countsOf, Channel.said, Channel.heard, tally,
            sentMessages, HistoryEntry.counts,
            ChannelMessage.isEof, ChannelMessage.isClose,
            ChannelMessage.isConfirmation]
  | sendIeof hType' hDrained hClosed hNew =>
      have hNext :
          ch.said.next .ended =
            some { ch.said with ended := true } :=
        Said.next_ended hNew
      refine ⟨⟨hType, hRemote, fun _ => hDrained⟩, rfl, ?_, ?_⟩
      · intro heard queue hFlow
        rw [hRemote]
        exact hFlow.send .eof hNext
      · intro label counter
        cases counter <;>
          simp [countsOf, Channel.said, Channel.heard, tally,
            sentMessages, HistoryEntry.counts,
            ChannelMessage.isEof, ChannelMessage.isClose,
            ChannelMessage.isConfirmation, hNew]
  | acceptX11 auth output hX11 hSaved hCheck hNew =>
      rw [hType] at hX11
      cases hX11
  | rejectX11 auth hX11 hSaved hCheck hNew =>
      rw [hType] at hX11
      cases hX11

end Ssh1

------------------------------------------------------------
-- Hearing Something
------------------------------------------------------------

namespace Ssh1

open HalfClose

variable {conf : ChannelConf}
variable {table : ChannelTable}
variable {i d : Nat}
variable {m : ChannelMessage}
variable {item : Item}
variable {heard' : Said}

/- A message that an open channel has been told. -/
structure Hears
    (d : Nat)
    (i : Nat)
    (ch : Channel)
    (heard' : Said)
    (es : List ChannelEffect)
    (ch' : Channel) : Prop where
  onSlot : OnSlot i es
  silent : sentMessages es = []
  isOpen : ch'.IsOpen d
  said_eq : ch'.said = ch.said
  heard_eq : ch'.heard = heard'

/- A number of a slot in use is accepted. -/
theorem channelInUse_of_lt
    (hBound : i < table.channelsAlloc)
    (hUse : (table.channels i).InUse) :
    channelInUse (i : Int) table = some i := by
  have hFree : (table.channels i).type ≠ .free := hUse
  rw [channelInUse, if_neg]
  · simp
  · simp only [Int.toNat_natCast, hFree, or_false, not_or]
    omega

/-
  What is carried to an open channel is taken without a fault
  as long as it can be said.
-/
theorem handleMessage_carries
    (hInv : TableInv conf table)
    (hBound : i < table.channelsAlloc)
    (hOpen : (table.channels i).IsOpen d)
    (hCarries : Carries i m item)
    (hNext : (table.channels i).heard.next item = some heard')
    (connection : Option Int) :
    ∃ es ch',
      handleMessage conf m connection table =
          .ok (closeSlot i ch' es table) ∧
        Hears d i (table.channels i) heard' es ch' := by
  have hType := hOpen.type_eq
  have hUse : (table.channels i).InUse := by
    simp [Channel.InUse, hType]
  have hWell := hInv.wellFormed i hBound hUse
  have hGoesOn := hInv.goesOn i hBound hUse
  have hFound := channelInUse_of_lt hBound hUse
  cases hCarries with
  | data bytes hLength =>
      have hMore :
          (table.channels i).statusFlags.eofReceived =
            false := by
        cases hEof :
            (table.channels i).statusFlags.eofReceived with
        | false => rfl
        | true => simp [Said.next, Channel.heard, hEof] at hNext
      have hSame : (table.channels i).heard = heard' := by
        simpa [Said.next, Channel.heard, hMore] using hNext
      have hBody :
          bufferGetString (bufferPutString [] bytes) =
            .ok (bytes, []) := by
        have hGet :=
          bufferGetString_bufferPutString_append hLength []
        rwa [List.append_nil] at hGet
      simp only [handleMessage, channelInputData, hFound,
        hType, hMore, hBody, ne_eq, not_true_eq_false,
        false_and, if_false, Bool.false_eq_true]
      cases hClosed :
          (table.channels i).statusFlags.outputSocketClosed with
      | false =>
          refine ⟨[.received i bytes],
            { table.channels i with
              output :=
                bufferAppend (table.channels i).output bytes },
            ?_, ?_, rfl, ⟨hType, hOpen.2, hOpen.3⟩, rfl, hSame⟩
          · rw [closeSlot_of_goesOn (by exact hGoesOn)]
            simp only [Bool.false_eq_true, not_false_eq_true,
              if_true, FallibleRun.ok_bind,
              FallibleRun.pure_eq_ok]
            rw [modify_eq_setSlot, record_setSlot]
            rfl
          · intro effect hMem
            simp_all
      | true =>
          refine ⟨[.received i (bodyData
              (bufferPutString [] bytes))],
            table.channels i, ?_, ?_, rfl, hOpen, rfl, hSame⟩
          · rw [closeSlot_of_goesOn hGoesOn]
            simp [setSlot, ChannelTable.record]
          · intro effect hMem
            simp_all
  | eof =>
      have hNew :
          (table.channels i).statusFlags.eofReceived =
            false := by
        cases hEof :
            (table.channels i).statusFlags.eofReceived with
        | false => rfl
        | true => simp [Said.next, Channel.heard, hEof] at hNext
      have hSame :
          { (table.channels i).heard with ended := true } =
            heard' := by
        simpa [Said.next, Channel.heard, hNew] using hNext
      have hReceive :=
        @channelReceiveIeof_opened i _ [] table hBound
          hWell.localId_eq hType hNew
      rw [setSlot_self] at hReceive
      refine ⟨[], _, Eq.trans ?_ hReceive, ?_, rfl,
        ⟨hType, hOpen.2, hOpen.3⟩, rfl, hSame⟩
      · simp only [handleMessage, channelIeof, hFound]
      · intro effect hMem
        cases hMem
  | close =>
      have hNew :
          (table.channels i).statusFlags.closeReceived =
            false := by
        cases hClose :
            (table.channels i).statusFlags.closeReceived with
        | false => rfl
        | true =>
            simp [Said.next, Channel.heard, hClose] at hNext
      have hSame :
          { (table.channels i).heard with closed := true } =
            heard' := by
        simpa [Said.next, Channel.heard, hNew] using hNext
      have hReceive :=
        @channelReceiveOclosed_opened i _ [] table hBound
          hWell.localId_eq hType hNew
      rw [setSlot_self] at hReceive
      refine ⟨[], _, Eq.trans ?_ hReceive, ?_, rfl,
        ⟨hType, hOpen.2, fun _ => rfl⟩, rfl, hSame⟩
      · simp only [handleMessage, channelOclosed, hFound]
      · intro effect hMem
        cases hMem

end Ssh1

------------------------------------------------------------
-- Phases of a Channel
------------------------------------------------------------

namespace Ssh1

open HalfClose

/-
  Where a channel stands, by the halves of the initiator and
  of its peer and the messages on their way to them.
-/
inductive Phase :
    Half → Half → List ChannelMessage →
      List ChannelMessage → Prop where
  | unused
      {x y : Half}
      (hx : x.Blank)
      (hy : y.Blank) :
      Phase x y [] []
  | requested
      {x y : Half}
      (c : Nat)
      (body : Buffer)
      (hx : x.Waiting c)
      (hy : y.Blank) :
      Phase x y [] [.portOpen c body]
  | refused
      {x y : Half}
      (c : Nat)
      (hx : x.Waiting c)
      (hy : y.Blank) :
      Phase x y [.openFailure c] []
  | confirmed
      {x y : Half}
      {toX toY : List ChannelMessage}
      (c d : Nat)
      (said heard : Said)
      (hx : x.Waiting c)
      (hy : y.Open d c said heard)
      (hToX : Flow (Carries c) said .nothing toX)
      (hToY : Flow (Carries d) .nothing heard toY) :
      Phase x y (.openConfirmation c d :: toX) toY
  | joined
      {x y : Half}
      {toX toY : List ChannelMessage}
      (c d : Nat)
      (saidX heardX saidY heardY : Said)
      (hx : x.Open c d saidX heardX)
      (hy : y.Open d c saidY heardY)
      (hToX : Flow (Carries c) saidY heardX toX)
      (hToY : Flow (Carries d) saidX heardY toY) :
      Phase x y toX toY

variable {x y : Half}
variable {toX toY messages : List ChannelMessage}
variable {i : Nat}
variable {ch ch' : Channel}
variable {label : Label}

/- The counts of what is sent about a channel. -/
def sentCount
    (label : Label)
    (messages : List ChannelMessage) : Counter → Nat :=
  tally label (messages.map (.sent (some label)))

/- The initiator says something on an open channel. -/
theorem Phase.speak_initiator
    (hPhase : Phase x y toX toY)
    (hSlot : x.slot = some (i, ch))
    (hType : ch.type = .opened)
    (hSpeaks :
      ∀ d, ch.IsOpen d → Speaks d ch messages ch') :
    Phase
      (x.put ch'.statusFlags.terminate i ch'
        (sentCount label messages))
      y toX (toY ++ messages) := by
  cases hPhase with
  | unused hx hy => exact absurd hSlot hx.slot_ne
  | requested c body hx hy =>
      have hWaits := (hx.type_eq hSlot).2.1
      simp [hType] at hWaits
  | refused c hx hy =>
      have hWaits := (hx.type_eq hSlot).2.1
      simp [hType] at hWaits
  | confirmed c d said heard hx hy hToX hToY =>
      have hWaits := (hx.type_eq hSlot).2.1
      simp [hType] at hWaits
  | joined c d saidX heardX saidY heardY hx hy hToX hToY =>
      rcases hx.isOpen hSlot with ⟨rfl, hOpen, hSaid, hHeard⟩
      have hSpeak := hSpeaks d hOpen
      have hHeard' : ch'.heard = heardX :=
        hSpeak.heard_eq.trans hHeard
      refine .joined i d ch'.said heardX saidY heardY
        (hx.put hSpeak.isOpen rfl hHeard' ?_) hy hToX ?_
      · intro counter
        rw [← hSaid, ← hHeard', hSpeak.heard_eq,
          sentCount, hSpeak.count label counter,
          hSpeak.heard_eq]
      · exact hSpeak.flow _ _ (by rwa [hSaid])

/- Its peer says something on an open channel. -/
theorem Phase.speak_responder
    (hPhase : Phase x y toX toY)
    (hSlot : y.slot = some (i, ch))
    (hSpeaks :
      ∀ d, ch.IsOpen d → Speaks d ch messages ch') :
    Phase x
      (y.put ch'.statusFlags.terminate i ch'
        (sentCount label messages))
      (toX ++ messages) toY := by
  have hSpeak :
      ∀ {c d said heard},
        y.Open d c said heard →
        i = d ∧
        (y.put ch'.statusFlags.terminate i ch'
          (sentCount label messages)).Open d c ch'.said heard ∧
        ∀ heard' queue,
          Flow (Carries c) said heard' queue →
            Flow (Carries c) ch'.said heard'
              (queue ++ messages) := by
    intro c d said heard hy
    rcases hy.isOpen hSlot with ⟨rfl, hOpen, hSaid, hHeard⟩
    have hSpeak := hSpeaks c hOpen
    have hHeard' : ch'.heard = heard :=
      hSpeak.heard_eq.trans hHeard
    refine ⟨rfl, hy.put hSpeak.isOpen rfl hHeard' ?_, ?_⟩
    · intro counter
      rw [← hSaid, ← hHeard', hSpeak.heard_eq,
        sentCount, hSpeak.count label counter,
        hSpeak.heard_eq]
    · intro heard' queue hFlow
      exact hSpeak.flow _ _ (by rwa [hSaid])
  cases hPhase with
  | unused hx hy => exact absurd hSlot hy.slot_ne
  | requested c body hx hy => exact absurd hSlot hy.slot_ne
  | refused c hx hy => exact absurd hSlot hy.slot_ne
  | confirmed c d said heard hx hy hToX hToY =>
      rcases hSpeak hy with ⟨rfl, hy', hFlow⟩
      exact .confirmed c i ch'.said heard hx hy'
        (hFlow _ _ hToX) hToY
  | joined c d saidX heardX saidY heardY hx hy hToX hToY =>
      rcases hSpeak hy with ⟨rfl, hy', hFlow⟩
      exact .joined c i saidX heardX ch'.said heardY hx hy'
        (hFlow _ _ hToX) hToY

end Ssh1

------------------------------------------------------------
-- Invariant of the Network
------------------------------------------------------------

namespace Ssh1

namespace Network

/- What a party has of a channel. -/
def half
    (net : Network)
    (p : Party)
    (label : Label) : Half where
  slot := (net.endpoint p).slotOf label
  count := tally label (net.endpoint p).history

/- The messages about a channel on their way to a party. -/
def through
    (net : Network)
    (p : Party)
    (label : Label) : List ChannelMessage :=
  (net.link p).filterMap fun envelope =>
    if envelope.label = some label then
      some envelope.message
    else
      none

/- The channel stands at one of the phases. -/
def InPhase (net : Network) (label : Label) : Prop :=
  Phase (net.half label.initiator label)
    (net.half label.initiator.other label)
    (net.through label.initiator label)
    (net.through label.initiator.other label)

/- Nothing has happened to the channel. -/
def Untouched (net : Network) (label : Label) : Prop :=
  ∀ p, (net.half p label).Blank ∧ net.through p label = []

/- Nothing has changed about the channel. -/
def Frames (label : Label) (net net' : Network) : Prop :=
  ∀ p, net'.half p label = net.half p label ∧
    net'.through p label = net.through p label

variable {net net' net'' : Network}
variable {label : Label}

/- Two steps that leave a channel leave it together. -/
theorem Frames.trans
    (hFirst : Frames label net net')
    (hSecond : Frames label net' net'') :
    Frames label net net'' := fun p =>
  ⟨(hSecond p).1.trans (hFirst p).1,
    (hSecond p).2.trans (hFirst p).2⟩

/- A channel that is left stays in its phase. -/
theorem Frames.inPhase
    (hFrames : Frames label net net')
    (hPhase : net.InPhase label) :
    net'.InPhase label := by
  unfold InPhase
  rw [(hFrames _).1, (hFrames _).1, (hFrames _).2,
    (hFrames _).2]
  exact hPhase

/- A channel that is left stays untouched. -/
theorem Frames.untouched
    (hFrames : Frames label net net')
    (hUntouched : net.Untouched label) :
    net'.Untouched label := by
  intro p
  rw [(hFrames p).1, (hFrames p).2]
  exact hUntouched p

end Network

/- The endpoint has a sound table of labelled channels. -/
structure Endpoint.Ok
    (conf : ChannelConf)
    (e : Endpoint) : Prop where
  table : TableInv conf e.table
  kinds :
    ∀ i < e.table.channelsAlloc,
      (e.table.channels i).InUse →
        (e.table.channels i).type = .portListener ∨
          ∃ label, e.Holds label i
  distinct : e.Distinct
  freed : FreedLast e.history

/- What holds of every network that a run reaches. -/
structure NetworkInv
    (conf : Party → ChannelConf)
    (net : Network) : Prop where
  ok : ∀ p, (net.endpoint p).Ok (conf p)
  labelled :
    ∀ p, ∀ envelope ∈ net.link p,
      ∃ label, envelope.label = some label
  phases : ∀ label, net.InPhase label
  unasked :
    ∀ label : Label,
      (net.endpoint label.initiator).asked ≤ label.number →
        net.Untouched label

variable {conf : Party → ChannelConf}
variable {net net' : Network}
variable {label : Label}
variable {p : Party}

/- The invariant holds at first. -/
theorem NetworkInv.initial
    (conf : Party → ChannelConf)
    (memory : Party → Nat → Channel) :
    NetworkInv conf (.initial memory) := by
  have hUntouched :
      ∀ label, (Network.initial memory).Untouched label := by
    intro label p
    refine ⟨⟨?_, rfl⟩, rfl⟩
    rw [Network.half, Endpoint.slotOf_eq_none_iff]
    rintro i ⟨hBound, -⟩
    exact absurd hBound (Nat.not_lt_zero i)
  refine ⟨?_, ?_, ?_, ?_⟩
  · intro p
    refine ⟨TableInv.initial _ _, ?_, ?_, FreedLast.nil⟩
    · intro i hBound
      exact absurd hBound (Nat.not_lt_zero i)
    · intro label i j hHolds
      exact absurd hHolds.1 (Nat.not_lt_zero i)
  · intro p envelope hMem
    cases hMem
  · intro label
    have hBlank := fun p => (hUntouched label p).1
    exact .unused (hBlank _) (hBlank _)
  · exact fun label _ => hUntouched label

/- A channel that something has happened to was asked for. -/
theorem NetworkInv.number_lt
    (hInv : NetworkInv conf net)
    (hTouched : ¬ net.Untouched label) :
    label.number < (net.endpoint label.initiator).asked := by
  by_contra hLate
  exact hTouched (hInv.unasked label (by omega))

/- The invariant, but for where one channel stands. -/
structure NetworkInv.Others
    (conf : Party → ChannelConf)
    (label : Label)
    (net : Network) : Prop where
  ok : ∀ p, (net.endpoint p).Ok (conf p)
  labelled :
    ∀ p, ∀ envelope ∈ net.link p,
      ∃ label, envelope.label = some label
  phases : ∀ l, l ≠ label → net.InPhase l
  unasked :
    ∀ l : Label, l ≠ label →
      (net.endpoint l.initiator).asked ≤ l.number →
        net.Untouched l

/- The invariant is about the other channels too. -/
theorem NetworkInv.others
    (hInv : NetworkInv conf net)
    (label : Label) :
    NetworkInv.Others conf label net :=
  ⟨hInv.ok, hInv.labelled, fun l _ => hInv.phases l,
    fun l _ => hInv.unasked l⟩

/- A step about one channel keeps the rest. -/
theorem NetworkInv.Others.of_frames
    (hInv : NetworkInv.Others conf label net)
    (hOk : ∀ p, (net'.endpoint p).Ok (conf p))
    (hLabelled :
      ∀ p, ∀ envelope ∈ net'.link p,
        ∃ label, envelope.label = some label)
    (hAsked :
      ∀ p, (net.endpoint p).asked ≤ (net'.endpoint p).asked)
    (hFrames : ∀ l, l ≠ label → Network.Frames l net net') :
    NetworkInv.Others conf label net' := by
  refine ⟨hOk, hLabelled, ?_, ?_⟩
  · exact fun l hl => (hFrames l hl).inPhase (hInv.phases l hl)
  · intro l hl hLate
    have hLater := hAsked l.initiator
    exact (hFrames l hl).untouched
      (hInv.unasked l hl (by omega))

/- All is well when that channel is at a phase again. -/
theorem NetworkInv.Others.inv
    (hInv : NetworkInv.Others conf label net)
    (hNumber :
      label.number < (net.endpoint label.initiator).asked)
    (hPhase : net.InPhase label) :
    NetworkInv conf net := by
  refine ⟨hInv.ok, hInv.labelled, ?_, ?_⟩
  · intro l
    by_cases hl : l = label
    · rw [hl]
      exact hPhase
    · exact hInv.phases l hl
  · intro l hLate
    have hl : l ≠ label := by
      rintro rfl
      omega
    exact hInv.unasked l hl hLate

/- So does a step about none. -/
theorem NetworkInv.of_frames_all
    (hInv : NetworkInv conf net)
    (hOk : ∀ p, (net'.endpoint p).Ok (conf p))
    (hLabelled :
      ∀ p, ∀ envelope ∈ net'.link p,
        ∃ label, envelope.label = some label)
    (hAsked :
      ∀ p, (net.endpoint p).asked ≤ (net'.endpoint p).asked)
    (hFrames : ∀ l, Network.Frames l net net') :
    NetworkInv conf net' := by
  refine ⟨hOk, hLabelled, ?_, ?_⟩
  · exact fun l => (hFrames l).inPhase (hInv.phases l)
  · intro l hLate
    have hLater := hAsked l.initiator
    exact (hFrames l).untouched (hInv.unasked l (by omega))

end Ssh1
