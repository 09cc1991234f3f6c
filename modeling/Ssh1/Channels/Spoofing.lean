import Ssh1.Channels.Transcript

/-
  What goes to the X server.

  A forwarded X11 connection is held back until its first
  packet is there. What the peer sends for it then goes to
  the X server with the real authentication data in place of
  the fake one, and only if the packet has the fake one.

  Main declarations:
    * `Relay`, `relayOf`
    * `Relay.Tight`
    * `Relaying`, `RelayInv`
    * `x11_relay_tight`
-/

------------------------------------------------------------
-- Relays
------------------------------------------------------------

namespace Ssh1

/- What came for a channel, and what went to its socket. -/
structure Relay where
  -- the state in which the channel was created
  type : ChannelType
  received : List UInt8
  written : List UInt8
  deriving DecidableEq, Repr

namespace Relay

/- What an effect does to the channel that a slot carries. -/
def next
    (i : Nat)
    (relay : Option Relay) :
    ChannelEffect → Option Relay
| .allocated j type =>
    if j = i then some ⟨type, [], []⟩ else relay
| .freed j => if j = i then none else relay
| .received j data =>
    if j = i then
      relay.map fun r =>
        { r with received := r.received ++ data }
    else
      relay
| .wrote j data =>
    if j = i then
      relay.map fun r => { r with written := r.written ++ data }
    else
      relay
| .sent _ _ => relay

/-
  What may go to the socket: all that came, and for an X11
  connection with the real data in it.
-/
def stream
    (auth : X11Auth)
    (relay : Relay) : List UInt8 :=
  if relay.type = .x11Open then
    auth.substituted relay.received
  else
    relay.received

/- An X11 connection has to begin with a genuine packet. -/
def Cleared
    (auth : X11Auth)
    (relay : Relay) : Prop :=
  relay.type = .x11Open → auth.Genuine relay.received

/- Nothing else is written, and nothing before that. -/
structure Tight
    (auth : X11Auth)
    (relay : Relay) : Prop where
  of_cleared :
    relay.Cleared auth → relay.written <+: relay.stream auth
  of_not_cleared :
    ¬ relay.Cleared auth → relay.written = []

variable {auth : X11Auth}
variable {relay : Relay}

/- What has written nothing has not given it away. -/
theorem Tight.of_written_eq
    (hNone : relay.written = []) :
    relay.Tight auth where
  of_cleared := by
    intro _
    rw [hNone]
    exact List.nil_prefix
  of_not_cleared := fun _ => hNone

/- What is written is a part of what may be. -/
theorem Tight.of_prefix
    (hCleared : relay.Cleared auth)
    (hPrefix : relay.written <+: relay.stream auth) :
    relay.Tight auth where
  of_cleared := fun _ => hPrefix
  of_not_cleared := fun hNot => absurd hCleared hNot

/- The channel after more data has come for it. -/
def receive
    (data : List UInt8)
    (relay : Relay) : Relay :=
  { relay with received := relay.received ++ data }

/- More data leaves the check passed. -/
theorem Cleared.receive
    (hCleared : relay.Cleared auth)
    (data : List UInt8) :
    (relay.receive data).Cleared auth := by
  intro hType
  exact (hCleared hType).append data

/- More data is put behind the stream. -/
theorem Cleared.stream_receive
    (hCleared : relay.Cleared auth)
    (data : List UInt8) :
    (relay.receive data).stream auth =
      relay.stream auth ++ data := by
  unfold stream Relay.receive
  by_cases hType : relay.type = .x11Open
  · simp only [if_pos hType]
    exact X11Auth.substituted_append
      (hCleared hType).data_le data
  · simp only [if_neg hType]

/- What is not passed on does not spoil what has been. -/
theorem Tight.receive
    (hTight : relay.Tight auth)
    (data : List UInt8) :
    (relay.receive data).Tight auth := by
  by_cases hCleared : relay.Cleared auth
  · apply Tight.of_prefix (hCleared.receive data)
    rw [hCleared.stream_receive]
    exact (hTight.of_cleared hCleared).trans
      (List.prefix_append _ _)
  · exact .of_written_eq (hTight.of_not_cleared hCleared)

end Relay

/- The channel that slot `i` carries after the effects. -/
def relayOf
    (i : Nat)
    (effects : List ChannelEffect) : Option Relay :=
  effects.foldl (Relay.next i) none

/- The journals go on with the next effects. -/
theorem relayOf_append
    (i : Nat)
    (effects es : List ChannelEffect) :
    relayOf i (effects ++ es) =
      es.foldl (Relay.next i) (relayOf i effects) :=
  List.foldl_append

/- The slot that an effect is about. -/
def ChannelEffect.slot : ChannelEffect → Option Nat
| allocated i _ => some i
| freed i => some i
| received i _ => some i
| wrote i _ => some i
| sent _ _ => none

/- Effects on another slot do not count. -/
theorem Relay.next_of_slot_ne
    {i : Nat}
    {effect : ChannelEffect}
    (hSlot : effect.slot ≠ some i)
    (relay : Option Relay) :
    Relay.next i relay effect = relay := by
  cases effect <;>
    simp_all [Relay.next, ChannelEffect.slot]

/- What other slots do is not in them. -/
theorem relayOf_append_of_slot_ne
    {i : Nat}
    {es : List ChannelEffect}
    (hSlots : ∀ e ∈ es, e.slot ≠ some i)
    (effects : List ChannelEffect) :
    relayOf i (effects ++ es) = relayOf i effects := by
  rw [relayOf_append]
  generalize relayOf i effects = relay
  induction es with
  | nil => rfl
  | cons e es ih =>
      rw [List.foldl_cons,
        Relay.next_of_slot_ne (hSlots e List.mem_cons_self)]
      exact ih fun e' hMem =>
        hSlots e' (List.mem_cons_of_mem e hMem)

end Ssh1

------------------------------------------------------------
-- Channels on Their Way
------------------------------------------------------------

namespace Ssh1

/- How far a channel has come with its stream. -/
inductive Relaying
    (auth : X11Auth)
    (ch : Channel)
    (relay : Relay) : Prop where
  -- The first packet is held back, or dropped with the end.
  | waiting
      (hOrigin : relay.type = .x11Open)
      (hType : ch.type = .x11Open)
      (hNone : relay.written = [])
      (hKept :
        ch.statusFlags.outputSocketClosed = false →
          ch.output = relay.received)
  -- The stream is passed on.
  | passing
      (hUse : ch.InUse)
      (hType : ch.type ≠ .x11Open)
      (hCleared : relay.Cleared auth)
      (hKept :
        relay.written ++ ch.output = relay.stream auth)
  -- Nothing more is passed on.
  | closed
      (hUse : ch.InUse)
      (hType : ch.type ≠ .x11Open)
      (hClosed : ch.statusFlags.outputSocketClosed = true)
      (hEmpty : ch.output = [])
      (hTight : relay.Tight auth)

variable {auth : X11Auth}
variable {conf : ChannelConf}
variable {i : Nat}
variable {ch ch' : Channel}
variable {relay : Relay}
variable {es : List ChannelEffect}

/- A relay runs on a slot in use. -/
theorem Relaying.inUse
    (hRelaying : Relaying auth ch relay) :
    ch.InUse := by
  cases hRelaying with
  | waiting hOrigin hType => simp [Channel.InUse, hType]
  | passing hUse => exact hUse
  | closed hUse => exact hUse

/- The invariant keeps the cookie back. -/
theorem Relaying.tight
    (hRelaying : Relaying auth ch relay) :
    relay.Tight auth := by
  cases hRelaying with
  | waiting hOrigin hType hNone hKept =>
      exact .of_written_eq hNone
  | passing hUse hType hCleared hKept =>
      apply Relay.Tight.of_prefix hCleared
      exact ⟨ch.output, hKept⟩
  | closed hUse hType hClosed hEmpty hTight => exact hTight

/- Where the flags alone change, the stream is where it was. -/
theorem Relaying.of_same
    (hRelaying : Relaying auth ch relay)
    (hType : ch'.type = ch.type)
    (hOutput : ch'.output = ch.output)
    (hClosed :
      ch'.statusFlags.outputSocketClosed =
        ch.statusFlags.outputSocketClosed) :
    Relaying auth ch' relay := by
  cases hRelaying with
  | waiting hOrigin hOld hNone hKept =>
      apply Relaying.waiting hOrigin (hType.trans hOld) hNone
      rw [hClosed, hOutput]
      exact hKept
  | passing hUse hOld hCleared hKept =>
      rw [← hOutput] at hKept
      rw [Channel.InUse, ← hType] at hUse
      rw [← hType] at hOld
      exact .passing hUse hOld hCleared hKept
  | closed hUse hOld hDone hEmpty hTight =>
      rw [Channel.InUse, ← hType] at hUse
      rw [← hType] at hOld
      exact .closed hUse hOld (hClosed.trans hDone)
        (hOutput.trans hEmpty) hTight

end Ssh1

------------------------------------------------------------
-- Actions
------------------------------------------------------------

namespace Ssh1

variable {auth : X11Auth}
variable {conf : ChannelConf}
variable {i : Nat}
variable {ch ch' : Channel}
variable {relay : Relay}
variable {es : List ChannelEffect}

/-
  An action has one effect on the stream of its channel, or
  none, and it may send messages.
-/
def ChannelEffect.Few
    (i : Nat)
    (es : List ChannelEffect) : Prop :=
  (∀ e ∈ es, e.slot = none) ∨
    ∃ data, es = [.received i data] ∨ es = [.wrote i data]

theorem ChannelEffect.few_nil :
    Few i [] :=
  .inl nofun

theorem ChannelEffect.few_sent
    (sender : Option Nat)
    (message : ChannelMessage) :
    Few i [.sent sender message] := by
  left
  intro e hMem
  rw [List.mem_singleton.mp hMem]
  rfl

/- The closing messages are sent on no slot. -/
theorem unopenedIeofSends_silent :
    ∀ e ∈ unopenedIeofSends i ch, e.slot = none := by
  intro e hMem
  unfold unopenedIeofSends kludgeSends at hMem
  split at hMem
  · simp only [List.cons_append, List.nil_append,
      List.mem_cons, List.not_mem_nil, or_false] at hMem
    rcases hMem with hEq | hEq
    · rw [hEq]
      rfl
    · rw [hEq]
      rfl
  · rw [List.nil_append, List.mem_singleton] at hMem
    rw [hMem]
    rfl

/- One action has one effect on its slot at the most. -/
theorem LocalAction.few
    {allowed : Channel → Prop}
    (hAction : LocalAction conf allowed i ch es ch') :
    ChannelEffect.Few i es := by
  cases hAction with
  | read data hType hAllowed =>
      exact ChannelEffect.few_nil
  | closeInput hType hAllowed hNew =>
      exact ChannelEffect.few_nil
  | write len hType hLen => exact .inr ⟨_, .inr rfl⟩
  | closeOutput hType hNew =>
      exact ChannelEffect.few_sent _ _
  | sendData len hType hData hLen =>
      exact ChannelEffect.few_sent _ _
  | sendIeof hType hDrained hClosed hNew =>
      exact ChannelEffect.few_sent _ _
  | acceptX11 auth output hType hSaved hCheck hOpen =>
      exact ChannelEffect.few_nil
  | rejectX11 auth hType hSaved hCheck hOpen =>
      exact ChannelEffect.few_sent _ _

/- So has what the peer does. -/
theorem PeerAction.few
    {allowed : Channel → Prop}
    (hAction : PeerAction allowed i ch es ch') :
    ChannelEffect.Few i es := by
  cases hAction with
  | confirm remoteChannel hType =>
      exact ChannelEffect.few_nil
  | data data hAllowed hType hMore hOpen => exact .inr ⟨_, .inl rfl⟩
  | passOver data hAllowed hType hMore hClosed =>
      exact .inr ⟨_, .inl rfl⟩
  | ieof hType hNew => exact ChannelEffect.few_nil
  | ieofUnopened hType hNew hPeer =>
      exact .inl unopenedIeofSends_silent
  | oclosed hInput hNew => exact ChannelEffect.few_nil
  | oclosedUnopened hType hNew hPeer =>
      exact ChannelEffect.few_sent _ _

/- Messages do not change what a channel has carried. -/
theorem Relay.foldl_of_silent
    (hSilent : ∀ e ∈ es, e.slot = none)
    (relay : Option Relay) :
    es.foldl (Relay.next i) relay = relay := by
  induction es with
  | nil => rfl
  | cons e es ih =>
      have hHead := hSilent e List.mem_cons_self
      rw [List.foldl_cons,
        Relay.next_of_slot_ne (by simp [hHead])]
      exact ih fun e' hMem =>
        hSilent e' (List.mem_cons_of_mem e hMem)

/- The stream after the effects of an action. -/
def RelaysOn
    (auth : X11Auth)
    (i : Nat)
    (relay : Relay)
    (es : List ChannelEffect)
    (ch : Channel) : Prop :=
  ∃ relay',
    es.foldl (Relay.next i) (some relay) = some relay' ∧
      Relaying auth ch relay'

/- Effects on no slot leave the journals. -/
theorem Relaying.relaysOn
    (hRelaying : Relaying auth ch' relay)
    (hSilent : ∀ e ∈ es, e.slot = none) :
    RelaysOn auth i relay es ch' :=
  ⟨relay, Relay.foldl_of_silent hSilent _, hRelaying⟩

theorem Relaying.relaysOn_nil
    (hRelaying : Relaying auth ch' relay) :
    RelaysOn auth i relay [] ch' :=
  ⟨relay, rfl, hRelaying⟩

/- What is written leaves the buffer. -/
theorem Relaying.write
    (hRelaying : Relaying auth ch relay)
    (hType : ch.type = .opened)
    (len : Nat) :
    RelaysOn auth i relay [.wrote i (ch.output.take len)]
      { ch with output := ch.output.drop len } := by
  refine ⟨{ relay with
      written := relay.written ++ ch.output.take len },
    by simp [Relay.next], ?_⟩
  cases hRelaying with
  | waiting hOrigin hOther => simp [hType] at hOther
  | passing hUse hOpened hCleared hKept =>
      refine .passing hUse hOpened hCleared ?_
      simp only [List.append_assoc, List.take_append_drop]
      exact hKept
  | closed hUse hOpened hClosed hEmpty hTight =>
      refine .closed hUse hOpened hClosed ?_ ?_
      · simp [hEmpty]
      · simpa [hEmpty] using hTight

/- Whatever is held back is dropped with the socket. -/
theorem Relaying.close
    (hRelaying : Relaying auth ch relay)
    (hUse : ch'.InUse)
    (hType : ch'.type ≠ .x11Open)
    (hClosed : ch'.statusFlags.outputSocketClosed = true)
    (hEmpty : ch'.output = []) :
    Relaying auth ch' relay :=
  .closed hUse hType hClosed hEmpty hRelaying.tight

/- Only an accepted first packet opens the way. -/
theorem Relaying.accept
    {output : Buffer}
    (hRelaying : Relaying auth ch relay)
    (hType : ch.type = .x11Open)
    (hCheck :
      x11CheckPacket auth ch.output =
        .ok (.accepted output))
    (hOpen : ch.statusFlags.outputSocketClosed = false) :
    Relaying auth { ch with type := .opened, output } relay := by
  rcases genuine_of_accepted hCheck with ⟨hGenuine, hOutput⟩
  cases hRelaying with
  | waiting hOrigin hWaits hNone hKept =>
      rw [hKept hOpen] at hGenuine hOutput
      refine .passing ?_ (by simp) (fun _ => hGenuine) ?_
      · simp [Channel.InUse]
      · simp only [hNone, List.nil_append, hOutput,
          Relay.stream, hOrigin, if_true]
  | passing hUse hOther => exact absurd hType hOther
  | closed hUse hOther => exact absurd hType hOther

/- A local action keeps the invariant. -/
theorem LocalAction.relaysOn
    {allowed : Channel → Prop}
    (hSaved : ∀ saved ∈ conf.x11Saved, saved = auth)
    (hAction : LocalAction conf allowed i ch es ch')
    (hRelaying : Relaying auth ch relay) :
    RelaysOn auth i relay es ch' := by
  cases hAction with
  | read data hType hAllowed =>
      apply Relaying.relaysOn_nil
      exact hRelaying.of_same rfl rfl rfl
  | closeInput hType hAllowed hNew =>
      apply Relaying.relaysOn_nil
      exact hRelaying.of_same rfl rfl rfl
  | write len hType hLen => exact hRelaying.write hType len
  | closeOutput hType hNew =>
      apply Relaying.relaysOn
      · exact hRelaying.close (by simp [Channel.InUse, hType])
          (by simp [hType]) rfl rfl
      · simp [ChannelEffect.slot]
  | sendData len hType hData hLen =>
      apply Relaying.relaysOn
      · exact hRelaying.of_same rfl rfl rfl
      · simp [ChannelEffect.slot]
  | sendIeof hType hDrained hClosed hNew =>
      apply Relaying.relaysOn
      · exact hRelaying.of_same rfl rfl rfl
      · simp [ChannelEffect.slot]
  | acceptX11 auth' output hType hSaved' hCheck hOpen =>
      rw [hSaved auth' hSaved'] at hCheck
      apply Relaying.relaysOn_nil
      exact hRelaying.accept hType hCheck hOpen
  | rejectX11 auth' hType hSaved' hCheck hOpen =>
      apply Relaying.relaysOn
      · exact hRelaying.close (by simp [Channel.InUse])
          (by simp) rfl rfl
      · simp [ChannelEffect.slot]

/- What comes joins what is held back or passed on. -/
theorem Relaying.data
    (hRelaying : Relaying auth ch relay)
    (hOpen : ch.statusFlags.outputSocketClosed = false)
    (data : List UInt8) :
    RelaysOn auth i relay [.received i data]
      { ch with output := bufferAppend ch.output data } := by
  refine ⟨relay.receive data, by simp [Relay.next,
    Relay.receive], ?_⟩
  cases hRelaying with
  | waiting hOrigin hType hNone hKept =>
      refine .waiting hOrigin hType hNone ?_
      intro _
      simp only [hKept hOpen]
      rfl
  | passing hUse hType hCleared hKept =>
      refine .passing hUse hType (hCleared.receive data) ?_
      rw [hCleared.stream_receive, ← hKept,
        List.append_assoc]
      rfl
  | closed hUse hType hClosed => simp [hOpen] at hClosed

/- Data for a closed socket is noted and dropped. -/
theorem Relaying.passOver
    (hRelaying : Relaying auth ch relay)
    (hWell : ch.WellFormed conf i)
    (hClosed : ch.statusFlags.outputSocketClosed = true)
    (data : List UInt8) :
    RelaysOn auth i relay [.received i data] ch := by
  refine ⟨relay.receive data, by simp [Relay.next,
    Relay.receive], ?_⟩
  have hEmpty := hWell.of_outputClosed hClosed
  have hTight := hRelaying.tight.receive data
  cases hRelaying with
  | waiting hOrigin hType hNone hKept =>
      refine .waiting hOrigin hType hNone ?_
      intro hOpen
      simp [hClosed] at hOpen
  | passing hUse hType =>
      exact .closed hUse hType hClosed hEmpty hTight
  | closed hUse hType =>
      exact .closed hUse hType hClosed hEmpty hTight

/- A confirmed channel has no stream yet. -/
theorem Relaying.confirm
    (hRelaying : Relaying auth ch relay)
    (hType : ch.type = .opening)
    (remoteChannel : Int) :
    Relaying auth
      { ch with remoteId := remoteChannel, type := .opened }
      relay := by
  have hUse :
      ({ ch with
          remoteId := remoteChannel
          type := .opened } : Channel).InUse := by
    simp [Channel.InUse]
  cases hRelaying with
  | waiting hOrigin hOther => simp [hType] at hOther
  | passing _ _ hCleared hKept =>
      exact .passing hUse (by simp) hCleared hKept
  | closed _ _ hClosed hEmpty hTight =>
      exact .closed hUse (by simp) hClosed hEmpty hTight

/- The end drops what is held back. -/
theorem Relaying.unopenedIeof
    (hRelaying : Relaying auth ch relay) :
    Relaying auth (unopenedIeof ch) relay := by
  have hTight := hRelaying.tight
  cases hRelaying with
  | waiting hOrigin hType hNone hKept =>
      exact .waiting hOrigin hType hNone nofun
  | passing hUse hType =>
      exact .closed hUse hType rfl rfl hTight
  | closed hUse hType =>
      exact .closed hUse hType rfl rfl hTight

/- What the peer does keeps the invariant. -/
theorem PeerAction.relaysOn
    {allowed : Channel → Prop}
    (hAction : PeerAction allowed i ch es ch')
    (hWell : ch.WellFormed conf i)
    (hRelaying : Relaying auth ch relay) :
    RelaysOn auth i relay es ch' := by
  cases hAction with
  | confirm remoteChannel hType =>
      apply Relaying.relaysOn_nil
      exact hRelaying.confirm hType remoteChannel
  | data data hAllowed hType hMore hOpen =>
      exact hRelaying.data hOpen data
  | passOver data hAllowed hType hMore hClosed =>
      exact hRelaying.passOver hWell hClosed data
  | ieof hType hNew =>
      apply Relaying.relaysOn_nil
      exact hRelaying.of_same rfl rfl rfl
  | ieofUnopened hType hNew hPeer =>
      exact hRelaying.unopenedIeof.relaysOn
        unopenedIeofSends_silent
  | oclosed hInput hNew =>
      apply Relaying.relaysOn_nil
      exact hRelaying.of_same rfl rfl rfl
  | oclosedUnopened hType hNew hPeer =>
      apply Relaying.relaysOn
      · exact hRelaying.of_same rfl rfl rfl
      · simp [ChannelEffect.slot]

end Ssh1

------------------------------------------------------------
-- Tables
------------------------------------------------------------

namespace Ssh1

/- At the end of these effects, every stream is tight. -/
def TightAt
    (auth : X11Auth)
    (effects : List ChannelEffect) : Prop :=
  ∀ i relay, relayOf i effects = some relay →
    relay.Tight auth

/- The same, at every moment on the way. -/
def TightAlways
    (auth : X11Auth)
    (effects : List ChannelEffect) : Prop :=
  ∀ before, before <+: effects → TightAt auth before

/- What holds of the streams of a table. -/
structure RelayInv
    (auth : X11Auth)
    (table : ChannelTable) : Prop where
  relaying :
    ∀ i relay, relayOf i table.effects = some relay →
      i < table.channelsAlloc ∧
        Relaying auth (table.channels i) relay
  always : TightAlways auth table.effects

variable {auth : X11Auth}
variable {conf : ChannelConf}
variable {allowed : Nat → Channel → Prop}
variable {table table' mid : ChannelTable}
variable {i : Nat}
variable {ch : Channel}
variable {effects es : List ChannelEffect}

/- It held all along, and it holds now. -/
theorem TightAlways.concat
    {e : ChannelEffect}
    (hAlways : TightAlways auth effects)
    (hNow : TightAt auth (effects ++ [e])) :
    TightAlways auth (effects ++ [e]) := by
  intro before hBefore
  rcases List.prefix_concat_iff.mp hBefore with
    hEq | hEarlier
  · rw [hEq]
    exact hNow
  · exact hAlways before hEarlier

/- Messages leave every stream as it was. -/
theorem TightAlways.append_silent
    (hAlways : TightAlways auth effects)
    (hSilent : ∀ e ∈ es, e.slot = none) :
    TightAlways auth (effects ++ es) := by
  induction es generalizing effects with
  | nil => simpa using hAlways
  | cons e es ih =>
      have hHead : TightAlways auth (effects ++ [e]) := by
        apply hAlways.concat
        intro i relay hRelay
        rw [relayOf_append_of_slot_ne] at hRelay
        · exact hAlways effects List.prefix_rfl i relay hRelay
        · simp [hSilent e List.mem_cons_self]
      rw [List.append_cons]
      exact ih hHead fun e' hMem =>
        hSilent e' (List.mem_cons_of_mem e hMem)

/- One effect on the slot at the most, and it holds after. -/
theorem TightAlways.append_few
    (hAlways : TightAlways auth effects)
    (hFew : ChannelEffect.Few i es)
    (hNow : TightAt auth (effects ++ es)) :
    TightAlways auth (effects ++ es) := by
  rcases hFew with hSilent | ⟨data, rfl | rfl⟩
  · exact hAlways.append_silent hSilent
  · exact hAlways.concat hNow
  · exact hAlways.concat hNow

/- The streams of the slots are tight at the end. -/
theorem RelayInv.of_relaying
    (hRelaying :
      ∀ i relay, relayOf i table.effects = some relay →
        i < table.channelsAlloc ∧
          Relaying auth (table.channels i) relay) :
    TightAt auth table.effects := by
  intro i relay hRelay
  exact (hRelaying i relay hRelay).2.tight

/- There is no relay at first. -/
theorem RelayInv.initial
    (auth : X11Auth)
    (memory : Nat → Channel) :
    RelayInv auth (.initial memory) where
  relaying := nofun
  always := by
    intro before hBefore
    rw [List.prefix_nil.mp hBefore]
    exact nofun

/- The few effects on a slot spare the other ones. -/
theorem ChannelEffect.Few.slot_ne
    {j : Nat}
    (hFew : ChannelEffect.Few i es)
    (hj : j ≠ i) :
    ∀ e ∈ es, e.slot ≠ some j := by
  intro e hMem
  rcases hFew with hSilent | ⟨data, rfl | rfl⟩
  · simp [hSilent e hMem]
  · rw [List.mem_singleton.mp hMem]
    simp [ChannelEffect.slot, Ne.symm hj]
  · rw [List.mem_singleton.mp hMem]
    simp [ChannelEffect.slot, Ne.symm hj]

/- They do not begin a stream. -/
theorem ChannelEffect.Few.relay_eq
    {old : Option Relay}
    {relay : Relay}
    (hFew : ChannelEffect.Few i es)
    (hRelay : es.foldl (Relay.next i) old = some relay) :
    ∃ relay', old = some relay' := by
  cases old with
  | some relay' => exact ⟨relay', rfl⟩
  | none =>
      rcases hFew with hSilent | ⟨data, rfl | rfl⟩
      · rw [Relay.foldl_of_silent hSilent] at hRelay
        cases hRelay
      · simp [Relay.next] at hRelay
      · simp [Relay.next] at hRelay

/- A slot may be changed along with its stream. -/
theorem RelayInv.setSlot
    (hInv : RelayInv auth table)
    (hFew : ChannelEffect.Few i es)
    (hOn :
      ∀ relay, Relaying auth (table.channels i) relay →
        RelaysOn auth i relay es ch) :
    RelayInv auth (setSlot i ch es table) := by
  have hRelaying :
      ∀ j relay',
        relayOf j (Ssh1.setSlot i ch es table).effects =
          some relay' →
        j < (Ssh1.setSlot i ch es table).channelsAlloc ∧
          Relaying auth
            ((Ssh1.setSlot i ch es table).channels j)
            relay' := by
    intro j relay' hRelay
    rw [setSlot_effects] at hRelay
    by_cases hj : j = i
    · subst hj
      rw [relayOf_append] at hRelay
      rcases hFew.relay_eq hRelay with ⟨relay, hOld⟩
      rcases hInv.relaying j relay hOld with ⟨hBound, hNow⟩
      rcases hOn relay hNow with ⟨relay'', hFold, hNext⟩
      rw [hOld, hFold] at hRelay
      cases hRelay
      exact ⟨hBound, by simpa using hNext⟩
    · rw [relayOf_append_of_slot_ne (hFew.slot_ne hj)]
        at hRelay
      rw [setSlot_channels_ne hj]
      exact hInv.relaying j relay' hRelay
  refine ⟨hRelaying, ?_⟩
  exact hInv.always.append_few hFew
    (RelayInv.of_relaying hRelaying)

/- A slot that is freed carries no stream. -/
theorem RelayInv.releaseSlot
    (hInv : RelayInv auth table)
    (i : Nat) :
    RelayInv auth (releaseSlot i table) := by
  have hEffects :
      (Ssh1.releaseSlot i table).effects =
        table.effects ++ [.freed i] := rfl
  have hRelaying :
      ∀ j relay,
        relayOf j (Ssh1.releaseSlot i table).effects =
          some relay →
        j < (Ssh1.releaseSlot i table).channelsAlloc ∧
          Relaying auth
            ((Ssh1.releaseSlot i table).channels j) relay := by
    intro j relay hRelay
    rw [hEffects] at hRelay
    by_cases hj : j = i
    · subst hj
      rw [relayOf_append] at hRelay
      simp [Relay.next] at hRelay
    · rw [relayOf_append_of_slot_ne (by
          simp [ChannelEffect.slot, Ne.symm hj])] at hRelay
      rw [releaseSlot_channels_ne hj]
      exact hInv.relaying j relay hRelay
  refine ⟨hRelaying, ?_⟩
  rw [hEffects]
  exact hInv.always.concat (RelayInv.of_relaying hRelaying)

/- A slot that closes keeps its journal. -/
theorem RelayInv.closeSlot
    (hInv : RelayInv auth (Ssh1.setSlot i ch es table)) :
    RelayInv auth (closeSlot i ch es table) := by
  unfold Ssh1.closeSlot
  split
  · exact hInv.releaseSlot i
  · exact hInv

/- A fresh channel starts a relay. -/
theorem Channel.IsFresh.relaying
    {type : ChannelType}
    (hFresh : ch.IsFresh type i)
    (hUse : ch.InUse) :
    Relaying auth ch ⟨type, [], []⟩ := by
  by_cases hType : type = .x11Open
  · subst hType
    exact .waiting rfl hFresh.type_eq rfl
      fun _ => hFresh.output_eq
  · refine .passing hUse (hFresh.type_eq ▸ hType)
      (fun hX11 => absurd hX11 hType) ?_
    simp only [Relay.stream, if_neg hType, List.nil_append,
      hFresh.output_eq]

/- A new channel has no stream yet. -/
theorem RelayInv.allocate
    {type : ChannelType}
    {sock : Int}
    (hInv : RelayInv auth table)
    (hAllocates :
      ChannelTable.Allocates type sock table i mid)
    (hFresh : ch.IsFresh type i)
    (hUse : ch.InUse)
    (hSilent : ∀ e ∈ es, e.slot = none) :
    RelayInv auth (Ssh1.setSlot i ch es mid) := by
  have hOf :
      ∀ j, relayOf j (mid.effects ++ es) =
        Relay.next j (relayOf j table.effects)
          (.allocated i type) := by
    intro j
    rw [relayOf_append_of_slot_ne (by
        intro e hMem
        simp [hSilent e hMem]),
      hAllocates.effects, relayOf_append]
    rfl
  have hRelaying :
      ∀ j relay,
        relayOf j (Ssh1.setSlot i ch es mid).effects =
          some relay →
        j < (Ssh1.setSlot i ch es mid).channelsAlloc ∧
          Relaying auth
            ((Ssh1.setSlot i ch es mid).channels j)
            relay := by
    intro j relay hRelay
    rw [setSlot_effects, hOf] at hRelay
    by_cases hj : i = j
    · subst hj
      simp only [Relay.next, if_true,
        Option.some.injEq] at hRelay
      subst hRelay
      refine ⟨hAllocates.bound, ?_⟩
      rw [setSlot_channels_self]
      exact hFresh.relaying hUse
    · simp only [Relay.next, hj, if_false] at hRelay
      rcases hInv.relaying j relay hRelay with
        ⟨hBound, hNow⟩
      rw [setSlot_channels_ne (Ne.symm hj),
        hAllocates.others j hBound (Ne.symm hj)]
      exact ⟨hBound.trans_le hAllocates.grows, hNow⟩
  have hStart :
      TightAlways auth
        (table.effects ++ [.allocated i type]) := by
    apply hInv.always.concat
    intro j relay hRelay
    apply RelayInv.of_relaying hRelaying j relay
    rw [setSlot_effects, hOf, ← hRelay, relayOf_append]
    rfl
  refine ⟨hRelaying, ?_⟩
  rw [setSlot_effects, hAllocates.effects]
  exact hStart.append_silent hSilent

end Ssh1

------------------------------------------------------------
-- Runs
------------------------------------------------------------

namespace Ssh1

variable {auth : X11Auth}
variable {conf : ChannelConf}
variable {allowed : Nat → Channel → Prop}
variable {table table' : ChannelTable}

/- One local step keeps the invariant. -/
theorem LocalStep.relayInv
    (hSaved : ∀ saved ∈ conf.x11Saved, saved = auth)
    (hStep : LocalStep conf allowed table table')
    (hInv : RelayInv auth table) :
    RelayInv auth table' := by
  cases hStep with
  | act i hBound hUse hAction =>
      apply RelayInv.closeSlot
      apply hInv.setSlot hAction.few
      intro relay hRelaying
      exact hAction.relaysOn hSaved hRelaying
  | request i listener hBound hRequest hAllocates hFresh =>
      apply hInv.allocate hAllocates hFresh
      · simp [Channel.InUse, hFresh.type_eq]
      · simp [ChannelEffect.slot]

/- So does one step of the peer. -/
theorem TableStep.relayInv
    (hSaved : ∀ saved ∈ conf.x11Saved, saved = auth)
    (hStep : TableStep conf allowed table table')
    (hTable : TableInv conf table)
    (hInv : RelayInv auth table) :
    RelayInv auth table' := by
  cases hStep with
  | loop hStep => exact hStep.relayInv hSaved hInv
  | react i hBound hUse hAction =>
      apply RelayInv.closeSlot
      apply hInv.setSlot hAction.few
      intro relay hRelaying
      exact hAction.relaysOn
        (hTable.wellFormed i hBound hUse) hRelaying
  | allocate i hAllocates hFresh hOpening =>
      apply hInv.allocate hAllocates hFresh hOpening.inUse
      cases hOpening with
      | listener hType => nofun
      | confirmed hType => simp [ChannelEffect.slot]
  | refuse remoteChannel =>
      refine ⟨?_, ?_⟩
      · intro i relay hRelay
        simp only [sendOpenFailure,
          ChannelTable.record_effects] at hRelay
        rw [relayOf_append_of_slot_ne (by
          simp [ChannelEffect.slot])] at hRelay
        exact hInv.relaying i relay hRelay
      · apply hInv.always.append_silent
        simp [ChannelEffect.slot]
  | fail i hBound hType => exact hInv.releaseSlot i

/- By induction on the steps. -/
theorem TableSteps.relayInv
    (hSaved : ∀ saved ∈ conf.x11Saved, saved = auth)
    (hSteps : TableSteps conf allowed table table')
    (hTable : TableInv conf table)
    (hInv : RelayInv auth table) :
    TableInv conf table' ∧ RelayInv auth table' := by
  induction hSteps with
  | refl => exact ⟨hTable, hInv⟩
  | tail _ hStep ih =>
      exact ⟨hStep.inv ih.1,
        hStep.relayInv hSaved ih.1 ih.2⟩

/- The invariant holds after every run. -/
theorem run_relayInv
    (hSaved : ∀ saved ∈ conf.x11Saved, saved = auth)
    {memory : Nat → Channel}
    {events : List ChannelEvent}
    (hRun :
      FallibleRun.run (ChannelEvent.step conf)
        (.initial memory) events = .ok table) :
    TableInv conf table ∧ RelayInv auth table := by
  have hInitial :
      TableInv conf (.initial memory) ∧
        RelayInv auth (.initial memory) :=
    ⟨.initial conf memory, .initial auth memory⟩
  have hStep :
      ∀ table event table',
        TableInv conf table ∧ RelayInv auth table →
        ChannelEvent.step conf table event = .ok table' →
        TableInv conf table' ∧ RelayInv auth table' := by
    intro table event table' hNow hStep
    have hSteps : TableSteps conf anySlot table table' :=
      ChannelEvent.step_steps hNow.1 (fun _ _ _ => trivial)
        hStep
    exact hSteps.relayInv hSaved hNow.1 hNow.2
  exact FallibleRun.run_invariant hStep hInitial hRun

/- A stream that is not genuine is kept as it is, or gone. -/
theorem Relaying.output_of_not_genuine
    {i : Nat}
    {ch : Channel}
    {relay : Relay}
    (hRelaying : Relaying auth ch relay)
    (hWell : ch.WellFormed conf i)
    (hType : relay.type = .x11Open)
    (hNot : ¬ auth.Genuine relay.received) :
    ch.output = relay.received ∨ ch.output = [] := by
  cases hRelaying with
  | waiting hOrigin hWaits hNone hKept =>
      cases hOpen : ch.statusFlags.outputSocketClosed with
      | false => exact .inl (hKept hOpen)
      | true => exact .inr (hWell.of_outputClosed hOpen)
  | passing hUse hOther hCleared hKept =>
      exact absurd (hCleared hType) hNot
  | closed hUse hOther hClosed hEmpty hTight =>
      exact .inr hEmpty

/- What a tight stream is for an X11 connection. -/
theorem Relay.Tight.of_x11
    {relay : Relay}
    (hTight : relay.Tight auth)
    (hType : relay.type = .x11Open) :
    (auth.Genuine relay.received →
      relay.written <+: auth.substituted relay.received) ∧
    (¬ auth.Genuine relay.received → relay.written = []) := by
  have hCleared :
      relay.Cleared auth ↔ auth.Genuine relay.received :=
    ⟨fun hCleared => hCleared hType, fun hGenuine _ => hGenuine⟩
  have hStream :
      relay.stream auth = auth.substituted relay.received :=
    if_pos hType
  rw [← hStream, ← hCleared]
  exact ⟨hTight.of_cleared, hTight.of_not_cleared⟩

/- And for any other channel. -/
theorem Relay.Tight.of_other
    {relay : Relay}
    (hTight : relay.Tight auth)
    (hType : relay.type ≠ .x11Open) :
    relay.written <+: relay.received := by
  have hStream : relay.stream auth = relay.received :=
    if_neg hType
  rw [← hStream]
  exact hTight.of_cleared fun hX11 => absurd hX11 hType

/-
  At every moment of every run, what has been written to the
  X server for a connection is a beginning of its stream with
  the real data in it, and nothing unless the first packet
  has the fake data; and then the buffer for the X server
  never holds anything but the stream itself. The stream is
  that of the messages with data for the open channel.
-/
theorem x11_relay_tight
    (hSaved : conf.x11Saved = some auth)
    {memory : Nat → Channel}
    {events : List ChannelEvent}
    (hRun :
      FallibleRun.run (ChannelEvent.step conf)
        (.initial memory) events = .ok table) :
    (∀ before,
      before <+: transcript conf (.initial memory) events →
      ∀ i relay, relayOf i before = some relay →
        relay.type = .x11Open →
        (auth.Genuine relay.received →
          relay.written <+: auth.substituted relay.received) ∧
        (¬ auth.Genuine relay.received →
          relay.written = [])) ∧
    ∀ i relay,
      relayOf i (transcript conf (.initial memory) events) =
        some relay →
      relay.type = .x11Open →
      ¬ auth.Genuine relay.received →
      (table.channels i).output = relay.received ∨
        (table.channels i).output = [] := by
  have hOnly : ∀ saved ∈ conf.x11Saved, saved = auth := by
    intro saved hMem
    rw [hSaved] at hMem
    exact (Option.some.inj hMem).symm
  rcases run_relayInv hOnly hRun with ⟨hTable, hInv⟩
  rw [run_transcript hRun]
  constructor
  · intro before hBefore i relay hRelay hType
    exact (hInv.always before hBefore i relay hRelay).of_x11
      hType
  · intro i relay hRelay hType hNot
    rcases hInv.relaying i relay hRelay with
      ⟨hBound, hRelaying⟩
    exact hRelaying.output_of_not_genuine
      (hTable.wellFormed i hBound hRelaying.inUse) hType hNot

/- A client with authentication data of one byte. -/
def sampleAuth : X11Auth where
  savedProto := [77]
  savedData := [9]
  fakeData := [5]
  length_eq := rfl

/- A client with an authentication cookie to hide. -/
def sampleX11Conf : ChannelConf :=
  { plainConf with
      x11ForwardingPermitted := true
      x11Saved := some sampleAuth }

/- The first packet of a connection, in big endian order. -/
def samplePacket (data : UInt8) : List UInt8 :=
  [0x42, 0, 0, 11, 0, 0, 0, 1, 0, 1, 0, 0, 77, 0, 0, 0,
    data, 0, 0, 0]

/- Every socket is writable, and takes up to eighteen bytes. -/
def writingIo : Nat → SlotIo :=
  fun _ =>
    { readable := false
      writable := true
      accept := .failed
      read := .wouldBlock
      write := .wrote 18 }

/- A connection whose first packet comes in two messages. -/
def sampleX11Run (data : UInt8) : List ChannelEvent :=
  [.message (.x11Open 3 []) (some 8),
    .message
      (.data 0 (bufferPutString []
        ((samplePacket data).take 7))) none,
    .prepareSelect,
    .message
      (.data 0 (bufferPutString []
        ((samplePacket data).drop 7))) none,
    .prepareSelect,
    .afterSelect writingIo]

/- The first packet goes on with the real cookie in it. -/
theorem x11_relay_tight_sample :
    ∃ table,
      FallibleRun.run (ChannelEvent.step sampleX11Conf)
          (.initial clearedMemory) (sampleX11Run 5) =
        .ok table ∧
      relayOf 0
          (transcript sampleX11Conf (.initial clearedMemory)
            (sampleX11Run 5)) =
        some
          { type := .x11Open
            received := samplePacket 5
            written := (samplePacket 9).take 18 } ∧
      ∀ relay,
        relayOf 0
            (transcript sampleX11Conf (.initial clearedMemory)
              (sampleX11Run 5)) = some relay →
        relay.written <+:
          sampleAuth.substituted relay.received := by
  cases hRun :
      FallibleRun.run (ChannelEvent.step sampleX11Conf)
        (.initial clearedMemory) (sampleX11Run 5) with
  | error halt =>
      have hRuns :
          (FallibleRun.run (ChannelEvent.step sampleX11Conf)
            (.initial clearedMemory)
            (sampleX11Run 5)).isOk = true := by
        decide +kernel
      rw [hRun] at hRuns
      cases hRuns
  | ok table =>
      have hRelays :
          (FallibleRun.run (ChannelEvent.step sampleX11Conf)
              (.initial clearedMemory)
              (sampleX11Run 5)).toOption.bind
              (fun table => relayOf 0 table.effects) =
            some
              { type := .x11Open
                received := samplePacket 5
                written := (samplePacket 9).take 18 } := by
        decide +kernel
      rw [hRun] at hRelays
      change relayOf 0 table.effects = _ at hRelays
      rw [← run_transcript hRun] at hRelays
      refine ⟨table, rfl, hRelays, ?_⟩
      intro relay hRelay
      have hTight :=
        (x11_relay_tight rfl hRun).1 _ List.prefix_rfl 0 relay
          hRelay
      rw [hRelays] at hRelay
      cases hRelay
      apply (hTight rfl).1
      refine ⟨?_, ?_, ?_, ?_⟩ <;> decide

/- The real data of the configuration, or any where none is. -/
theorem exists_saved
    (conf : ChannelConf) :
    ∃ auth : X11Auth, ∀ saved ∈ conf.x11Saved, saved = auth := by
  cases conf.x11Saved with
  | none => exact ⟨⟨[], [], [], rfl⟩, nofun⟩
  | some auth =>
      exact ⟨auth, fun saved hMem =>
        (Option.some.inj hMem).symm⟩

/-
  At every moment of every run, what has been written to the
  socket of any other channel is a beginning of what the peer
  has sent for it while it was open, and while the socket
  takes data the rest is in the buffer.
-/
theorem channel_relay_faithful
    {memory : Nat → Channel}
    {events : List ChannelEvent}
    (hRun :
      FallibleRun.run (ChannelEvent.step conf)
        (.initial memory) events = .ok table) :
    (∀ before,
      before <+: transcript conf (.initial memory) events →
      ∀ i relay, relayOf i before = some relay →
        relay.type ≠ .x11Open →
        relay.written <+: relay.received) ∧
    ∀ i relay,
      relayOf i (transcript conf (.initial memory) events) =
        some relay →
      relay.type ≠ .x11Open →
      (table.channels i).statusFlags.outputSocketClosed =
        false →
      relay.written ++ (table.channels i).output =
        relay.received := by
  rcases exists_saved conf with ⟨auth, hSaved⟩
  rcases run_relayInv hSaved hRun with ⟨hTable, hInv⟩
  rw [run_transcript hRun]
  constructor
  · intro before hBefore i relay hRelay hType
    exact (hInv.always before hBefore i relay hRelay).of_other
      hType
  · intro i relay hRelay hType hOpen
    rcases hInv.relaying i relay hRelay with ⟨-, hRelaying⟩
    cases hRelaying with
    | waiting hOrigin => exact absurd hOrigin hType
    | passing hUse hOther hCleared hKept =>
        rw [hKept]
        exact if_neg hType
    | closed hUse hOther hClosed => simp [hOpen] at hClosed

/- A connection to a port, of which some bytes are written. -/
def samplePortRun : List ChannelEvent :=
  [.message
      (.portOpen 3 (bufferPutInt (bufferPutString [] [104]) 25))
      (some 8),
    .message
      (.data 0 (bufferPutString [] (samplePacket 5))) none,
    .prepareSelect,
    .afterSelect writingIo]

/- Some of the data that came is written to the port. -/
theorem channel_relay_faithful_sample :
    ∃ table,
      FallibleRun.run (ChannelEvent.step plainConf)
          (.initial clearedMemory) samplePortRun =
        .ok table ∧
      relayOf 0
          (transcript plainConf (.initial clearedMemory)
            samplePortRun) =
        some
          { type := .opened
            received := samplePacket 5
            written := (samplePacket 5).take 18 } ∧
      ∀ before,
        before <+:
          transcript plainConf (.initial clearedMemory)
            samplePortRun →
        ∀ i relay, relayOf i before = some relay →
          relay.type ≠ .x11Open →
          relay.written <+: relay.received := by
  cases hRun :
      FallibleRun.run (ChannelEvent.step plainConf)
        (.initial clearedMemory) samplePortRun with
  | error halt =>
      have hRuns :
          (FallibleRun.run (ChannelEvent.step plainConf)
            (.initial clearedMemory)
            samplePortRun).isOk = true := by
        decide +kernel
      rw [hRun] at hRuns
      cases hRuns
  | ok table =>
      have hRelays :
          (FallibleRun.run (ChannelEvent.step plainConf)
              (.initial clearedMemory)
              samplePortRun).toOption.bind
              (fun table => relayOf 0 table.effects) =
            some
              { type := .opened
                received := samplePacket 5
                written := (samplePacket 5).take 18 } := by
        decide +kernel
      rw [hRun] at hRelays
      change relayOf 0 table.effects = _ at hRelays
      rw [← run_transcript hRun] at hRelays
      exact ⟨table, rfl, hRelays,
        (channel_relay_faithful hRun).1⟩

end Ssh1
