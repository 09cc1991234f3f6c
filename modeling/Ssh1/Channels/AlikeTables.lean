import Ssh1.Channels.Spoofing
import Ssh1.Lib.TwinRun
import Mathlib.Data.List.Forall2

/-
  Tables that differ in the real authentication data alone.

  The functions of the select loop do the same to both of
  them: they send the same messages, and the tables go on to
  differ in nothing else.

  Main declarations:
    * `Channel.Alike`, `ChannelTable.Alike`
    * `X11Auth.SameFake`
    * `x11CheckPacket_alike`
-/

------------------------------------------------------------
-- Tables That Are Alike
------------------------------------------------------------

namespace Ssh1

/-
  The channels differ in what they hold for the socket,
  which is of the same length, and which is the same while
  the first packet of a connection is read.
-/
structure Channel.Alike (ch ch' : Channel) : Prop where
  same : ch' = { ch with output := ch'.output }
  length_eq : ch'.output.length = ch.output.length
  held : ch.type = .x11Open → ch'.output = ch.output

/- The effects differ in what goes to a socket. -/
inductive ChannelEffect.Alike :
    ChannelEffect → ChannelEffect → Prop where
  | same (effect : ChannelEffect) : Alike effect effect
  | wrote
      (i : Nat)
      {data data' : List UInt8}
      (hLength : data'.length = data.length) :
      Alike (.wrote i data) (.wrote i data')

/- Two tables that differ in secret bytes only. -/
structure ChannelTable.Alike
    (table table' : ChannelTable) : Prop where
  channels :
    ∀ i, (table.channels i).Alike (table'.channels i)
  channelsAlloc_eq :
    table'.channelsAlloc = table.channelsAlloc
  channelsUsed_eq : table'.channelsUsed = table.channelsUsed
  effects :
    List.Forall₂ ChannelEffect.Alike table.effects
      table'.effects

/- A channel is like itself. -/
theorem Channel.Alike.refl
    (ch : Channel) :
    ch.Alike ch where
  same := rfl
  length_eq := rfl
  held := fun _ => rfl

namespace Channel.Alike

variable {ch ch' : Channel}

theorem type_eq
    (hAlike : ch.Alike ch') :
    ch'.type = ch.type := by
  rw [hAlike.same]

theorem sock_eq
    (hAlike : ch.Alike ch') :
    ch'.sock = ch.sock := by
  rw [hAlike.same]

theorem remoteId_eq
    (hAlike : ch.Alike ch') :
    ch'.remoteId = ch.remoteId := by
  rw [hAlike.same]

theorem localId_eq
    (hAlike : ch.Alike ch') :
    ch'.localId = ch.localId := by
  rw [hAlike.same]

theorem statusFlags_eq
    (hAlike : ch.Alike ch') :
    ch'.statusFlags = ch.statusFlags := by
  rw [hAlike.same]

theorem input_eq
    (hAlike : ch.Alike ch') :
    ch'.input = ch.input := by
  rw [hAlike.same]

theorem path_eq
    (hAlike : ch.Alike ch') :
    ch'.path = ch.path := by
  rw [hAlike.same]

theorem hostPort_eq
    (hAlike : ch.Alike ch') :
    ch'.hostPort = ch.hostPort := by
  rw [hAlike.same]

/- Alike channels have the same type of connection. -/
theorem isXConnection_eq
    (hAlike : ch.Alike ch') :
    ch'.isXConnection = ch.isXConnection := by
  rw [hAlike.same]

/- A change that does not look at the output keeps this. -/
theorem change
    (hAlike : ch.Alike ch')
    (f : Channel → Channel)
    (hSame :
      ∀ c output, f { c with output } = { f c with output })
    (hType : (f ch).type = .x11Open → ch.type = .x11Open) :
    (f ch).Alike (f ch') := by
  have hEq : f ch' = { f ch with output := ch'.output } := by
    rw [hAlike.same]
    exact hSame ch ch'.output
  have hOwn : (f ch).output = ch.output := by
    have hBack : f ch = { f ch with output := ch.output } :=
      hSame ch ch.output
    rw [hBack]
  refine ⟨?_, ?_, ?_⟩
  · rw [hEq]
  · rw [hEq, hOwn]
    exact hAlike.length_eq
  · intro hHeld
    rw [hEq, hOwn]
    exact hAlike.held (hType hHeld)

/- So does a change that puts the same output in both. -/
theorem replace
    (hAlike : ch.Alike ch')
    (f : Channel → Channel)
    (hSame : ∀ c output, f { c with output } = f c) :
    (f ch).Alike (f ch') := by
  have hEq : f ch' = f ch := by
    rw [hAlike.same]
    exact hSame ch ch'.output
  rw [hEq]
  exact .refl _

end Channel.Alike

namespace ChannelTable.Alike

variable {table table' : ChannelTable}

/- A table is like itself. -/
theorem refl
    (table : ChannelTable) :
    table.Alike table where
  channels := fun _ => .refl _
  channelsAlloc_eq := rfl
  channelsUsed_eq := rfl
  effects := List.forall₂_same.mpr fun e _ => .same e

/- The same slot is changed to alike channels. -/
theorem modify
    (hAlike : table.Alike table')
    (i : Nat)
    {f f' : Channel → Channel}
    (hChange :
      (f (table.channels i)).Alike
        (f' (table'.channels i))) :
    (table.modify i f).Alike (table'.modify i f') where
  channels := by
    intro j
    by_cases hj : j = i
    · subst hj
      rw [modify_channels_self, modify_channels_self]
      exact hChange
    · rw [modify_channels_ne hj, modify_channels_ne hj]
      exact hAlike.channels j
  channelsAlloc_eq := hAlike.channelsAlloc_eq
  channelsUsed_eq := hAlike.channelsUsed_eq
  effects := hAlike.effects

/- Both slots change without a look at the output. -/
theorem change
    (hAlike : table.Alike table')
    (i : Nat)
    (f : Channel → Channel)
    (hSame :
      ∀ c output, f { c with output } = { f c with output })
    (hType :
      (f (table.channels i)).type = .x11Open →
        (table.channels i).type = .x11Open) :
    (table.modify i f).Alike (table'.modify i f) :=
  hAlike.modify i ((hAlike.channels i).change f hSame hType)

/- Both slots get the same output. -/
theorem replace
    (hAlike : table.Alike table')
    (i : Nat)
    (f : Channel → Channel)
    (hSame : ∀ c output, f { c with output } = f c) :
    (table.modify i f).Alike (table'.modify i f) :=
  hAlike.modify i ((hAlike.channels i).replace f hSame)

/- Alike effects are recorded on both sides. -/
theorem record
    (hAlike : table.Alike table')
    {effect effect' : ChannelEffect}
    (hEffect : effect.Alike effect') :
    (table.record effect).Alike (table'.record effect') where
  channels := hAlike.channels
  channelsAlloc_eq := hAlike.channelsAlloc_eq
  channelsUsed_eq := hAlike.channelsUsed_eq
  effects :=
    List.rel_append hAlike.effects
      (List.Forall₂.cons hEffect .nil)

/- The same message is sent on both sides. -/
theorem channelSend
    (hAlike : table.Alike table')
    (i : Nat)
    (message : ChannelMessage) :
    (channelSend i message table).Alike
      (Ssh1.channelSend i message table') :=
  hAlike.record (.same _)

/- The flags hold no secret. -/
theorem setFlags
    (hAlike : table.Alike table')
    (i : Nat)
    (f : StatusFlags → StatusFlags) :
    (setFlags i f table).Alike (Ssh1.setFlags i f table') := by
  exact hAlike.change i
    (fun ch => { ch with statusFlags := f ch.statusFlags })
    (fun _ _ => rfl) id

/- The slot becomes free on both sides. -/
theorem releaseSlot
    (hAlike : table.Alike table')
    (i : Nat) :
    (releaseSlot i table).Alike
      (Ssh1.releaseSlot i table') := by
  have hFreed :=
    hAlike.replace i
      (fun ch =>
        { ch with type := .free, input := [], output := [] })
      fun _ _ => rfl
  refine ⟨hFreed.channels, hAlike.channelsAlloc_eq, ?_,
    (hAlike.record (.same (.freed i))).effects⟩
  simp only [Ssh1.releaseSlot, hAlike.channelsUsed_eq]

end ChannelTable.Alike

end Ssh1

------------------------------------------------------------
-- Closing
------------------------------------------------------------

namespace Ssh1

/- Both computations go the same way. -/
abbrev AlikeOutcomes
    (x x' : Outcome ChannelTable) : Prop :=
  FallibleRun.Agree ChannelTable.Alike x x'

namespace ChannelTable.Alike

variable {table table' : ChannelTable}
variable (hAlike : table.Alike table')
variable (i : Nat)

include hAlike

/- The same slots are in use. -/
theorem inUse_iff :
    (table'.channels i).InUse ↔ (table.channels i).InUse := by
  unfold Channel.InUse
  rw [(hAlike.channels i).type_eq]

/- `channel_free` does the same on both sides. -/
theorem channelFree :
    AlikeOutcomes (channelFree i table)
      (Ssh1.channelFree i table') := by
  unfold Ssh1.channelFree
  simp only [hAlike.channelsAlloc_eq, hAlike.inUse_iff]
  apply FallibleRun.Agree.bind_same
  intro _
  exact hAlike.releaseSlot i

/- The flags decide, and they are the same. -/
theorem channelCheckTermination :
    AlikeOutcomes (channelCheckTermination i table)
      (Ssh1.channelCheckTermination i table') := by
  unfold Ssh1.channelCheckTermination
  simp only [(hAlike.channels i).statusFlags_eq,
    (hAlike.channels i).localId_eq]
  apply FallibleRun.Agree.ite
  · intro _
    exact hAlike.channelFree _
  · intro _
    exact hAlike

/- The end of the input is told on both sides. -/
theorem channelSendIeof :
    AlikeOutcomes (channelSendIeof i table)
      (Ssh1.channelSendIeof i table') := by
  unfold Ssh1.channelSendIeof
  simp only [(hAlike.channels i).statusFlags_eq,
    ((hAlike.setFlags i _).channels i).remoteId_eq]
  apply FallibleRun.Agree.ite
  · intro _
    exact ((hAlike.setFlags i _).channelSend i
      _).channelCheckTermination i
  · intro _
    exact hAlike

/- The end of the output is told on both sides. -/
theorem channelSendOclosed :
    AlikeOutcomes (channelSendOclosed i table)
      (Ssh1.channelSendOclosed i table') := by
  unfold Ssh1.channelSendOclosed
  simp only [(hAlike.channels i).statusFlags_eq,
    ((hAlike.setFlags i _).channels i).remoteId_eq]
  apply FallibleRun.Agree.ite
  · intro _
    exact ((hAlike.setFlags i _).channelSend i
      _).channelCheckTermination i
  · intro _
    exact hAlike

/- The input side is closed on both sides. -/
theorem channelCloseInput :
    AlikeOutcomes (channelCloseInput i table)
      (Ssh1.channelCloseInput i table') := by
  unfold Ssh1.channelCloseInput
  simp only [(hAlike.channels i).statusFlags_eq,
    ((hAlike.setFlags i _).channels i).type_eq]
  apply FallibleRun.Agree.ite
  · intro _
    apply FallibleRun.Agree.ite
    · intro _
      exact (hAlike.setFlags i _).channelSendIeof i
    · intro _
      exact hAlike.setFlags i _
  · intro _
    exact hAlike

/- What an open channel holds for its socket is dropped. -/
theorem channelCloseOutput :
    AlikeOutcomes (channelCloseOutput i table)
      (Ssh1.channelCloseOutput i table') := by
  unfold Ssh1.channelCloseOutput
  simp only [(hAlike.channels i).statusFlags_eq]
  apply FallibleRun.Agree.ite
  · intro _
    apply ChannelTable.Alike.channelSendOclosed
    exact (hAlike.setFlags i _).replace i _ fun _ _ => rfl
  · intro _
    exact hAlike

/- The old way to close goes by the flags alone. -/
theorem closeKludge :
    AlikeOutcomes (closeKludge i table)
      (Ssh1.closeKludge i table') := by
  unfold Ssh1.closeKludge
  simp only [(hAlike.channels i).isXConnection_eq]
  apply FallibleRun.Agree.ite
  · intro _
    exact hAlike.channelCloseInput i
  · intro _
    exact hAlike

/- A channel that never opened is closed on both sides. -/
theorem closeUnopened :
    AlikeOutcomes (closeUnopened i table)
      (Ssh1.closeUnopened i table') := by
  unfold Ssh1.closeUnopened
  simp only [(hAlike.channels i).type_eq]
  apply FallibleRun.Agree.ite
  · intro _
    exact hAlike.channelCloseOutput i
  · intro _
    exact hAlike

/- The peer's end of input meets alike tables. -/
theorem channelReceiveIeof :
    AlikeOutcomes (channelReceiveIeof i table)
      (Ssh1.channelReceiveIeof i table') := by
  unfold Ssh1.channelReceiveIeof
  simp only [(hAlike.channels i).statusFlags_eq]
  apply FallibleRun.Agree.ite
  · intro _
    exact .error _
  · intro _
    apply ((hAlike.setFlags i _).closeKludge i).bind
    intro mid mid' hMid
    apply (hMid.closeUnopened i).bind
    intro last last' hLast
    exact hLast.channelCheckTermination i

/- The peer's end of output meets alike tables. -/
theorem channelReceiveOclosed :
    AlikeOutcomes (channelReceiveOclosed i table)
      (Ssh1.channelReceiveOclosed i table') := by
  unfold Ssh1.channelReceiveOclosed
  simp only [(hAlike.channels i).statusFlags_eq]
  apply FallibleRun.Agree.ite
  · intro _
    exact .error _
  · intro _
    have hCleared :=
      (hAlike.setFlags i
        fun flags =>
          { flags with closeReceived := true }).change i
        (fun ch => { ch with input := [] })
        (fun _ _ => rfl) id
    apply (hCleared.channelCloseInput i).bind
    intro mid mid' hMid
    exact hMid.channelCheckTermination i

omit i

/- The check of a channel number has the same answer. -/
theorem channelInUse_eq
    (channel : Int) :
    channelInUse channel table' = channelInUse channel table := by
  unfold channelInUse
  simp only [hAlike.channelsAlloc_eq,
    (hAlike.channels _).type_eq]

/- The message of the end of input. -/
theorem channelIeof
    (channel : Int) :
    AlikeOutcomes (channelIeof channel table)
      (Ssh1.channelIeof channel table') := by
  unfold Ssh1.channelIeof
  rw [hAlike.channelInUse_eq]
  cases channelInUse channel table with
  | none => exact .error _
  | some i => exact hAlike.channelReceiveIeof i

/- The message of the end of output. -/
theorem channelOclosed
    (channel : Int) :
    AlikeOutcomes (channelOclosed channel table)
      (Ssh1.channelOclosed channel table') := by
  unfold Ssh1.channelOclosed
  rw [hAlike.channelInUse_eq]
  cases channelInUse channel table with
  | none => exact .error _
  | some i => exact hAlike.channelReceiveOclosed i

end ChannelTable.Alike

end Ssh1

------------------------------------------------------------
-- Allocation
------------------------------------------------------------

namespace Ssh1

namespace ChannelTable.Alike

variable {table table' : ChannelTable}
variable (hAlike : table.Alike table')

include hAlike

/- The table grows by the same slots. -/
theorem extend
    (start alloc : Nat) :
    (table.extend start alloc).Alike
      (table'.extend start alloc) where
  channels := by
    intro i
    unfold ChannelTable.extend
    by_cases hNew : start ≤ i ∧ i < alloc
    · simp only [if_pos hNew]
      exact (hAlike.channels i).change
        (fun ch => { ch with type := .free })
        (fun _ _ => rfl) nofun
    · simp only [if_neg hNew]
      exact hAlike.channels i
  channelsAlloc_eq := rfl
  channelsUsed_eq := hAlike.channelsUsed_eq
  effects := hAlike.effects

/- The same slot is found, or the table grows alike. -/
theorem makeRoom :
    (makeRoom table').1 = (makeRoom table).1 ∧
      (makeRoom table).2.Alike (Ssh1.makeRoom table').2 := by
  have hFirst :
      (if table.channelsAlloc = 0 then
          table.extend 0 10
        else
          table).Alike
        (if table'.channelsAlloc = 0 then
          table'.extend 0 10
        else
          table') := by
    rw [hAlike.channelsAlloc_eq]
    by_cases hNone : table.channelsAlloc = 0
    · rw [if_pos hNone, if_pos hNone]
      exact hAlike.extend 0 10
    · rw [if_neg hNone, if_neg hNone]
      exact hAlike
  unfold Ssh1.makeRoom
  simp only
  generalize
    (if table.channelsAlloc = 0 then
      table.extend 0 10
    else
      table) = first at hFirst ⊢
  generalize
    (if table'.channelsAlloc = 0 then
      table'.extend 0 10
    else
      table') = first' at hFirst ⊢
  rw [hFirst.channelsAlloc_eq, hFirst.channelsUsed_eq]
  by_cases hFull :
      first.channelsUsed = (first.channelsAlloc : Int)
  · rw [if_pos hFull, if_pos hFull]
    exact ⟨rfl, hFirst.extend _ _⟩
  · rw [if_neg hFull, if_neg hFull]
    exact ⟨rfl, hFirst⟩

/- A new channel is the same on both sides. -/
theorem takeSlot
    (type : ChannelType)
    (sock : Int)
    (i : Nat) :
    (takeSlot type sock i table).Alike
      (Ssh1.takeSlot type sock i table') := by
  have hTaken :=
    hAlike.replace i
      (fun ch =>
        { ch with
          type
          sock
          remoteId := -1
          localId := i
          statusFlags := .clear
          input := []
          output := []
          isXConnection := false })
      fun _ _ => rfl
  refine ⟨hTaken.channels, hAlike.channelsAlloc_eq, ?_,
    (hAlike.record (.same (.allocated i type))).effects⟩
  simp only [Ssh1.takeSlot, hAlike.channelsUsed_eq]

/- Both tables give the same slot. -/
theorem channelAllocate
    (type : ChannelType)
    (sock : Int) :
    FallibleRun.Agree
      (fun new new' =>
        new'.1 = new.1 ∧ new.2.Alike new'.2)
      (channelAllocate type sock table)
      (Ssh1.channelAllocate type sock table') := by
  have hRoom := hAlike.makeRoom
  unfold Ssh1.channelAllocate
  generalize Ssh1.makeRoom table = made at hRoom ⊢
  generalize Ssh1.makeRoom table' = made' at hRoom ⊢
  rcases made with ⟨start, room⟩
  rcases made' with ⟨start', room'⟩
  rcases hRoom with ⟨hStart, hRoom⟩
  simp only at hStart hRoom ⊢
  have hFree :
      firstFree room'.channels room'.channelsAlloc start' =
        firstFree room.channels room.channelsAlloc start := by
    unfold firstFree
    simp only [hRoom.channelsAlloc_eq, hStart,
      (hRoom.channels _).type_eq]
  rw [hFree]
  cases firstFree room.channels room.channelsAlloc start with
  | none => exact .error _
  | some i => exact ⟨rfl, hRoom.takeSlot type sock i⟩

end ChannelTable.Alike

end Ssh1

------------------------------------------------------------
-- Around Select
------------------------------------------------------------

namespace Ssh1

/- The same fake data, and the real data of one length. -/
structure X11Auth.SameFake (auth auth' : X11Auth) : Prop where
  proto : auth'.savedProto = auth.savedProto
  fake : auth'.fakeData = auth.fakeData

/- A process with the authentication data of a display. -/
abbrev ChannelConf.saving
    (auth : X11Auth)
    (conf : ChannelConf) : ChannelConf :=
  { conf with x11Saved := some auth }

/- Verdicts that differ in the data that is put in. -/
inductive X11Verdict.Alike :
    X11Verdict → X11Verdict → Prop where
  | incomplete : Alike .incomplete .incomplete
  | rejected : Alike .rejected .rejected
  | accepted
      {output output' : Buffer}
      (hLength : output'.length = output.length) :
      Alike (.accepted output) (.accepted output')

namespace X11Auth.SameFake

variable {auth auth' : X11Auth}
variable (hFake : auth.SameFake auth')

include hFake

/- Two cookies of one length stand at the same place. -/
theorem dataOffset_eq :
    auth'.dataOffset = auth.dataOffset := by
  unfold dataOffset
  rw [hFake.proto]

/- What is genuine does not depend on the real data. -/
theorem genuine_iff
    (stream : List UInt8) :
    auth'.Genuine stream ↔ auth.Genuine stream := by
  constructor
  · rintro ⟨hLens, hComplete, hProto, hData⟩
    rw [hFake.proto, hFake.fake] at hLens
    rw [hFake.dataOffset_eq, hFake.fake] at hComplete hData
    rw [hFake.proto] at hProto
    exact ⟨hLens, hComplete, hProto, hData⟩
  · rintro ⟨hLens, hComplete, hProto, hData⟩
    rw [← hFake.proto, ← hFake.fake] at hLens
    rw [← hFake.dataOffset_eq, ← hFake.fake]
      at hComplete hData
    rw [← hFake.proto] at hProto
    exact ⟨hLens, hComplete, hProto, hData⟩

/- The verdict on what is not genuine is found without it. -/
theorem x11CheckPacket_alike
    (output : Buffer) :
    FallibleRun.Agree X11Verdict.Alike
      (x11CheckPacket auth output)
      (x11CheckPacket auth' output) := by
  by_cases hGenuine : auth.Genuine output
  · have hGenuine' := (hFake.genuine_iff output).mpr hGenuine
    rw [x11CheckPacket_genuine hGenuine,
      x11CheckPacket_genuine hGenuine']
    apply X11Verdict.Alike.accepted
    rw [length_substituted hGenuine'.data_le,
      length_substituted hGenuine.data_le]
  · have hNot : ¬ auth'.Genuine output := by
      rw [hFake.genuine_iff]
      exact hGenuine
    by_cases hComplete : X11Complete output
    · rw [x11CheckPacket_rejected hComplete hGenuine,
        x11CheckPacket_rejected hComplete hNot]
      exact .rejected
    · rw [x11CheckPacket_incomplete hComplete,
        x11CheckPacket_incomplete hComplete]
      exact .incomplete

end X11Auth.SameFake

namespace ChannelTable.Alike

variable {table table' : ChannelTable}
variable (hAlike : table.Alike table')
variable {auth auth' : X11Auth}
variable (hFake : auth.SameFake auth')
variable (conf : ChannelConf)
variable (i : Nat)

/- The tables are alike and the sets are the same. -/
def WithSets
    (state state' : ChannelTable × FdSets) : Prop :=
  state.1.Alike state'.1 ∧ state'.2 = state.2

include hAlike

/- An X11 channel opens at the same packet on both sides. -/
theorem prepareOpened
    (sets : FdSets) :
    FallibleRun.Agree WithSets
      (prepareOpened (conf.saving auth) i table sets)
      (Ssh1.prepareOpened (conf.saving auth') i table'
        sets) := by
  unfold Ssh1.prepareOpened
  simp only [(hAlike.channels i).input_eq,
    (hAlike.channels i).statusFlags_eq,
    (hAlike.channels i).length_eq]
  apply FallibleRun.Agree.ite
  · intro _
    apply FallibleRun.Agree.ite
    · intro _
      exact ⟨hAlike, rfl⟩
    · intro _
      apply FallibleRun.Agree.ite
      · intro _
        apply (hAlike.channelCloseOutput i).bind
        intro mid mid' hMid
        exact ⟨hMid, rfl⟩
      · intro _
        exact ⟨hAlike, rfl⟩
  · intro _
    exact ⟨hAlike, rfl⟩

/- A wrong cookie closes both channels. -/
theorem rejectX11 :
    AlikeOutcomes (rejectX11 i table)
      (Ssh1.rejectX11 i table') := by
  unfold Ssh1.rejectX11
  have hDropped :=
    hAlike.replace i
      (fun ch =>
        { ch with type := .opened, input := [], output := [] })
      fun _ _ => rfl
  apply (hDropped.channelCloseInput i).bind
  intro mid mid' hMid
  exact hMid.channelCloseOutput i

include hFake

/- Only here the real data gets into a buffer. -/
theorem prepareX11Open
    (hType : (table.channels i).type = .x11Open)
    (sets : FdSets) :
    FallibleRun.Agree WithSets
      (prepareX11Open (conf.saving auth) i table sets)
      (Ssh1.prepareX11Open (conf.saving auth') i table'
        sets) := by
  unfold Ssh1.prepareX11Open
  simp only [(hAlike.channels i).held hType]
  apply (hFake.x11CheckPacket_alike _).bind
  intro verdict verdict' hVerdict
  cases hVerdict with
  | incomplete => exact ⟨hAlike, rfl⟩
  | rejected =>
      apply (hAlike.rejectX11 i).bind
      intro mid mid' hMid
      exact ⟨hMid, rfl⟩
  | accepted hLength =>
      apply ChannelTable.Alike.prepareOpened
      apply hAlike.modify
      refine ⟨?_, hLength, nofun⟩
      rw [(hAlike.channels i).same]

/- One slot asks for the same descriptors. -/
omit hAlike in
theorem prepareSlot
    {state state' : ChannelTable × FdSets}
    (hState : WithSets state state') :
    FallibleRun.Agree WithSets
      (prepareSlot (conf.saving auth) state i)
      (Ssh1.prepareSlot (conf.saving auth') state' i) := by
  rcases state with ⟨table, sets⟩
  rcases state' with ⟨table', sets'⟩
  rcases hState with ⟨hAlike, hSets⟩
  simp only at hAlike hSets
  subst hSets
  unfold Ssh1.prepareSlot
  simp only [(hAlike.channels i).type_eq]
  cases hType : (table.channels i).type with
  | free => exact ⟨hAlike, rfl⟩
  | x11Listener => exact ⟨hAlike, rfl⟩
  | portListener => exact ⟨hAlike, rfl⟩
  | opening => exact ⟨hAlike, rfl⟩
  | opened => exact hAlike.prepareOpened conf i sets'
  | x11Open =>
      exact hAlike.prepareX11Open hFake conf i hType sets'
  | authListener => exact ⟨hAlike, rfl⟩

/- By the rule for a loop over the slots. -/
theorem channelPrepareSelect :
    FallibleRun.Agree WithSets
      (channelPrepareSelect (conf.saving auth) table)
      (Ssh1.channelPrepareSelect (conf.saving auth')
        table') := by
  unfold Ssh1.channelPrepareSelect
  rw [hAlike.channelsAlloc_eq]
  apply FallibleRun.Agree.run
  · intro state state' i hState
    exact prepareSlot hFake conf i hState
  · exact ⟨hAlike, rfl⟩

omit hFake

/- A new X11 connection is announced alike. -/
theorem acceptX11
    (newsock : Int)
    (originator : List UInt8) :
    AlikeOutcomes
      (acceptX11 (conf.saving auth) newsock originator table)
      (Ssh1.acceptX11 (conf.saving auth') newsock originator
        table') := by
  unfold Ssh1.acceptX11
  apply (hAlike.channelAllocate .opening newsock).bind
  rintro ⟨newch, mid⟩ ⟨newch', mid'⟩ ⟨hNew, hMid⟩
  simp only at hNew hMid ⊢
  subst hNew
  apply ChannelTable.Alike.channelSend
  exact hMid.change newch' (fun ch =>
    { ch with isXConnection := true }) (fun _ _ => rfl) id

/- A new forwarded connection is announced alike. -/
theorem acceptPort
    (newsock : Int)
    (originator : List UInt8) :
    AlikeOutcomes
      (acceptPort (conf.saving auth) i newsock originator
        table)
      (Ssh1.acceptPort (conf.saving auth') i newsock
        originator table') := by
  unfold Ssh1.acceptPort
  apply (hAlike.channelAllocate .opening newsock).bind
  rintro ⟨newch, mid⟩ ⟨newch', mid'⟩ ⟨hNew, hMid⟩
  simp only at hNew hMid ⊢
  subst hNew
  rw [(hMid.channels i).path_eq, (hMid.channels i).hostPort_eq]
  exact hMid.channelSend _ _

/- A new agent connection is announced alike. -/
theorem acceptAuth
    (newsock : Int) :
    AlikeOutcomes (acceptAuth newsock table)
      (Ssh1.acceptAuth newsock table') := by
  unfold Ssh1.acceptAuth
  apply (hAlike.channelAllocate .opening newsock).bind
  rintro ⟨newch, mid⟩ ⟨newch', mid'⟩ ⟨hNew, hMid⟩
  simp only at hNew hMid ⊢
  subst hNew
  exact hMid.channelSend _ _

/- A listener accepts on both sides or on neither. -/
theorem acceptSlot
    (io : SlotIo)
    {opens opens' :
      Int → List UInt8 → ChannelTable → Outcome ChannelTable}
    (hOpens :
      ∀ sock originator,
        AlikeOutcomes (opens sock originator table)
          (opens' sock originator table')) :
    AlikeOutcomes (acceptSlot io table opens)
      (Ssh1.acceptSlot io table' opens') := by
  unfold Ssh1.acceptSlot
  apply FallibleRun.Agree.ite
  · intro _
    cases io.accept with
    | failed => exact hAlike
    | refused => exact hAlike
    | accepted sock originator => exact hOpens sock originator
  · intro _
    exact hAlike

/- The same number of bytes is written. -/
theorem writeOpened
    (io : SlotIo) :
    AlikeOutcomes (writeOpened io i table)
      (Ssh1.writeOpened io i table') := by
  unfold Ssh1.writeOpened
  have hLength := (hAlike.channels i).length_eq
  simp only [hLength]
  apply FallibleRun.Agree.ite
  · intro _
    cases io.write with
    | wouldBlock => exact hAlike
    | failed => exact hAlike.channelCloseOutput i
    | wrote len =>
        simp only
        apply FallibleRun.Agree.ite
        · intro _
          exact hAlike.channelCloseOutput i
        · intro _
          have hLe := Nat.min_le_right len
            (table.channels i).output.length
          rw [bufferConsume_of_le hLe,
            bufferConsume_of_le (by rwa [hLength]),
            FallibleRun.ok_bind, FallibleRun.ok_bind]
          apply ChannelTable.Alike.record
          · apply hAlike.modify
            refine ⟨?_, ?_, ?_⟩
            · rw [(hAlike.channels i).same]
            · simp only [List.length_drop, hLength]
            · intro hHeld
              simp only [(hAlike.channels i).held hHeld]
          · apply ChannelEffect.Alike.wrote
            simp only [List.length_take, hLength]
  · intro _
    exact hAlike

/- An open channel reads and writes on both sides. -/
theorem afterOpened
    (io : SlotIo) :
    AlikeOutcomes
      (afterOpened (conf.saving auth) io i table)
      (Ssh1.afterOpened (conf.saving auth') io i table') := by
  unfold Ssh1.afterOpened
  apply FallibleRun.Agree.ite
  · intro _
    cases io.read with
    | wouldBlock => exact hAlike.writeOpened i io
    | failed => exact hAlike.channelCloseInput i
    | bytes data =>
        apply FallibleRun.Agree.ite
        · intro _
          exact hAlike.channelCloseInput i
        · intro _
          apply ChannelTable.Alike.writeOpened
          exact hAlike.change i
            (fun ch =>
              { ch with
                  input :=
                    bufferAppend ch.input
                      (data.take (readSize conf)) })
            (fun _ _ => rfl) id
  · intro _
    exact hAlike.writeOpened i io

/- What one slot does after `select`. -/
theorem afterSlot
    (io : Nat → SlotIo) :
    AlikeOutcomes (afterSlot (conf.saving auth) io table i)
      (Ssh1.afterSlot (conf.saving auth') io table' i) := by
  unfold Ssh1.afterSlot
  simp only [(hAlike.channels i).type_eq]
  cases (table.channels i).type with
  | free => exact hAlike
  | x11Listener =>
      apply hAlike.acceptSlot
      intro sock originator
      exact hAlike.acceptX11 conf sock originator
  | portListener =>
      apply hAlike.acceptSlot
      intro sock originator
      exact hAlike.acceptPort conf i sock originator
  | opening => exact hAlike
  | opened => exact hAlike.afterOpened conf i (io i)
  | x11Open => exact hAlike
  | authListener =>
      apply hAlike.acceptSlot
      intro sock originator
      exact hAlike.acceptAuth sock

/- By the rule for a loop over the slots again. -/
theorem channelAfterSelect
    (io : Nat → SlotIo) :
    AlikeOutcomes
      (channelAfterSelect (conf.saving auth) io table)
      (Ssh1.channelAfterSelect (conf.saving auth') io
        table') := by
  unfold Ssh1.channelAfterSelect
  rw [hAlike.channelsAlloc_eq]
  apply FallibleRun.Agree.run ?_ _ hAlike
  intro mid mid' i hMid
  exact hMid.afterSlot conf i io

/- One slot sends the same data. -/
theorem outputSlot :
    AlikeOutcomes (outputSlot (conf.saving auth) table i)
      (Ssh1.outputSlot (conf.saving auth') table' i) := by
  unfold Ssh1.outputSlot
  simp only [(hAlike.channels i).type_eq,
    (hAlike.channels i).input_eq,
    (hAlike.channels i).statusFlags_eq,
    (hAlike.channels i).remoteId_eq]
  apply FallibleRun.Agree.ite
  · intro _
    exact hAlike
  · intro _
    apply FallibleRun.Agree.ite
    · intro _
      apply FallibleRun.Agree.bind_same
      intro rest
      exact (hAlike.channelSend i _).change i
        (fun ch => { ch with input := rest })
        (fun _ _ => rfl) id
    · intro _
      apply FallibleRun.Agree.ite
      · intro _
        exact hAlike.channelSendIeof i
      · intro _
        exact hAlike

/- All slots send the same data. -/
theorem channelOutputPoll
    (notVeryMuch : Nat → Bool) :
    AlikeOutcomes
      (channelOutputPoll (conf.saving auth) notVeryMuch table)
      (Ssh1.channelOutputPoll (conf.saving auth') notVeryMuch
        table') := by
  unfold Ssh1.channelOutputPoll
  rw [hAlike.channelsAlloc_eq]
  apply FallibleRun.Agree.run ?_ _ hAlike
  intro mid mid' i hMid
  exact hMid.outputSlot conf i

end ChannelTable.Alike

end Ssh1
