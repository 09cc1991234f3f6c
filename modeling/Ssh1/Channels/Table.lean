import Ssh1.Base.Buffer
import Mathlib.Data.Finset.Card
import Mathlib.Data.Finset.Range
import Mathlib.Logic.Function.Basic

/-
  The table of channels.

  A channel is a slot of a table that grows as needed. A slot
  that is not in use has the type `free`; the program counts
  the others and looks for the first free one when it makes a
  new channel.

  Main declarations:
    * `Channel`, `ChannelTable`
    * `channelAllocate`, `channelFree`
    * `ChannelTable.Counted`
    * `channelAllocate_eq_ok`
    * `channelFree_eq_ok`
-/

------------------------------------------------------------
-- Channels
------------------------------------------------------------

namespace Ssh1

/- The channel types. -/
inductive ChannelType where
  | free
  | x11Listener
  | portListener
  | opening
  | opened
  | x11Open
  | authListener
  deriving DecidableEq, Repr

/- The status flags of the new protocol. -/
structure StatusFlags where
  inputSocketClosed : Bool
  outputSocketClosed : Bool
  eofSent : Bool
  eofReceived : Bool
  closeSent : Bool
  closeReceived : Bool
  deriving DecidableEq, Repr

namespace StatusFlags

/- The flags of a channel that has just been opened. -/
def clear : StatusFlags :=
  ⟨false, false, false, false, false, false⟩

/- `STATUS_TERMINATE` is set as a whole. -/
def terminate (flags : StatusFlags) : Bool :=
  flags.inputSocketClosed && flags.outputSocketClosed &&
    flags.eofSent && flags.eofReceived &&
    flags.closeSent && flags.closeReceived

end StatusFlags

/- The fields of `Channel` that the code reads. -/
structure Channel where
  type : ChannelType
  sock : Int
  remoteId : Int
  localId : Nat
  statusFlags : StatusFlags
  input : Buffer
  output : Buffer
  path : List UInt8
  hostPort : Int
  listeningPort : Int
  isXConnection : Bool
  deriving DecidableEq, Repr

/- The slot belongs to a channel or a listener. -/
def Channel.InUse (ch : Channel) : Prop :=
  ch.type ≠ .free

instance (ch : Channel) : Decidable ch.InUse := by
  unfold Channel.InUse
  infer_instance

/-
  The messages about channels. A body is what the packet
  holds after the channel number.
-/
inductive ChannelMessage where
  | openConfirmation (channel remoteChannel : Int)
  | openFailure (channel : Int)
  | data (channel : Int) (body : Buffer)
  | inputEof (channel : Int)
  | outputClosed (channel : Int)
  | x11Open (remoteChannel : Int) (body : Buffer)
  | portOpen (remoteChannel : Int) (body : Buffer)
  | agentOpen (remoteChannel : Int)
  deriving DecidableEq, Repr

/-
  What happens to the slots. No function reads this record;
  it is what statements about runs are about.
-/
inductive ChannelEffect where
  | allocated (channel : Nat) (type : ChannelType)
  | freed (channel : Nat)
  -- a message, and the slot that it is about
  | sent (channel : Option Nat) (message : ChannelMessage)
  -- data that came in for the open channel in the slot
  | received (channel : Nat) (data : List UInt8)
  -- data that went to the socket of the slot
  | wrote (channel : Nat) (data : List UInt8)
  deriving DecidableEq, Repr

/- The `channels` array and what the code did with it. -/
structure ChannelTable where
  channels : Nat → Channel
  channelsAlloc : Nat
  channelsUsed : Int
  effects : List ChannelEffect

end Ssh1

------------------------------------------------------------
-- Updates
------------------------------------------------------------

namespace Ssh1

namespace ChannelTable

/- Changes one slot. -/
def modify
    (i : Nat)
    (f : Channel → Channel)
    (table : ChannelTable) : ChannelTable :=
  { table with
      channels :=
        Function.update table.channels i
          (f (table.channels i)) }

/- Records what happened. -/
def record
    (effect : ChannelEffect)
    (table : ChannelTable) : ChannelTable :=
  { table with effects := table.effects ++ [effect] }

variable {i j : Nat}
variable {f : Channel → Channel}
variable {effect : ChannelEffect}
variable {table : ChannelTable}

/- The slot is changed. -/
@[simp] theorem modify_channels_self :
    (table.modify i f).channels i =
      f (table.channels i) := by
  simp [modify]

/- The other slots stay. -/
theorem modify_channels_ne
    (hNe : j ≠ i) :
    (table.modify i f).channels j = table.channels j := by
  simp [modify, hNe]

@[simp] theorem modify_channelsAlloc :
    (table.modify i f).channelsAlloc =
      table.channelsAlloc := rfl

@[simp] theorem modify_channelsUsed :
    (table.modify i f).channelsUsed =
      table.channelsUsed := rfl

@[simp] theorem modify_effects :
    (table.modify i f).effects = table.effects := rfl

@[simp] theorem record_channels :
    (table.record effect).channels = table.channels := rfl

@[simp] theorem record_channelsAlloc :
    (table.record effect).channelsAlloc =
      table.channelsAlloc := rfl

@[simp] theorem record_channelsUsed :
    (table.record effect).channelsUsed =
      table.channelsUsed := rfl

/- The effect comes last. -/
@[simp] theorem record_effects :
    (table.record effect).effects =
      table.effects ++ [effect] := rfl

end ChannelTable

end Ssh1

------------------------------------------------------------
-- Allocation
------------------------------------------------------------

namespace Ssh1

/- No channels have been allocated yet. -/
def ChannelTable.initial
    (memory : Nat → Channel) : ChannelTable where
  channels := memory
  channelsAlloc := 0
  channelsUsed := 0
  effects := []

/- Marks the slots from `start` on as unused. -/
def ChannelTable.extend
    (start alloc : Nat)
    (table : ChannelTable) : ChannelTable :=
  { table with
      channels := fun i =>
        if start ≤ i ∧ i < alloc then
          { table.channels i with type := .free }
        else
          table.channels i
      channelsAlloc := alloc }

/- The first slot from `i` on that is free. -/
def firstFree
    (channels : Nat → Channel)
    (alloc i : Nat) : Option Nat :=
  (List.range' i (alloc - i)).find? fun j =>
    (channels j).type = .free

/- The fatal error of a table without a free slot. -/
def internalBug : Halt :=
  .fatal "Internal bug in channel_allocate."

/-
  The table with its initial allocation done and expanded
  when it is full, and where the search for a slot starts.
-/
def makeRoom (table : ChannelTable) : Nat × ChannelTable :=
  let table :=
    if table.channelsAlloc = 0 then
      table.extend 0 10
    else
      table
  if table.channelsUsed = (table.channelsAlloc : Int) then
    let first := table.channelsUsed.toNat
    (first, table.extend first (table.channelsAlloc + 10))
  else
    (0, table)

/- Takes a free slot and initializes its fields. -/
def takeSlot
    (type : ChannelType)
    (sock : Int)
    (i : Nat)
    (table : ChannelTable) : ChannelTable :=
  { (table.modify i fun ch =>
      { ch with
        type
        sock
        remoteId := -1
        localId := i
        statusFlags := .clear
        input := []
        output := []
        isXConnection := false }).record
      (.allocated i type) with
    channelsUsed := table.channelsUsed + 1 }

/- Allocates a new channel object. -/
def channelAllocate
    (type : ChannelType)
    (sock : Int)
    (table : ChannelTable) :
    Outcome (Nat × ChannelTable) :=
  let (start, table) := makeRoom table
  match firstFree table.channels table.channelsAlloc start with
  | none => .error internalBug
  | some i => .ok (i, takeSlot type sock i table)

/- Marks the slot free and counts it off. -/
def releaseSlot
    (channel : Nat)
    (table : ChannelTable) : ChannelTable :=
  { (table.modify channel fun ch =>
      { ch with type := .free, input := [], output := [] }).record
      (.freed channel) with
    channelsUsed := table.channelsUsed - 1 }

/- Frees the channel and closes its socket. -/
def channelFree
    (channel : Nat)
    (table : ChannelTable) : Outcome ChannelTable := do
  assert
    (channel < table.channelsAlloc ∧
      (table.channels channel).InUse)
  return releaseSlot channel table

end Ssh1

------------------------------------------------------------
-- Counting
------------------------------------------------------------

namespace Ssh1

/- The slots of the table that are in use. -/
def ChannelTable.inUse (table : ChannelTable) : Finset Nat :=
  (Finset.range table.channelsAlloc).filter fun i =>
    (table.channels i).InUse

/-
  The counter is the number of slots in use, and there are no
  more of them than slots.
-/
structure ChannelTable.Counted (table : ChannelTable) :
    Prop where
  used :
    table.channelsUsed = (table.inUse.card : Int)
  bound :
    table.channelsUsed ≤ (table.channelsAlloc : Int)

variable {table : ChannelTable}

/- A slot in use is below the allocated length. -/
theorem ChannelTable.mem_inUse
    {i : Nat} :
    i ∈ table.inUse ↔
      i < table.channelsAlloc ∧
        (table.channels i).InUse := by
  simp [inUse]

/- No more slots are in use than there are. -/
theorem ChannelTable.card_inUse_le :
    table.inUse.card ≤ table.channelsAlloc := by
  have hSubset :=
    Finset.card_filter_le
      (Finset.range table.channelsAlloc)
      fun i => (table.channels i).InUse
  simpa [inUse] using hSubset

/- A counter that counts is also bounded. -/
theorem ChannelTable.counted_of_used
    (hUsed :
      table.channelsUsed = (table.inUse.card : Int)) :
    table.Counted where
  used := hUsed
  bound := by
    have hCard := table.card_inUse_le
    omega

/- None is in use at first. -/
theorem ChannelTable.initial_counted
    (memory : Nat → Channel) :
    (ChannelTable.initial memory).Counted := by
  apply counted_of_used
  simp only [initial, inUse, Finset.range_zero]
  rfl

end Ssh1

------------------------------------------------------------
-- Room for a Channel
------------------------------------------------------------

namespace Ssh1

variable {table : ChannelTable}

/-
  Slots beyond the old ones are free, and those below are as
  they were.
-/
structure ChannelTable.Extends
    (table table' : ChannelTable) : Prop where
  grows : table.channelsAlloc ≤ table'.channelsAlloc
  same :
    ∀ i < table.channelsAlloc,
      table'.channels i = table.channels i
  free :
    ∀ i, table.channelsAlloc ≤ i →
      i < table'.channelsAlloc →
      (table'.channels i).type = .free
  used : table'.channelsUsed = table.channelsUsed
  effects : table'.effects = table.effects

theorem ChannelTable.Extends.refl
    (table : ChannelTable) :
    table.Extends table where
  grows := le_rfl
  same := fun _ _ => rfl
  free := fun _ hLow hHigh => absurd hHigh (by omega)
  used := rfl
  effects := rfl

/- The new slots are free. -/
theorem ChannelTable.extend_extends
    (table : ChannelTable)
    (n : Nat) :
    table.Extends
      (table.extend table.channelsAlloc
        (table.channelsAlloc + n)) where
  grows := Nat.le_add_right _ n
  same := by
    intro i hi
    have hOld :
        ¬ (table.channelsAlloc ≤ i ∧
          i < table.channelsAlloc + n) := by
      omega
    simp only [extend, hOld, if_false]
  free := by
    intro i hLow hHigh
    simp only [extend] at hHigh ⊢
    simp only [hLow, hHigh, and_self, if_true]
  used := rfl
  effects := rfl

theorem ChannelTable.Extends.trans
    {mid table' : ChannelTable}
    (hFirst : table.Extends mid)
    (hSecond : mid.Extends table') :
    table.Extends table' where
  grows := hFirst.grows.trans hSecond.grows
  same := by
    intro i hi
    rw [hSecond.same i (lt_of_lt_of_le hi hFirst.grows),
      hFirst.same i hi]
  free := by
    intro i hLow hHigh
    by_cases hMid : i < mid.channelsAlloc
    · rw [hSecond.same i hMid]
      exact hFirst.free i hLow hMid
    · exact hSecond.free i (by omega) hHigh
  used := by rw [hSecond.used, hFirst.used]
  effects := by rw [hSecond.effects, hFirst.effects]

/- Free slots do not count. -/
theorem ChannelTable.Extends.inUse_eq
    {table' : ChannelTable}
    (hExtends : table.Extends table') :
    table'.inUse = table.inUse := by
  ext i
  rw [mem_inUse, mem_inUse]
  constructor
  · rintro ⟨hi, hUse⟩
    have hOld : i < table.channelsAlloc := by
      by_contra hNew
      exact hUse (hExtends.free i (by omega) hi)
    rw [hExtends.same i hOld] at hUse
    exact ⟨hOld, hUse⟩
  · rintro ⟨hi, hUse⟩
    rw [← hExtends.same i hi] at hUse
    exact ⟨lt_of_lt_of_le hi hExtends.grows, hUse⟩

/- Free slots leave the count right. -/
theorem ChannelTable.Extends.counted
    {table' : ChannelTable}
    (hExtends : table.Extends table')
    (hCounted : table.Counted) :
    table'.Counted := by
  apply counted_of_used
  rw [hExtends.used, hExtends.inUse_eq]
  exact hCounted.used

/- Where fewer slots are in use than there are, one is free. -/
theorem ChannelTable.Counted.exists_free
    (hCounted : table.Counted)
    (hRoom :
      table.channelsUsed ≠ (table.channelsAlloc : Int)) :
    ∃ i < table.channelsAlloc,
      (table.channels i).type = .free := by
  by_contra hNone
  push Not at hNone
  have hAll :
      table.inUse = Finset.range table.channelsAlloc := by
    apply Finset.filter_true_of_mem
    intro i hi
    exact hNone i (Finset.mem_range.mp hi)
  apply hRoom
  rw [hCounted.used, hAll, Finset.card_range]

/- The search finds the first free slot. -/
theorem firstFree_eq_some
    {channels : Nat → Channel}
    {alloc start : Nat}
    (hFree :
      ∃ i, start ≤ i ∧ i < alloc ∧
        (channels i).type = .free) :
    ∃ i, firstFree channels alloc start = some i ∧
      i < alloc ∧ (channels i).type = .free := by
  cases hSearch : firstFree channels alloc start with
  | none =>
      rcases hFree with ⟨i, hLow, hHigh, hType⟩
      rw [firstFree, List.find?_eq_none] at hSearch
      have hNot := hSearch i (by
        rw [List.mem_range'_1]
        omega)
      simp [hType] at hNot
  | some i =>
      have hMem := List.mem_of_find?_eq_some hSearch
      have hType := List.find?_some hSearch
      rw [List.mem_range'_1] at hMem
      exact ⟨i, rfl, by omega, by simpa using hType⟩

/- There is room in the table that the search is made in. -/
theorem makeRoom_spec
    (hCounted : table.Counted) :
    ∃ start table',
      makeRoom table = (start, table') ∧
        table.Extends table' ∧
        ∃ i, start ≤ i ∧ i < table'.channelsAlloc ∧
          (table'.channels i).type = .free := by
  -- the initial allocation
  have hFirst :
      ∃ first,
        (if table.channelsAlloc = 0 then
          table.extend 0 10
        else
          table) = first ∧
        table.Extends first := by
    by_cases hNew : table.channelsAlloc = 0
    · refine ⟨_, rfl, ?_⟩
      rw [if_pos hNew]
      have hExtends := table.extend_extends 10
      rwa [hNew] at hExtends
    · exact ⟨_, if_neg hNew, .refl _⟩
  rcases hFirst with ⟨first, hEq, hExtends⟩
  have hNow := hExtends.counted hCounted
  unfold makeRoom
  rw [hEq]
  by_cases hFull :
      first.channelsUsed = (first.channelsAlloc : Int)
  · have hStart :
        first.channelsUsed.toNat = first.channelsAlloc := by
      rw [hFull]
      exact Int.toNat_natCast _
    simp only [hFull, if_true]
    have hMore := first.extend_extends 10
    refine ⟨_, _, rfl, hExtends.trans ?_,
      first.channelsAlloc, ?_, ?_, ?_⟩
    · simpa using hMore
    · simp
    · simp [ChannelTable.extend]
    · simpa using
        hMore.free first.channelsAlloc le_rfl (by
          simp [ChannelTable.extend])
  · simp only [hFull, if_false]
    rcases hNow.exists_free hFull with ⟨i, hi, hType⟩
    exact ⟨_, _, rfl, hExtends, i, Nat.zero_le i, hi, hType⟩

end Ssh1

------------------------------------------------------------
-- Allocating and Freeing
------------------------------------------------------------

namespace Ssh1

variable {table table' : ChannelTable}
variable {i : Nat}

/- The fields that a new channel starts with. -/
structure Channel.IsNew
    (ch : Channel)
    (type : ChannelType)
    (sock : Int)
    (i : Nat) : Prop where
  type_eq : ch.type = type
  sock_eq : ch.sock = sock
  remoteId_eq : ch.remoteId = -1
  localId_eq : ch.localId = i
  statusFlags_eq : ch.statusFlags = .clear
  input_eq : ch.input = []
  output_eq : ch.output = []
  isXConnection_eq : ch.isXConnection = false

/- The same, where the rest may have been set already. -/
structure Channel.IsFresh
    (ch : Channel)
    (type : ChannelType)
    (i : Nat) : Prop where
  type_eq : ch.type = type
  localId_eq : ch.localId = i
  statusFlags_eq : ch.statusFlags = .clear
  input_eq : ch.input = []
  output_eq : ch.output = []

/-
  One slot that was not in use is a new channel, and the
  other ones are as they were.
-/
structure ChannelTable.Allocates
    (type : ChannelType)
    (sock : Int)
    (table : ChannelTable)
    (i : Nat)
    (table' : ChannelTable) : Prop where
  bound : i < table'.channelsAlloc
  grows : table.channelsAlloc ≤ table'.channelsAlloc
  fresh :
    i < table.channelsAlloc → ¬ (table.channels i).InUse
  new : (table'.channels i).IsNew type sock i
  others :
    ∀ j < table.channelsAlloc, j ≠ i →
      table'.channels j = table.channels j
  unused :
    ∀ j, table.channelsAlloc ≤ j →
      j < table'.channelsAlloc → j ≠ i →
      ¬ (table'.channels j).InUse
  effects :
    table'.effects = table.effects ++ [.allocated i type]
  counted : table'.Counted

/- The other slots stay. -/
theorem takeSlot_channels_ne
    {type : ChannelType}
    {sock : Int}
    {j : Nat}
    (hj : j ≠ i) :
    (takeSlot type sock i table).channels j =
      table.channels j := by
  simp [takeSlot, ChannelTable.modify_channels_ne hj]

/- Allocation succeeds in every table that counts right. -/
theorem channelAllocate_eq_ok
    {type : ChannelType}
    (sock : Int)
    (hType : type ≠ .free)
    (hCounted : table.Counted) :
    ∃ i table',
      channelAllocate type sock table = .ok (i, table') ∧
        ChannelTable.Allocates type sock table i table' := by
  rcases makeRoom_spec hCounted with
    ⟨start, room, hRoom, hExtends, hFree⟩
  rcases firstFree_eq_some hFree with
    ⟨i, hFind, hi, hNone⟩
  refine ⟨i, takeSlot type sock i room, ?_, ?_⟩
  · rw [channelAllocate, hRoom]
    simp only
    rw [hFind]
  · have hInUse :
        (takeSlot type sock i room).inUse =
          insert i room.inUse := by
      ext j
      rw [Finset.mem_insert, ChannelTable.mem_inUse,
        ChannelTable.mem_inUse]
      by_cases hj : j = i
      · subst hj
        simp [takeSlot, Channel.InUse, hType, hi]
      · simp [takeSlot, ChannelTable.modify_channels_ne hj,
          hj]
    have hNot : i ∉ room.inUse := by
      rw [ChannelTable.mem_inUse]
      rintro ⟨-, hUse⟩
      exact hUse hNone
    refine ⟨hi, hExtends.grows, ?_, ?_, ?_, ?_, ?_, ?_⟩
    · intro hOld hUse
      rw [← hExtends.same i hOld] at hUse
      exact hUse hNone
    · constructor <;> simp [takeSlot]
    · intro j hOld hj
      rw [← hExtends.same j hOld]
      exact takeSlot_channels_ne hj
    · intro j hLow hHigh hj hUse
      rw [takeSlot_channels_ne hj] at hUse
      exact hUse (hExtends.free j hLow hHigh)
    · simp [takeSlot, hExtends.effects]
    · apply ChannelTable.counted_of_used
      rw [hInUse, Finset.card_insert_of_notMem hNot]
      simp [takeSlot, (hExtends.counted hCounted).used]

/- A slot that is in use is freed, and no other one. -/
theorem channelFree_eq_ok
    (hBound : i < table.channelsAlloc)
    (hUse : (table.channels i).InUse) :
    channelFree i table = .ok (releaseSlot i table) := by
  rw [channelFree, assert_of_true ⟨hBound, hUse⟩]
  rfl

/- Freeing a slot that is not in use fails the assertion. -/
theorem channelFree_eq_error
    (hFree : ¬ (table.channels i).InUse) :
    channelFree i table = .error .assertion := by
  rw [channelFree, assert_of_false (fun hUse =>
    hFree hUse.2)]
  rfl

/- The other slots stay here too. -/
theorem releaseSlot_channels_ne
    {j : Nat}
    (hj : j ≠ i) :
    (releaseSlot i table).channels j = table.channels j := by
  simp [releaseSlot, ChannelTable.modify_channels_ne hj]

/- The counter follows the slots. -/
theorem ChannelTable.Counted.releaseSlot
    (hCounted : table.Counted)
    (hBound : i < table.channelsAlloc)
    (hUse : (table.channels i).InUse) :
    (releaseSlot i table).Counted := by
  have hMem : i ∈ table.inUse :=
    mem_inUse.mpr ⟨hBound, hUse⟩
  have hInUse :
      (Ssh1.releaseSlot i table).inUse =
        table.inUse.erase i := by
    ext j
    rw [Finset.mem_erase, mem_inUse, mem_inUse]
    by_cases hj : j = i
    · subst hj
      simp [Ssh1.releaseSlot, Channel.InUse]
    · rw [releaseSlot_channels_ne hj]
      simp [Ssh1.releaseSlot, hj]
  apply counted_of_used
  have hUsed := hCounted.used
  have hPos := Finset.card_pos.mpr ⟨i, hMem⟩
  rw [hInUse, Finset.card_erase_of_mem hMem]
  simp only [Ssh1.releaseSlot]
  omega

/- A change that keeps a slot in use keeps the count. -/
theorem ChannelTable.Counted.modify
    {f : Channel → Channel}
    (hCounted : table.Counted)
    (hKeep :
      (f (table.channels i)).InUse ↔
        (table.channels i).InUse) :
    (table.modify i f).Counted := by
  have hInUse :
      (table.modify i f).inUse = table.inUse := by
    ext j
    rw [mem_inUse, mem_inUse]
    by_cases hj : j = i
    · subst hj
      simp [hKeep]
    · rw [modify_channels_ne hj]
      rfl
  apply counted_of_used
  rw [hInUse]
  exact hCounted.used

/- What is recorded does not count. -/
theorem ChannelTable.Counted.record
    (hCounted : table.Counted)
    (effect : ChannelEffect) :
    (table.record effect).Counted :=
  ⟨hCounted.used, hCounted.bound⟩

end Ssh1
