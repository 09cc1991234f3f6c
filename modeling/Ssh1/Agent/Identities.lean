import Ssh1.Base.Buffer
import Ssh1.Rsa.Keys
import Ssh1.Lib.KeyedList

/-
  The identities that the authentication agent holds.

  They lie in an array that grows by one slot for every new
  identity and is freed when the last one is gone. Each slot
  either owns an identity or must not be read.

  Main declarations:
    * `IdentityStore`
    * `IdentityStore.add`, `IdentityStore.remove`
    * `IdentityStore.Holds`
    * `Holds.add_eq`, `Holds.remove_eq`, `Holds.removeAll_eq`
-/

------------------------------------------------------------
-- The Array
------------------------------------------------------------

namespace Ssh1

/- An entry of the agent's `identities` array. -/
structure Identity where
  key : RSAPrivateKey
  comment : List UInt8
  deriving DecidableEq

/-
  `num_identities` and what `identities` points to. A slot is
  `none` before it is filled and after it was cleared; there
  is no array before the first identity is added and after
  the array was freed.
-/
structure IdentityStore where
  numIdentities : Nat
  identities : Option (List (Option Identity))
  deriving DecidableEq

namespace IdentityStore

/- The store of an agent that has just started. -/
def empty : IdentityStore where
  numIdentities := 0
  identities := none

/- `identities[i]`, where it is read -/
def get
    (store : IdentityStore)
    (i : Nat) : Outcome Identity :=
  match store.identities with
  | none => .error .outOfBounds
  | some slots =>
      match slots[i]? with
      | some (some identity) => .ok identity
      | _ => .error .outOfBounds

/- `identities[i]`, where it is filled or cleared -/
def put
    (store : IdentityStore)
    (i : Nat)
    (slot : Option Identity) : Outcome IdentityStore :=
  match store.identities with
  | none => .error .outOfBounds
  | some slots =>
      if i < slots.length then
        .ok { store with identities := some (slots.set i slot) }
      else
        .error .outOfBounds

/- Frees what the slot owns. -/
def clear
    (store : IdentityStore)
    (i : Nat) : Outcome IdentityStore := do
  let _ ← store.get i
  store.put i none

/- `xmalloc` and `xrealloc` make room for one more slot. -/
def reserve (store : IdentityStore) : Outcome IdentityStore :=
  if store.numIdentities = 0 then
    .ok { store with identities := some [none] }
  else
    match store.identities with
    | none => .error .outOfBounds
    | some slots =>
        let size := store.numIdentities + 1
        .ok { store with
          identities := some
            (slots.take size ++
              List.replicate (size - slots.length) none) }

/- The loop that looks for an identity, from slot `i` on. -/
def findFrom
    (store : IdentityStore)
    (isWanted : Identity → Bool) :
    (left i : Nat) → Outcome (Option Nat)
| 0, _ => .ok none
| left + 1, i => do
    let identity ← store.get i
    if isWanted identity then
      return some i
    else
      findFrom store isWanted left (i + 1)

/- The first index, up to `num_identities`, that is wanted. -/
def find
    (store : IdentityStore)
    (isWanted : Identity → Bool) : Outcome (Option Nat) :=
  store.findFrom isWanted store.numIdentities 0

/- The loop that reads all identities, from slot `i` on. -/
def readFrom
    (store : IdentityStore) :
    (left i : Nat) → Outcome (List Identity)
| 0, _ => .ok []
| left + 1, i => do
    let identity ← store.get i
    let identities ← readFrom store left (i + 1)
    return identity :: identities

/- All the entries, up to `num_identities`. -/
def read (store : IdentityStore) : Outcome (List Identity) :=
  store.readFrom store.numIdentities 0

/-
  The part of `process_add_identity` behind the fields: they
  are stored in the slot beyond the count.
-/
def add
    (store : IdentityStore)
    (identity : Identity) : Outcome IdentityStore := do
  let store ← store.reserve
  let store ← store.put store.numIdentities (some identity)
  match ← store.find fun other =>
      other.key.n = identity.key.n with
  | some _ =>
      -- the new data is freed again
      store.clear store.numIdentities
  | none =>
      return { store with
        numIdentities := store.numIdentities + 1 }

/- Moves the last identity to the slot that was cleared. -/
def compact
    (store : IdentityStore)
    (i : Nat) : Outcome IdentityStore :=
  if i < store.numIdentities - 1 then do
    let last ← store.get (store.numIdentities - 1)
    store.put i (some last)
  else
    .ok store

/-
  `process_remove_identity` behind the fields: whether the
  key was there, and the identities without it.
-/
def remove
    (store : IdentityStore)
    (n : Nat) : Outcome (Bool × IdentityStore) := do
  match ← store.find fun identity => identity.key.n = n with
  | none => return (false, store)
  | some i => do
      let store ← store.clear i
      let store ← store.compact i
      let numIdentities := store.numIdentities - 1
      return (true, {
        numIdentities := numIdentities
        identities :=
          if numIdentities = 0 then none
          else store.identities })

/- The loop that clears all identities, from slot `i` on. -/
def clearFrom :
    (left i : Nat) → IdentityStore → Outcome IdentityStore
| 0, _, store => .ok store
| left + 1, i, store => do
    let store ← store.clear i
    clearFrom left (i + 1) store

/- `process_remove_all_identities` without its reply -/
def removeAll (store : IdentityStore) : Outcome IdentityStore := do
  let store ← clearFrom store.numIdentities 0 store
  return {
    numIdentities := 0
    identities :=
      if store.numIdentities ≠ 0 then none
      else store.identities }

end IdentityStore

end Ssh1

------------------------------------------------------------
-- What the Array Holds
------------------------------------------------------------

namespace Ssh1

namespace IdentityStore

/- The counted slots own these identities. -/
structure Holds
    (store : IdentityStore)
    (held : List Identity) : Prop where
  count : store.numIdentities = held.length
  slots :
    if held = [] then
      store.identities = none
    else
      ∃ spare,
        store.identities = some (held.map some ++ spare)

/- The agent starts with no identity. -/
theorem empty_holds : empty.Holds [] where
  count := rfl
  slots := rfl

variable {store : IdentityStore}
variable {held : List Identity}

/- The array says which identities it holds. -/
theorem Holds.unique
    (hHolds : store.Holds held)
    {others : List Identity}
    (hOthers : store.Holds others) :
    held = others := by
  have hLength : held.length = others.length :=
    hHolds.count.symm.trans hOthers.count
  have hSlots := hHolds.slots
  have hOtherSlots := hOthers.slots
  by_cases hNil : held = []
  · rw [hNil, List.length_nil] at hLength
    rw [hNil, List.eq_nil_of_length_eq_zero hLength.symm]
  · have hSome : others ≠ [] := by
      rintro rfl
      exact hNil (List.eq_nil_of_length_eq_zero hLength)
    rw [if_neg hNil] at hSlots
    rw [if_neg hSome] at hOtherSlots
    rcases hSlots with ⟨spare, hSlots⟩
    rcases hOtherSlots with ⟨spare', hOtherSlots⟩
    rw [hSlots, Option.some.injEq] at hOtherSlots
    have hSame :=
      (List.append_inj hOtherSlots (by simpa using hLength)).1
    exact List.map_injective_iff.mpr
      (Option.some_injective _) hSame

/- The first slots can be read as these identities. -/
def Owns
    (store : IdentityStore)
    (held : List Identity) : Prop :=
  ∀ i identity,
    held[i]? = some identity → store.get i = .ok identity

/- The array with spare room behind it. -/
theorem owns_of_slots
    {spare : List (Option Identity)}
    (hSlots :
      store.identities = some (held.map some ++ spare)) :
    store.Owns held := by
  intro i identity hMember
  rcases List.getElem?_eq_some_iff.mp hMember with
    ⟨hLength, hValue⟩
  rw [get, hSlots]
  simp [List.getElem?_append_left, hLength, hValue]

theorem Holds.owns
    (hHolds : store.Holds held) :
    store.Owns held := by
  by_cases hNil : held = []
  · intro i identity hMember
    simp [hNil] at hMember
  · have hSlots := hHolds.slots
    rw [if_neg hNil] at hSlots
    rcases hSlots with ⟨spare, hSlots⟩
    exact owns_of_slots hSlots

/- A loop over the slots from `i` on sees these identities. -/
theorem Owns.get_of_drop
    (hOwns : store.Owns held)
    {i : Nat}
    {identity : Identity}
    {rest : List Identity}
    (hDrop : held.drop i = identity :: rest) :
    store.get i = .ok identity ∧ held.drop (i + 1) = rest := by
  constructor
  · apply hOwns
    have hHead : (held.drop i)[0]? = some identity := by
      simp [hDrop]
    simpa using hHead
  · rw [← List.drop_drop, hDrop]
    rfl

/- By induction on what is left of the array. -/
theorem Owns.findFrom_eq
    (hOwns : store.Owns held)
    (isWanted : Identity → Bool)
    (rest : List Identity)
    {i : Nat}
    (hDrop : held.drop i = rest) :
    store.findFrom isWanted rest.length i =
      .ok ((rest.findIdx? isWanted).map (· + i)) := by
  induction rest generalizing i with
  | nil => rfl
  | cons identity rest ih =>
      rcases hOwns.get_of_drop hDrop with ⟨hGet, hNext⟩
      rw [List.length_cons, findFrom, hGet,
        FallibleRun.ok_bind, List.findIdx?_cons]
      cases hWanted : isWanted identity with
      | true => simp
      | false =>
          rw [if_neg (by simp), ih hNext]
          cases rest.findIdx? isWanted with
          | none => rfl
          | some j =>
              simp only [Bool.false_eq_true, if_false,
                Option.map_some]
              rw [Nat.add_right_comm, Nat.add_assoc]

/- The loop finds the first identity that is wanted. -/
theorem Owns.find_eq
    (hOwns : store.Owns held)
    (hCount : store.numIdentities = held.length)
    (isWanted : Identity → Bool) :
    store.find isWanted = .ok (held.findIdx? isWanted) := by
  rw [find, hCount,
    hOwns.findFrom_eq isWanted held List.drop_zero]
  simp

/- By induction on what is left here too. -/
theorem Owns.readFrom_eq
    (hOwns : store.Owns held)
    (rest : List Identity)
    {i : Nat}
    (hDrop : held.drop i = rest) :
    store.readFrom rest.length i = .ok rest := by
  induction rest generalizing i with
  | nil => rfl
  | cons identity rest ih =>
      rcases hOwns.get_of_drop hDrop with ⟨hGet, hNext⟩
      rw [List.length_cons, readFrom, hGet,
        FallibleRun.ok_bind, ih hNext]
      rfl

/- The first entry that is wanted. -/
theorem Holds.find_eq
    (hHolds : store.Holds held)
    (isWanted : Identity → Bool) :
    store.find isWanted = .ok (held.findIdx? isWanted) :=
  hHolds.owns.find_eq hHolds.count isWanted

theorem Holds.read_eq
    (hHolds : store.Holds held) :
    store.read = .ok held := by
  rw [read, hHolds.count,
    hHolds.owns.readFrom_eq held List.drop_zero]

end IdentityStore

end Ssh1

------------------------------------------------------------
-- Adding
------------------------------------------------------------

namespace Ssh1

namespace IdentityStore

variable {store : IdentityStore}
variable {held : List Identity}

/- There is exactly one more slot than identities. -/
theorem Holds.reserve_eq
    (hHolds : store.Holds held) :
    ∃ slot,
      store.reserve = .ok {
        numIdentities := held.length
        identities := some (held.map some ++ [slot]) } := by
  by_cases hNil : held = []
  · refine ⟨none, ?_⟩
    have hCount : store.numIdentities = 0 := by
      rw [hHolds.count, hNil, List.length_nil]
    rw [reserve, if_pos hCount, hCount, hNil]
    rfl
  · have hSlots := hHolds.slots
    rw [if_neg hNil] at hSlots
    rcases hSlots with ⟨spare, hSlots⟩
    have hCount := hHolds.count
    have hPos := List.length_pos_iff.mpr hNil
    have hSome : ¬ store.numIdentities = 0 := by omega
    rw [reserve, if_neg hSome, hSlots, hCount]
    have hTake :
        (held.map some ++ spare).take (held.length + 1) =
          held.map some ++ spare.take 1 := by
      rw [List.take_append, List.length_map,
        Nat.add_sub_cancel_left,
        List.take_of_length_le (by simp)]
    simp only [hTake, List.length_append, List.length_map]
    cases spare with
    | nil => exact ⟨none, by simp⟩
    | cons slot spare =>
        refine ⟨slot, ?_⟩
        have hNone :
            held.length + 1 -
              (held.length + (slot :: spare).length) = 0 := by
          rw [List.length_cons]
          omega
        rw [hNone]
        simp

/- A store with its tentative slot. -/
theorem put_last
    (slot slot' : Option Identity) :
    put {
        numIdentities := held.length
        identities := some (held.map some ++ [slot]) }
        held.length slot' =
      .ok {
        numIdentities := held.length
        identities := some (held.map some ++ [slot']) } := by
  rw [put]
  simp only
  rw [if_pos (by simp), List.set_append_right _ _ (by simp)]
  simp

/- A stored modulus is not added again, another one is. -/
theorem Holds.add_eq
    (hHolds : store.Holds held)
    (identity : Identity) :
    ∃ store',
      store.add identity = .ok store' ∧
        store'.Holds
          (KeyedList.insert (fun i => i.key.n) held
            identity) := by
  rcases hHolds.reserve_eq with ⟨slot, hReserve⟩
  have hOwns :
      Owns {
        numIdentities := held.length
        identities :=
          some (held.map some ++ [some identity]) } held :=
    owns_of_slots rfl
  rw [add, hReserve, FallibleRun.ok_bind, put_last,
    FallibleRun.ok_bind, hOwns.find_eq rfl,
    FallibleRun.ok_bind]
  cases hFound :
      held.findIdx? fun other =>
        other.key.n = identity.key.n with
  | some i =>
      have hGet :
          get {
            numIdentities := held.length
            identities :=
              some (held.map some ++ [some identity]) }
            held.length = .ok identity := by
        rw [get]
        simp
      have hNonempty : held ≠ [] := by
        rintro rfl
        simp at hFound
      rw [KeyedList.insert_of_findIdx?_eq_some
        (fun i : Identity => i.key.n) hFound]
      refine ⟨{
        numIdentities := held.length
        identities := some (held.map some ++ [none]) },
        ?_, rfl, ?_⟩
      · simp only [clear, hGet, FallibleRun.ok_bind]
        exact put_last _ _
      · rw [if_neg hNonempty]
        exact ⟨[none], rfl⟩
  | none =>
      rw [KeyedList.insert_of_findIdx?_eq_none
        (fun i : Identity => i.key.n) hFound]
      refine ⟨_, rfl, ?_, ?_⟩
      · simp
      · rw [if_neg (by simp)]
        exact ⟨[], by simp⟩

end IdentityStore

end Ssh1

------------------------------------------------------------
-- Removing
------------------------------------------------------------

namespace Ssh1

namespace IdentityStore

variable {store : IdentityStore}
variable {held : List Identity}

/- An entry within the array is replaced. -/
theorem put_of_lt
    {slots : List (Option Identity)}
    (hSlots : store.identities = some slots)
    {i : Nat}
    (hIndex : i < slots.length)
    (slot : Option Identity) :
    store.put i slot =
      .ok { store with
        identities := some (slots.set i slot) } := by
  rw [put, hSlots]
  simp only [hIndex, if_true]

/- The slots after an identity was cleared and replaced. -/
theorem Holds.clear_compact
    (hHolds : store.Holds held)
    {i : Nat}
    {identity : Identity}
    (hMember : held[i]? = some identity) :
    ∃ store' spare,
      (store.clear i >>= fun store => store.compact i) =
          .ok store' ∧
        store'.numIdentities = held.length ∧
        store'.identities =
          some ((KeyedList.swapRemove held i).map some ++
            spare) := by
  have hGet := hHolds.owns i identity hMember
  have hSlots := hHolds.slots
  have hCount := hHolds.count
  rcases List.eq_nil_or_concat' held with
    hNil | ⟨init, last, hHeld⟩
  · simp [hNil] at hMember
  · have hNonempty : held ≠ [] := by simp [hHeld]
    rw [if_neg hNonempty] at hSlots
    rcases hSlots with ⟨spare, hSlots⟩
    have hIndex : i < held.length :=
      (List.getElem?_eq_some_iff.mp hMember).1
    have hClear :
        store.clear i =
          .ok {
            numIdentities := held.length
            identities :=
              some ((held.map some ++ spare).set i none) } := by
      rw [clear, hGet, FallibleRun.ok_bind,
        put_of_lt hSlots (by simp; omega), hCount]
    have hLength : held.length - 1 = init.length := by
      simp [hHeld]
    rw [hClear, FallibleRun.ok_bind, compact]
    simp only [hLength]
    rcases Nat.lt_or_ge i init.length with hLess | hLess
    · have hSlot :
          ((held.map some ++ spare).set i none)[init.length]? =
            some (some last) := by
        rw [List.getElem?_set_ne (Nat.ne_of_lt hLess)]
        simp [hHeld]
      have hLast :
          get {
            numIdentities := held.length
            identities :=
              some ((held.map some ++ spare).set i none) }
            init.length = .ok last := by
        rw [get]
        simp only [hSlot]
      refine ⟨{
        numIdentities := held.length
        identities :=
          some ((init.set i last).map some ++
            (some last :: spare)) },
        some last :: spare, ?_, rfl, ?_⟩
      · rw [if_pos hLess, hLast, FallibleRun.ok_bind,
          put_of_lt rfl (by simp; omega)]
        simp only [List.set_set]
        rw [hHeld, List.map_append, List.append_assoc,
          List.set_append_left _ _ (by simpa using hLess),
          List.map_set]
        rfl
      · rw [hHeld, KeyedList.swapRemove_concat_of_lt hLess]
    · have hEnd : i = init.length := by omega
      subst hEnd
      refine ⟨{
        numIdentities := held.length
        identities :=
          some (init.map some ++ (none :: spare)) },
        none :: spare, ?_, rfl, ?_⟩
      · rw [if_neg (Nat.lt_irrefl _), hHeld, List.map_append,
          List.append_assoc,
          List.set_append_right _ _ (by simp)]
        simp
      · rw [hHeld, KeyedList.swapRemove_concat_length]

/-
  A stored modulus is removed with its identity, and for any
  other one nothing changes.
-/
theorem Holds.remove_eq
    (hHolds : store.Holds held)
    (n : Nat) :
    (held.findIdx? (fun identity => identity.key.n = n) = none ∧
        store.remove n = .ok (false, store)) ∨
      ∃ i store',
        held.findIdx? (fun identity => identity.key.n = n) =
            some i ∧
          store.remove n = .ok (true, store') ∧
          store'.Holds (KeyedList.swapRemove held i) := by
  rw [remove, hHolds.find_eq, FallibleRun.ok_bind]
  cases hFound :
      held.findIdx? fun identity => identity.key.n = n with
  | none => exact Or.inl ⟨rfl, rfl⟩
  | some i =>
      right
      rcases KeyedList.exists_of_findIdx?
          (fun i : Identity => i.key.n) hFound with
        ⟨identity, hMember, -⟩
      rcases hHolds.clear_compact hMember with
        ⟨store', spare, hRun, hCount, hSlots⟩
      have hLength :=
        (KeyedList.swapRemove_perm hMember).length_eq
      rw [List.length_cons] at hLength
      refine ⟨i, {
        numIdentities := store'.numIdentities - 1
        identities :=
          if store'.numIdentities - 1 = 0 then none
          else store'.identities }, rfl, ?_, ?_, ?_⟩
      · rcases FallibleRun.bind_eq_ok_iff.mp hRun with
          ⟨cleared, hClear, hCompact⟩
        simp only [hClear, FallibleRun.ok_bind, hCompact]
        rfl
      · simp only [hCount]
        omega
      · by_cases hNil : KeyedList.swapRemove held i = []
        · rw [if_pos hNil]
          rw [hNil, List.length_nil] at hLength
          simp only [hCount, hLength, Nat.zero_add,
            Nat.sub_self, if_true]
        · have hPos := List.length_pos_iff.mpr hNil
          rw [if_neg hNil]
          refine ⟨spare, ?_⟩
          simp only [hCount]
          rw [if_neg (by omega), hSlots]

/- The entries are cleared one by one. -/
theorem clearFrom_eq
    (rest : List Identity)
    {store : IdentityStore}
    {done : List (Option Identity)}
    {spare : List (Option Identity)}
    (hSlots :
      store.identities =
        some (done ++ (rest.map some ++ spare))) :
    clearFrom rest.length done.length store =
      .ok { store with
        identities :=
          some (done ++
            (List.replicate rest.length none ++ spare)) } := by
  induction rest generalizing store done with
  | nil =>
      cases store
      simp only [List.map_nil] at hSlots
      simp [clearFrom, hSlots]
  | cons identity rest ih =>
      have hGet :
          store.get done.length = .ok identity := by
        rw [get, hSlots]
        simp
      have hPut := put_of_lt hSlots (i := done.length)
        (by simp) none
      rw [List.length_cons, clearFrom, clear, hGet,
        FallibleRun.ok_bind, hPut, FallibleRun.ok_bind]
      have hSlots' :
          ({ store with
            identities := some (done ++ [none] ++
              (rest.map some ++ spare)) }
              : IdentityStore).identities =
            some (done ++ [none] ++
              (rest.map some ++ spare)) :=
        rfl
      have hNext := ih hSlots'
      rw [List.length_append, List.length_singleton] at hNext
      rw [List.set_append_right _ _ (Nat.le_refl _)]
      simpa [List.replicate_succ] using hNext

/- All identities can be removed, and none is left. -/
theorem Holds.removeAll_eq
    (hHolds : store.Holds held) :
    store.removeAll = .ok empty := by
  have hCount := hHolds.count
  have hSlots := hHolds.slots
  by_cases hNil : held = []
  · rw [if_pos hNil] at hSlots
    rw [hNil, List.length_nil] at hCount
    rw [removeAll, hCount, clearFrom, FallibleRun.ok_bind,
      hCount, if_neg (by simp), hSlots]
    rfl
  · rw [if_neg hNil] at hSlots
    rcases hSlots with ⟨spare, hSlots⟩
    have hSplit :
        store.identities = some ([] ++ (held.map some ++ spare)) :=
      hSlots
    have hClear := clearFrom_eq held hSplit
    have hPos := List.length_pos_iff.mpr hNil
    rw [List.length_nil] at hClear
    rw [removeAll, hCount, hClear, FallibleRun.ok_bind]
    simp only [hCount]
    rw [if_pos (by omega)]
    rfl

end IdentityStore

end Ssh1
