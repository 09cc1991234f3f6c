import Mathlib.Data.List.Nodup
import Mathlib.Data.List.Perm.Basic
import Mathlib.Logic.Function.Basic

/-
  Lists of values with distinct keys, as finite maps.

  A value is added at the end, and removed by moving the
  last value into its place. The map of a list does not
  depend on the order of its values.

  Main declarations:
    * `KeyedList.Distinct`, `KeyedList.lookup`
    * `KeyedList.insert`, `KeyedList.swapRemove`
    * `KeyedList.lookup_insert`
    * `KeyedList.lookup_swapRemove`
    * `KeyedList.put`, `KeyedList.lookup_put`
-/

------------------------------------------------------------
-- Maps of Lists
------------------------------------------------------------

namespace KeyedList

variable {α κ : Type}
variable [DecidableEq κ]
variable (key : α → κ)

/- No two values have the same key. -/
def Distinct (values : List α) : Prop :=
  (values.map key).Nodup

/- The first value with the key. -/
def lookup (values : List α) (k : κ) : Option α :=
  values.find? fun a => key a = k

/- Adds a value at the end, unless its key is there. -/
def insert (values : List α) (a : α) : List α :=
  if key a ∈ values.map key then values else values ++ [a]

/- Replaces the value with the same key, or adds the value. -/
def put (values : List α) (a : α) : List α :=
  match values with
  | [] => [a]
  | b :: values =>
      if key b = key a then
        a :: values
      else
        b :: put values a

/- Moves the last value to the place of the removed one. -/
def swapRemove (values : List α) (i : Nat) : List α :=
  match values.getLast? with
  | none => []
  | some last => (values.set i last).dropLast

variable {key}

/- The first value of the key is found. -/
theorem lookup_cons
    (a : α)
    (values : List α)
    (k : κ) :
    lookup key (a :: values) k =
      if key a = k then some a else lookup key values k := by
  rw [lookup, List.find?_cons]
  by_cases hKey : key a = k
  · simp [hKey]
  · simp [hKey, lookup]

/- A key that is not there is not found. -/
theorem lookup_eq_none_iff
    {values : List α}
    {k : κ} :
    lookup key values k = none ↔ k ∉ values.map key := by
  simp [lookup]

/- A value is found under its key. -/
theorem lookup_eq_some_iff
    {values : List α}
    (hDistinct : Distinct key values)
    {k : κ}
    {a : α} :
    lookup key values k = some a ↔ a ∈ values ∧ key a = k := by
  induction values with
  | nil => simp [lookup]
  | cons b values ih =>
      rw [Distinct, List.map_cons, List.nodup_cons]
        at hDistinct
      rw [lookup_cons]
      by_cases hKey : key b = k
      · rw [if_pos hKey, Option.some.injEq]
        constructor
        · rintro rfl
          exact ⟨by simp, hKey⟩
        · rintro ⟨hMem, hOther⟩
          rcases List.mem_cons.mp hMem with rfl | hMem
          · rfl
          · have hIn := List.mem_map_of_mem (f := key) hMem
            rw [hOther, ← hKey] at hIn
            exact (hDistinct.1 hIn).elim
      · rw [if_neg hKey, ih hDistinct.2, List.mem_cons]
        constructor
        · exact fun ⟨hMem, hOther⟩ => ⟨Or.inr hMem, hOther⟩
        · rintro ⟨rfl | hMem, hOther⟩
          · exact (hKey hOther).elim
          · exact ⟨hMem, hOther⟩

/- The order does not matter. -/
theorem lookup_perm
    {values others : List α}
    (hDistinct : Distinct key values)
    (hPerm : values.Perm others) :
    lookup key values = lookup key others := by
  have hOthers : Distinct key others :=
    (hPerm.map key).nodup_iff.mp hDistinct
  funext k
  cases hFound : lookup key others k with
  | none =>
      rw [lookup_eq_none_iff] at hFound ⊢
      rwa [(hPerm.map key).mem_iff]
  | some a =>
      rw [lookup_eq_some_iff hOthers] at hFound
      rw [lookup_eq_some_iff hDistinct, hPerm.mem_iff]
      exact hFound

end KeyedList

------------------------------------------------------------
-- Adding and Removing
------------------------------------------------------------

namespace KeyedList

variable {α κ : Type}
variable [DecidableEq κ]
variable {key : α → κ}

/- A key that is there is not inserted again. -/
theorem distinct_insert
    {values : List α}
    (hDistinct : Distinct key values)
    (a : α) :
    Distinct key (insert key values a) := by
  rw [insert]
  split
  · exact hDistinct
  · rename_i hNew
    rw [Distinct, List.map_append, List.map_singleton,
      List.nodup_append]
    refine ⟨hDistinct, List.nodup_singleton _, ?_⟩
    intro k hMem other hOther hEq
    rw [List.mem_singleton] at hOther
    rw [hEq, hOther] at hMem
    exact hNew hMem

/- A value whose key is there changes nothing. -/
theorem lookup_insert
    (values : List α)
    (a : α) :
    lookup key (insert key values a) =
      if lookup key values (key a) = none then
        Function.update (lookup key values) (key a) (some a)
      else
        lookup key values := by
  rw [insert]
  by_cases hMem : key a ∈ values.map key
  · have hFound : ¬ lookup key values (key a) = none := by
      rw [lookup_eq_none_iff]
      exact not_not_intro hMem
    rw [if_pos hMem, if_neg hFound]
  · rw [if_neg hMem, if_pos (lookup_eq_none_iff.mpr hMem)]
    funext k
    rw [lookup, List.find?_append]
    by_cases hKey : k = key a
    · subst hKey
      have hNone := lookup_eq_none_iff.mpr hMem
      rw [lookup] at hNone
      simp [hNone]
    · rw [Function.update_of_ne hKey]
      simp [lookup, Ne.symm hKey]

/- The last value takes the place of the removed one. -/
omit [DecidableEq κ] in
theorem swapRemove_concat_of_lt
    {init : List α}
    {i : Nat}
    (hLess : i < init.length)
    (last : α) :
    swapRemove (init ++ [last]) i = init.set i last := by
  rw [swapRemove, List.getLast?_concat]
  simp only
  rw [List.set_append_left i last hLess,
    List.dropLast_concat]

/- The last value itself is dropped. -/
omit [DecidableEq κ] in
theorem swapRemove_concat_length
    (init : List α)
    (last : α) :
    swapRemove (init ++ [last]) init.length = init := by
  rw [swapRemove, List.getLast?_concat]
  simp only
  rw [List.set_append_right _ _ (Nat.le_refl _),
    Nat.sub_self, List.set_cons_zero, List.dropLast_concat]

/- The removed value and the others are all there was. -/
theorem swapRemove_perm
    {values : List α}
    {i : Nat}
    {a : α}
    (hValue : values[i]? = some a) :
    values.Perm (a :: swapRemove values i) := by
  rcases List.eq_nil_or_concat' values with
    rfl | ⟨init, last, rfl⟩
  · simp at hValue
  · rcases Nat.lt_or_ge i init.length with hLess | hLess
    · rw [List.getElem?_append_left hLess,
        List.getElem?_eq_getElem hLess,
        Option.some.injEq] at hValue
      have hSplit :
          init = init.take i ++ a :: init.drop (i + 1) := by
        rw [← hValue, List.getElem_cons_drop,
          List.take_append_drop]
      rw [swapRemove_concat_of_lt hLess,
        List.set_eq_take_append_cons_drop, if_pos hLess]
      calc init ++ [last]
          = (init.take i ++ a :: init.drop (i + 1)) ++
              [last] := by rw [← hSplit]
        _ = init.take i ++ a ::
              (init.drop (i + 1) ++ [last]) := by simp
        List.Perm _ (a :: (init.take i ++
              (init.drop (i + 1) ++ [last]))) :=
            List.perm_middle
        List.Perm _ (a :: (init.take i ++
              last :: init.drop (i + 1))) :=
            ((List.perm_append_singleton last
              (init.drop (i + 1))).append_left
                (init.take i)).cons a
    · have hIndex : i = init.length := by
        have hBound := List.getElem?_eq_some_iff.mp hValue
        rcases hBound with ⟨hBound, -⟩
        simp only [List.length_append,
          List.length_singleton] at hBound
        omega
      subst hIndex
      rw [List.getElem?_concat_length, Option.some.injEq]
        at hValue
      rw [swapRemove_concat_length, hValue]
      exact List.perm_append_singleton a init

/- Removing a value leaves the keys distinct. -/
omit [DecidableEq κ] in
theorem distinct_swapRemove
    {values : List α}
    {i : Nat}
    {a : α}
    (hDistinct : Distinct key values)
    (hValue : values[i]? = some a) :
    Distinct key (swapRemove values i) := by
  have hPerm := (swapRemove_perm hValue).map key
  have hNodup := hPerm.nodup_iff.mp hDistinct
  exact (List.nodup_cons.mp hNodup).2

/- Only the key of the removed value is gone. -/
theorem lookup_swapRemove
    {values : List α}
    {i : Nat}
    {a : α}
    (hDistinct : Distinct key values)
    (hValue : values[i]? = some a) :
    lookup key (swapRemove values i) =
      Function.update (lookup key values) (key a) none := by
  have hPerm := swapRemove_perm hValue
  have hNodup := (hPerm.map key).nodup_iff.mp hDistinct
  rw [List.map_cons, List.nodup_cons] at hNodup
  rw [lookup_perm hDistinct hPerm]
  funext k
  by_cases hKey : k = key a
  · rw [hKey, Function.update_self, lookup_eq_none_iff]
    exact hNodup.1
  · rw [Function.update_of_ne hKey, lookup_cons,
      if_neg (Ne.symm hKey)]

end KeyedList

------------------------------------------------------------
-- Indices
------------------------------------------------------------

namespace KeyedList

variable {α κ : Type}
variable [DecidableEq κ]
variable (key : α → κ)
variable {values : List α}
variable {i : Nat}

/- The value at the first index with the key. -/
theorem exists_of_findIdx?
    {k : κ}
    (hIndex : values.findIdx? (fun a => key a = k) = some i) :
    ∃ a, values[i]? = some a ∧ key a = k := by
  rw [List.findIdx?_eq_some_iff_getElem] at hIndex
  rcases hIndex with ⟨hBound, hKey, -⟩
  exact ⟨values[i], List.getElem?_eq_getElem hBound,
    by simpa using hKey⟩

/- A key that is found keeps its value. -/
theorem insert_of_findIdx?_eq_some
    {a : α}
    (hIndex :
      values.findIdx? (fun b => key b = key a) = some i) :
    insert key values a = values := by
  rcases exists_of_findIdx? key hIndex with ⟨b, hValue, hKey⟩
  have hMem :=
    List.mem_map_of_mem (f := key) (List.mem_of_getElem? hValue)
  rw [insert, if_pos (hKey ▸ hMem)]

/- A new key is put at the end. -/
theorem insert_of_findIdx?_eq_none
    {a : α}
    (hIndex :
      values.findIdx? (fun b => key b = key a) = none) :
    insert key values a = values ++ [a] := by
  rw [insert, if_neg]
  rw [List.findIdx?_eq_none_iff] at hIndex
  intro hMem
  rcases List.mem_map.mp hMem with ⟨b, hMem, hKey⟩
  simpa [hKey] using hIndex b hMem

theorem lookup_of_findIdx?_eq_none
    {k : κ}
    (hIndex : values.findIdx? (fun a => key a = k) = none) :
    lookup key values k = none := by
  rw [List.findIdx?_eq_none_iff] at hIndex
  rw [lookup_eq_none_iff]
  intro hMem
  rcases List.mem_map.mp hMem with ⟨b, hMem, hKey⟩
  simpa [hKey] using hIndex b hMem

end KeyedList

------------------------------------------------------------
-- Replacing
------------------------------------------------------------

namespace KeyedList

variable {α κ : Type}
variable [DecidableEq κ]
variable {key : α → κ}

/- A new key is put at the end here too. -/
theorem put_of_notMem
    {values : List α}
    {a : α}
    (hNew : key a ∉ values.map key) :
    put key values a = values ++ [a] := by
  induction values with
  | nil => rfl
  | cons b values ih =>
      rw [List.map_cons, List.mem_cons, not_or] at hNew
      rw [put, if_neg (Ne.symm hNew.1), ih hNew.2,
        List.cons_append]

/- The value takes the place of the one with its key. -/
theorem put_append_cons
    (a b : α)
    {before : List α}
    (after : List α)
    (hBefore : key a ∉ before.map key)
    (hKey : key b = key a) :
    put key (before ++ b :: after) a =
      before ++ a :: after := by
  induction before with
  | nil => rw [List.nil_append, put, if_pos hKey,
      List.nil_append]
  | cons c before ih =>
      rw [List.map_cons, List.mem_cons, not_or] at hBefore
      rw [List.cons_append, put, if_neg (Ne.symm hBefore.1),
        ih hBefore.2, List.cons_append]

/- The new key joins the old ones. -/
theorem mem_map_put
    {values : List α}
    {a : α}
    {k : κ} :
    k ∈ (put key values a).map key ↔
      k = key a ∨ k ∈ values.map key := by
  induction values with
  | nil => simp [put]
  | cons b values ih =>
      rw [put]
      by_cases hKey : key b = key a
      · rw [if_pos hKey]
        simp [hKey]
      · rw [if_neg hKey, List.map_cons, List.mem_cons, ih,
          List.map_cons, List.mem_cons]
        exact or_left_comm

/- The keys stay distinct. -/
theorem distinct_put
    {values : List α}
    (hDistinct : Distinct key values)
    (a : α) :
    Distinct key (put key values a) := by
  induction values with
  | nil => simp [put, Distinct]
  | cons b values ih =>
      rw [Distinct, List.map_cons, List.nodup_cons]
        at hDistinct
      rw [put]
      by_cases hKey : key b = key a
      · rw [if_pos hKey, Distinct, List.map_cons,
          List.nodup_cons, ← hKey]
        exact hDistinct
      · rw [if_neg hKey, Distinct, List.map_cons,
          List.nodup_cons, mem_map_put, not_or]
        exact ⟨⟨hKey, hDistinct.1⟩, ih hDistinct.2⟩

/- Only the map's value at the key changes. -/
theorem lookup_put
    (values : List α)
    (a : α)
    (k : κ) :
    lookup key (put key values a) k =
      if key a = k then some a else lookup key values k := by
  induction values with
  | nil => rw [put, lookup_cons]
  | cons b values ih =>
      rw [put]
      by_cases hKey : key b = key a
      · rw [if_pos hKey, lookup_cons, lookup_cons, hKey]
        by_cases hHere : key a = k
        · rw [if_pos hHere, if_pos hHere]
        · rw [if_neg hHere, if_neg hHere, if_neg hHere]
      · rw [if_neg hKey, lookup_cons, ih, lookup_cons]
        by_cases hHere : key b = k
        · have hOther : key a ≠ k :=
            fun hSame => hKey (hHere.trans hSame.symm)
          rw [if_pos hHere, if_pos hHere, if_neg hOther]
        · rw [if_neg hHere, if_neg hHere]

end KeyedList
