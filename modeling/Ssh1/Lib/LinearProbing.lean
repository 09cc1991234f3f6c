import Mathlib.Data.Finset.Card
import Mathlib.Data.Finset.Range
import Mathlib.Logic.Function.Basic

/-
  Open addressing with linear probing.

  A table maps the slots `0, ..., n - 1` to the key stored
  there, or to `none` when the slot is unused. A probe for a
  key starts at its hash and walks forward, modulo `n`, to
  the first slot that is unused or already holds the key.

  Main declarations:
    * `LinearProbing.findSlot`
    * `LinearProbing.WellProbed`
    * `LinearProbing.exists_findSlot`
    * `LinearProbing.slot_findSlot_iff`
    * `LinearProbing.WellProbed.update`
    * `LinearProbing.used_update_le`
-/

------------------------------------------------------------
-- Probing
------------------------------------------------------------

namespace LinearProbing

variable {κ : Type} [DecidableEq κ]

/- A probe for `k` stops at an unused slot or at `k`. -/
def Stops
    (slots : Nat → Option κ)
    (k : κ)
    (i : Nat) : Prop :=
  slots i = none ∨ slots i = some k

instance
    (slots : Nat → Option κ)
    (k : κ)
    (i : Nat) :
    Decidable (Stops slots k i) := by
  unfold Stops
  infer_instance

/- The first slot from `i` on at which a probe stops. -/
def findSlot
    (slots : Nat → Option κ)
    (n : Nat)
    (k : κ) :
    Nat → Nat → Option Nat
| 0, _ => none
| fuel + 1, i =>
    if Stops slots k i then
      some i
    else
      findSlot slots n k fuel ((i + 1) % n)

/- The probe order from a slot reaches every slot. -/
theorem exists_offset
    {n i j : Nat}
    (hi : i < n)
    (hj : j < n) :
    ∃ d < n, (i + d) % n = j := by
  by_cases hLe : i ≤ j
  · refine ⟨j - i, by omega, ?_⟩
    rw [Nat.add_sub_cancel' hLe]
    exact Nat.mod_eq_of_lt hj
  · refine ⟨n - i + j, by omega, ?_⟩
    have hSum : i + (n - i + j) = j + n := by omega
    rw [hSum, Nat.add_mod_right]
    exact Nat.mod_eq_of_lt hj

/- An unused slot anywhere lies ahead of every start. -/
omit [DecidableEq κ] in
theorem exists_stop_ahead
    {slots : Nat → Option κ}
    {n i : Nat}
    (k : κ)
    (hi : i < n)
    (hFree : ∃ j < n, slots j = none) :
    ∃ d < n, Stops slots k ((i + d) % n) := by
  rcases hFree with ⟨j, hj, hNone⟩
  rcases exists_offset hi hj with ⟨d, hd, hAt⟩
  refine ⟨d, hd, ?_⟩
  rw [hAt]
  exact Or.inl hNone

/-
  With a stopping slot ahead, the probe ends at the nearest
  one and passes only slots at which it does not stop.
-/
theorem exists_findSlot
    {slots : Nat → Option κ}
    {n : Nat}
    {k : κ}
    {fuel i : Nat}
    (hi : i < n)
    (hStop :
      ∃ d < fuel, Stops slots k ((i + d) % n)) :
    ∃ d < fuel,
      findSlot slots n k fuel i = some ((i + d) % n) ∧
        Stops slots k ((i + d) % n) ∧
        ∀ e < d, ¬ Stops slots k ((i + e) % n) := by
  induction fuel generalizing i with
  | zero =>
      rcases hStop with ⟨d, hd, -⟩
      omega
  | succ fuel ih =>
      have hSelf : (i + 0) % n = i := by
        simpa using Nat.mod_eq_of_lt hi
      by_cases hHere : Stops slots k i
      · refine ⟨0, by omega, ?_, ?_, ?_⟩
        · rw [hSelf]
          simp [findSlot, hHere]
        · rwa [hSelf]
        · intro e he
          omega
      · have hNext : (i + 1) % n < n :=
          Nat.mod_lt _ (by omega)
        have hShift :
            ∀ d, ((i + 1) % n + d) % n =
              (i + (d + 1)) % n := by
          intro d
          rw [Nat.mod_add_mod]
          congr 1
          omega
        have hStop' :
            ∃ d < fuel,
              Stops slots k (((i + 1) % n + d) % n) := by
          rcases hStop with ⟨d, hd, hAt⟩
          cases d with
          | zero =>
              rw [hSelf] at hAt
              exact absurd hAt hHere
          | succ d =>
              refine ⟨d, by omega, ?_⟩
              rwa [hShift]
        rcases ih hNext hStop' with
          ⟨d, hd, hFind, hAt, hBefore⟩
        refine ⟨d + 1, by omega, ?_, ?_, ?_⟩
        · rw [findSlot, if_neg hHere, hFind, hShift]
        · rwa [← hShift]
        · intro e he
          cases e with
          | zero => rwa [hSelf]
          | succ e =>
              rw [← hShift]
              exact hBefore e (by omega)

end LinearProbing

------------------------------------------------------------
-- Well-Probed Tables
------------------------------------------------------------

namespace LinearProbing

variable {κ : Type} [DecidableEq κ]

/- Some slot of the table holds the key. -/
def Holds
    (slots : Nat → Option κ)
    (n : Nat)
    (k : κ) : Prop :=
  ∃ i < n, slots i = some k

/-
  Every stored key is the first stop of its own probe: no
  slot between its hash and its place is unused or holds the
  key a second time.
-/
def WellProbed
    (slots : Nat → Option κ)
    (n : Nat)
    (hash : κ → Nat) : Prop :=
  ∀ i < n, ∀ k, slots i = some k →
    ∃ d < n, (hash k + d) % n = i ∧
      ∀ e < d, ¬ Stops slots k ((hash k + e) % n)

variable {slots : Nat → Option κ}
variable {n : Nat}
variable {hash : κ → Nat}

/- An unused table is well probed. -/
omit [DecidableEq κ] in
theorem wellProbed_of_unused
    (hUnused : ∀ i < n, slots i = none) :
    WellProbed slots n hash := by
  intro i hi k hSlot
  rw [hUnused i hi] at hSlot
  cases hSlot

/- An unused table holds no key. -/
omit [DecidableEq κ] in
theorem not_holds_of_unused
    (hUnused : ∀ i < n, slots i = none)
    (k : κ) :
    ¬ Holds slots n k := by
  rintro ⟨i, hi, hSlot⟩
  rw [hUnused i hi] at hSlot
  cases hSlot

/- A probe that starts at an unused slot ends there. -/
theorem findSlot_of_unused
    {k : κ}
    {fuel i : Nat}
    (hUnused : slots i = none) :
    findSlot slots n k (fuel + 1) i = some i := by
  simp [findSlot, Stops, hUnused]

/-
  The probe for a key ends in the table, and it ends on the
  key exactly when the table holds it.
-/
theorem slot_findSlot_iff
    (hHash : ∀ k, hash k < n)
    (hProbed : WellProbed slots n hash)
    (hFree : ∃ i < n, slots i = none)
    (k : κ) :
    ∃ i < n,
      findSlot slots n k n (hash k) = some i ∧
        (slots i = none ∨ slots i = some k) ∧
        (slots i = some k ↔ Holds slots n k) := by
  rcases exists_findSlot (hHash k)
      (exists_stop_ahead k (hHash k) hFree) with
    ⟨d, hd, hFind, hAt, hBefore⟩
  have hLt : (hash k + d) % n < n :=
    Nat.mod_lt _ (by omega)
  refine ⟨_, hLt, hFind, hAt, ?_⟩
  constructor
  · intro hSlot
    exact ⟨_, hLt, hSlot⟩
  · rintro ⟨j, hj, hSlot⟩
    rcases hProbed j hj k hSlot with
      ⟨c, hc, hPlace, hClear⟩
    have hStopJ : Stops slots k ((hash k + c) % n) := by
      rw [hPlace]
      exact Or.inr hSlot
    have hLe : d ≤ c := by
      by_contra hGt
      exact hBefore c (by omega) hStopJ
    have hGe : c ≤ d := by
      by_contra hLt'
      exact hClear d (by omega) hAt
    have hEq : c = d := by omega
    subst hEq
    rwa [hPlace]

/-
  Storing a key at the slot its probe ends on keeps the
  table well probed.
-/
theorem WellProbed.update
    (hHash : ∀ k, hash k < n)
    (hProbed : WellProbed slots n hash)
    (hFree : ∃ i < n, slots i = none)
    {k : κ}
    {i : Nat}
    (hFind : findSlot slots n k n (hash k) = some i) :
    WellProbed (Function.update slots i (some k)) n
      hash := by
  rcases exists_findSlot (hHash k)
      (exists_stop_ahead k (hHash k) hFree) with
    ⟨d, hd, hFind', hAt, hBefore⟩
  have hPlace : (hash k + d) % n = i := by
    rw [hFind'] at hFind
    exact Option.some.inj hFind
  rw [hPlace] at hAt
  -- A slot that a probe for another key passes stays
  -- passed: only slot `i` changes, and it is not unused.
  have hPassed :
      ∀ k' p, ¬ Stops slots k' p →
        (p = i → k ≠ k') →
        ¬ Stops (Function.update slots i (some k)) k' p := by
    intro k' p hPass hNe hNew
    by_cases hp : p = i
    · subst hp
      rcases hNew with hNone | hSome
      · simp at hNone
      · simp only [Function.update_self,
          Option.some.injEq] at hSome
        exact hNe rfl hSome
    · simp only [Stops, Function.update_of_ne hp] at hNew
      exact hPass hNew
  intro j hj k' hSlot
  by_cases hji : j = i
  · subst hji
    have hKey : k = k' := by simpa using hSlot
    subst hKey
    refine ⟨d, hd, hPlace, ?_⟩
    intro e he
    apply hPassed k _ (hBefore e he)
    intro hpi
    have hPass := hBefore e he
    rw [hpi] at hPass
    exact absurd hAt hPass
  · rw [Function.update_of_ne hji] at hSlot
    rcases hProbed j hj k' hSlot with
      ⟨c, hc, hPlace', hClear⟩
    refine ⟨c, hc, hPlace', ?_⟩
    intro e he
    apply hPassed k' _ (hClear e he)
    intro hpi hKey
    subst hKey
    have hPass := hClear e he
    rw [hpi] at hPass
    exact hPass hAt

/- The table then holds that key and what it held before. -/
omit [DecidableEq κ] in
theorem holds_update_iff
    {k : κ}
    {i : Nat}
    (hi : i < n)
    (hSlot : slots i = none ∨ slots i = some k)
    (k' : κ) :
    Holds (Function.update slots i (some k)) n k' ↔
      k' = k ∨ Holds slots n k' := by
  constructor
  · rintro ⟨j, hj, hAt⟩
    by_cases hji : j = i
    · subst hji
      left
      simpa using hAt.symm
    · rw [Function.update_of_ne hji] at hAt
      exact Or.inr ⟨j, hj, hAt⟩
  · rintro (rfl | ⟨j, hj, hAt⟩)
    · exact ⟨i, hi, by simp⟩
    · by_cases hji : j = i
      · subst hji
        rcases hSlot with hNone | hSome
        · rw [hNone] at hAt
          cases hAt
        · rw [hSome] at hAt
          refine ⟨j, hj, ?_⟩
          simpa using hAt
      · exact ⟨j, hj, by
          rwa [Function.update_of_ne hji]⟩

end LinearProbing

------------------------------------------------------------
-- Load
------------------------------------------------------------

namespace LinearProbing

variable {κ : Type}

/- The slots in use. -/
def used
    (slots : Nat → Option κ)
    (n : Nat) : Finset Nat :=
  (Finset.range n).filter fun i => (slots i).isSome

theorem used_of_unused
    {slots : Nat → Option κ}
    {n : Nat}
    (hUnused : ∀ i < n, slots i = none) :
    used slots n = ∅ := by
  apply Finset.filter_false_of_mem
  intro i hi
  rw [hUnused i (Finset.mem_range.mp hi)]
  simp

/- A table with fewer keys than slots has an unused slot. -/
theorem exists_unused
    {slots : Nat → Option κ}
    {n : Nat}
    (hLoad : (used slots n).card < n) :
    ∃ i < n, slots i = none := by
  by_contra hFull
  push Not at hFull
  have hAll : used slots n = Finset.range n := by
    apply Finset.filter_true_of_mem
    intro i hi
    exact Option.isSome_iff_ne_none.mpr
      (hFull i (Finset.mem_range.mp hi))
  rw [hAll, Finset.card_range] at hLoad
  omega

/- Storing one key uses at most one more slot. -/
theorem used_update_le
    (slots : Nat → Option κ)
    (n i : Nat)
    (k : κ) :
    (used (Function.update slots i (some k)) n).card ≤
      (used slots n).card + 1 := by
  have hSubset :
      used (Function.update slots i (some k)) n ⊆
        insert i (used slots n) := by
    intro j hj
    simp only [used, Finset.mem_filter] at hj
    rw [Finset.mem_insert]
    by_cases hji : j = i
    · exact Or.inl hji
    · right
      rw [Function.update_of_ne hji] at hj
      exact Finset.mem_filter.mpr hj
  exact (Finset.card_le_card hSubset).trans
    (Finset.card_insert_le _ _)

end LinearProbing
