import Mathlib.Data.List.TakeWhile

/-
  The longest front of a list whose members have a property.

  Main declarations:
    * `MaximalRun`
    * `MaximalRun.iff_takeWhile`
    * `MaximalRun.append`
-/

------------------------------------------------------------
-- Maximal Runs
------------------------------------------------------------

variable {α : Type}
variable {p : α → Bool}
variable {text run rest : List α}

/- The list is a run and what does not go on with it. -/
structure MaximalRun
    (p : α → Bool)
    (text run rest : List α) : Prop where
  parts : text = run ++ rest
  run : ∀ c ∈ run, p c = true
  rest : ∀ c, rest.head? = some c → p c = false

namespace MaximalRun

theorem of_takeWhile
    (p : α → Bool)
    (text : List α) :
    MaximalRun p text (text.takeWhile p)
      (text.dropWhile p) where
  parts := List.takeWhile_append_dropWhile.symm
  run := fun _ hMem => List.mem_takeWhile_imp hMem
  rest := by
    intro c hHead
    have hNot := List.head?_dropWhile_not p text
    rw [hHead] at hNot
    exact hNot

/- There is only one maximal run. -/
theorem iff_takeWhile :
    MaximalRun p text run rest ↔
      text.takeWhile p = run ∧ text.dropWhile p = rest := by
  constructor
  · rintro ⟨rfl, hRun, hRest⟩
    have hStop :
        rest.takeWhile p = [] ∧ rest.dropWhile p = rest := by
      cases rest with
      | nil => exact ⟨rfl, rfl⟩
      | cons c rest => simp [hRest c rfl]
    rw [List.takeWhile_append_of_pos hRun,
      List.dropWhile_append_of_pos hRun, hStop.1, hStop.2,
      List.append_nil]
    exact ⟨rfl, rfl⟩
  · rintro ⟨rfl, rfl⟩
    exact of_takeWhile p text

/- A run in front of a letter that ends it. -/
theorem append
    (hRun : ∀ c ∈ run, p c = true)
    (hRest : ∀ c, rest.head? = some c → p c = false) :
    MaximalRun p (run ++ rest) run rest :=
  ⟨rfl, hRun, hRest⟩

/- Where a run is empty the whole list is left. -/
theorem rest_eq_of_nil
    (hRun : MaximalRun p text [] rest) :
    rest = text :=
  hRun.parts.symm

end MaximalRun
