import Ssh1.Lib.FallibleRun

/-
  Settings that keep the first value they are given.

  A setting starts with a value that means that it is unset,
  and an assignment changes it only as long as it has that
  value. Assignments stand in a list of items, some of which
  are headings that switch the items behind them on or off.

  Main declarations:
    * `FirstValue.assignUnset`
    * `FirstValue.foldl_assignUnset_eq_first_iff`
    * `FirstValue.activeItems`
    * `FirstValue.gathered`
    * `FirstValue.run_gathered`
-/

------------------------------------------------------------
-- Assignments
------------------------------------------------------------

namespace FirstValue

variable {α : Type} [DecidableEq α]
variable {unset : α}

/- Assigns a value to a setting that is still unset. -/
def assignUnset (unset current value : α) : α :=
  if current = unset then value else current

@[simp] theorem assignUnset_unset
    (value : α) :
    assignUnset unset unset value = value := by
  simp [assignUnset]

theorem assignUnset_of_ne
    {current : α}
    (hSet : current ≠ unset)
    (value : α) :
    assignUnset unset current value = current := by
  simp [assignUnset, hSet]

/- A setting with a value keeps it. -/
theorem foldl_assignUnset_of_ne
    {current : α}
    (hSet : current ≠ unset)
    (values : List α) :
    values.foldl (assignUnset unset) current = current := by
  induction values with
  | nil => rfl
  | cons value values ih =>
      rw [List.foldl_cons, assignUnset_of_ne hSet]
      exact ih

theorem foldl_assignUnset_unset_iff
    (values : List α) :
    values.foldl (assignUnset unset) unset = unset ↔
      ∀ value ∈ values, value = unset := by
  induction values with
  | nil => simp
  | cons value values ih =>
      rw [List.foldl_cons, assignUnset_unset,
        List.forall_mem_cons]
      by_cases hValue : value = unset
      · subst hValue
        simp [ih]
      · rw [foldl_assignUnset_of_ne hValue]
        simp [hValue]

/-
  The setting ends with the first value it is given, unless
  this value means unset and another one follows it.
-/
theorem foldl_assignUnset_eq_first_iff
    (values : List α) :
    values.foldl (assignUnset unset) unset =
        values.head?.getD unset ↔
      (values.head? = some unset →
        ∀ value ∈ values, value = unset) := by
  cases values with
  | nil => simp
  | cons value values =>
      rw [List.foldl_cons, assignUnset_unset,
        List.head?_cons, Option.getD_some, Option.some_inj,
        List.forall_mem_cons]
      by_cases hValue : value = unset
      · subst hValue
        rw [foldl_assignUnset_unset_iff]
        simp
      · rw [foldl_assignUnset_of_ne hValue]
        simp [hValue]

end FirstValue

------------------------------------------------------------
-- Headings
------------------------------------------------------------

namespace FirstValue

variable {ι α : Type}
variable {heading : ι → Option Bool}

/- The items in effect, which are no headings. -/
def activeItems
    (heading : ι → Option Bool) :
    (active : Bool) → List ι → List ι
| _, [] => []
| active, item :: items =>
    match heading item with
    | some active => activeItems heading active items
    | none =>
        if active then
          item :: activeItems heading active items
        else
          activeItems heading active items

theorem mem_of_mem_activeItems
    {active : Bool}
    {items : List ι}
    {item : ι}
    (hItem : item ∈ activeItems heading active items) :
    item ∈ items := by
  induction items generalizing active with
  | nil => exact hItem
  | cons first items ih =>
      rw [activeItems] at hItem
      split at hItem
      · exact List.mem_cons_of_mem first (ih hItem)
      · split at hItem
        · rcases List.mem_cons.mp hItem with
            hFirst | hRest
          · exact List.mem_cons.mpr (.inl hFirst)
          · exact List.mem_cons_of_mem first (ih hRest)
        · exact List.mem_cons_of_mem first (ih hItem)

/- What the items give, which may look at the headings. -/
def gathered
    (heading : ι → Option Bool)
    (values : Bool → ι → List α) :
    (active : Bool) → List ι → List α
| _, [] => []
| active, item :: items =>
    values active item ++
      gathered heading values
        ((heading item).getD active) items

/- Items that give something only if they are in effect. -/
theorem gathered_guarded
    (heading : ι → Option Bool)
    (given : ι → List α)
    (hHeading : ∀ item,
      heading item ≠ none → given item = [])
    (active : Bool)
    (items : List ι) :
    gathered heading
        (fun active item => if active then given item else [])
        active items =
      (activeItems heading active items).flatMap given := by
  induction items generalizing active with
  | nil => rfl
  | cons item items ih =>
      rw [gathered, activeItems]
      cases hItem : heading item with
      | some active' =>
          have hNothing : given item = [] :=
            hHeading item (by simp [hItem])
          simp [hNothing, ih]
      | none =>
          cases active with
          | false => simp [ih]
          | true => simp [ih]

/- Items that do not look at the headings. -/
theorem gathered_unguarded
    (heading : ι → Option Bool)
    (given : ι → List α)
    (active : Bool)
    (items : List ι) :
    gathered heading (fun _ => given) active items =
      items.flatMap given := by
  induction items generalizing active with
  | nil => rfl
  | cons item items ih =>
      rw [gathered, List.flatMap_cons, ih]

end FirstValue

------------------------------------------------------------
-- Runs
------------------------------------------------------------

namespace FirstValue

variable {σ ι α η : Type}

/-
  A relation between the state and what was gathered so far
  that every step keeps is kept by a run.
-/
theorem run_gathered
    (heading : ι → Option Bool)
    (values : Bool → ι → List α)
    {step : σ → ι → Except η σ}
    (active : σ → Bool)
    (related : List α → σ → Prop)
    {items : List ι}
    (hStep : ∀ so s s', ∀ item ∈ items,
      related so s → step s item = .ok s' →
      active s' = (heading item).getD (active s) ∧
        related (so ++ values (active s) item) s')
    {so : List α}
    {s s' : σ}
    (hStart : related so s)
    (hRun : FallibleRun.run step s items = .ok s') :
    related
      (so ++ gathered heading values (active s) items)
      s' := by
  induction items generalizing so s with
  | nil =>
      cases hRun
      simpa [gathered] using hStart
  | cons item items ih =>
      rw [FallibleRun.run_cons,
        FallibleRun.bind_eq_ok_iff] at hRun
      rcases hRun with
        ⟨middle, hFirst, hRest⟩
      rcases hStep so s middle item List.mem_cons_self
          hStart hFirst with
        ⟨hActive, hMiddle⟩
      rw [gathered, ← List.append_assoc, ← hActive]
      apply ih _ hMiddle hRest
      intro so s s' other hOther
      exact hStep so s s' other
        (List.mem_cons_of_mem item hOther)

end FirstValue
