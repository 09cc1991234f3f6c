import Mathlib.Logic.Basic
import Mathlib.Data.List.Basic

/-
  A machine that answers as another one does.

  A machine takes calls, may fail, and answers. As long as its
  calls fit its state, related states of the two give the same
  answers and stay related.

  Main declarations:
    * `OutputRefinement.runOutputs`, `specOutputs`
    * `OutputRefinement.runOutputs_split`
    * `OutputRefinement.AllFit`
    * `OutputRefinement.run_refines`
    * `OutputRefinement.EndsAlike`
    * `OutputRefinement.run_endsAlike`
-/

------------------------------------------------------------
-- Runs
------------------------------------------------------------

namespace OutputRefinement

variable {σ κ ε ο η : Type}

/- The answers to the calls, and the state after them. -/
def runOutputs
    (step : σ → ε → Except η (ο × σ)) :
    σ → List ε → Except η (List ο × σ)
| s, [] => .ok ([], s)
| s, call :: calls =>
    match step s call with
    | .error e => .error e
    | .ok (answer, s) =>
        match runOutputs step s calls with
        | .error e => .error e
        | .ok (answers, s) => .ok (answer :: answers, s)

/- The same for a machine that cannot fail. -/
def specOutputs
    (spec : κ → ε → ο × κ) :
    κ → List ε → List ο × κ
| k, [] => ([], k)
| k, call :: calls =>
    let (answer, k) := spec k call
    let (answers, k) := specOutputs spec k calls
    (answer :: answers, k)

/- Every call fits the state in which it is made. -/
def AllFit
    (step : σ → ε → Except η (ο × σ))
    (fits : σ → ε → Prop) :
    σ → List ε → Prop
| _, [] => True
| s, call :: calls =>
    fits s call ∧
      ∀ answer s', step s call = .ok (answer, s') →
        AllFit step fits s' calls

variable {step : σ → ε → Except η (ο × σ)}
variable {spec : κ → ε → ο × κ}
variable {fits : σ → ε → Prop}
variable {rel : σ → κ → Prop}

/- A call in a run, with the state that it is made in. -/
theorem runOutputs_split
    {s s' : σ}
    {early late : List ε}
    {call : ε}
    {answers : List ο}
    (hRun :
      runOutputs step s (early ++ call :: late) =
        .ok (answers, s')) :
    ∃ given s₁ answer s₂,
      runOutputs step s early = .ok (given, s₁) ∧
        step s₁ call = .ok (answer, s₂) ∧
        answers[early.length]? = some answer := by
  induction early generalizing s answers with
  | nil =>
      rw [List.nil_append, runOutputs] at hRun
      cases hStep : step s call with
      | error e =>
          rw [hStep] at hRun
          cases hRun
      | ok result =>
          rcases result with
            ⟨answer, s₂⟩
          rw [hStep] at hRun
          simp only [] at hRun
          refine ⟨[], s, answer, s₂, rfl, hStep, ?_⟩
          split at hRun
          · cases hRun
          · cases hRun
            rfl
  | cons first early ih =>
      rw [List.cons_append, runOutputs] at hRun
      cases hStep : step s first with
      | error e =>
          rw [hStep] at hRun
          cases hRun
      | ok result =>
          rcases result with
            ⟨answer, s₁⟩
          rw [hStep] at hRun
          simp only [] at hRun
          cases hRest :
              runOutputs step s₁ (early ++ call :: late) with
          | error e =>
              rw [hRest] at hRun
              cases hRun
          | ok rest =>
              rw [hRest] at hRun
              cases hRun
              rcases ih hRest with
                ⟨given, s₂, answer', s₃, hEarly, hCall, hAt⟩
              refine ⟨answer :: given, s₂, answer', s₃, ?_,
                hCall, hAt⟩
              rw [runOutputs, hStep]
              simp only [hEarly]

theorem allFit_cons
    {s s' : σ}
    {call : ε}
    {answer : ο}
    {calls : List ε}
    (hFits : fits s call)
    (hStep : step s call = .ok (answer, s'))
    (hRest : AllFit step fits s' calls) :
    AllFit step fits s (call :: calls) := by
  refine ⟨hFits, ?_⟩
  intro answer' s'' hStep'
  rw [hStep] at hStep'
  cases hStep'
  exact hRest

/-
  Where one call is answered alike and keeps states related,
  so is every run of calls that fit.
-/
theorem run_refines
    (hStep : ∀ s k call, rel s k → fits s call →
      ∃ s', step s call = .ok ((spec k call).1, s') ∧
        rel s' (spec k call).2)
    {s : σ}
    {k : κ}
    (hRel : rel s k)
    {calls : List ε}
    (hFit : AllFit step fits s calls) :
    ∃ s',
      runOutputs step s calls =
        .ok ((specOutputs spec k calls).1, s') ∧
      rel s' (specOutputs spec k calls).2 := by
  induction calls generalizing s k with
  | nil => exact ⟨s, rfl, hRel⟩
  | cons call calls ih =>
      rcases hStep s k call hRel hFit.1 with
        ⟨s', hOk, hRel'⟩
      rcases ih hRel' (hFit.2 _ _ hOk) with
        ⟨s'', hRun, hRel''⟩
      refine ⟨s'', ?_, hRel''⟩
      rw [runOutputs, hOk]
      simp only [hRun]
      rfl

end OutputRefinement

------------------------------------------------------------
-- Two Machines That May Fail
------------------------------------------------------------

namespace OutputRefinement

variable {σ κ ε ο η : Type}

/-
  Both fail with the same error, or both answer the same and
  are in related states.
-/
def EndsAlike
    (rel : σ → κ → Prop)
    (x : Except η (ο × σ))
    (y : Except η (ο × κ)) : Prop :=
  (∃ e, x = .error e ∧ y = .error e) ∨
    ∃ answer s k,
      x = .ok (answer, s) ∧ y = .ok (answer, k) ∧ rel s k

variable {step : σ → ε → Except η (ο × σ)}
variable {spec : κ → ε → Except η (ο × κ)}
variable {fits : σ → ε → Prop}
variable {rel : σ → κ → Prop}

/-
  Where one call that fits ends alike from related states,
  so does every run of calls that fit.
-/
theorem run_endsAlike
    (hStep : ∀ s k call, rel s k → fits s call →
      EndsAlike rel (step s call) (spec k call))
    {s : σ}
    {k : κ}
    (hRel : rel s k)
    {calls : List ε}
    (hFit : AllFit step fits s calls) :
    EndsAlike rel (runOutputs step s calls)
      (runOutputs spec k calls) := by
  induction calls generalizing s k with
  | nil => exact Or.inr ⟨[], s, k, rfl, rfl, hRel⟩
  | cons call calls ih =>
      rcases hStep s k call hRel hFit.1 with
        ⟨e, hError, hSpec⟩ | ⟨answer, s', k', hOk, hSpec, hRel'⟩
      · refine Or.inl ⟨e, ?_, ?_⟩
        · rw [runOutputs, hError]
        · rw [runOutputs, hSpec]
      · rw [runOutputs, runOutputs, hOk, hSpec]
        rcases ih hRel' (hFit.2 answer s' hOk) with
          ⟨e, hError, hSpecRest⟩ |
            ⟨answers, s'', k'', hRun, hSpecRun, hRel''⟩
        · refine Or.inl ⟨e, ?_, ?_⟩
          · simp only [hError]
          · simp only [hSpecRest]
        · refine Or.inr
            ⟨answer :: answers, s'', k'', ?_, ?_, hRel''⟩
          · simp only [hRun]
          · simp only [hSpecRun]

end OutputRefinement
