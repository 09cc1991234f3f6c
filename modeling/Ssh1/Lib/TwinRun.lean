import Ssh1.Lib.FallibleRun

/-
  Two runs side by side.

  Two computations agree when both return related values or
  both stop with the same error. What two programs do in the
  same order agrees when each part does, and so two runs on
  the same events end in related states.

  Main declarations:
    * `FallibleRun.Agree`
    * `FallibleRun.Agree.bind`
    * `FallibleRun.Agree.run`
-/

------------------------------------------------------------
-- Agreement
------------------------------------------------------------

namespace FallibleRun

variable {η α β α' β' : Type}

/- Both return related values, or both fail alike. -/
def Agree
    (rel : α → α' → Prop) :
    Except η α → Except η α' → Prop
| .ok a, .ok a' => rel a a'
| .error e, .error e' => e = e'
| _, _ => False

variable {rel : α → α' → Prop}

@[simp] theorem agree_ok
    {a : α}
    {a' : α'} :
    Agree rel (.ok a : Except η α) (.ok a') ↔ rel a a' :=
  Iff.rfl

theorem Agree.error
    (e : η) :
    Agree rel (.error e : Except η α) (.error e) :=
  rfl

/- Related values are computed on with related results. -/
theorem Agree.bind
    {x : Except η α}
    {x' : Except η α'}
    {rel' : β → β' → Prop}
    {f : α → Except η β}
    {f' : α' → Except η β'}
    (hFirst : Agree rel x x')
    (hRest : ∀ a a', rel a a' → Agree rel' (f a) (f' a')) :
    Agree rel' (x >>= f) (x' >>= f') := by
  cases x with
  | error e =>
      cases x' with
      | error e' => exact hFirst
      | ok a' => exact hFirst.elim
  | ok a =>
      cases x' with
      | error e' => exact hFirst.elim
      | ok a' => exact hRest a a' hFirst

/- A computation that both make has one result. -/
theorem Agree.bind_same
    {rel' : β → β' → Prop}
    (x : Except η α)
    {f : α → Except η β}
    {f' : α → Except η β'}
    (hRest : ∀ a, Agree rel' (f a) (f' a)) :
    Agree rel' (x >>= f) (x >>= f') := by
  cases x with
  | error e => exact .error e
  | ok a => exact hRest a

/- Both take the same branch. -/
theorem Agree.ite
    {c : Prop}
    [Decidable c]
    {x y : Except η α}
    {x' y' : Except η α'}
    (hThen : c → Agree rel x x')
    (hElse : ¬ c → Agree rel y y') :
    Agree rel (if c then x else y) (if c then x' else y') := by
  by_cases hc : c
  · rw [if_pos hc, if_pos hc]
    exact hThen hc
  · rw [if_neg hc, if_neg hc]
    exact hElse hc

/- Where one of them succeeds, so does the other one. -/
theorem Agree.exists_ok
    {a : α}
    {x' : Except η α'}
    (hAgree : Agree rel (.ok a) x') :
    ∃ a', x' = .ok a' ∧ rel a a' := by
  cases x' with
  | error e' => exact hAgree.elim
  | ok a' => exact ⟨a', rfl, hAgree⟩

/- Steps that agree from related states make runs that do. -/
theorem Agree.run
    {σ σ' ε : Type}
    {rel : σ → σ' → Prop}
    {step : σ → ε → Except η σ}
    {step' : σ' → ε → Except η σ'}
    (hStep :
      ∀ s s' e, rel s s' → Agree rel (step s e) (step' s' e))
    (es : List ε)
    {s : σ}
    {s' : σ'}
    (hRel : rel s s') :
    Agree rel (FallibleRun.run step s es)
      (FallibleRun.run step' s' es) := by
  induction es generalizing s s' with
  | nil => exact hRel
  | cons e es ih =>
      rw [run_cons, run_cons]
      apply (hStep s s' e hRel).bind
      intro mid mid' hMid
      exact ih hMid

end FallibleRun
