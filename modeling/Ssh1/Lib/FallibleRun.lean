import Mathlib.Logic.Basic
import Mathlib.Data.List.Basic

/-
  Runs of a deterministic step that may fail.

  A step takes a state and an event and either returns the
  next state or stops with an error. A run feeds a list of
  events to the step, stopping at the first error.

  Main declarations:
    * `FallibleRun.Ensures`
    * `FallibleRun.run`
    * `FallibleRun.Meets`
    * `FallibleRun.run_simulates`
    * `FallibleRun.run_ensures`, `FallibleRun.run_error_at`
    * `FallibleRun.run_invariant`
    * `FallibleRun.run_forall_iff_meets`
-/

------------------------------------------------------------
-- Fallible Computations
------------------------------------------------------------

namespace FallibleRun

variable {η α β : Type}

/- A sequence succeeds when both of its parts do. -/
theorem bind_eq_ok_iff
    {x : Except η α}
    {f : α → Except η β}
    {b : β} :
    x >>= f = .ok b ↔
      ∃ a, x = .ok a ∧ f a = .ok b := by
  cases x with
  | error e =>
      constructor
      · intro hBind
        cases hBind
      · rintro ⟨a, hOk, -⟩
        cases hOk
  | ok a =>
      constructor
      · intro hBind
        exact ⟨a, rfl, hBind⟩
      · rintro ⟨a', hOk, hRest⟩
        cases hOk
        exact hRest

/- A sequence fails when its first part or the rest does. -/
theorem bind_eq_error_iff
    {x : Except η α}
    {f : α → Except η β}
    {e : η} :
    x >>= f = .error e ↔
      x = .error e ∨
        ∃ a, x = .ok a ∧ f a = .error e := by
  cases x with
  | error e' =>
      constructor
      · intro hBind
        cases hBind
        exact Or.inl rfl
      · rintro (hError | ⟨a, hOk, -⟩)
        · cases hError
          rfl
        · cases hOk
  | ok a =>
      constructor
      · intro hBind
        exact Or.inr ⟨a, rfl, hBind⟩
      · rintro (hError | ⟨a', hOk, hRest⟩)
        · cases hError
        · cases hOk
          exact hRest

@[simp] theorem ok_bind
    (a : α)
    (f : α → Except η β) :
    (Except.ok a : Except η α) >>= f = f a := rfl

@[simp] theorem error_bind
    (e : η)
    (f : α → Except η β) :
    (Except.error e : Except η α) >>= f = .error e := rfl

@[simp] theorem pure_eq_ok
    (a : α) :
    (pure a : Except η α) = .ok a := rfl

end FallibleRun

------------------------------------------------------------
-- Postconditions
------------------------------------------------------------

namespace FallibleRun

variable {η α β : Type}
variable {bad : η → Prop}

/-
  The computation ends in no bad error, and where it returns
  a value the postcondition holds of it.
-/
def Ensures
    (bad : η → Prop)
    (x : Except η α)
    (post : α → Prop) : Prop :=
  match x with
  | .ok a => post a
  | .error e => ¬ bad e

@[simp] theorem ensures_ok
    {a : α}
    {post : α → Prop} :
    Ensures bad (.ok a) post ↔ post a :=
  Iff.rfl

@[simp] theorem ensures_error
    {e : η}
    {post : α → Prop} :
    Ensures bad (.error e : Except η α) post ↔ ¬ bad e :=
  Iff.rfl

/- The postcondition of the first part is assumed after it. -/
theorem Ensures.bind
    {x : Except η α}
    {f : α → Except η β}
    {mid : α → Prop}
    {post : β → Prop}
    (hFirst : Ensures bad x mid)
    (hRest : ∀ a, mid a → Ensures bad (f a) post) :
    Ensures bad (x >>= f) post := by
  cases x with
  | error e => exact hFirst
  | ok a => exact hRest a hFirst

/- A postcondition may be weakened. -/
theorem Ensures.mono
    {x : Except η α}
    {post post' : α → Prop}
    (hEnsures : Ensures bad x post)
    (hWeaker : ∀ a, post a → post' a) :
    Ensures bad x post' := by
  cases x with
  | error e => exact hEnsures
  | ok a => exact hWeaker a hEnsures

/- Two kinds of bad errors may be ruled out one by one. -/
theorem Ensures.or
    {bad' : η → Prop}
    {x : Except η α}
    {post post' : α → Prop}
    (hEnsures : Ensures bad x post)
    (hOther : Ensures bad' x post') :
    Ensures (fun e => bad e ∨ bad' e) x post := by
  cases x with
  | error e =>
      rintro (hBad | hBad)
      · exact hEnsures hBad
      · exact hOther hBad
  | ok a => exact hEnsures

/- What holds of each value and error holds of the whole. -/
theorem ensures_iff
    {x : Except η α}
    {post : α → Prop} :
    Ensures bad x post ↔
      (∀ a, x = .ok a → post a) ∧
        ∀ e, x = .error e → ¬ bad e := by
  cases x with
  | error e => simp
  | ok a => simp

end FallibleRun

------------------------------------------------------------
-- Runs
------------------------------------------------------------

namespace FallibleRun

variable {η σ ε : Type}

/- Feed the events to the step, stopping at an error. -/
def run (step : σ → ε → Except η σ) :
    σ → List ε → Except η σ
| s, [] => .ok s
| s, e :: es => step s e >>= fun s' => run step s' es

@[simp] theorem run_nil
    (step : σ → ε → Except η σ)
    (s : σ) :
    run step s [] = .ok s := rfl

theorem run_cons
    (step : σ → ε → Except η σ)
    (s : σ)
    (e : ε)
    (es : List ε) :
    run step s (e :: es) =
      step s e >>= fun s' => run step s' es := rfl

theorem run_append
    (step : σ → ε → Except η σ)
    (s : σ)
    (es fs : List ε) :
    run step s (es ++ fs) =
      run step s es >>= fun s' => run step s' fs := by
  induction es generalizing s with
  | nil => rfl
  | cons e es ih =>
      simp only [List.cons_append, run_cons]
      cases hStep : step s e with
      | error err => rfl
      | ok s' => exact ih s'

/- The events may be taken from other events. -/
theorem run_map
    {δ : Type}
    (step : σ → ε → Except η σ)
    (f : δ → ε)
    (s : σ)
    (ds : List δ) :
    run step s (ds.map f) =
      run (fun s d => step s (f d)) s ds := by
  induction ds generalizing s with
  | nil => rfl
  | cons d ds ih =>
      simp only [List.map_cons, run_cons, ih]

/-
  Every step of the run, taken from the state that the run
  has reached, satisfies the guard.
-/
def Meets
    (step : σ → ε → Except η σ)
    (guard : σ → ε → Prop) :
    σ → List ε → Prop
| _, [] => True
| s, e :: es =>
    guard s e ∧
      ∀ s', step s e = .ok s' → Meets step guard s' es

/- A guard may be joined with what holds of every event. -/
theorem Meets.and_forall
    {step : σ → ε → Except η σ}
    {guard : σ → ε → Prop}
    {good : ε → Prop}
    {s : σ}
    {es : List ε}
    (hMeets : Meets step guard s es)
    (hGood : ∀ e ∈ es, good e) :
    Meets step (fun s e => guard s e ∧ good e) s es := by
  induction es generalizing s with
  | nil => trivial
  | cons e es ih =>
      refine ⟨⟨hMeets.1, hGood e (by simp)⟩, ?_⟩
      intro s' hStep
      exact ih (hMeets.2 s' hStep)
        fun e' hMem => hGood e' (by simp [hMem])

/-
  Where every guarded step succeeds and acts on related
  states as an operation does, so does every run whose steps
  meet the guard.
-/
theorem run_simulates
    {κ : Type}
    {step : σ → ε → Except η σ}
    {guard : σ → ε → Prop}
    {apply : κ → ε → κ}
    {rel : σ → κ → Prop}
    (hStep :
      ∀ s k e, rel s k → guard s e →
        ∃ s', step s e = .ok s' ∧ rel s' (apply k e))
    {s : σ}
    {k : κ}
    {es : List ε}
    (hMeets : Meets step guard s es)
    (hRel : rel s k) :
    ∃ s', run step s es = .ok s' ∧
      rel s' (es.foldl apply k) := by
  induction es generalizing s k with
  | nil => exact ⟨s, rfl, hRel⟩
  | cons e es ih =>
      rcases hStep s k e hRel hMeets.1 with
        ⟨mid, hMid, hRel'⟩
      rcases ih (hMeets.2 mid hMid) hRel' with
        ⟨s', hRun, hEnd⟩
      refine ⟨s', ?_, hEnd⟩
      rw [run_cons, hMid]
      exact hRun

/- A step that ensures an invariant makes every run do so. -/
theorem run_ensures
    {step : σ → ε → Except η σ}
    {inv : σ → Prop}
    {bad : η → Prop}
    {es : List ε}
    (hStep :
      ∀ s, ∀ e ∈ es, inv s → Ensures bad (step s e) inv)
    {s : σ}
    (hInv : inv s) :
    Ensures bad (run step s es) inv := by
  induction es generalizing s with
  | nil => exact hInv
  | cons e es ih =>
      rw [run_cons]
      refine (hStep s e List.mem_cons_self hInv).bind ?_
      intro s' hInv'
      exact ih
        (fun s e hMem => hStep s e (List.mem_cons_of_mem _ hMem))
        hInv'

/- A run that fails does so in a state that it has reached. -/
theorem run_error_at
    {step : σ → ε → Except η σ}
    {inv : σ → Prop}
    {ending : σ → η → Prop}
    {es : List ε}
    (hStep :
      ∀ s e, inv s →
        Ensures (fun err => ¬ ending s err) (step s e) inv)
    {s : σ}
    {err : η}
    (hInv : inv s)
    (hRun : run step s es = .error err) :
    ∃ done s', done <+: es ∧ run step s done = .ok s' ∧
      ending s' err := by
  induction es generalizing s with
  | nil => cases hRun
  | cons e es ih =>
      have hFirst := ensures_iff.mp (hStep s e hInv)
      rcases bind_eq_error_iff.mp hRun with
        hHead | ⟨mid, hMid, hRest⟩
      · exact ⟨[], s, List.nil_prefix, rfl,
          not_not.mp (hFirst.2 err hHead)⟩
      · rcases ih (hFirst.1 mid hMid) hRest with
          ⟨done, s', hDone, hReached, hEnding⟩
        refine ⟨e :: done, s', ?_, ?_, hEnding⟩
        · exact (List.prefix_cons_inj e).mpr hDone
        · rw [run_cons, hMid]
          exact hReached

/- An invariant of every step is an invariant of every run. -/
theorem run_invariant
    {step : σ → ε → Except η σ}
    {inv : σ → Prop}
    (hStep :
      ∀ s e s', inv s → step s e = .ok s' → inv s')
    {s s' : σ}
    {es : List ε}
    (hInv : inv s)
    (hRun : run step s es = .ok s') :
    inv s' := by
  induction es generalizing s with
  | nil =>
      cases hRun
      exact hInv
  | cons e es ih =>
      rcases bind_eq_ok_iff.mp hRun with
        ⟨mid, hMid, hRest⟩
      exact ih (hStep s e mid hInv hMid) hRest

/-
  Where the guard is exactly the absence of a bad error, a
  run avoids the bad errors exactly when its steps meet the
  guard.
-/
theorem run_forall_iff_meets
    {step : σ → ε → Except η σ}
    {guard : σ → ε → Prop}
    {inv : σ → Prop}
    {bad : η → Prop}
    (hStep :
      ∀ s e s', inv s → guard s e →
        step s e = .ok s' → inv s')
    (hExact :
      ∀ s e, inv s →
        (guard s e ↔
          ∀ err, step s e = .error err → ¬ bad err))
    {s : σ}
    (es : List ε)
    (hInv : inv s) :
    (∀ err, run step s es = .error err → ¬ bad err) ↔
      Meets step guard s es := by
  induction es generalizing s with
  | nil =>
      constructor
      · intro _
        trivial
      · intro _ err hRun
        cases hRun
  | cons e es ih =>
      constructor
      · intro hSafe
        have hGuard : guard s e := by
          apply (hExact s e hInv).mpr
          intro err hHead
          apply hSafe err
          rw [run_cons, hHead]
          rfl
        refine ⟨hGuard, ?_⟩
        intro mid hMid
        apply (ih (hStep s e mid hInv hGuard hMid)).mp
        intro err hRest
        apply hSafe err
        rw [run_cons, hMid]
        exact hRest
      · intro hMeets err hRun
        rcases bind_eq_error_iff.mp hRun with
          hHead | ⟨mid, hMid, hRest⟩
        · exact (hExact s e hInv).mp hMeets.1 err hHead
        · exact
            (ih (hStep s e mid hInv hMeets.1 hMid)).mpr
              (hMeets.2 mid hMid) err hRest

end FallibleRun
