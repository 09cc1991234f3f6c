import Mathlib.Logic.Basic
import Mathlib.Data.List.Basic

/-
  A cursor that hands out the positions of an array.

  The cursor moves on with every position that it hands out
  and stops at the end of the array. Now and then it is reset
  to the first position that may be handed out.

  Main declarations:
    * `CursorTrace.Trace`
    * `CursorTrace.Trace.append`
    * `CursorTrace.Trace.bounds`
    * `CursorTrace.Trace.lt_of_split`
-/

------------------------------------------------------------
-- Traces
------------------------------------------------------------

namespace CursorTrace

/- What can be seen of the cursor. -/
inductive Event where
  | reset
  | take (position : Nat)
  deriving DecidableEq

/- The events that take the cursor from one place to another. -/
inductive Trace
    (start stop : Nat) : Nat → List Event → Nat → Prop where
  | nil (n : Nat) : Trace start stop n [] n
  | reset
      {n m : Nat}
      {es : List Event} :
      Trace start stop start es m →
      Trace start stop n (.reset :: es) m
  | take
      {n m : Nat}
      {es : List Event} :
      n < stop →
      Trace start stop (n + 1) es m →
      Trace start stop n (.take n :: es) m

namespace Trace

variable {start stop : Nat}

theorem append
    {n m k : Nat}
    {es fs : List Event}
    (hFirst : Trace start stop n es m)
    (hRest : Trace start stop m fs k) :
    Trace start stop n (es ++ fs) k := by
  induction hFirst with
  | nil n => exact hRest
  | reset _ ih => exact .reset (ih hRest)
  | take hLess _ ih => exact .take hLess (ih hRest)

/- Every position that is handed out lies within the bounds. -/
theorem bounds
    {n m p : Nat}
    {es : List Event}
    (hTrace : Trace start stop n es m)
    (hStart : start ≤ n)
    (hTake : .take p ∈ es) :
    start ≤ p ∧ p < stop := by
  induction hTrace with
  | nil n => cases hTake
  | reset _ ih =>
      rcases List.mem_cons.mp hTake with
        hHead | hTail
      · cases hHead
      · exact ih (Nat.le_refl start) hTail
  | take hLess _ ih =>
      rcases List.mem_cons.mp hTake with
        hHead | hTail
      · cases hHead
        exact ⟨hStart, hLess⟩
      · exact ih (by omega) hTail

/- A trace passes through the end of each of its parts. -/
theorem split
    {n m : Nat}
    {es fs : List Event}
    (hTrace : Trace start stop n (es ++ fs) m) :
    ∃ k, Trace start stop n es k ∧
      Trace start stop k fs m := by
  induction es generalizing n with
  | nil => exact ⟨n, .nil n, hTrace⟩
  | cons e es ih =>
      cases hTrace with
      | reset hRest =>
          rcases ih hRest with
            ⟨k, hFirst, hLast⟩
          exact ⟨k, .reset hFirst, hLast⟩
      | take hLess hRest =>
          rcases ih hRest with
            ⟨k, hFirst, hLast⟩
          exact ⟨k, .take hLess hFirst, hLast⟩

/- Without a reset the cursor only moves on. -/
theorem le_of_not_reset
    {n m : Nat}
    {es : List Event}
    (hTrace : Trace start stop n es m)
    (hReset : .reset ∉ es) :
    n ≤ m := by
  induction hTrace with
  | nil n => exact Nat.le_refl n
  | reset _ _ => simp at hReset
  | take _ _ ih =>
      rw [List.mem_cons, not_or] at hReset
      have hRest := ih hReset.2
      omega

/- Between two resets no position is handed out twice. -/
theorem lt_of_split
    {n m p q : Nat}
    {before between after : List Event}
    (hTrace :
      Trace start stop n
        (before ++ .take p :: (between ++ .take q :: after))
        m)
    (hReset : .reset ∉ between) :
    p < q := by
  rcases hTrace.split with
    ⟨k, -, hRest⟩
  cases hRest with
  | take _ hRest =>
      rcases hRest.split with
        ⟨l, hBetween, hLast⟩
      cases hLast with
      | take _ _ =>
          have hMoved := hBetween.le_of_not_reset hReset
          omega

end Trace

end CursorTrace
