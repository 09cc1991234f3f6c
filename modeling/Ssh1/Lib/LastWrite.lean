import Mathlib.Data.List.Basic

/-
  What can be seen of a state after a list of writes.

  One of the writes brings about what is to be seen, and none
  of them spoils it.

  Main declarations:
    * `LastWrite.view_foldl`
    * `LastWrite.view_foldl_of_mem`
-/

------------------------------------------------------------
-- Writes
------------------------------------------------------------

namespace LastWrite

variable {σ ω ο : Type}
variable {write : σ → ω → σ}
variable (view : σ → ο)
variable {target : ο}

/- What is seen is not spoilt by any of the writes. -/
theorem view_foldl
    {writes : List ω}
    (hKeep : ∀ w ∈ writes, ∀ s,
      view s = target → view (write s w) = target)
    {s : σ}
    (hView : view s = target) :
    view (writes.foldl write s) = target := by
  induction writes generalizing s with
  | nil => exact hView
  | cons w writes ih =>
      exact ih
        (fun w' hMem => hKeep w' (List.mem_cons_of_mem w hMem))
        (hKeep w List.mem_cons_self s hView)

/- A write among the others brings it about. -/
theorem view_foldl_of_mem
    {writes : List ω}
    (hKeep : ∀ w ∈ writes, ∀ s,
      view s = target → view (write s w) = target)
    {w : ω}
    (hMem : w ∈ writes)
    (hSet : ∀ s, view (write s w) = target)
    (s : σ) :
    view (writes.foldl write s) = target := by
  rcases List.append_of_mem hMem with ⟨before, after, rfl⟩
  rw [List.foldl_append, List.foldl_cons]
  refine view_foldl view ?_ (hSet _)
  intro w' hAfter
  exact hKeep w' (List.mem_append_right before
    (List.mem_cons_of_mem w hAfter))

end LastWrite
