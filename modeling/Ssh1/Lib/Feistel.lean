import Mathlib.Data.List.Basic

/-
  Feistel networks.

  A round changes one half of the block by a value computed
  from the other half and the round key, and the halves swap
  roles. Whatever the round function is, the rounds with the
  keys in reverse order take the changes back.

  Main declarations:
    * `Feistel.rounds`
    * `Feistel.rounds_append`
    * `Feistel.rounds_reverse`
-/

------------------------------------------------------------
-- Rounds
------------------------------------------------------------

namespace Feistel

variable {κ α : Type}

/-
  One round for each key. The first half is changed, then
  the halves swap.
-/
def rounds
    (combine : α → α → α)
    (f : κ → α → α) :
    List κ → α × α → α × α
| [], block => block
| k :: ks, (a, b) =>
    rounds combine f ks (b, combine a (f k b))

theorem rounds_append
    (combine : α → α → α)
    (f : κ → α → α)
    (ks ls : List κ)
    (block : α × α) :
    rounds combine f (ks ++ ls) block =
      rounds combine f ls (rounds combine f ks block) := by
  induction ks generalizing block with
  | nil => rfl
  | cons k ks ih =>
      rcases block with ⟨a, b⟩
      exact ih (b, combine a (f k b))

/-
  The keys in reverse order undo the rounds, on the block
  with its halves swapped.
-/
theorem rounds_reverse
    {combine : α → α → α}
    (hCancel : ∀ a x, combine (combine a x) x = a)
    (f : κ → α → α)
    (ks : List κ)
    (block : α × α) :
    rounds combine f ks.reverse
        (rounds combine f ks block).swap =
      block.swap := by
  induction ks generalizing block with
  | nil => rfl
  | cons k ks ih =>
      rcases block with ⟨a, b⟩
      have hFirst :
          rounds combine f (k :: ks) (a, b) =
            rounds combine f ks (b, combine a (f k b)) :=
        rfl
      rw [List.reverse_cons, rounds_append, hFirst, ih]
      simp [rounds, hCancel]

end Feistel
