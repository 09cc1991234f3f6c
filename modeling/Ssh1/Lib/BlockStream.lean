import Mathlib.Data.List.Basic
import Mathlib.Algebra.Order.Ring.Nat

/-
  Messages taken up in blocks of one length.

  A state takes up a message block by block; what is left is
  shorter than a block. A message may also come in pieces:
  the state and what was left of the first pieces are all
  that has to be kept of them.

  Main declarations:
    * `BlockStream.chain`, `BlockStream.rest`
    * `BlockStream.chain_append`, `BlockStream.rest_append`
    * `BlockStream.Holds`
-/

------------------------------------------------------------
-- Whole Blocks
------------------------------------------------------------

namespace BlockStream

variable {σ α : Type}

/- Takes up the first `k` blocks of a message. -/
def absorb
    (n : Nat)
    (compress : σ → List α → σ) :
    Nat → σ → List α → σ
| 0, s, _ => s
| k + 1, s, xs =>
    absorb n compress k (compress s (xs.take n)) (xs.drop n)

/- Takes up all of the blocks of a message. -/
def chain
    (n : Nat)
    (compress : σ → List α → σ)
    (s : σ)
    (xs : List α) : σ :=
  absorb n compress (xs.length / n) s xs

/- What is left of a message after its blocks. -/
def rest
    (n : Nat)
    (xs : List α) : List α :=
  xs.drop (n * (xs.length / n))

variable {n : Nat}
variable {compress : σ → List α → σ}
variable {s : σ}
variable {xs ys : List α}

/- What is appended is absorbed after the whole blocks. -/
theorem absorb_append
    (k j : Nat)
    (s : σ)
    (hLength : n * k ≤ xs.length) :
    absorb n compress (k + j) s (xs ++ ys) =
      absorb n compress j (absorb n compress k s xs)
        (xs.drop (n * k) ++ ys) := by
  induction k generalizing s xs with
  | zero => simp [absorb]
  | succ k ih =>
      rw [Nat.mul_succ] at hLength
      have hFirst : n ≤ xs.length := by omega
      have hRest : n * k ≤ (xs.drop n).length := by
        rw [List.length_drop]
        omega
      rw [Nat.succ_add, absorb,
        List.take_append_of_le_length hFirst,
        List.drop_append_of_le_length hFirst, ih _ hRest,
        absorb, List.drop_drop, Nat.mul_succ, Nat.add_comm n]

/- Less than a block is not absorbed yet. -/
theorem chain_of_short
    (hShort : xs.length < n) :
    chain n compress s xs = s := by
  rw [chain, Nat.div_eq_of_lt hShort]
  rfl

theorem rest_of_short
    (hShort : xs.length < n) :
    rest n xs = xs := by
  rw [rest, Nat.div_eq_of_lt hShort]
  rfl

/- What is left over is less than a block. -/
theorem rest_length
    (xs : List α) :
    (rest n xs).length = xs.length % n := by
  rw [rest, List.length_drop, Nat.mod_def]

section Blocks

variable (hBlock : 0 < n)

include hBlock

/- One block at the front of a message. -/
theorem chain_cons
    (hLength : n ≤ xs.length) :
    chain n compress s xs =
      chain n compress (compress s (xs.take n))
        (xs.drop n) := by
  have hBlocks :
      xs.length / n = (xs.drop n).length / n + 1 := by
    rw [List.length_drop, ← Nat.div_eq_sub_div hBlock hLength]
  rw [chain, hBlocks, absorb, chain]

/- A whole block leaves nothing over. -/
theorem rest_cons
    (hLength : n ≤ xs.length) :
    rest n xs = rest n (xs.drop n) := by
  have hBlocks :
      xs.length / n = (xs.drop n).length / n + 1 := by
    rw [List.length_drop, ← Nat.div_eq_sub_div hBlock hLength]
  rw [rest, rest, hBlocks, List.drop_drop, Nat.mul_succ,
    Nat.add_comm n]

/- The blocks of a piece are those that it completes. -/
theorem length_div
    (xs ys : List α) :
    (xs ++ ys).length / n =
      xs.length / n + (rest n xs ++ ys).length / n := by
  have hParts := Nat.mod_add_div xs.length n
  have hSplit :
      xs.length % n + n * (xs.length / n) + ys.length =
        n * (xs.length / n) + (xs.length % n + ys.length) := by
    omega
  rw [List.length_append, List.length_append, rest_length]
  nth_rewrite 1 [← hParts]
  rw [hSplit, Nat.mul_add_div hBlock]

/- A message that comes in two pieces. -/
theorem chain_append
    (s : σ)
    (xs ys : List α) :
    chain n compress s (xs ++ ys) =
      chain n compress (chain n compress s xs)
        (rest n xs ++ ys) := by
  have hLength := Nat.mul_div_le xs.length n
  rw [chain, length_div hBlock, absorb_append _ _ _ hLength,
    ← rest, chain, chain]

/- What is left over stands before what comes next. -/
theorem rest_append
    (xs ys : List α) :
    rest n (xs ++ ys) = rest n (rest n xs ++ ys) := by
  have hLength := Nat.mul_div_le xs.length n
  rw [rest, length_div hBlock, Nat.mul_add, ← List.drop_drop,
    List.drop_append_of_le_length hLength]
  rfl

end Blocks

end BlockStream

------------------------------------------------------------
-- States of a Message
------------------------------------------------------------

namespace BlockStream

variable {σ α : Type}
variable {n : Nat}
variable {compress : σ → List α → σ}
variable {start s : σ}
variable {pending message : List α}

/- What is kept of a message is all that it has come to. -/
structure Holds
    (n : Nat)
    (compress : σ → List α → σ)
    (start : σ)
    (message : List α)
    (s : σ)
    (pending : List α) : Prop where
  state : chain n compress start message = s
  left : rest n message = pending

/- Before the first piece. -/
theorem Holds.nil
    (hBlock : 0 < n) :
    Holds n compress start [] start [] where
  state := chain_of_short hBlock
  left := rest_of_short hBlock

/- One more piece of the message. -/
theorem Holds.append
    (hBlock : 0 < n)
    (hHolds : Holds n compress start message s pending)
    (piece : List α) :
    Holds n compress start (message ++ piece)
      (chain n compress s (pending ++ piece))
      (rest n (pending ++ piece)) where
  state := by
    rw [chain_append hBlock, hHolds.state, hHolds.left]
  left := by
    rw [rest_append hBlock, hHolds.left]

end BlockStream
