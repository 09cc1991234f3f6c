import Mathlib.Data.List.Basic

/-
  Transducers: machines that answer every symbol they read
  with a symbol and keep a state between the two.

  Main declarations:
    * `Transducer.run`
    * `Transducer.run_append`
    * `Transducer.Inverts`
    * `Transducer.run_inverts`
    * `Transducer.selfInverse`
    * `Transducer.blocks`
    * `Transducer.blocks_append`
-/

------------------------------------------------------------
-- Runs
------------------------------------------------------------

namespace Transducer

variable {σ α β : Type}

/- The answers to the symbols, and the state after them. -/
def run (step : σ → α → β × σ) :
    σ → List α → List β × σ
| s, [] => ([], s)
| s, x :: xs =>
    let (y, s') := step s x
    let (ys, s'') := run step s' xs
    (y :: ys, s'')

@[simp] theorem run_nil
    (step : σ → α → β × σ)
    (s : σ) :
    run step s [] = ([], s) := rfl

theorem run_cons
    (step : σ → α → β × σ)
    (s : σ)
    (x : α)
    (xs : List α) :
    run step s (x :: xs) =
      ((step s x).1 :: (run step (step s x).2 xs).1,
        (run step (step s x).2 xs).2) := rfl

@[simp] theorem length_run
    (step : σ → α → β × σ)
    (s : σ)
    (xs : List α) :
    (run step s xs).1.length = xs.length := by
  induction xs generalizing s with
  | nil => rfl
  | cons x xs ih => simp [run_cons, ih]

/- The second part is read from the state after the first. -/
theorem run_append
    (step : σ → α → β × σ)
    (s : σ)
    (xs ys : List α) :
    run step s (xs ++ ys) =
      ((run step s xs).1 ++
          (run step (run step s xs).2 ys).1,
        (run step (run step s xs).2 ys).2) := by
  induction xs generalizing s with
  | nil => rfl
  | cons x xs ih => simp [run_cons, ih]

end Transducer

------------------------------------------------------------
-- Inverse Transducers
------------------------------------------------------------

namespace Transducer

variable {σ α β : Type}

/-
  From equal states `dec` gives back the symbols that `enc`
  reads, and goes to the same next state. The symbols are
  those that satisfy `p`.
-/
def Inverts
    (p : α → Prop)
    (dec : σ → β → α × σ)
    (enc : σ → α → β × σ) : Prop :=
  ∀ s x, p x → dec s (enc s x).1 = (x, (enc s x).2)

/- Inverse steps are inverse over runs, states included. -/
theorem run_inverts
    {p : α → Prop}
    {dec : σ → β → α × σ}
    {enc : σ → α → β × σ}
    (hInverts : Inverts p dec enc)
    (s : σ)
    {xs : List α}
    (hAll : ∀ x ∈ xs, p x) :
    run dec s (run enc s xs).1 =
      (xs, (run enc s xs).2) := by
  induction xs generalizing s with
  | nil => rfl
  | cons x xs ih =>
      have hHead := hInverts s x (hAll x (by simp))
      have hTail := ih (enc s x).2
        (fun x' hx' => hAll x' (by simp [hx']))
      rw [run_cons, run_cons, hHead, hTail]

/-
  A keystream is its own inverse: the next state and what is
  combined with the symbol depend on the state only.
-/
theorem selfInverse
    {combine : α → α → α}
    (hCancel : ∀ a x, combine (combine a x) x = a)
    (next : σ → α × σ) :
    Inverts (fun _ => True)
      (fun s x => (combine x (next s).1, (next s).2))
      (fun s x => (combine x (next s).1, (next s).2)) := by
  intro s x _
  simp [hCancel]

end Transducer

------------------------------------------------------------
-- Blocks
------------------------------------------------------------

namespace Transducer

variable {α : Type}

/- The first `count` blocks of a text, `size` long each. -/
def blocks (size : Nat) : Nat → List α → List (List α)
| 0, _ => []
| count + 1, text =>
    text.take size :: blocks size count (text.drop size)

@[simp] theorem length_blocks
    (size count : Nat)
    (text : List α) :
    (blocks size count text).length = count := by
  induction count generalizing text with
  | zero => rfl
  | succ count ih => simp [blocks, ih]

/- A text of whole blocks is made of them. -/
theorem flatten_blocks
    {size count : Nat}
    {text : List α}
    (hLength : text.length = count * size) :
    (blocks size count text).flatten = text := by
  induction count generalizing text with
  | zero =>
      have hNil : text = [] :=
        List.length_eq_zero_iff.mp (by simpa using hLength)
      simp [blocks, hNil]
  | succ count ih =>
      have hRest :
          (text.drop size).length = count * size := by
        rw [List.length_drop, hLength, Nat.succ_mul]
        omega
      simp [blocks, ih hRest]

/- Every block of such a text is whole. -/
theorem length_of_mem_blocks
    {size count : Nat}
    {text block : List α}
    (hLength : text.length = count * size)
    (hBlock : block ∈ blocks size count text) :
    block.length = size := by
  induction count generalizing text with
  | zero => simp [blocks] at hBlock
  | succ count ih =>
      rw [Nat.succ_mul] at hLength
      rcases List.mem_cons.mp hBlock with rfl | hRest
      · rw [List.length_take]
        omega
      · refine ih ?_ hRest
        rw [List.length_drop]
        omega

/- Whole blocks in front do not shift what follows them. -/
theorem blocks_append
    {size m : Nat}
    (n : Nat)
    {text : List α}
    (hLength : text.length = m * size)
    (rest : List α) :
    blocks size (m + n) (text ++ rest) =
      blocks size m text ++ blocks size n rest := by
  induction m generalizing text with
  | zero =>
      have hNil : text = [] :=
        List.length_eq_zero_iff.mp (by simpa using hLength)
      simp [blocks, hNil]
  | succ m ih =>
      rw [Nat.succ_mul] at hLength
      have hDrop : (text.drop size).length = m * size := by
        rw [List.length_drop]
        omega
      have hWhole : size ≤ text.length := by omega
      rw [Nat.add_right_comm, blocks, blocks,
        List.take_append_of_le_length hWhole,
        List.drop_append_of_le_length hWhole, ih hDrop,
        List.cons_append]

/- Whole blocks put together are taken apart again. -/
theorem blocks_flatten
    {size : Nat}
    {bs : List (List α)}
    (hAll : ∀ b ∈ bs, b.length = size) :
    blocks size bs.length bs.flatten = bs := by
  induction bs with
  | nil => rfl
  | cons b bs ih =>
      have hHead : b.length = size := hAll b (by simp)
      have hTail := ih fun b' hb' => hAll b' (by simp [hb'])
      rw [List.length_cons, List.flatten_cons, blocks,
        ← hHead, List.take_left, List.drop_left, hHead,
        hTail]

/- The length of whole blocks put together. -/
theorem length_flatten_of_forall
    {size : Nat}
    {bs : List (List α)}
    (hAll : ∀ b ∈ bs, b.length = size) :
    bs.flatten.length = bs.length * size := by
  induction bs with
  | nil => simp
  | cons b bs ih =>
      have hHead : b.length = size := hAll b (by simp)
      have hTail := ih fun b' hb' => hAll b' (by simp [hb'])
      rw [List.flatten_cons, List.length_append, hTail,
        hHead, List.length_cons, Nat.succ_mul, Nat.add_comm]

end Transducer
