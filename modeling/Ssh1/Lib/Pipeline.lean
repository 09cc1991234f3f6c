import Mathlib.Data.List.Basic
import Mathlib.Data.List.Infix

/-
  Buffered pipes, one after the other.

  What goes into a pipe waits in its buffer until it comes
  out. A pipe may be dropped with all that is in it, and
  takes up nothing from then on. What has come out is at any
  time a beginning of what has gone in, also of pipes that
  are put one after the other.

  Main declarations:
    * `Pipe`, `Pipe.Step`
    * `Pipe.Sound`
    * `Pipe.Sound.step`
    * `Pipe.Sound.andThen`
-/

------------------------------------------------------------
-- Pipes
------------------------------------------------------------

/- A pipe, and what waits in it. -/
structure Pipe (α : Type) where
  dropped : Bool
  buffer : List α

namespace Pipe

variable {α : Type}

/- A pipe that nothing has gone into. -/
def new : Pipe α where
  dropped := false
  buffer := []

/- A pipe that nothing comes out of. -/
def gone : Pipe α where
  dropped := true
  buffer := []

/-
  A step of a pipe, with what goes in and what comes out. A
  pipe that is dropped loses what it is given.
-/
inductive Step :
    List α → List α → Pipe α → Pipe α → Prop where
  | stay
      {pipe : Pipe α} :
      Step [] [] pipe pipe
  | push
      {buffer : List α}
      (xs : List α) :
      Step xs [] ⟨false, buffer⟩ ⟨false, buffer ++ xs⟩
  | lose
      {buffer : List α}
      (xs : List α) :
      Step xs [] ⟨true, buffer⟩ ⟨true, buffer⟩
  | pop
      {pipe : Pipe α}
      (n : Nat) :
      Step [] (pipe.buffer.take n) pipe
        { pipe with buffer := pipe.buffer.drop n }
  | drop
      {pipe : Pipe α} :
      Step [] [] pipe gone

/-
  Where a pipe stands after all that has gone in and all that
  has come out.
-/
structure Sound
    (pushed popped : List α)
    (pipe : Pipe α) : Prop where
  kept :
    pipe.dropped = false → popped ++ pipe.buffer = pushed
  empty : pipe.dropped = true → pipe.buffer = []
  front : popped <+: pushed

variable {pushed popped taken given : List α}
variable {pipe pipe' : Pipe α}

/- A new pipe has passed nothing. -/
theorem Sound.new :
    Sound [] [] (Pipe.new : Pipe α) where
  kept := fun _ => rfl
  empty := fun _ => rfl
  front := List.nil_prefix

/- A pipe that is gone has only its past. -/
theorem Sound.gone
    (hFront : popped <+: pushed) :
    Sound pushed popped (Pipe.gone : Pipe α) where
  kept := by
    intro hKept
    cases hKept
  empty := fun _ => rfl
  front := hFront

/- Nothing of what came in is lost. -/
theorem Sound.of_kept
    (hOpen : pipe.dropped = false)
    (hKept : popped ++ pipe.buffer = pushed) :
    Sound pushed popped pipe where
  kept := fun _ => hKept
  empty := by
    intro hDropped
    rw [hOpen] at hDropped
    cases hDropped
  front := ⟨pipe.buffer, hKept⟩

/- A step keeps what the pipe has done in its place. -/
theorem Sound.step
    (hSound : Sound pushed popped pipe)
    (hStep : Step taken given pipe pipe') :
    Sound (pushed ++ taken) (popped ++ given) pipe' := by
  cases hStep with
  | stay =>
      rw [List.append_nil, List.append_nil]
      exact hSound
  | push =>
      rw [List.append_nil]
      apply Sound.of_kept rfl
      rw [← hSound.kept rfl, List.append_assoc]
  | lose =>
      rw [List.append_nil]
      refine ⟨?_, hSound.empty, ?_⟩
      · intro hKept
        cases hKept
      · exact hSound.front.trans (List.prefix_append _ _)
  | pop n =>
      rw [List.append_nil]
      cases hOpen : pipe.dropped with
      | false =>
          apply Sound.of_kept rfl
          rw [List.append_assoc, List.take_append_drop]
          exact hSound.kept hOpen
      | true =>
          have hEmpty := hSound.empty hOpen
          refine ⟨?_, ?_, ?_⟩
          · intro hKept
            cases hKept
          · intro _
            rw [hEmpty, List.drop_nil]
          · rw [hEmpty, List.take_nil, List.append_nil]
            exact hSound.front
  | drop =>
      rw [List.append_nil, List.append_nil]
      exact .gone hSound.front

end Pipe

------------------------------------------------------------
-- Pipes in Series
------------------------------------------------------------

namespace Pipe

variable {α : Type}
variable {first second third : List α}
variable {a b : Pipe α}

/- What comes out of the first pipe goes into the second. -/
def andThen (a b : Pipe α) : Pipe α :=
  if a.dropped || b.dropped then gone
  else ⟨false, b.buffer ++ a.buffer⟩

/- What is in the second pipe came first. -/
theorem andThen_of_kept
    (hFirst : a.dropped = false)
    (hSecond : b.dropped = false) :
    a.andThen b = ⟨false, b.buffer ++ a.buffer⟩ := by
  rw [andThen, hFirst, hSecond]
  rfl

/- Two pipes are one, if both keep what they have. -/
theorem Sound.andThen
    (hFirst : Sound first second a)
    (hSecond : Sound second third b) :
    Sound first third (a.andThen b) := by
  have hFront : third <+: first :=
    hSecond.front.trans hFirst.front
  unfold Pipe.andThen
  split
  · exact .gone hFront
  · next hKept =>
      simp only [Bool.or_eq_true, not_or,
        Bool.not_eq_true] at hKept
      apply Sound.of_kept rfl
      rw [← hFirst.kept hKept.1, ← hSecond.kept hKept.2,
        List.append_assoc]

end Pipe
