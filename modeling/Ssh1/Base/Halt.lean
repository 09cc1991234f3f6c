import Ssh1.Lib.FallibleRun

/-
  How the programs end before their time.

  A function that does not return ends the process: through
  `fatal`, `packet_disconnect` or `exit`, or through a failed
  `assert`. The messages are those of the source.

  Main declarations:
    * `Halt`
    * `Outcome`
    * `Halt.IsAborted`
    * `Orderly`
-/

------------------------------------------------------------
-- Process Ends
------------------------------------------------------------

namespace Ssh1

/- The ways in which a call ends the process. -/
inductive Halt where
  -- `fatal` and `fatal_severity`
  | fatal (message : String)
  -- `packet_disconnect`, which tells the peer first
  | disconnect (message : String)
  -- a message on `stderr`, and `exit`
  | exit (message : String)
  -- a failed `assert`
  | assertion
  -- an access outside of the memory that holds the data
  | outOfBounds
  -- a loop that never ends
  | diverges
  deriving DecidableEq, Repr

/- The result of a call that may end the process. -/
abbrev Outcome (α : Type) := Except Halt α

namespace Halt

/- The process was aborted instead of being ended. -/
def IsAborted : Halt → Prop
| fatal _ => False
| disconnect _ => False
| exit _ => False
| assertion => True
| outOfBounds => True
| diverges => True

instance (halt : Halt) : Decidable halt.IsAborted := by
  cases halt <;> unfold IsAborted <;> infer_instance

end Halt

/- Which way a call ended is decidable for any result. -/
instance {α : Type} (x : Outcome α) (halt : Halt) :
    Decidable (x = .error halt) :=
  match x with
  | .ok _ => .isFalse nofun
  | .error halt' =>
      decidable_of_iff (halt' = halt)
        ⟨congrArg Except.error, Except.error.inj⟩

/-
  The call does not abort, and where it returns the
  postcondition holds of what it returns.
-/
abbrev Orderly
    {α : Type}
    (x : Outcome α)
    (post : α → Prop) : Prop :=
  FallibleRun.Ensures Halt.IsAborted x post

/- The C macro `assert`. -/
def assert (condition : Prop) [Decidable condition] :
    Outcome Unit :=
  if condition then .ok () else .error .assertion

/- A condition that holds passes. -/
@[simp] theorem assert_of_true
    {condition : Prop}
    [Decidable condition]
    (hHolds : condition) :
    assert condition = .ok () := by
  simp [assert, hHolds]

/- A condition that fails ends the process. -/
@[simp] theorem assert_of_false
    {condition : Prop}
    [Decidable condition]
    (hFails : ¬ condition) :
    assert condition = .error .assertion := by
  simp [assert, hFails]

/- An assertion passes exactly when its condition holds. -/
theorem assert_eq_ok_iff
    {condition : Prop}
    [Decidable condition]
    {u : Unit} :
    assert condition = .ok u ↔ condition := by
  by_cases hHolds : condition <;> simp [assert, hHolds]

end Ssh1
