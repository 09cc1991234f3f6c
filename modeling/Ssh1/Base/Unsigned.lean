import Mathlib.Algebra.Order.Ring.Nat

/-
  The C types `unsigned int` and `int` of 32 bits.

  Main declarations:
    * `u32`, `u32Sub`
    * `wrapInt`
-/

------------------------------------------------------------
-- Words
------------------------------------------------------------

namespace Ssh1

/- The value of a sum in an `unsigned int`. -/
def u32 (n : Nat) : Nat := n % 2 ^ 32

/- The difference of two `unsigned int`. -/
def u32Sub (m n : Nat) : Nat := u32 (m + 2 ^ 32 - n)

/- A number that fits is kept. -/
theorem u32_of_lt
    {n : Nat}
    (hWord : n < 2 ^ 32) :
    u32 n = n :=
  Nat.mod_eq_of_lt hWord

/- The result fits. -/
theorem u32_lt
    (n : Nat) :
    u32 n < 2 ^ 32 :=
  Nat.mod_lt n (by decide)

/- A difference that is not negative is that of the numbers. -/
theorem u32Sub_of_le
    {m n : Nat}
    (hLe : n ≤ m)
    (hWord : m < 2 ^ 32) :
    u32Sub m n = m - n := by
  rw [u32Sub, u32, Nat.add_comm, Nat.add_sub_assoc hLe,
    Nat.add_mod_left, Nat.mod_eq_of_lt (by omega)]

/- The conversion to `int`. -/
def wrapInt (value : Int) : Int :=
  Int.bmod value (2 ^ 32)

/- An `int` is kept. -/
theorem wrapInt_of_range
    {value : Int}
    (hLow : -2 ^ 31 ≤ value)
    (hHigh : value < 2 ^ 31) :
    wrapInt value = value := by
  apply Int.bmod_eq_of_le
  · exact hLow
  · exact hHigh

end Ssh1
