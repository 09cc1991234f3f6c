import Mathlib.Data.Int.ModEq
import Mathlib.Data.Nat.ModEq
import Mathlib.FieldTheory.Finite.Basic
import Mathlib.Tactic.LinearCombination
import Mathlib.Tactic.Ring

/-
  Powers modulo a product of two primes.

  Modulo a prime an exponent counts modulo the prime less
  one, also for bases that the prime divides as long as the
  exponent stays positive. Two residues are joined by the
  Chinese remainder theorem in the form of Garner.

  Main declarations:
    * `CrtPower.pow_modEq_pow`
    * `CrtPower.pow_modEq_self`
    * `CrtPower.garner`
    * `CrtPower.garner_eq_mod`
-/

------------------------------------------------------------
-- Exponents
------------------------------------------------------------

namespace CrtPower

variable {p q : Nat}

/- Whole rounds of the group of units do not matter. -/
theorem pow_add_mul_modEq
    (hp : p.Prime)
    {x a : Nat}
    (rounds : Nat)
    (ha : a ≠ 0) :
    x ^ (a + (p - 1) * rounds) ≡ x ^ a [MOD p] := by
  by_cases hDivides : p ∣ x
  · have hLeft : p ∣ x ^ (a + (p - 1) * rounds) :=
      dvd_pow hDivides (by omega)
    have hRight : p ∣ x ^ a := dvd_pow hDivides ha
    exact ((Nat.modEq_zero_iff_dvd).mpr hLeft).trans
      ((Nat.modEq_zero_iff_dvd).mpr hRight).symm
  · have hCoprime : Nat.Coprime x p :=
      ((Nat.Prime.coprime_iff_not_dvd hp).mpr hDivides).symm
    have hRound : x ^ (p - 1) ≡ 1 [MOD p] := by
      have hTotient := Nat.ModEq.pow_totient hCoprime
      rwa [Nat.totient_prime hp] at hTotient
    calc x ^ (a + (p - 1) * rounds)
        = x ^ a * (x ^ (p - 1)) ^ rounds := by
          rw [pow_add, pow_mul]
      _ ≡ x ^ a * 1 ^ rounds [MOD p] :=
          (hRound.pow rounds).mul_left (x ^ a)
      _ = x ^ a := by rw [one_pow, mul_one]

/- Positive exponents count modulo the prime less one. -/
theorem pow_modEq_pow
    (hp : p.Prime)
    {x a b : Nat}
    (ha : a ≠ 0)
    (hb : b ≠ 0)
    (hExponents : a ≡ b [MOD (p - 1)]) :
    x ^ a ≡ x ^ b [MOD p] := by
  rcases le_total a b with hLe | hLe
  · rcases (Nat.modEq_iff_dvd' hLe).mp hExponents with
      ⟨rounds, hRounds⟩
    have hSplit : b = a + (p - 1) * rounds := by omega
    rw [hSplit]
    exact (pow_add_mul_modEq hp rounds ha).symm
  · rcases (Nat.modEq_iff_dvd' hLe).mp hExponents.symm with
      ⟨rounds, hRounds⟩
    have hSplit : a = b + (p - 1) * rounds := by omega
    rw [hSplit]
    exact pow_add_mul_modEq hp rounds hb

/- An exponent that is one modulo the prime less one. -/
theorem pow_modEq_self
    (hp : p.Prime)
    {x a : Nat}
    (ha : a ≠ 0)
    (hExponent : a ≡ 1 [MOD (p - 1)]) :
    x ^ a ≡ x [MOD p] := by
  simpa using
    pow_modEq_pow (x := x) hp ha Nat.one_ne_zero hExponent

/-
  Reducing the base modulo the prime and the exponent modulo
  the prime less one keeps the power.
-/
theorem reduced_pow_modEq
    (hp : p.Prime)
    {d : Nat}
    (x : Nat)
    (hd : d % (p - 1) ≠ 0) :
    (x % p) ^ (d % (p - 1)) ≡ x ^ d [MOD p] := by
  have hdPos : d ≠ 0 := by
    rintro rfl
    simp at hd
  exact ((Nat.mod_modEq x p).pow _).trans
    (pow_modEq_pow hp hd hdPos (Nat.mod_modEq d (p - 1)))

/- An inverse modulo `p - 1` does not vanish there. -/
theorem mod_ne_zero_of_mul_modEq_one
    (hp : 2 < p)
    {e d : Nat}
    (hInverse : e * d ≡ 1 [MOD (p - 1)]) :
    d % (p - 1) ≠ 0 := by
  intro hZero
  have hProduct : e * d ≡ 0 [MOD (p - 1)] :=
    ((show d ≡ 0 [MOD (p - 1)] from hZero).mul_left e)
  have hOne : 0 ≡ 1 [MOD (p - 1)] :=
    hProduct.symm.trans hInverse
  have hDivides := (Nat.modEq_zero_iff_dvd).mp hOne.symm
  have hLe := Nat.le_of_dvd Nat.one_pos hDivides
  omega

end CrtPower

------------------------------------------------------------
-- Recombination
------------------------------------------------------------

namespace CrtPower

variable {p q : Nat}

/-
  The number below `p * q` with the residues `p₂` modulo `p`
  and `q₂` modulo `q`, where `u` inverts `p` modulo `q`.
-/
def garner (p q u p₂ q₂ : Nat) : Nat :=
  p * ((((q₂ : Int) - p₂) * u) % q).toNat + p₂

theorem garner_lt
    {u p₂ q₂ : Nat}
    (hq : 0 < q)
    (hp₂ : p₂ < p) :
    garner p q u p₂ q₂ < p * q := by
  have hLt :
      ((((q₂ : Int) - p₂) * u) % q).toNat < q := by
    have hMod := Int.emod_lt_of_pos
      (((q₂ : Int) - p₂) * u) (by omega : (0 : Int) < q)
    omega
  calc garner p q u p₂ q₂
      < p * ((((q₂ : Int) - p₂) * u) % q).toNat + p :=
        Nat.add_lt_add_left hp₂ _
    _ = p * (((((q₂ : Int) - p₂) * u) % q).toNat + 1) := by
        ring
    _ ≤ p * q := Nat.mul_le_mul_left p hLt

theorem garner_modEq_left
    (u p₂ q₂ : Nat) :
    garner p q u p₂ q₂ ≡ p₂ [MOD p] := by
  simp [garner, Nat.ModEq]

theorem garner_modEq_right
    {u p₂ q₂ : Nat}
    (hq : 0 < q)
    (hInverse : u * p ≡ 1 [MOD q]) :
    garner p q u p₂ q₂ ≡ q₂ [MOD q] := by
  rw [← Int.natCast_modEq_iff]
  have hNonneg : 0 ≤ (((q₂ : Int) - p₂) * u) % q :=
    Int.emod_nonneg _ (by omega)
  have hCast :
      ((garner p q u p₂ q₂ : Nat) : Int) =
        p * ((((q₂ : Int) - p₂) * u) % q) + p₂ := by
    simp only [garner, Nat.cast_add, Nat.cast_mul]
    rw [Int.toNat_of_nonneg hNonneg]
  have hUnit : (u : Int) * p ≡ 1 [ZMOD q] := by
    exact_mod_cast hInverse
  rw [hCast]
  calc (p : Int) * ((((q₂ : Int) - p₂) * u) % q) + p₂
      ≡ p * (((q₂ : Int) - p₂) * u) + p₂ [ZMOD q] :=
        ((Int.mod_modEq _ _).mul_left _).add_right _
    _ = ((q₂ : Int) - p₂) * (u * p) + p₂ := by ring
    _ ≡ ((q₂ : Int) - p₂) * 1 + p₂ [ZMOD q] :=
        (hUnit.mul_left _).add_right _
    _ = q₂ := by ring

/- The two residues of a number give the number. -/
theorem garner_eq_mod
    {u p₂ q₂ y : Nat}
    (hCoprime : Nat.Coprime p q)
    (hq : 0 < q)
    (hInverse : u * p ≡ 1 [MOD q])
    (hp₂ : p₂ < p)
    (hLeft : p₂ ≡ y [MOD p])
    (hRight : q₂ ≡ y [MOD q]) :
    garner p q u p₂ q₂ = y % (p * q) := by
  have hBoth : garner p q u p₂ q₂ ≡ y [MOD (p * q)] :=
    (Nat.modEq_and_modEq_iff_modEq_mul hCoprime).mp
      ⟨(garner_modEq_left u p₂ q₂).trans hLeft,
        (garner_modEq_right hq hInverse).trans hRight⟩
  rw [← hBoth, Nat.mod_eq_of_lt (garner_lt hq hp₂)]

/- Two congruences bound a number below the product. -/
theorem pow_modEq_self_of_primes
    (hp : p.Prime)
    (hq : q.Prime)
    (hDistinct : p ≠ q)
    {x a : Nat}
    (ha : a ≠ 0)
    (hLeft : a ≡ 1 [MOD (p - 1)])
    (hRight : a ≡ 1 [MOD (q - 1)]) :
    x ^ a ≡ x [MOD (p * q)] :=
  (Nat.modEq_and_modEq_iff_modEq_mul
    ((Nat.coprime_primes hp hq).mpr hDistinct)).mp
      ⟨pow_modEq_self hp ha hLeft,
        pow_modEq_self hq ha hRight⟩

end CrtPower
