import Mathlib.Data.Int.ModEq

/-
  Residues that are corrected only when they are looked at.

  A candidate is a start and a difference that grows. Of a
  divisor an entry is kept whose sum with the difference is
  congruent to the candidate. As the difference grows the sum
  grows with it, and multiples of the divisor are taken off
  the entry at any later time.

  Main declarations:
    * `LazyResidue.Tracks`
    * `LazyResidue.Tracks.lower`, `LazyResidue.Tracks.advance`
    * `LazyResidue.Tracks.not_dvd`
-/

------------------------------------------------------------
-- Lazy Residues
------------------------------------------------------------

namespace LazyResidue

/- The entry stands for the candidate modulo the divisor. -/
structure Tracks
    (divisor start difference entry : Int) : Prop where
  nonneg : 0 ≤ entry + difference
  congruent :
    entry + difference ≡ start + difference [ZMOD divisor]

variable {divisor start difference entry : Int}

/- At first the entry is the residue of the start. -/
theorem tracks_start
    (start : Int)
    (hDivisor : 0 < divisor) :
    Tracks divisor start 0 (start % divisor) where
  nonneg := by
    rw [add_zero]
    exact Int.emod_nonneg _ hDivisor.ne'
  congruent := by
    rw [add_zero, add_zero]
    exact Int.mod_modEq start divisor

namespace Tracks

/- A multiple that the sum contains can be taken off. -/
theorem lower
    (hTracks : Tracks divisor start difference entry)
    (hLe : divisor ≤ entry + difference) :
    Tracks divisor start difference (entry - divisor) where
  nonneg := by omega
  congruent := by
    calc entry - divisor + difference
        = entry + difference - divisor := by omega
      _ ≡ entry + difference [ZMOD divisor] := by
          rw [Int.ModEq, Int.sub_emod_right]
      _ ≡ start + difference [ZMOD divisor] :=
          hTracks.congruent

/- The entry need not change as the difference grows. -/
theorem advance
    {difference' : Int}
    (hTracks : Tracks divisor start difference entry)
    (hLe : difference ≤ difference') :
    Tracks divisor start difference' entry where
  nonneg := by
    have hNonneg := hTracks.nonneg
    omega
  congruent :=
    (Int.ModEq.add_right_cancel' _
      hTracks.congruent).add_right _

/- A corrected sum other than zero excludes the divisor. -/
theorem not_dvd
    (hTracks : Tracks divisor start difference entry)
    (hNonzero : entry + difference ≠ 0)
    (hCorrected : entry + difference < divisor) :
    ¬ divisor ∣ start + difference := by
  intro hDvd
  have hZero : entry + difference ≡ 0 [ZMOD divisor] :=
    hTracks.congruent.trans
      (Int.modEq_zero_iff_dvd.mpr hDvd)
  have hDvdSum : divisor ∣ entry + difference :=
    Int.modEq_zero_iff_dvd.mp hZero
  exact hNonzero
    (Int.eq_zero_of_dvd_of_nonneg_of_lt
      hTracks.nonneg hCorrected hDvdSum)

end Tracks

end LazyResidue
