import Mathlib.Data.Int.ModEq
import Mathlib.Data.Nat.ModEq
import Mathlib.Tactic.LinearCombination
import Mathlib.Tactic.Ring
import Mathlib.Tactic.Zify

/-
  The extended algorithm of Euclid for modular inverses.

  The loop keeps two remainders and for each of them its
  factor modulo the start value. The factors have opposite
  signs and are bounded by the modulus, so that one addition
  makes the last one non-negative.

  Main declarations:
    * `ExtendedEuclid.loop`
    * `ExtendedEuclid.Invariant`
    * `ExtendedEuclid.loop_spec`
    * `ExtendedEuclid.normalize`
    * `ExtendedEuclid.normalize_modEq`
-/

------------------------------------------------------------
-- Loop
------------------------------------------------------------

namespace ExtendedEuclid

/-
  Euclid's algorithm on `g₀` and `g₁`, with the factors
  `v₀` and `v₁`: the last remainder and its factor.
-/
def loop (g₀ g₁ : Nat) (v₀ v₁ : Int) : Nat × Int :=
  if h : g₁ = 0 then
    (g₀, v₀)
  else
    have : g₀ % g₁ < g₁ :=
      Nat.mod_lt _ (Nat.pos_of_ne_zero h)
    loop g₁ (g₀ % g₁) v₁ (v₀ - (g₀ / g₁ : Nat) * v₁)
termination_by g₁

/- One factor is not positive and the other not negative. -/
def Opposite (v₀ v₁ : Int) : Prop :=
  0 ≤ v₀ ∧ v₁ ≤ 0 ∨ v₀ ≤ 0 ∧ 0 ≤ v₁

/- What holds whenever the loop tests its condition. -/
structure Invariant
    (a n : Nat)
    (g₀ g₁ : Nat)
    (v₀ v₁ : Int) : Prop where
  gcd : Nat.gcd g₀ g₁ = Nat.gcd n a
  first : (g₀ : Int) ≡ v₀ * a [ZMOD n]
  second : (g₁ : Int) ≡ v₁ * a [ZMOD n]
  opposite : Opposite v₀ v₁
  weighted : v₁.natAbs * g₀ + v₀.natAbs * g₁ = n
  bound : v₀.natAbs ≤ n
  positive : 0 < g₀

/- With opposite signs a difference adds the sizes up. -/
theorem Opposite.natAbs_sub
    {v₀ v₁ : Int}
    (hOpposite : Opposite v₀ v₁)
    (q : Nat) :
    (v₀ - q * v₁).natAbs =
      v₀.natAbs + q * v₁.natAbs := by
  zify
  rcases hOpposite with ⟨h₀, h₁⟩ | ⟨h₀, h₁⟩
  · have hProduct : (q : Int) * v₁ ≤ 0 :=
      mul_nonpos_of_nonneg_of_nonpos (by omega) h₁
    rw [abs_of_nonneg h₀, abs_of_nonpos h₁,
      abs_of_nonneg (by omega)]
    ring
  · have hProduct : 0 ≤ (q : Int) * v₁ :=
      mul_nonneg (by omega) h₁
    rw [abs_of_nonpos h₀, abs_of_nonneg h₁,
      abs_of_nonpos (by omega)]
    ring

theorem Opposite.step
    {v₀ v₁ : Int}
    (hOpposite : Opposite v₀ v₁)
    (q : Nat) :
    Opposite v₁ (v₀ - q * v₁) := by
  rcases hOpposite with ⟨h₀, h₁⟩ | ⟨h₀, h₁⟩
  · have hProduct : (q : Int) * v₁ ≤ 0 :=
      mul_nonpos_of_nonneg_of_nonpos (by omega) h₁
    right
    omega
  · have hProduct : 0 ≤ (q : Int) * v₁ :=
      mul_nonneg (by omega) h₁
    left
    omega

/- One turn of the loop. -/
theorem Invariant.step
    {a n g₀ g₁ : Nat}
    {v₀ v₁ : Int}
    (hInvariant : Invariant a n g₀ g₁ v₀ v₁)
    (hg₁ : g₁ ≠ 0) :
    Invariant a n g₁ (g₀ % g₁) v₁
      (v₀ - (g₀ / g₁ : Nat) * v₁) where
  gcd := by
    rw [← hInvariant.gcd, Nat.gcd_comm g₁, ← Nat.gcd_rec,
      Nat.gcd_comm]
  first := hInvariant.second
  second := by
    have hDivision : ((g₀ % g₁ : Nat) : Int) =
        g₀ - (g₀ / g₁ : Nat) * g₁ := by
      have hSplit := Nat.div_add_mod g₀ g₁
      zify at hSplit ⊢
      linear_combination hSplit
    rw [hDivision]
    have hScaled := Int.ModEq.sub hInvariant.first
      (hInvariant.second.mul_left ((g₀ / g₁ : Nat) : Int))
    refine hScaled.trans ?_
    rw [show v₀ * (a : Int) -
        ((g₀ / g₁ : Nat) : Int) * (v₁ * a) =
        (v₀ - ((g₀ / g₁ : Nat) : Int) * v₁) * a by ring]
  opposite := hInvariant.opposite.step _
  weighted := by
    rw [hInvariant.opposite.natAbs_sub]
    have hWeighted := hInvariant.weighted
    have hSplit := Nat.div_add_mod g₀ g₁
    calc (v₀.natAbs + g₀ / g₁ * v₁.natAbs) * g₁ +
          v₁.natAbs * (g₀ % g₁)
        = v₁.natAbs * (g₁ * (g₀ / g₁) + g₀ % g₁) +
            v₀.natAbs * g₁ := by ring
      _ = n := by rw [hSplit, hWeighted]
  bound := by
    have hFactor :
        v₁.natAbs * 1 ≤ v₁.natAbs * g₀ :=
      Nat.mul_le_mul_left _ hInvariant.positive
    have hWeighted := hInvariant.weighted
    omega
  positive := Nat.pos_of_ne_zero hg₁

/- The last remainder is the gcd, with a bounded factor. -/
theorem loop_spec
    {a n g₀ g₁ : Nat}
    {v₀ v₁ : Int}
    (hInvariant : Invariant a n g₀ g₁ v₀ v₁) :
    (loop g₀ g₁ v₀ v₁).1 = Nat.gcd n a ∧
      ((loop g₀ g₁ v₀ v₁).1 : Int) ≡
          (loop g₀ g₁ v₀ v₁).2 * a [ZMOD n] ∧
        (loop g₀ g₁ v₀ v₁).2.natAbs ≤ n := by
  induction g₀, g₁, v₀, v₁ using loop.induct with
  | case1 g₀ v₀ v₁ =>
      have hEnd : loop g₀ 0 v₀ v₁ = (g₀, v₀) := by
        rw [loop, dif_pos rfl]
      rw [hEnd]
      refine ⟨?_, hInvariant.first, hInvariant.bound⟩
      rw [← hInvariant.gcd, Nat.gcd_zero_right]
  | case2 g₀ g₁ v₀ v₁ hg₁ _ ih =>
      rw [loop, dif_neg hg₁]
      exact ih (hInvariant.step hg₁)

end ExtendedEuclid

------------------------------------------------------------
-- Inverses
------------------------------------------------------------

namespace ExtendedEuclid

/- Adds the modulus to a negative factor. -/
def normalize (n : Nat) (v : Int) : Int :=
  if v < 0 then v + n else v

/- The state in which the loop starts. -/
theorem Invariant.start
    {a n : Nat}
    (hn : 0 < n) :
    Invariant a n n a 0 1 where
  gcd := rfl
  first := by
    rw [Int.ModEq]
    simp
  second := by
    rw [one_mul]
  opposite := Or.inr ⟨le_refl 0, by omega⟩
  weighted := by simp
  bound := by simp
  positive := hn

theorem normalize_nonneg
    {n : Nat}
    {v : Int}
    (hBound : v.natAbs ≤ n) :
    0 ≤ normalize n v := by
  unfold normalize
  split <;> omega

theorem normalize_modEq
    (n : Nat)
    (v : Int) :
    normalize n v ≡ v [ZMOD n] := by
  unfold normalize
  split
  · rw [Int.ModEq]
    simp
  · exact Int.ModEq.refl v

/- For coprime numbers the normalized factor is an inverse. -/
theorem normalize_loop_mul
    {a n : Nat}
    (hn : 0 < n)
    (hCoprime : Nat.Coprime a n) :
    0 ≤ normalize n (loop n a 0 1).2 ∧
      normalize n (loop n a 0 1).2 * a ≡ 1 [ZMOD n] := by
  rcases loop_spec (Invariant.start (a := a) hn) with
    ⟨hGcd, hFactor, hBound⟩
  refine ⟨normalize_nonneg hBound, ?_⟩
  have hOne : (loop n a 0 1).1 = 1 := by
    rw [hGcd, Nat.gcd_comm]
    exact hCoprime
  rw [hOne] at hFactor
  exact ((normalize_modEq n _).mul_right _).trans
    (by simpa using hFactor.symm)

end ExtendedEuclid
