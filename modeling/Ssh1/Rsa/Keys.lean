import Ssh1.Base.Halt
import Ssh1.Lib.CrtPower
import Ssh1.Lib.ExtendedEuclid

/-
  RSA keys and the two RSA operations.

  The arithmetic of gmp is that of the natural numbers and,
  where a difference can be negative, of the integers.

  Main declarations:
    * `rsaPublic`, `rsaPrivate`
    * `mpzModInverse`
    * `deriveRsaKeys`
    * `RSAPrivateKey.Consistent`
    * `deriveRsaKeys_correct`
-/

------------------------------------------------------------
-- Keys and Operations
------------------------------------------------------------

namespace Ssh1

/- `RSAPublicKey` of rsa.h. -/
structure RSAPublicKey where
  bits : Nat
  e : Nat
  n : Nat
  deriving DecidableEq

/- `RSAPrivateKey` of rsa.h. -/
structure RSAPrivateKey where
  bits : Nat
  n : Nat
  e : Nat
  d : Nat
  u : Nat
  p : Nat
  q : Nat
  deriving DecidableEq

/- The public data of a private key. -/
def RSAPrivateKey.publicKey
    (prv : RSAPrivateKey) : RSAPublicKey where
  bits := prv.bits
  e := prv.e
  n := prv.n

/- The power of `mpz_powm`. -/
def mpzPowm (base exponent modulus : Nat) : Nat :=
  base ^ exponent % modulus

/- The public-key operation. -/
def rsaPublic
    (input : Nat)
    (pub : RSAPublicKey) : Nat :=
  mpzPowm input pub.e pub.n

/-
  The private-key operation, with the Chinese remainder
  theorem. The difference of the two residues can be
  negative, its residue modulo `q` is not.
-/
def rsaPrivate
    (input : Nat)
    (prv : RSAPrivateKey) : Nat :=
  let dp := prv.d % (prv.p - 1)
  let dq := prv.d % (prv.q - 1)
  let p2 := mpzPowm (input % prv.p) dp prv.p
  let q2 := mpzPowm (input % prv.q) dq prv.q
  let k : Int := ((q2 : Int) - p2) * prv.u
  let k := (k % prv.q).toNat
  prv.p * k + p2

/- The two residues are joined as `CrtPower.garner` does. -/
theorem rsaPrivate_eq_garner
    (input : Nat)
    (prv : RSAPrivateKey) :
    rsaPrivate input prv =
      CrtPower.garner prv.p prv.q prv.u
        (mpzPowm (input % prv.p)
          (prv.d % (prv.p - 1)) prv.p)
        (mpzPowm (input % prv.q)
          (prv.d % (prv.q - 1)) prv.q) := rfl

/- A result of the private operation is below the modulus. -/
theorem rsaPrivate_lt
    (input : Nat)
    {prv : RSAPrivateKey}
    (hp : 0 < prv.p)
    (hq : 0 < prv.q) :
    rsaPrivate input prv < prv.p * prv.q := by
  rw [rsaPrivate_eq_garner]
  exact CrtPower.garner_lt hq (Nat.mod_lt _ hp)

theorem rsaPublic_lt
    (input : Nat)
    {pub : RSAPublicKey}
    (hn : 0 < pub.n) :
    rsaPublic input pub < pub.n :=
  Nat.mod_lt _ hn

/- What makes the parts of a private key fit together. -/
structure RSAPrivateKey.Consistent
    (prv : RSAPrivateKey) : Prop where
  p_prime : prv.p.Prime
  q_prime : prv.q.Prime
  two_lt_p : 2 < prv.p
  p_lt_q : prv.p < prv.q
  n_eq : prv.n = prv.p * prv.q
  d_p : prv.e * prv.d ≡ 1 [MOD (prv.p - 1)]
  d_q : prv.e * prv.d ≡ 1 [MOD (prv.q - 1)]
  u_p : prv.u * prv.p ≡ 1 [MOD prv.q]

namespace RSAPrivateKey.Consistent

variable {prv : RSAPrivateKey}

theorem coprime
    (hKey : prv.Consistent) :
    Nat.Coprime prv.p prv.q :=
  (Nat.coprime_primes hKey.p_prime hKey.q_prime).mpr
    hKey.p_lt_q.ne

theorem mul_ne_zero
    (hKey : prv.Consistent) :
    prv.e * prv.d ≠ 0 := by
  intro hZero
  have hUnit := CrtPower.mod_ne_zero_of_mul_modEq_one
    hKey.two_lt_p hKey.d_p
  have hOther := CrtPower.mod_ne_zero_of_mul_modEq_one
    hKey.two_lt_p (Nat.mul_comm prv.e prv.d ▸ hKey.d_p)
  rcases Nat.mul_eq_zero.mp hZero with he | hd
  · simp [he] at hOther
  · simp [hd] at hUnit

/- The remainders give the plain power. -/
theorem rsaPrivate_eq_pow
    (hKey : prv.Consistent)
    (x : Nat) :
    rsaPrivate x prv = x ^ prv.d % prv.n := by
  have hTwoLtQ : 2 < prv.q :=
    lt_trans hKey.two_lt_p hKey.p_lt_q
  have hdp := CrtPower.mod_ne_zero_of_mul_modEq_one
    hKey.two_lt_p hKey.d_p
  have hdq := CrtPower.mod_ne_zero_of_mul_modEq_one
    hTwoLtQ hKey.d_q
  rw [rsaPrivate_eq_garner, hKey.n_eq]
  apply CrtPower.garner_eq_mod hKey.coprime
    (by omega) hKey.u_p
  · exact Nat.mod_lt _ hKey.p_prime.pos
  · exact (Nat.mod_modEq _ _).trans
      (CrtPower.reduced_pow_modEq hKey.p_prime x hdp)
  · exact (Nat.mod_modEq _ _).trans
      (CrtPower.reduced_pow_modEq hKey.q_prime x hdq)

theorem pow_modEq_self
    (hKey : prv.Consistent)
    (x : Nat) :
    x ^ (prv.e * prv.d) ≡ x [MOD prv.n] := by
  rw [hKey.n_eq]
  exact CrtPower.pow_modEq_self_of_primes hKey.p_prime
    hKey.q_prime hKey.p_lt_q.ne hKey.mul_ne_zero
    hKey.d_p hKey.d_q

/- Decryption undoes encryption. -/
theorem rsaPrivate_rsaPublic
    (hKey : prv.Consistent)
    {x : Nat}
    (hx : x < prv.n) :
    rsaPrivate (rsaPublic x prv.publicKey) prv = x := by
  rw [hKey.rsaPrivate_eq_pow]
  have hPower :
      (x ^ prv.e % prv.n) ^ prv.d ≡ x [MOD prv.n] :=
    calc (x ^ prv.e % prv.n) ^ prv.d
        ≡ (x ^ prv.e) ^ prv.d [MOD prv.n] :=
          (Nat.mod_modEq _ _).pow _
      _ = x ^ (prv.e * prv.d) := by rw [pow_mul]
      _ ≡ x [MOD prv.n] := hKey.pow_modEq_self x
  calc (x ^ prv.e % prv.n) ^ prv.d % prv.n
      = x % prv.n := hPower
    _ = x := Nat.mod_eq_of_lt hx

/- Encryption undoes decryption. -/
theorem rsaPublic_rsaPrivate
    (hKey : prv.Consistent)
    {x : Nat}
    (hx : x < prv.n) :
    rsaPublic (rsaPrivate x prv) prv.publicKey = x := by
  rw [hKey.rsaPrivate_eq_pow]
  have hPower :
      (x ^ prv.d % prv.n) ^ prv.e ≡ x [MOD prv.n] :=
    calc (x ^ prv.d % prv.n) ^ prv.e
        ≡ (x ^ prv.d) ^ prv.e [MOD prv.n] :=
          (Nat.mod_modEq _ _).pow _
      _ = x ^ (prv.e * prv.d) := by
          rw [← pow_mul, Nat.mul_comm]
      _ ≡ x [MOD prv.n] := hKey.pow_modEq_self x
  calc (x ^ prv.d % prv.n) ^ prv.e % prv.n
      = x % prv.n := hPower
    _ = x := Nat.mod_eq_of_lt hx

end RSAPrivateKey.Consistent

end Ssh1

------------------------------------------------------------
-- Key Derivation
------------------------------------------------------------

namespace Ssh1

/- The multiplicative inverse of `a` modulo `n`. -/
def mpzModInverse (a n : Nat) : Nat :=
  let v0 := (ExtendedEuclid.loop n a 0 1).2
  (ExtendedEuclid.normalize n v0).toNat

/-
  The `do` loop that looks for the exponent, for `fuel`
  turns. A search that needs more turns than that is taken
  for one that does not end.
-/
def findExponent
    (phi : Nat) : (fuel e : Nat) → Outcome Nat
| 0, _ => .error .diverges
| fuel + 1, e =>
    let e := e + 2
    if Nat.gcd e phi = 1 then
      .ok e
    else
      findExponent phi fuel e

/- The components that `derive_rsa_keys` sets. -/
structure DerivedKeys where
  n : Nat
  e : Nat
  d : Nat
  u : Nat
  deriving DecidableEq

/-
  The components for an exponent. `G` counts the spare key
  sets, and `d` inverts `e` modulo the quotient by it, to be
  as small as possible.
-/
def derivedKeys (p q e : Nat) : DerivedKeys :=
  let phi := (p - 1) * (q - 1)
  let G := Nat.gcd (p - 1) (q - 1)
  let F := phi / G
  { n := p * q
    e := e
    d := mpzModInverse e F
    u := mpzModInverse p q }

/- Derives the components of a key from two primes. -/
def deriveRsaKeys
    (fuel p q ebits : Nat) : Outcome DerivedKeys := do
  assert (p < q)
  let phi := (p - 1) * (q - 1)
  let e ← findExponent phi fuel (1 * 2 ^ ebits - 1)
  return derivedKeys p q e

/- The private key of the components and the primes. -/
def DerivedKeys.privateKey
    (keys : DerivedKeys)
    (bits p q : Nat) : RSAPrivateKey where
  bits := bits
  n := keys.n
  e := keys.e
  d := keys.d
  u := keys.u
  p := p
  q := q

theorem mpzModInverse_mul_modEq
    {a n : Nat}
    (hn : 0 < n)
    (hCoprime : Nat.Coprime a n) :
    mpzModInverse a n * a ≡ 1 [MOD n] := by
  rcases ExtendedEuclid.normalize_loop_mul hn hCoprime with
    ⟨hNonneg, hInverse⟩
  rw [← Int.natCast_modEq_iff, mpzModInverse, Nat.cast_mul,
    Int.toNat_of_nonneg hNonneg]
  exact_mod_cast hInverse

/- An exponent that was found is coprime to `phi`. -/
theorem coprime_of_findExponent
    {phi fuel start e : Nat}
    (hFound : findExponent phi fuel start = .ok e) :
    Nat.Coprime e phi := by
  induction fuel generalizing start with
  | zero => simp [findExponent] at hFound
  | succ fuel ih =>
      rw [findExponent] at hFound
      split at hFound
      · rename_i hGcd
        cases hFound
        exact hGcd
      · exact ih hFound

/- Candidates at or after `start + 2` with its parity. -/
theorem findExponent_of_coprime
    {phi start : Nat}
    (turns : Nat)
    (hCoprime : Nat.Coprime (start + 2 * (turns + 1)) phi)
    (fuel : Nat)
    (hFuel : turns < fuel) :
    ∃ e, findExponent phi fuel start = .ok e := by
  induction fuel generalizing turns start with
  | zero => omega
  | succ fuel ih =>
      rw [findExponent]
      split
      · exact ⟨_, rfl⟩
      · rename_i hGcd
        cases turns with
        | zero => exact (hGcd hCoprime).elim
        | succ turns =>
            apply ih turns
            · rwa [show start + 2 + 2 * (turns + 1) =
                start + 2 * (turns + 1 + 1) by omega]
            · omega

/- More turns find the same exponent. -/
theorem findExponent_mono
    {phi fuel fuel' start e : Nat}
    (hFound : findExponent phi fuel start = .ok e)
    (hFuel : fuel ≤ fuel') :
    findExponent phi fuel' start = .ok e := by
  induction fuel generalizing start fuel' with
  | zero => simp [findExponent] at hFound
  | succ fuel ih =>
      cases fuel' with
      | zero => omega
      | succ fuel' =>
          rw [findExponent] at hFound ⊢
          split at hFound
          · rename_i hGcd
            simpa only [if_pos hGcd] using hFound
          · rename_i hGcd
            rw [if_neg hGcd]
            exact ih hFound (by omega)

/- From an odd start the search meets `1` modulo `phi`. -/
theorem findExponent_terminates
    {phi start : Nat}
    (hPhi : 0 < phi)
    (hEven : 2 ∣ phi)
    (hOdd : start % 2 = 1)
    (fuel : Nat)
    (hFuel : phi * (start + 1) < fuel) :
    ∃ e, findExponent phi fuel start = .ok e := by
  have hLe : start + 1 ≤ phi * (start + 1) :=
    Nat.le_mul_of_pos_left _ hPhi
  have hProduct : phi * (start + 1) % 2 = 0 :=
    Nat.mod_eq_zero_of_dvd (hEven.mul_right _)
  have hCandidate :
      start + 2 *
          ((phi * (start + 1) - (start + 1)) / 2 + 1) =
        1 + phi * (start + 1) := by
    omega
  apply findExponent_of_coprime
    ((phi * (start + 1) - (start + 1)) / 2)
  · rw [hCandidate]
    simp
  · omega

/- From an even start every candidate stays even. -/
theorem findExponent_diverges
    {phi start : Nat}
    (hEven : 2 ∣ phi)
    (hStart : 2 ∣ start)
    (fuel : Nat) :
    findExponent phi fuel start = .error .diverges := by
  induction fuel generalizing start with
  | zero => rfl
  | succ fuel ih =>
      have hNext : 2 ∣ start + 2 := by omega
      have hGcd : Nat.gcd (start + 2) phi ≠ 1 := by
        intro hOne
        have hTwo := Nat.dvd_gcd hNext hEven
        rw [hOne] at hTwo
        omega
      rw [findExponent, if_neg hGcd]
      exact ih hNext

theorem deriveRsaKeys_ok
    {fuel p q ebits e : Nat}
    (hLess : p < q)
    (hFound :
      findExponent ((p - 1) * (q - 1)) fuel
        (1 * 2 ^ ebits - 1) = .ok e) :
    deriveRsaKeys fuel p q ebits =
      .ok (derivedKeys p q e) := by
  simp only [deriveRsaKeys, assert_of_true hLess, hFound]
  rfl

namespace derivedKeys

variable {p q e : Nat}

/- The quotient by `G` is the least common multiple. -/
theorem d_inverse
    (hp : p.Prime)
    (hq : q.Prime)
    (hCoprime : Nat.Coprime e ((p - 1) * (q - 1))) :
    e * (derivedKeys p q e).d ≡ 1
      [MOD (Nat.lcm (p - 1) (q - 1))] := by
  have hpTwo := hp.two_le
  have hqTwo := hq.two_le
  have hLcmPos : 0 < Nat.lcm (p - 1) (q - 1) :=
    Nat.lcm_pos (by omega) (by omega)
  have hLcmCoprime :
      Nat.Coprime e (Nat.lcm (p - 1) (q - 1)) :=
    Nat.Coprime.coprime_dvd_right
      (Nat.lcm_dvd_mul _ _) hCoprime
  rw [Nat.mul_comm]
  exact mpzModInverse_mul_modEq hLcmPos hLcmCoprime

theorem u_inverse
    (hp : p.Prime)
    (hq : q.Prime)
    (hLess : p < q) :
    (derivedKeys p q e).u * p ≡ 1 [MOD q] :=
  mpzModInverse_mul_modEq hq.pos
    ((Nat.coprime_primes hp hq).mpr hLess.ne)

/- The derived components fit together. -/
theorem consistent
    (hp : p.Prime)
    (hq : q.Prime)
    (hpOdd : p ≠ 2)
    (hLess : p < q)
    (hCoprime : Nat.Coprime e ((p - 1) * (q - 1)))
    (bits : Nat) :
    ((derivedKeys p q e).privateKey
      bits p q).Consistent where
  p_prime := hp
  q_prime := hq
  two_lt_p := lt_of_le_of_ne hp.two_le hpOdd.symm
  p_lt_q := hLess
  n_eq := rfl
  d_p := (d_inverse hp hq hCoprime).of_dvd
    (Nat.dvd_lcm_left _ _)
  d_q := (d_inverse hp hq hCoprime).of_dvd
    (Nat.dvd_lcm_right _ _)
  u_p := u_inverse (e := e) hp hq hLess

end derivedKeys

end Ssh1

------------------------------------------------------------
-- Correctness
------------------------------------------------------------

namespace Ssh1

/- What `derive_rsa_keys` promises of its components. -/
structure DerivedKeys.Correct
    (keys : DerivedKeys)
    (p q : Nat) : Prop where
  n_eq : keys.n = p * q
  e_coprime : Nat.Coprime keys.e ((p - 1) * (q - 1))
  d_inverse :
    keys.e * keys.d ≡ 1
      [MOD ((p - 1) * (q - 1) / Nat.gcd (p - 1) (q - 1))]
  u_inverse : keys.u * p ≡ 1 [MOD q]
  private_eq_pow : ∀ bits x,
    x < keys.n →
      rsaPrivate x (keys.privateKey bits p q) =
        x ^ keys.d % keys.n
  private_public : ∀ bits x,
    x < keys.n →
      rsaPrivate
        (rsaPublic x
          (keys.privateKey bits p q).publicKey)
        (keys.privateKey bits p q) = x
  public_private : ∀ bits x,
    x < keys.n →
      rsaPublic
        (rsaPrivate x (keys.privateKey bits p q))
        (keys.privateKey bits p q).publicKey = x

/-
  For primes `2 < p < q` and a start of at least one bit the
  search for the exponent ends, and the key is correct.
-/
theorem deriveRsaKeys_correct
    {p q ebits : Nat}
    (hp : p.Prime)
    (hq : q.Prime)
    (hpOdd : p ≠ 2)
    (hLess : p < q)
    (hBits : 1 ≤ ebits) :
    ∃ enough keys,
      keys.Correct p q ∧
        ∀ fuel, enough ≤ fuel →
          deriveRsaKeys fuel p q ebits = .ok keys := by
  have hpTwo := hp.two_le
  let phi := (p - 1) * (q - 1)
  let start := 1 * 2 ^ ebits - 1
  have hPhi : 0 < phi :=
    Nat.mul_pos (by omega) (by omega)
  have hEven : 2 ∣ phi := by
    have hOdd := hp.eq_two_or_odd.resolve_left hpOdd
    have hpEven : 2 ∣ p - 1 := by omega
    exact hpEven.mul_right _
  have hOdd : start % 2 = 1 := by
    have hPow : 2 ^ ebits = 2 * 2 ^ (ebits - 1) := by
      rw [← pow_succ', Nat.sub_add_cancel hBits]
    have hPos : 0 < 2 ^ (ebits - 1) := Nat.two_pow_pos _
    dsimp [start]
    omega
  rcases findExponent_terminates hPhi hEven hOdd
      (phi * (start + 1) + 1) (by omega) with
    ⟨e, hFound⟩
  have hCoprime := coprime_of_findExponent hFound
  have hKey := fun bits =>
    derivedKeys.consistent hp hq hpOdd hLess hCoprime bits
  refine ⟨phi * (start + 1) + 1, derivedKeys p q e,
    ?_, ?_⟩
  · exact {
      n_eq := rfl
      e_coprime := hCoprime
      d_inverse := derivedKeys.d_inverse hp hq hCoprime
      u_inverse := derivedKeys.u_inverse hp hq hLess
      private_eq_pow := fun bits x _ =>
        (hKey bits).rsaPrivate_eq_pow x
      private_public := fun bits x hx =>
        (hKey bits).rsaPrivate_rsaPublic hx
      public_private := fun bits x hx =>
        (hKey bits).rsaPublic_rsaPrivate hx }
  · intro fuel hFuel
    exact deriveRsaKeys_ok hLess
      (findExponent_mono hFound hFuel)

theorem deriveRsaKeys_correct_three_five :
    ∃ enough keys,
      keys.Correct 3 5 ∧
        ∀ fuel, enough ≤ fuel →
          deriveRsaKeys fuel 3 5 5 = .ok keys :=
  deriveRsaKeys_correct (by decide) (by decide)
    (by decide) (by decide) (by decide)

/-
  With no bits at all the search starts at zero, and no even
  number is coprime to `(p - 1) * (q - 1)`.
-/
theorem deriveRsaKeys_zero_bits :
    ¬ ∃ fuel keys,
      deriveRsaKeys fuel 3 5 0 = .ok keys := by
  rintro ⟨fuel, keys, hKeys⟩
  have hSearch :
      findExponent ((3 - 1) * (5 - 1)) fuel
        (1 * 2 ^ 0 - 1) = .error .diverges :=
    findExponent_diverges (by decide) (by decide) fuel
  simp only [deriveRsaKeys,
    assert_of_true (show 3 < 5 by decide), hSearch,
    FallibleRun.ok_bind, FallibleRun.error_bind] at hKeys
  cases hKeys

end Ssh1
