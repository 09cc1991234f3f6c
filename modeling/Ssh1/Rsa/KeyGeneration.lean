import Ssh1.Rsa.PrimeSearch

/-
  The generation of a key pair.

  Two primes share the bits of the modulus. The second one is
  drawn again until it fits the first, and both until the key
  passes its own test.

  Main declarations:
    * `rsaGenerateKey`
    * `ChosenPrimes`
    * `GeneratedKey`
    * `rsaGenerateKey_sizes`
-/

------------------------------------------------------------
-- Generation
------------------------------------------------------------

namespace Ssh1

variable {G : Type}
variable (mpzProbabPrimeP : Nat → Nat → G → Bool × G)

/-
  From the label `retry` on: the prime `q`, and both primes
  in order. What is tried again keeps the smaller prime.
-/
def chooseQ
    (qbits : Nat) :
    (fuel p : Nat) →
    RandomSources G →
    Outcome (Nat × Nat × RandomSources G)
| 0, _, _ => .error .diverges
| fuel + 1, p, sources => do
    let (q, sources) ←
      rsaRandomPrime mpzProbabPrimeP qbits fuel sources
    if p = q then
      chooseQ qbits fuel p sources
    else
      let (p, q) := if p > q then (q, p) else (p, q)
      -- not too close together
      if q - p < q / 2 ^ 10 then
        chooseQ qbits fuel p sources
      -- in case one or both were false positives
      else if Nat.gcd p q ≠ 1 then
        chooseQ qbits fuel p sources
      else
        return (p, q, sources)

/- Generates the two keys, from the label `retry0` on. -/
def rsaGenerateKey
    (bits : Nat) :
    (fuel : Nat) →
    RandomSources G →
    Outcome
      (RSAPrivateKey × RSAPublicKey × RandomSources G)
| 0, _ => .error .diverges
| fuel + 1, sources => do
    let pbits := bits / 2
    let qbits := bits - pbits
    let (p, sources) ←
      rsaRandomPrime mpzProbabPrimeP pbits fuel sources
    let (p, q, sources) ←
      chooseQ mpzProbabPrimeP qbits fuel p sources
    let keys ← deriveRsaKeys fuel p q 5
    let prv := keys.privateKey bits p q
    let pub := prv.publicKey
    -- test that the key really works
    let random := rsaRandomInteger sources.random bits
    let sources := { sources with random := random.2 }
    let test := random.1 % pub.n
    if rsaPublic (rsaPrivate test prv) pub ≠ test then
      rsaGenerateKey bits fuel sources
    else if rsaPrivate (rsaPublic test pub) prv ≠ test then
      rsaGenerateKey bits fuel sources
    else
      return (prv, pub, sources)

end Ssh1

------------------------------------------------------------
-- The Two Primes
------------------------------------------------------------

namespace Ssh1

variable {G : Type}
variable {mpzProbabPrimeP : Nat → Nat → G → Bool × G}

/- A number of that many bits with the two top ones set. -/
def TopHeavy (bits value : Nat) : Prop :=
  3 * 2 ^ (bits - 2) ≤ value ∧ value < 2 ^ bits

/- The search ends at a prime of the right size. -/
theorem topHeavy_rsaRandomPrime
    {bits fuel ret : Nat}
    {sources sources' : RandomSources G}
    (hBits : 2 ≤ bits)
    (hFound :
      rsaRandomPrime mpzProbabPrimeP bits fuel sources =
        .ok (ret, sources')) :
    TopHeavy bits ret := by
  rcases rsaRandomPrime_bounds hBits hFound with
    ⟨-, hLow, hHigh, -⟩
  exact ⟨hLow, hHigh⟩

/- What is shorter is smaller. -/
theorem TopHeavy.lt_of_lt
    {pbits qbits p q : Nat}
    (hp : TopHeavy pbits p)
    (hq : TopHeavy qbits q)
    (hLess : pbits < qbits) :
    p < q := by
  have hPow : 2 ^ pbits ≤ 2 * 2 ^ (qbits - 2) := by
    rw [← pow_succ']
    apply Nat.pow_le_pow_right (by decide)
    omega
  have hLow := hq.1
  have hHigh := hp.2
  omega

/- The product of the lower bounds has the top bit. -/
theorem TopHeavy.mul
    {pbits qbits p q : Nat}
    (hpBits : 2 ≤ pbits)
    (hqBits : 2 ≤ qbits)
    (hp : TopHeavy pbits p)
    (hq : TopHeavy qbits q) :
    mpzSizeinbase2 (p * q) = pbits + qbits := by
  apply mpzSizeinbase2_eq (by omega)
  · calc 2 ^ (pbits + qbits - 1)
        = 8 * (2 ^ (pbits - 2) * 2 ^ (qbits - 2)) := by
          rw [show (8 : Nat) = 2 ^ 3 from rfl, ← pow_add,
            ← pow_add]
          congr 1
          omega
      _ ≤ 3 * 2 ^ (pbits - 2) * (3 * 2 ^ (qbits - 2)) := by
          rw [Nat.mul_mul_mul_comm]
          apply Nat.mul_le_mul_right
          decide
      _ ≤ p * q := Nat.mul_le_mul hp.1 hq.1
  · rw [pow_add]
    exact Nat.mul_lt_mul'' hp.2 hq.2

/- Two primes in order that fit each other. -/
structure ChosenPrimes
    (pbits qbits p q : Nat) : Prop where
  p_heavy : TopHeavy pbits p
  q_heavy : TopHeavy qbits q
  p_lt_q : p < q
  coprime : Nat.gcd p q = 1

/-
  Where the bits differ the primes are in order as drawn,
  else it does not matter which of them is which.
-/
theorem topHeavy_ordered
    {pbits qbits p q : Nat}
    (hBits : pbits ≤ qbits)
    (hp : TopHeavy pbits p)
    (hq : TopHeavy qbits q)
    (hDiffer : p ≠ q) :
    let ordered := if p > q then (q, p) else (p, q)
    TopHeavy pbits ordered.1 ∧
      TopHeavy qbits ordered.2 ∧
      ordered.1 < ordered.2 := by
  simp only
  split
  · rename_i hSwap
    have hSame : pbits = qbits := by
      by_contra hOther
      have hLess := hp.lt_of_lt hq (by omega)
      omega
    subst hSame
    exact ⟨hq, hp, hSwap⟩
  · exact ⟨hp, hq, by omega⟩

/- The second prime is another one. -/
theorem chosenPrimes_of_chooseQ
    {pbits qbits fuel p p' q : Nat}
    {sources sources' : RandomSources G}
    (hqBits : 2 ≤ qbits)
    (hBits : pbits ≤ qbits)
    (hp : TopHeavy pbits p)
    (hChosen :
      chooseQ mpzProbabPrimeP qbits fuel p sources =
        .ok (p', q, sources')) :
    ChosenPrimes pbits qbits p' q := by
  induction fuel generalizing p sources with
  | zero => cases hChosen
  | succ fuel ih =>
      rw [chooseQ] at hChosen
      rcases FallibleRun.bind_eq_ok_iff.mp hChosen with
        ⟨⟨drawn, left⟩, hDrawn, hRest⟩
      have hq := topHeavy_rsaRandomPrime hqBits hDrawn
      simp only at hRest
      split at hRest
      · exact ih hp hRest
      · rename_i hDiffer
        have hOrdered :=
          topHeavy_ordered hBits hp hq hDiffer
        generalize
          (if p > drawn then (drawn, p) else (p, drawn)) =
            ordered at hRest hOrdered
        rcases ordered with ⟨small, large⟩
        rcases hOrdered with ⟨hSmall, hLarge, hOrder⟩
        simp only at hRest
        split at hRest
        · exact ih hSmall hRest
        · split at hRest
          · exact ih hSmall hRest
          · rename_i hGcd
            cases hRest
            exact ⟨hSmall, hLarge, hOrder, not_not.mp hGcd⟩

end Ssh1

------------------------------------------------------------
-- The Key Pair
------------------------------------------------------------

namespace Ssh1

variable {G : Type}
variable {mpzProbabPrimeP : Nat → Nat → G → Bool × G}

/- What `rsa_generate_key` promises of the sizes. -/
structure GeneratedKey
    (bits : Nat)
    (prv : RSAPrivateKey)
    (pub : RSAPublicKey) : Prop where
  bits_eq : prv.bits = bits
  public_eq : pub = prv.publicKey
  n_eq : prv.n = prv.p * prv.q
  n_bits : mpzSizeinbase2 prv.n = bits
  p_lt_q : prv.p < prv.q
  coprime : Nat.gcd prv.p prv.q = 1

/- The derived modulus is the product of the primes. -/
theorem n_of_deriveRsaKeys
    {fuel p q ebits : Nat}
    {keys : DerivedKeys}
    (hKeys : deriveRsaKeys fuel p q ebits = .ok keys) :
    keys.n = p * q := by
  rcases FallibleRun.bind_eq_ok_iff.mp hKeys with
    ⟨_, _, hRest⟩
  rcases FallibleRun.bind_eq_ok_iff.mp hRest with
    ⟨e, _, hDerived⟩
  cases hDerived
  rfl

/- The key is derived from two primes of half the size. -/
theorem generatedKey_of_rsaGenerateKey
    {bits fuel : Nat}
    {sources sources' : RandomSources G}
    {prv : RSAPrivateKey}
    {pub : RSAPublicKey}
    (hBits : 4 ≤ bits)
    (hGenerated :
      rsaGenerateKey mpzProbabPrimeP bits fuel sources =
        .ok (prv, pub, sources')) :
    GeneratedKey bits prv pub := by
  induction fuel generalizing sources with
  | zero => cases hGenerated
  | succ fuel ih =>
      rw [rsaGenerateKey] at hGenerated
      rcases FallibleRun.bind_eq_ok_iff.mp hGenerated with
        ⟨⟨first, left⟩, hFirst, hRest⟩
      rcases FallibleRun.bind_eq_ok_iff.mp hRest with
        ⟨⟨p, q, left'⟩, hChosen, hRest⟩
      rcases FallibleRun.bind_eq_ok_iff.mp hRest with
        ⟨keys, hKeys, hRest⟩
      simp only at hRest
      split at hRest
      · exact ih hRest
      · split at hRest
        · exact ih hRest
        · have hPrimes := chosenPrimes_of_chooseQ
            (by omega) (by omega)
            (topHeavy_rsaRandomPrime (by omega) hFirst)
            hChosen
          cases hRest
          exact {
            bits_eq := rfl
            public_eq := rfl
            n_eq := n_of_deriveRsaKeys hKeys
            n_bits := by
              show mpzSizeinbase2 keys.n = bits
              rw [n_of_deriveRsaKeys hKeys,
                hPrimes.p_heavy.mul (by omega) (by omega)
                  hPrimes.q_heavy]
              omega
            p_lt_q := hPrimes.p_lt_q
            coprime := hPrimes.coprime }

/-
  At every point of the search all moduli track the candidate
  and their sums with the difference are not negative. A prime
  that is returned has the requested form, and so has a key.
-/
theorem rsaGenerateKey_sizes
    (bits : Nat)
    (hBits : 16 ≤ bits) :
    (∀ (state : RandomState) (s : Sieve),
      SearchReaches (sievePrimes bits)
          (.sieving (Sieve.init (sievePrimes bits)
            (primeStart state bits).1))
          (.sieving s) →
        s.moduli.length = (sievePrimes bits).length ∧
          ∀ (i prime : Nat) (modulus : Int),
            (sievePrimes bits)[i]? = some prime →
            s.moduli[i]? = some modulus →
              0 ≤ modulus + s.difference ∧
                modulus + s.difference ≡
                  s.start + s.difference
                    [ZMOD prime]) ∧
    (∀ fuel ret (sources sources' : RandomSources G),
      rsaRandomPrime mpzProbabPrimeP bits fuel sources =
          .ok (ret, sources') →
        GeneratedPrime bits ret) ∧
    ∀ fuel prv pub (sources sources' : RandomSources G),
      32 ≤ bits →
      rsaGenerateKey mpzProbabPrimeP bits fuel sources =
          .ok (prv, pub, sources') →
        GeneratedKey bits prv pub := by
  refine ⟨?_, ?_, ?_⟩
  · intro state s hReaches
    have hValid := valid_of_reaches
      (smallEnough_sievePrimes bits) hReaches
    refine ⟨hValid.length_eq, ?_⟩
    intro i prime modulus hPrime hModulus
    have hTracks :=
      hValid.tracks i prime modulus ⟨hPrime, hModulus⟩
    refine ⟨hTracks.nonneg, ?_⟩
    rw [hValid.start_eq]
    exact hTracks.congruent
  · intro fuel ret sources sources' hFound
    exact rsaRandomPrime_generated hBits hFound
  · intro fuel prv pub sources sources' hKey hGenerated
    exact generatedKey_of_rsaGenerateKey (by omega)
      hGenerated

/- A key that works is returned. -/
theorem rsaGenerateKey_returns
    {bits pbits qbits fuel p p' q drawn test : Nat}
    {sources first second : RandomSources G}
    {keys : DerivedKeys}
    {prv : RSAPrivateKey}
    {random : RandomState}
    (hpBits : bits / 2 = pbits)
    (hqBits : bits - pbits = qbits)
    (hFirst :
      rsaRandomPrime mpzProbabPrimeP pbits fuel sources =
        .ok (p, first))
    (hChosen :
      chooseQ mpzProbabPrimeP qbits fuel p first =
        .ok (p', q, second))
    (hKeys : deriveRsaKeys fuel p' q 5 = .ok keys)
    (hPrv : keys.privateKey bits p' q = prv)
    (hRandom :
      rsaRandomInteger second.random bits =
        (drawn, random))
    (hTest : drawn % prv.publicKey.n = test)
    (hSigned :
      rsaPublic (rsaPrivate test prv) prv.publicKey = test)
    (hEncrypted :
      rsaPrivate (rsaPublic test prv.publicKey) prv =
        test) :
    rsaGenerateKey mpzProbabPrimeP bits (fuel + 1) sources =
      .ok (prv, prv.publicKey,
        { second with random := random }) := by
  subst hpBits hqBits hPrv
  simp only [rsaGenerateKey, hFirst, hChosen, hKeys,
    hRandom, FallibleRun.ok_bind, hTest]
  rw [if_neg (not_not.mpr hSigned),
    if_neg (not_not.mpr hEncrypted)]
  rfl

/- A primality test that knows two primes. -/
def sampleTest
    (ret _ : Nat)
    (gmp : Unit) : Bool × Unit :=
  (ret = 49157 || ret = 65521, gmp)

/- Random bytes that give two primes at once. -/
def sampleSources : RandomSources Unit where
  random := [0xC0, 0x05, 0xFF, 0xF1, 1, 2, 3, 4]
  gmp := ()

/- The key of 32 bits that comes of them. -/
def sampleKey : RSAPrivateKey where
  bits := 32
  n := 3220815797
  e := 37
  d := 391706893
  u := 61489
  p := 49157
  q := 65521

/- The first two bytes are a prime. -/
theorem sampleFirst
    {fuel : Nat}
    (hFuel : 1029 ≤ fuel) :
    rsaRandomPrime sampleTest 16 (fuel + 1) sampleSources =
      .ok (49157, ⟨[0xFF, 0xF1, 1, 2, 3, 4], ()⟩) := by
  apply rsaRandomPrime_start
  · decide +kernel
  · decide +kernel
  · decide +kernel
  · decide +kernel
  · exact le_trans (by decide +kernel) hFuel

/- The next two are another one. -/
theorem sampleSecond
    {fuel : Nat}
    (hFuel : 1029 ≤ fuel) :
    rsaRandomPrime sampleTest 16 (fuel + 1)
        ⟨[0xFF, 0xF1, 1, 2, 3, 4], ()⟩ =
      .ok (65521, ⟨[1, 2, 3, 4], ()⟩) := by
  apply rsaRandomPrime_start
  · decide +kernel
  · decide +kernel
  · decide +kernel
  · decide +kernel
  · exact le_trans (by decide +kernel) hFuel

/- The numbers of the sample key. -/
theorem sampleKey_derived :
    (derivedKeys 49157 65521 37).privateKey 32
      49157 65521 = sampleKey := by
  simp [derivedKeys, mpzModInverse, ExtendedEuclid.loop,
    ExtendedEuclid.normalize, DerivedKeys.privateKey,
    sampleKey]

theorem sampleSecond_chosen :
    chooseQ sampleTest 16 1031 49157
        ⟨[0xFF, 0xF1, 1, 2, 3, 4], ()⟩ =
      .ok (49157, 65521, ⟨[1, 2, 3, 4], ()⟩) := by
  rw [chooseQ, sampleSecond (by decide)]
  decide +kernel

/- The sample bytes generate the sample key. -/
theorem sampleKey_generated :
    rsaGenerateKey sampleTest 32 1032 sampleSources =
      .ok (sampleKey, sampleKey.publicKey, ⟨[], ()⟩) := by
  have hKeys :
      deriveRsaKeys 1031 49157 65521 5 =
        .ok (derivedKeys 49157 65521 37) := by
    decide +kernel
  have hRandom :
      rsaRandomInteger [1, 2, 3, 4] 32 =
        (0x01020304, []) := by
    decide +kernel
  have hTest :
      0x01020304 % sampleKey.publicKey.n = 0x01020304 := by
    decide
  have hSigned :
      rsaPublic (rsaPrivate 0x01020304 sampleKey)
        sampleKey.publicKey = 0x01020304 := by
    decide +kernel
  have hEncrypted :
      rsaPrivate
        (rsaPublic 0x01020304 sampleKey.publicKey)
        sampleKey = 0x01020304 := by
    decide +kernel
  exact rsaGenerateKey_returns rfl rfl
    (sampleFirst (by decide)) sampleSecond_chosen hKeys
    sampleKey_derived hRandom hTest hSigned hEncrypted

theorem rsaGenerateKey_sizes_sample :
    GeneratedKey 32 sampleKey sampleKey.publicKey ∧
      GeneratedPrime 16 49157 :=
  ⟨(rsaGenerateKey_sizes 32 (by decide)).2.2 1032 _ _ _ _
      (by decide) sampleKey_generated,
    (rsaGenerateKey_sizes 16 (by decide)).2.1 1030 _ _ _
      (sampleFirst (by decide))⟩

end Ssh1
