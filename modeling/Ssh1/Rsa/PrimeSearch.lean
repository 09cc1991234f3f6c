import Ssh1.Base.Unsigned
import Ssh1.Lib.LazyResidue
import Ssh1.Rsa.Padding
import Mathlib.Logic.Relation

/-
  The search for a random prime.

  The search goes up from a random start in steps of two. A
  table of small primes sieves the candidates. The residues
  of the candidates are corrected only up to the first prime
  that divides, so that those of the later primes lag behind.

  Main declarations:
    * `rsaRandomInteger`
    * `Sieve`, `Sieve.step`
    * `rsaRandomPrime`
    * `Sieve.Valid`, `valid_of_reaches`
    * `rsaRandomPrime_generated`
-/

------------------------------------------------------------
-- Random Integers
------------------------------------------------------------

namespace Ssh1

/- `random_get_byte` -/
def randomGetByte : RandomState → UInt8 × RandomState
| [] => (0, [])
| byte :: state => (byte, state)

/- The random bytes that are printed in hex. -/
def randomBytes :
    (count : Nat) → RandomState →
    List UInt8 × RandomState
| 0, state => ([], state)
| count + 1, state =>
    let first := randomGetByte state
    let others := randomBytes count first.2
    (first.1 :: others.1, others.2)

/- A random number of that many bits. -/
def rsaRandomInteger
    (state : RandomState)
    (bits : Nat) : Nat × RandomState :=
  let str := randomBytes (byteLength bits) state
  (BigEndian.ofBytes str.1 % 2 ^ bits, str.2)

theorem rsaRandomInteger_lt
    (state : RandomState)
    (bits : Nat) :
    (rsaRandomInteger state bits).1 < 2 ^ bits :=
  Nat.mod_lt _ (Nat.two_pow_pos bits)

end Ssh1

------------------------------------------------------------
-- Small Primes
------------------------------------------------------------

namespace Ssh1

/- The table up to the zero that ends it. -/
def smallPrimes : List Nat :=
  [3, 5, 7, 11, 13, 17, 19, 23, 29, 31, 37, 41, 43, 47, 53, 59,
   61, 67, 71, 73, 79, 83, 89, 97, 101, 103, 107, 109, 113, 127,
   131, 137, 139, 149, 151, 157, 163, 167, 173, 179, 181, 191,
   193, 197, 199, 211, 223, 227, 229, 233, 239, 241, 251, 257,
   263, 269, 271, 277, 281, 283, 293, 307, 311, 313, 317, 331,
   337, 347, 349, 353, 359, 367, 373, 379, 383, 389, 397, 401,
   409, 419, 421, 431, 433, 439, 443, 449, 457, 461, 463, 467,
   479, 487, 491, 499, 503, 509, 521, 523, 541, 547, 557, 563,
   569, 571, 577, 587, 593, 599, 601, 607, 613, 617, 619, 631,
   641, 643, 647, 653, 659, 661, 673, 677, 683, 691, 701, 709,
   719, 727, 733, 739, 743, 751, 757, 761, 769, 773, 787, 797,
   809, 811, 821, 823, 827, 829, 839, 853, 857, 859, 863, 877,
   881, 883, 887, 907, 911, 919, 929, 937, 941, 947, 953, 967,
   971, 977, 983, 991, 997, 1009, 1013, 1019, 1021, 1031, 1033,
   1039, 1049, 1051, 1061, 1063, 1069, 1087, 1091, 1093, 1097,
   1103, 1109, 1117, 1123, 1129, 1151, 1153, 1163, 1171, 1181,
   1187, 1193, 1201, 1213, 1217, 1223, 1229, 1231, 1237, 1249,
   1259, 1277, 1279, 1283, 1289, 1291, 1297, 1301, 1303, 1307,
   1319, 1321, 1327, 1361, 1367, 1373, 1381, 1399, 1409, 1423,
   1427, 1429, 1433, 1439, 1447, 1451, 1453, 1459, 1471, 1481,
   1483, 1487, 1489, 1493, 1499, 1511, 1523, 1531, 1543, 1549,
   1553, 1559, 1567, 1571, 1579, 1583, 1597, 1601, 1607, 1609,
   1613, 1619, 1621, 1627, 1637, 1657, 1663, 1667, 1669, 1693,
   1697, 1699, 1709, 1721, 1723, 1733, 1741, 1747, 1753, 1759,
   1777, 1783, 1787, 1789, 1801, 1811, 1823, 1831, 1847, 1861,
   1867, 1871, 1873, 1877, 1879, 1889, 1901, 1907, 1913, 1931,
   1933, 1949, 1951, 1973, 1979, 1987, 1993, 1997, 1999, 2003,
   2011, 2017, 2027, 2029, 2039, 2053, 2063, 2069, 2081, 2083,
   2087, 2089, 2099, 2111, 2113, 2129, 2131, 2137, 2141, 2143,
   2153, 2161, 2179, 2203, 2207, 2213, 2221, 2237, 2239, 2243,
   2251, 2267, 2269, 2273, 2281, 2287, 2293, 2297, 2309, 2311,
   2333, 2339, 2341, 2347, 2351, 2357, 2371, 2377, 2381, 2383,
   2389, 2393, 2399, 2411, 2417, 2423, 2437, 2441, 2447, 2459,
   2467, 2473, 2477, 2503, 2521, 2531, 2539, 2543, 2549, 2551,
   2557, 2579, 2591, 2593, 2609, 2617, 2621, 2633, 2647, 2657,
   2659, 2663, 2671, 2677, 2683, 2687, 2689, 2693, 2699, 2707,
   2711, 2713, 2719, 2729, 2731, 2741, 2749, 2753, 2767, 2777,
   2789, 2791, 2797, 2801, 2803, 2819, 2833, 2837, 2843, 2851,
   2857, 2861, 2879, 2887, 2897, 2903, 2909, 2917, 2927, 2939,
   2953, 2957, 2963, 2969, 2971, 2999, 3001, 3011, 3019, 3023,
   3037, 3041, 3049, 3061, 3067, 3079, 3083, 3089, 3109, 3119,
   3121, 3137, 3163, 3167, 3169, 3181, 3187, 3191, 3203, 3209,
   3217, 3221, 3229, 3251, 3253, 3257, 3259, 3271, 3299, 3301,
   3307, 3313, 3319, 3323, 3329, 3331, 3343, 3347, 3359, 3361,
   3371, 3373, 3389, 3391, 3407, 3413, 3433, 3449, 3457, 3461,
   3463, 3467, 3469, 3491, 3499, 3511, 3517, 3527, 3529, 3533,
   3539, 3541, 3547, 3557, 3559, 3571, 3581, 3583, 3593, 3607,
   3613, 3617, 3623, 3631, 3637, 3643, 3659, 3671, 3673, 3677,
   3691, 3697, 3701, 3709, 3719, 3727, 3733, 3739, 3761, 3767,
   3769, 3779, 3793, 3797, 3803, 3821, 3823, 3833, 3847, 3851,
   3853, 3863, 3877, 3881, 3889, 3907, 3911, 3917, 3919, 3923,
   3929, 3931, 3943, 3947, 3967, 3989, 4001, 4003, 4007, 4013,
   4019, 4021, 4027, 4049, 4051, 4057, 4073, 4079, 4091, 4093,
   4099, 4111, 4127, 4129, 4133, 4139, 4153, 4157, 4159, 4177,
   4201, 4211, 4217, 4219, 4229, 4231, 4241, 4243, 4253, 4259,
   4261, 4271, 4273, 4283, 4289, 4297, 4327, 4337, 4339, 4349,
   4357, 4363, 4373, 4391, 4397, 4409, 4421, 4423, 4441, 4447,
   4451, 4457, 4463, 4481, 4483, 4493, 4507, 4513, 4517, 4519,
   4523, 4547, 4549, 4561, 4567, 4583, 4591, 4597, 4603, 4621,
   4637, 4639, 4643, 4649, 4651, 4657, 4663, 4673, 4679, 4691,
   4703, 4721, 4723, 4729, 4733, 4751, 4759, 4783, 4787, 4789,
   4793, 4799, 4801, 4813, 4817, 4831, 4861, 4871, 4877, 4889,
   4903, 4909, 4919, 4931, 4933, 4937, 4943, 4951, 4957, 4967,
   4969, 4973, 4987, 4993, 4999, 5003, 5009, 5011, 5021, 5023,
   5039, 5051, 5059, 5077, 5081, 5087, 5099, 5101, 5107, 5113,
   5119, 5147, 5153, 5167, 5171, 5179, 5189, 5197, 5209, 5227,
   5231, 5233, 5237, 5261, 5273, 5279, 5281, 5297, 5303, 5309,
   5323, 5333, 5347, 5351, 5381, 5387, 5393, 5399, 5407, 5413,
   5417, 5419, 5431, 5437, 5441, 5443, 5449, 5471, 5477, 5479,
   5483, 5501, 5503, 5507, 5519, 5521, 5527, 5531, 5557, 5563,
   5569, 5573, 5581, 5591, 5623, 5639, 5641, 5647, 5651, 5653,
   5657, 5659, 5669, 5683, 5689, 5693, 5701, 5711, 5717, 5737,
   5741, 5743, 5749, 5779, 5783, 5791, 5801, 5807, 5813, 5821,
   5827, 5839, 5843, 5849, 5851, 5857, 5861, 5867, 5869, 5879,
   5881, 5897, 5903, 5923, 5927, 5939, 5953, 5981, 5987, 6007,
   6011, 6029, 6037, 6043, 6047, 6053, 6067, 6073, 6079, 6089,
   6091, 6101, 6113, 6121, 6131, 6133, 6143, 6151, 6163, 6173,
   6197, 6199, 6203, 6211, 6217, 6221, 6229, 6247, 6257, 6263,
   6269, 6271, 6277, 6287, 6299, 6301, 6311, 6317, 6323, 6329,
   6337, 6343, 6353, 6359, 6361, 6367, 6373, 6379, 6389, 6397,
   6421, 6427, 6449, 6451, 6469, 6473, 6481, 6491, 6521, 6529,
   6547, 6551, 6553, 6563, 6569, 6571, 6577, 6581, 6599, 6607,
   6619, 6637, 6653, 6659, 6661, 6673, 6679, 6689, 6691, 6701,
   6703, 6709, 6719, 6733, 6737, 6761, 6763, 6779, 6781, 6791,
   6793, 6803, 6823, 6827, 6829, 6833, 6841, 6857, 6863, 6869,
   6871, 6883, 6899, 6907, 6911, 6917, 6947, 6949, 6959, 6961,
   6967, 6971, 6977, 6983, 6991, 6997, 7001, 7013, 7019, 7027,
   7039, 7043, 7057, 7069, 7079, 7103, 7109, 7121, 7127, 7129,
   7151, 7159, 7177, 7187, 7193, 7207, 7211, 7213, 7219, 7229,
   7237, 7243, 7247, 7253, 7283, 7297, 7307, 7309, 7321, 7331,
   7333, 7349, 7351, 7369, 7393, 7411, 7417, 7433, 7451, 7457,
   7459, 7477, 7481, 7487, 7489, 7499, 7507, 7517, 7523, 7529,
   7537, 7541, 7547, 7549, 7559, 7561, 7573, 7577, 7583, 7589,
   7591, 7603, 7607, 7621, 7639, 7643, 7649, 7669, 7673, 7681,
   7687, 7691, 7699, 7703, 7717, 7723, 7727, 7741, 7753, 7757,
   7759, 7789, 7793, 7817, 7823, 7829, 7841, 7853, 7867, 7873,
   7877, 7879, 7883, 7901, 7907, 7919, 7927, 7933, 7937, 7949,
   7951, 7963, 7993, 8009, 8011, 8017, 8039, 8053, 8059, 8069,
   8081, 8087, 8089, 8093, 8101, 8111, 8117, 8123, 8147, 8161,
   8167, 8171, 8179, 8191, 0]

/- The primes of the sieve, `num_primes` of them. -/
def sievePrimes (bits : Nat) : List Nat :=
  -- the table is not used for very small numbers
  if bits < 16 then
    []
  else
    smallPrimes.takeWhile (· ≠ 0)

/- Only the zero at its end is not used of the table. -/
theorem smallPrimes_eq :
    smallPrimes = smallPrimes.takeWhile (· ≠ 0) ++ [0] := by
  decide +kernel

theorem smallPrimes_bounds :
    ∀ prime ∈ smallPrimes.takeWhile (· ≠ 0),
      2 < prime ∧ prime < 2 ^ 13 := by
  decide +kernel

theorem mem_sievePrimes
    {bits prime : Nat}
    (hBits : 16 ≤ bits)
    (hMem : prime ∈ smallPrimes)
    (hNonzero : prime ≠ 0) :
    prime ∈ sievePrimes bits := by
  rw [smallPrimes_eq, List.mem_append] at hMem
  rw [sievePrimes, if_neg (by omega)]
  rcases hMem with hTable | hEnd
  · exact hTable
  · exact (hNonzero (List.mem_singleton.mp hEnd)).elim

theorem sievePrimes_bounds
    {bits prime : Nat}
    (hMem : prime ∈ sievePrimes bits) :
    2 < prime ∧ prime < 2 ^ 13 := by
  unfold sievePrimes at hMem
  split at hMem
  · cases hMem
  · exact smallPrimes_bounds prime hMem

end Ssh1

------------------------------------------------------------
-- The Search
------------------------------------------------------------

namespace Ssh1

/- The local variables of the search. -/
structure Sieve where
  start : Nat
  -- of type `int`, one for each prime
  moduli : List Int
  difference : Int
  -- the index of the prime that is looked at
  i : Nat
  deriving DecidableEq

/- The points that the search can be at. -/
inductive SearchPoint where
  -- in the loop over the small primes
  | sieving (s : Sieve)
  -- after that loop, which no prime has left
  | passed (s : Sieve)
  -- the difference has grown too large
  | failed
  deriving DecidableEq

/- The next turn of the outer loop. -/
def Sieve.advance (s : Sieve) : SearchPoint :=
  let difference := s.difference + 2
  if difference > 0x70000000 then
    .failed
  else
    .sieving { s with difference := difference, i := 0 }

/-
  One turn of the loop over the small primes, or one of the
  `while` loop in it.
-/
def Sieve.step
    (primes : List Nat)
    (s : Sieve) : SearchPoint :=
  match primes[s.i]?, s.moduli[s.i]? with
  | some prime, some modulus =>
      if modulus + s.difference ≥ prime then
        let modulus := wrapInt (modulus - prime)
        .sieving
          { s with moduli := s.moduli.set s.i modulus }
      else if modulus + s.difference = 0 then
        s.advance
      else
        .sieving { s with i := s.i + 1 }
  | _, _ => .passed s

/- The random number whose two top bits and low bit are set. -/
def primeStart
    (state : RandomState)
    (bits : Nat) : Nat × RandomState :=
  let random := rsaRandomInteger state bits
  let start := random.1 ||| 3 * 2 ^ (bits - 2)
  (start ||| 1, random.2)

/- The variables at the start of the search. -/
def Sieve.init
    (primes : List Nat)
    (start : Nat) : Sieve where
  start := start
  moduli := primes.map fun prime => (start % prime : Nat)
  difference := 0
  i := 0

/-
  What the search draws from: the generator of the program,
  and that of gmp for the witnesses of the primality test.
-/
structure RandomSources (G : Type) where
  random : RandomState
  gmp : G
  deriving DecidableEq

section Search

variable {G : Type}
variable (mpzProbabPrimeP : Nat → Nat → G → Bool × G)

/- The Fermat test for witness `2` and the further tests. -/
def testCandidate
    (ret : Nat)
    (gmp : G) : Bool × G :=
  if mpzPowm 2 ret ret = 2 then
    mpzProbabPrimeP ret 20 gmp
  else
    (false, gmp)

/-
  The search from some point on, for at most `fuel` turns. It
  returns nothing where it has to be tried again.
-/
def searchPrime
    (primes : List Nat) :
    (fuel : Nat) →
    SearchPoint →
    G →
    Outcome (Option Nat × G)
| 0, _, _ => .error .diverges
| _ + 1, .failed, gmp => .ok (none, gmp)
| fuel + 1, .sieving s, gmp =>
    searchPrime primes fuel (s.step primes) gmp
| fuel + 1, .passed s, gmp =>
    let ret := s.start + s.difference.toNat
    let tested := testCandidate mpzProbabPrimeP ret gmp
    if tested.1 then
      .ok (some ret, tested.2)
    else
      searchPrime primes fuel s.advance tested.2

/-
  Returns a probable prime of that many bits. The jumps to
  `retry` are bounded by `fuel` as well.
-/
def rsaRandomPrime
    (bits : Nat) :
    (fuel : Nat) →
    RandomSources G →
    Outcome (Nat × RandomSources G)
| 0, _ => .error .diverges
| fuel + 1, sources => do
    let start := primeStart sources.random bits
    let primes := sievePrimes bits
    let (found, gmp) ←
      searchPrime mpzProbabPrimeP primes fuel
        (.sieving (Sieve.init primes start.1)) sources.gmp
    let sources := ⟨start.2, gmp⟩
    match found with
    | none => rsaRandomPrime bits fuel sources
    | some ret =>
        -- does it still have the high bit set
        if mpzGetUi (ret / 2 ^ (bits - 1)) ≠ 1 then
          rsaRandomPrime bits fuel sources
        else
          return (ret, sources)

end Search

end Ssh1

------------------------------------------------------------
-- The Invariant of the Sieve
------------------------------------------------------------

namespace Ssh1

/- The prime and the modulus that belong together. -/
def Sieve.At
    (primes : List Nat)
    (s : Sieve)
    (j prime : Nat)
    (modulus : Int) : Prop :=
  primes[j]? = some prime ∧ s.moduli[j]? = some modulus

/-
  The moduli track the candidate, and those in front of the
  index have been corrected and are not zero.
-/
structure Sieve.Valid
    (primes : List Nat)
    (start : Nat)
    (s : Sieve) : Prop where
  start_eq : s.start = start
  length_eq : s.moduli.length = primes.length
  nonneg : 0 ≤ s.difference
  le_limit : s.difference ≤ 0x70000000
  even : s.difference % 2 = 0
  tracks : ∀ j prime modulus,
    s.At primes j prime modulus →
      LazyResidue.Tracks prime start s.difference modulus
  le_prime : ∀ j prime modulus,
    s.At primes j prime modulus → modulus ≤ prime
  corrected : ∀ j prime modulus,
    s.At primes j prime modulus →
      j < s.i →
        modulus + s.difference ≠ 0 ∧
          modulus + s.difference < prime

/- The primes are small enough for the arithmetic. -/
def SmallEnough (primes : List Nat) : Prop :=
  ∀ prime ∈ primes, 0 < prime ∧ prime < 2 ^ 31

theorem smallEnough_sievePrimes
    (bits : Nat) :
    SmallEnough (sievePrimes bits) := by
  intro prime hMem
  have hBounds := sievePrimes_bounds hMem
  omega

/- What holds at a point of the search. -/
def SearchPoint.Valid
    (primes : List Nat)
    (start : Nat) : SearchPoint → Prop
| .sieving s => s.Valid primes start
| .passed s => s.Valid primes start ∧ primes.length ≤ s.i
| .failed => True

namespace Sieve

variable {primes : List Nat}
variable {start : Nat}
variable {s : Sieve}

theorem At.mem
    {j prime : Nat}
    {modulus : Int}
    (hAt : s.At primes j prime modulus) :
    prime ∈ primes :=
  List.mem_of_getElem? hAt.1

theorem valid_init
    (hPrimes : SmallEnough primes)
    (start : Nat) :
    (Sieve.init primes start).Valid primes start where
  start_eq := rfl
  length_eq := List.length_map _
  nonneg := le_refl _
  le_limit := by
    show (0 : Int) ≤ 0x70000000
    decide
  even := rfl
  tracks := by
    rintro j prime modulus hAt
    have hPositive := (hPrimes prime hAt.mem).1
    rcases hAt with ⟨hPrime, hModulus⟩
    simp only [Sieve.init, List.getElem?_map, hPrime,
      Option.map_some, Option.some.injEq] at hModulus
    rw [← hModulus, Int.natCast_mod]
    apply LazyResidue.tracks_start
    exact_mod_cast hPositive
  le_prime := by
    rintro j prime modulus hAt
    have hPositive := (hPrimes prime hAt.mem).1
    rcases hAt with ⟨hPrime, hModulus⟩
    simp only [Sieve.init, List.getElem?_map, hPrime,
      Option.map_some, Option.some.injEq] at hModulus
    rw [← hModulus]
    exact_mod_cast (Nat.mod_lt start hPositive).le
  corrected := by
    intro j prime modulus _ hFront
    exact (Nat.not_lt_zero j hFront).elim

/- A larger difference leaves the moduli as they are. -/
theorem Valid.advance
    (hValid : s.Valid primes start) :
    s.advance.Valid primes start := by
  have hNonneg := hValid.nonneg
  have hEven := hValid.even
  unfold Sieve.advance
  simp only
  split
  · trivial
  · rename_i hLimit
    have hGrows : s.difference ≤ s.difference + 2 := by omega
    exact {
      start_eq := hValid.start_eq
      length_eq := hValid.length_eq
      nonneg := by
        show 0 ≤ s.difference + 2
        omega
      le_limit := by
        show s.difference + 2 ≤ 0x70000000
        omega
      even := by
        show (s.difference + 2) % 2 = 0
        omega
      tracks := fun j prime modulus hAt =>
        (hValid.tracks j prime modulus hAt).advance hGrows
      le_prime := hValid.le_prime
      corrected := fun j _ _ _ hFront =>
        (Nat.not_lt_zero j hFront).elim }

/-
  Lowering a modulus stays in the range of an `int`, since
  the sum with the difference is not negative.
-/
theorem Valid.wrapInt_lower
    (hValid : s.Valid primes start)
    (hPrimes : SmallEnough primes)
    {j prime : Nat}
    {modulus : Int}
    (hAt : s.At primes j prime modulus)
    (hLe : (prime : Int) ≤ modulus + s.difference) :
    wrapInt (modulus - prime) = modulus - prime := by
  have hLimit := hValid.le_limit
  have hUpper := hValid.le_prime j prime modulus hAt
  have hSmall := (hPrimes prime hAt.mem).2
  apply wrapInt_of_range
  · omega
  · omega

/- One turn of the `while` loop keeps the invariant. -/
theorem Valid.lower
    (hValid : s.Valid primes start)
    (hPrimes : SmallEnough primes)
    {prime : Nat}
    {modulus : Int}
    (hAt : s.At primes s.i prime modulus)
    (hLe : (prime : Int) ≤ modulus + s.difference) :
    Sieve.Valid primes start
      { s with
        moduli := s.moduli.set s.i
          (wrapInt (modulus - prime)) } := by
  rw [hValid.wrapInt_lower hPrimes hAt hLe]
  have hInside : s.i < s.moduli.length :=
    (List.getElem?_eq_some_iff.mp hAt.2).1
  have hCases : ∀ j prime' modulus',
      primes[j]? = some prime' →
      (s.moduli.set s.i (modulus - prime))[j]? =
        some modulus' →
      (j = s.i ∧ prime' = prime ∧
        modulus' = modulus - prime) ∨
      (j ≠ s.i ∧ s.At primes j prime' modulus') := by
    intro j prime' modulus' hPrime hModulus
    by_cases hHere : j = s.i
    · subst hHere
      rw [List.getElem?_set_self hInside] at hModulus
      rw [hAt.1] at hPrime
      exact .inl ⟨rfl, (Option.some.inj hPrime).symm,
        (Option.some.inj hModulus).symm⟩
    · rw [List.getElem?_set_ne (Ne.symm hHere)]
        at hModulus
      exact .inr ⟨hHere, hPrime, hModulus⟩
  exact {
    start_eq := hValid.start_eq
    length_eq := by
      show (s.moduli.set _ _).length = _
      rw [List.length_set]
      exact hValid.length_eq
    nonneg := hValid.nonneg
    le_limit := hValid.le_limit
    even := hValid.even
    tracks := by
      rintro j prime' modulus' ⟨hPrime, hModulus⟩
      rcases hCases j prime' modulus' hPrime hModulus with
        ⟨-, rfl, rfl⟩ | ⟨-, hOther⟩
      · exact (hValid.tracks _ _ _ hAt).lower hLe
      · exact hValid.tracks _ _ _ hOther
    le_prime := by
      rintro j prime' modulus' ⟨hPrime, hModulus⟩
      rcases hCases j prime' modulus' hPrime hModulus with
        ⟨-, rfl, rfl⟩ | ⟨-, hOther⟩
      · have hUpper := hValid.le_prime _ _ _ hAt
        omega
      · exact hValid.le_prime _ _ _ hOther
    corrected := by
      rintro j prime' modulus' ⟨hPrime, hModulus⟩ hFront
      rcases hCases j prime' modulus' hPrime hModulus with
        ⟨rfl, -, -⟩ | ⟨-, hOther⟩
      · exact (Nat.lt_irrefl _ hFront).elim
      · exact hValid.corrected _ _ _ hOther hFront }

/- A corrected residue other than zero is passed. -/
theorem Valid.pass
    (hValid : s.Valid primes start)
    {prime : Nat}
    {modulus : Int}
    (hAt : s.At primes s.i prime modulus)
    (hLess : modulus + s.difference < prime)
    (hNonzero : modulus + s.difference ≠ 0) :
    Sieve.Valid primes start { s with i := s.i + 1 } where
  start_eq := hValid.start_eq
  length_eq := hValid.length_eq
  nonneg := hValid.nonneg
  le_limit := hValid.le_limit
  even := hValid.even
  tracks := hValid.tracks
  le_prime := hValid.le_prime
  corrected := by
    intro j prime' modulus' hOther hFront
    by_cases hHere : j = s.i
    · subst hHere
      have hPrime : prime' = prime :=
        Option.some.inj (hOther.1.symm.trans hAt.1)
      have hModulus : modulus' = modulus :=
        Option.some.inj (hOther.2.symm.trans hAt.2)
      rw [hPrime, hModulus]
      exact ⟨hNonzero, hLess⟩
    · apply hValid.corrected j prime' modulus' hOther
      have hNext : j < s.i + 1 := hFront
      omega

/- One step of the search keeps the invariant. -/
theorem Valid.step
    (hValid : s.Valid primes start)
    (hPrimes : SmallEnough primes) :
    (s.step primes).Valid primes start := by
  unfold Sieve.step
  split
  · rename_i prime modulus hPrime hModulus
    have hAt : s.At primes s.i prime modulus :=
      ⟨hPrime, hModulus⟩
    split
    · rename_i hLe
      exact hValid.lower hPrimes hAt hLe
    · rename_i hLess
      split
      · exact hValid.advance
      · rename_i hNonzero
        exact hValid.pass hAt (by omega) hNonzero
  · rename_i hEnd
    refine ⟨hValid, ?_⟩
    by_contra hFront
    have hInside : s.i < primes.length := by omega
    have hModuli : s.i < s.moduli.length := by
      rw [hValid.length_eq]
      exact hInside
    exact hEnd _ _ (List.getElem?_eq_getElem hInside)
      (List.getElem?_eq_getElem hModuli)

/- What has passed all primes has none of them as divisor. -/
theorem Valid.not_dvd
    (hValid : s.Valid primes start)
    (hPassed : primes.length ≤ s.i)
    {prime : Nat}
    (hMem : prime ∈ primes) :
    ¬ prime ∣ s.start + s.difference.toNat := by
  rcases List.getElem?_of_mem hMem with ⟨j, hPrime⟩
  have hInside : j < primes.length :=
    (List.getElem?_eq_some_iff.mp hPrime).1
  have hModuli : j < s.moduli.length := by
    rw [hValid.length_eq]
    exact hInside
  have hAt : s.At primes j prime s.moduli[j] :=
    ⟨hPrime, List.getElem?_eq_getElem hModuli⟩
  rcases hValid.corrected _ _ _ hAt (by omega) with
    ⟨hNonzero, hLess⟩
  have hNone :=
    (hValid.tracks _ _ _ hAt).not_dvd hNonzero hLess
  intro hDvd
  apply hNone
  have hCast : (start : Int) + s.difference =
      (s.start + s.difference.toNat : Nat) := by
    have hNonneg := hValid.nonneg
    have hStart := hValid.start_eq
    omega
  rw [hCast]
  exact Int.natCast_dvd_natCast.mpr hDvd

end Sieve

end Ssh1

------------------------------------------------------------
-- Runs of the Search
------------------------------------------------------------

namespace Ssh1

/-
  How the search moves from point to point, whatever the
  tests of the candidates answer.
-/
inductive Follows
    (primes : List Nat) : SearchPoint → SearchPoint → Prop
| turn
    (s : Sieve) :
    Follows primes (.sieving s) (s.step primes)
| rejected
    (s : Sieve) :
    Follows primes (.passed s) s.advance

/- The search gets from one point to the other. -/
abbrev SearchReaches (primes : List Nat) :=
  Relation.ReflTransGen (Follows primes)

variable {primes : List Nat}
variable {start : Nat}

theorem SearchPoint.Valid.follows
    {point next : SearchPoint}
    (hPrimes : SmallEnough primes)
    (hValid : point.Valid primes start)
    (hFollows : Follows primes point next) :
    next.Valid primes start := by
  cases hFollows with
  | turn s => exact Sieve.Valid.step hValid hPrimes
  | rejected s => exact hValid.1.advance

/- The invariant holds at every point of a search. -/
theorem valid_of_reaches
    {point : SearchPoint}
    (hPrimes : SmallEnough primes)
    (hReaches :
      SearchReaches primes
        (.sieving (Sieve.init primes start)) point) :
    point.Valid primes start := by
  induction hReaches with
  | refl => exact Sieve.valid_init hPrimes start
  | tail _ hFollows ih => exact ih.follows hPrimes hFollows

section Results

variable {G : Type}
variable {mpzProbabPrimeP : Nat → Nat → G → Bool × G}

/- What the search returns has passed all small primes. -/
theorem searchPrime_reaches
    {fuel ret : Nat}
    {point : SearchPoint}
    {gmp gmp' : G}
    (hFound :
      searchPrime mpzProbabPrimeP primes fuel point gmp =
        .ok (some ret, gmp')) :
    ∃ s,
      SearchReaches primes point (.passed s) ∧
        ret = s.start + s.difference.toNat := by
  induction fuel generalizing point gmp with
  | zero => cases hFound
  | succ fuel ih =>
      cases point with
      | failed => cases hFound
      | sieving s =>
          rcases ih hFound with ⟨last, hReaches, hRet⟩
          exact ⟨last, .head (.turn s) hReaches, hRet⟩
      | passed s =>
          simp only [searchPrime] at hFound
          split at hFound
          · cases hFound
            exact ⟨s, .refl, rfl⟩
          · rcases ih hFound with ⟨last, hReaches, hRet⟩
            exact ⟨last, .head (.rejected s) hReaches, hRet⟩

/- The number is odd as the start is, and not far from it. -/
theorem searchPrime_found
    {fuel ret : Nat}
    {gmp gmp' : G}
    (hPrimes : SmallEnough primes)
    (hFound :
      searchPrime mpzProbabPrimeP primes fuel
        (.sieving (Sieve.init primes start)) gmp =
          .ok (some ret, gmp')) :
    start ≤ ret ∧
      ret ≤ start + 0x70000000 ∧
      ret % 2 = start % 2 ∧
      ∀ prime ∈ primes, ¬ prime ∣ ret := by
  rcases searchPrime_reaches hFound with
    ⟨s, hReaches, rfl⟩
  rcases valid_of_reaches hPrimes hReaches with
    ⟨hValid, hPassed⟩
  have hStart := hValid.start_eq
  have hNonneg := hValid.nonneg
  have hLimit := hValid.le_limit
  have hEven := hValid.even
  refine ⟨?_, ?_, ?_, ?_⟩
  · omega
  · omega
  · omega
  · intro prime hMem
    exact hValid.not_dvd hPassed hMem

end Results

end Ssh1

------------------------------------------------------------
-- The Result
------------------------------------------------------------

namespace Ssh1

/- What `rsa_random_prime` promises of a number. -/
structure GeneratedPrime (bits ret : Nat) : Prop where
  odd : ret % 2 = 1
  bits_eq : mpzSizeinbase2 ret = bits
  high_bit : ret.testBit (bits - 1) = true
  next_bit : ret.testBit (bits - 2) = true
  not_dvd : ∀ prime ∈ smallPrimes,
    prime ≠ 0 → ¬ prime ∣ ret

/- The start has the bits that are set. -/
theorem primeStart_bounds
    {bits : Nat}
    (state : RandomState)
    (hBits : 2 ≤ bits) :
    let start := (primeStart state bits).1
    start % 2 = 1 ∧
      3 * 2 ^ (bits - 2) ≤ start ∧
      start < 2 ^ bits := by
  have hPow : 2 ^ bits = 4 * 2 ^ (bits - 2) := by
    rw [show (4 : Nat) = 2 ^ 2 from rfl, ← pow_add]
    congr 1
    omega
  have hPos : 0 < 2 ^ (bits - 2) := Nat.two_pow_pos _
  refine ⟨?_, ?_, ?_⟩
  · rw [primeStart, Nat.or_mod_two_eq_one]
    exact .inr rfl
  · calc 3 * 2 ^ (bits - 2)
        ≤ (rsaRandomInteger state bits).1 |||
            3 * 2 ^ (bits - 2) := Nat.right_le_or
      _ ≤ (primeStart state bits).1 := Nat.left_le_or
  · apply Nat.or_lt_two_pow
    · apply Nat.or_lt_two_pow
      · exact rsaRandomInteger_lt state bits
      · omega
    · omega

/- A number whose two top bits of `bits` are set. -/
theorem top_bits
    {bits ret : Nat}
    (hBits : 2 ≤ bits)
    (hLow : 3 * 2 ^ (bits - 2) ≤ ret)
    (hHigh : ret < 2 ^ bits) :
    mpzSizeinbase2 ret = bits ∧
      ret.testBit (bits - 1) = true ∧
      ret.testBit (bits - 2) = true := by
  have hPow : 2 ^ bits = 4 * 2 ^ (bits - 2) := by
    rw [show (4 : Nat) = 2 ^ 2 from rfl, ← pow_add]
    congr 1
    omega
  have hHalf : 2 ^ (bits - 1) = 2 * 2 ^ (bits - 2) := by
    rw [← pow_succ']
    congr 1
    omega
  have hPos : 0 < 2 ^ (bits - 2) := Nat.two_pow_pos _
  have hTop : ret / 2 ^ (bits - 1) = 1 := by
    apply Nat.div_eq_of_lt_le
    · omega
    · omega
  have hNext : ret / 2 ^ (bits - 2) = 3 := by
    apply Nat.div_eq_of_lt_le
    · omega
    · omega
  refine ⟨?_, ?_, ?_⟩
  · apply mpzSizeinbase2_eq (by omega)
    · omega
    · exact hHigh
  · rw [Nat.testBit_eq_decide_div_mod_eq, hTop]
    rfl
  · rw [Nat.testBit_eq_decide_div_mod_eq, hNext]
    rfl

variable {G : Type}
variable {mpzProbabPrimeP : Nat → Nat → G → Bool × G}

/-
  The check of the high bit excludes a carry. The quotient is
  too small for the conversion to change it.
-/
theorem lt_two_pow_of_highBit
    {bits start ret : Nat}
    (hBits : 1 ≤ bits)
    (hStart : start < 2 ^ bits)
    (hNear : ret ≤ start + 0x70000000)
    (hCheck : mpzGetUi (ret / 2 ^ (bits - 1)) = 1) :
    ret < 2 ^ bits := by
  have hPow : 2 ^ bits = 2 * 2 ^ (bits - 1) := by
    rw [← pow_succ']
    congr 1
    omega
  have hPos : 0 < 2 ^ (bits - 1) := Nat.two_pow_pos _
  have hSmall : ret / 2 ^ (bits - 1) < 2 ^ 64 := by
    apply Nat.div_lt_of_lt_mul
    nlinarith
  rw [mpzGetUi, Nat.mod_eq_of_lt hSmall] at hCheck
  have hUpper := Nat.lt_div_mul_add (a := ret) hPos
  rw [hCheck] at hUpper
  omega

/- A prime that was found has the bits it should have. -/
theorem rsaRandomPrime_bounds
    {bits fuel ret : Nat}
    {sources sources' : RandomSources G}
    (hBits : 2 ≤ bits)
    (hFound :
      rsaRandomPrime mpzProbabPrimeP bits fuel sources =
        .ok (ret, sources')) :
    ret % 2 = 1 ∧
      3 * 2 ^ (bits - 2) ≤ ret ∧
      ret < 2 ^ bits ∧
      ∀ prime ∈ sievePrimes bits, ¬ prime ∣ ret := by
  induction fuel generalizing sources with
  | zero => cases hFound
  | succ fuel ih =>
      rw [rsaRandomPrime] at hFound
      rcases FallibleRun.bind_eq_ok_iff.mp hFound with
        ⟨⟨found, gmp⟩, hSearch, hRest⟩
      cases found with
      | none => exact ih hRest
      | some candidate =>
          simp only at hRest
          split at hRest
          · exact ih hRest
          · rename_i hCheck
            cases hRest
            rcases primeStart_bounds sources.random hBits
              with ⟨hOdd, hLow, hHigh⟩
            rcases searchPrime_found
                (smallEnough_sievePrimes bits) hSearch with
              ⟨hLe, hNear, hParity, hSieved⟩
            refine ⟨by omega, by omega, ?_, hSieved⟩
            apply lt_two_pow_of_highBit (by omega) hHigh
              hNear
            exact not_not.mp hCheck

/-
  A prime that was found is odd, has exactly the bits that
  were asked for, the two top ones set, and no divisor in the
  table.
-/
theorem rsaRandomPrime_generated
    {bits fuel ret : Nat}
    {sources sources' : RandomSources G}
    (hBits : 16 ≤ bits)
    (hFound :
      rsaRandomPrime mpzProbabPrimeP bits fuel sources =
        .ok (ret, sources')) :
    GeneratedPrime bits ret := by
  rcases rsaRandomPrime_bounds (by omega) hFound with
    ⟨hOdd, hLow, hHigh, hSieved⟩
  rcases top_bits (by omega) hLow hHigh with
    ⟨hSize, hTop, hNext⟩
  exact {
    odd := hOdd
    bits_eq := hSize
    high_bit := hTop
    next_bit := hNext
    not_dvd := fun prime hMem hNonzero =>
      hSieved prime (mem_sievePrimes hBits hMem hNonzero) }

end Ssh1

------------------------------------------------------------
-- A Start That Is Taken
------------------------------------------------------------

namespace Ssh1

variable {primes : List Nat}
variable {start : Nat}

/- A corrected modulus other than zero is left behind. -/
theorem Sieve.step_pass
    {s : Sieve}
    {prime : Nat}
    {modulus : Int}
    (hAt : s.At primes s.i prime modulus)
    (hLess : modulus + s.difference < prime)
    (hNonzero : modulus + s.difference ≠ 0) :
    s.step primes = .sieving { s with i := s.i + 1 } := by
  rcases hAt with ⟨hPrime, hModulus⟩
  simp only [Sieve.step, hPrime, hModulus]
  rw [if_neg (by omega), if_neg hNonzero]

/- At the start every prime that does not divide is passed. -/
theorem Sieve.step_init
    {i : Nat}
    (hPrimes : SmallEnough primes)
    (hNone : ∀ prime ∈ primes, ¬ prime ∣ start)
    (hInside : i < primes.length) :
    Sieve.step primes
        { Sieve.init primes start with i := i } =
      .sieving
        { Sieve.init primes start with i := i + 1 } := by
  have hMem := List.getElem_mem hInside
  have hPositive := (hPrimes _ hMem).1
  have hLess := Nat.mod_lt start hPositive
  have hNonzero : start % primes[i] ≠ 0 := fun hZero =>
    hNone _ hMem (Nat.dvd_of_mod_eq_zero hZero)
  have hPrime := List.getElem?_eq_getElem hInside
  have hModulus :
      (Sieve.init primes start).moduli[i]? =
        some ((start % primes[i] : Nat) : Int) := by
    rw [Sieve.init, List.getElem?_map, hPrime]
    rfl
  apply Sieve.step_pass ⟨hPrime, hModulus⟩
  · show ((start % primes[i] : Nat) : Int) + 0 < primes[i]
    omega
  · show ((start % primes[i] : Nat) : Int) + 0 ≠ 0
    omega

section Results

variable {G : Type}
variable {mpzProbabPrimeP : Nat → Nat → G → Bool × G}

/- The turns over the small primes that are left. -/
theorem searchPrime_climb
    {i rest fuel : Nat}
    {gmp : G}
    (hPrimes : SmallEnough primes)
    (hNone : ∀ prime ∈ primes, ¬ prime ∣ start)
    (hRest : i + rest = primes.length) :
    searchPrime mpzProbabPrimeP primes (rest + fuel)
        (.sieving { Sieve.init primes start with i := i })
        gmp =
      searchPrime mpzProbabPrimeP primes fuel
        (.sieving
          { Sieve.init primes start with
            i := primes.length })
        gmp := by
  induction rest generalizing i with
  | zero =>
      have hEnd : i = primes.length := by omega
      rw [hEnd, Nat.zero_add]
  | succ rest ih =>
      have hInside : i < primes.length := by omega
      rw [show rest + 1 + fuel = rest + fuel + 1 by omega,
        searchPrime, Sieve.step_init hPrimes hNone hInside]
      exact ih (by omega)

/- A start without small divisors is itself tested first. -/
theorem searchPrime_start
    {fuel : Nat}
    {gmp gmp' : G}
    (hPrimes : SmallEnough primes)
    (hNone : ∀ prime ∈ primes, ¬ prime ∣ start)
    (hTest :
      testCandidate mpzProbabPrimeP start gmp =
        (true, gmp'))
    (hFuel : primes.length + 2 ≤ fuel) :
    searchPrime mpzProbabPrimeP primes fuel
        (.sieving (Sieve.init primes start)) gmp =
      .ok (some start, gmp') := by
  rcases Nat.exists_eq_add_of_le hFuel with ⟨more, rfl⟩
  have hClimb :
      searchPrime mpzProbabPrimeP primes
          (primes.length + (more + 2))
          (.sieving (Sieve.init primes start)) gmp =
        searchPrime mpzProbabPrimeP primes (more + 2)
          (.sieving
            { Sieve.init primes start with
              i := primes.length })
          gmp :=
    searchPrime_climb hPrimes hNone
      (Nat.zero_add primes.length)
  rw [show primes.length + 2 + more =
    primes.length + (more + 2) by omega, hClimb,
    searchPrime, Sieve.step]
  simp only [List.getElem?_eq_none (le_refl primes.length),
    searchPrime, Sieve.init, Int.toNat_zero, add_zero,
    hTest, if_true]

/- Such a start is returned if its high bit stands alone. -/
theorem rsaRandomPrime_start
    {bits fuel : Nat}
    {sources : RandomSources G}
    {random : RandomState}
    {gmp' : G}
    (hStart :
      primeStart sources.random bits = (start, random))
    (hNone : ∀ prime ∈ sievePrimes bits, ¬ prime ∣ start)
    (hTest :
      testCandidate mpzProbabPrimeP start sources.gmp =
        (true, gmp'))
    (hHigh : mpzGetUi (start / 2 ^ (bits - 1)) = 1)
    (hFuel : (sievePrimes bits).length + 2 ≤ fuel) :
    rsaRandomPrime mpzProbabPrimeP bits (fuel + 1) sources =
      .ok (start, ⟨random, gmp'⟩) := by
  have hSearch := searchPrime_start
    (smallEnough_sievePrimes bits) hNone hTest hFuel
  simp only [rsaRandomPrime, hStart, hSearch,
    FallibleRun.ok_bind, hHigh, ne_eq, not_true_eq_false,
    if_false]
  rfl

end Results

end Ssh1
