import Ssh1.Lib.Type2Block
import Ssh1.Rsa.Keys
import Ssh1.Rsa.SessionId
import Mathlib.Tactic.NormNum.Prime

/-
  Encryption of padded messages.

  A message is padded to the size of the modulus with random
  bytes other than zero, and is encrypted as a number. The
  reader looks for the zero byte that ends the padding.

  Main declarations:
    * `rsaPublicEncrypt`
    * `rsaPrivateDecrypt`
    * `rsaPrivateDecrypt_decodes_iff`
    * `rsaPrivateDecrypt_rsaPublicEncrypt`
-/

------------------------------------------------------------
-- Operations
------------------------------------------------------------

namespace Ssh1

/-
  The bytes that `random_get_byte` goes on to return. After
  the last of them the generator only returns zero bytes.
-/
abbrev RandomState := List UInt8

/- The `do` loop that draws a byte until it is not zero. -/
def drawByte : RandomState → Outcome (UInt8 × RandomState)
| [] => .error .diverges
| byte :: state =>
    if byte = 0 then drawByte state else .ok (byte, state)

/- Appends `count` random bytes to the number. -/
def drawPadding :
    (count aux : Nat) →
    RandomState →
    Outcome (Nat × RandomState)
| 0, aux, state => .ok (aux, state)
| count + 1, aux, state => do
    let (byte, state) ← drawByte state
    drawPadding count (aux * 2 ^ 8 + byte.toNat) state

/- The padded number that is encrypted. -/
def paddedInput
    (input inputLen len : Nat)
    (state : RandomState) :
    Outcome (Nat × RandomState) := do
  -- `i` runs from 2 up to `len - input_len - 1`
  let (aux, state) ←
    drawPadding (len - inputLen - 1 - 2) 2 state
  let aux := aux * 2 ^ (8 * (inputLen + 1))
  return (aux + input, state)

/- Encrypts a number with a public key. -/
def rsaPublicEncrypt
    (input : Nat)
    (key : RSAPublicKey)
    (state : RandomState) :
    Outcome (Nat × RandomState) := do
  if key.e < 3 then
    .error (.fatal
      "Bad public key, POTENTIAL BREAK-IN ATTEMPT!")
  else
    let inputBits := mpzSizeinbase2 input
    let inputLen := byteLength inputBits
    let len := byteLength key.bits
    assert (len ≥ inputLen + 3)
    let (aux, state) ← paddedInput input inputLen len state
    return (rsaPublic aux key, state)

/- The end of a decryption without the expected padding. -/
def badResult : Halt :=
  .fatal "Bad result from rsa_private_decrypt"

/-
  Decrypts a number with a private key. The loop that writes
  `value` is that of `mp_linearize_msb_first`. The length of
  the message is computed in unsigned arithmetic from the
  index at which the search for the zero byte stops.
-/
def rsaPrivateDecrypt
    (input : Nat)
    (key : RSAPrivateKey) : Outcome Nat :=
  let output := rsaPrivate input key
  let len := byteLength key.bits
  match mpLinearizeMsbFirst len output with
  | [] => .error .outOfBounds
  | first :: rest =>
      if first ≠ 0 then
        .error badResult
      else
        match rest with
        | [] => .error .outOfBounds
        | second :: rest =>
            if second ≠ 2 then
              .error badResult
            else
              let i := Type2Block.skipPadding rest 2
              let bits := 8 * (len + 2 ^ 32 - i - 1) % 2 ^ 32
              .ok (output % 2 ^ bits)

end Ssh1

------------------------------------------------------------
-- Exact Keys
------------------------------------------------------------

namespace Ssh1

/- A private key whose modulus has exactly its bits. -/
structure RSAPrivateKey.Exact
    (prv : RSAPrivateKey) : Prop where
  one_lt_p : 1 < prv.p
  one_lt_q : 1 < prv.q
  n_eq : prv.n = prv.p * prv.q
  low : 2 ^ (prv.bits - 1) ≤ prv.n
  high : prv.n < 2 ^ prv.bits
  -- `bits` is an `unsigned int`
  unsigned : prv.bits < 2 ^ 32

/- A private key whose number of bits is that of `n`. -/
abbrev ExactKey := { prv : RSAPrivateKey // prv.Exact }

/- An exact key whose two operations are inverse. -/
structure KeyPair where
  prv : RSAPrivateKey
  exact : prv.Exact
  inverse : ∀ x,
    x < prv.n →
      rsaPrivate (rsaPublic x prv.publicKey) prv = x

namespace RSAPrivateKey.Exact

variable {prv : RSAPrivateKey}

theorem bits_pos
    (hKey : prv.Exact) :
    0 < prv.bits := by
  by_contra hZero
  have hBits : prv.bits = 0 := by omega
  have hLow := hKey.low
  have hHigh := hKey.high
  simp only [hBits] at hLow hHigh
  omega

/- A key with bytes has no wrap in their number. -/
theorem fits_of_byteLength_pos
    (hKey : prv.Exact)
    (hPos : 0 < byteLength prv.bits) :
    prv.bits + 7 < 2 ^ 32 := by
  have hUnsigned := hKey.unsigned
  unfold byteLength at hPos
  omega

/- One byte less does not hold the modulus. -/
theorem pow_le_n
    (hKey : prv.Exact) :
    256 ^ ((prv.bits + 7) / 8 - 1) ≤ prv.n := by
  have hPos := hKey.bits_pos
  have hPow : (256 : Nat) ^ ((prv.bits + 7) / 8 - 1) =
      2 ^ (8 * ((prv.bits + 7) / 8 - 1)) := by
    rw [Nat.pow_mul]
  rw [hPow]
  exact le_trans
    (Nat.pow_le_pow_right (by omega) (by omega)) hKey.low

theorem rsaPrivate_lt
    (hKey : prv.Exact)
    (input : Nat) :
    rsaPrivate input prv < prv.n := by
  rw [hKey.n_eq]
  exact Ssh1.rsaPrivate_lt input
    (by have := hKey.one_lt_p; omega)
    (by have := hKey.one_lt_q; omega)

end RSAPrivateKey.Exact

/- The key pair that is derived from two primes. -/
def KeyPair.ofPrimes
    (bits p q e : Nat)
    (hp : p.Prime)
    (hq : q.Prime)
    (hpOdd : p ≠ 2)
    (hLess : p < q)
    (hCoprime : Nat.Coprime e ((p - 1) * (q - 1)))
    (hLow : 2 ^ (bits - 1) ≤ p * q)
    (hHigh : p * q < 2 ^ bits)
    (hUnsigned : bits < 2 ^ 32) : KeyPair where
  prv := (derivedKeys p q e).privateKey bits p q
  exact := {
    one_lt_p := hp.one_lt
    one_lt_q := hq.one_lt
    n_eq := rfl
    low := hLow
    high := hHigh
    unsigned := hUnsigned }
  inverse := fun _ hx =>
    (derivedKeys.consistent hp hq hpOdd hLess hCoprime
      bits).rsaPrivate_rsaPublic hx

end Ssh1

------------------------------------------------------------
-- Decoding
------------------------------------------------------------

namespace Ssh1

open BigEndian Type2Block

/- The decrypted value, written in the bytes of the key. -/
def decryptedBlock
    (input : Nat)
    (key : RSAPrivateKey) : List UInt8 :=
  mpLinearizeMsbFirst ((key.bits + 7) / 8)
    (rsaPrivate input key)

/-
  Decryption returns the message of a block, and ends in the
  error exit for everything that is not a block.
-/
structure Decodes
    (input : Nat)
    (key : RSAPrivateKey) : Prop where
  returns : ∀ m,
    rsaPrivateDecrypt input key = .ok m ↔
      ∃ message,
        IsBlock (decryptedBlock input key) message ∧
          m = ofBytes message
  exits :
    (¬ ∃ message,
        IsBlock (decryptedBlock input key) message) →
      rsaPrivateDecrypt input key = .error badResult

/- The padding runs up to the end of the block. -/
def LacksSeparator
    (input : Nat)
    (key : RSAPrivateKey) : Prop :=
  ∃ padding,
    (0 : UInt8) ∉ padding ∧
      decryptedBlock input key = 0 :: 2 :: padding

/- The end of the bytes of a number is a remainder. -/
theorem ofBytes_drop_toBytes
    {len i : Nat}
    (hIndex : i ≤ len)
    (value : Nat) :
    ofBytes ((toBytes len value).drop i) =
      value % 256 ^ (len - i) := by
  have hSplit :
      toBytes len value =
        toBytes i (value / 256 ^ (len - i)) ++
          toBytes (len - i) value := by
    rw [← toBytes_add, Nat.add_sub_cancel' hIndex]
  have hDrop :
      (toBytes len value).drop i =
        toBytes (len - i) value := by
    rw [hSplit, List.drop_left' (length_toBytes _ _)]
  rw [hDrop, ofBytes_toBytes]

/- The index of a zero byte is inside of the bytes. -/
theorem skipPadding_lt
    {bytes : List UInt8}
    (i : Nat)
    (hZero : (0 : UInt8) ∈ bytes) :
    skipPadding bytes i < i + bytes.length := by
  rcases exists_padding hZero with
    ⟨padding, message, hPadding, hBytes⟩
  rw [hBytes, skipPadding_append message i hPadding]
  simp

variable {input : Nat} {key : RSAPrivateKey}

/- Without a wrap the key has the bytes of its modulus. -/
theorem mpLinearizeMsbFirst_eq_decryptedBlock
    (hBits : key.bits + 7 < 2 ^ 32) :
    mpLinearizeMsbFirst (byteLength key.bits)
        (rsaPrivate input key) =
      decryptedBlock input key := by
  rw [decryptedBlock, byteLength_of_lt hBits]

/- A key of that many bits has no bytes at all. -/
theorem rsaPrivateDecrypt_of_wrap
    (hKey : key.Exact)
    (hBits : ¬ key.bits + 7 < 2 ^ 32) :
    rsaPrivateDecrypt input key = .error .outOfBounds := by
  have hLength : byteLength key.bits = 0 := by
    have hUnsigned := hKey.unsigned
    unfold byteLength
    omega
  have hValue :
      mpLinearizeMsbFirst (byteLength key.bits)
        (rsaPrivate input key) = [] := by
    rw [hLength]
    rfl
  simp only [rsaPrivateDecrypt, hValue]

theorem rsaPrivateDecrypt_of_single
    (hBits : key.bits + 7 < 2 ^ 32)
    (hBlock : decryptedBlock input key = [0]) :
    rsaPrivateDecrypt input key = .error .outOfBounds := by
  simp only [rsaPrivateDecrypt,
    mpLinearizeMsbFirst_eq_decryptedBlock hBits, hBlock]
  rfl

/- Any other start of the block leads to the error exit. -/
theorem rsaPrivateDecrypt_of_bad_start
    (hBits : key.bits + 7 < 2 ^ 32)
    (hNonempty : decryptedBlock input key ≠ [])
    (hSingle : decryptedBlock input key ≠ [0])
    (hStart : ∀ rest,
      decryptedBlock input key ≠ 0 :: 2 :: rest) :
    rsaPrivateDecrypt input key = .error badResult := by
  simp only [rsaPrivateDecrypt,
    mpLinearizeMsbFirst_eq_decryptedBlock hBits]
  cases hBlock : decryptedBlock input key with
  | nil => exact (hNonempty hBlock).elim
  | cons first rest =>
      by_cases hFirst : first = 0
      · cases rest with
        | nil =>
            rw [hFirst] at hBlock
            exact (hSingle hBlock).elim
        | cons second rest =>
            have hSecond : second ≠ 2 := by
              rintro rfl
              rw [hFirst] at hBlock
              exact hStart rest hBlock
            simp [hFirst, hSecond]
      · simp [hFirst]

/- After a good start the function always returns. -/
theorem rsaPrivateDecrypt_of_start
    (hBits : key.bits + 7 < 2 ^ 32)
    {rest : List UInt8}
    (hStart : decryptedBlock input key = 0 :: 2 :: rest) :
    rsaPrivateDecrypt input key =
      .ok (rsaPrivate input key %
        2 ^ (8 * (byteLength key.bits + 2 ^ 32 -
          skipPadding rest 2 - 1) % 2 ^ 32)) := by
  simp only [rsaPrivateDecrypt,
    mpLinearizeMsbFirst_eq_decryptedBlock hBits, hStart]
  rfl

/- The length of the block is that of the key. -/
theorem byteLength_eq_of_start
    (hBits : key.bits + 7 < 2 ^ 32)
    {rest : List UInt8}
    (hStart : decryptedBlock input key = 0 :: 2 :: rest) :
    byteLength key.bits = rest.length + 2 := by
  have hBlockLength := congrArg List.length hStart
  rw [decryptedBlock, length_mpLinearizeMsbFirst,
    ← byteLength_of_lt hBits] at hBlockLength
  simpa using hBlockLength

/- With a separator the message is what follows it. -/
theorem rsaPrivateDecrypt_of_separator
    (hBits : key.bits + 7 < 2 ^ 32)
    {rest : List UInt8}
    (hStart : decryptedBlock input key = 0 :: 2 :: rest)
    (hZero : (0 : UInt8) ∈ rest) :
    rsaPrivateDecrypt input key =
      .ok (ofBytes ((decryptedBlock input key).drop
        (skipPadding rest 2 + 1))) := by
  have hLength := byteLength_eq_of_start hBits hStart
  have hIndex := skipPadding_lt 2 hZero
  have hSmall := byteLength_of_lt hBits
  -- the length of the message does not wrap around
  have hExponent :
      8 * (byteLength key.bits + 2 ^ 32 -
          skipPadding rest 2 - 1) % 2 ^ 32 =
        8 * (byteLength key.bits -
          (skipPadding rest 2 + 1)) := by
    omega
  have hPow (k : Nat) : (2 : Nat) ^ (8 * k) = 256 ^ k := by
    rw [Nat.pow_mul]
  rw [rsaPrivateDecrypt_of_start hBits hStart, hExponent,
    hPow, decryptedBlock, ← byteLength_of_lt hBits,
    mpLinearizeMsbFirst_eq_toBytes, ofBytes_drop_toBytes]
  omega

/-
  Without a separator the search stops at the end, the
  length of the message wraps around, and the whole value is
  returned.
-/
theorem rsaPrivateDecrypt_of_lacksSeparator
    (hKey : key.Exact)
    (hBits : key.bits + 7 < 2 ^ 32)
    (hLacks : LacksSeparator input key) :
    rsaPrivateDecrypt input key =
      .ok (rsaPrivate input key) := by
  rcases hLacks with
    ⟨padding, hPadding, hBlock⟩
  have hLength := byteLength_eq_of_start hBits hBlock
  have hExponent :
      key.bits ≤
        8 * (byteLength key.bits + 2 ^ 32 -
          skipPadding padding 2 - 1) % 2 ^ 32 := by
    rw [skipPadding_of_not_mem 2 hPadding, hLength,
      show padding.length + 2 + 2 ^ 32 -
        (2 + padding.length) - 1 = 2 ^ 32 - 1 by omega]
    omega
  have hSmall :
      rsaPrivate input key <
        2 ^ (8 * (byteLength key.bits + 2 ^ 32 -
          skipPadding padding 2 - 1) % 2 ^ 32) :=
    calc rsaPrivate input key
        < key.n := hKey.rsaPrivate_lt input
      _ < 2 ^ key.bits := hKey.high
      _ ≤ _ := Nat.pow_le_pow_right (by omega) hExponent
  rw [rsaPrivateDecrypt_of_start hBits hBlock,
    Nat.mod_eq_of_lt hSmall]

/- An outcome of a third kind is not what was promised. -/
theorem not_decodes_of_outOfBounds
    (hHalt :
      rsaPrivateDecrypt input key = .error .outOfBounds) :
    ¬ Decodes input key := by
  intro hDecodes
  by_cases hBlock : ∃ message,
      IsBlock (decryptedBlock input key) message
  · rcases hBlock with
      ⟨message, hBlock⟩
    have hReturns := (hDecodes.returns _).mpr
      ⟨message, hBlock, rfl⟩
    rw [hHalt] at hReturns
    cases hReturns
  · have hExits := hDecodes.exits hBlock
    rw [hHalt] at hExits
    cases hExits

/- Padding without an end is returned as a message. -/
theorem not_decodes_of_lacksSeparator
    (hBits : key.bits + 7 < 2 ^ 32)
    (hLacks : LacksSeparator input key) :
    ¬ Decodes input key := by
  intro hDecodes
  rcases hLacks with
    ⟨padding, hPadding, hBlock⟩
  have hNoBlock : ¬ ∃ message,
      IsBlock (decryptedBlock input key) message := by
    rw [exists_isBlock_iff]
    rintro ⟨rest, hRest, hZero⟩
    rw [hBlock] at hRest
    simp only [List.cons.injEq, true_and] at hRest
    exact hPadding (hRest ▸ hZero)
  have hExits := hDecodes.exits hNoBlock
  rw [rsaPrivateDecrypt_of_start hBits hBlock] at hExits
  cases hExits

theorem decodes_of_bad_start
    (hHalt : rsaPrivateDecrypt input key = .error badResult)
    (hStart : ∀ rest,
      decryptedBlock input key ≠ 0 :: 2 :: rest) :
    Decodes input key where
  returns := by
    intro m
    constructor
    · intro hReturns
      rw [hHalt] at hReturns
      cases hReturns
    · rintro ⟨message, hBlock, _⟩
      rcases (exists_isBlock_iff _).mp ⟨message, hBlock⟩ with
        ⟨rest, hRest, _⟩
      exact (hStart rest hRest).elim
  exits := fun _ => hHalt

theorem decodes_of_separator
    (hBits : key.bits + 7 < 2 ^ 32)
    {rest : List UInt8}
    (hStart : decryptedBlock input key = 0 :: 2 :: rest)
    (hZero : (0 : UInt8) ∈ rest) :
    Decodes input key where
  returns := by
    intro m
    rw [rsaPrivateDecrypt_of_separator hBits hStart hZero,
      hStart]
    constructor
    · intro hReturns
      refine ⟨_, (isBlock_iff_drop hZero).mpr rfl, ?_⟩
      exact (Except.ok.inj hReturns).symm
    · rintro ⟨message, hBlock, hMessage⟩
      rw [hMessage, (isBlock_iff_drop hZero).mp hBlock]
  exits := by
    intro hNoBlock
    exact (hNoBlock ((exists_isBlock_iff _).mpr
      ⟨rest, hStart, hZero⟩)).elim

/-
  Decryption decodes exactly the blocks unless the padding
  of the value has no end, the key has one byte only and the
  value is zero, or the number of bits wraps around.
-/
theorem rsaPrivateDecrypt_decodes_iff
    (input : Nat)
    (key : ExactKey) :
    Decodes input key.val ↔
      key.val.bits + 7 < 2 ^ 32 ∧
        decryptedBlock input key.val ≠ [0] ∧
        ¬ LacksSeparator input key.val := by
  constructor
  · intro hDecodes
    have hBits : key.val.bits + 7 < 2 ^ 32 := by
      by_contra hWrap
      exact not_decodes_of_outOfBounds
        (rsaPrivateDecrypt_of_wrap key.property hWrap)
        hDecodes
    refine ⟨hBits, ?_, ?_⟩
    · intro hSingle
      exact not_decodes_of_outOfBounds
        (rsaPrivateDecrypt_of_single hBits hSingle) hDecodes
    · intro hLacks
      exact not_decodes_of_lacksSeparator hBits hLacks
        hDecodes
  · rintro ⟨hBits, hSingle, hSeparator⟩
    by_cases hStart : ∃ rest,
        decryptedBlock input key.val = 0 :: 2 :: rest
    · rcases hStart with
        ⟨rest, hStart⟩
      have hZero : (0 : UInt8) ∈ rest := by
        by_contra hPadding
        exact hSeparator ⟨rest, hPadding, hStart⟩
      exact decodes_of_separator hBits hStart hZero
    · have hStart' := not_exists.mp hStart
      have hNonempty :
          decryptedBlock input key.val ≠ [] := by
        apply List.ne_nil_of_length_pos
        rw [decryptedBlock, length_mpLinearizeMsbFirst]
        have hPos := key.property.bits_pos
        omega
      exact decodes_of_bad_start
        (rsaPrivateDecrypt_of_bad_start hBits hNonempty
          hSingle hStart') hStart'

end Ssh1

------------------------------------------------------------
-- A Block without a Separator
------------------------------------------------------------

namespace Ssh1

/- A key of 18 bits, for blocks of three bytes. -/
def smallKey : RSAPrivateKey where
  bits := 18
  n := 257 * 521
  e := 3
  d := 5547
  u := 223
  p := 257
  q := 521

theorem smallKey_exact : smallKey.Exact where
  one_lt_p := by decide
  one_lt_q := by decide
  n_eq := rfl
  low := by decide
  high := by decide
  unsigned := by decide

theorem rsaPrivate_smallKey :
    rsaPrivate 12575 smallKey = 682 := by
  decide +kernel

/-
  The value is `00 02 aa`. Its byte `aa` is padding, and the
  whole block is returned.
-/
theorem rsaPrivateDecrypt_returns_padding :
    decryptedBlock 12575 smallKey = [0, 2, 170] ∧
      rsaPrivateDecrypt 12575 smallKey = .ok 682 ∧
      ¬ Decodes 12575 smallKey := by
  have hBlock :
      decryptedBlock 12575 smallKey = [0, 2, 170] := by
    rw [decryptedBlock, rsaPrivate_smallKey]
    rfl
  have hBits : smallKey.bits + 7 < 2 ^ 32 := by decide
  have hLacks : LacksSeparator 12575 smallKey :=
    ⟨[170], by decide, hBlock⟩
  refine ⟨hBlock, ?_,
    not_decodes_of_lacksSeparator hBits hLacks⟩
  rw [rsaPrivateDecrypt_of_lacksSeparator smallKey_exact
    hBits hLacks, rsaPrivate_smallKey]

end Ssh1

------------------------------------------------------------
-- Round Trip
------------------------------------------------------------

namespace Ssh1

open BigEndian Type2Block

/- How many bytes the generator has that can be padding. -/
def nonzeroBytes (state : RandomState) : Nat :=
  (state.filter (· ≠ 0)).length

/- The drawn byte is the first one that is not zero. -/
theorem drawByte_of_pos
    (state : RandomState)
    (hState : 0 < nonzeroBytes state) :
    ∃ byte rest,
      byte ≠ 0 ∧
        drawByte state = .ok (byte, rest) ∧
        nonzeroBytes state = nonzeroBytes rest + 1 := by
  induction state with
  | nil => simp [nonzeroBytes] at hState
  | cons byte state ih =>
      by_cases hByte : byte = 0
      · subst hByte
        have hSkip :
            nonzeroBytes (0 :: state) =
              nonzeroBytes state := by
          simp [nonzeroBytes]
        rw [hSkip] at hState ⊢
        simpa [drawByte] using ih hState
      · exact ⟨byte, state, hByte, by
          simp [drawByte, hByte], by
          simp [nonzeroBytes, hByte]⟩

/-
  The loop appends that many bytes other than zero, if the
  generator goes on to give enough of them.
-/
theorem drawPadding_spec
    (count : Nat)
    (start : List UInt8)
    (state : RandomState)
    (hState : count ≤ nonzeroBytes state) :
    ∃ padding rest,
      padding.length = count ∧
        (0 : UInt8) ∉ padding ∧
        drawPadding count (ofBytes start) state =
          .ok (ofBytes (start ++ padding), rest) ∧
        nonzeroBytes state = nonzeroBytes rest + count := by
  induction count generalizing start state with
  | zero =>
      exact ⟨[], state, rfl, by simp, by
        simp [drawPadding], rfl⟩
  | succ count ih =>
      rcases drawByte_of_pos state (by omega) with
        ⟨byte, state', hByte, hDraw, hLength⟩
      rcases ih (start ++ [byte]) state' (by omega) with
        ⟨padding, rest, hPadding, hZero, hLoop, hRest⟩
      refine ⟨byte :: padding, rest, ?_, ?_, ?_, ?_⟩
      · simp [hPadding]
      · simp [Ne.symm hByte, hZero]
      · have hNext :
            ofBytes start * 2 ^ 8 + byte.toNat =
              ofBytes (start ++ [byte]) :=
          (ofBytes_concat start byte).symm
        simp only [drawPadding, hDraw, FallibleRun.ok_bind,
          hNext, hLoop]
        simp
      · omega

/- The bytes that a number takes. -/
def inputLength (input : Nat) : Nat :=
  (mpzSizeinbase2 input + 7) / 8

/- A number as the message of a block. -/
def inputBytes (input : Nat) : List UInt8 :=
  toBytes (inputLength input) input

@[simp] theorem length_inputBytes
    (input : Nat) :
    (inputBytes input).length = inputLength input :=
  length_toBytes _ _

@[simp] theorem ofBytes_inputBytes
    (input : Nat) :
    ofBytes (inputBytes input) = input := by
  have hPow :
      (256 : Nat) ^ inputLength input =
        2 ^ (8 * inputLength input) := by
    rw [Nat.pow_mul]
  have hLe :
      mpzSizeinbase2 input ≤ 8 * inputLength input := by
    unfold inputLength
    omega
  apply ofBytes_toBytes_of_lt
  rw [hPow]
  exact lt_of_lt_of_le (lt_two_pow_mpzSizeinbase2 input)
    (Nat.pow_le_pow_right (by omega) hLe)

/- The padded number is the value of a block. -/
theorem paddedInput_spec
    {input len : Nat}
    {state : RandomState}
    (hLen : inputLength input + 3 ≤ len)
    (hState :
      len - inputLength input - 3 ≤ nonzeroBytes state) :
    ∃ padding rest,
      (0 : UInt8) ∉ padding ∧
        padding.length = len - inputLength input - 3 ∧
        paddedInput input (inputLength input) len state =
          .ok (ofBytes (block padding (inputBytes input)),
            rest) ∧
        nonzeroBytes state =
          nonzeroBytes rest +
            (len - inputLength input - 3) := by
  rcases drawPadding_spec (len - inputLength input - 3) [2]
      state hState with
    ⟨padding, rest, hPadding, hZero, hLoop, hRest⟩
  refine ⟨padding, rest, hZero, hPadding, ?_, hRest⟩
  have hCount :
      len - inputLength input - 1 - 2 =
        len - inputLength input - 3 := by
    omega
  have hTwo : ofBytes [2] = 2 := rfl
  have hPow : (2 : Nat) ^ (8 * (inputLength input + 1)) =
      256 ^ (inputLength input + 1) := by
    rw [Nat.pow_mul]
  rw [hTwo] at hLoop
  rw [paddedInput, hCount, hLoop, FallibleRun.ok_bind,
    ofBytes_block, length_inputBytes, ofBytes_inputBytes,
    hPow]
  rfl

/- A padded number is smaller than the modulus. -/
theorem ofBytes_block_lt_n
    {prv : RSAPrivateKey}
    {padding message : List UInt8}
    (hKey : prv.Exact)
    (hLength :
      (block padding message).length =
        (prv.bits + 7) / 8) :
    ofBytes (block padding message) < prv.n := by
  have hLt := ofBytes_block_lt padding message
  rw [length_block] at hLength
  -- the first byte of the block is zero
  rw [show padding.length + message.length + 2 =
    (prv.bits + 7) / 8 - 1 by omega] at hLt
  exact lt_of_lt_of_le hLt hKey.pow_le_n

/-
  What encryption returns is the encryption of a block in
  the size of the modulus.
-/
theorem rsaPublicEncrypt_spec
    {prv : RSAPrivateKey}
    {input : Nat}
    {state : RandomState}
    (hBits : prv.bits + 7 < 2 ^ 32)
    (hExponent : 3 ≤ prv.e)
    (hInput :
      inputLength input + 3 ≤ (prv.bits + 7) / 8)
    (hState :
      (prv.bits + 7) / 8 - inputLength input - 3 ≤
        nonzeroBytes state) :
    ∃ padding rest,
      (0 : UInt8) ∉ padding ∧
        (block padding (inputBytes input)).length =
          (prv.bits + 7) / 8 ∧
        paddedInput input (inputLength input)
            ((prv.bits + 7) / 8) state =
          .ok (ofBytes (block padding (inputBytes input)),
            rest) ∧
        rsaPublicEncrypt input prv.publicKey state =
          .ok (rsaPublic
            (ofBytes (block padding (inputBytes input)))
              prv.publicKey, rest) ∧
        nonzeroBytes state =
          nonzeroBytes rest + ((prv.bits + 7) / 8 -
            inputLength input - 3) := by
  rcases paddedInput_spec hInput hState with
    ⟨padding, rest, hZero, hPadding, hPadded, hRest⟩
  have hLen : byteLength prv.publicKey.bits =
      (prv.bits + 7) / 8 :=
    byteLength_of_lt hBits
  have hInputLen : byteLength (mpzSizeinbase2 input) =
      inputLength input := by
    apply byteLength_of_lt
    unfold inputLength at hInput
    omega
  refine ⟨padding, rest, hZero, ?_, hPadded, ?_, hRest⟩
  · rw [length_block, length_inputBytes, hPadding]
    omega
  · have hNoError : ¬ prv.publicKey.e < 3 := by
      simpa [RSAPrivateKey.publicKey] using hExponent
    rw [rsaPublicEncrypt, if_neg hNoError]
    simp only [hLen, hInputLen, ge_iff_le,
      assert_of_true hInput, hPadded, FallibleRun.ok_bind]
    rfl

/- A decrypted block is decoded to its message. -/
theorem rsaPrivateDecrypt_block
    {prv : RSAPrivateKey}
    {input : Nat}
    {padding message : List UInt8}
    (hBits : prv.bits + 7 < 2 ^ 32)
    (hZero : (0 : UInt8) ∉ padding)
    (hLength :
      (block padding message).length = (prv.bits + 7) / 8)
    (hOutput :
      rsaPrivate input prv =
        ofBytes (block padding message)) :
    rsaPrivateDecrypt input prv =
      .ok (ofBytes message) := by
  have hBlock : decryptedBlock input prv =
      0 :: 2 :: (padding ++ 0 :: message) := by
    rw [decryptedBlock, hOutput, ← hLength,
      mpLinearizeMsbFirst_eq_toBytes, toBytes_ofBytes]
    rfl
  have hDecodes : Decodes input prv :=
    decodes_of_separator hBits hBlock (by simp)
  exact (hDecodes.returns _).mpr
    ⟨message, ⟨padding, hZero, hBlock⟩, rfl⟩

/-
  For an exact key pair with a proper exponent, a message
  that leaves room for three bytes and a generator that does
  not stop to give padding, the padded number is smaller
  than the modulus and decryption returns the message.
-/
theorem rsaPrivateDecrypt_rsaPublicEncrypt
    (key : KeyPair)
    (input : Nat)
    (state : RandomState)
    (hExponent : 3 ≤ key.prv.e)
    (hInput :
      inputLength input + 3 ≤ byteLength key.prv.bits)
    (hState :
      byteLength key.prv.bits - inputLength input - 3 ≤
        nonzeroBytes state) :
    ∃ aux rest,
      paddedInput input (inputLength input)
          (byteLength key.prv.bits) state =
        .ok (aux, rest) ∧
      aux < key.prv.n ∧
      rsaPublicEncrypt input key.prv.publicKey state =
        .ok (rsaPublic aux key.prv.publicKey, rest) ∧
      rsaPrivateDecrypt
          (rsaPublic aux key.prv.publicKey) key.prv =
        .ok input := by
  have hBits : key.prv.bits + 7 < 2 ^ 32 :=
    key.exact.fits_of_byteLength_pos (by omega)
  rw [byteLength_of_lt hBits] at hInput hState ⊢
  rcases rsaPublicEncrypt_spec hBits hExponent hInput
      hState with
    ⟨padding, rest, hZero, hLength, hPadded, hEncrypt, _⟩
  have hLt := ofBytes_block_lt_n key.exact hLength
  refine ⟨_, rest, hPadded, hLt, hEncrypt, ?_⟩
  rw [rsaPrivateDecrypt_block hBits hZero hLength
    (key.inverse _ hLt), ofBytes_inputBytes]

/- A key pair with a proper exponent. -/
def mediumKey : KeyPair :=
  .ofPrimes 33 65537 65539 5 (by norm_num) (by norm_num)
    (by decide) (by decide) (by decide) (by decide)
    (by decide) (by decide)

/- A key pair whose two operations do nothing. -/
def unitKey : KeyPair :=
  .ofPrimes 33 65537 65539 1 (by norm_num) (by norm_num)
    (by decide) (by decide) (by decide) (by decide)
    (by decide) (by decide)

theorem rsaPrivateDecrypt_rsaPublicEncrypt_mediumKey :
    ∃ aux rest,
      paddedInput 65 (inputLength 65)
          (byteLength mediumKey.prv.bits) [0, 7] =
        .ok (aux, rest) ∧
      aux < mediumKey.prv.n ∧
      rsaPublicEncrypt 65 mediumKey.prv.publicKey [0, 7] =
        .ok (rsaPublic aux mediumKey.prv.publicKey,
          rest) ∧
      rsaPrivateDecrypt
          (rsaPublic aux mediumKey.prv.publicKey)
          mediumKey.prv =
        .ok 65 :=
  rsaPrivateDecrypt_rsaPublicEncrypt mediumKey 65 [0, 7]
    (by decide) (by decide) (by decide)

/-
  The operations of a key with the exponent one are inverse
  too, but encryption refuses it.
-/
theorem rsaPublicEncrypt_refuses_unitKey :
    inputLength 65 + 3 ≤ byteLength unitKey.prv.bits ∧
      rsaPublicEncrypt 65 unitKey.prv.publicKey [0, 7] =
        .error (.fatal
          "Bad public key, POTENTIAL BREAK-IN ATTEMPT!") := by
  refine ⟨by decide, ?_⟩
  rw [rsaPublicEncrypt, if_pos]
  exact (by decide : 1 < 3)

end Ssh1
