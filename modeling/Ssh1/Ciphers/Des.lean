import Ssh1.Base.Halt
import Ssh1.Ciphers.Words
import Ssh1.Lib.BlockModes
import Ssh1.Lib.Feistel
import Mathlib

/-
  DES and triple DES with chained blocks.

  The two tables of the source are parameters: decryption
  inverts encryption whatever they hold, because the rounds
  are a Feistel network between two permutations of bits that
  undo each other.

  Main declarations:
    * `DesTables`, `DesContext`, `desSetKey`
    * `desEncrypt`
    * `desEncrypt_inverts`
    * `desCbcEncrypt`, `desCbcDecrypt`
    * `des3cbcEncrypt`, `des3cbcDecrypt`
    * `desCbc_inStep`
    * `des3cbc_inStep`
-/

------------------------------------------------------------
-- Bit Permutations
------------------------------------------------------------

namespace Ssh1

/- The macro `PERM_OP`, which returns `a` and `b`. -/
def permOp
    (n m : Word32)
    (a b : Word32) : Word32 × Word32 :=
  let t := ((a >>> n) ^^^ b) &&& m
  (a ^^^ (t <<< n), b ^^^ t)

/- The macro `IP`. -/
def initialPermutation (l r : Word32) : Word32 × Word32 :=
  let (r, l) := permOp 4 0x0f0f0f0f r l
  let (l, r) := permOp 16 0x0000ffff l r
  let (r, l) := permOp 2 0x33333333 r l
  let (l, r) := permOp 8 0x00ff00ff l r
  let (r, l) := permOp 1 0x55555555 r l
  (l, r)

/- The macro `FP`. -/
def finalPermutation (l r : Word32) : Word32 × Word32 :=
  let (l, r) := permOp 1 0x55555555 l r
  let (r, l) := permOp 8 0x00ff00ff r l
  let (l, r) := permOp 2 0x33333333 l r
  let (r, l) := permOp 16 0x0000ffff r l
  let (l, r) := permOp 4 0x0f0f0f0f l r
  (l, r)

/- A word that is shifted out of nowhere is shifted back. -/
theorem shiftLeft_shiftRight_of_lt
    {t n : Word32}
    (hn : n.toNat < 32)
    (hFits : t.toNat * 2 ^ n.toNat < 2 ^ 32) :
    (t <<< n) >>> n = t := by
  apply UInt32.toNat_inj.mp
  have hShift : n.toNat % 32 = n.toNat := Nat.mod_eq_of_lt hn
  rw [UInt32.toNat_shiftRight, UInt32.toNat_shiftLeft,
    hShift, Nat.shiftLeft_eq, Nat.mod_eq_of_lt hFits,
    Nat.shiftRight_eq_div_pow,
    Nat.mul_div_cancel _ (Nat.two_pow_pos _)]

/-
  The exchange of bits is its own inverse where the mask
  leaves out the bits that the shift would lose.
-/
theorem permOp_permOp
    {n m : Word32}
    (hn : n.toNat < 32)
    (hMask : m.toNat * 2 ^ n.toNat < 2 ^ 32)
    (a b : Word32) :
    permOp n m (permOp n m a b).1 (permOp n m a b).2 =
      (a, b) := by
  have hBack :
      ∀ x : Word32, ((x &&& m) <<< n) >>> n = x &&& m := by
    intro x
    apply shiftLeft_shiftRight_of_lt hn
    have hLess : (x &&& m).toNat ≤ m.toNat := by
      rw [UInt32.toNat_and]
      exact Nat.and_le_right
    exact lt_of_le_of_lt (Nat.mul_le_mul_right _ hLess) hMask
  have hSame :
      (((a ^^^ ((((a >>> n) ^^^ b) &&& m) <<< n)) >>> n) ^^^
          (b ^^^ (((a >>> n) ^^^ b) &&& m))) &&& m =
        ((a >>> n) ^^^ b) &&& m := by
    rw [UInt32.shiftRight_xor, hBack]
    generalize hMasked : ((a >>> n) ^^^ b) &&& m = t
    have hCancel :
        (a >>> n ^^^ t) ^^^ (b ^^^ t) = a >>> n ^^^ b := by
      rw [UInt32.xor_assoc, UInt32.xor_comm b t,
        xor_cancel_left]
    rw [hCancel, hMasked]
  simp only [permOp, hSame, xor_cancel_right]

/- The final permutation takes the initial one back. -/
theorem finalPermutation_initialPermutation
    (l r : Word32) :
    finalPermutation (initialPermutation l r).2
        (initialPermutation l r).1 =
      (r, l) := by
  simp only [initialPermutation, finalPermutation]
  rw [permOp_permOp (by decide) (by decide),
    permOp_permOp (by decide) (by decide),
    permOp_permOp (by decide) (by decide),
    permOp_permOp (by decide) (by decide),
    permOp_permOp (by decide) (by decide)]

/- The initial permutation takes the final one back. -/
theorem initialPermutation_finalPermutation
    (l r : Word32) :
    initialPermutation (finalPermutation r l).2
        (finalPermutation r l).1 =
      (l, r) := by
  simp only [initialPermutation, finalPermutation]
  rw [permOp_permOp (by decide) (by decide),
    permOp_permOp (by decide) (by decide),
    permOp_permOp (by decide) (by decide),
    permOp_permOp (by decide) (by decide),
    permOp_permOp (by decide) (by decide)]

/- One bit to the left, `(x << 1) | (x >> 31)`. -/
def rotateLeft1 (x : Word32) : Word32 :=
  (x <<< 1) ||| (x >>> 31)

/- One bit to the right, `(x >> 1) | (x << 31)`. -/
def rotateRight1 (x : Word32) : Word32 :=
  (x >>> 1) ||| (x <<< 31)

/- Turning back undoes the turn. -/
theorem rotateRight1_rotateLeft1
    (x : Word32) :
    rotateRight1 (rotateLeft1 x) = x := by
  apply UInt32.toBitVec_inj.mp
  apply BitVec.eq_of_getLsbD_eq
  intro i hi
  by_cases hTop : i = 31
  · subst hTop
    simp [rotateRight1, rotateLeft1]
  · have hLow : 1 + i < 32 := by omega
    have hOut : x.toBitVec.getLsbD (31 + (1 + i)) = false :=
      BitVec.getLsbD_of_ge _ _ (by omega)
    have hBelow : i < 31 := by omega
    simp [rotateRight1, rotateLeft1, hLow, hOut, hBelow,
      BitVec.getLsbD_eq_getElem hi]

theorem rotateLeft1_rotateRight1
    (x : Word32) :
    rotateLeft1 (rotateRight1 x) = x := by
  apply UInt32.toBitVec_inj.mp
  apply BitVec.eq_of_getLsbD_eq
  intro i hi
  by_cases hLow : i = 0
  · subst hLow
    simp [rotateRight1, rotateLeft1]
  · have hPos : 1 + (i - 1) = i := by omega
    have hBelow : ¬ i < 1 := by omega
    have hSmall : i - 1 < 31 := by omega
    have hOut :
        x.toBitVec.getLsbD (1 + (31 + i)) = false :=
      BitVec.getLsbD_of_ge _ _ (by omega)
    have hAbove : ¬ 31 + i < 32 := by omega
    simp [rotateRight1, rotateLeft1, hPos, hBelow, hSmall,
      hOut, hAbove, hi]

end Ssh1

------------------------------------------------------------
-- Key Schedule
------------------------------------------------------------

namespace Ssh1

/- The constant tables of the implementation. -/
structure DesTables where
  -- `des_skb`, by table and by six bits
  skb : Nat → Word32 → Word32
  -- `des_SPtrans`, by table and by six bits
  spTrans : Nat → Word32 → Word32

/- The 32 words of the key schedule. -/
structure DesContext where
  keySchedule : List Word32
  deriving DecidableEq, Repr

/- The macro `HPERM_OP` with `n` equal to `-2`. -/
def hpermOp (m : Word32) (a : Word32) : Word32 :=
  let t := ((a <<< 18) ^^^ a) &&& m
  a ^^^ t ^^^ (t >>> 18)

/- The bits `(x >> n) & m`. -/
def shiftAnd (x n m : Word32) : Word32 :=
  (x >>> n) &&& m

/- The two words that one round of the schedule stores. -/
def desRoundKeys
    (tables : DesTables)
    (c d : Word32) : List Word32 :=
  let s :=
    tables.skb 0 (c &&& 0x3f) |||
    tables.skb 1 (shiftAnd c 6 0x03 ||| shiftAnd c 7 0x3c) |||
    tables.skb 2
      (shiftAnd c 13 0x0f ||| shiftAnd c 14 0x30) |||
    tables.skb 3
      (shiftAnd c 20 0x01 ||| shiftAnd c 21 0x06 |||
        shiftAnd c 22 0x38)
  let t :=
    tables.skb 4 (d &&& 0x3f) |||
    tables.skb 5 (shiftAnd d 7 0x03 ||| shiftAnd d 8 0x3c) |||
    tables.skb 6 (shiftAnd d 15 0x3f) |||
    tables.skb 7
      (shiftAnd d 21 0x0f ||| shiftAnd d 22 0x30)
  let first := (t <<< 16) ||| (s &&& 0xffff)
  let s := (s >>> 16) ||| (t &&& 0xffff0000)
  [first, (s <<< 4) ||| (s >>> 28)]

/-
  The loop over the sixteen rounds. The low bit of `shifts`
  says by how much the two halves are rotated.
-/
def desScheduleLoop
    (tables : DesTables) :
    Nat → Word32 → Word32 → Word32 → List Word32
| 0, _, _, _ => []
| rounds + 1, shifts, c, d =>
    let rotate (x : Word32) : Word32 :=
      if shifts &&& 1 ≠ 0 then
        ((x >>> 2) ||| (x <<< 26)) &&& 0x0fffffff
      else
        ((x >>> 1) ||| (x <<< 27)) &&& 0x0fffffff
    desRoundKeys tables (rotate c) (rotate d) ++
      desScheduleLoop tables rounds (shifts >>> 1)
        (rotate c) (rotate d)

/- Sets the DES key of the context. -/
def desSetKey
    (tables : DesTables)
    (key : List UInt8) : DesContext :=
  let (c, d) := WordOrder.lsbFirst.getBlock key
  let (d, c) := permOp 4 0x0f0f0f0f d c
  let c := hpermOp 0xcccc0000 c
  let d := hpermOp 0xcccc0000 d
  let (d, c) := permOp 1 0x55555555 d c
  let (c, d) := permOp 8 0x00ff00ff c d
  let (d, c) := permOp 1 0x55555555 d c
  let d :=
    ((d &&& 0xff) <<< 16) ||| (d &&& 0xff00) |||
      shiftAnd d 16 0xff ||| shiftAnd c 4 0xf000000
  let c := c &&& 0x0fffffff
  ⟨desScheduleLoop tables 16 0x7efc c d⟩

end Ssh1

------------------------------------------------------------
-- Single Blocks
------------------------------------------------------------

namespace Ssh1

/- What the macro `D_ENCRYPT` adds, with `S` as the index. -/
def desRound
    (tables : DesTables)
    (ks : DesContext)
    (S : Nat)
    (R : Word32) : Word32 :=
  let u := R ^^^ ks.keySchedule.getD S 0
  let t := R ^^^ ks.keySchedule.getD (S + 1) 0
  let t := (t >>> 4) + (t <<< 28)
  tables.spTrans 1 (t &&& 0x3f) |||
    tables.spTrans 3 (shiftAnd t 8 0x3f) |||
    tables.spTrans 5 (shiftAnd t 16 0x3f) |||
    tables.spTrans 7 (shiftAnd t 24 0x3f) |||
    tables.spTrans 0 (u &&& 0x3f) |||
    tables.spTrans 2 (shiftAnd u 8 0x3f) |||
    tables.spTrans 4 (shiftAnd u 16 0x3f) |||
    tables.spTrans 6 (shiftAnd u 24 0x3f)

/- The indices of the rounds: upwards, or back down. -/
def desRoundIndices (encrypt : Bool) : List Nat :=
  if encrypt then
    [0, 2, 4, 6, 8, 10, 12, 14,
      16, 18, 20, 22, 24, 26, 28, 30]
  else
    [30, 28, 26, 24, 22, 20, 18, 16,
      14, 12, 10, 8, 6, 4, 2, 0]

/-
  Encrypts one block, or decrypts it. Every second round
  changes the other word, as the halves of a Feistel network
  do when they swap.
-/
def desEncrypt
    (tables : DesTables)
    (ks : DesContext)
    (encrypt : Bool)
    (block : WordBlock) : WordBlock :=
  let (l, r) := initialPermutation block.1 block.2
  let (l, r) := (rotateLeft1 r, rotateLeft1 l)
  let (l, r) :=
    Feistel.rounds (· ^^^ ·) (desRound tables ks)
      (desRoundIndices encrypt) (l, r)
  let (l, r) := (rotateRight1 l, rotateRight1 r)
  let (r, l) := finalPermutation r l
  (l, r)

/- The one direction takes the indices of the other back. -/
theorem desRoundIndices_reverse
    (encrypt : Bool) :
    (desRoundIndices encrypt).reverse =
      desRoundIndices (!encrypt) := by
  cases encrypt <;> rfl

/- Each direction inverts the other under the same key. -/
theorem desEncrypt_inverts
    (tables : DesTables)
    (ks : DesContext)
    (encrypt : Bool)
    (block : WordBlock) :
    desEncrypt tables ks (!encrypt)
        (desEncrypt tables ks encrypt block) =
      block := by
  rcases block with ⟨l, r⟩
  have hRounds :=
    Feistel.rounds_reverse xor_cancel_right
      (desRound tables ks) (desRoundIndices encrypt)
      (rotateLeft1 (initialPermutation l r).2,
        rotateLeft1 (initialPermutation l r).1)
  rw [desRoundIndices_reverse] at hRounds
  simp only [Prod.swap] at hRounds
  simp only [desEncrypt, initialPermutation_finalPermutation,
    rotateLeft1_rotateRight1, hRounds,
    rotateRight1_rotateLeft1,
    finalPermutation_initialPermutation]

end Ssh1

------------------------------------------------------------
-- Chained Blocks
------------------------------------------------------------

namespace Ssh1

open BlockModes

variable (tables : DesTables)

/- The step of `des_cbc_encrypt` on one block. -/
def desCbcEncryptStep
    (ks : DesContext) :
    WordBlock → WordBlock → WordBlock × WordBlock :=
  cbcEncrypt xorBlock (desEncrypt tables ks true)

/- The step of `des_cbc_decrypt` on one block. -/
def desCbcDecryptStep
    (ks : DesContext) :
    WordBlock → WordBlock → WordBlock × WordBlock :=
  cbcDecrypt xorBlock (desEncrypt tables ks false)

/- Encrypts the text, and returns the vector after it. -/
def desCbcEncrypt
    (ks : DesContext)
    (iv src : List UInt8) :
    Outcome (List UInt8 × List UInt8) := do
  assert (src.length &&& 7 = 0)
  return blockLoop .lsbFirst (desCbcEncryptStep tables ks)
    iv src

/- Decrypts the text, and returns the vector after it. -/
def desCbcDecrypt
    (ks : DesContext)
    (iv src : List UInt8) :
    Outcome (List UInt8 × List UInt8) := do
  assert (src.length &&& 7 = 0)
  return blockLoop .lsbFirst (desCbcDecryptStep tables ks)
    iv src

/- The three keys and vectors of triple DES. -/
structure Des3State where
  key1 : DesContext
  iv1 : List UInt8
  key2 : DesContext
  iv2 : List UInt8
  key3 : DesContext
  iv3 : List UInt8
  deriving DecidableEq, Repr

/- Encrypts in CBC mode using triple DES. -/
def des3cbcEncrypt
    (u : Des3State)
    (src : List UInt8) :
    Outcome (List UInt8 × Des3State) := do
  let (dest, iv1) ← desCbcEncrypt tables u.key1 u.iv1 src
  let (dest, iv2) ← desCbcDecrypt tables u.key2 u.iv2 dest
  let (dest, iv3) ← desCbcEncrypt tables u.key3 u.iv3 dest
  return (dest, { u with iv1, iv2, iv3 })

/- Decrypts in CBC mode using triple DES. -/
def des3cbcDecrypt
    (u : Des3State)
    (src : List UInt8) :
    Outcome (List UInt8 × Des3State) := do
  let (dest, iv3) ← desCbcDecrypt tables u.key3 u.iv3 src
  let (dest, iv2) ← desCbcEncrypt tables u.key2 u.iv2 dest
  let (dest, iv1) ← desCbcDecrypt tables u.key1 u.iv1 dest
  return (dest, { u with iv1, iv2, iv3 })

end Ssh1

------------------------------------------------------------
-- Streams In Step
------------------------------------------------------------

namespace Ssh1

open BlockModes

variable (tables : DesTables)

/- Both sides keep the same initialisation vector. -/
theorem desCbc_inStep
    (ks : DesContext) :
    StaysInStep (desCbcEncrypt tables ks)
      (desCbcDecrypt tables ks) :=
  blockLoop_inStep
    (cbcDecrypt_inverts xorBlock_cancel
      (desEncrypt_inverts tables ks true)) .lsbFirst

/- The middle key of triple DES encrypts by decrypting. -/
theorem desCbc_inStep_reverse
    (ks : DesContext) :
    StaysInStep (desCbcDecrypt tables ks)
      (desCbcEncrypt tables ks) :=
  blockLoop_inStep
    (cbcEncrypt_inverts xorBlock_cancel
      (desEncrypt_inverts tables ks false)) .lsbFirst

/-
  Decryption goes through the three layers in reverse order,
  and each vector meets the text that it met before.
-/
theorem des3cbc_inverts
    (u : Des3State)
    (src : List UInt8)
    (hBlocks : src.length % 8 = 0) :
    ∃ dest u',
      des3cbcEncrypt tables u src = .ok (dest, u') ∧
        dest.length = src.length ∧
        des3cbcDecrypt tables u dest = .ok (src, u') := by
  rcases (desCbc_inStep tables u.key1 u.iv1).inverts src
      hBlocks with
    ⟨dest1, iv1, hTo1, hLength1, hBack1⟩
  rcases (desCbc_inStep_reverse tables u.key2
      u.iv2).inverts dest1 (by omega) with
    ⟨dest2, iv2, hTo2, hLength2, hBack2⟩
  rcases (desCbc_inStep tables u.key3 u.iv3).inverts dest2
      (by omega) with
    ⟨dest3, iv3, hTo3, hLength3, hBack3⟩
  refine ⟨dest3, { u with iv1, iv2, iv3 }, ?_, by omega, ?_⟩
  · simp only [des3cbcEncrypt, hTo1, hTo2, hTo3,
      FallibleRun.ok_bind, FallibleRun.pure_eq_ok]
  · simp only [des3cbcDecrypt, hBack1, hBack2, hBack3,
      FallibleRun.ok_bind, FallibleRun.pure_eq_ok]

/- A split text passes each of the layers in two parts. -/
theorem des3cbc_splits
    (u : Des3State)
    (src rest : List UInt8)
    (hSrc : src.length % 8 = 0)
    (hRest : rest.length % 8 = 0) :
    des3cbcEncrypt tables u (src ++ rest) = do
      let (dest, u) ← des3cbcEncrypt tables u src
      let (dest', u) ← des3cbcEncrypt tables u rest
      return (dest ++ dest', u) := by
  have hStep1 := desCbc_inStep tables u.key1
  have hStep2 := desCbc_inStep_reverse tables u.key2
  have hStep3 := desCbc_inStep tables u.key3
  rcases (hStep1 u.iv1).inverts src hSrc with
    ⟨dest1, iv1, hTo1, hLength1, -⟩
  rcases (hStep2 u.iv2).inverts dest1 (by omega) with
    ⟨dest2, iv2, hTo2, hLength2, -⟩
  rcases (hStep3 u.iv3).inverts dest2 (by omega) with
    ⟨dest3, iv3, hTo3, hLength3, -⟩
  rcases (hStep1 iv1).inverts rest hRest with
    ⟨rest1, iv1', hRest1, hMore1, -⟩
  rcases (hStep2 iv2).inverts rest1 (by omega) with
    ⟨rest2, iv2', hRest2, hMore2, -⟩
  rcases (hStep3 iv3).inverts rest2 (by omega) with
    ⟨rest3, iv3', hRest3, hMore3, -⟩
  have hSplit1 := (hStep1 u.iv1).splits src rest hSrc hRest
  have hSplit2 := (hStep2 u.iv2).splits dest1 rest1
    (by omega) (by omega)
  have hSplit3 := (hStep3 u.iv3).splits dest2 rest2
    (by omega) (by omega)
  simp only [hTo1, hRest1, FallibleRun.ok_bind,
    FallibleRun.pure_eq_ok] at hSplit1
  simp only [hTo2, hRest2, FallibleRun.ok_bind,
    FallibleRun.pure_eq_ok] at hSplit2
  simp only [hTo3, hRest3, FallibleRun.ok_bind,
    FallibleRun.pure_eq_ok] at hSplit3
  simp only [des3cbcEncrypt, hTo1, hTo2, hTo3, hRest1,
    hRest2, hRest3, hSplit1, hSplit2, hSplit3,
    FallibleRun.ok_bind, FallibleRun.pure_eq_ok]

/- So it is for the three chains in a row. -/
theorem des3cbc_inStep :
    StaysInStep (des3cbcEncrypt tables)
      (des3cbcDecrypt tables) :=
  fun u => ⟨des3cbc_inverts tables u, des3cbc_splits tables u⟩

theorem des3cbcEncrypt_keepsLength :
    KeepsLength (des3cbcEncrypt tables) := by
  intro u src dest u' hOk
  rcases FallibleRun.bind_eq_ok_iff.mp hOk with
    ⟨⟨dest1, iv1⟩, hFirst, hOk⟩
  rcases FallibleRun.bind_eq_ok_iff.mp hOk with
    ⟨⟨dest2, iv2⟩, hSecond, hOk⟩
  rcases FallibleRun.bind_eq_ok_iff.mp hOk with
    ⟨⟨dest3, iv3⟩, hThird, hOk⟩
  cases hOk
  rw [blockLoop_keepsLength _ _ _ _ _ _ hThird,
    blockLoop_keepsLength _ _ _ _ _ _ hSecond,
    blockLoop_keepsLength _ _ _ _ _ _ hFirst]

theorem des3cbcDecrypt_keepsLength :
    KeepsLength (des3cbcDecrypt tables) := by
  intro u src dest u' hOk
  rcases FallibleRun.bind_eq_ok_iff.mp hOk with
    ⟨⟨dest3, iv3⟩, hFirst, hOk⟩
  rcases FallibleRun.bind_eq_ok_iff.mp hOk with
    ⟨⟨dest2, iv2⟩, hSecond, hOk⟩
  rcases FallibleRun.bind_eq_ok_iff.mp hOk with
    ⟨⟨dest1, iv1⟩, hThird, hOk⟩
  cases hOk
  rw [blockLoop_keepsLength _ _ _ _ _ _ hThird,
    blockLoop_keepsLength _ _ _ _ _ _ hSecond,
    blockLoop_keepsLength _ _ _ _ _ _ hFirst]

end Ssh1
