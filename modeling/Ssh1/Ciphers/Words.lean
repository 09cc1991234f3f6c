import Ssh1.Base.Buffer
import Ssh1.Lib.Transducer
import Mathlib.Data.LawfulXor.Basic

/-
  Words of 32 bits in the texts that the ciphers transform.

  A block is two words. The loops of the block ciphers take
  a text block by block, with a vector of two words between
  the blocks that is kept as eight bytes between the calls.

  Main declarations:
    * `WordOrder`, `WordOrder.getBlock`, `WordOrder.putBlock`
    * `blockLoop`
    * `blockLoop_inverts`
    * `blockLoop_append`
    * `InStepAt`, `StaysInStep`
    * `InStepAt.wrap`
    * `blockLoop_inStep`
-/

------------------------------------------------------------
-- Words
------------------------------------------------------------

namespace Ssh1

/- The type `word32`. -/
abbrev Word32 := UInt32

/- The order of the bytes of a word. -/
inductive WordOrder where
  -- `GET_32BIT` and `PUT_32BIT`
  | msbFirst
  -- `GET_32BIT_LSB_FIRST` and `PUT_32BIT_LSB_FIRST`
  | lsbFirst
  deriving DecidableEq, Repr

namespace WordOrder

/- The first four bytes as a word. -/
def get32Bit : WordOrder → List UInt8 → Word32
| .msbFirst, cp =>
    UInt32.ofNat (BigEndian.ofBytes (cp.take 4))
| .lsbFirst, cp =>
    UInt32.ofNat (BigEndian.ofBytes (cp.take 4).reverse)

/- The four bytes of a word. -/
def put32Bit : WordOrder → Word32 → List UInt8
| .msbFirst, value => BigEndian.toBytes 4 value.toNat
| .lsbFirst, value =>
    (BigEndian.toBytes 4 value.toNat).reverse

@[simp] theorem length_put32Bit
    (order : WordOrder)
    (value : Word32) :
    (order.put32Bit value).length = 4 := by
  cases order <;> simp [put32Bit]

/- A stored word is read back. -/
theorem get32Bit_put32Bit
    (order : WordOrder)
    (value : Word32)
    (rest : List UInt8) :
    order.get32Bit (order.put32Bit value ++ rest) =
      value := by
  have hTake :
      (order.put32Bit value ++ rest).take 4 =
        order.put32Bit value := by
    rw [List.take_append_of_le_length (by simp),
      List.take_of_length_le (by simp)]
  have hValue :
      BigEndian.ofBytes (BigEndian.toBytes 4 value.toNat) =
        value.toNat := by
    apply BigEndian.ofBytes_toBytes_of_lt
    have hWord := value.toNat_lt
    omega
  cases order with
  | msbFirst =>
      rw [get32Bit, hTake, put32Bit, hValue,
        UInt32.ofNat_toNat]
  | lsbFirst =>
      rw [get32Bit, hTake, put32Bit, List.reverse_reverse,
        hValue, UInt32.ofNat_toNat]

/- A word of four bytes is stored as these bytes. -/
theorem put32Bit_get32Bit
    (order : WordOrder)
    {cp : List UInt8}
    (hLength : 4 ≤ cp.length) :
    order.put32Bit (order.get32Bit cp) = cp.take 4 := by
  have hFour : (cp.take 4).length = 4 := by
    rw [List.length_take]
    omega
  have hWord :
      ∀ bytes : List UInt8, bytes.length = 4 →
        BigEndian.toBytes 4
            (UInt32.ofNat (BigEndian.ofBytes bytes)).toNat =
          bytes := by
    intro bytes hBytes
    have hBound := BigEndian.ofBytes_lt bytes
    rw [hBytes] at hBound
    have hSame := BigEndian.toBytes_ofBytes bytes
    rw [hBytes] at hSame
    rw [UInt32.toNat_ofNat_of_lt' (by
      simpa [UInt32.size] using hBound)]
    exact hSame
  cases order with
  | msbFirst => exact hWord _ hFour
  | lsbFirst =>
      rw [put32Bit, get32Bit,
        hWord _ (by rw [List.length_reverse, hFour]),
        List.reverse_reverse]

end WordOrder

end Ssh1

------------------------------------------------------------
-- Blocks
------------------------------------------------------------

namespace Ssh1

/- Two words. -/
abbrev WordBlock := Word32 × Word32

/- The bitwise exclusive or of two blocks. -/
def xorBlock (a b : WordBlock) : WordBlock :=
  (a.1 ^^^ b.1, a.2 ^^^ b.2)

theorem xorBlock_cancel
    (a x : WordBlock) :
    xorBlock a (xorBlock a x) = x := by
  exact Prod.ext (xor_cancel_left _ _) (xor_cancel_left _ _)

namespace WordOrder

/- The words at `cp` and at `cp + 4`. -/
def getBlock
    (order : WordOrder)
    (cp : List UInt8) : WordBlock :=
  (order.get32Bit cp, order.get32Bit (cp.drop 4))

/- Stores two words, the first one at the lower address. -/
def putBlock
    (order : WordOrder)
    (block : WordBlock) : List UInt8 :=
  order.put32Bit block.1 ++ order.put32Bit block.2

@[simp] theorem length_putBlock
    (order : WordOrder)
    (block : WordBlock) :
    (order.putBlock block).length = 8 := by
  simp [putBlock]

@[simp] theorem getBlock_putBlock
    (order : WordOrder)
    (block : WordBlock) :
    order.getBlock (order.putBlock block) = block := by
  have hFirst :=
    order.get32Bit_put32Bit block.1 (order.put32Bit block.2)
  have hSecond := order.get32Bit_put32Bit block.2 []
  have hDrop :
      (order.putBlock block).drop 4 =
        order.put32Bit block.2 := by
    rw [putBlock, List.drop_append_of_le_length (by simp),
      List.drop_of_length_le (by simp), List.nil_append]
  rw [List.append_nil] at hSecond
  rw [getBlock, hDrop, hSecond, putBlock, hFirst]

theorem putBlock_getBlock
    (order : WordOrder)
    {cp : List UInt8}
    (hLength : cp.length = 8) :
    order.putBlock (order.getBlock cp) = cp := by
  have hDrop : (cp.drop 4).length = 4 := by
    rw [List.length_drop, hLength]
  rw [putBlock, getBlock,
    order.put32Bit_get32Bit (by omega),
    order.put32Bit_get32Bit (by omega),
    List.take_of_length_le hDrop.le,
    List.take_append_drop]

end WordOrder

end Ssh1

------------------------------------------------------------
-- Loops Over Blocks
------------------------------------------------------------

namespace Ssh1

open Transducer

/-
  The loop of the block ciphers: `iv0` and `iv1` are loaded
  from the eight bytes of the vector, every block of the
  source is read, transformed and written, and the vector is
  stored again.
-/
def blockLoop
    (order : WordOrder)
    (step : WordBlock → WordBlock → WordBlock × WordBlock)
    (iv src : List UInt8) : List UInt8 × List UInt8 :=
  let text :=
    (blocks 8 (src.length / 8) src).map order.getBlock
  let (dest, iv) := run step (order.getBlock iv) text
  ((dest.map order.putBlock).flatten, order.putBlock iv)

variable {order : WordOrder}
variable {step : WordBlock → WordBlock → WordBlock × WordBlock}

/- The bytes of some blocks are eight for each of them. -/
theorem length_putBlocks
    (order : WordOrder)
    (text : List WordBlock) :
    (text.map order.putBlock).flatten.length =
      text.length * 8 := by
  have hAll :
      ∀ b ∈ text.map order.putBlock, b.length = 8 := by
    intro b hb
    rcases List.mem_map.mp hb with ⟨block, -, rfl⟩
    exact order.length_putBlock block
  rw [length_flatten_of_forall hAll, List.length_map]

/- The loop leaves out what is not a whole block. -/
theorem length_blockLoop_whole
    (iv src : List UInt8) :
    (blockLoop order step iv src).1.length =
      src.length / 8 * 8 := by
  simp only [blockLoop]
  rw [length_putBlocks, length_run, List.length_map,
    length_blocks]

theorem length_blockLoop
    (iv : List UInt8)
    {src : List UInt8}
    (hBlocks : src.length % 8 = 0) :
    (blockLoop order step iv src).1.length = src.length := by
  rw [length_blockLoop_whole]
  omega

/- The words that are read from a stored text. -/
theorem blocks_putBlocks
    (order : WordOrder)
    (text : List WordBlock) :
    (blocks 8 ((text.map order.putBlock).flatten.length / 8)
        (text.map order.putBlock).flatten).map
          order.getBlock =
      text := by
  have hAll :
      ∀ b ∈ text.map order.putBlock, b.length = 8 := by
    intro b hb
    rcases List.mem_map.mp hb with ⟨block, -, rfl⟩
    exact order.length_putBlock block
  have hCount :
      (text.map order.putBlock).flatten.length / 8 =
        (text.map order.putBlock).length := by
    rw [length_putBlocks, List.length_map]
    omega
  rw [hCount, blocks_flatten hAll, List.map_map]
  conv => rhs; rw [← List.map_id text]
  apply List.map_congr_left
  intro block _
  exact order.getBlock_putBlock block

/- The words of a text, stored again, are the text. -/
theorem putBlocks_blocks
    (order : WordOrder)
    {src : List UInt8}
    (hBlocks : src.length % 8 = 0) :
    (((blocks 8 (src.length / 8) src).map
        order.getBlock).map order.putBlock).flatten =
      src := by
  have hLength : src.length = src.length / 8 * 8 := by
    omega
  have hSame :
      ((blocks 8 (src.length / 8) src).map
          order.getBlock).map order.putBlock =
        blocks 8 (src.length / 8) src := by
    rw [List.map_map]
    conv => rhs; rw [← List.map_id (blocks 8 _ src)]
    apply List.map_congr_left
    intro block hBlock
    exact order.putBlock_getBlock
      (length_of_mem_blocks hLength hBlock)
  rw [hSame, flatten_blocks hLength]

/-
  Where the steps are inverse, the loops are, and they leave
  the same vector behind.
-/
theorem blockLoop_inverts
    {decrypt encrypt :
      WordBlock → WordBlock → WordBlock × WordBlock}
    (hInverts :
      Inverts (fun _ => True) decrypt encrypt)
    (iv : List UInt8)
    {src : List UInt8}
    (hBlocks : src.length % 8 = 0) :
    blockLoop order decrypt iv
        (blockLoop order encrypt iv src).1 =
      (src, (blockLoop order encrypt iv src).2) := by
  have hAll :
      ∀ x ∈ (blocks 8 (src.length / 8) src).map
        order.getBlock, True :=
    fun _ _ => trivial
  have hRun :=
    run_inverts hInverts (order.getBlock iv) hAll
  simp only [blockLoop, blocks_putBlocks, hRun,
    putBlocks_blocks order hBlocks]

/- The vector carries the loop over from text to text. -/
theorem blockLoop_append
    (iv : List UInt8)
    {src : List UInt8}
    (hBlocks : src.length % 8 = 0)
    (rest : List UInt8) :
    blockLoop order step iv (src ++ rest) =
      ((blockLoop order step iv src).1 ++
          (blockLoop order step
            (blockLoop order step iv src).2 rest).1,
        (blockLoop order step
          (blockLoop order step iv src).2 rest).2) := by
  have hCount :
      (src ++ rest).length / 8 =
        src.length / 8 + rest.length / 8 := by
    rw [List.length_append]
    omega
  have hLength : src.length = src.length / 8 * 8 := by
    omega
  simp only [blockLoop]
  rw [hCount, blocks_append _ hLength, List.map_append,
    run_append]
  simp

end Ssh1

------------------------------------------------------------
-- Transformations In Step
------------------------------------------------------------

namespace Ssh1

variable {σ : Type}

/- Transforms a text and updates the state of the cipher. -/
abbrev TextTransform (σ : Type) :=
  σ → List UInt8 → Outcome (List UInt8 × σ)

/-
  On texts of whole blocks `decrypt` gives back what `encrypt`
  has transformed from the same state, both end in the same
  state, and a text may be encrypted in several calls.
-/
structure InStepAt
    (encrypt decrypt : TextTransform σ)
    (u : σ) : Prop where
  inverts :
    ∀ src : List UInt8, src.length % 8 = 0 →
      ∃ dest u',
        encrypt u src = .ok (dest, u') ∧
          dest.length = src.length ∧
          decrypt u dest = .ok (src, u')
  splits :
    ∀ src rest : List UInt8,
      src.length % 8 = 0 → rest.length % 8 = 0 →
      encrypt u (src ++ rest) = do
        let (dest, u) ← encrypt u src
        let (dest', u) ← encrypt u rest
        return (dest ++ dest', u)

/- The same from every state. -/
def StaysInStep
    (encrypt decrypt : TextTransform σ) : Prop :=
  ∀ u : σ, InStepAt encrypt decrypt u

/- The assertion of the block ciphers on whole blocks. -/
theorem assert_whole
    {n : Nat}
    (hBlocks : n % 8 = 0) :
    assert (n &&& 7 = 0) = .ok () := by
  apply assert_of_true
  rw [Nat.and_two_pow_sub_one_eq_mod n 3]
  exact hBlocks

/- What is in step shows on texts of whole blocks only. -/
theorem StaysInStep.congr
    {encrypt decrypt encrypt' decrypt' : TextTransform σ}
    (hInStep : StaysInStep encrypt decrypt)
    (hEncrypt :
      ∀ u src, src.length % 8 = 0 →
        encrypt' u src = encrypt u src)
    (hDecrypt :
      ∀ u src, src.length % 8 = 0 →
        decrypt' u src = decrypt u src) :
    StaysInStep encrypt' decrypt' := by
  intro u
  constructor
  · intro src hBlocks
    rcases (hInStep u).inverts src hBlocks with
      ⟨dest, u', hTo, hLength, hBack⟩
    refine ⟨dest, u', ?_, hLength, ?_⟩
    · rw [hEncrypt u src hBlocks, hTo]
    · rw [hDecrypt u dest (by omega), hBack]
  · intro src rest hSrc hRest
    have hWhole : (src ++ rest).length % 8 = 0 := by
      rw [List.length_append]
      omega
    rw [hEncrypt u _ hWhole,
      (hInStep u).splits src rest hSrc hRest,
      hEncrypt u src hSrc]
    apply bind_congr
    rintro ⟨dest, u'⟩
    simp only [hEncrypt u' rest hRest]

/-
  The state of a transformation as a part of a larger one,
  the rest of which stays as it is.
-/
theorem InStepAt.wrap
    {τ : Type}
    {encrypt decrypt : TextTransform τ}
    {encrypt' decrypt' : TextTransform σ}
    (hInStep : StaysInStep encrypt decrypt)
    (wrap : τ → σ)
    (hEncrypt :
      ∀ t src, encrypt' (wrap t) src = do
        let (dest, t) ← encrypt t src
        return (dest, wrap t))
    (hDecrypt :
      ∀ t src, decrypt' (wrap t) src = do
        let (dest, t) ← decrypt t src
        return (dest, wrap t))
    (t : τ) :
    InStepAt encrypt' decrypt' (wrap t) := by
  constructor
  · intro src hBlocks
    rcases (hInStep t).inverts src hBlocks with
      ⟨dest, t', hTo, hLength, hBack⟩
    refine ⟨dest, wrap t', ?_, hLength, ?_⟩
    · simp only [hEncrypt, hTo, FallibleRun.ok_bind,
        FallibleRun.pure_eq_ok]
    · simp only [hDecrypt, hBack, FallibleRun.ok_bind,
        FallibleRun.pure_eq_ok]
  · intro src rest hSrc hRest
    rcases (hInStep t).inverts src hSrc with
      ⟨dest, t', hTo, -, -⟩
    rcases (hInStep t').inverts rest hRest with
      ⟨dest', t'', hMore, -, -⟩
    have hSplit := (hInStep t).splits src rest hSrc hRest
    simp only [hTo, hMore, FallibleRun.ok_bind,
      FallibleRun.pure_eq_ok] at hSplit
    simp only [hEncrypt, hSplit, hTo, hMore,
      FallibleRun.ok_bind, FallibleRun.pure_eq_ok]

/- Loops over inverse steps are in step. -/
theorem blockLoop_inStep
    {decrypt encrypt :
      WordBlock → WordBlock → WordBlock × WordBlock}
    (hInverts :
      Transducer.Inverts (fun _ => True) decrypt encrypt)
    (order : WordOrder) :
    StaysInStep
      (fun iv src => do
        assert (src.length &&& 7 = 0)
        return blockLoop order encrypt iv src)
      (fun iv src => do
        assert (src.length &&& 7 = 0)
        return blockLoop order decrypt iv src) := by
  intro iv
  constructor
  · intro src hBlocks
    have hLength :
        (blockLoop order encrypt iv src).1.length =
          src.length :=
      length_blockLoop iv hBlocks
    refine ⟨(blockLoop order encrypt iv src).1,
      (blockLoop order encrypt iv src).2, ?_, hLength, ?_⟩
    · simp [assert_whole hBlocks]
    · simp only [hLength, assert_whole hBlocks,
        FallibleRun.ok_bind, FallibleRun.pure_eq_ok,
        blockLoop_inverts hInverts iv hBlocks]
  · intro src rest hSrc hRest
    have hWhole : (src ++ rest).length % 8 = 0 := by
      rw [List.length_append]
      omega
    simp only [assert_whole hSrc, assert_whole hRest,
      assert_whole hWhole, FallibleRun.ok_bind,
      FallibleRun.pure_eq_ok, blockLoop_append iv hSrc rest]

end Ssh1

------------------------------------------------------------
-- Lengths
------------------------------------------------------------

namespace Ssh1

variable {σ : Type}

/- The transformed text is as long as the text. -/
def KeepsLength (transform : TextTransform σ) : Prop :=
  ∀ u src dest u',
    transform u src = .ok (dest, u') →
      dest.length = src.length

/- The state as a part of a larger one. -/
theorem KeepsLength.wrap
    {τ : Type}
    {transform : TextTransform τ}
    {transform' : List UInt8 → Outcome (List UInt8 × σ)}
    (hKeeps : KeepsLength transform)
    (wrap : τ → σ)
    (t : τ)
    {src dest : List UInt8}
    {u' : σ}
    (hTransform :
      transform' src = do
        let (dest, t) ← transform t src
        return (dest, wrap t))
    (hOk : transform' src = .ok (dest, u')) :
    dest.length = src.length := by
  rw [hTransform] at hOk
  rcases FallibleRun.bind_eq_ok_iff.mp hOk with
    ⟨⟨dest', t'⟩, hInner, hRest⟩
  cases hRest
  exact hKeeps t src _ t' hInner

theorem blockLoop_keepsLength
    (order : WordOrder)
    (step : WordBlock → WordBlock → WordBlock × WordBlock) :
    KeepsLength fun iv src => do
      assert (src.length &&& 7 = 0)
      return blockLoop order step iv src := by
  intro iv src dest iv' hOk
  rcases FallibleRun.bind_eq_ok_iff.mp hOk with
    ⟨u, hAssert, hRest⟩
  have hMask := assert_eq_ok_iff.mp hAssert
  rw [Nat.and_two_pow_sub_one_eq_mod src.length 3] at hMask
  have hLength :
      (blockLoop order step iv src).1.length = src.length :=
    length_blockLoop iv hMask
  rw [Except.ok.inj hRest] at hLength
  exact hLength

end Ssh1
