import Ssh1.Ciphers.Words
import Ssh1.Lib.BlockModes

/-
  IDEA in CFB mode.

  Decryption runs the transform of the block cipher in the
  same direction as encryption does, so nothing is asked of
  the transform.

  Main declarations:
    * `IdeaContext`, `ideaSetKey`
    * `ideaTransform`
    * `ideaCfbEncrypt`, `ideaCfbDecrypt`
    * `ideaCfb_inStep`
-/

------------------------------------------------------------
-- Key Schedule
------------------------------------------------------------

namespace Ssh1

/- The 52 words of the key schedule. -/
structure IdeaContext where
  keySchedule : List UInt16
  deriving DecidableEq, Repr

/-
  Appends key number `i`. It is taken from the eight keys
  before those that it belongs to.
-/
def ideaNextKey
    (keys : List UInt16)
    (i : Nat) : List UInt16 :=
  let before := i / 8 * 8 - 8
  keys ++
    [(keys.getD (before + (i + 1) % 8) 0 <<< 9) |||
      (keys.getD (before + (i + 2) % 8) 0 >>> 7)]

/- Sets the IDEA key for encryption. -/
def ideaSetKey (key : List UInt8) : IdeaContext :=
  let first := (List.range 8).map fun i =>
    UInt16.ofNat (get16Bit (key.drop (2 * i)))
  ⟨(List.range' 8 44).foldl ideaNextKey first⟩

end Ssh1

------------------------------------------------------------
-- Single Blocks
------------------------------------------------------------

namespace Ssh1

/-
  The product modulo 65537, where zero stands for 65536. Only
  the lower 16 bits count.
-/
def mulop (a b : Word32) : Word32 :=
  let ab := a * b
  if ab ≠ 0 then
    let lo := ab &&& 0xffff
    let hi := (ab >>> 16) &&& 0xffff
    (lo - hi) + (if lo < hi then 1 else 0)
  else if a = 0 then
    1 - b
  else
    1 - a

/- The words `x1` to `x4`. -/
structure IdeaWords where
  x1 : Word32
  x2 : Word32
  x3 : Word32
  x4 : Word32
  deriving DecidableEq, Repr

namespace IdeaContext

/- The word `keys[i]` of the schedule. -/
def key (c : IdeaContext) (i : Nat) : Word32 :=
  (c.keySchedule.getD i 0).toUInt32

/- One of the eight rounds, with `keys` as the offset. -/
def round
    (c : IdeaContext)
    (keys : Nat)
    (x : IdeaWords) : IdeaWords :=
  let x1 := mulop (x.x1 &&& 0xffff) (c.key keys)
  let x3 := x.x3 + c.key (keys + 2)
  let x4 := mulop (x.x4 &&& 0xffff) (c.key (keys + 3))
  let x2 := x.x2 + c.key (keys + 1)
  let t1 := x1 ^^^ x3
  let t2 := x2 ^^^ x4
  let t1 := mulop (t1 &&& 0xffff) (c.key (keys + 4))
  let t2 := t1 + t2
  let t2 := mulop (t2 &&& 0xffff) (c.key (keys + 5))
  let t1 := t1 + t2
  let x1 := x1 ^^^ t2
  let x4 := x4 ^^^ t1
  let t1 := t1 ^^^ x2
  let x2 := t2 ^^^ x3
  ⟨x1, x2, t1, x4⟩

end IdeaContext

/- Performs the IDEA transform on a block of data. -/
def ideaTransform
    (c : IdeaContext)
    (block : WordBlock) : WordBlock :=
  let x : IdeaWords :=
    ⟨block.1 >>> 16, block.1, block.2 >>> 16, block.2⟩
  let x := [0, 6, 12, 18, 24, 30, 36, 42].foldl
    (fun x keys => c.round keys x) x
  let x1 := mulop (x.x1 &&& 0xffff) (c.key 48)
  let x3 := (x.x2 + c.key 50) &&& 0xffff
  let x2 := x.x3 + c.key 49
  let x4 := mulop (x.x4 &&& 0xffff) (c.key 51)
  ((x1 <<< 16) ||| (x2 &&& 0xffff),
    (x3 <<< 16) ||| (x4 &&& 0xffff))

end Ssh1

------------------------------------------------------------
-- Cipher Feedback
------------------------------------------------------------

namespace Ssh1

open BlockModes

/-
  The loop of the CFB mode. A last block that is not whole is
  transformed with whatever follows it, zeros here, and only
  its own bytes are written.
-/
def ideaCfbLoop
    (step : WordBlock → WordBlock → WordBlock × WordBlock)
    (iv src : List UInt8) : List UInt8 × List UInt8 :=
  let (dest, iv) := blockLoop .msbFirst step iv src
  let tail := src.drop (src.length / 8 * 8)
  if tail = [] then
    (dest, iv)
  else
    let padded := tail ++ List.replicate (8 - tail.length) 0
    let (last, iv) :=
      step (WordOrder.msbFirst.getBlock iv)
        (WordOrder.msbFirst.getBlock padded)
    (dest ++ (WordOrder.msbFirst.putBlock last).take
        tail.length,
      WordOrder.msbFirst.putBlock iv)

/- Encrypts the text, and returns the vector after it. -/
def ideaCfbEncrypt
    (c : IdeaContext)
    (iv src : List UInt8) :
    Outcome (List UInt8 × List UInt8) :=
  return ideaCfbLoop (cfbEncrypt xorBlock (ideaTransform c))
    iv src

/- Decrypts the text, and returns the vector after it. -/
def ideaCfbDecrypt
    (c : IdeaContext)
    (iv src : List UInt8) :
    Outcome (List UInt8 × List UInt8) :=
  return ideaCfbLoop (cfbDecrypt xorBlock (ideaTransform c))
    iv src

/- Each byte of the input gives one of the output. -/
theorem length_ideaCfbLoop
    (step : WordBlock → WordBlock → WordBlock × WordBlock)
    (iv src : List UInt8) :
    (ideaCfbLoop step iv src).1.length = src.length := by
  have hWhole :
      (blockLoop .msbFirst step iv src).1.length =
        src.length / 8 * 8 :=
    length_blockLoop_whole iv src
  have hDrop :
      (src.drop (src.length / 8 * 8)).length =
        src.length - src.length / 8 * 8 :=
    List.length_drop
  simp only [ideaCfbLoop]
  split
  · rename_i hTail
    rw [hTail, List.length_nil] at hDrop
    rw [hWhole]
    omega
  · simp only [List.length_append, List.length_take,
      WordOrder.length_putBlock, hWhole]
    omega

/- Without a last part the loop is over whole blocks only. -/
theorem ideaCfbLoop_of_blocks
    {step : WordBlock → WordBlock → WordBlock × WordBlock}
    {iv src : List UInt8}
    (hBlocks : src.length % 8 = 0) :
    ideaCfbLoop step iv src =
      blockLoop .msbFirst step iv src := by
  have hTail : src.drop (src.length / 8 * 8) = [] := by
    apply List.drop_of_length_le
    omega
  simp only [ideaCfbLoop, hTail, if_true]

/- Both sides feed the same cipher text back. -/
theorem ideaCfb_inStep
    (c : IdeaContext) :
    StaysInStep (ideaCfbEncrypt c) (ideaCfbDecrypt c) := by
  have hLoop :=
    blockLoop_inStep
      (cfbDecrypt_inverts xorBlock_cancel (ideaTransform c))
      .msbFirst
  apply hLoop.congr
  · intro iv src hBlocks
    simp only [ideaCfbEncrypt, assert_whole hBlocks,
      ideaCfbLoop_of_blocks hBlocks, FallibleRun.ok_bind]
  · intro iv src hBlocks
    simp only [ideaCfbDecrypt, assert_whole hBlocks,
      ideaCfbLoop_of_blocks hBlocks, FallibleRun.ok_bind]

theorem ideaCfbEncrypt_keepsLength
    (c : IdeaContext) :
    KeepsLength (ideaCfbEncrypt c) := by
  intro iv src dest iv' hOk
  have hLength :=
    length_ideaCfbLoop
      (cfbEncrypt xorBlock (ideaTransform c)) iv src
  rw [Except.ok.inj hOk] at hLength
  exact hLength

theorem ideaCfbDecrypt_keepsLength
    (c : IdeaContext) :
    KeepsLength (ideaCfbDecrypt c) := by
  intro iv src dest iv' hOk
  have hLength :=
    length_ideaCfbLoop
      (cfbDecrypt xorBlock (ideaTransform c)) iv src
  rw [Except.ok.inj hOk] at hLength
  exact hLength

end Ssh1
