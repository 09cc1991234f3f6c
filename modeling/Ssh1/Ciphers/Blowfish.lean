import Ssh1.Ciphers.Words
import Ssh1.Lib.BlockModes
import Ssh1.Lib.Feistel
import Mathlib

/-
  Blowfish with chained blocks.

  The initial boxes are parameters. Decryption inverts
  encryption for any boxes: the sixteen rounds are a Feistel
  network, with one more word of the P box on either side.

  Main declarations:
    * `BlowfishTables`, `BlowfishContext`, `blowfishSetKey`
    * `blowfishEncrypt`, `blowfishDecrypt`
    * `blowfishDecrypt_blowfishEncrypt`
    * `blowfishCbcEncrypt`, `blowfishCbcDecrypt`
    * `blowfishCbc_inStep`
-/

------------------------------------------------------------
-- Single Blocks
------------------------------------------------------------

namespace Ssh1

/- The constant tables of the implementation. -/
structure BlowfishTables where
  -- `blowfish_pbox`
  pbox : Array Word32
  -- `blowfish_sbox`
  sbox : Array Word32

/- The boxes and the vector. -/
structure BlowfishContext where
  S : Array Word32
  P : Array Word32
  iv : List UInt8
  deriving DecidableEq, Repr

namespace BlowfishContext

/- The macro `bf_F`. -/
def f (context : BlowfishContext) (x : Word32) : Word32 :=
  let s (box : Nat) (byte : Word32) : Word32 :=
    context.S.getD (box * 256 + byte.toNat) 0
  ((s 0 ((x >>> 24) &&& 0xff) + s 1 ((x >>> 16) &&& 0xff)) ^^^
    s 2 ((x >>> 8) &&& 0xff)) + s 3 (x &&& 0xff)

/- The word `P[n]`. -/
def p (context : BlowfishContext) (n : Nat) : Word32 :=
  context.P.getD n 0

/- What the macro `ROUND` adds. -/
def round
    (context : BlowfishContext)
    (n : Nat)
    (x : Word32) : Word32 :=
  context.f x ^^^ context.p n

end BlowfishContext

/- The numbers of the rounds in the order of encryption. -/
def blowfishRounds : List Nat :=
  [1, 2, 3, 4, 5, 6, 7, 8, 9, 10, 11, 12, 13, 14, 15, 16]

/- The internal encipher. -/
def blowfishEncrypt
    (context : BlowfishContext)
    (block : WordBlock) : WordBlock :=
  let (xl, xr) := block
  let yl := xl ^^^ context.p 0
  let (yr, yl) :=
    Feistel.rounds (· ^^^ ·) context.round blowfishRounds
      (xr, yl)
  let yr := yr ^^^ context.p 17
  (yr, yl)

/- The internal decipher. -/
def blowfishDecrypt
    (context : BlowfishContext)
    (block : WordBlock) : WordBlock :=
  let (xl, xr) := block
  let yl := xl ^^^ context.p 17
  let (yr, yl) :=
    Feistel.rounds (· ^^^ ·) context.round
      blowfishRounds.reverse (xr, yl)
  let yr := yr ^^^ context.p 0
  (yr, yl)

/- The rounds backwards undo the rounds. -/
theorem blowfishDecrypt_blowfishEncrypt
    (context : BlowfishContext)
    (block : WordBlock) :
    blowfishDecrypt context
        (blowfishEncrypt context block) =
      block := by
  rcases block with ⟨xl, xr⟩
  have hRounds :=
    Feistel.rounds_reverse xor_cancel_right
      context.round blowfishRounds
      (xr, xl ^^^ context.p 0)
  simp only [Prod.swap] at hRounds
  simp only [blowfishDecrypt, blowfishEncrypt,
    xor_cancel_right, hRounds]

end Ssh1

------------------------------------------------------------
-- Key Schedule
------------------------------------------------------------

namespace Ssh1

/- The value of a length that is passed as a `short`. -/
def toShort (n : Nat) : Int :=
  (((n + 32768) % 65536 : Nat) : Int) - 32768

/- The word that is mixed into the P box at key offset `j`. -/
def blowfishKeyWord
    (key : List UInt8)
    (keybytes j : Nat) : Word32 :=
  let byte (i : Nat) : Word32 := (key.getD i 0).toUInt32
  (byte j <<< 24) |||
    (byte ((j + 1) % keybytes) <<< 16) |||
    (byte ((j + 2) % keybytes) <<< 8) |||
    byte ((j + 3) % keybytes)

/- Mixes the key into the word `P[i]`. -/
def blowfishMixKey
    (key : List UInt8)
    (keybytes : Nat)
    (pj : Array Word32 × Nat)
    (i : Nat) : Array Word32 × Nat :=
  let (P, j) := pj
  (P.setIfInBounds i
      (P.getD i 0 ^^^ blowfishKeyWord key keybytes j),
    (j + 4) % keybytes)

/- Two words of the P box from the block before them. -/
def blowfishFillP
    (cd : BlowfishContext × WordBlock)
    (i : Nat) : BlowfishContext × WordBlock :=
  let (context, data) := cd
  let data := blowfishEncrypt context data
  ({ context with
      P := (context.P.setIfInBounds i data.1).setIfInBounds
        (i + 1) data.2 },
    data)

/- Two words of the S boxes from the block before them. -/
def blowfishFillS
    (cd : BlowfishContext × WordBlock)
    (count : Nat) : BlowfishContext × WordBlock :=
  let (context, data) := cd
  let data := blowfishEncrypt context data
  ({ context with
      S := (context.S.setIfInBounds count
        data.1).setIfInBounds (count + 1) data.2 },
    data)

/-
  Sets the S and P boxes. The length is a `short`; where that
  makes it zero, the remainder by it has no value.
-/
def blowfishSetKey
    (tables : BlowfishTables)
    (key : List UInt8)
    (_forEncryption : Bool) : Outcome BlowfishContext :=
  let keybytes := (toShort key.length).natAbs
  if keybytes = 0 then
    .error .outOfBounds
  else
    let (P, _) :=
      (List.range 18).foldl (blowfishMixKey key keybytes)
        (tables.pbox, 0)
    let context : BlowfishContext :=
      ⟨tables.sbox, P, List.replicate 8 0⟩
    let cd :=
      ((List.range 9).map (2 * ·)).foldl blowfishFillP
        (context, (0, 0))
    let cd :=
      ((List.range 512).map (2 * ·)).foldl blowfishFillS cd
    .ok cd.1

end Ssh1

------------------------------------------------------------
-- Chained Blocks
------------------------------------------------------------

namespace Ssh1

open BlockModes

/- Encrypts with the vector of the context. -/
def blowfishCbcEncrypt
    (ctx : BlowfishContext)
    (src : List UInt8) :
    Outcome (List UInt8 × BlowfishContext) := do
  assert (src.length &&& 7 = 0)
  let (dest, iv) :=
    blockLoop .lsbFirst
      (cbcEncrypt xorBlock (blowfishEncrypt ctx)) ctx.iv src
  return (dest, { ctx with iv })

/- Decrypts with the vector of the context. -/
def blowfishCbcDecrypt
    (ctx : BlowfishContext)
    (src : List UInt8) :
    Outcome (List UInt8 × BlowfishContext) := do
  assert (src.length &&& 7 = 0)
  let (dest, iv) :=
    blockLoop .lsbFirst
      (cbcDecrypt xorBlock (blowfishDecrypt ctx)) ctx.iv src
  return (dest, { ctx with iv })

/- The vector is no part of the key. -/
theorem blowfishEncrypt_setIv
    (ctx : BlowfishContext)
    (iv : List UInt8) :
    blowfishEncrypt { ctx with iv } = blowfishEncrypt ctx := by
  funext block
  have hRound :
      BlowfishContext.round { ctx with iv } = ctx.round :=
    rfl
  simp only [blowfishEncrypt, hRound]
  rfl

/- A block does not depend on the initialisation vector. -/
theorem blowfishDecrypt_setIv
    (ctx : BlowfishContext)
    (iv : List UInt8) :
    blowfishDecrypt { ctx with iv } = blowfishDecrypt ctx := by
  funext block
  have hRound :
      BlowfishContext.round { ctx with iv } = ctx.round :=
    rfl
  simp only [blowfishDecrypt, hRound]
  rfl

/- Both sides keep the same initialisation vector. -/
theorem blowfishCbc_inStep :
    StaysInStep blowfishCbcEncrypt blowfishCbcDecrypt := by
  intro ctx
  have hLoop :=
    blockLoop_inStep
      (cbcDecrypt_inverts xorBlock_cancel
        (blowfishDecrypt_blowfishEncrypt ctx)) .lsbFirst
  let setIv (iv : List UInt8) : BlowfishContext :=
    { ctx with iv }
  refine InStepAt.wrap hLoop setIv ?_ ?_ ctx.iv
  · intro iv src
    simp only [setIv, blowfishCbcEncrypt,
      blowfishEncrypt_setIv,
      bind_assoc, FallibleRun.pure_eq_ok,
      FallibleRun.ok_bind]
  · intro iv src
    simp only [setIv, blowfishCbcDecrypt,
      blowfishDecrypt_setIv,
      bind_assoc, FallibleRun.pure_eq_ok,
      FallibleRun.ok_bind]

theorem blowfishCbcEncrypt_keepsLength :
    KeepsLength blowfishCbcEncrypt := by
  intro ctx src dest ctx' hOk
  refine KeepsLength.wrap
    (blockLoop_keepsLength .lsbFirst
      (cbcEncrypt xorBlock (blowfishEncrypt ctx)))
    (fun iv => { ctx with iv }) ctx.iv ?_ hOk
  simp only [blowfishCbcEncrypt, bind_assoc,
    FallibleRun.pure_eq_ok, FallibleRun.ok_bind]

theorem blowfishCbcDecrypt_keepsLength :
    KeepsLength blowfishCbcDecrypt := by
  intro ctx src dest ctx' hOk
  refine KeepsLength.wrap
    (blockLoop_keepsLength .lsbFirst
      (cbcDecrypt xorBlock (blowfishDecrypt ctx)))
    (fun iv => { ctx with iv }) ctx.iv ?_ hOk
  simp only [blowfishCbcDecrypt, bind_assoc,
    FallibleRun.pure_eq_ok, FallibleRun.ok_bind]

end Ssh1
