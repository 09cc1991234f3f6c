import Ssh1.Lib.Transducer

/-
  Modes of operation of a block cipher, as transducers whose
  state is the last ciphertext block.

  Main declarations:
    * `BlockModes.cbcEncrypt`, `BlockModes.cbcDecrypt`
    * `BlockModes.cfbEncrypt`, `BlockModes.cfbDecrypt`
    * `BlockModes.cbcDecrypt_inverts`
    * `BlockModes.cbcEncrypt_inverts`
    * `BlockModes.cfbDecrypt_inverts`
-/

------------------------------------------------------------
-- Modes
------------------------------------------------------------

namespace BlockModes

variable {α : Type}

/- The vector is combined with the block before the cipher. -/
def cbcEncrypt
    (combine : α → α → α)
    (encrypt : α → α)
    (iv block : α) : α × α :=
  let iv := encrypt (combine iv block)
  (iv, iv)

/- The vector is combined with what the cipher gives. -/
def cbcDecrypt
    (combine : α → α → α)
    (decrypt : α → α)
    (iv block : α) : α × α :=
  (combine iv (decrypt block), block)

/- The transformed vector is combined with the block. -/
def cfbEncrypt
    (combine : α → α → α)
    (transform : α → α)
    (iv block : α) : α × α :=
  let iv := combine (transform iv) block
  (iv, iv)

/- The same way back, with the other block as next vector. -/
def cfbDecrypt
    (combine : α → α → α)
    (transform : α → α)
    (iv block : α) : α × α :=
  (combine (transform iv) block, block)

end BlockModes

------------------------------------------------------------
-- Inverses
------------------------------------------------------------

namespace BlockModes

open Transducer

variable {α : Type}
variable {combine : α → α → α}

/- A block chain is undone block by block. -/
theorem cbcDecrypt_inverts
    (hCancel : ∀ a x, combine a (combine a x) = x)
    {encrypt decrypt : α → α}
    (hInverse : ∀ x, decrypt (encrypt x) = x) :
    Inverts (fun _ => True)
      (cbcDecrypt combine decrypt)
      (cbcEncrypt combine encrypt) := by
  intro iv block _
  simp only [cbcDecrypt, cbcEncrypt, hInverse, hCancel]

/- The decrypting mode is a way to encrypt as well. -/
theorem cbcEncrypt_inverts
    (hCancel : ∀ a x, combine a (combine a x) = x)
    {encrypt decrypt : α → α}
    (hInverse : ∀ x, encrypt (decrypt x) = x) :
    Inverts (fun _ => True)
      (cbcEncrypt combine encrypt)
      (cbcDecrypt combine decrypt) := by
  intro iv block _
  simp only [cbcDecrypt, cbcEncrypt, hInverse, hCancel]

/- The feedback needs no inverse of the block cipher. -/
theorem cfbDecrypt_inverts
    (hCancel : ∀ a x, combine a (combine a x) = x)
    (transform : α → α) :
    Inverts (fun _ => True)
      (cfbDecrypt combine transform)
      (cfbEncrypt combine transform) := by
  intro iv block _
  simp only [cfbDecrypt, cfbEncrypt, hCancel]

end BlockModes
