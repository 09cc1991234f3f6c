import Ssh1.Ciphers.Words

/-
  Arcfour.

  The key stream depends on the context only, so the same
  bytes are taken back by which they were changed, and the
  position in the stream goes on from call to call.

  Main declarations:
    * `ArcfourContext`, `arcfourInit`
    * `arcfourByte`
    * `arcfourEncrypt`, `arcfourDecrypt`
    * `arcfour_inStep`
-/

------------------------------------------------------------
-- Key Stream
------------------------------------------------------------

namespace Ssh1

/- The permutation and the two positions in it. -/
structure ArcfourContext where
  x : Nat
  y : Nat
  state : Array UInt8
  deriving DecidableEq, Repr

/- The variables of the loop that mixes the key in. -/
structure ArcfourKeying where
  state : Array UInt8
  keyindex : Nat
  stateindex : Nat

/- Mixes the next byte of the key in, for one `counter`. -/
def ArcfourKeying.step
    (key : List UInt8)
    (k : ArcfourKeying)
    (counter : Nat) : ArcfourKeying :=
  let t := k.state.getD counter 0
  let stateindex :=
    (k.stateindex + (key.getD k.keyindex 0).toNat +
      t.toNat) % 256
  let u := k.state.getD stateindex 0
  let keyindex :=
    if k.keyindex + 1 ≥ key.length then 0 else k.keyindex + 1
  ⟨(k.state.setIfInBounds stateindex t).setIfInBounds
      counter u,
    keyindex, stateindex⟩

/- Initializes the context and sets the key. -/
def arcfourInit
    (key : List UInt8) : Outcome ArcfourContext := do
  assert (key.length > 0)
  let state := ((List.range 256).map UInt8.ofNat).toArray
  let keyed :=
    (List.range 256).foldl (ArcfourKeying.step key)
      ⟨state, 0, 0⟩
  return ⟨0, 0, keyed.state⟩

/- Returns the next byte of the key stream. -/
def arcfourByte
    (ctx : ArcfourContext) : UInt8 × ArcfourContext :=
  let x := (ctx.x + 1) % 256
  let sx := ctx.state.getD x 0
  let y := (sx.toNat + ctx.y) % 256
  let sy := ctx.state.getD y 0
  let state :=
    (ctx.state.setIfInBounds y sx).setIfInBounds x sy
  (state.getD ((sx.toNat + sy.toNat) % 256) 0,
    ⟨x, y, state⟩)

end Ssh1

------------------------------------------------------------
-- Texts
------------------------------------------------------------

namespace Ssh1

open Transducer

/- One byte of the text. -/
def arcfourStep
    (ctx : ArcfourContext)
    (src : UInt8) : UInt8 × ArcfourContext :=
  (src ^^^ (arcfourByte ctx).1, (arcfourByte ctx).2)

/- Encrypts data. -/
def arcfourEncrypt
    (ctx : ArcfourContext)
    (src : List UInt8) :
    Outcome (List UInt8 × ArcfourContext) :=
  return run arcfourStep ctx src

/- Decrypts data. -/
def arcfourDecrypt
    (ctx : ArcfourContext)
    (src : List UInt8) :
    Outcome (List UInt8 × ArcfourContext) :=
  arcfourEncrypt ctx src

/- A byte that is combined twice is gone. -/
theorem xor_byte_cancel
    (a x : UInt8) :
    (a ^^^ x) ^^^ x = a := by
  rw [UInt8.xor_assoc, UInt8.xor_self, UInt8.xor_zero]

/- Both sides draw the same key stream. -/
theorem arcfour_inStep :
    StaysInStep arcfourEncrypt arcfourDecrypt := by
  intro ctx
  constructor
  · intro src _
    have hInverse :=
      run_inverts (selfInverse xor_byte_cancel arcfourByte)
        ctx (fun x (_ : x ∈ src) => trivial)
    exact ⟨(run arcfourStep ctx src).1,
      (run arcfourStep ctx src).2, rfl, length_run _ _ _,
      congrArg Except.ok hInverse⟩
  · intro src rest _ _
    simp only [arcfourEncrypt, run_append,
      FallibleRun.pure_eq_ok, FallibleRun.ok_bind]

theorem arcfourEncrypt_keepsLength :
    KeepsLength arcfourEncrypt := by
  intro ctx src dest ctx' hOk
  have hLength := length_run arcfourStep ctx src
  rw [Except.ok.inj hOk] at hLength
  exact hLength

end Ssh1
