import Mathlib.Data.Nat.Basic
import Mathlib.Data.List.Induction
import Mathlib.Tactic.Ring

/-
  Natural numbers written as bytes, most significant first.

  Main declarations:
    * `BigEndian.toBytes`
    * `BigEndian.ofBytes`
    * `BigEndian.ofBytes_toBytes`
    * `BigEndian.toBytes_ofBytes`
    * `BigEndian.toBytes_add`
-/

------------------------------------------------------------
-- Conversions
------------------------------------------------------------

namespace BigEndian

/- The `len` low-order bytes of `v`. -/
def toBytes : Nat → Nat → List UInt8
| 0, _ => []
| len + 1, v => toBytes len (v / 256) ++ [UInt8.ofNat v]

/- The number that the bytes spell. -/
def ofBytes (bs : List UInt8) : Nat :=
  bs.foldl (fun acc b => acc * 256 + b.toNat) 0

@[simp] theorem length_toBytes
    (len v : Nat) :
    (toBytes len v).length = len := by
  induction len generalizing v with
  | zero => rfl
  | succ len ih => simp [toBytes, ih]

@[simp] theorem ofBytes_nil :
    ofBytes [] = 0 := rfl

/- The last byte is the lowest. -/
theorem ofBytes_concat
    (bs : List UInt8)
    (b : UInt8) :
    ofBytes (bs ++ [b]) = ofBytes bs * 256 + b.toNat := by
  simp [ofBytes]

/- The first bytes are higher by the length of the others. -/
theorem ofBytes_append
    (xs ys : List UInt8) :
    ofBytes (xs ++ ys) =
      ofBytes xs * 256 ^ ys.length + ofBytes ys := by
  induction ys using List.reverseRecOn with
  | nil => simp
  | append_singleton ys y ih =>
      rw [← List.append_assoc, ofBytes_concat, ih,
        ofBytes_concat]
      simp only [List.length_append, List.length_singleton,
        pow_succ]
      ring

/- So many bytes give no more than this. -/
theorem ofBytes_lt
    (bs : List UInt8) :
    ofBytes bs < 256 ^ bs.length := by
  induction bs using List.reverseRecOn with
  | nil => simp
  | append_singleton bs b ih =>
      have hByte : b.toNat < 256 := b.toNat_lt
      rw [ofBytes_concat, List.length_append,
        List.length_singleton, pow_succ]
      omega

end BigEndian

------------------------------------------------------------
-- Round Trips
------------------------------------------------------------

namespace BigEndian

/- Reading back `len` bytes keeps the low-order part. -/
theorem ofBytes_toBytes
    (len v : Nat) :
    ofBytes (toBytes len v) = v % 256 ^ len := by
  induction len generalizing v with
  | zero => simp [toBytes, Nat.mod_one]
  | succ len ih =>
      have hByte : (UInt8.ofNat v).toNat = v % 256 := by
        simp
      rw [toBytes, ofBytes_concat, ih, hByte, pow_succ',
        Nat.mod_mul, Nat.mul_comm, Nat.add_comm]

/- A number that fits is read back exactly. -/
theorem ofBytes_toBytes_of_lt
    {len v : Nat}
    (hFits : v < 256 ^ len) :
    ofBytes (toBytes len v) = v := by
  rw [ofBytes_toBytes, Nat.mod_eq_of_lt hFits]

/- Writing back the value of some bytes gives them again. -/
theorem toBytes_ofBytes
    (bs : List UInt8) :
    toBytes bs.length (ofBytes bs) = bs := by
  induction bs using List.reverseRecOn with
  | nil => rfl
  | append_singleton bs b ih =>
      have hByte : b.toNat < 256 := b.toNat_lt
      have hDiv :
          (ofBytes bs * 256 + b.toNat) / 256 =
            ofBytes bs := by
        omega
      have hLast :
          UInt8.ofNat (ofBytes bs * 256 + b.toNat) = b := by
        apply UInt8.toNat_inj.mp
        simp
      rw [List.length_append, List.length_singleton,
        toBytes, ofBytes_concat, hDiv, ih, hLast]

/- The bytes of a number split at any place. -/
theorem toBytes_add
    (m n v : Nat) :
    toBytes (m + n) v =
      toBytes m (v / 256 ^ n) ++ toBytes n v := by
  induction n generalizing v with
  | zero => simp [toBytes]
  | succ n ih =>
      rw [← Nat.add_assoc, toBytes, toBytes, ih,
        List.append_assoc, Nat.div_div_eq_div_mul,
        pow_succ']

/- Only the low-order part of the number is written. -/
theorem toBytes_mod
    (len v : Nat) :
    toBytes len (v % 256 ^ len) = toBytes len v := by
  have hRead := ofBytes_toBytes len v
  have hWrite := toBytes_ofBytes (toBytes len v)
  rw [length_toBytes, hRead] at hWrite
  exact hWrite

end BigEndian
