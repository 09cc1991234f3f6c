import Ssh1.Base.MpInt
import Ssh1.Base.Unsigned
import Ssh1.Rsa.SessionId

/-
  Big integers written to memory and read from it.

  The writer goes down from the end of the memory, the reader
  up from its start, both by words of 32 bits and then by
  single bytes. The index of the reader is an `unsigned int`,
  and its bound is tested with four added to it.

  Main declarations:
    * `InMemory.mpLinearizeMsbFirst`
    * `InMemory.mpUnlinearizeMsbFirst`
    * `LinearisersInverse`
    * `linearisersInverse_iff`
-/

------------------------------------------------------------
-- Conversions in Memory
------------------------------------------------------------

namespace Ssh1

namespace InMemory

/- The loop over the single bytes in front. -/
def linearizeBytes
    (buf : Nat) :
    (i aux : Nat) → List UInt8 → Outcome (List UInt8)
| 0, _, mem => .ok mem
| i + 1, aux, mem => do
    let mem ←
      writeAt mem (buf + i) [UInt8.ofNat (mpzGetUi aux)]
    linearizeBytes buf i (aux / 2 ^ 8) mem

/- `mp_linearize_msb_first` from the index `i` downwards -/
def mpLinearizeMsbFirst
    (buf : Nat) :
    (i aux : Nat) → List UInt8 → Outcome (List UInt8)
| i + 4, aux, mem => do
    let limb := mpzGetUi aux
    let mem ← writeAt mem (buf + i) (put32Bit limb)
    mpLinearizeMsbFirst buf i (aux / 2 ^ 32) mem
| i, aux, mem => linearizeBytes buf i aux mem

/- The loop over the words, with the index it ends at. -/
def unlinearizeWords
    (mem : List UInt8)
    (buf len : Nat) :
    (fuel i value : Nat) → Outcome (Nat × Nat)
| 0, _, _ => .error .diverges
| fuel + 1, i, value =>
    if u32 (i + 4) ≤ len then do
      let cp ←
        MemoryBlock.load Halt.outOfBounds mem (buf + i) 4
      unlinearizeWords mem buf len fuel (u32 (i + 4))
        (value * 2 ^ 32 + get32Bit cp)
    else
      .ok (i, value)

/- The loop over the bytes that are left. -/
def unlinearizeBytes
    (mem : List UInt8)
    (buf : Nat) :
    (count i value : Nat) → Outcome Nat
| 0, _, value => .ok value
| count + 1, i, value => do
    let cp ←
      MemoryBlock.load Halt.outOfBounds mem (buf + i) 1
    unlinearizeBytes mem buf count (i + 1)
      (value * 2 ^ 8 + BigEndian.ofBytes cp)

/-
  `mp_unlinearize_msb_first`. A loop over the words that ends
  takes fewer turns than there are bytes, or just one.
-/
def mpUnlinearizeMsbFirst
    (mem : List UInt8)
    (buf len : Nat) : Outcome Nat := do
  let (i, value) ←
    unlinearizeWords mem buf len (len + 1) 0 0
  unlinearizeBytes mem buf (len - i) i value

end InMemory

end Ssh1

------------------------------------------------------------
-- The Writer
------------------------------------------------------------

namespace Ssh1

open BigEndian MemoryBlock

/- The low byte of a number is that of its low limb. -/
theorem ofNat_mpzGetUi
    (value : Nat) :
    UInt8.ofNat (mpzGetUi value) = UInt8.ofNat value := by
  apply UInt8.toNat_inj.mp
  simp only [UInt8.toNat_ofNat', mpzGetUi]
  omega

/- So are the low four bytes. -/
theorem put32Bit_mpzGetUi
    (value : Nat) :
    put32Bit (mpzGetUi value) = put32Bit (value % 2 ^ 32) := by
  have hWord :
      mpzGetUi value % 256 ^ 4 = value % 2 ^ 32 := by
    rw [mpzGetUi]
    omega
  rw [put32Bit, ← toBytes_mod, hWord, put32Bit]

namespace InMemory

theorem linearizeBytes_eq
    {buf i aux : Nat}
    {mem : List UInt8}
    (hFits : buf + i ≤ mem.length) :
    linearizeBytes buf i aux mem =
      .ok (patch mem buf (toBytes i aux)) := by
  induction i generalizing aux mem with
  | zero =>
      have hSelf := patch_self hFits
      rw [List.take_zero] at hSelf
      rw [linearizeBytes, toBytes, hSelf]
  | succ i ih =>
      have hByte :
          buf + i + [UInt8.ofNat (mpzGetUi aux)].length ≤
            mem.length := hFits
      rw [linearizeBytes, writeAt, store_of_le hByte,
        FallibleRun.ok_bind, ih, ofNat_mpzGetUi,
        patch_patch (length_toBytes i _) hFits]
      · rfl
      · rw [length_patch hByte]
        omega

/- The writer stores the low bytes and nothing else. -/
theorem mpLinearizeMsbFirst_eq
    {buf len value : Nat}
    {mem : List UInt8}
    (hFits : buf + len ≤ mem.length) :
    mpLinearizeMsbFirst buf len value mem =
      .ok (patch mem buf (toBytes len value)) := by
  induction len, value, mem using
      mpLinearizeMsbFirst.induct with
  | case1 i aux mem ih =>
      have hWord :
          buf + i + (put32Bit (mpzGetUi aux)).length ≤
            mem.length := by
        rw [length_put32Bit]
        omega
      have hBytes :
          put32Bit (mpzGetUi aux) = toBytes 4 aux := by
        rw [put32Bit_mpzGetUi, put32Bit]
        exact toBytes_mod 4 aux
      rw [mpLinearizeMsbFirst, writeAt, store_of_le hWord,
        FallibleRun.ok_bind, ih]
      · rw [patch_patch (length_toBytes i _) hWord, hBytes,
          show i.succ.succ.succ.succ = i + 4 from rfl,
          toBytes_add]
        rfl
      · rw [length_patch hWord]
        omega
  | case2 i aux mem hShort =>
      rw [mpLinearizeMsbFirst, linearizeBytes_eq hFits]
      exact hShort

end InMemory

end Ssh1

------------------------------------------------------------
-- The Reader
------------------------------------------------------------

namespace Ssh1

open BigEndian MemoryBlock

namespace InMemory

variable {mem : List UInt8}
variable {buf len : Nat}

/- The bytes that a reader is given. -/
def bytesAt
    (mem : List UInt8)
    (buf len : Nat) : List UInt8 :=
  (mem.drop buf).take len

theorem length_bytesAt
    (hFits : buf + len ≤ mem.length) :
    (bytesAt mem buf len).length = len := by
  rw [bytesAt, List.length_take, List.length_drop]
  omega

/- A front of the bytes and some that follow it. -/
theorem bytesAt_add
    (mem : List UInt8)
    (buf i n : Nat) :
    bytesAt mem buf (i + n) =
      bytesAt mem buf i ++ bytesAt mem (buf + i) n := by
  rw [bytesAt, List.take_add, List.drop_drop]
  rfl

/- The value of a front and of the bytes that follow it. -/
theorem ofBytes_bytesAt_add
    {i n : Nat}
    (hFits : buf + i + n ≤ mem.length) :
    ofBytes (bytesAt mem buf (i + n)) =
      ofBytes (bytesAt mem buf i) * 256 ^ n +
        ofBytes (bytesAt mem (buf + i) n) := by
  rw [bytesAt_add, ofBytes_append, length_bytesAt hFits]

theorem unlinearizeBytes_eq
    {count i : Nat}
    (hFits : buf + i + count ≤ mem.length) :
    unlinearizeBytes mem buf count i
        (ofBytes (bytesAt mem buf i)) =
      .ok (ofBytes (bytesAt mem buf (i + count))) := by
  induction count generalizing i with
  | zero => rfl
  | succ count ih =>
      have hByte : buf + i + 1 ≤ mem.length := by omega
      have hNext := ofBytes_bytesAt_add hByte
      rw [unlinearizeBytes, load_of_le hByte,
        FallibleRun.ok_bind,
        show (2 : Nat) ^ 8 = 256 ^ 1 from rfl]
      rw [show (mem.drop (buf + i)).take 1 =
        bytesAt mem (buf + i) 1 from rfl, ← hNext,
        ih (by omega), Nat.add_right_comm, Nat.add_assoc]

/- The words are read as far as they are whole. -/
theorem unlinearizeWords_eq
    {fuel i : Nat}
    (hFits : buf + len ≤ mem.length)
    (hLen : len + 4 < 2 ^ 32)
    (hIndex : i ≤ len)
    (hFuel : len < i + 4 * fuel) :
    ∃ i', i' ≤ len ∧
      unlinearizeWords mem buf len fuel i
          (ofBytes (bytesAt mem buf i)) =
        .ok (i', ofBytes (bytesAt mem buf i')) := by
  induction fuel generalizing i with
  | zero => omega
  | succ fuel ih =>
      have hNoWrap : u32 (i + 4) = i + 4 :=
        u32_of_lt (by omega)
      rw [unlinearizeWords, hNoWrap]
      by_cases hWhole : i + 4 ≤ len
      · have hWord : buf + i + 4 ≤ mem.length := by omega
        have hNext := ofBytes_bytesAt_add hWord
        have hValue :
            get32Bit ((mem.drop (buf + i)).take 4) =
              ofBytes (bytesAt mem (buf + i) 4) := by
          rw [get32Bit, List.take_take]
          rfl
        rw [if_pos hWhole, load_of_le hWord,
          FallibleRun.ok_bind, hValue,
          show (2 : Nat) ^ 32 = 256 ^ 4 from rfl, ← hNext]
        exact ih hWhole (by omega)
      · rw [if_neg hWhole]
        exact ⟨i, hIndex, rfl⟩

/- Of a length that can be counted past all is read. -/
theorem mpUnlinearizeMsbFirst_eq
    (hFits : buf + len ≤ mem.length)
    (hLen : len + 4 < 2 ^ 32) :
    mpUnlinearizeMsbFirst mem buf len =
      .ok (ofBytes (bytesAt mem buf len)) := by
  have hStart : ofBytes (bytesAt mem buf 0) = 0 := by
    rw [bytesAt, List.take_zero, ofBytes_nil]
  have hEnough : len < 0 + 4 * (len + 1) := by omega
  rcases unlinearizeWords_eq hFits hLen (Nat.zero_le len)
      hEnough with
    ⟨i', hLe, hWords⟩
  rw [hStart] at hWords
  rw [mpUnlinearizeMsbFirst, hWords, FallibleRun.ok_bind]
  have hBytes :
      unlinearizeBytes mem buf (len - i') i'
          (ofBytes (bytesAt mem buf i')) =
        .ok (ofBytes (bytesAt mem buf (i' + (len - i')))) :=
    unlinearizeBytes_eq (by omega)
  rw [Nat.add_sub_cancel' hLe] at hBytes
  exact hBytes

/-
  Of the four largest lengths the bound is never exceeded: the
  index wraps around to zero. The loop leaves the memory, or
  it goes on for ever.
-/
theorem unlinearizeWords_fails
    {fuel i : Nat}
    (value : Nat)
    (hLen : 2 ^ 32 ≤ len + 4)
    (hIndex : i % 4 = 0) :
    ∃ halt,
      unlinearizeWords mem buf len fuel i value =
        .error halt := by
  induction fuel generalizing i value with
  | zero => exact ⟨_, rfl⟩
  | succ fuel ih =>
      have hNext : u32 (i + 4) % 4 = 0 := by
        rw [u32]
        omega
      have hInside : u32 (i + 4) ≤ len := by
        have hWord := u32_lt (i + 4)
        omega
      rw [unlinearizeWords, if_pos hInside]
      cases hLoad :
          MemoryBlock.load Halt.outOfBounds mem (buf + i)
            4 with
      | error halt => exact ⟨halt, rfl⟩
      | ok cp => exact ih _ hNext

theorem mpUnlinearizeMsbFirst_fails
    (mem : List UInt8)
    (buf : Nat)
    (hLen : 2 ^ 32 ≤ len + 4) :
    ∃ halt,
      mpUnlinearizeMsbFirst mem buf len = .error halt := by
  have hFails :
      ∃ halt,
        unlinearizeWords mem buf len (len + 1) 0 0 =
          .error halt :=
    unlinearizeWords_fails 0 hLen rfl
  rcases hFails with ⟨halt, hWords⟩
  refine ⟨halt, ?_⟩
  rw [mpUnlinearizeMsbFirst, hWords]
  rfl

end InMemory

end Ssh1

------------------------------------------------------------
-- Inverses
------------------------------------------------------------

namespace Ssh1

open BigEndian MemoryBlock

/-
  The writer stores just the low bytes, the reader finds their
  value, and what was read is written back as it was.
-/
structure LinearisersInverse (len : Nat) : Prop where
  writes : ∀ mem buf value,
    buf + len ≤ mem.length →
      InMemory.mpLinearizeMsbFirst buf len value mem =
        .ok (patch mem buf (toBytes len value))
  reads : ∀ mem buf value,
    buf + len ≤ mem.length →
      (InMemory.mpLinearizeMsbFirst buf len value mem >>=
          fun mem =>
            InMemory.mpUnlinearizeMsbFirst mem buf len) =
        .ok (value % 256 ^ len)
  writes_back : ∀ mem buf,
    buf + len ≤ mem.length →
      (InMemory.mpUnlinearizeMsbFirst mem buf len >>=
          fun value =>
            InMemory.mpLinearizeMsbFirst buf len value mem) =
        .ok mem

/- Of the four largest lengths not even zero is read back. -/
theorem not_linearisersInverse
    {len : Nat}
    (hLen : 2 ^ 32 ≤ len + 4) :
    ¬ LinearisersInverse len := by
  intro hInverse
  have hFits :
      0 + len ≤ (List.replicate len (0 : UInt8)).length := by
    rw [List.length_replicate, Nat.zero_add]
  have hBack := hInverse.writes_back (List.replicate len 0) 0
    hFits
  rcases InMemory.mpUnlinearizeMsbFirst_fails
      (List.replicate len 0) 0 hLen with
    ⟨halt, hFails⟩
  rw [hFails] at hBack
  cases hBack

/- Exactly below these lengths the two are inverse. -/
theorem linearisersInverse_iff
    (len : UInt32) :
    LinearisersInverse len.toNat ↔
      len.toNat < 2 ^ 32 - 4 := by
  constructor
  · intro hInverse
    by_contra hLong
    exact not_linearisersInverse (by omega) hInverse
  · intro hShort
    have hLen : len.toNat + 4 < 2 ^ 32 := by omega
    exact {
      writes := fun mem buf value hFits =>
        InMemory.mpLinearizeMsbFirst_eq hFits
      reads := by
        intro mem buf value hFits
        have hData :
            buf + (toBytes len.toNat value).length ≤
              mem.length := by
          rw [length_toBytes]
          exact hFits
        have hRead := take_drop_patch hData
        rw [length_toBytes] at hRead
        rw [InMemory.mpLinearizeMsbFirst_eq hFits,
          FallibleRun.ok_bind,
          InMemory.mpUnlinearizeMsbFirst_eq
            (by rwa [length_patch hData]) hLen,
          InMemory.bytesAt, hRead, ofBytes_toBytes]
      writes_back := by
        intro mem buf hFits
        have hBytes := toBytes_ofBytes
          (InMemory.bytesAt mem buf len.toNat)
        rw [InMemory.length_bytesAt hFits] at hBytes
        rw [InMemory.mpUnlinearizeMsbFirst_eq hFits hLen,
          FallibleRun.ok_bind,
          InMemory.mpLinearizeMsbFirst_eq hFits, hBytes,
          InMemory.bytesAt, patch_self hFits] }

theorem linearisersInverse_not_longest :
    ¬ LinearisersInverse 4294967292 :=
  not_linearisersInverse (by decide)

end Ssh1
