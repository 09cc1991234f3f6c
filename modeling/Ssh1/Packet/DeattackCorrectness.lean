import Ssh1.Lib.LinearProbing
import Ssh1.Packet.Deattack
import Mathlib.Data.Nat.Bitwise

/-
  What the attack detector detects.

  The patterns of up to eight blocks never cancel out in the
  CRC, so that a short packet is never suspicious. For longer
  packets the hash table is well probed and holds just the
  IV and the blocks so far.

  Main results:
    * `checkCrc_short`
    * `ScanInv.step`
    * `hashScan_detected_iff`
    * `detectAttack_eq_detected_iff`
-/

------------------------------------------------------------
-- Short Patterns
------------------------------------------------------------

namespace Ssh1

/-
  No pattern of up to that many further blocks brings the
  CRC back to zero.
-/
def survives
    (order : ByteOrder) : Nat → UInt32 → Bool
| 0, crc => crc != 0
| k + 1, crc =>
    crc != 0 &&
      survives order k (crcPattern order crc false) &&
      survives order k (crcPattern order crc true)

theorem foldl_ne_zero_of_survives
    {order : ByteOrder}
    {k : Nat}
    {crc : UInt32}
    {flags : List Bool}
    (hSurvives : survives order k crc = true)
    (hLength : flags.length ≤ k) :
    flags.foldl (crcPattern order) crc ≠ 0 := by
  induction flags generalizing k crc with
  | nil =>
      cases k with
      | zero => simpa [survives] using hSurvives
      | succ k =>
          simp only [survives, Bool.and_eq_true,
            bne_iff_ne] at hSurvives
          exact hSurvives.1.1
  | cons flag flags ih =>
      cases k with
      | zero => simp at hLength
      | succ k =>
          have hRest : flags.length ≤ k := by
            simpa using hLength
          simp only [survives, Bool.and_eq_true] at hSurvives
          cases flag with
          | false => exact ih hSurvives.1.2 hRest
          | true => exact ih hSurvives.2 hRest

/- A block that is not in question leaves a zero CRC. -/
theorem crcPattern_zero_false
    (order : ByteOrder) :
    crcPattern order 0 false = 0 := by
  cases order <;> decide +kernel

theorem survives_first
    (order : ByteOrder) :
    survives order 7 (crcPattern order 0 true) = true := by
  cases order <;> decide +kernel

/- Eight blocks, one of them in question, do not cancel. -/
theorem foldl_crcPattern_ne_zero
    (order : ByteOrder)
    {flags : List Bool}
    (hLength : flags.length ≤ 8)
    (hSome : true ∈ flags) :
    flags.foldl (crcPattern order) 0 ≠ 0 := by
  induction flags with
  | nil => cases hSome
  | cons flag flags ih =>
      have hRest : flags.length ≤ 7 := by
        rw [List.length_cons] at hLength
        omega
      cases flag with
      | false =>
          rw [List.foldl_cons, crcPattern_zero_false]
          exact ih (by omega) (by simpa using hSome)
      | true =>
          rw [List.foldl_cons]
          exact foldl_ne_zero_of_survives
            (survives_first order) hRest

end Ssh1

namespace Ssh1

variable {order : ByteOrder}
variable {buf : List UInt8}
variable {iv : Option (List UInt8)}

/- For each of the IV and the blocks: is it that block? -/
def pattern
    (s : List UInt8)
    (buf : List UInt8)
    (iv : Option (List UInt8)) : List Bool :=
  (if iv = some s then [true] else []) ++
    (List.range (blocks buf)).map
      fun j => decide (s = blockAt buf j)

theorem checkCrc_eq
    (s : List UInt8) :
    checkCrc order s buf iv =
      ((pattern s buf iv).foldl (crcPattern order) 0
        == 0) := by
  by_cases hIv : iv = some s <;>
    simp [checkCrc, pattern, hIv, List.foldl_map]

theorem length_pattern_le
    (s : List UInt8) :
    (pattern s buf iv).length ≤ blocks buf + 1 := by
  by_cases hIv : iv = some s <;>
    simp [pattern, hIv]

/- No block of a short packet cancels out. -/
theorem checkCrc_short
    (order : ByteOrder)
    (iv : Option (List UInt8))
    {j : Nat}
    (hShort : blocks buf ≤ 7)
    (hj : j < blocks buf) :
    checkCrc order (blockAt buf j) buf iv = false := by
  have hLength :
      (pattern (blockAt buf j) buf iv).length ≤
        blocks buf + 1 :=
    length_pattern_le _
  have hSome : true ∈ pattern (blockAt buf j) buf iv := by
    apply List.mem_append_right
    rw [List.mem_map]
    exact ⟨j, List.mem_range.mpr hj, by simp⟩
  have hNonzero :=
    foldl_crcPattern_ne_zero order
      (hLength.trans (by omega)) hSome
  rw [checkCrc_eq]
  simpa using hNonzero

theorem shortScanBefore_eq_false
    {c : List UInt8}
    (hCheck : checkCrc order c buf iv = false)
    (remaining d : Nat) :
    shortScanBefore order buf iv c remaining d = false := by
  induction remaining generalizing d with
  | zero => rfl
  | succ remaining ih =>
      simp only [shortScanBefore, hCheck, ih, ite_self]

/- The loops over a short packet end without a detection. -/
theorem shortScan_eq_ok
    (hShort : blocks buf ≤ 7)
    {remaining j : Nat}
    (hBound : j + remaining ≤ blocks buf) :
    shortScan order buf iv remaining j = .ok := by
  induction remaining generalizing j with
  | zero => rfl
  | succ remaining ih =>
      have hCheck :=
        checkCrc_short order iv hShort
          (show j < blocks buf by omega)
      simp only [shortScan, hCheck,
        shortScanBefore_eq_false hCheck, Bool.false_eq_true,
        if_false]
      rw [ih (by omega), ite_self]

/- The short-packet path decides the specification. -/
theorem shortScan_detected_iff
    (hShort : blocks buf ≤ 7) :
    shortScan order buf iv (blocks buf) 0 = .detected ↔
      Suspicious order buf iv := by
  rw [shortScan_eq_ok hShort (by omega)]
  constructor
  · intro hDetected
    cases hDetected
  · rintro ⟨j, hj, -, hCheck⟩
    rw [checkCrc_short order iv hShort hj] at hCheck
    cases hCheck

end Ssh1

------------------------------------------------------------
-- Table Contents
------------------------------------------------------------

namespace Ssh1

open LinearProbing

variable {order : ByteOrder}
variable {buf : List UInt8}
variable {iv : Option (List UInt8)}
variable {h : Nat → UInt16}
variable {n j : Nat}

/- The block that an entry of the table stands for. -/
def entryKey
    (buf : List UInt8)
    (iv : Option (List UInt8))
    (entry : UInt16) : Option (List UInt8) :=
  if entry = hashUnused then
    none
  else if entry = hashIv then
    iv
  else
    some (blockAt buf entry.toNat)

/- The blocks that the slots of the table hold. -/
def slotKeys
    (buf : List UInt8)
    (iv : Option (List UInt8))
    (h : Nat → UInt16) : Nat → Option (List UInt8) :=
  fun i => entryKey buf iv (h i)

/- The slot at which the walk for a block starts. -/
def startSlot (n : Nat) (c : List UInt8) : Nat :=
  get32Bit c &&& (n - 1)

/-
  The table after the IV and the first `j` blocks: it holds
  these and no other, each where its walk ends.
-/
structure ScanInv
    (buf : List UInt8)
    (iv : Option (List UInt8))
    (n : Nat)
    (h : Nat → UInt16)
    (j : Nat) : Prop where
  marked : ∀ i < n, h i = hashIv → iv ≠ none
  probed : WellProbed (slotKeys buf iv h) n (startSlot n)
  holds :
    ∀ k, Holds (slotKeys buf iv h) n k ↔
      iv = some k ∨ ∃ i < j, blockAt buf i = k
  load : (used (slotKeys buf iv h) n).card ≤ j + 1

/- A walk masks its index; the table size divides it. -/
theorem and_pred_eq_mod
    (hPow : ∃ e, n = 2 ^ e)
    (x : Nat) :
    x &&& (n - 1) = x % n := by
  rcases hPow with ⟨e, rfl⟩
  exact Nat.and_two_pow_sub_one_eq_mod x e

theorem startSlot_lt
    (hPow : ∃ e, n = 2 ^ e)
    (c : List UInt8) :
    startSlot n c < n := by
  rw [startSlot, and_pred_eq_mod hPow]
  rcases hPow with ⟨e, rfl⟩
  exact Nat.mod_lt _ (by positivity)

/-
  The walk ends where the linear probe for the block ends,
  and it detects when the block is there and cancels out.
-/
theorem probe_eq_of_findSlot
    (hPow : ∃ e, n = 2 ^ e)
    (hMarked : ∀ i < n, h i = hashIv → iv ≠ none)
    {c : List UInt8}
    {fuel i p : Nat}
    (hi : i < n)
    (hFind :
      findSlot (slotKeys buf iv h) n c fuel i = some p) :
    probe order buf iv h n c fuel i =
      .ok
        (if slotKeys buf iv h p = some c ∧
            checkCrc order c buf iv = true then
          .detected
        else
          .stopped p) := by
  induction fuel generalizing i with
  | zero => cases hFind
  | succ fuel ih =>
      have hNext : (i + 1) &&& (n - 1) = (i + 1) % n :=
        and_pred_eq_mod hPow _
      have hIndex : (i + 1) % n < n :=
        Nat.mod_lt _ (by omega)
      by_cases hUnused : h i = hashUnused
      · have hKey : slotKeys buf iv h i = none := by
          simp [slotKeys, entryKey, hUnused]
        simp only [findSlot, Stops, hKey, true_or,
          if_true, Option.some.injEq] at hFind
        subst hFind
        simp [probe, hUnused, hKey]
      · by_cases hIv : h i = hashIv
        · rcases Option.ne_none_iff_exists'.mp
              (hMarked i hi hIv) with ⟨key, rfl⟩
          have hKey :
              slotKeys buf (some key) h i = some key := by
            simp [slotKeys, entryKey, hIv, hashIv,
              hashUnused]
          by_cases hSame : c = key
          · subst hSame
            simp only [findSlot, Stops, hKey, or_true,
              if_true, Option.some.injEq] at hFind
            subst hFind
            unfold probe
            rw [if_neg hUnused, if_pos hIv]
            by_cases hCheck :
              checkCrc order c buf (some c) <;>
                simp [hKey, hCheck]
          · have hGo :
                ¬ Stops (slotKeys buf (some key) h) c i := by
              simp [Stops, hKey, Ne.symm hSame]
            rw [findSlot, if_neg hGo] at hFind
            unfold probe
            rw [if_neg hUnused, if_pos hIv]
            simp only [hSame, if_false, hNext]
            exact ih hIndex hFind
        · have hKey :
              slotKeys buf iv h i =
                some (blockAt buf (h i).toNat) := by
            simp [slotKeys, entryKey, hUnused, hIv]
          by_cases hSame : c = blockAt buf (h i).toNat
          · simp only [findSlot, Stops, hKey, ← hSame,
              or_true, if_true, Option.some.injEq] at hFind
            subst hFind
            unfold probe
            rw [if_neg hUnused, if_neg hIv, if_pos hSame]
            by_cases hCheck : checkCrc order c buf iv <;>
              simp [hKey, ← hSame, hCheck]
          · have hGo :
                ¬ Stops (slotKeys buf iv h) c i := by
              simp [Stops, hKey, Ne.symm hSame]
            rw [findSlot, if_neg hGo] at hFind
            unfold probe
            rw [if_neg hUnused, if_neg hIv, if_neg hSame,
              hNext]
            exact ih hIndex hFind

end Ssh1

------------------------------------------------------------
-- Hash Table Scan
------------------------------------------------------------

namespace Ssh1

open LinearProbing

variable {order : ByteOrder}
variable {buf : List UInt8}
variable {iv : Option (List UInt8)}
variable {h : Nat → UInt16}
variable {n j : Nat}

/- A block number fits an entry beside the two marks. -/
theorem blockNumber_fits
    (hj : j < sshMaxblocks) :
    (UInt16.ofNat j).toNat = j ∧
      UInt16.ofNat j ≠ hashUnused ∧
      UInt16.ofNat j ≠ hashIv := by
  have hBound : j < 32768 := hj
  have hValue : (UInt16.ofNat j).toNat = j := by
    simp only [UInt16.toNat_ofNat']
    omega
  refine ⟨hValue, ?_, ?_⟩
  · intro hEq
    rw [hEq] at hValue
    simp [hashUnused] at hValue
    omega
  · intro hEq
    rw [hEq] at hValue
    simp [hashIv] at hValue
    omega

/- The entry of a block is its number. -/
theorem entryKey_ofNat
    (buf : List UInt8)
    (iv : Option (List UInt8))
    (hj : j < sshMaxblocks) :
    UInt16.ofNat j ≠ hashIv ∧
      entryKey buf iv (UInt16.ofNat j) =
        some (blockAt buf j) := by
  rcases blockNumber_fits hj with ⟨hValue, hUnused, hIv⟩
  refine ⟨hIv, ?_⟩
  rw [entryKey, if_neg hUnused, if_neg hIv, hValue]

/- Writing an entry stores the block it stands for. -/
theorem slotKeys_update
    (i : Nat)
    (entry : UInt16)
    {c : List UInt8}
    (hKey : entryKey buf iv entry = some c) :
    slotKeys buf iv (Function.update h i entry) =
      Function.update (slotKeys buf iv h) i (some c) := by
  funext m
  by_cases hm : m = i
  · subst hm
    simp [slotKeys, hKey]
  · simp [slotKeys, Function.update_of_ne hm]

/- The cleared table holds the IV and nothing else. -/
theorem scanInv_zero
    (buf : List UInt8)
    (iv : Option (List UInt8))
    (h : Nat → UInt16)
    (hPow : ∃ e, n = 2 ^ e) :
    ScanInv buf iv n (markIv iv (clearTable h n) n) 0 := by
  have hPos : 0 < n := by
    rcases hPow with ⟨e, rfl⟩
    positivity
  have hClear :
      ∀ i < n, slotKeys buf iv (clearTable h n) i = none := by
    intro i hi
    simp [slotKeys, entryKey, clearTable, hi]
  have hUsed := used_of_unused hClear
  cases iv with
  | none =>
      refine ⟨?_, wellProbed_of_unused hClear, ?_, ?_⟩
      · intro i hi hMark
        simp [markIv, clearTable, hi, hashUnused,
          hashIv] at hMark
      · intro k
        constructor
        · intro hHolds
          exact absurd hHolds (not_holds_of_unused hClear k)
        · rintro (hIv | ⟨i, hi, -⟩)
          · cases hIv
          · omega
      · show (used (slotKeys buf none
          (clearTable h n)) n).card ≤ 0 + 1
        simp [hUsed]
  | some key =>
      have hStart := startSlot_lt hPow key
      have hUnused := hClear _ hStart
      have hSlots :
          slotKeys buf (some key)
              (markIv (some key) (clearTable h n) n) =
            Function.update
              (slotKeys buf (some key) (clearTable h n))
              (startSlot n key) (some key) := by
        apply slotKeys_update
        simp [entryKey, hashIv, hashUnused]
      have hFind :
          findSlot
              (slotKeys buf (some key) (clearTable h n)) n
              key n (startSlot n key) =
            some (startSlot n key) := by
        rcases Nat.exists_eq_succ_of_ne_zero
          (show n ≠ 0 by omega) with ⟨m, hm⟩
        have hOne :
            findSlot
                (slotKeys buf (some key) (clearTable h n)) n
                key (m + 1) (startSlot n key) =
              some (startSlot n key) :=
          findSlot_of_unused hUnused
        rwa [← Nat.succ_eq_add_one, ← hm] at hOne
      constructor
      · intro i _ _
        simp
      · rw [hSlots]
        exact WellProbed.update (startSlot_lt hPow)
          (wellProbed_of_unused hClear)
          ⟨_, hStart, hUnused⟩ hFind
      · intro k
        rw [hSlots, holds_update_iff hStart (Or.inl hUnused)]
        simp [not_holds_of_unused hClear k, eq_comm]
      · rw [hSlots]
        have hLoad := used_update_le
          (slotKeys buf (some key) (clearTable h n)) n
          (startSlot n key) key
        simpa [hUsed] using hLoad

/-
  One turn of the loop: the walk for block `j` detects, or it
  ends where the block then goes.
-/
theorem ScanInv.step
    (order : ByteOrder)
    (hPow : ∃ e, n = 2 ^ e)
    (hj : j < sshMaxblocks)
    (hRoom : j + 1 < n)
    (hInv : ScanInv buf iv n h j) :
    ∃ i,
      ScanInv buf iv n
          (Function.update h i (UInt16.ofNat j)) (j + 1) ∧
        probe order buf iv h n (blockAt buf j) n
            (startSlot n (blockAt buf j)) =
          .ok
            (if Repeats buf iv j ∧
                checkCrc order (blockAt buf j) buf iv =
                  true then
              .detected
            else
              .stopped i) := by
  have hFree :
      ∃ i < n, slotKeys buf iv h i = none :=
    exists_unused (lt_of_le_of_lt hInv.load hRoom)
  rcases slot_findSlot_iff (startSlot_lt hPow) hInv.probed
      hFree (blockAt buf j) with
    ⟨i, hi, hFind, hSlot, hHeld⟩
  rcases entryKey_ofNat buf iv hj with
    ⟨hIv, hKey⟩
  have hSlots := slotKeys_update (h := h) i _ hKey
  refine ⟨i, ⟨?_, ?_, ?_, ?_⟩, ?_⟩
  · intro m hm hMark
    by_cases hmi : m = i
    · subst hmi
      rw [Function.update_self] at hMark
      exact absurd hMark hIv
    · rw [Function.update_of_ne hmi] at hMark
      exact hInv.marked m hm hMark
  · rw [hSlots]
    exact hInv.probed.update (startSlot_lt hPow) hFree hFind
  · intro k
    rw [hSlots, holds_update_iff hi hSlot, hInv.holds]
    constructor
    · rintro (rfl | hIvKey | ⟨m, hm, hBlock⟩)
      · exact Or.inr ⟨j, by omega, rfl⟩
      · exact Or.inl hIvKey
      · exact Or.inr ⟨m, by omega, hBlock⟩
    · rintro (hIvKey | ⟨m, hm, hBlock⟩)
      · exact Or.inr (Or.inl hIvKey)
      · rcases Nat.lt_succ_iff_lt_or_eq.mp hm with
          hLess | rfl
        · exact Or.inr (Or.inr ⟨m, hLess, hBlock⟩)
        · exact Or.inl hBlock.symm
  · rw [hSlots]
    have hLoad := used_update_le (slotKeys buf iv h) n i
      (blockAt buf j)
    have hBefore := hInv.load
    omega
  · have hRepeats :
        slotKeys buf iv h i = some (blockAt buf j) ↔
          Repeats buf iv j := by
      rw [hHeld, hInv.holds]
      rfl
    rw [probe_eq_of_findSlot hPow hInv.marked
      (startSlot_lt hPow _) hFind]
    simp only [hRepeats]

/-
  The loop from block `j` on detects exactly the suspicious
  blocks from there on.
-/
theorem hashScan_detected_iff
    (order : ByteOrder)
    (hPow : ∃ e, n = 2 ^ e)
    {remaining : Nat}
    (hBlocks : j + remaining ≤ sshMaxblocks)
    (hRoom : j + remaining < n)
    (hInv : ScanInv buf iv n h j) :
    ∃ result h',
      hashScan order buf iv n remaining j h =
          .ok (result, h') ∧
        (result = .detected ↔
          ∃ m, j ≤ m ∧ m < j + remaining ∧
            Repeats buf iv m ∧
            checkCrc order (blockAt buf m) buf iv =
              true) := by
  induction remaining generalizing j h with
  | zero =>
      refine ⟨.ok, h, rfl, ?_⟩
      constructor
      · intro hDetected
        cases hDetected
      · rintro ⟨m, hLow, hHigh, -⟩
        omega
  | succ remaining ih =>
      rcases hInv.step order hPow (by omega)
          (by omega) with ⟨i, hNext, hProbe⟩
      rw [startSlot] at hProbe
      by_cases hHit :
          Repeats buf iv j ∧
            checkCrc order (blockAt buf j) buf iv = true
      · refine ⟨.detected, h, ?_, ?_⟩
        · rw [if_pos hHit] at hProbe
          simp [hashScan, hProbe]
        · refine ⟨fun _ => ?_, fun _ => rfl⟩
          exact ⟨j, by omega, by omega, hHit⟩
      · rcases ih (by omega) (by omega) hNext with
          ⟨result, h', hScan, hResult⟩
        refine ⟨result, h', ?_, ?_⟩
        · rw [if_neg hHit] at hProbe
          simp [hashScan, hProbe, hScan]
        · rw [hResult]
          constructor
          · rintro ⟨m, hLow, hHigh, hBlock⟩
            exact ⟨m, by omega, by omega, hBlock⟩
          · rintro ⟨m, hLow, hHigh, hBlock⟩
            have hNe : m ≠ j := by
              rintro rfl
              exact hHit hBlock
            exact ⟨m, by omega, by omega, hBlock⟩

end Ssh1

------------------------------------------------------------
-- Static Table
------------------------------------------------------------

namespace Ssh1

/- The size of the table is a power of two of some size. -/
def DeattackStatic.Valid (static : DeattackStatic) : Prop :=
  ∃ e, 12 ≤ e ∧ e ≤ 17 ∧ static.n = 2 ^ e

theorem DeattackStatic.initial_valid :
    DeattackStatic.initial.Valid :=
  ⟨12, by omega, by omega, rfl⟩

/- The loop ends with a power of two that is large enough. -/
theorem grow_eq_ok
    (fuel : Nat)
    {bound e : Nat}
    (hBound : bound ≤ 2 ^ 16)
    (hLow : 12 ≤ e)
    (hHigh : e ≤ 17)
    (hFuel : 17 < fuel + e) :
    ∃ e', e ≤ e' ∧ e' ≤ 17 ∧ bound ≤ 2 ^ e' ∧
      grow bound fuel (2 ^ e) = .ok (2 ^ e') := by
  induction fuel generalizing e with
  | zero => omega
  | succ fuel ih =>
      by_cases hLess : 2 ^ e < bound
      · have hExp : e < 16 :=
          (Nat.pow_lt_pow_iff_right (by omega)).mp
            (lt_of_lt_of_le hLess hBound)
        have hFits : 2 ^ (e + 2) < 2 ^ 32 :=
          Nat.pow_lt_pow_right (by omega) (by omega)
        have hShift : 2 ^ e <<< 2 % 2 ^ 32 = 2 ^ (e + 2) := by
          rw [Nat.shiftLeft_eq, ← pow_add]
          exact Nat.mod_eq_of_lt hFits
        rcases @ih (e + 2) (by omega) (by omega)
            (by omega) with
          ⟨e', hLe, hLe', hEnough, hGrow⟩
        refine ⟨e', by omega, hLe', hEnough, ?_⟩
        rw [grow, if_pos hLess, hShift, hGrow]
      · exact ⟨e, le_rfl, hHigh, by omega, by
          rw [grow, if_neg hLess]⟩

/- The table that a call works with is the larger one. -/
theorem installDetector_size
    (memory : Nat → UInt16)
    {static : DeattackStatic}
    {l : Nat}
    (hLe : static.n ≤ l) :
    (installDetector memory static l).2 = l := by
  unfold installDetector
  split
  · rfl
  · split
    · rfl
    · simp only
      omega

/-
  Under its two assertions the detector returns, and what it
  returns does not depend on the table it found.
-/
theorem detectAttack_eq_ok
    (order : ByteOrder)
    {static : DeattackStatic}
    {buf : List UInt8}
    (iv : Option (List UInt8))
    (memory : Nat → UInt16)
    (hValid : static.Valid)
    (hLength : buf.length ≤ sshMaxblocks * sshBlocksize)
    (hMultiple : buf.length % sshBlocksize = 0) :
    ∃ result next,
      detectAttack order buf iv memory static =
          .ok (result, next) ∧
        next.Valid ∧
        (result = .detected ↔ Suspicious order buf iv) := by
  rcases hValid with ⟨e, hLow, hHigh, hSize⟩
  have hBlocks : blocks buf ≤ sshMaxblocks := by
    unfold blocks sshBlocksize
    unfold sshMaxblocks sshBlocksize at *
    omega
  have hBound :
      hashFactor (blocks buf) ≤ 2 ^ 16 := by
    unfold hashFactor
    unfold sshMaxblocks at hBlocks
    omega
  rcases grow_eq_ok 17 hBound hLow hHigh (by omega) with
      ⟨e', hLe, hLe', hEnough, hGrow⟩
  have hInstall :
      (installDetector memory static (2 ^ e')).2 = 2 ^ e' := by
    apply installDetector_size
    rw [hSize]
    exact Nat.pow_le_pow_right (by omega) hLe
  rw [← hSize] at hGrow
  unfold detectAttack
  rw [assert_of_true hLength, assert_of_true hMultiple]
  simp only [FallibleRun.ok_bind]
  rw [show buf.length / sshBlocksize = blocks buf from rfl,
    hGrow]
  simp only [FallibleRun.ok_bind]
  by_cases hShort : buf.length ≤ hashMinblocks
  · have hSeven : blocks buf ≤ 7 := by
      unfold blocks
      unfold hashMinblocks sshBlocksize at *
      omega
    rw [if_pos hShort]
    refine ⟨_, _, rfl, ⟨e', by omega, hLe', hInstall⟩, ?_⟩
    exact shortScan_detected_iff hSeven
  · have hMany : 8 ≤ blocks buf := by
      unfold blocks
      unfold hashMinblocks sshBlocksize at *
      omega
    have hRoom : 0 + blocks buf < 2 ^ e' := by
      unfold hashFactor at hEnough
      omega
    rcases hashScan_detected_iff order ⟨e', rfl⟩ (by omega)
        hRoom
        (scanInv_zero buf iv
          (installDetector memory static (2 ^ e')).1
          ⟨e', rfl⟩) with
      ⟨result, h', hScan, hResult⟩
    rw [if_neg hShort, hInstall, hScan]
    refine ⟨_, _, rfl, ⟨e', by omega, hLe', rfl⟩, ?_⟩
    rw [hResult]
    simp [Suspicious]

end Ssh1

------------------------------------------------------------
-- Call Sequences
------------------------------------------------------------

namespace Ssh1

/- The arguments of a call, and the memory it may get. -/
structure DeattackCall where
  buf : List UInt8
  iv : Option (List UInt8)
  memory : Nat → UInt16

/- A call leaves the static variables to the next one. -/
def DeattackCall.step
    (order : ByteOrder)
    (static : DeattackStatic)
    (call : DeattackCall) : Outcome DeattackStatic := do
  let (_, next) ←
    detectAttack order call.buf call.iv call.memory static
  return next

/- Calls that return leave a valid table behind. -/
theorem DeattackCall.step_valid
    {order : ByteOrder}
    {static next : DeattackStatic}
    {call : DeattackCall}
    (hValid : static.Valid)
    (hStep : call.step order static = .ok next) :
    next.Valid := by
  rcases FallibleRun.bind_eq_ok_iff.mp hStep with
    ⟨⟨result, next'⟩, hCall, hNext⟩
  have hSame : next' = next := Except.ok.inj hNext
  subst hSame
  have hLength :
      call.buf.length ≤ sshMaxblocks * sshBlocksize := by
    by_contra hLong
    rw [detectAttack, assert_of_false hLong] at hCall
    cases hCall
  have hMultiple : call.buf.length % sshBlocksize = 0 := by
    by_contra hRagged
    rw [detectAttack, assert_of_true hLength,
      assert_of_false hRagged] at hCall
    cases hCall
  rcases detectAttack_eq_ok order call.iv call.memory
      hValid hLength hMultiple with
    ⟨result', next'', hOk, hNextValid, -⟩
  rw [hOk] at hCall
  cases hCall
  exact hNextValid

/-
  After any calls, the detector detects exactly the packets
  with a repeated block that cancels out in the CRC.
-/
theorem detectAttack_eq_detected_iff
    (order : ByteOrder)
    (calls : List DeattackCall)
    (static : DeattackStatic)
    (hRun :
      FallibleRun.run (DeattackCall.step order) .initial
        calls = .ok static)
    (buf : List UInt8)
    (iv : Option (List UInt8))
    (memory : Nat → UInt16)
    (hLength : buf.length ≤ sshMaxblocks * sshBlocksize)
    (hMultiple : buf.length % sshBlocksize = 0) :
    ∃ result next,
      detectAttack order buf iv memory static =
          .ok (result, next) ∧
        (result = .detected ↔
          ∃ j < blocks buf,
            (iv = some (blockAt buf j) ∨
              ∃ i < j, blockAt buf i = blockAt buf j) ∧
            checkCrc order (blockAt buf j) buf iv =
              true) := by
  have hValid : static.Valid :=
    FallibleRun.run_invariant
      (fun _ _ _ => DeattackCall.step_valid)
      DeattackStatic.initial_valid hRun
  rcases detectAttack_eq_ok order iv memory hValid
      hLength hMultiple with
    ⟨result, next, hOk, -, hResult⟩
  exact ⟨result, next, hOk, hResult⟩

/-
  A packet of 33 blocks, one of which is repeated where the
  polynomial of the CRC has a coefficient.
-/
def compensationAttack : List UInt8 :=
  (List.range 33).flatMap fun i =>
    List.replicate 8
      (if (0x104c11db7 : Nat).testBit (32 - i) then 7 else 0)

theorem length_compensationAttack :
    compensationAttack.length = 264 := by
  decide +kernel

/- Both loops: the first packet is short, the other hashed. -/
theorem detectAttack_eq_detected_iff_two_blocks :
    (∃ result next,
      detectAttack .lsbFirst (List.replicate 16 7)
          (some (List.replicate 8 7)) (fun _ => 0)
          .initial = .ok (result, next) ∧
        (result = .detected ↔
          Suspicious .lsbFirst (List.replicate 16 7)
            (some (List.replicate 8 7)))) ∧
      hashMinblocks < compensationAttack.length ∧
      ∃ next,
        detectAttack .lsbFirst compensationAttack none
            (fun _ => 0) .initial = .ok (.detected, next) := by
  refine ⟨detectAttack_eq_detected_iff .lsbFirst [] .initial
    rfl (List.replicate 16 7) (some (List.replicate 8 7))
    (fun _ => 0) (by decide) (by decide), ?_, ?_⟩
  · rw [length_compensationAttack]
    decide
  rcases detectAttack_eq_detected_iff .lsbFirst [] .initial
      rfl compensationAttack none (fun _ => 0)
      (by rw [length_compensationAttack]; decide)
      (by rw [length_compensationAttack]; decide) with
    ⟨result, next, hOk, hResult⟩
  have hBlocks :
      6 < blocks compensationAttack ∧
        blockAt compensationAttack 0 =
          blockAt compensationAttack 6 := by
    decide +kernel
  have hCrc :
      checkCrc .lsbFirst (blockAt compensationAttack 6)
        compensationAttack none = true := by
    decide +kernel
  have hDetected : result = .detected :=
    hResult.mpr
      ⟨6, hBlocks.1, .inr ⟨0, by omega, hBlocks.2⟩, hCrc⟩
  rw [hDetected] at hOk
  exact ⟨next, hOk⟩

end Ssh1
