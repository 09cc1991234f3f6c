import Ssh1.Packet.DeattackCorrectness

/-
  The attack detector stays inside its table.

  The table has more entries than a packet has blocks, with
  one to spare for the IV, so that every walk through it
  comes to an unused slot. Over a sequence of calls it only
  grows.

  Main declarations:
    * `walkSlot`
    * `ScanReaches`
    * `WalkSafe`, `CallSafe`
    * `detectAttack_safe`
-/

------------------------------------------------------------
-- Walks
------------------------------------------------------------

namespace Ssh1

/- The slot that a walk has come to after so many steps. -/
def walkSlot
    (n : Nat)
    (c : List UInt8) : Nat → Nat
| 0 => get32Bit c &&& (n - 1)
| d + 1 => (walkSlot n c d + 1) &&& (n - 1)

/-
  The numbers and tables with which the loop over the blocks
  starts a walk.
-/
inductive ScanReaches
    (order : ByteOrder)
    (buf : List UInt8)
    (iv : Option (List UInt8))
    (n : Nat)
    (installed : Nat → UInt16) :
    Nat → (Nat → UInt16) → Prop
| start :
    ScanReaches order buf iv n installed 0
      (markIv iv (clearTable installed n) n)
| next
    {j i : Nat}
    {h : Nat → UInt16}
    (hReaches : ScanReaches order buf iv n installed j h)
    (hBlock : j < blocks buf)
    (hStops :
      probe order buf iv h n (blockAt buf j) n
          (get32Bit (blockAt buf j) &&& (n - 1)) =
        .ok (.stopped i)) :
    ScanReaches order buf iv n installed (j + 1)
      (Function.update h i (UInt16.ofNat j))

/- What keeps the walk for block `j` inside the table. -/
structure WalkSafe
    (order : ByteOrder)
    (buf : List UInt8)
    (iv : Option (List UInt8))
    (n : Nat)
    (h : Nat → UInt16)
    (j : Nat) : Prop where
  inside : ∀ d, walkSlot n (blockAt buf j) d < n
  unused : ∃ d < n,
    h (walkSlot n (blockAt buf j) d) = hashUnused
  ends : ∃ result,
    probe order buf iv h n (blockAt buf j) n
        (get32Bit (blockAt buf j) &&& (n - 1)) =
      .ok result
  number : (UInt16.ofNat j).toNat = j
  not_unused : UInt16.ofNat j ≠ hashUnused
  not_iv : UInt16.ofNat j ≠ hashIv
  below : ∀ i < n,
    h i ≠ hashUnused → h i ≠ hashIv → (h i).toNat < j

/- The lengths that the two assertions let pass. -/
def DeattackCall.Fits (call : DeattackCall) : Prop :=
  call.buf.length ≤ sshMaxblocks * sshBlocksize ∧
    call.buf.length % sshBlocksize = 0

/-
  What a call does with the table that it finds: `n` is the
  size with which it works and which it leaves behind.
-/
structure CallSafe
    (order : ByteOrder)
    (static : DeattackStatic)
    (call : DeattackCall)
    (n : Nat) : Prop where
  grows :
    grow (hashFactor (blocks call.buf)) 17 static.n = .ok n
  shifts : ∃ k, n = static.n * 4 ^ k ∧ n < 2 ^ 32
  power : ∃ e, n = 2 ^ e
  not_smaller : static.n ≤ n
  blocks_lt : blocks call.buf + 1 < n
  returns : ∃ result next,
    detectAttack order call.buf call.iv call.memory static =
        .ok (result, next) ∧
      next.n = n
  walks : ∀ j h,
    ScanReaches order call.buf call.iv n
        (installDetector call.memory static n).1 j h →
      j < blocks call.buf →
        WalkSafe order call.buf call.iv n h j

end Ssh1

------------------------------------------------------------
-- The Table in a Scan
------------------------------------------------------------

namespace Ssh1

open LinearProbing

variable {order : ByteOrder}
variable {buf : List UInt8}
variable {iv : Option (List UInt8)}
variable {h installed : Nat → UInt16}
variable {n j : Nat}

/- The slots of a walk follow each other around the table. -/
theorem walkSlot_eq
    (hPow : ∃ e, n = 2 ^ e)
    (c : List UInt8)
    (d : Nat) :
    walkSlot n c d = (startSlot n c + d) % n := by
  induction d with
  | zero =>
      rw [walkSlot, Nat.add_zero,
        Nat.mod_eq_of_lt (startSlot_lt hPow c)]
      rfl
  | succ d ih =>
      rw [walkSlot, and_pred_eq_mod hPow, ih,
        Nat.mod_add_mod, Nat.add_assoc]

/- Some slot ahead of a walk is unused. -/
theorem ScanInv.unused_ahead
    (hPow : ∃ e, n = 2 ^ e)
    (hRoom : j + 1 < n)
    (hInv : ScanInv buf iv n h j)
    (c : List UInt8) :
    ∃ d < n, h (walkSlot n c d) = hashUnused := by
  have hLoad := hInv.load
  rcases exists_unused (lt_of_le_of_lt hLoad hRoom) with
    ⟨i, hi, hNone⟩
  rcases exists_offset (startSlot_lt hPow c) hi with
    ⟨d, hd, hAt⟩
  refine ⟨d, hd, ?_⟩
  rw [walkSlot_eq hPow, hAt]
  by_contra hUsed
  rw [slotKeys, entryKey, if_neg hUsed] at hNone
  split at hNone
  · rename_i hMark
    exact hInv.marked i hi hMark hNone
  · cases hNone

/- The entries other than the two marks are below `j`. -/
def EntriesBelow
    (h : Nat → UInt16)
    (n j : Nat) : Prop :=
  ∀ i < n,
    h i ≠ hashUnused → h i ≠ hashIv → (h i).toNat < j

theorem entriesBelow_zero
    (iv : Option (List UInt8))
    (installed : Nat → UInt16)
    (n : Nat) :
    EntriesBelow (markIv iv (clearTable installed n) n) n
      0 := by
  intro i hi hUsed hMark
  have hClear : clearTable installed n i = hashUnused :=
    if_pos hi
  cases iv with
  | none => exact (hUsed hClear).elim
  | some key =>
      rw [markIv] at hUsed hMark
      by_cases hHere : i = get32Bit key &&& (n - 1)
      · rw [hHere, Function.update_self] at hMark
        exact (hMark rfl).elim
      · rw [Function.update_of_ne hHere] at hUsed
        exact (hUsed hClear).elim

theorem EntriesBelow.update
    (hj : j < sshMaxblocks)
    (hBelow : EntriesBelow h n j)
    (i : Nat) :
    EntriesBelow (Function.update h i (UInt16.ofNat j)) n
      (j + 1) := by
  intro m hm hUsed hMark
  by_cases hHere : m = i
  · rw [hHere, Function.update_self,
      (blockNumber_fits hj).1]
    exact Nat.lt_succ_self j
  · rw [Function.update_of_ne hHere] at hUsed hMark ⊢
    have hOld := hBelow m hm hUsed hMark
    omega

/- Both invariants hold wherever a walk starts. -/
theorem ScanReaches.invariant
    (hPow : ∃ e, n = 2 ^ e)
    (hBlocks : blocks buf ≤ sshMaxblocks)
    (hRoom : blocks buf + 1 < n)
    (hReaches : ScanReaches order buf iv n installed j h) :
    ScanInv buf iv n h j ∧ EntriesBelow h n j := by
  induction hReaches with
  | start =>
      exact ⟨scanInv_zero buf iv installed hPow,
        entriesBelow_zero iv installed n⟩
  | @next j i h _ hBlock hStops ih =>
      rcases ih with ⟨hInv, hBelow⟩
      have hj : j < sshMaxblocks := by omega
      rcases hInv.step order hPow hj (by omega) with
        ⟨m, hNext, hProbe⟩
      rw [startSlot, hStops] at hProbe
      split at hProbe
      · cases hProbe
      · cases hProbe
        exact ⟨hNext, hBelow.update hj i⟩

/- Every walk of a scan stays inside. -/
theorem ScanReaches.walkSafe
    (hPow : ∃ e, n = 2 ^ e)
    (hBlocks : blocks buf ≤ sshMaxblocks)
    (hRoom : blocks buf + 1 < n)
    (hReaches : ScanReaches order buf iv n installed j h)
    (hBlock : j < blocks buf) :
    WalkSafe order buf iv n h j := by
  rcases hReaches.invariant hPow hBlocks hRoom with
    ⟨hInv, hBelow⟩
  have hj : j < sshMaxblocks := by omega
  rcases blockNumber_fits hj with
    ⟨hNumber, hNotUnused, hNotIv⟩
  rcases hInv.step order hPow hj (by omega) with
    ⟨i, -, hProbe⟩
  exact {
    inside := by
      intro d
      rw [walkSlot_eq hPow]
      exact Nat.mod_lt _ (by omega)
    unused := hInv.unused_ahead hPow (by omega) _
    ends := ⟨_, hProbe⟩
    number := hNumber
    not_unused := hNotUnused
    not_iv := hNotIv
    below := hBelow }

end Ssh1

------------------------------------------------------------
-- Calls
------------------------------------------------------------

namespace Ssh1

/- No shift of the loop for the size goes beyond a word. -/
theorem grow_shifts
    {bound l' : Nat}
    (fuel : Nat)
    {l : Nat}
    (hBound : bound ≤ 2 ^ 16)
    (hWord : l < 2 ^ 32)
    (hGrow : grow bound fuel l = .ok l') :
    ∃ k, l' = l * 4 ^ k ∧ l' < 2 ^ 32 := by
  induction fuel generalizing l with
  | zero => cases hGrow
  | succ fuel ih =>
      rw [grow] at hGrow
      split at hGrow
      · rename_i hLess
        have hShift : l <<< 2 % 2 ^ 32 = l * 4 := by
          rw [Nat.shiftLeft_eq]
          exact Nat.mod_eq_of_lt (by omega)
        rw [hShift] at hGrow
        rcases ih (by omega) hGrow with ⟨k, hk, hFits⟩
        refine ⟨k + 1, ?_, hFits⟩
        rw [hk, pow_succ', Nat.mul_assoc]
      · rw [← Except.ok.inj hGrow]
        exact ⟨0, (Nat.mul_one l).symm, hWord⟩

/- The call leaves the size behind with which it worked. -/
theorem detectAttack_size
    {order : ByteOrder}
    {static next : DeattackStatic}
    {buf : List UInt8}
    {iv : Option (List UInt8)}
    {memory : Nat → UInt16}
    {result : Deattack}
    {n : Nat}
    (hGrow :
      grow (hashFactor (blocks buf)) 17 static.n = .ok n)
    (hLe : static.n ≤ n)
    (hCall :
      detectAttack order buf iv memory static =
        .ok (result, next)) :
    next.n = n := by
  have hInstall := installDetector_size memory hLe
  rcases FallibleRun.bind_eq_ok_iff.mp hCall with
    ⟨_, _, hRest⟩
  rcases FallibleRun.bind_eq_ok_iff.mp hRest with
    ⟨_, _, hRest⟩
  rcases FallibleRun.bind_eq_ok_iff.mp hRest with
    ⟨l, hl, hRest⟩
  have hSame : l = n := by
    rw [show buf.length / sshBlocksize = blocks buf from rfl,
      hGrow] at hl
    exact (Except.ok.inj hl).symm
  subst hSame
  simp only at hRest
  split at hRest
  · cases hRest
    exact hInstall
  · rcases FallibleRun.bind_eq_ok_iff.mp hRest with
      ⟨_, _, hEnd⟩
    cases hEnd
    exact hInstall

/- A call that fits is safe with any valid table. -/
theorem callSafe_of_fits
    (order : ByteOrder)
    {static : DeattackStatic}
    {call : DeattackCall}
    (hValid : static.Valid)
    (hFits : call.Fits) :
    ∃ n, CallSafe order static call n := by
  rcases hFits with ⟨hLength, hMultiple⟩
  rcases detectAttack_eq_ok order call.iv call.memory hValid
      hLength hMultiple with
    ⟨result, next, hCall, -, -⟩
  rcases hValid with ⟨e, hLow, hHigh, hSize⟩
  have hBlocks : blocks call.buf ≤ sshMaxblocks := by
    unfold blocks sshBlocksize
    unfold sshMaxblocks sshBlocksize at *
    omega
  have hBound :
      hashFactor (blocks call.buf) ≤ 2 ^ 16 := by
    unfold hashFactor
    unfold sshMaxblocks at hBlocks
    omega
  rcases grow_eq_ok 17 hBound hLow hHigh (by omega) with
    ⟨e', hLe, hLe', hEnough, hGrow⟩
  rw [← hSize] at hGrow
  have hPow : 2 ^ e ≤ 2 ^ e' :=
    Nat.pow_le_pow_right (by omega) hLe
  have hSmallest : 2 ^ 12 ≤ 2 ^ e :=
    Nat.pow_le_pow_right (by omega) hLow
  have hRoom : blocks call.buf + 1 < 2 ^ e' := by
    unfold hashFactor at hEnough
    omega
  have hNotSmaller : static.n ≤ 2 ^ e' := by
    rw [hSize]
    exact hPow
  have hWord : static.n < 2 ^ 32 := by
    rw [hSize]
    exact Nat.pow_lt_pow_right (by omega) (by omega)
  exact ⟨2 ^ e', {
    grows := hGrow
    shifts := grow_shifts 17 hBound hWord hGrow
    power := ⟨e', rfl⟩
    not_smaller := hNotSmaller
    blocks_lt := hRoom
    returns := ⟨result, next, hCall,
      detectAttack_size hGrow hNotSmaller hCall⟩
    walks := fun _ _ hReaches hBlock =>
      hReaches.walkSafe ⟨e', rfl⟩ hBlocks hRoom hBlock }⟩

/- Calls that fit return one after the other. -/
theorem run_ok_of_fits
    (order : ByteOrder)
    {calls : List DeattackCall}
    {static : DeattackStatic}
    (hValid : static.Valid)
    (hFits : ∀ call ∈ calls, call.Fits) :
    ∃ final,
      FallibleRun.run (DeattackCall.step order) static
          calls = .ok final ∧
        final.Valid := by
  induction calls generalizing static with
  | nil => exact ⟨static, rfl, hValid⟩
  | cons call calls ih =>
      rcases hFits call List.mem_cons_self with
        ⟨hLength, hMultiple⟩
      rcases detectAttack_eq_ok order call.iv call.memory
          hValid hLength hMultiple with
        ⟨result, next, hCall, hNext, -⟩
      rcases ih hNext fun c hMem =>
          hFits c (List.mem_cons_of_mem _ hMem) with
        ⟨final, hRun, hFinal⟩
      refine ⟨final, ?_, hFinal⟩
      rw [FallibleRun.run_cons, DeattackCall.step, hCall]
      exact hRun

end Ssh1
