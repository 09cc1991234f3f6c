import Ssh1.Base.Buffer
import Ssh1.Packet.Crc32

/-
  The detector of the CRC compensation attack.

  The detector looks for a block that repeats an earlier one
  and whose places in the packet cancel out in the CRC. Short
  packets are compared block by block; for longer ones the
  blocks go into a hash table that stays allocated from one
  packet to the next.

  Main declarations:
    * `checkCrc`
    * `shortScan`, `hashScan`
    * `detectAttack`
    * `Suspicious`
-/

------------------------------------------------------------
-- Blocks
------------------------------------------------------------

namespace Ssh1

/- `SSH_MAXBLOCKS` -/
def sshMaxblocks : Nat := 32 * 1024

/- `SSH_BLOCKSIZE` -/
def sshBlocksize : Nat := 8

/- The block number `j` of the buffer. -/
def blockAt
    (buf : List UInt8)
    (j : Nat) : List UInt8 :=
  (buf.drop (j * sshBlocksize)).take sshBlocksize

/- The number of blocks that a loop over the buffer meets. -/
def blocks (buf : List UInt8) : Nat :=
  buf.length / sshBlocksize

end Ssh1

------------------------------------------------------------
-- Pattern Check
------------------------------------------------------------

namespace Ssh1

/- The order in which the host stores a `word32`. -/
inductive ByteOrder where
  | msbFirst
  | lsbFirst
  deriving DecidableEq, Repr

/- The bytes of a `word32` in memory. -/
def ByteOrder.bytes : ByteOrder → UInt32 → List UInt8
| msbFirst, b => BigEndian.toBytes 4 b.toNat
| lsbFirst, b => (BigEndian.toBytes 4 b.toNat).reverse

/- `crc_update`: one word into the checksum. -/
def crcUpdate
    (order : ByteOrder)
    (a b : UInt32) : UInt32 :=
  crc32 (order.bytes (b ^^^ a))

/- What a block adds, by whether it is the one in question. -/
def crcPattern
    (order : ByteOrder)
    (crc : UInt32)
    (same : Bool) : UInt32 :=
  if same then
    crcUpdate order (crcUpdate order crc 1) 0
  else
    crcUpdate order (crcUpdate order crc 0) 0

/- Detects if a block is used in a particular pattern. -/
def checkCrc
    (order : ByteOrder)
    (s : List UInt8)
    (buf : List UInt8)
    (iv : Option (List UInt8)) : Bool :=
  let crc :=
    if iv = some s then crcPattern order 0 true else 0
  let crc :=
    (List.range (blocks buf)).foldl
      (fun crc j =>
        crcPattern order crc (decide (s = blockAt buf j)))
      crc
  crc == 0

end Ssh1

------------------------------------------------------------
-- Short Packets
------------------------------------------------------------

namespace Ssh1

/- The return codes of the detector. -/
inductive Deattack where
  | ok
  | detected
  deriving DecidableEq, Repr

variable (order : ByteOrder)
variable (buf : List UInt8)
variable (iv : Option (List UInt8))

/-
  The loop over the blocks `d` before `c`. A repetition ends
  it, detected or not.
-/
def shortScanBefore (c : List UInt8) : Nat → Nat → Bool
| 0, _ => false
| remaining + 1, d =>
    if c = blockAt buf d then
      checkCrc order c buf iv
    else
      shortScanBefore c remaining (d + 1)

/- The loop over all blocks of a short packet. -/
def shortScan : Nat → Nat → Deattack
| 0, _ => .ok
| remaining + 1, j =>
    let c := blockAt buf j
    if iv = some c then
      -- This `break` is in the loop over the blocks itself.
      if checkCrc order c buf iv then .detected else .ok
    else if shortScanBefore order buf iv c j 0 then
      .detected
    else
      shortScan remaining (j + 1)

end Ssh1

------------------------------------------------------------
-- Hash Table
------------------------------------------------------------

namespace Ssh1

/- `HASH_MINSIZE / HASH_ENTRYSIZE` -/
def hashMinEntries : Nat := 8 * 1024 / 2

/- `HASH_FACTOR` -/
def hashFactor (x : Nat) : Nat := x * 3 / 2

/- `HASH_UNUSED` -/
def hashUnused : UInt16 := 0xffff

/- `HASH_IV` -/
def hashIv : UInt16 := 0xfffe

/- `HASH_MINBLOCKS` -/
def hashMinblocks : Nat := 7 * sshBlocksize

/- The static variables of the detector. -/
structure DeattackStatic where
  -- the table, once it is allocated
  h : Option (Nat → UInt16)
  n : Nat

/- The static variables before the first call. -/
def DeattackStatic.initial : DeattackStatic where
  h := none
  n := hashMinEntries

/-
  The loop that makes `l` large enough. Sixteen shifts by two
  clear a `word32`, and a loop that is not over by then never
  ends.
-/
def grow (bound : Nat) : Nat → Nat → Outcome Nat
| 0, _ => .error .diverges
| fuel + 1, l =>
    if l < bound then
      grow bound fuel (l <<< 2 % 2 ^ 32)
    else
      .ok l

/-
  The table and its size for a packet. The contents that new
  memory has are those of `memory`.
-/
def installDetector
    (memory : Nat → UInt16)
    (static : DeattackStatic)
    (l : Nat) : (Nat → UInt16) × Nat :=
  match static.h with
  | none => (memory, l)
  | some h =>
      if l > static.n then
        (fun i => if i < static.n then h i else memory i, l)
      else
        (h, static.n)

/- The end of a walk through the table. -/
inductive Probe where
  | detected
  | stopped (i : Nat)
  deriving DecidableEq, Repr

variable (order : ByteOrder)
variable (buf : List UInt8)
variable (iv : Option (List UInt8))

/-
  The walk from slot `i` on. The table does not change in
  it, so a walk of more than `n` steps never ends.
-/
def probe
    (h : Nat → UInt16)
    (n : Nat)
    (c : List UInt8) : Nat → Nat → Outcome Probe
| 0, _ => .error .diverges
| fuel + 1, i =>
    if h i = hashUnused then
      .ok (.stopped i)
    else if h i = hashIv then
      match iv with
      | none => .error .outOfBounds
      | some key =>
          if c = key then
            if checkCrc order c buf iv then
              .ok .detected
            else
              .ok (.stopped i)
          else
            probe h n c fuel ((i + 1) &&& (n - 1))
    else if c = blockAt buf (h i).toNat then
      if checkCrc order c buf iv then
        .ok .detected
      else
        .ok (.stopped i)
    else
      probe h n c fuel ((i + 1) &&& (n - 1))

/- The loop over the blocks of a longer packet. -/
def hashScan
    (n : Nat) :
    Nat → Nat → (Nat → UInt16) →
      Outcome (Deattack × (Nat → UInt16))
| 0, _, h => .ok (.ok, h)
| remaining + 1, j, h => do
    let c := blockAt buf j
    let result ←
      probe order buf iv h n c n (get32Bit c &&& (n - 1))
    match result with
    | .detected => return (.detected, h)
    | .stopped i =>
        hashScan n remaining (j + 1)
          (Function.update h i (UInt16.ofNat j))

/- The table with its `n` entries cleared. -/
def clearTable
    (h : Nat → UInt16)
    (n : Nat) : Nat → UInt16 :=
  fun i => if i < n then hashUnused else h i

/- The mark of the IV, where there is one. -/
def markIv
    (h : Nat → UInt16)
    (n : Nat) : Nat → UInt16 :=
  match iv with
  | none => h
  | some key =>
      Function.update h (get32Bit key &&& (n - 1)) hashIv

/- Detects a crc32 compensation attack on a packet. -/
def detectAttack
    (memory : Nat → UInt16)
    (static : DeattackStatic) :
    Outcome (Deattack × DeattackStatic) := do
  assert (buf.length ≤ sshMaxblocks * sshBlocksize)
  assert (buf.length % sshBlocksize = 0)
  let l ←
    grow (hashFactor (buf.length / sshBlocksize)) 17
      static.n
  let (h, n) := installDetector memory static l
  if buf.length ≤ hashMinblocks then
    return (shortScan order buf iv (blocks buf) 0, ⟨some h, n⟩)
  else
    let (result, h) ←
      hashScan order buf iv n (blocks buf) 0
        (markIv iv (clearTable h n) n)
    return (result, ⟨some h, n⟩)

end Ssh1

------------------------------------------------------------
-- Specification
------------------------------------------------------------

namespace Ssh1

variable (order : ByteOrder)
variable (buf : List UInt8)
variable (iv : Option (List UInt8))

/- Block `j` equals the IV or an earlier block. -/
def Repeats (j : Nat) : Prop :=
  iv = some (blockAt buf j) ∨
    ∃ i < j, blockAt buf i = blockAt buf j

instance (j : Nat) : Decidable (Repeats buf iv j) := by
  unfold Repeats
  infer_instance

/- Some repeated block makes up a pattern in the CRC. -/
def Suspicious : Prop :=
  ∃ j < blocks buf,
    Repeats buf iv j ∧
      checkCrc order (blockAt buf j) buf iv = true

instance : Decidable (Suspicious order buf iv) := by
  unfold Suspicious
  infer_instance

end Ssh1
