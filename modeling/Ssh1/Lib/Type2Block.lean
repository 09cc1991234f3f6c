import Ssh1.Lib.BigEndian

/-
  Blocks of the second type of PKCS #1.

  A block is a zero byte, the byte two, padding without a
  zero byte, a zero byte that ends the padding, and the
  message. The message can be read back, because the padding
  ends at the first zero byte.

  Main declarations:
    * `Type2Block.block`
    * `Type2Block.IsBlock`
    * `Type2Block.skipPadding`
    * `Type2Block.isBlock_iff_drop`
    * `Type2Block.isBlock_unique`
    * `Type2Block.ofBytes_block`
-/

------------------------------------------------------------
-- Blocks
------------------------------------------------------------

namespace Type2Block

/- The block of a padding and a message. -/
def block (padding message : List UInt8) : List UInt8 :=
  0 :: 2 :: (padding ++ 0 :: message)

/- The bytes are the block of a message. -/
def IsBlock (bytes message : List UInt8) : Prop :=
  ∃ padding,
    (0 : UInt8) ∉ padding ∧ bytes = block padding message

/- The index of the first zero byte, counted from `i`. -/
def skipPadding : List UInt8 → Nat → Nat
| [], i => i
| b :: bytes, i =>
    if b = 0 then i else skipPadding bytes (i + 1)

@[simp] theorem length_block
    (padding message : List UInt8) :
    (block padding message).length =
      padding.length + message.length + 3 := by
  simp [block]
  omega

theorem skipPadding_of_not_mem
    {bytes : List UInt8}
    (i : Nat)
    (hPadding : (0 : UInt8) ∉ bytes) :
    skipPadding bytes i = i + bytes.length := by
  induction bytes generalizing i with
  | nil => rfl
  | cons b bytes ih =>
      simp only [List.mem_cons, not_or] at hPadding
      have hByte : b ≠ 0 := fun hb => hPadding.1 hb.symm
      rw [skipPadding, if_neg hByte, ih (i + 1) hPadding.2,
        List.length_cons]
      omega

theorem skipPadding_append
    {padding : List UInt8}
    (message : List UInt8)
    (i : Nat)
    (hPadding : (0 : UInt8) ∉ padding) :
    skipPadding (padding ++ 0 :: message) i =
      i + padding.length := by
  induction padding generalizing i with
  | nil => simp [skipPadding]
  | cons b padding ih =>
      simp only [List.mem_cons, not_or] at hPadding
      have hByte : b ≠ 0 := fun hb => hPadding.1 hb.symm
      rw [List.cons_append, skipPadding, if_neg hByte,
        ih (i + 1) hPadding.2, List.length_cons]
      omega

/- Any bytes with a zero byte split at the first of them. -/
theorem exists_padding
    {bytes : List UInt8}
    (hZero : (0 : UInt8) ∈ bytes) :
    ∃ padding message,
      (0 : UInt8) ∉ padding ∧
        bytes = padding ++ 0 :: message := by
  induction bytes with
  | nil => simp at hZero
  | cons b bytes ih =>
      by_cases hByte : b = 0
      · exact ⟨[], bytes, by simp, by simp [hByte]⟩
      · have hRest : (0 : UInt8) ∈ bytes := by
          simpa [Ne.symm hByte] using hZero
        rcases ih hRest with
          ⟨padding, message, hPadding, hBytes⟩
        refine ⟨b :: padding, message, ?_, ?_⟩
        · simpa [Ne.symm hByte] using hPadding
        · simp [hBytes]

/- A message has a block if a zero byte ends the padding. -/
theorem exists_isBlock_iff
    (bytes : List UInt8) :
    (∃ message, IsBlock bytes message) ↔
      ∃ rest, bytes = 0 :: 2 :: rest ∧ (0 : UInt8) ∈ rest := by
  constructor
  · rintro ⟨message, padding, _, hBytes⟩
    exact ⟨padding ++ 0 :: message, hBytes, by simp⟩
  · rintro ⟨rest, hBytes, hZero⟩
    rcases exists_padding hZero with
      ⟨padding, message, hPadding, hRest⟩
    exact ⟨message, padding, hPadding, by
      rw [hBytes, hRest, block]⟩

/- The message is what follows the first zero byte. -/
theorem isBlock_iff_drop
    {rest message : List UInt8}
    (hZero : (0 : UInt8) ∈ rest) :
    IsBlock (0 :: 2 :: rest) message ↔
      message =
        (0 :: 2 :: rest).drop (skipPadding rest 2 + 1) := by
  rcases exists_padding hZero with
    ⟨padding, tail, hPadding, hRest⟩
  have hDrop :
      (0 :: 2 :: rest : List UInt8).drop
          (skipPadding rest 2 + 1) = tail := by
    rw [hRest, skipPadding_append tail 2 hPadding,
      show 2 + padding.length + 1 =
        padding.length + 1 + 1 + 1 by omega]
    simp
  rw [hDrop]
  constructor
  · rintro ⟨padding', hPadding', hBytes⟩
    have hRest' : rest = padding' ++ 0 :: message := by
      simpa [block] using hBytes
    have hSkip := skipPadding_append tail 2 hPadding
    rw [← hRest, hRest',
      skipPadding_append message 2 hPadding'] at hSkip
    have hLength : padding'.length = padding.length := by
      omega
    have hEqual := hRest'.symm.trans hRest
    have hTail :=
      (List.append_inj hEqual hLength).2
    simpa using hTail
  · intro hMessage
    exact ⟨padding, hPadding, by rw [hRest, hMessage, block]⟩

/- Bytes are the block of one message at most. -/
theorem isBlock_unique
    {bytes message message' : List UInt8}
    (hBlock : IsBlock bytes message)
    (hBlock' : IsBlock bytes message') :
    message = message' := by
  rcases (exists_isBlock_iff bytes).mp ⟨_, hBlock⟩ with
    ⟨rest, hBytes, hZero⟩
  subst hBytes
  rw [isBlock_iff_drop hZero] at hBlock hBlock'
  rw [hBlock, hBlock']

end Type2Block

------------------------------------------------------------
-- Values
------------------------------------------------------------

namespace Type2Block

open BigEndian

/- The number that a block spells. -/
theorem ofBytes_block
    (padding message : List UInt8) :
    ofBytes (block padding message) =
      ofBytes (2 :: padding) * 256 ^ (message.length + 1) +
        ofBytes message := by
  have hSplit :
      block padding message =
        [0] ++ ((2 :: padding) ++ ([0] ++ message)) := by
    simp [block]
  have hZero : ofBytes [0] = 0 := rfl
  rw [hSplit, ofBytes_append, ofBytes_append,
    ofBytes_append [0] message, hZero]
  simp

/- The leading zero byte keeps the value small. -/
theorem ofBytes_block_lt
    (padding message : List UInt8) :
    ofBytes (block padding message) <
      256 ^ (padding.length + message.length + 2) := by
  have hValue :
      ofBytes (block padding message) =
        ofBytes (2 :: (padding ++ 0 :: message)) := by
    simp [block, ofBytes]
  have hLt := ofBytes_lt (2 :: (padding ++ 0 :: message))
  rw [hValue]
  simpa [Nat.add_assoc] using hLt

end Type2Block
