import Ssh1.Tty.Modes
import Ssh1.Lib.LastWrite

/-
  Terminal modes are read back as they were written.

  Main declarations:
    * `TtyItem.effect`, `parseModes_items`
    * `TermiosBuild.IsPosix`, `SameModes`
    * `WithUnknown`
    * `ttyModes_roundTrip`
-/

------------------------------------------------------------
-- Single Items
------------------------------------------------------------

namespace Ssh1

variable (build : TermiosBuild)

/- What an item does to the modes. -/
def TtyItem.effect
    (tio : Termios)
    (item : TtyItem) : Termios :=
  if item.op = ttyOpIspeed then
    { tio with
      ispeed := baudToSpeed build (get32Bit item.argument) }
  else if item.op = ttyOpOspeed then
    { tio with
      ospeed := baudToSpeed build (get32Bit item.argument) }
  else
    match build.charCase item.op with
    | some i => tio.setChar i (item.argument.headD 0)
    | none =>
        match build.flagCase item.op with
        | some (field, mask) =>
            tio.setFlag field mask (item.argument.headD 0 ≠ 0)
        | none => tio

/- The argument has the size that goes with the opcode. -/
structure TtyItem.WellSized (item : TtyItem) : Prop where
  op : item.op ≠ ttyOpEnd
  argument :
    item.op < 128 ∧ item.argument.length = 1 ∨
      (128 ≤ item.op ∧ item.op < 160 ∨
        item.op = ttyOpIspeed ∨ item.op = ttyOpOspeed) ∧
        item.argument.length = 4

/- The build has a case for the opcode. -/
def TermiosBuild.knows (opcode : UInt8) : Bool :=
  opcode = ttyOpIspeed || opcode = ttyOpOspeed ||
    (build.charCase opcode).isSome ||
    (build.flagCase opcode).isSome

variable {build}

/- The opcode of a character has one byte of argument. -/
theorem TtyChar.op_lt_of_ofOp
    {opcode : UInt8}
    {c : TtyChar}
    (hFound : TtyChar.ofOp opcode = some c) :
    opcode < 128 := by
  have hOp : c.op = opcode := by
    have hProp := List.find?_some hFound
    simpa using hProp
  rw [← hOp]
  cases c <;> decide

theorem TtyFlag.op_lt_of_ofOp
    {opcode : UInt8}
    {f : TtyFlag}
    (hFound : TtyFlag.ofOp opcode = some f) :
    opcode < 128 := by
  have hOp : f.op = opcode := by
    have hProp := List.find?_some hFound
    simpa using hProp
  rw [← hOp]
  cases f <;> decide

/- Characters and flags have arguments of one byte. -/
theorem op_lt_of_charCase
    {opcode : UInt8}
    {i : Nat}
    (hCase : build.charCase opcode = some i) :
    opcode < 128 := by
  rcases Option.bind_eq_some_iff.mp hCase with ⟨c, hFound, -⟩
  exact TtyChar.op_lt_of_ofOp hFound

/- So has the opcode of a flag. -/
theorem op_lt_of_flagCase
    {opcode : UInt8}
    {case : FlagField × BitVec 32}
    (hCase : build.flagCase opcode = some case) :
    opcode < 128 := by
  rcases Option.bind_eq_some_iff.mp hCase with ⟨f, hFound, -⟩
  exact TtyFlag.op_lt_of_ofOp hFound

/- Four bytes are read as a number, and the rest is left. -/
theorem bufferGetInt_of_length
    {data : List UInt8}
    (hLength : data.length = 4)
    (rest : Buffer) :
    bufferGetInt (data ++ rest) =
      .ok (get32Bit data, rest) := by
  have hGet := bufferGet_append data rest
  rw [hLength] at hGet
  rw [bufferGetInt, hGet]
  rfl

/- An argument of one byte belongs to no speed. -/
theorem ne_speed_of_lt
    {opcode : UInt8}
    (hSmall : opcode < 128) :
    opcode ≠ ttyOpIspeed ∧ opcode ≠ ttyOpOspeed := by
  constructor
  · rintro rfl
    exact absurd hSmall (by decide)
  · rintro rfl
    exact absurd hSmall (by decide)

/- One turn of the parser over an item of one byte. -/
theorem parseMode_byteItem
    {opcode ch : UInt8}
    (hOp : opcode ≠ ttyOpEnd)
    (hSmall : opcode < 128)
    (tio : Termios)
    (rest : Buffer) :
    parseMode build tio (opcode :: ch :: rest) =
      .ok ((TtyItem.effect build tio ⟨opcode, [ch]⟩, true),
        rest) := by
  rcases ne_speed_of_lt hSmall with ⟨hIspeed, hOspeed⟩
  rw [parseMode, bufferGetChar_cons, FallibleRun.ok_bind]
  simp only [TtyItem.effect, if_neg hOp, if_neg hIspeed,
    if_neg hOspeed, if_pos hSmall, List.headD_cons]
  cases build.charCase opcode with
  | some i =>
      simp only [bufferGetChar_cons, FallibleRun.ok_bind]
      rfl
  | none =>
      cases build.flagCase opcode with
      | some case =>
          simp only [bufferGetChar_cons, FallibleRun.ok_bind]
          rfl
      | none =>
          simp only [bufferGetChar_cons, FallibleRun.ok_bind]
          rfl

/- One turn of the parser over an item of four bytes. -/
theorem parseMode_intItem
    {item : TtyItem}
    (hOp : item.op ≠ ttyOpEnd)
    (hClass :
      128 ≤ item.op ∧ item.op < 160 ∨
        item.op = ttyOpIspeed ∨ item.op = ttyOpOspeed)
    (hLength : item.argument.length = 4)
    (tio : Termios)
    (rest : Buffer) :
    parseMode build tio (item.bytes ++ rest) =
      .ok ((item.effect build tio, true), rest) := by
  have hLarge : ¬ item.op < 128 := by
    rcases hClass with ⟨hFrom, -⟩ | hIspeed | hOspeed
    · exact UInt8.not_lt.mpr hFrom
    · rw [hIspeed]
      decide
    · rw [hOspeed]
      decide
  have hNoChar : build.charCase item.op = none := by
    rw [Option.eq_none_iff_forall_ne_some]
    intro i hCase
    exact hLarge (op_lt_of_charCase hCase)
  have hNoFlag : build.flagCase item.op = none := by
    rw [Option.eq_none_iff_forall_ne_some]
    intro case hCase
    exact hLarge (op_lt_of_flagCase hCase)
  rw [TtyItem.bytes, List.cons_append, parseMode,
    bufferGetChar_cons, FallibleRun.ok_bind]
  simp only [if_neg hOp, TtyItem.effect, hNoChar, hNoFlag,
    if_neg hLarge, bufferGetInt_of_length hLength,
    FallibleRun.ok_bind]
  by_cases hIspeed : item.op = ttyOpIspeed
  · rw [if_pos hIspeed, if_pos hIspeed]
    rfl
  · rw [if_neg hIspeed, if_neg hIspeed]
    by_cases hOspeed : item.op = ttyOpOspeed
    · rw [if_pos hOspeed, if_pos hOspeed]
      rfl
    · have hRange : item.op < 160 := by
        rcases hClass with ⟨-, hTo⟩ | hSpeed | hSpeed
        · exact hTo
        · exact absurd hSpeed hIspeed
        · exact absurd hSpeed hOspeed
      rw [if_neg hOspeed, if_neg hOspeed, if_pos hRange]
      rfl

/- An item is read, and what follows it stays. -/
theorem parseMode_item
    {item : TtyItem}
    (hItem : item.WellSized)
    (tio : Termios)
    (rest : Buffer) :
    parseMode build tio (item.bytes ++ rest) =
      .ok ((item.effect build tio, true), rest) := by
  rcases hItem.argument with ⟨hSmall, hLength⟩ | ⟨hClass, hLength⟩
  · rcases item with ⟨opcode, argument⟩
    rcases List.length_eq_one_iff.mp hLength with ⟨ch, rfl⟩
    exact parseMode_byteItem hItem.op hSmall tio rest
  · exact parseMode_intItem hItem.op hClass hLength tio rest

/- Items are read one after the other, up to the end. -/
theorem parseModes_items
    {items : List TtyItem}
    (hItems : ∀ item ∈ items, item.WellSized)
    {turns : Nat}
    (hTurns : items.length < turns)
    (tio : Termios)
    (rest : Buffer) :
    parseModes build turns tio
        (items.flatMap TtyItem.bytes ++ ttyOpEnd :: rest) =
      .ok (items.foldl (TtyItem.effect build) tio, rest) := by
  induction items generalizing turns tio with
  | nil =>
      cases turns with
      | zero => simp at hTurns
      | succ turns =>
          rw [List.flatMap_nil, List.nil_append, parseModes,
            parseMode, bufferGetChar_cons]
          rfl
  | cons item items ih =>
      cases turns with
      | zero => simp at hTurns
      | succ turns =>
          rw [List.length_cons] at hTurns
          rw [List.flatMap_cons, List.append_assoc, parseModes,
            parseMode_item (hItems item (by simp)),
            FallibleRun.ok_bind]
          simp only [if_true]
          exact ih
            (fun other hMem =>
              hItems other (List.mem_cons_of_mem item hMem))
            (by omega) _

/- An opcode without a case changes nothing. -/
theorem effect_of_unknown
    {item : TtyItem}
    (hUnknown : build.knows item.op = false)
    (tio : Termios) :
    item.effect build tio = tio := by
  simp only [TermiosBuild.knows, Bool.or_eq_false_iff,
    decide_eq_false_iff_not, Option.isSome_eq_false_iff,
    Option.isNone_iff_eq_none] at hUnknown
  rcases hUnknown with
    ⟨⟨⟨hIspeed, hOspeed⟩, hNoChar⟩, hNoFlag⟩
  simp only [TtyItem.effect, if_neg hIspeed, if_neg hOspeed,
    hNoChar, hNoFlag]

/- Items that the build does not know have no effect. -/
theorem foldl_effect_filter
    (items : List TtyItem)
    (tio : Termios) :
    items.foldl (TtyItem.effect build) tio =
      (items.filter fun item => build.knows item.op).foldl
        (TtyItem.effect build) tio := by
  induction items generalizing tio with
  | nil => rfl
  | cons item items ih =>
      cases hKnown : build.knows item.op with
      | true =>
          rw [List.filter_cons, if_pos hKnown, List.foldl_cons,
            List.foldl_cons, ih]
      | false =>
          rw [List.filter_cons, hKnown, if_neg Bool.false_ne_true,
            List.foldl_cons, effect_of_unknown hKnown, ih]

end Ssh1

------------------------------------------------------------
-- The Items That Are Written
------------------------------------------------------------

namespace Ssh1

variable {build : TermiosBuild}
variable {tio : Termios}
variable {item : TtyItem}

/- The opcode finds its character. -/
theorem TtyChar.ofOp_op (c : TtyChar) :
    TtyChar.ofOp c.op = some c := by
  cases c <;> rfl

/- The opcode finds its flag. -/
theorem TtyFlag.ofOp_op (f : TtyFlag) :
    TtyFlag.ofOp f.op = some f := by
  cases f <;> rfl

/- No character is left out. -/
theorem TtyChar.mem_all (c : TtyChar) :
    c ∈ TtyChar.all := by
  cases c <;> decide

/- No flag is left out. -/
theorem TtyFlag.mem_all (f : TtyFlag) :
    f ∈ TtyFlag.all := by
  cases f <;> decide

/- The opcode of a flag is none of a character. -/
theorem TtyChar.ofOp_flag (f : TtyFlag) :
    TtyChar.ofOp f.op = none := by
  cases f <;> rfl

/- A speed, a character, or a flag. -/
inductive IsModeItem
    (build : TermiosBuild)
    (tio : Termios) :
    TtyItem → Prop where
  | ospeed :
      IsModeItem build tio
        (speedItem build ttyOpOspeed tio.ospeed)
  | ispeed :
      IsModeItem build tio
        (speedItem build ttyOpIspeed tio.ispeed)
  | char
      {c : TtyChar}
      {i : Nat}
      (hIndex : build.index c = some i) :
      IsModeItem build tio ⟨c.op, [tio.cc i]⟩
  | flag
      {f : TtyFlag}
      {mask : BitVec 32}
      (hMask : build.mask f = some mask) :
      IsModeItem build tio
        ⟨f.op,
          [if tio.flags f.field &&& mask ≠ 0 then 1 else 0]⟩

/- What is sent is a speed, a character or a flag. -/
theorem mem_modeItems_iff :
    item ∈ modeItems build tio ↔
      IsModeItem build tio item := by
  simp only [modeItems, List.mem_cons, List.mem_append,
    List.mem_filterMap, charItem, flagItem,
    Option.map_eq_some_iff]
  constructor
  · rintro (rfl | rfl | ⟨c, -, i, hIndex, rfl⟩ |
      ⟨f, -, mask, hMask, rfl⟩)
    · exact .ospeed
    · exact .ispeed
    · exact .char hIndex
    · exact .flag hMask
  · intro hItem
    cases hItem with
    | ospeed => exact Or.inl rfl
    | ispeed => exact Or.inr (Or.inl rfl)
    | @char c i hIndex =>
        exact Or.inr (Or.inr (Or.inl
          ⟨c, c.mem_all, i, hIndex, rfl⟩))
    | @flag f mask hMask =>
        exact Or.inr (Or.inr (Or.inr
          ⟨f, f.mem_all, mask, hMask, rfl⟩))

/- The rate is one of those in the table. -/
theorem speedToBaud_mem
    (build : TermiosBuild)
    (speed : Nat) :
    speedToBaud build speed ∈ baudRates := by
  unfold speedToBaud
  cases hFind :
      baudRates.find? fun baud =>
        build.speed baud = some speed with
  | none => decide
  | some baud => exact List.mem_of_find?_eq_some hFind

/- Each rate fits the four bytes. -/
theorem lt_of_mem_baudRates :
    ∀ baud ∈ baudRates, baud < 2 ^ 32 := by
  decide

/- The rate is read as it was written. -/
theorem get32Bit_speed
    (build : TermiosBuild)
    (speed : Nat) :
    get32Bit (put32Bit (speedToBaud build speed)) =
      speedToBaud build speed := by
  have hBound :=
    lt_of_mem_baudRates _ (speedToBaud_mem build speed)
  have hRead := get32Bit_put32Bit_append hBound []
  rw [List.append_nil] at hRead
  exact hRead

/- What each of the items does to the modes. -/
theorem effect_ospeedItem
    (s : Termios)
    (speed : Nat) :
    (speedItem build ttyOpOspeed speed).effect build s =
      { s with ospeed :=
          baudToSpeed build (speedToBaud build speed) } := by
  have hOther : ¬ ttyOpOspeed = ttyOpIspeed := by decide
  simp only [TtyItem.effect, speedItem, get32Bit_speed,
    if_neg hOther, if_true]

/- The input speed is set from its rate. -/
theorem effect_ispeedItem
    (s : Termios)
    (speed : Nat) :
    (speedItem build ttyOpIspeed speed).effect build s =
      { s with ispeed :=
          baudToSpeed build (speedToBaud build speed) } := by
  simp only [TtyItem.effect, speedItem, get32Bit_speed,
    if_true]

theorem charCase_op
    (build : TermiosBuild)
    (c : TtyChar) :
    build.charCase c.op = build.index c := by
  rw [TermiosBuild.charCase, TtyChar.ofOp_op]
  rfl

/- The opcode of a flag is not that of a character. -/
theorem flagCase_op
    {f : TtyFlag}
    {mask : BitVec 32}
    (hMask : build.mask f = some mask) :
    build.charCase f.op = none ∧
      build.flagCase f.op = some (f.field, mask) := by
  constructor
  · rw [TermiosBuild.charCase, TtyChar.ofOp_flag]
    rfl
  · rw [TermiosBuild.flagCase, TtyFlag.ofOp_op]
    simp [hMask]

theorem TtyChar.op_lt (c : TtyChar) : c.op < 128 := by
  cases c <;> decide

theorem TtyFlag.op_lt (f : TtyFlag) : f.op < 128 := by
  cases f <;> decide

/- No character has the opcode of the end. -/
theorem TtyChar.op_ne_end (c : TtyChar) : c.op ≠ ttyOpEnd := by
  cases c <;> decide

/- Nor has a flag. -/
theorem TtyFlag.op_ne_end (f : TtyFlag) : f.op ≠ ttyOpEnd := by
  cases f <;> decide

/- A rate takes four bytes. -/
theorem speedItem_wellSized
    (build : TermiosBuild)
    {opcode : UInt8}
    (hSpeed : opcode = ttyOpIspeed ∨ opcode = ttyOpOspeed)
    (speed : Nat) :
    (speedItem build opcode speed).WellSized where
  op := by
    show opcode ≠ ttyOpEnd
    rcases hSpeed with rfl | rfl
    · decide
    · decide
  argument := Or.inr ⟨Or.inr hSpeed, length_put32Bit _⟩

/- The character is set. -/
theorem effect_charItem
    {c : TtyChar}
    {i : Nat}
    (hIndex : build.index c = some i)
    (s : Termios)
    (ch : UInt8) :
    TtyItem.effect build s ⟨c.op, [ch]⟩ = s.setChar i ch := by
  rcases ne_speed_of_lt c.op_lt with ⟨hIspeed, hOspeed⟩
  simp only [TtyItem.effect, if_neg hIspeed, if_neg hOspeed,
    charCase_op, hIndex, List.headD_cons]

/- The flag is set or cleared. -/
theorem effect_flagItem
    {f : TtyFlag}
    {mask : BitVec 32}
    (hMask : build.mask f = some mask)
    (s : Termios)
    (on : Prop)
    [Decidable on] :
    TtyItem.effect build s ⟨f.op, [if on then 1 else 0]⟩ =
      s.setFlag f.field mask on := by
  rcases ne_speed_of_lt f.op_lt with ⟨hIspeed, hOspeed⟩
  rcases flagCase_op hMask with ⟨hNoChar, hCase⟩
  simp only [TtyItem.effect, if_neg hIspeed, if_neg hOspeed,
    hNoChar, hCase, List.headD_cons]
  by_cases hOn : on
  · simp [hOn]
  · simp [hOn]

/- The build knows what it writes, and writes it well. -/
theorem IsModeItem.known
    (hItem : IsModeItem build tio item) :
    build.knows item.op = true ∧ item.WellSized := by
  cases hItem with
  | ospeed =>
      exact ⟨rfl, speedItem_wellSized build (Or.inr rfl) _⟩
  | ispeed =>
      exact ⟨rfl, speedItem_wellSized build (Or.inl rfl) _⟩
  | @char c i hIndex =>
      refine ⟨?_, c.op_ne_end, Or.inl ⟨c.op_lt, rfl⟩⟩
      simp [TermiosBuild.knows, charCase_op, hIndex]
  | @flag f mask hMask =>
      refine ⟨?_, f.op_ne_end, Or.inl ⟨f.op_lt, rfl⟩⟩
      simp [TermiosBuild.knows, (flagCase_op hMask).2]

end Ssh1

------------------------------------------------------------
-- Modes After Reading
------------------------------------------------------------

namespace Ssh1

/-
  Flags are single bits of their fields and have no bit in
  common. The character sizes lie in `CSIZE`, all of which
  belongs to the largest one.
-/
structure TermiosBuild.IsPosix (build : TermiosBuild) :
    Prop where
  oneBit : ∀ f mask, f.isCharSize = false →
    build.mask f = some mask →
      ∃ i, mask = BitVec.twoPow 32 i
  disjoint : ∀ f f' mask mask', f.field = f'.field →
    f ≠ f' → (f.isCharSize && f'.isCharSize) = false →
      build.mask f = some mask →
      build.mask f' = some mask' → mask &&& mask' = 0
  charSize : ∀ f mask, f.isCharSize = true →
    build.mask f = some mask →
      mask &&& build.csize = mask
  cs8 : build.mask .cs8 = some build.csize
  b9600 : build.speed 9600 = some build.b9600

/- The build has a constant for the speed. -/
def TermiosBuild.KnowsSpeed
    (build : TermiosBuild)
    (speed : Nat) : Prop :=
  ∃ baud ∈ baudRates, build.speed baud = some speed

instance
    (build : TermiosBuild)
    (speed : Nat) :
    Decidable (build.KnowsSpeed speed) :=
  inferInstanceAs (Decidable (∃ baud ∈ baudRates, _))

variable {build : TermiosBuild}
variable {tio : Termios}

/- A speed without a constant becomes 9600 baud. -/
theorem baudToSpeed_speedToBaud
    (hPosix : build.IsPosix)
    (speed : Nat) :
    baudToSpeed build (speedToBaud build speed) =
      if build.KnowsSpeed speed then speed
      else build.b9600 := by
  rw [baudToSpeed, if_pos (speedToBaud_mem build speed),
    speedToBaud]
  cases hFind :
      baudRates.find? fun baud =>
        build.speed baud = some speed with
  | none =>
      have hUnknown : ¬ build.KnowsSpeed speed := by
        rintro ⟨baud, hMem, hSpeed⟩
        have hNone := List.find?_eq_none.mp hFind baud hMem
        simp [hSpeed] at hNone
      rw [if_neg hUnknown, Option.getD_none, hPosix.b9600,
        Option.getD_some]
  | some baud =>
      have hSpeed : build.speed baud = some speed := by
        simpa using List.find?_some hFind
      have hKnown : build.KnowsSpeed speed :=
        ⟨baud, List.mem_of_find?_eq_some hFind, hSpeed⟩
      rw [if_pos hKnown, Option.getD_some, hSpeed,
        Option.getD_some]

/- All bits of the mask, or none of them. -/
def IsWhole (x mask : BitVec 32) : Prop :=
  x &&& mask = 0 ∨ x &&& mask = mask

/- One bit is set or clear. -/
theorem isWhole_twoPow
    (x : BitVec 32)
    (i : Nat) :
    IsWhole x (BitVec.twoPow 32 i) := by
  rw [IsWhole, BitVec.and_twoPow]
  cases x.getLsbD i with
  | true => exact Or.inr rfl
  | false => exact Or.inl rfl

/- Bits outside of a mask do not change in it. -/
theorem setFlag_and_disjoint
    {y mask mask' : BitVec 32}
    (hDisjoint : mask &&& mask' = 0)
    (on : Bool) :
    (if on then y ||| mask' else y &&& ~~~mask') &&& mask =
      y &&& mask := by
  apply BitVec.eq_of_getLsbD_eq
  intro i hi
  have hBit := congrArg (fun v => BitVec.getLsbD v i) hDisjoint
  rw [BitVec.getLsbD_and] at hBit
  have hZero : (0 : BitVec 32).getLsbD i = false := by simp
  rw [hZero] at hBit
  cases on with
  | true =>
      simp only [if_true, BitVec.getLsbD_and,
        BitVec.getLsbD_or]
      grind
  | false =>
      simp only [Bool.false_eq_true, if_false,
        BitVec.getLsbD_and, BitVec.getLsbD_not]
      grind

/- A part of a mask adds nothing to it. -/
theorem or_part
    {mask mask' : BitVec 32}
    (hPart : mask' &&& mask = mask') :
    mask ||| mask' = mask := by
  apply BitVec.eq_of_getLsbD_eq
  intro i hi
  have hBit := congrArg (fun v => BitVec.getLsbD v i) hPart
  rw [BitVec.getLsbD_and] at hBit
  rw [BitVec.getLsbD_or]
  grind

/- A part of a mask with all bits set, or with none. -/
theorem setFlag_and_part
    {x y mask mask' : BitVec 32}
    (hWhole : IsWhole x mask)
    (hPart : mask' &&& mask = mask')
    (hSame : y &&& mask = x &&& mask) :
    (if x &&& mask' ≠ 0 then y ||| mask'
      else y &&& ~~~mask') &&& mask = x &&& mask := by
  have hValue : x &&& mask' = x &&& mask &&& mask' := by
    rw [BitVec.and_assoc, BitVec.and_comm mask, hPart]
  rw [hValue]
  rcases hWhole with hNone | hAll
  · have hOff : ¬ (0 : BitVec 32) &&& mask' ≠ 0 := by simp
    rw [hNone] at hSame ⊢
    rw [if_neg hOff, BitVec.and_assoc,
      BitVec.and_comm (~~~mask'), ← BitVec.and_assoc, hSame]
    simp
  · rw [hAll] at hSame ⊢
    rw [BitVec.and_comm mask mask', hPart]
    by_cases hEmpty : mask' = 0
    · have hAllBits : ~~~(0 : BitVec 32) = BitVec.allOnes 32 :=
        rfl
      rw [if_neg (not_not_intro hEmpty), hEmpty, hAllBits,
        BitVec.and_allOnes, hSame]
    · rw [if_pos hEmpty, BitVec.and_or_distrib_right, hSame,
        hPart, or_part hPart]

end Ssh1

------------------------------------------------------------
-- The Round Trip
------------------------------------------------------------

namespace Ssh1

/-
  The modes that were transmitted are the same. Character
  sizes between the smallest and the largest one are not
  spoken of.
-/
structure SameModes
    (build : TermiosBuild)
    (tio result : Termios) : Prop where
  chars : ∀ c i, build.index c = some i →
    result.cc i = tio.cc i
  flags : ∀ f mask, f.isCharSize = false →
    build.mask f = some mask →
      result.flags f.field &&& mask =
        tio.flags f.field &&& mask
  charSize : IsWhole (tio.flags .cCflag) build.csize →
    result.flags .cCflag &&& build.csize =
      tio.flags .cCflag &&& build.csize
  ispeed :
    result.ispeed =
      if build.KnowsSpeed tio.ispeed then tio.ispeed
      else build.b9600
  ospeed :
    result.ospeed =
      if build.KnowsSpeed tio.ospeed then tio.ospeed
      else build.b9600

/-
  The stream has the items of the modes, and between them
  others that the build does not know.
-/
def WithUnknown
    (build : TermiosBuild)
    (tio : Termios)
    (stream : List UInt8) : Prop :=
  ∃ items : List TtyItem,
    (items.filter fun item => build.knows item.op) =
        modeItems build tio ∧
      (∀ item ∈ items,
        build.knows item.op = false → item.WellSized) ∧
      stream = items.flatMap TtyItem.bytes ++ [ttyOpEnd]

variable {build : TermiosBuild}
variable {tio : Termios}

/- Every item takes an opcode. -/
theorem length_le_flatMap_bytes (items : List TtyItem) :
    items.length ≤ (items.flatMap TtyItem.bytes).length := by
  induction items with
  | nil => exact Nat.le_refl _
  | cons item items ih =>
      rw [List.flatMap_cons, List.length_append,
        List.length_cons, TtyItem.bytes, List.length_cons]
      omega

/- The modes after all items. -/
def modesRead
    (build : TermiosBuild)
    (tio base : Termios) : Termios :=
  (modeItems build tio).foldl (TtyItem.effect build) base

/- Items in between that the build does not know make no
  difference. -/
theorem ttyParseModes_withUnknown
    {stream : List UInt8}
    (hStream : WithUnknown build tio stream)
    (base : Termios)
    (rest : Buffer) :
    ttyParseModes build (some base) (stream ++ rest) =
      .ok (some (modesRead build tio base), rest) := by
  rcases hStream with ⟨items, hItems, hUnknown, rfl⟩
  have hSized : ∀ item ∈ items, item.WellSized := by
    intro item hMem
    cases hKnown : build.knows item.op with
    | false => exact hUnknown item hMem hKnown
    | true =>
        have hMode : item ∈ modeItems build tio := by
          rw [← hItems]
          exact List.mem_filter.mpr ⟨hMem, hKnown⟩
        exact (mem_modeItems_iff.mp hMode).known.2
  have hTurns :
      items.length <
        (items.flatMap TtyItem.bytes ++
          ttyOpEnd :: rest).length + 1 := by
    have hLength := length_le_flatMap_bytes items
    rw [List.length_append]
    omega
  rw [List.append_assoc, List.singleton_append, ttyParseModes,
    parseModes_items hSized hTurns, foldl_effect_filter, hItems]
  rfl

/- What an item of the modes leaves as it is. -/
theorem IsModeItem.keeps_cc
    {item : TtyItem}
    (hItem : IsModeItem build tio item)
    (s : Termios)
    (i : Nat)
    (hSame : s.cc i = tio.cc i) :
    (item.effect build s).cc i = tio.cc i := by
  cases hItem with
  | ospeed =>
      rw [effect_ospeedItem]
      exact hSame
  | ispeed =>
      rw [effect_ispeedItem]
      exact hSame
  | @char c j hIndex =>
      rw [effect_charItem hIndex, Termios.setChar]
      simp only
      split
      · rename_i hEq
        rw [hEq]
      · exact hSame
  | flag hMask =>
      rw [effect_flagItem hMask]
      exact hSame

/- An item leaves a field that is none of its own. -/
theorem IsModeItem.keeps_mask
    {item : TtyItem}
    (hItem : IsModeItem build tio item)
    {field : FlagField}
    {mask : BitVec 32}
    (hWhole : IsWhole (tio.flags field) mask)
    (hMasks : ∀ f mask', f.field = field →
      build.mask f = some mask' →
        mask &&& mask' = 0 ∨ mask' &&& mask = mask')
    (s : Termios)
    (hSame : s.flags field &&& mask = tio.flags field &&& mask) :
    (item.effect build s).flags field &&& mask =
      tio.flags field &&& mask := by
  cases hItem with
  | ospeed =>
      rw [effect_ospeedItem]
      exact hSame
  | ispeed =>
      rw [effect_ispeedItem]
      exact hSame
  | char hIndex =>
      rw [effect_charItem hIndex]
      exact hSame
  | @flag f mask' hMask =>
      rw [effect_flagItem hMask, Termios.setFlag]
      simp only
      by_cases hField : field = f.field
      · rw [if_pos hField, ← hField]
        rcases hMasks f mask' hField.symm hMask with
          hDisjoint | hPart
        · rw [setFlag_and_disjoint hDisjoint, hSame]
        · have hValue :=
            setFlag_and_part hWhole hPart hSame
          simpa only [decide_eq_true_eq] using hValue
      · rw [if_neg hField]
        exact hSame

/- The two lines of a terminal. -/
inductive SpeedLine where
  | input
  | output

/- The speed of a line. -/
def Termios.speedOf (tio : Termios) : SpeedLine → Nat
| .input => tio.ispeed
| .output => tio.ospeed

/- The speed that a line has after the stream. -/
theorem IsModeItem.keeps_speed
    {item : TtyItem}
    (hItem : IsModeItem build tio item)
    (line : SpeedLine)
    (s : Termios)
    (hSame :
      s.speedOf line =
        baudToSpeed build
          (speedToBaud build (tio.speedOf line))) :
    (item.effect build s).speedOf line =
      baudToSpeed build
        (speedToBaud build (tio.speedOf line)) := by
  cases hItem with
  | ospeed =>
      rw [effect_ospeedItem]
      cases line with
      | input => exact hSame
      | output => rfl
  | ispeed =>
      rw [effect_ispeedItem]
      cases line with
      | input => rfl
      | output => exact hSame
  | char hIndex =>
      rw [effect_charItem hIndex]
      cases line <;> exact hSame
  | flag hMask =>
      rw [effect_flagItem hMask]
      cases line <;> exact hSame

/- Each line has an item that sets its speed. -/
theorem modesRead_speedOf
    (line : SpeedLine)
    (base : Termios) :
    (modesRead build tio base).speedOf line =
      baudToSpeed build
        (speedToBaud build (tio.speedOf line)) := by
  have hKeeps :
      ∀ item ∈ modeItems build tio, ∀ s : Termios,
        s.speedOf line = baudToSpeed build
          (speedToBaud build (tio.speedOf line)) →
        (item.effect build s).speedOf line = baudToSpeed build
          (speedToBaud build (tio.speedOf line)) :=
    fun item hMem =>
      (mem_modeItems_iff.mp hMem).keeps_speed line
  cases line with
  | input =>
      refine LastWrite.view_foldl_of_mem _ hKeeps
        (mem_modeItems_iff.mpr .ispeed) ?_ base
      intro s
      rw [effect_ispeedItem]
      rfl
  | output =>
      refine LastWrite.view_foldl_of_mem _ hKeeps
        (mem_modeItems_iff.mpr .ospeed) ?_ base
      intro s
      rw [effect_ospeedItem]
      rfl

/- A flag sets its own mask, whatever it was before. -/
theorem setFlag_and_self
    {x y mask : BitVec 32}
    (hWhole : IsWhole x mask) :
    (if x &&& mask ≠ 0 then y ||| mask
      else y &&& ~~~mask) &&& mask = x &&& mask := by
  by_cases hNone : x &&& mask = 0
  · rw [if_neg (not_not_intro hNone), hNone, BitVec.and_assoc,
      BitVec.and_comm (~~~mask)]
    simp
  · have hAll : x &&& mask = mask := by
      rcases hWhole with hZero | hFull
      · exact absurd hZero hNone
      · exact hFull
    have hPart : y &&& mask &&& mask = y &&& mask := by
      rw [BitVec.and_assoc, BitVec.and_self]
    rw [if_pos hNone, hAll, BitVec.and_or_distrib_right,
      BitVec.and_self, BitVec.or_comm]
    exact or_part hPart

/- A mask that all other flags leave alone, or lie in. -/
theorem modesRead_and_mask
    {field : FlagField}
    {mask : BitVec 32}
    (hWhole : IsWhole (tio.flags field) mask)
    (hMasks : ∀ f mask', f.field = field →
      build.mask f = some mask' →
        mask &&& mask' = 0 ∨ mask' &&& mask = mask')
    {f : TtyFlag}
    (hField : f.field = field)
    (hMask : build.mask f = some mask)
    (base : Termios) :
    (modesRead build tio base).flags field &&& mask =
      tio.flags field &&& mask := by
  refine LastWrite.view_foldl_of_mem
    (fun s => s.flags field &&& mask) ?_
    (mem_modeItems_iff.mpr (.flag hMask)) ?_ base
  · intro item hMem s hSame
    exact (mem_modeItems_iff.mp hMem).keeps_mask hWhole hMasks
      s hSame
  · intro s
    rw [effect_flagItem hMask, Termios.setFlag]
    simp only
    rw [hField, if_pos rfl]
    have hValue :=
      setFlag_and_self (y := s.flags field) hWhole
    simpa only [decide_eq_true_eq] using hValue

/- What the items set is what they were made from. -/
theorem sameModes_modesRead
    (hPosix : build.IsPosix)
    (tio base : Termios) :
    SameModes build tio (modesRead build tio base) where
  chars := by
    intro c i hIndex
    refine LastWrite.view_foldl_of_mem
      (fun s => s.cc i) ?_
      (mem_modeItems_iff.mpr (.char hIndex)) ?_ base
    · intro item hMem s hSame
      exact (mem_modeItems_iff.mp hMem).keeps_cc s i hSame
    · intro s
      rw [effect_charItem hIndex, Termios.setChar]
      simp only [if_true]
  flags := by
    intro f mask hFlag hMask
    rcases hPosix.oneBit f mask hFlag hMask with ⟨i, hBit⟩
    refine modesRead_and_mask ?_ ?_ rfl hMask base
    · rw [hBit]
      exact isWhole_twoPow _ i
    · intro f' mask' hField hMask'
      by_cases hSame : f = f'
      · rw [← hSame, hMask] at hMask'
        cases hMask'
        exact Or.inr BitVec.and_self
      · refine Or.inl (hPosix.disjoint f f' mask mask'
          hField.symm hSame ?_ hMask hMask')
        rw [hFlag, Bool.false_and]
  charSize := by
    intro hWhole
    refine modesRead_and_mask hWhole ?_ rfl hPosix.cs8 base
    intro f mask hField hMask
    cases hSize : f.isCharSize with
    | true => exact Or.inr (hPosix.charSize f mask hSize hMask)
    | false =>
        have hOther : TtyFlag.cs8 ≠ f := by
          rintro rfl
          exact absurd hSize (by decide)
        refine Or.inl (hPosix.disjoint .cs8 f _ mask
          hField.symm hOther ?_ hPosix.cs8 hMask)
        rw [hSize, Bool.and_false]
  ispeed := by
    rw [← baudToSpeed_speedToBaud hPosix]
    exact modesRead_speedOf .input base
  ospeed := by
    rw [← baudToSpeed_speedToBaud hPosix]
    exact modesRead_speedOf .output base

/- The bytes that were written have no unknown items. -/
theorem withUnknown_ttyMakeModes
    (build : TermiosBuild)
    (tio : Termios) :
    WithUnknown build tio (ttyMakeModes build (some tio)) := by
  have hKnown : ∀ item ∈ modeItems build tio,
      build.knows item.op = true := by
    intro item hMem
    exact (mem_modeItems_iff.mp hMem).known.1
  refine ⟨modeItems build tio, ?_, ?_, rfl⟩
  · exact List.filter_eq_self.mpr hKnown
  · intro item hMem hUnknown
    rw [hKnown item hMem] at hUnknown
    cases hUnknown

/-
  The modes come back, over any others, and the bytes of the
  stream are taken, whatever unknown items are in it.
-/
theorem ttyModes_roundTrip
    (build : TermiosBuild)
    (hPosix : build.IsPosix)
    (tio base : Termios) :
    ∃ result, SameModes build tio result ∧
      ∀ rest,
        ttyParseModes build (some base)
            (ttyMakeModes build (some tio) ++ rest) =
          .ok (some result, rest) ∧
        ∀ stream, WithUnknown build tio stream →
          ttyParseModes build (some base) (stream ++ rest) =
            .ok (some result, rest) := by
  refine ⟨modesRead build tio base,
    sameModes_modesRead hPosix tio base, ?_⟩
  intro rest
  constructor
  · exact ttyParseModes_withUnknown
      (withUnknown_ttyMakeModes build tio) base rest
  · intro stream hStream
    exact ttyParseModes_withUnknown hStream base rest

end Ssh1

------------------------------------------------------------
-- The Constants of Linux
------------------------------------------------------------

namespace Ssh1

/- The macros of `termios.h` on Linux. -/
def linuxBuild : TermiosBuild where
  index
  | .vintr => some 0
  | .vquit => some 1
  | .verase => some 2
  | .vkill => some 3
  | .veof => some 4
  | .vstart => some 8
  | .vstop => some 9
  | .vsusp => some 10
  | .veol => some 11
  | .vreprint => some 12
  | .vdiscard => some 13
  | .vwerase => some 14
  | .vlnext => some 15
  | .veol2 => some 16
  | .vdsusp | .vflush | .vswtch | .vstatus => none
  mask
  | .ignpar => some 0x4
  | .parmrk => some 0x8
  | .inpck => some 0x10
  | .istrip => some 0x20
  | .inlcr => some 0x40
  | .igncr => some 0x80
  | .icrnl => some 0x100
  | .iuclc => some 0x200
  | .ixon => some 0x400
  | .ixany => some 0x800
  | .ixoff => some 0x1000
  | .imaxbel => some 0x2000
  | .isig => some 0x1
  | .icanon => some 0x2
  | .xcase => some 0x4
  | .echo => some 0x8
  | .echoe => some 0x10
  | .echok => some 0x20
  | .echonl => some 0x40
  | .noflsh => some 0x80
  | .tostop => some 0x100
  | .echoctl => some 0x200
  | .echoke => some 0x800
  | .pendin => some 0x4000
  | .iexten => some 0x8000
  | .opost => some 0x1
  | .olcuc => some 0x2
  | .onlcr => some 0x4
  | .ocrnl => some 0x8
  | .onocr => some 0x10
  | .onlret => some 0x20
  | .cs7 => some 0x20
  | .cs8 => some 0x30
  | .parenb => some 0x100
  | .parodd => some 0x200
  csize := 0x30
  speed
  | 0 => some 0
  | 50 => some 1
  | 75 => some 2
  | 110 => some 3
  | 134 => some 4
  | 150 => some 5
  | 200 => some 6
  | 300 => some 7
  | 600 => some 8
  | 1200 => some 9
  | 1800 => some 10
  | 2400 => some 11
  | 4800 => some 12
  | 9600 => some 13
  | 19200 => some 14
  | 38400 => some 15
  | 57600 => some 0x1001
  | 115200 => some 0x1002
  | 230400 => some 0x1003
  | _ => none
  b9600 := 13

/- A bit for each flag of the build. -/
def linuxBit (f : TtyFlag) : Nat :=
  ((List.range 32).find? fun i =>
    linuxBuild.mask f = some (BitVec.twoPow 32 i)).getD 0

/- The build of Linux is one that the result is about. -/
theorem linuxBuild_isPosix : linuxBuild.IsPosix where
  oneBit := by
    intro f mask hFlag hMask
    refine ⟨linuxBit f, ?_⟩
    cases f <;> first
      | (cases hMask; decide)
      | cases hFlag
  disjoint := by
    have hAll : ∀ f ∈ TtyFlag.all, ∀ f' ∈ TtyFlag.all,
        f.field = f'.field → f ≠ f' →
        (f.isCharSize && f'.isCharSize) = false →
          (linuxBuild.mask f).getD 0 &&&
            (linuxBuild.mask f').getD 0 = 0 := by
      decide +kernel
    intro f f' mask mask' hField hOther hSize hMask hMask'
    have hBits :=
      hAll f f.mem_all f' f'.mem_all hField hOther hSize
    rw [hMask, hMask'] at hBits
    exact hBits
  charSize := by
    intro f mask hSize hMask
    cases f <;> first
      | (cases hMask; decide)
      | cases hSize
  cs8 := rfl
  b9600 := rfl

/- Seven bits to a character, at the speed of 460800 baud. -/
def sevenBitModes : Termios where
  flags
  | .cCflag => 0x20
  | _ => 0
  cc := fun _ => 0
  ispeed := 13
  ospeed := 0x1004

/- A terminal with nothing set. -/
def zeroModes : Termios where
  flags := fun _ => 0
  cc := fun _ => 0
  ispeed := 0
  ospeed := 0

/- Eight bits to a character, at 38400 baud. -/
def eightBitModes : Termios where
  flags
  | .cCflag => 0x30
  | .cLflag => 0x3
  | _ => 0
  cc := fun i => if i = 0 then 3 else 0
  ispeed := 15
  ospeed := 15

/- A terminal with other flags, characters and speeds. -/
def otherModes : Termios where
  flags := fun _ => 0x10
  cc := fun _ => 255
  ispeed := 13
  ospeed := 13

theorem ttyModes_roundTrip_sevenBits :
    linuxBuild.IsPosix ∧
      (∃ result, SameModes linuxBuild sevenBitModes result ∧
        ∀ rest,
          ttyParseModes linuxBuild (some zeroModes)
              (ttyMakeModes linuxBuild (some sevenBitModes) ++
                rest) =
            .ok (some result, rest) ∧
          ∀ stream,
            WithUnknown linuxBuild sevenBitModes stream →
              ttyParseModes linuxBuild (some zeroModes)
                  (stream ++ rest) =
                .ok (some result, rest)) ∧
      ∃ result,
        ttyParseModes linuxBuild (some otherModes)
            (ttyMakeModes linuxBuild (some eightBitModes)) =
          .ok (some result, []) ∧
        result.flags .cCflag &&& linuxBuild.csize = 0x30 ∧
        result.cc 0 = 3 ∧
        result.ospeed = 15 := by
  refine ⟨linuxBuild_isPosix,
    ttyModes_roundTrip linuxBuild linuxBuild_isPosix
      sevenBitModes zeroModes, ?_⟩
  rcases ttyModes_roundTrip linuxBuild linuxBuild_isPosix
      eightBitModes otherModes with
    ⟨result, hSame, hParse⟩
  have hWhole :
      IsWhole (eightBitModes.flags .cCflag)
        linuxBuild.csize :=
    .inr (by decide)
  have hKnown : linuxBuild.KnowsSpeed eightBitModes.ospeed :=
    ⟨38400, by decide, rfl⟩
  refine ⟨result, ?_, ?_, ?_, ?_⟩
  · simpa using (hParse []).1
  · exact hSame.charSize hWhole
  · exact hSame.chars .vintr 0 rfl
  · exact hSame.ospeed.trans (if_pos hKnown)

/-
  Seven bits become eight, and a speed that is not in the
  table becomes 9600 baud.
-/
theorem ttyModes_not_roundTrip :
    ∃ result,
      ttyParseModes linuxBuild (some zeroModes)
          (ttyMakeModes linuxBuild (some sevenBitModes)) =
        .ok (some result, []) ∧
      result.flags .cCflag &&& linuxBuild.csize ≠
        sevenBitModes.flags .cCflag &&& linuxBuild.csize ∧
      result.ospeed ≠ sevenBitModes.ospeed := by
  refine ⟨_, rfl, ?_, ?_⟩
  · decide
  · decide

end Ssh1
