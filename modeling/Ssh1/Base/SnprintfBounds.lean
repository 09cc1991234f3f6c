import Ssh1.Base.SnprintfFormat

/-
  The bounds of formatted printing.

  A call keeps to its buffer as long as every conversion that
  is reached while some space is left stays in that space.
  The size is converted to an `int`, so that there can be
  slack behind the space.

  Main declarations:
    * `printItem_fits`, `printItem_overrun`
    * `vsnprintfLoop_output`, `vsnprintfLoop_overrun`
    * `vsnprintf_bounded_iff`
-/

------------------------------------------------------------
-- Stores
------------------------------------------------------------

namespace Ssh1

section

variable {mem mem' data : List UInt8}
variable {place len : Nat}
variable {c : UInt8}

/- A write within the memory returns. -/
theorem writeAt_of_le
    (hFits : place + data.length ≤ mem.length) :
    writeAt mem place data =
      .ok (MemoryBlock.patch mem place data) :=
  MemoryBlock.store_of_le hFits

/- A write that returns was within the memory. -/
theorem writeAt_eq_ok
    (hWrite : writeAt mem place data = .ok mem') :
    place + data.length ≤ mem.length ∧
      mem'.length = mem.length := by
  unfold writeAt MemoryBlock.store at hWrite
  split at hWrite
  · rename_i hFits
    cases hWrite
    exact ⟨hFits, MemoryBlock.length_patch hFits⟩
  · cases hWrite

/- Filling within the memory returns. -/
theorem memset_of_le
    (hFits : place + len ≤ mem.length) :
    memset mem place c len =
      .ok (MemoryBlock.patch mem place
        (List.replicate len c)) :=
  if_pos hFits

/- Filling that returns was within the memory. -/
theorem memset_eq_ok
    (hSet : memset mem place c len = .ok mem') :
    place + len ≤ mem.length ∧
      mem'.length = mem.length := by
  unfold memset at hSet
  split at hSet
  · rename_i hFits
    cases hSet
    refine ⟨hFits, MemoryBlock.length_patch ?_⟩
    rwa [List.length_replicate]
  · cases hSet

/- The source has no end mark among its first characters. -/
theorem strncpy_of_le
    (hFits : place + len ≤ mem.length)
    (hLength : len ≤ data.length)
    (hNonzero : ∀ c ∈ data.take len, c ≠ 0) :
    strncpy mem place data len =
      .ok (MemoryBlock.patch mem place (data.take len)) := by
  have hShown :
      (data.take len).takeWhile (· ≠ 0) = data.take len := by
    rw [List.takeWhile_eq_self_iff]
    intro c hMem
    exact decide_eq_true (hNonzero c hMem)
  have hTake : (data.take len).length = len := by
    rw [List.length_take, Nat.min_eq_left hLength]
  unfold strncpy
  simp only [hShown, hTake, Nat.sub_self,
    List.replicate_zero, List.append_nil]
  exact if_pos hFits

/- A copy that returns was within the memory. -/
theorem le_of_strncpy
    (hCopy : strncpy mem place data len = .ok mem') :
    place + len ≤ mem.length := by
  unfold strncpy at hCopy
  split at hCopy
  · assumption
  · cases hCopy

end

/- A text behind a padding. -/
theorem patch_replicate
    {mem data : List UInt8}
    {place len : Nat}
    {c : UInt8}
    (hFits : place + len + data.length ≤ mem.length) :
    MemoryBlock.patch
        (MemoryBlock.patch mem place (List.replicate len c))
        (place + len) data =
      MemoryBlock.patch mem place
        (List.replicate len c ++ data) := by
  have hLength : (List.replicate len c).length = len :=
    List.length_replicate
  rw [← MemoryBlock.patch_behind, hLength]
  rwa [hLength]

theorem sizeT_natCast
    {n : Nat}
    (hWord : n < 2 ^ 64) :
    sizeT n = n := by
  unfold sizeT
  omega

end Ssh1

------------------------------------------------------------
-- Integers
------------------------------------------------------------

namespace Ssh1

section

variable {field : IntegerField}
variable {mem mem' : List UInt8}
variable {buffer bufSize slack : Nat}

/- The text in `tmp_buf`. -/
def IntegerField.text (field : IntegerField) : List UInt8 :=
  integerText field field.tmpBufLen.toNat

/- The conversion in terms of the lengths of its field. -/
theorem snprintfConvertUlong_eq
    (hSound : field.Sound)
    (hSome : 0 < field.tmpBufLen) :
    snprintfConvertUlong mem buffer bufSize field =
      if field.bodyLength ≤ bufSize then
        if field.bodyLength < field.width then
          if field.flags.minus then do
            let mem ← writeAt mem buffer field.text
            let mem ←
              memset mem (buffer + field.bodyLength)
                field.flags.padding
                (sizeT (field.fieldWidth - field.bodyLength))
            return (field.fieldWidth, mem)
          else do
            let mem ←
              memset mem buffer field.flags.padding
                (sizeT (field.fieldWidth - field.bodyLength))
            let mem ←
              writeAt mem
                (buffer +
                  (field.fieldWidth -
                    field.bodyLength).toNat)
                field.text
            return (field.fieldWidth, mem)
        else do
          return (field.bodyLength,
            ← writeAt mem buffer field.text)
      else do
        return (bufSize,
          ← writeAt mem buffer (field.text.take bufSize)) := by
  have hText := length_integerText hSound
  have hField :
      (if field.width >
          field.tmpBufLen - field.bodyLength then
        field.tmpBufLen - field.bodyLength
      else
        field.width) = field.fieldWidth := by
    unfold IntegerField.fieldWidth
    split <;> omega
  unfold IntegerField.tmpBufLen at hText hField hSome
  unfold snprintfConvertUlong
  simp only [hText, hField]
  rw [if_neg (by omega), if_neg (by omega)]
  rfl

/- A conversion that fits stores its text. -/
theorem snprintfConvertUlong_fits
    (hSound : field.Sound)
    (hFits : field.Fits slack bufSize)
    (hMem : buffer + bufSize + slack < mem.length) :
    snprintfConvertUlong mem buffer bufSize field =
      .ok ((field.printed bufSize).length,
        MemoryBlock.patch mem buffer
          (field.printed bufSize)) := by
  have hText : field.text.length = field.bodyLength :=
    length_integerText hSound
  rcases hFits with ⟨hSome, hField⟩
  rw [snprintfConvertUlong_eq hSound hSome]
  unfold IntegerField.printed
  by_cases hRoom : field.bodyLength ≤ bufSize
  · rw [if_pos hRoom]
    simp only [if_pos hRoom]
    by_cases hWidth : field.bodyLength < field.width
    · rcases hField hRoom hWidth with ⟨hLow, hHigh⟩
      have hPadded : (field.padded field.text).length =
          field.fieldWidth.toNat :=
        field.length_padded (by rwa [hText])
      have hLess := hSound.width_high
      have hBound : field.fieldWidth ≤ field.width :=
        min_le_left _ _
      have hSize :
          sizeT (field.fieldWidth - field.bodyLength) =
            (field.fieldWidth - field.bodyLength).toNat := by
        unfold sizeT
        omega
      rw [if_pos hWidth, if_pos hWidth, hSize]
      change _ = Except.ok
        (((field.padded field.text).length : Int),
          MemoryBlock.patch mem buffer
            (field.padded field.text))
      rw [hPadded, Int.toNat_of_nonneg (by omega)]
      unfold IntegerField.padded
      rw [hText]
      split
      · rw [writeAt_of_le (by omega), FallibleRun.ok_bind, memset_of_le,
          FallibleRun.ok_bind, ← hText, MemoryBlock.patch_behind]
        · rfl
        · rw [List.length_replicate]
          omega
        · rw [MemoryBlock.length_patch (by omega)]
          omega
      · rw [memset_of_le (by omega), FallibleRun.ok_bind, writeAt_of_le,
          FallibleRun.ok_bind]
        · rw [patch_replicate (by omega)]
          rfl
        · rw [MemoryBlock.length_patch]
          · omega
          · rw [List.length_replicate]
            omega
    · rw [if_neg hWidth, if_neg hWidth,
        writeAt_of_le (by omega), FallibleRun.ok_bind, ← hText]
      rfl
  · rw [if_neg hRoom]
    simp only [if_neg hRoom]
    have hTake : (field.text.take bufSize).length =
        bufSize := by
      rw [List.length_take]
      omega
    rw [writeAt_of_le (by omega), FallibleRun.ok_bind]
    change _ = Except.ok
      (((field.text.take bufSize).length : Int), _)
    rw [hTake]
    rfl

/-
  A conversion that does not fit fails, or goes up to the end
  of the block.
-/
theorem snprintfConvertUlong_overrun
    {status : Int}
    (hSound : field.Sound)
    (hOver : ¬ field.Fits slack bufSize)
    (hMem : mem.length = buffer + bufSize + slack + 1)
    (hObject : mem.length < 2 ^ 63)
    (hOk :
      snprintfConvertUlong mem buffer bufSize field =
        .ok (status, mem')) :
    mem'.length ≤ buffer + status.toNat ∧
      bufSize ≤ status := by
  have hText : field.text.length = field.bodyLength :=
    length_integerText hSound
  have hLess := hSound.width_high
  have hBound : field.fieldWidth ≤ field.width :=
    min_le_left _ _
  by_cases hSome : 0 < field.tmpBufLen
  · rw [snprintfConvertUlong_eq hSound hSome] at hOk
    have hField : field.bodyLength ≤ bufSize ∧
        field.bodyLength < field.width ∧
        (field.bodyLength ≤ field.fieldWidth →
          bufSize + slack < field.fieldWidth) := by
      by_contra hNot
      apply hOver
      refine ⟨hSome, fun hRoom hWidth => ?_⟩
      by_contra hNot'
      exact hNot ⟨hRoom, hWidth, fun hLow => by omega⟩
    rcases hField with ⟨hRoom, hWidth, hWide⟩
    have hBody : field.bodyLength ≤ field.tmpBufLen.toNat :=
      Nat.min_le_right _ _
    have hTmp : field.tmpBufLen < 2 ^ 31 := (fitsInt_wrapInt _).2
    have hLow : 0 ≤ field.fieldWidth := by
      unfold IntegerField.fieldWidth
      omega
    have hPlace : buffer +
          sizeT (field.fieldWidth - field.bodyLength) ≤
            mem.length →
        field.bodyLength ≤ field.fieldWidth ∧
          sizeT (field.fieldWidth - field.bodyLength) =
            (field.fieldWidth -
              field.bodyLength).toNat := by
      unfold sizeT
      omega
    rw [if_pos hRoom, if_pos hWidth] at hOk
    split at hOk
    · rcases FallibleRun.bind_eq_ok_iff.mp hOk with ⟨mem₁, hWrite, hOk⟩
      rcases FallibleRun.bind_eq_ok_iff.mp hOk with ⟨mem₂, hSet, hOk⟩
      cases hOk
      rcases writeAt_eq_ok hWrite with ⟨-, hLength₁⟩
      rcases memset_eq_ok hSet with ⟨hFits, hLength₂⟩
      rcases hPlace (by omega) with ⟨hLow, hSize⟩
      have hHigh := hWide hLow
      constructor <;> omega
    · rcases FallibleRun.bind_eq_ok_iff.mp hOk with ⟨mem₁, hSet, hOk⟩
      rcases FallibleRun.bind_eq_ok_iff.mp hOk with ⟨mem₂, hWrite, hOk⟩
      cases hOk
      rcases memset_eq_ok hSet with ⟨hFits, hLength₁⟩
      rcases writeAt_eq_ok hWrite with ⟨-, hLength₂⟩
      rcases hPlace hFits with ⟨hLow, hSize⟩
      have hHigh := hWide hLow
      constructor <;> omega
  · unfold IntegerField.tmpBufLen at hSome
    unfold snprintfConvertUlong at hOk
    simp only at hOk
    by_cases hNegative : wrapInt (100 + field.width) < 0
    · rw [if_pos hNegative] at hOk
      cases hOk
    · rw [if_neg hNegative, if_pos (by omega)] at hOk
      cases hOk

end

end Ssh1

------------------------------------------------------------
-- Strings
------------------------------------------------------------

namespace Ssh1

/- What is left once a text is stored. -/
def Printed.print
    (out : Printed)
    (text : List UInt8) : Printed where
  mem := MemoryBlock.patch out.mem out.str text
  str := out.str + text.length
  left := out.left - text.length

section

variable {field : StringField}
variable {out out' : Printed}

/- The string in terms of the lengths of its field. -/
theorem printString_eq
    (hFits : field.Fits)
    (hLeft : 0 < out.left)
    (hInt : out.left < 2 ^ 31) :
    printString out field =
      let shown := min field.precision.toNat out.left.toNat
      let width := min field.due out.left.toNat
      (if field.flags.minus then do
        let mem ←
          strncpy out.mem out.str field.strVal shown
        memset mem (out.str + shown) field.flags.padding
          (width - shown)
      else do
        let mem ←
          memset out.mem out.str field.flags.padding
            (width - shown)
        strncpy mem (out.str + (width - shown)) field.strVal
          shown) >>= fun mem =>
      pure ⟨mem, out.str + width, out.left - width⟩ := by
  have hPrecision : 0 ≤ field.precision := hFits
  have hShown :
      (if field.precision > out.left then
        out.left
      else
        field.precision) =
        (min field.precision.toNat out.left.toNat : Nat) := by
    split <;> omega
  have hWidth :
      (if (if field.width > out.left then
              out.left
            else
              field.width) <
            ((min field.precision.toNat
              out.left.toNat : Nat) : Int) then
        ((min field.precision.toNat
          out.left.toNat : Nat) : Int)
      else if field.width > out.left then
        out.left
      else
        field.width) =
        (min field.due out.left.toNat : Nat) := by
    unfold StringField.due
    split_ifs <;> omega
  have hPad :
      wrapInt
          ((min field.due out.left.toNat : Nat) -
            (min field.precision.toNat
              out.left.toNat : Nat)) =
        (min field.due out.left.toNat -
          min field.precision.toNat out.left.toNat : Nat) := by
    unfold StringField.due
    rw [wrapInt_of_range (by omega) (by omega)]
    omega
  unfold printString
  simp only [hShown, hWidth, hPad]
  rw [sizeT_natCast (by omega), sizeT_natCast (by omega),
    Int.toNat_natCast, Int.toNat_natCast, Int.toNat_natCast]
  split
  · simp only [bind_assoc]
  · simp only [bind_assoc]

/- A string is stored as far as there is space. -/
theorem printString_fits
    (hSound : field.Sound)
    (hFits : field.Fits)
    (hLeft : 0 < out.left)
    (hInt : out.left < 2 ^ 31)
    (hMem : out.str + out.left.toNat < out.mem.length) :
    printString out field =
      .ok (out.print (field.printed out.left.toNat)) := by
  have hLength := field.length_printed hSound out.left.toNat
  have hShown := field.length_shown hSound out.left.toNat
  have hPrecision := hSound.precision_le
  have hNonzero : ∀ c ∈ field.shown out.left.toNat, c ≠ 0 := by
    intro c hMem
    apply hSound.nonzero
    apply List.take_subset_take_left _ _ hMem
    exact Nat.min_le_left _ _
  have hDue : field.precision.toNat ≤ field.due :=
    Nat.le_max_right _ _
  rw [printString_eq hFits hLeft hInt]
  unfold Printed.print
  rw [hLength]
  unfold StringField.printed
  simp only
  split
  · rw [strncpy_of_le (by omega) (by omega) hNonzero, FallibleRun.ok_bind,
      memset_of_le, FallibleRun.ok_bind]
    · have hStart : out.str +
            min field.precision.toNat out.left.toNat =
          out.str + (field.shown out.left.toNat).length := by
        rw [hShown]
      change Except.ok _ = _
      congr 2
      rw [hStart]
      apply MemoryBlock.patch_behind
      change _ + (field.shown out.left.toNat).length + _ ≤ _
      rw [hShown, List.length_replicate]
      omega
    · rw [MemoryBlock.length_patch]
      · omega
      · change _ + (field.shown out.left.toNat).length ≤ _
        rw [hShown]
        omega
  · rw [memset_of_le (by omega), FallibleRun.ok_bind, strncpy_of_le, FallibleRun.ok_bind]
    · change Except.ok _ = _
      congr 2
      apply patch_replicate
      change _ + (field.shown out.left.toNat).length ≤ _
      rw [hShown]
      omega
    · rw [MemoryBlock.length_patch]
      · omega
      · rw [List.length_replicate]
        omega
    · omega
    · exact hNonzero

/- A negative precision is a length beyond all blocks. -/
theorem printString_overrun
    (hSound : field.Sound)
    (hOver : ¬ field.Fits)
    (hLeft : 0 < out.left)
    (hObject : out.mem.length < 2 ^ 63) :
    printString out field ≠ .ok out' := by
  intro hOk
  have hNegative : field.precision < 0 := not_le.mp hOver
  have hLow := hSound.precision_low
  have hSize : 2 ^ 63 ≤ sizeT field.precision := by
    unfold sizeT
    omega
  unfold printString at hOk
  simp only [if_neg (show ¬ field.precision > out.left by
    omega)] at hOk
  by_cases hMinus : field.flags.minus = true
  · rw [if_pos hMinus] at hOk
    rcases FallibleRun.bind_eq_ok_iff.mp hOk with
      ⟨mem, hCopy, -⟩
    have hFits := le_of_strncpy hCopy
    omega
  · rw [if_neg hMinus] at hOk
    rcases FallibleRun.bind_eq_ok_iff.mp hOk with
      ⟨mem, hSet, hCopied⟩
    rcases FallibleRun.bind_eq_ok_iff.mp hCopied with
      ⟨mem', hCopy, -⟩
    have hLength := (memset_eq_ok hSet).2
    have hFits := le_of_strncpy hCopy
    omega

end

end Ssh1

------------------------------------------------------------
-- Items
------------------------------------------------------------

namespace Ssh1

/-
  The space and the slack go up to the last byte of the
  buffer, and the place for a NUL lies within it.
-/
structure Printed.Holds
    (out : Printed)
    (slack : Nat) : Prop where
  total : out.str + out.left + slack + 1 = out.mem.length
  inside : -slack ≤ out.left
  left_lt : out.left < 2 ^ 31
  object : out.mem.length < 2 ^ 63

section

variable {out out' : Printed}
variable {slack : Nat}
variable {item : Item}
variable {text more : List UInt8}

/- A text within the space and the slack. -/
theorem Printed.Holds.print
    (hHolds : out.Holds slack)
    (hLeft : 0 < out.left)
    (hText : text.length ≤ out.left.toNat + slack) :
    (out.print text).Holds slack := by
  rcases hHolds with ⟨hTotal, hInside, hInt, hObject⟩
  have hLength :
      (out.print text).mem.length = out.mem.length := by
    apply MemoryBlock.length_patch
    omega
  refine ⟨?_, ?_, ?_, ?_⟩
  · rw [hLength]
    simp only [Printed.print]
    omega
  · simp only [Printed.print]
    omega
  · simp only [Printed.print]
    omega
  · rwa [hLength]

/- The texts of two stores are one text. -/
theorem Printed.print_print
    (hFits :
      out.str + text.length + more.length ≤
        out.mem.length) :
    (out.print text).print more =
      out.print (text ++ more) := by
  simp only [Printed.print, Printed.mk.injEq,
    List.length_append]
  refine ⟨MemoryBlock.patch_behind hFits, by omega, by omega⟩

theorem putChar_of_lt
    (hFits : out.str < out.mem.length)
    (c : UInt8) :
    putChar out c = .ok (out.print [c]) := by
  unfold putChar
  rw [writeAt_of_le (by simpa using hFits)]
  rfl

/- An item that fits is printed. -/
theorem printItem_fits
    (hHolds : out.Holds slack)
    (hLeft : 0 < out.left)
    (hSound : item.Sound)
    (hFits : item.Fits slack out.left.toNat) :
    printItem out item =
      .ok (out.print (item.printed out.left.toNat)) := by
  rcases hHolds with ⟨hTotal, -, hInt, -⟩
  cases item with
  | char c => exact putChar_of_lt (by omega) c
  | integer field =>
      have hSize : sizeT out.left = out.left.toNat := by
        unfold sizeT
        omega
      simp only [printItem, hSize]
      rw [snprintfConvertUlong_fits hSound hFits (by omega),
        FallibleRun.ok_bind]
      rfl
  | string field =>
      exact printString_fits hSound hFits hLeft hInt
        (by omega)
  | nothing =>
      unfold printItem Item.printed Printed.print
      rw [MemoryBlock.patch_nil, List.length_nil,
        Int.natCast_zero, Int.sub_zero, Nat.add_zero]

/- Behind one that does not fit there is no place for a NUL. -/
theorem printItem_overrun
    (hHolds : out.Holds slack)
    (hLeft : 0 < out.left)
    (hSound : item.Sound)
    (hOver : ¬ item.Fits slack out.left.toNat)
    (hOk : printItem out item = .ok out') :
    out'.left ≤ 0 ∧ out'.mem.length ≤ out'.str := by
  rcases hHolds with ⟨hTotal, -, hInt, hObject⟩
  cases item with
  | char c => exact absurd trivial hOver
  | integer field =>
      have hSize : sizeT out.left = out.left.toNat := by
        unfold sizeT
        omega
      rcases FallibleRun.bind_eq_ok_iff.mp hOk with
        ⟨⟨status, mem⟩, hConvert, hPrinted⟩
      cases hPrinted
      rw [hSize] at hConvert
      rcases snprintfConvertUlong_overrun hSound hOver
          (by omega) hObject hConvert with
        ⟨hEnd, hFull⟩
      exact ⟨by simp only; omega, hEnd⟩
  | string field =>
      exact absurd hOk
        (printString_overrun hSound hOver hLeft hObject)
  | nothing => exact absurd trivial hOver

end

end Ssh1

------------------------------------------------------------
-- The Loop
------------------------------------------------------------

namespace Ssh1

section

variable {size fuel : Nat}
variable {c : UInt8}
variable {format : List UInt8}
variable {ap : VaList}
variable {items : List Item}
variable {out : Printed}
variable {slack : Nat}

/- Where nothing is left the rest of the format is given up. -/
theorem vsnprintfLoop_full
    (hLeft : out.left ≤ 0) :
    vsnprintfLoop size (fuel + 1) (c :: format) ap out =
      returnFull size out := by
  have hNot : ¬ 0 < out.left := by
    omega
  rw [vsnprintfLoop]
  split_ifs with hPercent hHead
  · exact absurd hHead.2 hNot
  · rfl
  · rfl

/- A character of its own is one item. -/
theorem vsnprintfLoop_plain
    (hPlain : c ≠ chr '%')
    (hLeft : 0 < out.left) :
    vsnprintfLoop size (fuel + 1) (c :: format) ap out =
      printItem out (.char c) >>=
        vsnprintfLoop size fuel format ap := by
  rw [vsnprintfLoop, if_neg hPlain, if_pos hLeft]
  rfl

/- Two percent signs are one item. -/
theorem vsnprintfLoop_percent
    (hLeft : 0 < out.left) :
    vsnprintfLoop size (fuel + 1)
        (chr '%' :: chr '%' :: format) ap out =
      printItem out (.char (chr '%')) >>=
        vsnprintfLoop size fuel format ap := by
  rw [vsnprintfLoop, if_pos rfl, if_pos ⟨rfl, hLeft⟩]
  rfl

/- A directive is one item. -/
theorem vsnprintfLoop_conversion
    {format' : List UInt8}
    {ap' ap'' : VaList}
    {d : Directive}
    {item : Item}
    (hHead : format.head? ≠ some (chr '%'))
    (hDirective :
      snprintfGetDirective format ap =
        .ok (some (d, format'), ap'))
    (hArgument : readArgument d ap' = .ok (item, ap''))
    (hLeft : 0 < out.left) :
    vsnprintfLoop size (fuel + 1) (chr '%' :: format) ap
        out =
      printItem out item >>=
        vsnprintfLoop size fuel format' ap'' := by
  rw [vsnprintfLoop, if_pos rfl,
    if_neg fun hBoth => hHead hBoth.1, if_neg (by omega),
    hDirective, FallibleRun.ok_bind]
  simp only [hArgument, FallibleRun.ok_bind]

/- One turn prints the first item of what is left. -/
theorem Formats.turn
    (hFormats : Formats (c :: format) ap items) :
    ∃ item rest format' ap',
      items = item :: rest ∧
        Formats format' ap' rest ∧
        format'.length ≤ format.length ∧
        ∀ size fuel out,
          0 < out.left →
            vsnprintfLoop size (fuel + 1) (c :: format) ap
                out =
              printItem out item >>=
                vsnprintfLoop size fuel format' ap' := by
  cases hFormats with
  | plain hPlain hRest =>
      refine ⟨_, _, _, _, rfl, hRest, le_refl _, ?_⟩
      intro size fuel out hLeft
      exact vsnprintfLoop_plain hPlain hLeft
  | percent hRest =>
      refine ⟨_, _, _, _, rfl, hRest, Nat.le_succ _, ?_⟩
      intro size fuel out hLeft
      exact vsnprintfLoop_percent hLeft
  | conversion hHead hDirective hArgument hRest =>
      have hShorter := (snprintfGetDirective_spec hDirective).2.2
      refine ⟨_, _, _, _, rfl, hRest, hShorter.le, ?_⟩
      intro size fuel out hLeft
      exact vsnprintfLoop_conversion hHead hDirective
        hArgument hLeft

theorem Formats.items_nil
    (hFormats : Formats [] ap items) :
    items = [] := by
  cases hFormats
  rfl

/- What is returned once a text is printed. -/
def Returned
    (size : Nat)
    (out : Printed)
    (text : List UInt8)
    (ret : Int) : Prop :=
  ret = wrapInt size ∨
    ret = wrapInt (size - (out.left - text.length) - 1)

/- At the end of the format, or of the space. -/
theorem vsnprintfLoop_end
    (hFuel : format.length ≤ fuel)
    (hHolds : out.Holds slack)
    (hEnd : out.left ≤ 0 ∨ format = []) :
    ∃ ret,
      vsnprintfLoop size fuel format ap out =
          .ok (ret, (out.print [0]).mem) ∧
        Returned size out [] ret := by
  rcases hHolds with ⟨hTotal, hInside, -, -⟩
  have hWrite : writeAt out.mem out.str [0] =
      .ok (out.print [0]).mem := by
    rw [writeAt_of_le (by rw [List.length_singleton]; omega)]
    rfl
  cases format with
  | nil =>
      refine ⟨_, ?_, .inr rfl⟩
      rw [vsnprintfLoop.eq_def]
      simp only [hWrite, FallibleRun.ok_bind, List.length_nil,
        Int.natCast_zero, Int.sub_zero]
      rfl
  | cons c format =>
      have hLeft : out.left ≤ 0 := by
        rcases hEnd with hLeft | hNil
        · exact hLeft
        · cases hNil
      cases fuel with
      | zero => cases hFuel
      | succ fuel =>
          refine ⟨_, ?_, .inl rfl⟩
          rw [vsnprintfLoop_full hLeft, returnFull, hWrite]
          rfl

/- A text that fits is stored with a NUL behind it. -/
theorem vsnprintfLoop_output
    {text : List UInt8}
    (hFormats : Formats format ap items)
    (hFuel : format.length ≤ fuel)
    (hHolds : out.Holds slack)
    (hText :
      itemPrinter.output slack out.left.toNat items =
        some text) :
    ∃ ret,
      vsnprintfLoop size fuel format ap out =
          .ok (ret, (out.print (text ++ [0])).mem) ∧
        Returned size out text ret := by
  induction fuel generalizing format ap items out text with
  | zero =>
      have hNil : format = [] :=
        List.length_eq_zero_iff.mp (Nat.le_zero.mp hFuel)
      subst hNil
      rw [hFormats.items_nil] at hText
      cases hText
      exact vsnprintfLoop_end hFuel hHolds (.inr rfl)
  | succ fuel ih =>
      cases format with
      | nil =>
          rw [hFormats.items_nil] at hText
          cases hText
          exact vsnprintfLoop_end hFuel hHolds (.inr rfl)
      | cons c format =>
          by_cases hLeft : out.left ≤ 0
          · rw [Int.toNat_of_nonpos hLeft,
              BoundedPrinter.output_zero] at hText
            cases hText
            exact vsnprintfLoop_end hFuel hHolds (.inl hLeft)
          · rcases hFormats.turn with
              ⟨item, rest, format', ap', rfl, hRest, hShorter,
                hTurn⟩
            have hRoom : 0 < out.left.toNat := by
              omega
            have hWhole :=
              BoundedPrinter.length_output_le hText
            rcases (BoundedPrinter.output_cons_eq_some
                hRoom).mp hText with
              ⟨first, others, hFirst, hOthers, rfl⟩
            have hLength :=
              itemPrinter.length_le hRoom hFirst
            have hSub := itemPrinter.sub_length hFirst
            rcases Option.ite_none_right_eq_some.mp hFirst
              with ⟨⟨-, hSound, hFits⟩, hPrinted⟩
            have hNext := hHolds.print (by omega) hLength
            have hLeft' : (out.print first).left.toNat =
                out.left.toNat - itemPrinter.due item := by
              rw [← hSub]
              simp only [Printed.print]
              omega
            rw [← hLeft'] at hOthers
            rw [List.length_cons] at hFuel
            rcases ih hRest (by omega) hNext hOthers with
              ⟨ret, hLoop, hRet⟩
            refine ⟨ret, ?_, ?_⟩
            · rw [hTurn size fuel out (by omega),
                printItem_fits hHolds (by omega) hSound hFits,
                Option.some.inj hPrinted,
                FallibleRun.ok_bind, hLoop,
                Printed.print_print, List.append_assoc]
              have hTotal := hHolds.total
              rw [List.length_append] at hWhole ⊢
              rw [List.length_singleton]
              omega
            · rcases hRet with hRet | hRet
              · exact .inl hRet
              · refine .inr (hRet.trans ?_)
                simp only [Printed.print, List.length_append]
                congr 1
                omega

/- There is no byte left for a NUL. -/
theorem vsnprintfLoop_outside
    (hLeft : out.left ≤ 0)
    (hOutside : out.mem.length ≤ out.str)
    (result : Int × List UInt8) :
    vsnprintfLoop size fuel format ap out ≠ .ok result := by
  have hWrite : ∀ mem, writeAt out.mem out.str [0] ≠
      .ok mem := by
    intro mem hOk
    have hFits := (writeAt_eq_ok hOk).1
    rw [List.length_singleton] at hFits
    omega
  intro hOk
  cases format with
  | nil =>
      rw [vsnprintfLoop.eq_def] at hOk
      rcases FallibleRun.bind_eq_ok_iff.mp hOk with
        ⟨mem, hOk', -⟩
      exact hWrite mem hOk'
  | cons c format =>
      cases fuel with
      | zero => cases hOk
      | succ fuel =>
          rw [vsnprintfLoop_full hLeft] at hOk
          rcases FallibleRun.bind_eq_ok_iff.mp hOk with
            ⟨mem, hOk', -⟩
          exact hWrite mem hOk'

/- A text that does not fit is not stored. -/
theorem vsnprintfLoop_overrun
    (hFormats : Formats format ap items)
    (hHolds : out.Holds slack)
    (hNone :
      itemPrinter.output slack out.left.toNat items = none)
    (result : Int × List UInt8) :
    vsnprintfLoop size fuel format ap out ≠ .ok result := by
  induction fuel generalizing format ap items out with
  | zero =>
      cases format with
      | nil =>
          rw [hFormats.items_nil] at hNone
          cases hNone
      | cons c format =>
          intro hOk
          cases hOk
  | succ fuel ih =>
      cases format with
      | nil =>
          rw [hFormats.items_nil] at hNone
          cases hNone
      | cons c format =>
          intro hOk
          rcases Nat.eq_zero_or_pos out.left.toNat with
            hZero | hRoom
          · rw [hZero, BoundedPrinter.output_zero] at hNone
            cases hNone
          · have hSound := hFormats.sound
            rcases hFormats.turn with
              ⟨item, rest, format', ap', rfl, hRest, -,
                hTurn⟩
            have hItem := hSound item List.mem_cons_self
            rw [hTurn size fuel out (by omega)] at hOk
            rcases FallibleRun.bind_eq_ok_iff.mp hOk with
              ⟨out', hPrint, hLoop⟩
            by_cases hFits : item.Fits slack out.left.toNat
            · have hFirst :
                  itemPrinter.render item slack
                      out.left.toNat =
                    some (item.printed out.left.toNat) :=
                if_pos ⟨hRoom, hItem, hFits⟩
              rw [BoundedPrinter.output_cons hRoom, hFirst,
                Option.bind_some, Option.map_eq_none_iff]
                at hNone
              rw [printItem_fits hHolds (by omega) hItem
                hFits] at hPrint
              cases hPrint
              have hNext := hHolds.print (by omega)
                (itemPrinter.length_le hRoom hFirst)
              refine ih hRest hNext ?_ hLoop
              rw [← hNone]
              congr 1
              simp only [Printed.print]
              omega
            · rcases printItem_overrun hHolds (by omega) hItem
                  hFits hPrint with
                ⟨hLeft, hOutside⟩
              exact vsnprintfLoop_outside hLeft hOutside
                result hLoop

end

end Ssh1

------------------------------------------------------------
-- Bounded Formatting
------------------------------------------------------------

namespace Ssh1

/-
  The call stays within the bytes that it is given, leaves a
  NUL among them and does not return more than their number.
-/
def BoundedFormatting
    (str format : List UInt8)
    (ap : VaList) : Prop :=
  ∃ ret mem,
    vsnprintf str str.length format ap = .ok (ret, mem) ∧
      mem.length = str.length ∧
      0 ∈ mem ∧
      ret ≤ str.length

/- The space that `left` stands for at first. -/
def spaceOf (size : Nat) : Nat :=
  (wrapInt (wrapInt size - 1)).toNat

/- The rest of the buffer, which `left` does not count. -/
def slackOf (size : Nat) : Nat :=
  size - 1 - spaceOf size

theorem wrapInt_size_sub_one
    (size : Nat) :
    wrapInt (wrapInt size - 1) = wrapInt (size - 1) := by
  simp only [wrapInt, Int.bmod_def]
  split_ifs <;> omega

theorem wrapInt_size_sub_one_le
    {size : Nat}
    (hSome : 0 < size) :
    wrapInt (wrapInt size - 1) ≤ size - 1 := by
  rw [wrapInt_size_sub_one]
  simp only [wrapInt, Int.bmod_def]
  split <;> omega

/- The state in front of the loop. -/
def Printed.start (str : List UInt8) : Printed where
  mem := str
  str := 0
  left := wrapInt (wrapInt str.length - 1)

/- The whole format is the loop from its start. -/
theorem vsnprintf_eq
    (str format : List UInt8)
    (ap : VaList) :
    vsnprintf str str.length format ap =
      vsnprintfLoop str.length format.length format ap
        (.start str) := by
  simp only [vsnprintf, Printed.start]

theorem Printed.start_left
    (str : List UInt8) :
    (Printed.start str).left.toNat = spaceOf str.length := by
  simp only [Printed.start, spaceOf]

/- The first state, with some slack behind its space. -/
theorem exists_holds_start
    {str : List UInt8}
    (hSome : 0 < str.length)
    (hObject : str.length < 2 ^ 63) :
    ∃ slack,
      (Printed.start str).Holds slack ∧
        (0 < spaceOf str.length →
          slack = slackOf str.length) := by
  have hLe := wrapInt_size_sub_one_le hSome
  have hInt := fitsInt_wrapInt (wrapInt str.length - 1)
  unfold slackOf spaceOf Printed.start
  generalize wrapInt (wrapInt str.length - 1) = left at *
  refine ⟨(str.length - 1 - left).toNat,
    ⟨?_, ?_, hInt.2, hObject⟩, ?_⟩
  · simp only [Int.natCast_zero]
    omega
  · simp only
    omega
  · intro hSpace
    omega

/- The value that is returned does not exceed the size. -/
theorem Returned.le_size
    {str text : List UInt8}
    {ret : Int}
    (hText : text.length ≤ str.length)
    (hRet :
      Returned str.length (.start str) text ret) :
    ret ≤ str.length := by
  unfold Returned Printed.start at hRet
  have hSame :
      wrapInt
          (str.length -
              (wrapInt (wrapInt str.length - 1) -
                text.length) - 1) =
        wrapInt text.length := by
    rw [wrapInt_size_sub_one]
    simp only [wrapInt, Int.bmod_def]
    split_ifs <;> omega
  have hSize := wrapInt_le str.length
  have hLength := wrapInt_le text.length
  rcases hRet with hRet | hRet
  · rw [hRet]
    exact hSize
  · rw [hRet, hSame]
    omega

/- A text that is printed leaves a byte for the NUL. -/
theorem length_lt_of_output
    {str text : List UInt8}
    {slack : Nat}
    {items : List Item}
    (hHolds : (Printed.start str).Holds slack)
    (hText :
      itemPrinter.output slack (Printed.start str).left.toNat
          items =
        some text) :
    text.length < str.length := by
  have hTotal := hHolds.total
  have hInside := hHolds.inside
  have hLe := BoundedPrinter.length_output_le hText
  have hStr : (Printed.start str).str = 0 := by
    rw [Printed.start]
  have hMem : (Printed.start str).mem = str := by
    rw [Printed.start]
  rw [hStr, hMem] at hTotal
  rcases Nat.eq_zero_or_pos (Printed.start str).left.toNat
    with hZero | hSpace
  · rw [hZero, BoundedPrinter.output_zero] at hText
    cases hText
    rw [List.length_nil]
    omega
  · omega

/- What is printed with the slack of the first state. -/
theorem exists_output_start
    {str : List UInt8}
    (hSome : 0 < str.length)
    (hObject : str.length < 2 ^ 63)
    (items : List Item) :
    ∃ slack,
      (Printed.start str).Holds slack ∧
        itemPrinter.output slack (Printed.start str).left.toNat
            items =
          itemPrinter.output (slackOf str.length)
            (spaceOf str.length) items := by
  rcases exists_holds_start hSome hObject with
    ⟨slack, hHolds, hSlack⟩
  refine ⟨slack, hHolds, ?_⟩
  rw [Printed.start_left]
  rcases Nat.eq_zero_or_pos (spaceOf str.length) with
    hZero | hSpace
  · rw [hZero, BoundedPrinter.output_zero,
      BoundedPrinter.output_zero]
  · rw [hSlack hSpace]

section

variable {str format : List UInt8}
variable {ap : VaList}
variable {items : List Item}

/- A text that is printed stands in front of the buffer. -/
theorem vsnprintf_output
    {text : List UInt8}
    (hFormats : Formats format ap items)
    (hSome : 0 < str.length)
    (hObject : str.length < 2 ^ 63)
    (hText :
      itemPrinter.output (slackOf str.length)
          (spaceOf str.length) items =
        some text) :
    text.length < str.length ∧
      ∃ ret,
        vsnprintf str str.length format ap =
            .ok (ret,
              MemoryBlock.patch str 0 (text ++ [0])) ∧
          ret ≤ str.length := by
  rcases exists_output_start hSome hObject items with
    ⟨slack, hHolds, hOutput⟩
  rw [hText] at hOutput
  have hLength := length_lt_of_output hHolds hOutput
  rcases vsnprintfLoop_output hFormats (le_refl _) hHolds
      hOutput with
    ⟨ret, hLoop, hRet⟩
  refine ⟨hLength, ret, ?_, hRet.le_size hLength.le⟩
  rw [vsnprintf_eq, hLoop]
  simp only [Printed.print, Printed.start]

/- Items that do not fit write out of bounds. -/
theorem vsnprintf_overrun
    (hFormats : Formats format ap items)
    (hSome : 0 < str.length)
    (hObject : str.length < 2 ^ 63)
    (hNone :
      itemPrinter.output (slackOf str.length)
          (spaceOf str.length) items =
        none)
    (result : Int × List UInt8) :
    vsnprintf str str.length format ap ≠ .ok result := by
  rcases exists_output_start hSome hObject items with
    ⟨slack, hHolds, hOutput⟩
  rw [hNone] at hOutput
  rw [vsnprintf_eq]
  exact vsnprintfLoop_overrun hFormats hHolds hOutput result

/-
  A call keeps to its buffer exactly if the conversions that
  are reached while some space is left fit into that space.
-/
theorem vsnprintf_bounded_iff
    (hFormats : Formats format ap items)
    (hSome : 0 < str.length)
    (hObject : str.length < 2 ^ 63) :
    BoundedFormatting str format ap ↔
      itemPrinter.Reached
        (fun item room =>
          item.Fits (slackOf str.length) room)
        (spaceOf str.length) items := by
  have hReached :
      itemPrinter.Reached
          (fun item room =>
            item.Fits (slackOf str.length) room)
          (spaceOf str.length) items ↔
        (itemPrinter.output (slackOf str.length)
          (spaceOf str.length) items).isSome := by
    rw [BoundedPrinter.isSome_output]
    apply BoundedPrinter.reached_congr
    intro item hMem room _
    exact ⟨fun hFits => ⟨hFormats.sound item hMem, hFits⟩,
      And.right⟩
  rw [hReached]
  constructor
  · rintro ⟨ret, mem, hOk, -⟩
    by_contra hNone
    exact vsnprintf_overrun hFormats hSome hObject
      (Option.not_isSome_iff_eq_none.mp hNone) _ hOk
  · intro hPrinted
    rcases Option.isSome_iff_exists.mp hPrinted with
      ⟨text, hText⟩
    rcases vsnprintf_output hFormats hSome hObject hText with
      ⟨hLength, ret, hOk, hRet⟩
    refine ⟨ret, _, hOk, ?_, ?_, hRet⟩
    · apply MemoryBlock.length_patch
      rw [List.length_append, List.length_singleton]
      omega
    · simp [MemoryBlock.patch]

end

/- The format `ab%3d` in just the space that it needs. -/
theorem vsnprintf_bounded_iff_sample :
    BoundedFormatting [9, 9, 9, 9, 9, 9]
        ("ab%3d".toList.map chr) [.int 7] ↔
      itemPrinter.Reached
        (fun item room => item.Fits (slackOf 6) room)
        (spaceOf 6)
        [.char (chr 'a'), .char (chr 'b'),
          .integer ⟨10, decimalDigits, 7, noFlags, 3, 0⟩] := by
  apply vsnprintf_bounded_iff
  · refine .plain (by decide) (.plain (by decide) ?_)
    exact .conversion (by decide) rfl rfl .done
  · decide
  · decide

/-
  The field of `%5d` is filled up without a look at the space
  of three bytes.
-/
theorem vsnprintf_not_bounded :
    ¬ BoundedFormatting [9, 9, 9] ("%5d".toList.map chr)
      [.int 7] := by
  rintro ⟨ret, mem, hOk, -⟩
  have hFails :
      vsnprintf [9, 9, 9] ([9, 9, 9] : List UInt8).length
          ("%5d".toList.map chr) [.int 7] =
        .error .outOfBounds := by
    rfl
  rw [hFails] at hOk
  cases hOk

end Ssh1
