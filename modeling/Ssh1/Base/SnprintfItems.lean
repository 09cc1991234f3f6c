import Ssh1.Base.Snprintf
import Ssh1.Lib.BoundedPrinter
import Mathlib.Data.Nat.Digits.Lemmas

/-
  What the conversions print, by the space that is left.

  The text of an integer does not depend on the space, but
  where it fits its field is filled up without a look at the
  space. A string is cut off first and then filled up.

  Main declarations:
    * `IntegerField.bodyLength`, `IntegerField.fieldWidth`
    * `Item.Fits`
    * `itemPrinter`
-/

------------------------------------------------------------
-- Lengths
------------------------------------------------------------

namespace Ssh1

/- The digits of a number, of which there is at least one. -/
def digitCount (base value : Nat) : Nat :=
  max 1 (Nat.digits base value).length

/-
  The digits that a precision asks for. Its counter goes on
  down while the number has digits, and with enough of them
  it comes out on the other side of the `int`.
-/
def precisionDigits
    (digits : Nat)
    (precision : Int) : Nat :=
  if precision + 2 ^ 31 < digits then
    (precision + 2 ^ 32).toNat
  else
    precision.toNat

namespace IntegerField

/- The size of the `tmp_buf` that the digits are put in. -/
def tmpBufLen (field : IntegerField) : Int :=
  wrapInt (100 + field.width)

/- The digits without regard to the size of `tmp_buf`. -/
def digitsDue (field : IntegerField) : Nat :=
  max (digitCount field.base field.ulongVal)
    (precisionDigits (digitCount field.base field.ulongVal)
      field.precision)

/- The length of the digits and the prefix in `tmp_buf`. -/
def bodyLength (field : IntegerField) : Nat :=
  min
    (field.digitsDue +
      (integerPrefix field.base field.flags).length)
    field.tmpBufLen.toNat

/- The width is bounded by what `tmp_buf` has left. -/
def fieldWidth (field : IntegerField) : Int :=
  min field.width (field.tmpBufLen - field.bodyLength)

/- What is printed where there is room for all of it. -/
def due (field : IntegerField) : Nat :=
  if field.bodyLength < field.width then
    max field.bodyLength field.fieldWidth.toNat
  else
    field.bodyLength

/- The parameters that the conversions really have. -/
structure Sound (field : IntegerField) : Prop where
  base : 2 ≤ field.base
  digits : field.base ≤ field.digits.length
  nonzero : ∀ c ∈ field.digits, c ≠ 0
  ulong : field.ulongVal < 2 ^ 64
  width_low : -2 ^ 31 ≤ field.width
  width_high : field.width < 2 ^ 31
  precision_low : -2 ^ 31 ≤ field.precision
  precision_high : field.precision < 2 ^ 31

end IntegerField

/- The counter of the precision after a digit. -/
theorem wrapInt_pred
    {precision : Int}
    (hLow : -2 ^ 31 ≤ precision)
    (hHigh : precision < 2 ^ 31) :
    wrapInt (precision - 1) =
      if precision = -2 ^ 31 then
        2 ^ 31 - 1
      else
        precision - 1 := by
  split
  · rename_i hLeast
    rw [hLeast]
    rfl
  · apply wrapInt_of_range
    · omega
    · omega

/- A digit less for the value without its last digit. -/
theorem digitCount_step
    {base : Nat}
    (hBase : 2 ≤ base)
    (value : Nat) :
    digitCount base value =
      if value / base = 0 then
        1
      else
        digitCount base (value / base) + 1 := by
  rcases Nat.eq_zero_or_pos value with rfl | hPos
  · simp [digitCount]
  · rw [digitCount, Nat.digits_def' (by omega) hPos,
      List.length_cons, digitCount]
    split
    · rename_i hZero
      rw [hZero]
      simp
    · rename_i hMore
      have hSome : 0 < (Nat.digits base (value / base)).length := by
        rw [List.length_pos_iff]
        exact Nat.digits_ne_nil_iff_ne_zero.mpr hMore
      omega

/- A word has at most as many digits as bits. -/
theorem digitCount_le
    {base value : Nat}
    (hBase : 2 ≤ base)
    (hValue : value < 2 ^ 64) :
    digitCount base value ≤ 64 := by
  have hPow : 2 ^ 64 ≤ base ^ 64 :=
    Nat.pow_le_pow_left hBase 64
  have hLength :=
    (Nat.digits_length_le_iff hBase value).mpr
      (lt_of_lt_of_le hValue hPow)
  rw [digitCount]
  omega

/- One digit less is due of the number and the precision. -/
theorem precisionDigits_step
    {digits : Nat}
    {precision : Int}
    (hDigits : digits ≤ 64)
    (hLow : -2 ^ 31 ≤ precision)
    (hHigh : precision < 2 ^ 31) :
    max (digits + 1)
        (precisionDigits (digits + 1) precision) =
      max digits
          (precisionDigits digits
            (wrapInt (precision - 1))) + 1 := by
  rw [wrapInt_pred hLow hHigh, precisionDigits,
    precisionDigits]
  split_ifs <;> omega

/- After the last digit of a number the precision decides. -/
theorem precisionDigits_last
    {precision : Int}
    (hLow : -2 ^ 31 ≤ precision)
    (hHigh : precision < 2 ^ 31) :
    max 1 (precisionDigits 1 precision) =
      if wrapInt (precision - 1) > 0 then
        max 1
          (precisionDigits 1 (wrapInt (precision - 1))) + 1
      else
        1 := by
  rw [wrapInt_pred hLow hHigh, precisionDigits,
    precisionDigits]
  split_ifs <;> omega

/- The loop writes what is due as far as there is space. -/
theorem length_conversionLoop
    {base : Nat}
    (digits : List UInt8)
    (hBase : 2 ≤ base)
    (free value : Nat)
    {precision : Int}
    (text : List UInt8)
    (hValue : value < 2 ^ 64)
    (hLow : -2 ^ 31 ≤ precision)
    (hHigh : precision < 2 ^ 31) :
    (conversionLoop base digits free value precision
        text).length =
      text.length +
        min free
          (max (digitCount base value)
            (precisionDigits (digitCount base value)
              precision)) := by
  induction free generalizing value precision text with
  | zero => simp [conversionLoop]
  | succ free ih =>
      have hCounter := wrapInt_pred hLow hHigh
      have hLow' : -2 ^ 31 ≤ wrapInt (precision - 1) := by
        rw [hCounter]
        split <;> omega
      have hHigh' : wrapInt (precision - 1) < 2 ^ 31 := by
        rw [hCounter]
        split <;> omega
      have hValue' : value / base < 2 ^ 64 :=
        lt_of_le_of_lt (Nat.div_le_self value base) hValue
      have hNext := ih (value / base)
        (digits.getD (value % base) 0 :: text) hValue' hLow'
        hHigh'
      rw [conversionLoop, digitCount_step hBase value]
      by_cases hZero : value / base = 0
      · have hOne : digitCount base (value / base) = 1 := by
          rw [hZero]
          simp [digitCount]
        rw [hOne] at hNext
        rw [if_pos hZero, precisionDigits_last hLow hHigh]
        by_cases hMore : wrapInt (precision - 1) > 0
        · rw [if_pos (Or.inr hMore), if_pos hMore, hNext,
            List.length_cons]
          omega
        · rw [if_neg (not_or.mpr ⟨not_not.mpr hZero, hMore⟩),
            if_neg hMore, List.length_cons]
          omega
      · rw [if_pos (Or.inl hZero), if_neg hZero, hNext,
          precisionDigits_step (digitCount_le hBase hValue')
            hLow hHigh,
          List.length_cons]
        omega

/- The text has the length that is due in `tmp_buf`. -/
theorem length_integerText
    {field : IntegerField}
    (hSound : field.Sound) :
    (integerText field field.tmpBufLen.toNat).length =
      field.bodyLength := by
  have hLoop := length_conversionLoop field.digits
    hSound.base field.tmpBufLen.toNat field.ulongVal []
    hSound.ulong hSound.precision_low hSound.precision_high
  rw [List.length_nil, Nat.zero_add] at hLoop
  rw [integerText]
  simp only [List.length_append, List.length_reverse,
    List.length_take, hLoop]
  rw [IntegerField.bodyLength, IntegerField.digitsDue]
  omega

end Ssh1

------------------------------------------------------------
-- Items
------------------------------------------------------------

namespace Ssh1

namespace IntegerField

/-
  The conversion stays within the space. `tmp_buf` must not
  be empty or too large, and where the text fits its field
  has to fit, too, and must not be shorter than the text.
-/
def Fits
    (field : IntegerField)
    (slack room : Nat) : Prop :=
  0 < field.tmpBufLen ∧
    (field.bodyLength ≤ room →
      field.bodyLength < field.width →
        field.bodyLength ≤ field.fieldWidth ∧
          field.fieldWidth ≤ room + slack)

/- The text in its field. -/
def padded
    (field : IntegerField)
    (text : List UInt8) : List UInt8 :=
  let padding :=
    List.replicate (field.fieldWidth - text.length).toNat
      field.flags.padding
  if field.flags.minus then
    text ++ padding
  else
    padding ++ text

/- What a conversion that fits prints. -/
def printed
    (field : IntegerField)
    (room : Nat) : List UInt8 :=
  let text := integerText field field.tmpBufLen.toNat
  if field.bodyLength ≤ room then
    if field.bodyLength < field.width then
      field.padded text
    else
      text
  else
    text.take room

end IntegerField

namespace StringField

/- The precision does not go beyond the string. -/
structure Sound (field : StringField) : Prop where
  precision_le : field.precision ≤ field.strVal.length
  nonzero : ∀ c ∈ field.strVal.take field.precision.toNat,
    c ≠ 0
  width_low : -2 ^ 31 ≤ field.width
  width_high : field.width < 2 ^ 31
  precision_low : -2 ^ 31 ≤ field.precision
  precision_high : field.precision < 2 ^ 31

/- The length of the string has not become negative. -/
def Fits (field : StringField) : Prop :=
  0 ≤ field.precision

/- How many bytes the string takes without a limit. -/
def due (field : StringField) : Nat :=
  max field.width.toNat field.precision.toNat

/- The characters that are shown. -/
def shown
    (field : StringField)
    (room : Nat) : List UInt8 :=
  field.strVal.take (min field.precision.toNat room)

/- What the string and its field print. -/
def printed
    (field : StringField)
    (room : Nat) : List UInt8 :=
  let padding :=
    List.replicate
      (min field.due room - min field.precision.toNat room)
      field.flags.padding
  if field.flags.minus then
    field.shown room ++ padding
  else
    padding ++ field.shown room

end StringField

namespace Item

/- The parameters that a directive can give an item. -/
def Sound : Item → Prop
| .integer field => field.Sound
| .string field => field.Sound
| .char _ => True
| .nothing => True

/- The item stays within the space. -/
def Fits
    (item : Item)
    (slack room : Nat) : Prop :=
  match item with
  | .integer field => field.Fits slack room
  | .string field => field.Fits
  | .char _ => True
  | .nothing => True

/- What an item prints where there is room for all of it. -/
def due : Item → Nat
| .char _ => 1
| .integer field => field.due
| .string field => field.due
| .nothing => 0

/- What the item writes when so much room is left. -/
def printed
    (item : Item)
    (room : Nat) : List UInt8 :=
  match item with
  | .char c => [c]
  | .integer field => field.printed room
  | .string field => field.printed room
  | .nothing => []

/- The character that ends a string. -/
def isMark : Item → Bool
| .char c => c = 0
| _ => false

end Item

end Ssh1

------------------------------------------------------------
-- Printed Texts
------------------------------------------------------------

namespace Ssh1

theorem padding_ne_zero
    (flags : Flags) :
    flags.padding ≠ 0 := by
  unfold Flags.padding
  split <;> decide

/- A sign or a prefix has no zero byte. -/
theorem integerPrefix_nonzero
    (base : Nat)
    (flags : Flags) :
    ∀ c ∈ integerPrefix base flags, c ≠ 0 := by
  unfold integerPrefix
  split_ifs <;> simp [chr]

/- Nor have the digits. -/
theorem conversionLoop_nonzero
    {base : Nat}
    {digits : List UInt8}
    (hBase : 0 < base)
    (hDigits : base ≤ digits.length)
    (hNonzero : ∀ c ∈ digits, c ≠ 0)
    (free value : Nat)
    (precision : Int)
    {text : List UInt8}
    (hText : ∀ c ∈ text, c ≠ 0) :
    ∀ c ∈ conversionLoop base digits free value precision
        text,
      c ≠ 0 := by
  induction free generalizing value precision text with
  | zero => exact hText
  | succ free ih =>
      have hIndex : value % base < digits.length :=
        lt_of_lt_of_le (Nat.mod_lt value hBase) hDigits
      have hNext : ∀ c ∈
          digits.getD (value % base) 0 :: text, c ≠ 0 := by
        intro c hMem
        rcases List.mem_cons.mp hMem with rfl | hOld
        · rw [List.getD_eq_getElem?_getD,
            List.getElem?_eq_getElem hIndex, Option.getD_some]
          exact hNonzero _ (List.getElem_mem hIndex)
        · exact hText c hOld
      rw [conversionLoop]
      split
      · exact ih _ _ hNext
      · exact hNext

theorem integerText_nonzero
    {field : IntegerField}
    (hSound : field.Sound)
    (tmpBufLen : Nat) :
    ∀ c ∈ integerText field tmpBufLen, c ≠ 0 := by
  intro c hMem
  have hBase := hSound.base
  rcases List.mem_append.mp hMem with hPrefix | hDigits
  · apply integerPrefix_nonzero field.base field.flags
    exact List.mem_of_mem_take (List.mem_reverse.mp hPrefix)
  · exact conversionLoop_nonzero (by omega) hSound.digits
      hSound.nonzero _ _ _ (by simp) c hDigits

namespace IntegerField

variable {field : IntegerField}

/- The field is filled up to its width. -/
theorem length_padded
    {text : List UInt8}
    (hLe : (text.length : Int) ≤ field.fieldWidth) :
    (field.padded text).length =
      field.fieldWidth.toNat := by
  unfold padded
  split
  · rw [List.length_append, List.length_replicate]
    omega
  · rw [List.length_append, List.length_replicate]
    omega

/- The length is that of the field, as far as there is room. -/
theorem length_printed
    {slack room : Nat}
    (hSound : field.Sound)
    (hFits : field.Fits slack room) :
    room - (field.printed room).length = room - field.due ∧
      (field.printed room).length ≤ room + slack := by
  have hText := length_integerText hSound
  rw [printed, due]
  by_cases hRoom : field.bodyLength ≤ room
  · rw [if_pos hRoom]
    by_cases hWidth : field.bodyLength < field.width
    · rcases hFits.2 hRoom hWidth with ⟨hLow, hHigh⟩
      rw [if_pos hWidth, if_pos hWidth,
        length_padded (by rwa [hText])]
      omega
    · rw [if_neg hWidth, if_neg hWidth, hText]
      omega
  · rw [if_neg hRoom, List.length_take, hText]
    split <;> omega

theorem printed_nonzero
    (hSound : field.Sound)
    (room : Nat) :
    ∀ c ∈ field.printed room, c ≠ 0 := by
  have hText :=
    integerText_nonzero hSound field.tmpBufLen.toNat
  have hPadding := padding_ne_zero field.flags
  unfold printed padded
  simp only
  split_ifs with hRoom hWidth hMinus
  · intro c hMem
    rcases List.mem_append.mp hMem with hBody | hPad
    · exact hText c hBody
    · rwa [List.eq_of_mem_replicate hPad]
  · intro c hMem
    rcases List.mem_append.mp hMem with hPad | hBody
    · rwa [List.eq_of_mem_replicate hPad]
    · exact hText c hBody
  · exact hText
  · intro c hMem
    exact hText c (List.mem_of_mem_take hMem)

end IntegerField

namespace StringField

variable {field : StringField}

/- A string is cut to its precision and to the room. -/
theorem length_shown
    (hSound : field.Sound)
    (room : Nat) :
    (field.shown room).length =
      min field.precision.toNat room := by
  have hLe := hSound.precision_le
  rw [shown, List.length_take]
  omega

/- The whole field is cut to the room. -/
theorem length_printed
    (hSound : field.Sound)
    (room : Nat) :
    (field.printed room).length = min field.due room := by
  have hShown := length_shown hSound room
  have hLe : field.precision.toNat ≤ field.due :=
    Nat.le_max_right _ _
  unfold printed
  simp only
  split
  · rw [List.length_append, List.length_replicate, hShown]
    omega
  · rw [List.length_append, List.length_replicate, hShown]
    omega

theorem printed_nonzero
    (hSound : field.Sound)
    (room : Nat) :
    ∀ c ∈ field.printed room, c ≠ 0 := by
  have hPadding := padding_ne_zero field.flags
  have hShown : ∀ c ∈ field.shown room, c ≠ 0 := by
    intro c hMem
    apply hSound.nonzero
    apply List.take_subset_take_left _ _ hMem
    exact Nat.min_le_left _ _
  unfold printed
  simp only
  split
  · intro c hMem
    rcases List.mem_append.mp hMem with hBody | hPad
    · exact hShown c hBody
    · rwa [List.eq_of_mem_replicate hPad]
  · intro c hMem
    rcases List.mem_append.mp hMem with hPad | hBody
    · rwa [List.eq_of_mem_replicate hPad]
    · exact hShown c hBody

end StringField

end Ssh1

------------------------------------------------------------
-- The Printer
------------------------------------------------------------

namespace Ssh1

namespace Item

/- An item takes what is due, and stays in the whole space. -/
theorem length_printed
    {item : Item}
    {slack room : Nat}
    (hSound : item.Sound)
    (hFits : item.Fits slack room)
    (hRoom : 0 < room) :
    room - (item.printed room).length = room - item.due ∧
      (item.printed room).length ≤ room + slack := by
  cases item with
  | char c =>
      rw [printed, due, List.length_singleton]
      omega
  | integer field => exact field.length_printed hSound hFits
  | string field =>
      rw [printed, due, field.length_printed hSound]
      omega
  | nothing =>
      rw [printed, due, List.length_nil]
      omega

/- Only a character on its own can be the end of a string. -/
theorem printed_nonzero
    {item : Item}
    (hSound : item.Sound)
    (hMark : item.isMark = false)
    (room : Nat) :
    ∀ c ∈ item.printed room, c ≠ 0 := by
  cases item with
  | char c =>
      intro d hMem
      rw [List.mem_singleton.mp hMem]
      exact of_decide_eq_false hMark
  | integer field => exact field.printed_nonzero hSound room
  | string field => exact field.printed_nonzero hSound room
  | nothing => exact List.forall_mem_nil _

/- What fits without slack fits with it. -/
theorem Fits.slack
    {item : Item}
    {room : Nat}
    (hFits : item.Fits 0 room)
    (slack : Nat) :
    item.Fits slack room := by
  cases item with
  | integer field =>
      rcases hFits with ⟨hSome, hField⟩
      refine ⟨hSome, fun hRoom hWidth => ?_⟩
      rcases hField hRoom hWidth with ⟨hLow, hHigh⟩
      exact ⟨hLow, by omega⟩
  | char c => trivial
  | string field => exact hFits
  | nothing => trivial

end Item

open Classical in
/- The conversions print what fits. -/
noncomputable def itemPrinter :
    BoundedPrinter Item UInt8 where
  due := Item.due
  isEnd := fun c => c = 0
  isMark := Item.isMark
  fits := fun item slack room =>
    item.Sound ∧ item.Fits slack room
  render := fun item slack room =>
    if 0 < room ∧ item.Sound ∧ item.Fits slack room then
      some (item.printed room)
    else
      none
  isSome_render := by
    intro item slack room hRoom
    rw [Option.isSome_ite, and_iff_right hRoom]
  sub_length := by
    intro item slack room text hText
    rcases Option.ite_none_right_eq_some.mp hText with
      ⟨⟨hRoom, hSound, hFits⟩, hPrinted⟩
    cases hPrinted
    exact (Item.length_printed hSound hFits hRoom).1
  length_le := by
    intro item slack room text hRoom hText
    rcases Option.ite_none_right_eq_some.mp hText with
      ⟨⟨-, hSound, hFits⟩, hPrinted⟩
    cases hPrinted
    exact (Item.length_printed hSound hFits hRoom).2
  render_slack := by
    intro item room text hText slack
    rcases Option.ite_none_right_eq_some.mp hText with
      ⟨⟨hRoom, hSound, hFits⟩, hPrinted⟩
    exact Option.ite_none_right_eq_some.mpr
      ⟨⟨hRoom, hSound, hFits.slack slack⟩, hPrinted⟩
  render_mark := by
    intro item slack room text hMark hText
    rcases Option.ite_none_right_eq_some.mp hText with
      ⟨-, hPrinted⟩
    cases hPrinted
    cases item with
    | char c => exact ⟨c, rfl, hMark⟩
    | integer field => cases hMark
    | string field => cases hMark
    | nothing => cases hMark
  due_mark := by
    intro item hMark
    cases item with
    | char c => rfl
    | integer field => cases hMark
    | string field => cases hMark
    | nothing => cases hMark
  not_isEnd := by
    intro item slack room text hMark hText c hMem
    rcases Option.ite_none_right_eq_some.mp hText with
      ⟨⟨-, hSound, -⟩, hPrinted⟩
    cases hPrinted
    exact decide_eq_false
      (Item.printed_nonzero hSound hMark room c hMem)

end Ssh1
