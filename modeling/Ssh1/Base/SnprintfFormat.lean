import Ssh1.Base.SnprintfItems
import Mathlib.Data.List.TakeWhile

/-
  Formats with arguments that match them.

  A format is a list of items: its own characters and what
  its conversions make of the arguments. The items do not
  depend on the space that is left.

  Main declarations:
    * `Formats`
    * `snprintfGetDirective_spec`
    * `readArgument_sound`
    * `Formats.sound`
-/

------------------------------------------------------------
-- Formats
------------------------------------------------------------

namespace Ssh1

/-
  The items of a format, if every directive in it is a
  conversion of an integer, a character or a string and the
  arguments are of the types that the conversions ask for.
-/
inductive Formats :
    (format : List UInt8) → VaList → List Item → Prop where
  | done {ap : VaList} : Formats [] ap []
  | plain
      {c : UInt8}
      {format : List UInt8}
      {ap : VaList}
      {items : List Item}
      (hPlain : c ≠ chr '%')
      (hRest : Formats format ap items) :
      Formats (c :: format) ap (.char c :: items)
  | percent
      {format : List UInt8}
      {ap : VaList}
      {items : List Item}
      (hRest : Formats format ap items) :
      Formats (chr '%' :: chr '%' :: format) ap
        (.char (chr '%') :: items)
  | conversion
      {format format' : List UInt8}
      {ap ap' ap'' : VaList}
      {d : Directive}
      {item : Item}
      {items : List Item}
      (hHead : format.head? ≠ some (chr '%'))
      (hDirective :
        snprintfGetDirective format ap =
          .ok (some (d, format'), ap'))
      (hArgument : readArgument d ap' = .ok (item, ap''))
      (hRest : Formats format' ap'' items) :
      Formats (chr '%' :: format) ap (item :: items)

end Ssh1

------------------------------------------------------------
-- Directives
------------------------------------------------------------

namespace Ssh1

/- A value of an `int`. -/
def FitsInt (value : Int) : Prop :=
  -2 ^ 31 ≤ value ∧ value < 2 ^ 31

/- What is wrapped fits. -/
theorem fitsInt_wrapInt
    (value : Int) :
    FitsInt (wrapInt value) := by
  constructor
  · exact Int.le_bmod (by decide)
  · exact Int.bmod_lt (by decide)

theorem fitsInt_zero :
    FitsInt 0 := by
  constructor <;> decide

/- An argument of type `int` fits. -/
theorem fitsInt_toInt
    (value : BitVec 32) :
    FitsInt value.toInt := by
  constructor
  · exact BitVec.le_toInt value
  · exact BitVec.toInt_lt

/- Reading flags makes the format no longer. -/
theorem length_readFlags
    (str : List UInt8)
    (flags : Flags) :
    (readFlags str flags).2.length ≤ str.length := by
  induction str generalizing flags with
  | nil => exact le_refl 0
  | cons c str ih =>
      rw [readFlags]
      split_ifs
      · exact (ih _).trans (Nat.le_succ _)
      · exact (ih _).trans (Nat.le_succ _)
      · exact (ih _).trans (Nat.le_succ _)
      · exact (ih _).trans (Nat.le_succ _)
      · exact (ih _).trans (Nat.le_succ _)
      · exact le_refl _

/- The digits are an `int`, and what is left is no longer. -/
theorem readNumber_spec
    {value : Int}
    (str : List UInt8)
    (hInt : FitsInt value) :
    FitsInt (readNumber str value).1 ∧
      (readNumber str value).2.length ≤ str.length := by
  induction str generalizing value with
  | nil => exact ⟨hInt, le_refl 0⟩
  | cons c str ih =>
      rw [readNumber]
      split
      · have hNext := ih (fitsInt_wrapInt
          (10 * value + (c.toNat - (chr '0').toNat)))
        exact ⟨hNext.1, hNext.2.trans (Nat.le_succ _)⟩
      · exact ⟨hInt, le_refl _⟩

/- A width is an `int`, from the format or an argument. -/
theorem readField_spec
    {str rest : List UInt8}
    {ap ap' : VaList}
    {value : Int}
    (hField : readField str ap = .ok (value, rest, ap')) :
    FitsInt value ∧ rest.length ≤ str.length := by
  unfold readField at hField
  split at hField
  · cases hField
    exact ⟨fitsInt_zero, le_refl _⟩
  · rename_i c str
    split_ifs at hField with hDigit hStar
    · cases hField
      exact readNumber_spec (c :: str) fitsInt_zero
    · rcases FallibleRun.bind_eq_ok_iff.mp hField with
        ⟨⟨word, ap'⟩, -, hWord⟩
      cases hWord
      exact ⟨fitsInt_toInt word, Nat.le_succ _⟩
    · cases hField
      exact ⟨fitsInt_zero, le_refl _⟩

/- So is a precision. -/
theorem readPrecision_spec
    {str rest : List UInt8}
    {ap ap' : VaList}
    {value : Int}
    (hField :
      readPrecision str ap = .ok (value, rest, ap')) :
    FitsInt value ∧ rest.length ≤ str.length := by
  unfold readPrecision at hField
  split at hField
  · rcases readField_spec hField with ⟨hInt, hLength⟩
    refine ⟨hInt, hLength.trans ?_⟩
    rw [List.length_tail]
    exact Nat.sub_le _ _
  · cases hField
    exact ⟨fitsInt_zero, le_refl _⟩

theorem length_readType
    (str : List UInt8)
    (flags : Flags) :
    (readType str flags).2.length ≤ str.length := by
  have hTail : str.tail.length ≤ str.length := by
    rw [List.length_tail]
    exact Nat.sub_le _ _
  unfold readType
  split_ifs
  · exact hTail
  · exact hTail
  · exact hTail
  · exact le_refl _

/- A directive is not empty, and its numbers are of `int`. -/
theorem snprintfGetDirective_spec
    {str rest : List UInt8}
    {ap ap' : VaList}
    {d : Directive}
    (hDirective :
      snprintfGetDirective str ap =
        .ok (some (d, rest), ap')) :
    FitsInt d.width ∧ FitsInt d.precision ∧
      rest.length < str.length := by
  have hFlags := length_readFlags str noFlags
  unfold snprintfGetDirective at hDirective
  rcases FallibleRun.bind_eq_ok_iff.mp hDirective with
    ⟨⟨width, str₁, ap₁⟩, hWidth, hDirective⟩
  rcases FallibleRun.bind_eq_ok_iff.mp hDirective with
    ⟨⟨precision, str₂, ap₂⟩, hPrecision, hDirective⟩
  rcases readField_spec hWidth with ⟨hInt, hLength₁⟩
  rcases readPrecision_spec hPrecision with
    ⟨hInt', hLength₂⟩
  simp only at hDirective
  split at hDirective
  · cases hDirective
  · rename_i c str₃ hRest
    have hLength₃ := length_readType str₂
      (if (readFlags str noFlags).1.minus ∧
          (readFlags str noFlags).1.zeroPadding then
        { (readFlags str noFlags).1 with
          zeroPadding := false }
      else
        (readFlags str noFlags).1)
    rw [hRest, List.length_cons] at hLength₃
    split at hDirective
    · cases hDirective
      exact ⟨hInt, hInt', by omega⟩
    · cases hDirective

end Ssh1

------------------------------------------------------------
-- Arguments
------------------------------------------------------------

namespace Ssh1

/- The value without its sign is a word. -/
theorem readSigned_lt
    {flags flags' : Flags}
    {ap ap' : VaList}
    {value : Nat}
    (hValue :
      readSigned flags ap = .ok (value, flags', ap')) :
    value < 2 ^ 64 := by
  unfold readSigned at hValue
  simp only at hValue
  split at hValue
  · rcases FallibleRun.bind_eq_ok_iff.mp hValue with
      ⟨⟨word, ap₁⟩, -, hSize⟩
    have hLow := BitVec.le_toInt word
    have hHigh := @BitVec.toInt_lt 64 word
    simp only [pure_bind] at hSize
    split at hSize
    · cases hSize
      omega
    · cases hSize
      omega
  · rcases FallibleRun.bind_eq_ok_iff.mp hValue with
      ⟨⟨word, ap₁⟩, -, hSize⟩
    have hLow := BitVec.le_toInt word
    have hHigh := @BitVec.toInt_lt 32 word
    simp only [pure_bind] at hSize
    split at hSize
    · cases hSize
      omega
    · cases hSize
      omega

/- An unsigned value is a word. -/
theorem readUnsigned_lt
    {flags : Flags}
    {ap ap' : VaList}
    {value : Nat}
    (hValue : readUnsigned flags ap = .ok (value, ap')) :
    value < 2 ^ 64 := by
  unfold readUnsigned at hValue
  split at hValue
  · rcases FallibleRun.bind_eq_ok_iff.mp hValue with
      ⟨⟨word, ap₁⟩, -, hWord⟩
    cases hWord
    exact word.isLt
  · rcases FallibleRun.bind_eq_ok_iff.mp hValue with
      ⟨⟨word, ap₁⟩, -, hWord⟩
    cases hWord
    have hLess := word.isLt
    omega

/- The parameters with which an integer is converted. -/
theorem IntegerField.sound_of_digits
    {base : Nat}
    {digits : List UInt8}
    {value : Nat}
    {flags : Flags}
    {width precision : Int}
    (hBase : 2 ≤ base)
    (hDigits : base ≤ digits.length)
    (hNonzero : ∀ c ∈ digits, c ≠ 0)
    (hValue : value < 2 ^ 64)
    (hWidth : FitsInt width)
    (hPrecision : FitsInt precision) :
    IntegerField.Sound
      ⟨base, digits, value, flags, width, precision⟩ where
  base := hBase
  digits := hDigits
  nonzero := hNonzero
  ulong := hValue
  width_low := hWidth.1
  width_high := hWidth.2
  precision_low := hPrecision.1
  precision_high := hPrecision.2

/- No table of digits holds the end of a string. -/
theorem forall_ne_zero_of_all
    {digits : List UInt8}
    (hAll : digits.all (fun c => c != 0) = true) :
    ∀ c ∈ digits, c ≠ 0 := by
  intro c hMem
  have hNe := List.all_eq_true.mp hAll c hMem
  simpa using hNe

/- Each base has enough digits, and none of them is zero. -/
theorem unsignedFormat_spec
    {formatChar : UInt8}
    {base : Nat}
    {digits : List UInt8}
    (hFormat :
      unsignedFormat formatChar = some (base, digits)) :
    2 ≤ base ∧ base ≤ digits.length ∧
      ∀ c ∈ digits, c ≠ 0 := by
  have hSound :
      2 ≤ base ∧ base ≤ digits.length ∧
        digits.all (fun c => c != 0) = true := by
    unfold unsignedFormat at hFormat
    split_ifs at hFormat
    · cases hFormat
      decide
    · cases hFormat
      decide
    · cases hFormat
      decide
    · cases hFormat
      decide
  rcases hSound with ⟨hBase, hDigits, hAll⟩
  exact ⟨hBase, hDigits, forall_ne_zero_of_all hAll⟩

/- The length of a text does not grow as an `int`. -/
theorem wrapInt_le
    (n : Nat) :
    wrapInt n ≤ n := by
  rw [wrapInt, Int.bmod_def]
  split <;> omega

/- The length of a string stops at its first zero byte. -/
theorem strlenInt_spec
    {strVal : List UInt8}
    {len : Int}
    (hLen : strlenInt strVal = .ok len) :
    FitsInt len ∧ len ≤ strVal.length ∧
      ∀ c ∈ strVal.take len.toNat, c ≠ 0 := by
  rcases FallibleRun.bind_eq_ok_iff.mp hLen with
    ⟨text, hText, hWrap⟩
  have hWrapped : len = wrapInt text.length :=
    (Except.ok.inj hWrap).symm
  have hLe := wrapInt_le text.length
  rw [hWrapped]
  have hPrefix : text <+: strVal := by
    unfold textAt MemoryBlock.text at hText
    split at hText
    · cases hText
      exact List.takeWhile_prefix _
    · cases hText
  have hNonzero : ∀ c ∈ text, c ≠ 0 := by
    unfold textAt MemoryBlock.text at hText
    split at hText
    · cases hText
      intro c hMem
      simpa using List.mem_takeWhile_imp hMem
    · cases hText
  refine ⟨fitsInt_wrapInt _, ?_, ?_⟩
  · have hLength := hPrefix.length_le
    omega
  · intro c hMem
    apply hNonzero
    rw [List.prefix_iff_eq_take.mp hPrefix]
    apply List.take_subset_take_left _ _ hMem
    omega

/- The precision is cut to the length of the string. -/
theorem stringPrecision_spec
    {strVal : List UInt8}
    {precision precision' : Int}
    (hInt : FitsInt precision)
    (hPrecision :
      stringPrecision strVal precision = .ok precision') :
    FitsInt precision' ∧ precision' ≤ strVal.length ∧
      ∀ c ∈ strVal.take precision'.toNat, c ≠ 0 := by
  unfold stringPrecision at hPrecision
  split at hPrecision
  · exact strlenInt_spec hPrecision
  · rcases FallibleRun.bind_eq_ok_iff.mp hPrecision with
      ⟨zero, hZero, hPrecision⟩
    split at hPrecision
    · exact strlenInt_spec hPrecision
    · rename_i hNone
      cases hPrecision
      unfold hasZero at hZero
      split_ifs at hZero with hMem hLength
      · cases hZero
        exact absurd rfl hNone
      · have hSize : precision.toNat ≤ sizeT precision := by
          unfold sizeT
          have hHigh := hInt.2
          have hLow := hInt.1
          omega
        refine ⟨hInt, by omega, ?_⟩
        intro c hShown hEnd
        apply hMem
        rw [← hEnd]
        exact List.take_subset_take_left _ hSize hShown

/- The items have parameters as the conversions have them. -/
theorem readArgument_sound
    {d : Directive}
    {ap ap' : VaList}
    {item : Item}
    (hWidth : FitsInt d.width)
    (hPrecision : FitsInt d.precision)
    (hItem : readArgument d ap = .ok (item, ap')) :
    item.Sound := by
  unfold readArgument at hItem
  split at hItem
  · rcases FallibleRun.bind_eq_ok_iff.mp hItem with
      ⟨⟨value, flags, ap₁⟩, hValue, hItem⟩
    cases hItem
    have hNonzero : ∀ c ∈ decimalDigits, c ≠ 0 :=
      forall_ne_zero_of_all (by decide)
    exact IntegerField.sound_of_digits (by decide)
      (by decide) hNonzero (readSigned_lt hValue) hWidth
      hPrecision
  · split at hItem
    · rename_i base digits hFormat
      rcases unsignedFormat_spec hFormat with
        ⟨hBase, hDigits, hNonzero⟩
      rcases FallibleRun.bind_eq_ok_iff.mp hItem with
        ⟨⟨value, ap₁⟩, hValue, hItem⟩
      cases hItem
      exact IntegerField.sound_of_digits hBase hDigits
        hNonzero (readUnsigned_lt hValue) hWidth hPrecision
    · split_ifs at hItem
      · cases hItem
        trivial
      · rcases FallibleRun.bind_eq_ok_iff.mp hItem with
          ⟨⟨value, ap₁⟩, hValue, hItem⟩
        cases hItem
        trivial
      · rcases FallibleRun.bind_eq_ok_iff.mp hItem with
          ⟨⟨memory, ap₁⟩, -, hItem⟩
        rcases FallibleRun.bind_eq_ok_iff.mp hItem with
          ⟨precision, hString, hItem⟩
        cases hItem
        rcases stringPrecision_spec hPrecision hString with
          ⟨hInt, hLe, hNonzero⟩
        exact ⟨hLe, hNonzero, hWidth.1, hWidth.2, hInt.1,
          hInt.2⟩

/- Every item of a format has sound parameters. -/
theorem Formats.sound
    {format : List UInt8}
    {ap : VaList}
    {items : List Item}
    (hFormats : Formats format ap items) :
    ∀ item ∈ items, item.Sound := by
  induction hFormats with
  | done => exact List.forall_mem_nil _
  | plain hPlain hRest ih =>
      exact List.forall_mem_cons.mpr ⟨trivial, ih⟩
  | percent hRest ih =>
      exact List.forall_mem_cons.mpr ⟨trivial, ih⟩
  | conversion hHead hDirective hArgument hRest ih =>
      rcases snprintfGetDirective_spec hDirective with
        ⟨hWidth, hPrecision, -⟩
      exact List.forall_mem_cons.mpr
        ⟨readArgument_sound hWidth hPrecision hArgument, ih⟩

end Ssh1
