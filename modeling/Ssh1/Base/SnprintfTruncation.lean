import Ssh1.Base.SnprintfBounds

/-
  Truncation of formatted texts.

  What a call leaves in a smaller buffer is the front of what
  it leaves in a larger one as long as no field is filled up
  beyond the space or only where there is space for it.

  Main declarations:
    * `formatted`, `TruncatesTo`
    * `Item.FitsUpTo`, `Item.Steady`
    * `formatted_truncates_iff`
-/

------------------------------------------------------------
-- Formatted Texts
------------------------------------------------------------

namespace Ssh1

/- The string that a call leaves in the buffer. -/
def formatted
    (str format : List UInt8)
    (ap : VaList) : Outcome (List UInt8) := do
  let (_, mem) ← vsnprintf str str.length format ap
  textAt mem 0

/-
  In every smaller buffer there is the front of the string,
  and all of it if it has fewer characters than the buffer.
-/
def TruncatesTo
    (str format : List UInt8)
    (ap : VaList) : Prop :=
  ∀ str' : List UInt8,
    0 < str'.length →
      str'.length < str.length →
        ∃ text whole,
          formatted str' format ap = .ok text ∧
            formatted str format ap = .ok whole ∧
            text <+: whole ∧
            (whole.length < str'.length → text = whole)

section

variable {str format : List UInt8}
variable {ap : VaList}
variable {items : List Item}

/- A text is read up to the first NUL in it. -/
theorem textAt_patch
    (str text : List UInt8) :
    textAt (MemoryBlock.patch str 0 (text ++ [0])) 0 =
      .ok (itemPrinter.visible text) := by
  have hPatch :
      MemoryBlock.patch str 0 (text ++ [0]) =
        text ++ 0 :: str.drop (text.length + 1) := by
    simp [MemoryBlock.patch]
  have hTake :
      (text ++ 0 :: str.drop (text.length + 1)).takeWhile
          (fun c => ! decide (c = 0)) =
        text.takeWhile fun c => ! decide (c = 0) := by
    rw [List.takeWhile_append]
    split
    · rename_i hWhole
      rw [List.takeWhile_cons_of_neg (by decide),
        List.append_nil]
      exact (List.takeWhile_prefix _).eq_of_length hWhole |>.symm
    · rfl
  unfold textAt MemoryBlock.text
  rw [hPatch, List.drop_zero, if_pos (by simp), hTake]
  rfl

theorem formatted_of_output
    {text : List UInt8}
    (hFormats : Formats format ap items)
    (hSome : 0 < str.length)
    (hObject : str.length < 2 ^ 63)
    (hText :
      itemPrinter.output (slackOf str.length)
          (spaceOf str.length) items =
        some text) :
    formatted str format ap =
      .ok (itemPrinter.visible text) := by
  rcases vsnprintf_output hFormats hSome hObject hText with
    ⟨-, ret, hOk, -⟩
  rw [formatted, hOk, FallibleRun.ok_bind]
  exact textAt_patch str text

/- A string that is left comes from a text that is printed. -/
theorem output_of_formatted
    {string : List UInt8}
    (hFormats : Formats format ap items)
    (hSome : 0 < str.length)
    (hObject : str.length < 2 ^ 63)
    (hString : formatted str format ap = .ok string) :
    ∃ text,
      itemPrinter.output (slackOf str.length)
          (spaceOf str.length) items =
        some text ∧
      string = itemPrinter.visible text := by
  cases hText :
      itemPrinter.output (slackOf str.length)
        (spaceOf str.length) items with
  | none =>
      rcases FallibleRun.bind_eq_ok_iff.mp hString with
        ⟨result, hOk, -⟩
      exact absurd hOk (vsnprintf_overrun hFormats hSome
        hObject hText result)
  | some text =>
      rw [formatted_of_output hFormats hSome hObject hText]
        at hString
      exact ⟨text, rfl, (Except.ok.inj hString).symm⟩

end

end Ssh1

------------------------------------------------------------
-- Sizes
------------------------------------------------------------

namespace Ssh1

section

variable {size : Nat}

/- Up to the largest `int` the space is that of the buffer. -/
theorem spaceOf_of_le
    (hSome : 0 < size)
    (hSize : size ≤ 2 ^ 31) :
    spaceOf size = size - 1 := by
  rw [spaceOf, wrapInt_size_sub_one, wrapInt_of_range]
  · omega
  · omega
  · omega

theorem slackOf_of_le
    (hSome : 0 < size)
    (hSize : size ≤ 2 ^ 31) :
    slackOf size = 0 := by
  rw [slackOf, spaceOf_of_le hSome hSize, Nat.sub_self]

/- Behind it the size is taken for a negative one. -/
theorem spaceOf_of_negative
    (hLow : 2 ^ 31 < size)
    (hHigh : size ≤ 2 ^ 32) :
    spaceOf size = 0 := by
  rw [spaceOf, wrapInt_size_sub_one, wrapInt, Int.bmod_def]
  split <;> omega

theorem spaceOf_lt
    (size : Nat) :
    spaceOf size < 2 ^ 31 := by
  have hInt := fitsInt_wrapInt (wrapInt size - 1)
  have hHigh := hInt.2
  rw [spaceOf]
  omega

end

end Ssh1

------------------------------------------------------------
-- Steady Items
------------------------------------------------------------

namespace Ssh1

/-
  The item fits into every space up to this one. An integer
  that is shorter than its width has to fit without a field
  where it just has enough space.
-/
def Item.FitsUpTo
    (item : Item)
    (room : Nat) : Prop :=
  match item with
  | .integer field =>
      0 < field.tmpBufLen ∧
        (field.bodyLength ≤ room →
          field.bodyLength < field.width →
            field.fieldWidth = field.bodyLength)
  | .string field => field.Fits
  | .char _ => True
  | .nothing => True

/-
  A string is cut off from behind, so that a field in front
  of it must not be filled up in some of the spaces only, if
  that is to be seen.
-/
def StringField.Steady
    (field : StringField)
    (room : Nat) : Prop :=
  field.flags.minus ∨
    field.due ≤ field.precision.toNat ∨
    room ≤ field.precision.toNat ∨
    ∀ c ∈ field.strVal.take field.precision.toNat,
      c = field.flags.padding

/- The item prints the fronts of one text. -/
def Item.Steady
    (item : Item)
    (room : Nat) : Prop :=
  item.FitsUpTo room ∧
    match item with
    | .string field => field.Steady room
    | _ => True

end Ssh1

------------------------------------------------------------
-- Fronts of Items
------------------------------------------------------------

namespace Ssh1

theorem IntegerField.bodyLength_pos
    {field : IntegerField}
    (hSome : 0 < field.tmpBufLen) :
    0 < field.bodyLength := by
  have hDigit :
      1 ≤ digitCount field.base field.ulongVal :=
    Nat.le_max_left _ _
  have hDue :
      digitCount field.base field.ulongVal ≤
        field.digitsDue :=
    Nat.le_max_left _ _
  rw [bodyLength]
  omega

section

variable {item : Item}
variable {room : Nat}

/- The smallest space for an integer decides. -/
theorem fitsUpTo_iff
    (hSound : item.Sound)
    (hRoom : 0 < room) :
    itemPrinter.fitsUpTo item room ↔ item.FitsUpTo room := by
  constructor
  · intro hFits
    have hWhole := (hFits room hRoom (le_refl room)).2
    cases item with
    | integer field =>
        refine ⟨hWhole.1, fun hLe hWidth => ?_⟩
        have hPos := field.bodyLength_pos hWhole.1
        have hJust := (hFits field.bodyLength hPos hLe).2
        rcases hJust.2 (le_refl _) hWidth with ⟨hLow, hHigh⟩
        omega
    | string field => exact hWhole
    | char c => trivial
    | nothing => trivial
  · intro hFits r hPos hLe
    refine ⟨hSound, ?_⟩
    cases item with
    | integer field =>
        rcases hFits with ⟨hSome, hField⟩
        refine ⟨hSome, fun hBody hWidth => ?_⟩
        rw [hField (hBody.trans hLe) hWidth]
        constructor <;> omega
    | string field => exact hFits
    | char c => trivial
    | nothing => trivial

end

namespace IntegerField

variable {field : IntegerField}
variable {room r : Nat}

/- Without a field the text is cut off from behind. -/
theorem printed_eq_take
    (hSound : field.Sound)
    (hFits : Item.FitsUpTo (.integer field) room)
    (hLe : r ≤ room) :
    field.printed r = field.text.take r := by
  have hText : field.text.length = field.bodyLength :=
    length_integerText hSound
  rw [printed]
  by_cases hBody : field.bodyLength ≤ r
  · have hWhole : field.text.take r = field.text :=
      List.take_of_length_le (by omega)
    rw [hWhole]
    by_cases hWidth : field.bodyLength < field.width
    · have hField := hFits.2 (hBody.trans hLe) hWidth
      have hNone :
          (field.fieldWidth - field.text.length).toNat =
            0 := by
        omega
      simp only [if_pos hBody, if_pos hWidth]
      change field.padded field.text = field.text
      rw [padded, hNone]
      simp
    · simp only [if_pos hBody, if_neg hWidth]
      rfl
  · simp only [if_neg hBody]
    rfl

end IntegerField

/- A text that is shifted by a character and stays the same. -/
theorem eq_of_eq_take_cons
    {a : UInt8}
    {text : List UInt8}
    (hSame : text = (a :: text).take text.length) :
    ∀ c ∈ text, c = a := by
  induction text with
  | nil => exact List.forall_mem_nil _
  | cons c text ih =>
      rw [List.length_cons, List.take_succ_cons,
        List.cons.injEq] at hSame
      rcases hSame with ⟨rfl, hRest⟩
      exact List.forall_mem_cons.mpr ⟨rfl, ih hRest⟩

namespace StringField

variable {field : StringField}
variable {room : Nat}

/- The whole of the string that is shown. -/
def string (field : StringField) : List UInt8 :=
  field.strVal.take field.precision.toNat

theorem shown_eq
    (room : Nat) :
    field.shown room = field.string.take room := by
  rw [shown, string, List.take_take, Nat.min_comm]

theorem length_string
    (hSound : field.Sound) :
    field.string.length = field.precision.toNat := by
  have hLe := hSound.precision_le
  rw [string, List.length_take]
  omega

theorem printed_minus
    (hMinus : field.flags.minus = true)
    (room : Nat) :
    field.printed room =
      field.string.take room ++
        List.replicate
          (min field.due room -
            min field.precision.toNat room)
          field.flags.padding := by
  rw [printed, ← shown_eq]
  exact if_pos hMinus

theorem printed_plain
    (hMinus : ¬ field.flags.minus = true)
    (room : Nat) :
    field.printed room =
      List.replicate
          (min field.due room -
            min field.precision.toNat room)
          field.flags.padding ++
        field.string.take room := by
  rw [printed, ← shown_eq]
  exact if_neg hMinus

/- A steady string prints the fronts of one text. -/
theorem Steady.exists_whole
    (hSound : field.Sound)
    (hSteady : field.Steady room) :
    ∃ whole : List UInt8, ∀ r, r ≤ room →
      field.printed r = whole.take r := by
  have hLength := length_string hSound
  have hDue : field.precision.toNat ≤ field.due :=
    Nat.le_max_right _ _
  by_cases hMinus : field.flags.minus = true
  · refine ⟨field.string ++
      List.replicate
        (field.due - field.precision.toNat)
        field.flags.padding, ?_⟩
    intro r _
    rw [printed_minus hMinus, List.take_append,
      List.take_replicate, hLength]
    congr 2
    omega
  · rcases hSteady with hYes | hDue' | hRoom | hPadding
    · exact absurd hYes hMinus
    · refine ⟨field.string, fun r _ => ?_⟩
      have hNone : min field.due r -
          min field.precision.toNat r = 0 := by
        omega
      rw [printed_plain hMinus, hNone]
      rfl
    · refine ⟨field.string, fun r hLe => ?_⟩
      have hNone : min field.due r -
          min field.precision.toNat r = 0 := by
        omega
      rw [printed_plain hMinus, hNone]
      rfl
    · refine ⟨List.replicate field.due field.flags.padding,
        fun r _ => ?_⟩
      have hString : field.string =
          List.replicate field.precision.toNat
            field.flags.padding :=
        List.eq_replicate_iff.mpr ⟨hLength, hPadding⟩
      rw [printed_plain hMinus, hString, List.take_replicate,
        List.take_replicate, List.replicate_append_replicate]
      congr 1
      omega

/- A string whose fronts are those of one text is steady. -/
theorem steady_of_whole
    {whole : List UInt8}
    (hSound : field.Sound)
    (hWhole : ∀ r, 0 < r → r ≤ room →
      field.printed r = whole.take r) :
    field.Steady room := by
  have hLength := length_string hSound
  by_cases hMinus : field.flags.minus = true
  · exact .inl hMinus
  · by_contra hNot
    have hField : field.precision.toNat < field.due ∧
        field.precision.toNat < room := by
      rw [Steady, not_or, not_or, not_or] at hNot
      omega
    apply hNot
    refine .inr (.inr (.inr ?_))
    rcases Nat.eq_zero_or_pos field.precision.toNat with
      hZero | hPos
    · rw [hZero, List.take_zero]
      exact List.forall_mem_nil _
    · have hJust := hWhole field.precision.toNat hPos
        hField.2.le
      have hMore := hWhole (field.precision.toNat + 1)
        (Nat.succ_pos _) hField.2
      have hNone : min field.due field.precision.toNat -
          min field.precision.toNat
            field.precision.toNat = 0 := by
        omega
      have hOne : min field.due
            (field.precision.toNat + 1) -
          min field.precision.toNat
            (field.precision.toNat + 1) = 1 := by
        omega
      rw [printed_plain hMinus, hNone,
        List.take_of_length_le hLength.le] at hJust
      rw [printed_plain hMinus, hOne,
        List.take_of_length_le (by omega)] at hMore
      have hFront := congrArg
        (List.take field.precision.toNat) hMore
      rw [List.take_take, Nat.min_eq_left (by omega),
        ← hJust] at hFront
      apply eq_of_eq_take_cons
      change field.string = _
      rw [show (field.strVal.take
        field.precision.toNat).length =
          field.precision.toNat from hLength]
      exact hFront.symm

end StringField

/- The items that print the fronts of one text. -/
theorem steady_iff
    {item : Item}
    {room : Nat}
    (hSound : item.Sound)
    (hRoom : 0 < room) :
    itemPrinter.steady item room ↔ item.Steady room := by
  constructor
  · rintro ⟨whole, hWhole⟩
    have hParts : ∀ r, 0 < r → r ≤ room →
        (item.Sound ∧ item.Fits 0 r) ∧
          item.printed r = whole.take r := by
      intro r hPos hLe
      rcases Option.ite_none_right_eq_some.mp
          (hWhole r hPos hLe) with
        ⟨⟨-, hFits⟩, hPrinted⟩
      exact ⟨hFits, Option.some.inj hPrinted⟩
    refine ⟨(fitsUpTo_iff hSound hRoom).mp
      fun r hPos hLe => (hParts r hPos hLe).1, ?_⟩
    cases item with
    | string field =>
        exact StringField.steady_of_whole hSound
          fun r hPos hLe => (hParts r hPos hLe).2
    | integer field => trivial
    | char c => trivial
    | nothing => trivial
  · rintro ⟨hFits, hSteady⟩
    have hFits' := (fitsUpTo_iff hSound hRoom).mpr hFits
    have hRender : ∀ whole : List UInt8,
        (∀ r, 0 < r → r ≤ room →
          item.printed r = whole.take r) →
        itemPrinter.steady item room := by
      intro whole hWhole
      refine ⟨whole, fun r hPos hLe => ?_⟩
      rw [← hWhole r hPos hLe]
      exact if_pos ⟨hPos, hFits' r hPos hLe⟩
    cases item with
    | char c =>
        apply hRender [c]
        intro r hPos hLe
        exact (List.take_of_length_le hPos).symm
    | integer field =>
        apply hRender field.text
        intro r hPos hLe
        exact field.printed_eq_take hSound hFits hLe
    | string field =>
        rcases hSteady.exists_whole hSound with
          ⟨whole, hWhole⟩
        apply hRender whole
        intro r hPos hLe
        exact hWhole r hLe
    | nothing =>
        apply hRender []
        intro r hPos hLe
        exact List.take_nil.symm

end Ssh1

------------------------------------------------------------
-- Exact Truncation
------------------------------------------------------------

namespace Ssh1

section

variable {str format : List UInt8}
variable {ap : VaList}
variable {items : List Item}

/- In buffers of up to 2 ^ 31 bytes. -/
theorem truncatesTo_iff_of_le
    (hFormats : Formats format ap items)
    (hSome : 0 < str.length)
    (hSize : str.length ≤ 2 ^ 31) :
    TruncatesTo str format ap ↔
      itemPrinter.Truncates (str.length - 1) items := by
  have hOutput : ∀ {str' : List UInt8},
      0 < str'.length →
      str'.length ≤ str.length →
      itemPrinter.output (slackOf str'.length)
          (spaceOf str'.length) items =
        itemPrinter.output 0 (str'.length - 1) items := by
    intro str' hSome' hLe
    rw [slackOf_of_le hSome' (by omega),
      spaceOf_of_le hSome' (by omega)]
  constructor
  · intro hTruncates r hLess
    rcases hTruncates (List.replicate (r + 1) 0)
        (by rw [List.length_replicate]; omega)
        (by rw [List.length_replicate]; omega) with
      ⟨string, string', hString, hString', hPrefix, hShort⟩
    rcases output_of_formatted hFormats
        (by rw [List.length_replicate]; omega)
        (by rw [List.length_replicate]; omega) hString with
      ⟨text, hText, rfl⟩
    rcases output_of_formatted hFormats hSome (by omega)
        hString' with
      ⟨whole, hWhole, rfl⟩
    rw [hOutput (by rw [List.length_replicate]; omega)
      (by rw [List.length_replicate]; omega),
      List.length_replicate] at hText
    rw [hOutput hSome (le_refl _)] at hWhole
    refine ⟨text, whole, hText, hWhole, hPrefix, ?_⟩
    intro hLength
    apply hShort
    rw [List.length_replicate]
    omega
  · intro hTruncates str' hSome' hLess
    rcases hTruncates (str'.length - 1) (by omega) with
      ⟨text, whole, hText, hWhole, hPrefix, hShort⟩
    rw [← hOutput hSome' hLess.le] at hText
    rw [← hOutput hSome (le_refl _)] at hWhole
    refine ⟨_, _, formatted_of_output hFormats hSome'
      (by omega) hText, formatted_of_output hFormats hSome
      (by omega) hWhole, hPrefix, ?_⟩
    intro hLength
    exact hShort (by omega)

/- Where nothing is seen in any space the string is empty. -/
theorem formatted_of_invisible
    (hFormats : Formats format ap items)
    (hSome : 0 < str.length)
    (hObject : str.length < 2 ^ 63)
    (hReached :
      itemPrinter.Reached itemPrinter.fitsUpTo (2 ^ 31 - 1)
        items)
    (hInvisible : itemPrinter.visibleDue items = 0) :
    formatted str format ap = .ok [] := by
  have hSpace := spaceOf_lt str.length
  have hPrinted :=
    BoundedPrinter.forall_isSome_output.mpr hReached
      (spaceOf str.length) (by omega)
  rcases Option.isSome_iff_exists.mp hPrinted with
    ⟨text, hText⟩
  have hLength := BoundedPrinter.length_visible hText
  rw [hInvisible, Nat.zero_min, List.length_eq_zero_iff]
    at hLength
  rw [formatted_of_output hFormats hSome hObject
    (BoundedPrinter.output_slack hText _), hLength]

/- Every small space is that of a smaller buffer. -/
theorem TruncatesTo.reached
    (hFormats : Formats format ap items)
    (hSize : 2 ^ 31 < str.length)
    (hTruncates : TruncatesTo str format ap) :
    itemPrinter.Reached itemPrinter.fitsUpTo (2 ^ 31 - 1)
      items := by
  apply BoundedPrinter.forall_isSome_output.mp
  intro r hLe
  have hLength : (List.replicate (r + 1) (0 : UInt8)).length =
      r + 1 :=
    List.length_replicate
  rcases hTruncates (List.replicate (r + 1) 0) (by omega)
      (by omega) with
    ⟨string, -, hString, -, -, -⟩
  rcases output_of_formatted hFormats (by omega) (by omega)
      hString with
    ⟨text, hText, -⟩
  rw [hLength, slackOf_of_le (by omega) (by omega),
    spaceOf_of_le (by omega) (by omega),
    Nat.add_sub_cancel] at hText
  rw [hText]
  rfl

/- In larger buffers everything can be taken for full. -/
theorem TruncatesTo.invisible
    (hFormats : Formats format ap items)
    (hSize : 2 ^ 31 < str.length)
    (hObject : str.length < 2 ^ 63)
    (hTruncates : TruncatesTo str format ap) :
    itemPrinter.visibleDue items = 0 := by
  have hPrinted :=
    BoundedPrinter.forall_isSome_output.mpr
      (hTruncates.reached hFormats hSize)
  rcases Nat.eq_zero_or_pos (spaceOf str.length) with
    hZero | hSpace
  · -- the string is empty, but not that of 2 ^ 31 bytes
    have hLength :
        (List.replicate (2 ^ 31) (0 : UInt8)).length =
          2 ^ 31 :=
      List.length_replicate
    rcases hTruncates (List.replicate (2 ^ 31) 0) (by omega)
        (by omega) with
      ⟨string, string', hString, hString', hPrefix, -⟩
    rcases output_of_formatted hFormats (by omega)
        (by omega) hString with
      ⟨text, hText, rfl⟩
    rcases output_of_formatted hFormats (by omega) hObject
        hString' with
      ⟨whole, hWhole, rfl⟩
    rw [hZero, BoundedPrinter.output_zero] at hWhole
    cases hWhole
    rw [hLength, slackOf_of_le (by omega) (by omega),
      spaceOf_of_le (by omega) (by omega)] at hText
    have hVisible := BoundedPrinter.length_visible hText
    have hEmpty := hPrefix.length_le
    rw [BoundedPrinter.visible_nil, List.length_nil] at hEmpty
    omega
  · -- the string is short, but that of 2 ^ 31 + 1 is empty
    have hLarge : 2 ^ 32 < str.length := by
      by_contra hNot
      have hZero := spaceOf_of_negative hSize (not_lt.mp hNot)
      omega
    have hLength :
        (List.replicate (2 ^ 31 + 1) (0 : UInt8)).length =
          2 ^ 31 + 1 :=
      List.length_replicate
    rcases hTruncates (List.replicate (2 ^ 31 + 1) 0)
        (by omega) (by omega) with
      ⟨string, string', hString, hString', -, hShort⟩
    rcases output_of_formatted hFormats (by omega)
        (by omega) hString with
      ⟨text, hText, rfl⟩
    rcases output_of_formatted hFormats (by omega) hObject
        hString' with
      ⟨whole, hWhole, rfl⟩
    rw [hLength, spaceOf_of_negative (by omega) (by omega),
      BoundedPrinter.output_zero] at hText
    cases hText
    have hBound := spaceOf_lt str.length
    rcases Option.isSome_iff_exists.mp
        (hPrinted (spaceOf str.length) (by omega)) with
      ⟨whole', hWhole'⟩
    have hSame :=
      BoundedPrinter.output_slack hWhole'
        (slackOf str.length)
    rw [hWhole] at hSame
    cases hSame
    have hVisible := BoundedPrinter.length_visible hWhole'
    have hEmpty := hShort (by omega)
    rw [← hEmpty, BoundedPrinter.visible_nil,
      List.length_nil] at hVisible
    omega

end

/-
  The items print less of one string in less space. A size
  from 2 ^ 31 + 1 on is a negative one, or like a small one,
  so that no larger size keeps a string that is not empty.
-/
def SteadyWithin
    (size : Nat)
    (items : List Item) : Prop :=
  if size ≤ 2 ^ 31 then
    itemPrinter.UpToMark Item.Steady Item.FitsUpTo
      (size - 1) items
  else
    itemPrinter.Reached Item.FitsUpTo (2 ^ 31 - 1) items ∧
      itemPrinter.visibleDue items = 0

/-
  A string is cut off at the end of a smaller buffer exactly
  if every item is printed in the same way in all the spaces
  that can be left for it.
-/
theorem formatted_truncates_iff
    {str format : List UInt8}
    {ap : VaList}
    {items : List Item}
    (hFormats : Formats format ap items)
    (hSome : 0 < str.length)
    (hObject : str.length < 2 ^ 63) :
    TruncatesTo str format ap ↔
      SteadyWithin str.length items := by
  have hSound := hFormats.sound
  have hReached :
      itemPrinter.Reached Item.FitsUpTo (2 ^ 31 - 1) items ↔
        itemPrinter.Reached itemPrinter.fitsUpTo (2 ^ 31 - 1)
          items := by
    apply BoundedPrinter.reached_congr
    intro item hMem room hRoom
    exact (fitsUpTo_iff (hSound item hMem) hRoom).symm
  rw [SteadyWithin]
  split
  · rename_i hSize
    rw [truncatesTo_iff_of_le hFormats hSome hSize,
      BoundedPrinter.truncates_iff, BoundedPrinter.Steady]
    apply BoundedPrinter.upToMark_congr
    · intro item hMem _ room hRoom
      exact steady_iff (hSound item hMem) hRoom
    · intro item hMem room hRoom
      exact fitsUpTo_iff (hSound item hMem) hRoom
  · rename_i hSize
    have hLarge := not_le.mp hSize
    rw [hReached]
    constructor
    · intro hTruncates
      exact ⟨hTruncates.reached hFormats hLarge,
        hTruncates.invisible hFormats hLarge hObject⟩
    · rintro ⟨hFits, hInvisible⟩ str' hSome' hLess
      have hString := formatted_of_invisible hFormats hSome'
        (by omega) hFits hInvisible
      have hString' := formatted_of_invisible hFormats hSome
        hObject hFits hInvisible
      exact ⟨[], [], hString, hString', List.prefix_refl _,
        fun _ => rfl⟩

/- The format `a%d` in a buffer of four bytes. -/
theorem formatted_truncates_iff_sample :
    TruncatesTo [9, 9, 9, 9] ("a%d".toList.map chr)
        [.int 7] ↔
      SteadyWithin 4
        [.char (chr 'a'),
          .integer ⟨10, decimalDigits, 7, noFlags, 0, 0⟩] := by
  apply formatted_truncates_iff
  · refine .plain (by decide) ?_
    exact .conversion (by decide) rfl rfl .done
  · decide
  · decide

/-
  The field of `%5s` is as wide as the space allows, so that
  the string moves to the right when there is more of it.
-/
theorem formatted_not_truncates :
    ¬ TruncatesTo [9, 9, 9, 9, 9, 9, 9]
      ("%5s".toList.map chr)
      [.pointer (some [97, 98, 0])] := by
  intro hTruncates
  rcases hTruncates [9, 9, 9, 9] (by decide) (by decide) with
    ⟨text, whole, hText, hWhole, hPrefix, -⟩
  have hText' :
      formatted [9, 9, 9, 9] ("%5s".toList.map chr)
          [.pointer (some [97, 98, 0])] =
        .ok [32, 97, 98] := by
    decide +kernel
  have hWhole' :
      formatted [9, 9, 9, 9, 9, 9, 9]
          ("%5s".toList.map chr)
          [.pointer (some [97, 98, 0])] =
        .ok [32, 32, 32, 97, 98] := by
    decide +kernel
  rw [hText'] at hText
  rw [hWhole'] at hWhole
  cases hText
  cases hWhole
  exact absurd hPrefix (by decide)

end Ssh1
