import Ssh1.Base.Buffer
import Ssh1.Lib.FieldReader

/-
  The fields that the buffer functions read, as texts.

  Main declarations:
    * `IsChar`, `IsBytes`, `IsInt`, `IsMpInt`, `IsString`
    * `reads_bufferGet`
    * `reads_bufferGetMpInt`
    * `reads_bufferGetString`
-/

------------------------------------------------------------
-- Fields
------------------------------------------------------------

namespace Ssh1

open FieldReader

/- A number of bytes. -/
def IsBytes (len : Nat) : Field UInt8 (List UInt8) :=
  fun text value => text = value ∧ text.length = len

/- A character. -/
def IsChar : Field UInt8 UInt8 :=
  fun text value => text = [value]

/- Four bytes, most significant first. -/
def IsInt : Field UInt8 Nat :=
  fun text value => text.length = 4 ∧ value = get32Bit text

/-
  A count of bits in two bytes, which is not zero, and the
  bytes of a number.
-/
def IsMpInt : Field UInt8 Nat :=
  fun text value =>
    ∃ count digits, text = count ++ digits ∧
      count.length = 2 ∧ 0 < get16Bit count ∧
      digits.length = (get16Bit count + 7) / 8 ∧
      value = BigEndian.ofBytes digits

/- A length that is not too large, and as many bytes. -/
def IsString : Field UInt8 (List UInt8) :=
  fun text value =>
    ∃ count, text = count ++ value ∧ count.length = 4 ∧
      value.length = get32Bit count ∧
      value.length ≤ maxStringLength

/- A number of bytes is read as it stands. -/
theorem reads_bufferGet
    (len : Nat) :
    Reads (fun buffer => bufferGet buffer len)
      (IsBytes len) where
  complete := by
    rintro text value rest ⟨rfl, rfl⟩
    exact bufferGet_append text rest
  sound := by
    intro buffer value rest hOk
    unfold bufferGet at hOk
    split at hOk
    · cases hOk
    · rename_i hLen
      cases hOk
      refine ⟨_, ⟨rfl, ?_⟩,
        (List.take_append_drop len buffer).symm⟩
      rw [List.length_take]
      omega

/- `buffer_get_char` reads a byte. -/
theorem reads_bufferGetChar :
    Reads bufferGetChar IsChar where
  complete := by
    rintro text value rest rfl
    exact bufferGetChar_cons value rest
  sound := by
    intro buffer value rest hOk
    rcases FallibleRun.bind_eq_ok_iff.mp hOk with
      ⟨⟨ch, rest'⟩, hGet, hRest⟩
    rcases (reads_bufferGet 1).sound buffer ch rest' hGet with
      ⟨text, ⟨rfl, hLength⟩, rfl⟩
    cases hRest
    rcases List.length_eq_one_iff.mp hLength with ⟨c, rfl⟩
    exact ⟨[c], rfl, rfl⟩

/- `buffer_get_int` reads four bytes, the highest first. -/
theorem reads_bufferGetInt :
    Reads bufferGetInt IsInt where
  complete := by
    rintro text value rest ⟨hLength, rfl⟩
    have hGet :=
      (reads_bufferGet 4).complete text text rest
        ⟨rfl, hLength⟩
    simp only [bufferGetInt, hGet, FallibleRun.ok_bind,
      FallibleRun.pure_eq_ok]
  sound := by
    intro buffer value rest hOk
    rcases FallibleRun.bind_eq_ok_iff.mp hOk with
      ⟨⟨buf, rest'⟩, hGet, hRest⟩
    rcases (reads_bufferGet 4).sound buffer buf rest' hGet
      with ⟨text, ⟨rfl, hLength⟩, rfl⟩
    cases hRest
    exact ⟨text, ⟨hLength, rfl⟩, rfl⟩

/- `buffer_get_mp_int` reads an integer of at least one bit. -/
theorem reads_bufferGetMpInt :
    Reads bufferGetMpInt IsMpInt where
  complete := by
    rintro text value rest
      ⟨count, digits, rfl, hCount, hBits, hDigits, rfl⟩
    have hFirst :=
      (reads_bufferGet 2).complete count count
        (digits ++ rest) ⟨rfl, hCount⟩
    have hSecond :=
      (reads_bufferGet ((get16Bit count + 7) / 8)).complete
        digits digits rest ⟨rfl, hDigits⟩
    have hSome : (get16Bit count + 7) / 8 ≠ 0 := by
      omega
    rw [List.append_assoc]
    simp only [bufferGetMpInt, hFirst, hSecond, hSome,
      if_false, FallibleRun.ok_bind, FallibleRun.pure_eq_ok]
  sound := by
    intro buffer value rest hOk
    rcases FallibleRun.bind_eq_ok_iff.mp hOk with
      ⟨⟨buf, mid⟩, hFirst, hTail⟩
    rcases FallibleRun.bind_eq_ok_iff.mp hTail with
      ⟨⟨binary, rest'⟩, hSecond, hRest⟩
    rcases (reads_bufferGet 2).sound buffer buf mid hFirst
      with ⟨count, ⟨rfl, hCount⟩, rfl⟩
    rcases (reads_bufferGet _).sound mid binary rest' hSecond
      with ⟨digits, ⟨rfl, hDigits⟩, rfl⟩
    simp only at hRest
    split at hRest
    · cases hRest
    · rename_i hSome
      cases hRest
      exact ⟨count ++ digits,
        ⟨count, digits, rfl, hCount, by omega, hDigits, rfl⟩,
        (List.append_assoc _ _ _).symm⟩

/- `buffer_get_string` reads a length and as many bytes. -/
theorem reads_bufferGetString :
    Reads bufferGetString IsString where
  complete := by
    rintro text value rest
      ⟨count, rfl, hCount, hLength, hMax⟩
    have hFirst :=
      reads_bufferGetInt.complete count (get32Bit count)
        (value ++ rest) ⟨hCount, rfl⟩
    have hBound : ¬ get32Bit count > maxStringLength := by
      omega
    have hSecond :=
      (reads_bufferGet (get32Bit count)).complete value value
        rest ⟨rfl, hLength⟩
    rw [List.append_assoc]
    simp only [bufferGetString, hFirst, FallibleRun.ok_bind,
      hBound, if_false, hSecond]
  sound := by
    intro buffer value rest hOk
    rcases FallibleRun.bind_eq_ok_iff.mp hOk with
      ⟨⟨len, mid⟩, hFirst, hTail⟩
    rcases reads_bufferGetInt.sound buffer len mid hFirst with
      ⟨count, ⟨hCount, rfl⟩, rfl⟩
    simp only at hTail
    split at hTail
    · cases hTail
    · rename_i hBound
      rcases (reads_bufferGet _).sound mid value rest hTail
        with ⟨text, ⟨rfl, hLength⟩, rfl⟩
      exact ⟨count ++ text,
        ⟨count, rfl, hCount, hLength, by omega⟩,
        (List.append_assoc _ _ _).symm⟩

end Ssh1

------------------------------------------------------------
-- Stored Fields
------------------------------------------------------------

namespace Ssh1

theorem isInt_put32Bit
    {value : Nat}
    (hValue : value < 2 ^ 32) :
    IsInt (put32Bit value) value := by
  refine ⟨length_put32Bit value, ?_⟩
  have hRead := get32Bit_put32Bit_append hValue []
  rw [List.append_nil] at hRead
  exact hRead.symm

/- A bit count that fits its two bytes is read back. -/
theorem isMpInt_mpIntBytes
    {value : Nat}
    (hBits : mpzSizeinbase2 value < 65536) :
    IsMpInt (mpIntBytes value) value := by
  have hWidth :
      (put16Bit (mpzSizeinbase2 value)).length = 2 :=
    BigEndian.length_toBytes 2 _
  have hCount :
      get16Bit (put16Bit (mpzSizeinbase2 value)) =
        mpzSizeinbase2 value := by
    rw [get16Bit, List.take_of_length_le hWidth.le]
    exact BigEndian.ofBytes_toBytes_of_lt hBits
  refine ⟨_, _, rfl, hWidth, ?_, ?_,
    (ofBytes_hexToBinary value).symm⟩
  · rw [hCount]
    exact mpzSizeinbase2_pos value
  · rw [length_hexToBinary_mpzGetStr16, hCount]

theorem isString_put32Bit_append
    {buf : List UInt8}
    (hLength : buf.length ≤ maxStringLength) :
    IsString (put32Bit buf.length ++ buf) buf := by
  have hWord : buf.length < 2 ^ 32 := by
    rw [maxStringLength] at hLength
    omega
  refine ⟨_, rfl, length_put32Bit _, ?_, hLength⟩
  have hRead := get32Bit_put32Bit_append hWord []
  rw [List.append_nil] at hRead
  exact hRead.symm

end Ssh1
