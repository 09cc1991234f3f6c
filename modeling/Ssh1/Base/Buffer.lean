import Ssh1.Base.Halt
import Ssh1.Lib.BigEndian
import Mathlib.Data.Nat.Digits.Lemmas
import Mathlib.Tactic.Ring

/-
  Byte buffers and the encodings that packets use.

  A buffer is the queue of the bytes between its `offset`
  and its `end`. Sizes are natural numbers: the queue says
  what the buffer holds, not where in memory it lies.

  Key definitions include:
    * `bufferGet`, `bufferConsume`, `bufferConsumeEnd`
    * `get32Bit`, `put32Bit`
    * `bufferGetString`, `bufferPutString`
    * `bufferPutMpInt`, `bufferGetMpInt`
    * `bufferGetMpInt_mpIntBytes_append`
-/

------------------------------------------------------------
-- Buffers
------------------------------------------------------------

namespace Ssh1

/- The bytes from `buf + offset` up to `buf + end`. -/
abbrev Buffer := List UInt8

/- The fatal error of a read beyond the end. -/
def bufferUnderrun : Halt :=
  .fatal "buffer_get trying to get more bytes than in buffer"

/- Appends data to the buffer. -/
def bufferAppend
    (buffer : Buffer)
    (data : List UInt8) : Buffer :=
  buffer ++ data

/- Gets data from the beginning of the buffer. -/
def bufferGet
    (buffer : Buffer)
    (len : Nat) : Outcome (List UInt8 × Buffer) :=
  if len > buffer.length then
    .error bufferUnderrun
  else
    .ok (buffer.take len, buffer.drop len)

/- Consumes bytes from the beginning of the buffer. -/
def bufferConsume
    (buffer : Buffer)
    (bytes : Nat) : Outcome Buffer :=
  if bytes > buffer.length then
    .error bufferUnderrun
  else
    .ok (buffer.drop bytes)

/- Consumes bytes from the end of the buffer. -/
def bufferConsumeEnd
    (buffer : Buffer)
    (bytes : Nat) : Outcome Buffer :=
  if bytes > buffer.length then
    .error bufferUnderrun
  else
    .ok (buffer.take (buffer.length - bytes))

/- So many bytes are got, and the rest is left. -/
theorem bufferGet_append
    (data rest : List UInt8) :
    bufferGet (data ++ rest) data.length =
      .ok (data, rest) := by
  simp [bufferGet]

/- Bytes that are there are got. -/
theorem bufferGet_of_le
    {buffer : Buffer}
    {len : Nat}
    (hLen : len ≤ buffer.length) :
    bufferGet buffer len =
      .ok (buffer.take len, buffer.drop len) := by
  simp [bufferGet, Nat.not_lt.mpr hLen]

/- Bytes that are there are dropped. -/
theorem bufferConsume_of_le
    {buffer : Buffer}
    {bytes : Nat}
    (hBytes : bytes ≤ buffer.length) :
    bufferConsume buffer bytes =
      .ok (buffer.drop bytes) := by
  simp [bufferConsume, Nat.not_lt.mpr hBytes]

/- So are bytes at the end. -/
theorem bufferConsumeEnd_of_le
    {buffer : Buffer}
    {bytes : Nat}
    (hBytes : bytes ≤ buffer.length) :
    bufferConsumeEnd buffer bytes =
      .ok (buffer.take (buffer.length - bytes)) := by
  simp [bufferConsumeEnd, Nat.not_lt.mpr hBytes]

/- A read beyond the end of the buffer is an orderly end. -/
theorem bufferGet_orderly
    (buffer : Buffer)
    (len : Nat) :
    Orderly (bufferGet buffer len) fun result =>
      result.1.length = len ∧
        buffer = result.1 ++ result.2 := by
  unfold bufferGet
  split
  · exact id
  · rename_i hLen
    refine ⟨?_, (List.take_append_drop len buffer).symm⟩
    simpa using Nat.not_lt.mp hLen

end Ssh1

------------------------------------------------------------
-- Integers Most Significant Byte First
------------------------------------------------------------

namespace Ssh1

/- The macro `GET_32BIT`. -/
def get32Bit (cp : List UInt8) : Nat :=
  BigEndian.ofBytes (cp.take 4)

/- The macro `PUT_32BIT`. -/
def put32Bit (value : Nat) : List UInt8 :=
  BigEndian.toBytes 4 value

/- The macro `GET_16BIT`. -/
def get16Bit (cp : List UInt8) : Nat :=
  BigEndian.ofBytes (cp.take 2)

/- The macro `PUT_16BIT`. -/
def put16Bit (value : Nat) : List UInt8 :=
  BigEndian.toBytes 2 value

@[simp] theorem length_put32Bit
    (value : Nat) :
    (put32Bit value).length = 4 :=
  BigEndian.length_toBytes 4 value

/- A word is got as it was put. -/
theorem get32Bit_put32Bit_append
    {value : Nat}
    (hValue : value < 2 ^ 32)
    (rest : List UInt8) :
    get32Bit (put32Bit value ++ rest) = value := by
  have hTake :
      (put32Bit value ++ rest).take 4 = put32Bit value := by
    rw [List.take_append_of_le_length (by simp),
      List.take_of_length_le (by simp)]
  rw [get32Bit, hTake]
  exact BigEndian.ofBytes_toBytes_of_lt hValue

/- What is got is a word. -/
theorem get32Bit_lt
    (cp : List UInt8) :
    get32Bit cp < 2 ^ 32 := by
  have hBound := BigEndian.ofBytes_lt (cp.take 4)
  have hLength : (cp.take 4).length ≤ 4 :=
    List.length_take_le 4 cp
  calc get32Bit cp < 256 ^ (cp.take 4).length := hBound
    _ ≤ 256 ^ 4 := Nat.pow_le_pow_right (by omega) hLength
    _ = 2 ^ 32 := by norm_num

/- Returns an integer from the buffer. -/
def bufferGetInt
    (buffer : Buffer) : Outcome (Nat × Buffer) := do
  let (buf, buffer) ← bufferGet buffer 4
  return (get32Bit buf, buffer)

/- A short buffer is the only way to fail. -/
theorem bufferGetInt_orderly
    (buffer : Buffer) :
    Orderly (bufferGetInt buffer) fun _ => True := by
  refine (bufferGet_orderly buffer 4).bind ?_
  intro _ _
  trivial

/- The value of a packet integer as an `int`. -/
def toInt32 (value : Nat) : Int :=
  if value < 2 ^ 31 then value else value - 2 ^ 32

/- Stores an integer in the buffer. -/
def bufferPutInt
    (buffer : Buffer)
    (value : Nat) : Buffer :=
  bufferAppend buffer (put32Bit value)

/- Returns a character from the buffer. -/
def bufferGetChar
    (buffer : Buffer) : Outcome (UInt8 × Buffer) := do
  let (ch, buffer) ← bufferGet buffer 1
  return (ch.headD 0, buffer)

theorem bufferGetChar_orderly
    (buffer : Buffer) :
    Orderly (bufferGetChar buffer) fun _ => True := by
  refine (bufferGet_orderly buffer 1).bind ?_
  intro _ _
  trivial

/- Stores a character in the buffer. -/
def bufferPutChar
    (buffer : Buffer)
    (value : UInt8) : Buffer :=
  bufferAppend buffer [value]

end Ssh1

------------------------------------------------------------
-- Strings
------------------------------------------------------------

namespace Ssh1

/- The bytes of a string up to its first zero byte. -/
def cString (bytes : List UInt8) : List UInt8 :=
  bytes.takeWhile (· ≠ 0)

/- The bytes up to the first zero byte, as a text. -/
def cStringText (bytes : List UInt8) : String :=
  String.ofList
    ((bytes.takeWhile (· ≠ 0)).map
      fun b => Char.ofNat b.toNat)

/- The bytes of a text of the source. -/
def asciiBytes (text : String) : List UInt8 :=
  text.toList.map fun c => UInt8.ofNat c.toNat

/- The longest string that `buffer_get_string` accepts. -/
def maxStringLength : Nat := 256 * 1024

/- Returns an arbitrary binary string from the buffer. -/
def bufferGetString
    (buffer : Buffer) : Outcome (List UInt8 × Buffer) := do
  let (len, buffer) ← bufferGetInt buffer
  if len > maxStringLength then
    .error (.fatal
      ("Received packet with bad string length " ++
        toString len))
  else
    bufferGet buffer len

/- Stores an arbitrary binary string in the buffer. -/
def bufferPutString
    (buffer : Buffer)
    (buf : List UInt8) : Buffer :=
  bufferAppend (bufferPutInt buffer buf.length) buf

/- A word is read, and the rest is left. -/
theorem bufferGetInt_put32Bit_append
    {value : Nat}
    (hValue : value < 2 ^ 32)
    (rest : List UInt8) :
    bufferGetInt (put32Bit value ++ rest) =
      .ok (value, rest) := by
  have hGet := bufferGet_append (put32Bit value) rest
  rw [length_put32Bit] at hGet
  have hRead := get32Bit_put32Bit_append hValue []
  rw [List.append_nil] at hRead
  rw [bufferGetInt, hGet]
  simp [hRead]

/- A stored string is read back, and what follows stays. -/
theorem bufferGetString_bufferPutString_append
    {buf : List UInt8}
    (hLength : buf.length ≤ maxStringLength)
    (rest : List UInt8) :
    bufferGetString (bufferPutString [] buf ++ rest) =
      .ok (buf, rest) := by
  have hWord : buf.length < 2 ^ 32 := by
    unfold maxStringLength at hLength
    omega
  have hShape :
      bufferPutString [] buf ++ rest =
        put32Bit buf.length ++ (buf ++ rest) := by
    simp [bufferPutString, bufferPutInt, bufferAppend]
  rw [hShape, bufferGetString,
    bufferGetInt_put32Bit_append hWord]
  simp [Nat.not_lt.mpr hLength, bufferGet_append]

/- Reading a string ends in an orderly way or returns it. -/
theorem bufferGetString_orderly
    (buffer : Buffer) :
    Orderly (bufferGetString buffer) fun _ => True := by
  unfold bufferGetString
  refine (bufferGetInt_orderly buffer).bind ?_
  rintro ⟨len, rest⟩ -
  by_cases hLong : len > maxStringLength
  · simp only [hLong, if_true]
    exact id
  · simp only [hLong, if_false]
    exact (bufferGet_orderly rest len).mono
      fun _ _ => trivial

end Ssh1

------------------------------------------------------------
-- Arbitrary Precision Integers
------------------------------------------------------------

namespace Ssh1

/- `mpz_sizeinbase (value, 2)` -/
def mpzSizeinbase2 (value : Nat) : Nat :=
  if value = 0 then 1 else Nat.log2 value + 1

/- The digits that `mpz_get_str (buf, 16, value)` prints. -/
def mpzGetStr16 (value : Nat) : List Nat :=
  if value = 0 then [0] else (Nat.digits 16 value).reverse

/- Reads hex digits two by two, as `sscanf` with `%2x`. -/
def packHexDigits : List Nat → List UInt8
| high :: low :: rest =>
    UInt8.ofNat (16 * high + low) :: packHexDigits rest
| _ => []

/-
  Converts hex digits into bytes. With an odd number of
  digits the first one is a byte of its own.
-/
def hexToBinary (digits : List Nat) : List UInt8 :=
  if digits.length % 2 = 1 then
    UInt8.ofNat (digits.headD 0) ::
      packHexDigits digits.tail
  else
    packHexDigits digits

/-
  Stores an integer with a two-byte bit count before its
  bytes.
-/
def bufferPutMpInt
    (buffer : Buffer)
    (value : Nat) : Outcome Buffer := do
  let bits := mpzSizeinbase2 value
  let binary := hexToBinary (mpzGetStr16 value)
  assert (binary.length = (bits + 7) / 8)
  return bufferAppend
    (bufferAppend buffer (put16Bit bits)) binary

/-
  Returns an arbitrary precision integer from the buffer.
  Where no bits are announced nothing is written to the
  string of digits, which is read all the same.
-/
def bufferGetMpInt
    (buffer : Buffer) : Outcome (Nat × Buffer) := do
  let (buf, buffer) ← bufferGet buffer 2
  let bytes := (get16Bit buf + 7) / 8
  let (binary, buffer) ← bufferGet buffer bytes
  if bytes = 0 then
    .error .outOfBounds
  else
    return (BigEndian.ofBytes binary, buffer)

/- The bit count bounds the number. -/
theorem lt_two_pow_mpzSizeinbase2
    (value : Nat) :
    value < 2 ^ mpzSizeinbase2 value := by
  unfold mpzSizeinbase2
  split
  · omega
  · exact Nat.lt_log2_self

/- A number other than zero reaches its top bit. -/
theorem two_pow_le_of_mpzSizeinbase2
    {value : Nat}
    (hValue : value ≠ 0) :
    2 ^ (mpzSizeinbase2 value - 1) ≤ value := by
  simp only [mpzSizeinbase2, hValue, if_false,
    Nat.add_sub_cancel]
  exact Nat.log2_self_le hValue

theorem mpzSizeinbase2_pos
    (value : Nat) :
    0 < mpzSizeinbase2 value := by
  unfold mpzSizeinbase2
  split <;> omega

/- A number below `2 ^ n` has at most `n` bits. -/
theorem mpzSizeinbase2_le
    {value n : Nat}
    (hn : 0 < n)
    (hValue : value < 2 ^ n) :
    mpzSizeinbase2 value ≤ n := by
  by_cases hZero : value = 0
  · rw [mpzSizeinbase2, if_pos hZero]
    exact hn
  · have hLow := two_pow_le_of_mpzSizeinbase2 hZero
    have hPow :
        2 ^ (mpzSizeinbase2 value - 1) < 2 ^ n :=
      lt_of_le_of_lt hLow hValue
    have hExp :=
      (Nat.pow_lt_pow_iff_right (by omega)).mp hPow
    omega

/- A number with its top bit at `n - 1` has `n` bits. -/
theorem mpzSizeinbase2_eq
    {value n : Nat}
    (hn : 0 < n)
    (hLow : 2 ^ (n - 1) ≤ value)
    (hHigh : value < 2 ^ n) :
    mpzSizeinbase2 value = n := by
  have hUpper := mpzSizeinbase2_le hn hHigh
  have hPow : 2 ^ (n - 1) < 2 ^ mpzSizeinbase2 value :=
    lt_of_le_of_lt hLow (lt_two_pow_mpzSizeinbase2 value)
  have hExp :=
    (Nat.pow_lt_pow_iff_right (by omega)).mp hPow
  omega

/- Two digits make a byte. -/
theorem length_packHexDigits
    (digits : List Nat) :
    (packHexDigits digits).length = digits.length / 2 := by
  induction digits using packHexDigits.induct with
  | case1 high low rest ih =>
      simp only [packHexDigits, List.length_cons, ih]
      omega
  | case2 digits hShort =>
      match digits, hShort with
      | [], _ => rfl
      | [d], _ => simp [packHexDigits]
      | high :: low :: rest, hShort =>
          exact (hShort high low rest rfl).elim

/- An odd digit takes a byte of its own. -/
theorem length_hexToBinary
    {digits : List Nat}
    (hDigits : digits ≠ []) :
    (hexToBinary digits).length =
      (digits.length + 1) / 2 := by
  have hPos : 0 < digits.length :=
    List.length_pos_of_ne_nil hDigits
  unfold hexToBinary
  split
  · simp only [List.length_cons, length_packHexDigits,
      List.length_tail]
    omega
  · rw [length_packHexDigits]
    omega

theorem mpzGetStr16_ne_nil
    (value : Nat) :
    mpzGetStr16 value ≠ [] := by
  unfold mpzGetStr16
  split
  · simp
  · rename_i hValue
    simpa [Nat.digits_ne_nil_iff_ne_zero] using hValue

/- Four bits go into each hex digit. -/
theorem mpzSizeinbase2_bounds
    {value : Nat}
    (hValue : value ≠ 0) :
    4 * ((mpzGetStr16 value).length - 1) <
        mpzSizeinbase2 value ∧
      mpzSizeinbase2 value ≤
        4 * (mpzGetStr16 value).length := by
  have hDigits :
      (mpzGetStr16 value).length =
        (Nat.digits 16 value).length := by
    simp [mpzGetStr16, hValue]
  have hUpper : value < 16 ^ (mpzGetStr16 value).length := by
    rw [hDigits]
    exact Nat.lt_base_pow_length_digits (by omega)
  have hLower :
      16 ^ ((mpzGetStr16 value).length - 1) ≤ value := by
    have hPow :=
      Nat.base_pow_length_digits_le 16 value (by omega)
        hValue
    have hPos : 0 < (Nat.digits 16 value).length := by
      rw [← hDigits]
      exact List.length_pos_of_ne_nil
        (mpzGetStr16_ne_nil value)
    rw [hDigits]
    have hSplit :
        16 ^ (Nat.digits 16 value).length =
          16 * 16 ^ ((Nat.digits 16 value).length - 1) := by
      rw [← pow_succ']
      congr 1
      omega
    rw [hSplit] at hPow
    exact Nat.le_of_mul_le_mul_left hPow (by omega)
  have hSixteen : ∀ n, 16 ^ n = 2 ^ (4 * n) := by
    intro n
    rw [pow_mul]
    norm_num
  rw [hSixteen] at hUpper hLower
  have hBits := lt_two_pow_mpzSizeinbase2 value
  have hTop := two_pow_le_of_mpzSizeinbase2 hValue
  have hLess :
      4 * ((mpzGetStr16 value).length - 1) <
        mpzSizeinbase2 value :=
    (Nat.pow_lt_pow_iff_right (by omega)).mp
      (lt_of_le_of_lt hLower hBits)
  have hMore :
      mpzSizeinbase2 value - 1 <
        4 * (mpzGetStr16 value).length :=
    (Nat.pow_lt_pow_iff_right (by omega)).mp
      (lt_of_le_of_lt hTop hUpper)
  have hPos := mpzSizeinbase2_pos value
  omega

/- The hex digits, two by two, fill the bytes. -/
theorem length_mpzGetStr16
    (value : Nat) :
    ((mpzGetStr16 value).length + 1) / 2 =
      (mpzSizeinbase2 value + 7) / 8 := by
  by_cases hZero : value = 0
  · simp [mpzGetStr16, mpzSizeinbase2, hZero]
  · have hBounds := mpzSizeinbase2_bounds hZero
    have hPos := mpzSizeinbase2_pos value
    omega

/- The assertion of the encoder always holds. -/
theorem bufferPutMpInt_ok
    (buffer : Buffer)
    (value : Nat) :
    bufferPutMpInt buffer value =
      .ok (buffer ++ put16Bit (mpzSizeinbase2 value) ++
        hexToBinary (mpzGetStr16 value)) := by
  have hLength :
      (hexToBinary (mpzGetStr16 value)).length =
        (mpzSizeinbase2 value + 7) / 8 := by
    rw [length_hexToBinary (mpzGetStr16_ne_nil value),
      length_mpzGetStr16]
  simp [bufferPutMpInt, hLength, bufferAppend]

end Ssh1

------------------------------------------------------------
-- Round Trips
------------------------------------------------------------

namespace Ssh1

/- Hex digits two by two are base 256 digits. -/
theorem foldl_packHexDigits
    {digits : List Nat}
    (hDigits : ∀ d ∈ digits, d < 16)
    (hEven : digits.length % 2 = 0)
    (start : Nat) :
    (packHexDigits digits).foldl
        (fun acc b => acc * 256 + b.toNat) start =
      digits.foldl (fun acc d => 16 * acc + d) start := by
  induction digits using packHexDigits.induct
    generalizing start with
  | case1 high low rest ih =>
      have hHigh : high < 16 := hDigits high (by simp)
      have hLow : low < 16 := hDigits low (by simp)
      have hByte :
          (UInt8.ofNat (16 * high + low)).toNat =
            16 * high + low :=
        UInt8.toNat_ofNat_of_lt' (by
          simp only [UInt8.size]
          omega)
      have hRest : rest.length % 2 = 0 := by
        simp only [List.length_cons] at hEven
        omega
      rw [packHexDigits, List.foldl_cons, hByte,
        ih (fun d hd => hDigits d (by simp [hd])) hRest,
        List.foldl_cons, List.foldl_cons]
      congr 1
      ring
  | case2 digits hShort =>
      match digits, hShort with
      | [], _ => rfl
      | [d], _ => simp at hEven
      | high :: low :: rest, hShort =>
          exact (hShort high low rest rfl).elim

/- The digits of a number spell it. -/
theorem foldl_mpzGetStr16
    (value : Nat) :
    (mpzGetStr16 value).foldl
        (fun acc d => 16 * acc + d) 0 = value := by
  by_cases hZero : value = 0
  · simp [mpzGetStr16, hZero]
  · have hDigits := Nat.ofDigits_digits 16 value
    rw [Nat.ofDigits_eq_foldr] at hDigits
    rw [mpzGetStr16, if_neg hZero, List.foldl_reverse]
    conv => rhs; rw [← hDigits]
    congr 1
    funext d acc
    simp only [Nat.cast_id]
    omega

/- The digits are hexadecimal. -/
theorem lt_of_mem_mpzGetStr16
    {value d : Nat}
    (hDigit : d ∈ mpzGetStr16 value) :
    d < 16 := by
  unfold mpzGetStr16 at hDigit
  split at hDigit
  · simp only [List.mem_singleton] at hDigit
    omega
  · exact Nat.digits_lt_base (by omega)
      (List.mem_reverse.mp hDigit)

/- The bytes of a number spell it, too. -/
theorem ofBytes_hexToBinary
    (value : Nat) :
    BigEndian.ofBytes (hexToBinary (mpzGetStr16 value)) =
      value := by
  have hSpelled := foldl_mpzGetStr16 value
  have hDigits :
      ∀ d ∈ mpzGetStr16 value, d < 16 :=
    fun d hd => lt_of_mem_mpzGetStr16 hd
  unfold BigEndian.ofBytes hexToBinary
  generalize mpzGetStr16 value = digits at hSpelled hDigits
  split
  · rename_i hOdd
    cases digits with
    | nil => simp at hOdd
    | cons first rest =>
        have hFirst : first < 16 := hDigits first (by simp)
        have hByte : (UInt8.ofNat first).toNat = first :=
          UInt8.toNat_ofNat_of_lt' (by
            simp only [UInt8.size]
            omega)
        have hRest : rest.length % 2 = 0 := by
          simp only [List.length_cons] at hOdd
          omega
        rw [List.headD_cons, List.tail_cons,
          List.foldl_cons, hByte,
          foldl_packHexDigits
            (fun d hd => hDigits d (by simp [hd])) hRest]
        simpa using hSpelled
  · rename_i hEven
    rw [foldl_packHexDigits hDigits (by omega)]
    exact hSpelled

/- The encoding of an integer. -/
def mpIntBytes (value : Nat) : List UInt8 :=
  put16Bit (mpzSizeinbase2 value) ++
    hexToBinary (mpzGetStr16 value)

/- An integer is put as its bits and its bytes. -/
theorem bufferPutMpInt_eq
    (buffer : Buffer)
    (value : Nat) :
    bufferPutMpInt buffer value =
      .ok (buffer ++ mpIntBytes value) := by
  rw [bufferPutMpInt_ok, mpIntBytes, List.append_assoc]

/- The bytes are as many as the bits need. -/
theorem length_hexToBinary_mpzGetStr16
    (value : Nat) :
    (hexToBinary (mpzGetStr16 value)).length =
      (mpzSizeinbase2 value + 7) / 8 := by
  rw [length_hexToBinary (mpzGetStr16_ne_nil value),
    length_mpzGetStr16]

/- Two bytes more for the number of bits. -/
theorem length_mpIntBytes
    (value : Nat) :
    (mpIntBytes value).length =
      2 + (mpzSizeinbase2 value + 7) / 8 := by
  have hWidth :
      (put16Bit (mpzSizeinbase2 value)).length = 2 :=
    BigEndian.length_toBytes 2 _
  rw [mpIntBytes, List.length_append, hWidth,
    length_hexToBinary_mpzGetStr16]

/-
  A stored integer is read back, and what follows stays,
  where the bit count fits its two bytes.
-/
theorem bufferGetMpInt_mpIntBytes_append
    {value : Nat}
    (hBits : mpzSizeinbase2 value < 65536)
    (rest : List UInt8) :
    bufferGetMpInt (mpIntBytes value ++ rest) =
      .ok (value, rest) := by
  have hWidth :
      (put16Bit (mpzSizeinbase2 value)).length = 2 :=
    BigEndian.length_toBytes 2 _
  have hCount :
      get16Bit (put16Bit (mpzSizeinbase2 value)) =
        mpzSizeinbase2 value := by
    rw [get16Bit, List.take_of_length_le hWidth.le]
    exact BigEndian.ofBytes_toBytes_of_lt hBits
  have hHead :=
    bufferGet_append (put16Bit (mpzSizeinbase2 value))
      (hexToBinary (mpzGetStr16 value) ++ rest)
  have hTail :=
    bufferGet_append (hexToBinary (mpzGetStr16 value)) rest
  rw [hWidth] at hHead
  rw [length_hexToBinary_mpzGetStr16] at hTail
  have hPos := mpzSizeinbase2_pos value
  have hSome : (mpzSizeinbase2 value + 7) / 8 ≠ 0 := by
    omega
  rw [mpIntBytes, List.append_assoc, bufferGetMpInt, hHead]
  simp only [FallibleRun.ok_bind, hCount, hTail, hSome,
    if_false, FallibleRun.pure_eq_ok, ofBytes_hexToBinary]

/- With no bits announced a fresh block is read. -/
theorem bufferGetMpInt_noBits
    (rest : List UInt8) :
    bufferGetMpInt (0 :: 0 :: rest) =
      .error .outOfBounds := by
  have hGet :
      bufferGet (0 :: 0 :: rest) 2 = .ok ([0, 0], rest) :=
    bufferGet_append [0, 0] rest
  have hNone : bufferGet rest 0 = .ok ([], rest) :=
    bufferGet_append [] rest
  have hBytes : (get16Bit [0, 0] + 7) / 8 = 0 := by
    decide
  simp only [bufferGetMpInt, hGet, hNone, hBytes,
    FallibleRun.ok_bind, if_true]

/- A stored character is read back. -/
theorem bufferGetChar_cons
    (ch : UInt8)
    (rest : List UInt8) :
    bufferGetChar (ch :: rest) = .ok (ch, rest) := by
  have hGet := bufferGet_append [ch] rest
  rw [List.length_singleton, List.singleton_append] at hGet
  rw [bufferGetChar, hGet]
  rfl

end Ssh1
