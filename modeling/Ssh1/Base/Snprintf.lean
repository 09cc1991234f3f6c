import Ssh1.Base.MpInt
import Ssh1.Base.Unsigned

/-
  Formatted printing into a buffer of bounded size.

  The arguments of a call are `int`, `long int` and pointers
  to characters. Floating point conversions, and `%n` with
  its pointer, have no argument among these.

  Main declarations:
    * `snprintfGetDirective`
    * `readArgument`
    * `snprintfConvertUlong`
    * `vsnprintf`
-/

------------------------------------------------------------
-- Directives
------------------------------------------------------------

namespace Ssh1

/- The byte of a character. -/
def chr (c : Char) : UInt8 :=
  UInt8.ofNat c.toNat

/- The flags of a conversion. -/
structure Flags where
  minus : Bool
  plus : Bool
  space : Bool
  hash : Bool
  convToShort : Bool
  isLongInt : Bool
  isLongDouble : Bool
  xUpcase : Bool
  isNegative : Bool
  unsignedDec : Bool
  zeroPadding : Bool
  deriving DecidableEq

/- The flags at the start of a directive. -/
def noFlags : Flags where
  minus := false
  plus := false
  space := false
  hash := false
  convToShort := false
  isLongInt := false
  isLongDouble := false
  xUpcase := false
  isNegative := false
  unsignedDec := false
  zeroPadding := false

/- The condition `flags && X_UPCASE`. -/
def Flags.andUpcase (flags : Flags) : Bool :=
  -- the logical operator only asks for some flag at all
  flags ≠ noFlags

/- What is passed for the variable arguments. -/
inductive Arg where
  -- `int` and `unsigned int`
  | int (value : BitVec 32)
  -- `long int` and `unsigned long int`
  | long (value : BitVec 64)
  -- `char *`, with the memory behind it unless it is `NULL`
  | pointer (memory : Option (List UInt8))
  deriving DecidableEq

/- What `va_arg` has still to return. -/
abbrev VaList := List Arg

/- `va_arg (ap, int)`: another argument is undefined. -/
def vaInt : VaList → Outcome (BitVec 32 × VaList)
| .int value :: ap => .ok (value, ap)
| _ => .error .outOfBounds

/- `va_arg (ap, long)`. -/
def vaLong : VaList → Outcome (BitVec 64 × VaList)
| .long value :: ap => .ok (value, ap)
| _ => .error .outOfBounds

/- `va_arg` of a pointer, with the bytes that it points to. -/
def vaPointer :
    VaList → Outcome (Option (List UInt8) × VaList)
| .pointer memory :: ap => .ok (memory, ap)
| _ => .error .outOfBounds

/- `isdigit` in the C locale. -/
def isdigit (c : UInt8) : Bool :=
  chr '0' ≤ c ∧ c ≤ chr '9'

/- The `while` loop over the flags. -/
def readFlags :
    List UInt8 → Flags → Flags × List UInt8
| [], flags => (flags, [])
| c :: str, flags =>
    if c = chr '-' then
      readFlags str { flags with minus := true }
    else if c = chr '+' then
      readFlags str { flags with plus := true }
    else if c = chr ' ' then
      readFlags str { flags with space := true }
    else if c = chr '#' then
      readFlags str { flags with hash := true }
    else if c = chr '0' then
      readFlags str { flags with zeroPadding := true }
    else
      (flags, c :: str)

/- The loop over the digits of a width or a precision. -/
def readNumber : List UInt8 → Int → Int × List UInt8
| [], value => (value, [])
| c :: str, value =>
    if isdigit c then
      readNumber str
        (wrapInt (10 * value + (c.toNat - (chr '0').toNat)))
    else
      (value, c :: str)

/- A number, or `*` for one among the arguments. -/
def readField
    (str : List UInt8)
    (ap : VaList) :
    Outcome (Int × List UInt8 × VaList) :=
  match str with
  | [] => .ok (0, [], ap)
  | c :: rest =>
      if isdigit c then
        let number := readNumber (c :: rest) 0
        .ok (number.1, number.2, ap)
      else if c = chr '*' then do
        let (value, ap) ← vaInt ap
        return (value.toInt, rest, ap)
      else
        .ok (0, c :: rest, ap)

/- The precision, which stands behind a dot. -/
def readPrecision
    (str : List UInt8)
    (ap : VaList) :
    Outcome (Int × List UInt8 × VaList) :=
  if str.head? = some (chr '.') then
    readField str.tail ap
  else
    .ok (0, str, ap)

/- The optional type character. -/
def readType
    (str : List UInt8)
    (flags : Flags) : Flags × List UInt8 :=
  if str.head? = some (chr 'h') then
    ({ flags with convToShort := true }, str.tail)
  else if str.head? = some (chr 'l') then
    ({ flags with isLongInt := true }, str.tail)
  else if str.head? = some (chr 'L') then
    ({ flags with isLongDouble := true }, str.tail)
  else
    (flags, str)

/- A formatting directive. -/
structure Directive where
  flags : Flags
  width : Int
  precision : Int
  formatChar : UInt8
  deriving DecidableEq

/- The formatting characters that are known. -/
def formatChars : List UInt8 :=
  ['i', 'd', 'o', 'u', 'x', 'X', 'f', 'e', 'E', 'g', 'G',
    'c', 's', 'p', 'n'].map chr

/-
  Extracts a directive from what follows a `%`, and what is
  left of the format. It returns nothing where the extraction
  fails.
-/
def snprintfGetDirective
    (str : List UInt8)
    (ap : VaList) :
    Outcome (Option (Directive × List UInt8) × VaList) := do
  let (flags, str) := readFlags str noFlags
  -- don't pad left-justified numbers with zeros
  let flags :=
    if flags.minus ∧ flags.zeroPadding then
      { flags with zeroPadding := false }
    else
      flags
  let (width, str, ap) ← readField str ap
  let (precision, str, ap) ← readPrecision str ap
  let (flags, str) := readType str flags
  match str with
  | [] => return (none, ap)
  | formatChar :: str =>
      if formatChar ∈ formatChars then
        let flags :=
          if formatChar = chr 'X' then
            { flags with xUpcase := true }
          else if formatChar = chr 'o' then
            { flags with unsignedDec := true }
          else
            flags
        return (some (⟨flags, width, precision, formatChar⟩,
          str), ap)
      else
        return (none, ap)

end Ssh1

------------------------------------------------------------
-- Arguments
------------------------------------------------------------

namespace Ssh1

/- The parameters of an integer conversion. -/
structure IntegerField where
  base : Nat
  digits : List UInt8
  ulongVal : Nat
  flags : Flags
  width : Int
  precision : Int
  deriving DecidableEq

/- The variables with which a string is printed. -/
structure StringField where
  strVal : List UInt8
  flags : Flags
  width : Int
  -- not yet bounded by the space that is left
  precision : Int
  deriving DecidableEq

/- What is printed for a directive. -/
inductive Item where
  | char (c : UInt8)
  | integer (field : IntegerField)
  | string (field : StringField)
  | nothing
  deriving DecidableEq

/- The conversion to `size_t`. -/
def sizeT (value : Int) : Nat :=
  (value % 2 ^ 64).toNat

/- The signed argument as its size, with the flag of a sign. -/
def readSigned
    (flags : Flags)
    (ap : VaList) : Outcome (Nat × Flags × VaList) := do
  let (longVal, ap) ←
    if flags.isLongInt then do
      let (value, ap) ← vaLong ap
      pure (value.toInt, ap)
    else do
      let (value, ap) ← vaInt ap
      pure (value.toInt, ap)
  if longVal < 0 then
    return (longVal.natAbs,
      { flags with isNegative := true }, ap)
  else
    return (longVal.natAbs, flags, ap)

/- The argument of an unsigned conversion. -/
def readUnsigned
    (flags : Flags)
    (ap : VaList) : Outcome (Nat × VaList) :=
  if flags.isLongInt then do
    let (value, ap) ← vaLong ap
    return (value.toNat, ap)
  else do
    let (value, ap) ← vaInt ap
    return (value.toNat, ap)

/- The digits of `%d` and `%u`. -/
def decimalDigits : List UInt8 :=
  "0123456789".toList.map chr

/- The digits of `%o`. -/
def octalDigits : List UInt8 :=
  "01234567".toList.map chr

/- The digits of `%x`. -/
def hexDigitsLower : List UInt8 :=
  "0123456789abcdef".toList.map chr

/- The digits of `%X`. -/
def hexDigitsUpper : List UInt8 :=
  "0123456789ABCDEF".toList.map chr

/- The base and the digits of an unsigned conversion. -/
def unsignedFormat
    (formatChar : UInt8) : Option (Nat × List UInt8) :=
  if formatChar = chr 'x' then
    some (16, hexDigitsLower)
  else if formatChar = chr 'X' then
    some (16, hexDigitsUpper)
  else if formatChar = chr 'o' then
    some (8, octalDigits)
  else if formatChar = chr 'u' then
    some (10, decimalDigits)
  else
    none

/- `memchr (str_val, 0, n) != NULL` -/
def hasZero
    (strVal : List UInt8)
    (n : Nat) : Outcome Bool :=
  if 0 ∈ strVal.take n then
    .ok true
  else if n ≤ strVal.length then
    .ok false
  else
    .error .outOfBounds

/- The length of a string as an `int`. -/
def strlenInt (strVal : List UInt8) : Outcome Int := do
  let text ← textAt strVal 0
  return wrapInt text.length

/- The precision by which a string is printed. -/
def stringPrecision
    (strVal : List UInt8)
    (precision : Int) : Outcome Int :=
  if precision = 0 then
    strlenInt strVal
  else do
    if ← hasZero strVal (sizeT precision) then
      strlenInt strVal
    else
      return precision

/- What a null pointer is printed as. -/
def nullString : List UInt8 :=
  "(null)".toList.map chr ++ [0]

/- The arguments that a directive takes. -/
def readArgument
    (d : Directive)
    (ap : VaList) : Outcome (Item × VaList) :=
  if d.formatChar = chr 'i' ∨ d.formatChar = chr 'd' then do
    let (value, flags, ap) ← readSigned d.flags ap
    return (.integer ⟨10, decimalDigits, value, flags,
      d.width, d.precision⟩, ap)
  else
    match unsignedFormat d.formatChar with
    | some (base, digits) => do
        let (value, ap) ← readUnsigned d.flags ap
        return (.integer ⟨base, digits, value, d.flags,
          d.width, d.precision⟩, ap)
    | none =>
        if d.formatChar = chr 'p' then
          .ok (.nothing, ap)
        else if d.formatChar = chr 'c' then do
          let (value, ap) ← readUnsigned d.flags ap
          return (.char (UInt8.ofNat value), ap)
        else if d.formatChar = chr 's' then do
          let (memory, ap) ← vaPointer ap
          let strVal := memory.getD nullString
          let precision ←
            stringPrecision strVal d.precision
          return (.string ⟨strVal, d.flags, d.width,
            precision⟩, ap)
        else
          .error .outOfBounds

end Ssh1

------------------------------------------------------------
-- Integer Conversions
------------------------------------------------------------

namespace Ssh1

/-
  The main conversion loop, which writes in front of the text
  until nothing is left of `free` bytes of `tmp_buf`.
-/
def conversionLoop
    (base : Nat)
    (digits : List UInt8) :
    (free ulongVal : Nat) → Int → List UInt8 → List UInt8
| 0, _, _, text => text
| free + 1, ulongVal, precision, text =>
    let text := digits.getD (ulongVal % base) 0 :: text
    let ulongVal := ulongVal / base
    let precision := wrapInt (precision - 1)
    if ulongVal ≠ 0 ∨ precision > 0 then
      conversionLoop base digits free ulongVal precision text
    else
      text

/- The characters of `prefix`, in the order of their indices. -/
def integerPrefix
    (base : Nat)
    (flags : Flags) : List UInt8 :=
  if flags.isNegative then
    [chr '-']
  else if base = 16 ∧ flags.hash then
    if flags.andUpcase then
      [chr 'x', chr '0']
    else
      [chr 'X', chr '0']
  else if base = 8 ∧ flags.hash then
    [chr '0']
  else if base = 10 ∧ ¬ flags.unsignedDec ∧ flags.plus then
    [chr '+']
  else if base = 10 ∧ ¬ flags.unsignedDec ∧ flags.space then
    [chr ' ']
  else
    []

/- The text in `tmp_buf`, a block of that many bytes. -/
def integerText
    (field : IntegerField)
    (tmpBufLen : Nat) : List UInt8 :=
  let text :=
    conversionLoop field.base field.digits tmpBufLen
      field.ulongVal field.precision []
  let start := integerPrefix field.base field.flags
  (start.take (tmpBufLen - text.length)).reverse ++ text

/- The character that fills up a field. -/
def Flags.padding (flags : Flags) : UInt8 :=
  if flags.zeroPadding then chr '0' else chr ' '

/- `memset`, whose length need not be that of any block. -/
def memset
    (mem : List UInt8)
    (place : Nat)
    (c : UInt8)
    (len : Nat) : Outcome (List UInt8) :=
  if place + len ≤ mem.length then
    .ok (MemoryBlock.patch mem place (List.replicate len c))
  else
    .error .outOfBounds

/-
  Converts an integer at a place of the buffer. It returns
  the characters that are written and the buffer.
-/
def snprintfConvertUlong
    (mem : List UInt8)
    (buffer bufSize : Nat)
    (field : IntegerField) :
    Outcome (Int × List UInt8) :=
  let tmpBufLen := wrapInt (100 + field.width)
  if tmpBufLen < 0 then
    .error (.fatal "xmalloc: out of memory")
  else if tmpBufLen = 0 then
    -- the first digit is written in front of the block
    .error .outOfBounds
  else
    let text := integerText field tmpBufLen.toNat
    let len := text.length
    if len ≤ bufSize then
      if len < field.width then
        let free := tmpBufLen - len
        let width :=
          if field.width > free then free else field.width
        if field.flags.minus then do
          let mem ← writeAt mem buffer text
          let mem ←
            memset mem (buffer + len) field.flags.padding
              (sizeT (width - len))
          return (width, mem)
        else do
          let mem ←
            memset mem buffer field.flags.padding
              (sizeT (width - len))
          let mem ←
            writeAt mem (buffer + (width - len).toNat) text
          return (width, mem)
      else do
        return (len, ← writeAt mem buffer text)
    else do
      return (bufSize,
        ← writeAt mem buffer (text.take bufSize))

end Ssh1

------------------------------------------------------------
-- Printing
------------------------------------------------------------

namespace Ssh1

/- The buffer, where `str` points into it, and what is left. -/
structure Printed where
  mem : List UInt8
  str : Nat
  left : Int

/- `strncpy` from a text that is long enough. -/
def strncpy
    (mem : List UInt8)
    (place : Nat)
    (source : List UInt8)
    (len : Nat) : Outcome (List UInt8) :=
  if place + len ≤ mem.length then
    let shown := (source.take len).takeWhile (· ≠ 0)
    .ok (MemoryBlock.patch mem place
      (shown ++ List.replicate (len - shown.length) 0))
  else
    .error .outOfBounds

/- `%s`, once the precision does not exceed the string. -/
def printString
    (out : Printed)
    (field : StringField) : Outcome Printed := do
  let precision :=
    if field.precision > out.left then
      out.left
    else
      field.precision
  let width :=
    if field.width > out.left then out.left else field.width
  let width := if width < precision then precision else width
  let i := wrapInt (width - precision)
  let mem ←
    if field.flags.minus then do
      let mem ←
        strncpy out.mem out.str field.strVal
          (sizeT precision)
      memset mem (out.str + precision.toNat)
        field.flags.padding (sizeT i)
    else do
      let mem ←
        memset out.mem out.str field.flags.padding (sizeT i)
      strncpy mem (out.str + i.toNat) field.strVal
        (sizeT precision)
  return ⟨mem, out.str + width.toNat, out.left - width⟩

/- `*str++ = c` -/
def putChar
    (out : Printed)
    (c : UInt8) : Outcome Printed := do
  let mem ← writeAt out.mem out.str [c]
  return ⟨mem, out.str + 1, out.left - 1⟩

/- Prints a formatted argument where something is left. -/
def printItem
    (out : Printed) : Item → Outcome Printed
| .char c => putChar out c
| .integer field => do
    let (status, mem) ←
      snprintfConvertUlong out.mem out.str
        (sizeT out.left) field
    return ⟨mem, out.str + status.toNat, out.left - status⟩
| .string field => printString out field
| .nothing => .ok out

/- The return where nothing is left for more of the format. -/
def returnFull
    (size : Nat)
    (out : Printed) : Outcome (Int × List UInt8) := do
  return (wrapInt size, ← writeAt out.mem out.str [0])

/- The loop over the format. -/
def vsnprintfLoop
    (size : Nat) :
    (fuel : Nat) → (format : List UInt8) → VaList →
    Printed → Outcome (Int × List UInt8)
| _, [], _, out => do
    let mem ← writeAt out.mem out.str [0]
    return (wrapInt (size - out.left - 1), mem)
| 0, _ :: _, _, _ => .error .diverges
| fuel + 1, c :: format, ap, out =>
    if c = chr '%' then
      if format.head? = some (chr '%') ∧ 0 < out.left then do
        let out ← putChar out (chr '%')
        vsnprintfLoop size fuel format.tail ap out
      else if out.left ≤ 0 then
        returnFull size out
      else do
        let (directive, ap) ← snprintfGetDirective format ap
        match directive with
        | none => return (0, ← writeAt out.mem out.str [0])
        | some (d, format) => do
            let (item, ap) ← readArgument d ap
            let out ← printItem out item
            vsnprintfLoop size fuel format ap out
    else if 0 < out.left then do
      let out ← putChar out c
      vsnprintfLoop size fuel format ap out
    else
      returnFull size out

/-
  Prints to a buffer of `size` bytes. Every turn of the loop
  consumes some of the format.
-/
def vsnprintf
    (str : List UInt8)
    (size : Nat)
    (format : List UInt8)
    (ap : VaList) : Outcome (Int × List UInt8) :=
  let left := wrapInt (wrapInt size - 1)
  vsnprintfLoop size format.length format ap ⟨str, 0, left⟩

end Ssh1
