import Ssh1.Base.Buffer
import Ssh1.Lib.MemoryBlock

/-
  Packet integers as they pass through memory.

  Both directions go through a hexadecimal text in a block
  from `xmalloc`. The encoder converts the text in place,
  the decoder prints it byte by byte for `mpz_set_str`.

  Main declarations:
    * `InMemory.bufferPutMpInt`
    * `InMemory.bufferGetMpInt`
    * `mpzSetStr`
    * `bufferPutMpInt_roundTrip`
    * `bufferGetMpInt_decodesMessage_iff`
-/

------------------------------------------------------------
-- Hexadecimal Texts
------------------------------------------------------------

namespace Ssh1

/- `isspace` -/
def isspace (c : UInt8) : Bool :=
  c = 32 ∨ (9 ≤ c ∧ c ≤ 13)

/- The digit that a character stands for. -/
def digitValue (c : UInt8) : Option Nat :=
  if 48 ≤ c ∧ c ≤ 57 then some (c.toNat - 48)
  else if 97 ≤ c ∧ c ≤ 122 then some (c.toNat - 97 + 10)
  else if 65 ≤ c ∧ c ≤ 90 then some (c.toNat - 65 + 10)
  else none

/- `digit_value_in_base`, which returns -1 for no digit. -/
def digitValueInBase
    (c : UInt8)
    (base : Nat) : Option Nat :=
  (digitValue c).filter (· < base)

/- The character of a digit, in lower case. -/
def hexDigit (digit : Nat) : UInt8 :=
  UInt8.ofNat (if digit < 10 then 48 + digit else 87 + digit)

/- What `"%02x"` prints for a byte. -/
def printHex02 (byte : UInt8) : List UInt8 :=
  [hexDigit (byte.toNat / 16), hexDigit (byte.toNat % 16)]

/- A digit is read back. -/
theorem digitValueInBase_hexDigit
    {digit : Nat}
    (hDigit : digit < 16) :
    digitValueInBase (hexDigit digit) 16 = some digit := by
  interval_cases digit <;> decide

/- A digit is neither white space nor the end of a text. -/
theorem isspace_hexDigit
    {digit : Nat}
    (hDigit : digit < 16) :
    isspace (hexDigit digit) = false := by
  interval_cases digit <;> decide

theorem hexDigit_ne_zero
    {digit : Nat}
    (hDigit : digit < 16) :
    hexDigit digit ≠ 0 := by
  interval_cases digit <;> decide

theorem hexDigit_ne_minus
    {digit : Nat}
    (hDigit : digit < 16) :
    hexDigit digit ≠ 45 := by
  interval_cases digit <;> decide

end Ssh1

------------------------------------------------------------
-- Memory
------------------------------------------------------------

namespace Ssh1

/- What is found in memory that nobody has written yet. -/
structure Garbage where
  -- the bytes of a block that `xmalloc` returns
  heap : Nat → UInt8
  -- the local variable `byte` of `buffer_put_mp_int`
  byte : Nat

/- `xmalloc` -/
def xmalloc
    (garbage : Garbage)
    (size : Nat) : List UInt8 :=
  (List.range size).map garbage.heap

@[simp] theorem length_xmalloc
    (garbage : Garbage)
    (size : Nat) :
    (xmalloc garbage size).length = size := by
  simp [xmalloc]

/- The text at a place of a block, up to its zero byte. -/
def textAt
    (buf : List UInt8)
    (place : Nat) : Outcome (List UInt8) :=
  MemoryBlock.text Halt.outOfBounds (· = 0) buf place

/- Writes to a block. -/
def writeAt
    (buf : List UInt8)
    (place : Nat)
    (data : List UInt8) : Outcome (List UInt8) :=
  MemoryBlock.store Halt.outOfBounds buf place data

end Ssh1

------------------------------------------------------------
-- Reading Numbers
------------------------------------------------------------

namespace Ssh1

/- The digits of a text without its white space. -/
def setStrDigits
    (base : Nat) : List UInt8 → Option (List Nat)
| [] => some []
| c :: str =>
    if isspace c then
      setStrDigits base str
    else
      match digitValueInBase c base with
      | none => none
      | some dig => (setStrDigits base str).map (dig :: ·)

/- `mpn_set_str` -/
def mpnSetStr
    (digits : List Nat)
    (base : Nat) : Nat :=
  digits.foldl (fun acc dig => base * acc + dig) 0

/-
  The base 0 stands for the base that the first characters
  tell: 8, 10 or 16.
-/
def setStrBase
    (str : List UInt8)
    (base : Nat) : Nat × List UInt8 :=
  if base ≠ 0 then
    (base, str)
  else if str.headD 0 ≠ 48 then
    (10, str)
  else if str.tail.headD 0 = 120 ∨
      str.tail.headD 0 = 88 then
    (16, str.tail.tail)
  else
    (8, str.tail)

/-
  `mpz_set_str`: what it returns, and the integer after it.
  Without digits and with a bad digit it returns -1 and
  leaves the integer alone.
-/
def mpzSetStr
    (x : Int)
    (str : List UInt8)
    (base : Nat) : Int × Int :=
  let str := str.dropWhile isspace
  let negative := str.headD 0 = 45
  let str := if negative then str.tail else str
  match digitValueInBase (str.headD 0)
      (if base = 0 then 10 else base) with
  | none => (-1, x)
  | some _ =>
      let (base, str) := setStrBase str base
      match setStrDigits base str with
      | none => (-1, x)
      | some digits =>
          let value : Int := mpnSetStr digits base
          (0, if negative then -value else value)

theorem setStrDigits_map_hexDigit
    {digits : List Nat}
    (hDigits : ∀ d ∈ digits, d < 16) :
    setStrDigits 16 (digits.map hexDigit) =
      some digits := by
  induction digits with
  | nil => rfl
  | cons d digits ih =>
      have hHead : d < 16 := hDigits d (by simp)
      have hTail :=
        ih fun d' hMem => hDigits d' (by simp [hMem])
      rw [List.map_cons, setStrDigits,
        isspace_hexDigit hHead, if_neg Bool.false_ne_true,
        digitValueInBase_hexDigit hHead, hTail]
      rfl

/- Hexadecimal digits are read as the number they spell. -/
theorem mpzSetStr_map_hexDigit
    {digits : List Nat}
    (hDigits : ∀ d ∈ digits, d < 16)
    (hSome : digits ≠ [])
    (x : Int) :
    mpzSetStr x (digits.map hexDigit) 16 =
      (0, ((mpnSetStr digits 16 : Nat) : Int)) := by
  cases digits with
  | nil => exact absurd rfl hSome
  | cons d digits =>
      have hHead : d < 16 := hDigits d (by simp)
      have hBlank :
          ((d :: digits).map hexDigit).dropWhile isspace =
            (d :: digits).map hexDigit := by
        rw [List.map_cons, List.dropWhile_cons,
          isspace_hexDigit hHead]
        exact if_neg Bool.false_ne_true
      have hSign :
          ¬ ((d :: digits).map hexDigit).headD 0 = 45 :=
        hexDigit_ne_minus hHead
      have hFirst :
          digitValueInBase
              (((d :: digits).map hexDigit).headD 0) 16 =
            some d :=
        digitValueInBase_hexDigit hHead
      have hAll := setStrDigits_map_hexDigit hDigits
      have hSixteen : ¬ (16 : Nat) = 0 := by omega
      simp only [mpzSetStr, hBlank, hSign, if_false,
        hFirst, setStrBase, hSixteen, ne_eq,
        not_false_eq_true, if_true, hAll]

/- Nothing is read from an empty text. -/
theorem mpzSetStr_nil
    (x : Int) :
    mpzSetStr x [] 16 = (-1, x) := by
  rfl

end Ssh1

------------------------------------------------------------
-- Encoder
------------------------------------------------------------

namespace Ssh1

/- `mpz_sizeinbase (value, 16)`, exact for powers of two. -/
def mpzSizeinbase16 (value : Nat) : Nat :=
  if value = 0 then 1 else (mpzSizeinbase2 value + 3) / 4

/- The leading hexadecimal digits of a text. -/
def leadingHexDigits : List UInt8 → List Nat
| [] => []
| c :: text =>
    match digitValueInBase c 16 with
    | some digit => digit :: leadingHexDigits text
    | none => []

/-
  `sscanf` of at most `width` hexadecimal digits. The texts
  here hold no white space, no sign and no `0x`. Without a
  digit the variable keeps its value.
-/
def sscanfHex
    (width : Nat)
    (buf : List UInt8)
    (place : Nat)
    (byte : Nat) : Outcome Nat := do
  let text ← textAt buf place
  match leadingHexDigits (text.take width) with
  | [] => return byte
  | digits => return mpnSetStr digits 16

/- The variables of `buffer_put_mp_int`. -/
structure Conversion where
  -- the input index
  i : Nat
  -- the output index
  oi : Nat
  byte : Nat
  -- the digits, and then the bytes
  buf : List UInt8

/- Converts the next digit or pair of digits to a byte. -/
def convertDigits
    (width : Nat)
    (s : Conversion) : Outcome Conversion := do
  let byte ← sscanfHex width s.buf s.i s.byte
  let buf ← writeAt s.buf s.oi [UInt8.ofNat byte]
  return {
    i := s.i + width
    oi := s.oi + 1
    byte := byte
    buf := buf }

/- An odd digit is processed separately. -/
def convertOddDigit
    (hexSize : Nat)
    (s : Conversion) : Outcome Conversion :=
  if hexSize % 2 = 1 then
    convertDigits 1 s
  else
    .ok s

/- Converts the hex number into binary representation. -/
def convertLoop
    (hexSize : Nat) :
    (fuel : Nat) → (s : Conversion) → Outcome Conversion
| 0, _ => .error .diverges
| fuel + 1, s =>
    if s.i < hexSize then do
      let s ← convertDigits 2 s
      convertLoop hexSize fuel s
    else
      .ok s

/- The block with the digits in it. -/
def printDigits
    (garbage : Garbage)
    (value : Nat) : Outcome Conversion := do
  let buf := xmalloc garbage (mpzSizeinbase16 value + 2)
  let buf ←
    writeAt buf 0 ((mpzGetStr16 value).map hexDigit ++ [0])
  return { i := 0, oi := 0, byte := garbage.byte, buf := buf }

namespace InMemory

/- `buffer_put_mp_int` -/
def bufferPutMpInt
    (garbage : Garbage)
    (buffer : Buffer)
    (value : Nat) : Outcome Buffer := do
  let bits := mpzSizeinbase2 value
  let hexSize := mpzSizeinbase16 value
  let s ← printDigits garbage value
  let s ← convertOddDigit hexSize s
  let s ← convertLoop hexSize (hexSize + 1) s
  assert (s.oi = (bits + 7) / 8)
  let data ←
    MemoryBlock.load Halt.outOfBounds s.buf 0 s.oi
  let _ ← writeAt s.buf 0 (List.replicate hexSize 0)
  return bufferAppend
    (bufferAppend buffer (put16Bit bits)) data

end InMemory

/-
  The states at the head of the conversion loop, from the
  one it is entered with.
-/
inductive ConversionReaches
    (hexSize : Nat)
    (first : Conversion) : Conversion → Prop where
  | enter : ConversionReaches hexSize first first
  | turn
      {s s' : Conversion} :
      ConversionReaches hexSize first s →
      s.i < hexSize →
      convertDigits 2 s = .ok s' →
      ConversionReaches hexSize first s'

end Ssh1

------------------------------------------------------------
-- Decoder
------------------------------------------------------------

namespace Ssh1

/- Reads and converts the binary bytes into a hex string. -/
def readHexString :
    (left i : Nat) → (hex : List UInt8) → (buffer : Buffer) →
      Outcome (List UInt8 × Buffer)
| 0, _, hex, buffer => .ok (hex, buffer)
| left + 1, i, hex, buffer => do
    let (byte, buffer) ← bufferGet buffer 1
    let hex ←
      writeAt hex (2 * i) (printHex02 (byte.headD 0) ++ [0])
    readHexString left (i + 1) hex buffer

namespace InMemory

/- `buffer_get_mp_int`, with the value the integer had -/
def bufferGetMpInt
    (garbage : Garbage)
    (buffer : Buffer)
    (value : Int) : Outcome (Int × Buffer) := do
  let (buf, buffer) ← bufferGet buffer 2
  let bytes := (get16Bit buf + 7) / 8
  let hex := xmalloc garbage (2 * bytes + 1)
  let (hex, buffer) ← readHexString bytes 0 hex buffer
  -- `mpz_set_str` and `strlen` read up to the zero byte
  let str ← textAt hex 0
  return ((mpzSetStr value str 16).2, buffer)

end InMemory

end Ssh1

------------------------------------------------------------
-- Conversion in Place
------------------------------------------------------------

namespace Ssh1

theorem leadingHexDigits_map_hexDigit
    {digits : List Nat}
    (hDigits : ∀ d ∈ digits, d < 16) :
    leadingHexDigits (digits.map hexDigit) = digits := by
  induction digits with
  | nil => rfl
  | cons d digits ih =>
      have hHead : d < 16 := hDigits d (by simp)
      rw [List.map_cons, leadingHexDigits,
        digitValueInBase_hexDigit hHead]
      simp only
      rw [ih fun d' hMem => hDigits d' (by simp [hMem])]

/-
  The digits `left` are still to be read, and the bytes
  `done` have been written behind the input index.
-/
structure Converting
    (left : List Nat)
    (done : List UInt8)
    (s : Conversion) : Prop where
  digits : ∀ d ∈ left, d < 16
  behind : s.oi ≤ s.i
  toRead : ∃ tail,
    s.buf.drop s.i = left.map hexDigit ++ 0 :: tail
  written : s.buf.take s.oi = done
  count : done.length = s.oi

namespace Converting

variable {left : List Nat}
variable {done : List UInt8}
variable {s : Conversion}

theorem length_buf
    (hConverting : Converting left done s) :
    s.i + left.length < s.buf.length := by
  rcases hConverting.toRead with
    ⟨tail, hDrop⟩
  have hLength := congrArg List.length hDrop
  simp only [List.length_drop, List.length_append,
    List.length_map, List.length_cons] at hLength
  omega

/- The next digits are scanned where they were printed. -/
theorem sscanfHex_eq
    {digits rest : List Nat}
    (hConverting : Converting (digits ++ rest) done s)
    (hSome : digits ≠ []) :
    sscanfHex digits.length s.buf s.i s.byte =
      .ok (mpnSetStr digits 16) := by
  rcases hConverting.toRead with
    ⟨tail, hDrop⟩
  have hText :
      textAt s.buf s.i =
        .ok ((digits ++ rest).map hexDigit) := by
    apply MemoryBlock.text_of_drop_eq hDrop
    · simp
    · intro c hMem
      rcases List.mem_map.mp hMem with
        ⟨d, hd, rfl⟩
      simp [hexDigit_ne_zero (hConverting.digits d hd)]
  have hTake :
      ((digits ++ rest).map hexDigit).take digits.length =
        digits.map hexDigit := by
    rw [List.map_append]
    exact List.take_left' (by simp)
  have hDigits : ∀ d ∈ digits, d < 16 :=
    fun d hd => hConverting.digits d (by simp [hd])
  rw [sscanfHex, hText]
  simp only [FallibleRun.ok_bind, hTake,
    leadingHexDigits_map_hexDigit hDigits]
  cases digits with
  | nil => exact absurd rfl hSome
  | cons d digits => rfl

/-
  One conversion: the byte lands behind the digits that are
  still to be read.
-/
theorem convertDigits_eq
    (digits : List Nat)
    {rest : List Nat}
    (hConverting : Converting (digits ++ rest) done s)
    (hSome : digits ≠ []) :
    ∃ s',
      convertDigits digits.length s = .ok s' ∧
        s'.i = s.i + digits.length ∧
        s'.buf.drop s'.i = s.buf.drop s'.i ∧
        Converting rest
          (done ++ [UInt8.ofNat (mpnSetStr digits 16)])
          s' := by
  have hPos := List.length_pos_of_ne_nil hSome
  have hBehind := hConverting.behind
  have hRoom := hConverting.length_buf
  rw [List.length_append] at hRoom
  rcases hConverting.toRead with
    ⟨tail, hDrop⟩
  generalize hByte :
    UInt8.ofNat (mpnSetStr digits 16) = byte
  have hFits :
      s.oi + [byte].length ≤ s.buf.length := by
    rw [List.length_singleton]
    omega
  have hAhead :
      (MemoryBlock.patch s.buf s.oi [byte]).drop
          (s.i + digits.length) =
        s.buf.drop (s.i + digits.length) := by
    apply MemoryBlock.drop_patch hFits
    rw [List.length_singleton]
    omega
  refine ⟨{
      i := s.i + digits.length
      oi := s.oi + 1
      byte := mpnSetStr digits 16
      buf := MemoryBlock.patch s.buf s.oi [byte] },
    ?_, rfl, hAhead, ?_⟩
  · rw [convertDigits, hConverting.sscanfHex_eq hSome]
    simp only [FallibleRun.ok_bind, hByte, writeAt,
      MemoryBlock.store_of_le hFits, FallibleRun.pure_eq_ok]
  · refine ⟨?_, ?_, ⟨tail, ?_⟩, ?_, ?_⟩
    · exact fun d hd => hConverting.digits d (by simp [hd])
    · simp only
      omega
    · simp only
      rw [hAhead, ← List.drop_drop, hDrop, List.map_append,
        List.append_assoc]
      exact List.drop_left' (by simp)
    · have hTake := MemoryBlock.take_patch hFits
      rw [List.length_singleton] at hTake
      rw [hTake, hConverting.written]
    · rw [List.length_append, List.length_singleton,
        hConverting.count]

end Converting

/- The loop packs the digits that are left. -/
theorem convertLoop_eq
    {left : List Nat}
    {done : List UInt8}
    {s : Conversion}
    (fuel : Nat)
    (hConverting : Converting left done s)
    (hEven : left.length % 2 = 0)
    (hFuel : left.length < fuel) :
    ∃ s',
      convertLoop (s.i + left.length) fuel s = .ok s' ∧
        s'.i = s.i + left.length ∧
        Converting [] (done ++ packHexDigits left) s' := by
  induction left using packHexDigits.induct
    generalizing done s fuel with
  | case1 high low rest ih =>
      rw [List.length_cons, List.length_cons] at hEven hFuel
      rcases hConverting.convertDigits_eq
          [high, low] (List.cons_ne_nil _ _) with
        ⟨s₁, hConvert, hIndex, -, hNext⟩
      rcases fuel with
        - | fuel
      · omega
      rcases ih fuel hNext (by omega) (by omega) with
        ⟨s', hLoop, hLast, hDone⟩
      have hEnd :
          s₁.i + rest.length =
            s.i + (high :: low :: rest).length := by
        rw [hIndex]
        simp only [List.length_cons, List.length_nil]
        omega
      refine ⟨s', ?_, hLast.trans hEnd, ?_⟩
      · have hMore :
            s.i < s.i + (high :: low :: rest).length := by
          simp
        rw [convertLoop, if_pos hMore]
        change convertDigits 2 s = _ at hConvert
        rw [hConvert, FallibleRun.ok_bind, ← hEnd]
        exact hLoop
      · have hPair :
            mpnSetStr [high, low] 16 = 16 * high + low := by
          simp [mpnSetStr]
        rw [hPair] at hDone
        rw [packHexDigits]
        simpa using hDone
  | case2 left hShort =>
      rcases left with
        - | ⟨d, - | ⟨low, rest⟩⟩
      · rcases fuel with
          - | fuel
        · simp at hFuel
        · refine ⟨s, ?_, rfl, ?_⟩
          · simp [convertLoop]
          · simpa [packHexDigits] using hConverting
      · simp at hEven
      · exact (hShort d low rest rfl).elim

end Ssh1

------------------------------------------------------------
-- What the Encoder Stores
------------------------------------------------------------

namespace Ssh1

theorem length_mpzGetStr16_eq
    (value : Nat) :
    (mpzGetStr16 value).length = mpzSizeinbase16 value := by
  by_cases hZero : value = 0
  · simp [mpzGetStr16, mpzSizeinbase16, hZero]
  · have hBounds := mpzSizeinbase2_bounds hZero
    have hPos := mpzSizeinbase2_pos value
    rw [mpzSizeinbase16, if_neg hZero]
    omega

/- The digits fit into the block, with their zero byte. -/
theorem printDigits_eq
    (garbage : Garbage)
    (value : Nat) :
    ∃ s,
      printDigits garbage value = .ok s ∧
        s.i = 0 ∧
        Converting (mpzGetStr16 value) [] s := by
  have hFits :
      0 + ((mpzGetStr16 value).map hexDigit ++ [0]).length ≤
        (xmalloc garbage
          (mpzSizeinbase16 value + 2)).length := by
    simp [length_mpzGetStr16_eq]
  have hTake := MemoryBlock.take_patch hFits
  have hStore :
      writeAt (xmalloc garbage (mpzSizeinbase16 value + 2)) 0
          ((mpzGetStr16 value).map hexDigit ++ [0]) =
        .ok (MemoryBlock.patch _ 0 _) :=
    MemoryBlock.store_of_le hFits
  generalize MemoryBlock.patch _ 0 _ = buf at hTake hStore
  refine ⟨{
      i := 0
      oi := 0
      byte := garbage.byte
      buf := buf }, ?_, rfl, ?_⟩
  · rw [printDigits, hStore]
    rfl
  · refine ⟨?_, le_refl 0, ?_, List.take_zero, rfl⟩
    · exact fun d hd => lt_of_mem_mpzGetStr16 hd
    · rw [List.take_zero, List.nil_append] at hTake
      refine ⟨buf.drop
        (0 + ((mpzGetStr16 value).map hexDigit ++
          [0]).length), ?_⟩
      have hSplit := List.take_append_drop
        (0 + ((mpzGetStr16 value).map hexDigit ++
          [0]).length) buf
      rw [hTake, List.append_assoc] at hSplit
      exact hSplit.symm

/- An odd digit is packed into a byte of its own. -/
theorem convertOddDigit_eq
    {digits : List Nat}
    {s : Conversion}
    (hConverting : Converting digits [] s)
    (hStart : s.i = 0) :
    ∃ s' left done,
      convertOddDigit digits.length s = .ok s' ∧
        s'.i + left.length = digits.length ∧
        left.length % 2 = 0 ∧
        s'.buf.drop s'.i = s.buf.drop s'.i ∧
        Converting left done s' ∧
        done ++ packHexDigits left = hexToBinary digits := by
  by_cases hOdd : digits.length % 2 = 1
  · cases digits with
    | nil => simp at hOdd
    | cons d left =>
        rcases Converting.convertDigits_eq
            [d] hConverting (List.cons_ne_nil _ _) with
          ⟨s', hConvert, hIndex, hAhead, hNext⟩
        refine ⟨s', left, _, ?_, ?_, ?_, hAhead, hNext, ?_⟩
        · rw [convertOddDigit, if_pos hOdd]
          exact hConvert
        · rw [hIndex, hStart, List.length_cons]
          simp only [List.length_cons, List.length_nil]
          omega
        · rw [List.length_cons] at hOdd
          omega
        · rw [hexToBinary, if_pos hOdd]
          simp [mpnSetStr]
  · refine ⟨s, digits, [], ?_, ?_, ?_, rfl, hConverting, ?_⟩
    · rw [convertOddDigit, if_neg hOdd]
    · omega
    · omega
    · rw [hexToBinary, if_neg hOdd, List.nil_append]

/-
  The encoder in memory stores the bytes of the integer: no
  access leaves the block, and the assertion holds.
-/
theorem InMemory.bufferPutMpInt_eq
    (garbage : Garbage)
    (buffer : Buffer)
    (value : Nat) :
    bufferPutMpInt garbage buffer value =
      .ok (buffer ++ mpIntBytes value) := by
  rcases printDigits_eq garbage value with
    ⟨s, hPrint, hStart, hPrinted⟩
  rcases convertOddDigit_eq hPrinted hStart with
    ⟨first, left, done, hOdd, hEnd, hEven, -, hFirst,
      hPacked⟩
  rw [length_mpzGetStr16_eq] at hOdd hEnd
  rcases convertLoop_eq (mpzSizeinbase16 value + 1)
      hFirst hEven (by omega) with
    ⟨last, hLoop, hLast, hDone⟩
  rw [hEnd] at hLoop hLast
  rw [hPacked] at hDone
  have hCount : last.oi = (mpzSizeinbase2 value + 7) / 8 := by
    rw [← hDone.count, length_hexToBinary_mpzGetStr16]
  have hRoom := hDone.length_buf
  rw [hLast, List.length_nil, Nat.add_zero] at hRoom
  have hData :
      MemoryBlock.load Halt.outOfBounds last.buf 0 last.oi =
        .ok (hexToBinary (mpzGetStr16 value)) := by
    have hBehind := hDone.behind
    rw [hLast] at hBehind
    rw [MemoryBlock.load_of_le (by omega), List.drop_zero,
      hDone.written]
  have hClear :
      writeAt last.buf 0
          (List.replicate (mpzSizeinbase16 value) 0) =
        .ok (MemoryBlock.patch last.buf 0
          (List.replicate (mpzSizeinbase16 value) 0)) := by
    apply MemoryBlock.store_of_le
    rw [List.length_replicate]
    omega
  simp only [bufferPutMpInt, hPrint, hOdd, hLoop, hData,
    hClear, FallibleRun.ok_bind, FallibleRun.pure_eq_ok,
    assert_of_true hCount, bufferAppend, mpIntBytes,
    List.append_assoc]

end Ssh1

------------------------------------------------------------
-- What the Decoder Reads
------------------------------------------------------------

namespace Ssh1

/- The hex digits of some bytes. -/
def byteDigits (bytes : List UInt8) : List Nat :=
  bytes.flatMap fun b => [b.toNat / 16, b.toNat % 16]

theorem lt_of_mem_byteDigits
    {bytes : List UInt8}
    {d : Nat}
    (hDigit : d ∈ byteDigits bytes) :
    d < 16 := by
  rcases List.mem_flatMap.mp hDigit with
    ⟨b, -, hMem⟩
  have hByte : b.toNat < 256 := b.toNat_lt
  simp only [List.mem_cons, List.not_mem_nil,
    or_false] at hMem
  omega

theorem length_byteDigits
    (bytes : List UInt8) :
    (byteDigits bytes).length = 2 * bytes.length := by
  induction bytes with
  | nil => rfl
  | cons b bytes ih =>
      have hCons :
          byteDigits (b :: bytes) =
            b.toNat / 16 :: b.toNat % 16 ::
              byteDigits bytes := rfl
      rw [hCons]
      simp only [List.length_cons, ih]
      omega

/- The digits spell the number that the bytes spell. -/
theorem mpnSetStr_byteDigits
    (bytes : List UInt8) :
    mpnSetStr (byteDigits bytes) 16 =
      BigEndian.ofBytes bytes := by
  unfold mpnSetStr BigEndian.ofBytes byteDigits
  rw [List.foldl_flatMap]
  congr 1
  funext acc b
  simp only [List.foldl_cons, List.foldl_nil]
  omega

/-
  With enough bytes left the loop prints them behind what it
  has printed so far. Each byte closes the text behind it,
  so only a text without any byte may stay open.
-/
theorem readHexString_eq
    {bytes : List UInt8}
    (rest : List UInt8)
    {hex text : List UInt8}
    {i : Nat}
    (hText : hex.take (2 * i) = text)
    (hLength : text.length = 2 * i)
    (hRoom : 2 * (i + bytes.length) < hex.length)
    (hClosed : bytes = [] → ∃ tail, hex = text ++ 0 :: tail) :
    ∃ hex' tail,
      readHexString bytes.length i hex (bytes ++ rest) =
          .ok (hex', rest) ∧
        hex' =
          text ++ (byteDigits bytes).map hexDigit ++
            0 :: tail := by
  induction bytes generalizing i hex text with
  | nil =>
      rcases hClosed rfl with
        ⟨tail, hHex⟩
      refine ⟨hex, tail, rfl, ?_⟩
      simpa [byteDigits] using hHex
  | cons b bytes ih =>
      rw [List.length_cons] at hRoom
      have hWidth : (printHex02 b ++ [0]).length = 3 := rfl
      have hFits :
          2 * i + (printHex02 b ++ [0]).length ≤
            hex.length := by
        omega
      have hPatched := MemoryBlock.take_patch hFits
      have hKept := MemoryBlock.length_patch hFits
      have hStore :
          writeAt hex (2 * i) (printHex02 b ++ [0]) =
            .ok (MemoryBlock.patch hex (2 * i) _) :=
        MemoryBlock.store_of_le hFits
      generalize
        MemoryBlock.patch hex (2 * i) _ = hex₁
        at hPatched hKept hStore
      rw [hWidth, hText] at hPatched
      have hPrinted :
          hex₁ =
            (text ++ printHex02 b) ++
              0 :: hex₁.drop (2 * i + 3) := by
        have hSplit := List.take_append_drop (2 * i + 3) hex₁
        rw [hPatched] at hSplit
        simpa using hSplit.symm
      have hNextLength :
          (text ++ printHex02 b).length = 2 * (i + 1) := by
        rw [List.length_append, hLength]
        rfl
      have hNextText :
          hex₁.take (2 * (i + 1)) = text ++ printHex02 b := by
        rw [hPrinted, ← hNextLength, List.take_left]
      rcases ih hNextText hNextLength (by omega)
          (fun _ => ⟨_, hPrinted⟩) with
        ⟨hex', tail, hRun, hHex'⟩
      refine ⟨hex', tail, ?_, ?_⟩
      · have hGet := bufferGet_append [b] (bytes ++ rest)
        rw [List.length_singleton,
          List.singleton_append] at hGet
        rw [List.length_cons, readHexString,
          List.cons_append, hGet]
        simp only [FallibleRun.ok_bind, List.headD_cons,
          hStore]
        exact hRun
      · rw [hHex']
        simp [byteDigits, printHex02]

/- A buffer that is too short ends the process. -/
theorem readHexString_short
    {left i : Nat}
    {hex : List UInt8}
    {buffer : Buffer}
    (hShort : buffer.length < left)
    (hRoom : 2 * (i + left) < hex.length) :
    readHexString left i hex buffer =
      .error bufferUnderrun := by
  induction buffer generalizing left i hex with
  | nil =>
      rcases left with
        - | left
      · simp at hShort
      · rfl
  | cons b buffer ih =>
      rcases left with
        - | left
      · simp at hShort
      · have hFits :
            2 * i + (printHex02 b ++ [0]).length ≤
              hex.length := by
          have hWidth : (printHex02 b ++ [0]).length = 3 :=
            rfl
          omega
        have hGet := bufferGet_append [b] buffer
        rw [List.length_singleton,
          List.singleton_append] at hGet
        rw [readHexString, hGet]
        simp only [FallibleRun.ok_bind, List.headD_cons,
          writeAt, MemoryBlock.store_of_le hFits]
        apply ih
        · simpa using hShort
        · rw [MemoryBlock.length_patch hFits]
          omega

theorem get16Bit_take
    (buffer : Buffer) :
    get16Bit (buffer.take 2) = get16Bit buffer := by
  rw [get16Bit, List.take_take, Nat.min_self, get16Bit]

/-
  Where the message announces at least one byte, the decoder
  in memory computes what the message says.
-/
theorem InMemory.bufferGetMpInt_eq
    (garbage : Garbage)
    (buffer : Buffer)
    (value : Int)
    (hCount : buffer.length < 2 ∨ get16Bit buffer ≠ 0) :
    bufferGetMpInt garbage buffer value =
      (Ssh1.bufferGetMpInt buffer).map
        fun result => (Int.ofNat result.1, result.2) := by
  by_cases hHead : buffer.length < 2
  · have hUnderrun :
        bufferGet buffer 2 = .error bufferUnderrun :=
      if_pos hHead
    rw [bufferGetMpInt, Ssh1.bufferGetMpInt, hUnderrun]
    rfl
  · have hCount' : get16Bit buffer ≠ 0 :=
      hCount.resolve_left hHead
    have hGet :=
      bufferGet_of_le (Nat.not_lt.mp hHead)
    rw [bufferGetMpInt, Ssh1.bufferGetMpInt, hGet]
    simp only [FallibleRun.ok_bind, get16Bit_take]
    generalize hBytes : (get16Bit buffer + 7) / 8 = bytes
    have hPos : 0 < bytes := by
      omega
    generalize buffer.drop 2 = rest
    by_cases hShort : rest.length < bytes
    · have hUnderrun :
          bufferGet rest bytes = .error bufferUnderrun :=
        if_pos hShort
      rw [hUnderrun, readHexString_short hShort (by simp)]
      rfl
    · have hLength : (rest.take bytes).length = bytes := by
        rw [List.length_take]
        omega
      have hSome : rest.take bytes ≠ [] := by
        intro hNil
        rw [hNil] at hLength
        simp only [List.length_nil] at hLength
        omega
      have hRoom :
          2 * (0 + (rest.take bytes).length) <
            (xmalloc garbage (2 * bytes + 1)).length := by
        rw [hLength, length_xmalloc]
        omega
      rcases readHexString_eq (rest.drop bytes)
          List.take_zero rfl hRoom
          (fun hNil => absurd hNil hSome) with
        ⟨hex, tail, hRead, hHex⟩
      rw [hLength, List.take_append_drop] at hRead
      have hDigits :
          ∀ d ∈ byteDigits (rest.take bytes), d < 16 :=
        fun d hd => lt_of_mem_byteDigits hd
      have hText :
          textAt hex 0 =
            .ok ((byteDigits (rest.take bytes)).map
              hexDigit) := by
        apply MemoryBlock.text_of_drop_eq
        · rw [List.drop_zero]
          simpa using hHex
        · simp
        · intro c hMem
          rcases List.mem_map.mp hMem with
            ⟨d, hd, rfl⟩
          simp [hexDigit_ne_zero (hDigits d hd)]
      have hNotNil : byteDigits (rest.take bytes) ≠ [] := by
        intro hNil
        have hCountDigits :=
          length_byteDigits (rest.take bytes)
        rw [hNil, hLength, List.length_nil] at hCountDigits
        omega
      rw [hRead, bufferGet_of_le (Nat.not_lt.mp hShort)]
      simp only [FallibleRun.ok_bind, hText,
        mpzSetStr_map_hexDigit hDigits hNotNil,
        mpnSetStr_byteDigits, if_neg hPos.ne']
      rfl

end Ssh1

------------------------------------------------------------
-- Main Results
------------------------------------------------------------

namespace Ssh1

/- The number of bytes that the bit count announces. -/
def announcedBytes (buffer : Buffer) : Nat :=
  (get16Bit buffer + 7) / 8

/-
  Whatever the memory and the integer held before, the
  decoder returns the number whose bytes follow the count,
  and leaves what follows them, or finds too few bytes.
-/
def DecodesMessage (buffer : Buffer) : Prop :=
  ∀ garbage value,
    InMemory.bufferGetMpInt garbage buffer value =
      if buffer.length < 2 + announcedBytes buffer then
        .error bufferUnderrun
      else
        .ok
          (BigEndian.ofBytes
            ((buffer.drop 2).take (announcedBytes buffer)),
          buffer.drop (2 + announcedBytes buffer))

/- What the message says, where its count is not zero. -/
theorem bufferGetMpInt_eq_ite
    (buffer : Buffer)
    (hCount : buffer.length < 2 ∨ get16Bit buffer ≠ 0) :
    bufferGetMpInt buffer =
      if buffer.length < 2 + announcedBytes buffer then
        .error bufferUnderrun
      else
        .ok
          (BigEndian.ofBytes
            ((buffer.drop 2).take (announcedBytes buffer)),
          buffer.drop (2 + announcedBytes buffer)) := by
  unfold announcedBytes
  by_cases hHead : buffer.length < 2
  · have hUnderrun :
        bufferGet buffer 2 = .error bufferUnderrun :=
      if_pos hHead
    rw [bufferGetMpInt, hUnderrun, if_pos (by omega)]
    rfl
  · have hCount' : get16Bit buffer ≠ 0 :=
      hCount.resolve_left hHead
    rw [bufferGetMpInt,
      bufferGet_of_le (Nat.not_lt.mp hHead)]
    simp only [FallibleRun.ok_bind, get16Bit_take]
    generalize hBytes : (get16Bit buffer + 7) / 8 = bytes
    have hSome : bytes ≠ 0 := by
      omega
    by_cases hShort : (buffer.drop 2).length < bytes
    · have hUnderrun :
          bufferGet (buffer.drop 2) bytes =
            .error bufferUnderrun :=
        if_pos hShort
      rw [List.length_drop] at hShort
      rw [hUnderrun, if_pos (by omega)]
      rfl
    · rw [bufferGet_of_le (Nat.not_lt.mp hShort)]
      rw [List.length_drop] at hShort
      rw [if_neg (by omega), List.drop_drop]
      simp only [FallibleRun.ok_bind, if_neg hSome,
        FallibleRun.pure_eq_ok]

/-
  Without bytes nothing is printed: with a zero byte in the
  fresh memory the integer keeps its value.
-/
theorem InMemory.bufferGetMpInt_of_noBits
    {garbage : Garbage}
    {buffer : Buffer}
    (hHead : 2 ≤ buffer.length)
    (hNone : get16Bit buffer = 0)
    (hZero : garbage.heap 0 = 0)
    (value : Int) :
    bufferGetMpInt garbage buffer value =
      .ok (value, buffer.drop 2) := by
  have hTake : get16Bit (buffer.take 2) = 0 :=
    (get16Bit_take buffer).trans hNone
  have hText : textAt (xmalloc garbage 1) 0 = .ok [] := by
    have hDrop :
        (xmalloc garbage 1).drop 0 = [] ++ 0 :: [] := by
      show [garbage.heap 0] = _
      rw [hZero]
      rfl
    exact MemoryBlock.text_of_drop_eq hDrop (by simp)
      (by simp)
  rw [bufferGetMpInt, bufferGet_of_le hHead]
  simp only [FallibleRun.ok_bind, hTake]
  show (textAt (xmalloc garbage 1) 0 >>= _) = _
  rw [hText, FallibleRun.ok_bind, mpzSetStr_nil]
  rfl

/-
  The message alone decides what is decoded, exactly where
  its count is not zero.
-/
theorem bufferGetMpInt_decodesMessage_iff
    (buffer : Buffer) :
    DecodesMessage buffer ↔
      ¬ (2 ≤ buffer.length ∧ get16Bit buffer = 0) := by
  constructor
  · rintro hDecodes ⟨hHead, hNone⟩
    have hOld :=
      hDecodes { heap := fun _ => 0, byte := 0 } 1
    have hNoBytes : announcedBytes buffer = 0 := by
      simp [announcedBytes, hNone]
    rw [InMemory.bufferGetMpInt_of_noBits hHead hNone rfl,
      hNoBytes, if_neg (by omega)] at hOld
    simp at hOld
  · intro hCount garbage value
    rw [InMemory.bufferGetMpInt_eq garbage buffer value
      (by omega), bufferGetMpInt_eq_ite buffer (by omega)]
    by_cases hShort :
        buffer.length < 2 + announcedBytes buffer
    · rw [if_pos hShort, if_pos hShort]
      rfl
    · rw [if_neg hShort, if_neg hShort]
      rfl

/- A count of zero bits leaves the integer as it was. -/
theorem bufferGetMpInt_not_decodesMessage :
    InMemory.bufferGetMpInt
        { heap := fun _ => 0, byte := 0 } [0, 0] 5 =
      .ok (5, []) ∧
    ¬ DecodesMessage [0, 0] := by
  constructor
  · exact InMemory.bufferGetMpInt_of_noBits (by simp)
      rfl rfl 5
  · intro hDecodes
    have hOld :=
      hDecodes { heap := fun _ => 0, byte := 0 } 5
    have hNoBytes : announcedBytes [0, 0] = 0 := rfl
    rw [InMemory.bufferGetMpInt_of_noBits (by simp) rfl rfl,
      hNoBytes] at hOld
    simp at hOld

/-
  The states of the loop have not touched any digit that is
  still to be read.
-/
theorem ConversionReaches.toRead
    {printed first s : Conversion}
    {hexSize : Nat}
    {left : List Nat}
    {done : List UInt8}
    (hReaches : ConversionReaches hexSize first s)
    (hFirst : Converting left done first)
    (hEnd : first.i + left.length = hexSize)
    (hEven : left.length % 2 = 0)
    (hPrinted :
      first.buf.drop first.i = printed.buf.drop first.i) :
    ∃ left' done',
      Converting left' done' s ∧
        s.i + left'.length = hexSize ∧
        left'.length % 2 = 0 ∧
        s.buf.drop s.i = printed.buf.drop s.i := by
  induction hReaches with
  | enter => exact ⟨left, done, hFirst, hEnd, hEven, hPrinted⟩
  | turn hBefore hMore hConvert ih =>
      rcases ih with
        ⟨left', done', hConverting, hEnd', hEven', hDrop⟩
      match left', hConverting, hEnd', hEven' with
      | [], _, hEnd', _ =>
          rw [List.length_nil] at hEnd'
          omega
      | [d], _, _, hEven' => simp at hEven'
      | high :: low :: rest, hConverting, hEnd', hEven' =>
          rcases hConverting.convertDigits_eq
              [high, low] (List.cons_ne_nil _ _) with
            ⟨s', hConvert', hIndex, hAhead, hNext⟩
          have hSame := hConvert.symm.trans hConvert'
          cases hSame
          simp only [List.length_cons,
            List.length_nil] at hIndex hEnd' hEven'
          refine ⟨rest, _, hNext, by omega, by omega, ?_⟩
          rw [hAhead, hIndex, ← List.drop_drop, hDrop,
            List.drop_drop]

/- The bit count stands in front of the integer. -/
theorem get16Bit_mpIntBytes_append
    {value : Nat}
    (hBits : mpzSizeinbase2 value < 65536)
    (rest : List UInt8) :
    get16Bit (mpIntBytes value ++ rest) =
      mpzSizeinbase2 value := by
  have hWidth :
      (put16Bit (mpzSizeinbase2 value)).length = 2 :=
    BigEndian.length_toBytes 2 _
  rw [get16Bit, mpIntBytes, List.append_assoc,
    List.take_left' hWidth]
  exact BigEndian.ofBytes_toBytes_of_lt hBits

/-
  A stored integer is read back from behind what the buffer
  held, and what is appended stays. The encoder converts
  each digit before a byte overwrites it, and stores as many
  bytes as it announces.
-/
theorem bufferPutMpInt_roundTrip
    (garbage garbage' : Garbage)
    (before after : Buffer)
    (value : Nat)
    (hBits : mpzSizeinbase2 value < 65536)
    (old : Int) :
    (∃ stored rest,
      InMemory.bufferPutMpInt garbage before value =
          .ok stored ∧
        bufferGet (bufferAppend stored after)
            before.length = .ok (before, rest) ∧
        InMemory.bufferGetMpInt garbage' rest old =
          .ok (value, after)) ∧
      ∃ printed first last,
        printDigits garbage value = .ok printed ∧
          convertOddDigit (mpzSizeinbase16 value) printed =
            .ok first ∧
          convertLoop (mpzSizeinbase16 value)
              (mpzSizeinbase16 value + 1) first =
            .ok last ∧
          last.oi = (mpzSizeinbase2 value + 7) / 8 ∧
          ∀ s,
            ConversionReaches (mpzSizeinbase16 value)
                first s →
              s.oi ≤ s.i ∧
                s.buf.drop s.i = printed.buf.drop s.i := by
  constructor
  · refine ⟨before ++ mpIntBytes value,
      mpIntBytes value ++ after,
      InMemory.bufferPutMpInt_eq garbage before value,
      ?_, ?_⟩
    · rw [bufferAppend, List.append_assoc]
      exact bufferGet_append before _
    · have hRead :=
        bufferGetMpInt_mpIntBytes_append hBits after
      have hCount :=
        get16Bit_mpIntBytes_append hBits after
      have hPos := mpzSizeinbase2_pos value
      rw [InMemory.bufferGetMpInt_eq garbage' _ old
        (Or.inr (by omega)), hRead]
      rfl
  · rcases printDigits_eq garbage value with
      ⟨printed, hPrint, hStart, hPrinted⟩
    rcases convertOddDigit_eq hPrinted hStart with
      ⟨first, left, done, hOdd, hEnd, hEven, hAhead, hFirst,
        hPacked⟩
    rw [length_mpzGetStr16_eq] at hOdd hEnd
    rcases convertLoop_eq (mpzSizeinbase16 value + 1)
        hFirst hEven (by omega) with
      ⟨last, hLoop, -, hDone⟩
    rw [hEnd] at hLoop
    rw [hPacked] at hDone
    refine ⟨printed, first, last, hPrint, hOdd, hLoop, ?_, ?_⟩
    · rw [← hDone.count, length_hexToBinary_mpzGetStr16]
    · intro s hReaches
      rcases hReaches.toRead hFirst hEnd hEven hAhead with
        ⟨_, _, hConverting, -, -, hKept⟩
      exact ⟨hConverting.behind, hKept⟩

/- An odd number of digits, between other bytes. -/
theorem bufferPutMpInt_roundTrip_three :
    mpzSizeinbase2 0x123 < 65536 ∧
      ∃ stored rest,
        InMemory.bufferPutMpInt ⟨fun _ => 7, 9⟩ [1] 0x123 =
            .ok stored ∧
          bufferGet (bufferAppend stored [2]) 1 =
              .ok ([1], rest) ∧
          InMemory.bufferGetMpInt ⟨fun _ => 7, 9⟩ rest 5 =
            .ok (0x123, [2]) := by
  have hBits : mpzSizeinbase2 0x123 < 65536 := by
    decide
  exact ⟨hBits,
    (bufferPutMpInt_roundTrip ⟨fun _ => 7, 9⟩
      ⟨fun _ => 7, 9⟩ [1] [2] 0x123 hBits 5).1⟩

end Ssh1
