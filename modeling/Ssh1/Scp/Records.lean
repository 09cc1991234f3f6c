import Ssh1.Scp.Source
import Ssh1.Scp.Sink
import Mathlib.Data.List.TakeWhile
import Mathlib.Data.Nat.Digits.Defs

/-
  The trip of a control record from its printer to the sink.

  A record is one line. Its name is printed as it is, up to
  the end of a buffer or to a number of bytes, and read up to
  a newline or to the end of another buffer.

  Main declarations:
    * `Scp.dirRecord`
    * `Scp.nextLine`, `Scp.sinkTurn_eq_nextLine`
    * `Scp.Survives`
    * `Scp.records_survive_iff`
-/

------------------------------------------------------------
-- Directory Records
------------------------------------------------------------

namespace Ssh1

namespace Scp

/- What `snprintf` leaves of a text in `path`. -/
def inPath (text : List UInt8) : List UInt8 :=
  text.take 1099

/- The record of the times of a directory. -/
def dirTimesRecord (stb : FileStat) : List UInt8 :=
  inPath (asciiBytes "T" ++ digitText 10 1 stb.mtime ++
    asciiBytes " 0 " ++ digitText 10 1 stb.atime ++
    asciiBytes " 0\n")

/- The record with which `rsource` enters a directory. -/
def dirRecord
    (name : FilePath)
    (stb : FileStat) : List UInt8 :=
  inPath (asciiBytes "D" ++
    digitText 8 4 (stb.mode &&& filemodemask).toNat ++
    asciiBytes " " ++ digitText 10 1 0 ++
    asciiBytes " " ++ (lastComponent name).take 1024 ++ [10])

/- A `time_t` as it is printed with `%lu`. -/
def unsignedLong (time : Int) : Nat :=
  (BitVec.ofInt 64 time).toNat

end Scp

end Ssh1

------------------------------------------------------------
-- Lines
------------------------------------------------------------

namespace Ssh1

namespace Scp

open Recorded

/- The line of the next record, unless the peer has left. -/
def nextLine : Scp (Option (List UInt8)) := do
  match ← readByte with
  | none => return none
  | some ch =>
      if ch = 10 then
        screwup "unexpected <newline>"
      else
        return some (← readLine 2046 [ch])

/- A turn of the sink after the line, or the end. -/
def obeyLine
    (sys : ScpSystem)
    (options : ScpOptions)
    (descend : FilePath → Scp Unit)
    (target : Target)
    (first : Bool)
    (times : Option Times) :
    Option (List UInt8) → Scp Turn
| none => return .leave
| some line =>
    sinkRecord sys options descend target first times line

/- A turn of the sink reads a line and obeys it. -/
theorem sinkTurn_eq_nextLine
    (sys : ScpSystem)
    (options : ScpOptions)
    (descend : FilePath → Scp Unit)
    (target : Target)
    (first : Bool)
    (times : Option Times) :
    sinkTurn sys options descend target first times =
      nextLine >>=
        obeyLine sys options descend target first times := by
  have hScrewup : ∀ {α : Type} (why : String)
      (f : α → Scp Turn),
      (screwup why : Scp α) >>= f = screwup why := by
    intro α why f
    rw [screwup, bind_bind]
    rfl
  unfold sinkTurn nextLine
  rw [bind_bind]
  congr 1
  funext ch
  cases ch with
  | none => rfl
  | some ch =>
      by_cases hNewline : ch = 10
      · simp only [if_pos hNewline, hScrewup]
      · simp only [if_neg hNewline, bind_bind, return_bind,
          obeyLine]

/- The sink reads just the record, and reads it as that. -/
def Survives
    (record : List UInt8)
    (expected : Control) : Prop :=
  ∀ s rest,
    s.input = record ++ rest →
      ∃ line,
        nextLine s =
            ⟨[], .ok (some line, { s with input := rest })⟩ ∧
          control line = expected

/- Text without a newline that ends the space for a line. -/
theorem readLine_full
    (line text rest : List UInt8)
    {s : ScpState}
    (hInput : s.input = text ++ rest)
    (hLine : 10 ∉ text) :
    readLine text.length line s =
      ⟨[], .ok (line ++ text, { s with input := rest })⟩ := by
  induction text generalizing line s with
  | nil =>
      rw [List.nil_append] at hInput
      rw [List.append_nil, ← hInput]
      rfl
  | cons ch text ih =>
      rw [List.mem_cons, not_or] at hLine
      refine bind_of_ok (readByte_run hInput) ?_
      show (ite _ _ _ : Scp (List UInt8)) _ = _
      rw [if_neg (Ne.symm hLine.1), ih (line ++ [ch]) rfl
        hLine.2, List.append_assoc]
      rfl

/- A line that ends before the space does. -/
theorem readLine_newline
    {room : Nat}
    (line text rest : List UInt8)
    {s : ScpState}
    (hInput : s.input = text ++ 10 :: rest)
    (hLine : 10 ∉ text)
    (hRoom : text.length < room) :
    readLine room line s =
      ⟨[], .ok (line ++ text, { s with input := rest })⟩ := by
  induction room generalizing line text s with
  | zero => omega
  | succ room ih =>
      cases text with
      | nil =>
          refine bind_of_ok (readByte_run hInput) ?_
          show (ite _ _ _ : Scp (List UInt8)) _ = _
          rw [if_pos rfl, List.append_nil]
          rfl
      | cons ch text =>
          rw [List.mem_cons, not_or] at hLine
          rw [List.length_cons] at hRoom
          refine bind_of_ok (readByte_run hInput) ?_
          show (ite _ _ _ : Scp (List UInt8)) _ = _
          rw [if_neg (Ne.symm hLine.1),
            ih (line ++ [ch]) text rfl hLine.2 (by omega),
            List.append_assoc]
          rfl

end Scp

end Ssh1

------------------------------------------------------------
-- Digits
------------------------------------------------------------

namespace Ssh1

namespace Scp

/- The byte of a digit. -/
def digitByte (c : Char) : UInt8 :=
  UInt8.ofNat c.toNat

/- The digits of a number, with zeros in front of them. -/
def paddedDigits (base width n : Nat) : List Char :=
  List.replicate
      (width - (Nat.toDigits base n).length) '0' ++
    Nat.toDigits base n

theorem digitText_eq
    (base width n : Nat) :
    digitText base width n =
      (paddedDigits base width n).map digitByte := by
  simp [digitText, paddedDigits, asciiBytes, digitByte]

/- Each digit is one of the base. -/
theorem mem_toDigits
    {base n : Nat}
    {c : Char}
    (hBase : 1 < base)
    (hMem : c ∈ Nat.toDigits base n) :
    ∃ d, d < base ∧ c = Nat.digitChar d := by
  induction n using Nat.strong_induction_on with
  | h n ih =>
      rw [Nat.toDigits_eq_if hBase] at hMem
      split at hMem
      · rename_i hLess
        exact ⟨n, hLess, List.mem_singleton.mp hMem⟩
      · rename_i hMore
        rcases List.mem_append.mp hMem with hFront | hLast
        · exact ih (n / base)
            (Nat.div_lt_self (by omega) hBase) hFront
        · exact ⟨n % base, Nat.mod_lt n (by omega),
            List.mem_singleton.mp hLast⟩

theorem mem_paddedDigits
    {base width n : Nat}
    {c : Char}
    (hBase : 1 < base)
    (hMem : c ∈ paddedDigits base width n) :
    ∃ d, d < base ∧ c = Nat.digitChar d := by
  rcases List.mem_append.mp hMem with hZero | hDigit
  · exact ⟨0, by omega, List.eq_of_mem_replicate hZero⟩
  · exact mem_toDigits hBase hDigit

/- Zeros in front leave the value. -/
theorem ofDigitChars_paddedDigits
    {base : Nat}
    (width n : Nat)
    (hBase : 1 < base)
    (hTen : base ≤ 10) :
    Nat.ofDigitChars base (paddedDigits base width n) 0 =
      n := by
  rw [paddedDigits, Nat.ofDigitChars_append,
    Nat.ofDigitChars_replicate_zero, Nat.mul_zero,
    Nat.ofDigitChars_toDigits hBase hTen]

/- What is known of the byte of a digit. -/
theorem digitByte_digitChar
    {d : Nat}
    (hDigit : d < 10) :
    (digitByte (Nat.digitChar d)).toNat = 48 + d ∧
      (Nat.digitChar d).toNat = 48 + d := by
  interval_cases d <;> decide

theorem isDigit_digitByte
    {d : Nat}
    (hDigit : d < 10) :
    isDigit (digitByte (Nat.digitChar d)) = true := by
  interval_cases d <;> decide

/- The digits of a text stand in front of any other byte. -/
theorem getnum_append
    {chars : List Char}
    (hChars : ∀ c ∈ chars,
      ∃ d, d < 10 ∧ c = Nat.digitChar d)
    {ch : UInt8}
    (hEnd : isDigit ch = false)
    (rest : List UInt8) :
    getnum (chars.map digitByte ++ ch :: rest) =
      (Nat.ofDigitChars 10 chars 0, ch :: rest) := by
  have hDigits : ∀ b ∈ chars.map digitByte,
      isDigit b = true := by
    intro b hMem
    rcases List.mem_map.mp hMem with ⟨c, hChar, rfl⟩
    rcases hChars c hChar with ⟨d, hDigit, rfl⟩
    exact isDigit_digitByte hDigit
  have hValue : ∀ (chars : List Char) (start : Nat),
      (∀ c ∈ chars, ∃ d, d < 10 ∧ c = Nat.digitChar d) →
      (chars.map digitByte).foldl
          (fun n ch => n * 10 + (ch.toNat - 48)) start =
        Nat.ofDigitChars 10 chars start := by
    intro chars
    induction chars with
    | nil => exact fun _ _ => rfl
    | cons c chars ih =>
        intro start hAll
        rcases List.forall_mem_cons.mp hAll with
          ⟨⟨d, hDigit, rfl⟩, hOthers⟩
        rw [List.map_cons, List.foldl_cons, ih _ hOthers,
          Nat.ofDigitChars_cons,
          (digitByte_digitChar hDigit).1,
          (digitByte_digitChar hDigit).2, Nat.mul_comm]
        rfl
  rw [getnum, List.takeWhile_append_of_pos hDigits,
    List.dropWhile_append_of_pos hDigits,
    List.takeWhile_cons_of_neg (by simp [hEnd]),
    List.dropWhile_cons_of_neg (by simp [hEnd]),
    List.append_nil, hValue chars 0 hChars]

/- A number is read up to what is no digit. -/
theorem getnum_digitText
    (n : Nat)
    {ch : UInt8}
    (hEnd : isDigit ch = false)
    (rest : List UInt8) :
    getnum (digitText 10 1 n ++ ch :: rest) =
      (n, ch :: rest) := by
  rw [digitText_eq, getnum_append _ hEnd,
    ofDigitChars_paddedDigits 1 n (by omega) (le_refl _)]
  intro c hMem
  exact mem_paddedDigits (by omega) hMem

/- An octal digit more. -/
theorem shift_or_digit
    (v : Nat)
    {d : Nat}
    (hDigit : d < 8) :
    UInt32.ofNat v <<< 3 ||| UInt32.ofNat d =
      UInt32.ofNat (8 * v + d) := by
  have hShift : (v % 2 ^ 32) <<< 3 % 2 ^ 32 =
      (v % 2 ^ 29) <<< 3 := by
    rw [Nat.shiftLeft_eq, Nat.shiftLeft_eq]
    omega
  have hSum := Nat.shiftLeft_add_eq_or_of_lt
    (show d < 2 ^ 3 by omega) (v % 2 ^ 29)
  apply UInt32.toNat_inj.mp
  rw [UInt32.toNat_or, UInt32.toNat_shiftLeft,
    UInt32.toNat_ofNat', UInt32.toNat_ofNat',
    UInt32.toNat_ofNat']
  change (v % 2 ^ 32) <<< 3 % 2 ^ 32 ||| d % 2 ^ 32 = _
  rw [hShift, Nat.mod_eq_of_lt (show d < 2 ^ 32 by omega),
    ← hSum, Nat.shiftLeft_eq]
  omega

/- As many octal digits as the mode has. -/
theorem parseMode_append
    {chars : List Char}
    (hChars : ∀ c ∈ chars, ∃ d, d < 8 ∧ c = Nat.digitChar d)
    (v : Nat)
    (rest : List UInt8) :
    parseMode chars.length (UInt32.ofNat v)
        (chars.map digitByte ++ rest) =
      .ok (UInt32.ofNat (Nat.ofDigitChars 8 chars v),
        rest) := by
  induction chars generalizing v with
  | nil => rfl
  | cons c chars ih =>
      rcases List.forall_mem_cons.mp hChars with
        ⟨⟨d, hDigit, rfl⟩, hOthers⟩
      have hByte :
          ¬ (digitByte (Nat.digitChar d) < 48 ∨
            digitByte (Nat.digitChar d) > 55) ∧
          (digitByte (Nat.digitChar d) - 48).toUInt32 =
            UInt32.ofNat d := by
        interval_cases d <;> decide
      rw [List.map_cons, List.cons_append, List.length_cons,
        parseMode, if_neg hByte.1, hByte.2,
        shift_or_digit v hDigit, ih hOthers,
        Nat.ofDigitChars_cons_digitChar_of_lt_ten (by omega)]

/- A mode of four digits is read as it was written. -/
theorem parseMode_digitText
    {mode : UInt32}
    (hMode : mode.toNat < 8 ^ 4)
    (rest : List UInt8) :
    parseMode 4 0 (digitText 8 4 mode.toNat ++ rest) =
      .ok (mode, rest) := by
  have hLength : (paddedDigits 8 4 mode.toNat).length = 4 := by
    have hLe : (Nat.toDigits 8 mode.toNat).length ≤ 4 :=
      Nat.toDigits_length 8 mode.toNat 4 (by omega) hMode
    rw [paddedDigits, List.length_append,
      List.length_replicate]
    omega
  have hDigits : ∀ c ∈ paddedDigits 8 4 mode.toNat,
      ∃ d, d < 8 ∧ c = Nat.digitChar d :=
    fun c hMem => mem_paddedDigits (by omega) hMem
  have hParse := parseMode_append hDigits 0 rest
  rw [hLength, ofDigitChars_paddedDigits 4 mode.toNat
    (by omega) (by omega), UInt32.ofNat_toNat,
    ← digitText_eq] at hParse
  exact hParse

end Scp

end Ssh1

------------------------------------------------------------
-- Reading Records
------------------------------------------------------------

namespace Ssh1

namespace Scp

open Recorded

section

variable {ch : UInt8}
variable {text rest : List UInt8}
variable {s : ScpState}

/- A line is read from its first byte on. -/
theorem nextLine_cons
    {line : List UInt8}
    (hInput : s.input = ch :: text)
    (hStart : ch ≠ 10)
    (hRead :
      readLine 2046 [ch] { s with input := text } =
        ⟨[], .ok (line, { s with input := rest })⟩) :
    nextLine s =
      ⟨[], .ok (some line, { s with input := rest })⟩ := by
  refine bind_of_ok (readByte_run hInput) ?_
  show (ite _ _ _ : Scp (Option (List UInt8))) _ = _
  rw [if_neg hStart]
  exact bind_of_ok hRead rfl

/- A record that ends with a newline in time. -/
theorem nextLine_newline
    (text : List UInt8)
    (hInput : s.input = ch :: text ++ 10 :: rest)
    (hLine : 10 ∉ ch :: text)
    (hRoom : text.length < 2046) :
    nextLine s =
      ⟨[], .ok (some (ch :: text),
        { s with input := rest })⟩ := by
  rw [List.mem_cons, not_or] at hLine
  apply nextLine_cons hInput (Ne.symm hLine.1)
  exact readLine_newline [ch] text rest rfl hLine.2 hRoom

/- A record that fills the buffer of the sink. -/
theorem nextLine_full
    (text : List UInt8)
    (hInput : s.input = ch :: text ++ rest)
    (hLine : 10 ∉ ch :: text)
    (hRoom : text.length = 2046) :
    nextLine s =
      ⟨[], .ok (some (ch :: text),
        { s with input := rest })⟩ := by
  rw [List.mem_cons, not_or] at hLine
  apply nextLine_cons hInput (Ne.symm hLine.1)
  rw [← hRoom]
  exact readLine_full [ch] text rest rfl hLine.2

end

/- What the sink takes for the name in a record. -/
def shownName
    (space : Nat)
    (name : List UInt8) : List UInt8 :=
  (name.take space).takeWhile (· ≠ 10)

/- A name is shown without its newlines. -/
theorem newline_not_mem_shownName
    (space : Nat)
    (name : List UInt8) :
    10 ∉ shownName space name := by
  intro hMem
  simpa using List.mem_takeWhile_imp hMem

/- A text up to its first newline, and the rest of it. -/
theorem exists_takeWhile_append
    {text : List UInt8}
    (hMem : 10 ∈ text) :
    ∃ more,
      text = text.takeWhile (· ≠ 10) ++ 10 :: more := by
  induction text with
  | nil => cases hMem
  | cons c text ih =>
      by_cases hNewline : c = 10
      · refine ⟨text, ?_⟩
        rw [hNewline, List.takeWhile_cons_of_neg (by simp)]
        rfl
      · rcases List.mem_cons.mp hMem with hHead | hTail
        · exact absurd hHead.symm hNewline
        · rcases ih hTail with ⟨more, hMore⟩
          refine ⟨more, ?_⟩
          rw [List.takeWhile_cons_of_pos (by simpa using
            hNewline), List.cons_append, ← hMore]

/- All of a record is read if its name is read as it is. -/
theorem nextLine_record
    {ch : UInt8}
    {front name rest : List UInt8}
    {space : Nat}
    {s : ScpState}
    (hFront : 10 ∉ ch :: front)
    (hSpace : front.length + space = 2046)
    (hInput :
      s.input =
        ch :: front ++ (name ++ [10]).take space ++ rest) :
    ∃ left,
      nextLine s =
          ⟨[], .ok (some (ch :: front ++ shownName space name),
            { s with input := left })⟩ ∧
        (10 ∉ name → left = rest) := by
  have hShown := newline_not_mem_shownName space name
  have hLine : 10 ∉ ch :: (front ++ shownName space name) := by
    rw [← List.cons_append, List.mem_append, not_or]
    exact ⟨hFront, hShown⟩
  by_cases hMem : 10 ∈ name.take space
  · -- the name is cut off at its first newline
    rcases exists_takeWhile_append hMem with ⟨more, hSplit⟩
    rw [← shownName] at hSplit
    have hLength := congrArg List.length hSplit
    rw [List.length_take, List.length_append,
      List.length_cons] at hLength
    refine ⟨more ++ [10].take (space - name.length) ++ rest,
      ?_, fun hNone =>
        absurd (List.mem_of_mem_take hMem) hNone⟩
    rw [List.take_append, hSplit] at hInput
    apply nextLine_newline (front ++ shownName space name)
    · simpa using hInput
    · exact hLine
    · rw [List.length_append]
      omega
  · have hWhole : shownName space name = name.take space := by
      rw [shownName, List.takeWhile_eq_self_iff]
      intro c hChar
      exact decide_eq_true fun hNewline =>
        hMem (hNewline ▸ hChar)
    rw [hWhole] at hLine ⊢
    by_cases hFits : name.length < space
    · have hTake : name.take space = name :=
        List.take_of_length_le hFits.le
      refine ⟨rest, ?_, fun _ => rfl⟩
      rw [hTake] at hLine ⊢
      rw [List.take_of_length_le (by
        rw [List.length_append, List.length_singleton]
        omega)] at hInput
      apply nextLine_newline (front ++ name)
      · simpa using hInput
      · exact hLine
      · rw [List.length_append]
        omega
    · refine ⟨rest, ?_, fun _ => rfl⟩
      rw [List.take_append_of_le_length (by omega)] at hInput
      apply nextLine_full (front ++ name.take space)
      · simpa using hInput
      · exact hLine
      · rw [List.length_append, List.length_take]
        omega

end Scp

end Ssh1

------------------------------------------------------------
-- Contents of Records
------------------------------------------------------------

namespace Ssh1

namespace Scp

theorem isDigit_of_mem_digitText
    {base width n : Nat}
    {ch : UInt8}
    (hBase : 1 < base)
    (hTen : base ≤ 10)
    (hMem : ch ∈ digitText base width n) :
    isDigit ch = true := by
  rw [digitText_eq] at hMem
  rcases List.mem_map.mp hMem with ⟨c, hChar, rfl⟩
  rcases mem_paddedDigits hBase hChar with ⟨d, hDigit, rfl⟩
  exact isDigit_digitByte (by omega)

/- A number takes no more digits than its bound. -/
theorem length_digitText
    {base width n k : Nat}
    (hWidth : width ≤ k)
    (hSome : 0 < k)
    (hBound : n < base ^ k) :
    (digitText base width n).length ≤ k := by
  have hLe : (Nat.toDigits base n).length ≤ k :=
    Nat.toDigits_length base n k hSome hBound
  rw [digitText_eq, List.length_map, paddedDigits,
    List.length_append, List.length_replicate]
  omega

/- A text without a zero byte is not cut. -/
theorem cString_of_notMem
    {text : List UInt8}
    (hText : 0 ∉ text) :
    cString text = text := by
  rw [cString, List.takeWhile_eq_self_iff]
  intro c hMem
  exact decide_eq_true fun hZero => hText (hZero ▸ hMem)

/- A record between its letter and the name. -/
def recordFront
    (mode : UInt32)
    (size : Nat) : List UInt8 :=
  digitText 8 4 (mode &&& filemodemask).toNat ++
    32 :: (digitText 10 1 size ++ [32])

/- The front of a record is digits and blanks. -/
theorem notMem_recordFront
    {ch : UInt8}
    (mode : UInt32)
    (size : Nat)
    (hDigit : isDigit ch = false)
    (hBlank : ch ≠ 32) :
    ch ∉ recordFront mode size := by
  intro hMem
  rcases List.mem_append.mp hMem with hMode | hMem
  · rw [isDigit_of_mem_digitText (by omega) (by omega) hMode]
      at hDigit
    cases hDigit
  · rcases List.mem_cons.mp hMem with hEq | hMem
    · exact hBlank hEq
    · rcases List.mem_append.mp hMem with hSize | hEnd
      · rw [isDigit_of_mem_digitText (by omega) (by omega)
          hSize] at hDigit
        cases hDigit
      · exact hBlank (List.mem_singleton.mp hEnd)

/- The bits of a mode that are printed make four digits. -/
theorem masked_lt
    (mode : UInt32) :
    (mode &&& filemodemask).toNat < 8 ^ 4 := by
  have hLe : (mode &&& filemodemask).toNat ≤
      filemodemask.toNat := by
    rw [UInt32.toNat_and]
    exact Nat.and_le_right
  exact lt_of_le_of_lt hLe (by decide)

theorem length_modeText
    (mode : UInt32) :
    (digitText 8 4 (mode &&& filemodemask).toNat).length =
      4 := by
  have hLe := length_digitText (le_refl 4) (by omega)
    (masked_lt mode)
  rw [digitText_eq, List.length_map, paddedDigits,
    List.length_append, List.length_replicate] at *
  omega

/- A file or a directory is read as it was printed. -/
theorem control_recordFront
    {letter : UInt8}
    {name : List UInt8}
    (mode : UInt32)
    {size : Nat}
    (hLetter : letter = 67 ∨ letter = 68)
    (hSize : size < 2 ^ 63)
    (hName : 0 ∉ name) :
    control (letter :: recordFront mode size ++ name) =
      .copy (letter = 68) (mode &&& filemodemask) size
        name := by
  have hText : 0 ∉ recordFront mode size ++ name := by
    rw [List.mem_append, not_or]
    exact ⟨notMem_recordFront mode size (by decide)
      (by decide), hName⟩
  have hOffT : toOffT size = size := by
    rw [toOffT, BitVec.toInt_ofNat', Int.bmod_eq_of_le]
    · omega
    · omega
  have hCopy :
      parseCopy (letter = 68)
          (recordFront mode size ++ name) =
        .ok (.copy (letter = 68) (mode &&& filemodemask) size
          name) := by
    have hMode := parseMode_digitText (masked_lt mode)
      (32 :: (digitText 10 1 size ++ 32 :: name))
    have hNumber := getnum_digitText size
      (show isDigit 32 = false by decide) name
    rw [parseCopy, recordFront, List.append_assoc,
      List.cons_append, List.append_assoc,
      List.singleton_append, hMode]
    simp only [FallibleRun.ok_bind, delimited, hNumber,
      hOffT]
    rfl
  rw [List.cons_append, control, if_neg, if_neg, if_neg,
    if_pos hLetter, cString_of_notMem hText, hCopy]
  · rfl
  · rcases hLetter with rfl | rfl <;> decide
  · rcases hLetter with rfl | rfl <;> decide
  · rcases hLetter with rfl | rfl <;> decide

/- The times of a record, whatever is behind the decimals. -/
theorem control_times
    (modtime actime : Nat) :
    control (84 :: (digitText 10 1 modtime ++
        32 :: 48 :: 32 :: (digitText 10 1 actime ++
          [32, 48]))) =
      .times ⟨modtime, actime⟩ := by
  have hText : 0 ∉ digitText 10 1 modtime ++
      32 :: 48 :: 32 :: (digitText 10 1 actime ++
        [32, 48]) := by
    have hDigits : ∀ n, 0 ∉ digitText 10 1 n := by
      intro n hMem
      have hDigit := isDigit_of_mem_digitText (by omega)
        (le_refl 10) hMem
      exact absurd hDigit (by decide)
    simp [hDigits]
  have hFirst := getnum_digitText modtime
    (show isDigit 32 = false by decide)
    (48 :: 32 :: (digitText 10 1 actime ++ [32, 48]))
  have hSecond := getnum_digitText actime
    (show isDigit 32 = false by decide) [48]
  have hZero : ∀ rest : List UInt8,
      getnum (48 :: 32 :: rest) = (0, 32 :: rest) :=
    fun rest => rfl
  have hLast : getnum [48] = (0, []) := rfl
  have hTimes :
      parseTimes (digitText 10 1 modtime ++
          32 :: 48 :: 32 :: (digitText 10 1 actime ++
            [32, 48])) =
        .ok ⟨modtime, actime⟩ := by
    rw [parseTimes]
    simp only [hFirst, FallibleRun.ok_bind, delimited, hZero,
      hSecond, hLast]
    rfl
  rw [control, if_neg (by decide), if_neg (by decide),
    if_pos rfl, cString_of_notMem hText, hTimes]
  rfl

end Scp

end Ssh1

------------------------------------------------------------
-- Survival
------------------------------------------------------------

namespace Ssh1

namespace Scp

theorem recordFront_length
    (mode : UInt32)
    (size : Nat) :
    (recordFront mode size).length =
      6 + (digitText 10 1 size).length := by
  rw [recordFront, List.length_append, length_modeText,
    List.length_cons, List.length_append,
    List.length_singleton]
  omega

/-
  A record survives if its name does, as far as there is
  space for it. The text of the name that is printed is the
  name or a front of it.
-/
theorem survives_copy_iff
    {letter : UInt8}
    {text name : List UInt8}
    {space : Nat}
    (mode : UInt32)
    {size : Nat}
    (hLetter : letter = 67 ∨ letter = 68)
    (hSize : size < 2 ^ 63)
    (hName : 0 ∉ name)
    (hText : text <+: name)
    (hSpace :
      (digitText 10 1 size).length + space = 2040) :
    Survives
        (letter :: recordFront mode size ++
          (text ++ [10]).take space)
        (.copy (letter = 68) (mode &&& filemodemask) size
          name) ↔
      10 ∉ name ∧ text = name ∧ name.length ≤ space := by
  have hFront : 10 ∉ letter :: recordFront mode size := by
    rw [List.mem_cons, not_or]
    refine ⟨?_, notMem_recordFront mode size (by decide)
      (by decide)⟩
    rcases hLetter with rfl | rfl <;> decide
  have hRoom : (recordFront mode size).length + space =
      2046 := by
    rw [recordFront_length]
    omega
  have hShown : shownName space text <+: text :=
    (List.takeWhile_prefix _).trans (List.take_prefix _ _)
  have hControl := control_recordFront mode hLetter hSize
    (fun hMem => hName ((hShown.trans hText).subset hMem))
  constructor
  · intro hSurvives
    have hInput :
        (ScpState.mk
            (letter :: recordFront mode size ++
              (text ++ [10]).take space ++ []) 0 0 []).input =
          letter :: recordFront mode size ++
            (text ++ [10]).take space ++ [] := rfl
    rcases hSurvives _ [] hInput with
      ⟨line, hLine, hRecord⟩
    rcases nextLine_record hFront hRoom hInput with
      ⟨left, hRead, -⟩
    rw [hRead] at hLine
    cases hLine
    rw [hControl] at hRecord
    have hSame : shownName space text = name := by
      injection hRecord
    have hLe := hText.length_le
    have hLe' := hShown.length_le
    have hBound : (shownName space text).length ≤ space :=
      (List.takeWhile_prefix _).length_le.trans
        (List.length_take_le _ _)
    refine ⟨?_, hText.eq_of_length ?_, ?_⟩
    · rw [← hSame]
      exact newline_not_mem_shownName space text
    · rw [hSame] at hLe'
      omega
    · rwa [hSame] at hBound
  · rintro ⟨hLine, rfl, hFits⟩ s rest hInput
    rcases nextLine_record hFront hRoom hInput with
      ⟨left, hRead, hLeft⟩
    rw [hLeft hLine] at hRead
    have hSame : shownName space text = text := by
      rw [shownName, List.take_of_length_le hFits,
        List.takeWhile_eq_self_iff]
      intro c hMem
      exact decide_eq_true fun hNewline =>
        hLine (hNewline ▸ hMem)
    rw [hSame] at hRead hControl
    exact ⟨_, hRead, hControl⟩

/- The space for the name of a file. -/
theorem fileRecord_eq
    (name : FilePath)
    {stb : FileStat}
    (hSize : stb.size < 2 ^ 63) :
    ∃ space,
      (digitText 10 1 stb.size).length + space = 2040 ∧
        fileRecord name stb =
          67 :: recordFront stb.mode stb.size ++
            (lastComponent name ++ [10]).take space := by
  have hDigits : (digitText 10 1 stb.size).length ≤ 20 :=
    length_digitText (by omega) (by omega) (by omega)
  have hFront := recordFront_length stb.mode stb.size
  refine ⟨2040 - (digitText 10 1 stb.size).length, by omega,
    ?_⟩
  have hText :
      asciiBytes "C" ++
            digitText 8 4
              (stb.mode &&& filemodemask).toNat ++
            asciiBytes " " ++ digitText 10 1 stb.size ++
          asciiBytes " " ++ lastComponent name ++ [10] =
        67 :: recordFront stb.mode stb.size ++
          (lastComponent name ++ [10]) := by
    have hLetter : asciiBytes "C" = [67] := rfl
    have hBlank : asciiBytes " " = [32] := rfl
    rw [hLetter, hBlank, recordFront]
    simp
  have hWhole :
      (67 :: recordFront stb.mode stb.size).take 2047 =
        67 :: recordFront stb.mode stb.size := by
    apply List.take_of_length_le
    rw [List.length_cons]
    omega
  have hSpace :
      2047 - (67 :: recordFront stb.mode stb.size).length =
        2040 - (digitText 10 1 stb.size).length := by
    rw [List.length_cons]
    omega
  rw [fileRecord, inBuf, hText, List.take_append, hWhole,
    hSpace]

/- There is always enough space for 1024 bytes. -/
theorem dirRecord_eq
    (name : FilePath)
    (stb : FileStat) :
    dirRecord name stb =
      68 :: recordFront stb.mode 0 ++
        ((lastComponent name).take 1024 ++ [10]).take
          2039 := by
  have hFront := recordFront_length stb.mode 0
  have hZero : (digitText 10 1 0).length = 1 := rfl
  have hText :
      asciiBytes "D" ++
            digitText 8 4
              (stb.mode &&& filemodemask).toNat ++
            asciiBytes " " ++ digitText 10 1 0 ++
          asciiBytes " " ++ (lastComponent name).take 1024 ++
          [10] =
        68 :: recordFront stb.mode 0 ++
          ((lastComponent name).take 1024 ++ [10]) := by
    have hLetter : asciiBytes "D" = [68] := rfl
    have hBlank : asciiBytes " " = [32] := rfl
    rw [hLetter, hBlank, recordFront]
    simp
  have hName :
      ((lastComponent name).take 1024 ++ [10]).length ≤
        1025 := by
    rw [List.length_append, List.length_take,
      List.length_singleton]
    omega
  have hWhole :
      ((lastComponent name).take 1024 ++ [10]).take 2039 =
        (lastComponent name).take 1024 ++ [10] :=
    List.take_of_length_le (by omega)
  rw [dirRecord, inPath, hText, hWhole]
  apply List.take_of_length_le
  rw [List.length_append, List.length_cons]
  omega

/- The record of the times fits into both buffers. -/
theorem timesText_eq
    {stb : FileStat}
    (hModtime : stb.mtime < 2 ^ 64)
    (hActime : stb.atime < 2 ^ 64) :
    timesRecord stb =
        84 :: (digitText 10 1 stb.mtime ++
          32 :: 48 :: 32 :: (digitText 10 1 stb.atime ++
            [32, 48])) ++ [10] ∧
      dirTimesRecord stb = timesRecord stb := by
  have hFirst : (digitText 10 1 stb.mtime).length ≤ 20 :=
    length_digitText (by omega) (by omega) (by omega)
  have hSecond : (digitText 10 1 stb.atime).length ≤ 20 :=
    length_digitText (by omega) (by omega) (by omega)
  have hText :
      asciiBytes "T" ++ digitText 10 1 stb.mtime ++
            asciiBytes " 0 " ++ digitText 10 1 stb.atime ++
          asciiBytes " 0\n" =
        84 :: (digitText 10 1 stb.mtime ++
          32 :: 48 :: 32 :: (digitText 10 1 stb.atime ++
            [32, 48])) ++ [10] := by
    have hLetter : asciiBytes "T" = [84] := rfl
    have hMiddle : asciiBytes " 0 " = [32, 48, 32] := rfl
    have hEnd : asciiBytes " 0\n" = [32, 48, 10] := rfl
    rw [hLetter, hMiddle, hEnd]
    simp
  have hLength :
      (84 :: (digitText 10 1 stb.mtime ++
          32 :: 48 :: 32 :: (digitText 10 1 stb.atime ++
            [32, 48])) ++ [10]).length ≤ 50 := by
    simp only [List.length_append, List.length_cons,
      List.length_nil]
    omega
  rw [timesRecord, dirTimesRecord, inBuf, inPath, hText,
    List.take_of_length_le (by omega),
    List.take_of_length_le (by omega)]
  exact ⟨rfl, rfl⟩

/- A record of times survives. -/
theorem survives_times
    {stb : FileStat}
    (hModtime : stb.mtime < 2 ^ 64)
    (hActime : stb.atime < 2 ^ 64) :
    Survives (timesRecord stb)
      (.times ⟨stb.mtime, stb.atime⟩) := by
  intro s rest hInput
  have hDigits : ∀ n, 10 ∉ digitText 10 1 n := by
    intro n hMem
    have hDigit := isDigit_of_mem_digitText (by omega)
      (le_refl 10) hMem
    exact absurd hDigit (by decide)
  have hFirst : (digitText 10 1 stb.mtime).length ≤ 20 :=
    length_digitText (by omega) (by omega) (by omega)
  have hSecond : (digitText 10 1 stb.atime).length ≤ 20 :=
    length_digitText (by omega) (by omega) (by omega)
  rw [(timesText_eq hModtime hActime).1] at hInput
  refine ⟨_, nextLine_newline
    (digitText 10 1 stb.mtime ++
      32 :: 48 :: 32 :: (digitText 10 1 stb.atime ++
        [32, 48])) ?_ ?_ ?_,
    control_times stb.mtime stb.atime⟩
  · simpa using hInput
  · simp [hDigits]
  · simp only [List.length_append, List.length_cons,
      List.length_nil]
    omega

/- A time comes back as the `time_t` that it was. -/
theorem toOffT_unsignedLong
    {time : Int}
    (hLow : -2 ^ 63 ≤ time)
    (hHigh : time < 2 ^ 63) :
    toOffT (unsignedLong time) = time := by
  rw [toOffT, unsignedLong, BitVec.ofNat_toNat,
    BitVec.setWidth_eq, BitVec.toInt_ofInt,
    Int.bmod_eq_of_le]
  · omega
  · omega

/- The last part of a name has no zero byte either. -/
theorem notMem_lastComponent
    {name : FilePath}
    (hName : 0 ∉ name) :
    0 ∉ lastComponent name := by
  intro hMem
  apply hName
  rw [lastComponent, List.mem_reverse] at hMem
  exact List.mem_reverse.mp
    ((List.takeWhile_prefix _).subset hMem)

/-
  A turn of the sink obeys the line that it reads. Times
  always survive. A file survives exactly if its name has no
  newline and there is space for it in a record of 2047
  bytes, and a directory exactly if its name has no newline
  and at most 1024 bytes.
-/
theorem records_survive_iff
    {name : FilePath}
    {stb : FileStat}
    {modtime actime : Int}
    (hName : 0 ∉ name)
    (hSize : stb.size < 2 ^ 63)
    (hModtime : -2 ^ 63 ≤ modtime ∧ modtime < 2 ^ 63)
    (hActime : -2 ^ 63 ≤ actime ∧ actime < 2 ^ 63)
    (hMtime : stb.mtime = unsignedLong modtime)
    (hAtime : stb.atime = unsignedLong actime) :
    (∀ sys options descend target first times,
      sinkTurn sys options descend target first times =
        nextLine >>=
          obeyLine sys options descend target first times) ∧
    (∃ times,
      Survives (timesRecord stb) (.times times) ∧
        Survives (dirTimesRecord stb) (.times times) ∧
        toOffT times.modtime = modtime ∧
        toOffT times.actime = actime) ∧
      (Survives (fileRecord name stb)
          (.copy false (stb.mode &&& filemodemask) stb.size
            (lastComponent name)) ↔
        10 ∉ lastComponent name ∧
          (digitText 10 1 stb.size).length +
            (lastComponent name).length ≤ 2040) ∧
      (Survives (dirRecord name stb)
          (.copy true (stb.mode &&& filemodemask) 0
            (lastComponent name)) ↔
        10 ∉ lastComponent name ∧
          (lastComponent name).length ≤ 1024) := by
  have hLast := notMem_lastComponent hName
  refine ⟨sinkTurn_eq_nextLine, ?_, ?_, ?_⟩
  · have hMtime' : stb.mtime < 2 ^ 64 := by
      rw [hMtime]
      exact BitVec.isLt _
    have hAtime' : stb.atime < 2 ^ 64 := by
      rw [hAtime]
      exact BitVec.isLt _
    have hTimes := survives_times hMtime' hAtime'
    refine ⟨⟨stb.mtime, stb.atime⟩, hTimes, ?_, ?_, ?_⟩
    · rwa [(timesText_eq hMtime' hAtime').2]
    · rw [hMtime]
      exact toOffT_unsignedLong hModtime.1 hModtime.2
    · rw [hAtime]
      exact toOffT_unsignedLong hActime.1 hActime.2
  · rcases fileRecord_eq name hSize with
      ⟨space, hSpace, hRecord⟩
    rw [hRecord]
    refine (survives_copy_iff stb.mode (.inl rfl) hSize hLast
      (List.prefix_refl _) hSpace).trans ?_
    constructor
    · rintro ⟨hLine, -, hFits⟩
      exact ⟨hLine, by omega⟩
    · rintro ⟨hLine, hFits⟩
      exact ⟨hLine, rfl, by omega⟩
  · have hSpace : (digitText 10 1 0).length + 2039 = 2040 :=
      rfl
    rw [dirRecord_eq]
    refine (survives_copy_iff stb.mode (.inr rfl)
      (by omega) hLast (List.take_prefix 1024 _)
      hSpace).trans ?_
    constructor
    · rintro ⟨hLine, hWhole, -⟩
      rw [List.take_eq_self_iff] at hWhole
      exact ⟨hLine, hWhole⟩
    · rintro ⟨hLine, hFits⟩
      exact ⟨hLine, List.take_of_length_le hFits, by omega⟩

/- The file `a` of five bytes, last changed before 1970. -/
theorem records_survive_iff_sample :
    (∀ sys options descend target first times,
      sinkTurn sys options descend target first times =
        nextLine >>=
          obeyLine sys options descend target first times) ∧
    (∃ times,
      Survives
          (timesRecord
            ⟨0o644, 5, unsignedLong (-1), unsignedLong 7⟩)
          (.times times) ∧
        Survives
          (dirTimesRecord
            ⟨0o644, 5, unsignedLong (-1), unsignedLong 7⟩)
          (.times times) ∧
        toOffT times.modtime = -1 ∧
        toOffT times.actime = 7) ∧
      (Survives
          (fileRecord [97]
            ⟨0o644, 5, unsignedLong (-1), unsignedLong 7⟩)
          (.copy false (0o644 &&& filemodemask) (5 : Nat)
            (lastComponent [97])) ↔
        10 ∉ lastComponent [97] ∧
          (digitText 10 1 5).length +
            (lastComponent [97]).length ≤ 2040) ∧
      (Survives
          (dirRecord [97]
            ⟨0o644, 5, unsignedLong (-1), unsignedLong 7⟩)
          (.copy true (0o644 &&& filemodemask) 0
            (lastComponent [97])) ↔
        10 ∉ lastComponent [97] ∧
          (lastComponent [97]).length ≤ 1024) :=
  records_survive_iff (by decide) (by decide) (by decide)
    (by decide) rfl rfl

/- Of the name `a`, a newline and `b` only the `a` is read. -/
theorem records_not_survive :
    ¬ Survives (fileRecord [97, 10, 98] ⟨0o644, 5, 0, 0⟩)
      (.copy false 0o644 5 [97, 10, 98]) := by
  intro hSurvives
  have hInput :
      (ScpState.mk
          (fileRecord [97, 10, 98] ⟨0o644, 5, 0, 0⟩ ++ [])
          0 0 []).input =
        fileRecord [97, 10, 98] ⟨0o644, 5, 0, 0⟩ ++ [] := rfl
  rcases hSurvives _ [] hInput with ⟨line, hLine, hRecord⟩
  have hRead :
      nextLine
          (ScpState.mk
            (fileRecord [97, 10, 98] ⟨0o644, 5, 0, 0⟩ ++ [])
            0 0 []) =
        ⟨[], .ok (some [67, 48, 54, 52, 52, 32, 53, 32, 97],
          ⟨[98, 10], 0, 0, []⟩)⟩ := rfl
  rw [hRead] at hLine
  cases hLine

end Scp

end Ssh1
