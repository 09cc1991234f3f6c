import Ssh1.Auth.HostFiles

/-
  The line of a host, written and read.

  The numbers of a key are written in decimal digits, and the
  line of a host that was added is read back as the host and
  its key, where it is a piece of its own.

  Main declarations:
    * `decimalValue_decimalText`
    * `IsHostName.matchHostname_eq`
    * `pieceEntry_hostEntry`
    * `hostPieces_eq_of_finished`
-/

------------------------------------------------------------
-- Decimal Numbers
------------------------------------------------------------

namespace Ssh1

open QuotedText (Text)

/- The value of the digits as the library has it. -/
theorem decimalValue_eq_ofDigitChars
    (digits : Text) :
    decimalValue digits = Nat.ofDigitChars 10 digits 0 := by
  simp only [decimalValue, Nat.ofDigitChars_eq_foldl,
    Nat.mul_comm]

/- A number is read as it was written. -/
theorem decimalValue_decimalText
    (value : Nat) :
    decimalValue (decimalText value) = value := by
  rw [decimalValue_eq_ofDigitChars, decimalText,
    Nat.ofDigitChars_ten_toDigits]

/- The count of bits wraps around as an `unsigned int`. -/
theorem bitCount_eq_decimalValue
    (digits : Text) :
    bitCount digits = decimalValue digits % 2 ^ 32 := by
  have hFold :
      ∀ start,
        digits.foldl
            (fun bits c =>
              (10 * bits + (c.toNat - '0'.toNat)) % 2 ^ 32)
            (start % 2 ^ 32) =
          digits.foldl
            (fun value c =>
              value * 10 + (c.toNat - '0'.toNat)) start %
            2 ^ 32 := by
    induction digits with
    | nil => exact fun start => rfl
    | cons c digits ih =>
        intro start
        have hStep :
            (10 * (start % 2 ^ 32) + (c.toNat - '0'.toNat)) %
                2 ^ 32 =
              (start * 10 + (c.toNat - '0'.toNat)) %
                2 ^ 32 := by
          omega
        rw [List.foldl_cons, List.foldl_cons, hStep]
        exact ih _
  exact hFold 0

/- It is written in digits. -/
theorem isDigit_of_mem_decimalText
    {value : Nat}
    {c : Char}
    (hMem : c ∈ decimalText value) :
    c.isDigit = true :=
  Nat.isDigit_of_mem_toDigits (by omega) (by omega) hMem

theorem decimalText_ne_nil
    (value : Nat) :
    decimalText value ≠ [] :=
  Nat.toDigits_ne_nil

theorem isBlank_of_isDigit
    {c : Char}
    (hDigit : c.isDigit = true) :
    isBlank c = false := by
  rcases hBlank : isBlank c with _ | _
  · rfl
  · rcases (isBlank_eq_true_iff c).mp hBlank with
      rfl | rfl
    · simp at hDigit
    · simp at hDigit

/- A number is read up to the next character. -/
theorem spanDigits_decimalText_append
    (value : Nat)
    {rest : Text}
    (hRest : rest.takeWhile Char.isDigit = []) :
    spanDigits (skipBlanks (decimalText value ++ rest)) =
      (decimalText value, rest) := by
  have hDigits :
      ∀ c ∈ decimalText value, c.isDigit = true :=
    fun c hMem => isDigit_of_mem_decimalText hMem
  have hDrop : rest.dropWhile Char.isDigit = rest := by
    have hSplit :=
      List.takeWhile_append_dropWhile
        (p := Char.isDigit) (l := rest)
    rw [hRest] at hSplit
    exact hSplit
  have hSkip :
      skipBlanks (decimalText value ++ rest) =
        decimalText value ++ rest := by
    cases hText : decimalText value with
    | nil => exact (decimalText_ne_nil value hText).elim
    | cons c digits =>
        have hBlank :=
          isBlank_of_isDigit (hDigits c (by simp [hText]))
        simp [skipBlanks, hBlank]
  rw [hSkip, spanDigits,
    List.takeWhile_append_of_pos hDigits,
    List.dropWhile_append_of_pos hDigits, hRest, hDrop,
    List.append_nil]

@[simp] theorem skipBlanks_space
    (cp : Text) :
    skipBlanks (' ' :: cp) = skipBlanks cp := by
  rfl

/- A number behind a blank is read up to its last digit. -/
theorem authRsaReadMpInt_decimalText
    (value : Nat)
    {rest : Text}
    (hRest : rest.takeWhile Char.isDigit = []) :
    authRsaReadMpInt (' ' :: (decimalText value ++ rest)) =
      some (value, rest) := by
  rw [authRsaReadMpInt, skipBlanks_space,
    spanDigits_decimalText_append value hRest]
  cases hText : decimalText value with
  | nil => exact (decimalText_ne_nil value hText).elim
  | cons c digits =>
      simp only [← hText, decimalValue_decimalText]

/- The bits, the exponent and the modulus are read back. -/
theorem authRsaReadKey_decimalText
    (bits e n : Nat)
    {rest : Text}
    (hRest : rest.takeWhile Char.isDigit = []) :
    authRsaReadKey
        (' ' :: (decimalText bits ++
          ' ' :: (decimalText e ++
            ' ' :: (decimalText n ++ rest)))) =
      some (⟨bits % 2 ^ 32, e, n⟩, skipBlanks rest) := by
  have hSpace :
      ∀ cp : Text, (' ' :: cp).takeWhile Char.isDigit = [] :=
    fun cp => rfl
  rw [authRsaReadKey, skipBlanks_space,
    spanDigits_decimalText_append bits (hSpace _)]
  cases hText : decimalText bits with
  | nil => exact (decimalText_ne_nil bits hText).elim
  | cons c digits =>
      simp only [← hText,
        authRsaReadMpInt_decimalText e (hSpace _),
        authRsaReadMpInt_decimalText n hRest,
        Option.bind_eq_bind, Option.bind_some,
        bitCount_eq_decimalValue, decimalValue_decimalText]

end Ssh1

------------------------------------------------------------
-- The Entry of a Host
------------------------------------------------------------

namespace Ssh1

open QuotedText (Text)

variable {host : Text}

/- A pattern without wildcards matches only itself. -/
theorem matchPattern_plain
    {pattern : Text}
    (hPlain : ∀ c ∈ pattern, c ≠ '*' ∧ c ≠ '?')
    (s : Text) :
    matchPattern s pattern = decide (s = pattern) := by
  induction pattern generalizing s with
  | nil => cases s <;> simp [matchPattern]
  | cons c pattern ih =>
      have hChar := hPlain c (by simp)
      have hRest := ih fun d hMem => hPlain d (by simp [hMem])
      rw [matchPattern.eq_def]
      cases s with
      | nil => simp [hChar.1]
      | cons x s =>
          simp [hChar.1, hRest s, hChar.2, eq_comm]

/- The codes of the characters of a host name. -/
theorem IsHostName.code
    (hHost : IsHostName host)
    {c : Char}
    (hMem : c ∈ host) :
    (45 ≤ c.toNat ∧ c.toNat ≤ 57) ∨
      (97 ≤ c.toNat ∧ c.toNat ≤ 122) := by
  rcases hHost.chars c hMem with
    hLower | hDigit | rfl | rfl
  · simp only [Char.isLower, Bool.and_eq_true,
      decide_eq_true_eq] at hLower
    exact Or.inr hLower
  · simp only [Char.isDigit, Bool.and_eq_true,
      decide_eq_true_eq] at hDigit
    have hBounds : 48 ≤ c.toNat ∧ c.toNat ≤ 57 := hDigit
    omega
  · decide
  · decide

/- None of them is special to the reader. -/
theorem IsHostName.ne
    (hHost : IsHostName host)
    {c : Char}
    (hMem : c ∈ host)
    (d : Char)
    (hOther :
      d.toNat < 45 ∨ (57 < d.toNat ∧ d.toNat < 97)) :
    c ≠ d := by
  have hCode := hHost.code hMem
  rintro rfl
  omega

/- A host name is in lower case already. -/
theorem IsHostName.toLower_eq
    (hHost : IsHostName host)
    {c : Char}
    (hMem : c ∈ host) :
    c.toLower = c := by
  have hCode := hHost.code hMem
  unfold Char.toLower
  split
  · rename_i hUpper
    have hLow : 65 ≤ c.toNat := by
      simpa [UInt32.le_iff_toNat_le] using hUpper.1
    have hHigh : c.toNat ≤ 90 := by
      simpa [UInt32.le_iff_toNat_le] using hUpper.2
    omega
  · rfl

/- A host name ends at no character of its own. -/
theorem IsHostName.isNameChar_eq
    (hHost : IsHostName host)
    {c : Char}
    (hMem : c ∈ host) :
    isNameChar c = true := by
  rcases hBlank : isBlank c with _ | _
  · simp [isNameChar, hBlank]
  · rcases (isBlank_eq_true_iff c).mp hBlank with hc | hc
    · exact (hHost.ne hMem ' ' (by decide) hc).elim
    · exact (hHost.ne hMem '\t' (by decide) hc).elim

/- As a pattern, a host name matches itself only. -/
theorem IsHostName.matchHostname_eq
    (hHost : IsHostName host)
    (other : Text) :
    matchHostname other none host = decide (other = host) := by
  have hComma : ∀ c ∈ host, c ≠ ',' :=
    fun c hMem => hHost.ne hMem ',' (by decide)
  have hTake : host.take maxSubpattern = host := by
    apply List.take_of_length_le
    have hLength := hHost.length_le
    rw [maxSubpattern]
    omega
  have hSub : host.takeWhile (fun c => c ≠ ',') = host := by
    rw [List.takeWhile_eq_self_iff]
    intro c hMem
    simpa using hComma c hMem
  have hLower : host.map Char.toLower = host := by
    rw [List.map_congr_left fun c hMem => hHost.toLower_eq hMem]
    exact List.map_id' host
  have hPlain :
      matchPattern other host = decide (other = host) :=
    matchPattern_plain
      (fun c hMem =>
        ⟨hHost.ne hMem '*' (by decide),
          hHost.ne hMem '?' (by decide)⟩) other
  have hEnd :
      ∀ fuel got,
        matchSubpatterns other none fuel [] got = got := by
    intro fuel got
    cases fuel <;> rfl
  cases hText : host with
  | nil => exact (hHost.nonempty hText).elim
  | cons c pattern =>
      have hNegated : c ≠ '!' :=
        hHost.ne (by simp [hText]) '!' (by decide)
      have hShort : ¬ host.length ≥ maxSubpattern := by
        have hLength := hHost.length_le
        rw [maxSubpattern]
        omega
      rw [matchHostname, List.length_cons,
        matchSubpatterns]
      simp only [hNegated, if_false, ← hText, hTake, hSub, hShort, hLower,
        List.drop_length, matchHost, hPlain, hEnd]
      by_cases hOther : other = host
      · simp [hOther]
      · simp [hOther]

end Ssh1

------------------------------------------------------------
-- Reading Back a Host
------------------------------------------------------------

namespace Ssh1

open QuotedText (Text)

/- A line without a zero byte is not cut. -/
theorem lineText_eq_self
    {buf : Text}
    (hZero : ∀ c ∈ buf, c ≠ Char.ofNat 0) :
    lineText buf = buf := by
  rw [lineText, List.takeWhile_eq_self_iff]
  intro c hMem
  simpa using hZero c hMem

theorem ne_zero_of_isDigit
    {c : Char}
    (hDigit : c.isDigit = true) :
    c ≠ Char.ofNat 0 := by
  rintro rfl
  simp [Char.isDigit] at hDigit

theorem ne_zero_of_isBlank
    {c : Char}
    (hBlank : isBlank c = true) :
    c ≠ Char.ofNat 0 := by
  rintro rfl
  simp [isBlank] at hBlank

/- The entry that is written has no zero byte. -/
theorem ne_zero_of_mem_hostEntry
    {host : Text}
    (hHost : IsHostName host)
    {key : HostKey}
    {c : Char}
    (hMem : c ∈ hostEntry host key) :
    c ≠ Char.ofNat 0 := by
  have hSpace : ' ' ≠ Char.ofNat 0 := by decide
  simp only [hostEntry, List.mem_append, List.mem_cons]
    at hMem
  rcases hMem with
    hMem | rfl | hMem | rfl | hMem | rfl | hMem
  · exact hHost.ne hMem _ (by decide)
  · exact hSpace
  · exact ne_zero_of_isDigit (isDigit_of_mem_decimalText hMem)
  · exact hSpace
  · exact ne_zero_of_isDigit (isDigit_of_mem_decimalText hMem)
  · exact hSpace
  · exact ne_zero_of_isDigit (isDigit_of_mem_decimalText hMem)

/- The host name portion of a text that starts with it. -/
theorem takeWhile_hostName
    {host : Text}
    (hHost : IsHostName host)
    (rest : Text) :
    (host ++ ' ' :: rest).takeWhile isNameChar = host ∧
      (host ++ ' ' :: rest).dropWhile isNameChar =
        ' ' :: rest := by
  have hChars : ∀ c ∈ host, isNameChar c = true :=
    fun c hMem => hHost.isNameChar_eq hMem
  have hSpace : isNameChar ' ' = false := by decide
  rw [List.takeWhile_append_of_pos hChars,
    List.dropWhile_append_of_pos hChars]
  simp [hSpace]

/- A host name is neither blank nor a comment. -/
theorem IsHostName.skipBlanks_append
    {host : Text}
    (hHost : IsHostName host)
    (rest : Text) :
    skipBlanks (host ++ rest) = host ++ rest ∧
      isEmptyOrComment (host ++ rest) = false := by
  cases hText : host with
  | nil => exact (hHost.nonempty hText).elim
  | cons c name =>
      have hMem : c ∈ host := by simp [hText]
      have hBlank := hHost.isNameChar_eq hMem
      rw [isNameChar, Bool.not_eq_true'] at hBlank
      have hNewline := hHost.ne hMem '\n' (by decide)
      have hComment := hHost.ne hMem '#' (by decide)
      simp [skipBlanks, isEmptyOrComment, hBlank, hNewline,
        hComment]

/- The added line is read as the host and its key. -/
theorem pieceEntry_hostEntry
    {host : Text}
    (hHost : IsHostName host)
    (key : HostKey)
    {start stop : Text}
    (hStart : ∀ c ∈ start, isBlank c = true)
    (hStop : stop = [] ∨ stop = ['\n']) :
    pieceEntry (start ++ (hostEntry host key ++ stop)) =
      some (host, key.entry) := by
  have hZero :
      ∀ c ∈ start ++ (hostEntry host key ++ stop),
        c ≠ Char.ofNat 0 := by
    intro c hMem
    rw [List.mem_append, List.mem_append] at hMem
    rcases hMem with hMem | hMem | hMem
    · exact ne_zero_of_isBlank (hStart c hMem)
    · exact ne_zero_of_mem_hostEntry hHost hMem
    · rcases hStop with rfl | rfl
      · simp at hMem
      · rw [List.mem_singleton] at hMem
        subst hMem
        decide
  have hStopDigits : stop.takeWhile Char.isDigit = [] := by
    rcases hStop with rfl | rfl
    · rfl
    · rfl
  have hSkip :
      skipBlanks (start ++ (hostEntry host key ++ stop)) =
        skipBlanks (hostEntry host key ++ stop) := by
    rw [skipBlanks, List.dropWhile_append_of_pos hStart,
      skipBlanks]
  have hBits : key.bits.toNat % 2 ^ 32 = key.bits.toNat :=
    Nat.mod_eq_of_lt key.bits.toNat_lt
  rw [pieceEntry, lineText_eq_self hZero, hSkip]
  simp only [hostEntry, List.append_assoc, List.cons_append]
  rw [(hHost.skipBlanks_append _).1,
    (hHost.skipBlanks_append _).2,
    (takeWhile_hostName hHost _).1,
    (takeWhile_hostName hHost _).2,
    authRsaReadKey_decimalText _ _ _ hStopDigits, hBits]
  rfl

end Ssh1

------------------------------------------------------------
-- The Unfinished Piece
------------------------------------------------------------

namespace Ssh1

open QuotedText (Text)

/- The last piece has its newline or fills the buffer. -/
theorem Finished.getLast?_pieces
    {room : Nat}
    {pieces : List Text}
    {file piece : Text}
    (hFile : Finished room pieces file)
    (hPiece : pieces.getLast? = some piece) :
    piece.getLast? = some '\n' ∨ piece.length = room := by
  induction hFile with
  | nil => simp at hPiece
  | @line buf file pieces hBuf hRoom hFile ih =>
      cases pieces with
      | nil =>
          simp only [List.getLast?_singleton,
            Option.some.injEq] at hPiece
          exact Or.inl (by simp [← hPiece])
      | cons other pieces =>
          rw [List.getLast?_cons_cons] at hPiece
          exact ih hPiece
  | @full buf file pieces hBuf hRoom hFile ih =>
      cases pieces with
      | nil =>
          simp only [List.getLast?_singleton,
            Option.some.injEq] at hPiece
          exact Or.inr (by rw [← hPiece, hRoom])
      | cons other pieces =>
          rw [List.getLast?_cons_cons] at hPiece
          exact ih hPiece

/- What a last piece adds to the pieces. -/
def lastPieces (last : Text) : List Text :=
  if last = [] then [] else [last]

/- A last line without a newline is one piece more. -/
theorem hostPieces_of_finished
    {pieces : List Text}
    {done : Text}
    (hDone : Finished (hostLineSize - 1) pieces done)
    {last : Text}
    (hLast : '\n' ∉ last)
    (hRoom : last.length ≤ hostLineSize - 1) :
    hostPieces (done ++ last) =
      pieces ++ lastPieces last := by
  rcases hDone.readPieces_append (by decide) last le_rfl with
    ⟨fuel, hFuel, hPieces⟩
  rw [hostPieces, lastPieces]
  refine hPieces.trans ?_
  congr 1
  by_cases hNil : last = []
  · rw [if_pos hNil, hNil]
    exact readPieces_nil _ _
  · rw [if_neg hNil]
    exact readPieces_last hLast hRoom hNil hFuel

/- A finished text has no more pieces. -/
theorem hostPieces_eq_of_finished
    {pieces : List Text}
    {done : Text}
    (hDone : Finished (hostLineSize - 1) pieces done) :
    hostPieces done = pieces := by
  have hLast : '\n' ∉ ([] : Text) := List.not_mem_nil
  have hRoom : ([] : Text).length ≤ hostLineSize - 1 :=
    Nat.zero_le _
  have hPieces := hostPieces_of_finished hDone hLast hRoom
  rw [List.append_nil] at hPieces
  rw [hPieces, lastPieces, if_pos rfl, List.append_nil]

/- The newline of a line that just fits is one more piece. -/
theorem finished_line
    {line : Text}
    (hLine : '\n' ∉ line)
    (hRoom : line.length ≤ hostLineSize - 1) :
    Finished (hostLineSize - 1)
      (if line.length < hostLineSize - 1 then
        [line ++ ['\n']]
      else
        [line, ['\n']])
      (line ++ ['\n']) := by
  by_cases hShort : line.length < hostLineSize - 1
  · rw [if_pos hShort]
    exact Finished.line hLine hShort Finished.nil
  · rw [if_neg hShort]
    have hEmpty : '\n' ∉ ([] : Text) := List.not_mem_nil
    have hNewline :
        Finished (hostLineSize - 1) [[] ++ ['\n']]
          ([] ++ ['\n']) :=
      Finished.line hEmpty (by decide) Finished.nil
    exact Finished.full hLine
      (Nat.le_antisymm hRoom (Nat.le_of_not_lt hShort))
      hNewline

/- Every file is finished pieces and the unfinished one. -/
theorem exists_finished_file
    (file : Text) :
    ∃ pieces done,
      file = done ++ unfinishedPiece file ∧
        Finished (hostLineSize - 1) pieces done ∧
        '\n' ∉ unfinishedPiece file ∧
        (unfinishedPiece file).length < hostLineSize - 1 := by
  have hPos : 0 < hostLineSize - 1 := by decide
  rcases exists_finished hPos file with
    ⟨pieces, done, last, hFile, hDone, hLast, hRoom⟩
  have hPieces :=
    hostPieces_of_finished hDone hLast hRoom.le
  have hUnfinished : unfinishedPiece file = last := by
    rw [unfinishedPiece, hFile, hPieces, lastPieces]
    by_cases hNil : last = []
    · rw [if_pos hNil, List.append_nil, hNil]
      cases hEnd : pieces.getLast? with
      | none => rfl
      | some piece =>
          exact if_pos (hDone.getLast?_pieces hEnd)
    · rw [if_neg hNil, List.getLast?_append,
        List.getLast?_singleton]
      apply if_neg
      rintro (hNewline | hFull)
      · exact hLast (List.mem_of_getLast? hNewline)
      · omega
  rw [hUnfinished]
  exact ⟨pieces, done, hFile, hDone, hLast, hRoom⟩

/- A text without a newline that leaves room is unfinished. -/
theorem unfinishedPiece_of_short
    {last : Text}
    (hLast : '\n' ∉ last)
    (hRoom : last.length < hostLineSize - 1) :
    unfinishedPiece last = last := by
  have hNil : Finished (hostLineSize - 1) [] [] :=
    Finished.nil
  have hPieces := hostPieces_of_finished hNil hLast hRoom.le
  rw [List.nil_append, List.nil_append] at hPieces
  rw [unfinishedPiece, hPieces, lastPieces]
  by_cases hEmpty : last = []
  · rw [if_pos hEmpty, hEmpty]
    rfl
  · rw [if_neg hEmpty, List.getLast?_singleton]
    apply if_neg
    rintro (hNewline | hFull)
    · exact hLast (List.mem_of_getLast? hNewline)
    · omega

end Ssh1
