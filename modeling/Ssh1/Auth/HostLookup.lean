import Ssh1.Auth.KnownHosts
import Ssh1.Lib.MaximalRun

/-
  The file of known hosts is judged by its content.

  Every line that holds names and a key counts, whatever
  stands between such lines and in whatever order they come.

  Main declarations:
    * `KeyParts`, `HoldsKey`
    * `pieceEntry_eq_some_iff`
    * `checkHost_byContent`
-/

------------------------------------------------------------
-- Lines That Hold a Key
------------------------------------------------------------

namespace Ssh1

open QuotedText (Text)

/- Only spaces and tabs. -/
def IsGap (text : Text) : Prop :=
  ∀ c ∈ text, isBlank c = true

/- At least one decimal digit. -/
structure IsNumber (text : Text) : Prop where
  nonempty : text ≠ []
  digits : ∀ c ∈ text, c.isDigit = true

/-
  A key is three numbers with blanks between them. Anything
  but a digit may follow.
-/
structure KeyParts
    (cp gap₁ bits gap₂ e gap₃ n rest : Text) : Prop where
  parts :
    cp = gap₁ ++ (bits ++ (gap₂ ++ (e ++ (gap₃ ++
      (n ++ rest)))))
  gap₁ : IsGap gap₁
  bits : IsNumber bits
  gap₂ : IsGap gap₂ ∧ gap₂ ≠ []
  e : IsNumber e
  gap₃ : IsGap gap₃ ∧ gap₃ ≠ []
  n : IsNumber n
  rest : ∀ c, rest.head? = some c → c.isDigit = false

/- No blanks, and not the start of a comment. -/
structure IsNameList (names : Text) : Prop where
  nonempty : names ≠ []
  chars : ∀ c ∈ names, isNameChar c = true
  noComment :
    ∀ c, names.head? = some c → c ≠ '#' ∧ c ≠ '\n'

/- The line has these names, and a key of these numbers. -/
def HoldsKey
    (line names : Text)
    (bits e n : Nat) : Prop :=
  ∃ lead gap₁ bits' gap₂ e' gap₃ n' rest cp,
    lineText line = lead ++ (names ++ cp) ∧ IsGap lead ∧
      IsNameList names ∧
      KeyParts cp gap₁ bits' gap₂ e' gap₃ n' rest ∧
      gap₁ ≠ [] ∧ decimalValue bits' = bits ∧
      decimalValue e' = e ∧ decimalValue n' = n

end Ssh1

------------------------------------------------------------
-- Scanning Numbers
------------------------------------------------------------

namespace Ssh1

open QuotedText (Text)

variable {cp rest : Text}

theorem isDigit_eq_false_of_isBlank
    {c : Char}
    (hBlank : isBlank c = true) :
    c.isDigit = false := by
  cases hDigit : c.isDigit with
  | false => rfl
  | true =>
      rw [isBlank_of_isDigit hDigit] at hBlank
      cases hBlank

/- The first character of a part that is not empty. -/
theorem head?_append_of_forall
    {p : Char → Bool}
    {part : Text}
    (hSome : part ≠ [])
    (hAll : ∀ c ∈ part, p c = true)
    {c : Char}
    (hHead : (part ++ rest).head? = some c) :
    p c = true := by
  rw [List.head?_append_of_ne_nil _ hSome] at hHead
  exact hAll c (List.mem_of_head? hHead)

/- A number behind some blanks, and what follows it. -/
theorem spanDigits_skipBlanks_iff
    {digits : Text}
    (hSome : digits ≠ []) :
    spanDigits (skipBlanks cp) = (digits, rest) ↔
      ∃ gap, IsGap gap ∧ IsNumber digits ∧
        cp = gap ++ (digits ++ rest) ∧
        ∀ c, rest.head? = some c → c.isDigit = false := by
  rw [spanDigits, Prod.mk.injEq]
  constructor
  · intro hSpan
    have hDigits := MaximalRun.iff_takeWhile.mpr hSpan
    have hGap := MaximalRun.of_takeWhile isBlank cp
    refine ⟨cp.takeWhile isBlank, hGap.run,
      ⟨hSome, hDigits.run⟩, ?_, hDigits.rest⟩
    rw [← hDigits.parts]
    exact hGap.parts
  · rintro ⟨gap, hGap, hNumber, rfl, hRest⟩
    have hSkip :
        MaximalRun isBlank (gap ++ (digits ++ rest)) gap
          (digits ++ rest) := by
      refine MaximalRun.append hGap ?_
      intro c hHead
      exact isBlank_of_isDigit
        (head?_append_of_forall hSome hNumber.digits hHead)
    rw [skipBlanks, (MaximalRun.iff_takeWhile.mp hSkip).2]
    exact MaximalRun.iff_takeWhile.mp
      (MaximalRun.append hNumber.digits hRest)

/- Where a number is read, its digits are the first ones. -/
theorem authRsaReadMpInt_eq_some_iff
    {value : Nat} :
    authRsaReadMpInt cp = some (value, rest) ↔
      ∃ gap digits, IsGap gap ∧ IsNumber digits ∧
        cp = gap ++ (digits ++ rest) ∧
        (∀ c, rest.head? = some c → c.isDigit = false) ∧
        decimalValue digits = value := by
  constructor
  · intro hRead
    rw [authRsaReadMpInt] at hRead
    cases hSpan : spanDigits (skipBlanks cp) with
    | mk digits tail =>
        cases digits with
        | nil => simp [hSpan] at hRead
        | cons c digits =>
            simp only [hSpan, Option.some.injEq,
              Prod.mk.injEq] at hRead
            rcases hRead with ⟨hValue, rfl⟩
            rcases (spanDigits_skipBlanks_iff (by simp)).mp
                hSpan with
              ⟨gap, hGap, hNumber, hParts, hRest⟩
            exact ⟨gap, _, hGap, hNumber, hParts, hRest,
              hValue⟩
  · rintro ⟨gap, digits, hGap, hNumber, hParts, hRest, hValue⟩
    have hSpan :=
      (spanDigits_skipBlanks_iff hNumber.nonempty).mpr
        ⟨gap, hGap, hNumber, hParts, hRest⟩
    rw [authRsaReadMpInt, hSpan]
    cases digits with
    | nil => exact absurd rfl hNumber.nonempty
    | cons c digits => simp only [hValue]

/- Numbers that follow each other are kept apart by blanks. -/
theorem gap_ne_nil
    {gap digits : Text}
    (hRest :
      ∀ c, (gap ++ (digits ++ rest)).head? = some c →
        c.isDigit = false)
    (hNumber : IsNumber digits) :
    gap ≠ [] := by
  rintro rfl
  cases hDigits : digits with
  | nil => exact hNumber.nonempty hDigits
  | cons c digits =>
      have hNot := hRest c (by rw [hDigits]; rfl)
      have hDigit := hNumber.digits c (by rw [hDigits]; simp)
      rw [hDigit] at hNot
      cases hNot

/- Behind a number, a gap is no digit. -/
theorem gap_isDigit
    {gap : Text}
    (hGap : IsGap gap ∧ gap ≠ [])
    {c : Char}
    (hHead : (gap ++ rest).head? = some c) :
    c.isDigit = false :=
  isDigit_eq_false_of_isBlank
    (head?_append_of_forall hGap.2 hGap.1 hHead)

end Ssh1

------------------------------------------------------------
-- Scanning Keys
------------------------------------------------------------

namespace Ssh1

open QuotedText (Text)

variable {cp : Text}

theorem exists_keyParts_of_read
    {known : AuthorizedKey × Text}
    (hRead : authRsaReadKey cp = some known) :
    ∃ gap₁ bits gap₂ e gap₃ n rest,
      KeyParts cp gap₁ bits gap₂ e gap₃ n rest ∧
        known.1 = ⟨decimalValue bits % 2 ^ 32, decimalValue e,
          decimalValue n⟩ := by
  rw [authRsaReadKey] at hRead
  cases hSpan : spanDigits (skipBlanks cp) with
  | mk digits tail =>
      cases digits with
      | nil => simp [hSpan] at hRead
      | cons c digits =>
          simp only [hSpan, Option.bind_eq_bind,
            Option.bind_eq_some_iff, Option.some.injEq]
            at hRead
          rcases hRead with
            ⟨⟨e, tail₂⟩, hE, ⟨n, tail₃⟩, hN, rfl⟩
          rcases (spanDigits_skipBlanks_iff (by simp)).mp
              hSpan with
            ⟨gap₁, hGap₁, hBits, rfl, hRest₁⟩
          rcases authRsaReadMpInt_eq_some_iff.mp hE with
            ⟨gap₂, eDigits, hGap₂, hEDigits, rfl, hRest₂, rfl⟩
          rcases authRsaReadMpInt_eq_some_iff.mp hN with
            ⟨gap₃, nDigits, hGap₃, hNDigits, rfl, hRest₃, rfl⟩
          refine ⟨gap₁, c :: digits, gap₂, eDigits, gap₃,
            nDigits, tail₃, ?_, ?_⟩
          · exact {
              parts := rfl
              gap₁ := hGap₁
              bits := hBits
              gap₂ := ⟨hGap₂, gap_ne_nil hRest₁ hEDigits⟩
              e := hEDigits
              gap₃ := ⟨hGap₃, gap_ne_nil hRest₂ hNDigits⟩
              n := hNDigits
              rest := hRest₃ }
          · rw [← bitCount_eq_decimalValue]

theorem KeyParts.read
    {gap₁ bits gap₂ e gap₃ n rest : Text}
    (hParts : KeyParts cp gap₁ bits gap₂ e gap₃ n rest) :
    authRsaReadKey cp =
      some (⟨decimalValue bits % 2 ^ 32, decimalValue e,
        decimalValue n⟩, skipBlanks rest) := by
  have hSpan :
      spanDigits (skipBlanks cp) =
        (bits, gap₂ ++ (e ++ (gap₃ ++ (n ++ rest)))) :=
    (spanDigits_skipBlanks_iff hParts.bits.nonempty).mpr
      ⟨gap₁, hParts.gap₁, hParts.bits, hParts.parts,
        fun c hHead => gap_isDigit hParts.gap₂ hHead⟩
  have hE :
      authRsaReadMpInt
          (gap₂ ++ (e ++ (gap₃ ++ (n ++ rest)))) =
        some (decimalValue e, gap₃ ++ (n ++ rest)) :=
    authRsaReadMpInt_eq_some_iff.mpr
      ⟨gap₂, e, hParts.gap₂.1, hParts.e, rfl,
        fun c hHead => gap_isDigit hParts.gap₃ hHead, rfl⟩
  have hN :
      authRsaReadMpInt (gap₃ ++ (n ++ rest)) =
        some (decimalValue n, rest) :=
    authRsaReadMpInt_eq_some_iff.mpr
      ⟨gap₃, n, hParts.gap₃.1, hParts.n, rfl, hParts.rest,
        rfl⟩
  rw [authRsaReadKey, hSpan]
  have hSome := hParts.bits.nonempty
  cases bits with
  | nil => exact absurd rfl hSome
  | cons c bits =>
      simp only [hE, hN, Option.bind_eq_bind,
        Option.bind_some, bitCount_eq_decimalValue]

end Ssh1

------------------------------------------------------------
-- Scanning Lines
------------------------------------------------------------

namespace Ssh1

open QuotedText (Text)

variable {line names : Text}

theorem isEmptyOrComment_eq_false_iff
    {text : Text} :
    isEmptyOrComment text = false ↔
      text ≠ [] ∧
        ∀ c, text.head? = some c → c ≠ '#' ∧ c ≠ '\n' := by
  cases text with
  | nil => simp [isEmptyOrComment]
  | cons c text =>
      simp only [isEmptyOrComment, List.head?_cons,
        Option.some.injEq, Bool.or_eq_false_iff,
        decide_eq_false_iff_not]
      constructor
      · rintro ⟨hNewline, hComment⟩
        refine ⟨by simp, ?_⟩
        rintro d rfl
        exact ⟨hComment, hNewline⟩
      · rintro ⟨-, hHead⟩
        exact ⟨(hHead c rfl).2, (hHead c rfl).1⟩

theorem isBlank_of_isNameChar
    {c : Char}
    (hName : isNameChar c = true) :
    isBlank c = false := by
  simpa [isNameChar] using hName

/- The first characters that are no blanks are the names. -/
theorem isNameList_of_run
    {cp tail : Text}
    (hComment : isEmptyOrComment cp = false)
    (hFront : ∀ c, cp.head? = some c → isBlank c = false)
    (hRun : MaximalRun isNameChar cp names tail) :
    IsNameList names := by
  rcases isEmptyOrComment_eq_false_iff.mp hComment with
    ⟨hSome, hHead⟩
  have hNames : names ≠ [] := by
    rintro rfl
    have hTail := hRun.rest_eq_of_nil
    cases hCp : cp with
    | nil => exact hSome hCp
    | cons c rest =>
        have hBlank := hFront c (by rw [hCp]; rfl)
        have hStop := hRun.rest c (by rw [hTail, hCp]; rfl)
        simp [isNameChar, hBlank] at hStop
  refine ⟨hNames, hRun.run, ?_⟩
  intro c hFirst
  refine hHead c ?_
  rw [hRun.parts, List.head?_append_of_ne_nil _ hNames]
  exact hFirst

/- The key does not follow the names immediately. -/
theorem gap_ne_nil_of_run
    {text cp gap₁ bits gap₂ e gap₃ n rest : Text}
    (hRun : MaximalRun isNameChar text names cp)
    (hParts : KeyParts cp gap₁ bits gap₂ e gap₃ n rest) :
    gap₁ ≠ [] := by
  rintro rfl
  cases hBits : bits with
  | nil => exact hParts.bits.nonempty hBits
  | cons c digits =>
      have hHead : cp.head? = some c := by
        rw [hParts.parts, hBits]
        rfl
      have hStop := hRun.rest c hHead
      have hDigit :=
        hParts.bits.digits c (by rw [hBits]; simp)
      simp [isNameChar, isBlank_of_isDigit hDigit] at hStop

/- The names of a line are found, and what follows them. -/
theorem scan_names
    {lead cp gap₁ bits gap₂ e gap₃ n rest : Text}
    (hLine : lineText line = lead ++ (names ++ cp))
    (hLead : IsGap lead)
    (hNames : IsNameList names)
    (hParts : KeyParts cp gap₁ bits gap₂ e gap₃ n rest)
    (hGap : gap₁ ≠ []) :
    skipBlanks (lineText line) = names ++ cp ∧
      (names ++ cp).takeWhile isNameChar = names ∧
      (names ++ cp).dropWhile isNameChar = cp := by
  constructor
  · rw [hLine]
    refine (MaximalRun.iff_takeWhile.mp
      (MaximalRun.append hLead ?_)).2
    intro c hHead
    exact isBlank_of_isNameChar
      (head?_append_of_forall hNames.nonempty hNames.chars
        hHead)
  · refine MaximalRun.iff_takeWhile.mp
      (MaximalRun.append hNames.chars ?_)
    intro c hHead
    rw [hParts.parts] at hHead
    rw [isNameChar,
      head?_append_of_forall hGap hParts.gap₁ hHead]
    rfl

/- The bits are the first number behind the names. -/
theorem HoldsKey.bits_eq
    {bits e n : Nat}
    (hHolds : HoldsKey line names bits e n) :
    bits = decimalValue (spanDigits (skipBlanks
      ((skipBlanks (lineText line)).dropWhile
        isNameChar))).1 := by
  rcases hHolds with
    ⟨lead, gap₁, bits', gap₂, e', gap₃, n', rest, cp, hLine,
      hLead, hNames, hParts, hGap, rfl, -, -⟩
  rcases scan_names hLine hLead hNames hParts hGap with
    ⟨hSkip, -, hDrop⟩
  rw [hSkip, hDrop,
    (spanDigits_skipBlanks_iff hParts.bits.nonempty).mpr
      ⟨gap₁, hParts.gap₁, hParts.bits, hParts.parts,
        fun c hHead => gap_isDigit hParts.gap₂ hHead⟩]

/- An entry is read exactly from a line that holds a key. -/
theorem pieceEntry_eq_some_iff
    {known : AuthorizedKey} :
    pieceEntry line = some (names, known) ↔
      ∃ bits e n, HoldsKey line names bits e n ∧
        known = ⟨bits % 2 ^ 32, e, n⟩ := by
  constructor
  · intro hEntry
    unfold pieceEntry at hEntry
    have hLead :
        MaximalRun isBlank (lineText line)
          ((lineText line).takeWhile isBlank)
          (skipBlanks (lineText line)) :=
      MaximalRun.of_takeWhile isBlank (lineText line)
    generalize hCp : skipBlanks (lineText line) = cp at *
    cases hComment : isEmptyOrComment cp with
    | true => simp [hComment] at hEntry
    | false =>
        simp only [hComment, Bool.false_eq_true, if_false,
          Option.map_eq_some_iff, Prod.mk.injEq] at hEntry
        rcases hEntry with ⟨key, hRead, hNames, hKnown⟩
        rcases exists_keyParts_of_read hRead with
          ⟨gap₁, bits, gap₂, e, gap₃, n, rest, hParts, hKey⟩
        have hRun := MaximalRun.of_takeWhile isNameChar cp
        rw [hNames] at hRun
        have hList :=
          isNameList_of_run hComment hLead.rest hRun
        refine ⟨decimalValue bits, decimalValue e,
          decimalValue n,
          ⟨_, gap₁, bits, gap₂, e, gap₃, n, rest, _, ?_,
            hLead.run, hList, hParts, ?_, rfl, rfl, rfl⟩,
          hKnown.symm.trans hKey⟩
        · exact hRun.parts ▸ hLead.parts
        · exact gap_ne_nil_of_run hRun hParts
  · rintro ⟨bits, e, n,
      ⟨lead, gap₁, bits', gap₂, e', gap₃, n', rest, cp, hLine,
        hLead, hNames, hParts, hGap, rfl, rfl, rfl⟩, rfl⟩
    rcases scan_names hLine hLead hNames hParts hGap with
      ⟨hSkip, hTake, hDrop⟩
    have hComment : isEmptyOrComment (names ++ cp) = false := by
      refine isEmptyOrComment_eq_false_iff.mpr
        ⟨by simp [hNames.nonempty], ?_⟩
      rw [List.head?_append_of_ne_nil _ hNames.nonempty]
      exact hNames.noComment
    unfold pieceEntry
    rw [hSkip]
    simp only [hComment, Bool.false_eq_true, if_false, hTake,
      hDrop, hParts.read, Option.map_some]

end Ssh1

------------------------------------------------------------
-- The Answer
------------------------------------------------------------

namespace Ssh1

open QuotedText (Text)

/- A line with its newline that fits into the buffer. -/
def IsHostLine (line : Text) : Prop :=
  ∃ body, '\n' ∉ body ∧ body.length < hostLineSize - 1 ∧
    line = body ++ ['\n']

/- A line for the host holds this key. -/
def KnownWith
    (lines : List Text)
    (host : Text)
    (key : HostKey) : Prop :=
  ∃ line ∈ lines, ∃ names bits,
    HoldsKey line names bits key.e key.n ∧
      matchHostname host none names = true ∧
      bits % 2 ^ 32 = key.bits.toNat

/- A line for the host holds some key. -/
def Known
    (lines : List Text)
    (host : Text) : Prop :=
  ∃ line ∈ lines, ∃ names bits e n,
    HoldsKey line names bits e n ∧
      matchHostname host none names = true

/- The line is neither a comment nor malformed. -/
def HoldsSomeKey (line : Text) : Prop :=
  ∃ names bits e n, HoldsKey line names bits e n

variable {host : Text}
variable {key : HostKey}
variable {lines : List Text}

/- Every line is read as one piece. -/
theorem hostPieces_flatten
    (hLines : ∀ line ∈ lines, IsHostLine line) :
    hostPieces lines.flatten = lines := by
  have hFinished :
      Finished (hostLineSize - 1) lines lines.flatten := by
    induction lines with
    | nil => exact Finished.nil
    | cons line lines ih =>
        rcases hLines line (by simp) with
          ⟨body, hBody, hRoom, rfl⟩
        have hRest := ih fun line hLine =>
          hLines line (List.mem_cons_of_mem _ hLine)
        rw [List.flatten_cons, List.append_assoc]
        exact Finished.line hBody hRoom hRest
  exact hostPieces_eq_of_finished hFinished

theorem checkPieces_eq_ok_iff_knownWith :
    checkPieces host key.entry .new lines = .ok ↔
      KnownWith lines host key := by
  rw [checkPieces_eq_ok_iff (by simp)]
  refine exists_congr fun line => and_congr_right fun _ => ?_
  constructor
  · rintro ⟨names, hEntry, hMatch⟩
    rcases pieceEntry_eq_some_iff.mp hEntry with
      ⟨bits, e, n, hHolds, hKey⟩
    rw [HostKey.entry, AuthorizedKey.mk.injEq] at hKey
    rcases hKey with ⟨hBits, rfl, rfl⟩
    exact ⟨names, bits, hHolds, hMatch, hBits.symm⟩
  · rintro ⟨names, bits, hHolds, hMatch, hBits⟩
    refine ⟨names, pieceEntry_eq_some_iff.mpr
      ⟨bits, key.e, key.n, hHolds, ?_⟩, hMatch⟩
    rw [hBits]
    rfl

theorem checkPieces_eq_new_iff_not_known
    {key : AuthorizedKey} :
    checkPieces host key .new lines = .new ↔
      ¬ Known lines host := by
  constructor
  · rintro hNew ⟨line, hLine, names, bits, e, n, hHolds, hMatch⟩
    refine checkPieces_ne_new (Or.inr ⟨line, hLine, names, _,
      pieceEntry_eq_some_iff.mpr
        ⟨bits, e, n, hHolds, rfl⟩, hMatch⟩) hNew
  · intro hUnknown
    refine checkPieces_skip ?_
    intro line hLine names known hEntry
    rcases pieceEntry_eq_some_iff.mp hEntry with
      ⟨bits, e, n, hHolds, -⟩
    rw [Bool.eq_false_iff]
    intro hMatch
    exact hUnknown
      ⟨line, hLine, names, bits, e, n, hHolds, hMatch⟩

/- Only lines that hold a key matter, and not their order. -/
theorem knownWith_congr
    {lines' : List Text}
    (hSame : ∀ line, HoldsSomeKey line →
      (line ∈ lines ↔ line ∈ lines')) :
    (KnownWith lines host key ↔ KnownWith lines' host key) ∧
      (Known lines host ↔ Known lines' host) := by
  constructor
  · refine exists_congr fun line => ?_
    constructor
    · rintro ⟨hLine, names, bits, hHolds, hRest⟩
      exact ⟨(hSame line ⟨_, _, _, _, hHolds⟩).mp hLine, names,
        bits, hHolds, hRest⟩
    · rintro ⟨hLine, names, bits, hHolds, hRest⟩
      exact ⟨(hSame line ⟨_, _, _, _, hHolds⟩).mpr hLine,
        names, bits, hHolds, hRest⟩
  · refine exists_congr fun line => ?_
    constructor
    · rintro ⟨hLine, names, bits, e, n, hHolds, hRest⟩
      exact ⟨(hSame line ⟨_, _, _, _, hHolds⟩).mp hLine, names,
        bits, e, n, hHolds, hRest⟩
    · rintro ⟨hLine, names, bits, e, n, hHolds, hRest⟩
      exact ⟨(hSame line ⟨_, _, _, _, hHolds⟩).mpr hLine,
        names, bits, e, n, hHolds, hRest⟩

/- The three answers, by what the lines hold. -/
theorem checkHost_answers
    (hLines : ∀ line ∈ lines, IsHostLine line) :
    (checkHostInHostfile (some lines.flatten) host key = .ok ↔
        KnownWith lines host key) ∧
      (checkHostInHostfile (some lines.flatten) host key =
          .changed ↔
        ¬ KnownWith lines host key ∧ Known lines host) ∧
      (checkHostInHostfile (some lines.flatten) host key =
          .new ↔
        ¬ Known lines host) := by
  rw [checkHostInHostfile, hostPieces_flatten hLines]
  have hOk := @checkPieces_eq_ok_iff_knownWith host key lines
  have hNew :=
    @checkPieces_eq_new_iff_not_known host lines key.entry
  have hKnown :
      Known lines host ↔
        checkPieces host key.entry .new lines ≠ .new := by
    rw [ne_eq, hNew, not_not]
  refine ⟨hOk, ?_, hNew⟩
  rw [← hOk, hKnown]
  cases checkPieces host key.entry .new lines with
  | ok => simp
  | new => simp
  | changed => simp

/-
  The answer for a file of lines that fit says whether a line
  for the host holds the key, where the bits count up to a
  multiple of 2^32, or another key. It is the same for all
  files with the same lines that hold keys.
-/
theorem checkHost_byContent
    (lines : List Text)
    (hLines : ∀ line ∈ lines, IsHostLine line)
    (host : Text)
    (key : HostKey) :
    (checkHostInHostfile (some lines.flatten) host key = .ok ↔
        KnownWith lines host key) ∧
      (checkHostInHostfile (some lines.flatten) host key =
          .changed ↔
        ¬ KnownWith lines host key ∧ Known lines host) ∧
      (checkHostInHostfile (some lines.flatten) host key =
          .new ↔
        ¬ Known lines host) ∧
      ∀ lines' : List Text,
        (∀ line ∈ lines', IsHostLine line) →
        (∀ line, HoldsSomeKey line →
          (line ∈ lines ↔ line ∈ lines')) →
          checkHostInHostfile (some lines'.flatten) host key =
            checkHostInHostfile (some lines.flatten) host
              key := by
  rcases checkHost_answers hLines with ⟨hOk, hChanged, hNew⟩
  refine ⟨hOk, hChanged, hNew, ?_⟩
  intro lines' hLines' hSame
  rcases checkHost_answers hLines' with
    ⟨hOk', hChanged', hNew'⟩
  rcases knownWith_congr hSame with ⟨hWith, hKnown⟩
  rw [← hWith, ← hKnown] at hChanged'
  rw [← hWith] at hOk'
  rw [← hKnown] at hNew'
  cases hAnswer :
      checkHostInHostfile (some lines.flatten) host key with
  | ok => exact hOk'.mpr (hOk.mp hAnswer)
  | changed => exact hChanged'.mpr (hChanged.mp hAnswer)
  | new => exact hNew'.mpr (hNew.mp hAnswer)

/- A file with a comment, and a line with the key. -/
theorem checkHost_byContent_ok :
    checkHostInHostfile
        (some ["# b\n".toList,
          "a 1024 35 123\n".toList].flatten)
        "a".toList ⟨1024, 35, 123⟩ = .ok ∧
      KnownWith ["# b\n".toList, "a 1024 35 123\n".toList]
        "a".toList ⟨1024, 35, 123⟩ := by
  have hLines :
      ∀ line ∈ ["# b\n".toList, "a 1024 35 123\n".toList],
        IsHostLine line := by
    intro line hLine
    rcases List.mem_pair.mp hLine with rfl | rfl
    · exact ⟨"# b".toList, by decide, by decide, rfl⟩
    · exact ⟨"a 1024 35 123".toList, by decide, by decide,
        rfl⟩
  have hContent :=
    checkHost_byContent _ hLines "a".toList ⟨1024, 35, 123⟩
  have hOk :
      checkHostInHostfile
          (some ["# b\n".toList,
            "a 1024 35 123\n".toList].flatten)
          "a".toList ⟨1024, 35, 123⟩ = .ok := by
    decide +kernel
  exact ⟨hOk, hContent.1.mp hOk⟩

/- A number of bits is taken for another one. -/
theorem checkHost_not_byContent :
    IsHostLine "a 4294967297 35 123\n".toList ∧
      checkHostInHostfile
          (some ["a 4294967297 35 123\n".toList].flatten)
          "a".toList ⟨1, 35, 123⟩ = .ok ∧
      ¬ ∃ line ∈ ["a 4294967297 35 123\n".toList], ∃ names,
        HoldsKey line names 1 35 123 ∧
          matchHostname "a".toList none names = true := by
  refine ⟨⟨"a 4294967297 35 123".toList, by decide, by decide,
    rfl⟩, by decide +kernel, ?_⟩
  rintro ⟨line, hLine, names, hHolds, -⟩
  rw [List.mem_singleton.mp hLine] at hHolds
  have hBits := hHolds.bits_eq
  revert hBits
  decide +kernel

end Ssh1
