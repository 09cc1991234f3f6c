import Ssh1.Auth.HostEntries

/-
  When the files of known hosts keep a host.

  The reader finds the new line as it was written unless the
  file ends in the middle of a piece: then the line joins the
  piece, or is cut by the end of the buffer.

  Main declarations:
    * `keepsKnownHosts_of_blank`
    * `exists_probe_cut`
    * `addHost_keepsKnownHosts_iff`
-/

------------------------------------------------------------
-- Appending a Line
------------------------------------------------------------

namespace Ssh1

open QuotedText (Text)

variable {answers : WriteAnswers}

/- A call that takes all appends all. -/
theorem userfileWrite_of_takesAll
    (hAnswers : TakesAll answers)
    (call : Nat)
    (buf file : Text) :
    userfileWrite answers call buf file = file ++ buf := by
  rw [userfileWrite, List.take_of_length_le
    (hAnswers call buf)]

/- Without a failure the whole line is appended. -/
theorem addHost_of_takesAll
    (hAnswers : TakesAll answers)
    {host : Text}
    (hHost : IsHostName host)
    (key : HostKey)
    (file : Option Text) :
    addHostToHostfile true answers file host key =
      (true, some
        (file.getD [] ++ (hostEntry host key ++ ['\n']))) := by
  have hTake : host.take 500 = host :=
    List.take_of_length_le hHost.length_le
  simp [addHostToHostfile, hTake, hostEntry,
    userfileWrite_of_takesAll hAnswers]

/- An entry stays on its line. -/
theorem newline_not_mem_hostEntry
    {host : Text}
    (hHost : IsHostName host)
    (key : HostKey) :
    '\n' ∉ hostEntry host key := by
  have hDigits :
      ∀ value, '\n' ∉ decimalText value := by
    intro value hMem
    have hDigit := isDigit_of_mem_decimalText hMem
    simp at hDigit
  intro hMem
  simp only [hostEntry, List.mem_append, List.mem_cons]
    at hMem
  rcases hMem with
    hMem | hMem | hMem | hMem | hMem | hMem | hMem
  · exact hHost.ne hMem '\n' (by decide) rfl
  · simp at hMem
  · exact hDigits _ hMem
  · simp at hMem
  · exact hDigits _ hMem
  · simp at hMem
  · exact hDigits _ hMem

/- A piece that is blank has no entry. -/
theorem pieceEntry_blank
    {piece : Text}
    (hBlank : ∀ c ∈ piece, isBlank c = true) :
    pieceEntry piece = none := by
  have hText :=
    lineText_eq_self fun c hMem =>
      ne_zero_of_isBlank (hBlank c hMem)
  have hSkip : skipBlanks piece = [] := by
    rw [skipBlanks, List.dropWhile_eq_nil_iff]
    exact hBlank
  rw [pieceEntry, hText, hSkip]
  rfl

theorem pieceEntry_newline :
    pieceEntry ['\n'] = none := by
  rfl

/- The check of the host goes over the pieces. -/
theorem checkHost_eq_checkPieces
    (file : Option Text)
    (host : Text)
    (key : HostKey) :
    checkHostInHostfile file host key =
      checkPieces host key.entry .new
        (hostPieces (file.getD [])) := by
  cases file with
  | none => rfl
  | some file => rfl

/- The added line is found, whatever its newline does. -/
theorem keepsKnownHosts_of_blank
    (hAnswers : TakesAll answers)
    {file : Option Text}
    (hBlank :
      ∀ c ∈ unfinishedPiece (file.getD []),
        isBlank c = true)
    (hOne : (unfinishedPiece (file.getD [])).length ≤ 1)
    {host : Text}
    (hHost : IsHostName host)
    {key : HostKey}
    (hFits : LineFits host key) :
    KeepsKnownHosts answers file host key := by
  intro opened after hAdded
  cases opened with
  | false => simp [addHostToHostfile] at hAdded
  | true =>
      rw [addHost_of_takesAll hAnswers hHost, Prod.mk.injEq]
        at hAdded
      rcases hAdded with ⟨-, rfl⟩
      rcases exists_finished_file (file.getD []) with
        ⟨pieces, done, hFile, hDone, hLast, hRoom⟩
      generalize unfinishedPiece (file.getD []) = last at *
      have hBefore :=
        hostPieces_of_finished hDone hLast hRoom.le
      rw [← hFile] at hBefore
      have hLine : '\n' ∉ last ++ hostEntry host key := by
        rw [List.mem_append, not_or]
        exact ⟨hLast, newline_not_mem_hostEntry hHost key⟩
      have hLength :
          (last ++ hostEntry host key).length ≤
            hostLineSize - 1 := by
        rw [List.length_append]
        rw [LineFits] at hFits
        omega
      have hAfter :=
        hostPieces_eq_of_finished
          (hDone.append (finished_line hLine hLength))
      have hContent :
          file.getD [] ++ (hostEntry host key ++ ['\n']) =
            done ++ (last ++ hostEntry host key ++
              ['\n']) := by
        rw [hFile]
        simp
      have hEntry :
          ∀ stop,
            stop = [] ∨ stop = ['\n'] →
            pieceEntry (last ++ hostEntry host key ++ stop) =
              some (host, key.entry) := by
        intro stop hStop
        rw [List.append_assoc]
        exact pieceEntry_hostEntry hHost key hBlank hStop
      constructor
      · rw [checkHost_eq_checkPieces, Option.getD_some,
          hContent, hAfter, checkPieces_eq_ok_iff (by simp)]
        have hMatch : matchHostname host none host = true := by
          rw [hHost.matchHostname_eq, decide_eq_true rfl]
        by_cases hShort :
            (last ++ hostEntry host key).length <
              hostLineSize - 1
        · refine ⟨last ++ hostEntry host key ++ ['\n'], ?_,
            host, hEntry _ (Or.inr rfl), hMatch⟩
          rw [if_pos hShort, List.mem_append]
          exact Or.inr (by simp)
        · refine ⟨last ++ hostEntry host key, ?_, host, ?_,
            hMatch⟩
          · rw [if_neg hShort, List.mem_append]
            exact Or.inr (by simp)
          · simpa using hEntry [] (Or.inl rfl)
      · intro other otherKey hOther
        have hNoMatch :
            matchHostname other none host = false := by
          rw [hHost.matchHostname_eq, decide_eq_false hOther]
        rw [checkHost_eq_checkPieces, checkHost_eq_checkPieces,
          Option.getD_some, hContent, hAfter, hBefore,
          checkPieces_append_skip _ (by simp),
          checkPieces_append_skip _ (by simp)]
        · intro piece hPiece pattern known hKnown
          have hPieceBlank : piece = last := by
            rw [lastPieces] at hPiece
            split at hPiece
            · simp at hPiece
            · simpa using hPiece
          rw [hPieceBlank, pieceEntry_blank hBlank] at hKnown
          simp at hKnown
        · intro piece hPiece pattern known hKnown
          have hCases :
              piece = ['\n'] ∨
                ∃ stop,
                  (stop = [] ∨ stop = ['\n']) ∧
                    piece = last ++ hostEntry host key ++
                      stop := by
            split at hPiece
            · exact Or.inr ⟨['\n'], Or.inr rfl,
                by simpa using hPiece⟩
            · simp only [List.mem_cons, List.not_mem_nil,
                or_false] at hPiece
              rcases hPiece with rfl | rfl
              · exact Or.inr ⟨[], Or.inl rfl, by simp⟩
              · exact Or.inl rfl
          rcases hCases with rfl | ⟨stop, hStop, rfl⟩
          · rw [pieceEntry_newline] at hKnown
            simp at hKnown
          · rw [hEntry stop hStop, Option.some.injEq,
              Prod.mk.injEq] at hKnown
            rw [← hKnown.1]
            exact hNoMatch

end Ssh1

------------------------------------------------------------
-- Lines That Join Another One
------------------------------------------------------------

namespace Ssh1

open QuotedText (Text)

/- Where a scan stops does not depend on what is behind. -/
theorem dropWhile_append_stop
    {p : Char → Bool}
    {c : Char}
    (hStop : p c = false)
    (text rest : Text) :
    (text ++ c :: rest).dropWhile p =
        text.dropWhile p ++ c :: rest ∧
      (text ++ c :: rest).takeWhile p = text.takeWhile p := by
  induction text with
  | nil => simp [hStop]
  | cons d text ih =>
      cases hd : p d with
      | false => simp [hd]
      | true => simpa [hd] using ih

/- A letter ends a number. -/
theorem authRsaReadMpInt_append
    (text rest : Text) :
    authRsaReadMpInt (text ++ 'a' :: rest) =
      (authRsaReadMpInt text).map
        fun read => (read.1, read.2 ++ 'a' :: rest) := by
  have hBlank : isBlank 'a' = false := by decide
  have hDigit : Char.isDigit 'a' = false := by decide
  rw [authRsaReadMpInt, authRsaReadMpInt, skipBlanks,
    (dropWhile_append_stop hBlank text rest).1, spanDigits,
    (dropWhile_append_stop hDigit _ rest).1,
    (dropWhile_append_stop hDigit _ rest).2, spanDigits,
    skipBlanks]
  cases (text.dropWhile isBlank).takeWhile Char.isDigit with
  | nil => rfl
  | cons c digits => rfl

/- A key in front of a letter does not depend on the rest. -/
theorem authRsaReadKey_append
    (text rest : Text) :
    authRsaReadKey (text ++ 'a' :: rest) =
      (authRsaReadKey text).map
        fun read => (read.1, read.2 ++ 'a' :: rest) := by
  have hBlank : isBlank 'a' = false := by decide
  have hDigit : Char.isDigit 'a' = false := by decide
  rw [authRsaReadKey, authRsaReadKey, spanDigits, spanDigits,
    skipBlanks, (dropWhile_append_stop hBlank text rest).1,
    (dropWhile_append_stop hDigit _ rest).1,
    (dropWhile_append_stop hDigit _ rest).2, skipBlanks]
  cases (text.dropWhile isBlank).takeWhile Char.isDigit with
  | nil => rfl
  | cons c digits =>
      simp only [authRsaReadMpInt_append, Option.bind_eq_bind]
      cases authRsaReadMpInt
          ((text.dropWhile isBlank).dropWhile
            Char.isDigit) with
      | none => rfl
      | some e =>
          simp only [Option.map_some, Option.bind_some,
            authRsaReadMpInt_append]
          cases authRsaReadMpInt e.2 with
          | none => rfl
          | some n =>
              simp only [Option.map_some, Option.bind_some,
                skipBlanks,
                (dropWhile_append_stop hBlank n.2 rest).1]

/-
  An entry that starts with an unfinished piece: its key is
  that of the piece, or it is read behind the host name.
-/
theorem pieceEntry_append_letter
    (last : Text) :
    (∃ known : Option AuthorizedKey,
      ∀ rest,
        (∀ c ∈ rest, c ≠ Char.ofNat 0) →
          (pieceEntry (last ++ 'a' :: rest)).map Prod.snd =
            known) ∨
      ∀ rest,
        (∀ c ∈ rest, c ≠ Char.ofNat 0) →
          rest.takeWhile isNameChar = [] →
            ∀ pattern known,
              pieceEntry (last ++ 'a' :: rest) =
                  some (pattern, known) →
                ∃ cp, authRsaReadKey rest = some (known, cp) := by
  have hBlank : isBlank 'a' = false := by decide
  have hName : isNameChar 'a' = true := by decide
  have hLetter : 'a' ≠ Char.ofNat 0 := by decide
  by_cases hZero : ∀ c ∈ last, c ≠ Char.ofNat 0
  · have hText :
        ∀ rest,
          (∀ c ∈ rest, c ≠ Char.ofNat 0) →
            skipBlanks (lineText (last ++ 'a' :: rest)) =
              skipBlanks last ++ 'a' :: rest := by
      intro rest hRest
      rw [lineText_eq_self, skipBlanks, skipBlanks,
        (dropWhile_append_stop hBlank last rest).1]
      intro c hMem
      rw [List.mem_append, List.mem_cons] at hMem
      rcases hMem with hMem | rfl | hMem
      · exact hZero c hMem
      · exact hLetter
      · exact hRest c hMem
    have hStop :
        ∀ rest : Text,
          rest.takeWhile isNameChar = [] →
            rest.dropWhile isNameChar = rest := by
      intro rest hRest
      have hSplit :=
        List.takeWhile_append_dropWhile
          (p := isNameChar) (l := rest)
      rw [hRest] at hSplit
      exact hSplit
    generalize hStart : skipBlanks last = start at hText
    by_cases hEmpty :
        start.dropWhile isNameChar = []
    · -- the name goes on with the letter
      refine Or.inr fun rest hRest hEnd pattern known hKnown => ?_
      have hDrop :
          (start ++ 'a' :: rest).dropWhile isNameChar =
            rest := by
        rw [List.dropWhile_append, hEmpty]
        simp [hName, hStop rest hEnd]
      simp only [pieceEntry, hText rest hRest, hDrop] at hKnown
      split at hKnown
      · simp at hKnown
      · cases hKey : authRsaReadKey rest with
        | none => simp [hKey] at hKnown
        | some read =>
            simp only [hKey, Option.map_some,
              Option.some.injEq, Prod.mk.injEq] at hKnown
            exact ⟨read.2, by rw [← hKnown.2]⟩
    · -- the name ends before the letter
      refine Or.inl ⟨if isEmptyOrComment start then none else
        (authRsaReadKey (start.dropWhile isNameChar)).map
          Prod.fst, fun rest hRest => ?_⟩
      have hDrop :
          (start ++ 'a' :: rest).dropWhile isNameChar =
            start.dropWhile isNameChar ++ 'a' :: rest := by
        rw [List.dropWhile_append, if_neg]
        simpa using hEmpty
      have hComment :
          isEmptyOrComment (start ++ 'a' :: rest) =
            isEmptyOrComment start := by
        cases start with
        | nil => simp at hEmpty
        | cons c start => rfl
      simp only [pieceEntry, hText rest hRest, hDrop, hComment,
        authRsaReadKey_append]
      split
      · rfl
      · simp [Function.comp_def]
  · -- the text ends within the unfinished piece
    refine Or.inl ⟨(pieceEntry last).map Prod.snd,
      fun rest _ => ?_⟩
    have hText :
        lineText (last ++ 'a' :: rest) = lineText last := by
      rw [lineText, List.takeWhile_append, if_neg, lineText]
      intro hAll
      apply hZero
      intro c hMem
      have hEq :=
        List.IsPrefix.eq_of_length
          (List.takeWhile_prefix _) hAll
      rw [List.takeWhile_eq_self_iff] at hEq
      simpa using hEq c hMem
    rw [pieceEntry, hText, pieceEntry]

end Ssh1

------------------------------------------------------------
-- Lines That Are Cut
------------------------------------------------------------

namespace Ssh1

open QuotedText (Text)

/- A key whose modulus is a power of ten. -/
def probeKey (bits : UInt32) (exponent : Nat) : HostKey where
  bits := bits
  e := 1
  n := 10 ^ exponent

/- The entry of the host `a` behind its name. -/
def probeTail (bits : UInt32) (exponent : Nat) : Text :=
  ' ' :: (decimalText bits.toNat ++
    ' ' :: (decimalText 1 ++
      ' ' :: decimalText (10 ^ exponent)))

/- The entry of a probe is the letter and a tail. -/
theorem hostEntry_probeKey
    (bits : UInt32)
    (exponent : Nat) :
    hostEntry ['a'] (probeKey bits exponent) =
      'a' :: probeTail bits exponent := by
  rfl

theorem isHostName_a : IsHostName ['a'] where
  nonempty := by simp
  length_le := by simp
  chars := by
    intro c hMem
    rw [List.mem_singleton] at hMem
    subst hMem
    exact Or.inl (by decide)

/- A power of ten has one zero more than the one before. -/
theorem decimalText_ten_pow_succ
    (exponent : Nat) :
    decimalText (10 ^ (exponent + 1)) =
      decimalText (10 ^ exponent) ++ ['0'] := by
  have hPos : 0 < 10 ^ exponent := Nat.pow_pos (by omega)
  have hDigits :=
    Nat.toDigits_append_toDigits (b := 10) (d := 0)
      (by omega) hPos (by omega)
  rw [Nat.add_zero, ← Nat.pow_succ'] at hDigits
  exact hDigits.symm

theorem probeTail_succ
    (bits : UInt32)
    (exponent : Nat) :
    probeTail bits (exponent + 1) =
      probeTail bits exponent ++ ['0'] := by
  simp [probeTail, decimalText_ten_pow_succ]

/- The tail can be made of any length. -/
theorem length_probeTail
    {bits : UInt32}
    (hBits : bits = 1 ∨ bits = 2)
    (exponent : Nat) :
    (probeTail bits exponent).length = exponent + 6 := by
  induction exponent with
  | zero =>
      rcases hBits with rfl | rfl
      · rfl
      · rfl
  | succ exponent ih =>
      rw [probeTail_succ, List.length_append, ih,
        List.length_singleton]

/- The tail is read as the key of the probe. -/
theorem authRsaReadKey_probeTail
    (bits : UInt32)
    (exponent : Nat) :
    authRsaReadKey (probeTail bits exponent) =
      some ((probeKey bits exponent).entry, []) := by
  have hEnd : ([] : Text).takeWhile Char.isDigit = [] := rfl
  have hRead :=
    authRsaReadKey_decimalText bits.toNat 1 (10 ^ exponent)
      hEnd
  rw [List.append_nil,
    Nat.mod_eq_of_lt bits.toNat_lt] at hRead
  exact hRead

/-
  The entry can be cut at any place: the first part does
  not have the key and the second one is no entry.
-/
theorem exists_probe_cut
    {bits : UInt32}
    (hBits : bits = 1 ∨ bits = 2)
    {room : Nat}
    (hRoom : 1 ≤ room) :
    ∃ first second,
      probeTail bits (room - 6) = first ++ second ∧
        first.length + 1 = room ∧
        first.takeWhile isNameChar = [] ∧
        (∀ cp, authRsaReadKey first ≠
          some ((probeKey bits (room - 6)).entry, cp)) ∧
        pieceEntry (second ++ ['\n']) = none := by
  by_cases hLong : 7 ≤ room
  · -- the last digit of the modulus is cut off
    obtain ⟨exponent, rfl⟩ := Nat.exists_eq_add_of_le hLong
    have hExponent : 7 + exponent - 6 = exponent + 1 := by
      omega
    rw [hExponent]
    refine ⟨probeTail bits exponent, ['0'],
      probeTail_succ bits exponent, ?_, rfl, ?_, rfl⟩
    · rw [length_probeTail hBits]
      omega
    · intro cp hRead
      rw [authRsaReadKey_probeTail, Option.some.injEq,
        Prod.mk.injEq, AuthorizedKey.mk.injEq] at hRead
      have hModulus : 10 ^ exponent = 10 ^ (exponent + 1) :=
        hRead.1.2.2
      have hExponents :=
        Nat.pow_right_injective (le_refl 2 |>.trans (by omega))
          hModulus
      omega
  · -- too few numbers are left on both sides
    have hExponent : room - 6 = 0 := by omega
    rw [hExponent]
    refine ⟨(probeTail bits 0).take (room - 1),
      (probeTail bits 0).drop (room - 1),
      (List.take_append_drop _ _).symm, ?_, ?_, ?_, ?_⟩
    · rw [List.length_take, length_probeTail hBits]
      omega
    all_goals
      rcases hBits with rfl | rfl <;> interval_cases room <;>
        first | rfl | (intro cp; exact nofun)

end Ssh1

------------------------------------------------------------
-- When Known Hosts Are Kept
------------------------------------------------------------

namespace Ssh1

open QuotedText (Text)

variable {answers : WriteAnswers}

/- Every file that ends in this piece is kept consistent. -/
def KeepsAllEndingIn
    (answers : WriteAnswers)
    (last : Text) : Prop :=
  ∀ file host key,
    unfinishedPiece (file.getD []) = last →
      IsHostName host →
        LineFits host key →
          KeepsKnownHosts answers file host key

/- A host with an entry is not new. -/
theorem checkPieces_ne_new
    {host : Text}
    {key : AuthorizedKey}
    {endReturn : HostStatus}
    {pieces : List Text}
    (hKnown :
      endReturn ≠ .new ∨
        ∃ piece ∈ pieces, ∃ pattern known,
          pieceEntry piece = some (pattern, known) ∧
            matchHostname host none pattern = true) :
    checkPieces host key endReturn pieces ≠ .new := by
  induction pieces generalizing endReturn with
  | nil =>
      rcases hKnown with hReturn | ⟨piece, hPiece, -⟩
      · exact hReturn
      · simp at hPiece
  | cons line lines ih =>
      rw [checkPieces_cons]
      simp only [List.mem_cons, exists_eq_or_imp] at hKnown
      cases hEntry : pieceEntry line with
      | none =>
          simp only [hEntry, reduceCtorEq, false_and,
            exists_false, false_or] at hKnown
          exact ih hKnown
      | some entry =>
          by_cases hMatch :
              matchHostname host none entry.1 = true
          · by_cases hKey : entry.2 = key
            · simp [hMatch, hKey]
            · simp only [hMatch, hKey, if_true, if_false]
              exact ih (Or.inl (by simp))
          · simp only [hMatch, Bool.false_eq_true, if_false]
            rcases hKnown with
              hReturn | ⟨pattern, known, hEq, hMatch'⟩ | hRest
            · exact ih (Or.inl hReturn)
            · rw [hEntry, Option.some.injEq] at hEq
              rw [hEq] at hMatch
              exact (hMatch hMatch').elim
            · exact ih (Or.inr hRest)

/-
  A character in front of a host name spoils the match, or
  makes other hosts match as well.
-/
theorem exists_match_of_match
    {c : Char}
    (hMatch : matchHostname ['a'] none [c, 'a'] = true) :
    ∃ other,
      other ≠ ['a'] ∧
        matchHostname other none [c, 'a'] = true := by
  by_cases hComma : c = ','
  · subst hComma
    exact ⟨[], by decide, by decide +kernel⟩
  by_cases hStar : c = '*'
  · subst hStar
    exact ⟨['b', 'a'], by decide, by decide +kernel⟩
  exfalso
  by_cases hNegated : c = '!'
  · subst hNegated
    revert hMatch
    decide +kernel
  by_cases hAny : c = '?'
  · subst hAny
    revert hMatch
    decide +kernel
  have hLowerStar : c.toLower ≠ '*' :=
    fun hLower => hStar (eq_of_toLower_eq hLower (by decide))
  have hLowerAny : c.toLower ≠ '?' :=
    fun hLower => hAny (eq_of_toLower_eq hLower (by decide))
  have hNoWild :
      ∀ d ∈ [c.toLower, 'a'], d ≠ '*' ∧ d ≠ '?' := by
    simp [hLowerStar, hLowerAny]
  have hPlain := matchPattern_plain hNoWild ['a']
  have hLetter : Char.toLower 'a' = 'a' := by decide
  simp [matchHostname, matchSubpatterns, hNegated, hComma,
    maxSubpattern, matchHost, hLetter, hPlain] at hMatch

/- The pattern ends at the first character of no name. -/
theorem pieceEntry_pattern
    {piece pattern : Text}
    {known : AuthorizedKey}
    (hEntry : pieceEntry piece = some (pattern, known)) :
    pattern =
      (skipBlanks (lineText piece)).takeWhile isNameChar := by
  simp only [pieceEntry] at hEntry
  split at hEntry
  · simp at hEntry
  · cases hKey :
        authRsaReadKey
          ((skipBlanks (lineText piece)).dropWhile
            isNameChar) with
    | none => simp [hKey] at hEntry
    | some read =>
        rw [hKey, Option.map_some, Option.some.injEq,
          Prod.mk.injEq] at hEntry
        exact hEntry.1.symm

/- One character is in front of the host name. -/
theorem isBlank_of_keepsAll
    (hAnswers : TakesAll answers)
    {c : Char}
    (hNewline : '\n' ∉ [c])
    (hKeeps : KeepsAllEndingIn answers [c]) :
    isBlank c = true := by
  by_contra hBlank
  have hSize : hostLineSize - 1 = 16383 := rfl
  have hRoom : [c].length < hostLineSize - 1 := by
    rw [List.length_singleton]
    omega
  have hLength : (hostEntry ['a'] (probeKey 1 0)).length = 7 := by
    rw [hostEntry_probeKey, List.length_cons,
      length_probeTail (Or.inl rfl)]
  have hFits : LineFits ['a'] (probeKey 1 0) := by
    rw [LineFits]
    omega
  have hKeep :=
    hKeeps (some [c]) ['a'] (probeKey 1 0)
      (unfinishedPiece_of_short hNewline hRoom) isHostName_a
      hFits true _
      (addHost_of_takesAll hAnswers isHostName_a _ _)
  have hLine : '\n' ∉ [c] ++ hostEntry ['a'] (probeKey 1 0) := by
    rw [List.mem_append, not_or]
    exact ⟨hNewline, newline_not_mem_hostEntry isHostName_a _⟩
  have hShort :
      ([c] ++ hostEntry ['a'] (probeKey 1 0)).length <
        hostLineSize - 1 := by
    rw [List.length_append, List.length_singleton]
    omega
  have hAfter :=
    hostPieces_eq_of_finished (finished_line hLine hShort.le)
  rw [if_pos hShort, List.append_assoc] at hAfter
  have hBefore :=
    hostPieces_of_finished Finished.nil hNewline hRoom.le
  rw [List.nil_append, List.nil_append] at hBefore
  have hName : isNameChar c = true := by
    simpa [isNameChar] using hBlank
  have hUnknown : pieceEntry [c] = none := by
    rw [pieceEntry]
    split
    · rfl
    · by_cases hZero : c = Char.ofNat 0
      · simp [lineText, hZero, skipBlanks, authRsaReadKey,
          spanDigits]
      · simp [lineText, hZero, skipBlanks, hBlank, hName,
          authRsaReadKey, spanDigits]
  simp only [checkHost_eq_checkPieces, Option.getD_some,
    hAfter, hBefore] at hKeep
  rcases (checkPieces_eq_ok_iff (by simp)).mp hKeep.1 with
    ⟨piece, hPiece, pattern, hEntry, hMatch⟩
  have hPattern : pattern = [c, 'a'] := by
    rw [List.mem_singleton] at hPiece
    rw [hPiece, hostEntry_probeKey] at hEntry
    rw [pieceEntry_pattern hEntry]
    by_cases hZero : c = Char.ofNat 0
    · simp [pieceEntry, lineText, hZero, skipBlanks,
        isEmptyOrComment] at hEntry
    · have hLetter : 'a' ≠ Char.ofNat 0 := by decide
      have hSpace : ' ' ≠ Char.ofNat 0 := by decide
      have hLetterName : isNameChar 'a' = true := by decide
      have hSpaceName : isNameChar ' ' = false := by decide
      simp [lineText, hZero, hLetter, hSpace, skipBlanks,
        hBlank, hName, hLetterName, hSpaceName, probeTail]
  subst hPattern
  rcases exists_match_of_match hMatch with
    ⟨other, hOther, hOtherMatch⟩
  have hNew := hKeep.2 other (probeKey 1 0) hOther
  have hStill :
      checkPieces other (probeKey 1 0).entry .new
        (lastPieces [c]) = .new := by
    apply checkPieces_skip
    intro piece hPiece pattern known hKnown
    rw [lastPieces, if_neg (by simp), List.mem_singleton]
      at hPiece
    rw [hPiece, hUnknown] at hKnown
    simp at hKnown
  rw [hStill] at hNew
  exact checkPieces_ne_new
    (Or.inr ⟨piece, hPiece, _, _, hEntry, hOtherMatch⟩) hNew

/- More characters leave no room for the longest lines. -/
theorem length_le_one_of_keepsAll
    (hAnswers : TakesAll answers)
    {last : Text}
    (hLast : '\n' ∉ last)
    (hRoom : last.length < hostLineSize - 1)
    (hKeeps : KeepsAllEndingIn answers last) :
    last.length ≤ 1 := by
  by_contra hLong
  obtain ⟨room, hSum⟩ :=
    Nat.exists_eq_add_of_le hRoom.le
  have hSize : hostLineSize - 1 = 16383 := rfl
  have hPos : 1 ≤ room := by omega
  have hUnfinished := unfinishedPiece_of_short hLast hRoom
  -- the pieces after the entry of a probe
  have hEntries :
      ∀ bits,
        bits = 1 ∨ bits = 2 →
          ∃ first pattern,
            (∀ c ∈ first, c ≠ Char.ofNat 0) ∧
              first.takeWhile isNameChar = [] ∧
              (∀ cp, authRsaReadKey first ≠
                some ((probeKey bits (room - 6)).entry,
                  cp)) ∧
              pieceEntry (last ++ 'a' :: first) =
                some (pattern,
                  (probeKey bits (room - 6)).entry) := by
    intro bits hBits
    rcases exists_probe_cut hBits hPos with
      ⟨first, second, hTail, hLength, hEnd, hCut, hSecond⟩
    have hEntry :
        hostEntry ['a'] (probeKey bits (room - 6)) =
          'a' :: (first ++ second) := by
      rw [hostEntry_probeKey, hTail]
    have hTailLength := length_probeTail hBits (room - 6)
    rw [hTail, List.length_append] at hTailLength
    have hFits : LineFits ['a'] (probeKey bits (room - 6)) := by
      rw [LineFits, hEntry, List.length_cons,
        List.length_append]
      omega
    have hNewline :=
      newline_not_mem_hostEntry isHostName_a
        (probeKey bits (room - 6))
    rw [hEntry, List.mem_cons, List.mem_append, not_or, not_or]
      at hNewline
    have hZero :
        ∀ c ∈ first, c ≠ Char.ofNat 0 := by
      intro c hMem
      have hEntryMem :
          c ∈ hostEntry ['a'] (probeKey bits (room - 6)) := by
        rw [hEntry]
        simp [hMem]
      exact ne_zero_of_mem_hostEntry isHostName_a hEntryMem
    have hFull :
        Finished (hostLineSize - 1)
          [last ++ 'a' :: first, second ++ ['\n']]
          (last ++ 'a' :: first ++ (second ++ '\n' :: [])) := by
      refine Finished.full ?_ ?_
        (Finished.line hNewline.2.2 ?_ Finished.nil)
      · simp only [List.mem_append, List.mem_cons, not_or]
        exact ⟨hLast, hNewline.1, hNewline.2.1⟩
      · simp only [List.length_append, List.length_cons]
        omega
      · omega
    have hAdded :=
      addHost_of_takesAll hAnswers isHostName_a
        (probeKey bits (room - 6)) (some last)
    have hContent :
        last ++ (hostEntry ['a'] (probeKey bits (room - 6)) ++
            ['\n']) =
          last ++ 'a' :: first ++ (second ++ '\n' :: []) := by
      rw [hEntry]
      simp
    rw [Option.getD_some, hContent] at hAdded
    have hKnown :=
      (hKeeps (some last) ['a'] _ hUnfinished isHostName_a hFits
        true _ hAdded).1
    rw [checkHost_eq_checkPieces, Option.getD_some,
      hostPieces_eq_of_finished hFull,
      checkPieces_eq_ok_iff (by simp)] at hKnown
    rcases hKnown with ⟨piece, hPiece, pattern, hPattern, -⟩
    simp only [List.mem_cons, List.not_mem_nil, or_false]
      at hPiece
    rcases hPiece with rfl | rfl
    · exact ⟨first, pattern, hZero, hEnd, hCut, hPattern⟩
    · rw [hSecond] at hPattern
      simp at hPattern
  rcases hEntries 1 (Or.inl rfl) with
    ⟨first, pattern, hZero, hEnd, hCut, hEntry⟩
  rcases hEntries 2 (Or.inr rfl) with
    ⟨other, otherPattern, hOtherZero, -, -, hOther⟩
  rcases pieceEntry_append_letter last with
    ⟨known, hKnown⟩ | hBehind
  · have hOne := hKnown first hZero
    have hTwo := hKnown other hOtherZero
    rw [hEntry] at hOne
    rw [hOther, ← hOne] at hTwo
    simp [HostKey.entry, probeKey] at hTwo
  · rcases hBehind first hZero hEnd pattern _ hEntry with
      ⟨cp, hRead⟩
    exact hCut cp hRead

/-
  If no write fails, every host can be added to the files
  that end in this piece exactly if it is empty or a single
  blank: the new line starts in the middle of a line.
-/
theorem addHost_keepsKnownHosts_iff
    (answers : WriteAnswers)
    (hAnswers : TakesAll answers)
    (last : Text)
    (hLast : '\n' ∉ last)
    (hRoom : last.length < hostLineSize - 1) :
    KeepsAllEndingIn answers last ↔
      last = [] ∨ ∃ c, isBlank c = true ∧ last = [c] := by
  constructor
  · intro hKeeps
    have hOne :=
      length_le_one_of_keepsAll hAnswers hLast hRoom hKeeps
    cases last with
    | nil => exact Or.inl rfl
    | cons c rest =>
        have hRest : rest = [] := by
          rw [List.length_cons] at hOne
          exact List.length_eq_zero_iff.mp (by omega)
        subst hRest
        exact Or.inr ⟨c,
          isBlank_of_keepsAll hAnswers hLast hKeeps, rfl⟩
  · intro hEnd file host key hUnfinished hHost hFits
    rcases hEnd with rfl | ⟨c, hBlank, rfl⟩
    · exact keepsKnownHosts_of_blank hAnswers
        (by simp [hUnfinished]) (by simp [hUnfinished])
        hHost hFits
    · exact keepsKnownHosts_of_blank hAnswers
        (by simp [hUnfinished, hBlank])
        (by simp [hUnfinished]) hHost hFits

/- A comment without a newline takes the host in. -/
theorem addHost_keepsKnownHosts_iff_comment :
    ¬ KeepsAllEndingIn (fun _ buf => buf.length) ['#'] := by
  rw [addHost_keepsKnownHosts_iff (fun _ buf => buf.length)
    (fun _ buf => le_rfl) ['#'] (by simp) (by decide)]
  rintro (hNil | ⟨c, hBlank, hEq⟩)
  · simp at hNil
  · rw [List.cons.injEq] at hEq
    rw [← hEq.1] at hBlank
    simp [isBlank] at hBlank

/-
  A host behind a comment that lacks its newline, and one
  whose modulus was not written: adding reports success.
-/
theorem addHost_lost :
    let host := "a".toList
    let key : HostKey := ⟨8, 3, 187⟩
    let takesAll : WriteAnswers := fun _ buf => buf.length
    let fails : WriteAnswers :=
      fun call buf => if call = 3 then 0 else buf.length
    IsHostName host ∧ LineFits host key ∧
      addHostToHostfile true takesAll (some "#".toList)
          host key =
        (true, some "#a 8 3 187\n".toList) ∧
      checkHostInHostfile (some "#a 8 3 187\n".toList)
          host key = .new ∧
      addHostToHostfile true fails none host key =
        (true, some "a 8 3 \n".toList) ∧
      checkHostInHostfile (some "a 8 3 \n".toList)
          host key = .new := by
  intro host key takesAll fails
  refine ⟨isHostName_a, ?_, by decide, by decide +kernel,
    by decide, by decide +kernel⟩
  rw [LineFits]
  decide

end Ssh1
