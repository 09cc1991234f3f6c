import Mathlib.Data.List.Infix

/-
  Texts with quoted parts, in which a backslash makes a
  quote an ordinary character.

  One scanner copies a quoted part, another one skips to the
  first blank outside of the quotes. They agree on where a
  quoted part ends.

  Main declarations:
    * `QuotedText.Quoted`
    * `QuotedText.copy`, `QuotedText.skip`
    * `QuotedText.exists_quoted_of_copy`
    * `QuotedText.skip_quoted_append`
    * `QuotedText.skip_eq_nil_of_copy`
-/

------------------------------------------------------------
-- Scanners
------------------------------------------------------------

namespace QuotedText

/- A text as the list of its characters. -/
abbrev Text := List Char

/- What a quoted text stands between. -/
def quote : Char := '"'

/- What a quote within the text is escaped by. -/
def backslash : Char := '\\'

/-
  Copies the text up to the closing quote. What follows the
  quote is missing if there is none.
-/
def copy : Text → Text × Option Text
| [] => ([], none)
| [c] => if c = quote then ([], some []) else ([c], none)
| c :: d :: rest =>
    if c = quote then
      ([], some (d :: rest))
    else if c = backslash ∧ d = quote then
      (quote :: (copy rest).1, (copy rest).2)
    else
      (c :: (copy (d :: rest)).1, (copy (d :: rest)).2)

/- Skips to the first blank outside of the quotes. -/
def skip (isBlank : Char → Bool) : Bool → Text → Text
| _, [] => []
| quoted, [c] =>
    if !quoted && isBlank c then [c] else []
| quoted, c :: d :: rest =>
    if !quoted && isBlank c then
      c :: d :: rest
    else if c = backslash ∧ d = quote then
      skip isBlank quoted rest
    else if c = quote then
      skip isBlank (!quoted) (d :: rest)
    else
      skip isBlank quoted (d :: rest)

/-
  The first text is the inside of a quoted part together
  with its closing quote, the second one what it means.
-/
inductive Quoted : Text → Text → Prop where
  | close : Quoted [quote] []
  | escaped
      {raw text : Text}
      (hQuoted : Quoted raw text) :
      Quoted (backslash :: quote :: raw) (quote :: text)
  | plain
      {raw text : Text}
      {c : Char}
      (hChar : c ≠ quote)
      (hEscape : c = backslash → raw.head? ≠ some quote)
      (hQuoted : Quoted raw text) :
      Quoted (c :: raw) (c :: text)

end QuotedText

------------------------------------------------------------
-- Agreement of the Scanners
------------------------------------------------------------

namespace QuotedText

variable {isBlank : Char → Bool}

theorem backslash_ne_quote : backslash ≠ quote := by
  decide

/- A quoted part has at least its closing quote. -/
theorem Quoted.ne_nil
    {raw text : Text}
    (hQuoted : Quoted raw text) :
    raw ≠ [] := by
  cases hQuoted <;> simp

@[simp] theorem skip_nil
    (quoted : Bool) :
    skip isBlank quoted [] = [] := by
  cases quoted <;> rfl

/- A closing quote ends the quoted part for both. -/
theorem skip_quote
    (quoted : Bool)
    (hBlank : isBlank quote = false)
    (rest : Text) :
    skip isBlank quoted (quote :: rest) =
      skip isBlank (!quoted) rest := by
  cases rest with
  | nil => simp [skip, hBlank]
  | cons d rest =>
      simp [skip, hBlank, Ne.symm backslash_ne_quote]

theorem skip_escaped
    (quoted : Bool)
    (hBlank : isBlank backslash = false)
    (rest : Text) :
    skip isBlank quoted (backslash :: quote :: rest) =
      skip isBlank quoted rest := by
  simp [skip, hBlank]

/- A character without a meaning of its own is skipped. -/
theorem skip_plain
    {quoted : Bool}
    {c : Char}
    {rest : Text}
    (hChar : c ≠ quote)
    (hBlank : quoted = false → isBlank c = false)
    (hEscape : c = backslash → rest.head? ≠ some quote) :
    skip isBlank quoted (c :: rest) =
      skip isBlank quoted rest := by
  have hStay : (!quoted && isBlank c) = false := by
    cases quoted with
    | false => simpa using hBlank rfl
    | true => rfl
  cases rest with
  | nil => simp [skip, hStay]
  | cons d rest =>
      have hNotEscaped : ¬ (c = backslash ∧ d = quote) := by
        rintro ⟨hc, hd⟩
        exact hEscape hc (by simp [hd])
      simp only [skip, hStay, Bool.false_eq_true, if_false,
        if_neg hNotEscaped, if_neg hChar]

/- What is left is the end of the text. -/
theorem skip_suffix
    (quoted : Bool)
    (text : Text) :
    skip isBlank quoted text <:+ text := by
  induction quoted, text using skip.induct isBlank with
  | case1 quoted =>
      rw [skip_nil]
  | case2 quoted c hStop =>
      rw [skip, if_pos hStop]
  | case3 quoted c hGo =>
      rw [skip, if_neg hGo]
      exact List.nil_suffix
  | case4 quoted c d rest hStop =>
      rw [skip, if_pos hStop]
  | case5 quoted c d rest hGo hEscaped ih =>
      rw [skip, if_neg hGo, if_pos hEscaped]
      exact ih.trans
        ((List.suffix_cons d rest).trans
          (List.suffix_cons c _))
  | case6 quoted d rest hGo hEscaped ih =>
      rw [skip, if_neg hGo, if_neg hEscaped, if_pos rfl]
      exact ih.trans (List.suffix_cons quote _)
  | case7 quoted c d rest hGo hEscaped hQuote ih =>
      rw [skip, if_neg hGo, if_neg hEscaped, if_neg hQuote]
      exact ih.trans (List.suffix_cons c _)

/- The first character is passed unless it is the blank. -/
theorem skip_suffix_tail
    {quoted : Bool}
    {c : Char}
    (hGo : (!quoted && isBlank c) = false)
    (rest : Text) :
    skip isBlank quoted (c :: rest) <:+ rest := by
  cases rest with
  | nil =>
      rw [skip, hGo]
      exact List.nil_suffix
  | cons d rest =>
      rw [skip, hGo, if_neg Bool.false_ne_true]
      split_ifs
      · exact (skip_suffix quoted rest).trans
          (List.suffix_cons d rest)
      · exact skip_suffix _ _
      · exact skip_suffix _ _

/- The text that was copied is the meaning of the part. -/
theorem exists_quoted_of_copy
    {s text rest : Text}
    (hCopy : copy s = (text, some rest)) :
    ∃ raw, s = raw ++ rest ∧ Quoted raw text := by
  induction s using copy.induct generalizing text with
  | case1 => simp [copy] at hCopy
  | case2 =>
      simp only [copy, if_true, Prod.mk.injEq,
        Option.some.injEq] at hCopy
      rcases hCopy with
        ⟨hText, hRest⟩
      exact ⟨[quote], by simp [← hRest], hText ▸ .close⟩
  | case3 c hChar => simp [copy, hChar] at hCopy
  | case4 d tail =>
      simp only [copy, if_true, Prod.mk.injEq,
        Option.some.injEq] at hCopy
      rcases hCopy with
        ⟨hText, hRest⟩
      exact ⟨[quote], by simp [← hRest], hText ▸ .close⟩
  | case5 c d tail hChar hEscaped ih =>
      simp only [copy, if_neg hChar, if_pos hEscaped,
        Prod.mk.injEq] at hCopy
      rcases hCopy with
        ⟨hText, hRest⟩
      rcases ih (Prod.ext rfl hRest) with
        ⟨raw, hRaw, hQuoted⟩
      refine ⟨backslash :: quote :: raw, ?_, ?_⟩
      · rw [hEscaped.1, hEscaped.2, hRaw]
        rfl
      · exact hText ▸ .escaped hQuoted
  | case6 c d tail hChar hNotEscaped ih =>
      simp only [copy, if_neg hChar, if_neg hNotEscaped,
        Prod.mk.injEq] at hCopy
      rcases hCopy with
        ⟨hText, hRest⟩
      rcases ih (Prod.ext rfl hRest) with
        ⟨raw, hRaw, hQuoted⟩
      refine ⟨c :: raw, by rw [hRaw]; rfl, ?_⟩
      rw [← hText]
      refine .plain hChar ?_ hQuoted
      intro hc hHead
      -- the part starts with the next character
      rcases List.exists_cons_of_ne_nil hQuoted.ne_nil with
        ⟨x, raw', hCons⟩
      rw [hCons] at hRaw hHead
      have hNext : d = x := by
        simpa using (List.cons.inj hRaw).1
      have hHead' : x = quote := by simpa using hHead
      exact hNotEscaped ⟨hc, hNext.trans hHead'⟩

/- A quoted part is skipped up to its closing quote. -/
theorem skip_quoted_append
    {raw text : Text}
    (hQuote : isBlank quote = false)
    (hBackslash : isBlank backslash = false)
    (hQuoted : Quoted raw text)
    (rest : Text) :
    skip isBlank true (raw ++ rest) =
      skip isBlank false rest := by
  induction hQuoted with
  | close => exact skip_quote true hQuote rest
  | escaped hQuoted ih =>
      rw [List.cons_append, List.cons_append,
        skip_escaped true hBackslash, ih]
  | @plain raw text c hChar hEscape hQuoted ih =>
      rw [List.cons_append, skip_plain hChar (by simp), ih]
      intro hc
      rcases List.exists_cons_of_ne_nil hQuoted.ne_nil with
        ⟨x, raw', hCons⟩
      simpa [hCons] using hEscape hc

/- Without a closing quote everything is skipped. -/
theorem skip_eq_nil_of_copy
    {s text : Text}
    (hBackslash : isBlank backslash = false)
    (hCopy : copy s = (text, none)) :
    skip isBlank true s = [] := by
  induction s using copy.induct generalizing text with
  | case1 => rfl
  | case2 => simp [copy] at hCopy
  | case3 c hChar => simp [skip]
  | case4 d tail => simp [copy] at hCopy
  | case5 c d tail hChar hEscaped ih =>
      simp only [copy, if_neg hChar, if_pos hEscaped,
        Prod.mk.injEq] at hCopy
      rw [hEscaped.1, hEscaped.2,
        skip_escaped true hBackslash]
      exact ih (Prod.ext rfl hCopy.2)
  | case6 c d tail hChar hNotEscaped ih =>
      simp only [copy, if_neg hChar, if_neg hNotEscaped,
        Prod.mk.injEq] at hCopy
      rw [skip_plain hChar (by simp)]
      · exact ih (Prod.ext rfl hCopy.2)
      · intro hc hHead
        exact hNotEscaped ⟨hc, by simpa using hHead⟩

/- Characters without a meaning of their own. -/
theorem skip_word_append
    {word : Text}
    (hWord : ∀ c ∈ word,
      c ≠ quote ∧ c ≠ backslash ∧ isBlank c = false)
    (rest : Text) :
    skip isBlank false (word ++ rest) =
      skip isBlank false rest := by
  induction word with
  | nil => rfl
  | cons c word ih =>
      rcases hWord c (by simp) with
        ⟨hQuote, hBackslash, hBlank⟩
      rw [List.cons_append,
        skip_plain hQuote (fun _ => hBlank)
          (fun hc => (hBackslash hc).elim)]
      exact ih fun d hd => hWord d (by simp [hd])

end QuotedText
