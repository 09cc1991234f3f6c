import Ssh1.Auth.Patterns
import Ssh1.Lib.Glob
import Mathlib.Data.List.TakeWhile

/-
  What the patterns for hosts and addresses mean.

  A pattern matches what its wildcards say, except that two
  asterisks at its end want at least one character. A list of
  patterns is judged by its members, in any order.

  Main declarations:
    * `matchPattern_correct_iff`
    * `subpatterns`, `matchHostname_iff`
    * `matchHostname_members`
-/

------------------------------------------------------------
-- Wildcards
------------------------------------------------------------

namespace Ssh1

open QuotedText (Text)

/- What a pattern stands for. -/
def PatternMatches (pattern s : Text) : Prop :=
  Glob.Matches '*' '?' pattern s

/- The pattern ends in two asterisks, or in more. -/
def EndsInTwoStars (pattern : Text) : Prop :=
  ['*', '*'] <:+ pattern

instance (pattern : Text) : Decidable (EndsInTwoStars pattern) :=
  inferInstanceAs (Decidable (['*', '*'] <:+ pattern))

variable {s pattern : Text}

theorem star_ne_questionMark : '*' ≠ '?' := by decide

/- Some tail of a string with a property. -/
theorem any_tails_iff
    (s : Text)
    (p : Text → Bool) :
    s.tails.any p = true ↔ ∃ t, t <:+ s ∧ p t = true := by
  simp only [List.any_eq_true, List.mem_tails]

/- A pattern that starts with no star takes one character. -/
theorem matchPattern_letter_iff
    {c : Char}
    (hStar : c ≠ '*') :
    matchPattern s (c :: pattern) = true ↔
      ∃ x t, s = x :: t ∧ (c = '?' ∨ c = x) ∧
        matchPattern t pattern = true := by
  rw [matchPattern.eq_def]
  simp only [if_neg hStar]
  cases s with
  | nil => simp
  | cons x t => simp

/- Behind an asterisk, a second one wants a character. -/
theorem matchPattern_star_iff :
    matchPattern s ('*' :: pattern) = true ↔
      ∃ t, t <:+ s ∧ (pattern.head? = some '*' → t ≠ []) ∧
        matchPattern t pattern = true := by
  rw [matchPattern.eq_def]
  simp only [if_true]
  cases pattern with
  | nil =>
      simp only [List.head?_nil, reduceCtorEq, false_imp_iff,
        true_and, true_iff]
      exact ⟨[], List.nil_suffix, rfl⟩
  | cons d rest =>
      simp only [List.head?_cons, Option.some.injEq]
      by_cases hLetter : d ≠ '?' ∧ d ≠ '*'
      · rw [if_pos hLetter, any_tails_iff]
        refine exists_congr fun t => and_congr_right fun _ => ?_
        rw [matchPattern_letter_iff hLetter.2]
        cases t with
        | nil => simp
        | cons x t =>
            have hNotAny := hLetter.1
            have hNotStar := hLetter.2
            simp only [Bool.and_eq_true, decide_eq_true_eq,
              List.cons.injEq]
            grind
      · rw [if_neg hLetter, any_tails_iff]
        refine exists_congr fun t => and_congr_right fun _ => ?_
        cases t with
        | nil =>
            by_cases hStar : d = '*'
            · simp [hStar]
            · have hAny : d = '?' := by
                by_contra hNot
                exact hLetter ⟨hNot, hStar⟩
              rw [matchPattern_letter_iff hStar]
              simp
        | cons x t => simp

theorem not_endsInTwoStars_nil : ¬ EndsInTwoStars [] := by
  decide

/- The last two characters are behind the first. -/
theorem endsInTwoStars_letter_iff
    {c : Char}
    (hStar : c ≠ '*') :
    EndsInTwoStars (c :: pattern) ↔ EndsInTwoStars pattern := by
  rw [EndsInTwoStars, List.suffix_cons_iff]
  constructor
  · rintro (hSame | hRest)
    · exact absurd (List.cons.inj hSame).1.symm hStar
    · exact hRest
  · exact Or.inr

theorem endsInTwoStars_star_iff :
    EndsInTwoStars ('*' :: pattern) ↔
      pattern = ['*'] ∨ EndsInTwoStars pattern := by
  rw [EndsInTwoStars, List.suffix_cons_iff]
  constructor
  · rintro (hSame | hRest)
    · exact Or.inl (List.cons.inj hSame).2.symm
    · exact Or.inr hRest
  · rintro (hOne | hRest)
    · exact Or.inl (by rw [hOne])
    · exact Or.inr hRest

/- Two asterisks and more, and nothing else. -/
theorem endsInTwoStars_of_all_star
    (hAll : ∀ c ∈ pattern, c = '*')
    (hLength : 2 ≤ pattern.length) :
    EndsInTwoStars pattern := by
  rw [List.eq_replicate_of_mem hAll]
  refine ⟨List.replicate (pattern.length - 2) '*', ?_⟩
  have hTwo : ['*', '*'] = List.replicate 2 '*' := rfl
  rw [hTwo, List.replicate_append_replicate,
    Nat.sub_add_cancel hLength]

/- The tails of a string that a last character follows. -/
theorem exists_suffix_dropLast_iff
    {p : Text → Prop} :
    (∃ t, t <:+ s ∧ t ≠ [] ∧ p t.dropLast) ↔
      s ≠ [] ∧ ∃ t, t <:+ s.dropLast ∧ p t := by
  constructor
  · rintro ⟨t, ⟨skipped, rfl⟩, hSome, hTail⟩
    refine ⟨by simp [hSome], t.dropLast, ?_, hTail⟩
    rw [List.dropLast_append_of_ne_nil hSome]
    exact List.suffix_append skipped _
  · rintro ⟨hSome, t, ⟨skipped, hEq⟩, hTail⟩
    refine ⟨t ++ [s.getLast hSome], ?_, by simp, ?_⟩
    · refine ⟨skipped, ?_⟩
      rw [← List.append_assoc, hEq,
        List.dropLast_append_getLast]
    · rw [List.dropLast_concat]
      exact hTail

/- What the code accepts. -/
def AcceptsText (pattern s : Text) : Prop :=
  PatternMatches pattern s ∧
    (EndsInTwoStars pattern →
      s ≠ [] ∧ PatternMatches pattern s.dropLast)

/- A string that is longer than a match, at its end. -/
theorem patternMatches_of_dropLast
    (hEnds : EndsInTwoStars pattern)
    (hMatches : PatternMatches pattern s.dropLast) :
    PatternMatches pattern s := by
  rcases hEnds with ⟨front, rfl⟩
  have hShape : front ++ ['*', '*'] = front ++ ['*'] ++ ['*'] := by
    simp
  rcases List.eq_nil_or_concat s with rfl | ⟨s, last, rfl⟩
  · exact hMatches
  · rw [List.concat_eq_append, List.dropLast_concat] at hMatches
    rw [List.concat_eq_append]
    rw [hShape] at hMatches ⊢
    exact hMatches.append_of_star star_ne_questionMark [last]

/- Behind an asterisk that is followed by another pattern. -/
theorem acceptsText_star_iff :
    AcceptsText ('*' :: pattern) s ↔
      ∃ t, t <:+ s ∧ (pattern.head? = some '*' → t ≠ []) ∧
        AcceptsText pattern t := by
  have hStars :
      ∀ u, PatternMatches ('*' :: pattern) u ↔
        ∃ t, t <:+ u ∧ PatternMatches pattern t :=
    fun u => Glob.matches_star_iff star_ne_questionMark
  rw [AcceptsText, hStars, hStars, endsInTwoStars_star_iff]
  by_cases hEnds : EndsInTwoStars pattern
  · constructor
    · rintro ⟨-, hLast⟩
      rcases exists_suffix_dropLast_iff.mpr
          (hLast (Or.inr hEnds)) with
        ⟨t, hSuffix, hSome, hTail⟩
      exact ⟨t, hSuffix, fun _ => hSome,
        patternMatches_of_dropLast hEnds hTail,
        fun _ => ⟨hSome, hTail⟩⟩
    · rintro ⟨t, hSuffix, -, hMatches, hLast⟩
      rcases hLast hEnds with ⟨hSome, hTail⟩
      exact ⟨⟨t, hSuffix, hMatches⟩, fun _ =>
        exists_suffix_dropLast_iff.mp
          ⟨t, hSuffix, hSome, hTail⟩⟩
  · by_cases hOne : pattern = ['*']
    · have hAll : ∀ u, PatternMatches pattern u := by
        intro u
        rw [hOne, PatternMatches,
          Glob.matches_star_iff star_ne_questionMark]
        exact ⟨[], List.nil_suffix, .nil⟩
      constructor
      · rintro ⟨-, hLast⟩
        exact ⟨s, List.suffix_refl s,
          fun _ => (hLast (Or.inl hOne)).1, hAll s,
          fun hTwo => absurd hTwo hEnds⟩
      · rintro ⟨t, hSuffix, hHead, -⟩
        refine ⟨⟨t, hSuffix, hAll t⟩, fun _ => ⟨?_, [],
          List.nil_suffix, hAll []⟩⟩
        rintro rfl
        exact hHead (by rw [hOne]; rfl)
          (List.suffix_nil.mp hSuffix)
    · constructor
      · rintro ⟨⟨t, hSuffix, hMatches⟩, -⟩
        refine ⟨t, hSuffix, ?_, hMatches,
          fun hTwo => absurd hTwo hEnds⟩
        rintro hHead rfl
        have hStars :=
          (Glob.matches_nil_iff_all_star
            star_ne_questionMark).mp hMatches
        refine hEnds (endsInTwoStars_of_all_star hStars ?_)
        rcases pattern with _ | ⟨c, _ | ⟨d, pattern⟩⟩
        · cases hHead
        · exact absurd (by rw [hStars c (by simp)]) hOne
        · simp
      · rintro ⟨t, hSuffix, -, hMatches, -⟩
        exact ⟨⟨t, hSuffix, hMatches⟩, fun hEither =>
          absurd hEither (not_or.mpr ⟨hOne, hEnds⟩)⟩

/- The source matches what the relation accepts. -/
theorem matchPattern_iff_acceptsText :
    matchPattern s pattern = true ↔ AcceptsText pattern s := by
  induction pattern generalizing s with
  | nil =>
      rw [matchPattern, AcceptsText, PatternMatches,
        Glob.matches_empty_iff, List.isEmpty_iff]
      simp [not_endsInTwoStars_nil]
  | cons c pattern ih =>
      by_cases hStar : c = '*'
      · rw [hStar, matchPattern_star_iff, acceptsText_star_iff]
        simp only [ih]
      · rw [matchPattern_letter_iff hStar, AcceptsText,
          PatternMatches, PatternMatches,
          Glob.matches_letter_iff hStar,
          Glob.matches_letter_iff hStar,
          endsInTwoStars_letter_iff hStar]
        simp only [ih]
        constructor
        · rintro ⟨x, t, rfl, hChar, hMatches, hLast⟩
          refine ⟨⟨x, t, rfl, hChar, hMatches⟩, ?_⟩
          intro hEnds
          rcases hLast hEnds with ⟨hSome, hTail⟩
          exact ⟨List.cons_ne_nil x t, x, t.dropLast,
            List.dropLast_cons_of_ne_nil hSome, hChar, hTail⟩
        · rintro ⟨⟨x, t, rfl, hChar, hMatches⟩, hLast⟩
          refine ⟨x, t, rfl, hChar, hMatches, ?_⟩
          intro hEnds
          rcases hLast hEnds with ⟨-, y, u, hDrop, -, hTail⟩
          cases t with
          | nil => cases hDrop
          | cons z t =>
              cases hDrop
              exact ⟨List.cons_ne_nil z t, hTail⟩

/-
  The code is right unless the pattern ends in two asterisks
  and the string, but not the string without its last
  character, is one that the pattern stands for.
-/
theorem matchPattern_correct_iff
    (s pattern : Text) :
    (matchPattern s pattern = true ↔
        PatternMatches pattern s) ↔
      (EndsInTwoStars pattern → PatternMatches pattern s →
        s ≠ [] ∧ PatternMatches pattern s.dropLast) := by
  rw [matchPattern_iff_acceptsText, AcceptsText]
  constructor
  · intro hCorrect hEnds hMatches
    exact (hCorrect.mpr hMatches).2 hEnds
  · intro hLast
    exact ⟨fun hAccepts => hAccepts.1,
      fun hMatches => ⟨hMatches, fun hEnds =>
        hLast hEnds hMatches⟩⟩

/- Two asterisks stand for the empty string, too. -/
theorem matchPattern_not_correct :
    ¬ (matchPattern [] "**".toList = true ↔
      PatternMatches "**".toList []) := by
  intro hCorrect
  have hMatches : PatternMatches "**".toList [] :=
    .star [] (.star [] .nil)
  have hCode := hCorrect.mpr hMatches
  revert hCode
  decide

end Ssh1

------------------------------------------------------------
-- Subpatterns
------------------------------------------------------------

namespace Ssh1

open QuotedText (Text)

/-
  What stands between the commas. Behind the last comma
  there is a subpattern only if there is anything.
-/
def subpatterns (pattern : Text) : List Text :=
  let subs := pattern.splitOn ','
  if subs.getLast? = some [] then subs.dropLast else subs

/- The subpattern starts with an exclamation mark. -/
def isNegated (sub : Text) : Bool :=
  sub.head? = some '!'

/- The subpattern without its mark. -/
def subpatternText (sub : Text) : Text :=
  if isNegated sub then sub.tail else sub

/- The subpattern fits into its buffer. -/
def IsShort (sub : Text) : Prop :=
  (subpatternText sub).length < maxSubpattern

/- The name or the address matches what the subpattern says,
  in lower case and without its exclamation mark. -/
def AcceptsHost
    (host : Text)
    (ip : Option Text)
    (sub : Text) : Prop :=
  matchHost host ip ((subpatternText sub).map Char.toLower) =
    true

/- A subpattern accepts the host, and no negated one does. -/
structure Judged
    (host : Text)
    (ip : Option Text)
    (subs : List Text) : Prop where
  positive :
    ∃ sub ∈ subs, isNegated sub = false ∧
      AcceptsHost host ip sub
  negative :
    ∀ sub ∈ subs, isNegated sub = true →
      ¬ AcceptsHost host ip sub

instance (sub : Text) : Decidable (IsShort sub) :=
  inferInstanceAs (Decidable (_ < _))

instance
    (host : Text)
    (ip : Option Text)
    (sub : Text) :
    Decidable (AcceptsHost host ip sub) :=
  inferInstanceAs (Decidable (_ = _))

variable {pattern : Text}

theorem subpatterns_nil : subpatterns [] = [] := rfl

/- The characters up to the first comma. -/
def isSubpatternChar (c : Char) : Bool :=
  c ≠ ','

/- What follows begins with a comma, if it is anything. -/
theorem rest_eq_comma_cons
    {d : Char}
    {rest : Text}
    (hRest :
      pattern.dropWhile isSubpatternChar = d :: rest) :
    d = ',' := by
  have hHead :=
    List.head?_dropWhile_not isSubpatternChar pattern
  rw [hRest] at hHead
  simpa [isSubpatternChar] using hHead

/- The first subpattern, and those behind its comma. -/
theorem subpatterns_eq_cons
    (hSome : pattern ≠ []) :
    subpatterns pattern =
      pattern.takeWhile isSubpatternChar ::
        subpatterns
          (pattern.dropWhile isSubpatternChar).tail := by
  have hParts :=
    List.takeWhile_append_dropWhile
      (p := isSubpatternChar) (l := pattern)
  have hFirst : ',' ∉ pattern.takeWhile isSubpatternChar := by
    intro hComma
    have hChar := List.mem_takeWhile_imp hComma
    simp [isSubpatternChar] at hChar
  generalize hTake :
    pattern.takeWhile isSubpatternChar = first at *
  cases hDrop : pattern.dropWhile isSubpatternChar with
  | nil =>
      rw [hDrop, List.append_nil] at hParts
      rw [List.tail_nil, subpatterns_nil, subpatterns,
        ← hParts, List.splitOn_eq_singleton hFirst]
      simp only [List.getLast?_singleton, Option.some.injEq]
      rw [if_neg]
      rw [hParts]
      exact hSome
  | cons c rest =>
      rw [hDrop, rest_eq_comma_cons hDrop] at hParts
      rw [List.tail_cons, subpatterns, subpatterns, ← hParts,
        List.splitOn_append_cons_self_of_not_mem hFirst]
      have hRest := List.splitOn_ne_nil ',' rest
      rw [List.getLast?_cons_of_ne_nil hRest]
      split
      · rw [List.dropLast_cons_of_ne_nil hRest]
      · rfl

end Ssh1

------------------------------------------------------------
-- The Scanner
------------------------------------------------------------

namespace Ssh1

open QuotedText (Text)

variable {host : Text}
variable {ip : Option Text}
variable {pattern : Text}

/- What the loop does with its next subpattern. -/
def judgeSubpattern
    (host : Text)
    (ip : Option Text)
    (sub : Text)
    (gotPositive : Bool)
    (go : Bool → Bool) : Bool :=
  if IsShort sub then
    if AcceptsHost host ip sub then
      if isNegated sub then false else go true
    else
      go gotPositive
  else
    false

/- The subpattern as it is copied, up to its size. -/
theorem copied_subpattern
    (pattern : Text) :
    (pattern.take maxSubpattern).takeWhile (· ≠ ',') =
      (pattern.takeWhile isSubpatternChar).take
        maxSubpattern := by
  rw [List.take_takeWhile]
  rfl

/- What follows a subpattern that was copied as a whole. -/
theorem drop_subpattern
    (pattern : Text) :
    pattern.drop
        (pattern.takeWhile isSubpatternChar).length =
      pattern.dropWhile isSubpatternChar := by
  have hLeft :
      (pattern.takeWhile isSubpatternChar ++
          pattern.dropWhile isSubpatternChar).drop
        (pattern.takeWhile isSubpatternChar).length =
      pattern.dropWhile isSubpatternChar :=
    List.drop_left
  rw [List.takeWhile_append_dropWhile] at hLeft
  exact hLeft

/- The first subpattern with and without its mark. -/
theorem firstSubpattern_parts
    (c : Char)
    (pattern : Text) :
    isNegated ((c :: pattern).takeWhile isSubpatternChar) =
        decide (c = '!') ∧
      subpatternText
          ((c :: pattern).takeWhile isSubpatternChar) =
        (if c = '!' then pattern
          else c :: pattern).takeWhile isSubpatternChar ∧
      (c :: pattern).dropWhile isSubpatternChar =
        (if c = '!' then pattern
          else c :: pattern).dropWhile isSubpatternChar := by
  by_cases hMark : c = '!'
  · subst hMark
    refine ⟨rfl, rfl, rfl⟩
  · have hNot :
        isNegated ((c :: pattern).takeWhile isSubpatternChar) =
          false := by
      rw [isNegated, List.takeWhile_cons]
      split
      · simp [hMark]
      · rfl
    rw [subpatternText, hNot, if_neg hMark]
    simp [hMark]

/- The loop judges one subpattern after another. -/
theorem matchSubpatterns_cons
    (fuel : Nat)
    (c : Char)
    (pattern : Text)
    (gotPositive : Bool) :
    matchSubpatterns host ip (fuel + 1) (c :: pattern)
        gotPositive =
      judgeSubpattern host ip
        ((c :: pattern).takeWhile isSubpatternChar)
        gotPositive
        (matchSubpatterns host ip fuel
          ((c :: pattern).dropWhile isSubpatternChar).tail) := by
  rcases firstSubpattern_parts c pattern with
    ⟨hNegated, hText, hRest⟩
  rw [matchSubpatterns, hRest]
  simp only [copied_subpattern]
  generalize (if c = '!' then pattern else c :: pattern) =
    text at *
  generalize (c :: pattern).takeWhile isSubpatternChar =
    sub at *
  rw [judgeSubpattern]
  by_cases hShort : IsShort sub
  · have hLength := hShort
    rw [IsShort, hText] at hLength
    rw [if_pos hShort, List.take_of_length_le hLength.le,
      if_neg (Nat.not_le.mpr hLength), drop_subpattern,
      ← hText]
    simp only [AcceptsHost, hNegated, decide_eq_true_eq]
    cases hRest : text.dropWhile isSubpatternChar with
    | nil => rfl
    | cons d rest =>
        simp only [rest_eq_comma_cons hRest, if_true,
          List.tail_cons]
  · have hLength := hShort
    rw [IsShort, hText] at hLength
    rw [if_neg hShort, if_pos]
    rw [List.length_take]
    omega

/-
  The list is accepted if all of its subpatterns fit, one of
  them accepts, and no negated one does.
-/
theorem matchSubpatterns_iff
    {fuel : Nat}
    {gotPositive : Bool}
    (hFuel : pattern.length ≤ fuel) :
    matchSubpatterns host ip fuel pattern gotPositive =
        true ↔
      (∀ sub ∈ subpatterns pattern, IsShort sub) ∧
        (gotPositive = true ∨
          ∃ sub ∈ subpatterns pattern,
            isNegated sub = false ∧
              AcceptsHost host ip sub) ∧
        ∀ sub ∈ subpatterns pattern,
          isNegated sub = true →
            ¬ AcceptsHost host ip sub := by
  induction fuel generalizing pattern gotPositive with
  | zero =>
      have hNil : pattern = [] :=
        List.length_eq_zero_iff.mp (by omega)
      rw [hNil, subpatterns_nil, matchSubpatterns]
      simp
  | succ fuel ih =>
      cases pattern with
      | nil =>
          rw [subpatterns_nil, matchSubpatterns]
          simp
      | cons c pattern =>
          have hRest :
              ((c :: pattern).dropWhile
                isSubpatternChar).tail.length ≤ fuel := by
            have hLength :=
              (List.dropWhile_suffix
                (l := c :: pattern)
                isSubpatternChar).length_le
            rw [List.length_cons] at hLength hFuel
            rw [List.length_tail]
            omega
          rw [matchSubpatterns_cons,
            subpatterns_eq_cons (List.cons_ne_nil c pattern)]
          generalize
            (c :: pattern).takeWhile isSubpatternChar = sub
          generalize ((c :: pattern).dropWhile
            isSubpatternChar).tail = rest at *
          simp only [List.forall_mem_cons,
            List.exists_mem_cons_iff, judgeSubpattern]
          by_cases hShort : IsShort sub
          · rw [if_pos hShort]
            by_cases hAccepts : AcceptsHost host ip sub
            · rw [if_pos hAccepts]
              cases hNegated : isNegated sub with
              | true => simp [hShort, hAccepts]
              | false =>
                  simp [hShort, hAccepts, ih hRest]
            · rw [if_neg hAccepts, ih hRest]
              simp [hShort, hAccepts]
          · rw [if_neg hShort]
            simp [hShort]

/- The whole list, if each subpattern is short enough. -/
theorem matchHostname_iff
    (host : Text)
    (ip : Option Text)
    (pattern : Text) :
    matchHostname host ip pattern = true ↔
      (∀ sub ∈ subpatterns pattern, IsShort sub) ∧
        Judged host ip (subpatterns pattern) := by
  rw [matchHostname, matchSubpatterns_iff (Nat.le_refl _)]
  constructor
  · rintro ⟨hShort, hPositive | hPositive, hNegative⟩
    · cases hPositive
    · exact ⟨hShort, hPositive, hNegative⟩
  · rintro ⟨hShort, hPositive, hNegative⟩
    exact ⟨hShort, Or.inr hPositive, hNegative⟩

/- The order of the subpatterns makes no difference. -/
theorem judged_perm
    {subs subs' : List Text}
    (hPerm : subs.Perm subs') :
    Judged host ip subs ↔ Judged host ip subs' := by
  constructor
  · rintro ⟨hPositive, hNegative⟩
    simp only [hPerm.mem_iff] at hPositive hNegative
    exact ⟨hPositive, hNegative⟩
  · rintro ⟨hPositive, hNegative⟩
    simp only [← hPerm.mem_iff] at hPositive hNegative
    exact ⟨hPositive, hNegative⟩

/- A negated subpattern is not missed. -/
theorem Judged.of_cons_negated
    {sub : Text}
    {subs : List Text}
    (hJudged : Judged host ip (sub :: subs))
    (hNegated : isNegated sub = true) :
    Judged host ip subs := by
  rcases hJudged with ⟨⟨other, hOther, hPlain, hAccepts⟩, hNone⟩
  refine ⟨⟨other, ?_, hPlain, hAccepts⟩, ?_⟩
  · rcases List.mem_cons.mp hOther with rfl | hRest
    · rw [hNegated] at hPlain
      cases hPlain
    · exact hRest
  · intro other hMem
    exact hNone other (List.mem_cons_of_mem _ hMem)

/-
  Lists whose subpatterns fit are judged by their members.
  The order of these does not matter, a negated one accepts
  no further host, and a list with one that does not fit
  accepts none.
-/
theorem matchHostname_members
    (host : Text)
    (ip : Option Text) :
    (∀ pattern,
      (∀ sub ∈ subpatterns pattern, IsShort sub) →
        (matchHostname host ip pattern = true ↔
          Judged host ip (subpatterns pattern))) ∧
    (∀ pattern pattern',
      (subpatterns pattern).Perm (subpatterns pattern') →
        matchHostname host ip pattern =
          matchHostname host ip pattern') ∧
    (∀ pattern pattern' sub, isNegated sub = true →
      (subpatterns pattern').Perm (sub :: subpatterns pattern) →
        matchHostname host ip pattern' = true →
          matchHostname host ip pattern = true) ∧
    ∀ pattern sub, sub ∈ subpatterns pattern →
      ¬ IsShort sub →
        matchHostname host ip pattern = false := by
  refine ⟨?_, ?_, ?_, ?_⟩
  · intro pattern hShort
    rw [matchHostname_iff]
    exact ⟨fun hBoth => hBoth.2,
      fun hJudged => ⟨hShort, hJudged⟩⟩
  · intro pattern pattern' hPerm
    rw [Bool.eq_iff_iff, matchHostname_iff, matchHostname_iff,
      judged_perm hPerm]
    simp only [hPerm.mem_iff]
  · intro pattern pattern' sub hNegated hPerm hMatch
    rw [matchHostname_iff] at hMatch ⊢
    rcases hMatch with ⟨hShort, hJudged⟩
    rw [judged_perm hPerm] at hJudged
    simp only [hPerm.mem_iff] at hShort
    exact ⟨fun sub hSub =>
        hShort sub (List.mem_cons_of_mem _ hSub),
      hJudged.of_cons_negated hNegated⟩
  · intro pattern sub hSub hLong
    rw [Bool.eq_false_iff]
    intro hMatch
    rw [matchHostname_iff] at hMatch
    exact hLong (hMatch.1 sub hSub)

/-
  Behind the last comma there is an empty subpattern, too,
  that no turn of the loop looks at.
-/
theorem matchHostname_not_members :
    (∀ sub ∈ "a,".toList.splitOn ',', IsShort sub) ∧
      ¬ (matchHostname [] none "a,".toList = true ↔
        Judged [] none ("a,".toList.splitOn ',')) := by
  constructor
  · decide +kernel
  · intro hMembers
    have hJudged : Judged [] none ("a,".toList.splitOn ',') :=
      ⟨by decide +kernel, by decide +kernel⟩
    have hMatch := hMembers.mpr hJudged
    revert hMatch
    decide +kernel

end Ssh1
