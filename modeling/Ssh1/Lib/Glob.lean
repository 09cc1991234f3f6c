import Mathlib.Data.List.Infix

/-
  Patterns with two wildcards over any alphabet: one stands
  for a single letter, the other one for any word.

  Main declarations:
    * `Glob.Matches`
    * `Glob.matches_star_iff`, `Glob.matches_letter_iff`
    * `Glob.matches_nil_iff_all_star`
-/

------------------------------------------------------------
-- Matching
------------------------------------------------------------

namespace Glob

variable {α : Type}
variable {star any : α}

/- The word is one of those that the pattern stands for. -/
inductive Matches (star any : α) : List α → List α → Prop where
  | nil : Matches star any [] []
  | star
      {pattern s : List α}
      (skipped : List α)
      (hRest : Matches star any pattern s) :
      Matches star any (star :: pattern) (skipped ++ s)
  | any
      {pattern s : List α}
      (x : α)
      (hRest : Matches star any pattern s) :
      Matches star any (any :: pattern) (x :: s)
  | letter
      {pattern s : List α}
      {c : α}
      (hStar : c ≠ star)
      (hRest : Matches star any pattern s) :
      Matches star any (c :: pattern) (c :: s)

variable {pattern s : List α}

theorem matches_empty_iff :
    Matches star any [] s ↔ s = [] := by
  constructor
  · intro hMatches
    cases hMatches
    rfl
  · rintro rfl
    exact .nil

/- The wildcard for words leaves some suffix. -/
theorem matches_star_iff
    (hWildcards : star ≠ any) :
    Matches star any (star :: pattern) s ↔
      ∃ t, t <:+ s ∧ Matches star any pattern t := by
  constructor
  · intro hMatches
    cases hMatches with
    | star skipped hRest =>
        exact ⟨_, List.suffix_append skipped _, hRest⟩
    | any x hRest => exact absurd rfl hWildcards
    | letter hStar hRest => exact absurd rfl hStar
  · rintro ⟨t, ⟨skipped, rfl⟩, hRest⟩
    exact .star skipped hRest

/- Anything else takes exactly one letter. -/
theorem matches_letter_iff
    {c : α}
    (hStar : c ≠ star) :
    Matches star any (c :: pattern) s ↔
      ∃ x t, s = x :: t ∧ (c = any ∨ c = x) ∧
        Matches star any pattern t := by
  constructor
  · intro hMatches
    cases hMatches with
    | star skipped hRest => exact absurd rfl hStar
    | any x hRest => exact ⟨x, _, rfl, Or.inl rfl, hRest⟩
    | letter _ hRest => exact ⟨c, _, rfl, Or.inr rfl, hRest⟩
  · rintro ⟨x, t, rfl, hAny | hSame, hRest⟩
    · rw [hAny]
      exact .any x hRest
    · rw [← hSame]
      exact .letter hStar hRest

theorem not_matches_letter_nil
    {c : α}
    (hStar : c ≠ star) :
    ¬ Matches star any (c :: pattern) [] := by
  intro hMatches
  rcases (matches_letter_iff hStar).mp hMatches with
    ⟨x, t, hNil, -, -⟩
  cases hNil

/- Nothing but stars stands for the empty word. -/
theorem matches_nil_iff_all_star
    (hWildcards : star ≠ any) :
    Matches star any pattern [] ↔ ∀ c ∈ pattern, c = star := by
  induction pattern with
  | nil => simp [matches_empty_iff]
  | cons c pattern ih =>
      by_cases hStar : c = star
      · rw [hStar, matches_star_iff hWildcards]
        simp [ih]
      · constructor
        · intro hMatches
          exact absurd hMatches (not_matches_letter_nil hStar)
        · intro hAll
          exact absurd (hAll c (by simp)) hStar

/- A star at the end takes whatever follows. -/
theorem Matches.append_of_star
    (hWildcards : star ≠ any)
    (hMatches : Matches star any (pattern ++ [star]) s)
    (more : List α) :
    Matches star any (pattern ++ [star]) (s ++ more) := by
  induction pattern generalizing s with
  | nil =>
      rw [List.nil_append, matches_star_iff hWildcards]
      exact ⟨[], List.nil_suffix, .nil⟩
  | cons c pattern ih =>
      rw [List.cons_append] at hMatches ⊢
      by_cases hStar : c = star
      · rw [hStar, matches_star_iff hWildcards] at hMatches ⊢
        rcases hMatches with ⟨t, ⟨skipped, rfl⟩, hRest⟩
        refine ⟨t ++ more, ?_, ih hRest⟩
        rw [List.append_assoc]
        exact List.suffix_append skipped _
      · rw [matches_letter_iff hStar] at hMatches ⊢
        rcases hMatches with ⟨x, t, rfl, hChar, hRest⟩
        exact ⟨x, t ++ more, rfl, hChar, ih hRest⟩

end Glob
