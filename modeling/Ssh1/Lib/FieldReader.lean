import Ssh1.Lib.FallibleRun

/-
  Readers that take a field from the front of a text.

  A field is given by the texts that encode each of its
  values. A reader reads the field where it succeeds exactly
  on the texts that begin with an encoding, and returns the
  value and what follows it.

  Main declarations:
    * `FieldReader.Reads`
    * `FieldReader.Reads.ok_iff`
    * `FieldReader.Reads.pure`, `FieldReader.Reads.bind`
    * `FieldReader.Reads.prefix_unique`
-/

------------------------------------------------------------
-- Readers
------------------------------------------------------------

namespace FieldReader

variable {η ε α β : Type}

/- Takes a value from the front of a text, or fails. -/
abbrev Reader (η ε α : Type) :=
  List ε → Except η (α × List ε)

/- The texts that encode a value. -/
abbrev Field (ε α : Type) :=
  List ε → α → Prop

/- The reader accepts the encodings, and nothing else. -/
structure Reads
    (read : Reader η ε α)
    (field : Field ε α) : Prop where
  complete :
    ∀ x a rest, field x a → read (x ++ rest) = .ok (a, rest)
  sound :
    ∀ text a rest, read text = .ok (a, rest) →
      ∃ x, field x a ∧ text = x ++ rest

/- A value that no text is needed for. -/
def Field.pure (a : α) : Field ε α :=
  fun text b => text = [] ∧ b = a

/- The two fields one after the other. -/
def Field.andThen
    (first : Field ε α)
    (second : α → Field ε β) : Field ε β :=
  fun text b =>
    ∃ x a y, text = x ++ y ∧ first x a ∧ second a y b

namespace Reads

variable {read : Reader η ε α}
variable {field : Field ε α}

/- The reader succeeds where the text begins with a field. -/
theorem ok_iff
    (hReads : Reads read field)
    (text : List ε) :
    (∃ result, read text = .ok result) ↔
      ∃ x a rest, field x a ∧ text = x ++ rest := by
  constructor
  · rintro ⟨⟨a, rest⟩, hOk⟩
    rcases hReads.sound text a rest hOk with ⟨x, hField, hText⟩
    exact ⟨x, a, rest, hField, hText⟩
  · rintro ⟨x, a, rest, hField, rfl⟩
    exact ⟨(a, rest), hReads.complete x a rest hField⟩

/- No text begins with encodings of two values. -/
theorem prefix_unique
    (hReads : Reads read field)
    {x y rest rest' : List ε}
    {a b : α}
    (hFirst : field x a)
    (hSecond : field y b)
    (hText : x ++ rest = y ++ rest') :
    a = b ∧ rest = rest' := by
  have hOne := hReads.complete x a rest hFirst
  have hOther := hReads.complete y b rest' hSecond
  rw [hText, hOther] at hOne
  cases hOne
  exact ⟨rfl, rfl⟩

/- A value that takes nothing from the text. -/
theorem pure
    (a : α) :
    Reads (fun text => (.ok (a, text) : Except η _))
      (Field.pure a : Field ε α) where
  complete := by
    rintro x b rest ⟨rfl, rfl⟩
    rfl
  sound := by
    intro text b rest hOk
    cases hOk
    exact ⟨[], ⟨rfl, rfl⟩, rfl⟩

/- One reader after the other reads the fields so. -/
theorem bind
    {next : α → Reader η ε β}
    {second : α → Field ε β}
    (hFirst : Reads read field)
    (hNext : ∀ a, Reads (next a) (second a)) :
    Reads (fun text => read text >>= fun r => next r.1 r.2)
      (field.andThen second) where
  complete := by
    rintro text b rest ⟨x, a, y, rfl, hx, hy⟩
    rw [List.append_assoc]
    simp only [hFirst.complete x a _ hx,
      FallibleRun.ok_bind, (hNext a).complete y b rest hy]
  sound := by
    intro text b rest hOk
    rcases FallibleRun.bind_eq_ok_iff.mp hOk with
      ⟨⟨a, mid⟩, hHead, hTail⟩
    rcases hFirst.sound text a mid hHead with ⟨x, hx, rfl⟩
    rcases (hNext a).sound mid b rest hTail with
      ⟨y, hy, rfl⟩
    exact ⟨x ++ y, ⟨x, a, y, rfl, hx, hy⟩,
      (List.append_assoc x y rest).symm⟩

end Reads

end FieldReader
