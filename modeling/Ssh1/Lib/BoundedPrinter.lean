import Mathlib.Data.List.Infix

/-
  Printers of texts that have to fit into a bounded room.

  A text is a list of parts. Each part is printed into the
  room that the parts in front of it have left. Where nothing
  is left the rest is cut off. A part can fail to stay within
  the room; the slack says by how much a text may do so
  without harm.

  Main declarations:
    * `BoundedPrinter`
    * `BoundedPrinter.output`
    * `BoundedPrinter.Reached`
    * `BoundedPrinter.isSome_output`
    * `BoundedPrinter.UpToMark`, `BoundedPrinter.Steady`
    * `BoundedPrinter.truncates_iff`
-/

------------------------------------------------------------
-- Printers
------------------------------------------------------------

/- How each kind of part is printed where room is left. -/
structure BoundedPrinter (P α : Type) where
  -- the characters that a part takes where there is room
  due : P → Nat
  -- the characters that end what is seen of a text
  isEnd : α → Bool
  -- the parts that are such a character
  isMark : P → Bool
  fits : P → (slack room : Nat) → Prop
  render : P → (slack room : Nat) → Option (List α)
  isSome_render : ∀ {p slack room},
    0 < room →
      ((render p slack room).isSome ↔ fits p slack room)
  sub_length : ∀ {p slack room text},
    render p slack room = some text →
      room - text.length = room - due p
  length_le : ∀ {p slack room text},
    0 < room →
    render p slack room = some text →
      text.length ≤ room + slack
  render_slack : ∀ {p room text},
    render p 0 room = some text →
      ∀ slack, render p slack room = some text
  render_mark : ∀ {p slack room text},
    isMark p = true →
    render p slack room = some text →
      ∃ a, text = [a] ∧ isEnd a = true
  due_mark : ∀ {p}, isMark p = true → due p = 1
  not_isEnd : ∀ {p slack room text},
    isMark p = false →
    render p slack room = some text →
      ∀ a ∈ text, isEnd a = false

namespace BoundedPrinter

variable {P α : Type}
variable (printer : BoundedPrinter P α)

/- What is printed, unless a part goes too far. -/
def output
    (slack : Nat) :
    (room : Nat) → List P → Option (List α)
| _, [] => some []
| room, p :: ps =>
    if room = 0 then
      some []
    else
      (printer.render p slack room).bind fun text =>
        (output slack (room - text.length) ps).map
          (text ++ ·)

/- Every part that finds some room left is as required. -/
def Reached
    (required : P → Nat → Prop) :
    (room : Nat) → List P → Prop
| _, [] => True
| room, p :: ps =>
    room = 0 ∨
      required p room ∧
        Reached required (room - printer.due p) ps

/- What is seen of a text. -/
def visible (text : List α) : List α :=
  text.takeWhile fun a => ! printer.isEnd a

end BoundedPrinter

------------------------------------------------------------
-- Lengths
------------------------------------------------------------

namespace BoundedPrinter

variable {P α : Type}
variable {printer : BoundedPrinter P α}
variable {slack room : Nat}
variable {p : P}
variable {ps : List P}
variable {text : List α}

theorem output_zero
    (slack : Nat)
    (ps : List P) :
    printer.output slack 0 ps = some [] := by
  cases ps with
  | nil => rfl
  | cons p ps => exact if_pos rfl

theorem output_cons
    (hRoom : 0 < room) :
    printer.output slack room (p :: ps) =
      (printer.render p slack room).bind fun text =>
        (printer.output slack (room - text.length) ps).map
          (text ++ ·) :=
  if_neg (by omega)

/- The text of the first part and that of the others. -/
theorem output_cons_eq_some
    (hRoom : 0 < room) :
    printer.output slack room (p :: ps) = some text ↔
      ∃ first rest,
        printer.render p slack room = some first ∧
          printer.output slack (room - printer.due p) ps =
            some rest ∧
          text = first ++ rest := by
  rw [output_cons hRoom]
  constructor
  · intro hText
    rcases Option.bind_eq_some_iff.mp hText with
      ⟨first, hFirst, hRest⟩
    rcases Option.map_eq_some_iff.mp hRest with
      ⟨rest, hOutput, hAppend⟩
    rw [printer.sub_length hFirst] at hOutput
    exact ⟨first, rest, hFirst, hOutput, hAppend.symm⟩
  · rintro ⟨first, rest, hFirst, hOutput, rfl⟩
    rw [hFirst, Option.bind_some, printer.sub_length hFirst,
      hOutput]
    rfl

/- A text is printed where every part that is reached fits. -/
theorem isSome_output :
    (printer.output slack room ps).isSome ↔
      printer.Reached
        (fun p room => printer.fits p slack room) room
        ps := by
  induction ps generalizing room with
  | nil => exact ⟨fun _ => trivial, fun _ => rfl⟩
  | cons p ps ih =>
      rcases Nat.eq_zero_or_pos room with rfl | hRoom
      · rw [output_zero]
        exact ⟨fun _ => .inl rfl, fun _ => rfl⟩
      · rw [Reached, or_iff_right (by omega), ← ih,
          ← printer.isSome_render hRoom,
          Option.isSome_iff_exists]
        constructor
        · rintro ⟨text, hText⟩
          rcases (output_cons_eq_some hRoom).mp hText with
            ⟨first, rest, hFirst, hRest, -⟩
          rw [hFirst, hRest]
          exact ⟨rfl, rfl⟩
        · rintro ⟨hFirst, hRest⟩
          rcases Option.isSome_iff_exists.mp hFirst with
            ⟨first, hFirst⟩
          rcases Option.isSome_iff_exists.mp hRest with
            ⟨rest, hRest⟩
          exact ⟨first ++ rest,
            (output_cons_eq_some hRoom).mpr
              ⟨first, rest, hFirst, hRest, rfl⟩⟩

/- A text goes beyond the room by the slack at most. -/
theorem length_output_le
    (hText : printer.output slack room ps = some text) :
    text.length ≤ room + slack := by
  induction ps generalizing room text with
  | nil =>
      cases hText
      exact Nat.zero_le _
  | cons p ps ih =>
      rcases Nat.eq_zero_or_pos room with rfl | hRoom
      · rw [output_zero] at hText
        cases hText
        exact Nat.zero_le _
      · rcases (output_cons_eq_some hRoom).mp hText with
          ⟨first, rest, hFirst, hRest, rfl⟩
        have hLength := printer.length_le hRoom hFirst
        have hLeft := printer.sub_length hFirst
        rw [List.length_append]
        by_cases hEnd : room - printer.due p = 0
        · rw [hEnd, output_zero] at hRest
          cases hRest
          exact hLength
        · have hOthers := ih hRest
          omega

/- Without slack a part takes what is due, as far as it fits. -/
theorem length_render
    (hRoom : 0 < room)
    (hText : printer.render p 0 room = some text) :
    text.length = min (printer.due p) room := by
  have hLength := printer.length_le hRoom hText
  have hLeft := printer.sub_length hText
  omega

/- What fits without slack is not changed by it. -/
theorem output_slack
    (hText : printer.output 0 room ps = some text)
    (slack : Nat) :
    printer.output slack room ps = some text := by
  induction ps generalizing room text with
  | nil => exact hText
  | cons p ps ih =>
      rcases Nat.eq_zero_or_pos room with rfl | hRoom
      · rw [output_zero] at hText ⊢
        exact hText
      · rcases (output_cons_eq_some hRoom).mp hText with
          ⟨first, rest, hFirst, hRest, hAppend⟩
        exact (output_cons_eq_some hRoom).mpr
          ⟨first, rest, printer.render_slack hFirst slack,
            ih hRest, hAppend⟩

/- Requirements that agree are met by the same list. -/
theorem reached_congr
    {required required' : P → Nat → Prop}
    (hAgree : ∀ p ∈ ps, ∀ room,
      0 < room → (required p room ↔ required' p room)) :
    printer.Reached required room ps ↔
      printer.Reached required' room ps := by
  induction ps generalizing room with
  | nil => exact Iff.rfl
  | cons p ps ih =>
      rcases Nat.eq_zero_or_pos room with rfl | hRoom
      · exact ⟨fun _ => .inl rfl, fun _ => .inl rfl⟩
      · rw [Reached, Reached,
          hAgree p List.mem_cons_self room hRoom,
          ih fun q hMem =>
            hAgree q (List.mem_cons_of_mem p hMem)]

end BoundedPrinter

------------------------------------------------------------
-- Visible Texts
------------------------------------------------------------

namespace BoundedPrinter

variable {P α : Type}
variable (printer : BoundedPrinter P α)

/- The characters up to the first end mark. -/
def visibleDue : List P → Nat
| [] => 0
| p :: ps =>
    if printer.isMark p then
      0
    else
      printer.due p + visibleDue ps

variable {printer}
variable {slack room : Nat}
variable {p : P}
variable {ps : List P}
variable {text : List α}

theorem visible_nil :
    printer.visible [] = [] := rfl

/- Nothing is seen behind an end mark. -/
theorem visible_mark
    {first : List α}
    (hMark : printer.isMark p = true)
    (hFirst : printer.render p slack room = some first)
    (rest : List α) :
    printer.visible (first ++ rest) = [] := by
  rcases printer.render_mark hMark hFirst with
    ⟨a, rfl, hEnd⟩
  rw [visible, List.singleton_append,
    List.takeWhile_cons_of_neg]
  simp [hEnd]

/- Any other part is seen as a whole. -/
theorem visible_append
    {first : List α}
    (hMark : printer.isMark p = false)
    (hFirst : printer.render p slack room = some first)
    (rest : List α) :
    printer.visible (first ++ rest) =
      first ++ printer.visible rest := by
  apply List.takeWhile_append_of_pos
  intro a hMem
  simp [printer.not_isEnd hMark hFirst a hMem]

/- How much is seen depends on the room only as a bound. -/
theorem length_visible
    (hText : printer.output 0 room ps = some text) :
    (printer.visible text).length =
      min (printer.visibleDue ps) room := by
  induction ps generalizing room text with
  | nil =>
      cases hText
      simp [visible, visibleDue]
  | cons p ps ih =>
      rcases Nat.eq_zero_or_pos room with rfl | hRoom
      · rw [output_zero] at hText
        cases hText
        simp [visible]
      · rcases (output_cons_eq_some hRoom).mp hText with
          ⟨first, rest, hFirst, hRest, rfl⟩
        cases hMark : printer.isMark p with
        | true =>
            rw [visible_mark hMark hFirst, visibleDue,
              if_pos hMark]
            simp
        | false =>
            rw [visible_append hMark hFirst,
              List.length_append, ih hRest,
              length_render hRoom hFirst, visibleDue,
              if_neg (by simp [hMark])]
            omega

end BoundedPrinter

------------------------------------------------------------
-- Truncation
------------------------------------------------------------

namespace BoundedPrinter

variable {P α : Type}
variable (printer : BoundedPrinter P α)

/- The part fits into any room up to this one. -/
def fitsUpTo (p : P) (room : Nat) : Prop :=
  ∀ r, 0 < r → r ≤ room → printer.fits p 0 r

/- In a smaller room the part prints less of one text. -/
def steady (p : P) (room : Nat) : Prop :=
  ∃ whole : List α, ∀ r,
    0 < r → r ≤ room →
      printer.render p 0 r = some (whole.take r)

/-
  The parts that are seen are as required of these, and those
  behind an end mark as required of the others.
-/
def UpToMark
    (seen hidden : P → Nat → Prop) :
    (room : Nat) → List P → Prop
| _, [] => True
| room, p :: ps =>
    room = 0 ∨
      if printer.isMark p then
        hidden p room ∧
          printer.Reached hidden (room - 1) ps
      else
        seen p room ∧
          UpToMark seen hidden (room - printer.due p) ps

/- The parts that are seen are steady, and the others fit. -/
def Steady (room : Nat) (ps : List P) : Prop :=
  printer.UpToMark printer.steady printer.fitsUpTo room ps

/-
  In less room less of the same text is seen, and all of it
  where it is short enough.
-/
def Truncates (room : Nat) (ps : List P) : Prop :=
  ∀ r, r < room →
    ∃ text whole,
      printer.output 0 r ps = some text ∧
      printer.output 0 room ps = some whole ∧
      printer.visible text <+: printer.visible whole ∧
      ((printer.visible whole).length ≤ r →
        printer.visible text = printer.visible whole)

/- One text shows its front in every room. -/
def ShowsFront (room : Nat) (ps : List P) : Prop :=
  ∃ whole : List α, ∀ r, r ≤ room →
    ∃ text,
      printer.output 0 r ps = some text ∧
        printer.visible text = whole.take r

end BoundedPrinter

------------------------------------------------------------
-- Exact Truncation
------------------------------------------------------------

namespace BoundedPrinter

variable {P α : Type}
variable {printer : BoundedPrinter P α}
variable {room : Nat}
variable {p : P}
variable {ps : List P}

/- The lengths of what is seen decide between two rooms. -/
theorem truncates_iff_showsFront :
    printer.Truncates room ps ↔
      printer.ShowsFront room ps := by
  constructor
  · intro hTruncates
    rcases Nat.eq_zero_or_pos room with rfl | hRoom
    · refine ⟨[], ?_⟩
      intro r hLe
      rw [Nat.le_zero.mp hLe]
      exact ⟨[], output_zero 0 ps, rfl⟩
    · rcases hTruncates 0 hRoom with
        ⟨-, whole, -, hWhole, -, -⟩
      have hLength := length_visible hWhole
      refine ⟨printer.visible whole, ?_⟩
      intro r hLe
      rcases Nat.lt_or_eq_of_le hLe with hLess | rfl
      · rcases hTruncates r hLess with
          ⟨text, whole', hText, hWhole', hPrefix, hShort⟩
        rw [hWhole] at hWhole'
        cases hWhole'
        refine ⟨text, hText, ?_⟩
        have hFront := length_visible hText
        by_cases hFull : r ≤ printer.visibleDue ps
        · rw [List.prefix_iff_eq_take.mp hPrefix, hFront,
            Nat.min_eq_right hFull]
        · rw [hShort (by omega),
            List.take_of_length_le (by omega)]
      · refine ⟨whole, hWhole, ?_⟩
        rw [List.take_of_length_le (by omega)]
  · rintro ⟨whole, hFronts⟩ r hLess
    rcases hFronts r hLess.le with ⟨text, hText, hFront⟩
    rcases hFronts room (le_refl room) with
      ⟨text', hText', hFront'⟩
    have hTake : whole.take r = (whole.take room).take r := by
      rw [List.take_take, Nat.min_eq_left hLess.le]
    refine ⟨text, text', hText, hText', ?_, ?_⟩
    · rw [hFront, hFront', hTake]
      exact List.take_prefix r _
    · intro hShort
      rw [hFront'] at hShort
      rw [hFront, hFront', hTake,
        List.take_of_length_le hShort]

/- Texts are printed in all rooms where all parts fit. -/
theorem forall_isSome_output :
    (∀ r, r ≤ room → (printer.output 0 r ps).isSome) ↔
      printer.Reached printer.fitsUpTo room ps := by
  induction ps generalizing room with
  | nil => exact ⟨fun _ => trivial, fun _ _ _ => rfl⟩
  | cons p ps ih =>
      rcases Nat.eq_zero_or_pos room with rfl | hRoom
      · refine ⟨fun _ => .inl rfl, ?_⟩
        intro _ r hLe
        rw [Nat.le_zero.mp hLe, output_zero]
        rfl
      · rw [Reached, or_iff_right (by omega), ← ih]
        constructor
        · intro hPrinted
          have hParts : ∀ r, 0 < r → r ≤ room →
              printer.fits p 0 r ∧
                (printer.output 0 (r - printer.due p)
                  ps).isSome := by
            intro r hPos hLe
            rcases isSome_output.mp (hPrinted r hLe) with
              hZero | ⟨hFits, hRest⟩
            · omega
            · exact ⟨hFits, isSome_output.mpr hRest⟩
          refine ⟨fun r hPos hLe => (hParts r hPos hLe).1, ?_⟩
          intro r hLe
          rcases Nat.eq_zero_or_pos r with rfl | hPos
          · rw [output_zero]
            rfl
          · have hRest :=
              (hParts (printer.due p + r) (by omega)
                (by omega)).2
            rwa [Nat.add_sub_cancel_left] at hRest
        · rintro ⟨hFits, hRest⟩ r hLe
          rcases Nat.eq_zero_or_pos r with rfl | hPos
          · rw [output_zero]
            rfl
          · apply isSome_output.mpr
            exact .inr ⟨hFits r hPos hLe,
              isSome_output.mp (hRest _ (by omega))⟩

/- What is seen ends with an end mark that comes first. -/
theorem showsFront_mark
    (hMark : printer.isMark p = true) :
    printer.ShowsFront room (p :: ps) ↔
      printer.Reached printer.fitsUpTo room (p :: ps) := by
  rw [← forall_isSome_output]
  constructor
  · rintro ⟨whole, hFronts⟩ r hLe
    rcases hFronts r hLe with ⟨text, hText, -⟩
    rw [hText]
    rfl
  · intro hPrinted
    refine ⟨[], ?_⟩
    intro r hLe
    rcases Option.isSome_iff_exists.mp (hPrinted r hLe) with
      ⟨text, hText⟩
    refine ⟨text, hText, ?_⟩
    rw [List.take_nil]
    rcases Nat.eq_zero_or_pos r with rfl | hPos
    · rw [output_zero] at hText
      cases hText
      rfl
    · rcases (output_cons_eq_some hPos).mp hText with
        ⟨first, rest, hFirst, -, rfl⟩
      exact visible_mark hMark hFirst rest

/- The front of a text is that of its first part. -/
theorem ShowsFront.first
    (hMark : printer.isMark p = false)
    (hFront : printer.ShowsFront room (p :: ps)) :
    printer.steady p room := by
  rcases hFront with ⟨whole, hFronts⟩
  refine ⟨whole.take (printer.due p), ?_⟩
  intro r hPos hLe
  rcases hFronts r hLe with ⟨text, hText, hVisible⟩
  rcases (output_cons_eq_some hPos).mp hText with
    ⟨first, rest, hFirst, -, rfl⟩
  rw [visible_append hMark hFirst] at hVisible
  have hTake := congrArg (List.take first.length) hVisible
  rw [List.take_left, List.take_take,
    length_render hPos hFirst,
    Nat.min_eq_left (Nat.min_le_right _ _)] at hTake
  rw [hFirst, hTake, List.take_take, Nat.min_comm]

/- Behind the first part the text goes on in the same way. -/
theorem ShowsFront.rest
    (hMark : printer.isMark p = false)
    (hFront : printer.ShowsFront room (p :: ps)) :
    printer.ShowsFront (room - printer.due p) ps := by
  rcases hFront with ⟨whole, hFronts⟩
  refine ⟨whole.drop (printer.due p), ?_⟩
  intro r hLe
  rcases Nat.eq_zero_or_pos r with rfl | hPos
  · refine ⟨[], output_zero 0 ps, ?_⟩
    rw [List.take_zero]
    rfl
  · rcases hFronts (printer.due p + r) (by omega) with
      ⟨text, hText, hVisible⟩
    rcases (output_cons_eq_some (by omega)).mp hText with
      ⟨first, rest, hFirst, hRest, rfl⟩
    have hLength : first.length = printer.due p := by
      rw [length_render (by omega) hFirst]
      omega
    rw [Nat.add_sub_cancel_left] at hRest
    refine ⟨rest, hRest, ?_⟩
    rw [visible_append hMark hFirst] at hVisible
    have hDrop := congrArg (List.drop first.length) hVisible
    rw [List.drop_left, hLength, List.drop_take,
      Nat.add_sub_cancel_left] at hDrop
    exact hDrop

/- A steady part in front keeps the front of the others. -/
theorem ShowsFront.cons
    (hMark : printer.isMark p = false)
    (hSteady : printer.steady p room)
    (hRest :
      printer.ShowsFront (room - printer.due p) ps) :
    printer.ShowsFront room (p :: ps) := by
  rcases hSteady with ⟨first, hFirst⟩
  rcases hRest with ⟨others, hOthers⟩
  refine ⟨first.take (printer.due p) ++ others, ?_⟩
  intro r hLe
  rcases Nat.eq_zero_or_pos r with rfl | hPos
  · refine ⟨[], output_zero 0 _, ?_⟩
    rw [List.take_zero]
    rfl
  · have hPart := hFirst r hPos hLe
    have hLength := length_render hPos hPart
    rw [List.length_take] at hLength
    rcases hOthers (r - printer.due p) (by omega) with
      ⟨rest, hOutput, hVisible⟩
    refine ⟨first.take r ++ rest,
      (output_cons_eq_some hPos).mpr
        ⟨_, _, hPart, hOutput, rfl⟩, ?_⟩
    rw [visible_append hMark hPart, hVisible]
    by_cases hFull : r ≤ printer.due p
    · rw [Nat.sub_eq_zero_of_le hFull, List.take_zero,
        List.append_nil, List.take_append_of_le_length]
      · rw [List.take_take, Nat.min_eq_left hFull]
      · rw [List.length_take]
        omega
    · have hDue : first.length = printer.due p := by
        omega
      have hWhole : first.take (printer.due p) = first :=
        List.take_of_length_le hDue.le
      rw [hWhole, List.take_append, hDue]

theorem showsFront_iff :
    printer.ShowsFront room ps ↔
      printer.Steady room ps := by
  unfold Steady
  induction ps generalizing room with
  | nil =>
      refine ⟨fun _ => trivial, fun _ => ⟨[], ?_⟩⟩
      intro r _
      exact ⟨[], rfl, by rw [List.take_nil]; rfl⟩
  | cons p ps ih =>
      rcases Nat.eq_zero_or_pos room with rfl | hRoom
      · refine ⟨fun _ => .inl rfl, fun _ => ⟨[], ?_⟩⟩
        intro r hLe
        rw [Nat.le_zero.mp hLe]
        exact ⟨[], output_zero 0 _, rfl⟩
      · rw [UpToMark, or_iff_right (by omega)]
        cases hMark : printer.isMark p with
        | true =>
            rw [showsFront_mark hMark, Reached,
              or_iff_right (by omega),
              printer.due_mark hMark, if_pos rfl]
        | false =>
            rw [if_neg (by decide), ← ih]
            constructor
            · intro hFront
              exact ⟨hFront.first hMark,
                hFront.rest hMark⟩
            · rintro ⟨hSteady, hRest⟩
              exact hRest.cons hMark hSteady

/- Requirements that agree are met by the same list. -/
theorem upToMark_congr
    {seen seen' hidden hidden' : P → Nat → Prop}
    (hSeen : ∀ p ∈ ps, printer.isMark p = false →
      ∀ room, 0 < room → (seen p room ↔ seen' p room))
    (hHidden : ∀ p ∈ ps, ∀ room,
      0 < room → (hidden p room ↔ hidden' p room)) :
    printer.UpToMark seen hidden room ps ↔
      printer.UpToMark seen' hidden' room ps := by
  induction ps generalizing room with
  | nil => exact Iff.rfl
  | cons p ps ih =>
      have hSeen' := List.forall_mem_cons.mp hSeen
      have hHidden' := List.forall_mem_cons.mp hHidden
      rcases Nat.eq_zero_or_pos room with rfl | hRoom
      · exact ⟨fun _ => .inl rfl, fun _ => .inl rfl⟩
      · rw [UpToMark, UpToMark]
        cases hMark : printer.isMark p with
        | true =>
            rw [if_pos rfl, if_pos rfl,
              hHidden'.1 room hRoom,
              reached_congr hHidden'.2]
        | false =>
            rw [if_neg (by decide), if_neg (by decide),
              hSeen'.1 hMark room hRoom,
              ih hSeen'.2 hHidden'.2]

/- Exactly steady parts are truncated to the front. -/
theorem truncates_iff :
    printer.Truncates room ps ↔ printer.Steady room ps :=
  truncates_iff_showsFront.trans showsFront_iff

end BoundedPrinter
