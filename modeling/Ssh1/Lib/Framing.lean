import Mathlib.Data.List.Basic

/-
  Streams that are made of frames.

  A stream arrives in pieces. No frame is the beginning of
  another one, so that a stream is in one way only a list of
  frames and a rest in which no frame is complete.

  Main declarations:
    * `Framing.PrefixFree`
    * `Framing.Incomplete`
    * `Framing.decompose_unique`
    * `Framing.exists_cons_of_frame`
-/

------------------------------------------------------------
-- Frames
------------------------------------------------------------

namespace Framing

variable {ε μ : Type}

/- The message of a frame and what follows it are unique. -/
def PrefixFree (frame : μ → List ε) : Prop :=
  ∀ a b x y,
    frame a ++ x = frame b ++ y → a = b ∧ x = y

/- The text does not begin with a whole frame. -/
def Incomplete
    (frame : μ → List ε)
    (text : List ε) : Prop :=
  ∀ a rest, text ≠ frame a ++ rest

variable {frame : μ → List ε}

/- A stream that begins with a frame has it as its first. -/
theorem exists_cons_of_frame
    (hFrame : PrefixFree frame)
    {a : μ}
    {text rest : List ε}
    {messages : List μ}
    (hRest : Incomplete frame rest)
    (hText :
      frame a ++ text = messages.flatMap frame ++ rest) :
    ∃ later,
      messages = a :: later ∧
        text = later.flatMap frame ++ rest := by
  cases messages with
  | nil => exact (hRest a text hText.symm).elim
  | cons b later =>
      rw [List.flatMap_cons, List.append_assoc] at hText
      rcases hFrame _ _ _ _ hText with ⟨rfl, hLater⟩
      exact ⟨later, rfl, hLater⟩

/- A text without a whole frame is a stream without any. -/
theorem eq_nil_of_incomplete
    {text rest : List ε}
    {messages : List μ}
    (hText : Incomplete frame text)
    (hStream : text = messages.flatMap frame ++ rest) :
    messages = [] ∧ text = rest := by
  cases messages with
  | nil => exact ⟨rfl, hStream⟩
  | cons a later =>
      rw [List.flatMap_cons, List.append_assoc] at hStream
      exact (hText a _ hStream).elim

/- The frames and the rest of a stream are unique. -/
theorem decompose_unique
    (hFrame : PrefixFree frame)
    {messages others : List μ}
    {rest rest' : List ε}
    (hRest : Incomplete frame rest)
    (hRest' : Incomplete frame rest')
    (hStream :
      messages.flatMap frame ++ rest =
        others.flatMap frame ++ rest') :
    messages = others ∧ rest = rest' := by
  induction messages generalizing others with
  | nil =>
      rcases eq_nil_of_incomplete hRest hStream with
        ⟨rfl, rfl⟩
      exact ⟨rfl, rfl⟩
  | cons a later ih =>
      rw [List.flatMap_cons, List.append_assoc] at hStream
      rcases exists_cons_of_frame hFrame hRest' hStream with
        ⟨others, rfl, hLater⟩
      rcases ih hLater with ⟨rfl, rfl⟩
      exact ⟨rfl, rfl⟩

end Framing
