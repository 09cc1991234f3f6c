import Mathlib.Data.List.Basic

/-
  Texts that are cut into lines of bounded length.

  A chunk ends behind the first end mark, or where its room
  is used up, or with the text. The rooms of the chunks may
  all be different.

  Main declarations:
    * `LineChunks.chunk`
    * `LineChunks.Cuts`
    * `LineChunks.exists_cuts`
    * `LineChunks.Cuts.flatten`
-/

------------------------------------------------------------
-- Chunks
------------------------------------------------------------

namespace LineChunks

variable {α : Type}
variable (isEnd : α → Bool)

/- The first chunk of a text. -/
def chunk : (room : Nat) → List α → List α
| 0, _ => []
| _ + 1, [] => []
| room + 1, a :: text =>
    if isEnd a then [a] else a :: chunk room text

variable {isEnd}
variable {room : Nat}
variable {text : List α}

theorem chunk_nil :
    chunk isEnd room [] = [] := by
  cases room with
  | zero => rfl
  | succ room => rfl

/- The text goes on behind its chunk. -/
theorem chunk_append_drop
    (room : Nat)
    (text : List α) :
    chunk isEnd room text ++
        text.drop (chunk isEnd room text).length =
      text := by
  induction room, text using chunk.induct isEnd with
  | case1 text => rfl
  | case2 room => rfl
  | case3 room a text hEnd =>
      rw [chunk, if_pos hEnd]
      rfl
  | case4 room a text hEnd ih =>
      rw [chunk, if_neg hEnd, List.length_cons,
        List.drop_succ_cons, List.cons_append, ih]

theorem length_chunk_le
    (room : Nat)
    (text : List α) :
    (chunk isEnd room text).length ≤ room := by
  induction room, text using chunk.induct isEnd with
  | case1 text => exact Nat.le_refl 0
  | case2 room => exact Nat.zero_le _
  | case3 room a text hEnd =>
      rw [chunk, if_pos hEnd, List.length_singleton]
      exact Nat.succ_le_succ (Nat.zero_le room)
  | case4 room a text hEnd ih =>
      rw [chunk, if_neg hEnd, List.length_cons]
      exact Nat.succ_le_succ ih

/- A text that goes on has a chunk that is not empty. -/
theorem chunk_ne_nil
    (hRoom : 0 < room)
    (hText : text ≠ []) :
    chunk isEnd room text ≠ [] := by
  cases room with
  | zero => omega
  | succ room =>
      cases text with
      | nil => exact (hText rfl).elim
      | cons a text =>
          rw [chunk]
          split
          · exact List.cons_ne_nil _ _
          · exact List.cons_ne_nil _ _

/- An end mark can only be the last of a chunk. -/
theorem isEnd_last
    {front back : List α}
    {a : α}
    (hChunk : chunk isEnd room text = front ++ a :: back)
    (hEnd : isEnd a = true) :
    back = [] := by
  induction room, text using chunk.induct isEnd
      generalizing front with
  | case1 text => simp [chunk] at hChunk
  | case2 room => simp [chunk] at hChunk
  | case3 room b text hHere =>
      rw [chunk, if_pos hHere] at hChunk
      cases front with
      | nil => exact (List.cons.inj hChunk).2.symm
      | cons c front => simp at hChunk
  | case4 room b text hHere ih =>
      rw [chunk, if_neg hHere] at hChunk
      cases front with
      | nil =>
          rw [(List.cons.inj hChunk).1] at hHere
          exact (hHere hEnd).elim
      | cons c front =>
          exact ih (List.cons.inj hChunk).2

/- A chunk that could go on and does not ends the text. -/
theorem chunk_eq_text
    (hShort : (chunk isEnd room text).length < room)
    (hNone : ∀ a ∈ chunk isEnd room text, isEnd a = false) :
    chunk isEnd room text = text := by
  induction room, text using chunk.induct isEnd with
  | case1 text => exact (Nat.not_lt_zero _ hShort).elim
  | case2 room => rfl
  | case3 room a text hEnd =>
      rw [chunk, if_pos hEnd] at hNone
      rw [hNone a List.mem_cons_self] at hEnd
      cases hEnd
  | case4 room a text hEnd ih =>
      rw [chunk, if_neg hEnd] at hShort hNone ⊢
      rw [ih (Nat.lt_of_succ_lt_succ hShort) fun b hMem =>
        hNone b (List.mem_cons_of_mem a hMem)]

end LineChunks

------------------------------------------------------------
-- Cuts
------------------------------------------------------------

namespace LineChunks

variable {α : Type}

/- The chunks of a text, each with a room of its own. -/
inductive Cuts
    (isEnd : α → Bool) :
    (rooms : Nat → Nat) →
    List α → List (List α) → Prop
| done
    {rooms : Nat → Nat} :
    Cuts isEnd rooms [] []
| more
    {rooms : Nat → Nat}
    {text : List α}
    {chunks : List (List α)}
    (hText : text ≠ [])
    (hRest :
      Cuts isEnd (fun i => rooms (i + 1))
        (text.drop (chunk isEnd (rooms 0) text).length)
        chunks) :
    Cuts isEnd rooms text
      (chunk isEnd (rooms 0) text :: chunks)

variable {isEnd : α → Bool}
variable {rooms : Nat → Nat}
variable {text : List α}
variable {chunks : List (List α)}

/- With some room for each chunk a text can be cut up. -/
theorem exists_cuts
    (isEnd : α → Bool)
    (hRooms : ∀ i, 0 < rooms i)
    (text : List α) :
    ∃ chunks, Cuts isEnd rooms text chunks := by
  generalize hLength : text.length = n
  induction n using Nat.strongRecOn
      generalizing rooms text with
  | ind n ih =>
      by_cases hText : text = []
      · rw [hText]
        exact ⟨[], .done⟩
      · have hChunk : chunk isEnd (rooms 0) text ≠ [] :=
          chunk_ne_nil (hRooms 0) hText
        have hSome := List.length_pos_iff.mpr hChunk
        have hPos := List.length_pos_iff.mpr hText
        rcases ih
            (text.drop
              (chunk isEnd (rooms 0) text).length).length
            (by
              rw [List.length_drop]
              omega)
            (fun i => hRooms (i + 1))
            (text.drop (chunk isEnd (rooms 0) text).length)
            rfl with
          ⟨chunks, hRest⟩
        exact ⟨_, .more hText hRest⟩

namespace Cuts

/- Either nothing is left, or a first chunk is cut off. -/
theorem cases_text
    (hCuts : Cuts isEnd rooms text chunks) :
    text = [] ∧ chunks = [] ∨
      text ≠ [] ∧
        ∃ others,
          chunks = chunk isEnd (rooms 0) text :: others ∧
            Cuts isEnd (fun i => rooms (i + 1))
              (text.drop
                (chunk isEnd (rooms 0) text).length)
              others := by
  cases hCuts with
  | done => exact .inl ⟨rfl, rfl⟩
  | more hText hRest => exact .inr ⟨hText, _, rfl, hRest⟩

theorem flatten
    (hCuts : Cuts isEnd rooms text chunks) :
    chunks.flatten = text := by
  induction hCuts with
  | done => rfl
  | more hText hRest ih =>
      rw [List.flatten_cons, ih]
      exact chunk_append_drop _ _

theorem ne_nil
    (hCuts : Cuts isEnd rooms text chunks)
    (hRooms : ∀ i, 0 < rooms i) :
    ∀ piece ∈ chunks, piece ≠ [] := by
  induction hCuts with
  | done =>
      intro piece hMem
      cases hMem
  | more hText hRest ih =>
      intro piece hMem
      rcases List.mem_cons.mp hMem with rfl | hOther
      · exact chunk_ne_nil (hRooms 0) hText
      · exact ih (fun i => hRooms (i + 1)) piece hOther

/- Each chunk is the first one of a text behind the others. -/
theorem getElem?
    (hCuts : Cuts isEnd rooms text chunks)
    {i : Nat}
    {piece : List α}
    (hPiece : chunks[i]? = some piece) :
    ∃ rest,
      piece = chunk isEnd (rooms i) rest ∧
        (piece = rest → i + 1 = chunks.length) := by
  induction hCuts generalizing i with
  | done => simp at hPiece
  | @more rooms text chunks hText hRest ih =>
      cases i with
      | zero =>
          rw [List.getElem?_cons_zero] at hPiece
          have hFirst := (Option.some.inj hPiece).symm
          refine ⟨text, hFirst, ?_⟩
          intro hWhole
          rw [← hFirst, hWhole, List.drop_length] at hRest
          cases hRest with
          | done => rfl
          | more hNext _ => exact (hNext rfl).elim
      | succ i =>
          rw [List.getElem?_cons_succ] at hPiece
          rcases ih hPiece with ⟨rest, hChunk, hLast⟩
          refine ⟨rest, hChunk, ?_⟩
          intro hWhole
          rw [List.length_cons, ← hLast hWhole]

end Cuts

end LineChunks
