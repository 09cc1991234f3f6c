import Ssh1.Files.PlainFile
import Ssh1.Lib.LineChunks

/-
  Files that are read line by line.

  The calls of `userfile_gets` on a fresh handle cut the file
  into chunks, whatever the sizes of their buffers and however
  short the reads below them are.

  Main declarations:
    * `getsCalls`
    * `LinesOf`
    * `userfileGets_chunks`
-/

------------------------------------------------------------
-- Lines of a Plain File
------------------------------------------------------------

namespace Ssh1

open LineChunks OutputRefinement

/- The first calls of a sequence with buffers of all sizes. -/
def getsCalls
    (sizes : Nat → UInt32)
    (count : Nat) : List UserFileCall :=
  (List.range count).map fun i => .gets (sizes i)

/- The characters that a buffer has room for. -/
def roomOf (size : UInt32) : Nat :=
  (size - 1).toNat

/- A newline. -/
def endsLine (ch : UInt8) : Bool :=
  ch = 10

/- A line that is read is the first chunk of a text. -/
theorem lineOf_take
    (room : Nat)
    (text : List UInt8) :
    OpenFile.lineOf (text.take room) =
      chunk endsLine room text := by
  induction room, text using chunk.induct endsLine with
  | case1 text => rfl
  | case2 room => rfl
  | case3 room ch text hEnd =>
      have hNewline : ch = 10 := of_decide_eq_true hEnd
      rw [List.take_succ_cons, OpenFile.lineOf_cons,
        if_pos hNewline, chunk, if_pos hEnd]
  | case4 room ch text hEnd ih =>
      have hOther : ch ≠ 10 := fun hNewline =>
        hEnd (decide_eq_true hNewline)
      rw [List.take_succ_cons, OpenFile.lineOf_cons,
        if_neg hOther, chunk, if_neg hEnd, ih]

/- What is still to be read of a file. -/
def OpenFile.rest (file : OpenFile) : List UInt8 :=
  file.content.drop file.pos

/- The answer to a call, and the file after it. -/
theorem plainStep_gets
    (file : OpenFile)
    (size : UInt32) :
    plainStep file (.gets size) =
      (.line
        (if chunk endsLine (roomOf size) file.rest = [] then
          none
        else
          some (chunk endsLine (roomOf size) file.rest)),
        file.advance
          (chunk endsLine (roomOf size)
            file.rest).length) := by
  rw [plainStep, OpenFile.next, lineOf_take]
  rfl

/- What is left after some bytes were read. -/
theorem rest_advance
    (file : OpenFile)
    (n : Nat) :
    (file.advance n).rest = file.rest.drop n := by
  rw [OpenFile.rest, OpenFile.rest, List.drop_drop]
  rfl

/- The first call and the others. -/
theorem getsCalls_succ
    (sizes : Nat → UInt32)
    (count : Nat) :
    getsCalls sizes (count + 1) =
      .gets (sizes 0) ::
        getsCalls (fun i => sizes (i + 1)) count := by
  rw [getsCalls, List.range_succ_eq_map, List.map_cons,
    List.map_map]
  rfl

/- The chunks as answers, and `NULL` once there are no more. -/
def lineAnswers
    (chunks : List (List UInt8))
    (count : Nat) : List UserFileAnswer :=
  (List.range count).map fun i => .line chunks[i]?

theorem lineAnswers_nil
    (count : Nat) :
    lineAnswers [] (count + 1) =
      .line none :: lineAnswers [] count := by
  rw [lineAnswers, List.range_succ_eq_map, List.map_cons,
    List.map_map]
  rfl

/- The first answer and the others. -/
theorem lineAnswers_cons
    (chunk : List UInt8)
    (chunks : List (List UInt8))
    (count : Nat) :
    lineAnswers (chunk :: chunks) (count + 1) =
      .line (some chunk) :: lineAnswers chunks count := by
  rw [lineAnswers, List.range_succ_eq_map, List.map_cons,
    List.map_map]
  rfl

/- The calls return the chunks of what is still to be read. -/
theorem specOutputs_getsCalls
    {sizes : Nat → UInt32}
    (file : OpenFile)
    {chunks : List (List UInt8)}
    (hSizes : ∀ i, 0 < roomOf (sizes i))
    (hCuts :
      Cuts endsLine (fun i => roomOf (sizes i)) file.rest
        chunks)
    (count : Nat) :
    (specOutputs plainStep file
        (getsCalls sizes count)).1 =
          lineAnswers chunks count ∧
      (specOutputs plainStep file
        (getsCalls sizes count)).2.content =
          file.content := by
  induction count generalizing sizes file chunks with
  | zero => exact ⟨rfl, rfl⟩
  | succ count ih =>
      have hSizes' : ∀ i, 0 < roomOf (sizes (i + 1)) :=
        fun i => hSizes (i + 1)
      rw [getsCalls_succ]
      simp only [specOutputs, plainStep_gets]
      rcases hCuts.cases_text with
        ⟨hText, rfl⟩ | ⟨hText, others, rfl, hRest⟩
      · have hNone : Cuts endsLine
            (fun i => roomOf (sizes (i + 1)))
            (file.advance 0).rest [] := by
          rw [OpenFile.advance_zero, hText]
          exact .done
        rw [hText, chunk_nil, if_pos rfl, List.length_nil,
          (ih _ hSizes' hNone).1, (ih _ hSizes' hNone).2,
          lineAnswers_nil]
        exact ⟨rfl, rfl⟩
      · rw [← rest_advance] at hRest
        rw [if_neg (chunk_ne_nil (hSizes 0) hText),
          (ih _ hSizes' hRest).1, (ih _ hSizes' hRest).2,
          lineAnswers_cons]
        exact ⟨rfl, rfl⟩

end Ssh1

------------------------------------------------------------
-- Lines of a User File
------------------------------------------------------------

namespace Ssh1

open LineChunks OutputRefinement

/- What the chunks of a text have to be like. -/
structure LinesOf
    (text : List UInt8)
    (sizes : Nat → UInt32)
    (chunks : List (List UInt8)) : Prop where
  flatten : chunks.flatten = text
  not_empty : ∀ chunk ∈ chunks, chunk ≠ []
  length_le : ∀ i chunk,
    chunks[i]? = some chunk →
      chunk.length ≤ (sizes i).toNat - 1
  newline_last : ∀ chunk ∈ chunks, ∀ front back,
    chunk = front ++ 10 :: back → back = []
  short_last : ∀ i chunk,
    chunks[i]? = some chunk →
      chunk.length < (sizes i).toNat - 1 →
        10 ∉ chunk → i + 1 = chunks.length

theorem roomOf_eq
    {size : UInt32}
    (hSize : 2 ≤ size) :
    roomOf size = size.toNat - 1 := by
  have hLe : (1 : UInt32) ≤ size := by
    rw [UInt32.le_iff_toNat_le] at hSize ⊢
    exact le_trans (by decide) hSize
  rw [roomOf, UInt32.toNat_sub_of_le _ _ hLe]
  rfl

/- Pieces that end only at newlines are the lines. -/
theorem linesOf_of_cuts
    {text : List UInt8}
    {sizes : Nat → UInt32}
    {chunks : List (List UInt8)}
    (hSizes : ∀ i, 2 ≤ sizes i)
    (hCuts :
      Cuts endsLine (fun i => roomOf (sizes i)) text
        chunks) :
    LinesOf text sizes chunks where
  flatten := hCuts.flatten
  not_empty := hCuts.ne_nil fun i => by
    rw [roomOf_eq (hSizes i)]
    have hSize := UInt32.le_iff_toNat_le.mp (hSizes i)
    have hTwo : (2 : UInt32).toNat = 2 := rfl
    omega
  length_le := by
    intro i chunk hChunk
    rcases hCuts.getElem? hChunk with ⟨rest, rfl, -⟩
    rw [← roomOf_eq (hSizes i)]
    exact length_chunk_le _ _
  newline_last := by
    intro chunk hMem front back hNewline
    rcases List.getElem?_of_mem hMem with ⟨i, hChunk⟩
    rcases hCuts.getElem? hChunk with ⟨rest, hPiece, -⟩
    rw [hPiece] at hNewline
    exact isEnd_last hNewline rfl
  short_last := by
    intro i chunk hChunk hShort hNone
    rcases hCuts.getElem? hChunk with
      ⟨rest, rfl, hLast⟩
    rw [← roomOf_eq (hSizes i)] at hShort
    apply hLast
    apply chunk_eq_text hShort
    intro ch hMem
    apply decide_eq_false
    rintro rfl
    exact hNone hMem

/- Reading lines fits every handle. -/
theorem allCallsFit_getsCalls
    (short : Nat → Nat)
    (uf : UserFile)
    (sizes : Nat → UInt32)
    (count : Nat) :
    AllCallsFit short uf (getsCalls sizes count) := by
  induction count generalizing uf sizes with
  | zero => trivial
  | succ count ih =>
      rw [getsCalls_succ]
      exact ⟨trivial, fun _ _ _ => ih _ _⟩

/-
  However many calls are made on a fresh handle, they return
  the chunks of the file one after the other, and then `NULL`
  for ever.
-/
theorem userfileGets_chunks
    (short : Nat → Nat)
    (type : UserFileType)
    (fds : Descriptors)
    (handle : Nat)
    (content : List UInt8)
    (sizes : Nat → UInt32)
    (hOpened : Opened fds handle ⟨content, 0⟩)
    (hSizes : ∀ i, 2 ≤ sizes i) :
    ∃ chunks,
      LinesOf content sizes chunks ∧
        ∀ count,
          UserFile.observed short
              (userfileMakeHandle type handle fds)
              (getsCalls sizes count) =
            .ok (lineAnswers chunks count, some content) := by
  have hRooms : ∀ i, 0 < roomOf (sizes i) := by
    intro i
    have hSize := UInt32.le_iff_toNat_le.mp (hSizes i)
    have hTwo : (2 : UInt32).toNat = 2 := rfl
    rw [roomOf_eq (hSizes i)]
    omega
  rcases exists_cuts endsLine hRooms content with
    ⟨chunks, hCuts⟩
  refine ⟨chunks, linesOf_of_cuts hSizes hCuts, ?_⟩
  intro count
  have hSpec :=
    specOutputs_getsCalls ⟨content, 0⟩ hRooms hCuts count
  rw [UserFile.observed_eq hOpened
      (allCallsFit_getsCalls short _ sizes count),
    plainObserved, hSpec.1, hSpec.2]

/- A file of three bytes, read with room for two of them. -/
theorem userfileGets_chunks_abc :
    ∃ chunks,
      LinesOf [97, 98, 99] (fun _ => 3) chunks ∧
        ∀ count,
          UserFile.observed (fun _ => 1)
              (userfileMakeHandle .userfileRemote 5
                abcDescriptors)
              (getsCalls (fun _ => 3) count) =
            .ok (lineAnswers chunks count,
              some [97, 98, 99]) :=
  userfileGets_chunks (fun _ => 1) .userfileRemote
    abcDescriptors 5 [97, 98, 99] (fun _ => 3)
    ⟨by decide, rfl⟩ (fun _ => by decide)

end Ssh1
