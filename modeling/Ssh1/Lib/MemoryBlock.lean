import Ssh1.Lib.FallibleRun

/-
  Blocks of memory with bounded accesses.

  A block is the list of its cells. An access that leaves
  the block fails with the error that stands for it.

  Main declarations:
    * `MemoryBlock.load`, `MemoryBlock.store`
    * `MemoryBlock.move`, `MemoryBlock.text`
    * `MemoryBlock.drop_patch`
    * `MemoryBlock.take_patch`
-/

------------------------------------------------------------
-- Accesses
------------------------------------------------------------

namespace MemoryBlock

variable {η α : Type}

/- The block with the data at a place in it. -/
def patch
    (block : List α)
    (place : Nat)
    (data : List α) : List α :=
  block.take place ++ data ++
    block.drop (place + data.length)

/- Stores the data at a place of the block. -/
def store
    (outside : η)
    (block : List α)
    (place : Nat)
    (data : List α) : Except η (List α) :=
  if place + data.length ≤ block.length then
    .ok (patch block place data)
  else
    .error outside

/- Loads some cells from a place of the block. -/
def load
    (outside : η)
    (block : List α)
    (place len : Nat) : Except η (List α) :=
  if place + len ≤ block.length then
    .ok ((block.drop place).take len)
  else
    .error outside

/- Copies cells within the block, which may overlap. -/
def move
    (outside : η)
    (block : List α)
    (target source len : Nat) : Except η (List α) := do
  let data ← load outside block source len
  store outside block target data

/- Loads the cells in front of the first end mark. -/
def text
    (outside : η)
    (isEnd : α → Bool)
    (block : List α)
    (place : Nat) : Except η (List α) :=
  if (block.drop place).any isEnd then
    .ok ((block.drop place).takeWhile fun x => ! isEnd x)
  else
    .error outside

end MemoryBlock

------------------------------------------------------------
-- Stored Data
------------------------------------------------------------

namespace MemoryBlock

variable {η α : Type}
variable {outside : η}
variable {block data : List α}
variable {place : Nat}

theorem length_patch
    (hFits : place + data.length ≤ block.length) :
    (patch block place data).length = block.length := by
  simp only [patch, List.length_append,
    List.length_take, List.length_drop]
  omega

/- What lies behind the stored data stays. -/
theorem drop_patch
    {n : Nat}
    (hFits : place + data.length ≤ block.length)
    (hBehind : place + data.length ≤ n) :
    (patch block place data).drop n =
      block.drop n := by
  have hLength :
      (block.take place ++ data).length =
        place + data.length := by
    rw [List.length_append, List.length_take]
    omega
  rw [patch, List.drop_append, hLength, List.drop_drop,
    List.drop_eq_nil_of_le (by omega), List.nil_append]
  congr 1
  omega

/- What lies in front of the stored data stays, too. -/
theorem take_patch
    (hFits : place + data.length ≤ block.length) :
    (patch block place data).take
        (place + data.length) =
      block.take place ++ data := by
  have hLength :
      (block.take place ++ data).length =
        place + data.length := by
    rw [List.length_append, List.length_take]
    omega
  rw [patch, ← hLength, List.take_left]

theorem take_patch_of_le
    {n : Nat}
    (hFits : place + data.length ≤ block.length)
    (hFront : n ≤ place) :
    (patch block place data).take n =
      block.take n := by
  have hTake := congrArg (List.take n) (take_patch hFits)
  rw [List.take_take, Nat.min_eq_left (by omega),
    List.take_append_of_le_length (by
      rw [List.length_take]
      omega),
    List.take_take, Nat.min_eq_left hFront] at hTake
  exact hTake

/- The stored data is found where it was stored. -/
theorem take_drop_patch
    (hFits : place + data.length ≤ block.length) :
    ((patch block place data).drop place).take
        data.length = data := by
  have hLength : (block.take place).length = place := by
    rw [List.length_take]
    omega
  have hDrop :
      (patch block place data).drop place =
        data ++ block.drop (place + data.length) := by
    rw [patch, List.append_assoc,
      List.drop_append_of_le_length (by omega),
      List.drop_eq_nil_of_le (by omega), List.nil_append]
  rw [hDrop, List.take_left]

/- Data in front of other data is stored as one. -/
theorem patch_patch
    {front : List α}
    {n : Nat}
    (hFront : front.length = n)
    (hFits : place + n + data.length ≤ block.length) :
    patch (patch block (place + n) data) place front =
      patch block place (front ++ data) := by
  have hTake :
      (patch block (place + n) data).take place =
        block.take place :=
    take_patch_of_le hFits (Nat.le_add_right _ _)
  have hLength :
      (block.take (place + n)).length = place + n := by
    rw [List.length_take]
    omega
  have hDrop :
      (patch block (place + n) data).drop (place + n) =
        data ++ block.drop (place + n + data.length) := by
    rw [patch, List.append_assoc,
      List.drop_append_of_le_length (Nat.le_of_eq hLength.symm),
      List.drop_eq_nil_of_le (Nat.le_of_eq hLength),
      List.nil_append]
  rw [patch, hTake, hFront, hDrop, patch, List.length_append,
    hFront, Nat.add_assoc, List.append_assoc,
    List.append_assoc, List.append_assoc]

/- So is data that is stored behind other data. -/
theorem patch_behind
    {more : List α}
    (hFits :
      place + data.length + more.length ≤ block.length) :
    patch (patch block place data) (place + data.length)
        more =
      patch block place (data ++ more) := by
  have hData : place + data.length ≤ block.length := by
    omega
  rw [patch, take_patch hData, drop_patch hData (by omega),
    patch, List.length_append, Nat.add_assoc,
    ← List.append_assoc]

theorem patch_nil :
    patch block place [] = block := by
  rw [patch, List.append_nil, List.length_nil, Nat.add_zero,
    List.take_append_drop]

/- Storing what is there changes nothing. -/
theorem patch_self
    {len : Nat}
    (hFits : place + len ≤ block.length) :
    patch block place ((block.drop place).take len) =
      block := by
  have hLength :
      ((block.drop place).take len).length = len := by
    rw [List.length_take, List.length_drop]
    omega
  rw [patch, hLength, ← List.take_add,
    List.take_append_drop]

/- One cell takes the place of another one. -/
theorem patch_append_cons
    (front : List α)
    (old new : α)
    (rest : List α) :
    patch (front ++ old :: rest) front.length [new] =
      front ++ new :: rest := by
  have hBehind :
      (front ++ old :: rest).drop
          (front.length + [new].length) = rest := by
    rw [List.length_singleton, ← List.drop_drop,
      List.drop_left, List.drop_one, List.tail_cons]
  rw [patch, hBehind, List.take_left, List.append_assoc,
    List.singleton_append]

theorem store_of_le
    (hFits : place + data.length ≤ block.length) :
    store outside block place data =
      .ok (patch block place data) :=
  if_pos hFits

theorem load_of_le
    {len : Nat}
    (hFits : place + len ≤ block.length) :
    load outside block place len =
      .ok ((block.drop place).take len) :=
  if_pos hFits

/- A text that stands in the block with its end mark. -/
theorem text_of_drop_eq
    {isEnd : α → Bool}
    {rest : List α}
    {mark : α}
    (hDrop : block.drop place = data ++ mark :: rest)
    (hMark : isEnd mark = true)
    (hData : ∀ x ∈ data, isEnd x = false) :
    text outside isEnd block place = .ok data := by
  have hAny : (block.drop place).any isEnd = true := by
    rw [hDrop, List.any_append, List.any_cons, hMark]
    simp
  have hTake :
      (block.drop place).takeWhile (fun x => ! isEnd x) =
        data := by
    rw [hDrop, List.takeWhile_append_of_pos]
    · simp [hMark]
    · intro x hx
      simp [hData x hx]
  rw [text, if_pos hAny, hTake]

end MemoryBlock
