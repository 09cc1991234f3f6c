import Ssh1.Base.Buffer
import Ssh1.Base.Unsigned
import Ssh1.Lib.MemoryBlock
import Ssh1.Lib.OutputRefinement

/-
  Buffers as they lie in memory.

  The packets of the other modules go through a queue of
  bytes. Here the queue is a part of a block that is moved
  and enlarged, with sizes that are unsigned 32-bit words.

  Main declarations:
    * `MemoryBuffer`
    * `MemoryBuffer.appendSpace`
    * `MemoryBuffer.NoOverflow`
    * `MemoryBuffer.appendSpace_reserves`
    * `MemoryBuffer.run_refinesQueue`
-/

------------------------------------------------------------
-- The Structure
------------------------------------------------------------

namespace Ssh1

/- The struct `Buffer`. -/
structure MemoryBuffer where
  -- the block that `buf` points to
  buf : List UInt8
  alloc : Nat
  offset : Nat
  -- the field `end`
  endOffset : Nat

/-
  `xrealloc`. What a larger block holds behind the old one is
  not specified.
-/
def xrealloc
    (heap : Nat → UInt8)
    (buf : List UInt8)
    (newSize : Nat) : List UInt8 :=
  (buf ++ (List.range (newSize - buf.length)).map heap).take
    newSize

/- The new block has the new size. -/
theorem length_xrealloc
    (heap : Nat → UInt8)
    (buf : List UInt8)
    (newSize : Nat) :
    (xrealloc heap buf newSize).length = newSize := by
  simp only [xrealloc, List.length_take, List.length_append,
    List.length_map, List.length_range]
  omega

/- A larger block starts with the old one. -/
theorem take_xrealloc
    (heap : Nat → UInt8)
    {buf : List UInt8}
    {newSize n : Nat}
    (hOld : n ≤ buf.length)
    (hNew : n ≤ newSize) :
    (xrealloc heap buf newSize).take n = buf.take n := by
  rw [xrealloc, List.take_take, Nat.min_eq_left hNew,
    List.take_append_of_le_length hOld]

end Ssh1

------------------------------------------------------------
-- Operations
------------------------------------------------------------

namespace Ssh1

namespace MemoryBuffer

/- `buffer_init` -/
def init (heap : Nat → UInt8) : MemoryBuffer where
  buf := (List.range 4096).map heap
  alloc := 4096
  offset := 0
  endOffset := 0

/- `buffer_clear` -/
def clear (buffer : MemoryBuffer) : MemoryBuffer :=
  { buffer with offset := 0, endOffset := 0 }

/- An empty buffer is used from the beginning. -/
def rewind (buffer : MemoryBuffer) : MemoryBuffer :=
  if buffer.offset = buffer.endOffset then
    buffer.clear
  else
    buffer

/- Moves the data to the beginning. -/
def compact (buffer : MemoryBuffer) : Outcome MemoryBuffer := do
  let len := u32Sub buffer.endOffset buffer.offset
  let buf ←
    MemoryBlock.move Halt.outOfBounds buffer.buf 0
      buffer.offset len
  return { buffer with
    buf := buf
    offset := 0
    endOffset := len }

/- Increases the size of the buffer. -/
def grow
    (heap : Nat → UInt8)
    (buffer : MemoryBuffer)
    (len : Nat) : MemoryBuffer :=
  let alloc := u32 (buffer.alloc + u32 (len + 4096))
  { buffer with
    buf := xrealloc heap buffer.buf alloc
    alloc := alloc }

/- The code from the label `restart` on. -/
def restart
    (heap : Nat → UInt8)
    (len : Nat) :
    (fuel : Nat) → (buffer : MemoryBuffer) →
      Outcome (Nat × MemoryBuffer)
| 0, _ => .error .diverges
| fuel + 1, buffer =>
    if u32 (buffer.endOffset + len) < buffer.alloc then
      .ok (buffer.endOffset, { buffer with
        endOffset := u32 (buffer.endOffset + len) })
    else if buffer.offset > buffer.alloc / 2 then do
      let buffer ← buffer.compact
      restart heap len fuel buffer
    else
      restart heap len fuel (buffer.grow heap len)

/- More rounds than `alloc` has values. -/
def restartFuel : Nat := 2 ^ 32 + 3

/-
  `buffer_append_space`: where the new space starts, and the
  buffer with it.
-/
def appendSpace
    (heap : Nat → UInt8)
    (buffer : MemoryBuffer)
    (len : Nat) : Outcome (Nat × MemoryBuffer) :=
  restart heap len restartFuel buffer.rewind

/- Fills the space that was appended. -/
def fill
    (buffer : MemoryBuffer)
    (datap : Nat)
    (data : List UInt8) : Outcome MemoryBuffer := do
  let buf ←
    MemoryBlock.store Halt.outOfBounds buffer.buf datap data
  return { buffer with buf := buf }

/- `buffer_append` -/
def append
    (heap : Nat → UInt8)
    (buffer : MemoryBuffer)
    (data : List UInt8) : Outcome MemoryBuffer := do
  let (cp, buffer) ← buffer.appendSpace heap data.length
  buffer.fill cp data

/- `buffer_len` -/
def len (buffer : MemoryBuffer) : Nat :=
  u32Sub buffer.endOffset buffer.offset

/- `buffer_get` -/
def get
    (buffer : MemoryBuffer)
    (len : Nat) : Outcome (List UInt8 × MemoryBuffer) := do
  if len > u32Sub buffer.endOffset buffer.offset then
    .error bufferUnderrun
  else
    let data ←
      MemoryBlock.load Halt.outOfBounds buffer.buf
        buffer.offset len
    return (data, { buffer with
      offset := u32 (buffer.offset + len) })

/- `buffer_consume` -/
def consume
    (buffer : MemoryBuffer)
    (bytes : Nat) : Outcome MemoryBuffer :=
  if bytes > u32Sub buffer.endOffset buffer.offset then
    .error bufferUnderrun
  else
    .ok { buffer with offset := u32 (buffer.offset + bytes) }

/- `buffer_consume_end` -/
def consumeEnd
    (buffer : MemoryBuffer)
    (bytes : Nat) : Outcome MemoryBuffer :=
  if bytes > u32Sub buffer.endOffset buffer.offset then
    .error bufferUnderrun
  else
    .ok { buffer with
      endOffset := u32Sub buffer.endOffset bytes }

end MemoryBuffer

end Ssh1

------------------------------------------------------------
-- What a Buffer Holds
------------------------------------------------------------

namespace Ssh1

namespace MemoryBuffer

/- The offsets are in order and lie within the block. -/
structure Valid (buffer : MemoryBuffer) : Prop where
  offset_le : buffer.offset ≤ buffer.endOffset
  end_le : buffer.endOffset ≤ buffer.alloc
  size : buffer.buf.length = buffer.alloc
  word : buffer.alloc < 2 ^ 32

/- The bytes of `buf` from `offset` up to `end`. -/
def contents (buffer : MemoryBuffer) : Buffer :=
  (buffer.buf.take buffer.endOffset).drop buffer.offset

/- The buffer holds the bytes of the queue. -/
structure Holds
    (buffer : MemoryBuffer)
    (queue : Buffer) : Prop where
  valid : buffer.Valid
  contents_eq : buffer.contents = queue

/-
  The sums for the new space do not overflow: neither `end`
  nor, where the block has to grow, `alloc`.
-/
structure NoOverflow
    (buffer : MemoryBuffer)
    (len : Nat) : Prop where
  endOffset : buffer.rewind.endOffset + len < 2 ^ 32
  alloc :
    buffer.alloc ≤ buffer.rewind.endOffset + len →
    (buffer.alloc / 2 < buffer.rewind.offset →
      buffer.alloc ≤
        buffer.rewind.endOffset - buffer.rewind.offset +
          len) →
    buffer.alloc + len + 4096 < 2 ^ 32

variable {buffer : MemoryBuffer}
variable {queue : Buffer}

/- The contents lie between the two offsets. -/
theorem Valid.length_contents
    (hValid : buffer.Valid) :
    buffer.contents.length =
      buffer.endOffset - buffer.offset := by
  have hEnd := hValid.end_le
  have hSize := hValid.size
  rw [contents, List.length_drop, List.length_take]
  omega

/- `buffer_len` is the number of bytes in the queue. -/
theorem Holds.len_eq
    (hHolds : buffer.Holds queue) :
    u32Sub buffer.endOffset buffer.offset = queue.length := by
  have hValid := hHolds.valid
  have hEnd := hValid.end_le
  have hWord := hValid.word
  rw [u32Sub_of_le hValid.offset_le (by omega),
    ← hValid.length_contents, hHolds.contents_eq]

/- A new buffer is empty. -/
theorem init_holds
    (heap : Nat → UInt8) :
    (init heap).Holds [] := by
  refine ⟨⟨le_refl 0, ?_, ?_, ?_⟩, ?_⟩
  · simp [init]
  · simp [init]
  · simp [init]
  · simp [contents, init]

/- A cleared buffer is empty. -/
theorem clear_holds
    (hHolds : buffer.Holds queue) :
    buffer.clear.Holds [] := by
  have hValid := hHolds.valid
  refine ⟨⟨le_refl 0, Nat.zero_le _, hValid.size,
    hValid.word⟩, ?_⟩
  simp [contents, clear]

/- Moving the contents to the front keeps them. -/
theorem rewind_holds
    (hHolds : buffer.Holds queue) :
    buffer.rewind.Holds queue := by
  by_cases hEmpty : buffer.offset = buffer.endOffset
  · have hQueue : queue = [] := by
      apply List.eq_nil_of_length_eq_zero
      rw [← hHolds.contents_eq,
        hHolds.valid.length_contents]
      omega
    rw [rewind, if_pos hEmpty, hQueue]
    exact clear_holds hHolds
  · rw [rewind, if_neg hEmpty]
    exact hHolds

@[simp] theorem alloc_rewind
    (buffer : MemoryBuffer) :
    buffer.rewind.alloc = buffer.alloc := by
  unfold rewind clear
  split <;> rfl

end MemoryBuffer

end Ssh1

------------------------------------------------------------
-- Space for More Bytes
------------------------------------------------------------

namespace Ssh1

namespace MemoryBuffer

variable {buffer : MemoryBuffer}
variable {queue : Buffer}

/- Moving the data keeps what the buffer holds. -/
theorem compact_holds
    (hHolds : buffer.Holds queue) :
    ∃ buffer',
      buffer.compact = .ok buffer' ∧
        buffer'.Holds queue ∧
        buffer'.alloc = buffer.alloc ∧
        buffer'.offset = 0 ∧
        buffer'.endOffset =
          buffer.endOffset - buffer.offset := by
  have hValid := hHolds.valid
  have hStart := hValid.offset_le
  have hEnd := hValid.end_le
  have hSize := hValid.size
  have hWord := hValid.word
  have hLen :
      u32Sub buffer.endOffset buffer.offset =
        buffer.endOffset - buffer.offset :=
    u32Sub_of_le hStart (by omega)
  have hData :
      (buffer.buf.drop buffer.offset).take
          (buffer.endOffset - buffer.offset) = queue := by
    rw [← hHolds.contents_eq, contents, List.drop_take]
  have hLength :
      queue.length = buffer.endOffset - buffer.offset := by
    rw [← hHolds.contents_eq, hValid.length_contents]
  have hFits : 0 + queue.length ≤ buffer.buf.length := by
    omega
  refine ⟨{ buffer with
      buf := MemoryBlock.patch buffer.buf 0 queue
      offset := 0
      endOffset := buffer.endOffset - buffer.offset },
    ?_, ⟨⟨Nat.zero_le _, ?_, ?_, hWord⟩, ?_⟩, rfl, rfl, rfl⟩
  · rw [compact, hLen, MemoryBlock.move,
      MemoryBlock.load_of_le (by omega)]
    simp only [FallibleRun.ok_bind, hData,
      MemoryBlock.store_of_le hFits, FallibleRun.pure_eq_ok]
  · simp only
    omega
  · simp only [MemoryBlock.length_patch hFits, hSize]
  · have hTake := MemoryBlock.take_patch hFits
    rw [Nat.zero_add, hLength, List.take_zero,
      List.nil_append] at hTake
    rw [contents, List.drop_zero]
    exact hTake

@[simp] theorem endOffset_grow
    (heap : Nat → UInt8)
    (buffer : MemoryBuffer)
    (len : Nat) :
    (buffer.grow heap len).endOffset = buffer.endOffset := by
  simp only [grow]

/- A larger block keeps what the buffer holds. -/
theorem grow_holds
    (heap : Nat → UInt8)
    {len : Nat}
    (hHolds : buffer.Holds queue)
    (hSum : buffer.alloc + len + 4096 < 2 ^ 32) :
    (buffer.grow heap len).Holds queue ∧
      (buffer.grow heap len).alloc =
        buffer.alloc + len + 4096 := by
  have hValid := hHolds.valid
  have hEnd := hValid.end_le
  have hSize := hValid.size
  have hAlloc :
      u32 (buffer.alloc + u32 (len + 4096)) =
        buffer.alloc + len + 4096 := by
    have hInner : u32 (len + 4096) = len + 4096 :=
      u32_of_lt (by omega)
    rw [hInner, ← Nat.add_assoc]
    exact u32_of_lt hSum
  refine ⟨⟨⟨?_, ?_, ?_, ?_⟩, ?_⟩, ?_⟩
  · simp only [grow, hValid.offset_le]
  · simp only [grow, hAlloc]
    omega
  · simp only [grow, length_xrealloc]
  · simp only [grow, hAlloc]
    exact hSum
  · rw [← hHolds.contents_eq, contents, contents]
    simp only [grow]
    rw [take_xrealloc heap (by omega) (by omega)]
  · exact hAlloc

/-
  The space for `len` bytes that starts at `datap`, behind
  the bytes of the queue.
-/
structure Reserved
    (queue : Buffer)
    (len datap : Nat)
    (buffer : MemoryBuffer) : Prop where
  valid : buffer.Valid
  offset_le : buffer.offset ≤ datap
  endOffset : buffer.endOffset = datap + len
  before :
    (buffer.buf.take datap).drop buffer.offset = queue

/- With enough room the loop is left at once. -/
theorem restart_of_room
    (heap : Nat → UInt8)
    {len : Nat}
    (fuel : Nat)
    (hHolds : buffer.Holds queue)
    (hRoom : buffer.endOffset + len < buffer.alloc) :
    ∃ datap buffer',
      restart heap len (fuel + 1) buffer =
          .ok (datap, buffer') ∧
        Reserved queue len datap buffer' := by
  have hValid := hHolds.valid
  have hWord := hValid.word
  have hStart := hValid.offset_le
  have hSum :
      u32 (buffer.endOffset + len) =
        buffer.endOffset + len :=
    u32_of_lt (by omega)
  refine ⟨buffer.endOffset, { buffer with
      endOffset := buffer.endOffset + len }, ?_,
    ⟨⟨?_, ?_, hValid.size, hWord⟩, hStart, rfl,
      hHolds.contents_eq⟩⟩
  · rw [restart, hSum, if_pos hRoom]
  · simp only
    omega
  · simp only
    omega

/- Otherwise the block grows, unless it was moved before. -/
theorem restart_of_front
    (heap : Nat → UInt8)
    {len : Nat}
    (fuel : Nat)
    (hHolds : buffer.Holds queue)
    (hFront : buffer.offset ≤ buffer.alloc / 2)
    (hEnd : buffer.endOffset + len < 2 ^ 32)
    (hAlloc :
      buffer.alloc ≤ buffer.endOffset + len →
      buffer.alloc + len + 4096 < 2 ^ 32) :
    ∃ datap buffer',
      restart heap len (fuel + 2) buffer =
          .ok (datap, buffer') ∧
        Reserved queue len datap buffer' := by
  by_cases hRoom : buffer.endOffset + len < buffer.alloc
  · exact restart_of_room heap (fuel + 1) hHolds hRoom
  · have hSum := hAlloc (by omega)
    rcases grow_holds heap hHolds hSum with
      ⟨hGrown, hLarger⟩
    have hKept := endOffset_grow heap buffer len
    have hOldEnd := hHolds.valid.end_le
    have hEnough :
        (buffer.grow heap len).endOffset + len <
          (buffer.grow heap len).alloc := by
      omega
    rw [restart, u32_of_lt hEnd, if_neg hRoom,
      if_neg (by omega)]
    exact restart_of_room heap fuel hGrown hEnough

/-
  Where no sum overflows, the loop ends after at most three
  rounds, with room for the bytes.
-/
theorem appendSpace_reserves
    (heap : Nat → UInt8)
    {len : Nat}
    (hHolds : buffer.Holds queue)
    (hSafe : buffer.NoOverflow len) :
    ∃ datap buffer',
      buffer.appendSpace heap len = .ok (datap, buffer') ∧
        Reserved queue len datap buffer' := by
  have hEnd := hSafe.endOffset
  have hAlloc := hSafe.alloc
  have hFuel : restartFuel = 2 ^ 32 + 3 := rfl
  have hRewound := rewind_holds hHolds
  rw [← alloc_rewind] at hAlloc
  rw [appendSpace, hFuel]
  generalize buffer.rewind = start at hEnd hAlloc hRewound
  by_cases hFront : start.offset ≤ start.alloc / 2
  · exact restart_of_front heap (2 ^ 32 + 1) hRewound hFront
      hEnd fun hFull => hAlloc hFull fun hBack =>
        absurd hFront (Nat.not_le.mpr hBack)
  · by_cases hRoom : start.endOffset + len < start.alloc
    · exact restart_of_room heap (2 ^ 32 + 2) hRewound hRoom
    · rcases compact_holds hRewound with
        ⟨moved, hMoved, hHeld, hSame, hZero, hLess⟩
      rw [restart, u32_of_lt hEnd, if_neg hRoom,
        if_pos (by omega), hMoved, FallibleRun.ok_bind]
      apply restart_of_front heap (2 ^ 32) hHeld
      · rw [hZero]
        exact Nat.zero_le _
      · omega
      · rw [hSame, hLess]
        exact fun hFull =>
          hAlloc (by omega) fun _ => hFull

/- The filled space follows the bytes of the queue. -/
theorem Reserved.fill_holds
    {data : List UInt8}
    {datap : Nat}
    (hReserved :
      Reserved queue data.length datap buffer) :
    ∃ buffer',
      buffer.fill datap data = .ok buffer' ∧
        buffer'.Holds (bufferAppend queue data) := by
  have hValid := hReserved.valid
  have hEnd := hValid.end_le
  have hSize := hValid.size
  have hStop := hReserved.endOffset
  have hStart := hReserved.offset_le
  have hFits : datap + data.length ≤ buffer.buf.length := by
    omega
  refine ⟨{ buffer with
      buf := MemoryBlock.patch buffer.buf datap data }, ?_,
    ⟨⟨hValid.offset_le, hEnd, ?_, hValid.word⟩, ?_⟩⟩
  · rw [fill, MemoryBlock.store_of_le hFits]
    rfl
  · simp only [MemoryBlock.length_patch hFits, hSize]
  · have hTake := MemoryBlock.take_patch hFits
    have hLength :
        (buffer.buf.take datap).length = datap := by
      rw [List.length_take]
      omega
    simp only [contents]
    rw [hStop, hTake,
      List.drop_append_of_le_length (by omega),
      hReserved.before]
    rfl

/- Data that does not wrap is put at the end. -/
theorem append_holds
    (heap : Nat → UInt8)
    {data : List UInt8}
    (hHolds : buffer.Holds queue)
    (hSafe : buffer.NoOverflow data.length) :
    ∃ buffer',
      buffer.append heap data = .ok buffer' ∧
        buffer'.Holds (bufferAppend queue data) := by
  rcases appendSpace_reserves heap hHolds hSafe with
    ⟨datap, reserved, hOk, hReserved⟩
  rcases hReserved.fill_holds with
    ⟨buffer', hFill, hFilled⟩
  refine ⟨buffer', ?_, hFilled⟩
  rw [append, hOk, FallibleRun.ok_bind]
  exact hFill

end MemoryBuffer

end Ssh1

------------------------------------------------------------
-- Taking Bytes
------------------------------------------------------------

namespace Ssh1

namespace MemoryBuffer

variable {buffer : MemoryBuffer}
variable {queue : Buffer}

/- Fewer bytes at the front, as `buffer_consume` leaves them. -/
theorem consumed_holds
    {n : Nat}
    (hHolds : buffer.Holds queue)
    (hHeld : n ≤ queue.length) :
    u32 (buffer.offset + n) = buffer.offset + n ∧
      ({ buffer with
        offset := buffer.offset + n } : MemoryBuffer).Holds
          (queue.drop n) := by
  have hValid := hHolds.valid
  have hEnd := hValid.end_le
  have hWord := hValid.word
  have hStart := hValid.offset_le
  have hLength :
      queue.length = buffer.endOffset - buffer.offset := by
    rw [← hHolds.contents_eq, hValid.length_contents]
  refine ⟨u32_of_lt (by omega), ⟨?_, hEnd, hValid.size,
    hWord⟩, ?_⟩
  · simp only
    omega
  · rw [← hHolds.contents_eq, contents, contents,
      List.drop_drop]

/- Dropping bytes ends as it does on the queue. -/
theorem consume_endsAlike
    {n : Nat}
    (hHolds : buffer.Holds queue) :
    (∃ buffer',
      buffer.consume n = .ok buffer' ∧
        bufferConsume queue n = .ok (queue.drop n) ∧
        buffer'.Holds (queue.drop n)) ∨
      buffer.consume n = .error bufferUnderrun ∧
        bufferConsume queue n = .error bufferUnderrun := by
  rw [consume, bufferConsume, hHolds.len_eq]
  by_cases hMore : n > queue.length
  · rw [if_pos hMore, if_pos hMore]
    exact Or.inr ⟨rfl, rfl⟩
  · rcases consumed_holds hHolds (Nat.not_lt.mp hMore) with
      ⟨hSum, hLeft⟩
    rw [if_neg hMore, if_neg hMore, hSum]
    exact Or.inl ⟨_, rfl, rfl, hLeft⟩

/- Getting bytes ends as it does on the queue. -/
theorem get_endsAlike
    {n : Nat}
    (hHolds : buffer.Holds queue) :
    (∃ buffer',
      buffer.get n = .ok (queue.take n, buffer') ∧
        bufferGet queue n =
          .ok (queue.take n, queue.drop n) ∧
        buffer'.Holds (queue.drop n)) ∨
      buffer.get n = .error bufferUnderrun ∧
        bufferGet queue n = .error bufferUnderrun := by
  rw [get, bufferGet, hHolds.len_eq]
  by_cases hMore : n > queue.length
  · rw [if_pos hMore, if_pos hMore]
    exact Or.inr ⟨rfl, rfl⟩
  · rcases consumed_holds hHolds (Nat.not_lt.mp hMore) with
      ⟨hSum, hLeft⟩
    have hValid := hHolds.valid
    have hEnd := hValid.end_le
    have hSize := hValid.size
    have hStart := hValid.offset_le
    have hLength :
        queue.length = buffer.endOffset - buffer.offset := by
      rw [← hHolds.contents_eq, hValid.length_contents]
    have hData :
        (buffer.buf.drop buffer.offset).take n =
          queue.take n := by
      rw [← hHolds.contents_eq, contents, List.drop_take,
        List.take_take, Nat.min_eq_left (by omega)]
    rw [if_neg hMore, if_neg hMore, hSum,
      MemoryBlock.load_of_le (by omega), hData]
    exact Or.inl ⟨_, rfl, rfl, hLeft⟩

/- Dropping bytes at the end does so too. -/
theorem consumeEnd_endsAlike
    {n : Nat}
    (hHolds : buffer.Holds queue) :
    (∃ buffer' left,
      buffer.consumeEnd n = .ok buffer' ∧
        bufferConsumeEnd queue n = .ok left ∧
        buffer'.Holds left) ∨
      buffer.consumeEnd n = .error bufferUnderrun ∧
        bufferConsumeEnd queue n =
          .error bufferUnderrun := by
  rw [consumeEnd, bufferConsumeEnd, hHolds.len_eq]
  by_cases hMore : n > queue.length
  · rw [if_pos hMore, if_pos hMore]
    exact Or.inr ⟨rfl, rfl⟩
  · have hValid := hHolds.valid
    have hEnd := hValid.end_le
    have hWord := hValid.word
    have hStart := hValid.offset_le
    have hLength :
        queue.length = buffer.endOffset - buffer.offset := by
      rw [← hHolds.contents_eq, hValid.length_contents]
    have hLess :
        u32Sub buffer.endOffset n = buffer.endOffset - n :=
      u32Sub_of_le (by omega) (by omega)
    rw [if_neg hMore, if_neg hMore, hLess]
    refine Or.inl ⟨_, _, rfl, rfl,
      ⟨⟨?_, ?_, hValid.size, hWord⟩, ?_⟩⟩
    · simp only
      omega
    · simp only
      omega
    · have hStop :
          min (buffer.offset +
              (buffer.endOffset - buffer.offset - n))
            buffer.endOffset = buffer.endOffset - n := by
        omega
      rw [hLength, ← hHolds.contents_eq, contents, contents,
        List.take_drop, List.take_take, hStop]

end MemoryBuffer

end Ssh1

------------------------------------------------------------
-- Runs
------------------------------------------------------------

namespace Ssh1

open OutputRefinement

/- Data whose length is an `unsigned int`. -/
structure Chunk where
  data : List UInt8
  word : data.length < 2 ^ 32

/- The calls that change a buffer. -/
inductive BufferCall where
  | clear
  | append (chunk : Chunk)
  -- `buffer_append_space`, and the caller fills the space
  | appendSpace (chunk : Chunk)
  | get (len : UInt32)
  | consume (bytes : UInt32)
  | consumeEnd (bytes : UInt32)

namespace BufferCall

/- The call on the buffer in memory, with what it copies out. -/
def onMemory
    (heap : Nat → UInt8)
    (buffer : MemoryBuffer) :
    BufferCall → Outcome (List UInt8 × MemoryBuffer)
| .clear => .ok ([], buffer.clear)
| .append chunk => do
    let buffer ← buffer.append heap chunk.data
    return ([], buffer)
| .appendSpace chunk => do
    let (datap, buffer) ←
      buffer.appendSpace heap chunk.data.length
    let buffer ← buffer.fill datap chunk.data
    return ([], buffer)
| .get len => buffer.get len.toNat
| .consume bytes => do
    let buffer ← buffer.consume bytes.toNat
    return ([], buffer)
| .consumeEnd bytes => do
    let buffer ← buffer.consumeEnd bytes.toNat
    return ([], buffer)

/- The call on the queue of the bytes. -/
def onQueue
    (queue : Buffer) :
    BufferCall → Outcome (List UInt8 × Buffer)
| .clear => .ok ([], [])
| .append chunk => .ok ([], bufferAppend queue chunk.data)
| .appendSpace chunk =>
    .ok ([], bufferAppend queue chunk.data)
| .get len => bufferGet queue len.toNat
| .consume bytes => do
    let queue ← bufferConsume queue bytes.toNat
    return ([], queue)
| .consumeEnd bytes => do
    let queue ← bufferConsumeEnd queue bytes.toNat
    return ([], queue)

/- The sums of the call do not overflow. -/
def Fits (buffer : MemoryBuffer) : BufferCall → Prop
| .append chunk => buffer.NoOverflow chunk.data.length
| .appendSpace chunk => buffer.NoOverflow chunk.data.length
| _ => True

/- One call does in memory what it does to the queue. -/
theorem endsAlike
    (heap : Nat → UInt8)
    {buffer : MemoryBuffer}
    {queue : Buffer}
    (call : BufferCall)
    (hHolds : buffer.Holds queue)
    (hFits : call.Fits buffer) :
    EndsAlike MemoryBuffer.Holds (call.onMemory heap buffer)
      (call.onQueue queue) := by
  cases call with
  | clear =>
      exact Or.inr ⟨_, _, _, rfl, rfl,
        MemoryBuffer.clear_holds hHolds⟩
  | append chunk =>
      rcases MemoryBuffer.append_holds heap hHolds hFits with
        ⟨buffer', hOk, hFilled⟩
      refine Or.inr ⟨[], buffer', _, ?_, rfl, hFilled⟩
      rw [onMemory, hOk]
      rfl
  | appendSpace chunk =>
      rcases MemoryBuffer.append_holds heap hHolds hFits with
        ⟨buffer', hOk, hFilled⟩
      refine Or.inr ⟨[], buffer', _, ?_, rfl, hFilled⟩
      rw [MemoryBuffer.append] at hOk
      rcases FallibleRun.bind_eq_ok_iff.mp hOk with
        ⟨⟨datap, space⟩, hSpace, hFill⟩
      replace hFill :
          space.fill datap chunk.data = .ok buffer' := hFill
      rw [onMemory, hSpace]
      simp only [FallibleRun.ok_bind]
      rw [hFill]
      rfl
  | get len =>
      rcases MemoryBuffer.get_endsAlike hHolds with
        ⟨buffer', hOk, hQueue, hLeft⟩ | ⟨hError, hQueue⟩
      · exact Or.inr ⟨_, buffer', _, hOk, hQueue, hLeft⟩
      · exact Or.inl ⟨_, hError, hQueue⟩
  | consume bytes =>
      rcases MemoryBuffer.consume_endsAlike hHolds with
        ⟨buffer', hOk, hQueue, hLeft⟩ | ⟨hError, hQueue⟩
      · refine Or.inr ⟨[], buffer', _, ?_, ?_, hLeft⟩
        · rw [onMemory, hOk]
          rfl
        · rw [onQueue, hQueue]
          rfl
      · refine Or.inl ⟨bufferUnderrun, ?_, ?_⟩
        · rw [onMemory, hError]
          rfl
        · rw [onQueue, hQueue]
          rfl
  | consumeEnd bytes =>
      rcases MemoryBuffer.consumeEnd_endsAlike hHolds with
        ⟨buffer', left, hOk, hQueue, hLeft⟩ |
          ⟨hError, hQueue⟩
      · refine Or.inr ⟨[], buffer', left, ?_, ?_, hLeft⟩
        · rw [onMemory, hOk]
          rfl
        · rw [onQueue, hQueue]
          rfl
      · refine Or.inl ⟨bufferUnderrun, ?_, ?_⟩
        · rw [onMemory, hError]
          rfl
        · rw [onQueue, hQueue]
          rfl

end BufferCall

end Ssh1

------------------------------------------------------------
-- Main Results
------------------------------------------------------------

namespace Ssh1

open OutputRefinement

/- A run over the queue stops for one reason only. -/
theorem BufferCall.runOutputs_onQueue_error
    {queue : Buffer}
    {calls : List BufferCall}
    {halt : Halt}
    (hRun :
      runOutputs BufferCall.onQueue queue calls =
        .error halt) :
    halt = bufferUnderrun := by
  induction calls generalizing queue with
  | nil => cases hRun
  | cons call calls ih =>
      rw [runOutputs] at hRun
      cases hStep : call.onQueue queue with
      | error halt' =>
          rw [hStep] at hRun
          cases hRun
          revert hStep
          cases call with
          | clear => simp [onQueue]
          | append chunk => simp [onQueue]
          | appendSpace chunk => simp [onQueue]
          | get len =>
              simp only [onQueue, bufferGet]
              split <;> simp_all
          | consume bytes =>
              simp only [onQueue, bufferConsume]
              split <;> simp_all
          | consumeEnd bytes =>
              simp only [onQueue, bufferConsumeEnd]
              split <;> simp_all
      | ok result =>
          rw [hStep] at hRun
          cases hRest :
              runOutputs BufferCall.onQueue result.2
                calls with
          | error halt' =>
              simp only [hRest] at hRun
              cases hRun
              exact ih hRest
          | ok results =>
              simp only [hRest] at hRun
              cases hRun

/-
  A buffer refines a queue of bytes. In a run whose sums do
  not overflow, both stop with the same fatal error or give
  the same bytes; then the offsets are in order, the part
  between them is the queue, and the loop for more space
  ends with room for it.
-/
theorem MemoryBuffer.run_refinesQueue
    (heap : Nat → UInt8)
    (calls : List BufferCall)
    (hFit :
      AllFit (BufferCall.onMemory heap) (fun buffer call =>
        call.Fits buffer) (init heap) calls) :
    (runOutputs (BufferCall.onMemory heap) (init heap)
          calls = .error bufferUnderrun ∧
        runOutputs BufferCall.onQueue [] calls =
          .error bufferUnderrun) ∨
      ∃ taken buffer,
        runOutputs (BufferCall.onMemory heap) (init heap)
            calls = .ok (taken, buffer) ∧
          runOutputs BufferCall.onQueue [] calls =
            .ok (taken, buffer.contents) ∧
          buffer.offset ≤ buffer.endOffset ∧
          buffer.endOffset ≤ buffer.alloc ∧
          buffer.buf.length = buffer.alloc ∧
          ∀ len, buffer.NoOverflow len →
            ∃ datap buffer',
              buffer.appendSpace heap len =
                  .ok (datap, buffer') ∧
                datap + len ≤ buffer'.buf.length := by
  have hAlike :=
    run_endsAlike (fun _ _ call hRel hCall =>
      BufferCall.endsAlike heap call hRel hCall)
      (init_holds heap) hFit
  rcases hAlike with
    ⟨halt, hRun, hQueue⟩ |
      ⟨taken, buffer, queue, hRun, hQueue, hHolds⟩
  · have hHalt :=
      BufferCall.runOutputs_onQueue_error hQueue
    rw [hHalt] at hRun hQueue
    exact Or.inl ⟨hRun, hQueue⟩
  · have hValid := hHolds.valid
    refine Or.inr ⟨taken, buffer, hRun, ?_,
      hValid.offset_le, hValid.end_le, hValid.size, ?_⟩
    · rw [hHolds.contents_eq]
      exact hQueue
    · intro len hSafe
      rcases appendSpace_reserves heap hHolds hSafe with
        ⟨datap, buffer', hOk, hReserved⟩
      have hEnd := hReserved.valid.end_le
      have hSize := hReserved.valid.size
      have hStop := hReserved.endOffset
      exact ⟨datap, buffer', hOk, by omega⟩

/- Nothing overflows while the first block has room. -/
theorem MemoryBuffer.noOverflow_init
    (heap : Nat → UInt8)
    {len : Nat}
    (hRoom : len < 4096) :
    (init heap).NoOverflow len := by
  have hRewind : (init heap).rewind = (init heap).clear :=
    if_pos rfl
  constructor
  · rw [hRewind]
    show 0 + len < 2 ^ 32
    omega
  · rw [hRewind]
    intro hFull
    have hLess : 4096 ≤ 0 + len := hFull
    omega

theorem MemoryBuffer.run_refinesQueue_appendGet :
    AllFit (BufferCall.onMemory fun _ => 0)
        (fun buffer call => call.Fits buffer)
        (init fun _ => 0)
        [.append ⟨[1, 2, 3], by decide⟩, .get 2,
          .consume 1] ∧
      ∃ taken buffer,
        runOutputs (BufferCall.onMemory fun _ => 0)
            (init fun _ => 0)
            [.append ⟨[1, 2, 3], by decide⟩, .get 2,
              .consume 1] = .ok (taken, buffer) ∧
          buffer.contents = [] := by
  have hFit :
      AllFit (BufferCall.onMemory fun _ => 0)
        (fun buffer call => call.Fits buffer)
        (init fun _ => 0)
        [.append ⟨[1, 2, 3], by decide⟩, .get 2,
          .consume 1] := by
    refine ⟨noOverflow_init _ (by decide), fun _ _ _ =>
      ⟨trivial, fun _ _ _ => ⟨trivial, fun _ _ _ => trivial⟩⟩⟩
  refine ⟨hFit, ?_⟩
  rcases run_refinesQueue (fun _ => 0) _ hFit with
    ⟨-, hQueue⟩ | ⟨taken, buffer, hRun, hQueue, -⟩
  · cases hQueue
  · have hTaken := Except.ok.inj hQueue
    exact ⟨taken, buffer, hRun,
      (congrArg Prod.snd hTaken).symm⟩

/-
  Where the sum for `end` overflows, the space check passes
  and the bytes are written beyond the block.
-/
theorem MemoryBuffer.append_of_overflow
    (heap : Nat → UInt8)
    {buffer : MemoryBuffer}
    {queue : Buffer}
    {chunk : Chunk}
    (hHolds : buffer.Holds queue)
    (hOverflow :
      2 ^ 32 ≤
        buffer.rewind.endOffset + chunk.data.length) :
    buffer.append heap chunk.data = .error .outOfBounds := by
  have hWord := chunk.word
  have hRewound := rewind_holds hHolds
  have hFuel : restartFuel = 2 ^ 32 + 3 := rfl
  rw [append, appendSpace, hFuel]
  generalize buffer.rewind = start at hOverflow hRewound
  have hEnd := hRewound.valid.end_le
  have hSize := hRewound.valid.size
  have hAlloc := hRewound.valid.word
  have hSum :
      u32 (start.endOffset + chunk.data.length) =
        start.endOffset + chunk.data.length - 2 ^ 32 := by
    unfold u32
    omega
  rw [restart, hSum, if_pos (by omega), FallibleRun.ok_bind]
  simp only [fill, MemoryBlock.store]
  rw [if_neg (by omega)]
  rfl

/-
  Behind the first bytes of a buffer, the sum for `end`
  overflows for a length near 2 to the power of 32.
-/
theorem MemoryBuffer.run_of_overflow
    (heap : Nat → UInt8)
    (first huge : Chunk)
    (hFirst : first.data.length < 4096)
    (hOverflow :
      2 ^ 32 ≤ first.data.length + huge.data.length) :
    runOutputs (BufferCall.onMemory heap) (init heap)
        [.append first, .append huge] =
      .error .outOfBounds ∧
    runOutputs BufferCall.onQueue []
        [.append first, .append huge] =
      .ok ([[], []], first.data ++ huge.data) := by
  constructor
  · rcases append_holds heap (init_holds heap)
        (noOverflow_init heap hFirst) with
      ⟨buffer, hOk, hHolds⟩
    have hRewound := rewind_holds hHolds
    have hHeld :
        first.data.length ≤ buffer.rewind.endOffset := by
      have hLength := hRewound.valid.length_contents
      rw [hRewound.contents_eq, bufferAppend,
        List.nil_append] at hLength
      omega
    have hOver :
        buffer.append heap huge.data = .error .outOfBounds :=
      append_of_overflow heap hHolds (by omega)
    rw [runOutputs, BufferCall.onMemory, hOk]
    simp only [FallibleRun.ok_bind, FallibleRun.pure_eq_ok]
    rw [runOutputs, BufferCall.onMemory, hOver]
    rfl
  · rfl

/- The given number of zero bytes. -/
def Chunk.zeros
    (n : Nat)
    (hWord : n < 2 ^ 32) : Chunk where
  data := List.replicate n 0
  word := by
    rw [List.length_replicate]
    exact hWord

theorem Chunk.length_zeros
    (n : Nat)
    (hWord : n < 2 ^ 32) :
    (zeros n hWord).data.length = n :=
  List.length_replicate

theorem MemoryBuffer.run_not_refinesQueue :
    runOutputs (BufferCall.onMemory fun _ => 0)
        (init fun _ => 0)
        [.append (.zeros 10 (by decide)),
          .append (.zeros 4294967291 (by decide))] =
      .error .outOfBounds ∧
    runOutputs BufferCall.onQueue []
        [.append (.zeros 10 (by decide)),
          .append (.zeros 4294967291 (by decide))] =
      .ok ([[], []],
        (Chunk.zeros 10 (by decide)).data ++
          (Chunk.zeros 4294967291 (by decide)).data) := by
  apply run_of_overflow
  · rw [Chunk.length_zeros]
    decide
  · rw [Chunk.length_zeros, Chunk.length_zeros]
    decide

end Ssh1
