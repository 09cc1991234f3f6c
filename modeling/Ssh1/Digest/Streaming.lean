import Ssh1.Base.Halt
import Ssh1.Digest.Transform
import Ssh1.Lib.BlockStream
import Ssh1.Lib.MemoryBlock

/-
  Message digests of messages that come in pieces.

  A context holds the four words, the number of bits so far
  in two words, and the bytes that do not make up a block
  yet. What else the memory of the block holds is left over
  from before.

  Main declarations:
    * `Md5Context`, `md5Init`, `md5Update`, `md5Final`
    * `Md5.digest`
    * `md5Final_of_represents`
    * `md5_chunks`
-/

------------------------------------------------------------
-- Contexts
------------------------------------------------------------

namespace Ssh1

/- The struct `MD5Context`; `block` is its member `in`. -/
structure Md5Context where
  buf : Md5Words
  bits0 : Word32
  bits1 : Word32
  block : List UInt8
  deriving DecidableEq, Repr

/- `MD5Init`: the input buffer keeps what it held. -/
def md5Init (ctx : Md5Context) : Md5Context :=
  { ctx with
      buf := ⟨0x67452301, 0xefcdab89, 0x98badcfe, 0x10325476⟩
      bits0 := 0
      bits1 := 0 }

/- Stores bytes in the block of a context. -/
def md5Store
    (place : Nat)
    (data : List UInt8)
    (ctx : Md5Context) : Outcome Md5Context := do
  let block ←
    MemoryBlock.store Halt.outOfBounds ctx.block place data
  return { ctx with block }

/- `MD5Transform (ctx->buf, ctx->in)` -/
def md5TransformBlock (ctx : Md5Context) : Md5Context :=
  { ctx with buf := md5Transform ctx.buf ctx.block }

/- Updates the bit count, with a carry from low to high. -/
def md5UpdateBits
    (len : Nat)
    (ctx : Md5Context) : Md5Context :=
  let len := UInt32.ofNat len
  let t := ctx.bits0
  let bits0 := t + (len <<< 3)
  let bits1 := if bits0 < t then ctx.bits1 + 1 else ctx.bits1
  { ctx with bits0, bits1 := bits1 + (len >>> 29) }

/-
  Processes data in 64-byte chunks, and handles any remaining
  bytes. Every turn takes bytes, so that their number is
  enough for the turns.
-/
def md5UpdateBlocks :
    Nat → List UInt8 → Md5Context → Outcome Md5Context
| 0, buf, ctx => md5Store 0 buf ctx
| turns + 1, buf, ctx => do
    if 64 ≤ buf.length then
      let ctx ← md5Store 0 (buf.take 64) ctx
      md5UpdateBlocks turns (buf.drop 64)
        (md5TransformBlock ctx)
    else
      md5Store 0 buf ctx

/- `MD5Update`, with as many bytes as the caller says. -/
def md5Update
    (ctx : Md5Context)
    (buf : List UInt8) : Outcome Md5Context := do
  -- the bytes that are in the block already
  let t := (ctx.bits0 >>> 3 &&& 0x3f).toNat
  let ctx := md5UpdateBits buf.length ctx
  if t ≠ 0 then
    if buf.length < 64 - t then
      md5Store t buf ctx
    else
      let ctx ← md5Store t (buf.take (64 - t)) ctx
      md5UpdateBlocks buf.length (buf.drop (64 - t))
        (md5TransformBlock ctx)
  else
    md5UpdateBlocks buf.length buf ctx

/- The four words as the sixteen bytes of the digest. -/
def md5PutWords (buf : Md5Words) : List UInt8 :=
  let put := WordOrder.lsbFirst.put32Bit
  put buf.a ++ put buf.b ++ put buf.c ++ put buf.d

/-
  `MD5Final`, with what is left of the context: the size that
  is cleared is the one of a pointer, which are two words.
-/
def md5Final
    (ctx : Md5Context) :
    Outcome (List UInt8 × Md5Context) := do
  let count := (ctx.bits0 >>> 3 &&& 0x3f).toNat
  -- there is always at least one byte free
  let ctx ← md5Store count [0x80] ctx
  let place := count + 1
  let count := 64 - 1 - count
  let ctx ←
    if count < 8 then do
      -- two lots of padding
      let ctx ← md5Store place (List.replicate count 0) ctx
      md5Store 0 (List.replicate 56 0) (md5TransformBlock ctx)
    else
      md5Store place (List.replicate (count - 8) 0) ctx
  let put := WordOrder.lsbFirst.put32Bit
  let ctx ← md5Store 56 (put ctx.bits0) ctx
  let ctx ← md5Store 60 (put ctx.bits1) ctx
  let ctx := md5TransformBlock ctx
  return (md5PutWords ctx.buf,
    { ctx with buf := { ctx.buf with a := 0, b := 0 } })

end Ssh1

------------------------------------------------------------
-- Digests
------------------------------------------------------------

namespace Ssh1

namespace Md5

/- The four words that the algorithm starts from. -/
def start : Md5Words :=
  ⟨0x67452301, 0xefcdab89, 0x98badcfe, 0x10325476⟩

/- The number of bits in 64 bits, least significant first. -/
def lengthBytes (message : List UInt8) : List UInt8 :=
  (BigEndian.toBytes 8 (8 * message.length)).reverse

/- A single one bit, and zeros up to the last eight bytes. -/
def padding (message : List UInt8) : List UInt8 :=
  0x80 ::
    List.replicate ((119 - message.length % 64) % 64) 0

/- The digest of a message that is there as a whole. -/
def digest (message : List UInt8) : List UInt8 :=
  md5PutWords
    (BlockStream.chain 64 compress start
      (message ++ (padding message ++ lengthBytes message)))

theorem length_digest
    (message : List UInt8) :
    (digest message).length = 16 :=
  rfl

end Md5

end Ssh1

------------------------------------------------------------
-- Updates
------------------------------------------------------------

namespace Ssh1

open BlockStream

variable {ctx : Md5Context}
variable {message buf data : List UInt8}

/- What a context holds of the message so far. -/
structure Md5Context.Represents
    (ctx : Md5Context)
    (message : List UInt8) : Prop where
  length_eq : ctx.block.length = 64
  counted :
    ctx.bits0.toNat + 2 ^ 32 * ctx.bits1.toNat =
      8 * message.length % 2 ^ 64
  holds :
    Holds 64 Md5.compress Md5.start message ctx.buf
      (ctx.block.take (message.length % 64))

theorem md5Init_represents
    (hLength : ctx.block.length = 64) :
    (md5Init ctx).Represents [] where
  length_eq := hLength
  counted := rfl
  holds := .nil (by omega)

/- The bytes of the block that are part of the message. -/
theorem Md5Context.Represents.place
    (hRepresents : ctx.Represents message) :
    (ctx.bits0 >>> 3 &&& 0x3f).toNat =
      message.length % 64 := by
  have hCounted := hRepresents.counted
  have hMask :
      (ctx.bits0 >>> 3 &&& 0x3f).toNat =
        ctx.bits0.toNat / 8 % 64 := by
    rw [UInt32.toNat_and, UInt32.toNat_shiftRight,
      Nat.shiftRight_eq_div_pow]
    exact Nat.and_two_pow_sub_one_eq_mod _ 6
  have hLow := ctx.bits0.toNat_lt
  rw [hMask]
  omega

/- A number of two words, modulo what they can hold. -/
theorem two_words_mod
    {low high : Nat}
    (hLow : low < 2 ^ 32) :
    (low + 2 ^ 32 * high) % 2 ^ 64 =
      low + 2 ^ 32 * (high % 2 ^ 32) := by
  have hSplit : 2 ^ 64 = 2 ^ 32 * 2 ^ 32 := by norm_num
  rw [hSplit, Nat.mod_mul, Nat.add_mul_mod_self_left,
    Nat.mod_eq_of_lt hLow,
    Nat.add_mul_div_left _ _ (by norm_num),
    Nat.div_eq_of_lt hLow, Nat.zero_add]

/- The carry makes the two words one count of the bits. -/
theorem md5UpdateBits_counted
    {len : Nat}
    (hLen : len < 2 ^ 32)
    (hCounted :
      ctx.bits0.toNat + 2 ^ 32 * ctx.bits1.toNat =
        8 * message.length % 2 ^ 64) :
    (md5UpdateBits len ctx).bits0.toNat +
        2 ^ 32 * (md5UpdateBits len ctx).bits1.toNat =
      8 * (message.length + len) % 2 ^ 64 := by
  have hLow := ctx.bits0.toNat_lt
  have hWord : (UInt32.ofNat len).toNat = len := by
    rw [UInt32.toNat_ofNat', Nat.mod_eq_of_lt hLen]
  have hShift :
      (UInt32.ofNat len <<< 3).toNat = 8 * len % 2 ^ 32 := by
    rw [UInt32.toNat_shiftLeft, hWord, Nat.shiftLeft_eq,
      Nat.mul_comm]
    rfl
  have hCarried :
      (UInt32.ofNat len >>> 29).toNat = len / 2 ^ 29 := by
    rw [UInt32.toNat_shiftRight, hWord,
      Nat.shiftRight_eq_div_pow]
    rfl
  have hParts :
      8 * len = 8 * len % 2 ^ 32 + 2 ^ 32 * (len / 2 ^ 29) := by
    omega
  have hTotal :
      8 * (message.length + len) % 2 ^ 64 =
        (ctx.bits0.toNat + 8 * len % 2 ^ 32 +
          2 ^ 32 * (ctx.bits1.toNat + len / 2 ^ 29)) %
            2 ^ 64 := by
    rw [Nat.mul_add, Nat.add_mod, ← hCounted, Nat.add_mod_mod,
      hParts]
    congr 1
    omega
  have hBits0 :
      (md5UpdateBits len ctx).bits0.toNat =
        (ctx.bits0.toNat + 8 * len % 2 ^ 32) % 2 ^ 32 := by
    simp only [md5UpdateBits, UInt32.toNat_add, hShift]
  have hBits1 :
      (md5UpdateBits len ctx).bits1.toNat =
        (ctx.bits1.toNat + len / 2 ^ 29 +
          if (md5UpdateBits len ctx).bits0.toNat <
              ctx.bits0.toNat then 1
          else 0) % 2 ^ 32 := by
    simp only [md5UpdateBits, UInt32.lt_iff_toNat_lt]
    split
    · rw [UInt32.toNat_add, UInt32.toNat_add, hCarried,
        Nat.mod_add_mod, Nat.add_right_comm]
      rfl
    · rw [UInt32.toNat_add, hCarried]
      rfl
  rw [hBits1, hBits0, hTotal]
  by_cases hFits :
      ctx.bits0.toNat + 8 * len % 2 ^ 32 < 2 ^ 32
  · rw [Nat.mod_eq_of_lt hFits, if_neg (by omega),
      two_words_mod hFits, Nat.add_zero]
  · have hOver :
        (ctx.bits0.toNat + 8 * len % 2 ^ 32) % 2 ^ 32 =
          ctx.bits0.toNat + 8 * len % 2 ^ 32 - 2 ^ 32 := by
      omega
    have hRound : 8 * len % 2 ^ 32 < 2 ^ 32 :=
      Nat.mod_lt _ (by norm_num)
    have hSame :
        ctx.bits0.toNat + 8 * len % 2 ^ 32 +
            2 ^ 32 * (ctx.bits1.toNat + len / 2 ^ 29) =
          (ctx.bits0.toNat + 8 * len % 2 ^ 32 - 2 ^ 32) +
            2 ^ 32 * (ctx.bits1.toNat + len / 2 ^ 29 + 1) := by
      omega
    rw [hOver, if_pos (by omega), hSame,
      two_words_mod (by omega)]

/- Bytes that fit into the block. -/
theorem md5Store_eq_ok
    {place : Nat}
    (hLength : ctx.block.length = 64)
    (hFits : place + data.length ≤ 64) :
    md5Store place data ctx =
      .ok { ctx with
        block := MemoryBlock.patch ctx.block place data } := by
  rw [md5Store, MemoryBlock.store_of_le (by omega)]
  rfl

/- A block that is full is taken up. -/
theorem md5Store_full
    {place : Nat}
    (hLength : ctx.block.length = 64)
    (hFull : place + data.length = 64) :
    ∃ full,
      md5Store place data ctx = .ok full ∧
        md5TransformBlock full =
          { ctx with
              buf :=
                Md5.compress ctx.buf
                  (ctx.block.take place ++ data)
              block := ctx.block.take place ++ data } := by
  have hBlock :
      MemoryBlock.patch ctx.block place data =
        ctx.block.take place ++ data := by
    rw [MemoryBlock.patch,
      List.drop_eq_nil_of_le (by omega), List.append_nil]
  refine ⟨_, md5Store_eq_ok hLength (by omega), ?_⟩
  simp only [md5TransformBlock, hBlock,
    md5Transform_eq_compress]

/- The blocks of the data are taken up, and the rest kept. -/
theorem md5UpdateBlocks_eq_ok
    (turns : Nat)
    (hLength : ctx.block.length = 64)
    (hTurns : buf.length < 64 * (turns + 1)) :
    ∃ block,
      md5UpdateBlocks turns buf ctx =
          .ok { ctx with
            buf := chain 64 Md5.compress ctx.buf buf, block } ∧
        block.length = 64 ∧
        block.take (buf.length % 64) = rest 64 buf := by
  have hStore :
      ∀ {ctx : Md5Context} {buf : List UInt8},
        ctx.block.length = 64 → buf.length < 64 →
        ∃ block,
          md5Store 0 buf ctx =
              .ok { ctx with
                buf := chain 64 Md5.compress ctx.buf buf,
                block } ∧
            block.length = 64 ∧
            block.take (buf.length % 64) = rest 64 buf := by
    intro ctx buf hLength hShort
    have hTake :=
      @MemoryBlock.take_patch _ ctx.block buf 0 (by omega)
    refine ⟨MemoryBlock.patch ctx.block 0 buf, ?_, ?_, ?_⟩
    · rw [chain_of_short hShort]
      exact md5Store_eq_ok hLength (by omega)
    · rw [MemoryBlock.length_patch (by omega), hLength]
    · rw [Nat.mod_eq_of_lt hShort, rest_of_short hShort]
      simpa using hTake
  induction turns generalizing buf ctx with
  | zero => exact hStore hLength (by omega)
  | succ turns ih =>
      rw [md5UpdateBlocks]
      split
      · next hBlock =>
          have hFirst : (buf.take 64).length = 64 := by
            rw [List.length_take]
            omega
          have hFull :
              0 + (buf.take 64).length = 64 := by
            rw [hFirst]
          rcases md5Store_full hLength hFull with
            ⟨full, hStored, hTransform⟩
          rw [hStored, FallibleRun.ok_bind, hTransform,
            List.take_zero, List.nil_append]
          have hNext :=
            @ih
              { ctx with
                buf := Md5.compress ctx.buf (buf.take 64)
                block := buf.take 64 }
              (buf.drop 64) hFirst (by rw [List.length_drop]; omega)
          rcases hNext with ⟨block, hDone, hSame, hRest⟩
          refine ⟨block, ?_, hSame, ?_⟩
          · rw [hDone, chain_cons (by omega) hBlock]
          · rw [rest_cons (by omega) hBlock, ← hRest,
              List.length_drop, ← Nat.mod_eq_sub_mod hBlock]
      · next hShort => exact hStore hLength (by omega)

/- The turns end with a context for the whole message. -/
theorem md5UpdateBlocks_represents
    {turns : Nat}
    (hLength : ctx.block.length = 64)
    (hTurns : buf.length < 64 * (turns + 1))
    (hCounted :
      ctx.bits0.toNat + 2 ^ 32 * ctx.bits1.toNat =
        8 * message.length % 2 ^ 64)
    (hLeft : message.length % 64 = buf.length % 64)
    (hHolds :
      Holds 64 Md5.compress Md5.start message
        (chain 64 Md5.compress ctx.buf buf)
        (BlockStream.rest 64 buf)) :
    ∃ ctx',
      md5UpdateBlocks turns buf ctx = .ok ctx' ∧
        ctx'.Represents message := by
  rcases md5UpdateBlocks_eq_ok turns hLength hTurns with
    ⟨block, hDone, hBlock, hRest⟩
  refine ⟨_, hDone, hBlock, hCounted, ?_⟩
  simp only [hLeft, hRest]
  exact hHolds

/- A context takes up one more piece of the message. -/
theorem md5Update_represents
    (hRepresents : ctx.Represents message)
    (hLen : buf.length < 2 ^ 32) :
    ∃ ctx',
      md5Update ctx buf = .ok ctx' ∧
        ctx'.Represents (message ++ buf) := by
  have hLength := hRepresents.length_eq
  have hHolds :=
    hRepresents.holds.append (by omega : 0 < 64) buf
  have hBlock :
      (ctx.block.take (message.length % 64)).length =
        message.length % 64 := by
    rw [List.length_take]
    omega
  have hCounted :=
    md5UpdateBits_counted hLen hRepresents.counted
  rw [← List.length_append] at hCounted
  have hTotal :
      (message ++ buf).length % 64 =
        (message.length % 64 + buf.length) % 64 := by
    rw [List.length_append, Nat.mod_add_mod]
  generalize hT : message.length % 64 = t at *
  have hRange : t < 64 := by omega
  unfold md5Update
  simp only [hRepresents.place, hT]
  split
  · split
    · next hShort =>
        have hFits : t + buf.length ≤ ctx.block.length := by
          omega
        have hAll :
            (ctx.block.take t ++ buf).length < 64 := by
          rw [List.length_append, hBlock]
          omega
        refine ⟨_, md5Store_eq_ok hLength (by omega), ?_⟩
        refine ⟨?_, hCounted, ?_⟩
        · simp only [md5UpdateBits,
            MemoryBlock.length_patch hFits, hLength]
        · rw [chain_of_short hAll, rest_of_short hAll] at hHolds
          rw [hTotal, Nat.mod_eq_of_lt (by omega)]
          simp only [md5UpdateBits,
            MemoryBlock.take_patch hFits]
          exact hHolds
    · next hLong =>
        have hFull :
            t + (buf.take (64 - t)).length = 64 := by
          rw [List.length_take]
          omega
        rcases @md5Store_full
            (md5UpdateBits buf.length ctx) _ t hLength hFull
          with ⟨full, hStored, hTransform⟩
        have hFirst :
            (ctx.block.take t ++ buf).take 64 =
              ctx.block.take t ++ buf.take (64 - t) := by
          rw [List.take_append, hBlock,
            List.take_of_length_le (by omega)]
        have hSecond :
            (ctx.block.take t ++ buf).drop 64 =
              buf.drop (64 - t) := by
          rw [List.drop_append, hBlock,
            List.drop_eq_nil_of_le (by omega),
            List.nil_append]
        have hEnough :
            64 ≤ (ctx.block.take t ++ buf).length := by
          rw [List.length_append, hBlock]
          omega
        rw [chain_cons (by omega) hEnough,
          rest_cons (by omega) hEnough, hFirst, hSecond]
          at hHolds
        rw [hStored, FallibleRun.ok_bind, hTransform]
        apply md5UpdateBlocks_represents
        · simp only [List.length_append, List.length_take]
          simp only [List.length_take] at hBlock hFull
          simp only [md5UpdateBits]
          omega
        · rw [List.length_drop]
          omega
        · exact hCounted
        · rw [hTotal, List.length_drop]
          omega
        · exact hHolds
  · next hNone =>
      have hZero : t = 0 := by omega
      rw [hZero, List.take_zero, List.nil_append] at hHolds
      have hLeft :
          (message ++ buf).length % 64 = buf.length % 64 := by
        rw [hTotal, hZero, Nat.zero_add]
      exact md5UpdateBlocks_represents hLength (by omega)
        hCounted hLeft hHolds

end Ssh1

------------------------------------------------------------
-- The Digest
------------------------------------------------------------

namespace Ssh1

open BlockStream

variable {ctx : Md5Context}
variable {message data more : List UInt8}

/- The two words of the count are the length in 64 bits. -/
theorem Md5Context.Represents.lengthBytes
    (hRepresents : ctx.Represents message) :
    WordOrder.lsbFirst.put32Bit ctx.bits0 ++
        WordOrder.lsbFirst.put32Bit ctx.bits1 =
      Md5.lengthBytes message := by
  have hCounted := hRepresents.counted
  have hLow := ctx.bits0.toNat_lt
  have hHigh := ctx.bits1.toNat_lt
  have hBits0 :
      ctx.bits0.toNat = 8 * message.length % 256 ^ 4 := by
    norm_num
    omega
  have hBits1 :
      ctx.bits1.toNat =
        8 * message.length / 256 ^ 4 % 256 ^ 4 := by
    norm_num
    omega
  rw [Md5.lengthBytes, BigEndian.toBytes_add 4 4,
    List.reverse_append, WordOrder.put32Bit,
    WordOrder.put32Bit, hBits0, hBits1, BigEndian.toBytes_mod,
    BigEndian.toBytes_mod]

/- More is stored right behind what has been stored. -/
theorem md5Store_behind
    {block : List UInt8}
    {place : Nat}
    (hLength : block.length = 64)
    (hBlock : ctx.block = MemoryBlock.patch block place data)
    (hFits : place + data.length + more.length ≤ 64) :
    md5Store (place + data.length) more ctx =
      .ok { ctx with
        block :=
          MemoryBlock.patch block place (data ++ more) } := by
  have hPatched : ctx.block.length = 64 := by
    rw [hBlock, MemoryBlock.length_patch (by omega), hLength]
  rw [md5Store_eq_ok hPatched hFits, hBlock,
    MemoryBlock.patch_behind (by omega)]

/- The length goes to the end of the last block. -/
theorem md5Store_lengthBytes
    {α : Type}
    {block : List UInt8}
    {place : Nat}
    (hLength : block.length = 64)
    (hBlock : ctx.block = MemoryBlock.patch block place data)
    (hEnd : place + data.length = 56)
    (next : Md5Context → Outcome α) :
    (do
      let ctx ←
        md5Store 56 (WordOrder.lsbFirst.put32Bit ctx.bits0) ctx
      let ctx ←
        md5Store 60 (WordOrder.lsbFirst.put32Bit ctx.bits1) ctx
      next ctx) =
      next { ctx with
        block :=
          block.take place ++
            (data ++
              (WordOrder.lsbFirst.put32Bit ctx.bits0 ++
                WordOrder.lsbFirst.put32Bit ctx.bits1)) } := by
  have hFirst :=
    @md5Store_behind ctx data
      (WordOrder.lsbFirst.put32Bit ctx.bits0) block place
      hLength hBlock
      (by rw [WordOrder.length_put32Bit]; omega)
  rw [hEnd] at hFirst
  have hSecond :=
    @md5Store_behind
      { ctx with
        block :=
          MemoryBlock.patch block place
            (data ++ WordOrder.lsbFirst.put32Bit ctx.bits0) }
      _ (WordOrder.lsbFirst.put32Bit ctx.bits1) block place
      hLength rfl
      (by
        rw [List.length_append, WordOrder.length_put32Bit,
          WordOrder.length_put32Bit]
        omega)
  rw [List.length_append, WordOrder.length_put32Bit,
    ← Nat.add_assoc, hEnd] at hSecond
  have hWhole :
      MemoryBlock.patch block place
          (data ++ WordOrder.lsbFirst.put32Bit ctx.bits0 ++
            WordOrder.lsbFirst.put32Bit ctx.bits1) =
        block.take place ++
          (data ++
            (WordOrder.lsbFirst.put32Bit ctx.bits0 ++
              WordOrder.lsbFirst.put32Bit ctx.bits1)) := by
    have hNothing :
        block.drop
            (place +
              (data ++ WordOrder.lsbFirst.put32Bit ctx.bits0 ++
                WordOrder.lsbFirst.put32Bit ctx.bits1).length) =
          [] := by
      apply List.drop_eq_nil_of_le
      simp only [List.length_append,
        WordOrder.length_put32Bit]
      omega
    rw [MemoryBlock.patch, hNothing, List.append_nil]
    simp only [List.append_assoc]
  rw [hFirst, FallibleRun.ok_bind, hSecond,
    FallibleRun.ok_bind, ← hWhole]

/- One whole block, and then the end of the message. -/
theorem chain_block
    {s : Md5Words}
    (hBlock : data.length = 64) :
    chain 64 Md5.compress s (data ++ more) =
      chain 64 Md5.compress (Md5.compress s data) more := by
  have hLength : 64 ≤ (data ++ more).length := by
    rw [List.length_append]
    omega
  rw [chain_cons (by omega) hLength, List.take_append_of_le_length
    (by omega), List.take_of_length_le (by omega),
    List.drop_append_of_le_length (by omega),
    List.drop_eq_nil_of_le (by omega), List.nil_append]

theorem chain_last
    {s : Md5Words}
    (hBlock : data.length = 64) :
    chain 64 Md5.compress s data = Md5.compress s data := by
  have hLast := @chain_block data [] s hBlock
  rw [List.append_nil] at hLast
  rw [hLast, chain_of_short (by rw [List.length_nil]; omega)]

/- What there is after the digest has been made. -/
structure Md5Finished
    (message digest : List UInt8)
    (left : Md5Context) : Prop where
  digest_eq : digest = Md5.digest message
  -- only the first half of the words has been cleared
  words_eq :
    WordOrder.lsbFirst.put32Bit left.buf.c ++
        WordOrder.lsbFirst.put32Bit left.buf.d =
      digest.drop 8
  -- and nothing of the last block
  block_length : left.block.length = 64
  block_eq :
    ∃ front,
      front ++ left.block =
        message ++
          (Md5.padding message ++ Md5.lengthBytes message)

/- The digest is made of what the last block gives. -/
theorem Md5Finished.of_last
    {done : Md5Context}
    (hLast :
      chain 64 Md5.compress Md5.start
          (message ++
            (Md5.padding message ++ Md5.lengthBytes message)) =
        done.buf)
    (hFront :
      ∃ front,
        front ++ done.block =
          message ++
            (Md5.padding message ++
              Md5.lengthBytes message))
    (hLength : done.block.length = 64) :
    Md5Finished message (md5PutWords done.buf)
      { done with buf := { done.buf with a := 0, b := 0 } }
    where
  digest_eq := by
    rw [Md5.digest, hLast]
  words_eq := by
    have hHalf :
        (WordOrder.lsbFirst.put32Bit done.buf.a ++
          WordOrder.lsbFirst.put32Bit done.buf.b).length =
            8 := by
      rw [List.length_append, WordOrder.length_put32Bit,
        WordOrder.length_put32Bit]
    simp only [md5PutWords]
    rw [List.append_assoc _ _
        (WordOrder.lsbFirst.put32Bit done.buf.d),
      ← hHalf, List.drop_left]
  block_length := hLength
  block_eq := hFront

/-
  The message is there, and its last block has t bytes before
  the padding.
-/
structure Md5Context.Stops
    (ctx : Md5Context)
    (message front : List UInt8)
    (t : Nat) : Prop where
  length_eq : ctx.block.length = 64
  place_lt : t < 64
  place_eq : (ctx.bits0 >>> 3 &&& 0x3f).toNat = t
  words_eq :
    WordOrder.lsbFirst.put32Bit ctx.bits0 ++
        WordOrder.lsbFirst.put32Bit ctx.bits1 =
      Md5.lengthBytes message
  padding_eq :
    Md5.padding message =
      0x80 :: List.replicate ((119 - t) % 64) 0
  front_eq : front ++ ctx.block.take t = message
  whole :
    chain 64 Md5.compress Md5.start
        (message ++
          (Md5.padding message ++ Md5.lengthBytes message)) =
      chain 64 Md5.compress ctx.buf
        (ctx.block.take t ++
          (Md5.padding message ++ Md5.lengthBytes message))

/- Where all pieces have been taken. -/
theorem Md5Context.Represents.stops
    (hRepresents : ctx.Represents message) :
    ctx.Stops message
      (message.take (64 * (message.length / 64)))
      (message.length % 64) where
  length_eq := hRepresents.length_eq
  place_lt := Nat.mod_lt _ (by omega)
  place_eq := hRepresents.place
  words_eq := hRepresents.lengthBytes
  padding_eq := rfl
  front_eq := by
    rw [← hRepresents.holds.left, BlockStream.rest,
      List.take_append_drop]
  whole := by
    rw [chain_append (by omega), hRepresents.holds.state,
      hRepresents.holds.left]

/- That is how many bytes of the block are the message's. -/
theorem Md5Context.Stops.length_take
    {front : List UInt8}
    {t : Nat}
    (hStops : ctx.Stops message front t) :
    (ctx.block.take t).length = t := by
  have hLength := hStops.length_eq
  have hRange := hStops.place_lt
  rw [List.length_take]
  omega

/- The length is eight bytes. -/
theorem Md5.length_lengthBytes
    (message : List UInt8) :
    (Md5.lengthBytes message).length = 8 := by
  rw [Md5.lengthBytes, List.length_reverse,
    BigEndian.length_toBytes]

/- There is no room for the length: one block more is made. -/
theorem md5Final_twoBlocks
    {front : List UInt8}
    {t : Nat}
    (hStops : ctx.Stops message front t)
    (hTwo : 64 - 1 - t < 8) :
    ∃ digest left,
      md5Final ctx = .ok (digest, left) ∧
        Md5Finished message digest left := by
  have hLength := hStops.length_eq
  have hRange := hStops.place_lt
  have hWords := hStops.words_eq
  have hZeros := hStops.padding_eq
  have hFront := hStops.front_eq
  have hWhole := hStops.whole
  have hLengthBytes := Md5.length_lengthBytes message
  have hBlock := hStops.length_take
  have hFirst :=
    @md5Store_eq_ok ctx [0x80] t hLength (by simp; omega)
  unfold md5Final
  simp only [hStops.place_eq, hFirst, FallibleRun.ok_bind]
  rw [if_pos hTwo]
  have hPadded :
      ([0x80] ++ List.replicate (64 - 1 - t) 0) ++
          List.replicate 56 0 =
        Md5.padding message := by
    rw [hZeros, List.append_assoc, List.singleton_append,
      ← List.replicate_add]
    congr 2
    omega
  have hFill :
      t + ([0x80] ++
        List.replicate (64 - 1 - t) (0 : UInt8)).length =
          64 := by
    simp
    omega
  have hSecond :=
    @md5Store_behind
      { ctx with
        block := MemoryBlock.patch ctx.block t [0x80] }
      [0x80] (List.replicate (64 - 1 - t) 0) ctx.block t
      hLength rfl (by simp; omega)
  have hFull :
      (ctx.block.take t ++
        ([0x80] ++ List.replicate (64 - 1 - t) 0)).length =
          64 := by
    rw [List.length_append, hBlock]
    exact hFill
  have hPatch :
      MemoryBlock.patch ctx.block t
          ([0x80] ++ List.replicate (64 - 1 - t) 0) =
        ctx.block.take t ++
          ([0x80] ++ List.replicate (64 - 1 - t) 0) := by
    rw [MemoryBlock.patch,
      List.drop_eq_nil_of_le (by omega), List.append_nil]
  have hSame :
      ctx.block.take t ++
          (Md5.padding message ++ Md5.lengthBytes message) =
        ctx.block.take t ++
            ([0x80] ++ List.replicate (64 - 1 - t) 0) ++
          (List.replicate 56 0 ++
            Md5.lengthBytes message) := by
    rw [← hPadded]
    simp only [List.append_assoc]
  have hAll :
      message ++
          (Md5.padding message ++ Md5.lengthBytes message) =
        front ++
          (ctx.block.take t ++
            (Md5.padding message ++
              Md5.lengthBytes message)) := by
    rw [← List.append_assoc front, hFront]
  simp only [List.length_singleton] at hSecond
  simp only [hSecond, FallibleRun.ok_bind, hPatch]
  rw [hSame] at hWhole hAll
  generalize
    ctx.block.take t ++
      ([0x80] ++ List.replicate (64 - 1 - t) 0) = first
    at hFull hWhole hAll ⊢
  have hStep :
      md5TransformBlock { ctx with block := first } =
        { ctx with
          buf := Md5.compress ctx.buf first
          block := first } := by
    simp only [md5TransformBlock, md5Transform_eq_compress]
  have hThird :=
    @md5Store_eq_ok
      { ctx with
        buf := Md5.compress ctx.buf first
        block := first }
      (List.replicate 56 0) 0 hFull
      (by rw [List.length_replicate, Nat.zero_add]; omega)
  simp only [hStep, hThird, FallibleRun.ok_bind]
  rw [@md5Store_lengthBytes
    { ctx with
      buf := Md5.compress ctx.buf first
      block :=
        MemoryBlock.patch first 0 (List.replicate 56 0) }
    _ _ _ _ hFull rfl
    (by rw [List.length_replicate])]
  simp only [hWords, List.take_zero, List.nil_append]
  refine ⟨_, _, rfl, .of_last ?_ ?_ ?_⟩
  · rw [hWhole, chain_block hFull, chain_last,
      md5TransformBlock, md5Transform_eq_compress]
    rw [List.length_append, List.length_replicate,
      hLengthBytes]
  · refine ⟨front ++ first, ?_⟩
    rw [hAll]
    simp only [md5TransformBlock, List.append_assoc]
  · simp only [md5TransformBlock, List.length_append,
      List.length_replicate, hLengthBytes]

/- The padding and the length fill the last block. -/
theorem md5Final_oneBlock
    {front : List UInt8}
    {t : Nat}
    (hStops : ctx.Stops message front t)
    (hOne : ¬ 64 - 1 - t < 8) :
    ∃ digest left,
      md5Final ctx = .ok (digest, left) ∧
        Md5Finished message digest left := by
  have hLength := hStops.length_eq
  have hRange := hStops.place_lt
  have hWords := hStops.words_eq
  have hZeros := hStops.padding_eq
  have hFront := hStops.front_eq
  have hWhole := hStops.whole
  have hLengthBytes := Md5.length_lengthBytes message
  have hBlock := hStops.length_take
  have hFirst :=
    @md5Store_eq_ok ctx [0x80] t hLength (by simp; omega)
  unfold md5Final
  simp only [hStops.place_eq, hFirst, FallibleRun.ok_bind]
  rw [if_neg hOne]
  have hPadded :
      [0x80] ++ List.replicate (64 - 1 - t - 8) 0 =
        Md5.padding message := by
    rw [hZeros, List.singleton_append]
    congr 2
    omega
  have hEnd : t + (Md5.padding message).length = 56 := by
    rw [hZeros, List.length_cons, List.length_replicate]
    omega
  have hSecond :=
    @md5Store_behind
      { ctx with
        block := MemoryBlock.patch ctx.block t [0x80] }
      [0x80] (List.replicate (64 - 1 - t - 8) 0) ctx.block t
      hLength rfl (by simp; omega)
  simp only [List.length_singleton] at hSecond
  simp only [hSecond, FallibleRun.ok_bind, hPadded]
  rw [@md5Store_lengthBytes
    { ctx with
      block :=
        MemoryBlock.patch ctx.block t
          (Md5.padding message) } _ _ _ _ hLength rfl hEnd]
  simp only [hWords]
  refine ⟨_, _, rfl, .of_last ?_ ?_ ?_⟩
  · rw [hWhole, chain_last, md5TransformBlock,
      md5Transform_eq_compress]
    rw [List.length_append, hBlock, List.length_append,
      hLengthBytes]
    omega
  · refine ⟨front, ?_⟩
    simp only [md5TransformBlock]
    rw [← List.append_assoc, hFront]
  · simp only [md5TransformBlock, List.length_append,
      hBlock, hLengthBytes]
    omega

/-
  `MD5Final` gives the digest of the message. It leaves half
  of the digest and the end of the message in the context.
-/
theorem md5Final_of_represents
    (hRepresents : ctx.Represents message) :
    ∃ digest left,
      md5Final ctx = .ok (digest, left) ∧
        Md5Finished message digest left := by
  by_cases hTwo : 64 - 1 - message.length % 64 < 8
  · exact md5Final_twoBlocks hRepresents.stops hTwo
  · exact md5Final_oneBlock hRepresents.stops hTwo

/- By induction on the pieces: they are one message. -/
theorem md5Update_run
    {pieces : List (List UInt8)}
    (hRepresents : ctx.Represents message)
    (hPieces : ∀ piece ∈ pieces, piece.length < 2 ^ 32) :
    ∃ ctx',
      FallibleRun.run md5Update ctx pieces = .ok ctx' ∧
        ctx'.Represents (message ++ pieces.flatten) := by
  induction pieces generalizing ctx message with
  | nil => exact ⟨ctx, rfl, by simpa using hRepresents⟩
  | cons piece pieces ih =>
      rcases md5Update_represents hRepresents
          (hPieces piece (by simp)) with
        ⟨mid, hUpdate, hMid⟩
      rcases ih hMid
          (fun other hMem => hPieces other (by simp [hMem]))
        with ⟨last, hRun, hLast⟩
      refine ⟨last, ?_, ?_⟩
      · rw [FallibleRun.run_cons, hUpdate]
        exact hRun
      · rw [List.flatten_cons, ← List.append_assoc]
        exact hLast

/-
  However a message is cut into pieces, and whatever was in
  the memory of the context: no access leaves the block, and
  the digest is the one of the message.
-/
theorem md5_chunks
    (memory : Md5Context)
    (pieces : List (List UInt8))
    (hMemory : memory.block.length = 64)
    (hPieces : ∀ piece ∈ pieces, piece.length < 2 ^ 32) :
    ∃ ctx digest left,
      FallibleRun.run md5Update (md5Init memory) pieces =
          .ok ctx ∧
        md5Final ctx = .ok (digest, left) ∧
        Md5Finished pieces.flatten digest left := by
  rcases md5Update_run (md5Init_represents hMemory) hPieces
    with ⟨ctx, hRun, hRepresents⟩
  rcases md5Final_of_represents hRepresents with
    ⟨digest, left, hFinal, hFinished⟩
  exact ⟨ctx, digest, left, hRun, hFinal, hFinished⟩

/- Memory that holds something else. -/
def staleMd5Context : Md5Context where
  buf := ⟨1, 2, 3, 4⟩
  bits0 := 5
  bits1 := 6
  block := List.replicate 64 7

theorem md5_chunks_abc :
    (∃ ctx digest left,
      FallibleRun.run md5Update (md5Init staleMd5Context)
            [[97], [98, 99]] =
          .ok ctx ∧
        md5Final ctx = .ok (digest, left) ∧
        Md5Finished [97, 98, 99] digest left) ∧
      Md5.digest [97, 98, 99] =
        [0x90, 0x01, 0x50, 0x98, 0x3c, 0xd2, 0x4f, 0xb0,
          0xd6, 0x96, 0x3f, 0x7d, 0x28, 0xe1, 0x7f, 0x72] := by
  constructor
  · apply md5_chunks staleMd5Context [[97], [98, 99]] rfl
    intro piece hMem
    simp only [List.mem_cons, List.not_mem_nil, or_false]
      at hMem
    rcases hMem with rfl | rfl <;> simp
  · decide +kernel

end Ssh1
