import Ssh1.Ciphers.Words
import Mathlib.Tactic.Ring

/-
  The core of the MD5 algorithm.

  `MD5Transform` is written out as 64 steps in which the four
  words change places, with core functions that are
  optimized. The algorithm itself is one loop over a table.

  Main declarations:
    * `md5Transform`
    * `Md5.compress`
    * `md5Transform_eq_compress`
-/

------------------------------------------------------------
-- The Steps
------------------------------------------------------------

namespace Ssh1

/- The array `buf` of four words. -/
structure Md5Words where
  a : Word32
  b : Word32
  c : Word32
  d : Word32
  deriving DecidableEq, Repr

/- The four core functions - F1 is optimized somewhat. -/
def md5F1 (x y z : Word32) : Word32 := z ^^^ (x &&& (y ^^^ z))

/- `F2`, the function of the second round. -/
def md5F2 (x y z : Word32) : Word32 := md5F1 z x y

/- `F3`, the function of the third round. -/
def md5F3 (x y z : Word32) : Word32 := x ^^^ y ^^^ z

/- `F4`, the function of the last round. -/
def md5F4 (x y z : Word32) : Word32 := y ^^^ (x ||| ~~~ z)

/- `MD5STEP`, the central step. -/
def md5Step
    (f : Word32 → Word32 → Word32 → Word32)
    (w x y z data s : Word32) : Word32 :=
  let w := w + (f x y z + data)
  let w := w <<< s ||| w >>> (32 - s)
  w + x

/-
  Four steps, for each of the words `a`, `d`, `c` and `b` in
  turn, with the shifts of their round.
-/
def md5Steps
    (f : Word32 → Word32 → Word32 → Word32)
    (s0 s1 s2 s3 : Word32)
    (data0 data1 data2 data3 : Word32)
    (buf : Md5Words) : Md5Words :=
  let a := md5Step f buf.a buf.b buf.c buf.d data0 s0
  let d := md5Step f buf.d a buf.b buf.c data1 s1
  let c := md5Step f buf.c d a buf.b data2 s2
  let b := md5Step f buf.b c d a data3 s3
  ⟨a, b, c, d⟩

/- The sixteen words of a block. -/
def md5Word
    (inext : List UInt8)
    (i : Nat) : Word32 :=
  WordOrder.lsbFirst.get32Bit (inext.drop (4 * i))

/- `MD5Transform` -/
def md5Transform
    (buf : Md5Words)
    (inext : List UInt8) : Md5Words :=
  let x := md5Word inext
  let round1 := md5Steps md5F1 7 12 17 22
  let round2 := md5Steps md5F2 5 9 14 20
  let round3 := md5Steps md5F3 4 11 16 23
  let round4 := md5Steps md5F4 6 10 15 21
  let w := round1 (x 0 + 0xd76aa478) (x 1 + 0xe8c7b756)
    (x 2 + 0x242070db) (x 3 + 0xc1bdceee) buf
  let w := round1 (x 4 + 0xf57c0faf) (x 5 + 0x4787c62a)
    (x 6 + 0xa8304613) (x 7 + 0xfd469501) w
  let w := round1 (x 8 + 0x698098d8) (x 9 + 0x8b44f7af)
    (x 10 + 0xffff5bb1) (x 11 + 0x895cd7be) w
  let w := round1 (x 12 + 0x6b901122) (x 13 + 0xfd987193)
    (x 14 + 0xa679438e) (x 15 + 0x49b40821) w
  let w := round2 (x 1 + 0xf61e2562) (x 6 + 0xc040b340)
    (x 11 + 0x265e5a51) (x 0 + 0xe9b6c7aa) w
  let w := round2 (x 5 + 0xd62f105d) (x 10 + 0x02441453)
    (x 15 + 0xd8a1e681) (x 4 + 0xe7d3fbc8) w
  let w := round2 (x 9 + 0x21e1cde6) (x 14 + 0xc33707d6)
    (x 3 + 0xf4d50d87) (x 8 + 0x455a14ed) w
  let w := round2 (x 13 + 0xa9e3e905) (x 2 + 0xfcefa3f8)
    (x 7 + 0x676f02d9) (x 12 + 0x8d2a4c8a) w
  let w := round3 (x 5 + 0xfffa3942) (x 8 + 0x8771f681)
    (x 11 + 0x6d9d6122) (x 14 + 0xfde5380c) w
  let w := round3 (x 1 + 0xa4beea44) (x 4 + 0x4bdecfa9)
    (x 7 + 0xf6bb4b60) (x 10 + 0xbebfbc70) w
  let w := round3 (x 13 + 0x289b7ec6) (x 0 + 0xeaa127fa)
    (x 3 + 0xd4ef3085) (x 6 + 0x04881d05) w
  let w := round3 (x 9 + 0xd9d4d039) (x 12 + 0xe6db99e5)
    (x 15 + 0x1fa27cf8) (x 2 + 0xc4ac5665) w
  let w := round4 (x 0 + 0xf4292244) (x 7 + 0x432aff97)
    (x 14 + 0xab9423a7) (x 5 + 0xfc93a039) w
  let w := round4 (x 12 + 0x655b59c3) (x 3 + 0x8f0ccc92)
    (x 10 + 0xffeff47d) (x 1 + 0x85845dd1) w
  let w := round4 (x 8 + 0x6fa87e4f) (x 15 + 0xfe2ce6e0)
    (x 6 + 0xa3014314) (x 13 + 0x4e0811a1) w
  let w := round4 (x 4 + 0xf7537e82) (x 11 + 0xbd3af235)
    (x 2 + 0x2ad7d2bb) (x 9 + 0xeb86d391) w
  ⟨buf.a + w.a, buf.b + w.b, buf.c + w.c, buf.d + w.d⟩

end Ssh1

------------------------------------------------------------
-- The Algorithm
------------------------------------------------------------

namespace Ssh1

namespace Md5

/- The function of a step, one for each round of 16. -/
def mix
    (i : Nat)
    (x y z : Word32) : Word32 :=
  if i < 16 then (x &&& y) ||| (~~~ x &&& z)
  else if i < 32 then (x &&& z) ||| (y &&& ~~~ z)
  else if i < 48 then x ^^^ y ^^^ z
  else y ^^^ (x ||| ~~~ z)

/- The word of the block that a step takes. -/
def wordOf (i : Nat) : Nat :=
  if i < 16 then i
  else if i < 32 then (5 * i + 1) % 16
  else if i < 48 then (3 * i + 5) % 16
  else 7 * i % 16

/- How far a step rotates, by its round and its place. -/
def shiftOf (i : Nat) : Word32 :=
  (([[7, 12, 17, 22], [5, 9, 14, 20], [4, 11, 16, 23],
    [6, 10, 15, 21]] : List (List Word32)).getD (i / 16)
      []).getD (i % 4) 0

/- The integer parts of `2 ^ 32 * |sin (i + 1)|`. -/
def sines : List Word32 :=
  [0xd76aa478, 0xe8c7b756, 0x242070db, 0xc1bdceee,
    0xf57c0faf, 0x4787c62a, 0xa8304613, 0xfd469501,
    0x698098d8, 0x8b44f7af, 0xffff5bb1, 0x895cd7be,
    0x6b901122, 0xfd987193, 0xa679438e, 0x49b40821,
    0xf61e2562, 0xc040b340, 0x265e5a51, 0xe9b6c7aa,
    0xd62f105d, 0x02441453, 0xd8a1e681, 0xe7d3fbc8,
    0x21e1cde6, 0xc33707d6, 0xf4d50d87, 0x455a14ed,
    0xa9e3e905, 0xfcefa3f8, 0x676f02d9, 0x8d2a4c8a,
    0xfffa3942, 0x8771f681, 0x6d9d6122, 0xfde5380c,
    0xa4beea44, 0x4bdecfa9, 0xf6bb4b60, 0xbebfbc70,
    0x289b7ec6, 0xeaa127fa, 0xd4ef3085, 0x04881d05,
    0xd9d4d039, 0xe6db99e5, 0x1fa27cf8, 0xc4ac5665,
    0xf4292244, 0x432aff97, 0xab9423a7, 0xfc93a039,
    0x655b59c3, 0x8f0ccc92, 0xffeff47d, 0x85845dd1,
    0x6fa87e4f, 0xfe2ce6e0, 0xa3014314, 0x4e0811a1,
    0xf7537e82, 0xbd3af235, 0x2ad7d2bb, 0xeb86d391]

/- The word turned left by so many bits. -/
def rotate (w s : Word32) : Word32 :=
  w <<< s ||| w >>> (32 - s)

/- One step of the loop, after which the words move on. -/
def step
    (block : Nat → Word32)
    (w : Md5Words)
    (i : Nat) : Md5Words :=
  ⟨w.d,
    w.b +
      rotate
        (w.a + mix i w.b w.c w.d + block (wordOf i) +
          sines.getD i 0)
        (shiftOf i),
    w.b, w.c⟩

/- The words after a block has been taken up. -/
def compress
    (buf : Md5Words)
    (block : List UInt8) : Md5Words :=
  let w := (List.range 64).foldl (step (md5Word block)) buf
  ⟨buf.a + w.a, buf.b + w.b, buf.c + w.c, buf.d + w.d⟩

end Md5

end Ssh1

------------------------------------------------------------
-- The Steps Are the Loop
------------------------------------------------------------

namespace Ssh1

/- The optimized functions are the plain ones. -/
theorem md5F1_eq
    (x y z : Word32) :
    md5F1 x y z = (x &&& y) ||| (~~~ x &&& z) := by
  apply UInt32.toBitVec_inj.mp
  apply BitVec.eq_of_getElem_eq
  intro i hi
  simp only [md5F1, UInt32.toBitVec_xor, UInt32.toBitVec_and,
    UInt32.toBitVec_or, UInt32.toBitVec_not,
    BitVec.getElem_xor, BitVec.getElem_and, BitVec.getElem_or,
    BitVec.getElem_not]
  cases x.toBitVec[i] <;> cases y.toBitVec[i] <;>
    cases z.toBitVec[i] <;> rfl

/- `F2` as the choice that the algorithm describes. -/
theorem md5F2_eq
    (x y z : Word32) :
    md5F2 x y z = (x &&& z) ||| (y &&& ~~~ z) := by
  rw [md5F2, md5F1_eq, UInt32.and_comm z x,
    UInt32.and_comm (~~~ z) y]

/- The first sixteen steps use `F1`. -/
theorem md5_mix_round1
    {i : Nat}
    (hRound : i < 16) :
    Md5.mix i = md5F1 := by
  funext x y z
  rw [Md5.mix, if_pos hRound, md5F1_eq]

/- The next sixteen use `F2`. -/
theorem md5_mix_round2
    {i : Nat}
    (hFrom : 16 ≤ i)
    (hRound : i < 32) :
    Md5.mix i = md5F2 := by
  funext x y z
  rw [Md5.mix, if_neg (by omega), if_pos hRound, md5F2_eq]

/- The next sixteen use `F3`. -/
theorem md5_mix_round3
    {i : Nat}
    (hFrom : 32 ≤ i)
    (hRound : i < 48) :
    Md5.mix i = md5F3 := by
  funext x y z
  rw [Md5.mix, if_neg (by omega), if_neg (by omega),
    if_pos hRound]
  rfl

/- The last sixteen use `F4`. -/
theorem md5_mix_round4
    {i : Nat}
    (hFrom : 48 ≤ i) :
    Md5.mix i = md5F4 := by
  funext x y z
  rw [Md5.mix, if_neg (by omega), if_neg (by omega),
    if_neg (by omega)]
  rfl

variable {f : Word32 → Word32 → Word32 → Word32}
variable {block : Nat → Word32}

/- What the loop adds to a word in a step. -/
def Md5.dataOf
    (block : Nat → Word32)
    (i : Nat) : Word32 :=
  block (wordOf i) + sines.getD i 0

/- Four steps bring every word back to its place. -/
theorem md5Steps_eq
    (i : Nat)
    (hMix : ∀ j < 4, Md5.mix (i + j) = f)
    (w : Md5Words) :
    md5Steps f (Md5.shiftOf i) (Md5.shiftOf (i + 1))
        (Md5.shiftOf (i + 2)) (Md5.shiftOf (i + 3))
        (Md5.dataOf block i) (Md5.dataOf block (i + 1))
        (Md5.dataOf block (i + 2)) (Md5.dataOf block (i + 3))
        w =
      [i, i + 1, i + 2, i + 3].foldl (Md5.step block) w := by
  have hMix0 : Md5.mix i = f := hMix 0 (by omega)
  have hMix1 := hMix 1 (by omega)
  have hMix2 := hMix 2 (by omega)
  have hMix3 := hMix 3 (by omega)
  have hStep :
      ∀ w x y z data s : Word32,
        md5Step f w x y z data s =
          x + Md5.rotate (w + f x y z + data) s := by
    intro w x y z data s
    rw [md5Step, UInt32.add_comm, UInt32.add_assoc]
    rfl
  simp only [md5Steps, hStep, Md5.dataOf, List.foldl_cons,
    List.foldl_nil, Md5.step, hMix0, hMix1, hMix2, hMix3,
    UInt32.add_assoc]

/- The steps that are written out are those of the loop. -/
theorem md5Transform_eq_compress
    (buf : Md5Words)
    (inext : List UInt8) :
    md5Transform buf inext = Md5.compress buf inext := by
  have hRange :
      List.range 64 =
        [0, 1, 2, 3] ++ [4, 5, 6, 7] ++ [8, 9, 10, 11] ++
        [12, 13, 14, 15] ++ [16, 17, 18, 19] ++
        [20, 21, 22, 23] ++ [24, 25, 26, 27] ++
        [28, 29, 30, 31] ++ [32, 33, 34, 35] ++
        [36, 37, 38, 39] ++ [40, 41, 42, 43] ++
        [44, 45, 46, 47] ++ [48, 49, 50, 51] ++
        [52, 53, 54, 55] ++ [56, 57, 58, 59] ++
        [60, 61, 62, 63] := by
    decide
  have hRound1 :
      ∀ i, i + 3 < 16 → ∀ w, _ :=
    fun i hi =>
      @md5Steps_eq md5F1 (md5Word inext) i fun j hj =>
        md5_mix_round1 (by omega)
  have hRound2 :
      ∀ i, 16 ≤ i → i + 3 < 32 → ∀ w, _ :=
    fun i hFrom hi =>
      @md5Steps_eq md5F2 (md5Word inext) i fun j hj =>
        md5_mix_round2 (by omega) (by omega)
  have hRound3 :
      ∀ i, 32 ≤ i → i + 3 < 48 → ∀ w, _ :=
    fun i hFrom hi =>
      @md5Steps_eq md5F3 (md5Word inext) i fun j hj =>
        md5_mix_round3 (by omega) (by omega)
  have hRound4 :
      ∀ i, 48 ≤ i → ∀ w, _ :=
    fun i hFrom =>
      @md5Steps_eq md5F4 (md5Word inext) i fun j hj =>
        md5_mix_round4 (by omega)
  unfold Md5.compress
  simp only [hRange, List.foldl_append]
  rw [← hRound1 0 (by omega), ← hRound1 4 (by omega),
    ← hRound1 8 (by omega), ← hRound1 12 (by omega),
    ← hRound2 16 (by omega) (by omega),
    ← hRound2 20 (by omega) (by omega),
    ← hRound2 24 (by omega) (by omega),
    ← hRound2 28 (by omega) (by omega),
    ← hRound3 32 (by omega) (by omega),
    ← hRound3 36 (by omega) (by omega),
    ← hRound3 40 (by omega) (by omega),
    ← hRound3 44 (by omega) (by omega),
    ← hRound4 48 (by omega), ← hRound4 52 (by omega),
    ← hRound4 56 (by omega), ← hRound4 60 (by omega)]
  rfl

end Ssh1
