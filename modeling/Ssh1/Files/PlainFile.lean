import Ssh1.Files.UserFile
import Ssh1.Lib.OutputRefinement

/-
  User files are files with a position.

  What was read ahead lies between the position of the handle
  and the one of its descriptor. A handle answers as the plain
  file does, in the process or through the child, unless it is
  written to or moved with bytes that were read ahead.

  Main declarations:
    * `plainStep`
    * `UserFile.Represents`
    * `UserFile.CallFits`
    * `UserFile.step_represents`
    * `userFile_plain`
-/

------------------------------------------------------------
-- Plain Files
------------------------------------------------------------

namespace Ssh1

namespace OpenFile

/- A line with its newline, if there is one. -/
def lineOf (text : List UInt8) : List UInt8 :=
  text.takeWhile (· ≠ 10) ++
    (text.dropWhile (· ≠ 10)).take 1

end OpenFile

/- The operations on a content and a position. -/
def plainStep
    (file : OpenFile) :
    UserFileCall → UserFileAnswer × OpenFile
| .read len =>
    let data := file.next len.toNat
    (.data data, file.advance data.length)
| .getc =>
    let data := file.next 1
    (.char data.head?, file.advance data.length)
| .gets size =>
    let line := OpenFile.lineOf (file.next (size - 1).toNat)
    (.line (if line = [] then none else some line),
      file.advance line.length)
| .write data => (.count data.length, file.write data)
| .lseek offset whence =>
    let (pos, file) := file.lseek offset whence
    (.position pos, file)

namespace OpenFile

theorem next_zero (file : OpenFile) :
    file.next 0 = [] :=
  List.take_zero

theorem advance_zero (file : OpenFile) :
    file.advance 0 = file :=
  rfl

/- Two moves are one. -/
theorem advance_advance
    (file : OpenFile)
    (m n : Nat) :
    (file.advance m).advance n = file.advance (m + n) := by
  simp only [advance, Nat.add_assoc]

/- The next bytes are one byte and the ones after it. -/
theorem next_succ
    (file : OpenFile)
    (n : Nat) :
    file.next (n + 1) =
      match (file.next 1).head? with
      | none => []
      | some ch => ch :: (file.advance 1).next n := by
  unfold next advance
  rw [← List.drop_drop]
  cases file.content.drop file.pos with
  | nil => rfl
  | cons ch text => rfl

/- A byte that is there is one byte. -/
theorem length_next_one
    {file : OpenFile}
    {ch : UInt8}
    (hHead : (file.next 1).head? = some ch) :
    (file.next 1).length = 1 := by
  unfold next at hHead ⊢
  cases hText : file.content.drop file.pos with
  | nil =>
      rw [hText] at hHead
      cases hHead
  | cons ch text => rfl

/- At the end there is none. -/
theorem next_one_nil
    {file : OpenFile}
    (hHead : (file.next 1).head? = none) :
    (file.next 1).length = 0 := by
  rw [List.head?_eq_none_iff] at hHead
  rw [hHead, List.length_nil]

/- Bytes that were read are the next ones of their number. -/
theorem next_length
    (file : OpenFile)
    (n : Nat) :
    file.next (file.next n).length = file.next n := by
  unfold next
  rw [List.length_take, List.take_eq_take_iff]
  omega

/- A line goes on until its newline. -/
theorem lineOf_cons
    (ch : UInt8)
    (text : List UInt8) :
    lineOf (ch :: text) =
      if ch = 10 then [ch] else ch :: lineOf text := by
  unfold lineOf
  by_cases hNewline : ch = 10
  · rw [if_pos hNewline]
    simp [hNewline]
  · rw [if_neg hNewline]
    simp [hNewline]

/- Two writes in a row are one write. -/
theorem write_write
    (file : OpenFile)
    (data data' : List UInt8) :
    (file.write data).write data' =
      file.write (data ++ data') := by
  unfold write
  by_cases hNone : data = []
  · rw [if_pos hNone, hNone, List.nil_append]
  · by_cases hNone' : data' = []
    · rw [if_pos hNone', hNone', List.append_nil]
    · have hBoth : data ++ data' ≠ [] := by
        simp [hNone]
      have hHead :
          ((file.content ++
              List.replicate
                (file.pos - file.content.length) 0).take
            file.pos ++ data).length =
            file.pos + data.length := by
        rw [List.length_append, List.length_take,
          List.length_append, List.length_replicate]
        omega
      rw [if_neg hNone, if_neg hNone', if_neg hBoth]
      simp only [OpenFile.mk.injEq]
      constructor
      · rw [List.append_assoc _ _ (List.replicate _ _),
          List.take_append_of_le_length (Nat.le_of_eq hHead.symm),
          List.take_of_length_le (Nat.le_of_eq hHead),
          List.drop_append, hHead,
          List.drop_eq_nil_of_le (by omega),
          List.nil_append, List.drop_drop, List.length_append,
          ← List.append_assoc]
        congr 2
        omega
      · rw [List.length_append, Nat.add_assoc]

end OpenFile

end Ssh1

------------------------------------------------------------
-- Packets
------------------------------------------------------------

namespace Ssh1

/- An `int` is kept. -/
theorem asInt_of_small
    {n : Int}
    (hFrom : -(2 ^ 31) ≤ n)
    (hTo : n < 2 ^ 31) :
    asInt n = n := by
  unfold asInt
  rw [BitVec.toInt_ofInt]
  exact Int.bmod_eq_of_le (by omega) (by omega)

/- An unsigned word is kept. -/
theorem asUnsigned_of_small
    {n : Nat}
    (hSmall : n < 2 ^ 32) :
    asUnsigned n = n := by
  unfold asUnsigned
  rw [BitVec.toNat_ofInt]
  omega

/- What goes as an `int` comes back with the same bits. -/
theorem asInt_asUnsigned (n : Int) :
    asInt (asUnsigned n) = asInt n := by
  unfold asInt asUnsigned
  rw [BitVec.ofInt_natCast, BitVec.ofNat_toNat,
    BitVec.setWidth_eq]

/- The sign makes no difference to the word. -/
theorem asUnsigned_asInt (n : Int) :
    asUnsigned (asInt n) = asUnsigned n := by
  unfold asInt asUnsigned
  rw [BitVec.ofInt_toInt]

theorem asUnsigned_lt (n : Int) :
    asUnsigned n < 2 ^ 32 :=
  BitVec.isLt _

/- A packet that is short enough is read as it was written. -/
theorem userfileReadRaw_packet
    {type : UInt8}
    {body : Buffer}
    (hLength : body.length < 32000) :
    userfileReadRaw (userfilePacket type body) =
      .ok (type, body) := by
  have hWord : body.length + 1 < 2 ^ 32 := by
    omega
  have hGet : bufferGet (type :: body) (body.length + 1) =
      .ok (type :: body, []) := by
    have hAll := bufferGet_append (type :: body) []
    rw [List.append_nil, List.length_cons] at hAll
    exact hAll
  rw [userfileReadRaw, userfilePacket,
    bufferGetInt_put32Bit_append hWord, FallibleRun.ok_bind]
  simp only
  rw [if_neg (by omega), hGet, FallibleRun.ok_bind]
  exact bufferGetChar_cons type body

/- A word that is put is got. -/
theorem bufferGetInt_put
    {n : Nat}
    (hSmall : n < 2 ^ 32) :
    bufferGetInt (bufferPutInt [] n) = .ok (n, []) := by
  have hGet := bufferGetInt_put32Bit_append hSmall []
  rw [List.append_nil] at hGet
  exact hGet

end Ssh1

------------------------------------------------------------
-- The Child
------------------------------------------------------------

namespace Ssh1

variable {short : Nat → Nat}
variable {fds : Descriptors}
variable {handle : Nat}

/- `read` returns no more than was asked for. -/
theorem Descriptors.length_read_le
    (short : Nat → Nat)
    (fds : Descriptors)
    (handle count : Nat) :
    ((fds.read short handle count).1.getD []).length ≤
      count := by
  unfold Descriptors.read
  cases fds.files handle with
  | none => exact Nat.zero_le _
  | some file =>
      simp only [Option.getD_some, OpenFile.next,
        List.length_take]
      omega

/- A reply of the child that is not too long. -/
theorem userfileCall_of_reply
    {type reply : UInt8}
    {body answer : Buffer}
    {fds' : Descriptors}
    (hChild :
      userfileChildTurn short fds (userfilePacket type body) =
        .ok (userfilePacket reply answer, fds'))
    (hLength : answer.length < 32000) :
    userfileCall short fds type body reply =
      .ok (answer, fds') := by
  rw [userfileCall, hChild, FallibleRun.ok_bind]
  simp only
  rw [userfileReadRaw_packet hLength, FallibleRun.ok_bind]
  simp only [if_true]
  rfl

theorem bufferGetInt_put_append
    {n : Nat}
    (hSmall : n < 2 ^ 32)
    (m : Nat) :
    bufferGetInt (bufferPutInt (bufferPutInt [] n) m) =
      .ok (n, bufferPutInt [] m) :=
  bufferGetInt_put32Bit_append hSmall (put32Bit m)

theorem length_bufferPutInt
    (buffer : Buffer)
    (n : Nat) :
    (bufferPutInt buffer n).length = buffer.length + 4 := by
  rw [bufferPutInt, bufferAppend, List.length_append,
    length_put32Bit]

/- A read request is served by the other process. -/
theorem userfileCall_read
    (hHandle : handle < 2 ^ 32) :
    userfileCall short fds userfileReadRequest
        (bufferPutInt (bufferPutInt [] handle) 512)
        userfileReadReply =
      .ok (bufferPutString []
          ((fds.read short handle 512).1.getD []),
        (fds.read short handle 512).2) := by
  have hLength : (bufferPutString []
      ((fds.read short handle 512).1.getD [])).length <
        32000 := by
    have hData := Descriptors.length_read_le short fds handle 512
    rw [bufferPutString, bufferAppend, List.length_append,
      length_bufferPutInt, List.length_nil]
    omega
  refine userfileCall_of_reply ?_ hLength
  rw [userfileChildTurn, userfileReadRaw_packet (by
      rw [length_bufferPutInt, length_bufferPutInt,
        List.length_nil]
      omega), FallibleRun.ok_bind]
  simp only [if_true]
  rw [bufferGetInt_put_append hHandle, FallibleRun.ok_bind]
  simp only
  rw [bufferGetInt_put (by omega), FallibleRun.ok_bind]
  rfl

/- So is a write request. -/
theorem userfileCall_write
    (hHandle : handle < 2 ^ 32)
    {data : List UInt8}
    (hData : data.length ≤ 16000) :
    userfileCall short fds userfileWriteRequest
        (bufferPutString (bufferPutInt [] handle) data)
        userfileWriteReply =
      .ok (bufferPutInt []
          (asUnsigned (asInt (fds.write handle data).1)),
        (fds.write handle data).2) := by
  have hShape : bufferPutString (bufferPutInt [] handle) data =
      put32Bit handle ++ (bufferPutString [] data ++ []) := by
    simp only [bufferPutString, bufferPutInt, bufferAppend,
      List.nil_append, List.append_nil, List.append_assoc]
  have hOther : ¬ userfileWriteRequest = userfileReadRequest := by
    decide
  refine userfileCall_of_reply ?_ (by
    rw [length_bufferPutInt, List.length_nil]
    omega)
  rw [userfileChildTurn, userfileReadRaw_packet (by
      rw [bufferPutString, bufferAppend, List.length_append,
        length_bufferPutInt, length_bufferPutInt,
        List.length_nil]
      omega), FallibleRun.ok_bind]
  simp only [if_neg hOther, if_true]
  rw [hShape, bufferGetInt_put32Bit_append hHandle,
    FallibleRun.ok_bind]
  simp only
  rw [bufferGetString_bufferPutString_append
      (by
        unfold maxStringLength
        omega), FallibleRun.ok_bind]
  rfl

/- So is a request to move. -/
theorem userfileCall_lseek
    (hHandle : handle < 2 ^ 32)
    (offset whence : Int) :
    userfileCall short fds userfileLseekRequest
        (bufferPutInt
          (bufferPutInt
            (bufferPutInt [] handle) (asUnsigned offset))
          (asUnsigned whence))
        userfileLseekReply =
      .ok (bufferPutInt []
          (asUnsigned (fds.lseek handle (asUnsigned offset)
            (asInt whence)).1),
        (fds.lseek handle (asUnsigned offset)
          (asInt whence)).2) := by
  have hShape :
      bufferPutInt
          (bufferPutInt
            (bufferPutInt [] handle) (asUnsigned offset))
          (asUnsigned whence) =
        put32Bit handle ++
          bufferPutInt (bufferPutInt [] (asUnsigned offset))
            (asUnsigned whence) := by
    simp only [bufferPutInt, bufferAppend, List.nil_append,
      List.append_assoc]
  have hOther : ¬ userfileLseekRequest = userfileReadRequest := by
    decide
  have hOther' :
      ¬ userfileLseekRequest = userfileWriteRequest := by
    decide
  refine userfileCall_of_reply ?_ (by
    rw [length_bufferPutInt, List.length_nil]
    omega)
  rw [userfileChildTurn, userfileReadRaw_packet (by
      rw [length_bufferPutInt, length_bufferPutInt,
        length_bufferPutInt, List.length_nil]
      omega), FallibleRun.ok_bind]
  simp only [if_neg hOther, if_neg hOther', if_true]
  rw [hShape, bufferGetInt_put32Bit_append hHandle,
    FallibleRun.ok_bind]
  simp only
  rw [bufferGetInt_put_append (asUnsigned_lt offset),
    FallibleRun.ok_bind]
  simp only
  rw [bufferGetInt_put (asUnsigned_lt whence),
    FallibleRun.ok_bind]
  simp only
  rw [asInt_asUnsigned, asUnsigned_asInt]
  rfl

end Ssh1

------------------------------------------------------------
-- Reading
------------------------------------------------------------

namespace Ssh1

theorem Descriptors.put_files
    (fds : Descriptors)
    (handle : Nat)
    (file : OpenFile) :
    (fds.put handle file).files handle = some file :=
  if_pos rfl

/-
  The descriptor is ahead of the plain file by the bytes that
  were read ahead.
-/
structure UserFile.Represents
    (uf : UserFile)
    (plain : OpenFile) : Prop where
  handle : uf.handle < 2 ^ 31
  file :
    uf.fds.files uf.handle =
      some (plain.advance uf.unread.length)
  unread : uf.unread = plain.next uf.unread.length

namespace UserFile

variable {short : Nat → Nat}
variable {uf : UserFile}
variable {plain : OpenFile}

/- The bytes that a read of the descriptor leads to. -/
theorem read_descriptor
    (short : Nat → Nat)
    (hRep : uf.Represents plain)
    (hEmpty : uf.unread = []) :
    ∃ n fds,
      0 < n ∧
      uf.fds.read short uf.handle 512 =
        (some (plain.next n), fds) ∧
      fds.files uf.handle =
        some (plain.advance (plain.next n).length) := by
  have hFile : uf.fds.files uf.handle = some plain := by
    rw [hRep.file, hEmpty]
    rfl
  refine ⟨min 512 (max 1 (short uf.fds.reads)),
    ({ uf.fds with reads := uf.fds.reads + 1 }).put uf.handle
      (plain.advance (plain.next
        (min 512 (max 1 (short uf.fds.reads)))).length),
    by omega, ?_, ?_⟩
  · rw [Descriptors.read, hFile]
  · exact Descriptors.put_files _ _ _

/- Filling gives the next bytes, on either side. -/
theorem fill_represents
    (short : Nat → Nat)
    (hRep : uf.Represents plain)
    (hEmpty : uf.unread = []) :
    ∃ n fds,
      0 < n ∧
      fill short uf =
        .ok (decide (plain.next n ≠ []), { uf with
          unread := plain.next n
          fds := fds }) ∧
      Represents { uf with
        unread := plain.next n
        fds := fds } plain := by
  rcases read_descriptor short hRep hEmpty with
    ⟨n, fds, hPos, hRead, hFile⟩
  have hRep' : Represents { uf with
      unread := plain.next n
      fds := fds } plain :=
    ⟨hRep.handle, hFile, (plain.next_length n).symm⟩
  refine ⟨n, fds, hPos, ?_, hRep'⟩
  rw [fill, if_neg (not_not_intro hEmpty)]
  cases hType : uf.type with
  | userfileLocal =>
      simp only [hRead, Option.getD_some]
      by_cases hEnd : plain.next n = []
      · simp [hEnd, hEmpty]
      · simp [hEnd]
  | userfileRemote =>
      have hHandle : uf.handle < 2 ^ 32 := by
        have hSmall := hRep.handle
        omega
      have hShort := Descriptors.length_read_le short uf.fds
        uf.handle 512
      simp only [userfileCall_read hHandle, hRead,
        Option.getD_some] at hShort ⊢
      have hString := bufferGetString_bufferPutString_append
        (show (plain.next n).length ≤ maxStringLength by
          unfold maxStringLength
          omega) []
      rw [List.append_nil] at hString
      simp only [FallibleRun.ok_bind, hString]
      rw [if_neg (by omega)]
      by_cases hEnd : plain.next n = []
      · simp [hEnd, hEmpty]
      · simp [hEnd]

/- A byte that was read ahead is the next one. -/
theorem represents_tail
    {ch : UInt8}
    {unread : List UInt8}
    (hRep : uf.Represents plain)
    (hUnread : uf.unread = ch :: unread) :
    (plain.next 1).head? = some ch ∧
      Represents { uf with unread := unread }
        (plain.advance 1) := by
  have hNext := hRep.unread
  rw [hUnread, List.length_cons, OpenFile.next_succ] at hNext
  cases hHead : (plain.next 1).head? with
  | none =>
      rw [hHead] at hNext
      cases hNext
  | some ch' =>
      rw [hHead] at hNext
      injection hNext with hCh hRest
      refine ⟨congrArg some hCh.symm,
        hRep.handle, ?_, hRest⟩
      have hFile := hRep.file
      rw [hUnread, List.length_cons] at hFile
      show uf.fds.files uf.handle = _
      rw [hFile, OpenFile.advance_advance, Nat.add_comm]

/- A character, in either variant. -/
theorem getc_represents
    (short : Nat → Nat)
    (hRep : uf.Represents plain) :
    ∃ uf',
      getc short uf = .ok ((plain.next 1).head?, uf') ∧
      uf'.Represents
        (plain.advance (plain.next 1).length) ∧
      uf'.type = uf.type := by
  cases hUnread : uf.unread with
  | cons ch unread =>
      rcases represents_tail hRep hUnread with ⟨hHead, hRep'⟩
      refine ⟨{ uf with unread := unread }, ?_, ?_, rfl⟩
      · rw [getc, hUnread, hHead]
      · rw [OpenFile.length_next_one hHead]
        exact hRep'
  | nil =>
      rcases fill_represents short hRep hUnread with
        ⟨n, fds, hPos, hFill, hRep'⟩
      have hSucc := plain.next_succ (n - 1)
      rw [Nat.sub_add_cancel hPos] at hSucc
      rw [getc, hUnread, hFill]
      simp only [FallibleRun.ok_bind]
      cases hNext : plain.next n with
      | nil =>
          rw [hNext] at hSucc hRep'
          have hHead : (plain.next 1).head? = none := by
            cases hCase : (plain.next 1).head? with
            | none => rfl
            | some ch =>
                rw [hCase] at hSucc
                cases hSucc
          refine ⟨{ uf with unread := [], fds := fds }, ?_,
            ?_, rfl⟩
          · simp [hHead]
          · rw [OpenFile.next_one_nil hHead]
            exact hRep'
      | cons ch unread =>
          rw [hNext] at hRep'
          rcases represents_tail hRep' rfl with
            ⟨hHead, hRep''⟩
          refine ⟨{ uf with unread := unread, fds := fds }, ?_,
            ?_, rfl⟩
          · simp [hHead]
          · rw [OpenFile.length_next_one hHead]
            exact hRep''

/- Reading gives the next bytes of the plain file. -/
theorem read_represents
    (short : Nat → Nat)
    (len : Nat)
    (hRep : uf.Represents plain) :
    ∃ uf',
      read short len uf = .ok (plain.next len, uf') ∧
      uf'.Represents
        (plain.advance (plain.next len).length) ∧
      uf'.type = uf.type := by
  induction len generalizing uf plain with
  | zero =>
      rw [OpenFile.next_zero]
      exact ⟨uf, rfl, hRep, rfl⟩
  | succ len ih =>
      rcases getc_represents short hRep with
        ⟨uf', hGetc, hRep', hType⟩
      have hSucc := plain.next_succ len
      rw [read, hGetc, FallibleRun.ok_bind]
      cases hHead : (plain.next 1).head? with
      | none =>
          rw [hHead] at hSucc
          rw [OpenFile.next_one_nil hHead] at hRep'
          rw [hSucc]
          exact ⟨uf', rfl, hRep', hType⟩
      | some ch =>
          rw [hHead] at hSucc
          rw [OpenFile.length_next_one hHead] at hRep'
          rcases ih hRep' with ⟨uf'', hRead, hRep'', hType'⟩
          refine ⟨uf'', ?_, ?_, hType'.trans hType⟩
          · simp only [hRead, FallibleRun.ok_bind]
            rw [hSucc]
            rfl
          · rw [hSucc, List.length_cons, Nat.add_comm,
              ← OpenFile.advance_advance]
            exact hRep''

/- The loop stops after a newline, or where it has no room. -/
theorem getsLoop_represents
    (short : Nat → Nat)
    (room : Nat)
    (hRep : uf.Represents plain) :
    ∃ uf',
      getsLoop short room uf =
        .ok (OpenFile.lineOf (plain.next room), uf') ∧
      uf'.Represents
        (plain.advance
          (OpenFile.lineOf (plain.next room)).length) ∧
      uf'.type = uf.type := by
  induction room generalizing uf plain with
  | zero =>
      rw [OpenFile.next_zero]
      exact ⟨uf, rfl, hRep, rfl⟩
  | succ room ih =>
      rcases getc_represents short hRep with
        ⟨uf', hGetc, hRep', hType⟩
      have hSucc := plain.next_succ room
      rw [getsLoop, hGetc, FallibleRun.ok_bind]
      cases hHead : (plain.next 1).head? with
      | none =>
          rw [hHead] at hSucc
          rw [OpenFile.next_one_nil hHead] at hRep'
          rw [hSucc]
          exact ⟨uf', rfl, hRep', hType⟩
      | some ch =>
          rw [hHead] at hSucc
          rw [OpenFile.length_next_one hHead] at hRep'
          rw [hSucc, OpenFile.lineOf_cons]
          simp only
          by_cases hNewline : ch = 10
          · rw [if_pos hNewline, if_pos hNewline]
            exact ⟨uf', rfl, hRep', hType⟩
          · rw [if_neg hNewline, if_neg hNewline]
            rcases ih hRep' with ⟨uf'', hRead, hRep'', hType'⟩
            refine ⟨uf'', ?_, ?_, hType'.trans hType⟩
            · simp only [hRead, FallibleRun.ok_bind]
              rfl
            · rw [List.length_cons, Nat.add_comm,
                ← OpenFile.advance_advance]
              exact hRep''

end UserFile

end Ssh1

------------------------------------------------------------
-- Writing and Moving
------------------------------------------------------------

namespace Ssh1

namespace UserFile

variable {uf : UserFile}
variable {plain : OpenFile}

/- A handle whose descriptor has the position of the file. -/
theorem represents_of_empty
    {fds : Descriptors}
    (hHandle : uf.handle < 2 ^ 31)
    (hEmpty : uf.unread = [])
    (hFile : fds.files uf.handle = some plain) :
    Represents { uf with fds := fds } plain where
  handle := hHandle
  file := by
    show fds.files uf.handle = _
    rw [hFile, hEmpty]
    rfl
  unread := by
    show uf.unread = _
    rw [hEmpty]
    exact plain.next_zero.symm

/- With nothing unread the file stands where it is. -/
theorem file_of_empty
    (hRep : uf.Represents plain)
    (hEmpty : uf.unread = []) :
    uf.fds.files uf.handle = some plain := by
  rw [hRep.file, hEmpty]
  rfl

theorem write_nil (plain : OpenFile) :
    plain.write [] = plain :=
  if_pos rfl

/- `write` to an open handle takes all the data. -/
theorem write_descriptor
    {fds : Descriptors}
    {handle : Nat}
    (hFile : fds.files handle = some plain)
    (data : List UInt8) :
    fds.write handle data =
      ((data.length : Int),
        fds.put handle (plain.write data)) := by
  rw [Descriptors.write, hFile]

/-
  By induction on the turns: the chunks that were written are
  one write.
-/
theorem writeLoop_represents
    (short : Nat → Nat)
    {turns offset : Nat}
    {data : List UInt8}
    (hTurns : data.length < turns)
    (hSmall : offset + data.length < 2 ^ 31)
    (hRep : uf.Represents plain)
    (hEmpty : uf.unread = []) :
    ∃ uf',
      writeLoop short turns offset data uf =
        .ok ((offset + data.length : Nat), uf') ∧
      uf'.Represents (plain.write data) ∧
      uf'.type = uf.type := by
  induction turns generalizing offset data uf plain with
  | zero => omega
  | succ turns ih =>
      rw [writeLoop]
      by_cases hDone : data = []
      · rw [if_pos hDone, hDone, List.length_nil,
          Nat.add_zero, write_nil,
          asInt_of_small (by omega) (by omega)]
        exact ⟨uf, rfl, hRep, rfl⟩
      · rw [if_neg hDone]
        have hData := List.length_pos_of_ne_nil hDone
        have hHandle : uf.handle < 2 ^ 32 := by
          have hSmall' := hRep.handle
          omega
        have hChunk : (data.take 16000).length ≤ 16000 :=
          List.length_take_le _ _
        have hWrite := write_descriptor
          (file_of_empty hRep hEmpty) (data.take 16000)
        have hRet : asInt ((data.take 16000).length : Int) =
            (data.take 16000).length :=
          asInt_of_small (by omega) (by omega)
        have hReply :
            asUnsigned ((data.take 16000).length : Int) =
              (data.take 16000).length :=
          asUnsigned_of_small (by omega)
        have hLeft : (data.drop 16000).length =
            data.length - 16000 :=
          List.length_drop
        have hLength : (data.take 16000).length =
            min 16000 data.length :=
          List.length_take
        have hRep' := represents_of_empty hRep.handle hEmpty
          (uf.fds.put_files uf.handle
            (plain.write (data.take 16000)))
        rcases @ih _ _ (offset + (data.take 16000).length)
            (data.drop 16000) (by omega) (by omega)
            hRep' hEmpty with
          ⟨uf', hLoop, hRep'', hType⟩
        refine ⟨uf', ?_, ?_, hType⟩
        · simp only [userfileCall_write hHandle hChunk, hWrite,
            FallibleRun.ok_bind, hRet, hReply]
          rw [bufferGetInt_put (by omega)]
          simp only [FallibleRun.ok_bind, hRet]
          rw [if_neg (by omega), if_neg (not_not_intro rfl),
            hLoop]
          congr 3
          omega
        · rw [OpenFile.write_write, List.take_append_drop]
            at hRep''
          exact hRep''

/- A write with nothing read ahead, or of nothing. -/
theorem write_represents
    (short : Nat → Nat)
    {data : List UInt8}
    (hRep : uf.Represents plain)
    (hFits : data = [] ∨
      uf.unread = [] ∧ plain.pos + data.length < 2 ^ 31) :
    ∃ uf',
      write short data uf = .ok (data.length, uf') ∧
      uf'.Represents (plain.write data) := by
  cases hType : uf.type with
  | userfileLocal =>
      rcases hFits with rfl | ⟨hEmpty, hSmall⟩
      · refine ⟨{ uf with
            fds := uf.fds.put uf.handle
              ((plain.advance uf.unread.length).write []) },
          ?_, ?_⟩
        · rw [write, hType]
          simp only [write_descriptor hRep.file]
          rfl
        · rw [write_nil, write_nil]
          exact ⟨hRep.handle, uf.fds.put_files _ _, hRep.unread⟩
      · refine ⟨{ uf with
            fds := uf.fds.put uf.handle (plain.write data) },
          ?_, represents_of_empty hRep.handle hEmpty
            (uf.fds.put_files _ _)⟩
        have hRet : asInt (data.length : Int) = data.length :=
          asInt_of_small (by omega) (by omega)
        rw [write, hType]
        simp only [write_descriptor (file_of_empty hRep hEmpty),
          hRet]
  | userfileRemote =>
      rw [write, hType]
      simp only
      rcases hFits with rfl | ⟨hEmpty, hSmall⟩
      · rw [write_nil]
        exact ⟨uf, rfl, hRep⟩
      · rcases writeLoop_represents short
            (Nat.lt_succ_self data.length)
            (show 0 + data.length < 2 ^ 31 by omega)
            hRep hEmpty with
          ⟨uf', hLoop, hRep', -⟩
        rw [Nat.zero_add] at hLoop
        exact ⟨uf', hLoop, hRep'⟩

theorem lseek_descriptor
    {fds : Descriptors}
    {handle : Nat}
    (hFile : fds.files handle = some plain)
    (offset whence : Int) :
    fds.lseek handle offset whence =
      ((plain.lseek offset whence).1,
        fds.put handle (plain.lseek offset whence).2) := by
  rw [Descriptors.lseek, hFile]

end UserFile

end Ssh1

------------------------------------------------------------
-- Calls That Fit
------------------------------------------------------------

namespace Ssh1

/- There is no such position in the file. -/
def OpenFile.SeekFails
    (file : OpenFile)
    (offset whence : Int) : Prop :=
  ∀ pos, file.target offset whence = some pos → pos < 0

namespace UserFile

/-
  A handle is written to, or moved, only when nothing was
  read ahead. An offset for the child is not negative, and it
  and the position have 32 bits.
-/
def CallFits (uf : UserFile) : UserFileCall → Prop
| .read _ => True
| .getc => True
| .gets _ => True
| .write data =>
    data = [] ∨
      uf.unread = [] ∧
        ∀ file, uf.fds.files uf.handle = some file →
          file.pos + data.length < 2 ^ 31
| .lseek offset whence =>
    match uf.type with
    | .userfileLocal =>
        uf.unread = [] ∨
          ∀ file, uf.fds.files uf.handle = some file →
            file.SeekFails offset whence
    | .userfileRemote =>
        uf.unread = [] ∧ 0 ≤ offset ∧ offset < 2 ^ 32 ∧
          ∀ file, uf.fds.files uf.handle = some file →
            ∃ pos, file.target offset whence = some pos ∧
              pos < 2 ^ 32

variable {uf : UserFile}
variable {plain : OpenFile}

/- A move that fails leaves the position. -/
theorem lseek_of_fails
    {offset whence : Int}
    (hFails : plain.SeekFails offset whence) :
    plain.lseek offset whence = (-1, plain) := by
  unfold OpenFile.lseek
  cases hTarget : plain.target offset whence with
  | none => rfl
  | some pos =>
      have hNegative := hFails pos hTarget
      simp only
      rw [if_neg (by omega)]

/- What fails further on fails before, too. -/
theorem seekFails_of_advance
    {n : Nat}
    {offset whence : Int}
    (hFails : (plain.advance n).SeekFails offset whence) :
    plain.SeekFails offset whence := by
  intro pos hTarget
  unfold OpenFile.SeekFails OpenFile.target at hFails
  unfold OpenFile.target at hTarget
  by_cases hSet : whence = 0
  · rw [if_pos hSet] at hTarget
    simp only [if_pos hSet] at hFails
    exact hFails pos hTarget
  · rw [if_neg hSet] at hTarget
    simp only [if_neg hSet] at hFails
    by_cases hCur : whence = 1
    · rw [if_pos hCur] at hTarget
      simp only [if_pos hCur] at hFails
      have hBound := hFails _ rfl
      cases hTarget
      rw [OpenFile.advance] at hBound
      simp only [Nat.cast_add] at hBound
      omega
    · rw [if_neg hCur] at hTarget
      simp only [if_neg hCur] at hFails
      exact hFails pos hTarget

/- A move in the own process. -/
theorem lseek_represents_local
    {offset whence : Int}
    (hRep : uf.Represents plain)
    (hType : uf.type = .userfileLocal)
    (hFits : uf.unread = [] ∨
      (plain.advance uf.unread.length).SeekFails
        offset whence)
    (short : Nat → Nat) :
    ∃ uf',
      lseek short offset whence uf =
        .ok ((plain.lseek offset whence).1, uf') ∧
      uf'.Represents (plain.lseek offset whence).2 := by
  rcases hFits with hEmpty | hFails
  · refine ⟨{ uf with
        fds := uf.fds.put uf.handle
          (plain.lseek offset whence).2 }, ?_,
      represents_of_empty hRep.handle hEmpty
        (uf.fds.put_files _ _)⟩
    rw [lseek, hType]
    simp only [lseek_descriptor (file_of_empty hRep hEmpty)]
  · rw [lseek_of_fails (seekFails_of_advance hFails)]
    refine ⟨{ uf with
        fds := uf.fds.put uf.handle
          (plain.advance uf.unread.length) }, ?_,
      hRep.handle, uf.fds.put_files _ _, hRep.unread⟩
    rw [lseek, hType]
    simp only [lseek_descriptor hRep.file,
      lseek_of_fails hFails]

/- A position that goes through the pipe as it is. -/
theorem lseek_represents_remote
    {offset whence pos : Int}
    (hRep : uf.Represents plain)
    (hType : uf.type = .userfileRemote)
    (hEmpty : uf.unread = [])
    (hFrom : 0 ≤ offset)
    (hTo : offset < 2 ^ 32)
    (hTarget : plain.target offset whence = some pos)
    (hPos : pos < 2 ^ 32)
    (short : Nat → Nat) :
    ∃ uf',
      lseek short offset whence uf =
        .ok ((plain.lseek offset whence).1, uf') ∧
      uf'.Represents (plain.lseek offset whence).2 := by
  have hHandle : uf.handle < 2 ^ 32 := by
    have hSmall := hRep.handle
    omega
  have hWhence : asInt whence = whence := by
    unfold OpenFile.target at hTarget
    by_cases hSet : whence = 0
    · rw [hSet]
      rfl
    · by_cases hCur : whence = 1
      · rw [hCur]
        rfl
      · by_cases hEnd : whence = 2
        · rw [hEnd]
          rfl
        · rw [if_neg hSet, if_neg hCur, if_neg hEnd] at hTarget
          cases hTarget
  have hNonneg : 0 ≤ pos := by
    unfold OpenFile.target at hTarget
    by_cases hSet : whence = 0
    · rw [if_pos hSet] at hTarget
      cases hTarget
      exact hFrom
    · by_cases hCur : whence = 1
      · rw [if_neg hSet, if_pos hCur] at hTarget
        cases hTarget
        omega
      · by_cases hEnd : whence = 2
        · rw [if_neg hSet, if_neg hCur, if_pos hEnd] at hTarget
          cases hTarget
          omega
        · rw [if_neg hSet, if_neg hCur, if_neg hEnd] at hTarget
          cases hTarget
  have hOffset : ((asUnsigned offset : Nat) : Int) = offset := by
    obtain ⟨n, rfl⟩ := Int.eq_ofNat_of_zero_le hFrom
    rw [asUnsigned_of_small (by omega)]
  have hSeek : plain.lseek offset whence =
      (pos, { plain with pos := pos.toNat }) := by
    rw [OpenFile.lseek, hTarget]
    simp only
    rw [if_pos ⟨hNonneg, by omega⟩]
  have hReply : ((asUnsigned pos : Nat) : Int) = pos := by
    obtain ⟨n, rfl⟩ := Int.eq_ofNat_of_zero_le hNonneg
    rw [asUnsigned_of_small (by omega)]
  rw [hSeek]
  refine ⟨{ uf with
      fds := uf.fds.put uf.handle
        { plain with pos := pos.toNat } }, ?_,
    represents_of_empty hRep.handle hEmpty
      (uf.fds.put_files _ _)⟩
  rw [lseek, hType]
  simp only [userfileCall_lseek hHandle, hOffset, hWhence,
    lseek_descriptor (file_of_empty hRep hEmpty), hSeek,
    FallibleRun.ok_bind]
  rw [bufferGetInt_put (asUnsigned_lt pos)]
  simp only [FallibleRun.ok_bind, hReply]
  rfl

/- One call, answered as the plain file answers it. -/
theorem step_represents
    (short : Nat → Nat)
    {call : UserFileCall}
    (hRep : uf.Represents plain)
    (hFits : uf.CallFits call) :
    ∃ uf',
      step short uf call =
        .ok ((plainStep plain call).1, uf') ∧
      uf'.Represents (plainStep plain call).2 := by
  cases call with
  | read len =>
      rcases read_represents short len.toNat hRep with
        ⟨uf', hRead, hRep', -⟩
      refine ⟨uf', ?_, hRep'⟩
      rw [step, hRead]
      rfl
  | getc =>
      rcases getc_represents short hRep with
        ⟨uf', hGetc, hRep', -⟩
      refine ⟨uf', ?_, hRep'⟩
      rw [step, hGetc]
      rfl
  | gets size =>
      rcases getsLoop_represents short (size - 1).toNat hRep with
        ⟨uf', hGets, hRep', -⟩
      refine ⟨uf', ?_, hRep'⟩
      rw [step, gets, hGets]
      rfl
  | write data =>
      have hRoom : data = [] ∨
          uf.unread = [] ∧ plain.pos + data.length < 2 ^ 31 := by
        rcases hFits with hNone | ⟨hEmpty, hSmall⟩
        · exact Or.inl hNone
        · exact Or.inr ⟨hEmpty,
            hSmall plain (file_of_empty hRep hEmpty)⟩
      rcases write_represents short hRep hRoom with
        ⟨uf', hWrite, hRep'⟩
      refine ⟨uf', ?_, hRep'⟩
      rw [step, hWrite]
      rfl
  | lseek offset whence =>
      have hLseek : ∃ uf',
          lseek short offset whence uf =
            .ok ((plain.lseek offset whence).1, uf') ∧
          uf'.Represents (plain.lseek offset whence).2 := by
        unfold CallFits at hFits
        cases hType : uf.type with
        | userfileLocal =>
            rw [hType] at hFits
            refine lseek_represents_local hRep hType ?_ short
            rcases hFits with hEmpty | hFails
            · exact Or.inl hEmpty
            · exact Or.inr (hFails _ hRep.file)
        | userfileRemote =>
            rw [hType] at hFits
            rcases hFits with ⟨hEmpty, hFrom, hTo, hTarget⟩
            rcases hTarget plain (file_of_empty hRep hEmpty) with
              ⟨pos, hPos, hSmall⟩
            exact lseek_represents_remote hRep hType hEmpty
              hFrom hTo hPos hSmall short
      rcases hLseek with ⟨uf', hRun, hRep'⟩
      refine ⟨uf', ?_, hRep'⟩
      rw [step, hRun]
      rfl

end UserFile

end Ssh1

------------------------------------------------------------
-- Runs
------------------------------------------------------------

namespace Ssh1

open OutputRefinement

/- A descriptor of the process that has the file open. -/
structure Opened
    (fds : Descriptors)
    (handle : Nat)
    (plain : OpenFile) : Prop where
  small : handle < 2 ^ 31
  file : fds.files handle = some plain

/- What the file of a handle holds. -/
def UserFile.content (uf : UserFile) : Option (List UInt8) :=
  (uf.fds.files uf.handle).map OpenFile.content

/- The answers of a run, and what the file holds after it. -/
def UserFile.observed
    (short : Nat → Nat)
    (uf : UserFile)
    (calls : List UserFileCall) :
    Outcome (List UserFileAnswer × Option (List UInt8)) :=
  (runOutputs (UserFile.step short) uf calls).map
    fun result => (result.1, result.2.content)

/- The answers of a plain file and what it holds at the end. -/
def plainObserved
    (plain : OpenFile)
    (calls : List UserFileCall) :
    List UserFileAnswer × Option (List UInt8) :=
  let result := specOutputs plainStep plain calls
  (result.1, some result.2.content)

/- Every call fits the handle when it is made. -/
def AllCallsFit
    (short : Nat → Nat)
    (uf : UserFile)
    (calls : List UserFileCall) : Prop :=
  AllFit (UserFile.step short) UserFile.CallFits uf calls

/- The answers and the content are those of a plain file. -/
theorem UserFile.observed_eq
    {short : Nat → Nat}
    {type : UserFileType}
    {fds : Descriptors}
    {handle : Nat}
    {plain : OpenFile}
    (hOpened : Opened fds handle plain)
    {calls : List UserFileCall}
    (hFit :
      AllCallsFit short (userfileMakeHandle type handle fds)
        calls) :
    UserFile.observed short (userfileMakeHandle type handle fds)
        calls =
      .ok (plainObserved plain calls) := by
  have hRep :
      (userfileMakeHandle type handle fds).Represents plain :=
    ⟨hOpened.small, hOpened.file, plain.next_zero.symm⟩
  have hStep : ∀ uf plain call, uf.Represents plain →
      uf.CallFits call →
        ∃ uf', UserFile.step short uf call =
            .ok ((plainStep plain call).1, uf') ∧
          uf'.Represents (plainStep plain call).2 := by
    intro uf plain call hRep hFits
    exact UserFile.step_represents short hRep hFits
  rcases run_refines hStep hRep hFit with
    ⟨uf', hRun, hRep'⟩
  rw [UserFile.observed, hRun]
  have hContent : uf'.content =
      some (specOutputs plainStep plain calls).2.content := by
    rw [UserFile.content, hRep'.file]
    rfl
  simp only [Except.map, hContent, plainObserved]

/-
  Both variants, with reads as short as they may be, answer as
  the plain file, and leave the same content.
-/
theorem userFile_plain
    (shortLocal shortRemote : Nat → Nat)
    (fdsLocal fdsRemote : Descriptors)
    (handleLocal handleRemote : Nat)
    (plain : OpenFile)
    (calls : List UserFileCall)
    (hLocal : Opened fdsLocal handleLocal plain)
    (hRemote : Opened fdsRemote handleRemote plain)
    (hFitLocal :
      AllCallsFit shortLocal
        (userfileMakeHandle .userfileLocal handleLocal fdsLocal)
        calls)
    (hFitRemote :
      AllCallsFit shortRemote
        (userfileMakeHandle .userfileRemote handleRemote
          fdsRemote)
        calls) :
    UserFile.observed shortLocal
        (userfileMakeHandle .userfileLocal handleLocal fdsLocal)
        calls =
      .ok (plainObserved plain calls) ∧
    UserFile.observed shortRemote
        (userfileMakeHandle .userfileRemote handleRemote
          fdsRemote)
        calls =
      .ok (plainObserved plain calls) :=
  ⟨UserFile.observed_eq hLocal hFitLocal,
    UserFile.observed_eq hRemote hFitRemote⟩

/- The file `abc`, as the descriptor 5. -/
def abcFile : OpenFile := ⟨[97, 98, 99], 0⟩

/- A process whose descriptor 5 is a file of three bytes. -/
def abcDescriptors : Descriptors where
  files := fun i => if i = 5 then some abcFile else none
  reads := 0

/- Written, moved back and read. -/
def rereadCalls : List UserFileCall :=
  [.write [120, 121], .lseek 0 0, .getc, .gets 10]

/- Nothing is unread where the sample moves. -/
theorem rereadCalls_fit (type : UserFileType) :
    AllCallsFit (fun _ => 1)
      (userfileMakeHandle type 5 abcDescriptors)
      rereadCalls := by
  cases type with
  | userfileLocal =>
      refine allFit_cons (Or.inr ⟨rfl, ?_⟩) rfl
        (allFit_cons (Or.inl rfl) rfl
          (allFit_cons trivial rfl
            (allFit_cons trivial rfl trivial)))
      intro file hFile
      cases hFile
      decide
  | userfileRemote =>
      refine allFit_cons (Or.inr ⟨rfl, ?_⟩) rfl
        (allFit_cons ⟨rfl, by decide, by decide, ?_⟩ rfl
          (allFit_cons trivial rfl
            (allFit_cons trivial rfl trivial)))
      · intro file hFile
        cases hFile
        decide
      · intro file hFile
        exact ⟨0, rfl, by decide⟩

/- Two bytes are written, and read again from the start. -/
theorem userFile_plain_reread :
    UserFile.observed (fun _ => 1)
        (userfileMakeHandle .userfileLocal 5 abcDescriptors)
        rereadCalls =
      .ok (plainObserved abcFile rereadCalls) ∧
    UserFile.observed (fun _ => 1)
        (userfileMakeHandle .userfileRemote 5 abcDescriptors)
        rereadCalls =
      .ok (plainObserved abcFile rereadCalls) :=
  userFile_plain (fun _ => 1) (fun _ => 1)
    abcDescriptors abcDescriptors 5 5 abcFile rereadCalls
    ⟨by decide, rfl⟩ ⟨by decide, rfl⟩
    (rereadCalls_fit .userfileLocal)
    (rereadCalls_fit .userfileRemote)

/-
  A position that is asked for after a character was read, and
  an error that comes back through the pipe.
-/
theorem userFile_not_plain :
    UserFile.observed (fun _ => 512)
        (userfileMakeHandle .userfileLocal 5 abcDescriptors)
        [.getc, .lseek 0 1] =
      .ok ([.char (some 97), .position 3],
        some [97, 98, 99]) ∧
    plainObserved abcFile [.getc, .lseek 0 1] =
      ([.char (some 97), .position 1], some [97, 98, 99]) ∧
    UserFile.observed (fun _ => 512)
        (userfileMakeHandle .userfileLocal 5 abcDescriptors)
        [.lseek (-1) 0] =
      .ok ([.position (-1)], some [97, 98, 99]) ∧
    UserFile.observed (fun _ => 512)
        (userfileMakeHandle .userfileRemote 5 abcDescriptors)
        [.lseek (-1) 0] =
      .ok ([.position 4294967295], some [97, 98, 99]) :=
  ⟨rfl, rfl, rfl, rfl⟩

end Ssh1
