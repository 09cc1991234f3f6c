import Ssh1.Auth.AuthorizedKeys
import Mathlib

/-
  The files of known hosts, and the pieces they are read in.

  A host is looked up in the pieces that the file is read
  in, and added by appending a line to the file. Each piece
  says something of the host or is passed over.

  Main declarations:
    * `checkHostInHostfile`, `addHostToHostfile`
    * `unfinishedPiece`
    * `KeepsKnownHosts`
    * `Finished`, `checkPieces_append`
-/

------------------------------------------------------------
-- Looking Up a Host
------------------------------------------------------------

namespace Ssh1

open QuotedText (Text)

/- What is known about a host and its key. -/
inductive HostStatus where
  | ok
  | new
  | changed
  deriving DecidableEq

/- The size of the buffer `line`. -/
def hostLineSize : Nat := 16384

/- The pieces that the known hosts are read in. -/
def hostPieces (file : Text) : List Text :=
  readPieces hostLineSize file.length file

/- The end of the host name portion. -/
def isNameChar (c : Char) : Bool :=
  !isBlank c

/- The loop over the pieces, with `end_return`. -/
def checkPieces
    (host : Text)
    (key : AuthorizedKey) :
    HostStatus → List Text → HostStatus
| endReturn, [] => endReturn
| endReturn, line :: lines =>
    let cp := skipBlanks (lineText line)
    if isEmptyOrComment cp then
      checkPieces host key endReturn lines
    else if !matchHostname host none
        (cp.takeWhile isNameChar) then
      checkPieces host key endReturn lines
    else
      match authRsaReadKey (cp.dropWhile isNameChar) with
      | none => checkPieces host key endReturn lines
      | some (known, _) =>
          if known = key then
            .ok
          else
            checkPieces host key .changed lines

/- A public key as the callers give it. -/
structure HostKey where
  bits : UInt32
  e : Nat
  n : Nat
  deriving DecidableEq

/- The key as a host file records it. -/
def HostKey.entry (key : HostKey) : AuthorizedKey where
  bits := key.bits.toNat
  e := key.e
  n := key.n

/- The file is `none` if it cannot be opened. -/
def checkHostInHostfile
    (file : Option Text)
    (host : Text)
    (key : HostKey) : HostStatus :=
  match file with
  | none => .new
  | some file =>
      checkPieces host key.entry .new (hostPieces file)

end Ssh1

------------------------------------------------------------
-- Adding a Host
------------------------------------------------------------

namespace Ssh1

open QuotedText (Text)

/- `mpz_get_str` with the base 10, and `%u` -/
def decimalText (value : Nat) : Text :=
  Nat.toDigits 10 value

/-
  How many bytes each write takes, given its number and its
  text: all of them, or fewer when it fails.
-/
abbrev WriteAnswers := Nat → Text → Nat

/- `userfile_write` at the end of the file: the bytes that
  the call accepts are appended. -/
def userfileWrite
    (answers : WriteAnswers)
    (call : Nat)
    (buf file : Text) : Text :=
  file ++ buf.take (answers call buf)

/-
  Whether the file could be opened for appending, and the
  file afterwards. The results of the writes are not looked
  at. At most 512 characters go into `buf`.
-/
def addHostToHostfile
    (opened : Bool)
    (answers : WriteAnswers)
    (file : Option Text)
    (host : Text)
    (key : HostKey) : Bool × Option Text :=
  if !opened then
    (false, file)
  else
    let buf :=
      host.take 500 ++ ' ' ::
        (decimalText key.bits.toNat ++ [' '])
    let file := file.getD []
    let file := userfileWrite answers 0 buf file
    let file := userfileWrite answers 1 (decimalText key.e) file
    let file := userfileWrite answers 2 [' '] file
    let file := userfileWrite answers 3 (decimalText key.n) file
    let file := userfileWrite answers 4 ['\n'] file
    (true, some file)

end Ssh1

------------------------------------------------------------
-- Consistency
------------------------------------------------------------

namespace Ssh1

open QuotedText (Text)

/- Lower-case letters, digits, dots and hyphens. -/
structure IsHostName (host : Text) : Prop where
  nonempty : host ≠ []
  length_le : host.length ≤ 500
  chars : ∀ c ∈ host,
    c.isLower = true ∨ c.isDigit = true ∨ c = '.' ∨ c = '-'

/- The entry of a host, without the newline. -/
def hostEntry (host : Text) (key : HostKey) : Text :=
  host ++ ' ' :: (decimalText key.bits.toNat ++
    ' ' :: (decimalText key.e ++ ' ' :: decimalText key.n))

/- The line of a host fits into the buffer of the reader. -/
def LineFits (host : Text) (key : HostKey) : Prop :=
  (hostEntry host key).length + 1 ≤ hostLineSize - 1

/- Every write takes all of its bytes. -/
def TakesAll (answers : WriteAnswers) : Prop :=
  ∀ call buf, buf.length ≤ answers call buf

/-
  After the host was added, it is known with the key, and
  the answers for other hosts are what they were.
-/
def KeepsKnownHosts
    (answers : WriteAnswers)
    (file : Option Text)
    (host : Text)
    (key : HostKey) : Prop :=
  ∀ opened after,
    addHostToHostfile opened answers file host key =
        (true, after) →
      checkHostInHostfile after host key = .ok ∧
        ∀ other otherKey,
          other ≠ host →
            checkHostInHostfile after other otherKey =
              checkHostInHostfile file other otherKey

/-
  The last piece of a file, if it has no newline and does
  not fill the buffer of the reader.
-/
def unfinishedPiece (file : Text) : Text :=
  match (hostPieces file).getLast? with
  | none => []
  | some piece =>
      if piece.getLast? = some '\n' ∨
          piece.length = hostLineSize - 1 then
        []
      else
        piece

end Ssh1

------------------------------------------------------------
-- Finished Pieces
------------------------------------------------------------

namespace Ssh1

open QuotedText (Text)

/- A text that is read as these pieces, whatever follows. -/
inductive Finished (room : Nat) : List Text → Text → Prop
| nil : Finished room [] []
| line
    {buf file : Text}
    {pieces : List Text}
    (hBuf : '\n' ∉ buf)
    (hRoom : buf.length < room)
    (hFile : Finished room pieces file) :
    Finished room ((buf ++ ['\n']) :: pieces)
      (buf ++ '\n' :: file)
| full
    {buf file : Text}
    {pieces : List Text}
    (hBuf : '\n' ∉ buf)
    (hRoom : buf.length = room)
    (hFile : Finished room pieces file) :
    Finished room (buf :: pieces) (buf ++ file)

/- A text without a newline that leaves room is one piece. -/
theorem readPieces_last
    {size fuel : Nat}
    {last : Text}
    (hLast : '\n' ∉ last)
    (hRoom : last.length ≤ size - 1)
    (hNonempty : last ≠ [])
    (hFuel : last.length ≤ fuel) :
    readPieces size fuel last = [last] := by
  cases last with
  | nil => exact (hNonempty rfl).elim
  | cons c last =>
      cases fuel with
      | zero => simp at hFuel
      | succ fuel =>
          rw [readPieces, userfileGets_last hLast hRoom]
          simp only [readPieces_nil]

/- Finished pieces are read before what follows. -/
theorem Finished.readPieces_append
    {room fuel : Nat}
    {pieces : List Text}
    {file : Text}
    (hFile : Finished room pieces file)
    (hRoom : 0 < room)
    (rest : Text)
    (hFuel : (file ++ rest).length ≤ fuel) :
    ∃ fuel',
      rest.length ≤ fuel' ∧
        readPieces (room + 1) fuel (file ++ rest) =
          pieces ++ readPieces (room + 1) fuel' rest := by
  induction hFile generalizing fuel with
  | nil => exact ⟨fuel, hFuel, rfl⟩
  | @line buf file pieces hBuf hLength hFile ih =>
      cases fuel with
      | zero => simp at hFuel
      | succ fuel =>
          have hRest : (file ++ rest).length ≤ fuel := by
            simp only [List.length_append, List.length_cons]
              at hFuel ⊢
            omega
          rcases ih hRest with ⟨fuel', hFuel', hPieces⟩
          refine ⟨fuel', hFuel', ?_⟩
          rw [List.append_assoc, List.cons_append, readPieces,
            Nat.add_sub_cancel,
            userfileGets_line (file ++ rest) hBuf hLength]
          cases buf with
          | nil => simpa using hPieces
          | cons c buf => simpa using hPieces
  | @full buf file pieces hBuf hLength hFile ih =>
      cases fuel with
      | zero =>
          simp only [List.length_append] at hFuel
          omega
      | succ fuel =>
          have hRest : (file ++ rest).length ≤ fuel := by
            simp only [List.length_append] at hFuel ⊢
            omega
          rcases ih hRest with ⟨fuel', hFuel', hPieces⟩
          refine ⟨fuel', hFuel', ?_⟩
          cases buf with
          | nil => simp at hLength; omega
          | cons c buf =>
              rw [List.append_assoc, readPieces,
                Nat.add_sub_cancel, ← hLength,
                userfileGets_full (file ++ rest) hBuf]
              simpa [← hLength] using hPieces

theorem Finished.append
    {room : Nat}
    {pieces more : List Text}
    {file rest : Text}
    (hFile : Finished room pieces file)
    (hRest : Finished room more rest) :
    Finished room (pieces ++ more) (file ++ rest) := by
  induction hFile with
  | nil => exact hRest
  | line hBuf hRoom _ ih =>
      simpa using Finished.line hBuf hRoom ih
  | full hBuf hRoom _ ih =>
      simpa using Finished.full hBuf hRoom ih

/- Every text is finished pieces and a last one with room. -/
theorem exists_finished
    {room : Nat}
    (hRoom : 0 < room)
    (file : Text) :
    ∃ pieces done last,
      file = done ++ last ∧ Finished room pieces done ∧
        '\n' ∉ last ∧ last.length < room := by
  induction hLength : file.length using Nat.strong_induction_on
    generalizing file with
  | _ length ih =>
      have hStep :
          ∀ buf rest,
            file = buf ++ rest →
            buf ≠ [] →
            ∃ pieces done last,
              rest = done ++ last ∧
                Finished room pieces done ∧
                '\n' ∉ last ∧ last.length < room := by
        intro buf rest hFile hBuf
        have hPos := List.length_pos_iff.mpr hBuf
        refine ih rest.length ?_ rest rfl
        rw [← hLength, hFile, List.length_append]
        omega
      have hFull :
          ∀ buf rest,
            file = buf ++ rest →
            '\n' ∉ buf →
            room ≤ buf.length →
            ∃ pieces done last,
              file = done ++ last ∧
                Finished room pieces done ∧
                '\n' ∉ last ∧ last.length < room := by
        intro buf rest hFile hBuf hLong
        have hTake : (buf.take room).length = room := by
          rw [List.length_take]
          omega
        have hSplit :
            file = buf.take room ++
              (buf.drop room ++ rest) := by
          rw [← List.append_assoc, List.take_append_drop]
          exact hFile
        have hTakeNonempty : buf.take room ≠ [] := by
          intro hNil
          rw [hNil, List.length_nil] at hTake
          omega
        rcases hStep _ _ hSplit hTakeNonempty with
          ⟨pieces, done, last, hRest, hDone, hLast⟩
        refine ⟨buf.take room :: pieces,
          buf.take room ++ done, last, ?_,
          Finished.full ?_ hTake hDone, hLast⟩
        · rw [hSplit, hRest, List.append_assoc]
        · exact fun hMem => hBuf (List.mem_of_mem_take hMem)
      rcases exists_first_line file with
        hOpen | ⟨line, rest, hLine, hFile⟩
      · by_cases hShort : file.length < room
        · exact ⟨[], [], file, rfl, Finished.nil, hOpen,
            hShort⟩
        · exact hFull file [] (by simp) hOpen (by omega)
      · by_cases hShort : line.length < room
        · have hFile' : file = (line ++ ['\n']) ++ rest := by
            simp [hFile]
          rcases hStep _ _ hFile' (by simp) with
            ⟨pieces, done, last, hRest, hDone, hLast⟩
          refine ⟨(line ++ ['\n']) :: pieces,
            line ++ '\n' :: done, last, ?_,
            Finished.line hLine hShort hDone, hLast⟩
          simp [hFile, hRest]
        · exact hFull line ('\n' :: rest) hFile hLine
            (by omega)

end Ssh1

------------------------------------------------------------
-- Entries
------------------------------------------------------------

namespace Ssh1

open QuotedText (Text)

/- The host name portion and the key of a piece. -/
def pieceEntry
    (line : Text) : Option (Text × AuthorizedKey) :=
  let cp := skipBlanks (lineText line)
  if isEmptyOrComment cp then
    none
  else
    (authRsaReadKey (cp.dropWhile isNameChar)).map
      fun known => (cp.takeWhile isNameChar, known.1)

variable {host : Text}
variable {key : AuthorizedKey}

theorem checkPieces_cons
    (endReturn : HostStatus)
    (line : Text)
    (lines : List Text) :
    checkPieces host key endReturn (line :: lines) =
      match pieceEntry line with
      | none => checkPieces host key endReturn lines
      | some (pattern, known) =>
          if matchHostname host none pattern then
            if known = key then
              .ok
            else
              checkPieces host key .changed lines
          else
            checkPieces host key endReturn lines := by
  rw [checkPieces]
  unfold pieceEntry
  by_cases hComment :
      isEmptyOrComment (skipBlanks (lineText line)) = true
  · simp only [hComment, if_true]
  · simp only [hComment, if_false, Bool.false_eq_true]
    cases authRsaReadKey
        ((skipBlanks (lineText line)).dropWhile isNameChar) with
    | none => simp
    | some known =>
        cases hMatch :
            matchHostname host none
              ((skipBlanks (lineText line)).takeWhile
                isNameChar) with
        | false => simp [hMatch]
        | true => simp [hMatch]

/- Pieces without an entry for the host change nothing. -/
theorem checkPieces_skip
    {endReturn : HostStatus}
    {pieces : List Text}
    (hPieces :
      ∀ piece ∈ pieces, ∀ pattern known,
        pieceEntry piece = some (pattern, known) →
          matchHostname host none pattern = false) :
    checkPieces host key endReturn pieces = endReturn := by
  induction pieces with
  | nil => rfl
  | cons line lines ih =>
      have hLines := ih
        fun piece hPiece => hPieces piece (by simp [hPiece])
      rw [checkPieces_cons]
      cases hEntry : pieceEntry line with
      | none => exact hLines
      | some entry =>
          have hMatch :=
            hPieces line (by simp) entry.1 entry.2 hEntry
          simp only [hMatch, Bool.false_eq_true, if_false]
          exact hLines

/- The host is known with the key if a piece says so. -/
theorem checkPieces_eq_ok_iff
    {endReturn : HostStatus}
    {pieces : List Text}
    (hReturn : endReturn ≠ .ok) :
    checkPieces host key endReturn pieces = .ok ↔
      ∃ piece ∈ pieces, ∃ pattern,
        pieceEntry piece = some (pattern, key) ∧
          matchHostname host none pattern = true := by
  induction pieces generalizing endReturn with
  | nil =>
      constructor
      · exact fun hOk => (hReturn hOk).elim
      · rintro ⟨piece, hPiece, -⟩
        simp at hPiece
  | cons line lines ih =>
      rw [checkPieces_cons]
      simp only [List.mem_cons, exists_eq_or_imp]
      cases hEntry : pieceEntry line with
      | none => simp [ih hReturn]
      | some entry =>
          rcases entry with ⟨pattern, known⟩
          by_cases hMatch :
              matchHostname host none pattern = true
          · by_cases hKey : known = key
            · simp [hMatch, hKey]
            · have hChanged : HostStatus.changed ≠ .ok := by
                simp
              simp [hMatch, hKey, ih hChanged]
          · simp [hMatch, ih hReturn]

theorem checkPieces_append
    {endReturn : HostStatus}
    (pieces more : List Text)
    (hReturn : endReturn ≠ .ok) :
    checkPieces host key endReturn (pieces ++ more) =
      if checkPieces host key endReturn pieces = .ok then
        .ok
      else
        checkPieces host key
          (checkPieces host key endReturn pieces) more := by
  induction pieces generalizing endReturn with
  | nil =>
      rw [List.nil_append, checkPieces, if_neg hReturn]
  | cons line lines ih =>
      rw [List.cons_append, checkPieces_cons, checkPieces_cons]
      cases pieceEntry line with
      | none => exact ih hReturn
      | some entry =>
          by_cases hMatch :
              matchHostname host none entry.1 = true
          · by_cases hKey : entry.2 = key
            · simp only [hMatch, hKey, if_true]
            · simp only [hMatch, hKey, if_true, if_false]
              exact ih (by simp)
          · simp only [hMatch, Bool.false_eq_true, if_false]
            exact ih hReturn

/- Further pieces without an entry for the host. -/
theorem checkPieces_append_skip
    {endReturn : HostStatus}
    (pieces : List Text)
    {more : List Text}
    (hReturn : endReturn ≠ .ok)
    (hMore :
      ∀ piece ∈ more, ∀ pattern known,
        pieceEntry piece = some (pattern, known) →
          matchHostname host none pattern = false) :
    checkPieces host key endReturn (pieces ++ more) =
      checkPieces host key endReturn pieces := by
  rw [checkPieces_append pieces more hReturn,
    checkPieces_skip hMore]
  by_cases hOk : checkPieces host key endReturn pieces = .ok
  · rw [if_pos hOk, hOk]
  · rw [if_neg hOk]

end Ssh1
