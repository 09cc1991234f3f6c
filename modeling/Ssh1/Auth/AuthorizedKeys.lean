import Ssh1.Auth.KeyOptions
import Mathlib.Algebra.Order.Ring.Nat

/-
  The search through the file of authorized keys.

  The file is read in pieces that fit into the line buffer.
  A piece that holds the key of the client is accepted after
  the client has answered a challenge and all its options
  were processed.

  Main declarations:
    * `userfileGets`, `readPieces`
    * `authRsaReadKey`
    * `processLine`, `authRsa`
    * `Grants`
    * `processLine_eq_judgeLine`, `grants_of_judgeLine`
-/

------------------------------------------------------------
-- Pieces of the File
------------------------------------------------------------

namespace Ssh1

open QuotedText (Text)

/-
  `userfile_gets` with room for `room` characters besides
  the final zero: the piece, and the rest of the file.
-/
def userfileGets : (room : Nat) → Text → Text × Text
| 0, file => ([], file)
| _ + 1, [] => ([], [])
| room + 1, ch :: file =>
    if ch = '\n' then
      ([ch], file)
    else
      let (buf, file) := userfileGets room file
      (ch :: buf, file)

/- The size of the buffer `line`. -/
def lineSize : Nat := 8192

/-
  All pieces of a file, in at most `fuel` calls. Every call
  but the last takes at least one character.
-/
def readPieces (size : Nat) :
    (fuel : Nat) → Text → List Text
| 0, _ => []
| fuel + 1, file =>
    match userfileGets (size - 1) file with
    | ([], _) => []
    | (c :: buf, file) =>
        (c :: buf) :: readPieces size fuel file

/- The pieces that the authorized keys are read in. -/
def keyPieces (file : Text) : List Text :=
  readPieces lineSize file.length file

/- The lines of a file, each with its newline. -/
def fileLines : Text → List Text
| [] => []
| c :: file =>
    if c = '\n' then
      [c] :: fileLines file
    else
      match fileLines file with
      | [] => [[c]]
      | line :: lines => (c :: line) :: lines

/- The C string in the buffer ends at a zero byte. -/
def lineText (buf : Text) : Text :=
  buf.takeWhile (· ≠ Char.ofNat 0)

end Ssh1

------------------------------------------------------------
-- Keys
------------------------------------------------------------

namespace Ssh1

open QuotedText (Text)

/- A key of the file. -/
structure AuthorizedKey where
  bits : Nat
  e : Nat
  n : Nat
  deriving DecidableEq

/- What stands behind the spaces and tabs. -/
def skipBlanks (cp : Text) : Text :=
  cp.dropWhile isBlank

/- `mpz_set_str` with the base 10. -/
def decimalValue (digits : Text) : Nat :=
  digits.foldl
    (fun value c => value * 10 + (c.toNat - '0'.toNat)) 0

/- The number of bits in an `unsigned int`. -/
def bitCount (digits : Text) : Nat :=
  digits.foldl
    (fun bits c =>
      (10 * bits + (c.toNat - '0'.toNat)) % 2 ^ 32) 0

/- The digits at the start, and what follows them. -/
def spanDigits (cp : Text) : Text × Text :=
  (cp.takeWhile Char.isDigit, cp.dropWhile Char.isDigit)

/- Reads a decimal integer. -/
def authRsaReadMpInt (cp : Text) : Option (Nat × Text) :=
  match spanDigits (skipBlanks cp) with
  | ([], _) => none
  | (c :: digits, cp) =>
      some (decimalValue (c :: digits), cp)

/- Reads the bits, the exponent and the modulus of a key. -/
def authRsaReadKey
    (cp : Text) : Option (AuthorizedKey × Text) :=
  match spanDigits (skipBlanks cp) with
  | ([], _) => none
  | (c :: digits, cp) => do
      let (e, cp) ← authRsaReadMpInt cp
      let (n, cp) ← authRsaReadMpInt cp
      some ({
        bits := bitCount (c :: digits)
        e := e
        n := n }, skipBlanks cp)

end Ssh1

------------------------------------------------------------
-- Search
------------------------------------------------------------

namespace Ssh1

open QuotedText (Text)

/- What `auth_rsa` finds in its surroundings. -/
structure AuthRsaEnv where
  peer : Peer
  -- the modulus that the client sent
  clientN : Nat
  -- the dialog for the key in the piece of that number
  challengeDialog : Nat → AuthorizedKey → Outcome Bool
  strictModes : Bool
  homePermissions : Bool
  sshDirExists : Bool
  sshDirPermissions : Bool
  keysExist : Bool
  keysPermissions : Bool
  -- `none` if the file cannot be opened
  keysFile : Option Text

/- The start of the options, and the start of the key. -/
def splitOptions (cp : Text) : Option Text × Text :=
  match cp with
  | [] => (none, [])
  | c :: cp =>
      if c.isDigit then
        (none, c :: cp)
      else
        (some (c :: cp), skipOptions false (c :: cp))

/- An empty line or a comment. -/
def isEmptyOrComment : Text → Bool
| [] => true
| c :: _ => c = '\n' || c = '#'

/- A line that starts with a hash sign is a comment. -/
theorem isEmptyOrComment_hash
    (file : Text) :
    isEmptyOrComment (skipBlanks (lineText ('#' :: file))) =
      true := by
  have hZero : ('#' : Char) ≠ Char.ofNat 0 := by decide
  have hBlank : isBlank '#' = false := by decide
  simp [lineText, skipBlanks, hZero, hBlank,
    isEmptyOrComment]

/-
  The body of the loop over the pieces: the changed
  restrictions, and the value of `authenticated`.
-/
def processLine
    (env : AuthRsaEnv)
    (linenum : Nat)
    (state : Restrictions)
    (line : Text) : Outcome (Restrictions × Bool) :=
  let cp := skipBlanks (lineText line)
  if isEmptyOrComment cp then
    .ok (state, false)
  else
    let (opts, cp) := splitOptions cp
    match authRsaReadKey cp with
    | none => .ok (state, false)
    | some (key, _) =>
        if key.n ≠ env.clientN then
          .ok (state, false)
        else do
          let answered ← env.challengeDialog linenum key
          if answered then
            match opts with
            | none => .ok (state, true)
            | some opts => do
                let (state, authenticated, _) ←
                  processOptions env.peer (opts.length + 1)
                    state opts
                .ok (state, authenticated)
          else
            .ok (state, false)

/- The loop over the pieces. -/
def processLines
    (env : AuthRsaEnv) :
    (linenum : Nat) → Restrictions → List Text →
    Outcome (Restrictions × Bool)
| _, state, [] => .ok (state, false)
| linenum, state, line :: lines => do
    let (state, authenticated) ←
      processLine env linenum state line
    if authenticated then
      .ok (state, true)
    else
      processLines env (linenum + 1) state lines

/-
  The RSA authentication dialog: the restrictions of the
  session, and whether the client was authenticated.
-/
def authRsa
    (env : AuthRsaEnv)
    (state : Restrictions) :
    Outcome (Restrictions × Bool) :=
  if env.strictModes && !env.homePermissions then
    .ok (state, false)
  else if !env.sshDirExists then
    .ok (state, false)
  else if env.strictModes && !env.sshDirPermissions then
    .ok (state, false)
  else if !env.keysExist then
    .ok (state, false)
  else if env.strictModes && !env.keysPermissions then
    .ok (state, false)
  else
    match env.keysFile with
    | none => .ok (state, false)
    | some file =>
        processLines env 1 state (keyPieces file)

end Ssh1

------------------------------------------------------------
-- Pieces and Lines
------------------------------------------------------------

namespace Ssh1

open QuotedText (Text)

/- A line that fits is read as one piece. -/
theorem userfileGets_line
    {line : Text}
    {room : Nat}
    (file : Text)
    (hLine : '\n' ∉ line)
    (hRoom : line.length < room) :
    userfileGets room (line ++ '\n' :: file) =
      (line ++ ['\n'], file) := by
  induction line generalizing room with
  | nil =>
      cases room with
      | zero => simp at hRoom
      | succ room => simp [userfileGets]
  | cons c line ih =>
      cases room with
      | zero => simp at hRoom
      | succ room =>
          simp only [List.mem_cons, not_or] at hLine
          have hRest : line.length < room := by
            simpa using hRoom
          rw [List.cons_append, userfileGets,
            if_neg (Ne.symm hLine.1), ih hLine.2 hRest]
          rfl

/- The last line may lack its newline. -/
theorem userfileGets_last
    {line : Text}
    {room : Nat}
    (hLine : '\n' ∉ line)
    (hRoom : line.length ≤ room) :
    userfileGets room line = (line, []) := by
  induction line generalizing room with
  | nil => cases room <;> rfl
  | cons c line ih =>
      cases room with
      | zero => simp at hRoom
      | succ room =>
          simp only [List.mem_cons, not_or] at hLine
          rw [userfileGets, if_neg (Ne.symm hLine.1),
            ih hLine.2 (by simpa using hRoom)]

/- A piece that fills the buffer is cut off. -/
theorem userfileGets_full
    {buf : Text}
    (file : Text)
    (hBuf : '\n' ∉ buf) :
    userfileGets buf.length (buf ++ file) =
      (buf, file) := by
  induction buf with
  | nil => rfl
  | cons c buf ih =>
      simp only [List.mem_cons, not_or] at hBuf
      rw [List.cons_append, List.length_cons, userfileGets,
        if_neg (Ne.symm hBuf.1), ih hBuf.2]

/- A buffer that is filled without a newline is a piece. -/
theorem readPieces_full
    {buf : Text}
    {size : Nat}
    (fuel : Nat)
    (file : Text)
    (hBuf : '\n' ∉ buf)
    (hFull : buf.length = size - 1)
    (hSome : buf ≠ []) :
    readPieces size (fuel + 1) (buf ++ file) =
      buf :: readPieces size fuel file := by
  have hGets := userfileGets_full file hBuf
  rw [hFull] at hGets
  rw [readPieces, hGets]
  cases buf with
  | nil => exact absurd rfl hSome
  | cons c buf => rfl

theorem readPieces_nil
    (size fuel : Nat) :
    readPieces size fuel [] = [] := by
  cases fuel with
  | zero => rfl
  | succ fuel =>
      have hEmpty : userfileGets (size - 1) [] = ([], []) := by
        cases size - 1 <;> rfl
      rw [readPieces, hEmpty]

/- A piece and the rest make up the file. -/
theorem userfileGets_append_eq
    (room : Nat)
    (file : Text) :
    (userfileGets room file).1 ++
      (userfileGets room file).2 = file := by
  induction room generalizing file with
  | zero => rfl
  | succ room ih =>
      cases file with
      | nil => rfl
      | cons ch file =>
          rw [userfileGets]
          split
          · rfl
          · simp [ih file]

/- More calls than the file has characters read no more. -/
theorem readPieces_add_fuel
    (size fuel more : Nat)
    {file : Text}
    (hFuel : file.length ≤ fuel) :
    readPieces size (fuel + more) file =
      readPieces size fuel file := by
  induction fuel generalizing file with
  | zero =>
      have hFile : file = [] :=
        List.length_eq_zero_iff.mp (Nat.le_zero.mp hFuel)
      rw [hFile, readPieces_nil, readPieces_nil]
  | succ fuel ih =>
      have hParts := congrArg List.length
        (userfileGets_append_eq (size - 1) file)
      rw [Nat.add_right_comm, readPieces, readPieces]
      cases hGets : userfileGets (size - 1) file with
      | mk buf rest =>
          simp only [hGets, List.length_append] at hParts
          cases buf with
          | nil => rfl
          | cons c buf =>
              rw [List.length_cons] at hParts
              simp only [ih (by omega : rest.length ≤ fuel)]

/- A file is empty, has one open line, or starts with one. -/
theorem exists_first_line
    (file : Text) :
    '\n' ∉ file ∨
      ∃ line rest,
        '\n' ∉ line ∧ file = line ++ '\n' :: rest := by
  induction file with
  | nil => exact Or.inl (by simp)
  | cons c file ih =>
      by_cases hc : c = '\n'
      · exact Or.inr ⟨[], file, by simp, by simp [hc]⟩
      · rcases ih with hOpen | ⟨line, rest, hLine, hFile⟩
        · exact Or.inl (by simp [hOpen, Ne.symm hc])
        · exact Or.inr ⟨c :: line, rest,
            by simp [hLine, Ne.symm hc], by simp [hFile]⟩

theorem fileLines_open
    {line : Text}
    (hLine : '\n' ∉ line)
    (hNonempty : line ≠ []) :
    fileLines line = [line] := by
  induction line with
  | nil => exact (hNonempty rfl).elim
  | cons c line ih =>
      simp only [List.mem_cons, not_or] at hLine
      rw [fileLines, if_neg (Ne.symm hLine.1)]
      cases line with
      | nil => rfl
      | cons d line => rw [ih hLine.2 (by simp)]

theorem fileLines_line
    {line : Text}
    (file : Text)
    (hLine : '\n' ∉ line) :
    fileLines (line ++ '\n' :: file) =
      (line ++ ['\n']) :: fileLines file := by
  induction line with
  | nil => simp [fileLines]
  | cons c line ih =>
      simp only [List.mem_cons, not_or] at hLine
      rw [List.cons_append, fileLines,
        if_neg (Ne.symm hLine.1), ih hLine.2]
      rfl

/- Lines that fit into the buffer are the pieces. -/
theorem readPieces_eq_fileLines
    {size : Nat}
    (fuel : Nat)
    {file : Text}
    (hFuel : file.length ≤ fuel)
    (hLines : ∀ line ∈ fileLines file, line.length < size) :
    readPieces size fuel file = fileLines file := by
  induction fuel generalizing file with
  | zero =>
      have hFile : file = [] :=
        List.length_eq_zero_iff.mp (by omega)
      rw [hFile]
      rfl
  | succ fuel ih =>
      rcases exists_first_line file with
        hOpen | ⟨line, rest, hLine, hFile⟩
      · cases file with
        | nil =>
            have hEmpty :
                userfileGets (size - 1) [] = ([], []) := by
              cases size - 1 <;> rfl
            rw [readPieces, hEmpty]
            rfl
        | cons c file =>
            have hOnly := fileLines_open hOpen (by simp)
            rw [hOnly] at hLines ⊢
            have hRoom := hLines (c :: file) (by simp)
            rw [readPieces, userfileGets_last hOpen
              (Nat.le_sub_one_of_lt hRoom)]
            cases fuel with
            | zero => rfl
            | succ fuel =>
                have hEmpty :
                    userfileGets (size - 1) [] =
                      ([], []) := by
                  cases size - 1 <;> rfl
                simp only [readPieces, hEmpty]
      · subst hFile
        rw [fileLines_line rest hLine] at hLines ⊢
        have hRoom := hLines (line ++ ['\n']) (by simp)
        have hRoom' : line.length < size - 1 := by
          simp only [List.length_append,
            List.length_singleton] at hRoom
          omega
        have hRest : rest.length ≤ fuel := by
          simp only [List.length_append, List.length_cons]
            at hFuel
          omega
        rw [readPieces, userfileGets_line rest hLine hRoom']
        have hTail := ih hRest
          fun other hOther => hLines other (by simp [hOther])
        cases line with
        | nil =>
            simp only [List.nil_append]
            rw [hTail]
        | cons c line =>
            simp only [List.cons_append]
            rw [hTail]

end Ssh1

------------------------------------------------------------
-- Judging a Line
------------------------------------------------------------

namespace Ssh1

open QuotedText (Text)

/-
  The options of a line that take effect, and whether the
  line is accepted, whatever the restrictions are.
-/
def judgeLine
    (env : AuthRsaEnv)
    (linenum : Nat)
    (line : Text) : Outcome (List KeyOption × Bool) :=
  let cp := skipBlanks (lineText line)
  if isEmptyOrComment cp then
    .ok ([], false)
  else
    let (opts, cp) := splitOptions cp
    match authRsaReadKey cp with
    | none => .ok ([], false)
    | some (key, _) =>
        if key.n ≠ env.clientN then
          .ok ([], false)
        else do
          let answered ← env.challengeDialog linenum key
          if answered then
            match opts with
            | none => .ok ([], true)
            | some opts =>
                .ok (scanOptions env.peer (opts.length + 1)
                  opts)
          else
            .ok ([], false)

/-
  A line that grants access: it holds the key of the client,
  the challenge for it was answered, and all its options are
  well-formed and permit the peer.
-/
structure Grants
    (env : AuthRsaEnv)
    (linenum : Nat)
    (line : Text) : Prop where
  notComment :
    isEmptyOrComment (skipBlanks (lineText line)) = false
  holdsKey : ∃ key comment,
    authRsaReadKey
        (splitOptions (skipBlanks (lineText line))).2 =
      some (key, comment) ∧
    key.n = env.clientN ∧
    env.challengeDialog linenum key = .ok true
  permits : ∀ opts,
    (splitOptions (skipBlanks (lineText line))).1 =
        some opts →
      ∃ text options,
        opts = text ++
          (splitOptions (skipBlanks (lineText line))).2 ∧
        IsOptionList env.peer text options

/- A text without a number holds no key. -/
theorem authRsaReadKey_nil :
    authRsaReadKey [] = none := by
  rfl

/- The options that were split off, and what follows them. -/
theorem splitOptions_eq_some
    {cp opts rest : Text}
    (hSplit : splitOptions cp = (some opts, rest)) :
    rest = skipOptions false opts := by
  cases cp with
  | nil => simp [splitOptions] at hSplit
  | cons c cp =>
      simp only [splitOptions] at hSplit
      split at hSplit
      · simp at hSplit
      · simp only [Prod.mk.injEq, Option.some.injEq]
          at hSplit
        rw [← hSplit.1, hSplit.2]

/- With a key behind them the options have an end. -/
theorem skipOptions_ne_nil
    {cp opts rest : Text}
    {found : AuthorizedKey × Text}
    (hSplit : splitOptions cp = (some opts, rest))
    (hKey : authRsaReadKey rest = some found) :
    skipOptions false opts ≠ [] := by
  intro hNil
  rw [splitOptions_eq_some hSplit, hNil,
    authRsaReadKey_nil] at hKey
  cases hKey

/- A line does to the restrictions what it is judged for. -/
theorem processLine_eq_judgeLine
    (env : AuthRsaEnv)
    (linenum : Nat)
    (state : Restrictions)
    (line : Text) :
    processLine env linenum state line =
      (judgeLine env linenum line).map fun judged =>
        (judged.1.foldl KeyOption.apply state,
          judged.2) := by
  simp only [processLine, judgeLine]
  by_cases hComment :
      isEmptyOrComment (skipBlanks (lineText line)) = true
  · simp [hComment, Except.map]
  · cases hSplit :
        splitOptions (skipBlanks (lineText line)) with
    | mk opts cp =>
        cases hKey : authRsaReadKey cp with
        | none => simp [hComment, Except.map]
        | some found =>
            by_cases hModulus : found.1.n = env.clientN
            · cases hDialog :
                  env.challengeDialog linenum found.1 with
              | error halt =>
                  simp [hComment, hModulus, hDialog,
                    Except.map]
              | ok answered =>
                  cases answered with
                  | false =>
                      simp [hComment, hModulus,
                        hDialog, Except.map]
                  | true =>
                      cases opts with
                      | none =>
                          simp [hComment, hModulus,
                            hDialog, Except.map]
                      | some opts =>
                          have hEnd :=
                            skipOptions_ne_nil hSplit hKey
                          rcases
                              @processOptions_eq_scanOptions
                                env.peer opts _ state
                                (Nat.lt_add_one _) hEnd with
                            ⟨left, hOptions, -⟩
                          simp [hComment, hModulus,
                            hDialog, Except.map, hOptions]
            · simp [hComment, hModulus, Except.map]

/- A line that is accepted grants access. -/
theorem grants_of_judgeLine
    {env : AuthRsaEnv}
    {linenum : Nat}
    {line : Text}
    {options : List KeyOption}
    (hJudged :
      judgeLine env linenum line = .ok (options, true)) :
    Grants env linenum line := by
  simp only [judgeLine] at hJudged
  split at hJudged
  · cases hJudged
  · rename_i hComment
    cases hSplit :
        splitOptions (skipBlanks (lineText line)) with
    | mk opts cp =>
        rw [hSplit] at hJudged
        cases hKey : authRsaReadKey cp with
        | none => simp [hKey] at hJudged
        | some found =>
            simp only [hKey] at hJudged
            split at hJudged
            · cases hJudged
            · rename_i hModulus
              rcases FallibleRun.bind_eq_ok_iff.mp hJudged with
                ⟨answered, hDialog, hOptions⟩
              cases answered with
              | false => cases hOptions
              | true =>
                  refine ⟨by simpa using hComment,
                    ⟨found.1, found.2, ?_, ?_, hDialog⟩, ?_⟩
                  · rw [hSplit]
                    exact hKey
                  · exact not_not.mp hModulus
                  · intro text hText
                    rw [hSplit] at hText ⊢
                    simp only at hText
                    subst hText
                    have hEnd :=
                      skipOptions_ne_nil hSplit hKey
                    simp only [if_true, Except.ok.injEq]
                      at hOptions
                    have hAccepted := congrArg Prod.snd
                      hOptions
                    rcases scanOptions_sound
                        (text.length + 1)
                        (Nat.lt_succ_self _) hEnd
                        hAccepted with
                      ⟨list, hList, hIsList⟩
                    refine ⟨list, _, ?_, hIsList⟩
                    rw [splitOptions_eq_some hSplit]
                    exact hList

end Ssh1

------------------------------------------------------------
-- Agreement of the Scanners
------------------------------------------------------------

namespace Ssh1

open QuotedText (Text)

/-
  For a line with options and a key, the loop over the options
  returns. It does not get past the blank in front of the key,
  and unless it rejects the options it has stopped there.
-/
theorem optionScanners_agree
    (peer : Peer)
    (state : Restrictions)
    (line : Text)
    {opts cp : Text}
    {key : AuthorizedKey × Text}
    (hOptions :
      splitOptions (skipBlanks (lineText line)) =
        (some opts, cp))
    (hKey : authRsaReadKey cp = some key) :
    ∃ state' accepted left,
      processOptions peer (opts.length + 1) state opts =
          .ok (state', accepted, left) ∧
        cp ≠ [] ∧ cp <:+ left ∧
        (accepted = true → left = cp) := by
  have hEnd := skipOptions_ne_nil hOptions hKey
  rcases processOptions_eq_scanOptions _ state
      (Nat.lt_add_one _) hEnd with
    ⟨left, hRun, hBehind, hEnded⟩
  rw [splitOptions_eq_some hOptions]
  exact ⟨_, _, left, hRun, hEnd, hBehind, hEnded⟩

/- Nothing is restricted. -/
def unrestricted : Restrictions where
  noPortForwardingFlag := false
  noAgentForwardingFlag := false
  noX11ForwardingFlag := false
  noPtyFlag := false
  idleTimeout := 0
  forcedCommand := none
  customEnvironment := []

/- A blank, an escaped quote and a comma in a quoted text. -/
def quotedLine : Text :=
  "no-pty,command=\"a \\\" ,b\" 8 3 5".toList

theorem optionScanners_agree_quotedLine :
    ∃ state',
      processOptions ⟨[], []⟩ (quotedLine.length + 1)
          unrestricted quotedLine =
        .ok (state', true, " 8 3 5".toList) := by
  have hOptions :
      splitOptions (skipBlanks (lineText quotedLine)) =
        (some quotedLine, " 8 3 5".toList) := by
    decide +kernel
  have hKey :
      authRsaReadKey " 8 3 5".toList =
        some (⟨8, 3, 5⟩, []) := by
    decide +kernel
  rcases optionScanners_agree ⟨[], []⟩ unrestricted
      quotedLine hOptions hKey with
    ⟨state', accepted, left, hRun, -, -, hEnded⟩
  have hAccepted :
      (processOptions ⟨[], []⟩ (quotedLine.length + 1)
          unrestricted quotedLine).map (fun r => r.2.1) =
        .ok true := by
    rfl
  rw [hRun] at hAccepted
  cases hAccepted
  rw [hEnded rfl] at hRun
  exact ⟨state', hRun⟩

end Ssh1
