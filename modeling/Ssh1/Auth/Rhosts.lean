import Ssh1.Auth.AuthorizedKeys
import Ssh1.Auth.Patterns

/-
  The files `.rhosts`, `.shosts` and `hosts.equiv`.

  Every line names a host, and maybe a user, to be let in or
  to be kept out. The first line that applies to the client
  decides.

  Main declarations:
    * `RhostsEnv`
    * `checkRhostsFile`
    * `rhostsRule`, `entryRule`
    * `checkRhostsFile_eq_rule`
-/

------------------------------------------------------------
-- The Search
------------------------------------------------------------

namespace Ssh1

open QuotedText (Text)

/- The arguments of the search, and the server's options. -/
structure RhostsEnv where
  filename : Text
  hostname : Text
  ipaddr : Text
  clientUser : Text
  serverUser : Text
  denyShosts : List Text
  allowShosts : List Text
  -- `HAVE_INNETGR`
  haveInnetgr : Bool
  -- `innetgr` with a group, a host and a user, but no domain
  innetgr : Text → Option Text → Option Text → Bool

/-
  What follows from a line: the search goes on, or returns.
  The texts go to the client as debug messages.
-/
inductive RhostsTurn where
  | next (debug : List Text)
  | done (result : Bool) (debug : List Text)

/- Upper case for the letters from a to z. -/
def casefold (c : Char) : Char :=
  if 'a' ≤ c ∧ c ≤ 'z' then Char.ofNat (c.toNat - 32) else c

/- Whether the strings are equal, ignoring case. -/
def casefoldEqual : (a b : Text) → Bool
| [], b => b.isEmpty
| _ :: _, [] => false
| cha :: a, chb :: b =>
    if casefold cha ≠ casefold chb then
      false
    else
      casefoldEqual a b

/-
  A control character. As a `char`, a byte above 127 is less
  than 32, too.
-/
def isControl (c : Char) : Bool :=
  (c.toNat < 32 || 128 ≤ c.toNat) && ! isSpace c

/-
  `sscanf` with up to `count` times `%s`: the words that were
  read. At the end of the text it returns -1 instead of 0.
-/
def sscanfWords : (count : Nat) → Text → List Text
| 0, _ => []
| count + 1, buf =>
    match buf.dropWhile isSpace with
    | [] => []
    | c :: cp =>
        (c :: cp).takeWhile (! isSpace ·) ::
          sscanfWords count ((c :: cp).dropWhile (! isSpace ·))

/- A leading minus sign negates; a plus sign means nothing. -/
def stripSign : Text → Bool × Text
| '-' :: name => (true, name)
| '+' :: name => (false, name)
| name => (false, name)

/- The name of the file in a debug message. -/
def fileMessage
    (env : RhostsEnv)
    (text : String) : Text :=
  text.toList ++ env.filename.take 100 ++ ".".toList

/- Whether the host name of the line is the client's. -/
def hostMatches
    (env : RhostsEnv)
    (host : Text) : Bool :=
  match env.haveInnetgr, host with
  | true, '@' :: group =>
      env.innetgr group (some env.hostname) none ||
        env.innetgr group (some env.ipaddr) none
  | _, host =>
      casefoldEqual host env.hostname || host = env.ipaddr

/- Whether the user name of the line is the client's. -/
def userMatches
    (env : RhostsEnv)
    (user : Text) : Bool :=
  match env.haveInnetgr, user with
  | true, '@' :: group =>
      env.innetgr group none (some env.clientUser)
  | _, user => user = env.clientUser

/- Whether the host may not stand in such a file. -/
def permDenied
    (env : RhostsEnv)
    (host : Text) : Bool :=
  if env.denyShosts.any (matchPattern host ·) then
    true
  else if env.allowShosts ≠ [] then
    ! env.allowShosts.any (matchPattern host ·)
  else
    false

/- What follows from the names in a line. -/
def checkNames
    (env : RhostsEnv)
    (hostbuf userbuf : Text) : RhostsTurn :=
  let (hostNegated, host) := stripSign (hostbuf.take 255)
  let (userNegated, user) := stripSign (userbuf.take 255)
  if host = [] ∨ user = [] then
    .next [fileMessage env "Ignoring wild host/user names in "]
  else if ! hostMatches env host then
    .next []
  else if ! userMatches env user then
    .next []
  else if permDenied env host then
    .next []
  else if hostNegated || userNegated then
    .done false [fileMessage env "Matched negative entry in "]
  else
    .done true []

/- The warning about control characters. -/
def controlWarning : Text :=
  ("Found control characters in the .rhosts or .shosts file," ++
    " rest of the file ignored").toList

/- The body of the loop over the lines. -/
def checkRhostsLine
    (env : RhostsEnv)
    (piece : Text) : RhostsTurn :=
  let buf := lineText piece
  if buf.any isControl then
    .done false [controlWarning]
  else
    let cp := (skipBlanks buf).takeWhile (· ≠ '#')
    if cp = [] ∨ cp.headD '\n' = '\n' then
      .next []
    else if cp.take 7 = "NO_PLUS".toList then
      .next []
    else
      match sscanfWords 3 (buf.takeWhile isBlank ++ cp) with
      | [] => .next []
      | [hostbuf] =>
          checkNames env hostbuf (env.serverUser.take 1023)
      | [hostbuf, userbuf] => checkNames env hostbuf userbuf
      | _ => .next [fileMessage env "Found garbage in "]

/- The loop over the lines. -/
def rhostsLoop
    (env : RhostsEnv) : List Text → Bool × List Text
| [] => (false, [])
| piece :: pieces =>
    match checkRhostsLine env piece with
    | .done result debug => (result, debug)
    | .next debug =>
        let (result, rest) := rhostsLoop env pieces
        (result, debug ++ rest)

/- The size of the buffer `buf`. -/
def rhostsLineSize : Nat := 1024

/-
  Whether authentication can be granted based on the file,
  and the debug messages. A file that cannot be opened is
  `none`.
-/
def checkRhostsFile
    (env : RhostsEnv)
    (file : Option Text) : Bool × List Text :=
  match file with
  | none => (false, [])
  | some file =>
      rhostsLoop env
        (readPieces rhostsLineSize file.length file)

end Ssh1

------------------------------------------------------------
-- The Rule for a Line
------------------------------------------------------------

namespace Ssh1

open QuotedText (Text)

/- The words of a text, between its white space. -/
def textWords (text : Text) : List Text :=
  (text.splitOnP isSpace).filter fun word => word ≠ []

/- What a line says about a host and a user. -/
structure RhostsEntry where
  negated : Bool
  host : Text
  user : Text

/- The entry for a host and a user with their signs. -/
def namesEntry (hostbuf userbuf : Text) : Option RhostsEntry :=
  let (hostNegated, host) := stripSign (hostbuf.take 255)
  let (userNegated, user) := stripSign (userbuf.take 255)
  if host = [] ∨ user = [] then
    none
  else
    some {
      negated := hostNegated || userNegated
      host := host
      user := user }

/-
  The entry that a text without comment is: one or two
  words, where a host alone stands for the user of the same
  name.
-/
def rhostsEntry
    (env : RhostsEnv)
    (text : Text) : Option RhostsEntry :=
  if "NO_PLUS".toList <+: skipBlanks text then
    none
  else
    match textWords text with
    | [host] => namesEntry host env.serverUser
    | [host, user] => namesEntry host user
    | _ => none

/-
  The entry is about the client, and its host is none of the
  denied ones, and one of the allowed ones where there are
  such.
-/
structure RhostsEntry.Applies
    (env : RhostsEnv)
    (entry : RhostsEntry) : Prop where
  host : hostMatches env entry.host = true
  user : userMatches env entry.user = true
  denied : ∀ pattern ∈ env.denyShosts,
    matchPattern entry.host pattern = false
  allowed : env.allowShosts = [] ∨
    ∃ pattern ∈ env.allowShosts,
      matchPattern entry.host pattern = true

instance
    (env : RhostsEnv)
    (entry : RhostsEntry) :
    Decidable (entry.Applies env) :=
  decidable_of_iff
    (hostMatches env entry.host = true ∧
      userMatches env entry.user = true ∧
      (∀ pattern ∈ env.denyShosts,
        matchPattern entry.host pattern = false) ∧
      (env.allowShosts = [] ∨
        ∃ pattern ∈ env.allowShosts,
          matchPattern entry.host pattern = true))
    ⟨fun ⟨hHost, hUser, hDenied, hAllowed⟩ =>
        ⟨hHost, hUser, hDenied, hAllowed⟩,
      fun hApplies =>
        ⟨hApplies.host, hApplies.user, hApplies.denied,
          hApplies.allowed⟩⟩

/- What a text without comment decides. -/
def entryRule
    (env : RhostsEnv)
    (text : Text) : Option Bool :=
  match rhostsEntry env text with
  | none => none
  | some entry =>
      if entry.Applies env then
        some (! entry.negated)
      else
        none

/- What is in front of the comment of a line. -/
def beforeComment (line : Text) : Text :=
  (lineText line).takeWhile (· ≠ '#')

/-
  What a line decides: a control character denies access,
  and otherwise what is in front of the comment decides.
-/
def rhostsRule
    (env : RhostsEnv)
    (line : Text) : Option Bool :=
  if (lineText line).any isControl then
    some false
  else
    entryRule env (beforeComment line)

end Ssh1

------------------------------------------------------------
-- Words
------------------------------------------------------------

namespace Ssh1

open QuotedText (Text)

/- A space in front makes no word. -/
theorem textWords_cons_space
    {c : Char}
    (text : Text)
    (hSpace : isSpace c = true) :
    textWords (c :: text) = textWords text := by
  have hSplit := List.splitOnP_append_cons [] text hSpace
  rw [List.nil_append, List.splitOnP_nil] at hSplit
  rw [textWords, hSplit]
  rfl

theorem textWords_of_space
    {text : Text}
    (hSpace : ∀ c ∈ text, isSpace c = true) :
    textWords text = [] := by
  induction text with
  | nil => rfl
  | cons c text ih =>
      rw [textWords_cons_space text (hSpace c (by simp))]
      exact ih fun d hMem => hSpace d (by simp [hMem])

/- White space at the beginning holds no words. -/
theorem textWords_dropWhile
    (text : Text) :
    textWords (text.dropWhile isSpace) = textWords text := by
  induction text with
  | nil => rfl
  | cons c text ih =>
      by_cases hSpace : isSpace c = true
      · rw [List.dropWhile_cons_of_pos hSpace, ih,
          textWords_cons_space text hSpace]
      · rw [List.dropWhile_cons_of_neg hSpace]

/- A word ends where white space begins. -/
theorem textWords_word_append
    {word rest : Text}
    (hWord : ∀ c ∈ word, isSpace c = false)
    (hSome : word ≠ [])
    (hRest : ∀ c ∈ rest.head?, isSpace c = true) :
    textWords (word ++ rest) = word :: textWords rest := by
  cases rest with
  | nil =>
      rw [List.append_nil, textWords,
        List.splitOnP_eq_singleton hWord]
      simp [hSome, textWords]
  | cons c rest =>
      have hSpace : isSpace c = true := hRest c (by simp)
      rw [textWords_cons_space rest hSpace, textWords,
        List.splitOnP_append_cons _ _ hSpace,
        List.splitOnP_eq_singleton hWord]
      simp [hSome, textWords]

/- `sscanf` reads the first words of the text. -/
theorem sscanfWords_eq
    (count : Nat)
    (buf : Text) :
    sscanfWords count buf = (textWords buf).take count := by
  induction count generalizing buf with
  | zero => rfl
  | succ count ih =>
      rw [sscanfWords, ← textWords_dropWhile]
      cases hStart : buf.dropWhile isSpace with
      | nil => rfl
      | cons c cp =>
          have hFirst : isSpace c = false := by
            have hHead := List.head?_dropWhile_not isSpace buf
            rw [hStart] at hHead
            simpa using hHead
          have hWord :
              ∀ d ∈ (c :: cp).takeWhile (! isSpace ·),
                isSpace d = false := by
            intro d hMem
            simpa using List.mem_takeWhile_imp hMem
          have hSome :
              (c :: cp).takeWhile (! isSpace ·) ≠ [] := by
            rw [List.takeWhile_cons_of_pos (by simp [hFirst])]
            exact List.cons_ne_nil _ _
          have hRest :
              ∀ d ∈ ((c :: cp).dropWhile
                  (! isSpace ·)).head?, isSpace d = true := by
            intro d hMem
            have hHead :=
              List.head?_dropWhile_not (! isSpace ·) (c :: cp)
            rw [Option.mem_def.mp hMem] at hHead
            simpa using hHead
          have hWords :=
            textWords_word_append hWord hSome hRest
          rw [List.takeWhile_append_dropWhile] at hWords
          rw [hWords, List.take_succ_cons]
          simp only [ih]

end Ssh1

------------------------------------------------------------
-- The Text in Front of a Comment
------------------------------------------------------------

namespace Ssh1

open QuotedText (Text)

/- Cutting the comment off leaves the blanks in front. -/
theorem beforeComment_eq
    (line : Text) :
    beforeComment line =
      (lineText line).takeWhile isBlank ++
        (skipBlanks (lineText line)).takeWhile (· ≠ '#') := by
  have hBlanks :
      ∀ c ∈ (lineText line).takeWhile isBlank,
        decide (c ≠ '#') = true := by
    intro c hMem
    have hBlank := List.mem_takeWhile_imp hMem
    have hOther : c ≠ '#' := by
      rintro rfl
      exact absurd hBlank (by decide)
    simpa using hOther
  rw [beforeComment, skipBlanks]
  conv =>
    lhs
    rw [← List.takeWhile_append_dropWhile
      (p := isBlank) (l := lineText line)]
  rw [List.takeWhile_append_of_pos hBlanks]

/- The comment is cut before or after the blanks. -/
theorem skipBlanks_beforeComment
    (line : Text) :
    skipBlanks (beforeComment line) =
      (skipBlanks (lineText line)).takeWhile (· ≠ '#') := by
  have hBlanks :
      ∀ c ∈ (lineText line).takeWhile isBlank,
        isBlank c = true :=
    fun c hMem => List.mem_takeWhile_imp hMem
  rw [beforeComment_eq, skipBlanks,
    List.dropWhile_append_of_pos hBlanks]
  cases hStart : skipBlanks (lineText line) with
  | nil => rfl
  | cons c cp =>
      have hFirst : isBlank c = false := by
        have hHead :=
          List.head?_dropWhile_not isBlank (lineText line)
        rw [← skipBlanks, hStart] at hHead
        simpa using hHead
      by_cases hHash : c = '#'
      · rw [List.takeWhile_cons_of_neg (by simp [hHash])]
        rfl
      · rw [List.takeWhile_cons_of_pos (by simp [hHash]),
          List.dropWhile_cons_of_neg (by simp [hFirst])]

theorem isSpace_of_isBlank
    {c : Char}
    (hBlank : isBlank c = true) :
    isSpace c = true := by
  rcases (isBlank_eq_true_iff c).mp hBlank with
    rfl | rfl
  · decide
  · decide

/- Blanks in front make no word. -/
theorem textWords_skipBlanks
    (text : Text) :
    textWords (skipBlanks text) = textWords text := by
  rw [skipBlanks]
  induction text with
  | nil => rfl
  | cons c text ih =>
      by_cases hBlank : isBlank c = true
      · rw [List.dropWhile_cons_of_pos hBlank, ih,
          textWords_cons_space text
            (isSpace_of_isBlank hBlank)]
      · rw [List.dropWhile_cons_of_neg hBlank]

/- Only the end of a line holds a newline. -/
theorem newline_of_mem_fileLines
    {file line : Text}
    (hLine : line ∈ fileLines file) :
    '\n' ∉ line.dropLast := by
  induction file generalizing line with
  | nil => cases hLine
  | cons c file ih =>
      rw [fileLines] at hLine
      by_cases hNewline : c = '\n'
      · rw [if_pos hNewline, List.mem_cons] at hLine
        rcases hLine with
          rfl | hLine
        · simp
        · exact ih hLine
      · rw [if_neg hNewline] at hLine
        cases hLines : fileLines file with
        | nil =>
            rw [hLines, List.mem_singleton] at hLine
            rw [hLine]
            simp
        | cons first lines =>
            rw [hLines] at hLine ih
            rcases List.mem_cons.mp hLine with
              rfl | hLater
            · have hFirst := ih List.mem_cons_self
              cases first with
              | nil => simp
              | cons d first =>
                  rw [List.dropLast_cons_cons, List.mem_cons,
                    not_or]
                  exact ⟨Ne.symm hNewline, hFirst⟩
            · exact ih (List.mem_cons_of_mem first hLater)

/- So a newline behind blanks is all that a line holds. -/
theorem textWords_of_newline
    {line rest : Text}
    (hLine : '\n' ∉ line.dropLast)
    (hStart : skipBlanks (beforeComment line) = '\n' :: rest) :
    textWords (beforeComment line) = [] := by
  have hShape :
      beforeComment line =
        (lineText line).takeWhile isBlank ++ '\n' :: rest := by
    rw [beforeComment_eq, ← skipBlanks_beforeComment, hStart]
  have hFront : beforeComment line <+: line :=
    (List.takeWhile_prefix _).trans (List.takeWhile_prefix _)
  rcases hFront with
    ⟨more, hMore⟩
  rw [hShape, List.append_assoc, List.cons_append] at hMore
  have hNil : rest ++ more = [] := by
    by_contra hSome
    apply hLine
    rw [← hMore, List.dropLast_append_of_ne_nil
        (List.cons_ne_nil _ _),
      List.dropLast_cons_of_ne_nil hSome]
    simp
  rw [hShape, (List.append_eq_nil_iff.mp hNil).1]
  apply textWords_of_space
  intro c hMem
  rcases List.mem_append.mp hMem with
    hBlank | hNewline
  · exact isSpace_of_isBlank (List.mem_takeWhile_imp hBlank)
  · rw [List.mem_singleton.mp hNewline]
    decide

end Ssh1

------------------------------------------------------------
-- Lines
------------------------------------------------------------

namespace Ssh1

open QuotedText (Text)

/- What a turn of the loop decides. -/
def RhostsTurn.decision : RhostsTurn → Option Bool
| .next _ => none
| .done result _ => some result

/- A host that is not denied and, if there is a list, allowed. -/
theorem permDenied_eq_false_iff
    {env : RhostsEnv}
    {host : Text} :
    permDenied env host = false ↔
      (∀ pattern ∈ env.denyShosts,
        matchPattern host pattern = false) ∧
      (env.allowShosts = [] ∨
        ∃ pattern ∈ env.allowShosts,
          matchPattern host pattern = true) := by
  have hDeny :
      env.denyShosts.any (matchPattern host ·) = false ↔
        ∀ pattern ∈ env.denyShosts,
          matchPattern host pattern = false := by
    simp
  have hAllow :
      env.allowShosts.any (matchPattern host ·) = true ↔
        ∃ pattern ∈ env.allowShosts,
          matchPattern host pattern = true := by
    simp
  rw [← hDeny, ← hAllow, permDenied]
  by_cases hDenied :
      env.denyShosts.any (matchPattern host ·) = true
  · simp [hDenied]
  · rw [if_neg hDenied]
    rw [Bool.not_eq_true] at hDenied
    by_cases hNone : env.allowShosts = []
    · simp [hDenied, hNone]
    · rw [if_pos hNone]
      simp only [hDenied, hNone, true_and, false_or,
        Bool.not_eq_false']

/- An entry applies when its three tests pass. -/
theorem RhostsEntry.applies_iff
    {env : RhostsEnv}
    {entry : RhostsEntry} :
    entry.Applies env ↔
      hostMatches env entry.host = true ∧
        userMatches env entry.user = true ∧
        permDenied env entry.host = false := by
  rw [permDenied_eq_false_iff]
  constructor
  · intro hApplies
    exact ⟨hApplies.host, hApplies.user, hApplies.denied,
      hApplies.allowed⟩
  · rintro ⟨hHost, hUser, hDenied, hAllowed⟩
    exact ⟨hHost, hUser, hDenied, hAllowed⟩

/- The checks on an entry are those of the rule. -/
theorem decision_checkNames
    (env : RhostsEnv)
    (hostbuf userbuf : Text) :
    (checkNames env hostbuf userbuf).decision =
      match namesEntry hostbuf userbuf with
      | none => none
      | some entry =>
          if entry.Applies env then
            some (! entry.negated)
          else
            none := by
  rw [checkNames, namesEntry]
  rcases stripSign (hostbuf.take 255) with
    ⟨hostNegated, host⟩
  rcases stripSign (userbuf.take 255) with
    ⟨userNegated, user⟩
  simp only
  by_cases hWild : host = [] ∨ user = []
  · rw [if_pos hWild, if_pos hWild]
    rfl
  · rw [if_neg hWild, if_neg hWild]
    simp only [RhostsEntry.applies_iff]
    cases hostMatches env host with
    | false => rfl
    | true =>
        cases userMatches env user with
        | false => rfl
        | true =>
            cases permDenied env host with
            | true => rfl
            | false =>
                cases hostNegated || userNegated with
                | true => rfl
                | false => rfl

/- A host name is truncated before its sign is looked at. -/
theorem namesEntry_take
    (hostbuf userbuf : Text) :
    namesEntry hostbuf (userbuf.take 1023) =
      namesEntry hostbuf userbuf := by
  rw [namesEntry, namesEntry, List.take_take]
  rfl

/-
  On a line whose newline is at its end, the loop does what
  the rule says.
-/
theorem decision_checkRhostsLine
    (env : RhostsEnv)
    {line : Text}
    (hLine : '\n' ∉ line.dropLast) :
    (checkRhostsLine env line).decision =
      rhostsRule env line := by
  rw [checkRhostsLine, rhostsRule]
  by_cases hControl : (lineText line).any isControl = true
  · rw [if_pos hControl, if_pos hControl]
    rfl
  · rw [if_neg hControl, if_neg hControl]
    have hText := beforeComment_eq line
    have hStart := skipBlanks_beforeComment line
    rw [← hStart] at hText
    simp only [← hStart, ← hText]
    have hWords := sscanfWords_eq 3 (beforeComment line)
    have hNoPlus :
        (skipBlanks (beforeComment line)).take 7 =
            "NO_PLUS".toList ↔
          "NO_PLUS".toList <+:
            skipBlanks (beforeComment line) := by
      rw [List.prefix_iff_eq_take, eq_comm]
      rfl
    have hEmpty :
        skipBlanks (beforeComment line) = [] ∨
            (skipBlanks (beforeComment line)).headD '\n' =
              '\n' →
          textWords (beforeComment line) = [] := by
      intro hSkip
      cases hCp : skipBlanks (beforeComment line) with
      | nil =>
          rw [← textWords_skipBlanks, hCp]
          rfl
      | cons c cp =>
          have hNewline : c = '\n' := by
            simpa [hCp] using hSkip
          rw [hNewline] at hCp
          exact textWords_of_newline hLine hCp
    rw [entryRule, rhostsEntry]
    by_cases hSkip :
        skipBlanks (beforeComment line) = [] ∨
          (skipBlanks (beforeComment line)).headD '\n' =
            '\n'
    · simp only [if_pos hSkip, hEmpty hSkip, ite_self]
      rfl
    · rw [if_neg hSkip]
      by_cases hPlus :
          "NO_PLUS".toList <+:
            skipBlanks (beforeComment line)
      · rw [if_pos (hNoPlus.mpr hPlus), if_pos hPlus]
        rfl
      · rw [if_neg (fun hTake => hPlus (hNoPlus.mp hTake)),
          if_neg hPlus, hWords]
        match textWords (beforeComment line) with
        | [] => rfl
        | [host] =>
            exact (decision_checkNames env host _).trans
              (by rw [namesEntry_take])
        | [host, user] =>
            exact decision_checkNames env host user
        | _ :: _ :: _ :: _ => rfl

/- The first line that decides, decides. -/
theorem rhostsLoop_eq_findSome
    (env : RhostsEnv)
    (lines : List Text)
    (hLines : ∀ line ∈ lines, '\n' ∉ line.dropLast) :
    (rhostsLoop env lines).1 =
      (lines.findSome? (rhostsRule env)).getD false := by
  induction lines with
  | nil => rfl
  | cons line lines ih =>
      have hFirst :=
        decision_checkRhostsLine env (hLines line (by simp))
      have hRest :=
        ih fun other hMem => hLines other (by simp [hMem])
      rw [rhostsLoop, List.findSome?_cons, ← hFirst]
      cases checkRhostsLine env line with
      | next debug => exact hRest
      | done result debug => rfl

end Ssh1

------------------------------------------------------------
-- Main Results
------------------------------------------------------------

namespace Ssh1

open QuotedText (Text)

/-
  Where every line fits into the buffer, whole lines decide:
  the result is the one of the first line that the rule
  decides. A comment decides nothing, unless it holds a
  control character.
-/
theorem checkRhostsFile_eq_rule
    (env : RhostsEnv)
    (file : Text)
    (hFit : ∀ line ∈ fileLines file,
      line.length < rhostsLineSize) :
    (checkRhostsFile env (some file)).1 =
        ((fileLines file).findSome?
          (rhostsRule env)).getD false ∧
      (checkRhostsFile env none).1 = false ∧
      ∀ line ∈ fileLines file,
        (lineText line).any isControl = false →
          rhostsRule env line =
            entryRule env (beforeComment line) := by
  refine ⟨?_, rfl, ?_⟩
  · rw [checkRhostsFile,
      readPieces_eq_fileLines file.length (le_refl _) hFit]
    exact rhostsLoop_eq_findSome env _
      fun line hLine => newline_of_mem_fileLines hLine
  · intro line _ hPlain
    rw [rhostsRule, if_neg (by simp [hPlain])]

/- A client whose host and user have the same name. -/
def sampleRhosts : RhostsEnv where
  filename := ".rhosts".toList
  hostname := "a".toList
  ipaddr := "1.2.3.4".toList
  clientUser := "b".toList
  serverUser := "b".toList
  denyShosts := []
  allowShosts := []
  haveInnetgr := false
  innetgr := fun _ _ _ => false

/- A file of two lines, the second with a comment. -/
theorem checkRhostsFile_eq_rule_sample :
    (∀ line ∈ fileLines "c d\nA # x\n".toList,
        line.length < rhostsLineSize) ∧
      (checkRhostsFile sampleRhosts
        (some "c d\nA # x\n".toList)).1 = true := by
  have hFit :
      ∀ line ∈ fileLines "c d\nA # x\n".toList,
        line.length < rhostsLineSize := by
    decide +kernel
  have hRule := checkRhostsFile_eq_rule sampleRhosts _ hFit
  refine ⟨hFit, hRule.1.trans ?_⟩
  decide +kernel

/-
  A control character in a comment denies access, where the
  next line would grant it.
-/
theorem checkRhostsFile_denies_comment :
    (checkRhostsFile sampleRhosts
        (some "#\x01\na b\n".toList)).1 = false ∧
      ((fileLines "#\x01\na b\n".toList).findSome?
          fun line =>
            entryRule sampleRhosts
              (beforeComment line)).getD false = true := by
  decide +kernel

end Ssh1
