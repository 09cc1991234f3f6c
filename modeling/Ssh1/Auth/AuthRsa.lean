import Ssh1.Auth.AuthorizedKeys

/-
  What a successful or failed RSA authentication means.

  Main declarations:
    * `rejectedOptions`, `acceptedOptions`
    * `authRsa_sound`
    * `Harmless`
    * `authRsa_leavesNoTrace_iff`
-/

------------------------------------------------------------
-- Runs over the Pieces
------------------------------------------------------------

namespace Ssh1

open QuotedText (Text)

/- The pieces that are read if the file may be used. -/
def AuthRsaEnv.pieces (env : AuthRsaEnv) : List Text :=
  if env.strictModes && !env.homePermissions ||
      !env.sshDirExists ||
      env.strictModes && !env.sshDirPermissions ||
      !env.keysExist ||
      env.strictModes && !env.keysPermissions then
    []
  else
    match env.keysFile with
    | none => []
    | some file => keyPieces file

/- Options of lines that are rejected by a later option. -/
def rejectedOptions
    (env : AuthRsaEnv) :
    (linenum : Nat) → List Text → List KeyOption
| _, [] => []
| linenum, line :: lines =>
    match judgeLine env linenum line with
    | .error _ => []
    | .ok (_, true) => []
    | .ok (options, false) =>
        options ++ rejectedOptions env (linenum + 1) lines

/- Options of the line that is accepted. -/
def acceptedOptions
    (env : AuthRsaEnv) :
    (linenum : Nat) → List Text → Option (List KeyOption)
| _, [] => none
| linenum, line :: lines =>
    match judgeLine env linenum line with
    | .error _ => none
    | .ok (options, true) => some options
    | .ok (_, false) =>
        acceptedOptions env (linenum + 1) lines

variable {env : AuthRsaEnv}

/- The whole file is its lines, from the first on. -/
theorem authRsa_eq_processLines
    (env : AuthRsaEnv)
    (state : Restrictions) :
    authRsa env state =
      processLines env 1 state env.pieces := by
  unfold authRsa AuthRsaEnv.pieces
  by_cases hHome :
      (env.strictModes && !env.homePermissions) = true
  · simp [hHome, processLines]
  · by_cases hDir : (!env.sshDirExists) = true
    · simp [hHome, hDir, processLines]
    · by_cases hDirModes :
          (env.strictModes && !env.sshDirPermissions) = true
      · simp [hHome, hDir, hDirModes, processLines]
      · by_cases hKeys : (!env.keysExist) = true
        · simp [hHome, hDir, hDirModes, hKeys, processLines]
        · by_cases hKeysModes :
              (env.strictModes && !env.keysPermissions) =
                true
          · simp [hHome, hDir, hDirModes, hKeys,
              hKeysModes, processLines]
          · simp only [hHome, hDir, hDirModes, hKeys,
              hKeysModes]
            cases env.keysFile with
            | none => simp [processLines]
            | some file => simp

/-
  A run leaves behind the options of all rejected lines, and
  after them those of the accepted one.
-/
theorem processLines_result
    {linenum : Nat}
    {lines : List Text}
    {state state' : Restrictions}
    {authenticated : Bool}
    (hRun :
      processLines env linenum state lines =
        .ok (state', authenticated)) :
    state' =
        ((acceptedOptions env linenum lines).getD []).foldl
          KeyOption.apply
          ((rejectedOptions env linenum lines).foldl
            KeyOption.apply state) ∧
      authenticated =
        (acceptedOptions env linenum lines).isSome := by
  induction lines generalizing linenum state with
  | nil =>
      cases hRun
      exact ⟨rfl, rfl⟩
  | cons line lines ih =>
      rw [processLines, processLine_eq_judgeLine] at hRun
      cases hJudged : judgeLine env linenum line with
      | error halt =>
          rw [hJudged] at hRun
          cases hRun
      | ok judged =>
          rcases judged with
            ⟨options, accepted⟩
          rw [hJudged] at hRun
          simp only [acceptedOptions, rejectedOptions,
            hJudged]
          cases accepted with
          | true =>
              cases hRun
              exact ⟨rfl, rfl⟩
          | false =>
              have hRest := ih hRun
              simpa only [List.foldl_append] using hRest

/- A successful run has a piece that grants access. -/
theorem exists_grants_of_processLines
    {linenum : Nat}
    {lines : List Text}
    {state state' : Restrictions}
    (hRun :
      processLines env linenum state lines =
        .ok (state', true)) :
    ∃ i line,
      lines[i]? = some line ∧
        Grants env (linenum + i) line := by
  induction lines generalizing linenum state with
  | nil => cases hRun
  | cons line lines ih =>
      rw [processLines, processLine_eq_judgeLine] at hRun
      cases hJudged : judgeLine env linenum line with
      | error halt =>
          rw [hJudged] at hRun
          cases hRun
      | ok judged =>
          rcases judged with
            ⟨options, accepted⟩
          rw [hJudged] at hRun
          cases accepted with
          | true =>
              exact ⟨0, line, rfl,
                grants_of_judgeLine hJudged⟩
          | false =>
              rcases ih hRun with
                ⟨i, granting, hLine, hGrants⟩
              refine ⟨i + 1, granting, hLine, ?_⟩
              rwa [show linenum + (i + 1) =
                linenum + 1 + i by omega]

/- Pieces are read only from a file that could be opened. -/
theorem exists_file_of_pieces
    {i : Nat}
    {piece : Text}
    (hPiece : env.pieces[i]? = some piece) :
    ∃ file,
      env.keysFile = some file ∧
        (keyPieces file)[i]? = some piece := by
  unfold AuthRsaEnv.pieces at hPiece
  split at hPiece
  · simp at hPiece
  · cases hFile : env.keysFile with
    | none => simp [hFile] at hPiece
    | some file =>
        rw [hFile] at hPiece
        exact ⟨file, rfl, hPiece⟩

end Ssh1

------------------------------------------------------------
-- Soundness
------------------------------------------------------------

namespace Ssh1

open QuotedText (Text)

/-
  Access is granted only by a piece of the file with the key
  of the client, an answered challenge and nothing but
  options that permit the peer. The pieces are the lines of
  the file unless one of them does not fit into the buffer.
-/
theorem authRsa_sound
    (env : AuthRsaEnv)
    (state state' : Restrictions)
    (hGranted : authRsa env state = .ok (state', true)) :
    ∃ file i piece,
      env.keysFile = some file ∧
        (keyPieces file)[i]? = some piece ∧
        Grants env (i + 1) piece ∧
        ((∀ line ∈ fileLines file,
            line.length < lineSize) →
          keyPieces file = fileLines file) := by
  rw [authRsa_eq_processLines] at hGranted
  rcases exists_grants_of_processLines hGranted with
    ⟨i, piece, hPiece, hGrants⟩
  rcases exists_file_of_pieces hPiece with
    ⟨file, hFile, hPiece'⟩
  refine ⟨file, i, piece, hFile, hPiece', ?_, ?_⟩
  · rwa [Nat.add_comm] at hGrants
  · intro hLines
    exact readPieces_eq_fileLines file.length (le_refl _)
      hLines

/-
  A client that holds the key with the modulus 15 and
  answers every challenge.
-/
def trustedEnv (file : Text) : AuthRsaEnv where
  peer := {
    canonicalHostname := "a.fi".toList
    remoteIpaddr := "10.0.0.1".toList }
  clientN := 15
  challengeDialog := fun _ _ => .ok true
  strictModes := true
  homePermissions := true
  sshDirExists := true
  sshDirPermissions := true
  keysExist := true
  keysPermissions := true
  keysFile := some file

/- The pieces are those of the file. -/
@[simp] theorem trustedEnv_pieces
    (file : Text) :
    (trustedEnv file).pieces = keyPieces file :=
  rfl

/- A key with a list of hosts is granted from one of them. -/
theorem authRsa_sound_from_hosts :
    let file :=
      "from=\"*.fi\",NO-pty 1024 35 15 me\n".toList
    ∃ i piece,
      (keyPieces file)[i]? = some piece ∧
        Grants (trustedEnv file) (i + 1) piece := by
  intro file
  have hGranted :
      authRsa (trustedEnv file) unrestricted =
        .ok ({ unrestricted with noPtyFlag := true },
          true) := by
    decide +kernel
  rcases authRsa_sound (trustedEnv file) unrestricted _
      hGranted with
    ⟨file', i, piece, hFile, hPiece, hGrants, _⟩
  cases hFile
  exact ⟨i, piece, hPiece, hGrants⟩

/- A line that is skipped changes nothing. -/
theorem processLine_comment
    {line : Text}
    (env : AuthRsaEnv)
    (linenum : Nat)
    (state : Restrictions)
    (hComment :
      isEmptyOrComment (skipBlanks (lineText line)) = true) :
    processLine env linenum state line =
      .ok (state, false) := by
  simp [processLine, hComment]

/- The part of a comment line that fills the buffer. -/
def commentStart : Text :=
  '#' :: List.replicate 8190 'x'

/- A comment line that is longer than the buffer. -/
def longComment : Text :=
  commentStart ++ "1024 35 15\n".toList

/- The sample comment stays on its line. -/
theorem not_newline_mem_commentStart :
    '\n' ∉ commentStart := by
  rw [commentStart, List.mem_cons, List.mem_replicate]
  simp

/- The line is cut where the buffer is full. -/
theorem keyPieces_longComment :
    keyPieces longComment =
      [commentStart, "1024 35 15\n".toList] := by
  have hLength : commentStart.length = 8191 := by
    rw [commentStart, List.length_cons,
      List.length_replicate]
  have hFull :
      userfileGets (lineSize - 1) longComment =
        (commentStart, "1024 35 15\n".toList) := by
    rw [show lineSize - 1 = commentStart.length from
      hLength.symm]
    exact userfileGets_full _ not_newline_mem_commentStart
  have hFuel : longComment.length = 8201 + 1 := by
    rw [longComment, List.length_append, hLength]
    rfl
  have hRest :
      readPieces lineSize 8201 "1024 35 15\n".toList =
        fileLines "1024 35 15\n".toList :=
    readPieces_eq_fileLines 8201 (by decide) (by decide)
  rw [keyPieces, hFuel, readPieces, hFull]
  simp only [commentStart]
  rw [hRest]
  rfl

/-
  The end of a long comment line is read as a piece of its
  own, and its key grants access.
-/
theorem authRsa_accepts_long_comment :
    authRsa (trustedEnv longComment) unrestricted =
        .ok (unrestricted, true) ∧
      fileLines longComment = [longComment] ∧
      isEmptyOrComment
        (skipBlanks (lineText longComment)) = true := by
  refine ⟨?_, ?_, isEmptyOrComment_hash _⟩
  · have hPieces : (trustedEnv longComment).pieces =
        [commentStart, "1024 35 15\n".toList] := by
      rw [trustedEnv_pieces, keyPieces_longComment]
    have hComment :
        processLine (trustedEnv longComment) 1 unrestricted
          commentStart = .ok (unrestricted, false) :=
      processLine_comment _ _ _ (isEmptyOrComment_hash _)
    have hKey (file : Text) :
        processLine (trustedEnv file) 2 unrestricted
          "1024 35 15\n".toList =
            .ok (unrestricted, true) := by
      rfl
    rw [authRsa_eq_processLines, hPieces]
    simp only [processLines, hComment, hKey,
      FallibleRun.ok_bind, if_true, Bool.false_eq_true,
      if_false]
  · have hLine :
        longComment =
          (commentStart ++ "1024 35 15".toList) ++
            '\n' :: [] := by
      rw [longComment, List.append_assoc]
      rfl
    have hOpen :
        '\n' ∉ commentStart ++ "1024 35 15".toList := by
      rw [List.mem_append, not_or]
      exact ⟨not_newline_mem_commentStart, by decide⟩
    rw [hLine, fileLines_line [] hOpen]
    rfl

end Ssh1

------------------------------------------------------------
-- Effects of Options
------------------------------------------------------------

namespace Ssh1

open QuotedText (Text)

namespace KeyOption

/- The value of an `idle-timeout` option. -/
def timeout? : KeyOption → Option Int32
| idleTimeout seconds => some seconds
| _ => none

/- The text of a `command` option. -/
def command? : KeyOption → Option Text
| command text => some text
| _ => none

/- The text of an `environment` option. -/
def environment? : KeyOption → Option Text
| environment text => some text
| _ => none

/- What the last option of a kind says. -/
def latest
    {α : Type}
    (kind : KeyOption → Option α)
    (options : List KeyOption) : Option α :=
  (options.filterMap kind).getLast?

/- The last option of a kind decides. -/
theorem latest_cons
    {α : Type}
    (kind : KeyOption → Option α)
    (option : KeyOption)
    (options : List KeyOption)
    (default : α) :
    (latest kind (option :: options)).getD default =
      (latest kind options).getD
        ((kind option).getD default) := by
  cases hKind : kind option with
  | none => simp [latest, hKind]
  | some value =>
      cases hRest : options.filterMap kind <;>
        simp [latest, hKind, hRest, List.getLast?_cons]

/- So it is when there may be none. -/
theorem latest_or_cons
    {α : Type}
    (kind : KeyOption → Option α)
    (option : KeyOption)
    (options : List KeyOption)
    (before : Option α) :
    (latest kind (option :: options)).or before =
      (latest kind options).or
        ((kind option).or before) := by
  cases hKind : kind option with
  | none => simp [latest, hKind]
  | some value =>
      cases hRest : options.filterMap kind <;>
        simp [latest, hKind, hRest, List.getLast?_cons]

/- Assignments are collected from the last to the first. -/
theorem filterMap_cons_reverse_append
    {α : Type}
    (kind : KeyOption → Option α)
    (option : KeyOption)
    (options : List KeyOption)
    (before : List α) :
    ((option :: options).filterMap kind).reverse ++
        before =
      (options.filterMap kind).reverse ++
        ((kind option).toList ++ before) := by
  cases hKind : kind option <;> simp [hKind]

end KeyOption

/- The restrictions after some options were applied. -/
def Restrictions.after
    (state : Restrictions)
    (options : List KeyOption) : Restrictions :=
  options.foldl KeyOption.apply state

namespace Restrictions

open KeyOption

variable (state : Restrictions) (options : List KeyOption)

/- The flag is set if the option is there. -/
theorem after_noPortForwardingFlag :
    (state.after options).noPortForwardingFlag =
      (state.noPortForwardingFlag ||
        decide (.noPortForwarding ∈ options)) := by
  induction options generalizing state with
  | nil => simp [after]
  | cons option options ih =>
      have hRest := ih (option.apply state)
      cases option <;> simpa [after, apply] using hRest

theorem after_noAgentForwardingFlag :
    (state.after options).noAgentForwardingFlag =
      (state.noAgentForwardingFlag ||
        decide (.noAgentForwarding ∈ options)) := by
  induction options generalizing state with
  | nil => simp [after]
  | cons option options ih =>
      have hRest := ih (option.apply state)
      cases option <;> simpa [after, apply] using hRest

theorem after_noX11ForwardingFlag :
    (state.after options).noX11ForwardingFlag =
      (state.noX11ForwardingFlag ||
        decide (.noX11Forwarding ∈ options)) := by
  induction options generalizing state with
  | nil => simp [after]
  | cons option options ih =>
      have hRest := ih (option.apply state)
      cases option <;> simpa [after, apply] using hRest

theorem after_noPtyFlag :
    (state.after options).noPtyFlag =
      (state.noPtyFlag || decide (.noPty ∈ options)) := by
  induction options generalizing state with
  | nil => simp [after]
  | cons option options ih =>
      have hRest := ih (option.apply state)
      cases option <;> simpa [after, apply] using hRest

/- The last idle timeout counts. -/
theorem after_idleTimeout :
    (state.after options).idleTimeout =
      (latest timeout? options).getD state.idleTimeout := by
  induction options generalizing state with
  | nil => rfl
  | cons option options ih =>
      rw [latest_cons]
      exact (ih (option.apply state)).trans
        (by cases option <;> rfl)

/- The last forced command counts. -/
theorem after_forcedCommand :
    (state.after options).forcedCommand =
      (latest command? options).or state.forcedCommand := by
  induction options generalizing state with
  | nil => rfl
  | cons option options ih =>
      rw [latest_or_cons]
      exact (ih (option.apply state)).trans
        (by cases option <;> rfl)

/- All the assignments are kept. -/
theorem after_customEnvironment :
    (state.after options).customEnvironment =
      (options.filterMap environment?).reverse ++
        state.customEnvironment := by
  induction options generalizing state with
  | nil => rfl
  | cons option options ih =>
      rw [filterMap_cons_reverse_append]
      exact (ih (option.apply state)).trans
        (by cases option <;> rfl)

end Restrictions

/-
  Options that were applied before leave no trace in the
  restrictions after the accepted ones.
-/
structure Harmless
    (state : Restrictions)
    (rejected accepted : List KeyOption) : Prop where
  noPortForwarding :
    .noPortForwarding ∈ rejected →
      state.noPortForwardingFlag = true ∨
        .noPortForwarding ∈ accepted
  noAgentForwarding :
    .noAgentForwarding ∈ rejected →
      state.noAgentForwardingFlag = true ∨
        .noAgentForwarding ∈ accepted
  noX11Forwarding :
    .noX11Forwarding ∈ rejected →
      state.noX11ForwardingFlag = true ∨
        .noX11Forwarding ∈ accepted
  noPty :
    .noPty ∈ rejected →
      state.noPtyFlag = true ∨ .noPty ∈ accepted
  idleTimeout : ∀ seconds,
    KeyOption.latest KeyOption.timeout? rejected =
        some seconds →
      KeyOption.latest KeyOption.timeout? accepted = none →
        seconds = state.idleTimeout
  command : ∀ text,
    KeyOption.latest KeyOption.command? rejected =
        some text →
      KeyOption.latest KeyOption.command? accepted = none →
        state.forcedCommand = some text
  environment :
    rejected.filterMap KeyOption.environment? = []

/- A flag is lost or not, field by field. -/
theorem flag_eq_iff
    (flag rejected accepted : Bool) :
    (((flag || rejected) || accepted) = (flag || accepted)) ↔
      (rejected = true →
        flag = true ∨ accepted = true) := by
  cases flag <;> cases rejected <;> cases accepted <;> simp

/- The options of a rejected line are harmless when the
  accepted line sets the same or more. -/
theorem after_after_eq_iff
    (state : Restrictions)
    (rejected accepted : List KeyOption) :
    (state.after rejected).after accepted =
        state.after accepted ↔
      Harmless state rejected accepted := by
  have hFields (x y : Restrictions) :
      x = y ↔
        x.noPortForwardingFlag = y.noPortForwardingFlag ∧
        x.noAgentForwardingFlag = y.noAgentForwardingFlag ∧
        x.noX11ForwardingFlag = y.noX11ForwardingFlag ∧
        x.noPtyFlag = y.noPtyFlag ∧
        x.idleTimeout = y.idleTimeout ∧
        x.forcedCommand = y.forcedCommand ∧
        x.customEnvironment = y.customEnvironment := by
    cases x
    cases y
    simp
  rw [hFields]
  simp only [Restrictions.after_noPortForwardingFlag,
    Restrictions.after_noAgentForwardingFlag,
    Restrictions.after_noX11ForwardingFlag,
    Restrictions.after_noPtyFlag,
    Restrictions.after_idleTimeout,
    Restrictions.after_forcedCommand,
    Restrictions.after_customEnvironment, flag_eq_iff,
    decide_eq_true_eq]
  constructor
  · rintro ⟨hPort, hAgent, hX11, hPty, hIdle, hCommand,
      hEnvironment⟩
    refine ⟨hPort, hAgent, hX11, hPty, ?_, ?_, ?_⟩
    · intro seconds hRejected hAccepted
      simpa [hRejected, hAccepted] using hIdle
    · intro text hRejected hAccepted
      simpa [hRejected, hAccepted] using hCommand.symm
    · simpa using hEnvironment
  · intro hHarmless
    refine ⟨hHarmless.noPortForwarding,
      hHarmless.noAgentForwarding,
      hHarmless.noX11Forwarding, hHarmless.noPty,
      ?_, ?_, ?_⟩
    · cases hAccepted :
          KeyOption.latest KeyOption.timeout? accepted with
      | some seconds => simp
      | none =>
          cases hRejected :
              KeyOption.latest KeyOption.timeout?
                rejected with
          | none => simp
          | some seconds =>
              simpa using hHarmless.idleTimeout seconds
                hRejected hAccepted
    · cases hAccepted :
          KeyOption.latest KeyOption.command? accepted with
      | some text => simp
      | none =>
          cases hRejected :
              KeyOption.latest KeyOption.command?
                rejected with
          | none => simp
          | some text =>
              simpa using (hHarmless.command text
                hRejected hAccepted).symm
    · simp [hHarmless.environment]

end Ssh1

------------------------------------------------------------
-- Traces of Rejected Lines
------------------------------------------------------------

namespace Ssh1

open QuotedText (Text)

/-
  The restrictions in force are those of the accepting line
  alone, and without such a line they are as they were.
-/
def LeavesNoTrace
    (env : AuthRsaEnv)
    (state state' : Restrictions)
    (authenticated : Bool) : Prop :=
  if authenticated then
    ∃ before line after state₁,
      env.pieces = before ++ line :: after ∧
        processLines env 1 state before =
          .ok (state₁, false) ∧
        processLine env (1 + before.length) state line =
          .ok (state', true)
  else
    state' = state

variable {env : AuthRsaEnv}

/-
  What the accepting line does alone is what its options do,
  whatever was read before it.
-/
theorem exists_accepting_iff
    {linenum : Nat}
    {lines : List Text}
    {options : List KeyOption}
    (state state' : Restrictions)
    (hAccepted :
      acceptedOptions env linenum lines = some options) :
    (∃ before line after state₁,
      lines = before ++ line :: after ∧
        processLines env linenum state before =
          .ok (state₁, false) ∧
        processLine env (linenum + before.length) state
          line = .ok (state', true)) ↔
      state' = state.after options := by
  -- The piece that accepts is the first one that does, so
  -- the options of the pieces before it play no part.
  suffices hStart : ∀ start : Restrictions,
      (∃ before line after state₁,
        lines = before ++ line :: after ∧
          processLines env linenum start before =
            .ok (state₁, false) ∧
          processLine env (linenum + before.length) state
            line = .ok (state', true)) ↔
        state' = state.after options from hStart state
  induction lines generalizing linenum with
  | nil => cases hAccepted
  | cons line lines ih =>
      intro start
      rw [acceptedOptions] at hAccepted
      cases hJudged : judgeLine env linenum line with
      | error halt =>
          rw [hJudged] at hAccepted
          cases hAccepted
      | ok judged =>
          rcases judged with
            ⟨ownOptions, accepted⟩
          rw [hJudged] at hAccepted
          have hOwn (state : Restrictions) :
              processLine env linenum state line =
                .ok (state.after ownOptions, accepted) := by
            rw [processLine_eq_judgeLine, hJudged]
            rfl
          cases accepted with
          | true =>
              cases hAccepted
              constructor
              · intro hExists
                rcases hExists with
                  ⟨before, accepting, after, state₁,
                    hLines, hBefore, hAccepting⟩
                cases before with
                | nil =>
                    cases hLines
                    rw [List.length_nil, Nat.add_zero,
                      hOwn] at hAccepting
                    cases hAccepting
                    rfl
                | cons first before =>
                    cases hLines
                    rw [processLines, hOwn] at hBefore
                    cases hBefore
              · intro hState
                refine ⟨[], line, lines, start, rfl, rfl, ?_⟩
                rw [List.length_nil, Nat.add_zero, hOwn,
                  hState]
          | false =>
              rw [← ih hAccepted (start.after ownOptions)]
              constructor
              · intro hExists
                rcases hExists with
                  ⟨before, accepting, after, state₁,
                    hLines, hBefore, hAccepting⟩
                cases before with
                | nil =>
                    cases hLines
                    rw [List.length_nil, Nat.add_zero,
                      hOwn] at hAccepting
                    cases hAccepting
                | cons first before =>
                    cases hLines
                    rw [processLines, hOwn] at hBefore
                    refine ⟨before, accepting, after,
                      state₁, rfl, hBefore, ?_⟩
                    rwa [List.length_cons, Nat.add_comm
                      before.length, ← Nat.add_assoc]
                      at hAccepting
              · intro hExists
                rcases hExists with
                  ⟨before, accepting, after, state₁,
                    hLines, hBefore, hAccepting⟩
                refine ⟨line :: before, accepting, after,
                  state₁, by rw [hLines]; rfl, ?_, ?_⟩
                · rw [processLines, hOwn]
                  exact hBefore
                · rwa [List.length_cons, Nat.add_comm
                    before.length, ← Nat.add_assoc]

/-
  A call leaves no trace of rejected lines exactly if their
  options have no effect that is still seen after those of
  the accepting line.
-/
theorem authRsa_leavesNoTrace_iff
    (env : AuthRsaEnv)
    (state state' : Restrictions)
    (authenticated : Bool)
    (hRun : authRsa env state = .ok (state', authenticated)) :
    LeavesNoTrace env state state' authenticated ↔
      Harmless state
        (rejectedOptions env 1 env.pieces)
        ((acceptedOptions env 1 env.pieces).getD []) := by
  rw [authRsa_eq_processLines] at hRun
  rcases processLines_result hRun with
    ⟨hState, hAuthenticated⟩
  rw [← after_after_eq_iff]
  change state' = (state.after _).after _ at hState
  rw [← hState]
  cases hAccepted : acceptedOptions env 1 env.pieces with
  | none =>
      rw [hAccepted] at hAuthenticated
      cases hAuthenticated
      exact Iff.rfl
  | some options =>
      rw [hAccepted] at hAuthenticated
      cases hAuthenticated
      exact exists_accepting_iff state state' hAccepted

/- A line that is accepted after a rejected one. -/
theorem authRsa_leavesNoTrace_second_line :
    let file :=
      "no-pty,bogus 9 35 15\nno-pty 9 35 15\n".toList
    LeavesNoTrace (trustedEnv file) unrestricted
      { unrestricted with noPtyFlag := true } true := by
  intro file
  refine (authRsa_leavesNoTrace_iff (trustedEnv file)
    unrestricted _ _ (by decide +kernel)).mpr ?_
  have hRejected :
      rejectedOptions (trustedEnv file) 1
        (trustedEnv file).pieces = [.noPty] := by
    decide +kernel
  have hAccepted :
      acceptedOptions (trustedEnv file) 1
        (trustedEnv file).pieces = some [.noPty] := by
    decide +kernel
  rw [hRejected, hAccepted]
  constructor <;>
    simp [KeyOption.latest, KeyOption.timeout?,
      KeyOption.command?, KeyOption.environment?]

/-
  No access is granted, and still the pseudo terminal is
  lost to the session.
-/
theorem authRsa_keeps_rejected_option :
    let file := "no-pty,bogus 9 35 15\n".toList
    authRsa (trustedEnv file) unrestricted =
        .ok ({ unrestricted with noPtyFlag := true },
          false) ∧
      ¬LeavesNoTrace (trustedEnv file) unrestricted
        { unrestricted with noPtyFlag := true } false := by
  intro file
  refine ⟨by decide +kernel, ?_⟩
  intro hTrace
  have hFlag := congrArg Restrictions.noPtyFlag hTrace
  cases hFlag

end Ssh1
