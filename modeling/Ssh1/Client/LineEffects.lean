import Ssh1.Client.Readconf
import Ssh1.Lib.FirstValue

/-
  What a line of a configuration file says and does.

  What a line says is read off the line alone; a blank line
  and a comment say nothing. Each branch of the switch of the
  reader does what the line says.

  Main declarations:
    * `Setting`, `saysNothing`, `settingOf`
    * `activeLines`
    * `FirstValueWins`
    * `LineEffect`, `processOpcode_effect`
-/

------------------------------------------------------------
-- Settings
------------------------------------------------------------

namespace Ssh1

open QuotedText (Text)

/-
  What a line says. The value of a string is `none` if the
  name of a file cannot be expanded.
-/
inductive Setting where
  | int
      (intptr : IntOption)
      (value : Int)
  | string
      (charptr : StringOption)
      (value : Option Text)
  | identityFile (file : Text)
  | localForward (fwd : Forward)
  | remoteForward (fwd : Forward)
  | host (patterns : List Text)
  deriving DecidableEq

namespace Setting

/- What the setting gives an integer option. -/
@[simp] def intValue (intptr : IntOption) : Setting → Option Int
| int p value => if p = intptr then some value else none
| _ => none

/- What the setting gives a string option. -/
@[simp] def stringValue
    (charptr : StringOption) : Setting → Option (Option Text)
| string p value => if p = charptr then some value else none
| _ => none

/- The file that the setting adds. -/
@[simp] def identityFile? : Setting → Option Text
| identityFile file => some file
| _ => none

/- The local forward that the setting adds. -/
@[simp] def localForward? : Setting → Option Forward
| localForward fwd => some fwd
| _ => none

/- The remote forward that the setting adds. -/
@[simp] def remoteForward? : Setting → Option Forward
| remoteForward fwd => some fwd
| _ => none

/- A `Host` line begins a section. -/
@[simp] def heading (name : Text) : Setting → Option Bool
| host patterns =>
    some (patterns.any fun cp => matchPattern name cp)
| _ => none

end Setting

/- An argument that is the value of a setting. -/
def Argument.map
    {α β : Type}
    (argument : Argument α)
    (f : α → β) : Argument β := fun args => do
  let (value, args) ← argument args
  .ok (f value, args)

/- What the arguments of a keyword mean. -/
def OpCodes.setting
    (env : ReadconfEnv) :
    OpCodes → Argument Setting
| .oForwardAgent => yesNoArgument.map (.int .forwardAgent)
| .oForwardX11 => yesNoArgument.map (.int .forwardX11)
| .oRhostsAuthentication =>
    yesNoArgument.map (.int .rhostsAuthentication)
| .oPasswordAuthentication =>
    yesNoArgument.map (.int .passwordAuthentication)
| .oRSAAuthentication =>
    yesNoArgument.map (.int .rsaAuthentication)
| .oTISAuthentication =>
    yesNoArgument.map (.int .tisAuthentication)
| .oRhostsRSAAuthentication =>
    yesNoArgument.map (.int .rhostsRsaAuthentication)
| .oKerberosAuthentication =>
    yesNoArgument.map (.int .kerberosAuthentication)
| .oKerberosTgtPassing =>
    yesNoArgument.map (.int .kerberosTgtPassing)
| .oFallBackToRsh => yesNoArgument.map (.int .fallbackToRsh)
| .oUseRsh => yesNoArgument.map (.int .useRsh)
| .oBatchMode => yesNoArgument.map (.int .batchMode)
| .oStrictHostKeyChecking =>
    yesNoAskArgument.map (.int .strictHostKeyChecking)
| .oCompression => yesNoArgument.map (.int .compression)
| .oKeepAlives => yesNoArgument.map (.int .keepalives)
| .oUsePrivilegedPort =>
    yesNoArgument.map (.int .usePrivilegedPort)
| .oCompressionLevel =>
    numberArgument.map (.int .compressionLevel)
| .oIdentityFile =>
    Argument.map (nextWord missingArgument) .identityFile
| .oUser =>
    Argument.map (nextWord missingArgument)
      fun cp => .string .user (some cp)
| .oGlobalKnownHostsFile =>
    Argument.map (nextWord missingArgument)
      fun cp => .string .systemHostfile (some cp)
| .oUserKnownHostsFile =>
    Argument.map (nextWord missingArgument)
      fun cp => .string .userHostfile (some cp)
| .oHostName =>
    Argument.map (nextWord missingArgument)
      fun cp => .string .hostname (some cp)
| .oProxyCommand =>
    commandArgument.map
      fun cp => .string .proxyCommand (some cp)
| .oPort => numberArgument.map (.int .port)
| .oConnectionAttempts =>
    numberArgument.map (.int .connectionAttempts)
| .oNumberOfPasswordPrompts =>
    numberArgument.map (.int .numberOfPasswordPrompts)
| .oPasswordPromptLogin =>
    yesNoArgument.map (.int .passwordPromptLogin)
| .oPasswordPromptHost =>
    yesNoArgument.map (.int .passwordPromptHost)
| .oCipher => (cipherArgument env.build).map (.int .cipher)
| .oClearAllForwardings =>
    yesNoArgument.map (.int .clearAllForwardings)
| .oRemoteForward => forwardArgument.map .remoteForward
| .oLocalForward => forwardArgument.map .localForward
| .oHost => fun args => .ok (.host args, [])
| .oEscapeChar => escapeArgument.map (.int .escapeChar)
| .oXauthPath =>
    pathArgument.map fun cp =>
      .string .xauthPath (tildeExpandFilename env cp).toOption
| .oGatewayPorts => yesNoArgument.map (.int .gatewayPorts)

/-
  A blank line, or a comment: there is white space up to the
  end of the text or up to a hash sign.
-/
def saysNothing : Text → Bool
| [] => true
| c :: line =>
    if isWhitespace c then
      saysNothing line
    else
      c = '#' || c = Char.ofNat 0

/-
  What the words of a line say. The text of the line ends at
  a zero byte.
-/
def lineSetting
    (env : ReadconfEnv)
    (line : Text) : Except LineError (Option Setting) :=
  if saysNothing line then
    .ok none
  else
    match strtokWords (lineText line) with
    | [] => .ok none
    | cp :: args => do
        let opcode ← parseToken (toLowerText cp)
        let (setting, args) ← opcode.setting env args
        if args = [] then
          .ok (some setting)
        else
          .error (.fatal "garbage at end of line.")

/- The setting of a line that can be read. -/
def settingOf
    (env : ReadconfEnv)
    (line : Text) : Option Setting :=
  (lineSetting env line).toOption.join

/- Blank lines and comments set nothing. -/
theorem settingOf_of_saysNothing
    (env : ReadconfEnv)
    {line : Text}
    (hNothing : saysNothing line = true) :
    settingOf env line = none := by
  rw [settingOf, lineSetting, if_pos hNothing]
  rfl

/- White space at the start is not part of a word. -/
theorem strtokWords_dropWhile
    (cp : Text) :
    strtokWords (cp.dropWhile isWhitespace) =
      strtokWords cp := by
  induction cp with
  | nil => rfl
  | cons c cp ih =>
      cases hWhite : isWhitespace c with
      | false =>
          rw [List.dropWhile_cons_of_neg (by simp [hWhite])]
      | true =>
          rw [List.dropWhile_cons_of_pos hWhite, ih]
          simp [strtokWords,
            List.splitOnP_cons_eq_if_modifyHead, hWhite]

/- The words that are looked at are those that say something. -/
theorem lineWords_eq
    (line : Text) :
    lineWords line =
      if saysNothing line then []
      else strtokWords (lineText line) := by
  have hSkip :
      isEmptyOrComment
          ((lineText line).dropWhile isWhitespace) =
        saysNothing line := by
    induction line with
    | nil => rfl
    | cons c line ih =>
        have hZero : isWhitespace (Char.ofNat 0) = false := by
          decide
        have hNewline : isWhitespace '\n' = true := by
          decide
        by_cases hEnd : c = Char.ofNat 0
        · subst hEnd
          simp [lineText, saysNothing, hZero,
            isEmptyOrComment]
        · have hText :
              lineText (c :: line) = c :: lineText line :=
            List.takeWhile_cons_of_pos (by simpa using hEnd)
          rw [hText, saysNothing]
          cases hWhite : isWhitespace c with
          | true =>
              rw [List.dropWhile_cons_of_pos hWhite, ih]
              rfl
          | false =>
              have hOther : c ≠ '\n' := by
                rintro rfl
                rw [hNewline] at hWhite
                cases hWhite
              rw [List.dropWhile_cons_of_neg (by simp [hWhite])]
              simp [isEmptyOrComment, hOther, hEnd]
  rw [lineWords, hSkip, strtokWords_dropWhile]

end Ssh1

------------------------------------------------------------
-- First Values
------------------------------------------------------------

namespace Ssh1

open QuotedText (Text)

namespace ConfigSource

/- The lines of a source: one for a `-o` argument. -/
def lines : ConfigSource → List Text
| .option _ optarg => [optarg]
| .file _ none => []
| .file _ (some contents) => fileLines contents

/- The lines of the text fit into the line buffer. -/
def Fits : ConfigSource → Prop
| .option _ _ => True
| .file _ contents =>
    ∀ text ∈ contents, ∀ line ∈ fileLines text,
      line.length < configLineSize

end ConfigSource

variable (env : ReadconfEnv) (host : Text)

/- Whether the line begins a section, and one in effect. -/
def headingOf (line : Text) : Option Bool :=
  (settingOf env line).bind (Setting.heading host)

/- The lines in effect, without those of the sections. -/
def activeLines (sources : List ConfigSource) : List Text :=
  sources.flatMap fun source =>
    FirstValue.activeItems (headingOf env host) true
      source.lines

/- What the lines in effect say. -/
def activeSettings
    (sources : List ConfigSource) : List Setting :=
  (activeLines env host sources).filterMap (settingOf env)

/- What all lines say. -/
def allSettings
    (sources : List ConfigSource) : List Setting :=
  (sources.flatMap ConfigSource.lines).filterMap
    (settingOf env)

/-
  Every option has the first value that a line in effect
  gives it, or is unset. The lists have what the lines in
  effect say, in order.
-/
structure FirstValueWins
    (sources : List ConfigSource)
    (options : Options) : Prop where
  ints : ∀ intptr,
    options.ints intptr =
      ((activeSettings env host sources).filterMap
        (Setting.intValue intptr)).head?.getD (-1)
  strings : ∀ charptr,
    options.strings charptr =
      ((activeSettings env host sources).filterMap
        (Setting.stringValue charptr)).head?.getD none
  identityFiles :
    options.identityFiles =
      (activeSettings env host sources).filterMap
        Setting.identityFile?
  localForwards :
    options.localForwards =
      (activeSettings env host sources).filterMap
        Setting.localForward?
  remoteForwards :
    options.remoteForwards =
      (activeSettings env host sources).filterMap
        Setting.remoteForward?

/-
  The first line with a path for xauth is in effect, or
  gives the path of the first one that is.
-/
def FirstXauthActive (sources : List ConfigSource) : Prop :=
  ((allSettings env sources).filterMap
      (Setting.stringValue .xauthPath)).head? =
    ((activeSettings env host sources).filterMap
      (Setting.stringValue .xauthPath)).head?

/-
  No option is first given the value that means unset and
  then another one.
-/
def NumbersSet (sources : List ConfigSource) : Prop :=
  ∀ intptr,
    ((activeSettings env host sources).filterMap
        (Setting.intValue intptr)).head? = some (-1) →
      ∀ value ∈ (activeSettings env host sources).filterMap
          (Setting.intValue intptr),
        value = -1

end Ssh1

------------------------------------------------------------
-- Effect of a Line
------------------------------------------------------------

namespace Ssh1

open FirstValue
open QuotedText (Text)

/- A value that is seen only if the line is in effect. -/
def inEffect
    {α : Type}
    (active : Bool)
    (value : Option α) : List α :=
  if active then value.toList else []

/-
  What a setting does to the options and the flag. A path
  for xauth is seen in every section.
-/
structure LineEffect
    (host : Text)
    (setting : Setting)
    (state : ConfigState)
    (state' : ConfigState) : Prop where
  active :
    state'.active =
      (setting.heading host).getD state.active
  ints : ∀ intptr,
    state'.options.ints intptr =
      (inEffect state.active (setting.intValue intptr)).foldl
        (assignUnset (-1)) (state.options.ints intptr)
  strings : ∀ charptr,
    state'.options.strings charptr =
      (inEffect (state.active || charptr = .xauthPath)
          (setting.stringValue charptr)).foldl
        (assignUnset none) (state.options.strings charptr)
  expanded : ∀ charptr,
    state.options.strings charptr = none →
      setting.stringValue charptr ≠ some none
  identityFiles :
    state'.options.identityFiles =
      state.options.identityFiles ++
        inEffect state.active setting.identityFile?
  localForwards :
    state'.options.localForwards =
      state.options.localForwards ++
        inEffect state.active setting.localForward?
  remoteForwards :
    state'.options.remoteForwards =
      state.options.remoteForwards ++
        inEffect state.active setting.remoteForward?

variable {env : ReadconfEnv} {host : Text}
variable {place : ConfigPlace}
variable {state state' : ConfigState}
variable {args rest : List Text}

@[simp] theorem inEffect_none
    {α : Type}
    (active : Bool) :
    inEffect active (none : Option α) = [] := by
  simp [inEffect]

@[simp] theorem inEffect_inactive
    {α : Type}
    (value : Option α) :
    inEffect false value = [] := rfl

@[simp] theorem inEffect_active
    {α : Type}
    (value : Option α) :
    inEffect true value = value.toList := rfl

/- An integer is assigned in an active section if unset. -/
theorem assignInt_ints
    (state : ConfigState)
    (intptr : IntOption)
    (value : Int)
    (p : IntOption) :
    (state.assignInt intptr value).options.ints p =
      (inEffect state.active
          ((Setting.int intptr value).intValue p)).foldl
        (assignUnset (-1)) (state.options.ints p) := by
  by_cases hField : intptr = p
  · subst hField
    cases hActive : state.active <;>
      by_cases hUnset : state.options.ints intptr = -1 <;>
      simp [ConfigState.assignInt, Options.setInt, assignUnset, hActive, hUnset]
  · have hOther : Function.update state.options.ints
        intptr value p = state.options.ints p :=
      Function.update_of_ne (Ne.symm hField) _ _
    rw [ConfigState.assignInt]
    split
    · simpa [hField, Options.setInt]
        using hOther
    · simp [hField]

/- The other fields are kept. -/
theorem assignInt_frame
    (state : ConfigState)
    (intptr : IntOption)
    (value : Int) :
    let state' := state.assignInt intptr value
    state'.active = state.active ∧
      state'.options.strings = state.options.strings ∧
      state'.options.identityFiles =
        state.options.identityFiles ∧
      state'.options.localForwards =
        state.options.localForwards ∧
      state'.options.remoteForwards =
        state.options.remoteForwards := by
  simp only [ConfigState.assignInt]
  split
  · exact ⟨rfl, rfl, rfl, rfl, rfl⟩
  · exact ⟨rfl, rfl, rfl, rfl, rfl⟩

/- An integer option that is set the first time. -/
theorem assignInt_effect
    (host : Text)
    (state : ConfigState)
    (intptr : IntOption)
    (value : Int) :
    LineEffect host (.int intptr value) state
      (state.assignInt intptr value) := by
  rcases assignInt_frame state intptr value with
    ⟨hActive, hStrings, hFiles, hLocal, hRemote⟩
  exact {
    active := hActive
    ints := assignInt_ints state intptr value
    strings := by
      intro charptr
      simp [hStrings]
    expanded := by simp
    identityFiles := by
      simp [hFiles]
    localForwards := by
      simp [hLocal]
    remoteForwards := by
      simp [hRemote] }

/-
  A string that is assigned in the sections that it looks
  at, if it is unset, and whose value can be expanded then.
-/
theorem setString_effect
    {charptr : StringOption}
    {value : Option Text}
    {options' : Options}
    (hSet : ∀ cp,
      value = some cp →
      (state.active || charptr = .xauthPath) = true →
      state.options.strings charptr = none →
      options' = state.options.setString charptr cp)
    (hKept :
      (state.active || charptr = .xauthPath) = false ∨
        state.options.strings charptr ≠ none →
      options' = state.options)
    (hExpanded :
      state.options.strings charptr = none → value ≠ none) :
    LineEffect host (.string charptr value) state
      { state with options := options' } := by
  have hCases :
      options' = state.options ∧
          ((state.active || charptr = .xauthPath) = false ∨
            state.options.strings charptr ≠ none) ∨
        ∃ cp, value = some cp ∧
          (state.active || charptr = .xauthPath) = true ∧
          state.options.strings charptr = none ∧
          options' = state.options.setString charptr cp := by
    by_cases hUnset : state.options.strings charptr = none
    · cases hLooks :
          (state.active || decide (charptr = .xauthPath)) with
      | false => exact Or.inl ⟨hKept (.inl hLooks), .inl rfl⟩
      | true =>
          rcases Option.ne_none_iff_exists'.mp
              (hExpanded hUnset) with
            ⟨cp, hValue⟩
          exact Or.inr ⟨cp, hValue, rfl, hUnset,
            hSet cp hValue hLooks hUnset⟩
    · exact Or.inl ⟨hKept (.inr hUnset), .inr hUnset⟩
  have hStrings : ∀ p,
      options'.strings p =
        (inEffect (state.active || p = .xauthPath)
            ((Setting.string charptr value).stringValue
              p)).foldl
          (assignUnset none) (state.options.strings p) := by
    intro p
    by_cases hField : charptr = p
    · subst hField
      rcases hCases with
        ⟨rfl, hQuiet⟩ | ⟨cp, rfl, hLooks, hUnset, rfl⟩
      · rcases hQuiet with hQuiet | hUnset
        · simp [hQuiet]
        · rw [foldl_assignUnset_of_ne hUnset]
      · simp [hLooks, hUnset, Options.setString]
    · rcases hCases with
        ⟨rfl, -⟩ | ⟨cp, -, -, -, rfl⟩
      · simp [hField]
      · simp [hField, Options.setString, Function.update_of_ne (Ne.symm hField)]
  have hFrame :
      options'.ints = state.options.ints ∧
        options'.identityFiles =
          state.options.identityFiles ∧
        options'.localForwards =
          state.options.localForwards ∧
        options'.remoteForwards =
          state.options.remoteForwards := by
    rcases hCases with
      ⟨rfl, -⟩ | ⟨cp, -, -, -, rfl⟩
    · exact ⟨rfl, rfl, rfl, rfl⟩
    · exact ⟨rfl, rfl, rfl, rfl⟩
  rcases hFrame with
    ⟨hInts, hFiles, hLocal, hRemote⟩
  exact {
    active := rfl
    ints := by
      intro intptr
      simp [hInts]
    strings := hStrings
    expanded := by
      intro p hUnset
      by_cases hField : charptr = p
      · subst hField
        simpa using hExpanded hUnset
      · simp [hField]
    identityFiles := by
      simp [hFiles]
    localForwards := by
      simp [hLocal]
    remoteForwards := by
      simp [hRemote] }

end Ssh1

------------------------------------------------------------
-- Branches of the Switch
------------------------------------------------------------

namespace Ssh1

open FirstValue
open QuotedText (Text)

variable {env : ReadconfEnv} {host : Text}
variable {place : ConfigPlace}
variable {state state' : ConfigState}
variable {args rest : List Text}

/- The place of an error makes no other difference. -/
@[simp] theorem check_eq_ok_iff
    {α : Type}
    {x : Except LineError α}
    {a : α} :
    place.check x = .ok a ↔ x = .ok a := by
  cases x with
  | error e => simp [ConfigPlace.check]
  | ok b => simp [ConfigPlace.check]

/- The value of an argument is passed on. -/
theorem Argument.map_ok
    {α β : Type}
    {argument : Argument α}
    {value : α}
    (f : α → β)
    (hArgument : argument args = .ok (value, rest)) :
    argument.map f args = .ok (f value, rest) := by
  rw [Argument.map, hArgument]
  rfl

/- A value is read, and then the state is changed. -/
theorem check_bind_eq_ok_iff
    {α : Type}
    {argument : Argument α}
    {next : α × List Text → Outcome (ConfigState × List Text)}
    {result : ConfigState × List Text} :
    place.check (argument args) >>= next = .ok result ↔
      ∃ value rest, argument args = .ok (value, rest) ∧
        next (value, rest) = .ok result := by
  rw [FallibleRun.bind_eq_ok_iff]
  constructor
  · rintro ⟨⟨value, rest⟩, hRead, hNext⟩
    exact ⟨value, rest, check_eq_ok_iff.mp hRead, hNext⟩
  · rintro ⟨value, rest, hRead, hNext⟩
    exact ⟨(value, rest), check_eq_ok_iff.mpr hRead, hNext⟩

/- What a branch of the switch has read and done. -/
def BranchEffect
    (host : Text)
    (setting : Argument Setting)
    (args : List Text)
    (state : ConfigState)
    (result : ConfigState × List Text) : Prop :=
  ∃ value, setting args = .ok (value, result.2) ∧
    LineEffect host value state result.1

/- A keyword with an integer sets its option. -/
theorem parseInteger_effect
    {argument : Argument Int}
    {intptr : IntOption}
    {result : ConfigState × List Text}
    (hParse :
      parseInteger place state argument intptr args =
        .ok result) :
    BranchEffect host (argument.map (.int intptr)) args state
      result := by
  rcases check_bind_eq_ok_iff.mp hParse with
    ⟨value, rest, hRead, hNext⟩
  cases hNext
  exact ⟨_, Argument.map_ok _ hRead,
    assignInt_effect host state intptr value⟩

/- A keyword with a word sets its option, but for
  `XauthLocation`. -/
theorem parseText_effect
    {argument : Argument Text}
    {charptr : StringOption}
    {result : ConfigState × List Text}
    (hField : charptr ≠ .xauthPath)
    (hParse :
      parseText place state argument charptr args =
        .ok result) :
    BranchEffect host
      (argument.map fun cp => .string charptr (some cp))
      args state result := by
  rcases check_bind_eq_ok_iff.mp hParse with
    ⟨value, rest, hRead, hNext⟩
  cases hNext
  refine ⟨_, Argument.map_ok _ hRead, ?_⟩
  have hState :
      state.assignString charptr value =
        { state with
          options :=
            (state.assignString charptr value).options } := by
    rw [ConfigState.assignString]
    split <;> rfl
  rw [hState]
  apply setString_effect
  · intro cp hValue hLooks hUnset
    cases hValue
    have hActive : state.active = true := by
      simpa [hField] using hLooks
    simp [ConfigState.assignString, hActive, hUnset]
  · intro hQuiet
    have hNot : ¬ (state.active = true ∧
        state.options.strings charptr = none) := by
      rintro ⟨hActive, hUnset⟩
      simp [hActive, hUnset] at hQuiet
    rw [ConfigState.assignString, if_neg hNot]
  · simp

/- The path is assigned in every section. -/
theorem parsePathname_effect
    {result : ConfigState × List Text}
    (hParse :
      parsePathname place state env .xauthPath args =
        .ok result) :
    BranchEffect host
      (pathArgument.map fun cp =>
        .string .xauthPath (tildeExpandFilename env cp).toOption)
      args state result := by
  rcases check_bind_eq_ok_iff.mp hParse with
    ⟨cp, rest, hRead, hNext⟩
  by_cases hUnset : state.options.strings .xauthPath = none
  · simp only [if_pos hUnset] at hNext
    rcases FallibleRun.bind_eq_ok_iff.mp hNext with
      ⟨expanded, hExpand, hDone⟩
    cases hDone
    refine ⟨_, Argument.map_ok _ hRead, ?_⟩
    rw [hExpand]
    apply setString_effect
    · intro cp' hValue _ _
      cases hValue
      rfl
    · intro hQuiet
      simp [hUnset] at hQuiet
    · simp [Except.toOption]
  · simp only [if_neg hUnset] at hNext
    cases hNext
    refine ⟨_, Argument.map_ok _ hRead, ?_⟩
    apply setString_effect
    · intro cp' _ _ hUnset'
      exact absurd hUnset' hUnset
    · intro _
      rfl
    · intro hUnset'
      exact absurd hUnset' hUnset

/- An identity file is added in an active section. -/
theorem parseIdentityFile_effect
    {result : ConfigState × List Text}
    (hParse :
      parseIdentityFile place state args = .ok result) :
    BranchEffect host
      (Argument.map (nextWord missingArgument) .identityFile)
      args state result := by
  rcases check_bind_eq_ok_iff.mp hParse with
    ⟨cp, rest, hRead, hNext⟩
  refine ⟨.identityFile cp, ?_⟩
  cases hActive : state.active with
  | false =>
      simp only [hActive, Bool.false_eq_true, if_false]
        at hNext
      cases hNext
      refine ⟨Argument.map_ok _ hRead, ?_⟩
      constructor <;>
        simp [hActive]
  | true =>
      simp only [hActive, if_true] at hNext
      split at hNext
      · cases hNext
      · cases hNext
        refine ⟨Argument.map_ok _ hRead, ?_⟩
        constructor <;>
          simp [hActive]

/- A forwarding goes to one list, if it is in effect. -/
theorem parseForward_ok
    {addForward : Options → Forward → Outcome Options}
    {result : ConfigState × List Text}
    (hParse :
      parseForward place state addForward args = .ok result) :
    ∃ fwd, forwardArgument args = .ok (fwd, result.2) ∧
      (state.active = false ∧ result.1 = state ∨
        state.active = true ∧
          ∃ options,
            addForward state.options fwd = .ok options ∧
            result.1 = { state with options := options }) := by
  rcases check_bind_eq_ok_iff.mp hParse with
    ⟨fwd, rest, hRead, hNext⟩
  cases hActive : state.active with
  | false =>
      simp only [hActive, Bool.false_eq_true, if_false]
        at hNext
      cases hNext
      exact ⟨fwd, hRead, .inl ⟨rfl, rfl⟩⟩
  | true =>
      simp only [hActive, if_true] at hNext
      rcases FallibleRun.bind_eq_ok_iff.mp hNext with
        ⟨options, hAdd, hDone⟩
      cases hDone
      exact ⟨fwd, hRead, .inr ⟨rfl, options, hAdd, rfl⟩⟩

/- A remote forward that is taken is put at the end. -/
theorem addRemoteForward_ok
    {options options' : Options}
    {fwd : Forward}
    (hAdd : addRemoteForward options fwd = .ok options') :
    options' = { options with
      remoteForwards := options.remoteForwards ++ [fwd] } := by
  rw [addRemoteForward] at hAdd
  split at hAdd
  · cases hAdd
  · exact (Except.ok.inj hAdd).symm

/- A local forward that is taken is put at the end. -/
theorem addLocalForward_ok
    {options options' : Options}
    {fwd : Forward}
    (hAdd : addLocalForward env options fwd = .ok options') :
    options' = { options with
      localForwards := options.localForwards ++ [fwd] } := by
  rw [addLocalForward] at hAdd
  split at hAdd
  · cases hAdd
  · split at hAdd
    · cases hAdd
    · exact (Except.ok.inj hAdd).symm

/- A forward is added to its list in an active section. -/
theorem parseForward_effect
    {addForward : Options → Forward → Outcome Options}
    {setting : Forward → Setting}
    {result : ConfigState × List Text}
    (hInactive : ∀ fwd,
      state.active = false →
        LineEffect host (setting fwd) state state)
    (hActive : ∀ fwd options,
      state.active = true →
        addForward state.options fwd = .ok options →
          LineEffect host (setting fwd) state
            { state with options := options })
    (hParse :
      parseForward place state addForward args = .ok result) :
    BranchEffect host (forwardArgument.map setting) args state
      result := by
  rcases parseForward_ok hParse with
    ⟨fwd, hRead, ⟨hNot, hSame⟩ | ⟨hNow, options, hAdd, hSame⟩⟩
  · refine ⟨setting fwd, Argument.map_ok _ hRead, ?_⟩
    rw [hSame]
    exact hInactive fwd hNot
  · refine ⟨setting fwd, Argument.map_ok _ hRead, ?_⟩
    rw [hSame]
    exact hActive fwd options hNow hAdd

/- So it is for a remote forward. -/
theorem parseRemoteForward_effect
    {result : ConfigState × List Text}
    (hParse :
      parseForward place state addRemoteForward args =
        .ok result) :
    BranchEffect host (forwardArgument.map .remoteForward)
      args state result := by
  refine parseForward_effect ?_ ?_ hParse
  · intro fwd hNot
    constructor <;>
      simp [hNot]
  · intro fwd options hNow hAdd
    rw [addRemoteForward_ok hAdd]
    constructor <;>
      simp [hNow]

/- So it is for a local forward. -/
theorem parseLocalForward_effect
    {result : ConfigState × List Text}
    (hParse :
      parseForward place state (addLocalForward env) args =
        .ok result) :
    BranchEffect host (forwardArgument.map .localForward)
      args state result := by
  refine parseForward_effect ?_ ?_ hParse
  · intro fwd hNot
    constructor <;>
      simp [hNot]
  · intro fwd options hNow hAdd
    rw [addLocalForward_ok hAdd]
    constructor <;>
      simp [hNow]

/- `Host` starts a section, which may be active. -/
theorem processHost_effect :
    BranchEffect host (OpCodes.oHost.setting env) args state
      ({ state with
        active := args.any fun cp =>
          matchPattern host cp }, []) := by
  refine ⟨.host args, rfl, ?_⟩
  constructor <;>
    simp

/- Every branch does what its arguments mean. -/
theorem processOpcode_effect
    {opcode : OpCodes}
    {result : ConfigState × List Text}
    (hProcess :
      processOpcode env host place state args opcode =
        .ok result) :
    BranchEffect host (opcode.setting env) args state
      result := by
  cases opcode
  case oHost =>
    cases hProcess
    exact processHost_effect
  case oXauthPath => exact parsePathname_effect hProcess
  case oIdentityFile =>
    exact parseIdentityFile_effect hProcess
  case oRemoteForward =>
    exact parseRemoteForward_effect hProcess
  case oLocalForward =>
    exact parseLocalForward_effect hProcess
  case oUser => exact parseText_effect nofun hProcess
  case oHostName => exact parseText_effect nofun hProcess
  case oProxyCommand => exact parseText_effect nofun hProcess
  case oGlobalKnownHostsFile =>
    exact parseText_effect nofun hProcess
  case oUserKnownHostsFile =>
    exact parseText_effect nofun hProcess
  all_goals exact parseInteger_effect hProcess

end Ssh1
