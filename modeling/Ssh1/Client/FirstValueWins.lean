import Ssh1.Client.LineEffects

/-
  Every option keeps the first value that a line in effect
  gives it.

  The lines in effect are those in front of the first `Host`
  line of a text, and those behind a `Host` line with a
  pattern that matches the host.

  Main declarations:
    * `processConfigLine_effect`
    * `readSources_firstValueWins_iff`
-/

------------------------------------------------------------
-- Runs
------------------------------------------------------------

namespace Ssh1

open FirstValue
open QuotedText (Text)

variable {env : ReadconfEnv} {host : Text}
variable {place : ConfigPlace}
variable {state state' : ConfigState}
variable {line : Text}

/- A line does what it says, or is empty or a comment. -/
theorem processConfigLine_effect
    (hProcess :
      processConfigLine env host place state line =
        .ok state') :
    settingOf env line = none ∧ state' = state ∨
      ∃ setting, settingOf env line = some setting ∧
        LineEffect host setting state state' := by
  rw [processConfigLine, lineWords_eq] at hProcess
  cases hNothing : saysNothing line with
  | true =>
      rw [hNothing] at hProcess
      cases hProcess
      exact Or.inl ⟨settingOf_of_saysNothing env hNothing, rfl⟩
  | false =>
  rw [hNothing] at hProcess
  simp only [Bool.false_eq_true, if_false] at hProcess
  rw [settingOf, lineSetting, hNothing]
  simp only [Bool.false_eq_true, if_false]
  cases hWords : strtokWords (lineText line) with
  | nil =>
      simp only [hWords] at hProcess
      cases hProcess
      exact Or.inl ⟨rfl, rfl⟩
  | cons cp args =>
      simp only [hWords] at hProcess
      rcases FallibleRun.bind_eq_ok_iff.mp hProcess with
        ⟨opcode, hToken, hRest⟩
      rcases FallibleRun.bind_eq_ok_iff.mp hRest with
        ⟨⟨reached, rest⟩, hOpcode, hEnd⟩
      rcases processOpcode_effect hOpcode with
        ⟨setting, hSetting, hEffect⟩
      by_cases hRest : rest = []
      · subst hRest
        cases hEnd
        refine Or.inr ⟨setting, ?_, hEffect⟩
        simp only [check_eq_ok_iff.mp hToken,
          FallibleRun.ok_bind, hSetting, if_true]
        rfl
      · simp only [if_neg hRest] at hEnd
        cases hEnd

section Gathering

variable {α : Type}

/- What a line gives, in effect or in every section. -/
def lineValues
    (env : ReadconfEnv)
    (value : Setting → Option α)
    (always : Bool)
    (active : Bool)
    (line : Text) : List α :=
  inEffect (active || always) ((settingOf env line).bind value)

/- What a text gives. -/
def sourceValues
    (env : ReadconfEnv)
    (host : Text)
    (value : Setting → Option α)
    (always : Bool)
    (source : ConfigSource) : List α :=
  gathered (headingOf env host) (lineValues env value always)
    true source.lines

variable {value : Setting → Option α} {always : Bool}
variable {related : List α → Options → Prop}

/- What was gathered so far, before and after a line. -/
def KeptByLines
    (value : Setting → Option α)
    (always : Bool)
    (related : List α → Options → Prop) : Prop :=
  ∀ host so setting state state',
    related so state.options →
    LineEffect host setting state state' →
    related (so ++ inEffect (state.active || always)
      (value setting)) state'.options

theorem processConfigLine_gathered
    (hKept : KeptByLines value always related)
    {so : List α}
    (hBefore : related so state.options)
    (hProcess :
      processConfigLine env host place state line =
        .ok state') :
    state'.active =
        (headingOf env host line).getD state.active ∧
      related
        (so ++ lineValues env value always state.active line)
        state'.options := by
  rcases processConfigLine_effect hProcess with
    ⟨hNone, rfl⟩ | ⟨setting, hSome, hEffect⟩
  · simp [headingOf, lineValues, hNone, hBefore]
  · rw [headingOf, lineValues, hSome]
    exact ⟨hEffect.active,
      hKept host so setting state state' hBefore hEffect⟩

theorem readConfigLine_gathered
    (hKept : KeptByLines value always related)
    {filename : Text}
    {so : List α}
    {before after : ReadState}
    (hBefore : related so before.config.options)
    (hRead :
      readConfigLine env host filename before line =
        .ok after) :
    after.config.active =
        (headingOf env host line).getD
          before.config.active ∧
      related
        (so ++ lineValues env value always
          before.config.active line)
        after.config.options := by
  rcases FallibleRun.bind_eq_ok_iff.mp hRead with
    ⟨config, hProcess, hDone⟩
  cases hDone
  exact processConfigLine_gathered hKept hBefore hProcess

/- The pieces of a file with lines that fit are its lines. -/
theorem configPieces_eq_fileLines
    {contents : Text}
    (hFit : ∀ line ∈ fileLines contents,
      line.length < configLineSize) :
    configPieces contents = fileLines contents :=
  readPieces_eq_fileLines contents.length (Nat.le_refl _)
    hFit

theorem readSource_gathered
    (hKept : KeptByLines value always related)
    {source : ConfigSource}
    (hFit : source.Fits)
    {so : List α}
    {options options' : Options}
    (hBefore : related so options)
    (hRead :
      readSource env host options source = .ok options') :
    related (so ++ sourceValues env host value always source)
      options' := by
  cases source with
  | option hostSoFar optarg =>
      rcases FallibleRun.bind_eq_ok_iff.mp hRead with
        ⟨after, hProcess, hDone⟩
      cases hDone
      have hLine :=
        (processConfigLine_gathered hKept hBefore hProcess).2
      simpa [sourceValues, ConfigSource.lines, gathered]
        using hLine
  | file filename contents =>
      cases contents with
      | none =>
          cases hRead
          simpa [sourceValues, ConfigSource.lines, gathered]
            using hBefore
      | some contents =>
          rcases FallibleRun.bind_eq_ok_iff.mp hRead with
            ⟨after, hRun, hDone⟩
          cases hDone
          rw [configPieces_eq_fileLines
            (hFit contents rfl)] at hRun
          exact run_gathered (headingOf env host)
            (lineValues env value always)
            (fun state : ReadState => state.config.active)
            (fun so state => related so state.config.options)
            (fun _ _ _ _ _ hBefore hRead =>
              readConfigLine_gathered hKept hBefore hRead)
            hBefore hRun

/- Over all texts, from the options that are unset. -/
theorem readSources_gathered
    (hKept : KeptByLines value always related)
    (hStart : related [] initializeOptions)
    {sources : List ConfigSource}
    (hFit : ∀ source ∈ sources, source.Fits)
    {options : Options}
    (hRead : readSources env host sources = .ok options) :
    related
      (sources.flatMap (sourceValues env host value always))
      options := by
  have hRun :=
    run_gathered (fun _ => none)
      (fun _ => sourceValues env host value always)
      (fun _ => true) related
      (fun so options options' source hSource hBefore hRead =>
        ⟨rfl, readSource_gathered hKept (hFit source hSource)
          hBefore hRead⟩)
      hStart hRead
  rwa [List.nil_append,
    gathered_unguarded] at hRun

end Gathering

end Ssh1

------------------------------------------------------------
-- What Was Gathered
------------------------------------------------------------

namespace Ssh1

open FirstValue
open QuotedText (Text)

section Gathered

variable {α : Type}
variable {env : ReadconfEnv} {host : Text}
variable {value : Setting → Option α}

theorem filterMap_settingOf
    (lines : List Text) :
    (lines.filterMap (settingOf env)).filterMap value =
      lines.flatMap fun line =>
        ((settingOf env line).bind value).toList := by
  rw [List.filterMap_filterMap,
    List.filterMap_eq_flatMap_toList]

/- A line that begins a section gives no value. -/
theorem toList_eq_nil_of_headingOf
    (hHost : ∀ patterns, value (.host patterns) = none)
    {line : Text}
    (hHeading : headingOf env host line ≠ none) :
    ((settingOf env line).bind value).toList = [] := by
  rw [headingOf] at hHeading
  cases hSetting : settingOf env line with
  | none => rfl
  | some setting =>
      cases setting with
      | host patterns => simp [hHost]
      | _ => simp [hSetting] at hHeading

theorem sourceValues_eq_active
    (hHost : ∀ patterns, value (.host patterns) = none)
    (sources : List ConfigSource) :
    sources.flatMap (sourceValues env host value false) =
      (activeSettings env host sources).filterMap value := by
  rw [activeSettings, filterMap_settingOf, activeLines,
    List.flatMap_assoc]
  congr 1
  funext source
  rw [← gathered_guarded (headingOf env host)
    (fun line => ((settingOf env line).bind value).toList)
    (fun _ => toList_eq_nil_of_headingOf hHost) true
    source.lines, sourceValues]
  congr 1
  funext active line
  rw [lineValues, Bool.or_false, inEffect]

theorem mem_allSettings_of_active
    {sources : List ConfigSource}
    {setting : Setting}
    (hSetting :
      setting ∈ activeSettings env host sources) :
    setting ∈ allSettings env sources := by
  rcases List.mem_filterMap.mp hSetting with
    ⟨line, hLine, hOf⟩
  rcases List.mem_flatMap.mp hLine with
    ⟨source, hSource, hActive⟩
  exact List.mem_filterMap.mpr ⟨line,
    List.mem_flatMap.mpr
      ⟨source, hSource, mem_of_mem_activeItems hActive⟩,
    hOf⟩

theorem sourceValues_eq_all
    (sources : List ConfigSource) :
    sources.flatMap (sourceValues env host value true) =
      (allSettings env sources).filterMap value := by
  rw [allSettings, filterMap_settingOf, List.flatMap_assoc]
  congr 1
  funext source
  rw [← gathered_unguarded (headingOf env host)
    (fun line => ((settingOf env line).bind value).toList)
    true source.lines, sourceValues]
  congr 1
  funext active line
  rw [lineValues, Bool.or_true]
  rfl

end Gathered

variable {env : ReadconfEnv} {host : Text}
variable {sources : List ConfigSource}
variable {options : Options}

theorem ints_keptByLines
    (intptr : IntOption) :
    KeptByLines (Setting.intValue intptr) false
      fun so options =>
        options.ints intptr =
          so.foldl (assignUnset (-1)) (-1) := by
  intro host so setting state state' hBefore hEffect
  rw [hEffect.ints, hBefore, List.foldl_append,
    Bool.or_false]

theorem ints_readSources
    (hFit : ∀ source ∈ sources, source.Fits)
    (hRead : readSources env host sources = .ok options)
    (intptr : IntOption) :
    options.ints intptr =
      ((activeSettings env host sources).filterMap
        (Setting.intValue intptr)).foldl
          (assignUnset (-1)) (-1) := by
  have hGathered := readSources_gathered
    (ints_keptByLines intptr) rfl hFit hRead
  rwa [sourceValues_eq_active fun _ => rfl] at hGathered

/-
  The first value of a string can be expanded, as the string
  is unset then.
-/
theorem strings_keptByLines
    (charptr : StringOption) :
    KeptByLines (Setting.stringValue charptr)
      (decide (charptr = .xauthPath))
      fun so options =>
        options.strings charptr =
            so.foldl (assignUnset none) none ∧
          so.head? ≠ some none := by
  intro host so setting state state' hBefore hEffect
  rcases hBefore with
    ⟨hString, hFirst⟩
  refine ⟨?_, ?_⟩
  · rw [hEffect.strings, hString, List.foldl_append]
  · cases so with
    | cons first so => simpa using hFirst
    | nil =>
        have hValue := hEffect.expanded charptr hString
        rw [List.nil_append, inEffect]
        split
        · cases hSetting : setting.stringValue charptr with
          | none => simp
          | some value =>
              rw [hSetting] at hValue
              simpa using hValue
        · simp

theorem strings_readSources
    (hFit : ∀ source ∈ sources, source.Fits)
    (hRead : readSources env host sources = .ok options)
    (charptr : StringOption) :
    let values := sources.flatMap
      (sourceValues env host (Setting.stringValue charptr)
        (decide (charptr = .xauthPath)))
    options.strings charptr = values.head?.getD none ∧
      values.head? ≠ some none := by
  intro values
  have hGathered := readSources_gathered
    (strings_keptByLines charptr) ⟨rfl, nofun⟩ hFit hRead
  have hFirst :=
    (foldl_assignUnset_eq_first_iff values).mpr
      fun hNone => absurd hNone hGathered.2
  exact ⟨hGathered.1.trans hFirst, hGathered.2⟩

theorem lists_readSources
    {α : Type}
    {value : Setting → Option α}
    {field : Options → List α}
    (hHost : ∀ patterns, value (.host patterns) = none)
    (hField : ∀ host setting state state',
      LineEffect host setting state state' →
      field state'.options =
        field state.options ++
          inEffect state.active (value setting))
    (hStart : field initializeOptions = [])
    (hFit : ∀ source ∈ sources, source.Fits)
    (hRead : readSources env host sources = .ok options) :
    field options =
      (activeSettings env host sources).filterMap value := by
  have hKept : KeptByLines value false
      fun so options => field options = so := by
    intro host so setting state state' hBefore hEffect
    rw [hField host setting state state' hEffect, hBefore,
      Bool.or_false]
  have hGathered :=
    readSources_gathered hKept hStart hFit hRead
  rwa [sourceValues_eq_active hHost] at hGathered

/- Without a value among all, there is none among some. -/
theorem filterMap_activeSettings_eq_nil
    {α : Type}
    {value : Setting → Option α}
    (hNone : (allSettings env sources).filterMap value = []) :
    (activeSettings env host sources).filterMap value =
      [] := by
  rw [List.filterMap_eq_nil_iff] at hNone ⊢
  intro setting hSetting
  exact hNone setting (mem_allSettings_of_active hSetting)

/- The path of xauth is the first of all sections. -/
theorem xauthPath_readSources_iff
    (hFit : ∀ source ∈ sources, source.Fits)
    (hRead : readSources env host sources = .ok options) :
    options.strings .xauthPath =
        ((activeSettings env host sources).filterMap
          (Setting.stringValue .xauthPath)).head?.getD none ↔
      FirstXauthActive env host sources := by
  rcases strings_readSources hFit hRead .xauthPath with
    ⟨hFirst, hNamed⟩
  simp only [decide_true] at hFirst hNamed
  rw [sourceValues_eq_all] at hFirst hNamed
  rw [FirstXauthActive, hFirst]
  constructor
  · intro hSame
    cases hAll : (allSettings env sources).filterMap
        (Setting.stringValue .xauthPath) with
    | nil => rw [filterMap_activeSettings_eq_nil hAll]
    | cons first others =>
        rw [hAll] at hSame hNamed
        cases hActive :
            (activeSettings env host sources).filterMap
              (Setting.stringValue .xauthPath) with
        | nil =>
            rw [hActive] at hSame
            simp only [List.head?_cons, Option.getD_some,
              List.head?_nil, Option.getD_none] at hSame
            rw [hSame] at hNamed
            exact absurd rfl hNamed
        | cons active others =>
            rw [hActive] at hSame
            simpa using hSame
  · intro hSame
    rw [hSame]

/- The options after a run, compared with the first values. -/
theorem firstValueWins_iff
    (hFit : ∀ source ∈ sources, source.Fits)
    (hRead : readSources env host sources = .ok options) :
    FirstValueWins env host sources options ↔
      FirstXauthActive env host sources ∧
        NumbersSet env host sources := by
  have hInts (intptr : IntOption) :
      options.ints intptr =
          ((activeSettings env host sources).filterMap
            (Setting.intValue intptr)).head?.getD (-1) ↔
        (((activeSettings env host sources).filterMap
            (Setting.intValue intptr)).head? = some (-1) →
          ∀ value ∈
              (activeSettings env host sources).filterMap
                (Setting.intValue intptr),
            value = -1) := by
    rw [ints_readSources hFit hRead]
    exact foldl_assignUnset_eq_first_iff _
  have hStrings (charptr : StringOption)
      (hField : charptr ≠ .xauthPath) :
      options.strings charptr =
        ((activeSettings env host sources).filterMap
          (Setting.stringValue charptr)).head?.getD none := by
    have hFirst := (strings_readSources hFit hRead charptr).1
    simp only [decide_eq_false hField] at hFirst
    rwa [sourceValues_eq_active fun _ => rfl] at hFirst
  have hXauth := xauthPath_readSources_iff hFit hRead
  constructor
  · intro hWins
    exact ⟨hXauth.mp (hWins.strings .xauthPath),
      fun intptr => (hInts intptr).mp (hWins.ints intptr)⟩
  · rintro ⟨hActive, hSet⟩
    exact {
      ints := fun intptr => (hInts intptr).mpr (hSet intptr)
      strings := by
        intro charptr
        by_cases hField : charptr = .xauthPath
        · subst hField
          exact hXauth.mpr hActive
        · exact hStrings charptr hField
      identityFiles :=
        lists_readSources (fun _ => rfl)
          (fun _ _ _ _ hEffect => hEffect.identityFiles)
          rfl hFit hRead
      localForwards :=
        lists_readSources (fun _ => rfl)
          (fun _ _ _ _ hEffect => hEffect.localForwards)
          rfl hFit hRead
      remoteForwards :=
        lists_readSources (fun _ => rfl)
          (fun _ _ _ _ hEffect => hEffect.remoteForwards)
          rfl hFit hRead }

end Ssh1

------------------------------------------------------------
-- First Value Wins
------------------------------------------------------------

namespace Ssh1

open QuotedText (Text)

variable {env : ReadconfEnv} {host : Text}
variable {sources : List ConfigSource}

/-
  Texts with lines that fit into the line buffer, and that
  are accepted: the options have their first values exactly
  if the first path of xauth is in effect and no number is
  the one that means unset.
-/
theorem readSources_firstValueWins_iff
    (hFit : ∀ source ∈ sources, source.Fits)
    (hAccepted :
      (readSources env host sources).isOk = true) :
    (∃ options,
        readSources env host sources = .ok options ∧
          FirstValueWins env host sources options) ↔
      FirstXauthActive env host sources ∧
        NumbersSet env host sources := by
  cases hRead : readSources env host sources with
  | error halt =>
      rw [hRead] at hAccepted
      cases hAccepted
  | ok options =>
      rw [← firstValueWins_iff hFit hRead]
      constructor
      · rintro ⟨same, hSame, hWins⟩
        cases hSame
        exact hWins
      · intro hWins
        exact ⟨options, rfl, hWins⟩

end Ssh1

------------------------------------------------------------
-- Long Lines and Sections
------------------------------------------------------------

namespace Ssh1

open QuotedText (Text)

/-
  A line is cut where the buffer is full. What stands behind
  the cut is read like a file of its own, also where the line
  is a comment.
-/
theorem configPieces_longLine
    {start : Text}
    (hLength : start.length = configLineSize - 1)
    (hLine : '\n' ∉ start)
    (rest : Text) :
    configPieces (start ++ rest) =
      start :: configPieces rest := by
  have hGets :
      userfileGets (configLineSize - 1) (start ++ rest) =
        (start, rest) := by
    rw [← hLength]
    exact userfileGets_full rest hLine
  have hFuel :
      (start ++ rest).length = rest.length + 1022 + 1 := by
    rw [List.length_append, hLength, Nat.add_comm]
    rfl
  rw [configPieces, hFuel, readPieces, hGets]
  cases start with
  | nil => simp [configLineSize] at hLength
  | cons c start =>
      simp only [readPieces_add_fuel configLineSize
        rest.length 1022 (Nat.le_refl _)]
      rfl

/- A client whose user has a home directory. -/
def readconfEnv : ReadconfEnv where
  isRoot := false
  build := {
    withNone := true
    withIdea := true
    withDes := true
    withArcfour := true
    withBlowfish := true }
  ownHome := some "/home/me".toList
  homeOf := fun _ => none

/- Sections for two hosts, one of which is `a.com`. -/
def bookSections : List ConfigSource :=
  [.option [] "Port=22".toList,
    .file "config".toList
      (some ("Host *.fi\nPort 23\n" ++
        "Host a.com\nXauthLocation ~/x\n").toList)]

theorem readSources_firstValueWins_iff_books :
    (∀ source ∈ bookSections, source.Fits) ∧
      (readSources readconfEnv "a.com".toList
        bookSections).isOk = true ∧
      ((∃ options,
          readSources readconfEnv "a.com".toList
              bookSections = .ok options ∧
            FirstValueWins readconfEnv "a.com".toList
              bookSections options) ↔
        FirstXauthActive readconfEnv "a.com".toList
            bookSections ∧
          NumbersSet readconfEnv "a.com".toList
            bookSections) := by
  have hFit : ∀ source ∈ bookSections, source.Fits := by
    simp only [bookSections, List.forall_mem_cons]
    refine ⟨trivial, ?_, nofun⟩
    intro text hText
    cases hText
    decide
  have hAccepted :
      (readSources readconfEnv "a.com".toList
        bookSections).isOk = true := by
    decide +kernel
  exact ⟨hFit, hAccepted,
    readSources_firstValueWins_iff hFit hAccepted⟩

/- A path for xauth in a section for another host. -/
def otherSection : List ConfigSource :=
  [.file "config".toList
    (some "Host books.com\nXauthLocation /xauth\n".toList)]

/- The path is taken although the section is not active. -/
theorem readSources_not_firstValueWins :
    ¬ ∀ (env : ReadconfEnv)
        (host : Text)
        (sources : List ConfigSource),
      (readSources env host sources).isOk = true →
        ∃ options,
          readSources env host sources = .ok options ∧
            FirstValueWins env host sources options := by
  intro hAll
  have hTaken :
      readSources readconfEnv "fake.com".toList
          otherSection =
        .ok (initializeOptions.setString .xauthPath
          "/xauth".toList) := by
    rfl
  rcases hAll readconfEnv "fake.com".toList otherSection
      (by rw [hTaken]; rfl) with
    ⟨options, hRead, hWins⟩
  rw [hTaken] at hRead
  cases hRead
  have hNone :
      activeSettings readconfEnv "fake.com".toList
        otherSection = [] := by
    decide +kernel
  have hString := hWins.strings .xauthPath
  rw [hNone] at hString
  cases hString

end Ssh1
