import Ssh1.Base.Halt
import Ssh1.Base.Unsigned
import Ssh1.Auth.AuthorizedKeys
import Ssh1.Lib.KeyedList
import Ssh1.Lib.MemoryBlock

/-
  The environment of the user's command.

  The environment is an array of strings `name=value` that
  ends with a null pointer and grows as variables are added.
  Variables are set one by one, or read from a file.

  Main declarations:
    * `ChildEnv`, `childSetEnv`
    * `readEnvironmentFile`
    * `lineAssignment`
    * `RefinesMap`
    * `runEnvironment_refinesMap`
-/

------------------------------------------------------------
-- The Array
------------------------------------------------------------

namespace Ssh1

open QuotedText (Text)

/- A cell of the array. -/
inductive EnvSlot where
  -- memory that was not written yet
  | unset
  | null
  | string (s : Text)
  deriving DecidableEq

/- The variables `env` and `envsize`. -/
structure ChildEnv where
  env : List EnvSlot
  envsize : Nat

/- The environment that `do_child` starts with. -/
def ChildEnv.init : ChildEnv where
  env := .null :: List.replicate 99 .unset
  envsize := 100

/- `xrealloc` of the array -/
def reallocEnv
    (env : List EnvSlot)
    (envsize : Nat) : List EnvSlot :=
  (env ++
    List.replicate (envsize - env.length)
      EnvSlot.unset).take envsize

/- Whether the string sets the variable. -/
def setsVariable
    (name : Text)
    (namelen : Nat)
    (s : Text) : Bool :=
  s.take namelen = name.take namelen ∧
    s[namelen]? = some '='

/-
  The slot of the variable, and whether it exists: without
  it, the slot of the null pointer.
-/
def findSlot
    (name : Text)
    (namelen : Nat) :
    (i : Nat) → List EnvSlot → Outcome (Nat × Bool)
| _, [] => .error .outOfBounds
| _, .unset :: _ => .error .outOfBounds
| i, .null :: _ => .ok (i, false)
| i, .string s :: env =>
    if setsVariable name namelen s then
      .ok (i, true)
    else
      findSlot name namelen (i + 1) env

/- Expands the array if necessary. -/
def ChildEnv.expand
    (e : ChildEnv)
    (i : Nat) : ChildEnv :=
  if i ≥ u32Sub e.envsize 1 then
    let envsize := u32 (e.envsize + 50)
    { env := reallocEnv e.env envsize, envsize := envsize }
  else
    e

/- Stores a pointer in the array. -/
def ChildEnv.store
    (e : ChildEnv)
    (i : Nat)
    (slot : EnvSlot) : Outcome ChildEnv := do
  let env ←
    MemoryBlock.store Halt.outOfBounds e.env i [slot]
  return { e with env := env }

/- A string of the environment. -/
def envString (name value : Text) : Text :=
  name ++ '=' :: value

/- Sets the value of the given variable. -/
def childSetEnv
    (e : ChildEnv)
    (name value : Text) : Outcome ChildEnv := do
  let namelen := u32 name.length
  let (i, exists') ← findSlot name namelen 0 e.env
  let e ←
    if exists' then
      .ok e
    else
      (e.expand i).store (i + 1) .null
  e.store i (.string (envString name value))

/- The buffer `buf` of `read_environment_file`. -/
def envLineSize : Nat := 4096

/-
  The variable and the value that a line sets. A line without
  an equals sign is reported and ignored.
-/
def envAssignment (buf : Text) : Option (Text × Text) :=
  let cp := skipBlanks (lineText buf)
  if isEmptyOrComment cp then
    none
  else
    let cp := cp.takeWhile (· ≠ '\n')
    if '=' ∈ cp then
      some (cp.takeWhile (· ≠ '='),
        (cp.dropWhile (· ≠ '=')).tail)
    else
      none

/- Sets a variable that was read. -/
def setAssignment
    (e : ChildEnv)
    (assignment : Text × Text) : Outcome ChildEnv :=
  childSetEnv e assignment.1 assignment.2

/- Reads environment variables from the given file. -/
def readEnvironmentFile
    (e : ChildEnv)
    (file : Option Text) : Outcome ChildEnv :=
  match file with
  | none => .ok e
  | some file =>
      FallibleRun.run setAssignment e
        ((readPieces envLineSize file.length file).filterMap
          envAssignment)

end Ssh1

------------------------------------------------------------
-- The Map
------------------------------------------------------------

namespace Ssh1

open QuotedText (Text)

/- The strings in front of the null pointer. -/
def ChildEnv.variables (e : ChildEnv) : List Text :=
  go e.env
where
  go : List EnvSlot → List Text
  | .string s :: env => s :: go env
  | _ => []

/- The name that a string sets. -/
def envName (s : Text) : Text :=
  s.takeWhile (· ≠ '=')

/- Values of variables by their names. -/
abbrev EnvMap := Text → Option Text

/- The variable gets the value. -/
def EnvMap.set
    (map : EnvMap)
    (assignment : Text × Text) : EnvMap :=
  Function.update map assignment.1 (some assignment.2)

/-
  The array ends with a null pointer within its size, holds
  at most one string for each name, and its strings are the
  values of the map.
-/
structure RefinesMap
    (e : ChildEnv)
    (map : EnvMap) : Prop where
  size : e.env.length = e.envsize
  within : e.variables.length < e.envsize
  terminated : e.env[e.variables.length]? = some .null
  once : (e.variables.map envName).Nodup
  values : ∀ name value, '=' ∉ name →
    (map name = some value ↔
      envString name value ∈ e.variables)

/- The array holds the strings of the entries in order. -/
structure Represents
    (e : ChildEnv)
    (entries : List (Text × Text)) : Prop where
  env : ∃ rest,
    e.env =
      entries.map (fun entry =>
        .string (envString entry.1 entry.2)) ++
        .null :: rest
  size : e.env.length = e.envsize
  word : e.envsize < 2 ^ 32
  room : 1 < e.envsize
  names : ∀ entry ∈ entries, '=' ∉ entry.1
  distinct : KeyedList.Distinct Prod.fst entries

/- The value of a name among the entries. -/
def entryMap (entries : List (Text × Text)) : EnvMap :=
  fun name =>
    (KeyedList.lookup Prod.fst entries name).map Prod.snd

/- A string has one name only. -/
theorem envName_envString
    {name : Text}
    (value : Text)
    (hName : '=' ∉ name) :
    envName (envString name value) = name := by
  rw [envName, envString, List.takeWhile_append_of_pos]
  · simp
  · intro c hMem
    have hOther : c ≠ '=' := fun hSame => hName (hSame ▸ hMem)
    simp [hOther]

/- The first equals sign separates. -/
theorem envString_inj
    {name name' value value' : Text}
    (hName : '=' ∉ name)
    (hName' : '=' ∉ name')
    (hSame :
      envString name value = envString name' value') :
    name = name' ∧ value = value' := by
  have hNames : name = name' := by
    rw [← envName_envString value hName, hSame,
      envName_envString value' hName']
  subst hNames
  simpa [envString] using hSame

/- The comparison finds the strings of the variable. -/
theorem setsVariable_iff
    {name s : Text} :
    setsVariable name name.length s = true ↔
      ∃ value, s = envString name value := by
  simp only [setsVariable, List.take_length,
    decide_eq_true_eq]
  constructor
  · rintro ⟨hTake, hEquals⟩
    refine ⟨s.drop (name.length + 1), ?_⟩
    have hDrop :
        s.drop name.length =
          '=' :: s.drop (name.length + 1) := by
      rcases List.getElem?_eq_some_iff.mp hEquals with
        ⟨hLess, hChar⟩
      rw [List.drop_eq_getElem_cons hLess, hChar]
    rw [envString, ← hDrop]
    conv => lhs; rw [← List.take_append_drop name.length s]
    rw [hTake]
  · rintro ⟨value, rfl⟩
    rw [envString]
    exact ⟨List.take_left, by simp⟩

theorem setsVariable_envString
    {name name' : Text}
    (value' : Text)
    (hName : '=' ∉ name)
    (hName' : '=' ∉ name') :
    setsVariable name name.length (envString name' value') =
        true ↔
      name' = name := by
  rw [setsVariable_iff]
  constructor
  · rintro ⟨value, hSame⟩
    exact (envString_inj hName' hName hSame).1
  · rintro rfl
    exact ⟨value', rfl⟩

namespace Represents

variable {e : ChildEnv}
variable {entries : List (Text × Text)}

/- The variables up to the first null. -/
theorem variables_go_append
    (rest : List EnvSlot) :
    ChildEnv.variables.go
        (entries.map (fun entry =>
          EnvSlot.string (envString entry.1 entry.2)) ++
          .null :: rest) =
      entries.map fun entry => envString entry.1 entry.2 := by
  induction entries with
  | nil => rfl
  | cons entry entries ih =>
      rw [List.map_cons, List.cons_append,
        ChildEnv.variables.go, ih, List.map_cons]

/- The strings that the array holds. -/
theorem variables_eq
    (hRepresents : Represents e entries) :
    e.variables =
      entries.map fun entry => envString entry.1 entry.2 := by
  rcases hRepresents.env with
    ⟨rest, hEnv⟩
  rw [ChildEnv.variables, hEnv, variables_go_append]

theorem names_eq
    (hRepresents : Represents e entries) :
    e.variables.map envName = entries.map Prod.fst := by
  rw [hRepresents.variables_eq, List.map_map]
  apply List.map_congr_left
  intro entry hEntry
  exact envName_envString entry.2
    (hRepresents.names entry hEntry)

/- There is room for the null. -/
theorem length_lt
    (hRepresents : Represents e entries) :
    entries.length < e.envsize := by
  rcases hRepresents.env with
    ⟨rest, hEnv⟩
  rw [← hRepresents.size, hEnv, List.length_append,
    List.length_map, List.length_cons]
  omega

/- The array refines the map of its entries. -/
theorem refinesMap
    (hRepresents : Represents e entries) :
    RefinesMap e (entryMap entries) := by
  have hVariables := hRepresents.variables_eq
  have hLength : e.variables.length = entries.length := by
    rw [hVariables, List.length_map]
  refine ⟨hRepresents.size, ?_, ?_, ?_, ?_⟩
  · rw [hLength]
    exact hRepresents.length_lt
  · rcases hRepresents.env with
      ⟨rest, hEnv⟩
    rw [hLength, hEnv]
    simp
  · rw [hRepresents.names_eq]
    exact hRepresents.distinct
  · intro name value hName
    rw [hVariables]
    constructor
    · intro hValue
      rcases Option.map_eq_some_iff.mp hValue with
        ⟨entry, hFound, rfl⟩
      have hEntry :=
        (KeyedList.lookup_eq_some_iff
          hRepresents.distinct).mp hFound
      rw [← hEntry.2]
      exact List.mem_map_of_mem hEntry.1
    · intro hMem
      rcases List.mem_map.mp hMem with
        ⟨entry, hEntry, hSame⟩
      have hParts :=
        envString_inj (hRepresents.names entry hEntry)
          hName hSame
      have hFound :
          KeyedList.lookup Prod.fst entries name =
            some entry :=
        (KeyedList.lookup_eq_some_iff
          hRepresents.distinct).mpr ⟨hEntry, hParts.1⟩
      rw [entryMap, hFound, Option.map_some, hParts.2]

end Represents

end Ssh1

------------------------------------------------------------
-- Setting a Variable
------------------------------------------------------------

namespace Ssh1

open QuotedText (Text)

/- A pointer that is stored behind some others. -/
theorem store_mk
    (front rest : List EnvSlot)
    (old slot : EnvSlot)
    (envsize : Nat) :
    (ChildEnv.mk (front ++ old :: rest) envsize).store
        front.length slot =
      .ok (.mk (front ++ slot :: rest) envsize) := by
  have hFits :
      front.length + [slot].length ≤
        (front ++ old :: rest).length := by
    rw [List.length_append, List.length_cons,
      List.length_cons, List.length_nil]
    omega
  simp only [ChildEnv.store, MemoryBlock.store_of_le hFits,
    MemoryBlock.patch_append_cons, FallibleRun.ok_bind,
    FallibleRun.pure_eq_ok]

/- The slots of the entries. -/
def entrySlots (entries : List (Text × Text)) : List EnvSlot :=
  entries.map fun entry =>
    .string (envString entry.1 entry.2)

@[simp] theorem length_entrySlots
    (entries : List (Text × Text)) :
    (entrySlots entries).length = entries.length := by
  simp [entrySlots]

/-
  The variable exists, or the array has a slot for it, or the
  array grows without an overflow of its size.
-/
def HasRoom (e : ChildEnv) (name : Text) : Prop :=
  name ∈ e.variables.map envName ∨
    e.variables.length + 1 < e.envsize ∨
    e.envsize + 50 < 2 ^ 32

/- Strings of other variables are passed over. -/
theorem findSlot_append
    {name : Text}
    {entries : List (Text × Text)}
    (hName : '=' ∉ name)
    (hNames : ∀ entry ∈ entries, '=' ∉ entry.1)
    (hOther : name ∉ entries.map Prod.fst)
    (i : Nat)
    (env : List EnvSlot) :
    findSlot name name.length i (entrySlots entries ++ env) =
      findSlot name name.length (i + entries.length) env := by
  induction entries generalizing i with
  | nil => rfl
  | cons entry entries ih =>
      rw [List.map_cons, List.mem_cons, not_or] at hOther
      have hEntry : '=' ∉ entry.1 := hNames entry (by simp)
      have hSkip :
          setsVariable name name.length
              (envString entry.1 entry.2) = false := by
        rw [← Bool.not_eq_true,
          setsVariable_envString entry.2 hName hEntry]
        exact Ne.symm hOther.1
      have hRest :=
        ih (fun other hMem => hNames other (by simp [hMem]))
          hOther.2 (i + 1)
      rw [entrySlots, List.map_cons, List.cons_append,
        findSlot, if_neg (by rw [hSkip]; decide)]
      rw [entrySlots] at hRest
      rw [hRest, List.length_cons]
      congr 1
      omega

namespace Represents

variable {e : ChildEnv}
variable {entries : List (Text × Text)}

theorem eq_mk
    (hRepresents : Represents e entries) :
    ∃ rest,
      e = .mk (entrySlots entries ++ .null :: rest)
        e.envsize := by
  rcases hRepresents.env with
    ⟨rest, hEnv⟩
  refine ⟨rest, ?_⟩
  rw [entrySlots, ← hEnv]

/- The string of a variable takes the place of another. -/
theorem store_string
    {before after : List (Text × Text)}
    {name old : Text}
    (value : Text)
    (hRepresents :
      Represents e (before ++ (name, old) :: after)) :
    ∃ e',
      e.store before.length
          (.string (envString name value)) = .ok e' ∧
        Represents e'
          (before ++ (name, value) :: after) := by
  rcases hRepresents.eq_mk with
    ⟨rest, hMk⟩
  have hSize := hRepresents.size
  have hWord := hRepresents.word
  have hRoom := hRepresents.room
  generalize e.envsize = envsize at hMk hSize hWord hRoom
  subst hMk
  have hStore :=
    store_mk (entrySlots before)
      (entrySlots after ++ .null :: rest)
      (.string (envString name old))
      (.string (envString name value)) envsize
  rw [length_entrySlots] at hStore
  refine ⟨.mk (entrySlots (before ++ (name, value) :: after) ++
    .null :: rest) envsize, ?_,
    ⟨⟨rest, rfl⟩, ?_, hWord, hRoom, ?_, ?_⟩⟩
  · simpa [entrySlots] using hStore
  · rw [← hSize]
    simp
  · intro entry hEntry
    have hNames := hRepresents.names
    simp only [List.mem_append, List.mem_cons] at hEntry hNames
    rcases hEntry with hBefore | rfl | hAfter
    · exact hNames entry (Or.inl hBefore)
    · exact hNames (name, old) (Or.inr (Or.inl rfl))
    · exact hNames entry (Or.inr (Or.inr hAfter))
  · have hDistinct := hRepresents.distinct
    rw [KeyedList.Distinct, List.map_append,
      List.map_cons] at hDistinct ⊢
    exact hDistinct

/- Behind the null pointer there is a slot for another one. -/
theorem expand_eq
    (hRepresents : Represents e entries)
    (hRoom :
      entries.length + 1 < e.envsize ∨
        e.envsize + 50 < 2 ^ 32) :
    ∃ next rest envsize,
      e.expand entries.length =
          .mk (entrySlots entries ++ .null :: next :: rest)
            envsize ∧
        entries.length + 2 + rest.length = envsize ∧
        envsize < 2 ^ 32 := by
  rcases hRepresents.env with
    ⟨rest, hEnv⟩
  have hSize := hRepresents.size
  have hWord := hRepresents.word
  have hSome := hRepresents.room
  have hLength := congrArg List.length hEnv
  rw [List.length_append, List.length_map,
    List.length_cons, hSize] at hLength
  have hLast : u32Sub e.envsize 1 = e.envsize - 1 :=
    u32Sub_of_le hSome.le hWord
  by_cases hFull : entries.length ≥ u32Sub e.envsize 1
  · have hGrows : e.envsize + 50 < 2 ^ 32 := by
      omega
    have hSum : u32 (e.envsize + 50) = e.envsize + 50 :=
      u32_of_lt hGrows
    have hNew :
        reallocEnv e.env (e.envsize + 50) =
          e.env ++ List.replicate 50 .unset := by
      rw [reallocEnv, hSize, Nat.add_sub_cancel_left]
      apply List.take_of_length_le
      rw [List.length_append, List.length_replicate, hSize]
    have hRest : rest = [] :=
      List.length_eq_zero_iff.mp (by omega)
    refine ⟨.unset, List.replicate 49 .unset,
      e.envsize + 50, ?_, ?_, hGrows⟩
    · rw [ChildEnv.expand, if_pos hFull]
      simp only [hSum]
      rw [hNew, hEnv, hRest, ← entrySlots,
        List.append_assoc]
      rfl
    · rw [List.length_replicate]
      rw [hRest, List.length_nil] at hLength
      omega
  · rcases rest with
      - | ⟨next, rest⟩
    · rw [List.length_nil] at hLength
      omega
    · refine ⟨next, rest, e.envsize, ?_, ?_, hWord⟩
      · rw [ChildEnv.expand, if_neg hFull, entrySlots,
          ← hEnv]
      · rw [List.length_cons] at hLength
        omega

/- A name without a string gets one at the end. -/
theorem store_new
    {name : Text}
    (value : Text)
    (hRepresents : Represents e entries)
    (hRoom :
      entries.length + 1 < e.envsize ∨
        e.envsize + 50 < 2 ^ 32)
    (hName : '=' ∉ name)
    (hNew : name ∉ entries.map Prod.fst) :
    ∃ e₁ e₂,
      (e.expand entries.length).store (entries.length + 1)
          .null = .ok e₁ ∧
        e₁.store entries.length
          (.string (envString name value)) = .ok e₂ ∧
        Represents e₂ (entries ++ [(name, value)]) := by
  rcases hRepresents.expand_eq hRoom with
    ⟨next, rest, envsize, hGrown, hSize, hWord⟩
  have hNull :=
    store_mk (entrySlots entries ++ [.null]) rest next .null
      envsize
  have hString :=
    store_mk (entrySlots entries) (.null :: rest) .null
      (.string (envString name value)) envsize
  rw [List.append_assoc, List.append_assoc,
    List.length_append, length_entrySlots] at hNull
  rw [length_entrySlots] at hString
  rw [hGrown]
  have hSome : 1 < envsize := by
    omega
  refine ⟨_, _, hNull, hString, ⟨⟨rest, ?_⟩, ?_, hWord,
    hSome, ?_, ?_⟩⟩
  · simp [entrySlots]
  · rw [← hSize]
    simp only [List.length_append, length_entrySlots,
      List.length_cons]
    omega
  · intro entry hEntry
    rcases List.mem_append.mp hEntry with
      hOld | hLast
    · exact hRepresents.names entry hOld
    · rw [List.mem_singleton.mp hLast]
      exact hName
  · have hDistinct := hRepresents.distinct
    rw [KeyedList.Distinct] at hDistinct
    rw [KeyedList.Distinct, List.map_append,
      List.nodup_append]
    refine ⟨hDistinct, by simp, ?_⟩
    intro other hOther last hLast hSame
    rw [List.map_singleton, List.mem_singleton] at hLast
    rw [hSame, hLast] at hOther
    exact hNew hOther

/- A variable that exists is found in its slot. -/
theorem findSlot_of_entry
    {before after : List (Text × Text)}
    {name old : Text}
    (hRepresents :
      Represents e (before ++ (name, old) :: after)) :
    name ∉ before.map Prod.fst ∧
      findSlot name name.length 0 e.env =
        .ok (before.length, true) := by
  have hDistinct := hRepresents.distinct
  rw [KeyedList.Distinct, List.map_append, List.map_cons,
    List.nodup_append] at hDistinct
  have hOther : name ∉ before.map Prod.fst := by
    intro hMem
    exact hDistinct.2.2 name hMem name (by simp) rfl
  have hName : '=' ∉ name :=
    hRepresents.names (name, old) (by simp)
  rcases hRepresents.env with
    ⟨rest, hEnv⟩
  have hSplit :
      e.env =
        entrySlots before ++
          (.string (envString name old) ::
            (entrySlots after ++ .null :: rest)) := by
    rw [hEnv]
    simp [entrySlots]
  have hFound :
      setsVariable name name.length (envString name old) =
        true :=
    (setsVariable_envString old hName hName).mpr rfl
  refine ⟨hOther, ?_⟩
  rw [hSplit, findSlot_append hName
    (fun entry hMem => hRepresents.names entry (by
      simp [hMem])) hOther, Nat.zero_add, findSlot,
    if_pos hFound]

/- Otherwise the slot is the one of the null pointer. -/
theorem findSlot_of_new
    {name : Text}
    (hRepresents : Represents e entries)
    (hName : '=' ∉ name)
    (hNew : name ∉ entries.map Prod.fst) :
    findSlot name name.length 0 e.env =
      .ok (entries.length, false) := by
  rcases hRepresents.env with
    ⟨rest, hEnv⟩
  rw [← entrySlots] at hEnv
  rw [hEnv, findSlot_append hName hRepresents.names hNew,
    Nat.zero_add, findSlot]

/- Setting a variable puts it among the entries. -/
theorem childSetEnv_eq
    {name : Text}
    (value : Text)
    (hRepresents : Represents e entries)
    (hName : '=' ∉ name)
    (hWord : name.length < 2 ^ 32)
    (hRoom : HasRoom e name) :
    ∃ e',
      childSetEnv e name value = .ok e' ∧
        Represents e'
          (KeyedList.put Prod.fst entries (name, value)) := by
  rw [childSetEnv, u32_of_lt hWord]
  by_cases hOld : name ∈ entries.map Prod.fst
  · rcases List.mem_map.mp hOld with
      ⟨⟨found, old⟩, hEntry, hSame⟩
    have hFoundName : found = name := hSame
    subst hFoundName
    rcases List.append_of_mem hEntry with
      ⟨before, after, rfl⟩
    rcases hRepresents.findSlot_of_entry with
      ⟨hBefore, hFound⟩
    rcases hRepresents.store_string value with
      ⟨e', hStore, hStored⟩
    refine ⟨e', ?_, ?_⟩
    · rw [hFound, FallibleRun.ok_bind]
      exact hStore
    · have hPut :=
        KeyedList.put_append_cons (found, value)
          (found, old) after hBefore rfl
      rw [hPut]
      exact hStored
  · have hLength :
        e.variables.length = entries.length := by
      rw [hRepresents.variables_eq, List.length_map]
    have hMore :
        entries.length + 1 < e.envsize ∨
          e.envsize + 50 < 2 ^ 32 := by
      rw [HasRoom, hRepresents.names_eq, hLength] at hRoom
      exact hRoom.resolve_left hOld
    rcases hRepresents.store_new value hMore hName
        hOld with
      ⟨e₁, e₂, hNull, hStore, hStored⟩
    refine ⟨e₂, ?_, ?_⟩
    · rw [hRepresents.findSlot_of_new hName hOld,
        FallibleRun.ok_bind]
      simp only [Bool.false_eq_true, if_false, hNull,
        FallibleRun.ok_bind]
      exact hStore
    · rw [KeyedList.put_of_notMem hOld]
      exact hStored

end Represents

/- Putting an entry sets the value of its name. -/
theorem entryMap_put
    (entries : List (Text × Text))
    (assignment : Text × Text) :
    entryMap (KeyedList.put Prod.fst entries assignment) =
      (entryMap entries).set assignment := by
  funext name
  rw [entryMap, KeyedList.lookup_put, EnvMap.set,
    Function.update_apply]
  by_cases hName : assignment.1 = name
  · rw [if_pos hName, if_pos hName.symm, Option.map_some]
  · rw [if_neg hName, if_neg (Ne.symm hName), entryMap]

end Ssh1

------------------------------------------------------------
-- Lines of a File
------------------------------------------------------------

namespace Ssh1

open QuotedText (Text)

/- A line goes up to a newline, or to a zero byte. -/
def isLineEnd (c : Char) : Bool :=
  c = '\n' || c = Char.ofNat 0

/-
  A name that began with some characters, and the value that
  follows the first equals sign of the line.
-/
def nameAndValue (front : Text) : Text → Option (Text × Text)
| [] => none
| c :: line =>
    if isLineEnd c then
      none
    else if c = '=' then
      some (front, line.takeWhile fun c => !isLineEnd c)
    else
      nameAndValue (front ++ [c]) line

/-
  What a line of an environment file assigns. Blanks in front
  do not count, and a comment assigns nothing, nor does a
  line without an equals sign.
-/
def lineAssignment : Text → Option (Text × Text)
| [] => none
| c :: line =>
    if c = ' ' ∨ c = '\t' then
      lineAssignment line
    else if c = '#' then
      none
    else
      nameAndValue [] (c :: line)

/- The line as the function sees it, once it is cut. -/
theorem takeWhile_isLineEnd
    (line : Text) :
    (line.takeWhile fun c => !isLineEnd c) =
      (lineText line).takeWhile (· ≠ '\n') := by
  rw [lineText, List.takeWhile_takeWhile]
  congr 1
  funext c
  simp [isLineEnd]

/- A line up to its newline. -/
theorem nameAndValue_eq
    (front line : Text) :
    nameAndValue front line =
      let cp := (lineText line).takeWhile (· ≠ '\n')
      if '=' ∈ cp then
        some (front ++ cp.takeWhile (· ≠ '='),
          (cp.dropWhile (· ≠ '=')).tail)
      else
        none := by
  simp only [← takeWhile_isLineEnd]
  induction line generalizing front with
  | nil => rfl
  | cons c line ih =>
      rw [nameAndValue]
      cases hEnds : isLineEnd c with
      | true => simp [hEnds]
      | false =>
          by_cases hEquals : c = '='
          · subst hEquals
            simp [hEnds]
          · simp only [Bool.false_eq_true, if_false, hEquals,
              ih]
            simp [hEnds, hEquals, Ne.symm hEquals]

/- The function finds what the line assigns. -/
theorem envAssignment_eq
    (line : Text) :
    envAssignment line = lineAssignment line := by
  induction line with
  | nil => rfl
  | cons c line ih =>
      by_cases hZero : c = Char.ofNat 0
      · subst hZero
        have hOther :
            ¬ (Char.ofNat 0 = ' ' ∨ Char.ofNat 0 = '\t') ∧
              Char.ofNat 0 ≠ '#' := by
          decide
        rw [lineAssignment, if_neg hOther.1, if_neg hOther.2]
        rfl
      · have hText :
            lineText (c :: line) = c :: lineText line :=
          List.takeWhile_cons_of_pos (by simpa using hZero)
        rw [lineAssignment]
        by_cases hBlank : c = ' ' ∨ c = '\t'
        · have hSkip :
              skipBlanks (c :: lineText line) =
                skipBlanks (lineText line) :=
            List.dropWhile_cons_of_pos
              (by simpa [isBlank] using hBlank)
          rw [if_pos hBlank, ← ih]
          simp only [envAssignment, hText, hSkip]
        · have hStay :
              skipBlanks (c :: lineText line) =
                c :: lineText line :=
            List.dropWhile_cons_of_neg
              (by simpa [isBlank] using hBlank)
          rw [if_neg hBlank, nameAndValue_eq]
          simp only [envAssignment, hText, hStay,
            isEmptyOrComment, List.nil_append]
          by_cases hHash : c = '#'
          · simp [hHash]
          · by_cases hNewline : c = '\n'
            · simp [hNewline]
            · simp [hHash, hNewline]

/- What a line sets has a name without an equals sign. -/
theorem lineAssignment_name
    {line : Text}
    {assignment : Text × Text}
    (hSets : lineAssignment line = some assignment) :
    '=' ∉ assignment.1 ∧
      assignment.1.length ≤ line.length := by
  rw [← envAssignment_eq] at hSets
  simp only [envAssignment] at hSets
  split at hSets
  · cases hSets
  · split at hSets
    · cases hSets
      constructor
      · intro hMem
        have hOther := List.mem_takeWhile_imp hMem
        simp at hOther
      · apply List.Sublist.length_le
        exact (List.takeWhile_sublist _).trans
          ((List.takeWhile_sublist _).trans
            ((List.dropWhile_sublist _).trans
              (List.takeWhile_sublist _)))
    · cases hSets

end Ssh1

------------------------------------------------------------
-- Runs
------------------------------------------------------------

namespace Ssh1

open QuotedText (Text)

/- What changes the environment. -/
inductive EnvCall where
  | setEnv (name value : Text)
  -- a file that cannot be opened is `none`
  | readFile (file : Option Text)

/- The call on the array. -/
def EnvCall.step
    (e : ChildEnv) : EnvCall → Outcome ChildEnv
| .setEnv name value => childSetEnv e name value
| .readFile file => readEnvironmentFile e file

/- The assignments of the complete lines of a file. -/
def fileAssignments (file : Option Text) : List (Text × Text) :=
  match file with
  | none => []
  | some file => (fileLines file).filterMap lineAssignment

/- The call on the map. -/
def EnvCall.apply (map : EnvMap) : EnvCall → EnvMap
| .setEnv name value => map.set (name, value)
| .readFile file => (fileAssignments file).foldl EnvMap.set map

/-
  The name of the variable is free of equals signs and shorter
  than 2 to the power of 32, the lines of the file fit into
  the buffer, and the array has room for each variable.
-/
def EnvCall.Fits (e : ChildEnv) : EnvCall → Prop
| .setEnv name _ =>
    '=' ∉ name ∧ name.length < 2 ^ 32 ∧ HasRoom e name
| .readFile file =>
    (∀ line ∈ fileLines (file.getD []),
      line.length < envLineSize) ∧
      FallibleRun.Meets setAssignment (fun e assignment =>
        HasRoom e assignment.1) e (fileAssignments file)

/- The array refines the map, with entries in some order. -/
def Environment (e : ChildEnv) (map : EnvMap) : Prop :=
  ∃ entries, Represents e entries ∧ entryMap entries = map

/- What the array holds is what the map says. -/
theorem Environment.refinesMap
    {e : ChildEnv}
    {map : EnvMap}
    (hEnvironment : Environment e map) :
    RefinesMap e map := by
  rcases hEnvironment with
    ⟨entries, hRepresents, hMap⟩
  rw [← hMap]
  exact hRepresents.refinesMap

/- The array starts empty. -/
theorem environment_init :
    Environment .init fun _ => none := by
  refine ⟨[], ⟨⟨List.replicate 99 .unset, rfl⟩, ?_, ?_, ?_, ?_, ?_⟩,
    rfl⟩
  · simp [ChildEnv.init]
  · simp [ChildEnv.init]
  · simp [ChildEnv.init]
  · simp
  · simp [KeyedList.Distinct]

/- One call sets one variable. -/
theorem childSetEnv_environment
    {e : ChildEnv}
    {map : EnvMap}
    {name : Text}
    (value : Text)
    (hEnvironment : Environment e map)
    (hName : '=' ∉ name)
    (hWord : name.length < 2 ^ 32)
    (hRoom : HasRoom e name) :
    ∃ e',
      childSetEnv e name value = .ok e' ∧
        Environment e' (map.set (name, value)) := by
  rcases hEnvironment with
    ⟨entries, hRepresents, rfl⟩
  rcases hRepresents.childSetEnv_eq value hName hWord
      hRoom with
    ⟨e', hOk, hPut⟩
  exact ⟨e', hOk, _, hPut, entryMap_put entries _⟩

/- A file whose lines fit sets what its lines say. -/
theorem readEnvironmentFile_environment
    {e : ChildEnv}
    {map : EnvMap}
    {file : Option Text}
    (hEnvironment : Environment e map)
    (hLines : ∀ line ∈ fileLines (file.getD []),
      line.length < envLineSize)
    (hRoom :
      FallibleRun.Meets setAssignment (fun e assignment =>
        HasRoom e assignment.1) e (fileAssignments file)) :
    ∃ e',
      readEnvironmentFile e file = .ok e' ∧
        Environment e'
          ((fileAssignments file).foldl EnvMap.set map) := by
  cases file with
  | none => exact ⟨e, rfl, hEnvironment⟩
  | some file =>
      have hPieces :=
        readPieces_eq_fileLines file.length (le_refl _) hLines
      have hNames :
          ∀ assignment ∈ fileAssignments (some file),
            '=' ∉ assignment.1 ∧
              assignment.1.length < 2 ^ 32 := by
        intro assignment hMem
        rcases List.mem_filterMap.mp hMem with
          ⟨line, hLine, hSets⟩
        have hName := lineAssignment_name hSets
        have hShort : line.length < 4096 := hLines line hLine
        exact ⟨hName.1, by omega⟩
      rw [readEnvironmentFile, hPieces,
        funext envAssignment_eq]
      refine FallibleRun.run_simulates ?_
        (hRoom.and_forall hNames) hEnvironment
      intro e map assignment hHere hFits
      exact childSetEnv_environment assignment.2 hHere
        hFits.2.1 hFits.2.2 hFits.1

/- Every call acts on the array as on the map. -/
theorem EnvCall.step_environment
    {e : ChildEnv}
    {map : EnvMap}
    (call : EnvCall)
    (hEnvironment : Environment e map)
    (hFits : call.Fits e) :
    ∃ e',
      call.step e = .ok e' ∧
        Environment e' (call.apply map) := by
  cases call with
  | setEnv name value =>
      exact childSetEnv_environment value hEnvironment
        hFits.1 hFits.2.1 hFits.2.2
  | readFile file =>
      exact readEnvironmentFile_environment hEnvironment
        hFits.1 hFits.2

end Ssh1

------------------------------------------------------------
-- Main Results
------------------------------------------------------------

namespace Ssh1

open QuotedText (Text)

/-
  The environment is a map. In a run whose calls fit, the
  array ends with a null pointer within its size, holds one
  string for each name, and every name has the value of its
  last assignment: comments, blank lines and parts of lines
  assign nothing.
-/
theorem runEnvironment_refinesMap
    {calls : List EnvCall}
    (hFits :
      FallibleRun.Meets EnvCall.step (fun e call =>
        call.Fits e) .init calls) :
    ∃ e,
      FallibleRun.run EnvCall.step .init calls = .ok e ∧
        RefinesMap e
          (calls.foldl EnvCall.apply fun _ => none) := by
  rcases FallibleRun.run_simulates
      (fun _ _ call hHere hCall =>
        EnvCall.step_environment call hHere hCall)
      hFits environment_init with
    ⟨e, hRun, hEnvironment⟩
  exact ⟨e, hRun, hEnvironment.refinesMap⟩

/- An array that may still grow has room. -/
theorem hasRoom_of_envsize
    {e : ChildEnv}
    (name : Text)
    (hGrows : e.envsize + 50 < 2 ^ 32) :
    HasRoom e name :=
  Or.inr (Or.inr hGrows)

/- Some assignments, one of them read from a file. -/
def sampleEnvCalls : List EnvCall :=
  [.setEnv "A".toList "1".toList,
    .readFile (some "#A=2\nAB=3\n".toList)]

theorem runEnvironment_refinesMap_sample :
    ∃ e,
      FallibleRun.run EnvCall.step .init sampleEnvCalls =
          .ok e ∧
        RefinesMap e
          (sampleEnvCalls.foldl EnvCall.apply fun _ => none) := by
  apply runEnvironment_refinesMap
  have hFile :
      fileAssignments (some "#A=2\nAB=3\n".toList) =
        [("AB".toList, "3".toList)] := by
    decide +kernel
  have hFirst :
      childSetEnv .init "A".toList "1".toList =
        .ok (.mk (.string "A=1".toList :: .null ::
          List.replicate 98 .unset) 100) := by
    have hWord : u32 "A".toList.length = 1 := by
      decide +kernel
    have hLast : ¬ 0 ≥ u32Sub 100 1 := by
      decide +kernel
    rw [childSetEnv, hWord]
    simp [ChildEnv.init, findSlot, ChildEnv.expand, hLast,
      ChildEnv.store, MemoryBlock.store, MemoryBlock.patch,
      envString]
  have hRoom : HasRoom .init "A".toList :=
    hasRoom_of_envsize _ (by decide)
  refine ⟨⟨by decide, by decide +kernel, hRoom⟩, ?_⟩
  intro e hStep
  rw [EnvCall.step, hFirst] at hStep
  cases hStep
  refine ⟨⟨by decide +kernel, ?_⟩, fun _ _ => trivial⟩
  rw [hFile]
  have hGrows : 100 + 50 < 2 ^ 32 := by
    decide
  exact ⟨hasRoom_of_envsize _ hGrows, fun _ _ => trivial⟩

/- A comment assigns nothing. -/
theorem lineAssignment_hash
    (line : Text) :
    lineAssignment ('#' :: line) = none :=
  rfl

/- The part of a comment line that fills the buffer. -/
def envCommentStart : Text :=
  '#' :: List.replicate 4094 'x'

/- A comment line that is longer than the buffer. -/
def longEnvComment : Text :=
  envCommentStart ++ "PATH=/tmp\n".toList

theorem readPieces_longEnvComment :
    readPieces envLineSize longEnvComment.length
        longEnvComment =
      [envCommentStart, "PATH=/tmp\n".toList] := by
  have hStart : envCommentStart.length = 4095 := by
    rw [envCommentStart, List.length_cons,
      List.length_replicate]
  have hFuel : longEnvComment.length = 4104 + 1 := by
    rw [longEnvComment, List.length_append, hStart]
    rfl
  have hOpen : '\n' ∉ envCommentStart := by
    rw [envCommentStart, List.mem_cons, List.mem_replicate]
    simp
  have hRest :
      readPieces envLineSize 4104 "PATH=/tmp\n".toList =
        fileLines "PATH=/tmp\n".toList :=
    readPieces_eq_fileLines 4104 (by decide) (by decide)
  rw [hFuel, longEnvComment,
    readPieces_full 4104 _ hOpen hStart
      (List.cons_ne_nil _ _), hRest]
  rfl

/- The end of a long comment line becomes an assignment. -/
theorem runEnvironment_not_refinesMap :
    ∃ e,
      FallibleRun.run EnvCall.step .init
          [.readFile (some longEnvComment)] = .ok e ∧
        ¬ RefinesMap e
          ([EnvCall.readFile (some longEnvComment)].foldl
            EnvCall.apply fun _ => none) := by
  have hSets :
      [envCommentStart, "PATH=/tmp\n".toList].filterMap
          envAssignment =
        [("PATH".toList, "/tmp".toList)] := by
    have hComment : envAssignment envCommentStart = none :=
      (envAssignment_eq _).trans (lineAssignment_hash _)
    have hTail :
        envAssignment "PATH=/tmp\n".toList =
          some ("PATH".toList, "/tmp".toList) := by
      decide +kernel
    rw [List.filterMap_cons_none hComment,
      List.filterMap_cons_some hTail, List.filterMap_nil]
  have hNone : fileAssignments (some longEnvComment) = [] := by
    have hOpen :
        '\n' ∉ envCommentStart ++ "PATH=/tmp".toList := by
      rw [List.mem_append, envCommentStart, List.mem_cons,
        List.mem_replicate]
      simp
    have hLine := fileLines_line [] hOpen
    have hWhole :
        envCommentStart ++ "PATH=/tmp".toList ++ ['\n'] =
          longEnvComment := by
      rw [longEnvComment, List.append_assoc]
      rfl
    have hComment : lineAssignment longEnvComment = none :=
      lineAssignment_hash _
    rw [hWhole] at hLine
    rw [fileAssignments, hLine,
      List.filterMap_cons_none hComment]
    rfl
  have hRoom : HasRoom .init "PATH".toList :=
    hasRoom_of_envsize _ (by decide)
  rcases childSetEnv_environment "/tmp".toList
      environment_init (by decide) (by decide) hRoom with
    ⟨e, hOk, hEnvironment⟩
  refine ⟨e, ?_, ?_⟩
  · have hRead :
        readEnvironmentFile .init (some longEnvComment) =
          .ok e := by
      rw [readEnvironmentFile, readPieces_longEnvComment,
        hSets, FallibleRun.run_cons, setAssignment, hOk]
      rfl
    rw [FallibleRun.run_cons, EnvCall.step, hRead]
    rfl
  · intro hRefines
    have hSet :=
      (hEnvironment.refinesMap.values "PATH".toList
        "/tmp".toList (by decide)).mp
        (Function.update_self _ _ _)
    have hClaimed :=
      (hRefines.values "PATH".toList "/tmp".toList
        (by decide)).mpr hSet
    rw [List.foldl_cons, EnvCall.apply, hNone] at hClaimed
    cases hClaimed

end Ssh1
