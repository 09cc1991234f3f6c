import Ssh1.Auth.Patterns
import Ssh1.Base.Halt
import Mathlib.Data.List.TakeWhile

/-
  The options in front of an authorized key.

  The options of a line are read one after the other, and
  each of them changes the restrictions of the session as
  soon as it was read. The abstract layer says what options
  a text consists of.

  Main declarations:
    * `Restrictions`, `KeyOption`
    * `readOption`, `processOptions`
    * `IsOption`, `IsOptionList`
    * `scanOptions`
    * `processOptions_eq_scanOptions`
    * `scanOptions_sound`
-/

------------------------------------------------------------
-- Restrictions
------------------------------------------------------------

namespace Ssh1

open QuotedText (Text)

/- The flags and texts that options set. -/
structure Restrictions where
  noPortForwardingFlag : Bool
  noAgentForwardingFlag : Bool
  noX11ForwardingFlag : Bool
  noPtyFlag : Bool
  idleTimeout : Int32
  forcedCommand : Option Text
  customEnvironment : List Text
  deriving DecidableEq

/- An option as it was read. -/
inductive KeyOption where
  | noPortForwarding
  | noAgentForwarding
  | noX11Forwarding
  | noPty
  | idleTimeout (seconds : Int32)
  | command (text : Text)
  | environment (text : Text)
  | fromHosts (patterns : Text)
  deriving DecidableEq

/- What an option does to the restrictions. -/
def KeyOption.apply
    (state : Restrictions) : KeyOption → Restrictions
| noPortForwarding =>
    { state with noPortForwardingFlag := true }
| noAgentForwarding =>
    { state with noAgentForwardingFlag := true }
| noX11Forwarding =>
    { state with noX11ForwardingFlag := true }
| noPty => { state with noPtyFlag := true }
| idleTimeout seconds =>
    { state with idleTimeout := seconds }
| command text =>
    { state with forcedCommand := some text }
| environment text =>
    { state with
      customEnvironment :=
        text :: state.customEnvironment }
| fromHosts _ => state

/- The peer that asks to log in. -/
structure Peer where
  canonicalHostname : Text
  remoteIpaddr : Text

/- Only a list of hosts can exclude the peer. -/
def KeyOption.permits
    (peer : Peer) : KeyOption → Bool
| fromHosts patterns =>
    matchHostname peer.canonicalHostname
      (some peer.remoteIpaddr) patterns
| _ => true

end Ssh1

------------------------------------------------------------
-- Reading Options
------------------------------------------------------------

namespace Ssh1

open QuotedText (Text copy quote)

namespace OptionName

/- The name of the option that forbids port forwarding. -/
def noPortForwarding : Text := "no-port-forwarding".toList

/- The name of the option that forbids agent forwarding. -/
def noAgentForwarding : Text := "no-agent-forwarding".toList

/- The name of the option that forbids X11 forwarding. -/
def noX11Forwarding : Text := "no-x11-forwarding".toList

/- The name of the option that forbids a terminal. -/
def noPty : Text := "no-pty".toList

/- What stands before the value of an idle timeout. -/
def idleTimeout : Text := "idle-timeout=".toList

/- What stands before a forced command. -/
def command : Text := "command=".toList

/- What stands before an environment assignment. -/
def environment : Text := "environment=".toList

/- What stands before a list of permitted hosts. -/
def fromHosts : Text := "from=".toList

end OptionName

/- Blanks separate the options from the key. -/
def isBlank (c : Char) : Bool :=
  c = ' ' || c = '\t'

/- `isspace` -/
def isSpace (c : Char) : Bool :=
  c = ' ' || ('\t' ≤ c && c ≤ '\r')

/-
  Whether the text starts with the name, in lower or upper
  case letters.
-/
def optionCompare (optionsLine optionName : Text) : Bool :=
  if optionsLine.length < optionName.length then
    false
  else
    (optionsLine.take optionName.length).map Char.toLower =
      optionName

/- The number in an `int`. -/
def timeoutValue (digits : Text) : Int32 :=
  digits.foldl
    (fun value c =>
      value * 10 + Int32.ofNat (c.toNat - '0'.toNat)) 0

/- The seconds of a unit. -/
def timeoutUnit (c : Char) : Option Int32 :=
  if c = 'w' then some (7 * 24 * 60 * 60)
  else if c = 'd' then some (24 * 60 * 60)
  else if c = 'h' then some (60 * 60)
  else if c = 'm' then some 60
  else if c = 's' then some 1
  else none

/- A timeout: its digits, and the letter of its unit. -/
def readTimeout (opts : Text) : Int32 × Text :=
  let digits := opts.takeWhile Char.isDigit
  let value := timeoutValue digits
  match opts.drop digits.length with
  | [] => (value, [])
  | c :: rest =>
      match timeoutUnit c.toLower with
      | some seconds => (value * seconds, rest)
      | none => (value, c.toLower :: rest)

/- What was found at the start of the options. -/
inductive OptionToken where
  -- an option, and the text from `next_option` on
  | option (option : KeyOption) (opts : Text)
  -- the end of the line inside of a quoted text
  | unterminated (option : Option KeyOption)
  -- `bad_option`
  | bad

/- A quoted text after the name of an option. -/
def readQuoted
    (opts : Text)
    (option : Text → KeyOption)
    (unterminated : Text → Option KeyOption) :
    OptionToken :=
  match copy opts with
  | (text, some rest) => .option (option text) rest
  | (text, none) => .unterminated (unterminated text)

/-
  The option at the start of the text. An unterminated
  command has already become the forced command.
-/
def readOption (opts : Text) : OptionToken :=
  if optionCompare opts OptionName.noPortForwarding then
    .option .noPortForwarding
      (opts.drop OptionName.noPortForwarding.length)
  else if optionCompare opts
      OptionName.noAgentForwarding then
    .option .noAgentForwarding
      (opts.drop OptionName.noAgentForwarding.length)
  else if optionCompare opts OptionName.noX11Forwarding then
    .option .noX11Forwarding
      (opts.drop OptionName.noX11Forwarding.length)
  else if optionCompare opts OptionName.noPty then
    .option .noPty (opts.drop OptionName.noPty.length)
  else if optionCompare opts OptionName.idleTimeout then
    let (value, opts) :=
      readTimeout (opts.drop OptionName.idleTimeout.length)
    .option (.idleTimeout value) opts
  else if optionCompare opts
      (OptionName.command ++ [quote]) then
    readQuoted
      (opts.drop (OptionName.command ++ [quote]).length)
      .command fun text => some (.command text)
  else if optionCompare opts
      (OptionName.environment ++ [quote]) then
    readQuoted
      (opts.drop (OptionName.environment ++ [quote]).length)
      .environment fun _ => none
  else if optionCompare opts
      (OptionName.fromHosts ++ [quote]) then
    readQuoted
      (opts.drop (OptionName.fromHosts ++ [quote]).length)
      .fromHosts fun _ => none
  else
    .bad

/-
  The loop over the options, for `fuel` turns: the changed
  restrictions, the value of `authenticated`, and where the
  loop has stopped in the text.
-/
def processOptions
    (peer : Peer) :
    (fuel : Nat) → Restrictions → (opts : Text) →
    Outcome (Restrictions × Bool × Text)
| 0, _, _ => .error .diverges
| _ + 1, state, [] => .ok (state, true, [])
| fuel + 1, state, c :: opts =>
    if isBlank c then
      .ok (state, true, c :: opts)
    else
      match readOption (c :: opts) with
      | .bad => .ok (state, false, c :: opts)
      | .unterminated option =>
          -- `continue` at the end of the text
          processOptions peer fuel
            (option.elim state (KeyOption.apply state)) []
      | .option option opts =>
          if option.permits peer then
            let state := option.apply state
            match opts with
            | [] => .error (.fatal
                "Bugs in auth-rsa.c option processing.")
            | d :: opts =>
                if isBlank d then
                  .ok (state, true, d :: opts)
                else if d ≠ ',' then
                  .ok (state, false, d :: opts)
                else
                  processOptions peer fuel state opts
          else
            .ok (state, false, opts)

end Ssh1

------------------------------------------------------------
-- Option Syntax
------------------------------------------------------------

namespace Ssh1

open QuotedText (Text Quoted quote backslash)

/- The text is the name, in lower or upper case letters. -/
def Names (name word : Text) : Prop :=
  word.map Char.toLower = name

/- The unit of a timeout, which may be missing. -/
inductive IsTimeoutUnit : Text → Int32 → Prop where
  | missing : IsTimeoutUnit [] 1
  | letter
      {c : Char}
      {seconds : Int32}
      (hUnit : timeoutUnit c.toLower = some seconds) :
      IsTimeoutUnit [c] seconds

/- The text is an option in well-formed syntax. -/
inductive IsOption : Text → KeyOption → Prop where
  | noPortForwarding
      {word : Text}
      (hName : Names OptionName.noPortForwarding word) :
      IsOption word .noPortForwarding
  | noAgentForwarding
      {word : Text}
      (hName : Names OptionName.noAgentForwarding word) :
      IsOption word .noAgentForwarding
  | noX11Forwarding
      {word : Text}
      (hName : Names OptionName.noX11Forwarding word) :
      IsOption word .noX11Forwarding
  | noPty
      {word : Text}
      (hName : Names OptionName.noPty word) :
      IsOption word .noPty
  | idleTimeout
      {word digits unit : Text}
      {seconds : Int32}
      (hName : Names OptionName.idleTimeout word)
      (hDigits : ∀ c ∈ digits, c.isDigit = true)
      (hUnit : IsTimeoutUnit unit seconds) :
      IsOption (word ++ (digits ++ unit))
        (.idleTimeout (timeoutValue digits * seconds))
  | command
      {word raw text : Text}
      (hName : Names OptionName.command word)
      (hQuoted : Quoted raw text) :
      IsOption (word ++ quote :: raw) (.command text)
  | environment
      {word raw text : Text}
      (hName : Names OptionName.environment word)
      (hQuoted : Quoted raw text) :
      IsOption (word ++ quote :: raw) (.environment text)
  | fromHosts
      {word raw text : Text}
      (hName : Names OptionName.fromHosts word)
      (hQuoted : Quoted raw text) :
      IsOption (word ++ quote :: raw) (.fromHosts text)

/-
  The text is a list of options that all permit the peer. A
  comma may also follow the last option.
-/
inductive IsOptionList
    (peer : Peer) : Text → List KeyOption → Prop where
  | nil : IsOptionList peer [] []
  | single
      {text : Text}
      {option : KeyOption}
      (hOption : IsOption text option)
      (hPermits : option.permits peer = true) :
      IsOptionList peer text [option]
  | cons
      {text rest : Text}
      {option : KeyOption}
      {options : List KeyOption}
      (hOption : IsOption text option)
      (hPermits : option.permits peer = true)
      (hRest : IsOptionList peer rest options) :
      IsOptionList peer (text ++ ',' :: rest)
        (option :: options)

/- A character that is no quote, escape or blank. -/
def IsWordChar (c : Char) : Prop :=
  c ≠ quote ∧ c ≠ backslash ∧ isBlank c = false

instance (c : Char) : Decidable (IsWordChar c) := by
  unfold IsWordChar
  infer_instance

theorem isBlank_eq_true_iff
    (c : Char) :
    isBlank c = true ↔ c = ' ' ∨ c = '\t' := by
  simp [isBlank]

/- Skips the options in front of the key. -/
def skipOptions (quoted : Bool) (cp : Text) : Text :=
  QuotedText.skip isBlank quoted cp

/- Only letters are changed. -/
theorem eq_of_toLower_eq
    {c d : Char}
    (hLower : c.toLower = d)
    (hLetter : ¬ (97 ≤ d.toNat ∧ d.toNat ≤ 122)) :
    c = d := by
  unfold Char.toLower at hLower
  split at hLower
  · rename_i hUpper
    exfalso
    apply hLetter
    have hLow : 65 ≤ c.val.toNat := by
      simpa [UInt32.le_iff_toNat_le] using hUpper.1
    have hHigh : c.val.toNat ≤ 90 := by
      simpa [UInt32.le_iff_toNat_le] using hUpper.2
    have hSum :
        (c.val + ('a'.val - 'A'.val)).toNat =
          c.val.toNat + 32 := by
      rw [UInt32.toNat_add,
        show ('a'.val - 'A'.val).toNat = 32 by decide]
      omega
    rw [← hLower]
    simp only [Char.toNat]
    rw [hSum]
    omega
  · exact hLower

/- The case of a letter does not make it special. -/
theorem isWordChar_of_toLower
    {c : Char}
    (hLower : IsWordChar c.toLower) :
    IsWordChar c := by
  rcases hLower with
    ⟨hQuote, hBackslash, hBlank⟩
  refine ⟨?_, ?_, ?_⟩
  · intro hc
    exact hQuote (by rw [hc]; decide)
  · intro hc
    exact hBackslash (by rw [hc]; decide)
  · by_contra hc
    have hCases :=
      (isBlank_eq_true_iff c).mp (by simpa using hc)
    rcases hCases with rfl | rfl
    · exact absurd hBlank (by decide)
    · exact absurd hBlank (by decide)

theorem isWordChar_of_names
    {name word : Text}
    (hName : Names name word)
    (hWord : (name.all fun c => decide (IsWordChar c)) = true) :
    ∀ c ∈ word, IsWordChar c := by
  intro c hc
  apply isWordChar_of_toLower
  have hAll := List.all_eq_true.mp hWord
  apply of_decide_eq_true
  apply hAll
  rw [← hName]
  exact List.mem_map_of_mem hc

theorem isWordChar_of_isDigit
    {c : Char}
    (hDigit : c.isDigit = true) :
    IsWordChar c := by
  refine ⟨?_, ?_, ?_⟩
  · rintro rfl
    revert hDigit
    decide
  · rintro rfl
    revert hDigit
    decide
  · by_contra hc
    have hCases :=
      (isBlank_eq_true_iff c).mp (by simpa using hc)
    rcases hCases with rfl | rfl
    · exact absurd hDigit (by decide)
    · exact absurd hDigit (by decide)

theorem isWordChar_of_timeoutUnit
    {c : Char}
    {seconds : Int32}
    (hUnit : timeoutUnit c = some seconds) :
    IsWordChar c := by
  unfold timeoutUnit at hUnit
  split_ifs at hUnit with hw hd hh hm hs
  · exact hw ▸ by decide
  · exact hd ▸ by decide
  · exact hh ▸ by decide
  · exact hm ▸ by decide
  · exact hs ▸ by decide

theorem skipOptions_word_append
    {word : Text}
    (hWord : ∀ c ∈ word, IsWordChar c)
    (rest : Text) :
    skipOptions false (word ++ rest) =
      skipOptions false rest :=
  QuotedText.skip_word_append hWord rest

/- The quoted text of an option is skipped as a whole. -/
theorem skipOptions_quoted_append
    {word raw text : Text}
    (hWord : ∀ c ∈ word, IsWordChar c)
    (hQuoted : Quoted raw text)
    (rest : Text) :
    skipOptions false (word ++ quote :: raw ++ rest) =
      skipOptions false rest := by
  have hOpen :
      skipOptions false (quote :: (raw ++ rest)) =
        skipOptions true (raw ++ rest) :=
    QuotedText.skip_quote false (by decide) (raw ++ rest)
  have hClose :
      skipOptions true (raw ++ rest) =
        skipOptions false rest :=
    QuotedText.skip_quoted_append (by decide) (by decide)
      hQuoted rest
  rw [List.append_assoc, skipOptions_word_append hWord]
  exact hOpen.trans hClose

/- An option in well-formed syntax is skipped as a whole. -/
theorem IsOption.skipOptions_append
    {text : Text}
    {option : KeyOption}
    (hOption : IsOption text option)
    (rest : Text) :
    skipOptions false (text ++ rest) =
      skipOptions false rest := by
  cases hOption with
  | noPortForwarding hName
  | noAgentForwarding hName
  | noX11Forwarding hName
  | noPty hName =>
      exact skipOptions_word_append
        (isWordChar_of_names hName rfl) rest
  | @idleTimeout word digits unit seconds hName hDigits
      hUnit =>
      apply skipOptions_word_append
      intro c hc
      rcases List.mem_append.mp hc with hWord | hTail
      · exact isWordChar_of_names hName rfl c hWord
      · rcases List.mem_append.mp hTail with hDigit | hLast
        · exact isWordChar_of_isDigit (hDigits c hDigit)
        · cases hUnit with
          | missing => simp at hLast
          | letter hLetter =>
              rw [List.mem_singleton] at hLast
              subst hLast
              exact isWordChar_of_toLower
                (isWordChar_of_timeoutUnit hLetter)
  | command hName hQuoted
  | environment hName hQuoted
  | fromHosts hName hQuoted =>
      exact skipOptions_quoted_append
        (isWordChar_of_names hName rfl)
        hQuoted rest

end Ssh1

------------------------------------------------------------
-- Correctness of Reading
------------------------------------------------------------

namespace Ssh1

open QuotedText (Text Quoted quote backslash)

theorem names_take_of_optionCompare
    {opts name : Text}
    (hCompare : optionCompare opts name = true) :
    Names name (opts.take name.length) := by
  unfold optionCompare at hCompare
  split at hCompare
  · cases hCompare
  · simpa [Names] using hCompare

/- A name that ends in a quote is written with a quote. -/
theorem exists_names_of_quote
    {name word : Text}
    (hName : Names (name ++ [quote]) word) :
    ∃ word', word = word' ++ [quote] ∧ Names name word' := by
  rcases List.map_eq_append_iff.mp hName with
    ⟨word', last, hWord, hInit, hLast⟩
  rcases List.map_eq_singleton_iff.mp hLast with
    ⟨c, hc, hLower⟩
  have hQuote : c = quote :=
    eq_of_toLower_eq hLower (by decide)
  exact ⟨word', by rw [hWord, hc, hQuote], hInit⟩

/- An empty text has no name. -/
theorem Names.ne_nil
    {name word : Text}
    (hName : Names name word)
    (hNonempty : name ≠ []) :
    word ≠ [] := by
  intro hWord
  apply hNonempty
  rw [← hName, hWord]
  rfl

theorem IsOption.ne_nil
    {text : Text}
    {option : KeyOption}
    (hOption : IsOption text option) :
    text ≠ [] := by
  cases hOption with
  | noPortForwarding hName
  | noAgentForwarding hName
  | noX11Forwarding hName
  | noPty hName =>
      exact hName.ne_nil (by decide +kernel)
  | idleTimeout hName hDigits hUnit =>
      simp [hName.ne_nil (by decide +kernel)]
  | command hName hQuoted
  | environment hName hQuoted
  | fromHosts hName hQuoted =>
      simp

/- The text, perhaps with its first letter in lower case. -/
def LowerHead (tail rest : Text) : Prop :=
  rest = tail ∨
    ∃ c cs, tail = c :: cs ∧ rest = c.toLower :: cs

/- A timeout is read as far as its unit. -/
theorem readTimeout_spec
    (opts : Text) :
    ∃ digits unit seconds tail,
      opts = digits ++ (unit ++ tail) ∧
        (∀ c ∈ digits, c.isDigit = true) ∧
        IsTimeoutUnit unit seconds ∧
        (readTimeout opts).1 =
          timeoutValue digits * seconds ∧
        LowerHead tail (readTimeout opts).2 := by
  let digits := opts.takeWhile Char.isDigit
  let rest := opts.drop digits.length
  have hSplit : opts = digits ++ rest := by
    have hDigits : digits <+: opts :=
      List.takeWhile_prefix _
    rcases hDigits with
      ⟨tail, hTail⟩
    dsimp only [rest]
    conv_rhs => rw [← hTail]
    rw [List.drop_left, hTail]
  have hDigit : ∀ c ∈ digits, c.isDigit = true :=
    fun c hc => List.mem_takeWhile_imp hc
  cases hRest : rest with
  | nil =>
      have hRead :
          readTimeout opts = (timeoutValue digits, []) := by
        simp only [readTimeout]
        rw [show opts.drop digits.length = [] from hRest]
      rw [hRest] at hSplit
      exact ⟨digits, [], 1, [], hSplit, hDigit, .missing,
        by rw [hRead, Int32.mul_one],
        Or.inl (by rw [hRead])⟩
  | cons c cs =>
      have hRead :
          readTimeout opts =
            match timeoutUnit c.toLower with
            | some seconds =>
                (timeoutValue digits * seconds, cs)
            | none =>
                (timeoutValue digits, c.toLower :: cs) := by
        simp only [readTimeout]
        rw [show opts.drop digits.length = c :: cs from
          hRest]
      rw [hRest] at hSplit
      cases hUnit : timeoutUnit c.toLower with
      | some seconds =>
          simp only [hUnit] at hRead
          exact ⟨digits, [c], seconds, cs, hSplit, hDigit,
            .letter hUnit, by rw [hRead],
            Or.inl (by rw [hRead])⟩
      | none =>
          simp only [hUnit] at hRead
          exact ⟨digits, [], 1, c :: cs, hSplit, hDigit,
            .missing, by rw [hRead, Int32.mul_one],
            Or.inr ⟨c, cs, rfl, by rw [hRead]⟩⟩

/- What an option token says about the text. -/
def OptionToken.Describes
    (opts : Text) : OptionToken → Prop
| .bad => True
| .unterminated _ => skipOptions false opts = []
| .option read rest =>
    ∃ text tail,
      opts = text ++ tail ∧
        IsOption text read ∧
        LowerHead tail rest

/- A name without a text of its own. -/
theorem describes_flag
    {opts name : Text}
    {option : KeyOption}
    (hCompare : optionCompare opts name = true)
    (hOption : ∀ word, Names name word →
      IsOption word option) :
    (OptionToken.option option
      (opts.drop name.length)).Describes opts :=
  ⟨opts.take name.length, opts.drop name.length,
    (List.take_append_drop _ _).symm,
    hOption _ (names_take_of_optionCompare hCompare),
    Or.inl rfl⟩

/- A name with a quoted text. -/
theorem describes_quoted
    {opts name : Text}
    {option : Text → KeyOption}
    {unterminated : Text → Option KeyOption}
    (hCompare :
      optionCompare opts (name ++ [quote]) = true)
    (hWord : (name.all fun c => decide (IsWordChar c)) = true)
    (hOption : ∀ word raw text,
      Names name word → Quoted raw text →
        IsOption (word ++ quote :: raw) (option text)) :
    (readQuoted (opts.drop (name ++ [quote]).length)
      option unterminated).Describes opts := by
  rcases exists_names_of_quote
      (names_take_of_optionCompare hCompare) with
    ⟨word, hTake, hName⟩
  let rest := opts.drop (name ++ [quote]).length
  have hSplit : opts = word ++ quote :: rest := by
    have hAll :=
      List.take_append_drop (name ++ [quote]).length opts
    rw [hTake, List.append_assoc] at hAll
    exact hAll.symm
  change (readQuoted rest option unterminated).Describes opts
  cases hCopy : QuotedText.copy rest with
  | mk text tail =>
      cases tail with
      | some tail =>
          simp only [readQuoted, hCopy]
          rcases QuotedText.exists_quoted_of_copy hCopy with
            ⟨raw, hRaw, hQuoted⟩
          refine ⟨word ++ quote :: raw, tail, ?_,
            hOption word raw text hName hQuoted, Or.inl rfl⟩
          rw [hSplit, hRaw]
          simp
      | none =>
          simp only [readQuoted, hCopy]
          change skipOptions false opts = []
          rw [hSplit, skipOptions_word_append
            (isWordChar_of_names hName hWord)]
          exact (QuotedText.skip_quote false (by decide)
            rest).trans (QuotedText.skip_eq_nil_of_copy
              (by decide) hCopy)

/- The token tells what the text starts with. -/
theorem readOption_describes
    (opts : Text) :
    (readOption opts).Describes opts := by
  unfold readOption
  split_ifs with hPort hAgent hX11 hPty hIdle hCommand
    hEnvironment hFrom
  · exact describes_flag hPort fun _ => .noPortForwarding
  · exact describes_flag hAgent fun _ => .noAgentForwarding
  · exact describes_flag hX11 fun _ => .noX11Forwarding
  · exact describes_flag hPty fun _ => .noPty
  · rcases readTimeout_spec
        (opts.drop OptionName.idleTimeout.length) with
      ⟨digits, unit, seconds, tail, hSplit, hDigits, hUnit,
        hValue, hTail⟩
    refine ⟨opts.take OptionName.idleTimeout.length ++
      (digits ++ unit), tail, ?_, ?_, hTail⟩
    · rw [List.append_assoc, List.append_assoc, ← hSplit,
        List.take_append_drop]
    · change IsOption _ (.idleTimeout (readTimeout
        (opts.drop OptionName.idleTimeout.length)).1)
      rw [hValue]
      exact .idleTimeout
        (names_take_of_optionCompare hIdle) hDigits hUnit
  · exact describes_quoted hCommand rfl
      fun _ _ _ => .command
  · exact describes_quoted hEnvironment rfl
      fun _ _ _ => .environment
  · exact describes_quoted hFrom rfl
      fun _ _ _ => .fromHosts
  · trivial

end Ssh1

------------------------------------------------------------
-- Correctness of the Loop
------------------------------------------------------------

namespace Ssh1

open QuotedText (Text Quoted quote backslash)

/-
  The options that take effect, and whether the list was
  accepted, whatever the restrictions are.
-/
def scanOptions
    (peer : Peer) :
    (fuel : Nat) → (opts : Text) → List KeyOption × Bool
| 0, _ => ([], false)
| _ + 1, [] => ([], true)
| fuel + 1, c :: opts =>
    if isBlank c then
      ([], true)
    else
      match readOption (c :: opts) with
      | .bad => ([], false)
      | .unterminated option => (option.toList, true)
      | .option option opts =>
          if option.permits peer then
            match opts with
            | [] => ([option], false)
            | d :: opts =>
                if isBlank d then
                  ([option], true)
                else if d ≠ ',' then
                  ([option], false)
                else
                  let rest := scanOptions peer fuel opts
                  (option :: rest.1, rest.2)
          else
            ([], false)

/-
  What can be read where a blank outside of the quotes is
  still to come: something that is no option, or an option
  and one more character. The end of the line is not met.
-/
theorem readOption_cases
    {opts : Text}
    (hEnd : skipOptions false opts ≠ []) :
    readOption opts = .bad ∨
      ∃ option text c d rest,
        readOption opts = .option option (d :: rest) ∧
          IsOption text option ∧
          opts = text ++ c :: rest ∧
          (d = c ∨ d = c.toLower) ∧
          skipOptions false opts =
            skipOptions false (c :: rest) ∧
          rest.length + 1 < opts.length := by
  have hDescribes := readOption_describes opts
  cases hRead : readOption opts with
  | bad => exact Or.inl rfl
  | unterminated option =>
      rw [hRead] at hDescribes
      exact (hEnd hDescribes).elim
  | option option rest =>
      right
      rw [hRead] at hDescribes
      rcases hDescribes with
        ⟨text, tail, hOpts, hOption, hTail⟩
      have hSkip :
          skipOptions false opts = skipOptions false tail := by
        rw [hOpts, hOption.skipOptions_append]
      have hLength : tail.length < opts.length := by
        have hPos :=
          List.length_pos_of_ne_nil hOption.ne_nil
        rw [hOpts, List.length_append]
        omega
      cases tail with
      | nil => exact (hEnd hSkip).elim
      | cons c cs =>
          rcases hTail with hSame | ⟨c', cs', hCons, hLower⟩
          · exact ⟨option, text, c, c, cs, by rw [hSame],
              hOption, hOpts, Or.inl rfl, hSkip,
              by simpa using hLength⟩
          · cases hCons
            exact ⟨option, text, c, c.toLower, cs,
              by rw [hLower], hOption, hOpts, Or.inr rfl,
              hSkip, by simpa using hLength⟩

/- A blank or a comma is not the lower case of a letter. -/
theorem eq_of_blank_or_comma
    {c d : Char}
    (hSame : d = c ∨ d = c.toLower)
    (hd : isBlank d = true ∨ d = ',') :
    d = c := by
  rcases hSame with hSame | hLower
  · exact hSame
  · apply (eq_of_toLower_eq hLower.symm ?_).symm
    rcases hd with hBlank | rfl
    · rcases (isBlank_eq_true_iff d).mp hBlank with
        rfl | rfl
      · decide
      · decide
    · decide

/- The skipped text goes on after a comma. -/
theorem skipOptions_comma
    (rest : Text) :
    skipOptions false (',' :: rest) =
      skipOptions false rest :=
  QuotedText.skip_plain (by decide) (fun _ => by decide)
    (fun hc => absurd hc (by decide))

@[simp] theorem isBlank_comma :
    isBlank ',' = false := by
  decide

theorem skipOptions_blank
    {c : Char}
    (hBlank : isBlank c = true)
    (rest : Text) :
    skipOptions false (c :: rest) = c :: rest := by
  cases rest <;> simp [skipOptions, QuotedText.skip, hBlank]

/-
  Where a character that is no blank was changed to lower
  case, the blank is still behind it.
-/
theorem skipOptions_suffix_lower
    {c d : Char}
    {rest : Text}
    (hSame : d = c ∨ d = c.toLower) :
    skipOptions false (c :: rest) <:+ d :: rest := by
  by_cases hBlank : isBlank c = true
  · have hLower : c.toLower = c := by
      rcases (isBlank_eq_true_iff c).mp hBlank with rfl | rfl
      · decide
      · decide
    rw [hLower, or_self] at hSame
    rw [hSame]
    exact QuotedText.skip_suffix false _
  · have hGo : (!false && isBlank c) = false := by
      simpa using hBlank
    exact (QuotedText.skip_suffix_tail hGo rest).trans
      (List.suffix_cons d rest)

/-
  The loop applies the scanned options to the restrictions,
  and it ends without an error. Where the options are not
  rejected, it has stopped at the blank behind them, and it
  never gets past that.
-/
theorem processOptions_eq_scanOptions
    {peer : Peer}
    {opts : Text}
    (fuel : Nat)
    (state : Restrictions)
    (hFuel : opts.length < fuel)
    (hEnd : skipOptions false opts ≠ []) :
    ∃ left,
      processOptions peer fuel state opts =
          .ok ((scanOptions peer fuel opts).1.foldl
              KeyOption.apply state,
            (scanOptions peer fuel opts).2, left) ∧
        skipOptions false opts <:+ left ∧
        ((scanOptions peer fuel opts).2 = true →
          left = skipOptions false opts) := by
  induction fuel generalizing state opts with
  | zero => omega
  | succ fuel ih =>
      cases opts with
      | nil => exact absurd rfl hEnd
      | cons c opts =>
          rw [processOptions, scanOptions]
          by_cases hBlank : isBlank c = true
          · rw [if_pos hBlank, if_pos hBlank,
              skipOptions_blank hBlank]
            exact ⟨c :: opts, rfl, List.suffix_rfl,
              fun _ => rfl⟩
          · rw [if_neg hBlank, if_neg hBlank]
            rcases readOption_cases hEnd with
              hBad | ⟨option, text, c', d, rest, hRead,
                hOption, hOpts, hSame, hSkip, hLength⟩
            · rw [hBad]
              exact ⟨c :: opts, rfl,
                QuotedText.skip_suffix false _, nofun⟩
            · rw [hRead, hSkip]
              simp only
              by_cases hPermits : option.permits peer = true
              · rw [if_pos hPermits, if_pos hPermits]
                by_cases hdBlank : isBlank d = true
                · have hc := eq_of_blank_or_comma hSame
                    (Or.inl hdBlank)
                  rw [if_pos hdBlank, if_pos hdBlank, ← hc,
                    skipOptions_blank hdBlank]
                  exact ⟨d :: rest, rfl, List.suffix_rfl,
                    fun _ => rfl⟩
                · rw [if_neg hdBlank, if_neg hdBlank]
                  by_cases hComma : d = ','
                  · have hc := eq_of_blank_or_comma hSame
                      (Or.inr hComma)
                    have hTail :
                        skipOptions false (c' :: rest) =
                          skipOptions false rest := by
                      rw [← hc, hComma, skipOptions_comma]
                    rw [hSkip, hTail] at hEnd
                    have hFuel' : rest.length < fuel := by
                      simp only [List.length_cons]
                        at hFuel hLength
                      omega
                    rw [if_neg (not_not_intro hComma),
                      if_neg (not_not_intro hComma), hTail]
                    exact ih (option.apply state) hFuel' hEnd
                  · rw [if_pos hComma, if_pos hComma]
                    exact ⟨d :: rest, rfl,
                      skipOptions_suffix_lower hSame, nofun⟩
              · rw [if_neg hPermits, if_neg hPermits]
                exact ⟨d :: rest, rfl,
                  skipOptions_suffix_lower hSame, nofun⟩

/- What is accepted is a list of options up to the blank. -/
theorem scanOptions_sound
    {peer : Peer}
    {opts : Text}
    (fuel : Nat)
    (hFuel : opts.length < fuel)
    (hEnd : skipOptions false opts ≠ [])
    (hAccepted : (scanOptions peer fuel opts).2 = true) :
    ∃ text,
      opts = text ++ skipOptions false opts ∧
        IsOptionList peer text
          (scanOptions peer fuel opts).1 := by
  induction fuel generalizing opts with
  | zero => omega
  | succ fuel ih =>
      cases opts with
      | nil => exact (hEnd rfl).elim
      | cons c opts =>
          by_cases hBlank : isBlank c = true
          · refine ⟨[], (skipOptions_blank hBlank opts).symm,
              ?_⟩
            simp only [scanOptions, hBlank, if_true]
            exact .nil
          · rcases readOption_cases hEnd with
              hBad | ⟨option, text, c', d, rest, hRead,
                hOption, hOpts, hSame, hSkip, hLength⟩
            · simp [scanOptions, hBlank, hBad] at hAccepted
            · simp only [scanOptions, hBlank, hRead]
                at hAccepted ⊢
              by_cases hPermits : option.permits peer = true
              · simp only [hPermits, if_true]
                  at hAccepted ⊢
                by_cases hdBlank : isBlank d = true
                · have hc := eq_of_blank_or_comma hSame
                    (Or.inl hdBlank)
                  refine ⟨text, ?_, ?_⟩
                  · rw [hSkip, ← hc,
                      skipOptions_blank hdBlank, hc, ← hOpts]
                  · simpa [hdBlank] using
                      IsOptionList.single hOption hPermits
                · by_cases hComma : d = ','
                  · have hc := eq_of_blank_or_comma hSame
                      (Or.inr hComma)
                    have hTail : skipOptions false rest =
                        skipOptions false (c :: opts) := by
                      rw [hSkip, ← hc, hComma,
                        skipOptions_comma]
                    have hFuel' : rest.length < fuel := by
                      simp only [List.length_cons]
                        at hFuel hLength
                      omega
                    have hEnd' :
                        skipOptions false rest ≠ [] := by
                      rw [hTail]
                      exact hEnd
                    have hAccepted' :
                        (scanOptions peer fuel rest).2 =
                          true := by
                      simpa [hComma] using hAccepted
                    rcases ih hFuel' hEnd' hAccepted' with
                      ⟨text', hText', hList⟩
                    refine ⟨text ++ ',' :: text', ?_, ?_⟩
                    · rw [← hTail, List.append_assoc,
                        List.cons_append, ← hText', hOpts,
                        ← hc, hComma]
                    · simpa [hComma] using
                        IsOptionList.cons hOption hPermits
                          hList
                  · simp [hdBlank, hComma] at hAccepted
              · simp [hPermits] at hAccepted

end Ssh1
