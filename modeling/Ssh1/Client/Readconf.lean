import Mathlib.Logic.Function.Basic
import Ssh1.Auth.AuthorizedKeys
import Ssh1.Auth.Patterns
import Ssh1.Base.Unsigned
import Ssh1.Packet.Cipher

/-
  The configuration files of the client.

  A file is read in pieces that fit into the line buffer, and
  every piece is processed as a line. The lines behind a
  `Host` line are in effect if one of its patterns matches
  the host.

  Main declarations:
    * `Options`
    * `processConfigLine`
    * `readConfigFile`
    * `readSources`
-/

------------------------------------------------------------
-- Options
------------------------------------------------------------

namespace Ssh1

open QuotedText (Text)

/- The fields of `Options` of type `int`; -1 means unset. -/
inductive IntOption where
  | forwardAgent
  | forwardX11
  | rhostsAuthentication
  | rhostsRsaAuthentication
  | rsaAuthentication
  | kerberosAuthentication
  | kerberosTgtPassing
  | tisAuthentication
  | passwordAuthentication
  | fallbackToRsh
  | useRsh
  | batchMode
  | strictHostKeyChecking
  | compression
  | compressionLevel
  | keepalives
  | usePrivilegedPort
  | port
  | connectionAttempts
  | numberOfPasswordPrompts
  | passwordPromptLogin
  | passwordPromptHost
  | cipher
  | escapeChar
  | clearAllForwardings
  | gatewayPorts
  deriving DecidableEq, Repr

/- The fields of type `char *`; a null pointer means unset. -/
inductive StringOption where
  | hostname
  | proxyCommand
  | user
  | systemHostfile
  | userHostfile
  | xauthPath
  deriving DecidableEq, Repr

/- A forwarding request. -/
structure Forward where
  port : Int
  host : Text
  hostPort : Int
  deriving DecidableEq, Repr

/- A pointer into the structure is the name of a field. -/
structure Options where
  ints : IntOption → Int
  strings : StringOption → Option Text
  identityFiles : List Text
  localForwards : List Forward
  remoteForwards : List Forward

/- `initialize_options`: nothing is set. -/
def initializeOptions : Options where
  ints := fun _ => -1
  strings := fun _ => none
  identityFiles := []
  localForwards := []
  remoteForwards := []

namespace Options

/- Assigns an integer option. -/
def setInt
    (options : Options)
    (intptr : IntOption)
    (value : Int) : Options :=
  { options with
    ints := Function.update options.ints intptr value }

/- Assigns a string option. -/
def setString
    (options : Options)
    (charptr : StringOption)
    (value : Text) : Options :=
  { options with
    strings :=
      Function.update options.strings charptr (some value) }

end Options

/- What the options and the active flag are at a line. -/
structure ConfigState where
  options : Options
  active : Bool

namespace ConfigState

/- `if (*activep && *intptr == -1) *intptr = value;` -/
def assignInt
    (state : ConfigState)
    (intptr : IntOption)
    (value : Int) : ConfigState :=
  if state.active ∧ state.options.ints intptr = -1 then
    { state with
      options := state.options.setInt intptr value }
  else
    state

/- The same for a string, with a null pointer. -/
def assignString
    (state : ConfigState)
    (charptr : StringOption)
    (value : Text) : ConfigState :=
  if state.active ∧ state.options.strings charptr = none then
    { state with
      options := state.options.setString charptr value }
  else
    state

end ConfigState

end Ssh1

------------------------------------------------------------
-- Surroundings and Errors
------------------------------------------------------------

namespace Ssh1

open QuotedText (Text)

/- What the functions find in their surroundings. -/
structure ReadconfEnv where
  -- whether `original_real_uid` is that of root
  isRoot : Bool
  build : CipherBuild
  -- the home directory that `getpwuid` finds
  ownHome : Option Text
  -- the home directory that `getpwnam` finds
  homeOf : Text → Option Text

/- Where a line stands, for the messages. -/
structure ConfigPlace where
  filename : Text
  linenum : Nat

/- Why a line is not accepted. -/
inductive LineError where
  -- `fatal`, with the place before the message
  | fatal (message : String)
  -- a message on `stderr` and `exit`
  | exit (message : String)
  -- a null pointer is read
  | outOfBounds
  deriving DecidableEq, Repr

namespace ConfigPlace

/- How the process ends at a line that is not accepted. -/
def halt (place : ConfigPlace) : LineError → Halt
| .fatal message =>
    .fatal (String.ofList (place.filename.take 200) ++
      " line " ++ toString place.linenum ++ ": " ++ message)
| .exit message =>
    .exit (String.ofList place.filename ++ " line " ++
      toString place.linenum ++ ": " ++ message)
| .outOfBounds => .outOfBounds

/- What was read of the line, or the end of the process. -/
def check
    {α : Type}
    (place : ConfigPlace) :
    Except LineError α → Outcome α
| .ok a => .ok a
| .error e => .error (place.halt e)

end ConfigPlace

end Ssh1

------------------------------------------------------------
-- Keywords
------------------------------------------------------------

namespace Ssh1

open QuotedText (Text)

/- Keyword tokens. -/
inductive OpCodes where
  | oForwardAgent
  | oForwardX11
  | oRhostsAuthentication
  | oTISAuthentication
  | oPasswordAuthentication
  | oRSAAuthentication
  | oFallBackToRsh
  | oUseRsh
  | oIdentityFile
  | oHostName
  | oPort
  | oCipher
  | oRemoteForward
  | oLocalForward
  | oUser
  | oHost
  | oEscapeChar
  | oRhostsRSAAuthentication
  | oProxyCommand
  | oGlobalKnownHostsFile
  | oUserKnownHostsFile
  | oConnectionAttempts
  | oBatchMode
  | oStrictHostKeyChecking
  | oCompression
  | oCompressionLevel
  | oKeepAlives
  | oUsePrivilegedPort
  | oKerberosAuthentication
  | oKerberosTgtPassing
  | oClearAllForwardings
  | oNumberOfPasswordPrompts
  | oXauthPath
  | oGatewayPorts
  | oPasswordPromptLogin
  | oPasswordPromptHost
  deriving DecidableEq, Repr

open OpCodes in
/- Textual representations of the tokens. -/
def keywords : List (String × OpCodes) :=
  [("forwardagent", oForwardAgent),
    ("forwardx11", oForwardX11),
    ("rhostsauthentication", oRhostsAuthentication),
    ("passwordauthentication", oPasswordAuthentication),
    ("rsaauthentication", oRSAAuthentication),
    ("tisauthentication", oTISAuthentication),
    ("fallbacktorsh", oFallBackToRsh),
    ("usersh", oUseRsh),
    ("identityfile", oIdentityFile),
    ("hostname", oHostName),
    ("proxycommand", oProxyCommand),
    ("port", oPort),
    ("cipher", oCipher),
    ("remoteforward", oRemoteForward),
    ("localforward", oLocalForward),
    ("user", oUser),
    ("host", oHost),
    ("escapechar", oEscapeChar),
    ("rhostsrsaauthentication", oRhostsRSAAuthentication),
    ("globalknownhostsfile", oGlobalKnownHostsFile),
    ("userknownhostsfile", oUserKnownHostsFile),
    ("connectionattempts", oConnectionAttempts),
    ("batchmode", oBatchMode),
    ("stricthostkeychecking", oStrictHostKeyChecking),
    ("compression", oCompression),
    ("compressionlevel", oCompressionLevel),
    ("keepalive", oKeepAlives),
    ("usepriviledgedport", oUsePrivilegedPort),
    ("useprivilegedport", oUsePrivilegedPort),
    ("kerberosauthentication", oKerberosAuthentication),
    ("kerberostgtpassing", oKerberosTgtPassing),
    ("clearallforwardings", oClearAllForwardings),
    ("numberofpasswordprompts", oNumberOfPasswordPrompts),
    ("xauthlocation", oXauthPath),
    ("gatewayports", oGatewayPorts),
    ("passwordpromptlogin", oPasswordPromptLogin),
    ("passwordprompthost", oPasswordPromptHost)]

/- `parse_token`: the opcode of a keyword. -/
def parseToken (cp : Text) : Except LineError OpCodes :=
  match keywords.find? fun keyword =>
      keyword.1.toList = cp with
  | some keyword => .ok keyword.2
  | none => .error (.fatal "Bad configuration option.")

/- Characters considered whitespace in `strtok` calls. -/
def isWhitespace (c : Char) : Bool :=
  c = ' ' || c = '\t' || c = '\r' || c = '\n' || c = '='

/- What the calls of `strtok` return one after the other. -/
def strtokWords (cp : Text) : List Text :=
  (cp.splitOnP isWhitespace).filter (· ≠ [])

/- The text with `tolower` at each character. -/
def toLowerText (cp : Text) : Text :=
  cp.map Char.toLower

end Ssh1

------------------------------------------------------------
-- Numbers
------------------------------------------------------------

namespace Ssh1

open QuotedText (Text)

/- `strtol` of decimal digits, whose result is an `int`. -/
def strtolInt (negative : Bool) (digits : Text) : Int :=
  let value := decimalValue digits
  if negative then
    wrapInt (-(min value (2 ^ 63) : Nat))
  else
    wrapInt (min value (2 ^ 63 - 1) : Nat)

/- `atoi` of a text that starts with a digit. -/
def atoi (cp : Text) : Int :=
  strtolInt false (spanDigits cp).1

/- `isxdigit`. -/
def isXDigit (c : Char) : Bool :=
  c.isDigit || ('a' ≤ c && c ≤ 'f') || ('A' ≤ c && c ≤ 'F')

/- The value of a hexadecimal digit. -/
def xDigitValue (c : Char) : Int :=
  if 'a' ≤ c ∧ c ≤ 'f' then
    c.toNat - 'a'.toNat + 10
  else if 'A' ≤ c ∧ c ≤ 'F' then
    c.toNat - 'A'.toNat + 10
  else
    c.toNat - '0'.toNat

/- The loop over the digits, on an `int`. -/
def digitsValue (base : Int) (digits : Text) : Int :=
  digits.foldl
    (fun value c =>
      wrapInt (wrapInt (value * base) + xDigitValue c)) 0

/- A digit below 8. -/
def isOctalDigit (c : Char) : Bool :=
  c.isDigit && c < '8'

/- A number that starts with a zero is octal or hex. -/
def parseNumber : Text → Int
| '0' :: 'x' :: cp => digitsValue 16 (cp.takeWhile isXDigit)
| '0' :: cp => digitsValue 8 (cp.takeWhile isOctalDigit)
| cp => atoi cp

/- The test that is made before `atoi`. -/
def startsWithDigit : Text → Bool
| [] => false
| c :: _ => c.isDigit

/- `%d` of `sscanf` -/
def scanDecimal (cp : Text) : Option Int :=
  let (negative, cp) :=
    match cp.dropWhile isSpace with
    | '-' :: cp => (true, cp)
    | '+' :: cp => (false, cp)
    | cp => (false, cp)
  match spanDigits cp with
  | ([], _) => none
  | (c :: digits, _) => some (strtolInt negative (c :: digits))

/- `sscanf` with the format `%255[^:]:%d` -/
def scanHostPort (cp : Text) : Option (Text × Int) :=
  let buf := (cp.takeWhile (· ≠ ':')).take 255
  if buf = [] then
    none
  else
    match cp.drop buf.length with
    | ':' :: cp => do
        let fwdHostPort ← scanDecimal cp
        some (buf, fwdHostPort)
    | _ => none

end Ssh1

------------------------------------------------------------
-- Arguments
------------------------------------------------------------

namespace Ssh1

open QuotedText (Text)

/- What is read of the words, and the words after it. -/
abbrev Argument (α : Type) :=
  List Text → Except LineError (α × List Text)

/- The next argument, or the error for a missing one. -/
def nextWord
    (missing : LineError) : Argument Text
| [] => .error missing
| cp :: args => .ok (cp, args)

/- The error of most keywords without an argument. -/
def missingArgument : LineError :=
  .fatal "Missing argument."

/- Yes or no, or one of further words. -/
def wordArgument
    (kind : String)
    (further : List (String × Int)) : Argument Int :=
  fun args => do
    let (cp, args) ←
      nextWord (.fatal ("Missing " ++ kind ++ " argument."))
        args
    let cp := toLowerText cp
    if cp = "yes".toList ∨ cp = "true".toList then
      .ok (1, args)
    else if cp = "no".toList ∨ cp = "false".toList then
      .ok (0, args)
    else
      match further.find? fun word =>
          word.1.toList = cp with
      | some word => .ok (word.2, args)
      | none =>
          .error (.fatal ("Bad " ++ kind ++ " argument."))

/- The argument of `parse_flag`. -/
def yesNoArgument : Argument Int :=
  wordArgument "yes/no" []

/- The argument of `StrictHostKeyChecking`. -/
def yesNoAskArgument : Argument Int :=
  wordArgument "yes/no/ask" [("ask", 2)]

/- The argument of `parse_int`. -/
def numberArgument : Argument Int := fun args => do
  let (cp, args) ← nextWord missingArgument args
  if startsWithDigit cp then
    .ok (parseNumber cp, args)
  else
    .error (.fatal "Bad number.")

/- The words of a command, with a blank before each. -/
def commandArgument : Argument Text := fun args =>
  .ok (args.flatMap fun cp => ' ' :: cp, [])

/- `SSH_CIPHER_ARCFOUR`. -/
def sshCipherArcfour : Int := 5

/- `SSH_CIPHER_BLOWFISH`. -/
def sshCipherBlowfish : Int := 6

/- The name of a cipher is its place in the list. -/
def cipherNumber (build : CipherBuild) (name : Text) : Int :=
  if name = "rc4".toList then
    if build.withArcfour ∨ ¬ build.withBlowfish then
      sshCipherArcfour
    else
      sshCipherBlowfish
  else
    match cipherNames.findIdx? fun cipher =>
        cipher.toList = name with
    | none => -1
    | some i =>
        if ¬ build.withArcfour ∧ build.withBlowfish ∧
            (i : Int) = sshCipherArcfour then
          sshCipherBlowfish
        else
          i

/- Without an argument the null pointer is read. -/
def cipherArgument (build : CipherBuild) : Argument Int :=
  fun args => do
    let (cp, args) ← nextWord .outOfBounds args
    let value := cipherNumber build cp
    if value = -1 then
      .error (.fatal "Bad cipher.")
    else
      .ok (value, args)

/- A port, and the host and port to forward it to. -/
def forwardArgument : Argument Forward := fun args => do
  let (cp, args) ← nextWord missingArgument args
  if startsWithDigit cp then
    let fwdPort := atoi cp
    let (cp, args) ←
      nextWord (.fatal "Missing second argument.") args
    match scanHostPort cp with
    | none => .error (.fatal "Badly formatted host:port.")
    | some (buf, fwdHostPort) =>
        .ok ({
          port := fwdPort
          host := buf
          hostPort := fwdHostPort }, args)
  else
    .error (.fatal "Badly formatted port number.")

/- `^c`, one character, or `none`. -/
def escapeValue : Text → Option Int
| ['^', c] =>
    if 64 ≤ c.toNat ∧ c.toNat < 128 then
      some (c.toNat &&& 31 : Nat)
    else
      none
| [c] => some c.toNat
| cp => if cp = "none".toList then some (-2) else none

/- The argument of `EscapeChar`. -/
def escapeArgument : Argument Int := fun args => do
  let (cp, args) ← nextWord missingArgument args
  match escapeValue cp with
  | some value => .ok (value, args)
  | none => .error (.fatal "Bad escape character.")

/- The argument of `parse_pathname`. -/
def pathArgument : Argument Text :=
  nextWord (.exit "missing file name.")

end Ssh1

------------------------------------------------------------
-- Tildes
------------------------------------------------------------

namespace Ssh1

open QuotedText (Text)

/- The home directory of the user after a tilde. -/
def tildeHome
    (env : ReadconfEnv)
    (user : Text) : Outcome Text :=
  if user = [] then
    match env.ownHome with
    | none => .error (.fatal "Unknown user (self).")
    | some homedir => .ok homedir
  else if 99 < user.length then
    .error (.fatal "User name after tilde too long.")
  else
    match env.homeOf user with
    | none =>
        .error (.fatal
          ("Unknown user " ++ String.ofList user ++ "."))
    | some homedir => .ok homedir

/- `tilde_expand_filename`: the home directory in front. -/
def tildeExpandFilename
    (env : ReadconfEnv) :
    (filename : Text) → Outcome Text
| '~' :: filename => do
    let homedir ←
      tildeHome env (filename.takeWhile (· ≠ '/'))
    match filename.dropWhile (· ≠ '/') with
    | [] => .ok homedir
    | slash :: cp => .ok (homedir ++ slash :: cp)
| filename => .ok filename

end Ssh1

------------------------------------------------------------
-- Processing a Line
------------------------------------------------------------

namespace Ssh1

open QuotedText (Text)

/- `SSH_MAX_IDENTITY_FILES` -/
def sshMaxIdentityFiles : Nat := 100

/- `SSH_MAX_FORWARDS_PER_DIRECTION` -/
def sshMaxForwardsPerDirection : Nat := 100

/- `add_local_forward`, with its limits. -/
def addLocalForward
    (env : ReadconfEnv)
    (options : Options)
    (fwd : Forward) : Outcome Options :=
  if (fwd.port < 1024 ∨ 65535 < fwd.port) ∧ ¬ env.isRoot then
    .error (.fatal
      "Privileged ports can only be forwarded by root.")
  else if sshMaxForwardsPerDirection ≤
      options.localForwards.length then
    .error (.fatal "Too many local forwards (max 100).")
  else
    .ok { options with
      localForwards := options.localForwards ++ [fwd] }

/- `add_remote_forward`, with its limit. -/
def addRemoteForward
    (options : Options)
    (fwd : Forward) : Outcome Options :=
  if sshMaxForwardsPerDirection ≤
      options.remoteForwards.length then
    .error (.fatal "Too many remote forwards (max 100).")
  else
    .ok { options with
      remoteForwards := options.remoteForwards ++ [fwd] }

section Labels

variable (place : ConfigPlace) (state : ConfigState)

/- Reads a value and assigns it to an unset integer. -/
def parseInteger
    (argument : Argument Int)
    (intptr : IntOption)
    (args : List Text) : Outcome (ConfigState × List Text) := do
  let (value, args) ← place.check (argument args)
  .ok (state.assignInt intptr value, args)

/- Reads a text and assigns it to an unset string. -/
def parseText
    (argument : Argument Text)
    (charptr : StringOption)
    (args : List Text) : Outcome (ConfigState × List Text) := do
  let (value, args) ← place.check (argument args)
  .ok (state.assignString charptr value, args)

/- `parse_flag`: yes or no. -/
def parseFlag :=
  parseInteger place state yesNoArgument

/- `parse_int`: a number. -/
def parseInt :=
  parseInteger place state numberArgument

/- `parse_string`: a word. -/
def parseString :=
  parseText place state (nextWord missingArgument)

/- Unlike `parse_string`, this does not test the flag. -/
def parsePathname
    (env : ReadconfEnv)
    (charptr : StringOption)
    (args : List Text) : Outcome (ConfigState × List Text) := do
  let (cp, args) ← place.check (pathArgument args)
  if state.options.strings charptr = none then
    let expanded ← tildeExpandFilename env cp
    .ok ({ state with
      options := state.options.setString charptr expanded },
      args)
  else
    .ok (state, args)

/- `oIdentityFile`: the file is added to the list. -/
def parseIdentityFile
    (args : List Text) : Outcome (ConfigState × List Text) := do
  let (cp, args) ←
    place.check (nextWord missingArgument args)
  if state.active then
    if sshMaxIdentityFiles ≤
        state.options.identityFiles.length then
      .error (place.halt (.fatal
        "Too many identity files specified (max 100)."))
    else
      .ok ({ state with
        options := { state.options with
          identityFiles :=
            state.options.identityFiles ++ [cp] } }, args)
  else
    .ok (state, args)

/- The forwardings, which differ in the list they go to. -/
def parseForward
    (addForward : Options → Forward → Outcome Options)
    (args : List Text) : Outcome (ConfigState × List Text) := do
  let (fwd, args) ← place.check (forwardArgument args)
  if state.active then
    let options ← addForward state.options fwd
    .ok ({ state with options := options }, args)
  else
    .ok (state, args)

end Labels

/-
  The switch over the keywords: what becomes of the options
  and the flag, and which words follow. The branches of
  `oHost` and `oProxyCommand` return before the check for
  words at the end of the line.
-/
def processOpcode
    (env : ReadconfEnv)
    (host : Text)
    (place : ConfigPlace)
    (state : ConfigState)
    (args : List Text) :
    OpCodes → Outcome (ConfigState × List Text)
| .oForwardAgent =>
    parseFlag place state .forwardAgent args
| .oForwardX11 =>
    parseFlag place state .forwardX11 args
| .oRhostsAuthentication =>
    parseFlag place state .rhostsAuthentication args
| .oPasswordAuthentication =>
    parseFlag place state .passwordAuthentication args
| .oRSAAuthentication =>
    parseFlag place state .rsaAuthentication args
| .oTISAuthentication =>
    parseFlag place state .tisAuthentication args
| .oRhostsRSAAuthentication =>
    parseFlag place state .rhostsRsaAuthentication args
| .oKerberosAuthentication =>
    parseFlag place state .kerberosAuthentication args
| .oKerberosTgtPassing =>
    parseFlag place state .kerberosTgtPassing args
| .oFallBackToRsh =>
    parseFlag place state .fallbackToRsh args
| .oUseRsh =>
    parseFlag place state .useRsh args
| .oBatchMode =>
    parseFlag place state .batchMode args
| .oStrictHostKeyChecking =>
    parseInteger place state yesNoAskArgument
      .strictHostKeyChecking args
| .oCompression =>
    parseFlag place state .compression args
| .oKeepAlives =>
    parseFlag place state .keepalives args
| .oUsePrivilegedPort =>
    parseFlag place state .usePrivilegedPort args
| .oCompressionLevel =>
    parseInt place state .compressionLevel args
| .oIdentityFile =>
    parseIdentityFile place state args
| .oUser =>
    parseString place state .user args
| .oGlobalKnownHostsFile =>
    parseString place state .systemHostfile args
| .oUserKnownHostsFile =>
    parseString place state .userHostfile args
| .oHostName =>
    parseString place state .hostname args
| .oProxyCommand =>
    parseText place state commandArgument .proxyCommand args
| .oPort =>
    parseInt place state .port args
| .oConnectionAttempts =>
    parseInt place state .connectionAttempts args
| .oNumberOfPasswordPrompts =>
    parseInt place state .numberOfPasswordPrompts args
| .oPasswordPromptLogin =>
    parseFlag place state .passwordPromptLogin args
| .oPasswordPromptHost =>
    parseFlag place state .passwordPromptHost args
| .oCipher =>
    parseInteger place state (cipherArgument env.build) .cipher args
| .oClearAllForwardings =>
    parseFlag place state .clearAllForwardings args
| .oRemoteForward =>
    parseForward place state addRemoteForward args
| .oLocalForward =>
    parseForward place state (addLocalForward env) args
| .oHost =>
    .ok ({ state with
      active := args.any fun cp => matchPattern host cp }, [])
| .oEscapeChar =>
    parseInteger place state escapeArgument .escapeChar args
| .oXauthPath =>
    parsePathname place state env .xauthPath args
| .oGatewayPorts =>
    parseFlag place state .gatewayPorts args

/- The words of a line; none if it is empty or a comment. -/
def lineWords (line : Text) : List Text :=
  let cp := (lineText line).dropWhile isWhitespace
  if isEmptyOrComment cp then
    []
  else
    strtokWords cp

/- Processes a single option line. -/
def processConfigLine
    (env : ReadconfEnv)
    (host : Text)
    (place : ConfigPlace)
    (state : ConfigState)
    (line : Text) : Outcome ConfigState :=
  match lineWords line with
  | [] => .ok state
  | cp :: args => do
      let opcode ← place.check (parseToken (toLowerText cp))
      let (state, args) ←
        processOpcode env host place state args opcode
      if args = [] then
        .ok state
      else
        .error (place.halt (.fatal "garbage at end of line."))

end Ssh1

------------------------------------------------------------
-- Reading
------------------------------------------------------------

namespace Ssh1

open QuotedText (Text)

/- The size of the buffer `line` in `read_config_file`. -/
def configLineSize : Nat := 1024

/- The loop of `read_config_file` between two lines. -/
structure ReadState where
  config : ConfigState
  linenum : Nat

/- The body of the loop. -/
def readConfigLine
    (env : ReadconfEnv)
    (host : Text)
    (filename : Text)
    (state : ReadState)
    (line : Text) : Outcome ReadState := do
  let linenum := state.linenum + 1
  let config ←
    processConfigLine env host
      { filename := filename, linenum := linenum }
      state.config line
  .ok { config := config, linenum := linenum }

/- The pieces that a configuration file is read in. -/
def configPieces (file : Text) : List Text :=
  readPieces configLineSize file.length file

/- Reads the file, which is `none` if it cannot be opened. -/
def readConfigFile
    (env : ReadconfEnv)
    (host : Text)
    (filename : Text)
    (options : Options) :
    (file : Option Text) → Outcome Options
| none => .ok options
| some file => do
    let state ←
      FallibleRun.run (readConfigLine env host filename)
        { config := { options := options, active := true }
          linenum := 0 }
        (configPieces file)
    .ok state.config.options

/-
  A text that the client takes options from: the argument of
  `-o` on the command line, or a configuration file. The name
  of the host may stand behind the option.
-/
inductive ConfigSource where
  | option
      (hostSoFar : Text)
      (optarg : Text)
  | file
      (filename : Text)
      (contents : Option Text)

/- Processes one of the texts. -/
def readSource
    (env : ReadconfEnv)
    (host : Text)
    (options : Options) :
    ConfigSource → Outcome Options
| .option hostSoFar optarg => do
    let state ←
      processConfigLine env hostSoFar
        { filename := "command-line".toList, linenum := 0 }
        { options := options, active := true } optarg
    .ok state.options
| .file filename contents =>
    readConfigFile env host filename options contents

/- All texts in order, on options that are unset. -/
def readSources
    (env : ReadconfEnv)
    (host : Text)
    (sources : List ConfigSource) : Outcome Options :=
  FallibleRun.run (readSource env host) initializeOptions
    sources

end Ssh1
