import Ssh1.Auth.Dialogue

/-
  The authentication of a client.

  The server reads one request after the other until one of
  them is accepted. What it asks outside of its own code, and
  what the clocks and files of the machine say, is given by
  the environment, anew for each time that it is asked.

  Main declarations:
    * `LoginEnv`
    * `Session.authRsaChallengeDialog`, `Session.authRsa`
    * `Session.authenticationRequest`
    * `doAuthenticationFailLoop`, `doAuthentication`
-/

------------------------------------------------------------
-- Configuration
------------------------------------------------------------

namespace Ssh1

open QuotedText (Text)

/- The server options that the authentication reads. -/
structure AuthenticationOptions where
  rhostsAuthentication : Bool
  rhostsRsaAuthentication : Bool
  rsaAuthentication : Bool
  tisAuthentication : Bool
  passwordAuthentication : Bool
  permitEmptyPasswd : Bool
  forcedEmptyPasswdChange : Bool
  -- 0 is no, 1 is nopwd, 2 is yes
  permitRootLogin : Nat

/-
  What a function outside of this model answers: the debug
  messages that it sends, and then what it returns.
-/
structure Answer where
  messages : List String
  verdict : Outcome Bool

/-
  What `auth_password` finds. The methods that are compiled
  in before the stored password may decide; else there are
  debug messages, the stored password, and what comparing
  with it comes to.
-/
inductive PasswordLookup where
  | decided (answer : Answer)
  | stored (messages : List String)
      (correctPasswd : List UInt8)
      (identical : Outcome Bool)

/- The encrypted challenge, and the digest to answer with. -/
structure RsaChallenge where
  encrypted : Nat
  digest : List UInt8

/- What the authentication server greets with. -/
inductive TisGreeting where
  | noConnection
  | badResponse
  | ready
  deriving DecidableEq

/- What it says when asked for an authorization. -/
inductive TisReply where
  | challenge (text : List UInt8)
  | password
  | unknownUser
  deriving DecidableEq

/-
  A `Nat` argument is the number of arrivals that were taken
  before the question.
-/
structure LoginEnv where
  options : AuthenticationOptions
  user : List UInt8
  -- the uid that `getpwnam` finds for the user
  pwUid : Option Nat
  loginPermitted : Bool
  -- `getuid ()`
  serverUid : Nat
  canonicalHostname : String
  privilegedPort : Bool
  cipherType : CipherType
  packetDebugOn : Bool
  -- compiled with `HAVE_TIS`
  haveTis : Bool
  -- `PASSWD_PATH`
  passwdPath : Text
  passwordLookup : Nat → (password : List UInt8) → PasswordLookup
  authRhosts : Nat → (clientUser : List UInt8) → Answer
  hostKeyKnown : Nat → AuthorizedKey → Answer
  rsaChallenge : Nat → AuthorizedKey → Outcome RsaChallenge
  -- its modulus and its dialog are not used
  rsaSurroundings : Nat → AuthRsaEnv
  -- what is sent about a line, at 0 about the file
  rsaMessages : Nat → (linenum : Nat) → List String
  tisGreeting : Nat → TisGreeting
  tisMappedName : Nat → Option (List UInt8)
  tisReply : Nat → TisReply
  tisVerdict : Nat → (password : List UInt8) → Outcome Bool

/-
  The answer of `auth_password`, and the command that it sets
  for an account without a password.
-/
structure PasswordAnswer extends Answer where
  forcedCommand : Option Text

namespace LoginEnv

/- The command that changes the password of the user. -/
def passwdCommand (env : LoginEnv) : Text :=
  env.passwdPath.take 100 ++
    ' ' :: (cStringText (env.user.take 100)).toList

/- What `auth_password` sends, sets and returns. -/
def passwordAnswer
    (env : LoginEnv)
    (time : Nat)
    (password : List UInt8) : PasswordAnswer :=
  let empty := (cString password).isEmpty
  if empty ∧ ¬ env.options.permitEmptyPasswd then
    ⟨⟨["Server does not permit empty password login."],
      .ok false⟩, none⟩
  else
    match env.passwordLookup time password with
    | .decided answer => ⟨answer, none⟩
    | .stored messages correctPasswd identical =>
        if empty ∧ (cString correctPasswd).isEmpty then
          if env.options.forcedEmptyPasswdChange then
            ⟨⟨messages ++
                ["Password if forced to be set at first " ++
                  "login."],
              .ok true⟩, some env.passwdCommand⟩
          else
            ⟨⟨messages ++
                ["Login permitted without a password " ++
                  "because the account has no password."],
              .ok true⟩, none⟩
        else
          ⟨⟨messages, identical⟩, none⟩

end LoginEnv

/- The authentication types. -/
inductive AuthenticationType where
  | rhosts
  | rsa
  | password
  | rhostsRsa
  | tis
  deriving DecidableEq

/- `SSH_CMSG_AUTH_RHOSTS` -/
def sshCmsgAuthRhosts : UInt8 := 5

/- `SSH_CMSG_AUTH_RSA` -/
def sshCmsgAuthRsa : UInt8 := 6

/- `SSH_SMSG_AUTH_RSA_CHALLENGE` -/
def sshSmsgAuthRsaChallenge : UInt8 := 7

/- `SSH_CMSG_AUTH_RSA_RESPONSE` -/
def sshCmsgAuthRsaResponse : UInt8 := 8

/- `SSH_CMSG_AUTH_PASSWORD` -/
def sshCmsgAuthPassword : UInt8 := 9

/- `SSH_CMSG_AUTH_RHOSTS_RSA` -/
def sshCmsgAuthRhostsRsa : UInt8 := 35

/- `SSH_CMSG_AUTH_TIS` -/
def sshCmsgAuthTis : UInt8 := 39

/- `SSH_SMSG_AUTH_TIS_CHALLENGE` -/
def sshSmsgAuthTisChallenge : UInt8 := 40

/- `SSH_CMSG_AUTH_TIS_RESPONSE` -/
def sshCmsgAuthTisResponse : UInt8 := 41

end Ssh1

------------------------------------------------------------
-- Questions
------------------------------------------------------------

namespace Ssh1

namespace Session

open Recorded

/- `packet_send_debug`, for each of the messages -/
def packetSendDebug
    (env : LoginEnv) : List String → Session Unit
| [] => pure ()
| message :: messages => do
    if env.packetDebugOn then
      packetSend (debugPacket message)
    packetSendDebug env messages

/- Asks a function outside of this model. -/
def consult
    (env : LoginEnv)
    (question : Nat → Answer) : Session Bool := do
  let state ← get
  let answer := question state.time
  packetSendDebug env answer.messages
  ofOutcome answer.verdict

/- Tries to authenticate the user using password. -/
def authPassword
    (env : LoginEnv)
    (password : List UInt8) : Session Bool := do
  let state ← get
  let answer := env.passwordAnswer state.time password
  if answer.forcedCommand.isSome then
    modify fun state => {
      state with
      restrictions := {
        state.restrictions with
        forcedCommand := answer.forcedCommand } }
  consult env fun time =>
    (env.passwordAnswer time password).toAnswer

/- Asks whether an attempt is accepted. -/
def decideOn
    (attempt : Attempt)
    (authenticator : Session Bool) : Session Bool := do
  record (.asked attempt)
  let accepted ← authenticator
  record (.verdict attempt accepted)
  return accepted

end Session

end Ssh1

------------------------------------------------------------
-- RSA
------------------------------------------------------------

namespace Ssh1

open QuotedText (Text)

namespace Session

open Recorded

/-
  Performs the RSA authentication challenge-response dialog
  with the client.
-/
def authRsaChallengeDialog
    (env : LoginEnv)
    (key : AuthorizedKey) : Session Bool := do
  let state ← get
  let challenge ←
    ofOutcome (env.rsaChallenge state.time key)
  let payload ←
    ofOutcome (bufferPutMpInt [] challenge.encrypted)
  packetSend ⟨sshSmsgAuthRsaChallenge, payload⟩
  packetReadExpect sshCmsgAuthRsaResponse
  -- sixteen times `packet_get_char`
  let response ← packetGet fun buffer => bufferGet buffer 16
  return response = challenge.digest

/- The options of a key, whose challenge was answered. -/
def authRsaOptions
    (peer : Peer)
    (opts : Option Text) : Session Bool :=
  match opts with
  | none => pure true
  | some opts => do
      let state ← get
      let (restrictions, accepted, _) ←
        ofOutcome
          (processOptions peer (opts.length + 1)
            state.restrictions opts)
      modify fun state => { state with restrictions }
      return accepted

/-
  The body of the loop over the pieces of the file that was
  found at the time.
-/
def authRsaLine
    (env : LoginEnv)
    (time clientN : Nat)
    (messages : List String)
    (line : Text) : Session Bool :=
  let cp := skipBlanks (lineText line)
  if isEmptyOrComment cp then
    pure false
  else
    let (opts, cp) := splitOptions cp
    match authRsaReadKey cp with
    | none => do
        packetSendDebug env messages
        return false
    | some (key, _) =>
        if key.n ≠ clientN then
          pure false
        else do
          let answered ← authRsaChallengeDialog env key
          if answered then
            let accepted ←
              authRsaOptions (env.rsaSurroundings time).peer
                opts
            packetSendDebug env messages
            return accepted
          else
            packetSendDebug env messages
            return false

/- The loop over the pieces. -/
def authRsaLines
    (env : LoginEnv)
    (time clientN : Nat) :
    (linenum : Nat) → List Text → Session Bool
| _, [] => pure false
| linenum, line :: lines => do
    let authenticated ←
      authRsaLine env time clientN
        (env.rsaMessages time linenum) line
    if authenticated then
      return true
    else
      authRsaLines env time clientN (linenum + 1) lines

/- The RSA authentication dialog. -/
def authRsa
    (env : LoginEnv)
    (clientN : Nat) : Session Bool := do
  let state ← get
  let time := state.time
  packetSendDebug env (env.rsaMessages time 0)
  let authenticated ←
    authRsaLines env time clientN 1
      (env.rsaSurroundings time).pieces
  if authenticated then
    packetSendDebug env ["RSA authentication accepted."]
    return true
  else
    return false

/-
  Rhosts authentication with the host key of the client. Its
  own debug messages come with the answers.
-/
def authRhostsRsa
    (env : LoginEnv)
    (clientUser : List UInt8)
    (key : AuthorizedKey) : Session Bool := do
  let rhosts ← consult env (env.authRhosts · clientUser)
  if rhosts then
    let known ← consult env (env.hostKeyKnown · key)
    if known then
      let answered ← authRsaChallengeDialog env key
      if answered then
        packetSendDebug env
          ["Rhosts with RSA host authentication accepted."]
        return true
      else
        return false
    else
      return false
  else
    return false

end Session

end Ssh1

------------------------------------------------------------
-- Requests
------------------------------------------------------------

namespace Ssh1

namespace Session

open Recorded

/- What a format with a precision prints of a text. -/
def textUpTo (precision : Nat) (text : String) : String :=
  String.ofList (text.toList.take precision)

/- A request whose method is not available. -/
def refuse : Session (Option AuthenticationType) := do
  packetGetAll
  return none

/- An attempt, and how the client is authenticated by it. -/
def offer
    (attempt : Attempt)
    (authenticationType : AuthenticationType)
    (authenticator : Session Bool) :
    Session (Option AuthenticationType) := do
  let accepted ← decideOn attempt authenticator
  return if accepted then some authenticationType else none

/- The case of `SSH_CMSG_AUTH_RHOSTS`. -/
def rhostsRequest
    (env : LoginEnv) :
    Session (Option AuthenticationType) :=
  if ¬ env.options.rhostsAuthentication then
    refuse
  else if ¬ env.privilegedPort then
    refuse
  else do
    let clientUser ← packetGetString
    offer (.rhosts clientUser) .rhosts
      (consult env (env.authRhosts · clientUser))

/- The case of `SSH_CMSG_AUTH_RHOSTS_RSA`. -/
def rhostsRsaRequest
    (env : LoginEnv) :
    Session (Option AuthenticationType) :=
  if ¬ env.options.rhostsRsaAuthentication then
    refuse
  else if ¬ env.privilegedPort then
    refuse
  else if env.cipherType = .none then
    refuse
  else if env.cipherType = .arcfour then
    refuse
  else do
    let clientUser ← packetGetString
    let bits ← packetGetInt
    let e ← packetGetMpInt
    let n ← packetGetMpInt
    let key : AuthorizedKey := { bits, e, n }
    offer (.rhostsRsa clientUser key) .rhostsRsa
      (authRhostsRsa env clientUser key)

/- The case of `SSH_CMSG_AUTH_RSA`. -/
def rsaRequest
    (env : LoginEnv) :
    Session (Option AuthenticationType) :=
  if ¬ env.options.rsaAuthentication then
    refuse
  else do
    let n ← packetGetMpInt
    offer (.rsa n) .rsa (authRsa env n)

/- The prompt that goes with a challenge. -/
def tisPrompt (text : List UInt8) : List UInt8 :=
  "Challenge \"".toUTF8.toList ++ text.take 100 ++
    "\": ".toUTF8.toList

/- The client is asked for its response. -/
def tisDialog
    (env : LoginEnv)
    (prompt : List UInt8) :
    Session (Option AuthenticationType) := do
  packetSend
    ⟨sshSmsgAuthTisChallenge, bufferPutString [] prompt⟩
  let type ← packetRead
  if type ≠ sshCmsgAuthTisResponse then
    packetGetAll
    return none
  else
    let password ← packetGetString
    offer (.tis password) .tis (do
      let state ← get
      ofOutcome (env.tisVerdict state.time password))

/-
  The case of `SSH_CMSG_AUTH_TIS`. Without the authentication
  server a failure is sent, and the loop sends another one.
-/
def tisRequest
    (env : LoginEnv) :
    Session (Option AuthenticationType) :=
  if ¬ env.options.tisAuthentication then
    refuse
  else do
    let state ← get
    match env.tisGreeting state.time with
    | .noConnection => do
        packetSend failurePacket
        return none
    | .badResponse => do
        packetSend failurePacket
        return none
    | .ready =>
        let name :=
          (env.tisMappedName state.time).getD env.user
        if name.length > 100 then
          return none
        else
          match env.tisReply state.time with
          | .challenge text => tisDialog env (tisPrompt text)
          | .password =>
              tisDialog env "Password: ".toUTF8.toList
          | .unknownUser => return none

/- The case of `SSH_CMSG_AUTH_PASSWORD`. -/
def passwordRequest
    (env : LoginEnv)
    (passwordAttempts : Nat) :
    Session (Option AuthenticationType × Nat) :=
  if ¬ env.options.passwordAuthentication then do
    let refused ← refuse
    return (refused, passwordAttempts)
  else if env.cipherType = .none then do
    let refused ← refuse
    return (refused, passwordAttempts)
  else do
    let password ← packetGetString
    if passwordAttempts ≥ 5 then
      packetDisconnect
        ("Too many password authentication attempts from " ++
          textUpTo 100 env.canonicalHostname ++
          " for user " ++ cStringText (env.user.take 100) ++
          ".")
    else
      let authenticated ←
        offer (.password password) .password
          (authPassword env password)
      return (authenticated, passwordAttempts + 1)

/-
  The switch over the type of a request: how the client was
  authenticated, if it was, and the password attempts.
-/
def authenticationRequest
    (env : LoginEnv)
    (passwordAttempts : Nat)
    (type : UInt8) :
    Session (Option AuthenticationType × Nat) := do
  if type = sshCmsgAuthRhosts then
    return (← rhostsRequest env, passwordAttempts)
  else if type = sshCmsgAuthRhostsRsa then
    return (← rhostsRsaRequest env, passwordAttempts)
  else if type = sshCmsgAuthRsa then
    return (← rsaRequest env, passwordAttempts)
  else if env.haveTis ∧ type = sshCmsgAuthTis then
    return (← tisRequest env, passwordAttempts)
  else if type = sshCmsgAuthPassword then
    passwordRequest env passwordAttempts
  else
    -- Any unknown messages will be ignored.
    return (← refuse, passwordAttempts)

end Session

end Ssh1

------------------------------------------------------------
-- Logins
------------------------------------------------------------

namespace Ssh1

namespace Session

open Recorded

/- Waits for the next request. -/
def readRequest : Session UInt8 := do
  let type ← packetRead
  let state ← get
  record (.request state.time type)
  return type

/- The loop, for at most `fuel` requests. -/
def authenticationLoop
    (env : LoginEnv) :
    (fuel passwordAttempts : Nat) →
      Session AuthenticationType
| 0, _ => stop (.halted .diverges)
| fuel + 1, passwordAttempts => do
    let type ← readRequest
    let (authenticated, passwordAttempts) ←
      authenticationRequest env passwordAttempts type
    match authenticated with
    | some authenticationType => return authenticationType
    | none =>
        packetSend failurePacket
        authenticationLoop env fuel passwordAttempts

/- `UID_ROOT` -/
def uidRoot : Nat := 0

/- Whether root logins are disallowed. -/
def checkRootLogin
    (env : LoginEnv)
    (pwUid : Nat)
    (authenticationType : AuthenticationType) :
    Session Unit := do
  let message := "ROOT LOGIN REFUSED FROM " ++
    textUpTo 200 env.canonicalHostname
  if pwUid = uidRoot ∧ env.options.permitRootLogin = 1 then
    if authenticationType = .password then
      packetDisconnect message
  else if
      pwUid = uidRoot ∧ env.options.permitRootLogin = 0 then
    let state ← get
    if state.restrictions.forcedCommand.isNone then
      packetDisconnect message

/- The loop that fails, for at most `fuel` requests. -/
def failLoop : (fuel : Nat) → Session Unit
| 0 => stop (.halted .diverges)
| fuel + 1 => do
    let _ ← readRequest
    packetGetAll
    packetSend failurePacket
    failLoop fuel

end Session

open Session Recorded

/-
  Fails all authentication requests. Each turn takes a packet
  that arrives, so there are fewer turns than arrivals.
-/
def doAuthenticationFailLoop : Session Unit := do
  Session.packetSend failurePacket
  let state ← get
  failLoop (state.arrivals.length + 1)

/- Names that start NIS entries are disallowed. -/
def LoginEnv.userAllowed (env : LoginEnv) : Bool :=
  match env.user.head? with
  | none => true
  | some c => c ≠ 45 ∧ c ≠ 43 ∧ c ≠ 64

/- Whether the user has no password. -/
def checkEmptyPassword (env : LoginEnv) : Session Bool :=
  if env.options.passwordAuthentication then
    decideOn .emptyPassword (authPassword env [])
  else
    pure false

/- Waits until the user has been authenticated. -/
def authenticate
    (env : LoginEnv) : Session AuthenticationType := do
  let accepted ← checkEmptyPassword env
  if accepted then
    pure .password
  else do
    Session.packetSend failurePacket
    let state ← get
    authenticationLoop env (state.arrivals.length + 1) 0

/- The part after the account was found. -/
def authenticateAccount
    (env : LoginEnv)
    (pwUid : Nat) : Session Unit :=
  if env.serverUid ≠ uidRoot ∧ pwUid ≠ env.serverUid then
    Session.packetDisconnect
      "Cannot change user when server not running as root."
  else do
    let authenticationType ← authenticate env
    checkRootLogin env pwUid authenticationType
    Session.packetSend successPacket

/-
  Performs authentication of an incoming connection, up to
  the message about its success.
-/
def doAuthentication (env : LoginEnv) : Session Unit :=
  if env.user.length > 255 then
    doAuthenticationFailLoop
  else
    match env.pwUid with
    | none => doAuthenticationFailLoop
    | some pwUid =>
        if ¬ env.userAllowed ∨ ¬ env.loginPermitted then
          doAuthenticationFailLoop
        else
          authenticateAccount env pwUid

end Ssh1
