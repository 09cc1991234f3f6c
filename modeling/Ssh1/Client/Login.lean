import Ssh1.Agent.RsaChallenge
import Ssh1.Auth.KeyFile
import Ssh1.Auth.KnownHosts

/-
  The login of the client.

  After the versions have been exchanged the client takes the
  keys of the server, looks up the host key, sends a session
  key and then tries one way of authentication after the
  other. The packets that it reads come from any server.

  Main declarations:
    * `ClientLoginEnv`, `ClientLoginState`
    * `ClientLoginEvent`, `LoggingIn`
    * `sshLogin`
-/

------------------------------------------------------------
-- Settings
------------------------------------------------------------

namespace Ssh1

open QuotedText (Text)

/- `SSH_SMSG_PUBLIC_KEY` -/
def sshSmsgPublicKey : UInt8 := 2

/- `SSH_CMSG_SESSION_KEY` -/
def sshCmsgSessionKey : UInt8 := 3

/- `SSH_CMSG_USER` -/
def sshCmsgUser : UInt8 := 4

/- The numbers of the authentication methods. -/
def sshAuthRhosts : Nat := 1

/- `SSH_AUTH_RSA`, the number of the method. -/
def sshAuthRsa : Nat := 2

/- `SSH_AUTH_PASSWORD`. -/
def sshAuthPassword : Nat := 3

/- `SSH_AUTH_RHOSTS_RSA`. -/
def sshAuthRhostsRsa : Nat := 4

/- `SSH_AUTH_TIS`. -/
def sshAuthTis : Nat := 5

/- `SSH_CIPHER_IDEA` -/
def sshCipherIdea : Nat := 1

/- `SSH_FALLBACK_CIPHER` -/
def sshFallbackCipher : Nat := 3

/- The options of the client that the login reads. -/
structure ClientLoginOptions where
  -- 0 is no, 1 is yes, 2 is ask
  strictHostKeyChecking : Nat
  batchMode : Bool
  rhostsAuthentication : Bool
  rhostsRsaAuthentication : Bool
  rsaAuthentication : Bool
  tisAuthentication : Bool
  passwordAuthentication : Bool
  numberOfPasswordPrompts : Nat
  -- none if it is not set
  cipher : Option Nat

/- An agent, by the bytes that it sends for a request. -/
abbrev AgentBytes := List UInt8 → List UInt8

/-
  What the user is asked to type: the passphrase of a key
  file, the response to a challenge, or the password, each
  time that it is asked for.
-/
inductive Prompt where
  | passphrase (file : Nat)
  | tis
  | password (attempt : Nat)
  deriving DecidableEq

/- What the login depends on besides the connection. -/
structure ClientLoginEnv where
  options : ClientLoginOptions
  origHost : Text
  localUser : List UInt8
  serverUser : List UInt8
  -- the known hosts of the user and of the system
  userHostfile : Option Text
  systemHostfile : Option Text
  -- the lines that the user answers a question with, if
  -- there is a terminal
  confirmation : Option (List Text)
  -- what the user types at each prompt, if there is a
  -- terminal to type at
  typed : Prompt → Except String (List UInt8)
  -- the host key of the client, if it is valid
  ownHostKey : Option RSAPrivateKey
  -- an agent may answer otherwise as time goes on
  agent : Option (Nat → AgentBytes)
  identityFiles : List KeyFileRead
  -- the random bytes of the session key
  sessionKey : List UInt8
  build : CipherBuild
  tables : CipherTables
  md5 : List UInt8 → List UInt8
  length_md5 : ∀ text, (md5 text).length = 16

/- What the key files are read with. -/
def ClientLoginEnv.keyFileEnv
    (env : ClientLoginEnv) : KeyFileEnv where
  build := env.build
  tables := env.tables
  md5 := env.md5
  length_md5 := env.length_md5

/- The first packet of the server. -/
structure ServerKeys where
  cookie : List UInt8
  publicKey : RSAPublicKey
  hostKey : RSAPublicKey
  supportedCiphers : Nat
  supportedAuthentications : Nat

/- The id of the session, from the keys and the cookie. -/
def ServerKeys.sessionId
    (md5 : List UInt8 → List UInt8)
    (keys : ServerKeys) : List UInt8 :=
  computeSessionId md5 keys.cookie keys.hostKey.bits
    keys.hostKey.n keys.publicKey.bits keys.publicKey.n

/-
  What happens during a login of the client. No function
  reads these events.
-/
inductive ClientLoginEvent where
  -- on the connection
  | link (exchange : Exchange)
  -- what is known of the host key of the server
  | met (keys : ServerKeys) (status : HostStatus)
  -- the session key and the cipher are in use
  | keyed (cipher : Nat)
  -- the user is asked, and has typed something
  | prompted (prompt : Prompt)
  | typed (prompt : Prompt) (text : List UInt8)
  -- the client uses a private key
  | answered (key : RSAPublicKey) (challenge : Nat)
      (response : List UInt8)
  -- the agent is asked to use a private key
  | askedAgent (key : RSAPublicKey) (challenge : Nat)
      (sessionId : List UInt8) (response : List UInt8)

/- What a login changes. -/
structure ClientLoginState where
  link : LoginState
  random : RandomState
  -- the options that a changed host key switches off
  forwardAgent : Bool
  forwardX11 : Bool
  numLocalForwards : Nat
  numRemoteForwards : Nat

/- A computation of the client. -/
abbrev LoggingIn (α : Type) :=
  Recorded ClientLoginEvent Ending ClientLoginState α

end Ssh1

------------------------------------------------------------
-- The Connection and the User
------------------------------------------------------------

namespace Ssh1

open QuotedText (Text)

namespace LoggingIn

open Recorded

variable {α : Type}

/- What is done with the packets, which both sides share. -/
def onLink (m : Session α) : LoggingIn α :=
  ofRuns fun state =>
    let run := m state.link
    ⟨run.events.map .link,
      run.result.map fun (a, link) => (a, { state with link })⟩

/- `fatal`: the client ends with a message. -/
def fatal (message : String) : LoggingIn α :=
  stop (.halted (.fatal message))

/- `packet_disconnect` of the client. -/
def packetDisconnect (message : String) : LoggingIn α :=
  onLink (Session.packetDisconnect message)

/- A value that its computation may fail to give. -/
def ofOutcome (outcome : Outcome α) : LoggingIn α :=
  onLink (Session.ofOutcome outcome)

/- `packet_read` of the client. -/
def packetRead : LoggingIn UInt8 :=
  onLink Session.packetRead

/- The end of a login that gets an unexpected packet. -/
def packetReadExpect (expected : UInt8) : LoggingIn Unit := do
  let type ← packetRead
  if type ≠ expected then
    packetDisconnect
      ("Protocol error: expected packet type " ++
        toString expected.toNat ++ ", got " ++
        toString type.toNat)
  else
    return ()

/- One of the `packet_get` functions. -/
def packetGet
    (get' : Buffer → Outcome (α × Buffer)) : LoggingIn α :=
  onLink (Session.packetGet get')

/- `max_packet_size` -/
def maxPacketSize : Nat := 256000

/- A packet is built, and sent if it is not too big. -/
def packetSend
    (type : UInt8)
    (payload : Buffer) : LoggingIn Unit :=
  -- eight bytes for padding, and the type
  let size := 9 + payload.length
  if size ≥ maxPacketSize - 30 then
    fatal
      ("packet_send: sending too big a packet: size " ++
        toString size ++ ", limit " ++
        toString maxPacketSize ++ ".")
  else
    onLink (Session.packetSend ⟨type, payload⟩)

/- `read_passphrase` -/
def readPassphrase
    (env : ClientLoginEnv)
    (prompt : Prompt) : LoggingIn (List UInt8) := do
  record (.prompted prompt)
  match env.typed prompt with
  | .error message => fatal message
  | .ok text =>
      record (.typed prompt (cString text))
      return cString text

/- A line without the spaces around it. -/
def stripSpaces (line : Text) : Text :=
  ((line.reverse.dropWhile isSpace).reverse).dropWhile isSpace

/- The loop of `read_confirmation` -/
def readAnswers : List Text → LoggingIn Unit
| [] => fatal "Aborted by user"
| line :: lines =>
    if stripSpaces line = "no".toList then
      -- nothing is printed
      fatal ""
    else if stripSpaces line = "yes".toList then
      return ()
    else
      readAnswers lines

/- `read_confirmation`, which exits unless the user agrees. -/
def readConfirmation : Option (List Text) → LoggingIn Unit
| none =>
    fatal
      "You have no controlling tty.  Cannot read confirmation."
| some lines => readAnswers lines

end LoggingIn

end Ssh1

------------------------------------------------------------
-- The Host Key
------------------------------------------------------------

namespace Ssh1

open QuotedText (Text)

/- The host that is logged in to. -/
def ClientLoginEnv.host (env : ClientLoginEnv) : Text :=
  let host := env.origHost.map Char.toLower
  if host = "localhost".toList then
    "127.0.0.1".toList
  else
    host

/- What is known of the host key. -/
def ClientLoginEnv.hostStatus
    (env : ClientLoginEnv)
    (hostKey : RSAPublicKey) : HostStatus :=
  let key : HostKey :=
    { bits := UInt32.ofNat hostKey.bits
      e := hostKey.e
      n := hostKey.n }
  let status :=
    checkHostInHostfile env.userHostfile env.host key
  let status :=
    if status = .new then
      checkHostInHostfile env.systemHostfile env.host key
    else
      status
  if env.host = "127.0.0.1".toList then .ok else status

namespace LoggingIn

open Recorded

/- The keys of the server, and what it supports. -/
def readServerKeys : LoggingIn ServerKeys := do
  packetReadExpect sshSmsgPublicKey
  let cookie ← packetGet (bufferGetChars 8)
  let publicBits ← packetGet bufferGetInt
  let publicE ← packetGet bufferGetMpInt
  let publicN ← packetGet bufferGetMpInt
  if publicE = 1 then
    packetDisconnect
      "Protocol error: Invalid public exponent in server key."
  else
    let hostBits ← packetGet bufferGetInt
    let hostE ← packetGet bufferGetMpInt
    let hostN ← packetGet bufferGetMpInt
    if hostE = 1 then
      packetDisconnect
        "Protocol error: Invalid public exponent in host key."
    else
      let _protocolFlags ← packetGet bufferGetInt
      let supportedCiphers ← packetGet bufferGetInt
      let supportedAuthentications ← packetGet bufferGetInt
      return {
        cookie
        publicKey :=
          { bits := publicBits, e := publicE, n := publicN }
        hostKey := { bits := hostBits, e := hostE, n := hostN }
        supportedCiphers
        supportedAuthentications }

/- The user is asked, unless nobody is there. -/
def confirmHost (env : ClientLoginEnv) : LoggingIn Unit :=
  if env.options.strictHostKeyChecking = 2 then
    if env.options.batchMode then
      fatal
        ("No host key is known for " ++
          String.ofList (env.host.take 200) ++
          " and cannot confirm operation when running in" ++
          " batch mode.")
    else
      readConfirmation env.confirmation
  else
    return ()

/- A changed host key switches off what is forwarded. -/
def ClientLoginState.withoutForwarding
    (state : ClientLoginState) : ClientLoginState :=
  { state with
    forwardAgent := false
    forwardX11 := false
    numLocalForwards := 0
    numRemoteForwards := 0 }

/- Goes on or not, by what is known of the host key. -/
def judgeHost
    (env : ClientLoginEnv) : HostStatus → LoggingIn Unit
| .ok => return ()
| .new =>
    if env.options.strictHostKeyChecking = 1 then
      fatal
        ("No host key is known for " ++
          String.ofList (env.host.take 200) ++
          " and you have requested strict checking.")
    else
      confirmHost env
| .changed =>
    if env.options.strictHostKeyChecking = 1 then
      fatal
        ("Host key for " ++
          String.ofList (env.host.take 200) ++
          " has changed and you have requested strict" ++
          " checking.")
    else do
      modify ClientLoginState.withoutForwarding
      confirmHost env

end LoggingIn

end Ssh1

------------------------------------------------------------
-- The Session Key
------------------------------------------------------------

namespace Ssh1

/- The cipher, by the options and what both sides support. -/
def ClientLoginEnv.selectCipher
    (env : ClientLoginEnv)
    (supportedCiphers : Nat) : Nat :=
  match env.options.cipher with
  | some cipher => cipher
  | none =>
      if cipherMask env.build &&& supportedCiphers &&&
          (1 <<< sshCipherIdea) ≠ 0 then
        sshCipherIdea
      else
        sshFallbackCipher

/-
  `packet_set_encryption_key`, for what it may fail with. The
  key is cut in two for arcfour.
-/
def ClientLoginEnv.setEncryptionKey
    (env : ClientLoginEnv)
    (cipher : Nat) : Outcome Unit := do
  let key := env.sessionKey
  if CipherType.ofNumber cipher = .arcfour then
    let _ ← cipherSetKey env.build env.tables cipher
      (key.take 16) false
    let _ ← cipherSetKey env.build env.tables cipher
      (key.drop 16) true
  else
    let _ ←
      cipherSetKey env.build env.tables cipher key false
    let _ ← cipherSetKey env.build env.tables cipher key true

namespace LoggingIn

open Recorded

/- Sends the session key and puts it to use. -/
def sendSessionKey
    (env : ClientLoginEnv)
    (keys : ServerKeys) : LoggingIn Unit := do
  let state ← get
  let (key, random) ←
    ofOutcome (encryptSessionKey keys.publicKey keys.hostKey
      env.sessionKey (keys.sessionId env.md5) state.random)
  modify fun state => { state with random }
  let cipher := env.selectCipher keys.supportedCiphers
  -- the name is in a message in both branches
  let name ← ofOutcome (cipherName cipher)
  if keys.supportedCiphers &&& (1 <<< cipher) = 0 then
    fatal
      ("Selected cipher type " ++ name ++
        " not supported by server.")
  else
    let payload ←
      ofOutcome
        (bufferPutMpInt (UInt8.ofNat cipher :: keys.cookie)
          key)
    -- the screen number and the host are in open messages
    packetSend sshCmsgSessionKey (bufferPutInt payload 3)
    ofOutcome (env.setEncryptionKey cipher)
    record (.keyed cipher)
    packetReadExpect sshSmsgSuccess

end LoggingIn

end Ssh1

------------------------------------------------------------
-- Ways of Authentication
------------------------------------------------------------

namespace Ssh1

/- Whether the server supports a method. -/
def ServerKeys.supports
    (keys : ServerKeys)
    (method : Nat) : Bool :=
  keys.supportedAuthentications &&& (1 <<< method) ≠ 0

/- The private key that was loaded. -/
def KeyMemory.privateKey (memory : KeyMemory) :
    RSAPrivateKey where
  bits := memory.bits.getD 0
  n := memory.n.getD 0
  e := memory.e.getD 0
  d := memory.d.getD 0
  u := memory.u.getD 0
  p := memory.p.getD 0
  q := memory.q.getD 0

namespace LoggingIn

open Recorded

/- The message about an unexpected packet. -/
def gotInResponse
    (request : String)
    (type : Nat) : String :=
  "Protocol error: got " ++ toString type ++
    " in response to " ++ request

/- The error for a wrong answer to an offered key. -/
def waitingResponse (type : Nat) : String :=
  "Protocol error waiting RSA auth response: " ++
    toString type

/- Whether the server accepts, or sends something else. -/
def readVerdict
    (message : Nat → String) : LoggingIn Bool := do
  let type ← packetRead
  if type = sshSmsgSuccess then
    return true
  else if type ≠ sshSmsgFailure then
    packetDisconnect (message type.toNat)
  else
    return false

/- The challenge, unless the server refuses the key. -/
def readChallenge : LoggingIn (Option Nat) := do
  let type ← packetRead
  if type = sshSmsgFailure then
    return none
  else if type ≠ sshSmsgAuthRsaChallenge then
    packetDisconnect
      ("Protocol error during RSA authentication: " ++
        toString type.toNat)
  else
    let challenge ← packetGet bufferGetMpInt
    return some challenge

/- Sends a response, and reads what the server says. -/
def sendResponse (response : List UInt8) : LoggingIn Bool := do
  packetSend sshCmsgAuthRsaResponse response
  readVerdict waitingResponse

/- `respond_to_rsa_challenge`, and what comes of it -/
def respondTo
    (env : ClientLoginEnv)
    (keys : ServerKeys)
    (challenge : Nat)
    (prv : RSAPrivateKey) : LoggingIn Bool := do
  let response ←
    ofOutcome (respondToRsaChallenge env.md5
      (keys.sessionId env.md5) challenge prv)
  record (.answered prv.publicKey challenge response)
  sendResponse response

/- `try_rhosts_authentication`. -/
def tryRhostsAuthentication
    (env : ClientLoginEnv) : LoggingIn Bool := do
  packetSend sshCmsgAuthRhosts
    (bufferPutString [] env.localUser)
  readVerdict (gotInResponse "rhosts auth")

/- `try_rhosts_rsa_authentication`: the host key answers. -/
def tryRhostsRsaAuthentication
    (env : ClientLoginEnv)
    (keys : ServerKeys)
    (hostKey : RSAPrivateKey) : LoggingIn Bool := do
  let payload := bufferPutString [] env.localUser
  let payload := bufferPutInt payload hostKey.bits
  let payload ← ofOutcome (bufferPutMpInt payload hostKey.e)
  let payload ← ofOutcome (bufferPutMpInt payload hostKey.n)
  packetSend sshCmsgAuthRhostsRsa payload
  match ← readChallenge with
  | none => return false
  | some challenge => respondTo env keys challenge hostKey

/- Offers a key to the server. -/
def offerKey (n : Nat) : LoggingIn (Option Nat) := do
  let payload ← ofOutcome (bufferPutMpInt [] n)
  packetSend sshCmsgAuthRsa payload
  readChallenge

/- One identity that the agent has listed. -/
def tryAgentIdentity
    (agent : Nat → AgentBytes)
    (sessionId : List UInt8)
    (identity : ListedIdentity) : LoggingIn Bool := do
  match ← offerKey identity.n with
  | none => return false
  | some challenge =>
      let key : RSAPublicKey :=
        { bits := identity.bits
          e := identity.e
          n := identity.n }
      let state ← get
      let reply ←
        ofOutcome (sshDecryptChallenge (agent state.link.time)
          key challenge sessionId 1)
      let response := reply.getD (List.replicate 16 0)
      record (.askedAgent key challenge sessionId response)
      sendResponse response

/- The loop over the identities, for so many at most. -/
def tryAgentIdentities
    (agent : Nat → AgentBytes)
    (sessionId : List UInt8) :
    Nat → Option ListedIdentity → AgentReply → LoggingIn Bool
| _, none, _ => return false
| 0, some _, _ => return false
| count + 1, some identity, auth => do
    if ← tryAgentIdentity agent sessionId identity then
      return true
    else
      let (next, auth) ← ofOutcome (sshGetNextIdentity auth)
      tryAgentIdentities agent sessionId count next auth

/- The request for the list of the identities. -/
def listRequest : List UInt8 :=
  put32Bit 1 ++ [sshAgentcRequestRsaIdentities]

/- `try_agent_authentication`: each identity of the agent. -/
def tryAgentAuthentication
    (env : ClientLoginEnv)
    (sessionId : List UInt8) : LoggingIn Bool :=
  match env.agent with
  | none => return false
  | some agent => do
      let state ← get
      let (identity, auth) ←
        ofOutcome
          (sshGetFirstIdentity
            (agent state.link.time listRequest))
      tryAgentIdentities agent sessionId
        (auth.numIdentities.toNat + 1) identity auth

/- A response that the server will not accept. -/
def sendDummyResponse : LoggingIn Bool := do
  packetSend sshCmsgAuthRsaResponse (List.replicate 16 0)
  packetReadExpect sshSmsgFailure
  return false

/- The passphrase, which is empty where nobody is asked. -/
def askPassphrase
    (env : ClientLoginEnv)
    (number : Nat) : LoggingIn (List UInt8) :=
  if env.options.batchMode then
    return []
  else
    readPassphrase env (.passphrase number)

/- Loads the private key, with a passphrase if needed. -/
def loadWithPassphrase
    (env : ClientLoginEnv)
    (number : Nat)
    (file : KeyFileRead) :
    LoggingIn (Option RSAPrivateKey) := do
  let (done, memory) ←
    ofOutcome (loadPrivateKey env.keyFileEnv file [] false)
  if done then
    return some memory.privateKey
  else
    let passphrase ← askPassphrase env number
    let (done, memory) ←
      ofOutcome
        (loadPrivateKey env.keyFileEnv file passphrase false)
    return if done then some memory.privateKey else none

/- `try_rsa_authentication` with one identity file. -/
def tryRsaAuthentication
    (env : ClientLoginEnv)
    (keys : ServerKeys)
    (number : Nat)
    (file : KeyFileRead) : LoggingIn Bool := do
  let (loaded, memory) ← ofOutcome (loadPublicKey file true)
  if ¬ loaded then
    return false
  else
    match ← offerKey (memory.n.getD 0) with
    | none => return false
    | some challenge =>
        match ← loadWithPassphrase env number file with
        | none => sendDummyResponse
        | some prv => respondTo env keys challenge prv

/- The loop over the identity files, from this one on. -/
def tryIdentityFiles
    (env : ClientLoginEnv)
    (keys : ServerKeys) :
    (number : Nat) → List KeyFileRead → LoggingIn Bool
| _, [] => return false
| number, file :: files => do
    if ← tryRsaAuthentication env keys number file then
      return true
    else
      tryIdentityFiles env keys (number + 1) files

/- `try_tis_authentication`: the server asks the question. -/
def tryTisAuthentication
    (env : ClientLoginEnv) : LoggingIn Bool := do
  packetSend sshCmsgAuthTis []
  let type ← packetRead
  if type = sshSmsgFailure then
    return false
  else if type ≠ sshSmsgAuthTisChallenge then
    packetDisconnect
      (gotInResponse "TIS auth request" type.toNat)
  else
    let _prompt ← packetGet bufferGetString
    let password ← readPassphrase env .tis
    packetSend sshCmsgAuthTisResponse
      (bufferPutString [] password)
    readVerdict (gotInResponse "TIS auth")

/- The loop over the prompts that are left, from this on. -/
def tryPasswords
    (env : ClientLoginEnv) :
    (attempt prompts : Nat) → LoggingIn Bool
| _, 0 => return false
| attempt, prompts + 1 => do
    let password ← readPassphrase env (.password attempt)
    packetSend sshCmsgAuthPassword
      (bufferPutString [] password)
    if ← readVerdict (gotInResponse "passwd auth") then
      return true
    else
      tryPasswords env (attempt + 1) prompts

end LoggingIn

end Ssh1

------------------------------------------------------------
-- The Login
------------------------------------------------------------

namespace Ssh1

/- A method is used if both sides want it. -/
def ServerKeys.uses
    (keys : ServerKeys)
    (method : Nat)
    (option : Bool) : Bool :=
  keys.supports method && option

namespace LoggingIn

open Recorded

/- A way of authentication, if it is used. -/
def tryIf
    (used : Bool)
    (way : LoggingIn Bool) : LoggingIn Bool :=
  if used then way else return false

/- Tells the server who logs in. -/
def sendUser (env : ClientLoginEnv) : LoggingIn Bool := do
  packetSend sshCmsgUser (bufferPutString [] env.serverUser)
  readVerdict (gotInResponse "SSH_CMSG_USER")

/- The agent is asked before the identity files are read. -/
def tryRsa
    (env : ClientLoginEnv)
    (keys : ServerKeys) : LoggingIn Bool := do
  if ← tryAgentAuthentication env (keys.sessionId env.md5) then
    return true
  else
    tryIdentityFiles env keys 0 env.identityFiles

/- The rhosts-rsa method, if the host key can be read. -/
def tryHostKey
    (env : ClientLoginEnv)
    (keys : ServerKeys) : LoggingIn Bool :=
  match env.ownHostKey with
  | none => return false
  | some hostKey => tryRhostsRsaAuthentication env keys hostKey

/- The ways of authentication, in the order they are tried. -/
def ways
    (env : ClientLoginEnv)
    (keys : ServerKeys) : List (LoggingIn Bool) :=
  let options := env.options
  [ sendUser env,
    tryIf
      (keys.uses sshAuthRhosts options.rhostsAuthentication)
      (tryRhostsAuthentication env),
    tryIf
      (keys.uses sshAuthRhostsRsa
        options.rhostsRsaAuthentication)
      (tryHostKey env keys),
    tryIf (keys.uses sshAuthRsa options.rsaAuthentication)
      (tryRsa env keys),
    tryIf
      (keys.uses sshAuthTis options.tisAuthentication &&
        !options.batchMode)
      (tryTisAuthentication env),
    tryIf
      (keys.uses sshAuthPassword
          options.passwordAuthentication &&
        !options.batchMode)
      (tryPasswords env 0 options.numberOfPasswordPrompts) ]

/- The ways one after the other, until one is accepted. -/
def tryWays : List (LoggingIn Bool) → LoggingIn Unit
| [] => fatal "Permission denied."
| way :: rest => do
    if ← way then
      return ()
    else
      tryWays rest

end LoggingIn

open LoggingIn in
/- `ssh_login`, after the identifications. -/
def sshLogin (env : ClientLoginEnv) : LoggingIn Unit := do
  let keys ← readServerKeys
  let status := env.hostStatus keys.hostKey
  Recorded.record (.met keys status)
  judgeHost env status
  sendSessionKey env keys
  tryWays (ways env keys)

end Ssh1
