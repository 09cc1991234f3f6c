import Ssh1.Agent.Identities
import Ssh1.Base.Fields
import Ssh1.Rsa.Padding

/-
  The requests that the authentication agent answers.

  A request is a length, a type and the fields of the type.
  The functions that process it take the fields from the
  buffer of the socket; none of them looks at the length.

  Main declarations:
    * `SocketEntry`
    * `processMessage`
    * `AgentRequest`, `IsRequest`
    * `processMessage_request`
-/

------------------------------------------------------------
-- Sockets and Message Types
------------------------------------------------------------

namespace Ssh1

/- What an entry of `sockets` is used for. -/
inductive SocketType where
  | unused
  | socket
  | socketFd
  deriving DecidableEq

/- An entry of the agent's `sockets` array. -/
structure SocketEntry where
  type : SocketType
  input : Buffer
  output : Buffer
  deriving DecidableEq

namespace SocketEntry

/- The entry after its connection was closed. -/
def closed : SocketEntry where
  type := .unused
  input := []
  output := []

/- Puts a message with its length into the output buffer. -/
def send
    (e : SocketEntry)
    (msg : List UInt8) : SocketEntry :=
  { e with
    output :=
      bufferAppend (bufferPutInt e.output msg.length) msg }

end SocketEntry

/- `SSH_AGENTC_REQUEST_RSA_IDENTITIES` -/
def sshAgentcRequestRsaIdentities : UInt8 := 1

/- `SSH_AGENT_RSA_IDENTITIES_ANSWER` -/
def sshAgentRsaIdentitiesAnswer : UInt8 := 2

/- `SSH_AGENTC_RSA_CHALLENGE` -/
def sshAgentcRsaChallenge : UInt8 := 3

/- `SSH_AGENT_RSA_RESPONSE` -/
def sshAgentRsaResponse : UInt8 := 4

/- `SSH_AGENT_FAILURE` -/
def sshAgentFailure : UInt8 := 5

/- `SSH_AGENT_SUCCESS` -/
def sshAgentSuccess : UInt8 := 6

/- `SSH_AGENTC_ADD_RSA_IDENTITY` -/
def sshAgentcAddRsaIdentity : UInt8 := 7

/- `SSH_AGENTC_REMOVE_RSA_IDENTITY` -/
def sshAgentcRemoveRsaIdentity : UInt8 := 8

/- `SSH_AGENTC_REMOVE_ALL_RSA_IDENTITIES` -/
def sshAgentcRemoveAllRsaIdentities : UInt8 := 9

/- `SSH_AGENT_FORWARDING_NOTICE` -/
def sshAgentForwardingNotice : UInt8 := 206

end Ssh1

------------------------------------------------------------
-- Fields of Requests
------------------------------------------------------------

namespace Ssh1

/- The bits, the exponent and the modulus of a key. -/
def readPublicKey
    (input : Buffer) : Outcome (RSAPublicKey × Buffer) := do
  let (bits, input) ← bufferGetInt input
  let (e, input) ← bufferGetMpInt input
  let (n, input) ← bufferGetMpInt input
  return (⟨bits, e, n⟩, input)

/- The numbers of a private key: `d`, `u`, `p` and `q`. -/
def readPrivateNumbers
    (input : Buffer) :
    Outcome ((Nat × Nat × Nat × Nat) × Buffer) := do
  let (d, input) ← bufferGetMpInt input
  let (u, input) ← bufferGetMpInt input
  let (p, input) ← bufferGetMpInt input
  let (q, input) ← bufferGetMpInt input
  return ((d, u, p, q), input)

/- The private key of an identity. -/
def readPrivateKey
    (input : Buffer) : Outcome (RSAPrivateKey × Buffer) := do
  let (bits, input) ← bufferGetInt input
  let (n, input) ← bufferGetMpInt input
  let (e, input) ← bufferGetMpInt input
  let ((d, u, p, q), input) ← readPrivateNumbers input
  return (⟨bits, n, e, d, u, p, q⟩, input)

/- The fields of an identity that is added. -/
def readIdentity
    (input : Buffer) : Outcome (Identity × Buffer) := do
  let (key, input) ← readPrivateKey input
  let (comment, input) ← bufferGetString input
  return (⟨key, comment⟩, input)

/- A key, the challenge for it, and how to respond. -/
structure Challenge where
  key : RSAPublicKey
  challenge : Nat
  sessionId : List UInt8
  responseType : Nat

/- The session id and the response type, if there are any. -/
def readSession
    (input : Buffer) :
    Outcome ((List UInt8 × Nat) × Buffer) :=
  if input.length = 0 then
    -- compatibility code for old servers
    .ok ((List.replicate 16 0, 0), input)
  else do
    let (sessionId, input) ← bufferGet input 16
    let (responseType, input) ← bufferGetInt input
    return ((sessionId, responseType), input)

/- The key, the challenge and the session of a request. -/
def readChallenge
    (input : Buffer) : Outcome (Challenge × Buffer) := do
  let (key, input) ← readPublicKey input
  let (challenge, input) ← bufferGetMpInt input
  let (session, input) ← readSession input
  return (⟨key, challenge, session.1, session.2⟩, input)

end Ssh1

------------------------------------------------------------
-- Answers
------------------------------------------------------------

namespace Ssh1

variable (md5 : List UInt8 → List UInt8)

/- The loop over the identities that are listed. -/
def putIdentities
    (msg : Buffer) : List Identity → Outcome Buffer
| [] => .ok msg
| identity :: identities => do
    let msg := bufferPutInt msg identity.key.bits
    let msg ← bufferPutMpInt msg identity.key.e
    let msg ← bufferPutMpInt msg identity.key.n
    let msg := bufferPutString msg (cString identity.comment)
    putIdentities msg identities

/- `process_request_identity`: lists the public keys. -/
def processRequestIdentity
    (store : IdentityStore)
    (e : SocketEntry) :
    Outcome (IdentityStore × SocketEntry) := do
  let msg := bufferPutChar [] sshAgentRsaIdentitiesAnswer
  let msg := bufferPutInt msg store.numIdentities
  let identities ← store.read
  let msg ← putIdentities msg identities
  return (store, e.send msg)

/- The MD5 of a decrypted challenge and the session id. -/
def challengeResponse
    (challenge : Nat)
    (sessionId : List UInt8) : List UInt8 :=
  md5 (mpLinearizeMsbFirst 32 challenge ++ sessionId)

/- The message for a challenge whose identity was found. -/
def respond
    (identity : Identity)
    (request : Challenge) : Outcome (List UInt8) := do
  let challenge ←
    rsaPrivateDecrypt request.challenge identity.key
  if request.responseType = 0 then
    return [sshAgentFailure]
  else if request.responseType = 1 then
    return sshAgentRsaResponse ::
      challengeResponse md5 challenge request.sessionId
  else
    .error (.fatal
      ("process_authentication_challenge: bad response_type "
        ++ toString (toInt32 request.responseType)))

/- Whether the identity is the one of the public key. -/
def Identity.hasKey
    (identity : Identity)
    (key : RSAPublicKey) : Bool :=
  identity.key.publicKey = key

/- `process_authentication_challenge`: answers with the MD5
  of the decrypted challenge, if the key is in the store. -/
def processAuthenticationChallenge
    (store : IdentityStore)
    (e : SocketEntry) :
    Outcome (IdentityStore × SocketEntry) := do
  let (request, input) ← readChallenge e.input
  let e := { e with input := input }
  match ← store.find fun i => i.hasKey request.key with
  | none => return (store, e.send [sshAgentFailure])
  | some i => do
      let identity ← store.get i
      let msg ← respond md5 identity request
      return (store, e.send msg)

/- `process_remove_identity`: drops the entry of a modulus. -/
def processRemoveIdentity
    (store : IdentityStore)
    (e : SocketEntry) :
    Outcome (IdentityStore × SocketEntry) := do
  let (key, input) ← readPublicKey e.input
  let e := { e with input := input }
  let (found, store) ← store.remove key.n
  return (store,
    e.send [if found then sshAgentSuccess else sshAgentFailure])

/- `process_remove_all_identities`: empties the store. -/
def processRemoveAllIdentities
    (store : IdentityStore)
    (e : SocketEntry) :
    Outcome (IdentityStore × SocketEntry) := do
  let store ← store.removeAll
  return (store, e.send [sshAgentSuccess])

/- `process_add_identity`: adds the key of the request. -/
def processAddIdentity
    (store : IdentityStore)
    (e : SocketEntry) :
    Outcome (IdentityStore × SocketEntry) := do
  let (identity, input) ← readIdentity e.input
  let e := { e with input := input }
  let store ← store.add identity
  return (store, e.send [sshAgentSuccess])

/- The `switch` over the type of a message. -/
def dispatch
    (type : UInt8)
    (store : IdentityStore)
    (e : SocketEntry) :
    Outcome (IdentityStore × SocketEntry) :=
  if type = sshAgentcRequestRsaIdentities then
    processRequestIdentity store e
  else if type = sshAgentcRsaChallenge then
    processAuthenticationChallenge md5 store e
  else if type = sshAgentcAddRsaIdentity then
    processAddIdentity store e
  else if type = sshAgentcRemoveRsaIdentity then
    processRemoveIdentity store e
  else if type = sshAgentcRemoveAllRsaIdentities then
    processRemoveAllIdentities store e
  else if type = sshAgentForwardingNotice then
    -- a forwarding notice from ssh2, which is ignored
    .ok (store, e)
  else
    -- an unknown message
    .ok (store, { e with input := [] }.send [sshAgentFailure])

/- The longest message that the agent accepts. -/
def maxAgentMessage : Nat := 30 * 1024

/- Processes the first message of the input, if it is there. -/
def processMessage
    (store : IdentityStore)
    (e : SocketEntry) :
    Outcome (IdentityStore × SocketEntry) :=
  if e.input.length < 5 then
    .ok (store, e)
  else
    let msgLen := get32Bit e.input
    if msgLen > maxAgentMessage then
      .ok (store, SocketEntry.closed)
    else if e.input.length < msgLen + 4 then
      .ok (store, e)
    else do
      let input ← bufferConsume e.input 4
      let (type, input) ← bufferGetChar input
      dispatch md5 type store { e with input := input }

end Ssh1

------------------------------------------------------------
-- Well-Formed Requests
------------------------------------------------------------

namespace Ssh1

open FieldReader

/- The bits, the exponent and the modulus. -/
def IsPublicKey : Field UInt8 RSAPublicKey :=
  IsInt.andThen fun bits =>
    IsMpInt.andThen fun e =>
      IsMpInt.andThen fun n =>
        Field.pure ⟨bits, e, n⟩

/- The fields of a public key, read in their order. -/
theorem reads_readPublicKey :
    Reads readPublicKey IsPublicKey :=
  reads_bufferGetInt.bind fun _ =>
    reads_bufferGetMpInt.bind fun _ =>
      reads_bufferGetMpInt.bind fun _ =>
        Reads.pure _

/- The private exponent, the inverse and the two primes. -/
def IsPrivateNumbers : Field UInt8 (Nat × Nat × Nat × Nat) :=
  IsMpInt.andThen fun d =>
    IsMpInt.andThen fun u =>
      IsMpInt.andThen fun p =>
        IsMpInt.andThen fun q =>
          Field.pure (d, u, p, q)

/- The four secret numbers, read in their order. -/
theorem reads_readPrivateNumbers :
    Reads readPrivateNumbers IsPrivateNumbers :=
  reads_bufferGetMpInt.bind fun d =>
    reads_bufferGetMpInt.bind fun u =>
      reads_bufferGetMpInt.bind fun p =>
        reads_bufferGetMpInt.bind fun q =>
          Reads.pure (d, u, p, q)

/- All the numbers of an RSA key, the modulus first. -/
def IsPrivateKey : Field UInt8 RSAPrivateKey :=
  IsInt.andThen fun bits =>
    IsMpInt.andThen fun n =>
      IsMpInt.andThen fun e =>
        IsPrivateNumbers.andThen fun r =>
          Field.pure
            ⟨bits, n, e, r.1, r.2.1, r.2.2.1, r.2.2.2⟩

/- The fields of a private key, read in their order. -/
theorem reads_readPrivateKey :
    Reads readPrivateKey IsPrivateKey :=
  reads_bufferGetInt.bind fun bits =>
    reads_bufferGetMpInt.bind fun n =>
      reads_bufferGetMpInt.bind fun e =>
        reads_readPrivateNumbers.bind fun r =>
          Reads.pure
            (RSAPrivateKey.mk bits n e r.1 r.2.1 r.2.2.1
              r.2.2.2)

/- A key and the comment on it. -/
def IsIdentity : Field UInt8 Identity :=
  IsPrivateKey.andThen fun key =>
    IsString.andThen fun comment =>
      Field.pure ⟨key, comment⟩

/- A key and its comment, read in their order. -/
theorem reads_readIdentity :
    Reads readIdentity IsIdentity :=
  reads_readPrivateKey.bind fun _ =>
    reads_bufferGetString.bind fun _ =>
      Reads.pure _

/- The session id and the response type of new servers. -/
def IsSession : Field UInt8 (List UInt8 × Nat) :=
  (IsBytes 16).andThen fun sessionId =>
    IsInt.andThen fun responseType =>
      Field.pure (sessionId, responseType)

/- The session of a request stands before whatever follows. -/
theorem readSession_append
    {text : List UInt8}
    {session : List UInt8 × Nat}
    (hSession : IsSession text session)
    (rest : List UInt8) :
    readSession (text ++ rest) = .ok (session, rest) := by
  have hReads :
      Reads
        (fun input : Buffer => do
          let (sessionId, input) ← bufferGet input 16
          let (responseType, input) ← bufferGetInt input
          return ((sessionId, responseType), input))
        IsSession :=
    (reads_bufferGet 16).bind fun _ =>
      reads_bufferGetInt.bind fun _ => Reads.pure _
  have hLong : ¬ (text ++ rest).length = 0 := by
    rcases hSession with ⟨id, _, _, rfl, ⟨-, hLength⟩, -⟩
    simp only [List.length_append]
    omega
  rw [readSession, if_neg hLong]
  exact hReads.complete text session rest hSession

/- A challenge with the fields of new servers. -/
def IsChallenge : Field UInt8 Challenge :=
  IsPublicKey.andThen fun key =>
    IsMpInt.andThen fun challenge =>
      IsSession.andThen fun session =>
        Field.pure ⟨key, challenge, session.1, session.2⟩

/- A challenge of an old server. -/
def IsOldChallenge : Field UInt8 Challenge :=
  IsPublicKey.andThen fun key =>
    IsMpInt.andThen fun challenge =>
      Field.pure ⟨key, challenge, List.replicate 16 0, 0⟩

/- A challenge request is read, and the rest is left. -/
theorem readChallenge_append
    {text : List UInt8}
    {request : Challenge}
    (hRequest : IsChallenge text request)
    (rest : List UInt8) :
    readChallenge (text ++ rest) = .ok (request, rest) := by
  rcases hRequest with
    ⟨key, publicKey, _, rfl, hKey, challenge, value, _, rfl,
      hChallenge, session, values, _, rfl, hSession, rfl,
      rfl⟩
  rw [List.append_nil, List.append_assoc, List.append_assoc]
  simp only [readChallenge,
    reads_readPublicKey.complete _ _ _ hKey,
    reads_bufferGetMpInt.complete _ _ _ hChallenge,
    readSession_append hSession, FallibleRun.ok_bind]
  rfl

/- An old challenge is recognized by the end of the buffer. -/
theorem readChallenge_old
    {text : List UInt8}
    {request : Challenge}
    (hRequest : IsOldChallenge text request) :
    readChallenge text = .ok (request, []) := by
  rcases hRequest with
    ⟨key, publicKey, _, rfl, hKey, challenge, value, _, rfl,
      hChallenge, rfl, rfl⟩
  simp only [readChallenge,
    reads_readPublicKey.complete _ _ _ hKey,
    reads_bufferGetMpInt.complete _ _ _ hChallenge,
    FallibleRun.ok_bind]
  rfl

/- What a client asks for. -/
inductive AgentRequest where
  | requestIdentities
  | challenge (request : Challenge)
  | addIdentity (identity : Identity)
  | removeIdentity (key : RSAPublicKey)
  | removeAllIdentities

/- The type and the fields of a request. -/
inductive IsRequest : List UInt8 → AgentRequest → Prop
| requestIdentities :
    IsRequest [sshAgentcRequestRsaIdentities]
      .requestIdentities
| challenge
    {body : List UInt8}
    {request : Challenge}
    (hBody : IsChallenge body request) :
    IsRequest (sshAgentcRsaChallenge :: body)
      (.challenge request)
| addIdentity
    {body : List UInt8}
    {identity : Identity}
    (hBody : IsIdentity body identity) :
    IsRequest (sshAgentcAddRsaIdentity :: body)
      (.addIdentity identity)
| removeIdentity
    {body : List UInt8}
    {key : RSAPublicKey}
    (hBody : IsPublicKey body key) :
    IsRequest (sshAgentcRemoveRsaIdentity :: body)
      (.removeIdentity key)
| removeAllIdentities :
    IsRequest [sshAgentcRemoveAllRsaIdentities]
      .removeAllIdentities

/- A challenge of an old server, with its type. -/
inductive IsOldRequest : List UInt8 → AgentRequest → Prop
| challenge
    {body : List UInt8}
    {request : Challenge}
    (hBody : IsOldChallenge body request) :
    IsOldRequest (sshAgentcRsaChallenge :: body)
      (.challenge request)

/- The numbers of a key fit into their encodings. -/
structure RSAPrivateKey.Encodable
    (key : RSAPrivateKey) : Prop where
  bits : key.bits < 2 ^ 32
  n : mpzSizeinbase2 key.n < 65536
  e : mpzSizeinbase2 key.e < 65536
  d : mpzSizeinbase2 key.d < 65536
  u : mpzSizeinbase2 key.u < 65536
  p : mpzSizeinbase2 key.p < 65536
  q : mpzSizeinbase2 key.q < 65536

/- The numbers of a public key fit into their encodings. -/
structure RSAPublicKey.Encodable
    (key : RSAPublicKey) : Prop where
  bits : key.bits < 2 ^ 32
  e : mpzSizeinbase2 key.e < 65536
  n : mpzSizeinbase2 key.n < 65536

/- The message of `ssh_add_identity` -/
def addIdentityText (identity : Identity) : List UInt8 :=
  sshAgentcAddRsaIdentity ::
    ((put32Bit identity.key.bits ++
      (mpIntBytes identity.key.n ++
        (mpIntBytes identity.key.e ++
          (mpIntBytes identity.key.d ++
            (mpIntBytes identity.key.u ++
              (mpIntBytes identity.key.p ++
                mpIntBytes identity.key.q)))))) ++
      (put32Bit identity.comment.length ++ identity.comment))

/- The message of `ssh_remove_identity` -/
def removeIdentityText (key : RSAPublicKey) : List UInt8 :=
  sshAgentcRemoveRsaIdentity ::
    (put32Bit key.bits ++
      (mpIntBytes key.e ++ mpIntBytes key.n))

/- What the client writes for a key is a private key. -/
theorem isPrivateKey_append
    {key : RSAPrivateKey}
    (hKey : key.Encodable) :
    IsPrivateKey
      (put32Bit key.bits ++
        (mpIntBytes key.n ++
          (mpIntBytes key.e ++
            (mpIntBytes key.d ++
              (mpIntBytes key.u ++
                (mpIntBytes key.p ++ mpIntBytes key.q))))))
      key := by
  have hNumbers :
      IsPrivateNumbers
        (mpIntBytes key.d ++
          (mpIntBytes key.u ++
            (mpIntBytes key.p ++ mpIntBytes key.q)))
        (key.d, key.u, key.p, key.q) :=
    ⟨_, _, _, rfl, isMpInt_mpIntBytes hKey.d,
      _, _, _, rfl, isMpInt_mpIntBytes hKey.u,
      _, _, _, rfl, isMpInt_mpIntBytes hKey.p,
      _, _, _, (List.append_nil _).symm,
      isMpInt_mpIntBytes hKey.q, rfl, rfl⟩
  exact
    ⟨_, _, _, rfl, isInt_put32Bit hKey.bits,
      _, _, _, rfl, isMpInt_mpIntBytes hKey.n,
      _, _, _, rfl, isMpInt_mpIntBytes hKey.e,
      _, _, _, (List.append_nil _).symm, hNumbers, rfl, rfl⟩

/- What the client writes for a public key is one. -/
theorem isPublicKey_append
    {key : RSAPublicKey}
    (hKey : key.Encodable) :
    IsPublicKey
      (put32Bit key.bits ++
        (mpIntBytes key.e ++ mpIntBytes key.n)) key :=
  ⟨_, _, _, rfl, isInt_put32Bit hKey.bits,
    _, _, _, rfl, isMpInt_mpIntBytes hKey.e,
    _, _, _, (List.append_nil _).symm,
    isMpInt_mpIntBytes hKey.n, rfl, rfl⟩

/- A public key that fits is sent to have it removed. -/
theorem isRequest_removeIdentityText
    {key : RSAPublicKey}
    (hKey : key.Encodable) :
    IsRequest (removeIdentityText key)
      (.removeIdentity key) :=
  .removeIdentity (isPublicKey_append hKey)

/- An identity that fits is sent in a well-formed request. -/
theorem isRequest_addIdentityText
    {identity : Identity}
    (hKey : identity.key.Encodable)
    (hComment : identity.comment.length ≤ maxStringLength) :
    IsRequest (addIdentityText identity)
      (.addIdentity identity) := by
  apply IsRequest.addIdentity
  exact ⟨_, _, _, rfl, isPrivateKey_append hKey,
    _, _, _, (List.append_nil _).symm,
    isString_put32Bit_append hComment, rfl, rfl⟩

end Ssh1

------------------------------------------------------------
-- Answering Requests
------------------------------------------------------------

namespace Ssh1

variable (md5 : List UInt8 → List UInt8)
variable {store : IdentityStore}
variable {held : List Identity}

/- The part of the listing for one identity. -/
def identityBytes (identity : Identity) : List UInt8 :=
  put32Bit identity.key.bits ++
    (mpIntBytes identity.key.e ++
      (mpIntBytes identity.key.n ++
        (put32Bit (cString identity.comment).length ++
          cString identity.comment)))

/- The listing appends the bytes of each identity. -/
theorem putIdentities_eq
    (msg : Buffer)
    (identities : List Identity) :
    putIdentities msg identities =
      .ok (msg ++ identities.flatMap identityBytes) := by
  induction identities generalizing msg with
  | nil => simp [putIdentities]
  | cons identity identities ih =>
      simp only [putIdentities, bufferPutMpInt_eq,
        FallibleRun.ok_bind, ih]
      simp [identityBytes, bufferPutInt, bufferPutString,
        bufferAppend]

/- The listing of these identities. -/
def identitiesAnswer (held : List Identity) : List UInt8 :=
  sshAgentRsaIdentitiesAnswer ::
    (put32Bit held.length ++ held.flatMap identityBytes)

/- The message that answers a request. -/
def answer
    (md5 : List UInt8 → List UInt8)
    (held : List Identity) :
    AgentRequest → Outcome (List UInt8)
| .requestIdentities => .ok (identitiesAnswer held)
| .challenge request =>
    match held.find? fun i => i.hasKey request.key with
    | none => .ok [sshAgentFailure]
    | some identity => respond md5 identity request
| .addIdentity _ => .ok [sshAgentSuccess]
| .removeIdentity key =>
    .ok [if key.n ∈ held.map fun i => i.key.n then
      sshAgentSuccess else sshAgentFailure]
| .removeAllIdentities => .ok [sshAgentSuccess]

/- The identities after a request. -/
def heldAfter
    (held : List Identity) : AgentRequest → List Identity
| .requestIdentities => held
| .challenge _ => held
| .addIdentity identity =>
    KeyedList.insert (fun i => i.key.n) held identity
| .removeIdentity key =>
    match held.findIdx? fun i => i.key.n = key.n with
    | none => held
    | some i => KeyedList.swapRemove held i
| .removeAllIdentities => []

/- The store and the entry after a request was processed. -/
def AnswersWith
    (md5 : List UInt8 → List UInt8)
    (held : List Identity)
    (request : AgentRequest)
    (e : SocketEntry)
    (result : Outcome (IdentityStore × SocketEntry)) : Prop :=
  ∃ store : IdentityStore,
    store.Holds (heldAfter held request) ∧
      result =
        (answer md5 held request).map
          fun msg => (store, e.send msg)

/- The listing answers from what is held. -/
theorem processRequestIdentity_answers
    (hHolds : store.Holds held)
    (e : SocketEntry) :
    AnswersWith md5 held .requestIdentities e
      (processRequestIdentity store e) := by
  refine ⟨store, hHolds, ?_⟩
  simp only [processRequestIdentity, hHolds.read_eq,
    FallibleRun.ok_bind, putIdentities_eq, hHolds.count]
  rfl

/- A challenge is answered with the key that is held. -/
theorem processAuthenticationChallenge_answers
    (hHolds : store.Holds held)
    {e : SocketEntry}
    {request : Challenge}
    {rest : List UInt8}
    (hRead : readChallenge e.input = .ok (request, rest)) :
    AnswersWith md5 held (.challenge request)
      { e with input := rest }
      (processAuthenticationChallenge md5 store e) := by
  refine ⟨store, hHolds, ?_⟩
  simp only [processAuthenticationChallenge, hRead,
    FallibleRun.ok_bind, hHolds.find_eq, answer,
    List.find?_eq_bind_findIdx?_getElem?]
  cases hFound :
      held.findIdx? fun i => i.hasKey request.key with
  | none => rfl
  | some i =>
      rw [List.findIdx?_eq_some_iff_getElem] at hFound
      rcases hFound with ⟨hBound, -, -⟩
      have hMember := List.getElem?_eq_getElem hBound
      simp only [hHolds.owns i _ hMember,
        FallibleRun.ok_bind, Option.bind_some, hMember]
      cases respond md5 held[i] request with
      | error halt => rfl
      | ok msg => rfl

/- An identity that is added is held afterwards. -/
theorem processAddIdentity_answers
    (hHolds : store.Holds held)
    {e : SocketEntry}
    {identity : Identity}
    {rest : List UInt8}
    (hRead : readIdentity e.input = .ok (identity, rest)) :
    AnswersWith md5 held (.addIdentity identity)
      { e with input := rest }
      (processAddIdentity store e) := by
  rcases hHolds.add_eq identity with
    ⟨store', hAdd, hHolds'⟩
  refine ⟨store', hHolds', ?_⟩
  simp only [processAddIdentity, hRead, FallibleRun.ok_bind,
    hAdd]
  rfl

/- An identity that is removed is held no more. -/
theorem processRemoveIdentity_answers
    (hHolds : store.Holds held)
    {e : SocketEntry}
    {key : RSAPublicKey}
    {rest : List UInt8}
    (hRead : readPublicKey e.input = .ok (key, rest)) :
    AnswersWith md5 held (.removeIdentity key)
      { e with input := rest }
      (processRemoveIdentity store e) := by
  rcases hHolds.remove_eq key.n with
    ⟨hFound, hRemove⟩ | ⟨i, store', hFound, hRemove, hHolds'⟩
  · have hNone :=
      KeyedList.lookup_of_findIdx?_eq_none
        (fun i : Identity => i.key.n) hFound
    rw [KeyedList.lookup_eq_none_iff] at hNone
    refine ⟨store, ?_, ?_⟩
    · simpa only [heldAfter, hFound] using hHolds
    · simp only [processRemoveIdentity, hRead,
        FallibleRun.ok_bind, hRemove, answer, if_neg hNone]
      rfl
  · rcases KeyedList.exists_of_findIdx?
        (fun i : Identity => i.key.n) hFound with
      ⟨identity, hMember, hKey⟩
    have hMem : key.n ∈ held.map fun i => i.key.n := by
      rw [← hKey]
      exact List.mem_map_of_mem (List.mem_of_getElem? hMember)
    refine ⟨store', ?_, ?_⟩
    · simpa only [heldAfter, hFound] using hHolds'
    · simp only [processRemoveIdentity, hRead,
        FallibleRun.ok_bind, hRemove, answer, if_pos hMem]
      rfl

/- Nothing is held afterwards. -/
theorem processRemoveAllIdentities_answers
    (hHolds : store.Holds held)
    (e : SocketEntry) :
    AnswersWith md5 held .removeAllIdentities e
      (processRemoveAllIdentities store e) := by
  refine ⟨IdentityStore.empty, IdentityStore.empty_holds, ?_⟩
  simp only [processRemoveAllIdentities, hHolds.removeAll_eq,
    FallibleRun.ok_bind]
  rfl

/- A message in front of its length. -/
def agentFrame (text : List UInt8) : List UInt8 :=
  put32Bit text.length ++ text

/-
  A text that is taken from the buffer as a whole, with what
  follows it there.
-/
def Delivers
    (text rest : List UInt8)
    (request : AgentRequest) : Prop :=
  IsRequest text request ∨
    (IsOldRequest text request ∧ rest = [])

/- A message that is there and not too long is dispatched. -/
theorem processMessage_frame
    (store : IdentityStore)
    {e : SocketEntry}
    {type : UInt8}
    {body rest : List UInt8}
    (hLength : (type :: body).length ≤ maxAgentMessage)
    (hInput :
      e.input = agentFrame (type :: body) ++ rest) :
    processMessage md5 store e =
      dispatch md5 type store { e with input := body ++ rest } := by
  have hBound : (type :: body).length < 2 ^ 32 := by
    rw [maxAgentMessage] at hLength
    omega
  have hWord :
      get32Bit e.input = (type :: body).length := by
    rw [hInput, agentFrame, List.append_assoc,
      get32Bit_put32Bit_append hBound]
  have hTotal :
      e.input.length =
        4 + (type :: body).length + rest.length := by
    simp [hInput, agentFrame]
    omega
  have hPos : 0 < (type :: body).length := by simp
  have hConsume :
      bufferConsume e.input 4 =
        .ok (type :: (body ++ rest)) := by
    rw [bufferConsume_of_le (by omega), hInput, agentFrame,
      List.append_assoc, List.drop_append]
    simp
  rw [processMessage, if_neg (by omega)]
  simp only [hWord, if_neg (Nat.not_lt.mpr hLength)]
  rw [if_neg (by omega), hConsume, FallibleRun.ok_bind,
    bufferGetChar_cons]
  rfl

/-
  A request that is processed takes its own bytes from the
  buffer, whatever follows them, and is answered.
-/
theorem processMessage_request
    (hHolds : store.Holds held)
    {e : SocketEntry}
    {text rest : List UInt8}
    {request : AgentRequest}
    (hRequest : Delivers text rest request)
    (hLength : text.length ≤ maxAgentMessage)
    (hInput : e.input = agentFrame text ++ rest) :
    AnswersWith md5 held request { e with input := rest }
      (processMessage md5 store e) := by
  rcases hRequest with hRequest | ⟨hOld, rfl⟩
  · cases hRequest with
    | requestIdentities =>
        rw [processMessage_frame md5 store hLength hInput]
        exact processRequestIdentity_answers md5 hHolds _
    | challenge hBody =>
        rw [processMessage_frame md5 store hLength hInput]
        exact processAuthenticationChallenge_answers md5
          (e := { e with input := _ }) hHolds
          (readChallenge_append hBody rest)
    | addIdentity hBody =>
        rw [processMessage_frame md5 store hLength hInput]
        exact processAddIdentity_answers md5
          (e := { e with input := _ }) hHolds
          (reads_readIdentity.complete _ _ rest hBody)
    | removeIdentity hBody =>
        rw [processMessage_frame md5 store hLength hInput]
        exact processRemoveIdentity_answers md5
          (e := { e with input := _ }) hHolds
          (reads_readPublicKey.complete _ _ rest hBody)
    | removeAllIdentities =>
        rw [processMessage_frame md5 store hLength hInput]
        exact processRemoveAllIdentities_answers md5 hHolds _
  · cases hOld with
    | challenge hBody =>
        rw [processMessage_frame md5 store hLength hInput,
          List.append_nil]
        exact processAuthenticationChallenge_answers md5
          (e := { e with input := _ }) hHolds
          (readChallenge_old hBody)

end Ssh1
