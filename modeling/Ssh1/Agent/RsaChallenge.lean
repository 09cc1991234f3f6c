import Ssh1.Agent.Framing
import Ssh1.Agent.Listing
import Ssh1.Auth.Login
import Ssh1.Digest.Streaming
import Ssh1.Rsa.PrimeSearch
import Ssh1.Rsa.SessionKey

/-
  The challenge that proves who holds a private key.

  The server encrypts a random number and expects the digest
  of it. The client finds the number with the private key, or
  has an agent find it.

  Main declarations:
    * `authRsaChallenge`
    * `respondToRsaChallenge`
    * `sshDecryptChallenge`, `agentReply`
    * `rsaChallenge_answered`
-/

------------------------------------------------------------
-- The Server
------------------------------------------------------------

namespace Ssh1

variable (md5 : List UInt8 → List UInt8)

/- A random challenge below the modulus. -/
def randomChallenge
    (key : RSAPublicKey)
    (state : RandomState) : Nat × RandomState :=
  let challenge := rsaRandomInteger state 256
  (challenge.1 % key.n, challenge.2)

/-
  `auth_rsa_challenge_dialog` up to the packet with the
  challenge, and the response that it then waits for.
-/
def authRsaChallenge
    (sessionId : List UInt8)
    (key : RSAPublicKey)
    (state : RandomState) :
    Outcome (RsaChallenge × RandomState) := do
  let challenge := randomChallenge key state
  let (encrypted, state) ←
    rsaPublicEncrypt challenge.1 key challenge.2
  return ({
    encrypted := encrypted
    digest := challengeResponse md5 challenge.1 sessionId },
    state)

end Ssh1

------------------------------------------------------------
-- The Client
------------------------------------------------------------

namespace Ssh1

variable (md5 : List UInt8 → List UInt8)

/- `respond_to_rsa_challenge` up to its packet. -/
def respondToRsaChallenge
    (sessionId : List UInt8)
    (challenge : Nat)
    (prv : RSAPrivateKey) : Outcome (List UInt8) := do
  let challenge ← rsaPrivateDecrypt challenge prv
  return challengeResponse md5 challenge sessionId

/- The fields of the request in `ssh_decrypt_challenge` -/
def challengeFields
    (key : RSAPublicKey)
    (challenge : Nat)
    (sessionId : List UInt8)
    (responseType : Nat) : List UInt8 :=
  (put32Bit key.bits ++
      (mpIntBytes key.e ++ mpIntBytes key.n)) ++
    (mpIntBytes challenge ++
      (sessionId ++ put32Bit responseType))

/- The request with its type. -/
def decryptChallengeText
    (key : RSAPublicKey)
    (challenge : Nat)
    (sessionId : List UInt8)
    (responseType : Nat) : List UInt8 :=
  sshAgentcRsaChallenge ::
    challengeFields key challenge sessionId responseType

/- `buffer_get_char`, so many times. -/
def bufferGetChars :
    (count : Nat) → Buffer → Outcome (List UInt8 × Buffer)
| 0, buffer => .ok ([], buffer)
| count + 1, buffer => do
    let (ch, buffer) ← bufferGetChar buffer
    let (chars, buffer) ← bufferGetChars count buffer
    return (ch :: chars, buffer)

/- What the message of the agent says. -/
def challengeAnswer
    (buffer : Buffer) : Outcome (Option (List UInt8)) := do
  let (type, buffer) ← bufferGetChar buffer
  if type = sshAgentFailure then
    return none
  else if type ≠ sshAgentRsaResponse then
    .error (.fatal
      ("Bad authentication response: " ++
        toString type.toNat))
  else
    let (response, _) ← bufferGetChars 16 buffer
    return some response

/-
  Asks an agent, that sends these bytes for the bytes of a
  request before it closes the connection.
-/
def sshDecryptChallenge
    (agent : List UInt8 → List UInt8)
    (key : RSAPublicKey)
    (challenge : Nat)
    (sessionId : List UInt8)
    (responseType : Nat) : Outcome (Option (List UInt8)) :=
  if responseType = 0 then
    .error (.fatal
      ("Compatibility with ssh protocol version 1.0 " ++
        "no longer supported."))
  else
    let reply := agent (agentFrame
      (decryptChallengeText key challenge sessionId
        responseType))
    if reply.length < 4 then
      .ok none
    else
      let len := toInt32 (get32Bit reply)
      if len > 30 * 1024 then
        .error (.fatal
          ("Authentication response too long: " ++
            toString len))
      else if reply.length - 4 < len.toNat then
        .ok none
      else
        challengeAnswer ((reply.drop 4).take len.toNat)

/-
  What an agent with these identities sends for the bytes of
  a request. Where it ends, nothing more is sent.
-/
def agentReply
    (store : IdentityStore)
    (request : List UInt8) : List UInt8 :=
  match processMessage md5 store (SocketEntry.alone request) with
  | .error _ => []
  | .ok (_, e) => e.output

end Ssh1

------------------------------------------------------------
-- Random Challenges
------------------------------------------------------------

namespace Ssh1

/- A challenge takes no more than 32 bytes. -/
theorem inputLength_randomChallenge_le
    (key : RSAPublicKey)
    (state : RandomState) :
    inputLength (randomChallenge key state).1 ≤ 32 := by
  have hRandom :
      (randomChallenge key state).1 < 2 ^ 256 :=
    lt_of_le_of_lt (Nat.mod_le _ _)
      (Nat.mod_lt _ (Nat.two_pow_pos 256))
  have hBits := mpzSizeinbase2_le (by omega) hRandom
  rw [inputLength]
  omega

/- The generator has as many bytes as the padding needs. -/
def EnoughRandom
    (key : RSAPublicKey)
    (state : RandomState) : Prop :=
  let challenge := randomChallenge key state
  byteLength key.bits - inputLength challenge.1 - 3 ≤
    nonzeroBytes challenge.2

/- Each byte that is drawn uses one nonzero byte up. -/
theorem nonzeroBytes_of_drawByte
    {state rest : RandomState}
    {byte : UInt8}
    (hDraw : drawByte state = .ok (byte, rest)) :
    nonzeroBytes state = nonzeroBytes rest + 1 := by
  induction state with
  | nil => cases hDraw
  | cons first state ih =>
      rw [drawByte] at hDraw
      split at hDraw
      · rename_i hZero
        have hRest := ih hDraw
        simpa [nonzeroBytes, hZero] using hRest
      · rename_i hNonzero
        cases hDraw
        simp [nonzeroBytes, hNonzero]

/- Padding that was drawn was there. -/
theorem le_nonzeroBytes_of_drawPadding
    {count aux : Nat}
    {state : RandomState}
    {result : Nat × RandomState}
    (hDraw : drawPadding count aux state = .ok result) :
    count ≤ nonzeroBytes state := by
  induction count generalizing aux state with
  | zero => exact Nat.zero_le _
  | succ count ih =>
      rcases FallibleRun.bind_eq_ok_iff.mp hDraw with
        ⟨⟨byte, rest⟩, hByte, hRest⟩
      have hFirst := nonzeroBytes_of_drawByte hByte
      have hOthers := ih hRest
      omega

/- What encryption needs is what it was given. -/
theorem of_rsaPublicEncrypt
    {input : Nat}
    {key : RSAPublicKey}
    {state : RandomState}
    {result : Nat × RandomState}
    (hEncrypt :
      rsaPublicEncrypt input key state = .ok result) :
    3 ≤ key.e ∧
      byteLength key.bits -
          byteLength (mpzSizeinbase2 input) - 3 ≤
        nonzeroBytes state := by
  rw [rsaPublicEncrypt] at hEncrypt
  split at hEncrypt
  · cases hEncrypt
  · rename_i hExponent
    rcases FallibleRun.bind_eq_ok_iff.mp hEncrypt with
      ⟨_, -, hPadded⟩
    rcases FallibleRun.bind_eq_ok_iff.mp hPadded with
      ⟨padded, hPadding, -⟩
    rcases FallibleRun.bind_eq_ok_iff.mp hPadding with
      ⟨drawn, hDrawn, -⟩
    have hEnough := le_nonzeroBytes_of_drawPadding hDrawn
    omega

end Ssh1

------------------------------------------------------------
-- Asking An Agent
------------------------------------------------------------

namespace Ssh1

open FieldReader

variable {md5 : List UInt8 → List UInt8}
variable {store : IdentityStore}
variable {held : List Identity}

/- What follows the type is a challenge of new servers. -/
theorem isRequest_decryptChallengeText
    {key : RSAPublicKey}
    (hKey : key.Encodable)
    {challenge : Nat}
    (hChallenge : mpzSizeinbase2 challenge < 65536)
    {sessionId : List UInt8}
    (hSession : sessionId.length = 16)
    {responseType : Nat}
    (hType : responseType < 2 ^ 32) :
    IsRequest
      (decryptChallengeText key challenge sessionId
        responseType)
      (.challenge ⟨key, challenge, sessionId, responseType⟩) := by
  have hFields :
      IsSession (sessionId ++ put32Bit responseType)
        (sessionId, responseType) :=
    ⟨_, _, _, rfl, ⟨rfl, hSession⟩,
      _, _, _, (List.append_nil _).symm,
      isInt_put32Bit hType, rfl, rfl⟩
  exact IsRequest.challenge
    ⟨_, _, _, rfl, isPublicKey_append hKey,
      _, _, _, rfl, isMpInt_mpIntBytes hChallenge,
      _, _, _, (List.append_nil _).symm, hFields, rfl, rfl⟩

theorem length_decryptChallengeText_le
    {key : RSAPublicKey}
    (hKey : key.Encodable)
    {challenge : Nat}
    (hChallenge : mpzSizeinbase2 challenge < 65536)
    {sessionId : List UInt8}
    (hSession : sessionId.length = 16)
    (responseType : Nat) :
    (decryptChallengeText key challenge sessionId
      responseType).length ≤ maxAgentMessage := by
  have hE := hKey.e
  have hN := hKey.n
  simp only [decryptChallengeText, challengeFields,
    List.length_cons, List.length_append, length_put32Bit, length_mpIntBytes,
    hSession, maxAgentMessage]
  omega

/- The client gets the message that the agent sends. -/
theorem sshDecryptChallenge_of_frame
    {agent : List UInt8 → List UInt8}
    {key : RSAPublicKey}
    {challenge : Nat}
    {sessionId : List UInt8}
    {responseType : Nat}
    (hType : responseType ≠ 0)
    {msg : List UInt8}
    (hLength : msg.length ≤ 30 * 1024)
    (hReply :
      agent (agentFrame (decryptChallengeText key challenge
        sessionId responseType)) = agentFrame msg) :
    sshDecryptChallenge agent key challenge sessionId
        responseType = challengeAnswer msg := by
  have hWord :
      toInt32 (get32Bit (agentFrame msg)) = msg.length := by
    rw [agentFrame, get32Bit_put32Bit_append (by omega),
      toInt32, if_pos (by omega)]
  have hTotal :
      (agentFrame msg).length = 4 + msg.length := by
    simp [agentFrame]
  have hDrop : (agentFrame msg).drop 4 = msg := by
    rw [agentFrame, List.drop_append]
    simp
  rw [sshDecryptChallenge, if_neg hType]
  simp only [hReply, hWord, hDrop, Int.toNat_natCast,
    List.take_length]
  rw [if_neg (by omega), if_neg (by omega),
    if_neg (by omega)]

theorem bufferGetChars_length
    (chars : List UInt8) :
    bufferGetChars chars.length chars = .ok (chars, []) := by
  induction chars with
  | nil => rfl
  | cons ch chars ih =>
      rw [List.length_cons, bufferGetChars,
        bufferGetChar_cons, FallibleRun.ok_bind]
      simp only [ih]
      rfl

/- The response is taken from its message. -/
theorem challengeAnswer_response
    {response : List UInt8}
    (hLength : response.length = 16) :
    challengeAnswer (sshAgentRsaResponse :: response) =
      .ok (some response) := by
  have hChars := bufferGetChars_length response
  rw [hLength] at hChars
  rw [challengeAnswer, bufferGetChar_cons,
    FallibleRun.ok_bind]
  simp only [hChars, FallibleRun.ok_bind]
  rfl

/- An agent sends the answer to a request that is whole. -/
theorem agentReply_of_request
    (hHolds : store.Holds held)
    {text msg : List UInt8}
    {request : AgentRequest}
    (hRequest : IsRequest text request)
    (hLength : text.length ≤ maxAgentMessage)
    (hAnswer : answer md5 held request = .ok msg) :
    agentReply md5 store (agentFrame text) =
      agentFrame msg := by
  have hInput :
      (SocketEntry.alone (agentFrame text)).input =
        agentFrame text ++ [] :=
    (List.append_nil _).symm
  rcases processMessage_request md5 hHolds
      (Or.inl hRequest) hLength hInput with
    ⟨store', -, hResult⟩
  rw [agentReply, hResult, hAnswer]
  simp [Except.map, SocketEntry.send, SocketEntry.alone,
    bufferAppend, bufferPutInt, agentFrame]

/- A key is found under its modulus. -/
theorem find?_hasKey
    (hDistinct : KeyedList.Distinct Identity.modulus held)
    {identity : Identity}
    (hMember : identity ∈ held) :
    (held.find? fun i =>
        i.hasKey identity.key.publicKey) =
      some identity := by
  cases hFound :
      held.find? fun i => i.hasKey identity.key.publicKey with
  | none =>
      have hNot := List.find?_eq_none.mp hFound identity hMember
      simp [Identity.hasKey] at hNot
  | some found =>
      have hKey := List.find?_some hFound
      have hModulus : found.modulus = identity.modulus := by
        have hSame :
            found.key.publicKey = identity.key.publicKey := by
          simpa [Identity.hasKey] using hKey
        exact congrArg RSAPublicKey.n hSame
      have hSame :=
        List.inj_on_of_nodup_map hDistinct
          (List.mem_of_find?_eq_some hFound) hMember hModulus
      rw [hSame]

/- The agent finds the number as the key itself would. -/
theorem sshDecryptChallenge_of_mem
    (hMd5 : ∀ text, (md5 text).length = 16)
    (hHolds : store.Holds held)
    (hDistinct : KeyedList.Distinct Identity.modulus held)
    {identity : Identity}
    (hMember : identity ∈ held)
    (hKey : identity.key.publicKey.Encodable)
    {challenge : Nat}
    (hChallenge : mpzSizeinbase2 challenge < 65536)
    {sessionId digest : List UInt8}
    (hSession : sessionId.length = 16)
    (hDigest :
      respondToRsaChallenge md5 sessionId challenge
        identity.key = .ok digest) :
    sshDecryptChallenge (agentReply md5 store)
        identity.key.publicKey challenge sessionId 1 =
      .ok (some digest) := by
  rcases FallibleRun.bind_eq_ok_iff.mp hDigest with
    ⟨number, hNumber, hResponse⟩
  cases hResponse
  have hLength :
      (challengeResponse md5 number sessionId).length = 16 :=
    hMd5 _
  have hRequest :=
    isRequest_decryptChallengeText hKey hChallenge hSession
      (show 1 < 2 ^ 32 by omega)
  have hAnswer :
      answer md5 held
          (.challenge
            ⟨identity.key.publicKey, challenge, sessionId, 1⟩) =
        .ok (sshAgentRsaResponse ::
          challengeResponse md5 number sessionId) := by
    rw [answer]
    simp only [find?_hasKey hDistinct hMember, respond,
      hNumber, FallibleRun.ok_bind]
    rfl
  rw [sshDecryptChallenge_of_frame (by omega)
    (by rw [List.length_cons, hLength]; omega)
    (agentReply_of_request hHolds hRequest
      (length_decryptChallengeText_le hKey hChallenge
        hSession 1) hAnswer),
    challengeAnswer_response hLength]

end Ssh1

------------------------------------------------------------
-- An Agent Without The Key
------------------------------------------------------------

namespace Ssh1

open FieldReader

variable {md5 : List UInt8 → List UInt8}
variable {store : IdentityStore}
variable {held : List Identity}

/- A message that is too long closes the connection. -/
theorem processMessage_whole
    (md5 : List UInt8 → List UInt8)
    (store : IdentityStore)
    (type : UInt8)
    (body : List UInt8) :
    processMessage md5 store
          (SocketEntry.alone (agentFrame (type :: body))) =
        .ok (store, SocketEntry.closed) ∨
      processMessage md5 store
          (SocketEntry.alone (agentFrame (type :: body))) =
        dispatch md5 type store (SocketEntry.alone body) := by
  have hTotal :
      (agentFrame (type :: body)).length =
        body.length + 5 := by
    simp [agentFrame]
    omega
  have hWord :
      get32Bit (agentFrame (type :: body)) ≤
        body.length + 1 := by
    have hTake :
        (agentFrame (type :: body)).take 4 =
          put32Bit (type :: body).length := by
      rw [agentFrame, List.take_append_of_le_length (by simp),
        List.take_of_length_le (by simp)]
    rw [get32Bit, hTake, put32Bit, BigEndian.ofBytes_toBytes]
    exact Nat.mod_le _ _
  have hDrop :
      (agentFrame (type :: body)).drop 4 = type :: body := by
    rw [agentFrame, List.drop_append]
    simp
  have hInput :
      (SocketEntry.alone (agentFrame (type :: body))).input =
        agentFrame (type :: body) :=
    rfl
  by_cases hLong :
      get32Bit (agentFrame (type :: body)) > maxAgentMessage
  · left
    rw [processMessage, hInput, if_neg (by omega)]
    exact if_pos hLong
  · right
    rw [processMessage, hInput, if_neg (by omega)]
    simp only [if_neg hLong]
    rw [if_neg (by omega), bufferConsume_of_le (by omega),
      FallibleRun.ok_bind, hDrop, bufferGetChar_cons]
    rfl

/-
  An agent that holds none of the keys that it may read from
  the message admits its failure or is gone.
-/
theorem sshDecryptChallenge_eq_none
    (hHolds : store.Holds held)
    {key : RSAPublicKey}
    {challenge : Nat}
    {sessionId : List UInt8}
    {responseType : Nat}
    (hType : responseType ≠ 0)
    (hNot : ∀ request rest,
      readChallenge
          (challengeFields key challenge sessionId
            responseType) =
          .ok (request, rest) →
        ∀ identity ∈ held,
          identity.key.publicKey ≠ request.key) :
    sshDecryptChallenge (agentReply md5 store) key challenge
        sessionId responseType = .ok none := by
  -- a reply that is missing is no response
  have hSilent :
      agentReply md5 store (agentFrame
          (decryptChallengeText key challenge sessionId
            responseType)) = [] →
        sshDecryptChallenge (agentReply md5 store) key
            challenge sessionId responseType = .ok none := by
    intro hReply
    rw [sshDecryptChallenge, if_neg hType, hReply]
    rfl
  have hWhole :=
    processMessage_whole md5 store sshAgentcRsaChallenge
      (challengeFields key challenge sessionId responseType)
  rcases hWhole with hClosed | hDispatch
  · apply hSilent
    rw [agentReply, decryptChallengeText, hClosed]
    rfl
  · have hProcess :
        agentReply md5 store (agentFrame
            (decryptChallengeText key challenge sessionId
              responseType)) =
          match processAuthenticationChallenge md5 store
            (SocketEntry.alone
              (challengeFields key challenge sessionId
                responseType)) with
          | .error _ => []
          | .ok (_, e) => e.output := by
      rw [agentReply, decryptChallengeText, hDispatch]
      rfl
    cases hRead :
        readChallenge
          (challengeFields key challenge sessionId
            responseType) with
    | error halt =>
        apply hSilent
        rw [hProcess, processAuthenticationChallenge]
        simp only [SocketEntry.alone, hRead,
          FallibleRun.error_bind]
    | ok result =>
        rcases result with ⟨request, rest⟩
        have hAnswer :
            answer md5 held (.challenge request) =
              .ok [sshAgentFailure] := by
          have hNone :
              (held.find? fun i => i.hasKey request.key) =
                none := by
            rw [List.find?_eq_none]
            intro identity hMember
            simpa [Identity.hasKey] using
              hNot request rest hRead identity hMember
          rw [answer, hNone]
        rcases processAuthenticationChallenge_answers md5
            hHolds
            (e := SocketEntry.alone
              (challengeFields key challenge sessionId
                responseType)) hRead with
          ⟨store', -, hResult⟩
        have hReply :
            agentReply md5 store (agentFrame
                (decryptChallengeText key challenge sessionId
                  responseType)) =
              agentFrame [sshAgentFailure] := by
          rw [hProcess, hResult, hAnswer]
          rfl
        rw [sshDecryptChallenge_of_frame hType (by simp)
          hReply]
        rfl

/- Without the key an agent has no response. -/
theorem sshDecryptChallenge_of_not_held
    (hHolds : store.Holds held)
    {key : RSAPublicKey}
    (hKey : key.Encodable)
    (hNot : ∀ identity ∈ held, identity.key.publicKey ≠ key)
    (challenge : Nat)
    (sessionId : List UInt8)
    {responseType : Nat}
    (hType : responseType ≠ 0) :
    sshDecryptChallenge (agentReply md5 store) key challenge
        sessionId responseType = .ok none := by
  apply sshDecryptChallenge_eq_none hHolds hType
  intro request rest hRead
  have hKeyRead :=
    reads_readPublicKey.complete _ _
      (mpIntBytes challenge ++
        (sessionId ++ put32Bit responseType))
      (isPublicKey_append hKey)
  rw [challengeFields, readChallenge] at hRead
  simp only [hKeyRead, FallibleRun.ok_bind] at hRead
  rcases FallibleRun.bind_eq_ok_iff.mp hRead with
    ⟨number, -, hSession⟩
  rcases FallibleRun.bind_eq_ok_iff.mp hSession with
    ⟨session, -, hRequest⟩
  cases hRequest
  exact hNot

/-
  The count of an exponent that is too long wraps to zero,
  and the agent converts what it has not read.
-/
theorem processMessage_of_full_exponent
    (store : IdentityStore)
    {key : RSAPublicKey}
    (hExponent : mpzSizeinbase2 key.e = 65536)
    {challenge : Nat}
    {sessionId : List UInt8}
    {responseType : Nat}
    (hLength :
      (decryptChallengeText key challenge sessionId
        responseType).length ≤ maxAgentMessage) :
    processMessage md5 store
        (SocketEntry.alone
          (agentFrame
            (decryptChallengeText key challenge sessionId
              responseType))) =
      .error .outOfBounds := by
  have hBits :=
    reads_bufferGetInt.complete (put32Bit key.bits) _
      (mpIntBytes key.e ++
        (mpIntBytes key.n ++
          (mpIntBytes challenge ++
            (sessionId ++ put32Bit responseType))))
      ⟨length_put32Bit _, rfl⟩
  have hShape :
      challengeFields key challenge sessionId responseType =
        put32Bit key.bits ++
          (mpIntBytes key.e ++
            (mpIntBytes key.n ++
              (mpIntBytes challenge ++
                (sessionId ++ put32Bit responseType)))) := by
    simp [challengeFields]
  have hRead :
      readChallenge
          (challengeFields key challenge sessionId
            responseType) =
        .error .outOfBounds := by
    rw [readChallenge, readPublicKey, hShape]
    simp only [hBits, bufferGetMpInt_of_full hExponent,
      FallibleRun.ok_bind, FallibleRun.error_bind]
  rw [processMessage_frame md5 store hLength
    (List.append_nil _).symm, List.append_nil]
  show readChallenge _ >>= _ = _
  rw [hRead]
  rfl

end Ssh1

------------------------------------------------------------
-- The Dialog
------------------------------------------------------------

namespace Ssh1

variable {md5 : List UInt8 → List UInt8}

/-
  The server has its challenge where the exponent is proper
  and the generator goes on to give bytes.
-/
theorem exists_authRsaChallenge_iff
    (sessionId : List UInt8)
    (key : KeyPair)
    (hBytes : 35 ≤ byteLength key.prv.bits)
    (state : RandomState) :
    (∃ result,
        authRsaChallenge md5 sessionId key.prv.publicKey
          state = .ok result) ↔
      3 ≤ key.prv.e ∧ EnoughRandom key.prv.publicKey state := by
  have hInput :=
    inputLength_randomChallenge_le key.prv.publicKey state
  have hInputLen :
      byteLength (mpzSizeinbase2
          (randomChallenge key.prv.publicKey state).1) =
        inputLength
          (randomChallenge key.prv.publicKey state).1 := by
    apply byteLength_of_lt
    rw [inputLength] at hInput
    omega
  constructor
  · rintro ⟨result, hResult⟩
    rcases FallibleRun.bind_eq_ok_iff.mp hResult with
      ⟨encrypted, hEncrypt, -⟩
    rcases of_rsaPublicEncrypt hEncrypt with
      ⟨hExponent, hEnough⟩
    rw [hInputLen] at hEnough
    exact ⟨hExponent, hEnough⟩
  · rintro ⟨hExponent, hEnough⟩
    rcases rsaPrivateDecrypt_rsaPublicEncrypt key _ _
        hExponent (by omega) hEnough with
      ⟨aux, rest, -, -, hEncrypt, -⟩
    rw [authRsaChallenge]
    simp only [hEncrypt, FallibleRun.ok_bind]
    exact ⟨_, rfl⟩

/- What is encrypted is a number below the modulus. -/
theorem encrypted_spec
    {sessionId : List UInt8}
    {key : KeyPair}
    (hBytes : 35 ≤ byteLength key.prv.bits)
    {state rest : RandomState}
    {challenge : RsaChallenge}
    (hChallenge :
      authRsaChallenge md5 sessionId key.prv.publicKey state =
        .ok (challenge, rest)) :
    challenge.encrypted < key.prv.n ∧
      respondToRsaChallenge md5 sessionId challenge.encrypted
          key.prv = .ok challenge.digest := by
  rcases (exists_authRsaChallenge_iff sessionId key hBytes
      state).mp ⟨_, hChallenge⟩ with
    ⟨hExponent, hEnough⟩
  have hInput :=
    inputLength_randomChallenge_le key.prv.publicKey state
  rcases rsaPrivateDecrypt_rsaPublicEncrypt key _ _
      hExponent (by omega) hEnough with
    ⟨aux, rest', -, hBelow, hEncrypt, hDecrypt⟩
  rw [authRsaChallenge] at hChallenge
  simp only [hEncrypt, FallibleRun.ok_bind] at hChallenge
  cases hChallenge
  have hPos : 0 < key.prv.publicKey.n :=
    lt_of_le_of_lt (Nat.zero_le aux) hBelow
  refine ⟨rsaPublic_lt aux hPos, ?_⟩
  rw [respondToRsaChallenge]
  simp only [hDecrypt, FallibleRun.ok_bind]
  rfl

/- The answers to a challenge for a private key. -/
structure RsaChallenge.AnsweredBy
    (md5 : List UInt8 → List UInt8)
    (sessionId : List UInt8)
    (prv : RSAPrivateKey)
    (challenge : RsaChallenge) : Prop where
  length_digest : challenge.digest.length = 16
  -- the packet with the challenge is read back
  received : ∀ rest,
    bufferGetMpInt (mpIntBytes challenge.encrypted ++ rest) =
      .ok (challenge.encrypted, rest)
  client :
    respondToRsaChallenge md5 sessionId challenge.encrypted
      prv = .ok challenge.digest
  agent : ∀ store held,
    IsReachable md5 store → store.Holds held →
      prv ∈ held.map Identity.key →
        sshDecryptChallenge (agentReply md5 store)
            prv.publicKey challenge.encrypted sessionId 1 =
          .ok (some challenge.digest)

end Ssh1

------------------------------------------------------------
-- Keys
------------------------------------------------------------

namespace Ssh1

variable {md5 : List UInt8 → List UInt8}
variable {store : IdentityStore}
variable {held : List Identity}

/- The numbers of the server's key fit a message. -/
theorem serverKey_encodable :
    serverKey.prv.publicKey.Encodable where
  bits := serverKey.exact.unsigned
  e := by decide +kernel
  n := by decide +kernel

theorem mersenne_127_ne_two : mersenne 127 ≠ 2 := by
  decide +kernel

/- The two primes are different. -/
theorem mersenne_127_lt : mersenne 127 < mersenne 521 := by
  decide +kernel

/- The modulus has its 648 bits. -/
theorem le_mersenne_mul :
    2 ^ (648 - 1) ≤ mersenne 127 * mersenne 521 := by
  decide +kernel

theorem mersenne_mul_lt :
    mersenne 127 * mersenne 521 < 2 ^ 648 := by
  decide +kernel

theorem mersenne_bits_lt : 648 < 2 ^ 32 := by
  decide

/- Two moduli that differ in the exponent alone. -/
def keyWithExponent
    (e : Nat)
    (hCoprime :
      Nat.Coprime e
        ((mersenne 127 - 1) * (mersenne 521 - 1))) : KeyPair :=
  .ofPrimes 648 (mersenne 127) (mersenne 521) e
    mersenne_127_prime mersenne_521_prime
    mersenne_127_ne_two mersenne_127_lt hCoprime
    le_mersenne_mul mersenne_mul_lt mersenne_bits_lt

/- A store with a single identity. -/
theorem holds_singleton
    (identity : Identity) :
    IdentityStore.Holds ⟨1, some [some identity]⟩
      [identity] where
  count := rfl
  slots := by
    rw [if_neg (List.cons_ne_nil _ _)]
    exact ⟨[], rfl⟩

/- The modulus is long enough for a challenge. -/
theorem byteLength_keyWithExponent
    {e : Nat}
    (hCoprime :
      Nat.Coprime e
        ((mersenne 127 - 1) * (mersenne 521 - 1))) :
    35 ≤ byteLength (keyWithExponent e hCoprime).prv.bits := by
  show 35 ≤ byteLength 648
  decide

/- An agent with such a key reads what is not there. -/
theorem processMessage_keyWithExponent
    (md5 : List UInt8 → List UInt8)
    (store : IdentityStore)
    {e : Nat}
    (hCoprime :
      Nat.Coprime e
        ((mersenne 127 - 1) * (mersenne 521 - 1)))
    (hExponent : mpzSizeinbase2 e = 65536) :
    processMessage md5 store
        (SocketEntry.alone
          (agentFrame
            (decryptChallengeText
              (keyWithExponent e hCoprime).prv.publicKey 5
              (List.replicate 16 3) 1))) =
      .error .outOfBounds := by
  have hModulus :
      mpzSizeinbase2
          (keyWithExponent e hCoprime).prv.publicKey.n = 648 :=
    mpzSizeinbase2_eq (by omega) le_mersenne_mul
      mersenne_mul_lt
  have hChallenge : mpzSizeinbase2 5 = 3 := by
    decide +kernel
  have hSame :
      mpzSizeinbase2
          (keyWithExponent e hCoprime).prv.publicKey.e =
        65536 :=
    hExponent
  apply processMessage_of_full_exponent store hSame
  simp only [decryptChallengeText, challengeFields,
    List.length_cons, List.length_append, length_put32Bit,
    length_mpIntBytes, List.length_replicate, hModulus,
    hChallenge, hSame, maxAgentMessage]
  omega

/- An exponent of 65536 bits. -/
def fullExponent : Nat := 2 ^ 65535 + 3

theorem mpzSizeinbase2_twoPow_add_three
    {n : Nat}
    (hn : 2 ≤ n) :
    mpzSizeinbase2 (2 ^ n + 3) = n + 1 := by
  have hSmall : 2 ^ 2 ≤ 2 ^ n :=
    Nat.pow_le_pow_right (by omega) hn
  refine mpzSizeinbase2_eq (by omega) ?_ ?_
  · rw [Nat.add_sub_cancel]
    exact Nat.le_add_right _ _
  · rw [Nat.pow_succ]
    omega

/- The exponent has one bit more than may be announced. -/
theorem mpzSizeinbase2_fullExponent :
    mpzSizeinbase2 fullExponent = 65536 := by
  rw [fullExponent, mpzSizeinbase2_twoPow_add_three (by omega)]

theorem coprime_fullExponent :
    Nat.Coprime fullExponent
      ((mersenne 127 - 1) * (mersenne 521 - 1)) := by
  decide +kernel

end Ssh1
