import Ssh1.Client.Login
import Ssh1.Lib.RunHistory

/-
  The rules that a client keeps while it logs in.

  The server may send whatever it wants. Each secret of the
  client is used under a condition on what has happened so
  far, and each packet of the client answers to a rule.

  Main declarations:
    * `HostAccepted`, `SessionOpen`
    * `RepliedTo`, `Challenged`
    * `Requests`, `ClientRule`
-/

------------------------------------------------------------
-- Rules
------------------------------------------------------------

namespace Ssh1

/- The payload of a public key packet has these keys. -/
def CarriesKeys
    (payload : Buffer)
    (keys : ServerKeys) : Prop :=
  ∃ r₁ r₂ r₃ r₄ r₅ r₆ r₇ flags r₈ r₉ r₁₀,
    bufferGetChars 8 payload = .ok (keys.cookie, r₁) ∧
      bufferGetInt r₁ = .ok (keys.publicKey.bits, r₂) ∧
      bufferGetMpInt r₂ = .ok (keys.publicKey.e, r₃) ∧
      bufferGetMpInt r₃ = .ok (keys.publicKey.n, r₄) ∧
      bufferGetInt r₄ = .ok (keys.hostKey.bits, r₅) ∧
      bufferGetMpInt r₅ = .ok (keys.hostKey.e, r₆) ∧
      bufferGetMpInt r₆ = .ok (keys.hostKey.n, r₇) ∧
      bufferGetInt r₇ = .ok (flags, r₈) ∧
      bufferGetInt r₈ = .ok (keys.supportedCiphers, r₉) ∧
      bufferGetInt r₉ =
        .ok (keys.supportedAuthentications, r₁₀)

/- Nothing but arrivals. -/
def OnlyArrivals (events : List ClientLoginEvent) : Prop :=
  ∀ event ∈ events,
    ∃ arrival, event = .link (.received arrival)

/- All that has happened is that the server sent its keys. -/
def KeysReceived
    (keys : ServerKeys)
    (before : List ClientLoginEvent) : Prop :=
  ∃ early payload,
    before =
        early ++
          [.link (.received
            (.packet (sshSmsgPublicKey :: payload)))] ∧
      OnlyArrivals early ∧ CarriesKeys payload keys

/- The login began with these keys of the server. -/
def KeysMet
    (env : ClientLoginEnv)
    (keys : ServerKeys)
    (before : List ClientLoginEvent) : Prop :=
  ∃ early late,
    before =
        early ++
          .met keys (env.hostStatus keys.hostKey) :: late ∧
      KeysReceived keys early

/- The first line with an answer is a yes. -/
def UserAgrees (env : ClientLoginEnv) : Prop :=
  ∃ early line late,
    env.confirmation = some (early ++ line :: late) ∧
      LoggingIn.stripSpaces line = "yes".toList ∧
      ∀ earlier ∈ early,
        LoggingIn.stripSpaces earlier ≠ "no".toList

/- The host key may be used, by what is known of it. -/
def HostAccepted
    (env : ClientLoginEnv)
    (keys : ServerKeys)
    (before : List ClientLoginEvent) : Prop :=
  KeysMet env keys before ∧
    (env.hostStatus keys.hostKey = .ok ∨
      env.options.strictHostKeyChecking ≠ 1 ∧
        (env.options.strictHostKeyChecking = 2 →
          env.options.batchMode = false ∧ UserAgrees env))

/- The session key was sent, encrypted for these keys. -/
def SessionKeySent
    (env : ClientLoginEnv)
    (keys : ServerKeys)
    (cipher : Nat)
    (before : List ClientLoginEvent) : Prop :=
  ∃ random random' key,
    encryptSessionKey keys.publicKey keys.hostKey
        env.sessionKey (keys.sessionId env.md5) random =
      .ok (key, random') ∧
    before.getLast? =
      some (.link (.sent
        { type := sshCmsgSessionKey
          payload :=
            bufferPutInt
              ((UInt8.ofNat cipher :: keys.cookie) ++
                mpIntBytes key) 3 }))

/- A success that came in under the session key. -/
def KeyConfirmed
    (before : List ClientLoginEvent) : Prop :=
  ∃ cipher early late rest,
    before = early ++ .keyed cipher :: late ∧
      .link (.received (.packet (sshSmsgSuccess :: rest))) ∈
        late

/- The host is accepted and holds the session key. -/
structure SessionOpen
    (env : ClientLoginEnv)
    (keys : ServerKeys)
    (before : List ClientLoginEvent) : Prop where
  accepted : HostAccepted env keys before
  confirmed : KeyConfirmed before

/- This was received after the packet that was sent last. -/
def RepliedTo
    (packet : ServerPacket)
    (body : Buffer)
    (before : List ClientLoginEvent) : Prop :=
  ∃ early late,
    before = early ++ .link (.sent packet) :: late ∧
      (∀ packet', .link (.sent packet') ∉ late) ∧
      .link (.received (.packet body)) ∈ late

/- The last packet was answered with a challenge. -/
def Challenged
    (packet : ServerPacket)
    (challenge : Nat)
    (before : List ClientLoginEvent) : Prop :=
  ∃ rest rest',
    RepliedTo packet (sshSmsgAuthRsaChallenge :: rest)
        before ∧
      bufferGetMpInt rest = .ok (challenge, rest')

/- The packet that offers a key of the user. -/
def keyOffer (n : Nat) : ServerPacket where
  type := sshCmsgAuthRsa
  payload := mpIntBytes n

/- The packet that offers the key of the client's host. -/
def hostKeyOffer
    (env : ClientLoginEnv)
    (hostKey : RSAPrivateKey) : ServerPacket where
  type := sshCmsgAuthRhostsRsa
  payload :=
    bufferPutInt (bufferPutString [] env.localUser)
        hostKey.bits ++
      mpIntBytes hostKey.e ++ mpIntBytes hostKey.n

/- The private keys of the client, and how it offers them. -/
inductive ClientHolds
    (env : ClientLoginEnv)
    (before : List ClientLoginEvent) :
    RSAPrivateKey → ServerPacket → Prop where
  | hostKey
      {prv : RSAPrivateKey}
      (hKey : env.ownHostKey = some prv) :
      ClientHolds env before prv (hostKeyOffer env prv)
  -- it is read with no passphrase or with the one typed for
  -- this file
  | file
      {number : Nat}
      {file : KeyFileRead}
      {passphrase : List UInt8}
      {memory : KeyMemory}
      (hFile : env.identityFiles[number]? = some file)
      (hTyped :
        passphrase = [] ∨
          .typed (.passphrase number) passphrase ∈ before)
      (hLoad :
        loadPrivateKey env.keyFileEnv file passphrase false =
          .ok (true, memory)) :
      ClientHolds env before memory.privateKey
        (keyOffer memory.privateKey.n)

/- The packets that a client sends in an open session. -/
inductive Requests
    (env : ClientLoginEnv)
    (keys : ServerKeys)
    (before : List ClientLoginEvent) :
    ServerPacket → Prop where
  | user :
      Requests env keys before
        ⟨sshCmsgUser, bufferPutString [] env.serverUser⟩
  | rhosts
      (hUses :
        keys.uses sshAuthRhosts
          env.options.rhostsAuthentication = true) :
      Requests env keys before
        ⟨sshCmsgAuthRhosts, bufferPutString [] env.localUser⟩
  | hostKey
      {hostKey : RSAPrivateKey}
      (hUses :
        keys.uses sshAuthRhostsRsa
          env.options.rhostsRsaAuthentication = true)
      (hKey : env.ownHostKey = some hostKey) :
      Requests env keys before (hostKeyOffer env hostKey)
  | offer
      (n : Nat)
      (hUses :
        keys.uses sshAuthRsa
          env.options.rsaAuthentication = true) :
      Requests env keys before (keyOffer n)
  -- the passphrase was wrong
  | dummy :
      Requests env keys before
        ⟨sshCmsgAuthRsaResponse, List.replicate 16 0⟩
  | answer
      {key : RSAPublicKey}
      {challenge : Nat}
      {response : List UInt8}
      (hLast :
        before.getLast? =
          some (.answered key challenge response)) :
      Requests env keys before
        ⟨sshCmsgAuthRsaResponse, response⟩
  | agentAnswer
      {key : RSAPublicKey}
      {challenge : Nat}
      {sessionId response : List UInt8}
      (hLast :
        before.getLast? =
          some (.askedAgent key challenge sessionId
            response)) :
      Requests env keys before
        ⟨sshCmsgAuthRsaResponse, response⟩
  | tis
      (hUses :
        keys.uses sshAuthTis
          env.options.tisAuthentication = true)
      (hBatch : env.options.batchMode = false) :
      Requests env keys before ⟨sshCmsgAuthTis, []⟩
  | tisResponse
      {text : List UInt8}
      (hLast : before.getLast? = some (.typed .tis text)) :
      Requests env keys before
        ⟨sshCmsgAuthTisResponse, bufferPutString [] text⟩
  | password
      {attempt : Nat}
      {text : List UInt8}
      (hUses :
        keys.uses sshAuthPassword
          env.options.passwordAuthentication = true)
      (hLast :
        before.getLast? =
          some (.typed (.password attempt) text)) :
      Requests env keys before
        ⟨sshCmsgAuthPassword, bufferPutString [] text⟩

/- The packets that a client sends. -/
inductive MaySend
    (env : ClientLoginEnv)
    (before : List ClientLoginEvent) :
    ServerPacket → Prop where
  | disconnect
      (message : String) :
      MaySend env before (disconnectPacket message)
  | sessionKey
      {keys : ServerKeys}
      {payload : Buffer}
      (hAccepted : HostAccepted env keys before) :
      MaySend env before ⟨sshCmsgSessionKey, payload⟩
  | request
      {keys : ServerKeys}
      {packet : ServerPacket}
      (hOpen : SessionOpen env keys before)
      (hRequest : Requests env keys before packet) :
      MaySend env before packet

/- When an event of a login may come. -/
def ClientRule
    (env : ClientLoginEnv)
    (before : List ClientLoginEvent) :
    ClientLoginEvent → Prop
| .link (.received _) => True
| .link (.sent packet) => MaySend env before packet
| .link _ => False
| .met keys status =>
    status = env.hostStatus keys.hostKey ∧
      KeysReceived keys before
| .keyed cipher =>
    ∃ keys,
      HostAccepted env keys before ∧
        SessionKeySent env keys cipher before
| .prompted _ =>
    env.options.batchMode = false ∧
      ∃ keys, SessionOpen env keys before
-- it is what the user types at this prompt
| .typed prompt text =>
    before.getLast? = some (.prompted prompt) ∧
      ∃ typed, env.typed prompt = .ok typed ∧
        text = cString typed
-- the answer is for this session and for this offer only
| .answered key challenge response =>
    ∃ keys prv offer,
      SessionOpen env keys before ∧
        Challenged offer challenge before ∧
        ClientHolds env before prv offer ∧
        key = prv.publicKey ∧
        respondToRsaChallenge env.md5
            (keys.sessionId env.md5) challenge prv =
          .ok response
| .askedAgent key challenge sessionId response =>
    ∃ keys agent time reply,
      SessionOpen env keys before ∧
        Challenged (keyOffer key.n) challenge before ∧
        sessionId = keys.sessionId env.md5 ∧
        env.agent = some agent ∧
        sshDecryptChallenge (agent time) key challenge
            sessionId 1 = .ok reply ∧
        response = reply.getD (List.replicate 16 0)

/- The packets that a success may be the answer to. -/
def AsksToLogIn (type : UInt8) : Prop :=
  type = sshCmsgUser ∨ type = sshCmsgAuthRhosts ∨
    type = sshCmsgAuthRsaResponse ∨
    type = sshCmsgAuthTisResponse ∨
    type = sshCmsgAuthPassword

/- The server has accepted what was sent last. -/
def LoggedIn (before : List ClientLoginEvent) : Prop :=
  ∃ packet rest,
    RepliedTo packet (sshSmsgSuccess :: rest) before ∧
      AsksToLogIn packet.type

end Ssh1

------------------------------------------------------------
-- What Stays True
------------------------------------------------------------

namespace Ssh1

open Recorded

variable {env : ClientLoginEnv} {keys : ServerKeys}

/- Keys that were met stay so. -/
theorem stable_keysMet :
    Stable (KeysMet env keys) := by
  intro before later hMet
  rcases hMet with
    ⟨early, late, rfl, hReceived⟩
  refine ⟨early, late ++ later, ?_, hReceived⟩
  rw [List.append_assoc, List.cons_append]

/- A host that was accepted stays so. -/
theorem stable_hostAccepted :
    Stable (HostAccepted env keys) := by
  intro before later hAccepted
  exact ⟨stable_keysMet before later hAccepted.1,
    hAccepted.2⟩

/- A confirmed key stays confirmed. -/
theorem stable_keyConfirmed : Stable KeyConfirmed := by
  intro before later hConfirmed
  rcases hConfirmed with
    ⟨cipher, early, late, rest, hBefore, hMem⟩
  refine ⟨cipher, early, late ++ later, rest, ?_,
    List.mem_append_left _ hMem⟩
  rw [hBefore, List.append_assoc, List.cons_append]

/- The session stays open. -/
theorem stable_sessionOpen :
    Stable (SessionOpen env keys) := by
  intro before later hOpen
  exact ⟨stable_hostAccepted before later hOpen.accepted,
    stable_keyConfirmed before later hOpen.confirmed⟩

/- A reply is one until the next packet is sent. -/
theorem RepliedTo.append
    {packet : ServerPacket}
    {body : Buffer}
    {before later : List ClientLoginEvent}
    (hReplied : RepliedTo packet body before)
    (hLater : ∀ packet', .link (.sent packet') ∉ later) :
    RepliedTo packet body (before ++ later) := by
  rcases hReplied with
    ⟨early, late, hBefore, hNone, hMem⟩
  refine ⟨early, late ++ later, ?_, ?_,
    List.mem_append_left _ hMem⟩
  · rw [hBefore, List.append_assoc, List.cons_append]
  · intro packet' hSent
    rcases List.mem_append.mp hSent with hEarly | hLate
    · exact hNone packet' hEarly
    · exact hLater packet' hLate

/- A challenge stays the last one until a packet is sent. -/
theorem Challenged.append
    {packet : ServerPacket}
    {challenge : Nat}
    {before later : List ClientLoginEvent}
    (hChallenged : Challenged packet challenge before)
    (hLater : ∀ packet', .link (.sent packet') ∉ later) :
    Challenged packet challenge (before ++ later) := by
  rcases hChallenged with ⟨rest, rest', hReplied, hGet⟩
  exact ⟨rest, rest', hReplied.append hLater, hGet⟩

end Ssh1

------------------------------------------------------------
-- Reading Packets
------------------------------------------------------------

namespace Ssh1

/- What a side does that waits for packets. -/
def Exchange.IsQuiet : Exchange → Prop
| .received _ => True
| .sent packet => ∃ message, packet = disconnectPacket message
| _ => False

/- Where it goes on, it has sent nothing. -/
def OnlyReceives
    (_ : LoginState)
    (events : List Exchange)
    (_ : LoginState) : Prop :=
  ∀ packet, .sent packet ∉ events

/- Two runs that only receive are one that does. -/
theorem onlyReceives_composes :
    Recorded.Composes OnlyReceives where
  refl := by
    intro state packet hMem
    cases hMem
  trans := by
    intro x y z events events' hFirst hRest packet hMem
    rcases List.mem_append.mp hMem with hBefore | hAfter
    · exact hFirst packet hBefore
    · exact hRest packet hAfter

namespace Session

open Recorded

variable {α β : Type}

/- What a side does that waits for packets. -/
abbrev Quiet (m : Session α) : Prop :=
  Kept Exchange.IsQuiet OnlyReceives m

theorem quiet_pure
    (a : α) :
    Quiet (pure a) :=
  Kept.pure onlyReceives_composes a

/- Two quiet pieces are quiet together. -/
theorem quiet_bind
    {m : Session α}
    {f : α → Session β}
    (hFirst : Quiet m)
    (hRest : ∀ a, Quiet (f a)) :
    Quiet (m >>= f) :=
  Kept.bind onlyReceives_composes hFirst hRest

theorem quiet_get : Quiet get :=
  Kept.get onlyReceives_composes

/- The message of the disconnect is not recorded as sent. -/
theorem quiet_packetDisconnect
    (message : String) :
    Quiet (packetDisconnect message : Session α) := by
  constructor
  · intro state event hEvent
    rw [packetDisconnect_apply, List.mem_singleton] at hEvent
    subst hEvent
    exact ⟨message, rfl⟩
  · intro state a state' hResult
    cases hResult

theorem quiet_haltWith
    (halt : Halt) :
    Quiet (haltWith halt : Session α) := by
  cases halt with
  | disconnect message => exact quiet_packetDisconnect message
  | fatal message => exact Kept.stop _
  | exit message => exact Kept.stop _
  | assertion => exact Kept.stop _
  | outOfBounds => exact Kept.stop _
  | diverges => exact Kept.stop _

theorem quiet_ofOutcome
    (x : Outcome α) :
    Quiet (ofOutcome x) := by
  cases x with
  | ok a => exact quiet_pure a
  | error halt => exact quiet_haltWith halt

theorem quiet_setIncomingPacket
    (incomingPacket : Buffer) :
    Quiet (setIncomingPacket incomingPacket) := by
  refine Kept.modify ?_
  intro state packet hMem
  cases hMem

theorem quiet_packetGet
    (get' : Buffer → Outcome (α × Buffer)) :
    Quiet (packetGet get') := by
  refine quiet_bind quiet_get fun state => ?_
  refine quiet_bind (quiet_ofOutcome _) fun read => ?_
  refine quiet_bind (quiet_setIncomingPacket _) fun _ => ?_
  exact quiet_pure _

/- Taking a packet out of the input sends nothing. -/
theorem quiet_takePacket
    (body : Buffer) :
    Quiet (takePacket body) := by
  refine quiet_bind (quiet_ofOutcome _) fun read => ?_
  exact quiet_bind (quiet_setIncomingPacket _) fun _ =>
    quiet_pure _

theorem quiet_takeArrival
    (arrival : Arrival) :
    Quiet (takeArrival arrival) := by
  refine quiet_bind quiet_get fun state => ?_
  cases arrival with
  | packet body =>
      simp only []
      split
      · exact quiet_packetDisconnect _
      · exact quiet_takePacket body
  | spoiled reason =>
      simp only []
      split
      · exact quiet_packetDisconnect _
      · exact quiet_haltWith _
  | badLength len => exact quiet_packetDisconnect _
  | closed => exact Kept.stop _
  | readFailed cause => exact Kept.stop _

/- A packet that is passed over is quiet if what follows is. -/
theorem quiet_readArrival
    (arrival : Arrival)
    {next : Session UInt8}
    (hNext : Quiet next) :
    Quiet (readArrival arrival next) := by
  have hReceived : Quiet (record (.received arrival)) := by
    refine Kept.record trivial ?_
    intro state packet hMem
    cases List.mem_singleton.mp hMem
  refine quiet_bind hReceived fun _ => ?_
  refine quiet_bind (quiet_takeArrival arrival) fun type => ?_
  cases type with
  | none => exact hNext
  | some type => exact quiet_pure type

/- By induction on the packets that are still to come. -/
theorem quiet_readArrivals
    (arrivals : List Arrival) :
    Quiet (ofRuns fun state =>
      readArrivals state arrivals) := by
  induction arrivals with
  | nil => exact Kept.stop _
  | cons arrival arrivals ih =>
      have hStep := quiet_readArrival arrival ih
      constructor
      · intro state
        exact hStep.always
          { state with arrivals, time := state.time + 1 }
      · intro state
        exact hStep.leads
          { state with arrivals, time := state.time + 1 }

/- Waiting for a packet sends nothing. -/
theorem quiet_packetRead : Quiet packetRead := by
  constructor
  · intro state
    exact (quiet_readArrivals state.arrivals).always state
  · intro state
    exact (quiet_readArrivals state.arrivals).leads state

end Session

end Ssh1
