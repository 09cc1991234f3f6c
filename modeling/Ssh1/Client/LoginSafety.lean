import Ssh1.Client.LoginSteps

/-
  Logins of a client are safe with any server.

  Each way of authentication keeps the rules in an open
  session, and ends a login only if the server accepts it.

  Main declarations:
    * `LoggingIn.KeepsOpen`
    * `SafeLogin`, `sshLogin_safe`
-/

------------------------------------------------------------
-- Requests and Answers
------------------------------------------------------------

namespace Ssh1

namespace LoggingIn

open Recorded

variable {env : ClientLoginEnv} {keys : ServerKeys}
variable {F : List ClientLoginEvent → Prop}
variable {packet : ServerPacket}

/- What is read next answers the packet that was sent. -/
theorem repliedTo_of_justRead
    {body : Buffer}
    {before : List ClientLoginEvent}
    (hStable : Stable F)
    (hRead :
      JustRead
        (fun before =>
          F before ∧
            before.getLast? = some (.link (.sent packet)))
        body before) :
    F before ∧ RepliedTo packet body before := by
  rcases hRead.onlyArrivals with
    ⟨earlier, later, ⟨hPast, hLast⟩, rfl, hArrivals, hMem⟩
  refine ⟨hStable earlier later hPast, ?_⟩
  rcases List.getLast?_eq_some_iff.mp hLast with
    ⟨early, rfl⟩
  refine ⟨early, later, ?_, ?_, hMem⟩
  · rw [List.append_assoc, List.singleton_append]
  · intro packet' hSent
    rcases hArrivals _ hSent with ⟨arrival, hArrival⟩
    cases hArrival

/- A packet of an open session is sent by the rules. -/
theorem keeps_request
    {type : UInt8}
    {payload : Buffer}
    (G : List ClientLoginEvent → Prop)
    (hRequest : ∀ before,
      G before → Requests env keys before ⟨type, payload⟩) :
    Keeps env
      (fun before => SessionOpen env keys before ∧ G before)
      (packetSend type payload)
      fun _ before =>
        SessionOpen env keys before ∧
          before.getLast? =
            some (.link (.sent ⟨type, payload⟩)) := by
  refine (keeps_packetSend ?_).weaken
    (fun _ hPre => hPre) ?_
  · rintro before ⟨hOpen, hG⟩
    exact MaySend.request hOpen (hRequest before hG)
  · rintro _ before ⟨earlier, ⟨hOpen, _⟩, rfl⟩
    exact ⟨stable_sessionOpen _ _ hOpen,
      List.getLast?_concat⟩

/- A request that needs no more than an open session. -/
theorem keeps_plainRequest
    {type : UInt8}
    {payload : Buffer}
    (hRequest : ∀ before,
      Requests env keys before ⟨type, payload⟩) :
    Keeps env (SessionOpen env keys)
      (packetSend type payload)
      fun _ before =>
        SessionOpen env keys before ∧
          before.getLast? =
            some (.link (.sent ⟨type, payload⟩)) :=
  (keeps_request (fun _ => True)
      fun before _ => hRequest before).weaken
    (fun _ hOpen => ⟨hOpen, trivial⟩) fun _ _ hPost => hPost

/-
  The session stays open, and an accepted login is answered
  for.
-/
def Attempted
    (env : ClientLoginEnv)
    (keys : ServerKeys)
    (accepted : Bool)
    (before : List ClientLoginEvent) : Prop :=
  SessionOpen env keys before ∧
    (accepted = true → LoggedIn before)

/- A refused attempt leaves the session open. -/
theorem Attempted.refused
    {before : List ClientLoginEvent}
    (hOpen : SessionOpen env keys before) :
    Attempted env keys false before := by
  refine ⟨hOpen, ?_⟩
  intro hAccepted
  cases hAccepted

/- The verdict is on the packet that was sent last. -/
theorem keeps_readVerdict
    (hType : AsksToLogIn packet.type)
    (message : Nat → String) :
    Keeps env
      (fun before =>
        SessionOpen env keys before ∧
          before.getLast? = some (.link (.sent packet)))
      (readVerdict message) (Attempted env keys) := by
  refine keeps_packetRead.bind fun type => ?_
  split
  · rename_i hSuccess
    rw [hSuccess]
    refine Follows.pure ?_
    rintro before ⟨rest, hRead⟩
    rcases repliedTo_of_justRead stable_sessionOpen hRead
      with ⟨hOpen, hReplied⟩
    exact ⟨hOpen, fun _ => ⟨packet, rest, hReplied, hType⟩⟩
  · split
    · exact keeps_packetDisconnect _ _
    · refine Follows.pure ?_
      rintro before ⟨rest, hRead⟩
      exact Attempted.refused
        (repliedTo_of_justRead stable_sessionOpen hRead).1

/- A challenge, if there is one, answers what was sent. -/
def MayChallenge
    (packet : ServerPacket)
    (challenge : Option Nat)
    (before : List ClientLoginEvent) : Prop :=
  ∀ number, challenge = some number →
    Challenged packet number before

/- The challenge answers the packet that was sent last. -/
theorem keeps_readChallenge :
    Keeps env
      (fun before =>
        SessionOpen env keys before ∧
          before.getLast? = some (.link (.sent packet)))
      readChallenge
      fun challenge before =>
        SessionOpen env keys before ∧
          MayChallenge packet challenge before := by
  refine Watched.bind watched_packetRead fun type => ?_
  split
  · refine Watched.pure ?_
    intro state before hRead
    refine ⟨(repliedTo_of_justRead stable_sessionOpen
      hRead).1, ?_⟩
    intro number hNumber
    cases hNumber
  · split
    · exact watched_packetDisconnect _ _ _
    · rename_i hChallenge
      rw [not_not] at hChallenge
      rw [hChallenge]
      refine Watched.bind
        (watched_packetGet
          (fun buffer =>
            JustRead _ (sshSmsgAuthRsaChallenge :: buffer)) _)
        fun number => ?_
      refine Watched.pure ?_
      rintro state before ⟨rest, buffer, hRead, hGet⟩
      rcases repliedTo_of_justRead stable_sessionOpen hRead
        with ⟨hOpen, hReplied⟩
      refine ⟨hOpen, ?_⟩
      rintro _ ⟨⟩
      exact ⟨buffer, rest, hReplied, hGet⟩

/- What the user types is known to be typed. -/
theorem keeps_readSecret
    {prompt : Prompt}
    (hBatch : env.options.batchMode = false) :
    Keeps env (SessionOpen env keys)
      (readPassphrase env prompt)
      fun text before =>
        SessionOpen env keys before ∧
          before.getLast? = some (.typed prompt text) := by
  refine (keeps_readPassphrase fun before hOpen =>
    ⟨hBatch, keys, hOpen⟩).weaken (fun _ hPre => hPre) ?_
  rintro text before ⟨earlier, hOpen, rfl⟩
  refine ⟨stable_sessionOpen _ _ hOpen, ?_⟩
  rw [List.getLast?_append]
  rfl

end LoggingIn

end Ssh1

------------------------------------------------------------
-- Answers to Challenges
------------------------------------------------------------

namespace Ssh1

namespace LoggingIn

open Recorded

variable {env : ClientLoginEnv} {keys : ServerKeys}
variable {challenge : Nat}

/- A way of authentication keeps the rules. -/
abbrev KeepsOpen
    (env : ClientLoginEnv)
    (keys : ServerKeys)
    (way : LoggingIn Bool) : Prop :=
  Keeps env (SessionOpen env keys) way (Attempted env keys)

/- A response that the rule allows, and its verdict. -/
theorem keeps_sendResponse
    {response : List UInt8}
    (G : List ClientLoginEvent → Prop)
    (hRequest : ∀ before,
      G before →
        Requests env keys before
          ⟨sshCmsgAuthRsaResponse, response⟩) :
    Keeps env
      (fun before => SessionOpen env keys before ∧ G before)
      (sendResponse response) (Attempted env keys) :=
  (keeps_request G hRequest).bind fun _ =>
    keeps_readVerdict (Or.inr (Or.inr (Or.inl rfl))) _

/- A key that is held answers the challenge for its offer. -/
theorem keeps_respondTo
    (offer : ServerPacket)
    (prv : RSAPrivateKey) :
    Keeps env
      (fun before =>
        SessionOpen env keys before ∧
          Challenged offer challenge before ∧
          ClientHolds env before prv offer)
      (respondTo env keys challenge prv)
      (Attempted env keys) := by
  refine (keeps_ofOutcome _).bind fun response => ?_
  refine Follows.of_fact fun hResponse => ?_
  have hAnswered :
      Keeps env
        (fun before =>
          SessionOpen env keys before ∧
            Challenged offer challenge before ∧
            ClientHolds env before prv offer)
        (record
          (.answered prv.publicKey challenge response) :
          LoggingIn Unit)
        fun _ before =>
          SessionOpen env keys before ∧
            before.getLast? =
              some (.answered prv.publicKey challenge
                response) := by
    refine Follows.record ?_ ?_
    · rintro before ⟨hOpen, hChallenged, hHolds⟩
      exact ⟨keys, prv, offer, hOpen, hChallenged, hHolds,
        rfl, hResponse⟩
    · rintro before ⟨hOpen, _, _⟩
      exact ⟨stable_sessionOpen _ _ hOpen,
        List.getLast?_concat⟩
  exact hAnswered.bind fun _ =>
    keeps_sendResponse _ fun before hLast => .answer hLast

/- The host's own key, if the method is used. -/
theorem keepsOpen_rhostsRsa
    {hostKey : RSAPrivateKey}
    (hUses :
      keys.uses sshAuthRhostsRsa
        env.options.rhostsRsaAuthentication = true)
    (hKey : env.ownHostKey = some hostKey) :
    KeepsOpen env keys
      (tryRhostsRsaAuthentication env keys hostKey) := by
  refine (keeps_ofOutcome _).bind fun payload => ?_
  refine Follows.of_fact fun hPayload => ?_
  rw [bufferPutMpInt_eq] at hPayload
  cases hPayload
  refine (keeps_ofOutcome _).bind fun payload => ?_
  refine Follows.of_fact fun hPayload => ?_
  rw [bufferPutMpInt_eq] at hPayload
  cases hPayload
  have hOffer (before : List ClientLoginEvent) :
      Requests env keys before (hostKeyOffer env hostKey) :=
    .hostKey hUses hKey
  refine (keeps_plainRequest hOffer).bind fun _ => ?_
  refine keeps_readChallenge.bind fun challenge => ?_
  cases challenge with
  | none =>
      exact Follows.pure fun before hPost =>
        Attempted.refused hPost.1
  | some challenge =>
      refine (keeps_respondTo (hostKeyOffer env hostKey)
        hostKey).weaken ?_ fun _ _ hPost => hPost
      rintro before ⟨hOpen, hChallenged⟩
      exact ⟨hOpen, hChallenged challenge rfl,
        ClientHolds.hostKey hKey⟩

/- An offered key, if the method is used. -/
theorem keeps_offerKey
    (n : Nat)
    (hUses :
      keys.uses sshAuthRsa
        env.options.rsaAuthentication = true) :
    Keeps env (SessionOpen env keys) (offerKey n)
      fun challenge before =>
        SessionOpen env keys before ∧
          MayChallenge (keyOffer n) challenge before := by
  refine (keeps_ofOutcome _).bind fun payload => ?_
  refine Follows.of_fact fun hPayload => ?_
  rw [bufferPutMpInt_eq, List.nil_append] at hPayload
  cases hPayload
  have hOffer (before : List ClientLoginEvent) :
      Requests env keys before (keyOffer n) :=
    .offer n hUses
  exact (keeps_plainRequest hOffer).bind fun _ =>
    keeps_readChallenge

end LoggingIn

end Ssh1

------------------------------------------------------------
-- The Agent
------------------------------------------------------------

namespace Ssh1

namespace LoggingIn

open Recorded

variable {env : ClientLoginEnv} {keys : ServerKeys}
variable {agent : Nat → AgentBytes}

/- One identity of the agent. -/
theorem keepsOpen_agentIdentity
    (identity : ListedIdentity)
    (hUses :
      keys.uses sshAuthRsa
        env.options.rsaAuthentication = true)
    (hAgent : env.agent = some agent) :
    KeepsOpen env keys
      (tryAgentIdentity agent (keys.sessionId env.md5)
        identity) := by
  refine (keeps_offerKey identity.n hUses).bind
    fun challenge => ?_
  cases challenge with
  | none =>
      exact Follows.pure fun before hPost =>
        Attempted.refused hPost.1
  | some challenge =>
      refine Follows.get_bind fun state => ?_
      refine (keeps_ofOutcome _).bind fun reply => ?_
      refine Follows.of_fact fun hReply => ?_
      let key : RSAPublicKey :=
        ⟨identity.bits, identity.e, identity.n⟩
      let response := reply.getD (List.replicate 16 0)
      have hAsked :
          Keeps env
            (fun before =>
              SessionOpen env keys before ∧
                MayChallenge (keyOffer identity.n)
                  (some challenge) before)
            (record
              (.askedAgent key challenge
                (keys.sessionId env.md5) response) :
              LoggingIn Unit)
            fun _ before =>
              SessionOpen env keys before ∧
                before.getLast? =
                  some (.askedAgent key challenge
                    (keys.sessionId env.md5) response) := by
        refine Follows.record ?_ ?_
        · rintro before ⟨hOpen, hChallenged⟩
          exact ⟨keys, agent, _, reply, hOpen,
            hChallenged challenge rfl, rfl, hAgent, hReply,
            rfl⟩
        · rintro before ⟨hOpen, _⟩
          exact ⟨stable_sessionOpen _ _ hOpen,
            List.getLast?_concat⟩
      exact hAsked.bind fun _ =>
        keeps_sendResponse _ fun before hLast =>
          .agentAnswer hLast

/- By induction on the identities that are still listed. -/
theorem keepsOpen_agentIdentities
    (hUses :
      keys.uses sshAuthRsa
        env.options.rsaAuthentication = true)
    (hAgent : env.agent = some agent)
    (count : Nat)
    (identity : Option ListedIdentity)
    (auth : AgentReply) :
    KeepsOpen env keys
      (tryAgentIdentities agent (keys.sessionId env.md5)
        count identity auth) := by
  induction count generalizing identity auth with
  | zero =>
      cases identity <;>
        exact Follows.pure fun before => Attempted.refused
  | succ count ih =>
      cases identity with
      | none =>
          exact Follows.pure fun before => Attempted.refused
      | some identity =>
          refine (keepsOpen_agentIdentity identity hUses
            hAgent).bind fun accepted => ?_
          cases accepted with
          | true =>
              exact Follows.pure fun before hPost => hPost
          | false =>
              refine ((keeps_ofOutcome _).bind ?_).weaken
                (fun _ hPost => hPost.1) fun _ _ hPost => hPost
              rintro ⟨next, auth⟩
              exact Follows.of_fact fun _ => ih next auth

/- After a call only what it returns matters. -/
theorem ofOutcome_bind_congr
    {α β : Type}
    {x : Outcome α}
    {f g : α → LoggingIn β}
    (hSame : ∀ a, x = .ok a → f a = g a) :
    ofOutcome x >>= f = ofOutcome x >>= g := by
  funext state
  cases x with
  | ok a =>
      change andThen ⟨[], .ok (a, state)⟩ f =
        andThen ⟨[], .ok (a, state)⟩ g
      rw [andThen_ok, andThen_ok, hSame a rfl]
  | error halt => cases halt <;> rfl

/- Each call but the last takes an identity off the count. -/
theorem sshGetNextIdentity_count
    {auth auth' : AgentReply}
    {identity : ListedIdentity}
    (hNext :
      sshGetNextIdentity auth = .ok (some identity, auth')) :
    auth'.numIdentities.toNat < auth.numIdentities.toNat := by
  unfold sshGetNextIdentity at hNext
  split at hNext
  · cases hNext
  · rcases FallibleRun.bind_eq_ok_iff.mp hNext with
      ⟨listed, _, hReturn⟩
    cases hReturn
    simp only []
    omega

/- The loop ends before its bound is reached. -/
theorem tryAgentIdentities_enough
    {sessionId : List UInt8}
    {count count' : Nat}
    (identity : Option ListedIdentity)
    {auth : AgentReply}
    (hCount : auth.numIdentities.toNat < count)
    (hCount' : auth.numIdentities.toNat < count') :
    tryAgentIdentities agent sessionId count identity auth =
      tryAgentIdentities agent sessionId count' identity
        auth := by
  induction count generalizing count' identity auth with
  | zero => omega
  | succ count ih =>
      cases count' with
      | zero => omega
      | succ count' =>
          cases identity with
          | none => rfl
          | some identity =>
              unfold tryAgentIdentities
              refine congrArg _ (funext fun accepted => ?_)
              cases accepted with
              | true => rfl
              | false =>
                  refine ofOutcome_bind_congr ?_
                  rintro ⟨next, auth'⟩ hNext
                  cases next with
                  | none =>
                      cases count <;> cases count' <;> rfl
                  | some listed =>
                      have hLess :=
                        sshGetNextIdentity_count hNext
                      exact ih (some listed) (by omega)
                        (by omega)

/- The agent, if there is one. -/
theorem keepsOpen_agent
    (hUses :
      keys.uses sshAuthRsa
        env.options.rsaAuthentication = true) :
    KeepsOpen env keys
      (tryAgentAuthentication env
        (keys.sessionId env.md5)) := by
  unfold tryAgentAuthentication
  cases hAgent : env.agent with
  | none => exact Follows.pure fun before => Attempted.refused
  | some agent =>
      refine Follows.get_bind fun state => ?_
      refine (keeps_ofOutcome _).bind ?_
      rintro ⟨identity, auth⟩
      exact Follows.of_fact fun _ =>
        keepsOpen_agentIdentities hUses hAgent _ identity auth

end LoggingIn

end Ssh1

------------------------------------------------------------
-- Key Files
------------------------------------------------------------

namespace Ssh1

/- The private part does not change the modulus. -/
theorem loadPrivatePart_n
    {env : KeyFileEnv}
    {passphrase : List UInt8}
    {cipherType : Nat}
    {memory memory' : KeyMemory}
    {buffer : Buffer}
    (hLoad :
      loadPrivatePart env passphrase cipherType memory buffer =
        .ok (true, memory')) :
    memory'.n = memory.n := by
  unfold loadPrivatePart at hLoad
  split at hLoad
  · rcases FallibleRun.bind_eq_ok_iff.mp hLoad with
      ⟨name, _, hFailed⟩
    cases hFailed
  · rcases FallibleRun.bind_eq_ok_iff.mp hLoad with
      ⟨decrypted, _, hChecked⟩
    rcases FallibleRun.bind_eq_ok_iff.mp hChecked with
      ⟨checked, _, hRead⟩
    cases checked with
    | none => cases hRead
    | some rest =>
        rcases FallibleRun.bind_eq_ok_iff.mp hRead with
          ⟨read, hPart, hReturn⟩
        cases hReturn
        unfold readPrivatePart at hPart
        rcases FallibleRun.bind_eq_ok_iff.mp hPart with
          ⟨d, _, hPart⟩
        rcases FallibleRun.bind_eq_ok_iff.mp hPart with
          ⟨u, _, hPart⟩
        rcases FallibleRun.bind_eq_ok_iff.mp hPart with
          ⟨p, _, hPart⟩
        rcases FallibleRun.bind_eq_ok_iff.mp hPart with
          ⟨q, _, hPart⟩
        cases hPart
        rfl

/- Both loading functions find the same modulus in a file. -/
theorem loadPrivateKey_n
    {env : KeyFileEnv}
    {file : KeyFileRead}
    {passphrase : List UInt8}
    {commentReturn commentReturn' : Bool}
    {memory memory' : KeyMemory}
    (hPublic :
      loadPublicKey file commentReturn = .ok (true, memory))
    (hPrivate :
      loadPrivateKey env file passphrase commentReturn' =
        .ok (true, memory')) :
    memory'.n = memory.n := by
  unfold loadPublicKey at hPublic
  unfold loadPrivateKey at hPrivate
  rcases FallibleRun.bind_eq_ok_iff.mp hPublic with
    ⟨body, hBody, hPublic⟩
  rcases FallibleRun.bind_eq_ok_iff.mp hPrivate with
    ⟨body', hBody', hPrivate⟩
  rw [hBody] at hBody'
  cases hBody'
  cases body with
  | none => cases hPublic
  | some buffer =>
      rcases FallibleRun.bind_eq_ok_iff.mp hPublic with
        ⟨header, hHeader, hPublic⟩
      rcases FallibleRun.bind_eq_ok_iff.mp hPrivate with
        ⟨header', hHeader', hPrivate⟩
      rw [hHeader] at hHeader'
      cases hHeader'
      rcases FallibleRun.bind_eq_ok_iff.mp hPrivate with
        ⟨comment, _, hPrivate⟩
      have hPart := loadPrivatePart_n hPrivate
      rw [hPart]
      cases commentReturn with
      | false =>
          cases hPublic
          rfl
      | true =>
          rcases FallibleRun.bind_eq_ok_iff.mp hPublic with
            ⟨comment', _, hPublic⟩
          cases hPublic
          rfl

namespace LoggingIn

open Recorded

variable {env : ClientLoginEnv} {keys : ServerKeys}
variable {file : KeyFileRead} {number n : Nat}

/- An offer that the server has answered with a challenge. -/
def OfferTaken
    (env : ClientLoginEnv)
    (keys : ServerKeys)
    (n challenge : Nat)
    (before : List ClientLoginEvent) : Prop :=
  SessionOpen env keys before ∧
    Challenged (keyOffer n) challenge before

/- What the user types leaves the challenge as it is. -/
theorem OfferTaken.typed
    {challenge : Nat}
    {prompt : Prompt}
    {text : List UInt8}
    {before : List ClientLoginEvent}
    (hTaken : OfferTaken env keys n challenge before) :
    OfferTaken env keys n challenge
      (before ++ [.prompted prompt, .typed prompt text]) := by
  refine ⟨stable_sessionOpen _ _ hTaken.1,
    hTaken.2.append ?_⟩
  intro packet hSent
  simp at hSent

/- The passphrase is empty, or it was typed for this file. -/
theorem keeps_askPassphrase
    {challenge : Nat} :
    Keeps env (OfferTaken env keys n challenge)
      (askPassphrase env number)
      fun text before =>
        (text = [] ∨
            .typed (.passphrase number) text ∈ before) ∧
          OfferTaken env keys n challenge before := by
  unfold askPassphrase
  split
  · exact Follows.pure fun before hPre =>
      ⟨Or.inl rfl, hPre⟩
  · rename_i hBatch
    refine (keeps_readPassphrase fun before hPre =>
      ⟨by simpa using hBatch, keys, hPre.1⟩).weaken
        (fun _ hPre => hPre) ?_
    rintro text before ⟨earlier, hTaken, rfl⟩
    exact ⟨Or.inr (by simp), hTaken.typed⟩

/- A key that was loaded is the key that was offered. -/
theorem clientHolds_loaded
    {passphrase : List UInt8}
    {memory memory' : KeyMemory}
    {before : List ClientLoginEvent}
    (hFile : env.identityFiles[number]? = some file)
    (hPublic : loadPublicKey file true = .ok (true, memory))
    (hTyped :
      passphrase = [] ∨
        .typed (.passphrase number) passphrase ∈ before)
    (hLoad :
      loadPrivateKey env.keyFileEnv file passphrase false =
        .ok (true, memory')) :
    ClientHolds env before memory'.privateKey
      (keyOffer (memory.n.getD 0)) := by
  have hHolds := ClientHolds.file hFile hTyped hLoad
  have hSame :
      memory'.privateKey.n = memory.n.getD 0 := by
    rw [← loadPrivateKey_n hPublic hLoad]
    rfl
  rw [hSame] at hHolds
  exact hHolds

/- The private key is loaded with what was typed. -/
theorem keeps_loadWithPassphrase
    (keys : ServerKeys)
    (challenge : Nat)
    {memory : KeyMemory}
    (hFile : env.identityFiles[number]? = some file)
    (hPublic :
      loadPublicKey file true = .ok (true, memory)) :
    Keeps env
      (OfferTaken env keys (memory.n.getD 0) challenge)
      (loadWithPassphrase env number file)
      fun loaded before =>
        OfferTaken env keys (memory.n.getD 0) challenge
            before ∧
          ∀ prv, loaded = some prv →
            ClientHolds env before prv
              (keyOffer (memory.n.getD 0)) := by
  refine (keeps_ofOutcome _).bind ?_
  rintro ⟨done, memory'⟩
  refine Follows.of_fact fun hLoad => ?_
  cases done with
  | true =>
      refine Follows.pure fun before hTaken =>
        ⟨hTaken, ?_⟩
      rintro _ ⟨⟩
      exact clientHolds_loaded hFile hPublic (Or.inl rfl) hLoad
  | false =>
      refine keeps_askPassphrase.bind fun passphrase => ?_
      refine (keeps_ofOutcome _).bind ?_
      rintro ⟨done, memory'⟩
      refine Follows.of_fact fun hLoad => ?_
      cases done with
      | true =>
          refine Follows.pure ?_
          rintro before ⟨hTyped, hTaken⟩
          refine ⟨hTaken, ?_⟩
          rintro _ ⟨⟩
          exact clientHolds_loaded hFile hPublic hTyped hLoad
      | false =>
          refine Follows.pure ?_
          rintro before ⟨_, hTaken⟩
          refine ⟨hTaken, ?_⟩
          intro prv hNone
          cases hNone

/- The dummy answer holds nothing. -/
theorem keepsOpen_dummy :
    KeepsOpen env keys sendDummyResponse := by
  have hDummy (before : List ClientLoginEvent) :
      Requests env keys before
        ⟨sshCmsgAuthRsaResponse, List.replicate 16 0⟩ :=
    .dummy
  refine (keeps_plainRequest hDummy).bind fun _ => ?_
  refine (keeps_packetReadExpect _).bind fun _ => ?_
  refine Follows.pure ?_
  rintro before ⟨rest, hRead⟩
  exact Attempted.refused
    (repliedTo_of_justRead stable_sessionOpen hRead).1

/- One identity file, if the method is used. -/
theorem keepsOpen_rsa
    (hUses :
      keys.uses sshAuthRsa
        env.options.rsaAuthentication = true)
    (hFile : env.identityFiles[number]? = some file) :
    KeepsOpen env keys
      (tryRsaAuthentication env keys number file) := by
  refine (keeps_ofOutcome _).bind ?_
  rintro ⟨loaded, memory⟩
  refine Follows.of_fact fun hPublic => ?_
  cases loaded with
  | false => exact Follows.pure fun before => Attempted.refused
  | true =>
      refine (keeps_offerKey _ hUses).bind
        fun challenge => ?_
      cases challenge with
      | none =>
          exact Follows.pure fun before hPost =>
            Attempted.refused hPost.1
      | some challenge =>
          have hLoad :=
            keeps_loadWithPassphrase keys challenge hFile
              hPublic
          refine (hLoad.weaken
            (fun before hPre =>
              ⟨hPre.1, hPre.2 challenge rfl⟩)
            fun _ _ hPost => hPost).bind fun loaded => ?_
          cases loaded with
          | none =>
              exact keepsOpen_dummy.weaken
                (fun _ hPre => hPre.1.1) fun _ _ hPost => hPost
          | some prv =>
              refine (keeps_respondTo
                (keyOffer (memory.n.getD 0)) prv).weaken ?_
                  fun _ _ hPost => hPost
              rintro before ⟨⟨hOpen, hChallenged⟩, hHolds⟩
              exact ⟨hOpen, hChallenged, hHolds prv rfl⟩

/- By induction on the files that are left. -/
theorem keepsOpen_identityFiles
    (hUses :
      keys.uses sshAuthRsa
        env.options.rsaAuthentication = true)
    {early files : List KeyFileRead}
    (hFiles : env.identityFiles = early ++ files) :
    KeepsOpen env keys
      (tryIdentityFiles env keys early.length files) := by
  induction files generalizing early with
  | nil => exact Follows.pure fun before => Attempted.refused
  | cons file files ih =>
      have hFile :
          env.identityFiles[early.length]? = some file := by
        rw [hFiles]
        simp
      have hRest :
          env.identityFiles = (early ++ [file]) ++ files := by
        rw [hFiles, List.append_assoc, List.singleton_append]
      have hNext := ih hRest
      rw [List.length_append, List.length_singleton] at hNext
      refine (keepsOpen_rsa hUses hFile).bind
        fun accepted => ?_
      cases accepted with
      | true => exact Follows.pure fun before hPost => hPost
      | false =>
          exact hNext.weaken (fun _ hPost => hPost.1)
            fun _ _ hPost => hPost

end LoggingIn

end Ssh1

------------------------------------------------------------
-- Typed Secrets
------------------------------------------------------------

namespace Ssh1

namespace LoggingIn

open Recorded

variable {env : ClientLoginEnv} {keys : ServerKeys}

/- The TIS method, if it is used and the user is there. -/
theorem keepsOpen_tis
    (hUses :
      keys.uses sshAuthTis
        env.options.tisAuthentication = true)
    (hBatch : env.options.batchMode = false) :
    KeepsOpen env keys (tryTisAuthentication env) := by
  have hTis (before : List ClientLoginEvent) :
      Requests env keys before ⟨sshCmsgAuthTis, []⟩ :=
    .tis hUses hBatch
  refine (keeps_plainRequest hTis).bind fun _ => ?_
  refine keeps_packetRead.bind fun type => ?_
  have hOpens (before : List ClientLoginEvent)
      (hRead : ∃ rest, JustRead
        (fun before =>
          SessionOpen env keys before ∧
            before.getLast? =
              some (.link (.sent ⟨sshCmsgAuthTis, []⟩)))
        (type :: rest) before) :
      SessionOpen env keys before := by
    rcases hRead with ⟨rest, hRead⟩
    exact (repliedTo_of_justRead stable_sessionOpen hRead).1
  split
  · exact Follows.pure fun before hRead =>
      Attempted.refused (hOpens before hRead)
  split
  · exact keeps_packetDisconnect _ _
  refine (keeps_packetGet _).bind fun _ => ?_
  refine ((keeps_readSecret hBatch).weaken hOpens
    fun _ _ hPost => hPost).bind fun password => ?_
  exact (keeps_request _ fun before hLast =>
    .tisResponse hLast).bind fun _ =>
      keeps_readVerdict
        (Or.inr (Or.inr (Or.inr (Or.inl rfl)))) _

theorem keepsOpen_passwords
    (hUses :
      keys.uses sshAuthPassword
        env.options.passwordAuthentication = true)
    (hBatch : env.options.batchMode = false)
    (attempt prompts : Nat) :
    KeepsOpen env keys (tryPasswords env attempt prompts) := by
  induction prompts generalizing attempt with
  | zero => exact Follows.pure fun before => Attempted.refused
  | succ prompts ih =>
      refine (keeps_readSecret hBatch).bind
        fun password => ?_
      refine (keeps_request _ fun before hLast =>
        .password hUses hLast).bind fun _ => ?_
      refine (keeps_readVerdict
        (Or.inr (Or.inr (Or.inr (Or.inr rfl)))) _).bind
          fun accepted => ?_
      cases accepted with
      | true => exact Follows.pure fun before hPost => hPost
      | false =>
          exact (ih (attempt + 1)).weaken
            (fun _ hPost => hPost.1) fun _ _ hPost => hPost

end LoggingIn

end Ssh1

------------------------------------------------------------
-- Whole Logins
------------------------------------------------------------

namespace Ssh1

namespace LoggingIn

open Recorded

variable {env : ClientLoginEnv} {keys : ServerKeys}

theorem keepsOpen_tryIf
    {used : Bool}
    {way : LoggingIn Bool}
    (hWay : used = true → KeepsOpen env keys way) :
    KeepsOpen env keys (tryIf used way) := by
  unfold tryIf
  split
  · rename_i hUsed
    exact hWay hUsed
  · exact Follows.pure fun before => Attempted.refused

/- The name of the user. -/
theorem keepsOpen_sendUser :
    KeepsOpen env keys (sendUser env) :=
  (keeps_plainRequest fun _ => .user).bind fun _ =>
    keeps_readVerdict (Or.inl rfl) _

/- The rhosts method, if it is used. -/
theorem keepsOpen_rhosts
    (hUses :
      keys.uses sshAuthRhosts
        env.options.rhostsAuthentication = true) :
    KeepsOpen env keys (tryRhostsAuthentication env) :=
  (keeps_plainRequest fun _ => .rhosts hUses).bind fun _ =>
    keeps_readVerdict (Or.inr (Or.inl rfl)) _

/- The host's own key, if it can be read. -/
theorem keepsOpen_hostKey
    (hUses :
      keys.uses sshAuthRhostsRsa
        env.options.rhostsRsaAuthentication = true) :
    KeepsOpen env keys (tryHostKey env keys) := by
  unfold tryHostKey
  cases hKey : env.ownHostKey with
  | none => exact Follows.pure fun before => Attempted.refused
  | some hostKey => exact keepsOpen_rhostsRsa hUses hKey

/- The agent and the files. -/
theorem keepsOpen_tryRsa
    (hUses :
      keys.uses sshAuthRsa
        env.options.rsaAuthentication = true) :
    KeepsOpen env keys (tryRsa env keys) := by
  refine (keepsOpen_agent hUses).bind fun accepted => ?_
  cases accepted with
  | true => exact Follows.pure fun before hPost => hPost
  | false =>
      have hFiles :
          env.identityFiles = [] ++ env.identityFiles := rfl
      exact (keepsOpen_identityFiles hUses hFiles).weaken
        (fun _ hPost => hPost.1) fun _ _ hPost => hPost

/- Every way of authentication keeps the rules. -/
theorem keepsOpen_ways :
    ∀ way ∈ ways env keys, KeepsOpen env keys way := by
  unfold ways
  simp only [List.forall_mem_cons]
  refine ⟨keepsOpen_sendUser,
    keepsOpen_tryIf keepsOpen_rhosts,
    keepsOpen_tryIf keepsOpen_hostKey,
    keepsOpen_tryIf keepsOpen_tryRsa,
    keepsOpen_tryIf fun hUsed => ?_,
    keepsOpen_tryIf fun hUsed => ?_, ?_⟩
  · rcases (Bool.and_eq_true _ _).mp hUsed with
      ⟨hUses, hBatch⟩
    exact keepsOpen_tis hUses (by simpa using hBatch)
  · rcases (Bool.and_eq_true _ _).mp hUsed with
      ⟨hUses, hBatch⟩
    exact keepsOpen_passwords hUses (by simpa using hBatch)
      _ _
  · intro way hMem
    cases hMem

/- By induction on the ways that are left. -/
theorem keeps_tryWays
    {rest : List (LoggingIn Bool)}
    (hWays : ∀ way ∈ rest, KeepsOpen env keys way) :
    Keeps env (SessionOpen env keys) (tryWays rest)
      fun _ before =>
        SessionOpen env keys before ∧ LoggedIn before := by
  induction rest with
  | nil => exact Follows.stop _
  | cons way rest ih =>
      rcases List.forall_mem_cons.mp hWays with
        ⟨hWay, hRest⟩
      refine hWay.bind fun accepted => ?_
      cases accepted with
      | true =>
          exact Follows.pure fun before hPost =>
            ⟨hPost.1, hPost.2 rfl⟩
      | false =>
          exact (ih hRest).weaken (fun _ hPost => hPost.1)
            fun _ _ hPost => hPost

/- From an empty history to a login. -/
theorem keeps_sshLogin :
    Keeps env (· = []) (sshLogin env)
      fun _ before =>
        ∃ keys, SessionOpen env keys before ∧
          LoggedIn before := by
  refine keeps_readServerKeys.bind fun keys => ?_
  refine keeps_met.bind fun _ => ?_
  refine (keeps_judgeHost rfl).bind fun _ => ?_
  refine keeps_sendSessionKey.bind fun _ => ?_
  exact (keeps_tryWays keepsOpen_ways).weaken
    (fun _ hPre => hPre) fun _ _ hPost => ⟨keys, hPost⟩

end LoggingIn

/- A login that keeps the rules and ends well for a reason. -/
structure SafeLogin
    (env : ClientLoginEnv)
    (run : Recorded.Run ClientLoginEvent Ending
      ClientLoginState Unit) : Prop where
  keepsRules : EachFollows (ClientRule env) run.events
  earned : ∀ state,
    run.result = .ok ((), state) →
      ∃ keys, SessionOpen env keys run.events ∧
        LoggedIn run.events

/- Every login of a client is safe, with any server. -/
theorem sshLogin_safe
    (env : ClientLoginEnv)
    (state : ClientLoginState) :
    SafeLogin env (sshLogin env state) where
  keepsRules := LoggingIn.keeps_sshLogin.eachFollows state
  earned := by
    intro state' hResult
    exact LoggingIn.keeps_sshLogin.returns hResult

end Ssh1
