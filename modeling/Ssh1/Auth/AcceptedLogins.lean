import Ssh1.Auth.LoginAcceptance

/-
  The requests that are accepted.

  When the loop over the requests returns, the last of them
  was accepted: its packet was received, it carried what its
  type asks for, and the questions about it were answered.

  Main declarations:
    * `Decided`, `decided_authenticationRequest`
    * `RequestAccepted`, `AuthenticatedBy`
    * `authenticatedBy_authenticationLoop`
-/

------------------------------------------------------------
-- Decisions
------------------------------------------------------------

namespace Ssh1

open QuotedText (Text)

/- What the handling of a request comes to. -/
structure Decided
    (env : LoginEnv)
    (requestType : UInt8)
    (state : LoginState)
    (events : List Exchange)
    (authenticated : Option AuthenticationType)
    (state' : LoginState) : Prop where
  goesOn : state'.time = state.time + receivedCount events
  command : authenticated = none →
    state'.restrictions.forcedCommand =
        state.restrictions.forcedCommand ∨
      LeftBehind env state.time events
  accepts : ∀ type, authenticated = some type →
    ∃ attempt line,
      attempt.type = type ∧ attempt.Permitted env ∧
        attempt.requestType = some requestType ∧
        .verdict attempt true ∈ events ∧
        Accepted env state.time state.incomingPacket events
          line attempt ∧
        (SetsCommand env state.time line attempt ∨
          state'.restrictions.forcedCommand =
            state.restrictions.forcedCommand ∨
          LeftBehind env state.time events)

/- A request that fails without any judgement. -/
theorem Decided.of_plain
    {env : LoginEnv}
    {requestType : UInt8}
    {state state' : LoginState}
    {events : List Exchange}
    (hPlain : Plain state events state') :
    Decided env requestType state events none state' :=
  ⟨hPlain.time, fun _ => Or.inl (by rw [hPlain.restrictions]),
    nofun⟩

/-
  A request whose answer only comes from plain computations.
  The questions about it are all answered.
-/
theorem Decided.of_answer
    {env : LoginEnv}
    {requestType : UInt8}
    {state state' : LoginState}
    {events : List Exchange}
    {attempt : Attempt}
    {type : AuthenticationType}
    {accepted : Bool}
    (hPlain : Plain state events state')
    (hPermitted : attempt.Permitted env)
    (hType : attempt.type = type)
    (hRequest : attempt.requestType = some requestType)
    (hVerdict : .verdict attempt accepted ∈ events)
    (hAccepted : accepted = true →
      Accepted env state.time state.incomingPacket events []
        attempt) :
    Decided env requestType state events
      (if accepted then some type else none) state' := by
  have hSame :
      state'.restrictions.forcedCommand =
        state.restrictions.forcedCommand := by
    rw [hPlain.restrictions]
  refine ⟨hPlain.time, fun _ => Or.inl hSame, ?_⟩
  intro type' hSome
  cases accepted with
  | false => cases hSome
  | true =>
      cases hSome
      exact ⟨attempt, [], hType, hPermitted, hRequest,
        hVerdict, hAccepted rfl, Or.inr (Or.inl hSame)⟩

namespace Session

open Recorded Exchange

/- An attempt is asked about, and the answer recorded. -/
theorem decideOn_ok
    {attempt : Attempt}
    {authenticator : Session Bool}
    {state state' : LoginState}
    {accepted : Bool}
    (hResult :
      (decideOn attempt authenticator state).result =
        .ok (accepted, state')) :
    (authenticator state).result = .ok (accepted, state') ∧
      (decideOn attempt authenticator state).events =
        [.asked attempt] ++
          ((authenticator state).events ++
            [.verdict attempt accepted]) := by
  unfold decideOn at hResult ⊢
  rcases bind_ok hResult with
    ⟨_, _, hAsked, hRest, hEvents₁⟩
  cases hAsked
  rcases bind_ok hRest with
    ⟨accepted', state₁, hAnswer, hRecord, hEvents₂⟩
  cases hRecord
  refine ⟨hAnswer, ?_⟩
  rw [hEvents₁, hEvents₂]
  rfl

/- An attempt that is accepted gives its type. -/
theorem offer_ok
    {attempt : Attempt}
    {type : AuthenticationType}
    {authenticator : Session Bool}
    {state state' : LoginState}
    {authenticated : Option AuthenticationType}
    (hResult :
      (offer attempt type authenticator state).result =
        .ok (authenticated, state')) :
    ∃ accepted,
      (authenticator state).result = .ok (accepted, state') ∧
        authenticated = (if accepted then some type else none) ∧
        (offer attempt type authenticator state).events =
          [.asked attempt] ++
            ((authenticator state).events ++
              [.verdict attempt accepted]) := by
  unfold offer at hResult ⊢
  rcases bind_ok hResult with
    ⟨accepted, state₁, hDecided, hReturn, hEvents⟩
  cases hReturn
  rcases decideOn_ok hDecided with
    ⟨hAnswer, hAsked⟩
  refine ⟨accepted, hAnswer, rfl, ?_⟩
  rw [hEvents, hAsked, pure_apply, List.append_nil]

/- What is recorded around an answer takes no time. -/
theorem plain_offered
    {attempt : Attempt}
    {accepted : Bool}
    {state state' : LoginState}
    {events : List Exchange}
    (hPlain : Plain state events state') :
    Plain state
      ([.asked attempt] ++
        (events ++ [.verdict attempt accepted])) state' := by
  refine ⟨?_, hPlain.restrictions⟩
  rw [receivedCount_append, receivedCount_append,
    hPlain.time]
  simp [receivedCount, isReceived]

/- What is read from the packet of a request takes no time. -/
theorem packetGet_bind_ok
    {α β : Type}
    {get' : Buffer → Outcome (α × Buffer)}
    {f : α → Session β}
    {state state' : LoginState}
    {b : β}
    (hResult :
      ((packetGet get' >>= f) state).result =
        .ok (b, state')) :
    ∃ a rest,
      get' state.incomingPacket = .ok (a, rest) ∧
        (f a { state with incomingPacket := rest }).result =
          .ok (b, state') ∧
        ((packetGet get' >>= f) state).events =
          (f a { state with incomingPacket := rest }).events := by
  rcases bind_ok hResult with
    ⟨a, _, hGet, hRest, hEvents⟩
  rcases packetGet_ok hGet with
    ⟨rest, hRead, rfl, hNone⟩
  rw [hNone, List.nil_append] at hEvents
  exact ⟨a, rest, hRead, hRest, hEvents⟩

theorem decided_refuse
    {env : LoginEnv}
    {requestType : UInt8}
    {state state' : LoginState}
    {authenticated : Option AuthenticationType}
    (hResult :
      (refuse state).result = .ok (authenticated, state')) :
    Decided env requestType state (refuse state).events
      authenticated state' := by
  have hPlain := plain_refuse _ _ _ hResult
  cases hResult
  exact Decided.of_plain hPlain

theorem decided_rhostsRequest
    {env : LoginEnv}
    {state state' : LoginState}
    {authenticated : Option AuthenticationType}
    (hResult :
      (rhostsRequest env state).result =
        .ok (authenticated, state')) :
    Decided env sshCmsgAuthRhosts state
      (rhostsRequest env state).events authenticated
      state' := by
  unfold rhostsRequest at hResult ⊢
  split at hResult
  · rename_i hDisabled
    rw [if_pos hDisabled]
    exact decided_refuse hResult
  rename_i hEnabled
  rw [if_neg hEnabled]
  split at hResult
  · rename_i hPort
    rw [if_pos hPort]
    exact decided_refuse hResult
  rename_i hPort
  rw [if_neg hPort]
  unfold packetGetString at hResult ⊢
  rcases packetGet_bind_ok hResult with
    ⟨clientUser, rest, hUser, hOffer, hEvents⟩
  rcases offer_ok hOffer with
    ⟨accepted, hAsked, rfl, hOffered⟩
  rcases consult_ok hAsked with
    ⟨hVerdict, rfl, hQuiet⟩
  rw [hEvents, hOffered]
  have hPermitted : (Attempt.rhosts clientUser).Permitted env :=
    ⟨by simpa using hEnabled, by simpa using hPort⟩
  have hPlain :
      Plain state
        (consult env (env.authRhosts · clientUser)
          { state with incomingPacket := rest }).events
        { state with incomingPacket := rest } :=
    ⟨by rw [hQuiet]; rfl, rfl⟩
  refine Decided.of_answer (plain_offered hPlain) hPermitted
    rfl rfl (by simp) ?_
  intro hAccepted
  rw [hAccepted] at hVerdict
  exact ⟨⟨rest, hUser⟩, hVerdict⟩

/- All three questions are answered, one after the other. -/
theorem authRhostsRsa_ok
    {env : LoginEnv}
    {clientUser : List UInt8}
    {key : AuthorizedKey}
    {state state' : LoginState}
    {accepted : Bool}
    (hResult :
      (authRhostsRsa env clientUser key state).result =
        .ok (accepted, state')) :
    Plain state
        (authRhostsRsa env clientUser key state).events
        state' ∧
      (accepted = true →
        (env.authRhosts state.time clientUser).verdict =
            .ok true ∧
          (env.hostKeyKnown state.time key).verdict =
            .ok true ∧
          ChallengeAnswered env state.time
            (authRhostsRsa env clientUser key state).events
            key) := by
  unfold authRhostsRsa at hResult ⊢
  rcases bind_ok hResult with
    ⟨rhosts, state₁, hAsk, hAfter, hEvents⟩
  rcases consult_ok hAsk with
    ⟨hRhosts, hSame, hQuiet⟩
  subst state₁
  have hFirst : Plain state
      (consult env (env.authRhosts · clientUser) state).events
      state := ⟨by rw [hQuiet, Nat.add_zero], rfl⟩
  rw [hEvents]
  cases rhosts with
  | false =>
      cases hAfter
      exact ⟨plain_composes.trans hFirst
        (plain_composes.refl _), nofun⟩
  | true =>
      rcases bind_ok hAfter with
        ⟨known, state₁, hAsk', hAfter', hEvents'⟩
      rcases consult_ok hAsk' with
        ⟨hKnown, hSame', hQuiet'⟩
      subst state₁
      have hSecond : Plain state
          (consult env (env.hostKeyKnown · key) state).events
          state := ⟨by rw [hQuiet', Nat.add_zero], rfl⟩
      rw [if_pos rfl, hEvents']
      cases known with
      | false =>
          cases hAfter'
          exact ⟨plain_composes.trans hFirst
            (plain_composes.trans hSecond
              (plain_composes.refl _)), nofun⟩
      | true =>
          rcases bind_ok hAfter' with
            ⟨answered, state₂, hDialog, hTell, hEvents''⟩
          rcases authRsaChallengeDialog_ok hDialog with
            ⟨hThird, hAnswered⟩
          rw [if_pos rfl, hEvents'']
          cases answered with
          | false =>
              cases hTell
              exact ⟨plain_composes.trans hFirst
                (plain_composes.trans hSecond
                  (plain_composes.trans hThird
                    (plain_composes.refl _))), nofun⟩
          | true =>
              rcases bind_ok hTell with
                ⟨_, _, hDebug, hReturn, hEvents₃⟩
              cases hReturn
              have hLast :=
                plain_packetSendDebug env _ _ _ _ hDebug
              rw [if_pos rfl, hEvents₃, pure_apply,
                List.append_nil]
              refine ⟨plain_composes.trans hFirst
                (plain_composes.trans hSecond
                  (plain_composes.trans hThird hLast)), ?_⟩
              intro _
              refine ⟨hRhosts, hKnown, ?_⟩
              rw [← List.append_assoc]
              apply ChallengeAnswered.surround
              rw [receivedCount_append, hQuiet, hQuiet']
              exact hAnswered rfl

theorem decided_rhostsRsaRequest
    {env : LoginEnv}
    {state state' : LoginState}
    {authenticated : Option AuthenticationType}
    (hResult :
      (rhostsRsaRequest env state).result =
        .ok (authenticated, state')) :
    Decided env sshCmsgAuthRhostsRsa state
      (rhostsRsaRequest env state).events authenticated
      state' := by
  unfold rhostsRsaRequest at hResult ⊢
  split at hResult
  · rename_i hDisabled
    rw [if_pos hDisabled]
    exact decided_refuse hResult
  rename_i hEnabled
  rw [if_neg hEnabled]
  split at hResult
  · rename_i hPort
    rw [if_pos hPort]
    exact decided_refuse hResult
  rename_i hPort
  rw [if_neg hPort]
  split at hResult
  · rename_i hCipher
    rw [if_pos hCipher]
    exact decided_refuse hResult
  rename_i hCipher
  rw [if_neg hCipher]
  split at hResult
  · rename_i hArcfour
    rw [if_pos hArcfour]
    exact decided_refuse hResult
  rename_i hArcfour
  rw [if_neg hArcfour]
  unfold packetGetString packetGetInt packetGetMpInt
    at hResult ⊢
  rcases packetGet_bind_ok hResult with
    ⟨clientUser, rest₁, hUser, hAfter₁, hEvents₁⟩
  rcases packetGet_bind_ok hAfter₁ with
    ⟨bits, rest₂, hBits, hAfter₂, hEvents₂⟩
  rcases packetGet_bind_ok hAfter₂ with
    ⟨e, rest₃, hExponent, hAfter₃, hEvents₃⟩
  rcases packetGet_bind_ok hAfter₃ with
    ⟨n, rest₄, hModulus, hOffer, hEvents₄⟩
  rcases offer_ok hOffer with
    ⟨accepted, hAsked, rfl, hOffered⟩
  rcases authRhostsRsa_ok hAsked with
    ⟨hPlain, hAnswers⟩
  rw [hEvents₁, hEvents₂, hEvents₃, hEvents₄, hOffered]
  have hPermitted :
      (Attempt.rhostsRsa clientUser
        { bits, e, n }).Permitted env :=
    ⟨by simpa using hEnabled, by simpa using hPort, hCipher,
      hArcfour⟩
  have hPlain' : Plain state _ state' :=
    ⟨hPlain.time, hPlain.restrictions⟩
  refine Decided.of_answer (plain_offered hPlain') hPermitted
    rfl rfl (by simp) ?_
  intro hAccepted
  rcases hAnswers hAccepted with
    ⟨hRhosts, hKnown, hAnswered⟩
  refine ⟨⟨rest₁, rest₂, rest₃, rest₄, hUser, hBits,
    hExponent, hModulus⟩, hRhosts, hKnown, ?_⟩
  exact hAnswered.surround [.asked _] [.verdict _ _]

theorem decided_rsaRequest
    {env : LoginEnv}
    {state state' : LoginState}
    {authenticated : Option AuthenticationType}
    (hResult :
      (rsaRequest env state).result =
        .ok (authenticated, state')) :
    Decided env sshCmsgAuthRsa state
      (rsaRequest env state).events authenticated state' := by
  unfold rsaRequest at hResult ⊢
  split at hResult
  · rename_i hDisabled
    rw [if_pos hDisabled]
    exact decided_refuse hResult
  rename_i hEnabled
  rw [if_neg hEnabled]
  unfold packetGetMpInt at hResult ⊢
  rcases packetGet_bind_ok hResult with
    ⟨n, rest, hModulus, hOffer, hEvents⟩
  rcases offer_ok hOffer with
    ⟨accepted, hAsked, rfl, hOffered⟩
  have hJudged := authRsa_judged hAsked
  rw [hEvents, hOffered]
  have hLeft :
      (∃ line,
        LineRefused env state.time n state.time
          (authRsa env n
            { state with incomingPacket := rest }).events
          line) →
        LeftBehind env state.time
          ([.asked (.rsa n)] ++
            ((authRsa env n
              { state with incomingPacket := rest }).events ++
              [.verdict (.rsa n) accepted])) := by
    intro hRefused
    rcases hRefused with
      ⟨line, hLine⟩
    exact ⟨[], _, n, line, rfl,
      hLine.surround [.asked _] [.verdict _ _]⟩
  refine ⟨?_, ?_, ?_⟩
  · rw [receivedCount_append, receivedCount_append,
      hJudged.goesOn]
    simp [receivedCount, isReceived]
  · intro hNot
    cases accepted with
    | true => cases hNot
    | false =>
        rcases hJudged.command with
          hSame | hRefused | hAccepted
        · exact Or.inl hSame
        · exact Or.inr (hLeft hRefused)
        · cases hAccepted
  · intro type hSome
    cases accepted with
    | false => cases hSome
    | true =>
        cases hSome
        rcases hJudged.accepts rfl with
          ⟨line, hLine, hOptions, hCommand⟩
        refine ⟨.rsa n, line, rfl, not_not.mp hEnabled,
          rfl, by simp, ⟨⟨rest, hModulus⟩,
            LineAnswered.surround [.asked _] [.verdict _ _]
              hLine, hOptions⟩, ?_⟩
        rcases hCommand with hCarries | hSame | hRefused
        · exact Or.inl hCarries
        · exact Or.inr (Or.inl hSame)
        · exact Or.inr (Or.inr (hLeft hRefused))

/- The verdict is asked for after the response came. -/
theorem decided_tisDialog
    {env : LoginEnv}
    {prompt : List UInt8}
    {state state' : LoginState}
    {authenticated : Option AuthenticationType}
    (hPermitted : ∀ password,
      (Attempt.tis password).Permitted env)
    (hResult :
      (tisDialog env prompt state).result =
        .ok (authenticated, state')) :
    Decided env sshCmsgAuthTis state
      (tisDialog env prompt state).events authenticated
      state' := by
  unfold tisDialog at hResult ⊢
  rcases bind_ok hResult with
    ⟨_, _, hSent, hWait, hEvents₁⟩
  cases hSent
  rcases bind_ok hWait with
    ⟨type, state₁, hRead, hAfter, hEvents₂⟩
  have hPacket := packetRead_ok hRead
  have hBefore := plain_composes.trans
    (plain_packetSend
      ⟨sshSmsgAuthTisChallenge, bufferPutString [] prompt⟩
      state () state rfl)
    (plain_packetRead _ _ _ hRead)
  rw [hEvents₁, hEvents₂, ← List.append_assoc]
  split at hAfter
  · rename_i hOther
    rw [if_pos hOther]
    have hRefused := plain_refuse _ _ _ hAfter
    cases hAfter
    exact Decided.of_plain
      (plain_composes.trans hBefore hRefused)
  rename_i hResponse
  rw [not_not] at hResponse
  rw [if_neg (not_not.mpr hResponse)]
  unfold packetGetString at hAfter ⊢
  rcases packetGet_bind_ok hAfter with
    ⟨password, rest, hString, hOffer, hEvents₃⟩
  rcases offer_ok hOffer with
    ⟨accepted, hAsked, rfl, hOffered⟩
  rcases bind_ok hAsked with
    ⟨_, _, hGet, hVerdict, hEvents₄⟩
  cases hGet
  rcases ofOutcome_ok hVerdict with
    ⟨hAnswer, rfl, hNone⟩
  rw [hEvents₃, hOffered, hEvents₄, hNone]
  have hAfterwards :
      Plain state₁
        ([.asked (.tis password)] ++
          (([] ++ []) ++ [.verdict (.tis password) accepted]))
        { state₁ with incomingPacket := rest } :=
    plain_offered ⟨rfl, rfl⟩
  refine Decided.of_answer
    (plain_composes.trans hBefore hAfterwards)
    (hPermitted password) rfl rfl (by simp) ?_
  intro hAccepted
  rcases hPacket.last with
    ⟨skipped, hLast⟩
  refine ⟨.sent ⟨sshSmsgAuthTisChallenge,
      bufferPutString [] prompt⟩ :: skipped,
    bufferPutString [] prompt, state₁.incomingPacket,
    [.asked (.tis password), .verdict (.tis password) accepted],
    rest, ?_, List.mem_cons_self, hString, ?_⟩
  · rw [hLast, hResponse]
    simp
  · rw [hAccepted] at hAnswer
    have hTime := hPacket.time
    rw [hLast, receivedCount_append] at hTime
    rw [← hAnswer, hTime]
    simp [receivedCount, isReceived, Nat.add_assoc]

theorem decided_tisRequest
    {env : LoginEnv}
    {state state' : LoginState}
    {authenticated : Option AuthenticationType}
    (hTis : env.haveTis = true)
    (hResult :
      (tisRequest env state).result =
        .ok (authenticated, state')) :
    Decided env sshCmsgAuthTis state
      (tisRequest env state).events authenticated state' := by
  unfold tisRequest at hResult ⊢
  split at hResult
  · rename_i hDisabled
    rw [if_pos hDisabled]
    exact decided_refuse hResult
  rename_i hEnabled
  rw [if_neg hEnabled]
  rcases bind_ok hResult with
    ⟨_, _, hGet, hAfter, hEvents⟩
  cases hGet
  have hPermitted : ∀ password,
      (Attempt.tis password).Permitted env :=
    fun _ => ⟨hTis, not_not.mp hEnabled⟩
  rw [hEvents, get_apply, List.nil_append]
  cases hGreeting : env.tisGreeting state.time with
  | noConnection =>
      rw [hGreeting] at hAfter
      cases hAfter
      exact Decided.of_plain ⟨rfl, rfl⟩
  | badResponse =>
      rw [hGreeting] at hAfter
      cases hAfter
      exact Decided.of_plain ⟨rfl, rfl⟩
  | ready =>
      simp only [hGreeting] at hAfter ⊢
      split at hAfter
      · rename_i hLong
        rw [if_pos hLong]
        cases hAfter
        exact Decided.of_plain ⟨rfl, rfl⟩
      · rename_i hShort
        rw [if_neg hShort]
        cases hReply : env.tisReply state.time with
        | challenge text =>
            simp only [hReply] at hAfter ⊢
            exact decided_tisDialog hPermitted hAfter
        | password =>
            simp only [hReply] at hAfter ⊢
            exact decided_tisDialog hPermitted hAfter
        | unknownUser =>
            rw [hReply] at hAfter
            cases hAfter
            exact Decided.of_plain ⟨rfl, rfl⟩

/- The forced command is only set with an acceptance. -/
theorem authPassword_ok
    {env : LoginEnv}
    {password : List UInt8}
    {state state' : LoginState}
    {accepted : Bool}
    (hResult :
      (authPassword env password state).result =
        .ok (accepted, state')) :
    (env.passwordAnswer state.time password).verdict =
        .ok accepted ∧
      state'.time = state.time ∧
      receivedCount (authPassword env password state).events =
        0 ∧
      (state'.restrictions.forcedCommand =
          state.restrictions.forcedCommand ∨
        accepted = true ∧
          EmptyPasswordChange env state.time password) := by
  unfold authPassword at hResult ⊢
  rcases bind_ok hResult with
    ⟨_, _, hGet, hAfter, hEvents⟩
  cases hGet
  rw [hEvents, get_apply, List.nil_append]
  simp only at hAfter ⊢
  split at hAfter
  · rename_i hSome
    rw [if_pos hSome]
    rcases bind_ok hAfter with
      ⟨_, _, hSet, hConsult, hEvents'⟩
    cases hSet
    rcases consult_ok hConsult with
      ⟨hVerdict, rfl, hQuiet⟩
    rcases passwordAnswer_forcedCommand
        (Option.isSome_iff_ne_none.mp hSome) with
      ⟨hChange, hTrue⟩
    rw [hEvents', modify_apply, List.nil_append]
    refine ⟨hVerdict, rfl, hQuiet, Or.inr ⟨?_, hChange⟩⟩
    rw [hTrue] at hVerdict
    cases hVerdict
    rfl
  · rename_i hNone
    rw [if_neg hNone]
    rcases consult_ok hAfter with
      ⟨hVerdict, rfl, hQuiet⟩
    exact ⟨hVerdict, rfl, hQuiet, Or.inl rfl⟩

theorem decided_passwordRequest
    {env : LoginEnv}
    {passwordAttempts attempts : Nat}
    {state state' : LoginState}
    {authenticated : Option AuthenticationType}
    (hResult :
      (passwordRequest env passwordAttempts state).result =
        .ok ((authenticated, attempts), state')) :
    Decided env sshCmsgAuthPassword state
      (passwordRequest env passwordAttempts state).events
      authenticated state' := by
  unfold passwordRequest at hResult ⊢
  split at hResult
  · rename_i hDisabled
    rw [if_pos hDisabled]
    cases hResult
    exact Decided.of_plain ⟨rfl, rfl⟩
  rename_i hEnabled
  rw [if_neg hEnabled]
  split at hResult
  · rename_i hCipher
    rw [if_pos hCipher]
    cases hResult
    exact Decided.of_plain ⟨rfl, rfl⟩
  rename_i hCipher
  rw [if_neg hCipher]
  unfold packetGetString at hResult ⊢
  rcases packetGet_bind_ok hResult with
    ⟨password, rest, hString, hAfter, hEvents⟩
  rw [hEvents]
  split at hAfter
  · cases hAfter
  rename_i hFewer
  rw [if_neg hFewer]
  rcases bind_ok hAfter with
    ⟨authenticated', state₁, hOffer, hReturn, hEvents'⟩
  cases hReturn
  rcases offer_ok hOffer with
    ⟨accepted, hAsked, rfl, hOffered⟩
  rcases authPassword_ok hAsked with
    ⟨hVerdict, hTime, hQuiet, hCommand⟩
  rw [hEvents', pure_apply, List.append_nil, hOffered]
  refine ⟨?_, ?_, ?_⟩
  · rw [receivedCount_append, receivedCount_append, hQuiet,
      hTime]
    simp [receivedCount, isReceived]
  · intro hNot
    rcases hCommand with hSame | ⟨rfl, _⟩
    · exact Or.inl hSame
    · cases hNot
  · intro type hSome
    cases accepted with
    | false => cases hSome
    | true =>
        cases hSome
        refine ⟨.password password, [], rfl,
          ⟨not_not.mp hEnabled, hCipher⟩, rfl, by simp,
          ⟨⟨rest, hString⟩, hVerdict⟩, ?_⟩
        rcases hCommand with hSame | ⟨_, hChange⟩
        · exact Or.inr (Or.inl hSame)
        · exact Or.inl hChange

/- Every request is decided by what it carries. -/
theorem decided_authenticationRequest
    {env : LoginEnv}
    {passwordAttempts attempts : Nat}
    {type : UInt8}
    {state state' : LoginState}
    {authenticated : Option AuthenticationType}
    (hResult :
      (authenticationRequest env passwordAttempts type
        state).result =
        .ok ((authenticated, attempts), state')) :
    Decided env type state
      (authenticationRequest env passwordAttempts type
        state).events authenticated state' := by
  have hPair
      {m : Session (Option AuthenticationType)}
      (hPaired :
        ((do return (← m, passwordAttempts) :
          Session (Option AuthenticationType × Nat))
            state).result =
          .ok ((authenticated, attempts), state'))
      (hDecided :
        (m state).result = .ok (authenticated, state') →
          Decided env type state (m state).events
            authenticated state') :
      Decided env type state
        ((do return (← m, passwordAttempts) :
          Session (Option AuthenticationType × Nat))
            state).events authenticated state' := by
    rcases bind_ok hPaired with
      ⟨_, _, hRun, hReturn, hEvents⟩
    cases hReturn
    rw [hEvents, pure_apply, List.append_nil]
    exact hDecided hRun
  unfold authenticationRequest at hResult ⊢
  split at hResult
  · rename_i hType
    rw [if_pos hType]
    exact hPair hResult (hType ▸ decided_rhostsRequest)
  rename_i hNotRhosts
  rw [if_neg hNotRhosts]
  split at hResult
  · rename_i hType
    rw [if_pos hType]
    exact hPair hResult (hType ▸ decided_rhostsRsaRequest)
  rename_i hNotRhostsRsa
  rw [if_neg hNotRhostsRsa]
  split at hResult
  · rename_i hType
    rw [if_pos hType]
    exact hPair hResult (hType ▸ decided_rsaRequest)
  rename_i hNotRsa
  rw [if_neg hNotRsa]
  split at hResult
  · rename_i hTis
    rw [if_pos hTis]
    exact hPair hResult
      (hTis.2 ▸ decided_tisRequest hTis.1)
  rename_i hNotTis
  rw [if_neg hNotTis]
  split at hResult
  · rename_i hType
    rw [if_pos hType, hType]
    exact decided_passwordRequest hResult
  · rename_i hNotPassword
    rw [if_neg hNotPassword]
    exact hPair hResult decided_refuse

end Session

end Ssh1

------------------------------------------------------------
-- The Accepted Request
------------------------------------------------------------

namespace Ssh1

open QuotedText (Text)

/-
  In events that begin at the time `start`, the last packet
  that is taken as a request makes the attempt, and what
  follows it makes the server accept the attempt. There is no
  final reply to it yet.
-/
def RequestAccepted
    (env : LoginEnv)
    (start : Nat)
    (events : List Exchange)
    (time : Nat)
    (line : Text)
    (attempt : Attempt) : Prop :=
  ∃ early requestType payload late,
    events =
        early ++
          .received (.packet (requestType :: payload)) ::
            late ∧
      time = start + receivedCount early + 1 ∧
      attempt.requestType = some requestType ∧
      (∀ event ∈ late, event.isReply = false) ∧
      Accepted env time payload late line attempt

/-
  The client is authenticated by a request. A forced command
  comes from it, or was there, or was left behind.
-/
def AuthenticatedBy
    (env : LoginEnv)
    (state : LoginState)
    (events : List Exchange)
    (type : AuthenticationType)
    (state' : LoginState) : Prop :=
  ∃ attempt time line,
    attempt.type = type ∧ attempt.Permitted env ∧
      .verdict attempt true ∈ events ∧
      RequestAccepted env state.time events time line
        attempt ∧
      (SetsCommand env time line attempt ∨
        state'.restrictions.forcedCommand =
          state.restrictions.forcedCommand ∨
        LeftBehind env state.time events)

/- What came before, with a command that it may have left. -/
theorem AuthenticatedBy.prepend
    {env : LoginEnv}
    {state state' final : LoginState}
    {early events : List Exchange}
    {type : AuthenticationType}
    (hTime : state'.time = state.time + receivedCount early)
    (hCommand :
      state'.restrictions.forcedCommand =
          state.restrictions.forcedCommand ∨
        LeftBehind env state.time early)
    (hRest : AuthenticatedBy env state' events type final) :
    AuthenticatedBy env state (early ++ events) type final := by
  rcases hRest with
    ⟨attempt, time, line, hType, hPermitted, hVerdict,
      ⟨before, requestType, payload, late, rfl, hAt,
        hRequest, hReply, hAccepted⟩, hForced⟩
  refine ⟨attempt, time, line, hType, hPermitted,
    List.mem_append_right _ hVerdict,
    ⟨early ++ before, requestType, payload, late, by simp, ?_,
      hRequest, hReply, hAccepted⟩, ?_⟩
  · rw [hAt, hTime, receivedCount_append]
    omega
  · rcases hForced with hSets | hSame | hLeft
    · exact Or.inl hSets
    · rw [hSame]
      rcases hCommand with hSame' | hLeft
      · exact Or.inr (Or.inl hSame')
      · exact Or.inr (Or.inr (hLeft.surround [] _))
    · rw [hTime] at hLeft
      have hBoth := hLeft.surround early []
      rw [List.append_nil] at hBoth
      exact Or.inr (Or.inr hBoth)

namespace Session

open Recorded Exchange

/- The packet that is taken as a request comes last. -/
theorem readRequest_ok
    {type : UInt8}
    {state state' : LoginState}
    (hResult :
      (readRequest state).result = .ok (type, state')) :
    Plain state (readRequest state).events state' ∧
      ∃ early,
        (readRequest state).events =
            early ++
              [.received
                  (.packet (type :: state'.incomingPacket)),
                .request state'.time type] ∧
          state'.time =
            state.time + receivedCount early + 1 := by
  unfold readRequest at hResult ⊢
  rcases bind_ok hResult with
    ⟨type', state₁, hRead, hAfter, hEvents₁⟩
  have hPacket := packetRead_ok hRead
  rcases bind_ok hAfter with
    ⟨_, _, hGet, hRecord, hEvents₂⟩
  cases hGet
  cases hRecord
  rcases hPacket.last with
    ⟨early, hLast⟩
  have hEvents :
      (readRequest state).events =
        early ++
          [.received
              (.packet (type :: state'.incomingPacket)),
            .request state'.time type] := by
    unfold readRequest
    rw [hEvents₁, hEvents₂, hLast]
    simp [bind_apply]
  have hTime := hPacket.time
  rw [hLast, receivedCount_append] at hTime
  refine ⟨⟨?_, hPacket.restrictions⟩, early, hEvents, ?_⟩
  · unfold readRequest at hEvents
    rw [hEvents, hTime, receivedCount_append]
    rfl
  · rw [hTime]
    simp [receivedCount, isReceived, Nat.add_assoc]

/- By induction on the turns of the loop. -/
theorem authenticatedBy_authenticationLoop
    {env : LoginEnv}
    {fuel passwordAttempts : Nat}
    {state final : LoginState}
    {type : AuthenticationType}
    (hResult :
      (authenticationLoop env fuel passwordAttempts
        state).result = .ok (type, final)) :
    AuthenticatedBy env state
      (authenticationLoop env fuel passwordAttempts
        state).events type final := by
  induction fuel generalizing passwordAttempts state with
  | zero => cases hResult
  | succ fuel ih =>
      unfold authenticationLoop at hResult ⊢
      rcases bind_ok hResult with
        ⟨requestType, state₁, hRead, hHandle, hEvents₁⟩
      rcases readRequest_ok hRead with
        ⟨hPlain, early, hRequest, hTime⟩
      rcases bind_ok hHandle with
        ⟨⟨authenticated, attempts⟩, state₂, hDecide, hAfter,
          hEvents₂⟩
      have hDecided := decided_authenticationRequest hDecide
      have hHandled := handled_authenticationRequest env
        passwordAttempts requestType state₁
      rw [hEvents₁, hEvents₂]
      cases authenticated with
      | some authenticationType =>
          cases hAfter
          rcases hDecided.accepts _ rfl with
            ⟨attempt, line, hType, hPermitted, hAttempt,
              hVerdict, hAccepted, hCommand⟩
          have hNoReply : ∀ event ∈
              (authenticationRequest env passwordAttempts
                requestType state₁).events,
              event.isReply = false := by
            rcases hHandled.noReply with
              hNone | ⟨_, hNotSome⟩
            · exact hNone
            · exact (hNotSome _ _ _ hDecide).elim
          simp only [pure_apply, List.append_nil]
          refine ⟨attempt, state₁.time, line, hType,
            hPermitted, List.mem_append_right _ hVerdict, ?_,
            ?_⟩
          · refine ⟨early, requestType,
              state₁.incomingPacket,
              .request state₁.time requestType :: _, ?_,
              hTime, hAttempt,
              List.forall_mem_cons.mpr ⟨rfl, hNoReply⟩, ?_⟩
            · rw [hRequest, List.append_assoc]
              rfl
            · have hNone :
                  receivedCount
                    [.request state₁.time requestType] = 0 :=
                rfl
              have hAround := hAccepted.surround [] hNone
              rwa [List.append_nil] at hAround
          · rw [hPlain.restrictions] at hCommand
            rcases hCommand with hSets | hSame | hLeft
            · exact Or.inl hSets
            · exact Or.inr (Or.inl hSame)
            · rw [hPlain.time] at hLeft
              have hBoth := hLeft.surround
                (readRequest state).events []
              rw [List.append_nil] at hBoth
              exact Or.inr (Or.inr hBoth)
      | none =>
          rcases bind_ok hAfter with
            ⟨_, _, hFailed, hNext, hEvents₃⟩
          cases hFailed
          rw [hEvents₃, ← List.append_assoc,
            ← List.append_assoc]
          refine (ih hNext).prepend ?_ ?_
          · rw [hDecided.goesOn, hPlain.time]
            simp [receivedCount, isReceived, Nat.add_assoc]
          · rw [← hPlain.restrictions]
            rcases hDecided.command rfl with hSame | hLeft
            · exact Or.inl hSame
            · rw [hPlain.time] at hLeft
              right
              rw [List.append_assoc]
              exact hLeft.surround (readRequest state).events _

end Session

end Ssh1
