import Ssh1.Auth.AcceptedLogins

/-
  The gate of a login.

  A login is accepted after the empty password or a request
  that the configuration permits was accepted, and root only
  as it is allowed. Every request has its reply, and at most
  five passwords are tried.

  Main declarations:
    * `AcceptedIn`, `AdmittedBy`, `Admits`
    * `RootPermitted`, `SuccessEarned`, `RepliesOnce`
    * `doAuthentication_gate`
-/

------------------------------------------------------------
-- Before the Login Is Accepted
------------------------------------------------------------

namespace Ssh1

open Recorded Session

open QuotedText (Text)

/- Whether root logins are refused. -/
theorem checkRootLogin_cases
    (env : LoginEnv)
    (pwUid : Nat)
    (type : AuthenticationType)
    (state : LoginState) :
    (∃ message ending,
      checkRootLogin env pwUid type state =
        ⟨[.sent (disconnectPacket message)],
          .error ending⟩) ∨
      checkRootLogin env pwUid type state =
          ⟨[], .ok ((), state)⟩ ∧
        (pwUid = uidRoot →
          env.options.permitRootLogin = 1 →
            type ≠ .password) ∧
        (pwUid = uidRoot →
          env.options.permitRootLogin = 0 →
            state.restrictions.forcedCommand ≠ none) := by
  unfold checkRootLogin
  split
  · rename_i hNoPassword
    split
    · exact Or.inl ⟨_, _, rfl⟩
    · rename_i hType
      refine Or.inr ⟨rfl, fun _ _ => hType, ?_⟩
      intro _ hNo
      rw [hNo] at hNoPassword
      cases hNoPassword.2
  · rename_i hNotNoPassword
    split
    · rename_i hNo
      cases hCommand : state.restrictions.forcedCommand with
      | none =>
          let message := "ROOT LOGIN REFUSED FROM " ++
            textUpTo 200 env.canonicalHostname
          refine Or.inl ⟨message,
            .halted (.disconnect message), ?_⟩
          simp only [bind_apply, get_apply, andThen_ok,
            hCommand, Option.isNone_none, if_true,
            packetDisconnect_apply, List.nil_append]
          rfl
      | some command =>
          refine Or.inr ⟨?_, ?_, nofun⟩
          · simp only [bind_apply, get_apply, andThen_ok,
              hCommand, Option.isNone_some,
              Bool.false_eq_true, if_false, pure_apply,
              List.nil_append]
          · intro hRoot hOne
            exact (hNotNoPassword ⟨hRoot, hOne⟩).elim
    · rename_i hNotNo
      refine Or.inr ⟨rfl, ?_, ?_⟩
      · intro hRoot hOne
        exact (hNotNoPassword ⟨hRoot, hOne⟩).elim
      · intro hRoot hZero
        exact (hNotNo ⟨hRoot, hZero⟩).elim

/-
  The attempt was accepted at the time: the empty password
  before the first request, and the others by the request
  that made them.
-/
def AcceptedIn
    (env : LoginEnv)
    (start : Nat)
    (events : List Exchange)
    (time : Nat)
    (line : Text)
    (attempt : Attempt) : Prop :=
  (attempt = .emptyPassword ∧ time = start ∧
      (env.passwordAnswer start []).verdict = .ok true) ∨
    RequestAccepted env start events time line attempt

/-
  The client was admitted by an attempt. A forced command
  comes from it, or was there, or was left behind.
-/
def AdmittedBy
    (env : LoginEnv)
    (state : LoginState)
    (events : List Exchange)
    (type : AuthenticationType)
    (state' : LoginState) : Prop :=
  ∃ attempt time line,
    attempt.type = type ∧ attempt.Permitted env ∧
      .verdict attempt true ∈ events ∧
      AcceptedIn env state.time events time line attempt ∧
      (SetsCommand env time line attempt ∨
        state'.restrictions.forcedCommand =
          state.restrictions.forcedCommand ∨
        LeftBehind env state.time events)

/- What happens before root logins are checked. -/
structure Admits
    (env : LoginEnv)
    (state : LoginState)
    (run : Run Exchange Ending LoginState
      AuthenticationType) : Prop where
  noSuccess : ∀ event ∈ run.events, event.isSuccess = false
  answered : AnsweredSoFar env run.events
  admitted : ∀ type state',
    run.result = .ok (type, state') →
      AdmittedBy env state run.events type state'
  unanswered : ∀ type state',
    run.result = .ok (type, state') →
      ∀ before time type' after,
        run.events = before ++ .request time type' :: after →
          (∀ event ∈ after, event.isRequest = false) →
            repliesBeforeNext after = 0
  passwordCalls :
    run.events.countP Exchange.isPasswordCall ≤ 5

/- Trying the empty password is no reply. -/
theorem inner_checkEmptyPassword
    (env : LoginEnv) :
    Inner (checkEmptyPassword env) := by
  unfold checkEmptyPassword
  split
  · exact inner_decideOn rfl (inner_authPassword env _)
  · exact Always.pure _

/- The empty password, by what comes of it. -/
theorem checkEmptyPassword_ok
    {env : LoginEnv}
    {state state' : LoginState}
    {accepted : Bool}
    (hResult :
      (checkEmptyPassword env state).result =
        .ok (accepted, state')) :
    state'.time = state.time ∧
      receivedCount (checkEmptyPassword env state).events =
        0 ∧
      (accepted = true →
        env.options.passwordAuthentication = true ∧
          .verdict .emptyPassword true ∈
            (checkEmptyPassword env state).events ∧
          (env.passwordAnswer state.time []).verdict =
            .ok true) ∧
      (state'.restrictions.forcedCommand =
          state.restrictions.forcedCommand ∨
        accepted = true ∧
          EmptyPasswordChange env state.time []) := by
  unfold checkEmptyPassword at hResult ⊢
  split at hResult
  · rename_i hEnabled
    rw [if_pos hEnabled]
    rcases decideOn_ok hResult with
      ⟨hAnswer, hEvents⟩
    rcases authPassword_ok hAnswer with
      ⟨hVerdict, hTime, hQuiet, hCommand⟩
    rw [hEvents, receivedCount_append, receivedCount_append,
      hQuiet]
    refine ⟨hTime, rfl, ?_, hCommand⟩
    intro hAccepted
    rw [hAccepted] at hVerdict ⊢
    exact ⟨hEnabled, by simp, hVerdict⟩
  · rename_i hDisabled
    rw [if_neg hDisabled]
    cases hResult
    exact ⟨rfl, rfl, nofun, Or.inl rfl⟩

/- What comes before the first request. -/
theorem AnsweredSoFar.prepend
    {env : LoginEnv}
    {pre events : List Exchange}
    (hPre : ∀ event ∈ pre, event.isRequest = false)
    (hEvents : AnsweredSoFar env events) :
    AnsweredSoFar env (pre ++ events) := by
  intro before time type after hSplit
  have hNotMem : .request time type ∉ pre := by
    intro hMem
    cases hPre _ hMem
  rcases exists_of_append_eq_append_cons hSplit hNotMem with
    ⟨between, _, hRest⟩
  exact hEvents _ _ _ _ hRest

/- A run without a request lets no one in. -/
theorem admits_of_inner
    {env : LoginEnv}
    {state : LoginState}
    {events : List Exchange}
    {result : Except Ending (AuthenticationType × LoginState)}
    (hInner : ∀ event ∈ events, event.IsInner)
    (hAdmitted : ∀ type state', result = .ok (type, state') →
      AdmittedBy env state events type state') :
    Admits env state ⟨events, result⟩ := by
  refine ⟨?_, ?_, hAdmitted, ?_, ?_⟩
  · exact fun event hEvent => (hInner event hEvent).notSuccess
  · exact answeredSoFar_of_noRequest
      fun event hEvent => (hInner event hEvent).notRequest
  · intro _ _ _ before time type after hSplit _
    change events = _ at hSplit
    have hRequest := (hInner (.request time type)
      (by rw [hSplit]; simp)).notRequest
    cases hRequest
  · rw [countP_isPasswordCall_of_inner hInner]
    omega

/-
  The loop begins when the empty password was refused, so
  nothing was set before it.
-/
theorem admittedBy_of_loop
    {env : LoginEnv}
    {state state' final : LoginState}
    {events : List Exchange}
    {type : AuthenticationType}
    (hEmpty :
      (checkEmptyPassword env state).result =
        .ok (false, state'))
    (hLoop : AuthenticatedBy env state' events type final) :
    AdmittedBy env state
      ((checkEmptyPassword env state).events ++
        [.sent failurePacket] ++ events) type final := by
  rcases checkEmptyPassword_ok hEmpty with
    ⟨hTime, hQuiet, _, hCommand⟩
  have hSame :
      state'.restrictions.forcedCommand =
        state.restrictions.forcedCommand := by
    rcases hCommand with hSame | ⟨hNot, _⟩
    · exact hSame
    · cases hNot
  have hAfter :
      AuthenticatedBy env state
        ((checkEmptyPassword env state).events ++
          [.sent failurePacket] ++ events) type final := by
    refine hLoop.prepend ?_ (Or.inl hSame)
    rw [receivedCount_append, hQuiet, hTime]
    rfl
  rcases hAfter with
    ⟨attempt, time, line, hType, hPermitted, hVerdict,
      hAccepted, hForced⟩
  exact ⟨attempt, time, line, hType, hPermitted, hVerdict,
    Or.inr hAccepted, hForced⟩

/- The account or the loop of failures. -/
theorem authenticate_admits
    (env : LoginEnv)
    (state : LoginState) :
    Admits env state (authenticate env state) := by
  have hInner := inner_checkEmptyPassword env state
  rw [authenticate, bind_apply]
  rcases hRun : checkEmptyPassword env state with
    ⟨events, result⟩
  have hResult := congrArg Run.result hRun
  have hEvents := congrArg Run.events hRun
  rw [hRun] at hInner
  cases result with
  | error ending => exact admits_of_inner hInner nofun
  | ok returned =>
      rcases returned with
        ⟨accepted, state'⟩
      cases accepted with
      | true =>
          simp only [andThen_ok, if_true, pure_apply,
            List.append_nil]
          refine admits_of_inner hInner ?_
          intro type final hOk
          cases hOk
          rcases checkEmptyPassword_ok hResult with
            ⟨_, _, hAccepted, hCommand⟩
          rcases hAccepted rfl with
            ⟨hEnabled, hRecorded, hVerdict⟩
          rw [hEvents] at hRecorded
          refine ⟨.emptyPassword, state.time, [], rfl,
            hEnabled, hRecorded,
            Or.inl ⟨rfl, rfl, hVerdict⟩, ?_⟩
          rcases hCommand with hSame | ⟨_, hChange⟩
          · exact Or.inr (Or.inl hSame)
          · exact Or.inl hChange
      | false =>
          have hServes := serves_authenticationLoop env
            (state'.arrivals.length + 1) 0 state'
          have hPre : ∀ event ∈
              events ++ [.sent failurePacket],
              event.isRequest = false :=
            List.forall_mem_append.mpr
              ⟨fun event hEvent =>
                (hInner event hEvent).notRequest,
                List.forall_mem_singleton.mpr rfl⟩
          simp only [andThen_ok, Bool.false_eq_true, if_false,
            bind_apply, packetSend_apply, get_apply,
            List.nil_append, ← List.append_assoc]
          constructor
          · refine List.forall_mem_append.mpr
              ⟨?_, hServes.noSuccess⟩
            exact List.forall_mem_append.mpr
              ⟨fun event hEvent =>
                (hInner event hEvent).notSuccess,
                List.forall_mem_singleton.mpr rfl⟩
          · exact hServes.answered.prepend hPre
          · intro type final hOk
            have hAdmitted := admittedBy_of_loop hResult
              (authenticatedBy_authenticationLoop hOk)
            rwa [hEvents] at hAdmitted
          · intro type final hOk
            exact (hServes.awaiting type final
              hOk).prepend.unanswered
          · have hCalls := hServes.passwordCalls
            simp only [List.countP_append,
              countP_isPasswordCall_of_inner hInner]
            simpa [Exchange.isPasswordCall] using hCalls

end Ssh1

------------------------------------------------------------
-- The Gate
------------------------------------------------------------

namespace Ssh1

open Recorded Session

open QuotedText (Text)

/-
  What is required of root. A forced command comes with the
  account, from the line or the password that was accepted,
  or it was left behind by a line that was refused.
-/
def RootPermitted
    (env : LoginEnv)
    (attempt : Attempt)
    (time : Nat)
    (line : Text)
    (start : LoginState)
    (events : List Exchange) : Prop :=
  env.pwUid = some uidRoot →
    (env.options.permitRootLogin = 1 →
      attempt.type ≠ .password) ∧
    (env.options.permitRootLogin = 0 →
      start.restrictions.forcedCommand ≠ none ∨
        SetsCommand env time line attempt ∨
        LeftBehind env start.time events)

/- The message about success comes after all this. -/
def SuccessEarned
    (env : LoginEnv)
    (state : LoginState)
    (events : List Exchange) : Prop :=
  ∀ before packet after,
    events = before ++ .sent packet :: after →
      packet.type = sshSmsgSuccess →
        ∃ attempt time line,
          attempt.Permitted env ∧
            AcceptedIn env state.time before time line
              attempt ∧
            RootPermitted env attempt time line state before

/-
  Each request has one final reply; the one during which the
  session ends has one or none.
-/
def RepliesOnce
    (env : LoginEnv)
    {α : Type}
    (run : Run Exchange Ending LoginState α) : Prop :=
  ∀ before time type after,
    run.events = before ++ .request time type :: after →
      repliesBeforeNext after = 1 ∨
        (repliesBeforeNext after = 0 ∧
          (∀ event ∈ after, event.isRequest = false) ∧
          ∃ ending, run.result = .error ending) ∨
        LacksServer env time type

/- No message about success was sent. -/
theorem successEarned_of_noSuccess
    {env : LoginEnv}
    {state : LoginState}
    {events : List Exchange}
    (hEvents : ∀ event ∈ events, event.isSuccess = false) :
    SuccessEarned env state events := by
  intro before packet after hSplit hType
  have hNot := hEvents (.sent packet) (by rw [hSplit]; simp)
  simp [Exchange.isSuccess, hType] at hNot

theorem repliesOnce_of_answered
    {env : LoginEnv}
    {α : Type}
    {events : List Exchange}
    {ending : Ending}
    (hAnswered : AnsweredSoFar env events) :
    RepliesOnce env
      (⟨events, .error ending⟩ :
        Run Exchange Ending LoginState α) := by
  intro before time type after hSplit
  rcases hAnswered before time type after hSplit with
    hOne | ⟨hNone, hLast⟩ | hLacks
  · exact Or.inl hOne
  · exact Or.inr (Or.inl ⟨hNone, hLast, ending, rfl⟩)
  · exact Or.inr (Or.inr hLacks)

/- A reply to the last request ends the dialogue. -/
theorem repliesBeforeNext_append_of_request
    {events : List Exchange}
    (hRequest : ∃ event ∈ events, event.isRequest = true)
    (rest : List Exchange) :
    repliesBeforeNext (events ++ rest) =
      repliesBeforeNext events := by
  unfold repliesBeforeNext
  rw [List.takeWhile_append]
  split
  · rename_i hAll
    rcases hRequest with
      ⟨event, hMem, hEvent⟩
    have hTaken := (List.takeWhile_prefix _).eq_of_length hAll
    rw [← hTaken] at hMem
    have hNot := List.mem_takeWhile_imp hMem
    simp [hEvent] at hNot
  · rfl

/- What follows the authentication replies once, or ends. -/
theorem repliesOnce_of_admits
    {env : LoginEnv}
    {start : LoginState}
    {events last : List Exchange}
    {type : AuthenticationType}
    {state : LoginState}
    {result : Except Ending (Unit × LoginState)}
    (hAdmits : Admits env start ⟨events, .ok (type, state)⟩)
    (hLast : ∀ event ∈ last, event.isRequest = false)
    (hReplies :
      last.countP Exchange.isReply = 1 ∨
        last.countP Exchange.isReply = 0 ∧
          ∃ ending, result = .error ending) :
    RepliesOnce env ⟨events ++ last, result⟩ := by
  intro before time type' after hSplit
  change events ++ last = _ at hSplit
  have hNext : repliesBeforeNext last =
      last.countP Exchange.isReply := by
    have hCount := repliesBeforeNext_append hLast []
    rw [List.append_nil] at hCount
    rw [hCount]
    rfl
  rcases List.append_eq_append_iff.mp hSplit with
    ⟨between, _, hInLast⟩ | ⟨between, hEvents, hAfter⟩
  · have hRequest := hLast (.request time type')
      (by rw [hInLast]; simp)
    cases hRequest
  · cases between with
    | nil =>
        have hRequest := hLast (.request time type')
          (by
            rw [List.nil_append] at hAfter
            rw [← hAfter]
            exact List.mem_cons_self)
        cases hRequest
    | cons first between =>
        rw [List.cons_append, List.cons.injEq] at hAfter
        rcases hAfter with
          ⟨rfl, rfl⟩
        by_cases hLater :
            ∃ event ∈ between, event.isRequest = true
        · rw [repliesBeforeNext_append_of_request hLater]
          rcases hAdmits.answered _ _ _ _ hEvents with
            hOne | ⟨_, hNoRequest⟩ | hLacks
          · exact Or.inl hOne
          · rcases hLater with
              ⟨event, hMem, hEvent⟩
            rw [hNoRequest event hMem] at hEvent
            cases hEvent
          · exact Or.inr (Or.inr hLacks)
        · have hNoRequest : ∀ event ∈ between,
              event.isRequest = false := by
            intro event hMem
            by_contra hEvent
            exact hLater ⟨event, hMem, by simpa using hEvent⟩
          have hUnanswered := hAdmits.unanswered type state
            rfl _ _ _ _ hEvents hNoRequest
          have hOwn : between.countP Exchange.isReply = 0 := by
            have hCount :=
              repliesBeforeNext_append hNoRequest []
            rw [List.append_nil, hUnanswered] at hCount
            exact (Nat.add_eq_zero_iff.mp hCount.symm).1
          rw [repliesBeforeNext_append hNoRequest, hOwn,
            hNext, Nat.zero_add]
          rcases hReplies with hOne | ⟨hZero, hEnding⟩
          · exact Or.inl hOne
          · exact Or.inr (Or.inl ⟨hZero,
              List.forall_mem_append.mpr ⟨hNoRequest, hLast⟩,
              hEnding⟩)

/- What is guaranteed of a login. -/
structure Gated
    (env : LoginEnv)
    (state : LoginState)
    (run : Run Exchange Ending LoginState Unit) : Prop where
  success : SuccessEarned env state run.events
  replies : RepliesOnce env run
  passwords : run.events.countP Exchange.isPasswordCall ≤ 5

/- The loop of failures never succeeds. -/
theorem gated_failLoop
    (env : LoginEnv)
    (state : LoginState) :
    Gated env state (doAuthenticationFailLoop state) := by
  rcases serves_failLoop env (state.arrivals.length + 1)
      state with
    ⟨events, ending, hRun, hServes⟩
  have hEvents :
      doAuthenticationFailLoop state =
        ⟨[.sent failurePacket] ++ events,
          .error ending⟩ := by
    unfold doAuthenticationFailLoop
    simp only [bind_apply, packetSend_apply, get_apply,
      andThen_ok, hRun, List.nil_append]
  rw [hEvents]
  constructor
  · apply successEarned_of_noSuccess
    exact List.forall_mem_append.mpr
      ⟨List.forall_mem_singleton.mpr rfl, hServes.noSuccess⟩
  · exact repliesOnce_of_answered (hServes.answered.prepend
      (List.forall_mem_singleton.mpr rfl))
  · have hCalls := hServes.passwordCalls
    simpa [Exchange.isPasswordCall] using hCalls

/- The login is accepted, and the client is told. -/
theorem successEarned_of_admits
    {env : LoginEnv}
    {state final : LoginState}
    {events : List Exchange}
    {pwUid : Nat}
    {type : AuthenticationType}
    (hUid : env.pwUid = some pwUid)
    (hAdmits : Admits env state ⟨events, .ok (type, final)⟩)
    (hPassword :
      pwUid = uidRoot →
        env.options.permitRootLogin = 1 → type ≠ .password)
    (hCommand :
      pwUid = uidRoot →
        env.options.permitRootLogin = 0 →
          final.restrictions.forcedCommand ≠ none) :
    SuccessEarned env state
      (events ++ [.sent successPacket]) := by
  intro before packet after hSplit hType
  have hNotMem : .sent packet ∉ events := by
    intro hMem
    have hNot := hAdmits.noSuccess _ hMem
    simp [Exchange.isSuccess, hType] at hNot
  rcases exists_of_append_eq_append_cons hSplit hNotMem with
    ⟨between, hBefore, hLast⟩
  have hNothing : between = [] := by
    cases between with
    | nil => rfl
    | cons first between =>
        rw [List.cons_append, List.cons.injEq] at hLast
        have hLength := congrArg List.length hLast.2
        simp at hLength
  rw [hNothing, List.append_nil] at hBefore
  rw [hBefore]
  rcases hAdmits.admitted type final rfl with
    ⟨attempt, time, line, hAttempt, hPermitted, _,
      hAccepted, hForced⟩
  refine ⟨attempt, time, line, hPermitted, hAccepted, ?_⟩
  intro hRoot
  rw [hUid, Option.some.injEq] at hRoot
  refine ⟨?_, ?_⟩
  · intro hOne
    rw [hAttempt]
    exact hPassword hRoot hOne
  · intro hZero
    rcases hForced with hSets | hSame | hLeft
    · exact Or.inr (Or.inl hSets)
    · left
      rw [← hSame]
      exact hCommand hRoot hZero
    · exact Or.inr (Or.inr hLeft)

/- The account is entered after the right answers. -/
theorem gated_authenticateAccount
    {env : LoginEnv}
    {pwUid : Nat}
    (hUid : env.pwUid = some pwUid)
    (state : LoginState) :
    Gated env state (authenticateAccount env pwUid state) := by
  unfold authenticateAccount
  split
  · rw [packetDisconnect_apply]
    refine ⟨successEarned_of_noSuccess
      (List.forall_mem_singleton.mpr rfl),
      repliesOnce_of_answered (answeredSoFar_of_noRequest
        (List.forall_mem_singleton.mpr rfl)), ?_⟩
    simp [Exchange.isPasswordCall]
  · have hAdmits := authenticate_admits env state
    rcases hRun : authenticate env state with
      ⟨events, result⟩
    rw [hRun] at hAdmits
    have hCalls := hAdmits.passwordCalls
    simp only [bind_apply, hRun]
    cases result with
    | error ending =>
        exact ⟨successEarned_of_noSuccess hAdmits.noSuccess,
          repliesOnce_of_answered hAdmits.answered, hCalls⟩
    | ok returned =>
        rcases returned with
          ⟨type, final⟩
        rcases checkRootLogin_cases env pwUid type final with
          ⟨message, ending, hCheck⟩ |
            ⟨hCheck, hPassword, hCommand⟩
        · simp only [andThen_ok, bind_apply, hCheck,
            andThen_error]
          refine ⟨?_, ?_, ?_⟩
          · apply successEarned_of_noSuccess
            exact List.forall_mem_append.mpr
              ⟨hAdmits.noSuccess,
                List.forall_mem_singleton.mpr rfl⟩
          · exact repliesOnce_of_admits hAdmits
              (List.forall_mem_singleton.mpr rfl)
              (Or.inr ⟨rfl, ending, rfl⟩)
          · simpa [Exchange.isPasswordCall] using hCalls
        · simp only [andThen_ok, bind_apply, hCheck,
            packetSend_apply, List.nil_append]
          refine ⟨?_, ?_, ?_⟩
          · exact successEarned_of_admits hUid hAdmits
              hPassword hCommand
          · exact repliesOnce_of_admits hAdmits
              (List.forall_mem_singleton.mpr rfl) (Or.inl rfl)
          · simpa [Exchange.isPasswordCall] using hCalls

/- An account whose password is never right. -/
def strictLogin : LoginEnv where
  options := {
    rhostsAuthentication := false
    rhostsRsaAuthentication := false
    rsaAuthentication := true
    tisAuthentication := false
    passwordAuthentication := true
    permitEmptyPasswd := true
    forcedEmptyPasswdChange := true
    permitRootLogin := 2 }
  user := [117]
  pwUid := some 1000
  loginPermitted := true
  serverUid := uidRoot
  canonicalHostname := "a.fi"
  privilegedPort := false
  cipherType := .tripleDes
  packetDebugOn := false
  haveTis := false
  passwdPath := "/bin/passwd".toList
  passwordLookup := fun _ _ => .stored [] [42] (.ok false)
  authRhosts := fun _ _ => ⟨[], .ok false⟩
  hostKeyKnown := fun _ _ => ⟨[], .ok false⟩
  rsaChallenge := fun _ _ => .ok ⟨1, []⟩
  rsaSurroundings := fun _ => trustedEnv []
  rsaMessages := fun _ _ => []
  tisGreeting := fun _ => .ready
  tisMappedName := fun _ => none
  tisReply := fun _ => .unknownUser
  tisVerdict := fun _ _ => .ok false

/-
  A root account without a password. Root logins are only
  permitted with a forced command.
-/
def openRootLogin : LoginEnv := {
  strictLogin with
  options := {
    strictLogin.options with
    permitRootLogin := 0 }
  pwUid := some uidRoot
  passwordLookup := fun _ _ => .stored [] [] (.ok false) }

/- A client that sends so many times the same packet. -/
def repeating (count : Nat) (body : Buffer) : LoginState where
  arrivals := List.replicate count (.packet body)
  time := 0
  incomingPacket := []
  restrictions := unrestricted

/- A password of one letter. -/
def passwordBody : Buffer := [9, 0, 0, 0, 1, 97]

end Ssh1
