import Ssh1.Auth.LoginEvents

/-
  The replies of a login.

  Each request is answered by one final reply, the last one
  unless the session ends, and no more than five passwords
  are tried. Only where the authentication server is missing
  is there a reply too many.

  Main declarations:
    * `LacksServer`, `Handled`
    * `AnsweredSoFar`
    * `Serves`
    * `serves_authenticationLoop`, `serves_failLoop`
-/

------------------------------------------------------------
-- Handled Requests
------------------------------------------------------------

namespace Ssh1

/-
  A request for the authentication server, which does not
  greet as it should.
-/
def LacksServer
    (env : LoginEnv)
    (time : Nat)
    (type : UInt8) : Prop :=
  type = sshCmsgAuthTis ∧ env.haveTis = true ∧
    env.tisGreeting time ≠ .ready

/- What the handling of one request does. -/
structure Handled
    (env : LoginEnv)
    (passwordAttempts time : Nat)
    (type : UInt8)
    (run : Recorded.Run Exchange Ending LoginState
      (Option AuthenticationType × Nat)) : Prop where
  noRequest : ∀ event ∈ run.events, event.isRequest = false
  noSuccess : ∀ event ∈ run.events, event.isSuccess = false
  noReply :
    (∀ event ∈ run.events, event.isReply = false) ∨
      LacksServer env time type ∧
        ∀ type' attempts state,
          run.result ≠ .ok ((some type', attempts), state)
  passwordCalls :
    passwordAttempts +
        run.events.countP Exchange.isPasswordCall ≤
      max passwordAttempts 5
  counted : ∀ authenticated attempts state,
    run.result = .ok ((authenticated, attempts), state) →
      attempts = passwordAttempts +
        run.events.countP Exchange.isPasswordCall

namespace Session

open Recorded Exchange

/- The authenticator and its verdict are no replies. -/
theorem inner_decideOn
    {attempt : Attempt}
    {authenticator : Session Bool}
    (hAttempt : (asked attempt).isPasswordCall = false)
    (hInner : Inner authenticator) :
    Inner (decideOn attempt authenticator) := by
  refine (Always.record ⟨rfl, rfl, hAttempt⟩).bind
    fun _ => ?_
  refine hInner.bind fun accepted => ?_
  exact (Always.record ⟨rfl, rfl, rfl⟩).bind fun _ =>
    Always.pure _

/- The offer of a method is no reply. -/
theorem inner_offer
    {attempt : Attempt}
    {authenticator : Session Bool}
    (type : AuthenticationType)
    (hAttempt : (asked attempt).isPasswordCall = false)
    (hInner : Inner authenticator) :
    Inner (offer attempt type authenticator) :=
  (inner_decideOn hAttempt hInner).bind fun _ =>
    Always.pure _

/- A message on the refusal is no reply. -/
theorem inner_refuse : Inner refuse :=
  (Always.modify _).bind fun _ => Always.pure _

/- The rhosts request. -/
theorem inner_rhostsRequest
    (env : LoginEnv) :
    Inner (rhostsRequest env) := by
  unfold rhostsRequest
  split
  · exact inner_refuse
  · split
    · exact inner_refuse
    · exact (inner_packetGet _).bind fun _ =>
        inner_offer _ rfl (inner_consult env _)

/- The rhosts request with a host key. -/
theorem inner_rhostsRsaRequest
    (env : LoginEnv) :
    Inner (rhostsRsaRequest env) := by
  unfold rhostsRsaRequest
  split
  · exact inner_refuse
  · split
    · exact inner_refuse
    · split
      · exact inner_refuse
      · split
        · exact inner_refuse
        · refine (inner_packetGet _).bind fun _ => ?_
          refine (inner_packetGet _).bind fun _ => ?_
          refine (inner_packetGet _).bind fun _ => ?_
          refine (inner_packetGet _).bind fun _ => ?_
          exact inner_offer _ rfl
            (inner_authRhostsRsa env _ _)

/- The RSA request. -/
theorem inner_rsaRequest
    (env : LoginEnv) :
    Inner (rsaRequest env) := by
  unfold rsaRequest
  split
  · exact inner_refuse
  · exact (inner_packetGet _).bind fun n =>
      inner_offer _ rfl (inner_authRsa env n)

/- The TIS question and its answer. -/
theorem inner_tisDialog
    (env : LoginEnv)
    (prompt : List UInt8) :
    Inner (tisDialog env prompt) := by
  refine (inner_packetSend rfl).bind fun _ => ?_
  refine inner_packetRead.bind fun type => ?_
  split
  · exact (Always.modify _).bind fun _ =>
      Always.pure _
  · refine (inner_packetGet _).bind fun password => ?_
    exact inner_offer _ rfl
      (Always.get.bind fun _ => inner_ofOutcome _)

/- Only without the server is a failure sent at once. -/
theorem tisRequest_cases
    (env : LoginEnv)
    (state : LoginState) :
    (∀ event ∈ (tisRequest env state).events,
      event.IsInner) ∨
      env.tisGreeting state.time ≠ .ready ∧
        tisRequest env state =
          ⟨[.sent failurePacket], .ok (none, state)⟩ := by
  unfold tisRequest
  split
  · exact Or.inl (inner_refuse state)
  · simp only [bind_apply, get_apply, andThen_ok,
      List.nil_append]
    cases hGreeting : env.tisGreeting state.time with
    | noConnection => exact Or.inr ⟨nofun, rfl⟩
    | badResponse => exact Or.inr ⟨nofun, rfl⟩
    | ready =>
        left
        simp only []
        split
        · exact (Always.pure _) state
        · cases env.tisReply state.time with
          | challenge text =>
              exact (inner_tisDialog env _) state
          | password =>
              exact (inner_tisDialog env _) state
          | unknownUser => exact (Always.pure _) state

/- The attempts are handed on beside the answer. -/
theorem pairWith_apply
    (m : Session (Option AuthenticationType))
    (passwordAttempts : Nat)
    (state : LoginState) :
    (do return (← m, passwordAttempts) :
      Session (Option AuthenticationType × Nat)) state =
      ⟨(m state).events,
        (m state).result.map fun returned =>
          ((returned.1, passwordAttempts), returned.2)⟩ := by
  rw [bind_apply]
  rcases hRun : m state with
    ⟨events, result⟩
  cases result with
  | error halt => rfl
  | ok returned =>
      rcases returned with
        ⟨authenticated, state'⟩
      simp [Except.map]

theorem exists_of_map_eq_ok
    {η α β : Type}
    {x : Except η α}
    {f : α → β}
    {b : β}
    (hMap : x.map f = .ok b) :
    ∃ a, x = .ok a ∧ f a = b := by
  cases x with
  | error halt => cases hMap
  | ok a =>
      cases hMap
      exact ⟨a, rfl, rfl⟩

/- None of these asks about a password. -/
theorem countP_isPasswordCall_of_inner
    {events : List Exchange}
    (hInner : ∀ event ∈ events, event.IsInner) :
    events.countP isPasswordCall = 0 := by
  rw [List.countP_eq_zero]
  intro event hEvent
  simp [(hInner event hEvent).notPasswordCall]

/- A request that only does what is inside of requests. -/
theorem handled_of_inner
    {env : LoginEnv}
    {m : Session (Option AuthenticationType)}
    (passwordAttempts time : Nat)
    (type : UInt8)
    (state : LoginState)
    (hInner : ∀ event ∈ (m state).events, event.IsInner) :
    Handled env passwordAttempts time type
      ((do return (← m, passwordAttempts) :
        Session (Option AuthenticationType × Nat))
          state) := by
  rw [pairWith_apply]
  have hCount := countP_isPasswordCall_of_inner hInner
  constructor
  · exact fun event hEvent =>
      (hInner event hEvent).notRequest
  · exact fun event hEvent =>
      (hInner event hEvent).notSuccess
  · exact Or.inl fun event hEvent =>
      (hInner event hEvent).notReply
  · simp only [hCount]
    omega
  · intro authenticated attempts state' hResult
    rcases exists_of_map_eq_ok hResult with
      ⟨returned, _, hEq⟩
    cases hEq
    simp [hCount]

/- A TIS request counts no password. -/
theorem handled_tisRequest
    {env : LoginEnv}
    (hTis : env.haveTis = true)
    (passwordAttempts : Nat)
    (state : LoginState) :
    Handled env passwordAttempts state.time sshCmsgAuthTis
      ((do return (← tisRequest env, passwordAttempts) :
        Session (Option AuthenticationType × Nat))
          state) := by
  rcases tisRequest_cases env state with
    hInner | ⟨hGreeting, hRun⟩
  · exact handled_of_inner _ _ _ state hInner
  · rw [pairWith_apply, hRun]
    constructor
    · intro event hEvent
      rw [List.mem_singleton] at hEvent
      exact hEvent ▸ rfl
    · intro event hEvent
      rw [List.mem_singleton] at hEvent
      exact hEvent ▸ rfl
    · exact Or.inr ⟨⟨rfl, hTis, hGreeting⟩, nofun⟩
    · simp [isPasswordCall]
    · intro authenticated attempts state' hResult
      cases hResult
      simp [isPasswordCall]

/- One password is asked about. -/
theorem countP_append_cons_inner
    {attempt : Attempt}
    {events : List Exchange}
    (hAttempt : (asked attempt).isPasswordCall = true)
    (hInner : ∀ event ∈ events, event.IsInner) :
    (asked attempt :: events).countP isPasswordCall = 1 := by
  rw [List.countP_cons, hAttempt,
    countP_isPasswordCall_of_inner hInner]
  rfl

/- The call comes first, and nothing else is a call. -/
theorem offer_password_events
    (env : LoginEnv)
    (password : List UInt8)
    (state : LoginState) :
    ∃ events,
      (offer (.password password) .password
          (authPassword env password)
          state).events =
        asked (.password password) :: events ∧
      ∀ event ∈ events, event.IsInner := by
  let rest : Session (Option AuthenticationType) := do
    let accepted ←
      authPassword env password
    record (.verdict (.password password) accepted)
    return if accepted then some .password else none
  have hRest : Inner rest := by
    refine (inner_authPassword env _).bind fun accepted => ?_
    exact (Always.record ⟨rfl, rfl, rfl⟩).bind fun _ =>
      Always.pure _
  refine ⟨(rest state).events, ?_, hRest state⟩
  simp only [offer, decideOn, rest, bind_apply, record_apply,
    andThen_ok]
  cases authPassword env password state with
  | mk events result =>
      cases result with
      | error halt => rfl
      | ok returned =>
          rcases returned with
            ⟨accepted, state'⟩
          simp [bind_apply]

/- Handling may end before it came to an answer. -/
theorem handled_error
    {env : LoginEnv}
    {passwordAttempts time : Nat}
    {type : UInt8}
    {events : List Exchange}
    (ending : Ending)
    (hInner : ∀ event ∈ events, event.IsInner) :
    Handled env passwordAttempts time type
      ⟨events, .error ending⟩ := by
  have hCount := countP_isPasswordCall_of_inner hInner
  refine ⟨?_, ?_, Or.inl ?_, ?_, nofun⟩
  · exact fun event hEvent =>
      (hInner event hEvent).notRequest
  · exact fun event hEvent =>
      (hInner event hEvent).notSuccess
  · exact fun event hEvent =>
      (hInner event hEvent).notReply
  · simp only [hCount]
    omega

/- What comes before is no reply. -/
theorem handled_prepend
    {env : LoginEnv}
    {passwordAttempts time : Nat}
    {type : UInt8}
    {events : List Exchange}
    {run : Run Exchange Ending LoginState
      (Option AuthenticationType × Nat)}
    (hInner : ∀ event ∈ events, event.IsInner)
    (hRun : Handled env passwordAttempts time type run) :
    Handled env passwordAttempts time type
      ⟨events ++ run.events, run.result⟩ := by
  have hCount := countP_isPasswordCall_of_inner hInner
  constructor
  · exact List.forall_mem_append.mpr
      ⟨fun event hEvent => (hInner event hEvent).notRequest,
        hRun.noRequest⟩
  · exact List.forall_mem_append.mpr
      ⟨fun event hEvent => (hInner event hEvent).notSuccess,
        hRun.noSuccess⟩
  · rcases hRun.noReply with hNone | hLacks
    · exact Or.inl (List.forall_mem_append.mpr
        ⟨fun event hEvent => (hInner event hEvent).notReply,
          hNone⟩)
    · exact Or.inr hLacks
  · simpa only [List.countP_append, hCount, Nat.zero_add]
      using hRun.passwordCalls
  · intro authenticated attempts state hResult
    simpa only [List.countP_append, hCount, Nat.zero_add]
      using hRun.counted authenticated attempts state hResult

/- So it is for a piece that comes before. -/
theorem handled_bind
    {α : Type}
    {env : LoginEnv}
    {passwordAttempts time : Nat}
    {type : UInt8}
    {m : Session α}
    {f : α → Session (Option AuthenticationType × Nat)}
    {state : LoginState}
    (hInner : ∀ event ∈ (m state).events, event.IsInner)
    (hRest : ∀ a state',
      Handled env passwordAttempts time type (f a state')) :
    Handled env passwordAttempts time type
      ((m >>= f) state) := by
  rw [bind_apply]
  rcases andThen_cases (m state) f with
    ⟨halt, _, hRun⟩ | ⟨a, state', _, hRun⟩
  · rw [hRun]
    exact handled_error halt hInner
  · rw [hRun]
    exact handled_prepend hInner (hRest a state')

/- The password of the client is passed on. -/
theorem handled_offer_password
    {env : LoginEnv}
    {passwordAttempts : Nat}
    (time : Nat)
    (type : UInt8)
    (password : List UInt8)
    (state : LoginState)
    (hAttempts : ¬ passwordAttempts ≥ 5) :
    Handled env passwordAttempts time type
      ((do
        let authenticated ←
          offer (.password password) .password
            (authPassword env password)
        return (authenticated, passwordAttempts + 1) :
        Session (Option AuthenticationType × Nat))
          state) := by
  rcases offer_password_events env password state with
    ⟨events, hEvents, hInner⟩
  rw [pairWith_apply]
  have hCount :
      (offer (.password password) .password
        (authPassword env password)
          state).events.countP isPasswordCall = 1 := by
    rw [hEvents]
    exact countP_append_cons_inner rfl hInner
  constructor
  · rw [hEvents]
    exact List.forall_mem_cons.mpr ⟨rfl,
      fun event hEvent => (hInner event hEvent).notRequest⟩
  · rw [hEvents]
    exact List.forall_mem_cons.mpr ⟨rfl,
      fun event hEvent => (hInner event hEvent).notSuccess⟩
  · rw [hEvents]
    exact Or.inl (List.forall_mem_cons.mpr ⟨rfl,
      fun event hEvent => (hInner event hEvent).notReply⟩)
  · simp only [hCount]
    omega
  · intro authenticated attempts state' hResult
    rcases exists_of_map_eq_ok hResult with
      ⟨returned, _, hEq⟩
    cases hEq
    rw [hCount]

/- A password request counts one password at the most. -/
theorem handled_passwordRequest
    (env : LoginEnv)
    (passwordAttempts time : Nat)
    (type : UInt8)
    (state : LoginState) :
    Handled env passwordAttempts time type
      (passwordRequest env passwordAttempts state) := by
  unfold passwordRequest
  split
  · exact handled_of_inner _ _ _ state (inner_refuse state)
  · split
    · exact handled_of_inner _ _ _ state
        (inner_refuse state)
    · refine handled_bind ((inner_packetGet _) state) ?_
      intro password state'
      split
      · exact handled_error _
          (inner_packetDisconnect (α := Unit) _ state')
      · rename_i hAttempts
        exact handled_offer_password time type password
          state' hAttempts

/- Every request is handled as it should be. -/
theorem handled_authenticationRequest
    (env : LoginEnv)
    (passwordAttempts : Nat)
    (type : UInt8)
    (state : LoginState) :
    Handled env passwordAttempts state.time type
      (authenticationRequest env passwordAttempts type
        state) := by
  unfold authenticationRequest
  split
  · exact handled_of_inner _ _ _ state
      ((inner_rhostsRequest env) state)
  · split
    · exact handled_of_inner _ _ _ state
        ((inner_rhostsRsaRequest env) state)
    · split
      · exact handled_of_inner _ _ _ state
          ((inner_rsaRequest env) state)
      · split
        · rename_i hTis
          rw [hTis.2]
          exact handled_tisRequest hTis.1 _ state
        · split
          · exact handled_passwordRequest env _ _ _ state
          · exact handled_of_inner _ _ _ state
              (inner_refuse state)

end Session

end Ssh1

------------------------------------------------------------
-- Replies in a Run
------------------------------------------------------------

namespace Ssh1

namespace Session

open Recorded Exchange

/- What is read up to a request, and the request. -/
theorem readRequest_cases
    (state : LoginState) :
    (∃ events ending,
      readRequest state = ⟨events, .error ending⟩ ∧
        ∀ event ∈ events, event.IsInner) ∨
      ∃ events type state',
        readRequest state =
          ⟨events ++ [.request state'.time type],
            .ok (type, state')⟩ ∧
          ∀ event ∈ events, event.IsInner := by
  have hInner := inner_packetRead state
  unfold readRequest
  rw [bind_apply]
  cases hRun : packetRead state with
  | mk events result =>
      rw [hRun] at hInner
      cases result with
      | error ending =>
          exact Or.inl ⟨events, ending, rfl, hInner⟩
      | ok returned =>
          rcases returned with
            ⟨type, state'⟩
          refine Or.inr ⟨events, type, state', ?_, hInner⟩
          simp [bind_apply]

end Session

/- The final replies up to the next request. -/
def repliesBeforeNext (events : List Exchange) : Nat :=
  (events.takeWhile fun event => !event.isRequest).countP
    Exchange.isReply

/-
  Each request has its reply, unless it is the last one and
  has none yet.
-/
def AnsweredSoFar
    (env : LoginEnv)
    (events : List Exchange) : Prop :=
  ∀ before time type after,
    events = before ++ .request time type :: after →
      repliesBeforeNext after = 1 ∨
        (repliesBeforeNext after = 0 ∧
          ∀ event ∈ after, event.isRequest = false) ∨
        LacksServer env time type

/- A marked element cannot lie in a part without it. -/
theorem exists_of_append_eq_append_cons
    {α : Type}
    {part rest before after : List α}
    {mark : α}
    (hEq : part ++ rest = before ++ mark :: after)
    (hMark : mark ∉ part) :
    ∃ between,
      before = part ++ between ∧
        rest = between ++ mark :: after := by
  rcases List.append_eq_append_iff.mp hEq with
    ⟨between, hBefore, hRest⟩ | ⟨between, hPart, hRest⟩
  · exact ⟨between, hBefore, hRest⟩
  · cases between with
    | nil =>
        refine ⟨[], ?_, ?_⟩
        · simpa using hPart.symm
        · simpa using hRest.symm
    | cons first between =>
        rw [List.cons_append, List.cons.injEq] at hRest
        rw [hPart, hRest.1] at hMark
        simp at hMark

/- The replies up to the next request. -/
theorem repliesBeforeNext_append
    {own : List Exchange}
    (hOwn : ∀ event ∈ own, event.isRequest = false)
    (rest : List Exchange) :
    repliesBeforeNext (own ++ rest) =
      own.countP Exchange.isReply +
        repliesBeforeNext rest := by
  unfold repliesBeforeNext
  rw [List.takeWhile_append_of_pos, List.countP_append]
  intro event hEvent
  simp [hOwn event hEvent]

/- Without requests there is nothing to be answered. -/
theorem answeredSoFar_of_noRequest
    {env : LoginEnv}
    {events : List Exchange}
    (hEvents : ∀ event ∈ events, event.isRequest = false) :
    AnsweredSoFar env events := by
  intro before time type after hSplit
  have hRequest := hEvents (.request time type)
    (by rw [hSplit]; simp)
  cases hRequest

/- One request, and what comes after it. -/
theorem AnsweredSoFar.turn
    {env : LoginEnv}
    {pre own rest : List Exchange}
    {time : Nat}
    {type : UInt8}
    (hPre : ∀ event ∈ pre, event.isRequest = false)
    (hOwn : ∀ event ∈ own, event.isRequest = false)
    (hThis :
      repliesBeforeNext (own ++ rest) = 1 ∨
        (repliesBeforeNext (own ++ rest) = 0 ∧
          ∀ event ∈ own ++ rest, event.isRequest = false) ∨
        LacksServer env time type)
    (hRest : AnsweredSoFar env rest) :
    AnsweredSoFar env
      (pre ++ .request time type :: (own ++ rest)) := by
  intro before time' type' after hSplit
  have hNotMem :
      ∀ {events : List Exchange},
        (∀ event ∈ events, event.isRequest = false) →
          .request time' type' ∉ events := by
    intro events hEvents hMem
    cases hEvents _ hMem
  rcases exists_of_append_eq_append_cons hSplit
      (hNotMem hPre) with
    ⟨between, _, hAfter⟩
  cases between with
  | nil =>
      rw [List.nil_append, List.cons.injEq] at hAfter
      rcases hAfter with
        ⟨hRequest, rfl⟩
      cases hRequest
      exact hThis
  | cons first between =>
      rw [List.cons_append, List.cons.injEq] at hAfter
      rcases exists_of_append_eq_append_cons hAfter.2
          (hNotMem hOwn) with
        ⟨between', _, hRestSplit⟩
      exact hRest _ _ _ _ hRestSplit

end Ssh1

------------------------------------------------------------
-- The Loop
------------------------------------------------------------

namespace Ssh1

open Recorded Session

/- The last request is still without a reply. -/
structure Awaiting (events : List Exchange) : Prop where
  requested : ∃ event ∈ events, event.isRequest = true
  unanswered : ∀ before time type after,
    events = before ++ .request time type :: after →
      (∀ event ∈ after, event.isRequest = false) →
        repliesBeforeNext after = 0

/- What the loop does, after some password attempts. -/
structure Serves
    (env : LoginEnv)
    (passwordAttempts : Nat)
    (run : Run Exchange Ending LoginState
      AuthenticationType) : Prop where
  noReplyFirst : repliesBeforeNext run.events = 0
  noSuccess : ∀ event ∈ run.events, event.isSuccess = false
  answered : AnsweredSoFar env run.events
  awaiting : ∀ type state,
    run.result = .ok (type, state) → Awaiting run.events
  passwordCalls :
    passwordAttempts +
        run.events.countP Exchange.isPasswordCall ≤
      max passwordAttempts 5

/- Inner events have none. -/
theorem repliesBeforeNext_of_inner
    {events : List Exchange}
    (hInner : ∀ event ∈ events, event.IsInner) :
    repliesBeforeNext events = 0 := by
  rw [repliesBeforeNext, List.countP_eq_zero]
  intro event hEvent
  have hMem := (List.takeWhile_sublist _).mem hEvent
  simp [(hInner event hMem).notReply]

theorem countP_isReply_eq_zero
    {events : List Exchange}
    (hReply : ∀ event ∈ events, event.isReply = false) :
    events.countP Exchange.isReply = 0 := by
  rw [List.countP_eq_zero]
  intro event hEvent
  simp [hReply event hEvent]

/- The events up to a request have no reply in them. -/
theorem repliesBeforeNext_request
    {pre : List Exchange}
    (hPre : ∀ event ∈ pre, event.IsInner)
    (time : Nat)
    (type : UInt8)
    (after : List Exchange) :
    repliesBeforeNext
      (pre ++ .request time type :: after) = 0 := by
  rw [repliesBeforeNext_append
    (fun event hEvent => (hPre event hEvent).notRequest),
    countP_isReply_eq_zero
      fun event hEvent => (hPre event hEvent).notReply]
  rfl

/- Nothing more is read. -/
theorem serves_of_inner
    {env : LoginEnv}
    {events : List Exchange}
    (passwordAttempts : Nat)
    (ending : Ending)
    (hInner : ∀ event ∈ events, event.IsInner) :
    Serves env passwordAttempts
      ⟨events, .error ending⟩ := by
  refine ⟨repliesBeforeNext_of_inner hInner, ?_, ?_, nofun,
    ?_⟩
  · exact fun event hEvent => (hInner event hEvent).notSuccess
  · exact answeredSoFar_of_noRequest
      fun event hEvent => (hInner event hEvent).notRequest
  · simp only [countP_isPasswordCall_of_inner hInner]
    omega

/- The request during which the loop ends is the last one. -/
theorem answeredSoFar_last
    {env : LoginEnv}
    {pre : List Exchange}
    {passwordAttempts time : Nat}
    {type : UInt8}
    {run : Run Exchange Ending LoginState
      (Option AuthenticationType × Nat)}
    (hPre : ∀ event ∈ pre, event.IsInner)
    (hHandled : Handled env passwordAttempts time type run) :
    AnsweredSoFar env
      (pre ++ .request time type :: run.events) := by
  have hEvents :
      pre ++ .request time type :: run.events =
        pre ++ .request time type :: (run.events ++ []) := by
    rw [List.append_nil]
  rw [hEvents]
  refine AnsweredSoFar.turn
    (fun event hEvent => (hPre event hEvent).notRequest)
    hHandled.noRequest ?_ (answeredSoFar_of_noRequest nofun)
  rw [List.append_nil]
  rcases hHandled.noReply with hReply | ⟨hLacks, _⟩
  · refine Or.inr (Or.inl ⟨?_, hHandled.noRequest⟩)
    have hCount :=
      repliesBeforeNext_append hHandled.noRequest []
    rw [List.append_nil,
      countP_isReply_eq_zero hReply] at hCount
    rw [hCount]
    rfl
  · exact Or.inr (Or.inr hLacks)

/- The last request still waits for its reply. -/
theorem awaiting_last
    {pre own : List Exchange}
    {time : Nat}
    {type : UInt8}
    (hPre : ∀ event ∈ pre, event.IsInner)
    (hOwn : ∀ event ∈ own, event.isRequest = false)
    (hReply : ∀ event ∈ own, event.isReply = false) :
    Awaiting (pre ++ .request time type :: own) := by
  refine ⟨⟨.request time type, by simp, rfl⟩, ?_⟩
  intro before time' type' after hSplit _
  have hNotMem : .request time' type' ∉ pre := by
    intro hMem
    cases (hPre _ hMem).notRequest
  rcases exists_of_append_eq_append_cons hSplit hNotMem with
    ⟨between, _, hAfter⟩
  cases between with
  | nil =>
      rw [List.nil_append, List.cons.injEq] at hAfter
      have hCount := repliesBeforeNext_append hOwn []
      rw [List.append_nil,
        countP_isReply_eq_zero hReply] at hCount
      rw [← hAfter.2, hCount]
      rfl
  | cons first between =>
      rw [List.cons_append, List.cons.injEq] at hAfter
      have hRequest := hOwn (.request time' type')
        (by rw [hAfter.2]; simp)
      cases hRequest

/- A later part of the loop keeps its last request open. -/
theorem Awaiting.prepend
    {part rest : List Exchange}
    (hRest : Awaiting rest) :
    Awaiting (part ++ rest) := by
  rcases hRest.requested with
    ⟨request, hMem, hRequest⟩
  refine ⟨⟨request, List.mem_append_right _ hMem,
    hRequest⟩, ?_⟩
  intro before time type after hSplit hLast
  rcases List.append_eq_append_iff.mp hSplit with
    ⟨between, _, hRestSplit⟩ | ⟨between, hPart, hAfter⟩
  · exact hRest.unanswered _ _ _ _ hRestSplit hLast
  · cases between with
    | nil =>
        exact hRest.unanswered [] time type after
          (by simpa using hAfter.symm) hLast
    | cons first between =>
        rw [List.cons_append, List.cons.injEq] at hAfter
        have hNot := hLast request
          (by rw [hAfter.2]; exact List.mem_append_right _ hMem)
        rw [hRequest] at hNot
        cases hNot

/- A request that fails, and the loop after it. -/
theorem serves_failed
    {env : LoginEnv}
    {pre : List Exchange}
    {passwordAttempts passwordAttempts' time : Nat}
    {type : UInt8}
    {events : List Exchange}
    {state : LoginState}
    {rest : Run Exchange Ending LoginState
      AuthenticationType}
    (hPre : ∀ event ∈ pre, event.IsInner)
    (hHandled :
      Handled env passwordAttempts time type
        ⟨events, .ok ((none, passwordAttempts'), state)⟩)
    (hRest : Serves env passwordAttempts' rest) :
    Serves env passwordAttempts
      ⟨pre ++ .request time type ::
          ((events ++ [.sent failurePacket]) ++ rest.events),
        rest.result⟩ := by
  have hOwn : ∀ event ∈ events ++ [.sent failurePacket],
      event.isRequest = false :=
    List.forall_mem_append.mpr
      ⟨hHandled.noRequest, List.forall_mem_singleton.mpr rfl⟩
  have hCounted := hHandled.counted _ _ _ rfl
  have hCalls := hHandled.passwordCalls
  have hRestCalls := hRest.passwordCalls
  constructor
  · exact repliesBeforeNext_request hPre time type _
  · refine List.forall_mem_append.mpr
      ⟨fun event hEvent => (hPre event hEvent).notSuccess, ?_⟩
    refine List.forall_mem_cons.mpr ⟨rfl, ?_⟩
    refine List.forall_mem_append.mpr ⟨?_, hRest.noSuccess⟩
    exact List.forall_mem_append.mpr
      ⟨hHandled.noSuccess, List.forall_mem_singleton.mpr rfl⟩
  · refine AnsweredSoFar.turn
      (fun event hEvent => (hPre event hEvent).notRequest)
      hOwn ?_ hRest.answered
    rcases hHandled.noReply with hReply | ⟨hLacks, _⟩
    · left
      rw [repliesBeforeNext_append hOwn,
        List.countP_append, countP_isReply_eq_zero hReply,
        hRest.noReplyFirst]
      rfl
    · exact Or.inr (Or.inr hLacks)
  · intro type' state' hResult
    have hAwaiting := hRest.awaiting type' state' hResult
    have hSplit :
        pre ++ .request time type ::
            ((events ++ [.sent failurePacket]) ++
              rest.events) =
          (pre ++ .request time type ::
            (events ++ [.sent failurePacket])) ++
              rest.events := by
      simp
    simp only [hSplit]
    exact hAwaiting.prepend
  · have hNoCall :
        (pre ++ Exchange.request time type ::
          ((events ++ [.sent failurePacket]) ++
            rest.events)).countP Exchange.isPasswordCall =
          events.countP Exchange.isPasswordCall +
            rest.events.countP Exchange.isPasswordCall := by
      simp [List.countP_append,
        countP_isPasswordCall_of_inner hPre,
        Exchange.isPasswordCall]
    simp only at hCounted hCalls ⊢
    rw [hNoCall]
    omega

/- A request during which the loop ends. -/
theorem serves_last
    {env : LoginEnv}
    {pre : List Exchange}
    {passwordAttempts time : Nat}
    {type : UInt8}
    {run : Run Exchange Ending LoginState
      (Option AuthenticationType × Nat)}
    {result : Except Ending (AuthenticationType × LoginState)}
    (hPre : ∀ event ∈ pre, event.IsInner)
    (hHandled : Handled env passwordAttempts time type run)
    (hResult : ∀ type' state, result = .ok (type', state) →
      ∃ attempts state',
        run.result = .ok ((some type', attempts), state')) :
    Serves env passwordAttempts
      ⟨pre ++ .request time type :: run.events, result⟩ := by
  have hCalls := hHandled.passwordCalls
  constructor
  · exact repliesBeforeNext_request hPre time type _
  · refine List.forall_mem_append.mpr
      ⟨fun event hEvent => (hPre event hEvent).notSuccess, ?_⟩
    exact List.forall_mem_cons.mpr ⟨rfl, hHandled.noSuccess⟩
  · exact answeredSoFar_last hPre hHandled
  · intro type' state hOk
    rcases hResult type' state hOk with
      ⟨attempts, state', hRun⟩
    rcases hHandled.noReply with hReply | ⟨_, hNone⟩
    · exact awaiting_last hPre hHandled.noRequest hReply
    · exact (hNone _ _ _ hRun).elim
  · simpa [List.countP_cons, List.countP_append,
      countP_isPasswordCall_of_inner hPre,
      Exchange.isPasswordCall] using hCalls

/- The loop serves one request after the other. -/
theorem serves_authenticationLoop
    (env : LoginEnv)
    (fuel passwordAttempts : Nat)
    (state : LoginState) :
    Serves env passwordAttempts
      (authenticationLoop env fuel passwordAttempts
        state) := by
  induction fuel generalizing passwordAttempts state with
  | zero => exact serves_of_inner _ _ nofun
  | succ fuel ih =>
      rw [authenticationLoop, bind_apply]
      rcases readRequest_cases state with
        ⟨events, ending, hRead, hInner⟩ |
          ⟨pre, type, state', hRead, hInner⟩
      · rw [hRead]
        exact serves_of_inner _ _ hInner
      · rw [hRead]
        have hHandled := handled_authenticationRequest env
          passwordAttempts type state'
        simp only [andThen_ok, bind_apply, List.append_assoc,
          List.singleton_append]
        rcases hRun :
            authenticationRequest env passwordAttempts type
              state' with
          ⟨events, result⟩
        rw [hRun] at hHandled
        cases result with
        | error ending =>
            exact serves_last hInner hHandled nofun
        | ok returned =>
            rcases returned with
              ⟨⟨authenticated, attempts⟩, state''⟩
            cases authenticated with
            | some authenticationType =>
                simp only [andThen_ok, pure_apply,
                  List.append_nil]
                refine serves_last hInner hHandled ?_
                intro type' final hOk
                cases hOk
                exact ⟨_, _, rfl⟩
            | none =>
                simp only [andThen_ok, bind_apply,
                  packetSend_apply]
                have hServes := serves_failed hInner hHandled
                  (ih attempts state'')
                simpa only [List.append_assoc,
                  List.singleton_append] using hServes

/- The loop that fails gives each request its reply, too. -/
theorem serves_failLoop
    (env : LoginEnv)
    (fuel : Nat)
    (state : LoginState) :
    ∃ events ending,
      failLoop fuel state = ⟨events, .error ending⟩ ∧
        Serves env 0 ⟨events, .error ending⟩ := by
  induction fuel generalizing state with
  | zero => exact ⟨[], _, rfl, serves_of_inner _ _ nofun⟩
  | succ fuel ih =>
      rw [failLoop, bind_apply]
      rcases readRequest_cases state with
        ⟨events, ending, hRead, hInner⟩ |
          ⟨pre, type, state', hRead, hInner⟩
      · rw [hRead]
        exact ⟨events, ending, rfl, serves_of_inner _ _ hInner⟩
      · have hHandled :
            Handled env 0 state'.time type
              ⟨[], .ok ((none, 0),
                { state' with incomingPacket := [] })⟩ :=
          handled_of_inner 0 state'.time type state'
            (inner_refuse state')
        rcases ih { state' with incomingPacket := [] } with
          ⟨events, ending, hRest, hServes⟩
        have hFailed := serves_failed hInner hHandled hServes
        refine ⟨_, ending, ?_, hFailed⟩
        have hGetAll :
            Session.packetGetAll state' =
              ⟨[], .ok ((),
                { state' with incomingPacket := [] })⟩ :=
          rfl
        rw [hRead]
        simp only [andThen_ok, bind_apply, packetSend_apply,
          hGetAll, hRest]
        simp

end Ssh1
