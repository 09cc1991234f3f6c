import Ssh1.Auth.LoginSilence

/-
  Failed logins with and without an account.

  The two loops read the same packets. A turn tells them
  apart if the request does not fail in silence, or if it
  leaves data unread and a further packet comes. From the
  turns it is read off for whole logins what tells them
  apart.

  Main declarations:
    * `observed_failLoop_iff`
    * `LoginEnv.IsPermitted`
    * `failedLogin_indistinguishable_iff`
-/

------------------------------------------------------------
-- Packets That Are Read
------------------------------------------------------------

namespace Ssh1

open Recorded Session

namespace Session

/- A read from a buffer fails without telling the client. -/
def FailsFatally
    {α : Type}
    (x : Outcome α) : Prop :=
  ∀ halt, x = .error halt → ∃ message, halt = .fatal message

/- A short buffer ends in a fatal. -/
theorem bufferGet_failsFatally
    (buffer : Buffer)
    (len : Nat) :
    FailsFatally (bufferGet buffer len) := by
  intro halt hGet
  unfold bufferGet at hGet
  split at hGet
  · cases hGet
    exact ⟨_, rfl⟩
  · cases hGet

theorem bufferGetChar_failsFatally
    (buffer : Buffer) :
    FailsFatally (bufferGetChar buffer) := by
  intro halt hGet
  unfold bufferGetChar at hGet
  cases hFirst : bufferGet buffer 1 with
  | error halt' =>
      rw [hFirst] at hGet
      cases hGet
      exact bufferGet_failsFatally buffer 1 _ hFirst
  | ok read =>
      rw [hFirst] at hGet
      cases hGet

theorem bufferGetString_failsFatally
    (buffer : Buffer) :
    FailsFatally (bufferGetString buffer) := by
  intro halt hGet
  unfold bufferGetString bufferGetInt at hGet
  cases hFirst : bufferGet buffer 4 with
  | error halt' =>
      rw [hFirst] at hGet
      cases hGet
      exact bufferGet_failsFatally buffer 4 _ hFirst
  | ok read =>
      rw [hFirst] at hGet
      change
        (if get32Bit read.1 > maxStringLength then
          .error (.fatal
            ("Received packet with bad string length " ++
              toString (get32Bit read.1)))
        else
          bufferGet read.2 (get32Bit read.1)) =
            .error halt at hGet
      split at hGet
      · cases hGet
        exact ⟨_, rfl⟩
      · exact bufferGet_failsFatally _ _ _ hGet

/- So does a packet without a type. -/
theorem openPacket_failsFatally
    (body : Buffer) :
    FailsFatally (openPacket body) := by
  intro halt hOpen
  unfold openPacket at hOpen
  rcases FallibleRun.bind_eq_error_iff.mp hOpen with
    hChar | ⟨⟨type, payload⟩, _, hRest⟩
  · exact bufferGetChar_failsFatally body halt hChar
  simp only [] at hRest
  split at hRest
  · rcases FallibleRun.bind_eq_error_iff.mp hRest with
      hString | ⟨_, _, hCause⟩
    · exact bufferGetString_failsFatally payload halt hString
    · cases hCause
      exact ⟨_, rfl⟩
  split at hRest
  · rcases FallibleRun.bind_eq_error_iff.mp hRest with
      hString | ⟨_, _, hSkipped⟩
    · exact bufferGetString_failsFatally payload halt hString
    · cases hSkipped
  split at hRest
  · cases hRest
  · cases hRest

/- Nothing is sent when a packet is taken. -/
theorem takePacket_events
    (body : Buffer)
    (state : LoginState) :
    (takePacket body state).events = [] := by
  rw [takePacket, bind_apply]
  cases hOpen : openPacket body with
  | error halt =>
      rcases openPacket_failsFatally body halt hOpen with
        ⟨message, rfl⟩
      rfl
  | ok read => rfl

end Session

end Ssh1

------------------------------------------------------------
-- Reading On
------------------------------------------------------------

namespace Ssh1

open Recorded Session

namespace Session

/- An arrival ends the reading, or the next one is read. -/
theorem readArrivals_cons
    (state : LoginState)
    (arrival : Arrival)
    (arrivals : List Arrival) :
    let taken :=
      takeArrival arrival
        { state with arrivals, time := state.time + 1 }
    (∃ ending,
      taken.result = .error ending ∧
        readArrivals state (arrival :: arrivals) =
          ⟨.received arrival :: taken.events,
            .error ending⟩) ∨
      (∃ type state',
        taken.result = .ok (some type, state') ∧
          readArrivals state (arrival :: arrivals) =
            ⟨.received arrival :: taken.events,
              .ok (type, state')⟩) ∨
      ∃ state',
        taken.result = .ok (none, state') ∧
          readArrivals state (arrival :: arrivals) =
            ⟨.received arrival :: (taken.events ++
                (readArrivals state' arrivals).events),
              (readArrivals state' arrivals).result⟩ := by
  intro taken
  have hRun :
      ∃ rest : Option UInt8 → Session UInt8,
        readArrivals state (arrival :: arrivals) =
            andThen ⟨[.received arrival], .ok ((),
                { state with
                  arrivals, time := state.time + 1 })⟩
              (fun _ => takeArrival arrival >>= rest) ∧
          (∀ type, rest (some type) = pure type) ∧
          rest none =
            ofRuns fun state => readArrivals state arrivals :=
    ⟨_, rfl, fun _ => rfl, rfl⟩
  rcases hRun with ⟨rest, hRun, hSome, hNone⟩
  rw [hRun, andThen_ok, bind_apply]
  rcases andThen_cases taken rest with
    ⟨ending, hResult, hRest⟩ |
      ⟨found, state', hResult, hRest⟩
  · refine Or.inl ⟨ending, hResult, ?_⟩
    rw [hRest]
    rfl
  · right
    cases found with
    | some type =>
        refine Or.inl ⟨type, state', hResult, ?_⟩
        rw [hRest, hSome]
        simp
    | none =>
        refine Or.inr ⟨state', hResult, ?_⟩
        rw [hRest, hNone]
        rfl

/- Reading from a packet leaves the other packets alone. -/
def SameArrivals
    (state : LoginState)
    (_ : List Exchange)
    (state' : LoginState) : Prop :=
  state'.arrivals = state.arrivals

/- What two pieces keep, they keep together. -/
theorem sameArrivals_composes : Composes SameArrivals where
  refl _ := rfl
  trans hFirst hSecond := hSecond.trans hFirst

theorem leads_haltWith
    {α : Type}
    (halt : Halt) :
    Leads SameArrivals (haltWith halt : Session α) := by
  intro state a state' hResult
  cases halt with
  | disconnect _ => cases hResult
  | fatal _ => cases hResult
  | exit _ => cases hResult
  | assertion => cases hResult
  | outOfBounds => cases hResult
  | diverges => cases hResult

theorem leads_ofOutcome
    {α : Type}
    (x : Outcome α) :
    Leads SameArrivals (ofOutcome x) := by
  cases x with
  | ok a => exact Leads.pure sameArrivals_composes a
  | error halt => exact leads_haltWith halt

theorem leads_setIncomingPacket
    (incomingPacket : Buffer) :
    Leads SameArrivals
      (setIncomingPacket incomingPacket) :=
  Leads.modify fun _ => rfl

/- Taking a packet apart takes no other. -/
theorem leads_takePacket
    (body : Buffer) :
    Leads SameArrivals (takePacket body) := by
  have hComposes := sameArrivals_composes
  refine (leads_ofOutcome _).bind hComposes fun read => ?_
  exact (leads_setIncomingPacket _).bind hComposes
    fun _ => Leads.pure hComposes _

theorem leads_takeArrival
    (arrival : Arrival) :
    Leads SameArrivals (takeArrival arrival) := by
  have hComposes := sameArrivals_composes
  refine (Leads.get hComposes).bind hComposes fun state => ?_
  cases arrival with
  | packet body =>
      simp only []
      split
      · exact leads_haltWith (.disconnect junkMessage)
      · exact leads_takePacket body
  | spoiled reason =>
      simp only []
      split
      · exact leads_haltWith (.disconnect junkMessage)
      · exact leads_haltWith _
  | badLength len => exact leads_haltWith (.disconnect _)
  | closed => exact Leads.stop _
  | readFailed cause => exact Leads.stop _

/- A request is taken from what arrives. -/
theorem length_arrivals_of_readArrivals
    {state state' : LoginState}
    {arrivals : List Arrival}
    {type : UInt8}
    (hResult :
      (readArrivals state arrivals).result =
        .ok (type, state')) :
    state'.arrivals.length < arrivals.length := by
  induction arrivals generalizing state with
  | nil => cases hResult
  | cons arrival arrivals ih =>
      rcases readArrivals_cons state arrival arrivals with
        ⟨ending, _, hRun⟩ | ⟨type', taken, hTaken, hRun⟩ |
          ⟨taken, _, hRun⟩
      · rw [hRun] at hResult
        cases hResult
      · rw [hRun] at hResult
        cases hResult
        have hSame := leads_takeArrival arrival _ _ _ hTaken
        rw [hSame]
        exact Nat.lt_succ_self _
      · rw [hRun] at hResult
        exact Nat.lt_succ_of_lt (ih hResult)

/- Each read takes a packet. -/
theorem length_arrivals_of_packetRead
    {state state' : LoginState}
    {type : UInt8}
    (hResult :
      (packetRead state).result = .ok (type, state')) :
    state'.arrivals.length < state.arrivals.length :=
  length_arrivals_of_readArrivals hResult

/- The next packet of the client comes first, if any. -/
def ReceivesFirst (visible : List Exchange) : Prop :=
  visible = [] ∨
    ∃ arrival rest, visible = .received arrival :: rest

theorem events_readArrivals_cons
    (state : LoginState)
    (arrival : Arrival)
    (arrivals : List Arrival) :
    ∃ rest,
      (readArrivals state (arrival :: arrivals)).events =
        .received arrival :: rest := by
  rcases readArrivals_cons state arrival arrivals with
    ⟨_, _, hRun⟩ | ⟨_, _, _, hRun⟩ | ⟨_, _, hRun⟩
  · exact ⟨_, by rw [hRun]⟩
  · exact ⟨_, by rw [hRun]⟩
  · exact ⟨_, by rw [hRun]⟩

/- The first event is what was received. -/
theorem receivesFirst_readArrivals
    (state : LoginState)
    (arrivals : List Arrival) :
    ReceivesFirst
      (seen (readArrivals state arrivals).events) := by
  cases arrivals with
  | nil => exact Or.inl rfl
  | cons arrival arrivals =>
      rcases events_readArrivals_cons state arrival
          arrivals with
        ⟨rest, hEvents⟩
      rw [hEvents]
      exact Or.inr ⟨arrival, _, rfl⟩

/- A request comes with a packet. -/
theorem received_of_readArrivals
    {state state' : LoginState}
    {arrivals : List Arrival}
    {events : List Exchange}
    {type : UInt8}
    (hRead :
      readArrivals state arrivals =
        ⟨events, .ok (type, state')⟩) :
    ∃ arrival rest,
      seen events = .received arrival :: rest := by
  cases arrivals with
  | nil => cases hRead
  | cons arrival arrivals =>
      rcases events_readArrivals_cons state arrival
          arrivals with
        ⟨rest, hEvents⟩
      rw [hRead] at hEvents
      cases hEvents
      exact ⟨arrival, _, rfl⟩

end Session

end Ssh1

------------------------------------------------------------
-- Turns of the Loops
------------------------------------------------------------

namespace Ssh1

open Recorded Session

namespace Session

/- The loop after the answer to a request. -/
def goOn
    (env : LoginEnv)
    (fuel : Nat)
    (answer : Option AuthenticationType × Nat) :
    Session AuthenticationType :=
  match answer.1 with
  | some authenticationType => pure authenticationType
  | none => do
      packetSend failurePacket
      authenticationLoop env fuel answer.2

end Session

variable {state state' : LoginState}
variable {events : List Exchange}
variable {type : UInt8}

/- A run that ends at the read ends there. -/
theorem readRequest_of_ended
    {ending : Ending}
    (hRead : packetRead state = ⟨events, .error ending⟩) :
    readRequest state = ⟨events, .error ending⟩ := by
  rw [readRequest, bind_apply, hRead, andThen_error]

/- The request that was read is noted. -/
theorem readRequest_of_read
    (hRead :
      packetRead state = ⟨events, .ok (type, state')⟩) :
    readRequest state =
      ⟨events ++ [.request state'.time type],
        .ok (type, state')⟩ := by
  rw [readRequest, bind_apply, hRead, andThen_ok]
  rfl

/- The loop of failures ends with the read. -/
theorem failLoop_of_ended
    {ending : Ending}
    (hRead : packetRead state = ⟨events, .error ending⟩)
    (fuel : Nat) :
    failLoop (fuel + 1) state = ⟨events, .error ending⟩ := by
  rw [failLoop, bind_apply, readRequest_of_ended hRead,
    andThen_error]

/- The loop of the account ends with the read. -/
theorem authenticationLoop_of_ended
    {ending : Ending}
    (hRead : packetRead state = ⟨events, .error ending⟩)
    (env : LoginEnv)
    (fuel passwordAttempts : Nat) :
    authenticationLoop env (fuel + 1) passwordAttempts
        state =
      ⟨events, .error ending⟩ := by
  rw [authenticationLoop, bind_apply,
    readRequest_of_ended hRead, andThen_error]

/- One turn of the loop of failures, as it is seen. -/
theorem observed_failLoop_of_read
    (hRead :
      packetRead state = ⟨events, .ok (type, state')⟩)
    (fuel : Nat) :
    let rest :=
      observed
        (failLoop fuel { state' with incomingPacket := [] })
    observed (failLoop (fuel + 1) state) =
      (seen events ++ .sent failurePacket :: rest.1,
        rest.2) := by
  have hGetAll :
      Session.packetGetAll state' =
        ⟨[], .ok ((),
          { state' with incomingPacket := [] })⟩ :=
    rfl
  rw [failLoop, bind_apply, readRequest_of_read hRead,
    andThen_ok, bind_apply, hGetAll]
  simp [observed, bind_apply]

/- One turn of the loop of the account. -/
theorem authenticationLoop_of_read
    (hRead :
      packetRead state = ⟨events, .ok (type, state')⟩)
    (env : LoginEnv)
    (fuel passwordAttempts : Nat) :
    let answered :=
      andThen
        (authenticationRequest env passwordAttempts type
          state')
        (goOn env fuel)
    authenticationLoop env (fuel + 1) passwordAttempts
        state =
      ⟨events ++ .request state'.time type ::
          answered.events,
        answered.result⟩ := by
  intro answered
  rw [authenticationLoop, bind_apply,
    readRequest_of_read hRead, andThen_ok, bind_apply]
  simp only [List.append_assoc, List.singleton_append]
  rfl

/- That turn as it is seen. -/
theorem observed_authenticationLoop_of_read
    (hRead :
      packetRead state = ⟨events, .ok (type, state')⟩)
    (env : LoginEnv)
    (fuel passwordAttempts : Nat) :
    let answered :=
      observed
        (andThen
          (authenticationRequest env passwordAttempts type
            state')
          (goOn env fuel))
    observed
        (authenticationLoop env (fuel + 1) passwordAttempts
          state) =
      (seen events ++ answered.1, answered.2) := by
  rw [authenticationLoop_of_read hRead]
  simp [observed]

/- Nothing is seen before a packet is received. -/
theorem receivesFirst_failLoop
    (fuel : Nat)
    (state : LoginState) :
    ReceivesFirst (observed (failLoop fuel state)).1 := by
  cases fuel with
  | zero => exact Or.inl rfl
  | succ fuel =>
      rcases hRead : packetRead state with
        ⟨events, result⟩
      cases result with
      | error ending =>
          have hReceives :=
            receivesFirst_readArrivals state state.arrivals
          change ReceivesFirst
            (seen (packetRead state).events) at hReceives
          rw [hRead] at hReceives
          rw [failLoop_of_ended hRead]
          exact hReceives
      | ok returned =>
          right
          rcases received_of_readArrivals hRead with
            ⟨arrival, rest, hFirst⟩
          rw [observed_failLoop_of_read hRead, hFirst]
          exact ⟨arrival, _, rfl⟩

end Ssh1

------------------------------------------------------------
-- Unread Data
------------------------------------------------------------

namespace Ssh1

open Recorded Session

variable {state : LoginState}
variable {arrival : Arrival}
variable {arrivals : List Arrival}

/- The messages about spoiled packets are other ones. -/
theorem attackPacket_ne_junk :
    disconnectPacket
        "crc32 compensation attack: network attack detected" ≠
      disconnectPacket junkMessage := by
  decide +kernel

theorem checkBytesPacket_ne_junk :
    disconnectPacket "Corrupted check bytes on input." ≠
      disconnectPacket junkMessage := by
  decide +kernel

/-
  With nothing unread there comes another packet, or the end
  without the message about unread data.
-/
theorem packetRead_of_all_read
    (hAllRead : state.incomingPacket = [])
    (hArrivals : state.arrivals = arrival :: arrivals)
    (hGoesOn : ¬ EndsAnyway state.arrivals) :
    ∃ rest,
      seen (packetRead state).events =
          .received arrival :: rest ∧
        (ReceivesFirst rest ∨
          ∃ packet ending,
            rest = [.sent packet] ∧
              packet ≠ disconnectPacket junkMessage ∧
              (packetRead state).result = .error ending) := by
  unfold packetRead
  rw [ofRuns_apply, hArrivals]
  cases arrival with
  | packet body =>
      have hTake :
          takeArrival (.packet body)
              { state with
                arrivals, time := state.time + 1 } =
            takePacket body
              { state with
                arrivals, time := state.time + 1 } := by
        simp [takeArrival, bind_apply, hAllRead]
      have hNone := takePacket_events body
        { state with arrivals, time := state.time + 1 }
      rcases readArrivals_cons state (.packet body)
          arrivals with
        ⟨_, _, hRun⟩ | ⟨_, _, _, hRun⟩ | ⟨state', _, hRun⟩
      · rw [hRun, hTake, hNone]
        exact ⟨[], rfl, Or.inl (Or.inl rfl)⟩
      · rw [hRun, hTake, hNone]
        exact ⟨[], rfl, Or.inl (Or.inl rfl)⟩
      · rw [hRun, hTake, hNone]
        exact ⟨_, rfl,
          Or.inl (receivesFirst_readArrivals state' arrivals)⟩
  | spoiled reason =>
      simp only [readArrivals, readArrival, takeArrival,
        bind_apply, record_apply, get_apply, hAllRead,
        List.length_nil, ne_eq, not_true_eq_false, if_false,
        andThen_ok, List.nil_append]
      cases reason with
      | attack =>
          exact ⟨_, rfl, Or.inr ⟨_, _, rfl,
            attackPacket_ne_junk, rfl⟩⟩
      | checkBytes =>
          exact ⟨_, rfl, Or.inr ⟨_, _, rfl,
            checkBytesPacket_ne_junk, rfl⟩⟩
      | compression message =>
          exact ⟨[], rfl, Or.inl (Or.inl rfl)⟩
  | badLength len =>
      rw [hArrivals] at hGoesOn
      exact (hGoesOn trivial).elim
  | closed =>
      rw [hArrivals] at hGoesOn
      exact (hGoesOn trivial).elim
  | readFailed cause =>
      rw [hArrivals] at hGoesOn
      exact (hGoesOn trivial).elim

/- The fail loop does not end for unread data. -/
theorem failLoop_ne_junk
    (hAllRead : state.incomingPacket = [])
    (hArrivals : state.arrivals = arrival :: arrivals)
    (hGoesOn : ¬ EndsAnyway state.arrivals)
    (fuel : Nat) :
    (observed (failLoop (fuel + 1) state)).1 ≠
      [.received arrival,
        .sent (disconnectPacket junkMessage)] := by
  intro hEnd
  rcases packetRead_of_all_read hAllRead hArrivals
      hGoesOn with
    ⟨rest, hSeen, hRest⟩
  rcases hRead : packetRead state with
    ⟨events, result⟩
  rw [hRead] at hSeen hRest
  cases result with
  | error ending =>
      rw [failLoop_of_ended hRead] at hEnd
      have hJunk := hSeen.symm.trans hEnd
      rcases hRest with
        (hNone | ⟨_, _, hReceives⟩) |
          ⟨packet, _, hSent, hOther, _⟩
      · rw [hNone] at hJunk
        cases hJunk
      · rw [hReceives] at hJunk
        cases hJunk
      · rw [hSent] at hJunk
        cases hJunk
        exact hOther rfl
  | ok returned =>
      rw [observed_failLoop_of_read hRead, hSeen] at hEnd
      rcases hRest with
        (hNone | ⟨_, _, hReceives⟩) | ⟨_, _, _, _, hError⟩
      · rw [hNone] at hEnd
        injection hEnd with _ hSecond
        injection hSecond with hFirst _
        injection hFirst with hPacket
        exact disconnectPacket_ne _ hPacket.symm
      · rw [hReceives] at hEnd
        cases hEnd
      · cases hError

/- Unread data ends the session at the next packet. -/
theorem packetRead_of_unread
    (hUnread : state.incomingPacket ≠ [])
    (hArrivals : state.arrivals = arrival :: arrivals)
    (hGoesOn : ¬ EndsAnyway state.arrivals) :
    packetRead state =
      ⟨[.received arrival,
          .sent (disconnectPacket junkMessage)],
        .error (.halted (.disconnect junkMessage))⟩ := by
  unfold packetRead
  rw [ofRuns_apply, hArrivals]
  rw [hArrivals] at hGoesOn
  cases arrival with
  | packet body =>
      simp [readArrivals, readArrival, takeArrival,
        bind_apply, hUnread]
  | spoiled reason =>
      simp [readArrivals, readArrival, takeArrival,
        bind_apply, hUnread]
  | badLength len => exact (hGoesOn trivial).elim
  | closed => exact (hGoesOn trivial).elim
  | readFailed cause => exact (hGoesOn trivial).elim

/- Some arrivals end the session in any case. -/
theorem packetRead_of_endsAnyway
    (hEnds : EndsAnyway state.arrivals) :
    ∃ events ending,
      ∀ incomingPacket,
        packetRead { state with incomingPacket } =
          ⟨events, .error ending⟩ := by
  unfold packetRead
  cases hArrivals : state.arrivals with
  | nil => exact ⟨[], .waiting, fun _ => rfl⟩
  | cons arrival arrivals =>
      rw [hArrivals] at hEnds
      cases arrival with
      | packet body => exact hEnds.elim
      | spoiled reason => exact hEnds.elim
      | badLength len =>
          let message := "Bad packet length " ++
            toString len ++ "."
          exact ⟨[.received (.badLength len),
              .sent (disconnectPacket message)],
            .halted (.disconnect message), fun _ => rfl⟩
      | closed =>
          exact ⟨[.received .closed], .halted
            (.fatal "Connection closed by remote host."),
            fun _ => rfl⟩
      | readFailed cause =>
          exact ⟨[.received (.readFailed cause)], .halted
            (.fatal ("Read from socket failed: " ++ cause)),
            fun _ => rfl⟩

/- The end of a run is seen whatever it was to return. -/
theorem observed_ended
    {α β : Type}
    (events : List Exchange)
    (ending : Ending) :
    observed
        (⟨events, .error ending⟩ :
          Run Exchange Ending LoginState α) =
      observed
        (⟨events, .error ending⟩ :
          Run Exchange Ending LoginState β) := by
  cases ending with
  | halted halt => rfl
  | waiting => rfl

/- Whether unread data tells the loops apart. -/
theorem observed_unread_iff
    (env : LoginEnv)
    (fuel passwordAttempts : Nat)
    (state : LoginState)
    {left : Buffer}
    (hLeft : left ≠ []) :
    observed
        (failLoop (fuel + 1)
          { state with incomingPacket := [] }) =
      observed
        (authenticationLoop env (fuel + 1) passwordAttempts
          { state with incomingPacket := left }) ↔
      EndsAnyway state.arrivals := by
  constructor
  · intro hSame
    by_contra hGoesOn
    cases hArrivals : state.arrivals with
    | nil =>
        rw [hArrivals] at hGoesOn
        exact hGoesOn trivial
    | cons arrival arrivals =>
        have hJunk :
            packetRead
                { state with incomingPacket := left } =
              ⟨[.received arrival,
                  .sent (disconnectPacket junkMessage)],
                .error
                  (.halted (.disconnect junkMessage))⟩ := by
          apply packetRead_of_unread
          · exact hLeft
          · exact hArrivals
          · exact hGoesOn
        rw [authenticationLoop_of_ended hJunk] at hSame
        have hOther :
            (observed
              (failLoop (fuel + 1)
                { state with incomingPacket := [] })).1 ≠
              [.received arrival,
                .sent (disconnectPacket junkMessage)] := by
          apply failLoop_ne_junk
          · rfl
          · exact hArrivals
          · exact hGoesOn
        exact hOther (congrArg Prod.fst hSame)
  · intro hEnds
    rcases packetRead_of_endsAnyway hEnds with
      ⟨events, ending, hRead⟩
    rw [failLoop_of_ended (hRead []),
      authenticationLoop_of_ended (hRead left)]
    exact observed_ended events ending

end Ssh1

------------------------------------------------------------
-- The Loops
------------------------------------------------------------

namespace Ssh1

open Recorded Session

/- A request that fails in silence leaves one rest. -/
theorem FailsSilently.unique
    {env : LoginEnv}
    {time passwordAttempts : Nat}
    {type : UInt8}
    {payload left left' : Buffer}
    (hLeft :
      FailsSilently env time passwordAttempts type payload
        left)
    (hLeft' :
      FailsSilently env time passwordAttempts type payload
        left') :
    left = left' := by
  unfold FailsSilently at hLeft hLeft'
  -- each method reads its fields one after the other
  grind

/- A request that tells more is not taken for a failure. -/
theorem observed_ne_of_tells
    {env : LoginEnv}
    {fuel : Nat}
    {run : Run Exchange Ending LoginState
      (Option AuthenticationType × Nat)}
    (hTells : Tells run)
    (hFails : ∀ attempt,
      .verdict attempt true ∉
        (andThen run (goOn env fuel)).events)
    {visible : List Exchange}
    (hVisible : ReceivesFirst visible) :
    (observed (andThen run (goOn env fuel))).1 ≠
      .sent failurePacket :: visible := by
  intro hSame
  rcases hTells with
    hReveals | ⟨attempt, hVerdict⟩ |
      ⟨hSeen, attempts, state, hResult⟩
  · rcases hReveals.andThen (goOn env fuel) with
      ⟨packet, rest, hFirst, hPacket⟩ | ⟨hNone, _⟩
    · cases hFirst.symm.trans hSame
      exact hPacket rfl
    · cases hNone.symm.trans hSame
  · exact hFails attempt
      (events_subset_andThen _ _ hVerdict)
  · rcases run with
      ⟨events, result⟩
    change result = .ok ((none, attempts), state) at hResult
    change seen events = _ at hSeen
    subst hResult
    rw [andThen_ok] at hSame
    simp only [observed, seen_append, hSeen, goOn,
      bind_apply, packetSend_apply, andThen_ok, seen_sent,
      List.singleton_append, List.cons.injEq,
      true_and] at hSame
    rcases hVisible with hNone | ⟨_, _, hReceived⟩
    · rw [hNone] at hSame
      cases hSame
    · rw [hReceived] at hSame
      cases hSame

/- A request that fails in silence is a failure. -/
theorem goOn_of_failed
    {run : Run Exchange Ending LoginState
      (Option AuthenticationType × Nat)}
    {attempts : Nat}
    {state : LoginState}
    (hResult : run.result = .ok ((none, attempts), state))
    (env : LoginEnv)
    (fuel : Nat) :
    let rest := authenticationLoop env fuel attempts state
    andThen run (goOn env fuel) =
      ⟨run.events ++ .sent failurePacket :: rest.events,
        rest.result⟩ := by
  rcases run with
    ⟨events, result⟩
  change result = .ok ((none, attempts), state) at hResult
  subst hResult
  rw [andThen_ok]
  simp [goOn, bind_apply]

/- Whether the loops can be told apart. -/
theorem observed_failLoop_iff
    (env : LoginEnv)
    (fuel passwordAttempts : Nat)
    (state : LoginState)
    (hFuel : state.arrivals.length < fuel)
    (hFails : ∀ attempt,
      .verdict attempt true ∉
        (authenticationLoop env fuel passwordAttempts
          state).events) :
    observed (failLoop fuel state) =
        observed
          (authenticationLoop env fuel passwordAttempts
            state) ↔
      FailSilently env fuel passwordAttempts state := by
  induction fuel generalizing passwordAttempts state with
  | zero => exact (Nat.not_lt_zero _ hFuel).elim
  | succ fuel ih =>
      rw [FailSilently]
      rcases hRead : packetRead state with
        ⟨events, result⟩
      cases result with
      | error ending =>
          rw [failLoop_of_ended hRead,
            authenticationLoop_of_ended hRead]
          exact iff_of_true (observed_ended events ending)
            trivial
      | ok returned =>
          rcases returned with
            ⟨type, state'⟩
          have hResult :
              (packetRead state).result =
                .ok (type, state') := by
            rw [hRead]
          have hShorter : state'.arrivals.length < fuel := by
            have hLess := length_arrivals_of_packetRead hResult
            omega
          rw [authenticationLoop_of_read hRead] at hFails
          rw [observed_failLoop_of_read hRead,
            observed_authenticationLoop_of_read hRead]
          simp only [Prod.mk.injEq, List.append_right_inj]
          rcases authenticationRequest_cases env
              passwordAttempts type state' with
            ⟨left, hLeaves, hSeen, hResult⟩ |
              ⟨hNone, hTells⟩
          · rw [goOn_of_failed hResult] at hFails ⊢
            have hFailsOn : ∀ attempt,
                .verdict attempt true ∉
                  (authenticationLoop env fuel
                    (attemptsAfter env passwordAttempts type)
                    { state' with
                      incomingPacket := left }).events := by
              intro attempt hMem
              refine hFails attempt
                (List.mem_append_right _
                  (List.mem_cons_of_mem _
                    (List.mem_append_right _ ?_)))
              exact List.mem_cons_of_mem _ hMem
            have hObserved :
                (observed
                    (failLoop fuel
                      { state' with incomingPacket := [] }) =
                  observed
                    (authenticationLoop env fuel
                      (attemptsAfter env passwordAttempts
                        type)
                      { state' with
                        incomingPacket := left })) ↔
                  if left = [] then
                    FailSilently env fuel
                      (attemptsAfter env passwordAttempts
                        type)
                      { state' with incomingPacket := [] }
                  else
                    EndsAnyway state'.arrivals := by
              split
              · rename_i hAllRead
                subst hAllRead
                exact ih _ _ hShorter hFailsOn
              · rename_i hUnread
                cases fuel with
                | zero => exact (Nat.not_lt_zero _ hShorter).elim
                | succ fuel =>
                    exact observed_unread_iff env fuel _
                      state' hUnread
            simp only [observed, seen_append, hSeen,
              List.nil_append, seen_sent, List.cons.injEq,
              true_and]
            rw [Prod.ext_iff] at hObserved
            refine hObserved.trans ?_
            constructor
            · intro hGoesOn
              exact ⟨left, hLeaves, hGoesOn⟩
            · intro hSilent
              rcases hSilent with
                ⟨left', hLeaves', hGoesOn⟩
              rw [hLeaves.unique hLeaves']
              exact hGoesOn
          · have hOther := observed_ne_of_tells hTells
              (fun attempt hMem => hFails attempt
                (List.mem_append_right _
                  (List.mem_cons_of_mem _ hMem)))
              (receivesFirst_failLoop fuel
                { state' with incomingPacket := [] })
            refine iff_of_false ?_ ?_
            · intro hSame
              exact hOther hSame.1.symm
            · intro hSilent
              rcases hSilent with
                ⟨left, hLeaves, _⟩
              exact hNone ⟨left, hLeaves⟩

end Ssh1

------------------------------------------------------------
-- Logins With and Without an Account
------------------------------------------------------------

namespace Ssh1

open Recorded Session

/- There is an account of this name that may be used. -/
structure LoginEnv.IsPermitted (env : LoginEnv) : Prop where
  shortName : env.user.length ≤ 255
  exists' : env.pwUid.isSome
  allowed : env.userAllowed
  permitted : env.loginPermitted

/- Without an account there is the loop of failures. -/
theorem doAuthentication_of_denied
    {env : LoginEnv}
    (hDenied : ¬ env.IsPermitted) :
    doAuthentication env = doAuthenticationFailLoop := by
  unfold doAuthentication
  split
  · rfl
  · rename_i hLength
    cases hUid : env.pwUid with
    | none => rfl
    | some pwUid =>
        simp only []
        split
        · rfl
        · rename_i hBoth
          rw [not_or, not_not, not_not] at hBoth
          exact (hDenied ⟨Nat.not_lt.mp hLength,
            by rw [hUid]; rfl, hBoth.1, hBoth.2⟩).elim

/- With an account there is its own loop. -/
theorem doAuthentication_of_permitted
    {env : LoginEnv}
    (hPermitted : env.IsPermitted) :
    ∃ pwUid,
      env.pwUid = some pwUid ∧
        doAuthentication env =
          authenticateAccount env pwUid := by
  rcases Option.isSome_iff_exists.mp hPermitted.exists' with
    ⟨pwUid, hUid⟩
  refine ⟨pwUid, hUid, ?_⟩
  unfold doAuthentication
  rw [if_neg (Nat.not_lt.mpr hPermitted.shortName), hUid]
  simp [hPermitted.allowed, hPermitted.permitted]

/- What is seen of a login without an account. -/
theorem observed_failLoops
    (state : LoginState) :
    let rest :=
      observed
        (failLoop (state.arrivals.length + 1) state)
    observed (doAuthenticationFailLoop state) =
      (.sent failurePacket :: rest.1, rest.2) :=
  rfl

/- The empty password is refused in silence, or not so. -/
theorem checkEmptyPassword_cases
    (env : LoginEnv)
    (state : LoginState) :
    ((env.options.passwordAuthentication = true →
        (env.passwordAnswer state.time
          []).toAnswer.IsSilentRefusal env) ∧
      ∃ events,
        seen events = [] ∧
          checkEmptyPassword env state =
            ⟨events, .ok (false, state)⟩) ∨
      ¬ (env.options.passwordAuthentication = true →
          (env.passwordAnswer state.time
            []).toAnswer.IsSilentRefusal env) ∧
        (Reveals (checkEmptyPassword env state) ∨
          .verdict .emptyPassword true ∈
            (checkEmptyPassword env state).events) := by
  unfold checkEmptyPassword
  by_cases hEnabled :
      env.options.passwordAuthentication = true
  · simp only [hEnabled, if_true, true_implies]
    rw [decideOn, bind_apply, record_apply, andThen_ok,
      bind_apply]
    rcases authPassword_refusalCases env [] state with
      ⟨hSilent, hRun⟩ | ⟨hLoud, hReveals | ⟨state', hRun⟩⟩
    · rw [hRun, andThen_ok]
      exact Or.inl ⟨hSilent, _, rfl, rfl⟩
    · exact Or.inr ⟨hLoud, Or.inl
        (Reveals.after rfl (hReveals.andThen _))⟩
    · refine Or.inr ⟨hLoud, Or.inr ?_⟩
      rw [hRun, andThen_ok]
      simp [bind_apply]
  · left
    refine ⟨fun hOn => (hEnabled hOn).elim, [], rfl, ?_⟩
    rw [if_neg hEnabled]
    rfl

/- The same for the loops with what comes before them. -/
theorem observed_authenticate_iff
    (env : LoginEnv)
    (state : LoginState)
    (hFails : ∀ attempt,
      .verdict attempt true ∉
        (authenticate env state).events) :
    observed (doAuthenticationFailLoop state) =
        observed (authenticate env state) ↔
      (env.options.passwordAuthentication = true →
        (env.passwordAnswer state.time
          []).toAnswer.IsSilentRefusal env) ∧
        FailSilently env (state.arrivals.length + 1) 0
          state := by
  rw [observed_failLoops]
  rw [authenticate, bind_apply] at hFails ⊢
  rcases checkEmptyPassword_cases env state with
    ⟨hSilent, events, hSeen, hRun⟩ |
      ⟨hLoud, hReveals | hVerdict⟩
  · rw [hRun] at hFails ⊢
    simp only [andThen_ok, Bool.false_eq_true, if_false,
      bind_apply, packetSend_apply, get_apply,
      List.nil_append, List.singleton_append] at hFails ⊢
    have hLoops := observed_failLoop_iff env
      (state.arrivals.length + 1) 0 state
      (Nat.lt_succ_self _)
      (fun attempt hMem => hFails attempt
        (List.mem_append_right _
          (List.mem_cons_of_mem _ hMem)))
    rw [Prod.ext_iff] at hLoops
    simp only [observed, seen_append, hSeen, List.nil_append,
      seen_sent, Prod.mk.injEq, List.cons.injEq,
      true_and] at hLoops ⊢
    rw [hLoops]
    exact (and_iff_right hSilent).symm
  · refine iff_of_false ?_ fun hSilent => hLoud hSilent.1
    intro hSame
    have hVisible := congrArg Prod.fst hSame
    rcases hReveals.andThen _ with
      ⟨packet, rest, hFirst, hPacket⟩ | ⟨hNone, _⟩
    · cases hVisible.trans hFirst
      exact hPacket rfl
    · cases hVisible.trans hNone
  · exact (hFails .emptyPassword
      (events_subset_andThen _ _ hVerdict)).elim

/- The same login for a name that nobody has. -/
def unknownLogin : LoginEnv :=
  { strictLogin with pwUid := none }

theorem strictLogin_isPermitted : strictLogin.IsPermitted :=
  ⟨by decide, rfl, rfl, rfl⟩

theorem unknownLogin_not_isPermitted :
    ¬ unknownLogin.IsPermitted := by
  intro hPermitted
  cases hPermitted.exists'

/- Whether an attempt was accepted. -/
def Exchange.isAcceptance : Exchange → Bool
| verdict _ true => true
| _ => false

/- No authenticator has accepted. -/
theorem not_accepted
    {events : List Exchange}
    (hNone : events.any Exchange.isAcceptance = false)
    (attempt : Attempt) :
    Exchange.verdict attempt true ∉ events := by
  intro hMem
  have hAny : events.any Exchange.isAcceptance = true :=
    List.any_eq_true.mpr ⟨_, hMem, rfl⟩
  cases hNone.symm.trans hAny

end Ssh1
