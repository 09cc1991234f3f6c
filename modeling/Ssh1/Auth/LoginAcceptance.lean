import Ssh1.Auth.LoginReplies

/-
  How a login is accepted.

  Behind an accepted attempt there is a request that the
  client has sent, what it carried, and what was answered to
  the questions about it. A forced command is set by the line
  or the password that is accepted; it also stays behind a
  line whose options were refused later on.

  Main declarations:
    * `Attempt.Permitted`
    * `ChallengeAnswered`, `LineAnswered`
    * `Accepted`, `SetsCommand`, `LeftBehind`
    * `LinesJudged`
    * `authRsa_judged`
-/

------------------------------------------------------------
-- Permitted Attempts
------------------------------------------------------------

namespace Ssh1

namespace Attempt

/- The authentication type of an attempt. -/
def type : Attempt → AuthenticationType
| emptyPassword => .password
| rhosts _ => .rhosts
| rhostsRsa _ _ => .rhostsRsa
| rsa _ => .rsa
| tis _ => .tis
| password _ => .password

/-
  The type of the request that makes an attempt. The empty
  password is tried without a request.
-/
def requestType : Attempt → Option UInt8
| emptyPassword => none
| rhosts _ => some sshCmsgAuthRhosts
| rhostsRsa _ _ => some sshCmsgAuthRhostsRsa
| rsa _ => some sshCmsgAuthRsa
| tis _ => some sshCmsgAuthTis
| password _ => some sshCmsgAuthPassword

/-
  The method of the attempt is enabled, and its side
  conditions are met.
-/
def Permitted (env : LoginEnv) : Attempt → Prop
| emptyPassword => env.options.passwordAuthentication = true
| rhosts _ =>
    env.options.rhostsAuthentication = true ∧
      env.privilegedPort = true
| rhostsRsa _ _ =>
    env.options.rhostsRsaAuthentication = true ∧
      env.privilegedPort = true ∧
      env.cipherType ≠ .none ∧ env.cipherType ≠ .arcfour
| rsa _ => env.options.rsaAuthentication = true
| tis _ =>
    env.haveTis = true ∧ env.options.tisAuthentication = true
| password _ =>
    env.options.passwordAuthentication = true ∧
      env.cipherType ≠ .none

end Attempt

end Ssh1

------------------------------------------------------------
-- Answered Challenges
------------------------------------------------------------

namespace Ssh1

open QuotedText (Text)

/-
  In events that begin at the time `start`, the challenge for
  a key is sent, and the next packet of the client carries
  the digest that answers it.
-/
def ChallengeAnswered
    (env : LoginEnv)
    (start : Nat)
    (events : List Exchange)
    (key : AuthorizedKey) : Prop :=
  ∃ early challenge payload skipped response late,
    events =
        early ++
          .sent ⟨sshSmsgAuthRsaChallenge, payload⟩ ::
            (skipped ++
              .received
                (.packet (sshCmsgAuthRsaResponse ::
                  response)) :: late) ∧
      env.rsaChallenge (start + receivedCount early) key =
        .ok challenge ∧
      bufferPutMpInt [] challenge.encrypted = .ok payload ∧
      (∀ event ∈ skipped, event.isReceived = true) ∧
      16 ≤ response.length ∧
      response.take 16 = challenge.digest

/- Events before and after the dialog do not matter. -/
theorem ChallengeAnswered.surround
    {env : LoginEnv}
    {start : Nat}
    {events : List Exchange}
    {key : AuthorizedKey}
    (before after : List Exchange)
    (hAnswered :
      ChallengeAnswered env
        (start + receivedCount before) events key) :
    ChallengeAnswered env start (before ++ (events ++ after))
      key := by
  rcases hAnswered with
    ⟨early, challenge, payload, skipped, response, late, rfl,
      hChallenge, hRest⟩
  refine ⟨before ++ early, challenge, payload, skipped,
    response, late ++ after, by simp, ?_, hRest⟩
  rw [receivedCount_append, ← Nat.add_assoc]
  exact hChallenge

/- What the options of a line come to for a peer. -/
def lineOptions
    (peer : Peer)
    (line : Text) : List KeyOption × Bool :=
  match (splitOptions (skipBlanks (lineText line))).1 with
  | none => ([], true)
  | some opts => scanOptions peer (opts.length + 1) opts

/- The options of a line have a command that takes effect. -/
def CarriesCommand
    (peer : Peer)
    (line : Text) : Prop :=
  ∃ command, .command command ∈ (lineOptions peer line).1

/-
  A line of the file that is found at the time `time` holds
  the key with the modulus `n`, and in events that begin at
  the time `start` the challenge for it is answered.
-/
structure LineAnswered
    (env : LoginEnv)
    (time n start : Nat)
    (events : List Exchange)
    (line : Text) : Prop where
  ofFile : line ∈ (env.rsaSurroundings time).pieces
  notComment :
    isEmptyOrComment (skipBlanks (lineText line)) = false
  holdsKey : ∃ key comment,
    authRsaReadKey
        (splitOptions (skipBlanks (lineText line))).2 =
      some (key, comment) ∧
    key.n = n ∧
    ChallengeAnswered env start events key

/- An answered line stays so in a longer run. -/
theorem LineAnswered.surround
    {env : LoginEnv}
    {time n start : Nat}
    {events : List Exchange}
    {line : Text}
    (before after : List Exchange)
    (hLine :
      LineAnswered env time n
        (start + receivedCount before) events line) :
    LineAnswered env time n start
      (before ++ (events ++ after)) line := by
  rcases hLine.holdsKey with
    ⟨key, comment, hKey, hModulus, hAnswered⟩
  exact ⟨hLine.ofFile, hLine.notComment, key, comment, hKey,
    hModulus, hAnswered.surround before after⟩

/-
  The challenge for a line is answered, a command of its
  options takes effect, and the options are refused.
-/
structure LineRefused
    (env : LoginEnv)
    (time n start : Nat)
    (events : List Exchange)
    (line : Text) : Prop where
  answered : LineAnswered env time n start events line
  refused :
    (lineOptions (env.rsaSurroundings time).peer
      line).2 = false
  carries :
    CarriesCommand (env.rsaSurroundings time).peer line

/-
  Events that begin at the time `start` go on to an attempt
  that refuses a line but leaves its command behind.
-/
def LeftBehind
    (env : LoginEnv)
    (start : Nat)
    (events : List Exchange) : Prop :=
  ∃ early late n line,
    events = early ++ late ∧
      LineRefused env (start + receivedCount early) n
        (start + receivedCount early) late line

/- What was left behind stays so in a longer run. -/
theorem LeftBehind.surround
    {env : LoginEnv}
    {start : Nat}
    {events : List Exchange}
    (before after : List Exchange)
    (hLeft :
      LeftBehind env (start + receivedCount before) events) :
    LeftBehind env start (before ++ (events ++ after)) := by
  rcases hLeft with
    ⟨early, late, n, line, rfl, hRefused⟩
  refine ⟨before ++ early, late ++ after, n, line, by simp,
    ?_⟩
  rw [receivedCount_append, ← Nat.add_assoc]
  exact ⟨hRefused.answered.surround [] after,
    hRefused.refused, hRefused.carries⟩

end Ssh1

------------------------------------------------------------
-- Accepted Attempts
------------------------------------------------------------

namespace Ssh1

open QuotedText (Text)

/-
  A password that `auth_password` takes for an account without
  a password, whose user must set one first.
-/
structure EmptyPasswordChange
    (env : LoginEnv)
    (time : Nat)
    (password : List UInt8) : Prop where
  permitted : env.options.permitEmptyPasswd = true
  forced : env.options.forcedEmptyPasswdChange = true
  empty : (cString password).isEmpty = true
  noPassword : ∃ messages correctPasswd identical,
    env.passwordLookup time password =
        .stored messages correctPasswd identical ∧
      (cString correctPasswd).isEmpty = true

/- This sets the forced command, and nothing else does. -/
theorem passwordAnswer_forcedCommand
    {env : LoginEnv}
    {time : Nat}
    {password : List UInt8}
    (hForced :
      (env.passwordAnswer time password).forcedCommand ≠
        none) :
    EmptyPasswordChange env time password ∧
      (env.passwordAnswer time password).verdict =
        .ok true := by
  unfold LoginEnv.passwordAnswer at hForced ⊢
  simp only at hForced ⊢
  split at hForced
  · exact (hForced rfl).elim
  · rename_i hPermitted
    rw [if_neg hPermitted]
    split at hForced
    · exact (hForced rfl).elim
    · rename_i messages correctPasswd identical hStored
      split at hForced
      · rename_i hEmpty
        rw [if_pos hEmpty]
        split at hForced
        · rename_i hChange
          rw [if_pos hChange]
          refine ⟨⟨?_, hChange, hEmpty.1, messages,
            correctPasswd, identical, hStored, hEmpty.2⟩, rfl⟩
          by_contra hNot
          exact hPermitted ⟨hEmpty.1, hNot⟩
        · exact (hForced rfl).elim
      · exact (hForced rfl).elim

/-
  The request of an attempt has this payload at the time, and
  the questions about it are answered so that the attempt is
  accepted. For an RSA key it is by the line of the file.
-/
def Accepted
    (env : LoginEnv)
    (time : Nat)
    (payload : Buffer)
    (events : List Exchange)
    (line : Text) : Attempt → Prop
| .emptyPassword =>
    (env.passwordAnswer time []).verdict = .ok true
| .rhosts clientUser =>
    (∃ rest,
      bufferGetString payload = .ok (clientUser, rest)) ∧
    (env.authRhosts time clientUser).verdict = .ok true
| .rhostsRsa clientUser key =>
    (∃ rest₁ rest₂ rest₃ rest₄,
      bufferGetString payload = .ok (clientUser, rest₁) ∧
      bufferGetInt rest₁ = .ok (key.bits, rest₂) ∧
      bufferGetMpInt rest₂ = .ok (key.e, rest₃) ∧
      bufferGetMpInt rest₃ = .ok (key.n, rest₄)) ∧
    (env.authRhosts time clientUser).verdict = .ok true ∧
    (env.hostKeyKnown time key).verdict = .ok true ∧
    ChallengeAnswered env time events key
| .rsa n =>
    (∃ rest, bufferGetMpInt payload = .ok (n, rest)) ∧
    LineAnswered env time n time events line ∧
    (lineOptions (env.rsaSurroundings time).peer
      line).2 = true
| .tis password =>
    ∃ early prompt response late rest,
      events =
          early ++
            .received
              (.packet (sshCmsgAuthTisResponse ::
                response)) :: late ∧
        .sent ⟨sshSmsgAuthTisChallenge, prompt⟩ ∈ early ∧
        bufferGetString response = .ok (password, rest) ∧
        env.tisVerdict (time + receivedCount early + 1)
          password = .ok true
| .password password =>
    (∃ rest,
      bufferGetString payload = .ok (password, rest)) ∧
    (env.passwordAnswer time password).verdict = .ok true

/- The accepted attempt itself sets the forced command. -/
def SetsCommand
    (env : LoginEnv)
    (time : Nat)
    (line : Text) : Attempt → Prop
| .emptyPassword => EmptyPasswordChange env time []
| .rhosts _ => False
| .rhostsRsa _ _ => False
| .rsa _ =>
    CarriesCommand (env.rsaSurroundings time).peer line
| .tis _ => False
| .password password =>
    EmptyPasswordChange env time password

/- What follows on the acceptance does not matter. -/
theorem Accepted.surround
    {env : LoginEnv}
    {time : Nat}
    {payload : Buffer}
    {events : List Exchange}
    {line : Text}
    {attempt : Attempt}
    {before : List Exchange}
    (after : List Exchange)
    (hBefore : receivedCount before = 0)
    (hAccepted :
      Accepted env time payload events line attempt) :
    Accepted env time payload (before ++ (events ++ after))
      line attempt := by
  have hStart : time + receivedCount before = time := by
    rw [hBefore, Nat.add_zero]
  cases attempt with
  | emptyPassword => exact hAccepted
  | rhosts clientUser => exact hAccepted
  | rhostsRsa clientUser key =>
      rcases hAccepted with
        ⟨hFields, hRhosts, hKnown, hAnswered⟩
      rw [← hStart] at hAnswered
      exact ⟨hFields, hRhosts, hKnown,
        hAnswered.surround before after⟩
  | rsa n =>
      rcases hAccepted with
        ⟨hField, hLine, hOptions⟩
      refine ⟨hField, LineAnswered.surround before after ?_,
        hOptions⟩
      rwa [hStart]
  | tis password =>
      rcases hAccepted with
        ⟨early, prompt, response, late, rest, rfl, hPrompt,
          hString, hVerdict⟩
      refine ⟨before ++ early, prompt, response,
        late ++ after, rest, by simp,
        List.mem_append_right _ hPrompt, hString, ?_⟩
      rwa [receivedCount_append, hBefore, Nat.zero_add]
  | password password => exact hAccepted

end Ssh1

------------------------------------------------------------
-- Plain Computations
------------------------------------------------------------

namespace Ssh1

open Recorded

/-
  What most computations do: time goes on with what is
  received, and nothing is restricted.
-/
structure Plain
    (state : LoginState)
    (events : List Exchange)
    (state' : LoginState) : Prop where
  time : state'.time = state.time + receivedCount events
  restrictions : state'.restrictions = state.restrictions

/- Two plain pieces are plain together. -/
theorem plain_composes : Composes Plain where
  refl := fun _ => ⟨rfl, rfl⟩
  trans := by
    intro x y z events events' hFirst hRest
    refine ⟨?_, hRest.restrictions.trans hFirst.restrictions⟩
    rw [hRest.time, hFirst.time, receivedCount_append,
      Nat.add_assoc]

namespace Session

open Exchange

theorem plain_record
    {event : Exchange}
    (hEvent : event.isReceived = false) :
    Leads Plain (record event : Session Unit) := by
  refine Leads.record fun state => ⟨?_, rfl⟩
  rw [receivedCount, List.countP_singleton, hEvent]
  rfl

/- Nothing that is sent is received. -/
theorem plain_packetSend
    (packet : ServerPacket) :
    Leads Plain (packetSend packet) :=
  plain_record rfl

/- Time goes on with the packets that are read. -/
theorem plain_packetRead : Leads Plain packetRead := by
  intro state type state' hResult
  have hRead := packetRead_ok hResult
  exact ⟨hRead.time, hRead.restrictions⟩

theorem plain_packetSendDebug
    (env : LoginEnv)
    (messages : List String) :
    Leads Plain (packetSendDebug env messages) := by
  induction messages with
  | nil => exact Leads.pure plain_composes _
  | cons message messages ih =>
      unfold packetSendDebug
      split
      · exact (plain_packetSend _).bind plain_composes
          fun _ => ih
      · exact ih

/- A refusal changes nothing. -/
theorem plain_refuse : Leads Plain refuse :=
  (Leads.modify fun _ => ⟨rfl, rfl⟩).bind plain_composes
    fun _ => Leads.pure plain_composes _

/- Debug messages change nothing, and take nothing. -/
theorem packetSendDebug_ok
    {env : LoginEnv}
    {messages : List String}
    {state state' : LoginState}
    (hResult :
      (packetSendDebug env messages state).result =
        .ok ((), state')) :
    state' = state ∧
      receivedCount
        (packetSendDebug env messages state).events = 0 := by
  induction messages with
  | nil =>
      cases hResult
      exact ⟨rfl, rfl⟩
  | cons message messages ih =>
      unfold packetSendDebug at hResult ⊢
      split at hResult
      · rename_i hOn
        rw [if_pos hOn]
        rcases bind_ok hResult with
          ⟨_, _, hSent, hRest, hEvents⟩
        cases hSent
        rw [hEvents, receivedCount_append, (ih hRest).2]
        exact ⟨(ih hRest).1, rfl⟩
      · rename_i hOff
        rw [if_neg hOff]
        exact ih hResult

/- A question is answered as the environment says. -/
theorem consult_ok
    {env : LoginEnv}
    {question : Nat → Answer}
    {state state' : LoginState}
    {accepted : Bool}
    (hResult :
      (consult env question state).result =
        .ok (accepted, state')) :
    (question state.time).verdict = .ok accepted ∧
      state' = state ∧
      receivedCount (consult env question state).events =
        0 := by
  unfold consult at hResult ⊢
  rcases bind_ok hResult with
    ⟨_, _, hGet, hAsked, hEvents⟩
  cases hGet
  rw [hEvents]
  rcases bind_ok hAsked with
    ⟨_, _, hDebug, hVerdict, hEvents'⟩
  rw [hEvents']
  rcases packetSendDebug_ok hDebug with
    ⟨rfl, hQuiet⟩
  rcases ofOutcome_ok hVerdict with
    ⟨hAnswer, rfl, hNone⟩
  refine ⟨hAnswer, rfl, ?_⟩
  rw [receivedCount_append, receivedCount_append, hQuiet,
    hNone]
  rfl

/- The packet that is expected is read. -/
theorem packetReadExpect_ok
    {expected : UInt8}
    {state state' : LoginState}
    (hResult :
      (packetReadExpect expected state).result =
        .ok ((), state')) :
    ReadsPacket state
      (packetReadExpect expected state).events expected
      state' := by
  unfold packetReadExpect at hResult ⊢
  rcases bind_ok hResult with
    ⟨type, state₁, hRead, hChecked, hEvents⟩
  rw [hEvents]
  split at hChecked
  · cases hChecked
  · rename_i hExpected
    rw [if_neg hExpected]
    cases hChecked
    rw [not_not] at hExpected
    rw [pure_apply, List.append_nil]
    exact hExpected ▸ packetRead_ok hRead

/- The dialog, and what it means that it succeeds. -/
theorem authRsaChallengeDialog_ok
    {env : LoginEnv}
    {key : AuthorizedKey}
    {state state' : LoginState}
    {accepted : Bool}
    (hResult :
      (authRsaChallengeDialog env key state).result =
        .ok (accepted, state')) :
    Plain state (authRsaChallengeDialog env key state).events
        state' ∧
      (accepted = true →
        ChallengeAnswered env state.time
          (authRsaChallengeDialog env key state).events
          key) := by
  unfold authRsaChallengeDialog at hResult ⊢
  rcases bind_ok hResult with
    ⟨_, _, hGet, hAsk, hEvents₁⟩
  cases hGet
  rcases bind_ok hAsk with
    ⟨challenge, _, hAsked, hPut, hEvents₂⟩
  rcases ofOutcome_ok hAsked with
    ⟨hChallenge, rfl, hNone₂⟩
  rcases bind_ok hPut with
    ⟨payload, _, hBuilt, hSend, hEvents₃⟩
  rcases ofOutcome_ok hBuilt with
    ⟨hPayload, rfl, hNone₃⟩
  rcases bind_ok hSend with
    ⟨_, _, hSent, hWait, hEvents₄⟩
  cases hSent
  rcases bind_ok hWait with
    ⟨_, state₁, hExpect, hTake, hEvents₅⟩
  rcases bind_ok hTake with
    ⟨digest, _, hTaken, hCompared, hEvents₆⟩
  rcases packetGet_ok hTaken with
    ⟨rest, hResponse, rfl, hNone₆⟩
  cases hCompared
  have hRead := packetReadExpect_ok hExpect
  rw [hEvents₁, hEvents₂, hNone₂, hEvents₃, hNone₃, hEvents₄,
    hEvents₅, hEvents₆, hNone₆]
  rcases hRead.last with
    ⟨skipped, hSkipped⟩
  simp only [get_apply, packetSend_apply, pure_apply,
    List.nil_append, List.append_nil]
  refine ⟨⟨?_, hRead.restrictions⟩, ?_⟩
  · rw [receivedCount_append, hRead.time]
    simp [receivedCount, isReceived]
  · intro hDigest
    refine ⟨[], challenge, payload, skipped,
      state₁.incomingPacket, [], ?_, hChallenge, hPayload, ?_,
      ?_⟩
    · rw [hSkipped]
      rfl
    · intro event hEvent
      apply hRead.onlyReceived
      rw [hSkipped]
      exact List.mem_append_left _ hEvent
    · unfold bufferGet at hResponse
      split at hResponse
      · cases hResponse
      · rename_i hLength
        cases hResponse
        exact ⟨Nat.not_lt.mp hLength, of_decide_eq_true hDigest⟩

end Session

end Ssh1

------------------------------------------------------------
-- RSA Authentication
------------------------------------------------------------

namespace Ssh1

open QuotedText (Text)

/- Options without a command leave the forced command. -/
theorem forcedCommand_after_options
    (state : Restrictions)
    (options : List KeyOption) :
    (options.foldl KeyOption.apply state).forcedCommand =
        state.forcedCommand ∨
      ∃ command, .command command ∈ options := by
  induction options generalizing state with
  | nil => exact Or.inl rfl
  | cons option options ih =>
      rcases ih (option.apply state) with
        hSame | ⟨command, hLater⟩
      · cases option with
        | command text =>
            exact Or.inr ⟨text, List.mem_cons_self⟩
        | noPortForwarding => exact Or.inl hSame
        | noAgentForwarding => exact Or.inl hSame
        | noX11Forwarding => exact Or.inl hSame
        | noPty => exact Or.inl hSame
        | idleTimeout seconds => exact Or.inl hSame
        | environment text => exact Or.inl hSame
        | fromHosts patterns => exact Or.inl hSame
      · exact Or.inr ⟨command, List.mem_cons_of_mem _ hLater⟩

/-
  What comes of the lines of the file that was found at the
  time: a line is accepted or none is, and the command of a
  line that was refused stays.
-/
structure LinesJudged
    (env : LoginEnv)
    (time n : Nat)
    (state : LoginState)
    (events : List Exchange)
    (accepted : Bool)
    (state' : LoginState) : Prop where
  goesOn : state'.time = state.time + receivedCount events
  command :
    state'.restrictions.forcedCommand =
        state.restrictions.forcedCommand ∨
      (∃ line, LineRefused env time n state.time events line) ∨
      accepted = true
  accepts : accepted = true →
    ∃ line,
      LineAnswered env time n state.time events line ∧
        (lineOptions (env.rsaSurroundings time).peer
          line).2 = true ∧
        (CarriesCommand (env.rsaSurroundings time).peer line ∨
          state'.restrictions.forcedCommand =
            state.restrictions.forcedCommand ∨
          ∃ line',
            LineRefused env time n state.time events line')

/- A refused line stays so in a longer run. -/
theorem LineRefused.surround
    {env : LoginEnv}
    {time n start : Nat}
    {events : List Exchange}
    {line : Text}
    (before after : List Exchange)
    (hLine :
      LineRefused env time n
        (start + receivedCount before) events line) :
    LineRefused env time n start
      (before ++ (events ++ after)) line :=
  ⟨hLine.answered.surround before after, hLine.refused,
    hLine.carries⟩

namespace LinesJudged

variable
  {env : LoginEnv}
  {time n : Nat}
  {state state' state'' : LoginState}
  {events events' : List Exchange}
  {accepted : Bool}

/- Nothing is judged. -/
theorem of_plain
    (hPlain : Plain state events state') :
    LinesJudged env time n state events false state' :=
  ⟨hPlain.time, Or.inl (by rw [hPlain.restrictions]), nofun⟩

/- Lines that are refused come before the other ones. -/
theorem next
    (hFirst : LinesJudged env time n state events false state')
    (hRest :
      LinesJudged env time n state' events' accepted state'') :
    LinesJudged env time n state (events ++ events') accepted
      state'' := by
  have hFirstLine : ∀ line,
      LineRefused env time n state.time events line →
        LineRefused env time n state.time (events ++ events')
          line :=
    fun line hLine => hLine.surround [] events'
  have hRestLine : ∀ line,
      LineRefused env time n state'.time events' line →
        LineRefused env time n state.time (events ++ events')
          line := by
    intro line hLine
    rw [hFirst.goesOn] at hLine
    have hBoth := hLine.surround events []
    rwa [List.append_nil] at hBoth
  refine ⟨?_, ?_, ?_⟩
  · rw [hRest.goesOn, hFirst.goesOn, receivedCount_append,
      Nat.add_assoc]
  · rcases hRest.command with
      hSame | ⟨line, hLine⟩ | hAccepted
    · rw [hSame]
      rcases hFirst.command with
        hSame' | ⟨line, hLine⟩ | hNot
      · exact Or.inl hSame'
      · exact Or.inr (Or.inl ⟨line, hFirstLine line hLine⟩)
      · cases hNot
    · exact Or.inr (Or.inl ⟨line, hRestLine line hLine⟩)
    · exact Or.inr (Or.inr hAccepted)
  · intro hAccepted
    rcases hRest.accepts hAccepted with
      ⟨line, hLine, hOptions, hCommand⟩
    rw [hFirst.goesOn] at hLine
    have hBoth := hLine.surround events []
    rw [List.append_nil] at hBoth
    refine ⟨line, hBoth, hOptions, ?_⟩
    rcases hCommand with
      hCarries | hSame | ⟨line', hLine'⟩
    · exact Or.inl hCarries
    · rw [hSame]
      rcases hFirst.command with
        hSame' | ⟨line', hLine'⟩ | hNot
      · exact Or.inr (Or.inl hSame')
      · exact Or.inr (Or.inr ⟨line',
          hFirstLine line' hLine'⟩)
      · cases hNot
    · exact Or.inr (Or.inr ⟨line', hRestLine line' hLine'⟩)

/- What follows on the lines is plain. -/
theorem finish
    (hJudged :
      LinesJudged env time n state events accepted state')
    (hPlain : Plain state' events' state'') :
    LinesJudged env time n state (events ++ events') accepted
      state'' := by
  refine ⟨?_, ?_, ?_⟩
  · rw [hPlain.time, hJudged.goesOn, receivedCount_append,
      Nat.add_assoc]
  · rw [hPlain.restrictions]
    rcases hJudged.command with
      hSame | ⟨line, hLine⟩ | hAccepted
    · exact Or.inl hSame
    · exact Or.inr (Or.inl ⟨line,
        hLine.surround [] events'⟩)
    · exact Or.inr (Or.inr hAccepted)
  · intro hAccepted
    rw [hPlain.restrictions]
    rcases hJudged.accepts hAccepted with
      ⟨line, hLine, hOptions, hCommand⟩
    refine ⟨line, LineAnswered.surround [] events' hLine,
      hOptions, ?_⟩
    rcases hCommand with
      hCarries | hSame | ⟨line', hLine'⟩
    · exact Or.inl hCarries
    · exact Or.inr (Or.inl hSame)
    · exact Or.inr (Or.inr ⟨line',
        hLine'.surround [] events'⟩)

end LinesJudged

namespace Session

open Recorded Exchange

/- The options of a line are judged and take effect. -/
theorem authRsaOptions_ok
    {peer : Peer}
    {line : Text}
    {found : AuthorizedKey × Text}
    {state state' : LoginState}
    {accepted : Bool}
    (hKey :
      authRsaReadKey
          (splitOptions (skipBlanks (lineText line))).2 =
        some found)
    (hResult :
      (authRsaOptions peer
        (splitOptions (skipBlanks (lineText line))).1
        state).result = .ok (accepted, state')) :
    accepted = (lineOptions peer line).2 ∧
      state' = {
        state with
        restrictions :=
          (lineOptions peer line).1.foldl KeyOption.apply
            state.restrictions } ∧
      (authRsaOptions peer
        (splitOptions (skipBlanks (lineText line))).1
        state).events = [] := by
  unfold lineOptions
  rcases hSplit :
      splitOptions (skipBlanks (lineText line)) with
    ⟨opts, cp⟩
  rw [hSplit] at hKey hResult
  cases opts with
  | none =>
      cases hResult
      exact ⟨rfl, rfl, rfl⟩
  | some opts =>
      rcases @processOptions_eq_scanOptions peer opts _
          state.restrictions (Nat.lt_add_one _)
          (skipOptions_ne_nil hSplit hKey) with
        ⟨left, hOptions, -⟩
      have hRun :
          authRsaOptions peer (some opts) state =
            ⟨[], .ok ((scanOptions peer (opts.length + 1)
              opts).2, {
                state with
                restrictions :=
                  (scanOptions peer (opts.length + 1)
                    opts).1.foldl KeyOption.apply
                      state.restrictions })⟩ := by
        simp only [authRsaOptions, bind_apply, get_apply,
          andThen_ok, hOptions, ofOutcome, pure_apply,
          modify_apply, List.nil_append]
      rw [hRun] at hResult
      cases hResult
      exact ⟨rfl, rfl, congrArg Run.events hRun⟩

/- The options of an answered line decide. -/
theorem LinesJudged.of_options
    {env : LoginEnv}
    {time n : Nat}
    {line : Text}
    {state state' : LoginState}
    {events : List Exchange}
    (hPlain : Plain state events state')
    (hLine : LineAnswered env time n state.time events line) :
    LinesJudged env time n state events
      (lineOptions (env.rsaSurroundings time).peer line).2
      { state' with
        restrictions :=
          (lineOptions (env.rsaSurroundings time).peer
            line).1.foldl KeyOption.apply
              state'.restrictions } := by
  have hCommand := forcedCommand_after_options
    state'.restrictions
    (lineOptions (env.rsaSurroundings time).peer line).1
  rw [hPlain.restrictions] at hCommand
  refine ⟨hPlain.time, ?_, ?_⟩
  · cases hAccepted :
        (lineOptions (env.rsaSurroundings time).peer
          line).2 with
    | true => exact Or.inr (Or.inr rfl)
    | false =>
        rcases hCommand with hSame | hCarries
        · exact Or.inl (by
            simpa only [hPlain.restrictions] using hSame)
        · exact Or.inr (Or.inl ⟨line, hLine, hAccepted,
            hCarries⟩)
  · intro hAccepted
    refine ⟨line, hLine, hAccepted, ?_⟩
    rcases hCommand with hSame | hCarries
    · exact Or.inr (Or.inl (by
        simpa only [hPlain.restrictions] using hSame))
    · exact Or.inl hCarries

/- One line is answered, or refused, or none of the key. -/
theorem authRsaLine_judged
    {env : LoginEnv}
    {time n : Nat}
    {messages : List String}
    {line : Text}
    {state state' : LoginState}
    {accepted : Bool}
    (hLine : line ∈ (env.rsaSurroundings time).pieces)
    (hResult :
      (authRsaLine env time n messages line state).result =
        .ok (accepted, state')) :
    LinesJudged env time n state
      (authRsaLine env time n messages line state).events
      accepted state' := by
  have hPlain := plain_packetSendDebug env messages
  unfold authRsaLine at hResult ⊢
  simp only at hResult ⊢
  split at hResult
  · rename_i hComment
    rw [if_pos hComment]
    cases hResult
    exact LinesJudged.of_plain (plain_composes.refl _)
  rename_i hComment
  rw [if_neg hComment]
  cases hKey :
      authRsaReadKey
        (splitOptions (skipBlanks (lineText line))).2 with
  | none =>
      simp only [hKey] at hResult ⊢
      rcases bind_ok hResult with
        ⟨_, _, hDebug, hReturn, hEvents⟩
      cases hReturn
      rw [hEvents]
      exact LinesJudged.of_plain (plain_composes.trans
        (hPlain _ _ _ hDebug) (plain_composes.refl _))
  | some found =>
      simp only [hKey] at hResult ⊢
      split at hResult
      · rename_i hOther
        rw [if_pos hOther]
        cases hResult
        exact LinesJudged.of_plain (plain_composes.refl _)
      rename_i hModulus
      rw [if_neg hModulus]
      rcases bind_ok hResult with
        ⟨answered, state₁, hDialog, hAfter, hEvents⟩
      rw [hEvents]
      rcases authRsaChallengeDialog_ok hDialog with
        ⟨hTime, hAnswered⟩
      split at hAfter
      · rename_i hTrue
        rw [if_pos hTrue]
        rcases bind_ok hAfter with
          ⟨accepted', state₂, hOptions, hFinish, hEvents'⟩
        rw [hEvents']
        rcases authRsaOptions_ok hKey hOptions with
          ⟨rfl, rfl, hNone⟩
        rcases bind_ok hFinish with
          ⟨_, _, hDebug, hReturn, hEvents''⟩
        cases hReturn
        rw [hNone, hEvents'', pure_apply, List.append_nil,
          List.nil_append]
        refine LinesJudged.finish ?_ (hPlain _ _ _ hDebug)
        exact LinesJudged.of_options hTime
          ⟨hLine, by simpa using hComment, found.1, found.2,
            hKey, not_not.mp hModulus, hAnswered hTrue⟩
      · rename_i hFalse
        rw [if_neg hFalse]
        rcases bind_ok hAfter with
          ⟨_, _, hDebug, hReturn, hEvents'⟩
        cases hReturn
        rw [hEvents', pure_apply, List.append_nil]
        exact (LinesJudged.of_plain hTime).finish
          (hPlain _ _ _ hDebug)

/- By induction on the lines. -/
theorem authRsaLines_judged
    {env : LoginEnv}
    {time n linenum : Nat}
    {lines : List Text}
    {state state' : LoginState}
    {accepted : Bool}
    (hLines :
      lines ⊆ (env.rsaSurroundings time).pieces)
    (hResult :
      (authRsaLines env time n linenum lines state).result =
        .ok (accepted, state')) :
    LinesJudged env time n state
      (authRsaLines env time n linenum lines state).events
      accepted state' := by
  induction lines generalizing linenum state with
  | nil =>
      cases hResult
      exact LinesJudged.of_plain (plain_composes.refl _)
  | cons line lines ih =>
      unfold authRsaLines at hResult ⊢
      rcases List.cons_subset.mp hLines with
        ⟨hLine, hRest⟩
      rcases bind_ok hResult with
        ⟨authenticated, state₁, hFirst, hNext, hEvents⟩
      rw [hEvents]
      have hJudged := authRsaLine_judged hLine hFirst
      cases authenticated with
      | true =>
          cases hNext
          exact hJudged.finish (plain_composes.refl _)
      | false => exact hJudged.next (ih hRest hNext)

/- The file is the one that is found at the time. -/
theorem authRsa_judged
    {env : LoginEnv}
    {n : Nat}
    {state state' : LoginState}
    {accepted : Bool}
    (hResult :
      (authRsa env n state).result = .ok (accepted, state')) :
    LinesJudged env state.time n state
      (authRsa env n state).events accepted state' := by
  unfold authRsa at hResult ⊢
  rcases bind_ok hResult with
    ⟨_, _, hGet, hFile, hEvents⟩
  cases hGet
  rcases bind_ok hFile with
    ⟨_, state₁, hDebug, hScan, hEvents'⟩
  rcases bind_ok hScan with
    ⟨authenticated, state₂, hLines, hTell, hEvents''⟩
  have hFirst := plain_packetSendDebug env _ _ _ _ hDebug
  have hJudged :=
    authRsaLines_judged (List.Subset.refl _) hLines
  rw [hEvents, get_apply, List.nil_append, hEvents', hEvents'']
  refine (LinesJudged.of_plain hFirst).next ?_
  split at hTell
  · rename_i hTrue
    rw [if_pos hTrue]
    rcases bind_ok hTell with
      ⟨_, _, hDebug', hReturn, hEvents₃⟩
    cases hReturn
    rw [hEvents₃, pure_apply, List.append_nil]
    rw [hTrue] at hJudged
    exact hJudged.finish
      (plain_packetSendDebug env _ _ _ _ hDebug')
  · rename_i hFalse
    rw [if_neg hFalse]
    cases hTell
    rw [Bool.not_eq_true] at hFalse
    rw [hFalse] at hJudged
    exact hJudged.finish (plain_composes.refl _)

end Session

end Ssh1
