import Ssh1.Auth.LoginGate

/-
  What a client learns from logins that fail.

  For a name without an account every request fails. The
  answers tell a client that there is an account if something
  else than a failure comes back. The condition for that not
  to happen is read off the requests and the configuration.

  Main declarations:
    * `observed`
    * `FailsSilently`
    * `Unrevealing`
    * `authenticationRequest_cases`
-/

------------------------------------------------------------
-- Observations
------------------------------------------------------------

namespace Ssh1

open Recorded Session

/- The client knows of the packets of both sides. -/
def Exchange.isSeen : Exchange → Bool
| received _ => true
| sent _ => true
| _ => false

/- The visible part of what happened. -/
def seen (events : List Exchange) : List Exchange :=
  events.filter Exchange.isSeen

/- The server waits for the client. -/
def isWaiting {α : Type} : Except Ending α → Bool
| .error .waiting => true
| _ => false

/-
  What the client sees of a run: the packets, and whether the
  connection is left open.
-/
def observed
    {α : Type}
    (run : Run Exchange Ending LoginState α) :
    List Exchange × Bool :=
  (seen run.events, isWaiting run.result)

@[simp] theorem seen_nil : seen [] = [] :=
  rfl

/- What is seen of two runs, in their order. -/
@[simp] theorem seen_append
    (events events' : List Exchange) :
    seen (events ++ events') =
      seen events ++ seen events' :=
  List.filter_append _ _

@[simp] theorem seen_received
    (arrival : Arrival)
    (events : List Exchange) :
    seen (.received arrival :: events) =
      .received arrival :: seen events :=
  rfl

@[simp] theorem seen_sent
    (packet : ServerPacket)
    (events : List Exchange) :
    seen (.sent packet :: events) =
      .sent packet :: seen events :=
  rfl

/- The client does not see which request is read. -/
@[simp] theorem seen_request
    (time : Nat)
    (type : UInt8)
    (events : List Exchange) :
    seen (.request time type :: events) = seen events :=
  rfl

@[simp] theorem seen_asked
    (attempt : Attempt)
    (events : List Exchange) :
    seen (.asked attempt :: events) = seen events :=
  rfl

/- Nor what an authenticator answered. -/
@[simp] theorem seen_verdict
    (attempt : Attempt)
    (accepted : Bool)
    (events : List Exchange) :
    seen (.verdict attempt accepted :: events) =
      seen events :=
  rfl

end Ssh1

------------------------------------------------------------
-- Silent Failures
------------------------------------------------------------

namespace Ssh1

open QuotedText (Text)

/- A refusal without a debug message. -/
def Answer.IsSilentRefusal
    (env : LoginEnv)
    (answer : Answer) : Prop :=
  answer.verdict = .ok false ∧
    (env.packetDebugOn = true → answer.messages = [])

/- A line that is neither a comment nor has it a key. -/
def LacksKey (line : Text) : Prop :=
  isEmptyOrComment (skipBlanks (lineText line)) = false ∧
    authRsaReadKey
      (splitOptions (skipBlanks (lineText line))).2 = none

/- A line with a key of this modulus. -/
def HoldsModulus (n : Nat) (line : Text) : Prop :=
  isEmptyOrComment (skipBlanks (lineText line)) = false ∧
    ∃ key comment,
      authRsaReadKey
          (splitOptions (skipBlanks (lineText line))).2 =
        some (key, comment) ∧
      key.n = n

/- A walk through such lines has nothing to tell. -/
def LinesSilent
    (env : LoginEnv)
    (n : Nat)
    (messages : Nat → List String) :
    (linenum : Nat) → List Text → Prop
| _, [] => True
| linenum, line :: lines =>
    ¬ HoldsModulus n line ∧
      (LacksKey line → env.packetDebugOn = true →
        messages linenum = []) ∧
      LinesSilent env n messages (linenum + 1) lines

/- No challenge is sent, and no debug message. -/
def RsaSilent
    (env : LoginEnv)
    (time n : Nat) : Prop :=
  (env.packetDebugOn = true → env.rsaMessages time 0 = []) ∧
    LinesSilent env n (env.rsaMessages time) 1
      (env.rsaSurroundings time).pieces

/- The host key of the client does not come into play. -/
def RhostsRsaSilent
    (env : LoginEnv)
    (time : Nat)
    (clientUser : List UInt8)
    (key : AuthorizedKey) : Prop :=
  (env.packetDebugOn = true →
      (env.authRhosts time clientUser).messages = []) ∧
    ((env.authRhosts time clientUser).verdict = .ok false ∨
      (env.authRhosts time clientUser).verdict = .ok true ∧
        (env.hostKeyKnown time key).IsSilentRefusal env)

/- The authentication server asks for no password. -/
def TisSilent (env : LoginEnv) (time : Nat) : Prop :=
  env.tisGreeting time = .ready ∧
    (((env.tisMappedName time).getD env.user).length > 100 ∨
      env.tisReply time = .unknownUser)

/-
  A request with this payload fails without anything else
  being sent, and leaves the given rest of it unread.
-/
def FailsSilently
    (env : LoginEnv)
    (time passwordAttempts : Nat)
    (type : UInt8)
    (payload left : Buffer) : Prop :=
  if type = sshCmsgAuthRhosts then
    if env.options.rhostsAuthentication ∧
        env.privilegedPort then
      ∃ clientUser,
        bufferGetString payload = .ok (clientUser, left) ∧
          (env.authRhosts time clientUser).IsSilentRefusal env
    else
      left = []
  else if type = sshCmsgAuthRhostsRsa then
    if env.options.rhostsRsaAuthentication ∧
        env.privilegedPort ∧
        env.cipherType ≠ .none ∧ env.cipherType ≠ .arcfour then
      ∃ clientUser bits e n rest₁ rest₂ rest₃,
        bufferGetString payload = .ok (clientUser, rest₁) ∧
          bufferGetInt rest₁ = .ok (bits, rest₂) ∧
          bufferGetMpInt rest₂ = .ok (e, rest₃) ∧
          bufferGetMpInt rest₃ = .ok (n, left) ∧
          RhostsRsaSilent env time clientUser ⟨bits, e, n⟩
    else
      left = []
  else if type = sshCmsgAuthRsa then
    if env.options.rsaAuthentication then
      ∃ n,
        bufferGetMpInt payload = .ok (n, left) ∧
          RsaSilent env time n
    else
      left = []
  else if env.haveTis ∧ type = sshCmsgAuthTis then
    if env.options.tisAuthentication then
      TisSilent env time ∧ left = payload
    else
      left = []
  else if type = sshCmsgAuthPassword then
    if env.options.passwordAuthentication ∧
        env.cipherType ≠ .none then
      ∃ password,
        bufferGetString payload = .ok (password, left) ∧
          passwordAttempts < 5 ∧
          (env.passwordAnswer time
            password).toAnswer.IsSilentRefusal env
    else
      left = []
  else
    left = []

/- The password attempts after a request has failed. -/
def attemptsAfter
    (env : LoginEnv)
    (passwordAttempts : Nat)
    (type : UInt8) : Nat :=
  if type = sshCmsgAuthPassword ∧
      env.options.passwordAuthentication ∧
      env.cipherType ≠ .none then
    passwordAttempts + 1
  else
    passwordAttempts

/- The end of the dialogue does not depend on unread data. -/
def EndsAnyway : List Arrival → Prop
| [] => True
| .packet _ :: _ => False
| .spoiled _ :: _ => False
| .badLength _ :: _ => True
| .closed :: _ => True
| .readFailed _ :: _ => True

/-
  Each packet that is read as a request fails silently, and
  leaves nothing unread before the next packet.
-/
def FailSilently
    (env : LoginEnv) :
    (fuel passwordAttempts : Nat) → LoginState → Prop
| 0, _, _ => True
| fuel + 1, passwordAttempts, state =>
    match (Session.packetRead state).result with
    | .error _ => True
    | .ok (type, state') =>
        ∃ left,
          FailsSilently env state'.time passwordAttempts type
            state'.incomingPacket left ∧
          if left = [] then
            FailSilently env fuel
              (attemptsAfter env passwordAttempts type)
              { state' with incomingPacket := [] }
          else
            EndsAnyway state'.arrivals

/- An existing account does not show in the answers. -/
structure Unrevealing
    (env : LoginEnv)
    (state : LoginState) : Prop where
  mayChangeUser :
    env.serverUid = Session.uidRoot ∨
      env.pwUid = some env.serverUid
  emptyPassword :
    env.options.passwordAuthentication = true →
      (env.passwordAnswer state.time
        []).toAnswer.IsSilentRefusal env
  requests :
    FailSilently env (state.arrivals.length + 1) 0 state

end Ssh1

------------------------------------------------------------
-- Telling Runs
------------------------------------------------------------

namespace Ssh1

open QuotedText (Text)

open Recorded Session

/- The first thing that is seen is not a failure. -/
def Reveals
    {α : Type}
    (run : Run Exchange Ending LoginState α) : Prop :=
  (∃ packet rest,
    seen run.events = .sent packet :: rest ∧
      packet ≠ failurePacket) ∨
  seen run.events = [] ∧
    ∃ ending, run.result = .error ending

/- A run that has revealed something has done so. -/
theorem Reveals.andThen
    {α β : Type}
    {run : Run Exchange Ending LoginState α}
    (hReveals : Reveals run)
    (f : α → Session β) :
    Reveals (andThen run f) := by
  rcases andThen_cases run f with
    ⟨halt, hResult, hRun⟩ | ⟨a, state, hResult, hRun⟩
  · rw [hRun]
    rcases hReveals with hShows | ⟨hNone, _⟩
    · exact Or.inl hShows
    · exact Or.inr ⟨hNone, halt, rfl⟩
  · rw [hRun]
    rcases hReveals with
      ⟨packet, rest, hFirst, hPacket⟩ | ⟨_, halt, hError⟩
    · left
      refine ⟨packet, rest ++ seen (f a state).events, ?_,
        hPacket⟩
      rw [seen_append, hFirst]
      rfl
    · rw [hError] at hResult
      cases hResult

/- What comes before may be out of sight. -/
theorem Reveals.after
    {α : Type}
    {run : Run Exchange Ending LoginState α}
    {events : List Exchange}
    (hEvents : seen events = [])
    (hReveals : Reveals run) :
    Reveals ⟨events ++ run.events, run.result⟩ := by
  unfold Reveals
  rw [seen_append, hEvents, List.nil_append]
  exact hReveals

/- Any packet but the failure tells the client something. -/
theorem reveals_packetSend
    {α : Type}
    {packet : ServerPacket}
    (hPacket : packet ≠ failurePacket)
    (f : Unit → Session α)
    (state : LoginState) :
    Reveals ((Session.packetSend packet >>= f) state) := by
  rw [bind_apply]
  exact Reveals.andThen
    (Or.inl ⟨packet, [], rfl, hPacket⟩) f

theorem ne_failurePacket
    {packet : ServerPacket}
    (hType : packet.type ≠ sshSmsgFailure) :
    packet ≠ failurePacket := by
  intro hEq
  exact hType (congrArg ServerPacket.type hEq)

/- A disconnect is not the failure packet. -/
theorem disconnectPacket_ne (message : String) :
    disconnectPacket message ≠ failurePacket := by
  apply ne_failurePacket
  change sshMsgDisconnect ≠ sshSmsgFailure
  decide

/- Nor is a debug message. -/
theorem debugPacket_ne (message : String) :
    debugPacket message ≠ failurePacket := by
  apply ne_failurePacket
  change sshMsgDebug ≠ sshSmsgFailure
  decide

/- A server that ends is seen to end. -/
theorem reveals_haltWith
    {α : Type}
    (halt : Halt)
    (state : LoginState) :
    Reveals ((haltWith halt : Session α) state) := by
  cases halt with
  | disconnect message =>
      exact Or.inl ⟨_, [], rfl, disconnectPacket_ne message⟩
  | fatal message => exact Or.inr ⟨rfl, _, rfl⟩
  | exit message => exact Or.inr ⟨rfl, _, rfl⟩
  | assertion => exact Or.inr ⟨rfl, _, rfl⟩
  | outOfBounds => exact Or.inr ⟨rfl, _, rfl⟩
  | diverges => exact Or.inr ⟨rfl, _, rfl⟩

/- Debug messages are sent, or nothing happens. -/
theorem packetSendDebug_cases
    (env : LoginEnv)
    (messages : List String)
    (state : LoginState) :
    ((env.packetDebugOn = true → messages = []) ∧
      packetSendDebug env messages state =
        ⟨[], .ok ((), state)⟩) ∨
      ¬ (env.packetDebugOn = true → messages = []) ∧
        Reveals (packetSendDebug env messages state) := by
  by_cases hOn : env.packetDebugOn = true
  · cases messages with
    | nil => exact Or.inl ⟨fun _ => rfl, rfl⟩
    | cons message messages =>
        right
        refine ⟨fun hNone => List.cons_ne_nil _ _ (hNone hOn),
          ?_⟩
        simp only [packetSendDebug, hOn, if_true]
        exact reveals_packetSend (debugPacket_ne message) _
          state
  · left
    refine ⟨fun hOn' => (hOn hOn').elim, ?_⟩
    induction messages with
    | nil => rfl
    | cons message messages ih =>
        rw [packetSendDebug, if_neg hOn]
        exact ih

/- An answer comes without a word, or something is seen. -/
theorem consult_cases
    (env : LoginEnv)
    (question : Nat → Answer)
    (state : LoginState) :
    (∃ accepted,
      (question state.time).verdict = .ok accepted ∧
        (env.packetDebugOn = true →
          (question state.time).messages = []) ∧
        consult env question state =
          ⟨[], .ok (accepted, state)⟩) ∨
      ¬ ((∃ accepted,
          (question state.time).verdict = .ok accepted) ∧
          (env.packetDebugOn = true →
            (question state.time).messages = [])) ∧
        Reveals (consult env question state) := by
  have hStart :
      consult env question state =
        andThen
          (packetSendDebug env (question state.time).messages
            state)
          fun _ => ofOutcome (question state.time).verdict := by
    simp [consult, bind_apply]
  rw [hStart]
  rcases packetSendDebug_cases env
      (question state.time).messages state with
    ⟨hQuiet, hRun⟩ | ⟨hLoud, hReveals⟩
  · rw [hRun, andThen_ok, List.nil_append]
    cases hVerdict : (question state.time).verdict with
    | ok accepted =>
        exact Or.inl ⟨accepted, rfl, hQuiet, rfl⟩
    | error halt =>
        right
        refine ⟨?_, reveals_haltWith halt state⟩
        intro hSilent
        rcases hSilent.1 with
          ⟨accepted, hAccepted⟩
        cases hAccepted
  · exact Or.inr ⟨fun hSilent => hLoud hSilent.2,
      hReveals.andThen _⟩

/- A challenge is always seen. -/
theorem reveals_authRsaChallengeDialog
    (env : LoginEnv)
    (key : AuthorizedKey)
    (state : LoginState) :
    Reveals (authRsaChallengeDialog env key state) := by
  unfold authRsaChallengeDialog
  rw [bind_apply, get_apply, andThen_ok]
  refine Reveals.after rfl ?_
  rw [bind_apply]
  cases env.rsaChallenge state.time key with
  | error halt => exact (reveals_haltWith halt state).andThen _
  | ok challenge =>
      rw [ofOutcome, pure_apply, andThen_ok]
      refine Reveals.after rfl ?_
      rw [bind_apply, bufferPutMpInt_ok, ofOutcome,
        pure_apply, andThen_ok]
      refine Reveals.after rfl ?_
      apply reveals_packetSend
      apply ne_failurePacket
      change sshSmsgAuthRsaChallenge ≠ sshSmsgFailure
      decide

end Ssh1

------------------------------------------------------------
-- Authenticators
------------------------------------------------------------

namespace Ssh1

open QuotedText (Text)

open Recorded Session

/- A line is passed over, or something is seen. -/
theorem authRsaLine_cases
    (env : LoginEnv)
    (time n : Nat)
    (messages : List String)
    (line : Text)
    (state : LoginState) :
    ((¬ HoldsModulus n line ∧
        (LacksKey line → env.packetDebugOn = true →
          messages = [])) ∧
      authRsaLine env time n messages line state =
        ⟨[], .ok (false, state)⟩) ∨
      ¬ (¬ HoldsModulus n line ∧
          (LacksKey line → env.packetDebugOn = true →
            messages = [])) ∧
        Reveals
          (authRsaLine env time n messages line
            state) := by
  unfold authRsaLine HoldsModulus LacksKey
  simp only []
  by_cases hComment :
      isEmptyOrComment (skipBlanks (lineText line)) = true
  · left
    simp [hComment]
  · have hLine :
        isEmptyOrComment (skipBlanks (lineText line)) =
          false := by
      simpa using hComment
    rw [if_neg hComment]
    cases hSplit :
        splitOptions (skipBlanks (lineText line)) with
    | mk opts cp =>
        cases hKey : authRsaReadKey cp with
        | none =>
            rcases packetSendDebug_cases env messages state with
              ⟨hQuiet, hRun⟩ | ⟨hLoud, hReveals⟩
            · left
              refine ⟨⟨?_, fun _ => hQuiet⟩, ?_⟩
              · intro hHolds
                rcases hHolds with
                  ⟨_, key, comment, hFound, _⟩
                cases hFound
              · simp only [bind_apply, hRun, andThen_ok]
                rfl
            · right
              refine ⟨?_, ?_⟩
              · intro hSilent
                exact hLoud (hSilent.2 ⟨hLine, rfl⟩)
              · simp only [bind_apply]
                exact hReveals.andThen _
        | some found =>
            rcases found with
              ⟨key, comment⟩
            simp only []
            by_cases hModulus : key.n = n
            · right
              rw [if_neg (not_not.mpr hModulus)]
              refine ⟨?_, ?_⟩
              · intro hSilent
                exact hSilent.1
                  ⟨hLine, key, comment, rfl, hModulus⟩
              · rw [bind_apply]
                exact (reveals_authRsaChallengeDialog env key
                  state).andThen _
            · left
              rw [if_pos hModulus]
              refine ⟨⟨?_, ?_⟩, rfl⟩
              · intro hHolds
                rcases hHolds with
                  ⟨_, key', comment', hFound, hN⟩
                cases hFound
                exact hModulus hN
              · intro hLacks
                cases hLacks.2

/- The lines of the file are silent, or one of them tells. -/
theorem authRsaLines_cases
    (env : LoginEnv)
    (time n linenum : Nat)
    (lines : List Text)
    (state : LoginState) :
    (LinesSilent env n (env.rsaMessages time) linenum lines ∧
      authRsaLines env time n linenum lines state =
        ⟨[], .ok (false, state)⟩) ∨
      ¬ LinesSilent env n (env.rsaMessages time) linenum
          lines ∧
        Reveals
          (authRsaLines env time n linenum lines state) := by
  induction lines generalizing linenum with
  | nil => exact Or.inl ⟨trivial, rfl⟩
  | cons line lines ih =>
      rw [authRsaLines, bind_apply]
      rcases authRsaLine_cases env time n
          (env.rsaMessages time linenum) line state with
        ⟨hSilent, hRun⟩ | ⟨hLoud, hReveals⟩
      · have hRest :
            (andThen
              (authRsaLine env time n
                (env.rsaMessages time linenum) line state)
              fun authenticated =>
                if authenticated then
                  pure true
                else
                  authRsaLines env time n (linenum + 1)
                    lines) =
              authRsaLines env time n (linenum + 1) lines
                state := by
          rw [hRun]
          rfl
        rw [hRest]
        rcases ih (linenum + 1) with
          ⟨hLines, hRunLines⟩ | ⟨hLines, hReveals⟩
        · exact Or.inl
            ⟨⟨hSilent.1, hSilent.2, hLines⟩, hRunLines⟩
        · exact Or.inr
            ⟨fun hAll => hLines hAll.2.2, hReveals⟩
      · right
        refine ⟨fun hAll => hLoud ⟨hAll.1, hAll.2.1⟩, ?_⟩
        exact hReveals.andThen _

/- So it is for the whole file. -/
theorem authRsa_cases
    (env : LoginEnv)
    (n : Nat)
    (state : LoginState) :
    (RsaSilent env state.time n ∧
      Session.authRsa env n state = ⟨[], .ok (false, state)⟩) ∨
      ¬ RsaSilent env state.time n ∧
        Reveals (Session.authRsa env n state) := by
  unfold RsaSilent
  rw [Session.authRsa, bind_apply, get_apply, andThen_ok]
  simp only [List.nil_append, bind_apply]
  rcases packetSendDebug_cases env
      (env.rsaMessages state.time 0) state with
    ⟨hQuiet, hRun⟩ | ⟨hLoud, hReveals⟩
  · rw [hRun]
    simp only [andThen_ok, List.nil_append, bind_apply]
    rcases authRsaLines_cases env state.time n 1
        (env.rsaSurroundings state.time).pieces state with
      ⟨hLines, hRunLines⟩ | ⟨hLines, hReveals⟩
    · left
      refine ⟨⟨hQuiet, hLines⟩, ?_⟩
      rw [hRunLines]
      rfl
    · exact Or.inr ⟨fun hSilent => hLines hSilent.2,
        hReveals.andThen _⟩
  · exact Or.inr ⟨fun hSilent => hLoud hSilent.1,
      hReveals.andThen _⟩

/- So it is for the host key. -/
theorem authRhostsRsa_cases
    (env : LoginEnv)
    (clientUser : List UInt8)
    (key : AuthorizedKey)
    (state : LoginState) :
    (RhostsRsaSilent env state.time clientUser key ∧
      authRhostsRsa env clientUser key state =
        ⟨[], .ok (false, state)⟩) ∨
      ¬ RhostsRsaSilent env state.time clientUser key ∧
        Reveals (authRhostsRsa env clientUser key state) := by
  unfold RhostsRsaSilent Answer.IsSilentRefusal
  rw [authRhostsRsa, bind_apply]
  rcases consult_cases env (env.authRhosts · clientUser)
      state with
    ⟨rhosts, hRhosts, hQuiet, hRun⟩ | ⟨hLoud, hReveals⟩
  · rw [hRun, andThen_ok]
    simp only [List.nil_append]
    cases rhosts with
    | false => exact Or.inl ⟨⟨hQuiet, Or.inl hRhosts⟩, rfl⟩
    | true =>
        simp only [if_true, bind_apply]
        rcases consult_cases env (env.hostKeyKnown · key)
            state with
          ⟨known, hKnown, hQuietKey, hRunKey⟩ |
            ⟨hLoud, hReveals⟩
        · rw [hRunKey, andThen_ok]
          simp only [List.nil_append]
          cases known with
          | false =>
              exact Or.inl ⟨⟨hQuiet, Or.inr ⟨hRhosts, hKnown,
                hQuietKey⟩⟩, rfl⟩
          | true =>
              right
              refine ⟨?_, ?_⟩
              · intro hSilent
                rcases hSilent.2 with
                  hRefused | ⟨_, hUnknown, _⟩
                · cases hRhosts.symm.trans hRefused
                · cases hKnown.symm.trans hUnknown
              · simp only [if_true, bind_apply]
                exact (reveals_authRsaChallengeDialog env key
                  state).andThen _
        · right
          refine ⟨?_, hReveals.andThen _⟩
          intro hSilent
          rcases hSilent.2 with hRefused | ⟨_, hUnknown⟩
          · cases hRhosts.symm.trans hRefused
          · exact hLoud ⟨⟨false, hUnknown.1⟩, hUnknown.2⟩
  · right
    refine ⟨?_, hReveals.andThen _⟩
    intro hSilent
    rcases hSilent.2 with hRefused | ⟨hAccepted, _⟩
    · exact hLoud ⟨⟨false, hRefused⟩, hSilent.1⟩
    · exact hLoud ⟨⟨true, hAccepted⟩, hSilent.1⟩

/- A refused attempt is out of sight. -/
theorem offer_silent
    {attempt : Attempt}
    {authenticator : Session Bool}
    {state : LoginState}
    (type : AuthenticationType)
    (hRun :
      authenticator state = ⟨[], .ok (false, state)⟩) :
    offer attempt type authenticator state =
      ⟨[.asked attempt, .verdict attempt false],
        .ok (none, state)⟩ := by
  simp [offer, decideOn, bind_apply, hRun]

/- What the authenticator reveals, the request reveals. -/
theorem reveals_offer
    {attempt : Attempt}
    {authenticator : Session Bool}
    {state : LoginState}
    (type : AuthenticationType)
    (hReveals : Reveals (authenticator state)) :
    Reveals (offer attempt type authenticator state) := by
  rw [offer, bind_apply]
  apply Reveals.andThen
  rw [decideOn, bind_apply, record_apply, andThen_ok]
  refine Reveals.after rfl ?_
  rw [bind_apply]
  exact hReveals.andThen _

/- An accepted attempt is recorded. -/
theorem offer_accepted
    {attempt : Attempt}
    {authenticator : Session Bool}
    {state state' : LoginState}
    (type : AuthenticationType)
    (hRun :
      authenticator state = ⟨[], .ok (true, state')⟩) :
    .verdict attempt true ∈
      (offer attempt type authenticator state).events := by
  simp [offer, decideOn, bind_apply, hRun]

end Ssh1

------------------------------------------------------------
-- Requests
------------------------------------------------------------

namespace Ssh1

open Recorded Session

/- A request shows more than one failure, or is accepted. -/
def Tells
    {α : Type}
    (run : Run Exchange Ending LoginState
      (Option AuthenticationType × α)) : Prop :=
  Reveals run ∨
    (∃ attempt, .verdict attempt true ∈ run.events) ∨
    seen run.events = [.sent failurePacket] ∧
      ∃ a state, run.result = .ok ((none, a), state)

/-
  A request fails out of sight, leaving something unread, or
  there is no such rest and it tells more.
-/
def SilentOrTells
    {α : Type}
    (Leaves : Buffer → Prop)
    (a : α)
    (state : LoginState)
    (run : Run Exchange Ending LoginState
      (Option AuthenticationType × α)) : Prop :=
  (∃ left,
    Leaves left ∧
      seen run.events = [] ∧
      run.result =
        .ok ((none, a), { state with incomingPacket := left })) ∨
  (¬ ∃ left, Leaves left) ∧ Tells run

/- A request with what is handed on beside its answer. -/
def pairWith
    {α : Type}
    (m : Session (Option AuthenticationType))
    (a : α) : Session (Option AuthenticationType × α) := do
  return (← m, a)

/- The same for a request without what is handed on. -/
def RequestCases
    (Leaves : Buffer → Prop)
    (state : LoginState)
    (run : Run Exchange Ending LoginState
      (Option AuthenticationType)) : Prop :=
  (∃ left events,
    Leaves left ∧ seen events = [] ∧
      run = ⟨events,
        .ok (none, { state with incomingPacket := left })⟩) ∨
  (¬ ∃ left, Leaves left) ∧
    (Reveals run ∨
      (∃ attempt, .verdict attempt true ∈ run.events) ∨
      ∃ state',
        run = ⟨[.sent failurePacket], .ok (none, state')⟩)

/- The value beside the result makes no difference. -/
theorem silentOrTells_pairWith
    {α : Type}
    {Leaves : Buffer → Prop}
    {m : Session (Option AuthenticationType)}
    {state : LoginState}
    (a : α)
    (hCases : RequestCases Leaves state (m state)) :
    SilentOrTells Leaves a state (pairWith m a state) := by
  rw [pairWith, bind_apply]
  rcases hCases with
    ⟨left, events, hLeaves, hSeen, hRun⟩ |
      ⟨hNone, hReveals | ⟨attempt, hVerdict⟩ |
        ⟨state', hRun⟩⟩
  · left
    refine ⟨left, hLeaves, ?_, ?_⟩
    · rw [hRun]
      simpa using hSeen
    · rw [hRun]
      rfl
  · exact Or.inr ⟨hNone, Or.inl (hReveals.andThen _)⟩
  · refine Or.inr ⟨hNone, Or.inr (Or.inl ⟨attempt, ?_⟩)⟩
    rcases andThen_cases (m state) fun authenticated =>
        (pure (authenticated, a) :
          Session (Option AuthenticationType × α)) with
      ⟨halt, _, hRun⟩ | ⟨b, state', _, hRun⟩
    · rw [hRun]
      exact hVerdict
    · rw [hRun]
      exact List.mem_append_left _ hVerdict
  · refine Or.inr ⟨hNone, Or.inr (Or.inr ?_)⟩
    rw [hRun]
    exact ⟨rfl, a, state', rfl⟩

/- Something is read from the packet, or the session ends. -/
theorem packetGet_cases
    {α : Type}
    (get' : Buffer → Outcome (α × Buffer))
    (state : LoginState) :
    (∃ a rest,
      get' state.incomingPacket = .ok (a, rest) ∧
        packetGet get' state =
          ⟨[], .ok (a,
            { state with incomingPacket := rest })⟩) ∨
      (∃ halt,
        get' state.incomingPacket = .error halt) ∧
        Reveals (packetGet get' state) := by
  rw [packetGet, bind_apply, get_apply, andThen_ok,
    bind_apply]
  cases hGet : get' state.incomingPacket with
  | error halt =>
      exact Or.inr ⟨⟨halt, rfl⟩, Reveals.after rfl
        ((reveals_haltWith halt state).andThen _)⟩
  | ok read =>
      rcases read with
        ⟨a, rest⟩
      exact Or.inl ⟨a, rest, rfl, rfl⟩

/- An authenticator refuses in silence, or not so. -/
def RefusalCases
    (Silent : Prop)
    (state : LoginState)
    (run : Run Exchange Ending LoginState Bool) : Prop :=
  (Silent ∧ run = ⟨[], .ok (false, state)⟩) ∨
    ¬ Silent ∧
      (Reveals run ∨
        ∃ state', run = ⟨[], .ok (true, state')⟩)

/- An answer is a silent refusal, or it tells. -/
theorem consult_refusalCases
    (env : LoginEnv)
    (question : Nat → Answer)
    (state : LoginState) :
    RefusalCases ((question state.time).IsSilentRefusal env)
      state (consult env question state) := by
  rcases consult_cases env question state with
    ⟨accepted, hVerdict, hQuiet, hRun⟩ | ⟨hLoud, hReveals⟩
  · cases accepted with
    | false => exact Or.inl ⟨⟨hVerdict, hQuiet⟩, hRun⟩
    | true =>
        refine Or.inr ⟨?_, Or.inr ⟨state, hRun⟩⟩
        intro hRefusal
        cases hVerdict.symm.trans hRefusal.1
  · refine Or.inr ⟨?_, Or.inl hReveals⟩
    intro hRefusal
    exact hLoud ⟨⟨false, hRefusal.1⟩, hRefusal.2⟩

/- Only an accepted password sets the forced command. -/
theorem authPassword_refusalCases
    (env : LoginEnv)
    (password : List UInt8)
    (state : LoginState) :
    RefusalCases
      ((env.passwordAnswer state.time
        password).toAnswer.IsSilentRefusal env)
      state (authPassword env password state) := by
  let question := fun time =>
    (env.passwordAnswer time password).toAnswer
  by_cases hSome :
      (env.passwordAnswer state.time
        password).forcedCommand.isSome = true
  · have hTrue :=
      (passwordAnswer_forcedCommand
        (Option.isSome_iff_ne_none.mp hSome)).2
    have hRun : ∃ state',
        state'.time = state.time ∧
          authPassword env password state =
            consult env question state' := by
      refine ⟨{
        state with
        restrictions := {
          state.restrictions with
          forcedCommand :=
            (env.passwordAnswer state.time
              password).forcedCommand } }, rfl, ?_⟩
      unfold authPassword
      simp only [bind_apply, get_apply, andThen_ok,
        if_pos hSome]
      rfl
    rcases hRun with
      ⟨state', hTime, hRun⟩
    rw [hRun]
    refine Or.inr ⟨?_, ?_⟩
    · intro hRefusal
      cases hTrue.symm.trans hRefusal.1
    · rcases consult_cases env question state' with
        ⟨accepted, hVerdict, _, hAnswer⟩ | ⟨_, hReveals⟩
      · simp only [question, hTime, hTrue, Except.ok.injEq]
          at hVerdict
        exact Or.inr ⟨state', hVerdict ▸ hAnswer⟩
      · exact Or.inl hReveals
  · have hRun :
        authPassword env password state =
          consult env question state := by
      unfold authPassword
      simp only [bind_apply, get_apply, andThen_ok,
        if_neg hSome]
      rfl
    rw [hRun]
    exact consult_refusalCases env question state

/- A run that is silent or reveals is one of the cases. -/
theorem refusalCases_of_reveals
    {Silent : Prop}
    {state : LoginState}
    {run : Run Exchange Ending LoginState Bool}
    (hCases :
      (Silent ∧ run = ⟨[], .ok (false, state)⟩) ∨
        ¬ Silent ∧ Reveals run) :
    RefusalCases Silent state run := by
  rcases hCases with hSilent | ⟨hLoud, hReveals⟩
  · exact Or.inl hSilent
  · exact Or.inr ⟨hLoud, Or.inl hReveals⟩

/- An offer leaves the rest of the packet as it is. -/
theorem requestCases_offer
    {Silent : Prop}
    {authenticator : Session Bool}
    {state : LoginState}
    (attempt : Attempt)
    (type : AuthenticationType)
    (hCases :
      RefusalCases Silent state (authenticator state)) :
    RequestCases
      (fun left => left = state.incomingPacket ∧ Silent)
      state (offer attempt type authenticator state) := by
  rcases hCases with
    ⟨hSilent, hRun⟩ | ⟨hLoud, hReveals | ⟨state', hRun⟩⟩
  · exact Or.inl ⟨_, _, ⟨rfl, hSilent⟩, rfl,
      offer_silent type hRun⟩
  · refine Or.inr ⟨?_, Or.inl (reveals_offer type hReveals)⟩
    exact fun hLeaves => hLoud hLeaves.choose_spec.2
  · refine Or.inr ⟨?_, Or.inr (Or.inl
      ⟨attempt, offer_accepted type hRun⟩)⟩
    exact fun hLeaves => hLoud hLeaves.choose_spec.2

/- A method that is not available fails in silence. -/
theorem refuse_cases
    (state : LoginState) :
    RequestCases (· = []) state (refuse state) :=
  Or.inl ⟨[], [], rfl, rfl, rfl⟩

/- A request that reads something first. -/
theorem requestCases_packetGet
    {α : Type}
    {get' : Buffer → Outcome (α × Buffer)}
    {f : α → Session (Option AuthenticationType)}
    {Leaves : α → Buffer → Buffer → Prop}
    {state : LoginState}
    (hRest : ∀ a rest,
      RequestCases (Leaves a rest)
        { state with incomingPacket := rest }
        (f a { state with incomingPacket := rest })) :
    RequestCases
      (fun left => ∃ a rest,
        get' state.incomingPacket = .ok (a, rest) ∧
          Leaves a rest left)
      state ((packetGet get' >>= f) state) := by
  rw [bind_apply]
  rcases packetGet_cases get' state with
    ⟨a, rest, hGet, hRun⟩ | ⟨⟨halt, hGet⟩, hReveals⟩
  · rw [hRun, andThen_ok]
    simp only [List.nil_append]
    rcases hRest a rest with
      ⟨left, events, hLeaves, hSeen, hRun'⟩ | ⟨hNone, hTells⟩
    · exact Or.inl ⟨left, events, ⟨a, rest, hGet, hLeaves⟩,
        hSeen, hRun'⟩
    · refine Or.inr ⟨?_, hTells⟩
      intro hLeaves
      rcases hLeaves with
        ⟨left, a', rest', hGet', hLeaves⟩
      cases hGet.symm.trans hGet'
      exact hNone ⟨left, hLeaves⟩
  · refine Or.inr ⟨?_, Or.inl (hReveals.andThen _)⟩
    intro hLeaves
    rcases hLeaves with
      ⟨left, a, rest, hGet', _⟩
    cases hGet.symm.trans hGet'

theorem RequestCases.congr
    {Leaves Leaves' : Buffer → Prop}
    {state : LoginState}
    {run : Run Exchange Ending LoginState
      (Option AuthenticationType)}
    (hCases : RequestCases Leaves state run)
    (hLeaves : ∀ left, Leaves left ↔ Leaves' left) :
    RequestCases Leaves' state run := by
  have hEq : Leaves = Leaves' :=
    funext fun left => propext (hLeaves left)
  exact hEq ▸ hCases

/- The rhosts request. -/
theorem rhostsRequest_cases
    (env : LoginEnv)
    (state : LoginState) :
    RequestCases
      (fun left =>
        if env.options.rhostsAuthentication ∧
            env.privilegedPort then
          ∃ clientUser,
            bufferGetString state.incomingPacket =
                .ok (clientUser, left) ∧
              (env.authRhosts state.time
                clientUser).IsSilentRefusal env
        else
          left = [])
      state (rhostsRequest env state) := by
  unfold rhostsRequest
  by_cases hEnabled : env.options.rhostsAuthentication = true
  · by_cases hPort : env.privilegedPort = true
    · simp only [hEnabled, hPort, not_true_eq_false, if_false,
        and_self, if_true]
      refine (requestCases_packetGet fun clientUser rest =>
        requestCases_offer (.rhosts clientUser) .rhosts
          (consult_refusalCases env
            (env.authRhosts · clientUser)
            { state with incomingPacket := rest })).congr ?_
      intro left
      constructor
      · intro hLeaves
        rcases hLeaves with
          ⟨clientUser, rest, hGet, rfl, hSilent⟩
        exact ⟨clientUser, hGet, hSilent⟩
      · intro hLeaves
        rcases hLeaves with
          ⟨clientUser, hGet, hSilent⟩
        exact ⟨clientUser, left, hGet, rfl, hSilent⟩
    · simp only [hEnabled, hPort, not_true_eq_false,
        not_false_eq_true, if_false, if_true, and_false,
        Bool.false_eq_true]
      exact refuse_cases state
  · simp only [hEnabled, not_false_eq_true, if_true,
      false_and, if_false, Bool.false_eq_true]
    exact refuse_cases state

/- The rhosts request with a host key. -/
theorem rhostsRsaRequest_cases
    (env : LoginEnv)
    (state : LoginState) :
    RequestCases
      (fun left =>
        if env.options.rhostsRsaAuthentication ∧
            env.privilegedPort ∧
            env.cipherType ≠ .none ∧
            env.cipherType ≠ .arcfour then
          ∃ clientUser bits e n rest₁ rest₂ rest₃,
            bufferGetString state.incomingPacket =
                .ok (clientUser, rest₁) ∧
              bufferGetInt rest₁ = .ok (bits, rest₂) ∧
              bufferGetMpInt rest₂ = .ok (e, rest₃) ∧
              bufferGetMpInt rest₃ = .ok (n, left) ∧
              RhostsRsaSilent env state.time clientUser
                ⟨bits, e, n⟩
        else
          left = [])
      state (rhostsRsaRequest env state) := by
  unfold rhostsRsaRequest
  by_cases hAvailable :
      env.options.rhostsRsaAuthentication = true ∧
        env.privilegedPort = true ∧
        env.cipherType ≠ .none ∧ env.cipherType ≠ .arcfour
  · rcases hAvailable with
      ⟨hEnabled, hPort, hNone, hArcfour⟩
    simp only [hEnabled, hPort, hNone, hArcfour,
      not_true_eq_false, if_false, ne_eq, not_false_eq_true,
      and_self, if_true]
    refine (requestCases_packetGet fun clientUser rest₁ =>
      requestCases_packetGet fun bits rest₂ =>
        requestCases_packetGet fun e rest₃ =>
          requestCases_packetGet fun n rest₄ =>
            requestCases_offer
              (.rhostsRsa clientUser ⟨bits, e, n⟩) .rhostsRsa
              (refusalCases_of_reveals
                (authRhostsRsa_cases env clientUser
                  ⟨bits, e, n⟩
                  { state with
                    incomingPacket := rest₄ }))).congr ?_
    intro left
    constructor
    · intro hLeaves
      rcases hLeaves with
        ⟨clientUser, rest₁, hUser, bits, rest₂, hBits, e,
          rest₃, hE, n, rest₄, hN, rfl, hSilent⟩
      exact ⟨clientUser, bits, e, n, rest₁, rest₂, rest₃,
        hUser, hBits, hE, hN, hSilent⟩
    · intro hLeaves
      rcases hLeaves with
        ⟨clientUser, bits, e, n, rest₁, rest₂, rest₃,
          hUser, hBits, hE, hN, hSilent⟩
      exact ⟨clientUser, rest₁, hUser, bits, rest₂, hBits, e,
        rest₃, hE, n, left, hN, rfl, hSilent⟩
  · simp only [hAvailable, if_false]
    have hRefuse := refuse_cases state
    split
    · exact hRefuse
    · split
      · exact hRefuse
      · split
        · exact hRefuse
        · split
          · exact hRefuse
          · rename_i hEnabled hPort hNone hArcfour
            exact (hAvailable ⟨not_not.mp hEnabled,
              not_not.mp hPort, hNone, hArcfour⟩).elim

/- The RSA request. -/
theorem rsaRequest_cases
    (env : LoginEnv)
    (state : LoginState) :
    RequestCases
      (fun left =>
        if env.options.rsaAuthentication then
          ∃ n,
            bufferGetMpInt state.incomingPacket =
                .ok (n, left) ∧
              RsaSilent env state.time n
        else
          left = [])
      state (rsaRequest env state) := by
  unfold rsaRequest
  by_cases hEnabled : env.options.rsaAuthentication = true
  · simp only [hEnabled, not_true_eq_false, if_false, if_true]
    refine (requestCases_packetGet fun n rest =>
      requestCases_offer (.rsa n) .rsa
        (refusalCases_of_reveals
          (authRsa_cases env n
            { state with incomingPacket := rest }))).congr ?_
    intro left
    constructor
    · intro hLeaves
      rcases hLeaves with
        ⟨n, rest, hGet, rfl, hSilent⟩
      exact ⟨n, hGet, hSilent⟩
    · intro hLeaves
      rcases hLeaves with
        ⟨n, hGet, hSilent⟩
      exact ⟨n, left, hGet, rfl, hSilent⟩
  · simp only [hEnabled, not_false_eq_true, if_true, if_false,
      Bool.false_eq_true]
    exact refuse_cases state

/- The challenge of the authentication server is seen. -/
theorem reveals_tisDialog
    (env : LoginEnv)
    (prompt : List UInt8)
    (state : LoginState) :
    Reveals (tisDialog env prompt state) := by
  apply reveals_packetSend
  apply ne_failurePacket
  change sshSmsgAuthTisChallenge ≠ sshSmsgFailure
  decide

/- The TIS request. -/
theorem tisRequest_silent_cases
    (env : LoginEnv)
    (state : LoginState) :
    RequestCases
      (fun left =>
        if env.options.tisAuthentication then
          TisSilent env state.time ∧
            left = state.incomingPacket
        else
          left = [])
      state (tisRequest env state) := by
  unfold tisRequest
  by_cases hEnabled : env.options.tisAuthentication = true
  · simp only [hEnabled, not_true_eq_false, if_false, if_true,
      bind_apply, get_apply, andThen_ok, List.nil_append]
    unfold TisSilent
    cases hGreeting : env.tisGreeting state.time with
    | noConnection =>
        refine Or.inr ⟨?_, Or.inr (Or.inr ⟨state, rfl⟩)⟩
        simp
    | badResponse =>
        refine Or.inr ⟨?_, Or.inr (Or.inr ⟨state, rfl⟩)⟩
        simp
    | ready =>
        simp only [true_and]
        split
        · rename_i hLong
          exact Or.inl ⟨state.incomingPacket, [],
            ⟨Or.inl hLong, rfl⟩, rfl, rfl⟩
        · rename_i hShort
          cases hReply : env.tisReply state.time with
          | challenge text =>
              refine Or.inr ⟨?_,
                Or.inl (reveals_tisDialog env _ state)⟩
              simp [hShort]
          | password =>
              refine Or.inr ⟨?_,
                Or.inl (reveals_tisDialog env _ state)⟩
              simp [hShort]
          | unknownUser =>
              exact Or.inl ⟨state.incomingPacket, [],
                ⟨Or.inr rfl, rfl⟩, rfl, rfl⟩
  · simp only [hEnabled, not_false_eq_true, if_true, if_false,
      Bool.false_eq_true]
    exact refuse_cases state

end Ssh1

------------------------------------------------------------
-- The Switch
------------------------------------------------------------

namespace Ssh1

open Recorded Session

/- The password request, up to the fifth. -/
theorem passwordRequest_cases
    (env : LoginEnv)
    (passwordAttempts : Nat)
    (state : LoginState) :
    SilentOrTells
      (fun left =>
        if env.options.passwordAuthentication ∧
            env.cipherType ≠ .none then
          ∃ password,
            bufferGetString state.incomingPacket =
                .ok (password, left) ∧
              passwordAttempts < 5 ∧
              (env.passwordAnswer state.time
                password).toAnswer.IsSilentRefusal env
        else
          left = [])
      (attemptsAfter env passwordAttempts
        sshCmsgAuthPassword)
      state (passwordRequest env passwordAttempts state) := by
  unfold passwordRequest attemptsAfter
  by_cases hEnabled :
      env.options.passwordAuthentication = true
  · by_cases hCipher : env.cipherType = .none
    · simp only [hEnabled, hCipher, not_true_eq_false,
        if_false, if_true, ne_eq, and_false]
      exact silentOrTells_pairWith _ (refuse_cases state)
    · simp only [hEnabled, hCipher, not_true_eq_false,
        if_false, if_true, ne_eq, not_false_eq_true, and_self,
        bind_apply]
      rcases packetGet_cases bufferGetString state with
        ⟨password, rest, hGet, hRun⟩ |
          ⟨⟨halt, hGet⟩, hReveals⟩
      · simp only [packetGetString, hRun, andThen_ok,
          List.nil_append]
        split
        · rename_i hMany
          refine Or.inr ⟨?_, Or.inl
            (Or.inl ⟨_, [], rfl, disconnectPacket_ne _⟩)⟩
          intro hLeaves
          rcases hLeaves with
            ⟨left, password', _, hFew, _⟩
          omega
        · rename_i hFew
          have hCases := silentOrTells_pairWith
            (passwordAttempts + 1)
            (requestCases_offer (.password password) .password
              (authPassword_refusalCases env password
                { state with incomingPacket := rest }))
          rcases hCases with
            ⟨left, ⟨hLeft, hSilent⟩, hSeen, hResult⟩ |
              ⟨hNone, hTells⟩
          · refine Or.inl ⟨left, ⟨password, ?_,
              Nat.not_le.mp hFew, hSilent⟩, hSeen, hResult⟩
            rw [hGet, hLeft]
          · refine Or.inr ⟨?_, hTells⟩
            intro hLeaves
            rcases hLeaves with
              ⟨left, password', hGet', _, hSilent⟩
            cases hGet.symm.trans hGet'
            exact hNone ⟨_, rfl, hSilent⟩
      · refine Or.inr ⟨?_, Or.inl (hReveals.andThen _)⟩
        intro hLeaves
        rcases hLeaves with
          ⟨left, password, hGet', _⟩
        cases hGet.symm.trans hGet'
  · simp only [hEnabled, not_false_eq_true, if_true,
      false_and, and_false, if_false, Bool.false_eq_true]
    exact silentOrTells_pairWith _ (refuse_cases state)

/- Other requests are no password attempts. -/
theorem attemptsAfter_other
    (env : LoginEnv)
    (passwordAttempts : Nat)
    {type : UInt8}
    (hType : type ≠ sshCmsgAuthPassword) :
    attemptsAfter env passwordAttempts type =
      passwordAttempts := by
  simp [attemptsAfter, hType]

/- Each request fails in silence, or tells more. -/
theorem authenticationRequest_cases
    (env : LoginEnv)
    (passwordAttempts : Nat)
    (type : UInt8)
    (state : LoginState) :
    SilentOrTells
      (FailsSilently env state.time passwordAttempts type
        state.incomingPacket)
      (attemptsAfter env passwordAttempts type) state
      (authenticationRequest env passwordAttempts type
        state) := by
  unfold authenticationRequest FailsSilently
  by_cases hRhosts : type = sshCmsgAuthRhosts
  · have hOther : type ≠ sshCmsgAuthPassword := by
      rw [hRhosts]
      decide
    rw [attemptsAfter_other env _ hOther]
    simp only [hRhosts, if_true]
    exact silentOrTells_pairWith _
      (rhostsRequest_cases env state)
  · by_cases hRhostsRsa : type = sshCmsgAuthRhostsRsa
    · have hOther : type ≠ sshCmsgAuthPassword := by
        rw [hRhostsRsa]
        decide
      rw [attemptsAfter_other env _ hOther]
      simp only [hRhosts, if_false]
      simp only [hRhostsRsa, if_true]
      exact silentOrTells_pairWith _
        (rhostsRsaRequest_cases env state)
    · by_cases hRsa : type = sshCmsgAuthRsa
      · have hOther : type ≠ sshCmsgAuthPassword := by
          rw [hRsa]
          decide
        rw [attemptsAfter_other env _ hOther]
        simp only [hRhosts, hRhostsRsa, if_false]
        simp only [hRsa, if_true]
        exact silentOrTells_pairWith _
          (rsaRequest_cases env state)
      · by_cases hTis :
            env.haveTis = true ∧ type = sshCmsgAuthTis
        · have hOther : type ≠ sshCmsgAuthPassword := by
            rw [hTis.2]
            decide
          rw [attemptsAfter_other env _ hOther]
          simp only [hRhosts, hRhostsRsa, hRsa, if_false]
          rw [if_pos hTis]
          simp only [if_pos hTis]
          exact silentOrTells_pairWith _
            (tisRequest_silent_cases env state)
        · simp only [hRhosts, hRhostsRsa, hRsa, hTis,
            if_false]
          by_cases hPassword : type = sshCmsgAuthPassword
          · simp only [hPassword, if_true]
            exact passwordRequest_cases env _ state
          · rw [attemptsAfter_other env _ hPassword]
            simp only [hPassword, if_false]
            exact silentOrTells_pairWith _
              (refuse_cases state)

end Ssh1
