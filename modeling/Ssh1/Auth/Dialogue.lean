import Ssh1.Auth.AuthRsa
import Ssh1.Lib.RecordedRun
import Ssh1.Packet.Layer

/-
  The dialogue with a client that logs in.

  The packets of the client come one after the other. What
  the server does is recorded: the packets that it takes, the
  packets that it sends, and what its authenticators say.

  Main declarations:
    * `Arrival`, `Exchange`, `LoginState`
    * `Session`
    * `Session.packetRead`
    * `Session.packetDisconnect`
-/

------------------------------------------------------------
-- Packets of the Client
------------------------------------------------------------

namespace Ssh1

/- What is wrong with a packet that came in completely. -/
inductive Spoiled where
  -- the compensation attack detector found an attack
  | attack
  -- the check bytes are not those of the data
  | checkBytes
  -- the data cannot be uncompressed
  | compression (message : String)
  deriving DecidableEq

/- How the process ends when it finds that. -/
def Spoiled.halt : Spoiled → Halt
| attack =>
    .disconnect
      "crc32 compensation attack: network attack detected"
| checkBytes => .disconnect "Corrupted check bytes on input."
| compression message => .fatal message

/-
  What `packet_read` may get from the connection, when it
  comes to it: after a packet of type `SSH_MSG_NONE` it waits
  for more data before it looks at the next one.
-/
inductive Arrival where
  -- the type byte and what follows it
  | packet (body : Buffer)
  | spoiled (reason : Spoiled)
  | badLength (len : Nat)
  | closed
  | readFailed (cause : String)
  deriving DecidableEq

/- A packet of the server. -/
structure ServerPacket where
  type : UInt8
  payload : Buffer
  deriving DecidableEq

end Ssh1

------------------------------------------------------------
-- Sessions
------------------------------------------------------------

namespace Ssh1

open QuotedText (Text)

/- What an authenticator is asked to accept. -/
inductive Attempt where
  | emptyPassword
  | rhosts (clientUser : List UInt8)
  | rhostsRsa (clientUser : List UInt8) (key : AuthorizedKey)
  | rsa (n : Nat)
  | tis (password : List UInt8)
  | password (password : List UInt8)
  deriving DecidableEq

/-
  What happens during a login. The client sees the packets;
  the rest is what statements about logins are about, and no
  function reads it.
-/
inductive Exchange where
  | received (arrival : Arrival)
  | sent (packet : ServerPacket)
  -- a packet of this type is taken as a request, at a time
  | request (time : Nat) (type : UInt8)
  | asked (attempt : Attempt)
  | verdict (attempt : Attempt) (accepted : Bool)
  deriving DecidableEq

/- Why a login did not return. -/
inductive Ending where
  | halted (halt : Halt)
  -- `packet_read` waits for the client
  | waiting
  deriving DecidableEq

/- What the login has to go on from. -/
structure LoginState where
  -- what the client will still send
  arrivals : List Arrival
  -- how many arrivals were taken
  time : Nat
  -- the unread rest of the packet
  incomingPacket : Buffer
  restrictions : Restrictions
  deriving DecidableEq

/- A piece of `do_connection`, with what it sends and reads. -/
abbrev Session (α : Type) :=
  Recorded Exchange Ending LoginState α

/- `SSH_SMSG_SUCCESS` -/
def sshSmsgSuccess : UInt8 := 14

/- `SSH_SMSG_FAILURE` -/
def sshSmsgFailure : UInt8 := 15

/- The packet that tells of a failed authentication. -/
def failurePacket : ServerPacket where
  type := sshSmsgFailure
  payload := []

/- The packet that tells of an accepted login. -/
def successPacket : ServerPacket where
  type := sshSmsgSuccess
  payload := []

/- What `packet_disconnect` sends. -/
def disconnectPacket (message : String) : ServerPacket where
  type := sshMsgDisconnect
  payload := bufferPutString [] (messageBytes message)

/- What `packet_send_debug` sends. -/
def debugPacket (message : String) : ServerPacket where
  type := sshMsgDebug
  payload := bufferPutString [] (messageBytes message)

namespace Session

open Recorded

/- A packet is built, sent and written. -/
def packetSend (packet : ServerPacket) : Session Unit :=
  record (.sent packet)

@[simp] theorem packetSend_apply
    (packet : ServerPacket)
    (state : LoginState) :
    packetSend packet state =
      ⟨[.sent packet], .ok ((), state)⟩ :=
  rfl

/- Tells the client and exits. -/
def packetDisconnect
    {α : Type}
    (message : String) : Session α := do
  packetSend (disconnectPacket message)
  stop (.halted (.disconnect message))

@[simp] theorem packetDisconnect_apply
    {α : Type}
    (message : String)
    (state : LoginState) :
    (packetDisconnect message : Session α) state =
      ⟨[.sent (disconnectPacket message)],
        .error (.halted (.disconnect message))⟩ :=
  rfl

/- Ends the process, telling the client where it is told. -/
def haltWith {α : Type} : Halt → Session α
| .disconnect message => packetDisconnect message
| .fatal message => stop (.halted (.fatal message))
| .exit message => stop (.halted (.exit message))
| .assertion => stop (.halted .assertion)
| .outOfBounds => stop (.halted .outOfBounds)
| .diverges => stop (.halted .diverges)

/- A call that may end the process. -/
def ofOutcome {α : Type} : Outcome α → Session α
| .ok a => pure a
| .error halt => haltWith halt

/- Puts back what a reader has left of the packet. -/
def setIncomingPacket
    (incomingPacket : Buffer) : Session Unit :=
  modify fun state => { state with incomingPacket }

/- `packet_get_all` -/
def packetGetAll : Session Unit :=
  setIncomingPacket []

/- Takes something from the packet that was received. -/
def packetGet
    {α : Type}
    (get' : Buffer → Outcome (α × Buffer)) : Session α := do
  let state ← get
  let (a, rest) ← ofOutcome (get' state.incomingPacket)
  setIncomingPacket rest
  return a

/- `packet_get_string` -/
def packetGetString : Session (List UInt8) :=
  packetGet bufferGetString

/- `packet_get_int` -/
def packetGetInt : Session Nat :=
  packetGet bufferGetInt

/- `packet_get_mp_int` -/
def packetGetMpInt : Session Nat :=
  packetGet bufferGetMpInt

end Session

end Ssh1

------------------------------------------------------------
-- Reading Packets
------------------------------------------------------------

namespace Ssh1

/-
  A complete packet is there: its type, or nothing if
  `packet_read` goes on to the next one, and what is then
  left in the incoming packet.
-/
def openPacket
    (body : Buffer) : Outcome (Option UInt8 × Buffer) := do
  let (type, payload) ← bufferGetChar body
  if type = sshMsgDisconnect then
    let (cause, _) ← bufferGetString payload
    .error (.fatal (cStringText (cause.take 900)))
  else if type = sshMsgIgnore ∨ type = sshMsgDebug then
    let (_, rest) ← bufferGetString payload
    return (none, rest)
  else if type = sshMsgNone then
    -- `packet_read_poll` returns the same where there is no
    -- packet, so what this one carries is left unread
    return (none, payload)
  else
    return (some type, payload)

/- Packets of these types are not given to the caller. -/
def handledTypes : List UInt8 :=
  [sshMsgNone, sshMsgDisconnect, sshMsgIgnore, sshMsgDebug]

/- All other packets are, as they are. -/
theorem openPacket_other
    {type : UInt8}
    (payload : Buffer)
    (hOther : type ∉ handledTypes) :
    openPacket (type :: payload) =
      .ok (some type, payload) := by
  simp only [handledTypes, List.mem_cons, List.not_mem_nil,
    or_false, not_or] at hOther
  rcases hOther with
    ⟨hNone, hDisconnect, hIgnore, hDebug⟩
  unfold openPacket
  simp only [bufferGetChar_cons, FallibleRun.ok_bind,
    if_neg hDisconnect, if_neg (not_or.mpr ⟨hIgnore, hDebug⟩),
    if_neg hNone, FallibleRun.pure_eq_ok]

/- The messages that are skipped are read up to the end. -/
theorem openPacket_skipped
    {type : UInt8}
    {payload data rest : Buffer}
    (hSkipped : type = sshMsgIgnore ∨ type = sshMsgDebug)
    (hString : bufferGetString payload = .ok (data, rest)) :
    openPacket (type :: payload) = .ok (none, rest) := by
  have hOther : type ≠ sshMsgDisconnect := by
    rcases hSkipped with rfl | rfl <;> decide
  unfold openPacket
  simp only [bufferGetChar_cons, FallibleRun.ok_bind,
    if_neg hOther, if_pos hSkipped, hString,
    FallibleRun.pure_eq_ok]

/- What is given to the caller is the packet. -/
theorem eq_of_openPacket_some
    {body rest : Buffer}
    {type : UInt8}
    (hOpen : openPacket body = .ok (some type, rest)) :
    body = type :: rest := by
  cases body with
  | nil => cases hOpen
  | cons first payload =>
      unfold openPacket at hOpen
      simp only [bufferGetChar_cons, FallibleRun.ok_bind]
        at hOpen
      split at hOpen
      · rcases FallibleRun.bind_eq_ok_iff.mp hOpen with
          ⟨_, _, hHalt⟩
        cases hHalt
      split at hOpen
      · rcases FallibleRun.bind_eq_ok_iff.mp hOpen with
          ⟨_, _, hSkipped⟩
        cases hSkipped
      split at hOpen
      · cases hOpen
      · cases hOpen
        rfl

namespace Session

open Recorded

/- A complete packet is taken in. -/
def takePacket (body : Buffer) : Session (Option UInt8) := do
  let (type, rest) ← ofOutcome (openPacket body)
  setIncomingPacket rest
  return type

/- The message about data that nobody has read. -/
def junkMessage : String :=
  "Junk data left to incoming packet buffer after all data" ++
    " processed"

/- One turn of the loops of `packet_read`. -/
def takeArrival
    (arrival : Arrival) : Session (Option UInt8) := do
  let state ← get
  match arrival with
  | .packet body =>
      if state.incomingPacket.length ≠ 0 then
        packetDisconnect junkMessage
      else
        takePacket body
  | .spoiled reason =>
      if state.incomingPacket.length ≠ 0 then
        packetDisconnect junkMessage
      else
        haltWith reason.halt
  | .badLength len =>
      packetDisconnect
        ("Bad packet length " ++ toString len ++ ".")
  | .closed =>
      stop (.halted
        (.fatal "Connection closed by remote host."))
  | .readFailed cause =>
      stop (.halted
        (.fatal ("Read from socket failed: " ++ cause)))

/- An arrival, and what is read if it gives no packet. -/
def readArrival
    (arrival : Arrival)
    (next : Session UInt8) : Session UInt8 := do
  record (.received arrival)
  match ← takeArrival arrival with
  | some type => return type
  | none => next

/- The loop over what arrives. -/
def readArrivals
    (state : LoginState) :
    List Arrival → Run Exchange Ending LoginState UInt8
| [] => ⟨[], .error .waiting⟩
| arrival :: arrivals =>
    readArrival arrival
      (ofRuns fun state => readArrivals state arrivals)
      { state with arrivals, time := state.time + 1 }

/-
  Waits until a packet has been received, and returns its
  type.
-/
def packetRead : Session UInt8 :=
  ofRuns fun state => readArrivals state state.arrivals

/- The end of a session that gets an unexpected packet. -/
def packetReadExpect (expected : UInt8) : Session Unit := do
  let type ← packetRead
  if type ≠ expected then
    packetDisconnect
      ("Protocol error: expected packet type " ++
        toString expected.toNat ++ ", got " ++
        toString type.toNat)
  else
    return ()

end Session

end Ssh1

------------------------------------------------------------
-- The Packet That Is Read
------------------------------------------------------------

namespace Ssh1

/- Something that has come from the client. -/
def Exchange.isReceived : Exchange → Bool
| received _ => true
| _ => false

/- How many arrivals were taken. -/
def receivedCount (events : List Exchange) : Nat :=
  events.countP Exchange.isReceived

@[simp] theorem receivedCount_append
    (events events' : List Exchange) :
    receivedCount (events ++ events') =
      receivedCount events + receivedCount events' :=
  List.countP_append

namespace Session

open Recorded

/- A call by what it returns. -/
theorem ofOutcome_ok
    {α : Type}
    {x : Outcome α}
    {state state' : LoginState}
    {a : α}
    (hResult : (ofOutcome x state).result = .ok (a, state')) :
    x = .ok a ∧ state' = state ∧
      (ofOutcome x state).events = [] := by
  cases x with
  | ok b =>
      cases hResult
      exact ⟨rfl, rfl, rfl⟩
  | error halt =>
      cases halt <;> cases hResult

/- Taking something from a packet, by what it returns. -/
theorem packetGet_ok
    {α : Type}
    {get' : Buffer → Outcome (α × Buffer)}
    {state state' : LoginState}
    {a : α}
    (hResult :
      (packetGet get' state).result = .ok (a, state')) :
    ∃ rest,
      get' state.incomingPacket = .ok (a, rest) ∧
        state' = { state with incomingPacket := rest } ∧
        (packetGet get' state).events = [] := by
  cases hGet : get' state.incomingPacket with
  | ok read =>
      rcases read with ⟨b, rest⟩
      have hRun :
          packetGet get' state =
            ⟨[], .ok (b,
              { state with incomingPacket := rest })⟩ := by
        unfold packetGet
        simp only [bind_apply, get_apply, andThen_ok, hGet,
          ofOutcome, pure_apply, setIncomingPacket,
          modify_apply, List.nil_append]
      rw [hRun] at hResult ⊢
      cases hResult
      exact ⟨rest, rfl, rfl, rfl⟩
  | error halt =>
      exfalso
      unfold packetGet at hResult
      simp only [bind_apply, get_apply, andThen_ok, hGet,
        ofOutcome] at hResult
      cases halt <;> cases hResult

/- A packet that was taken in, by what it was. -/
theorem takePacket_ok
    {body : Buffer}
    {taken : Option UInt8}
    {state state' : LoginState}
    (hResult :
      (takePacket body state).result =
        .ok (taken, state')) :
    ∃ rest,
      openPacket body = .ok (taken, rest) ∧
        state' = { state with incomingPacket := rest } ∧
        (takePacket body state).events = [] := by
  unfold takePacket at hResult ⊢
  cases hOpen : openPacket body with
  | error halt =>
      rw [hOpen] at hResult
      cases halt <;> cases hResult
  | ok read =>
      rcases read with ⟨type, rest⟩
      rw [hOpen] at hResult
      cases hResult
      exact ⟨rest, rfl, rfl, rfl⟩

/- An arrival that does not end the process is a packet. -/
theorem takeArrival_ok
    {arrival : Arrival}
    {taken : Option UInt8}
    {state state' : LoginState}
    (hResult :
      (takeArrival arrival state).result =
        .ok (taken, state')) :
    ∃ body rest,
      arrival = .packet body ∧
        openPacket body = .ok (taken, rest) ∧
        state' = { state with incomingPacket := rest } ∧
        (takeArrival arrival state).events = [] := by
  cases arrival with
  | packet body =>
      by_cases hJunk : state.incomingPacket.length ≠ 0
      · have hTake :
            takeArrival (.packet body) state =
              packetDisconnect junkMessage state := by
          unfold takeArrival
          simp only [bind_apply, get_apply, andThen_ok,
            if_pos hJunk, List.nil_append]
        rw [hTake] at hResult
        cases hResult
      · have hTake :
            takeArrival (.packet body) state =
              takePacket body state := by
          unfold takeArrival
          simp only [bind_apply, get_apply, andThen_ok,
            if_neg hJunk, List.nil_append]
        rw [hTake] at hResult ⊢
        rcases takePacket_ok hResult with
          ⟨rest, hOpen, hState, hNone⟩
        exact ⟨body, rest, rfl, hOpen, hState, hNone⟩
  | spoiled reason =>
      exfalso
      unfold takeArrival at hResult
      simp only [bind_apply, get_apply, andThen_ok]
        at hResult
      split at hResult
      · cases hResult
      · cases reason <;> cases hResult
  | badLength len => cases hResult
  | closed => cases hResult
  | readFailed cause => cases hResult

/- What reading a packet has done. -/
structure ReadsPacket
    (state : LoginState)
    (events : List Exchange)
    (type : UInt8)
    (state' : LoginState) : Prop where
  -- what is read is the last thing that was received
  last : ∃ early,
    events =
      early ++
        [.received (.packet (type :: state'.incomingPacket))]
  onlyReceived : ∀ event ∈ events, event.isReceived = true
  time : state'.time = state.time + receivedCount events
  restrictions : state'.restrictions = state.restrictions

/- By induction on what arrives. -/
theorem readArrivals_ok
    {arrivals : List Arrival}
    {type : UInt8}
    {state state' : LoginState}
    (hResult :
      (readArrivals state arrivals).result =
        .ok (type, state')) :
    ReadsPacket state (readArrivals state arrivals).events
      type state' := by
  induction arrivals generalizing state with
  | nil => cases hResult
  | cons arrival arrivals ih =>
      unfold readArrivals readArrival at hResult ⊢
      rcases bind_ok hResult with
        ⟨_, state₁, hReceived, hTaken, hEvents⟩
      cases hReceived
      rw [hEvents]
      rcases bind_ok hTaken with
        ⟨taken, state₂, hTake, hNext, hEvents'⟩
      rw [hEvents']
      rcases takeArrival_ok hTake with
        ⟨body, rest, rfl, hOpen, rfl, hNone⟩
      rw [hNone]
      cases taken with
      | none =>
          have hRest := ih hNext
          rcases hRest.last with ⟨early, hEarly⟩
          simp only [ofRuns_apply, record_apply,
            List.nil_append]
          refine ⟨⟨.received (.packet body) :: early, ?_⟩,
            ?_, ?_, hRest.restrictions⟩
          · rw [hEarly]
            rfl
          · intro event hEvent
            rcases List.mem_append.mp hEvent with
              hFirst | hLater
            · rw [List.mem_singleton.mp hFirst]
              rfl
            · exact hRest.onlyReceived event hLater
          · rw [hRest.time, receivedCount_append]
            exact Nat.add_assoc state.time 1 _
      | some read =>
          cases hNext
          rw [eq_of_openPacket_some hOpen]
          refine ⟨⟨[], rfl⟩, ?_, rfl, rfl⟩
          intro event hEvent
          rw [record_apply, List.nil_append] at hEvent
          rcases List.mem_append.mp hEvent with
            hFirst | hLater
          · rw [List.mem_singleton.mp hFirst]
            rfl
          · cases hLater

theorem packetRead_ok
    {type : UInt8}
    {state state' : LoginState}
    (hResult :
      (packetRead state).result = .ok (type, state')) :
    ReadsPacket state (packetRead state).events type
      state' :=
  readArrivals_ok hResult

end Session

end Ssh1
