import Ssh1.Client.Grants

/-
  What a server can make a client open.

  A server that opens a channel makes the client connect to
  something, and the client does so only for what it has
  asked for and been granted.

  Main declarations:
    * `OpensFor`, `Honours`
    * `OpenFields`, `RefusedOnce`
    * `client_opens_granted`
-/

------------------------------------------------------------
-- Connections of a Step
------------------------------------------------------------

namespace Ssh1

open Recorded

namespace ClientSide

theorem ofOutcome_events
    {α : Type}
    (x : Outcome α)
    (state : OpensState) :
    (ofOutcome x state).events = [] := by
  cases x with
  | error halt => rfl
  | ok a => rfl

/- An event is one of the first part or of the rest. -/
theorem mem_events_bind
    {α β : Type}
    {m : ClientSide α}
    {f : α → ClientSide β}
    {state : OpensState}
    {event : ClientEvent}
    (hMem : event ∈ ((m >>= f) state).events) :
    event ∈ (m state).events ∨
      ∃ a state',
        (m state).result = .ok (a, state') ∧
          event ∈ (f a state').events := by
  rw [bind_apply] at hMem
  rcases andThen_cases (m state) f with
    ⟨halt, -, hRun⟩ | ⟨a, state', hOk, hRun⟩
  · rw [hRun] at hMem
    exact Or.inl hMem
  · rw [hRun] at hMem
    rcases List.mem_append.mp hMem with hFirst | hRest
    · exact Or.inl hFirst
    · exact Or.inr ⟨a, state', hOk, hRest⟩

/- Nothing is done before the rest of a call. -/
theorem mem_events_ofOutcome_bind
    {α β : Type}
    {x : Outcome α}
    {f : α → ClientSide β}
    {state : OpensState}
    {event : ClientEvent}
    (hMem : event ∈ ((ofOutcome x >>= f) state).events) :
    ∃ a, x = .ok a ∧ event ∈ (f a state).events := by
  rcases mem_events_bind hMem with
    hFirst | ⟨a, state', hOk, hRest⟩
  · rw [ofOutcome_events] at hFirst
    cases hFirst
  · rcases ofOutcome_ok hOk with
      ⟨rfl, rfl⟩
    exact ⟨a, rfl, hRest⟩

theorem mem_events_get_bind
    {β : Type}
    {f : OpensState → ClientSide β}
    {state : OpensState}
    {event : ClientEvent}
    (hMem : event ∈ ((Recorded.get >>= f) state).events) :
    event ∈ (f state state).events :=
  hMem

/- A connection is one that the variables permit. -/
theorem connect_permits
    {message : ChannelMessage}
    {connecting : Connecting}
    {state : OpensState}
    {event : ClientEvent}
    (hNotAll : state.conf.allOpensPermitted = false)
    (hMem : event ∈ (connect message connecting state).events) :
    Permits state.conf event := by
  have hRest := mem_events_get_bind hMem
  split at hRest
  swap
  · cases hRest
  cases message with
  | portOpen remoteChannel body =>
      rcases mem_events_ofOutcome_bind hRest with
        ⟨target, hTarget, hLast⟩
      cases target with
      | none => cases hLast
      | some target =>
          cases List.mem_singleton.mp hLast
          exact portOpenTarget_permitted hNotAll hTarget
  | x11Open remoteChannel body =>
      have hDisplay
          (hLast : event ∈
            ((if state.conf.x11ForwardingPermitted then
              record .connectsToDisplay
            else
              pure () : ClientSide Unit) state).events) :
          Permits state.conf event := by
        split at hLast
        · rename_i hX11
          cases List.mem_singleton.mp hLast
          exact hX11
        · cases hLast
      simp only [] at hRest
      split at hRest
      · rcases mem_events_ofOutcome_bind hRest with
          ⟨_, -, hLast⟩
        exact hDisplay hLast
      · exact hDisplay hRest
  | agentOpen remoteChannel =>
      simp only [] at hRest
      split at hRest
      · rename_i hAgent
        cases List.mem_singleton.mp hRest
        exact hAgent
      · cases hRest
  | openConfirmation channel remoteChannel => cases hRest
  | openFailure channel => cases hRest
  | data channel body => cases hRest
  | inputEof channel => cases hRest
  | outputClosed channel => cases hRest

/- No other part of the work on a packet connects. -/
theorem processPacket_permits
    {packet : ServerMessage}
    {state : OpensState}
    {event : ClientEvent}
    (hNotAll : state.conf.allOpensPermitted = false)
    (hMem : event ∈ (processPacket packet state).events) :
    Permits state.conf event := by
  unfold processPacket at hMem
  split at hMem
  · rcases mem_events_ofOutcome_bind hMem with
      ⟨_, -, hLast⟩
    cases hLast
  split at hMem
  · rcases mem_events_ofOutcome_bind hMem with
      ⟨_, -, hLast⟩
    cases hLast
  · have hRest := mem_events_get_bind hMem
    rcases mem_events_ofOutcome_bind hRest with
      ⟨message, -, hMessage⟩
    cases message with
    | none => cases hMessage
    | some message =>
        rcases mem_events_bind hMessage with
          hConnect | ⟨_, state', -, hTable⟩
        · exact connect_permits hNotAll hConnect
        · rcases mem_events_ofOutcome_bind
              (mem_events_get_bind hTable) with
            ⟨_, -, hLast⟩
          cases hLast

theorem changeTable_events
    (event : ChannelEvent)
    (state : OpensState) :
    (changeTable event state).events = [] := by
  refine List.eq_nil_iff_forall_not_mem.mpr ?_
  intro event' hMem
  rcases mem_events_ofOutcome_bind
      (mem_events_get_bind hMem) with
    ⟨_, -, hLast⟩
  cases hLast

/- A client that waits for a reply connects to nothing. -/
theorem request_events
    (next : ClientStep)
    (state : OpensState)
    (hNext : ∀ packet, next ≠ .message packet) :
    (step next state).events = [] := by
  cases next with
  | requestRemoteForwarding port host remotePort reply =>
      cases reply with
      | ends halt => rfl
      | packet type =>
          change (channelRequestRemoteForwarding port _ _ _
            state).events = []
          unfold channelRequestRemoteForwarding
          rw [readReply, return_bind]
          split_ifs
          · rfl
          · rfl
          · rw [bind_apply, get_apply, andThen_ok]
            split_ifs
            · rfl
            · rfl
  | requestX11 auth reply =>
      cases auth with
      | none => rfl
      | some auth => cases reply <;> rfl
  | requestAgent reply => cases reply <;> rfl
  | message packet => exact (hNext packet rfl).elim
  | prepareSelect => exact changeTable_events _ state
  | afterSelect io => exact changeTable_events _ state
  | outputPoll notVeryMuch => exact changeTable_events _ state
  | listenPort port host hostPort socket =>
      exact changeTable_events _ state

/- Whatever a step connects to is permitted before it. -/
theorem step_permits
    {next : ClientStep}
    {state : OpensState}
    {event : ClientEvent}
    (hNotAll : state.conf.allOpensPermitted = false)
    (hMem : event ∈ (step next state).events) :
    Permits state.conf event := by
  by_cases hMessage : ∃ packet, next = .message packet
  · rcases hMessage with
      ⟨packet, rfl⟩
    exact processPacket_permits hNotAll hMem
  · have hNone :=
      request_events next state fun packet hNext =>
        hMessage ⟨packet, hNext⟩
    rw [hNone] at hMem
    cases hMem

/- An event of a run comes in one of its steps. -/
theorem mem_events_steps
    {run : List ClientStep}
    {state : OpensState}
    {event : ClientEvent}
    (hMem : event ∈ (steps run state).events) :
    ∃ early next late mid,
      run = early ++ next :: late ∧
        (steps early state).result = .ok ((), mid) ∧
        event ∈ (step next mid).events := by
  induction run generalizing state with
  | nil => cases hMem
  | cons first rest ih =>
      rcases mem_events_bind hMem with
        hFirst | ⟨_, state', hOk, hRest⟩
      · exact ⟨[], first, rest, state, rfl, rfl, hFirst⟩
      · rcases ih hRest with
          ⟨early, next, late, mid, rfl, hEarly, hNext⟩
        refine ⟨first :: early, next, late, mid, rfl, ?_, hNext⟩
        have hRun :
            steps (first :: early) state =
              andThen (step first state)
                fun _ => steps early :=
          rfl
        rw [hRun, andThen, hOk]
        exact hEarly

end ClientSide

end Ssh1

------------------------------------------------------------
-- Packets That Open a Channel
------------------------------------------------------------

namespace Ssh1

open FieldReader

/- A channel that the server opens. -/
def IsOpenMessage (type : UInt8) : Prop :=
  type = sshMsgPortOpen ∨ type = sshSmsgX11Open ∨
    type = sshSmsgAgentOpen

/- The packet asks for such a connection. -/
def OpensFor
    (conf : ChannelConf)
    (packet : ServerMessage) : ClientEvent → Prop
| .connectsTo host port =>
    packet.type = sshMsgPortOpen ∧
      ∃ remoteChannel body,
        packetGetInt32 packet.payload =
            .ok (remoteChannel, body) ∧
          portOpenTarget conf body = .ok (some (host, port))
| .connectsToDisplay => packet.type = sshSmsgX11Open
| .connectsToAgent => packet.type = sshSmsgAgentOpen

/- The client has asked for it, and could connect. -/
structure Honours
    (conf : ChannelConf)
    (packet : ServerMessage) : Prop where
  connected : packet.connecting.sock ≠ none
  port :
    packet.type = sshMsgPortOpen →
      ∃ remoteChannel body target,
        packetGetInt32 packet.payload =
            .ok (remoteChannel, body) ∧
          portOpenTarget conf body = .ok (some target)
  x11 :
    packet.type = sshSmsgX11Open →
      conf.x11ForwardingPermitted = true
  agent :
    packet.type = sshSmsgAgentOpen →
      conf.authForwardingPermitted = true

/- What is honoured is permitted. -/
theorem Honours.permits
    {conf : ChannelConf}
    {packet : ServerMessage}
    {event : ClientEvent}
    (hHonours : Honours conf packet)
    (hNotAll : conf.allOpensPermitted = false)
    (hOpens : OpensFor conf packet event) :
    Permits conf event := by
  cases event with
  | connectsTo host port =>
      rcases hOpens with
        ⟨-, remoteChannel, body, -, hTarget⟩
      exact portOpenTarget_permitted hNotAll hTarget
  | connectsToDisplay => exact hHonours.x11 hOpens
  | connectsToAgent => exact hHonours.agent hOpens

/- The text begins with such a field. -/
def BeginsWith
    {α : Type}
    (field : Field UInt8 α)
    (text : Buffer) : Prop :=
  ∃ x a rest, field x a ∧ text = x ++ rest

/- The fields after the number of the channel. -/
structure BodyFields
    (conf : ChannelConf)
    (type : UInt8)
    (body : Buffer) : Prop where
  port :
    type = sshMsgPortOpen →
      ∃ host string number port rest,
        IsString host string ∧ IsInt number port ∧
          body = host ++ (number ++ rest) ∧
          (conf.haveHostnameInOpen = true →
            BeginsWith IsString rest)
  x11 :
    type = sshSmsgX11Open →
      conf.haveHostnameInOpen = true →
        BeginsWith IsString body

/-
  The packet is long enough for the fields of its type, and
  its strings are not longer than a string may be.
-/
def OpenFields
    (conf : ChannelConf)
    (packet : ServerMessage) : Prop :=
  ∃ number value body,
    IsInt number value ∧ packet.payload = number ++ body ∧
      BodyFields conf packet.type body

/-
  How a packet that is not honoured may end the client: it
  disconnects, or a field of the packet is not there.
-/
def OpenEnds
    (conf : ChannelConf)
    (packet : ServerMessage) : Halt → Prop
| .disconnect _ => True
| .fatal _ => ¬ OpenFields conf packet
| _ => False

/- One refusal for the requester, and nothing else. -/
def RefusedOnce
    (payload : Buffer)
    (state final : OpensState) : Prop :=
  ∃ remoteChannel body,
    packetGetInt32 payload = .ok (remoteChannel, body) ∧
      final =
        { state with
          table :=
            { state.table with
              effects :=
                state.table.effects ++
                  [.sent none (.openFailure remoteChannel)] } }

/- The other ends are those of a program that is broken. -/
abbrev EndsWell
    {α : Type}
    (conf : ChannelConf)
    (packet : ServerMessage)
    (x : Outcome α)
    (post : α → Prop) : Prop :=
  FallibleRun.Ensures (fun halt => ¬ OpenEnds conf packet halt)
    x post

end Ssh1

------------------------------------------------------------
-- Reading the Fields
------------------------------------------------------------

namespace Ssh1

open FieldReader

variable {conf : ChannelConf} {packet : ServerMessage}

/- Reading a field fails where the text has none. -/
theorem endsWell_of_reads
    {α : Type}
    {read : Reader Halt UInt8 α}
    {field : Field UInt8 α}
    {text : Buffer}
    (hReads : Reads read field)
    (hFatal : ∀ halt, read text = .error halt →
      ∃ message, halt = .fatal message)
    (hField : OpenFields conf packet → BeginsWith field text) :
    EndsWell conf packet (read text) fun result =>
      read text = .ok result := by
  cases hRead : read text with
  | ok result => rfl
  | error halt =>
      rcases hFatal halt hRead with
        ⟨message, rfl⟩
      refine not_not_intro fun hFields => ?_
      rcases (hReads.ok_iff text).mpr (hField hFields) with
        ⟨result, hOk⟩
      rw [hRead] at hOk
      cases hOk

theorem bufferGet_fatal
    {buffer : Buffer}
    {len : Nat}
    {halt : Halt}
    (hError : bufferGet buffer len = .error halt) :
    ∃ message, halt = .fatal message := by
  unfold bufferGet at hError
  split at hError
  · cases hError
    exact ⟨_, rfl⟩
  · cases hError

theorem bufferGetInt_fatal
    {buffer : Buffer}
    {halt : Halt}
    (hError : bufferGetInt buffer = .error halt) :
    ∃ message, halt = .fatal message := by
  rcases FallibleRun.bind_eq_error_iff.mp hError with
    hGet | ⟨_, -, hRest⟩
  · exact bufferGet_fatal hGet
  · cases hRest

theorem bufferGetString_fatal
    {buffer : Buffer}
    {halt : Halt}
    (hError : bufferGetString buffer = .error halt) :
    ∃ message, halt = .fatal message := by
  rcases FallibleRun.bind_eq_error_iff.mp hError with
    hGet | ⟨_, -, hRest⟩
  · exact bufferGetInt_fatal hGet
  · simp only [] at hRest
    split at hRest
    · cases hRest
      exact ⟨_, rfl⟩
    · exact bufferGet_fatal hRest

/- The number of the channel that is to be opened. -/
theorem packetGetInt32_endsWell
    (conf : ChannelConf)
    (packet : ServerMessage) :
    EndsWell conf packet (packetGetInt32 packet.payload)
      fun read => packetGetInt32 packet.payload = .ok read := by
  have hInt :
      EndsWell conf packet (bufferGetInt packet.payload)
        fun read => bufferGetInt packet.payload = .ok read :=
    endsWell_of_reads reads_bufferGetInt
      (fun _ hError => bufferGetInt_fatal hError)
      fun ⟨number, value, body, hNumber, hPayload, _⟩ =>
        ⟨number, value, body, hNumber, hPayload⟩
  refine hInt.bind ?_
  rintro ⟨value, rest⟩ hRead
  change packetGetInt32 packet.payload = _
  rw [packetGetInt32, hRead]
  rfl

/- The fields of a body that has been read that far. -/
theorem OpenFields.body
    {remoteChannel : Int}
    {body : Buffer}
    (hFields : OpenFields conf packet)
    (hRead :
      packetGetInt32 packet.payload =
        .ok (remoteChannel, body)) :
    BodyFields conf packet.type body := by
  rcases hFields with
    ⟨number, value, body', hNumber, hPayload, hBody⟩
  have hInt :=
    reads_bufferGetInt.complete number value body' hNumber
  rw [packetGetInt32, hPayload, hInt] at hRead
  cases hRead
  exact hBody

theorem bufferGetString_endsWell
    {remoteChannel : Int}
    {body : Buffer}
    (hRead :
      packetGetInt32 packet.payload =
        .ok (remoteChannel, body))
    (hType : packet.type = sshSmsgX11Open)
    (hHost : conf.haveHostnameInOpen = true) :
    EndsWell conf packet (bufferGetString body) fun _ => True :=
  (endsWell_of_reads reads_bufferGetString
      (fun _ hError => bufferGetString_fatal hError)
      fun hFields => (hFields.body hRead).x11 hType hHost).mono
    fun _ _ => trivial

/- The target of a connection, from the fields of a body. -/
theorem portOpenTarget_endsWell
    {remoteChannel : Int}
    {body : Buffer}
    (hRead :
      packetGetInt32 packet.payload =
        .ok (remoteChannel, body))
    (hType : packet.type = sshMsgPortOpen) :
    EndsWell conf packet (portOpenTarget conf body)
      fun _ => True := by
  -- What is left after each of the fields.
  have hHost (hFields : OpenFields conf packet) :
      BeginsWith IsString body := by
    rcases (hFields.body hRead).port hType with
      ⟨host, string, number, port, rest, hHost, -, hBody, -⟩
    exact ⟨host, string, number ++ rest, hHost, hBody⟩
  have hAfterHost
      {string : List UInt8}
      {left : Buffer}
      (hString : bufferGetString body = .ok (string, left))
      (hFields : OpenFields conf packet) :
      ∃ number port rest, IsInt number port ∧
        left = number ++ rest ∧
        (conf.haveHostnameInOpen = true →
          BeginsWith IsString rest) := by
    rcases (hFields.body hRead).port hType with
      ⟨host, string', number, port, rest, hHost, hPort,
        hBody, hOrigin⟩
    have hOk :=
      reads_bufferGetString.complete host string'
        (number ++ rest) hHost
    rw [← hBody, hString] at hOk
    cases hOk
    exact ⟨number, port, rest, hPort, rfl, hOrigin⟩
  refine (endsWell_of_reads reads_bufferGetString
    (fun _ hError => bufferGetString_fatal hError)
    hHost).bind ?_
  rintro ⟨string, left⟩ hString
  simp only []
  split
  · exact not_not_intro trivial
  · refine (endsWell_of_reads reads_bufferGetInt
      (fun _ hError => bufferGetInt_fatal hError)
      fun hFields => ?_).bind ?_
    · rcases hAfterHost hString hFields with
        ⟨number, port, rest, hPort, hLeft, -⟩
      exact ⟨number, port, rest, hPort, hLeft⟩
    rintro ⟨port, left'⟩ hPort
    have hLast (x : Option (List UInt8 × Int)) :
        EndsWell conf packet (pure x) fun _ => True :=
      trivial
    simp only []
    split
    · rename_i hOrigin
      refine (endsWell_of_reads reads_bufferGetString
        (fun _ hError => bufferGetString_fatal hError)
        fun hFields => ?_).bind fun _ _ => ?_
      · rcases hAfterHost hString hFields with
          ⟨number, port', rest, hNumber, hLeft, hRest⟩
        have hOk :=
          reads_bufferGetInt.complete number port' rest hNumber
        rw [← hLeft, hPort] at hOk
        cases hOk
        exact hRest hOrigin
      · split
        · exact hLast _
        · exact hLast _
    · split
      · exact hLast _
      · exact hLast _

end Ssh1

------------------------------------------------------------
-- Refusals
------------------------------------------------------------

namespace Ssh1

open Recorded

/- The message that opens a channel, by its type. -/
def openMessage
    (type : UInt8)
    (remoteChannel : Int)
    (body : Buffer) : ChannelMessage :=
  if type = sshMsgPortOpen then
    .portOpen remoteChannel body
  else if type = sshSmsgX11Open then
    .x11Open remoteChannel body
  else
    .agentOpen remoteChannel

/- The three types, and what else they are not. -/
theorem openMessage_cases
    {type : UInt8}
    (remoteChannel : Int)
    (body : Buffer)
    (hOpen : IsOpenMessage type) :
    (type = sshMsgPortOpen ∧
        openMessage type remoteChannel body =
          .portOpen remoteChannel body) ∨
      (type = sshSmsgX11Open ∧
        openMessage type remoteChannel body =
          .x11Open remoteChannel body) ∨
      (type = sshSmsgAgentOpen ∧
        openMessage type remoteChannel body =
          .agentOpen remoteChannel) := by
  rcases hOpen with rfl | rfl | rfl
  · exact Or.inl ⟨rfl, rfl⟩
  · exact Or.inr (Or.inl ⟨rfl, rfl⟩)
  · exact Or.inr (Or.inr ⟨rfl, rfl⟩)

theorem readChannelMessage_open
    {type : UInt8}
    (payload : Buffer)
    (table : ChannelTable)
    (hOpen : IsOpenMessage type) :
    readChannelMessage type payload table =
      (do
        let (remoteChannel, body) ← packetGetInt32 payload
        return some (openMessage type remoteChannel body)) := by
  rcases hOpen with rfl | rfl | rfl
  · rfl
  · rfl
  · rfl

namespace ClientSide

/- The parts of a computation end in one of these ways. -/
theorem ensures_bind
    {α β : Type}
    {bad : Halt → Prop}
    {m : ClientSide α}
    {f : α → ClientSide β}
    {state : OpensState}
    {mid : α × OpensState → Prop}
    {post : β × OpensState → Prop}
    (hFirst : FallibleRun.Ensures bad (m state).result mid)
    (hRest : ∀ a state', mid (a, state') →
      FallibleRun.Ensures bad (f a state').result post) :
    FallibleRun.Ensures bad ((m >>= f) state).result post := by
  rw [bind_apply]
  rcases andThen_cases (m state) f with
    ⟨halt, hHalt, hRun⟩ | ⟨a, state', hOk, hRun⟩
  · rw [hHalt] at hFirst
    rw [hRun]
    exact hFirst
  · rw [hOk] at hFirst
    rw [hRun]
    exact hRest a state' hFirst

theorem ensures_ofOutcome
    {α : Type}
    {bad : Halt → Prop}
    {x : Outcome α}
    {post : α → Prop}
    (state : OpensState)
    (hEnsures : FallibleRun.Ensures bad x post) :
    FallibleRun.Ensures bad (ofOutcome x state).result
      fun final => post final.1 ∧ final.2 = state := by
  cases x with
  | error halt => exact hEnsures
  | ok a => exact ⟨hEnsures, rfl⟩

/- Connecting leaves the channels as they are. -/
theorem connect_endsWell
    {packet : ServerMessage}
    {remoteChannel : Int}
    {body : Buffer}
    (state : OpensState)
    (hOpen : IsOpenMessage packet.type)
    (hRead :
      packetGetInt32 packet.payload =
        .ok (remoteChannel, body)) :
    EndsWell state.conf packet
      (connect (openMessage packet.type remoteChannel body)
        packet.connecting state).result
      fun final => final.2 = state := by
  have hRecord (event : ClientEvent) :
      EndsWell state.conf packet
        ((record event : ClientSide Unit) state).result
        fun final => final.2 = state :=
    rfl
  have hReturn :
      EndsWell state.conf packet
        ((pure () : ClientSide Unit) state).result
        fun final => final.2 = state :=
    rfl
  unfold connect
  rw [bind_apply, get_apply, andThen_ok]
  split
  swap
  · exact hReturn
  rcases openMessage_cases remoteChannel body hOpen with
    ⟨hType, hMessage⟩ | ⟨hType, hMessage⟩ | ⟨-, hMessage⟩
  · rw [hMessage]
    refine ensures_bind (ensures_ofOutcome state
      (portOpenTarget_endsWell hRead hType)) ?_
    rintro target state' ⟨-, hSame⟩
    simp only [] at hSame
    rw [hSame]
    cases target with
    | none => exact hReturn
    | some target => exact hRecord _
  · have hDisplay :
        EndsWell state.conf packet
          ((if state.conf.x11ForwardingPermitted then
            record .connectsToDisplay
          else
            pure () : ClientSide Unit) state).result
          fun final => final.2 = state := by
      split
      · exact hRecord _
      · exact hReturn
    rw [hMessage]
    simp only []
    split
    · rename_i hHost
      refine ensures_bind (ensures_ofOutcome state
        (bufferGetString_endsWell hRead hType hHost)) ?_
      rintro string state' ⟨-, hSame⟩
      simp only [] at hSame
      rw [hSame]
      exact hDisplay
    · exact hDisplay
  · rw [hMessage]
    simp only []
    split
    · exact hRecord _
    · exact hReturn

end ClientSide

/- The three types of an open are different. -/
theorem openTypes_ne :
    sshSmsgX11Open ≠ sshMsgPortOpen ∧
      sshSmsgAgentOpen ≠ sshMsgPortOpen ∧
      sshSmsgAgentOpen ≠ sshSmsgX11Open := by
  decide

/- A port is refused without a target or a connection. -/
theorem channelInputPortOpen_refused
    {conf : ChannelConf}
    {packet : ServerMessage}
    {remoteChannel : Int}
    {body : Buffer}
    (table : ChannelTable)
    (hType : packet.type = sshMsgPortOpen)
    (hRead :
      packetGetInt32 packet.payload =
        .ok (remoteChannel, body))
    (hNot : ¬ Honours conf packet) :
    EndsWell conf packet
      (channelInputPortOpen conf remoteChannel body
        packet.connecting.sock table)
      fun table' =>
        table' = sendOpenFailure remoteChannel table := by
  have hEnds :
      EndsWell conf packet (portOpenTarget conf body)
        fun _ => True :=
    portOpenTarget_endsWell hRead hType
  rw [channelInputPortOpen_eq]
  cases hTarget : portOpenTarget conf body with
  | error halt =>
      rw [hTarget] at hEnds
      exact hEnds
  | ok target =>
      rw [FallibleRun.ok_bind]
      cases target with
      | none => rfl
      | some target =>
          cases hSock : packet.connecting.sock with
          | none => rfl
          | some sock =>
              refine (hNot ⟨?_, ?_, ?_, ?_⟩).elim
              · rw [hSock]
                nofun
              · exact fun _ => ⟨_, _, target, hRead, hTarget⟩
              · intro hX11
                exact (openTypes_ne.1
                  (hX11.symm.trans hType)).elim
              · intro hAgent
                exact (openTypes_ne.2.1
                  (hAgent.symm.trans hType)).elim

/- An X11 open is honoured where it is permitted. -/
theorem sock_eq_none_of_x11Open
    {conf : ChannelConf}
    {packet : ServerMessage}
    (hType : packet.type = sshSmsgX11Open)
    (hNot : ¬ Honours conf packet)
    (hPermitted : conf.x11ForwardingPermitted = true) :
    packet.connecting.sock = none := by
  cases hSock : packet.connecting.sock with
  | none => rfl
  | some sock =>
      refine (hNot ⟨?_, ?_, ?_, ?_⟩).elim
      · rw [hSock]
        nofun
      · intro hPort
        exact (openTypes_ne.1 (hType.symm.trans hPort)).elim
      · exact fun _ => hPermitted
      · intro hAgent
        exact (openTypes_ne.2.2
          (hAgent.symm.trans hType)).elim

/- An X11 open is refused without permission or connection. -/
theorem x11InputOpen_refused
    {conf : ChannelConf}
    {packet : ServerMessage}
    {remoteChannel : Int}
    {body : Buffer}
    (table : ChannelTable)
    (hType : packet.type = sshSmsgX11Open)
    (hRead :
      packetGetInt32 packet.payload =
        .ok (remoteChannel, body))
    (hNot : ¬ Honours conf packet) :
    EndsWell conf packet
      (x11InputOpen conf remoteChannel body
        packet.connecting.sock table)
      fun table' =>
        table' = sendOpenFailure remoteChannel table := by
  have hNone := sock_eq_none_of_x11Open hType hNot
  have hRest :
      ∀ answer : Outcome ChannelTable,
        (conf.x11ForwardingPermitted = true →
          answer =
            pure (sendOpenFailure remoteChannel table)) →
        EndsWell conf packet
          (if ¬ conf.x11ForwardingPermitted then
            pure (sendOpenFailure remoteChannel table)
          else
            answer)
          fun table' =>
            table' = sendOpenFailure remoteChannel table := by
    intro answer hAnswer
    split
    · rfl
    · rename_i hX11
      rw [hAnswer (by simpa using hX11)]
      rfl
  unfold x11InputOpen
  simp only []
  by_cases hHost : conf.haveHostnameInOpen = true
  · rw [if_pos hHost]
    exact (bufferGetString_endsWell hRead hType hHost).bind
      fun _ _ => hRest _ fun hX11 => by rw [hNone hX11]
  · rw [if_neg hHost]
    exact hRest _ fun hX11 => by rw [hNone hX11]

/- An agent open is refused without permission or agent. -/
theorem authInputOpenRequest_refused
    {conf : ChannelConf}
    {packet : ServerMessage}
    (remoteChannel : Int)
    (table : ChannelTable)
    (hType : packet.type = sshSmsgAgentOpen)
    (hNot : ¬ Honours conf packet) :
    EndsWell conf packet
      (authInputOpenRequest conf remoteChannel
        packet.connecting.sock table)
      fun table' =>
        table' = sendOpenFailure remoteChannel table := by
  unfold authInputOpenRequest
  split
  · rfl
  · rename_i hAgent
    cases hSock : packet.connecting.sock with
    | none => rfl
    | some sock =>
        refine (hNot ⟨?_, ?_, ?_, ?_⟩).elim
        · rw [hSock]
          nofun
        · intro hPort
          exact (openTypes_ne.2.1
            (hType.symm.trans hPort)).elim
        · intro hX11
          exact (openTypes_ne.2.2
            (hType.symm.trans hX11)).elim
        · exact fun _ => by simpa using hAgent

/- What is not honoured is refused. -/
theorem handleMessage_refused
    {conf : ChannelConf}
    {packet : ServerMessage}
    {remoteChannel : Int}
    {body : Buffer}
    (table : ChannelTable)
    (hOpen : IsOpenMessage packet.type)
    (hRead :
      packetGetInt32 packet.payload =
        .ok (remoteChannel, body))
    (hNot : ¬ Honours conf packet) :
    EndsWell conf packet
      (handleMessage conf
        (openMessage packet.type remoteChannel body)
        packet.connecting.sock table)
      fun table' =>
        table' = sendOpenFailure remoteChannel table := by
  rcases openMessage_cases remoteChannel body hOpen with
    ⟨hType, hMessage⟩ | ⟨hType, hMessage⟩ | ⟨hType, hMessage⟩
  · rw [hMessage]
    exact channelInputPortOpen_refused table hType hRead hNot
  · rw [hMessage]
    exact x11InputOpen_refused table hType hRead hNot
  · rw [hMessage]
    exact authInputOpenRequest_refused remoteChannel table
      hType hNot

namespace ClientSide

/- A message that is not honoured changes no channel. -/
theorem processPacket_refused
    {packet : ServerMessage}
    {state : OpensState}
    (hOpen : IsOpenMessage packet.type)
    (hNot : ¬ Honours state.conf packet) :
    EndsWell state.conf packet (processPacket packet state).result
      fun final => RefusedOnce packet.payload state final.2 := by
  have hOthers :
      isOutputMessage packet.type = false ∧
        packet.type ≠ exitStatusMessage := by
    rcases hOpen with hType | hType | hType
    · rw [hType]
      decide
    · rw [hType]
      decide
    · rw [hType]
      decide
  unfold processPacket
  rw [if_neg (by rw [hOthers.1]; decide), if_neg hOthers.2]
  rw [bind_apply, get_apply, andThen_ok]
  simp only [readChannelMessage_open packet.payload state.table
    hOpen]
  have hInt := packetGetInt32_endsWell state.conf packet
  cases hRead : packetGetInt32 packet.payload with
  | error halt =>
      rw [hRead] at hInt
      exact hInt
  | ok read =>
      rcases read with
        ⟨remoteChannel, body⟩
      simp only [FallibleRun.ok_bind]
      change EndsWell state.conf packet
        (channelMessage _ _ state).result _
      unfold channelMessage
      refine ensures_bind
        (connect_endsWell state hOpen hRead) ?_
      intro a state' hSame
      simp only [] at hSame
      rw [hSame, bind_apply, get_apply, andThen_ok]
      refine ensures_bind (ensures_ofOutcome state
        (handleMessage_refused state.table hOpen hRead hNot)) ?_
      rintro table state'' ⟨hTable, hSame'⟩
      simp only [] at hTable hSame'
      rw [hSame', hTable]
      exact ⟨remoteChannel, body, hRead, rfl⟩

end ClientSide

end Ssh1

------------------------------------------------------------
-- Main Results
------------------------------------------------------------

namespace Ssh1

theorem initial_granted
    (maxPacketSize : Nat)
    (interactive haveHostnameInOpen : Bool)
    (memory : Nat → Channel) :
    Granted []
      (.initial maxPacketSize interactive haveHostnameInOpen
        memory) := by
  refine ⟨rfl, fun event hPermits => ?_⟩
  cases event with
  | connectsTo host port => cases hPermits
  | connectsToDisplay => cases hPermits
  | connectsToAgent => cases hPermits

/-
  In every run the client connects to what it has asked for
  in an earlier step, and it honours nothing else. In any
  state, what the server opens and the client does not honour
  is refused once and changes no channel, or the client
  disconnects, or the packet does not have its fields.
-/
theorem client_opens_granted
    (maxPacketSize : Nat)
    (interactive haveHostnameInOpen : Bool)
    (memory : Nat → Channel)
    (run : List ClientStep) :
    (∀ event ∈
        (ClientSide.steps run
          (.initial maxPacketSize interactive
            haveHostnameInOpen memory)).events,
      ∃ early next late state,
        run = early ++ next :: late ∧
          (ClientSide.steps early
            (.initial maxPacketSize interactive
              haveHostnameInOpen memory)).result =
                .ok ((), state) ∧
          event ∈ (ClientSide.step next state).events ∧
          GrantedBy early event) ∧
      (∀ state,
        (ClientSide.steps run
            (.initial maxPacketSize interactive
              haveHostnameInOpen memory)).result =
            .ok ((), state) →
          (∀ event, Permits state.conf event →
            GrantedBy run event) ∧
          ∀ packet event,
            Honours state.conf packet →
              OpensFor state.conf packet event →
                GrantedBy run event) ∧
      ∀ (packet : ServerMessage) state,
        IsOpenMessage packet.type →
          ¬ Honours state.conf packet →
            FallibleRun.Ensures
              (fun halt => ¬ OpenEnds state.conf packet halt)
              (ClientSide.step (.message packet) state).result
              fun final =>
                RefusedOnce packet.payload state final.2 := by
  have hInitial :=
    initial_granted maxPacketSize interactive
      haveHostnameInOpen memory
  refine ⟨?_, ?_, ?_⟩
  · intro event hMem
    rcases ClientSide.mem_events_steps hMem with
      ⟨early, next, late, state, hRun, hEarly, hNext⟩
    have hGranted := ClientSide.steps_granted hInitial hEarly
    exact ⟨early, next, late, state, hRun, hEarly, hNext,
      hGranted.permits event
        (ClientSide.step_permits hGranted.notAll hNext)⟩
  · intro state hResult
    have hGranted := ClientSide.steps_granted hInitial hResult
    refine ⟨hGranted.permits, ?_⟩
    intro packet event hHonours hOpens
    exact hGranted.permits event
      (hHonours.permits hGranted.notAll hOpens)
  · intro packet state hOpen hNot
    exact ClientSide.processPacket_refused hOpen hNot

/- A message of the server that is too short. -/
def shortPortOpen : ServerMessage where
  type := sshMsgPortOpen
  payload := []
  connecting := .refused

/- It is neither answered, nor does the client disconnect. -/
theorem client_open_not_answered :
    (ClientSide.step (.message shortPortOpen)
        (.initial 256000 true true clearedMemory)).result =
      .error bufferUnderrun ∧
        ∀ message, bufferUnderrun ≠ .disconnect message :=
  ⟨rfl, nofun⟩

end Ssh1
