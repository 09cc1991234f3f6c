import Ssh1.Channels.Messages
import Ssh1.Channels.Safety
import Ssh1.Base.Fields
import Ssh1.Lib.RecordedRun

/-
  What a client has been granted.

  A client asks the server to forward ports, X11 connections
  and connections to the agent, and takes note of what the
  server grants with a success.

  Main declarations:
    * `ClientEvent`, `OpensState`
    * `ClientSide.step`
    * `GrantedBy`, `Granted`
-/

------------------------------------------------------------
-- The Client
------------------------------------------------------------

namespace Ssh1

/- `SSH_SMSG_SUCCESS`, as the client reads it -/
def replySuccess : UInt8 := 14

/- `SSH_SMSG_FAILURE`, as the client reads it -/
def replyFailure : UInt8 := 15

/-
  What a client does about the channels that the server
  opens. No function reads these events.
-/
inductive ClientEvent where
  -- a connection to a port, which may be refused
  | connectsTo (host : List UInt8) (port : Int)
  | connectsToDisplay
  | connectsToAgent
  deriving DecidableEq

/- The variables of the channels that change in a client. -/
structure OpensState where
  conf : ChannelConf
  table : ChannelTable

/- What `packet_read` gives as the reply to a request. -/
inductive Reply where
  | packet (type : UInt8)
  -- it ends the process
  | ends (halt : Halt)

/- A packet, and what connecting gives if it asks for that. -/
structure ServerMessage where
  type : UInt8
  payload : Buffer
  connecting : Connecting

/- The computations of a client. -/
abbrev ClientSide (α : Type) :=
  Recorded ClientEvent Halt OpensState α

end Ssh1

------------------------------------------------------------
-- Requests
------------------------------------------------------------

namespace Ssh1

namespace ClientSide

open Recorded

/- A call that may end the process. -/
def ofOutcome {α : Type} : Outcome α → ClientSide α
| .ok a => pure a
| .error halt => stop halt

/- `packet_read`, where a reply is waited for. -/
def readReply : Reply → ClientSide UInt8
| .packet type => return type
| .ends halt => stop halt

/- Writes to the variables that are not in the table. -/
def setConf
    (f : ChannelConf → ChannelConf) : ClientSide Unit :=
  modify fun state => { state with conf := f state.conf }

/- `SSH_MAX_FORWARDS_PER_DIRECTION` -/
def maxForwards : Nat := 100

/-
  Asks for connections to a port of the server, which only
  the server needs to know. What they are forwarded to is
  permitted once the server has agreed.
-/
def channelRequestRemoteForwarding
    (_port : Int)
    (host : List UInt8)
    (remotePort : Int)
    (reply : Reply) : ClientSide Unit := do
  let type ← readReply reply
  if type = replyFailure then
    return ()
  else if type ≠ replySuccess then
    stop (.disconnect
      ("Protocol error: expected packet type 14, got " ++
        toString type.toNat))
  else
    let state ← get
    if state.conf.permittedOpens.length ≥ maxForwards then
      stop (.fatal
        ("channel_request_remote_forwarding: too many" ++
          " forwards"))
    else
      setConf fun conf =>
        { conf with
          permittedOpens :=
            conf.permittedOpens ++ [(host, remotePort)] }

/-
  Asks for X11 connections. There is no authentication data
  if it is not in hexadecimal. A reply other than success is
  taken as a refusal.
-/
def x11RequestForwardingWithSpoofing
    (auth : Option X11Auth)
    (reply : Reply) : ClientSide Unit := do
  match auth with
  | none =>
      stop (.fatal
        "x11_request_forwarding: bad authentication data")
  | some auth =>
      setConf fun conf =>
        { conf with
          x11Saved := some auth
          x11ForwardingPermitted := true }
      let _ ← readReply reply

/- Asks for connections to the authentication agent. -/
def authRequestForwarding
    (reply : Reply) : ClientSide Unit := do
  setConf fun conf =>
    { conf with authForwardingPermitted := true }
  let _ ← readReply reply

end ClientSide

end Ssh1

------------------------------------------------------------
-- Messages of the Server
------------------------------------------------------------

namespace Ssh1

/- `SSH_SMSG_STDOUT_DATA` and `SSH_SMSG_STDERR_DATA` -/
def isOutputMessage (type : UInt8) : Bool :=
  type = 17 ∨ type = 18

/- `SSH_SMSG_EXITSTATUS`, as the client reads it -/
def exitStatusMessage : UInt8 := 20

namespace ClientSide

open Recorded

/- Something is sent to where the message asks for. -/
def connect
    (message : ChannelMessage)
    (connecting : Connecting) : ClientSide Unit := do
  let state ← get
  if connecting.reachesOut then
    match message with
    | .portOpen _ body =>
        match ← ofOutcome (portOpenTarget state.conf body) with
        | some (host, port) => record (.connectsTo host port)
        | none => return ()
    | .x11Open _ body =>
        if state.conf.haveHostnameInOpen then
          let _ ← ofOutcome (bufferGetString body)
        if state.conf.x11ForwardingPermitted then
          record .connectsToDisplay
    | .agentOpen _ =>
        if state.conf.authForwardingPermitted then
          record .connectsToAgent
    | _ => return ()

/- A message about channels. -/
def channelMessage
    (message : ChannelMessage)
    (connecting : Connecting) : ClientSide Unit := do
  connect message connecting
  let state ← get
  let table ←
    ofOutcome
      (handleMessage state.conf message connecting.sock
        state.table)
  modify fun state => { state with table }

/- One packet that was received from the server. -/
def processPacket (packet : ServerMessage) : ClientSide Unit := do
  if isOutputMessage packet.type then
    let _ ← ofOutcome (bufferGetString packet.payload)
  else if packet.type = exitStatusMessage then
    let _ ← ofOutcome (bufferGetInt packet.payload)
  else
    let state ← get
    match ← ofOutcome
        (readChannelMessage packet.type packet.payload
          state.table) with
    | some message => channelMessage message packet.connecting
    | none =>
        stop (.disconnect
          ("Protocol error during session: type " ++
            toString packet.type.toNat))

end ClientSide

/- What happens to the channels of a client. -/
inductive ClientStep where
  | requestRemoteForwarding
      (port : Int)
      (host : List UInt8)
      (remotePort : Int)
      (reply : Reply)
  | requestX11 (auth : Option X11Auth) (reply : Reply)
  | requestAgent (reply : Reply)
  | message (packet : ServerMessage)
  | prepareSelect
  | afterSelect (io : Nat → SlotIo)
  | outputPoll (notVeryMuch : Nat → Bool)
  | listenPort
      (port : Int)
      (host : List UInt8)
      (hostPort : Int)
      (socket : Except String Int)

namespace ClientSide

open Recorded

/- Work on the channels that no message asks for. -/
def changeTable
    (event : ChannelEvent) : ClientSide Unit := do
  let state ← get
  let table ← ofOutcome (event.step state.conf state.table)
  modify fun state => { state with table }

/- One step of a client. -/
def step : ClientStep → ClientSide Unit
| .requestRemoteForwarding port host remotePort reply =>
    channelRequestRemoteForwarding port host remotePort reply
| .requestX11 auth reply =>
    x11RequestForwardingWithSpoofing auth reply
| .requestAgent reply => authRequestForwarding reply
| .message packet => processPacket packet
| .prepareSelect => changeTable .prepareSelect
| .afterSelect io => changeTable (.afterSelect io)
| .outputPoll notVeryMuch =>
    changeTable (.outputPoll notVeryMuch)
| .listenPort port host hostPort socket =>
    changeTable (.listenPort port host hostPort socket)

/- So many steps of a client. -/
def steps : List ClientStep → ClientSide Unit
| [] => return ()
| first :: rest => do
    step first
    steps rest

end ClientSide

/- A client that has asked for nothing yet. -/
def OpensState.initial
    (maxPacketSize : Nat)
    (interactive haveHostnameInOpen : Bool)
    (memory : Nat → Channel) : OpensState where
  conf :=
    { maxPacketSize
      interactive
      haveHostnameInOpen
      allOpensPermitted := false
      permittedOpens := []
      x11ForwardingPermitted := false
      authForwardingPermitted := false
      x11Saved := none }
  table := .initial memory

end Ssh1

------------------------------------------------------------
-- Grants
------------------------------------------------------------

namespace Ssh1

/-
  In these steps the client has asked for such a connection.
  A port is granted by the reply to the request for it.
-/
def GrantedBy (early : List ClientStep) : ClientEvent → Prop
| .connectsTo host port =>
    ∃ listenPort,
      .requestRemoteForwarding listenPort host port
        (.packet replySuccess) ∈ early
| .connectsToDisplay =>
    ∃ auth reply, .requestX11 (some auth) reply ∈ early
| .connectsToAgent => ∃ reply, .requestAgent reply ∈ early

/- The variables let the client make such a connection. -/
def Permits (conf : ChannelConf) : ClientEvent → Prop
| .connectsTo host port => (host, port) ∈ conf.permittedOpens
| .connectsToDisplay => conf.x11ForwardingPermitted = true
| .connectsToAgent => conf.authForwardingPermitted = true

/- What is permitted was asked for. -/
structure Granted
    (early : List ClientStep)
    (state : OpensState) : Prop where
  notAll : state.conf.allOpensPermitted = false
  permits : ∀ event,
    Permits state.conf event → GrantedBy early event

/- What was granted stays so. -/
theorem GrantedBy.append
    {early : List ClientStep}
    {event : ClientEvent}
    (hGranted : GrantedBy early event)
    (late : List ClientStep) :
    GrantedBy (early ++ late) event := by
  have hMore := List.subset_append_left early late
  cases event with
  | connectsTo host port =>
      rcases hGranted with
        ⟨listenPort, hMem⟩
      exact ⟨listenPort, hMore hMem⟩
  | connectsToDisplay =>
      rcases hGranted with
        ⟨auth, reply, hMem⟩
      exact ⟨auth, reply, hMore hMem⟩
  | connectsToAgent =>
      rcases hGranted with
        ⟨reply, hMem⟩
      exact ⟨reply, hMore hMem⟩

/- The target of a connection is permitted. -/
theorem portOpenTarget_permitted
    {conf : ChannelConf}
    {body : Buffer}
    {target : List UInt8 × Int}
    (hNotAll : conf.allOpensPermitted = false)
    (hTarget : portOpenTarget conf body = .ok (some target)) :
    target ∈ conf.permittedOpens := by
  unfold portOpenTarget at hTarget
  rcases FallibleRun.bind_eq_ok_iff.mp hTarget with
    ⟨⟨string, rest⟩, -, hTarget⟩
  simp only [] at hTarget
  split at hTarget
  · cases hTarget
  rcases FallibleRun.bind_eq_ok_iff.mp hTarget with
    ⟨⟨port, rest⟩, -, hTarget⟩
  simp only [hNotAll] at hTarget
  have hLast :
      (if ¬ false = true ∧
          (cString string, toInt32 port) ∉
            conf.permittedOpens then
        pure none
      else
        pure (some (cString string, toInt32 port)) :
        Outcome (Option (List UInt8 × Int))) =
          .ok (some target) := by
    split at hTarget
    · rcases FallibleRun.bind_eq_ok_iff.mp hTarget with
        ⟨_, -, hTarget⟩
      exact hTarget
    · exact hTarget
  split at hLast
  · cases hLast
  · rename_i hPermitted
    cases hLast
    simpa using hPermitted

end Ssh1

------------------------------------------------------------
-- Grants of a Step
------------------------------------------------------------

namespace Ssh1

open Recorded

namespace ClientSide

/- A call that returns changes nothing. -/
theorem ofOutcome_ok
    {α : Type}
    {x : Outcome α}
    {state state' : OpensState}
    {a : α}
    (hResult : (ofOutcome x state).result = .ok (a, state')) :
    x = .ok a ∧ state' = state := by
  cases x with
  | error halt => cases hResult
  | ok b =>
      cases hResult
      exact ⟨rfl, rfl⟩

/- The reply is a packet, and the state stays. -/
theorem readReply_ok
    {reply : Reply}
    {state state' : OpensState}
    {type : UInt8}
    (hResult :
      (readReply reply state).result = .ok (type, state')) :
    reply = .packet type ∧ state' = state := by
  cases reply with
  | ends halt => cases hResult
  | packet type' =>
      cases hResult
      exact ⟨rfl, rfl⟩

/- A port is permitted once the server has agreed. -/
theorem channelRequestRemoteForwarding_ok
    (port : Int)
    {remotePort : Int}
    {host : List UInt8}
    {reply : Reply}
    {state state' : OpensState}
    (hResult :
      (channelRequestRemoteForwarding port host remotePort reply
        state).result = .ok ((), state')) :
    state' = state ∨
      reply = .packet replySuccess ∧
        state' =
          { state with
            conf :=
              { state.conf with
                permittedOpens :=
                  state.conf.permittedOpens ++
                    [(host, remotePort)] } } := by
  unfold channelRequestRemoteForwarding at hResult
  rcases bind_ok hResult with
    ⟨type, read, hReply, hRest, -⟩
  rcases readReply_ok hReply with
    ⟨rfl, rfl⟩
  split at hRest
  · cases hRest
    exact Or.inl rfl
  split at hRest
  · cases hRest
  · rename_i hSuccess
    have hType : type = replySuccess := by
      simpa using hSuccess
    rcases bind_ok hRest with
      ⟨state'', _, hGet, hLast, -⟩
    cases hGet
    split at hLast
    · cases hLast
    · cases hLast
      exact Or.inr ⟨by rw [hType], rfl⟩

/- X11 connections are permitted before the reply is read. -/
theorem x11RequestForwardingWithSpoofing_ok
    {auth : Option X11Auth}
    {reply : Reply}
    {state state' : OpensState}
    (hResult :
      (x11RequestForwardingWithSpoofing auth reply
        state).result = .ok ((), state')) :
    ∃ data, auth = some data ∧
      state' =
        { state with
          conf :=
            { state.conf with
              x11Saved := some data
              x11ForwardingPermitted := true } } := by
  cases auth with
  | none => cases hResult
  | some data =>
      rcases bind_ok hResult with
        ⟨_, _, hSet, hRest, -⟩
      cases hSet
      rcases bind_ok hRest with
        ⟨type, read, hReply, hReturn, -⟩
      cases hReturn
      rcases readReply_ok hReply with
        ⟨-, rfl⟩
      exact ⟨data, rfl, rfl⟩

/- The agent is forwarded if the reply says so. -/
theorem authRequestForwarding_ok
    {reply : Reply}
    {state state' : OpensState}
    (hResult :
      (authRequestForwarding reply state).result =
        .ok ((), state')) :
    state' =
      { state with
        conf :=
          { state.conf with
            authForwardingPermitted := true } } := by
  rcases bind_ok hResult with
    ⟨_, _, hSet, hRest, -⟩
  cases hSet
  rcases bind_ok hRest with
    ⟨type, read, hReply, hReturn, -⟩
  cases hReturn
  rcases readReply_ok hReply with
    ⟨-, rfl⟩
  rfl

/- The two states differ in the channels at most. -/
def SameConf
    (state : OpensState)
    (_ : List ClientEvent)
    (state' : OpensState) : Prop :=
  state'.conf = state.conf

/- What two pieces keep, they keep together. -/
theorem sameConf_composes : Composes SameConf where
  refl _ := rfl
  trans hFirst hRest := hRest.trans hFirst

theorem ofOutcome_sameConf
    {α : Type}
    (x : Outcome α) :
    Leads SameConf (ofOutcome x) := by
  intro state a state' hResult
  rw [(ofOutcome_ok hResult).2]
  rfl

/- The table is no part of what is granted. -/
theorem setTable_sameConf
    (table : ChannelTable) :
    Leads SameConf (modify fun state =>
      { state with table } : ClientSide Unit) :=
  Leads.modify fun _ => rfl

/- Connecting changes no variable. -/
theorem connect_sameConf
    (message : ChannelMessage)
    (connecting : Connecting) :
    Leads SameConf (connect message connecting) := by
  have hR := sameConf_composes
  have hReturn :
      Leads SameConf (pure () : ClientSide Unit) :=
    Leads.pure hR ()
  have hRecord (event : ClientEvent) :
      Leads SameConf (record event : ClientSide Unit) :=
    Leads.record fun _ => rfl
  refine (Leads.get hR).bind hR fun read => ?_
  split
  swap
  · exact hReturn
  cases message with
  | portOpen remoteChannel body =>
      refine (ofOutcome_sameConf _).bind hR fun target => ?_
      cases target with
      | none => exact hReturn
      | some target => exact hRecord _
  | x11Open remoteChannel body =>
      have hDisplay :
          Leads SameConf
            (if read.conf.x11ForwardingPermitted then
              record .connectsToDisplay
            else
              pure () : ClientSide Unit) := by
        split
        · exact hRecord _
        · exact hReturn
      simp only []
      split
      · exact (ofOutcome_sameConf _).bind hR fun _ => hDisplay
      · exact hDisplay
  | agentOpen remoteChannel =>
      simp only []
      split
      · exact hRecord _
      · exact hReturn
  | openConfirmation channel remoteChannel => exact hReturn
  | openFailure channel => exact hReturn
  | data channel body => exact hReturn
  | inputEof channel => exact hReturn
  | outputClosed channel => exact hReturn

/- No packet of the server grants more. -/
theorem processPacket_sameConf
    (packet : ServerMessage) :
    Leads SameConf (processPacket packet) := by
  have hR := sameConf_composes
  have hRead {α : Type} (x : Outcome α) :
      Leads SameConf (do
        let _ ← ofOutcome x : ClientSide Unit) :=
    (ofOutcome_sameConf x).bind hR fun _ => Leads.pure hR ()
  unfold processPacket
  split
  · exact hRead _
  split
  · exact hRead _
  · refine (Leads.get hR).bind hR fun state => ?_
    refine (ofOutcome_sameConf _).bind hR fun message => ?_
    cases message with
    | none => exact Leads.stop _
    | some message =>
        refine (connect_sameConf message _).bind hR fun _ => ?_
        refine (Leads.get hR).bind hR fun state => ?_
        exact (ofOutcome_sameConf _).bind hR fun table =>
          setTable_sameConf table

theorem changeTable_sameConf
    (event : ChannelEvent) :
    Leads SameConf (changeTable event) := by
  have hR := sameConf_composes
  refine (Leads.get hR).bind hR fun state => ?_
  exact (ofOutcome_sameConf _).bind hR fun table =>
    setTable_sameConf table

/- A step grants what it asks for, and nothing else. -/
theorem step_granted
    {early : List ClientStep}
    {next : ClientStep}
    {state state' : OpensState}
    (hGranted : Granted early state)
    (hResult : (step next state).result = .ok ((), state')) :
    Granted (early ++ [next]) state' := by
  have hLast : next ∈ early ++ [next] :=
    List.mem_append_right early List.mem_cons_self
  have hSame (hConf : state'.conf = state.conf) :
      Granted (early ++ [next]) state' := by
    refine ⟨hConf ▸ hGranted.notAll, ?_⟩
    intro event hPermits
    exact (hGranted.permits event (hConf ▸ hPermits)).append _
  cases next with
  | requestRemoteForwarding port host remotePort reply =>
      rcases channelRequestRemoteForwarding_ok port hResult with
        rfl | ⟨rfl, rfl⟩
      · exact hSame rfl
      · refine ⟨hGranted.notAll, ?_⟩
        intro event hPermits
        cases event with
        | connectsTo host' port' =>
            rcases List.mem_append.mp hPermits with hOld | hNew
            · exact
                (hGranted.permits (.connectsTo host' port')
                  hOld).append _
            · cases List.mem_singleton.mp hNew
              exact ⟨port, hLast⟩
        | connectsToDisplay =>
            exact
              (hGranted.permits .connectsToDisplay
                hPermits).append _
        | connectsToAgent =>
            exact
              (hGranted.permits .connectsToAgent
                hPermits).append _
  | requestX11 auth reply =>
      rcases x11RequestForwardingWithSpoofing_ok hResult with
        ⟨data, rfl, rfl⟩
      refine ⟨hGranted.notAll, ?_⟩
      intro event hPermits
      cases event with
      | connectsToDisplay => exact ⟨data, reply, hLast⟩
      | connectsTo host port =>
          exact
            (hGranted.permits (.connectsTo host port)
              hPermits).append _
      | connectsToAgent =>
          exact
            (hGranted.permits .connectsToAgent
              hPermits).append _
  | requestAgent reply =>
      rw [authRequestForwarding_ok hResult]
      refine ⟨hGranted.notAll, ?_⟩
      intro event hPermits
      cases event with
      | connectsToAgent => exact ⟨reply, hLast⟩
      | connectsTo host port =>
          exact
            (hGranted.permits (.connectsTo host port)
              hPermits).append _
      | connectsToDisplay =>
          exact
            (hGranted.permits .connectsToDisplay
              hPermits).append _
  | message packet =>
      exact hSame
        (processPacket_sameConf packet state () state' hResult)
  | prepareSelect =>
      exact hSame
        (changeTable_sameConf _ state () state' hResult)
  | afterSelect io =>
      exact hSame
        (changeTable_sameConf _ state () state' hResult)
  | outputPoll notVeryMuch =>
      exact hSame
        (changeTable_sameConf _ state () state' hResult)
  | listenPort port host hostPort socket =>
      exact hSame
        (changeTable_sameConf _ state () state' hResult)

/- What is permitted after any steps was asked for in them. -/
theorem steps_granted
    {early late : List ClientStep}
    {state state' : OpensState}
    (hGranted : Granted early state)
    (hResult : (steps late state).result = .ok ((), state')) :
    Granted (early ++ late) state' := by
  induction late generalizing early state with
  | nil =>
      cases hResult
      rw [List.append_nil]
      exact hGranted
  | cons first rest ih =>
      rcases bind_ok hResult with
        ⟨_, mid, hFirst, hRest, -⟩
      have hMid := step_granted hGranted hFirst
      have hFinal := ih hMid hRest
      rw [List.append_assoc] at hFinal
      exact hFinal

end ClientSide

end Ssh1
