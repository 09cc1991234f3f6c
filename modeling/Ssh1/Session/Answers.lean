import Ssh1.Session.Requests

/-
  How the server answers a request of the client.

  Each request is answered by a success or by a failure,
  unless a call of the server fails so that it ends.

  Main declarations:
    * `ClientRequest.Serves`
    * `turn_answers`
    * `turn_starts`
    * `grantedPty_junk`
-/

------------------------------------------------------------
-- X11 and the Agent
------------------------------------------------------------

namespace Ssh1

open Recorded
open Preparing

variable {conf : PrepConf}
variable {ops : LocalOps}
variable {server : PrepState}
variable {x11 : X11Request}

/- The fields of an X11 request, one by one. -/
theorem x11Payload_eq (x11 : X11Request) :
    (ClientRequest.x11 (some x11)).payload =
      bufferPutString [] x11.proto ++
        (bufferPutString [] x11.newData ++
          packetPutInt32 [] x11.screenNumber) := by
  simp [ClientRequest.payload, packetPutInt32,
    bufferPutString, bufferPutInt, bufferAppend,
    List.append_assoc]

/- The screen is there, so that it is read. -/
theorem x11Payload_read
    (hArrived : Arrived (.x11 (some x11)) server) :
    bufferGetString server.incomingPacket =
        .ok (x11.proto,
          bufferPutString [] x11.newData ++
            packetPutInt32 [] x11.screenNumber) ∧
      bufferGetString
          (bufferPutString [] x11.newData ++
            packetPutInt32 [] x11.screenNumber) =
        .ok (x11.newData, packetPutInt32 [] x11.screenNumber) ∧
      packetGetInt32 (packetPutInt32 [] x11.screenNumber) =
        .ok (x11.screenNumber.value, []) := by
  have hFits := hArrived.fits
  rw [x11Payload_eq] at hFits
  simp only [List.length_append, bufferPutString,
    bufferPutInt, bufferAppend] at hFits
  have hScreen := packetGetInt32_put x11.screenNumber []
  rw [List.append_nil] at hScreen
  rw [hArrived.packet, x11Payload_eq]
  exact ⟨bufferGetString_bufferPutString_append (by omega) _,
    bufferGetString_bufferPutString_append (by omega) _,
    hScreen⟩

/- The display is made, or refused, or the server ends. -/
theorem x11CreateDisplayInet_processed
    {state : PrepState}
    (screen : Int)
    (hArrived : Arrived (.x11 (some x11)) server)
    (hState :
      state =
        { server with
          incomingPacket := []
          proto := x11.proto
          data := x11.newData }) :
    Processed conf ops (.x11 (some x11)) server
      (x11CreateDisplayInet ops.x11Socket screen state) := by
  have hNone := hArrived.fresh.x11 rfl
  have hEnable := hArrived.enable
  cases hSocket : ops.x11Socket with
  | failed =>
      refine .failure _ [] rfl rfl ?_
      rw [hState]
      constructor
      case enable => simpa using hEnable
      case counted => exact hArrived.counted
      case forwards => simp
      all_goals simp
  | noHostname cause =>
      exact .ended _ rfl (.gethostname x11 cause hSocket)
  | created sock display =>
      have hX11 : ChannelType.x11Listener ≠ .free := by
        simp
      have hPort :
          ChannelType.x11Listener ≠ .portListener := by
        simp
      rcases createListener_forwards sock [] hX11 hPort
          hArrived.counted with
        ⟨table', hCreate, hCounted, hForwards⟩
      have hTable : state.table = server.table := by
        rw [hState]
      rw [← hTable] at hCreate
      have hRun :
          x11CreateDisplayInet (.created sock display) screen
              state =
            ⟨[.listenedX11], .ok (.success,
              { state with
                table := table'
                display := some (display screen) })⟩ := by
        unfold x11CreateDisplayInet
        refine bind_of_ok (record_apply _ _) ?_
        rw [get_bind, ofOutcome_bind hCreate, modify_bind]
        rfl
      rw [hRun, hState]
      refine .success _ rfl rfl ?_
      constructor
      case enable =>
        simpa [ClientRequest.isCompression] using hEnable
      case counted => exact hCounted
      case forwards =>
        simpa [ClientRequest.AsksFor] using hForwards
      all_goals
        simp [ClientRequest.isPty, ClientRequest.isX11,
          ClientRequest.isAgent]

/- An X11 request is granted or refused. -/
theorem x11RequestForwarding_processed
    (hArrived : Arrived (.x11 (some x11)) server) :
    Processed conf ops (.x11 (some x11)) server
      (x11RequestForwarding conf ops server) := by
  have hNone : ¬ server.display.isSome := by
    rw [hArrived.fresh.x11 rfl]
    simp
  rcases x11Payload_read hArrived with
    ⟨hProto, hData, hScreen⟩
  unfold x11RequestForwarding
  by_cases hOption : conf.x11Forwarding
  · rw [if_neg (not_not.mpr hOption)]
    by_cases hFlag : conf.noX11ForwardingFlag
    · rw [if_pos hFlag]
      exact .refuse _ hArrived
    rw [if_neg hFlag, get_bind, if_neg hNone]
    by_cases hXauth : ops.xauthFound
    · have hLeft :
          (packetPutInt32 [] x11.screenNumber).length > 0 := by
        simp [packetPutInt32, bufferPutInt, bufferAppend]
      rw [if_neg (not_not.mpr hXauth), packetGet_bind hProto,
        packetGet_bind hData, modify_bind, get_bind,
        if_pos (Or.inr hLeft), packetGet_bind hScreen]
      exact x11CreateDisplayInet_processed _ hArrived rfl
    · rw [if_pos hXauth]
      exact .refuse _ hArrived
  · rw [if_pos hOption]
    exact .refuse _ hArrived

/- A debug message goes out if they are on. -/
theorem packetSendDebug_apply
    (message : String)
    (state : PrepState) :
    packetSendDebug conf message state =
      ⟨debugEvents (if conf.packetDebugOn then [message] else []),
        .ok ((), state)⟩ := by
  unfold packetSendDebug
  cases conf.packetDebugOn with
  | true => rfl
  | false => rfl

/- Some of the messages go out. -/
theorem sendMessages_apply
    (messages : List String)
    (state : PrepState) :
    ∃ sent,
      sendMessages conf messages state =
        ⟨debugEvents sent, .ok ((), state)⟩ := by
  induction messages with
  | nil => exact ⟨[], rfl⟩
  | cons message messages ih =>
      rcases ih with ⟨sent, hRest⟩
      refine ⟨(if conf.packetDebugOn then [message] else []) ++
        sent, ?_⟩
      unfold sendMessages
      rw [bind_apply, packetSendDebug_apply, andThen_ok, hRest,
        debugEvents, debugEvents, debugEvents, List.map_append]

/- A name that was set does not stand for a socket. -/
theorem agentRequestForwarding_processed
    (hArrived : Arrived .agent server) :
    Processed conf ops .agent server
      (agentRequestForwarding conf ops server) := by
  have hNone : ¬ server.agentSocketName := by
    rw [hArrived.fresh.agent rfl]
    simp
  have hEnable := hArrived.enable
  unfold agentRequestForwarding
  by_cases hFlag : conf.noAgentForwardingFlag
  · rw [if_pos hFlag]
    exact .refused [] hArrived rfl
  rw [if_neg hFlag]
  by_cases hBug : conf.oldAgentBug
  · rw [if_pos hBug]
    exact .failed hArrived rfl
  rw [if_neg hBug]
  unfold authInputRequestForwarding
  rw [get_bind, if_neg hNone, modify_bind]
  cases hSocket : ops.agentSocket with
  | refused messages =>
      rcases sendMessages_apply messages
          { server with agentSocketName := true } with
        ⟨sent, hSent⟩
      dsimp only
      rw [bind_apply, hSent, andThen_ok, pure_apply,
        List.append_nil]
      refine .failure _ sent (sentPackets_debug sent) rfl ?_
      constructor
      case enable => simpa using hEnable
      case counted => exact hArrived.counted
      case forwards => simp
      all_goals simp [ClientRequest.isAgent]
  | failed message =>
      exact .ended _ rfl (.agentSocket message hSocket)
  | created sock path =>
      have hAuth : ChannelType.authListener ≠ .free := by
        simp
      have hPort :
          ChannelType.authListener ≠ .portListener := by
        simp
      rcases createListener_forwards sock path hAuth hPort
          hArrived.counted with
        ⟨table', hCreate, hCounted, hForwards⟩
      dsimp only
      rw [bind_apply, record_apply, andThen_ok, get_bind,
        ofOutcome_bind hCreate, modify_bind, pure_apply]
      refine .success _ rfl rfl ?_
      constructor
      case enable =>
        simpa [ClientRequest.isCompression] using hEnable
      case counted => exact hCounted
      case forwards =>
        simpa [ClientRequest.AsksFor] using hForwards
      case drained => exact fun _ => hArrived.packet
      all_goals
        simp [ClientRequest.isPty, ClientRequest.isX11,
          ClientRequest.isAgent]

end Ssh1

------------------------------------------------------------
-- Ports
------------------------------------------------------------

namespace Ssh1

open Recorded
open Preparing

variable {conf : PrepConf}
variable {ops : LocalOps}
variable {server : PrepState}
variable {forward : ForwardRequest}

theorem forwardPayload_eq (forward : ForwardRequest) :
    (ClientRequest.forward forward).payload =
      packetPutInt32 [] forward.port ++
        (bufferPutString [] forward.host ++
          packetPutInt32 [] forward.hostPort) := by
  simp [ClientRequest.payload, packetPutInt32,
    bufferPutString, bufferPutInt, bufferAppend,
    List.append_assoc]

/- The server reads the forward as the client put it. -/
theorem forwardPayload_read
    (hArrived : Arrived (.forward forward) server) :
    packetGetInt32 server.incomingPacket =
        .ok (forward.port.value,
          bufferPutString [] forward.host ++
            packetPutInt32 [] forward.hostPort) ∧
      bufferGetString
          (bufferPutString [] forward.host ++
            packetPutInt32 [] forward.hostPort) =
        .ok (forward.host,
          packetPutInt32 [] forward.hostPort) ∧
      packetGetInt32 (packetPutInt32 [] forward.hostPort) =
        .ok (forward.hostPort.value, []) := by
  have hFits := hArrived.fits
  rw [forwardPayload_eq] at hFits
  simp only [List.length_append, bufferPutString,
    bufferPutInt, bufferAppend] at hFits
  have hPort := packetGetInt32_put forward.hostPort []
  rw [List.append_nil] at hPort
  rw [hArrived.packet, forwardPayload_eq]
  exact ⟨packetGetInt32_put _ _,
    bufferGetString_bufferPutString_append (by omega) _, hPort⟩

/- The port is listened on, or the server ends. -/
theorem listenOn_processed
    (hArrived : Arrived (.forward forward) server) :
    Processed conf ops (.forward forward) server
      (listenOn forward.port.value forward.host
        forward.hostPort.value ops.listening
        { server with incomingPacket := [] }) := by
  have hEnable := hArrived.enable
  unfold listenOn
  cases hListening : ops.listening with
  | error message =>
      dsimp only
      rw [get_bind]
      unfold channelRequestLocalForwarding
      by_cases hLong : forward.host.length > 199
      · rw [if_pos hLong]
        exact .ended _ rfl (.longForward forward hLong)
      · rw [if_neg hLong]
        exact .ended _ rfl
          (.listening forward message hListening)
  | ok sock =>
      by_cases hLong : forward.host.length > 199
      · have hShort : ¬ forward.host.length ≤ 199 := by
          omega
        dsimp only
        rw [if_neg hShort, get_bind]
        unfold channelRequestLocalForwarding
        rw [if_pos hLong]
        exact .ended _ rfl (.longForward forward hLong)
      · have hShort : forward.host.length ≤ 199 := by
          omega
        rcases channelRequestLocalForwarding_forwards
            forward.port.value forward.hostPort.value sock
            hShort hArrived.counted with
          ⟨table', hListen, hCounted, hForwards⟩
        dsimp only
        rw [if_pos hShort, bind_apply, record_apply,
          andThen_ok, get_bind, ofOutcome_bind hListen,
          modify_bind, pure_apply]
        refine .success _ rfl rfl ?_
        constructor
        case enable =>
          simpa [ClientRequest.isCompression] using hEnable
        case counted => exact hCounted
        case forwards =>
          intro host port
          rw [hForwards]
          simp [ClientRequest.AsksFor]
        all_goals
          simp [ClientRequest.isPty, ClientRequest.isX11]

/- A forward is granted or refused. -/
theorem portForwardRequest_processed
    (hArrived : Arrived (.forward forward) server) :
    Processed conf ops (.forward forward) server
      (portForwardRequest conf ops server) := by
  rcases forwardPayload_read hArrived with
    ⟨hPort, hHost, hHostPort⟩
  unfold portForwardRequest
  by_cases hRefused :
      conf.noPortForwardingFlag ∨ ¬ conf.allowTcpForwarding
  · rw [if_pos hRefused]
    exact .refused [] hArrived rfl
  rw [if_neg hRefused]
  unfold channelInputPortForwardRequest
  rw [packetGet_bind hPort, packetGet_bind hHost,
    packetGet_bind hHostPort, forward.isString]
  by_cases hLong : forward.host.length > 255
  · rw [if_pos hLong]
    exact .ended _ rfl (.longHost forward hLong)
  rw [if_neg hLong]
  by_cases hRoot :
      (forward.port.value < 1024 ∨
        forward.port.value > 65535) ∧ ¬ conf.userIsRoot
  · rw [if_pos hRoot]
    exact .ended _ rfl
      (.notRoot forward (by simpa using hRoot.2) hRoot.1)
  · rw [if_neg hRoot]
    exact listenOn_processed hArrived

end Ssh1

------------------------------------------------------------
-- Answers
------------------------------------------------------------

namespace Ssh1

open Recorded
open Preparing

namespace ClientRequest

/- The level of compression that is asked for. -/
def level : ClientRequest → Option Int
| .compression level => some level
| _ => none

/- What is started for the client, if it asks for that. -/
def starts
    (forced : Option (List UInt8)) :
    ClientRequest → Option ExecRequest
| .shell => some (forced.elim .shell .command)
| .command text => some (.command (forced.getD text))
| _ => none

/- What the client checks before it sends the request. -/
structure Sendable (request : ClientRequest) : Prop where
  level :
    ∀ level, request = .compression level →
      1 ≤ level ∧ level ≤ 9
  x11 : request ≠ .x11 none
  size : request.size < maxSize - 30

/- What the server is like after it has replied. -/
structure Answers
    (request : ClientRequest)
    (success : Bool)
    (server server' : PrepState) : Prop where
  drained : server'.incomingPacket = []
  enable : server'.enableCompressionAfterReply = false
  compression :
    server'.compression =
      if success then
        request.level.or server.compression
      else
        server.compression
  interactive : server'.interactive = server.interactive
  havePty :
    server'.havePty = (server.havePty || request.isPty && success)
  display :
    server'.display.isSome =
      (server.display.isSome || request.isX11 && success)
  agent :
    request.isAgent = false →
      server'.agentSocketName = server.agentSocketName
  forwards :
    ∀ host port,
      server'.table.Forwards host port ↔
        server.table.Forwards host port ∨
          success ∧ request.AsksFor host port
  counted : server'.table.Counted

end ClientRequest

/- The reply to a request that was granted or not. -/
def replyPacket : Bool → ServerPacket
| true => successPacket
| false => failurePacket

/- How one turn of the server ends, for a request. -/
inductive Answered
    (conf : PrepConf)
    (ops : LocalOps)
    (request : ClientRequest)
    (server : PrepState)
    (run :
      Recorded.Run ServerEvent Halt PrepState
        (Option ExecRequest)) :
    Prop where
  | ended
      (halt : Halt)
      (hResult : run.result = .error halt)
      (hEnds : ServerEnds conf ops request halt)
  | replied
      (success : Bool)
      (server' : PrepState)
      (messages : List String)
      (hSent :
        sentPackets run.events =
          messages.map debugPacket ++ [replyPacket success])
      (hResult : run.result = .ok (none, server'))
      (hAnswers : request.Answers success server server')

variable {conf : PrepConf}
variable {ops : LocalOps}
variable {request : ClientRequest}
variable {server state : PrepState}

/- The reply leaves the rest as the request has left it. -/
theorem ClientRequest.Serves.answers
    {success : Bool}
    {compression : Option Int}
    (hServes : request.Serves success server state)
    (hCompression :
      compression =
        if success then
          request.level.or server.compression
        else
          server.compression) :
    request.Answers success server
      { state with
        incomingPacket := []
        enableCompressionAfterReply := false
        compression } where
  drained := rfl
  enable := rfl
  compression := hCompression
  interactive := hServes.interactive
  havePty := hServes.havePty
  display := hServes.display
  agent := hServes.agent
  forwards := hServes.forwards
  counted := hServes.counted

/- An answer is not about the packet that was read. -/
theorem ClientRequest.Answers.moved
    {success : Bool}
    {server' : PrepState}
    {buffer : Buffer}
    (hAnswers :
      request.Answers success
        { server with incomingPacket := buffer } server') :
    request.Answers success server server' :=
  ⟨hAnswers.drained, hAnswers.enable, hAnswers.compression,
    hAnswers.interactive, hAnswers.havePty, hAnswers.display,
    hAnswers.agent, hAnswers.forwards, hAnswers.counted⟩

/- A success that is not about compression. -/
theorem reportSuccess_plain
    (hEnable : state.enableCompressionAfterReply = false) :
    reportSuccess state =
      ⟨[.sent successPacket], .ok ((), state)⟩ := by
  have hOff : ¬ state.enableCompressionAfterReply := by
    simp [hEnable]
  unfold reportSuccess
  rw [bind_apply, Serving.packetSend_apply, andThen_ok,
    get_bind, if_neg hOff]
  rfl

theorem level_eq_none
    (hOther : request.isCompression = false) :
    request.level = none := by
  cases request with
  | compression level =>
      simp [ClientRequest.isCompression] at hOther
  | _ => rfl

/- Compression is switched on if that was asked for. -/
theorem reportSuccess_apply
    (hFresh : request.Fresh server)
    (hServes : request.Serves true server state) :
    reportSuccess state =
      ⟨[.sent successPacket], .ok ((),
        { state with
          incomingPacket := []
          enableCompressionAfterReply := false
          compression :=
            request.level.or server.compression })⟩ := by
  have hDrained := hServes.drained rfl
  have hEnable := hServes.enable
  have hSame := hServes.compression
  rw [Bool.and_true] at hEnable
  cases hCompression : request.isCompression with
  | false =>
      rw [hCompression] at hEnable
      rw [reportSuccess_plain hEnable,
        level_eq_none hCompression, Option.none_or,
        ← hDrained, ← hEnable, ← hSame]
  | true =>
      have hNone := hFresh.compression hCompression
      cases request with
      | compression level =>
          have hLevel := hServes.level level rfl rfl
          have hOff : ¬ state.compression.isSome := by
            simp [hSame, hNone]
          unfold reportSuccess packetStartCompression
          rw [hCompression] at hEnable
          rw [bind_apply, Serving.packetSend_apply, andThen_ok,
            get_bind, if_pos hEnable, modify_bind, get_bind,
            if_neg hOff, hLevel, ← hDrained]
          rfl
      | _ => simp [ClientRequest.isCompression] at hCompression

theorem reportFailure_apply
    (hServes : request.Serves false server state) :
    reportFailure state =
      ⟨[.sent failurePacket], .ok ((),
        { state with
          incomingPacket := []
          enableCompressionAfterReply := false
          compression := server.compression })⟩ := by
  have hEnable := hServes.enable
  rw [Bool.and_false] at hEnable
  rw [← hEnable, ← hServes.compression]
  rfl

/- The request is none of the messages on the way. -/
theorem type_notMem (request : ClientRequest) :
    request.type ∉ handledTypes := by
  cases request <;>
    simp only [ClientRequest.type] <;>
    decide

/- The server processes what the client may have sent. -/
theorem processRequest_processed
    (conf : PrepConf)
    (hTerminal : ops.ttyAttributes.isSome)
    (hExec : request.isExec = false)
    (hSendable : request.Sendable)
    (hArrived : Arrived request server) :
    Processed conf ops request server
      (processRequest conf ops request.type server) := by
  cases request with
  | compression level =>
      exact requestCompression_processed
        (hSendable.level level rfl) hArrived
  | pty _ => exact requestPty_processed hTerminal hArrived
  | x11 x11 =>
      cases x11 with
      | none => exact absurd rfl hSendable.x11
      | some x11 =>
          exact x11RequestForwarding_processed hArrived
  | agent => exact agentRequestForwarding_processed hArrived
  | forward _ => exact portForwardRequest_processed hArrived
  | shell => simp [ClientRequest.isExec] at hExec
  | command _ => simp [ClientRequest.isExec] at hExec

/-
  Each request is answered once, by a success or a failure,
  unless the server ends for a reason of its own.
-/
theorem turn_answers
    (conf : PrepConf)
    (hTerminal : ops.ttyAttributes.isSome)
    (hExec : request.isExec = false)
    (hSendable : request.Sendable)
    (hEmpty : server.incomingPacket = [])
    (hEnable : server.enableCompressionAfterReply = false)
    (hCounted : server.table.Counted)
    (hFresh : request.Fresh server) :
    Answered conf ops request server
      (turn conf (request.type :: request.payload) ops
        server) := by
  have hTaken :=
    takePacket_request request.payload hEmpty
      (type_notMem request)
  have hSize := hSendable.size
  have hArrived :
      Arrived request
        { server with incomingPacket := request.payload } := by
    refine ⟨rfl, ?_, hEnable, hCounted, ?_⟩
    · unfold ClientRequest.size ClientRequest.maxSize at hSize
      unfold maxStringLength
      omega
    · exact ⟨hFresh.compression, hFresh.pty, hFresh.x11,
        hFresh.agent⟩
  have hProcessed :=
    processRequest_processed conf hTerminal hExec hSendable
      hArrived
  generalize hRun : processRequest conf ops request.type
    { server with incomingPacket := request.payload } = run
    at hProcessed
  rcases run with ⟨events, result⟩
  cases hProcessed with
  | ended halt hResult hEnds =>
      cases hResult
      have hTurn :
          turn conf (request.type :: request.payload) ops
              server = ⟨[] ++ events, .error halt⟩ :=
        bind_of_ok hTaken (bind_of_error hRun)
      rw [hTurn]
      exact .ended halt rfl hEnds
  | success state hSent hResult hServes =>
      cases hResult
      have hReport := reportSuccess_apply hArrived.fresh hServes
      have hTurn :
          turn conf (request.type :: request.payload) ops
              server =
            ⟨[] ++ (events ++ ([.sent successPacket] ++ [])),
              .ok (none, _)⟩ :=
        bind_of_ok hTaken
          (bind_of_ok hRun (bind_of_ok hReport rfl))
      rw [hTurn]
      refine .replied true _ [] ?_ rfl
        (hServes.answers rfl).moved
      rw [List.nil_append, sentPackets_append, hSent]
      rfl
  | failure state messages hSent hResult hServes =>
      cases hResult
      have hReport := reportFailure_apply hServes
      have hTurn :
          turn conf (request.type :: request.payload) ops
              server =
            ⟨[] ++ (events ++ ([.sent failurePacket] ++ [])),
              .ok (none, _)⟩ :=
        bind_of_ok hTaken
          (bind_of_ok hRun (bind_of_ok hReport rfl))
      rw [hTurn]
      refine .replied false _ messages ?_ rfl
        (hServes.answers rfl).moved
      rw [List.nil_append, sentPackets_append, hSent]
      rfl

/- A shell, or the command that is forced. -/
theorem execShell_apply
    (conf : PrepConf)
    (state : PrepState) :
    execShell conf state =
      ⟨[], .ok (.exec (conf.forcedCommand.elim .shell .command),
        { state with
          interactive :=
            state.havePty ∨ state.display.isSome })⟩ := by
  unfold execShell packetSetInteractive
  rw [modify_bind]
  cases conf.forcedCommand with
  | none => rfl
  | some forced => rfl

/- The command is taken, also where another one is forced. -/
theorem execCmd_apply
    {text : List UInt8}
    (conf : PrepConf)
    (hText : text.length ≤ maxStringLength)
    (hPacket : state.incomingPacket = bufferPutString [] text) :
    execCmd conf state =
      ⟨[], .ok (.exec (.command (conf.forcedCommand.getD text)),
        { state with
          incomingPacket := []
          interactive :=
            state.havePty ∨ state.display.isSome })⟩ := by
  have hRead := bufferGetString_bufferPutString_append hText []
  rw [List.append_nil, ← hPacket] at hRead
  unfold execCmd packetSetInteractive
  rw [modify_bind]
  generalize hState :
    { state with
      interactive := decide
        (state.havePty ∨ state.display.isSome) } = state'
  have hGet :
      bufferGetString state'.incomingPacket =
        .ok (text, []) := by
    rw [← hState]
    exact hRead
  rw [packetGet_bind hGet, ← hState]
  rfl

/- The last request starts the session. -/
theorem turn_starts
    (conf : PrepConf)
    (ops : LocalOps)
    (hExec : request.isExec)
    (hSendable : request.Sendable)
    (hEmpty : server.incomingPacket = []) :
    ∃ exec,
      request.starts conf.forcedCommand = some exec ∧
        turn conf (request.type :: request.payload) ops
            server =
          ⟨[], .ok (some exec,
            { server with
              incomingPacket := []
              interactive :=
                server.havePty ∨ server.display.isSome })⟩ := by
  have hTaken :=
    takePacket_request request.payload hEmpty
      (type_notMem request)
  cases request with
  | shell =>
      exact ⟨_, rfl, bind_of_ok hTaken
        (bind_of_ok (execShell_apply conf _) rfl)⟩
  | command text =>
      have hSize := hSendable.size
      have hText : text.length ≤ maxStringLength := by
        simp only [ClientRequest.size, ClientRequest.payload,
          ClientRequest.maxSize, bufferPutString,
          bufferPutInt, bufferAppend,
          List.length_append] at hSize
        unfold maxStringLength
        omega
      exact ⟨_, rfl, bind_of_ok hTaken
        (bind_of_ok (execCmd_apply conf hText rfl) rfl)⟩
  | _ => simp [ClientRequest.isExec] at hExec

end Ssh1

------------------------------------------------------------
-- Modes that are not Read
------------------------------------------------------------

namespace Ssh1

open Recorded
open Preparing

/- The client gets a pty. -/
structure GrantsPty
    (conf : PrepConf)
    (ops : LocalOps) : Prop where
  permitted : conf.noPtyFlag = false
  allocated : ops.ptyAllocate = true
  chown : ops.chown = false → conf.runsAsRoot = false
  chmod : ops.chmod = false → conf.runsAsRoot = false

variable {conf : PrepConf}
variable {ops : LocalOps}
variable {request : PtyRequest}
variable {server : PrepState}

/- A terminal that is granted is allocated before its modes
  are read. -/
theorem requestPty_granted
    (hGrants : GrantsPty conf ops)
    (hNone : server.havePty = false) :
    requestPty conf ops server =
      ⟨.allocatedPty :: (readPty conf ops server).events,
        (readPty conf ops server).result⟩ := by
  rcases hGrants with ⟨hPermitted, hAllocated, hChown, hChmod⟩
  have hOwned : ¬ (¬ ops.chown ∧ conf.runsAsRoot) := by
    simpa using hChown
  have hMode : ¬ (¬ ops.chmod ∧ conf.runsAsRoot) := by
    simpa using hChmod
  unfold requestPty
  rw [if_neg (by simp [hPermitted]), get_bind,
    if_neg (by simp [hNone]), if_neg (by simp [hAllocated]),
    bind_apply, record_apply, andThen_ok, if_neg hOwned,
    if_neg hMode]
  rfl

/- What is left of a packet ends the server at the next. -/
theorem turn_junk
    (conf : PrepConf)
    (body : Buffer)
    (ops : LocalOps)
    (hLeft : server.incomingPacket ≠ []) :
    turn conf body ops server =
      ⟨[.sent (disconnectPacket Session.junkMessage)],
        .error (.disconnect Session.junkMessage)⟩ := by
  have hLength : server.incomingPacket.length ≠ 0 := by
    simpa using hLeft
  unfold turn
  refine bind_of_error ?_
  unfold takePacket
  rw [get_bind, if_pos hLength]
  rfl

/-
  Where the attributes of the pty cannot be read, its modes
  stay in the packet. The request is answered by a success,
  and the next packet ends the server, whatever it is.
-/
theorem grantedPty_junk
    {body modes : Buffer}
    {term : List UInt8}
    (hGrants : GrantsPty conf ops)
    (hUnread : ops.ttyAttributes = none)
    (hBody : PtyBody body term modes)
    (hModes : modes ≠ [])
    (hEmpty : server.incomingPacket = [])
    (hEnable : server.enableCompressionAfterReply = false)
    (hNone : server.havePty = false) :
    ∃ server',
      (turn conf (sshCmsgRequestPty :: body) ops
          server).result = .ok (none, server') ∧
        sentPackets
            (turn conf (sshCmsgRequestPty :: body) ops
              server).events = [successPacket] ∧
        ∀ next ops',
          turn conf next ops' server' =
            ⟨[.sent (disconnectPacket Session.junkMessage)],
              .error (.disconnect Session.junkMessage)⟩ := by
  have hOther : sshCmsgRequestPty ∉ handledTypes := by
    decide
  have hTaken := takePacket_request body hEmpty hOther
  have hKept :
      ttyParseModes conf.termios ops.ttyAttributes modes =
        .ok (none, modes) := by
    rw [hUnread]
    rfl
  have hRequest :=
    @requestPty_granted conf ops
      { server with incomingPacket := body } hGrants hNone
  rw [readPty_apply hBody hKept] at hRequest
  have hTurn :
      turn conf (sshCmsgRequestPty :: body) ops server =
        ⟨[] ++ ([.allocatedPty] ++
            ([.sent successPacket] ++ [])), .ok (none, _)⟩ :=
    bind_of_ok hTaken (bind_of_ok hRequest
      (bind_of_ok (reportSuccess_plain (by exact hEnable))
        rfl))
  rw [hTurn]
  exact ⟨_, rfl, rfl, fun next ops' =>
    turn_junk conf next ops' hModes⟩

/- A pty of which the attributes are not there. -/
def unreadOps : LocalOps where
  ptyAllocate := true
  chown := true
  chmod := true
  ttyAttributes := none
  xauthFound := false
  x11Socket := .failed
  agentSocket := .refused []
  listening := .error "bind: Address already in use"

/- A request for a pty, with two bytes of modes. -/
def junkPtyBody : Buffer :=
  bufferPutString [] [118, 116] ++ List.replicate 16 0 ++
    [161, 0]

theorem grantedPty_junk_sample :
    GrantsPty noTcpConf unreadOps ∧
      ∃ server',
        (turn noTcpConf (sshCmsgRequestPty :: junkPtyBody)
            unreadOps (.initial clearedMemory)).result =
            .ok (none, server') ∧
          sentPackets
              (turn noTcpConf
                (sshCmsgRequestPty :: junkPtyBody) unreadOps
                (.initial clearedMemory)).events =
            [successPacket] ∧
          ∀ next ops',
            turn noTcpConf next ops' server' =
              ⟨[.sent
                  (disconnectPacket Session.junkMessage)],
                .error (.disconnect Session.junkMessage)⟩ := by
  have hGrants : GrantsPty noTcpConf unreadOps :=
    ⟨rfl, rfl, by simp [unreadOps], by simp [unreadOps]⟩
  have hTerm :
      bufferGetString junkPtyBody =
        .ok ([118, 116], List.replicate 16 0 ++ [161, 0]) := by
    decide +kernel
  have hBody : PtyBody junkPtyBody [118, 116] [161, 0] :=
    ⟨_, _, _, _, _, _, _, _, hTerm, rfl, rfl, rfl, rfl⟩
  exact ⟨hGrants,
    grantedPty_junk hGrants rfl hBody (by simp) rfl rfl rfl⟩

end Ssh1
