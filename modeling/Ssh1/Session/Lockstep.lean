import Ssh1.Session.Replies

/-
  Client and server stay in step while a session is prepared.

  Either the client is about to send its next request and
  both know the same, or one request is on its way, or its
  answer is. So no packet is read as something else than
  what was sent, whatever the requests are and whatever the
  server makes of them.

  Main declarations:
    * `SetupNet.Phase`
    * `SetupNet.LockStep`
    * `setupInLockStep`
-/

------------------------------------------------------------
-- Steps of the Two Programs
------------------------------------------------------------

namespace Ssh1

open Preparing

namespace SetupNet

variable {conf : PrepConf}
variable {ops : LocalOps}
variable {net : SetupNet}
variable {request : ClientRequest}
variable {client : ClientPrep}
variable {wire : Wire}
variable {wires : List Wire}

/- A client that waits for a reply sends nothing. -/
theorem clientSends_waiting
    (hWaiting : net.waiting = some request) :
    net.clientSends = .ok net := by
  unfold clientSends
  rw [hWaiting]

/- A client that has asked for all sends nothing. -/
theorem clientSends_done
    (hRemaining : net.remaining = []) :
    net.clientSends = .ok net := by
  unfold clientSends
  rw [hRemaining]
  cases net.waiting <;> rfl

/- A request that cannot be made ends the client. -/
theorem clientSends_halt
    {rest : List ClientRequest}
    {halt : Halt}
    (hWaiting : net.waiting = none)
    (hRemaining : net.remaining = request :: rest)
    (hStart : request.start net.client = .error halt) :
    net.clientSends = .error (.client halt) := by
  unfold clientSends
  rw [hWaiting, hRemaining]
  dsimp only
  rw [hStart]

/- The next request goes out, and the client waits. -/
theorem clientSends_request
    {rest : List ClientRequest}
    (hWaiting : net.waiting = none)
    (hRemaining : net.remaining = request :: rest)
    (hStart : request.start net.client = .ok client) :
    net.clientSends =
      .ok { net with
        client
        remaining := rest
        waiting :=
          if request.isExec then none else some request
        toServer :=
          net.toServer ++
            [request.wire net.client.compression.isSome] } := by
  unfold clientSends
  rw [hWaiting, hRemaining]
  dsimp only
  rw [hStart]

/- There is nothing that the client waits for, or nothing
  to read. -/
theorem clientReads_idle
    (hIdle : net.waiting = none ∨ net.toClient = []) :
    net.clientReads = .ok net := by
  unfold clientReads
  rcases hIdle with hWaiting | hNone
  · rw [hWaiting]
  · rw [hNone]
    cases net.waiting <;> rfl

/- A debug message is passed over. -/
theorem clientReads_message
    (hWaiting : net.waiting = some request)
    (hToClient : net.toClient = wire :: wires)
    (hCompressed :
      wire.compressed = net.client.compression.isSome)
    (hTake :
      net.client.takePacket wire.body = .ok (none, client)) :
    net.clientReads =
      .ok { net with client, toClient := wires } := by
  unfold clientReads
  rw [hWaiting, hToClient]
  dsimp only
  rw [if_neg (not_not.mpr hCompressed), hTake]

/- The reply ends the waiting. -/
theorem clientReads_reply
    {reply : UInt8}
    {client' : ClientPrep}
    (hWaiting : net.waiting = some request)
    (hToClient : net.toClient = wire :: wires)
    (hCompressed :
      wire.compressed = net.client.compression.isSome)
    (hTake :
      net.client.takePacket wire.body =
        .ok (some reply, client))
    (hFinish : request.finish reply client = .ok client') :
    net.clientReads =
      .ok { net with
        client := client'
        waiting := none
        toClient := wires
        clientLog :=
          net.clientLog ++ [(request.type, reply)] } := by
  unfold clientReads
  rw [hWaiting, hToClient]
  dsimp only
  rw [if_neg (not_not.mpr hCompressed), hTake]
  dsimp only
  rw [hFinish]

/- A reply that the client rejects ends it. -/
theorem clientReads_halt
    {reply : UInt8}
    {halt : Halt}
    (hWaiting : net.waiting = some request)
    (hToClient : net.toClient = wire :: wires)
    (hCompressed :
      wire.compressed = net.client.compression.isSome)
    (hTake :
      net.client.takePacket wire.body =
        .ok (some reply, client))
    (hFinish : request.finish reply client = .error halt) :
    net.clientReads = .error (.client halt) := by
  unfold clientReads
  rw [hWaiting, hToClient]
  dsimp only
  rw [if_neg (not_not.mpr hCompressed), hTake]
  dsimp only
  rw [hFinish]

/- The server has started the session, or has no request. -/
theorem serverTurns_idle
    (hIdle : net.started.isSome ∨ net.toServer = []) :
    net.serverTurns conf ops = .ok net := by
  unfold serverTurns
  rcases hIdle with hStarted | hNone
  · rcases Option.isSome_iff_exists.mp hStarted with
      ⟨exec, hStarted⟩
    rw [hStarted]
  · rw [hNone]
    cases net.started <;> rfl

/- A request may end the server. -/
theorem serverTurns_halt
    {halt : Halt}
    (hStarted : net.started = none)
    (hToServer : net.toServer = wire :: wires)
    (hCompressed :
      wire.compressed = net.server.compression.isSome)
    (hTurn :
      (turn conf wire.body ops net.server).result =
        .error halt) :
    net.serverTurns conf ops = .error (.server ops halt) := by
  unfold serverTurns
  rw [hStarted, hToServer]
  dsimp only
  rw [if_neg (not_not.mpr hCompressed), hTurn]

/- One request is answered. -/
theorem serverTurns_turn
    {started : Option ExecRequest}
    {server : PrepState}
    {packets : List ServerPacket}
    (hStarted : net.started = none)
    (hToServer : net.toServer = wire :: wires)
    (hCompressed :
      wire.compressed = net.server.compression.isSome)
    (hTurn :
      (turn conf wire.body ops net.server).result =
        .ok (started, server))
    (hSent :
      sentPackets (turn conf wire.body ops net.server).events =
        packets) :
    net.serverTurns conf ops =
      .ok { net with
        server
        started
        toServer := wires
        toClient :=
          net.toClient ++
            packets.map
              (replyWire net.server.compression.isSome)
        serverLog :=
          net.serverLog ++
            (repliesAmong packets).map fun packet =>
              (wire.body.headD 0, packet.type) } := by
  unfold serverTurns
  rw [hStarted, hToServer]
  dsimp only
  rw [if_neg (not_not.mpr hCompressed), hTurn]
  dsimp only
  rw [hSent]

end SetupNet

/- Among the packets of a turn there is one reply. -/
theorem repliesAmong_answer
    (messages : List String)
    (success : Bool) :
    repliesAmong
        (messages.map debugPacket ++ [replyPacket success]) =
      [replyPacket success] := by
  have hMessages :
      repliesAmong (messages.map debugPacket) = [] := by
    rw [repliesAmong, List.filter_eq_nil_iff]
    intro packet hPacket
    rcases List.mem_map.mp hPacket with ⟨message, -, rfl⟩
    simp [debugPacket]
  have hReply :
      repliesAmong [replyPacket success] =
        [replyPacket success] := by
    cases success <;> rfl
  rw [repliesAmong, List.filter_append]
  unfold repliesAmong at hMessages hReply
  rw [hMessages, hReply, List.nil_append]

end Ssh1

------------------------------------------------------------
-- Phases
------------------------------------------------------------

namespace Ssh1

open Preparing

/- A request of another kind has still not been made. -/
theorem ClientRequest.Fresh.answered
    {request request' : ClientRequest}
    {success : Bool}
    {server server' : PrepState}
    (hFresh : request'.Fresh server)
    (hDiffers : request.Differs request')
    (hAnswers : request.Answers success server server') :
    request'.Fresh server' where
  compression hKind := by
    have hOther : request.isCompression = false := by
      by_contra hSame
      simp only [Bool.not_eq_false] at hSame
      simp [hDiffers.compression hSame] at hKind
    rw [hAnswers.compression, level_eq_none hOther,
      Option.none_or, ite_self]
    exact hFresh.compression hKind
  pty hKind := by
    have hOther : request.isPty = false := by
      by_contra hSame
      simp only [Bool.not_eq_false] at hSame
      simp [hDiffers.pty hSame] at hKind
    rw [hAnswers.havePty, hOther, hFresh.pty hKind]
    rfl
  x11 hKind := by
    have hOther : request.isX11 = false := by
      by_contra hSame
      simp only [Bool.not_eq_false] at hSame
      simp [hDiffers.x11 hSame] at hKind
    have hDisplay := hAnswers.display
    rw [hOther, hFresh.x11 hKind] at hDisplay
    simpa using hDisplay
  agent hKind := by
    have hOther : request.isAgent = false := by
      by_contra hSame
      simp only [Bool.not_eq_false] at hSame
      simp [hDiffers.agent hSame] at hKind
    rw [hAnswers.agent hOther]
    exact hFresh.agent hKind

/- The requests that are done, by what has been recorded. -/
structure SetupNet.Progress
    (net : SetupNet)
    (done : List ClientRequest) : Prop where
  logged :
    net.clientLog.map Prod.fst = done.map ClientRequest.type
  replies :
    ∀ entry ∈ net.serverLog,
      ∃ success, entry.2 = (replyPacket success).type
  budget :
    net.client.opens.conf.permittedOpens.length ≤
      net.clientLog.count
        (sshCmsgPortForwardRequest, sshSmsgSuccess)

/- Where the two programs are together. -/
inductive SetupNet.Phase
    (conf : PrepConf)
    (setup : ClientSetup)
    (net : SetupNet) : Prop where
  | ready
      (done : List ClientRequest)
      (hRequests : setup.requests = done ++ net.remaining)
      (hRemaining : net.remaining ≠ [])
      (hWaiting : net.waiting = none)
      (hStarted : net.started = none)
      (hToServer : net.toServer = [])
      (hToClient : net.toClient = [])
      (hSettled : Settled net.client net.server)
      (hFresh :
        ∀ request ∈ net.remaining, request.Fresh net.server)
      (hLogs : net.serverLog = net.clientLog)
      (hProgress : net.Progress done)
  | asked
      (done : List ClientRequest)
      (request : ClientRequest)
      (hRequests :
        setup.requests = done ++ request :: net.remaining)
      (hSendable : request.Sendable)
      (hWaiting :
        net.waiting =
          if request.isExec then none else some request)
      (hStarted : net.started = none)
      (hToServer :
        net.toServer =
          [request.wire net.client.compression.isSome])
      (hToClient : net.toClient = [])
      (hSettled : Settled net.client net.server)
      (hFresh :
        ∀ request' ∈ request :: net.remaining,
          request'.Fresh net.server)
      (hLogs : net.serverLog = net.clientLog)
      (hProgress : net.Progress done)
  | answered
      (done : List ClientRequest)
      (request : ClientRequest)
      (success : Bool)
      (messages : List String)
      (before : PrepState)
      (hRequests :
        setup.requests = done ++ request :: net.remaining)
      (hExec : request.isExec = false)
      (hWaiting : net.waiting = some request)
      (hStarted : net.started = none)
      (hToServer : net.toServer = [])
      (hToClient :
        net.toClient =
          (messages.map debugPacket ++
            [replyPacket success]).map
            (replyWire net.client.compression.isSome))
      (hSettled : Settled net.client before)
      (hAnswers : request.Answers success before net.server)
      (hNew : request.Fresh before)
      (hFresh :
        ∀ request' ∈ net.remaining,
          request'.Fresh net.server)
      (hLogs :
        net.serverLog =
          net.clientLog ++
            [(request.type, (replyPacket success).type)])
      (hProgress : net.Progress done)
  | started
      (done : List ClientRequest)
      (exec : ExecRequest)
      (hRequests : setup.requests = done ++ [setup.exec])
      (hExec :
        setup.exec.starts conf.forcedCommand = some exec)
      (hRemaining : net.remaining = [])
      (hWaiting : net.waiting = none)
      (hStarted : net.started = some exec)
      (hToServer : net.toServer = [])
      (hToClient : net.toClient = [])
      (hSettled : Settled net.client net.server)
      (hInteractive :
        net.server.interactive = net.client.interactive)
      (hLogs : net.serverLog = net.clientLog)
      (hProgress : net.Progress done)

variable {conf : PrepConf}
variable {setup : ClientSetup}
variable {net : SetupNet}

/- The run starts in the first phase. -/
theorem SetupNet.initial_phase
    (conf : PrepConf)
    (setup : ClientSetup)
    (haveHostnameInOpen : Bool)
    (memory serverMemory : Nat → Channel) :
    (initial setup haveHostnameInOpen memory
      serverMemory).Phase conf setup := by
  have hNoForwards
      (host : List UInt8)
      (port : Int) :
      ¬ (ChannelTable.initial serverMemory).Forwards host
        port := by
    rintro ⟨i, hi, -⟩
    simp [ChannelTable.initial] at hi
  refine .ready [] rfl ?_ rfl rfl rfl rfl ?_ ?_ rfl ?_
  · simp [initial, ClientSetup.requests]
  · constructor
    case opens =>
      intro host port
      simp [initial, OpensState.initial, PrepState.initial,
        hNoForwards]
    case counted =>
      exact ChannelTable.initial_counted serverMemory
    all_goals rfl
  · intro request _
    constructor <;> intro _ <;> rfl
  · constructor
    · rfl
    · simp [initial]
    · simp [initial, OpensState.initial]

/- Nothing is done in vain: the client sends if it may. -/
theorem SetupNet.Phase.clientSends
    (hPhase : net.Phase conf setup) :
    FallibleRun.Ensures
      (fun e => ¬ ChosenEnd conf setup net e)
      net.clientSends (Phase conf setup) := by
  have hSame := hPhase
  cases hPhase with
  | ready done hRequests hRemaining hWaiting hStarted hToServer
      hToClient hSettled hFresh hLogs hProgress =>
      rcases List.exists_cons_of_ne_nil hRemaining with
        ⟨request, rest, hNext⟩
      rw [hNext] at hRequests hFresh
      have hMem : request ∈ setup.requests := by
        rw [hRequests]
        simp
      rcases ClientRequest.start_alike conf net net.client
          hMem with
        ⟨halt, hStart, hChosen⟩ |
          ⟨client, hStart, hAlike, hSendable⟩
      · rw [clientSends_halt hWaiting hNext hStart]
        exact not_not.mpr hChosen
      · rw [clientSends_request hWaiting hNext hStart]
        refine .asked done request hRequests hSendable rfl
          hStarted ?_ hToClient (hSettled.alike hAlike) hFresh
          hLogs ?_
        · dsimp only
          rw [hToServer, hAlike.compression]
          rfl
        · refine ⟨hProgress.logged, hProgress.replies, ?_⟩
          dsimp only
          rw [hAlike.permittedOpens]
          exact hProgress.budget
  | asked done request hRequests hSendable hWaiting hStarted
      hToServer hToClient hSettled hFresh hLogs hProgress =>
      have hKept : net.clientSends = .ok net := by
        cases hExec : request.isExec with
        | true =>
            exact clientSends_done
              ((ClientSetup.isExec_iff_last hRequests).mp hExec)
        | false =>
            rw [hExec] at hWaiting
            exact clientSends_waiting hWaiting
      rw [hKept]
      exact hSame
  | answered done request success messages before hRequests
      hExec hWaiting hStarted hToServer hToClient hSettled
      hAnswers hNew hFresh hLogs hProgress =>
      rw [clientSends_waiting hWaiting]
      exact hSame
  | started done exec hRequests hExec hRemaining hWaiting
      hStarted hToServer hToClient hSettled hInteractive hLogs
      hProgress =>
      rw [clientSends_done hRemaining]
      exact hSame

/- What the client reads is what it waits for. -/
theorem SetupNet.Phase.clientReads
    (hPhase : net.Phase conf setup) :
    FallibleRun.Ensures
      (fun e => ¬ ChosenEnd conf setup net e)
      net.clientReads (Phase conf setup) := by
  have hSame := hPhase
  cases hPhase with
  | ready done hRequests hRemaining hWaiting hStarted hToServer
      hToClient hSettled hFresh hLogs hProgress =>
      rw [clientReads_idle (Or.inl hWaiting)]
      exact hSame
  | asked done request hRequests hSendable hWaiting hStarted
      hToServer hToClient hSettled hFresh hLogs hProgress =>
      rw [clientReads_idle (Or.inr hToClient)]
      exact hSame
  | started done exec hRequests hExec hRemaining hWaiting
      hStarted hToServer hToClient hSettled hInteractive hLogs
      hProgress =>
      rw [clientReads_idle (Or.inl hWaiting)]
      exact hSame
  | answered done request success messages before hRequests
      hExec hWaiting hStarted hToServer hToClient hSettled
      hAnswers hNew hFresh hLogs hProgress =>
      have hDrained := hSettled.clientDrained
      cases messages with
      | cons message messages =>
          rw [clientReads_message hWaiting hToClient rfl
            (takePacket_debug message hDrained)]
          exact .answered done request success messages before
            hRequests hExec hWaiting hStarted hToServer rfl
            hSettled hAnswers hNew hFresh hLogs
            ⟨hProgress.logged, hProgress.replies,
              hProgress.budget⟩
      | nil =>
          have hTake := takePacket_reply success hDrained
          have hOff :
              request.isCompression →
                net.client.compression = none := by
            intro hCompression
            rw [hSettled.compression]
            exact hNew.compression hCompression
          rcases ClientRequest.finish_concludes success hExec
              hDrained hOff with
            ⟨client', hFinish, hConcludes⟩ |
              ⟨hSuccess, hForward, hMany, hFinish⟩
          · rw [clientReads_reply hWaiting hToClient rfl hTake
              hFinish]
            refine .ready (done ++ [request]) ?_ ?_ rfl hStarted
              hToServer rfl
              (hConcludes.settled hSettled hAnswers) hFresh
              hLogs ?_
            · simpa using hRequests
            · intro hNone
              have hLast :=
                (ClientSetup.isExec_iff_last hRequests).mpr hNone
              rw [hExec] at hLast
              cases hLast
            · refine ⟨?_, hProgress.replies, ?_⟩
              · simp [hProgress.logged]
              · have hCount := hConcludes.count
                have hBudget := hProgress.budget
                rw [List.count_append,
                  request.count_granted success]
                dsimp only
                omega
          · rw [clientReads_halt hWaiting hToClient rfl hTake
              hFinish]
            refine not_not.mpr (.tooMany ?_)
            have hBudget := hProgress.budget
            rw [SetupNet.grantedForwards, hLogs,
              List.count_append, request.count_granted success,
              hSuccess, hForward]
            simp only [Bool.and_self, if_true]
            omega

/- The server answers what it was asked, and nothing else. -/
theorem SetupNet.Phase.serverTurns
    {ops : LocalOps}
    (hTerminal : ops.ttyAttributes.isSome)
    (hPhase : net.Phase conf setup) :
    FallibleRun.Ensures
      (fun e => ¬ ChosenEnd conf setup net e)
      (net.serverTurns conf ops) (Phase conf setup) := by
  have hSame := hPhase
  cases hPhase with
  | ready done hRequests hRemaining hWaiting hStarted hToServer
      hToClient hSettled hFresh hLogs hProgress =>
      rw [serverTurns_idle (Or.inr hToServer)]
      exact hSame
  | answered done request success messages before hRequests
      hExec hWaiting hStarted hToServer hToClient hSettled
      hAnswers hNew hFresh hLogs hProgress =>
      rw [serverTurns_idle (Or.inr hToServer)]
      exact hSame
  | started done exec hRequests hExec hRemaining hWaiting
      hStarted hToServer hToClient hSettled hInteractive hLogs
      hProgress =>
      rw [serverTurns_idle (Or.inr hToServer)]
      exact hSame
  | asked done request hRequests hSendable hWaiting hStarted
      hToServer hToClient hSettled hFresh hLogs hProgress =>
      have hCompressed :
          (request.wire
            net.client.compression.isSome).compressed =
              net.server.compression.isSome :=
        congrArg Option.isSome hSettled.compression
      have hMem : request ∈ setup.requests := by
        rw [hRequests]
        simp
      have hNew := hFresh request List.mem_cons_self
      cases hExec : request.isExec with
      | true =>
          have hLast :=
            (ClientSetup.isExec_iff_last hRequests).mp hExec
          rcases turn_starts conf ops hExec hSendable
              hSettled.serverDrained with
            ⟨exec, hStarts, hTurn⟩
          rw [hLast] at hRequests
          rw [hExec] at hWaiting
          have hRequest : request = setup.exec :=
            ClientSetup.last_eq hRequests
          have hResult := congrArg Recorded.Run.result hTurn
          have hSent :
              sentPackets
                  (turn conf (request.type :: request.payload)
                    ops net.server).events = [] := by
            rw [hTurn]
            rfl
          rw [serverTurns_turn hStarted hToServer hCompressed
            hResult hSent]
          refine .started done exec ?_ ?_ hLast hWaiting rfl rfl
            ?_ ?_ ?_ ?_ ?_
          · rw [hRequests, hRequest]
          · rw [← hRequest]
            exact hStarts
          · simp [hToClient]
          · exact ⟨hSettled.clientDrained, rfl,
              hSettled.enable, hSettled.compression,
              hSettled.interactive, hSettled.opens,
              hSettled.counted⟩
          · dsimp only
            rw [hSettled.interactive]
            simp
          · simpa [repliesAmong] using hLogs
          · refine ⟨hProgress.logged, ?_, hProgress.budget⟩
            simpa [repliesAmong] using hProgress.replies
      | false =>
          have hAnswered :=
            turn_answers conf hTerminal hExec hSendable
              hSettled.serverDrained hSettled.enable
              hSettled.counted hNew
          cases hAnswered with
          | ended halt hResult hEnds =>
              rw [serverTurns_halt hStarted hToServer
                hCompressed hResult]
              exact not_not.mpr
                (.server request ops halt hMem hEnds)
          | replied success server' messages hSent hResult
              hAnswers =>
              rw [serverTurns_turn hStarted hToServer
                hCompressed hResult hSent]
              have hDiffers :=
                ClientSetup.differs_after hRequests
              rw [hExec] at hWaiting
              refine .answered done request success messages
                net.server hRequests hExec hWaiting rfl rfl ?_
                hSettled hAnswers hNew ?_ ?_ ?_
              · dsimp only
                rw [hToClient, hSettled.compression,
                  List.nil_append]
              · intro request' hMem'
                exact (hFresh request'
                  (List.mem_cons_of_mem _ hMem')).answered
                    (hDiffers request' hMem') hAnswers
              · dsimp only
                rw [hLogs, repliesAmong_answer]
                rfl
              · refine ⟨hProgress.logged, ?_, hProgress.budget⟩
                intro entry hEntry
                rw [repliesAmong_answer] at hEntry
                rcases List.mem_append.mp hEntry with
                  hOld | hReply
                · exact hProgress.replies entry hOld
                · rw [List.map_singleton,
                    List.mem_singleton] at hReply
                  exact ⟨success, by rw [hReply]⟩

end Ssh1

------------------------------------------------------------
-- Lock Step
------------------------------------------------------------

namespace Ssh1

/-
  What holds at every moment: the two have recorded the same
  requests and replies, but for one reply that may be on its
  way, and they agree where the client waits for none.
-/
structure SetupNet.LockStep
    (conf : PrepConf)
    (setup : ClientSetup)
    (net : SetupNet) : Prop where
  answers : net.clientLog <+: net.serverLog
  ahead : net.serverLog.length ≤ net.clientLog.length + 1
  attributed :
    net.serverLog.map Prod.fst =
      (setup.requests.take net.serverLog.length).map
        ClientRequest.type
  replies :
    ∀ entry ∈ net.serverLog,
      entry.2 = sshSmsgSuccess ∨ entry.2 = sshSmsgFailure
  compression :
    net.waiting = none →
      net.client.compression = net.server.compression
  ports :
    net.waiting = none → ∀ host port,
      (host, port) ∈ net.client.opens.conf.permittedOpens ↔
        net.server.table.Forwards host port
  started :
    ∀ exec, net.started = some exec →
      setup.exec.starts conf.forcedCommand = some exec ∧
        net.clientLog.length + 1 = setup.requests.length ∧
        net.server.interactive = net.client.interactive ∧
        net.toServer = [] ∧ net.toClient = []
  -- the client sends or reads, or the server does a turn
  live :
    net.started = none →
      (net.waiting = none ∧ net.remaining ≠ []) ∨
        (net.waiting ≠ none ∧ net.toClient ≠ []) ∨
        net.toServer ≠ []

variable {conf : PrepConf}
variable {setup : ClientSetup}
variable {net : SetupNet}

/- Each request that is done has one reply. -/
theorem SetupNet.Progress.length_clientLog
    {done : List ClientRequest}
    (hProgress : net.Progress done) :
    net.clientLog.length = done.length := by
  have hLength := congrArg List.length hProgress.logged
  simpa using hLength

/- The server has replied with nothing else. -/
theorem SetupNet.Progress.success_or_failure
    {done : List ClientRequest}
    (hProgress : net.Progress done) :
    ∀ entry ∈ net.serverLog,
      entry.2 = sshSmsgSuccess ∨ entry.2 = sshSmsgFailure := by
  intro entry hEntry
  rcases hProgress.replies entry hEntry with ⟨success, hReply⟩
  cases success with
  | true => exact Or.inl hReply
  | false => exact Or.inr hReply

/- The n-th reply is the one to the n-th request. -/
theorem SetupNet.Progress.attributed
    {done rest : List ClientRequest}
    (hRequests : setup.requests = done ++ rest)
    (hLogs : net.serverLog = net.clientLog)
    (hProgress : net.Progress done) :
    net.serverLog.map Prod.fst =
      (setup.requests.take net.serverLog.length).map
        ClientRequest.type := by
  rw [hLogs, hProgress.logged, hProgress.length_clientLog,
    hRequests, List.take_left]

/- Every phase shows the two programs in step. -/
theorem SetupNet.Phase.lockStep
    (hPhase : net.Phase conf setup) :
    net.LockStep conf setup := by
  cases hPhase with
  | ready done hRequests hRemaining hWaiting hStarted hToServer
      hToClient hSettled hFresh hLogs hProgress =>
      constructor
      case answers => rw [hLogs]
      case ahead => rw [hLogs]; omega
      case attributed =>
        exact hProgress.attributed hRequests hLogs
      case replies => exact hProgress.success_or_failure
      case compression => exact fun _ => hSettled.compression
      case ports => exact fun _ => hSettled.opens
      case started => simp [hStarted]
      case live => exact fun _ => Or.inl ⟨hWaiting, hRemaining⟩
  | asked done request hRequests hSendable hWaiting hStarted
      hToServer hToClient hSettled hFresh hLogs hProgress =>
      constructor
      case answers => rw [hLogs]
      case ahead => rw [hLogs]; omega
      case attributed =>
        exact hProgress.attributed hRequests hLogs
      case replies => exact hProgress.success_or_failure
      case compression => exact fun _ => hSettled.compression
      case ports => exact fun _ => hSettled.opens
      case started => simp [hStarted]
      case live => simp [hToServer]
  | answered done request success messages before hRequests
      hExec hWaiting hStarted hToServer hToClient hSettled
      hAnswers hNew hFresh hLogs hProgress =>
      constructor
      case answers => simp [hLogs]
      case ahead => simp [hLogs]
      case attributed =>
        have hLength := hProgress.length_clientLog
        have hTake :
            setup.requests.take (done.length + 1) =
              done ++ [request] := by
          rw [hRequests, List.take_append]
          simp
        rw [hLogs, List.map_append, hProgress.logged,
          List.length_append, hLength, List.length_singleton,
          hTake, List.map_append]
        rfl
      case replies => exact hProgress.success_or_failure
      case compression => simp [hWaiting]
      case ports => simp [hWaiting]
      case started => simp [hStarted]
      case live => simp [hWaiting, hToClient]
  | started done exec hRequests hExec hRemaining hWaiting
      hStarted hToServer hToClient hSettled hInteractive hLogs
      hProgress =>
      constructor
      case answers => rw [hLogs]
      case ahead => rw [hLogs]; omega
      case attributed =>
        exact hProgress.attributed hRequests hLogs
      case replies => exact hProgress.success_or_failure
      case compression => exact fun _ => hSettled.compression
      case ports => exact fun _ => hSettled.opens
      case started =>
        intro exec' hStarted'
        rw [hStarted] at hStarted'
        cases hStarted'
        refine ⟨hExec, ?_, hInteractive, hToServer, hToClient⟩
        rw [hProgress.length_clientLog, hRequests]
        simp
      case live => simp [hStarted]

/- Each step keeps the two together, or ends as chosen. -/
theorem SetupNet.Phase.step
    (step : SetupStep)
    (hPhase : net.Phase conf setup) :
    FallibleRun.Ensures
      (fun e => ¬ ChosenEnd conf setup net e)
      (net.step conf step) (Phase conf setup) := by
  cases step with
  | clientSends => exact hPhase.clientSends
  | clientReads => exact hPhase.clientReads
  | serverTurns ops =>
      exact hPhase.serverTurns ops.ttyAttributes

/-
  Client and server stay in step, whatever the client wants,
  whatever the server and the key permit, and whatever comes
  of the calls of the server. The preparation ends only in a
  state where one of the two chooses to end it.
-/
theorem setupInLockStep
    (conf : PrepConf)
    (setup : ClientSetup)
    (haveHostnameInOpen : Bool)
    (memory serverMemory : Nat → Channel)
    (steps : List SetupStep) :
    (∀ net,
      FallibleRun.run (SetupNet.step conf)
          (.initial setup haveHostnameInOpen memory
            serverMemory) steps = .ok net →
        net.LockStep conf setup) ∧
      ∀ e,
        FallibleRun.run (SetupNet.step conf)
            (.initial setup haveHostnameInOpen memory
              serverMemory) steps = .error e →
          ∃ done net, done <+: steps ∧
            FallibleRun.run (SetupNet.step conf)
                (.initial setup haveHostnameInOpen memory
                  serverMemory) done = .ok net ∧
            ChosenEnd conf setup net e := by
  have hInitial := SetupNet.initial_phase conf setup
    haveHostnameInOpen memory serverMemory
  constructor
  · intro net hRun
    have hPhase : net.Phase conf setup := by
      refine FallibleRun.run_invariant ?_ hInitial hRun
      intro mid step mid' hMid hStep
      exact (FallibleRun.ensures_iff.mp (hMid.step step)).1 _
        hStep
    exact hPhase.lockStep
  · intro e hRun
    exact FallibleRun.run_error_at
      (fun net step hPhase => hPhase.step step) hInitial hRun

/- A client that wants compression, the agent and a shell. -/
def agentSetup : ClientSetup where
  compression := some 6
  pty := none
  x11 := none
  forwardAgent := true
  remoteForwards := []
  command := none

/- Calls that fail, on a terminal that is there. -/
def refusingOps : SoundOps where
  ops := { failingOps with ttyAttributes := some zeroModes }
  ttyAttributes := rfl

/- The agent is refused, and the shell is started. -/
example :
    (FallibleRun.run (SetupNet.step noTcpConf)
      (.initial agentSetup false clearedMemory clearedMemory)
      [.clientSends, .serverTurns refusingOps, .clientReads,
        .clientSends, .serverTurns refusingOps, .clientReads,
        .clientSends, .serverTurns refusingOps]).map
      (fun net => (net.started, net.clientLog)) =
    .ok (some .shell, [(37, 14), (30, 15)]) := by
  rfl

end Ssh1
