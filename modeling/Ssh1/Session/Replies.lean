import Ssh1.Session.Answers

/-
  What the client makes of the replies.

  The client sends its requests in a fixed order, and takes
  each reply as it was meant: what it concludes is what the
  server has done.

  Main declarations:
    * `ChosenEnd`
    * `ClientRequest.start_alike`
    * `Settled`
    * `ClientRequest.finish_concludes`
-/

------------------------------------------------------------
-- Chosen Ends
------------------------------------------------------------

namespace Ssh1

/- The forwards that the server has granted so far. -/
def SetupNet.grantedForwards (net : SetupNet) : Nat :=
  net.serverLog.count
    (sshCmsgPortForwardRequest, sshSmsgSuccess)

/-
  The ends that one of the two chooses in a state, and no
  accidents.
-/
inductive ChosenEnd
    (conf : PrepConf)
    (setup : ClientSetup)
    (net : SetupNet) : SetupEnd → Prop where
  | level
      (level : Int)
      (hLevel : setup.compression = some level)
      (hIllegal : level < 1 ∨ 9 < level) :
      ChosenEnd conf setup net (.client (.fatal
        ("Compression level must be from 1 (fast) to 9" ++
          " (slow, best).")))
  | x11
      (hX11 : setup.x11 = some none) :
      ChosenEnd conf setup net (.client (.fatal
        "x11_request_forwarding: bad authentication data"))
  | tooBig
      (request : ClientRequest)
      (hRequest : request ∈ setup.requests)
      (hSize : ClientRequest.maxSize - 30 ≤ request.size) :
      ChosenEnd conf setup net (.client (.fatal
        ("packet_send: sending too big a packet: size " ++
          toString request.size ++ ", limit " ++
          toString ClientRequest.maxSize ++ ".")))
  | tooMany
      (hMany :
        ClientSide.maxForwards < net.grantedForwards) :
      ChosenEnd conf setup net (.client (.fatal
        ("channel_request_remote_forwarding: too many" ++
          " forwards")))
  | server
      (request : ClientRequest)
      (ops : LocalOps)
      (halt : Halt)
      (hRequest : request ∈ setup.requests)
      (hEnds : ServerEnds conf ops request halt) :
      ChosenEnd conf setup net (.server ops halt)

end Ssh1

------------------------------------------------------------
-- The Requests of a Setup
------------------------------------------------------------

namespace Ssh1

namespace ClientRequest

/- No two requests are for the same, but for the ports. -/
structure Differs
    (request request' : ClientRequest) : Prop where
  compression :
    request.isCompression → request'.isCompression = false
  pty : request.isPty → request'.isPty = false
  x11 : request.isX11 → request'.isX11 = false
  agent : request.isAgent → request'.isAgent = false

/- A request to forward a port. -/
def isForward : ClientRequest → Bool
| .forward _ => true
| _ => false

/- The place of a request among the others. -/
def rank : ClientRequest → Nat
| .compression _ => 0
| .pty _ => 1
| .x11 _ => 2
| .agent => 3
| .forward _ => 4
| .shell => 5
| .command _ => 5

/- Requests of different ranks are different. -/
theorem differs_of_rank_lt
    {request request' : ClientRequest}
    (hRank : request.rank < request'.rank) :
    request.Differs request' := by
  constructor
  all_goals
    cases request <;>
      simp only [isCompression, isPty, isX11, isAgent, rank,
        Bool.false_eq_true, false_implies, true_implies] at *
  all_goals cases request' <;> simp at *

/- A forward may be asked for more than once. -/
theorem differs_forward
    (forward : ForwardRequest)
    (request : ClientRequest) :
    (ClientRequest.forward forward).Differs request := by
  constructor <;> simp [isCompression, isPty, isX11, isAgent]

/- The last rank is that of the session. -/
theorem isExec_iff_rank
    {request : ClientRequest} :
    request.isExec ↔ request.rank = 5 := by
  cases request <;> simp [isExec, rank]

end ClientRequest

namespace ClientSetup

variable {setup : ClientSetup}
variable {request : ClientRequest}
variable {before after : List ClientRequest}

/- The options, then the forwards, and the session last. -/
theorem requests_eq (setup : ClientSetup) :
    setup.requests =
      (setup.options ++
        setup.remoteForwards.map ClientRequest.forward) ++
        [setup.exec] :=
  rfl

/- The options come in the order of their ranks. -/
theorem options_pairwise (setup : ClientSetup) :
    setup.options.Pairwise fun request request' =>
      request.rank < request'.rank := by
  rcases setup with ⟨_ | _, _ | _, _ | _, _ | _, _, _⟩ <;>
    simp [options, ClientRequest.rank]

theorem rank_of_mem_options
    (hRequest : request ∈ setup.options) :
    request.rank < 4 := by
  simp only [options, List.mem_append, Option.mem_toList,
    Option.map_eq_some_iff, List.mem_ite_nil_right,
    List.mem_singleton] at hRequest
  rcases hRequest with
    ((⟨_, -, rfl⟩ | ⟨_, -, rfl⟩) | ⟨_, -, rfl⟩) | ⟨-, rfl⟩
  all_goals simp [ClientRequest.rank]

theorem rank_exec (setup : ClientSetup) :
    setup.exec.rank = 5 := by
  unfold exec
  cases setup.command with
  | none => rfl
  | some command => rfl

/- No request but a forward is made twice. -/
theorem requests_pairwise (setup : ClientSetup) :
    setup.requests.Pairwise ClientRequest.Differs := by
  rw [requests_eq]
  refine List.pairwise_append.mpr ⟨List.pairwise_append.mpr
    ⟨?_, ?_, ?_⟩, List.pairwise_singleton _ _, ?_⟩
  · exact setup.options_pairwise.imp
      ClientRequest.differs_of_rank_lt
  · rw [List.pairwise_map]
    exact List.pairwise_of_forall fun _ _ =>
      ClientRequest.differs_forward _ _
  · intro request hRequest request' hRequest'
    rcases List.mem_map.mp hRequest' with ⟨forward, -, rfl⟩
    exact ClientRequest.differs_of_rank_lt
      (rank_of_mem_options hRequest)
  · intro request hRequest request' hRequest'
    rw [List.mem_singleton.mp hRequest']
    apply ClientRequest.differs_of_rank_lt
    rw [rank_exec]
    rcases List.mem_append.mp hRequest with hOption | hForward
    · have hRank := rank_of_mem_options hOption
      omega
    · rcases List.mem_map.mp hForward with ⟨forward, -, rfl⟩
      simp [ClientRequest.rank]

/- The request for a shell or a command comes at the end. -/
theorem isExec_iff_last
    (hRequests : setup.requests = before ++ request :: after) :
    request.isExec ↔ after = [] := by
  rw [ClientRequest.isExec_iff_rank]
  rw [requests_eq] at hRequests
  constructor
  · intro hRank
    rcases List.eq_nil_or_concat after with
      hNone | ⟨init, last, rfl⟩
    · exact hNone
    · have hParts :
          (setup.options ++
              setup.remoteForwards.map
                ClientRequest.forward) ++ [setup.exec] =
            (before ++ request :: init) ++ [last] := by
        rw [hRequests]
        simp
      have hEarlier := (List.append_inj' hParts rfl).1
      have hMem :
          request ∈ setup.options ++
            setup.remoteForwards.map ClientRequest.forward := by
        rw [hEarlier]
        simp
      rcases List.mem_append.mp hMem with hOption | hForward
      · have hLess := rank_of_mem_options hOption
        omega
      · rcases List.mem_map.mp hForward with ⟨_, -, rfl⟩
        simp [ClientRequest.rank] at hRank
  · rintro rfl
    have hLast := (List.append_inj' hRequests rfl).2
    cases hLast
    exact setup.rank_exec

/- The last request starts the session. -/
theorem last_eq
    (hRequests : setup.requests = before ++ [request]) :
    request = setup.exec := by
  rw [requests_eq] at hRequests
  have hLast := (List.append_inj' hRequests rfl).2
  cases hLast
  rfl

/- What comes after a request is another one. -/
theorem differs_after
    (hRequests : setup.requests = before ++ request :: after) :
    ∀ request' ∈ after, request.Differs request' := by
  have hPairwise := setup.requests_pairwise
  rw [hRequests, List.pairwise_append] at hPairwise
  exact (List.pairwise_cons.mp hPairwise.2.1).1

end ClientSetup

end Ssh1

------------------------------------------------------------
-- The Client
------------------------------------------------------------

namespace Ssh1

variable {conf : PrepConf}
variable {setup : ClientSetup}
variable {request : ClientRequest}

/- The level is the one of the options. -/
theorem ClientSetup.mem_compression
    {level : Int}
    (hRequest :
      ClientRequest.compression level ∈ setup.requests) :
    setup.compression = some level := by
  unfold requests options exec at hRequest
  cases hCommand : setup.command <;>
    simpa [hCommand] using hRequest

/- The cookie is the one of the options. -/
theorem ClientSetup.mem_x11
    {x11 : Option X11Request}
    (hRequest : ClientRequest.x11 x11 ∈ setup.requests) :
    setup.x11 = some x11 := by
  unfold requests options exec at hRequest
  cases hCommand : setup.command <;>
    simpa [hCommand] using hRequest

/- What the client notes before it sends a request. -/
structure ClientPrep.Alike
    (client client' : ClientPrep) : Prop where
  incomingPacket :
    client'.incomingPacket = client.incomingPacket
  compression : client'.compression = client.compression
  interactive : client'.interactive = client.interactive
  permittedOpens :
    client'.opens.conf.permittedOpens =
      client.opens.conf.permittedOpens

/- A request can be prepared, or the options forbid it. -/
theorem ClientRequest.prepare_alike
    (conf : PrepConf)
    (net : SetupNet)
    (client : ClientPrep)
    (hRequest : request ∈ setup.requests) :
    (∃ halt,
      request.prepare client = .error halt ∧
        ChosenEnd conf setup net (.client halt)) ∨
      ∃ client',
        request.prepare client = .ok client' ∧
          client.Alike client' ∧
          request ≠ .x11 none ∧
          ∀ level, request = .compression level →
            1 ≤ level ∧ level ≤ 9 := by
  have hRefl : client.Alike client := ⟨rfl, rfl, rfl, rfl⟩
  cases request with
  | compression level =>
      by_cases hIllegal : level < 1 ∨ level > 9
      · exact Or.inl ⟨_, if_pos hIllegal,
          .level level (ClientSetup.mem_compression hRequest)
            hIllegal⟩
      · refine Or.inr ⟨client, if_neg hIllegal, hRefl, by simp,
          ?_⟩
        rintro level' ⟨⟩
        omega
  | x11 x11 =>
      cases x11 with
      | none =>
          exact Or.inl ⟨_, rfl,
            .x11 (ClientSetup.mem_x11 hRequest)⟩
      | some x11 =>
          exact Or.inr ⟨_, rfl, ⟨rfl, rfl, rfl, rfl⟩, by simp,
            by simp⟩
  | _ =>
      exact Or.inr ⟨_, rfl, ⟨rfl, rfl, rfl, rfl⟩, by simp,
        by simp⟩

/- A request is sent, or the client chooses to end. -/
theorem ClientRequest.start_alike
    (conf : PrepConf)
    (net : SetupNet)
    (client : ClientPrep)
    (hRequest : request ∈ setup.requests) :
    (∃ halt,
      request.start client = .error halt ∧
        ChosenEnd conf setup net (.client halt)) ∨
      ∃ client',
        request.start client = .ok client' ∧
          client.Alike client' ∧
          request.Sendable := by
  unfold start
  rcases prepare_alike conf net client hRequest with
    ⟨halt, hPrepare, hChosen⟩ |
      ⟨client', hPrepare, hAlike, hX11, hLevel⟩
  · rw [hPrepare]
    exact Or.inl ⟨halt, rfl, hChosen⟩
  · rw [hPrepare, FallibleRun.ok_bind]
    unfold checkSize
    by_cases hSize : request.size ≥ maxSize - 30
    · rw [if_pos hSize]
      exact Or.inl ⟨_, rfl, .tooBig request hRequest hSize⟩
    · rw [if_neg hSize]
      exact Or.inr ⟨client', rfl, hAlike,
        ⟨hLevel, hX11, by omega⟩⟩

end Ssh1

------------------------------------------------------------
-- Replies
------------------------------------------------------------

namespace Ssh1

variable {conf : PrepConf}
variable {setup : ClientSetup}
variable {request : ClientRequest}
variable {client : ClientPrep}
variable {server server' : PrepState}

/- What both know where no request is under way. -/
structure Settled
    (client : ClientPrep)
    (server : PrepState) : Prop where
  clientDrained : client.incomingPacket = []
  serverDrained : server.incomingPacket = []
  enable : server.enableCompressionAfterReply = false
  compression : client.compression = server.compression
  interactive :
    client.interactive =
      (server.havePty || server.display.isSome)
  opens :
    ∀ host port,
      (host, port) ∈ client.opens.conf.permittedOpens ↔
        server.table.Forwards host port
  counted : server.table.Counted

/- What is settled does not depend on the rest. -/
theorem Settled.alike
    {client' : ClientPrep}
    (hSettled : Settled client server)
    (hAlike : client.Alike client') :
    Settled client' server where
  clientDrained :=
    hAlike.incomingPacket.trans hSettled.clientDrained
  serverDrained := hSettled.serverDrained
  enable := hSettled.enable
  compression := hAlike.compression.trans hSettled.compression
  interactive := hAlike.interactive.trans hSettled.interactive
  opens := by
    rw [hAlike.permittedOpens]
    exact hSettled.opens
  counted := hSettled.counted

/- A message is taken without a trace. -/
theorem takePacket_debug
    (message : String)
    (hDrained : client.incomingPacket = []) :
    client.takePacket
        ((debugPacket message).type ::
          (debugPacket message).payload) =
      .ok (none, client) := by
  have hFits :
      (messageBytes message).length ≤ maxStringLength := by
    unfold messageBytes maxStringLength
    rw [List.length_take]
    omega
  have hGet :=
    bufferGetString_bufferPutString_append hFits []
  rw [List.append_nil] at hGet
  have hOpen := openPacket_skipped (Or.inr rfl) hGet
  have hNone : ¬ client.incomingPacket.length ≠ 0 := by
    simp [hDrained]
  unfold ClientPrep.takePacket debugPacket
  rw [if_neg hNone]
  simp only [hOpen, FallibleRun.ok_bind,
    FallibleRun.pure_eq_ok]
  rw [← hDrained]

/- The reply is there, with nothing more in its packet. -/
theorem takePacket_reply
    (success : Bool)
    (hDrained : client.incomingPacket = []) :
    client.takePacket
        ((replyPacket success).type ::
          (replyPacket success).payload) =
      .ok (some (replyPacket success).type, client) := by
  have hNone : ¬ client.incomingPacket.length ≠ 0 := by
    simp [hDrained]
  have hClient :
      { client with incomingPacket := [] } = client := by
    rw [← hDrained]
  have hTake :
      client.takePacket
          ((replyPacket success).type ::
            (replyPacket success).payload) =
        .ok (some (replyPacket success).type,
          { client with incomingPacket := [] }) := by
    unfold ClientPrep.takePacket
    rw [if_neg hNone]
    cases success with
    | true => rfl
    | false => rfl
  rw [hTake, hClient]

/- What the client makes of an answer. -/
structure ClientRequest.Concludes
    (request : ClientRequest)
    (success : Bool)
    (client client' : ClientPrep) : Prop where
  incomingPacket : client'.incomingPacket = []
  compression :
    client'.compression =
      if success then
        request.level.or client.compression
      else
        client.compression
  interactive :
    client'.interactive =
      (client.interactive ||
        (request.isPty || request.isX11) && success)
  permitted :
    ∀ host port,
      (host, port) ∈ client'.opens.conf.permittedOpens ↔
        (host, port) ∈ client.opens.conf.permittedOpens ∨
          success ∧ request.AsksFor host port
  count :
    client'.opens.conf.permittedOpens.length ≤
      client.opens.conf.permittedOpens.length +
        if success && request.isForward then 1 else 0

/- It concludes what the server has done. -/
theorem ClientRequest.Concludes.settled
    {client' : ClientPrep}
    {success : Bool}
    (hConcludes : request.Concludes success client client')
    (hSettled : Settled client server)
    (hAnswers : request.Answers success server server') :
    Settled client' server' where
  clientDrained := hConcludes.incomingPacket
  serverDrained := hAnswers.drained
  enable := hAnswers.enable
  compression := by
    rw [hConcludes.compression, hAnswers.compression,
      hSettled.compression]
  interactive := by
    rw [hConcludes.interactive, hAnswers.havePty,
      hAnswers.display, hSettled.interactive]
    cases server.havePty <;> cases server.display.isSome <;>
      cases success <;> simp
  opens := by
    intro host port
    rw [hConcludes.permitted, hAnswers.forwards,
      hSettled.opens]
  counted := hAnswers.counted

/- Nothing comes of a request that failed. -/
theorem ClientRequest.concludes_failure
    (request : ClientRequest)
    (client : ClientPrep) :
    request.Concludes false client
      { client with incomingPacket := [] } := by
  constructor <;> simp

/- The client permits the port if there is room for it. -/
theorem channelRequestRemoteForwarding_success
    (port : Int)
    (host : List UInt8)
    (remotePort : Int)
    (opens : OpensState) :
    (ClientSide.channelRequestRemoteForwarding port host
      remotePort (.packet successPacket.type) opens).result =
      if opens.conf.permittedOpens.length ≥
          ClientSide.maxForwards then
        .error (.fatal
          ("channel_request_remote_forwarding: too many" ++
            " forwards"))
      else
        .ok ((),
          { opens with
            conf :=
              { opens.conf with
                permittedOpens :=
                  opens.conf.permittedOpens ++
                    [(host, remotePort)] } }) := by
  have hReply :
      ClientSide.readReply (.packet successPacket.type) opens =
        ⟨[], .ok (successPacket.type, opens)⟩ :=
    rfl
  have hFailure : successPacket.type ≠ replyFailure := by
    decide
  have hSuccess : ¬ successPacket.type ≠ replySuccess := by
    decide
  unfold ClientSide.channelRequestRemoteForwarding
  rw [Recorded.bind_apply, hReply, Recorded.andThen_ok,
    if_neg hFailure, if_neg hSuccess, Recorded.bind_apply,
    Recorded.get_apply, Recorded.andThen_ok]
  split_ifs with hMany
  · rfl
  · rfl

/- One more forward is granted, or none. -/
theorem ClientRequest.count_granted
    (request : ClientRequest)
    (success : Bool) :
    [(request.type, (replyPacket success).type)].count
        (sshCmsgPortForwardRequest, sshSmsgSuccess) =
      if success && request.isForward then 1 else 0 := by
  cases request <;> cases success <;> rfl

/- The client takes the reply as it was meant. -/
theorem ClientRequest.finish_concludes
    (success : Bool)
    (hExec : request.isExec = false)
    (hDrained : client.incomingPacket = [])
    (hFresh :
      request.isCompression → client.compression = none) :
    (∃ client',
      request.finish (replyPacket success).type client =
          .ok client' ∧
        request.Concludes success client client') ∨
      (success ∧ request.isForward ∧
        ClientSide.maxForwards ≤
          client.opens.conf.permittedOpens.length ∧
        request.finish (replyPacket success).type client =
          .error (.fatal
            ("channel_request_remote_forwarding: too many" ++
              " forwards"))) := by
  have hClient :
      { client with incomingPacket := [] } = client := by
    rw [← hDrained]
  have hFailure := request.concludes_failure client
  cases success with
  | false =>
      refine Or.inl ⟨_, ?_, hFailure⟩
      cases request with
      | forward forward =>
          rw [hClient]
          rfl
      | shell => simp [isExec] at hExec
      | command text => simp [isExec] at hExec
      | _ => rfl
  | true =>
      cases request with
      | compression level =>
          have hOff : ¬ client.compression.isSome := by
            simp [hFresh rfl]
          refine Or.inl ⟨_, if_neg hOff, ?_⟩
          constructor
          case incomingPacket => exact hDrained
          case compression => rfl
          case permitted => simp [AsksFor]
          case interactive => simp [isPty, isX11]
          case count => simp
      | pty request =>
          refine Or.inl ⟨_, rfl, ?_⟩
          constructor
          case incomingPacket => exact hDrained
          case permitted => simp [AsksFor]
          case interactive => simp [isPty]
          case compression => simp [level]
          case count => simp
      | x11 request =>
          refine Or.inl ⟨_, rfl, ?_⟩
          constructor
          case incomingPacket => exact hDrained
          case permitted => simp [AsksFor]
          case interactive => simp [isX11]
          case compression => simp [level]
          case count => simp
      | agent =>
          refine Or.inl ⟨_, rfl, ?_⟩
          constructor
          case incomingPacket => exact hDrained
          case permitted => simp [AsksFor]
          case interactive => simp [isPty, isX11]
          case compression => simp [level]
          case count => simp
      | forward forward =>
          have hRun :=
            channelRequestRemoteForwarding_success
              forward.port.value forward.host
              forward.hostPort.value client.opens
          unfold finish
          by_cases hMany :
              client.opens.conf.permittedOpens.length ≥
                ClientSide.maxForwards
          · rw [if_pos hMany] at hRun
            refine Or.inr ⟨rfl, rfl, hMany, ?_⟩
            dsimp only [replyPacket]
            rw [hRun]
            rfl
          · rw [if_neg hMany] at hRun
            dsimp only [replyPacket]
            rw [hRun]
            refine Or.inl ⟨_, rfl, ?_⟩
            constructor
            case incomingPacket => exact hDrained
            case permitted =>
              intro host port
              simp [AsksFor, eq_comm]
            case interactive => simp [isPty, isX11]
            case compression => simp [level]
            case count => simp [isForward]
      | shell => simp [isExec] at hExec
      | command text => simp [isExec] at hExec

end Ssh1
