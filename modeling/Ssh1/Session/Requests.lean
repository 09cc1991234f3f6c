import Ssh1.Session.Setup
import Ssh1.Server.Restrictions
import Ssh1.Tty.RoundTrip

/-
  How the server processes a request of the client.

  A request of the client has just the fields that the server
  takes, and each of the handlers takes them all.

  Main declarations:
    * `ServerEnds`
    * `Processed`
    * `PtyBody`, `readPty_apply`
-/

------------------------------------------------------------
-- Fields of Requests
------------------------------------------------------------

namespace Ssh1

/- The bits of an `int` are read as the same value. -/
theorem packetGetInt32_put
    (n : PacketInt)
    (rest : Buffer) :
    packetGetInt32 (packetPutInt32 [] n ++ rest) =
      .ok (n.value, rest) := by
  have hLower := n.lower
  have hUpper := n.upper
  have hShape :
      packetPutInt32 [] n =
        put32Bit (n.value % 2 ^ 32).toNat := rfl
  have hWord : (n.value % 2 ^ 32).toNat < 2 ^ 32 := by
    omega
  have hValue : toInt32 (n.value % 2 ^ 32).toNat = n.value := by
    unfold toInt32
    split <;> omega
  have hRead :
      packetGetInt32 (packetPutInt32 [] n ++ rest) =
        .ok (toInt32 (n.value % 2 ^ 32).toNat, rest) := by
    rw [hShape, packetGetInt32,
      bufferGetInt_put32Bit_append hWord]
    rfl
  rw [hRead, hValue]

/- A word that is no more than an `int` is got. -/
theorem packetGetInt32_of_lt
    {value : Nat}
    (hValue : value < 2 ^ 31)
    (rest : Buffer) :
    packetGetInt32 (put32Bit value ++ rest) =
      .ok (value, rest) := by
  have hRead :
      packetGetInt32 (put32Bit value ++ rest) =
        .ok (toInt32 value, rest) := by
    rw [packetGetInt32,
      bufferGetInt_put32Bit_append (by omega)]
    rfl
  rw [hRead, toInt32, if_pos hValue]

/- The server takes all modes, whatever it knows of them. -/
theorem ttyParseModes_taken
    (build build' : TermiosBuild)
    (tio : Option Termios)
    {base : Option Termios}
    (hBase : base.isSome) :
    ∃ modes,
      ttyParseModes build base (ttyMakeModes build' tio) =
        .ok (modes, []) := by
  rcases Option.isSome_iff_exists.mp hBase with ⟨start, rfl⟩
  have hItems :
      ∃ items : List TtyItem,
        (∀ item ∈ items, item.WellSized) ∧
          ttyMakeModes build' tio =
            items.flatMap TtyItem.bytes ++ [ttyOpEnd] := by
    cases tio with
    | none => exact ⟨[], by simp, rfl⟩
    | some tio =>
        exact ⟨modeItems build' tio,
          fun item hMem => (mem_modeItems_iff.mp hMem).known.2,
          rfl⟩
  rcases hItems with ⟨items, hSized, hModes⟩
  have hTurns :
      items.length <
        (items.flatMap TtyItem.bytes ++ [ttyOpEnd]).length + 1
      := by
    have hLength := length_le_flatMap_bytes items
    rw [List.length_append]
    omega
  rw [hModes, ttyParseModes, parseModes_items hSized hTurns]
  exact ⟨_, rfl⟩

end Ssh1

------------------------------------------------------------
-- Running the Server
------------------------------------------------------------

namespace Ssh1

open Recorded

namespace Preparing

variable {α β : Type}
variable {state : PrepState}

theorem get_bind
    (next : PrepState → Serving PrepState β) :
    (Recorded.get >>= next) state = next state state := by
  rw [bind_apply, get_apply, andThen_ok, List.nil_append]

theorem modify_bind
    (f : PrepState → PrepState)
    (next : Unit → Serving PrepState β) :
    (Recorded.modify f >>= next) state =
      next () (f state) := by
  rw [bind_apply, modify_apply, andThen_ok, List.nil_append]

theorem ofOutcome_bind
    {outcome : Outcome α}
    {a : α}
    (hOutcome : outcome = .ok a)
    (next : α → Serving PrepState β) :
    (Serving.ofOutcome outcome >>= next) state =
      next a state := by
  rw [hOutcome, bind_apply, Serving.ofOutcome_ok, andThen_ok,
    List.nil_append]

/- A field that is there is taken from the packet. -/
theorem packetGet_bind
    {get' : Buffer → Outcome (α × Buffer)}
    {a : α}
    {rest : Buffer}
    (hGet : get' state.incomingPacket = .ok (a, rest))
    (next : α → Serving PrepState β) :
    (packetGet get' >>= next) state =
      next a { state with incomingPacket := rest } := by
  have hRun :
      packetGet get' state =
        ⟨[], .ok (a, { state with incomingPacket := rest })⟩ := by
    unfold packetGet
    rw [get_bind, ofOutcome_bind hGet]
    rfl
  rw [bind_apply, hRun, andThen_ok, List.nil_append]

end Preparing

/- The packets of both runs, in their order. -/
@[simp] theorem sentPackets_append
    (events events' : List ServerEvent) :
    sentPackets (events ++ events') =
      sentPackets events ++ sentPackets events' :=
  List.filterMap_append

/- The debug messages are the packets that were sent. -/
@[simp] theorem sentPackets_debug
    (messages : List String) :
    sentPackets
        (messages.map fun message =>
          ServerEvent.sent (debugPacket message)) =
      messages.map debugPacket := by
  induction messages with
  | nil => rfl
  | cons message messages ih =>
      simp only [sentPackets] at ih
      simp [sentPackets, ih]

end Ssh1

------------------------------------------------------------
-- What a Request Changes
------------------------------------------------------------

namespace Ssh1

/- The server listens on a port for the client. -/
def ChannelTable.Forwards
    (table : ChannelTable)
    (host : List UInt8)
    (port : Int) : Prop :=
  ∃ i < table.channelsAlloc,
    (table.channels i).type = .portListener ∧
      (table.channels i).path = host ∧
      (table.channels i).hostPort = port

namespace ClientRequest

/- A request for compression. -/
def isCompression : ClientRequest → Bool
| .compression _ => true
| _ => false

/- A request for a terminal. -/
def isPty : ClientRequest → Bool
| .pty _ => true
| _ => false

/- A request for X11 forwarding. -/
def isX11 : ClientRequest → Bool
| .x11 _ => true
| _ => false

/- A request for agent forwarding. -/
def isAgent : ClientRequest → Bool
| .agent => true
| _ => false

/- The request asks for connections to a host and port. -/
def AsksFor
    (request : ClientRequest)
    (host : List UInt8)
    (port : Int) : Prop :=
  ∃ forward : ForwardRequest,
    request = .forward forward ∧
      forward.host = host ∧
      forward.hostPort.value = port

/- The server has not been asked for this before. -/
structure Fresh
    (request : ClientRequest)
    (server : PrepState) : Prop where
  compression :
    request.isCompression → server.compression = none
  pty : request.isPty → server.havePty = false
  x11 : request.isX11 → server.display = none
  agent : request.isAgent → server.agentSocketName = false

/-
  What the server has done about a request, by the answer
  that it gives.
-/
structure Serves
    (request : ClientRequest)
    (success : Bool)
    (server server' : PrepState) : Prop where
  drained : success → server'.incomingPacket = []
  compression : server'.compression = server.compression
  enable :
    server'.enableCompressionAfterReply =
      (request.isCompression && success)
  level :
    ∀ level, request = .compression level → success →
      server'.compressionLevel = level
  interactive : server'.interactive = server.interactive
  havePty :
    server'.havePty = (server.havePty || request.isPty && success)
  display :
    server'.display.isSome =
      (server.display.isSome || request.isX11 && success)
  agent :
    request.isAgent = false →
      server'.agentSocketName = server.agentSocketName
  forwards :
    ∀ host port,
      server'.table.Forwards host port ↔
        server.table.Forwards host port ∨
          success ∧ request.AsksFor host port
  counted : server'.table.Counted

end ClientRequest

/- The failures that end the server, and what it says. -/
inductive ServerEnds
    (conf : PrepConf)
    (ops : LocalOps) :
    ClientRequest → Halt → Prop where
  | gethostname
      (x11 : X11Request)
      (cause : String)
      (hSocket : ops.x11Socket = .noHostname cause) :
      ServerEnds conf ops (.x11 (some x11))
        (.fatal ("gethostname: " ++ cause))
  | agentSocket
      (message : String)
      (hSocket : ops.agentSocket = .failed message) :
      ServerEnds conf ops .agent (.disconnect message)
  | listening
      (forward : ForwardRequest)
      (message : String)
      (hListening : ops.listening = .error message) :
      ServerEnds conf ops (.forward forward)
        (.disconnect message)
  | longHost
      (forward : ForwardRequest)
      (hLong : 255 < forward.host.length) :
      ServerEnds conf ops (.forward forward) (.disconnect
        ("Requested forwarding hostname too long: " ++
          cStringText (forward.host.take 200) ++ "."))
  | longForward
      (forward : ForwardRequest)
      (hLong : 199 < forward.host.length) :
      ServerEnds conf ops (.forward forward)
        (.disconnect "Forward host name too long.")
  | notRoot
      (forward : ForwardRequest)
      (hRoot : conf.userIsRoot = false)
      (hPort :
        forward.port.value < 1024 ∨
          65535 < forward.port.value) :
      ServerEnds conf ops (.forward forward) (.disconnect
        ("Requested forwarding of port " ++
          toString forward.port.value ++
            " but user is not root."))

/- What the server does about a request, but for the reply. -/
inductive Processed
    (conf : PrepConf)
    (ops : LocalOps)
    (request : ClientRequest)
    (server : PrepState)
    (run :
      Recorded.Run ServerEvent Halt PrepState RequestResult) :
    Prop where
  | ended
      (halt : Halt)
      (hResult : run.result = .error halt)
      (hEnds : ServerEnds conf ops request halt)
  | success
      (server' : PrepState)
      (hSent : sentPackets run.events = [])
      (hResult : run.result = .ok (.success, server'))
      (hServes : request.Serves true server server')
  | failure
      (server' : PrepState)
      (messages : List String)
      (hSent :
        sentPackets run.events = messages.map debugPacket)
      (hResult : run.result = .ok (.failure, server'))
      (hServes : request.Serves false server server')

/- A request that has come and is to be processed. -/
structure Arrived
    (request : ClientRequest)
    (server : PrepState) : Prop where
  packet : server.incomingPacket = request.payload
  fits : request.payload.length ≤ maxStringLength
  enable : server.enableCompressionAfterReply = false
  counted : server.table.Counted
  fresh : request.Fresh server

end Ssh1

------------------------------------------------------------
-- Refusals
------------------------------------------------------------

namespace Ssh1

open Recorded
open Preparing

variable {conf : PrepConf}
variable {ops : LocalOps}
variable {request : ClientRequest}
variable {server : PrepState}

/- A refusal leaves all but the packet as it was. -/
theorem ClientRequest.Serves.refused
    (buffer : Buffer)
    (hArrived : Arrived request server) :
    request.Serves false server
      { server with incomingPacket := buffer } := by
  constructor
  case enable => simpa using hArrived.enable
  case counted => exact hArrived.counted
  case forwards => simp
  all_goals simp

/- What is sent to the client about a request. -/
def debugEvents (messages : List String) : List ServerEvent :=
  messages.map fun message => .sent (debugPacket message)

/- A request that is refused with some messages. -/
theorem Processed.refused
    {run :
      Recorded.Run ServerEvent Halt PrepState RequestResult}
    {buffer : Buffer}
    (messages : List String)
    (hArrived : Arrived request server)
    (hRun :
      run = ⟨debugEvents messages,
        .ok (.failure,
          { server with incomingPacket := buffer })⟩) :
    Processed conf ops request server run := by
  rw [hRun]
  exact .failure _ messages (sentPackets_debug messages) rfl
    (.refused buffer hArrived)

theorem Processed.refuse
    (message : String)
    (hArrived : Arrived request server) :
    Processed conf ops request server
      (refuse conf message server) := by
  rw [refuse_apply]
  cases conf.packetDebugOn with
  | true => exact .refused [message] hArrived rfl
  | false => exact .refused [] hArrived rfl

/- A request that is refused without a message. -/
theorem Processed.failed
    {run :
      Recorded.Run ServerEvent Halt PrepState RequestResult}
    (hArrived : Arrived request server)
    (hRun : run = ⟨[], .ok (.failure, server)⟩) :
    Processed conf ops request server run :=
  .refused [] hArrived hRun

end Ssh1

------------------------------------------------------------
-- Compression
------------------------------------------------------------

namespace Ssh1

open Recorded
open Preparing

variable {conf : PrepConf}
variable {ops : LocalOps}
variable {server : PrepState}

/- A level that the client can ask for is granted. -/
theorem requestCompression_processed
    {level : Int}
    (hLevel : 1 ≤ level ∧ level ≤ 9)
    (hArrived : Arrived (.compression level) server) :
    Processed conf ops (.compression level) server
      (requestCompression conf server) := by
  have hValue : (level.toNat : Int) = level := by
    omega
  have hGet :
      packetGetInt32 server.incomingPacket =
        .ok (level, []) := by
    have hWord : level.toNat < 2 ^ 31 := by
      omega
    have hRead := packetGetInt32_of_lt hWord []
    rw [hValue, List.append_nil] at hRead
    rw [hArrived.packet]
    exact hRead
  have hLegal : ¬ (level < 1 ∨ level > 9) := by
    omega
  unfold requestCompression
  rw [packetGet_bind hGet, modify_bind, if_neg hLegal,
    modify_bind]
  refine .success _ rfl rfl ?_
  constructor
  case drained => simp
  case level =>
    intro level' hRequest _
    cases hRequest
    rfl
  case counted => exact hArrived.counted
  case forwards => simp [ClientRequest.AsksFor]
  all_goals
    simp [ClientRequest.isCompression, ClientRequest.isPty,
      ClientRequest.isX11]

end Ssh1

------------------------------------------------------------
-- Terminals
------------------------------------------------------------

namespace Ssh1

open Recorded
open Preparing

variable {conf : PrepConf}
variable {ops : LocalOps}
variable {server : PrepState}
variable {request : PtyRequest}

/- The fields of a terminal request, one by one. -/
theorem ptyPayload_eq (request : PtyRequest) :
    (ClientRequest.pty request).payload =
      bufferPutString [] request.term ++
        (put32Bit request.row.toNat ++
          (put32Bit request.col.toNat ++
            (put32Bit request.xpixel.toNat ++
              (put32Bit request.ypixel.toNat ++
                ttyMakeModes request.build request.tio)))) := by
  simp [ClientRequest.payload, bufferPutInt, bufferAppend,
    List.append_assoc]

theorem packetGetInt32_word16
    (value : UInt16)
    (rest : Buffer) :
    packetGetInt32 (put32Bit value.toNat ++ rest) =
      .ok (value.toNat, rest) := by
  have hValue := value.toNat_lt
  exact packetGetInt32_of_lt (by omega) rest

/- The body of a request for a pty: its fields, and modes. -/
def PtyBody
    (body : Buffer)
    (term : List UInt8)
    (modes : Buffer) : Prop :=
  ∃ (afterTerm afterRow afterCol afterXpixel : Buffer)
    (row col xpixel ypixel : Int),
    bufferGetString body = .ok (term, afterTerm) ∧
      packetGetInt32 afterTerm = .ok (row, afterRow) ∧
      packetGetInt32 afterRow = .ok (col, afterCol) ∧
      packetGetInt32 afterCol = .ok (xpixel, afterXpixel) ∧
      packetGetInt32 afterXpixel = .ok (ypixel, modes)

/- What a client of this repository sends is such a body. -/
theorem ptyBody_payload
    (request : PtyRequest)
    (hFits :
      (ClientRequest.pty request).payload.length ≤
        maxStringLength) :
    PtyBody (ClientRequest.pty request).payload request.term
      (ttyMakeModes request.build request.tio) := by
  rw [ptyPayload_eq] at hFits ⊢
  have hShort : request.term.length ≤ maxStringLength := by
    simp only [List.length_append, bufferPutString,
      bufferPutInt, bufferAppend] at hFits
    omega
  exact ⟨_, _, _, _, _, _, _, _,
    bufferGetString_bufferPutString_append hShort _,
    packetGetInt32_word16 _ _, packetGetInt32_word16 _ _,
    packetGetInt32_word16 _ _, packetGetInt32_word16 _ _⟩

/- All but the modes is taken from the packet anyway. -/
theorem readPty_apply
    {term : List UInt8}
    {given rest : Buffer}
    {modes : Option Termios}
    (hBody : PtyBody server.incomingPacket term given)
    (hModes :
      ttyParseModes conf.termios ops.ttyAttributes given =
        .ok (modes, rest)) :
    readPty conf ops server =
      ⟨[], .ok (.success,
        { server with
          incomingPacket := rest
          term := if cString term = [] then none else some term
          havePty := true })⟩ := by
  rcases hBody with
    ⟨_, _, _, _, _, _, _, _, hTerm, hRow, hCol, hXpixel,
      hYpixel⟩
  unfold readPty
  rw [packetGet_bind hTerm, modify_bind, packetGet_bind hRow,
    packetGet_bind hCol, packetGet_bind hXpixel,
    packetGet_bind hYpixel, packetGet_bind hModes, modify_bind]
  rfl

/- A terminal is refused, or the request is taken whole. -/
theorem requestPty_processed
    (hTerminal : ops.ttyAttributes.isSome)
    (hArrived : Arrived (.pty request) server) :
    Processed conf ops (.pty request) server
      (requestPty conf ops server) := by
  have hNone : ¬ server.havePty := by
    rw [hArrived.fresh.pty rfl]
    simp
  unfold requestPty
  by_cases hFlag : conf.noPtyFlag
  · rw [if_pos hFlag]
    exact .refused [] hArrived rfl
  rw [if_neg hFlag, get_bind, if_neg hNone]
  by_cases hAllocate : ops.ptyAllocate
  · rw [if_neg (not_not.mpr hAllocate)]
    have hFailure :
        Processed conf ops (.pty request) server
          ⟨[.allocatedPty], .ok (.failure, server)⟩ :=
      .failure _ [] rfl rfl (.refused _ hArrived)
    have hRecord
        (next : Serving PrepState RequestResult) :
        (record ServerEvent.allocatedPty >>= fun _ => next)
            server =
          ⟨.allocatedPty :: (next server).events,
            (next server).result⟩ := rfl
    rw [hRecord]
    by_cases hChown : ¬ ops.chown ∧ conf.runsAsRoot
    · rw [if_pos hChown]
      exact hFailure
    rw [if_neg hChown]
    by_cases hChmod : ¬ ops.chmod ∧ conf.runsAsRoot
    · rw [if_pos hChmod]
      exact hFailure
    rcases ttyParseModes_taken conf.termios request.build
        request.tio hTerminal with
      ⟨modes, hModes⟩
    have hBody := ptyBody_payload request hArrived.fits
    rw [← hArrived.packet] at hBody
    rw [if_neg hChmod, readPty_apply hBody hModes]
    refine .success _ rfl rfl ?_
    constructor
    case enable =>
      simpa [ClientRequest.isCompression] using hArrived.enable
    case counted => exact hArrived.counted
    case forwards => simp [ClientRequest.AsksFor]
    all_goals simp [ClientRequest.isPty, ClientRequest.isX11]
  · rw [if_pos hAllocate]
    exact .refused [] hArrived rfl

end Ssh1

------------------------------------------------------------
-- Listeners
------------------------------------------------------------

namespace Ssh1

variable {table table' : ChannelTable}
variable {i : Nat}
variable {type : ChannelType}
variable {sock : Int}

/- A new channel is the one listener that is added. -/
theorem ChannelTable.Allocates.forwards_modify
    {f : Channel → Channel}
    (hAllocates :
      ChannelTable.Allocates type sock table i table')
    (hType : ∀ ch, (f ch).type = ch.type)
    (host : List UInt8)
    (port : Int) :
    (table'.modify i f).Forwards host port ↔
      table.Forwards host port ∨
        (type = .portListener ∧
          (f (table'.channels i)).path = host ∧
          (f (table'.channels i)).hostPort = port) := by
  constructor
  · rintro ⟨j, hj, hListener, hPath, hPort⟩
    by_cases hSame : j = i
    · subst hSame
      rw [modify_channels_self] at hListener hPath hPort
      rw [hType, hAllocates.new.type_eq] at hListener
      exact Or.inr ⟨hListener, hPath, hPort⟩
    · rw [modify_channels_ne hSame] at hListener hPath hPort
      rw [modify_channelsAlloc] at hj
      have hOld : j < table.channelsAlloc := by
        by_contra hNew
        have hUnused :=
          hAllocates.unused j (by omega) hj hSame
        apply hUnused
        simp [Channel.InUse, hListener]
      have hKept := hAllocates.others j hOld hSame
      rw [hKept] at hListener hPath hPort
      exact Or.inl ⟨j, hOld, hListener, hPath, hPort⟩
  · rintro (⟨j, hj, hListener, hPath, hPort⟩ |
      ⟨hListener, hPath, hPort⟩)
    · have hSame : j ≠ i := by
        rintro rfl
        apply hAllocates.fresh hj
        simp [Channel.InUse, hListener]
      have hKept := hAllocates.others j hj hSame
      have hGrows := hAllocates.grows
      refine ⟨j, by rw [modify_channelsAlloc]; omega, ?_⟩
      rw [modify_channels_ne hSame, hKept]
      exact ⟨hListener, hPath, hPort⟩
    · refine ⟨i, hAllocates.bound, ?_⟩
      rw [modify_channels_self, hType, hAllocates.new.type_eq]
      exact ⟨hListener, hPath, hPort⟩

/- A new slot that is filled in leaves the count right. -/
theorem ChannelTable.Allocates.counted_modify
    {f : Channel → Channel}
    (hAllocates :
      ChannelTable.Allocates type sock table i table')
    (hType : ∀ ch, (f ch).type = ch.type) :
    (table'.modify i f).Counted :=
  hAllocates.counted.modify
    (by simp only [Channel.InUse, hType])

/- A listener that is not for a port forwards no port. -/
theorem createListener_forwards
    (sock : Int)
    (path : List UInt8)
    (hFree : type ≠ .free)
    (hPort : type ≠ .portListener)
    (hCounted : table.Counted) :
    ∃ table',
      createListener type sock path table = .ok table' ∧
        table'.Counted ∧
        ∀ host port,
          table'.Forwards host port ↔
            table.Forwards host port := by
  rcases channelAllocate_eq_ok sock hFree hCounted with
    ⟨i, room, hAllocate, hAllocates⟩
  refine ⟨room.modify i fun ch => { ch with path }, ?_,
    hAllocates.counted_modify fun _ => rfl,
    fun host port => ?_⟩
  · unfold createListener
    rw [hAllocate]
    rfl
  · refine Iff.trans
      (hAllocates.forwards_modify ?_ host port) ?_
    · exact fun _ => rfl
    · simp [hPort]

/- A port that is listened on is forwarded as it was asked. -/
theorem channelRequestLocalForwarding_forwards
    {host : List UInt8}
    (port hostPort sock : Int)
    (hHost : host.length ≤ 199)
    (hCounted : table.Counted) :
    ∃ table',
      channelRequestLocalForwarding port host hostPort
          (.ok sock) table = .ok table' ∧
        table'.Counted ∧
        ∀ host' port',
          table'.Forwards host' port' ↔
            table.Forwards host' port' ∨
              (host = host' ∧ hostPort = port') := by
  have hType : ChannelType.portListener ≠ .free := by
    simp
  rcases channelAllocate_eq_ok sock hType hCounted with
    ⟨i, room, hAllocate, hAllocates⟩
  refine ⟨room.modify i fun ch =>
      { ch with path := host, hostPort, listeningPort := port },
    ?_, hAllocates.counted_modify fun _ => rfl,
    fun host' port' => ?_⟩
  · unfold channelRequestLocalForwarding
    rw [if_neg (by omega)]
    simp only [hAllocate]
    rfl
  · refine Iff.trans
      (hAllocates.forwards_modify ?_ host' port') ?_
    · exact fun _ => rfl
    · simp

end Ssh1
