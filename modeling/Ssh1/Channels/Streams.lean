import Ssh1.Channels.MessageStreams

/-
  The data of the channels of two honest parties arrives.

  What a party reads from the socket of a channel its peer
  writes to the socket at the other end, in every run and at
  every moment of it.

  Main declarations:
    * `Network.AllStreams`
    * `Network.step_streams`, `Network.step_fifo`
    * `Network.Delivers`
    * `streamsDelivered`
-/

------------------------------------------------------------
-- Streams of Networks
------------------------------------------------------------

namespace Ssh1

variable {conf : Party → ChannelConf}
variable {net net' : Network}
variable {journal : Journal}
variable {p : Party}
variable {action : NetworkAction}

/- The streams of both parties are as the journal says. -/
def Network.AllStreams
    (net : Network)
    (journal : Journal) : Prop :=
  ∀ p, (net.endpoint p).AllStreams (journal.read p)
    (journal.written p)

/- A step changes the journal of one party. -/
theorem Network.AllStreams.noted
    (hStreams : net.AllStreams journal)
    (hOther :
      net'.endpoint p.other = net.endpoint p.other)
    (hSelf :
      (net'.endpoint p).AllStreams
        (fun l =>
          journal.read p l ++ net.reading conf (p, action) l)
        fun l =>
          journal.written p l ++
            (net.endpoint p).writes p
              (net.handling (p, action)) l
              (net'.endpoint p).table) :
    net'.AllStreams
      (net.noted conf (p, action) net' journal) := by
  unfold Network.AllStreams
  rw [Network.forall_party_iff p]
  constructor
  · simpa only [Network.noted, Function.update_self]
      using hSelf
  · rw [hOther]
    simpa only [Network.noted, ne_eq, Party.other_ne,
      not_false_eq_true, Function.update_of_ne]
      using hStreams p.other

/- A step that is not taken reads and writes nothing. -/
theorem Network.AllStreams.skip
    (hStreams : net.AllStreams journal)
    (hRead : ∀ l, net.reading conf (p, action) l = []) :
    net.AllStreams
      (net.noted conf (p, action) net journal) := by
  apply hStreams.noted rfl
  simp only [hRead, Endpoint.writes_self, List.append_nil]
  exact hStreams p

/- The masks of a select have no part in it. -/
theorem Network.AllStreams.select
    {incoming : Option Label}
    {table : ChannelTable}
    (hStreams : net.AllStreams journal)
    (selecting : Option FdSets)
    (hSelf :
      ((net.endpoint p).follow p incoming table).1.AllStreams
        (fun l =>
          journal.read p l ++ net.reading conf (p, action) l)
        fun l =>
          journal.written p l ++
            (net.endpoint p).writes p
              (net.handling (p, action)) l table) :
    ((net.advance p incoming table).select p
        selecting).AllStreams
      (net.noted conf (p, action)
        ((net.advance p incoming table).select p selecting)
        journal) := by
  apply hStreams.noted
  · simp [Network.select, Network.setEndpoint]
  · simp only [Network.select, Network.setEndpoint,
      Function.update_self, Network.advance_endpoint_self,
      Endpoint.writes_follow_table]
    exact fun l => (hSelf l).of_same rfl rfl rfl rfl

/- A listener has no streams. -/
theorem NetworkInv.streams_listen
    {read written : Label → List UInt8}
    (hInv : NetworkInv conf net)
    (hStreams : (net.endpoint p).AllStreams read written)
    (port : Int)
    (host : List UInt8)
    (hostPort sock : Int) :
    FallibleRun.Ensures Halt.Unfair
      (channelRequestLocalForwarding port host hostPort
        (.ok sock) (net.endpoint p).table)
      fun table =>
        ((net.endpoint p).follow p none table).1.AllStreams
            read written ∧
          ∀ l, (net.endpoint p).writes p none l table = [] := by
  have hOk := hInv.ok p
  unfold channelRequestLocalForwarding
  split
  · apply not_unfair_of_not (not_breaksTable_disconnect _)
    apply not_blamesPeer_disconnect
    simp
  · rcases channelAllocate_eq_ok sock
        (by simp : ChannelType.portListener ≠ .free)
        hOk.table.counted with
      ⟨i, mid, hAllocate, hAllocates⟩
    have hNothing : OnSlot i [] := by
      intro effect hMem
      cases hMem
    simp only [hAllocate, FallibleRun.ok_bind,
      FallibleRun.pure_eq_ok, modify_eq_setSlot,
      FallibleRun.ensures_ok]
    have hFollow :=
      @Endpoint.follow_enter p none i [] .portListener sock
        mid (net.endpoint p) none (net.endpoint p).asked
        hAllocates
        (fun state hSame => by
          simp [Endpoint.note, ← hSame])
        hNothing
        { mid.channels i with
          path := host, hostPort, listeningPort := port }
    refine ⟨?_, fun l =>
      Endpoint.writes_enter hAllocates hNothing rfl _⟩
    rw [hFollow]
    intro l
    have hNew :
        ({ mid.channels i with
          path := host, hostPort,
          listeningPort := port } : Channel).IsFresh
            .portListener i := by
      have hIsNew := hAllocates.new
      exact ⟨hIsNew.type_eq, hIsNew.localId_eq,
        hIsNew.statusFlags_eq, hIsNew.input_eq,
        hIsNew.output_eq⟩
    apply (hStreams l).enter_slot hOk hAllocates hNew _ _ rfl
    · intro l' hLabel
      cases hLabel
    · intro hLabel
      cases hLabel

/- The streams follow every step. -/
theorem Network.step_streams
    (hInv : NetworkInv conf net)
    (hSelects : net.Selects)
    (hStreams : net.AllStreams journal)
    (event : Party × NetworkAction) :
    FallibleRun.Ensures Halt.Unfair (net.step conf event)
      fun net' =>
        net'.AllStreams (net.noted conf event net' journal) := by
  rcases event with ⟨p, action⟩
  have hOk := hInv.ok p
  unfold Network.step
  simp only
  cases hSelecting : (net.endpoint p).selecting with
  | none =>
      cases action with
      | deliver connection =>
          simp only
          cases hLink : net.link p with
          | nil => exact hStreams.skip fun _ => rfl
          | cons envelope rest =>
              rcases hInv.labelled p envelope (by simp [hLink])
                with ⟨label, hLabel⟩
              refine FallibleRun.Ensures.bind
                (hInv.streams_deliver (hStreams p) hLink hLabel
                  connection) ?_
              rintro table ⟨hNext, hWrites⟩
              have hHandling :
                  net.handling (p, .deliver connection) =
                    some label := by
                simp [Network.handling, hLink, hLabel]
              apply hStreams.noted
              · rw [Network.advance_endpoint_other,
                  Network.take_endpoint_other]
              · simp only [Network.reading, hHandling,
                  Network.advance_endpoint_self,
                  Endpoint.writes_follow_table, hWrites,
                  List.append_nil, Network.take_endpoint_self,
                  hLabel]
                exact hNext
      | prepareSelect =>
          simp only
          have hPrepare :=
            @run_prepareSlot_loops (conf p) Halt.Unfair
              (net.endpoint p).table
              (List.range (net.endpoint p).table.channelsAlloc)
              .zero hOk.table hOk.noX11
              (fun i hi => List.mem_range.mp hi)
              (fun i hi => by simp [FdSets.zero] at hi)
          refine FallibleRun.Ensures.bind hPrepare ?_
          rintro ⟨table, sets⟩ ⟨hSteps, -⟩
          apply hStreams.select
          simp only [Network.reading, Network.handling,
            List.append_nil]
          exact hInv.streams_localSteps (hStreams p) hSteps
      | afterSelect io =>
          apply hStreams.skip
          intro l
          simp [Network.reading, hSelecting]
      | outputPoll notVeryMuch =>
          simp only
          have hPoll :
              Loops Halt.Unfair (conf p) (fun _ _ => False)
                (net.endpoint p).table
                (channelOutputPoll (conf p) notVeryMuch
                  (net.endpoint p).table) :=
            channelOutputPoll_loops hOk.table notVeryMuch
          refine FallibleRun.Ensures.bind hPoll ?_
          intro table hSteps
          apply hStreams.noted
          · rw [Network.advance_endpoint_other]
          · simp only [Network.reading, Network.handling,
              List.append_nil, Network.advance_endpoint_self,
              Endpoint.writes_follow_table]
            exact hInv.streams_localSteps (hStreams p) hSteps
      | listenPort port host hostPort sock =>
          simp only
          refine FallibleRun.Ensures.bind
            (hInv.streams_listen (hStreams p) port host hostPort
              sock) ?_
          rintro table ⟨hNext, hWrites⟩
          apply hStreams.noted
          · rw [Network.advance_endpoint_other]
          · simp only [Network.reading, Network.handling,
              Network.advance_endpoint_self,
              Endpoint.writes_follow_table, hWrites,
              List.append_nil]
            exact hNext
  | some sets =>
      cases action with
      | deliver connection => exact hStreams.skip fun _ => rfl
      | prepareSelect => exact hStreams.skip fun _ => rfl
      | afterSelect io =>
          simp only
          have hAfter :=
            @NetworkInv.streams_run Halt.Unfair conf net p _ _
              (maskedIo sets io)
              (List.range (net.endpoint p).table.channelsAlloc)
              List.nodup_range hInv (hStreams p)
              (fun i hi => List.mem_range.mp hi)
              (by
                intro i hi hReadable
                simp only [maskedIo, Bool.and_eq_true]
                  at hReadable
                exact hSelects p sets hSelecting i hReadable.2)
          refine FallibleRun.Ensures.bind hAfter ?_
          rintro table ⟨-, hNext⟩
          apply hStreams.select
          simpa only [Network.reading, Network.handling,
            hSelecting] using hNext
      | outputPoll notVeryMuch =>
          exact hStreams.skip fun _ => rfl
      | listenPort port host hostPort sock =>
          exact hStreams.skip fun _ => rfl

/- Every step keeps the order of the data on the links. -/
theorem Network.step_fifo
    (hFifo : net.Fifo)
    (event : Party × NetworkAction)
    (hStep : net.step conf event = .ok net') :
    net'.Fifo := by
  rcases event with ⟨p, action⟩
  unfold Network.step at hStep
  simp only at hStep
  cases hSelecting : (net.endpoint p).selecting with
  | none =>
      rw [hSelecting] at hStep
      cases action with
      | deliver connection =>
          simp only at hStep
          cases hLink : net.link p with
          | nil =>
              rw [hLink] at hStep
              cases hStep
              exact hFifo
          | cons envelope rest =>
              rw [hLink] at hStep
              rcases FallibleRun.bind_eq_ok_iff.mp hStep with
                ⟨table, -, hNext⟩
              cases hNext
              exact (hFifo.take hLink).advance _ _ _
      | prepareSelect =>
          rcases FallibleRun.bind_eq_ok_iff.mp hStep with
            ⟨⟨table, sets⟩, -, hNext⟩
          cases hNext
          exact (hFifo.advance _ _ _).select _ _
      | afterSelect io =>
          cases hStep
          exact hFifo
      | outputPoll notVeryMuch =>
          rcases FallibleRun.bind_eq_ok_iff.mp hStep with
            ⟨table, -, hNext⟩
          cases hNext
          exact hFifo.advance _ _ _
      | listenPort port host hostPort sock =>
          rcases FallibleRun.bind_eq_ok_iff.mp hStep with
            ⟨table, -, hNext⟩
          cases hNext
          exact hFifo.advance _ _ _
  | some sets =>
      rw [hSelecting] at hStep
      cases action with
      | deliver connection =>
          cases hStep
          exact hFifo
      | prepareSelect =>
          cases hStep
          exact hFifo
      | afterSelect io =>
          rcases FallibleRun.bind_eq_ok_iff.mp hStep with
            ⟨table, -, hNext⟩
          cases hNext
          exact (hFifo.advance _ _ _).select _ _
      | outputPoll notVeryMuch =>
          cases hStep
          exact hFifo
      | listenPort port host hostPort sock =>
          cases hStep
          exact hFifo

end Ssh1

------------------------------------------------------------
-- The End of a Stream
------------------------------------------------------------

namespace Ssh1

open HalfClose

variable {x y : Half}
variable {toX toY : List ChannelMessage}
variable {c i : Nat}
variable {said heard : Said}
variable {queue : List ChannelMessage}
variable {ch : Channel}

/- After the end there is no more data on the way. -/
theorem flow_ended
    (hFlow : Flow (Carries c) said heard queue)
    (hEnded : heard.ended = true) :
    said.ended = true ∧ queue.flatMap dataIn = [] := by
  induction queue generalizing heard with
  | nil =>
      rcases hFlow with ⟨items, hQueue, hReplay⟩
      cases hQueue
      cases hReplay
      exact ⟨hEnded, rfl⟩
  | cons m queue ih =>
      rcases hFlow.receive with
        ⟨item, heard', hCarries, hNext, hRest⟩
      cases hCarries with
      | data bytes hLength => simp [Said.next, hEnded] at hNext
      | eof => simp [Said.next, hEnded] at hNext
      | close =>
          unfold Said.next at hNext
          simp only at hNext
          split at hNext
          · cases hNext
          · cases hNext
            rcases ih hRest hEnded with ⟨hSaid, hData⟩
            refine ⟨hSaid, ?_⟩
            rw [List.flatMap_cons, hData]
            rfl

/- Who has heard the close has been sent it. -/
theorem flow_closed
    (hFlow : Flow (Carries c) said heard queue)
    (hClosed : heard.closed = true) :
    said.closed = true := by
  induction queue generalizing heard with
  | nil =>
      rcases hFlow with ⟨items, hQueue, hReplay⟩
      cases hQueue
      cases hReplay
      exact hClosed
  | cons m queue ih =>
      rcases hFlow.receive with
        ⟨item, heard', -, hNext, hRest⟩
      apply ih hRest
      unfold Said.next at hNext
      split at hNext <;> split at hNext <;> cases hNext <;>
        exact hClosed

/-
  The peer of a channel that has heard the end, and has not
  closed its own end yet.
-/
def Half.Ended (h : Half) : Prop :=
  ∃ i ch, h.slot = some (i, ch) ∧ ch.input = [] ∧
    ch.statusFlags.closeReceived = false

theorem Half.Open.ended
    {d : Nat}
    {said' heard' : Said}
    {queue' : List ChannelMessage}
    (hOpen : x.Open c d said heard)
    (hFlow : Flow (Carries d) said heard' queue)
    (hBack : Flow (Carries c) said' heard queue')
    (hEnded : heard'.ended = true)
    (hUnclosed : said'.closed = false) :
    queue.flatMap dataIn = [] ∧ x.Ended := by
  rcases flow_ended hFlow hEnded with ⟨hSaid, hData⟩
  have hHeard : heard.closed = false := by
    cases hClosed : heard.closed with
    | false => rfl
    | true =>
        rw [flow_closed hBack hClosed] at hUnclosed
        cases hUnclosed
  rcases hOpen.slot_eq with
    ⟨-, -, rfl⟩ | ⟨ch, hSlot, hCh, rfl, rfl⟩
  · cases hHeard
  · exact ⟨hData, c, ch, hSlot, hCh.drained hSaid, hHeard⟩

/- What a channel that has heard the end knows of its peer. -/
theorem Phase.ended
    (hPhase : Phase x y toX toY)
    (hEnded : ch.statusFlags.eofReceived = true)
    (hUnclosed : ch.statusFlags.closeSent = false) :
    (y.slot = some (i, ch) →
        toY.flatMap dataIn = [] ∧ x.Ended) ∧
      (x.slot = some (i, ch) →
        toX.flatMap dataIn = [] ∧ y.Ended) := by
  have hWaiting :
      ∀ {h : Half} {c}, h.Waiting c →
        h.slot ≠ some (i, ch) := by
    intro h c hWaiting hSlot
    have hFlags := (hWaiting.type_eq hSlot).2.2
    simp [hFlags, StatusFlags.clear] at hEnded
  cases hPhase with
  | unused hx hy =>
      exact ⟨fun h => absurd h hy.slot_ne,
        fun h => absurd h hx.slot_ne⟩
  | requested c body hx hy =>
      exact ⟨fun h => absurd h hy.slot_ne,
        fun h => absurd h (hWaiting hx)⟩
  | refused c hx hy =>
      exact ⟨fun h => absurd h hy.slot_ne,
        fun h => absurd h (hWaiting hx)⟩
  | confirmed c d said heard hx hy hToX hToY =>
      refine ⟨?_, fun h => absurd h (hWaiting hx)⟩
      intro hSlot
      rcases hy.isOpen hSlot with ⟨rfl, -, -, rfl⟩
      -- nothing was said to it, so it has not heard the end
      rcases flow_ended hToY hEnded with ⟨hSaid, -⟩
      cases hSaid
  | joined c d saidX heardX saidY heardY hx hy hToX hToY =>
      constructor
      · intro hSlot
        rcases hy.isOpen hSlot with ⟨rfl, -, rfl, rfl⟩
        exact hx.ended hToY hToX hEnded hUnclosed
      · intro hSlot
        rcases hx.isOpen hSlot with ⟨rfl, -, rfl, rfl⟩
        exact hy.ended hToX hToY hEnded hUnclosed

end Ssh1

------------------------------------------------------------
-- Delivery
------------------------------------------------------------

namespace Ssh1

variable {conf : Party → ChannelConf}
variable {net : Network}
variable {journal : Journal}
variable {p : Party}

/-
  What is read at one end of a channel comes out at the other
  end: never anything else, and in this order. While neither
  end has given up, all of it is in one of the buffers, on
  the link or written. At the end of the data the receiver
  has all that has ever been read.
-/
structure Network.Delivers
    (net : Network)
    (journal : Journal) : Prop where
  front :
    ∀ p label,
      journal.written p label <+: journal.read p.other label
  kept :
    ∀ p label i ch j peer,
      (net.endpoint p).slotOf label = some (i, ch) →
        ch.statusFlags.outputSocketClosed = false →
        (net.endpoint p.other).slotOf label =
            some (j, peer) →
        peer.statusFlags.closeReceived = false →
        journal.read p.other label =
          journal.written p label ++ ch.output ++
            net.flying p label ++ peer.input
  ended :
    ∀ p label i ch,
      (net.endpoint p).slotOf label = some (i, ch) →
        ch.statusFlags.outputSocketClosed = false →
        ch.statusFlags.eofReceived = true →
        journal.read p.other label =
          journal.written p label ++ ch.output

/- What holds in every state of a run. -/
structure Network.Carried
    (conf : Party → ChannelConf)
    (net : Network)
    (journal : Journal) : Prop where
  inv : NetworkInv conf net
  selects : net.Selects
  fifo : net.Fifo
  streams : net.AllStreams journal

theorem Network.Carried.initial
    (conf : Party → ChannelConf)
    (memory : Party → Nat → Channel) :
    (Network.initial memory).Carried conf .empty where
  inv := .initial conf memory
  selects := by
    intro p sets hSome
    cases hSome
  fifo := .initial memory
  streams := fun p label => .initial (memory p) label

theorem Network.Carried.step
    (hCarried : net.Carried conf journal)
    (event : Party × NetworkAction) :
    FallibleRun.Ensures Halt.Unfair
      (Network.observe conf (net, journal) event)
      fun state => state.1.Carried conf state.2 := by
  have hInv :=
    Network.step_inv hCarried.inv hCarried.selects event
  have hStreams :=
    Network.step_streams hCarried.inv hCarried.selects
      hCarried.streams event
  unfold Network.observe
  cases hStep : net.step conf event with
  | error halt =>
      rw [hStep] at hInv
      exact hInv
  | ok net' =>
      rw [hStep] at hInv hStreams
      exact ⟨hInv.1, hInv.2,
        Network.step_fifo hCarried.fifo event hStep, hStreams⟩

/- The link between the two ends of a channel, as a pipe. -/
theorem Network.Fifo.sound
    (hFifo : net.Fifo)
    (p : Party)
    (label : Label) :
    Pipe.Sound
      (sentData label (net.endpoint p.other).history)
      (receivedData label (net.endpoint p).history)
      ⟨false, net.flying p label⟩ :=
  .of_kept rfl (hFifo p label).symm

/- The data of the messages through a link. -/
theorem Network.flying_eq
    (p : Party)
    (label : Label) :
    net.flying p label =
      (net.through p label).flatMap dataIn := by
  unfold Network.flying Network.through
  induction net.link p with
  | nil => rfl
  | cons envelope rest ih =>
      rw [List.flatMap_cons, ih, List.filterMap_cons]
      by_cases hLabel : envelope.label = some label
      · simp [Envelope.dataOn, hLabel]
      · simp [Envelope.dataOn, hLabel]

theorem Network.Carried.delivers
    (hCarried : net.Carried conf journal) :
    net.Delivers journal where
  front := by
    intro p label
    have hInput := (hCarried.streams p.other label).input
    have hLink := hCarried.fifo.sound p label
    have hOutput := (hCarried.streams p label).output
    exact hOutput.front.trans (hLink.front.trans hInput.front)
  kept := by
    intro p label i ch j peer hSlot hOutput hPeer hInput
    have hFirst := (hCarried.streams p.other label).input
    have hLink := hCarried.fifo.sound p label
    have hLast := (hCarried.streams p label).output
    rw [hPeer] at hFirst
    rw [hSlot] at hLast
    have hWhole := hFirst.andThen (hLink.andThen hLast)
    have hSecond :
        (⟨false, net.flying p label⟩ : Pipe UInt8).andThen
            ch.outPipe =
          ⟨false, ch.output ++ net.flying p label⟩ :=
      Pipe.andThen_of_kept rfl hOutput
    have hAll :
        peer.inPipe.andThen
            ⟨false, ch.output ++ net.flying p label⟩ =
          ⟨false,
            ch.output ++ net.flying p label ++ peer.input⟩ :=
      Pipe.andThen_of_kept hInput rfl
    simp only [slotInPipe, slotOutPipe, hSecond, hAll]
      at hWhole
    rw [← hWhole.kept rfl]
    simp only [List.append_assoc]
  ended := by
    intro p label i ch hSlot hOutput hEnded
    have hOk := hCarried.inv.ok p
    rcases (Endpoint.slotOf_eq_some_iff hOk.distinct).mp hSlot
      with ⟨hHolds, rfl⟩
    have hUse : ((net.endpoint p).table.channels i).InUse := by
      unfold Channel.InUse
      rcases hHolds.2.1 with hType | hType <;> simp [hType]
    have hUnclosed :=
      (hOk.table.wellFormed i hHolds.1 hUse).closeSent_eq
    rw [hOutput] at hUnclosed
    have hPeer :
        net.flying p label = [] ∧
          (net.half p.other label).Ended := by
      rw [Network.flying_eq]
      have hBoth :=
        @Phase.ended _ _ _ _ i _
          (hCarried.inv.phases label) hEnded hUnclosed
      rcases Network.initiator_eq_or p label with hRole | hRole
      · rw [hRole] at hBoth
        exact hBoth.2 hSlot
      · rw [hRole, Party.other_other] at hBoth
        exact hBoth.1 hSlot
    rcases hPeer with ⟨hFlying, j, peer, hPeerSlot, hDrained,
      hOpen⟩
    have hRead :=
      (hCarried.streams p.other label).input.kept
    have hWritten :=
      (hCarried.streams p label).output.kept
    rw [show (net.endpoint p.other).slotOf label =
      some (j, peer) from hPeerSlot] at hRead
    rw [hSlot] at hWritten
    have hLink := hCarried.fifo p label
    rw [hFlying, List.append_nil] at hLink
    have hSent :
        sentData label (net.endpoint p.other).history =
          journal.read p.other label := by
      rw [← hRead hOpen]
      change _ = _ ++ peer.input
      rw [hDrained, List.append_nil]
    rw [← hSent, hLink, ← hWritten hOutput]
    rfl

/-
  Every run of two honest parties delivers the data of the
  channels.
-/
theorem streamsDelivered
    (conf : Party → ChannelConf)
    (memory : Party → Nat → Channel)
    (events : List (Party × NetworkAction)) :
    FallibleRun.Ensures Halt.Unfair
      (FallibleRun.run (Network.observe conf)
        (.initial memory, .empty) events)
      fun state => state.1.Delivers state.2 := by
  have hRun :
      ∀ (events : List (Party × NetworkAction)) state,
        Network.Carried conf state.1 state.2 →
        FallibleRun.Ensures Halt.Unfair
          (FallibleRun.run (Network.observe conf) state events)
          fun state' => state'.1.Carried conf state'.2 := by
    intro events
    induction events with
    | nil => exact fun state hState => hState
    | cons event events ih =>
        rintro ⟨net, journal⟩ hState
        exact FallibleRun.Ensures.bind
          (hState.step event) ih
  exact (hRun events _ (.initial conf memory)).mono
    fun _ hState => hState.delivers

/- A select after which everything is ready. -/
def readyIo : Nat → SlotIo :=
  fun _ =>
    { readable := true
      writable := true
      accept := .accepted 7 []
      read := .bytes [1, 2, 3]
      write := .wrote 2 }

/- Three bytes are read at one end, and two of them written. -/
example :
    (FallibleRun.run (Network.observe fun _ => plainConf)
        (.initial fun _ => clearedMemory, .empty)
        [(.client, .listenPort 80 [] 80 5),
          (.client, .prepareSelect),
          (.client, .afterSelect readyIo),
          (.server, .deliver (some 6)),
          (.client, .deliver none),
          (.client, .prepareSelect),
          (.client, .afterSelect readyIo),
          (.client, .outputPoll fun _ => true),
          (.server, .deliver none),
          (.server, .deliver none),
          (.server, .prepareSelect),
          (.server, .afterSelect readyIo)]).toOption.map
        (fun state =>
          (state.2.read .client ⟨.client, 0⟩,
            state.2.written .server ⟨.client, 0⟩)) =
      some ([1, 2, 3], [1, 2]) := by
  decide +kernel

end Ssh1
