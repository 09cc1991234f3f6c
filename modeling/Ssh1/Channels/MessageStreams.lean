import Ssh1.Channels.SlotStreams

/-
  The data of a channel and the messages of the peer.

  The data of a message goes into the buffer for the socket
  of its channel, and no other message brings any.

  Main declarations:
    * `Endpoint.heard`
    * `Endpoint.KeepsStreams`
    * `NetworkInv.streams_deliver`
-/

------------------------------------------------------------
-- Streams and Messages
------------------------------------------------------------

namespace Ssh1

open HalfClose

section Handle

variable {conf : ChannelConf}
variable {table : ChannelTable}
variable {i c d : Nat}
variable {m : ChannelMessage}
variable {item : HalfClose.Item}
variable {heard' : Said}

/- The data in a message goes into the output buffer. -/
theorem handleMessage_heard
    (hInv : TableInv conf table)
    (hBound : i < table.channelsAlloc)
    (hOpen : (table.channels i).IsOpen d)
    (hCarries : Carries i m item)
    (hNext : (table.channels i).heard.next item = some heard')
    (connection : Option Int) :
    ∃ es ch,
      handleMessage conf m connection table =
          .ok (closeSlot i ch es table) ∧
        OnSlot i es ∧ sentMessages es = [] ∧
        wroteData es = [] ∧ ch.type = .opened ∧
        (table.channels i).Moves [] [] (dataIn m) [] ch := by
  have hType := hOpen.type_eq
  have hUse : (table.channels i).InUse := by
    simp [Channel.InUse, hType]
  have hWell := hInv.wellFormed i hBound hUse
  have hGoesOn := hInv.goesOn i hBound hUse
  have hFound := channelInUse_of_lt hBound hUse
  have hReceived :
      ∀ data, OnSlot i [.received i data] := by
    intro data effect hMem
    exact .inr (.inl ⟨data, List.mem_singleton.mp hMem⟩)
  have hNothing : OnSlot i [] := by
    intro effect hMem
    cases hMem
  cases hCarries with
  | data bytes hLength =>
      have hMore :
          (table.channels i).statusFlags.eofReceived =
            false := by
        cases hEof :
            (table.channels i).statusFlags.eofReceived with
        | false => rfl
        | true => simp [Said.next, Channel.heard, hEof] at hNext
      have hBody :
          bufferGetString (bufferPutString [] bytes) =
            .ok (bytes, []) := by
        have hGet :=
          bufferGetString_bufferPutString_append hLength []
        rwa [List.append_nil] at hGet
      rw [dataIn_data hLength]
      simp only [handleMessage, channelInputData, hFound,
        hType, hMore, hBody, ne_eq, not_true_eq_false,
        false_and, if_false, Bool.false_eq_true]
      cases hClosed :
          (table.channels i).statusFlags.outputSocketClosed with
      | false =>
          refine ⟨[.received i bytes],
            { table.channels i with
              output :=
                bufferAppend (table.channels i).output bytes },
            ?_, hReceived bytes, rfl, rfl, hType, .stay, ?_⟩
          · rw [closeSlot_of_goesOn (by exact hGoesOn)]
            simp only [Bool.false_eq_true, not_false_eq_true,
              if_true, FallibleRun.ok_bind,
              FallibleRun.pure_eq_ok]
            rw [modify_eq_setSlot, record_setSlot]
            rfl
          · simp only [Channel.outPipe, hClosed]
            exact .push bytes
      | true =>
          refine ⟨[.received i (bodyData
              (bufferPutString [] bytes))],
            table.channels i, ?_, hReceived _, rfl, rfl, hType,
            .stay, ?_⟩
          · rw [closeSlot_of_goesOn hGoesOn]
            simp [setSlot, ChannelTable.record]
          · simp only [Channel.outPipe, hClosed]
            exact .lose bytes
  | eof =>
      have hNew :
          (table.channels i).statusFlags.eofReceived =
            false := by
        cases hEof :
            (table.channels i).statusFlags.eofReceived with
        | false => rfl
        | true => simp [Said.next, Channel.heard, hEof] at hNext
      have hReceive :=
        @channelReceiveIeof_opened i _ [] table hBound
          hWell.localId_eq hType hNew
      rw [setSlot_self] at hReceive
      refine ⟨[], _, Eq.trans ?_ hReceive, hNothing, rfl, rfl,
        hType, .still rfl rfl⟩
      simp only [handleMessage, channelIeof, hFound]
  | close =>
      have hNew :
          (table.channels i).statusFlags.closeReceived =
            false := by
        cases hClose :
            (table.channels i).statusFlags.closeReceived with
        | false => rfl
        | true =>
            simp [Said.next, Channel.heard, hClose] at hNext
      have hReceive :=
        @channelReceiveOclosed_opened i _ [] table hBound
          hWell.localId_eq hType hNew
      rw [setSlot_self] at hReceive
      refine ⟨[], _, Eq.trans ?_ hReceive, hNothing, rfl, rfl,
        hType, .drop, .stay⟩
      simp only [handleMessage, channelOclosed, hFound]

/- An answer frees or opens the slot that waits for it. -/
theorem handleMessage_failure
    (hBound : c < table.channelsAlloc)
    (hType : (table.channels c).type = .opening)
    (connection : Option Int) :
    handleMessage conf (.openFailure c) connection table =
      .ok (putSlot true c (table.channels c) [] table) := by
  have hUse : (table.channels c).InUse := by
    simp [Channel.InUse, hType]
  have hFound :
      ¬ ((c : Int) < 0 ∨ (c : Int) ≥ table.channelsAlloc ∨
        (table.channels (c : Int).toNat).type ≠ .opening) := by
    simp only [Int.toNat_natCast, hType, ne_eq,
      not_true_eq_false, or_false]
    omega
  rw [handleMessage, channelInputOpenFailure, if_neg hFound,
    Int.toNat_natCast, putSlot, if_pos rfl, setSlot_self]
  exact channelFree_eq_ok hBound hUse

theorem handleMessage_confirmation
    (hBound : c < table.channelsAlloc)
    (hType : (table.channels c).type = .opening)
    (connection : Option Int) :
    handleMessage conf (.openConfirmation c d) connection
        table =
      .ok (putSlot false c
        { table.channels c with
          remoteId := d, type := .opened } [] table) := by
  have hFound :
      ¬ ((c : Int) < 0 ∨ (c : Int) ≥ table.channelsAlloc ∨
        (table.channels (c : Int).toNat).type ≠ .opening) := by
    simp only [Int.toNat_natCast, hType, ne_eq,
      not_true_eq_false, or_false]
    omega
  rw [handleMessage, channelInputOpenConfirmation,
    if_neg hFound, Int.toNat_natCast, modify_eq_setSlot]
  rfl

end Handle

/- The party has taken a message about a channel. -/
def Endpoint.heard
    (label : Label)
    (m : ChannelMessage)
    (e : Endpoint) : Endpoint :=
  { e with
      history := e.history ++ [.received (some label) m] }

variable {conf : ChannelConf}
variable {e : Endpoint}
variable {label : Label}
variable {m : ChannelMessage}
variable {read written : Label → List UInt8}
variable {free : Bool}
variable {i : Nat}
variable {ch : Channel}
variable {es : List ChannelEffect}

theorem sentData_heard
    (l : Label) :
    sentData l (e.heard label m).history =
      sentData l e.history := by
  simp [Endpoint.heard, sentData, HistoryEntry.sentOn]

theorem receivedData_heard_self :
    receivedData label (e.heard label m).history =
      receivedData label e.history ++ dataIn m := by
  simp [Endpoint.heard, receivedData, HistoryEntry.receivedOn]

theorem receivedData_heard_ne
    {l : Label}
    (hl : l ≠ label) :
    receivedData l (e.heard label m).history =
      receivedData l e.history := by
  simp [Endpoint.heard, receivedData, HistoryEntry.receivedOn,
    Ne.symm hl]

theorem tally_heard_ne
    {l : Label}
    (hl : l ≠ label) :
    tally l (e.heard label m).history =
      tally l e.history := by
  have hNone :
      tally l [.received (some label) m] = fun _ => 0 := by
    apply tally_eq_zero
    intro entry hMem counter
    rw [List.mem_singleton.mp hMem]
    exact counts_received_ne (by simpa using Ne.symm hl) _ _
  simp only [Endpoint.heard, tally_append, hNone]
  rfl

/- A message without data that opens nothing. -/
theorem Endpoint.AllStreams.heard
    (hStreams : e.AllStreams read written)
    (hData : dataIn m = [])
    (hOpens : m.isConfirmation = false) :
    (e.heard label m).AllStreams read written := by
  intro l
  have hSlot : (e.heard label m).slotOf l = e.slotOf l := rfl
  by_cases hl : l = label
  · subst hl
    apply (hStreams l).of_same hSlot
    · simp [Endpoint.heard, tally, HistoryEntry.counts, hOpens]
    · exact sentData_heard l
    · rw [receivedData_heard_self, hData, List.append_nil]
  · apply (hStreams l).of_same hSlot
    · rw [tally_heard_ne hl]
    · exact sentData_heard l
    · exact receivedData_heard_ne hl

/- A message to a channel that is or will be open. -/
theorem Endpoint.AllStreams.put_heard
    (hStreams : e.AllStreams read written)
    (hOk : e.Ok conf)
    (hHolds : e.Holds label i)
    (hType : ch.type = .opening ∨ ch.type = .opened)
    (hOpened :
      0 < tally label (e.heard label m).history .opened)
    (hSilent : sentMessages es = [])
    (hMoves :
      (e.table.channels i).Moves [] [] (dataIn m) [] ch) :
    ((e.heard label m).put free i ch es).AllStreams read
      written := by
  have hHolds' : (e.heard label m).Holds label i := hHolds
  intro l
  by_cases hl : l = label
  · subst hl
    have hMove :=
      @Endpoint.Streams.move e ((e.heard l m).put free i ch es)
        l _ _ free i (e.table.channels i) ch [] [] (dataIn m)
        [] (hStreams l)
    simp only [List.append_nil] at hMove
    apply hMove _ hMoves
      ((slotOf_eq_some_iff hOk.distinct).mpr ⟨hHolds, rfl⟩)
      (put_slotOf_self hHolds' hType hOk.distinct)
    · simp only [put, hHolds'.2.2, sentData_append,
        sentData_slotEntries_self, hSilent, sentData_heard,
        List.flatMap_nil, List.append_nil]
    · simp only [put, receivedData_append,
        receivedData_slotEntries, receivedData_heard_self,
        List.append_nil]
    · simp only [put, tally_append]
      omega
  · have hNe : some label ≠ some l := by
      simpa using Ne.symm hl
    apply (hStreams l).of_same
    · exact put_slotOf_ne hHolds' hType hOk.distinct hl
    · simp only [put, hHolds'.2.2, tally_append,
        tally_slotEntries_ne hNe, tally_heard_ne hl]
      rfl
    · simp only [put, hHolds'.2.2, sentData_append,
        sentData_slotEntries_ne hNe, sentData_heard,
        List.append_nil]
    · simp only [put, receivedData_append,
        receivedData_slotEntries, receivedData_heard_ne hl,
        List.append_nil]

/- A channel that is refused has had no data. -/
theorem Endpoint.AllStreams.fail_heard
    (hStreams : e.AllStreams read written)
    (hOk : e.Ok conf)
    (hHolds : e.Holds label i)
    (hType : ch.type = .opening)
    (hNone : tally label e.history .opened = 0)
    (hData : dataIn m = [])
    (hOpens : m.isConfirmation = false) :
    ((e.heard label m).put true i ch []).AllStreams read
      written := by
  have hHolds' : (e.heard label m).Holds label i := hHolds
  have hKind : ch.type = .opening ∨ ch.type = .opened :=
    .inl hType
  have hHeard :
      (e.heard label m).AllStreams read written :=
    hStreams.heard hData hOpens
  intro l
  by_cases hl : l = label
  · subst hl
    rcases (hStreams l).unopened hNone with
      ⟨hRead, hSent, hReceived, hWritten⟩
    have hSlot :
        ((e.heard l m).put true i ch []).slotOf l = none := by
      rw [put_slotOf_self hHolds' hKind hOk.distinct]
      rfl
    have hSent' :
        sentData l ((e.heard l m).put true i ch []).history =
          [] := by
      simp only [put, hHolds'.2.2, sentData_append,
        sentData_slotEntries_self, sentData_heard, hSent,
        sentMessages, List.filterMap_nil, List.flatMap_nil,
        List.append_nil]
    have hReceived' :
        receivedData l
            ((e.heard l m).put true i ch []).history = [] := by
      simp only [put, receivedData_append,
        receivedData_slotEntries, receivedData_heard_self,
        hReceived, hData, List.append_nil]
    refine ⟨fun _ => ⟨hRead, hSent', hReceived', hWritten⟩,
      ?_, ?_⟩
    · rw [hSlot, hSent']
      exact .gone List.nil_prefix
    · rw [hSlot, hReceived', hWritten]
      exact .gone List.nil_prefix
  · exact (hHeard l).put_ne (hOk.received _ _) hHolds' hKind hl

end Ssh1

------------------------------------------------------------
-- Streams of Deliveries
------------------------------------------------------------

namespace Ssh1

open HalfClose

variable {bad : Halt → Prop}
variable {conf : Party → ChannelConf}
variable {net : Network}
variable {label : Label}
variable {p : Party}
variable {envelope : Envelope}
variable {rest : List Envelope}
variable {read written : Label → List UInt8}

/- What a party does about a message keeps its streams. -/
def Endpoint.KeepsStreams
    (p : Party)
    (label : Label)
    (m : ChannelMessage)
    (read written : Label → List UInt8)
    (e : Endpoint)
    (table : ChannelTable) : Prop :=
  ((e.heard label m).follow p (some label) table).1.AllStreams
      read written ∧
    ∀ l, e.writes p (some label) l table = []

/- Changes of a slot that write nothing. -/
theorem Endpoint.KeepsStreams.put
    {free : Bool}
    {i : Nat}
    {ch : Channel}
    {es : List ChannelEffect}
    {e : Endpoint}
    {m : ChannelMessage}
    (hSlot : OnSlot i es)
    (hWrote : wroteData es = [])
    (hStreams :
      ((e.heard label m).put free i ch es).AllStreams read
        written) :
    e.KeepsStreams p label m read written
      (putSlot free i ch es e.table) := by
  have hFollow :=
    @Endpoint.follow_put p (some label) i es hSlot free ch
      (e.heard label m)
  refine ⟨?_, ?_⟩
  · change ((e.heard label m).follow p (some label)
      (putSlot free i ch es (e.heard label m).table)).1.AllStreams
        read written
    rw [hFollow]
    exact hStreams
  · intro l
    rw [Endpoint.writes_put hSlot, hWrote, ite_self]

section Deliver

variable (hInv : NetworkInv conf net)
variable (hStreams : (net.endpoint p).AllStreams read written)

include hInv hStreams

/- A message to an open channel. -/
theorem NetworkInv.streams_open
    {c d : Nat}
    {said heard heard' : Said}
    {m : ChannelMessage}
    {item : HalfClose.Item}
    (hOpen : (net.half p label).Open c d said heard)
    (hCarries : Carries c m item)
    (hNext : heard.next item = some heard')
    (connection : Option Int) :
    FallibleRun.Ensures bad
      (handleMessage (conf p) m connection
        (net.endpoint p).table)
      ((net.endpoint p).KeepsStreams p label m read written) := by
  have hOk := hInv.ok p
  rcases hOpen.slot_eq with
    ⟨-, -, rfl⟩ | ⟨ch, hSlot, hCh, hSaid, hHeard⟩
  · rw [Said.next_everything] at hNext
    cases hNext
  rcases hInv.holds_of_slot hSlot with ⟨hHolds, rfl⟩
  subst hHeard
  rcases handleMessage_heard hOk.table hHolds.1 hCh hCarries
      hNext connection with
    ⟨es, ch', hHandle, hOnSlot, hSilent, hWrote, hType,
      hMoves⟩
  rw [hHandle, FallibleRun.ensures_ok, closeSlot_eq_putSlot]
  apply Endpoint.KeepsStreams.put hOnSlot hWrote
  apply hStreams.put_heard hOk hHolds (.inr hType) _ hSilent
    hMoves
  have hOpened := hInv.opened hHolds hCh.type_eq
  simp only [Endpoint.heard, tally_append]
  omega

/- The answer that the channel is open. -/
theorem NetworkInv.streams_confirmation
    {c d : Nat}
    (hWaiting : (net.half p label).Waiting c)
    (connection : Option Int) :
    FallibleRun.Ensures bad
      (handleMessage (conf p) (.openConfirmation c d)
        connection (net.endpoint p).table)
      ((net.endpoint p).KeepsStreams p label
        (.openConfirmation c d) read written) := by
  have hOk := hInv.ok p
  rcases hWaiting.slot_eq with ⟨ch, hSlot, hType, hFlags⟩
  rcases hInv.holds_of_slot hSlot with ⟨hHolds, rfl⟩
  rw [handleMessage_confirmation hHolds.1 hType connection,
    FallibleRun.ensures_ok]
  have hNothing : OnSlot c [] := by
    intro effect hMem
    cases hMem
  have hMoves :
      ((net.endpoint p).table.channels c).Moves [] []
        (dataIn (.openConfirmation c d)) []
        { (net.endpoint p).table.channels c with
          remoteId := d, type := .opened } :=
    .still rfl rfl
  apply Endpoint.KeepsStreams.put hNothing rfl
  apply hStreams.put_heard hOk hHolds (.inr rfl) _ rfl hMoves
  simp [Endpoint.heard, tally, HistoryEntry.counts,
    ChannelMessage.isConfirmation]

/- The answer that there is no channel. -/
theorem NetworkInv.streams_failure
    {c : Nat}
    (hWaiting : (net.half p label).Waiting c)
    (connection : Option Int) :
    FallibleRun.Ensures bad
      (handleMessage (conf p) (.openFailure c) connection
        (net.endpoint p).table)
      ((net.endpoint p).KeepsStreams p label (.openFailure c)
        read written) := by
  have hOk := hInv.ok p
  rcases hWaiting.slot_eq with ⟨ch, hSlot, hType, hFlags⟩
  rcases hInv.holds_of_slot hSlot with ⟨hHolds, rfl⟩
  rw [handleMessage_failure hHolds.1 hType connection,
    FallibleRun.ensures_ok]
  have hNothing : OnSlot c [] := by
    intro effect hMem
    cases hMem
  apply Endpoint.KeepsStreams.put hNothing rfl
  apply hStreams.fail_heard hOk hHolds hType _ rfl rfl
  exact congrFun hWaiting.count_eq .opened

/- A request is refused, or a channel is opened for it. -/
theorem NetworkInv.streams_portOpen
    {c : Nat}
    {body : Buffer}
    (hBlank : (net.half p label).Blank)
    (connection : Option Int) :
    FallibleRun.Ensures Halt.Unfair
      (handleMessage (conf p) (.portOpen c body) connection
        (net.endpoint p).table)
      ((net.endpoint p).KeepsStreams p label
        (.portOpen c body) read written) := by
  have hOk := hInv.ok p
  have hHeard :
      ((net.endpoint p).heard label
        (.portOpen c body)).AllStreams read written :=
    hStreams.heard rfl rfl
  refine (channelInputPortOpen_fair hOk.table c body
    connection).mono ?_
  intro table hAnswer
  cases hAnswer with
  | refused =>
      refine ⟨?_, ?_⟩
      · intro l
        have hFollow :
            (((net.endpoint p).heard label
              (.portOpen c body)).follow p (some label)
                (sendOpenFailure c
                  (net.endpoint p).table)).1.history =
              ((net.endpoint p).heard label
                (.portOpen c body)).history ++
                [.sent (some label) (.openFailure c)] := by
          simp [Endpoint.follow, sendOpenFailure,
            Endpoint.note, Endpoint.heard]
        apply (hHeard l).of_same
        · simp [Endpoint.follow, sendOpenFailure,
            Endpoint.note, Endpoint.heard]
          rfl
        · rw [hFollow]
          simp [tally, HistoryEntry.counts,
            ChannelMessage.isConfirmation]
        · rw [hFollow]
          simp [sentData, HistoryEntry.sentOn, dataIn]
        · rw [hFollow]
          simp [receivedData, HistoryEntry.receivedOn]
      · intro l
        simp [Endpoint.writes, sendOpenFailure,
          Endpoint.writesOf, wroteNow]
  | @confirmed i sock mid ch hAllocates hFresh hRemote hPlain =>
      have hSlot := onSlot_sent i (.openConfirmation c i)
      have hFollow :=
        @Endpoint.follow_enter p (some label) i _ .opened sock
          mid ((net.endpoint p).heard label (.portOpen c body))
          (some label) (net.endpoint p).asked hAllocates
          (fun state hSame => by
            have hAsked :
                state.1.asked = (net.endpoint p).asked := hSame
            simp [Endpoint.note, ← hAsked])
          hSlot ch
      refine ⟨?_, fun l =>
        Endpoint.writes_enter hAllocates hSlot rfl ch⟩
      rw [hFollow]
      intro l
      apply (hHeard l).enter_slot (hOk.received _ _) hAllocates
        hFresh _ _ rfl
      · intro l' hl'
        cases hl'
        exact hBlank.slot_eq
      · intro hl
        cases hl
        refine ⟨.inr hFresh.type_eq, ?_⟩
        have hCount := congrFun hBlank.count_eq .opened
        simp only [Network.half] at hCount
        simpa [Endpoint.heard, tally, HistoryEntry.counts,
          ChannelMessage.isConfirmation] using hCount

/- The streams follow every delivery. -/
theorem NetworkInv.streams_deliver
    (hLink : net.link p = envelope :: rest)
    (hLabel : envelope.label = some label)
    (connection : Option Int) :
    FallibleRun.Ensures Halt.Unfair
      (handleMessage (conf p) envelope.message connection
        (net.endpoint p).table)
      ((net.endpoint p).KeepsStreams p label envelope.message
        read written) := by
  have hPhase := hInv.phases label
  unfold Network.InPhase at hPhase
  rcases Network.initiator_eq_or p label with hRole | hRole
  · rw [hRole, Network.take_through_self hLink hLabel] at hPhase
    rcases hPhase.first_toX with
      ⟨c, hMessage, hWaiting, -⟩ |
      ⟨c, d, hMessage, hWaiting, -⟩ |
      ⟨c, d, said, heard, heard', item, hOpen, hCarries, hSay,
        -⟩
    · rw [hMessage]
      exact hInv.streams_failure hStreams hWaiting connection
    · rw [hMessage]
      exact hInv.streams_confirmation hStreams hWaiting
        connection
    · exact hInv.streams_open hStreams hOpen hCarries hSay
        connection
  · rw [hRole, Party.other_other,
      Network.take_through_self hLink hLabel] at hPhase
    rcases hPhase.first_toY with
      ⟨c, body, hMessage, hWaiting, hBlank, -, -⟩ |
      ⟨d, c, said, heard, heard', item, hOpen, hCarries, hSay,
        -⟩
    · rw [hMessage]
      exact hInv.streams_portOpen hStreams hBlank connection
    · exact hInv.streams_open hStreams hOpen hCarries hSay
        connection

end Deliver

end Ssh1
