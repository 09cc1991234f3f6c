import Ssh1.Channels.Journals

/-
  The data of a channel and the select loop.

  What a party reads from the socket of a channel goes into
  its buffer and from there to its peer, and what goes to the
  socket comes from the other buffer.

  Main declarations:
    * `LocalAction.moves`
    * `NetworkInv.streams_localSteps`
    * `ReadsFirst`
    * `NetworkInv.streams_run`
-/

------------------------------------------------------------
-- Slots and Their Data
------------------------------------------------------------

namespace Ssh1

variable {e : Endpoint}
variable {label l : Label}
variable {read written : List UInt8}
variable {free : Bool}
variable {i : Nat}
variable {ch : Channel}
variable {es : List ChannelEffect}

/- A slot is changed for its channel. -/
theorem Endpoint.Streams.put_self
    {conf : ChannelConf}
    {taken : List UInt8}
    (hStreams : e.Streams label read written)
    (hOk : e.Ok conf)
    (hHolds : e.Holds label i)
    (hType : ch.type = .opening ∨ ch.type = .opened)
    (hOpened : 0 < tally label e.history .opened)
    (hMoves :
      (e.table.channels i).Moves taken
        ((sentMessages es).flatMap dataIn) [] (wroteData es)
        ch) :
    (e.put free i ch es).Streams label (read ++ taken)
      (written ++ wroteData es) := by
  refine hStreams.move ?_ hMoves
    ((slotOf_eq_some_iff hOk.distinct).mpr ⟨hHolds, rfl⟩)
    (put_slotOf_self hHolds hType hOk.distinct) ?_ ?_
  · simp only [put, hHolds.2.2, tally_append]
    omega
  · simp only [put, hHolds.2.2, sentData_append,
      sentData_slotEntries_self]
  · simp only [put, receivedData_append,
      receivedData_slotEntries]

theorem Endpoint.Streams.put_ne
    {conf : ChannelConf}
    (hStreams : e.Streams l read written)
    (hOk : e.Ok conf)
    (hHolds : e.Holds label i)
    (hType : ch.type = .opening ∨ ch.type = .opened)
    (hl : l ≠ label) :
    (e.put free i ch es).Streams l read written := by
  have hNe : some label ≠ some l := by
    simpa using Ne.symm hl
  apply hStreams.of_same
  · exact put_slotOf_ne hHolds hType hOk.distinct hl
  · simp only [put, hHolds.2.2, tally_append,
      tally_slotEntries_ne hNe]
    rfl
  · simp only [put, hHolds.2.2, sentData_append,
      sentData_slotEntries_ne hNe, List.append_nil]
  · simp only [put, receivedData_append,
      receivedData_slotEntries, List.append_nil]

/- A slot is allocated for a channel, a listener or none. -/
theorem Endpoint.Streams.enter_slot
    {conf : ChannelConf}
    {type : ChannelType}
    {sock : Int}
    {mid : ChannelTable}
    {entered : Option Label}
    {asked : Nat}
    (hStreams : e.Streams l read written)
    (hOk : e.Ok conf)
    (hAllocates :
      ChannelTable.Allocates type sock e.table i mid)
    (hFresh : ch.IsFresh type i)
    (hNew : ∀ l, entered = some l → e.slotOf l = none)
    (hType :
      entered = some l →
        (ch.type = .opening ∨ ch.type = .opened) ∧
          tally l e.history .opened = 0)
    (hSilent : (sentMessages es).flatMap dataIn = []) :
    (e.enter entered asked i es (setSlot i ch es mid)).Streams
      l read written := by
  by_cases hl : entered = some l
  · rcases hType hl with ⟨hKind, hNone⟩
    rcases hStreams.unopened hNone with ⟨-, hSent, hReceived, -⟩
    apply hStreams.enter hNone hFresh
      (enter_slotOf_self hAllocates hNew hOk.distinct hl hKind)
    · subst hl
      simp only [Endpoint.enter, sentData_append,
        sentData_slotEntries_self, hSent, hSilent,
        List.append_nil]
    · simp only [Endpoint.enter, receivedData_append,
        receivedData_slotEntries, hReceived, List.append_nil]
  · apply hStreams.of_same
    · exact enter_slotOf_ne hAllocates hNew hOk.distinct hl
    · simp only [Endpoint.enter, tally_append,
        tally_slotEntries_ne hl]
      rfl
    · simp only [Endpoint.enter, sentData_append,
        sentData_slotEntries_ne hl, List.append_nil]
    · simp only [Endpoint.enter, receivedData_append,
        receivedData_slotEntries, List.append_nil]

end Ssh1

------------------------------------------------------------
-- Steps That Read Nothing
------------------------------------------------------------

namespace Ssh1

open HalfClose

variable {conf : Party → ChannelConf}
variable {net : Network}
variable {label : Label}
variable {p : Party}
variable {i : Nat}

/- A slot of an open channel has been opened. -/
theorem Phase.opened
    {x y : Half}
    {toX toY : List ChannelMessage}
    {ch : Channel}
    (hPhase : Phase x y toX toY)
    (hType : ch.type = .opened) :
    (x.slot = some (i, ch) → 0 < x.count .opened) ∧
      (y.slot = some (i, ch) → 0 < y.count .opened) := by
  have hWaiting :
      ∀ {h : Half} {c}, h.Waiting c →
        h.slot = some (i, ch) → 0 < h.count .opened := by
    intro h c hWaiting hSlot
    have hWaits := (hWaiting.type_eq hSlot).2.1
    simp [hType] at hWaits
  have hOpen :
      ∀ {h : Half} {c d said heard},
        h.Open c d said heard →
          h.slot = some (i, ch) → 0 < h.count .opened := by
    intro h c d said heard hOpen _
    rw [hOpen.count_eq]
    exact Nat.one_pos
  have hBlank :
      ∀ {h : Half}, h.Blank →
        h.slot = some (i, ch) → 0 < h.count .opened :=
    fun hBlank hSlot => absurd hSlot hBlank.slot_ne
  cases hPhase with
  | unused hx hy => exact ⟨hBlank hx, hBlank hy⟩
  | requested c body hx hy => exact ⟨hWaiting hx, hBlank hy⟩
  | refused c hx hy => exact ⟨hWaiting hx, hBlank hy⟩
  | confirmed c d said heard hx hy hToX hToY =>
      exact ⟨hWaiting hx, hOpen hy⟩
  | joined c d saidX heardX saidY heardY hx hy hToX hToY =>
      exact ⟨hOpen hx, hOpen hy⟩

theorem NetworkInv.opened
    (hInv : NetworkInv conf net)
    (hHolds : (net.endpoint p).Holds label i)
    (hType :
      ((net.endpoint p).table.channels i).type = .opened) :
    0 < tally label (net.endpoint p).history .opened := by
  have hSlot := Network.half_slot (hInv.ok p) hHolds
  have hBoth := @Phase.opened i _ _ _ _ _ (hInv.phases label) hType
  rcases Network.initiator_eq_or p label with hRole | hRole
  · rw [hRole] at hBoth
    exact hBoth.1 hSlot
  · rw [hRole, Party.other_other] at hBoth
    exact hBoth.2 hSlot

/- The data that an action on an open channel moves. -/
theorem LocalAction.moves
    {conf : ChannelConf}
    {ch ch' : Channel}
    {es : List ChannelEffect}
    (hAction : LocalAction conf (fun _ => False) i ch es ch')
    (hType : ch.type = .opened) :
    ch.Moves [] ((sentMessages es).flatMap dataIn) []
      (wroteData es) ch' := by
  cases hAction with
  | read data hOpened hRead => exact hRead.elim
  | closeInput hOpened hRead hNew => exact hRead.elim
  | write len hOpened hLen =>
      refine ⟨.stay, ?_⟩
      simp only [wroteData, List.flatMap_cons,
        List.flatMap_nil, List.append_nil]
      exact @Pipe.Step.pop _ ch.outPipe len
  | closeOutput hOpened hNew => exact ⟨.stay, .drop⟩
  | sendData len hOpened hData hLen =>
      refine ⟨?_, .stay⟩
      have hLength :
          (ch.input.take len).length ≤ maxStringLength := by
        simp only [List.length_take, maxStringLength]
        omega
      simp only [sentMessages, List.filterMap_cons,
        List.filterMap_nil, List.flatMap_cons,
        List.flatMap_nil, List.append_nil,
        dataIn_data hLength]
      exact @Pipe.Step.pop _ ch.inPipe len
  | sendIeof hOpened hDrained hClosed hNew =>
      exact .still rfl rfl
  | acceptX11 auth output hX11 hSaved hCheck hOpen =>
      rw [hType] at hX11
      cases hX11
  | rejectX11 auth hX11 hSaved hCheck hOpen =>
      rw [hType] at hX11
      cases hX11

@[simp] theorem Network.advance_endpoint_self
    {incoming : Option Label}
    {table : ChannelTable} :
    (net.advance p incoming table).endpoint p =
      ((net.endpoint p).follow p incoming table).1 := by
  simp [Network.advance]

/- The streams of a party, for every channel. -/
def Endpoint.AllStreams
    (e : Endpoint)
    (read written : Label → List UInt8) : Prop :=
  ∀ label, e.Streams label (read label) (written label)

variable {read written : Label → List UInt8}

/- A change of the slot of an open channel. -/
theorem NetworkInv.streams_close
    {ch : Channel}
    {taken : List UInt8}
    {es : List ChannelEffect}
    (hInv : NetworkInv conf net)
    (hStreams : (net.endpoint p).AllStreams read written)
    (hHolds : (net.endpoint p).Holds label i)
    (hType :
      ((net.endpoint p).table.channels i).type = .opened)
    (hSlot : OnSlot i es)
    (hOpened : ch.type = .opened)
    (hMoves :
      ((net.endpoint p).table.channels i).Moves taken
        ((sentMessages es).flatMap dataIn) [] (wroteData es)
        ch) :
    ((net.endpoint p).follow p none
        (closeSlot i ch es (net.endpoint p).table)).1.AllStreams
      (fun l =>
        read l ++
          if (net.endpoint p).labels i = some l then
            taken
          else
            [])
      fun l =>
        written l ++
          (net.endpoint p).writes p none l
            (closeSlot i ch es (net.endpoint p).table) := by
  intro l
  have hOk := hInv.ok p
  have hKind : ch.type = .opening ∨ ch.type = .opened :=
    .inr hOpened
  simp only [closeSlot_eq_putSlot, Endpoint.follow_put hSlot,
    Endpoint.writes_put hSlot, hHolds.2.2]
  by_cases hl : l = label
  · subst hl
    rw [if_pos rfl, if_pos rfl]
    exact (hStreams l).put_self hOk hHolds hKind
      (hInv.opened hHolds hType) hMoves
  · have hNe : some label ≠ some l := by
      simpa using Ne.symm hl
    rw [if_neg hNe, if_neg hNe, List.append_nil,
      List.append_nil]
    exact (hStreams l).put_ne hOk hHolds hKind hl

/- One step of the loop that reads nothing. -/
theorem NetworkInv.streams_localStep
    {table : ChannelTable}
    (hInv : NetworkInv conf net)
    (hStreams : (net.endpoint p).AllStreams read written)
    (hStep :
      LocalStep (conf p) (fun _ _ => False)
        (net.endpoint p).table table) :
    ((net.endpoint p).follow p none table).1.AllStreams read
      fun l =>
        written l ++
          (net.endpoint p).writes p none l table := by
  have hOk := hInv.ok p
  cases hStep with
  | act i hBound hUse hAction =>
      have hType :=
        hAction.type_eq.resolve_right (hOk.noX11 i hBound)
      rcases hOk.holds_of_opened hBound hUse
          (by simp [hType]) with
        ⟨label, hHolds⟩
      have hClose :=
        hInv.streams_close hStreams hHolds hType
          hAction.onSlot (hAction.opened hType)
          (hAction.moves hType)
      simpa using hClose
  | @request i listener sock mid ch message hBound hRequest
      hAllocates hFresh =>
      intro l
      have hNumber :
          net.Untouched ⟨p, (net.endpoint p).asked⟩ :=
        hInv.unasked _ le_rfl
      have hSlot := onSlot_sent i message
      have hSilent :
          (sentMessages [.sent (some i) message]).flatMap
              dataIn = [] := by
        generalize ((net.endpoint p).table.channels
          listener).type = kind at hRequest
        cases hRequest <;> rfl
      have hFollow :=
        @Endpoint.follow_enter p none i _ .opening sock mid
          (net.endpoint p) (some ⟨p, (net.endpoint p).asked⟩)
          ((net.endpoint p).asked + 1) hAllocates
          (fun state hAsked => by
            simp [Endpoint.note, hAsked])
          hSlot ch
      simp only [hFollow,
        Endpoint.writes_enter hAllocates hSlot rfl,
        List.append_nil]
      apply (hStreams l).enter_slot hOk hAllocates hFresh
        _ _ hSilent
      · intro label hLabel
        cases hLabel
        exact (hNumber p).1.slot_eq
      · intro hLabel
        cases hLabel
        have hCount := (hNumber p).1.count_eq
        refine ⟨.inl hFresh.type_eq, ?_⟩
        exact congrFun hCount .opened

/- Many steps of the loop that read nothing. -/
theorem NetworkInv.streams_localSteps
    {table : ChannelTable}
    (hInv : NetworkInv conf net)
    (hStreams : (net.endpoint p).AllStreams read written)
    (hSteps :
      LocalSteps (conf p) (fun _ _ => False)
        (net.endpoint p).table table) :
    ((net.endpoint p).follow p none table).1.AllStreams read
      fun l =>
        written l ++
          (net.endpoint p).writes p none l table := by
  induction hSteps with
  | refl =>
      have hSelf :
          (net.endpoint p).follow p none
              (net.endpoint p).table =
            (net.endpoint p, []) := by
        simp [Endpoint.follow]
      rw [hSelf]
      simpa only [Endpoint.writes_self, List.append_nil]
        using hStreams
  | @tail mid table hSteps hStep ih =>
      rcases LocalSteps.effects hSteps with ⟨es, hEffects⟩
      rcases hStep.effects with ⟨es', hEffects'⟩
      have hMid : NetworkInv conf (net.advance p none mid) :=
        hInv.localSteps (fun _ _ hFalse => hFalse.elim) hSteps
      have hEndpoint :=
        @Network.advance_endpoint_self net p none mid
      rw [← hEndpoint] at ih
      have hStep' :
          LocalStep (conf p) (fun _ _ => False)
            ((net.advance p none mid).endpoint p).table
            table := by
        rwa [Network.advance_table]
      have hNext := hMid.streams_localStep ih hStep'
      rw [hEndpoint] at hNext
      rw [Endpoint.follow_follow hEffects hEffects']
      intro l
      simp only [Endpoint.writes_follow hEffects hEffects',
        ← List.append_assoc]
      exact hNext l

end Ssh1

------------------------------------------------------------
-- Turns of the Loop After Select
------------------------------------------------------------

namespace Ssh1

section Opened

variable {bad : Halt → Prop}
variable {conf : ChannelConf}
variable {table : ChannelTable}
variable {i : Nat}
variable (hInv : TableInv conf table)
variable (hBound : i < table.channelsAlloc)
variable (hType : (table.channels i).type = .opened)

/-
  A turn reads from the socket of an open channel, or finds
  its end, and does the rest without reading.
-/
structure ReadsFirst
    (conf : ChannelConf)
    (io : SlotIo)
    (i : Nat)
    (table table' : ChannelTable)
    (ch : Channel) : Prop where
  moves :
    (table.channels i).Moves
      (readNow conf io (table.channels i)) [] [] [] ch
  opened : ch.type = .opened
  reading :
    LocalSteps conf openSlots table (closeSlot i ch [] table)
  rest :
    LocalSteps conf (fun _ _ => False)
      (closeSlot i ch [] table) table'

include hInv hBound hType

theorem ReadsFirst.idle
    {io : SlotIo}
    {table' : ChannelTable}
    (hNothing : readNow conf io (table.channels i) = [])
    (hSteps :
      LocalSteps conf (fun _ _ => False) table table') :
    ReadsFirst conf io i table table' (table.channels i) := by
  have hUse : (table.channels i).InUse := by
    simp [Channel.InUse, hType]
  have hSame :
      closeSlot i (table.channels i) [] table = table := by
    rw [closeSlot_of_goesOn (hInv.goesOn i hBound hUse),
      setSlot_self]
  refine ⟨?_, hType, ?_, ?_⟩
  · rw [hNothing]
    exact .still rfl rfl
  · rw [hSame]
  · rw [hSame]
    exact hSteps

/- The end of the input, or an error. -/
theorem channelCloseInput_readsFirst
    {io : SlotIo}
    (hNothing : readNow conf io (table.channels i) = [])
    (hOpen : inputOpen (table.channels i)) :
    FallibleRun.Ensures bad (channelCloseInput i table)
      fun table' => ∃ ch, ReadsFirst conf io i table table' ch := by
  have hUse : (table.channels i).InUse := by
    simp [Channel.InUse, hType]
  have hClose :=
    @channelCloseInput_opened i [] table _ hType hOpen
  have hUnsent :
      (table.channels i).statusFlags.eofSent = false := by
    have hWell := hInv.wellFormed i hBound hUse
    cases hSent : (table.channels i).statusFlags.eofSent with
    | false => rfl
    | true =>
        have hClosed := hWell.of_eofSent hSent
        rw [hOpen] at hClosed
        cases hClosed
  rw [setSlot_self] at hClose
  rw [hClose, FallibleRun.ensures_ok]
  have hAct :
      LocalSteps conf openSlots table _ :=
    .single (.act i hBound hUse
      (.closeInput hType hOpen hOpen))
  refine ⟨{ table.channels i with
      statusFlags :=
        { (table.channels i).statusFlags with
          inputSocketClosed := true } },
    ?_, hType, hAct, ?_⟩
  · rw [hNothing]
    exact .still rfl rfl
  · rw [closeSlot_of_goesOn
      (by simp [StatusFlags.terminate, hUnsent])]

/- What is read goes into the input buffer. -/
theorem afterOpened_readsFirst
    (io : SlotIo)
    (hRead :
      io.readable = true → inputOpen (table.channels i)) :
    FallibleRun.Ensures bad (afterOpened conf io i table)
      fun table' => ∃ ch, ReadsFirst conf io i table table' ch := by
  have hUse : (table.channels i).InUse := by
    simp [Channel.InUse, hType]
  have hGoesOn := hInv.goesOn i hBound hUse
  have hWell := hInv.wellFormed i hBound hUse
  have hWrite :
      Loops bad conf (fun _ _ => False) table
        (writeOpened io i table) :=
    writeOpened_loops hInv hBound hType io
  unfold afterOpened
  split
  · next hReadable =>
      have hOpen := hRead hReadable
      have hStill :
          (table.channels i).statusFlags.closeReceived =
            false := by
        cases hClose :
            (table.channels i).statusFlags.closeReceived with
        | false => rfl
        | true =>
            have hClosed := hWell.of_closeReceived hClose
            rw [hOpen] at hClosed
            cases hClosed
      split
      · next hIo =>
          refine hWrite.mono fun table' hSteps =>
            ⟨table.channels i, ?_⟩
          apply ReadsFirst.idle hInv hBound hType _ hSteps
          simp [readNow, hIo]
      · next hIo =>
          apply channelCloseInput_readsFirst hInv hBound hType
            _ hOpen
          simp [readNow, hIo]
      · next data hIo =>
          have hNow :
              readNow conf io (table.channels i) =
                data.take (readSize conf) := by
            simp [readNow, hType, hReadable, hIo]
          simp only
          split
          · next hEnd =>
              apply channelCloseInput_readsFirst hInv hBound
                hType _ hOpen
              rw [hNow]
              exact List.eq_nil_of_length_eq_zero hEnd
          · rw [modify_eq_setSlot]
            have hAct :
                LocalSteps conf openSlots table _ :=
              .single (.act i hBound hUse
                (.read (data.take (readSize conf)) hType
                  hOpen))
            rw [closeSlot_of_goesOn (by exact hGoesOn)] at hAct
            have hMore :
                Loops bad conf (fun _ _ => False) _
                  (writeOpened io i _) :=
              writeOpened_loops (LocalSteps.inv hAct hInv)
                hBound (by simpa using hType) io
            refine hMore.mono fun table' hSteps =>
              ⟨{ table.channels i with
                input :=
                  bufferAppend (table.channels i).input
                    (data.take (readSize conf)) },
                ⟨?_, .stay⟩, hType, ?_, ?_⟩
            · rw [hNow]
              simp only [Channel.inPipe, hStill]
              exact .push _
            · rw [closeSlot_of_goesOn (by exact hGoesOn)]
              exact hAct
            · rw [closeSlot_of_goesOn (by exact hGoesOn)]
              exact hSteps
  · next hNot =>
      refine hWrite.mono fun table' hSteps =>
        ⟨table.channels i, ?_⟩
      apply ReadsFirst.idle hInv hBound hType _ hSteps
      simp [readNow, hNot]

end Opened

/- A turn about any other slot reads nothing. -/
theorem afterSlot_readsNothing
    {bad : Halt → Prop}
    {conf : ChannelConf}
    {table : ChannelTable}
    {i : Nat}
    (io : Nat → SlotIo)
    (hInv : TableInv conf table)
    (hBound : i < table.channelsAlloc)
    (hType : (table.channels i).type ≠ .opened) :
    Loops bad conf (fun _ _ => False) table
      (afterSlot conf io table i) :=
  afterSlot_loops hInv io hBound
    fun _ hOpened => hType hOpened

end Ssh1

------------------------------------------------------------
-- Streams After Select
------------------------------------------------------------

namespace Ssh1

variable {bad : Halt → Prop}
variable {conf : Party → ChannelConf}
variable {net : Network}
variable {p : Party}
variable {i : Nat}
variable {read written : Label → List UInt8}

/- What one turn reads for a channel. -/
def Endpoint.turnReads
    (conf : ChannelConf)
    (io : SlotIo)
    (i : Nat)
    (e : Endpoint)
    (label : Label) : List UInt8 :=
  if e.labels i = some label then
    readNow conf io (e.table.channels i)
  else
    []

theorem readNow_of_not_opened
    {conf : ChannelConf}
    {ch : Channel}
    (hType : ch.type ≠ .opened)
    (io : SlotIo) :
    readNow conf io ch = [] := by
  simp [readNow, hType]

/- The streams follow a turn of the loop. -/
theorem NetworkInv.streams_turn
    {io : Nat → SlotIo}
    (hInv : NetworkInv conf net)
    (hStreams : (net.endpoint p).AllStreams read written)
    (hBound : i < (net.endpoint p).table.channelsAlloc)
    (hRead :
      (io i).readable = true →
        MayRead (net.endpoint p).table i) :
    FallibleRun.Ensures bad
      (afterSlot (conf p) io (net.endpoint p).table i)
      fun table =>
        LocalSteps (conf p) openSlots (net.endpoint p).table
            table ∧
          ((net.endpoint p).follow p none table).1.AllStreams
            (fun l =>
              read l ++
                (net.endpoint p).turnReads (conf p) (io i) i l)
            fun l =>
              written l ++
                (net.endpoint p).writes p none l table := by
  have hOk := hInv.ok p
  have hTable := hOk.table
  by_cases hType :
      ((net.endpoint p).table.channels i).type = .opened
  · have hUse : ((net.endpoint p).table.channels i).InUse := by
      simp [Channel.InUse, hType]
    rcases hOk.holds_of_opened hBound hUse
        (by simp [hType]) with
      ⟨label, hHolds⟩
    have hTurn :
        FallibleRun.Ensures bad
          (afterSlot (conf p) io (net.endpoint p).table i)
          fun table' => ∃ ch,
            ReadsFirst (conf p) (io i) i
              (net.endpoint p).table table' ch := by
      rw [afterSlot, hType]
      exact afterOpened_readsFirst hTable hBound hType (io i)
        fun hReadable => (hRead hReadable).2 hType
    refine hTurn.mono ?_
    rintro table ⟨ch, hFirst⟩
    rcases LocalSteps.effects hFirst.reading with
      ⟨es, hEffects⟩
    rcases LocalSteps.effects hFirst.rest with
      ⟨es', hEffects'⟩
    have hNothing : OnSlot i [] := by
      intro effect hMem
      cases hMem
    have hClose :=
      hInv.streams_close hStreams hHolds hType hNothing
        hFirst.opened hFirst.moves
    have hMid :=
      hInv.localSteps (fun _ _ hOpen => hOpen) hFirst.reading
    have hEndpoint :=
      @Network.advance_endpoint_self net p none
        (closeSlot i ch [] (net.endpoint p).table)
    rw [← hEndpoint] at hClose
    have hRest :
        LocalSteps (conf p) (fun _ _ => False)
          ((net.advance p none (closeSlot i ch []
            (net.endpoint p).table)).endpoint p).table
          table := by
      rw [Network.advance_table]
      exact hFirst.rest
    have hNext := hMid.streams_localSteps hClose hRest
    rw [hEndpoint] at hNext
    refine ⟨hFirst.reading.trans (LocalSteps.mono hFirst.rest
      fun _ _ hFalse => hFalse.elim), ?_⟩
    rw [Endpoint.follow_follow hEffects hEffects']
    intro l
    simp only [Endpoint.writes_follow hEffects hEffects',
      ← List.append_assoc]
    exact hNext l
  · refine (afterSlot_readsNothing io hTable hBound hType).mono
      ?_
    intro table hSteps
    refine ⟨LocalSteps.mono hSteps
      fun _ _ hFalse => hFalse.elim, ?_⟩
    simp only [Endpoint.turnReads,
      readNow_of_not_opened hType, ite_self, List.append_nil]
    exact hInv.streams_localSteps hStreams hSteps

/- By induction on the turns: the streams follow the loop. -/
theorem NetworkInv.streams_run
    {io : Nat → SlotIo}
    (slots : List Nat)
    (hNodup : slots.Nodup)
    (hInv : NetworkInv conf net)
    (hStreams : (net.endpoint p).AllStreams read written)
    (hSlots :
      ∀ i ∈ slots, i < (net.endpoint p).table.channelsAlloc)
    (hRead :
      ∀ i ∈ slots, (io i).readable = true →
        MayRead (net.endpoint p).table i) :
    FallibleRun.Ensures bad
      (FallibleRun.run (afterSlot (conf p) io)
        (net.endpoint p).table slots)
      fun table =>
        LocalSteps (conf p) openSlots (net.endpoint p).table
            table ∧
          ((net.endpoint p).follow p none table).1.AllStreams
            (fun l =>
              read l ++
                (net.endpoint p).reads (conf p) io p l slots)
            fun l =>
              written l ++
                (net.endpoint p).writes p none l table := by
  induction slots generalizing net read written with
  | nil =>
      have hSelf :
          (net.endpoint p).follow p none
              (net.endpoint p).table =
            (net.endpoint p, []) := by
        simp [Endpoint.follow]
      refine ⟨.refl, ?_⟩
      rw [hSelf]
      simpa only [Endpoint.writes_self, Endpoint.reads,
        List.append_nil] using hStreams
  | cons i slots ih =>
      rw [List.nodup_cons] at hNodup
      have hNone := (hInv.ok p).noX11
      have hBound := hSlots i (by simp)
      have hTurn :=
        @NetworkInv.streams_turn bad _ _ _ _ _ _ io hInv
          hStreams hBound (hRead i (by simp))
      have hLoops :
          Loops bad (conf p) (fun j ch => j = i ∧ inputOpen ch)
            (net.endpoint p).table
            (afterSlot (conf p) io (net.endpoint p).table i) := by
        apply afterSlot_loops (hInv.ok p).table io hBound
        intro hReadable hType
        exact ⟨rfl, (hRead i (by simp) hReadable).2 hType⟩
      rw [FallibleRun.run_cons]
      simp only [Endpoint.reads]
      cases hResult :
          afterSlot (conf p) io (net.endpoint p).table i with
      | error halt =>
          rw [hResult] at hTurn
          exact hTurn
      | ok mid =>
          rw [hResult] at hTurn hLoops
          rcases hTurn with ⟨hSteps, hStreams'⟩
          have hMid :=
            hInv.localSteps (fun _ _ hOpen => hOpen) hSteps
          have hEndpoint :=
            @Network.advance_endpoint_self net p none mid
          have hTable :
              ((net.advance p none mid).endpoint p).table =
                mid :=
            Network.advance_table
          have hGrows := LocalSteps.grows hSteps
          rw [← hEndpoint] at hStreams'
          have hMore := ih hNodup.2 hMid hStreams'
            (by
              intro j hj
              have hOld := hSlots j (by simp [hj])
              rw [hTable]
              omega)
            (by
              intro j hj hReadable
              rw [hTable]
              refine LocalSteps.mayRead hLoops hNone ?_
                (hRead j (by simp [hj]) hReadable)
              rintro ch ⟨rfl, -⟩
              exact hNodup.1 hj)
          rw [hTable] at hMore
          refine hMore.mono ?_
          rintro table ⟨hSteps', hStreams''⟩
          rcases LocalSteps.effects hSteps with ⟨es, hEffects⟩
          rcases LocalSteps.effects hSteps' with
            ⟨es', hEffects'⟩
          refine ⟨hSteps.trans hSteps', ?_⟩
          rw [hEndpoint] at hStreams''
          rw [Endpoint.follow_follow hEffects hEffects']
          intro l
          have hNow := hStreams'' l
          simp only [Endpoint.writes_follow hEffects hEffects',
            ← List.append_assoc] at hNow ⊢
          exact hNow

end Ssh1
