import Ssh1.Channels.Steps

/-
  The functions of the channels move the table.

  Each of them takes the table some steps further, or ends in
  a way that does not break it.

  Main declarations:
    * `Halt.BreaksTable`
    * `Loops`, `Moves`
    * `run_loops`
    * `prepareSlot_loops`, `createListener_moves`
-/

------------------------------------------------------------
-- Failures of the Table
------------------------------------------------------------

namespace Ssh1

/- The ends that the table must not come to. -/
def Halt.BreaksTable (halt : Halt) : Prop :=
  halt.IsAborted ∨ halt = internalBug

/- The call does not break the table. -/
abbrev Sound
    {α : Type}
    (x : Outcome α)
    (post : α → Prop) : Prop :=
  FallibleRun.Ensures Halt.BreaksTable x post

/- A disconnect breaks off the session, not the table. -/
theorem not_breaksTable_disconnect
    (message : String) :
    ¬ (Halt.disconnect message).BreaksTable := by
  rintro (hAborted | hBug)
  · exact hAborted
  · cases hBug

theorem not_breaksTable_underrun :
    ¬ bufferUnderrun.BreaksTable := by
  rintro (hAborted | hBug)
  · exact hAborted
  · simp [bufferUnderrun, internalBug] at hBug

/- Reading a packet field does not break the table. -/
theorem bufferGetInt_sound
    (buffer : Buffer) :
    Sound (bufferGetInt buffer) fun _ => True := by
  unfold bufferGetInt bufferGet
  split
  · exact not_breaksTable_underrun
  · trivial

/- A string that is too short is the only way to fail. -/
theorem bufferGetString_sound
    (buffer : Buffer) :
    Sound (bufferGetString buffer) fun _ => True := by
  unfold bufferGetString
  refine (bufferGetInt_sound buffer).bind ?_
  rintro ⟨len, rest⟩ -
  simp only
  split
  · rintro (hAborted | hBug)
    · exact hAborted
    · -- The two messages differ in their first letter.
      have hText := congrArg
        (fun halt => match halt with
          | Halt.fatal message => message.toList.head?
          | _ => none) hBug
      simp [internalBug] at hText
  · unfold bufferGet
    split
    · exact not_breaksTable_underrun
    · trivial

end Ssh1

------------------------------------------------------------
-- Moves
------------------------------------------------------------

namespace Ssh1

variable {conf : ChannelConf}
variable {allowed : Nat → Channel → Prop}
variable {table : ChannelTable}
variable {i : Nat}

/-
  A slot is only added to the ones to be read from if it is
  not an open channel whose input is closed.
-/
def ReadsOnly
    (i : Nat)
    (table : ChannelTable)
    (sets sets' : FdSets) : Prop :=
  ∀ j, sets'.readset j = true →
    sets.readset j = true ∨
      j = i ∧
        ((table.channels i).type = .opened →
          (table.channels i).statusFlags.inputSocketClosed =
            false)

theorem ReadsOnly.refl
    {sets : FdSets} :
    ReadsOnly i table sets sets :=
  fun _ hRead => .inl hRead

/- A slot that may be read is set in the mask. -/
theorem ReadsOnly.setRead
    {sets : FdSets}
    (hOpen :
      (table.channels i).type = .opened →
        (table.channels i).statusFlags.inputSocketClosed =
          false) :
    ReadsOnly i table sets (sets.setRead i) := by
  intro j hRead
  by_cases hji : j = i
  · exact .inr ⟨hji, hOpen⟩
  · simp [FdSets.setRead, hji] at hRead
    exact .inl hRead

/- The write mask is another one. -/
theorem ReadsOnly.setWrite
    {j : Nat}
    {sets sets' : FdSets}
    (hReads : ReadsOnly i table sets sets') :
    ReadsOnly i table sets (sets'.setWrite j) :=
  hReads

/-
  The call takes the table some steps of the loop further.
  Nothing that the loop calls fails, so the errors that must
  not occur may be any.
-/
abbrev Loops
    (bad : Halt → Prop)
    (conf : ChannelConf)
    (allowed : Nat → Channel → Prop)
    (table : ChannelTable)
    (x : Outcome ChannelTable) : Prop :=
  FallibleRun.Ensures bad x (LocalSteps conf allowed table)

/- The call takes the table some steps further. -/
abbrev Moves
    (conf : ChannelConf)
    (allowed : Nat → Channel → Prop)
    (table : ChannelTable)
    (x : Outcome ChannelTable) : Prop :=
  Sound x (TableSteps conf allowed table)

variable {bad : Halt → Prop}

theorem Loops.refl :
    Loops bad conf allowed table (.ok table) :=
  Relation.ReflTransGen.refl

/- One local step. -/
theorem Loops.single
    {table' : ChannelTable}
    (hStep : LocalStep conf allowed table table') :
    Loops bad conf allowed table (.ok table') :=
  Relation.ReflTransGen.single hStep

/- What the loop does, the table may do. -/
theorem Loops.moves
    {allowed' : Nat → Channel → Prop}
    {x : Outcome ChannelTable}
    (hLoops : Loops Halt.BreaksTable conf allowed' table x) :
    Moves conf allowed table x :=
  hLoops.mono fun _ hSteps => hSteps.tableSteps

theorem Moves.refl :
    Moves conf allowed table (.ok table) :=
  Relation.ReflTransGen.refl

/- One step of the table. -/
theorem Moves.single
    {table' : ChannelTable}
    (hStep : TableStep conf allowed table table') :
    Moves conf allowed table (.ok table') :=
  Relation.ReflTransGen.single hStep

/- A call after one that does not touch the table. -/
theorem Moves.after
    {α : Type}
    {x : Outcome α}
    {f : α → Outcome ChannelTable}
    {post : α → Prop}
    (hFirst : Sound x post)
    (hRest : ∀ a, post a → Moves conf allowed table (f a)) :
    Moves conf allowed table (x >>= f) :=
  FallibleRun.Ensures.bind hFirst hRest

/- A disconnect leaves no table. -/
theorem Moves.disconnect
    (message : String) :
    Moves conf allowed table (.error (.disconnect message)) :=
  not_breaksTable_disconnect message

/- A loop over the slots makes the steps of its turns. -/
theorem run_loops
    {σ : Type}
    {step : σ → Nat → Outcome σ}
    (tableOf : σ → ChannelTable)
    (hTurn :
      ∀ s i, TableInv conf (tableOf s) →
        i < (tableOf s).channelsAlloc →
        FallibleRun.Ensures bad (step s i) fun s' =>
          LocalSteps conf allowed (tableOf s) (tableOf s'))
    (slots : List Nat)
    {s : σ}
    (hInv : TableInv conf (tableOf s))
    (hSlots : ∀ i ∈ slots, i < (tableOf s).channelsAlloc) :
    FallibleRun.Ensures bad (FallibleRun.run step s slots)
      fun s' =>
        LocalSteps conf allowed (tableOf s) (tableOf s') := by
  induction slots generalizing s with
  | nil => exact Relation.ReflTransGen.refl
  | cons i slots ih =>
      refine FallibleRun.Ensures.bind
        (hTurn s i hInv (hSlots i (by simp))) ?_
      intro mid hSteps
      have hBounds :
          ∀ j ∈ slots, j < (tableOf mid).channelsAlloc := by
        intro j hj
        have hOld := hSlots j (by simp [hj])
        have hGrows := hSteps.grows
        omega
      exact (ih (hSteps.inv hInv) hBounds).mono
        fun _ hMore => hSteps.trans hMore

/- A slot without all of the flags is not freed. -/
theorem closeSlot_of_goesOn
    {ch : Channel}
    {es : List ChannelEffect}
    (hGoesOn : ch.statusFlags.terminate = false) :
    closeSlot i ch es table = setSlot i ch es table := by
  rw [closeSlot, if_neg (by simp [hGoesOn])]

/- A slot that goes on is changed by the action alone. -/
theorem Loops.act
    {es : List ChannelEffect}
    {ch : Channel}
    (hBound : i < table.channelsAlloc)
    (hUse : (table.channels i).InUse)
    (hAction :
      LocalAction conf (allowed i) i (table.channels i) es
        ch)
    (hGoesOn : ch.statusFlags.terminate = false) :
    Loops bad conf allowed table
      (.ok (setSlot i ch es table)) := by
  rw [← closeSlot_of_goesOn hGoesOn]
  exact Loops.single (.act i hBound hUse hAction)

/- What a peer's message does to one slot. -/
theorem Moves.react
    {es : List ChannelEffect}
    {ch : Channel}
    (hBound : i < table.channelsAlloc)
    (hUse : (table.channels i).InUse)
    (hAction :
      PeerAction (allowed i) i (table.channels i) es ch)
    (hGoesOn : ch.statusFlags.terminate = false) :
    Moves conf allowed table (.ok (setSlot i ch es table)) := by
  rw [← closeSlot_of_goesOn hGoesOn]
  exact Moves.single (.react i hBound hUse hAction)

end Ssh1

------------------------------------------------------------
-- The Select Loop
------------------------------------------------------------

namespace Ssh1

variable {conf : ChannelConf}
variable {bad : Halt → Prop}
variable {allowed : Nat → Channel → Prop}
variable {table : ChannelTable}
variable {i : Nat}

section Opened

variable (hInv : TableInv conf table)
variable (hBound : i < table.channelsAlloc)
variable (hType : (table.channels i).type = .opened)

include hInv hBound hType

/- Closing the input side is a local step. -/
theorem channelCloseInput_loops
    (hAllowed : allowed i (table.channels i)) :
    Loops bad conf allowed table (channelCloseInput i table) := by
  have hUse : (table.channels i).InUse := by
    simp [Channel.InUse, hType]
  cases hNew :
      (table.channels i).statusFlags.inputSocketClosed with
  | true =>
      rw [channelCloseInput_closed hNew]
      exact Loops.refl
  | false =>
      have hUnsent :
          (table.channels i).statusFlags.eofSent = false := by
        have hWell := hInv.wellFormed i hBound hUse
        cases hSent :
            (table.channels i).statusFlags.eofSent with
        | false => rfl
        | true =>
            rw [hWell.of_eofSent hSent] at hNew
            cases hNew
      have hClose :=
        @channelCloseInput_opened i [] table _ hType hNew
      rw [setSlot_self] at hClose
      rw [hClose]
      exact Loops.act hBound hUse
        (.closeInput hType hAllowed hNew)
        (by simp [StatusFlags.terminate, hUnsent])

/- Closing the output side is a local step. -/
theorem channelCloseOutput_loops :
    Loops bad conf allowed table (channelCloseOutput i table) := by
  have hUse : (table.channels i).InUse := by
    simp [Channel.InUse, hType]
  have hWell := hInv.wellFormed i hBound hUse
  cases hNew :
      (table.channels i).statusFlags.outputSocketClosed with
  | true =>
      rw [channelCloseOutput_closed hNew]
      exact Loops.refl
  | false =>
      have hUnsent := hWell.closeSent_eq
      rw [hNew] at hUnsent
      have hClose :=
        @channelCloseOutput_setSlot i [] table _ hBound hUse
          hWell.localId_eq hNew hUnsent
      rw [setSlot_self] at hClose
      rw [hClose]
      exact Loops.single
        (.act i hBound hUse (.closeOutput hType hNew))

/-
  Before a select, an open channel is only made readable while
  its input is not closed.
-/
theorem prepareOpened_loops
    (allowed : Nat → Channel → Prop)
    (sets : FdSets) :
    FallibleRun.Ensures bad
      (prepareOpened conf i table sets) fun result =>
        LocalSteps conf allowed table result.1 ∧
          ReadsOnly i table sets result.2 := by
  have hReads :
      ReadsOnly i table sets
        (if (table.channels i).input.length <
              conf.maxPacketSize / 2 ∧
            ¬ (table.channels i).statusFlags.inputSocketClosed
              then
          sets.setRead i
        else
          sets) := by
    split
    · next hOpen =>
        exact ReadsOnly.setRead fun _ => by simpa using hOpen.2
    · exact ReadsOnly.refl
  unfold prepareOpened
  simp only
  generalize
    (if (table.channels i).input.length <
          conf.maxPacketSize / 2 ∧
        ¬ (table.channels i).statusFlags.inputSocketClosed then
      sets.setRead i
    else
      sets) = sets' at hReads ⊢
  split
  · split
    · exact ⟨.refl, hReads.setWrite⟩
    · split
      · have hClose :
            Loops bad conf allowed table
              (channelCloseOutput i table) :=
          channelCloseOutput_loops hInv hBound hType
        refine FallibleRun.Ensures.bind hClose ?_
        intro table' hSteps
        exact ⟨hSteps, hReads⟩
      · exact ⟨.refl, hReads⟩
  · exact ⟨.refl, hReads⟩

end Opened

/- A rejected connection is closed in both directions. -/
theorem rejectX11_eq_ok
    (hBound : i < table.channelsAlloc)
    (hLocal : (table.channels i).localId = i)
    (hOpen :
      (table.channels i).statusFlags.outputSocketClosed =
        false)
    (hUnsent :
      (table.channels i).statusFlags.closeSent = false) :
    rejectX11 i table =
      .ok (closeSlot i
        { table.channels i with
          type := .opened
          input := []
          output := []
          statusFlags :=
            { (table.channels i).statusFlags with
              inputSocketClosed := true
              outputSocketClosed := true
              closeSent := true } }
        [.sent (some i)
          (.outputClosed (table.channels i).remoteId)]
        table) := by
  have hStart :
      (table.modify i fun ch =>
          { ch with type := .opened, input := [], output := [] }) =
        setSlot i
          { table.channels i with
            type := .opened, input := [], output := [] }
          [] table := by
    simp [ChannelTable.modify, setSlot]
  unfold rejectX11
  simp only [hStart]
  cases hInput :
      (table.channels i).statusFlags.inputSocketClosed with
  | false =>
      rw [channelCloseInput_opened _ rfl (by exact hInput),
        FallibleRun.ok_bind,
        channelCloseOutput_setSlot _ hBound
          (by simp [Channel.InUse]) (by exact hLocal)
          (by exact hOpen) (by exact hUnsent)]
      rfl
  | true =>
      rw [channelCloseInput_closed (by simpa using hInput),
        FallibleRun.ok_bind,
        channelCloseOutput_setSlot _ hBound
          (by simp [Channel.InUse]) (by exact hLocal)
          (by exact hOpen) (by exact hUnsent)]
      simp [hInput]

/- A first packet is checked, and the channel is opened. -/
theorem prepareX11Open_loops
    (hInv : TableInv conf table)
    (hBound : i < table.channelsAlloc)
    (hType : (table.channels i).type = .x11Open)
    (sets : FdSets) :
    FallibleRun.Ensures bad
      (prepareX11Open conf i table sets) fun result =>
        LocalSteps conf allowed table result.1 ∧
          ReadsOnly i table sets result.2 := by
  have hUse : (table.channels i).InUse := by
    simp [Channel.InUse, hType]
  have hWell := hInv.wellFormed i hBound hUse
  have hOutput :
      ∀ verdict auth,
        x11CheckPacket auth (table.channels i).output =
          .ok verdict →
        verdict ≠ .incomplete →
        (table.channels i).statusFlags.outputSocketClosed =
          false := by
    intro verdict auth hCheck hDone
    cases hClosed :
        (table.channels i).statusFlags.outputSocketClosed with
    | false => rfl
    | true =>
        rw [hWell.of_outputClosed hClosed,
          x11CheckPacket_nil] at hCheck
        cases hCheck
        exact absurd rfl hDone
  unfold prepareX11Open
  cases hSaved : conf.x11Saved with
  | none => exact absurd hSaved (hWell.of_x11Open hType).2
  | some auth =>
      simp only
      rcases x11CheckPacket_total auth
          (table.channels i).output with
        ⟨verdict, hCheck⟩
      rw [hCheck, FallibleRun.ok_bind]
      cases verdict with
      | incomplete => exact ⟨.refl, .refl⟩
      | rejected =>
          have hOpen := hOutput _ _ hCheck (by simp)
          have hUnsent := hWell.closeSent_eq
          rw [hOpen] at hUnsent
          simp only
          rw [rejectX11_eq_ok hBound hWell.localId_eq hOpen
            hUnsent, FallibleRun.ok_bind]
          exact ⟨.single (.act i hBound hUse
            (.rejectX11 auth hType hSaved hCheck hOpen)), .refl⟩
      | accepted output =>
          have hOpen := hOutput _ _ hCheck (by simp)
          have hModify :
              (table.modify i fun ch =>
                  { ch with type := .opened, output }) =
                setSlot i
                  { table.channels i with
                    type := .opened, output }
                  [] table := by
            simp [ChannelTable.modify, setSlot]
          have hGoesOn := hInv.goesOn i hBound hUse
          have hAct : Loops bad conf allowed table _ :=
            Loops.act hBound hUse
              (.acceptX11 auth output hType hSaved hCheck hOpen)
              hGoesOn
          simp only [hModify]
          refine (prepareOpened_loops (hAct.inv hInv) hBound
            (by simp) allowed sets).mono ?_
          rintro ⟨table', sets'⟩ ⟨hSteps, hReads⟩
          refine ⟨hAct.trans hSteps, ?_⟩
          intro j hRead
          rcases hReads j hRead with hOld | ⟨hji, -⟩
          · exact .inl hOld
          · exact .inr ⟨hji, by simp [hType]⟩

/- One turn of the loop before a select. -/
theorem prepareSlot_loops
    (hInv : TableInv conf table)
    (hBound : i < table.channelsAlloc)
    (sets : FdSets) :
    FallibleRun.Ensures bad
      (prepareSlot conf (table, sets) i) fun result =>
        LocalSteps conf allowed table result.1 ∧
          ReadsOnly i table sets result.2 := by
  unfold prepareSlot
  simp only
  split
  · next hType => exact ⟨.refl, .setRead (by simp [hType])⟩
  · next hType => exact ⟨.refl, .setRead (by simp [hType])⟩
  · next hType => exact ⟨.refl, .setRead (by simp [hType])⟩
  · next hType =>
      exact prepareOpened_loops hInv hBound hType _ sets
  · next hType =>
      exact prepareX11Open_loops hInv hBound hType sets
  · exact ⟨.refl, .refl⟩
  · exact ⟨.refl, .refl⟩

end Ssh1

------------------------------------------------------------
-- New Channels
------------------------------------------------------------

namespace Ssh1

variable {conf : ChannelConf}
variable {allowed : Nat → Channel → Prop}
variable {table : ChannelTable}
variable {type : ChannelType}

/- A new channel has said and heard nothing yet. -/
theorem Channel.IsNew.isFresh
    {ch : Channel}
    {sock : Int}
    {i : Nat}
    (hNew : ch.IsNew type sock i) :
    ch.IsFresh type i :=
  ⟨hNew.type_eq, hNew.localId_eq, hNew.statusFlags_eq,
    hNew.input_eq, hNew.output_eq⟩

/- A call that allocates a channel and then asks for it. -/
theorem channelAllocate_loops
    {bad : Halt → Prop}
    (sock : Int)
    {listener : Nat}
    (hInv : TableInv conf table)
    (hBound : listener < table.channelsAlloc)
    {f : Nat × ChannelTable → Outcome ChannelTable}
    (hRest :
      ∀ i mid,
        ChannelTable.Allocates .opening sock table i mid →
        ∃ ch message,
          f (i, mid) =
              .ok (setSlot i ch [.sent (some i) message] mid) ∧
            ch.IsFresh .opening i ∧
            message.Requests i
              (table.channels listener).type) :
    Loops bad conf allowed table
      (channelAllocate .opening sock table >>= f) := by
  have hFree : ChannelType.opening ≠ .free := by simp
  rcases channelAllocate_eq_ok sock hFree hInv.counted with
    ⟨i, mid, hOk, hAllocates⟩
  rcases hRest i mid hAllocates with
    ⟨ch, message, hEq, hFresh, hRequest⟩
  rw [hOk, FallibleRun.ok_bind, hEq]
  exact Loops.single
    (.request i listener hBound hRequest hAllocates hFresh)

/- A call that allocates a channel and then fills it in. -/
theorem channelAllocate_moves
    (sock : Int)
    (hType : type ≠ .free)
    (hInv : TableInv conf table)
    {f : Nat × ChannelTable → Outcome ChannelTable}
    (hRest :
      ∀ i mid, ChannelTable.Allocates type sock table i mid →
        ∃ ch es,
          f (i, mid) = .ok (setSlot i ch es mid) ∧
            ch.IsFresh type i ∧ Opening conf i ch es) :
    Moves conf allowed table
      (channelAllocate type sock table >>= f) := by
  rcases channelAllocate_eq_ok sock hType hInv.counted with
    ⟨i, mid, hOk, hAllocates⟩
  rcases hRest i mid hAllocates with
    ⟨ch, es, hEq, hFresh, hOpening⟩
  rw [hOk, FallibleRun.ok_bind, hEq]
  exact Moves.single (.allocate i hAllocates hFresh hOpening)

/- What is done to a slot is another channel in it. -/
theorem modify_eq_setSlot
    {i : Nat}
    {f : Channel → Channel} :
    table.modify i f =
      setSlot i (f (table.channels i)) [] table := by
  simp [ChannelTable.modify, setSlot]

/- Sending changes the effects only. -/
theorem channelSend_eq_setSlot
    {i : Nat}
    {message : ChannelMessage} :
    channelSend i message table =
      setSlot i (table.channels i)
        [.sent (some i) message] table := by
  simp [channelSend, setSlot, ChannelTable.record]

/- An effect that follows a change of the slot. -/
theorem record_setSlot
    {i : Nat}
    {ch : Channel}
    {es : List ChannelEffect}
    {effect : ChannelEffect} :
    (setSlot i ch es table).record effect =
      setSlot i ch (es ++ [effect]) table := by
  simp [setSlot, ChannelTable.record]

section Accept

variable {bad : Halt → Prop}
variable {i : Nat}
variable (hInv : TableInv conf table)
variable (hBound : i < table.channelsAlloc)

include hInv hBound

/- An X11 listener accepts a connection. -/
theorem acceptX11_loops
    (newsock : Int)
    (originator : List UInt8)
    (hType : (table.channels i).type = .x11Listener) :
    Loops bad conf allowed table
      (acceptX11 conf newsock originator table) := by
  apply channelAllocate_loops newsock hInv hBound
  intro newch mid hAllocates
  have hFresh := hAllocates.new.isFresh
  refine ⟨_, _, rfl, ⟨hFresh.1, hFresh.2, hFresh.3, hFresh.4,
    hFresh.5⟩, ?_⟩
  rw [hType]
  exact .x11 _

/- A port listener accepts a connection. -/
theorem acceptPort_loops
    (newsock : Int)
    (originator : List UInt8)
    (hType : (table.channels i).type = .portListener) :
    Loops bad conf allowed table
      (acceptPort conf i newsock originator table) := by
  apply channelAllocate_loops newsock hInv hBound
  intro newch mid hAllocates
  refine ⟨_, _, congrArg Except.ok channelSend_eq_setSlot,
    hAllocates.new.isFresh, ?_⟩
  rw [hType]
  exact .port _

/- An agent listener accepts a connection. -/
theorem acceptAuth_loops
    (newsock : Int)
    (hType : (table.channels i).type = .authListener) :
    Loops bad conf allowed table (acceptAuth newsock table) := by
  apply channelAllocate_loops newsock hInv hBound
  intro newch mid hAllocates
  refine ⟨_, _, congrArg Except.ok channelSend_eq_setSlot,
    hAllocates.new.isFresh, ?_⟩
  rw [hType]
  exact .agent

end Accept

variable (hInv : TableInv conf table)

include hInv

/- A channel that the peer asked for is entered. -/
theorem confirmOpen_moves
    {isX : Bool}
    (sock remoteChannel : Int)
    (hType :
      type = .opened ∨
        type = .x11Open ∧ isX = true ∧ conf.x11Saved ≠ none) :
    Moves conf allowed table
      (confirmOpen type sock isX remoteChannel table) := by
  have hFree : type ≠ .free := by
    rcases hType with hOpened | ⟨hX11, -⟩ <;> simp [*]
  apply channelAllocate_moves sock hFree hInv
  intro newch mid hAllocates
  have hFresh := hAllocates.new.isFresh
  refine ⟨_, _, rfl, ⟨hFresh.1, hFresh.2, hFresh.3, hFresh.4,
    hFresh.5⟩, .confirmed ?_⟩
  simp only [hFresh.type_eq]
  exact hType

theorem channelRequestLocalForwarding_moves
    (port : Int)
    (host : List UInt8)
    (hostPort : Int)
    (socket : Except String Int) :
    Moves conf allowed table
      (channelRequestLocalForwarding port host hostPort socket
        table) := by
  unfold channelRequestLocalForwarding
  split
  · exact Moves.disconnect _
  · split
    · exact Moves.disconnect _
    · apply channelAllocate_moves _ (by simp) hInv
      intro newch mid hAllocates
      have hFresh := hAllocates.new.isFresh
      exact ⟨_, _, congrArg Except.ok modify_eq_setSlot,
        ⟨hFresh.1, hFresh.2, hFresh.3, hFresh.4, hFresh.5⟩,
        .listener (.inr (.inl hFresh.type_eq))⟩

/- A listener for X11 or for the agent is entered. -/
theorem createListener_moves
    (sock : Int)
    (path : List UInt8)
    (hType : type = .x11Listener ∨ type = .authListener) :
    Moves conf allowed table
      (createListener type sock path table) := by
  have hFree : type ≠ .free := by
    rcases hType with hX11 | hAuth <;> simp [*]
  apply channelAllocate_moves sock hFree hInv
  intro newch mid hAllocates
  have hFresh := hAllocates.new.isFresh
  refine ⟨_, _, congrArg Except.ok modify_eq_setSlot,
    ⟨hFresh.1, hFresh.2, hFresh.3, hFresh.4, hFresh.5⟩,
    .listener ?_⟩
  rcases hType with hX11 | hAuth
  · exact .inl (hFresh.type_eq.trans hX11)
  · exact .inr (.inr (hFresh.type_eq.trans hAuth))

end Ssh1
