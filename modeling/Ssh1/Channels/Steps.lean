import Ssh1.Channels.Events
import Mathlib.Logic.Relation

/-
  What can happen to the table of channels.

  Every function of the select loop and every handler of a
  message changes the table in steps of a few kinds. The
  statements about runs of the program are derived from what
  one of these steps can do.

  Main declarations:
    * `LocalAction`, `PeerAction`
    * `LocalStep`, `LocalSteps`
    * `TableStep`, `TableSteps`
    * `TableInv`
    * `TableStep.inv`
-/

------------------------------------------------------------
-- Actions on One Slot
------------------------------------------------------------

namespace Ssh1

/-
  What the select loop does to a channel, with its effects.
  Only a channel that is allowed to is read from.
-/
inductive LocalAction
    (conf : ChannelConf)
    (allowed : Channel → Prop)
    (i : Nat)
    (ch : Channel) : List ChannelEffect → Channel → Prop where
  | read
      (data : List UInt8)
      (hType : ch.type = .opened)
      (hAllowed : allowed ch) :
      LocalAction conf allowed i ch []
        { ch with input := bufferAppend ch.input data }
  | closeInput
      (hType : ch.type = .opened)
      (hAllowed : allowed ch)
      (hNew : ch.statusFlags.inputSocketClosed = false) :
      LocalAction conf allowed i ch []
        { ch with
          statusFlags :=
            { ch.statusFlags with inputSocketClosed := true } }
  | write
      (len : Nat)
      (hType : ch.type = .opened)
      (hLen : len ≤ ch.output.length) :
      LocalAction conf allowed i ch
        [.wrote i (ch.output.take len)]
        { ch with output := ch.output.drop len }
  | closeOutput
      (hType : ch.type = .opened)
      (hNew : ch.statusFlags.outputSocketClosed = false) :
      LocalAction conf allowed i ch
        [.sent (some i) (.outputClosed ch.remoteId)]
        { ch with
          output := []
          statusFlags :=
            { ch.statusFlags with
              outputSocketClosed := true
              closeSent := true } }
  | sendData
      (len : Nat)
      (hType : ch.type = .opened)
      (hData : ch.input ≠ [])
      (hLen : len ≤ 8192) :
      LocalAction conf allowed i ch
        [.sent (some i)
          (.data ch.remoteId
            (bufferPutString [] (ch.input.take len)))]
        { ch with input := ch.input.drop len }
  | sendIeof
      (hType : ch.type = .opened)
      (hDrained : ch.input = [])
      (hClosed : ch.statusFlags.inputSocketClosed = true)
      (hNew : ch.statusFlags.eofSent = false) :
      LocalAction conf allowed i ch
        [.sent (some i) (.inputEof ch.remoteId)]
        { ch with
          statusFlags :=
            { ch.statusFlags with eofSent := true } }
  | acceptX11
      (auth : X11Auth)
      (output : Buffer)
      (hType : ch.type = .x11Open)
      (hSaved : conf.x11Saved = some auth)
      (hCheck :
        x11CheckPacket auth ch.output =
          .ok (.accepted output))
      (hOpen : ch.statusFlags.outputSocketClosed = false) :
      LocalAction conf allowed i ch []
        { ch with type := .opened, output := output }
  | rejectX11
      (auth : X11Auth)
      (hType : ch.type = .x11Open)
      (hSaved : conf.x11Saved = some auth)
      (hCheck : x11CheckPacket auth ch.output = .ok .rejected)
      (hOpen : ch.statusFlags.outputSocketClosed = false) :
      LocalAction conf allowed i ch
        [.sent (some i) (.outputClosed ch.remoteId)]
        { ch with
          type := .opened
          input := []
          output := []
          statusFlags :=
            { ch.statusFlags with
              inputSocketClosed := true
              outputSocketClosed := true
              closeSent := true } }

/-
  What the messages of the peer do to a channel. Only a
  channel that is allowed to takes data.
-/
inductive PeerAction
    (allowed : Channel → Prop)
    (i : Nat)
    (ch : Channel) : List ChannelEffect → Channel → Prop where
  | confirm
      (remoteChannel : Int)
      (hType : ch.type = .opening) :
      PeerAction allowed i ch []
        { ch with remoteId := remoteChannel, type := .opened }
  | data
      (data : List UInt8)
      (hAllowed : allowed ch)
      (hType : ch.type = .opened ∨ ch.type = .x11Open)
      (hMore : ch.statusFlags.eofReceived = false)
      (hOpen : ch.statusFlags.outputSocketClosed = false) :
      PeerAction allowed i ch [.received i data]
        { ch with output := bufferAppend ch.output data }
  | passOver
      (data : List UInt8)
      (hAllowed : allowed ch)
      (hType : ch.type = .opened ∨ ch.type = .x11Open)
      (hMore : ch.statusFlags.eofReceived = false)
      (hClosed : ch.statusFlags.outputSocketClosed = true) :
      PeerAction allowed i ch [.received i data] ch
  | ieof
      (hType : ch.type = .opened)
      (hNew : ch.statusFlags.eofReceived = false) :
      PeerAction allowed i ch []
        (kludged
          { ch with
            statusFlags :=
              { ch.statusFlags with eofReceived := true } })
  | ieofUnopened
      (hType : ch.type ≠ .opened)
      (hNew : ch.statusFlags.eofReceived = false)
      (hPeer : ch.statusFlags.closeReceived = false) :
      PeerAction allowed i ch (unopenedIeofSends i ch)
        (unopenedIeof ch)
  | oclosed
      (hInput :
        ch.type = .opened ∨
          ch.statusFlags.inputSocketClosed = true)
      (hNew : ch.statusFlags.closeReceived = false) :
      PeerAction allowed i ch [] (peerClosed ch)
  | oclosedUnopened
      (hType : ch.type ≠ .opened)
      (hNew : ch.statusFlags.closeReceived = false)
      (hPeer : ch.statusFlags.eofReceived = false) :
      PeerAction allowed i ch
        [.sent (some i) (.inputEof ch.remoteId)]
        (unopenedOclosed ch)

end Ssh1

------------------------------------------------------------
-- Steps of the Table
------------------------------------------------------------

namespace Ssh1

/-
  A message that asks for a channel by its own number, for a
  connection to a listener of a type.
-/
inductive ChannelMessage.Requests
    (i : Nat) : ChannelType → ChannelMessage → Prop where
  | x11 (body : Buffer) :
      Requests i .x11Listener (.x11Open i body)
  | port (body : Buffer) :
      Requests i .portListener (.portOpen i body)
  | agent : Requests i .authListener (.agentOpen i)

/- One step of the select loop. -/
inductive LocalStep
    (conf : ChannelConf)
    (allowed : Nat → Channel → Prop)
    (table : ChannelTable) : ChannelTable → Prop where
  | act
      (i : Nat)
      {es : List ChannelEffect}
      {ch : Channel}
      (hBound : i < table.channelsAlloc)
      (hUse : (table.channels i).InUse)
      (hAction :
        LocalAction conf (allowed i) i (table.channels i) es
          ch) :
      LocalStep conf allowed table (closeSlot i ch es table)
  | request
      (i listener : Nat)
      {sock : Int}
      {mid : ChannelTable}
      {ch : Channel}
      {message : ChannelMessage}
      (hBound : listener < table.channelsAlloc)
      (hRequest :
        message.Requests i (table.channels listener).type)
      (hAllocates :
        ChannelTable.Allocates .opening sock table i mid)
      (hFresh : ch.IsFresh .opening i) :
      LocalStep conf allowed table
        (setSlot i ch [.sent (some i) message] mid)

/- A new channel that is not an answer to a connection. -/
inductive Opening
    (conf : ChannelConf)
    (i : Nat)
    (ch : Channel) : List ChannelEffect → Prop where
  | listener
      (hType :
        ch.type = .x11Listener ∨ ch.type = .portListener ∨
          ch.type = .authListener) :
      Opening conf i ch []
  | confirmed
      (hType :
        ch.type = .opened ∨
          ch.type = .x11Open ∧ ch.isXConnection = true ∧
            conf.x11Saved ≠ none) :
      Opening conf i ch
        [.sent (some i) (.openConfirmation ch.remoteId i)]

/-
  One step of the table of channels. The channels that are
  allowed to take data of the peer.
-/
inductive TableStep
    (conf : ChannelConf)
    (allowed : Nat → Channel → Prop)
    (table : ChannelTable) : ChannelTable → Prop where
  | loop
      {allowed' : Nat → Channel → Prop}
      {table' : ChannelTable}
      (hStep : LocalStep conf allowed' table table') :
      TableStep conf allowed table table'
  | react
      (i : Nat)
      {es : List ChannelEffect}
      {ch : Channel}
      (hBound : i < table.channelsAlloc)
      (hUse : (table.channels i).InUse)
      (hAction :
        PeerAction (allowed i) i (table.channels i) es ch) :
      TableStep conf allowed table (closeSlot i ch es table)
  | allocate
      (i : Nat)
      {type : ChannelType}
      {sock : Int}
      {mid : ChannelTable}
      {es : List ChannelEffect}
      {ch : Channel}
      (hAllocates :
        ChannelTable.Allocates type sock table i mid)
      (hFresh : ch.IsFresh type i)
      (hOpening : Opening conf i ch es) :
      TableStep conf allowed table (setSlot i ch es mid)
  | refuse
      (remoteChannel : Int) :
      TableStep conf allowed table
        (sendOpenFailure remoteChannel table)
  | fail
      (i : Nat)
      (hBound : i < table.channelsAlloc)
      (hType : (table.channels i).type = .opening) :
      TableStep conf allowed table (releaseSlot i table)

/- Any number of steps of the select loop. -/
abbrev LocalSteps
    (conf : ChannelConf)
    (allowed : Nat → Channel → Prop) :
    ChannelTable → ChannelTable → Prop :=
  Relation.ReflTransGen (LocalStep conf allowed)

/- Any number of steps. -/
abbrev TableSteps
    (conf : ChannelConf)
    (allowed : Nat → Channel → Prop) :
    ChannelTable → ChannelTable → Prop :=
  Relation.ReflTransGen (TableStep conf allowed)

/- What the program does itself is among the steps. -/
theorem LocalSteps.tableSteps
    {conf : ChannelConf}
    {allowed allowed' : Nat → Channel → Prop}
    {table table' : ChannelTable}
    (hSteps : LocalSteps conf allowed' table table') :
    TableSteps conf allowed table table' := by
  induction hSteps with
  | refl => exact .refl
  | tail _ hStep ih => exact ih.tail (.loop hStep)

end Ssh1

------------------------------------------------------------
-- Invariant
------------------------------------------------------------

namespace Ssh1

/- The flags of a channel in use, and what they go with. -/
structure Channel.WellFormed
    (conf : ChannelConf)
    (i : Nat)
    (ch : Channel) : Prop where
  localId_eq : ch.localId = i
  closeSent_eq :
    ch.statusFlags.closeSent =
      ch.statusFlags.outputSocketClosed
  of_closeReceived :
    ch.statusFlags.closeReceived = true →
      ch.statusFlags.inputSocketClosed = true
  of_eofSent :
    ch.statusFlags.eofSent = true →
      ch.statusFlags.inputSocketClosed = true
  of_outputClosed :
    ch.statusFlags.outputSocketClosed = true →
      ch.output = []
  eofSent_eq :
    ch.type ≠ .opened →
      ch.statusFlags.eofSent =
        ch.statusFlags.inputSocketClosed
  eofReceived_eq :
    ch.type ≠ .opened →
      ch.statusFlags.eofReceived =
        ch.statusFlags.outputSocketClosed
  kludge :
    ch.type ≠ .opened → ch.isXConnection = true →
      ch.statusFlags.eofReceived = true →
      ch.statusFlags.inputSocketClosed = true
  of_x11Open :
    ch.type = .x11Open →
      ch.isXConnection = true ∧ conf.x11Saved ≠ none

/-
  The table counts right, and the channels in it are well
  formed and have not come to their end.
-/
structure TableInv
    (conf : ChannelConf)
    (table : ChannelTable) : Prop where
  counted : table.Counted
  wellFormed :
    ∀ i < table.channelsAlloc,
      (table.channels i).InUse →
      (table.channels i).WellFormed conf i
  goesOn :
    ∀ i < table.channelsAlloc,
      (table.channels i).InUse →
      (table.channels i).statusFlags.terminate = false

variable {conf : ChannelConf}
variable {allowed : Nat → Channel → Prop}
variable {table table' : ChannelTable}
variable {i : Nat}
variable {ch ch' : Channel}
variable {es : List ChannelEffect}

/- The table starts with free slots. -/
theorem TableInv.initial
    (conf : ChannelConf)
    (memory : Nat → Channel) :
    TableInv conf (.initial memory) where
  counted := ChannelTable.initial_counted memory
  wellFormed := fun _ hi => absurd hi (Nat.not_lt_zero _)
  goesOn := fun _ hi => absurd hi (Nat.not_lt_zero _)

/- What is recorded has no part in the invariant. -/
theorem TableInv.record
    (hInv : TableInv conf table)
    (effect : ChannelEffect) :
    TableInv conf (table.record effect) where
  counted := hInv.counted.record effect
  wellFormed := hInv.wellFormed
  goesOn := hInv.goesOn

/- The count only looks at which slots are in use. -/
theorem ChannelTable.Counted.setSlot
    (hCounted : table.Counted)
    (hUse : (table.channels i).InUse)
    (hUse' : ch.InUse) :
    (setSlot i ch es table).Counted := by
  have hInUse :
      (Ssh1.setSlot i ch es table).inUse = table.inUse := by
    ext j
    rw [ChannelTable.mem_inUse, ChannelTable.mem_inUse]
    by_cases hj : j = i
    · subst hj
      simp [hUse, hUse']
    · simp [hj]
  apply ChannelTable.counted_of_used
  rw [hInUse]
  exact hCounted.used

/- A slot may take another well-formed channel. -/
theorem TableInv.setSlot
    (hInv : TableInv conf table)
    (hUse : (table.channels i).InUse)
    (hUse' : ch.InUse)
    (hWell : ch.WellFormed conf i)
    (hGoesOn : ch.statusFlags.terminate = false) :
    TableInv conf (setSlot i ch es table) where
  counted := hInv.counted.setSlot hUse hUse'
  wellFormed := by
    intro j hj hUseJ
    by_cases hji : j = i
    · subst hji
      simpa using hWell
    · rw [setSlot_channels_ne hji] at hUseJ ⊢
      exact hInv.wellFormed j hj hUseJ
  goesOn := by
    intro j hj hUseJ
    by_cases hji : j = i
    · subst hji
      simpa using hGoesOn
    · rw [setSlot_channels_ne hji] at hUseJ ⊢
      exact hInv.goesOn j hj hUseJ

/- A slot that is released is free and empty. -/
theorem releaseSlot_setSlot_channels_self :
    (releaseSlot i (setSlot i ch es table)).channels i =
      { ch with type := .free, input := [], output := [] } := by
  simp [releaseSlot]

/- The other slots stay. -/
theorem releaseSlot_setSlot_channels_ne
    {j : Nat}
    (hj : j ≠ i) :
    (releaseSlot i (setSlot i ch es table)).channels j =
      table.channels j := by
  rw [releaseSlot_channels_ne hj, setSlot_channels_ne hj]

/- Whatever a slot holds, it may be freed. -/
theorem TableInv.releaseSlot_setSlot
    (hInv : TableInv conf table)
    (hBound : i < table.channelsAlloc)
    (hUse : (table.channels i).InUse)
    (hUse' : ch.InUse) :
    TableInv conf
      (releaseSlot i (Ssh1.setSlot i ch es table)) := by
  have hOthers :
      ∀ j, ((releaseSlot i
          (Ssh1.setSlot i ch es table)).channels j).InUse →
        (releaseSlot i
          (Ssh1.setSlot i ch es table)).channels j =
          table.channels j := by
    intro j hUseJ
    by_cases hji : j = i
    · subst hji
      simp [releaseSlot_setSlot_channels_self,
        Channel.InUse] at hUseJ
    · exact releaseSlot_setSlot_channels_ne hji
  refine ⟨?_, ?_, ?_⟩
  · exact (hInv.counted.setSlot hUse hUse').releaseSlot hBound
      (by simpa using hUse')
  · intro j hj hUseJ
    have hSame := hOthers j hUseJ
    rw [hSame] at hUseJ ⊢
    exact hInv.wellFormed j hj hUseJ
  · intro j hj hUseJ
    have hSame := hOthers j hUseJ
    rw [hSame] at hUseJ ⊢
    exact hInv.goesOn j hj hUseJ

/- A slot may take a channel that is freed at its end. -/
theorem TableInv.closeSlot
    (hInv : TableInv conf table)
    (hBound : i < table.channelsAlloc)
    (hUse : (table.channels i).InUse)
    (hUse' : ch.InUse)
    (hWell : ch.WellFormed conf i) :
    TableInv conf (closeSlot i ch es table) := by
  unfold Ssh1.closeSlot
  split
  · exact hInv.releaseSlot_setSlot hBound hUse hUse'
  · next hNot =>
      exact hInv.setSlot hUse hUse' hWell (by simpa using hNot)

/- A slot that is not in use may become a new channel. -/
theorem TableInv.allocate
    {type : ChannelType}
    {sock : Int}
    (hInv : TableInv conf table)
    (hAllocates :
      ChannelTable.Allocates type sock table i table')
    (hFresh : ch.IsFresh type i)
    (hUse : ch.InUse)
    (hWell : ch.WellFormed conf i) :
    TableInv conf (Ssh1.setSlot i ch es table') := by
  have hUse' : (table'.channels i).InUse := by
    rw [Channel.InUse, hAllocates.new.type_eq,
      ← hFresh.type_eq]
    exact hUse
  have hOthers :
      ∀ j < table'.channelsAlloc, j ≠ i →
        ((Ssh1.setSlot i ch es table').channels j).InUse →
        j < table.channelsAlloc ∧
          (Ssh1.setSlot i ch es table').channels j =
            table.channels j := by
    intro j hj hji hUseJ
    rw [setSlot_channels_ne hji] at hUseJ ⊢
    by_cases hBound : j < table.channelsAlloc
    · exact ⟨hBound, hAllocates.others j hBound hji⟩
    · exact absurd hUseJ
        (hAllocates.unused j (by omega) hj hji)
  refine ⟨hAllocates.counted.setSlot hUse' hUse, ?_, ?_⟩
  · intro j hj hUseJ
    by_cases hji : j = i
    · subst hji
      simpa using hWell
    · rcases hOthers j hj hji hUseJ with ⟨hBound, hSame⟩
      rw [hSame] at hUseJ ⊢
      exact hInv.wellFormed j hBound hUseJ
  · intro j hj hUseJ
    by_cases hji : j = i
    · subst hji
      simp [hFresh.statusFlags_eq, StatusFlags.terminate,
        StatusFlags.clear]
    · rcases hOthers j hj hji hUseJ with ⟨hBound, hSame⟩
      rw [hSame] at hUseJ ⊢
      exact hInv.goesOn j hBound hUseJ

end Ssh1

------------------------------------------------------------
-- Preservation
------------------------------------------------------------

namespace Ssh1

variable {conf : ChannelConf}
variable {i : Nat}
variable {ch ch' : Channel}
variable {es : List ChannelEffect}

/- A local action is on a slot in use. -/
theorem LocalAction.inUse
    {allowed : Channel → Prop}
    (hAction : LocalAction conf allowed i ch es ch') :
    ch'.InUse := by
  cases hAction <;> simp_all [Channel.InUse]

/- A local action keeps a channel well formed. -/
theorem LocalAction.wellFormed
    {allowed : Channel → Prop}
    (hAction : LocalAction conf allowed i ch es ch')
    (hWell : ch.WellFormed conf i) :
    ch'.WellFormed conf i := by
  rcases hWell with
    ⟨hLocal, hClose, hCR, hES, hOC, hEof, hER, hX, hX11⟩
  cases hAction with
  | read data hType hAllowed =>
      constructor <;> simp_all
  | closeInput hType hAllowed hNew =>
      constructor <;> simp_all
  | write len hType hLen =>
      constructor <;> simp_all
  | closeOutput hType hNew =>
      constructor <;> simp_all
  | sendData len hType hData hLen =>
      constructor <;> simp_all
  | sendIeof hType hDrained hClosed hNew =>
      constructor <;> simp_all
  | acceptX11 auth output hType hSaved hCheck hOpen =>
      constructor <;> simp_all
  | rejectX11 auth hType hSaved hCheck hOpen =>
      constructor <;> simp_all

/- What the peer does leaves the slot in use. -/
theorem PeerAction.inUse
    {allowed : Channel → Prop}
    (hAction : PeerAction allowed i ch es ch')
    (hUse : ch.InUse) :
    ch'.InUse := by
  cases hAction <;>
    simp_all [Channel.InUse, kludged, unopenedIeof,
      kludgedUnopened, peerClosed, unopenedOclosed]

/- What the peer does keeps a channel well formed. -/
theorem PeerAction.wellFormed
    {allowed : Channel → Prop}
    (hAction : PeerAction allowed i ch es ch')
    (hWell : ch.WellFormed conf i) :
    ch'.WellFormed conf i := by
  rcases hWell with
    ⟨hLocal, hClose, hCR, hES, hOC, hEof, hER, hX, hX11⟩
  cases hAction with
  | confirm remoteChannel hType =>
      constructor <;> simp_all
  | data data hAllowed hType hMore hOpen =>
      constructor <;> simp_all
  | passOver data hAllowed hType hMore hClosed =>
      constructor <;> simp_all
  | ieof hType hNew =>
      constructor <;> simp_all [kludged]
  | ieofUnopened hType hNew hPeer =>
      constructor <;>
        simp_all [unopenedIeof, kludgedUnopened]
  | oclosed hInput hNew =>
      rcases hInput with hType | hClosed <;>
        constructor <;> simp_all [peerClosed]
  | oclosedUnopened hType hNew hPeer =>
      constructor <;> simp_all [unopenedOclosed, peerClosed]

theorem Opening.inUse
    (hOpening : Opening conf i ch es) :
    ch.InUse := by
  cases hOpening with
  | listener hType =>
      rcases hType with hType | hType | hType <;>
        simp [Channel.InUse, hType]
  | confirmed hType =>
      rcases hType with hType | ⟨hType, -⟩ <;>
        simp [Channel.InUse, hType]

/- Only an X connection waits for its cookie. -/
theorem Opening.of_x11Open
    (hOpening : Opening conf i ch es)
    (hType : ch.type = .x11Open) :
    ch.isXConnection = true ∧ conf.x11Saved ≠ none := by
  cases hOpening with
  | listener hOther => simp [hType] at hOther
  | confirmed hOther =>
      rcases hOther with hOther | ⟨-, hX11⟩
      · simp [hType] at hOther
      · exact hX11

/- A new channel has none of the flags. -/
theorem Channel.IsFresh.wellFormed
    {type : ChannelType}
    (hFresh : ch.IsFresh type i)
    (hX11 :
      ch.type = .x11Open →
        ch.isXConnection = true ∧ conf.x11Saved ≠ none) :
    ch.WellFormed conf i := by
  rcases hFresh with ⟨-, hLocal, hFlags, hInput, hOutput⟩
  constructor
  case of_x11Open => exact hX11
  all_goals simp [hLocal, hFlags, StatusFlags.clear]

variable {allowed : Nat → Channel → Prop}
variable {table table' : ChannelTable}

/- One local step keeps the invariant. -/
theorem LocalStep.inv
    (hStep : LocalStep conf allowed table table')
    (hInv : TableInv conf table) :
    TableInv conf table' := by
  cases hStep with
  | act i hBound hUse hAction =>
      exact hInv.closeSlot hBound hUse hAction.inUse
        (hAction.wellFormed (hInv.wellFormed i hBound hUse))
  | request i listener hBound hRequest hAllocates hFresh =>
      have hType := hFresh.type_eq
      exact hInv.allocate hAllocates hFresh
        (by simp [Channel.InUse, hType])
        (hFresh.wellFormed (by simp [hType]))

/- The invariant holds after every step. -/
theorem TableStep.inv
    (hStep : TableStep conf allowed table table')
    (hInv : TableInv conf table) :
    TableInv conf table' := by
  cases hStep with
  | loop hStep => exact hStep.inv hInv
  | react i hBound hUse hAction =>
      exact hInv.closeSlot hBound hUse (hAction.inUse hUse)
        (hAction.wellFormed (hInv.wellFormed i hBound hUse))
  | allocate i hAllocates hFresh hOpening =>
      exact hInv.allocate hAllocates hFresh hOpening.inUse
        (hFresh.wellFormed hOpening.of_x11Open)
  | refuse remoteChannel => exact hInv.record _
  | fail i hBound hType =>
      have hUse : (table.channels i).InUse := by
        simp [Channel.InUse, hType]
      have hFreed :
          TableInv conf
            (releaseSlot i
              (setSlot i (table.channels i) [] table)) :=
        hInv.releaseSlot_setSlot hBound hUse hUse
      rwa [setSlot_self] at hFreed

/- By induction on the local steps. -/
theorem LocalSteps.inv
    (hSteps : LocalSteps conf allowed table table')
    (hInv : TableInv conf table) :
    TableInv conf table' := by
  induction hSteps with
  | refl => exact hInv
  | tail _ hStep ih => exact hStep.inv ih

/- By induction on the steps of a run. -/
theorem TableSteps.inv
    (hSteps : TableSteps conf allowed table table')
    (hInv : TableInv conf table) :
    TableInv conf table' := by
  induction hSteps with
  | refl => exact hInv
  | tail _ hStep ih => exact hStep.inv ih

/- No step makes the table smaller. -/
theorem LocalStep.grows
    (hStep : LocalStep conf allowed table table') :
    table.channelsAlloc ≤ table'.channelsAlloc := by
  cases hStep with
  | act i hBound hUse hAction =>
      exact (closeSlot_channelsAlloc).ge
  | request i listener hBound hRequest hAllocates hFresh =>
      exact hAllocates.grows

/- The table never shrinks. -/
theorem LocalSteps.grows
    (hSteps : LocalSteps conf allowed table table') :
    table.channelsAlloc ≤ table'.channelsAlloc := by
  induction hSteps with
  | refl => exact le_rfl
  | tail _ hStep ih => exact ih.trans hStep.grows

end Ssh1
