import Ssh1.Channels.Table

/-
  Closing the two directions of a channel.

  A channel sends the end of its input once the socket has no
  more to read, and that its output is closed once nothing
  can be written any more. It is freed when both sides have
  said both. The functions work on slot `i` of the table, as
  those of the source work on `&channels[i]`.

  Main declarations:
    * `channelCheckTermination`
    * `channelCloseInput`, `channelCloseOutput`
    * `channelReceiveIeof`, `channelReceiveOclosed`
-/

------------------------------------------------------------
-- Sending
------------------------------------------------------------

namespace Ssh1

/- Sends a message about the slot. -/
def channelSend
    (i : Nat)
    (message : ChannelMessage)
    (table : ChannelTable) : ChannelTable :=
  table.record (.sent (some i) message)

/- Changes the status flags of the slot. -/
def setFlags
    (i : Nat)
    (f : StatusFlags → StatusFlags)
    (table : ChannelTable) : ChannelTable :=
  table.modify i fun ch =>
    { ch with statusFlags := f ch.statusFlags }

/-
  A channel can be freed when it has sent and received input
  eof and output closed.
-/
def channelCheckTermination
    (i : Nat)
    (table : ChannelTable) : Outcome ChannelTable :=
  if (table.channels i).statusFlags.terminate then
    channelFree (table.channels i).localId table
  else
    .ok table

/- If ieof has not yet been sent, send it. -/
def channelSendIeof
    (i : Nat)
    (table : ChannelTable) : Outcome ChannelTable :=
  if ¬ (table.channels i).statusFlags.eofSent then
    let table :=
      setFlags i (fun flags => { flags with eofSent := true })
        table
    let table :=
      channelSend i
        (.inputEof (table.channels i).remoteId) table
    channelCheckTermination i table
  else
    .ok table

/- If oclosed has not yet been sent, send it. -/
def channelSendOclosed
    (i : Nat)
    (table : ChannelTable) : Outcome ChannelTable :=
  if ¬ (table.channels i).statusFlags.closeSent then
    let table :=
      setFlags i
        (fun flags => { flags with closeSent := true }) table
    let table :=
      channelSend i
        (.outputClosed (table.channels i).remoteId) table
    channelCheckTermination i table
  else
    .ok table

end Ssh1

------------------------------------------------------------
-- Closing
------------------------------------------------------------

namespace Ssh1

/-
  Close input if it hasn't been done yet. The input buffer is
  not discarded, because it is to drain over the channel.
-/
def channelCloseInput
    (i : Nat)
    (table : ChannelTable) : Outcome ChannelTable :=
  if ¬ (table.channels i).statusFlags.inputSocketClosed then
    let table :=
      setFlags i
        (fun flags =>
          { flags with inputSocketClosed := true }) table
    if (table.channels i).type ≠ .opened then
      channelSendIeof i table
    else
      .ok table
  else
    .ok table

/-
  Close output if it hasn't been done yet. The output buffer
  is discarded, and the close is sent immediately.
-/
def channelCloseOutput
    (i : Nat)
    (table : ChannelTable) : Outcome ChannelTable :=
  if ¬ (table.channels i).statusFlags.outputSocketClosed then
    let table :=
      setFlags i
        (fun flags =>
          { flags with outputSocketClosed := true }) table
    let table :=
      table.modify i fun ch => { ch with output := [] }
    channelSendOclosed i table
  else
    .ok table

/- The X problem fix: close the other direction. -/
def closeKludge
    (i : Nat)
    (table : ChannelTable) : Outcome ChannelTable :=
  if (table.channels i).isXConnection then
    channelCloseInput i table
  else
    .ok table

/- The output of a channel that is not open will not drain. -/
def closeUnopened
    (i : Nat)
    (table : ChannelTable) : Outcome ChannelTable :=
  if (table.channels i).type ≠ .opened then
    channelCloseOutput i table
  else
    .ok table

/- Receive input eof. -/
def channelReceiveIeof
    (i : Nat)
    (table : ChannelTable) : Outcome ChannelTable := do
  if (table.channels i).statusFlags.eofReceived then
    .error (.disconnect "Received double input eof.")
  else
    let table :=
      setFlags i
        (fun flags => { flags with eofReceived := true }) table
    let table ← closeKludge i table
    let table ← closeUnopened i table
    channelCheckTermination i table

/- Receive output closed. -/
def channelReceiveOclosed
    (i : Nat)
    (table : ChannelTable) : Outcome ChannelTable := do
  if (table.channels i).statusFlags.closeReceived then
    .error (.disconnect "Received double close.")
  else
    let table :=
      setFlags i
        (fun flags => { flags with closeReceived := true })
        table
    let table :=
      table.modify i fun ch => { ch with input := [] }
    let table ← channelCloseInput i table
    channelCheckTermination i table

/- The slot that a channel number of the peer stands for. -/
def channelInUse
    (channel : Int)
    (table : ChannelTable) : Option Nat :=
  if channel < 0 ∨ channel ≥ table.channelsAlloc ∨
      (table.channels channel.toNat).type = .free then
    none
  else
    some channel.toNat

/- This is called after receiving `CHANNEL_INPUT_EOF`. -/
def channelIeof
    (channel : Int)
    (table : ChannelTable) : Outcome ChannelTable :=
  match channelInUse channel table with
  | none =>
      .error (.disconnect
        ("Received ieof for nonexistent channel " ++
          toString channel ++ "."))
  | some i => channelReceiveIeof i table

/- This is called after receiving `CHANNEL_OUTPUT_CLOSED`. -/
def channelOclosed
    (channel : Int)
    (table : ChannelTable) : Outcome ChannelTable :=
  match channelInUse channel table with
  | none =>
      .error (.disconnect
        ("Received oclosed for nonexistent channel " ++
          toString channel ++ "."))
  | some i => channelReceiveOclosed i table

end Ssh1

------------------------------------------------------------
-- One Slot at a Time
------------------------------------------------------------

namespace Ssh1

/- The table with another channel in the slot. -/
def setSlot
    (i : Nat)
    (ch : Channel)
    (effects : List ChannelEffect)
    (table : ChannelTable) : ChannelTable :=
  { table with
      channels := Function.update table.channels i ch
      effects := table.effects ++ effects }

/- The same, but freed when its flags are all set. -/
def closeSlot
    (i : Nat)
    (ch : Channel)
    (effects : List ChannelEffect)
    (table : ChannelTable) : ChannelTable :=
  if ch.statusFlags.terminate then
    releaseSlot i (setSlot i ch effects table)
  else
    setSlot i ch effects table

variable {i : Nat}
variable {ch : Channel}
variable {es : List ChannelEffect}
variable {table : ChannelTable}

@[simp] theorem setSlot_channels_self :
    (setSlot i ch es table).channels i = ch := by
  simp [setSlot]

/- The other slots stay. -/
@[simp] theorem setSlot_channels_ne
    {j : Nat}
    (hj : j ≠ i) :
    (setSlot i ch es table).channels j =
      table.channels j := by
  simp [setSlot, hj]

@[simp] theorem setSlot_channelsAlloc :
    (setSlot i ch es table).channelsAlloc =
      table.channelsAlloc := rfl

@[simp] theorem setSlot_channelsUsed :
    (setSlot i ch es table).channelsUsed =
      table.channelsUsed := rfl

@[simp] theorem setSlot_effects :
    (setSlot i ch es table).effects =
      table.effects ++ es := rfl

/- The second change is the one that stays. -/
@[simp] theorem setSlot_setSlot
    (ch' : Channel)
    (es' : List ChannelEffect) :
    setSlot i ch' es' (setSlot i ch es table) =
      setSlot i ch' (es ++ es') table := by
  simp [setSlot]

@[simp] theorem closeSlot_channelsAlloc :
    (closeSlot i ch es table).channelsAlloc =
      table.channelsAlloc := by
  unfold closeSlot
  split <;> rfl

/- A change to the same channel is none. -/
theorem setSlot_self :
    setSlot i (table.channels i) [] table = table := by
  simp [setSlot]

theorem modify_setSlot
    (f : Channel → Channel) :
    (setSlot i ch es table).modify i f =
      setSlot i (f ch) es table := by
  simp [setSlot, ChannelTable.modify]

/- The flags of a slot that was changed. -/
theorem setFlags_setSlot
    (f : StatusFlags → StatusFlags) :
    setFlags i f (setSlot i ch es table) =
      setSlot i { ch with statusFlags := f ch.statusFlags } es
        table :=
  modify_setSlot _

/- A message from a slot that was changed. -/
theorem channelSend_setSlot
    (message : ChannelMessage) :
    channelSend i message (setSlot i ch es table) =
      setSlot i ch (es ++ [.sent (some i) message])
        table := by
  simp [setSlot, channelSend, ChannelTable.record]

/- A slot in use is freed once, when its flags say so. -/
theorem channelCheckTermination_setSlot
    (ch : Channel)
    (hBound : i < table.channelsAlloc)
    (hUse : ch.InUse)
    (hLocal : ch.localId = i) :
    channelCheckTermination i (setSlot i ch es table) =
      .ok (closeSlot i ch es table) := by
  rw [channelCheckTermination, setSlot_channels_self, hLocal,
    closeSlot]
  split
  · exact channelFree_eq_ok hBound (by simpa using hUse)
  · rfl

/- A freed slot whose flags are all set is freed again. -/
theorem channelCheckTermination_releaseSlot
    (hTerminate : ch.statusFlags.terminate = true)
    (hLocal : ch.localId = i) :
    channelCheckTermination i
        (releaseSlot i (setSlot i ch es table)) =
      .error .assertion := by
  have hSlot :
      (releaseSlot i (setSlot i ch es table)).channels i =
        { ch with type := .free, input := [], output := [] } := by
    simp [releaseSlot]
  rw [channelCheckTermination, hSlot]
  simp only [hTerminate, if_true, hLocal]
  apply channelFree_eq_error
  rw [hSlot]
  simp [Channel.InUse]

/- The end of the input is told the first time. -/
theorem channelSendIeof_setSlot
    (ch : Channel)
    (hBound : i < table.channelsAlloc)
    (hUse : ch.InUse)
    (hLocal : ch.localId = i)
    (hNew : ch.statusFlags.eofSent = false) :
    channelSendIeof i (setSlot i ch es table) =
      .ok (closeSlot i
        { ch with
          statusFlags :=
            { ch.statusFlags with eofSent := true } }
        (es ++ [.sent (some i) (.inputEof ch.remoteId)])
        table) := by
  simp only [channelSendIeof, setSlot_channels_self, hNew,
    setFlags_setSlot, channelSend_setSlot, Bool.false_eq_true,
    not_false_eq_true, if_true]
  exact channelCheckTermination_setSlot _ hBound hUse hLocal

/- The end of the output is told the first time. -/
theorem channelSendOclosed_setSlot
    (ch : Channel)
    (hBound : i < table.channelsAlloc)
    (hUse : ch.InUse)
    (hLocal : ch.localId = i)
    (hNew : ch.statusFlags.closeSent = false) :
    channelSendOclosed i (setSlot i ch es table) =
      .ok (closeSlot i
        { ch with
          statusFlags :=
            { ch.statusFlags with closeSent := true } }
        (es ++ [.sent (some i) (.outputClosed ch.remoteId)])
        table) := by
  simp only [channelSendOclosed, setSlot_channels_self, hNew,
    setFlags_setSlot, channelSend_setSlot, Bool.false_eq_true,
    not_false_eq_true, if_true]
  exact channelCheckTermination_setSlot _ hBound hUse hLocal

/- Closing what is closed changes nothing. -/
theorem channelCloseInput_closed
    (hClosed :
      (table.channels i).statusFlags.inputSocketClosed =
        true) :
    channelCloseInput i table = .ok table := by
  simp [channelCloseInput, hClosed]

/- An output side that is closed is left. -/
theorem channelCloseOutput_closed
    (hClosed :
      (table.channels i).statusFlags.outputSocketClosed =
        true) :
    channelCloseOutput i table = .ok table := by
  simp [channelCloseOutput, hClosed]

/- An open channel first drains its input buffer. -/
theorem channelCloseInput_opened
    (ch : Channel)
    (hType : ch.type = .opened)
    (hNew : ch.statusFlags.inputSocketClosed = false) :
    channelCloseInput i (setSlot i ch es table) =
      .ok (setSlot i
        { ch with
          statusFlags :=
            { ch.statusFlags with inputSocketClosed := true } }
        es table) := by
  simp [channelCloseInput, setFlags_setSlot, hType, hNew]

/- Any other one sends the end of its input at once. -/
theorem channelCloseInput_other
    (ch : Channel)
    (hBound : i < table.channelsAlloc)
    (hUse : ch.InUse)
    (hLocal : ch.localId = i)
    (hType : ch.type ≠ .opened)
    (hNew : ch.statusFlags.inputSocketClosed = false)
    (hUnsent : ch.statusFlags.eofSent = false) :
    channelCloseInput i (setSlot i ch es table) =
      .ok (closeSlot i
        { ch with
          statusFlags :=
            { ch.statusFlags with
              inputSocketClosed := true
              eofSent := true } }
        (es ++ [.sent (some i) (.inputEof ch.remoteId)])
        table) := by
  simp only [channelCloseInput, setSlot_channels_self, hNew,
    setFlags_setSlot, hType, Bool.false_eq_true, ne_eq,
    not_false_eq_true, if_true]
  exact channelSendIeof_setSlot _ hBound hUse hLocal hUnsent

/- An open output side is closed and told. -/
theorem channelCloseOutput_setSlot
    (ch : Channel)
    (hBound : i < table.channelsAlloc)
    (hUse : ch.InUse)
    (hLocal : ch.localId = i)
    (hNew : ch.statusFlags.outputSocketClosed = false)
    (hUnsent : ch.statusFlags.closeSent = false) :
    channelCloseOutput i (setSlot i ch es table) =
      .ok (closeSlot i
        { ch with
          output := []
          statusFlags :=
            { ch.statusFlags with
              outputSocketClosed := true
              closeSent := true } }
        (es ++ [.sent (some i) (.outputClosed ch.remoteId)])
        table) := by
  simp only [channelCloseOutput, setSlot_channels_self, hNew,
    setFlags_setSlot, modify_setSlot, Bool.false_eq_true,
    not_false_eq_true, if_true]
  exact channelSendOclosed_setSlot _ hBound hUse hLocal hUnsent

end Ssh1

------------------------------------------------------------
-- Receiving the Closing Messages
------------------------------------------------------------

namespace Ssh1

variable {i : Nat}
variable {ch : Channel}
variable {es : List ChannelEffect}
variable {table : ChannelTable}

/- The channel once the X problem fix has been applied. -/
def kludged (ch : Channel) : Channel :=
  { ch with
    statusFlags :=
      { ch.statusFlags with
        inputSocketClosed :=
          ch.statusFlags.inputSocketClosed ||
            ch.isXConnection } }

/- The fix changes nothing where input is closed already. -/
theorem kludged_eq_self
    (hSame :
      ch.isXConnection = true →
        ch.statusFlags.inputSocketClosed = true) :
    kludged ch = ch := by
  have hFlag :
      (ch.statusFlags.inputSocketClosed ||
        ch.isXConnection) =
        ch.statusFlags.inputSocketClosed := by
    cases hX : ch.isXConnection with
    | false => simp
    | true => simp [hSame hX]
  rw [kludged, hFlag]

/- An open channel is closed as before. -/
theorem closeKludge_opened
    (ch : Channel)
    (hType : ch.type = .opened) :
    closeKludge i (setSlot i ch es table) =
      .ok (setSlot i (kludged ch) es table) := by
  unfold closeKludge
  rw [setSlot_channels_self]
  cases hX : ch.isXConnection with
  | false =>
      rw [kludged_eq_self (by simp [hX])]
      rfl
  | true =>
      rw [if_pos rfl]
      cases hClosed : ch.statusFlags.inputSocketClosed with
      | false =>
          rw [channelCloseInput_opened _ hType hClosed]
          simp [kludged, hX]
      | true =>
          rw [channelCloseInput_closed (by
              simpa using hClosed),
            kludged_eq_self fun _ => hClosed]

/- An open channel notes the end, and perhaps goes with it. -/
theorem channelReceiveIeof_opened
    (hBound : i < table.channelsAlloc)
    (hLocal : ch.localId = i)
    (hType : ch.type = .opened)
    (hNew : ch.statusFlags.eofReceived = false) :
    channelReceiveIeof i (setSlot i ch es table) =
      .ok (closeSlot i
        (kludged
          { ch with
            statusFlags :=
              { ch.statusFlags with eofReceived := true } })
        es table) := by
  simp only [channelReceiveIeof, setSlot_channels_self, hNew,
    setFlags_setSlot, Bool.false_eq_true, if_false]
  rw [closeKludge_opened _ (by exact hType),
    FallibleRun.ok_bind, closeUnopened,
    if_neg (by simp [kludged, hType]), FallibleRun.ok_bind]
  exact channelCheckTermination_setSlot _ hBound
    (by simp [Channel.InUse, kludged, hType]) hLocal

/- What the fix sends for a channel that is not open. -/
def kludgeSends
    (i : Nat)
    (ch : Channel) : List ChannelEffect :=
  if ch.isXConnection ∧ ¬ ch.statusFlags.inputSocketClosed then
    [.sent (some i) (.inputEof ch.remoteId)]
  else
    []

/- A channel that is not open, once the fix is applied. -/
def kludgedUnopened (ch : Channel) : Channel :=
  { ch with
    statusFlags :=
      { ch.statusFlags with
        inputSocketClosed :=
          ch.statusFlags.inputSocketClosed ||
            ch.isXConnection
        eofSent :=
          ch.statusFlags.eofSent || ch.isXConnection } }

/-
  The fix does not free a channel that is not open, because
  its own close is not sent yet.
-/
theorem closeKludge_other
    (ch : Channel)
    (hBound : i < table.channelsAlloc)
    (hUse : ch.InUse)
    (hLocal : ch.localId = i)
    (hType : ch.type ≠ .opened)
    (hSame :
      ch.statusFlags.eofSent =
        ch.statusFlags.inputSocketClosed)
    (hUnsent : ch.statusFlags.closeSent = false) :
    closeKludge i (setSlot i ch es table) =
      .ok (setSlot i (kludgedUnopened ch)
        (es ++ kludgeSends i ch) table) := by
  have hNothing :
      (ch.isXConnection = true →
        ch.statusFlags.inputSocketClosed = true) →
      kludgedUnopened ch = ch ∧ kludgeSends i ch = [] := by
    intro hClosed
    have hInput :
        (ch.statusFlags.inputSocketClosed ||
          ch.isXConnection) =
          ch.statusFlags.inputSocketClosed := by
      cases hX : ch.isXConnection with
      | false => simp
      | true => simp [hClosed hX]
    constructor
    · have hSent :
          (ch.statusFlags.eofSent || ch.isXConnection) =
            ch.statusFlags.eofSent := by
        rw [hSame, hInput]
      rw [kludgedUnopened, hInput, hSent]
    · rw [kludgeSends, if_neg]
      rintro ⟨hX, hNot⟩
      exact hNot (hClosed hX)
  unfold closeKludge
  rw [setSlot_channels_self]
  by_cases hFix :
      ch.isXConnection = true ∧
        ch.statusFlags.inputSocketClosed = false
  · rcases hFix with ⟨hX, hOpen⟩
    rw [hOpen] at hSame
    rw [if_pos hX, channelCloseInput_other _ hBound hUse
      hLocal hType hOpen hSame, closeSlot, if_neg (by
        simp [StatusFlags.terminate, hUnsent])]
    simp [kludgedUnopened, kludgeSends, hX, hOpen]
  · have hClosed :
        ch.isXConnection = true →
          ch.statusFlags.inputSocketClosed = true := by
      intro hX
      cases hOpen : ch.statusFlags.inputSocketClosed with
      | false => exact absurd ⟨hX, hOpen⟩ hFix
      | true => rfl
    rw [(hNothing hClosed).1, (hNothing hClosed).2,
      List.append_nil]
    split
    · next hX =>
        exact channelCloseInput_closed (by
          simpa using hClosed hX)
    · rfl

/- A channel that is not open, once the end has come. -/
def unopenedIeof (ch : Channel) : Channel :=
  let ch := kludgedUnopened ch
  { ch with
    output := []
    statusFlags :=
      { ch.statusFlags with
        eofReceived := true
        outputSocketClosed := true
        closeSent := true } }

/- What it sends when the end comes. -/
def unopenedIeofSends
    (i : Nat)
    (ch : Channel) : List ChannelEffect :=
  kludgeSends i ch ++
    [.sent (some i) (.outputClosed ch.remoteId)]

section Unopened

variable (hBound : i < table.channelsAlloc)
variable (hUse : ch.InUse)
variable (hLocal : ch.localId = i)
variable (hType : ch.type ≠ .opened)
variable
  (hSame :
    ch.statusFlags.eofSent =
      ch.statusFlags.inputSocketClosed)
variable
  (hOutput : ch.statusFlags.outputSocketClosed = false)
variable (hUnsent : ch.statusFlags.closeSent = false)
variable (hNew : ch.statusFlags.eofReceived = false)

include hBound hUse hLocal hType hSame hOutput hUnsent hNew

/-
  The end of a channel that is not open: the output is closed
  and the slot perhaps freed, and then it is checked again.
-/
theorem channelReceiveIeof_unopened :
    channelReceiveIeof i (setSlot i ch es table) =
      channelCheckTermination i
        (closeSlot i (unopenedIeof ch)
          (es ++ unopenedIeofSends i ch) table) := by
  simp only [channelReceiveIeof, setSlot_channels_self, hNew,
    setFlags_setSlot, Bool.false_eq_true, if_false]
  rw [closeKludge_other _ hBound (by exact hUse)
      (by exact hLocal) (by exact hType) (by exact hSame)
      (by exact hUnsent),
    FallibleRun.ok_bind, closeUnopened,
    if_pos (by simpa [kludgedUnopened] using hType),
    channelCloseOutput_setSlot _ hBound
      (by simpa [Channel.InUse, kludgedUnopened] using hUse)
      (by exact hLocal) (by exact hOutput) (by exact hUnsent),
    FallibleRun.ok_bind]
  simp [unopenedIeof, unopenedIeofSends, kludgedUnopened,
    kludgeSends]

/- It is kept while the peer has not closed its output. -/
theorem channelReceiveIeof_kept
    (hPeer : ch.statusFlags.closeReceived = false) :
    channelReceiveIeof i (setSlot i ch es table) =
      .ok (setSlot i (unopenedIeof ch)
        (es ++ unopenedIeofSends i ch) table) := by
  have hGoesOn :
      (unopenedIeof ch).statusFlags.terminate = false := by
    simp [unopenedIeof, kludgedUnopened,
      StatusFlags.terminate, hPeer]
  rw [channelReceiveIeof_unopened hBound hUse hLocal hType
      hSame hOutput hUnsent hNew,
    closeSlot, if_neg (by simp [hGoesOn]),
    channelCheckTermination_setSlot _ hBound
      (by simpa [Channel.InUse, unopenedIeof,
        kludgedUnopened] using hUse)
      (by exact hLocal),
    closeSlot, if_neg (by simp [hGoesOn])]

/-
  It is freed twice when the peer closed its output before,
  since that has closed the input.
-/
theorem channelReceiveIeof_twice
    (hPeer : ch.statusFlags.closeReceived = true)
    (hInput : ch.statusFlags.inputSocketClosed = true) :
    channelReceiveIeof i (setSlot i ch es table) =
      .error .assertion := by
  have hEnds :
      (unopenedIeof ch).statusFlags.terminate = true := by
    simp [unopenedIeof, kludgedUnopened,
      StatusFlags.terminate, hPeer, hSame, hInput]
  rw [channelReceiveIeof_unopened hBound hUse hLocal hType
      hSame hOutput hUnsent hNew,
    closeSlot, if_pos hEnds]
  exact channelCheckTermination_releaseSlot hEnds hLocal

end Unopened

end Ssh1

------------------------------------------------------------
-- Receiving That the Output Is Closed
------------------------------------------------------------

namespace Ssh1

variable {i : Nat}
variable {ch : Channel}
variable {es : List ChannelEffect}
variable {table : ChannelTable}

/- The channel once its peer takes no more data. -/
def peerClosed (ch : Channel) : Channel :=
  { ch with
    input := []
    statusFlags :=
      { ch.statusFlags with
        closeReceived := true
        inputSocketClosed := true } }

/- A channel whose input is closed notes the close. -/
theorem channelReceiveOclosed_closed
    (hBound : i < table.channelsAlloc)
    (hUse : ch.InUse)
    (hLocal : ch.localId = i)
    (hInput : ch.statusFlags.inputSocketClosed = true)
    (hNew : ch.statusFlags.closeReceived = false) :
    channelReceiveOclosed i (setSlot i ch es table) =
      .ok (closeSlot i (peerClosed ch) es table) := by
  simp only [channelReceiveOclosed, setSlot_channels_self,
    hNew, setFlags_setSlot, modify_setSlot,
    Bool.false_eq_true, if_false]
  rw [channelCloseInput_closed (by simpa using hInput),
    FallibleRun.ok_bind,
    channelCheckTermination_setSlot _ hBound
      (by exact hUse) (by exact hLocal)]
  simp only [peerClosed, hInput]

/- An open channel closes its input and notes the close. -/
theorem channelReceiveOclosed_opened
    (hBound : i < table.channelsAlloc)
    (hLocal : ch.localId = i)
    (hType : ch.type = .opened)
    (hNew : ch.statusFlags.closeReceived = false) :
    channelReceiveOclosed i (setSlot i ch es table) =
      .ok (closeSlot i (peerClosed ch) es table) := by
  have hUse : ch.InUse := by simp [Channel.InUse, hType]
  cases hInput : ch.statusFlags.inputSocketClosed with
  | true =>
      exact channelReceiveOclosed_closed hBound hUse hLocal
        hInput hNew
  | false =>
      simp only [channelReceiveOclosed, setSlot_channels_self,
        hNew, setFlags_setSlot, modify_setSlot,
        Bool.false_eq_true, if_false]
      rw [channelCloseInput_opened _ (by exact hType)
          (by exact hInput),
        FallibleRun.ok_bind]
      exact channelCheckTermination_setSlot _ hBound
        (by exact hUse) hLocal

/- A channel that is not open, once its peer has closed. -/
def unopenedOclosed (ch : Channel) : Channel :=
  let ch := peerClosed ch
  { ch with
    statusFlags := { ch.statusFlags with eofSent := true } }

section Unopened

variable (hBound : i < table.channelsAlloc)
variable (hUse : ch.InUse)
variable (hLocal : ch.localId = i)
variable (hType : ch.type ≠ .opened)
variable
  (hInput : ch.statusFlags.inputSocketClosed = false)
variable (hUnsent : ch.statusFlags.eofSent = false)
variable (hNew : ch.statusFlags.closeReceived = false)

include hBound hUse hLocal hType hInput hUnsent hNew

/-
  The close of a channel that is not open: the end is sent
  and the slot perhaps freed, and then it is checked again.
-/
theorem channelReceiveOclosed_unopened :
    channelReceiveOclosed i (setSlot i ch es table) =
      channelCheckTermination i
        (closeSlot i (unopenedOclosed ch)
          (es ++ [.sent (some i) (.inputEof ch.remoteId)])
          table) := by
  simp only [channelReceiveOclosed, setSlot_channels_self,
    hNew, setFlags_setSlot, modify_setSlot,
    Bool.false_eq_true, if_false]
  rw [channelCloseInput_other _ hBound (by exact hUse)
      (by exact hLocal) (by exact hType) (by exact hInput)
      (by exact hUnsent),
    FallibleRun.ok_bind]
  rfl

/- It is kept while the end has not come. -/
theorem channelReceiveOclosed_kept
    (hPeer : ch.statusFlags.eofReceived = false) :
    channelReceiveOclosed i (setSlot i ch es table) =
      .ok (setSlot i (unopenedOclosed ch)
        (es ++ [.sent (some i) (.inputEof ch.remoteId)])
        table) := by
  have hGoesOn :
      (unopenedOclosed ch).statusFlags.terminate = false := by
    simp [unopenedOclosed, peerClosed, StatusFlags.terminate,
      hPeer]
  rw [channelReceiveOclosed_unopened hBound hUse hLocal hType
      hInput hUnsent hNew,
    closeSlot, if_neg (by simp [hGoesOn]),
    channelCheckTermination_setSlot _ hBound
      (by simpa [Channel.InUse, unopenedOclosed,
        peerClosed] using hUse)
      (by exact hLocal),
    closeSlot, if_neg (by simp [hGoesOn])]

/-
  It is freed twice when the end came before, since that has
  closed the output.
-/
theorem channelReceiveOclosed_twice
    (hPeer : ch.statusFlags.eofReceived = true)
    (hOutput : ch.statusFlags.outputSocketClosed = true)
    (hSent : ch.statusFlags.closeSent = true) :
    channelReceiveOclosed i (setSlot i ch es table) =
      .error .assertion := by
  have hEnds :
      (unopenedOclosed ch).statusFlags.terminate = true := by
    simp [unopenedOclosed, peerClosed, StatusFlags.terminate,
      hPeer, hOutput, hSent]
  rw [channelReceiveOclosed_unopened hBound hUse hLocal hType
      hInput hUnsent hNew,
    closeSlot, if_pos hEnds]
  exact channelCheckTermination_releaseSlot hEnds hLocal

end Unopened

end Ssh1
