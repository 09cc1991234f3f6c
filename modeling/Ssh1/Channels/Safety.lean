import Ssh1.Channels.Moves

/-
  What keeps the table of channels in order.

  Every reachable table counts its channels right, and its
  channels have flags that fit together. A channel is freed
  twice in exactly one way: when the second of the two closing
  messages comes for a channel that is not open, and freeing
  it inside of the answer is followed by another check.

  Main results:
    * `ChannelEvent.step_moves`
    * `ChannelEvent.step_of_not_safe`
    * `channelTable_safe_iff`
-/

------------------------------------------------------------
-- After Select and Output
------------------------------------------------------------

namespace Ssh1

variable {conf : ChannelConf}
variable {bad : Halt → Prop}
variable {allowed : Nat → Channel → Prop}
variable {table : ChannelTable}
variable {i : Nat}

/- A listener that is not ready does nothing. -/
theorem acceptSlot_loops
    (io : SlotIo)
    {open' :
      Int → List UInt8 → ChannelTable → Outcome ChannelTable}
    (hOpen :
      ∀ sock originator,
        Loops bad conf allowed table
          (open' sock originator table)) :
    Loops bad conf allowed table (acceptSlot io table open') := by
  unfold acceptSlot
  split
  · split
    · exact Loops.refl
    · exact Loops.refl
    · exact hOpen _ _
  · exact Loops.refl

/- A data packet has some of the data, and not too much. -/
theorem dataSize_le
    (conf : ChannelConf)
    (len : Nat) :
    dataSize conf len ≤ len ∧ dataSize conf len ≤ 8192 := by
  unfold dataSize
  split <;> omega

variable (hInv : TableInv conf table)

include hInv

section Opened

variable (hBound : i < table.channelsAlloc)
variable (hType : (table.channels i).type = .opened)

include hBound hType

/- Writing to a socket is a local step. -/
theorem writeOpened_loops
    (io : SlotIo) :
    Loops bad conf allowed table (writeOpened io i table) := by
  have hUse : (table.channels i).InUse := by
    simp [Channel.InUse, hType]
  have hGoesOn := hInv.goesOn i hBound hUse
  unfold writeOpened
  simp only
  split
  · split
    · exact Loops.refl
    · exact channelCloseOutput_loops hInv hBound hType
    · next len hWrite =>
        split
        · exact channelCloseOutput_loops hInv hBound hType
        · have hLen :
              min len (table.channels i).output.length ≤
                (table.channels i).output.length :=
            Nat.min_le_right _ _
          have hConsume :
              bufferConsume (table.channels i).output
                  (min len (table.channels i).output.length) =
                .ok ((table.channels i).output.drop
                  (min len
                    (table.channels i).output.length)) := by
            rw [bufferConsume, if_neg (by omega)]
          rw [hConsume, FallibleRun.ok_bind]
          exact Loops.act hBound hUse
            (.write _ hType hLen) hGoesOn
  · exact Loops.refl

/- An open channel is read from and written to. -/
theorem afterOpened_loops
    (io : SlotIo)
    (hAllowed :
      io.readable = true → allowed i (table.channels i)) :
    Loops bad conf allowed table (afterOpened conf io i table) := by
  have hUse : (table.channels i).InUse := by
    simp [Channel.InUse, hType]
  have hGoesOn := hInv.goesOn i hBound hUse
  unfold afterOpened
  split
  · next hReadable =>
      have hClose :
          Loops bad conf allowed table
            (channelCloseInput i table) :=
        channelCloseInput_loops hInv hBound hType
          (hAllowed hReadable)
      split
      · exact writeOpened_loops hInv hBound hType io
      · exact hClose
      · next data hRead =>
          simp only
          split
          · exact hClose
          · rw [modify_eq_setSlot]
            have hAct : Loops bad conf allowed table _ :=
              Loops.act hBound hUse
                (.read (data.take (readSize conf)) hType
                  (hAllowed hReadable)) hGoesOn
            exact (writeOpened_loops (hAct.inv hInv) hBound
              (by simpa using hType) io).mono fun _ hMore =>
                hAct.trans hMore
  · exact writeOpened_loops hInv hBound hType io

end Opened

/- One turn of the loop after a select. -/
theorem afterSlot_loops
    (io : Nat → SlotIo)
    (hBound : i < table.channelsAlloc)
    (hAllowed :
      (io i).readable = true →
        (table.channels i).type = .opened →
        allowed i (table.channels i)) :
    Loops bad conf allowed table (afterSlot conf io table i) := by
  unfold afterSlot
  split
  · next hType =>
      exact acceptSlot_loops _ fun sock originator =>
        acceptX11_loops hInv hBound sock originator hType
  · next hType =>
      exact acceptSlot_loops _ fun sock originator =>
        acceptPort_loops hInv hBound sock originator hType
  · next hType =>
      exact acceptSlot_loops _ fun sock _ =>
        acceptAuth_loops hInv hBound sock hType
  · next hType =>
      exact afterOpened_loops hInv hBound hType (io i)
        fun hReadable => hAllowed hReadable hType
  · exact Loops.refl
  · exact Loops.refl
  · exact Loops.refl

/- One turn of the loop that sends to the connection. -/
theorem outputSlot_loops
    (hBound : i < table.channelsAlloc) :
    Loops bad conf allowed table (outputSlot conf table i) := by
  unfold outputSlot
  simp only
  split
  · exact Loops.refl
  · next hType =>
      have hType : (table.channels i).type = .opened := by
        simpa using hType
      have hUse : (table.channels i).InUse := by
        simp [Channel.InUse, hType]
      have hWell := hInv.wellFormed i hBound hUse
      split
      · next hData =>
          have hConsume :
              bufferConsume (table.channels i).input
                  (dataSize conf
                    (table.channels i).input.length) =
                .ok ((table.channels i).input.drop
                  (dataSize conf
                    (table.channels i).input.length)) := by
            have hLen := dataSize_le conf
              (table.channels i).input.length
            rw [bufferConsume, if_neg (by omega)]
          rw [hConsume, FallibleRun.ok_bind]
          exact Loops.act hBound hUse
            (.sendData _ hType (List.length_pos_iff.mp hData)
              (dataSize_le conf _).2)
            (hInv.goesOn i hBound hUse)
      · next hData =>
          split
          · next hClosed =>
              rcases hClosed with ⟨hInput, hUnsent⟩
              have hUnsent :
                  (table.channels i).statusFlags.eofSent =
                    false := by
                simpa using hUnsent
              have hSend :=
                @channelSendIeof_setSlot i [] table _ hBound
                  hUse hWell.localId_eq hUnsent
              rw [setSlot_self] at hSend
              rw [hSend]
              exact Loops.single (.act i hBound hUse
                (.sendIeof hType (by simpa using hData) hInput
                  hUnsent))
          · exact Loops.refl

end Ssh1

------------------------------------------------------------
-- Closing Messages
------------------------------------------------------------

namespace Ssh1

/-
  The end of input does not come for a channel that is not
  open and whose peer has closed its output before.
-/
def SafeIeof (ch : Channel) : Prop :=
  ch.type ≠ .opened →
    ch.statusFlags.closeReceived = true →
    ch.statusFlags.eofReceived = true

/-
  The close of output does not come for a channel that is not
  open and has received the end of input before, unless its
  own input is closed already.
-/
def SafeOclosed (ch : Channel) : Prop :=
  ch.type ≠ .opened →
    ch.statusFlags.eofReceived = true →
    ch.statusFlags.closeReceived = true ∨
      ch.statusFlags.inputSocketClosed = true

instance (ch : Channel) : Decidable (SafeIeof ch) := by
  unfold SafeIeof
  infer_instance

instance (ch : Channel) : Decidable (SafeOclosed ch) := by
  unfold SafeOclosed
  infer_instance

variable {conf : ChannelConf}
variable {allowed : Nat → Channel → Prop}
variable {table : ChannelTable}
variable {i : Nat}

section InUse

variable (hInv : TableInv conf table)
variable (hBound : i < table.channelsAlloc)
variable (hUse : (table.channels i).InUse)

include hInv hBound hUse

/- The end of input, where it is safe. -/
theorem channelReceiveIeof_moves
    (hSafe : SafeIeof (table.channels i)) :
    Moves conf allowed table (channelReceiveIeof i table) := by
  have hWell := hInv.wellFormed i hBound hUse
  have hLocal := hWell.localId_eq
  cases hNew : (table.channels i).statusFlags.eofReceived with
  | true =>
      rw [channelReceiveIeof, if_pos hNew]
      exact Moves.disconnect _
  | false =>
      by_cases hType : (table.channels i).type = .opened
      · have hReceive :=
          @channelReceiveIeof_opened i _ [] table hBound
            hLocal hType hNew
        rw [setSlot_self] at hReceive
        rw [hReceive]
        exact Moves.single
          (.react i hBound hUse (.ieof hType hNew))
      · have hPeer :
            (table.channels i).statusFlags.closeReceived =
              false := by
          cases hPeer :
              (table.channels i).statusFlags.closeReceived with
          | false => rfl
          | true =>
              have hReceived := hSafe hType hPeer
              rw [hNew] at hReceived
              cases hReceived
        have hOutput := hWell.eofReceived_eq hType
        rw [hNew] at hOutput
        have hUnsent := hWell.closeSent_eq
        rw [← hOutput] at hUnsent
        have hReceive :=
          @channelReceiveIeof_kept i _ [] table hBound hUse
            hLocal hType (hWell.eofSent_eq hType) hOutput.symm
            hUnsent hNew hPeer
        have hKept :
            (unopenedIeof
              (table.channels i)).statusFlags.terminate =
              false := by
          simp [unopenedIeof, kludgedUnopened,
            StatusFlags.terminate, hPeer]
        rw [setSlot_self, List.nil_append,
          ← closeSlot_of_goesOn hKept] at hReceive
        rw [hReceive]
        exact Moves.single (.react i hBound hUse
          (.ieofUnopened hType hNew hPeer))

/- Where it is not, the channel is freed twice. -/
theorem channelReceiveIeof_of_not_safe
    (hNot : ¬ SafeIeof (table.channels i)) :
    channelReceiveIeof i table = .error .assertion := by
  have hWell := hInv.wellFormed i hBound hUse
  simp only [SafeIeof, Classical.not_imp,
    Bool.not_eq_true] at hNot
  rcases hNot with ⟨hType, hPeer, hNew⟩
  have hOutput := hWell.eofReceived_eq hType
  rw [hNew] at hOutput
  have hUnsent := hWell.closeSent_eq
  rw [← hOutput] at hUnsent
  have hReceive :=
    @channelReceiveIeof_twice i _ [] table hBound hUse
      hWell.localId_eq hType (hWell.eofSent_eq hType)
      hOutput.symm hUnsent hNew hPeer
      (hWell.of_closeReceived hPeer)
  rwa [setSlot_self] at hReceive

/- The close of output, where it is safe. -/
theorem channelReceiveOclosed_moves
    (hSafe : SafeOclosed (table.channels i)) :
    Moves conf allowed table
      (channelReceiveOclosed i table) := by
  have hWell := hInv.wellFormed i hBound hUse
  have hLocal := hWell.localId_eq
  cases hNew :
      (table.channels i).statusFlags.closeReceived with
  | true =>
      rw [channelReceiveOclosed, if_pos hNew]
      exact Moves.disconnect _
  | false =>
      by_cases hClosed :
          (table.channels i).type = .opened ∨
            (table.channels i).statusFlags.inputSocketClosed =
              true
      · have hReceive :
            channelReceiveOclosed i
                (setSlot i (table.channels i) [] table) =
              .ok (closeSlot i (peerClosed (table.channels i))
                [] table) := by
          rcases hClosed with hType | hInput
          · exact channelReceiveOclosed_opened hBound hLocal
              hType hNew
          · exact channelReceiveOclosed_closed hBound hUse
              hLocal hInput hNew
        rw [setSlot_self] at hReceive
        rw [hReceive]
        exact Moves.single
          (.react i hBound hUse (.oclosed hClosed hNew))
      · push Not at hClosed
        rcases hClosed with ⟨hType, hInput⟩
        have hInput :
            (table.channels i).statusFlags.inputSocketClosed =
              false := by
          simpa using hInput
        have hUnsent := hWell.eofSent_eq hType
        rw [hInput] at hUnsent
        have hPeer :
            (table.channels i).statusFlags.eofReceived =
              false := by
          cases hPeer :
              (table.channels i).statusFlags.eofReceived with
          | false => rfl
          | true =>
              have hOther := hSafe hType hPeer
              simp [hNew, hInput] at hOther
        have hReceive :=
          @channelReceiveOclosed_kept i _ [] table hBound hUse
            hLocal hType hInput hUnsent hNew hPeer
        have hKept :
            (unopenedOclosed
              (table.channels i)).statusFlags.terminate =
              false := by
          simp [unopenedOclosed, peerClosed,
            StatusFlags.terminate, hPeer]
        rw [setSlot_self, List.nil_append,
          ← closeSlot_of_goesOn hKept] at hReceive
        rw [hReceive]
        exact Moves.single (.react i hBound hUse
          (.oclosedUnopened hType hNew hPeer))

/- A second end of output fails the assertion. -/
theorem channelReceiveOclosed_of_not_safe
    (hNot : ¬ SafeOclosed (table.channels i)) :
    channelReceiveOclosed i table = .error .assertion := by
  have hWell := hInv.wellFormed i hBound hUse
  simp only [SafeOclosed, Classical.not_imp, not_or,
    Bool.not_eq_true] at hNot
  rcases hNot with ⟨hType, hPeer, hNew, hInput⟩
  have hUnsent := hWell.eofSent_eq hType
  rw [hInput] at hUnsent
  have hOutput := hWell.eofReceived_eq hType
  rw [hPeer] at hOutput
  have hSent := hWell.closeSent_eq
  rw [← hOutput] at hSent
  have hReceive :=
    @channelReceiveOclosed_twice i _ [] table hBound hUse
      hWell.localId_eq hType hInput hUnsent hNew hPeer
      hOutput.symm hSent
  rwa [setSlot_self] at hReceive

end InUse

end Ssh1

------------------------------------------------------------
-- All Messages
------------------------------------------------------------

namespace Ssh1

variable {conf : ChannelConf}
variable {allowed : Nat → Channel → Prop}
variable {table : ChannelTable}

/- A channel number that is in use is that of a slot. -/
theorem channelInUse_eq_some
    {channel : Int}
    {i : Nat}
    (hFound : channelInUse channel table = some i) :
    i < table.channelsAlloc ∧ (table.channels i).InUse := by
  unfold channelInUse at hFound
  split at hFound
  · cases hFound
  · next hNot =>
      cases hFound
      push Not at hNot
      exact ⟨by omega, hNot.2.2⟩

/- The message is of type `CHANNEL_DATA`. -/
def ChannelMessage.IsData : ChannelMessage → Prop
| .data _ _ => True
| _ => False

/-
  The message is not the second of the two closing messages
  for a channel that is not open.
-/
def SafeMessage
    (table : ChannelTable) : ChannelMessage → Prop
| .inputEof channel =>
    ∀ i ∈ channelInUse channel table,
      SafeIeof (table.channels i)
| .outputClosed channel =>
    ∀ i ∈ channelInUse channel table,
      SafeOclosed (table.channels i)
| _ => True

/- The answer to a request for a connection to a port. -/
inductive PortAnswer
    (remoteChannel : Int)
    (table : ChannelTable) : ChannelTable → Prop where
  | refused :
      PortAnswer remoteChannel table
        (sendOpenFailure remoteChannel table)
  | confirmed
      (i : Nat)
      {sock : Int}
      {mid : ChannelTable}
      {ch : Channel}
      (hAllocates :
        ChannelTable.Allocates .opened sock table i mid)
      (hFresh : ch.IsFresh .opened i)
      (hRemote : ch.remoteId = remoteChannel)
      (hPlain : ch.isXConnection = false) :
      PortAnswer remoteChannel table
        (setSlot i ch
          [.sent (some i) (.openConfirmation remoteChannel i)]
          mid)

variable (hInv : TableInv conf table)

include hInv

/- Data of the peer. -/
theorem channelInputData_moves
    (hAllowed : ∀ i ch, allowed i ch)
    (channel : Int)
    (body : Buffer) :
    Moves conf allowed table
      (channelInputData channel body table) := by
  unfold channelInputData
  cases hFound : channelInUse channel table with
  | none => exact Moves.disconnect _
  | some i =>
      rcases channelInUse_eq_some hFound with ⟨hBound, hUse⟩
      have hGoesOn := hInv.goesOn i hBound hUse
      simp only
      split
      · exact Moves.refl
      · next hType =>
          have hType :
              (table.channels i).type = .opened ∨
                (table.channels i).type = .x11Open := by
            by_contra hOther
            exact hType (not_or.mp hOther)
          split
          · exact Moves.disconnect _
          · next hMore =>
              have hMore :
                  (table.channels i).statusFlags.eofReceived =
                    false := by
                simpa using hMore
              split
              · next hOpen =>
                  refine Moves.after
                    (bufferGetString_sound body) ?_
                  rintro ⟨data, rest⟩ -
                  have hOpen :
                      (table.channels
                        i).statusFlags.outputSocketClosed =
                        false := by
                    simpa using hOpen
                  rw [modify_eq_setSlot, record_setSlot]
                  exact Moves.react hBound hUse
                    (.data data (hAllowed _ _) hType hMore
                      hOpen) hGoesOn
              · next hClosed =>
                  have hClosed :
                      (table.channels
                        i).statusFlags.outputSocketClosed =
                        true := by
                    simpa using hClosed
                  have hRecord :=
                    @record_setSlot table i
                      (table.channels i) []
                      (.received i (bodyData body))
                  rw [setSlot_self] at hRecord
                  rw [hRecord]
                  exact Moves.react hBound hUse
                    (.passOver (bodyData body) (hAllowed _ _)
                      hType hMore hClosed) hGoesOn

/- A confirmation of the peer. -/
theorem channelInputOpenConfirmation_moves
    (channel remoteChannel : Int) :
    Moves conf allowed table
      (channelInputOpenConfirmation channel remoteChannel
        table) := by
  unfold channelInputOpenConfirmation
  split
  · exact Moves.disconnect _
  · next hOpening =>
      push Not at hOpening
      rcases hOpening with ⟨hLow, hHigh, hType⟩
      have hBound : channel.toNat < table.channelsAlloc := by
        omega
      have hUse : (table.channels channel.toNat).InUse := by
        simp [Channel.InUse, hType]
      rw [modify_eq_setSlot]
      exact Moves.react hBound hUse
        (.confirm remoteChannel hType)
        (hInv.goesOn _ hBound hUse)

/- A refusal of the peer. -/
omit hInv in
theorem channelInputOpenFailure_moves
    (channel : Int) :
    Moves conf allowed table
      (channelInputOpenFailure channel table) := by
  unfold channelInputOpenFailure
  split
  · exact Moves.disconnect _
  · next hOpening =>
      push Not at hOpening
      rcases hOpening with ⟨hLow, hHigh, hType⟩
      have hBound : channel.toNat < table.channelsAlloc := by
        omega
      have hUse : (table.channels channel.toNat).InUse := by
        simp [Channel.InUse, hType]
      rw [channelFree_eq_ok hBound hUse]
      exact Moves.single (.fail _ hBound hType)

/-
  A request for a port is answered, unless the packet with it
  is malformed or names a host that is too long.
-/
theorem channelInputPortOpen_answers
    {bad : Halt → Prop}
    (hString :
      ∀ buffer,
        FallibleRun.Ensures bad (bufferGetString buffer)
          fun _ => True)
    (hInt :
      ∀ buffer,
        FallibleRun.Ensures bad (bufferGetInt buffer)
          fun _ => True)
    (hLong :
      ∀ host,
        ¬ bad (.disconnect
          ("Requested forwarding hostname too long: " ++
            host ++ ".")))
    (remoteChannel : Int)
    (body : Buffer)
    (connection : Option Int) :
    FallibleRun.Ensures bad
      (channelInputPortOpen conf remoteChannel body connection
        table)
      (PortAnswer remoteChannel table) := by
  have hRefuse :
      PortAnswer remoteChannel table
        (sendOpenFailure remoteChannel table) :=
    .refused
  have hDecide :
      ∀ host hostPort,
        FallibleRun.Ensures bad
          (if ¬ conf.allOpensPermitted ∧
              (host, hostPort) ∉ conf.permittedOpens then
            .ok (sendOpenFailure remoteChannel table)
          else
            connection.elim
              (.ok (sendOpenFailure remoteChannel table))
              fun sock =>
                confirmOpen .opened sock false remoteChannel
                  table)
          (PortAnswer remoteChannel table) := by
    intro host hostPort
    split
    · exact hRefuse
    · cases connection with
      | none => exact hRefuse
      | some sock =>
          rcases channelAllocate_eq_ok sock
              (by simp : ChannelType.opened ≠ .free)
              hInv.counted with
            ⟨i, mid, hOk, hAllocates⟩
          have hFresh := hAllocates.new.isFresh
          simp only [Option.elim_some, confirmOpen]
          rw [hOk]
          exact .confirmed i hAllocates
            ⟨hFresh.1, hFresh.2, hFresh.3, hFresh.4,
              hFresh.5⟩ rfl rfl
  unfold channelInputPortOpen
  refine FallibleRun.Ensures.bind (hString body) ?_
  rintro ⟨host, rest⟩ -
  simp only
  split
  · exact hLong _
  · refine FallibleRun.Ensures.bind (hInt rest) ?_
    rintro ⟨port, rest⟩ -
    simp only
    split
    · refine FallibleRun.Ensures.bind (hString rest) ?_
      intro _ _
      cases connection <;> exact hDecide _ _
    · cases connection <;> exact hDecide _ _

/- An open of a port. -/
theorem channelInputPortOpen_moves
    (remoteChannel : Int)
    (body : Buffer)
    (connection : Option Int) :
    Moves conf allowed table
      (channelInputPortOpen conf remoteChannel body connection
        table) := by
  refine (channelInputPortOpen_answers hInv
    bufferGetString_sound bufferGetInt_sound
    (fun _ => not_breaksTable_disconnect _) remoteChannel body
    connection).mono ?_
  intro table' hAnswer
  cases hAnswer with
  | refused => exact .single (.refuse _)
  | confirmed i hAllocates hFresh hRemote hPlain =>
      rw [← hRemote]
      exact .single (.allocate i hAllocates hFresh
        (.confirmed (.inl hFresh.type_eq)))

/- An open of an X11 connection. -/
theorem x11InputOpen_moves
    (remoteChannel : Int)
    (body : Buffer)
    (connection : Option Int) :
    Moves conf allowed table
      (x11InputOpen conf remoteChannel body connection
        table) := by
  have hRefuse :
      Moves conf allowed table
        (.ok (sendOpenFailure remoteChannel table)) :=
    Moves.single (.refuse _)
  have hDecide :
      Moves conf allowed table
        (if ¬ conf.x11ForwardingPermitted then
          .ok (sendOpenFailure remoteChannel table)
        else
          connection.elim
            (.ok (sendOpenFailure remoteChannel table))
            fun sock =>
              if conf.x11Saved.isNone then
                confirmOpen .opened sock true remoteChannel
                  table
              else
                confirmOpen .x11Open sock true remoteChannel
                  table) := by
    split
    · exact hRefuse
    · cases connection with
      | none => exact hRefuse
      | some sock =>
          simp only [Option.elim_some]
          split
          · exact confirmOpen_moves hInv sock remoteChannel
              (.inl rfl)
          · next hSaved =>
              exact confirmOpen_moves hInv sock remoteChannel
                (.inr ⟨rfl, rfl, by simpa using hSaved⟩)
  unfold x11InputOpen
  cases hName : conf.haveHostnameInOpen with
  | true =>
      simp only [if_true]
      refine Moves.after (bufferGetString_sound body) ?_
      intro _ _
      cases connection <;> exact hDecide
  | false => cases connection <;> exact hDecide

/- An open of an agent connection. -/
theorem authInputOpenRequest_moves
    (remoteChannel : Int)
    (connection : Option Int) :
    Moves conf allowed table
      (authInputOpenRequest conf remoteChannel connection
        table) := by
  unfold authInputOpenRequest
  split
  · exact Moves.single (.refuse _)
  · cases connection with
    | none => exact Moves.single (.refuse _)
    | some sock =>
        exact confirmOpen_moves hInv sock remoteChannel
          (.inl rfl)

/- A message that is safe, by its cases. -/
theorem handleMessage_moves
    {message : ChannelMessage}
    (connection : Option Int)
    (hSafe : SafeMessage table message)
    (hData : message.IsData → ∀ i ch, allowed i ch) :
    Moves conf allowed table
      (handleMessage conf message connection table) := by
  cases message with
  | openConfirmation channel remoteChannel =>
      exact channelInputOpenConfirmation_moves hInv _ _
  | openFailure channel =>
      exact channelInputOpenFailure_moves _
  | data channel body =>
      exact channelInputData_moves hInv (hData trivial) _ _
  | inputEof channel =>
      simp only [handleMessage, channelIeof]
      cases hFound : channelInUse channel table with
      | none => exact Moves.disconnect _
      | some i =>
          rcases channelInUse_eq_some hFound with
            ⟨hBound, hUse⟩
          exact channelReceiveIeof_moves hInv hBound hUse
            (hSafe i hFound)
  | outputClosed channel =>
      simp only [handleMessage, channelOclosed]
      cases hFound : channelInUse channel table with
      | none => exact Moves.disconnect _
      | some i =>
          rcases channelInUse_eq_some hFound with
            ⟨hBound, hUse⟩
          exact channelReceiveOclosed_moves hInv hBound hUse
            (hSafe i hFound)
  | x11Open remoteChannel body =>
      exact x11InputOpen_moves hInv _ _ _
  | portOpen remoteChannel body =>
      exact channelInputPortOpen_moves hInv _ _ _
  | agentOpen remoteChannel =>
      exact authInputOpenRequest_moves hInv _ _

/- A message that is not safe makes an assertion fail. -/
theorem handleMessage_of_not_safe
    {message : ChannelMessage}
    (connection : Option Int)
    (hNot : ¬ SafeMessage table message) :
    handleMessage conf message connection table =
      .error .assertion := by
  cases message with
  | inputEof channel =>
      simp only [SafeMessage, not_forall] at hNot
      rcases hNot with ⟨i, hFound, hNot⟩
      rcases channelInUse_eq_some hFound with ⟨hBound, hUse⟩
      simp only [handleMessage, channelIeof]
      rw [Option.mem_def.mp hFound]
      exact channelReceiveIeof_of_not_safe hInv hBound hUse hNot
  | outputClosed channel =>
      simp only [SafeMessage, not_forall] at hNot
      rcases hNot with ⟨i, hFound, hNot⟩
      rcases channelInUse_eq_some hFound with ⟨hBound, hUse⟩
      simp only [handleMessage, channelOclosed]
      rw [Option.mem_def.mp hFound]
      exact channelReceiveOclosed_of_not_safe hInv hBound hUse
        hNot
  | openConfirmation channel remoteChannel =>
      exact absurd trivial hNot
  | openFailure channel => exact absurd trivial hNot
  | data channel body => exact absurd trivial hNot
  | x11Open remoteChannel body => exact absurd trivial hNot
  | portOpen remoteChannel body => exact absurd trivial hNot
  | agentOpen remoteChannel => exact absurd trivial hNot

end Ssh1

------------------------------------------------------------
-- Safety of the Table
------------------------------------------------------------

namespace Ssh1

/- The event is not an unsafe message. -/
def ChannelEvent.Safe
    (table : ChannelTable) : ChannelEvent → Prop
| message m _ => SafeMessage table m
| _ => True

/- The event brings data of the peer. -/
def ChannelEvent.IsData : ChannelEvent → Prop
| message m _ => m.IsData
| _ => False

/- Every slot may be read from at any time. -/
abbrev anySlot : Nat → Channel → Prop :=
  fun _ _ => True

variable {conf : ChannelConf}
variable {table table' : ChannelTable}

theorem mem_range_of_mem_takeWhile
    {p : Nat → Bool}
    {i n : Nat}
    (hMem : i ∈ (List.range n).takeWhile p) :
    i < n :=
  List.mem_range.mp
    ((List.takeWhile_sublist p).subset hMem)

/- By the rule for a loop over the slots. -/
theorem channelPrepareSelect_loops
    {bad : Halt → Prop}
    (hInv : TableInv conf table) :
    FallibleRun.Ensures bad (channelPrepareSelect conf table)
      fun result =>
        LocalSteps conf anySlot table result.1 := by
  have hTurn :
      ∀ (state : ChannelTable × FdSets) i,
        TableInv conf state.1 → i < state.1.channelsAlloc →
        FallibleRun.Ensures bad (prepareSlot conf state i)
          fun result =>
            LocalSteps conf anySlot state.1 result.1 := by
    intro state i hNow hBound
    exact (prepareSlot_loops hNow hBound state.2).mono
      fun _ hMoves => hMoves.1
  exact run_loops Prod.fst hTurn _ hInv
    fun i hi => List.mem_range.mp hi

/- So it is for sending what was read. -/
theorem channelOutputPoll_loops
    {bad : Halt → Prop}
    {allowed : Nat → Channel → Prop}
    (hInv : TableInv conf table)
    (notVeryMuch : Nat → Bool) :
    Loops bad conf allowed table
      (channelOutputPoll conf notVeryMuch table) :=
  run_loops id
    (fun _ _ hNow hBound => outputSlot_loops hNow hBound)
    _ hInv fun _ hi => mem_range_of_mem_takeWhile hi

/-
  Every safe event takes the table some steps further, and
  only a message with data takes in data.
-/
theorem ChannelEvent.step_moves
    {allowed : Nat → Channel → Prop}
    (hInv : TableInv conf table)
    {event : ChannelEvent}
    (hSafe : event.Safe table)
    (hData : event.IsData → ∀ i ch, allowed i ch) :
    Moves conf allowed table (event.step conf table) := by
  cases event with
  | message m connection =>
      exact handleMessage_moves hInv connection hSafe hData
  | prepareSelect =>
      refine FallibleRun.Ensures.bind
        (channelPrepareSelect_loops hInv) ?_
      rintro ⟨table', sets⟩ hSteps
      exact hSteps.tableSteps
  | afterSelect io =>
      have hTurn :
          ∀ table i, TableInv conf table →
            i < table.channelsAlloc →
            Loops Halt.BreaksTable conf anySlot table
              (afterSlot conf io table i) :=
        fun table i hNow hBound =>
          afterSlot_loops hNow io hBound fun _ _ => trivial
      exact Loops.moves (run_loops id hTurn _ hInv
        fun i hi => List.mem_range.mp hi)
  | outputPoll notVeryMuch =>
      have hLoops :
          Loops Halt.BreaksTable conf anySlot table
            (channelOutputPoll conf notVeryMuch table) :=
        channelOutputPoll_loops hInv _
      exact hLoops.moves
  | listenPort port host hostPort socket =>
      exact channelRequestLocalForwarding_moves hInv _ _ _ _
  | listenX11 sock =>
      exact createListener_moves hInv sock [] (.inl rfl)
  | listenAuth sock path =>
      exact createListener_moves hInv sock path (.inr rfl)

/- An unsafe message always fails the assertion. -/
theorem ChannelEvent.step_of_not_safe
    (hInv : TableInv conf table)
    {event : ChannelEvent}
    (hNot : ¬ event.Safe table) :
    event.step conf table = .error .assertion := by
  cases event with
  | message m connection =>
      exact handleMessage_of_not_safe hInv connection hNot
  | prepareSelect => exact absurd trivial hNot
  | afterSelect io => exact absurd trivial hNot
  | outputPoll notVeryMuch => exact absurd trivial hNot
  | listenPort port host hostPort socket =>
      exact absurd trivial hNot
  | listenX11 sock => exact absurd trivial hNot
  | listenAuth sock path => exact absurd trivial hNot

/- An event that does not fail was a safe one. -/
theorem ChannelEvent.step_steps
    {allowed : Nat → Channel → Prop}
    (hInv : TableInv conf table)
    {event : ChannelEvent}
    (hData : event.IsData → ∀ i ch, allowed i ch)
    (hStep : event.step conf table = .ok table') :
    TableSteps conf allowed table table' := by
  by_cases hSafe : event.Safe table
  · have hMoves := step_moves hInv hSafe hData
    rwa [hStep] at hMoves
  · rw [step_of_not_safe hInv hSafe] at hStep
    cases hStep

/- One call keeps the invariant. -/
theorem ChannelEvent.step_inv
    (hInv : TableInv conf table)
    {event : ChannelEvent}
    (hStep : event.step conf table = .ok table') :
    TableInv conf table' := by
  have hSteps : TableSteps conf anySlot table table' :=
    step_steps hInv (fun _ _ _ => trivial) hStep
  exact hSteps.inv hInv

/- The unsafe events are exactly those that break the table. -/
theorem ChannelEvent.safe_iff
    (hInv : TableInv conf table)
    (event : ChannelEvent) :
    event.Safe table ↔
      ∀ halt, event.step conf table = .error halt →
        ¬ halt.BreaksTable := by
  constructor
  · intro hSafe
    have hMoves :
        Moves conf anySlot table (event.step conf table) :=
      step_moves hInv hSafe fun _ _ _ => trivial
    exact (FallibleRun.ensures_iff.mp hMoves).2
  · intro hOrderly
    by_contra hNot
    exact hOrderly .assertion (step_of_not_safe hInv hNot)
      (.inl trivial)

/-
  Every table that is reached counts its channels right, and
  a run breaks the table exactly when one of its messages is
  not safe.
-/
theorem channelTable_safe_iff
    (conf : ChannelConf)
    (memory : Nat → Channel)
    (events : List ChannelEvent) :
    (∀ table,
      FallibleRun.run (ChannelEvent.step conf)
          (.initial memory) events = .ok table →
        table.Counted) ∧
    ((∀ halt,
        FallibleRun.run (ChannelEvent.step conf)
            (.initial memory) events = .error halt →
          ¬ halt.BreaksTable) ↔
      FallibleRun.Meets (ChannelEvent.step conf)
        (fun table event => event.Safe table)
        (.initial memory) events) := by
  constructor
  · intro table hRun
    exact (FallibleRun.run_invariant
      (fun _ _ _ hInv hStep =>
        ChannelEvent.step_inv hInv hStep)
      (TableInv.initial conf memory) hRun).counted
  · exact FallibleRun.run_forall_iff_meets
      (fun _ _ _ hInv _ hStep =>
        ChannelEvent.step_inv hInv hStep)
      (fun _ event hInv => ChannelEvent.safe_iff hInv event)
      events (TableInv.initial conf memory)

/- A client that forwards no X11 or agent connections. -/
def plainConf : ChannelConf where
  maxPacketSize := 262144
  interactive := true
  haveHostnameInOpen := false
  allOpensPermitted := true
  permittedOpens := []
  x11ForwardingPermitted := false
  authForwardingPermitted := false
  x11Saved := none

/- Memory before anything is allocated in it. -/
def clearedMemory : Nat → Channel :=
  fun _ =>
    { type := .free
      sock := 0
      remoteId := 0
      localId := 0
      statusFlags := .clear
      input := []
      output := []
      path := []
      hostPort := 0
      listeningPort := 0
      isXConnection := false }

/- Two messages of the peer free a listener twice. -/
theorem channelTable_freed_twice :
    FallibleRun.run (ChannelEvent.step plainConf)
        (.initial clearedMemory)
        [.listenPort 2001 [104] 25 (.ok 5),
          .message (.outputClosed 0) none,
          .message (.inputEof 0) none] =
      .error .assertion := by
  decide +kernel

end Ssh1
