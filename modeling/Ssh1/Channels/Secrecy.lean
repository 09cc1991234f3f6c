import Ssh1.Channels.AlikeTables

/-
  Where the real authentication data can be.

  Two runs on the same events whose real data differ do the
  same: they send the same messages, and every buffer is the
  same but those for an X server to which a genuine first
  packet has come. So the real data is in none of the others.

  Main declarations:
    * `ChannelEvent.step_alike`
    * `x11_real_data_confined`
-/

------------------------------------------------------------
-- Messages
------------------------------------------------------------

namespace Ssh1

namespace ChannelTable.Alike

variable {table table' : ChannelTable}
variable (hAlike : table.Alike table')
variable {auth auth' : X11Auth}
variable (conf : ChannelConf)

include hAlike

/- The peer's data meets alike tables. -/
theorem channelInputData
    (channel : Int)
    (body : Buffer) :
    AlikeOutcomes (channelInputData channel body table)
      (Ssh1.channelInputData channel body table') := by
  unfold Ssh1.channelInputData
  rw [hAlike.channelInUse_eq]
  cases channelInUse channel table with
  | none => exact .error _
  | some i =>
      simp only [(hAlike.channels i).type_eq,
        (hAlike.channels i).statusFlags_eq]
      apply FallibleRun.Agree.ite
      · intro _
        exact hAlike
      · intro _
        apply FallibleRun.Agree.ite
        · intro _
          exact .error _
        · intro _
          apply FallibleRun.Agree.ite
          · intro _
            apply FallibleRun.Agree.bind_same
            rintro ⟨data, rest⟩
            apply ChannelTable.Alike.record
            · apply hAlike.modify
              refine ⟨?_, ?_, ?_⟩
              · rw [(hAlike.channels i).same]
              · simp only [bufferAppend, List.length_append,
                  (hAlike.channels i).length_eq]
              · intro hHeld
                simp only [(hAlike.channels i).held hHeld]
            · exact .same _
          · intro _
            exact hAlike.record (.same _)

/- The same open is confirmed on both sides. -/
theorem channelInputOpenConfirmation
    (channel remoteChannel : Int) :
    AlikeOutcomes
      (channelInputOpenConfirmation channel remoteChannel table)
      (Ssh1.channelInputOpenConfirmation channel remoteChannel
        table') := by
  unfold Ssh1.channelInputOpenConfirmation
  simp only [hAlike.channelsAlloc_eq,
    (hAlike.channels _).type_eq]
  apply FallibleRun.Agree.ite
  · intro _
    exact .error _
  · intro _
    exact hAlike.change channel.toNat
      (fun ch =>
        { ch with remoteId := remoteChannel, type := .opened })
      (fun _ _ => rfl) nofun

/- The same open is refused on both sides. -/
theorem channelInputOpenFailure
    (channel : Int) :
    AlikeOutcomes (channelInputOpenFailure channel table)
      (Ssh1.channelInputOpenFailure channel table') := by
  unfold Ssh1.channelInputOpenFailure
  simp only [hAlike.channelsAlloc_eq,
    (hAlike.channels _).type_eq]
  apply FallibleRun.Agree.ite
  · intro _
    exact .error _
  · intro _
    exact hAlike.channelFree channel.toNat

/- The refusal that is sent holds no secret. -/
theorem sendOpenFailure
    (remoteChannel : Int) :
    (sendOpenFailure remoteChannel table).Alike
      (Ssh1.sendOpenFailure remoteChannel table') :=
  hAlike.record (.same _)

/- The channel that the peer asked for is the same. -/
theorem confirmOpen
    (type : ChannelType)
    (sock : Int)
    (isX : Bool)
    (remoteChannel : Int) :
    AlikeOutcomes
      (confirmOpen type sock isX remoteChannel table)
      (Ssh1.confirmOpen type sock isX remoteChannel
        table') := by
  unfold Ssh1.confirmOpen
  apply (hAlike.channelAllocate type sock).bind
  rintro ⟨newch, mid⟩ ⟨newch', mid'⟩ ⟨hNew, hMid⟩
  simp only at hNew hMid ⊢
  subst hNew
  apply ChannelTable.Alike.channelSend
  exact hMid.change newch'
    (fun ch =>
      { ch with remoteId := remoteChannel, isXConnection := isX })
    (fun _ _ => rfl) id

/- The answer to a request that may be refused. -/
theorem answer
    (remoteChannel : Int)
    (connection : Option Int)
    {opens opens' : Int → Outcome ChannelTable}
    (hOpens : ∀ sock, AlikeOutcomes (opens sock) (opens' sock)) :
    AlikeOutcomes
      (match connection with
        | none =>
            return Ssh1.sendOpenFailure remoteChannel table
        | some sock => opens sock)
      (match connection with
        | none =>
            return Ssh1.sendOpenFailure remoteChannel table'
        | some sock => opens' sock) := by
  cases connection with
  | none => exact hAlike.sendOpenFailure remoteChannel
  | some sock => exact hOpens sock

/- An open of a port is answered alike. -/
theorem channelInputPortOpen
    (remoteChannel : Int)
    (body : Buffer)
    (connection : Option Int) :
    AlikeOutcomes
      (channelInputPortOpen (conf.saving auth) remoteChannel
        body connection table)
      (Ssh1.channelInputPortOpen (conf.saving auth')
        remoteChannel body connection table') := by
  unfold Ssh1.channelInputPortOpen
  apply FallibleRun.Agree.bind_same
  rintro ⟨host, rest⟩
  apply FallibleRun.Agree.ite
  · intro _
    exact .error _
  · intro _
    apply FallibleRun.Agree.bind_same
    rintro ⟨port, rest'⟩
    have hAnswer :
        AlikeOutcomes
          (if ¬ conf.allOpensPermitted ∧
              (cString host, toInt32 port) ∉
                conf.permittedOpens then
            return Ssh1.sendOpenFailure remoteChannel table
          else
            match connection with
            | none =>
                return Ssh1.sendOpenFailure remoteChannel table
            | some sock =>
                Ssh1.confirmOpen .opened sock false
                  remoteChannel table)
          (if ¬ conf.allOpensPermitted ∧
              (cString host, toInt32 port) ∉
                conf.permittedOpens then
            return Ssh1.sendOpenFailure remoteChannel table'
          else
            match connection with
            | none =>
                return Ssh1.sendOpenFailure remoteChannel table'
            | some sock =>
                Ssh1.confirmOpen .opened sock false
                  remoteChannel table') := by
      apply FallibleRun.Agree.ite
      · intro _
        exact hAlike.sendOpenFailure remoteChannel
      · intro _
        apply hAlike.answer
        intro sock
        exact hAlike.confirmOpen _ _ _ _
    apply FallibleRun.Agree.ite
    · intro _
      apply FallibleRun.Agree.bind_same
      intro _
      exact hAnswer
    · intro _
      exact hAnswer

/- An open of an X11 connection is answered alike. -/
theorem x11InputOpen
    (remoteChannel : Int)
    (body : Buffer)
    (connection : Option Int) :
    AlikeOutcomes
      (x11InputOpen (conf.saving auth) remoteChannel body
        connection table)
      (Ssh1.x11InputOpen (conf.saving auth') remoteChannel
        body connection table') := by
  unfold Ssh1.x11InputOpen
  have hAnswer :
      AlikeOutcomes
        (if ¬ conf.x11ForwardingPermitted then
          return Ssh1.sendOpenFailure remoteChannel table
        else
          match connection with
          | none =>
              return Ssh1.sendOpenFailure remoteChannel table
          | some sock =>
              Ssh1.confirmOpen .x11Open sock true remoteChannel
                table)
        (if ¬ conf.x11ForwardingPermitted then
          return Ssh1.sendOpenFailure remoteChannel table'
        else
          match connection with
          | none =>
              return Ssh1.sendOpenFailure remoteChannel table'
          | some sock =>
              Ssh1.confirmOpen .x11Open sock true remoteChannel
                table') := by
    apply FallibleRun.Agree.ite
    · intro _
      exact hAlike.sendOpenFailure remoteChannel
    · intro _
      apply hAlike.answer
      intro sock
      exact hAlike.confirmOpen _ _ _ _
  apply FallibleRun.Agree.ite
  · intro _
    apply FallibleRun.Agree.bind_same
    intro _
    exact hAnswer
  · intro _
    exact hAnswer

/- An open of an agent connection is answered alike. -/
theorem authInputOpenRequest
    (remoteChannel : Int)
    (connection : Option Int) :
    AlikeOutcomes
      (authInputOpenRequest (conf.saving auth) remoteChannel
        connection table)
      (Ssh1.authInputOpenRequest (conf.saving auth')
        remoteChannel connection table') := by
  unfold Ssh1.authInputOpenRequest
  apply FallibleRun.Agree.ite
  · intro _
    exact hAlike.sendOpenFailure remoteChannel
  · intro _
    apply hAlike.answer
    intro sock
    exact hAlike.confirmOpen _ _ _ _

/- Whatever the message is, by its cases. -/
theorem handleMessage
    (message : ChannelMessage)
    (connection : Option Int) :
    AlikeOutcomes
      (handleMessage (conf.saving auth) message connection
        table)
      (Ssh1.handleMessage (conf.saving auth') message
        connection table') := by
  cases message with
  | openConfirmation channel remoteChannel =>
      exact hAlike.channelInputOpenConfirmation channel
        remoteChannel
  | openFailure channel =>
      exact hAlike.channelInputOpenFailure channel
  | data channel body =>
      exact hAlike.channelInputData channel body
  | inputEof channel => exact hAlike.channelIeof channel
  | outputClosed channel => exact hAlike.channelOclosed channel
  | x11Open remoteChannel body =>
      exact hAlike.x11InputOpen conf remoteChannel body
        connection
  | portOpen remoteChannel body =>
      exact hAlike.channelInputPortOpen conf remoteChannel body
        connection
  | agentOpen remoteChannel =>
      exact hAlike.authInputOpenRequest conf remoteChannel
        connection

theorem channelRequestLocalForwarding
    (port : Int)
    (host : List UInt8)
    (hostPort : Int)
    (socket : Except String Int) :
    AlikeOutcomes
      (channelRequestLocalForwarding port host hostPort socket
        table)
      (Ssh1.channelRequestLocalForwarding port host hostPort
        socket table') := by
  unfold Ssh1.channelRequestLocalForwarding
  apply FallibleRun.Agree.ite
  · intro _
    exact .error _
  · intro _
    cases socket with
    | error message => exact .error _
    | ok sock =>
        apply (hAlike.channelAllocate .portListener sock).bind
        rintro ⟨newch, mid⟩ ⟨newch', mid'⟩ ⟨hNew, hMid⟩
        simp only at hNew hMid ⊢
        subst hNew
        exact hMid.change newch'
          (fun ch =>
            { ch with
              path := host
              hostPort
              listeningPort := port })
          (fun _ _ => rfl) id

/- A listener of either kind is the same on both sides. -/
theorem createListener
    (type : ChannelType)
    (sock : Int)
    (path : List UInt8) :
    AlikeOutcomes (createListener type sock path table)
      (Ssh1.createListener type sock path table') := by
  unfold Ssh1.createListener
  apply (hAlike.channelAllocate type sock).bind
  rintro ⟨newch, mid⟩ ⟨newch', mid'⟩ ⟨hNew, hMid⟩
  simp only at hNew hMid ⊢
  subst hNew
  exact hMid.change newch' (fun ch => { ch with path })
    (fun _ _ => rfl) id

end ChannelTable.Alike

end Ssh1

------------------------------------------------------------
-- Runs
------------------------------------------------------------

namespace Ssh1

variable {auth auth' : X11Auth}
variable {conf : ChannelConf}
variable {table table' : ChannelTable}

/- Events do the same to tables that are alike. -/
theorem ChannelEvent.step_alike
    (hFake : auth.SameFake auth')
    (hAlike : table.Alike table')
    (event : ChannelEvent) :
    AlikeOutcomes (event.step (conf.saving auth) table)
      (event.step (conf.saving auth') table') := by
  cases event with
  | message m connection =>
      exact hAlike.handleMessage conf m connection
  | prepareSelect =>
      apply (hAlike.channelPrepareSelect hFake conf).bind
      rintro ⟨mid, sets⟩ ⟨mid', sets'⟩ ⟨hMid, -⟩
      exact hMid
  | afterSelect io => exact hAlike.channelAfterSelect conf io
  | outputPoll notVeryMuch =>
      exact hAlike.channelOutputPoll conf notVeryMuch
  | listenPort port host hostPort socket =>
      exact hAlike.channelRequestLocalForwarding port host
        hostPort socket
  | listenX11 sock =>
      exact hAlike.createListener .x11Listener sock []
  | listenAuth sock path =>
      exact hAlike.createListener .authListener sock path

/- The messages of a run, and the slots they are about. -/
def messagesOf
    (effects : List ChannelEffect) :
    List (Option Nat × ChannelMessage) :=
  effects.filterMap fun
    | .sent sender message => some (sender, message)
    | _ => none

/- What has come is the same, and as much is written. -/
structure Relay.Alike (relay relay' : Relay) : Prop where
  type_eq : relay'.type = relay.type
  received_eq : relay'.received = relay.received
  length_eq : relay'.written.length = relay.written.length

/- One effect leaves the journals of the relay alike. -/
theorem Relay.next_alike
    {i : Nat}
    {old old' : Option Relay}
    {e e' : ChannelEffect}
    (hOld : Option.Rel Relay.Alike old old')
    (hEffect : e.Alike e') :
    Option.Rel Relay.Alike (Relay.next i old e)
      (Relay.next i old' e') := by
  cases hEffect with
  | wrote j hLength =>
      unfold Relay.next
      by_cases hj : j = i
      · simp only [hj, if_true]
        cases hOld with
        | none => exact .none
        | some hRelay =>
            apply Option.Rel.some
            refine ⟨hRelay.type_eq, hRelay.received_eq, ?_⟩
            simp only [List.length_append, hRelay.length_eq,
              hLength]
      · simp only [hj, if_false]
        exact hOld
  | same =>
      cases e with
      | allocated j type =>
          unfold Relay.next
          by_cases hj : j = i
          · simp only [hj, if_true]
            exact .some ⟨rfl, rfl, rfl⟩
          · simp only [hj, if_false]
            exact hOld
      | freed j =>
          unfold Relay.next
          by_cases hj : j = i
          · simp only [hj, if_true]
            exact .none
          · simp only [hj, if_false]
            exact hOld
      | sent sender message => exact hOld
      | received j data =>
          unfold Relay.next
          by_cases hj : j = i
          · simp only [hj, if_true]
            cases hOld with
            | none => exact .none
            | some hRelay =>
                apply Option.Rel.some
                refine ⟨hRelay.type_eq, ?_, hRelay.length_eq⟩
                simp only [hRelay.received_eq]
          · simp only [hj, if_false]
            exact hOld
      | wrote j data =>
          unfold Relay.next
          by_cases hj : j = i
          · simp only [hj, if_true]
            cases hOld with
            | none => exact .none
            | some hRelay =>
                apply Option.Rel.some
                refine ⟨hRelay.type_eq, hRelay.received_eq, ?_⟩
                simp only [List.length_append,
                  hRelay.length_eq]
          · simp only [hj, if_false]
            exact hOld

/- By induction on the effects of the run. -/
theorem relayOf_alike
    {effects effects' : List ChannelEffect}
    (hEffects :
      List.Forall₂ ChannelEffect.Alike effects effects')
    (i : Nat) :
    Option.Rel Relay.Alike (relayOf i effects)
      (relayOf i effects') := by
  have hFold :
      ∀ old old', Option.Rel Relay.Alike old old' →
        Option.Rel Relay.Alike
          (effects.foldl (Relay.next i) old)
          (effects'.foldl (Relay.next i) old') := by
    induction hEffects with
    | nil =>
        intro old old' hOld
        exact hOld
    | cons hEffect _ ih =>
        intro old old' hOld
        exact ih _ _ (Relay.next_alike hOld hEffect)
  exact hFold none none .none

/- The messages hold no secret: they are the same. -/
theorem messagesOf_alike
    {effects effects' : List ChannelEffect}
    (hEffects :
      List.Forall₂ ChannelEffect.Alike effects effects') :
    messagesOf effects' = messagesOf effects := by
  unfold messagesOf
  induction hEffects with
  | nil => rfl
  | cons hEffect _ ih =>
      cases hEffect with
      | same e => simp only [List.filterMap_cons, ih]
      | wrote i hLength => simpa using ih

/-
  What a channel holds for its socket follows from what has
  come and how much is written, unless the real data is in
  it.
-/
theorem Relaying.output_eq
    {i : Nat}
    {conf conf' : ChannelConf}
    {ch ch' : Channel}
    {relay relay' : Relay}
    (hRelaying : Relaying auth ch relay)
    (hRelaying' : Relaying auth' ch' relay')
    (hWell : ch.WellFormed conf i)
    (hWell' : ch'.WellFormed conf' i)
    (hAlike : ch.Alike ch')
    (hRelay : relay.Alike relay')
    (hNot :
      relay.type = .x11Open → ¬ auth.Genuine relay.received) :
    ch'.output = ch.output := by
  have hFlags := hAlike.statusFlags_eq
  have hTypes := hAlike.type_eq
  cases hClosed : ch.statusFlags.outputSocketClosed with
  | true =>
      rw [hWell.of_outputClosed hClosed]
      apply hWell'.of_outputClosed
      rw [hFlags]
      exact hClosed
  | false =>
      cases hRelaying with
      | waiting hOrigin hType => exact hAlike.held hType
      | closed hUse hType hOther =>
          simp [hClosed] at hOther
      | passing hUse hType hCleared hKept =>
          have hOther : relay.type ≠ .x11Open :=
            fun hX11 => hNot hX11 (hCleared hX11)
          cases hRelaying' with
          | waiting hOrigin hType' =>
              rw [hRelay.type_eq] at hOrigin
              exact absurd hOrigin hOther
          | closed hUse' hType' hOther' =>
              simp [hFlags, hClosed] at hOther'
          | passing hUse' hType' hCleared' hKept' =>
              have hOther' : relay'.type ≠ .x11Open := by
                rw [hRelay.type_eq]
                exact hOther
              rw [Relay.stream, if_neg hOther] at hKept
              rw [Relay.stream, if_neg hOther',
                hRelay.received_eq, ← hKept] at hKept'
              exact List.append_inj_right hKept'
                hRelay.length_eq

/-
  With any other real data a run does the same. It sends the
  same messages, and every channel is the same unless it was
  created for an X11 connection and a genuine first packet
  has come for it.
-/
theorem x11_real_data_confined
    (hFake : auth.SameFake auth')
    {memory : Nat → Channel}
    {events : List ChannelEvent}
    (hRun :
      FallibleRun.run (ChannelEvent.step (conf.saving auth))
        (.initial memory) events = .ok table) :
    ∃ table',
      FallibleRun.run (ChannelEvent.step (conf.saving auth'))
          (.initial memory) events = .ok table' ∧
        messagesOf table'.effects = messagesOf table.effects ∧
        (∀ i,
          (table'.channels i).input =
            (table.channels i).input) ∧
        ∀ i relay, relayOf i table.effects = some relay →
          (relay.type = .x11Open →
            ¬ auth.Genuine relay.received) →
          table'.channels i = table.channels i := by
  have hAgree :
      AlikeOutcomes
        (FallibleRun.run
          (ChannelEvent.step (conf.saving auth))
          (.initial memory) events)
        (FallibleRun.run
          (ChannelEvent.step (conf.saving auth'))
          (.initial memory) events) :=
    FallibleRun.Agree.run
      (fun _ _ event hAlike => event.step_alike hFake hAlike)
      events (.refl _)
  rw [hRun] at hAgree
  rcases hAgree.exists_ok with ⟨table', hRun', hAlike⟩
  refine ⟨table', hRun', messagesOf_alike hAlike.effects,
    fun i => (hAlike.channels i).input_eq, ?_⟩
  intro i relay hRelay hNot
  have hRelays := relayOf_alike hAlike.effects i
  rw [hRelay] at hRelays
  generalize hNow : relayOf i table'.effects = now at hRelays
  cases hRelays with
  | some hSame =>
      have hSaved :
          ∀ saved ∈ (conf.saving auth).x11Saved,
            saved = auth := by
        simp
      have hSaved' :
          ∀ saved ∈ (conf.saving auth').x11Saved,
            saved = auth' := by
        simp
      rcases run_relayInv hSaved hRun with ⟨hTable, hInv⟩
      rcases run_relayInv hSaved' hRun' with
        ⟨hTable', hInv'⟩
      rcases hInv.relaying i _ hRelay with
        ⟨hBound, hRelaying⟩
      rcases hInv'.relaying i _ hNow with
        ⟨hBound', hRelaying'⟩
      have hOutput :=
        hRelaying.output_eq hRelaying'
          (hTable.wellFormed i hBound hRelaying.inUse)
          (hTable'.wellFormed i hBound' hRelaying'.inUse)
          (hAlike.channels i) hSame hNot
      rw [(hAlike.channels i).same, hOutput]

/- The same client with another byte of real data. -/
def otherAuth : X11Auth :=
  { sampleAuth with savedData := [200], length_eq := rfl }

/- A connection with the wrong data is rejected alike. -/
theorem x11_real_data_confined_sample :
    ∃ table table',
      FallibleRun.run
          (ChannelEvent.step (sampleX11Conf.saving sampleAuth))
          (.initial clearedMemory) (sampleX11Run 6) =
        .ok table ∧
      FallibleRun.run
          (ChannelEvent.step (sampleX11Conf.saving otherAuth))
          (.initial clearedMemory) (sampleX11Run 6) =
        .ok table' ∧
      table'.channels 0 = table.channels 0 := by
  cases hRun :
      FallibleRun.run
        (ChannelEvent.step (sampleX11Conf.saving sampleAuth))
        (.initial clearedMemory) (sampleX11Run 6) with
  | error halt =>
      have hRuns :
          (FallibleRun.run
            (ChannelEvent.step
              (sampleX11Conf.saving sampleAuth))
            (.initial clearedMemory)
            (sampleX11Run 6)).isOk = true := by
        decide +kernel
      rw [hRun] at hRuns
      cases hRuns
  | ok table =>
      have hRelays :
          (FallibleRun.run
              (ChannelEvent.step
                (sampleX11Conf.saving sampleAuth))
              (.initial clearedMemory)
              (sampleX11Run 6)).toOption.bind
              (fun table => relayOf 0 table.effects) =
            some
              { type := .x11Open
                received := samplePacket 6
                written := [] } := by
        decide +kernel
      rw [hRun] at hRelays
      have hFake : sampleAuth.SameFake otherAuth := ⟨rfl, rfl⟩
      rcases x11_real_data_confined hFake hRun with
        ⟨table', hRun', -, -, hSame⟩
      refine ⟨table, table', rfl, hRun', ?_⟩
      apply hSame 0 _ hRelays
      intro _ hGenuine
      have hData := hGenuine.data
      revert hData
      decide

end Ssh1
