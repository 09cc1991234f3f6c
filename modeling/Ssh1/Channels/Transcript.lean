import Ssh1.Channels.Safety

/-
  What comes for the channels, and what they do.

  The data of the peer is read off the messages of a run, and
  not off what the code notes of it. The rest of a transcript
  is what the code does: the channels that it creates and
  frees, the messages it sends and the bytes it writes to the
  sockets.

  Main declarations:
    * `ChannelEvent.brings`, `deeds`
    * `transcript`
    * `run_effects`
-/

------------------------------------------------------------
-- What Comes
------------------------------------------------------------

namespace Ssh1

/- A channel that is open, also for X11, takes data. -/
def Channel.TakesData (ch : Channel) : Prop :=
  ch.type = .opened ∨ ch.type = .x11Open

instance (ch : Channel) : Decidable ch.TakesData :=
  inferInstanceAs (Decidable (_ ∨ _))

/-
  The data that an event brings, and the slot it is for. Data
  for a channel that is not open is not for the connection
  in the slot.
-/
def ChannelEvent.brings
    (table : ChannelTable) :
    ChannelEvent → List ChannelEffect
| message (.data channel body) _ =>
    match channelInUse channel table with
    | none => []
    | some i =>
        if (table.channels i).TakesData then
          [.received i (bodyData body)]
        else
          []
| _ => []

/- The code notes that data has come. -/
def ChannelEffect.isReceived : ChannelEffect → Bool
| received _ _ => true
| _ => false

/- What the code does in a step, less what it notes. -/
def deeds
    (table table' : ChannelTable) : List ChannelEffect :=
  (table'.effects.drop table.effects.length).filter
    fun e => ! e.isReceived

/- What comes in a run, and what is done in it. -/
def transcript
    (conf : ChannelConf)
    (table : ChannelTable) :
    List ChannelEvent → List ChannelEffect
| [] => []
| event :: events =>
    match event.step conf table with
    | .error _ => []
    | .ok table' =>
        event.brings table ++ deeds table table' ++
          transcript conf table' events

variable {table table' : ChannelTable}
variable {es : List ChannelEffect}

/- What was received is not among the deeds. -/
theorem deeds_of_effects
    (hEffects : table'.effects = table.effects ++ es) :
    deeds table table' = es.filter fun e => ! e.isReceived := by
  rw [deeds, hEffects, List.drop_left]

/- Only a message of data brings data. -/
theorem ChannelEvent.brings_of_not_data
    {event : ChannelEvent}
    (hNot : ¬ event.IsData) :
    event.brings table = [] := by
  cases event with
  | message m connection =>
      cases m with
      | data channel body => exact absurd trivial hNot
      | openConfirmation channel remoteChannel => rfl
      | openFailure channel => rfl
      | inputEof channel => rfl
      | outputClosed channel => rfl
      | x11Open remoteChannel body => rfl
      | portOpen remoteChannel body => rfl
      | agentOpen remoteChannel => rfl
  | prepareSelect => rfl
  | afterSelect io => rfl
  | outputPoll notVeryMuch => rfl
  | listenPort port host hostPort socket => rfl
  | listenX11 sock => rfl
  | listenAuth sock path => rfl

end Ssh1

------------------------------------------------------------
-- Steps Without Data
------------------------------------------------------------

namespace Ssh1

/- The code notes no data of the peer. -/
def Quiet (table table' : ChannelTable) : Prop :=
  ∃ es, table'.effects = table.effects ++ es ∧
    ∀ e ∈ es, e.isReceived = false

/- No slot takes data. -/
abbrev noSlot : Nat → Channel → Prop :=
  fun _ _ => False

variable {conf : ChannelConf}
variable {table mid table' : ChannelTable}
variable {i : Nat}
variable {ch ch' : Channel}
variable {es : List ChannelEffect}

theorem Quiet.refl : Quiet table table :=
  ⟨[], (List.append_nil _).symm, nofun⟩

/- Two quiet steps are one. -/
theorem Quiet.trans
    (hFirst : Quiet table mid)
    (hRest : Quiet mid table') :
    Quiet table table' := by
  rcases hFirst with ⟨es, hEffects, hQuiet⟩
  rcases hRest with ⟨es', hEffects', hQuiet'⟩
  refine ⟨es ++ es', ?_, ?_⟩
  · rw [hEffects', hEffects, List.append_assoc]
  · intro e hMem
    rcases List.mem_append.mp hMem with hMem | hMem
    · exact hQuiet e hMem
    · exact hQuiet' e hMem

/- A change of one slot that receives nothing. -/
theorem Quiet.setSlot
    (hQuiet : Quiet table mid)
    (hNone : ∀ e ∈ es, e.isReceived = false) :
    Quiet table (Ssh1.setSlot i ch es mid) :=
  hQuiet.trans ⟨es, rfl, hNone⟩

/- A slot that closes receives nothing. -/
theorem Quiet.closeSlot
    (hNone : ∀ e ∈ es, e.isReceived = false) :
    Quiet table (Ssh1.closeSlot i ch es table) := by
  have hSet : Quiet table (Ssh1.setSlot i ch es table) :=
    Quiet.refl.setSlot hNone
  unfold Ssh1.closeSlot
  split
  · exact hSet.trans
      ⟨[.freed i], rfl, by simp [ChannelEffect.isReceived]⟩
  · exact hSet

/- A new slot has received nothing. -/
theorem ChannelTable.Allocates.quiet
    {type : ChannelType}
    {sock : Int}
    (hAllocates :
      ChannelTable.Allocates type sock table i mid) :
    Quiet table mid :=
  ⟨[.allocated i type], hAllocates.effects,
    by simp [ChannelEffect.isReceived]⟩

/- The select loop has no data of the peer. -/
theorem LocalAction.quiet
    {allowed : Channel → Prop}
    (hAction : LocalAction conf allowed i ch es ch') :
    ∀ e ∈ es, e.isReceived = false := by
  cases hAction <;> simp [ChannelEffect.isReceived]

/- Nor has a message of the peer that is not of that type. -/
theorem PeerAction.quiet
    (hAction :
      PeerAction (fun _ => False) i ch es ch') :
    ∀ e ∈ es, e.isReceived = false := by
  cases hAction with
  | confirm remoteChannel hType => nofun
  | data data hAllowed => exact hAllowed.elim
  | passOver data hAllowed => exact hAllowed.elim
  | ieof hType hNew => nofun
  | ieofUnopened hType hNew hPeer =>
      unfold unopenedIeofSends kludgeSends
      split <;> simp [ChannelEffect.isReceived]
  | oclosed hInput hNew => nofun
  | oclosedUnopened hType hNew hPeer =>
      simp [ChannelEffect.isReceived]

/- What the program does itself receives nothing. -/
theorem LocalStep.quiet
    {allowed : Nat → Channel → Prop}
    (hStep : LocalStep conf allowed table table') :
    Quiet table table' := by
  cases hStep with
  | act i hBound hUse hAction =>
      exact .closeSlot hAction.quiet
  | request i listener hBound hRequest hAllocates hFresh =>
      apply hAllocates.quiet.setSlot
      simp [ChannelEffect.isReceived]

/- Nor does a message that brings no data. -/
theorem TableStep.quiet
    (hStep : TableStep conf noSlot table table') :
    Quiet table table' := by
  cases hStep with
  | loop hStep => exact hStep.quiet
  | react i hBound hUse hAction =>
      exact .closeSlot hAction.quiet
  | allocate i hAllocates hFresh hOpening =>
      apply hAllocates.quiet.setSlot
      cases hOpening with
      | listener hType => nofun
      | confirmed hType => simp [ChannelEffect.isReceived]
  | refuse remoteChannel =>
      exact ⟨[.sent none (.openFailure remoteChannel)], rfl,
        by simp [ChannelEffect.isReceived]⟩
  | fail i hBound hType =>
      exact ⟨[.freed i], rfl,
        by simp [ChannelEffect.isReceived]⟩

/- By induction on the steps. -/
theorem TableSteps.quiet
    (hSteps : TableSteps conf noSlot table table') :
    Quiet table table' := by
  induction hSteps with
  | refl => exact .refl
  | tail _ hStep ih => exact ih.trans hStep.quiet

/- What is done without data is all that is noted. -/
theorem Quiet.effects_eq
    (hQuiet : Quiet table table') :
    table'.effects = table.effects ++ deeds table table' := by
  rcases hQuiet with ⟨es, hEffects, hNone⟩
  have hAll :
      (es.filter fun e => ! e.isReceived) = es := by
    apply List.filter_eq_self.mpr
    intro e hMem
    simp [hNone e hMem]
  rw [deeds_of_effects hEffects, hAll]
  exact hEffects

end Ssh1

------------------------------------------------------------
-- Runs
------------------------------------------------------------

namespace Ssh1

variable {conf : ChannelConf}
variable {table table' : ChannelTable}

/- The bytes of a packet are its data. -/
theorem bodyData_eq
    {body data rest : Buffer}
    (hGet : bufferGetString body = .ok (data, rest)) :
    bodyData body = data := by
  simp [bodyData, hGet]

/- What is noted of a packet with data is what it brings. -/
theorem channelInputData_effects
    {channel : Int}
    {body : Buffer}
    {connection : Option Int}
    (hOk : channelInputData channel body table = .ok table') :
    table'.effects =
      table.effects ++
        (ChannelEvent.message (.data channel body)
          connection).brings table := by
  unfold channelInputData at hOk
  simp only [ChannelEvent.brings]
  cases hFound : channelInUse channel table with
  | none =>
      rw [hFound] at hOk
      cases hOk
  | some i =>
      rw [hFound] at hOk
      simp only at hOk ⊢
      by_cases hTakes : (table.channels i).TakesData
      · have hType :
            ¬ ((table.channels i).type ≠ .opened ∧
              (table.channels i).type ≠ .x11Open) := by
          simpa [Channel.TakesData, or_iff_not_imp_left]
            using hTakes
        rw [if_neg hType] at hOk
        rw [if_pos hTakes]
        split at hOk
        · cases hOk
        · split at hOk
          · rcases FallibleRun.bind_eq_ok_iff.mp hOk with
              ⟨⟨data, rest⟩, hGet, hRest⟩
            cases hRest
            rw [bodyData_eq hGet]
            rfl
          · cases hOk
            rfl
      · have hType :
            (table.channels i).type ≠ .opened ∧
              (table.channels i).type ≠ .x11Open :=
          not_or.mp hTakes
        rw [if_pos hType] at hOk
        rw [if_neg hTakes, List.append_nil]
        cases hOk
        rfl

/- An event brings nothing but data. -/
theorem ChannelEvent.isReceived_of_mem_brings
    {event : ChannelEvent} :
    ∀ e ∈ event.brings table, e.isReceived = true := by
  intro e hMem
  unfold ChannelEvent.brings at hMem
  repeat' split at hMem
  · simp at hMem
  · rw [List.mem_singleton.mp hMem]
    rfl
  · simp at hMem
  · simp at hMem

/- The step lemma: what comes first, and then what is done. -/
theorem ChannelEvent.step_effects
    {event : ChannelEvent}
    (hInv : TableInv conf table)
    (hStep : event.step conf table = .ok table') :
    table'.effects =
      table.effects ++
        (event.brings table ++ deeds table table') := by
  by_cases hData : event.IsData
  · obtain ⟨channel, body, connection, rfl⟩ :
        ∃ channel body connection,
          event = .message (.data channel body) connection := by
      unfold ChannelEvent.IsData at hData
      split at hData
      · unfold ChannelMessage.IsData at hData
        split at hData
        · exact ⟨_, _, _, rfl⟩
        · exact hData.elim
      · exact hData.elim
    have hEffects :
        table'.effects =
          table.effects ++
            (ChannelEvent.message (.data channel body)
              connection).brings table :=
      channelInputData_effects hStep
    have hNone : deeds table table' = [] := by
      rw [deeds_of_effects hEffects, List.filter_eq_nil_iff]
      intro e hMem
      simp [isReceived_of_mem_brings e hMem]
    rw [hNone, List.append_nil]
    exact hEffects
  · have hSteps : TableSteps conf noSlot table table' :=
      step_steps hInv (fun hIs => absurd hIs hData) hStep
    rw [brings_of_not_data hData, List.nil_append]
    exact hSteps.quiet.effects_eq

/- The run lemma: the record is the transcript. -/
theorem run_effects
    {events : List ChannelEvent}
    (hInv : TableInv conf table)
    (hRun :
      FallibleRun.run (ChannelEvent.step conf) table events =
        .ok table') :
    table'.effects =
      table.effects ++ transcript conf table events := by
  induction events generalizing table with
  | nil =>
      cases hRun
      exact (List.append_nil _).symm
  | cons event events ih =>
      rw [FallibleRun.run_cons] at hRun
      rcases FallibleRun.bind_eq_ok_iff.mp hRun with
        ⟨mid, hStep, hRest⟩
      have hMid := ChannelEvent.step_inv hInv hStep
      rw [ih hMid hRest, ChannelEvent.step_effects hInv hStep,
        List.append_assoc]
      simp only [transcript, hStep]

/- So what is recorded from the start is the transcript. -/
theorem run_transcript
    {memory : Nat → Channel}
    {events : List ChannelEvent}
    (hRun :
      FallibleRun.run (ChannelEvent.step conf)
        (.initial memory) events = .ok table) :
    transcript conf (.initial memory) events =
      table.effects := by
  rw [run_effects (.initial conf memory) hRun]
  rfl

end Ssh1
