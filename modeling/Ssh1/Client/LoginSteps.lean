import Ssh1.Client.LoginRules

/-
  The steps of a client's login keep the rules.

  Main declarations:
    * `LoggingIn.watched_onLink`
    * `LoggingIn.keeps_packetRead`
    * `LoggingIn.keeps_judgeHost`
    * `LoggingIn.keeps_sendSessionKey`
-/

------------------------------------------------------------
-- What Is Shared with the Server
------------------------------------------------------------

namespace Ssh1

namespace LoggingIn

open Recorded

variable {env : ClientLoginEnv} {α : Type}
variable {P : List ClientLoginEvent → Prop}

/- The rules are kept after a past with the precondition. -/
abbrev Keeps
    (env : ClientLoginEnv)
    (P : List ClientLoginEvent → Prop)
    (m : LoggingIn α)
    (Q : α → List ClientLoginEvent → Prop) : Prop :=
  Recorded.Follows (ClientRule env) P m Q

/- The rule says nothing of what is only received. -/
theorem accepts_quiet
    {events : List Exchange}
    (before : List ClientLoginEvent)
    (hEvents : ∀ event ∈ events, event.IsQuiet) :
    (Monitor.history (ClientRule env)).Accepts before
      (events.map .link) := by
  induction events generalizing before with
  | nil => trivial
  | cons event events ih =>
      rcases List.forall_mem_cons.mp hEvents with
        ⟨hEvent, hRest⟩
      refine ⟨?_, ih _ hRest⟩
      cases event with
      | received arrival => trivial
      | sent packet =>
          rcases hEvent with ⟨message, rfl⟩
          exact MaySend.disconnect message
      | request time type => exact hEvent
      | asked attempt => exact hEvent
      | verdict attempt accepted => exact hEvent

/- What waits for packets keeps the rules. -/
theorem watched_onLink
    {m : Session α}
    {P : ClientLoginState → List ClientLoginEvent → Prop}
    {Q : α → ClientLoginState → List ClientLoginEvent → Prop}
    (hQuiet : Session.Quiet m)
    (hPost : ∀ state before a link,
      P state before →
        (m state.link).result = .ok (a, link) →
          Q a { state with link }
            (before ++ (m state.link).events.map .link)) :
    Watched (Monitor.history (ClientRule env)) P
      (onLink m) Q := by
  intro state before hPre
  refine ⟨accepts_quiet before (hQuiet.always state.link), ?_⟩
  intro a state' hResult
  rw [Monitor.after_history]
  unfold onLink at hResult ⊢
  rw [ofRuns_apply] at hResult ⊢
  simp only [] at hResult ⊢
  cases hRun : (m state.link).result with
  | error halt =>
      rw [hRun] at hResult
      cases hResult
  | ok returned =>
      rw [hRun] at hResult
      cases hResult
      exact hPost state before returned.1 returned.2 hPre hRun

/- The value is the one that was computed. -/
theorem keeps_ofOutcome
    (x : Outcome α) :
    Keeps env P (ofOutcome x)
      fun a before => x = .ok a ∧ P before := by
  refine watched_onLink (Session.quiet_ofOutcome x) ?_
  intro state before a link hPre hResult
  rcases Session.ofOutcome_ok hResult with ⟨hOk, -, hNone⟩
  rw [hNone, List.map_nil, List.append_nil]
  exact ⟨hOk, hPre⟩

/- Reading a field leaves the history. -/
theorem keeps_packetGet
    (get' : Buffer → Outcome (α × Buffer)) :
    Keeps env P (packetGet get')
      fun _ => P := by
  refine watched_onLink (Session.quiet_packetGet get') ?_
  intro state before a link hPre hResult
  rcases Session.packetGet_ok hResult with ⟨_, _, _, hNone⟩
  rw [hNone, List.map_nil, List.append_nil]
  exact hPre

/- A disconnect ends the login. -/
theorem watched_packetDisconnect
    (message : String)
    (P : ClientLoginState → List ClientLoginEvent → Prop)
    (Q : α → ClientLoginState → List ClientLoginEvent →
      Prop) :
    Watched (Monitor.history (ClientRule env)) P
      (packetDisconnect message) Q := by
  refine watched_onLink
    (Session.quiet_packetDisconnect message) ?_
  intro state before a link hPre hResult
  cases hResult

theorem keeps_packetDisconnect
    (message : String)
    (Q : α → List ClientLoginEvent → Prop) :
    Keeps env P (packetDisconnect message) Q :=
  watched_packetDisconnect message _ _

/- This packet is what was read since the precondition held. -/
def JustRead
    (P : List ClientLoginEvent → Prop)
    (body : Buffer)
    (before : List ClientLoginEvent) : Prop :=
  ∃ earlier skipped,
    P earlier ∧
      before =
        earlier ++
          (skipped ++ [.link (.received (.packet body))]) ∧
      OnlyArrivals skipped

/- Whatever came before it was skipped. -/
theorem JustRead.onlyArrivals
    {P : List ClientLoginEvent → Prop}
    {body : Buffer}
    {before : List ClientLoginEvent}
    (hRead : JustRead P body before) :
    ∃ earlier later,
      P earlier ∧ before = earlier ++ later ∧
        OnlyArrivals later ∧
        .link (.received (.packet body)) ∈ later := by
  rcases hRead with
    ⟨earlier, skipped, hPast, rfl, hSkipped⟩
  refine ⟨earlier, _, hPast, rfl, ?_,
    List.mem_append_right _ (List.mem_singleton.mpr rfl)⟩
  intro event hEvent
  rcases List.mem_append.mp hEvent with hEarly | hLast
  · exact hSkipped event hEarly
  · exact ⟨_, List.mem_singleton.mp hLast⟩

/- What is received are arrivals. -/
theorem onlyArrivals_of_received
    {events : List Exchange}
    (hReceived : ∀ event ∈ events, event.isReceived = true) :
    OnlyArrivals (events.map .link) := by
  intro event hEvent
  rcases List.mem_map.mp hEvent with
    ⟨exchange, hExchange, rfl⟩
  have hKind := hReceived exchange hExchange
  cases exchange with
  | received arrival => exact ⟨arrival, rfl⟩
  | sent packet => cases hKind
  | request time type => cases hKind
  | asked attempt => cases hKind
  | verdict attempt accepted => cases hKind

/- The rest of the packet that is read stays in the buffer. -/
theorem watched_packetRead :
    Watched (Monitor.history (ClientRule env))
      (fun _ before => P before) packetRead
      fun type state before =>
        JustRead P (type :: state.link.incomingPacket)
          before := by
  have hQuiet := Session.quiet_packetRead
  refine watched_onLink hQuiet ?_
  intro state before type link hPre hResult
  have hPacket := Session.packetRead_ok hResult
  rcases hPacket.last with
    ⟨skipped, hEvents⟩
  refine ⟨before, skipped.map .link, hPre, ?_, ?_⟩
  · rw [hEvents, List.map_append]
    rfl
  · refine onlyArrivals_of_received fun event hEvent => ?_
    apply hPacket.onlyReceived
    rw [hEvents]
    exact List.mem_append_left _ hEvent

/- The packet that was read came last. -/
theorem keeps_packetRead :
    Keeps env P packetRead
      fun type before =>
        ∃ rest, JustRead P (type :: rest) before :=
  watched_packetRead.mono (fun _ _ hPre => hPre)
    fun _ _ _ hPost => ⟨_, hPost⟩

/- The packet that was read has the expected type. -/
theorem keeps_packetReadExpect
    (expected : UInt8) :
    Keeps env P (packetReadExpect expected)
      fun _ before =>
        ∃ rest, JustRead P (expected :: rest) before := by
  refine keeps_packetRead.bind fun type => ?_
  split
  · exact keeps_packetDisconnect _ _
  · rename_i hType
    rw [not_not] at hType
    rw [hType]
    exact Follows.pure fun before hPost => hPost

/- A field is read, and this is the rest behind it. -/
def ReadBefore
    (R : Buffer → List ClientLoginEvent → Prop)
    (get' : Buffer → Outcome (α × Buffer))
    (a : α)
    (rest : Buffer)
    (before : List ClientLoginEvent) : Prop :=
  ∃ buffer, R buffer before ∧ get' buffer = .ok (a, rest)

/- The rest of the packet stays in the buffer. -/
theorem watched_packetGet_rest
    (R : Buffer → List ClientLoginEvent → Prop)
    (get' : Buffer → Outcome (α × Buffer)) :
    Watched (Monitor.history (ClientRule env))
      (fun state before => R state.link.incomingPacket before)
      (packetGet get')
      fun a state before =>
        ReadBefore R get' a state.link.incomingPacket
          before := by
  refine watched_onLink (Session.quiet_packetGet get') ?_
  intro state before a link hPre hResult
  rcases Session.packetGet_ok hResult with
    ⟨rest, hGet, rfl, hNone⟩
  rw [hNone, List.map_nil, List.append_nil]
  exact ⟨_, hPre, hGet⟩

/- What is taken from the packet that was read. -/
theorem watched_packetGet
    (R : Buffer → List ClientLoginEvent → Prop)
    (get' : Buffer → Outcome (α × Buffer)) :
    Watched (Monitor.history (ClientRule env))
      (fun state before => R state.link.incomingPacket before)
      (packetGet get')
      fun a _ before =>
        ∃ rest, ReadBefore R get' a rest before := by
  exact (watched_packetGet_rest R get').mono
    (fun _ _ hPre => hPre) fun _ _ _ hPost => ⟨_, hPost⟩

/- A packet that goes out is recorded as sent. -/
theorem onLink_packetSend
    (packet : ServerPacket) :
    onLink (Session.packetSend packet) =
      record (.link (.sent packet)) :=
  rfl

/- A packet is sent if the rules allow it. -/
theorem keeps_packetSend
    {type : UInt8}
    {payload : Buffer}
    (hRule : ∀ before,
      P before → MaySend env before ⟨type, payload⟩) :
    Keeps env P (packetSend type payload)
      fun _ before =>
        ∃ earlier,
          P earlier ∧
            before =
              earlier ++ [.link (.sent ⟨type, payload⟩)] := by
  unfold packetSend
  simp only []
  split
  · exact Follows.stop _
  · rw [onLink_packetSend]
    exact Follows.record hRule fun before hPre =>
      ⟨before, hPre, rfl⟩

/- The user is asked within the session only. -/
theorem keeps_readPassphrase
    {prompt : Prompt}
    (hRule : ∀ before,
      P before → env.options.batchMode = false ∧
        ∃ keys, SessionOpen env keys before) :
    Keeps env P (readPassphrase env prompt)
      fun text before =>
        ∃ earlier,
          P earlier ∧
            before =
              earlier ++
                [.prompted prompt, .typed prompt text] := by
  have hPrompted :
      Keeps env P
        (record (.prompted prompt) : LoggingIn Unit)
        fun _ before =>
          ∃ earlier,
            P earlier ∧
              before = earlier ++ [.prompted prompt] :=
    Follows.record hRule fun before hPre =>
      ⟨before, hPre, rfl⟩
  refine hPrompted.bind fun _ => ?_
  cases hTyped : env.typed prompt with
  | error message => exact Follows.stop _
  | ok text =>
      have hRecord :
          Keeps env
            (fun before =>
              ∃ earlier,
                P earlier ∧
                  before = earlier ++ [.prompted prompt])
            (record (.typed prompt (cString text)) :
              LoggingIn Unit)
            fun _ before =>
              ∃ earlier,
                P earlier ∧
                  before =
                    earlier ++
                      [.prompted prompt,
                        .typed prompt (cString text)] := by
        refine Follows.record ?_ ?_
        · rintro before ⟨earlier, _, rfl⟩
          exact ⟨List.getLast?_concat, text, hTyped, rfl⟩
        · rintro before ⟨earlier, hPast, rfl⟩
          refine ⟨earlier, hPast, ?_⟩
          rw [List.append_assoc, List.singleton_append]
      refine hRecord.bind fun _ => ?_
      exact Follows.pure fun before hPost => hPost

end LoggingIn

end Ssh1

------------------------------------------------------------
-- The Host Key
------------------------------------------------------------

namespace Ssh1

namespace LoggingIn

open Recorded

variable {env : ClientLoginEnv} {keys : ServerKeys}
variable {P F : List ClientLoginEvent → Prop}

/- A type is read that is the expected one. -/
theorem watched_packetReadExpect
    (expected : UInt8) :
    Watched (Monitor.history (ClientRule env))
      (fun _ before => P before) (packetReadExpect expected)
      fun _ state before =>
        JustRead P (expected :: state.link.incomingPacket)
          before := by
  refine watched_packetRead.bind fun type => ?_
  split
  · exact watched_packetDisconnect _ _ _
  · rename_i hType
    rw [not_not] at hType
    rw [hType]
    exact Watched.pure fun state before hPost => hPost

/- Each field is taken from what the one before has left. -/
theorem keeps_readServerKeys :
    Keeps env (· = []) readServerKeys KeysReceived := by
  refine (watched_packetReadExpect _).bind fun _ => ?_
  refine (watched_packetGet_rest
    (fun r before =>
      JustRead (· = []) (sshSmsgPublicKey :: r) before)
    _).bind fun cookie => ?_
  refine (watched_packetGet_rest _ _).bind
    fun publicBits => ?_
  refine (watched_packetGet_rest _ _).bind fun publicE => ?_
  refine (watched_packetGet_rest _ _).bind fun publicN => ?_
  split
  · exact watched_packetDisconnect _ _ _
  refine (watched_packetGet_rest _ _).bind fun hostBits => ?_
  refine (watched_packetGet_rest _ _).bind fun hostE => ?_
  refine (watched_packetGet_rest _ _).bind fun hostN => ?_
  split
  · exact watched_packetDisconnect _ _ _
  refine (watched_packetGet_rest _ _).bind fun flags => ?_
  refine (watched_packetGet_rest _ _).bind fun ciphers => ?_
  refine (watched_packetGet_rest _ _).bind
    fun authentications => ?_
  refine Watched.pure ?_
  rintro state before
    ⟨_, ⟨_, ⟨_, ⟨_, ⟨_, ⟨_, ⟨_, ⟨_, ⟨_, ⟨payload, hRead,
      hCookie⟩, hPublicBits⟩, hPublicE⟩, hPublicN⟩,
      hHostBits⟩, hHostE⟩, hHostN⟩, hFlags⟩, hCiphers⟩,
      hAuthentications⟩
  rcases hRead with
    ⟨_, early, rfl, rfl, hEarly⟩
  exact ⟨early, payload, rfl, hEarly, _, _, _, _, _, _, _, _,
    _, _, _, hCookie, hPublicBits, hPublicE, hPublicN,
    hHostBits, hHostE, hHostN, hFlags, hCiphers,
    hAuthentications⟩

/- What is known of the host key is noted once. -/
theorem keeps_met :
    Keeps env (KeysReceived keys)
      (record (.met keys (env.hostStatus keys.hostKey)) :
        LoggingIn Unit)
      fun _ => KeysMet env keys := by
  refine Follows.record ?_ ?_
  · intro before hReceived
    exact ⟨rfl, hReceived⟩
  · intro before hReceived
    exact ⟨before, [], rfl, hReceived⟩

/- The user agrees, and nothing happens. -/
theorem keeps_readAnswers
    {F : List ClientLoginEvent → Prop}
    {early lines : List QuotedText.Text}
    (hEarly : ∀ earlier ∈ early,
      stripSpaces earlier ≠ "no".toList)
    (hLines : env.confirmation = some (early ++ lines)) :
    Keeps env F (readAnswers lines)
      fun _ before => F before ∧ UserAgrees env := by
  induction lines generalizing early with
  | nil => exact Follows.stop _
  | cons line lines ih =>
      unfold readAnswers
      split
      · exact Follows.stop _
      rename_i hNo
      split
      · rename_i hYes
        exact Follows.pure fun before hPre =>
          ⟨hPre, early, line, lines, hLines, hYes, hEarly⟩
      · refine @ih (early ++ [line]) ?_ ?_
        · exact List.forall_mem_append.mpr
            ⟨hEarly, List.forall_mem_singleton.mpr hNo⟩
        · rw [hLines, List.append_assoc,
            List.singleton_append]

/- A strict user has agreed. -/
theorem keeps_confirmHost :
    Keeps env F (confirmHost env)
      fun _ before =>
        F before ∧
          (env.options.strictHostKeyChecking = 2 →
            env.options.batchMode = false ∧
              UserAgrees env) := by
  unfold confirmHost
  split
  · rename_i hAsk
    split
    · exact Follows.stop _
    · rename_i hBatch
      have hBatch' : env.options.batchMode = false := by
        simpa using hBatch
      cases hLines : env.confirmation with
      | none => exact Follows.stop _
      | some lines =>
          have hNone : ∀ earlier ∈ ([] : List QuotedText.Text),
              stripSpaces earlier ≠ "no".toList :=
            List.forall_mem_nil _
          refine (keeps_readAnswers hNone hLines).weaken
            (fun _ hPre => hPre) ?_
          rintro _ before ⟨hPast, hAgrees⟩
          exact ⟨hPast, fun _ => ⟨hBatch', hAgrees⟩⟩
  · rename_i hNoAsk
    exact Follows.pure fun before hPre =>
      ⟨hPre, fun hAsk => absurd hAsk hNoAsk⟩

/- The host is accepted with the answer or without. -/
theorem keeps_confirmHost_accepted
    (hStrict : env.options.strictHostKeyChecking ≠ 1) :
    Keeps env (KeysMet env keys) (confirmHost env)
      fun _ => HostAccepted env keys := by
  refine keeps_confirmHost.weaken (fun _ hPre => hPre) ?_
  rintro _ before ⟨hMet, hAsked⟩
  exact ⟨hMet, Or.inr ⟨hStrict, hAsked⟩⟩

/- Each status of the host key, by its cases. -/
theorem keeps_judgeHost
    {status : HostStatus}
    (hStatus : env.hostStatus keys.hostKey = status) :
    Keeps env (KeysMet env keys) (judgeHost env status)
      fun _ => HostAccepted env keys := by
  cases status with
  | ok =>
      exact Follows.pure fun before hMet =>
        ⟨hMet, Or.inl hStatus⟩
  | new =>
      rw [judgeHost]
      split
      · exact Follows.stop _
      · rename_i hStrict
        exact keeps_confirmHost_accepted hStrict
  | changed =>
      rw [judgeHost]
      split
      · exact Follows.stop _
      · rename_i hStrict
        exact (Follows.modify _).bind fun _ =>
          keeps_confirmHost_accepted hStrict

end LoggingIn

end Ssh1

------------------------------------------------------------
-- The Session Key
------------------------------------------------------------

namespace Ssh1

namespace LoggingIn

open Recorded

variable {env : ClientLoginEnv} {keys : ServerKeys}

/- The session key is put to use once it has been sent. -/
theorem keeps_keyed
    {cipher key : Nat}
    {random random' : RandomState}
    (hKey :
      encryptSessionKey keys.publicKey keys.hostKey
          env.sessionKey (keys.sessionId env.md5) random =
        .ok (key, random')) :
    Keeps env
      (fun before =>
        ∃ earlier,
          HostAccepted env keys earlier ∧
            before =
              earlier ++
                [.link (.sent
                  ⟨sshCmsgSessionKey,
                    bufferPutInt
                      ((UInt8.ofNat cipher :: keys.cookie) ++
                        mpIntBytes key) 3⟩)])
      (record (.keyed cipher) : LoggingIn Unit)
      fun _ before =>
        ∃ earlier,
          HostAccepted env keys earlier ∧
            before = earlier ++ [.keyed cipher] := by
  refine Follows.record ?_ ?_
  · rintro before ⟨earlier, hAccepted, rfl⟩
    exact ⟨keys, stable_hostAccepted _ _ hAccepted,
      random, random', key, hKey, List.getLast?_concat⟩
  · rintro before ⟨earlier, hAccepted, rfl⟩
    exact ⟨_, stable_hostAccepted _ _ hAccepted, rfl⟩

/- The session key goes to an accepted host. -/
theorem keeps_sendSessionKey :
    Keeps env (HostAccepted env keys)
      (sendSessionKey env keys)
      fun _ => SessionOpen env keys := by
  refine Follows.get_bind fun state => ?_
  refine (keeps_ofOutcome _).bind ?_
  rintro ⟨key, random⟩
  refine Follows.of_fact fun hKey => ?_
  refine (Follows.modify _).bind fun _ => ?_
  refine (keeps_ofOutcome _).bind fun name => ?_
  refine Follows.of_fact fun _ => ?_
  split
  · exact Follows.stop _
  refine (keeps_ofOutcome _).bind fun payload => ?_
  refine Follows.of_fact fun hPayload => ?_
  rw [bufferPutMpInt_eq] at hPayload
  cases hPayload
  refine (keeps_packetSend fun before hPre =>
    MaySend.sessionKey hPre).bind fun _ => ?_
  refine (keeps_ofOutcome _).bind fun _ => ?_
  refine Follows.of_fact fun _ => ?_
  refine (keeps_keyed hKey).bind fun _ => ?_
  refine (keeps_packetReadExpect _).weaken
    (fun _ hPre => hPre) ?_
  rintro _ before ⟨rest, hRead⟩
  rcases hRead.onlyArrivals with
    ⟨_, later, hKeyed, rfl, _, hMem⟩
  rcases hKeyed with ⟨earlier, hAccepted, rfl⟩
  refine ⟨?_, ?_⟩
  · exact stable_hostAccepted _ _
      (stable_hostAccepted _ _ hAccepted)
  · refine ⟨env.selectCipher keys.supportedCiphers, earlier,
      later, rest, ?_, hMem⟩
    rw [List.append_assoc, List.singleton_append]

end LoggingIn

end Ssh1
