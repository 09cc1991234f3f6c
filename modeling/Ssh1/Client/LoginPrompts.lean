import Ssh1.Client.LoginSafety

/-
  What a login of the client asks for, and what it leaves
  switched on.

  The user is asked at most once at each prompt, and only at
  those that were agreed, and nothing is forwarded to a host
  with a changed key.

  Main declarations:
    * `LoggingIn.Asks`
    * `ClientLoginEnv.prompts`, `sshLogin_asksSeldom`
    * `ForwardsAsAllowed`, `sshLogin_forwarding`
-/

------------------------------------------------------------
-- Prompts and Forwarding
------------------------------------------------------------

namespace Ssh1

/- The user is asked at this prompt, and may answer. -/
def ClientLoginEvent.isAskedAt
    (prompt : Prompt) : ClientLoginEvent → Bool
| .prompted prompt' => prompt' = prompt
| _ => false

/- What the client may still forward. -/
def ClientLoginState.forwarding
    (state : ClientLoginState) : Bool × Bool × Nat × Nat :=
  (state.forwardAgent, state.forwardX11,
    state.numLocalForwards, state.numRemoteForwards)

namespace LoggingIn

open Recorded

variable {env : ClientLoginEnv} {keys : ServerKeys}
variable {prompt : Prompt} {α β : Type}

/- What may still be forwarded does not change. -/
def SameForwarding
    (state : ClientLoginState)
    (_ : List ClientLoginEvent)
    (state' : ClientLoginState) : Prop :=
  state'.forwarding = state.forwarding

/- What two pieces keep, they keep together. -/
theorem sameForwarding_composes :
    Composes SameForwarding where
  refl := fun _ => rfl
  trans := fun hFirst hRest => hRest.trans hFirst

/- So often at a prompt, and the same forwarding. -/
structure Asks
    (prompt : Prompt)
    (bound : Nat)
    (m : LoggingIn α) : Prop where
  atMost :
    AtMost (ClientLoginEvent.isAskedAt prompt) bound m
  leads : Leads SameForwarding m

/- A value asks nothing. -/
theorem Asks.pure
    (a : α) :
    Asks prompt 0 (Pure.pure a : LoggingIn α) :=
  ⟨AtMost.pure a, Leads.pure sameForwarding_composes a⟩

theorem Asks.stop
    (ending : Ending) :
    Asks prompt 0 (stop ending : LoggingIn α) :=
  ⟨AtMost.stop ending, Leads.stop ending⟩

theorem Asks.get :
    Asks prompt 0 (Recorded.get : LoggingIn ClientLoginState) :=
  ⟨AtMost.get, Leads.get sameForwarding_composes⟩

/- A change of the state asks nothing. -/
theorem Asks.modify
    {f : ClientLoginState → ClientLoginState}
    (hSame : ∀ state,
      (f state).forwarding = state.forwarding) :
    Asks prompt 0 (modify f : LoggingIn Unit) :=
  ⟨AtMost.modify f, Leads.modify hSame⟩

/- A higher bound holds as well. -/
theorem Asks.mono
    {bound bound' : Nat}
    {m : LoggingIn α}
    (hAsks : Asks prompt bound m)
    (hLe : bound ≤ bound') :
    Asks prompt bound' m :=
  ⟨hAsks.atMost.mono hLe, hAsks.leads⟩

/- The questions of both pieces are counted. -/
theorem Asks.bind
    {first rest : Nat}
    {m : LoggingIn α}
    {f : α → LoggingIn β}
    (hFirst : Asks prompt first m)
    (hRest : ∀ a, Asks prompt rest (f a)) :
    Asks prompt (first + rest) (m >>= f) :=
  ⟨hFirst.atMost.bind fun a => (hRest a).atMost,
    hFirst.leads.bind sameForwarding_composes
      fun a => (hRest a).leads⟩

/- What comes first asks for nothing. -/
theorem Asks.after_none
    {bound : Nat}
    {m : LoggingIn α}
    {f : α → LoggingIn β}
    (hFirst : Asks prompt 0 m)
    (hRest : ∀ a, Asks prompt bound (f a)) :
    Asks prompt bound (m >>= f) := by
  have hBoth := hFirst.bind hRest
  rw [Nat.zero_add] at hBoth
  exact hBoth

/- What comes afterwards asks for nothing. -/
theorem Asks.before_none
    {bound : Nat}
    {m : LoggingIn α}
    {f : α → LoggingIn β}
    (hFirst : Asks prompt bound m)
    (hRest : ∀ a, Asks prompt 0 (f a)) :
    Asks prompt bound (m >>= f) :=
  hFirst.bind hRest

/- What goes over the link is no question to the user. -/
theorem asks_onLink
    (m : Session α) :
    Asks prompt 0 (onLink m) := by
  constructor
  · refine AtMost.of_always ?_
    intro state event hEvent
    rcases List.mem_map.mp hEvent with ⟨exchange, _, rfl⟩
    rfl
  · intro state a state' hResult
    unfold onLink at hResult
    rw [ofRuns_apply] at hResult
    cases hRun : (m state.link).result with
    | error halt =>
        simp only [hRun] at hResult
        cases hResult
    | ok returned =>
        simp only [hRun] at hResult
        cases hResult
        rfl

/- An event other than the prompt. -/
theorem asks_record
    {event : ClientLoginEvent}
    (hEvent : event.isAskedAt prompt = false) :
    Asks prompt 0 (record event : LoggingIn Unit) :=
  ⟨AtMost.of_always (Always.record hEvent),
    Leads.record fun _ => rfl⟩

/- Sending a packet asks the user nothing. -/
theorem asks_packetSend
    (type : UInt8)
    (payload : Buffer) :
    Asks prompt 0 (packetSend type payload) := by
  unfold packetSend
  simp only []
  split
  · exact Asks.stop _
  · exact asks_onLink _

theorem asks_packetReadExpect
    (expected : UInt8) :
    Asks prompt 0 (packetReadExpect expected) := by
  refine (asks_onLink _).after_none fun type => ?_
  split
  · exact asks_onLink _
  · exact Asks.pure _

/- Reading the server's verdict asks nothing. -/
theorem asks_readVerdict
    (message : Nat → String) :
    Asks prompt 0 (readVerdict message) := by
  refine (asks_onLink _).after_none fun type => ?_
  split
  · exact Asks.pure _
  split
  · exact asks_onLink _
  · exact Asks.pure _

theorem asks_readChallenge :
    Asks prompt 0 readChallenge := by
  refine (asks_onLink _).after_none fun type => ?_
  split
  · exact Asks.pure _
  split
  · exact asks_onLink _
  · exact (asks_onLink _).after_none fun _ => Asks.pure _

/- The prompt itself is counted once. -/
theorem asks_recordPrompted
    (asked : Prompt) :
    Asks prompt ([asked].count prompt)
      (record (.prompted asked) : LoggingIn Unit) := by
  by_cases hSame : asked = prompt
  · rw [hSame, List.count_singleton_self]
    exact ⟨AtMost.record _, Leads.record fun _ => rfl⟩
  · have hOther :
        (ClientLoginEvent.prompted asked).isAskedAt prompt =
          false :=
      decide_eq_false hSame
    exact (asks_record hOther).mono (Nat.zero_le _)

/- The prompt for one file, whether it is answered or not. -/
theorem asks_readPassphrase
    (asked : Prompt) :
    Asks prompt ([asked].count prompt)
      (readPassphrase env asked) := by
  refine (asks_recordPrompted asked).before_none fun _ => ?_
  cases env.typed asked with
  | error message => exact Asks.stop _
  | ok text =>
      exact (asks_record rfl).after_none fun _ => Asks.pure _

/- Reading the server's keys asks nothing. -/
theorem asks_readServerKeys :
    Asks prompt 0 readServerKeys := by
  refine (asks_packetReadExpect _).after_none fun _ => ?_
  refine (asks_onLink _).after_none fun cookie => ?_
  refine (asks_onLink _).after_none fun publicBits => ?_
  refine (asks_onLink _).after_none fun publicE => ?_
  refine (asks_onLink _).after_none fun publicN => ?_
  split
  · exact asks_onLink _
  refine (asks_onLink _).after_none fun hostBits => ?_
  refine (asks_onLink _).after_none fun hostE => ?_
  refine (asks_onLink _).after_none fun hostN => ?_
  split
  · exact asks_onLink _
  refine (asks_onLink _).after_none fun flags => ?_
  refine (asks_onLink _).after_none fun ciphers => ?_
  refine (asks_onLink _).after_none fun ways => ?_
  exact Asks.pure _

/- The answers to the confirmation are other events. -/
theorem asks_readAnswers
    (lines : List QuotedText.Text) :
    Asks prompt 0 (readAnswers lines) := by
  induction lines with
  | nil => exact Asks.stop _
  | cons line lines ih =>
      unfold readAnswers
      split
      · exact Asks.stop _
      split
      · exact Asks.pure _
      · exact ih

/- The question about a host is not one of the prompts. -/
theorem asks_confirmHost :
    Asks prompt 0 (confirmHost env) := by
  unfold confirmHost
  split
  · split
    · exact Asks.stop _
    · cases env.confirmation with
      | none => exact Asks.stop _
      | some lines => exact asks_readAnswers lines
  · exact Asks.pure _

/- Judging the host key asks for no secret. -/
theorem atMost_judgeHost
    (status : HostStatus) :
    AtMost (ClientLoginEvent.isAskedAt prompt) 0
      (judgeHost env status) := by
  have hConfirm : Asks prompt 0 (confirmHost env) :=
    asks_confirmHost
  cases status with
  | ok => exact AtMost.pure _
  | new =>
      rw [judgeHost]
      split
      · exact AtMost.stop _
      · exact hConfirm.atMost
  | changed =>
      rw [judgeHost]
      split
      · exact AtMost.stop _
      · exact (AtMost.modify _).after_none fun _ =>
          hConfirm.atMost

/- A changed host key switches off what is forwarded. -/
theorem forwarding_judgeHost
    (status : HostStatus) :
    Leads
      (fun state _ state' =>
        state'.forwarding =
          if status = .changed then
            (false, false, 0, 0)
          else
            state.forwarding)
      (judgeHost env status) := by
  have hConfirm : Asks .tis 0 (confirmHost env) :=
    asks_confirmHost
  cases status with
  | ok =>
      intro state a state' hResult
      cases hResult
      rfl
  | new =>
      by_cases hStrict :
          env.options.strictHostKeyChecking = 1
      · rw [judgeHost, if_pos hStrict]
        exact Leads.stop _
      · rw [judgeHost, if_neg hStrict]
        exact hConfirm.leads
  | changed =>
      by_cases hStrict :
          env.options.strictHostKeyChecking = 1
      · rw [judgeHost, if_pos hStrict]
        exact Leads.stop _
      · rw [judgeHost, if_neg hStrict]
        intro state a state'' hResult
        rcases bind_ok hResult with
          ⟨_, state', hModify, hConfirmed, _⟩
        cases hModify
        exact hConfirm.leads _ _ _ hConfirmed

/- Sending the session key asks nothing. -/
theorem asks_sendSessionKey :
    Asks prompt 0 (sendSessionKey env keys) := by
  refine Asks.get.after_none fun state => ?_
  refine (asks_onLink _).after_none ?_
  rintro ⟨key, random⟩
  refine Asks.after_none (Asks.modify ?_) fun _ => ?_
  · intro state
    rfl
  refine (asks_onLink _).after_none fun name => ?_
  split
  · exact Asks.stop _
  refine (asks_onLink _).after_none fun payload => ?_
  refine (asks_packetSend _ _).after_none fun _ => ?_
  refine (asks_onLink _).after_none fun _ => ?_
  refine (asks_record rfl).after_none fun _ => ?_
  exact asks_packetReadExpect _

theorem asks_sendResponse
    (response : List UInt8) :
    Asks prompt 0 (sendResponse response) :=
  (asks_packetSend _ _).after_none fun _ =>
    asks_readVerdict _

/- The answer to a challenge needs no user. -/
theorem asks_respondTo
    (challenge : Nat)
    (prv : RSAPrivateKey) :
    Asks prompt 0 (respondTo env keys challenge prv) := by
  refine (asks_onLink _).after_none fun response => ?_
  refine (asks_record rfl).after_none fun _ => ?_
  exact asks_sendResponse _

/- The host's own key has no passphrase. -/
theorem asks_hostKey :
    Asks prompt 0 (tryHostKey env keys) := by
  unfold tryHostKey
  cases env.ownHostKey with
  | none => exact Asks.pure _
  | some hostKey =>
      refine (asks_onLink _).after_none fun payload => ?_
      refine (asks_onLink _).after_none fun payload => ?_
      refine (asks_packetSend _ _).after_none fun _ => ?_
      refine asks_readChallenge.after_none fun read => ?_
      cases read with
      | none => exact Asks.pure _
      | some challenge => exact asks_respondTo _ _

/- Offering a key asks nothing yet. -/
theorem asks_offerKey
    (n : Nat) :
    Asks prompt 0 (offerKey n) :=
  (asks_onLink _).after_none fun _ =>
    (asks_packetSend _ _).after_none fun _ =>
      asks_readChallenge

/- By induction on the identities that the agent still lists. -/
theorem asks_agentIdentities
    {agent : Nat → AgentBytes}
    {sessionId : List UInt8}
    (count : Nat)
    (identity : Option ListedIdentity)
    (auth : AgentReply) :
    Asks prompt 0
      (tryAgentIdentities agent sessionId count identity
        auth) := by
  induction count generalizing identity auth with
  | zero => cases identity <;> exact Asks.pure _
  | succ count ih =>
      cases identity with
      | none => exact Asks.pure _
      | some identity =>
          have hOne :
              Asks prompt 0
                (tryAgentIdentity agent sessionId
                  identity) := by
            refine (asks_offerKey _).after_none
              fun challenge => ?_
            cases challenge with
            | none => exact Asks.pure _
            | some challenge =>
                refine Asks.get.after_none fun state => ?_
                refine (asks_onLink _).after_none
                  fun reply => ?_
                refine (asks_record rfl).after_none
                  fun _ => ?_
                exact asks_sendResponse _
          refine hOne.after_none fun accepted => ?_
          cases accepted with
          | true => exact Asks.pure _
          | false =>
              refine (asks_onLink _).after_none ?_
              rintro ⟨next, auth⟩
              exact ih next auth

theorem asks_agent
    (sessionId : List UInt8) :
    Asks prompt 0 (tryAgentAuthentication env sessionId) := by
  unfold tryAgentAuthentication
  cases env.agent with
  | none => exact Asks.pure _
  | some agent =>
      refine Asks.get.after_none fun state => ?_
      refine (asks_onLink _).after_none ?_
      rintro ⟨identity, auth⟩
      exact asks_agentIdentities _ identity auth

/- There is a passphrase for each file. -/
theorem asks_loadWithPassphrase
    (number : Nat)
    (file : KeyFileRead) :
    Asks prompt ([.passphrase number].count prompt)
      (loadWithPassphrase env number file) := by
  refine (asks_onLink _).after_none ?_
  rintro ⟨done, memory⟩
  cases done with
  | true => exact (Asks.pure _).mono (Nat.zero_le _)
  | false =>
      have hAsk :
          Asks prompt ([.passphrase number].count prompt)
            (askPassphrase env number) := by
        unfold askPassphrase
        split
        · exact (Asks.pure _).mono (Nat.zero_le _)
        · exact asks_readPassphrase _
      refine hAsk.before_none fun passphrase => ?_
      refine (asks_onLink _).after_none ?_
      rintro ⟨done, memory⟩
      exact Asks.pure _

/- One identity file has one prompt, that of its number. -/
theorem asks_rsaFile
    (number : Nat)
    (file : KeyFileRead) :
    Asks prompt ([.passphrase number].count prompt)
      (tryRsaAuthentication env keys number file) := by
  refine (asks_onLink _).after_none ?_
  rintro ⟨loaded, memory⟩
  cases loaded with
  | false => exact (Asks.pure _).mono (Nat.zero_le _)
  | true =>
      refine (asks_offerKey _).after_none
        fun challenge => ?_
      cases challenge with
      | none => exact (Asks.pure _).mono (Nat.zero_le _)
      | some challenge =>
          refine (asks_loadWithPassphrase number
            file).before_none fun loaded => ?_
          cases loaded with
          | none =>
              exact (asks_packetSend _ _).after_none
                fun _ =>
                  (asks_packetReadExpect _).after_none
                    fun _ => Asks.pure _
          | some prv => exact asks_respondTo _ _

/- The prompts of one kind, from this number on. -/
def promptsFrom
    (kind : Nat → Prompt)
    (first count : Nat) : List Prompt :=
  (List.range' first count).map kind

/- The first prompt, and those after it. -/
theorem count_promptsFrom_succ
    (kind : Nat → Prompt)
    (first count : Nat) :
    (promptsFrom kind first (count + 1)).count prompt =
      [kind first].count prompt +
        (promptsFrom kind (first + 1) count).count prompt := by
  unfold promptsFrom
  rw [List.range'_succ, List.map_cons, ← List.count_append,
    List.singleton_append]

/- Each file has a prompt of its own. -/
theorem asks_identityFiles
    (number : Nat)
    (files : List KeyFileRead) :
    Asks prompt
      ((promptsFrom .passphrase number files.length).count
        prompt)
      (tryIdentityFiles env keys number files) := by
  induction files generalizing number with
  | nil => exact Asks.pure _
  | cons file files ih =>
      rw [List.length_cons, count_promptsFrom_succ]
      refine (asks_rsaFile number file).bind
        fun accepted => ?_
      cases accepted with
      | true => exact (Asks.pure _).mono (Nat.zero_le _)
      | false => exact ih (number + 1)

/- The files in their order, each with its own prompt. -/
theorem asks_tryRsa :
    Asks prompt
      ((promptsFrom .passphrase 0
        env.identityFiles.length).count prompt)
      (tryRsa env keys) := by
  refine (asks_agent _).after_none fun accepted => ?_
  cases accepted with
  | true => exact (Asks.pure _).mono (Nat.zero_le _)
  | false => exact asks_identityFiles 0 _

/- The TIS question is put to the user once. -/
theorem asks_tis :
    Asks prompt ([Prompt.tis].count prompt)
      (tryTisAuthentication env) := by
  refine (asks_packetSend _ _).after_none fun _ => ?_
  refine (asks_onLink _).after_none fun type => ?_
  split
  · exact (Asks.pure _).mono (Nat.zero_le _)
  split
  · exact (asks_onLink _).mono (Nat.zero_le _)
  refine (asks_onLink _).after_none fun _ => ?_
  refine (asks_readPassphrase _).before_none
    fun password => ?_
  exact (asks_packetSend _ _).after_none fun _ =>
    asks_readVerdict _

/- Each attempt has a prompt of its own. -/
theorem asks_passwords
    (attempt prompts : Nat) :
    Asks prompt
      ((promptsFrom .password attempt prompts).count prompt)
      (tryPasswords env attempt prompts) := by
  induction prompts generalizing attempt with
  | zero => exact Asks.pure _
  | succ prompts ih =>
      rw [count_promptsFrom_succ]
      refine (asks_readPassphrase _).bind
        fun password => ?_
      refine (asks_packetSend _ _).after_none fun _ => ?_
      refine (asks_readVerdict _).after_none
        fun accepted => ?_
      cases accepted with
      | true => exact (Asks.pure _).mono (Nat.zero_le _)
      | false => exact ih (attempt + 1)

/- A way that is not used asks nothing. -/
theorem asks_tryIf
    {used : Bool}
    {bound : Nat}
    {way : LoggingIn Bool}
    (hWay : Asks prompt bound way) :
    Asks prompt bound (tryIf used way) := by
  unfold tryIf
  split
  · exact hWay
  · exact (Asks.pure _).mono (Nat.zero_le _)

theorem asks_tryWays_nil :
    Asks prompt 0 (tryWays []) :=
  Asks.stop _

/- One way more, and its questions. -/
theorem asks_tryWays_cons
    {first bound : Nat}
    {way : LoggingIn Bool}
    {rest : List (LoggingIn Bool)}
    (hWay : Asks prompt first way)
    (hRest : Asks prompt bound (tryWays rest)) :
    Asks prompt (first + bound) (tryWays (way :: rest)) := by
  refine hWay.bind fun accepted => ?_
  cases accepted with
  | true => exact (Asks.pure _).mono (Nat.zero_le _)
  | false => exact hRest

end LoggingIn

open LoggingIn in
/- The prompts at which the user may be asked. -/
def ClientLoginEnv.prompts
    (env : ClientLoginEnv) : List Prompt :=
  promptsFrom .passphrase 0 env.identityFiles.length ++
    ([.tis] ++
      promptsFrom .password 0
        env.options.numberOfPasswordPrompts)

namespace LoggingIn

open Recorded

variable {env : ClientLoginEnv} {keys : ServerKeys}
variable {prompt : Prompt}

/- All the ways together ask what the configuration lists. -/
theorem asks_tryWays :
    Asks prompt (env.prompts.count prompt)
      (tryWays (ways env keys)) := by
  have hUser : Asks prompt 0 (sendUser env) :=
    (asks_packetSend _ _).after_none fun _ =>
      asks_readVerdict _
  have hRhosts :
      Asks prompt 0 (tryRhostsAuthentication env) :=
    (asks_packetSend _ _).after_none fun _ =>
      asks_readVerdict _
  have hWays :
      Asks prompt
        (0 + (0 + (0 +
          ((promptsFrom .passphrase 0
              env.identityFiles.length).count prompt +
            ([Prompt.tis].count prompt +
              ((promptsFrom .password 0
                  env.options.numberOfPasswordPrompts).count
                    prompt +
                0))))))
        (tryWays (ways env keys)) :=
    asks_tryWays_cons hUser
      (asks_tryWays_cons (asks_tryIf hRhosts)
        (asks_tryWays_cons (asks_tryIf asks_hostKey)
          (asks_tryWays_cons (asks_tryIf asks_tryRsa)
            (asks_tryWays_cons (asks_tryIf asks_tis)
              (asks_tryWays_cons
                (asks_tryIf (asks_passwords _ _))
                asks_tryWays_nil)))))
  refine Asks.mono hWays ?_
  unfold ClientLoginEnv.prompts
  rw [List.count_append, List.count_append]
  omega

/- The whole login asks each prompt as often as it is listed. -/
theorem atMost_sshLogin :
    AtMost (ClientLoginEvent.isAskedAt prompt)
      (env.prompts.count prompt) (sshLogin env) := by
  refine asks_readServerKeys.atMost.after_none
    fun keys => ?_
  refine (asks_record rfl).atMost.after_none fun _ => ?_
  refine (atMost_judgeHost _).after_none fun _ => ?_
  refine asks_sendSessionKey.atMost.after_none fun _ => ?_
  exact asks_tryWays.atMost

/- No prompt is there twice. -/
theorem nodup_prompts
    (env : ClientLoginEnv) :
    env.prompts.Nodup := by
  unfold ClientLoginEnv.prompts promptsFrom
  have hPassphrases :
      ((List.range' 0 env.identityFiles.length).map
        Prompt.passphrase).Nodup :=
    (List.nodup_range' 1 Nat.one_pos).map fun _ _ hSame =>
      Prompt.passphrase.inj hSame
  have hPasswords :
      ((List.range' 0
        env.options.numberOfPasswordPrompts).map
          Prompt.password).Nodup :=
    (List.nodup_range' 1 Nat.one_pos).map fun _ _ hSame =>
      Prompt.password.inj hSame
  refine hPassphrases.append
    ((List.nodup_singleton _).append hPasswords ?_) ?_
  · simp [List.Disjoint]
  · simp [List.Disjoint]

end LoggingIn

/- Whether a prompt is one of those of the login. -/
def ClientLoginEnv.mayAsk
    (env : ClientLoginEnv) : Prompt → Bool
| .passphrase file => file < env.identityFiles.length
| .tis => true
| .password attempt =>
    attempt < env.options.numberOfPasswordPrompts

/- A prompt is listed when the configuration allows it. -/
theorem ClientLoginEnv.mem_prompts_iff
    {env : ClientLoginEnv}
    {prompt : Prompt} :
    prompt ∈ env.prompts ↔ env.mayAsk prompt = true := by
  unfold ClientLoginEnv.prompts LoggingIn.promptsFrom
    ClientLoginEnv.mayAsk
  cases prompt <;> simp

/-
  Where a login returns, nothing is forwarded to a host with
  a changed key, and everything that was to any other one.
  The key is the one that the server has sent first.
-/
def ForwardsAsAllowed
    (env : ClientLoginEnv)
    (start : ClientLoginState)
    (run : Recorded.Run ClientLoginEvent Ending
      ClientLoginState Unit) : Prop :=
  ∀ state,
    run.result = .ok ((), state) →
      ∃ keys,
        KeysMet env keys run.events ∧
          state.forwarding =
            if env.hostStatus keys.hostKey = .changed then
              (false, false, 0, 0)
            else
              start.forwarding

theorem sshLogin_forwarding
    (env : ClientLoginEnv)
    (state : ClientLoginState) :
    ForwardsAsAllowed env state (sshLogin env state) := by
  have hRead : LoggingIn.Asks .tis 0
      LoggingIn.readServerKeys :=
    LoggingIn.asks_readServerKeys
  intro state₅ hResult
  unfold sshLogin at hResult ⊢
  rcases Recorded.bind_ok hResult with
    ⟨keys, state₁, hKeys, hResult, hEvents⟩
  have hFollows :
      LoggingIn.Keeps env (· = []) LoggingIn.readServerKeys
        KeysReceived :=
    LoggingIn.keeps_readServerKeys
  have hReceived := hFollows.returns hKeys
  rw [hEvents]
  rcases Recorded.bind_ok hResult with
    ⟨_, state₂, hMet, hResult, hEvents⟩
  rw [hEvents]
  rcases Recorded.bind_ok hResult with
    ⟨_, state₃, hJudge, hResult, _⟩
  rcases Recorded.bind_ok hResult with
    ⟨_, state₄, hKeyed, hWays, _⟩
  have hSent : LoggingIn.Asks .tis 0
      (LoggingIn.sendSessionKey env keys) :=
    LoggingIn.asks_sendSessionKey
  have hTried : LoggingIn.Asks .tis
      (env.prompts.count .tis)
      (LoggingIn.tryWays (LoggingIn.ways env keys)) :=
    LoggingIn.asks_tryWays
  refine ⟨keys, ?_, ?_⟩
  · exact ⟨_, _, rfl, hReceived⟩
  · have hJudged :=
      LoggingIn.forwarding_judgeHost _ _ _ _ hJudge
    cases hMet
    rw [hTried.leads _ _ _ hWays,
      hSent.leads _ _ _ hKeyed, hJudged,
      hRead.leads _ _ _ hKeys]

end Ssh1
