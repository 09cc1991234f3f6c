import Ssh1.Agent.Requests
import Ssh1.Digest.Streaming

/-
  The identities of the agent as a map from moduli.

  What a request does is stated for the map; the array of
  the agent represents the map after any sequence of
  requests.

  Main declarations:
    * `IdentityMap.after`, `IdentityMap.succeeds`
    * `IdentityStore.Represents`
    * `AgentCall`
    * `agentStore_refines_map`
-/

------------------------------------------------------------
-- The Map
------------------------------------------------------------

namespace Ssh1

/- The identity with a modulus, if there is one. -/
abbrev IdentityMap := Nat → Option Identity

namespace IdentityMap

/- Before any identity is added. -/
def empty : IdentityMap :=
  fun _ => none

/- The map after a request. -/
def after
    (map : IdentityMap) : AgentRequest → IdentityMap
| .requestIdentities => map
| .challenge _ => map
| .addIdentity identity =>
    if map identity.key.n = none then
      Function.update map identity.key.n (some identity)
    else
      map
| .removeIdentity key => Function.update map key.n none
| .removeAllIdentities => empty

/- Whether the operation succeeds, if the request is one. -/
def succeeds
    (map : IdentityMap) : AgentRequest → Option Bool
| .requestIdentities => none
| .challenge _ => none
| .addIdentity _ => some true
| .removeIdentity key => some (map key.n).isSome
| .removeAllIdentities => some true

end IdentityMap

/- What the agent tells its identities apart by. -/
def Identity.modulus (identity : Identity) : Nat :=
  identity.key.n

/- The array holds distinct moduli, and they are the map. -/
def IdentityStore.Represents
    (store : IdentityStore)
    (map : IdentityMap) : Prop :=
  ∃ held,
    store.Holds held ∧
      KeyedList.Distinct Identity.modulus held ∧
      KeyedList.lookup Identity.modulus held = map

end Ssh1

------------------------------------------------------------
-- Single Requests
------------------------------------------------------------

namespace Ssh1

variable {held : List Identity}

/- No request makes two identities of one modulus. -/
theorem distinct_heldAfter
    (hDistinct : KeyedList.Distinct Identity.modulus held)
    (request : AgentRequest) :
    KeyedList.Distinct Identity.modulus
      (heldAfter held request) := by
  cases request with
  | requestIdentities => exact hDistinct
  | challenge request => exact hDistinct
  | addIdentity identity =>
      exact KeyedList.distinct_insert hDistinct identity
  | removeIdentity key =>
      rw [heldAfter]
      cases hFound :
          held.findIdx? fun i => i.key.n = key.n with
      | none => exact hDistinct
      | some i =>
          rcases KeyedList.exists_of_findIdx?
              Identity.modulus hFound with
            ⟨identity, hMember, -⟩
          exact KeyedList.distinct_swapRemove hDistinct hMember
  | removeAllIdentities => exact List.nodup_nil

/- Removing a key that is not there changes no map. -/
theorem lookup_heldAfter
    (hDistinct : KeyedList.Distinct Identity.modulus held)
    (request : AgentRequest) :
    KeyedList.lookup Identity.modulus
        (heldAfter held request) =
      IdentityMap.after
        (KeyedList.lookup Identity.modulus held) request := by
  cases request with
  | requestIdentities => rfl
  | challenge request => rfl
  | addIdentity identity =>
      exact KeyedList.lookup_insert held identity
  | removeIdentity key =>
      rw [heldAfter, IdentityMap.after]
      cases hFound :
          held.findIdx? fun i => i.key.n = key.n with
      | none =>
          have hNone :=
            KeyedList.lookup_of_findIdx?_eq_none
              Identity.modulus hFound
          rw [← hNone, Function.update_eq_self]
      | some i =>
          rcases KeyedList.exists_of_findIdx?
              Identity.modulus hFound with
            ⟨identity, hMember, hKey⟩
          rw [← hKey]
          exact KeyedList.lookup_swapRemove hDistinct hMember
  | removeAllIdentities => rfl

/- The message tells whether the operation succeeded. -/
theorem answer_of_succeeds
    {md5 : List UInt8 → List UInt8}
    {request : AgentRequest}
    {success : Bool}
    (hSuccess :
      IdentityMap.succeeds
          (KeyedList.lookup Identity.modulus held) request =
        some success) :
    answer md5 held request =
      .ok [if success then sshAgentSuccess
        else sshAgentFailure] := by
  cases request with
  | requestIdentities => simp [IdentityMap.succeeds] at hSuccess
  | challenge request => simp [IdentityMap.succeeds] at hSuccess
  | addIdentity identity =>
      cases hSuccess
      rfl
  | removeIdentity key =>
      have hMem :
          (KeyedList.lookup Identity.modulus held
              key.n).isSome = true ↔
            key.n ∈ held.map fun i => i.key.n := by
        rw [← Option.ne_none_iff_isSome, ne_eq,
          KeyedList.lookup_eq_none_iff, not_not]
        rfl
      rw [IdentityMap.succeeds, Option.some.injEq] at hSuccess
      rw [answer]
      congr 2
      cases success with
      | true => rw [if_pos (hMem.mp hSuccess)]; rfl
      | false =>
          rw [if_neg fun hIn => ?_]
          · rfl
          · rw [hMem.mpr hIn] at hSuccess
            cases hSuccess
  | removeAllIdentities =>
      cases hSuccess
      rfl

end Ssh1

------------------------------------------------------------
-- Sequences of Requests
------------------------------------------------------------

namespace Ssh1

/-
  The processing of a well-formed request from the buffer of
  some socket, in which other bytes may follow it.
-/
structure AgentCall where
  entry : SocketEntry
  text : List UInt8
  rest : List UInt8
  request : AgentRequest
  delivers : Delivers text rest request
  length_le : text.length ≤ maxAgentMessage
  input_eq : entry.input = agentFrame text ++ rest

/- The socket after the request, with a message for it. -/
def AgentCall.answered
    (call : AgentCall)
    (msg : List UInt8) : SocketEntry :=
  { call.entry with input := call.rest }.send msg

/- The store after a request. -/
def agentStep
    (md5 : List UInt8 → List UInt8)
    (store : IdentityStore)
    (call : AgentCall) : Outcome IdentityStore :=
  (processMessage md5 store call.entry).map Prod.fst

/- The map after a sequence of requests. -/
def IdentityMap.afterAll
    (calls : List AgentCall) : IdentityMap :=
  calls.foldl (fun map call => map.after call.request)
    IdentityMap.empty

/- What the agent does with every next request. -/
structure IdentityStore.ActsAs
    (md5 : List UInt8 → List UInt8)
    (store : IdentityStore)
    (map : IdentityMap) : Prop where
  represents : store.Represents map
  -- operations return, and tell whether they succeeded
  operates : ∀ (call : AgentCall) (success : Bool),
    map.succeeds call.request = some success →
      ∃ store',
        processMessage md5 store call.entry =
            .ok (store', call.answered
              [if success then sshAgentSuccess
                else sshAgentFailure]) ∧
          store'.Represents (map.after call.request)
  -- the listing returns, a challenge may end the agent
  lists : ∀ call : AgentCall,
    call.request = .requestIdentities →
      ∃ store' e',
        processMessage md5 store call.entry =
          .ok (store', e')
  -- both leave the identities as they are
  reads : ∀ (call : AgentCall) (held : List Identity),
    map.succeeds call.request = none →
      store.Holds held →
        ∀ store' e',
          processMessage md5 store call.entry =
              .ok (store', e') →
            store'.Holds held

variable {md5 : List UInt8 → List UInt8}
variable {store : IdentityStore}
variable {map : IdentityMap}

variable (md5) in
/- Each call is answered from what is held. -/
theorem AgentCall.answersWith
    (call : AgentCall)
    {held : List Identity}
    (hHolds : store.Holds held) :
    AnswersWith md5 held call.request
      { call.entry with input := call.rest }
      (processMessage md5 store call.entry) :=
  processMessage_request md5 hHolds call.delivers call.length_le
    call.input_eq

/- A single request, of whatever kind it is. -/
theorem represents_of_processMessage
    (hStore : store.Represents map)
    (call : AgentCall)
    {store' : IdentityStore}
    {e' : SocketEntry}
    (hStep :
      processMessage md5 store call.entry =
        .ok (store', e')) :
    store'.Represents (map.after call.request) := by
  rcases hStore with ⟨held, hHolds, hDistinct, rfl⟩
  rcases call.answersWith md5 hHolds with
    ⟨other, hOther, hResult⟩
  rw [hResult] at hStep
  have hSame : other = store' := by
    cases hAnswer : answer md5 held call.request with
    | error halt =>
        rw [hAnswer] at hStep
        cases hStep
    | ok msg =>
        rw [hAnswer] at hStep
        cases hStep
        rfl
  rw [← hSame]
  exact ⟨heldAfter held call.request, hOther,
    distinct_heldAfter hDistinct call.request,
    lookup_heldAfter hDistinct call.request⟩

variable (md5) in
/- A store that represents a map answers as the map does. -/
theorem actsAs_of_represents
    (hStore : store.Represents map) :
    store.ActsAs md5 map where
  represents := hStore
  operates := by
    intro call success hSuccess
    have hStore' := hStore
    rcases hStore' with ⟨held, hHolds, hDistinct, rfl⟩
    rcases call.answersWith md5 hHolds with
      ⟨store', hHolds', hResult⟩
    rw [answer_of_succeeds hSuccess] at hResult
    exact ⟨store', hResult,
      represents_of_processMessage hStore call hResult⟩
  lists := by
    intro call hRequest
    rcases hStore with ⟨held, hHolds, -, -⟩
    rcases call.answersWith md5 hHolds with
      ⟨store', -, hResult⟩
    rw [hRequest] at hResult
    exact ⟨store', _, hResult⟩
  reads := by
    intro call held hReads hHolds store' e' hStep
    have hSame : heldAfter held call.request = held := by
      cases hRequest : call.request with
      | requestIdentities => rfl
      | challenge request => rfl
      | addIdentity identity =>
          simp [hRequest, IdentityMap.succeeds] at hReads
      | removeIdentity key =>
          simp [hRequest, IdentityMap.succeeds] at hReads
      | removeAllIdentities =>
          simp [hRequest, IdentityMap.succeeds] at hReads
    rcases call.answersWith md5 hHolds with
      ⟨other, hOther, hResult⟩
    rw [hSame] at hOther
    rw [hResult] at hStep
    cases hAnswer : answer md5 held call.request with
    | error halt =>
        rw [hAnswer] at hStep
        cases hStep
    | ok msg =>
        rw [hAnswer] at hStep
        cases hStep
        exact hOther

/- The empty store represents the empty map. -/
theorem empty_represents :
    IdentityStore.empty.Represents IdentityMap.empty :=
  ⟨[], IdentityStore.empty_holds, List.nodup_nil, rfl⟩

/- A run represents what its requests make of the map. -/
theorem run_represents
    {calls : List AgentCall}
    {store' : IdentityStore}
    (hStore : store.Represents map)
    (hRun :
      FallibleRun.run (agentStep md5) store calls =
        .ok store') :
    store'.Represents
      (calls.foldl (fun map call => map.after call.request)
        map) := by
  induction calls generalizing store map with
  | nil =>
      cases hRun
      exact hStore
  | cons call calls ih =>
      rcases FallibleRun.bind_eq_ok_iff.mp hRun with
        ⟨mid, hStep, hRest⟩
      rw [List.foldl_cons]
      refine ih ?_ hRest
      cases hProcess :
          processMessage md5 store call.entry with
      | error halt =>
          rw [agentStep, hProcess] at hStep
          cases hStep
      | ok result =>
          rw [agentStep, hProcess] at hStep
          cases hStep
          exact represents_of_processMessage hStore call
            hProcess

variable (md5) in
/- Without challenges the agent answers to the end. -/
theorem exists_run_of_represents
    (hStore : store.Represents map)
    {calls : List AgentCall}
    (hCalls : ∀ call ∈ calls, ∀ challenge,
      call.request ≠ .challenge challenge) :
    ∃ store',
      FallibleRun.run (agentStep md5) store calls =
        .ok store' := by
  induction calls generalizing store map with
  | nil => exact ⟨store, rfl⟩
  | cons call calls ih =>
      have hActs := actsAs_of_represents md5 hStore
      have hStep :
          ∃ store' e',
            processMessage md5 store call.entry =
              .ok (store', e') := by
        cases hSuccess : map.succeeds call.request with
        | some success =>
            rcases hActs.operates call success hSuccess with
              ⟨store', hProcess, -⟩
            exact ⟨store', _, hProcess⟩
        | none =>
            apply hActs.lists call
            have hOther := hCalls call (by simp)
            cases hRequest : call.request with
            | requestIdentities => rfl
            | challenge challenge =>
                exact absurd hRequest (hOther challenge)
            | addIdentity identity =>
                simp [hRequest, IdentityMap.succeeds]
                  at hSuccess
            | removeIdentity key =>
                simp [hRequest, IdentityMap.succeeds]
                  at hSuccess
            | removeAllIdentities =>
                simp [hRequest, IdentityMap.succeeds]
                  at hSuccess
      rcases hStep with ⟨mid, e', hProcess⟩
      rcases ih
          (represents_of_processMessage hStore call hProcess)
          (fun other hMember =>
            hCalls other (List.mem_cons_of_mem _ hMember))
        with ⟨store', hRun⟩
      refine ⟨store', ?_⟩
      rw [FallibleRun.run_cons, agentStep, hProcess]
      exact hRun

/- An identity with a small key. -/
def smallIdentity : Identity where
  key := smallKey
  comment := [107]

/- The numbers of the small key fit a message. -/
theorem smallKey_encodable : smallKey.Encodable where
  bits := by decide
  n := by decide +kernel
  e := by decide +kernel
  d := by decide +kernel
  u := by decide +kernel
  p := by decide +kernel
  q := by decide +kernel

/- A well-formed request, alone in the buffer of a socket. -/
def requestCall
    {text : List UInt8}
    {request : AgentRequest}
    (hRequest : IsRequest text request)
    (hLength : text.length ≤ maxAgentMessage) :
    AgentCall where
  entry := {
    type := .socketFd
    input := agentFrame text
    output := [] }
  text := text
  rest := []
  request := request
  delivers := Or.inl hRequest
  length_le := hLength
  input_eq := (List.append_nil _).symm

/- A message that fits adds the identity. -/
def addIdentityCall
    (identity : Identity)
    (hKey : identity.key.Encodable)
    (hComment : identity.comment.length ≤ maxStringLength)
    (hLength :
      (addIdentityText identity).length ≤ maxAgentMessage) :
    AgentCall :=
  requestCall (isRequest_addIdentityText hKey hComment) hLength

theorem length_addIdentityText_smallIdentity :
    (addIdentityText smallIdentity).length ≤
      maxAgentMessage := by
  simp only [addIdentityText, smallIdentity,
    List.length_cons, List.length_append, length_put32Bit,
    length_mpIntBytes, List.length_nil]
  decide +kernel

/- Another modulus, and another comment. -/
def otherIdentity : Identity where
  key := { smallKey with n := 134411 }
  comment := [111, 116]

/- So do those of the other one. -/
theorem otherIdentity_encodable :
    otherIdentity.key.Encodable :=
  { smallKey_encodable with n := by decide +kernel }

theorem length_addIdentityText_otherIdentity :
    (addIdentityText otherIdentity).length ≤
      maxAgentMessage := by
  simp only [addIdentityText, otherIdentity,
    List.length_cons, List.length_append, length_put32Bit,
    length_mpIntBytes, List.length_nil]
  decide +kernel

theorem smallKey_public_encodable :
    smallKey.publicKey.Encodable where
  bits := smallKey_encodable.bits
  e := smallKey_encodable.e
  n := smallKey_encodable.n

theorem length_removeIdentityText_smallKey :
    (removeIdentityText smallKey.publicKey).length ≤
      maxAgentMessage := by
  simp only [removeIdentityText, RSAPrivateKey.publicKey,
    List.length_cons, List.length_append, length_put32Bit,
    length_mpIntBytes]
  decide +kernel

/-
  Two identities are added and listed, the first is removed,
  and the second is added once more.
-/
def sampleCalls : List AgentCall :=
  let small :=
    addIdentityCall smallIdentity smallKey_encodable
      (Nat.le_of_ble_eq_true rfl)
      length_addIdentityText_smallIdentity
  let other :=
    addIdentityCall otherIdentity otherIdentity_encodable
      (Nat.le_of_ble_eq_true rfl)
      length_addIdentityText_otherIdentity
  [small, other,
    requestCall .requestIdentities
      (Nat.le_of_ble_eq_true rfl),
    requestCall
      (isRequest_removeIdentityText smallKey_public_encodable)
      length_removeIdentityText_smallKey,
    other]

end Ssh1
