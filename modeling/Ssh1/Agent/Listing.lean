import Ssh1.Agent.IdentityMap
import Mathlib.Data.List.TakeWhile

/-
  How a client reads the listing of the agent.

  The agent lists whatever it holds. The client accepts
  listings up to a length and up to a number of identities,
  and ends with an error message for others.

  Main declarations:
    * `sshGetFirstIdentity`, `sshGetNextIdentity`
    * `listIdentities`
    * `IsReachable`
    * `listing_readable_iff`
-/

------------------------------------------------------------
-- The Client
------------------------------------------------------------

namespace Ssh1

/- What the functions return of an identity. -/
structure ListedIdentity where
  bits : Nat
  e : Nat
  n : Nat
  comment : List UInt8
  deriving DecidableEq

/- The part of an `AuthenticationConnection` that lists. -/
structure AgentReply where
  identities : Buffer
  numIdentities : Int

/- The fields of one identity in the listing. -/
def readListed
    (input : Buffer) : Outcome (ListedIdentity × Buffer) := do
  let (bits, input) ← bufferGetInt input
  let (e, input) ← bufferGetMpInt input
  let (n, input) ← bufferGetMpInt input
  let (comment, input) ← bufferGetString input
  return (⟨bits, e, n, cString comment⟩, input)

/- Returns the next identity, or nothing at the end. -/
def sshGetNextIdentity
    (auth : AgentReply) :
    Outcome (Option ListedIdentity × AgentReply) :=
  if auth.numIdentities ≤ 0 then
    .ok (none, auth)
  else do
    let (identity, identities) ← readListed auth.identities
    return (some identity, {
      identities := identities
      numIdentities := auth.numIdentities - 1 })

/- The type and the count of a reply, and the first entry. -/
def getFirstEntry
    (identities : Buffer) :
    Outcome (Option ListedIdentity × AgentReply) := do
  let (type, identities) ← bufferGetChar identities
  if type ≠ sshAgentRsaIdentitiesAnswer then
    .error (.fatal
      ("Bad authentication reply message type: " ++
        toString type.toNat))
  else
    let (count, identities) ← bufferGetInt identities
    if toInt32 count > 1024 then
      .error (.fatal
        ("Too many identities in authentication reply: " ++
          toString (toInt32 count) ++ "\n"))
    else
      sshGetNextIdentity ⟨identities, toInt32 count⟩

/-
  Reads the reply from the socket, on which these bytes
  arrive, and returns the first identity. Nothing is returned
  where even the length is missing.
-/
def sshGetFirstIdentity
    (reply : List UInt8) :
    Outcome (Option ListedIdentity × AgentReply) :=
  if reply.length < 4 then
    .ok (none, ⟨[], 0⟩)
  else
    let len := toInt32 (get32Bit reply)
    if len < 1 ∨ len > 30 * 1024 then
      .error (.fatal
        ("Authentication reply message too long: " ++
          toString len ++ "\n"))
    else if reply.length - 4 < len.toNat then
      .error (.fatal "Incomplete authentication reply.")
    else
      getFirstEntry ((reply.drop 4).take len.toNat)

/- The identities that so many further calls return. -/
def listNext :
    (calls : Nat) → AgentReply →
    Outcome (List ListedIdentity)
| 0, _ => .ok []
| calls + 1, auth => do
    let (identity, auth) ← sshGetNextIdentity auth
    match identity with
    | none => return []
    | some identity => do
        let identities ← listNext calls auth
        return identity :: identities

/-
  The loop of a client over all identities. Every call but
  the last one takes an identity off the count.
-/
def listIdentities
    (reply : List UInt8) :
    Outcome (List ListedIdentity) := do
  let (identity, auth) ← sshGetFirstIdentity reply
  match identity with
  | none => return []
  | some identity => do
      let identities ←
        listNext (auth.numIdentities.toNat + 1) auth
      return identity :: identities

end Ssh1

------------------------------------------------------------
-- Reachable Identities
------------------------------------------------------------

namespace Ssh1

open FieldReader

variable {md5 : List UInt8 → List UInt8}

/-
  The identities after any messages were processed from the
  buffers of any sockets.
-/
def IsReachable
    (md5 : List UInt8 → List UInt8)
    (store : IdentityStore) : Prop :=
  ∃ entries : List SocketEntry,
    FallibleRun.run
        (fun store e =>
          (processMessage md5 store e).map Prod.fst)
        IdentityStore.empty entries = .ok store

/- What the fields of a message can hold. -/
structure Identity.Bounded (identity : Identity) : Prop where
  bits : identity.key.bits < 2 ^ 32
  e : mpzSizeinbase2 identity.key.e ≤ 8 * 8192
  n : mpzSizeinbase2 identity.key.n ≤ 8 * 8192
  comment : identity.comment.length ≤ maxStringLength

/- So many bytes have eight times as many bits. -/
theorem mpzSizeinbase2_ofBytes_le
    {digits : List UInt8}
    {count : Nat}
    (hPos : 0 < count)
    (hLength : digits.length ≤ count) :
    mpzSizeinbase2 (BigEndian.ofBytes digits) ≤ 8 * count := by
  apply mpzSizeinbase2_le (by omega)
  calc BigEndian.ofBytes digits
      < 256 ^ digits.length := BigEndian.ofBytes_lt digits
    _ ≤ 256 ^ count := Nat.pow_le_pow_right (by omega) hLength
    _ = 2 ^ (8 * count) := by rw [Nat.pow_mul]

/- An integer of a message has at most 65536 bits. -/
theorem mpzSizeinbase2_le_of_isMpInt
    {text : List UInt8}
    {value : Nat}
    (hField : IsMpInt text value) :
    mpzSizeinbase2 value ≤ 8 * 8192 := by
  rcases hField with
    ⟨count, digits, -, -, -, hDigits, rfl⟩
  have hCount : get16Bit count < 256 ^ 2 := by
    have hBound := BigEndian.ofBytes_lt (count.take 2)
    have hLength : (count.take 2).length ≤ 2 :=
      List.length_take_le 2 count
    exact lt_of_lt_of_le hBound
      (Nat.pow_le_pow_right (by omega) hLength)
  exact mpzSizeinbase2_ofBytes_le (by omega) (by omega)

/- An identity that was read from a message is bounded. -/
theorem bounded_of_isIdentity
    {text : List UInt8}
    {identity : Identity}
    (hField : IsIdentity text identity) :
    identity.Bounded := by
  rcases hField with
    ⟨_, key, _, -, hKey, _, comment, _, -, hComment, -, rfl⟩
  rcases hKey with
    ⟨_, bits, _, -, hBits, _, n, _, -, hN, _, e, _, -, hE, _,
      r, _, -, -, -, rfl⟩
  rcases hComment with ⟨count, -, -, -, hMax⟩
  refine ⟨?_, mpzSizeinbase2_le_of_isMpInt hE,
    mpzSizeinbase2_le_of_isMpInt hN, hMax⟩
  rw [hBits.2]
  exact get32Bit_lt _

/- The store holds these identities, which all came in. -/
structure IdentityStore.HoldsBounded
    (store : IdentityStore)
    (held : List Identity) : Prop where
  holds : store.Holds held
  distinct : KeyedList.Distinct Identity.modulus held
  bounded : ∀ identity ∈ held, identity.Bounded

variable {store : IdentityStore}
variable {held : List Identity}

/- Only an identity that is added is new. -/
theorem bounded_heldAfter
    (hHeld : ∀ identity ∈ held, identity.Bounded)
    {request : AgentRequest}
    (hAdded :
      ∀ identity, request = .addIdentity identity →
        identity.Bounded) :
    ∀ identity ∈ heldAfter held request, identity.Bounded := by
  cases request with
  | requestIdentities => exact hHeld
  | challenge request => exact hHeld
  | addIdentity added =>
      intro identity hMember
      rw [heldAfter, KeyedList.insert] at hMember
      split at hMember
      · exact hHeld identity hMember
      · rcases List.mem_append.mp hMember with hOld | hNew
        · exact hHeld identity hOld
        · rw [List.mem_singleton.mp hNew]
          exact hAdded added rfl
  | removeIdentity key =>
      rw [heldAfter]
      cases hFound :
          held.findIdx? fun i => i.key.n = key.n with
      | none => exact hHeld
      | some i =>
          rcases KeyedList.exists_of_findIdx?
              Identity.modulus hFound with
            ⟨removed, hValue, -⟩
          intro identity hMember
          have hPerm := KeyedList.swapRemove_perm hValue
          exact hHeld identity
            (hPerm.mem_iff.mpr (List.mem_cons_of_mem _ hMember))
  | removeAllIdentities =>
      intro identity hMember
      cases hMember

/- A request leaves the identities bounded. -/
theorem AnswersWith.holdsBounded
    {request : AgentRequest}
    {e e' : SocketEntry}
    {store' : IdentityStore}
    (hAnswers :
      AnswersWith md5 held request e (.ok (store', e')))
    (hStore : store.HoldsBounded held)
    (hAdded :
      ∀ identity, request = .addIdentity identity →
        identity.Bounded) :
    ∃ held', store'.HoldsBounded held' := by
  rcases hAnswers with ⟨other, hOther, hResult⟩
  refine ⟨heldAfter held request, ?_,
    distinct_heldAfter hStore.distinct request,
    bounded_heldAfter hStore.bounded hAdded⟩
  cases hAnswer : answer md5 held request with
  | error halt =>
      rw [hAnswer] at hResult
      cases hResult
  | ok msg =>
      rw [hAnswer] at hResult
      cases hResult
      exact hOther

/- Whatever is dispatched, bounded identities are left. -/
theorem holdsBounded_of_dispatch
    (hStore : store.HoldsBounded held)
    {type : UInt8}
    {e : SocketEntry}
    {store' : IdentityStore}
    {e' : SocketEntry}
    (hRun : dispatch md5 type store e = .ok (store', e')) :
    ∃ held', store'.HoldsBounded held' := by
  have hHolds := hStore.holds
  unfold dispatch at hRun
  split at hRun
  · have hAnswers :=
      processRequestIdentity_answers md5 hHolds e
    rw [hRun] at hAnswers
    exact hAnswers.holdsBounded hStore (by simp)
  · split at hRun
    · cases hRead : readChallenge e.input with
      | error halt =>
          rw [processAuthenticationChallenge, hRead] at hRun
          cases hRun
      | ok result =>
          have hAnswers :=
            processAuthenticationChallenge_answers md5 hHolds hRead
          rw [hRun] at hAnswers
          exact hAnswers.holdsBounded hStore (by simp)
    · split at hRun
      · cases hRead : readIdentity e.input with
        | error halt =>
            rw [processAddIdentity, hRead] at hRun
            cases hRun
        | ok result =>
            have hAnswers :=
              processAddIdentity_answers md5 hHolds hRead
            rcases reads_readIdentity.sound _ _ _ hRead with
              ⟨text, hField, -⟩
            rw [hRun] at hAnswers
            apply hAnswers.holdsBounded hStore
            intro identity hAdd
            cases hAdd
            exact bounded_of_isIdentity hField
      · split at hRun
        · cases hRead : readPublicKey e.input with
          | error halt =>
              rw [processRemoveIdentity, hRead] at hRun
              cases hRun
          | ok result =>
              have hAnswers :=
                processRemoveIdentity_answers md5 hHolds hRead
              rw [hRun] at hAnswers
              exact hAnswers.holdsBounded hStore (by simp)
        · split at hRun
          · have hAnswers :=
              processRemoveAllIdentities_answers md5 hHolds e
            rw [hRun] at hAnswers
            exact hAnswers.holdsBounded hStore (by simp)
          · split at hRun
            · cases hRun
              exact ⟨held, hStore⟩
            · cases hRun
              exact ⟨held, hStore⟩

/- So does every message. -/
theorem holdsBounded_of_processMessage
    (hStore : store.HoldsBounded held)
    {e : SocketEntry}
    {store' : IdentityStore}
    {e' : SocketEntry}
    (hRun : processMessage md5 store e = .ok (store', e')) :
    ∃ held', store'.HoldsBounded held' := by
  unfold processMessage at hRun
  split at hRun
  · cases hRun
    exact ⟨held, hStore⟩
  · simp only at hRun
    split at hRun
    · cases hRun
      exact ⟨held, hStore⟩
    · split at hRun
      · cases hRun
        exact ⟨held, hStore⟩
      · rcases FallibleRun.bind_eq_ok_iff.mp hRun with
          ⟨input, -, hType⟩
        rcases FallibleRun.bind_eq_ok_iff.mp hType with
          ⟨⟨type, input'⟩, -, hDispatch⟩
        exact holdsBounded_of_dispatch hStore hDispatch

/- The numbers of reachable identities came in messages. -/
theorem holdsBounded_of_isReachable
    (hReachable : IsReachable md5 store) :
    ∃ held, store.HoldsBounded held := by
  rcases hReachable with ⟨entries, hRun⟩
  have hEmpty : ∃ held, IdentityStore.empty.HoldsBounded held :=
    ⟨[], IdentityStore.empty_holds, List.nodup_nil, by simp⟩
  have hKeeps :
      ∀ (store : IdentityStore) (e : SocketEntry)
        (store' : IdentityStore),
        (∃ held, store.HoldsBounded held) →
          (processMessage md5 store e).map Prod.fst =
              .ok store' →
            ∃ held, store'.HoldsBounded held := by
    intro store e store' hStore hStep
    rcases hStore with ⟨held, hStore⟩
    cases hProcess : processMessage md5 store e with
    | error halt =>
        rw [hProcess] at hStep
        cases hStep
    | ok result =>
        rw [hProcess] at hStep
        cases hStep
        exact holdsBounded_of_processMessage hStore hProcess
  exact FallibleRun.run_invariant hKeeps hEmpty hRun

end Ssh1

------------------------------------------------------------
-- Reading the Listing
------------------------------------------------------------

namespace Ssh1

open FieldReader

/- What a client is to learn about an identity. -/
def Identity.listed (identity : Identity) : ListedIdentity where
  bits := identity.key.bits
  e := identity.key.e
  n := identity.key.n
  comment := cString identity.comment

/- The bit counts of the numbers fit into two bytes. -/
def Identity.Fits (identity : Identity) : Prop :=
  mpzSizeinbase2 identity.key.e < 65536 ∧
    mpzSizeinbase2 identity.key.n < 65536

variable {identity : Identity}

/- A string that was cut is not cut again. -/
theorem cString_cString
    (bytes : List UInt8) :
    cString (cString bytes) = cString bytes :=
  List.takeWhile_idem

/- A string that is cut gets no longer. -/
theorem length_cString_le
    (bytes : List UInt8) :
    (cString bytes).length ≤ bytes.length :=
  List.Sublist.length_le (List.takeWhile_sublist _)

/-
  The count of a number that is too long wraps to zero, and
  what is read for it is not in the message.
-/
theorem bufferGetMpInt_of_full
    {value : Nat}
    (hBits : mpzSizeinbase2 value = 65536)
    (rest : List UInt8) :
    bufferGetMpInt (mpIntBytes value ++ rest) =
      .error .outOfBounds := by
  rw [mpIntBytes, hBits, List.append_assoc]
  exact bufferGetMpInt_noBits _

/- The client reads an identity that fits. -/
theorem readListed_of_fits
    (hBounded : identity.Bounded)
    (hFits : identity.Fits)
    (rest : List UInt8) :
    readListed (identityBytes identity ++ rest) =
      .ok (identity.listed, rest) := by
  have hInt :=
    reads_bufferGetInt.complete _ _
      (mpIntBytes identity.key.e ++
        (mpIntBytes identity.key.n ++
          (put32Bit (cString identity.comment).length ++
            cString identity.comment ++ rest)))
      (isInt_put32Bit hBounded.bits)
  have hE :=
    bufferGetMpInt_mpIntBytes_append hFits.1
      (mpIntBytes identity.key.n ++
        (put32Bit (cString identity.comment).length ++
          cString identity.comment ++ rest))
  have hN :=
    bufferGetMpInt_mpIntBytes_append hFits.2
      (put32Bit (cString identity.comment).length ++
        cString identity.comment ++ rest)
  have hComment :=
    reads_bufferGetString.complete _ _ rest
      (isString_put32Bit_append
        (le_trans (length_cString_le identity.comment)
          hBounded.comment))
  have hShape :
      identityBytes identity ++ rest =
        put32Bit identity.key.bits ++
          (mpIntBytes identity.key.e ++
            (mpIntBytes identity.key.n ++
              (put32Bit (cString identity.comment).length ++
                cString identity.comment ++ rest))) := by
    simp [identityBytes]
  rw [readListed, hShape]
  simp only [hInt, hE, hN, hComment, FallibleRun.ok_bind,
    FallibleRun.pure_eq_ok, cString_cString]
  rfl

/- An identity that is read as it is fits. -/
theorem fits_of_readListed
    (hBounded : identity.Bounded)
    {rest rest' : List UInt8}
    (hRead :
      readListed (identityBytes identity ++ rest) =
        .ok (identity.listed, rest')) :
    identity.Fits := by
  have hInt :=
    reads_bufferGetInt.complete _ _
      (mpIntBytes identity.key.e ++
        (mpIntBytes identity.key.n ++
          (put32Bit (cString identity.comment).length ++
            cString identity.comment ++ rest)))
      (isInt_put32Bit hBounded.bits)
  have hShape :
      identityBytes identity ++ rest =
        put32Bit identity.key.bits ++
          (mpIntBytes identity.key.e ++
            (mpIntBytes identity.key.n ++
              (put32Bit (cString identity.comment).length ++
                cString identity.comment ++ rest))) := by
    simp [identityBytes]
  rw [readListed, hShape] at hRead
  simp only [hInt, FallibleRun.ok_bind] at hRead
  by_cases hE : mpzSizeinbase2 identity.key.e < 65536
  · refine ⟨hE, ?_⟩
    by_contra hN
    have hFull : mpzSizeinbase2 identity.key.n = 65536 := by
      have hBound := hBounded.n
      omega
    simp only [bufferGetMpInt_mpIntBytes_append hE,
      bufferGetMpInt_of_full hFull, FallibleRun.ok_bind,
      FallibleRun.error_bind] at hRead
    cases hRead
  · exfalso
    have hFull : mpzSizeinbase2 identity.key.e = 65536 := by
      have hBound := hBounded.e
      omega
    simp only [bufferGetMpInt_of_full hFull,
      FallibleRun.error_bind] at hRead
    cases hRead

end Ssh1

------------------------------------------------------------
-- The Loop over the Listing
------------------------------------------------------------

namespace Ssh1

variable {held : List Identity}

/- A listing that is not at its end has its next identity read. -/
theorem listNext_succ
    (calls count : Nat)
    (identities : Buffer) :
    listNext (calls + 1) ⟨identities, ((count + 1 : Nat) : Int)⟩ =
      (do
        let (identity, identities) ← readListed identities
        let listed ← listNext calls ⟨identities, (count : Int)⟩
        return identity :: listed) := by
  have hMore : ¬ ((count + 1 : Nat) : Int) ≤ 0 := by omega
  have hCount : ((count + 1 : Nat) : Int) - 1 = count := by omega
  rw [listNext, sshGetNextIdentity]
  simp only [if_neg hMore, hCount]
  cases readListed identities with
  | error halt => rfl
  | ok result => rfl

/- At the end of the count the client stops. -/
theorem listNext_zero
    (calls : Nat)
    (identities : Buffer) :
    listNext (calls + 1) ⟨identities, ((0 : Nat) : Int)⟩ =
      .ok [] :=
  rfl

/- The calls return what is held where all of it fits. -/
theorem listNext_iff
    (hHeld : ∀ identity ∈ held, identity.Bounded)
    {calls : Nat}
    (hCalls : held.length < calls) :
    listNext calls
          ⟨held.flatMap identityBytes, (held.length : Int)⟩ =
        .ok (held.map Identity.listed) ↔
      ∀ identity ∈ held, identity.Fits := by
  induction held generalizing calls with
  | nil =>
      rcases Nat.exists_eq_add_one_of_ne_zero
          (Nat.pos_iff_ne_zero.mp hCalls) with
        ⟨calls, rfl⟩
      simpa using listNext_zero calls []
  | cons identity held ih =>
      rcases Nat.exists_eq_add_one_of_ne_zero
          (Nat.ne_zero_of_lt hCalls) with
        ⟨calls, rfl⟩
      rw [List.forall_mem_cons] at hHeld ⊢
      rw [List.length_cons] at hCalls ⊢
      have hRest := ih hHeld.2 (Nat.lt_of_succ_lt_succ hCalls)
      rw [listNext_succ, List.flatMap_cons]
      constructor
      · intro hOk
        rcases FallibleRun.bind_eq_ok_iff.mp hOk with
          ⟨⟨first, rest⟩, hFirst, hOthers⟩
        rcases FallibleRun.bind_eq_ok_iff.mp hOthers with
          ⟨listed, hListed, hAll⟩
        cases hAll
        have hFits := fits_of_readListed hHeld.1 hFirst
        rw [readListed_of_fits hHeld.1 hFits] at hFirst
        cases hFirst
        exact ⟨hFits, hRest.mp hListed⟩
      · rintro ⟨hFits, hOthers⟩
        rw [readListed_of_fits hHeld.1 hFits]
        simp only [FallibleRun.ok_bind, hRest.mpr hOthers]
        rfl

/- No more identities are returned than are counted. -/
theorem length_le_of_listNext
    {calls : Nat}
    {auth : AgentReply}
    {listed : List ListedIdentity}
    (hOk : listNext calls auth = .ok listed) :
    listed.length ≤ auth.numIdentities.toNat := by
  induction calls generalizing auth listed with
  | zero =>
      cases hOk
      exact Nat.zero_le _
  | succ calls ih =>
      rw [listNext, sshGetNextIdentity] at hOk
      split at hOk
      · cases hOk
        exact Nat.zero_le _
      · rename_i hMore
        cases hRead : readListed auth.identities with
        | error halt =>
            rw [hRead] at hOk
            cases hOk
        | ok result =>
            simp only [hRead, FallibleRun.ok_bind,
              FallibleRun.pure_eq_ok] at hOk
            rcases FallibleRun.bind_eq_ok_iff.mp hOk with
              ⟨others, hOthers, hAll⟩
            cases hAll
            have hLength := ih hOthers
            rw [List.length_cons]
            simp only at hLength
            omega

end Ssh1

------------------------------------------------------------
-- Readable Listings
------------------------------------------------------------

namespace Ssh1

variable {md5 : List UInt8 → List UInt8}
variable {store : IdentityStore}
variable {held : List Identity}

/- A message that is not too long is looked into. -/
theorem sshGetFirstIdentity_agentFrame
    {text : List UInt8}
    (hLength : text.length < 2 ^ 31) :
    sshGetFirstIdentity (agentFrame text) =
      if text.length < 1 ∨ text.length > 30 * 1024 then
        .error (.fatal
          ("Authentication reply message too long: " ++
            toString (text.length : Int) ++ "\n"))
      else
        getFirstEntry text := by
  have hWord :
      toInt32 (get32Bit (agentFrame text)) = text.length := by
    rw [agentFrame, get32Bit_put32Bit_append (by omega),
      toInt32, if_pos hLength]
  have hTotal :
      (agentFrame text).length = 4 + text.length := by
    simp [agentFrame]
  have hDrop : (agentFrame text).drop 4 = text := by
    rw [agentFrame, List.drop_append]
    simp
  have hTake : text.take (text.length : Int).toNat = text := by
    simp
  rw [sshGetFirstIdentity, if_neg (by omega)]
  simp only [hWord, hDrop, hTake]
  have hAll :
      ¬ (agentFrame text).length - 4 <
        (text.length : Int).toNat := by
    rw [hTotal, Int.toNat_natCast]
    omega
  have hChecks :
      ((text.length : Int) < 1 ∨
          (text.length : Int) > 30 * 1024) ↔
        (text.length < 1 ∨ text.length > 30 * 1024) := by
    omega
  simp only [hChecks, if_neg hAll]

theorem length_identitiesAnswer
    (held : List Identity) :
    (identitiesAnswer held).length =
      5 + (held.flatMap identityBytes).length := by
  rw [identitiesAnswer, List.length_cons, List.length_append,
    length_put32Bit]
  omega

/- A listing that is short enough is read as it is. -/
theorem listIdentities_of_le
    (hLength : (identitiesAnswer held).length ≤ 30 * 1024)
    (hCount : held.length ≤ 1024) :
    listIdentities (agentFrame (identitiesAnswer held)) =
      listNext (held.length + 1)
        ⟨held.flatMap identityBytes, (held.length : Int)⟩ := by
  have hSome := length_identitiesAnswer held
  have hFirst :
      sshGetFirstIdentity
          (agentFrame (identitiesAnswer held)) =
        sshGetNextIdentity
          ⟨held.flatMap identityBytes, (held.length : Int)⟩ := by
    have hInt :
        toInt32 held.length = (held.length : Int) := by
      exact if_pos (show held.length < 2 ^ 31 by omega)
    have hWord :=
      bufferGetInt_put32Bit_append
        (show held.length < 2 ^ 32 by omega)
        (held.flatMap identityBytes)
    have hFew : ¬ (held.length : Int) > 1024 := by omega
    rw [sshGetFirstIdentity_agentFrame (by omega),
      if_neg (by omega), identitiesAnswer, getFirstEntry,
      bufferGetChar_cons, FallibleRun.ok_bind]
    simp only [ne_eq, not_true, if_false, hWord,
      FallibleRun.ok_bind, hInt, if_neg hFew]
  rw [listIdentities, hFirst]
  cases held with
  | nil => rfl
  | cons identity held =>
      have hMore : ¬ ((held.length + 1 : Nat) : Int) ≤ 0 := by
        omega
      rw [List.length_cons, listNext, sshGetNextIdentity,
        if_neg hMore]
      cases readListed _ with
      | error halt => rfl
      | ok result =>
          have hCalls :
              (((held.length + 1 : Nat) : Int) - 1).toNat =
                held.length := by
            omega
          simp only [FallibleRun.ok_bind,
            FallibleRun.pure_eq_ok, hCalls]

/- The count of a listing with an entry was checked. -/
theorem count_le_of_getFirstEntry
    {text : Buffer}
    {first : ListedIdentity}
    {auth : AgentReply}
    (hFirst : getFirstEntry text = .ok (some first, auth)) :
    auth.numIdentities + 1 ≤ 1024 := by
  rcases FallibleRun.bind_eq_ok_iff.mp hFirst with
    ⟨⟨type, identities⟩, -, hType⟩
  simp only at hType
  split at hType
  · cases hType
  · rcases FallibleRun.bind_eq_ok_iff.mp hType with
      ⟨⟨count, identities'⟩, -, hCount⟩
    simp only at hCount
    split at hCount
    · cases hCount
    · rename_i hFew
      unfold sshGetNextIdentity at hCount
      split at hCount
      · cases hCount
      · rcases FallibleRun.bind_eq_ok_iff.mp hCount with
          ⟨result, -, hResult⟩
        cases hResult
        simp only
        omega

/- What an identity takes in the listing is bounded. -/
theorem length_identityBytes_le
    {identity : Identity}
    (hBounded : identity.Bounded) :
    (identityBytes identity).length ≤ 278540 := by
  have hE := hBounded.e
  have hN := hBounded.n
  have hComment := hBounded.comment
  have hString := length_cString_le identity.comment
  rw [maxStringLength] at hComment
  simp only [identityBytes, List.length_append,
    length_put32Bit, length_mpIntBytes]
  omega

/- So is what all of them take. -/
theorem length_flatMap_identityBytes_le
    (hHeld : ∀ identity ∈ held, identity.Bounded) :
    (held.flatMap identityBytes).length ≤
      held.length * 278540 := by
  induction held with
  | nil => exact Nat.zero_le _
  | cons identity held ih =>
      rw [List.forall_mem_cons] at hHeld
      have hFirst := length_identityBytes_le hHeld.1
      have hOthers := ih hHeld.2
      rw [List.flatMap_cons, List.length_append,
        List.length_cons, Nat.succ_mul]
      omega

/-
  What is listed in full is short enough. The count comes
  first: it bounds the length below where it would wrap.
-/
theorem le_of_listIdentities
    (hHeld : ∀ identity ∈ held, identity.Bounded)
    (hOk :
      listIdentities (agentFrame (identitiesAnswer held)) =
        .ok (held.map Identity.listed)) :
    (identitiesAnswer held).length ≤ 30 * 1024 ∧
      held.length ≤ 1024 := by
  rcases FallibleRun.bind_eq_ok_iff.mp hOk with
    ⟨⟨first, auth⟩, hFirst, hOthers⟩
  cases first with
  | none =>
      have hNil : held = [] := by
        cases held with
        | nil => rfl
        | cons identity held => cases hOthers
      rw [hNil, length_identitiesAnswer]
      simp
  | some first =>
      rcases FallibleRun.bind_eq_ok_iff.mp hOthers with
        ⟨listed, hListed, hAll⟩
      have hLength :
          held.length = listed.length + 1 := by
        have hSame := congrArg
          (fun x : Outcome (List ListedIdentity) =>
            (x.toOption.getD []).length) hAll
        simpa [Except.toOption] using hSame.symm
      have hListedLength := length_le_of_listNext hListed
      have hReply :
          ∃ text,
            getFirstEntry text = .ok (some first, auth) := by
        unfold sshGetFirstIdentity at hFirst
        split at hFirst
        · cases hFirst
        · simp only at hFirst
          split at hFirst
          · cases hFirst
          · split at hFirst
            · cases hFirst
            · exact ⟨_, hFirst⟩
      rcases hReply with ⟨text, hReply⟩
      have hCount := count_le_of_getFirstEntry hReply
      have hFew : held.length ≤ 1024 := by omega
      have hBytes := length_flatMap_identityBytes_le hHeld
      have hTotal := length_identitiesAnswer held
      refine ⟨?_, hFew⟩
      by_contra hLong
      rw [sshGetFirstIdentity_agentFrame (by omega),
        if_pos (by omega)] at hFirst
      cases hFirst

/- What well-formed requests reach is reachable. -/
theorem isReachable_of_calls
    (calls : List AgentCall)
    (hRun :
      FallibleRun.run (agentStep md5) IdentityStore.empty
        calls = .ok store) :
    IsReachable md5 store :=
  ⟨calls.map AgentCall.entry, by
    rw [FallibleRun.run_map]
    exact hRun⟩

variable (md5) in
/- The agent adds the identity of such a call. -/
theorem agentStep_addIdentityCall
    (hHolds : store.Holds held)
    {identity : Identity}
    (hKey : identity.key.Encodable)
    (hComment : identity.comment.length ≤ maxStringLength)
    (hLength :
      (addIdentityText identity).length ≤ maxAgentMessage) :
    ∃ store',
      agentStep md5 store
          (addIdentityCall identity hKey hComment hLength) =
        .ok store' ∧
      store'.Holds
        (KeyedList.insert (fun i => i.key.n) held identity) := by
  rcases (addIdentityCall identity hKey hComment
      hLength).answersWith md5 hHolds with
    ⟨store', hHolds', hResult⟩
  refine ⟨store', ?_, hHolds'⟩
  rw [agentStep, hResult]
  rfl

theorem smallComment_le :
    smallIdentity.comment.length ≤ maxStringLength := by
  rw [maxStringLength]
  simp [smallIdentity]

/- A comment of 16000 letters. -/
def wordyComment : List UInt8 :=
  List.replicate 16000 107

theorem length_wordyComment : wordyComment.length = 16000 :=
  List.length_replicate

/- The comment has no zero byte. -/
theorem cString_wordyComment :
    cString wordyComment = wordyComment := by
  rw [cString, wordyComment, List.takeWhile_replicate]
  rfl

/- An identity whose comment is long. -/
def longIdentity (n : Nat) : Identity where
  key := { smallKey with n := n }
  comment := wordyComment

/- The numbers of the long identity fit a message. -/
theorem longIdentity_encodable
    {n : Nat}
    (hn : mpzSizeinbase2 n < 65536) :
    (longIdentity n).key.Encodable :=
  { smallKey_encodable with n := hn }

theorem longIdentity_comment_le
    (n : Nat) :
    (longIdentity n).comment.length ≤ maxStringLength := by
  rw [longIdentity, length_wordyComment, maxStringLength]
  omega

/- The message that adds it is short enough. -/
theorem length_addIdentityText_longIdentity
    {n : Nat}
    (hn : mpzSizeinbase2 n ≤ 24) :
    (addIdentityText (longIdentity n)).length ≤
      maxAgentMessage := by
  have hD : mpzSizeinbase2 smallKey.d ≤ 24 := by decide +kernel
  have hE : mpzSizeinbase2 smallKey.e ≤ 24 := by decide +kernel
  have hU : mpzSizeinbase2 smallKey.u ≤ 24 := by decide +kernel
  have hP : mpzSizeinbase2 smallKey.p ≤ 24 := by decide +kernel
  have hQ : mpzSizeinbase2 smallKey.q ≤ 24 := by decide +kernel
  simp only [addIdentityText, longIdentity, maxAgentMessage,
    List.length_cons, List.length_append, length_put32Bit,
    length_mpIntBytes, length_wordyComment]
  omega

/- In the listing it takes more than 16000 bytes. -/
theorem length_identityBytes_longIdentity
    {n : Nat}
    (hn : mpzSizeinbase2 n = 18) :
    (identityBytes (longIdentity n)).length = 16016 := by
  have hE : mpzSizeinbase2 smallKey.e = 2 := by decide +kernel
  simp only [identityBytes, longIdentity,
    cString_wordyComment, length_wordyComment,
    List.length_append, length_put32Bit, length_mpIntBytes,
    hE, hn]

/- The call that adds the identity of the long comment. -/
def addLongIdentity
    (n : Nat)
    (hn : mpzSizeinbase2 n = 18) : AgentCall :=
  addIdentityCall (longIdentity n)
    (longIdentity_encodable (by omega)) (longIdentity_comment_le n)
    (length_addIdentityText_longIdentity (by omega))

variable (md5) in
/- The agent adds it. -/
theorem agentStep_addLongIdentity
    (hHolds : store.Holds held)
    {n : Nat}
    (hn : mpzSizeinbase2 n = 18) :
    ∃ store',
      agentStep md5 store (addLongIdentity n hn) =
        .ok store' ∧
      store'.Holds
        (KeyedList.insert (fun i => i.key.n) held
          (longIdentity n)) :=
  agentStep_addIdentityCall md5 hHolds _ _ _

end Ssh1
