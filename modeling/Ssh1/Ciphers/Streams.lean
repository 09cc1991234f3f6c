import Ssh1.Ciphers.Arcfour
import Ssh1.Ciphers.Blowfish
import Ssh1.Ciphers.Des
import Ssh1.Ciphers.Idea
import Ssh1.Packet.RoundTrip

/-
  The ciphers of the program as a suite, and streams of
  messages under one key.

  `cipherSetKey` makes the same context for either direction.
  From equal contexts the two directions stay in step, since
  every mode does.

  Main declarations:
    * `CipherState`, `CipherState.encrypt`
    * `CipherState.Modes.transform`
    * `sshCiphers`
    * `cipherSetKey`
    * `CipherState.inStep`
    * `cipherStreams_inStep`
    * `invertsCalls_of_cipherSetKey`
    * `delivers_of_cipherSetKey`
-/

------------------------------------------------------------
-- States Of The Ciphers
------------------------------------------------------------

namespace Ssh1

/- The constant tables of the implementations. -/
structure CipherTables where
  des : DesTables
  blowfish : BlowfishTables

/- The union `u` of a context, with the member in use. -/
inductive CipherState where
  | none
  | idea (key : IdeaContext) (iv : List UInt8)
  | des (key : DesContext) (iv : List UInt8)
  | tripleDes (des3 : Des3State)
  | arcfour (ctx : ArcfourContext)
  | blowfish (ctx : BlowfishContext)
  deriving DecidableEq, Repr

namespace CipherState

/- The type of the contexts that use the member. -/
def type : CipherState → CipherType
| .none => .none
| .idea _ _ => .idea
| .des _ _ => .des
| .tripleDes _ => .tripleDes
| .arcfour _ => .arcfour
| .blowfish _ => .blowfish

/- The context with the member in use. -/
def context (u : CipherState) : CipherContext CipherState :=
  ⟨u.type, u⟩

/- What the switch calls for each of the types. -/
structure Modes where
  idea : IdeaContext → TextTransform (List UInt8)
  des : DesContext → TextTransform (List UInt8)
  tripleDes : TextTransform Des3State
  arcfour : TextTransform ArcfourContext
  blowfish : TextTransform BlowfishContext

/- The switch over the types, with the calls of its cases. -/
def Modes.transform
    (modes : Modes) : TextTransform CipherState
| .none, src => .ok (src, .none)
| .idea key iv, src => do
    let (dest, iv) ← modes.idea key iv src
    return (dest, .idea key iv)
| .des key iv, src => do
    let (dest, iv) ← modes.des key iv src
    return (dest, .des key iv)
| .tripleDes des3, src => do
    let (dest, des3) ← modes.tripleDes des3 src
    return (dest, .tripleDes des3)
| .arcfour ctx, src => do
    let (dest, ctx) ← modes.arcfour ctx src
    return (dest, .arcfour ctx)
| .blowfish ctx, src => do
    let (dest, ctx) ← modes.blowfish ctx src
    return (dest, .blowfish ctx)

variable (tables : CipherTables)

/- The calls of `cipher_encrypt`. -/
def encryptModes : Modes where
  idea := ideaCfbEncrypt
  des := desCbcEncrypt tables.des
  tripleDes := des3cbcEncrypt tables.des
  arcfour := arcfourEncrypt
  blowfish := blowfishCbcEncrypt

/- The calls of `cipher_decrypt`. -/
def decryptModes : Modes where
  idea := ideaCfbDecrypt
  des := desCbcDecrypt tables.des
  tripleDes := des3cbcDecrypt tables.des
  arcfour := arcfourDecrypt
  blowfish := blowfishCbcDecrypt

/- What `cipher_encrypt` calls for each of the types. -/
def encrypt : TextTransform CipherState :=
  (encryptModes tables).transform

/- What `cipher_decrypt` calls for each of the types. -/
def decrypt : TextTransform CipherState :=
  (decryptModes tables).transform

end CipherState

end Ssh1

------------------------------------------------------------
-- Modes In Step
------------------------------------------------------------

namespace Ssh1

namespace CipherState

variable (tables : CipherTables)

/- The mode without encryption. -/
theorem none_inStep :
    StaysInStep
      (fun (u : Unit) src => .ok (src, u))
      (fun (u : Unit) src => .ok (src, u)) := by
  intro u
  constructor
  · intro src _
    exact ⟨src, u, rfl, rfl, rfl⟩
  · intro src rest _ _
    rfl

/- The union only wraps the states of the modes. -/
theorem inStep :
    StaysInStep (encrypt tables) (decrypt tables) := by
  intro u
  cases u with
  | none =>
      exact InStepAt.wrap none_inStep
        (fun _ => CipherState.none)
        (fun _ _ => rfl) (fun _ _ => rfl) ()
  | idea key iv =>
      exact InStepAt.wrap (ideaCfb_inStep key)
        (CipherState.idea key)
        (fun _ _ => rfl) (fun _ _ => rfl) iv
  | des key iv =>
      exact InStepAt.wrap (desCbc_inStep tables.des key)
        (CipherState.des key)
        (fun _ _ => rfl) (fun _ _ => rfl) iv
  | tripleDes des3 =>
      exact InStepAt.wrap (des3cbc_inStep tables.des)
        CipherState.tripleDes
        (fun _ _ => rfl) (fun _ _ => rfl) des3
  | arcfour ctx =>
      exact InStepAt.wrap arcfour_inStep CipherState.arcfour
        (fun _ _ => rfl) (fun _ _ => rfl) ctx
  | blowfish ctx =>
      exact InStepAt.wrap blowfishCbc_inStep
        CipherState.blowfish
        (fun _ _ => rfl) (fun _ _ => rfl) ctx

end CipherState

end Ssh1

------------------------------------------------------------
-- The Suite
------------------------------------------------------------

namespace Ssh1

/- The call where it returns, else what it was given. -/
def CipherState.orUnchanged
    (call : Outcome (List UInt8 × CipherState))
    (u : CipherState)
    (src : List UInt8) : List UInt8 × CipherState :=
  match call with
  | .ok result => result
  | .error _ => (src, u)

namespace CipherState

variable (tables : CipherTables)

/- The calls give as many bytes as they take. -/
structure Modes.KeepLength (modes : Modes) : Prop where
  idea : ∀ key, KeepsLength (modes.idea key)
  des : ∀ key, KeepsLength (modes.des key)
  tripleDes : KeepsLength modes.tripleDes
  arcfour : KeepsLength modes.arcfour
  blowfish : KeepsLength modes.blowfish

theorem Modes.KeepLength.transform
    {modes : Modes}
    (hModes : modes.KeepLength) :
    KeepsLength modes.transform := by
  intro u src dest u' hOk
  cases u with
  | none =>
      cases hOk
      rfl
  | idea key iv =>
      exact KeepsLength.wrap (hModes.idea key)
        (CipherState.idea key) iv rfl hOk
  | des key iv =>
      exact KeepsLength.wrap (hModes.des key)
        (CipherState.des key) iv rfl hOk
  | tripleDes des3 =>
      exact KeepsLength.wrap hModes.tripleDes
        CipherState.tripleDes des3 rfl hOk
  | arcfour ctx =>
      exact KeepsLength.wrap hModes.arcfour
        CipherState.arcfour ctx rfl hOk
  | blowfish ctx =>
      exact KeepsLength.wrap hModes.blowfish
        CipherState.blowfish ctx rfl hOk

theorem encryptModes_keepLength :
    (encryptModes tables).KeepLength where
  idea := ideaCfbEncrypt_keepsLength
  des := fun _ => blockLoop_keepsLength _ _
  tripleDes := des3cbcEncrypt_keepsLength tables.des
  arcfour := arcfourEncrypt_keepsLength
  blowfish := blowfishCbcEncrypt_keepsLength

theorem decryptModes_keepLength :
    (decryptModes tables).KeepLength where
  idea := ideaCfbDecrypt_keepsLength
  des := fun _ => blockLoop_keepsLength _ _
  tripleDes := des3cbcDecrypt_keepsLength tables.des
  arcfour := arcfourEncrypt_keepsLength
  blowfish := blowfishCbcDecrypt_keepsLength

/- The length of what stands for a call that keeps it. -/
theorem length_orUnchanged
    {transform : TextTransform CipherState}
    (hKeeps : KeepsLength transform)
    (u : CipherState)
    (src : List UInt8) :
    (orUnchanged (transform u src) u src).1.length =
      src.length := by
  cases hCall : transform u src with
  | error halt => rfl
  | ok result => exact hKeeps u src _ _ hCall

end CipherState

/-
  The suite of the program. A context has the member of its
  type in use; the assertions are made by the switch.
-/
def sshCiphers
    (tables : CipherTables) : CipherSuite CipherState where
  ideaIv u :=
    match u with
    | .idea _ iv => iv
    | _ => []
  encrypt _ u src :=
    CipherState.orUnchanged
      (CipherState.encrypt tables u src) u src
  decrypt _ u src :=
    CipherState.orUnchanged
      (CipherState.decrypt tables u src) u src
  length_encrypt _ u src :=
    CipherState.length_orUnchanged
      (CipherState.encryptModes_keepLength tables).transform u
      src
  length_decrypt _ u src :=
    CipherState.length_orUnchanged
      (CipherState.decryptModes_keepLength tables).transform u
      src

end Ssh1

------------------------------------------------------------
-- Keys
------------------------------------------------------------

namespace Ssh1

/-
  Selects the cipher and sets the key. The key is padded to
  32 bytes for the ciphers that take a fixed number of them.
-/
def cipherSetKey
    (build : CipherBuild)
    (tables : CipherTables)
    (cipher : Nat)
    (key : List UInt8)
    (forEncryption : Bool) :
    Outcome (CipherContext CipherState) :=
  let padded :=
    key.take 32 ++ List.replicate (32 - key.length) 0
  let iv := List.replicate 8 0
  let unknown : Outcome (CipherContext CipherState) :=
    .error (.fatal
      ("cipher_set_key: unknown cipher: " ++
        toString cipher))
  match CipherType.ofNumber cipher with
  | .none => .ok CipherState.none.context
  | .idea =>
      if build.withIdea then
        .ok (CipherState.idea (ideaSetKey padded) iv).context
      else unknown
  | .des =>
      if build.withDes then
        .ok (CipherState.des (desSetKey tables.des padded)
          iv).context
      else unknown
  | .tripleDes =>
      let third :=
        if key.length ≤ 16 then padded else padded.drop 16
      .ok (CipherState.tripleDes
        { key1 := desSetKey tables.des padded, iv1 := iv,
          key2 := desSetKey tables.des (padded.drop 8),
          iv2 := iv,
          key3 := desSetKey tables.des third,
          iv3 := iv }).context
  | .arcfour =>
      if build.withArcfour then do
        let ctx ← arcfourInit key
        return (CipherState.arcfour ctx).context
      else unknown
  | .blowfish =>
      if build.withBlowfish then do
        let ctx ←
          blowfishSetKey tables.blowfish key forEncryption
        return (CipherState.blowfish ctx).context
      else unknown
  | .unknown _ => unknown

/- No cipher makes a difference between the directions. -/
theorem cipherSetKey_direction
    (build : CipherBuild)
    (tables : CipherTables)
    (cipher : Nat)
    (key : List UInt8)
    (forEncryption : Bool) :
    cipherSetKey build tables cipher key forEncryption =
      cipherSetKey build tables cipher key true :=
  rfl

/- The context has the member of its type in use. -/
theorem cipherSetKey_context
    {build : CipherBuild}
    {tables : CipherTables}
    {cipher : Nat}
    {key : List UInt8}
    {forEncryption : Bool}
    {context : CipherContext CipherState}
    (hSet :
      cipherSetKey build tables cipher key forEncryption =
        .ok context) :
    ∃ u : CipherState, context = u.context := by
  have hIf :
      ∀ {withCipher : Bool}
        {call : Outcome (CipherContext CipherState)}
        {message : String},
        (if withCipher then call
          else .error (.fatal message)) = .ok context →
        call = .ok context := by
    intro withCipher call message hOk
    cases withCipher with
    | true => exact hOk
    | false => cases hOk
  simp only [cipherSetKey] at hSet
  rcases hType : CipherType.ofNumber cipher with
    _ | _ | _ | _ | _ | _ | number
  all_goals simp only [hType] at hSet
  case none => exact ⟨_, (Except.ok.inj hSet).symm⟩
  case idea => exact ⟨_, (Except.ok.inj (hIf hSet)).symm⟩
  case des => exact ⟨_, (Except.ok.inj (hIf hSet)).symm⟩
  case tripleDes => exact ⟨_, (Except.ok.inj hSet).symm⟩
  case arcfour =>
      rcases FallibleRun.bind_eq_ok_iff.mp (hIf hSet) with
        ⟨ctx, -, hOk⟩
      exact ⟨_, (Except.ok.inj hOk).symm⟩
  case blowfish =>
      rcases FallibleRun.bind_eq_ok_iff.mp (hIf hSet) with
        ⟨ctx, -, hOk⟩
      exact ⟨_, (Except.ok.inj hOk).symm⟩
  case unknown => cases hSet

end Ssh1

------------------------------------------------------------
-- Calls Through The Switch
------------------------------------------------------------

namespace Ssh1

namespace CipherState

variable {tables : CipherTables}

/- No call changes which member is in use. -/
theorem Modes.type_transform
    {modes : Modes}
    {u u' : CipherState}
    {src dest : List UInt8}
    (hTo : modes.transform u src = .ok (dest, u')) :
    u'.type = u.type := by
  cases u with
  | none =>
      cases hTo
      rfl
  | _ =>
      rcases FallibleRun.bind_eq_ok_iff.mp hTo with
        ⟨⟨_, _⟩, _, hRest⟩
      cases hRest
      rfl

/-
  The switch calls the transformation of the member, and the
  assertion that it makes holds for whole blocks.
-/
theorem cipherSwitch_context
    {name : String}
    {transform :
      CipherType → CipherState → List UInt8 →
        List UInt8 × CipherState}
    {u u' : CipherState}
    {src dest : List UInt8}
    (hBlocks : src.length % 8 = 0)
    (hNone : u = .none → dest = src)
    (hType : u'.type = u.type)
    (hTo : transform u.type u src = (dest, u')) :
    cipherSwitch name transform u.context src =
      .ok (dest, u'.context) := by
  have hAssert := assert_whole hBlocks
  cases u with
  | none =>
      have hu' : u' = .none := by
        cases u' <;> first | rfl | cases hType
      subst hu'
      rw [hNone rfl]
      rfl
  | idea key iv =>
      simp only [cipherSwitch, context, hTo, hType]
      rfl
  | arcfour ctx =>
      simp only [cipherSwitch, context, hTo, hType]
      rfl
  | _ =>
      simp only [cipherSwitch, context, hTo, hType]
      simp only [type, hAssert]
      rfl

theorem cipherEncrypt_context
    {u u' : CipherState}
    {src dest : List UInt8}
    (hBlocks : src.length % 8 = 0)
    (hTo : encrypt tables u src = .ok (dest, u')) :
    cipherEncrypt (sshCiphers tables) u.context src =
      .ok (dest, u'.context) := by
  apply cipherSwitch_context hBlocks
  · intro hNone
    subst hNone
    cases hTo
    rfl
  · exact Modes.type_transform hTo
  · simp only [sshCiphers, orUnchanged, hTo]

theorem cipherDecrypt_context
    {u u' : CipherState}
    {src dest : List UInt8}
    (hBlocks : src.length % 8 = 0)
    (hTo : decrypt tables u src = .ok (dest, u')) :
    cipherDecrypt (sshCiphers tables) u.context src =
      .ok (dest, u'.context) := by
  apply cipherSwitch_context hBlocks
  · intro hNone
    subst hNone
    cases hTo
    rfl
  · exact Modes.type_transform hTo
  · simp only [sshCiphers, orUnchanged, hTo]

/- One message through both contexts. -/
theorem message_inStep
    (tables : CipherTables)
    (u : CipherState)
    {src : List UInt8}
    (hBlocks : src.length % 8 = 0) :
    ∃ (dest : List UInt8) (u' : CipherState),
      cipherEncrypt (sshCiphers tables) u.context src =
          .ok (dest, u'.context) ∧
        dest.length = src.length ∧
        cipherDecrypt (sshCiphers tables) u.context dest =
          .ok (src, u'.context) := by
  rcases (inStep tables u).inverts src hBlocks with
    ⟨dest, u', hTo, hLength, hBack⟩
  exact ⟨dest, u', cipherEncrypt_context hBlocks hTo, hLength,
    cipherDecrypt_context (by omega) hBack⟩

/- One message in one call and in two. -/
theorem message_splits
    (tables : CipherTables)
    (u : CipherState)
    {src rest : List UInt8}
    (hSrc : src.length % 8 = 0)
    (hRest : rest.length % 8 = 0) :
    cipherEncrypt (sshCiphers tables) u.context
        (src ++ rest) = do
      let (dest, context) ←
        cipherEncrypt (sshCiphers tables) u.context src
      let (dest', context) ←
        cipherEncrypt (sshCiphers tables) context rest
      return (dest ++ dest', context) := by
  have hWhole : (src ++ rest).length % 8 = 0 := by
    rw [List.length_append]
    omega
  rcases (inStep tables u).inverts src hSrc with
    ⟨dest, u', hTo, -, -⟩
  rcases (inStep tables u').inverts rest hRest with
    ⟨dest', u'', hMore, -, -⟩
  have hSplit := (inStep tables u).splits src rest hSrc hRest
  simp only [hTo, hMore, FallibleRun.ok_bind,
    FallibleRun.pure_eq_ok] at hSplit
  simp only [cipherEncrypt_context hWhole hSplit,
    cipherEncrypt_context hSrc hTo,
    cipherEncrypt_context hRest hMore,
    FallibleRun.ok_bind, FallibleRun.pure_eq_ok]

end CipherState

end Ssh1

------------------------------------------------------------
-- Streams
------------------------------------------------------------

namespace Ssh1

variable {σ : Type}

/- Makes a call for each message, in order. -/
def cipherStream
    (call :
      CipherContext σ → List UInt8 →
        Outcome (List UInt8 × CipherContext σ)) :
    CipherContext σ → List (List UInt8) →
      Outcome (List (List UInt8) × CipherContext σ)
| context, [] => return ([], context)
| context, src :: srcs => do
    let (dest, context) ← call context src
    let (dests, context) ← cipherStream call context srcs
    return (dest :: dests, context)

/- Encrypts the messages one by one, in order. -/
def encryptStream
    (suite : CipherSuite σ) :
    CipherContext σ → List (List UInt8) →
      Outcome (List (List UInt8) × CipherContext σ) :=
  cipherStream (cipherEncrypt suite)

/- Decrypts the messages one by one, in order. -/
def decryptStream
    (suite : CipherSuite σ) :
    CipherContext σ → List (List UInt8) →
      Outcome (List (List UInt8) × CipherContext σ) :=
  cipherStream (cipherDecrypt suite)

/- The messages of whole blocks. -/
def WholeBlocks (srcs : List (List UInt8)) : Prop :=
  ∀ src ∈ srcs, src.length % 8 = 0

theorem WholeBlocks.flatten
    {srcs : List (List UInt8)}
    (hWhole : WholeBlocks srcs) :
    srcs.flatten.length % 8 = 0 := by
  induction srcs with
  | nil => rfl
  | cons src srcs ih =>
      have hHead := hWhole src (by simp)
      have hTail := ih fun s hs => hWhole s (by simp [hs])
      rw [List.flatten_cons, List.length_append]
      omega

/-
  From one state the two streams are in step after every
  message.
-/
theorem streams_inStep
    (tables : CipherTables)
    (u : CipherState)
    {srcs : List (List UInt8)}
    (hWhole : WholeBlocks srcs) :
    ∃ dests : List (List UInt8),
      dests.length = srcs.length ∧
        ∀ n, ∃ u' : CipherState,
          encryptStream (sshCiphers tables) u.context
              (srcs.take n) =
            .ok (dests.take n, u'.context) ∧
          decryptStream (sshCiphers tables) u.context
              (dests.take n) =
            .ok (srcs.take n, u'.context) := by
  induction srcs generalizing u with
  | nil =>
      refine ⟨[], rfl, fun n => ⟨u, ?_, ?_⟩⟩
      · rw [List.take_nil]
        rfl
      · rw [List.take_nil]
        rfl
  | cons src srcs ih =>
      rcases CipherState.message_inStep tables u
          (hWhole src (by simp)) with
        ⟨dest, mid, hTo, -, hBack⟩
      rcases ih mid fun s hs => hWhole s (by simp [hs]) with
        ⟨dests, hLength, hRest⟩
      refine ⟨dest :: dests, by simp [hLength], ?_⟩
      intro n
      cases n with
      | zero => exact ⟨u, rfl, rfl⟩
      | succ n =>
          rcases hRest n with ⟨u', hSend, hReceive⟩
          refine ⟨u', ?_, ?_⟩
          · simp only [encryptStream] at hSend ⊢
            simp only [List.take_succ_cons, cipherStream,
              hTo, hSend, FallibleRun.ok_bind,
              FallibleRun.pure_eq_ok]
          · simp only [decryptStream] at hReceive ⊢
            simp only [List.take_succ_cons, cipherStream,
              hBack, hReceive, FallibleRun.ok_bind,
              FallibleRun.pure_eq_ok]

/- A message in one call and in several calls. -/
theorem stream_flatten
    (tables : CipherTables)
    (u : CipherState)
    (part : List UInt8)
    {parts : List (List UInt8)}
    (hWhole : WholeBlocks (part :: parts)) :
    ∃ (dests : List (List UInt8)) (u' : CipherState),
      encryptStream (sshCiphers tables) u.context
          (part :: parts) =
        .ok (dests, u'.context) ∧
      cipherEncrypt (sshCiphers tables) u.context
          (part :: parts).flatten =
        .ok (dests.flatten, u'.context) := by
  induction parts generalizing u part with
  | nil =>
      rcases CipherState.message_inStep tables u
          (hWhole part (by simp)) with
        ⟨dest, u', hTo, -, -⟩
      refine ⟨[dest], u', ?_, ?_⟩
      · simp only [encryptStream, cipherStream, hTo,
          FallibleRun.ok_bind, FallibleRun.pure_eq_ok]
      · simpa using hTo
  | cons next parts ih =>
      have hPart := hWhole part (by simp)
      have hNext : WholeBlocks (next :: parts) :=
        fun s hs => hWhole s (List.mem_cons_of_mem _ hs)
      rcases CipherState.message_inStep tables u hPart with
        ⟨dest, mid, hTo, -, -⟩
      rcases ih mid next hNext with
        ⟨dests, u', hStream, hOne⟩
      refine ⟨dest :: dests, u', ?_, ?_⟩
      · rw [encryptStream] at hStream ⊢
        rw [cipherStream, hTo]
        simp only [FallibleRun.ok_bind, hStream,
          FallibleRun.pure_eq_ok]
      · have hSplit :=
          CipherState.message_splits tables u hPart
            hNext.flatten
        simp only [hTo, hOne, FallibleRun.ok_bind,
          FallibleRun.pure_eq_ok] at hSplit
        exact hSplit

/- A stream as the calls that the packet layer makes. -/
theorem cipherCalls_of_cipherStream
    {call :
      CipherContext σ → List UInt8 →
        Outcome (List UInt8 × CipherContext σ)}
    {context context' : CipherContext σ}
    {srcs dests : List (List UInt8)}
    (hStream :
      cipherStream call context srcs =
        .ok (dests, context')) :
    cipherCalls call context srcs = .ok dests := by
  induction srcs generalizing context dests with
  | nil =>
      cases hStream
      rfl
  | cons src srcs ih =>
      rcases FallibleRun.bind_eq_ok_iff.mp hStream with
        ⟨⟨dest, mid⟩, hTo, hStream⟩
      rcases FallibleRun.bind_eq_ok_iff.mp hStream with
        ⟨⟨rest, after⟩, hMore, hOk⟩
      cases hOk
      simp only [cipherCalls, hTo, ih hMore,
        FallibleRun.ok_bind, FallibleRun.pure_eq_ok]

/- The two directions of one key give the same context. -/
theorem cipherSetKey_both
    {build : CipherBuild}
    {tables : CipherTables}
    {cipher : Nat}
    {key : List UInt8}
    {send receive : CipherContext CipherState}
    (hSend :
      cipherSetKey build tables cipher key true = .ok send)
    (hReceive :
      cipherSetKey build tables cipher key false =
        .ok receive) :
    ∃ u : CipherState,
      send = u.context ∧ receive = u.context := by
  rcases cipherSetKey_context hSend with ⟨u, hu⟩
  rw [cipherSetKey_direction] at hReceive
  have hSame : send = receive :=
    Except.ok.inj (hSend.symm.trans hReceive)
  exact ⟨u, hu, hSame ▸ hu⟩

/- The contexts satisfy what the packet layer assumes. -/
theorem invertsCalls_of_cipherSetKey
    {build : CipherBuild}
    {tables : CipherTables}
    {cipher : Nat}
    {key : List UInt8}
    {send receive : CipherContext CipherState}
    (hSend :
      cipherSetKey build tables cipher key true = .ok send)
    (hReceive :
      cipherSetKey build tables cipher key false =
        .ok receive) :
    InvertsCalls (sshCiphers tables) receive send := by
  rcases cipherSetKey_both hSend hReceive with
    ⟨u, rfl, rfl⟩
  intro srcs hWhole
  rcases streams_inStep tables u hWhole with
    ⟨dests, hLength, hSteps⟩
  rcases hSteps srcs.length with ⟨u', hTo, hBack⟩
  rw [List.take_of_length_le le_rfl,
    List.take_of_length_le hLength.le] at hTo hBack
  exact ⟨dests, cipherCalls_of_cipherStream hTo,
    cipherCalls_of_cipherStream hBack⟩

/-
  Packets that are sent under a key of one of the ciphers
  come out at the side that has set the same key.
-/
theorem delivers_of_cipherSetKey
    {ζ : Type}
    {env : PacketEnv CipherState ζ}
    {build : CipherBuild}
    {tables : CipherTables}
    {cipher : Nat}
    {key : List UInt8}
    {sender receiver : PacketState CipherState ζ}
    {packets : List Packet}
    (hSuite : env.suite = sshCiphers tables)
    (hSend :
      cipherSetKey build tables cipher key true =
        .ok sender.sendContext)
    (hReceive :
      cipherSetKey build tables cipher key false =
        .ok receiver.receiveContext)
    (hSenderPlain : sender.packetCompression = false)
    (hReceiverPlain : receiver.packetCompression = false)
    (hOutput : sender.output = [])
    (hInput : receiver.input = [])
    (hIncoming : receiver.incomingPacket = [])
    (hSize : sender.SizeAcceptable)
    (hProper : ∀ packet ∈ packets, packet.Proper)
    (hFits :
      ∀ packet ∈ packets, packet.Fits sender.maxPacketSize)
    (hOk :
      AnswersOk env receiver.receiveContext receiver.deattack
        (encryptedParts env sender packets)) :
    DeliversPackets env sender receiver packets := by
  have hInverts :
      InvertsCalls env.suite receiver.receiveContext
        sender.sendContext := by
    rw [hSuite]
    exact invertsCalls_of_cipherSetKey hSend hReceive
  exact delivers_of_invertsCalls hSenderPlain hReceiverPlain
    hOutput hInput hIncoming hSize hProper hFits hInverts hOk

/-
  Two contexts that are set with the same key, one for each
  direction. Decrypting the encrypted messages one by one
  gives them back, and after each of them the two contexts
  are equal. A message that is split between calls gives the
  same ciphertext as in one call, and leaves the same context
  behind.
-/
theorem cipherStreams_inStep
    (build : CipherBuild)
    (tables : CipherTables)
    (cipher : Nat)
    (key : List UInt8)
    {send receive : CipherContext CipherState}
    (hSend :
      cipherSetKey build tables cipher key true = .ok send)
    (hReceive :
      cipherSetKey build tables cipher key false =
        .ok receive)
    (srcs : List (List UInt8))
    (hWhole : WholeBlocks srcs) :
    ∃ dests : List (List UInt8),
      dests.length = srcs.length ∧
        ∀ n, ∃ context : CipherContext CipherState,
          encryptStream (sshCiphers tables) send
              (srcs.take n) = .ok (dests.take n, context) ∧
          decryptStream (sshCiphers tables) receive
              (dests.take n) = .ok (srcs.take n, context) ∧
          ∀ part parts, WholeBlocks (part :: parts) →
            ∃ split after,
              encryptStream (sshCiphers tables) context
                  (part :: parts) = .ok (split, after) ∧
              cipherEncrypt (sshCiphers tables) context
                  (part :: parts).flatten =
                .ok (split.flatten, after) := by
  rcases cipherSetKey_both hSend hReceive with
    ⟨u, rfl, rfl⟩
  rcases streams_inStep tables u hWhole with
    ⟨dests, hLength, hSteps⟩
  refine ⟨dests, hLength, fun n => ?_⟩
  rcases hSteps n with ⟨u', hTo, hBack⟩
  refine ⟨u'.context, hTo, hBack, ?_⟩
  intro part parts hParts
  rcases stream_flatten tables u' part hParts with
    ⟨split, after, hStream, hOne⟩
  exact ⟨split, after.context, hStream, hOne⟩

theorem cipherStreams_inStep_tripleDes :
    let build : CipherBuild := ⟨true, true, true, true, true⟩
    let tables : CipherTables :=
      ⟨⟨fun _ x => x, fun _ x => x⟩, ⟨#[], #[]⟩⟩
    let srcs : List (List UInt8) :=
      [[1, 2, 3, 4, 5, 6, 7, 8],
        [9, 10, 11, 12, 13, 14, 15, 16, 17, 18, 19, 20, 21,
          22, 23, 24]]
    ∃ send receive dests context,
      cipherSetKey build tables 3 [1, 2, 3] true = .ok send ∧
      cipherSetKey build tables 3 [1, 2, 3] false =
        .ok receive ∧
      encryptStream (sshCiphers tables) send srcs =
        .ok (dests, context) ∧
      decryptStream (sshCiphers tables) receive dests =
        .ok (srcs, context) := by
  intro build tables srcs
  have hWhole : WholeBlocks srcs := by
    simp [srcs, WholeBlocks]
  rcases cipherStreams_inStep build tables 3 [1, 2, 3]
      rfl rfl srcs hWhole with
    ⟨dests, hLength, hSteps⟩
  rcases hSteps srcs.length with ⟨context, hTo, hBack, -⟩
  rw [List.take_of_length_le le_rfl,
    List.take_of_length_le hLength.le] at hTo hBack
  exact ⟨_, _, dests, context, rfl, rfl, hTo, hBack⟩

end Ssh1
