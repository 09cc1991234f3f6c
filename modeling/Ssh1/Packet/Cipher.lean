import Ssh1.Base.Buffer

/-
  Cipher contexts.

  What the ciphers compute is a parameter: a suite transforms
  as many bytes as it is given and updates its own state. The
  choice by the type of the context, and the assertions of
  the block ciphers about the length, are those of the code.

  Main declarations:
    * `CipherType.ofNumber`, `CipherBuild`, `cipherMask`
    * `CipherContext`
    * `cipherEncrypt`, `cipherDecrypt`
    * `InvertsCalls`
-/

------------------------------------------------------------
-- Contexts
------------------------------------------------------------

namespace Ssh1

/- The cipher numbers. -/
inductive CipherType where
  | none
  | idea
  | des
  | tripleDes
  | arcfour
  | blowfish
  | unknown (number : Nat)
  deriving DecidableEq, Repr

/- The type with the given number. -/
def CipherType.ofNumber : Nat → CipherType
| 0 => .none
| 1 => .idea
| 2 => .des
| 3 => .tripleDes
| 5 => .arcfour
| 6 => .blowfish
| number => .unknown number

/- The options that the ciphers are compiled with. -/
structure CipherBuild where
  withNone : Bool
  withIdea : Bool
  withDes : Bool
  withArcfour : Bool
  withBlowfish : Bool
  deriving DecidableEq, Repr

/- The bits of the supported ciphers. -/
def cipherMask (build : CipherBuild) : Nat :=
  (if build.withNone then 1 <<< 0 else 0) |||
    (if build.withIdea then 1 <<< 1 else 0) |||
    (if build.withDes then 1 <<< 2 else 0) |||
    1 <<< 3 |||
    (if build.withArcfour then 1 <<< 5 else 0) |||
    (if build.withBlowfish then 1 <<< 6 else 0)

/- The table `cipher_names`. -/
def cipherNames : List String :=
  ["none", "idea", "des", "3des", "used to be tss",
    "arcfour", "blowfish", "reserved"]

/- Returns the name of the cipher. -/
def cipherName (cipher : Nat) : Outcome String :=
  if cipher ≥ cipherNames.length then
    .error (.fatal
      ("cipher_name: bad cipher number: " ++ toString cipher))
  else
    .ok (cipherNames.getD cipher "")

/- The cipher algorithms over a state with keys and IVs. -/
structure CipherSuite (σ : Type) where
  -- the member `u.idea.iv`
  ideaIv : σ → List UInt8
  encrypt :
    CipherType → σ → List UInt8 → List UInt8 × σ
  decrypt :
    CipherType → σ → List UInt8 → List UInt8 × σ
  length_encrypt :
    ∀ type u src,
      (encrypt type u src).1.length = src.length
  length_decrypt :
    ∀ type u src,
      (decrypt type u src).1.length = src.length

/- `CipherContext`: the type and the key material. -/
structure CipherContext (σ : Type) where
  type : CipherType
  u : σ

variable {σ : Type}

/-
  The switch over the type of the context, for one of the
  two directions. The block ciphers assert that the length
  is a multiple of their block size.
-/
def cipherSwitch
    (name : String)
    (transform :
      CipherType → σ → List UInt8 → List UInt8 × σ)
    (context : CipherContext σ)
    (src : List UInt8) :
    Outcome (List UInt8 × CipherContext σ) := do
  let (dest, u) := transform context.type context.u src
  match context.type with
  | .none => return (src, context)
  | .idea => return (dest, { context with u })
  | .arcfour => return (dest, { context with u })
  | .des =>
      assert (src.length &&& 7 = 0)
      return (dest, { context with u })
  | .tripleDes =>
      assert (src.length &&& 7 = 0)
      return (dest, { context with u })
  | .blowfish =>
      assert (src.length &&& 7 = 0)
      return (dest, { context with u })
  | .unknown number =>
      .error (.fatal
        (name ++ ": unknown cipher: " ++ toString number))

/- Encrypts data using the cipher. -/
def cipherEncrypt
    (suite : CipherSuite σ)
    (context : CipherContext σ)
    (src : List UInt8) :
    Outcome (List UInt8 × CipherContext σ) :=
  cipherSwitch "cipher_encrypt" suite.encrypt context src

/- Decrypts data using the cipher. -/
def cipherDecrypt
    (suite : CipherSuite σ)
    (context : CipherContext σ)
    (src : List UInt8) :
    Outcome (List UInt8 × CipherContext σ) :=
  cipherSwitch "cipher_decrypt" suite.decrypt context src

end Ssh1

------------------------------------------------------------
-- Lengths
------------------------------------------------------------

namespace Ssh1

variable {σ : Type}
variable {suite : CipherSuite σ}
variable {context context' : CipherContext σ}
variable {src dest : List UInt8}

/- The mask of the block ciphers is a remainder. -/
theorem and_seven_eq_mod
    (n : Nat) :
    n &&& 7 = n % 8 :=
  Nat.and_two_pow_sub_one_eq_mod n 3

/-
  On whole blocks the switch never aborts, and it gives back
  as many bytes as it got under the same type of context.
-/
theorem cipherSwitch_spec
    {name : String}
    {transform :
      CipherType → σ → List UInt8 → List UInt8 × σ}
    (hTransform :
      ∀ type u src,
        (transform type u src).1.length = src.length)
    (context : CipherContext σ)
    (hBlocks : src.length % 8 = 0) :
    (∃ number, context.type = .unknown number ∧
      cipherSwitch name transform context src =
        .error (.fatal
          (name ++ ": unknown cipher: " ++
            toString number))) ∨
    ∃ dest context',
      cipherSwitch name transform context src =
          .ok (dest, context') ∧
        dest.length = src.length ∧
        context'.type = context.type := by
  have hMask : src.length &&& 7 = 0 := by
    rwa [and_seven_eq_mod]
  have hLength :=
    hTransform context.type context.u src
  rcases hType : context.type with
    _ | _ | _ | _ | _ | _ | number
  case unknown =>
      left
      exact ⟨number, rfl, by simp [cipherSwitch, hType]⟩
  all_goals
    right
    rw [hType] at hLength
    simp only [cipherSwitch, hType, hMask, assert_of_true,
      FallibleRun.pure_eq_ok, FallibleRun.ok_bind]
    exact ⟨_, _, rfl, by simp [hLength], by simp [hType]⟩

theorem cipherSwitch_orderly
    {name : String}
    {transform :
      CipherType → σ → List UInt8 → List UInt8 × σ}
    (hTransform :
      ∀ type u src,
        (transform type u src).1.length = src.length)
    (context : CipherContext σ)
    (hBlocks : src.length % 8 = 0) :
    Orderly (cipherSwitch name transform context src)
      fun result =>
        result.1.length = src.length ∧
          result.2.type = context.type := by
  rcases cipherSwitch_spec hTransform context hBlocks with
    ⟨number, -, hError⟩ | ⟨dest, context', hOk, hSpec⟩
  · rw [hError]
    exact id
  · rw [hOk]
    exact hSpec

theorem cipherEncrypt_orderly
    (suite : CipherSuite σ)
    (context : CipherContext σ)
    (hBlocks : src.length % 8 = 0) :
    Orderly (cipherEncrypt suite context src) fun result =>
      result.1.length = src.length ∧
        result.2.type = context.type :=
  cipherSwitch_orderly suite.length_encrypt context hBlocks

theorem cipherDecrypt_orderly
    (suite : CipherSuite σ)
    (context : CipherContext σ)
    (hBlocks : src.length % 8 = 0) :
    Orderly (cipherDecrypt suite context src) fun result =>
      result.1.length = src.length ∧
        result.2.type = context.type :=
  cipherSwitch_orderly suite.length_decrypt context hBlocks

end Ssh1

------------------------------------------------------------
-- Inverse Contexts
------------------------------------------------------------

namespace Ssh1

variable {σ : Type}
variable {suite : CipherSuite σ}

/- Makes a call for one message after the other. -/
def cipherCalls
    (call :
      CipherContext σ → List UInt8 →
        Outcome (List UInt8 × CipherContext σ)) :
    CipherContext σ → List (List UInt8) →
      Outcome (List (List UInt8))
| _, [] => return []
| context, src :: srcs => do
    let (dest, context) ← call context src
    let dests ← cipherCalls call context srcs
    return dest :: dests

/- Encrypts one message after the other. -/
def encryptCalls
    (suite : CipherSuite σ) :
    CipherContext σ → List (List UInt8) →
      Outcome (List (List UInt8)) :=
  cipherCalls (cipherEncrypt suite)

/- Decrypts one message after the other. -/
def decryptCalls
    (suite : CipherSuite σ) :
    CipherContext σ → List (List UInt8) →
      Outcome (List (List UInt8)) :=
  cipherCalls (cipherDecrypt suite)

/-
  The receiving context gives back every sequence of messages
  that the sending one encrypts, call by call.
-/
def InvertsCalls
    (suite : CipherSuite σ)
    (receive send : CipherContext σ) : Prop :=
  ∀ srcs : List (List UInt8),
    (∀ src ∈ srcs, src.length % 8 = 0) →
    ∃ dests,
      encryptCalls suite send srcs = .ok dests ∧
        decryptCalls suite receive dests = .ok srcs

/- Inverse contexts are inverse again after each call. -/
theorem InvertsCalls.step
    {receive send : CipherContext σ}
    {src : List UInt8}
    (hInverts : InvertsCalls suite receive send)
    (hBlocks : src.length % 8 = 0) :
    ∃ dest send' receive',
      cipherEncrypt suite send src = .ok (dest, send') ∧
        dest.length = src.length ∧
        cipherDecrypt suite receive dest =
          .ok (src, receive') ∧
        InvertsCalls suite receive' send' := by
  have hOne := hInverts [src] (by simpa using hBlocks)
  rcases hOne with ⟨dests, hEncrypt, hDecrypt⟩
  rcases FallibleRun.bind_eq_ok_iff.mp hEncrypt with
    ⟨⟨dest, send'⟩, hSend, hRest⟩
  cases hRest
  rcases FallibleRun.bind_eq_ok_iff.mp hDecrypt with
    ⟨⟨src', receive'⟩, hReceive, hRest⟩
  cases hRest
  have hLength : dest.length = src.length := by
    have hSpec := cipherEncrypt_orderly suite send hBlocks
    rw [hSend] at hSpec
    exact hSpec.1
  refine ⟨dest, send', receive', hSend, hLength, hReceive, ?_⟩
  -- A sequence from here on is one that starts with `src`.
  intro srcs hAll
  rcases hInverts (src :: srcs) (by simpa [hBlocks] using hAll)
    with ⟨dests, hEncrypt, hDecrypt⟩
  simp only [encryptCalls, cipherCalls, hSend,
    FallibleRun.ok_bind] at hEncrypt
  rcases FallibleRun.bind_eq_ok_iff.mp hEncrypt with
    ⟨dests', hEncrypt', hDests⟩
  cases hDests
  simp only [decryptCalls, cipherCalls, hReceive,
    FallibleRun.ok_bind] at hDecrypt
  rcases FallibleRun.bind_eq_ok_iff.mp hDecrypt with
    ⟨srcs', hDecrypt', hSrcs⟩
  cases hSrcs
  exact ⟨dests', hEncrypt', hDecrypt'⟩

/- Calls that give back what they get give back all. -/
theorem cipherCalls_of_same
    {call :
      CipherContext σ → List UInt8 →
        Outcome (List UInt8 × CipherContext σ)}
    {context : CipherContext σ}
    (hSame : ∀ src, call context src = .ok (src, context))
    (srcs : List (List UInt8)) :
    cipherCalls call context srcs = .ok srcs := by
  induction srcs with
  | nil => rfl
  | cons src srcs ih =>
      simp only [cipherCalls, hSame, ih, FallibleRun.ok_bind,
        FallibleRun.pure_eq_ok]

/- Without encryption every message comes back. -/
theorem invertsCalls_none
    {receive send : CipherContext σ}
    (hReceive : receive.type = .none)
    (hSend : send.type = .none) :
    InvertsCalls suite receive send := by
  intro srcs _
  refine ⟨srcs, cipherCalls_of_same ?_ srcs,
    cipherCalls_of_same ?_ srcs⟩
  · intro src
    simp [cipherEncrypt, cipherSwitch, hSend]
  · intro src
    simp [cipherDecrypt, cipherSwitch, hReceive]

end Ssh1
