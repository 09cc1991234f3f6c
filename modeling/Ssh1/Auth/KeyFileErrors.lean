import Ssh1.Auth.KeyFile
import Ssh1.Base.Fields

/-
  Key files that are malformed.

  The loading functions are meant to return 0 where an error
  is encountered. They do so for what they check themselves;
  a field that is missing, a part that is not made of whole
  blocks and an unknown number of a cipher end the process.

  Main declarations:
    * `KeyFileRead.Refused`
    * `IsKeyHeader`, `SecretDecides`
    * `PublicFileComplete`, `PrivateFileComplete`
    * `ReturnsCleanly`
    * `loadKey_returns_iff`
-/

------------------------------------------------------------
-- Fields Of A Key File
------------------------------------------------------------

namespace Ssh1

open FieldReader

/- The file is refused before its fields are looked at. -/
def KeyFileRead.Refused : KeyFileRead → Prop
| .notOpened => True
| .opened len data =>
    len > 32000 ∨ data.length < len ∨
      len < authfileIdString.length + 1 ∨
      ¬ authfileIdString ++ [0] <+: data.take len

/- What follows the id string. -/
def KeyFileRead.body : KeyFileRead → List UInt8
| .notOpened => []
| .opened len data =>
    (data.take len).drop (authfileIdString.length + 1)

/- The fields from the cipher type to the exponent. -/
def IsKeyHeader : Field UInt8 KeyHeader :=
  fun text header =>
    ∃ cipher reserved bits n e,
      text = [cipher] ++
        (reserved ++ (bits ++ (n ++ e))) ∧
      header.cipherType = cipher.toNat ∧
      reserved.length = 4 ∧
      IsInt bits header.bits ∧
      IsMpInt n header.n ∧
      IsMpInt e header.e

/- The four integers of the private part. -/
def IsPrivatePart : Field UInt8 (Nat × Nat × Nat × Nat) :=
  fun text value =>
    ∃ d u p q,
      text = d ++ (u ++ (p ++ q)) ∧
      IsMpInt d value.1 ∧ IsMpInt u value.2.1 ∧
      IsMpInt p value.2.2.1 ∧ IsMpInt q value.2.2.2

/-
  The decrypted part shows that the passphrase is wrong, or
  it has all of its fields.
-/
def SecretDecides (text : List UInt8) : Prop :=
  ∃ check1 check2 again1 rest,
    text = check1 :: check2 :: again1 :: rest ∧
      (check1 ≠ again1 ∨
        ∃ again2 fields, rest = again2 :: fields ∧
          (check2 ≠ again2 ∨
            ∃ part value tail,
              fields = part ++ tail ∧
                IsPrivatePart part value))

theorem reads_readKeyHeader :
    Reads readKeyHeader IsKeyHeader where
  complete := by
    rintro text header rest
      ⟨cipher, reserved, bits, n, e, rfl, hCipher, hReserved,
        hBits, hN, hE⟩
    have hChar := reads_bufferGetChar.complete [cipher] cipher
      (reserved ++ (bits ++ (n ++ (e ++ rest)))) rfl
    have hSkip := reads_bufferGetInt.complete reserved _
      (bits ++ (n ++ (e ++ rest))) ⟨hReserved, rfl⟩
    have hInt := reads_bufferGetInt.complete bits _
      (n ++ (e ++ rest)) hBits
    have hFirst := reads_bufferGetMpInt.complete n _
      (e ++ rest) hN
    have hSecond := reads_bufferGetMpInt.complete e _ rest hE
    simp only [List.append_assoc]
    simp only [readKeyHeader, hChar, hSkip, hInt, hFirst,
      hSecond, FallibleRun.ok_bind, FallibleRun.pure_eq_ok,
      ← hCipher]
  sound := by
    intro buffer header rest hOk
    rcases FallibleRun.bind_eq_ok_iff.mp hOk with
      ⟨⟨c, b1⟩, hChar, hOk⟩
    rcases FallibleRun.bind_eq_ok_iff.mp hOk with
      ⟨⟨r, b2⟩, hSkip, hOk⟩
    rcases FallibleRun.bind_eq_ok_iff.mp hOk with
      ⟨⟨bits, b3⟩, hInt, hOk⟩
    rcases FallibleRun.bind_eq_ok_iff.mp hOk with
      ⟨⟨n, b4⟩, hFirst, hOk⟩
    rcases FallibleRun.bind_eq_ok_iff.mp hOk with
      ⟨⟨e, b5⟩, hSecond, hRest⟩
    rcases reads_bufferGetChar.sound _ _ _ hChar with
      ⟨x1, hx1, rfl⟩
    rcases reads_bufferGetInt.sound _ _ _ hSkip with
      ⟨x2, hx2, rfl⟩
    rcases reads_bufferGetInt.sound _ _ _ hInt with
      ⟨x3, hx3, rfl⟩
    rcases reads_bufferGetMpInt.sound _ _ _ hFirst with
      ⟨x4, hx4, rfl⟩
    rcases reads_bufferGetMpInt.sound _ _ _ hSecond with
      ⟨x5, hx5, rfl⟩
    cases hRest
    cases hx1
    refine ⟨[c] ++ (x2 ++ (x3 ++ (x4 ++ x5))),
      ⟨c, x2, x3, x4, x5, rfl, rfl, hx2.1, hx3, hx4, hx5⟩, ?_⟩
    simp only [List.append_assoc]

/- The four integers that the reader puts into the memory. -/
theorem readPrivatePart_ok_iff
    (memory : KeyMemory)
    (text : List UInt8) :
    (∃ result, readPrivatePart memory text = .ok result) ↔
      ∃ part value tail,
        text = part ++ tail ∧ IsPrivatePart part value := by
  constructor
  · rintro ⟨result, hOk⟩
    rcases FallibleRun.bind_eq_ok_iff.mp hOk with
      ⟨⟨d, b1⟩, hD, hOk⟩
    rcases FallibleRun.bind_eq_ok_iff.mp hOk with
      ⟨⟨u, b2⟩, hU, hOk⟩
    rcases FallibleRun.bind_eq_ok_iff.mp hOk with
      ⟨⟨p, b3⟩, hP, hOk⟩
    rcases FallibleRun.bind_eq_ok_iff.mp hOk with
      ⟨⟨q, b4⟩, hQ, hOk⟩
    rcases reads_bufferGetMpInt.sound _ _ _ hD with
      ⟨x1, hx1, rfl⟩
    rcases reads_bufferGetMpInt.sound _ _ _ hU with
      ⟨x2, hx2, rfl⟩
    rcases reads_bufferGetMpInt.sound _ _ _ hP with
      ⟨x3, hx3, rfl⟩
    rcases reads_bufferGetMpInt.sound _ _ _ hQ with
      ⟨x4, hx4, rfl⟩
    refine ⟨x1 ++ (x2 ++ (x3 ++ x4)), (d, u, p, q), b4, ?_,
      x1, x2, x3, x4, rfl, hx1, hx2, hx3, hx4⟩
    simp only [List.append_assoc]
  · rintro ⟨part, value, tail, rfl,
      x1, x2, x3, x4, rfl, hx1, hx2, hx3, hx4⟩
    have hD := reads_bufferGetMpInt.complete x1 _
      (x2 ++ (x3 ++ (x4 ++ tail))) hx1
    have hU := reads_bufferGetMpInt.complete x2 _
      (x3 ++ (x4 ++ tail)) hx2
    have hP := reads_bufferGetMpInt.complete x3 _
      (x4 ++ tail) hx3
    have hQ := reads_bufferGetMpInt.complete x4 _ tail hx4
    simp only [List.append_assoc]
    simp only [readPrivatePart, hD, hU, hP, hQ,
      FallibleRun.ok_bind, FallibleRun.pure_eq_ok]
    exact ⟨_, rfl⟩

end Ssh1

------------------------------------------------------------
-- The Beginning Of A File
------------------------------------------------------------

namespace Ssh1

/- With enough bytes, the id string is found or it is not. -/
theorem matchIdString_eq
    {cs buffer : List UInt8}
    (hEnough : cs.length ≤ buffer.length) :
    (cs <+: buffer ∧
      matchIdString cs buffer =
        .ok (some (buffer.drop cs.length))) ∨
    (¬ cs <+: buffer ∧
      matchIdString cs buffer = .ok none) := by
  induction cs generalizing buffer with
  | nil =>
      left
      exact ⟨List.nil_prefix, rfl⟩
  | cons c cs ih =>
      cases buffer with
      | nil => simp at hEnough
      | cons b buffer =>
          simp only [List.length_cons] at hEnough
          rw [matchIdString, bufferGetChar_cons]
          simp only [FallibleRun.ok_bind,
            List.cons_prefix_cons]
          by_cases hSame : b = c
          · subst hSame
            have hRest : cs.length ≤ buffer.length := by omega
            rcases ih hRest with
              ⟨hPrefix, hMatch⟩ | ⟨hNot, hMatch⟩
            · left
              refine ⟨⟨rfl, hPrefix⟩, ?_⟩
              simpa using hMatch
            · right
              refine ⟨fun h => hNot h.2, ?_⟩
              simpa using hMatch
          · right
            refine ⟨fun h => hSame h.1.symm, ?_⟩
            simp [hSame]

/- A file is refused, or its fields are looked at. -/
theorem readKeyFile_eq
    (file : KeyFileRead) :
    (file.Refused ∧ readKeyFile file = .ok none) ∨
    (¬ file.Refused ∧
      readKeyFile file = .ok (some file.body)) := by
  cases file with
  | notOpened => exact Or.inl ⟨trivial, rfl⟩
  | opened len data =>
      simp only [KeyFileRead.Refused, readKeyFile,
        KeyFileRead.body]
      by_cases hLong : len > 32000
      · left
        exact ⟨Or.inl hLong, if_pos hLong⟩
      by_cases hRead : data.length < len
      · left
        exact ⟨Or.inr (Or.inl hRead),
          by rw [if_neg hLong, if_pos hRead]; rfl⟩
      by_cases hSmall : len < authfileIdString.length + 1
      · left
        exact ⟨Or.inr (Or.inr (Or.inl hSmall)),
          by rw [if_neg hLong, if_neg hRead, if_pos hSmall]; rfl⟩
      rw [if_neg hLong, if_neg hRead, if_neg hSmall]
      have hEnough :
          (authfileIdString ++ [0]).length ≤
            (data.take len).length := by
        simp only [List.length_append, List.length_singleton,
          List.length_take]
        omega
      rcases matchIdString_eq hEnough with
        ⟨hPrefix, hMatch⟩ | ⟨hNot, hMatch⟩
      · right
        refine ⟨?_, by simpa using hMatch⟩
        rintro (h | h | h | h)
        · exact hLong h
        · exact hRead h
        · exact hSmall h
        · exact h hPrefix
      · left
        exact ⟨Or.inr (Or.inr (Or.inr hNot)), hMatch⟩

/- The check bytes and the fields behind them. -/
theorem secretDecides_iff
    (memory : KeyMemory)
    (text : List UInt8) :
    SecretDecides text ↔
      readCheckBytes text = .ok none ∨
        ∃ fields, readCheckBytes text = .ok (some fields) ∧
          ∃ result,
            readPrivatePart memory fields = .ok result := by
  have hUnderrun : bufferGetChar [] = .error bufferUnderrun :=
    rfl
  match text with
  | [] =>
      simp [SecretDecides, readCheckBytes, hUnderrun]
  | [a] =>
      simp [SecretDecides, readCheckBytes, hUnderrun,
        bufferGetChar_cons]
  | [a, b] =>
      simp [SecretDecides, readCheckBytes, hUnderrun,
        bufferGetChar_cons]
  | a :: b :: c :: rest =>
      by_cases hFirst : a = c
      · subst hFirst
        cases rest with
        | nil =>
            simp [SecretDecides, readCheckBytes, hUnderrun,
              bufferGetChar_cons]
        | cons d fields =>
            by_cases hSecond : b = d
            · subst hSecond
              simp only [SecretDecides,
                readCheckBytes_repeated,
                readPrivatePart_ok_iff]
              simp
            · simp [SecretDecides, readCheckBytes,
                bufferGetChar_cons, hSecond]
      · simp [SecretDecides, readCheckBytes,
          bufferGetChar_cons, hFirst]

end Ssh1

------------------------------------------------------------
-- The Ciphers Of A File
------------------------------------------------------------

namespace Ssh1

/- The numbers of the ciphers that take whole blocks only. -/
def TakesBlocks (cipherType : Nat) : Prop :=
  cipherType = 2 ∨ cipherType = 3 ∨ cipherType = 6

/- The numbers below 8 that are supported. -/
theorem cipherSupported_eq
    (build : CipherBuild) :
    ∀ cipherType < 8,
      cipherSupported build cipherType =
        [true, build.withIdea, build.withDes, true, false,
          build.withArcfour, build.withBlowfish,
          false].getD cipherType false := by
  rcases build with ⟨a, b, c, d, e⟩
  cases a <;> cases b <;> cases c <;> cases d <;>
    cases e <;> decide

/- The context of a supported cipher. -/
theorem cipherSetKeyString_of_supported
    (env : KeyFileEnv)
    (passphrase : List UInt8)
    {cipherType : Nat}
    (hKnown : cipherType < 8)
    (hSupported :
      cipherSupported env.build cipherType = true) :
    ∃ u : CipherState,
      cipherSetKeyString env cipherType passphrase false =
          .ok u.context ∧
        u.type = CipherType.ofNumber cipherType := by
  have hLength := env.length_md5 passphrase
  rw [cipherSupported_eq env.build cipherType hKnown]
    at hSupported
  interval_cases cipherType
  · exact ⟨CipherState.none, rfl, rfl⟩
  · have hBuild : env.build.withIdea = true := hSupported
    simp only [cipherSetKeyString, cipherSetKey,
      CipherType.ofNumber, hBuild, if_true]
    exact ⟨_, rfl, rfl⟩
  · have hBuild : env.build.withDes = true := hSupported
    simp only [cipherSetKeyString, cipherSetKey,
      CipherType.ofNumber, hBuild, if_true]
    exact ⟨_, rfl, rfl⟩
  · simp only [cipherSetKeyString, cipherSetKey,
      CipherType.ofNumber]
    exact ⟨_, rfl, rfl⟩
  · cases hSupported
  · have hBuild : env.build.withArcfour = true := hSupported
    simp only [cipherSetKeyString, cipherSetKey,
      CipherType.ofNumber, hBuild, if_true, arcfourInit,
      hLength, FallibleRun.pure_eq_ok]
    exact ⟨_, rfl, rfl⟩
  · have hBuild : env.build.withBlowfish = true := hSupported
    simp only [cipherSetKeyString, cipherSetKey,
      CipherType.ofNumber, hBuild, if_true, blowfishSetKey,
      hLength]
    exact ⟨_, rfl, rfl⟩
  · cases hSupported

/- A larger number has no name and no key. -/
theorem cipherSetKeyString_of_unknown
    (env : KeyFileEnv)
    (passphrase : List UInt8)
    {cipherType : Nat}
    (hUnknown : ¬ cipherType < 8)
    (context : CipherContext CipherState) :
    cipherSetKeyString env cipherType passphrase false ≠
      .ok context := by
  have hType :
      CipherType.ofNumber cipherType = .unknown cipherType := by
    unfold CipherType.ofNumber
    split <;> first | omega | rfl
  simp only [cipherSetKeyString, cipherSetKey, hType]
  intro hOk
  cases hOk

theorem cipherName_ok_iff
    (cipherType : Nat) :
    (∃ name, cipherName cipherType = .ok name) ↔
      cipherType < 8 := by
  have hLength : cipherNames.length = 8 := rfl
  unfold cipherName
  rw [hLength]
  by_cases hKnown : cipherType < 8
  · simp [hKnown, Nat.not_le.mpr hKnown]
  · simp [hKnown, Nat.not_lt.mp hKnown]

/- The numbers of the types that make an assertion. -/
theorem takesBlocks_iff
    (cipherType : Nat) :
    TakesBlocks cipherType ↔
      CipherType.ofNumber cipherType = .des ∨
        CipherType.ofNumber cipherType = .tripleDes ∨
        CipherType.ofNumber cipherType = .blowfish := by
  unfold TakesBlocks CipherType.ofNumber
  split <;> simp_all

/- The block ciphers assert that the text is whole blocks. -/
theorem cipherDecrypt_ok_iff
    (tables : CipherTables)
    (u : CipherState)
    {cipherType : Nat}
    (hType : u.type = CipherType.ofNumber cipherType)
    (src : List UInt8) :
    (∃ result,
      cipherDecrypt (sshCiphers tables) u.context src =
        .ok result) ↔
      (TakesBlocks cipherType → src.length % 8 = 0) := by
  rw [takesBlocks_iff, ← hType, ← and_seven_eq_mod]
  have hAsserted :
      ∀ {α : Type} (r : α),
        (∃ result,
          (assert (src.length &&& 7 = 0) >>= fun _ =>
            (.ok r : Outcome α)) = .ok result) ↔
          src.length &&& 7 = 0 := by
    intro α r
    by_cases hMask : src.length &&& 7 = 0
    · simp [hMask]
    · simp [hMask]
  cases u with
  | none => simp [cipherDecrypt, cipherSwitch,
      CipherState.context, CipherState.type]
  | idea key iv => simp [cipherDecrypt, cipherSwitch,
      CipherState.context, CipherState.type]
  | arcfour ctx => simp [cipherDecrypt, cipherSwitch,
      CipherState.context, CipherState.type]
  | des key iv =>
      simp only [cipherDecrypt, cipherSwitch,
        CipherState.context, CipherState.type,
        FallibleRun.pure_eq_ok]
      rw [hAsserted]
      simp
  | tripleDes des3 =>
      simp only [cipherDecrypt, cipherSwitch,
        CipherState.context, CipherState.type,
        FallibleRun.pure_eq_ok]
      rw [hAsserted]
      simp
  | blowfish ctx =>
      simp only [cipherDecrypt, cipherSwitch,
        CipherState.context, CipherState.type,
        FallibleRun.pure_eq_ok]
      rw [hAsserted]
      simp

theorem decryptPrivatePart_ok_iff
    (env : KeyFileEnv)
    (passphrase : List UInt8)
    {cipherType : Nat}
    (hKnown : cipherType < 8)
    (hSupported :
      cipherSupported env.build cipherType = true)
    (buffer : Buffer) :
    (∃ text,
      decryptPrivatePart env passphrase cipherType buffer =
        .ok text) ↔
      (TakesBlocks cipherType → buffer.length % 8 = 0) := by
  rcases cipherSetKeyString_of_supported env passphrase
      hKnown hSupported with
    ⟨u, hSet, hType⟩
  rw [← cipherDecrypt_ok_iff env.tables u hType]
  simp only [decryptPrivatePart, hSet, FallibleRun.ok_bind,
    FallibleRun.pure_eq_ok]
  constructor
  · rintro ⟨text, hText⟩
    rcases FallibleRun.bind_eq_ok_iff.mp hText with
      ⟨result, hResult, -⟩
    exact ⟨result, hResult⟩
  · rintro ⟨result, hResult⟩
    rw [hResult]
    exact ⟨result.1, rfl⟩

end Ssh1

------------------------------------------------------------
-- Complete Files
------------------------------------------------------------

namespace Ssh1

/- What the passphrase makes of the encrypted part. -/
def decryptedText
    (env : KeyFileEnv)
    (passphrase : List UInt8)
    (cipherType : Nat)
    (secret : List UInt8) : List UInt8 :=
  match decryptPrivatePart env passphrase cipherType secret with
  | .ok text => text
  | .error _ => []

/- The file is refused, or has all of its public fields. -/
def PublicFileComplete
    (file : KeyFileRead)
    (commentReturn : Bool) : Prop :=
  file.Refused ∨
    ∃ fields header rest,
      file.body = fields ++ rest ∧
      IsKeyHeader fields header ∧
      (commentReturn = true →
        ∃ text comment tail,
          rest = text ++ tail ∧ IsString text comment)

/-
  The file is refused, or has all of its fields. The cipher
  has a name. Where it is supported, the encrypted part has
  whole blocks if the cipher needs them, and decrypts to a
  text that shows a wrong passphrase or is complete.
-/
def PrivateFileComplete
    (env : KeyFileEnv)
    (file : KeyFileRead)
    (passphrase : List UInt8) : Prop :=
  file.Refused ∨
    ∃ fields header text comment secret,
      file.body = fields ++ (text ++ secret) ∧
      IsKeyHeader fields header ∧
      IsString text comment ∧
      header.cipherType < 8 ∧
      (cipherSupported env.build header.cipherType = true →
        (TakesBlocks header.cipherType →
          secret.length % 8 = 0) ∧
        SecretDecides
          (decryptedText env passphrase header.cipherType
            secret))

/-
  The function returns, and if it returns 0 it has left
  nothing that the caller would have to free.
-/
def ReturnsCleanly
    (call : Outcome (Bool × KeyMemory)) : Prop :=
  ∃ returned memory, call = .ok (returned, memory) ∧
    (returned = false → memory.IsFree)

theorem KeyMemory.empty_isFree : KeyMemory.empty.IsFree :=
  ⟨rfl, rfl, rfl, rfl, rfl, rfl, rfl⟩

theorem loadPublicKey_returns_iff
    (file : KeyFileRead)
    (commentReturn : Bool) :
    ReturnsCleanly (loadPublicKey file commentReturn) ↔
      PublicFileComplete file commentReturn := by
  rcases readKeyFile_eq file with
    ⟨hRefused, hRead⟩ | ⟨hNot, hRead⟩
  · have hCall :
        loadPublicKey file commentReturn =
          .ok (false, .empty) := by
      simp only [loadPublicKey, hRead, FallibleRun.ok_bind,
        FallibleRun.pure_eq_ok]
    exact ⟨fun _ => Or.inl hRefused,
      fun _ => ⟨false, .empty, hCall,
        fun _ => KeyMemory.empty_isFree⟩⟩
  constructor
  · rintro ⟨returned, memory, hCall, -⟩
    simp only [loadPublicKey, hRead, FallibleRun.ok_bind]
      at hCall
    rcases FallibleRun.bind_eq_ok_iff.mp hCall with
      ⟨⟨header, rest⟩, hHeader, hRest⟩
    rcases reads_readKeyHeader.sound _ _ _ hHeader with
      ⟨fields, hFields, hBody⟩
    refine Or.inr ⟨fields, header, rest, hBody, hFields, ?_⟩
    rintro rfl
    rcases FallibleRun.bind_eq_ok_iff.mp hRest with
      ⟨⟨comment, tail⟩, hComment, -⟩
    rcases reads_bufferGetString.sound _ _ _ hComment with
      ⟨text, hText, hRest⟩
    exact ⟨text, comment, tail, hRest, hText⟩
  · rintro (hRefused |
      ⟨fields, header, rest, hBody, hFields, hComment⟩)
    · exact absurd hRefused hNot
    have hHeader :=
      reads_readKeyHeader.complete fields header rest hFields
    rw [← hBody] at hHeader
    simp only [ReturnsCleanly, loadPublicKey, hRead, hHeader,
      FallibleRun.ok_bind]
    cases commentReturn with
    | false => exact ⟨true, _, rfl, by simp⟩
    | true =>
        rcases hComment rfl with
          ⟨text, comment, tail, rfl, hText⟩
        have hString :=
          reads_bufferGetString.complete text comment tail
            hText
        simp only [hString, if_true, FallibleRun.ok_bind]
        exact ⟨true, _, rfl, by simp⟩

/- A supported part is decrypted, then it is read. -/
theorem loadPrivatePart_supported_iff
    {env : KeyFileEnv}
    {passphrase : List UInt8}
    {cipherType : Nat}
    {secret : List UInt8}
    {memory : KeyMemory}
    (hFree : memory.fail.IsFree)
    (hKnown : cipherType < 8)
    (hSupported :
      cipherSupported env.build cipherType = true) :
    ReturnsCleanly
        (loadPrivatePart env passphrase cipherType memory
          secret) ↔
      (TakesBlocks cipherType → secret.length % 8 = 0) ∧
        SecretDecides
          (decryptedText env passphrase cipherType secret) := by
  rw [← decryptPrivatePart_ok_iff env passphrase hKnown
    hSupported secret]
  simp only [loadPrivatePart, hSupported, Bool.true_eq_false,
    if_false]
  cases hDecrypt :
      decryptPrivatePart env passphrase cipherType secret with
  | error halt =>
      simp [ReturnsCleanly]
  | ok text =>
      simp only [decryptedText, hDecrypt,
        FallibleRun.ok_bind, Except.ok.injEq, exists_eq',
        true_and]
      rw [secretDecides_iff memory text]
      constructor
      · rintro ⟨returned, result, hCall, -⟩
        rcases FallibleRun.bind_eq_ok_iff.mp hCall with
          ⟨check, hCheck, hRest⟩
        cases check with
        | none => exact Or.inl hCheck
        | some fields =>
            right
            rcases FallibleRun.bind_eq_ok_iff.mp hRest with
              ⟨memory', hFields, -⟩
            exact ⟨fields, hCheck, memory', hFields⟩
      · rintro (hCheck | ⟨fields, hCheck, memory', hFields⟩)
        · rw [hCheck]
          exact ⟨false, memory.fail, rfl, fun _ => hFree⟩
        · rw [hCheck]
          simp only [FallibleRun.ok_bind, hFields]
          exact ⟨true, memory', rfl, by simp⟩

/- Without a name or a key for the cipher the process ends. -/
theorem loadPrivatePart_unknown
    (env : KeyFileEnv)
    (passphrase : List UInt8)
    {cipherType : Nat}
    (hUnknown : ¬ cipherType < 8)
    (memory : KeyMemory)
    (secret : List UInt8)
    (result : Bool × KeyMemory) :
    loadPrivatePart env passphrase cipherType memory secret ≠
      .ok result := by
  intro hOk
  unfold loadPrivatePart at hOk
  split at hOk
  · rcases FallibleRun.bind_eq_ok_iff.mp hOk with
      ⟨name, hName, -⟩
    exact hUnknown ((cipherName_ok_iff cipherType).mp
      ⟨name, hName⟩)
  · rcases FallibleRun.bind_eq_ok_iff.mp hOk with
      ⟨text, hText, -⟩
    rcases FallibleRun.bind_eq_ok_iff.mp hText with
      ⟨context, hSet, -⟩
    exact cipherSetKeyString_of_unknown env passphrase
      hUnknown context hSet

theorem loadPrivatePart_returns_iff
    {env : KeyFileEnv}
    {passphrase : List UInt8}
    {cipherType : Nat}
    {secret : List UInt8}
    {memory : KeyMemory}
    (hFree : memory.fail.IsFree) :
    ReturnsCleanly
        (loadPrivatePart env passphrase cipherType memory
          secret) ↔
      cipherType < 8 ∧
        (cipherSupported env.build cipherType = true →
          (TakesBlocks cipherType →
            secret.length % 8 = 0) ∧
          SecretDecides
            (decryptedText env passphrase cipherType
              secret)) := by
  by_cases hKnown : cipherType < 8
  · cases hSupported : cipherSupported env.build cipherType with
    | true =>
        rw [loadPrivatePart_supported_iff hFree hKnown
          hSupported]
        simp [hKnown]
    | false =>
        rcases (cipherName_ok_iff cipherType).mpr hKnown with
          ⟨name, hName⟩
        have hCall :
            loadPrivatePart env passphrase cipherType memory
                secret = .ok (false, memory.fail) := by
          simp only [loadPrivatePart, hSupported, if_true,
            hName, FallibleRun.ok_bind,
            FallibleRun.pure_eq_ok]
        exact ⟨fun _ => ⟨hKnown, by simp⟩,
          fun _ => ⟨false, _, hCall, fun _ => hFree⟩⟩
  · constructor
    · rintro ⟨returned, result, hCall, -⟩
      exact absurd hCall
        (loadPrivatePart_unknown env passphrase hKnown memory
          secret _)
    · rintro ⟨h, -⟩
      exact absurd h hKnown

theorem loadPrivateKey_returns_iff
    (env : KeyFileEnv)
    (file : KeyFileRead)
    (passphrase : List UInt8)
    (commentReturn : Bool) :
    ReturnsCleanly
        (loadPrivateKey env file passphrase commentReturn) ↔
      PrivateFileComplete env file passphrase := by
  rcases readKeyFile_eq file with
    ⟨hRefused, hRead⟩ | ⟨hNot, hRead⟩
  · have hCall :
        loadPrivateKey env file passphrase commentReturn =
          .ok (false, .empty) := by
      simp only [loadPrivateKey, hRead, FallibleRun.ok_bind,
        FallibleRun.pure_eq_ok]
    exact ⟨fun _ => Or.inl hRefused,
      fun _ => ⟨false, .empty, hCall,
        fun _ => KeyMemory.empty_isFree⟩⟩
  constructor
  · rintro ⟨returned, result, hCall, hFree⟩
    simp only [loadPrivateKey, hRead, FallibleRun.ok_bind]
      at hCall
    rcases FallibleRun.bind_eq_ok_iff.mp hCall with
      ⟨⟨header, buffer⟩, hHeader, hSteps⟩
    rcases FallibleRun.bind_eq_ok_iff.mp hSteps with
      ⟨⟨comment, secret⟩, hComment, hPart⟩
    rcases reads_readKeyHeader.sound _ _ _ hHeader with
      ⟨fields, hFields, hBody⟩
    rcases reads_bufferGetString.sound _ _ _ hComment with
      ⟨text, hText, rfl⟩
    exact Or.inr ⟨fields, header, text, comment, secret,
      hBody, hFields, hText,
      (loadPrivatePart_returns_iff
        ⟨rfl, rfl, rfl, rfl, rfl, rfl, rfl⟩).mp
        ⟨returned, result, hPart, hFree⟩⟩
  · rintro (hRefused |
      ⟨fields, header, text, comment, secret, hBody, hFields,
        hText, hSecret⟩)
    · exact absurd hRefused hNot
    have hHeader :=
      reads_readKeyHeader.complete fields header
        (text ++ secret) hFields
    have hComment :=
      reads_bufferGetString.complete text comment secret hText
    rw [← hBody] at hHeader
    simp only [loadPrivateKey, hRead, hHeader, hComment,
      FallibleRun.ok_bind]
    exact (loadPrivatePart_returns_iff
      ⟨rfl, rfl, rfl, rfl, rfl, rfl, rfl⟩).mpr hSecret

/-
  Each of the two functions returns 0 or 1, and leaves nothing
  behind where it returns 0, exactly for the files that are
  refused or complete for it.
-/
theorem loadKey_returns_iff
    (env : KeyFileEnv)
    (file : KeyFileRead)
    (passphrase : List UInt8)
    (commentReturn : Bool) :
    (ReturnsCleanly
        (loadPrivateKey env file passphrase commentReturn) ↔
      PrivateFileComplete env file passphrase) ∧
    (ReturnsCleanly (loadPublicKey file commentReturn) ↔
      PublicFileComplete file commentReturn) :=
  ⟨loadPrivateKey_returns_iff env file passphrase
      commentReturn,
    loadPublicKey_returns_iff file commentReturn⟩

/- A file that ends behind the id string. -/
theorem loadKey_idStringOnly :
    let env : KeyFileEnv :=
      ⟨⟨true, true, true, true, true⟩,
        ⟨⟨fun _ x => x, fun _ x => x⟩, ⟨#[], #[]⟩⟩,
        fun _ => List.replicate 16 0, fun _ => rfl⟩
    let file := KeyFileRead.whole (authfileIdString ++ [0])
    loadPrivateKey env file [] true = .error bufferUnderrun ∧
      loadPublicKey file true = .error bufferUnderrun := by
  intro env file
  have hShort :
      (authfileIdString ++ [0] ++ []).length ≤ 32000 := by
    decide
  have hRead := readKeyFile_whole hShort
  rw [List.append_nil] at hRead
  have hHeader : readKeyHeader [] = .error bufferUnderrun :=
    rfl
  constructor
  · simp only [loadPrivateKey, file, hRead, hHeader,
      FallibleRun.ok_bind, FallibleRun.error_bind]
  · simp only [loadPublicKey, file, hRead, hHeader,
      FallibleRun.ok_bind, FallibleRun.error_bind]

end Ssh1
