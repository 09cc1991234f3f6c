import Ssh1.Ciphers.Streams
import Ssh1.Digest.Streaming
import Ssh1.Rsa.Keys

/-
  Files with private keys.

  The public half of a key stands in the file in plain text.
  The private half stands behind it, padded to whole blocks
  and encrypted with a key that is made from the passphrase.
  C strings are given by the bytes before their zero byte.

  Main declarations:
    * `savePrivateKey`
    * `loadPublicKey`, `loadPrivatePart`, `loadPrivateKey`
    * `KeyMemory`
    * `keyFile_roundTrip`
-/

------------------------------------------------------------
-- Environment
------------------------------------------------------------

namespace Ssh1

/- What the program is built with. -/
structure KeyFileEnv where
  build : CipherBuild
  tables : CipherTables
  md5 : List UInt8 → List UInt8
  length_md5 : ∀ text, (md5 text).length = 16

/-
  Selects the cipher and keys it with the MD5 checksum of the
  passphrase.
-/
def cipherSetKeyString
    (env : KeyFileEnv)
    (cipher : Nat)
    (passphrase : List UInt8)
    (forEncryption : Bool) :
    Outcome (CipherContext CipherState) :=
  cipherSetKey env.build env.tables cipher
    (env.md5 passphrase) forEncryption

/- The string `AUTHFILE_ID_STRING`. -/
def authfileIdString : List UInt8 :=
  "SSH PRIVATE KEY FILE FORMAT 1.1\n".toList.map fun c =>
    UInt8.ofNat c.toNat

/- The numbers `SSH_CIPHER_NONE` and `SSH_AUTHFILE_CIPHER`. -/
def sshCipherNone : Nat := 0

/- `SSH_AUTHFILE_CIPHER`: the cipher of new key files, 3DES. -/
def sshAuthfileCipher : Nat := 3

end Ssh1

------------------------------------------------------------
-- Saving
------------------------------------------------------------

namespace Ssh1

/- What comes of a call of `save_private_key`. -/
inductive SaveResult where
  -- it returns 0, and the file is removed or never opened
  | failed
  -- it returns 1, and the file holds the data
  | saved (file : List UInt8)
  deriving DecidableEq

/- The part that will be encrypted, without its padding. -/
def privatePart
    (key : RSAPrivateKey)
    (check : UInt8 × UInt8) : Outcome Buffer := do
  let buffer :=
    bufferAppend [] [check.1, check.2, check.1, check.2]
  let buffer ← bufferPutMpInt buffer key.d
  let buffer ← bufferPutMpInt buffer key.u
  let buffer ← bufferPutMpInt buffer key.p
  bufferPutMpInt buffer key.q

/- Pads the buffer until its size is a multiple of 8. -/
def padToBlocks (buffer : Buffer) : Buffer :=
  bufferAppend buffer
    (List.replicate ((8 - buffer.length % 8) % 8) 0)

/- The data of the file up to the encrypted part. -/
def plainPart
    (key : RSAPrivateKey)
    (comment : List UInt8)
    (cipherType : Nat) : Outcome Buffer := do
  let encrypted := bufferAppend [] authfileIdString
  let encrypted := bufferPutChar encrypted 0
  let encrypted :=
    bufferPutChar encrypted (UInt8.ofNat cipherType)
  let encrypted := bufferPutInt encrypted 0
  let encrypted := bufferPutInt encrypted key.bits
  let encrypted ← bufferPutMpInt encrypted key.n
  let encrypted ← bufferPutMpInt encrypted key.e
  return bufferPutString encrypted comment

/-
  Writes the data to the file. The last argument tells how
  many bytes `userfile_write` writes, or that the file is not
  opened.
-/
def writeKeyFile
    (encrypted : Buffer) : Option Nat → SaveResult
| none => .failed
| some written =>
    if written ≠ encrypted.length then .failed
    else .saved encrypted

/-
  Saves the key in a file, encrypting it with the passphrase.
  The two check bytes are random.
-/
def savePrivateKey
    (env : KeyFileEnv)
    (passphrase : List UInt8)
    (key : RSAPrivateKey)
    (comment : List UInt8)
    (check : UInt8 × UInt8)
    (written : Option Nat) : Outcome SaveResult := do
  let cipherType :=
    if passphrase = [] then sshCipherNone
    else sshAuthfileCipher
  let buffer ← privatePart key check
  let buffer := padToBlocks buffer
  let encrypted ← plainPart key comment cipherType
  let cipher ←
    cipherSetKeyString env cipherType passphrase true
  let (cp, _) ←
    cipherEncrypt (sshCiphers env.tables) cipher buffer
  return writeKeyFile (bufferAppend encrypted cp) written

end Ssh1

------------------------------------------------------------
-- Loading
------------------------------------------------------------

namespace Ssh1

/- What the file system gives for the name of a key file. -/
inductive KeyFileRead where
  | notOpened
  -- the size that `userfile_lseek` returns, and the bytes
  -- that can be read
  | opened (size : Nat) (data : List UInt8)
  deriving DecidableEq

/- A file that can be read as a whole. -/
def KeyFileRead.whole (file : List UInt8) : KeyFileRead :=
  .opened file.length file

/-
  What the caller of a loading function holds after it: the
  mp-ints that are initialized and the comment, if it has
  been allocated.
-/
structure KeyMemory where
  bits : Option Nat
  n : Option Nat
  e : Option Nat
  d : Option Nat
  u : Option Nat
  p : Option Nat
  q : Option Nat
  comment : Option (List UInt8)
  deriving DecidableEq

namespace KeyMemory

/- Nothing has been stored yet. -/
def empty : KeyMemory :=
  ⟨none, none, none, none, none, none, none, none⟩

/- Nothing is left for the caller to free. -/
def IsFree (memory : KeyMemory) : Prop :=
  memory.n = none ∧ memory.e = none ∧ memory.d = none ∧
    memory.u = none ∧ memory.p = none ∧ memory.q = none ∧
    memory.comment = none

/- What the label `fail` clears and frees. -/
def fail (memory : KeyMemory) : KeyMemory :=
  { memory with n := none, e := none, comment := none }

end KeyMemory

/-
  Makes sure that the buffer begins with the id string, and
  consumes it from the buffer.
-/
def matchIdString :
    List UInt8 → Buffer → Outcome (Option Buffer)
| [], buffer => return some buffer
| c :: cs, buffer => do
    let (ch, buffer) ← bufferGetChar buffer
    if ch ≠ c then return none
    else matchIdString cs buffer

/-
  The beginning of both loading functions. It reads the file
  into a buffer and consumes the id string, or returns 0.
-/
def readKeyFile
    (file : KeyFileRead) : Outcome (Option Buffer) :=
  match file with
  | .notOpened => return none
  | .opened len data =>
      if len > 32000 then
        return none
      else if data.length < len then
        return none
      else if len < authfileIdString.length + 1 then
        return none
      else
        matchIdString (authfileIdString ++ [0])
          (data.take len)

/- The fields before the comment. -/
structure KeyHeader where
  cipherType : Nat
  bits : Nat
  n : Nat
  e : Nat
  deriving DecidableEq

/- Reads the fields before the comment. -/
def readKeyHeader
    (buffer : Buffer) : Outcome (KeyHeader × Buffer) := do
  let (cipherType, buffer) ← bufferGetChar buffer
  let (_, buffer) ← bufferGetInt buffer
  let (bits, buffer) ← bufferGetInt buffer
  let (n, buffer) ← bufferGetMpInt buffer
  let (e, buffer) ← bufferGetMpInt buffer
  return (⟨cipherType.toNat, bits, n, e⟩, buffer)

/-
  Loads the public part of the key file. The flag tells that
  the caller wants the comment.
-/
def loadPublicKey
    (file : KeyFileRead)
    (commentReturn : Bool) : Outcome (Bool × KeyMemory) := do
  match ← readKeyFile file with
  | none => return (false, .empty)
  | some buffer =>
      let (header, buffer) ← readKeyHeader buffer
      let memory :=
        { KeyMemory.empty with
          bits := header.bits, n := header.n, e := header.e }
      if commentReturn then
        let (comment, _) ← bufferGetString buffer
        return (true, { memory with comment })
      else
        return (true, memory)

/-
  Whether the cipher may be used. The machine takes the count
  of a shift modulo 32.
-/
def cipherSupported
    (build : CipherBuild)
    (cipherType : Nat) : Bool :=
  cipherType = sshCipherNone ||
    cipherMask build &&& (1 <<< (cipherType % 32)) ≠ 0

/-
  Whether the check bytes are repeated. The fourth one is not
  read where the third one differs.
-/
def readCheckBytes
    (decrypted : Buffer) :
    Outcome (Option Buffer) := do
  let (check1, decrypted) ← bufferGetChar decrypted
  let (check2, decrypted) ← bufferGetChar decrypted
  let (again1, decrypted) ← bufferGetChar decrypted
  if check1 ≠ again1 then
    return none
  else
    let (again2, decrypted) ← bufferGetChar decrypted
    if check2 ≠ again2 then
      return none
    else
      return some decrypted

/- Reads the rest of the private key. -/
def readPrivatePart
    (memory : KeyMemory)
    (decrypted : Buffer) : Outcome KeyMemory := do
  let (d, decrypted) ← bufferGetMpInt decrypted
  let (u, decrypted) ← bufferGetMpInt decrypted
  let (p, decrypted) ← bufferGetMpInt decrypted
  let (q, _) ← bufferGetMpInt decrypted
  return { memory with d, u, p, q }

/- Decrypts the rest of the buffer using the passphrase. -/
def decryptPrivatePart
    (env : KeyFileEnv)
    (passphrase : List UInt8)
    (cipherType : Nat)
    (buffer : Buffer) : Outcome Buffer := do
  let cipher ←
    cipherSetKeyString env cipherType passphrase false
  let (decrypted, _) ←
    cipherDecrypt (sshCiphers env.tables) cipher buffer
  return decrypted

/-
  Checks the cipher and loads the private part. Where that
  fails, `fail` clears what has been read before.
-/
def loadPrivatePart
    (env : KeyFileEnv)
    (passphrase : List UInt8)
    (cipherType : Nat)
    (memory : KeyMemory)
    (buffer : Buffer) : Outcome (Bool × KeyMemory) :=
  if cipherSupported env.build cipherType = false then do
    -- the name is for a debugging message only
    let _ ← cipherName cipherType
    return (false, memory.fail)
  else do
    let decrypted ←
      decryptPrivatePart env passphrase cipherType buffer
    match ← readCheckBytes decrypted with
    | none => return (false, memory.fail)
    | some decrypted =>
        let memory ← readPrivatePart memory decrypted
        return (true, memory)

/- Loads the private key from the file. -/
def loadPrivateKey
    (env : KeyFileEnv)
    (file : KeyFileRead)
    (passphrase : List UInt8)
    (commentReturn : Bool) : Outcome (Bool × KeyMemory) := do
  match ← readKeyFile file with
  | none => return (false, .empty)
  | some buffer =>
      let (header, buffer) ← readKeyHeader buffer
      let (comment, buffer) ← bufferGetString buffer
      let memory :=
        { KeyMemory.empty with
          bits := header.bits, n := header.n, e := header.e,
          comment :=
            if commentReturn then some comment else none }
      loadPrivatePart env passphrase header.cipherType memory
        buffer

end Ssh1

------------------------------------------------------------
-- What Is Saved
------------------------------------------------------------

namespace Ssh1

/- The encrypted part before its encryption. -/
def secretBytes
    (key : RSAPrivateKey)
    (check : UInt8 × UInt8) : List UInt8 :=
  [check.1, check.2, check.1, check.2] ++
    (mpIntBytes key.d ++ (mpIntBytes key.u ++
      (mpIntBytes key.p ++ mpIntBytes key.q)))

/- The fields behind the id string, up to the comment. -/
def headerBytes
    (header : KeyHeader) : List UInt8 :=
  UInt8.ofNat header.cipherType ::
    (put32Bit 0 ++ (put32Bit header.bits ++
      (mpIntBytes header.n ++ mpIntBytes header.e)))

/- The secret part is written whatever the key. -/
theorem privatePart_eq
    (key : RSAPrivateKey)
    (check : UInt8 × UInt8) :
    privatePart key check = .ok (secretBytes key check) := by
  simp [privatePart, secretBytes, bufferPutMpInt_eq,
    bufferAppend]

/- So is the part that is not encrypted. -/
theorem plainPart_eq
    (key : RSAPrivateKey)
    (comment : List UInt8)
    (cipherType : Nat) :
    plainPart key comment cipherType =
      .ok (authfileIdString ++ [0] ++
        (headerBytes ⟨cipherType, key.bits, key.n, key.e⟩ ++
          bufferPutString [] comment)) := by
  simp [plainPart, headerBytes, bufferPutMpInt_eq,
    bufferAppend, bufferPutChar, bufferPutInt,
    bufferPutString]

/- The padding fills the last block. -/
theorem length_padToBlocks
    (buffer : Buffer) :
    (padToBlocks buffer).length % 8 = 0 := by
  simp only [padToBlocks, bufferAppend, List.length_append,
    List.length_replicate]
  omega

/- The cipher of a passphrase can always be set up. -/
theorem cipherSetKeyString_ok
    (env : KeyFileEnv)
    (passphrase : List UInt8)
    {cipherType : Nat}
    (hType :
      cipherType = sshCipherNone ∨
        cipherType = sshAuthfileCipher) :
    ∃ u : CipherState,
      ∀ forEncryption,
        cipherSetKeyString env cipherType passphrase
          forEncryption = .ok u.context := by
  rcases hType with rfl | rfl
  · exact ⟨_, fun _ => rfl⟩
  · exact ⟨_, fun _ => rfl⟩

/- A file that is saved holds what was to be written. -/
theorem writeKeyFile_saved
    {encrypted : Buffer}
    {written : Option Nat}
    {file : List UInt8}
    (hSaved : writeKeyFile encrypted written = .saved file) :
    file = encrypted := by
  cases written with
  | none => cases hSaved
  | some written =>
      simp only [writeKeyFile] at hSaved
      split at hSaved
      · cases hSaved
      · cases hSaved
        rfl

/- The data of the file: the plain part and what follows. -/
def fileBytes
    (key : RSAPrivateKey)
    (comment : List UInt8)
    (cipherType : Nat)
    (cp : List UInt8) : List UInt8 :=
  authfileIdString ++ [0] ++
    (headerBytes ⟨cipherType, key.bits, key.n, key.e⟩ ++
      (bufferPutString [] comment ++ cp))

/-
  The data is its plain part, and behind it the encrypted
  part, which decrypts to what it was.
-/
theorem savePrivateKey_eq
    (env : KeyFileEnv)
    (passphrase : List UInt8)
    (key : RSAPrivateKey)
    (comment : List UInt8)
    (check : UInt8 × UInt8) :
    ∃ cipherType cp,
      (cipherType = sshCipherNone ∨
        cipherType = sshAuthfileCipher) ∧
      cp.length =
        (padToBlocks (secretBytes key check)).length ∧
      decryptPrivatePart env passphrase cipherType cp =
        .ok (padToBlocks (secretBytes key check)) ∧
      ∀ written,
        savePrivateKey env passphrase key comment check
            written =
          .ok (writeKeyFile
            (fileBytes key comment cipherType cp) written) := by
  let cipherType :=
    if passphrase = [] then sshCipherNone
    else sshAuthfileCipher
  have hType :
      cipherType = sshCipherNone ∨
        cipherType = sshAuthfileCipher := by
    by_cases hEmpty : passphrase = [] <;>
      simp [cipherType, hEmpty]
  rcases cipherSetKeyString_ok env passphrase hType with
    ⟨u, hSet⟩
  rcases CipherState.message_inStep env.tables u
      (length_padToBlocks (secretBytes key check)) with
    ⟨cp, u', hTo, hLength, hBack⟩
  refine ⟨cipherType, cp, hType, hLength, ?_, ?_⟩
  · simp only [decryptPrivatePart, hSet,
      FallibleRun.ok_bind, hBack, FallibleRun.pure_eq_ok]
  · intro written
    simp only [savePrivateKey, privatePart_eq, plainPart_eq,
      FallibleRun.ok_bind]
    rw [hSet]
    simp only [FallibleRun.ok_bind, hTo, bufferAppend,
      fileBytes, List.append_assoc, FallibleRun.pure_eq_ok]
    rfl

/- What is reported as saved is the data. -/
theorem savePrivateKey_saved
    {env : KeyFileEnv}
    {passphrase : List UInt8}
    {key : RSAPrivateKey}
    {comment : List UInt8}
    {check : UInt8 × UInt8}
    {written : Option Nat}
    {file : List UInt8}
    (hSave :
      savePrivateKey env passphrase key comment check
        written = .ok (.saved file)) :
    ∃ cipherType cp,
      (cipherType = sshCipherNone ∨
        cipherType = sshAuthfileCipher) ∧
      file = fileBytes key comment cipherType cp ∧
      decryptPrivatePart env passphrase cipherType cp =
        .ok (padToBlocks (secretBytes key check)) := by
  rcases savePrivateKey_eq env passphrase key comment check
    with ⟨cipherType, cp, hType, -, hDecrypt, hCall⟩
  rw [hCall] at hSave
  exact ⟨cipherType, cp, hType,
    writeKeyFile_saved (Except.ok.inj hSave), hDecrypt⟩

/- Nothing keeps a key from being saved but the file system. -/
theorem exists_savePrivateKey
    (env : KeyFileEnv)
    (passphrase : List UInt8)
    (key : RSAPrivateKey)
    (comment : List UInt8)
    (check : UInt8 × UInt8) :
    ∃ cipherType cp,
      cp.length =
        (padToBlocks (secretBytes key check)).length ∧
      savePrivateKey env passphrase key comment check
          (some (fileBytes key comment cipherType
            cp).length) =
        .ok (.saved (fileBytes key comment cipherType cp)) := by
  rcases savePrivateKey_eq env passphrase key comment check
    with ⟨cipherType, cp, -, hLength, -, hCall⟩
  refine ⟨cipherType, cp, hLength, ?_⟩
  rw [hCall, writeKeyFile, if_neg (not_not.mpr rfl)]

/- The length of the data, the id string apart. -/
theorem length_fileBytes
    (key : RSAPrivateKey)
    (comment : List UInt8)
    (cipherType : Nat)
    (cp : List UInt8) :
    (fileBytes key comment cipherType cp).length =
      authfileIdString.length + 14 +
        ((mpIntBytes key.n).length +
          (mpIntBytes key.e).length) +
        comment.length + cp.length := by
  simp only [fileBytes, headerBytes, bufferPutString,
    bufferPutInt, bufferAppend, List.length_append,
    List.length_cons, List.length_nil, length_put32Bit]
  omega

end Ssh1

------------------------------------------------------------
-- What Is Read Back
------------------------------------------------------------

namespace Ssh1

/- The id string is found at the front. -/
theorem matchIdString_append
    (cs rest : List UInt8) :
    matchIdString cs (cs ++ rest) = .ok (some rest) := by
  induction cs with
  | nil => rfl
  | cons c cs ih =>
      rw [List.cons_append, matchIdString,
        bufferGetChar_cons]
      simp only [FallibleRun.ok_bind, ne_eq, not_true,
        if_false, ih]

/- A file that is too long is not read. -/
theorem readKeyFile_of_long
    {file : List UInt8}
    (hLong : 32000 < file.length) :
    readKeyFile (.whole file) = .ok none := by
  simp only [readKeyFile, KeyFileRead.whole, hLong, if_true,
    FallibleRun.pure_eq_ok]

/- A short one is read behind its id string. -/
theorem readKeyFile_whole
    {rest : List UInt8}
    (hShort :
      (authfileIdString ++ [0] ++ rest).length ≤ 32000) :
    readKeyFile (.whole (authfileIdString ++ [0] ++ rest)) =
      .ok (some rest) := by
  have hId :
      ¬ (authfileIdString ++ [0] ++ rest).length <
        authfileIdString.length + 1 := by
    simp only [List.length_append, List.length_singleton]
    omega
  have hSize :
      ¬ (authfileIdString ++ [0] ++ rest).length > 32000 := by
    omega
  simp only [readKeyFile, KeyFileRead.whole]
  rw [if_neg hSize, if_neg (lt_irrefl _), if_neg hId,
    List.take_length, matchIdString_append]

/- Every field of the header is read as it was stored. -/
theorem readKeyHeader_headerBytes
    (header : KeyHeader)
    (hType : header.cipherType < 256)
    (hBits : header.bits < 2 ^ 32)
    (hN : mpzSizeinbase2 header.n < 65536)
    (hE : mpzSizeinbase2 header.e < 65536)
    (rest : List UInt8) :
    readKeyHeader (headerBytes header ++ rest) =
      .ok (header, rest) := by
  have hByte :
      (UInt8.ofNat header.cipherType).toNat =
        header.cipherType :=
    UInt8.toNat_ofNat_of_lt' (by
      simpa only [UInt8.size] using hType)
  simp only [readKeyHeader, headerBytes, List.cons_append,
    List.append_assoc, bufferGetChar_cons,
    bufferGetInt_put32Bit_append (show 0 < 2 ^ 32 by omega),
    bufferGetInt_put32Bit_append hBits,
    bufferGetMpInt_mpIntBytes_append hN,
    bufferGetMpInt_mpIntBytes_append hE,
    FallibleRun.ok_bind, FallibleRun.pure_eq_ok, hByte]

theorem readCheckBytes_repeated
    (a b : UInt8)
    (rest : List UInt8) :
    readCheckBytes (a :: b :: a :: b :: rest) =
      .ok (some rest) := by
  simp only [readCheckBytes, bufferGetChar_cons,
    FallibleRun.ok_bind, ne_eq, not_true, if_false,
    FallibleRun.pure_eq_ok]

/- The secret numbers are read as they were written. -/
theorem readPrivatePart_mpIntBytes
    (memory : KeyMemory)
    (key : RSAPrivateKey)
    (hD : mpzSizeinbase2 key.d < 65536)
    (hU : mpzSizeinbase2 key.u < 65536)
    (hP : mpzSizeinbase2 key.p < 65536)
    (hQ : mpzSizeinbase2 key.q < 65536)
    (rest : List UInt8) :
    readPrivatePart memory
        (mpIntBytes key.d ++ (mpIntBytes key.u ++
          (mpIntBytes key.p ++ (mpIntBytes key.q ++
            rest)))) =
      .ok { memory with
        d := key.d, u := key.u, p := key.p, q := key.q } := by
  simp only [readPrivatePart,
    bufferGetMpInt_mpIntBytes_append hD,
    bufferGetMpInt_mpIntBytes_append hU,
    bufferGetMpInt_mpIntBytes_append hP,
    bufferGetMpInt_mpIntBytes_append hQ,
    FallibleRun.ok_bind, FallibleRun.pure_eq_ok]

/- The ciphers that keys are saved with are supported. -/
theorem cipherSupported_saved
    (build : CipherBuild)
    {cipherType : Nat}
    (hType :
      cipherType = sshCipherNone ∨
        cipherType = sshAuthfileCipher) :
    cipherSupported build cipherType = true := by
  rcases hType with rfl | rfl
  · rfl
  · rcases build with ⟨a, b, c, d, e⟩
    cases a <;> cases b <;> cases c <;> cases d <;>
      cases e <;> rfl

end Ssh1

------------------------------------------------------------
-- Round Trip
------------------------------------------------------------

namespace Ssh1

/- The fields have fewer than 65536 bits. -/
structure RSAPrivateKey.Storable
    (key : RSAPrivateKey) : Prop where
  -- an `unsigned int`
  bits : key.bits < 2 ^ 32
  n : mpzSizeinbase2 key.n < 65536
  e : mpzSizeinbase2 key.e < 65536
  d : mpzSizeinbase2 key.d < 65536
  u : mpzSizeinbase2 key.u < 65536
  p : mpzSizeinbase2 key.p < 65536
  q : mpzSizeinbase2 key.q < 65536

/- What the caller holds after the public part is loaded. -/
def KeyMemory.ofPublicKey
    (pub : RSAPublicKey)
    (comment : Option (List UInt8)) : KeyMemory :=
  { KeyMemory.empty with
    bits := pub.bits, n := pub.n, e := pub.e, comment }

/- What the caller holds after the whole key is loaded. -/
def KeyMemory.ofPrivateKey
    (key : RSAPrivateKey)
    (comment : Option (List UInt8)) : KeyMemory where
  bits := key.bits
  n := key.n
  e := key.e
  d := key.d
  u := key.u
  p := key.p
  q := key.q
  comment := comment

/-
  A key that has been saved is loaded again with the same
  passphrase, and so is its public part without any, where
  the file is one that is read at all. A file of more than
  32000 bytes is saved, too, but refused when it is loaded.
-/
theorem keyFile_roundTrip
    (env : KeyFileEnv)
    (passphrase : List UInt8)
    (key : RSAPrivateKey)
    (comment : List UInt8)
    (check : UInt8 × UInt8)
    (written : Option Nat)
    (file : List UInt8)
    (hKey : key.Storable)
    (hSave :
      savePrivateKey env passphrase key comment check
        written = .ok (.saved file)) :
    (file.length ≤ 32000 →
      ∀ commentReturn,
        let comment := if commentReturn then some comment
          else none
        loadPrivateKey env (.whole file) passphrase
            commentReturn =
          .ok (true, .ofPrivateKey key comment) ∧
        loadPublicKey (.whole file) commentReturn =
          .ok (true, .ofPublicKey key.publicKey comment)) ∧
    (32000 < file.length →
      ∀ commentReturn,
        loadPrivateKey env (.whole file) passphrase
            commentReturn = .ok (false, .empty) ∧
        loadPublicKey (.whole file) commentReturn =
          .ok (false, .empty)) := by
  rcases savePrivateKey_saved hSave with
    ⟨cipherType, cp, hType, rfl, hDecrypt⟩
  constructor
  · intro hShort commentReturn comment'
    rw [fileBytes] at hShort ⊢
    have hRead := readKeyFile_whole hShort
    have hHeader :=
      readKeyHeader_headerBytes
        ⟨cipherType, key.bits, key.n, key.e⟩
        (by
          rcases hType with rfl | rfl
          · exact (by decide : sshCipherNone < 256)
          · exact (by decide : sshAuthfileCipher < 256))
        hKey.bits hKey.n hKey.e
        (bufferPutString [] comment ++ cp)
    have hComment :
        bufferGetString (bufferPutString [] comment ++ cp) =
          .ok (comment, cp) := by
      apply bufferGetString_bufferPutString_append
      simp only [bufferPutString, bufferPutInt, bufferAppend,
        List.length_append] at hShort
      unfold maxStringLength
      omega
    have hCheck :=
      readCheckBytes_repeated check.1 check.2
    have hPrivate :=
      fun memory rest => readPrivatePart_mpIntBytes memory
        key hKey.d hKey.u hKey.p hKey.q rest
    constructor
    · simp only [loadPrivateKey, hRead, hHeader, hComment,
        FallibleRun.ok_bind, loadPrivatePart,
        cipherSupported_saved _ hType, hDecrypt]
      simp only [padToBlocks, secretBytes, bufferAppend,
        List.cons_append, List.nil_append, List.append_assoc,
        hCheck, hPrivate, FallibleRun.ok_bind,
        FallibleRun.pure_eq_ok]
      rfl
    · simp only [loadPublicKey, hRead, hHeader, hComment,
        FallibleRun.ok_bind, FallibleRun.pure_eq_ok]
      cases commentReturn <;> rfl
  · intro hLong commentReturn
    have hRead := readKeyFile_of_long hLong
    constructor
    · simp only [loadPrivateKey, hRead, FallibleRun.ok_bind,
        FallibleRun.pure_eq_ok]
    · simp only [loadPublicKey, hRead, FallibleRun.ok_bind,
        FallibleRun.pure_eq_ok]

/- A number of one byte takes three bytes. -/
theorem length_mpIntBytes_one :
    (mpIntBytes 1).length = 3 := by
  rw [mpIntBytes, List.length_append,
    length_hexToBinary_mpzGetStr16, put16Bit,
    BigEndian.length_toBytes]
  rfl

theorem keyFile_roundTrip_smallKey :
    let env : KeyFileEnv :=
      ⟨⟨true, true, true, true, true⟩,
        ⟨⟨fun _ x => x, fun _ x => x⟩, ⟨#[], #[]⟩⟩,
        Md5.digest, Md5.length_digest⟩
    let key : RSAPrivateKey := ⟨1, 1, 1, 1, 1, 1, 1⟩
    ∃ file,
      savePrivateKey env [112] key [99] (7, 9)
          (some file.length) = .ok (.saved file) ∧
      loadPrivateKey env (.whole file) [112] true =
        .ok (true, .ofPrivateKey key (some [99])) := by
  intro env key
  rcases exists_savePrivateKey env [112] key [99] (7, 9) with
    ⟨cipherType, cp, hLength, hSave⟩
  have hSecret : (secretBytes key (7, 9)).length = 16 := by
    simp only [secretBytes, List.length_append,
      List.length_cons, List.length_nil, key,
      length_mpIntBytes_one]
  have hShort :
      (fileBytes key [99] cipherType cp).length ≤ 32000 := by
    rw [length_fileBytes, hLength, padToBlocks, bufferAppend,
      List.length_append, List.length_replicate, hSecret]
    simp only [key, length_mpIntBytes_one]
    decide
  have hKey : key.Storable :=
    ⟨by decide, by decide, by decide, by decide, by decide,
      by decide, by decide⟩
  exact ⟨_, hSave,
    ((keyFile_roundTrip env [112] key [99] (7, 9) _ _ hKey
      hSave).1 hShort true).1⟩

/- A key with a long comment is saved and then refused. -/
theorem keyFile_longComment :
    let env : KeyFileEnv :=
      ⟨⟨true, true, true, true, true⟩,
        ⟨⟨fun _ x => x, fun _ x => x⟩, ⟨#[], #[]⟩⟩,
        Md5.digest, Md5.length_digest⟩
    let key : RSAPrivateKey := ⟨1, 1, 1, 1, 1, 1, 1⟩
    let comment : List UInt8 := List.replicate 32000 97
    ∃ file,
      savePrivateKey env [] key comment (7, 9)
          (some file.length) = .ok (.saved file) ∧
      loadPrivateKey env (.whole file) [] true =
        .ok (false, .empty) ∧
      loadPublicKey (.whole file) true =
        .ok (false, .empty) := by
  intro env key comment
  rcases exists_savePrivateKey env [] key comment (7, 9) with
    ⟨cipherType, cp, -, hSave⟩
  have hComment : comment.length = 32000 :=
    List.length_replicate
  have hLong :
      32000 <
        (fileBytes key comment cipherType cp).length := by
    rw [length_fileBytes, hComment]
    omega
  have hRead := readKeyFile_of_long hLong
  refine ⟨_, hSave, ?_, ?_⟩
  · simp only [loadPrivateKey, hRead, FallibleRun.ok_bind,
      FallibleRun.pure_eq_ok]
  · simp only [loadPublicKey, hRead, FallibleRun.ok_bind,
      FallibleRun.pure_eq_ok]

end Ssh1
