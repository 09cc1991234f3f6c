import Ssh1.Digest.Streaming
import Ssh1.Rsa.Padding
import Mathlib.NumberTheory.LucasLehmer

/-
  The exchange of the session key.

  The client masks its key with the session id and encrypts
  it for both keys of the server, the one with the smaller
  modulus first. The server chooses the opposite order.

  Main declarations:
    * `encryptSessionKey`
    * `decryptSessionKey`, `receivedSessionKey`
    * `prepareServerKeyBits`
    * `sessionKey_agreement`
-/

------------------------------------------------------------
-- The Two Sides
------------------------------------------------------------

namespace Ssh1

/- `SSH_KEY_BITS_RESERVED` -/
def keyBitsReserved : Nat := 128

/- `SSH_SESSION_KEY_LENGTH` -/
def sessionKeyLength : Nat := 32

/-
  The size of the server key, which `main` of the server
  forces apart from the size of the host key. The comparison
  is one of unsigned numbers.
-/
def prepareServerKeyBits
    (serverKeyBits hostKeyBits : Nat) : Nat :=
  if serverKeyBits >
        (hostKeyBits + 2 ^ 32 - keyBitsReserved) % 2 ^ 32 ∧
      serverKeyBits <
        (hostKeyBits + keyBitsReserved) % 2 ^ 32 then
    (hostKeyBits + keyBitsReserved) % 2 ^ 32
  else
    serverKeyBits

/- Xors the first 16 bytes of the key with the session id. -/
def maskSessionKey
    (sessionKey sessionId : List UInt8) : List UInt8 :=
  List.zipWith (· ^^^ ·) (sessionKey.take 16) sessionId ++
    sessionKey.drop 16

/- The integer of the masked key, highest byte first. -/
def sessionKeyInteger
    (sessionKey sessionId : List UInt8) : Nat :=
  (maskSessionKey sessionKey sessionId).foldl
    (fun key byte => key * 2 ^ 8 + byte.toNat) 0

/- The client: the integer that is sent to the server. -/
def encryptSessionKey
    (publicKey hostKey : RSAPublicKey)
    (sessionKey sessionId : List UInt8)
    (state : RandomState) :
    Outcome (Nat × RandomState) := do
  let key := sessionKeyInteger sessionKey sessionId
  if publicKey.n < hostKey.n then
    assert (hostKey.bits ≥
      (publicKey.bits + keyBitsReserved) % 2 ^ 32)
    let (key, state) ← rsaPublicEncrypt key publicKey state
    rsaPublicEncrypt key hostKey state
  else
    assert (publicKey.bits ≥
      (hostKey.bits + keyBitsReserved) % 2 ^ 32)
    let (key, state) ← rsaPublicEncrypt key hostKey state
    rsaPublicEncrypt key publicKey state

/- The server: the integer that was decrypted. -/
def decryptSessionKey
    (privateKey hostKey : RSAPrivateKey)
    (sessionKeyInt : Nat) : Outcome Nat := do
  if privateKey.n > hostKey.n then
    assert (privateKey.bits ≥
      (hostKey.bits + keyBitsReserved) % 2 ^ 32)
    let sessionKeyInt ←
      rsaPrivateDecrypt sessionKeyInt privateKey
    rsaPrivateDecrypt sessionKeyInt hostKey
  else
    assert (hostKey.bits ≥
      (privateKey.bits + keyBitsReserved) % 2 ^ 32)
    let sessionKeyInt ←
      rsaPrivateDecrypt sessionKeyInt hostKey
    rsaPrivateDecrypt sessionKeyInt privateKey

/- The key that the server takes from the integer. -/
def receivedSessionKey
    (sessionKeyInt : Nat)
    (sessionId : List UInt8) : List UInt8 :=
  maskSessionKey
    (mpLinearizeMsbFirst sessionKeyLength sessionKeyInt)
    sessionId

end Ssh1

------------------------------------------------------------
-- Masking
------------------------------------------------------------

namespace Ssh1

open BigEndian

/- Masking twice with bytes of the same number. -/
theorem zipWith_xor_twice
    {xs ys : List UInt8}
    (hLength : xs.length ≤ ys.length) :
    List.zipWith (· ^^^ ·)
      (List.zipWith (· ^^^ ·) xs ys) ys = xs := by
  induction xs generalizing ys with
  | nil => simp
  | cons x xs ih =>
      cases ys with
      | nil => simp at hLength
      | cons y ys =>
          have hRest : xs.length ≤ ys.length := by
            simpa using hLength
          simp only [List.zipWith_cons_cons, ih hRest,
            UInt8.xor_assoc, UInt8.xor_self, UInt8.xor_zero]

theorem length_maskSessionKey
    {sessionKey sessionId : List UInt8}
    (hKey : sessionKey.length = sessionKeyLength)
    (hId : sessionId.length = 16) :
    (maskSessionKey sessionKey sessionId).length =
      sessionKeyLength := by
  simp [maskSessionKey, hKey, hId, sessionKeyLength]

/- The mask is removed by applying it again. -/
theorem maskSessionKey_twice
    {sessionKey sessionId : List UInt8}
    (hKey : sessionKey.length = sessionKeyLength)
    (hId : sessionId.length = 16) :
    maskSessionKey (maskSessionKey sessionKey sessionId)
      sessionId = sessionKey := by
  have hTake : (sessionKey.take 16).length = 16 := by
    simp [hKey, sessionKeyLength]
  have hMasked :
      (List.zipWith (· ^^^ ·) (sessionKey.take 16)
        sessionId).length = 16 := by
    rw [List.length_zipWith, hTake, hId]
    rfl
  rw [maskSessionKey, maskSessionKey,
    List.take_left' hMasked, List.drop_left' hMasked,
    zipWith_xor_twice (by rw [hTake, hId]),
    List.take_append_drop]

theorem sessionKeyInteger_eq_ofBytes
    (sessionKey sessionId : List UInt8) :
    sessionKeyInteger sessionKey sessionId =
      ofBytes (maskSessionKey sessionKey sessionId) := rfl

/- The server reads the key back from the integer. -/
theorem receivedSessionKey_sessionKeyInteger
    {sessionKey sessionId : List UInt8}
    (hKey : sessionKey.length = sessionKeyLength)
    (hId : sessionId.length = 16) :
    receivedSessionKey
      (sessionKeyInteger sessionKey sessionId) sessionId =
        sessionKey := by
  rw [receivedSessionKey, mpLinearizeMsbFirst_eq_toBytes,
    sessionKeyInteger_eq_ofBytes,
    ← length_maskSessionKey hKey hId, toBytes_ofBytes,
    maskSessionKey_twice hKey hId]

/- The integer of a key takes no more bytes than the key. -/
theorem inputLength_sessionKeyInteger_le
    {sessionKey sessionId : List UInt8}
    (hKey : sessionKey.length = sessionKeyLength)
    (hId : sessionId.length = 16) :
    inputLength (sessionKeyInteger sessionKey sessionId) ≤
      sessionKeyLength := by
  have hLt :=
    ofBytes_lt (maskSessionKey sessionKey sessionId)
  rw [length_maskSessionKey hKey hId] at hLt
  have hPow : (256 : Nat) ^ sessionKeyLength =
      2 ^ (8 * sessionKeyLength) := by
    rw [Nat.pow_mul]
  rw [hPow] at hLt
  have hSize := mpzSizeinbase2_le (by decide) hLt
  rw [sessionKeyInteger_eq_ofBytes, inputLength]
  omega

end Ssh1

------------------------------------------------------------
-- Nested Encryption
------------------------------------------------------------

namespace Ssh1

/- A ciphertext is not longer than its modulus. -/
theorem inputLength_le_of_lt_n
    {prv : RSAPrivateKey}
    (hKey : prv.Exact)
    {value : Nat}
    (hValue : value < prv.n) :
    inputLength value ≤ (prv.bits + 7) / 8 := by
  have hSize := mpzSizeinbase2_le hKey.bits_pos
    (lt_trans hValue hKey.high)
  unfold inputLength
  omega

/- One layer of encryption is undone by decryption. -/
theorem decrypt_encrypt
    (key : KeyPair)
    {input : Nat}
    {state : RandomState}
    (hBits : key.prv.bits + 7 < 2 ^ 32)
    (hExponent : 3 ≤ key.prv.e)
    (hInput :
      inputLength input + 3 ≤ (key.prv.bits + 7) / 8)
    (hState :
      (key.prv.bits + 7) / 8 ≤ nonzeroBytes state) :
    ∃ output rest,
      rsaPublicEncrypt input key.prv.publicKey state =
        .ok (output, rest) ∧
      rsaPrivateDecrypt output key.prv = .ok input ∧
      output < key.prv.n ∧
      nonzeroBytes state ≤
        nonzeroBytes rest + (key.prv.bits + 7) / 8 := by
  have hEnough :
      (key.prv.bits + 7) / 8 - inputLength input - 3 ≤
        nonzeroBytes state := by
    omega
  rcases rsaPublicEncrypt_spec hBits hExponent hInput
      hEnough with
    ⟨padding, rest, hZero, hLength, _, hEncrypt, hRest⟩
  have hLt := ofBytes_block_lt_n key.exact hLength
  refine ⟨_, rest, hEncrypt, ?_, ?_, by omega⟩
  · rw [rsaPrivateDecrypt_block hBits hZero hLength
      (key.inverse _ hLt), ofBytes_inputBytes]
  · exact rsaPublic_lt _ (Nat.zero_lt_of_lt hLt)

/- The outer key holds the ciphertext of the inner one. -/
theorem decrypt_encrypt_nested
    (inner outer : KeyPair)
    {input : Nat}
    {state : RandomState}
    (hInner : inner.prv.bits + 7 < 2 ^ 32)
    (hOuter : outer.prv.bits + 7 < 2 ^ 32)
    (hInnerExponent : 3 ≤ inner.prv.e)
    (hOuterExponent : 3 ≤ outer.prv.e)
    (hReserved :
      inner.prv.bits + keyBitsReserved ≤ outer.prv.bits)
    (hInput :
      inputLength input + 3 ≤ (inner.prv.bits + 7) / 8)
    (hState :
      (inner.prv.bits + 7) / 8 +
        (outer.prv.bits + 7) / 8 ≤ nonzeroBytes state) :
    ∃ middle state' output rest,
      rsaPublicEncrypt input inner.prv.publicKey state =
        .ok (middle, state') ∧
      rsaPublicEncrypt middle outer.prv.publicKey state' =
        .ok (output, rest) ∧
      rsaPrivateDecrypt output outer.prv = .ok middle ∧
      rsaPrivateDecrypt middle inner.prv = .ok input := by
  have hEnough :
      (inner.prv.bits + 7) / 8 ≤ nonzeroBytes state := by
    omega
  rcases decrypt_encrypt inner hInner hInnerExponent hInput
      hEnough with
    ⟨middle, state', hEncrypt, hDecrypt, hMiddle, hRest⟩
  have hMiddleLength :=
    inputLength_le_of_lt_n inner.exact hMiddle
  have hRoom :
      inputLength middle + 3 ≤ (outer.prv.bits + 7) / 8 := by
    simp only [keyBitsReserved] at hReserved
    omega
  have hEnough' :
      (outer.prv.bits + 7) / 8 ≤ nonzeroBytes state' := by
    omega
  rcases decrypt_encrypt outer hOuter hOuterExponent hRoom
      hEnough' with
    ⟨output, rest, hEncrypt', hDecrypt', _, _⟩
  exact ⟨middle, state', output, rest, hEncrypt, hEncrypt',
    hDecrypt', hDecrypt⟩

/- Fewer bits mean a smaller modulus. -/
theorem n_lt_of_bits_lt
    {prv prv' : RSAPrivateKey}
    (hKey : prv.Exact)
    (hKey' : prv'.Exact)
    (hBits : prv.bits < prv'.bits) :
    prv.n < prv'.n :=
  calc prv.n < 2 ^ prv.bits := hKey.high
    _ ≤ 2 ^ (prv'.bits - 1) :=
        Nat.pow_le_pow_right (by omega) (by omega)
    _ ≤ prv'.n := hKey'.low

/- The sizes that `main` accepts for the server key. -/
def ServerKeyBitsAccepted (serverKeyBits : Nat) : Prop :=
  512 ≤ serverKeyBits ∧ serverKeyBits ≤ 32768

/- The prepared sizes are far enough apart. -/
theorem prepareServerKeyBits_apart
    {serverKeyBits hostKeyBits : Nat}
    (hAccepted : ServerKeyBitsAccepted serverKeyBits)
    (hHost : hostKeyBits + 7 < 2 ^ 32) :
    prepareServerKeyBits serverKeyBits hostKeyBits + 7 <
        2 ^ 32 ∧
      512 ≤ prepareServerKeyBits serverKeyBits hostKeyBits ∧
      (hostKeyBits + keyBitsReserved ≤
          prepareServerKeyBits serverKeyBits hostKeyBits ∨
        prepareServerKeyBits serverKeyBits hostKeyBits +
          keyBitsReserved ≤ hostKeyBits) := by
  rcases hAccepted with
    ⟨hLow, hHigh⟩
  unfold prepareServerKeyBits keyBitsReserved
  split <;> omega

end Ssh1

------------------------------------------------------------
-- Agreement
------------------------------------------------------------

namespace Ssh1

/-
  What both sides arrive at: the client's integer is
  decrypted by the server, and both hold the same key.
-/
def SessionKeyAgreed
    (server host : KeyPair)
    (sessionKey sessionId : List UInt8)
    (state : RandomState) : Prop :=
  ∃ sent rest,
    encryptSessionKey server.prv.publicKey
        host.prv.publicKey sessionKey sessionId state =
      .ok (sent, rest) ∧
    decryptSessionKey server.prv host.prv sent =
      .ok (sessionKeyInteger sessionKey sessionId) ∧
    receivedSessionKey
        (sessionKeyInteger sessionKey sessionId)
        sessionId =
      sessionKey

variable
  {server host : KeyPair}
  {sessionKey sessionId : List UInt8}
  {state : RandomState}

/- The host key is the smaller one. -/
theorem agreed_of_host_smaller
    (hKey : sessionKey.length = sessionKeyLength)
    (hId : sessionId.length = 16)
    (hServer : server.prv.bits + 7 < 2 ^ 32)
    (hHost : host.prv.bits + 7 < 2 ^ 32)
    (hServerExponent : 3 ≤ server.prv.e)
    (hHostExponent : 3 ≤ host.prv.e)
    (hRoom : 35 ≤ (host.prv.bits + 7) / 8)
    (hApart :
      host.prv.bits + keyBitsReserved ≤ server.prv.bits)
    (hState :
      (host.prv.bits + 7) / 8 +
        (server.prv.bits + 7) / 8 ≤ nonzeroBytes state) :
    SessionKeyAgreed server host sessionKey sessionId
      state := by
  have hInput := inputLength_sessionKeyInteger_le hKey hId
  simp only [sessionKeyLength] at hInput
  have hFits :
      inputLength (sessionKeyInteger sessionKey sessionId) +
        3 ≤ (host.prv.bits + 7) / 8 := by
    omega
  rcases decrypt_encrypt_nested host server
      hHost hServer hHostExponent hServerExponent hApart
      hFits hState with
    ⟨middle, state', output, rest, hInner, hOuter,
      hOuterBack, hInnerBack⟩
  have hLess := n_lt_of_bits_lt host.exact server.exact
    (by simp only [keyBitsReserved] at hApart; omega)
  have hSmaller :
      ¬ server.prv.publicKey.n < host.prv.publicKey.n :=
    not_lt.mpr hLess.le
  have hAssert :
      assert (server.prv.bits ≥
        (host.prv.bits + keyBitsReserved) % 2 ^ 32) =
          .ok () :=
    assert_of_true (le_trans (Nat.mod_le _ _) hApart)
  refine ⟨output, rest, ?_, ?_,
    receivedSessionKey_sessionKeyInteger hKey hId⟩
  · rw [encryptSessionKey, if_neg hSmaller]
    exact (congrArg (· >>= _) hAssert).trans
      (by simp only [FallibleRun.ok_bind, hInner, hOuter])
  · rw [decryptSessionKey, if_pos hLess]
    simp only [hAssert, FallibleRun.ok_bind, hOuterBack,
      hInnerBack]

/- The server key is the smaller one. -/
theorem agreed_of_server_smaller
    (hKey : sessionKey.length = sessionKeyLength)
    (hId : sessionId.length = 16)
    (hServer : server.prv.bits + 7 < 2 ^ 32)
    (hHost : host.prv.bits + 7 < 2 ^ 32)
    (hServerExponent : 3 ≤ server.prv.e)
    (hHostExponent : 3 ≤ host.prv.e)
    (hRoom : 35 ≤ (server.prv.bits + 7) / 8)
    (hApart :
      server.prv.bits + keyBitsReserved ≤ host.prv.bits)
    (hState :
      (server.prv.bits + 7) / 8 +
        (host.prv.bits + 7) / 8 ≤ nonzeroBytes state) :
    SessionKeyAgreed server host sessionKey sessionId
      state := by
  have hInput := inputLength_sessionKeyInteger_le hKey hId
  simp only [sessionKeyLength] at hInput
  have hFits :
      inputLength (sessionKeyInteger sessionKey sessionId) +
        3 ≤ (server.prv.bits + 7) / 8 := by
    omega
  rcases decrypt_encrypt_nested server host
      hServer hHost hServerExponent hHostExponent hApart
      hFits hState with
    ⟨middle, state', output, rest, hInner, hOuter,
      hOuterBack, hInnerBack⟩
  have hLess :
      server.prv.publicKey.n < host.prv.publicKey.n :=
    n_lt_of_bits_lt server.exact host.exact
      (by simp only [keyBitsReserved] at hApart; omega)
  have hNotGreater : ¬ server.prv.n > host.prv.n :=
    not_lt.mpr (le_of_lt hLess)
  have hAssert :
      assert (host.prv.bits ≥
        (server.prv.bits + keyBitsReserved) % 2 ^ 32) =
          .ok () :=
    assert_of_true (le_trans (Nat.mod_le _ _) hApart)
  refine ⟨output, rest, ?_, ?_,
    receivedSessionKey_sessionKeyInteger hKey hId⟩
  · rw [encryptSessionKey, if_pos hLess]
    exact (congrArg (· >>= _) hAssert).trans
      (by simp only [FallibleRun.ok_bind, hInner, hOuter])
  · rw [decryptSessionKey, if_neg hNotGreater]
    simp only [hAssert, FallibleRun.ok_bind, hOuterBack,
      hInnerBack]

/-
  With a host key of at least 35 bytes, a server key of the
  prepared size and proper exponents, both sides agree on
  the key for every cookie and every padding.
-/
theorem sessionKey_agreement
    (md5 : List UInt8 → List UInt8)
    (server host : KeyPair)
    (serverKeyBits : Nat)
    (cookie sessionKey : List UInt8)
    (state : RandomState)
    (hMd5 : ∀ bytes, (md5 bytes).length = 16)
    (hAccepted : ServerKeyBitsAccepted serverKeyBits)
    (hPrepared :
      server.prv.bits =
        prepareServerKeyBits serverKeyBits host.prv.bits)
    (hHost : 35 ≤ byteLength host.prv.bits)
    (hHostExponent : 3 ≤ host.prv.e)
    (hServerExponent : 3 ≤ server.prv.e)
    (hKey : sessionKey.length = sessionKeyLength)
    (hState :
      byteLength host.prv.bits +
        byteLength server.prv.bits ≤ nonzeroBytes state) :
    SessionKeyAgreed server host sessionKey
      (computeSessionId md5 cookie
        host.prv.bits host.prv.n
        server.prv.bits server.prv.n)
      state := by
  have hHostFits :=
    host.exact.fits_of_byteLength_pos (by omega)
  rcases prepareServerKeyBits_apart hAccepted hHostFits with
    ⟨hServerFits, hServerBits, hApart⟩
  rw [← hPrepared] at hServerFits hServerBits hApart
  rw [byteLength_of_lt hHostFits] at hHost
  rw [byteLength_of_lt hHostFits,
    byteLength_of_lt hServerFits] at hState
  rcases hApart with hHostSmaller | hServerSmaller
  · exact agreed_of_host_smaller hKey (hMd5 _) hServerFits
      hHostFits hServerExponent hHostExponent hHost
      hHostSmaller hState
  · exact agreed_of_server_smaller hKey (hMd5 _) hServerFits
      hHostFits hServerExponent hHostExponent (by omega)
      hServerSmaller (by omega)

/- Three primes that are one less than a power of two. -/
theorem mersenne_127_prime : (mersenne 127).Prime :=
  lucas_lehmer_sufficiency 127 (by norm_num) (by norm_num)

theorem mersenne_521_prime : (mersenne 521).Prime :=
  lucas_lehmer_sufficiency 521 (by norm_num) (by norm_num)

theorem mersenne_607_prime : (mersenne 607).Prime :=
  lucas_lehmer_sufficiency 607 (by norm_num) (by norm_num)

/- A host key of 1128 bits. -/
def longHostKey : KeyPair :=
  .ofPrimes 1128 (mersenne 521) (mersenne 607) 13
    mersenne_521_prime mersenne_607_prime
    (by decide +kernel) (by decide +kernel)
    (by decide +kernel) (by decide +kernel)
    (by decide +kernel) (by decide +kernel)

/- A server key of 648 bits. -/
def serverKey : KeyPair :=
  .ofPrimes 648 (mersenne 127) (mersenne 521) 13
    mersenne_127_prime mersenne_521_prime
    (by decide +kernel) (by decide +kernel)
    (by decide +kernel) (by decide +kernel)
    (by decide +kernel) (by decide +kernel)

theorem sessionKey_agreement_longHostKey :
    SessionKeyAgreed serverKey longHostKey
      (List.replicate 32 1)
      (computeSessionId Md5.digest (List.replicate 8 5)
        longHostKey.prv.bits longHostKey.prv.n
        serverKey.prv.bits serverKey.prv.n)
      (List.replicate 300 7) :=
  sessionKey_agreement Md5.digest
    serverKey longHostKey 648
    (List.replicate 8 5) (List.replicate 32 1)
    (List.replicate 300 7)
    Md5.length_digest
    (by unfold ServerKeyBitsAccepted; decide)
    (by decide) (by decide) (by decide) (by decide)
    (by decide) (by decide +kernel)

/-
  A host key of five bytes has no room for the session key,
  and the client stops at an assertion. The server key has
  the size that it is prepared with.
-/
theorem encryptSessionKey_short_host_key :
    ServerKeyBitsAccepted 648 ∧
      serverKey.prv.bits =
        prepareServerKeyBits 648 mediumKey.prv.bits ∧
      encryptSessionKey serverKey.prv.publicKey
          mediumKey.prv.publicKey
          (List.replicate 32 1) (List.replicate 16 9)
          (List.replicate 300 7) =
        .error .assertion := by
  refine ⟨by unfold ServerKeyBitsAccepted; decide,
    by decide, ?_⟩
  decide +kernel

end Ssh1
