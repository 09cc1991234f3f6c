import Ssh1.Base.Buffer

/-
  Integers written into memory, and the session id.

  The session id is the MD5 hash of the two moduli and the
  cookie, written one after the other without their lengths.

  Main declarations:
    * `mpLinearizeMsbFirst`
    * `mpLinearizeMsbFirst_eq_toBytes`
    * `computeSessionId`
    * `KeyExchange`
    * `KeyExchange.sessionId_binds`
-/

------------------------------------------------------------
-- Linearization
------------------------------------------------------------

namespace Ssh1

open BigEndian

/- The conversion of `mpz_get_ui` to `unsigned long`. -/
def mpzGetUi (value : Nat) : Nat :=
  value % 2 ^ 64

/- `(bits + 7) / 8` for the unsigned 32-bit `bits`. -/
def byteLength (bits : Nat) : Nat :=
  (bits + 7) % 2 ^ 32 / 8

/- The second loop: single bytes up to the start. -/
def linearizeBytes : Nat → Nat → List UInt8
| 0, _ => []
| i + 1, aux =>
    linearizeBytes i (aux / 2 ^ 8) ++ [UInt8.ofNat aux]

/-
  Converts an integer into `len` bytes, msb first. The
  memory is filled from its end, a 32-bit word at a time
  while there is room for one.
-/
def mpLinearizeMsbFirst : Nat → Nat → List UInt8
| i + 4, aux =>
    mpLinearizeMsbFirst i (aux / 2 ^ 32) ++
      put32Bit (aux % 2 ^ 32)
| i, aux => linearizeBytes i aux

theorem linearizeBytes_eq_toBytes
    (len value : Nat) :
    linearizeBytes len value = toBytes len value := by
  induction len generalizing value with
  | zero => rfl
  | succ len ih => simp [linearizeBytes, toBytes, ih]

/- The words and bytes are those of the number. -/
theorem mpLinearizeMsbFirst_eq_toBytes
    (len value : Nat) :
    mpLinearizeMsbFirst len value = toBytes len value := by
  induction len, value using mpLinearizeMsbFirst.induct with
  | case1 len value ih =>
      rw [mpLinearizeMsbFirst, ih, toBytes_add len 4]
      congr 1
      exact toBytes_mod 4 value
  | case2 len value hShort =>
      rw [mpLinearizeMsbFirst, linearizeBytes_eq_toBytes]
      exact hShort

@[simp] theorem length_mpLinearizeMsbFirst
    (len value : Nat) :
    (mpLinearizeMsbFirst len value).length = len := by
  rw [mpLinearizeMsbFirst_eq_toBytes, length_toBytes]

theorem byteLength_of_lt
    {bits : Nat}
    (hBits : bits + 7 < 2 ^ 32) :
    byteLength bits = (bits + 7) / 8 := by
  rw [byteLength, Nat.mod_eq_of_lt hBits]

/- A number of at most `bits` bits fits into its bytes. -/
theorem lt_pow_byteLength
    {bits value : Nat}
    (hBits : bits + 7 < 2 ^ 32)
    (hValue : value < 2 ^ bits) :
    value < 256 ^ byteLength bits := by
  have hPow : (256 : Nat) ^ byteLength bits =
      2 ^ (8 * byteLength bits) := by
    rw [Nat.pow_mul]
  have hLe : bits ≤ 8 * byteLength bits := by
    rw [byteLength_of_lt hBits]
    omega
  rw [hPow]
  exact lt_of_lt_of_le hValue
    (Nat.pow_le_pow_right (by omega) hLe)

end Ssh1

------------------------------------------------------------
-- Session Id
------------------------------------------------------------

namespace Ssh1

open BigEndian

/- The memory that is fed to MD5. -/
def sessionIdInput
    (cookie : List UInt8)
    (hostKeyBits hostKeyN : Nat)
    (sessionKeyBits sessionKeyN : Nat) : List UInt8 :=
  mpLinearizeMsbFirst (byteLength hostKeyBits) hostKeyN ++
    mpLinearizeMsbFirst
      (byteLength sessionKeyBits) sessionKeyN ++
    cookie

/- `compute_session_id`, with the hash as a parameter. -/
def computeSessionId
    (md5 : List UInt8 → List UInt8)
    (cookie : List UInt8)
    (hostKeyBits hostKeyN : Nat)
    (sessionKeyBits sessionKeyN : Nat) : List UInt8 :=
  md5 (sessionIdInput cookie hostKeyBits hostKeyN
    sessionKeyBits sessionKeyN)

/- A modulus that has exactly its declared bits. -/
structure Modulus where
  bits : Nat
  n : Nat
  low : 2 ^ (bits - 1) ≤ n
  high : n < 2 ^ bits
  -- `bits` is an `unsigned int`
  unsigned : bits < 2 ^ 32

/- What the two sides put into the session id. -/
structure KeyExchange where
  host : Modulus
  server : Modulus
  cookie : List UInt8
  length_cookie : cookie.length = 8

namespace Modulus

/- Computing `bits + 7` does not wrap around. -/
def Fits (modulus : Modulus) : Prop :=
  modulus.bits + 7 < 2 ^ 32

/- The bytes of the modulus in the hashed memory. -/
def linearized (modulus : Modulus) : List UInt8 :=
  mpLinearizeMsbFirst (byteLength modulus.bits) modulus.n

/- Below the declared size a modulus is read back. -/
theorem ofBytes_linearized
    {modulus : Modulus}
    (hFits : modulus.Fits) :
    ofBytes modulus.linearized = modulus.n := by
  rw [linearized, mpLinearizeMsbFirst_eq_toBytes]
  exact ofBytes_toBytes_of_lt
    (lt_pow_byteLength hFits modulus.high)

/- The declared size is the size of the number. -/
theorem bits_le_of_n_eq
    {x y : Modulus}
    (hValue : x.n = y.n) :
    x.bits ≤ y.bits := by
  have hPow : 2 ^ (x.bits - 1) < 2 ^ y.bits :=
    calc 2 ^ (x.bits - 1) ≤ x.n := x.low
      _ = y.n := hValue
      _ < 2 ^ y.bits := y.high
  have hExp :=
    (Nat.pow_lt_pow_iff_right (by omega)).mp hPow
  omega

theorem eq_of_n_eq
    {x y : Modulus}
    (hValue : x.n = y.n) :
    x = y := by
  have hBits : x.bits = y.bits :=
    le_antisymm (bits_le_of_n_eq hValue)
      (bits_le_of_n_eq hValue.symm)
  cases x
  cases y
  simp_all

/- The written bytes determine the modulus. -/
theorem eq_of_linearized_eq
    {x y : Modulus}
    (hx : x.Fits)
    (hy : y.Fits)
    (hBytes : x.linearized = y.linearized) :
    x = y := by
  apply eq_of_n_eq
  rw [← ofBytes_linearized hx, ← ofBytes_linearized hy,
    hBytes]

end Modulus

namespace KeyExchange

/- What a session feeds to MD5. -/
def input (exchange : KeyExchange) : List UInt8 :=
  sessionIdInput exchange.cookie
    exchange.host.bits exchange.host.n
    exchange.server.bits exchange.server.n

/- The session id of a session. -/
def sessionId
    (md5 : List UInt8 → List UInt8)
    (exchange : KeyExchange) : List UInt8 :=
  computeSessionId md5 exchange.cookie
    exchange.host.bits exchange.host.n
    exchange.server.bits exchange.server.n

/- Both moduli are within the unsigned arithmetic. -/
def Fits (exchange : KeyExchange) : Prop :=
  exchange.host.Fits ∧ exchange.server.Fits

/- The cookie and the joined moduli can be read back. -/
theorem input_eq_iff
    (x y : KeyExchange) :
    x.input = y.input ↔
      x.host.linearized ++ x.server.linearized =
          y.host.linearized ++ y.server.linearized ∧
        x.cookie = y.cookie := by
  constructor
  · intro hInput
    have hCookie : x.cookie.length = y.cookie.length := by
      rw [x.length_cookie, y.length_cookie]
    exact List.append_inj' hInput hCookie
  · rintro ⟨hModuli, hCookie⟩
    simp only [Modulus.linearized] at hModuli
    simp only [input, sessionIdInput, hModuli, hCookie]

/- With the boundary known, the moduli can be told apart. -/
theorem eq_of_input_eq
    {x y : KeyExchange}
    (hx : x.Fits)
    (hy : y.Fits)
    (hBoundary :
      byteLength x.host.bits = byteLength y.host.bits)
    (hInput : x.input = y.input) :
    x = y := by
  rcases (input_eq_iff x y).mp hInput with
    ⟨hModuli, hCookie⟩
  have hLength :
      x.host.linearized.length =
        y.host.linearized.length := by
    simpa [Modulus.linearized] using hBoundary
  rcases List.append_inj hModuli hLength with
    ⟨hHost, hServer⟩
  have hHostEq := Modulus.eq_of_linearized_eq hx.1 hy.1 hHost
  have hServerEq :=
    Modulus.eq_of_linearized_eq hx.2 hy.2 hServer
  cases x
  cases y
  simp_all

/-
  Equal hashed bytes always mean equal cookies and equal
  joined moduli. If the host moduli take the same number of
  bytes, they mean that all three parts are equal, and then
  a shared session id means so unless the hash collides.
-/
theorem sessionId_binds
    (x y : KeyExchange)
    (hx : x.Fits)
    (hy : y.Fits) :
    (x.input = y.input →
      x.cookie = y.cookie ∧
        x.host.linearized ++ x.server.linearized =
          y.host.linearized ++ y.server.linearized) ∧
    (byteLength x.host.bits = byteLength y.host.bits →
      (x.input = y.input → x = y) ∧
      ∀ md5 : List UInt8 → List UInt8,
        (md5 x.input = md5 y.input → x.input = y.input) →
        x.sessionId md5 = y.sessionId md5 → x = y) := by
  refine ⟨?_, ?_⟩
  · intro hInput
    exact ((input_eq_iff x y).mp hInput).symm
  · intro hBoundary
    refine ⟨eq_of_input_eq hx hy hBoundary, ?_⟩
    intro md5 hNoCollision hSessionId
    exact eq_of_input_eq hx hy hBoundary
      (hNoCollision hSessionId)

end KeyExchange

end Ssh1

------------------------------------------------------------
-- Two Splits of the Same Bytes
------------------------------------------------------------

namespace Ssh1

namespace KeyExchange

/- A host modulus of two bytes before a server modulus of one. -/
def wideHost : KeyExchange where
  host := ⟨16, 71 * 467, by decide, by decide, by decide⟩
  server := ⟨8, 3 * 47, by decide, by decide, by decide⟩
  cookie := List.replicate 8 0
  length_cookie := rfl

/- A host modulus of one byte before a server modulus of two. -/
def narrowHost : KeyExchange where
  host := ⟨8, 3 * 43, by decide, by decide, by decide⟩
  server := ⟨16, 179 * 191, by decide, by decide, by decide⟩
  cookie := List.replicate 8 0
  length_cookie := rfl

/- The same keys with another cookie. -/
def otherCookie : KeyExchange where
  host := wideHost.host
  server := wideHost.server
  cookie := List.replicate 8 1
  length_cookie := rfl

theorem sessionId_binds_otherCookie :
    wideHost.sessionId id ≠ otherCookie.sessionId id := by
  intro hSessionId
  have hEqual : wideHost = otherCookie :=
    ((sessionId_binds wideHost otherCookie
      (by unfold Fits Modulus.Fits; decide)
      (by unfold Fits Modulus.Fits; decide)).2 rfl).2
        id id hSessionId
  have hCookie := congrArg KeyExchange.cookie hEqual
  revert hCookie
  decide

/-
  Different keys feed the same bytes to the hash, and so
  share the session id whatever the hash is.
-/
theorem input_ambiguous :
    wideHost.input = narrowHost.input ∧
      wideHost.host.n ≠ narrowHost.host.n ∧
      wideHost.server.n ≠ narrowHost.server.n ∧
      ∀ md5, wideHost.sessionId md5 =
        narrowHost.sessionId md5 := by
  have hInput : wideHost.input = narrowHost.input := by
    decide
  refine ⟨hInput, by decide, by decide, ?_⟩
  intro md5
  exact congrArg md5 hInput

end KeyExchange

end Ssh1
