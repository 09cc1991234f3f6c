import Ssh1.Packet.Layer
import Ssh1.Packet.DeattackCorrectness

/-
  When the packet reader fails an assertion.

  A length word of exactly 256 kilobytes passes the check of
  the reader, but with its padding the packet is one block
  longer than the attack detector takes. Everything else that
  a peer can send ends in a packet, in no packet yet, or in
  an orderly end of the process.

  Main results:
    * `packetDisconnect_not_aborted`
    * `pollTurns_orderly`, `pollTurns_assertion`
    * `packetReadPoll_not_aborted_iff`
    * `run_not_aborted_iff`
-/

------------------------------------------------------------
-- Disconnecting
------------------------------------------------------------

namespace Ssh1

variable {σ ζ : Type}
variable {env : PacketEnv σ ζ}
variable {state : PacketState σ ζ}
variable {halt : Halt}

theorem zlibFatal_not_aborted
    (name call : String)
    (status : ZStatus) :
    ¬ (zlibFatal name call status).IsAborted := by
  cases status <;> exact id

/- Compressing a packet keeps the room for the padding. -/
theorem compressOutgoing_orderly
    (env : PacketEnv σ ζ)
    (hLength : 8 ≤ state.outgoingPacket.length) :
    Orderly (compressOutgoing env state) fun state' =>
      8 ≤ state'.outgoingPacket.length := by
  unfold compressOutgoing
  by_cases hOn : state.packetCompression = true
  · rw [if_pos hOn, bufferConsume_of_le hLength]
    simp only [FallibleRun.ok_bind]
    unfold bufferCompress
    split
    · simp
    · split
      · simp [bufferAppend]
      · exact zlibFatal_not_aborted _ _ _
  · rw [if_neg hOn]
    exact hLength

/- A packet with room for its padding is sent or refused. -/
theorem packetSend_orderly
    (env : PacketEnv σ ζ)
    (hLength : 8 ≤ state.outgoingPacket.length) :
    Orderly (packetSend env state) fun _ => True := by
  unfold packetSend
  split
  · exact id
  · refine (compressOutgoing_orderly env hLength).bind ?_
    intro state' hLength'
    have hFront :
        (state'.outgoingPacket.take 8).length = 8 := by
      simpa using hLength'
    rcases appendPacket_eq env _ hFront
        (List.take_append_drop 8 _).symm with
      ⟨pad, randomState, hPad, hAppend⟩
    rw [hAppend]
    refine (cipherEncrypt_orderly env.suite
      state'.sendContext (length_framePlain_mod hPad)).bind ?_
    intro _ _
    trivial

/- A disconnect ends the process in an orderly way. -/
theorem packetDisconnect_not_aborted
    (env : PacketEnv σ ζ)
    (state : PacketState σ ζ)
    (message : String) :
    ¬ (packetDisconnect env state message).IsAborted := by
  have hSend :
      Orderly
        (packetSend env
          (packetPutString (messageBytes message)
            (packetStart sshMsgDisconnect state)))
        fun _ => True := by
    apply packetSend_orderly
    simp [packetPutString, packetStart, bufferPutString,
      bufferPutInt, bufferAppend]
  unfold packetDisconnect
  simp only
  split
  · rename_i halt hError
    rwa [hError] at hSend
  · exact id

end Ssh1

------------------------------------------------------------
-- Reading One Packet
------------------------------------------------------------

namespace Ssh1

variable {σ ζ : Type}

/-
  A complete packet that announces exactly 256 kilobytes is
  at the front of the input, and it is to be decrypted.
-/
def AnnouncesTop (state : PacketState σ ζ) : Prop :=
  state.receiveContext.type ≠ .none ∧
    state.incomingPacket = [] ∧
    get32Bit state.input = 256 * 1024 ∧
    4 + paddedLen (256 * 1024) ≤ state.input.length

instance (state : PacketState σ ζ) :
    Decidable (AnnouncesTop state) := by
  unfold AnnouncesTop
  infer_instance

variable {env : PacketEnv σ ζ}
variable {state : PacketState σ ζ}

/- The context picks the arguments of the detector. -/
theorem detectInContext_eq
    (env : PacketEnv σ ζ)
    {cc : CipherContext σ}
    (hType : cc.type ≠ .none)
    (deattack : DeattackStatic)
    (src : List UInt8) :
    ∃ iv,
      detectInContext env cc deattack src =
        detectAttack env.order src iv env.memory
          deattack := by
  unfold detectInContext
  split
  · exact ⟨_, rfl⟩
  · rename_i hNone
    exact absurd hNone hType
  · exact ⟨_, rfl⟩

/-
  Decrypting whole blocks gives as many bytes, with a valid
  detector and nothing else changed but the context.
-/
theorem packetDecrypt_orderly
    (env : PacketEnv σ ζ)
    {src : List UInt8}
    (hValid : state.deattack.Valid)
    (hBlocks : src.length % 8 = 0)
    (hLength :
      state.receiveContext.type = .none ∨
        src.length ≤ 256 * 1024) :
    Orderly (packetDecrypt env state src) fun result =>
      result.1.length = src.length ∧
        result.2.deattack.Valid ∧
        result.2.input = state.input := by
  have hDetect :
      Orderly
        (detectInContext env state.receiveContext
          state.deattack src)
        fun result => result.2.Valid := by
    by_cases hType : state.receiveContext.type = .none
    · simpa [detectInContext, hType] using hValid
    · rcases detectInContext_eq env hType state.deattack src
        with ⟨iv, hEq⟩
      rcases detectAttack_eq_ok env.order iv env.memory
          hValid
          (hLength.resolve_left hType) hBlocks with
        ⟨verdict, deattack, hOk, hNext, -⟩
      rw [hEq, hOk]
      exact hNext
  unfold packetDecrypt
  rw [assert_of_true hBlocks, FallibleRun.ok_bind]
  refine hDetect.bind ?_
  rintro ⟨verdict, deattack⟩ hNext
  by_cases hHit : verdict = .detected
  · simp only [hHit, if_true]
    exact packetDisconnect_not_aborted _ _ _
  · simp only [hHit, if_false]
    refine (cipherDecrypt_orderly env.suite
      state.receiveContext hBlocks).bind ?_
    rintro ⟨dest, context⟩ hDest
    exact ⟨hDest.1, hNext, rfl⟩

/- One block more than that fails the first assertion. -/
theorem packetDecrypt_assertion
    (env : PacketEnv σ ζ)
    {src : List UInt8}
    (hType : state.receiveContext.type ≠ .none)
    (hBlocks : src.length % 8 = 0)
    (hLength : 256 * 1024 < src.length) :
    packetDecrypt env state src = .error .assertion := by
  rcases detectInContext_eq env hType state.deattack src with
    ⟨iv, hEq⟩
  have hLong :
      ¬ src.length ≤ sshMaxblocks * sshBlocksize :=
    Nat.not_le.mpr hLength
  rw [packetDecrypt, assert_of_true hBlocks, hEq,
    detectAttack, assert_of_false hLong]
  rfl

/- A packet that has been checked changes nothing else. -/
theorem dispatchIncoming_orderly
    (state : PacketState σ ζ) :
    Orderly (dispatchIncoming state) fun result =>
      result.2.deattack = state.deattack ∧
        result.2.input = state.input := by
  unfold dispatchIncoming
  refine (bufferGetChar_orderly _).bind ?_
  rintro ⟨type, incomingPacket⟩ -
  simp only
  split
  · refine (bufferGetString_orderly _).bind ?_
    rintro ⟨cause, _⟩ -
    exact id
  · split
    · refine (bufferGetString_orderly _).bind ?_
      intro _ _
      exact ⟨rfl, rfl⟩
    · exact ⟨rfl, rfl⟩

theorem uncompressIncoming_orderly
    (env : PacketEnv σ ζ)
    (state : PacketState σ ζ) :
    Orderly (uncompressIncoming env state) fun state' =>
      state'.deattack = state.deattack ∧
        state'.input = state.input := by
  unfold uncompressIncoming bufferUncompress
  split
  · split
    · exact ⟨rfl, rfl⟩
    · exact zlibFatal_not_aborted _ _ _
  · exact ⟨rfl, rfl⟩

/-
  A packet whose encrypted part the detector takes is read
  without an abort, and its bytes leave the input.
-/
theorem readPacket_orderly
    (env : PacketEnv σ ζ)
    (state : PacketState σ ζ)
    {len : Nat}
    (hValid : state.deattack.Valid)
    (hLow : 5 ≤ len)
    (hHigh : len ≤ 256 * 1024)
    (hComplete : paddedLen len ≤ state.input.length)
    (hTake :
      state.receiveContext.type = .none ∨
        state.incomingPacket ≠ [] ∨
        len < 256 * 1024) :
    Orderly (readPacket env len state) fun result =>
      result.2.deattack.Valid ∧
        result.2.input =
          state.input.drop (paddedLen len) := by
  have hSrc :
      (state.input.take (paddedLen len)).length =
        paddedLen len := by
    simpa using hComplete
  have hPadded := paddedLen_eq hHigh
  have hBlocks := paddedLen_mod hHigh
  unfold readPacket
  by_cases hJunk : state.incomingPacket.length ≠ 0
  · rw [if_pos hJunk]
    exact packetDisconnect_not_aborted _ _ _
  · rw [if_neg hJunk]
    have hEmpty : state.incomingPacket = [] := by
      simpa using hJunk
    have hLength :
        state.receiveContext.type = .none ∨
          (state.input.take (paddedLen len)).length ≤
            256 * 1024 := by
      rcases hTake with hNone | hNonempty | hLess
      · exact Or.inl hNone
      · exact absurd hEmpty hNonempty
      · right
        omega
    refine (packetDecrypt_orderly env hValid (by omega)
      hLength).bind ?_
    rintro ⟨cp, state'⟩ ⟨hCp, hNext, hInput⟩
    have hCpLen : cp.length = paddedLen len := by
      rw [← hSrc]
      exact hCp
    have hInput' : state'.input = state.input := hInput
    have hDrop : (cp.drop (8 - len % 8)).length = len := by
      rw [List.length_drop]
      omega
    simp only
    rw [hInput', bufferConsume_of_le hComplete,
      FallibleRun.ok_bind,
      bufferConsume_of_le (by omega), FallibleRun.ok_bind,
      assert_of_true hDrop.symm, FallibleRun.ok_bind]
    split
    · exact packetDisconnect_not_aborted _ _ _
    · rw [bufferConsumeEnd_of_le (by omega),
        FallibleRun.ok_bind]
      refine (uncompressIncoming_orderly env _).bind ?_
      rintro state'' ⟨hSame, hRest⟩
      refine (dispatchIncoming_orderly state'').mono ?_
      rintro result ⟨hSame', hRest'⟩
      refine ⟨?_, ?_⟩
      · rw [hSame', hSame]
        exact hNext
      · rw [hRest', hRest]

end Ssh1

------------------------------------------------------------
-- One Turn of the Loop
------------------------------------------------------------

namespace Ssh1

variable {σ ζ : Type}
variable {env : PacketEnv σ ζ}
variable {state : PacketState σ ζ}

/-
  A turn that does not start at such a packet does not abort,
  and one that starts over has taken bytes from the input.
-/
theorem pollTurn_orderly
    (env : PacketEnv σ ζ)
    (hValid : state.deattack.Valid)
    (hTop : ¬ AnnouncesTop state) :
    Orderly (pollTurn env state) fun result =>
      result.2.deattack.Valid ∧
        (result.1 = .restart →
          result.2.input.length < state.input.length) := by
  unfold pollTurn
  split
  · exact ⟨hValid, by simp⟩
  · rename_i hHeader
    simp only
    split
    · exact packetDisconnect_not_aborted _ _ _
    · rename_i hRange
      split
      · exact ⟨hValid, by simp⟩
      · rename_i hComplete
        rw [bufferConsume_of_le (by omega),
          FallibleRun.ok_bind]
        have hHigh : get32Bit state.input ≤ 256 * 1024 := by
          omega
        have hTake :
            state.receiveContext.type = .none ∨
              state.incomingPacket ≠ [] ∨
              get32Bit state.input < 256 * 1024 := by
          by_contra hAll
          push Not at hAll
          have hExact :
              get32Bit state.input = 256 * 1024 := by
            omega
          refine hTop ⟨hAll.1, hAll.2.1, hExact, ?_⟩
          rw [← hExact]
          omega
        have hRoom :
            paddedLen (get32Bit state.input) ≤
              (state.input.drop 4).length := by
          rw [List.length_drop]
          omega
        refine (readPacket_orderly env
          { state with input := state.input.drop 4 }
          hValid (by omega) hHigh hRoom hTake).mono ?_
        rintro result ⟨hNext, hInput⟩
        refine ⟨hNext, fun _ => ?_⟩
        rw [hInput]
        simp only [List.length_drop]
        have hPadded := paddedLen_eq hHigh
        omega

/- A turn that starts at such a packet aborts. -/
theorem pollTurn_assertion
    (env : PacketEnv σ ζ)
    (hTop : AnnouncesTop state) :
    pollTurn env state = .error .assertion := by
  rcases hTop with ⟨hType, hEmpty, hLen, hComplete⟩
  have hPadded : paddedLen (256 * 1024) = 262152 := by
    rw [paddedLen_eq (by omega)]
  have hHeader : ¬ state.input.length < 4 + 8 := by omega
  have hRange :
      ¬ (get32Bit state.input < 1 + 2 + 2 ∨
        get32Bit state.input > 256 * 1024) := by
    omega
  have hWhole :
      ¬ state.input.length <
        4 + paddedLen (get32Bit state.input) := by
    rw [hLen]
    omega
  have hSrc :
      ((state.input.drop 4).take
        (paddedLen (256 * 1024))).length = 262152 := by
    simp only [List.length_take, List.length_drop]
    omega
  have hDecrypt :
      packetDecrypt env
          { state with input := state.input.drop 4 }
          ((state.input.drop 4).take
            (paddedLen (256 * 1024))) =
        .error .assertion := by
    apply packetDecrypt_assertion
    · exact hType
    · rw [hSrc]
    · rw [hSrc]
      omega
  unfold pollTurn
  rw [if_neg hHeader]
  simp only
  rw [if_neg hRange, if_neg hWhole,
    bufferConsume_of_le (by omega), FallibleRun.ok_bind, hLen,
    readPacket, if_neg (by simp [hEmpty])]
  simp only
  rw [hDecrypt]
  rfl

end Ssh1

------------------------------------------------------------
-- Polling
------------------------------------------------------------

namespace Ssh1

variable {σ ζ : Type}

/- Turns of the loop that each skip a packet. -/
inductive Restarts
    (env : PacketEnv σ ζ) :
    PacketState σ ζ → PacketState σ ζ → Prop where
| refl (state : PacketState σ ζ) :
    Restarts env state state
| step
    {state mid state' : PacketState σ ζ}
    (hTurn : pollTurn env state = .ok (.restart, mid))
    (hRest : Restarts env mid state') :
    Restarts env state state'

/-
  No turn of the poll starts at a complete packet that
  announces exactly 256 kilobytes and is to be decrypted.
-/
def NoTopAhead
    (env : PacketEnv σ ζ)
    (state : PacketState σ ζ) : Prop :=
  ∀ state', Restarts env state state' →
    ¬ AnnouncesTop state'

variable {env : PacketEnv σ ζ}
variable {state : PacketState σ ζ}

theorem pollTurns_orderly
    {fuel : Nat}
    (hFuel : state.input.length < fuel)
    (hValid : state.deattack.Valid)
    (hAhead : NoTopAhead env state) :
    Orderly (pollTurns env fuel state) fun result =>
      result.2.deattack.Valid := by
  induction fuel generalizing state with
  | zero => omega
  | succ fuel ih =>
      unfold pollTurns
      have hTurn :=
        pollTurn_orderly env hValid (hAhead _ (.refl _))
      cases hResult : pollTurn env state with
      | error halt =>
          rw [hResult] at hTurn
          exact hTurn
      | ok result =>
          rcases result with ⟨turn, state'⟩
          rw [hResult] at hTurn
          rcases hTurn with ⟨hNext, hLess⟩
          rw [FallibleRun.ok_bind]
          cases turn with
          | returned type => exact hNext
          | restart =>
              have hShorter := hLess rfl
              simp only at hShorter
              exact ih (by omega) hNext
                fun state'' hRest =>
                  hAhead state'' (.step hResult hRest)

theorem pollTurns_assertion
    (env : PacketEnv σ ζ)
    {state' : PacketState σ ζ}
    (hRestarts : Restarts env state state')
    (hTop : AnnouncesTop state')
    {fuel : Nat}
    (hFuel : state.input.length < fuel)
    (hValid : state.deattack.Valid) :
    pollTurns env fuel state = .error .assertion := by
  induction hRestarts generalizing fuel with
  | refl state =>
      cases fuel with
      | zero => omega
      | succ fuel =>
          rw [pollTurns, pollTurn_assertion env hTop]
          rfl
  | @step state mid state' hTurn hRest ih =>
      cases fuel with
      | zero => omega
      | succ fuel =>
          -- A turn that starts over did not abort.
          have hNotTop : ¬ AnnouncesTop state := by
            intro hHere
            rw [pollTurn_assertion env hHere] at hTurn
            cases hTurn
          have hSpec := pollTurn_orderly env hValid hNotTop
          rw [hTurn] at hSpec
          have hShorter := hSpec.2 rfl
          simp only at hShorter
          rw [pollTurns, hTurn, FallibleRun.ok_bind]
          exact ih hTop (by omega) hSpec.1

/-
  A poll of a state with a valid detector aborts exactly when
  one of its turns starts at such a packet.
-/
theorem packetReadPoll_not_aborted_iff
    (hValid : state.deattack.Valid) :
    NoTopAhead env state ↔
      ∀ halt, packetReadPoll env state = .error halt →
        ¬ halt.IsAborted := by
  constructor
  · intro hAhead
    exact (FallibleRun.ensures_iff.mp
      (pollTurns_orderly (Nat.lt_succ_self _) hValid
        hAhead)).2
  · intro hSafe state' hRestarts hTop
    exact hSafe .assertion
      (pollTurns_assertion env hRestarts hTop
        (Nat.lt_succ_self _) hValid) trivial

end Ssh1

------------------------------------------------------------
-- Runs of a Reader
------------------------------------------------------------

namespace Ssh1

variable {σ ζ : Type}

/- What happens to the receiving side of the packet layer. -/
inductive ReaderEvent (σ : Type) where
  -- bytes from the peer
  | incoming (buf : List UInt8)
  | poll
  -- the program takes bytes out of the incoming packet
  | get (len : Nat)
  -- encryption starts with a cipher and its keys
  | encryption
      (type : CipherType)
      (receive send : CipherContext σ)

/- Takes bytes out of the incoming packet. -/
def packetGet
    (len : Nat)
    (state : PacketState σ ζ) :
    Outcome (PacketState σ ζ) := do
  let (_, incomingPacket) ←
    bufferGet state.incomingPacket len
  return { state with incomingPacket }

/- One call into packet.c. -/
def ReaderEvent.step
    (env : PacketEnv σ ζ)
    (state : PacketState σ ζ) :
    ReaderEvent σ → Outcome (PacketState σ ζ)
| incoming buf => .ok (packetProcessIncoming buf state)
| poll => do
    let (_, state) ← packetReadPoll env state
    return state
| get len => packetGet len state
| encryption type receive send =>
    .ok { state with
      cipherType := type
      receiveContext := receive
      sendContext := send }

/- The polls of a run meet no packet of the greatest length. -/
def pollGuard
    (env : PacketEnv σ ζ)
    (state : PacketState σ ζ) :
    ReaderEvent σ → Prop
| .poll => NoTopAhead env state
| _ => True

/- A step from a valid detector, by whether it is guarded. -/
theorem ReaderEvent.step_orderly
    (env : PacketEnv σ ζ)
    (state : PacketState σ ζ)
    (event : ReaderEvent σ)
    (hValid : state.deattack.Valid)
    (hGuard : pollGuard env state event) :
    Orderly (event.step env state) fun state' =>
      state'.deattack.Valid := by
  cases event with
  | incoming buf => exact hValid
  | poll =>
      refine (pollTurns_orderly (Nat.lt_succ_self _) hValid
        hGuard).bind ?_
      intro result hNext
      exact hNext
  | get len =>
      refine (bufferGet_orderly _ _).bind ?_
      intro result _
      exact hValid
  | encryption type receive send => exact hValid

/- The guard is exactly what keeps a step from aborting. -/
theorem pollGuard_iff
    (env : PacketEnv σ ζ)
    (state : PacketState σ ζ)
    (event : ReaderEvent σ)
    (hValid : state.deattack.Valid) :
    pollGuard env state event ↔
      ∀ halt, event.step env state = .error halt →
        ¬ halt.IsAborted := by
  constructor
  · intro hGuard
    exact (FallibleRun.ensures_iff.mp
      (event.step_orderly env state hValid hGuard)).2
  · intro hSafe
    cases event with
    | poll =>
        apply (packetReadPoll_not_aborted_iff hValid).mpr
        intro halt hPoll
        apply hSafe halt
        simp [ReaderEvent.step, hPoll]
    | _ => trivial

/-
  Whatever the peer sends and in whatever chunks, a run of
  the reader avoids an abort exactly when no turn of its
  polls starts at a complete packet of the greatest length.
-/
theorem run_not_aborted_iff
    (env : PacketEnv σ ζ)
    (state : PacketState σ ζ)
    (hFresh : state.deattack = .initial)
    (events : List (ReaderEvent σ)) :
    (∀ halt,
        FallibleRun.run (ReaderEvent.step env) state events =
          .error halt →
        ¬ halt.IsAborted) ↔
      FallibleRun.Meets (ReaderEvent.step env)
        (pollGuard env) state events := by
  have hValid : state.deattack.Valid := by
    rw [hFresh]
    exact DeattackStatic.initial_valid
  refine FallibleRun.run_forall_iff_meets
    ?_ (pollGuard_iff env) events hValid
  intro s e s' hInv hGuard hStep
  have hSpec := e.step_orderly env s hInv hGuard
  rwa [hStep] at hSpec

theorem run_not_aborted_iff_two_events :
    (∀ halt,
        FallibleRun.run (ReaderEvent.step memcpyEnv)
            (packetSetConnection () () fun _ => 0)
            [.incoming [0, 0, 0, 5, 1], .poll] =
          .error halt →
        ¬ halt.IsAborted) ↔
      FallibleRun.Meets (ReaderEvent.step memcpyEnv)
        (pollGuard memcpyEnv)
        (packetSetConnection () () fun _ => 0)
        [.incoming [0, 0, 0, 5, 1], .poll] :=
  run_not_aborted_iff memcpyEnv
    (packetSetConnection () () fun _ => 0) rfl
    [.incoming [0, 0, 0, 5, 1], .poll]

/- A complete packet of the greatest length, under 3DES. -/
theorem run_assertion_of_top
    {buf : List UInt8}
    (hLen : get32Bit buf = 256 * 1024)
    (hLength : 4 + paddedLen (256 * 1024) ≤ buf.length) :
    FallibleRun.run (ReaderEvent.step memcpyEnv)
        (packetSetConnection () () fun _ => 0)
        [.encryption .tripleDes ⟨.tripleDes, ()⟩
            ⟨.tripleDes, ()⟩,
          .incoming buf,
          .poll] =
      .error .assertion := by
  have hTop :
      AnnouncesTop
        (packetProcessIncoming buf
          { (packetSetConnection () () fun _ => 0 :
              PacketState Unit Unit) with
            cipherType := .tripleDes
            receiveContext := ⟨.tripleDes, ()⟩
            sendContext := ⟨.tripleDes, ()⟩ }) :=
    ⟨by simp [packetProcessIncoming], rfl, hLen, hLength⟩
  have hPoll :=
    pollTurns_assertion memcpyEnv (.refl _) hTop
      (Nat.lt_succ_self _) DeattackStatic.initial_valid
  simp only [FallibleRun.run, ReaderEvent.step,
    FallibleRun.ok_bind, packetReadPoll]
  rw [hPoll]
  rfl

theorem run_aborts_of_top_packet :
    FallibleRun.run (ReaderEvent.step memcpyEnv)
        (packetSetConnection () () fun _ => 0)
        [.encryption .tripleDes ⟨.tripleDes, ()⟩
            ⟨.tripleDes, ()⟩,
          .incoming
            (put32Bit (256 * 1024) ++
              List.replicate (256 * 1024 + 8) 0),
          .poll] =
      .error .assertion ∧
    Halt.assertion.IsAborted := by
  refine ⟨run_assertion_of_top ?_ ?_, trivial⟩
  · exact get32Bit_put32Bit_append (by omega) _
  · rw [paddedLen_eq (by omega), List.length_append,
      length_put32Bit, List.length_replicate]

end Ssh1
