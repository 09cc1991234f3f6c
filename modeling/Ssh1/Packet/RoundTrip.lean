import Ssh1.Packet.Layer

/-
  What one endpoint sends is what the other one reads.

  The bytes that are under way from one endpoint to the other
  are described by the packets that they will become. Sending
  appends a packet to this description, and reading takes the
  first one away as soon as all of its bytes have come in.

  Main results:
    * `sendPacket_eq`
    * `pollTurn_traffic`
    * `pollTurns_delivers`
    * `roundTrip`
-/

------------------------------------------------------------
-- Packets
------------------------------------------------------------

namespace Ssh1

/- What a program puts into the packet it constructs. -/
inductive PacketPut where
  | char (value : UInt8)
  | int (value : Nat)
  | string (buf : List UInt8)
  | mpInt (value : Nat)
  deriving DecidableEq, Repr

/- A packet by the calls that construct it. -/
structure Packet where
  type : UInt8
  puts : List PacketPut
  deriving DecidableEq, Repr

/- The bytes that a call appends. -/
def PacketPut.bytes : PacketPut → List UInt8
| char value => [value]
| int value => put32Bit value
| string buf => put32Bit buf.length ++ buf
| mpInt value =>
    put16Bit (mpzSizeinbase2 value) ++
      hexToBinary (mpzGetStr16 value)

/- What the `packet_put` calls put into the packet. -/
def Packet.payload (packet : Packet) : List UInt8 :=
  packet.puts.flatMap PacketPut.bytes

/- The reader skips the packet itself. -/
def Packet.IsSkipped (packet : Packet) : Prop :=
  packet.type = sshMsgIgnore ∨ packet.type = sshMsgDebug

instance (packet : Packet) : Decidable packet.IsSkipped := by
  unfold Packet.IsSkipped
  infer_instance

/-
  A packet that the reader understands: it has a type, ends
  no connection, and carries one string where it is skipped.
-/
def Packet.Proper (packet : Packet) : Prop :=
  packet.type ≠ sshMsgNone ∧
    packet.type ≠ sshMsgDisconnect ∧
    (packet.IsSkipped → ∃ buf, packet.puts = [.string buf])

/- The packet passes the size check of the sender. -/
def Packet.Fits
    (packet : Packet)
    (maxPacketSize : Nat) : Prop :=
  9 + packet.payload.length < maxPacketSize - 30

/- What the reader returns of the packets, in order. -/
def visible
    (packets : List Packet) : List (UInt8 × List UInt8) :=
  (packets.filter fun packet => ¬ packet.IsSkipped).map
    fun packet => (packet.type, packet.payload)

theorem visible_append
    (xs ys : List Packet) :
    visible (xs ++ ys) = visible xs ++ visible ys := by
  simp [visible]

theorem visible_of_skipped
    {packets : List Packet}
    (hSkipped : ∀ packet ∈ packets, packet.IsSkipped) :
    visible packets = [] := by
  rw [visible, List.filter_eq_nil_iff.mpr, List.map_nil]
  intro packet hMem
  simpa using hSkipped packet hMem

end Ssh1

------------------------------------------------------------
-- Sending Packets
------------------------------------------------------------

namespace Ssh1

variable {σ ζ : Type}

/- One of the functions that append to the packet. -/
def PacketPut.apply
    (state : PacketState σ ζ) :
    PacketPut → Outcome (PacketState σ ζ)
| char value => .ok (packetPutChar value state)
| int value => .ok (packetPutInt value state)
| string buf => .ok (packetPutString buf state)
| mpInt value => packetPutMpInt value state

/- Constructs a packet and sends it. -/
def sendPacket
    (env : PacketEnv σ ζ)
    (state : PacketState σ ζ)
    (packet : Packet) : Outcome (PacketState σ ζ) := do
  let state ←
    FallibleRun.run PacketPut.apply
      (packetStart packet.type state) packet.puts
  packetSend env state

theorem PacketPut.apply_eq
    (state : PacketState σ ζ)
    (put : PacketPut) :
    put.apply state =
      .ok { state with
        outgoingPacket :=
          state.outgoingPacket ++ put.bytes } := by
  cases put with
  | char value => rfl
  | int value => rfl
  | string buf =>
      simp [PacketPut.apply, packetPutString,
        bufferPutString, bufferPutInt, bufferAppend,
        PacketPut.bytes]
  | mpInt value =>
      simp [PacketPut.apply, packetPutMpInt,
        bufferPutMpInt_ok, PacketPut.bytes]

/- The packet under construction grows by the payload. -/
theorem run_apply_eq
    (state : PacketState σ ζ)
    (puts : List PacketPut) :
    FallibleRun.run PacketPut.apply state puts =
      .ok { state with
        outgoingPacket :=
          state.outgoingPacket ++
            puts.flatMap PacketPut.bytes } := by
  induction puts generalizing state with
  | nil => simp
  | cons put puts ih =>
      rw [FallibleRun.run_cons, PacketPut.apply_eq,
        FallibleRun.ok_bind, ih]
      simp

/- A packet that fits goes out as it is. -/
theorem packetSend_eq_appendPacket
    (env : PacketEnv σ ζ)
    {state : PacketState σ ζ}
    (hPlain : state.packetCompression = false)
    (hFits :
      state.outgoingPacket.length <
        state.maxPacketSize - 30) :
    packetSend env state = appendPacket env state := by
  rw [packetSend, if_neg (Nat.not_le.mpr hFits),
    compressOutgoing, if_neg (by simp [hPlain])]
  rfl

/-
  Sending a packet appends its length word and the encrypted
  frame to the output.
-/
theorem sendPacket_eq
    (env : PacketEnv σ ζ)
    {state : PacketState σ ζ}
    {packet : Packet}
    (hPlain : state.packetCompression = false)
    (hFits : packet.Fits state.maxPacketSize) :
    ∃ pad randomState,
      pad.length = 8 - (packet.payload.length + 5) % 8 ∧
        sendPacket env state packet =
          (cipherEncrypt env.suite state.sendContext
              (framePlain pad
                (packet.type :: packet.payload)) >>=
            fun sent =>
              .ok { state with
                output :=
                  state.output ++
                    put32Bit (packet.payload.length + 5) ++
                    sent.1
                sendContext := sent.2
                randomState
                outgoingPacket := [] }) := by
  have hStart :
      (packetStart packet.type state).outgoingPacket ++
          packet.payload =
        List.replicate 8 0 ++
          (packet.type :: packet.payload) := by
    simp [packetStart]
  rcases appendPacket_eq env
      { state with
        outgoingPacket :=
          List.replicate 8 0 ++
            (packet.type :: packet.payload) }
      (List.length_replicate) rfl with
    ⟨pad, randomState, hPad, hAppend⟩
  refine ⟨pad, randomState, hPad, ?_⟩
  rw [sendPacket, run_apply_eq, FallibleRun.ok_bind,
    show packet.puts.flatMap PacketPut.bytes =
      packet.payload from rfl, hStart]
  refine Eq.trans ?_ hAppend
  apply packetSend_eq_appendPacket
  · exact hPlain
  · unfold Packet.Fits at hFits
    simp only [packetStart, List.length_append,
      List.length_replicate, List.length_cons]
    omega

end Ssh1

------------------------------------------------------------
-- Traffic
------------------------------------------------------------

namespace Ssh1

variable {σ ζ : Type}

/- The encrypted parts that the packets add to the output. -/
def encryptedParts
    (env : PacketEnv σ ζ) :
    PacketState σ ζ → List Packet → List (List UInt8)
| _, [] => []
| state, packet :: packets =>
    match sendPacket env state packet with
    | .error _ => []
    | .ok state' =>
        state'.output.drop (state.output.length + 4) ::
          encryptedParts env state' packets

/-
  The attack detector of the receiver answers OK on each of
  the encrypted parts, one after the other.
-/
def AnswersOk
    (env : PacketEnv σ ζ) :
    CipherContext σ → DeattackStatic →
      List (List UInt8) → Prop
| _, _, [] => True
| cc, deattack, cp :: cps =>
    ∃ deattack',
      detectInContext env cc deattack cp =
          .ok (.ok, deattack') ∧
        ∀ dest cc',
          cipherDecrypt env.suite cc cp = .ok (dest, cc') →
          AnswersOk env cc' deattack' cps

/-
  The bytes under way to a receiver with the given context
  and detector, and the packets that they will become.
-/
inductive Traffic
    (env : PacketEnv σ ζ) :
    CipherContext σ → DeattackStatic →
      List Packet → List UInt8 → Prop where
| nil
    (cc : CipherContext σ)
    (deattack : DeattackStatic) :
    Traffic env cc deattack [] []
| cons
    {cc cc' : CipherContext σ}
    {deattack deattack' : DeattackStatic}
    {packet : Packet}
    {packets : List Packet}
    {pad cp bytes : List UInt8}
    (hProper : packet.Proper)
    (hSize : packet.payload.length + 5 ≤ 256 * 1024)
    (hPad :
      pad.length = 8 - (packet.payload.length + 5) % 8)
    (hLength :
      cp.length = paddedLen (packet.payload.length + 5))
    (hDetect :
      detectInContext env cc deattack cp =
        .ok (.ok, deattack'))
    (hDecrypt :
      cipherDecrypt env.suite cc cp =
        .ok
          (framePlain pad (packet.type :: packet.payload),
            cc'))
    (hRest : Traffic env cc' deattack' packets bytes) :
    Traffic env cc deattack (packet :: packets)
      (put32Bit (packet.payload.length + 5) ++ cp ++ bytes)

/-
  The sender refuses none of the packets, and its output is
  their traffic.
-/
theorem run_sendPacket_traffic
    (env : PacketEnv σ ζ)
    {state : PacketState σ ζ}
    {receive : CipherContext σ}
    {deattack : DeattackStatic}
    {packets : List Packet}
    (hPlain : state.packetCompression = false)
    (hSize : state.maxPacketSize ≤ 256 * 1024)
    (hProper : ∀ packet ∈ packets, packet.Proper)
    (hFits :
      ∀ packet ∈ packets, packet.Fits state.maxPacketSize)
    (hInverts :
      InvertsCalls env.suite receive state.sendContext)
    (hOk :
      AnswersOk env receive deattack
        (encryptedParts env state packets)) :
    ∃ state' bytes,
      FallibleRun.run (sendPacket env) state packets =
          .ok state' ∧
        state'.output = state.output ++ bytes ∧
        Traffic env receive deattack packets bytes := by
  induction packets generalizing state receive deattack with
  | nil => exact ⟨state, [], rfl, by simp, .nil _ _⟩
  | cons packet packets ih =>
      have hFit := hFits packet List.mem_cons_self
      rcases sendPacket_eq env hPlain hFit with
        ⟨pad, randomState, hPad, hSend⟩
      have hBlocks :
          (framePlain pad
            (packet.type :: packet.payload)).length % 8 =
            0 :=
        length_framePlain_mod hPad
      rcases hInverts.step hBlocks with
        ⟨cp, send', receive', hEncrypt, hLength, hDecrypt,
          hInverts'⟩
      rw [hEncrypt, FallibleRun.ok_bind] at hSend
      -- The part that this packet adds is `cp`.
      simp only [encryptedParts, hSend] at hOk
      rw [List.append_assoc, List.drop_append] at hOk
      have hPart :
          (put32Bit (packet.payload.length + 5) ++ cp).drop
            4 = cp := by
        rw [List.drop_append_of_le_length (by simp)]
        simp
      simp only [List.drop_eq_nil_of_le
        (Nat.le_add_right _ 4), List.nil_append,
        Nat.add_sub_cancel_left, hPart] at hOk
      rcases hOk with ⟨deattack', hDetect, hNext⟩
      rcases @ih
          { state with
            output :=
              state.output ++
                put32Bit (packet.payload.length + 5) ++ cp
            sendContext := send'
            randomState
            outgoingPacket := [] }
          _ _ hPlain hSize
          (fun p hp => hProper p (List.mem_cons_of_mem _ hp))
          (fun p hp => hFits p (List.mem_cons_of_mem _ hp))
          hInverts'
          (by
            rw [List.append_assoc]
            exact hNext _ _ hDecrypt) with
        ⟨state', bytes, hRun, hOutput, hTraffic⟩
      have hLen : packet.payload.length + 5 ≤ 256 * 1024 := by
        unfold Packet.Fits at hFit
        omega
      refine ⟨state',
        put32Bit (packet.payload.length + 5) ++ cp ++ bytes,
        ?_, ?_, ?_⟩
      · rw [FallibleRun.run_cons, hSend,
          FallibleRun.ok_bind]
        exact hRun
      · rw [hOutput]
        simp
      · refine .cons
          (hProper packet List.mem_cons_self) hLen hPad ?_
          hDetect hDecrypt hTraffic
        rw [hLength, length_framePlain, hPad,
          paddedLen_eq hLen, List.length_cons]
        omega

end Ssh1

------------------------------------------------------------
-- Reading Packets
------------------------------------------------------------

namespace Ssh1

variable {σ ζ : Type}
variable {env : PacketEnv σ ζ}
variable {state : PacketState σ ζ}
variable {packet : Packet}

/- A decrypted packet is skipped or returned by its type. -/
theorem dispatchIncoming_packet
    (hProper : packet.Proper)
    (hSize : packet.payload.length + 5 ≤ 256 * 1024)
    (hIncoming :
      state.incomingPacket = packet.type :: packet.payload) :
    dispatchIncoming state =
      if packet.IsSkipped then
        .ok (.restart, { state with incomingPacket := [] })
      else
        .ok (.returned packet.type,
          { state with incomingPacket := packet.payload }) := by
  rcases hProper with ⟨-, hStays, hString⟩
  have hChar :
      bufferGetChar (packet.type :: packet.payload) =
        .ok (packet.type, packet.payload) := by
    simp [bufferGetChar, bufferGet]
  rw [dispatchIncoming, hIncoming, hChar,
    FallibleRun.ok_bind]
  simp only
  rw [if_neg hStays]
  by_cases hSkip : packet.IsSkipped
  · rcases hString hSkip with ⟨buf, hPuts⟩
    have hPayload :
        packet.payload = bufferPutString [] buf ++ [] := by
      simp [Packet.payload, hPuts, PacketPut.bytes,
        bufferPutString, bufferPutInt, bufferAppend]
    have hShort : buf.length ≤ maxStringLength := by
      rw [hPayload] at hSize
      simp only [bufferPutString, bufferPutInt, bufferAppend,
        List.nil_append, List.append_nil, List.length_append,
        length_put32Bit] at hSize
      unfold maxStringLength
      omega
    rw [if_pos hSkip, hPayload,
      bufferGetString_bufferPutString_append hShort []]
    rw [if_pos (show _ ∨ _ from hSkip)]
    rfl
  · rw [if_neg hSkip, if_neg (show ¬ (_ ∨ _) from hSkip)]
    rfl

/- The check bytes of a frame are those of its front part. -/
theorem framePlain_checked
    (pad body : List UInt8) :
    let cp := framePlain pad body
    cp.take (cp.length - 4) = pad ++ body ∧
      cp.drop pad.length =
        body ++ put32Bit (crc32 (pad ++ body)).toNat := by
  have hLength :
      (framePlain pad body).length - 4 =
        (pad ++ body).length := by
    rw [length_framePlain, List.length_append,
      Nat.add_sub_cancel]
  refine ⟨?_, ?_⟩
  · rw [hLength, framePlain, List.take_left']
    rfl
  · rw [framePlain, List.append_assoc, List.drop_left']
    rfl

/-
  The complete encrypted part of a packet gives the packet to
  the dispatch, and it leaves the input.
-/
theorem readPacket_frame
    (env : PacketEnv σ ζ)
    (state : PacketState σ ζ)
    (body : List UInt8)
    {cc' : CipherContext σ}
    {deattack' : DeattackStatic}
    {pad cp rest : List UInt8}
    (hPlain : state.packetCompression = false)
    (hEmpty : state.incomingPacket = [])
    (hSize : body.length + 4 ≤ 256 * 1024)
    (hPad : pad.length = 8 - (body.length + 4) % 8)
    (hLength : cp.length = paddedLen (body.length + 4))
    (hInput : state.input = cp ++ rest)
    (hDetect :
      detectInContext env state.receiveContext
        state.deattack cp = .ok (.ok, deattack'))
    (hDecrypt :
      cipherDecrypt env.suite state.receiveContext cp =
        .ok (framePlain pad body, cc')) :
    readPacket env (body.length + 4) state =
      dispatchIncoming
        { state with
          input := rest
          receiveContext := cc'
          deattack := deattack'
          incomingPacket := body } := by
  have hBlocks : cp.length % 8 = 0 := by
    rw [hLength]
    exact paddedLen_mod hSize
  have hTake : state.input.take cp.length = cp := by
    simp [hInput]
  have hDrop :
      bufferConsume state.input cp.length = .ok rest := by
    rw [bufferConsume_of_le (by simp [hInput])]
    simp [hInput]
  have hPacket :
      packetDecrypt env state cp =
        .ok (framePlain pad body,
          { state with
            deattack := deattack'
            receiveContext := cc' }) := by
    rw [packetDecrypt, assert_of_true hBlocks,
      FallibleRun.ok_bind, hDetect, FallibleRun.ok_bind]
    simp [hDecrypt]
  rcases framePlain_checked pad body with
    ⟨hFront, hBack⟩
  have hConsume :
      bufferConsume (framePlain pad body)
          (8 - (body.length + 4) % 8) =
        .ok (body ++
          put32Bit (crc32 (pad ++ body)).toNat) := by
    rw [← hPad, bufferConsume_of_le (by
      rw [length_framePlain]
      omega), hBack]
  have hStored :
      get32Bit
          ((body ++ put32Bit (crc32 (pad ++ body)).toNat).drop
            (body.length + 4 - 4)) =
        (crc32 (pad ++ body)).toNat := by
    rw [Nat.add_sub_cancel, List.drop_left']
    · have hWord := (crc32 (pad ++ body)).toNat_lt
      have hRead := get32Bit_put32Bit_append hWord []
      rwa [List.append_nil] at hRead
    · rfl
  have hBody :
      bufferConsumeEnd
          (body ++ put32Bit (crc32 (pad ++ body)).toNat) 4 =
        .ok body := by
    rw [bufferConsumeEnd_of_le (by simp)]
    simp
  rw [readPacket, if_neg (by simp [hEmpty]), ← hLength, hTake,
    hPacket, FallibleRun.ok_bind]
  simp only
  rw [hDrop, FallibleRun.ok_bind, hConsume,
    FallibleRun.ok_bind, assert_of_true (by simp),
    FallibleRun.ok_bind, hStored, hFront, if_neg (by simp),
    hBody, FallibleRun.ok_bind]
  simp [uncompressIncoming, hPlain]

end Ssh1

------------------------------------------------------------
-- Turns of the Reader
------------------------------------------------------------

namespace Ssh1

variable {σ ζ : Type}

/-
  A reader between two polls: what has come in and what is
  still under way make up the traffic of the packets.
-/
structure Awaits
    (env : PacketEnv σ ζ)
    (state : PacketState σ ζ)
    (pending : List UInt8)
    (packets : List Packet) : Prop where
  plain : state.packetCompression = false
  empty : state.incomingPacket = []
  traffic :
    Traffic env state.receiveContext state.deattack packets
      (state.input ++ pending)

variable {env : PacketEnv σ ζ}
variable {state : PacketState σ ζ}
variable {pending : List UInt8}
variable {packets : List Packet}

/- The length word can be read once four bytes are there. -/
theorem get32Bit_of_append_eq
    {input pending rest : List UInt8}
    {value : Nat}
    (hValue : value < 2 ^ 32)
    (hBytes : put32Bit value ++ rest = input ++ pending)
    (hLength : 4 ≤ input.length) :
    get32Bit input = value := by
  have hTake : input.take 4 = put32Bit value := by
    have hSame := congrArg (List.take 4) hBytes
    rw [List.take_append_of_le_length hLength] at hSame
    rw [← hSame, List.take_left']
    rfl
  have hRead := get32Bit_put32Bit_append hValue []
  rw [List.append_nil] at hRead
  rw [get32Bit, hTake]
  rw [get32Bit, List.take_of_length_le (by simp)] at hRead
  exact hRead

/-
  A turn of the poll waits for more bytes, or it takes the
  first packet and skips or returns it.
-/
theorem pollTurn_traffic
    (hAwaits : Awaits env state pending packets) :
    (pollTurn env state =
        .ok (.returned sshMsgNone, state) ∧
      (pending = [] → packets = [])) ∨
    ∃ packet rest state',
      packets = packet :: rest ∧ packet.Proper ∧
        Awaits env state' pending rest ∧
        state'.input.length < state.input.length ∧
        pollTurn env state =
          .ok
            (if packet.IsSkipped then
              (.restart, state')
            else
              (.returned packet.type,
                { state' with
                  incomingPacket := packet.payload })) := by
  rcases hAwaits with ⟨hPlain, hEmpty, hTraffic⟩
  generalize hBytes : state.input ++ pending = bytes at hTraffic
  generalize hCc : state.receiveContext = cc at hTraffic
  generalize hStatic : state.deattack = deattack at hTraffic
  cases hTraffic with
  | nil =>
      left
      have hInput : state.input = [] :=
        (List.append_eq_nil_iff.mp hBytes).1
      refine ⟨?_, fun _ => rfl⟩
      simp [pollTurn, hInput]
  | @cons _ cc' _ deattack' packet rest pad cp after hProper
      hSize hPad hLength hDetect hDecrypt hRest =>
      subst hCc hStatic
      have hWord : packet.payload.length + 5 < 2 ^ 32 := by
        omega
      have hPadded := paddedLen_eq hSize
      have hShape :
          put32Bit (packet.payload.length + 5) ++
              (cp ++ after) =
            state.input ++ pending := by
        rw [hBytes, List.append_assoc]
      have hTotal := congrArg List.length hShape
      simp only [List.length_append,
        length_put32Bit] at hTotal
      by_cases hComplete :
          state.input.length < 4 + cp.length
      · left
        refine ⟨?_, ?_⟩
        · by_cases hHeader : state.input.length < 4 + 8
          · rw [pollTurn, if_pos hHeader]
            rfl
          · have hLen :=
              get32Bit_of_append_eq hWord hShape (by omega)
            rw [pollTurn, if_neg hHeader]
            simp only
            rw [hLen, if_neg (by omega), if_pos (by omega)]
            rfl
        · intro hNone
          rw [hNone, List.length_nil] at hTotal
          omega
      · right
        have hLen :=
          get32Bit_of_append_eq hWord hShape (by omega)
        have hInput :
            state.input =
              put32Bit (packet.payload.length + 5) ++ (cp ++
                state.input.drop (4 + cp.length)) := by
          have hTake :=
            congrArg (List.take (4 + cp.length)) hShape
          rw [List.take_append_of_le_length
            (Nat.not_lt.mp hComplete), ← List.append_assoc,
            List.take_left' (by simp)] at hTake
          rw [← List.append_assoc, hTake,
            List.take_append_drop]
        have hAfter :
            after =
              state.input.drop (4 + cp.length) ++ pending := by
          rw [hInput, List.append_assoc,
            List.append_assoc] at hShape
          have hTail := List.append_cancel_left hShape
          exact List.append_cancel_left hTail
        refine ⟨packet, rest,
          { state with
            input := state.input.drop (4 + cp.length)
            receiveContext := cc'
            deattack := deattack' },
          rfl, hProper, ⟨hPlain, hEmpty, ?_⟩, ?_, ?_⟩
        · rw [← hAfter]
          exact hRest
        · simp only [List.length_drop]
          omega
        · have hConsume :
              bufferConsume state.input 4 =
                .ok (cp ++
                  state.input.drop (4 + cp.length)) := by
            rw [bufferConsume_of_le (by omega)]
            congr 1
            rw [hInput, List.drop_left' (by simp), ← hInput]
          have hFrame :=
            readPacket_frame env
              { state with
                input :=
                  cp ++ state.input.drop (4 + cp.length) }
              (packet.type :: packet.payload) hPlain hEmpty
              hSize hPad hLength rfl hDetect hDecrypt
          rw [pollTurn, if_neg (by omega)]
          simp only
          rw [hLen, if_neg (by omega), if_neg (by omega),
            hConsume, FallibleRun.ok_bind]
          refine hFrame.trans ?_
          rw [dispatchIncoming_packet hProper hSize rfl]
          by_cases hSkip : packet.IsSkipped
          · rw [if_pos hSkip, if_pos hSkip, hEmpty]
          · rw [if_neg hSkip, if_neg hSkip]

end Ssh1

------------------------------------------------------------
-- Polls of the Reader
------------------------------------------------------------

namespace Ssh1

variable {σ ζ : Type}
variable {env : PacketEnv σ ζ}
variable {state : PacketState σ ζ}
variable {pending : List UInt8}
variable {packets : List Packet}

/-
  A poll passes over skipped packets. It returns the first
  other one, or nothing when that has not come in completely.
-/
theorem pollTurns_delivers
    {fuel : Nat}
    (hFuel : state.input.length < fuel)
    (hAwaits : Awaits env state pending packets) :
    ∃ skipped rest state',
      packets = skipped ++ rest ∧
        (∀ packet ∈ skipped, packet.IsSkipped) ∧
        ((pollTurns env fuel state =
              .ok (sshMsgNone, state') ∧
            Awaits env state' pending rest ∧
            (pending = [] → rest = [])) ∨
          ∃ packet rest',
            rest = packet :: rest' ∧
              ¬ packet.IsSkipped ∧ packet.Proper ∧
              Awaits env state' pending rest' ∧
              pollTurns env fuel state =
                .ok (packet.type,
                  { state' with
                    incomingPacket := packet.payload })) := by
  induction fuel generalizing state packets with
  | zero => omega
  | succ fuel ih =>
      rcases pollTurn_traffic hAwaits with
        ⟨hTurn, hDone⟩ |
          ⟨packet, rest, state', rfl, hProper, hNext, hLess,
            hTurn⟩
      · refine ⟨[], packets, state, rfl, by simp,
          Or.inl ⟨?_, hAwaits, hDone⟩⟩
        rw [pollTurns, hTurn]
        rfl
      · by_cases hSkip : packet.IsSkipped
        · rw [if_pos hSkip] at hTurn
          rcases ih (by omega) hNext with
            ⟨skipped, rest', state'', rfl, hSkipped, hRest⟩
          refine ⟨packet :: skipped, rest', state'', rfl, ?_,
            ?_⟩
          · intro p hp
            rcases List.mem_cons.mp hp with rfl | hTail
            · exact hSkip
            · exact hSkipped p hTail
          · have hStep :
                pollTurns env (fuel + 1) state =
                  pollTurns env fuel state' := by
              rw [pollTurns, hTurn]
              rfl
            rwa [hStep]
        · rw [if_neg hSkip] at hTurn
          refine ⟨[], packet :: rest, state', rfl, by simp,
            Or.inr ⟨packet, rest, rfl, hSkip, hProper, hNext,
              ?_⟩⟩
          rw [pollTurns, hTurn]
          rfl

end Ssh1

------------------------------------------------------------
-- Round Trip
------------------------------------------------------------

namespace Ssh1

variable {σ ζ : Type}

/- What happens at the receiving endpoint. -/
inductive DeliveryEvent where
  | chunk (buf : List UInt8)
  | poll
  deriving DecidableEq, Repr

/- The bytes that come in with the events. -/
def DeliveryEvent.bytes : DeliveryEvent → List UInt8
| chunk buf => buf
| poll => []

/- The receiving endpoint and what its polls returned. -/
structure Reader (σ ζ : Type) where
  state : PacketState σ ζ
  returned : List (UInt8 × List UInt8)

/-
  A returned packet is consumed before the next poll: its
  type and payload are kept and the buffer is cleared.
-/
def DeliveryEvent.step
    (env : PacketEnv σ ζ)
    (reader : Reader σ ζ) :
    DeliveryEvent → Outcome (Reader σ ζ)
| chunk buf =>
    .ok { reader with
      state := packetProcessIncoming buf reader.state }
| poll => do
    let (type, state) ← packetReadPoll env reader.state
    if type = sshMsgNone then
      return { reader with state }
    else
      return {
        state := packetGetAll state
        returned :=
          reader.returned ++ [(type, state.incomingPacket)] }

variable {env : PacketEnv σ ζ}
variable {reader : Reader σ ζ}
variable {pending : List UInt8}
variable {done todo : List Packet}

/- What was returned and what the reader still awaits. -/
structure Delivering
    (env : PacketEnv σ ζ)
    (reader : Reader σ ζ)
    (pending : List UInt8)
    (done todo : List Packet) : Prop where
  returned : reader.returned = visible done
  awaits : Awaits env reader.state pending todo

/- A chunk only moves bytes from the way to the input. -/
theorem Delivering.chunk
    {buf : List UInt8}
    (hDelivering :
      Delivering env reader (buf ++ pending) done todo) :
    ∃ reader',
      DeliveryEvent.step env reader (.chunk buf) =
          .ok reader' ∧
        Delivering env reader' pending done todo := by
  rcases hDelivering with
    ⟨hReturned, hPlain, hEmpty, hTraffic⟩
  refine ⟨_, rfl, hReturned, hPlain, hEmpty, ?_⟩
  simpa [packetProcessIncoming, bufferAppend] using hTraffic

/-
  A poll moves packets from those still awaited to those that
  are done. Once all bytes are there, each poll returns a
  packet until no visible one is left.
-/
theorem Delivering.poll
    (hDelivering :
      Delivering env reader pending done todo) :
    ∃ reader' moved rest,
      DeliveryEvent.step env reader .poll = .ok reader' ∧
        todo = moved ++ rest ∧
        Delivering env reader' pending (done ++ moved) rest ∧
        (pending = [] →
          (visible rest).length ≤
            (visible todo).length - 1) := by
  rcases pollTurns_delivers (Nat.lt_succ_self _)
      hDelivering.awaits with
    ⟨skipped, rest, state', rfl, hSkipped, hPoll⟩
  have hHidden := visible_of_skipped hSkipped
  rcases hPoll with
    ⟨hNone, hAwaits, hDone⟩ |
      ⟨packet, rest', rfl, hSeen, hProper, hAwaits, hType⟩
  · refine ⟨{ reader with state := state' }, skipped, rest,
      ?_, rfl, ⟨?_, hAwaits⟩, ?_⟩
    · rw [DeliveryEvent.step, packetReadPoll, hNone]
      rfl
    · rw [visible_append, hHidden, List.append_nil]
      exact hDelivering.returned
    · intro hEnd
      rw [hDone hEnd]
      simp [visible]
  · have hOne :
        visible [packet] = [(packet.type, packet.payload)] := by
      simp [visible, hSeen]
    refine ⟨⟨state',
        reader.returned ++ [(packet.type, packet.payload)]⟩,
      skipped ++ [packet], rest', ?_, by simp, ⟨?_, ?_⟩, ?_⟩
    · rw [DeliveryEvent.step, packetReadPoll, hType,
        FallibleRun.ok_bind]
      simp only
      rw [if_neg hProper.1]
      simp only [packetGetAll, FallibleRun.pure_eq_ok]
      rw [← hAwaits.empty]
    · rw [visible_append, visible_append, hHidden, hOne,
        hDelivering.returned]
      rfl
    · exact hAwaits
    · intro _
      have hSplit :
          visible (skipped ++ packet :: rest') =
            visible [packet] ++ visible rest' := by
        rw [visible_append, hHidden, List.nil_append,
          ← visible_append]
        rfl
      rw [hSplit, hOne]
      simp

/- Every event keeps the packets in order and complete. -/
theorem Delivering.run
    {events : List DeliveryEvent}
    (hDelivering :
      Delivering env reader
        (events.flatMap DeliveryEvent.bytes ++ pending) done
        todo) :
    ∃ reader' moved rest,
      FallibleRun.run (DeliveryEvent.step env) reader events =
          .ok reader' ∧
        todo = moved ++ rest ∧
        Delivering env reader' pending (done ++ moved)
          rest := by
  induction events generalizing reader done todo with
  | nil =>
      exact ⟨reader, [], todo, rfl, rfl, by
        simpa using hDelivering⟩
  | cons event events ih =>
      have hStep :
          ∃ mid moved rest,
            event.step env reader = .ok mid ∧
              todo = moved ++ rest ∧
              Delivering env mid
                (events.flatMap DeliveryEvent.bytes ++
                  pending) (done ++ moved) rest := by
        cases event with
        | chunk buf =>
            rw [List.flatMap_cons, List.append_assoc]
              at hDelivering
            rcases hDelivering.chunk with
              ⟨mid, hChunk, hNext⟩
            exact ⟨mid, [], todo, hChunk, rfl, by
              simpa using hNext⟩
        | poll =>
            rcases hDelivering.poll with
              ⟨mid, moved, rest, hPoll, hTodo, hNext, -⟩
            exact ⟨mid, moved, rest, hPoll, hTodo, hNext⟩
      rcases hStep with
        ⟨mid, moved, rest, hMid, rfl, hNext⟩
      rcases ih hNext with
        ⟨reader', moved', rest', hRun, rfl, hEnd⟩
      refine ⟨reader', moved ++ moved', rest', ?_, by simp,
        ?_⟩
      · rw [FallibleRun.run_cons, hMid]
        exact hRun
      · rwa [← List.append_assoc]

/- Enough polls return all that has come in. -/
theorem Delivering.replicate_poll
    {n : Nat}
    (hDelivering : Delivering env reader [] done todo)
    (hEnough : (visible todo).length ≤ n) :
    ∃ reader',
      FallibleRun.run (DeliveryEvent.step env) reader
          (List.replicate n .poll) = .ok reader' ∧
        reader'.returned = visible (done ++ todo) := by
  induction n generalizing reader done todo with
  | zero =>
      have hHidden : visible todo = [] :=
        List.eq_nil_of_length_eq_zero (by omega)
      refine ⟨reader, rfl, ?_⟩
      rw [visible_append, hHidden, List.append_nil]
      exact hDelivering.returned
  | succ n ih =>
      rcases hDelivering.poll with
        ⟨mid, moved, rest, hPoll, rfl, hNext, hShrink⟩
      have hLess := hShrink rfl
      rcases ih hNext (by omega) with
        ⟨reader', hRun, hReturned⟩
      refine ⟨reader', ?_, ?_⟩
      · rw [List.replicate_succ, FallibleRun.run_cons, hPoll]
        exact hRun
      · rw [hReturned, List.append_assoc]

/-
  The packets are sent, and whatever part of the bytes has
  come in and been polled, a first part of the packets has
  come out; enough polls of all bytes return all packets.
-/
def DeliversPackets
    (env : PacketEnv σ ζ)
    (sender receiver : PacketState σ ζ)
    (packets : List Packet) : Prop :=
  ∃ sent,
    FallibleRun.run (sendPacket env) sender packets =
        .ok sent ∧
      ∀ events rest,
        events.flatMap DeliveryEvent.bytes ++ rest =
            sent.output →
        ∃ reader,
          FallibleRun.run (DeliveryEvent.step env)
              ⟨receiver, []⟩ events = .ok reader ∧
            reader.returned <+: visible packets ∧
            (rest = [] →
              ∀ n, (visible packets).length ≤ n →
                ∃ reader',
                  FallibleRun.run (DeliveryEvent.step env)
                      reader (List.replicate n .poll) =
                    .ok reader' ∧
                  reader'.returned = visible packets)

/- Packets come out where the context inverts the other. -/
theorem delivers_of_invertsCalls
    {sender receiver : PacketState σ ζ}
    {packets : List Packet}
    (hSenderPlain : sender.packetCompression = false)
    (hReceiverPlain : receiver.packetCompression = false)
    (hOutput : sender.output = [])
    (hInput : receiver.input = [])
    (hIncoming : receiver.incomingPacket = [])
    (hSize : sender.SizeAcceptable)
    (hProper : ∀ packet ∈ packets, packet.Proper)
    (hFits :
      ∀ packet ∈ packets, packet.Fits sender.maxPacketSize)
    (hInverts :
      InvertsCalls env.suite receiver.receiveContext
        sender.sendContext)
    (hOk :
      AnswersOk env receiver.receiveContext receiver.deattack
        (encryptedParts env sender packets)) :
    DeliversPackets env sender receiver packets := by
  rcases run_sendPacket_traffic env hSenderPlain hSize.2
      hProper hFits hInverts hOk with
    ⟨sent, bytes, hRun, hBytes, hTraffic⟩
  refine ⟨sent, hRun, ?_⟩
  intro events rest hEvents
  rw [hBytes, hOutput, List.nil_append] at hEvents
  have hStart :
      Delivering env ⟨receiver, []⟩
        (events.flatMap DeliveryEvent.bytes ++ rest) []
        packets := by
    refine ⟨rfl, hReceiverPlain, hIncoming, ?_⟩
    rw [hEvents, hInput, List.nil_append]
    exact hTraffic
  rcases hStart.run with
    ⟨reader, moved, todo, hDeliver, rfl, hNow⟩
  rw [List.nil_append] at hNow
  refine ⟨reader, hDeliver, ?_, ?_⟩
  · rw [hNow.returned, visible_append]
    exact List.prefix_append _ _
  · intro hAll n hEnough
    subst hAll
    apply hNow.replicate_poll
    rw [visible_append, List.length_append] at hEnough
    omega

/-
  What one endpoint sends comes out at the other one, packet
  by packet and in order, however the bytes are cut.
-/
theorem roundTrip
    (env : PacketEnv σ ζ)
    (sender receiver : PacketState σ ζ)
    (packets : List Packet)
    (hSenderPlain : sender.packetCompression = false)
    (hReceiverPlain : receiver.packetCompression = false)
    (hOutput : sender.output = [])
    (hInput : receiver.input = [])
    (hIncoming : receiver.incomingPacket = [])
    (hSize : sender.SizeAcceptable)
    (hProper : ∀ packet ∈ packets, packet.Proper)
    (hFits :
      ∀ packet ∈ packets, packet.Fits sender.maxPacketSize)
    (hInverts :
      InvertsCalls env.suite receiver.receiveContext
        sender.sendContext)
    (hOk :
      AnswersOk env receiver.receiveContext receiver.deattack
        (encryptedParts env sender packets)) :
    ∃ sent,
      FallibleRun.run (sendPacket env) sender packets =
          .ok sent ∧
        ∀ events rest,
          events.flatMap DeliveryEvent.bytes ++ rest =
              sent.output →
          ∃ reader,
            FallibleRun.run (DeliveryEvent.step env)
                ⟨receiver, []⟩ events = .ok reader ∧
              reader.returned <+: visible packets ∧
              (rest = [] →
                ∀ n, (visible packets).length ≤ n →
                  ∃ reader',
                    FallibleRun.run (DeliveryEvent.step env)
                        reader (List.replicate n .poll) =
                      .ok reader' ∧
                    reader'.returned = visible packets) :=
  delivers_of_invertsCalls hSenderPlain hReceiverPlain hOutput
    hInput hIncoming hSize hProper hFits hInverts hOk

/- Without encryption the detector is not asked. -/
theorem answersOk_none
    {cc : CipherContext σ}
    (deattack : DeattackStatic)
    (hType : cc.type = .none)
    (cps : List (List UInt8)) :
    AnswersOk env cc deattack cps := by
  induction cps generalizing cc with
  | nil => trivial
  | cons cp cps ih =>
      refine ⟨deattack, by simp [detectInContext, hType], ?_⟩
      intro dest cc' hDecrypt
      simp only [cipherDecrypt, cipherSwitch, hType,
        FallibleRun.pure_eq_ok, Except.ok.injEq,
        Prod.mk.injEq] at hDecrypt
      rw [← hDecrypt.2]
      exact ih hType

theorem roundTrip_three_packets :
    ∃ sent,
      FallibleRun.run (sendPacket memcpyEnv)
          (packetSetConnection () () fun _ => 0)
          [⟨4, [.string [117]]⟩, ⟨32, [.string [0, 1]]⟩,
            ⟨16, [.int 7, .mpInt 300, .char 9]⟩] =
        .ok sent ∧
      ∀ events rest,
        events.flatMap DeliveryEvent.bytes ++ rest =
            sent.output →
        ∃ reader,
          FallibleRun.run (DeliveryEvent.step memcpyEnv)
              ⟨packetSetConnection () () fun _ => 0, []⟩
              events = .ok reader ∧
            reader.returned <+:
              visible [⟨4, [.string [117]]⟩,
                ⟨32, [.string [0, 1]]⟩,
                ⟨16, [.int 7, .mpInt 300, .char 9]⟩] := by
  rcases roundTrip memcpyEnv
      (packetSetConnection () () fun _ => 0)
      (packetSetConnection () () fun _ => 0)
      [⟨4, [.string [117]]⟩, ⟨32, [.string [0, 1]]⟩,
        ⟨16, [.int 7, .mpInt 300, .char 9]⟩]
      rfl rfl rfl rfl rfl
      (by simp [PacketState.SizeAcceptable,
        packetSetConnection])
      (by simp [Packet.Proper, Packet.IsSkipped, sshMsgNone,
        sshMsgDisconnect, sshMsgIgnore, sshMsgDebug])
      (by simp [Packet.Fits, Packet.payload, PacketPut.bytes,
        packetSetConnection, put16Bit, hexToBinary,
        mpzGetStr16, packHexDigits])
      (invertsCalls_none rfl rfl)
      (answersOk_none _ rfl _) with
    ⟨sent, hRun, hDeliver⟩
  refine ⟨sent, hRun, ?_⟩
  intro events rest hEvents
  rcases hDeliver events rest hEvents with
    ⟨reader, hReader, hPrefix, -⟩
  exact ⟨reader, hReader, hPrefix⟩

end Ssh1
