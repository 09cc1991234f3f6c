import Ssh1.Packet.Cipher
import Ssh1.Packet.Deattack

/-
  The binary packet protocol.

  A packet is a length word in the clear, and an encrypted
  part of padding, type, payload and CRC. The sender builds
  the packet in a buffer that starts with eight bytes of
  possible padding; the receiver takes complete packets out
  of the bytes that have come in so far.

  Main declarations:
    * `PacketState`, `packetSetConnection`
    * `packetStart`, `packetPutString`, `packetSend`
    * `packetDecrypt`
    * `packetReadPoll`
    * `packetDisconnect`
-/

------------------------------------------------------------
-- Compression
------------------------------------------------------------

namespace Ssh1

/- What `inflate` and `deflate` return besides `Z_OK`. -/
inductive ZStatus where
  | streamEnd
  | dataError
  | streamError
  | bufError
  | memError
  | other (status : Int)
  deriving DecidableEq, Repr

/-
  The compression streams. Each function stands for the calls
  that a loop makes on one input: the pieces of output of the
  calls that return `Z_OK`, and what the last call returns
  where that is something else.
-/
structure Zlib (ζ : Type) where
  deflate :
    ζ → List UInt8 →
      List (List UInt8) × Option ZStatus × ζ
  inflate :
    ζ → List UInt8 → List (List UInt8) × ZStatus × ζ

variable {ζ : Type}

/- The error of a call for the given function. -/
def zlibFatal (name call : String) : ZStatus → Halt
| .streamEnd =>
    .fatal (name ++ ": " ++ call ++ " returned Z_STREAM_END")
| .dataError =>
    .fatal (name ++ ": " ++ call ++ " returned Z_DATA_ERROR")
| .streamError =>
    .fatal
      (name ++ ": " ++ call ++ " returned Z_STREAM_ERROR")
| .bufError =>
    .fatal (name ++ ": " ++ call ++ " returned Z_BUF_ERROR")
| .memError =>
    .fatal (name ++ ": " ++ call ++ " returned Z_MEM_ERROR")
| .other status =>
    .fatal
      (name ++ ": " ++ call ++ " returned " ++
        toString status)

/- Compresses the input and appends it to the output. -/
def bufferCompress
    (zlib : Zlib ζ)
    (stream : ζ)
    (inputBuffer outputBuffer : Buffer) :
    Outcome (Buffer × ζ) :=
  if inputBuffer.length = 0 then
    .ok (outputBuffer, stream)
  else
    match zlib.deflate stream inputBuffer with
    | (pieces, none, stream) =>
        .ok (bufferAppend outputBuffer pieces.flatten, stream)
    | (_, some status, _) =>
        .error (zlibFatal "buffer_compress" "deflate" status)

/- Uncompresses the input and appends it to the output. -/
def bufferUncompress
    (zlib : Zlib ζ)
    (stream : ζ)
    (inputBuffer outputBuffer : Buffer) :
    Outcome (Buffer × ζ) :=
  match zlib.inflate stream inputBuffer with
  -- The error that ends the data of this packet.
  | (pieces, .bufError, stream) =>
      .ok (bufferAppend outputBuffer pieces.flatten, stream)
  | (_, status, _) =>
      .error (zlibFatal "buffer_uncompress" "inflate" status)

end Ssh1

------------------------------------------------------------
-- State
------------------------------------------------------------

namespace Ssh1

/- What surrounds the packet layer. -/
structure PacketEnv (σ ζ : Type) where
  suite : CipherSuite σ
  zlib : Zlib ζ
  order : ByteOrder
  -- the contents of newly allocated memory
  memory : Nat → UInt16

/- An environment whose ciphers change nothing. -/
def memcpyEnv : PacketEnv Unit Unit where
  suite :=
    { ideaIv := fun _ => List.replicate 8 0
      encrypt := fun _ _ src => (src, ())
      decrypt := fun _ _ src => (src, ())
      length_encrypt := fun _ _ _ => rfl
      length_decrypt := fun _ _ _ => rfl }
  zlib :=
    { deflate := fun _ src => ([src], none, ())
      inflate := fun _ src => ([src], .bufError, ()) }
  order := .lsbFirst
  memory := fun _ => 0

/- The static variables of the packet layer. -/
structure PacketState (σ ζ : Type) where
  cipherType : CipherType
  receiveContext : CipherContext σ
  sendContext : CipherContext σ
  input : Buffer
  output : Buffer
  outgoingPacket : Buffer
  incomingPacket : Buffer
  packetCompression : Bool
  incomingStream : ζ
  outgoingStream : ζ
  maxPacketSize : Nat
  -- the bytes that the random number generator will return
  randomState : Nat → UInt8
  -- the static variables of the attack detector
  deattack : DeattackStatic

/- A connection without encryption, with empty buffers. -/
def packetSetConnection
    {σ ζ : Type}
    (u : σ)
    (stream : ζ)
    (randomState : Nat → UInt8) : PacketState σ ζ where
  cipherType := .none
  receiveContext := ⟨.none, u⟩
  sendContext := ⟨.none, u⟩
  input := []
  output := []
  outgoingPacket := []
  incomingPacket := []
  packetCompression := false
  incomingStream := stream
  outgoingStream := stream
  maxPacketSize := 256000
  randomState
  deattack := .initial

/-
  The maximum packet size is the initial one or one that the
  server has found acceptable.
-/
def PacketState.SizeAcceptable
    {σ ζ : Type}
    (state : PacketState σ ζ) : Prop :=
  4096 ≤ state.maxPacketSize ∧
    state.maxPacketSize ≤ 256 * 1024

/- `SSH_MSG_NONE` -/
def sshMsgNone : UInt8 := 0

/- `SSH_MSG_DISCONNECT` -/
def sshMsgDisconnect : UInt8 := 1

/- `SSH_MSG_IGNORE` -/
def sshMsgIgnore : UInt8 := 32

/- `SSH_MSG_DEBUG` -/
def sshMsgDebug : UInt8 := 36

end Ssh1

------------------------------------------------------------
-- Sending
------------------------------------------------------------

namespace Ssh1

variable {σ ζ : Type}

/- Encrypts the given bytes, a multiple of eight of them. -/
def packetEncrypt
    (env : PacketEnv σ ζ)
    (cc : CipherContext σ)
    (src : List UInt8) :
    Outcome (List UInt8 × CipherContext σ) := do
  assert (src.length % 8 = 0)
  cipherEncrypt env.suite cc src

/- Starts constructing a packet to send. -/
def packetStart
    (type : UInt8)
    (state : PacketState σ ζ) : PacketState σ ζ :=
  { state with
      outgoingPacket := List.replicate 8 0 ++ [type] }

/- Appends a character to the packet data. -/
def packetPutChar
    (value : UInt8)
    (state : PacketState σ ζ) : PacketState σ ζ :=
  { state with
      outgoingPacket :=
        bufferPutChar state.outgoingPacket value }

/- Appends an integer to the packet data. -/
def packetPutInt
    (value : Nat)
    (state : PacketState σ ζ) : PacketState σ ζ :=
  { state with
      outgoingPacket :=
        bufferPutInt state.outgoingPacket value }

/- Appends a string to packet data. -/
def packetPutString
    (buf : List UInt8)
    (state : PacketState σ ζ) : PacketState σ ζ :=
  { state with
      outgoingPacket :=
        bufferPutString state.outgoingPacket buf }

/- Appends an arbitrary precision integer to packet data. -/
def packetPutMpInt
    (value : Nat)
    (state : PacketState σ ζ) : Outcome (PacketState σ ζ) := do
  let outgoingPacket ←
    bufferPutMpInt state.outgoingPacket value
  return { state with outgoingPacket }

/- The payload of the outgoing packet is compressed. -/
def compressOutgoing
    (env : PacketEnv σ ζ)
    (state : PacketState σ ζ) :
    Outcome (PacketState σ ζ) := do
  if state.packetCompression then
    let payload ← bufferConsume state.outgoingPacket 8
    let (outgoingPacket, outgoingStream) ←
      bufferCompress env.zlib state.outgoingStream payload
        (List.replicate 8 0)
    return { state with outgoingPacket, outgoingStream }
  else
    return state

/- Random bytes in front of the type, the last one first. -/
def insertPadding
    (random : Nat → UInt8)
    (padding : Nat)
    (cp : Buffer) : Buffer :=
  (List.range padding).foldl
    (fun cp i => cp.set (7 - i) (random i)) cp

/- Pads, checks and encrypts the packet onto the output. -/
def appendPacket
    (env : PacketEnv σ ζ)
    (state : PacketState σ ζ) :
    Outcome (PacketState σ ζ) := do
  -- the length with check bytes and without padding
  let len := state.outgoingPacket.length + 4 - 8
  let padding := 8 - len % 8
  let (outgoingPacket, randomState) :=
    if state.cipherType ≠ .none then
      (insertPadding state.randomState padding
          state.outgoingPacket,
        fun i => state.randomState (padding + i))
    else
      (state.outgoingPacket, state.randomState)
  let outgoingPacket ←
    bufferConsume outgoingPacket (8 - padding)
  let checksum := crc32 outgoingPacket
  let outgoingPacket :=
    bufferAppend outgoingPacket (put32Bit checksum.toNat)
  let (cp, sendContext) ←
    packetEncrypt env state.sendContext outgoingPacket
  return { state with
    output :=
      bufferAppend (bufferAppend state.output
        (put32Bit len)) cp
    sendContext
    randomState
    outgoingPacket := [] }

/- Finalizes and sends the packet. -/
def packetSend
    (env : PacketEnv σ ζ)
    (state : PacketState σ ζ) :
    Outcome (PacketState σ ζ) := do
  if state.outgoingPacket.length ≥
      state.maxPacketSize - 30 then
    .error (.fatal
      ("packet_send: sending too big a packet: size " ++
        toString state.outgoingPacket.length ++ ", limit " ++
        toString state.maxPacketSize ++ "."))
  else
    let state ← compressOutgoing env state
    appendPacket env state

/- The bytes of a message, as many as its buffer takes. -/
def messageBytes (message : String) : List UInt8 :=
  message.toUTF8.toList.take 1023

/-
  Sends a disconnect packet and exits. What the sending ends
  with comes first.
-/
def packetDisconnect
    (env : PacketEnv σ ζ)
    (state : PacketState σ ζ)
    (message : String) : Halt :=
  let packet :=
    packetPutString (messageBytes message)
      (packetStart sshMsgDisconnect state)
  match packetSend env packet with
  | .error halt => halt
  | .ok _ => .disconnect message

end Ssh1

------------------------------------------------------------
-- Receiving
------------------------------------------------------------

namespace Ssh1

variable {σ ζ : Type}

/- The verdict of the attack detector for the context. -/
def detectInContext
    (env : PacketEnv σ ζ)
    (cc : CipherContext σ)
    (deattack : DeattackStatic)
    (src : List UInt8) :
    Outcome (Deattack × DeattackStatic) :=
  match cc.type with
  | .idea =>
      detectAttack env.order src (some (env.suite.ideaIv cc.u))
        env.memory deattack
  | .none => .ok (.ok, deattack)
  | _ => detectAttack env.order src none env.memory deattack

/- Decrypts the given bytes, a multiple of eight of them. -/
def packetDecrypt
    (env : PacketEnv σ ζ)
    (state : PacketState σ ζ)
    (src : List UInt8) :
    Outcome (List UInt8 × PacketState σ ζ) := do
  assert (src.length % 8 = 0)
  let (i, deattack) ←
    detectInContext env state.receiveContext state.deattack
      src
  if i = .detected then
    .error (packetDisconnect env { state with deattack }
      "crc32 compensation attack: network attack detected")
  else
    let (dest, receiveContext) ←
      cipherDecrypt env.suite state.receiveContext src
    return (dest, { state with deattack, receiveContext })

/- The payload of the incoming packet is uncompressed. -/
def uncompressIncoming
    (env : PacketEnv σ ζ)
    (state : PacketState σ ζ) :
    Outcome (PacketState σ ζ) := do
  if state.packetCompression then
    let (incomingPacket, incomingStream) ←
      bufferUncompress env.zlib state.incomingStream
        state.incomingPacket []
    return { state with incomingPacket, incomingStream }
  else
    return state

/- The length of the encrypted part, `(len + 8) & ~7`. -/
def paddedLen (len : Nat) : Nat :=
  (len + 8) &&& (2 ^ 32 - 8)

/- What one turn of the reading loop ends with. -/
inductive PollTurn where
  | returned (type : UInt8)
  | restart
  deriving DecidableEq, Repr

/-
  A complete packet has been decrypted and checked: its type
  decides what happens with it.
-/
def dispatchIncoming
    (state : PacketState σ ζ) :
    Outcome (PollTurn × PacketState σ ζ) := do
  let (type, incomingPacket) ←
    bufferGetChar state.incomingPacket
  if type = sshMsgDisconnect then
    let (cause, _) ← bufferGetString incomingPacket
    .error (.fatal (cStringText (cause.take 900)))
  else if type = sshMsgIgnore ∨ type = sshMsgDebug then
    let (_, incomingPacket) ← bufferGetString incomingPacket
    return (.restart, { state with incomingPacket })
  else
    return (.returned type, { state with incomingPacket })

/-
  The encrypted part of a packet of the given length is at
  the front of the input.
-/
def readPacket
    (env : PacketEnv σ ζ)
    (len : Nat)
    (state : PacketState σ ζ) :
    Outcome (PollTurn × PacketState σ ζ) := do
  if state.incomingPacket.length ≠ 0 then
    .error (packetDisconnect env state
      ("Junk data left to incoming packet buffer after all" ++
        " data processed"))
  else
    let (cp, state) ←
      packetDecrypt env state
        (state.input.take (paddedLen len))
    let input ← bufferConsume state.input (paddedLen len)
    let state := { state with input }
    let checksum := crc32 (cp.take (cp.length - 4))
    let incomingPacket ← bufferConsume cp (8 - len % 8)
    assert (len = incomingPacket.length)
    let storedChecksum :=
      get32Bit (incomingPacket.drop (len - 4))
    if checksum.toNat ≠ storedChecksum then
      .error (packetDisconnect env state
        "Corrupted check bytes on input.")
    else
      let incomingPacket ←
        bufferConsumeEnd incomingPacket 4
      let state ←
        uncompressIncoming env { state with incomingPacket }
      dispatchIncoming state

/- One turn of the loop of `packet_read_poll`. -/
def pollTurn
    (env : PacketEnv σ ζ)
    (state : PacketState σ ζ) :
    Outcome (PollTurn × PacketState σ ζ) := do
  if state.input.length < 4 + 8 then
    return (.returned sshMsgNone, state)
  else
    let len := get32Bit state.input
    if len < 1 + 2 + 2 ∨ len > 256 * 1024 then
      .error (packetDisconnect env state
        ("Bad packet length " ++ toString len ++ "."))
    else if state.input.length < 4 + paddedLen len then
      return (.returned sshMsgNone, state)
    else
      let input ← bufferConsume state.input 4
      readPacket env len { state with input }

/- Turns of the loop, at most as many as the fuel allows. -/
def pollTurns
    (env : PacketEnv σ ζ) :
    Nat → PacketState σ ζ →
      Outcome (UInt8 × PacketState σ ζ)
| 0, _ => .error .diverges
| fuel + 1, state => do
    let (turn, state) ← pollTurn env state
    match turn with
    | .returned type => return (type, state)
    | .restart => pollTurns env fuel state

/-
  Checks if a full packet is available in the data received
  so far. Every skipped packet takes bytes from the input, so
  there are fewer turns than bytes.
-/
def packetReadPoll
    (env : PacketEnv σ ζ)
    (state : PacketState σ ζ) :
    Outcome (UInt8 × PacketState σ ζ) :=
  pollTurns env (state.input.length + 1) state

/- Buffers the given input characters. -/
def packetProcessIncoming
    (buf : List UInt8)
    (state : PacketState σ ζ) : PacketState σ ζ :=
  { state with input := bufferAppend state.input buf }

/- Clears the incoming data buffer. -/
def packetGetAll
    (state : PacketState σ ζ) : PacketState σ ζ :=
  { state with incomingPacket := [] }

end Ssh1

------------------------------------------------------------
-- Lengths
------------------------------------------------------------

namespace Ssh1

variable {σ ζ : Type}

/- Clearing the three low bits rounds down to eight. -/
theorem and_clear_three
    {n : Nat}
    (hWord : n < 2 ^ 32) :
    n &&& (2 ^ 32 - 8) = 8 * (n / 8) := by
  have hMask : 2 ^ 32 - 8 = (2 ^ 29 - 1) <<< 3 := by
    decide
  have hShift : 8 * (n / 8) = (n >>> 3) <<< 3 := by
    rw [Nat.shiftRight_eq_div_pow, Nat.shiftLeft_eq]
    omega
  rw [hMask, hShift]
  apply Nat.eq_of_testBit_eq
  intro i
  simp only [Nat.testBit_and, Nat.testBit_shiftLeft,
    Nat.testBit_shiftRight, Nat.testBit_two_pow_sub_one]
  by_cases hLow : 3 ≤ i
  · have hIndex : 3 + (i - 3) = i := by omega
    by_cases hHigh : i - 3 < 29
    · simp [hLow, hHigh, hIndex]
    · have hBit : n.testBit i = false :=
        Nat.testBit_lt_two_pow
          (lt_of_lt_of_le hWord
            (Nat.pow_le_pow_right (by omega) (by omega)))
      simp [hIndex, hBit]
  · simp [hLow]

/- The encrypted part has between 1 and 8 bytes of padding. -/
theorem paddedLen_eq
    {len : Nat}
    (hLen : len ≤ 256 * 1024) :
    paddedLen len = len + (8 - len % 8) := by
  rw [paddedLen, and_clear_three (by omega)]
  omega

theorem paddedLen_mod
    {len : Nat}
    (hLen : len ≤ 256 * 1024) :
    paddedLen len % 8 = 0 := by
  rw [paddedLen_eq hLen]
  omega

@[simp] theorem length_insertPadding
    (random : Nat → UInt8)
    (padding : Nat)
    (cp : Buffer) :
    (insertPadding random padding cp).length =
      cp.length := by
  unfold insertPadding
  induction padding with
  | zero => rfl
  | succ padding ih =>
      rw [List.range_succ, List.foldl_append]
      simpa using ih

/- The padding lies in front of the type. -/
theorem drop_insertPadding
    (random : Nat → UInt8)
    (padding : Nat)
    (cp : Buffer) :
    (insertPadding random padding cp).drop 8 =
      cp.drop 8 := by
  unfold insertPadding
  induction padding with
  | zero => rfl
  | succ padding ih =>
      rw [List.range_succ, List.foldl_append,
        List.foldl_cons, List.foldl_nil,
        List.drop_set_of_lt (by omega)]
      exact ih

end Ssh1

------------------------------------------------------------
-- Frames
------------------------------------------------------------

namespace Ssh1

variable {σ ζ : Type}

/- The plain text of the encrypted part of a packet. -/
def framePlain
    (pad body : List UInt8) : List UInt8 :=
  pad ++ body ++ put32Bit (crc32 (pad ++ body)).toNat

@[simp] theorem length_framePlain
    (pad body : List UInt8) :
    (framePlain pad body).length =
      pad.length + body.length + 4 := by
  simp [framePlain, Nat.add_assoc]

/- A frame with its padding is a multiple of eight bytes. -/
theorem length_framePlain_mod
    {pad body : List UInt8}
    (hPad : pad.length = 8 - (body.length + 4) % 8) :
    (framePlain pad body).length % 8 = 0 := by
  rw [length_framePlain, hPad]
  omega

/-
  The packet goes out as its length word and the encryption
  of its frame. The eight bytes in front of its body are room
  for the padding.
-/
theorem appendPacket_eq
    (env : PacketEnv σ ζ)
    (state : PacketState σ ζ)
    {front body : List UInt8}
    (hFront : front.length = 8)
    (hPacket : state.outgoingPacket = front ++ body) :
    ∃ pad randomState,
      pad.length = 8 - (body.length + 4) % 8 ∧
        appendPacket env state =
          (cipherEncrypt env.suite state.sendContext
              (framePlain pad body) >>= fun sent =>
            .ok { state with
              output :=
                state.output ++ put32Bit (body.length + 4) ++
                  sent.1
              sendContext := sent.2
              randomState
              outgoingPacket := [] }) := by
  have hLength : state.outgoingPacket.length =
      body.length + 8 := by
    simp [hPacket, hFront, Nat.add_comm]
  have hLen : state.outgoingPacket.length + 4 - 8 =
      body.length + 4 := by
    omega
  have hBody : state.outgoingPacket.drop 8 = body := by
    simp [hPacket, ← hFront]
  -- Whatever fills the room, the body behind it is the same.
  have hFilled :
      ∀ filled : Buffer,
        filled.length = state.outgoingPacket.length →
        filled.drop 8 = state.outgoingPacket.drop 8 →
        ∃ pad : List UInt8,
          pad.length = 8 - (body.length + 4) % 8 ∧
            bufferConsume filled
                (8 - (8 - (body.length + 4) % 8)) =
              .ok (pad ++ body) := by
    intro filled hSame hRest
    refine ⟨(filled.take 8).drop
      (8 - (8 - (body.length + 4) % 8)), ?_, ?_⟩
    · simp only [List.length_drop, List.length_take]
      omega
    · rw [bufferConsume_of_le (by omega), ← hBody, ← hRest]
      congr 1
      rw [← List.drop_append_of_le_length (by
        simp only [List.length_take]
        omega), List.take_append_drop]
  by_cases hType : state.cipherType = .none
  · rcases hFilled state.outgoingPacket rfl rfl with
      ⟨pad, hPad, hConsume⟩
    refine ⟨pad, state.randomState, hPad, ?_⟩
    have hBlocks := length_framePlain_mod hPad
    rw [length_framePlain, Nat.add_assoc] at hBlocks
    simp [appendPacket, hType, hLen, hConsume, framePlain,
      packetEncrypt, bufferAppend, assert, hBlocks,
      Nat.add_assoc]
  · rcases hFilled
        (insertPadding state.randomState
          (8 - (body.length + 4) % 8) state.outgoingPacket)
        (length_insertPadding _ _ _)
        (drop_insertPadding _ _ _) with
      ⟨pad, hPad, hConsume⟩
    refine ⟨pad,
      fun i => state.randomState
        ((8 - (body.length + 4) % 8) + i), hPad, ?_⟩
    have hBlocks := length_framePlain_mod hPad
    rw [length_framePlain, Nat.add_assoc] at hBlocks
    simp [appendPacket, hType, hLen, hConsume, framePlain,
      packetEncrypt, bufferAppend, assert, hBlocks,
      Nat.add_assoc]

end Ssh1
