import Ssh1.Base.Buffer
import Mathlib.Data.Nat.Bitwise

/-
  The first packet of an X11 connection.

  The client has given the server fake authentication data.
  The first packet of a forwarded connection has to carry it;
  the real data is then put in its place. Every access to the
  packet is checked against the bytes that are buffered.

  Main declarations:
    * `X11Auth`
    * `x11CheckPacket`
    * `X11Auth.Genuine`, `X11Auth.substituted`
    * `x11CheckPacket_genuine`, `x11CheckPacket_not_genuine`
-/

------------------------------------------------------------
-- Checked Accesses
------------------------------------------------------------

namespace Ssh1

/- Reads bytes of the buffer at an offset. -/
def readBytes
    (buffer : Buffer)
    (offset len : Nat) : Outcome (List UInt8) :=
  if offset + len ≤ buffer.length then
    .ok ((buffer.drop offset).take len)
  else
    .error .outOfBounds

/- Reads one byte of the buffer. -/
def readByte
    (buffer : Buffer)
    (offset : Nat) : Outcome Nat :=
  match buffer[offset]? with
  | some b => .ok b.toNat
  | none => .error .outOfBounds

/- Overwrites bytes of the buffer at an offset. -/
def writeBytes
    (buffer : Buffer)
    (offset : Nat)
    (data : List UInt8) : Outcome Buffer :=
  if offset + data.length ≤ buffer.length then
    .ok (buffer.take offset ++ data ++
      buffer.drop (offset + data.length))
  else
    .error .outOfBounds

end Ssh1

------------------------------------------------------------
-- Authentication Data
------------------------------------------------------------

namespace Ssh1

/-
  The saved protocol name with the real and the fake data,
  which have the same length.
-/
structure X11Auth where
  savedProto : List UInt8
  savedData : List UInt8
  fakeData : List UInt8
  length_eq : fakeData.length = savedData.length

/- What becomes of a buffered first packet. -/
inductive X11Verdict where
  | incomplete
  | rejected
  | accepted (output : Buffer)
  deriving DecidableEq, Repr

/- Rounds up to a multiple of four, `(len + 3) & ~3`. -/
def roundUp4 (len : Nat) : Nat :=
  (len + 3) &&& (2 ^ 32 - 4)

/- The two lengths, in the byte order of the first byte. -/
def x11Lengths
    (output : Buffer) : Outcome (Option (Nat × Nat)) := do
  let order ← readByte output 0
  if order = 0x42 then
    -- Byte order MSB first.
    let b6 ← readByte output 6
    let b7 ← readByte output 7
    let b8 ← readByte output 8
    let b9 ← readByte output 9
    return some (256 * b6 + b7, 256 * b8 + b9)
  else if order = 0x6c then
    -- Byte order LSB first.
    let b6 ← readByte output 6
    let b7 ← readByte output 7
    let b8 ← readByte output 8
    let b9 ← readByte output 9
    return some (b6 + 256 * b7, b8 + 256 * b9)
  else
    return none

/-
  Compares the fields of a complete packet and substitutes
  the real data.
-/
def x11CheckFields
    (auth : X11Auth)
    (output : Buffer)
    (protoLen dataLen : Nat) : Outcome X11Verdict := do
  let protoDiffers ←
    if protoLen ≠ auth.savedProto.length then
      pure true
    else do
      let proto ← readBytes output 12 protoLen
      pure (decide (proto ≠ auth.savedProto))
  if protoDiffers then
    -- The debug message shows at most 100 bytes of the name.
    let _ ← readBytes output 12 (min protoLen 100)
    return .rejected
  else
    let offset := 12 + roundUp4 protoLen
    let dataDiffers ←
      if dataLen ≠ auth.fakeData.length then
        pure true
      else do
        let data ←
          readBytes output offset auth.fakeData.length
        pure (decide (data ≠ auth.fakeData))
    if dataDiffers then
      return .rejected
    else
      assert (auth.fakeData.length = auth.savedData.length)
      let output ← writeBytes output offset auth.savedData
      return .accepted output

/- Checks the first packet as far as it is buffered. -/
def x11CheckPacket
    (auth : X11Auth)
    (output : Buffer) : Outcome X11Verdict := do
  if output.length < 12 then
    return .incomplete
  else
    match ← x11Lengths output with
    | none => return .rejected
    | some (protoLen, dataLen) =>
        if output.length <
            12 + roundUp4 protoLen + roundUp4 dataLen then
          return .incomplete
        else
          x11CheckFields auth output protoLen dataLen

end Ssh1

------------------------------------------------------------
-- Genuine Packets
------------------------------------------------------------

namespace Ssh1

/- The byte at an offset of a stream, zero past its end. -/
def byteAt (stream : List UInt8) (offset : Nat) : Nat :=
  (stream.getD offset 0).toNat

/-
  What the byte-order byte of a first packet makes of the two
  length fields.
-/
def x11FieldLens
    (stream : List UInt8) : Option (Nat × Nat) :=
  if byteAt stream 0 = 0x42 then
    some (256 * byteAt stream 6 + byteAt stream 7,
      256 * byteAt stream 8 + byteAt stream 9)
  else if byteAt stream 0 = 0x6c then
    some (byteAt stream 6 + 256 * byteAt stream 7,
      byteAt stream 8 + 256 * byteAt stream 9)
  else
    none

/- The next multiple of four. -/
def pad4 (len : Nat) : Nat :=
  (len + 3) / 4 * 4

namespace X11Auth

/- Where the data is in a packet with the saved protocol. -/
def dataOffset (auth : X11Auth) : Nat :=
  12 + pad4 auth.savedProto.length

/-
  The stream begins with a complete first packet that has a
  byte order, the saved protocol name and the fake data.
-/
structure Genuine
    (auth : X11Auth)
    (stream : List UInt8) : Prop where
  lens :
    x11FieldLens stream =
      some (auth.savedProto.length, auth.fakeData.length)
  complete :
    auth.dataOffset + pad4 auth.fakeData.length ≤
      stream.length
  proto :
    (stream.drop 12).take auth.savedProto.length =
      auth.savedProto
  data :
    (stream.drop auth.dataOffset).take auth.fakeData.length =
      auth.fakeData

/- The stream with the real data in place of the fake one. -/
def substituted
    (auth : X11Auth)
    (stream : List UInt8) : List UInt8 :=
  stream.take auth.dataOffset ++ auth.savedData ++
    stream.drop (auth.dataOffset + auth.savedData.length)

end X11Auth

/- Padding makes no length shorter. -/
theorem le_pad4 (len : Nat) : len ≤ pad4 len := by
  unfold pad4
  omega

/- Clearing two low bits is rounding down to a multiple. -/
theorem and_mask_eq
    (n : Nat) :
    n &&& (2 ^ 32 - 4) =
      (n / 2 ^ 2 &&& (2 ^ 30 - 1)) * 2 ^ 2 := by
  have hMask : 2 ^ 32 - 4 = (2 ^ 30 - 1) * 2 ^ 2 := rfl
  apply Nat.eq_of_testBit_eq
  intro k
  rw [hMask]
  simp only [Nat.testBit_and, Nat.testBit_mul_two_pow,
    Nat.testBit_div_two_pow]
  by_cases hk : 2 ≤ k
  · simp [hk]
  · simp [hk]

/- The source's rounding pads to four bytes. -/
theorem roundUp4_eq_pad4
    {len : Nat}
    (hLen : len < 65536) :
    roundUp4 len = pad4 len := by
  have hQuarter : (len + 3) / 2 ^ 2 < 2 ^ 30 := by omega
  rw [roundUp4, and_mask_eq, Nat.and_two_pow_sub_one_eq_mod,
    Nat.mod_eq_of_lt hQuarter]
  rfl

end Ssh1

------------------------------------------------------------
-- Check of a First Packet
------------------------------------------------------------

namespace Ssh1

variable {auth : X11Auth}
variable {output stream more : List UInt8}
variable {protoLen dataLen : Nat}

theorem readByte_eq_ok
    {k : Nat}
    (hLen : k < output.length) :
    readByte output k = .ok (byteAt output k) := by
  simp [readByte, byteAt, hLen]

theorem byteAt_lt
    (k : Nat) :
    byteAt stream k < 256 :=
  UInt8.toNat_lt _

/- Each length field is below 65536. -/
theorem x11FieldLens_lt
    (hLens : x11FieldLens stream = some (protoLen, dataLen)) :
    protoLen < 65536 ∧ dataLen < 65536 := by
  have h6 := @byteAt_lt stream 6
  have h7 := @byteAt_lt stream 7
  have h8 := @byteAt_lt stream 8
  have h9 := @byteAt_lt stream 9
  unfold x11FieldLens at hLens
  split at hLens
  · cases hLens
    omega
  · split at hLens
    · cases hLens
      omega
    · cases hLens

/- The fields of a buffered fixed part are all readable. -/
theorem x11Lengths_eq_ok
    (hFixed : 12 ≤ output.length) :
    x11Lengths output = .ok (x11FieldLens output) := by
  unfold x11Lengths x11FieldLens
  rw [readByte_eq_ok (by omega), FallibleRun.ok_bind,
    readByte_eq_ok (by omega), readByte_eq_ok (by omega),
    readByte_eq_ok (by omega), readByte_eq_ok (by omega)]
  simp only [FallibleRun.ok_bind, FallibleRun.pure_eq_ok]
  split
  · rfl
  · split <;> rfl

/- A protocol name of another length is rejected. -/
theorem x11CheckFields_protoLen
    (hComplete : 12 + protoLen ≤ output.length)
    (hLen : protoLen ≠ auth.savedProto.length) :
    x11CheckFields auth output protoLen dataLen =
      .ok .rejected := by
  have hShown :
      readBytes output 12 (min protoLen 100) =
        .ok ((output.drop 12).take (min protoLen 100)) := by
    rw [readBytes, if_pos (by omega)]
  simp only [x11CheckFields, hLen, hShown, ne_eq,
    not_false_eq_true, if_true, FallibleRun.pure_eq_ok,
    FallibleRun.ok_bind]

/- So is another name of the same length. -/
theorem x11CheckFields_proto
    (hComplete :
      12 + auth.savedProto.length ≤ output.length)
    (hName :
      (output.drop 12).take auth.savedProto.length ≠
        auth.savedProto) :
    x11CheckFields auth output auth.savedProto.length dataLen =
      .ok .rejected := by
  have hShown :
      readBytes output 12 (min auth.savedProto.length 100) =
        .ok ((output.drop 12).take
          (min auth.savedProto.length 100)) := by
    rw [readBytes, if_pos (by omega)]
  have hProto :
      readBytes output 12 auth.savedProto.length =
        .ok ((output.drop 12).take auth.savedProto.length) := by
    rw [readBytes, if_pos hComplete]
  simp only [x11CheckFields, hShown, hProto, hName, ne_eq,
    not_true_eq_false, not_false_eq_true, if_false,
    decide_true, if_true, FallibleRun.pure_eq_ok,
    FallibleRun.ok_bind]

section SameProto

variable (hProtoLen : auth.savedProto.length < 65536)
variable
  (hComplete :
    auth.dataOffset + dataLen ≤ output.length)
variable
  (hName :
    (output.drop 12).take auth.savedProto.length =
      auth.savedProto)

include hProtoLen hComplete hName

/- With the right name the data decides. -/
theorem x11CheckFields_sameProto :
    x11CheckFields auth output auth.savedProto.length dataLen =
      .ok
        (if dataLen = auth.fakeData.length ∧
            (output.drop auth.dataOffset).take
                auth.fakeData.length =
              auth.fakeData then
          .accepted (auth.substituted output)
        else
          .rejected) := by
  have hPad := le_pad4 auth.savedProto.length
  have hOffset :
      12 + roundUp4 auth.savedProto.length =
        auth.dataOffset := by
    rw [roundUp4_eq_pad4 hProtoLen]
    rfl
  have hProto :
      readBytes output 12 auth.savedProto.length =
        .ok auth.savedProto := by
    unfold X11Auth.dataOffset at hComplete
    rw [readBytes, if_pos (by omega), hName]
  simp only [x11CheckFields, hProto, ne_eq,
    not_true_eq_false, if_false, decide_false,
    Bool.false_eq_true, FallibleRun.pure_eq_ok,
    FallibleRun.ok_bind, hOffset]
  by_cases hLen : dataLen = auth.fakeData.length
  · subst hLen
    have hData :
        readBytes output auth.dataOffset
            auth.fakeData.length =
          .ok ((output.drop auth.dataOffset).take
            auth.fakeData.length) := by
      rw [readBytes, if_pos hComplete]
    have hWrite :
        writeBytes output auth.dataOffset auth.savedData =
          .ok (auth.substituted output) := by
      rw [auth.length_eq] at hComplete
      rw [writeBytes, if_pos hComplete]
      rfl
    by_cases hMatch :
        (output.drop auth.dataOffset).take
            auth.fakeData.length =
          auth.fakeData
    · have hAssert := assert_of_true auth.length_eq
      simp only [hData, hMatch, hWrite, hAssert,
        not_true_eq_false, if_false, decide_false, and_self,
        if_true, Bool.false_eq_true, FallibleRun.ok_bind]
    · simp [hData, hMatch]
  · simp [hLen]

end SameProto

/- A complete packet is accepted exactly when it matches. -/
theorem x11CheckFields_eq_ok
    (hLens : x11FieldLens output = some (protoLen, dataLen))
    (hComplete :
      12 + pad4 protoLen + pad4 dataLen ≤ output.length) :
    (auth.Genuine output ∧
      x11CheckFields auth output protoLen dataLen =
        .ok (.accepted (auth.substituted output))) ∨
    (¬ auth.Genuine output ∧
      x11CheckFields auth output protoLen dataLen =
        .ok .rejected) := by
  have hPad := le_pad4 protoLen
  have hPad' := le_pad4 dataLen
  have hBounds := x11FieldLens_lt hLens
  by_cases hLen : protoLen = auth.savedProto.length
  · subst hLen
    by_cases hName :
        (output.drop 12).take auth.savedProto.length =
          auth.savedProto
    · have hCheck :=
        @x11CheckFields_sameProto auth output dataLen
          hBounds.1 (by unfold X11Auth.dataOffset; omega) hName
      by_cases hMatch :
          dataLen = auth.fakeData.length ∧
            (output.drop auth.dataOffset).take
                auth.fakeData.length =
              auth.fakeData
      · rw [if_pos hMatch] at hCheck
        rcases hMatch with ⟨hDataLen, hData⟩
        subst hDataLen
        exact .inl ⟨⟨hLens, hComplete, hName, hData⟩, hCheck⟩
      · rw [if_neg hMatch] at hCheck
        refine .inr ⟨?_, hCheck⟩
        rintro ⟨hLens', -, -, hData⟩
        rw [hLens] at hLens'
        cases hLens'
        exact hMatch ⟨rfl, hData⟩
    · refine .inr ⟨fun hGenuine => hName hGenuine.proto, ?_⟩
      exact x11CheckFields_proto (by omega) hName
  · refine .inr ⟨?_, x11CheckFields_protoLen (by omega) hLen⟩
    intro hGenuine
    have hLens' := hGenuine.lens
    rw [hLens] at hLens'
    cases hLens'
    exact hLen rfl

/- A genuine first packet gets the real data. -/
theorem x11CheckPacket_genuine
    (hGenuine : auth.Genuine output) :
    x11CheckPacket auth output =
      .ok (.accepted (auth.substituted output)) := by
  have hComplete := hGenuine.complete
  have hBounds := x11FieldLens_lt hGenuine.lens
  have hFixed : 12 ≤ output.length := by
    unfold X11Auth.dataOffset at hComplete
    omega
  rw [x11CheckPacket, if_neg (by omega),
    x11Lengths_eq_ok hFixed, FallibleRun.ok_bind,
    hGenuine.lens]
  simp only
  rw [roundUp4_eq_pad4 hBounds.1, roundUp4_eq_pad4 hBounds.2,
    if_neg (by
      unfold X11Auth.dataOffset at hComplete
      omega)]
  rcases x11CheckFields_eq_ok hGenuine.lens hComplete with
    ⟨-, hCheck⟩ | ⟨hNot, -⟩
  · exact hCheck
  · exact absurd hGenuine hNot

/-
  The whole packet is there, as far as the byte order tells
  where it ends.
-/
def X11Complete (stream : List UInt8) : Prop :=
  12 ≤ stream.length ∧
    ∀ protoLen dataLen,
      x11FieldLens stream = some (protoLen, dataLen) →
      12 + pad4 protoLen + pad4 dataLen ≤ stream.length

/- A packet that is not complete is waited for. -/
theorem x11CheckPacket_incomplete
    (hNot : ¬ X11Complete output) :
    x11CheckPacket auth output = .ok .incomplete := by
  unfold x11CheckPacket
  by_cases hFixed : output.length < 12
  · exact if_pos hFixed
  · rw [if_neg hFixed, x11Lengths_eq_ok (by omega),
      FallibleRun.ok_bind]
    cases hLens : x11FieldLens output with
    | none =>
        exact absurd ⟨by omega, by simp [hLens]⟩ hNot
    | some lens =>
        rcases lens with ⟨protoLen, dataLen⟩
        have hBounds := x11FieldLens_lt hLens
        simp only
        rw [roundUp4_eq_pad4 hBounds.1,
          roundUp4_eq_pad4 hBounds.2]
        apply if_pos
        by_contra hComplete
        apply hNot
        refine ⟨by omega, ?_⟩
        intro protoLen' dataLen' hLens'
        rw [hLens] at hLens'
        cases hLens'
        omega

/- A complete packet with another cookie is rejected. -/
theorem x11CheckPacket_rejected
    (hComplete : X11Complete output)
    (hNot : ¬ auth.Genuine output) :
    x11CheckPacket auth output = .ok .rejected := by
  rcases hComplete with ⟨hFixed, hComplete⟩
  rw [x11CheckPacket, if_neg (by omega),
    x11Lengths_eq_ok hFixed, FallibleRun.ok_bind]
  cases hLens : x11FieldLens output with
  | none => rfl
  | some lens =>
      rcases lens with ⟨protoLen, dataLen⟩
      have hBounds := x11FieldLens_lt hLens
      have hLen := hComplete protoLen dataLen hLens
      simp only
      rw [roundUp4_eq_pad4 hBounds.1,
        roundUp4_eq_pad4 hBounds.2, if_neg (by omega)]
      rcases x11CheckFields_eq_ok hLens hLen with
        ⟨hGenuine, -⟩ | ⟨-, hCheck⟩
      · exact absurd hGenuine hNot
      · exact hCheck

/- Any other one is not complete yet, or it is rejected. -/
theorem x11CheckPacket_not_genuine
    (hNot : ¬ auth.Genuine output) :
    x11CheckPacket auth output = .ok .incomplete ∨
      x11CheckPacket auth output = .ok .rejected := by
  by_cases hComplete : X11Complete output
  · exact .inr (x11CheckPacket_rejected hComplete hNot)
  · exact .inl (x11CheckPacket_incomplete hComplete)

/- The check never fails, and never leaves the buffer. -/
theorem x11CheckPacket_total
    (auth : X11Auth)
    (output : Buffer) :
    ∃ verdict, x11CheckPacket auth output = .ok verdict := by
  by_cases hGenuine : auth.Genuine output
  · exact ⟨_, x11CheckPacket_genuine hGenuine⟩
  · rcases x11CheckPacket_not_genuine hGenuine with
      hCheck | hCheck
    · exact ⟨_, hCheck⟩
    · exact ⟨_, hCheck⟩

/- Nothing is decided about an empty buffer. -/
theorem x11CheckPacket_nil
    (auth : X11Auth) :
    x11CheckPacket auth [] = .ok .incomplete := rfl

/- What is accepted is genuine, and has the real data. -/
theorem genuine_of_accepted
    {result : Buffer}
    (hCheck :
      x11CheckPacket auth output = .ok (.accepted result)) :
    auth.Genuine output ∧ result = auth.substituted output := by
  by_cases hGenuine : auth.Genuine output
  · rw [x11CheckPacket_genuine hGenuine] at hCheck
    cases hCheck
    exact ⟨hGenuine, rfl⟩
  · rcases x11CheckPacket_not_genuine hGenuine with
      hNone | hNone
    · rw [hNone] at hCheck
      cases hCheck
    · rw [hNone] at hCheck
      cases hCheck

end Ssh1

------------------------------------------------------------
-- Streams That Go On
------------------------------------------------------------

namespace Ssh1

variable {auth : X11Auth}
variable {stream : List UInt8}

/- More data leaves the bytes before it. -/
theorem byteAt_append
    {k : Nat}
    (hLen : k < stream.length)
    (more : List UInt8) :
    byteAt (stream ++ more) k = byteAt stream k := by
  unfold byteAt
  rw [List.getD_append _ _ _ _ hLen]

/- The lengths are in the first twelve bytes. -/
theorem x11FieldLens_append
    (hFixed : 12 ≤ stream.length)
    (more : List UInt8) :
    x11FieldLens (stream ++ more) = x11FieldLens stream := by
  simp only [x11FieldLens,
    byteAt_append (show 0 < stream.length by omega) more,
    byteAt_append (show 6 < stream.length by omega) more,
    byteAt_append (show 7 < stream.length by omega) more,
    byteAt_append (show 8 < stream.length by omega) more,
    byteAt_append (show 9 < stream.length by omega) more]

/- A field inside the stream is not moved by what follows. -/
theorem field_append
    {offset len : Nat}
    (hLen : offset + len ≤ stream.length)
    (more : List UInt8) :
    ((stream ++ more).drop offset).take len =
      (stream.drop offset).take len := by
  have hField : len ≤ (stream.drop offset).length := by
    rw [List.length_drop]
    omega
  rw [List.drop_append_of_le_length (by omega),
    List.take_append_of_le_length hField]

namespace X11Auth

/- The cookie lies within the packet. -/
theorem Genuine.data_le
    (hGenuine : auth.Genuine stream) :
    auth.dataOffset + auth.savedData.length ≤
      stream.length := by
  have hComplete := hGenuine.complete
  have hPad := le_pad4 auth.fakeData.length
  have hLength := auth.length_eq
  omega

/- A genuine first packet remains one. -/
theorem Genuine.append
    (hGenuine : auth.Genuine stream)
    (more : List UInt8) :
    auth.Genuine (stream ++ more) := by
  have hData := hGenuine.data_le
  have hLength := auth.length_eq
  have hName := le_pad4 auth.savedProto.length
  have hOffset :
      auth.dataOffset =
        12 + pad4 auth.savedProto.length := rfl
  refine ⟨?_, ?_, ?_, ?_⟩
  · rw [x11FieldLens_append (by omega)]
    exact hGenuine.lens
  · have hComplete := hGenuine.complete
    rw [List.length_append]
    omega
  · rw [field_append (by omega)]
    exact hGenuine.proto
  · rw [field_append (by omega)]
    exact hGenuine.data

/- Only the first packet is touched. -/
theorem substituted_append
    (hData :
      auth.dataOffset + auth.savedData.length ≤
        stream.length)
    (more : List UInt8) :
    auth.substituted (stream ++ more) =
      auth.substituted stream ++ more := by
  unfold substituted
  rw [List.take_append_of_le_length (by omega),
    List.drop_append_of_le_length hData]
  simp only [List.append_assoc]

/- The real cookie is as long as the other. -/
theorem length_substituted
    (hData :
      auth.dataOffset + auth.savedData.length ≤
        stream.length) :
    (auth.substituted stream).length = stream.length := by
  simp only [substituted, List.length_append,
    List.length_take, List.length_drop]
  omega

end X11Auth

end Ssh1
