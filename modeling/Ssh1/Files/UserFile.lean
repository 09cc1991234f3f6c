import Ssh1.Base.Buffer

/-
  Files that are read and written as a user.

  A file is either open in the process itself, or in a child
  that runs as the user and is asked through a pipe. What was
  read ahead lies in a buffer of the handle.

  Main declarations:
    * `OpenFile`, `Descriptors`
    * `userfileChildTurn`, `userfileCall`
    * `UserFile`, `UserFile.fill`, `UserFile.getc`
    * `UserFile.write`, `UserFile.lseek`
    * `UserFile.step`
-/

------------------------------------------------------------
-- Open Files
------------------------------------------------------------

namespace Ssh1

/- A file, and the position of a descriptor in it. -/
structure OpenFile where
  content : List UInt8
  pos : Nat
  deriving DecidableEq

namespace OpenFile

/- The bytes from the position on, up to so many. -/
def next
    (file : OpenFile)
    (n : Nat) : List UInt8 :=
  (file.content.drop file.pos).take n

/- The position moves on. -/
def advance
    (file : OpenFile)
    (n : Nat) : OpenFile :=
  { file with pos := file.pos + n }

/- A hole before the position is filled with zeros. -/
def write
    (file : OpenFile)
    (data : List UInt8) : OpenFile :=
  if data = [] then
    file
  else
    { content :=
        (file.content ++
            List.replicate
              (file.pos - file.content.length) 0).take
          file.pos ++
        data ++
        file.content.drop (file.pos + data.length)
      pos := file.pos + data.length }

/- Where `lseek` leads, if `whence` is one of three. -/
def target
    (file : OpenFile)
    (offset whence : Int) : Option Int :=
  if whence = 0 then
    some offset
  else if whence = 1 then
    some (file.pos + offset)
  else if whence = 2 then
    some (file.content.length + offset)
  else
    none

/- `lseek`: a position that is out of range is refused. -/
def lseek
    (file : OpenFile)
    (offset whence : Int) : Int × OpenFile :=
  match file.target offset whence with
  | none => (-1, file)
  | some pos =>
      if 0 ≤ pos ∧ pos < 2 ^ 63 then
        (pos, { file with pos := pos.toNat })
      else
        (-1, file)

end OpenFile

/- The open files of a process, and its reads so far. -/
structure Descriptors where
  files : Nat → Option OpenFile
  reads : Nat

namespace Descriptors

/- The file under a handle is replaced. -/
def put
    (fds : Descriptors)
    (handle : Nat)
    (file : OpenFile) : Descriptors :=
  { fds with
    files := fun i =>
      if i = handle then some file else fds.files i }

/-
  Reads at most `count` bytes, and as few as `short` says, but
  none only at the end of the file.
-/
def read
    (short : Nat → Nat)
    (fds : Descriptors)
    (handle count : Nat) :
    Option (List UInt8) × Descriptors :=
  let later := { fds with reads := fds.reads + 1 }
  match fds.files handle with
  | none => (none, later)
  | some file =>
      let data :=
        file.next (min count (max 1 (short fds.reads)))
      (some data, later.put handle (file.advance data.length))

/- `write` to a handle: a closed one fails. -/
def write
    (fds : Descriptors)
    (handle : Nat)
    (data : List UInt8) : Int × Descriptors :=
  match fds.files handle with
  | none => (-1, fds)
  | some file =>
      (data.length, fds.put handle (file.write data))

/- `lseek` of a handle: a closed one fails. -/
def lseek
    (fds : Descriptors)
    (handle : Nat)
    (offset whence : Int) : Int × Descriptors :=
  match fds.files handle with
  | none => (-1, fds)
  | some file =>
      let (pos, file) := file.lseek offset whence
      (pos, fds.put handle file)

end Descriptors

end Ssh1

------------------------------------------------------------
-- The Child
------------------------------------------------------------

namespace Ssh1

/- `USERFILE_READ`. -/
def userfileReadRequest : UInt8 := 3

/- `USERFILE_READ_REPLY`. -/
def userfileReadReply : UInt8 := 4

/- `USERFILE_WRITE`. -/
def userfileWriteRequest : UInt8 := 5

/- `USERFILE_WRITE_REPLY`. -/
def userfileWriteReply : UInt8 := 6

/- `USERFILE_LSEEK`. -/
def userfileLseekRequest : UInt8 := 9

/- `USERFILE_LSEEK_REPLY`. -/
def userfileLseekReply : UInt8 := 10

/- A value as an `int`. -/
def asInt (n : Int) : Int :=
  (BitVec.ofInt 32 n).toInt

/- A value as an `unsigned int`. -/
def asUnsigned (n : Int) : Nat :=
  (BitVec.ofInt 32 n).toNat

/- What goes through the pipe for a packet. -/
def userfilePacket
    (type : UInt8)
    (body : Buffer) : List UInt8 :=
  put32Bit (body.length + 1) ++ type :: body

/- The type of the next packet, and the rest of it. -/
def userfileReadRaw
    (pipe : List UInt8) : Outcome (UInt8 × Buffer) := do
  let (len, pipe) ← bufferGetInt pipe
  if len > 32000 then
    .error (.fatal
      "userfile_read_raw: received packet too long.")
  else
    let (packet, _) ← bufferGet pipe len
    bufferGetChar packet

/- One turn of `userfile_child_server`: the reply. -/
def userfileChildTurn
    (short : Nat → Nat)
    (fds : Descriptors)
    (pipe : List UInt8) :
    Outcome (List UInt8 × Descriptors) := do
  let (type, packet) ← userfileReadRaw pipe
  if type = userfileReadRequest then
    let (handle, packet) ← bufferGetInt packet
    let (maxBytes, _) ← bufferGetInt packet
    let (data, fds) := fds.read short handle (min maxBytes 8192)
    return (userfilePacket userfileReadReply
      (bufferPutString [] (data.getD [])), fds)
  else if type = userfileWriteRequest then
    let (handle, packet) ← bufferGetInt packet
    let (data, _) ← bufferGetString packet
    let (ret, fds) := fds.write handle data
    return (userfilePacket userfileWriteReply
      (bufferPutInt [] (asUnsigned (asInt ret))), fds)
  else if type = userfileLseekRequest then
    let (handle, packet) ← bufferGetInt packet
    let (offset, packet) ← bufferGetInt packet
    let (whence, _) ← bufferGetInt packet
    let (ret, fds) := fds.lseek handle offset (asInt whence)
    return (userfilePacket userfileLseekReply
      (bufferPutInt [] (asUnsigned (asInt ret))), fds)
  else
    .error (.fatal ("userfile_child_server: packet type " ++
      toString type.toNat))

/- Sends a packet to the child, and reads its reply. -/
def userfileCall
    (short : Nat → Nat)
    (fds : Descriptors)
    (type : UInt8)
    (body : Buffer)
    (expectedType : UInt8) :
    Outcome (Buffer × Descriptors) := do
  let (pipe, fds) ←
    userfileChildTurn short fds (userfilePacket type body)
  let (type, packet) ← userfileReadRaw pipe
  if type = expectedType then
    return (packet, fds)
  else
    .error (.fatal
      ("userfile_read_packet: unexpected packet type: got " ++
        toString type.toNat ++ ", expected " ++
        toString expectedType.toNat))

end Ssh1

------------------------------------------------------------
-- User Files
------------------------------------------------------------

namespace Ssh1

/- Whether the file is in this process or in the other one. -/
inductive UserFileType where
  | userfileLocal
  | userfileRemote
  deriving DecidableEq

/- `struct UserFile`, with the process behind it. -/
structure UserFile where
  type : UserFileType
  handle : Nat
  -- `buf`, from `buf_first` up to `buf_last`
  unread : List UInt8
  -- of the process that has the file open
  fds : Descriptors

/- A handle with nothing read ahead. -/
def userfileMakeHandle
    (type : UserFileType)
    (handle : Nat)
    (fds : Descriptors) : UserFile :=
  ⟨type, handle, [], fds⟩

namespace UserFile

variable (short : Nat → Nat)

/- Gets more data; false where there is none. -/
def fill
    (uf : UserFile) : Outcome (Bool × UserFile) :=
  if uf.unread ≠ [] then
    .error (.fatal "userfile_fill: buffer not empty")
  else
    match uf.type with
    | .userfileLocal =>
        let (data, fds) := uf.fds.read short uf.handle 512
        if data.getD [] = [] then
          .ok (false, { uf with fds })
        else
          .ok (true, { uf with unread := data.getD [], fds })
    | .userfileRemote => do
        let (packet, fds) ← userfileCall short uf.fds
          userfileReadRequest
          (bufferPutInt (bufferPutInt [] uf.handle) 512)
          userfileReadReply
        let (data, _) ← bufferGetString packet
        if data.length > 512 then
          .error (.fatal
            "userfile_fill: got more than data than requested")
        else if data = [] then
          return (false, { uf with fds })
        else
          return (true, { uf with unread := data, fds })

/- The next character, or none where the source has -1. -/
def getc
    (uf : UserFile) : Outcome (Option UInt8 × UserFile) :=
  match uf.unread with
  | ch :: unread => .ok (some ch, { uf with unread })
  | [] => do
      let (more, uf) ← fill short uf
      if more then
        match uf.unread with
        | ch :: unread => return (some ch, { uf with unread })
        | [] => .error (.fatal "userfile_getc/fill error")
      else
        return (none, uf)

/- The loop of `userfile_read`, for so many characters. -/
def read :
    (len : Nat) → UserFile →
    Outcome (List UInt8 × UserFile)
| 0, uf => .ok ([], uf)
| len + 1, uf => do
    let (ch, uf) ← getc short uf
    match ch with
    | none => return ([], uf)
    | some ch =>
        let (data, uf) ← read len uf
        return (ch :: data, uf)

/- The loop of `userfile_gets`. -/
def getsLoop :
    (room : Nat) → UserFile →
    Outcome (List UInt8 × UserFile)
| 0, uf => .ok ([], uf)
| room + 1, uf => do
    let (ch, uf) ← getc short uf
    match ch with
    | none => return ([], uf)
    | some ch =>
        if ch = 10 then
          return ([ch], uf)
        else
          let (data, uf) ← getsLoop room uf
          return (ch :: data, uf)

/- `userfile_gets`: no byte at all gives `NULL`. -/
def gets
    (size : UInt32)
    (uf : UserFile) :
    Outcome (Option (List UInt8) × UserFile) := do
  let (data, uf) ← getsLoop short (size - 1).toNat uf
  return (if data = [] then none else some data, uf)

/- The loop of the remote variant, after `offset` bytes. -/
def writeLoop :
    (turns offset : Nat) → List UInt8 → UserFile →
    Outcome (Int × UserFile)
| 0, _, _, _ => .error .diverges
| turns + 1, offset, data, uf =>
    if data = [] then
      .ok (asInt offset, uf)
    else do
      let chunk := data.take 16000
      let (packet, fds) ← userfileCall short uf.fds
        userfileWriteRequest
        (bufferPutString (bufferPutInt [] uf.handle) chunk)
        userfileWriteReply
      let (reply, _) ← bufferGetInt packet
      let ret := asInt reply
      let uf := { uf with fds }
      if ret < 0 then
        return (-1, uf)
      else if ret ≠ chunk.length then
        return (asInt (offset + ret), uf)
      else
        writeLoop turns (offset + chunk.length)
          (data.drop 16000) uf

/- `userfile_write`. -/
def write
    (data : List UInt8)
    (uf : UserFile) : Outcome (Int × UserFile) :=
  match uf.type with
  | .userfileLocal =>
      let (ret, fds) := uf.fds.write uf.handle data
      .ok (asInt ret, { uf with fds })
  | .userfileRemote =>
      writeLoop short (data.length + 1) 0 data uf

/- `userfile_lseek`. -/
def lseek
    (offset whence : Int)
    (uf : UserFile) : Outcome (Int × UserFile) :=
  match uf.type with
  | .userfileLocal =>
      let (pos, fds) := uf.fds.lseek uf.handle offset whence
      .ok (pos, { uf with fds })
  | .userfileRemote => do
      let (packet, fds) ← userfileCall short uf.fds
        userfileLseekRequest
        (bufferPutInt
          (bufferPutInt
            (bufferPutInt [] uf.handle) (asUnsigned offset))
          (asUnsigned whence))
        userfileLseekReply
      let (pos, _) ← bufferGetInt packet
      return (pos, { uf with fds })

end UserFile

end Ssh1

------------------------------------------------------------
-- Calls
------------------------------------------------------------

namespace Ssh1

/- The calls that a program makes on a user file. -/
inductive UserFileCall where
  | read (len : UInt32)
  | getc
  | gets (size : UInt32)
  | write (data : List UInt8)
  | lseek (offset whence : Int)
  deriving DecidableEq

/- What such a call returns. -/
inductive UserFileAnswer where
  | data (data : List UInt8)
  | char (ch : Option UInt8)
  | line (line : Option (List UInt8))
  | count (n : Int)
  | position (pos : Int)
  deriving DecidableEq

/- One call of a handle. -/
def UserFile.step
    (short : Nat → Nat)
    (uf : UserFile) :
    UserFileCall → Outcome (UserFileAnswer × UserFile)
| .read len => do
    let (data, uf) ← uf.read short len.toNat
    return (.data data, uf)
| .getc => do
    let (ch, uf) ← uf.getc short
    return (.char ch, uf)
| .gets size => do
    let (line, uf) ← uf.gets short size
    return (.line line, uf)
| .write data => do
    let (n, uf) ← uf.write short data
    return (.count n, uf)
| .lseek offset whence => do
    let (pos, uf) ← uf.lseek short offset whence
    return (.position pos, uf)

end Ssh1
