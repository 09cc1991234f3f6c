import Ssh1.Base.Buffer
import Ssh1.Lib.RecordedRun

/-
  What both ends of `scp` are made of.

  An end reads what the other one sends, answers it, and asks
  the system about files. The system answers as it likes: it
  may give a part of what was asked for, or fail.

  Main declarations:
    * `ScpSystem`, `ScpState`, `ScpEvent`
    * `runErr`, `response`
    * `allocbuf`
-/

------------------------------------------------------------
-- Systems and States
------------------------------------------------------------

namespace Ssh1

/- A value of `errno`. -/
abbrev Errno := Nat

/- `EIO`. -/
def eio : Errno := 5

/- `ENOTDIR`. -/
def enotdir : Errno := 20

/- The bytes of a file name. -/
abbrev FilePath := List UInt8

/- What is done to a path. -/
inductive FileAct where
  | stat
  | openWrite (mode : UInt32)
  | mkdir (mode : UInt32)
  | chmod (mode : UInt32)
  | utime (mtime atime : Nat)
  -- a directory becomes the target
  | enter
  deriving DecidableEq

/- The answers of the system to the calls of a process. -/
structure ScpSystem where
  strerror : Errno → List UInt8
  -- whether there is a directory
  stat : Nat → FilePath → Except Errno Bool
  -- an error, if the call fails
  act : Nat → FileAct → FilePath → Option Errno
  -- what the file holds when it is opened for writing
  content : Nat → FilePath → List UInt8
  -- `st_blksize`
  blksize : Nat → Except Errno Nat
  -- how many bytes there are to read from the peer
  arrived : Nat → Nat
  -- what is read from the local file
  fileRead : Nat → Nat → Except Errno (List UInt8)
  -- how many bytes are written to the target file
  written : Nat → Nat → Except Errno Nat
  ftruncate : Nat → Option Errno
  close : Nat → Option Errno

/- A system in which every path is a directory. -/
def Scp.willingSystem : ScpSystem where
  strerror _ := []
  stat _ _ := .ok true
  act _ _ _ := none
  content _ _ := []
  blksize _ := .ok 4096
  arrived _ := 1
  fileRead _ _ := .ok []
  written _ count := .ok count
  ftruncate _ := none
  close _ := none

/- What one side of the copy works on. -/
structure ScpState where
  -- what the peer sends
  input : List UInt8
  -- the calls of the system so far
  calls : Nat
  errs : Nat
  -- the static `buffer`, as long as its `cnt`
  buffer : List UInt8
  deriving DecidableEq

/- What the side does that others can see. -/
inductive ScpEvent where
  | send (data : List UInt8)
  -- the name in a control record
  | named (name : List UInt8)
  | act (act : FileAct) (path : FilePath)
  -- what a file holds when it is closed
  | stored (path : FilePath) (content : List UInt8)
  deriving DecidableEq

/- The ways in which a process ends. -/
inductive ScpEnd where
  | exit
  | outOfBounds
  | diverges
  deriving DecidableEq

/- A piece of scp.c. -/
abbrev Scp (α : Type) := Recorded ScpEvent ScpEnd ScpState α

/- The bytes that were sent. -/
def Scp.sentBytes (events : List ScpEvent) : List UInt8 :=
  events.flatMap fun event =>
    match event with
    | .send data => data
    | _ => []

end Ssh1

------------------------------------------------------------
-- The Peer
------------------------------------------------------------

namespace Ssh1

namespace Scp

open Recorded

variable (sys : ScpSystem)

/- A call of the system. -/
def ask
    {α : Type}
    (answer : Nat → α) : Scp α :=
  ofRuns fun s =>
    ⟨[], .ok (answer s.calls, { s with calls := s.calls + 1 })⟩

/- A call that is about a path. -/
def fileAct
    (act : FileAct)
    (path : FilePath) : Scp (Option Errno) := do
  record (.act act path)
  ask fun calls => sys.act calls act path

/- Bytes to the peer. -/
def send (data : List UInt8) : Scp Unit :=
  record (.send data)

/- One byte, if the peer still sends. -/
def readByte : Scp (Option UInt8) :=
  ofRuns fun s =>
    match s.input with
    | [] => ⟨[], .ok (none, s)⟩
    | ch :: input => ⟨[], .ok (some ch, { s with input })⟩

/- The next byte of the input is taken. -/
theorem readByte_run
    {ch : UInt8}
    {input : List UInt8}
    {s : ScpState}
    (hInput : s.input = ch :: input) :
    readByte s =
      ⟨[], .ok (some ch, { s with input := input })⟩ := by
  rw [readByte, ofRuns_apply, hInput]

/- An error record. -/
def errorRecord (text : List UInt8) : List UInt8 :=
  1 :: (asciiBytes "scp: " ++ text ++ [10])

/- `run_err`: the error is counted and the peer is told. -/
def runErr (text : List UInt8) : Scp Unit := do
  modify fun s => { s with errs := s.errs + 1 }
  send (errorRecord text)

/- The text of an error on a path. -/
def errorText
    (path : FilePath)
    (errno : Errno) : List UInt8 :=
  path ++ asciiBytes ": " ++ sys.strerror errno

/- `exit (1)`. -/
def exit {α : Type} : Scp α :=
  stop .exit

/- The rest of an error message, with room for some of it. -/
def responseText : (room : Nat) → Scp Unit
| 0 => return ()
| room + 1 => do
    match ← readByte with
    | none => exit
    | some ch =>
        if ch = 10 then
          return ()
        else
          responseText room

/- The text after an answer that is not zero. -/
def rbufRoom (resp : UInt8) : Nat :=
  if resp = 1 ∨ resp = 2 then 2047 else 2046

/- Whether the peer is content. -/
def response : Scp Bool := do
  match ← readByte with
  | none => exit
  | some resp =>
      if resp = 0 then
        return true
      else
        responseText (rbufRoom resp)
        modify fun s => { s with errs := s.errs + 1 }
        if resp = 1 then
          return false
        else
          exit

end Scp

end Ssh1

------------------------------------------------------------
-- Buffers
------------------------------------------------------------

namespace Ssh1

namespace Scp

open Recorded

variable (sys : ScpSystem)

/- The size of a buffer for a block size of the file. -/
def allocSize
    (blksize stBlksize : Nat) : Nat :=
  if stBlksize = 0 then
    blksize
  else
    blksize +
      (stBlksize - blksize % stBlksize) % stBlksize

/- A buffer that is large enough stays as it is. -/
def allocbuf (blksize : Nat) : Scp Bool := do
  match ← ask sys.blksize with
  | .error errno =>
      runErr (asciiBytes "fstat: " ++ sys.strerror errno)
      return false
  | .ok stBlksize =>
      let size := allocSize blksize stBlksize
      modify fun s =>
        if s.buffer.length ≥ size then s
        else { s with buffer := List.replicate size 0 }
      return true

/- Bytes over others. -/
def overwrite
    (old : List UInt8)
    (pos : Nat)
    (data : List UInt8) : List UInt8 :=
  old.take pos ++ data ++ old.drop (pos + data.length)

/- Stores bytes at an offset of the buffer. -/
def storeAt
    (off : Nat)
    (data : List UInt8) : Scp Unit :=
  ofRuns fun s =>
    if off + data.length ≤ s.buffer.length then
      ⟨[], .ok ((), { s with
        buffer := overwrite s.buffer off data })⟩
    else
      ⟨[], .error .outOfBounds⟩

/- The first bytes of the buffer. -/
def loadBytes (count : Nat) : Scp (List UInt8) :=
  ofRuns fun s =>
    if count ≤ s.buffer.length then
      ⟨[], .ok (s.buffer.take count, s)⟩
    else
      ⟨[], .error .outOfBounds⟩

end Scp

end Ssh1
