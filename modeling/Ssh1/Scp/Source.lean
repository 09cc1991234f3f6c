import Ssh1.Scp.Peer

/-
  The end of `scp` that sends files.

  The record of a file announces its size. After an answer
  the bytes follow, and then a record that tells whether they
  are those of the file.

  Main declarations:
    * `Scp.fileRecord`
    * `Scp.sendLoop`, `Scp.sendFile`
    * `Scp.sourceFile`
-/

------------------------------------------------------------
-- Announcements
------------------------------------------------------------

namespace Ssh1

namespace Scp

/- What `fstat` says of a regular file. -/
structure FileStat where
  mode : UInt32
  size : Nat
  mtime : Nat
  atime : Nat

/- `FILEMODEMASK`: the bits of a mode that are sent. -/
def filemodemask : UInt32 := 0o7777

/- The digits of a number, at least so many of them. -/
def digitText
    (base width n : Nat) : List UInt8 :=
  let digits := asciiBytes (String.ofList (Nat.toDigits base n))
  List.replicate (width - digits.length) 48 ++ digits

/- What `snprintf` leaves of a text in `buf`. -/
def inBuf (text : List UInt8) : List UInt8 :=
  text.take 2047

/- The name after the last slash. -/
def lastComponent (name : FilePath) : List UInt8 :=
  (name.reverse.takeWhile (· ≠ 47)).reverse

/- The `T` record of a file. -/
def timesRecord (stb : FileStat) : List UInt8 :=
  inBuf (asciiBytes "T" ++ digitText 10 1 stb.mtime ++
    asciiBytes " 0 " ++ digitText 10 1 stb.atime ++
    asciiBytes " 0\n")

/- The `C` record of a file, with the last part of its name. -/
def fileRecord
    (name : FilePath)
    (stb : FileStat) : List UInt8 :=
  inBuf (asciiBytes "C" ++
    digitText 8 4 (stb.mode &&& filemodemask).toNat ++
    asciiBytes " " ++ digitText 10 1 stb.size ++
    asciiBytes " " ++ lastComponent name ++ [10])

end Scp

end Ssh1

------------------------------------------------------------
-- Sending a File
------------------------------------------------------------

namespace Ssh1

namespace Scp

open Recorded

variable (sys : ScpSystem)

/- Reads a piece, unless there was an error before. -/
def readPiece
    (amt : Nat)
    (haderr : Option Errno) : Scp (Option Errno) := do
  match haderr with
  | some errno => return some errno
  | none =>
      match ← ask fun calls => sys.fileRead calls amt with
      | .error errno => return some errno
      | .ok data =>
          let data := data.take amt
          storeAt 0 data
          return if data.length ≠ amt then some eio else none

/-
  The loop over pieces of the size of the buffer, where so
  many bytes are left. After an error it goes on writing what
  the buffer holds.
-/
def sendLoop :
    (turns left : Nat) → Option Errno → Scp (Option Errno)
| 0, _, _ => stop .diverges
| turns + 1, left, haderr => do
    if left = 0 then
      return haderr
    else
      let s ← get
      let amt := min s.buffer.length left
      let haderr ← readPiece sys amt haderr
      let data ← loadBytes amt
      send data
      sendLoop turns (left - s.buffer.length) haderr

/- The bytes of a file, and the record after them. -/
def sendFile
    (name : FilePath)
    (size : Nat) : Scp Bool := do
  if ← allocbuf sys 2048 then
    let haderr ← sendLoop sys (size + 1) size none
    let closed ← ask sys.close
    match haderr.or closed with
    | none => send [0]
    | some errno => runErr (errorText sys name errno)
    return true
  else
    return false

/- A regular file, from its record on. -/
def sourceRecord
    (name : FilePath)
    (stb : FileStat) : Scp Unit := do
  send (fileRecord name stb)
  if ← response then
    if ← sendFile sys name stb.size then
      let _ ← response

/- A regular file that `source` has opened. -/
def sourceFile
    (pflag : Bool)
    (name : FilePath)
    (stb : FileStat) : Scp Unit := do
  if pflag then
    send (timesRecord stb)
    if ← response then
      sourceRecord sys name stb
  else
    sourceRecord sys name stb

end Scp

end Ssh1
