import Ssh1.Scp.Peer

/-
  The end of `scp` that receives files.

  The peer sends control records, line by line, and the bytes
  of a file after the record of it. A directory is entered:
  its records come before the one that leaves it.

  Main declarations:
    * `Scp.control`
    * `Scp.receive`, `Scp.sinkFile`
    * `Scp.sinkLoop`, `Scp.sink`
-/

------------------------------------------------------------
-- Control Records
------------------------------------------------------------

namespace Ssh1

namespace Scp

/- The times of modification and of access. -/
structure Times where
  modtime : Nat
  actime : Nat
  deriving DecidableEq

/- What a control record asks for. -/
inductive Control where
  -- an error message of the peer
  | message (fatal : Bool)
  | leave
  | times (times : Times)
  | copy
      (isDir : Bool)
      (mode : UInt32)
      (size : Int)
      (name : List UInt8)
  | screwup (why : String)
  -- not a control record
  | unexpected
  deriving DecidableEq

/- `isdigit`. -/
def isDigit (ch : UInt8) : Bool :=
  48 ≤ ch && ch ≤ 57

/- The number at the start of a line, and the rest. -/
def getnum (line : List UInt8) : Nat × List UInt8 :=
  ((line.takeWhile isDigit).foldl
      (fun n ch => n * 10 + (ch.toNat - 48)) 0,
    line.dropWhile isDigit)

/- The rest after a blank. -/
def delimited
    (why : String) :
    List UInt8 → Except String (List UInt8)
| 32 :: line => .ok line
| _ => .error why

/- The line after the letter of a time record. -/
def parseTimes
    (line : List UInt8) : Except String Times := do
  let (modtime, line) := getnum line
  let line ← delimited "mtime.sec not delimited" line
  let (_, line) := getnum line
  let line ← delimited "mtime.usec not delimited" line
  let (actime, line) := getnum line
  let line ← delimited "atime.sec not delimited" line
  let (_, line) := getnum line
  if line = [] then
    return ⟨modtime, actime⟩
  else
    .error "atime.usec not delimited"

/- So many octal digits of a mode. -/
def parseMode :
    (digits : Nat) → UInt32 → List UInt8 →
    Except String (UInt32 × List UInt8)
| 0, mode, line => .ok (mode, line)
| digits + 1, mode, line =>
    match line with
    | [] => .error "bad mode"
    | ch :: line =>
        if ch < 48 ∨ ch > 55 then
          .error "bad mode"
        else
          parseMode digits
            (mode <<< 3 ||| (ch - 48).toUInt32) line

/- A number as an `off_t` of 64 bits. -/
def toOffT (n : Nat) : Int :=
  (BitVec.ofNat 64 n).toInt

/- The line after the letter of a file or a directory. -/
def parseCopy
    (isDir : Bool)
    (line : List UInt8) : Except String Control := do
  let (mode, line) ← parseMode 4 0 line
  let line ← delimited "mode not delimited" line
  let (size, line) := getnum line
  let name ← delimited "size not delimited" line
  return .copy isDir mode (toOffT size) name

/- What a record says, or why it says nothing. -/
def orScrewup : Except String Control → Control
| .ok record => record
| .error why => .screwup why

/-
  The record in a line, without its newline. From the letter
  on, the line ends at a zero byte.
-/
def control : List UInt8 → Control
| [] => .unexpected
| ch :: line =>
    if ch = 1 ∨ ch = 2 then
      .message (ch = 2)
    else if ch = 69 then
      .leave
    else if ch = 84 then
      orScrewup ((parseTimes (cString line)).map .times)
    else if ch = 67 ∨ ch = 68 then
      orScrewup (parseCopy (ch = 68) (cString line))
    else
      .unexpected

end Scp

end Ssh1

------------------------------------------------------------
-- File Contents
------------------------------------------------------------

namespace Ssh1

namespace Scp

open Recorded

variable (sys : ScpSystem)

/- `wrerr`, with `wrerrno` -/
inductive WriteError where
  | no
  | yes (errno : Errno)
  | displayed
  deriving DecidableEq

/- A file that is open for writing. -/
structure TargetFile where
  content : List UInt8
  pos : Nat
  wrerr : WriteError
  deriving DecidableEq

/- Some of the bytes that the peer has sent, up to `amt`. -/
def readSocket (amt : Nat) : Scp (List UInt8) := do
  let cut ← ask sys.arrived
  let s ← get
  let data := s.input.take (min amt (max 1 cut))
  if data = [] then
    runErr (asciiBytes "dropped connection")
    exit
  else
    modify fun s => { s with input := s.input.drop data.length }
    return data

/- Reads `amt` bytes into the buffer, in so many turns. -/
def readInto :
    (turns off amt : Nat) → Scp Unit
| 0, _, _ => stop .diverges
| turns + 1, off, amt => do
    let data ← readSocket sys amt
    storeAt off data
    if data.length < amt then
      readInto turns (off + data.length) (amt - data.length)
    else
      return ()

/- A write to the target file, after the ones before. -/
def writeFile
    (count : Nat)
    (file : TargetFile) : Scp TargetFile := do
  let data ← loadBytes count
  match ← ask fun calls => sys.written calls count with
  | .error errno =>
      return { file with wrerr := .yes errno }
  | .ok written =>
      let data := data.take written
      let file := { file with
        content := overwrite file.content file.pos data
        pos := file.pos + data.length }
      if data.length = count then
        return file
      else
        return { file with wrerr := .yes eio }

/- Nothing is written after an error. -/
def flushBuffer
    (count : Nat)
    (file : TargetFile) : Scp TargetFile :=
  if file.wrerr = .no then
    writeFile sys count file
  else
    return file

/-
  The loop over pieces of 4096 bytes, where so many bytes are
  left and `count` of them lie in the buffer.
-/
def receive :
    (turns left count : Nat) → TargetFile → Scp TargetFile
| 0, _, _, _ => stop .diverges
| turns + 1, left, count, file => do
    if left = 0 then
      if count ≠ 0 then
        flushBuffer sys count file
      else
        return file
    else
      let amt := min 4096 left
      readInto sys amt count amt
      let s ← get
      if count + amt = s.buffer.length then
        let file ← flushBuffer sys (count + amt) file
        receive turns (left - amt) 0 file
      else
        receive turns (left - amt) (count + amt) file

/- `ftruncate` to the size that was announced. -/
def truncateFile
    (np : FilePath)
    (size : Nat)
    (file : TargetFile) : Scp TargetFile := do
  match ← ask sys.ftruncate with
  | some errno =>
      runErr (np ++ asciiBytes ": truncate: " ++
        sys.strerror errno)
      return { file with wrerr := .displayed }
  | none =>
      return { file with
        content := file.content.take size ++
          List.replicate (size - file.content.length) 0 }

end Scp

end Ssh1

------------------------------------------------------------
-- Files and Directories
------------------------------------------------------------

namespace Ssh1

namespace Scp

open Recorded

/- The flags of the command line, and the mask of modes. -/
structure ScpOptions where
  pflag : Bool
  targetshouldbedirectory : Bool
  mask : UInt32

/- scp without `-p` and without `-d`, under mask 022. -/
def plainOptions : ScpOptions where
  pflag := false
  targetshouldbedirectory := false
  mask := 0o22

variable (sys : ScpSystem)
variable (options : ScpOptions)

/- `S_IRWXU`. -/
def ownerAll : UInt32 := 0o700

/- `S_IWUSR`. -/
def ownerWrite : UInt32 := 0o200

/- `chmod` after the file was received, if there is need. -/
def setMode
    (np : FilePath)
    (found : Bool)
    (omode mode : UInt32) : Scp Unit := do
  let omode' :=
    if options.pflag then omode else omode &&& ~~~options.mask
  if options.pflag ∧ (found ∨ omode ≠ mode) ∨
      ¬ options.pflag ∧ ¬ found ∧ omode ≠ mode then
    match ← fileAct sys (.chmod omode') np with
    | some errno =>
        runErr (np ++ asciiBytes ": set mode: " ++
          sys.strerror errno)
    | none => return ()
  else
    return ()

/- `utime` on the new file, and the error if it fails. -/
def setTimes
    (np : FilePath)
    (times : Times) : Scp Bool := do
  match ← fileAct sys (.utime times.modtime times.actime)
      np with
  | some errno =>
      runErr (np ++ asciiBytes ": set times: " ++
        sys.strerror errno)
      return false
  | none => return true

/- The answer to a file, and the times that are still set. -/
def answerFile
    (np : FilePath)
    (times : Option Times)
    (wrerr : WriteError) : Scp (Option Times) := do
  match wrerr with
  | .displayed => return times
  | .yes errno =>
      runErr (errorText sys np errno)
      return times
  | .no =>
      match times with
      | none =>
          send [0]
          return none
      | some t =>
          if ← setTimes sys np t then
            send [0]
          return none

/- From the bytes of a file to the answer to it. -/
def receiveFile
    (np : FilePath)
    (found : Bool)
    (omode mode : UInt32)
    (size : Nat)
    (times : Option Times)
    (old : List UInt8) : Scp (Option Times) := do
  let file ← receive sys (size + 1) size 0 ⟨old, 0, .no⟩
  let file ← truncateFile sys np size file
  setMode sys options np found omode mode
  record (.stored np file.content)
  let _ ← response
  answerFile sys np times file.wrerr

/- The case of a file, with the size that was announced. -/
def sinkFile
    (np : FilePath)
    (found : Bool)
    (omode : UInt32)
    (size : Nat)
    (times : Option Times) : Scp (Option Times) := do
  let mode := omode ||| ownerWrite
  match ← fileAct sys (.openWrite mode) np with
  | some errno =>
      runErr (errorText sys np errno)
      return times
  | none =>
      let old ← ask fun calls => sys.content calls np
      send [0]
      if ← allocbuf sys 4096 then
        receiveFile sys options np found omode mode size
          times old
      else
        record (.stored np old)
        return times

/- The records of a directory, between its entry and exit. -/
def insideDir
    (descend : FilePath → Scp Unit)
    (np : FilePath)
    (mode : UInt32)
    (modFlag : Bool)
    (times : Option Times) : Scp (Option Times) := do
  descend np
  if let some t := times then
    let _ ← setTimes sys np t
  if modFlag then
    let _ ← fileAct sys (.chmod mode) np
  return none

/- The case of a directory, and how it is entered. -/
def sinkDir
    (descend : FilePath → Scp Unit)
    (np : FilePath)
    (found : Except Errno Bool)
    (mode : UInt32)
    (times : Option Times) : Scp (Option Times) := do
  match found with
  | .ok true =>
      if options.pflag then
        let _ ← fileAct sys (.chmod mode) np
      insideDir sys descend np mode options.pflag times
  | .ok false =>
      runErr (errorText sys np enotdir)
      return times
  | .error _ =>
      match ← fileAct sys (.mkdir (mode ||| ownerAll)) np with
      | some errno =>
          runErr (errorText sys np errno)
          return times
      | none => insideDir sys descend np mode true times

end Scp

end Ssh1

------------------------------------------------------------
-- The Sink
------------------------------------------------------------

namespace Ssh1

namespace Scp

open Recorded

variable (sys : ScpSystem)
variable (options : ScpOptions)

/- A target, and whether it is a directory. -/
structure Target where
  targ : FilePath
  targisdir : Bool

/- `SCREWUP` -/
def screwup {α : Type} (why : String) : Scp α := do
  runErr (asciiBytes "protocol error: " ++ asciiBytes why)
  exit

/- The line, as far as it has room in `buf`. -/
def readLine :
    (room : Nat) → List UInt8 → Scp (List UInt8)
| 0, line => return line
| room + 1, line => do
    match ← readByte with
    | none => screwup "lost connection"
    | some ch =>
        if ch = 10 then
          return line
        else
          readLine room (line ++ [ch])

/- `namebuf` -/
def childPath
    (targ name : List UInt8) : FilePath :=
  targ ++ (if targ = [] then [] else [47]) ++ name

/- `stat`: whether the path is a directory. -/
def statPath (path : FilePath) : Scp (Except Errno Bool) := do
  record (.act .stat path)
  ask fun calls => sys.stat calls path

/- `verifydir`: a target that must be a directory. -/
def verifydir (path : FilePath) : Scp Unit := do
  match ← statPath sys path with
  | .ok true => return ()
  | .ok false =>
      runErr (errorText sys path enotdir)
      exit
  | .error errno =>
      runErr (errorText sys path errno)
      exit

/-
  One turn of the loop. The sink goes on with times that are
  still to be set, or it leaves.
-/
inductive Turn where
  | again (times : Option Times)
  | leave

/- A file or a directory, in or at the target. -/
def sinkCopy
    (descend : FilePath → Scp Unit)
    (target : Target)
    (times : Option Times)
    (isDir : Bool)
    (mode : UInt32)
    (size : Int)
    (name : List UInt8) : Scp Turn := do
  record (.named name)
  let np :=
    if target.targisdir then childPath target.targ name
    else target.targ
  let found ← statPath sys np
  let times ←
    if isDir then
      sinkDir sys options descend np found mode times
    else
      sinkFile sys options np found.isOk mode size.toNat times
  return .again times

/- What `sink` does with one control record. -/
def sinkRecord
    (descend : FilePath → Scp Unit)
    (target : Target)
    (first : Bool)
    (times : Option Times)
    (line : List UInt8) : Scp Turn :=
  match control line with
  | .message true => exit
  | .message false => do
      modify fun s => { s with errs := s.errs + 1 }
      return .again times
  | .leave => do
      send [0]
      return .leave
  | .times times => do
      send [0]
      return .again (some times)
  | .screwup why => screwup why
  | .unexpected =>
      -- "No match." may come from a shell before `scp` runs
      if first then do
        runErr (cString line)
        exit
      else
        screwup "expected control record"
  | .copy isDir mode size name =>
      sinkCopy sys options descend target times
        isDir mode size name

/- One turn of the loop of `sink`. -/
def sinkTurn
    (descend : FilePath → Scp Unit)
    (target : Target)
    (first : Bool)
    (times : Option Times) : Scp Turn := do
  match ← readByte with
  | none => return .leave
  | some ch =>
      if ch = 10 then
        screwup "unexpected <newline>"
      else
        let line ← readLine 2046 [ch]
        sinkRecord sys options descend target first times line

/- The start of `sink` for a target. -/
def enterTarget
    (loop : Target → Scp Unit)
    (targ : FilePath) : Scp Unit := do
  record (.act .enter targ)
  if options.targetshouldbedirectory then
    verifydir sys targ
  send [0]
  let found ← statPath sys targ
  loop ⟨targ, match found with
    | .ok isDir => isDir
    | .error _ => false⟩

/- The loop of `sink`, for so many turns. -/
def sinkLoop :
    (turns : Nat) → Bool → Option Times → Target → Scp Unit
| 0, _, _, _ => stop .diverges
| turns + 1, first, times, target => do
    match ← sinkTurn sys options
        (enterTarget sys options (sinkLoop turns true none))
        target first times with
    | .leave => return ()
    | .again times => sinkLoop turns false times target

/- Every turn takes a byte of what the peer sends. -/
def sink (targ : FilePath) : Scp Unit := do
  let s ← get
  enterTarget sys options
    (sinkLoop sys options (s.input.length + 1) true none) targ

end Scp

end Ssh1
