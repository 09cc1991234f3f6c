import Ssh1.Scp.Sink
import Ssh1.Lib.RecordedTriple
import Mathlib.Data.List.TakeWhile

/-
  The paths that a sink touches.

  A sink leaves its target only through the names in the
  records of the peer: it takes each of them as it is. These
  records are lines of what the peer sends.

  Main declarations:
    * `Scp.Inside`, `Scp.IsComponent`
    * `Scp.CarriesName`, `Scp.Received`
    * `Scp.confines`
    * `Scp.sink_inside`
-/

------------------------------------------------------------
-- Paths
------------------------------------------------------------

namespace Ssh1

namespace Scp

open Recorded

/- A name that stays in its directory. -/
def IsComponent (name : List UInt8) : Prop :=
  name ≠ [] ∧ 47 ∉ name ∧ name ≠ [46] ∧ name ≠ [46, 46]

/- The target, and what allowed names lead to from there. -/
inductive Inside
    (allowed : List UInt8 → Prop)
    (targ : FilePath) :
    FilePath → Prop where
  | target : Inside allowed targ targ
  | child
      {dir : FilePath}
      {name : List UInt8}
      (hDir : Inside allowed targ dir)
      (hName : allowed name) :
      Inside allowed targ (childPath dir name)

/- A record of a file or a directory that has the name. -/
def CarriesName (line name : List UInt8) : Prop :=
  ∃ letter mode size tail,
    line = letter :: (mode ++ 32 :: (size ++ 32 :: (name ++ tail))) ∧
      (letter = 67 ∨ letter = 68) ∧
      (mode.length = 4 ∧ ∀ ch ∈ mode, 48 ≤ ch ∧ ch ≤ 55) ∧
      (∀ ch ∈ size, isDigit ch = true) ∧
      0 ∉ name ∧
      -- what follows a zero byte does not count
      (tail = [] ∨ tail.head? = some 0)

/-
  A line of what the peer sends. Without its newline it has
  at most 2047 bytes: a longer one is cut there.
-/
def IsLine (input line : List UInt8) : Prop :=
  10 ∉ line ∧
    ∃ before after,
      input = before ++ (line ++ after) ∧
        (after.head? = some 10 ∨ line.length = 2047)

/- The peer sends a record with the name. -/
def Received (input name : List UInt8) : Prop :=
  ∃ line, IsLine input line ∧ CarriesName line name

/- A name has neither a newline nor a zero byte. -/
theorem Received.notMem
    {input name : List UInt8}
    (hReceived : Received input name) :
    10 ∉ name ∧ 0 ∉ name := by
  rcases hReceived with
    ⟨line, ⟨hNewline, -⟩, letter, mode, size, tail, rfl, -, -,
      -, hZero, -⟩
  refine ⟨fun hMem => hNewline ?_, hZero⟩
  simp [hMem]

variable {input : List UInt8}
variable {allowed : List UInt8 → Prop}
variable {targ : FilePath}

/- What is inside of a part is inside of the whole. -/
theorem Inside.trans
    {dir path : FilePath}
    (hDir : Inside allowed targ dir)
    (hPath : Inside allowed dir path) :
    Inside allowed targ path := by
  induction hPath with
  | target => exact hDir
  | child _ hName ih => exact .child ih hName

/-
  Where names are allowed, paths are inside of the target.
  Each name is one that was received.
-/
def confines
    (input : List UInt8)
    (allowed : List UInt8 → Prop)
    (targ : FilePath) : Rely ScpEvent ScpEnd where
  assumed
  | .named name => allowed name
  | _ => True
  guaranteed
  | .act _ path => Inside allowed targ path
  | .stored path _ => Inside allowed targ path
  | .named name => Received input name
  | .send _ => True
  stops halt := halt ≠ .diverges

/- Fewer bytes than these are left, the last of the input. -/
def Left
    (input : List UInt8)
    (n : Nat)
    (s : ScpState) : Prop :=
  s.input <:+ input ∧ s.input.length < n

/- The computation reads, and stays inside of the target. -/
def Confined
    (input : List UInt8)
    (allowed : List UInt8 → Prop)
    (targ : FilePath)
    (n : Nat)
    {α : Type}
    (m : Scp α) : Prop :=
  (confines input allowed targ).Triple (Left input n) m
    fun _ => Left input n

/- What is confined in a directory is so in the target. -/
theorem Confined.trans
    {α : Type}
    {dir : FilePath}
    {n : Nat}
    {m : Scp α}
    (hDir : Inside allowed targ dir)
    (hConfined : Confined input allowed dir n m) :
    Confined input allowed targ n m := by
  intro s hShort hAssumed
  rcases hConfined s hShort hAssumed with ⟨hEvents, hEnds⟩
  refine ⟨?_, hEnds⟩
  intro event hMem
  have hEvent := hEvents event hMem
  cases event with
  | send data => trivial
  | named name => exact hEvent
  | act act path => exact hDir.trans hEvent
  | stored path content => exact hDir.trans hEvent

end Scp

end Ssh1

------------------------------------------------------------
-- Reading and Answering
------------------------------------------------------------

namespace Ssh1

namespace Scp

open Recorded
open Rely (Triple)

variable {input : List UInt8}
variable {allowed : List UInt8 → Prop}
variable {targ : FilePath}
variable {n : Nat}
variable {sys : ScpSystem}
variable {options : ScpOptions}

/- A value touches no path. -/
theorem confined_pure
    {α : Type}
    (a : α) :
    Confined input allowed targ n (pure a : Scp α) :=
  Triple.pure fun _ hShort => hShort

theorem confined_exit {α : Type} :
    Confined input allowed targ n (exit : Scp α) :=
  Triple.stop nofun

/- Two pieces that stay inside stay there together. -/
theorem Confined.bind
    {α β : Type}
    {m : Scp α}
    {f : α → Scp β}
    (hFirst : Confined input allowed targ n m)
    (hRest : ∀ a, Confined input allowed targ n (f a)) :
    Confined input allowed targ n (m >>= f) :=
  Triple.bind hFirst hRest

/- Asking the system changes nothing. -/
theorem confined_ask
    {α : Type}
    (answer : Nat → α) :
    Confined input allowed targ n (ask answer) :=
  Triple.ofRuns (fun _ => rfl) fun _ hShort => hShort

/- Sending to the peer touches no path. -/
theorem confined_send (data : List UInt8) :
    Confined input allowed targ n (send data) :=
  Triple.record trivial

/- A system call on a path inside. -/
theorem confined_fileAct
    {path : FilePath}
    (hPath : Inside allowed targ path)
    (act : FileAct) :
    Confined input allowed targ n (fileAct sys act path) :=
  Confined.bind (Triple.record hPath) fun _ =>
    confined_ask _

/- An error is reported to the peer only. -/
theorem confined_runErr (text : List UInt8) :
    Confined input allowed targ n (runErr text) :=
  Confined.bind (Triple.modify fun _ hShort => hShort)
    fun _ => confined_send _

/- These bytes were read, and fewer than so many are left. -/
def HasRead
    (input line : List UInt8)
    (n : Nat)
    (s : ScpState) : Prop :=
  line ++ s.input <:+ input ∧ s.input.length < n

/- What was read stands before what is left. -/
theorem HasRead.left
    {line : List UInt8}
    {s : ScpState}
    (hRead : HasRead input line n s) :
    Left input n s :=
  ⟨(List.suffix_append line s.input).trans hRead.1, hRead.2⟩

/- A byte that is read is no longer left. -/
theorem readByte_hasRead (line : List UInt8) :
    (confines input allowed targ).Triple
      (HasRead input line (n + 1)) readByte
      fun ch s =>
        match ch with
        | none => Left input (n + 1) s
        | some ch => HasRead input (line ++ [ch]) n s := by
  refine Triple.ofRuns ?_ ?_
  · intro s
    cases s.input with
    | nil => rfl
    | cons ch rest => rfl
  · intro s hRead
    cases hInput : s.input with
    | nil => exact hRead.left
    | cons ch rest =>
        rcases hRead with
          ⟨hSuffix, hShort⟩
        rw [hInput] at hSuffix hShort
        rw [List.length_cons] at hShort
        have hFewer : rest.length < n := by
          omega
        refine ⟨?_, hFewer⟩
        rw [List.append_assoc]
        exact hSuffix

/- One byte less is left. -/
theorem readByte_left :
    (confines input allowed targ).Triple
      (Left input (n + 1)) readByte
      fun ch s =>
        match ch with
        | none => Left input (n + 1) s
        | some _ => Left input n s := by
  refine Triple.weaken (readByte_hasRead [])
    (fun _ hLeft => hLeft) ?_
  intro ch s hPost
  cases ch with
  | none => exact hPost
  | some ch => exact hPost.left

/- Reading touches no path. -/
theorem confined_readByte :
    Confined input allowed targ n readByte := by
  cases n with
  | zero =>
      intro s hLeft
      exact absurd hLeft.2 (Nat.not_lt_zero _)
  | succ n =>
      refine Triple.weaken readByte_left
        (fun _ hShort => hShort) ?_
      intro ch s hShort
      cases ch with
      | none => exact hShort
      | some ch =>
          exact ⟨hShort.1, Nat.lt_succ_of_lt hShort.2⟩

/- The text of an error is shown to the user. -/
theorem confined_responseText (room : Nat) :
    Confined input allowed targ n (responseText room) := by
  induction room with
  | zero => exact confined_pure ()
  | succ room ih =>
      refine Confined.bind confined_readByte ?_
      intro ch
      cases ch with
      | none => exact confined_exit
      | some ch =>
          show Confined input allowed targ n (ite _ _ _)
          split
          · exact confined_pure ()
          · exact ih

/- Nor does waiting for the peer's response. -/
theorem confined_response :
    Confined input allowed targ n response := by
  refine Confined.bind confined_readByte ?_
  intro resp
  cases resp with
  | none => exact confined_exit
  | some resp =>
      show Confined input allowed targ n (ite _ _ _)
      split
      · exact confined_pure true
      · refine Confined.bind (confined_responseText _) ?_
        intro _
        refine Confined.bind
          (Triple.modify fun _ hShort => hShort) ?_
        intro _
        split
        · exact confined_pure false
        · exact confined_exit

/- Nothing comes after an error of the peer. -/
theorem screwup_never
    {α : Type}
    (why : String) :
    (confines input allowed targ).Triple (Left input n)
      (screwup why : Scp α) fun _ _ => False :=
  Triple.bind (confined_runErr _) fun _ => Triple.stop nofun

/- A protocol error is reported, and the copy ends. -/
theorem confined_screwup
    {α : Type}
    (why : String) :
    Confined input allowed targ n (screwup why : Scp α) :=
  Triple.weaken (screwup_never why) (fun _ hLeft => hLeft)
    fun _ _ hNever => hNever.elim

/- The line ends at a newline, or where the space does. -/
theorem readLine_isLine
    {room : Nat}
    {line : List UInt8}
    (hLine : 10 ∉ line)
    (hRoom : line.length + room = 2047) :
    (confines input allowed targ).Triple
      (HasRead input line n) (readLine room line)
      fun line s => IsLine input line ∧ Left input n s := by
  induction room generalizing line with
  | zero =>
      refine Triple.pure fun s hRead => ⟨⟨hLine, ?_⟩, hRead.left⟩
      rcases hRead.1 with
        ⟨before, hBefore⟩
      exact ⟨before, s.input, hBefore.symm, Or.inr (by omega)⟩
  | succ room ih =>
      cases n with
      | zero =>
          intro s hRead
          exact absurd hRead.2 (Nat.not_lt_zero _)
      | succ n =>
          refine Triple.bind (readByte_hasRead line) ?_
          intro ch
          cases ch with
          | none =>
              exact Triple.weaken (screwup_never _)
                (fun _ hLeft => hLeft)
                fun _ _ hNever => hNever.elim
          | some ch =>
              show (confines input allowed targ).Triple
                (HasRead input (line ++ [ch]) n)
                (if ch = 10 then pure line
                else readLine room (line ++ [ch])) _
              split
              · rename_i hNewline
                refine Triple.pure fun s hRead => ?_
                rcases hRead.1 with
                  ⟨before, hBefore⟩
                rw [List.append_assoc] at hBefore
                refine ⟨⟨hLine, before, ch :: s.input,
                  hBefore.symm, Or.inl ?_⟩, hRead.left.1,
                  Nat.lt_succ_of_lt hRead.2⟩
                rw [List.head?_cons, hNewline]
              · rename_i hOther
                refine Triple.weaken (ih ?_ ?_)
                  (fun _ hRead =>
                    ⟨hRead.1, Nat.lt_succ_of_lt hRead.2⟩)
                  fun _ _ hPost => hPost
                · rw [List.mem_append, List.mem_singleton]
                  rintro (hMem | rfl)
                  · exact hLine hMem
                  · exact hOther rfl
                · rw [List.length_append, List.length_singleton]
                  omega

/- `stat` of a path inside. -/
theorem confined_statPath
    {path : FilePath}
    (hPath : Inside allowed targ path) :
    Confined input allowed targ n (statPath sys path) :=
  Confined.bind (Triple.record hPath) fun _ =>
    confined_ask _

/- The target is the one path that must be a directory. -/
theorem confined_verifydir
    {path : FilePath}
    (hPath : Inside allowed targ path) :
    Confined input allowed targ n (verifydir sys path) := by
  refine Confined.bind (confined_statPath hPath) ?_
  intro found
  cases found with
  | error errno =>
      exact Confined.bind (confined_runErr _) fun _ =>
        confined_exit
  | ok isDir =>
      cases isDir with
      | true => exact confined_pure ()
      | false =>
          exact Confined.bind (confined_runErr _) fun _ =>
            confined_exit

end Scp

end Ssh1

------------------------------------------------------------
-- Receiving a File
------------------------------------------------------------

namespace Ssh1

namespace Scp

open Recorded
open Rely (Triple)

variable {input : List UInt8}
variable {allowed : List UInt8 → Prop}
variable {targ : FilePath}
variable {n : Nat}
variable {sys : ScpSystem}
variable {options : ScpOptions}

/- The buffer is memory only. -/
theorem confined_allocbuf (blksize : Nat) :
    Confined input allowed targ n (allocbuf sys blksize) := by
  refine Confined.bind (confined_ask _) ?_
  intro answer
  cases answer with
  | error errno =>
      exact Confined.bind (confined_runErr _) fun _ =>
        confined_pure false
  | ok stBlksize =>
      refine Confined.bind (Triple.modify ?_) fun _ =>
        confined_pure true
      intro s hShort
      split
      · exact hShort
      · exact hShort

theorem confined_storeAt
    (off : Nat)
    (data : List UInt8) :
    Confined input allowed targ n (storeAt off data) := by
  refine Triple.ofRuns ?_ ?_
  · intro s
    split <;> rfl
  · intro s hShort
    split
    · exact hShort
    · exact nofun

theorem confined_loadBytes (count : Nat) :
    Confined input allowed targ n (loadBytes count) := by
  refine Triple.ofRuns ?_ ?_
  · intro s
    split <;> rfl
  · intro s hShort
    split
    · exact hShort
    · exact nofun

/- What is read is not empty. -/
theorem readSocket_left (amt : Nat) :
    (confines input allowed targ).Triple (Left input n)
      (readSocket sys amt)
      fun data s => data ≠ [] ∧ Left input n s := by
  refine Triple.bind (confined_ask _) ?_
  intro cut
  refine Triple.bind Triple.get ?_
  intro seen
  show (confines input allowed targ).Triple _ (ite _ _ _) _
  split
  · refine Triple.weaken
      (Triple.bind (confined_runErr _) fun _ =>
        Triple.stop nofun)
      (fun _ hState => hState.1) fun _ _ hPost => hPost
  · rename_i hSome
    refine Triple.bind (Triple.modify ?_) fun _ =>
      Triple.pure fun s hShort => ⟨hSome, hShort⟩
    rintro s ⟨⟨hSuffix, hShort⟩, -⟩
    refine ⟨(List.drop_suffix _ _).trans hSuffix, ?_⟩
    rw [List.length_drop]
    omega

/- Each turn reads at least a byte, so the turns are enough. -/
theorem confined_readInto
    {turns amt : Nat}
    (hPositive : 0 < amt)
    (hTurns : amt ≤ turns)
    (off : Nat) :
    Confined input allowed targ n (readInto sys turns off amt) := by
  induction turns generalizing off amt with
  | zero => omega
  | succ turns ih =>
      refine Triple.bind (readSocket_left amt) ?_
      intro data
      by_cases hEmpty : data = []
      · intro s hState
        exact absurd hEmpty hState.1
      · have hSome := List.length_pos_of_ne_nil hEmpty
        refine Triple.weaken (Confined.bind
          (confined_storeAt off data) ?_)
          (fun _ hState => hState.2) fun _ _ hPost => hPost
        intro _
        split
        · exact ih (by omega) (by omega) _
        · exact confined_pure ()

theorem confined_flushBuffer
    (count : Nat)
    (file : TargetFile) :
    Confined input allowed targ n (flushBuffer sys count file) := by
  unfold flushBuffer
  split
  · refine Confined.bind (confined_loadBytes count) ?_
    intro data
    refine Confined.bind (confined_ask _) ?_
    intro answer
    cases answer with
    | error errno => exact confined_pure _
    | ok written =>
        show Confined input allowed targ n (ite _ _ _)
        split
        · exact confined_pure _
        · exact confined_pure _
  · exact confined_pure file

/- By induction on the turns of the receiving loop. -/
theorem confined_receive
    {turns left : Nat}
    (hTurns : left < turns)
    (count : Nat)
    (file : TargetFile) :
    Confined input allowed targ n
      (receive sys turns left count file) := by
  induction turns generalizing left count file with
  | zero => omega
  | succ turns ih =>
      unfold receive
      split
      · split
        · exact confined_flushBuffer count file
        · exact confined_pure file
      · refine Confined.bind
          (confined_readInto (by omega) (Nat.le_refl _) _) ?_
        intro _
        refine Triple.bind Triple.get ?_
        intro seen
        refine Triple.weaken ?_ (fun _ hState => hState.1)
          fun _ _ hPost => hPost
        show Confined input allowed targ n (ite _ _ _)
        split
        · refine Confined.bind (confined_flushBuffer _ file) ?_
          intro file
          exact ih (by omega) 0 file
        · exact ih (by omega) _ file

theorem confined_truncateFile
    (np : FilePath)
    (size : Nat)
    (file : TargetFile) :
    Confined input allowed targ n
      (truncateFile sys np size file) := by
  refine Confined.bind (confined_ask _) ?_
  intro answer
  cases answer with
  | some errno =>
      exact Confined.bind (confined_runErr _) fun _ =>
        confined_pure _
  | none => exact confined_pure _

variable {np : FilePath}

/- `chmod` of the path that was written. -/
theorem confined_setMode
    (hPath : Inside allowed targ np)
    (found : Bool)
    (omode mode : UInt32) :
    Confined input allowed targ n
      (setMode sys options np found omode mode) := by
  unfold setMode
  simp only
  split
  · refine Confined.bind (confined_fileAct hPath _) ?_
    intro answer
    cases answer with
    | some errno => exact confined_runErr _
    | none => exact confined_pure ()
  · exact confined_pure ()

/- `utime` of the path that was written. -/
theorem confined_setTimes
    (hPath : Inside allowed targ np)
    (times : Times) :
    Confined input allowed targ n (setTimes sys np times) := by
  refine Confined.bind (confined_fileAct hPath _) ?_
  intro answer
  cases answer with
  | some errno =>
      exact Confined.bind (confined_runErr _) fun _ =>
        confined_pure false
  | none => exact confined_pure true

/- The times and the answer to the peer. -/
theorem confined_answerFile
    (hPath : Inside allowed targ np)
    (times : Option Times)
    (wrerr : WriteError) :
    Confined input allowed targ n
      (answerFile sys np times wrerr) := by
  cases wrerr with
  | displayed => exact confined_pure times
  | yes errno =>
      exact Confined.bind (confined_runErr _) fun _ =>
        confined_pure times
  | no =>
      cases times with
      | none =>
          exact Confined.bind (confined_send _) fun _ =>
            confined_pure none
      | some t =>
          refine Confined.bind (confined_setTimes hPath t) ?_
          intro done
          cases done with
          | true =>
              exact Confined.bind (confined_send _) fun _ =>
                confined_pure none
          | false => exact confined_pure none

/- The content, the size, the mode and the answer. -/
theorem confined_receiveFile
    (hPath : Inside allowed targ np)
    (found : Bool)
    (omode mode : UInt32)
    (size : Nat)
    (times : Option Times)
    (old : List UInt8) :
    Confined input allowed targ n
      (receiveFile sys options np found omode mode size times
        old) := by
  refine Confined.bind
    (confined_receive (Nat.lt_succ_self size) 0 _) ?_
  intro file
  refine Confined.bind (confined_truncateFile np size file) ?_
  intro file
  refine Confined.bind
    (confined_setMode hPath found omode mode) ?_
  intro _
  refine Confined.bind (Triple.record hPath) ?_
  intro _
  refine Confined.bind confined_response ?_
  intro _
  exact confined_answerFile hPath times file.wrerr

/- A file is opened at the path of its record. -/
theorem confined_sinkFile
    (hPath : Inside allowed targ np)
    (found : Bool)
    (omode : UInt32)
    (size : Nat)
    (times : Option Times) :
    Confined input allowed targ n
      (sinkFile sys options np found omode size times) := by
  refine Confined.bind (confined_fileAct hPath _) ?_
  intro answer
  cases answer with
  | some errno =>
      exact Confined.bind (confined_runErr _) fun _ =>
        confined_pure times
  | none =>
      refine Confined.bind (confined_ask _) ?_
      intro old
      refine Confined.bind (confined_send _) ?_
      intro _
      refine Confined.bind (confined_allocbuf 4096) ?_
      intro allocated
      cases allocated with
      | false =>
          exact Confined.bind (Triple.record hPath) fun _ =>
            confined_pure times
      | true =>
          exact confined_receiveFile hPath found omode _ size
            times old

end Scp

end Ssh1

------------------------------------------------------------
-- Descending
------------------------------------------------------------

namespace Ssh1

namespace Scp

open Recorded
open Rely (Triple)

variable {input : List UInt8}
variable {allowed : List UInt8 → Prop}
variable {targ np : FilePath}
variable {n : Nat}
variable {sys : ScpSystem}
variable {options : ScpOptions}
variable {descend : FilePath → Scp Unit}

/- Within a directory, by what is known of the nested loop. -/
theorem confined_insideDir
    (hDescend : ∀ path,
      Confined input allowed path n (descend path))
    (hPath : Inside allowed targ np)
    (mode : UInt32)
    (modFlag : Bool)
    (times : Option Times) :
    Confined input allowed targ n
      (insideDir sys descend np mode modFlag times) := by
  refine Confined.bind
    (Confined.trans hPath (hDescend np)) ?_
  intro _
  have hEnd : Confined input allowed targ n (do
      if modFlag then
        let _ ← fileAct sys (.chmod mode) np
      return (none : Option Times)) := by
    cases modFlag with
    | true =>
        exact Confined.bind (confined_fileAct hPath _) fun _ =>
          confined_pure none
    | false => exact confined_pure none
  cases times with
  | none => exact hEnd
  | some t =>
      exact Confined.bind (confined_setTimes hPath t) fun _ =>
        hEnd

/- The directory is made at the path of its record. -/
theorem confined_sinkDir
    (hDescend : ∀ path,
      Confined input allowed path n (descend path))
    (hPath : Inside allowed targ np)
    (found : Except Errno Bool)
    (mode : UInt32)
    (times : Option Times) :
    Confined input allowed targ n
      (sinkDir sys options descend np found mode times) := by
  cases found with
  | ok isDir =>
      cases isDir with
      | true =>
          have hInside : Confined input allowed targ n
              (insideDir sys descend np mode options.pflag
                times) :=
            confined_insideDir hDescend hPath mode _ times
          show Confined input allowed targ n (ite _ _ _)
          split
          · exact Confined.bind (confined_fileAct hPath _)
              fun _ => hInside
          · exact hInside
      | false =>
          exact Confined.bind (confined_runErr _) fun _ =>
            confined_pure times
  | error errno =>
      refine Confined.bind (confined_fileAct hPath _) ?_
      intro answer
      cases answer with
      | some errno =>
          exact Confined.bind (confined_runErr _) fun _ =>
            confined_pure times
      | none =>
          exact confined_insideDir hDescend hPath mode true times

/- The name leads from the target to the path. -/
theorem confined_sinkCopy
    (hDescend : ∀ path,
      Confined input allowed path n (descend path))
    {target : Target}
    (times : Option Times)
    (isDir : Bool)
    (mode : UInt32)
    (size : Int)
    {name : List UInt8}
    (hReceived : Received input name) :
    Confined input allowed target.targ n
      (sinkCopy sys options descend target times isDir mode
        size name) := by
  refine Triple.record_bind hReceived ?_
  intro hName
  have hPath : Inside allowed target.targ
      (if target.targisdir then childPath target.targ name
        else target.targ) := by
    split
    · exact .child .target hName
    · exact .target
  refine Confined.bind (confined_statPath hPath) ?_
  intro found
  have hAgain : ∀ times : Option Times,
      Confined input allowed target.targ n
        (pure (.again times) : Scp Turn) :=
    fun _ => confined_pure _
  cases isDir with
  | true =>
      exact Confined.bind
        (confined_sinkDir hDescend hPath found mode times)
        hAgain
  | false =>
      exact Confined.bind
        (confined_sinkFile hPath found.isOk mode _ times)
        hAgain

/- What is read from a line stands in the line. -/
theorem exists_cString
    (text : List UInt8) :
    ∃ tail, text = cString text ++ tail ∧ 0 ∉ cString text ∧
      (tail = [] ∨ tail.head? = some 0) := by
  refine ⟨text.dropWhile (· ≠ 0),
    (List.takeWhile_append_dropWhile ..).symm, ?_, ?_⟩
  · intro hMem
    simpa using List.mem_takeWhile_imp hMem
  · have hHead :=
      List.head?_dropWhile_not (· ≠ (0 : UInt8)) text
    cases hTail : text.dropWhile (· ≠ 0) with
    | nil => exact Or.inl rfl
    | cons ch tail =>
        rw [hTail] at hHead
        right
        simpa using hHead

/- A mode is so many octal digits. -/
theorem parseMode_ok
    {digits : Nat}
    {mode mode' : UInt32}
    {line rest : List UInt8}
    (hMode : parseMode digits mode line = .ok (mode', rest)) :
    ∃ text, line = text ++ rest ∧ text.length = digits ∧
      ∀ ch ∈ text, 48 ≤ ch ∧ ch ≤ 55 := by
  induction digits generalizing mode line with
  | zero =>
      cases hMode
      exact ⟨[], rfl, rfl, nofun⟩
  | succ digits ih =>
      cases line with
      | nil => cases hMode
      | cons ch line =>
          unfold parseMode at hMode
          simp only [] at hMode
          split at hMode
          · cases hMode
          · rename_i hDigit
            rw [not_or, UInt8.not_lt, UInt8.not_lt] at hDigit
            rcases ih hMode with
              ⟨text, rfl, hLength, hDigits⟩
            refine ⟨ch :: text, rfl, by simp [hLength], ?_⟩
            intro ch' hMem
            rcases List.mem_cons.mp hMem with rfl | hMem
            · exact hDigit
            · exact hDigits ch' hMem

/- One blank stands between two fields. -/
theorem delimited_ok
    {why : String}
    {line rest : List UInt8}
    (hBlank : delimited why line = .ok rest) :
    line = 32 :: rest := by
  unfold delimited at hBlank
  split at hBlank
  · cases hBlank
    rfl
  · cases hBlank

/- The number at the start of a line is of its digits. -/
theorem getnum_text
    (line : List UInt8) :
    ∃ digits, line = digits ++ (getnum line).2 ∧
      ∀ ch ∈ digits, isDigit ch = true :=
  ⟨line.takeWhile isDigit,
    (List.takeWhile_append_dropWhile ..).symm,
    fun _ hMem => List.mem_takeWhile_imp hMem⟩

/- The name that the sink takes from a line is in it. -/
theorem control_carriesName
    {line : List UInt8}
    {isDir : Bool}
    {mode : UInt32}
    {size : Int}
    {name : List UInt8}
    (hControl : control line = .copy isDir mode size name) :
    CarriesName line name := by
  cases line with
  | nil => cases hControl
  | cons letter text =>
      have hCopy :
          (letter = 67 ∨ letter = 68) ∧
            parseCopy (letter = 68) (cString text) =
              .ok (.copy isDir mode size name) := by
        unfold control at hControl
        simp only [] at hControl
        split_ifs at hControl with hMessage hLeave hTimes hCopy
        · cases hTimed : parseTimes (cString text) with
          | error why =>
              rw [hTimed] at hControl
              cases hControl
          | ok times =>
              rw [hTimed] at hControl
              cases hControl
        · refine ⟨hCopy, ?_⟩
          cases hParsed :
              parseCopy (letter = 68) (cString text) with
          | error why =>
              rw [hParsed] at hControl
              cases hControl
          | ok record =>
              rw [hParsed] at hControl
              rw [← hControl]
              rfl
      rcases hCopy with
        ⟨hLetter, hParsed⟩
      unfold parseCopy at hParsed
      rcases FallibleRun.bind_eq_ok_iff.mp hParsed with
        ⟨⟨mode', afterMode⟩, hMode, hParsed⟩
      rcases FallibleRun.bind_eq_ok_iff.mp hParsed with
        ⟨sizeText, hBlank, hParsed⟩
      rcases FallibleRun.bind_eq_ok_iff.mp hParsed with
        ⟨name', hBlank', hParsed⟩
      cases hParsed
      rcases parseMode_ok hMode with
        ⟨modeText, hText, hLength, hOctal⟩
      rcases getnum_text sizeText with
        ⟨digits, hDigits, hAll⟩
      change sizeText = digits ++ sizeText.dropWhile isDigit
        at hDigits
      rcases exists_cString text with
        ⟨tail, hTail, hZero, hEnd⟩
      rw [delimited_ok hBlank'] at hDigits
      rw [delimited_ok hBlank, hDigits] at hText
      refine ⟨letter, modeText, digits, tail, ?_, hLetter,
        ⟨hLength, hOctal⟩, hAll, ?_, hEnd⟩
      · rw [hTail, hText]
        simp
      · intro hMem
        apply hZero
        rw [hText]
        simp [hMem]

/- One record, by its kind: the path is its name under the
  target or the target itself. -/
theorem confined_sinkRecord
    (hDescend : ∀ path,
      Confined input allowed path n (descend path))
    (target : Target)
    (first : Bool)
    (times : Option Times)
    {line : List UInt8}
    (hLine : IsLine input line) :
    Confined input allowed target.targ n
      (sinkRecord sys options descend target first times
        line) := by
  unfold sinkRecord
  cases hControl : control line with
  | message fatal =>
      cases fatal with
      | true => exact confined_exit
      | false =>
          exact Confined.bind
            (Triple.modify fun _ hShort => hShort) fun _ =>
              confined_pure _
  | leave =>
      exact Confined.bind (confined_send _) fun _ =>
        confined_pure _
  | times times' =>
      exact Confined.bind (confined_send _) fun _ =>
        confined_pure _
  | screwup why => exact confined_screwup why
  | unexpected =>
      cases first with
      | true =>
          exact Confined.bind (confined_runErr _) fun _ =>
            confined_exit
      | false => exact confined_screwup _
  | copy isDir mode size name =>
      exact confined_sinkCopy hDescend times isDir mode size
        ⟨line, hLine, control_carriesName hControl⟩

/- A turn reads one line and acts on it. -/
theorem sinkTurn_left
    (hDescend : ∀ path,
      Confined input allowed path n (descend path))
    (target : Target)
    (first : Bool)
    (times : Option Times) :
    (confines input allowed target.targ).Triple (Left input (n + 1))
      (sinkTurn sys options descend target first times)
      fun turn s =>
        match turn with
        | .leave => Left input (n + 1) s
        | .again _ => Left input n s := by
  refine Triple.bind (readByte_hasRead []) ?_
  intro ch
  cases ch with
  | none => exact Triple.pure fun _ hLeft => hLeft
  | some ch =>
      have hRest :
          (confines input allowed target.targ).Triple
            (HasRead input [ch] n)
            (do
              if ch = 10 then
                screwup "unexpected <newline>"
              else
                let line ← readLine 2046 [ch]
                sinkRecord sys options descend target first
                  times line)
            fun _ => Left input n := by
        split
        · exact Triple.weaken (confined_screwup _)
            (fun _ hRead => hRead.left) fun _ _ hPost => hPost
        · rename_i hOther
          refine Triple.bind (readLine_isLine
            (by simpa using Ne.symm hOther) rfl) ?_
          intro line s hPre
          exact confined_sinkRecord hDescend target first times
            hPre.1 s hPre.2
      refine Triple.weaken hRest (fun _ hRead => hRead) ?_
      intro turn s hLeft
      cases turn with
      | leave => exact ⟨hLeft.1, Nat.lt_succ_of_lt hLeft.2⟩
      | again times => exact hLeft

/- The check of the target and the loop. -/
theorem confined_enterTarget
    {loop : Target → Scp Unit}
    (hLoop : ∀ target,
      Confined input allowed target.targ n (loop target))
    (targ : FilePath) :
    Confined input allowed targ n
      (enterTarget sys options loop targ) := by
  refine Confined.bind (Triple.record .target) ?_
  intro _
  have hRest :
      ∀ isDir : Except Errno Bool → Bool,
        Confined input allowed targ n (do
          send [0]
          let found ← statPath sys targ
          loop ⟨targ, isDir found⟩) := by
    intro isDir
    refine Confined.bind (confined_send _) ?_
    intro _
    refine Confined.bind (confined_statPath .target) ?_
    intro found
    exact hLoop ⟨targ, _⟩
  split
  · exact Confined.bind (confined_verifydir .target) fun _ =>
      hRest _
  · exact hRest _

/-
  By induction on the turns: a directory is entered with the
  turns that are left, and so is the rest of the loop.
-/
theorem confined_sinkLoop
    (turns : Nat)
    (first : Bool)
    (times : Option Times)
    (target : Target) :
    Confined input allowed target.targ turns
      (sinkLoop sys options turns first times target) := by
  induction turns generalizing allowed first times target with
  | zero =>
      intro s hLeft
      exact absurd hLeft.2 (Nat.not_lt_zero _)
  | succ turns ih =>
      refine Triple.bind (sinkTurn_left
        (confined_enterTarget (ih true none))
        target first times) ?_
      intro turn
      cases turn with
      | leave => exact Triple.pure fun _ hShort => hShort
      | again times =>
          exact Triple.weaken (ih false times target)
            (fun _ hLeft => hLeft)
            fun _ _ hLeft =>
              ⟨hLeft.1, Nat.lt_succ_of_lt hLeft.2⟩

end Scp

end Ssh1

------------------------------------------------------------
-- The Sink
------------------------------------------------------------

namespace Ssh1

namespace Scp

open Recorded
open Rely (Triple)

/- More names allow more paths. -/
theorem Inside.mono
    {allowed allowed' : List UInt8 → Prop}
    {targ path : FilePath}
    (hInside : Inside allowed targ path)
    (hImp : ∀ name, allowed name → allowed' name) :
    Inside allowed' targ path := by
  induction hInside with
  | target => exact .target
  | child _ hName ih => exact .child ih (hImp _ hName)

/- The sink has made a path of the name. -/
def WasNamed
    (events : List ScpEvent)
    (name : List UInt8) : Prop :=
  .named name ∈ events

/- The names that occur in the run are enough to allow. -/
theorem sink_triple
    (sys : ScpSystem)
    (options : ScpOptions)
    (allowed : List UInt8 → Prop)
    (targ : FilePath)
    (s : ScpState)
    (hNames :
      ∀ name, WasNamed (sink sys options targ s).events name →
        allowed name) :
    (∀ event ∈ (sink sys options targ s).events,
        (confines s.input allowed targ).guaranteed event) ∧
      (sink sys options targ s).result ≠ .error .diverges := by
  have hLoop :
      Confined s.input allowed targ (s.input.length + 1)
        (enterTarget sys options
          (sinkLoop sys options (s.input.length + 1) true none)
          targ) :=
    confined_enterTarget
      (confined_sinkLoop _ true none) targ
  have hAssumed :
      ∀ event ∈ (sink sys options targ s).events,
        (confines s.input allowed targ).assumed event := by
    intro event hMem
    cases event with
    | named name => exact hNames name hMem
    | send data => trivial
    | act act path => trivial
    | stored path content => trivial
  rcases hLoop s ⟨List.suffix_refl _, Nat.lt_succ_self _⟩
      hAssumed with
    ⟨hEvents, hEnds⟩
  refine ⟨hEvents, ?_⟩
  intro hResult
  have hRun : (sink sys options targ s).result =
      (enterTarget sys options
        (sinkLoop sys options (s.input.length + 1) true none)
        targ s).result :=
    rfl
  rw [← hRun, hResult] at hEnds
  exact hEnds rfl

/-
  Every path is the target, or names lead to it, directory by
  directory. Each of them stands in a line of what the peer
  sends. Where they are single components nothing outside of
  the target is touched.
-/
theorem sink_inside
    (sys : ScpSystem)
    (options : ScpOptions)
    (targ : FilePath)
    (s : ScpState) :
    (sink sys options targ s).result ≠ .error .diverges ∧
      (∀ act path,
        .act act path ∈ (sink sys options targ s).events →
          Inside (WasNamed (sink sys options targ s).events)
            targ path) ∧
      (∀ name,
        WasNamed (sink sys options targ s).events name →
          Received s.input name ∧ 10 ∉ name ∧ 0 ∉ name) ∧
      ((∀ name,
          WasNamed (sink sys options targ s).events name →
            IsComponent name) →
        ∀ act path,
          .act act path ∈ (sink sys options targ s).events →
            Inside IsComponent targ path) := by
  rcases sink_triple sys options
      (WasNamed (sink sys options targ s).events) targ s
      (fun _ hName => hName) with
    ⟨hEvents, hEnds⟩
  have hInside : ∀ act path,
      .act act path ∈ (sink sys options targ s).events →
        Inside (WasNamed (sink sys options targ s).events)
          targ path := by
    intro act path hMem
    exact hEvents _ hMem
  refine ⟨hEnds, hInside, ?_, ?_⟩
  · intro name hName
    have hReceived : Received s.input name := hEvents _ hName
    exact ⟨hReceived, hReceived.notMem⟩
  · intro hNames act path hMem
    exact (hInside act path hMem).mono hNames

/- `D0755 0 a` and in it `D0755 0 b` -/
def nestedRecords : List UInt8 :=
  [68, 48, 55, 53, 53, 32, 48, 32, 97, 10,
    68, 48, 55, 53, 53, 32, 48, 32, 98, 10]

/- Two names lead from the target to the inner directory. -/
theorem sink_inside_nested :
    .act .enter [100, 47, 97, 47, 98] ∈
        (sink willingSystem plainOptions [100]
          ⟨nestedRecords, 0, 0, []⟩).events ∧
      Inside
        (WasNamed
          (sink willingSystem plainOptions [100]
            ⟨nestedRecords, 0, 0, []⟩).events)
        [100] [100, 47, 97, 47, 98] := by
  have hEntered :
      .act .enter [100, 47, 97, 47, 98] ∈
        (sink willingSystem plainOptions [100]
          ⟨nestedRecords, 0, 0, []⟩).events := by
    decide +kernel
  exact ⟨hEntered,
    (sink_inside willingSystem plainOptions [100]
      ⟨nestedRecords, 0, 0, []⟩).2.1 _ _ hEntered⟩

/- `D0755 0 ..` -/
def parentRecord : List UInt8 :=
  [68, 48, 55, 53, 53, 32, 48, 32, 46, 46, 10]

/- The peer leads out of the directory `d`. -/
theorem sink_not_inside :
    .act .enter [100, 47, 46, 46] ∈
        (sink willingSystem plainOptions [100]
          ⟨parentRecord, 0, 0, []⟩).events ∧
      ¬ Inside IsComponent [100] [100, 47, 46, 46] := by
  constructor
  · decide +kernel
  · intro hInside
    generalize hPath : ([100, 47, 46, 46] : FilePath) = path
      at hInside
    cases hInside with
    | target => cases hPath
    | @child dir name hDir hName =>
        rcases hName with ⟨-, hSlash, -, hParent⟩
        rcases dir with
          _ | ⟨_, _ | ⟨_, _ | ⟨_, _ | ⟨_, dir⟩⟩⟩⟩
        · have hEq : [100, 47, 46, 46] = name := hPath
          rw [← hEq] at hSlash
          exact hSlash (by decide)
        · simp [childPath] at hPath
          exact hParent hPath.2.symm
        · simp [childPath] at hPath
        · simp [childPath] at hPath
        · simp [childPath] at hPath

end Scp

end Ssh1
