import Ssh1.Base.Buffer

/-
  Terminal modes on their way to the server.

  A build has some of the characters, flags and speeds of the
  table. What it has is written behind the opcode of each, and
  a reader skips what it does not have.

  Main declarations:
    * `TtyChar`, `TtyFlag`, `TermiosBuild`, `Termios`
    * `speedToBaud`, `baudToSpeed`
    * `ttyMakeModes`, `ttyParseModes`
-/

------------------------------------------------------------
-- The Table of Opcodes
------------------------------------------------------------

namespace Ssh1

/- `TTYCHAR` -/
inductive TtyChar where
  | vintr | vquit | verase | vkill | veof | veol | veol2
  | vstart | vstop | vsusp | vdsusp | vreprint | vwerase
  | vlnext | vflush | vswtch | vstatus | vdiscard
  deriving DecidableEq

namespace TtyChar

/- In the order of the table. -/
def all : List TtyChar :=
  [vintr, vquit, verase, vkill, veof, veol, veol2, vstart,
    vstop, vsusp, vdsusp, vreprint, vwerase, vlnext, vflush,
    vswtch, vstatus, vdiscard]

/- The opcode of a control character. -/
def op : TtyChar → UInt8
| vintr => 1
| vquit => 2
| verase => 3
| vkill => 4
| veof => 5
| veol => 6
| veol2 => 7
| vstart => 8
| vstop => 9
| vsusp => 10
| vdsusp => 11
| vreprint => 12
| vwerase => 13
| vlnext => 14
| vflush => 15
| vswtch => 16
| vstatus => 17
| vdiscard => 18

/- The entry of the table with an opcode. -/
def ofOp (opcode : UInt8) : Option TtyChar :=
  all.find? fun c => c.op = opcode

end TtyChar

/- The fields that hold flags. -/
inductive FlagField where
  | cIflag
  | cOflag
  | cCflag
  | cLflag
  deriving DecidableEq

/- `TTYMODE` -/
inductive TtyFlag where
  | ignpar | parmrk | inpck | istrip | inlcr | igncr | icrnl
  | iuclc | ixon | ixany | ixoff | imaxbel
  | isig | icanon | xcase | echo | echoe | echok | echonl
  | noflsh | tostop | iexten | echoctl | echoke | pendin
  | opost | olcuc | onlcr | ocrnl | onocr | onlret
  | cs7 | cs8 | parenb | parodd
  deriving DecidableEq

namespace TtyFlag

/- The flags in the order of ttymodes.h. -/
def all : List TtyFlag :=
  [ignpar, parmrk, inpck, istrip, inlcr, igncr, icrnl, iuclc,
    ixon, ixany, ixoff, imaxbel, isig, icanon, xcase, echo,
    echoe, echok, echonl, noflsh, tostop, iexten, echoctl,
    echoke, pendin, opost, olcuc, onlcr, ocrnl, onocr, onlret,
    cs7, cs8, parenb, parodd]

/- The opcode of a flag. -/
def op : TtyFlag → UInt8
| ignpar => 30
| parmrk => 31
| inpck => 32
| istrip => 33
| inlcr => 34
| igncr => 35
| icrnl => 36
| iuclc => 37
| ixon => 38
| ixany => 39
| ixoff => 40
| imaxbel => 41
| isig => 50
| icanon => 51
| xcase => 52
| echo => 53
| echoe => 54
| echok => 55
| echonl => 56
| noflsh => 57
| tostop => 58
| iexten => 59
| echoctl => 60
| echoke => 61
| pendin => 62
| opost => 70
| olcuc => 71
| onlcr => 72
| ocrnl => 73
| onocr => 74
| onlret => 75
| cs7 => 90
| cs8 => 91
| parenb => 92
| parodd => 93

/- The member of `struct termios` that a flag is in. -/
def field : TtyFlag → FlagField
| ignpar | parmrk | inpck | istrip | inlcr | igncr | icrnl
| iuclc | ixon | ixany | ixoff | imaxbel => .cIflag
| isig | icanon | xcase | echo | echoe | echok | echonl
| noflsh | tostop | iexten | echoctl | echoke
| pendin => .cLflag
| opost | olcuc | onlcr | ocrnl | onocr | onlret => .cOflag
| cs7 | cs8 | parenb | parodd => .cCflag

/- The flag of an opcode. -/
def ofOp (opcode : UInt8) : Option TtyFlag :=
  all.find? fun f => f.op = opcode

/- A value of the character size, and no flag. -/
def isCharSize : TtyFlag → Bool
| cs7 => true
| cs8 => true
| _ => false

end TtyFlag

end Ssh1

------------------------------------------------------------
-- Builds and Terminals
------------------------------------------------------------

namespace Ssh1

/-
  What `termios.h` defines where the program is built: the
  macros that are missing are `none`.
-/
structure TermiosBuild where
  -- where the character lies in `c_cc`
  index : TtyChar → Option Nat
  mask : TtyFlag → Option (BitVec 32)
  -- the mask `CSIZE` of the character sizes
  csize : BitVec 32
  -- the constant of type `speed_t` for a baud rate
  speed : Nat → Option Nat
  b9600 : Nat

/- The members of `struct termios` that are sent. -/
structure Termios where
  flags : FlagField → BitVec 32
  cc : Nat → UInt8
  ispeed : Nat
  ospeed : Nat

namespace Termios

/- Stores a control character. -/
def setChar
    (tio : Termios)
    (i : Nat)
    (ch : UInt8) : Termios :=
  { tio with cc := fun j => if j = i then ch else tio.cc j }

/- Sets a flag, or clears it. -/
def setFlag
    (tio : Termios)
    (field : FlagField)
    (mask : BitVec 32)
    (on : Bool) : Termios :=
  { tio with
    flags := fun field' =>
      if field' = field then
        if on then tio.flags field ||| mask
        else tio.flags field &&& ~~~mask
      else
        tio.flags field' }

end Termios

/- The baud rates of the two conversions. -/
def baudRates : List Nat :=
  [0, 50, 75, 110, 134, 150, 200, 300, 600, 1200, 1800, 2400,
    4800, 9600, 19200, 38400, 7200, 14400, 28800, 57600, 76800,
    115200, 230400]

/- `speed_to_baud`: 9600 for a speed it does not know. -/
def speedToBaud
    (build : TermiosBuild)
    (speed : Nat) : Nat :=
  (baudRates.find? fun baud =>
    build.speed baud = some speed).getD 9600

/- `baud_to_speed`: 9600 for a rate it does not know. -/
def baudToSpeed
    (build : TermiosBuild)
    (baud : Nat) : Nat :=
  if baud ∈ baudRates then
    (build.speed baud).getD build.b9600
  else
    build.b9600

end Ssh1

------------------------------------------------------------
-- Writing Modes
------------------------------------------------------------

namespace Ssh1

/- `TTY_OP_END`. -/
def ttyOpEnd : UInt8 := 0

/- `TTY_OP_ISPEED`. -/
def ttyOpIspeed : UInt8 := 192

/- `TTY_OP_OSPEED`. -/
def ttyOpOspeed : UInt8 := 193

/- An opcode and its argument. -/
structure TtyItem where
  op : UInt8
  argument : List UInt8
  deriving DecidableEq

/- The opcode and its argument. -/
def TtyItem.bytes (item : TtyItem) : List UInt8 :=
  item.op :: item.argument

variable (build : TermiosBuild)
variable (tio : Termios)

/- What is written for a speed, a character and a flag. -/
def speedItem
    (opcode : UInt8)
    (speed : Nat) : TtyItem :=
  ⟨opcode, put32Bit (speedToBaud build speed)⟩

/- The item of a control character that the build has. -/
def charItem (c : TtyChar) : Option TtyItem :=
  (build.index c).map fun i => ⟨c.op, [tio.cc i]⟩

/- The item of a flag that the build has. -/
def flagItem (f : TtyFlag) : Option TtyItem :=
  (build.mask f).map fun mask =>
    ⟨f.op, [if tio.flags f.field &&& mask ≠ 0 then 1 else 0]⟩

/- All items, in the order of `tty_make_modes`. -/
def modeItems : List TtyItem :=
  speedItem build ttyOpOspeed tio.ospeed ::
    speedItem build ttyOpIspeed tio.ispeed ::
    (TtyChar.all.filterMap (charItem build tio) ++
      TtyFlag.all.filterMap (flagItem build tio))

/- The modes are `none` where `tcgetattr` fails. -/
def ttyMakeModes
    (build : TermiosBuild) :
    Option Termios → List UInt8
| none => [ttyOpEnd]
| some tio =>
    (modeItems build tio).flatMap TtyItem.bytes ++ [ttyOpEnd]

end Ssh1

------------------------------------------------------------
-- Reading Modes
------------------------------------------------------------

namespace Ssh1

variable (build : TermiosBuild)

/- The case of the opcode, if the build has its macro. -/
def TermiosBuild.charCase (opcode : UInt8) : Option Nat :=
  (TtyChar.ofOp opcode).bind build.index

/- The case of `tty_parse_modes` for a flag. -/
def TermiosBuild.flagCase
    (opcode : UInt8) : Option (FlagField × BitVec 32) :=
  (TtyFlag.ofOp opcode).bind fun f =>
    (build.mask f).map fun mask => (f.field, mask)

/-
  One turn of the loop: the modes, and whether there is
  another turn.
-/
def parseMode
    (tio : Termios)
    (buffer : Buffer) :
    Outcome ((Termios × Bool) × Buffer) := do
  let (opcode, buffer) ← bufferGetChar buffer
  if opcode = ttyOpEnd then
    return ((tio, false), buffer)
  else if opcode = ttyOpIspeed then
    let (baud, buffer) ← bufferGetInt buffer
    return (({ tio with ispeed := baudToSpeed build baud },
      true), buffer)
  else if opcode = ttyOpOspeed then
    let (baud, buffer) ← bufferGetInt buffer
    return (({ tio with ospeed := baudToSpeed build baud },
      true), buffer)
  else
    match build.charCase opcode with
    | some i =>
        let (ch, buffer) ← bufferGetChar buffer
        return ((tio.setChar i ch, true), buffer)
    | none =>
        match build.flagCase opcode with
        | some (field, mask) =>
            let (on, buffer) ← bufferGetChar buffer
            return ((tio.setFlag field mask (on ≠ 0), true),
              buffer)
        | none =>
            if opcode < 128 then
              let (_, buffer) ← bufferGetChar buffer
              return ((tio, true), buffer)
            else if opcode < 160 then
              let (_, buffer) ← bufferGetInt buffer
              return ((tio, true), buffer)
            else
              return ((tio, false), buffer)

/- The loop, for so many turns. -/
def parseModes :
    (turns : Nat) → Termios → Buffer →
    Outcome (Termios × Buffer)
| 0, _, _ => .error .diverges
| turns + 1, tio, buffer => do
    let ((tio, more), buffer) ← parseMode build tio buffer
    if more then
      parseModes turns tio buffer
    else
      return (tio, buffer)

/-
  Every turn takes an opcode from the packet. Nothing is read
  where `tcgetattr` fails.
-/
def ttyParseModes
    (base : Option Termios)
    (packet : Buffer) :
    Outcome (Option Termios × Buffer) :=
  match base with
  | none => .ok (none, packet)
  | some tio => do
      let (tio, packet) ←
        parseModes build (packet.length + 1) tio packet
      return (some tio, packet)

end Ssh1
