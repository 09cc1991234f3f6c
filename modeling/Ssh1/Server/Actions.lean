import Ssh1.Auth.Dialogue
import Ssh1.Channels.Messages

/-
  What a server does after the login.

  The packets that it sends, the connections and listeners
  that it makes for the client, and its calls for the
  descriptors of the program are recorded.

  Main declarations:
    * `ServerEvent`
    * `Serving`
-/

------------------------------------------------------------
-- Events
------------------------------------------------------------

namespace Ssh1

/- What the server reads from the program. -/
inductive OutputStream where
  | stdout
  | stderr
  deriving DecidableEq

/-
  What the server does. No function reads these events; they
  are what statements about runs are about.
-/
inductive ServerEvent where
  | sent (packet : ServerPacket)
  -- for the client
  | allocatedPty
  | listenedX11
  | listenedAgent
  | listened (port : Int)
  | reachedOut (host : List UInt8) (port : Int)
  -- with the program
  | selected (fds : List Nat)
  -- no data at the end of file, and if the call fails
  | read (stream : OutputStream) (fd : Nat)
      (data : List UInt8)
  -- a text of the server itself for the error output
  | noted (text : List UInt8)
  | wrote (fd : Nat) (data : List UInt8)
  | writeFailed (fd : Nat)
  | shutDown (fd : Nat)
  | closed (fd : Nat)
  -- the program is gone, and what it had is closed
  | closedAfterExit
  deriving DecidableEq

/- A computation of the server, over states of some type. -/
abbrev Serving (σ α : Type) :=
  Recorded ServerEvent Halt σ α

end Ssh1

------------------------------------------------------------
-- Packets
------------------------------------------------------------

namespace Ssh1

namespace Serving

open Recorded

variable {σ α : Type}

/- A packet goes to the client. -/
def packetSend (packet : ServerPacket) : Serving σ Unit :=
  record (.sent packet)

/- The packet is recorded, and the state stays. -/
@[simp] theorem packetSend_apply
    (packet : ServerPacket)
    (state : σ) :
    packetSend packet state =
      ⟨[.sent packet], .ok ((), state)⟩ :=
  rfl

/- Tells the client and exits. -/
def packetDisconnect (message : String) : Serving σ α := do
  packetSend (disconnectPacket message)
  stop (.disconnect message)

/- Ends the process, telling the client where it is told. -/
def haltWith : Halt → Serving σ α
| .disconnect message => packetDisconnect message
| .fatal message => stop (.fatal message)
| .exit message => stop (.exit message)
| .assertion => stop .assertion
| .outOfBounds => stop .outOfBounds
| .diverges => stop .diverges

/- A call that may end the process. -/
def ofOutcome : Outcome α → Serving σ α
| .ok a => pure a
| .error halt => haltWith halt

@[simp] theorem ofOutcome_ok
    (a : α)
    (state : σ) :
    ofOutcome (.ok a) state = ⟨[], .ok (a, state)⟩ :=
  rfl

end Serving

/- The packet that tells that a channel was not opened. -/
def openFailurePacket (remoteChannel : Nat) : ServerPacket where
  type := sshMsgChannelOpenFailure
  payload := bufferPutInt [] remoteChannel

end Ssh1
