import Ssh1.Auth.Login

/-
  The events of a login.

  Requests and final replies structure a dialogue. All that
  happens while one request is dealt with is neither of them,
  and no call for a password of the client.

  Main declarations:
    * `Exchange.isRequest`, `Exchange.isReply`
    * `Exchange.IsInner`
    * `Session.Inner`
-/

------------------------------------------------------------
-- Kinds of Events
------------------------------------------------------------

namespace Ssh1

namespace Exchange

/- A packet is taken as a request. -/
def isRequest : Exchange → Bool
| request _ _ => true
| _ => false

/- A final reply. -/
def isReply : Exchange → Bool
| sent packet =>
    packet.type = sshSmsgSuccess ||
      packet.type = sshSmsgFailure
| _ => false

/- A call of `auth_password` for a password of the client. -/
def isPasswordCall : Exchange → Bool
| asked (.password _) => true
| _ => false

/- The message about success. -/
def isSuccess : Exchange → Bool
| sent packet => packet.type = sshSmsgSuccess
| _ => false

/- What happens while one request is being dealt with. -/
structure IsInner (event : Exchange) : Prop where
  notRequest : event.isRequest = false
  notReply : event.isReply = false
  notPasswordCall : event.isPasswordCall = false

/- An inner event is not the success message. -/
theorem IsInner.notSuccess
    {event : Exchange}
    (hInner : event.IsInner) :
    event.isSuccess = false := by
  have hReply := hInner.notReply
  cases event with
  | sent packet =>
      simp only [isReply, Bool.or_eq_false_iff] at hReply
      exact hReply.1
  | received arrival => rfl
  | request time type => rfl
  | asked attempt => rfl
  | verdict attempt accepted => rfl

end Exchange

end Ssh1

------------------------------------------------------------
-- Reading and Sending
------------------------------------------------------------

namespace Ssh1

namespace Session

open Recorded Exchange

/- Whatever happens in the computation is inner. -/
abbrev Inner {α : Type} (m : Session α) : Prop :=
  Always IsInner m

/- A packet that is no reply. -/
theorem inner_packetSend
    {packet : ServerPacket}
    (hPacket : (sent packet).isReply = false) :
    Inner (packetSend packet) :=
  Always.record ⟨rfl, hPacket, rfl⟩

/- The message about a disconnect is no reply. -/
theorem inner_packetDisconnect
    {α : Type}
    (message : String) :
    Inner (packetDisconnect message : Session α) :=
  (inner_packetSend rfl).bind fun _ => Always.stop _

/- The end of the server is no reply. -/
theorem inner_haltWith
    {α : Type}
    (halt : Halt) :
    Inner (haltWith halt : Session α) := by
  cases halt with
  | disconnect message => exact inner_packetDisconnect message
  | fatal message => exact Always.stop _
  | exit message => exact Always.stop _
  | assertion => exact Always.stop _
  | outOfBounds => exact Always.stop _
  | diverges => exact Always.stop _

/- Calls that may end the process are inner in both cases. -/
theorem inner_ofOutcome
    {α : Type}
    (x : Outcome α) :
    Inner (ofOutcome x) := by
  cases x with
  | ok a => exact Always.pure a
  | error halt => exact inner_haltWith halt

/- Reading a field is no reply. -/
theorem inner_packetGet
    {α : Type}
    (get' : Buffer → Outcome (α × Buffer)) :
    Inner (packetGet get') :=
  Always.get.bind fun _ =>
    (inner_ofOutcome _).bind fun _ =>
      (Always.modify _).bind fun _ => Always.pure _

/- Taking a packet in is no request yet. -/
theorem inner_takePacket
    (body : Buffer) :
    Inner (takePacket body) :=
  (inner_ofOutcome _).bind fun _ =>
    (Always.modify _).bind fun _ => Always.pure _

theorem inner_takeArrival
    (arrival : Arrival) :
    Inner (takeArrival arrival) := by
  refine Always.get.bind ?_
  intro state
  cases arrival with
  | packet body =>
      simp only []
      split
      · exact inner_packetDisconnect _
      · exact inner_takePacket body
  | spoiled reason =>
      simp only []
      split
      · exact inner_packetDisconnect _
      · exact inner_haltWith _
  | badLength len => exact inner_packetDisconnect _
  | closed => exact Always.stop _
  | readFailed cause => exact Always.stop _

/- A packet that is passed over, and what follows. -/
theorem inner_readArrival
    (arrival : Arrival)
    {next : Session UInt8}
    (hNext : Inner next) :
    Inner (readArrival arrival next) := by
  refine (Always.record ⟨rfl, rfl, rfl⟩).bind fun _ => ?_
  refine (inner_takeArrival arrival).bind fun type => ?_
  cases type with
  | none => exact hNext
  | some type => exact Always.pure type

/- By induction on what arrives. -/
theorem inner_readArrivals
    (arrivals : List Arrival) :
    Inner (ofRuns fun state =>
      readArrivals state arrivals) := by
  induction arrivals with
  | nil => exact Always.stop _
  | cons arrival arrivals ih =>
      intro state
      exact inner_readArrival arrival ih
        { state with arrivals, time := state.time + 1 }

/- Waiting for a packet is no reply. -/
theorem inner_packetRead : Inner packetRead :=
  fun state => inner_readArrivals state.arrivals state

theorem inner_packetReadExpect
    (expected : UInt8) :
    Inner (packetReadExpect expected) := by
  refine inner_packetRead.bind fun type => ?_
  split
  · exact inner_packetDisconnect _
  · exact Always.pure _

end Session

end Ssh1

------------------------------------------------------------
-- Authenticators
------------------------------------------------------------

namespace Ssh1

open QuotedText (Text)

namespace Session

open Recorded Exchange

/- Debug messages are no replies. -/
theorem inner_packetSendDebug
    (env : LoginEnv)
    (messages : List String) :
    Inner (packetSendDebug env messages) := by
  induction messages with
  | nil => exact Always.pure _
  | cons message messages ih =>
      unfold packetSendDebug
      split
      · exact (inner_packetSend rfl).bind fun _ => ih
      · exact ih

/- Messages of an authenticator are no replies. -/
theorem inner_consult
    (env : LoginEnv)
    (question : Nat → Answer) :
    Inner (consult env question) :=
  Always.get.bind fun _ =>
    (inner_packetSendDebug env _).bind fun _ =>
      inner_ofOutcome _

/- The forced command is set without a word. -/
theorem inner_authPassword
    (env : LoginEnv)
    (password : List UInt8) :
    Inner (authPassword env password) := by
  refine Always.get.bind fun state => ?_
  simp only []
  split
  · exact (Always.modify _).bind fun _ => inner_consult env _
  · exact inner_consult env _

/- The challenge and its answer. -/
theorem inner_authRsaChallengeDialog
    (env : LoginEnv)
    (key : AuthorizedKey) :
    Inner (authRsaChallengeDialog env key) := by
  refine Always.get.bind fun _ => ?_
  refine (inner_ofOutcome _).bind fun challenge => ?_
  refine (inner_ofOutcome _).bind fun payload => ?_
  refine (inner_packetSend rfl).bind fun _ => ?_
  refine (inner_packetReadExpect _).bind fun _ => ?_
  exact (inner_packetGet _).bind fun _ => Always.pure _

/- Options change the restrictions and send nothing. -/
theorem inner_authRsaOptions
    (peer : Peer)
    (opts : Option Text) :
    Inner (authRsaOptions peer opts) := by
  cases opts with
  | none => exact Always.pure _
  | some opts =>
      refine Always.get.bind fun _ => ?_
      refine (inner_ofOutcome _).bind fun _ => ?_
      exact (Always.modify _).bind fun _ => Always.pure _

/- One line of the file. -/
theorem inner_authRsaLine
    (env : LoginEnv)
    (time clientN : Nat)
    (messages : List String)
    (line : Text) :
    Inner (authRsaLine env time clientN messages line) := by
  have hDebug (accepted : Bool) :
      Inner (do
        packetSendDebug env messages
        return accepted) :=
    (inner_packetSendDebug env _).bind fun _ =>
      Always.pure _
  unfold authRsaLine
  simp only []
  split
  · exact Always.pure _
  cases authRsaReadKey _ with
  | none => exact hDebug false
  | some found =>
      simp only []
      split
      · exact Always.pure _
      · refine (inner_authRsaChallengeDialog env _).bind
          fun answered => ?_
        split
        · exact (inner_authRsaOptions _ _).bind hDebug
        · exact hDebug false

/- By induction on the lines. -/
theorem inner_authRsaLines
    (env : LoginEnv)
    (time clientN linenum : Nat)
    (lines : List Text) :
    Inner (authRsaLines env time clientN linenum lines) := by
  induction lines generalizing linenum with
  | nil => exact Always.pure _
  | cons line lines ih =>
      refine (inner_authRsaLine env time clientN _
        line).bind fun authenticated => ?_
      split
      · exact Always.pure _
      · exact ih (linenum + 1)

/- All of its lines. -/
theorem inner_authRsa
    (env : LoginEnv)
    (clientN : Nat) :
    Inner (authRsa env clientN) := by
  refine Always.get.bind fun _ => ?_
  refine (inner_packetSendDebug env _).bind fun _ => ?_
  refine (inner_authRsaLines env _ _ _ _).bind
    fun authenticated => ?_
  split
  · exact (inner_packetSendDebug env _).bind fun _ =>
      Always.pure _
  · exact Always.pure _

theorem inner_authRhostsRsa
    (env : LoginEnv)
    (clientUser : List UInt8)
    (key : AuthorizedKey) :
    Inner (authRhostsRsa env clientUser key) := by
  refine (inner_consult env _).bind fun rhosts => ?_
  split
  · refine (inner_consult env _).bind fun known => ?_
    split
    · refine (inner_authRsaChallengeDialog env key).bind
        fun answered => ?_
      split
      · exact (inner_packetSendDebug env _).bind fun _ =>
          Always.pure _
      · exact Always.pure _
    · exact Always.pure _
  · exact Always.pure _

end Session

end Ssh1
