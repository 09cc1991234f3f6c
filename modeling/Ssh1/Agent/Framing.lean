import Ssh1.Agent.Requests
import Ssh1.Digest.Streaming
import Ssh1.Lib.Framing

/-
  How requests arrive at the agent.

  The bytes of a client come in the pieces that `read`
  returns, and one message is processed for each of them.
  Every piece must therefore complete at most one message,
  and a message behind which bytes of the next one wait must
  be taken by its own fields.

  Main declarations:
    * `afterSelect`
    * `AgentMessage`
    * `CleanRead`
    * `agent_framing`
-/

------------------------------------------------------------
-- Reads and Writes
------------------------------------------------------------

namespace Ssh1

/-
  What the two sets of `select` allow for a socket. `write`
  takes at most what it is given, and nothing if it fails;
  `read` returns no data at the end and for an error.
-/
structure AgentReady where
  written : Option Nat
  data : Option (List UInt8)

/-
  The identities, the entry of a connection, and the bytes
  that were written to its socket.
-/
structure AgentConnection where
  store : IdentityStore
  entry : SocketEntry
  sent : List UInt8
  deriving DecidableEq

namespace AgentConnection

/- A new connection. -/
def start (store : IdentityStore) : AgentConnection where
  store := store
  entry := {
    type := .socketFd
    input := []
    output := [] }
  sent := []

/- The socket is shut down and its buffers are freed. -/
def close (c : AgentConnection) : AgentConnection :=
  { c with entry := SocketEntry.closed }

/- The bytes that `write` took leave the output buffer. -/
def write
    (c : AgentConnection)
    (len : Nat) : AgentConnection :=
  { c with
    entry := { c.entry with output := c.entry.output.drop len }
    sent := c.sent ++ c.entry.output.take len }

/- The part of `after_select` that writes. -/
def afterWrite
    (c : AgentConnection) : Option Nat → AgentConnection
| none => c
| some len =>
    if c.entry.output.length > 0 then
      if len = 0 then c.close else c.write len
    else
      c

end AgentConnection

/- The part of `after_select` that reads. -/
def afterRead
    (md5 : List UInt8 → List UInt8)
    (c : AgentConnection) :
    Option (List UInt8) → Outcome AgentConnection
| none => .ok c
| some [] => .ok c.close
| some data => do
    let (store, entry) ←
      processMessage md5 c.store
        { c.entry with
          input := bufferAppend c.entry.input data }
    return { c with
      store := store
      entry := entry }

/-
  The body of the loop in `after_select` for this entry. An
  entry of the listening socket gives rise to another one.
-/
def afterSelect
    (md5 : List UInt8 → List UInt8)
    (c : AgentConnection)
    (result : AgentReady) : Outcome AgentConnection :=
  match c.entry.type with
  | .unused => .ok c
  | .socket => .ok c
  | .socketFd =>
      let c := c.afterWrite result.written
      match c.entry.type with
      | .unused => .ok c
      | _ => afterRead md5 c result.data

end Ssh1

------------------------------------------------------------
-- Messages
------------------------------------------------------------

namespace Ssh1

open Framing

/- A type with its body, whose length four bytes can hold. -/
structure AgentMessage where
  type : UInt8
  body : List UInt8
  length_lt : (type :: body).length < 2 ^ 32

namespace AgentMessage

/- The type byte and the body behind it. -/
def text (message : AgentMessage) : List UInt8 :=
  message.type :: message.body

/- The message as it is sent, with its length in front. -/
def frame (message : AgentMessage) : List UInt8 :=
  agentFrame message.text

/- The length in front is that of the text. -/
theorem get32Bit_frame_append
    (message : AgentMessage)
    (rest : List UInt8) :
    get32Bit (message.frame ++ rest) =
      message.text.length := by
  rw [frame, agentFrame, List.append_assoc]
  exact get32Bit_put32Bit_append message.length_lt _

/- Four bytes more than the text. -/
theorem length_frame
    (message : AgentMessage) :
    message.frame.length = 4 + message.text.length := by
  rw [frame, agentFrame, List.length_append, length_put32Bit]

/- No frame is the beginning of another one. -/
theorem prefixFree_frame : PrefixFree frame := by
  intro a b x y hText
  have hLength := congrArg get32Bit hText
  rw [get32Bit_frame_append, get32Bit_frame_append] at hLength
  have hFrames : a.frame.length = b.frame.length := by
    rw [length_frame, length_frame, hLength]
  rcases List.append_inj hText hFrames with ⟨hFrame, hRest⟩
  refine ⟨?_, hRest⟩
  rw [frame, frame, agentFrame, agentFrame, hLength]
    at hFrame
  have hTexts := List.append_cancel_left hFrame
  rw [text, text, List.cons.injEq] at hTexts
  rcases a with ⟨type, body, hBody⟩
  rcases b with ⟨type', body', hBody'⟩
  simp only at hTexts
  rcases hTexts with ⟨rfl, rfl⟩
  rfl

end AgentMessage

/- The types that the `switch` has cases for. -/
def knownTypes : List UInt8 := [
  sshAgentcRequestRsaIdentities,
  sshAgentcRsaChallenge,
  sshAgentcAddRsaIdentity,
  sshAgentcRemoveRsaIdentity,
  sshAgentcRemoveAllRsaIdentities,
  sshAgentForwardingNotice]

/-
  Processing the message takes its bytes from the buffer and
  no others: its body is made of the fields of its type, and
  nothing follows it where the whole buffer is cleared.
-/
def TakenWhole
    (type : UInt8)
    (body rest : List UInt8) : Prop :=
  (∃ request, Delivers (type :: body) rest request) ∨
    (type = sshAgentForwardingNotice ∧ body = []) ∨
      (type ∉ knownTypes ∧ rest = [])

/-
  A piece may be read: no message that is empty or too long
  has been announced, and if a message is complete then it
  is taken whole and the next one is not complete as well.
-/
structure CleanRead
    (input data : List UInt8) : Prop where
  announced : 5 ≤ (input ++ data).length →
    0 < get32Bit (input ++ data) ∧
      get32Bit (input ++ data) ≤ maxAgentMessage
  whole : ∀ (message : AgentMessage) (rest : List UInt8),
    input ++ data = message.frame ++ rest →
      TakenWhole message.type message.body rest ∧
        Incomplete AgentMessage.frame rest

end Ssh1

------------------------------------------------------------
-- Messages on Their Own
------------------------------------------------------------

namespace Ssh1

variable {md5 : List UInt8 → List UInt8}

/- An entry whose buffer holds nothing but one message. -/
def SocketEntry.alone (text : List UInt8) : SocketEntry where
  type := .socketFd
  input := text
  output := []

/-
  The entry as another one, in whose place the message was
  processed: the input that is left, and the answers added.
-/
def SocketEntry.resume
    (e : SocketEntry)
    (rest : List UInt8)
    (done : SocketEntry) : SocketEntry :=
  { e with
    input := rest
    output := e.output ++ done.output }

/- What is sent does not depend on the input that waits. -/
theorem send_eq_resume
    (e : SocketEntry)
    (rest text msg : List UInt8) :
    { e with input := rest }.send msg =
      e.resume rest ((SocketEntry.alone text).send msg) := by
  simp [SocketEntry.send, SocketEntry.resume,
    SocketEntry.alone, bufferPutInt, bufferAppend]

/- What processing a request does does not depend on where. -/
def SameAnywhere
    (e : SocketEntry)
    (rest : List UInt8)
    (here there : Outcome (IdentityStore × SocketEntry)) :
    Prop :=
  here = there.map fun r => (r.1, e.resume rest r.2)

variable {store : IdentityStore}
variable {e : SocketEntry}
variable {body rest : List UInt8}

/- Sending is the same whatever comes behind the message. -/
theorem sameAnywhere_send
    (e : SocketEntry)
    (rest : List UInt8)
    (store : IdentityStore)
    (msg : List UInt8) :
    SameAnywhere e rest
      (.ok (store, { e with input := rest }.send msg))
      (.ok (store, (SocketEntry.alone []).send msg)) := by
  rw [SameAnywhere, send_eq_resume e rest []]
  rfl

/- A halt is the same whatever comes behind. -/
theorem sameAnywhere_error
    (e : SocketEntry)
    (rest : List UInt8)
    (halt : Halt) :
    SameAnywhere e rest (.error halt) (.error halt) := by
  rfl

theorem sameAnywhere_requestIdentities :
    SameAnywhere e rest
      (processRequestIdentity store { e with input := rest })
      (processRequestIdentity store
        (SocketEntry.alone [])) := by
  simp only [processRequestIdentity, putIdentities_eq]
  cases store.read with
  | error halt => exact sameAnywhere_error e rest halt
  | ok identities => exact sameAnywhere_send e rest store _

/- A challenge that is read whole. -/
theorem sameAnywhere_challenge
    {request : Challenge}
    (hHere :
      readChallenge (body ++ rest) = .ok (request, rest))
    (hThere : readChallenge body = .ok (request, [])) :
    SameAnywhere e rest
      (processAuthenticationChallenge md5 store
        { e with input := body ++ rest })
      (processAuthenticationChallenge md5 store
        (SocketEntry.alone body)) := by
  simp only [processAuthenticationChallenge,
    SocketEntry.alone, hHere, hThere, FallibleRun.ok_bind]
  cases store.find fun i => i.hasKey request.key with
  | error halt => exact sameAnywhere_error e rest halt
  | ok found =>
      cases found with
      | none =>
          exact sameAnywhere_send e rest store
            [sshAgentFailure]
      | some i =>
          simp only [FallibleRun.ok_bind]
          cases store.get i with
          | error halt => exact sameAnywhere_error e rest halt
          | ok identity =>
              simp only [FallibleRun.ok_bind]
              cases respond md5 identity request with
              | error halt =>
                  exact sameAnywhere_error e rest halt
              | ok msg =>
                  exact sameAnywhere_send e rest store msg

/- An identity that is read whole. -/
theorem sameAnywhere_addIdentity
    {identity : Identity}
    (hBody : IsIdentity body identity) :
    SameAnywhere e rest
      (processAddIdentity store { e with input := body ++ rest })
      (processAddIdentity store (SocketEntry.alone body)) := by
  have hHere := reads_readIdentity.complete _ _ rest hBody
  have hThere := reads_readIdentity.complete _ _ [] hBody
  rw [List.append_nil] at hThere
  simp only [processAddIdentity, SocketEntry.alone, hHere,
    hThere, FallibleRun.ok_bind]
  cases store.add identity with
  | error halt => exact sameAnywhere_error e rest halt
  | ok store => exact sameAnywhere_send e rest store _

/- A public key that is read whole. -/
theorem sameAnywhere_removeIdentity
    {key : RSAPublicKey}
    (hBody : IsPublicKey body key) :
    SameAnywhere e rest
      (processRemoveIdentity store
        { e with input := body ++ rest })
      (processRemoveIdentity store
        (SocketEntry.alone body)) := by
  have hHere := reads_readPublicKey.complete _ _ rest hBody
  have hThere := reads_readPublicKey.complete _ _ [] hBody
  rw [List.append_nil] at hThere
  simp only [processRemoveIdentity, SocketEntry.alone, hHere,
    hThere, FallibleRun.ok_bind]
  cases store.remove key.n with
  | error halt => exact sameAnywhere_error e rest halt
  | ok result => exact sameAnywhere_send e rest result.2 _

theorem sameAnywhere_removeAllIdentities :
    SameAnywhere e rest
      (processRemoveAllIdentities store
        { e with input := rest })
      (processRemoveAllIdentities store
        (SocketEntry.alone [])) := by
  simp only [processRemoveAllIdentities]
  cases store.removeAll with
  | error halt => exact sameAnywhere_error e rest halt
  | ok store => exact sameAnywhere_send e rest store _

/- Another type is refused, and the input is dropped. -/
theorem dispatch_of_unknown
    {type : UInt8}
    (hType : type ∉ knownTypes)
    (store : IdentityStore)
    (e : SocketEntry) :
    dispatch md5 type store e =
      .ok (store,
        { e with input := [] }.send [sshAgentFailure]) := by
  simp only [knownTypes, List.mem_cons, List.not_mem_nil,
    or_false, not_or] at hType
  rcases hType with ⟨h1, h2, h3, h4, h5, h6⟩
  simp only [dispatch, h1, h2, h3, h4, h5, h6, if_false]

/- A message that is taken whole leaves what follows it. -/
theorem dispatch_sameAnywhere
    {type : UInt8}
    (hWhole : TakenWhole type body rest) :
    SameAnywhere e rest
      (dispatch md5 type store
        { e with input := body ++ rest })
      (dispatch md5 type store (SocketEntry.alone body)) := by
  rcases hWhole with
    ⟨request, hRequest | ⟨hOld, rfl⟩⟩ |
      ⟨rfl, rfl⟩ | ⟨hUnknown, rfl⟩
  · cases hRequest with
    | requestIdentities => exact sameAnywhere_requestIdentities
    | challenge hBody =>
        have hThere := readChallenge_append hBody []
        rw [List.append_nil] at hThere
        exact sameAnywhere_challenge
          (readChallenge_append hBody rest) hThere
    | addIdentity hBody => exact sameAnywhere_addIdentity hBody
    | removeIdentity hBody =>
        exact sameAnywhere_removeIdentity hBody
    | removeAllIdentities =>
        exact sameAnywhere_removeAllIdentities
  · cases hOld with
    | challenge hBody =>
        have hThere := readChallenge_old hBody
        have hHere := hThere
        rw [← List.append_nil body] at hHere
        exact sameAnywhere_challenge hHere hThere
  · -- a notice is taken, and nothing is answered
    have hSame :
        e.resume rest (SocketEntry.alone []) =
          { e with input := rest } := by
      simp [SocketEntry.resume, SocketEntry.alone]
    exact congrArg
      (fun e : SocketEntry => (Except.ok (store, e) : Outcome _))
      hSame.symm
  · rw [dispatch_of_unknown hUnknown,
      dispatch_of_unknown hUnknown]
    exact sameAnywhere_send e [] store _

/- The same for the message with its length. -/
variable (md5 store e) in
/- A message that takes all of its body is processed alike
  before any other. -/
theorem processMessage_sameAnywhere
    {message : AgentMessage}
    (hShort : message.text.length ≤ maxAgentMessage)
    (hWhole : TakenWhole message.type message.body rest) :
    SameAnywhere e rest
      (processMessage md5 store
        { e with input := message.frame ++ rest })
      (processMessage md5 store
        (SocketEntry.alone message.frame)) := by
  rw [processMessage_frame md5 store hShort rfl,
    processMessage_frame md5 store hShort
      (List.append_nil message.frame).symm, List.append_nil]
  exact dispatch_sameAnywhere hWhole

end Ssh1

------------------------------------------------------------
-- Streams of Messages
------------------------------------------------------------

namespace Ssh1

open Framing

variable {md5 : List UInt8 → List UInt8}

/- The announced bytes are a message if they are there. -/
theorem exists_frame
    {input : List UInt8}
    (hPos : 0 < get32Bit input)
    (hLength : get32Bit input + 4 ≤ input.length) :
    ∃ message rest,
      input = AgentMessage.frame message ++ rest := by
  have hHead : input.take 4 = put32Bit (get32Bit input) := by
    have hFour : (input.take 4).length = 4 := by
      rw [List.length_take]
      omega
    have hBytes := BigEndian.toBytes_ofBytes (input.take 4)
    rw [hFour] at hBytes
    exact hBytes.symm
  have hText :
      ((input.drop 4).take (get32Bit input)).length =
        get32Bit input := by
    rw [List.length_take, List.length_drop]
    omega
  cases hMessage : (input.drop 4).take (get32Bit input) with
  | nil =>
      rw [hMessage, List.length_nil] at hText
      omega
  | cons type body =>
      rw [hMessage] at hText
      refine ⟨⟨type, body, ?_⟩,
        (input.drop 4).drop (get32Bit input), ?_⟩
      · rw [hText]
        exact get32Bit_lt input
      · rw [AgentMessage.frame, agentFrame, AgentMessage.text]
        simp only
        rw [hText, ← hHead, ← hMessage, List.append_assoc,
          List.take_append_drop, List.take_append_drop]

/- Nothing happens while the first message is incomplete. -/
theorem processMessage_incomplete
    (store : IdentityStore)
    {e : SocketEntry}
    (hAnnounced : 5 ≤ e.input.length →
      0 < get32Bit e.input ∧
        get32Bit e.input ≤ maxAgentMessage)
    (hInput : Incomplete AgentMessage.frame e.input) :
    processMessage md5 store e = .ok (store, e) := by
  by_cases hHead : e.input.length < 5
  · rw [processMessage, if_pos hHead]
  · rcases hAnnounced (by omega) with ⟨hPos, hMax⟩
    rw [processMessage, if_neg hHead]
    simp only [if_neg (Nat.not_lt.mpr hMax)]
    rw [if_pos]
    by_contra hWhole
    rcases exists_frame hPos (by omega) with
      ⟨message, rest, hFrame⟩
    exact hInput message rest hFrame

/- The client's bytes are read while the connection lasts. -/
def AgentReady.KeepsOpen (ready : AgentReady) : Prop :=
  ready.written ≠ some 0 ∧ ready.data ≠ some []

/- All bytes that `read` returns. -/
def received (readies : List AgentReady) : List UInt8 :=
  readies.flatMap fun ready => ready.data.getD []

/- The reply to a message that is alone in its buffer. -/
def answerAlone
    (md5 : List UInt8 → List UInt8)
    (state : IdentityStore × List UInt8)
    (message : AgentMessage) :
    Outcome (IdentityStore × List UInt8) :=
  (processMessage md5 state.1
      (SocketEntry.alone message.frame)).map
    fun r => (r.1, state.2 ++ r.2.output)

/-
  What a client can tell of a connection: the identities, the
  bytes that still wait to be processed, and all replies.
-/
def AgentConnection.observed
    (c : AgentConnection) :
    IdentityStore × List UInt8 × List UInt8 :=
  (c.store, c.entry.input, c.sent ++ c.entry.output)

/- The reads of the connection are clean. -/
def ReadsCleanly
    (c : AgentConnection)
    (ready : AgentReady) : Prop :=
  ∀ data,
    ready.data = some data → CleanRead c.entry.input data

/- Writing moves replies from the buffer to the client. -/
theorem afterWrite_observed
    {c : AgentConnection}
    {written : Option Nat}
    (hOpen : written ≠ some 0) :
    (c.afterWrite written).entry.type = c.entry.type ∧
      (c.afterWrite written).observed = c.observed := by
  cases written with
  | none => exact ⟨rfl, rfl⟩
  | some len =>
      have hLen : len ≠ 0 := by
        rintro rfl
        exact hOpen rfl
      by_cases hOutput : c.entry.output.length > 0
      · have hWrite : c.afterWrite (some len) = c.write len := by
          simp only [AgentConnection.afterWrite,
            if_pos hOutput, if_neg hLen]
        rw [hWrite]
        refine ⟨rfl, ?_⟩
        simp [AgentConnection.write, AgentConnection.observed]
      · have hWrite : c.afterWrite (some len) = c := by
          simp only [AgentConnection.afterWrite,
            if_neg hOutput]
        rw [hWrite]
        exact ⟨rfl, rfl⟩

/-
  A clean read either waits for the rest of a message, or
  answers the one that is complete as if it were alone.
-/
variable (md5) in
/- A read that ends within or at the end of a message. -/
theorem afterRead_clean
    {c : AgentConnection}
    {data : List UInt8}
    (hData : data ≠ [])
    (hClean : CleanRead c.entry.input data) :
    (Incomplete AgentMessage.frame (c.entry.input ++ data) ∧
        afterRead md5 c (some data) =
          .ok { c with
            entry := { c.entry with
              input := c.entry.input ++ data } }) ∨
      ∃ (message : AgentMessage) (rest : List UInt8),
        c.entry.input ++ data = message.frame ++ rest ∧
          Incomplete AgentMessage.frame rest ∧
          afterRead md5 c (some data) =
            (processMessage md5 c.store
                (SocketEntry.alone message.frame)).map
              fun r => { c with
                store := r.1
                entry := c.entry.resume rest r.2 } := by
  have hRead :
      afterRead md5 c (some data) =
        (processMessage md5 c.store
            { c.entry with
              input := c.entry.input ++ data }).map
          fun r => { c with store := r.1, entry := r.2 } := by
    cases data with
    | nil => exact (hData rfl).elim
    | cons byte data =>
        simp only [afterRead, bufferAppend]
        cases processMessage md5 c.store
            { c.entry with
              input := c.entry.input ++ byte :: data } with
        | error halt => rfl
        | ok result => rfl
  rw [hRead]
  by_cases hWhole :
      Incomplete AgentMessage.frame (c.entry.input ++ data)
  · left
    refine ⟨hWhole, ?_⟩
    rw [processMessage_incomplete c.store
      (e := { c.entry with
        input := c.entry.input ++ data })
      hClean.announced hWhole]
    rfl
  · right
    simp only [Incomplete, ne_eq, not_forall, not_not]
      at hWhole
    rcases hWhole with ⟨message, rest, hFrame⟩
    rcases hClean.whole message rest hFrame with
      ⟨hTaken, hRest⟩
    refine ⟨message, rest, hFrame, hRest, ?_⟩
    have hShort : message.text.length ≤ maxAgentMessage := by
      have hLong : 5 ≤ (c.entry.input ++ data).length := by
        rw [hFrame, List.length_append,
          AgentMessage.length_frame, AgentMessage.text,
          List.length_cons]
        omega
      have hMax := (hClean.announced hLong).2
      rw [hFrame, AgentMessage.get32Bit_frame_append] at hMax
      exact hMax
    have hSame :=
      processMessage_sameAnywhere md5 c.store c.entry
        hShort hTaken
    rw [hFrame, hSame]
    cases processMessage md5 c.store
        (SocketEntry.alone message.frame) with
    | error halt => rfl
    | ok result => rfl

/- What the step of a connection that reads cleanly does. -/
variable (md5) in
/- So it is for a turn of the agent's loop. -/
theorem afterSelect_clean
    {c : AgentConnection}
    {ready : AgentReady}
    (hType : c.entry.type = .socketFd)
    (hInput : Incomplete AgentMessage.frame c.entry.input)
    (hOpen : ready.KeepsOpen)
    (hClean : ReadsCleanly c ready) :
    (∃ c',
      afterSelect md5 c ready = .ok c' ∧
        c'.entry.type = .socketFd ∧
        Incomplete AgentMessage.frame c'.entry.input ∧
        c'.observed =
          (c.store, c.entry.input ++ ready.data.getD [],
            c.sent ++ c.entry.output)) ∨
      ∃ (message : AgentMessage) (rest : List UInt8)
          (next : IdentityStore × SocketEntry →
            AgentConnection),
        c.entry.input ++ ready.data.getD [] =
            message.frame ++ rest ∧
          Incomplete AgentMessage.frame rest ∧
          afterSelect md5 c ready =
            (processMessage md5 c.store
              (SocketEntry.alone message.frame)).map next ∧
          ∀ r,
            (next r).entry.type = .socketFd ∧
              (next r).observed =
                (r.1, rest,
                  c.sent ++ c.entry.output ++ r.2.output) := by
  rcases afterWrite_observed (c := c) hOpen.1 with
    ⟨hSame, hObserved⟩
  have hSelect :
      afterSelect md5 c ready =
        afterRead md5 (c.afterWrite ready.written)
          ready.data := by
    simp only [afterSelect, hType, hSame]
  rw [AgentConnection.observed, AgentConnection.observed,
    Prod.mk.injEq, Prod.mk.injEq] at hObserved
  generalize c.afterWrite ready.written = w at *
  rcases hObserved with ⟨hStore, hKept, hReplies⟩
  cases hData : ready.data with
  | none =>
      left
      rw [hData, afterRead] at hSelect
      refine ⟨w, hSelect, hSame.trans hType, ?_, ?_⟩
      · rw [hKept]
        exact hInput
      · rw [AgentConnection.observed, hStore, hKept, hReplies]
        simp
  | some data =>
      have hNonempty : data ≠ [] := by
        rintro rfl
        exact hOpen.2 hData
      have hCleanData := hClean data hData
      rw [← hKept] at hCleanData
      rw [hData] at hSelect
      rw [Option.getD_some, ← hKept, ← hStore, ← hReplies]
      rcases afterRead_clean md5 hNonempty
          hCleanData with
        ⟨hWait, hRead⟩ | ⟨message, rest, hFrame, hRest, hRead⟩
      · left
        exact ⟨_, hSelect.trans hRead, hSame.trans hType,
          hWait, rfl⟩
      · right
        refine ⟨message, rest, _, hFrame, hRest,
          hSelect.trans hRead, ?_⟩
        intro r
        refine ⟨hSame.trans hType, ?_⟩
        simp [AgentConnection.observed, SocketEntry.resume]

/-
  The run of a connection whose reads are clean: the replies
  are those to its messages one after the other.
-/
theorem run_afterSelect_clean
    {readies : List AgentReady}
    {c : AgentConnection}
    {messages : List AgentMessage}
    {rest : List UInt8}
    (hType : c.entry.type = .socketFd)
    (hInput : Incomplete AgentMessage.frame c.entry.input)
    (hOpen : ∀ ready ∈ readies, ready.KeepsOpen)
    (hStream :
      c.entry.input ++ received readies =
        messages.flatMap AgentMessage.frame ++ rest)
    (hRest : Incomplete AgentMessage.frame rest)
    (hClean :
      FallibleRun.Meets (afterSelect md5) ReadsCleanly c
        readies) :
    (FallibleRun.run (afterSelect md5) c readies).map
        AgentConnection.observed =
      (FallibleRun.run (answerAlone md5)
          (c.store, c.sent ++ c.entry.output) messages).map
        fun r => (r.1, rest, r.2) := by
  induction readies generalizing c messages with
  | nil =>
      rw [received, List.flatMap_nil, List.append_nil]
        at hStream
      rcases eq_nil_of_incomplete hInput hStream with
        ⟨rfl, hEnd⟩
      rw [← hEnd]
      rfl
  | cons ready readies ih =>
      have hLater : ∀ r ∈ readies, r.KeepsOpen :=
        fun r hMem => hOpen r (by simp [hMem])
      rw [received, List.flatMap_cons, ← List.append_assoc]
        at hStream
      rw [FallibleRun.run_cons]
      rcases afterSelect_clean md5 hType hInput
          (hOpen ready (by simp)) hClean.1 with
        ⟨c', hStep, hType', hInput', hObserved⟩ |
          ⟨message, left, next, hFrame, hLeft, hStep, hNext⟩
      · rw [AgentConnection.observed, Prod.mk.injEq,
          Prod.mk.injEq] at hObserved
        rcases hObserved with ⟨hStore, hKept, hReplies⟩
        rw [hStep, FallibleRun.ok_bind, ← hStore, ← hReplies]
        rw [← hKept] at hStream
        exact ih hType' hInput' hLater hStream
          (hClean.2 c' hStep)
      · rw [hFrame, List.append_assoc] at hStream
        rcases exists_cons_of_frame
            AgentMessage.prefixFree_frame hRest hStream with
          ⟨later, rfl, hRemaining⟩
        rw [FallibleRun.run_cons, answerAlone]
        cases hProcess :
            processMessage md5 c.store
              (SocketEntry.alone message.frame) with
        | error halt =>
            rw [hStep, hProcess]
            rfl
        | ok r =>
            rw [hProcess] at hStep
            rcases hNext r with ⟨hType', hObserved⟩
            rw [AgentConnection.observed, Prod.mk.injEq,
              Prod.mk.injEq] at hObserved
            rcases hObserved with ⟨hStore, hKept, hReplies⟩
            have hTail :=
              ih hType' (by rw [hKept]; exact hLeft) hLater
                (by rw [hKept]; exact hRemaining)
                (hClean.2 _ hStep)
            rw [hStore, hReplies] at hTail
            rw [hStep]
            exact hTail

/- Nothing at all is not a whole message. -/
theorem incomplete_nil :
    Incomplete AgentMessage.frame [] := by
  intro message rest hFrame
  have hLength := congrArg List.length hFrame
  rw [List.length_nil, List.length_append,
    AgentMessage.length_frame] at hLength
  omega

/-
  If no read of a connection completes more than one message
  and each message is taken whole, then the replies to the
  stream are those to its messages on their own, however it
  was cut, and only an incomplete message is left.
-/
theorem agent_framing
    (md5 : List UInt8 → List UInt8)
    (store : IdentityStore)
    (readies : List AgentReady)
    (messages : List AgentMessage)
    (rest : List UInt8)
    (hOpen : ∀ ready ∈ readies, ready.KeepsOpen)
    (hStream :
      received readies =
        messages.flatMap AgentMessage.frame ++ rest)
    (hRest : Incomplete AgentMessage.frame rest)
    (hClean :
      FallibleRun.Meets (afterSelect md5) ReadsCleanly
        (AgentConnection.start store) readies) :
    (FallibleRun.run (afterSelect md5)
          (AgentConnection.start store) readies).map
        AgentConnection.observed =
      (FallibleRun.run (answerAlone md5) (store, [])
          messages).map
        fun r => (r.1, rest, r.2) :=
  run_afterSelect_clean rfl incomplete_nil hOpen hStream hRest
    hClean

/- The request for the identities. -/
def listMessage : AgentMessage where
  type := sshAgentcRequestRsaIdentities
  body := []
  length_lt := by decide

/- A message of a type that the agent does not know. -/
def unknownMessage : AgentMessage where
  type := 99
  body := []
  length_lt := by decide

/- A piece that `read` returns. -/
def AgentReady.reads (data : List UInt8) : AgentReady where
  written := none
  data := some data

/- A listing request in two reads. -/
theorem cleanRead_listMessage :
    CleanRead [0, 0, 0, 1] [1] where
  announced := by
    intro _
    decide
  whole := by
    intro message rest hFrame
    have hList :
        listMessage.frame ++ [] = message.frame ++ rest :=
      hFrame
    rcases AgentMessage.prefixFree_frame _ _ _ _ hList with
      ⟨rfl, rfl⟩
    exact ⟨Or.inl ⟨_, Or.inl IsRequest.requestIdentities⟩,
      incomplete_nil⟩

/- A request that is cut behind its length. -/
theorem agent_framing_split :
    (FallibleRun.run (afterSelect Md5.digest)
          (AgentConnection.start IdentityStore.empty)
          [.reads [0, 0, 0, 1], .reads [1]]).map
        AgentConnection.observed =
      (FallibleRun.run (answerAlone Md5.digest)
          (IdentityStore.empty, []) [listMessage]).map
        fun r => (r.1, [], r.2) := by
  refine agent_framing Md5.digest IdentityStore.empty
    [.reads [0, 0, 0, 1], .reads [1]] [listMessage] []
    ?_ rfl incomplete_nil ?_
  · intro ready hMem
    simp only [List.mem_cons, List.not_mem_nil, or_false]
      at hMem
    rcases hMem with rfl | rfl
    · exact ⟨by simp [AgentReady.reads],
        by simp [AgentReady.reads]⟩
    · exact ⟨by simp [AgentReady.reads],
        by simp [AgentReady.reads]⟩
  · refine ⟨?_, fun c hFirst => ⟨?_, fun c' _ => trivial⟩⟩
    · intro data hData
      cases hData
      refine ⟨by simp [AgentConnection.start], ?_⟩
      intro message rest hFrame
      exfalso
      have hLength := congrArg List.length hFrame
      rw [List.length_append, List.length_append,
        AgentMessage.length_frame, AgentMessage.text,
        List.length_cons] at hLength
      simp [AgentConnection.start] at hLength
      omega
    · intro data hData
      cases hData
      have hInput : c.entry.input = [0, 0, 0, 1] := by
        cases hFirst
        rfl
      rw [hInput]
      exact cleanRead_listMessage

/-
  Of two requests in one piece the second one is left, and
  behind an unknown message it is lost.
-/
theorem agent_pipelined :
    (FallibleRun.run (afterSelect Md5.digest)
          (AgentConnection.start IdentityStore.empty)
          [.reads (listMessage.frame ++ listMessage.frame)]).map
        AgentConnection.observed =
      .ok (IdentityStore.empty, listMessage.frame,
        [0, 0, 0, 5, 2, 0, 0, 0, 0]) ∧
    (FallibleRun.run (afterSelect Md5.digest)
          (AgentConnection.start IdentityStore.empty)
          [.reads
            (unknownMessage.frame ++ listMessage.frame)]).map
        AgentConnection.observed =
      .ok (IdentityStore.empty, [], [0, 0, 0, 1, 5]) ∧
    (FallibleRun.run (answerAlone Md5.digest)
          (IdentityStore.empty, [])
          [unknownMessage, listMessage]) =
      .ok (IdentityStore.empty,
        [0, 0, 0, 1, 5, 0, 0, 0, 5, 2, 0, 0, 0, 0]) :=
  ⟨rfl, rfl, rfl⟩

end Ssh1
