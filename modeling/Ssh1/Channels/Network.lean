import Ssh1.Channels.Events

/-
  Two processes and the connection between them.

  Each party has a table of channels and receives, in order,
  the messages that the other one sends. A connection to one
  of its listening ports asks the peer for a channel. Labels
  tell apart the channels of a run, which may follow each
  other in the same slot; no function of the program reads
  them.

  In the main loops of the program nothing comes between
  `channel_prepare_select` and `channel_after_select` but the
  call of `select`, which leaves no bits set in the masks that
  were not set before.

  Main declarations:
    * `Endpoint`, `Network`
    * `Network.step`
    * `Network.Handshake`
-/

------------------------------------------------------------
-- Labels
------------------------------------------------------------

namespace Ssh1

/- The two ends of a connection. -/
inductive Party where
  | client
  | server
  deriving DecidableEq, Repr

/- The party at the other end. -/
def Party.other : Party → Party
| client => server
| server => client

/- The other of the other is the party itself. -/
@[simp] theorem Party.other_other
    (p : Party) :
    p.other.other = p := by
  cases p <;> rfl

/- The other party is not the party itself. -/
@[simp] theorem Party.other_ne
    (p : Party) :
    p.other ≠ p := by
  cases p <;> simp [other]

/- A channel, by the party that asked for it. -/
structure Label where
  initiator : Party
  number : Nat
  deriving DecidableEq, Repr

/- A message on its way, and the channel that it is about. -/
structure Envelope where
  label : Option Label
  message : ChannelMessage
  deriving DecidableEq, Repr

/- What a party has done with the channels. -/
inductive HistoryEntry where
  | sent (label : Option Label) (message : ChannelMessage)
  | received (label : Option Label) (message : ChannelMessage)
  | freed (label : Option Label)
  deriving DecidableEq, Repr

end Ssh1

------------------------------------------------------------
-- Endpoints
------------------------------------------------------------

namespace Ssh1

/- One program's channel code, and what was said to it. -/
structure Endpoint where
  table : ChannelTable
  -- the masks, between preparing a select and its outcome
  selecting : Option FdSets
  -- the channel that a slot was last allocated for
  labels : Nat → Option Label
  -- how many channels the party has asked for
  asked : Nat
  history : List HistoryEntry

/- A program before its first channel. -/
def Endpoint.initial
    (memory : Nat → Channel) : Endpoint where
  table := .initial memory
  selecting := none
  labels := fun _ => none
  asked := 0
  history := []

/-
  Follows one effect on the table while a message about a
  channel is handled, or none. A slot that is allocated for a
  channel that the party asks for gets a new label, and one
  for a channel that it is asked for has the label of the
  request. What is sent carries the label of its slot.
-/
def Endpoint.note
    (p : Party)
    (incoming : Option Label)
    (state : Endpoint × List Envelope) :
    ChannelEffect → Endpoint × List Envelope
| .allocated i .opening =>
    ({ state.1 with
        labels :=
          Function.update state.1.labels i
            (some ⟨p, state.1.asked⟩)
        asked := state.1.asked + 1 },
      state.2)
| .allocated i .opened =>
    ({ state.1 with
        labels := Function.update state.1.labels i incoming },
      state.2)
| .allocated i _ =>
    ({ state.1 with
        labels := Function.update state.1.labels i none },
      state.2)
| .freed i =>
    ({ state.1 with
        history :=
          state.1.history ++ [.freed (state.1.labels i)] },
      state.2)
| .sent (some i) m =>
    ({ state.1 with
        history :=
          state.1.history ++ [.sent (state.1.labels i) m] },
      state.2 ++ [⟨state.1.labels i, m⟩])
| .sent none m =>
    ({ state.1 with
        history := state.1.history ++ [.sent incoming m] },
      state.2 ++ [⟨incoming, m⟩])
| .received _ _ => state
| .wrote _ _ => state

/- Takes over a table, with what has happened to it. -/
def Endpoint.follow
    (p : Party)
    (incoming : Option Label)
    (table : ChannelTable)
    (e : Endpoint) : Endpoint × List Envelope :=
  (table.effects.drop e.table.effects.length).foldl
    (note p incoming) ({ e with table }, [])

end Ssh1

------------------------------------------------------------
-- Networks
------------------------------------------------------------

namespace Ssh1

/- Both programs and the links between them. -/
structure Network where
  endpoint : Party → Endpoint
  -- the messages on their way to each party
  link : Party → List Envelope

namespace Network

/- Neither program has a channel and nothing is in flight. -/
def initial
    (memory : Party → Nat → Channel) : Network where
  endpoint := fun p => .initial (memory p)
  link := fun _ => []

/- Changes the endpoint of one party. -/
def setEndpoint
    (p : Party)
    (e : Endpoint)
    (net : Network) : Network :=
  { net with endpoint := Function.update net.endpoint p e }

/- A party takes over a table and sends what came of it. -/
def advance
    (p : Party)
    (incoming : Option Label)
    (table : ChannelTable)
    (net : Network) : Network :=
  let (e, outbox) := (net.endpoint p).follow p incoming table
  { endpoint := Function.update net.endpoint p e
    link :=
      Function.update net.link p.other
        (net.link p.other ++ outbox) }

/- A party takes the first message of its link. -/
def take
    (p : Party)
    (envelope : Envelope)
    (rest : List Envelope)
    (net : Network) : Network :=
  let e := net.endpoint p
  { endpoint :=
      Function.update net.endpoint p
        { e with
          history :=
            e.history ++
              [.received envelope.label envelope.message] }
    link := Function.update net.link p rest }

/- A party begins or ends a select. -/
def select
    (p : Party)
    (selecting : Option FdSets)
    (net : Network) : Network :=
  net.setEndpoint p { net.endpoint p with selecting }

end Network

/- What a party can do next. -/
inductive NetworkAction where
  | deliver (connection : Option Int)
  | prepareSelect
  | afterSelect (io : Nat → SlotIo)
  | outputPoll (notVeryMuch : Nat → Bool)
  | listenPort
      (port : Int)
      (host : List UInt8)
      (hostPort : Int)
      (sock : Int)

/- The outcome of a select has no bits that were not set. -/
def maskedIo
    (sets : FdSets)
    (io : Nat → SlotIo)
    (i : Nat) : SlotIo :=
  { io i with
    readable := (io i).readable && sets.readset i
    writable := (io i).writable && sets.writeset i }

/-
  One step of a party. A message is delivered if there is one,
  and a step that is not the next one of the loop is none.
-/
def Network.step
    (conf : Party → ChannelConf)
    (net : Network)
    (event : Party × NetworkAction) : Outcome Network :=
  let p := event.1
  let e := net.endpoint p
  match event.2, e.selecting with
  | .deliver connection, none =>
      match net.link p with
      | [] => .ok net
      | envelope :: rest => do
          let table ←
            handleMessage (conf p) envelope.message connection
              e.table
          return (net.take p envelope rest).advance p
            envelope.label table
  | .prepareSelect, none => do
      let (table, sets) ← channelPrepareSelect (conf p) e.table
      return (net.advance p none table).select p (some sets)
  | .afterSelect io, some sets => do
      let table ←
        channelAfterSelect (conf p) (maskedIo sets io) e.table
      return (net.advance p none table).select p none
  | .outputPoll notVeryMuch, none => do
      let table ←
        channelOutputPoll (conf p) notVeryMuch e.table
      return net.advance p none table
  | .listenPort port host hostPort sock, none => do
      let table ←
        channelRequestLocalForwarding port host hostPort
          (.ok sock) e.table
      return net.advance p none table
  | _, _ => .ok net

end Ssh1

------------------------------------------------------------
-- The Close Handshake
------------------------------------------------------------

namespace Ssh1

/- The slot is the one of a channel. -/
def Endpoint.Holds
    (e : Endpoint)
    (label : Label)
    (i : Nat) : Prop :=
  i < e.table.channelsAlloc ∧
    ((e.table.channels i).type = .opening ∨
      (e.table.channels i).type = .opened) ∧
    e.labels i = some label

instance (e : Endpoint) (label : Label) (i : Nat) :
    Decidable (e.Holds label i) := by
  unfold Endpoint.Holds
  infer_instance

/- What is counted in the history of a channel. -/
inductive Counter where
  | eofSent
  | closeSent
  | eofReceived
  | closeReceived
  | opened
  deriving DecidableEq, Repr

/- The message says that no more data comes. -/
def ChannelMessage.isEof : ChannelMessage → Bool
| .inputEof _ => true
| _ => false

/- The message says that no more data is taken. -/
def ChannelMessage.isClose : ChannelMessage → Bool
| .outputClosed _ => true
| _ => false

/- The message confirms an open. -/
def ChannelMessage.isConfirmation : ChannelMessage → Bool
| .openConfirmation _ _ => true
| _ => false

/-
  What an entry counts as. A channel is open for a party that
  sends or receives the confirmation.
-/
def HistoryEntry.counts
    (label : Label)
    (entry : HistoryEntry)
    (counter : Counter) : Bool :=
  match entry, counter with
  | .sent l m, .eofSent => l = some label && m.isEof
  | .sent l m, .closeSent => l = some label && m.isClose
  | .received l m, .eofReceived => l = some label && m.isEof
  | .received l m, .closeReceived =>
      l = some label && m.isClose
  | .sent l m, .opened => l = some label && m.isConfirmation
  | .received l m, .opened =>
      l = some label && m.isConfirmation
  | _, _ => false

/- How often something happened to a channel. -/
def tally
    (label : Label)
    (history : List HistoryEntry)
    (counter : Counter) : Nat :=
  history.countP fun entry => entry.counts label counter

/- The channel number that a message is addressed to. -/
def ChannelMessage.addressee : ChannelMessage → Option Int
| .openConfirmation channel _ => some channel
| .openFailure channel => some channel
| .data channel _ => some channel
| .inputEof channel => some channel
| .outputClosed channel => some channel
| .x11Open _ _ => none
| .portOpen _ _ => none
| .agentOpen _ => none

/-
  What the parties rely on. The two closing messages are sent
  at most once; an open channel is freed only after both have
  been sent and received; and what is on its way to a channel
  number still finds the channel that it is about.
-/
structure Network.Handshake (net : Network) : Prop where
  once :
    ∀ p label,
      tally label (net.endpoint p).history .eofSent ≤ 1 ∧
        tally label (net.endpoint p).history .closeSent ≤ 1
  freed :
    ∀ p label before after,
      (net.endpoint p).history =
          before ++ .freed (some label) :: after →
        0 < tally label before .opened →
        ∀ counter, tally label before counter = 1
  addressed :
    ∀ p, ∀ envelope ∈ net.link p, ∀ channel,
      envelope.message.addressee = some channel →
        ∃ (i : Nat) (label : Label),
          channel = i ∧ envelope.label = some label ∧
            (net.endpoint p).Holds label i

/- The messages about something that the peer did wrong. -/
def Halt.BlamesPeer (halt : Halt) : Prop :=
  (∃ channel : Int,
    halt = .disconnect
        ("Received data for nonexistent channel " ++
          toString channel ++ ".") ∨
      halt = .disconnect
        ("Received ieof for nonexistent channel " ++
          toString channel ++ ".") ∨
      halt = .disconnect
        ("Received oclosed for nonexistent channel " ++
          toString channel ++ ".") ∨
      halt = .disconnect
        ("Other party sent data after eof for channel " ++
          toString channel ++ ".") ∨
      halt = .disconnect
        ("Received open confirmation for non-opening channel " ++
          toString channel ++ ".") ∨
      halt = .disconnect
        ("Received open failure for non-opening channel " ++
          toString channel ++ ".")) ∨
    halt = .disconnect "Received double input eof." ∨
    halt = .disconnect "Received double close."

end Ssh1
