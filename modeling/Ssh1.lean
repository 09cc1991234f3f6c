import Ssh1.Lib.FallibleRun
import Ssh1.Lib.TwinRun
import Ssh1.Lib.LinearProbing
import Ssh1.Lib.BigEndian
import Ssh1.Lib.HalfClose
import Ssh1.Lib.Pipeline
import Ssh1.Lib.BlockStream
import Ssh1.Lib.Type2Block
import Ssh1.Lib.ExtendedEuclid
import Ssh1.Lib.CrtPower
import Ssh1.Lib.QuotedText
import Ssh1.Lib.RecordedRun
import Ssh1.Lib.MonitoredRun
import Ssh1.Lib.RunHistory
import Ssh1.Base.Halt
import Ssh1.Base.Buffer
import Ssh1.Base.Unsigned
import Ssh1.Base.MpInt
import Ssh1.Base.BufferMemory
import Ssh1.Lib.MemoryBlock
import Ssh1.Packet.Crc32
import Ssh1.Packet.Deattack
import Ssh1.Packet.DeattackCorrectness
import Ssh1.Packet.DeattackProbing
import Ssh1.Packet.Assertions
import Ssh1.Packet.RoundTrip
import Ssh1.Channels.Table
import Ssh1.Channels.Close
import Ssh1.Channels.X11Packet
import Ssh1.Channels.Events
import Ssh1.Channels.Steps
import Ssh1.Channels.Moves
import Ssh1.Channels.Safety
import Ssh1.Channels.Transcript
import Ssh1.Channels.Spoofing
import Ssh1.Channels.AlikeTables
import Ssh1.Channels.Secrecy
import Ssh1.Channels.Network
import Ssh1.Channels.Messages
import Ssh1.Channels.Histories
import Ssh1.Channels.Phases
import Ssh1.Channels.SlotActions
import Ssh1.Channels.LoopSteps
import Ssh1.Channels.Deliveries
import Ssh1.Channels.Handshake
import Ssh1.Channels.Journals
import Ssh1.Channels.SlotStreams
import Ssh1.Channels.MessageStreams
import Ssh1.Channels.Streams
import Ssh1.Rsa.Keys
import Ssh1.Rsa.SessionId
import Ssh1.Rsa.Linearize
import Ssh1.Rsa.Padding
import Ssh1.Rsa.SessionKey
import Ssh1.Lib.LazyResidue
import Ssh1.Rsa.PrimeSearch
import Ssh1.Rsa.KeyGeneration
import Ssh1.Auth.Patterns
import Ssh1.Auth.KeyOptions
import Ssh1.Auth.AuthorizedKeys
import Ssh1.Auth.AuthRsa
import Ssh1.Auth.Rhosts
import Ssh1.Auth.Dialogue
import Ssh1.Auth.Login
import Ssh1.Auth.LoginEvents
import Ssh1.Auth.LoginReplies
import Ssh1.Auth.LoginAcceptance
import Ssh1.Auth.AcceptedLogins
import Ssh1.Auth.LoginGate
import Ssh1.Auth.LoginSilence
import Ssh1.Auth.FailedLogins
import Ssh1.Server.Actions
import Ssh1.Server.Loop
import Ssh1.Server.Indifference
import Ssh1.Server.Descriptors
import Ssh1.Server.Discipline
import Ssh1.Server.Ledger
import Ssh1.Server.Completeness
import Ssh1.Server.Preparation
import Ssh1.Server.Restrictions
import Ssh1.Server.Environment
import Ssh1.Random.Pool
import Ssh1.Lib.Feistel
import Ssh1.Lib.Transducer
import Ssh1.Lib.BlockModes
import Ssh1.Ciphers.Words
import Ssh1.Ciphers.Des
import Ssh1.Ciphers.Idea
import Ssh1.Ciphers.Arcfour
import Ssh1.Ciphers.Blowfish
import Ssh1.Ciphers.Streams
import Ssh1.Digest.Transform
import Ssh1.Digest.Streaming
import Ssh1.Auth.KeyFile
import Ssh1.Lib.FieldReader
import Ssh1.Base.Fields
import Ssh1.Auth.KeyFileErrors
import Ssh1.Auth.HostFiles
import Ssh1.Auth.HostEntries
import Ssh1.Auth.KnownHosts
import Ssh1.Lib.KeyedList
import Ssh1.Agent.Identities
import Ssh1.Agent.Requests
import Ssh1.Agent.IdentityMap
import Ssh1.Lib.Framing
import Ssh1.Agent.Framing
import Ssh1.Agent.Listing
import Ssh1.Agent.RsaChallenge
import Ssh1.Lib.Lockstep
import Ssh1.Client.Grants
import Ssh1.Client.Capabilities
import Ssh1.Client.Typing
import Ssh1.Client.LineEffects
import Ssh1.Client.FirstValueWins
import Ssh1.Lib.FirstValue
import Ssh1.Client.EscapeMachine
import Ssh1.Client.StdinStream
import Ssh1.Lib.Glob
import Ssh1.Auth.PatternMatching
import Ssh1.Lib.MaximalRun
import Ssh1.Auth.HostLookup
import Ssh1.Tty.Modes
import Ssh1.Lib.LastWrite
import Ssh1.Tty.RoundTrip
import Ssh1.Scp.Peer
import Ssh1.Lib.RecordedTriple
import Ssh1.Scp.Sink
import Ssh1.Scp.Confinement
import Ssh1.Scp.Source
import Ssh1.Scp.Records
import Ssh1.Scp.Sending
import Ssh1.Scp.Receiving
import Ssh1.Scp.Transfer
import Ssh1.Lib.OutputRefinement
import Ssh1.Lib.BoundedPrinter
import Ssh1.Base.Snprintf
import Ssh1.Base.SnprintfItems
import Ssh1.Base.SnprintfFormat
import Ssh1.Base.SnprintfBounds
import Ssh1.Base.SnprintfTruncation
import Ssh1.Files.UserFile
import Ssh1.Files.PlainFile
import Ssh1.Lib.LineChunks
import Ssh1.Files.Lines
import Ssh1.Session.Setup
import Ssh1.Session.Requests
import Ssh1.Session.Answers
import Ssh1.Session.Replies
import Ssh1.Session.Lockstep
import Ssh1.Client.Login
import Ssh1.Client.LoginRules
import Ssh1.Client.LoginSteps
import Ssh1.Client.LoginSafety
import Ssh1.Client.LoginPrompts
