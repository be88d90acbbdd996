import PhpQuic.Interact.Program
import PhpQuic.Interact.Transition
import PhpQuic.Interact.Trace
import PhpQuic.Interact.Search
import PhpQuic.Interact.Capability
import PhpQuic.Wire.LengthPrefixed
import PhpQuic.Wire.Hex
import PhpQuic.Wire.Pipe
import PhpQuic.Memory.Collector
import PhpQuic.Zend.Value
import PhpQuic.Openssl.Call
import PhpQuic.Openssl.Environment
import PhpQuic.Source.Exception
import PhpQuic.Source.Udp
import PhpQuic.Source.Alpn
import PhpQuic.Source.Tls
import PhpQuic.Source.Fingerprint
import PhpQuic.Source.Handshake
import PhpQuic.Source.Stream
import PhpQuic.Source.Connection
import PhpQuic.Source.Listener
import PhpQuic.Source.Poll
import PhpQuic.Source.Operation
import PhpQuic.Proof.Calls
import PhpQuic.Proof.Pinning
import PhpQuic.Proof.PeerName
import PhpQuic.Proof.TlsOptions
import PhpQuic.Proof.ErrorQueue
import PhpQuic.Proof.Reading
import PhpQuic.Proof.Closing
import PhpQuic.Proof.StreamEngine
import PhpQuic.Proof.EndOfStream
import PhpQuic.Proof.Readiness
import PhpQuic.Proof.WriteAccounting
import PhpQuic.Proof.Ownership
import PhpQuic.Proof.Lifecycle
import PhpQuic.Proof.Resources
import PhpQuic.Proof.Releases
import PhpQuic.Proof.LifeCalls
import PhpQuic.Proof.ChildrenFirst
import PhpQuic.Proof.AlpnList
import PhpQuic.Proof.Deadline
import PhpQuic.Proof.TimedHandshake
import PhpQuic.Proof.ChainVerification
import PhpQuic.Proof.Fingerprint
import PhpQuic.Proof.PollItems
import PhpQuic.Proof.PollReentry
import PhpQuic.Proof.AlpnLength
import PhpQuic.Proof.TlsLevels
import PhpQuic.Proof.ErrorCodes
import PhpQuic.Proof.SocketChoice
import PhpQuic.Proof.ReadBuffer
import PhpQuic.Proof.Ledger
import PhpQuic.Proof.Constructors
import PhpQuic.Proof.Counting
import PhpQuic.Proof.Garbage
import PhpQuic.Proof.Teardown
import PhpQuic.Proof.Transfer
import PhpQuic.Proof.Admission
import PhpQuic.Proof.Rights
import PhpQuic.Proof.Custody
import PhpQuic.Proof.Passphrase
import PhpQuic.Proof.Promptness
import PhpQuic.Proof.Negotiation
import PhpQuic.Proof.Export
