import Wlmio.Library.StableQueue
import Wlmio.Library.Bytes
import Wlmio.Library.BitField
import Wlmio.Library.Blocks
import Wlmio.Library.Transition
import Wlmio.Library.Fallible
import Wlmio.Library.KeyedList
import Wlmio.Library.Ownership
import Wlmio.Library.References
import Wlmio.Library.DoublyLinked
import Wlmio.Library.Strtol
import Wlmio.Library.History
import Wlmio.Library.EventLoop
import Wlmio.Library.Demultiplexer
import Wlmio.Library.ShiftRegister
import Wlmio.Library.BitString
import Wlmio.Canard.Frame
import Wlmio.Canard.Transmit
import Wlmio.Canard.Receive
import Wlmio.Canard.Ownership
import Wlmio.Canard.Loopback
import Wlmio.Canard.Dsdl
import Wlmio.Canard.DsdlBits
import Wlmio.Canard.Assembly
import Wlmio.Canard.Listener
import Wlmio.Canard.Api
import Wlmio.Canard.Chains
import Wlmio.Canard.Crc
import Wlmio.Canard.CanId
import Wlmio.Canard.Delivery
import Wlmio.Canard.Network
import Wlmio.Canard.Joined
import Wlmio.Canard.Assertions
import Wlmio.Canard.PushAssertions
import Wlmio.Client.World
import Wlmio.Client.Registry
import Wlmio.Client.FdEntry
import Wlmio.Client.Register
import Wlmio.Client.Request
import Wlmio.Client.Io
import Wlmio.Client.Handler
import Wlmio.Client.Machine
import Wlmio.Tools.Fwupdate
import Wlmio.Tools.Regtool
import Wlmio.Pywlmio.Channel
import Wlmio.Pywlmio.Node
import Wlmio.Pywlmio.Requests
import Wlmio.Pywlmio.Modules
import Wlmio.Pywlmio.Listing
import Wlmio.Pywlmio.Extension
import Wlmio.Proof.Calls
import Wlmio.Proof.Acts
import Wlmio.Proof.Effects
import Wlmio.Proof.Registry
import Wlmio.Proof.Records
import Wlmio.Proof.Faults
import Wlmio.Proof.Ledger
import Wlmio.Proof.Later
import Wlmio.Proof.Completion
import Wlmio.Proof.Scenario
import Wlmio.Proof.Pending
import Wlmio.Proof.Correlation
import Wlmio.Proof.Transmission
import Wlmio.Proof.RegisterTables
import Wlmio.Proof.RegisterReply
import Wlmio.Proof.RegisterRequest
import Wlmio.Proof.Accepted
import Wlmio.Proof.Liveness
import Wlmio.Proof.Reentrancy
import Wlmio.Proof.Sync
import Wlmio.Proof.NodeInfo
import Wlmio.Proof.ModuleReads
import Wlmio.Proof.Arguments
import Wlmio.Proof.Callers
import Wlmio.Proof.Configure
import Wlmio.Proof.StatusHistory
import Wlmio.Proof.FileServer
import Wlmio.Proof.FileFrames
import Wlmio.Proof.Download
import Wlmio.Proof.FdList
import Wlmio.Proof.PayloadBuffers
import Wlmio.Proof.PythonWrites
import Wlmio.Proof.Enumeration
import Wlmio.Proof.RegtoolArguments
import Wlmio.Proof.FutureReferences
import Wlmio.Proof.PythonReads
import Wlmio.Proof.Restart
import Wlmio.Proof.NodeCache
import Wlmio.Proof.Sessions
import Wlmio.Proof.Corruption
import Wlmio.Proof.Transport
import Wlmio.Proof.Custody
import Wlmio.Proof.Subscriptions
import Wlmio.Proof.Assertions
import Wlmio.Proof.ReadBack
import Wlmio.Proof.Fields
import Wlmio.Proof.ModuleWrites
import Wlmio.Proof.ClientNode
import Wlmio.Proof.Exchange
