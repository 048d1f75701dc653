import MbedSockets.Lib.Run
import MbedSockets.Lib.Heap
import MbedSockets.Lib.Inet
import MbedSockets.Sal
import MbedSockets.SocketAddr
import MbedSockets.Socket
import MbedSockets.World
import MbedSockets.Effects
import MbedSockets.Addresses
import MbedSockets.Members
import MbedSockets.Steps
import MbedSockets.Isolation
import MbedSockets.Contracts
import MbedSockets.Callbacks
import MbedSockets.Delivery
import MbedSockets.Requests
import MbedSockets.NullSafety
import MbedSockets.Ownership
import MbedSockets.Incoming
import MbedSockets.Listening
import MbedSockets.Tick
import MbedSockets.Accept
import MbedSockets.Echo.Program
import MbedSockets.Echo.Clients
import MbedSockets.Echo.Termination
import MbedSockets.Echo.Granting
import MbedSockets.Echo.Network
import MbedSockets.Echo.TCPNetwork
import MbedSockets.Echo.TCPStages
import MbedSockets.Echo.TCPEvents
import MbedSockets.Echo.TCPCorrectness
import MbedSockets.Echo.UDPNetwork
import MbedSockets.Echo.UDPStages
import MbedSockets.Echo.UDPCorrectness
import MbedSockets.Echo.Triples
import MbedSockets.Echo.Verdicts
import MbedSockets.Echo.UDPVerdict
import MbedSockets.Echo.TCPVerdict
