import ItcFramework.Lib.Bytes
import ItcFramework.Itc.Message
import ItcFramework.Itc.Allocation
import ItcFramework.Lib.ByteStream
import ItcFramework.Gateway.Framing
import ItcFramework.Lib.Transition
import ItcFramework.Transport.Sysvmq
import ItcFramework.Transport.SysvmqDelivery
import ItcFramework.Gateway.PeerTable
import ItcFramework.Gateway.Peers
import ItcFramework.Lib.LinkedChain
import ItcFramework.Transport.Sysvshm
import ItcFramework.Transport.SysvshmDelivery
import ItcFramework.Coord.Registry
import ItcFramework.Coord.RegistryConsistency
import ItcFramework.Coord.Recycling
import ItcFramework.Coord.LocateReply
import ItcFramework.Coord.UsedListScan
import ItcFramework.Transport.RxQueue
import ItcFramework.Transport.Local
import ItcFramework.Itc.Process
import ItcFramework.Itc.ProcessInv
import ItcFramework.Itc.SendCases
import ItcFramework.Itc.CallSpecs
import ItcFramework.Itc.Accounting
import ItcFramework.Itc.Locate
import ItcFramework.Itc.Ids
import ItcFramework.Itc.Slots
import ItcFramework.Itc.NameLookup
import ItcFramework.Itc.LocateSpecs
import ItcFramework.Transport.LocalRemove
import ItcFramework.Transport.Posixmq
import ItcFramework.Itc.Queue
import ItcFramework.Itc.QueueRuns
import ItcFramework.Coord.Slots
import ItcFramework.Transport.Posixshm
import ItcFramework.Itc.PosixmqProcess
import ItcFramework.Coord.Handshake
import ItcFramework.Coord.OutOfSlots
import ItcFramework.Itc.Forward
import ItcFramework.Itc.Ownership
import ItcFramework.Itc.Exchange
import ItcFramework.Itc.Waiting
import ItcFramework.Lib.Iteration
import ItcFramework.Lib.Counting
import ItcFramework.Lib.Region
import ItcFramework.Transport.SendTermination
import ItcFramework.Transport.SysvshmBalance
import ItcFramework.Transport.SysvshmLayout
import ItcFramework.Itc.Lifecycle
import ItcFramework.Itc.Restart
import ItcFramework.Gateway.UdpMirror
import ItcFramework.Lib.Custody
import ItcFramework.Gateway.Descriptors
import ItcFramework.Gateway.ByteOrder
import ItcFramework.Gateway.FwdInput
import ItcFramework.Transport.RxLength
import ItcFramework.Lib.Scan
import ItcFramework.Gateway.Broadcast
import ItcFramework.Gateway.AddPeer
import ItcFramework.Itc.ThreadManager
import ItcFramework.Lib.Triple
import ItcFramework.Itc.ResultCode
import ItcFramework.Itc.RxqMutex
import ItcFramework.Itc.SyncRequest
import ItcFramework.Coord.IncomingRequest
import ItcFramework.Coord.RequestRuns
import ItcFramework.Itc.Relay
import ItcFramework.Gateway.Journey
import ItcFramework.Gateway.MboxReply
import ItcFramework.Coord.LocateNet
import ItcFramework.Coord.LocateRuns
import ItcFramework.Lib.Monitor
import ItcFramework.Itc.MailboxThreads
import ItcFramework.Itc.MailboxCalls
import ItcFramework.Transport.PosixmqNotify
import ItcFramework.Itc.HostQueues
import ItcFramework.Itc.Host
import ItcFramework.Itc.HostRuns
import ItcFramework.Lib.Simulation
import ItcFramework.Transport.SysvshmBytes
import ItcFramework.Transport.PosixshmCalls
import ItcFramework.Coord.Notifications
import ItcFramework.Coord.Directory
import ItcFramework.Coord.DirectoryRuns
import ItcFramework.Coord.DirectorySettles
import ItcFramework.Lib.Pipe
import ItcFramework.Gateway.Turns
import ItcFramework.Gateway.Network
import ItcFramework.Gateway.NetworkRuns
