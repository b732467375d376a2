import Kpnet.Lib.BoundedQueue
import Kpnet.Lib.Bytes
import Kpnet.Lib.CircularList
import Kpnet.Lib.Counter
import Kpnet.Lib.ReflectedCrc
import Kpnet.Lib.ErrorDetection
import Kpnet.Lib.BlockHash
import Kpnet.Lib.OnesComplement
import Kpnet.Lib.InternetChecksum
import Kpnet.Lib.LastWritten
import Kpnet.Lib.Supply
import Kpnet.Lib.HexNumeral
import Kpnet.Lib.Attributes
import Kpnet.Lib.Cleared
import Kpnet.Lib.Runs
import Kpnet.Lib.SlotRing
import Kpnet.Lib.Tokens
import Kpnet.Lib.Traced
import Kpnet.Lib.Acquisition
import Kpnet.Random.Pool
import Kpnet.Random.Threads
import Kpnet.Ring.Ringbuf
import Kpnet.Ring.Refinement
import Kpnet.Ring.Queue
import Kpnet.Ring.History
import Kpnet.Ring.Allocators
import Kpnet.Ring.Release
import Kpnet.Ring.Interleaving
import Kpnet.Ring.Positions
import Kpnet.Ring.Claiming
import Kpnet.Ring.Custody
import Kpnet.Ring.Ownership
import Kpnet.Ring.OnePopper
import Kpnet.Timer.Ringtimer
import Kpnet.Timer.Slot
import Kpnet.Timer.Walk
import Kpnet.Timer.Rounds
import Kpnet.Timer.Tick
import Kpnet.Timer.Punctual
import Kpnet.Timer.Once
import Kpnet.Timer.Shape
import Kpnet.Timer.Results
import Kpnet.Timer.Single
import Kpnet.Xdp.Umem
import Kpnet.Xdp.Rings
import Kpnet.Xdp.Transmit
import Kpnet.Xdp.Scatter
import Kpnet.Xdp.Deliveries
import Kpnet.Xdp.Conservation
import Kpnet.Xdp.Slab
import Kpnet.Xdp.Available
import Kpnet.Xdp.Environment
import Kpnet.Sctp.Digests
import Kpnet.Sctp.Association
import Kpnet.Sctp.Crc
import Kpnet.Sctp.Md5
import Kpnet.Sctp.Builders
import Kpnet.Sctp.Receive
import Kpnet.Sctp.Setup
import Kpnet.Sctp.AssocBlocks
import Kpnet.Sctp.StaleCookies
import Kpnet.Sctp.RawHandshake
import Kpnet.Sctp.Filtered
import Kpnet.Sctp.RawExchange
import Kpnet.Sctp.Exchange
import Kpnet.Sctp.StateMachine
import Kpnet.Sctp.Handshake
import Kpnet.Sctp.Identity
import Kpnet.Sctp.Replies
import Kpnet.Sctp.Checks
import Kpnet.Sctp.Access
import Kpnet.Sctp.Data
import Kpnet.Sctp.Exhausted
import Kpnet.Sctp.Numbering
import Kpnet.Sctp.Streams
import Kpnet.Sctp.Packets
import Kpnet.Sctp.PacketBounds
import Kpnet.Sctp.Retransmission
import Kpnet.Sctp.StreamCounts
import Kpnet.Sctp.StreamTables
import Kpnet.Sctp.Circulation
import Kpnet.Sctp.Checksums
import Kpnet.Sctp.Templates
import Kpnet.Sctp.DataFrames
import Kpnet.Sctp.Fragments
import Kpnet.Sctp.InitFrame
import Kpnet.Sctp.EchoLength
import Kpnet.Sctp.Raw
import Kpnet.Sctp.CookieLayout
import Kpnet.Sctp.IpUpdates
import Kpnet.Sctp.Acceptance
import Kpnet.Sctp.Damage
import Kpnet.Sctp.ReceiveThread
import Kpnet.Sctp.BundleLimits
import Kpnet.Sctp.Segments
import Kpnet.Sctp.Drift
import Kpnet.Tcp.Receive
import Kpnet.Tcp.FixCheck
import Kpnet.Tcp.CachedCheck
import Kpnet.Tcp.BuildRaw
import Kpnet.Net.MacText
import Kpnet.Net.Veth
import Kpnet.Net.Requests
import Kpnet.Net.Strlcpy
import Kpnet.Sctp.Network
import Kpnet.Sctp.Completion
import Kpnet.Sctp.Agreement
