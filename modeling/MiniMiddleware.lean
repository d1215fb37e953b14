import MiniMiddleware.Library.Brackets
import MiniMiddleware.Library.FailureDetector
import MiniMiddleware.Library.Layout
import MiniMiddleware.Library.Lists
import MiniMiddleware.Library.Machine
import MiniMiddleware.Library.Monitor
import MiniMiddleware.Library.NearestRank
import MiniMiddleware.Library.Options
import MiniMiddleware.Library.PairSearch
import MiniMiddleware.Library.RefCounts
import MiniMiddleware.Library.Tables
import MiniMiddleware.Library.Threads
import MiniMiddleware.Common.Text
import MiniMiddleware.Common.Protobuf
import MiniMiddleware.Common.CLibrary
import MiniMiddleware.Common.BlockingQueue
import MiniMiddleware.Common.QueueHistory
import MiniMiddleware.Common.QueueMonitor
import MiniMiddleware.Transport.ShmRing
import MiniMiddleware.Transport.ShmRingLayout
import MiniMiddleware.Transport.ShmRingInvariant
import MiniMiddleware.Transport.ShmRingReads
import MiniMiddleware.Transport.ShmRingCursor
import MiniMiddleware.Transport.ShmRingSequential
import MiniMiddleware.Transport.ShmRingSession
import MiniMiddleware.Transport.ShmRingExact
import MiniMiddleware.Transport.ShmRingAttach
import MiniMiddleware.Transport.ShmSegment
import MiniMiddleware.Transport.ShmSegmentBounds
import MiniMiddleware.Transport.FrameCodec
import MiniMiddleware.Transport.TcpServerTransport
import MiniMiddleware.Transport.FrameStreams
import MiniMiddleware.Transport.TcpServerConnections
import MiniMiddleware.Transport.TcpClientTransport
import MiniMiddleware.Transport.TcpClientWakeup
import MiniMiddleware.Transport.TcpClientSends
import MiniMiddleware.Transport.TcpClientThreads
import MiniMiddleware.Transport.TcpClientDescriptors
import MiniMiddleware.Discovery.EndpointMatcher
import MiniMiddleware.Discovery.MatchSymmetry
import MiniMiddleware.Discovery.DiscoveryAgent
import MiniMiddleware.Discovery.Coverage
import MiniMiddleware.Discovery.Snapshot
import MiniMiddleware.Discovery.FirstPairs
import MiniMiddleware.Discovery.MatchHistory
import MiniMiddleware.Discovery.StaleMatches
import MiniMiddleware.Discovery.DiscoveryNetwork
import MiniMiddleware.Discovery.TimedGroup
import MiniMiddleware.Discovery.Liveliness
import MiniMiddleware.Discovery.Convergence
import MiniMiddleware.Core.Subscriber
import MiniMiddleware.Core.LocalDelivery
import MiniMiddleware.Core.LocalBus
import MiniMiddleware.Core.TopicTable
import MiniMiddleware.Core.TcpDelivery
import MiniMiddleware.Core.DataPlane
import MiniMiddleware.Core.DataPlaneLifecycle
import MiniMiddleware.Core.MirroredRoutes
import MiniMiddleware.Core.Node
import MiniMiddleware.Core.ChannelBooks
import MiniMiddleware.Core.ChannelAccounting
import MiniMiddleware.Core.ChannelsFollow
import MiniMiddleware.Core.RouteAgreement
import MiniMiddleware.Core.ShmReaderManager
import MiniMiddleware.Core.PollPass
import MiniMiddleware.Core.UndisturbedPass
import MiniMiddleware.Core.SinkLists
import MiniMiddleware.Core.Fabric
import MiniMiddleware.Core.Network
import MiniMiddleware.Core.SegmentOwners
import MiniMiddleware.Core.NoForwarding
import MiniMiddleware.Core.TopicIsolation
import MiniMiddleware.Core.LiveSegment
import MiniMiddleware.Core.TypeSafety
import MiniMiddleware.Core.RingWriters
import MiniMiddleware.Core.RpcTopics
import MiniMiddleware.Core.RpcSegments
import MiniMiddleware.Core.Client
import MiniMiddleware.Core.FirstReply
import MiniMiddleware.Core.PendingCalls
import MiniMiddleware.Core.Service
import MiniMiddleware.Core.ServiceReplies
import MiniMiddleware.Core.Rpc
import MiniMiddleware.Core.RpcTypes
import MiniMiddleware.Core.ReplyTopics
import MiniMiddleware.Core.RequestTopics
import MiniMiddleware.Config.Config
import MiniMiddleware.Config.ParseUnsigned
import MiniMiddleware.Config.ConfigMeaning
import MiniMiddleware.Config.ConfigRender
import MiniMiddleware.Cli.Args
import MiniMiddleware.Cli.MessageFormat
import MiniMiddleware.Cli.ArgsMeaning
import MiniMiddleware.Cli.TopicCommands
import MiniMiddleware.Bench.MessageCodec
import MiniMiddleware.Bench.PayloadOffsets
import MiniMiddleware.Bench.BenchArgs
import MiniMiddleware.Bench.BenchArgsMeaning
import MiniMiddleware.Bench.RunMessages
import MiniMiddleware.Bench.BenchmarkSampleCollector
import MiniMiddleware.Bench.Stats
import MiniMiddleware.Bench.PublishLoop
import MiniMiddleware.Bench.InFlightWindow
import MiniMiddleware.Bench.BenchmarkRun
