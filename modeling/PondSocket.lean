import PondSocket.Js.LocalMembership
import PondSocket.Js.StaleCleanup
import PondSocket.Js.ChannelVoice
import PondSocket.Js.Cluster
import PondSocket.Js.Attribution
import PondSocket.Js.Teardown
import PondSocket.Js.Wiring
import PondSocket.Js.Addressing
import PondSocket.Js.Kick
import PondSocket.Js.ChannelRelease
import PondSocket.Js.Subscription
import PondSocket.Js.Endpoint
import PondSocket.Js.GhostMembers
import PondSocket.Js.LobbyMap
import PondSocket.Js.ClientChannel
import PondSocket.Js.ClosedChannel
import PondSocket.Js.Rejoin
import PondSocket.Js.ChannelHanded
import PondSocket.Js.LeaveAgreement
import PondSocket.Js.PresenceViews
import PondSocket.Js.JoinReplies
import PondSocket.Js.AnswersOnce
import PondSocket.Js.Outgoing
import PondSocket.Js.Wire
import PondSocket.Js.JsString
import PondSocket.Js.Uri
import PondSocket.Library.Capture
import PondSocket.Js.Route
import PondSocket.Js.RouteGrammar
import PondSocket.Js.RouteMatch
import PondSocket.Js.RouteBuild
import PondSocket.Js.Topics
import PondSocket.Go.Protocol
import PondSocket.Go.Channel
import PondSocket.Go.Remote
import PondSocket.Go.Recipients
import PondSocket.Go.PubSub
import PondSocket.Go.ChannelIsolation
import PondSocket.Go.AssignsReplica
import PondSocket.Go.AssignsUpdate
import PondSocket.Go.Operations
import PondSocket.Go.Membership
import PondSocket.Go.StaleNodes
import PondSocket.Go.Hub
import PondSocket.Go.ChannelClose
import PondSocket.Go.Dispatch
import PondSocket.Go.DispatchOrder
import PondSocket.Go.HandlerOrder
import PondSocket.Go.Teardown
import PondSocket.Rust.Channel
import PondSocket.Rust.Remote
import PondSocket.Rust.Codec
import PondSocket.Rust.PresenceReplica
import PondSocket.Rust.Broadcast
import PondSocket.Rust.Delivery
import PondSocket.Rust.HandlerTasks
import PondSocket.Rust.Join
import PondSocket.Rust.LobbyTeardown
import PondSocket.Rust.ConsumedAlike
import PondSocket.Python.Targets
import PondSocket.Python.Convergence
import PondSocket.Python.Merge
import PondSocket.Python.Join
import PondSocket.Python.Teardown
import PondSocket.Python.Liveness
import PondSocket.Library.BoundedQueue
import PondSocket.Python.ClientChannel
import PondSocket.Python.ClientJoin
import PondSocket.Go.Frames
import PondSocket.Go.ClientFrames
import PondSocket.Js.Frames
import PondSocket.Go.Seated
import PondSocket.Go.Housed
import PondSocket.Go.Handlers
import PondSocket.Go.MessageOrder
import PondSocket.Go.MessageTurns
import PondSocket.Go.MessagesInTurn
import PondSocket.Go.ClientFeed
import PondSocket.Go.ClientLink
import PondSocket.Go.ClientRun
import PondSocket.Go.ClientOnce
import PondSocket.Go.ClientDelivery
import PondSocket.Go.ClientRejoin
import PondSocket.Go.ClientIntent
import PondSocket.Go.LocalPresence
import PondSocket.Go.Codec
import PondSocket.Go.RoundTrip
import PondSocket.Go.ClusterMessages
import PondSocket.Go.ClusterReceive
import PondSocket.Go.ClusterBalance
import PondSocket.Go.ClusterAddressing
import PondSocket.Go.AssignsOrder
import PondSocket.Go.GhostMembers
import PondSocket.Go.JoinAnswers
import PondSocket.Python.Reconnect
import PondSocket.Rust.Disconnect
import PondSocket.Go.FrameReaders
import PondSocket.Rust.ClientFrames
import PondSocket.Python.ClientFrames
import PondSocket.Go.ForeignClients
import PondSocket.Go.SseStream
import PondSocket.Python.SseStream
import PondSocket.Go.LockedQueue
import PondSocket.Library.LooseJson
import PondSocket.Python.WireOutput
import PondSocket.Python.GhostMembers
import PondSocket.Library.Tasks
import PondSocket.Python.PresenceViews
import PondSocket.Rust.LockSections
import PondSocket.Rust.PresenceViews
import PondSocket.Js.Middleware
import PondSocket.Python.RedisPubSub
import PondSocket.Routing.Parser
import PondSocket.Rust.RouteParser
import PondSocket.Go.RouteParser
import PondSocket.Python.RouteParser
import PondSocket.Routing.Alike
import PondSocket.Js.AtomicJoin
import PondSocket.Js.SendQueue
import PondSocket.Js.SseConnection
import PondSocket.Js.WebSocketConnection
import PondSocket.Js.Notifications
import PondSocket.Js.UserGets
import PondSocket.Js.Responses
import PondSocket.Go.ClientQueue
import PondSocket.Go.CloseConnection
import PondSocket.Go.CloseHandlers
import PondSocket.Go.ConnectionLimit
import PondSocket.Go.PresenceOutcomes
import PondSocket.Go.RedisPubSub
import PondSocket.Rust.ClientConnection
import PondSocket.Rust.RedisPubSub
import PondSocket.Rust.ClientQueue
import PondSocket.Python.RateLimiter
import PondSocket.Python.SseDelivery
import PondSocket.Python.Disconnect
import PondSocket.Js.Heartbeat
import PondSocket.Js.Upgrade
import PondSocket.Rust.DeliveredOnce
