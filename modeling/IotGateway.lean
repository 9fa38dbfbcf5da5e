import IotGateway.Lib.Text
import IotGateway.Lib.LineProtocol
import IotGateway.Lib.Decoder
import IotGateway.Lib.Reading
import IotGateway.Net.Buffer
import IotGateway.Protocol.MqttCodec
import IotGateway.Protocol.Receive
import IotGateway.Protocol.RoundTrip
import IotGateway.Protocol.Bodies
import IotGateway.Protocol.RawCodec
import IotGateway.Protocol.Progress
import IotGateway.Protocol.RemainingLength
import IotGateway.Api.ApiServer
import IotGateway.Api.Requests
import IotGateway.Api.Segmentation
import IotGateway.Lib.Run
import IotGateway.Lib.Recent
import IotGateway.Lib.Quantile
import IotGateway.Lib.Redis
import IotGateway.Storage.RedisServer
import IotGateway.Storage.RedisClient
import IotGateway.Storage.StreamEntries
import IotGateway.Storage.TsdbClient
import IotGateway.Storage.Points
import IotGateway.Storage.Batching
import IotGateway.Storage.CommandStatus
import IotGateway.Gateway.DeviceManager
import IotGateway.Gateway.ClusterManager
import IotGateway.Gateway.GatewayServer
import IotGateway.Gateway.System
import IotGateway.Gateway.Frame
import IotGateway.Gateway.LastReadings
import IotGateway.Gateway.Membership
import IotGateway.Gateway.Presence
import IotGateway.Gateway.FailureDetection
import IotGateway.Gateway.NodeRegistry
import IotGateway.Lib.Sessions
import IotGateway.Lib.Schedule
import IotGateway.Lib.Changes
import IotGateway.Gateway.Sessions
import IotGateway.Gateway.Takeover
import IotGateway.Gateway.RegistryRecord
import IotGateway.Gateway.RegistryAgreement
import IotGateway.Gateway.RecordEdits
import IotGateway.Gateway.HeartbeatRace
import IotGateway.Gateway.RouteSubscription
import IotGateway.Gateway.NodeChanges
import IotGateway.Gateway.ClusterStats
import IotGateway.Gateway.Failover
import IotGateway.Gateway.Delivery
import IotGateway.Gateway.AtLeastOnce
import IotGateway.Gateway.AtMostOnce
import IotGateway.Gateway.Outcomes
import IotGateway.Gateway.CommandFrame
import IotGateway.Gateway.PacketIds
import IotGateway.Gateway.Forwarding
import IotGateway.Gateway.Timeouts
import IotGateway.Gateway.Recovery
import IotGateway.Gateway.Leaving
import IotGateway.Api.Enqueue
import IotGateway.Lib.Json
import IotGateway.Api.PostedCommand
import IotGateway.Api.Routing
import IotGateway.Gateway.Subscriptions
import IotGateway.Net.RawBuffer
import IotGateway.Gateway.Telemetry
import IotGateway.Gateway.ServedSubscriptions
import IotGateway.Gateway.FanOut
import IotGateway.Gateway.SubAck
import IotGateway.Gateway.KeepAlive
import IotGateway.Gateway.CommandIds
import IotGateway.Gateway.ClosedConnections
import IotGateway.Gateway.Workers
import IotGateway.Net.Output
import IotGateway.Net.Threads
import IotGateway.Net.Lifecycle
import IotGateway.Net.Shutdown
import IotGateway.Net.EventLoop
import IotGateway.Net.PendingFunctors
import IotGateway.Net.Quit
import IotGateway.Net.Timers
import IotGateway.Net.TimerRuns
import IotGateway.Net.TimerFd
import IotGateway.Platform.AlertEngine
import IotGateway.Platform.DisabledRules
import IotGateway.Platform.AlertHistory
import IotGateway.Platform.MetricsCollector
import IotGateway.Platform.Aggregates
import IotGateway.Net.Acceptor
import IotGateway.Net.TcpServer
import IotGateway.Net.Surroundings
import IotGateway.Net.ServerSteps
import IotGateway.Net.ServerRuns
import IotGateway.Lib.Http
import IotGateway.Api.Exchange
import IotGateway.Api.Responses
import IotGateway.Api.GatewayApi
import IotGateway.Platform.WebDashboard
import IotGateway.Platform.DeviceList
import IotGateway.Net.Carried
import IotGateway.Gateway.Downlink
import IotGateway.Gateway.CommandPath
import IotGateway.Protocol.Simulator
