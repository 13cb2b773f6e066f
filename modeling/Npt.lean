import Npt.Ci.ArtifactFiles
import Npt.Ci.Artifacts
import Npt.Ci.Client.Accounting
import Npt.Ci.Client.Attribution
import Npt.Ci.Client.DirectPath
import Npt.Ci.Client.EchoedStalls
import Npt.Ci.Client.Finishing
import Npt.Ci.Client.Latency
import Npt.Ci.Client.NoReturn
import Npt.Ci.Client.Pacing
import Npt.Ci.Client.PassSoundness
import Npt.Ci.Client.Path
import Npt.Ci.Client.Phases
import Npt.Ci.Client.Progress
import Npt.Ci.Client.RttSummary
import Npt.Ci.Client.Run
import Npt.Ci.Client.Series
import Npt.Ci.Client.Silence
import Npt.Ci.Client.StallEpisodes
import Npt.Ci.Client.State
import Npt.Ci.Client.TcpFlow
import Npt.Ci.Client.UdpDeadline
import Npt.Ci.Client.UdpFlow
import Npt.Ci.Client.UdpNoReturn
import Npt.Ci.Client.UdpReader
import Npt.Ci.Client.Watchdog
import Npt.Ci.Config
import Npt.Ci.Detect
import Npt.Ci.EchoServer
import Npt.Ci.Panel
import Npt.Ci.Protocol
import Npt.Ci.Replies
import Npt.Ci.Server
import Npt.Ci.Suite
import Npt.Ci.UdpEcho
import Npt.Ci.VerdictOrder
import Npt.Client.ActiveUsers
import Npt.Client.ConnectionLedger
import Npt.Client.Effect
import Npt.Client.ErrorCauses
import Npt.Client.Failover
import Npt.Client.HealthHistory
import Npt.Client.PoolRecovery
import Npt.Client.QuicClient
import Npt.Client.QuicVisibility
import Npt.Client.RecordLedger
import Npt.Client.Retry
import Npt.Client.RoundRobin
import Npt.Client.ServerPool
import Npt.Client.Simulator
import Npt.Client.StopFlag
import Npt.Client.TcpClient
import Npt.Client.UserSession
import Npt.Core.BoundedQueue
import Npt.Core.ByteStream
import Npt.Core.Channel
import Npt.Core.Coupled
import Npt.Core.Csv
import Npt.Core.Decimal
import Npt.Core.Dialogue
import Npt.Core.Fleet
import Npt.Core.Hysteresis
import Npt.Core.IndexedFamily
import Npt.Core.Json
import Npt.Core.Latest
import Npt.Core.Ledger
import Npt.Core.LittleEndian
import Npt.Core.Markup
import Npt.Core.Observer
import Npt.Core.OrderStatistics
import Npt.Core.Plot
import Npt.Core.PrefixCode
import Npt.Core.Rotation
import Npt.Core.RunningSum
import Npt.Core.ScrollWindow
import Npt.Core.Substring
import Npt.Core.Table
import Npt.Core.TableSum
import Npt.Core.TaskPool
import Npt.Core.Template
import Npt.Core.Throttle
import Npt.Core.TransitionSystem
import Npt.Core.Utf8
import Npt.Server.Acceptor
import Npt.Server.Answers
import Npt.Server.GeneratedResponse
import Npt.Server.MessageAccounting
import Npt.Server.QuicServer
import Npt.Server.Returning
import Npt.Server.SessionAttribution
import Npt.Server.SessionCleanup
import Npt.Server.SessionMap
import Npt.Server.TcpServer
import Npt.Shared.Averages
import Npt.Shared.BandTotals
import Npt.Shared.CheckedReport
import Npt.Shared.Config
import Npt.Shared.Conservation
import Npt.Shared.ErrorExport
import Npt.Shared.Export
import Npt.Shared.ExportedCsv
import Npt.Shared.ExportedPage
import Npt.Shared.LogBuffer
import Npt.Shared.LogFile
import Npt.Shared.LogFormatter
import Npt.Shared.Message
import Npt.Shared.Metrics
import Npt.Shared.Operation
import Npt.Shared.OrderIndependence
import Npt.Shared.Percentiles
import Npt.Shared.Protocol
import Npt.Shared.RealLatencies
import Npt.Shared.Report
import Npt.Shared.ReportJson
import Npt.Shared.ReportedErrors
import Npt.Shared.Sampling
import Npt.Shared.SharedLog
import Npt.Shared.Text
import Npt.System.Agreement
import Npt.System.Charts
import Npt.System.ClientDashboard
import Npt.System.Download
import Npt.System.EarlyStop
import Npt.System.Framing
import Npt.System.LogPanels
import Npt.System.ResponseSizes
import Npt.System.ServerDashboard
import Npt.System.SessionTraffic
import Npt.System.StoppableSession
import Npt.System.TrafficAgreement
import Npt.System.TransferSession
import Npt.System.TransferStages
import Npt.System.Truncation
import Npt.System.Upload
