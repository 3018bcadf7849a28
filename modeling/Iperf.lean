import Iperf.Library.BigEndian
import Iperf.Library.Blocks
import Iperf.Library.BoundedLoop
import Iperf.Library.Buffer
import Iperf.Library.Checked
import Iperf.Library.DecimalText
import Iperf.Library.DeferredTotal
import Iperf.Library.Dialogue
import Iperf.Library.Distances
import Iperf.Library.DoubleRounding
import Iperf.Library.Doubles
import Iperf.Library.HandleTable
import Iperf.Library.KeyedUpdate
import Iperf.Library.LinkedList
import Iperf.Library.OptionalMembers
import Iperf.Library.Pacing
import Iperf.Library.ScanFormat
import Iperf.Library.SequenceTally
import Iperf.Library.SlidingWindow
import Iperf.Library.StallMonitor
import Iperf.Library.TextLines
import Iperf.Library.Tiling
import Iperf.Library.TimerList
import Iperf.Library.TimerPairs
import Iperf.Library.Transfer
import Iperf.Model.Api
import Iperf.Model.Json
import Iperf.Model.Net
import Iperf.Model.Nrecv
import Iperf.Model.Test
import Iperf.Model.TestTimers
import Iperf.Model.Time
import Iperf.Model.Timeout
import Iperf.Model.Types
import Iperf.Timer.Heap
import Iperf.Timer.Links
import Iperf.Timer.Machine
import Iperf.Timer.Pair
import Iperf.Timer.Procedures
import Iperf.Timer.Refinement
import Iperf.Timer.Run
import Iperf.Udp.Boundaries
import Iperf.Udp.Connect
import Iperf.Udp.Datagrams
import Iperf.Udp.HostileDatagrams
import Iperf.Udp.Jitter
import Iperf.Udp.LossAccounting
import Iperf.Udp.OmittedLoss
import Iperf.Udp.SkipRxCopy
import Iperf.Parameters.Arguments
import Iperf.Parameters.CommandLine
import Iperf.Parameters.Exchange
import Iperf.Parameters.Faithful
import Iperf.Parameters.Sessions
import Iperf.Results.Agreement
import Iperf.Results.Completeness
import Iperf.Results.Exchange
import Iperf.Results.Packets
import Iperf.Auth.Token
import Iperf.Auth.Users
import Iperf.Tcp.Accounting
import Iperf.Tcp.Diskfile
import Iperf.Tcp.SendOutcomes
import Iperf.Tcp.Streams
import Iperf.Tcp.ZeroCopy
import Iperf.Server.Accept
import Iperf.Server.ControlBytes
import Iperf.Server.DescriptorOwners
import Iperf.Server.Descriptors
import Iperf.Server.HeldDescriptors
import Iperf.Server.Loop
import Iperf.Server.Phases
import Iperf.Server.Ports
import Iperf.Server.Requests
import Iperf.Server.Resources
import Iperf.Server.SteadyWorkers
import Iperf.Server.Strangers
import Iperf.Server.WorkerLifetime
import Iperf.Client.EndConditions
import Iperf.Client.Interleaving
import Iperf.Client.Loop
import Iperf.Client.Steps
import Iperf.Stats.BitrateLimit
import Iperf.Stats.BitrateRing
import Iperf.Stats.BlockCount
import Iperf.Stats.Interleaving
import Iperf.Stats.OmittedIntervals
import Iperf.Stats.Pacing
import Iperf.Stats.SendMt
import Iperf.Stats.Throttle
import Iperf.Stats.Workers
import Iperf.Session.ControlAgreement
import Iperf.Session.ControlChannel
import Iperf.Session.ControlClient
import Iperf.Session.ControlScript
import Iperf.Session.ControlServer
import Iperf.Session.Failures
import Iperf.Session.FrameWrites
import Iperf.Session.Framing
import Iperf.Session.PairedStreams
import Iperf.Session.Pairing
import Iperf.Session.ReportPairs
import Iperf.Session.SelectTimeout
import Iperf.Session.StreamCreation
import Iperf.Session.Watchdog
import Iperf.Cjson.Documents
import Iperf.Cjson.Lookup
import Iperf.Cjson.Numbers
import Iperf.Cjson.ParameterTexts
import Iperf.Cjson.Parser
import Iperf.Cjson.ParserMemory
import Iperf.Cjson.PrintBuffer
import Iperf.Cjson.Printer
import Iperf.Cjson.Printing
import Iperf.Cjson.ResultTexts
import Iperf.Cjson.RoundTrip
import Iperf.Cjson.Settling
import Iperf.Cjson.StringMemory
import Iperf.Cjson.StringRoundTrip
import Iperf.Cjson.Strings
import Iperf.Cjson.Transfer
import Iperf.Cjson.Truncation
import Iperf.App.ClientRun
import Iperf.App.Countdown
import Iperf.App.IntervalRecords
import Iperf.App.Outcome
import Iperf.App.Progress
import Iperf.App.ReportTimers
import Iperf.App.Reports
import Iperf.App.StopTest
import Iperf.App.TestRunner
import Iperf.App.TimerOwnership
