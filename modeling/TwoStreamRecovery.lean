import TwoStreamRecovery.Lib.Runs
import TwoStreamRecovery.Agreement
import TwoStreamRecovery.Outage
import TwoStreamRecovery.OutputUdp
import TwoStreamRecovery.AlignmentEvidence
import TwoStreamRecovery.PrimaryOutput
import TwoStreamRecovery.LossDiagnosis
import TwoStreamRecovery.Replacement
import TwoStreamRecovery.NullStuffing
import TwoStreamRecovery.Hitless
import TwoStreamRecovery.SecondaryLoss
import TwoStreamRecovery.OldContent
import TwoStreamRecovery.ContentGap
import TwoStreamRecovery.Decisions
import TwoStreamRecovery.PartialDatagrams
import TwoStreamRecovery.Resync
import TwoStreamRecovery.HeaderLayout
import TwoStreamRecovery.SecondaryGaps
import TwoStreamRecovery.StreamHealth
import TwoStreamRecovery.NumericValues
import TwoStreamRecovery.HistoryWindow
import TwoStreamRecovery.BoundaryMatches
import TwoStreamRecovery.RejectedSends
import TwoStreamRecovery.WebServer
import TwoStreamRecovery.PacketScan
import TwoStreamRecovery.FailStop
import TwoStreamRecovery.Relay
import TwoStreamRecovery.Lib.Http
import TwoStreamRecovery.Lib.Json
import TwoStreamRecovery.Pacing
import TwoStreamRecovery.Replies
import TwoStreamRecovery.Arguments
import TwoStreamRecovery.Lib.Ledger
import TwoStreamRecovery.Descriptors
import TwoStreamRecovery.Releases
import TwoStreamRecovery.StatsPage
