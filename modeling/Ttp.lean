import Ttp.Accounts
import Ttp.Agent
import Ttp.AgentUnit
import Ttp.Authority
import Ttp.Bridges
import Ttp.Bypass
import Ttp.CheckBeside
import Ttp.Conduct
import Ttp.Containment
import Ttp.Deadlines
import Ttp.DnssecPolicy
import Ttp.EmergencyContract
import Ttp.EmergencyHistory
import Ttp.Footprint
import Ttp.Identity
import Ttp.Inotify
import Ttp.Integrity
import Ttp.JsonRoundTrip
import Ttp.JsonText
import Ttp.Latch
import Ttp.LeakCounters
import Ttp.LoadSettings
import Ttp.LockShape
import Ttp.LockText
import Ttp.LockUpdates
import Ttp.Monitor
import Ttp.MountStack
import Ttp.Netprobe
import Ttp.NewCircuit
import Ttp.NftScript
import Ttp.NonInterference
import Ttp.Overclaim
import Ttp.Persistence
import Ttp.PolicyStamp
import Ttp.PortLabels
import Ttp.ProbeText
import Ttp.Receipts
import Ttp.RecordRuns
import Ttp.RecordText
import Ttp.Restoration
import Ttp.Rollback
import Ttp.Start
import Ttp.StatusReport
import Ttp.StopIntent
import Ttp.StopMarker
import Ttp.Supervision
import Ttp.SupervisorProtocol
import Ttp.Tally
import Ttp.TrustedPaths
import Ttp.Verdict
import Ttp.WatchLoss
