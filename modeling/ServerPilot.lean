import ServerPilot.Lib.Rows
import ServerPilot.Lib.Checked
import ServerPilot.Lib.Run
import ServerPilot.Lib.Tally
import ServerPilot.Model.Holding
import ServerPilot.Spec.Op
import ServerPilot.Proof.Consistency
import ServerPilot.Proof.Epoch
import ServerPilot.Proof.Promises
import ServerPilot.Proof.Available
import ServerPilot.Proof.Names
import ServerPilot.Proof.Evidence
import ServerPilot.Proof.KeeperCards
import ServerPilot.Proof.KeeperStops
import ServerPilot.Proof.Replay
import ServerPilot.Proof.Provided
import ServerPilot.Proof.Limits
import ServerPilot.Proof.ManualRelease
import ServerPilot.Proof.Redeclare
import ServerPilot.Proof.Environment
import ServerPilot.Proof.Workers
import ServerPilot.Proof.Locks
import ServerPilot.Proof.Refused
import ServerPilot.Proof.Ownership
import ServerPilot.Proof.Stale
import ServerPilot.Proof.Connection
import ServerPilot.Proof.Slurm
import ServerPilot.Proof.Columns
import ServerPilot.Proof.Figures
import ServerPilot.Proof.Physical
import ServerPilot.Proof.Notices
import ServerPilot.Proof.Summary
import ServerPilot.Proof.Placement
import ServerPilot.Proof.Fragments
import ServerPilot.Proof.Suffices
import ServerPilot.Proof.Resize
import ServerPilot.Proof.Coalesce
import ServerPilot.Proof.Errors
import ServerPilot.Proof.Histories
import ServerPilot.Proof.Records
import ServerPilot.Proof.Debounce
import ServerPilot.Proof.Edges
import ServerPilot.Proof.Takeover
import ServerPilot.Proof.Returns
import ServerPilot.Proof.Helper
import ServerPilot.Proof.Scheduler
import ServerPilot.Proof.StartBatch
import ServerPilot.Proof.Delegated
import ServerPilot.Proof.Relinquish
import ServerPilot.Proof.Watch
import ServerPilot.Proof.Probe
import ServerPilot.Proof.GroupIdentifier
import ServerPilot.Proof.Policy
import ServerPilot.Proof.Events
import ServerPilot.Proof.Ordinals
import ServerPilot.Proof.Importer
import ServerPilot.Proof.Plugins
import ServerPilot.Proof.Estimate
import ServerPilot.Proof.KeepIdle
import ServerPilot.Proof.Protocol
import ServerPilot.Proof.GresRead
import ServerPilot.Proof.RateLimiter
import ServerPilot.Proof.History
import ServerPilot.Proof.BodyLimit
import ServerPilot.Proof.CommandText
import ServerPilot.Proof.EndpointLocks
import ServerPilot.Proof.Absence
import ServerPilot.Proof.StateFile
import ServerPilot.Proof.Groups
import ServerPilot.Proof.KeepalivePass
import ServerPilot.Proof.Supervisor
import ServerPilot.Proof.Notify
import ServerPilot.Proof.Backup
import ServerPilot.Proof.Revision
