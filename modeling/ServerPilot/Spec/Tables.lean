import ServerPilot.Lib.Rows
import ServerPilot.Spec.Request

/-!
# The broker's tables

One structure per table, with the columns its domain functions read or write.
The state is split in two:

* `Plant`: what is known of the machines: inventory, observations, processes,
  keepalive workers;
* `Ledger`: what has been promised: leases, their cards, host commitments,
  provider allocations, the audit trail.

A function of the source that writes only one half has a type that says so.
-/

namespace ServerPilot

/-! ## Configuration -/

/-- `PluginInfo`, for a discovered observation plugin. -/
structure Plugin where
  pluginId : String
  capabilities : List String
  releaseGranularity : String := "device"
  maxLeaseSeconds : Option ℕ := none
  deriving DecidableEq, Repr

/-- The settings in force, with the bounds their schema enforces, and the plugins installed. -/
structure Config where
  intervalSeconds : ℕ := 10
  processAbsenceGraceSeconds : ℕ := 60
  idleLeaseAlertSeconds : ℕ := 600
  idleLeaseReclaimSeconds : ℕ := 3600
  idleCardReclaimSeconds : ℕ := 1800
  /-- `get_plugin` -/
  plugin : String → Option Plugin
  interval_bounds : 1 ≤ intervalSeconds ∧ intervalSeconds ≤ 3600
  grace_bounds : 30 ≤ processAbsenceGraceSeconds ∧ processAbsenceGraceSeconds ≤ 3600
  alert_bounds : 60 ≤ idleLeaseAlertSeconds ∧ idleLeaseAlertSeconds ≤ 86400
  reclaim_bounds : 120 ≤ idleLeaseReclaimSeconds ∧ idleLeaseReclaimSeconds ≤ 604800
  card_bounds : 120 ≤ idleCardReclaimSeconds ∧ idleCardReclaimSeconds ≤ 604800
  reclaim_after_alert : idleLeaseAlertSeconds ≤ idleLeaseReclaimSeconds

/-- `stale_after_seconds`: one interval and one whole probe (10 s to connect, 20 s to answer). -/
def Config.staleAfterSeconds (cfg : Config) : ℕ := cfg.intervalSeconds + (10 + 20)

/-- The staleness limit as a span. -/
def Config.staleAfter (cfg : Config) : Time := seconds cfg.staleAfterSeconds

/-- `process_absence_grace_seconds` as a span. -/
def Config.absenceGrace (cfg : Config) : Time := seconds cfg.processAbsenceGraceSeconds

/-- `IDLE_OUTAGE_RESET_SECONDS` as a span. -/
def idleOutageReset : Time := seconds 300

/-- `PROCESS_START_TIME_JITTER_SECONDS` as a span. -/
def processStartTimeJitter : Time := seconds 2

/-- `MAX_KEEP_IDLE_WINDOWS`. -/
def maxKeepIdleWindows : ℕ := 3

/-! ## The plant -/

inductive KeepalivePolicy
  | disabled | idleKeepalive
  deriving DecidableEq, Repr

structure ServerGroup where
  id : String
  workspacePath : String
  deriving DecidableEq, Repr

structure Endpoint where
  id : String
  host : String
  port : ℕ
  sshUser : String
  workspacePath : Option String := none
  observationProfile : String := "linux"
  keepaliveAdapterId : Option String := none
  keepalivePolicy : KeepalivePolicy := .disabled
  labels : List String := []
  serverGroupId : Option String := none
  deriving DecidableEq, Repr

structure GPUDevice where
  id : String
  endpointId : String
  nodeId : String
  gpuUuid : String
  gpuIndex : ℕ
  cudaOrdinal : Option ℕ
  name : String
  totalVramMib : ℕ
  labels : List String := []
  health : String
  present : Bool
  firstSeenAt : Time
  lastSeenAt : Time
  absentAt : Option Time := none
  deriving DecidableEq, Repr

/-- `TelemetryCurrent`: the latest reading of one card. -/
structure TelemetryCurrent where
  gpuId : String
  observedAt : Time
  collectedAt : Time
  memoryUsedMib : ℕ
  memoryFreeMib : ℕ
  gpuUtilizationPct : Option ℕ := none
  health : String := "OK"
  deriving DecidableEq, Repr

/-- `EndpointTelemetryCurrent`: the latest reading of one host. -/
structure HostTelemetry where
  endpointId : String
  nodeId : String
  bootId : Option String := none
  observedAt : Time
  collectedAt : Time
  cpuCount : ℕ
  load1m : ℚ := 0
  cpuTotalTicks : Option ℕ := none
  cpuIdleTicks : Option ℕ := none
  cpuUsageUsec : Option ℕ := none
  cpuQuotaUsec : Option ℤ := none
  cpuPeriodUsec : Option ℤ := none
  cpuUtilizationPct : Option ℚ := none
  memoryTotalMib : ℕ
  memoryAvailableMib : ℕ
  memoryLimitMib : Option ℤ := none
  memoryCurrentMib : Option ℕ := none
  deriving DecidableEq, Repr

structure NodeObservationState where
  endpointId : String
  nodeId : String
  lastSuccessAt : Option Time
  lastAttemptAt : Time
  errorCode : Option String := none
  message : Option String := none
  deriving DecidableEq, Repr

/-- `ProviderState` of the `raw-ssh` provider, the only one the broker reads. -/
structure ProviderState where
  endpointId : String
  lastSuccessAt : Option Time
  lastAttemptAt : Time
  lastError : Option String := none
  lastErrorCode : Option String := none
  deriving DecidableEq, Repr

structure ProcessObservation where
  endpointId : String
  gpuId : String
  pid : ℕ
  bootId : String
  processStartedAt : Time
  username : Option String
  usedMemoryMib : ℕ
  firstSeenAt : Time
  lastSeenAt : Time
  observations : ℕ := 1
  absentSince : Option Time := none
  active : Bool := true
  deriving DecidableEq, Repr

/-- `uq_current_process_identity`. -/
def ProcessObservation.identity (p : ProcessObservation) : String × ℕ × String × Time :=
  (p.gpuId, p.pid, p.bootId, p.processStartedAt)

inductive KeepaliveActual
  | on | off | error
  deriving DecidableEq, Repr

structure KeepaliveCurrent where
  gpuId : String
  actual : KeepaliveActual
  errorReason : Option String := none
  expectedPid : Option ℕ := none
  expectedBootId : Option String := none
  expectedProcessStartedAt : Option Time := none
  cleanupPending : Bool := false
  updatedAt : Time
  deriving DecidableEq, Repr

structure Plant where
  serverGroups : List ServerGroup := []
  endpoints : List Endpoint := []
  gpus : List GPUDevice := []
  telemetry : List TelemetryCurrent := []
  hosts : List HostTelemetry := []
  nodeStates : List NodeObservationState := []
  providerStates : List ProviderState := []
  processes : List ProcessObservation := []
  keepalive : List KeepaliveCurrent := []
  deriving DecidableEq, Repr

/-! ## The ledger -/

structure Project where
  id : String
  quotaGpus : Option ℕ := none
  concurrencyLimit : Option ℕ := none
  enabled : Bool := true
  deriving DecidableEq, Repr

inductive LeaseKind
  | workload | keepalive
  deriving DecidableEq, Repr

inductive LeaseState
  | held | active | orphanedBusy | conflict | released | expiredEmpty
  deriving DecidableEq, Repr

/-- `ACTIVE_LEASE_STATES`. -/
def LeaseState.live : LeaseState → Bool
  | held | active | orphanedBusy | conflict => true
  | released | expiredEmpty => false

/-- `TERMINAL_LEASE_STATES`. -/
def LeaseState.terminal : LeaseState → Bool
  | released | expiredEmpty => true
  | held | active | orphanedBusy | conflict => false

theorem LeaseState.terminal_eq_not_live (s : LeaseState) : s.terminal = !s.live := by
  cases s <;> rfl

structure Lease where
  id : String
  actorId : String
  projectId : String
  kind : LeaseKind
  taskRef : String
  purpose : String
  constraints : ResourceConstraints
  durationSeconds : ℕ
  state : LeaseState
  issuedAt : Time
  expiresAt : Option Time
  lastHeartbeatAt : Time
  activatedAt : Option Time := none
  releasedAt : Option Time := none
  releaseReason : Option String := none
  issuedRevision : ℕ
  idleSince : Option Time := none
  ownerSessionId : Option String := none
  resourceEpoch : ℕ := 0
  agentSeenAuditId : Option ℕ := none
  /-- Not a column: whether `claim_provider` inserted the row (a delegated lease) rather than
  `_issue_lease` or `activate_keepalives` (a direct one). Set at insertion and read by nothing. -/
  delegated : Bool := false
  deriving DecidableEq, Repr

structure LeaseResource where
  leaseId : String
  gpuId : String
  active : Bool := true
  releasedAt : Option Time := none
  idleSince : Option Time := none
  idleCheckedAt : Option Time := none
  addedAt : Option Time := none
  releaseReason : Option String := none
  releasedBy : Option String := none
  keepIdleWindows : ℕ := 0
  deriving DecidableEq, Repr

/-- `LeaseEndpointCommitment`: the CPU and memory a lease was promised on one host. -/
structure Commitment where
  leaseId : String
  endpointId : String
  cpuCores : ℚ
  memoryMib : ℕ
  createdAt : Time
  deriving DecidableEq, Repr

structure AllocatedDevice where
  gpuUuid : String
  physicalIndex : Option ℕ := none
  deviceSelector : Option String := none
  runningProcessCount : Option ℕ := none
  deriving DecidableEq, Repr

structure AllocationLocation where
  node : String
  gpuCount : ℕ
  devices : List AllocatedDevice
  runningProcessCount : Option ℕ := none
  deriving DecidableEq, Repr

/-- `AllocationEntry`: how a person gets in. -/
structure AllocationEntry where
  kind : String
  host : String
  port : ℕ
  user : String
  workspacePath : Option String
  deriving DecidableEq, Repr

inductive AllocationState
  | applying | unconfirmed | active | releasePending | released | expired | failed
  deriving DecidableEq, Repr

/-- `released`, `expired` or `failed`: the provider holds nothing for it any more. -/
def AllocationState.terminal : AllocationState → Bool
  | released | expired | failed => true
  | applying | unconfirmed | active | releasePending => false

structure ResourceAllocation where
  id : String
  leaseId : Option String
  endpointId : String
  providerId : String
  actorId : String
  requestKey : String
  request : RequestJson
  allocationRef : Option String
  state : AllocationState
  releaseGranularity : String
  locations : List AllocationLocation := []
  entry : Option AllocationEntry := none
  requestedDurationSeconds : ℕ
  expiresAt : Option Time := none
  confirmedAt : Option Time := none
  workloadObservedAt : Option Time := none
  idleSince : Option Time := none
  idleCheckedAt : Option Time := none
  lastError : Option String := none
  createdAt : Time
  updatedAt : Time
  deriving DecidableEq, Repr

structure WorkloadBinding where
  leaseId : String
  runId : String
  processKeys : List String
  deriving DecidableEq, Repr

/-- One value of an audit summary or of a refusal's details. -/
inductive Detail
  | none | text (s : String) | texts (l : List String) | number (n : ℤ) | flag (b : Bool)
  | counts (l : List (String × ℕ))
  deriving DecidableEq, Repr

abbrev Details := List (String × Detail)

structure AuditEvent where
  id : ℕ
  actorId : Option String
  action : String
  resourceType : String
  resourceId : String
  result : String
  summary : Details := []
  createdAt : Time
  deriving DecidableEq, Repr

end ServerPilot
