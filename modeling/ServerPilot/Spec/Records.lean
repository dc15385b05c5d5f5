import ServerPilot.Spec.Capacity
import ServerPilot.Spec.Columns
import ServerPilot.Spec.Summary

/-!
# Rows on the wire

What the full snapshot says of a card, an endpoint and a server group, as the JSON
objects it builds (`gpuPayload`, `endpointPayload`, `serverGroupPayload`), and the
App's readers of them: `GPURecord.init?`, `EndpointRecord.init?` and
`ServerGroupRecord.init?`. A reader that answers `none` drops the row.
-/

namespace ServerPilot

open Rows

/-! ## JSON objects -/

/-- A JSON value. -/
inductive Raw
  | null
  | bool (b : Bool)
  | number (n : ℤ)
  | text (s : String)
  | list (items : List Raw)
  | object (fields : List (String × Raw))

/-- `[String: Any]`. -/
abbrev Dict := List (String × Raw)

/-- A text that may be missing. -/
def Raw.optional (s : Option String) : Raw := s.elim .null .text

/-- A count that may be missing. -/
def Raw.optionalCount (n : Option ℕ) : Raw := n.elim .null fun n => .number n

/-- A list of texts. -/
def Raw.texts (xs : List String) : Raw := .list (xs.map .text)

/-! ## What a snapshot publishes -/

/-- What the payloads show besides the tables: of groups and endpoints by id, of a plugin, and of
the broker itself. -/
structure Particulars where
  displayName : String → String
  environmentNotes : String → Option String
  description : String → Option String
  sshAlias : String → Option String
  expectedGpuCount : String → Option ℕ
  /-- The capacity a plugin reported for the endpoint, while it is fresh. -/
  schedulerCapacity : String → Option PluginCapacity
  applyMaxSeconds : Plugin → Option ℕ
  directClaimBudgetSeconds : ℕ

/-- `Freshness.status`. -/
inductive MonitorStatus
  | pending | online | stale | error
  deriving DecidableEq, Repr

def MonitorStatus.name : MonitorStatus → String
  | pending => "PENDING"
  | online => "ONLINE"
  | stale => "STALE"
  | error => "ERROR"

def KeepaliveActual.name : KeepaliveActual → String
  | on => "ON"
  | off => "OFF"
  | error => "ERROR"

def KeepalivePolicy.name : KeepalivePolicy → String
  | disabled => "disabled"
  | idleKeepalive => "idle_keepalive"

/-- The status of an endpoint with this provider state, if it has one. -/
def monitorStatusOf (cfg : Config) (now : Time) (s : Option ProviderState) : MonitorStatus :=
  let failed := (s.bind ProviderState.lastErrorCode).isSome
  match s.bind ProviderState.lastSuccessAt with
  | none => if failed then .error else .pending
  | some _ => if s.any (ProviderState.fresh cfg now) then .online
    else if failed then .error else .stale

/-- `_gpu_public_projection`, its text. -/
def publicStatus (monitor : MonitorStatus) (available : Bool) (state : GpuState)
    (desired actual : KeepaliveActual) (reason : Option String) (leased : Bool) : String :=
  if monitor = .error ∨ monitor = .stale then "连接失败"
  else if available = true ∧ (state = .keepalive ∨ actual = .on) then "空闲 · 占卡中"
  else if available = true ∧ actual = .error then
    "空闲 · 占卡异常：" ++ (reason.filter fun r => r ≠ "").getD "未知原因"
  else if available = true ∧ desired = .on then "空闲 · 占卡未运行"
  else if available = true then "空闲"
  else if actual = .error then "占卡校验失败，暂不可申请"
  else if state = .conflict then "归属冲突"
  else if state = .busyUnmanaged ∨ state = .orphanedBusy then "外部进程"
  else if state = .schedulerManaged then "需调度申请"
  else if state = .runningManaged then "运行中"
  -- claimed, with no process seen on it yet
  else if state = .held ∨ state = .leasedIdle then "已分配未运行"
  else if leased then "运行中"
  else "连接失败"

/-- How a lease on this plugin ends: `parse_plugin_limits` demands a longest lease of a profile that
kills at its limit, and none of any other. -/
def Plugin.leaseEnds (x : Plugin) : String :=
  if x.maxLeaseSeconds.isSome then "hard_kill_at_time_limit" else "on_release"

/-- `ServerGroupCreate`, the checks its path and id pass. -/
structure ServerGroup.Valid (x : ServerGroup) : Prop where
  id : matchesId x.id = true
  path : 1 ≤ x.workspacePath.length ∧ x.workspacePath.length ≤ 2000
  absolute : absoluteSingleLinePath x.workspacePath = true

section

variable (cfg : Config) (now : Time) (d : Particulars) (b : Broker)

/-- `monitor_status`: an endpoint without cards whose host answers is online all the same. -/
def Broker.monitorStatus (e : Endpoint) : MonitorStatus :=
  let state := b.plant.providerState? e.id
  if state.bind ProviderState.lastError = some "incomplete endpoint observation" ∧
      (∀ g ∈ b.plant.gpus, g.endpointId = e.id → g.present = false) ∧
      d.expectedGpuCount e.id = none ∧ b.plant.host? e.id "self" ≠ none then .online
  else monitorStatusOf cfg now state

/-- What the endpoint's policy asks of every card. -/
def Endpoint.desired (e : Endpoint) : KeepaliveActual :=
  if e.keepalivePolicy = .idleKeepalive then .on else .off

/-- The payload of one card, `e` being its endpoint. Its readings, processes, labels and times are
left out. -/
def Broker.gpuPayload (e : Endpoint) (g : GPUDevice) : Dict :=
  let v := b.view cfg none
  let lease := v.leaseByGpu g.id
  let workload := lease.filter fun l => l.kind ≠ .keepalive
  let keeper := lease.filter fun l => l.kind = .keepalive
  let (state, reason) := b.deriveState cfg now v g
  let (actual, keepaliveReason) := b.keepaliveGpuStatus cfg now g lease
  let available := b.publiclyAvailable cfg now v g
  [("id", .text g.id), ("endpoint_id", .text g.endpointId), ("node_id", .text g.nodeId),
    ("gpu_uuid", .text g.gpuUuid), ("gpu_index", .number g.gpuIndex),
    ("cuda_ordinal", .optionalCount g.cudaOrdinal), ("name", .text g.name),
    ("total_vram_mib", .number g.totalVramMib),
    ("allocation_kind", .text (if e.id ∈ v.delegatedIds then "delegated" else "direct")),
    ("health", .text g.health), ("present", .bool g.present), ("state", .text state.name),
    ("state_reason", .optional reason),
    ("lease", workload.elim .null fun l => .object [("id", .text l.id),
      ("actor_id", .text l.actorId), ("task_ref", .text l.taskRef)]),
    ("keepalive", .object [("configured", .bool e.keepaliveAdapterId.isSome),
      ("policy", .text e.keepalivePolicy.name), ("desired", .text e.desired.name),
      ("actual", .text actual.name), ("state", .text actual.name),
      ("reason", .optional keepaliveReason), ("lease_id", .optional (keeper.map Lease.id))]),
    ("publicly_available", .bool available),
    ("public_status", .text (publicStatus (b.monitorStatus cfg now d e) available state e.desired
      actual keepaliveReason workload.isSome))]

/-- The payload of one endpoint. Its readings, nodes, allocations and connection are left out. -/
def Broker.endpointPayload (e : Endpoint) : Dict :=
  let k := b.snapshotKeepalive cfg now (b.view cfg none) e
  [("id", .text e.id), ("host", .text e.host), ("port", .number e.port),
    ("ssh_user", .text e.sshUser), ("ssh_alias", .optional (d.sshAlias e.id)),
    ("workspace_path", .optional (b.plant.effectiveWorkspace e)),
    ("workspace_path_override", .optional e.workspacePath),
    ("server_group_id", .optional e.serverGroupId),
    ("observation_profile", .text e.observationProfile),
    ("keepalive_adapter_id", .optional e.keepaliveAdapterId),
    ("keepalive_policy", .text e.keepalivePolicy.name), ("labels", .texts e.labels),
    ("expected_gpu_count", .optionalCount (d.expectedGpuCount e.id)),
    ("keepalive", .object [("configured", .bool k.configured), ("policy", .text k.policy.name),
      ("desired", .text k.desired.name), ("actual", .text k.actual.name),
      ("state", .text k.state.name), ("active_gpu_count", .number k.activeGpuCount),
      ("error_gpu_count", .number k.errorGpuCount),
      ("eligible_idle_gpu_count", .number k.eligibleIdleGpuCount),
      ("reasons", .list (k.reasons.map fun r =>
        .object [("gpu_id", .text r.1), ("reason", .text r.2)]))]),
    ("monitor", .object [("status", .text (b.monitorStatus cfg now d e).name),
      ("error_code", .optional ((b.plant.providerState? e.id).bind ProviderState.lastErrorCode)),
      ("last_error", .optional ((b.plant.providerState? e.id).bind ProviderState.lastError))])]

/-- The published cards of an endpoint that pass a test. -/
def Broker.countCards (endpointId : String) (p : GPUDevice → Bool) : ℕ :=
  (b.view cfg none).gpus.countP fun g => decide (g.endpointId = endpointId) && p g

/-- `_server_group_allocation_fields`. -/
def Broker.serverGroupAllocationFields (members : List Endpoint) : Dict :=
  let delegated := members.findSome? fun e =>
    ((cfg.plugin e.observationProfile).filter fun x => x.capabilities.contains "apply").map
      fun x => (e, x)
  match delegated with
  | some (e, x) =>
    let capacity := d.schedulerCapacity e.id
    let largest := capacity.bind fun c => c.largestFreeBlock.or
      (c.maxGpusPerLease.map fun cap => min c.freeGpuCount cap)
    [("allocation", .text "delegated"),
      ("limits", .object [
        ("max_gpus_per_lease", .optionalCount (capacity.bind PluginCapacity.maxGpusPerLease)),
        ("max_lease_seconds", .optionalCount x.maxLeaseSeconds),
        ("lease_ends", .text x.leaseEnds),
        ("cpu_cores_per_gpu", .optionalCount (capacity.bind PluginCapacity.cpuCoresPerGpu)),
        ("memory_mib_per_gpu", .optionalCount (capacity.bind PluginCapacity.memoryMibPerGpu)),
        ("apply_max_seconds", .optionalCount (d.applyMaxSeconds x)), ("queues", .bool false)]),
      ("largest_allocatable_block", .optionalCount largest)]
  | none =>
    let v := b.view cfg none
    let registered := members.map fun e => b.countCards cfg e.id fun _ => true
    let allocatable := members.map fun e => b.countCards cfg e.id (b.publiclyAvailable cfg now v)
    [("allocation", .text "direct"),
      ("limits", .object [("lease_ends", .text "on_release"), ("max_lease_seconds", .null),
        ("queues", .bool false), ("max_gpus_per_lease", .number (registered.foldl max 0 : ℕ)),
        ("cpu_cores_per_gpu", .null), ("memory_mib_per_gpu", .null),
        ("apply_max_seconds", .number d.directClaimBudgetSeconds)]),
      ("largest_allocatable_block", .number (allocatable.foldl max 0 : ℕ))]

/-- `_project_server_group`, of a full snapshot. -/
def Broker.serverGroupPayload (x : ServerGroup) : Dict :=
  let endpoints := b.plant.endpoints.insertionSort fun e f => e.id ≤ f.id
  [("id", .text x.id), ("display_name", .text (d.displayName x.id)),
    ("workspace_path", .text x.workspacePath),
    ("environment_notes", .optional (d.environmentNotes x.id)),
    ("description", .optional (d.description x.id))] ++
  b.serverGroupAllocationFields cfg now d
    (endpoints.filter fun e => e.serverGroupId = some x.id)

end

/-! ## The fields of an object -/

/-- A text. -/
def Raw.text? : Raw → Option String
  | text s => some s
  | _ => none

/-- An object. -/
def Raw.object? : Raw → Option Dict
  | object fields => some fields
  | _ => none

namespace Dict

variable (raw : Dict) (key : String)

/-- `string`. -/
def string : Option String := (raw.lookup key).bind Raw.text?

/-- `Int(_: String)`: decimal digits with an optional sign, of a value in range. -/
def readInt (s : String) : Option ℤ :=
  let digits (cs : List Char) : Option ℤ :=
    if cs ≠ [] ∧ cs.all Char.isDigit = true then
      some (cs.foldl (fun n c => 10 * n + (c.toNat - '0'.toNat)) 0)
    else none
  let value := match s.toList with
    | '-' :: cs => (digits cs).map fun n => -n
    | '+' :: cs => digits cs
    | cs => digits cs
  value.filter fun n => -9223372036854775808 ≤ n ∧ n ≤ 9223372036854775807

/-- `optionalInt`. -/
def optionalInt : Option ℤ :=
  match raw.lookup key with
  | some (.number n) => some n
  | some (.bool b) => some (if b then 1 else 0)
  | some (.text s) => readInt s
  | _ => none

/-- `int`. -/
def int (fallback : ℤ) : ℤ := (raw.optionalInt key).getD fallback

/-- `optionalBool`. -/
def optionalBool : Option Bool :=
  match raw.lookup key with
  | some (.bool b) => some b
  | some (.number n) => some (decide (n ≠ 0))
  | _ => none

/-- `bool`. -/
def bool (fallback : Bool) : Bool := (raw.optionalBool key).getD fallback

/-- `raw[key] as? [String: Any]`. -/
def object : Option Dict := (raw.lookup key).bind Raw.object?

/-- `raw[key] == nil || raw[key] is NSNull`. -/
def blank : Bool :=
  match raw.lookup key with
  | none => true
  | some .null => true
  | _ => false

/-- `raw[key] as? [String] ?? []`: all of its items are texts, or it is none. -/
def strings : List String :=
  match raw.lookup key with
  | some (.list items) => (items.mapM Raw.text?).getD []
  | _ => []

/-- `raw[key] as? [[String: Any]] ?? []`. -/
def objects : List Dict :=
  match raw.lookup key with
  | some (.list items) => (items.mapM Raw.object?).getD []
  | _ => []

end Dict

/-! ## The App's readers -/

namespace Desktop

/-- `hasPrefix`, for text that ends in a character of its own: Swift compares whole characters, so
no scalar that joins the one before it may follow. -/
def hasPrefix (joins : Char → Bool) (text s : String) : Bool :=
  text.toList.isPrefixOf s.toList && !(s.toList.drop text.toList.length).head?.any joins

/-- `CoreFieldValidation.isAbsoluteWorkspacePath`. -/
def isAbsoluteWorkspacePath (joins : Char → Bool) (s : String) : Bool :=
  hasPrefix joins "/" s && !s.toList.contains '\x00' && !s.toList.contains '\n' &&
    !s.toList.contains '\r'

/-- `uppercased`, of ASCII letters. -/
def uppercased (s : String) : String := String.ofList (s.toList.map Char.toUpper)

/-- `lowercased`, of ASCII letters. -/
def lowercased (s : String) : String := String.ofList (s.toList.map Char.toLower)

/-- A text after trimming, unless nothing is left of it. -/
def trimmed (s : Option String) : Option String := (s.map Columns.trim).filter fun t => t ≠ ""

/-! ### Records -/

structure EndpointKeepaliveSummary where
  configured : Bool
  policy : String
  state : String
  activeGPUCount : ℤ
  errorGPUCount : ℤ
  eligibleIdleGPUCount : ℤ
  reasons : List String
  message : Option String
  deriving DecidableEq, Repr

/-- `EndpointKeepaliveSummary.init?(raw:fallbackConfigured:)`. -/
def EndpointKeepaliveSummary.init? (raw : Dict) (fallbackConfigured : Bool) :
    Option EndpointKeepaliveSummary :=
  let state := uppercased (((raw.string "actual").or (raw.string "state")).getD "OFF")
  let policy := lowercased ((raw.string "policy").getD
    (if state = "OFF" then "disabled" else "idle_keepalive"))
  let reasons := (raw.strings "reasons").filter (fun s => s ≠ "") ++
    (raw.objects "reasons").filterMap fun r => r.string "reason"
  if state ∉ ["OFF", "ON", "ERROR"] then none
  else if policy ∉ ["disabled", "idle_keepalive"] then none
  else some
    { configured := raw.bool "configured" fallbackConfigured, policy, state
      activeGPUCount := max 0 (raw.int "active_gpu_count" 0)
      errorGPUCount := max 0 (raw.int "error_gpu_count" 0)
      eligibleIdleGPUCount := max 0 (raw.int "eligible_idle_gpu_count" 0)
      reasons, message := (raw.string "message").or reasons.head? }

structure GPUKeepaliveStatus where
  configured : Bool
  policy : String
  desired : String
  state : String
  leaseID : Option String
  reason : Option String
  deriving DecidableEq, Repr

/-- `GPUKeepaliveStatus.init?(raw:fallbackConfigured:fallbackState:)`. -/
def GPUKeepaliveStatus.init? (raw : Dict) (fallbackConfigured : Bool) (fallbackState : String) :
    Option GPUKeepaliveStatus :=
  let policy := lowercased ((raw.string "policy").getD "disabled")
  let desired := uppercased ((raw.string "desired").getD
    (if policy = "idle_keepalive" then "ON" else "OFF"))
  let state := uppercased (((raw.string "actual").or (raw.string "state")).getD fallbackState)
  if policy ∉ ["disabled", "idle_keepalive"] then none
  else if desired ∉ ["OFF", "ON"] then none
  else if state ∉ ["OFF", "ON", "ERROR"] then none
  else some
    { configured := raw.bool "configured" fallbackConfigured, policy, desired, state
      leaseID := raw.string "lease_id"
      reason := (raw.string "reason").or (raw.string "message") }

/-- `GPURecord`, without its processes and readings. -/
structure GPURecord where
  id : String
  nodeID : String
  endpointID : String
  gpuUUID : Option String
  index : ℤ
  name : String
  totalVRAMMiB : ℤ
  state : String
  stateReason : Option String
  owner : Option String
  taskReference : Option String
  leaseID : Option String
  keepalive : GPUKeepaliveStatus
  publicStatus : Option String
  projectedPubliclyAvailable : Option Bool
  deriving DecidableEq, Repr

/-- `GPURecord.allocatableStates`. -/
def GPURecord.allocatableStates : List String := ["AVAILABLE", "KEEPALIVE"]

/-- `GPURecord.availableStatusPrefix`. -/
def GPURecord.availableStatusPrefix : String := "空闲"

/-- The id supplied, or one made of the endpoint and the UUID. -/
def GPURecord.idOf (raw : Dict) (endpointID : String) : Option String :=
  ((raw.string "id").filter fun s => s ≠ "").or
    (((raw.string "gpu_uuid").filter fun s => s ≠ "").map fun u => endpointID ++ ":" ++ u)

/-- `GPURecord.init?(raw:)`. -/
def GPURecord.init? (joins : Char → Bool) (raw : Dict) : Option GPURecord := do
  let endpointID ← raw.string "endpoint_id"
  let name ← raw.string "name"
  let id ← GPURecord.idOf raw endpointID
  let state := (raw.string "state").getD "UNKNOWN_RECOVERING"
  let lease := (raw.object "lease").getD []
  let publicStatus := trimmed (raw.string "public_status")
  let projected := (raw.lookup "publicly_available").map fun _ =>
    raw.bool "publicly_available" false
  -- a row that contradicts itself
  if projected = some false ∧ (state ∈ allocatableStates ∨
      publicStatus.any (hasPrefix joins availableStatusPrefix) = true) then none
  else
    let keepalive ← GPUKeepaliveStatus.init? ((raw.object "keepalive").getD []) false
      (if state = "KEEPALIVE" then "ON" else "OFF")
    pure
      { id, nodeID := (raw.string "node_id").getD "self", endpointID
        gpuUUID := raw.string "gpu_uuid", index := raw.int "gpu_index" 0, name
        totalVRAMMiB := raw.int "total_vram_mib" 0, state
        stateReason := raw.string "state_reason", owner := lease.string "actor_id"
        taskReference := lease.string "task_ref", leaseID := lease.string "id"
        keepalive, publicStatus, projectedPubliclyAvailable := projected }

/-- `isPubliclyAvailable`. -/
def GPURecord.isPubliclyAvailable (r : GPURecord) : Bool :=
  r.projectedPubliclyAvailable.getD (decide (r.state = "AVAILABLE" ∨ r.state = "KEEPALIVE"))

/-- `EndpointRecord`, without its readings, nodes, allocations and connection. -/
structure EndpointRecord where
  id : String
  host : String
  port : ℤ
  sshUser : String
  sshAlias : Option String
  serverGroupID : Option String
  workspacePath : Option String
  workspacePathOverride : Option String
  observationProfile : String
  keepaliveAdapterID : Option String
  keepalive : EndpointKeepaliveSummary
  monitorStatus : String
  monitorError : Option String
  monitorErrorCode : Option String
  deriving DecidableEq, Repr

/-- `EndpointRecord.init?(raw:)`. -/
def EndpointRecord.init? (raw : Dict) : Option EndpointRecord := do
  let id ← raw.string "id"
  let host ← raw.string "host"
  let sshUser ← raw.string "ssh_user"
  let keepaliveAdapterID := raw.string "keepalive_adapter_id"
  let keepalive ← EndpointKeepaliveSummary.init? ((raw.object "keepalive").getD [])
    keepaliveAdapterID.isSome
  let monitor := (raw.object "monitor").getD []
  pure
    { id, host, port := raw.int "port" 22, sshUser, sshAlias := raw.string "ssh_alias"
      serverGroupID := trimmed (raw.string "server_group_id")
      workspacePath := raw.string "workspace_path"
      workspacePathOverride := trimmed (raw.string "workspace_path_override")
      observationProfile := (raw.string "observation_profile").getD "linux"
      keepaliveAdapterID, keepalive
      monitorStatus := uppercased ((monitor.string "status").getD "PENDING")
      monitorError := monitor.string "last_error"
      monitorErrorCode := monitor.string "error_code" }

/-- `ServerGroupAllocation`. -/
inductive ServerGroupAllocation
  | direct | delegated
  deriving DecidableEq, Repr

def ServerGroupAllocation.rawValue? : String → Option ServerGroupAllocation
  | "direct" => some direct
  | "delegated" => some delegated
  | _ => none

/-- `ServerGroupLeaseEnds`. -/
inductive ServerGroupLeaseEnds
  | onRelease | hardKillAtTimeLimit
  deriving DecidableEq, Repr

def ServerGroupLeaseEnds.rawValue? : String → Option ServerGroupLeaseEnds
  | "on_release" => some onRelease
  | "hard_kill_at_time_limit" => some hardKillAtTimeLimit
  | _ => none

/-- A field that may be blank, and otherwise has to be read. -/
def optionalField {α : Type} (raw : Dict) (key : String) (read : Option α) : Option (Option α) :=
  if raw.blank key then some none else read.map some

structure ServerGroupLimits where
  maxGPUsPerLease : Option ℤ
  maxLeaseSeconds : Option ℤ
  leaseEnds : Option ServerGroupLeaseEnds
  cpuCoresPerGPU : Option ℤ
  memoryMiBPerGPU : Option ℤ
  applyMaxSeconds : Option ℤ
  queues : Option Bool
  deriving DecidableEq, Repr

/-- `ServerGroupLimits.init?(raw:)`. -/
def ServerGroupLimits.init? (raw : Dict) : Option ServerGroupLimits := do
  let leaseEnds ← optionalField raw "lease_ends"
    ((raw.string "lease_ends").bind ServerGroupLeaseEnds.rawValue?)
  pure
    { leaseEnds, maxGPUsPerLease := raw.optionalInt "max_gpus_per_lease"
      maxLeaseSeconds := raw.optionalInt "max_lease_seconds"
      cpuCoresPerGPU := raw.optionalInt "cpu_cores_per_gpu"
      memoryMiBPerGPU := raw.optionalInt "memory_mib_per_gpu"
      applyMaxSeconds := raw.optionalInt "apply_max_seconds"
      queues := raw.optionalBool "queues" }

structure ServerGroupRecord where
  id : String
  displayName : String
  workspacePath : String
  environmentNotes : String
  description : String
  allocation : Option ServerGroupAllocation
  limits : Option ServerGroupLimits
  largestAllocatableBlock : Option ℤ
  deriving DecidableEq, Repr

/-- What a group's payload must not be: notes that are an object, or an endpoint's columns. -/
def ServerGroupRecord.misshapen (raw : Dict) : Bool :=
  (raw.object "environment_notes").isSome || (raw.object "environment").isSome ||
    (raw.lookup "command").isSome || (raw.lookup "keepalive_adapter_id").isSome ||
    (raw.lookup "observation_profile").isSome

/-- `ServerGroupRecord.init?(raw:)`. -/
def ServerGroupRecord.init? (joins : Char → Bool) (raw : Dict) : Option ServerGroupRecord := do
  let id ← (raw.string "id").filter fun s => s ≠ ""
  let workspacePath := (raw.string "workspace_path").getD ""
  if misshapen raw || !isAbsoluteWorkspacePath joins workspacePath then none
  else
    let allocation ← optionalField raw "allocation"
      ((raw.string "allocation").bind ServerGroupAllocation.rawValue?)
    let limits ← optionalField raw "limits"
      ((raw.object "limits").bind ServerGroupLimits.init?)
    let largestAllocatableBlock ← optionalField raw "largest_allocatable_block"
      (raw.optionalInt "largest_allocatable_block")
    pure
      { id, displayName := (raw.string "display_name").getD id, workspacePath
        environmentNotes := (raw.string "environment_notes").getD ""
        description := (raw.string "description").getD ""
        allocation, limits, largestAllocatableBlock }

end Desktop

end ServerPilot
