import ServerPilot.Spec.Handoff

/-!
# Endpoint columns

`Recover` keeps of an endpoint what the ledger's operations read. Here a row has
every column an `EndpointConfig` is read from, as stored: `labels_json` may hold the
JSON `null`. `createEndpoint` and `updateEndpoint` write the columns from payloads
in which a field is missing, an explicit null or a value; `collectorEndpoint` reads
a row back, and `eligibleGpus` is the allocator's filter with the places where it
raises.
-/

namespace ServerPilot.Columns

open Rows Checked

/-! ## Payloads -/

/-- The white space a schema trims: `str.isspace` without U+001C to U+001F. -/
def isWhite (c : Char) : Bool := isSpace c && !(0x1c ≤ c.toNat && c.toNat ≤ 0x1f)

/-- `str_strip_whitespace`. -/
def trim (s : String) : String :=
  String.ofList ((s.toList.dropWhile isWhite).reverse.dropWhile isWhite).reverse

/-- `resolve_stored_workspace_override`, of the two fields as they were sent. -/
def storedWorkspaceOverride (workspacePath workspacePathOverride : Option (Option String)) :
    Option String :=
  match workspacePathOverride with
  | some override => override
  | none => workspacePath.getD none

/-- A stored workspace path. -/
def workspaceText (s : String) : Prop :=
  (1 ≤ s.length ∧ s.length ≤ 2000) ∧ absoluteSingleLinePath s = true

instance : DecidablePred workspaceText := fun _ => inferInstanceAs (Decidable (_ ∧ _))

/-- `EndpointCreate`. Its owner is the one `resolve_owner` found. -/
structure EndpointCreate where
  id : String
  host : String
  port : ℕ
  sshUser : String
  sshAlias : Option String := none
  workspacePath : Option (Option String) := none
  workspacePathOverride : Option (Option String) := none
  observationProfile : String := "linux"
  keepaliveAdapterId : Option String := none
  keepalivePolicy : KeepalivePolicy := .disabled
  labels : List String := []
  storageGroup : Option String := none
  serverGroupId : Option String := none
  expectedGpuCount : Option ℕ := none
  expectedGpuTotalVramMib : Option ℕ := none
  ownerProjectId : Option String := none
  deriving DecidableEq, Repr

/-- The field bounds and validators of `EndpointCreate`; `known` are the observation profiles. -/
structure EndpointCreate.Valid (known : String → Bool) (d : EndpointCreate) : Prop where
  trimmed : ∀ l ∈ d.labels, trim l = l
  id : matchesId d.id = true
  host : 1 ≤ d.host.length ∧ d.host.length ≤ 253
  port : 1 ≤ d.port ∧ d.port ≤ 65535
  sshUser : matchesUser d.sshUser = true
  sshAlias : ∀ s ∈ d.sshAlias, 1 ≤ s.length ∧ s.length ≤ 120
  workspacePath : ∀ v ∈ d.workspacePath, ∀ s ∈ v, workspaceText s
  workspacePathOverride : ∀ v ∈ d.workspacePathOverride, ∀ s ∈ v, workspaceText s
  agree : ∀ v ∈ d.workspacePath, ∀ v' ∈ d.workspacePathOverride, v = v'
  ungrouped : d.serverGroupId = none →
    storedWorkspaceOverride d.workspacePath d.workspacePathOverride ≠ none
  observationProfile : (1 ≤ d.observationProfile.length ∧ d.observationProfile.length ≤ 40) ∧
    known d.observationProfile = true
  keepaliveAdapterId : ∀ s ∈ d.keepaliveAdapterId, s = "server-script-v1"
  labels : UniqueValues d.labels
  storageGroup : ∀ s ∈ d.storageGroup, s.length ≤ 120
  serverGroupId : ∀ s ∈ d.serverGroupId, matchesId s = true
  expectedGpuCount : ∀ n ∈ d.expectedGpuCount, 1 ≤ n ∧ n ≤ 1024
  expectedGpuTotalVramMib : ∀ n ∈ d.expectedGpuTotalVramMib, 1 ≤ n
  ownerProjectId : ∀ s ∈ d.ownerProjectId, 1 ≤ s.length ∧ s.length ≤ 64
  idleKeepalive : d.keepalivePolicy = .idleKeepalive → d.keepaliveAdapterId ≠ none

/-- `EndpointUpdate`, in all the columns a row of `endpoints` has; the broker's own `EndpointUpdate`
has those that transactions on leases and keepers read. `none` is a field that was not sent, `some
none` an explicit null. -/
structure EndpointUpdate where
  sshUser : Option (Option String) := none
  sshAlias : Option (Option String) := none
  workspacePath : Option (Option String) := none
  workspacePathOverride : Option (Option String) := none
  observationProfile : Option (Option String) := none
  keepaliveAdapterId : Option (Option String) := none
  labels : Option (Option (List String)) := none
  storageGroup : Option (Option String) := none
  serverGroupId : Option (Option String) := none
  expectedGpuCount : Option (Option ℕ) := none
  expectedGpuTotalVramMib : Option (Option ℕ) := none
  ownerProjectId : Option (Option String) := none
  deriving DecidableEq, Repr

/-- The field bounds and validators of `EndpointUpdate`. -/
structure EndpointUpdate.Valid (known : String → Bool) (u : EndpointUpdate) : Prop where
  trimmed : ∀ v ∈ u.labels, ∀ labels ∈ v, ∀ l ∈ labels, trim l = l
  sshUser : ∀ v ∈ u.sshUser, ∀ s ∈ v, matchesUser s = true
  sshAlias : ∀ v ∈ u.sshAlias, ∀ s ∈ v, 1 ≤ s.length ∧ s.length ≤ 120
  workspacePath : ∀ v ∈ u.workspacePath, ∀ s ∈ v, workspaceText s
  workspacePathOverride : ∀ v ∈ u.workspacePathOverride, ∀ s ∈ v, workspaceText s
  agree : ∀ v ∈ u.workspacePath, ∀ v' ∈ u.workspacePathOverride, v = v'
  observationProfile : ∀ v ∈ u.observationProfile, ∀ s ∈ v,
    (1 ≤ s.length ∧ s.length ≤ 40) ∧ known s = true
  keepaliveAdapterId : ∀ v ∈ u.keepaliveAdapterId, ∀ s ∈ v, s = "server-script-v1"
  labels : ∀ v ∈ u.labels, ∀ labels ∈ v, UniqueValues labels
  storageGroup : ∀ v ∈ u.storageGroup, ∀ s ∈ v, s.length ≤ 120
  serverGroupId : ∀ v ∈ u.serverGroupId, ∀ s ∈ v, matchesId s = true
  expectedGpuCount : ∀ v ∈ u.expectedGpuCount, ∀ n ∈ v, 1 ≤ n ∧ n ≤ 1024
  expectedGpuTotalVramMib : ∀ v ∈ u.expectedGpuTotalVramMib, ∀ n ∈ v, 1 ≤ n
  ownerProjectId : ∀ v ∈ u.ownerProjectId, ∀ s ∈ v, 1 ≤ s.length ∧ s.length ≤ 64
  hasUpdate : u ≠ {}

/-! ## Rows -/

/-- A row of `endpoints`. -/
structure EndpointRow where
  id : String
  host : String
  port : ℕ
  sshUser : String
  sshAlias : Option String
  workspacePath : Option String
  observationProfile : String
  keepaliveAdapterId : Option String
  keepalivePolicy : KeepalivePolicy
  /-- `json_load(labels_json)`. -/
  labelsJson : Option (List String)
  storageGroup : Option String
  serverGroupId : Option String
  expectedGpuCount : Option ℕ
  expectedGpuTotalVramMib : Option ℕ
  ownerProjectId : Option String
  deriving DecidableEq, Repr

/-- The tables the two calls read and write, and the calls answered under a key. -/
structure Inventory where
  rows : List EndpointRow := []
  groups : List ServerGroup := []
  answered : List (String × String × String) := []
  deriving DecidableEq, Repr

/-- What a call meets in the other tables. -/
structure Surroundings where
  projects : List String := []
  /-- `_active_keepalive_for_endpoint` finds a keeper. -/
  keeper : Bool := false
  deriving DecidableEq, Repr

/-- `resolve_effective_workspace`. -/
def resolveEffectiveWorkspace (override groupWorkspace : Option String) : Option String :=
  match override.filter (fun w => w ≠ "") with
  | some w => some w
  | none => groupWorkspace

namespace Inventory

variable (inv : Inventory)

def row? (id : String) : Option EndpointRow := Rows.row? EndpointRow.id id inv.rows

def group? (id : Option String) : Option ServerGroup :=
  id.bind fun g => Rows.row? ServerGroup.id g inv.groups

/-- `_endpoint_effective_workspace`. -/
def effectiveWorkspace (r : EndpointRow) : Option String :=
  resolveEffectiveWorkspace r.workspacePath
    ((inv.group? r.serverGroupId).map ServerGroup.workspacePath)

/-! ## Reading -/

/-- The values of a row with these labels. -/
def fields (r : EndpointRow) (labels : List String) : EndpointFields :=
  { id := r.id, host := r.host, port := r.port, sshUser := r.sshUser, sshAlias := r.sshAlias
    workspacePath := inv.effectiveWorkspace r, observationProfile := r.observationProfile
    keepaliveAdapterId := r.keepaliveAdapterId, keepalivePolicy := r.keepalivePolicy, labels
    storageGroup := r.storageGroup, serverGroupId := r.serverGroupId
    expectedGpuCount := r.expectedGpuCount
    expectedGpuTotalVramMib := r.expectedGpuTotalVramMib }

/-- A row as `collector_endpoints` reads it; `none` is a `ValidationError`. -/
def collectorEndpoint (r : EndpointRow) : Option EndpointConfig :=
  match r.labelsJson with
  | none => none
  | some labels =>
    if h : (inv.fields r labels).Valid then some ⟨inv.fields r labels, h⟩ else none

/-- What the allocator reads of a row. -/
def endpoint (r : EndpointRow) : Endpoint :=
  { id := r.id, host := r.host, port := r.port, sshUser := r.sshUser
    workspacePath := r.workspacePath, observationProfile := r.observationProfile
    keepaliveAdapterId := r.keepaliveAdapterId, keepalivePolicy := r.keepalivePolicy
    labels := r.labelsJson.getD [], serverGroupId := r.serverGroupId }

end Inventory

/-! ## Writing -/

/-- A `NOT NULL` column. -/
def notNull {α : Type} (column : String) (value : Option α) : Tx α :=
  need value (.integrity column)

/-- An `INTEGER` column, and the foreign key of the owner. -/
def storable (around : Surroundings) (r : EndpointRow) : Tx Unit := do
  require (∀ n ∈ r.expectedGpuTotalVramMib, n < 2 ^ 63)
    (.raised "Python int too large to convert to SQLite INTEGER")
  require (∀ p ∈ r.ownerProjectId, p ∈ around.projects)
    (.integrity "endpoints.owner_project_id")

def reservedProject (owner : Option String) : Tx Unit :=
  require (owner ≠ some systemId) (refuse "reserved_project_id"
    "the ServerPilot internal project cannot own an endpoint" 422)

/-- `_idempotent`: whether the call is answered from its record. -/
def idempotent (inv : Inventory) (actor : ActorContext) (action key : String) : Tx Bool := do
  require (key ≠ "" ∧ key.length ≤ 255) (refuse "idempotency_key_required"
    "a non-empty Idempotency-Key of at most 255 characters is required" 422)
  pure (decide ((actor.id, action, key) ∈ inv.answered))

/-- `_require_effective_workspace`. -/
def requireEffectiveWorkspace (override : Option String) (group : Option ServerGroup) :
    Tx String :=
  need (resolveEffectiveWorkspace override (group.map ServerGroup.workspacePath))
    (refuse "endpoint_workspace_required"
      "endpoint requires workspace_path or a server group default" 422)

/-- The group of an id, which must exist. -/
def requireGroup (inv : Inventory) (id : Option String) : Tx (Option ServerGroup) := do
  require (id ≠ none → inv.group? id ≠ none)
    (refuse "server_group_not_found" "server group does not exist" 404)
  pure (inv.group? id)

/-- The row of a new endpoint. -/
def EndpointCreate.row (d : EndpointCreate) : EndpointRow :=
  { id := d.id, host := d.host, port := d.port, sshUser := d.sshUser, sshAlias := d.sshAlias
    workspacePath := storedWorkspaceOverride d.workspacePath d.workspacePathOverride
    observationProfile := d.observationProfile, keepaliveAdapterId := d.keepaliveAdapterId
    keepalivePolicy := d.keepalivePolicy, labelsJson := some d.labels
    storageGroup := d.storageGroup, serverGroupId := d.serverGroupId
    expectedGpuCount := d.expectedGpuCount
    expectedGpuTotalVramMib := d.expectedGpuTotalVramMib, ownerProjectId := d.ownerProjectId }

/-- `create_endpoint`. -/
def createEndpoint (around : Surroundings) (actor : ActorContext) (d : EndpointCreate)
    (key : String) (inv : Inventory) : Tx Inventory := do
  requireRole actor mutatingRoles
  if ← idempotent inv actor "endpoint.create" key then pure inv
  else
    reservedProject d.ownerProjectId
    require (inv.row? d.id = none) (refuse "endpoint_exists" "endpoint id already exists" 409)
    require (∀ r ∈ inv.rows, ¬ (r.host = d.host ∧ r.port = d.port))
      (refuse "endpoint_address_exists" "an immutable endpoint already owns this host:port" 409)
    let group ← requireGroup inv d.serverGroupId
    let _ ← requireEffectiveWorkspace d.row.workspacePath group
    storable around d.row
    pure { inv with
      rows := inv.rows ++ [d.row]
      answered := (actor.id, "endpoint.create", key) :: inv.answered }

/-- `workspace_override_specified`. -/
def EndpointUpdate.workspaceOverrideSpecified (u : EndpointUpdate) : Bool :=
  u.workspacePath.isSome || u.workspacePathOverride.isSome

/-- The override after an update. -/
def EndpointUpdate.nextOverride (u : EndpointUpdate) (r : EndpointRow) : Option String :=
  if u.workspaceOverrideSpecified then
    storedWorkspaceOverride u.workspacePath u.workspacePathOverride
  else r.workspacePath

/-- The row an update leaves: every field that was sent is merged into its column. -/
def EndpointUpdate.merge (u : EndpointUpdate) (r : EndpointRow) : Tx EndpointRow := do
  let sshUser ← notNull "endpoints.ssh_user" (u.sshUser.getD (some r.sshUser))
  let observationProfile ← notNull "endpoints.observation_profile"
    (u.observationProfile.getD (some r.observationProfile))
  pure { r with
    sshUser, observationProfile
    sshAlias := u.sshAlias.getD r.sshAlias
    workspacePath := u.nextOverride r
    keepaliveAdapterId := u.keepaliveAdapterId.getD r.keepaliveAdapterId
    labelsJson := u.labels.getD r.labelsJson
    storageGroup := u.storageGroup.getD r.storageGroup
    serverGroupId := u.serverGroupId.getD r.serverGroupId
    expectedGpuCount := u.expectedGpuCount.getD r.expectedGpuCount
    expectedGpuTotalVramMib := u.expectedGpuTotalVramMib.getD r.expectedGpuTotalVramMib
    ownerProjectId := u.ownerProjectId.getD r.ownerProjectId }

/-- `changed_protected_fields`. -/
def EndpointUpdate.changedProtectedFields (u : EndpointUpdate) (r : EndpointRow)
    (effectiveBefore : Option String) (effectiveAfter : String) : List String :=
  (if u.keepaliveAdapterId.any (· ≠ r.keepaliveAdapterId) then ["keepalive_adapter_id"] else []) ++
    (if u.observationProfile.any (· ≠ some r.observationProfile) then ["observation_profile"]
      else []) ++
    (if u.sshAlias.any (· ≠ r.sshAlias) then ["ssh_alias"] else []) ++
    (if u.sshUser.any (· ≠ some r.sshUser) then ["ssh_user"] else []) ++
    (if effectiveBefore ≠ some effectiveAfter then ["workspace_path"] else [])

/-- `update_endpoint`. -/
def updateEndpoint (around : Surroundings) (actor : ActorContext) (endpointId : String)
    (u : EndpointUpdate) (key : String) (inv : Inventory) : Tx Inventory := do
  requireRole actor mutatingRoles
  if ← idempotent inv actor "endpoint.update" key then pure inv
  else
    let r ← need (inv.row? endpointId)
      (refuse "endpoint_not_found" "endpoint does not exist" 404)
    requireEndpointManager actor
    reservedProject (u.ownerProjectId.getD none)
    let nextGroup ← requireGroup inv (u.serverGroupId.getD r.serverGroupId)
    let effectiveAfter ← requireEffectiveWorkspace (u.nextOverride r) nextGroup
    let changed := u.changedProtectedFields r (inv.effectiveWorkspace r) effectiveAfter
    require (changed = [] ∨ around.keeper = false)
      (refuse "keepalive_endpoint_connection_in_use"
        "stop the active endpoint keepalive before changing its connection or verification settings"
        409 [("fields", .texts changed)])
    require (¬ (u.keepaliveAdapterId = some none ∧ r.keepalivePolicy = .idleKeepalive))
      (refuse "keepalive_adapter_required"
        "disable idle keepalive before removing its sealed endpoint adapter" 409)
    let r' ← u.merge r
    storable around r'
    pure { inv with
      rows := updWhere (fun x => x.id = endpointId) (fun _ => r') inv.rows
      answered := (actor.id, "endpoint.update", key) :: inv.answered }

/-! ## The allocator's filter -/

/-- The endpoint whose labels the filter reads for a card, if it comes to them. -/
def readsLabels (b : Broker) (c : ResourceConstraints) (g : GPUDevice) : Option Endpoint :=
  if g.present = true ∧ b.uuidLeasedElsewhere g = false ∧ g.cudaOrdinal ≠ none then
    (b.plant.endpoint? g.endpointId).filter fun e =>
      decide (endpointExclusion c e = none ∧ b.hostExclusion c e.id = none ∧
        (c.gpuIds ≠ [] → g.id ∈ c.gpuIds) ∧ g.id ∉ c.denyGpuIds)
  else none

/-- One round of the filter's loop: `set(json_load(labels_json))` raises on a null, and the
`assert` on a card without telemetry. -/
def exclusion (cfg : Config) (now : Time) (b : Broker) (labelsJson : String → Option (List String))
    (c : ResourceConstraints) (includeReclaimable : Bool) (g : GPUDevice) :
    Tx (Option String) := do
  require (∀ e ∈ readsLabels b c g, labelsJson e.id ≠ none)
    (.raised "TypeError: 'NoneType' object is not iterable")
  let reason := b.exclusion cfg now c includeReclaimable g
  require (reason = none → (b.plant.telemetry? g.id).isSome = true) (.raised "AssertionError")
  pure reason

/-- `_eligible_gpus`, the candidates. -/
def eligibleGpus (cfg : Config) (now : Time) (b : Broker)
    (labelsJson : String → Option (List String)) (c : ResourceConstraints)
    (includeReclaimable : Bool) : Tx (List GPUDevice) := do
  let gpus := b.plant.gpus.insertionSort gpuOrder
  let reasons ← gpus.mapM (exclusion cfg now b labelsJson c includeReclaimable)
  pure ((gpus.zip reasons).filterMap fun p => if p.2 = none then some p.1 else none)

/-! ## Calls -/

/-- An accepted payload. -/
inductive Call (known : String → Bool)
  | create (around : Surroundings) (actor : ActorContext)
      (data : { d : EndpointCreate // d.Valid known }) (key : String)
  | update (around : Surroundings) (actor : ActorContext) (endpointId : String)
      (data : { u : EndpointUpdate // u.Valid known }) (key : String)

/-- The tables after a call: a refused one changes nothing. -/
def Inventory.call {known : String → Bool} (inv : Inventory) : Call known → Inventory
  | .create around actor data key =>
    match createEndpoint around actor data.val key inv with
    | .ok inv' => inv'
    | .error _ => inv
  | .update around actor endpointId data key =>
    match updateEndpoint around actor endpointId data.val key inv with
    | .ok inv' => inv'
    | .error _ => inv

end ServerPilot.Columns
