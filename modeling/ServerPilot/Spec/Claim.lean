import ServerPilot.Spec.Allocator
import ServerPilot.Spec.Commit

/-!
# Claiming cards

`createRequest` is a direct claim: one transaction that finds the cards, inserts
the lease with its card rows, host commitments and built-in allocation, and
records it. Random identifiers are parameters: an operation is any operation the
broker can perform for some choice of them.
-/

namespace ServerPilot

open Rows Checked

/-! ## Projects -/

/-- `_ensure_claim_project`: the project row, created on first use. -/
def Ledger.ensureClaimProject (l : Ledger) (projectId : String) : Tx (Ledger × Project) := do
  require (projectId ≠ systemId) (refuse "reserved_project_id"
    "the ServerPilot internal project cannot be used by workload claims" 422)
  match l.project? projectId with
  | some project => pure (l, project)
  | none =>
    let project : Project := { id := projectId }
    pure ({ l with projects := l.projects ++ [project] }, project)

/-! ## Built-in allocations -/

/-- `_endpoint_effective_workspace`. -/
def Plant.effectiveWorkspace (p : Plant) (e : Endpoint) : Option String :=
  match e.workspacePath.filter (fun w => w ≠ "") with
  | some w => some w
  | none => e.serverGroupId.bind fun g =>
      (row? ServerGroup.id g p.serverGroups).map ServerGroup.workspacePath

/-- The device row of a built-in allocation. -/
def GPUDevice.allocated (g : GPUDevice) : AllocatedDevice :=
  { gpuUuid := g.gpuUuid, physicalIndex := some g.gpuIndex
    deviceSelector := g.cudaOrdinal.map toString }

/-- A built-in allocation brought in line with the cards a lease holds on its endpoint. -/
def Plant.refreshDirect (p : Plant) (lease : Lease) (gpus : List GPUDevice) (now : Time)
    (a : ResourceAllocation) : ResourceAllocation :=
  let devices := gpus.filter fun g => g.endpointId = a.endpointId
  { a with
    state := if devices = [] then .released else .active
    updatedAt := now
    confirmedAt := some now
    expiresAt := lease.expiresAt
    locations := if devices = [] then [] else
      [{ node := ((p.endpoint? a.endpointId).map Endpoint.host).getD ""
         gpuCount := devices.length, devices := devices.map GPUDevice.allocated }]
    entry := (p.endpoint? a.endpointId).map fun e =>
      { kind := "ssh", host := e.host, port := e.port, user := e.sshUser
        workspacePath := p.effectiveWorkspace e } }

/-- A lease's built-in allocation on an endpoint. -/
def isDirectOf (leaseId : String) (a : ResourceAllocation) : Bool :=
  decide (a.leaseId = some leaseId ∧ a.providerId = "builtin")

/-- A built-in allocation not yet brought in line. -/
def newDirect (lease : Lease) (token endpointId : String) (now : Time) : ResourceAllocation :=
  { id := token, leaseId := some lease.id, endpointId, providerId := "builtin"
    actorId := lease.actorId, requestKey := lease.id
    request := { projectId := lease.projectId, taskRef := lease.taskRef, purpose := none
                 durationSeconds := lease.durationSeconds, constraints := lease.constraints }
    allocationRef := some lease.id, state := .active, releaseGranularity := "device"
    requestedDurationSeconds := lease.durationSeconds, createdAt := now, updatedAt := now }

/-- `_sync_direct_allocations`; `token` names the rows it inserts. -/
def Broker.syncDirectAllocations (b : Broker) (lease : Lease) (gpus : List GPUDevice)
    (token : String → String) (now : Time) : Broker :=
  let known := (b.ledger.allocations.filter (isDirectOf lease.id)).map
    ResourceAllocation.endpointId
  let fresh := (gpus.map GPUDevice.endpointId).dedup.filter fun e => e ∉ known
  let refresh := b.plant.refreshDirect lease gpus now
  { b with ledger := { b.ledger with
      allocations := updWhere (isDirectOf lease.id) refresh b.ledger.allocations ++
        fresh.map fun e => refresh (newDirect lease (token e) e now) } }

/-! ## Issuing a lease -/

/-- The promises a lease with these amounts makes on the endpoints of its cards. -/
def commitmentsFor (leaseId : String) (c : ResourceConstraints) (endpointIds : List String)
    (now : Time) : List Commitment :=
  endpointIds.map fun e =>
    { leaseId, endpointId := e, cpuCores := c.cpuCores.getD 0, memoryMib := c.memoryMib.getD 0
      createdAt := now }

/-- `sorted({gpu.endpoint_id for gpu in gpus})`. -/
def endpointsOf (gpus : List GPUDevice) : List String :=
  (gpus.map GPUDevice.endpointId).dedup.insertionSort (· ≤ ·)

/-- The rows of a new lease: itself, its cards, its commitments. -/
def Ledger.insertLease (l : Ledger) (lease : Lease) (gpuIds : List String)
    (commitments : List Commitment) : Ledger :=
  { l with
    leases := l.leases ++ [lease]
    resources := l.resources ++ gpuIds.map fun g => { leaseId := lease.id, gpuId := g }
    commitments := l.commitments ++ commitments }

/-- The refusal of a claim no set of cards satisfies. -/
def noCapacity (c : ResourceConstraints) (details : Details) : Fault :=
  refuse "no_capacity" ("没有满足本次申请的可用 GPU（需要 " ++ toString c.gpuCount ++ " 张）") 409
    (("gpu_count", .number c.gpuCount) :: details)

/-- The lease row of a claim, before `create_request` sets its owner and expiry. -/
def claimedLease (leaseId : String) (actor : ActorContext) (r : RequestCreate) (now : Time)
    (revision : ℕ) : Lease :=
  { id := leaseId, actorId := actor.id, projectId := r.projectId, kind := .workload
    taskRef := r.taskRef, purpose := r.purpose, constraints := r.constraints
    durationSeconds := r.durationSeconds, state := .held, issuedAt := now
    expiresAt := some (now + seconds r.durationSeconds), lastHeartbeatAt := now
    issuedRevision := revision }

def Placement.name : Placement → String
  | pack => "pack"
  | spread => "spread"
  | exact => "exact"

/-- The rows `_issue_lease` writes for a claim that got these cards. -/
def Broker.insertClaim (b : Broker) (lease : Lease) (c : ResourceConstraints)
    (gpus : List GPUDevice) (token : String → String) (now : Time) : Broker :=
  { b with
    ledger := b.ledger.insertLease lease (gpus.map GPUDevice.id)
      (commitmentsFor lease.id c (endpointsOf gpus) now) }.syncDirectAllocations lease gpus token
        now

/-- The admission half of `_issue_lease`: the cards a claim gets, and what its audit row says. -/
def Broker.admitClaim (cfg : Config) (now : Time) (b : Broker) (project : Project)
    (r : RequestCreate) : Tx (List GPUDevice × Details) := do
  let c := r.constraints
  let blocked := b.ledger.projectBlocked project c
  require (blocked = none) (noCapacity c [("project_policy", .text (blocked.getD ""))])
  let candidates := b.eligibleGpus cfg now c
  let excluded := b.excludedCounts cfg now c
  let gpus ← need (b.plant.selectInGroupPartitions candidates c) (noCapacity c
    [("candidate_count", .number candidates.length), ("excluded", .counts excluded)])
  pure (gpus, [("project_id", .text project.id), ("task_ref", .text r.taskRef),
    ("candidate_count", .number candidates.length), ("excluded", .counts excluded),
    ("placement", .text c.placement.name), ("gang_size", .number gpus.length)])

/-! ## Create request -/

/-- `_lease_card_count`. -/
def Ledger.leaseCardCount (l : Ledger) (lease : Lease) : ℕ :=
  if (l.cards lease.id).length = 0 then lease.constraints.gpuCount else (l.cards lease.id).length

/-- `_can_manage_lease`: sessions of one project manage each other's leases. -/
def canManageLease (actor : ActorContext) (lease : Lease) : Bool :=
  match lease.ownerSessionId, actor.sessionId with
  | some owner, some session =>
    decide (owner = session) || decide (some lease.projectId = actor.sessionProject)
  | _, _ => decide (lease.actorId = actor.id)

/-- The live owned lease of a task, the row `uq_active_owned_task` makes unique. -/
def Ledger.ownedTask? (l : Ledger) (projectId taskRef : String) : Option Lease :=
  l.ownedLive.find? fun x => x.projectId = projectId ∧ x.taskRef = taskRef

/-- `_held_task`: a repeated apply gets its lease back, one that disagrees is refused. -/
def Broker.heldTask (b : Broker) (actor : ActorContext) (r : RequestCreate) :
    Tx (Option Response) :=
  match actor.sessionId, b.ledger.ownedTask? r.projectId r.taskRef with
  | some _, some lease =>
    let count := b.ledger.leaseCardCount lease
    let mine := canManageLease actor lease
    if mine = true ∧ count = r.constraints.gpuCount then
      .ok (some (.existing b.ledger.revision (b.leaseDict lease)))
    else .error (refuse "task_already_held" "这个任务已有租约" 409
      [("lease_id", .text lease.id), ("gpu_count", .number count), ("held_by_you", .flag mine)])
  | _, _ => .ok none

/-- A list of ids, printed the way the source prints one. -/
def quoted (ids : List String) : String :=
  "[" ++ ", ".intercalate (ids.map fun x => "'" ++ x ++ "'") ++ "]"

/-- `_enforce_direct_group_selection`. -/
def Plant.enforceDirectGroupSelection (cfg : Config) (p : Plant) (c : ResourceConstraints) :
    Tx Unit := do
  let known := p.serverGroups.map ServerGroup.id
  if c.serverGroupIds ≠ [] then
    let missing := c.serverGroupIds.filter fun g => g ∉ known
    require (missing = []) (refuse "server_group_not_found"
      ("unknown server_group_ids: " ++ quoted missing) 404
      [("server_group_ids", .texts missing)])
  else if known = [] then pure ()
  else
    -- pinning endpoints is enough only when none of them belongs to a group
    let grouped := c.endpointIds.filter fun id => (p.endpoint? id).any fun e =>
      (cfg.plugin e.observationProfile).isNone && e.serverGroupId.isSome
    require (c.endpointIds ≠ [] ∧ grouped = []) (refuse "group_selection_required"
      "select a server_group_id before claiming GPUs" 409)

/-- What `create_request` sets on the row `_issue_lease` inserted. -/
def Lease.claimedBy (actor : ActorContext) (persistent : Bool) (lease : Lease) : Lease :=
  { lease with
    expiresAt := if persistent then none else lease.expiresAt
    ownerSessionId := actor.sessionId }

/-- The state a claim builds for this lease and these cards. -/
def Broker.claimed (b : Broker) (actor : ActorContext) (persistent : Bool) (lease : Lease)
    (c : ResourceConstraints) (gpus : List GPUDevice) (token : String → String) (d : Details)
    (now : Time) : Broker :=
  let issued := b.insertClaim lease c gpus token now
  { issued with
    ledger := (issued.ledger.addAudit (some actor.id) "lease.issued" "lease" lease.id "success" d
      now).editLease lease.id (Lease.claimedBy actor persistent) }

/-- `create_request`. -/
def createRequest (cfg : Config) (now : Time) (actor : ActorContext) (r : RequestCreate)
    (key : Option String) (persistent : Bool) (leaseId : String) (token : String → String)
    (b : Broker) : Tx (Broker × Response) := do
  requireRole actor mutatingRoles
  match ← b.ledger.replay actor "request.create" key with
  | some response => pure (b, response)
  | none =>
    match ← b.heldTask actor r with
    | some response => pure (b, response)
    | none => remembering actor "request.create" key now do
      let (ledger, project) ← b.ledger.ensureClaimProject r.projectId
      require (project.enabled = true) (refuse "project_disabled" "project is disabled" 409)
      b.plant.enforceDirectGroupSelection cfg r.constraints
      let b := { b with ledger := ledger.bumpRevision }
      let lease := claimedLease leaseId actor r now b.ledger.revision
      let (gpus, details) ← b.admitClaim cfg now project r
      let claimed := b.claimed actor persistent lease r.constraints gpus token details now
      pure (claimed, .lease (claimed.ledger.nextAuditId - 1) claimed.ledger.revision
        (claimed.leaseDict (lease.claimedBy actor persistent)))

end ServerPilot
