import ServerPilot.Spec.Reconcile

/-!
# Changing a lease

The transactions by which a holder or an operator ends a lease (`releaseLease`),
changes its cards (`resizeLease`, `reassignLeaseGpus`) or takes it over
(`takeOverLease`).
-/

namespace ServerPilot

open Rows Checked

/-- `_reject_generic_keepalive_mutation`. -/
def rejectGenericKeepaliveMutation (lease : Lease) : Tx Unit :=
  require (lease.kind ≠ .keepalive) (refuse "keepalive_requires_dedicated_operation"
    "internal keepalive ownership can only be changed by the dedicated keepalive operation" 409)

/-! ## Release -/

/-- The rows `release_lease` writes: the lease ends, and so does its built-in allocation. -/
def Broker.released (b : Broker) (lease : Lease) (reason : String) (token : String → String)
    (now : Time) : Broker :=
  let b := { b with
    ledger := b.ledger.bumpRevision.endLease lease.id .released (some reason) now }
  if (b.ledger.pluginAllocation lease.id).isSome then b
  else b.syncDirectAllocations (lease.ended .released (some reason) now) [] token now

/-- `release_lease`: its transaction, after any provider allocation was given back. -/
def releaseLease (now : Time) (actor : ActorContext) (leaseId reason : String)
    (key : Option String) (operatorOverride : Bool) (token : String → String) (b : Broker) :
    Tx (Broker × Response) := do
  requireRole actor mutatingRoles
  require (operatorOverride = true → actor.role ∈ ["operator", "admin"]) (refuse
    "operator_role_required" "human lease correction requires an operator role" 403)
  require (strip reason ≠ "") (refuse "release_reason_required" "释放 GPU 时需要提供原因" 422)
  let lease ← need (b.ledger.lease? leaseId) (refuse "lease_not_found" "找不到这个 GPU 租约" 404)
  rejectGenericKeepaliveMutation lease
  once b actor "lease.release" key now do
    require (canManageLease actor lease = true ∨ operatorOverride = true)
      (refuse "lease_forbidden" "不能释放其他 Agent 的 GPU 租约" 403)
    require (lease.state.terminal = false)
      (refuse "lease_already_released" "这个 GPU 租约已经结束" 409)
    let reason := cut 500 (strip reason)
    let released := b.released lease reason token now
    let ledger := released.ledger.addAudit (some actor.id) "lease.released" "lease" leaseId
      "success" [("reason", .text reason)] now
    pure ({ b with ledger }, .lease (ledger.nextAuditId - 1) ledger.revision
      ({ b with ledger }.leaseDictOf lease))

/-! ## Reassignment -/

/-- `_require_lease_reassignment_authorization`. -/
def requireReassignmentAuthorization (actor : ActorContext) (lease : Lease)
    (operatorOverride : Bool) : Tx Unit :=
  if operatorOverride then
    require (actor.role ∈ ["operator", "admin"]) (refuse "operator_role_required"
      "human lease correction requires an operator role" 403)
  else
    require (canManageLease actor lease = true) (refuse "lease_forbidden"
      "cannot reassign another actor's GPU lease" 403)

/-- `_workload_reassignment_targets`: the lease and the target cards. -/
def Broker.workloadReassignmentTargets (b : Broker) (actor : ActorContext) (leaseId : String)
    (gpuIds : List String) (operatorOverride : Bool) : Tx (Lease × List GPUDevice) := do
  let lease ← need (b.ledger.lease? leaseId)
    (refuse "lease_not_found" "lease does not exist" 404)
  requireReassignmentAuthorization actor lease operatorOverride
  require (lease.kind = .workload ∧ lease.state.live = true) (refuse "workload_lease_required"
    "only a current workload assignment can be moved" 409)
  require (b.ledger.pluginAllocation leaseId = none) (refuse "allocation_release_required"
    "该提供方按整个分配管理资源，不能逐卡改派" 409)
  let current := b.ledger.cards leaseId
  require (gpuIds.length = current.length ∧ gpuIds.Nodup) (refuse "gpu_count_mismatch"
    "select the same number of distinct GPUs as the current task" 422
    [("gpu_count", .number current.length)])
  let targets ← need (gpuIds.mapM b.plant.gpu?)
    (refuse "gpu_not_found" "one or more selected GPUs do not exist" 404)
  pure (lease, targets)

/-- The rows on these cards that another lease holds. -/
def Ledger.occupied (l : Ledger) (leaseId : String) (gpuIds : List String) : List LeaseResource :=
  l.resources.filter fun r => r.gpuId ∈ gpuIds ∧ r.active = true ∧ r.leaseId ≠ leaseId

/-- Bring cards into a lease: the rows it has for them, rewritten by `f`, and fresh rows for the
others. -/
def Ledger.bringIn (l : Ledger) (leaseId : String) (gpuIds : List String)
    (f : LeaseResource → LeaseResource) : Ledger :=
  let known := (l.resources.filter fun r => r.leaseId = leaseId).map LeaseResource.gpuId
  let fresh := (gpuIds.filter fun g => g ∉ known).map fun g => f { leaseId, gpuId := g }
  let l := l.editResources (fun r => r.leaseId = leaseId ∧ r.gpuId ∈ gpuIds) f
  { l with resources := l.resources ++ fresh }

/-- A card row that is active again, its other columns as they were. -/
def LeaseResource.returned (r : LeaseResource) : LeaseResource :=
  { r with active := true, releasedAt := none }

/-- The card rows of a lease moved to exactly `gpuIds`: old rows end, known rows come back as they
were, and the others are inserted. -/
def Ledger.moveCards (l : Ledger) (leaseId : String) (gpuIds : List String) (now : Time) : Ledger :=
  (l.editResources (fun r => r.leaseId = leaseId ∧ r.active = true)
    (LeaseResource.dropped now)).bringIn leaseId gpuIds LeaseResource.returned

/-- The constraints a reassigned lease stores: exactly its new cards. -/
def ResourceConstraints.pinnedTo (c : ResourceConstraints) (gpuIds endpointIds : List String) :
    ResourceConstraints :=
  { c with gpuIds, endpointIds, placement := .exact }

/-- The lease row with the constraints of its new cards. -/
def Lease.repinned (c : ResourceConstraints) (x : Lease) : Lease := { x with constraints := c }

/-- A lease's commitments deleted, and made anew on these endpoints. -/
def Ledger.renewCommitments (l : Ledger) (leaseId : String) (c : ResourceConstraints)
    (endpointIds : List String) (now : Time) : Ledger :=
  { l with
    commitments := (l.commitments.filter fun x => x.leaseId ≠ leaseId) ++
      commitmentsFor leaseId c endpointIds now }

/-- A lease's workload bindings deleted. -/
def Ledger.dropBindings (l : Ledger) (leaseId : String) : Ledger :=
  { l with bindings := l.bindings.filter fun w => w.leaseId ≠ leaseId }

/-- The rows `reassign_lease_gpus` writes: cards, bindings, commitments, stored constraints. -/
def Broker.moved (b : Broker) (lease : Lease) (c : ResourceConstraints) (targets : List GPUDevice)
    (token : String → String) (now : Time) : Broker :=
  let gpuIds := targets.map GPUDevice.id
  let pinned := c.pinnedTo gpuIds (endpointsOf targets)
  let ledger := ((b.ledger.moveCards lease.id gpuIds now).dropBindings lease.id).renewCommitments
    lease.id c (endpointsOf targets) now
  { b with ledger := ledger.editLease lease.id (Lease.repinned pinned) }.syncDirectAllocations
    (lease.repinned pinned) targets token now

/-- `reassign_lease_gpus`. -/
def reassignLeaseGpus (now : Time) (actor : ActorContext) (leaseId : String)
    (gpuIds : List String) (key : String) (operatorOverride : Bool) (token : String → String)
    (b : Broker) : Tx (Broker × Response) := do
  requireRole actor mutatingRoles
  let (lease, targets) ← b.workloadReassignmentTargets actor leaseId gpuIds operatorOverride
  once b actor "lease.gpus.reassign" (some key) now do
    let occupied := b.ledger.occupied leaseId gpuIds
    require (occupied = []) (refuse "gpu_already_assigned"
      "move or release the task already assigned to the selected GPU first" 409
      [("gpu_ids", .texts ((occupied.map LeaseResource.gpuId).dedup.insertionSort (· ≤ ·)))])
    let c ← need lease.constraints.validate (.raised "ValidationError")
    let moved := b.moved lease c targets token now
    let ledger := moved.ledger.bumpRevision.addAudit (some actor.id) "lease.gpus_reassigned"
      "lease" leaseId "success" [("gpu_ids", .texts gpuIds)] now
    pure ({ moved with ledger }, .lease (ledger.nextAuditId - 1) ledger.revision
      ({ moved with ledger }.leaseDictOf lease))

/-! ## Resizing -/

/-- `_agent_lease`: the lease this caller may act on, or a refusal naming why not. -/
def Ledger.agentLease (l : Ledger) (actor : ActorContext) (leaseId : String) : Tx Lease := do
  let lease ← need ((l.lease? leaseId).filter fun x => x.kind = .workload)
    (refuse "lease_not_found" "找不到这个租约" 404)
  let takenFrom : Detail := (actor.sessionId.map Detail.text).getD .none
  let takenOver := l.audit.any fun e => e.resourceType = "lease" ∧ e.resourceId = lease.id ∧
    e.action = "lease.taken_over" ∧ (e.summary.lookup "from_session").getD .none = takenFrom
  require (canManageLease actor lease = true ∨ takenOver = false)
    (refuse "lease_taken_over" "这个租约已被新会话接管" 409)
  require (canManageLease actor lease = true) (refuse "lease_forbidden" "这是其他 Agent 的租约" 403)
  pure lease

/-- `by_gpu[name]`: a card of the lease by its row id or, first, by its UUID. -/
def Plant.cardNamed (p : Plant) (active : List LeaseResource) (name : String) :
    Option LeaseResource :=
  (active.reverse.find? fun r => p.uuidOf r.gpuId = name).or
    (active.find? fun r => r.gpuId = name)

/-- A card row brought (back) into a lease by `_add_cards`. -/
def LeaseResource.added (now : Time) (r : LeaseResource) : LeaseResource :=
  { r with
    active := true, addedAt := some now, releasedAt := none, releaseReason := none
    releasedBy := none, idleSince := none, keepIdleWindows := 0 }

/-- The card rows after `_add_cards` took `gpuIds` in. -/
def Ledger.takeCards (l : Ledger) (leaseId : String) (gpuIds : List String) (now : Time) : Ledger :=
  l.bringIn leaseId gpuIds (LeaseResource.added now)

/-- The cards `_add_cards` would take in, or its refusal. -/
def Broker.chooseCards (cfg : Config) (now : Time) (b : Broker) (lease : Lease)
    (c : ResourceConstraints) : Tx (List GPUDevice) := do
  let project ← need (b.ledger.project? lease.projectId) (.raised "AttributeError")
  let quota := project.quotaGpus.filter fun q => q < b.ledger.gpuUsage project.id + c.gpuCount
  match quota with
  | some q => throw (refuse "no_capacity" ("项目 GPU 配额 " ++ toString q ++ " 不足") 409
      [("gpu_count", .number c.gpuCount), ("project_policy", .text ("quota " ++ toString q))])
  | none =>
    let candidates := b.eligibleGpus cfg now c
    need (b.plant.selectInGroupPartitions candidates c) (refuse "no_capacity"
      ("没有足够的可用 GPU（需要 " ++ toString c.gpuCount ++ " 张）") 409
      [("gpu_count", .number c.gpuCount), ("candidate_count", .number candidates.length),
       ("excluded", .counts (b.excludedCounts cfg now c))])

/-- `_add_cards`, when there is something to add. -/
def Broker.addCards (cfg : Config) (now : Time) (b : Broker) (lease : Lease)
    (request : Option RequestCreate) : Tx (Broker × List GPUDevice) :=
  match request with
  | none => pure (b, [])
  | some r => do
    let chosen ← b.chooseCards cfg now lease r.constraints
    pure ({ b with ledger := b.ledger.takeCards lease.id (chosen.map GPUDevice.id) now }, chosen)

/-- `_sync_commitments`: one promise per endpoint of these cards, old ones as they were. -/
def Ledger.syncCommitments (l : Ledger) (lease : Lease) (endpointIds : List String) (now : Time) :
    Ledger :=
  let known := (l.commitments.filter fun c => c.leaseId = lease.id).map Commitment.endpointId
  { l with
    commitments := (l.commitments.filter fun c =>
        c.leaseId ≠ lease.id ∨ c.endpointId ∈ endpointIds) ++
      commitmentsFor lease.id lease.constraints (endpointIds.dedup.filter fun e => e ∉ known) now }

/-- The cards a lease holds, as GPU rows. -/
def Broker.heldGpus (b : Broker) (leaseId : String) : List GPUDevice :=
  (b.ledger.cards leaseId).filterMap fun r => b.plant.gpu? r.gpuId

/-- Give cards back out of a live lease: settle them, if there are any. -/
def Ledger.returnCards (l : Ledger) (leaseId : String) (gpuIds : List String) (releasedBy : String)
    (now : Time) : Ledger :=
  if gpuIds = [] then l
  else l.settleCards leaseId gpuIds "returned by holder" releasedBy now

/-- What `resize_lease` brings in line once cards were given back and taken in: the epoch, unless
settling raised it already, the built-in allocations and the host commitments. -/
def Broker.resized (b : Broker) (lease : Lease) (raiseEpoch : Bool) (token : String → String)
    (now : Time) : Broker :=
  let ledger := if raiseEpoch then b.ledger.editLease lease.id Lease.raised else b.ledger
  let remaining := b.heldGpus lease.id
  let b := { b with ledger }.syncDirectAllocations lease remaining token now
  { b with ledger := b.ledger.syncCommitments lease (remaining.map GPUDevice.endpointId) now }

/-- The names a caller gave that `by_gpu` does not know, or whose card runs something. -/
def Plant.unknownCards (p : Plant) (active : List LeaseResource) (names : List String) :
    List String :=
  names.filter fun g => (p.cardNamed active g).isNone

def Plant.busyCards (p : Plant) (active : List LeaseResource) (names : List String) :
    List String :=
  names.filter fun g => (p.cardNamed active g).any fun r => p.currentProcesses r.gpuId ≠ []

/-- `resize_lease`. -/
def resizeLease (cfg : Config) (now : Time) (actor : ActorContext) (leaseId : String)
    (addRequest : Option RequestCreate) (removeGpuIds : List String) (expectedEpoch : Option ℕ)
    (token : String → String) (b : Broker) : Tx (Broker × Response) := do
  requireRole actor mutatingRoles
  let lease ← b.ledger.agentLease actor leaseId
  require (lease.state.live = true) (refuse "lease_ended" "这个租约已结束" 409)
  require (∀ a ∈ b.ledger.allocationsOf leaseId, a.providerId = "builtin")
    (refuse "resize_unsupported" "调度器分配不能改卡，请用新任务申请" 409)
  require (∀ e ∈ expectedEpoch, e = lease.resourceEpoch) (refuse "epoch_conflict" "租约的卡已变化"
    409 [("resource_epoch", .number lease.resourceEpoch)])
  let active := b.ledger.cards leaseId
  require (b.plant.unknownCards active removeGpuIds = []) (refuse "card_not_held"
    "租约里没有这张 GPU" 409 [("gpu_ids", .texts (b.plant.unknownCards active removeGpuIds))])
  require (b.plant.busyCards active removeGpuIds = []) (refuse "card_in_use"
    "这张 GPU 上还有进程" 409 [("gpu_ids", .texts (b.plant.busyCards active removeGpuIds))])
  require (¬ (active.length ≤ removeGpuIds.length ∧ addRequest.isNone = true))
    (refuse "use_release" "归还全部 GPU 请结束任务" 409)
  let removed := (removeGpuIds.filterMap (b.plant.cardNamed active)).map LeaseResource.gpuId
  let ledger := b.ledger.bumpRevision.returnCards leaseId removed actor.id now
  let (taken, added) ← { b with ledger }.addCards cfg now lease addRequest
  require (¬ (removed = [] ∧ added = [])) (refuse "nothing_to_change" "没有要改的卡" 400)
  let b := taken.resized lease (decide (removed = [])) token now
  let epoch := lease.resourceEpoch + 1
  let ledger := b.ledger.addAudit (some actor.id) "lease.resized" "lease" leaseId "success"
    [("added", .texts (added.map GPUDevice.gpuUuid)), ("removed", .texts removeGpuIds),
     ("resource_epoch", .number epoch)] now
  finish { b with ledger } (.resized ({ b with ledger }.leaseDictOf lease)
    (added.map GPUDevice.gpuUuid) removeGpuIds epoch ledger.revision)

/-! ## Takeover -/

/-- `_find_task_lease`: the live lease of a task, one without an owner included. -/
def Ledger.findTaskLease (l : Ledger) (projectId task : String) : Option Lease :=
  latest Lease.issuedAt (l.leases.filter fun x =>
    x.kind = .workload ∧ x.taskRef = task ∧ x.releasedAt = none ∧
      (x.projectId = projectId ∨ x.ownerSessionId = none))

/-- The project a lease is taken into. A row moving across projects must not meet another live
lease of the same task there. -/
def Ledger.takeoverProject (l : Ledger) (lease : Lease) (projectId : String) : Tx Ledger :=
  if lease.projectId = projectId then pure l
  else do
    let (l, _) ← l.ensureClaimProject projectId
    let clash := l.ownedLive.find? fun x =>
      x.projectId = projectId ∧ x.taskRef = lease.taskRef ∧ x.id ≠ lease.id
    require (clash = none) (refuse "task_already_held" "这个任务已有租约" 409
      [("lease_id", .text ((clash.map Lease.id).getD ""))])
    pure l

/-- The lease row after a takeover. -/
def Lease.takenOver (actor : ActorContext) (session projectId : String) (now : Time) (x : Lease) :
    Lease :=
  { x with projectId, ownerSessionId := some session, actorId := actor.id, lastHeartbeatAt := now }

/-- `take_over_lease`. -/
def takeOverLease (now : Time) (actor : ActorContext) (leaseId task : Option String)
    (projectId reason : String) (force : Bool) (b : Broker) : Tx (Broker × Response) := do
  requireRole actor mutatingRoles
  let session ← need actor.sessionId (refuse "session_required" "接管需要 Agent 会话" 400)
  let found := match leaseId with
    | some id => b.ledger.lease? id
    | none => b.ledger.findTaskLease projectId (task.getD "")
  let lease ← need (found.filter fun x => x.kind = .workload ∧ x.state.terminal = false)
    (refuse "lease_not_found" "没有可接管的租约" 404)
  require (lease.ownerSessionId = none ∨ lease.projectId = projectId ∨ force = true)
    (refuse "takeover_project_mismatch" "这是其他项目的租约" 409
      [("project", .text lease.projectId)])
  let ledger ← b.ledger.takeoverProject lease projectId
  let ledger := ledger.editLease lease.id (Lease.takenOver actor session projectId now)
  let ledger := ledger.editAllocations (fun a => a.leaseId = some lease.id)
    fun a => { a with actorId := actor.id }
  let ledger := ledger.bumpRevision.addAudit (some actor.id) "lease.taken_over" "lease" lease.id
    "success" [("from_session", (lease.ownerSessionId.map Detail.text).getD .none),
      ("reason", .text (cut 300 reason))] now
  finish { b with ledger } (.takenOver ({ b with ledger }.leaseDictOf lease) ledger.revision)

end ServerPilot
