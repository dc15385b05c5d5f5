import ServerPilot.Spec.Recover

/-!
# Delegated claims

`claim_provider` is several transactions around one remote call: prepare an
allocation row, apply it at the provider, remember what came back, and finish by
inserting the lease. Releasing one is the same the other way round. Each
transaction is a function here; a call is a sequence of them, and anything may
happen in between.
-/

namespace ServerPilot

open Rows Checked

/-! ## Choosing the provider -/

/-- The endpoints a claim names: one pinned endpoint, or the one group it selects. -/
def ResourceConstraints.namesEndpoint (c : ResourceConstraints) (e : Endpoint) : Bool :=
  (decide (c.endpointIds = [e.id]) ||
    (c.endpointIds.isEmpty && decide (c.serverGroupIds.length = 1) &&
      decide (e.serverGroupId = c.serverGroupIds.head?))) &&
    !c.denyEndpointIds.contains e.id && c.endpointLabels.all fun x => e.labels.contains x

/-- The plugin that owns admission on an endpoint. -/
def Config.applyPlugin (cfg : Config) (e : Endpoint) : Option Plugin :=
  (cfg.plugin e.observationProfile).filter fun x => x.capabilities.contains "apply"

/-- The provider of a claim: none, exactly one, or a refusal. -/
def chooseProvider (cfg : Config) (b : Broker) (r : RequestCreate) :
    Tx (Option (Endpoint × Plugin)) := do
  let candidates := (b.plant.endpoints.filter r.constraints.namesEndpoint).filterMap fun e =>
    (cfg.applyPlugin e).map fun x => (e, x)
  match candidates with
  | [] => pure none
  | [(e, x)] => do
    require (r.durationSeconds ≠ undeclaredDurationSeconds)
      (refuse "duration_required" "集群任务需要声明时长，到时作业会被终止" 422)
    require (∀ m ∈ x.maxLeaseSeconds, r.durationSeconds ≤ m)
      (refuse "duration_exceeds_provider_limit" "任务时长超过提供方硬时限" 422
        [("max_lease_seconds", .number (x.maxLeaseSeconds.getD 0))])
    pure (some (e, x))
  | _ => throw (refuse "provider_selection_ambiguous"
      "该组包含多个分配提供方，当前无法唯一选择" 409)

/-! ## Prepare -/

/-- The key a claim's allocation is filed under. -/
def requestKeyOf (r : RequestCreate) (key : Option String) : String :=
  (key.filter fun k => k ≠ "").getD ("task:" ++ r.projectId ++ ":" ++ r.taskRef)

/-- The allocation this claim was filed under before, or a live one for the same task. -/
def Ledger.filedAllocation (l : Ledger) (actorId endpointId requestKey : String)
    (r : RequestCreate) : Option ResourceAllocation :=
  (l.allocations.find? fun a =>
    a.actorId = actorId ∧ a.requestKey = requestKey ∧ a.endpointId = endpointId).or
  (l.allocations.find? fun a =>
    a.actorId = actorId ∧ a.endpointId = endpointId ∧ a.state.terminal = false ∧
      a.request.projectId = r.projectId ∧ a.request.taskRef = r.taskRef)

/-- A confirmed end frees the task's key: the old row gives it up. -/
def Ledger.retireKey (l : Ledger) (allocationId : String) : Ledger :=
  l.editAllocations (fun a => a.id = allocationId)
    fun a => { a with requestKey := "ended:" ++ a.id }

/-- A new allocation row, committed before the provider hears of it. -/
def preparedAllocation (token endpointId : String) (plugin : Plugin) (actor : ActorContext)
    (requestKey : String) (r : RequestCreate) (now : Time) : ResourceAllocation :=
  { id := token, leaseId := none, endpointId, providerId := plugin.pluginId, actorId := actor.id
    requestKey, request := r.dump, allocationRef := none, state := .applying
    releaseGranularity := plugin.releaseGranularity
    requestedDurationSeconds := r.durationSeconds, createdAt := now, updatedAt := now }

/-- The answer to a claim whose allocation is already on file. -/
def Broker.answerFiled (b : Broker) (r : RequestCreate) (a : ResourceAllocation) : Tx Response := do
  require (a.request = r.dump) (refuse "idempotency_conflict" "同一申请标识对应不同需求" 409)
  match a.leaseId with
  | some leaseId =>
    let lease ← need (b.ledger.lease? leaseId) (.raised "AttributeError")
    pure (.existing b.ledger.revision (b.leaseDict lease))
  | none =>
    require (a.state.terminal = false) (refuse "allocation_attempt_ended"
      "这次申请已结束，请使用新的申请标识" 409)
    pure (.allocation a.id false)

/-- A confirmed end of a keyless claim's allocation frees its key. -/
def Ledger.retireEnded (l : Ledger) (sent : Option String) (filed : Option ResourceAllocation) :
    Ledger :=
  match filed.filter fun a => sent.isNone && a.state.terminal with
  | some a => l.retireKey a.id
  | none => l

/-- The allocation a claim goes on with, once a retired one is out of the way. -/
def resumable (sent : Option String) (filed : Option ResourceAllocation) :
    Option ResourceAllocation :=
  filed.filter fun a => !(sent.isNone && a.state.terminal)

/-- File a new allocation, or answer with the one on file. -/
def Broker.fileClaim (now : Time) (actor : ActorContext) (r : RequestCreate) (requestKey : String)
    (endpointId : String) (plugin : Plugin) (token : String) (project : Project)
    (filed : Option ResourceAllocation) (b : Broker) : Tx (Broker × Response) :=
  match filed with
  | some a => do
    let response ← b.answerFiled r a
    finish b response
  | none => do
    let blocked := b.ledger.projectBlocked project r.constraints
    require (blocked = none) (refuse "no_capacity" (blocked.getD "") 409)
    let a := preparedAllocation token endpointId plugin actor requestKey r now
    finish { b with
      ledger := { b.ledger.bumpRevision with allocations := b.ledger.allocations ++ [a] } }
      (.allocation token true)

/-- `claim_provider`, the `prepare` transaction. -/
def claimPrepare (now : Time) (actor : ActorContext) (r : RequestCreate) (key : Option String)
    (endpointId : String) (plugin : Plugin) (token : String) (b : Broker) :
    Tx (Broker × Response) := do
  requireRole actor mutatingRoles
  let sent := key.filter fun k => k ≠ ""
  match ← b.ledger.replay actor "request.create" sent with
  | some response => pure (b, response)
  | none =>
    let (ledger, project) ← b.ledger.ensureClaimProject r.projectId
    require (project.enabled = true) (refuse "project_disabled" "project is disabled" 409)
    let requestKey := requestKeyOf r key
    let filed := ledger.filedAllocation actor.id endpointId requestKey r
    { b with ledger := ledger.retireEnded sent filed }.fileClaim now actor r requestKey endpointId
      plugin token project (resumable sent filed)

/-! ## After the remote call -/

/-- A write on one allocation row by its id; a row that is gone is an `AttributeError`. -/
def Broker.writeAllocation (b : Broker) (allocationId : String)
    (f : ResourceAllocation → ResourceAllocation) : Tx (Broker × Response) := do
  let _ ← need (b.ledger.allocation? allocationId) (.raised "AttributeError")
  finish { b with
    ledger := (b.ledger.editAllocations (fun a => a.id = allocationId) f).bumpRevision } .done

/-- An attempt the provider refused, or one that left no answer. -/
def ResourceAllocation.attemptFailed (rejected : Bool) (error : String) (now : Time)
    (a : ResourceAllocation) : ResourceAllocation :=
  { a with
    state := if rejected then .failed else .unconfirmed
    lastError := some (cut 1500 error), updatedAt := now }

/-- `claim_provider`, the `failed` transaction: a refusal ends the attempt, anything else leaves
it unconfirmed. -/
def claimFailed (now : Time) (allocationId : String) (rejected : Bool) (error : String)
    (b : Broker) : Tx (Broker × Response) :=
  b.writeAllocation allocationId (ResourceAllocation.attemptFailed rejected error now)

/-- `claim_provider`, the `remember` transaction. -/
def claimRemember (now : Time) (allocationId : String) (fact : AllocationFact) (b : Broker) :
    Tx (Broker × Response) :=
  b.writeAllocation allocationId fun a => a.recordFact fact now

/-- The lease row of a delegated claim. -/
def delegatedLease (leaseId : String) (actor : ActorContext) (r : RequestCreate)
    (expiresAt : Option Time) (now : Time) (revision : ℕ) : Lease :=
  { id := leaseId, actorId := actor.id, projectId := r.projectId, kind := .workload
    taskRef := r.taskRef, purpose := r.purpose, constraints := r.constraints
    durationSeconds := r.durationSeconds, state := .held, issuedAt := now, expiresAt
    lastHeartbeatAt := now, issuedRevision := revision, ownerSessionId := actor.sessionId
    delegated := true }

/-- The ledger with the lease of a delegated claim and its allocation tied to it. -/
def Ledger.delegate (l : Ledger) (lease : Lease) (allocationId : String) (now : Time) : Ledger :=
  ((l.insertLease lease [] []).editAllocations (fun x => x.id = allocationId)
    fun x => { x with leaseId := some lease.id }).addAudit (some lease.actorId) "lease.issued"
    "lease" lease.id "success" [("allocation_id", .text allocationId)] now

/-- `claim_provider`, the `finish` transaction. -/
def claimFinish (now : Time) (actor : ActorContext) (r : RequestCreate) (key : Option String)
    (allocationId leaseId : String) (b : Broker) : Tx (Broker × Response) := do
  remembering actor "request.create" (key.filter fun k => k ≠ "") now do
    let a ← need (b.ledger.allocation? allocationId) (.raised "AttributeError")
    let ledger := b.ledger.bumpRevision
    let lease := delegatedLease leaseId actor r a.expiresAt now ledger.revision
    let ledger := ledger.delegate lease allocationId now
    pure ({ b with ledger }, .lease (ledger.nextAuditId - 1) ledger.revision
      ({ b with ledger }.leaseDict lease))

/-! ## Release -/

/-- What `_release_plugin_allocation_before_write` reads: the allocation this actor may give
back. -/
def Broker.releasableAllocation (b : Broker) (actor : ActorContext) (leaseId : String)
    (operatorOverride : Bool) : Option PluginRelease :=
  ((b.ledger.lease? leaseId).filter fun x =>
    !x.state.terminal && (canManageLease actor x || operatorOverride)).bind fun x =>
      b.ledger.pluginAllocation x.id

/-- An allocation marked with the provider's answer to a release. -/
def ResourceAllocation.marked (released : Bool) (error : Option String) (now : Time)
    (a : ResourceAllocation) : ResourceAllocation :=
  { a with
    state := if released then .released else .releasePending
    lastError := error, updatedAt := now
    confirmedAt := if released then some now else a.confirmedAt }

/-- `_release_plugin_allocation_before_write`, the `mark` transaction. -/
def markAllocation (now : Time) (allocationId : String) (released : Bool) (error : Option String)
    (b : Broker) : Tx (Broker × Response) :=
  b.writeAllocation allocationId (ResourceAllocation.marked released error now)

/-- A release the provider confirmed ends the lease of its allocation. -/
def Ledger.endReleased (l : Ledger) (leaseId : Option String) (released : Bool) (now : Time) :
    Ledger :=
  match (leaseId.bind l.lease?).filter fun x => released && x.state.live with
  | some x => l.finishProviderLease x.id "provider release confirmed" now
  | none => l

/-- The ledger after `finish` recorded the provider's answer `error`. -/
def Ledger.pluginReleased (l : Ledger) (a : ResourceAllocation) (error : Option String)
    (now : Time) : Ledger :=
  let l := l.editAllocations (fun x => x.id = a.id)
    (ResourceAllocation.marked error.isNone error now)
  (l.endReleased a.leaseId error.isNone now).bumpRevision.addAudit (some systemId)
    "allocation.release" "allocation" a.id (if error.isSome then "failure" else "success")
    [("state", .text (if error.isSome then "release_pending" else "released")),
     ("error", (error.map Detail.text).getD .none)] now

/-- `_release_plugin_allocations`, the `finish` transaction, for the provider's answer `error`. -/
def finishPluginRelease (now : Time) (allocationId : String) (error : Option String) (b : Broker) :
    Tx (Broker × Response) :=
  match b.ledger.allocation? allocationId with
  | none => pure (b, .done)
  | some a => finish { b with ledger := b.ledger.pluginReleased a error now } .done

end ServerPilot
