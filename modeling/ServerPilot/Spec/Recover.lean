import ServerPilot.Spec.Keepalive

/-!
# Recovery and inventory

Clearing a lease by hand (`releaseEmptyConflictedLease`), and the endpoints
themselves: created, updated, and deleted together with everything that hangs
off them.
-/

namespace ServerPilot

open Rows Checked

/-! ## Manual release -/

/-- What `_manual_release_verdict` answers. -/
structure Verdict where
  allowed : Bool
  blockedReason : Option String := none
  message : Option String := none
  details : Details := []
  deriving DecidableEq, Repr

/-- The code word a lease kind and state are reported by. -/
def LeaseKind.name : LeaseKind → String
  | workload => "workload"
  | keepalive => "keepalive"

def LeaseState.name : LeaseState → String
  | held => "HELD"
  | active => "ACTIVE"
  | orphanedBusy => "ORPHANED_BUSY"
  | conflict => "CONFLICT"
  | released => "RELEASED"
  | expiredEmpty => "EXPIRED_EMPTY"

/-- The verdict on a lease a provider allocated as a whole. -/
def allocationVerdict (cfg : Config) (now : Time) (lease : Lease)
    (allocated : List ResourceAllocation) : Verdict :=
  if allocated.any fun a => !a.idle cfg now then
    { allowed := false, blockedReason := some "allocation_not_confirmed_idle"
      message := some "尚未确认整个分配持续空闲。" }
  else
    let quiet := allocated.all fun a =>
      decide (seconds cfg.idleLeaseAlertSeconds ≤ now - a.idleSince.getD now)
    if seconds cfg.idleLeaseAlertSeconds ≤ now - lease.lastHeartbeatAt ∧ quiet = true then
      { allowed := true, message := some "可归还整个分配。" }
    else { allowed := false, blockedReason := some "lease_recently_live"
           message := some "任务仍有心跳或空闲时间不足。" }

/-- The holder was heard from within the alert window. -/
def recentlyAlive (cfg : Config) (age : Time) : Verdict :=
  { allowed := false, blockedReason := some "lease_holder_recently_alive"
    message := some ("这个租约的持有者刚刚还在：" ++ toString (age / 1000000 / 60) ++
      " 分钟前仍能观察到它的进程或心跳。分阶段的任务在两批之间本来就没有进程，因此要连续 " ++
      toString (cfg.idleLeaseAlertSeconds / 60) ++
      " 分钟既没有进程也没有心跳，才能在这里清理。请稍后再试，或让持有者自己释放。")
    details := [("liveness_age_seconds", .text (tenths age)),
      ("required_seconds", .number cfg.idleLeaseAlertSeconds)] }

/-- `_manual_release_verdict` for the lease's active cards `active` on one server. -/
def Broker.manualReleaseVerdict (cfg : Config) (now : Time) (b : Broker) (lease : Lease)
    (active : List LeaseResource) (endpointUnreachable : Bool) : Verdict :=
  let allocated := (b.ledger.allocationsOf lease.id).filter fun a =>
    a.releaseGranularity = "allocation"
  let busy := if endpointUnreachable then none
    else active.find? fun r => b.plant.currentProcesses r.gpuId ≠ []
  if lease.state.live = false then
    { allowed := false, blockedReason := some "empty_workload_lease_required"
      message := some "只有仍持有 GPU 的工作租约或占卡租约可以在这里清理。"
      details := [("lease_kind", .text lease.kind.name), ("lease_state", .text lease.state.name)] }
  else if allocated ≠ [] then allocationVerdict cfg now lease allocated
  else if active = [] then
    { allowed := false, blockedReason := some "lease_has_no_resources"
      message := some "这个租约已经没有持有中的 GPU。" }
  else
    match busy with
    | some r =>
      { allowed := false, blockedReason := some "conflict_process_present"
        message := some "仍观察到运行中的进程，不能释放这张 GPU 的占用。"
        details := [("gpu_id", .text r.gpuId),
          ("process_count", .number (b.plant.currentProcesses r.gpuId).length)] }
    | none =>
      if lease.kind = .keepalive ∨ endpointUnreachable = true then { allowed := true }
      else
        let age := b.plant.livenessAge lease (active.map LeaseResource.gpuId) now
        if age < seconds cfg.idleLeaseAlertSeconds then recentlyAlive cfg age
        else { allowed := true }

/-- The host's reading and the provider's last success are after the barrier, and not stale. -/
def Plant.recollected (cfg : Config) (now : Time) (p : Plant) (endpointId : String)
    (barrier : Time) : Bool :=
  ((p.host? endpointId "self").any fun h =>
      decide (barrier ≤ h.collectedAt ∧ now - cfg.staleAfter ≤ h.collectedAt)) &&
    (p.providerState? endpointId).any fun s =>
      s.lastSuccessAt.any fun t => decide (barrier ≤ t)

/-- A card of the lease is gone, or part of that same collection. -/
def Plant.recollectedCard (cfg : Config) (now : Time) (p : Plant) (endpointId : String)
    (barrier : Time) (gpuId : String) : Bool :=
  (p.gpu? gpuId).any (fun g => !g.present) ||
    (p.telemetry? gpuId).any fun t =>
      decide (barrier ≤ t.collectedAt ∧ now - cfg.staleAfter ≤ t.observedAt) &&
        (p.host? endpointId "self").any fun h => decide (t.observedAt = h.observedAt)

/-- The cards a lease holds on one endpoint. -/
def Broker.cardsOn (b : Broker) (leaseId endpointId : String) : List LeaseResource :=
  (b.ledger.cards leaseId).filter fun r => b.plant.endpointOf r.gpuId = endpointId

/-- Settle a lease's cards on one server, and end it when these were all it had. -/
def Broker.settleOn (b : Broker) (leaseId endpointId reason actorId : String) (now : Time) :
    Ledger :=
  let mine := b.cardsOn leaseId endpointId
  let ledger := b.ledger.settleCards leaseId (mine.map LeaseResource.gpuId) reason actorId now
  if mine.length = (b.ledger.cards leaseId).length then
    ledger.editLease leaseId (Lease.ended .released (some reason) now)
  else ledger

/-- Why an operator's settlement says it happened. -/
def clearedReason (unreachable : Bool) : String :=
  if unreachable then "server unreachable; operator settled the ledger"
  else "empty fresh observation cleared endpoint ownership"

/-- The ledger after `release_empty_conflicted_lease`. -/
def Broker.emptyCleared (b : Broker) (lease : Lease) (endpointId actorId : String)
    (unreachable : Bool) (now : Time) : Ledger :=
  ({ b with ledger := b.ledger.bumpRevision }.settleOn lease.id endpointId
      (clearedReason unreachable) actorId now).addAudit (some actorId) "lease.empty_cleared" "lease"
    lease.id "success"
    [("source", .text "endpoint_operator"), ("endpoint_id", .text endpointId),
     ("endpoint_unreachable", .flag unreachable), ("lease_kind", .text lease.kind.name)] now

/-- `release_empty_conflicted_lease`. -/
def releaseEmptyConflictedLease (cfg : Config) (now : Time) (actor : ActorContext)
    (endpointId leaseId : String) (observationNotBefore : Time) (key : String) (b : Broker) :
    Tx (Broker × Response) := do
  requireRole actor mutatingRoles
  once b actor "lease.empty.release" (some key) now do
    let _ ← need (b.plant.endpoint? endpointId)
      (refuse "endpoint_not_found" "endpoint does not exist" 404)
    requireEndpointManager actor
    let lease ← need (b.ledger.lease? leaseId)
      (refuse "lease_not_found" "找不到这个 GPU 租约" 404)
    let resources := b.cardsOn leaseId endpointId
    require (b.ledger.cards leaseId = [] ∨ resources ≠ []) (refuse "lease_endpoint_mismatch"
      "the lease holds nothing on this server" 409)
    let unreachable := b.plant.endpointUnreachable cfg now endpointId
    require (unreachable = true ∨
        b.plant.recollected cfg now endpointId observationNotBefore = true)
      (refuse "conflict_observation_stale"
        "需要一次完整且最新的服务器采集后才能释放空闲占用" 409)
    let uncovered := if unreachable then none
      else resources.find? fun r =>
        !b.plant.recollectedCard cfg now endpointId observationNotBefore r.gpuId
    require (uncovered = none) (refuse "conflict_observation_incomplete"
      "最新采集没有完整覆盖这张 GPU，暂不释放占用" 409
      [("gpu_id", .text ((uncovered.map LeaseResource.gpuId).getD ""))])
    let verdict := b.manualReleaseVerdict cfg now lease resources unreachable
    require (verdict.allowed = true) (refuse (verdict.blockedReason.getD "")
      (verdict.message.getD "") 409 verdict.details)
    let ledger := b.emptyCleared lease endpointId actor.id unreachable now
    pure ({ b with ledger }, .lease (ledger.nextAuditId - 1) ledger.revision
      ({ b with ledger }.leaseDictOf lease))

/-! ## Endpoints -/

/-- `create_server_group`. -/
def createServerGroup (now : Time) (actor : ActorContext) (data : ServerGroup) (key : String)
    (b : Broker) : Tx (Broker × Response) := do
  requireRole actor mutatingRoles
  once b actor "server_group.create" (some key) now do
    require (row? ServerGroup.id data.id b.plant.serverGroups = none)
      (refuse "server_group_exists" "server group id already exists" 409)
    let plant := { b.plant with serverGroups := b.plant.serverGroups ++ [data] }
    let ledger := b.ledger.bumpRevision.addAudit (some actor.id) "server_group.created"
      "server_group" data.id "success" [] now
    pure ({ plant, ledger }, .endpoint (ledger.nextAuditId - 1) ledger.revision data.id)

/-- `EndpointCreate`, as the row it asks for. -/
abbrev EndpointCreate := Endpoint

/-- The workspace an endpoint ends up with, or the refusal of one without any. -/
def Plant.requireEffectiveWorkspace (p : Plant) (override groupId : Option String) : Tx Unit := do
  let group := groupId.bind fun g => row? ServerGroup.id g p.serverGroups
  require (groupId.isSome = true → group.isSome = true)
    (refuse "server_group_not_found" "server group does not exist" 404)
  require ((override.any fun w => decide (w ≠ "")) = true ∨ group.isSome = true)
    (refuse "endpoint_workspace_required"
      "endpoint requires workspace_path or a server group default" 422)

/-- `create_endpoint`. -/
def createEndpoint (now : Time) (actor : ActorContext) (data : EndpointCreate) (key : String)
    (b : Broker) : Tx (Broker × Response) := do
  requireRole actor mutatingRoles
  once b actor "endpoint.create" (some key) now do
    require (b.plant.endpoint? data.id = none)
      (refuse "endpoint_exists" "endpoint id already exists" 409)
    require (∀ e ∈ b.plant.endpoints, ¬ (e.host = data.host ∧ e.port = data.port))
      (refuse "endpoint_address_exists" "an immutable endpoint already owns this host:port" 409)
    b.plant.requireEffectiveWorkspace data.workspacePath data.serverGroupId
    let plant := { b.plant with endpoints := b.plant.endpoints ++ [data] }
    let ledger := b.ledger.bumpRevision.addAudit (some actor.id) "endpoint.created" "endpoint"
      data.id "success" [] now
    pure ({ plant, ledger }, .endpoint (ledger.nextAuditId - 1) ledger.revision data.id)

/-- `EndpointUpdate`, in the columns of `Endpoint`: those that transactions on leases and keepers
read. `Columns.EndpointUpdate` has all of them, and the checks of the schema. `none` is a field the
caller did not send. -/
structure EndpointUpdate where
  sshUser : Option String := none
  workspaceOverride : Option (Option String) := none
  observationProfile : Option String := none
  keepaliveAdapterId : Option (Option String) := none
  labels : Option (List String) := none
  serverGroupId : Option (Option String) := none
  deriving DecidableEq, Repr

/-- The row after an update. -/
def Endpoint.updated (e : Endpoint) (u : EndpointUpdate) : Endpoint :=
  { e with
    sshUser := u.sshUser.getD e.sshUser
    workspacePath := u.workspaceOverride.getD e.workspacePath
    observationProfile := u.observationProfile.getD e.observationProfile
    keepaliveAdapterId := u.keepaliveAdapterId.getD e.keepaliveAdapterId
    labels := u.labels.getD e.labels
    serverGroupId := u.serverGroupId.getD e.serverGroupId }

/-- The fields an update changes that a running keeper depends on. -/
def Plant.protectedFields (p : Plant) (e e' : Endpoint) : List String :=
  (if e'.keepaliveAdapterId ≠ e.keepaliveAdapterId then ["keepalive_adapter_id"] else []) ++
    (if e'.observationProfile ≠ e.observationProfile then ["observation_profile"] else []) ++
    (if e'.sshUser ≠ e.sshUser then ["ssh_user"] else []) ++
    (if p.effectiveWorkspace e' ≠ p.effectiveWorkspace e then ["workspace_path"] else [])

/-- `_active_keepalive_for_endpoint`. -/
def Broker.activeKeepaliveOn (b : Broker) (endpointId : String) : Bool :=
  b.ledger.leases.any fun x =>
    decide (x.kind = .keepalive) && x.state.live && b.holdsOn x.id endpointId

/-- The rows `update_endpoint` writes. -/
def Broker.endpointUpdated (b : Broker) (e : Endpoint) (u : EndpointUpdate) (actorId : String)
    (now : Time) : Broker :=
  { plant := { b.plant with
      endpoints := updWhere (fun x => x.id = e.id) (fun x => x.updated u) b.plant.endpoints }
    ledger := if e.updated u = e then b.ledger
      else b.ledger.bumpRevision.addAudit (some actorId) "endpoint.updated" "endpoint" e.id
        "success" [] now }

/-- `update_endpoint`. -/
def updateEndpoint (now : Time) (actor : ActorContext) (endpointId : String) (u : EndpointUpdate)
    (key : String) (b : Broker) : Tx (Broker × Response) := do
  requireRole actor mutatingRoles
  once b actor "endpoint.update" (some key) now do
    let e ← need (b.plant.endpoint? endpointId)
      (refuse "endpoint_not_found" "endpoint does not exist" 404)
    requireEndpointManager actor
    let e' := e.updated u
    b.plant.requireEffectiveWorkspace e'.workspacePath e'.serverGroupId
    let changedFields := b.plant.protectedFields e e'
    require (changedFields = [] ∨ b.activeKeepaliveOn endpointId = false)
      (refuse "keepalive_endpoint_connection_in_use"
        "stop the active endpoint keepalive before changing its connection or verification settings"
        409 [("fields", .texts changedFields)])
    require (¬ (u.keepaliveAdapterId = some none ∧ e.keepalivePolicy = .idleKeepalive))
      (refuse "keepalive_adapter_required"
        "disable idle keepalive before removing its sealed endpoint adapter" 409)
    let updated := b.endpointUpdated e u actor.id now
    pure (updated, .endpoint (if e' = e then 0 else updated.ledger.nextAuditId - 1)
      updated.ledger.revision endpointId)

/-! ## Deletion -/

/-- `_endpoint_has_active_leases`. -/
def Broker.endpointHasActiveLeases (b : Broker) (endpointId : String) : Bool :=
  (b.ledger.leases.any fun x => x.state.live && b.holdsOn x.id endpointId) ||
    !(b.ledger.liveCommitments endpointId).isEmpty ||
    b.ledger.allocations.any fun a => decide (a.endpointId = endpointId ∧ a.providerId ≠ "builtin" ∧
      a.state.terminal = false)

/-- `_settle_leases_for_deleted_endpoint`, one lease. -/
def settleForDeleted (endpointId actorId : String) (now : Time) (b : Broker) (leaseId : String) :
    Broker :=
  let ledger := b.settleOn leaseId endpointId "server deleted while unreachable" actorId now
  let reason : Detail :=
    (((ledger.lease? leaseId).bind Lease.releaseReason).map Detail.text).getD .none
  { b with
    ledger := ledger.addAudit (some actorId) "lease.released" "lease" leaseId "success"
      [("reason", reason), ("endpoint_id", .text endpointId)] now }

/-- The live leases with a card on the endpoint. -/
def Broker.leasesOn (b : Broker) (endpointId : String) : List String :=
  (b.ledger.leases.filter fun x => x.state.live = true ∧ b.holdsOn x.id endpointId = true).map
    Lease.id

/-- `_settle_leases_for_deleted_endpoint`. -/
def Broker.settleLeasesForDeleted (b : Broker) (endpointId actorId : String) (now : Time) :
    Broker :=
  (b.leasesOn endpointId).foldl (settleForDeleted endpointId actorId now) b

/-- `_purge_endpoint_restrict_history`, and the rows the foreign keys delete with an endpoint. -/
def Broker.purgeEndpoint (b : Broker) (endpointId : String) : Broker :=
  let gpuIds := (b.plant.gpus.filter fun g => g.endpointId = endpointId).map GPUDevice.id
  { plant := { b.plant with
      endpoints := b.plant.endpoints.filter fun e => e.id ≠ endpointId
      gpus := b.plant.gpus.filter fun g => g.endpointId ≠ endpointId
      telemetry := b.plant.telemetry.filter fun t => t.gpuId ∉ gpuIds
      hosts := b.plant.hosts.filter fun h => h.endpointId ≠ endpointId
      nodeStates := b.plant.nodeStates.filter fun s => s.endpointId ≠ endpointId
      providerStates := b.plant.providerStates.filter fun s => s.endpointId ≠ endpointId
      processes := b.plant.processes.filter fun x => x.endpointId ≠ endpointId ∧ x.gpuId ∉ gpuIds
      keepalive := b.plant.keepalive.filter fun k => k.gpuId ∉ gpuIds }
    ledger := { b.ledger with
      commitments := b.ledger.commitments.filter fun c => c.endpointId ≠ endpointId
      resources := b.ledger.resources.filter fun r => r.gpuId ∉ gpuIds
      allocations := b.ledger.allocations.filter fun a => a.endpointId ≠ endpointId } }

/-- The rows `delete_endpoint` leaves. -/
def Broker.endpointDeleted (b : Broker) (endpointId actorId : String) (unreachable : Bool)
    (now : Time) : Broker :=
  let settled := if unreachable then b.settleLeasesForDeleted endpointId actorId now else b
  let purged := settled.purgeEndpoint endpointId
  let settledIds := if unreachable then b.leasesOn endpointId else []
  { purged with
    ledger := purged.ledger.bumpRevision.addAudit (some actorId) "endpoint.deleted" "endpoint"
      endpointId "success" [("unreachable", .flag unreachable),
        ("settled_lease_ids", .texts settledIds)] now }

/-- `delete_endpoint`. -/
def deleteEndpoint (cfg : Config) (now : Time) (actor : ActorContext) (endpointId key : String)
    (b : Broker) : Tx (Broker × Response) := do
  requireRole actor mutatingRoles
  once b actor "endpoint.delete" (some key) now do
    let _ ← need (b.plant.endpoint? endpointId)
      (refuse "endpoint_not_found" "endpoint does not exist" 404)
    requireEndpointManager actor
    let unresolved := b.ledger.allocations.any fun a => decide (a.endpointId = endpointId ∧
      a.providerId ≠ "builtin" ∧ a.state.terminal = false)
    require (unresolved = false) (refuse "endpoint_has_active_allocations"
      "仍有未确认归还的远端分配，不能删除其连接信息。" 409)
    let unreachable := b.plant.endpointUnreachable cfg now endpointId
    require (unreachable = true ∨ b.endpointHasActiveLeases endpointId = false)
      (refuse "endpoint_has_active_leases"
        "这台服务器上还有进行中的租约，请先释放后再删除。" 409)
    let deleted := b.endpointDeleted endpointId actor.id unreachable now
    pure (deleted, .endpoint (deleted.ledger.nextAuditId - 1) deleted.ledger.revision endpointId)

end ServerPilot
