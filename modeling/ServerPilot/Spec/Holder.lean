import ServerPilot.Spec.LeaseOps

/-!
# What a holder asks and says

`leaseView` answers a holder, is its heartbeat, and tells it what happened to its
cards since it last asked; `recordLeaseHeartbeat` is the heartbeat alone;
`bindObservedWorkload` ties the processes seen on its cards to one run.
-/

namespace ServerPilot

open Rows Checked

/-! ## Unseen changes -/

/-- `LEASE_CHANGE_ACTIONS`. -/
def leaseChangeActions : List String :=
  ["lease.idle_gpu_reclaimed", "lease.idle_reclaimed", "lease.resized", "lease.taken_over",
   "lease.operator_released", "lease.reassigned"]

/-- An audit event that reports a change of this lease, past its holder's cursor. -/
def Lease.unseen (lease : Lease) (e : AuditEvent) : Bool :=
  decide (e.resourceType = "lease" ∧ e.resourceId = lease.id ∧ e.action ∈ leaseChangeActions ∧
    lease.agentSeenAuditId.getD 0 < e.id)

/-- The events `_unseen_changes` reports, by id. -/
def Ledger.unseenEvents (l : Ledger) (lease : Lease) : List AuditEvent :=
  (l.audit.filter lease.unseen).insertionSort fun a b => a.id ≤ b.id

/-- `str.removeprefix`. -/
def removePrefix (pre s : String) : String :=
  if pre.toList.isPrefixOf s.toList then String.ofList (s.toList.drop pre.length) else s

/-- One reported change. -/
def AuditEvent.seen (e : AuditEvent) : SeenChange :=
  { action := removePrefix "lease." e.action, at_ := e.createdAt
    summary := e.summary.filter fun kv =>
      kv.1 ∈ ["reason", "reclaimed_gpu_count", "remaining_gpu_count", "added", "removed"] }

/-- `_unseen_changes`: the report, and the ledger with the holder's cursor moved past it. -/
def Ledger.unseenChanges (l : Ledger) (lease : Lease) : Ledger × List SeenChange :=
  let events := l.unseenEvents lease
  match events.getLast? with
  | none => (l, [])
  | some last => (l.editLease lease.id fun x => { x with agentSeenAuditId := some last.id },
      events.map AuditEvent.seen)

/-! ## Task holding -/

/-- What `task_holding` answers. -/
structure TaskHolding where
  leaseId : String
  mine : Bool
  gpuCount : ℕ
  deriving DecidableEq, Repr

/-- `task_holding`, of the lease it found. -/
def Broker.holdingOf (b : Broker) (actor : ActorContext) (lease : Lease) : TaskHolding :=
  { leaseId := lease.id, mine := canManageLease actor lease
    gpuCount := b.ledger.leaseCardCount lease }

/-- `task_holding`: who holds this task now, which is what decides what an apply means. -/
def Broker.taskHolding (b : Broker) (actor : ActorContext) (projectId task : String) :
    Option TaskHolding :=
  (b.ledger.findTaskLease projectId task).map (b.holdingOf actor)

/-! ## Lease view -/

/-- The lease `lease_view` is asked about. -/
def Ledger.viewedLease (l : Ledger) (leaseId task projectId : Option String) : Option Lease :=
  let first := match leaseId with
    | some id => l.lease? id
    | none => l.findTaskLease (projectId.getD "") (task.getD "")
  match first, task with
  | some lease, _ => some lease
  | none, none => none
  | none, some t =>
    match latest Lease.issuedAt (l.leases.filter fun x =>
        some x.projectId = projectId ∧ x.taskRef = t) with
    | some lease => some lease
    -- every reply carries the lease id, so agents reach for it
    | none => l.lease? t

/-- The `at_risk` list. -/
def Broker.atRisk (cfg : Config) (now : Time) (b : Broker) (leaseId : String) : List CardRisk :=
  let cards := b.ledger.cards leaseId
  cards.filterMap fun r => (r.clock.anchor cfg now).map fun since =>
    b.plant.cardRisk cfg cards r since

/-- A holder checks in, and may ask to keep its idle cards. -/
def Broker.heartbeat (cfg : Config) (now : Time) (b : Broker) (leaseId : String)
    (actor : ActorContext) (keepIdle : Bool) : Broker × List CardRisk :=
  let b := { b with
    ledger := b.ledger.editLease leaseId fun x => { x with lastHeartbeatAt := now } }
  if keepIdle then
    let (ledger, kept) := b.keepIdleCards cfg now leaseId actor
    ({ b with ledger }, kept)
  else (b, [])

/-- `lease_view`. -/
def leaseView (cfg : Config) (now : Time) (actor : ActorContext)
    (leaseId task projectId : Option String) (keepIdle : Bool) (b : Broker) :
    Tx (Broker × Response) := do
  requireRole actor mutatingRoles
  let found ← need (b.ledger.viewedLease leaseId task projectId)
    (refuse "lease_not_found" "找不到这个租约" 404)
  let lease ← b.ledger.agentLease actor found.id
  let (ledger, changes) := b.ledger.unseenChanges lease
  if lease.state.terminal then
    finish { b with ledger } (.ended lease.id lease.state lease.taskRef lease.resourceEpoch changes
      lease.releaseReason lease.releasedAt)
  else
    let (b, kept) := { b with ledger }.heartbeat cfg now lease.id actor keepIdle
    finish b (.view lease.id lease.state lease.taskRef (b.ledger.cards lease.id).length
      lease.resourceEpoch changes (b.atRisk cfg now lease.id)
        (if keepIdle then some kept else none))

/-- `record_lease_heartbeat`. -/
def recordLeaseHeartbeat (cfg : Config) (now : Time) (actor : ActorContext) (leaseId : String)
    (keepIdle : Bool) (b : Broker) : Tx (Broker × Response) := do
  requireRole actor mutatingRoles
  match (b.ledger.lease? leaseId).filter fun x => canManageLease actor x && x.state.live with
  | none => pure (b, .heartbeat leaseId false none [])
  | some _ =>
    let (b, kept) := b.heartbeat cfg now leaseId actor keepIdle
    finish b (.heartbeat leaseId true (some now) kept)

/-! ## Binding -/

/-- `bind_observed_workload`: the lease's bindings, with `runId` bound to these processes. -/
def Ledger.bindRun (l : Ledger) (leaseId runId : String) (collectorRuns : List String)
    (keys : List String) : Ledger :=
  let kept := l.bindings.filter fun w => ¬ (w.leaseId = leaseId ∧ w.runId ∈ collectorRuns)
  let mine := fun w : WorkloadBinding => decide (w.leaseId = leaseId ∧ w.runId = runId)
  { l with
    bindings := if kept.any mine then updWhere mine (fun w => { w with processKeys := keys }) kept
      else kept ++ [{ leaseId, runId, processKeys := keys }] }

/-- `bind_observed_workload`: a held lease becomes active, a conflict is resolved. -/
def Lease.activatedByBind (now : Time) (x : Lease) : Lease :=
  if x.state = .held ∨ x.state = .conflict then
    { x with
      state := .active, activatedAt := some (x.activatedAt.getD now), lastHeartbeatAt := now }
  else x

/-- The audit rows of a bind. -/
def Ledger.auditBind (l : Ledger) (actor : ActorContext) (lease : Lease) (runId : String)
    (gpuCount : ℕ) (now : Time) : Ledger :=
  let l := if lease.state ≠ .conflict then l
    else l.addAudit (some actor.id) "lease.conflict_resolved" "lease" lease.id "success"
      [("source", .text "collector_observed"), ("run_id", .text runId)] now
  let l := if lease.state ≠ .conflict ∧ lease.state ≠ .held then l
    else l.addAudit (some actor.id) "lease.activated" "lease" lease.id "success"
      [("activation", .text "observed_workload_bind"), ("run_id", .text runId)] now
  l.addAudit (some actor.id) "lease.workload_bound" "lease" lease.id "success"
    [("source", .text "collector_observed"), ("gpu_count", .number gpuCount),
     ("resolved_conflict", .flag (lease.state = .conflict))] now

/-- `bind_observed_workload`. -/
def bindObservedWorkload (now : Time) (actor : ActorContext) (leaseId : String)
    (run : Option String) (key : String) (b : Broker) : Tx (Broker × Response) := do
  requireRole actor mutatingRoles
  let lease ← need (b.ledger.lease? leaseId)
    (refuse "lease_not_found" "lease does not exist" 404)
  rejectGenericKeepaliveMutation lease
  once b actor "lease.bind_observed" (some key) now do
    require (canManageLease actor lease = true)
      (refuse "lease_forbidden" "cannot bind another actor's lease" 403)
    require (lease.state = .held ∨ lease.state = .active ∨ lease.state = .conflict)
      (refuse "lease_not_bindable" "当前状态不能绑定这个 GPU 租约" 409)
    let gpuIds := (b.ledger.cards leaseId).map LeaseResource.gpuId
    require (gpuIds ≠ []) (refuse "lease_has_no_resources" "这个租约没有活动 GPU" 409)
    let missing := (gpuIds.dedup.filter fun g => b.plant.currentProcesses g = []).insertionSort
      (· ≤ ·)
    require (missing = []) (refuse "workload_process_not_observed"
      "每张已分配 GPU 都检测到新的任务进程后才能完成绑定" 409
      [("missing_gpu_ids", .texts missing)])
    let keys := ((gpuIds.flatMap b.plant.currentProcesses).map
      ProcessObservation.key).dedup.insertionSort (· ≤ ·)
    let runId := run.getD ("explicit:lease:" ++ lease.id)
    let collectorRuns := if run.isSome then []
      else ["collector:lease:" ++ lease.id, "lease:" ++ lease.id]
    let ledger := b.ledger.bumpRevision.bindRun leaseId runId collectorRuns keys
    let ledger := ledger.editLease leaseId (Lease.activatedByBind now)
    let ledger := ledger.auditBind actor lease runId gpuIds.length now
    pure ({ b with ledger }, .lease (ledger.nextAuditId - 1) ledger.revision
      ({ b with ledger }.leaseDictOf lease))

end ServerPilot
