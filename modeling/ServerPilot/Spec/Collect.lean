import ServerPilot.Spec.Ingest

/-!
# The collection transactions

`ingestObservation`, `recordProviderFailure` and `pruneExpired`, with the steps
that read an observation back into the ledger: keepalive liveness, the first
sighting of a workload, and keepalive errors a workload supersedes.
-/

namespace ServerPilot

open Rows Checked

/-! ## Keepalive workers -/

/-- `_set_keepalive_current`. `expected` replaces the expected process, `clearExpected` forgets
it, and a confirmed worker owns whatever an earlier failed start left behind. -/
def Plant.setKeepaliveCurrent (p : Plant) (gpuId : String) (actual : KeepaliveActual)
    (errorReason : Option String) (expected : Option ProcessObservation) (clearExpected : Bool)
    (cleanupPending : Option Bool) (now : Time) : Plant :=
  let pending := if actual = .on then some false else cleanupPending
  match p.keepalive? gpuId with
  | none => { p with keepalive := p.keepalive ++ [{
      gpuId, actual, errorReason, cleanupPending := pending.getD false
      expectedPid := expected.map ProcessObservation.pid
      expectedBootId := expected.map ProcessObservation.bootId
      expectedProcessStartedAt := expected.map ProcessObservation.processStartedAt
      updatedAt := now }] }
  | some _ => { p with
      keepalive := updWhere (fun k => k.gpuId = gpuId)
        (fun k => { k with
          actual, errorReason, cleanupPending := pending.getD k.cleanupPending
          expectedPid := if clearExpected then none
            else (expected.map ProcessObservation.pid).or k.expectedPid
          expectedBootId := if clearExpected then none
            else (expected.map ProcessObservation.bootId).or k.expectedBootId
          expectedProcessStartedAt := if clearExpected then none
            else (expected.map ProcessObservation.processStartedAt).or k.expectedProcessStartedAt
          updatedAt := now }) p.keepalive }

/-- `_keepalive_expected_process_key`. -/
def KeepaliveCurrent.expectedKey (k : KeepaliveCurrent) : Option String :=
  match k.expectedPid, k.expectedBootId, k.expectedProcessStartedAt with
  | some pid, some bootId, some startedAt => some (processKeyOf k.gpuId pid bootId startedAt)
  | _, _, _ => none

/-- The worker state an observation shows on a keeper's card. -/
def Plant.observedWorker (p : Plant) (gpuId : String) : KeepaliveActual × Option String :=
  let processes := p.currentProcesses gpuId
  let expected := (p.keepalive? gpuId).bind KeepaliveCurrent.expectedKey
  match expected with
  | some key =>
    if processes ≠ [] ∧ ∀ x ∈ processes, x.key = key then (.on, none)
    else if processes ≠ [] then (.error, some "检测到不属于占卡程序的进程")
    else (.off, none)
  | none => if processes ≠ [] then (.error, some "占卡进程身份尚未建立") else (.off, none)

/-- `_record_observed_keepalive`, one lease. -/
def recordObservedKeeper (now : Time) (b : Broker) (lease : Lease) : Broker :=
  match b.ledger.cards lease.id with
  | [card] =>
    let (actual, reason) := b.plant.observedWorker card.gpuId
    { plant := b.plant.setKeepaliveCurrent card.gpuId actual reason none false none now
      ledger := if actual = .on then
          b.ledger.editLease lease.id fun x => { x with lastHeartbeatAt := now, expiresAt := none }
        else b.ledger }
  | _ => b

/-- The lease holds a card of this endpoint. -/
def Broker.holdsOn (b : Broker) (leaseId endpointId : String) : Bool :=
  (b.ledger.cards leaseId).any fun r =>
    (b.plant.gpu? r.gpuId).any fun g => decide (g.endpointId = endpointId)

/-- `_record_observed_keepalive`. -/
def Broker.recordObservedKeepalive (b : Broker) (endpointId : String) (complete : Bool)
    (now : Time) : Broker :=
  if !complete then b
  else (b.ledger.leases.filter fun x =>
    x.kind = .keepalive ∧ x.state = .active ∧ b.holdsOn x.id endpointId = true).foldl
      (recordObservedKeeper now) b

/-! ## First sightings of a workload -/

/-- The lease becomes active because its processes were seen. -/
def Lease.activatedBySighting (now : Time) (x : Lease) : Lease :=
  { x with state := .active, activatedAt := some now, lastHeartbeatAt := now }

/-- `_bind_new_workload_processes`, one lease. -/
def bindNewWorkload (endpointId : String) (now : Time) (b : Broker) (lease : Lease) : Broker :=
  let cards := b.ledger.cards lease.id
  let bound := b.ledger.bindings.any fun w => w.leaseId = lease.id
  if cards = [] ∨ (∃ r ∈ cards, b.plant.currentProcesses r.gpuId = []) ∨ bound = true then b
  else
    let keys := ((cards.flatMap fun r => b.plant.currentProcesses r.gpuId).map
      ProcessObservation.key).dedup.insertionSort (· ≤ ·)
    let runId := "collector:lease:" ++ lease.id
    let actorId := "collector:" ++ endpointId
    let ledger : Ledger := { b.ledger with
      bindings := b.ledger.bindings ++ [{ leaseId := lease.id, runId, processKeys := keys }] }
    let ledger := ledger.editLease lease.id (Lease.activatedBySighting now)
    let ledger := ledger.addAudit (some actorId) "lease.activated" "lease" lease.id "success"
      [("activation", .text "observed_workload_bind"), ("run_id", .text runId)] now
    { b with
      ledger := ledger.addAudit (some actorId) "lease.workload_bound" "lease" lease.id "success"
        [("source", .text "collector_observed"), ("gpu_count", .number cards.length)] now }

/-- `_bind_new_workload_processes`. -/
def Broker.bindNewWorkloads (b : Broker) (endpointId : String) (now : Time) : Broker :=
  (b.ledger.leases.filter fun x =>
    x.kind = .workload ∧ (x.state = .held ∨ x.state = .active ∨ x.state = .conflict) ∧
      b.holdsOn x.id endpointId = true).foldl (bindNewWorkload endpointId now) b

/-! ## Superseded keepalive errors -/

/-- Every card this lease holds on the endpoint is freshly seen to work for it. -/
def Broker.worksOn (cfg : Config) (now : Time) (b : Broker) (lease : Lease)
    (cards : List LeaseResource) : Bool :=
  cards.all fun r =>
    decide ((b.ledger.activeLeaseForGpu r.gpuId).map Lease.id = some lease.id) &&
      b.plant.cardFresh cfg now r.gpuId && decide (b.plant.currentProcesses r.gpuId ≠ [])

/-- `_clear_keepalive_errors_for_assigned_workloads`. -/
def Broker.clearKeepaliveErrors (cfg : Config) (b : Broker) (endpointId : String) (complete : Bool)
    (now : Time) : Broker :=
  if !complete then b
  else
    let cleared := (b.ledger.leases.filter fun x =>
      x.kind = .workload ∧ x.state = .active).flatMap fun x =>
        let cards := (b.ledger.cards x.id).filter fun r =>
          (b.plant.gpu? r.gpuId).any fun g => decide (g.endpointId = endpointId)
        if b.worksOn cfg now x cards then cards.map LeaseResource.gpuId else []
    { b with plant := { b.plant with
        keepalive := updWhere (fun k => k.gpuId ∈ cleared ∧ k.actual = .error)
          (fun k => { k with actual := .off, errorReason := none, updatedAt := now })
          b.plant.keepalive } }

/-! ## Provider state -/

/-- The provider state of an endpoint, replaced. -/
def Plant.setProviderState (p : Plant) (s : ProviderState) : Plant :=
  { p with providerStates := (p.providerStates.filter fun t => t.endpointId ≠ s.endpointId) ++ [s] }

/-- The provider state after an observation arrived. -/
def providerStateAfter (p : Plant) (endpointId : String) (complete : Bool) (now : Time) :
    ProviderState :=
  { endpointId
    lastSuccessAt := if complete then some now
      else (p.providerState? endpointId).bind ProviderState.lastSuccessAt
    lastAttemptAt := now
    lastError := if complete then none else some "incomplete endpoint observation"
    lastErrorCode := if complete then none else some "parse_error" }

/-! ## Ingesting one endpoint -/

/-- Every node of the observation is older than the reading it has. -/
def Plant.staleObservation (p : Plant) (o : EndpointObservation) : Bool :=
  !o.nodes.isEmpty && o.failures.isEmpty && o.nodes.all (p.staleNode o.endpointId)

/-- The part of `ingest_observation` before leases are reconciled. -/
def Broker.absorb (cfg : Config) (now : Time) (b : Broker) (o : EndpointObservation) : Broker :=
  let b := { b with ledger := b.ledger.bumpRevision }
  let b := o.nodes.foldl (ingestNodeObservation cfg o.endpointId now) b
  let b := o.failures.foldl (ingestNodeFailure cfg o.endpointId now) b
  let b := { b with ledger := b.ledger.ingestAllocations o now }
  let transport := o.scheduler.isSome || o.complete
  let b := { b with
    plant := b.plant.setProviderState (providerStateAfter b.plant o.endpointId transport now) }
  let b := b.recordObservedKeepalive o.endpointId o.complete now
  let b := b.bindNewWorkloads o.endpointId now
  b.clearKeepaliveErrors cfg o.endpointId o.complete now

/-- The endpoint answers again after a recorded error. -/
def Plant.recovers (p : Plant) (o : EndpointObservation) : Bool :=
  (o.scheduler.isSome || o.complete) &&
    (p.providerState? o.endpointId).any fun s => s.lastError.isSome

/-- The audit row of an endpoint that answers again. -/
def Ledger.auditRecovery (l : Ledger) (recovered : Bool) (endpointId : String) (now : Time) :
    Ledger :=
  if recovered then
    l.addAudit (some ("collector:" ++ endpointId)) "telemetry.recovered" "endpoint" endpointId
      "success" [("provider", .text "raw-ssh"), ("revision", .number l.revision)] now
  else l

/-- What `ingest_observation` leaves, and the provider releases it then owes. -/
def Broker.ingested (cfg : Config) (now : Time) (b : Broker) (o : EndpointObservation)
    (token : String → String → String) : Pass :=
  let pass := (b.absorb cfg now o).reconcileLeases cfg now ("collector:" ++ o.endpointId) token
  ({ pass.1 with
      ledger := pass.1.ledger.auditRecovery (b.plant.recovers o) o.endpointId now }, pass.2)

/-- `ingest_observation`, up to the provider releases it then owes. -/
def ingestObservation (cfg : Config) (now : Time) (o : EndpointObservation)
    (token : String → String → String) (b : Broker) : Tx (Broker × Response) := do
  let _ ← need (b.plant.endpoint? o.endpointId)
    (refuse "endpoint_not_found" "collector reported an unknown endpoint" 404)
  if b.plant.staleObservation o then pure (b, .done)
  else
    let pass := b.ingested cfg now o token
    finish pass.1 (.releases (pass.2.map PluginRelease.allocationId))

/-! ## Failures and retention -/

/-- `record_provider_failure`: the plant after a failed attempt. -/
def Plant.providerFailed (cfg : Config) (p : Plant) (endpointId message errorCode : String)
    (now : Time) : Plant :=
  let nodes := ((p.gpus.filter fun g => g.endpointId = endpointId).map GPUDevice.nodeId).dedup
  let p := nodes.foldl (fun p node => p.advanceProcessAbsence cfg endpointId node false now) p
  p.setProviderState
    { endpointId
      lastSuccessAt := (p.providerState? endpointId).bind ProviderState.lastSuccessAt
      lastAttemptAt := now, lastError := some (cut 1000 message), lastErrorCode := some errorCode }

/-- The ledger after a failed attempt: idle clocks of the endpoint's allocations restart. -/
def Ledger.providerFailed (l : Ledger) (first : Bool) (endpointId message : String) (now : Time) :
    Ledger :=
  let l := (l.editAllocations (fun a => a.endpointId = endpointId)
    fun a => { a with idleSince := none }).bumpRevision
  if first then
    l.addAudit (some ("collector:" ++ endpointId)) "telemetry.failed" "endpoint" endpointId
      "failure" [("provider", .text "raw-ssh"), ("message", .text (cut 300 message))] now
  else l

/-- `record_provider_failure`. -/
def recordProviderFailure (cfg : Config) (now : Time) (endpointId message errorCode : String)
    (b : Broker) : Tx (Broker × Response) := do
  let _ ← need (b.plant.endpoint? endpointId)
    (refuse "endpoint_not_found" "collector reported an unknown endpoint" 404)
  let first := (b.plant.providerState? endpointId).all fun s => s.lastError.isNone
  finish { plant := b.plant.providerFailed cfg endpointId message errorCode now
           ledger := b.ledger.providerFailed first endpointId message now } .done

/-- `PROCESS_OBSERVATION_SECONDS`, `AUDIT_SECONDS` and `IDEMPOTENCY_SECONDS`, as spans. -/
def days (n : ℤ) : Time := seconds (n * 24 * 60 * 60)

/-- The rows retention keeps. -/
def Broker.pruned (b : Broker) (now : Time) : Broker :=
  { plant := { b.plant with
      processes := b.plant.processes.filter fun x => ¬ x.lastSeenAt < now - days 7 }
    ledger := { b.ledger with
      idempotency := b.ledger.idempotency.filter fun r => ¬ r.createdAt < now - days 1
      audit := b.ledger.audit.filter fun e => ¬ e.createdAt < now - days 30 } }

/-- `prune_expired`. -/
def pruneExpired (now : Time) (b : Broker) : Tx (Broker × Response) :=
  finish (b.pruned now) .done

end ServerPilot
