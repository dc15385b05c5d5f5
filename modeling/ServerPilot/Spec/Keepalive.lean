import ServerPilot.Spec.Collect

/-!
# Keepalive ownership

A keepalive worker owns its card through an ordinary lease of kind `keepalive`.
`activateKeepalives` writes it once a fresh observation shows the worker,
`finalizeKeepaliveStop` ends it once a fresh observation shows the card empty.
-/

namespace ServerPilot

open Rows Checked

/-! ## Evidence -/

/-- What `_validate_keepalive_observation` requires of the host and the provider. -/
def Plant.observedSince (p : Plant) (endpointId : String) (threshold : Time) : Bool :=
  (p.host? endpointId "self").any (fun h => decide (threshold ≤ h.collectedAt)) &&
    (p.providerState? endpointId).any fun s =>
      s.lastSuccessAt.any fun t => decide (threshold ≤ t)

/-- The card's reading belongs to the same snapshot as the host's. -/
def Plant.coveredSince (p : Plant) (endpointId gpuId : String) (threshold : Time) : Bool :=
  (p.telemetry? gpuId).any fun t => decide (threshold ≤ t.collectedAt) &&
    (p.host? endpointId "self").any fun h => decide (t.observedAt = h.observedAt)

/-- The refusal of an observation that leaves a card out. -/
def observationIncomplete (gpuId : String) : Fault :=
  refuse "keepalive_observation_incomplete"
    "the post-operation observation did not cover every endpoint GPU" 409
    [("gpu_id", .text gpuId)]

/-- One card of `_validate_keepalive_observation`. A card that is gone runs nothing. -/
def Plant.validateKeepaliveCard (p : Plant) (endpointId : String) (threshold : Time)
    (gpuId : String) : Tx (List ProcessObservation) := do
  let g ← need ((p.gpu? gpuId).filter fun g => g.endpointId = endpointId)
    (observationIncomplete gpuId)
  if !g.present then pure []
  else do
    require (p.coveredSince endpointId gpuId threshold = true) (observationIncomplete gpuId)
    pure (p.currentProcesses gpuId)

/-- `_validate_keepalive_observation`. -/
def Plant.validateKeepaliveObservation (p : Plant) (endpointId : String) (gpuIds : List String)
    (threshold : Time) : Tx (List ProcessObservation) := do
  require (p.observedSince endpointId threshold = true) (refuse "keepalive_observation_stale"
    "a complete endpoint observation after the keepalive operation is required" 409)
  let processes ← gpuIds.mapM (p.validateKeepaliveCard endpointId threshold)
  pure processes.flatten

/-- `_validate_keepalive_worker_confirmation`: the sealed helper names exactly the one process
observed on each target. -/
def validateWorkerConfirmation (gpuIds : List String) (processes : List ProcessObservation)
    (confirmed : List (String × ℕ × String)) : Tx Unit := do
  require ((∀ g ∈ confirmed.map Prod.fst, g ∈ gpuIds) ∧ ∀ g ∈ gpuIds, g ∈ confirmed.map Prod.fst)
    (refuse "keepalive_confirmation_scope_mismatch"
      "sealed keepalive confirmation must cover exactly the target GPUs" 409)
  gpuIds.forM fun g => do
    let identity := confirmed.lookup g
    require (identity.any (fun i => decide (0 < i.1 ∧ i.2 ≠ "")) = true)
      (refuse "keepalive_confirmation_invalid"
        "sealed keepalive confirmation identity is invalid" 409 [("gpu_id", .text g)])
    let mine := processes.filter fun x => x.gpuId = g
    require (mine.length = 1) (refuse "keepalive_confirmation_conflict"
      "fresh collection must show exactly one process per confirmed GPU" 409
      [("gpu_id", .text g)])
    require (mine.head?.map (fun x => (x.pid, x.bootId)) = identity)
      (refuse "keepalive_confirmation_mismatch"
        "sealed keepalive worker identity does not match fresh collection" 409
        [("gpu_id", .text g)])

/-! ## Activation -/

/-- One target of `activate_keepalives`: its card, and the keepalive lease already on it. -/
def Broker.keepaliveTarget (b : Broker) (endpointId gpuId : String) :
    Tx (GPUDevice × Option Lease) := do
  let g ← need ((b.plant.gpu? gpuId).filter fun g => g.endpointId = endpointId)
    (refuse "keepalive_gpu_mismatch" "GPU does not belong to the endpoint" 409)
  let existing := b.ledger.activeLeaseForGpu gpuId
  require (∀ x ∈ existing, x.kind = .keepalive) (refuse "keepalive_gpu_ineligible"
    "a workload already owns the target GPU" 409 [("gpu_id", .text gpuId)])
  require (∀ x ∈ existing, (b.ledger.cards x.id).map LeaseResource.gpuId = [gpuId])
    (refuse "keepalive_gpu_invalid" "per-GPU keepalive record does not match the target GPU" 409)
  pure (g, existing)

/-- `_keepalive_ttl_seconds`. -/
def Config.keepaliveTtlSeconds (cfg : Config) : ℕ := max 60 (cfg.staleAfterSeconds * 3)

/-- The lease row of a new keeper. -/
def keeperLease (cfg : Config) (leaseId endpointId gpuId : String) (now : Time) (revision : ℕ) :
    Lease :=
  { id := leaseId, actorId := systemId, projectId := systemId, kind := .keepalive
    taskRef := "keepalive:" ++ endpointId ++ ":" ++ gpuId
    purpose := "ServerPilot idle GPU keepalive"
    constraints := { gpuCount := 1, endpointIds := [endpointId], gpuIds := [gpuId] }
    durationSeconds := cfg.keepaliveTtlSeconds, state := .active, issuedAt := now
    expiresAt := none, lastHeartbeatAt := now, activatedAt := some now
    issuedRevision := revision }

/-- An existing keeper confirmed again. -/
def Lease.keeperConfirmed (now : Time) (x : Lease) : Lease :=
  { x with
    state := .active, activatedAt := some (x.activatedAt.getD now), lastHeartbeatAt := now
    expiresAt := none }

/-- The ledger rows of one activated keeper; `token` names a lease that does not exist yet. -/
def Ledger.activateKeeper (cfg : Config) (endpointId : String) (actorId : String)
    (token : String → String) (now : Time) (l : Ledger) (target : GPUDevice × Option Lease) :
    Ledger :=
  let gpuId := target.1.id
  let (l, leaseId) := match target.2 with
    | some x => (l.editLease x.id (Lease.keeperConfirmed now), x.id)
    | none =>
      (l.insertLease (keeperLease cfg (token gpuId) endpointId gpuId now l.revision) [gpuId] [],
        token gpuId)
  l.addAudit (some actorId) "keepalive.gpu_activated" "gpu" gpuId "success"
    [("lease_id", .text leaseId), ("endpoint_id", .text endpointId)] now

/-- The worker row of one activated keeper. -/
def Plant.activateWorker (processes : List ProcessObservation) (now : Time) (p : Plant)
    (target : GPUDevice × Option Lease) : Plant :=
  p.setKeepaliveCurrent target.1.id .on none
    (processes.find? fun x => x.gpuId = target.1.id) false none now

/-- `_require_endpoint_manager`: endpoint inventory is shared by every mutating role. -/
def requireEndpointManager (actor : ActorContext) : Tx Unit :=
  require (actor.role ∈ mutatingRoles)
    (refuse "endpoint_forbidden" "this actor cannot manage server inventory" 403)

/-- The lease ids `activate_keepalives` answers with. -/
def keeperIds (token : String → String) (targets : List (GPUDevice × Option Lease)) :
    List String :=
  targets.map fun t => (t.2.map Lease.id).getD (token t.1.id)

/-- What one observation must show of the targets: exactly one process on each card. -/
def requireOneWorkerEach (gpuIds : List String) (processes : List ProcessObservation) :
    Tx Unit := do
  let missing := gpuIds.filter fun g => g ∉ processes.map ProcessObservation.gpuId
  require (missing = []) (refuse "keepalive_process_missing"
    "fresh collection did not find every occupancy process" 409 [("gpu_ids", .texts missing)])
  let conflicted := gpuIds.filter fun g => (processes.filter fun x => x.gpuId = g).length ≠ 1
  require (conflicted = []) (refuse "keepalive_process_conflict"
    "fresh collection found additional processes on an occupancy GPU" 409
    [("gpu_ids", .texts conflicted)])

/-- The rows `activate_keepalives` writes for its targets. -/
def Broker.keepersActivated (cfg : Config) (b : Broker) (endpointId actorId : String)
    (targets : List (GPUDevice × Option Lease)) (processes : List ProcessObservation)
    (token : String → String) (now : Time) : Broker :=
  { plant := targets.foldl (Plant.activateWorker processes now) b.plant
    ledger := targets.foldl (Ledger.activateKeeper cfg endpointId actorId token now)
      b.ledger.bumpRevision }

/-- `activate_keepalives`. -/
def activateKeepalives (cfg : Config) (now : Time) (actor : ActorContext) (endpointId : String)
    (gpuIds : List String) (observationNotBefore : Time) (key : String)
    (confirmed : Option (List (String × ℕ × String))) (token : String → String) (b : Broker) :
    Tx (Broker × Response) := do
  requireRole actor mutatingRoles
  once b actor "keepalive.activate_gpus" (some key) now do
    let endpoint ← need (b.plant.endpoint? endpointId)
      (refuse "endpoint_not_found" "endpoint does not exist" 404)
    requireEndpointManager actor
    require (endpoint.keepalivePolicy = .idleKeepalive) (refuse "keepalive_policy_disabled"
      "per-GPU keepalive may start only under idle_keepalive policy" 409)
    require (endpoint.keepaliveAdapterId.isSome = true) (refuse "keepalive_not_configured"
      "endpoint has no sealed keepalive adapter configured" 409)
    require (gpuIds ≠ [] ∧ gpuIds.Nodup) (refuse "keepalive_gpu_invalid"
      "keepalive targets must be a non-empty set of GPUs" 409)
    let targets ← gpuIds.mapM (b.keepaliveTarget endpointId)
    let processes ← b.plant.validateKeepaliveObservation endpointId gpuIds observationNotBefore
    requireOneWorkerEach gpuIds processes
    (match confirmed with
      | some identities => validateWorkerConfirmation gpuIds processes identities
      | none => pure ())
    let activated := b.keepersActivated cfg endpointId actor.id targets processes token now
    pure (activated, .keepalive (keeperIds token targets) activated.ledger.revision)

/-! ## Stop -/

/-- A process that still blocks the stop: not the stopped worker, or seen since the barrier. -/
def ProcessObservation.blocksStop (expectedKey : Option String) (barrier : Time)
    (x : ProcessObservation) : Bool :=
  decide (some x.key ≠ expectedKey ∨ barrier ≤ x.lastSeenAt)

/-- The processes of a stopped worker, retired. -/
def Plant.retire (p : Plant) (processes : List ProcessObservation) : Plant :=
  { p with
    processes := updWhere (fun x => x ∈ processes) (fun x => { x with active := false })
      p.processes }

/-- The rows `finalize_keepalive_stop` writes: the worker off, the keeper ended. -/
def Broker.keeperStopped (b : Broker) (leaseId gpuId actorId : String)
    (processes : List ProcessObservation) (now : Time) : Broker :=
  { plant := (b.plant.retire processes).setKeepaliveCurrent gpuId .off none none true none now
    ledger := (b.ledger.bumpRevision.endLease leaseId .released
        (some "keepalive stopped and target GPU observed empty") now).addAudit (some actorId)
      "keepalive.gpu_stopped" "gpu" gpuId "success" [("lease_id", .text leaseId)] now }

/-- `finalize_keepalive_stop`. -/
def finalizeKeepaliveStop (now : Time) (actor : ActorContext) (endpointId leaseId : String)
    (observationNotBefore : Time) (key : Option String) (b : Broker) : Tx (Broker × Response) := do
  requireRole actor mutatingRoles
  once b actor "keepalive.finalize_stop_gpu" key now do
    let _ ← need (b.plant.endpoint? endpointId)
      (refuse "endpoint_not_found" "endpoint does not exist" 404)
    requireEndpointManager actor
    let lease ← need ((b.ledger.lease? leaseId).filter fun x => x.kind = .keepalive)
      (refuse "keepalive_not_found" "keepalive lease does not exist" 404)
    require (lease.state.live = true)
      (refuse "keepalive_not_stoppable" "keepalive lease is already terminal" 409)
    let gpuIds := (b.ledger.cards leaseId).map LeaseResource.gpuId
    require (gpuIds.length = 1) (refuse "keepalive_gpu_invalid"
      "keepalive lease has an invalid active resource scope" 409)
    let gpuId := gpuIds.headD ""
    require ((b.plant.gpu? gpuId).any (fun g => decide (g.endpointId = endpointId)) = true)
      (refuse "keepalive_endpoint_mismatch" "keepalive lease does not belong to this endpoint" 409)
    let processes ← b.plant.validateKeepaliveObservation endpointId gpuIds observationNotBefore
    let expected := (b.plant.keepalive? gpuId).bind KeepaliveCurrent.expectedKey
    require (processes.all (fun x => !x.blocksStop expected observationNotBefore) = true)
      (refuse "keepalive_process_still_running"
        "keepalive ownership remains held while target processes are observed" 409)
    let stopped := b.keeperStopped leaseId gpuId actor.id processes now
    pure (stopped, .keepalive [leaseId] stopped.ledger.revision)

/-! ## Errors, cleanup and policy -/

/-- `set_keepalive_error`, one card. -/
def setKeepaliveErrorOn (endpointId reason : String) (cleanupPending : Bool) (now : Time)
    (p : Plant) (gpuId : String) : Plant :=
  if (p.gpu? gpuId).any (fun g => decide (g.endpointId = endpointId)) then
    p.setKeepaliveCurrent gpuId .error (some reason) none false
      (if cleanupPending then some true else none) now
  else p

/-- `set_keepalive_error`. -/
def setKeepaliveError (now : Time) (endpointId : String) (gpuIds : List String) (reason : String)
    (cleanupPending : Bool) (b : Broker) : Tx (Broker × Response) :=
  let plant := gpuIds.foldl (setKeepaliveErrorOn endpointId reason cleanupPending now) b.plant
  finish { b with plant } .done

/-- `finish_keepalive_cleanup`, one card. -/
def finishCleanupOn (actor : ActorContext) (endpointId : String) (now : Time) (b : Broker)
    (gpuId : String) : Broker :=
  if (b.plant.gpu? gpuId).any (fun g => decide (g.endpointId = endpointId)) &&
      (b.plant.keepalive? gpuId).any (fun k => k.cleanupPending) then
    { plant := b.plant.setKeepaliveCurrent gpuId .off none none true (some false) now
      ledger := b.ledger.addAudit (some actor.id) "keepalive.orphan_cleaned" "gpu" gpuId "success"
        [("endpoint_id", .text endpointId)] now }
  else b

/-- `finish_keepalive_cleanup`. -/
def finishKeepaliveCleanup (now : Time) (actor : ActorContext) (endpointId : String)
    (gpuIds : List String) (b : Broker) : Tx (Broker × Response) :=
  finish (gpuIds.foldl (finishCleanupOn actor endpointId now) b) .done

/-- Disabling turns the worker state off on every card without a keeper. -/
def Broker.workersOff (b : Broker) (endpointId : String) (now : Time) : Plant :=
  ((b.plant.gpus.filter fun g => g.endpointId = endpointId).filter fun g =>
    (b.ledger.activeLeaseForGpu g.id).all fun x => decide (x.kind ≠ .keepalive)).foldl
      (fun p g => p.setKeepaliveCurrent g.id .off none none false none now) b.plant

/-- The adapter an endpoint ends up with under a policy. -/
def Endpoint.adapterUnder (e : Endpoint) (policy : KeepalivePolicy) : Option String :=
  if policy = .idleKeepalive then e.keepaliveAdapterId.or (some "server-script-v1")
  else e.keepaliveAdapterId

/-- The rows `configure_keepalive_policy` writes. -/
def Broker.policyConfigured (b : Broker) (e : Endpoint) (policy : KeepalivePolicy) (changed : Bool)
    (actorId : String) (now : Time) : Broker :=
  let plant := if changed && decide (policy = .disabled) then b.workersOff e.id now else b.plant
  { plant := { plant with
      endpoints := updWhere (fun x => x.id = e.id)
        (fun x => { x with keepalivePolicy := policy, keepaliveAdapterId := e.adapterUnder policy })
        plant.endpoints }
    ledger := if changed then
        b.ledger.bumpRevision.addAudit (some actorId) "keepalive.policy_configured" "endpoint"
          e.id "success" [] now
      else b.ledger }

/-- `configure_keepalive_policy`. -/
def configureKeepalivePolicy (now : Time) (actor : ActorContext) (endpointId : String)
    (policy : KeepalivePolicy) (key : String) (b : Broker) : Tx (Broker × Response) := do
  requireRole actor mutatingRoles
  once b actor "keepalive.policy.configure" (some key) now do
    let e ← need (b.plant.endpoint? endpointId)
      (refuse "endpoint_not_found" "endpoint does not exist" 404)
    requireEndpointManager actor
    let changed := decide (e.keepalivePolicy ≠ policy ∨
      e.adapterUnder policy ≠ e.keepaliveAdapterId)
    let configured := b.policyConfigured e policy changed actor.id now
    let ledger := configured.ledger
    pure (configured, .endpoint (if changed then ledger.nextAuditId - 1 else 0) ledger.revision
      endpointId)

end ServerPilot
