import ServerPilot.Spec.Snapshot

/-!
# Occupancy of an endpoint

What the console shows of the keepers on one server, gathered twice: by
`snapshot`, from the payloads of the cards it publishes (`snapshotKeepalive`), and
by the single query a switch of the policy answers with (`endpointKeepaliveSummary`).
-/

namespace ServerPilot

open Rows

/-- `_keepalive_aggregate`, its answer. -/
structure KeepaliveAggregate where
  configured : Bool
  policy : KeepalivePolicy
  desired : KeepaliveActual
  actual : KeepaliveActual
  state : KeepaliveActual
  activeGpuCount : ℕ
  errorGpuCount : ℕ
  eligibleIdleGpuCount : ℕ
  reasons : List (String × String)
  deriving DecidableEq, Repr

/-- The status and the counts, without the reasons. -/
def KeepaliveAggregate.figures (a : KeepaliveAggregate) : KeepaliveAggregate :=
  { a with reasons := [] }

/-- What one card adds: its id, its worker's state and why. -/
structure KeepaliveStatus where
  gpuId : String
  state : KeepaliveActual
  reason : Option String
  deriving DecidableEq, Repr

/-- How many of the statuses are `s`. -/
def statusCount (s : KeepaliveActual) (values : List KeepaliveStatus) : ℕ :=
  values.countP fun x => x.state = s

/-- `_keepalive_aggregate`. -/
def keepaliveAggregate (e : Endpoint) (values : List KeepaliveStatus) (eligibleIdleGpuCount : ℕ) :
    KeepaliveAggregate :=
  let active := statusCount .on values
  let errors := statusCount .error values
  let state := if errors ≠ 0 then .error else if active ≠ 0 then .on else .off
  { configured := e.keepaliveAdapterId.isSome
    policy := e.keepalivePolicy
    desired := if e.keepalivePolicy = .idleKeepalive then .on else .off
    actual := state
    state
    activeGpuCount := active
    errorGpuCount := errors
    eligibleIdleGpuCount
    reasons := values.filterMap fun x =>
      (x.reason.filter fun r => r ≠ "").map fun r => (x.gpuId, r) }

/-- The policy starts keepers here, and an adapter is there to start them. -/
def Endpoint.keepsIdle (e : Endpoint) : Bool :=
  decide (e.keepalivePolicy = .idleKeepalive) && e.keepaliveAdapterId.isSome

/-- When a workload last gave the card back. -/
def Ledger.workloadReleasedAt (l : Ledger) (gpuId : String) : Option Time :=
  ((l.resources.filter fun r => decide (r.gpuId = gpuId) &&
      (l.lease? r.leaseId).any fun x => x.kind = .workload).filterMap
    LeaseResource.releasedAt).max?

/-- `_workload_release_cooldown_remaining_seconds`, under `keepalive_start_cooldown_seconds`. -/
def Ledger.cooldownRemaining (l : Ledger) (cooldown : Time) (gpuId : String) (now : Time) : Time :=
  if cooldown ≤ 0 then 0
  else
    match l.workloadReleasedAt gpuId with
    | none => 0
    | some releasedAt => max 0 (cooldown - (now - releasedAt))

/-- The cards of one endpoint, `order_by(GPUDevice.gpu_index)`. -/
def Plant.cardsOf (p : Plant) (endpointId : String) : List GPUDevice :=
  (p.gpus.filter fun g => g.endpointId = endpointId).insertionSort fun a b =>
    a.gpuIndex ≤ b.gpuIndex

section

variable (cfg : Config) (now : Time) (b : Broker)

/-- What a card adds to the summary. `_policy_keepalive_status` returns what it is given. -/
def Broker.keepaliveStatusOf (lease : Option Lease) (g : GPUDevice) : KeepaliveStatus :=
  { gpuId := g.id
    state := (b.keepaliveGpuStatus cfg now g lease).1
    reason := (b.keepaliveGpuStatus cfg now g lease).2 }

/-- `_endpoint_keepalive_summary`. -/
def Broker.endpointKeepaliveSummary (cooldown : Time) (e : Endpoint) : KeepaliveAggregate :=
  let gpus := b.plant.cardsOf e.id
  keepaliveAggregate e
    (gpus.map fun g => b.keepaliveStatusOf cfg now (b.ledger.activeLeaseForGpu g.id) g)
    (gpus.countP fun g => e.keepsIdle && decide ((b.gpuState cfg now g).1 = .available) &&
      decide (b.ledger.cooldownRemaining cooldown g.id now ≤ 0))

/-- The aggregate `snapshot` puts into an endpoint's payload. -/
def Broker.snapshotKeepalive (v : View) (e : Endpoint) : KeepaliveAggregate :=
  let gpus := v.gpus.filter fun g => g.endpointId = e.id
  keepaliveAggregate e
    (gpus.map fun g => b.keepaliveStatusOf cfg now (v.leaseByGpu g.id) g)
    (if e.keepsIdle then gpus.countP fun g => (b.deriveState cfg now v g).1 = .available else 0)

end

end ServerPilot
