import ServerPilot.Spec.Op

/-!
# What the planner stops

The part of `list_keepalive_transitions` that ends workers: a keeper under a
disabled policy is stopped, and a start whose cleanup failed is cleaned up. The
entries that start, recover or only report a worker are left out.
-/

namespace ServerPilot

/-- `active_leases`: the live keepers with a card on the server. -/
def Broker.keepersOn (b : Broker) (endpointId : String) : List Lease :=
  b.ledger.leases.filter fun x =>
    decide (x.kind = .keepalive) && x.state.live && b.holdsOn x.id endpointId

/-- The `stop` entries, as lease and card. -/
def Broker.plannedStops (b : Broker) (e : Endpoint) : List (String × String) :=
  if e.keepalivePolicy = .disabled then
    (b.keepersOn e.id).filterMap fun x =>
      match b.ledger.cards x.id with
      | [r] => if b.plant.endpointOf r.gpuId = e.id then some (x.id, r.gpuId) else none
      | _ => none
  else []

/-- The `cleanup` entries, as cards. -/
def Broker.plannedCleanups (b : Broker) (e : Endpoint) : List String :=
  let leased := (b.keepersOn e.id).flatMap fun x => (b.ledger.cards x.id).map LeaseResource.gpuId
  let gpus := (b.plant.gpus.filter fun g => g.endpointId = e.id).insertionSort fun g h =>
    g.gpuIndex ≤ h.gpuIndex
  if e.keepaliveAdapterId = none then []
  else (gpus.map GPUDevice.id).filter fun g =>
    (b.plant.keepalive? g).any (fun k => k.cleanupPending) && decide (g ∉ leased)

/-- Lease `id` is a live keeper of exactly this card. -/
structure Broker.KeeperOf (b : Broker) (id gpuId : String) : Prop where
  lease : ∃ x, b.ledger.lease? id = some x ∧ x.kind = .keepalive ∧ x.state.live = true
  cards : (b.ledger.cards id).map LeaseResource.gpuId = [gpuId]

/-- The worker on this card is accounted for: a live keeper holds the card, or its cleanup is
pending and still planned. -/
def Broker.Accounted (b : Broker) (gpuId : String) : Prop :=
  (∃ id, b.KeeperOf id gpuId) ∨
    (b.plant.keepalive? gpuId).any (fun k => k.cleanupPending) = true ∧
      ∃ e ∈ b.plant.endpoints, gpuId ∈ b.plannedCleanups e

end ServerPilot
