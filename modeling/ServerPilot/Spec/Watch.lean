import ServerPilot.Spec.Op

/-!
# Watching whole allocations

A run of the broker with what its passes looked at written down: every look at an
allocation that its provider takes back as a whole, and every observation that was
taken in. The broker itself keeps of this only the clock and the last evidence of
each row.
-/

namespace ServerPilot

/-- One look of a pass at an allocation: the row as it found it, and when the holder of its lease
was last heard from. -/
structure Look where
  now : Time
  row : ResourceAllocation
  heardAt : Time

/-- The look of the visit to a lease, if it comes to one. -/
def Ledger.lookOn (l : Ledger) (now : Time) (leaseId : String) : Option Look :=
  ((l.lease? leaseId).filter fun x => x.kind ≠ .keepalive).bind fun lease =>
    (((l.allocationsOf leaseId).find? fun a => a.releaseGranularity = "allocation").filter
      fun a => a.state ≠ .releasePending).map fun a => ⟨now, a, lease.lastHeartbeatAt⟩

/-- A pass, and the looks so far, newest first. -/
def lookedOn (cfg : Config) (now : Time) (actorId : String) (token : String → String → String)
    (s : Pass × List Look) (leaseId : String) : Pass × List Look :=
  (reconcileLease cfg now actorId token s.1 leaseId,
    (s.1.1.ledger.lookOn now leaseId).toList ++ s.2)

/-- The looks of the pass that ends an observation, put before earlier ones. -/
def Broker.looksIn (cfg : Config) (now : Time) (o : EndpointObservation)
    (token : String → String → String) (b : Broker) (earlier : List Look) : List Look :=
  let b := b.absorb cfg now o
  let b := { b with ledger := b.ledger.normalizeConflicts ("collector:" ++ o.endpointId) now }
  (b.ledger.liveLeaseIds.foldl (lookedOn cfg now ("collector:" ++ o.endpointId) token)
    ((b, []), earlier)).2

/-- A run so far: the looks and the observations taken in, newest first. -/
structure Watched where
  broker : Broker
  looks : List Look := []
  seen : List EndpointObservation := []

/-- The observation of a transaction that takes one in, and the looks after its pass. -/
def Watched.observe (cfg : Config) (w : Watched) : Op → List Look × List EndpointObservation
  | .ingestObservation now o token =>
    match ServerPilot.ingestObservation cfg now o token w.broker with
    | .ok (_, .releases _) => (w.broker.looksIn cfg now o token w.looks, o :: w.seen)
    | _ => (w.looks, w.seen)
  | _ => (w.looks, w.seen)

def Watched.step (cfg : Config) (w : Watched) (op : Op) : Watched :=
  { broker := exec cfg w.broker op
    looks := (w.observe cfg op).1
    seen := (w.observe cfg op).2 }

/-- The looks at one allocation. -/
def looksAt (id : String) (looks : List Look) : List Look :=
  looks.filter fun k => k.row.id = id

/-! ## Evidence -/

/-- A location shows all its cards, and no process on them. -/
def AllocationLocation.shownIdle (x : AllocationLocation) : Bool :=
  decide (x.devices.length = x.gpuCount) && decide (x.runningProcessCount = some 0) &&
    x.devices.all fun d => decide (d.runningProcessCount = some 0)

/-- A fact that calls the cards of its allocation idle. -/
def AllocationFact.callsIdle (f : AllocationFact) : Bool :=
  f.workloadObservedAt.isSome && f.locations.all AllocationLocation.shownIdle

/-- The transaction takes a provider's own word for the cards of an allocation being idle. -/
def Op.takesWord : Op → Bool
  | .claimRemember _ _ f => f.callsIdle
  | _ => false

/-- A node was seen with all of these cards, no earlier than `oldest`, and nothing ran on them. -/
structure NodeObservation.ShowsIdle (n : NodeObservation) (oldest : Time)
    (devices : List AllocatedDevice) : Prop where
  complete : n.observationComplete = true
  fresh : oldest ≤ n.observedAt
  cards : ∀ d ∈ devices, d.gpuUuid ∈ n.gpus.map TelemetryInput.gpuUuid
  idle : ∀ d ∈ devices, ∀ x ∈ n.processes, x.gpuUuid ≠ d.gpuUuid

/-- The fact names each node once, and each card of a node once. -/
structure AllocationFact.Distinct (f : AllocationFact) : Prop where
  nodes : (f.locations.map AllocationLocation.node).Nodup
  devices : ∀ x ∈ f.locations, (x.devices.map AllocatedDevice.gpuUuid).Nodup

/-- **Whole evidence** at a look: a fresh active fact of an observation taken in, whose locations
have exactly the cards asked for, each on a node of that observation that shows it idle. -/
structure Look.Whole (cfg : Config) (seen : List EndpointObservation) (k : Look) : Prop where
  active : k.row.state = .active
  confirmed : cfg.within k.now k.row.confirmedAt = true
  asked : (k.row.locations.map AllocationLocation.gpuCount).sum =
    k.row.request.constraints.gpuCount
  covered : ∀ x ∈ k.row.locations, x.devices.length = x.gpuCount
  shown : ∃ o ∈ seen, ∃ f ∈ o.allocations, f.state = .active ∧
    k.row.allocationRef = some f.allocationRef ∧ k.row.confirmedAt = some f.observedAt ∧
    (∀ x ∈ k.row.locations, ∃ n ∈ o.nodes, n.nodeId = x.node ∧
      n.ShowsIdle (k.now - cfg.staleAfter) x.devices) ∧
    (f.Distinct → (k.row.locations.map AllocationLocation.node).Nodup ∧
      ∀ x ∈ k.row.locations, (x.devices.map AllocatedDevice.gpuUuid).Nodup)

/-- The time between the looks of a stretch, without the gaps beyond the staleness limit. -/
def counted (cfg : Config) : List Look → Time
  | later :: earlier :: rest =>
    (if cfg.staleAfter < later.now - earlier.now then 0 else later.now - earlier.now) +
      counted cfg (earlier :: rest)
  | _ => 0

/-- The looks at an allocation end, at `now`, in a stretch of whole evidence that lasts the reclaim
limit, and the holder has been silent for as long. -/
def Watched.Vouches (cfg : Config) (w : Watched) (now : Time) (id : String) : Prop :=
  ∃ k stretch rest, looksAt id w.looks = (k :: stretch) ++ rest ∧ k.now = now ∧
    (k :: stretch).IsChain (fun later earlier => later.now - earlier.now < idleOutageReset) ∧
    (∀ j ∈ k :: stretch, j.Whole cfg w.seen) ∧
    seconds cfg.idleLeaseReclaimSeconds ≤ counted cfg (k :: stretch) ∧
    seconds cfg.idleLeaseReclaimSeconds ≤ now - k.heardAt

/-- Between these two states the allocation `id` of a provider was marked for release. -/
def Watched.Marks (w w' : Watched) (id : String) : Prop :=
  (∃ a ∈ w.broker.ledger.allocations, a.id = id ∧ a.state ≠ .releasePending) ∧
    ∃ a ∈ w'.broker.ledger.allocations,
      a.id = id ∧ a.providerId ≠ "builtin" ∧ a.state = .releasePending

end ServerPilot
