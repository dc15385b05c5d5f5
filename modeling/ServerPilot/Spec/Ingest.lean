import ServerPilot.Spec.Observation

/-!
# Ingesting observations

`ingestObservation` is the broker's heartbeat: one transaction that records what
one endpoint reported, decides which endpoint owns each card it saw, moves the
absence clock of its processes, and reconciles every live lease.
-/

namespace ServerPilot

open Rows Checked

/-! ## Cards -/

/-- The row id of a card. -/
def gpuIdOf (endpointId nodeId uuid : String) : String :=
  if nodeId = "self" then endpointId ++ ":" ++ uuid
  else endpointId ++ ":" ++ nodeId ++ ":" ++ uuid

/-- A sampled card: its row refreshed, or inserted. -/
def Plant.seeGpu (endpointId nodeId : String) (observedAt : Time) (p : Plant)
    (s : TelemetryInput) : Plant :=
  let id := gpuIdOf endpointId nodeId s.gpuUuid
  { p with
    gpus :=
      if (p.gpu? id).isSome then
        updWhere (fun g => g.id = id) (fun g => { g with
          gpuIndex := s.gpuIndex, cudaOrdinal := some s.cudaOrdinal, name := s.name
          totalVramMib := s.totalVramMib, health := s.health, present := true
          lastSeenAt := observedAt, absentAt := none }) p.gpus
      else p.gpus ++ [{
        id, endpointId, nodeId, gpuUuid := s.gpuUuid, gpuIndex := s.gpuIndex
        cudaOrdinal := some s.cudaOrdinal, name := s.name, totalVramMib := s.totalVramMib
        health := s.health, present := true, firstSeenAt := observedAt,
          lastSeenAt := observedAt }] }

/-- The reading of a sampled card. -/
def Plant.readGpu (endpointId nodeId : String) (observedAt now : Time) (p : Plant)
    (s : TelemetryInput) : Plant :=
  let id := gpuIdOf endpointId nodeId s.gpuUuid
  let row : TelemetryCurrent :=
    { gpuId := id, observedAt, collectedAt := now, memoryUsedMib := s.memoryUsedMib
      memoryFreeMib := s.memoryFreeMib, gpuUtilizationPct := s.gpuUtilizationPct
      health := s.health }
  { p with telemetry := (p.telemetry.filter fun t => t.gpuId ≠ id) ++ [row] }

/-! ## UUID ownership -/

/-- A present row of one of these cards under another endpoint. -/
def siblingOf (endpointId : String) (uuids : List String) (g : GPUDevice) : Bool :=
  decide (g.gpuUuid ∈ uuids ∧ g.endpointId ≠ endpointId ∧ g.present = true)

/-- A sibling that was still seen within the staleness limit: the sticky incumbent. -/
def incumbent (cfg : Config) (observedAt : Time) (g : GPUDevice) : Bool :=
  decide (observedAt - cfg.staleAfter ≤ g.lastSeenAt)

/-- `_converge_gpu_uuid_ownership`: `mine` are the row ids of the cards just observed. -/
def Plant.convergeOwnership (cfg : Config) (p : Plant) (endpointId : String)
    (mine : List (String × String)) (observedAt : Time) : Plant × List String :=
  let siblings := p.gpus.filter (siblingOf endpointId (mine.map Prod.fst))
  let kept := siblings.filter (incumbent cfg observedAt)
  let lost := siblings.filter fun g => !incumbent cfg observedAt g
  let losers := lost.map GPUDevice.id ++
    (mine.filter fun m => m.1 ∈ kept.map GPUDevice.gpuUuid).map Prod.snd
  ({ p with
      gpus := updWhere (fun g => g.id ∈ losers)
        (fun g => { g with present := false, absentAt := some observedAt }) p.gpus },
    (lost.map GPUDevice.endpointId).dedup)

/-- The cards of a node a complete observation left out are absent. -/
def Plant.markAbsent (p : Plant) (endpointId nodeId : String) (observed : List String)
    (observedAt : Time) : Plant :=
  { p with
    gpus := updWhere
      (fun g => g.endpointId = endpointId ∧ g.nodeId = nodeId ∧ g.id ∉ observed ∧ g.present = true)
      (fun g => { g with present := false, absentAt := some observedAt }) p.gpus }

/-! ## Keepers of absent cards -/

/-- The keepalive leases with a card on these endpoints, all of whose cards are absent. -/
def Broker.absentKeepers (b : Broker) (endpointIds : List String) : List Lease :=
  b.ledger.leases.filter fun x =>
    x.kind = .keepalive ∧ x.state.terminal = false ∧
      ((b.ledger.cards x.id).any fun r => endpointIds.contains (b.plant.endpointOf r.gpuId)) ∧
      (b.ledger.cards x.id).all fun r => (b.plant.gpu? r.gpuId).any fun g => !g.present

/-- End one keepalive lease whose cards are gone. -/
def releaseAbsentKeeper (actorId : String) (now : Time) (l : Ledger) (leaseId : String) : Ledger :=
  (l.endLease leaseId .released (some "gpu absent from endpoint inventory") now).addAudit
    (some actorId) "lease.released" "lease" leaseId "success"
    [("reason", .text "gpu absent from endpoint inventory")] now

/-- `_release_absent_keepalive_leases`. -/
def Broker.releaseAbsentKeepers (b : Broker) (endpointIds : List String) (now : Time) : Broker :=
  let absent := (b.plant.gpus.filter fun g =>
    g.endpointId ∈ endpointIds ∧ g.present = false).map GPUDevice.id
  if absent = [] then b
  else
    let first := (endpointIds.insertionSort (· ≤ ·)).headD ""
    let keepers := b.absentKeepers endpointIds
    let ledger := (keepers.map Lease.id).foldl (releaseAbsentKeeper ("collector:" ++ first) now)
      b.ledger
    { plant := { b.plant with keepalive := b.plant.keepalive.filter fun k => k.gpuId ∉ absent }
      ledger := if keepers = [] then ledger else ledger.bumpRevision }

/-! ## Processes -/

/-- The row a reported process refreshes: the same identity, or the active one its GPU, PID and
boot already have, when its start time is missing or within the clock's jitter. -/
def Plant.sightedRow (p : Plant) (gpuId bootId : String) (x : ProcessInput) :
    Option ProcessObservation :=
  let same := p.processes.find? fun q => q.identity = (gpuId, x.pid, bootId, x.processStartedAt)
  same.or
    ((latest ProcessObservation.lastSeenAt (p.processes.filter fun q =>
      q.gpuId = gpuId ∧ q.pid = x.pid ∧ q.bootId = bootId ∧ q.active = true)).filter fun q =>
      x.username = none ∨ |q.processStartedAt - x.processStartedAt| ≤ processStartTimeJitter)

/-- A refreshed process row. -/
def ProcessObservation.sighted (now : Time) (x : ProcessInput) (q : ProcessObservation) :
    ProcessObservation :=
  { q with
    username := x.username, usedMemoryMib := x.usedMemoryMib, lastSeenAt := now
    observations := q.observations + 1, absentSince := none, active := true }

/-- One reported process. One on a card the observation does not list is skipped. -/
def Plant.sight (endpointId nodeId bootId : String) (uuids : List String) (now : Time) (p : Plant)
    (x : ProcessInput) : Plant :=
  if x.gpuUuid ∉ uuids then p
  else
    let gpuId := gpuIdOf endpointId nodeId x.gpuUuid
    match p.sightedRow gpuId bootId x with
    | some row => { p with
        processes := updWhere (fun q => q.identity = row.identity)
          (ProcessObservation.sighted now x) p.processes }
    | none => { p with processes := p.processes ++ [{
        endpointId, gpuId, pid := x.pid, bootId, processStartedAt := x.processStartedAt
        username := x.username, usedMemoryMib := x.usedMemoryMib, firstSeenAt := now
        lastSeenAt := now }] }

/-! ## One node -/

/-- The host reading of a node. -/
def Plant.readHost (p : Plant) (endpointId : String) (o : NodeObservation) (now : Time) : Plant :=
  let previous := (p.host? endpointId o.nodeId).filter fun h => h.bootId = some o.bootId
  let row : HostTelemetry :=
    { endpointId, nodeId := o.nodeId, bootId := some o.bootId, observedAt := o.observedAt
      collectedAt := now, cpuCount := o.host.cpuCount, load1m := o.host.load1m
      cpuTotalTicks := o.host.cpuTotalTicks, cpuIdleTicks := o.host.cpuIdleTicks
      cpuUsageUsec := o.host.cpuUsageUsec, cpuQuotaUsec := o.host.cpuQuotaUsec
      cpuPeriodUsec := o.host.cpuPeriodUsec
      cpuUtilizationPct := hostCpuUtilizationPct previous o.observedAt o.host.cpuCount
        o.host.cpuTotalTicks o.host.cpuIdleTicks o.host.cpuUsageUsec o.host.cpuQuotaUsec
        o.host.cpuPeriodUsec
      memoryTotalMib := o.host.memoryTotalMib, memoryAvailableMib := o.host.memoryAvailableMib
      memoryLimitMib := o.host.memoryLimitMib, memoryCurrentMib := o.host.memoryCurrentMib }
  { p with hosts := (p.hosts.filter fun h =>
      ¬ (h.endpointId = endpointId ∧ h.nodeId = o.nodeId)) ++ [row] }

/-- The node's observation state, replaced. -/
def Plant.setNodeState (p : Plant) (s : NodeObservationState) : Plant :=
  { p with nodeStates := (p.nodeStates.filter fun t =>
      ¬ (t.endpointId = s.endpointId ∧ t.nodeId = s.nodeId)) ++ [s] }

/-- The node state after an observation was taken in. -/
def nodeStateAfter (p : Plant) (endpointId : String) (o : NodeObservation) (now : Time) :
    NodeObservationState :=
  { endpointId, nodeId := o.nodeId, lastAttemptAt := now
    lastSuccessAt := if o.observationComplete then some o.observedAt
      else (p.nodeState? endpointId o.nodeId).bind NodeObservationState.lastSuccessAt
    errorCode := if o.observationComplete then none else some "incomplete_observation"
    message := if o.observationComplete then none
      else some "GPU or process observation incomplete" }

/-- An observation older than the reading the node already has. -/
def Plant.staleNode (p : Plant) (endpointId : String) (o : NodeObservation) : Bool :=
  (p.host? endpointId o.nodeId).any fun h => decide (o.observedAt < h.observedAt)

/-- The samples of a node's cards, and their readings. -/
def Plant.seeCards (p : Plant) (endpointId : String) (o : NodeObservation) (now : Time) : Plant :=
  o.gpus.foldl (Plant.readGpu endpointId o.nodeId o.observedAt now)
    (o.gpus.foldl (Plant.seeGpu endpointId o.nodeId o.observedAt) p)

/-- The node's processes: sightings, the absence clock, and the node's state. -/
def Plant.seeProcesses (cfg : Config) (p : Plant) (endpointId : String) (o : NodeObservation)
    (now : Time) : Plant :=
  let seen := o.processes.foldl
    (Plant.sight endpointId o.nodeId o.bootId (o.gpus.map TelemetryInput.gpuUuid) now) p
  let aged := seen.advanceProcessAbsence cfg endpointId o.nodeId o.observationComplete now
  aged.setNodeState (nodeStateAfter aged endpointId o now)

/-- `_ingest_node_observation`. -/
def ingestNodeObservation (cfg : Config) (endpointId : String) (now : Time) (b : Broker)
    (o : NodeObservation) : Broker :=
  if b.plant.staleNode endpointId o then b
  else
    let seen := (b.plant.readHost endpointId o now).seeCards endpointId o now
    let b := { b with plant := seen }
    let b := if !o.observationComplete then b
      else
        let mine := o.gpus.map fun s => (s.gpuUuid, gpuIdOf endpointId o.nodeId s.gpuUuid)
        let (plant, handedOver) := b.plant.convergeOwnership cfg endpointId mine o.observedAt
        let plant := plant.markAbsent endpointId o.nodeId (mine.map Prod.snd) o.observedAt
        { b with plant }.releaseAbsentKeepers (endpointId :: handedOver).dedup now
    { b with plant := b.plant.seeProcesses cfg endpointId o now }

/-- One failed node of a partial collection. -/
def ingestNodeFailure (cfg : Config) (endpointId : String) (now : Time) (b : Broker)
    (f : NodeFailure) : Broker :=
  let state : NodeObservationState :=
    { endpointId, nodeId := f.nodeId, lastAttemptAt := now
      lastSuccessAt := (b.plant.nodeState? endpointId f.nodeId).bind
        NodeObservationState.lastSuccessAt
      errorCode := some f.errorCode, message := some f.message }
  { b with plant :=
      (b.plant.setNodeState state).advanceProcessAbsence cfg endpointId f.nodeId false now }

end ServerPilot
