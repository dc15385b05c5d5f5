import ServerPilot.Spec.Collect

/-!
# Reports of one endpoint

What a collection brings back besides its nodes: a plugin also reports the
capacity it can hand out, which replaces the capacity stored for the endpoint
(`persistPluginCapacity`). `Collected` is the broker with those rows, `EndpointRows`
the tables of one endpoint that an observation writes.
-/

namespace ServerPilot

open Rows Checked

/-- The capacity a plugin reports, as `_encode_plugin_capacity` stores it; `nodes` are the names
and GPU totals. -/
structure PluginCapacity where
  freeGpuCount : ℕ
  gpuName : String
  largestFreeBlock : Option ℕ := none
  vramMib : Option ℕ := none
  maxGpusPerLease : Option ℕ := none
  cpuCoresPerGpu : Option ℕ := none
  memoryMibPerGpu : Option ℕ := none
  note : Option String := none
  nodes : List (String × ℕ) := []
  observedAt : Option Time := none
  deriving DecidableEq, Repr

/-- One collection of an endpoint: its observation, when it was made, and the capacity it
reports. -/
structure EndpointReport where
  observation : EndpointObservation
  observedAt : Time
  capacity : Option PluginCapacity := none
  scheduler_eq : observation.scheduler = capacity.map PluginCapacity.nodes

/-- The broker, and `plugin_capacity_json` of its `EndpointObservationFact` rows. -/
structure Collected where
  broker : Broker
  capacities : List (String × PluginCapacity) := []

/-- The capacity stored for an endpoint. -/
def Collected.capacity? (s : Collected) (endpointId : String) : Option PluginCapacity :=
  s.capacities.lookup endpointId

/-- `_persist_plugin_capacity`: no capacity, no change. -/
def Collected.persistPluginCapacity (s : Collected) (endpointId : String)
    (capacity : Option PluginCapacity) : Collected :=
  match capacity with
  | none => s
  | some c => { s with capacities :=
      (endpointId, c) :: s.capacities.filter fun x => x.1 ≠ endpointId }

/-- `ingest_observation`, with the capacity of the report. -/
def ingestReport (cfg : Config) (now : Time) (r : EndpointReport)
    (token : String → String → String) (s : Collected) : Tx Collected := do
  let (broker, _) ← ingestObservation cfg now r.observation token s.broker
  if s.broker.plant.staleObservation r.observation then pure { s with broker }
  else pure { s.persistPluginCapacity r.observation.endpointId r.capacity with broker }

/-- The state a report leaves: a refused one is rolled back. -/
def Collected.hear (cfg : Config) (token : String → String → String) (s : Collected) (now : Time)
    (r : EndpointReport) : Collected :=
  match ingestReport cfg now r token s with
  | .ok s' => s'
  | .error _ => s

/-- The rows of one endpoint that an observation of it writes. -/
structure EndpointRows where
  provider : Option ProviderState
  gpus : List GPUDevice
  processes : List ProcessObservation
  capacity : Option PluginCapacity
  allocations : List ResourceAllocation

/-- The rows of an endpoint. -/
def Collected.rows (s : Collected) (endpointId : String) : EndpointRows :=
  { provider := s.broker.plant.providerState? endpointId
    gpus := s.broker.plant.gpus.filter fun g => g.endpointId = endpointId
    processes := s.broker.plant.processes.filter fun x => x.endpointId = endpointId
    capacity := s.capacity? endpointId
    allocations := s.broker.ledger.allocations.filter fun a => a.endpointId = endpointId }

end ServerPilot
