import ServerPilot.Spec.Reconcile

/-!
# What a collector reports

The schemas of one endpoint observation, and what a provider's facts do to the
allocations of that endpoint (`ingestAllocations`).
-/

namespace ServerPilot

open Rows

/-! ## Schemas -/

/-- `TelemetryInput`. -/
structure TelemetryInput where
  gpuUuid : String
  gpuIndex : ℕ
  cudaOrdinal : ℕ
  name : String := "GPU"
  totalVramMib : ℕ
  memoryUsedMib : ℕ
  memoryFreeMib : ℕ
  gpuUtilizationPct : Option ℕ := none
  health : String := "OK"
  deriving DecidableEq, Repr

/-- `ProcessInput`. -/
structure ProcessInput where
  gpuUuid : String
  pid : ℕ
  usedMemoryMib : ℕ
  username : Option String
  processStartedAt : Time
  deriving DecidableEq, Repr

/-- `HostTelemetryInput`. -/
structure HostTelemetryInput where
  cpuCount : ℕ
  load1m : ℚ := 0
  cpuTotalTicks : Option ℕ := none
  cpuIdleTicks : Option ℕ := none
  cpuUsageUsec : Option ℕ := none
  cpuQuotaUsec : Option ℤ := none
  cpuPeriodUsec : Option ℤ := none
  memoryTotalMib : ℕ
  memoryAvailableMib : ℕ
  memoryLimitMib : Option ℤ := none
  memoryCurrentMib : Option ℕ := none
  deriving DecidableEq, Repr

structure NodeObservation where
  nodeId : String := "self"
  observedAt : Time
  bootId : String
  host : HostTelemetryInput
  gpus : List TelemetryInput
  processes : List ProcessInput := []
  observationComplete : Bool := true
  deriving DecidableEq, Repr

/-- `gpu_identity_is_unique`. -/
structure NodeObservation.Valid (n : NodeObservation) : Prop where
  uuids : (n.gpus.map TelemetryInput.gpuUuid).Nodup
  indexes : (n.gpus.map TelemetryInput.gpuIndex).Nodup
  ordinals : (n.gpus.map TelemetryInput.cudaOrdinal).Nodup

structure NodeFailure where
  nodeId : String
  errorCode : String
  message : String
  deriving DecidableEq, Repr

inductive FactState
  | active | released | expired | failed | unknown
  deriving DecidableEq, Repr

/-- `AllocationFact`, its timestamps parsed. -/
structure AllocationFact where
  allocationRef : String
  requestId : Option String := none
  state : FactState
  locations : List AllocationLocation := []
  entry : Option AllocationEntry := none
  expiresAt : Option Time := none
  observedAt : Time
  workloadObservedAt : Option Time := none
  deriving DecidableEq, Repr

/-- `EndpointObservation`; `scheduler` lists the node names and GPU totals of a capacity report. -/
structure EndpointObservation where
  endpointId : String
  nodes : List NodeObservation
  failures : List NodeFailure := []
  scheduler : Option (List (String × ℕ)) := none
  allocations : List AllocationFact := []
  nodes_valid : ∀ n ∈ nodes, n.Valid
  unique_nodes : (nodes.map NodeObservation.nodeId ++ failures.map NodeFailure.nodeId).Nodup

/-- `EndpointObservation.observation_complete`. -/
def EndpointObservation.complete (o : EndpointObservation) : Bool :=
  o.failures.isEmpty && o.nodes.all NodeObservation.observationComplete

/-! ## Allocation facts -/

/-- The allocation state a fact asserts. -/
def FactState.toState : FactState → AllocationState
  | active => .active
  | released => .released
  | expired => .expired
  | failed => .failed
  | unknown => .unconfirmed

/-- The fact says the provider holds nothing for it any more. -/
def FactState.terminal : FactState → Bool
  | released | expired | failed => true
  | active | unknown => false

/-- A fact `_record_allocation_fact` does not take: from the future, or older than the last. -/
def ResourceAllocation.ignores (a : ResourceAllocation) (fact : AllocationFact) (now : Time) :
    Bool :=
  decide (now + seconds 5 < fact.observedAt) || a.confirmedAt.any fun t => fact.observedAt < t

/-- `_record_allocation_fact`: a live fact does not cancel the user's pending release. -/
def ResourceAllocation.recordFact (a : ResourceAllocation) (fact : AllocationFact) (now : Time) :
    ResourceAllocation :=
  if a.ignores fact now then a
  else
    let state := if a.state ≠ .releasePending ∨ fact.state.terminal = true
      then fact.state.toState else a.state
    { a with
      allocationRef := some fact.allocationRef
      state
      locations := if fact.locations ≠ [] ∨ a.locations = [] then fact.locations else a.locations
      entry := fact.entry.or a.entry
      expiresAt := fact.expiresAt
      confirmedAt := some fact.observedAt
      workloadObservedAt := fact.workloadObservedAt
      updatedAt := now
      lastError := if state = .releasePending then a.lastError else none }

/-- The distinct processes a node reports on any of these cards. -/
def NodeObservation.processCount (n : NodeObservation) (uuids : List String) : ℕ :=
  ((n.processes.filter fun x => x.gpuUuid ∈ uuids).map ProcessInput.pid).dedup.length

/-- The card identities of a location: declared by the provider, or, when the allocation takes
the whole node, all of that node's. -/
def AllocationLocation.declared (capacities : List (String × ℕ)) (x : AllocationLocation)
    (node : Option NodeObservation) : List AllocatedDevice :=
  match node with
  | some n =>
    if x.devices = [] ∧ n.gpus.length = x.gpuCount ∧ capacities.lookup x.node = some x.gpuCount then
      n.gpus.map fun g => { gpuUuid := g.gpuUuid }
    else x.devices
  | none => x.devices

/-- One location of a fact, with what the nodes of the same observation show of its cards; `none`
where they cannot show all of them. -/
def AllocationLocation.observed (capacities : List (String × ℕ)) (active : Bool)
    (nodes : List NodeObservation) (x : AllocationLocation) : Option AllocationLocation :=
  let node := nodes.find? fun n => n.nodeId = x.node
  let declared := x.declared capacities node
  node.bind fun n =>
    if declared.length = x.gpuCount ∧ active = true ∧
        (∀ d ∈ declared, d.gpuUuid ∈ n.gpus.map TelemetryInput.gpuUuid) then
      some { x with
        devices := declared.map fun d => { d with
          physicalIndex := (n.gpus.find? fun g => g.gpuUuid = d.gpuUuid).map TelemetryInput.gpuIndex
          runningProcessCount := some (n.processCount [d.gpuUuid]) }
        runningProcessCount := some (n.processCount (declared.map AllocatedDevice.gpuUuid)) }
    else none

/-- A location nobody could look at: its devices as declared, without readings. -/
def AllocationLocation.unobserved (x : AllocationLocation) : AllocationLocation :=
  { x with
    devices := x.devices.map fun d => { d with runningProcessCount := none }
    runningProcessCount := none }

/-- A fact completed from the nodes of the observation it came with. -/
def AllocationFact.withNodes (o : EndpointObservation) (fact : AllocationFact) : AllocationFact :=
  let nodes := o.nodes.filter NodeObservation.observationComplete
  let active : Bool := decide (fact.state = .active)
  let look := AllocationLocation.observed (o.scheduler.getD []) active nodes
  let complete : Bool := active && !fact.locations.isEmpty &&
    fact.locations.all fun x => (look x).isSome
  let times := fact.locations.filterMap fun x =>
    (nodes.find? fun n => n.nodeId = x.node).map NodeObservation.observedAt
  { fact with
    locations := fact.locations.map fun x => (look x).getD x.unobserved
    workloadObservedAt := if complete then times.min? else none }

/-- The fact an allocation is matched with: by its handle, else by the request it answers. -/
def matchingFact (facts : List AllocationFact) (a : ResourceAllocation) : Option AllocationFact :=
  (facts.reverse.find? fun f => some f.allocationRef = a.allocationRef).or
    (facts.reverse.find? fun f => f.requestId = some a.id)

/-- One provider allocation of the observed endpoint, and the lease a terminal fact ends. -/
def ingestAllocation (facts : List AllocationFact) (now : Time) (l : Ledger)
    (a : ResourceAllocation) : Ledger :=
  let write (x : ResourceAllocation) : Ledger := l.editAllocations (fun y => y.id = a.id) fun _ => x
  match matchingFact facts a with
  -- an absent row is not evidence of job completion
  | none => write { a with idleSince := none }
  | some fact =>
    let a' := a.recordFact fact now
    let l := write a'
    match a'.leaseId.filter fun _ => a'.state.terminal with
    | none => l
    | some leaseId =>
      if (l.lease? leaseId).any (fun x => x.state.live) then
        l.finishProviderLease leaseId ("provider confirmed " ++
          match a'.state with
          | .released => "released"
          | .expired => "expired"
          | _ => "failed") now
      else l

/-- `_ingest_allocations`. -/
def Ledger.ingestAllocations (l : Ledger) (o : EndpointObservation) (now : Time) : Ledger :=
  let facts := o.allocations.map (AllocationFact.withNodes o)
  (l.allocations.filter fun a => a.endpointId = o.endpointId ∧ a.providerId ≠ "builtin").foldl
    (ingestAllocation facts now) l

end ServerPilot
