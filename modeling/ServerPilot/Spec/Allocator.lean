import ServerPilot.Spec.Gpu

/-!
# The allocator

Which cards a request may have (`exclusion`, `eligibleGpus`), and which of them
it gets (`selectResources`, `selectInGroupPartitions`). All of it is pure: a
claim, a resize and a reclaim plan ask the same functions.
-/

namespace ServerPilot

open Rows

/-! ## Project limits -/

/-- `_project_usage`, the GPU half, for one project. -/
def Ledger.gpuUsage (l : Ledger) (projectId : String) : ℕ :=
  let active := l.leases.filter fun x =>
    x.state.live = true ∧ x.kind = .workload ∧ x.projectId = projectId
  let held := active.map fun x =>
    let cards := (l.cards x.id).length
    let delegated := (l.allocationsOf x.id).filter fun a => a.providerId ≠ "builtin"
    cards + (delegated.map fun a =>
      -- cards counted above are not counted again as the provider's
      (a.locations.map AllocationLocation.gpuCount).sum - cards).sum
  let pending := l.allocations.filter fun a =>
    a.leaseId = none ∧ a.state.terminal = false ∧ a.request.projectId = projectId
  held.sum + (pending.map fun a => a.request.constraints.gpuCount).sum

/-- `_project_usage`, the lease half, for one project. -/
def Ledger.leaseUsage (l : Ledger) (projectId : String) : ℕ :=
  (l.leases.filter fun x =>
    x.state.live = true ∧ x.kind = .workload ∧ x.projectId = projectId).length +
  (l.allocations.filter fun a =>
    a.leaseId = none ∧ a.state.terminal = false ∧ a.request.projectId = projectId).length

/-- `_project_can_allocate`: why not, if not. -/
def Ledger.projectBlocked (l : Ledger) (project : Project) (c : ResourceConstraints) :
    Option String :=
  match project.quotaGpus.filter (fun q => q < l.gpuUsage project.id + c.gpuCount) with
  | some q => some ("project GPU quota " ++ toString q ++ " would be exceeded")
  | none =>
    match project.concurrencyLimit.filter (fun n => n ≤ l.leaseUsage project.id) with
    | some n => some ("project concurrency limit " ++ toString n ++ " is reached")
    | none => none

/-! ## Host commitments -/

/-- The commitments of live leases on one endpoint. -/
def Ledger.liveCommitments (l : Ledger) (endpointId : String) : List Commitment :=
  l.commitments.filter fun c =>
    c.endpointId = endpointId ∧ (l.lease? c.leaseId).any (fun x => x.state.live) = true

/-- `_endpoint_commitment_usage`, CPU cores. -/
def Ledger.committedCpu (l : Ledger) (endpointId : String) : ℚ :=
  ((l.liveCommitments endpointId).map Commitment.cpuCores).sum

/-- `_endpoint_commitment_usage`, memory. -/
def Ledger.committedMemory (l : Ledger) (endpointId : String) : ℕ :=
  ((l.liveCommitments endpointId).map Commitment.memoryMib).sum

/-! ## Eligible cards -/

/-- Another row of the same physical card is leased. -/
def Broker.uuidLeasedElsewhere (b : Broker) (g : GPUDevice) : Bool :=
  b.ledger.activeResources.any fun r =>
    (b.ledger.lease? r.leaseId).any (fun x => x.state.live) &&
      (b.plant.gpu? r.gpuId).any fun g' => decide (g'.gpuUuid = g.gpuUuid ∧ g'.id ≠ g.id)

/-- What host admission says of an endpoint: CPU and memory promised against its capacity. -/
def Broker.hostExclusion (b : Broker) (c : ResourceConstraints) (endpointId : String) :
    Option String :=
  match b.plant.hostCapacity endpointId with
  | none =>
    if c.cpuCores.isSome || c.memoryMib.isSome then some "host_telemetry"
    else if c.minAvailableCpuCores.isSome then some "host_telemetry"
    else if c.minAvailableMemoryMib.isSome then some "host_telemetry"
    else none
  | some cap =>
    if c.cpuCores.any (fun x => cap.cpuCores < b.ledger.committedCpu endpointId + x) then
      some "committed_cpu"
    else if c.memoryMib.any (fun x =>
        cap.memoryTotalMib < (b.ledger.committedMemory endpointId : ℤ) + x) then
      some "committed_memory"
    else if c.minAvailableCpuCores.isSome && cap.cpuAvailableCores.isNone then
      some "host_telemetry"
    else if c.minAvailableCpuCores.any (fun x => cap.cpuAvailableCores.any (· < x)) then
      some "available_cpu"
    else if c.minAvailableMemoryMib.any (fun x => cap.memoryAvailableMib < (x : ℤ)) then
      some "available_memory"
    else none

/-- The part of the filter that reads the request's lists and the two label sets. -/
def listExclusion (c : ResourceConstraints) (e : Endpoint) (g : GPUDevice) : Option String :=
  if c.gpuIds ≠ [] ∧ g.id ∉ c.gpuIds then some "gpu_allowlist"
  else if g.id ∈ c.denyGpuIds then some "gpu_denylist"
  else if ¬ ∀ x ∈ c.endpointLabels, x ∈ e.labels then some "endpoint_labels"
  else if ¬ ∀ x ∈ c.gpuLabels, x ∈ g.labels then some "gpu_labels"
  else if c.minTotalVramMib.any (fun x => g.totalVramMib < x) then some "total_vram"
  else none

/-- The part of the filter that reads the endpoint and the request's placement scope. -/
def endpointExclusion (c : ResourceConstraints) (e : Endpoint) : Option String :=
  if e.observationProfile ≠ "linux" then some "provider_managed"
  else if c.serverGroupIds ≠ [] then
    if e.serverGroupId.any (fun x => c.serverGroupIds.contains x) then
      if e.id ∈ c.denyEndpointIds then some "endpoint_denylist" else none
    else some "server_group"
  else if c.endpointIds ≠ [] ∧ e.id ∉ c.endpointIds then some "endpoint_allowlist"
  else if e.id ∈ c.denyEndpointIds then some "endpoint_denylist"
  else none

/-- The part of the filter that reads the card's own state. A keeper's card counts only for the
reclaim planner, and only while its keeper can be observed. -/
def Broker.stateExclusion (cfg : Config) (now : Time) (b : Broker) (c : ResourceConstraints)
    (includeReclaimable : Bool) (g : GPUDevice) : Option String :=
  let state := (b.gpuState cfg now g).1
  let occupying := b.ledger.activeLeaseForGpu g.id
  match occupying.filter (fun l => l.kind = .keepalive) with
  | some l =>
    if !includeReclaimable then some "keepalive"
    else if state ≠ .keepalive ∧ state ≠ .available then some state.name.toLower
    else if l.state ≠ .active ∨ (b.keepaliveGpuStatus cfg now g (some l)).1 = .error then
      some "keepalive_not_verified"
    else none
  | none =>
    if state ≠ .available then some state.name.toLower
    else if c.minFreeVramMib.any (fun x =>
        (b.plant.telemetry? g.id).any fun t => t.memoryFreeMib < x) then some "free_vram"
    else none

/-- Why `_eligible_gpus` leaves a card out, if it does. -/
def Broker.exclusion (cfg : Config) (now : Time) (b : Broker) (c : ResourceConstraints)
    (includeReclaimable : Bool) (g : GPUDevice) : Option String :=
  if !g.present then some "absent"
  else if b.uuidLeasedElsewhere g then some "uuid_leased_elsewhere"
  else if g.cudaOrdinal = none then some "cuda_selector"
  else
    match b.plant.endpoint? g.endpointId with
    | none => some "missing_endpoint"
    | some e =>
      (endpointExclusion c e).orElse fun _ =>
        (b.hostExclusion c e.id).orElse fun _ =>
          (listExclusion c e g).orElse fun _ =>
            b.stateExclusion cfg now c includeReclaimable g

/-- `order_by(GPUDevice.endpoint_id, GPUDevice.gpu_index)`. -/
def gpuOrder (a b : GPUDevice) : Prop :=
  a.endpointId < b.endpointId ∨ (a.endpointId = b.endpointId ∧ a.gpuIndex ≤ b.gpuIndex)

instance : DecidableRel gpuOrder := fun _ _ => inferInstanceAs (Decidable (_ ∨ _))

/-- `_eligible_gpus`, the candidates. -/
def Broker.eligibleGpus (cfg : Config) (now : Time) (b : Broker) (c : ResourceConstraints)
    (includeReclaimable : Bool := false) : List GPUDevice :=
  (b.plant.gpus.insertionSort gpuOrder).filter fun g =>
    b.exclusion cfg now c includeReclaimable g = none

/-- `_eligible_gpus`, the counts per exclusion reason. -/
def Broker.excludedCounts (cfg : Config) (now : Time) (b : Broker) (c : ResourceConstraints)
    (includeReclaimable : Bool := false) : List (String × ℕ) :=
  let reasons := b.plant.gpus.filterMap (b.exclusion cfg now c includeReclaimable)
  reasons.dedup.map fun x => (x, reasons.count x)

/-! ## Selection -/

/-- The candidates of each endpoint, by card index. -/
def byEndpoint (candidates : List GPUDevice) : List (String × List GPUDevice) :=
  (candidates.map GPUDevice.endpointId).dedup.map fun e =>
    (e, (candidates.filter fun g => g.endpointId = e).insertionSort
      fun a b => a.gpuIndex ≤ b.gpuIndex)

/-- Fewest eligible cards first, then endpoint id: the single host-ordering rule. -/
def bestFit (hosts : List (String × List GPUDevice)) : List (String × List GPUDevice) :=
  hosts.insertionSort fun a b =>
    a.2.length < b.2.length ∨ (a.2.length = b.2.length ∧ a.1 ≤ b.1)

/-- Largest block first, then endpoint id: what spanning consumes. -/
def largestFirst (hosts : List (String × List GPUDevice)) : List (String × List GPUDevice) :=
  hosts.insertionSort fun a b =>
    b.2.length < a.2.length ∨ (a.2.length = b.2.length ∧ a.1 ≤ b.1)

/-- One card per endpoint in rounds, until enough are taken; `fuel` bounds the rounds. -/
def spreadRounds : ℕ → List (List GPUDevice) → ℕ → List GPUDevice
  | 0, _, _ => []
  | fuel + 1, queues, need =>
    if queues = [] ∨ need = 0 then []
    else
      let heads := (queues.filterMap List.head?).take need
      heads ++ spreadRounds fuel ((queues.map List.tail).filter fun q => q ≠ [])
        (need - heads.length)

/-- `_select_resources`. -/
def selectResources (candidates : List GPUDevice) (c : ResourceConstraints) :
    Option (List GPUDevice) :=
  if candidates.length < c.gpuCount then none
  else if c.placement = .exact then
    c.gpuIds.mapM fun id => row? GPUDevice.id id candidates
  else
    let hosts := byEndpoint candidates
    match c.gpusPerNode with
    | some perNode =>
      let fitting := bestFit (hosts.filter fun h => perNode ≤ h.2.length)
      if fitting.length < c.nodes then none
      else
        let selected := (fitting.take c.nodes).flatMap fun h => h.2.take perNode
        if selected.length = c.gpuCount then some selected else none
    | none =>
      let fitting := bestFit (hosts.filter fun h => c.gpuCount ≤ h.2.length)
      if c.sameHost then fitting.head?.map fun h => h.2.take c.gpuCount
      else if c.placement = .pack then
        match fitting with
        | h :: _ => some (h.2.take c.gpuCount)
        | [] => some (((largestFirst hosts).flatMap Prod.snd).take c.gpuCount)
      else
        let queues := (hosts.insertionSort fun a b => a.1 ≤ b.1).map Prod.snd
        let selected := spreadRounds candidates.length queues c.gpuCount
        if selected.length = c.gpuCount then some selected else none

/-- The rank of a partition's selection: hosts used, then its tightest host, then its group. -/
structure PartitionScore where
  hosts : ℕ
  eligible : ℕ
  host : String
  group : String
  deriving DecidableEq, Repr

/-- Tuple order. -/
def PartitionScore.lt (a b : PartitionScore) : Bool :=
  if a.hosts ≠ b.hosts then a.hosts < b.hosts
  else if a.eligible ≠ b.eligible then a.eligible < b.eligible
  else if a.host ≠ b.host then a.host < b.host
  else a.group < b.group

/-- The score of a selection made from the cards `gpus` of one partition. -/
def partitionScore (groupId : Option String) (gpus selected : List GPUDevice) : PartitionScore :=
  let used := (selected.map GPUDevice.endpointId).dedup
  let scored := used.map fun e => ((gpus.filter fun g => g.endpointId = e).length, e)
  let first := (scored.insertionSort fun a b => a.1 < b.1 ∨ (a.1 = b.1 ∧ a.2 ≤ b.2)).head?
  { hosts := used.length, eligible := (first.map Prod.fst).getD 0
    host := (first.map Prod.snd).getD "", group := groupId.getD "" }

/-- The server group a card is scheduled under. -/
def Plant.groupOf (p : Plant) (g : GPUDevice) : Option String :=
  (p.endpoint? g.endpointId).bind Endpoint.serverGroupId

/-- The better of two scored selections, the earlier one on a tie. -/
def betterSelection (best : Option (List GPUDevice × PartitionScore))
    (next : List GPUDevice × PartitionScore) : Option (List GPUDevice × PartitionScore) :=
  match best with
  | none => some next
  | some x => if next.2.lt x.2 then some next else some x

/-- `_select_resources_in_group_partitions`: a selection inside one server group. -/
def Plant.selectInGroupPartitions (p : Plant) (candidates : List GPUDevice)
    (c : ResourceConstraints) : Option (List GPUDevice) :=
  let groups := (candidates.map p.groupOf).dedup
  let scored := groups.filterMap fun group =>
    let gpus := candidates.filter fun g => p.groupOf g = group
    (selectResources gpus c).map fun selected => (selected, partitionScore group gpus selected)
  (scored.foldl betterSelection none).map Prod.fst

end ServerPilot
