import ServerPilot.Spec.Recover

/-!
# The snapshot

What the console shows. `snapshot` loads its tables in bulk, for the endpoints it
is asked about, and derives every card's state from the maps it built: `View` is
those maps, `View.deriveState` and `View.manualRelease` what is read off them.
-/

namespace ServerPilot

open Rows

/-! ## The maps -/

/-- The rows `snapshot` loads before it derives anything. -/
structure View where
  /-- `endpoint_gpus` -/
  endpointGpus : List GPUDevice
  /-- `delegated_ids` -/
  delegatedIds : List String
  /-- `telemetry_by_gpu` -/
  telemetry : List TelemetryCurrent
  /-- `processes_by_gpu`, its values one after the other -/
  processes : List ProcessObservation
  /-- `all_leases` -/
  leases : List Lease
  /-- `resources_by_lease`, its values one after the other -/
  resources : List LeaseResource

/-- The endpoints a snapshot is asked about. -/
def Plant.visibleIds (p : Plant) (endpointId : Option String) : List String :=
  (p.endpoints.filter fun e => endpointId.all fun id => decide (e.id = id)).map Endpoint.id

/-- `order_by(Lease.issued_at.desc())`. -/
def latestFirst (leases : List Lease) : List Lease :=
  leases.insertionSort fun a b => b.issuedAt ≤ a.issuedAt

/-- `order_by(LeaseResource.gpu_id)`. -/
def byGpu (resources : List LeaseResource) : List LeaseResource :=
  resources.insertionSort fun a b => a.gpuId ≤ b.gpuId

/-- `order_by(ProcessObservation.gpu_id, ProcessObservation.pid)`. -/
def byGpuAndPid (processes : List ProcessObservation) : List ProcessObservation :=
  processes.insertionSort fun a b => a.gpuId < b.gpuId ∨ (a.gpuId = b.gpuId ∧ a.pid ≤ b.pid)

/-- The tables `snapshot` loads. -/
def Broker.view (cfg : Config) (b : Broker) (endpointId : Option String) : View :=
  let visibleIds := b.plant.visibleIds endpointId
  let endpointGpus :=
    (b.plant.gpus.filter fun g => g.endpointId ∈ visibleIds).insertionSort gpuOrder
  let gpuIds := (endpointGpus.filter GPUDevice.present).map GPUDevice.id
  let leases := latestFirst (b.ledger.leases.filter fun x => x.state.live)
  { endpointGpus
    delegatedIds := (b.plant.endpoints.filter fun e =>
      (cfg.plugin e.observationProfile).any fun x => x.capabilities.contains "apply").map
        Endpoint.id
    telemetry := b.plant.telemetry.filter fun t => t.gpuId ∈ gpuIds
    processes := byGpuAndPid (b.plant.processes.filter fun x => x.gpuId ∈ gpuIds ∧ x.active = true)
    leases
    resources := byGpu (b.ledger.resources.filter fun r => r.leaseId ∈ leases.map Lease.id) }

namespace View

variable (v : View)

/-- The cards published: the present ones. -/
def gpus : List GPUDevice := v.endpointGpus.filter GPUDevice.present

/-- `telemetry_by_gpu.get`. -/
def telemetryByGpu (gpuId : String) : Option TelemetryCurrent :=
  row? TelemetryCurrent.gpuId gpuId v.telemetry

/-- `processes_by_gpu[gpu_id]`. -/
def processesByGpu (gpuId : String) : List ProcessObservation :=
  v.processes.filter fun x => x.gpuId = gpuId

/-- `resources_by_lease[lease_id]`. -/
def resourcesByLease (leaseId : String) : List LeaseResource :=
  v.resources.filter fun r => r.leaseId = leaseId

/-- `lease_by_gpu.get`: of several active rows of one card the last stands. -/
def leaseByGpu (gpuId : String) : Option Lease :=
  (v.resources.reverse.find? fun r => r.active && decide (r.gpuId = gpuId)).bind fun r =>
    row? Lease.id r.leaseId v.leases

end View

/-! ## Cards -/

section

variable (cfg : Config) (now : Time) (b : Broker) (v : View)

/-- `derive_state` of a card with a fresh, healthy reading and this lease on it. -/
def Broker.deriveHeldState (g : GPUDevice) (lease : Option Lease) : GpuState × Option String :=
  let processes := v.processesByGpu g.id
  match lease with
  | none =>
    if processes ≠ [] then
      (.busyUnmanaged, some "compute process observed; admission blocked")
    else if g.endpointId ∈ v.delegatedIds then
      (.schedulerManaged, some "resource admission is owned by the provider")
    else (.available, none)
  | some l =>
    if l.kind ≠ .workload ∧ l.state = .conflict then
      (.conflict, some "lease/process attribution conflict")
    else if l.state = .orphanedBusy then
      (.orphanedBusy, some "lease expired while a compute process remains")
    else if l.kind = .keepalive then
      match b.keepaliveGpuStatus cfg now g (some l) with
      | (.on, _) => (.keepalive, some "occupancy is active")
      | (.off, reason) => if processes = [] then (.available, none) else (.conflict, reason)
      | (.error, reason) => (.conflict, reason)
    else if processes ≠ [] then
      (.runningManaged, some "compute process observed on assigned GPU")
    else (if l.state = .held then .held else .leasedIdle, some "exclusive lease active")

/-- `derive_state`. -/
def Broker.deriveState (g : GPUDevice) : GpuState × Option String :=
  match b.plant.nodeObservationError g with
  | some e => (.unknownStale, some e)
  | none =>
    if !g.present then
      (.unknownStale, some "GPU absent from latest complete endpoint observation")
    else
      match v.telemetryByGpu g.id with
      | none => (.unknownRecovering, some "no fresh telemetry after service start")
      | some t =>
        if cfg.staleAfter < now - t.observedAt then
          (.unknownStale,
            some ("telemetry age " ++ tenths (now - t.observedAt) ++ "s exceeds stale threshold"))
        else if !healthy t.health || !healthy g.health then (.unhealthy, some t.health)
        else b.deriveHeldState cfg now v g (v.leaseByGpu g.id)

/-- `_gpu_payload_is_publicly_available`, of the payload `snapshot` builds for a card. -/
def Broker.publiclyAvailable (g : GPUDevice) : Bool :=
  decide (g.endpointId ∉ v.delegatedIds) &&
    decide ((b.deriveState cfg now v g).1 = .available ∨
      (b.deriveState cfg now v g).1 = .keepalive)

/-! ## Leases -/

/-- `lease_endpoints_unreachable`: every server the view knows the lease's cards on. -/
def Broker.leaseEndpointsUnreachable (resources : List LeaseResource) : Bool :=
  let owners := (resources.filter LeaseResource.active).filterMap fun r =>
    (row? GPUDevice.id r.gpuId v.endpointGpus).map GPUDevice.endpointId
  !owners.isEmpty && owners.all (b.plant.endpointUnreachable cfg now)

end

/-- `_manual_release_verdict` for rows `resources`, with the processes each card is known to run. -/
def Broker.verdictOn (cfg : Config) (now : Time) (b : Broker) (processes : String → ℕ)
    (lease : Lease) (resources : List LeaseResource) (endpointUnreachable : Bool) : Verdict :=
  let active := resources.filter LeaseResource.active
  let allocated := (b.ledger.allocationsOf lease.id).filter fun a =>
    a.releaseGranularity = "allocation"
  let busy := if endpointUnreachable then none
    else active.find? fun r => processes r.gpuId ≠ 0
  if lease.state.live = false then
    { allowed := false, blockedReason := some "empty_workload_lease_required"
      message := some "只有仍持有 GPU 的工作租约或占卡租约可以在这里清理。"
      details := [("lease_kind", .text lease.kind.name), ("lease_state", .text lease.state.name)] }
  else if allocated ≠ [] then allocationVerdict cfg now lease allocated
  else if active = [] then
    { allowed := false, blockedReason := some "lease_has_no_resources"
      message := some "这个租约已经没有持有中的 GPU。" }
  else
    match busy with
    | some r =>
      { allowed := false, blockedReason := some "conflict_process_present"
        message := some "仍观察到运行中的进程，不能释放这张 GPU 的占用。"
        details := [("gpu_id", .text r.gpuId), ("process_count", .number (processes r.gpuId))] }
    | none =>
      if lease.kind = .keepalive ∨ endpointUnreachable = true then { allowed := true }
      else
        let age := b.plant.livenessAge lease (active.map LeaseResource.gpuId) now
        if age < seconds cfg.idleLeaseAlertSeconds then recentlyAlive cfg age
        else { allowed := true }

/-- `payload["manual_release"]` of a lease. -/
def Broker.manualRelease (cfg : Config) (now : Time) (b : Broker) (v : View) (lease : Lease) :
    Verdict :=
  let resources := v.resourcesByLease lease.id
  b.verdictOn cfg now (fun gpuId => (v.processesByGpu gpuId).length) lease resources
    (b.leaseEndpointsUnreachable cfg now v resources)

/-- The leases of `visible_lease_payloads`. -/
def Broker.publishedLeases (b : Broker) (v : View) (visibleIds : List String) : List Lease :=
  v.leases.filter fun x => x.kind = .workload ∧
    ((v.resourcesByLease x.id).any (fun r =>
        r.active && decide (r.gpuId ∈ v.endpointGpus.map GPUDevice.id)) = true ∨
      (b.ledger.allocationsOf x.id).any (fun a =>
        decide (a.endpointId ∈ visibleIds ∧ a.providerId ≠ "builtin")) = true)

end ServerPilot
