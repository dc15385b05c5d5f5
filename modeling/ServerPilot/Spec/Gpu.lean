import ServerPilot.Spec.Host

/-!
# The state of one card

`gpuState` is the single derivation every admission decision reads: what an
observation says of a card, who holds it, and what its keepalive worker does.
-/

namespace ServerPilot

open Rows

inductive GpuState
  | unknownStale | unknownRecovering | unhealthy | conflict | orphanedBusy | keepalive | available
  | runningManaged | busyUnmanaged | held | leasedIdle | schedulerManaged
  deriving DecidableEq, Repr

/-- The state's public name. -/
def GpuState.name : GpuState → String
  | unknownStale => "UNKNOWN_STALE"
  | unknownRecovering => "UNKNOWN_RECOVERING"
  | unhealthy => "UNHEALTHY"
  | conflict => "CONFLICT"
  | orphanedBusy => "ORPHANED_BUSY"
  | keepalive => "KEEPALIVE"
  | available => "AVAILABLE"
  | runningManaged => "RUNNING_MANAGED"
  | busyUnmanaged => "BUSY_UNMANAGED"
  | held => "HELD"
  | leasedIdle => "LEASED_IDLE"
  | schedulerManaged => "SCHEDULER_MANAGED"

/-- `f"{age:.1f}"` of a positive span. -/
def tenths (age : Time) : String :=
  let q := age / 100000
  let r := age % 100000
  let n := if r < 50000 then q else if 50000 < r then q + 1 else if q % 2 = 0 then q else q + 1
  toString (n / 10) ++ "." ++ toString (n % 10)

/-- A health report the allocator accepts. -/
def healthy (health : String) : Bool :=
  health.toUpper == "OK" || health.toUpper == "HEALTHY"

/-- `_active_lease_for_gpu`: the latest lease with an active row on this card. -/
def Ledger.activeLeaseForGpu (l : Ledger) (gpuId : String) : Option Lease :=
  latest Lease.issuedAt ((l.activeResources.filter fun r => r.gpuId = gpuId).filterMap fun r =>
    l.lease? r.leaseId)

/-- `_node_observation_error`. -/
def Plant.nodeObservationError (p : Plant) (g : GPUDevice) : Option String :=
  (p.nodeState? g.endpointId g.nodeId).bind fun s =>
    s.errorCode.bind fun code =>
      if code = "" then none
      else some (match s.message with
        | some m => if m = "" then code else m
        | none => code)

/-- `_keepalive_gpu_status`: freshness first, then the ownership record, then the worker. -/
def Broker.keepaliveGpuStatus (cfg : Config) (now : Time) (b : Broker) (g : GPUDevice)
    (lease : Option Lease) : KeepaliveActual × Option String :=
  let fresh := (b.plant.telemetry? g.id).any fun t => decide (now - cfg.staleAfter ≤ t.observedAt)
  if !g.present || !fresh then (.error, some "采集数据已过期，无法确认占卡进程是否还在运行")
  else
    let current := b.plant.keepalive? g.id
    match lease.filter (fun l => l.kind = .keepalive) with
    | none =>
      match current with
      | some c => (c.actual, c.errorReason)
      | none => (.off, none)
    | some l =>
      if (b.ledger.cards l.id).map LeaseResource.gpuId ≠ [g.id] then
        (.error, some "占卡记录没有准确对应这一张 GPU")
      else if l.state ≠ .active then (.error, some "占卡记录未处于可用状态")
      else
        match current with
        | some c => (c.actual, c.errorReason)
        | none =>
          if b.plant.currentProcesses g.id ≠ [] then (.error, some "占卡进程身份尚未建立")
          else (.off, none)

/-- The endpoint's profile hands admission to a plugin. -/
def Plant.schedulerManaged (cfg : Config) (p : Plant) (endpointId : String) : Bool :=
  (p.endpoint? endpointId).any fun e =>
    (cfg.plugin e.observationProfile).any fun x => x.capabilities.contains "apply"

/-- `_gpu_state` of a card with a fresh, healthy reading and this lease on it. -/
def Broker.heldGpuState (cfg : Config) (now : Time) (b : Broker) (g : GPUDevice)
    (lease : Option Lease) : GpuState × Option String :=
  let processes := b.plant.currentProcesses g.id
  match lease with
  | none =>
    if processes ≠ [] then
      (.busyUnmanaged, some "compute process observed; admission blocked")
    else if b.plant.schedulerManaged cfg g.endpointId then
      (.schedulerManaged, some "resource admission is owned by the provider")
    else (.available, none)
  | some l =>
    if l.kind ≠ .workload ∧ l.state = .conflict then
      (.conflict, some "lease/process attribution conflict")
    else if l.state = .orphanedBusy then
      (.orphanedBusy, some "lease expired while a compute process remains")
    else if l.kind = .keepalive then
      match b.keepaliveGpuStatus cfg now g (some l) with
      | (.on, _) => (.keepalive, some "per-GPU keepalive is active")
      | (.off, reason) => if processes = [] then (.available, none) else (.conflict, reason)
      | (.error, reason) => (.conflict, reason)
    else if processes ≠ [] then
      (.runningManaged, some "compute process observed on assigned GPU")
    else (if l.state = .held then .held else .leasedIdle, some "exclusive lease active")

/-- `_gpu_state`. -/
def Broker.gpuState (cfg : Config) (now : Time) (b : Broker) (g : GPUDevice) :
    GpuState × Option String :=
  match b.plant.nodeObservationError g with
  | some e => (.unknownStale, some e)
  | none =>
    if !g.present then
      (.unknownStale, some "GPU absent from latest complete endpoint observation")
    else
      match b.plant.telemetry? g.id with
      | none => (.unknownRecovering, some "no fresh telemetry after service start")
      | some t =>
        if cfg.staleAfter < now - t.observedAt then
          (.unknownStale,
            some ("telemetry age " ++ tenths (now - t.observedAt) ++ "s exceeds stale threshold"))
        else if !healthy t.health || !healthy g.health then (.unhealthy, some t.health)
        else b.heldGpuState cfg now g (b.ledger.activeLeaseForGpu g.id)

end ServerPilot
