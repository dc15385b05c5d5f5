import Mathlib.Data.Rat.Floor
import ServerPilot.Spec.Ledger

/-!
# Reading the machines

How old an observation is, what a host can carry, which processes a card runs,
and the absence clock that retires a process. Everything here reads or writes
the plant alone.
-/

namespace ServerPilot

open Rows

/-! ## Freshness -/

/-- `Freshness.fresh`: observed, and no longer ago than the staleness limit. -/
def ProviderState.fresh (cfg : Config) (now : Time) (s : ProviderState) : Bool :=
  s.lastSuccessAt.any fun at_ => decide (now - at_ ≤ cfg.staleAfter)

/-- `Freshness.unreachable`: the last attempt failed and what is known has gone stale. -/
def ProviderState.unreachable (cfg : Config) (now : Time) (s : ProviderState) : Bool :=
  s.lastErrorCode.isSome && !s.fresh cfg now

/-- `_endpoint_is_unreachable`. -/
def Plant.endpointUnreachable (cfg : Config) (now : Time) (p : Plant) (endpointId : String) :
    Bool :=
  (p.providerState? endpointId).any (ProviderState.unreachable cfg now)

/-! ## Host capacity -/

/-- `round(x, 2)`: to the nearest hundredth, ties to the even one. -/
def round2 (x : ℚ) : ℚ :=
  let y := x * 100
  let f := ⌊y⌋
  let d := y - f
  let n := if d < 1 / 2 then f else if 1 / 2 < d then f + 1 else if f % 2 = 0 then f else f + 1
  (n : ℚ) / 100

structure HostCapacity where
  cpuCores : ℚ
  cpuAvailableCores : Option ℚ
  memoryTotalMib : ℤ
  memoryUsedMib : ℤ
  memoryAvailableMib : ℤ
  deriving DecidableEq, Repr

/-- The cgroup CPU share in force, where there is one. -/
def HostTelemetry.cgroupCpu (h : HostTelemetry) : Option ℚ :=
  match h.cpuQuotaUsec, h.cpuPeriodUsec with
  | some quota, some period =>
    if 0 < quota ∧ 0 < period then some (round2 ((quota : ℚ) / period)) else none
  | _, _ => none

/-- `_host_capacity`: the cgroup budget, or the whole machine where no limit is in force. -/
def HostTelemetry.capacity (h : HostTelemetry) : HostCapacity :=
  let cpuCores := h.cgroupCpu.getD h.cpuCount
  let available :=
    match h.cpuUtilizationPct with
    | some used => some (round2 (max (cpuCores * (1 - used / 100)) 0))
    | none =>
      -- the load average is machine-wide, so it says nothing of a container's share
      if h.cgroupCpu.isSome then none else some (round2 (max (cpuCores - h.load1m) 0))
  let memory : ℤ × ℤ :=
    match h.memoryLimitMib, h.memoryCurrentMib with
    | some limit, some current =>
      if 0 < limit then (limit, min current limit)
      else (h.memoryTotalMib, max ((h.memoryTotalMib : ℤ) - h.memoryAvailableMib) 0)
    | _, _ => (h.memoryTotalMib, max ((h.memoryTotalMib : ℤ) - h.memoryAvailableMib) 0)
  { cpuCores, cpuAvailableCores := available, memoryTotalMib := memory.1
    memoryUsedMib := memory.2, memoryAvailableMib := memory.1 - memory.2 }

/-- The host capacity the allocator admits against, if the host was ever observed. -/
def Plant.hostCapacity (p : Plant) (endpointId : String) : Option HostCapacity :=
  (p.host? endpointId "self").map HostTelemetry.capacity

/-- `_host_cpu_utilization_pct`: utilization between two successive readings. -/
def hostCpuUtilizationPct (previous : Option HostTelemetry) (observedAt : Time) (cpuCount : ℕ)
    (cpuTotalTicks cpuIdleTicks cpuUsageUsec : Option ℕ) (cpuQuotaUsec cpuPeriodUsec : Option ℤ) :
    Option ℚ :=
  match previous with
  | none => none
  | some prev =>
    match cpuQuotaUsec, cpuTotalTicks, cpuIdleTicks, prev.cpuTotalTicks, prev.cpuIdleTicks with
    | none, some total', some idle', some total₀, some idle₀ =>
      let total := (total' : ℤ) - total₀
      let idle := (idle' : ℤ) - idle₀
      if 0 < total ∧ 0 ≤ idle ∧ idle ≤ total then
        some (round2 (100 * ((total - idle : ℤ) : ℚ) / (total : ℚ)))
      else none
    | _, _, _, _, _ =>
      match prev.cpuUsageUsec, cpuUsageUsec with
      | some before, some usage =>
        let elapsed := observedAt - prev.observedAt
        let delta := (usage : ℤ) - before
        if elapsed ≤ 0 ∨ delta < 0 then none
        else
          let quotaCores : Option ℚ :=
            match cpuQuotaUsec with
            | none => some cpuCount
            | some quota => cpuPeriodUsec.bind fun period =>
                if 0 < period then some ((quota : ℚ) / period) else none
          quotaCores.bind fun cores =>
            -- both spans are microseconds
            if 0 < cores then some (round2 ((delta : ℚ) / (elapsed : ℚ) / cores * 100)) else none
      | _, _ => none

/-! ## Processes -/

/-- `_current_processes`. -/
def Plant.currentProcesses (p : Plant) (gpuId : String) : List ProcessObservation :=
  p.processes.filter fun x => x.gpuId = gpuId ∧ x.active = true

/-- A whole-second timestamp, as `int(started.timestamp())`. -/
def timestamp (t : Time) : ℤ := t.tdiv 1000000

/-- The printed identity of a process on a card. -/
def processKeyOf (gpuId : String) (pid : ℕ) (bootId : String) (startedAt : Time) : String :=
  gpuId ++ ":" ++ toString pid ++ ":" ++ bootId ++ ":" ++ toString (timestamp startedAt)

/-- `_process_key`. -/
def ProcessObservation.key (x : ProcessObservation) : String :=
  processKeyOf x.gpuId x.pid x.bootId x.processStartedAt

/-- One card was read within the staleness limit, and is still on its machine. -/
def Plant.cardFresh (cfg : Config) (now : Time) (p : Plant) (gpuId : String) : Bool :=
  (p.gpu? gpuId).any (fun g => g.present) &&
    (p.telemetry? gpuId).any fun t => decide (now - cfg.staleAfter ≤ t.observedAt)

/-- `_resources_have_fresh_telemetry`. -/
def Plant.resourcesHaveFreshTelemetry (cfg : Config) (now : Time) (p : Plant)
    (resources : List LeaseResource) : Bool :=
  resources.all fun r => p.cardFresh cfg now r.gpuId

/-- The GPU ids of one node. -/
def Plant.nodeGpuIds (p : Plant) (nodeId : String) : List String :=
  (p.gpus.filter fun g => g.nodeId = nodeId).map GPUDevice.id

/-- An active process of this endpoint and node: what the absence clock is about. -/
def Plant.onNode (p : Plant) (endpointId nodeId : String) (x : ProcessObservation) : Bool :=
  decide (x.endpointId = endpointId ∧ x.active = true) && (p.nodeGpuIds nodeId).contains x.gpuId

/-- What one complete observation does to an active process of its node: a process it left out
starts its absence, or, once the grace has run, is retired. -/
def ProcessObservation.advance (cfg : Config) (now : Time) (x : ProcessObservation) :
    ProcessObservation :=
  match x.absentSince with
  | none => if x.lastSeenAt < now then { x with absentSince := some now } else x
  | some since =>
    if cfg.absenceGrace ≤ now - since then { x with active := false, absentSince := none } else x

/-- `_advance_process_absence`: an incomplete look clears the clock of every active process. -/
def Plant.advanceProcessAbsence (cfg : Config) (p : Plant) (endpointId nodeId : String)
    (complete : Bool) (now : Time) : Plant :=
  { p with
    processes := updWhere (p.onNode endpointId nodeId)
      (fun x => if complete then x.advance cfg now else { x with absentSince := none })
      p.processes }

end ServerPilot
