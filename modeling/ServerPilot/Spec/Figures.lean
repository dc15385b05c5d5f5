import ServerPilot.Spec.Ingest

/-!
# What a holder is shown

A snapshot shows the holder of a card two figures drawn from what was observed on
it: the average of its recent readings (`lease_recent_average`) and the last time a
process was seen (`last_process_observed_at`). `Watch` is the tables these are drawn
from, with every column they read. What the broker's operations make of the ledger
is an act of its own, with no condition on it.
-/

namespace ServerPilot

open Rows

/-! ## Tables -/

/-- A row of `TelemetrySnapshot` or of `TelemetryCurrent`. -/
structure TelemetrySample where
  gpuId : String
  observedAt : Time
  memoryUsedMib : ℕ
  memoryFreeMib : ℕ
  gpuUtilizationPct : Option ℕ := none
  memoryUtilizationPct : Option ℕ := none
  temperatureC : Option ℤ := none
  deriving DecidableEq, Repr

/-- `TelemetryInput`, with the columns the averages read besides. -/
structure CardSample extends TelemetryInput where
  memoryUtilizationPct : Option ℕ := none
  temperatureC : Option ℤ := none
  deriving DecidableEq, Repr

/-- A node's observation: its cards and the processes on them. -/
structure NodeReport where
  nodeId : String := "self"
  observedAt : Time
  bootId : String
  cards : List CardSample
  processes : List ProcessInput := []
  observationComplete : Bool := true
  deriving DecidableEq, Repr

structure Watch where
  /-- The devices and the process rows. -/
  plant : Plant := {}
  /-- `EndpointTelemetryCurrent.observed_at`, of a node. -/
  hostObservedAt : String → String → Option Time := fun _ _ => none
  /-- `TelemetrySnapshot`, by id. -/
  history : List TelemetrySample := []
  /-- `TelemetryCurrent`. -/
  current : List TelemetrySample := []
  ledger : Ledger := {}

/-- `TELEMETRY_HISTORY_INTERVAL_SECONDS`. -/
def telemetryHistoryInterval : Time := seconds 60

/-- `TELEMETRY_RECENT_AVERAGE_WINDOW_SECONDS`. -/
def telemetryRecentAverageWindow : Time := seconds (10 * 60)

namespace Watch

/-! ## Observing -/

/-- The row of a sampled card. -/
def row (endpointId : String) (o : NodeReport) (s : CardSample) : TelemetrySample :=
  { gpuId := gpuIdOf endpointId o.nodeId s.gpuUuid, observedAt := o.observedAt
    memoryUsedMib := s.memoryUsedMib, memoryFreeMib := s.memoryFreeMib
    gpuUtilizationPct := s.gpuUtilizationPct, memoryUtilizationPct := s.memoryUtilizationPct
    temperatureC := s.temperatureC }

/-- A history point is due: there is none of the card, or none of the last minute. -/
def due (history : List TelemetrySample) (s : TelemetrySample) : Bool :=
  ((history.filter fun h => h.gpuId = s.gpuId).map TelemetrySample.observedAt).max?.all fun last =>
    decide (telemetryHistoryInterval ≤ s.observedAt - last)

/-- The current reading of a card, replaced. -/
def replace (current : List TelemetrySample) (s : TelemetrySample) : List TelemetrySample :=
  (current.filter fun t => t.gpuId ≠ s.gpuId) ++ [s]

/-- One reported process. -/
def sight (endpointId : String) (o : NodeReport) (now : Time) (p : Plant) (x : ProcessInput) :
    Plant :=
  p.sight endpointId o.nodeId o.bootId (o.cards.map fun s => s.gpuUuid) now x

/-- `_ingest_node_observation`, of these tables. -/
def observe (cfg : Config) (endpointId : String) (now : Time) (o : NodeReport) (w : Watch) :
    Watch :=
  if (w.hostObservedAt endpointId o.nodeId).any fun t => decide (o.observedAt < t) then w
  else
    let rows := o.cards.map (row endpointId o)
    let seen := o.cards.foldl
      (fun p s => p.seeGpu endpointId o.nodeId o.observedAt s.toTelemetryInput) w.plant
    let sighted := o.processes.foldl (sight endpointId o now) seen
    { w with
      plant := sighted.advanceProcessAbsence cfg endpointId o.nodeId o.observationComplete now
      hostObservedAt := fun e n =>
        if e = endpointId ∧ n = o.nodeId then some o.observedAt else w.hostObservedAt e n
      history := w.history ++ rows.filter (due w.history)
      current := rows.foldl replace w.current }

/-- A node that could not be observed. -/
def fail (cfg : Config) (endpointId nodeId : String) (now : Time) (w : Watch) : Watch :=
  { w with plant := w.plant.advanceProcessAbsence cfg endpointId nodeId false now }

/-- `prune_expired`, of these tables. -/
def prune (now : Time) (w : Watch) : Watch :=
  { w with
    plant := { w.plant with
      processes := w.plant.processes.filter fun q => ¬ q.lastSeenAt < now - seconds (7 * 86400) }
    history := w.history.filter fun s => ¬ s.observedAt < now - seconds 86400 }

/-! ## The figures -/

/-- `lease_by_gpu`: the live lease with an active row on the card. -/
def leaseByGpu (w : Watch) (gpuId : String) : Option Lease :=
  ((w.ledger.activeResources.filter fun r => r.gpuId = gpuId).filterMap fun r =>
    (w.ledger.lease? r.leaseId).filter fun x => x.state.live = true).getLast?

/-- `recent_telemetry_samples_by_gpu`: the window of the history, and the current reading when
it is newer. -/
def recentSamples (w : Watch) (now : Time) (gpuId : String) : List TelemetrySample :=
  let cutoff := now - telemetryRecentAverageWindow
  let samples := w.history.filter fun s => s.gpuId = gpuId ∧ cutoff ≤ s.observedAt
  let last := (samples.map TelemetrySample.observedAt).max?
  samples ++ w.current.filter fun s =>
    s.gpuId = gpuId ∧ cutoff ≤ s.observedAt ∧ ∀ t ∈ last, t < s.observedAt

/-- What `_recent_telemetry_average` answers, its averages before rounding. -/
structure RecentAverage where
  sampleCount : ℕ
  firstObservedAt : Option Time
  lastObservedAt : Option Time
  memoryUsedMib : Option ℚ
  memoryFreeMib : Option ℚ
  memoryUsedPct : Option ℚ
  gpuUtilizationPct : Option ℚ
  memoryUtilizationPct : Option ℚ
  temperatureC : Option ℚ
  deriving DecidableEq, Repr

/-- `average`: of the values there are. -/
def average (values : List (Option ℚ)) : Option ℚ :=
  let present := values.filterMap id
  if present = [] then none else some (present.sum / present.length)

/-- `_recent_telemetry_average`; the samples are those by time, `samples[0]` the earliest. -/
def recentTelemetryAverage (totalVramMib : ℕ) (samples : List TelemetrySample) :
    Option RecentAverage :=
  if samples = [] then none
  else
    let used := average (samples.map fun s => some (s.memoryUsedMib : ℚ))
    some {
      sampleCount := samples.length
      firstObservedAt := (samples.map TelemetrySample.observedAt).min?
      lastObservedAt := (samples.map TelemetrySample.observedAt).max?
      memoryUsedMib := used
      memoryFreeMib := average (samples.map fun s => some (s.memoryFreeMib : ℚ))
      memoryUsedPct := if 0 < totalVramMib then used.map fun u => u * 100 / totalVramMib else none
      gpuUtilizationPct := average (samples.map fun s => s.gpuUtilizationPct.map Nat.cast)
      memoryUtilizationPct := average (samples.map fun s => s.memoryUtilizationPct.map Nat.cast)
      temperatureC := average (samples.map fun s => s.temperatureC.map Int.cast) }

/-- `gpu.total_vram_mib`. -/
def totalVram (w : Watch) (gpuId : String) : ℕ :=
  ((w.plant.gpu? gpuId).map GPUDevice.totalVramMib).getD 0

/-- `lease_recent_average`: only of a card with a reading, that a claim holds. -/
def leaseRecentAverage (w : Watch) (now : Time) (gpuId : String) : Option (Option RecentAverage) :=
  if gpuId ∈ (w.current ++ w.history).map TelemetrySample.gpuId then
    ((w.leaseByGpu gpuId).filter fun x => x.kind = .workload).map fun x =>
      recentTelemetryAverage (w.totalVram gpuId)
        ((w.recentSamples now gpuId).filter fun s => x.issuedAt ≤ s.observedAt)
  else none

/-- `last_process_by_lease`: of the processes first seen since the lease was issued. -/
def lastProcessObservedAt (w : Watch) (leaseId : String) : Option Time :=
  ((w.plant.processes.filter fun q => (w.leaseByGpu q.gpuId).any fun x =>
    decide (x.id = leaseId ∧ x.issuedAt ≤ q.firstSeenAt)).map
      ProcessObservation.lastSeenAt).max?

end Watch

/-! ## Acts -/

inductive WatchAct
  | observe (endpointId : String) (now : Time) (o : NodeReport)
  | fail (endpointId nodeId : String) (now : Time)
  | prune (now : Time)
  /-- What the broker's operations made of the ledger. -/
  | commit (ledger : Ledger)
  deriving DecidableEq, Repr

def Watch.step (cfg : Config) (w : Watch) : WatchAct → Watch
  | .observe endpointId now o => w.observe cfg endpointId now o
  | .fail endpointId nodeId now => w.fail cfg endpointId nodeId now
  | .prune now => w.prune now
  | .commit ledger => { w with ledger }

end ServerPilot
