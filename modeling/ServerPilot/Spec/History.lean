import Mathlib.Data.List.Sort
import ServerPilot.Lib.Cuts
import ServerPilot.Spec.Estimate

/-!
# The history of one endpoint

`endpoint_history` reads the samples of a window, of the host and of each present card, and
gathers them in buckets, one point each. How doubles are summed is a parameter.
-/

namespace ServerPilot

open Checked Cuts Rows

/-- A row of `endpoint_telemetry_snapshots` or `telemetry_snapshots`: its number, and the columns
it shares with the row of the latest reading. -/
structure Archived (α : Type) where
  id : ℕ
  sample : α

structure HistoryTables where
  endpointTelemetrySnapshots : List (Archived HostTelemetry) := []
  telemetrySnapshots : List (Archived TelemetryCurrent) := []

/-! ## The question -/

/-- A `max_points` that was let through. -/
structure MaxPoints where
  value : ℕ
  atLeast : 10 ≤ value
  atMost : value ≤ 120

def MaxPoints.ofInt? (n : ℤ) : Option MaxPoints :=
  if h : 10 ≤ n.toNat ∧ n.toNat ≤ 120 then some ⟨n.toNat, h.1, h.2⟩ else none

def telemetrySeconds : ℤ := 86400

def historyWindows : List ℤ := [3600, 21600, telemetrySeconds]

/-! ## Buckets -/

/-- `buckets_for`; `slice` is `values[a:b]`. -/
def bucketsFor {α : Type} (maxPoints : MaxPoints) (values : List α) : List (List α) :=
  if values.length ≤ maxPoints.value then values.map fun value => [value]
  else
    (List.range maxPoints.value).map fun index =>
      slice values (index * values.length / maxPoints.value)
        ((index + 1) * values.length / maxPoints.value)

/-- `bucket[-1]`. -/
def lastOf {α : Type} (bucket : List α) : Tx α := need bucket.getLast? (.raised "IndexError")

/-- `average`; the sum of the values is `total`. -/
def average {α : Type} (total : List ℚ → ℚ) (bucket : List α) (name : α → Option ℚ) : Option ℚ :=
  let present := bucket.filterMap name
  if present = [] then none else some (round2 (toDouble (total present / present.length)))

/-! ## Samples -/

/-- `order_by(observed_at, id)`. -/
def Archived.olderThan {α : Type} (observedAt : α → Time) (a b : Archived α) : Prop :=
  observedAt a.sample < observedAt b.sample ∨
    (observedAt a.sample = observedAt b.sample ∧ a.id ≤ b.id)

instance {α : Type} (observedAt : α → Time) : DecidableRel (Archived.olderThan observedAt) :=
  fun _ _ => inferInstanceAs (Decidable (_ ∨ _))

/-- The rows of a window, oldest first. -/
def windowed {α : Type} (observedAt : α → Time) (cutoff : Time) (rows : List (Archived α)) :
    List α :=
  ((rows.filter fun row => decide (cutoff ≤ observedAt row.sample)).insertionSort
    (Archived.olderThan observedAt)).map Archived.sample

/-- The latest reading, when it is later than what was kept. -/
def appendCurrent {α : Type} (observedAt : α → Time) (cutoff : Time) (samples : List α)
    (current : α) : List α :=
  if cutoff ≤ observedAt current ∧ ∀ s ∈ samples.getLast?, observedAt s < observedAt current then
    samples ++ [current]
  else samples

/-- The samples of the host. -/
def hostSamples (p : Plant) (tables : HistoryTables) (endpointId : String) (cutoff : Time) :
    List HostTelemetry :=
  let rows := tables.endpointTelemetrySnapshots.filter fun row =>
    row.sample.endpointId = endpointId ∧ row.sample.nodeId = "self"
  (p.host? endpointId "self").toList.foldl (appendCurrent HostTelemetry.observedAt cutoff)
    (windowed HostTelemetry.observedAt cutoff rows)

/-- `readings_by_gpu`, of one card. -/
def gpuReadings (p : Plant) (tables : HistoryTables) (gpuId : String) (cutoff : Time) :
    List TelemetryCurrent :=
  let rows := tables.telemetrySnapshots.filter fun row => row.sample.gpuId = gpuId
  (p.telemetry.filter fun t => t.gpuId = gpuId).foldl
    (appendCurrent TelemetryCurrent.observedAt cutoff)
    (windowed TelemetryCurrent.observedAt cutoff rows)

/-! ## Points -/

structure HostPoint where
  observedAt : Time
  cpuCount : Option ℚ
  load1m : Option ℚ
  cpuUtilizationPct : Option ℚ
  memoryTotalMib : Option ℚ
  memoryAvailableMib : Option ℚ
  memoryLimitMib : Option ℚ
  memoryCurrentMib : Option ℚ
  memoryUsedPct : Option ℚ
  deriving DecidableEq, Repr

/-- `_host_memory_used_pct`. -/
def HostTelemetry.memoryUsedPct (h : HostTelemetry) : Option ℚ :=
  if 0 < h.capacity.memoryTotalMib then
    some (toDouble ((h.capacity.memoryUsedMib * 100 : ℤ) / (h.capacity.memoryTotalMib : ℚ)))
  else none

def hostPoint (total : List ℚ → ℚ) (bucket : List HostTelemetry) : Tx HostPoint := do
  let newest ← lastOf bucket
  return {
    observedAt := newest.observedAt
    cpuCount := average total bucket fun h => some h.cpuCount
    load1m := average total bucket fun h => some h.load1m
    cpuUtilizationPct := average total bucket HostTelemetry.cpuUtilizationPct
    memoryTotalMib := average total bucket fun h => some h.memoryTotalMib
    memoryAvailableMib := average total bucket fun h => some h.memoryAvailableMib
    memoryLimitMib := average total bucket fun h => h.memoryLimitMib.map Int.cast
    memoryCurrentMib := average total bucket fun h => h.memoryCurrentMib.map Nat.cast
    memoryUsedPct := average total bucket HostTelemetry.memoryUsedPct }

structure GPUPoint where
  observedAt : Time
  gpuUtilizationPct : Option ℚ
  memoryUsedPct : Option ℚ
  memoryUsedMib : Option ℚ
  memoryTotalMib : ℕ
  deriving DecidableEq, Repr

def gpuPoint (total : List ℚ → ℚ) (device : GPUDevice) (bucket : List TelemetryCurrent) :
    Tx GPUPoint := do
  let newest ← lastOf bucket
  let memoryUsed := average total bucket fun t => some t.memoryUsedMib
  return {
    observedAt := newest.observedAt
    gpuUtilizationPct := average total bucket fun t => t.gpuUtilizationPct.map Nat.cast
    memoryUsedPct :=
      if device.totalVramMib = 0 then none
      else some (round2 (toDouble (toDouble (memoryUsed.getD 0 * 100) / device.totalVramMib)))
    memoryUsedMib := memoryUsed
    memoryTotalMib := device.totalVramMib }

structure GPUSeries where
  gpuId : String
  gpuUuid : String
  gpuIndex : ℕ
  label : String
  points : List GPUPoint
  deriving DecidableEq, Repr

/-- `_gpu_history_series_label`. -/
def gpuHistorySeriesLabel (gpuIndex : ℕ) (gpuUuid : String) (indexCount : ℕ) : String :=
  let label := "GPU " ++ toString gpuIndex
  if 1 < indexCount then label ++ " (" ++ gpuUuid ++ ")" else label

structure EndpointHistory where
  endpointId : String
  windowSeconds : ℤ
  pointCount : ℕ
  points : List HostPoint
  gpuSeries : List GPUSeries
  deriving DecidableEq, Repr

/-- The present cards of an endpoint, by index and name. -/
def historyDevices (p : Plant) (endpointId : String) : List GPUDevice :=
  (p.gpus.filter fun g => g.endpointId = endpointId ∧ g.present).insertionSort fun a b =>
    a.gpuIndex < b.gpuIndex ∨ (a.gpuIndex = b.gpuIndex ∧ a.id ≤ b.id)

def gpuSeries (total : List ℚ → ℚ) (maxPoints : MaxPoints)
    (sampled : List (GPUDevice × List TelemetryCurrent))
    (entry : GPUDevice × List TelemetryCurrent) : Tx GPUSeries := do
  let points ← (bucketsFor maxPoints entry.2).mapM (gpuPoint total entry.1)
  return {
    gpuId := entry.1.id
    gpuUuid := entry.1.gpuUuid
    gpuIndex := entry.1.gpuIndex
    label := gpuHistorySeriesLabel entry.1.gpuIndex entry.1.gpuUuid
      (sampled.countP fun s => s.1.gpuIndex = entry.1.gpuIndex)
    points := points }

/-- `endpoint_history`: the data of its answer. -/
def endpointHistory (total : List ℚ → ℚ) (now : Time) (p : Plant) (tables : HistoryTables)
    (endpointId : String) (windowSeconds : ℤ := 3600) (maxPoints : ℤ := 120) :
    Tx EndpointHistory := do
  require (windowSeconds ∈ historyWindows)
    (refuse "invalid_history_window" "endpoint history window must be one of 1h, 6h or 24h" 422)
  let maxPoints ← need (MaxPoints.ofInt? maxPoints)
    (refuse "invalid_history_points" "history points must be between 10 and 120" 422)
  let endpoint ← need (p.endpoint? endpointId)
    (refuse "endpoint_not_found" "endpoint is not visible or does not exist" 404)
  let cutoff := now - seconds windowSeconds
  let samples := hostSamples p tables endpointId cutoff
  let points ← (bucketsFor maxPoints samples).mapM (hostPoint total)
  let sampled := ((historyDevices p endpoint.id).map fun d =>
    (d, gpuReadings p tables d.id cutoff)).filter fun s => !s.2.isEmpty
  let series ← sampled.mapM (gpuSeries total maxPoints sampled)
  return {
    endpointId := endpoint.id
    windowSeconds := windowSeconds
    pointCount := points.length
    points := points
    gpuSeries := series }

end ServerPilot
