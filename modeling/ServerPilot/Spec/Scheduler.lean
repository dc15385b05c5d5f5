import ServerPilot.Lib.Checked
import ServerPilot.Lib.Document
import ServerPilot.Spec.Request

/-!
# The capacity of a scheduler, on its way through the broker

A server script reports what its scheduler could hand out. The collector checks the
report (`schedulerCapacity`), the broker stores it as JSON text
(`encodePluginCapacity`), and each snapshot checks the text again
(`decodePluginCapacity`) and reads the time in it (`externalDatetime`). The text of a
JSON object is told by the object.
-/

namespace ServerPilot.Scheduler

open Checked

/-- An exception, by its class and its text. -/
inductive Raised
  | collection (message : String)
  | value (message : String)
  | type (message : String)
  | attribute (message : String)
  | overflow (message : String)
  deriving DecidableEq

/-- `{key: value}`, each key once. -/
abbrev Dict := List (String × Json)

/-! ## Times -/

/-- The microseconds from the first instant `datetime` has up to its last. -/
def calendarEnd : ℤ := 3652059 * 86400 * 1000000

/-- A `datetime`: its wall time in microseconds since the first of January of the year 1, and its
UTC offset if it has one. -/
structure Datetime where
  micros : ℤ
  offset : Option ℤ
  in_calendar : 0 ≤ micros ∧ micros < calendarEnd
  offset_lt : ∀ o ∈ offset, -(86400 * 1000000) < o ∧ o < 86400 * 1000000

/-- What `datetime.fromisoformat` and `int` read of a text. No placeholder is an ISO 8601 time. -/
structure Readers where
  fromisoformat : String → Option Datetime
  int : String → Option ℤ
  placeholders : ∀ text ∈ ["", "Unknown", "N/A", "None"], fromisoformat text = none

/-- `text.replace("Z", "+00:00")`. -/
def replaceZ (text : String) : String :=
  String.ofList (text.toList.flatMap fun c => if c = 'Z' then "+00:00".toList else [c])

/-- Whether the instant of a time is on the calendar in UTC too. -/
def Datetime.InUtc (d : Datetime) : Prop :=
  ∀ o ∈ d.offset, 0 ≤ d.micros - o ∧ d.micros - o < calendarEnd

/-- `ensure_utc`. -/
def ensureUtc (d : Datetime) : Except Raised Datetime :=
  match d.offset with
  | none => .error (.value "timezone-aware datetime required")
  | some o =>
    if h : 0 ≤ d.micros - o ∧ d.micros - o < calendarEnd then
      .ok { micros := d.micros - o, offset := some 0, in_calendar := h, offset_lt := by simp }
    else .error (.overflow "date value out of range")

variable (py : Readers)

/-- `_external_datetime`, of a value that may be missing. -/
def externalDatetime (value : Option Json) : Except Raised (Option Datetime) :=
  match value with
  | none | some .null | some (.bool false) | some (.list []) | some (.object []) => .ok none
  | some (.list _) | some (.object _) => .error (.type "unhashable type")
  | some (.bool true) => .error (.attribute "replace")
  | some (.int n) => if n = 0 then .ok none else .error (.attribute "replace")
  | some (.float x) => if x = .finite 0 then .ok none else .error (.attribute "replace")
  | some (.text text) =>
    if text ∈ ["", "Unknown", "N/A", "None"] then .ok none
    else
      match py.fromisoformat (replaceZ text) with
      | none => .ok none
      | some d => if d.offset = none then .ok none else some <$> ensureUtc d

/-! ## Nodes -/

/-- `SchedulerNode`. -/
structure SchedulerNode where
  name : String
  state : String
  totalGpus : ℤ
  allocatedGpus : ℤ
  schedulable : Bool
  deriving DecidableEq

/-- The checks of `SchedulerNode`. -/
def SchedulerNode.Valid (n : SchedulerNode) : Prop :=
  (1 ≤ n.name.length ∧ n.name.length ≤ 255) ∧ (1 ≤ n.state.length ∧ n.state.length ≤ 100) ∧
    (0 ≤ n.totalGpus ∧ n.totalGpus ≤ 100000) ∧ (0 ≤ n.allocatedGpus ∧ n.allocatedGpus ≤ 100000) ∧
    n.allocatedGpus ≤ n.totalGpus

instance (n : SchedulerNode) : Decidable n.Valid := inferInstanceAs (Decidable (_ ∧ _))

def nodeKeys : List String := ["name", "state", "total_gpus", "allocated_gpus", "schedulable"]

/-- `SchedulerNode.model_validate`: strict types, no other fields. -/
def modelValidate (item : Json) : Except Raised SchedulerNode :=
  match item with
  | .object fields =>
    match fields.lookup "name", fields.lookup "state", fields.lookup "total_gpus",
        fields.lookup "allocated_gpus", fields.lookup "schedulable" with
    | some (.text name), some (.text state), some (.int totalGpus), some (.int allocatedGpus),
        some (.bool schedulable) =>
      let node := { name := name, state, totalGpus, allocatedGpus, schedulable }
      if node.Valid ∧ fields.map Prod.fst ⊆ nodeKeys then .ok node
      else .error (.value "invalid scheduler node")
    | _, _, _, _, _ => .error (.value "invalid scheduler node")
  | _ => .error (.value "invalid scheduler node")

/-- `model_dump`. -/
def SchedulerNode.modelDump (n : SchedulerNode) : Json :=
  .object [("name", .text n.name), ("state", .text n.state), ("total_gpus", .int n.totalGpus),
    ("allocated_gpus", .int n.allocatedGpus), ("schedulable", .bool n.schedulable)]

/-- `scheduler_nodes`. -/
def schedulerNodes (value : Json) : Except Raised (List SchedulerNode) :=
  match value with
  | .list items => do
    let nodes ← items.mapM modelValidate
    require (nodes.map SchedulerNode.name).Nodup
      (.value "scheduler node names must be unique within an endpoint")
    pure nodes
  | _ => .error (.value "scheduler.nodes must be a list")

/-! ## The collector's check -/

/-- A capacity, as the collector hands it on: a key it does not have is `none`. -/
structure Capacity where
  freeGpuCount : ℤ
  gpuName : String
  observedAt : Option String := none
  largestFreeBlock : Option ℤ := none
  vramMib : Option ℤ := none
  maxGpusPerLease : Option ℤ := none
  cpuCoresPerGpu : Option ℤ := none
  memoryMibPerGpu : Option ℤ := none
  nodes : Option (List SchedulerNode) := none
  note : Option String := none
  deriving DecidableEq

/-- `_mapping`. -/
def mapping (value : Json) (label : String) (keys optionalKeys : List String) :
    Except Raised Dict :=
  match value with
  | .object fields =>
    if keys ⊆ fields.map Prod.fst ∧ fields.map Prod.fst ⊆ keys ++ optionalKeys then .ok fields
    else .error (.collection ("server collector " ++ label ++ " has invalid fields"))
  | _ => .error (.collection ("server collector " ++ label ++ " must be an object"))

/-- `_integer`, of the field `key`. -/
def integer (label : String) (minimum maximum : ℤ) (value : Json) : Except Raised ℤ :=
  let refused := Raised.collection ("server collector " ++ label ++ " must be an integer in range")
  match value with
  | .int n => if minimum ≤ n ∧ n ≤ maximum then .ok n else .error refused
  | _ => .error refused

/-- `_text`. -/
def text (label : String) (maximum : ℕ) (value : Json) : Except Raised String :=
  match value with
  | .text s =>
    if s = "" ∨ maximum < s.length then
      .error (.collection ("server collector " ++ label ++ " must be a non-empty string"))
    else if s ≠ strip s ∨ s.toList.any fun c => c.toNat < 32 then
      .error (.collection
        ("server collector " ++ label ++ " contains unsafe whitespace or control characters"))
    else .ok s
  | _ => .error (.collection ("server collector " ++ label ++ " must be a non-empty string"))

/-- A field the report may leave out. -/
def optional {α : Type} (scheduler : Dict) (key : String) (read : Json → Except Raised α) :
    Except Raised (Option α) :=
  match scheduler.lookup key with
  | none => .ok none
  | some value => some <$> read value

/-- The time of a report: it stays the text it is, but must read as a time with a zone. -/
def observedAtText (value : Json) : Except Raised String :=
  let refused := Raised.collection "scheduler.observed_at must include a timezone"
  match value with
  | .text s =>
    match py.fromisoformat (replaceZ s) with
    | some d => if d.offset = none then .error refused else .ok s
    | none => .error refused
  | _ => .error refused

/-- An error of `scheduler_nodes`, as the collector hands it on. -/
def nodesField (value : Json) : Except Raised (List SchedulerNode) :=
  match schedulerNodes value with
  | .ok nodes => .ok nodes
  | .error _ => .error (.collection "invalid scheduler nodes")

/-- A text, or `null`. -/
def nullableText (label : String) (maximum : ℕ) (value : Json) : Except Raised (Option String) :=
  match value with
  | .null => .ok none
  | _ => some <$> text label maximum value

/-- `_scheduler_capacity`. -/
def schedulerCapacity (value : Json) : Except Raised (Option Capacity) :=
  match value with
  | .null => .ok none
  | _ => do
    let scheduler ← mapping value "scheduler" ["free_gpu_count", "gpu_name"]
      ["note", "largest_free_block", "vram_mib", "max_gpus_per_lease", "cpu_cores_per_gpu",
        "memory_mib_per_gpu", "nodes", "observed_at"]
    let freeGpuCount ← integer "scheduler.free_gpu_count" 0 100000
      ((scheduler.lookup "free_gpu_count").getD .null)
    let gpuName ← text "scheduler.gpu_name" 255 ((scheduler.lookup "gpu_name").getD .null)
    let note ← nullableText "scheduler.note" 200 ((scheduler.lookup "note").getD .null)
    let observedAt ← optional scheduler "observed_at" (observedAtText py)
    let largestFreeBlock ← optional scheduler "largest_free_block"
      (integer "scheduler.largest_free_block" 0 100000)
    require (∀ n ∈ largestFreeBlock, n ≤ freeGpuCount)
      (.collection "server collector scheduler.largest_free_block exceeds free_gpu_count")
    let vramMib ← optional scheduler "vram_mib" (integer "scheduler.vram_mib" 1 10000000)
    let maxGpusPerLease ← optional scheduler "max_gpus_per_lease"
      (integer "scheduler.max_gpus_per_lease" 1 100000)
    let cpuCoresPerGpu ← optional scheduler "cpu_cores_per_gpu"
      (integer "scheduler.cpu_cores_per_gpu" 1 10000)
    let memoryMibPerGpu ← optional scheduler "memory_mib_per_gpu"
      (integer "scheduler.memory_mib_per_gpu" 1 10000000)
    let nodes ← optional scheduler "nodes" nodesField
    pure (some {
      freeGpuCount := freeGpuCount, gpuName, observedAt, largestFreeBlock, vramMib
      maxGpusPerLease, cpuCoresPerGpu, memoryMibPerGpu, nodes, note })

/-! ## The store -/

/-- `plugin_capacity_json`: nothing, the text of a JSON object, or another text. -/
inductive Column
  | null
  | object (fields : Dict)
  | plain (text : String)

/-- `capacity[key]`, if it has the key. -/
def Capacity.get? (c : Capacity) (key : String) : Option Json :=
  if key = "free_gpu_count" then some (.int c.freeGpuCount)
  else if key = "gpu_name" then some (.text c.gpuName)
  else if key = "largest_free_block" then c.largestFreeBlock.map .int
  else if key = "vram_mib" then c.vramMib.map .int
  else if key = "max_gpus_per_lease" then c.maxGpusPerLease.map .int
  else if key = "cpu_cores_per_gpu" then c.cpuCoresPerGpu.map .int
  else if key = "memory_mib_per_gpu" then c.memoryMibPerGpu.map .int
  else if key = "note" then c.note.map .text
  else if key = "nodes" then c.nodes.map fun l => .list (l.map SchedulerNode.modelDump)
  else if key = "observed_at" then c.observedAt.map .text
  else none

def capacityKeys : List String :=
  ["free_gpu_count", "gpu_name", "largest_free_block", "vram_mib", "max_gpus_per_lease",
    "cpu_cores_per_gpu", "memory_mib_per_gpu", "note", "nodes", "observed_at"]

/-- `json_dump`, of an object: its keys in order. -/
def jsonDump (fields : Dict) : Column := .object (fields.mergeSort fun x y => x.1 ≤ y.1)

/-- `_encode_plugin_capacity`. -/
def encodePluginCapacity (c : Capacity) : Column :=
  jsonDump (capacityKeys.filterMap fun key => (c.get? key).map (key, ·))

/-- One step of `_validated_plugin_capacity`: `.error none` is `return None`. -/
abbrev Check := Except (Option Raised)

/-- A field that may be missing, and whose value must pass. -/
def checked {α : Type} (payload : Dict) (key : String) (read : Json → Option α) :
    Check (Option α) :=
  match payload.lookup key with
  | none => .ok none
  | some value => some <$> need (read value) none

/-- `type(value) is int` and not below `minimum`. -/
def intFrom (minimum : ℤ) (value : Json) : Option ℤ :=
  match value with
  | .int n => if minimum ≤ n then some n else none
  | _ => none

/-- A text that is not empty. -/
def someText (value : Json) : Option String :=
  match value with
  | .text s => if s = "" then none else some s
  | _ => none

/-- The time of a stored capacity. `ValueError`, `TypeError` and `AttributeError` are caught. -/
def checkObservedAt (payload : Dict) : Check (Option String) :=
  match payload.lookup "observed_at" with
  | none => .ok none
  | some value =>
    match externalDatetime py (some value), value with
    | .ok (some _), .text s => .ok (some s)
    | .ok _, _ => .error none
    | .error (.overflow message), _ => .error (some (.overflow message))
    | .error (.collection message), _ => .error (some (.collection message))
    | .error _, _ => .error none

/-- The checks of `_validated_plugin_capacity`, in order. -/
def validate (payload : Dict) : Check Capacity := do
  require (payload.map Prod.fst ⊆ capacityKeys) none
  let freeGpuCount ← need ((payload.lookup "free_gpu_count").bind (intFrom 0)) none
  let gpuName ← need ((payload.lookup "gpu_name").bind someText) none
  let observedAt ← checkObservedAt py payload
  let largestFreeBlock ← checked payload "largest_free_block" (intFrom 0)
  require (∀ n ∈ largestFreeBlock, n ≤ freeGpuCount) none
  let vramMib ← checked payload "vram_mib" (intFrom 1)
  let maxGpusPerLease ← checked payload "max_gpus_per_lease" (intFrom 1)
  let cpuCoresPerGpu ← checked payload "cpu_cores_per_gpu" (intFrom 1)
  let memoryMibPerGpu ← checked payload "memory_mib_per_gpu" (intFrom 1)
  let note ← checked payload "note" someText
  let nodes ← checked payload "nodes" fun value => (schedulerNodes value).toOption
  pure {
    freeGpuCount := freeGpuCount, gpuName, observedAt, largestFreeBlock, vramMib
    maxGpusPerLease, cpuCoresPerGpu, memoryMibPerGpu, nodes, note }

/-- `_validated_plugin_capacity`. -/
def validatedPluginCapacity (payload : Dict) : Except Raised (Option Capacity) :=
  match validate py payload with
  | .ok c => .ok (some c)
  | .error none => .ok none
  | .error (some e) => .error e

/-- The legacy text `count|name`. -/
def legacyCapacity (text : String) : Option Capacity :=
  match text.toList.span (· ≠ '|') with
  | (_, []) => none
  | (countText, _ :: name) =>
    (py.int (String.ofList countText)).bind fun count =>
      if count < 0 ∨ name = [] then none
      else some { freeGpuCount := count, gpuName := String.ofList name }

/-- `_decode_plugin_capacity`. -/
def decodePluginCapacity (value : Column) : Except Raised (Option Capacity) :=
  match value with
  | .null => .ok none
  | .object fields => validatedPluginCapacity py fields
  | .plain text => if text.toList.head? = some '{' then .ok none else .ok (legacyCapacity py text)

end ServerPilot.Scheduler
