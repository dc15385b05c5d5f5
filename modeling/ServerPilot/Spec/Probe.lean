import ServerPilot.Lib.Ranking
import ServerPilot.Spec.Scheduler

/-!
# What a server script prints

A snapshot is one JSON document with the raw probe output of every node. The
collector decodes the document and reads each node with the parser of its own probe
(`parseRawNodeProbe`); a node that cannot be read becomes a failure of that node, and
whatever else goes wrong is raised as a `CollectionError`. Only two classes of errors
are caught around a node, three around the snapshot.

The texts of validation errors are left out.
-/

namespace ServerPilot.Collector

open Checked Scheduler

/-- An exception: one of the classes the scheduler's part raises too, a `csv.Error`, or the
`RecursionError` of a document nested too deeply. -/
inductive Thrown
  | raised (e : Raised)
  | csv (message : String)
  | recursion
  deriving DecidableEq

abbrev Thrown.collection (message : String) : Thrown := .raised (.collection message)

abbrev Thrown.value (message : String) : Thrown := .raised (.value message)

/-- `except (ValueError, CollectionError)`. -/
def Thrown.caught : Thrown → Bool
  | .raised (.collection _) | .raised (.value _) => true
  | _ => false

/-- `str(exc)`. -/
def Thrown.text : Thrown → String
  | .raised (.collection m) | .raised (.value m) | .raised (.type m) | .raised (.attribute m)
  | .raised (.overflow m) | .csv m => m
  | .recursion => "maximum recursion depth exceeded"

/-- An error of the scheduler's part. -/
def lifted {α : Type} (x : Except Raised α) : Except Thrown α := x.mapError .raised

/-- What the standard library and the schemas of allocations make of a text or a document:
`json.loads` with its two hooks, `float`, `datetime.strptime` with the format of `ps`, the readers
of the scheduler's part, and the check of a list of allocations. -/
structure Library where
  loads : (List (String × Json) → Except Thrown Json) → (String → Except Thrown Json) → String →
    Except Thrown Json
  float : String → Option Double
  strptime : String → Option ℤ
  readers : Readers
  allocations : Json → Bool

/-! ## Text -/

/-- The characters `str.splitlines` breaks at. -/
def isLineBreak (c : Char) : Bool :=
  let n := c.toNat
  (0x0a ≤ n && n ≤ 0x0d) || (0x1c ≤ n && n ≤ 0x1e) || n == 0x85 || n == 0x2028 || n == 0x2029

/-- `str.splitlines`, after the characters `line` of a line, last one first. -/
def splitlinesFrom (line : List Char) : List Char → List String
  | [] => if line = [] then [] else [String.ofList line.reverse]
  | '\r' :: '\n' :: rest => String.ofList line.reverse :: splitlinesFrom [] rest
  | c :: rest =>
    if isLineBreak c then String.ofList line.reverse :: splitlinesFrom [] rest
    else splitlinesFrom (c :: line) rest

def splitlines (s : String) : List String := splitlinesFrom [] s.toList

/-- `str.split`, at most `n` times. -/
def splitAtMost : ℕ → List Char → List String
  | 0, s =>
    let s := s.dropWhile isSpace
    if s = [] then [] else [String.ofList s]
  | n + 1, s =>
    let s := s.dropWhile isSpace
    if s = [] then []
    else String.ofList (s.takeWhile fun c => !isSpace c) ::
      splitAtMost n (s.dropWhile fun c => !isSpace c)

/-- `str.split`. -/
def split (s : String) : List String := splitAtMost s.length s.toList

/-- `str.split(sep, maxsplit=1)`, into two parts. -/
def splitOnce (sep : List Char) : List Char → Option (List Char × List Char)
  | [] => if sep = [] then some ([], []) else none
  | c :: s =>
    if sep.isPrefixOf (c :: s) then some ([], (c :: s).drop sep.length)
    else (splitOnce sep s).map fun x => (c :: x.1, x.2)

/-- `str.replace(part, "")`, with `skip` characters of a part still to leave out. -/
def withoutFrom (part : List Char) : ℕ → List Char → List Char
  | _, [] => []
  | skip + 1, _ :: s => withoutFrom part skip s
  | 0, c :: s =>
    if part ≠ [] ∧ part.isPrefixOf (c :: s) = true then withoutFrom part (part.length - 1) s
    else c :: withoutFrom part 0 s

def without (part s : String) : String := String.ofList (withoutFrom part.toList 0 s.toList)

/-! ## CSV -/

/-- The states of `csv.reader` within a record. -/
inductive CsvState
  | startRecord | startField | inField | inQuotedField | quoteInQuotedField
  deriving DecidableEq

/-- A record being read: the characters of its field and the fields before, last ones first. -/
structure CsvRecord where
  state : CsvState := .startRecord
  field : List Char := []
  fields : List String := []

def CsvRecord.save (r : CsvRecord) (state : CsvState) : CsvRecord :=
  { state, field := [], fields := String.ofList r.field.reverse :: r.fields }

/-- One character of a field; `none` beyond the field limit. -/
def CsvRecord.add (r : CsvRecord) (state : CsvState) (c : Char) : Option CsvRecord :=
  if 131072 ≤ r.field.length then none else some { r with state, field := c :: r.field }

/-- `parse_process_char`. -/
def CsvRecord.char (r : CsvRecord) (c : Char) : Option CsvRecord :=
  match r.state with
  | .startRecord | .startField =>
    if c = '"' then some { r with state := .inQuotedField }
    else if c = ',' then some (r.save .startField)
    else r.add .inField c
  | .inField => if c = ',' then some (r.save .startField) else r.add .inField c
  | .inQuotedField =>
    if c = '"' then some { r with state := .quoteInQuotedField } else r.add .inQuotedField c
  | .quoteInQuotedField =>
    if c = '"' then r.add .inQuotedField c
    else if c = ',' then some (r.save .startField)
    else r.add .inField c

/-- The end of a line. -/
def CsvRecord.endLine (r : CsvRecord) : CsvRecord :=
  match r.state with
  | .startRecord | .inQuotedField => r
  | _ => r.save .startRecord

/-- `csv.reader`: its rows, and whether it raises after them. -/
def csvRows (r : CsvRecord) : List String → List (List String) × Bool
  | [] =>
    if r.field ≠ [] ∨ r.state = .inQuotedField then
      ([(r.save .startRecord).fields.reverse], false)
    else ([], false)
  | line :: rest =>
    match line.toList.foldlM CsvRecord.char r with
    | none => ([], true)
    | some r =>
      let r := r.endLine
      if r.state = .startRecord then
        let more := csvRows {} rest
        (r.fields.reverse :: more.1, more.2)
      else csvRows r rest

/-- The rows with something in them, handed to `f` one by one with what it made of those before;
then the error of the reader, if it raises. -/
def overRows {α : Type} (f : α → List String → Except Thrown α) (start : α) (raw : String) :
    Except Thrown α := do
  let (rows, broken) := csvRows {} (splitlines raw)
  let result ← (rows.filter fun row => row.any fun column => strip column ≠ "").foldlM f start
  require (broken = false) (.csv "field larger than field limit (131072)")
  pure result

/-! ## Fields -/

/-- `_value`. -/
def value (row : List String) (index : ℕ) : Option String :=
  let value := strip (row.getD index "")
  if value ∈ ["", "N/A", "[Not Supported]", "Not Supported"] then none else some value

variable (py : Library)

/-- `_int`: `int` of an infinite float raises, `int` of no number is none. -/
def int (value : Option String) : Except Thrown (Option ℤ) :=
  match value with
  | none => .ok none
  | some v =>
    match py.float (strip (without "%" (without "W" (without "MiB" v)))) with
    | some (.finite q) => .ok (some (q.num.tdiv q.den))
    | some (.infinite _) => .error (.raised (.overflow "cannot convert float infinity to integer"))
    | some .nan | none => .ok none

/-- `_float`. -/
def float (value : Option String) : Option Double :=
  value.bind fun v => py.float (strip (without "W" v))

/-- `Field(ge=minimum)`, of a float: `nan` is not. -/
def Double.atLeast (minimum : ℚ) : Double → Bool
  | .finite q => decide (minimum ≤ q)
  | .infinite negative => !negative
  | .nan => false

/-! ## Cards -/

/-- `TelemetryInput`. -/
structure TelemetryInput where
  gpuUuid : String
  gpuIndex : ℤ
  cudaOrdinal : ℕ
  name : String
  totalVramMib : ℤ
  memoryUsedMib : ℤ
  memoryFreeMib : ℤ
  gpuUtilizationPct : Option ℤ
  memoryUtilizationPct : Option ℤ
  temperatureC : Option ℤ
  powerWatts : Option Double
  pstate : Option String
  health : String := "OK"
  deriving DecidableEq

/-- The checks of `TelemetryInput`. -/
def TelemetryInput.Valid (t : TelemetryInput) : Prop :=
  (1 ≤ t.gpuUuid.length ∧ t.gpuUuid.length ≤ 160) ∧ (0 ≤ t.gpuIndex ∧ t.gpuIndex ≤ 1024) ∧
    t.cudaOrdinal ≤ 1024 ∧ (1 ≤ t.name.length ∧ t.name.length ≤ 255) ∧ 1 ≤ t.totalVramMib ∧
    0 ≤ t.memoryUsedMib ∧ 0 ≤ t.memoryFreeMib ∧
    (∀ x ∈ t.gpuUtilizationPct, 0 ≤ x ∧ x ≤ 100) ∧ (∀ x ∈ t.memoryUtilizationPct, 0 ≤ x ∧ x ≤ 100) ∧
    (∀ x ∈ t.temperatureC, -100 ≤ x ∧ x ≤ 300) ∧ (∀ x ∈ t.powerWatts, Double.atLeast 0 x = true) ∧
    (∀ x ∈ t.pstate, x.length ≤ 32) ∧ 1 ≤ t.health.length ∧ t.health.length ≤ 32

instance (t : TelemetryInput) : Decidable t.Valid := inferInstanceAs (Decidable (_ ∧ _))

/-- `[0-9A-Fa-f]`, as its value. -/
def hexDigit (c : Char) : Option ℕ :=
  if c.isDigit then some (c.toNat - 48)
  else if 'a' ≤ c ∧ c ≤ 'f' then some (c.toNat - 87)
  else if 'A' ≤ c ∧ c ≤ 'F' then some (c.toNat - 55)
  else none

/-- `int(text, 16)`, of that many hexadecimal digits. -/
def hexOf (lengths : List ℕ) (digits : List Char) : Option ℕ :=
  if digits.length ∈ lengths then
    (digits.mapM hexDigit).map fun ds => ds.foldl (fun n d => 16 * n + d) 0
  else none

/-- `_pci_bus_key`: domain, bus, device and function. -/
def pciBusKey (value : Option String) : Except Thrown (List ℕ) :=
  let invalid := Thrown.collection "nvidia-smi GPU output has an invalid PCI bus ID"
  match (value.getD "").toList.splitOn ':' with
  | [domain, bus, [d₁, d₂, '.', f]] =>
    match hexOf [4, 5, 6, 7, 8] domain, hexOf [2] bus, hexOf [2] [d₁, d₂], hexOf [1] [f] with
    | some domain, some bus, some device, some function =>
      if function < 8 then .ok [domain, bus, device, function] else .error invalid
    | _, _, _, _ => .error invalid
  | _ => .error invalid

/-- Tuples compare at their first difference. -/
def tupleLe : List ℕ → List ℕ → Bool
  | [], _ => true
  | _ :: _, [] => false
  | a :: as, b :: bs => if a = b then tupleLe as bs else decide (a < b)

/-- One row of the GPU query, before it has its CUDA ordinal. -/
structure Observed where
  bus : List ℕ
  card : TelemetryInput

/-- The body of `parse_gpu_csv`'s loop. -/
def readGpuRow (observed : List Observed) (row : List String) : Except Thrown (List Observed) := do
  require (row.length = 12) (.collection "nvidia-smi GPU output has an unexpected column count")
  let index ← int py (value row 0)
  let total ← int py (value row 3)
  let used ← int py (value row 4)
  let free ← int py (value row 5)
  let bus ← pciBusKey (value row 11)
  match index, value row 1, value row 2, total, used, free with
  | some index, some uuid, some name, some total, some used, some free =>
    require (index ∉ observed.map (fun x => x.card.gpuIndex) ∧
        uuid ∉ observed.map (fun x => x.card.gpuUuid) ∧ bus ∉ observed.map Observed.bus)
      (.collection "nvidia-smi GPU output contains duplicate identities")
    let gpuUtilization ← int py (value row 6)
    let memoryUtilization ← int py (value row 7)
    let temperature ← int py (value row 8)
    pure (observed ++ [{ bus, card := {
      gpuUuid := uuid, gpuIndex := index, cudaOrdinal := 0, name, totalVramMib := total
      memoryUsedMib := used, memoryFreeMib := free, gpuUtilizationPct := gpuUtilization
      memoryUtilizationPct := memoryUtilization, temperatureC := temperature
      powerWatts := float py (value row 9), pstate := value row 10 } }])
  | _, _, _, _, _, _ =>
    throw (.collection "nvidia-smi GPU output is missing an identity or memory field")

/-- `parse_gpu_csv`: the cards in the order of their bus. -/
def parseGpuCsv (raw : String) : Except Thrown (List TelemetryInput) := do
  let observed ← overRows (readGpuRow py) [] raw
  require (observed ≠ []) (.collection "nvidia-smi GPU output is empty")
  let cards := (Ranking.arranged tupleLe Observed.bus observed).mapIdx fun ordinal x =>
    { x.card with cudaOrdinal := ordinal }
  require (∀ t ∈ cards, t.Valid) (.value "invalid telemetry")
  pure cards

/-! ## Processes -/

/-- `ComputeApp`. -/
structure ComputeApp where
  gpuUuid : String
  pid : ℤ
  usedMemoryMib : ℤ
  processName : String

/-- The body of `parse_process_csv`'s loop. -/
def readProcessRow (apps : List ComputeApp) (row : List String) :
    Except Thrown (List ComputeApp) := do
  let pid ← int py (value row 1)
  let used ← int py (value row 2)
  match value row 0, pid, used with
  | some gpuUuid, some pid, some usedMemoryMib =>
    pure (apps ++ [{ gpuUuid, pid, usedMemoryMib, processName := (value row 3).getD "unknown" }])
  | _, _, _ =>
    throw (.collection "nvidia-smi process output is missing GPU UUID, PID, or memory")

/-- `parse_process_csv`. -/
def parseProcessCsv (raw : String) : Except Thrown (List ComputeApp) :=
  let text := strip raw
  if "no running processes".toList.isPrefixOf (text.toList.map Char.toLower) ∨ text = "" then .ok []
  else overRows (readProcessRow py) [] raw

/-- What `ps` says of one process: its user, its start in UTC, and its command. -/
structure PsEntry where
  pid : ℤ
  username : String
  startedAt : ℤ
  command : String

/-- `parse_ps_output`, one line. -/
def readPsLine (line : String) : Except Thrown (Option PsEntry) := do
  match splitAtMost 7 (strip line).toList with
  | [pid, username, weekday, month, day, clock, year, command] =>
    match ← int py (some pid) with
    | none => pure none
    | some pid =>
      pure ((py.strptime (" ".intercalate [weekday, month, day, clock, year])).map fun startedAt =>
        { pid, username, startedAt, command })
  | _ => pure none

/-- `parse_ps_output`: of two lines about one process the later one counts. -/
def parsePsOutput (raw : String) : Except Thrown (List PsEntry) := do
  let entries ← (splitlines raw).mapM (readPsLine py)
  pure (entries.filterMap id).reverse

/-! ## The host -/

/-- `parse_identity`: the host name and the boot id. -/
def parseIdentity (raw : String) : Except Thrown (String × String) :=
  match ((splitlines raw).map strip).filter fun line => line ≠ "" with
  | hostname :: bootId :: _ => .ok (hostname, bootId)
  | _ => .error (.collection "host identity probe did not return hostname and boot id")

/-- The quota of a cgroup's CPU line. -/
def cgroupCpuQuota (token : String) : Except Thrown (Option ℤ) :=
  if token = "max" then .ok none
  else do
    let quota ← int py (some token)
    require (quota.any fun q => decide (0 ≤ q))
      (.collection "host resource probe returned invalid cgroup CPU quota")
    pure quota

/-- `_parse_cgroup_cpu_line`: usage, quota and period. -/
def parseCgroupCpuLine (tokens : List String) : Except Thrown (ℤ × Option ℤ × ℤ) := do
  match tokens with
  | [quotaToken, periodToken, usageToken] => do
    let quota ← cgroupCpuQuota py quotaToken
    let period ← int py (some periodToken)
    let usage ← int py (some usageToken)
    match period, usage with
    | some period, some usage =>
      require (1 ≤ period ∧ 0 ≤ usage)
        (.collection "host resource probe returned invalid cgroup CPU usage")
      pure (usage, quota, period)
    | _, _ => throw (.collection "host resource probe returned invalid cgroup CPU usage")
  | _ => throw (.collection "host resource probe returned invalid cgroup CPU line")

/-- `_parse_cgroup_memory_line`: the limit and the current use, in MiB. -/
def parseCgroupMemoryLine (tokens : List String) : Except Thrown (Option ℤ × ℤ) := do
  match tokens with
  | ["mem", limitToken, currentToken] =>
    match ← int py (some currentToken) with
    | none => throw (.collection "host resource probe returned invalid cgroup memory usage")
    | some current =>
      require (0 ≤ current)
        (.collection "host resource probe returned invalid cgroup memory usage")
      if limitToken = "max" then pure (none, current / 1048576)
      else
        match ← int py (some limitToken) with
        | none => throw (.collection "host resource probe returned invalid cgroup memory limit")
        | some limit =>
          require (1 ≤ limit)
            (.collection "host resource probe returned invalid cgroup memory limit")
          pure (some (limit / 1048576), current / 1048576)
  | _ => throw (.collection "host resource probe returned invalid cgroup memory line")

/-- The optional lines of a host probe read so far. -/
structure HostLines where
  ticks : Option (Option ℤ × Option ℤ) := none
  cpu : Option (ℤ × Option ℤ × ℤ) := none
  memory : Option (Option ℤ × ℤ) := none

/-- One optional line of a host probe. -/
def readHostLine (s : HostLines) (line : String) : Except Thrown HostLines := do
  let tokens := split line
  if "mem ".toList.isPrefixOf line.toList then
    require s.memory.isNone
      (.collection "host resource probe returned duplicate cgroup memory line")
    let memory ← parseCgroupMemoryLine py tokens
    pure { s with memory := some memory }
  else
    match tokens with
    | [total, idle] =>
      require s.ticks.isNone
        (.collection "host resource probe returned an unrecognized optional line")
      let total ← int py (some total)
      let idle ← int py (some idle)
      pure { s with ticks := some (total, idle) }
    | [_, _, _] =>
      require s.cpu.isNone (.collection "host resource probe returned duplicate cgroup CPU line")
      let cpu ← parseCgroupCpuLine py tokens
      pure { s with cpu := some cpu }
    | _ => throw (.collection "host resource probe returned an unrecognized optional line")

/-- `HostResourceSnapshot`, and `HostTelemetryInput` from it. -/
structure HostTelemetryInput where
  cpuCount : ℤ
  load1m : Double
  cpuTotalTicks : Option ℤ
  cpuIdleTicks : Option ℤ
  cpuUsageUsec : Option ℤ
  cpuQuotaUsec : Option ℤ
  cpuPeriodUsec : Option ℤ
  memoryTotalMib : ℤ
  memoryAvailableMib : ℤ
  memoryLimitMib : Option ℤ
  memoryCurrentMib : Option ℤ
  deriving DecidableEq

/-- The checks of `HostTelemetryInput`. -/
def HostTelemetryInput.Valid (h : HostTelemetryInput) : Prop :=
  (1 ≤ h.cpuCount ∧ h.cpuCount ≤ 1048576) ∧ Double.atLeast 0 h.load1m = true ∧
    (∀ x ∈ h.cpuTotalTicks, 0 ≤ x) ∧ (∀ x ∈ h.cpuIdleTicks, 0 ≤ x) ∧
    (∀ x ∈ h.cpuUsageUsec, 0 ≤ x) ∧ (∀ x ∈ h.cpuQuotaUsec, 0 ≤ x) ∧
    (∀ x ∈ h.cpuPeriodUsec, 1 ≤ x) ∧ 1 ≤ h.memoryTotalMib ∧ 0 ≤ h.memoryAvailableMib ∧
    (∀ x ∈ h.memoryLimitMib, 1 ≤ x) ∧ (∀ x ∈ h.memoryCurrentMib, 0 ≤ x) ∧
    h.memoryAvailableMib ≤ h.memoryTotalMib ∧
    ∀ total ∈ h.cpuTotalTicks, ∀ idle ∈ h.cpuIdleTicks, idle ≤ total

instance (h : HostTelemetryInput) : Decidable h.Valid := inferInstanceAs (Decidable (_ ∧ _))

/-- `parse_host_resource_snapshot`. -/
def parseHostResourceSnapshot (raw : String) : Except Thrown HostTelemetryInput := do
  let invalid := Thrown.collection "host resource probe returned invalid values"
  match ((splitlines raw).map strip).filter fun line => line ≠ "" with
  | count :: memory :: load :: more => do
    let cpuCount ← int py (some count)
    let lines ← more.foldlM (readHostLine py) {}
    match cpuCount, split memory, float py (some load) with
    | some cpuCount, [total, available], some load1m => do
      let total ← int py (some total)
      let available ← int py (some available)
      let outOfRange := Thrown.collection "host resource probe returned out-of-range values"
      match total, available with
      | some total, some available => do
        let ticks := lines.ticks.getD (none, none)
        require (1 ≤ cpuCount ∧ 1 ≤ total ∧ 0 ≤ available ∧ available ≤ total ∧
          (∀ x ∈ ticks.1, 0 ≤ x) ∧ (∀ x ∈ ticks.2, 0 ≤ x) ∧
          (∀ x ∈ ticks.1, ∀ y ∈ ticks.2, y ≤ x)) outOfRange
        pure {
          cpuCount := cpuCount, load1m, cpuTotalTicks := ticks.1, cpuIdleTicks := ticks.2
          cpuUsageUsec := lines.cpu.map fun x => x.1
          cpuQuotaUsec := lines.cpu.bind fun x => x.2.1
          cpuPeriodUsec := lines.cpu.map fun x => x.2.2
          memoryTotalMib := total, memoryAvailableMib := available
          memoryLimitMib := lines.memory.bind fun x => x.1
          memoryCurrentMib := lines.memory.map fun x => x.2 }
      | _, _ => throw outOfRange
    | _, _, _ => throw invalid
  | _ => throw (.collection "host resource probe must return CPU count, memory, and load")

/-! ## Nodes -/

def gpuSection : List Char := "__SERVERPILOT_GPU__".toList

def processSection : List Char := "__SERVERPILOT_PROCESSES__".toList

def processDetailsSection : List Char := "__SERVERPILOT_PROCESS_DETAILS__".toList

def identitySection : List Char := "__SERVERPILOT_IDENTITY__".toList

def hostResourcesSection : List Char := "__SERVERPILOT_HOST_RESOURCES__".toList

/-- The five parts of a probe's output. -/
structure Sections where
  gpu : String
  process : String
  processDetails : String
  identity : String
  host : String

/-- `parse_combined_probe`. -/
def parseCombinedProbe (raw : String) : Except Thrown Sections := do
  let incomplete := Thrown.collection "combined SSH probe returned incomplete section markers"
  let (marker, rest) ← need (splitOnce gpuSection raw.toList) incomplete
  let (gpu, rest) ← need (splitOnce processSection rest) incomplete
  let (process, rest) ← need (splitOnce processDetailsSection rest) incomplete
  let (details, rest) ← need (splitOnce identitySection rest) incomplete
  let (identity, host) ← need (splitOnce hostResourcesSection rest) incomplete
  require (strip (String.ofList marker) = "")
    (.collection "combined SSH probe returned data before its first section marker")
  pure {
    gpu := strip (String.ofList gpu), process := strip (String.ofList process)
    processDetails := strip (String.ofList details), identity := strip (String.ofList identity)
    host := strip (String.ofList host) }

inductive GpuProbeStatus
  | gpu | cpuOnly | unknown
  deriving DecidableEq

def gpuProbeStatus (gpuRaw : String) : GpuProbeStatus :=
  if "__SERVERPILOT_GPU_CPU_ONLY__" ∈ splitlines gpuRaw then .cpuOnly
  else if "__SERVERPILOT_GPU_UNAVAILABLE__" ∈ splitlines gpuRaw then .unknown
  else .gpu

/-- `ProcessInput`; its start is in microseconds since the first of January of the year 1, UTC. -/
structure ProcessInput where
  gpuUuid : String
  pid : ℤ
  usedMemoryMib : ℤ
  executable : String
  username : Option String
  processStartedAt : ℤ
  deriving DecidableEq

/-- The checks of `ProcessInput`. -/
def ProcessInput.Valid (x : ProcessInput) : Prop :=
  (1 ≤ x.gpuUuid.length ∧ x.gpuUuid.length ≤ 160) ∧ (1 ≤ x.pid ∧ x.pid ≤ 2147483647) ∧
    0 ≤ x.usedMemoryMib ∧ (1 ≤ x.executable.length ∧ x.executable.length ≤ 255) ∧
    ∀ s ∈ x.username, s.length ≤ 120

instance (x : ProcessInput) : Decidable x.Valid := inferInstanceAs (Decidable (_ ∧ _))

structure NodeObservation where
  nodeId : String
  observedAt : Datetime
  bootId : String
  host : HostTelemetryInput
  gpus : List TelemetryInput
  processes : List ProcessInput
  observationComplete : Bool
  gpuProbeStatus : GpuProbeStatus

/-- `^[A-Za-z0-9][A-Za-z0-9_.-]*$`, of at most 253 characters. -/
def isNodeId (s : String) : Bool :=
  match s.toList with
  | [] => false
  | c :: rest =>
    c.isAlphanum && rest.all (fun x => x.isAlphanum || x == '_' || x == '.' || x == '-') &&
      decide (rest.length < 253)

/-- The field `node_id`: a text, without the blanks around it. -/
def nodeIdOf (value : Json) : Option String :=
  match value with
  | .text s => if isNodeId (strip s) = true then some (strip s) else none
  | _ => none

/-- The microseconds of an instant, its offset taken off. -/
def instantOf (d : Datetime) : ℤ := d.micros - d.offset.getD 0

/-- A process, with what `ps` says of it. -/
def processOf (details : List PsEntry) (observedAt : Datetime) (app : ComputeApp) : ProcessInput :=
  match details.find? fun x => x.pid = app.pid with
  | some x =>
    { gpuUuid := app.gpuUuid, pid := app.pid, usedMemoryMib := app.usedMemoryMib
      executable := x.command, username := some x.username, processStartedAt := x.startedAt }
  | none =>
    { gpuUuid := app.gpuUuid, pid := app.pid, usedMemoryMib := app.usedMemoryMib
      executable := app.processName, username := none, processStartedAt := instantOf observedAt }

/-- The cards of a node whose NVIDIA query answered. -/
def probedGpus (status : GpuProbeStatus) (raw : String) : Except Thrown (List TelemetryInput) :=
  if status = .gpu then parseGpuCsv py raw else .ok []

/-- The processes on them. -/
def probedApps (status : GpuProbeStatus) (raw : String) : Except Thrown (List ComputeApp) :=
  if status = .gpu then parseProcessCsv py raw else .ok []

/-- `parse_raw_node_probe`, of a text. -/
def parseProbeText (raw : String) (nodeId : Json) (observedAt : Datetime) :
    Except Thrown NodeObservation := do
  let sections ← parseCombinedProbe raw
  let status := gpuProbeStatus sections.gpu
  let gpus ← probedGpus py status sections.gpu
  let apps ← probedApps py status sections.process
  let (_, bootId) ← parseIdentity sections.identity
  let host ← parseHostResourceSnapshot py sections.host
  let details ← parsePsOutput py sections.processDetails
  let processes := apps.map (processOf details observedAt)
  require (∀ x ∈ processes, x.Valid) (.value "invalid process")
  let nodeId ← need (nodeIdOf nodeId) (.value "invalid node observation")
  require ((1 ≤ bootId.length ∧ bootId.length ≤ 120) ∧ host.Valid ∧
      (gpus.map TelemetryInput.gpuUuid).Nodup ∧ (gpus.map TelemetryInput.gpuIndex).Nodup ∧
      (gpus.map TelemetryInput.cudaOrdinal).Nodup) (.value "invalid node observation")
  pure {
    nodeId := nodeId, observedAt, bootId, host, gpus, processes
    observationComplete := decide (status ≠ .unknown), gpuProbeStatus := status }

/-- `parse_raw_node_probe`: only a text has a `split`. -/
def parseRawNodeProbe (raw nodeId : Json) (observedAt : Datetime) :
    Except Thrown NodeObservation :=
  match raw with
  | .text raw => parseProbeText py raw nodeId observedAt
  | _ => .error (.raised (.attribute "object has no attribute 'split'"))

/-! ## Snapshots -/

/-- `_no_duplicate_json_object`. -/
def noDuplicateJsonObject (pairs : List (String × Json)) : Except Thrown Json :=
  if (pairs.map Prod.fst).Nodup then .ok (.object pairs)
  else .error (.collection "server collector JSON contains duplicate key")

/-- `_reject_json_constant`. -/
def rejectJsonConstant (value : String) : Except Thrown Json :=
  .error (.collection ("server collector JSON contains invalid numeric constant: " ++ value))

/-- `_timestamp`. -/
def timestamp (value : Json) (label : String) : Except Thrown Datetime := do
  let text ← lifted (text label 64 value)
  match py.readers.fromisoformat (replaceZ text) with
  | none =>
    throw (.collection ("server collector " ++ label ++ " must be an ISO-8601 timestamp"))
  | some parsed =>
    require (parsed.offset ≠ none)
      (.collection ("server collector " ++ label ++ " must include a timezone"))
    pure parsed

/-- A failure of a node, before its fields are checked. -/
structure ReportedFailure where
  nodeId : Json
  errorCode : Json
  message : Json

/-- `NodeFailure`. -/
structure NodeFailure where
  nodeId : String
  errorCode : String
  message : String
  deriving DecidableEq

/-- The checks of `NodeFailure`. -/
def ReportedFailure.check (f : ReportedFailure) : Except Thrown NodeFailure :=
  match nodeIdOf f.nodeId, f.errorCode, f.message with
  | some nodeId, .text errorCode, .text message =>
    if (1 ≤ (strip errorCode).length ∧ (strip errorCode).length ≤ 64) ∧
        (strip message).length ≤ 500 then
      .ok ⟨nodeId, strip errorCode, strip message⟩
    else .error (.value "invalid node failure")
  | _, _, _ => .error (.value "invalid node failure")

def nodeKeys : List String := ["node_id", "observed_at", "output", "error_code", "message"]

/-- The field of an object that has it. -/
def field (fields : Dict) (key : String) : Json := (fields.lookup key).getD .null

/-- A node's probe, read at the time it was taken. -/
def probeOf (node : Dict) : Except Thrown NodeObservation := do
  let observedAt ← timestamp py (field node "observed_at") "node.observed_at"
  parseRawNodeProbe py (field node "output") (field node "node_id") observedAt

/-- What is caught of it becomes a failure of the node. -/
def readProbe (node : Dict) : Except Thrown (NodeObservation ⊕ ReportedFailure) :=
  match probeOf py node with
  | .ok n => .ok (.inl n)
  | .error e =>
    if e.caught = true then
      .ok (.inr ⟨field node "node_id", .text "parse_error", .text (cut 500 e.text)⟩)
    else .error e

def isNull : Json → Bool
  | .null => true
  | _ => false

/-- The body of the loop over the nodes. -/
def readNode (rawNode : Json) : Except Thrown (NodeObservation ⊕ ReportedFailure) := do
  let node ← lifted (mapping rawNode "node" nodeKeys [])
  if isNull (field node "error_code") = false then do
    require (isNull (field node "output") = true)
      (.collection "failed node must not contain a successful probe")
    pure (.inr ⟨field node "node_id", field node "error_code", field node "message"⟩)
  else readProbe py node

structure EndpointObservation where
  endpointId : String
  observedAt : Datetime
  nodes : List NodeObservation
  failures : List NodeFailure
  scheduler : Option Capacity
  allocations : Json

/-- `_list`. -/
def list (value : Json) (label : String) (maximum : ℕ) : Except Thrown (List Json) :=
  match value with
  | .list items =>
    if items.length ≤ maximum then .ok items
    else .error (.collection ("server collector " ++ label ++ " must be a list"))
  | _ => .error (.collection ("server collector " ++ label ++ " must be a list"))

/-- The checks of `EndpointObservation`. -/
def observation (endpointId : String) (observedAt : Datetime)
    (read : List (NodeObservation ⊕ ReportedFailure)) (scheduler : Option Capacity)
    (allocations : Json) : Except Thrown EndpointObservation := do
  let nodes := read.filterMap Sum.getLeft?
  let failures ← (read.filterMap Sum.getRight?).mapM ReportedFailure.check
  require ((1 ≤ (strip endpointId).length ∧ (strip endpointId).length ≤ 128) ∧
      observedAt.offset ≠ none ∧ py.allocations allocations = true ∧
      (nodes.map NodeObservation.nodeId ++ failures.map NodeFailure.nodeId).Nodup)
    (.value "invalid endpoint observation")
  pure {
    endpointId := strip endpointId, observedAt, nodes := nodes, failures := failures, scheduler
    allocations }

/-- The fields of a snapshot, read. -/
def readFields (endpointId : String) (observedAt : Datetime) (snapshot : Dict) :
    Except Thrown EndpointObservation := do
  let _ ← lifted (integer "schema_version" 3 3 (field snapshot "schema_version"))
  let entries ← list (field snapshot "nodes") "nodes" 1024
  let read ← entries.mapM (readNode py)
  let scheduler ← lifted (schedulerCapacity py.readers (field snapshot "scheduler"))
  let observation ← observation py endpointId observedAt read scheduler
    (field snapshot "allocations")
  let _ ← lifted (nullableText "implementation_version" 64
    (field snapshot "implementation_version"))
  pure observation

/-- The document of a snapshot, read. -/
def readSnapshot (endpointId : String) (observedAt : Datetime) (payload : Json) :
    Except Thrown EndpointObservation := do
  let snapshot ← lifted (mapping payload "snapshot"
    ["schema_version", "nodes", "scheduler", "allocations"] ["implementation_version"])
  readFields py endpointId observedAt snapshot

/-- `parse_server_script_snapshot`. -/
def parseServerScriptSnapshot (raw endpointId : String) (observedAt : Datetime) :
    Except Thrown EndpointObservation :=
  if 1048576 < raw.utf8ByteSize then
    .error (.collection "server collector snapshot exceeded the stdout limit")
  else
    let read := do
      let payload ← py.loads noDuplicateJsonObject rejectJsonConstant raw
      readSnapshot py endpointId observedAt payload
    match read with
    | .ok o => .ok o
    | .error (.raised (.value m)) => .error (.collection ("invalid node observation: " ++ m))
    | .error (.raised (.type m)) => .error (.collection ("invalid node observation: " ++ m))
    | .error e => .error e

/-! ## Node by node -/

/-- The node's reading ends in an error that is not caught: its output is no text, or one with a
number that reads as infinite (`OverflowError`) or with a field that is over the limit of the reader
of rows (`csv.Error`). -/
def Breaks (entry : Json) : Prop :=
  ∃ node observedAt, mapping entry "node" nodeKeys [] = .ok node ∧
    isNull (field node "error_code") = true ∧
    timestamp py (field node "observed_at") "node.observed_at" = .ok observedAt ∧
    ∀ raw, field node "output" = .text raw →
      ∃ e, parseProbeText py raw (field node "node_id") observedAt = .error e ∧ e.caught = false

/-- The entry of a node with the output of its probe, whatever that is. -/
structure ProbeEntry (node : Dict) : Prop where
  fields : nodeKeys ⊆ node.map Prod.fst ∧ node.map Prod.fst ⊆ nodeKeys
  succeeded : isNull (field node "error_code") = true
  named : (nodeIdOf (field node "node_id")).isSome = true

/-- The snapshot with these nodes instead. -/
def withNodes (snapshot : Dict) (entries : List Json) : Dict :=
  snapshot.map fun x => if x.1 = "nodes" then (x.1, .list entries) else x

/-- The snapshot holds these probes, of nodes with distinct ids, and everything else in it is
accepted. -/
structure Holds (endpointId : String) (observedAt : Datetime) (snapshot : Dict)
    (nodes : List Dict) : Prop where
  entries : snapshot.lookup "nodes" = some (.list (nodes.map .object))
  probes : ∀ node ∈ nodes, ProbeEntry node
  distinct : (nodes.map fun node => nodeIdOf (field node "node_id")).Nodup
  rest : ∃ o, readSnapshot py endpointId observedAt (.object (withNodes snapshot [])) = .ok o

/-- Each node that can be read is in the observation as when it is the only one, each other one is
a failure of that node, and there is nothing else. -/
def NodeByNode (endpointId : String) (observedAt : Datetime) (snapshot : Dict) (nodes : List Dict)
    (o : EndpointObservation) : Prop :=
  (∀ node ∈ nodes, ∀ n, probeOf py node = .ok n → n ∈ o.nodes ∧
    ∃ alone, readSnapshot py endpointId observedAt
      (.object (withNodes snapshot [.object node])) = .ok alone ∧ alone.nodes = [n]) ∧
  (∀ node ∈ nodes, (∀ n, probeOf py node ≠ .ok n) →
    ∃ f ∈ o.failures, nodeIdOf (field node "node_id") = some f.nodeId) ∧
  o.nodes.length + o.failures.length = nodes.length

/-- What a collector may rely on: an answer or a `CollectionError`, and no node lost to another. -/
structure Isolates (raw endpointId : String) (observedAt : Datetime) : Prop where
  collected : ∀ e, parseServerScriptSnapshot py raw endpointId observedAt = .error e →
    ∃ m, e = .collection m
  nodes : raw.utf8ByteSize ≤ 1048576 → ∀ snapshot nodes,
    py.loads noDuplicateJsonObject rejectJsonConstant raw = .ok (.object snapshot) →
    Holds py endpointId observedAt snapshot nodes →
      ∃ o, parseServerScriptSnapshot py raw endpointId observedAt = .ok o ∧
        NodeByNode py endpointId observedAt snapshot nodes o

/-- An error of `json.loads` that is caught around the snapshot. -/
def Thrown.reported : Thrown → Bool
  | .raised (.collection _) | .raised (.value _) | .raised (.type _) => true
  | _ => false

/-- The loop over the nodes of this document comes to this entry. -/
def Reaches (payload entry : Json) : Prop :=
  ∃ snapshot version entries pre post,
    mapping payload "snapshot" ["schema_version", "nodes", "scheduler", "allocations"]
      ["implementation_version"] = .ok snapshot ∧
    integer "schema_version" 3 3 (field snapshot "schema_version") = .ok version ∧
    list (field snapshot "nodes") "nodes" 1024 = .ok entries ∧
    entries = pre ++ entry :: post ∧ ∀ x ∈ pre, ∃ r, readNode py x = .ok r

/-- The document loads, or is refused for its text; no entry the loop comes to breaks; and a
snapshot of probes has no more of them than are read. -/
structure Unbroken (raw endpointId : String) (observedAt : Datetime) : Prop where
  document : ∀ e, py.loads noDuplicateJsonObject rejectJsonConstant raw = .error e →
    e.reported = true
  entries : ∀ payload, py.loads noDuplicateJsonObject rejectJsonConstant raw = .ok payload →
    ∀ entry, Reaches py payload entry → ¬ Breaks py entry
  bounded : ∀ snapshot nodes,
    py.loads noDuplicateJsonObject rejectJsonConstant raw = .ok (.object snapshot) →
    Holds py endpointId observedAt snapshot nodes → nodes.length ≤ 1024

end ServerPilot.Collector
