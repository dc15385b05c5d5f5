import ServerPilot.Lib.Checked
import ServerPilot.Lib.Document
import Mathlib.Data.List.AList
import Mathlib.Data.List.Sort

/-!
# The keepalive helper

`LocalKeepaliveController.set_enabled` on the server: which cards are to have an
occupancy worker, and the file `workers.v3.json` that says which worker holds which
card. A request may name a card more than once; a start is told by its place in the
request. `Host` is what the server answers during one call: whether a recorded
worker runs, what a start gives, and how the file is written.
-/

namespace ServerPilot.Helper

open Checked

/-! ## The worker state -/

def keepaliveSchemaVersion : ℤ := 3

def keepaliveWorkerMarker : String := "serverpilot-keepalive-worker-v3"

/-- The characters of `GPU_UUID_PATTERN`, `h` standing for a hexadecimal digit. -/
def gpuUuidPattern : List Char := "GPU-hhhhhhhh-hhhh-hhhh-hhhh-hhhhhhhhhhhh".toList

def isHexDigit (c : Char) : Bool :=
  ('0' ≤ c && c ≤ '9') || ('a' ≤ c && c ≤ 'f') || ('A' ≤ c && c ≤ 'F')

/-- `GPU_UUID_PATTERN.fullmatch`. -/
def matchesGpuUuid (value : String) : Bool :=
  value.toList.length = gpuUuidPattern.length &&
    (value.toList.zip gpuUuidPattern).all fun x => if x.2 = 'h' then isHexDigit x.1 else x.1 = x.2

/-- A physical NVIDIA card. -/
abbrev GpuUuid := { value : String // matchesGpuUuid value = true }

/-- An error of the helper; `versionMismatch` is the `RuntimeError` that quotes the version read. -/
inductive HelperError
  | protocol (message : String)
  | value (message : String)
  | runtime (message : String)
  | versionMismatch (observed : Option Json)
  | os (message : String)

/-- `KeepaliveProcessIdentity`, of a worker that was read or captured: both check it, and both
demand the one marker. -/
structure Identity where
  pid : ℤ
  bootId : String
  startTimeTicks : ℤ
  pid_pos : 0 < pid
  bootId_len : 1 ≤ bootId.length ∧ bootId.length ≤ 128
  ticks_pos : 0 < startTimeTicks
  deriving DecidableEq

/-- The recorded workers: one for a card. -/
abbrev Identities := AList fun _ : GpuUuid => Identity

/-- `workers.v3.json`. -/
inductive StateFile
  | missing
  | unreadable
  | document (value : Json)

/-- The state directory; `legacy` says that there is a `workers.v2.json`. -/
structure StateDirectory where
  legacy : Bool := false
  workers : StateFile := .missing

/-- `validate_gpu_uuid`. -/
def validateGpuUuid (value : Json) : Except HelperError GpuUuid :=
  match value with
  | .text s =>
    if h : matchesGpuUuid s = true then .ok ⟨s, h⟩
    else .error (.protocol "keepalive GPU UUID is malformed")
  | _ => .error (.protocol "keepalive GPU UUID is malformed")

def invalidWorker : HelperError := .runtime "keepalive worker state has invalid worker"

def invalidIdentity : HelperError := .runtime "keepalive worker state has invalid worker identity"

/-- The card and the process of an entry of `workers`. -/
def readCard (worker : Json) : Except HelperError (GpuUuid × { pid : ℤ // 0 < pid }) :=
  match (worker.get? "gpu_uuid").map validateGpuUuid, worker.get? "pid" with
  | some (.ok gpuUuid), some (.int pid) =>
    if h : 0 < pid then .ok (gpuUuid, ⟨pid, h⟩) else .error invalidWorker
  | _, _ => .error invalidWorker

/-- An entry of `workers`, whole. -/
def readWorker (worker : Json) : Except HelperError (GpuUuid × Identity) :=
  match readCard worker with
  | .error e => .error e
  | .ok (gpuUuid, pid) =>
    match worker.get? "boot_id", worker.get? "start_time_ticks", worker.get? "worker_marker" with
    | some (.text bootId), some (.int ticks), some (.text marker) =>
      if h : (1 ≤ bootId.length ∧ bootId.length ≤ 128) ∧ 0 < ticks ∧
          marker = keepaliveWorkerMarker then
        .ok (gpuUuid, ⟨pid.1, bootId, ticks, pid.2, h.1, h.2.1⟩)
      else .error invalidIdentity
    | _, _, _ => .error invalidIdentity

/-- The loop of `_read_identities`. -/
def readWorkers : List Json → Identities → Except HelperError Identities
  | [], identities => .ok identities
  | worker :: rest, identities =>
    match readWorker worker with
    | .error e => .error e
    | .ok (gpuUuid, identity) =>
      if gpuUuid ∈ identities then
        .error (.runtime "keepalive worker state contains duplicate GPU UUIDs")
      else readWorkers rest (identities.insert gpuUuid identity)

/-- The text of `workers.v3.json`, read. -/
def StateFile.identities (file : StateFile) : Except HelperError Identities :=
  match file with
  | .missing => .ok ∅
  | .unreadable => .error (.runtime "keepalive worker state is unreadable")
  | .document value =>
    if (value.get? "schema_version").all fun v => !v.equalsInt keepaliveSchemaVersion then
      .error (.versionMismatch (value.get? "schema_version"))
    else
      match value.get? "workers" with
      | some (.list workers) => readWorkers workers ∅
      | _ => .error (.runtime "keepalive worker state has invalid workers")

/-- `_read_identities`. -/
def StateDirectory.readIdentities (dir : StateDirectory) : Except HelperError Identities :=
  if dir.legacy then .error (.runtime "legacy keepalive worker state workers.v2.json is present")
  else dir.workers.identities

/-- An entry of `workers`, as it is written. -/
def workerEntry (x : Sigma fun _ : GpuUuid => Identity) : Json :=
  .object [("gpu_uuid", .text x.1.1), ("pid", .int x.2.pid), ("boot_id", .text x.2.bootId),
    ("start_time_ticks", .int x.2.startTimeTicks), ("worker_marker", .text keepaliveWorkerMarker)]

/-- What `_write_identities` puts in place: nothing is left of an empty state. -/
def stateFile (identities : Identities) : StateFile :=
  if identities.entries = [] then .missing
  else .document (.object [("schema_version", .int keepaliveSchemaVersion),
    ("workers", .list ((identities.entries.mergeSort fun x y => x.1.1 ≤ y.1.1).map workerEntry))])

/-! ## One call -/

/-- How `_write_identities` ends: done, with an error that leaves the file as it was, or with one
after the file was replaced. -/
inductive Write
  | done
  | kept (message : String)
  | replaced (message : String)
  deriving DecidableEq

/-- The file after a write. -/
def Write.file (w : Write) (old new : StateFile) : StateFile :=
  match w with
  | .kept _ => old
  | _ => new

/-- The error of a write, if it has one. -/
def Write.error (w : Write) : Option HelperError :=
  match w with
  | .done => none
  | .kept message | .replaced message => some (.os message)

/-- What the server answers during a call, by place in the request: whether the recorded worker
runs (`is_running`), what a start and a stop of it give, and how the file is written when its
record is dropped; `save` is the last write of `_enable`. -/
structure Host where
  knownGpuUuids : Except HelperError (List GpuUuid)
  /-- `_ensure_state_directory` and `_lock`. -/
  enter : Except HelperError Unit := .ok ()
  isRunning : ℕ → Bool
  start : ℕ → Except String Identity
  stop : ℕ → Option String := fun _ => none
  drop : ℕ → Write := fun _ => .done
  save : Write := .done

inductive KeepaliveOutcome
  | started | stopped | unchanged
  deriving DecidableEq, Repr

/-- `KeepaliveGPUResult`; its status follows from `KeepaliveResponse.enabled`. -/
structure KeepaliveGPUResult where
  gpuUuid : GpuUuid
  outcome : KeepaliveOutcome
  deriving DecidableEq

/-- `KeepaliveResponse`. -/
structure KeepaliveResponse where
  enabled : Bool
  results : List KeepaliveGPUResult

/-- What a call leaves: its answer, the file, and every worker it started that came up. -/
structure Called where
  answer : Except HelperError KeepaliveResponse
  file : StateFile
  started : List (GpuUuid × Identity) := []

/-- The cards of a request, each with its place. -/
abbrev Places := List (GpuUuid × ℕ)

/-- `_enable` before it starts anything. -/
structure Survey where
  identities : Identities
  results : AList fun _ : GpuUuid => KeepaliveOutcome := ∅
  pending : Places := []
  file : StateFile

/-- A call that ended with an error before it started anything. -/
def Called.failed (e : HelperError) (file : StateFile) : Called := { answer := .error e, file }

/-- The first loop of `_enable`: a recorded worker that runs stays; the record of one that does not
is dropped at once, and the card waits for a start. -/
def survey (h : Host) : Places → Survey → Except (HelperError × StateFile) Survey
  | [], s => .ok s
  | (gpuUuid, i) :: rest, s =>
    match s.identities.lookup gpuUuid with
    | none => survey h rest { s with pending := s.pending ++ [(gpuUuid, i)] }
    | some _ =>
      if h.isRunning i then
        survey h rest { s with results := s.results.insert gpuUuid .unchanged }
      else
        let identities := s.identities.erase gpuUuid
        let file := (h.drop i).file s.file (stateFile identities)
        match (h.drop i).error with
        | some e => .error (e, file)
        | none => survey h rest { s with identities, file, pending := s.pending ++ [(gpuUuid, i)] }

/-- `started`: every place of `pending` is submitted; of two submissions for one card the dict keeps
the later. -/
def submitted (pending : Places) : AList fun _ : GpuUuid => ℕ :=
  pending.foldl (fun d x => d.insert x.1 x.2) ∅

/-- `_enable` while it collects what the starts gave. -/
structure Gathered where
  identities : Identities
  results : AList fun _ : GpuUuid => KeepaliveOutcome
  failures : List String := []

/-- One round of the second loop of `_enable`. -/
def Gathered.collect (h : Host) (futures : AList fun _ : GpuUuid => ℕ) (s : Gathered)
    (gpuUuid : GpuUuid) : Gathered :=
  match (futures.lookup gpuUuid).map h.start with
  | none => s
  | some (.error e) => { s with failures := s.failures ++ [e] }
  | some (.ok identity) =>
    { s with
      identities := s.identities.insert gpuUuid identity
      results := s.results.insert gpuUuid .started }

/-- The workers that came up, of all that were submitted. -/
def cameUp (h : Host) (pending : Places) : List (GpuUuid × Identity) :=
  pending.filterMap fun x => (h.start x.2).toOption.map (x.1, ·)

/-- The answer of `_enable`. -/
def enableResponse (requested : List GpuUuid) (s : Gathered) :
    Except HelperError KeepaliveResponse :=
  match s.failures with
  | e :: _ => .error (.runtime ("CUDA keepalive worker could not start: " ++ e))
  | [] => .ok { enabled := true, results :=
      requested.filterMap fun u => (s.results.lookup u).map fun outcome => ⟨u, outcome⟩ }

/-- `_enable`. -/
def enable (h : Host) (requested : List GpuUuid) (identities : Identities) (file : StateFile) :
    Called :=
  match survey h requested.zipIdx { identities, file } with
  | .error (e, file) => .failed e file
  | .ok s =>
    if s.pending = [] then
      { answer := enableResponse requested ⟨s.identities, s.results, []⟩, file := s.file }
    else
      let gathered := (s.pending.map Prod.fst).foldl (Gathered.collect h (submitted s.pending))
        ⟨s.identities, s.results, []⟩
      { answer := match h.save.error with
          | some e => .error e
          | none => enableResponse requested gathered
        file := h.save.file s.file (stateFile gathered.identities)
        started := cameUp h s.pending }

/-- The loop of `_disable`. -/
def disable (h : Host) : Places → Identities → List KeepaliveGPUResult → StateFile → Called
  | [], _, results, file => { answer := .ok { enabled := false, results }, file }
  | (gpuUuid, i) :: rest, identities, results, file =>
    match identities.lookup gpuUuid with
    | none => disable h rest identities (results ++ [⟨gpuUuid, .unchanged⟩]) file
    | some _ =>
      match if h.isRunning i then h.stop i else none with
      | some message => .failed (.runtime message) file
      | none =>
        let identities := identities.erase gpuUuid
        let file := (h.drop i).file file (stateFile identities)
        match (h.drop i).error with
        | some e => .failed e file
        | none => disable h rest identities (results ++ [⟨gpuUuid, .stopped⟩]) file

/-- What `set_enabled` checks before it acts: the cards it is asked for, and the recorded
workers. -/
def checkRequest (h : Host) (dir : StateDirectory) (gpuUuids : List Json) :
    Except HelperError (List GpuUuid × Identities) := do
  let requested ← gpuUuids.mapM validateGpuUuid
  require (requested ≠ []) (.value "gpu_uuids cannot be empty")
  let known ← h.knownGpuUuids
  require (requested ⊆ known) (.value "gpu_uuids contains an unknown GPU UUID")
  h.enter
  let identities ← dir.readIdentities
  pure (requested, identities)

/-- `set_enabled`. -/
def setEnabled (h : Host) (dir : StateDirectory) (enabled : Bool) (gpuUuids : List Json) : Called :=
  match checkRequest h dir gpuUuids with
  | .error e => .failed e dir.workers
  | .ok (requested, identities) =>
    if enabled then enable h requested identities dir.workers
    else disable h requested.zipIdx identities [] dir.workers

/-! ## The request -/

/-- `KeepaliveRequest`, as decoded: a list of cards that is not empty. -/
structure KeepaliveRequest where
  enabled : Bool
  gpuUuids : List GpuUuid
  gpuUuids_ne : gpuUuids ≠ []

/-- `_validate_gpu_uuids`. -/
def validateGpuUuids (value : Json) : Except HelperError { l : List GpuUuid // l ≠ [] } :=
  match value with
  | .list items =>
    match items.mapM validateGpuUuid with
    | .error e => .error e
    | .ok l =>
      if h : l ≠ [] then .ok ⟨l, h⟩ else .error (.protocol "keepalive gpu_uuids cannot be empty")
  | _ => .error (.protocol "keepalive gpu_uuids must be an array")

/-- `KeepaliveRequest.decode`, of a payload that is JSON. -/
def KeepaliveRequest.decode (payload : Json) : Except HelperError KeepaliveRequest :=
  match payload with
  | .object fields =>
    if (fields.lookup "schema_version").all fun v => !v.equalsInt keepaliveSchemaVersion then
      .error (.versionMismatch (fields.lookup "schema_version"))
    else
      match fields.lookup "enabled", fields.lookup "gpu_uuids" with
      | some (.bool enabled), some gpuUuids =>
        match validateGpuUuids gpuUuids with
        | .error e => .error e
        | .ok l => .ok ⟨enabled, l.1, l.2⟩
      | some _, some _ => .error (.protocol "keepalive enabled must be a boolean")
      | _, _ => .error (.protocol "keepalive request is missing a required field")
  | _ => .error (.protocol "keepalive message must be a JSON object")

/-- `handle_request`. -/
def handleRequest (h : Host) (dir : StateDirectory) (payload : Json) : Called :=
  match KeepaliveRequest.decode payload with
  | .error e => .failed e dir.workers
  | .ok request => setEnabled h dir request.enabled (request.gpuUuids.map fun u => .text u.1)

end ServerPilot.Helper
