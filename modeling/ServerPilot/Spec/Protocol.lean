import ServerPilot.Lib.JsonText
import ServerPilot.Spec.Helper

/-!
# Keepalive messages

The texts that the control plane and the helper on a server exchange (`keepalive_protocol`): a
request, its response, and the same of an attestation; and the text of `workers.v3.json`. Each type
carries what makes a message valid. A payload is told by its characters.
-/

namespace ServerPilot.Protocol

open Checked
open Helper

/-- Why a message is not accepted; `typeError` is raised where a set is asked for a value that
cannot be hashed. -/
inductive Refusal
  | helper (e : HelperError)
  | typeError

def refuse (message : String) : Refusal := .helper (.protocol message)

/-- How `json` writes and reads a float. -/
structure Floats where
  print : Double → List Char
  read : List Char → Option Double

variable (floats : Floats)

/-- `_encode`. -/
def encode (value : Json) : List Char := JsonText.print floats.print value ++ ['\n']

/-- `_decode_object`. -/
def decodeObject (payload : List Char) : Except Refusal (List (String × Json)) :=
  match JsonText.loads floats.read payload with
  | none => .error (refuse "keepalive message is not valid UTF-8 JSON")
  | some (.object fields) => .ok fields
  | some _ => .error (refuse "keepalive message must be a JSON object")

/-- The schema version of a message is this one. -/
def checkVersion (fields : List (String × Json)) : Except Refusal Unit :=
  require
    (((fields.lookup "schema_version").any fun v => v.equalsInt keepaliveSchemaVersion) = true)
    (.helper (.versionMismatch (fields.lookup "schema_version")))

/-- `set(value) == names`. -/
def hasKeys (fields : List (String × Json)) (names : List String) : Prop :=
  (∀ f ∈ fields, f.1 ∈ names) ∧ ∀ name ∈ names, name ∈ fields.map Prod.fst

instance (fields : List (String × Json)) (names : List String) : Decidable (hasKeys fields names) :=
  inferInstanceAs (Decidable (_ ∧ _))

/-- The text, if `names` has it. -/
def oneOf (names : List String) (message : String) (value : Json) : Except Refusal String :=
  match value with
  | .text s => if s ∈ names then .ok s else .error (refuse message)
  | .list _ => .error .typeError
  | .object _ => .error .typeError
  | _ => .error (refuse message)

/-! ## Requests -/

/-- A list of cards, as it is sent. -/
def cardList (gpuUuids : List GpuUuid) : Json := .list (gpuUuids.map fun u => .text u.1)

/-- `KeepaliveRequest.encode`. -/
def encodeRequest (r : KeepaliveRequest) : List Char :=
  encode floats (.object [("schema_version", .int keepaliveSchemaVersion),
    ("enabled", .bool r.enabled), ("gpu_uuids", cardList r.gpuUuids)])

/-- `KeepaliveRequest.decode`. -/
def decodeRequest (payload : List Char) : Except Refusal KeepaliveRequest := do
  let fields ← decodeObject floats payload
  (KeepaliveRequest.decode (.object fields)).mapError .helper

/-- `KeepaliveAttestationRequest`. -/
structure AttestationRequest where
  gpuUuids : { l : List GpuUuid // l ≠ [] }

/-- `KeepaliveAttestationRequest.encode`. -/
def AttestationRequest.encode (r : AttestationRequest) : List Char :=
  Protocol.encode floats (.object [("schema_version", .int keepaliveSchemaVersion),
    ("gpu_uuids", cardList r.gpuUuids.1)])

/-- `KeepaliveAttestationRequest.decode`. -/
def AttestationRequest.decode (payload : List Char) : Except Refusal AttestationRequest := do
  let fields ← decodeObject floats payload
  checkVersion fields
  require (hasKeys fields ["schema_version", "gpu_uuids"])
    (refuse "keepalive attestation request fields are invalid")
  let gpuUuids ← (validateGpuUuids ((fields.lookup "gpu_uuids").getD .null)).mapError .helper
  pure { gpuUuids }

/-! ## Responses -/

/-- `KeepaliveStatus`. -/
inductive Status
  | running | stopped
  deriving DecidableEq

def Status.text : Status → String
  | .running => "running"
  | .stopped => "stopped"

def outcomeText : KeepaliveOutcome → String
  | .started => "started"
  | .stopped => "stopped"
  | .unchanged => "unchanged"

/-- `KeepaliveGPUResult`. -/
structure GPUResult where
  gpuUuid : GpuUuid
  status : Status
  outcome : KeepaliveOutcome

/-- `KeepaliveResponse`. -/
structure Response where
  enabled : Bool
  results : List GPUResult

def GPUResult.json (x : GPUResult) : Json :=
  .object [("gpu_uuid", .text x.gpuUuid.1), ("status", .text x.status.text),
    ("outcome", .text (outcomeText x.outcome))]

/-- `KeepaliveResponse.encode`. -/
def Response.encode (r : Response) : List Char :=
  Protocol.encode floats (.object [("schema_version", .int keepaliveSchemaVersion),
    ("enabled", .bool r.enabled), ("results", .list (r.results.map GPUResult.json))])

def readStatus (value : Json) : Except Refusal Status := do
  let s ← oneOf ["running", "stopped"] "keepalive GPU result status is invalid" value
  pure (if s = "running" then .running else .stopped)

def readOutcome (value : Json) : Except Refusal KeepaliveOutcome := do
  let s ← oneOf ["started", "stopped", "unchanged"] "keepalive GPU result outcome is invalid" value
  pure (if s = "started" then .started else if s = "stopped" then .stopped else .unchanged)

/-- `_decode_gpu_result`. -/
def decodeGpuResult (value : Json) : Except Refusal GPUResult :=
  match value with
  | .object fields => do
    let missing := refuse "keepalive GPU result is missing a required field"
    let gpuUuid ← need (fields.lookup "gpu_uuid") missing
    let gpuUuid ← (validateGpuUuid gpuUuid).mapError .helper
    let status ← need (fields.lookup "status") missing
    let outcome ← need (fields.lookup "outcome") missing
    let status ← readStatus status
    let outcome ← readOutcome outcome
    pure { gpuUuid, status, outcome }
  | _ => .error (refuse "keepalive GPU result fields are invalid")

/-- `KeepaliveResponse.decode`. -/
def Response.decode (payload : List Char) : Except Refusal Response := do
  let fields ← decodeObject floats payload
  checkVersion fields
  let missing := refuse "keepalive response is missing a required field"
  let enabled ← need (fields.lookup "enabled") missing
  let results ← need (fields.lookup "results") missing
  match enabled, results with
  | .bool enabled, .list results => do
    let results ← results.mapM decodeGpuResult
    pure { enabled, results }
  | .bool _, _ => .error (refuse "keepalive response results must be an array")
  | _, _ => .error (refuse "keepalive response enabled is invalid")

/-- `KeepaliveWorkerAttestation`; its marker is the one marker. -/
structure WorkerAttestation where
  gpuUuid : GpuUuid
  pid : { n : ℤ // 0 < n }
  driverPid : { n : ℤ // 0 < n }
  bootId : { s : String // 1 ≤ s.length ∧ s.length ≤ 128 }
  startTimeTicks : { n : ℤ // 0 < n }

/-- `KeepaliveAttestationResponse`. -/
structure AttestationResponse where
  workers : List WorkerAttestation

def WorkerAttestation.json (x : WorkerAttestation) : Json :=
  .object [("gpu_uuid", .text x.gpuUuid.1), ("pid", .int x.pid.1),
    ("driver_pid", .int x.driverPid.1), ("boot_id", .text x.bootId.1),
    ("start_time_ticks", .int x.startTimeTicks.1), ("worker_marker", .text keepaliveWorkerMarker)]

/-- `KeepaliveAttestationResponse.encode`. -/
def AttestationResponse.encode (r : AttestationResponse) : List Char :=
  Protocol.encode floats (.object [("schema_version", .int keepaliveSchemaVersion),
    ("workers", .list (r.workers.map WorkerAttestation.json))])

/-- A positive whole number. -/
def readPositive (message : String) (value : Option Json) : Except Refusal { n : ℤ // 0 < n } :=
  match value with
  | some (.int n) => if h : 0 < n then .ok ⟨n, h⟩ else .error (refuse message)
  | _ => .error (refuse message)

/-- A boot id. -/
def readBootId (value : Option Json) :
    Except Refusal { s : String // 1 ≤ s.length ∧ s.length ≤ 128 } :=
  match value with
  | some (.text s) =>
    if h : 1 ≤ s.length ∧ s.length ≤ 128 then .ok ⟨s, h⟩
    else .error (refuse "keepalive attestation worker boot identity is invalid")
  | _ => .error (refuse "keepalive attestation worker boot identity is invalid")

def isMarker (value : Option Json) : Bool :=
  match value with
  | some (.text s) => decide (s = keepaliveWorkerMarker)
  | _ => false

/-- `_decode_worker_attestation`. -/
def decodeWorkerAttestation (value : Json) : Except Refusal WorkerAttestation :=
  match value with
  | .object fields => do
    require (hasKeys fields ["gpu_uuid", "pid", "driver_pid", "boot_id", "start_time_ticks",
      "worker_marker"]) (refuse "keepalive attestation worker fields are invalid")
    let gpuUuid ← (validateGpuUuid ((fields.lookup "gpu_uuid").getD .null)).mapError .helper
    let pid ← readPositive "keepalive attestation worker PID is invalid" (fields.lookup "pid")
    let driverPid ← readPositive "keepalive attestation worker driver PID is invalid"
      (fields.lookup "driver_pid")
    let bootId ← readBootId (fields.lookup "boot_id")
    let startTimeTicks ← readPositive "keepalive attestation worker start identity is invalid"
      (fields.lookup "start_time_ticks")
    require (isMarker (fields.lookup "worker_marker") = true)
      (refuse "keepalive attestation worker marker is invalid")
    pure { gpuUuid, pid, driverPid, bootId, startTimeTicks }
  | _ => .error (refuse "keepalive attestation worker fields are invalid")

/-- `KeepaliveAttestationResponse.decode`. -/
def AttestationResponse.decode (payload : List Char) : Except Refusal AttestationResponse := do
  let fields ← decodeObject floats payload
  checkVersion fields
  require (hasKeys fields ["schema_version", "workers"])
    (refuse "keepalive attestation response fields are invalid")
  match fields.lookup "workers" with
  | some (.list workers) => do
    let workers ← workers.mapM decodeWorkerAttestation
    pure { workers }
  | _ => .error (refuse "keepalive attestation workers must be an array")

/-! ## The state file -/

/-- What `_read_identities` makes of the text of `workers.v3.json`, `none` if there is no file. -/
def stateOfText (text : Option (List Char)) : StateFile :=
  match text with
  | none => .missing
  | some text =>
    match JsonText.loads floats.read text with
    | some value => .document value
    | none => .unreadable

/-- The text `_write_identities` leaves, `none` if it removes the file. -/
def writtenText (identities : Identities) : Option (List Char) :=
  match stateFile identities with
  | .document value => some (JsonText.print floats.print value)
  | _ => none

/-- `_read_identities`, of the state directory with this text in `workers.v3.json`. -/
def readIdentities (legacy : Bool) (text : Option (List Char)) : Except HelperError Identities :=
  StateDirectory.readIdentities ⟨legacy, stateOfText floats text⟩

end ServerPilot.Protocol
