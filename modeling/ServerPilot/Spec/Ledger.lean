import ServerPilot.Lib.Checked
import ServerPilot.Spec.Tables

/-!
# The state, its transactions and its indexes

`Broker` is the whole database. A domain operation reads it, may refuse, and
otherwise ends in `commit`, which enforces every unique index and foreign key of
the schema: what an operation leaves behind satisfies them, or it never happened.
-/

namespace ServerPilot

open Rows Checked

/-! ## Responses -/

/-- `_lease_dict`: a lease row with its active cards. -/
structure LeaseDict where
  lease : Lease
  gpuIds : List String
  absentGpuIds : List String
  workloads : List WorkloadBinding
  deriving DecidableEq, Repr

/-- One entry of `at_risk` or `kept_idle`. -/
structure CardRisk where
  gpuId : String
  reclaimAt : Time
  windowsLeft : ℤ
  deriving DecidableEq, Repr

/-- One entry of `_unseen_changes`. -/
structure SeenChange where
  action : String
  at_ : Time
  summary : Details
  deriving DecidableEq, Repr

/-- What an operation answers. -/
inductive Response
  | done
  | lease (eventId revision : ℕ) (lease : LeaseDict)
  | existing (revision : ℕ) (lease : LeaseDict)
  | resized (lease : LeaseDict) (added removed : List String) (epoch revision : ℕ)
  | takenOver (lease : LeaseDict) (revision : ℕ)
  | heartbeat (leaseId : String) (recorded : Bool) (at_ : Option Time) (kept : List CardRisk)
  | view (leaseId : String) (state : LeaseState) (taskRef : String) (gpuCount : ℕ) (epoch : ℕ)
      (changes : List SeenChange) (atRisk : List CardRisk) (kept : Option (List CardRisk))
  | ended (leaseId : String) (state : LeaseState) (taskRef : String) (epoch : ℕ)
      (changes : List SeenChange) (reason : Option String) (at_ : Option Time)
  | endpoint (eventId revision : ℕ) (endpointId : String)
  | keepalive (leaseIds : List String) (revision : ℕ)
  | allocation (allocationId : String) (firstAttempt : Bool)
  | releases (allocationIds : List String)
  deriving DecidableEq, Repr

structure IdempotencyRecord where
  actorId : String
  action : String
  key : String
  response : Response
  createdAt : Time
  deriving DecidableEq, Repr

/-! ## The state -/

structure Ledger where
  projects : List Project := []
  leases : List Lease := []
  resources : List LeaseResource := []
  commitments : List Commitment := []
  allocations : List ResourceAllocation := []
  bindings : List WorkloadBinding := []
  audit : List AuditEvent := []
  idempotency : List IdempotencyRecord := []
  revision : ℕ := 0
  deriving DecidableEq, Repr

structure Broker where
  plant : Plant := {}
  ledger : Ledger := {}
  deriving DecidableEq, Repr

/-! ## Refusals -/

/-- `BrokerError`. -/
structure BrokerError where
  code : String
  message : String
  statusCode : ℕ := 400
  details : Details := []
  deriving DecidableEq, Repr

/-- Why a transaction was rolled back. -/
inductive Fault
  | refused (e : BrokerError)
  | integrity (index : String)
  | raised (what : String)
  deriving DecidableEq, Repr

abbrev Tx := Except Fault

/-- `raise BrokerError(code, message, status_code, details)`. -/
def refuse (code message : String) (statusCode : ℕ := 400) (details : Details := []) : Fault :=
  .refused { code, message, statusCode, details }

/-- `_require_role`. -/
def requireRole (actor : ActorContext) (allowed : List String) : Tx Unit :=
  require (actor.role ∈ allowed)
    (refuse "forbidden_role" ("role " ++ actor.role ++ " is not allowed for this operation") 403)

/-! ## Rows by key -/

def Plant.endpoint? (p : Plant) (id : String) : Option Endpoint := row? Endpoint.id id p.endpoints

def Plant.gpu? (p : Plant) (id : String) : Option GPUDevice := row? GPUDevice.id id p.gpus

/-- `_latest_telemetry`. A card that has a reading in the history has its row here: one transaction
writes both, and nothing deletes the row while the card is on file. -/
def Plant.telemetry? (p : Plant) (id : String) : Option TelemetryCurrent :=
  row? TelemetryCurrent.gpuId id p.telemetry

def Plant.host? (p : Plant) (endpointId nodeId : String) : Option HostTelemetry :=
  row? (fun h => (h.endpointId, h.nodeId)) (endpointId, nodeId) p.hosts

def Plant.nodeState? (p : Plant) (endpointId nodeId : String) : Option NodeObservationState :=
  row? (fun s => (s.endpointId, s.nodeId)) (endpointId, nodeId) p.nodeStates

def Plant.providerState? (p : Plant) (endpointId : String) : Option ProviderState :=
  row? ProviderState.endpointId endpointId p.providerStates

def Plant.keepalive? (p : Plant) (id : String) : Option KeepaliveCurrent :=
  row? KeepaliveCurrent.gpuId id p.keepalive

def Ledger.project? (l : Ledger) (id : String) : Option Project := row? Project.id id l.projects

def Ledger.lease? (l : Ledger) (id : String) : Option Lease := row? Lease.id id l.leases

def Ledger.allocation? (l : Ledger) (id : String) : Option ResourceAllocation :=
  row? ResourceAllocation.id id l.allocations

/-- The active cards of a lease, `LeaseResource.active` rows in insertion order. -/
def Ledger.cards (l : Ledger) (leaseId : String) : List LeaseResource :=
  l.resources.filter fun r => r.leaseId = leaseId ∧ r.active = true

/-- Every active card row, the rows of the partial index `uq_active_lease_resource_gpu`. -/
def Ledger.activeResources (l : Ledger) : List LeaseResource :=
  l.resources.filter fun r => r.active = true

/-- `_allocations`, up to order. -/
def Ledger.allocationsOf (l : Ledger) (leaseId : String) : List ResourceAllocation :=
  l.allocations.filter fun a => a.leaseId = some leaseId

/-! ## Writes -/

def Ledger.editLease (l : Ledger) (id : String) (f : Lease → Lease) : Ledger :=
  { l with leases := updWhere (fun x => x.id = id) f l.leases }

def Ledger.editResources (l : Ledger) (p : LeaseResource → Bool)
    (f : LeaseResource → LeaseResource) : Ledger :=
  { l with resources := updWhere p f l.resources }

def Ledger.editAllocations (l : Ledger) (p : ResourceAllocation → Bool)
    (f : ResourceAllocation → ResourceAllocation) : Ledger :=
  { l with allocations := updWhere p f l.allocations }

/-- `_bump_revision`; the new value is `revision` of the result. -/
def Ledger.bumpRevision (l : Ledger) : Ledger := { l with revision := l.revision + 1 }

/-- The id the next audit row gets: one past the largest. -/
def Ledger.nextAuditId (l : Ledger) : ℕ := (l.audit.map AuditEvent.id).foldr max 0 + 1

/-- `_audit`. -/
def Ledger.addAudit (l : Ledger) (actorId : Option String) (action resourceType resourceId : String)
    (result : String) (summary : Details) (now : Time) : Ledger :=
  { l with audit := l.audit ++ [{
      id := l.nextAuditId, actorId, action, resourceType, resourceId, result, summary
      createdAt := now }] }

/-- `_lease_dict`. -/
def Broker.leaseDict (b : Broker) (lease : Lease) : LeaseDict :=
  let gpuIds := (b.ledger.cards lease.id).map LeaseResource.gpuId
  { lease, gpuIds
    absentGpuIds := gpuIds.filter fun g => (b.plant.gpu? g).any fun gpu => !gpu.present
    workloads := if lease.kind = .keepalive then []
      else b.ledger.bindings.filter fun w => w.leaseId = lease.id }

/-- `_lease_dict` of the row with this id, as it now stands. -/
def Broker.leaseDictOf (b : Broker) (lease : Lease) : LeaseDict :=
  b.leaseDict ((b.ledger.lease? lease.id).getD lease)

/-! ## Idempotency -/

/-- `_idempotent`: a recorded answer, or nothing for a key not used yet. -/
def Ledger.idempotent (l : Ledger) (actor : ActorContext) (action key : String) :
    Tx (Option Response) := do
  require (key ≠ "" ∧ key.length ≤ 255) (refuse "idempotency_key_required"
    "a non-empty Idempotency-Key of at most 255 characters is required" 422)
  pure ((l.idempotency.find? fun r =>
    r.actorId = actor.id ∧ r.action = action ∧ r.key = key).map IdempotencyRecord.response)

/-- `_remember_idempotency`. -/
def Ledger.rememberIdempotency (l : Ledger) (actor : ActorContext) (action key : String)
    (response : Response) (now : Time) : Ledger :=
  { l with idempotency := l.idempotency ++
      [{ actorId := actor.id, action, key, response, createdAt := now }] }

/-- The answer stored under a key, where the caller sent one. -/
def Ledger.replay (l : Ledger) (actor : ActorContext) (action : String) (key : Option String) :
    Tx (Option Response) :=
  match key with
  | some k => l.idempotent actor action k
  | none => pure none

/-- Store the answer under its key, where the caller sent one. -/
def Ledger.remember (l : Ledger) (actor : ActorContext) (action : String) (key : Option String)
    (response : Response) (now : Time) : Ledger :=
  match key with
  | some k => l.rememberIdempotency actor action k response now
  | none => l

end ServerPilot
