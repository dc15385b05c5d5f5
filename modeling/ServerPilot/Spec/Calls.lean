import ServerPilot.Spec.Op

/-!
# Calls under a key

The six operations that take an idempotency key, as their callers meet them. Four
are one transaction. `release_lease` turns to the provider of a delegated lease
before it writes, and `claim_provider` chooses its provider before it looks
anything up.
-/

namespace ServerPilot

open Checked

/-- When a call runs, and the identifiers it would give out. -/
structure Draw where
  now : Time
  leaseId : String
  allocationId : String
  token : String → String

/-- How a call goes: the broker answers it (`claim_provider` also with nothing), or the provider of
this allocation is asked. -/
inductive Course
  | answered (result : Tx (Broker × Option Response))
  | remote (allocationId : String)

/-- A call that one transaction answers. -/
def Course.settled (t : Tx (Broker × Response)) : Course :=
  .answered (t.map fun x => (x.1, some x.2))

/-- What `release_lease` checks before it reads the ledger. -/
def requireRelease (actor : ActorContext) (reason : String) (operatorOverride : Bool) : Tx Unit :=
  do
  requireRole actor mutatingRoles
  require (operatorOverride = true → actor.role ∈ ["operator", "admin"]) (refuse
    "operator_role_required" "human lease correction requires an operator role" 403)
  require (strip reason ≠ "") (refuse "release_reason_required" "释放 GPU 时需要提供原因" 422)

/-- `release_lease`: an allocation the actor may give back goes to its provider before the write. -/
def releaseCourse (d : Draw) (actor : ActorContext) (leaseId reason key : String)
    (operatorOverride : Bool) (b : Broker) : Course :=
  match requireRelease actor reason operatorOverride,
      b.releasableAllocation actor leaseId operatorOverride with
  | .ok _, some p => .remote p.allocationId
  | _, _ => .settled (releaseLease d.now actor leaseId reason (some key) operatorOverride d.token b)

/-- `claim_provider`: the provider is chosen, then the claim is prepared. -/
def claimCourse (cfg : Config) (d : Draw) (actor : ActorContext) (r : RequestCreate) (key : String)
    (b : Broker) : Course :=
  match (do requireRole actor mutatingRoles; chooseProvider cfg b r) with
  | .error e => .answered (.error e)
  | .ok none => .answered (.ok (b, none))
  | .ok (some (e, plugin)) =>
    match claimPrepare d.now actor r (some key) e.id plugin d.allocationId b with
    | .ok (_, .allocation allocationId _) => .remote allocationId
    | t => .settled t

/-- A call under a key, with its payload. -/
inductive KeyedCall
  | createRequest (r : RequestCreate) (persistent : Bool)
  | claimProvider (r : RequestCreate)
  | releaseLease (leaseId reason : String) (operatorOverride : Bool)
  | reassignLeaseGpus (leaseId : String) (gpuIds : List String) (operatorOverride : Bool)
  | updateEndpoint (endpointId : String) (u : EndpointUpdate)
  | deleteEndpoint (endpointId : String)

/-- The action a call's answer is stored under. -/
def KeyedCall.action : KeyedCall → String
  | createRequest .. | claimProvider .. => "request.create"
  | releaseLease .. => "lease.release"
  | reassignLeaseGpus .. => "lease.gpus.reassign"
  | updateEndpoint .. => "endpoint.update"
  | deleteEndpoint .. => "endpoint.delete"

/-- The transaction a call ends with, which stores its answer. -/
def KeyedCall.last (d : Draw) (actor : ActorContext) (key : String) : KeyedCall → Op
  | createRequest r persistent =>
    .createRequest d.now actor r (some key) persistent d.leaseId d.token
  | claimProvider r => .claimFinish d.now actor r (some key) d.allocationId d.leaseId
  | releaseLease leaseId reason override =>
    .releaseLease d.now actor leaseId reason (some key) override d.token
  | reassignLeaseGpus leaseId gpuIds override =>
    .reassignLeaseGpus d.now actor leaseId gpuIds key override d.token
  | updateEndpoint endpointId u => .updateEndpoint d.now actor endpointId u key
  | deleteEndpoint endpointId => .deleteEndpoint d.now actor endpointId key

/-- How a call goes on a state. -/
def KeyedCall.course (cfg : Config) (d : Draw) (actor : ActorContext) (key : String) (b : Broker) :
    KeyedCall → Course
  | claimProvider r => claimCourse cfg d actor r key b
  | releaseLease leaseId reason override => releaseCourse d actor leaseId reason key override b
  | c => .settled ((c.last d actor key).apply cfg b)

end ServerPilot
