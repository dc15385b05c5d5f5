import ServerPilot.Spec.Calls
import ServerPilot.Spec.Handoff
import ServerPilot.Spec.Redeclare

/-!
# Stopping keepers for a claim

`claim_request_now` and `change_cards` try once, and when the answer is
`no_capacity` turn to `reclaim_keepalive_for_claim`: plan, stop the planned
keepers, look again, end their leases, try once more. Each transaction is
committed on its own, so what a failed reclaim did stays done.
-/

namespace ServerPilot

open Rows Checked

/-- What happens around a reclaim: which adapters there are, how a stop command ends, what the
collection after it commits and whether it succeeded, and when the transactions run. -/
structure ReclaimWorld where
  resolves : String → Bool
  /-- The code `set_enabled` fails with, if it fails. -/
  stopFails : String → List String → Option String
  collected : String → List Op
  observed : String → Bool
  plannedAt : Time
  notBefore : String → Time
  finalizedAt : String → Time

/-- A reclaim under way: the state, and the stop commands sent so far. -/
structure Reclaiming where
  broker : Broker
  stopped : List (String × List String)

/-- How a reclaim goes on: it raises, it declines, or the keepers are gone. -/
inductive ReclaimOutcome
  | raised (f : Fault)
  | declined
  | cleared
  deriving DecidableEq

/-- The code of a refusal. -/
def Fault.code : Fault → Option String
  | refused e => some e.code
  | integrity _ | raised _ => none

/-! ## The plan, checked by its caller -/

/-- What the caller checks of a plan before it touches a keeper. -/
def ReclaimPlan.Usable (plan : ReclaimPlan) : Prop :=
  plan.complete = true ∧ plan.transitions ≠ [] ∧
    (∀ t ∈ plan.transitions,
      t.endpointId ≠ "" ∧ t.gpuId ≠ "" ∧ t.gpuUuid ≠ "" ∧ t.leaseId ≠ "") ∧
    (plan.transitions.map ReclaimTarget.gpuId).Nodup

instance : DecidablePred ReclaimPlan.Usable := fun _ =>
  inferInstanceAs (Decidable (_ ∧ _ ∧ _ ∧ _))

/-- The targets of each endpoint, endpoints in the order of the plan. -/
def targetsByEndpoint (targets : List ReclaimTarget) : List (String × List ReclaimTarget) :=
  (targets.map ReclaimTarget.endpointId).eraseDups.map fun e =>
    (e, targets.filter fun t => t.endpointId = e)

/-! ## One endpoint -/

/-- `collector_endpoint`. -/
def Plant.collectorEndpoint (p : Plant) (endpointId : String) : Tx EndpointConfig := do
  let e ← need (p.endpoint? endpointId)
    (refuse "endpoint_not_collectable" "endpoint does not exist" 404)
  if h : (p.endpointFields e).Valid then pure ⟨p.endpointFields e, h⟩
  else throw (.raised "ValidationError")

/-- `prepare_keepalive_stop`: the keeper's lease on a card, if there is one. -/
def prepareKeepaliveStop (actor : ActorContext) (endpointId gpuId : String) (b : Broker) :
    Tx (Option String) := do
  requireRole actor mutatingRoles
  let _ ← need (b.plant.endpoint? endpointId)
    (refuse "endpoint_not_found" "endpoint does not exist" 404)
  requireEndpointManager actor
  let g ← need ((b.plant.gpu? gpuId).filter fun g => g.endpointId = endpointId)
    (refuse "keepalive_gpu_mismatch" "GPU does not belong to the endpoint" 409)
  pure (((b.ledger.activeLeaseForGpu g.id).filter fun l => l.kind = .keepalive).map Lease.id)

/-- Prepare every target; the first whose lease is not the planned one ends it. -/
def prepareTargets (actor : ActorContext) (endpointId : String) (b : Broker) :
    List ReclaimTarget → Tx Bool
  | [] => pure true
  | t :: ts => do
    let leaseId ← prepareKeepaliveStop actor endpointId t.gpuId b
    if leaseId = some t.leaseId then prepareTargets actor endpointId b ts else pure false

/-- `_keepalive_failure_details`. -/
def keepaliveFailureDetails (code : Option String) (details : Details) : Details :=
  if code = some "keepalive_helper_unreachable" then
    details ++ [("retry_after_seconds", .number 30)]
  else details

/-- The refusal of a stop that was not confirmed: the adapter's code first. -/
def notConfirmed (adapterCode : Option String) (details : Details) : Fault → Fault
  | .refused e => refuse (adapterCode.getD e.code) "占卡 GPU 未能确认释放，本次没有分配任务。" 503
      (keepaliveFailureDetails adapterCode details)
  | f => f

/-- End the keeper of each target, one transaction a card. -/
def finalizeTargets (cfg : Config) (w : ReclaimWorld) (actor : ActorContext) (key : Option String)
    (endpointId : String) (adapterCode : Option String) :
    List ReclaimTarget → Broker → Broker × Option Fault
  | [], b => (b, none)
  | t :: ts, b =>
    match finalizeKeepaliveStop (w.finalizedAt endpointId) actor endpointId t.leaseId
        (w.notBefore endpointId) (key.map fun k => k ++ ":reclaim:" ++ t.gpuId) b with
    | .ok (b', _) => finalizeTargets cfg w actor key endpointId adapterCode ts b'
    | .error f => (b, some (notConfirmed adapterCode [("gpu_id", .text t.gpuId)] f))

/-- From the stop command on: the command itself, the collection, the end of the leases. -/
def stopTargets (cfg : Config) (w : ReclaimWorld) (actor : ActorContext) (key : Option String)
    (endpointId : String) (targets : List ReclaimTarget) (x : Reclaiming) :
    Reclaiming × ReclaimOutcome :=
  let uuids := targets.map ReclaimTarget.gpuUuid
  let adapterCode := w.stopFails endpointId uuids
  let failed : Details := [("failed_gpu_ids", .texts (targets.map ReclaimTarget.gpuId))]
  let stopped := x.stopped ++ [(endpointId, uuids)]
  let b := Run.run (exec cfg) x.broker (w.collected endpointId)
  if w.observed endpointId = false then
    ({ broker := b, stopped }, .raised (notConfirmed adapterCode failed
      (refuse "keepalive_observation_failed" "endpoint keepalive state could not be observed" 503)))
  else
    match finalizeTargets cfg w actor key endpointId adapterCode targets b with
    | (b', some f) => ({ broker := b', stopped }, .raised f)
    | (b', none) =>
      match adapterCode with
      | some code => ({ broker := b', stopped }, .raised (refuse code
          "占卡程序停止失败，本次没有分配任务。" 503 (keepaliveFailureDetails adapterCode failed)))
      | none => ({ broker := b', stopped }, .cleared)

/-- Stop the keepers of one endpoint. -/
def reclaimEndpoint (cfg : Config) (w : ReclaimWorld) (actor : ActorContext) (key : Option String)
    (endpointId : String) (targets : List ReclaimTarget) (x : Reclaiming) :
    Reclaiming × ReclaimOutcome :=
  match x.broker.plant.collectorEndpoint endpointId with
  | .error f => (x, .raised f)
  | .ok e =>
    if e.val.keepaliveAdapterId.any w.resolves = false then (x, .declined)
    else
      match prepareTargets actor endpointId x.broker targets with
      | .error f => (x, .raised f)
      | .ok false => (x, .declined)
      | .ok true => stopTargets cfg w actor key endpointId targets x

/-- Stop the keepers of one endpoint after the other. -/
def reclaimEndpoints (cfg : Config) (w : ReclaimWorld) (actor : ActorContext)
    (key : Option String) : List (String × List ReclaimTarget) → Reclaiming →
      Reclaiming × ReclaimOutcome
  | [], x => (x, .cleared)
  | (endpointId, targets) :: rest, x =>
    match reclaimEndpoint cfg w actor key endpointId targets x with
    | (x', .cleared) => reclaimEndpoints cfg w actor key rest x'
    | other => other

/-- `reclaim_keepalive_for_claim`, up to the second attempt. -/
def reclaimKeepaliveForClaim (cfg : Config) (w : ReclaimWorld) (actor : ActorContext)
    (r : RequestCreate) (key : Option String) (b : Broker) : Reclaiming × ReclaimOutcome :=
  let plan := planKeepaliveReclaim cfg w.plannedAt r b
  let x : Reclaiming := { broker := b, stopped := [] }
  if plan.Usable then
    reclaimEndpoints cfg w actor key (targetsByEndpoint plan.transitions) x
  else (x, .declined)

/-! ## The two calls -/

/-- How a call ends: answered, or at the provider of this allocation. -/
inductive HandoffAnswer
  | answered (result : Tx Response)
  | remote (allocationId : String)

/-- What a call leaves behind. -/
structure Handoff where
  broker : Broker
  stopped : List (String × List String)
  answer : HandoffAnswer

/-- An attempt's transaction, on the state a reclaim left. -/
def Reclaiming.attempt (x : Reclaiming) (t : Broker → Tx (Broker × Response)) : Handoff :=
  match t x.broker with
  | .ok (b, response) => { broker := b, stopped := x.stopped, answer := .answered (.ok response) }
  | .error f => { broker := x.broker, stopped := x.stopped, answer := .answered (.error f) }

/-- `claim_provider`, which the claim turns to last; without a provider it is refused as first. -/
def claimElsewhere (cfg : Config) (d : Draw) (actor : ActorContext) (r : RequestCreate)
    (key : Option String) (first : Fault) (x : Reclaiming) : Handoff :=
  let refused (f : Fault) : Handoff :=
    { broker := x.broker, stopped := x.stopped, answer := .answered (.error f) }
  match (do requireRole actor mutatingRoles; chooseProvider cfg x.broker r) with
  | .error f => refused f
  | .ok none => refused first
  | .ok (some (e, plugin)) =>
    match claimPrepare d.now actor r key e.id plugin d.allocationId x.broker with
    | .error f => refused f
    | .ok (b, .allocation allocationId _) =>
      { broker := b, stopped := x.stopped, answer := .remote allocationId }
    | .ok (b, response) =>
      { broker := b, stopped := x.stopped, answer := .answered (.ok response) }

/-- `claim_request_now`; `d` is drawn for the first attempt, `d'` for what follows. -/
def claimRequestNow (cfg : Config) (w : ReclaimWorld) (d d' : Draw) (actor : ActorContext)
    (r : RequestCreate) (key : Option String) (persistent : Bool) (b : Broker) : Handoff :=
  let create (d : Draw) := createRequest cfg d.now actor r key persistent d.leaseId d.token
  match create d b with
  | .ok (b', response) => { broker := b', stopped := [], answer := .answered (.ok response) }
  | .error f =>
    if f.code = some "no_capacity" then
      match reclaimKeepaliveForClaim cfg w actor r key b with
      | (x, .raised f') =>
        { broker := x.broker, stopped := x.stopped, answer := .answered (.error f') }
      | (x, .cleared) => x.attempt (create d')
      | (x, .declined) => claimElsewhere cfg d' actor r key f x
    else { broker := b, stopped := [], answer := .answered (.error f) }

/-- `change_cards` with cards to add. -/
def changeCards (cfg : Config) (w : ReclaimWorld) (d d' : Draw) (actor : ActorContext)
    (leaseId : String) (addCount : ℕ) (serverId serverGroupId : Option String)
    (removeGpuIds : List String) (expectedEpoch : Option ℕ) (b : Broker) : Handoff :=
  match b.resizeRequestData actor leaseId addCount serverId serverGroupId with
  | .error f => { broker := b, stopped := [], answer := .answered (.error f) }
  | .ok data =>
    let resize (d : Draw) :=
      resizeLease cfg d.now actor leaseId (some data) removeGpuIds expectedEpoch d.token
    match resize d b with
    | .ok (b', response) => { broker := b', stopped := [], answer := .answered (.ok response) }
    | .error f =>
      if f.code = some "no_capacity" then
        match reclaimKeepaliveForClaim cfg w actor data none b with
        | (x, .raised f') =>
          { broker := x.broker, stopped := x.stopped, answer := .answered (.error f') }
        | (x, .cleared) => x.attempt (resize d')
        -- `explained_no_capacity` keeps the code and adds details
        | (x, .declined) =>
          { broker := x.broker, stopped := x.stopped, answer := .answered (.error f) }
      else { broker := b, stopped := [], answer := .answered (.error f) }

end ServerPilot
