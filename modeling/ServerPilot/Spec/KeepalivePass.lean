import ServerPilot.Spec.Reclaim
import ServerPilot.Spec.StartBatch
import ServerPilot.Spec.Summary

/-!
# One reconciliation of a server

`list_keepalive_transitions` of one server, every entry of it, and
`reconcile_endpoint_keepalive`, which carries the entries out: the cleanups first,
then the starts, the recoveries and the stops. Anything may be committed while the
server waits for a remote answer.
-/

namespace ServerPilot

open Rows Checked

/-! ## The plan -/

/-- An entry of the plan. -/
inductive Transition
  | stop (gpuId gpuUuid leaseId : String)
  | cleanup (gpuId gpuUuid : String)
  | start (gpuId gpuUuid : String)
  | recover (gpuId gpuUuid : String)
  | ineligible (gpuId gpuUuid : String) (state : Option GpuState) (reason : String)
  deriving DecidableEq, Repr

def Transition.gpuId : Transition → String
  | stop g .. | cleanup g _ | start g _ | recover g _ | ineligible g .. => g

/-- The entry asks for work. -/
def Transition.executable : Transition → Bool
  | ineligible .. => false
  | _ => true

section

variable (cfg : Config) (cooldown now : Time) (b : Broker)

/-- A process runs on a keeper's card that is not known to be its worker. -/
def Broker.needsConfirmation (gpuId : String) : Bool :=
  let processes := b.plant.currentProcesses gpuId
  let current := b.plant.keepalive? gpuId
  let expected := current.bind KeepaliveCurrent.expectedKey
  !processes.isEmpty && ((current.all fun c => c.actual = .error) || expected.isNone ||
    !processes.all fun x => some x.key = expected)

/-- The entry for a card that is leased. -/
def Broker.leasedTransition (g : GPUDevice) (lease : Lease) : Option Transition :=
  let processes := b.plant.currentProcesses g.id
  if lease.kind ≠ .keepalive then none
  else if b.needsConfirmation g.id then
    if processes.length = 1 then some (.recover g.id g.gpuUuid)
    else some (.ineligible g.id g.gpuUuid none
      "occupancy has additional processes; automatic recovery is blocked")
  else if lease.state ≠ .active ∨ processes = [] then some (.start g.id g.gpuUuid)
  else none

/-- The entry for a card that is not leased. -/
def Broker.freeTransition (g : GPUDevice) : Option Transition :=
  match b.gpuState cfg now g with
  | (.available, _) =>
    let remaining := b.ledger.cooldownRemaining cooldown g.id now
    if 0 < remaining then
      some (.ineligible g.id g.gpuUuid (some .available)
        ("workload lease released recently; keepalive start cooldown has " ++
          toString (remaining / 1000000) ++ "s remaining"))
    else some (.start g.id g.gpuUuid)
  | (state, some reason) =>
    if reason = "" then none else some (.ineligible g.id g.gpuUuid (some state) reason)
  | (_, none) => none

def Broker.idleTransition (g : GPUDevice) : Option Transition :=
  match b.ledger.activeLeaseForGpu g.id with
  | some lease => b.leasedTransition g lease
  | none => b.freeTransition cfg cooldown now g

/-- `list_keepalive_transitions`, of one server. -/
def Broker.keepaliveTransitions (e : Endpoint) : List Transition :=
  let gpus := b.plant.cardsOf e.id
  let cleanups := b.plannedCleanups e
  ((b.plannedStops e).map fun s => .stop s.2 (b.plant.uuidOf s.2) s.1) ++
    (cleanups.map fun g => .cleanup g (b.plant.uuidOf g)) ++
    if e.keepalivePolicy ≠ .idleKeepalive then []
    else if e.keepaliveAdapterId = none then
      gpus.map fun g => .ineligible g.id g.gpuUuid none
        "endpoint has no sealed keepalive adapter configured"
    else (gpus.filter fun g => g.id ∉ cleanups).filterMap (b.idleTransition cfg cooldown now)

end

/-! ## Carrying it out -/

/-- A recovery: the attestation, what is committed until the endpoint is collected, whether that
and the confirmation succeed, and when they run. -/
structure RecoverWorld where
  attest : Reply (List WorkerAttestation)
  meanwhile : List Op := []
  collected : Bool := true
  confirms : Bool := true
  notBefore : Time
  confirmedAt : Time
  token : String → String

/-- The stop of one card: what is committed before its lease is looked up, the helper's answer,
what is committed until the endpoint is collected, and when the lease is ended. -/
structure StopWorld where
  before : List Op := []
  reply : Reply (List HelperResult)
  meanwhile : List Op := []
  collected : Bool := true
  notBefore : Time
  finalizedAt : Time

/-- What happens around one reconciliation. -/
structure PassWorld where
  resolves : String → Bool
  beforePlan : List Op := []
  plannedAt : Time
  cleanup : Reply (List HelperResult)
  duringCleanup : List Op := []
  afterCleanup : List Op := []
  cleanedAt : Time
  start : StartWorld
  recover : RecoverWorld
  stop : String → StopWorld

/-- The end of a section: the state it leaves, and the exception it raises. -/
abbrev Section := Broker × Option Fault

variable (cfg : Config) (w : PassWorld) (actor : ActorContext) (endpointId key : String)

/-- The cleanups: the cards stay marked where the helper did not stop all of them. -/
def cleanupSection (targets : StartTargets) (b : Broker) : Section :=
  if targets = [] then (b, none)
  else
    let b := Run.run (exec cfg) b w.duringCleanup
    match w.cleanup.verified (resultByGpuUuid (targets.map Prod.snd) false) with
    | .answered _ =>
      let b := Run.run (exec cfg) b w.afterCleanup
      match finishKeepaliveCleanup w.cleanedAt actor endpointId (targets.map Prod.fst) b with
      | .ok (b', _) => (b', none)
      | .error f => (b, some f)
    | _ => (b, none)

/-- The starts. -/
def startSection (targets : StartTargets) (b : Broker) : Section :=
  if targets = [] then (b, none)
  else
    let s := startBatch cfg w.start endpointId targets actor key b
    (s.broker, s.error.map fun code => refuse code "空闲占卡未能启动，将在下一次采集后重试。" 503
      [("failed_gpu_ids", .texts (targets.map Prod.fst))])

/-- The recoveries: a confirmation, and nothing to take back where it fails. -/
def recoverSection (targets : StartTargets) (b : Broker) : Section :=
  let failed (code : String) : Fault :=
    refuse code "空闲占卡身份校验失败，将在下一次采集后重试。" 503
  if targets = [] then (b, none)
  else
    match w.recover.attest.verified (attestedIdentities (targets.map Prod.snd)) with
    | .adapterError message uncertain => (b, some (failed (adapterFailureCode message uncertain)))
    | .brokerError code => (b, some (refuse code
        "endpoint keepalive worker evidence could not be verified" 503))
    | .failed => (b, some (failed "keepalive_attestation_invalid"))
    | .answered identities =>
      let b := Run.run (exec cfg) b w.recover.meanwhile
      if !w.recover.collected then
        (b, some (refuse "keepalive_observation_failed"
          "endpoint keepalive state could not be observed" 503))
      else if !w.recover.confirms then (b, some (failed "keepalive_attestation_invalid"))
      else
        match activateKeepalives cfg w.recover.confirmedAt actor endpointId (targets.map Prod.fst)
            w.recover.notBefore (key ++ ":recover-batch")
            (some (confirmedIdentities targets identities)) w.recover.token b with
        | .ok (b', _) => (b', none)
        | .error (.refused e) => (b, some (.refused e))
        | .error _ => (b, some (failed "keepalive_attestation_invalid"))

/-- A keeper to stop. -/
structure StopTarget where
  gpuId : String
  gpuUuid : String
  leaseId : String
  deriving DecidableEq, Repr

/-- The stops so far: the targets that may be stopped, and the cards whose stop failed, each with
the code of its failure. -/
structure Stopping where
  broker : Broker
  prepared : List StopTarget := []
  failures : List (String × String) := []
  raised : Option Fault := none

def Stopping.fail (x : Stopping) (b : Broker) (t : StopTarget) (code : String) : Stopping :=
  { x with broker := b, failures := x.failures ++ [(t.gpuId, code)] }

/-- Look one target's lease up: it must be the planned one. -/
def prepareStop (x : Stopping) (t : StopTarget) : Stopping :=
  if x.raised.isSome then x
  else
    let b := Run.run (exec cfg) x.broker (w.stop t.gpuId).before
    match prepareKeepaliveStop actor endpointId t.gpuId b with
    | .ok leaseId =>
      if leaseId = some t.leaseId then { x with broker := b, prepared := x.prepared ++ [t] }
      else x.fail b t "keepalive_transition_plan_invalid"
    | .error (.refused e) => x.fail b t e.code
    | .error f => { x with broker := b, raised := some f }

/-- The code of a stop the helper did not answer, if it is one. -/
def StopWorld.adapterCode (s : StopWorld) (gpuUuid : String) : Option String :=
  match s.reply.verified (resultByGpuUuid [gpuUuid] false) with
  | .answered _ => none
  | .adapterError message uncertain => some (adapterFailureCode message uncertain)
  | .brokerError code => some code
  | .failed => some "keepalive_adapter_failed"

/-- Stop one card, collect the endpoint whatever the helper said, and end the lease. -/
def stopOne (x : Stopping) (t : StopTarget) : Stopping :=
  if x.raised.isSome then x
  else
    let s := w.stop t.gpuId
    let b := Run.run (exec cfg) x.broker s.meanwhile
    if !s.collected then
      x.fail b t ((s.adapterCode t.gpuUuid).getD "keepalive_observation_failed")
    else
      match finalizeKeepaliveStop s.finalizedAt actor endpointId t.leaseId s.notBefore
          (some (key ++ ":stop:" ++ t.gpuId)) b with
      | .ok (b', _) => { x with broker := b' }
      | .error (.refused e) => x.fail b t ((s.adapterCode t.gpuUuid).getD e.code)
      | .error f => { x with broker := b, raised := some f }

/-- The answer to stops of which some failed. -/
def stopsFailed (failures : List (String × String)) : Fault :=
  let failed : Details := [("failed_gpu_ids", .texts (failures.map Prod.fst))]
  if failures.all fun f => f.2 = "keepalive_helper_unreachable" then
    refuse "keepalive_helper_unreachable"
      "暂时连不上这台服务器的占卡 helper，没有改动任何占卡，稍后重试。" 503
      (keepaliveFailureDetails (some "keepalive_helper_unreachable") failed)
  else if failures.all fun f => f.2 = "keepalive_helper_incompatible" then
    refuse "keepalive_helper_incompatible"
      "占卡 helper 版本或能力不匹配，请先完成该服务器的 helper 升级。" 503 failed
  else refuse "keepalive_partial_stop"
    "已逐卡结束占卡；仍有 GPU 未能确认释放，请确认这些 GPU 上没有运行中的进程后再清理。" 409 failed

/-- Every lease is looked up first: what is prepared is what the helper will be asked to stop. -/
def lookUpStops (targets : List StopTarget) (b : Broker) : Stopping :=
  targets.foldl (prepareStop cfg w actor endpointId) { broker := b }

/-- Then the cards are stopped, one by one. -/
def stopEach (x : Stopping) : Stopping := x.prepared.foldl (stopOne cfg w actor endpointId key) x

/-- The stops. -/
def stopSection (targets : List StopTarget) (b : Broker) : Section :=
  let x := stopEach cfg w actor endpointId key (lookUpStops cfg w actor endpointId targets b)
  (x.broker, x.raised.or (if x.failures = [] then none else some (stopsFailed x.failures)))

/-- Go on where nothing was raised. -/
def Section.andThen (x : Section) (f : Broker → Section) : Section :=
  match x with
  | (b, none) => f b
  | (b, some fault) => (b, some fault)

/-- The entries of one kind, as the batches take them. -/
def cleanupsOf (plan : List Transition) : StartTargets :=
  plan.filterMap fun | .cleanup g u => some (g, u) | _ => none

def startsOf (plan : List Transition) : StartTargets :=
  plan.filterMap fun | .start g u => some (g, u) | _ => none

def recoversOf (plan : List Transition) : StartTargets :=
  plan.filterMap fun | .recover g u => some (g, u) | _ => none

def stopsOf (plan : List Transition) : List StopTarget :=
  plan.filterMap fun | .stop g u x => some ⟨g, u, x⟩ | _ => none

/-- The work of a plan, section after section. -/
def carryOut (plan : List Transition) (b : Broker) : Section :=
  (((cleanupSection cfg w actor endpointId (cleanupsOf plan) b).andThen
    (startSection cfg w actor endpointId key (startsOf plan))).andThen
    (recoverSection cfg w actor endpointId key (recoversOf plan))).andThen
    (stopSection cfg w actor endpointId key (stopsOf plan))

/-- `reconcile_endpoint_keepalive`. -/
def reconcileEndpointKeepalive (cooldown : Time) (b : Broker) : Section :=
  match b.plant.collectorEndpoint endpointId with
  | .error f => (b, some f)
  | .ok endpoint =>
    let b := Run.run (exec cfg) b w.beforePlan
    match b.plant.endpoint? endpointId with
    | none => (b, some (refuse "endpoint_not_found" "endpoint does not exist" 404))
    | some row =>
      let plan := b.keepaliveTransitions cfg cooldown w.plannedAt row
      if plan.all fun t => !t.executable then (b, none)
      else
        match endpoint.val.keepaliveAdapterId with
        | none => (b, some (refuse "keepalive_not_configured"
            "endpoint keepalive is not configured" 409))
        | some adapterId =>
          if w.resolves adapterId then carryOut cfg w actor endpointId key plan b
          else (b, some (refuse "keepalive_not_configured"
            "endpoint keepalive adapter is unavailable" 409))

end ServerPilot
