import ServerPilot.Spec.Op

/-!
# Applying for a task that already has cards

`apply_lease` reads who holds the task, and `redeclare_task` then works from what
it read: a takeover, a second read, and a resize, each on the state of its own
moment. A `Redeclaration` is one such call together with what others commit in
between.
-/

namespace ServerPilot

open Checked

/-- `ApplyBody`, as far as `redeclare_task` reads it. -/
structure ApplyBody where
  project : String
  task : String
  gpuCount : ℕ := 1
  serverGroupId : Option String := none
  serverId : Option String := none
  change : Bool := false
  takeOver : Bool := false
  project_len : 1 ≤ project.length ∧ project.length ≤ 64
  task_len : 1 ≤ task.length ∧ task.length ≤ 255
  gpuCount_bounds : 1 ≤ gpuCount ∧ gpuCount ≤ 1024

/-- `idle_card_ids`: the cards of a lease that run nothing. -/
def Broker.idleCardIds (b : Broker) (leaseId : String) : List String :=
  ((b.ledger.cards leaseId).map LeaseResource.gpuId).filter fun g => b.plant.currentProcesses g = []

/-- The constraints of a claim for `addCount` more cards: where the caller says, or where the lease
has cards. -/
def Broker.resizeConstraints (b : Broker) (leaseId : String) (addCount : ℕ)
    (serverId serverGroupId : Option String) : ResourceConstraints :=
  let c : ResourceConstraints := { gpuCount := addCount, sameHost := true }
  match serverGroupId, serverId with
  | some group, _ => { c with serverGroupIds := [group] }
  | none, some server => { c with endpointIds := [server] }
  | none, none =>
    { c with
      endpointIds := ((b.ledger.cards leaseId).map fun r =>
        b.plant.endpointOf r.gpuId).dedup.insertionSort (· ≤ ·) }

/-- What the fields of a `RequestCreate` made from a lease must satisfy. -/
def Lease.fitsRequest (x : Lease) (c : ResourceConstraints) : Prop :=
  (1 ≤ x.projectId.length ∧ x.projectId.length ≤ 64) ∧
    (1 ≤ x.taskRef.length ∧ x.taskRef.length ≤ 255) ∧
    (1 ≤ x.purpose.length ∧ x.purpose.length ≤ 1000) ∧
    (60 ≤ x.durationSeconds ∧ x.durationSeconds ≤ undeclaredDurationSeconds) ∧ c.Valid

instance (x : Lease) (c : ResourceConstraints) : Decidable (x.fitsRequest c) :=
  inferInstanceAs (Decidable (_ ∧ _ ∧ _ ∧ _ ∧ _))

/-- `resize_request_data`. -/
def Broker.resizeRequestData (b : Broker) (actor : ActorContext) (leaseId : String) (addCount : ℕ)
    (serverId serverGroupId : Option String) : Tx RequestCreate := do
  let lease ← b.ledger.agentLease actor leaseId
  let c := b.resizeConstraints lease.id addCount serverId serverGroupId
  if h : lease.fitsRequest c then
    pure { projectId := lease.projectId, taskRef := lease.taskRef, purpose := lease.purpose
           durationSeconds := lease.durationSeconds, constraints := c
           projectId_len := h.1, taskRef_len := h.2.1, purpose_len := h.2.2.1
           duration_bounds := h.2.2.2.1, constraints_valid := h.2.2.2.2 }
  else throw (.raised "ValidationError")

/-- The takeover `redeclare_task` begins with, when the task is not the caller's. -/
def ApplyBody.handover (body : ApplyBody) (now : Time) (actor : ActorContext) (h : TaskHolding) :
    Tx (Option Op) :=
  if h.mine then pure none
  else do
    require (body.takeOver = true) (refuse "task_already_held" "这个任务已有租约" 409
      [("gpu_count", .number h.gpuCount), ("held_by_you", .flag false)])
    pure (some (.takeOverLease now actor (some h.leaseId) none body.project
      "session took over the task" false))

/-- What `redeclare_task` goes on to do. -/
inductive Plan
  | keep
  | change (addRequest : Option RequestCreate) (removeGpuIds : List String)

/-- `redeclare_task`, from the cards it counted to the resize it asks for. -/
def ApplyBody.plan (body : ApplyBody) (actor : ActorContext) (h : TaskHolding) (b : Broker) :
    Tx Plan :=
  -- asking again for what it holds
  if body.gpuCount = h.gpuCount then pure .keep
  else do
    require (body.change = true) (refuse "task_already_held" "这个任务已有租约，卡数不同" 409
      [("gpu_count", .number h.gpuCount), ("held_by_you", .flag true)])
    if h.gpuCount < body.gpuCount then
      let data ← b.resizeRequestData actor h.leaseId (body.gpuCount - h.gpuCount) body.serverId
        body.serverGroupId
      pure (.change (some data) [])
    else
      let idle := b.idleCardIds h.leaseId
      let back := h.gpuCount - body.gpuCount
      require (back ≤ idle.length) (refuse "card_in_use" "空闲的卡不够归还" 409
        [("idle_cards", .number idle.length), ("to_return", .number back)])
      pure (.change none (idle.take back))

/-- An `apply_lease` that changes a held task: what it read, what it asks for, and what is committed
before it plans (its own takeover among it) and before its resize runs. -/
structure Redeclaration where
  body : ApplyBody
  actor : ActorContext
  holding : TaskHolding
  before : List Op
  after : List Op
  addRequest : Option RequestCreate
  removeGpuIds : List String
  now : Time
  token : String → String

namespace Redeclaration

variable (cfg : Config) (r : Redeclaration) (b : Broker)

/-- The resize the call ends with. No epoch is expected of the lease. -/
def resize : Op :=
  .resizeLease r.now r.actor r.holding.leaseId r.addRequest r.removeGpuIds none r.token

/-- The state the resize runs on, of a call that reads who holds the task in `b`. -/
def meets : Broker := Run.run (exec cfg) (Run.run (exec cfg) b r.before) r.after

/-- The call reads who holds the task in `b`, plans, and its resize is accepted. -/
structure Commits (b' : Broker) (response : Response) : Prop where
  held : b.taskHolding r.actor r.body.project r.body.task = some r.holding
  handed : ∃ now handover, r.body.handover now r.actor r.holding = .ok handover ∧
    ∀ op ∈ handover, op ∈ r.before
  planned : r.body.plan r.actor r.holding (Run.run (exec cfg) b r.before) =
    .ok (.change r.addRequest r.removeGpuIds)
  accepted : r.resize.apply cfg (r.meets cfg b) = .ok (b', response)

end Redeclaration

end ServerPilot
