import ServerPilot.Spec.Request

/-!
# The desktop's store

`BrokerStore` refreshes the whole state of the service it is connected to. All of it
runs on the main actor, so an event is one method from start to end, or one
assignment of an action's handler; what comes in between two of them is any other
event. A refresh task outlives its cancellation: it reports back all the same, at any
later time and with any result. `tasks` are those that have not reported yet.

`turns`, `retired`, `started` and `learned` record how often the generation was
raised, what the last invalidation and the last start raised it to, and the revisions
each service has shown. No method reads them.
-/

namespace ServerPilot.Desktop

/-! ## Snapshots -/

/-- The records of a snapshot the store compares and never looks into. -/
inductive RecordKind
  | summary | endpoint | serverGroup | gpu | lease | allocation | reservation | history | seconds

/-- `BrokerSnapshot`, over the types of its records. -/
structure BrokerSnapshot (ρ : RecordKind → Type) where
  schemaVersion : Option String := none
  snapshotRevision : Option ℤ := none
  serverTime : Option String := none
  summary : ρ .summary
  endpoints : List (ρ .endpoint) := []
  serverGroups : List (ρ .serverGroup) := []
  gpus : List (ρ .gpu) := []
  leases : List (ρ .lease) := []
  pendingAllocations : List (ρ .allocation) := []
  reservations : List (ρ .reservation) := []
  history : ρ .history
  dataAgeSeconds : Option (ρ .seconds) := none
  freshnessSeconds : Option (ρ .seconds) := none
  admissionBoundary : String := "ServerPilot 只协调资源，不执行服务器上的任务。"

variable {ρ : RecordKind → Type}

/-- `BrokerSnapshot.empty`. -/
def BrokerSnapshot.empty [Inhabited (ρ .summary)] [Inhabited (ρ .history)] : BrokerSnapshot ρ :=
  { summary := default, history := default }

/-- `isSemanticallyEquivalentForRefresh(to:)`. -/
def BrokerSnapshot.isSemanticallyEquivalentForRefresh [∀ k, DecidableEq (ρ k)]
    (s other : BrokerSnapshot ρ) : Bool :=
  decide (s.schemaVersion = other.schemaVersion) &&
    decide (s.snapshotRevision = other.snapshotRevision) &&
    decide (s.summary = other.summary) &&
    decide (s.endpoints = other.endpoints) &&
    decide (s.serverGroups = other.serverGroups) &&
    decide (s.gpus = other.gpus) &&
    decide (s.leases = other.leases) &&
    decide (s.reservations = other.reservations) &&
    decide (s.history = other.history) &&
    decide (s.dataAgeSeconds = other.dataAgeSeconds) &&
    decide (s.freshnessSeconds = other.freshnessSeconds) &&
    decide (s.admissionBoundary = other.admissionBoundary)

/-- `current_keys` of `control_plane_state`: what the state the service answers with has. -/
def currentKeys : List String :=
  ["summary", "resource_projection", "data_age_seconds", "freshness_seconds", "endpoints",
    "server_groups", "gpus", "absent_gpu_ids", "leases", "alerts", "host_capacity",
    "admission_boundary"]

/-- `payload[key] ?? []`, of the service's state. -/
def listed {α : Type} (key : String) (rows : List α) : List α :=
  if key ∈ currentKeys then rows else []

/-- `BrokerSnapshot.init(payload:)`: of the lists of `x`, those the service's state has. -/
def BrokerSnapshot.received (x : BrokerSnapshot ρ) : BrokerSnapshot ρ :=
  { x with
    endpoints := listed "endpoints" x.endpoints
    serverGroups := listed "server_groups" x.serverGroups
    gpus := listed "gpus" x.gpus
    leases := listed "leases" x.leases
    pendingAllocations := listed "pending_allocations" x.pendingAllocations
    reservations := listed "reservations" x.reservations }

/-- The snapshot is one the service can answer with. -/
def BrokerSnapshot.Served (x : BrokerSnapshot ρ) : Prop := x.received = x

instance [∀ k, DecidableEq (ρ k)] (x : BrokerSnapshot ρ) : Decidable x.Served :=
  decidable_of_iff (x.received.endpoints = x.endpoints ∧ x.received.serverGroups = x.serverGroups ∧
    x.received.gpus = x.gpus ∧ x.received.leases = x.leases ∧
    x.received.pendingAllocations = x.pendingAllocations ∧
    x.received.reservations = x.reservations) <| by
    unfold BrokerSnapshot.Served BrokerSnapshot.received
    cases x
    simp

/-! ## The store -/

/-- `BrokerRefreshFreshness`. -/
inductive BrokerRefreshFreshness
  | waiting | fresh | stale | failed
  deriving DecidableEq

/-- `Feedback.Kind`. -/
inductive FeedbackKind
  | success | refused | failure | pending
  deriving DecidableEq

/-- `Feedback`, which is compared without its id. -/
structure Feedback where
  kind : FeedbackKind
  message : String
  deriving DecidableEq

/-- A refresh task, with the client and the actor it took along. `turn` is its generation, counted
without bound. -/
structure RefreshTask where
  generation : UInt64
  service : ℕ
  actorID : String
  turn : ℕ
  deriving DecidableEq

/-- `BrokerStore`, as far as refreshes and the outcome of actions go. -/
structure BrokerStore (ρ : RecordKind → Type) where
  snapshot : BrokerSnapshot ρ
  lastGoodSnapshot : Option (BrokerSnapshot ρ) := none
  freshness : BrokerRefreshFreshness := .waiting
  isConnected : Bool := false
  isRefreshing : Bool := false
  lastUpdated : Option Time := none
  actorID : String
  notice : Option String := none
  errorMessage : Option String := none
  feedback : Option Feedback := none
  windowVisible : Bool := true
  snapshotClient : Option ℕ := none
  activeRefreshTask : Option RefreshTask := none
  pendingRefresh : Bool := false
  lastRefreshStartedAt : Option Time := none
  consecutiveRefreshFailures : ℕ := 0
  refreshOwnsError : Bool := false
  refreshGeneration : UInt64 := 0
  discardedRefreshGeneration : Option UInt64 := none
  minimumRequiredSnapshotRevision : Option ℤ := none
  refreshInterval : Time
  tasks : List RefreshTask := []
  turns : ℕ := 0
  retired : ℕ := 0
  started : ℕ := 0
  learned : List (ℕ × ℤ) := []

/-- `failuresBeforeStale`. -/
def failuresBeforeStale : ℕ := 2

/-- `refreshSpacingHiddenSeconds`. -/
def refreshSpacingHidden : Time := seconds 60

/-- The text of `BrokerRefreshError.snapshotRevisionBehind`. -/
def snapshotRevisionBehind (required : ℤ) (received : Option ℤ) : String :=
  "本机服务返回了旧资源快照（" ++ (received.map toString).getD "未知" ++ "，需要至少 " ++
    toString required ++ "）。请稍后刷新。"

/-- What a failed refresh puts up. -/
def refreshFailed (description : String) : String := "无法更新资源：" ++ description

namespace BrokerStore

variable (s : BrokerStore ρ)

/-- A store that never connected. -/
def initial [Inhabited (ρ .summary)] [Inhabited (ρ .history)] (actorID : String)
    (refreshInterval : Time) : BrokerStore ρ :=
  { snapshot := .empty, actorID, refreshInterval }

/-! ### Messages -/

/-- `errorMessage = message`, with its `didSet`. -/
def setErrorMessage (message : Option String) : BrokerStore ρ :=
  { s with
    errorMessage := message
    feedback := match message with
      | some text => if s.refreshOwnsError then s.feedback else some ⟨.failure, text⟩
      | none => s.feedback }

/-- `notice = text`, with its `didSet`. -/
def setNotice (notice : Option String) : BrokerStore ρ :=
  { s with
    notice
    feedback := match notice with
      | some text => some ⟨.success, text⟩
      | none => s.feedback }

/-- `allowsMutations`. -/
def allowsMutations : Bool :=
  s.snapshotClient.isSome && s.isConnected && decide (s.freshness = .fresh)

/-- `mutationUnavailableReason`. -/
def mutationUnavailableReason : String :=
  if s.snapshotClient = none then "当前为只读测试夹具或尚未连接本机服务，不能执行资源变更。"
  else if s.isConnected = false then "本机服务连接已中断，不能基于旧数据执行资源变更。请先刷新重试。"
  else "资源尚未更新，请刷新后重试。"

/-! ### Refreshes -/

/-- `invalidateActiveRefresh`. -/
def invalidateActiveRefresh : BrokerStore ρ :=
  { s with
    refreshGeneration := s.refreshGeneration + 1
    pendingRefresh := false
    discardedRefreshGeneration := none
    activeRefreshTask := none
    isRefreshing := false
    turns := s.turns + 1
    retired := s.turns + 1 }

/-- The task `startRefresh` creates. -/
def nextTask (service : ℕ) : RefreshTask :=
  { generation := s.refreshGeneration + 1, service, actorID := s.actorID, turn := s.turns + 1 }

/-- `startRefresh`. -/
def startRefresh (now : Time) : BrokerStore ρ :=
  match s.snapshotClient with
  | none => s
  | some service =>
    { s with
      lastRefreshStartedAt := some now
      refreshGeneration := s.refreshGeneration + 1
      isRefreshing := true
      activeRefreshTask := some (s.nextTask service)
      tasks := s.nextTask service :: s.tasks
      turns := s.turns + 1
      started := s.turns + 1 }

/-- `requestRefresh`. -/
def requestRefresh (now : Time) : BrokerStore ρ :=
  if s.snapshotClient = none then s
  else if s.activeRefreshTask.isSome then { s with pendingRefresh := true }
  else s.startRefresh now

/-- `requestRefreshIfDue`. -/
def requestRefreshIfDue (now : Time) : BrokerStore ρ :=
  let spacing := if s.windowVisible then s.refreshInterval else refreshSpacingHidden
  match s.lastRefreshStartedAt with
  | some last => if now - last < spacing then s else s.requestRefresh now
  | none => s.requestRefresh now

/-- `windowVisible = visible`, with its `didSet`. -/
def setWindowVisible (visible : Bool) (now : Time) : BrokerStore ρ :=
  let seen := { s with windowVisible := visible }
  if visible && !s.windowVisible then seen.requestRefresh now else seen

/-- `setActor`, its argument trimmed. -/
def setActor (cleaned : String) (now : Time) : BrokerStore ρ :=
  if cleaned = "" then s.setErrorMessage (some "本机操作标识不能为空。")
  else
    (({ s with actorID := cleaned }.setNotice
      (some ("本机操作记录已切换为：" ++ cleaned ++ "。"))).invalidateActiveRefresh).requestRefresh now

/-- `configureSnapshotClient`. -/
def configureSnapshotClient (service : ℕ) (now : Time) : BrokerStore ρ :=
  { s.invalidateActiveRefresh with snapshotClient := some service }.requestRefresh now

/-- `raiseMinimumRequiredSnapshotRevision`, of an answer of `service`. -/
def raiseMinimumRequiredSnapshotRevision (service : ℕ) (revision : Option ℤ) : BrokerStore ρ :=
  match revision with
  | none => s
  | some revision =>
    { s with
      minimumRequiredSnapshotRevision := some <|
        match s.minimumRequiredSnapshotRevision with
        | some required => max required revision
        | none => revision
      discardedRefreshGeneration :=
        if s.activeRefreshTask.isSome then some s.refreshGeneration
        else s.discardedRefreshGeneration
      pendingRefresh := s.activeRefreshTask.isSome || s.pendingRefresh
      learned := (service, revision) :: s.learned }

/-- The revision a snapshot must have reached. -/
def requiredRevision : ℤ :=
  max (s.minimumRequiredSnapshotRevision.getD 0)
    ((s.lastGoodSnapshot.bind BrokerSnapshot.snapshotRevision).getD 0)

/-- `snapshotRevisionFloorError`, as its description. -/
def snapshotRevisionFloorError (x : BrokerSnapshot ρ) : Option String :=
  match x.snapshotRevision with
  | some received =>
    if s.requiredRevision ≤ received then none
    else some (snapshotRevisionBehind s.requiredRevision x.snapshotRevision)
  | none => some (snapshotRevisionBehind s.requiredRevision x.snapshotRevision)

/-- The end of `completeRefresh` that reports a failed refresh. -/
def reportRefreshFailure (description : String) : BrokerStore ρ :=
  let failed := { s with
    isConnected := false
    freshness := if s.lastGoodSnapshot.isNone then .failed else .stale
    refreshOwnsError := true }
  if s.errorMessage = some (refreshFailed description) then failed
  else failed.setErrorMessage (some (refreshFailed description))

/-- The branch of `completeRefresh` for a failed request. -/
def refreshFailure (description : String) : BrokerStore ρ :=
  let counted := { s with consecutiveRefreshFailures := s.consecutiveRefreshFailures + 1 }
  if s.lastGoodSnapshot.isSome ∧
    counted.consecutiveRefreshFailures < failuresBeforeStale then counted
  else counted.reportRefreshFailure description

/-- The branch of `completeRefresh` for a snapshot that is let through. -/
def acceptSnapshot [∀ k, DecidableEq (ρ k)] (service : ℕ) (x : BrokerSnapshot ρ) (now : Time) :
    BrokerStore ρ :=
  { s with
    snapshot := if s.snapshot.isSemanticallyEquivalentForRefresh x then s.snapshot else x
    lastGoodSnapshot :=
      match s.lastGoodSnapshot with
      | some good => if good.isSemanticallyEquivalentForRefresh x then some good else some x
      | none => some x
    freshness := .fresh
    isConnected := true
    lastUpdated := some now
    consecutiveRefreshFailures := 0
    errorMessage := if s.refreshOwnsError then none else s.errorMessage
    refreshOwnsError := false
    minimumRequiredSnapshotRevision :=
      match s.minimumRequiredSnapshotRevision, x.snapshotRevision with
      | some required, some revision => if required ≤ revision then none else some required
      | required, _ => required
    learned := x.snapshotRevision.toList.map (Prod.mk service) ++ s.learned }

/-- What `completeRefresh` does with a result that is not discarded. -/
def useResult [∀ k, DecidableEq (ρ k)] (task : RefreshTask)
    (result : Except String (BrokerSnapshot ρ)) (now : Time) : BrokerStore ρ :=
  match result with
  | .ok x =>
    match s.snapshotRevisionFloorError x with
    | some description => s.reportRefreshFailure description
    | none => s.acceptSnapshot task.service x now
  | .error description => s.refreshFailure description

/-- The end of `completeRefresh`. -/
def finishRefresh (now : Time) : BrokerStore ρ :=
  if s.pendingRefresh then { s with pendingRefresh := false }.startRefresh now
  else { s with isRefreshing := false }

/-- `activeRefreshTask = nil`. -/
def idle : BrokerStore ρ := { s with activeRefreshTask := none }

/-- What `completeRefresh` does with the result of the task in force. -/
def hear [∀ k, DecidableEq (ρ k)] (task : RefreshTask) (result : Except String (BrokerSnapshot ρ))
    (now : Time) : BrokerStore ρ :=
  if s.discardedRefreshGeneration = some task.generation then
    { s.idle with discardedRefreshGeneration := none }
  else s.idle.useResult task result now

/-- `completeRefresh`. -/
def completeRefresh [∀ k, DecidableEq (ρ k)] (task : RefreshTask)
    (result : Except String (BrokerSnapshot ρ)) (now : Time) : BrokerStore ρ :=
  if task.generation ≠ s.refreshGeneration then s
  else (s.hear task result now).finishRefresh now

/-- A task ends as it reports back. -/
def endTask (task : RefreshTask) : BrokerStore ρ := { s with tasks := s.tasks.erase task }

end BrokerStore

/-! ## Events -/

/-- What happens to the store: a method, or an assignment a handler of an action makes. -/
inductive Event (ρ : RecordKind → Type)
  | connect (service : ℕ) (now : Time)
  | setActor (value : String) (now : Time)
  | reload (now : Time)
  | requestRefreshIfDue (now : Time)
  | setWindowVisible (visible : Bool) (now : Time)
  /-- A refresh task reports back. -/
  | completeRefresh (task : RefreshTask) (result : Except String (BrokerSnapshot ρ)) (now : Time)
  /-- The guard `performMutation` starts with. -/
  | performMutation
  /-- `service` acknowledges a mutation. -/
  | acknowledge (service : ℕ) (revision : Option ℤ)
  | setErrorMessage (message : Option String)
  | setNotice (notice : Option String)
  | setFeedback (feedback : Option Feedback)

/-- The response an event brings is one the service can answer with. -/
def Event.Served : Event ρ → Prop
  | .completeRefresh _ (.ok x) _ => x.Served
  | _ => True

/-- One event. -/
def BrokerStore.step [∀ k, DecidableEq (ρ k)] (s : BrokerStore ρ) : Event ρ → BrokerStore ρ
  | .connect service now => s.configureSnapshotClient service now
  | .setActor value now => s.setActor value now
  | .reload now => s.requestRefresh now
  | .requestRefreshIfDue now => s.requestRefreshIfDue now
  | .setWindowVisible visible now => s.setWindowVisible visible now
  | .completeRefresh task result now =>
    if task ∈ s.tasks then (s.endTask task).completeRefresh task result now else s
  | .performMutation =>
    if s.allowsMutations then s else s.setErrorMessage (some s.mutationUnavailableReason)
  | .acknowledge service revision => s.raiseMinimumRequiredSnapshotRevision service revision
  | .setErrorMessage message => s.setErrorMessage message
  | .setNotice notice => s.setNotice notice
  | .setFeedback feedback => { s with feedback }

end ServerPilot.Desktop
