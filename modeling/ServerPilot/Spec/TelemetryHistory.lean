import ServerPilot.Spec.Request

/-!
# Telemetry histories

`BrokerStore` fetches the history of one endpoint and range at a time, and keeps the
last dozen. A request that is no longer wanted is cancelled, but its task reports
back all the same; the generation of its key tells a late answer apart. `running` are
the tasks that have not reported yet.

`connection`, `turns`, `latest` and `deeds` record how often the store was connected,
how often the generation of a key was raised, the last request for a key to the
service connected now, and what the last event did and for which request. No method
reads them.
-/

namespace ServerPilot.Desktop

/-- `EndpointTelemetryRange`. -/
inductive EndpointTelemetryRange
  | oneHour | sixHours | twentyFourHours
  deriving DecidableEq

/-- `EndpointTelemetryRange.allCases`. -/
def EndpointTelemetryRange.allCases : List EndpointTelemetryRange :=
  [.oneHour, .sixHours, .twentyFourHours]

/-- `EndpointTelemetryHistoryCacheKey`. -/
structure HistoryKey where
  endpointID : String
  range : EndpointTelemetryRange
  deriving DecidableEq

/-- `EndpointTelemetryHistory`: its samples and series are only compared. -/
structure EndpointTelemetryHistory (η : Type) where
  endpointID : String
  range : EndpointTelemetryRange
  samples : η
  deriving DecidableEq

/-- A history task, with the client it took along. `number` tells all requests apart, and `turn` is
the generation, counted without bound. -/
structure HistoryTask where
  key : HistoryKey
  generation : UInt64
  client : ℕ
  number : ℕ
  connection : ℕ
  turn : ℕ
  deriving DecidableEq

/-- `CachedEndpointTelemetryHistory`, with the request it answers. -/
structure CachedHistory (η : Type) where
  history : EndpointTelemetryHistory η
  fetchedAt : Time
  request : ℕ

/-- What an event did for a key: kept a history, put one on the screen, or put up an error. The
request is missing where the call itself was turned down. -/
inductive DeedKind
  | cached | presented | reported
  deriving DecidableEq

structure Deed where
  kind : DeedKind
  key : HistoryKey
  request : Option ℕ
  deriving DecidableEq

/-- `BrokerStore`, as far as telemetry histories go. -/
structure HistoryStore (η : Type) where
  supported : Bool := false
  client : Option ℕ := none
  history : String → Option (EndpointTelemetryHistory η) := fun _ => none
  loading : String → Bool := fun _ => false
  errors : String → Option String := fun _ => none
  tasks : HistoryKey → Option HistoryTask := fun _ => none
  generations : HistoryKey → Option UInt64 := fun _ => none
  cache : HistoryKey → Option (CachedHistory η) := fun _ => none
  recency : List HistoryKey := []
  activeKey : Option HistoryKey := none
  running : List HistoryTask := []
  requests : ℕ := 0
  connection : ℕ := 0
  turns : HistoryKey → ℕ := fun _ => 0
  latest : HistoryKey → Option ℕ := fun _ => none
  deeds : List Deed := []

/-- `endpointTelemetryHistoryCacheMaximumAge`. -/
def cacheMaximumAge : Time := seconds 30

/-- `endpointTelemetryHistoryCacheLimit`. -/
def cacheLimit : ℕ := 12

/-- `d[key] = value`. -/
def setKey {α β : Type} [DecidableEq α] (d : α → β) (key : α) (value : β) : α → β :=
  fun k => if k = key then value else d k

namespace HistoryStore

variable {η : Type} (s : HistoryStore η)

/-- `invalidateEndpointTelemetryHistoryWork`. -/
def invalidate : HistoryStore η :=
  { s with
    tasks := fun _ => none
    generations := fun _ => none
    cache := fun _ => none
    recency := []
    activeKey := none
    loading := fun _ => false
    errors := fun _ => none
    history := fun _ => none
    connection := s.connection + 1
    turns := fun _ => 0
    latest := fun _ => none }

/-- `configureSnapshotClient`, as far as histories go. -/
def configure (client : Option ℕ) (supported : Bool) : HistoryStore η :=
  { s.invalidate with client, supported }

/-- A request for another key is in flight. -/
def inactive (key k : HistoryKey) : Bool := decide (k ≠ key) && (s.tasks k).isSome

/-- `cancelInactiveEndpointTelemetryHistoryRequests`. -/
def cancelInactive (key : HistoryKey) : HistoryStore η :=
  { s with
    tasks := fun k => if s.inactive key k then none else s.tasks k
    generations := fun k =>
      if s.inactive key k then some ((s.generations k).getD 0 + 1) else s.generations k
    turns := fun k => if s.inactive key k then s.turns k + 1 else s.turns k
    loading := fun e => s.loading e &&
      !(EndpointTelemetryRange.allCases.any fun range => s.inactive key ⟨e, range⟩)
    activeKey := if s.activeKey = some key then s.activeKey else none }

/-- The part of `cachedEndpointTelemetryHistory` that drops an entry too old. -/
def dropCached (key : HistoryKey) : HistoryStore η :=
  { s with cache := setKey s.cache key none, recency := s.recency.filter fun k => decide (k ≠ key) }

/-- `recency.removeAll { $0 == key }; recency.append(key)`. -/
def touch (key : HistoryKey) : HistoryStore η :=
  { s with recency := (s.recency.filter fun k => decide (k ≠ key)) ++ [key] }

/-- `cachedEndpointTelemetryHistory`: what it leaves, and what it finds. -/
def cachedHistory (key : HistoryKey) (now : Time) : HistoryStore η × Option (CachedHistory η) :=
  match s.cache key with
  | none => (s, none)
  | some cached =>
    if max 0 (now - cached.fetchedAt) ≤ cacheMaximumAge then (s.touch key, some cached)
    else (s.dropCached key, none)

/-- The loop of `cacheEndpointTelemetryHistory`: the least recent keys are forgotten. -/
def evict : List HistoryKey → (HistoryKey → Option (CachedHistory η)) →
    List HistoryKey × (HistoryKey → Option (CachedHistory η))
  | [], cache => ([], cache)
  | k :: rest, cache =>
    if cacheLimit < rest.length + 1 then evict rest (setKey cache k none) else (k :: rest, cache)

/-- `cacheEndpointTelemetryHistory`. -/
def cacheHistory (h : EndpointTelemetryHistory η) (key : HistoryKey) (request : ℕ) (now : Time) :
    HistoryStore η :=
  let kept := s.touch key
  let left := evict kept.recency (setKey s.cache key (some ⟨h, now, request⟩))
  { kept with
    cache := left.2
    recency := left.1
    deeds := ⟨.cached, key, some request⟩ :: s.deeds }

/-- `presentEndpointTelemetryHistory`. -/
def present (h : EndpointTelemetryHistory η) (key : HistoryKey) (request : ℕ) : HistoryStore η :=
  { s with
    history := setKey s.history key.endpointID (some h)
    loading := setKey s.loading key.endpointID false
    errors := setKey s.errors key.endpointID none
    deeds := ⟨.presented, key, some request⟩ :: s.deeds }

/-- `endpointTelemetryHistoryErrors[key.endpointID] = message`, and nothing is loading. -/
def report (message : String) (key : HistoryKey) (request : Option ℕ) : HistoryStore η :=
  { s with
    loading := setKey s.loading key.endpointID false
    errors := setKey s.errors key.endpointID (some message)
    deeds := ⟨.reported, key, request⟩ :: s.deeds }

/-- The message of `setEndpointTelemetryHistoryError`. -/
def historyFailed (description : String) : String := "无法读取资源历史：" ++ description

/-- The text of `BrokerRefreshError.invalidSnapshot`. -/
def invalidSnapshot : String := "本机服务返回了无法读取的资源快照。"

/-- The end of `requestEndpointTelemetryHistory`: a request is made. -/
def startHistory (key : HistoryKey) (client : ℕ) : HistoryStore η :=
  let task : HistoryTask :=
    { key, generation := (s.generations key).getD 0 + 1, client, number := s.requests
      connection := s.connection, turn := s.turns key + 1 }
  { s with
    generations := setKey s.generations key (some task.generation)
    activeKey := some key
    loading := setKey s.loading key.endpointID true
    errors := setKey s.errors key.endpointID none
    tasks := setKey s.tasks key (some task)
    running := task :: s.running
    requests := s.requests + 1
    turns := setKey s.turns key task.turn
    latest := setKey s.latest key (some task.number) }

/-- `requestEndpointTelemetryHistory`. -/
def requestHistory (key : HistoryKey) (now : Time) : HistoryStore η :=
  if s.supported = false then s.report "当前本机服务未提供资源历史能力。" key none
  else
    match s.client with
    | none => s.report "资源历史客户端尚未连接。" key none
    | some client =>
      let looked := (s.cancelInactive key).cachedHistory key now
      match looked.2 with
      | some cached =>
        { { looked.1 with activeKey := some key }.present cached.history key cached.request with
          activeKey := none }
      | none =>
        if (looked.1.tasks key).isSome then looked.1 else looked.1.startHistory key client

/-- The request for the key in force is over. -/
def finishRequest (key : HistoryKey) (isActive : Bool) : HistoryStore η :=
  { s with
    tasks := setKey s.tasks key none
    activeKey := if isActive then none else s.activeKey
    loading := if isActive then setKey s.loading key.endpointID false else s.loading }

/-- What `completeEndpointTelemetryHistory` does with the result. -/
def useHistory (key : HistoryKey) (request : ℕ) (isActive : Bool)
    (result : Except String (EndpointTelemetryHistory η)) (now : Time) : HistoryStore η :=
  match result with
  | .ok h =>
    if h.endpointID = key.endpointID ∧ h.range = key.range then
      let cached := s.cacheHistory h key request now
      if isActive then cached.present h key request else cached
    else s.report (historyFailed invalidSnapshot) key (some request)
  | .error description =>
    if isActive then s.report (historyFailed description) key (some request) else s

/-- `completeEndpointTelemetryHistory`. -/
def completeHistory (task : HistoryTask) (result : Except String (EndpointTelemetryHistory η))
    (now : Time) : HistoryStore η :=
  if s.generations task.key ≠ some task.generation then s
  else
    let isActive := decide (s.activeKey = some task.key)
    (s.finishRequest task.key isActive).useHistory task.key task.number isActive result now

/-- A task ends as it reports back. -/
def endTask (task : HistoryTask) : HistoryStore η := { s with running := s.running.erase task }

/-- An event has done nothing yet. -/
def silent : HistoryStore η := { s with deeds := [] }

end HistoryStore

/-- What happens to the histories of a store. -/
inductive HistoryEvent (η : Type)
  | connect (client : Option ℕ) (supported : Bool)
  | request (key : HistoryKey) (now : Time)
  | complete (task : HistoryTask) (result : Except String (EndpointTelemetryHistory η)) (now : Time)

/-- One event, with its own deeds. -/
def HistoryStore.step {η : Type} (s : HistoryStore η) : HistoryEvent η → HistoryStore η
  | .connect client supported => s.silent.configure client supported
  | .request key now => s.silent.requestHistory key now
  | .complete task result now =>
    if task ∈ s.running then (s.silent.endTask task).completeHistory task result now else s.silent

end ServerPilot.Desktop
