import ServerPilot.Spec.Collect

/-!
# Connections

A plugin may manage a login session of its own. The user's intent and the outcome
of the last attempt are one row an endpoint (`EndpointConnection`);
`set_connection` states the intent and tries it, `maintain_connections` looks for
sessions to restore and tries those. Both are coroutines, and an endpoint's
attempts go through one `asyncio.Lock`: what each does between two awaits is one
step here. `Link` is all there is of one endpoint, and `log` what happened to it,
the latest first.
-/

namespace ServerPilot

/-! ## Rows -/

/-- `EndpointConnection.state`. -/
inductive ConnectionState
  | disconnected | connecting | disconnecting | connected | recovering | networkUnavailable
  | actionRequired
  deriving DecidableEq, Repr

/-- `ConnectionFact.error_code`. -/
inductive ConnectionErrorCode
  | authFailed | networkUnreachable | sessionMissing | connectionFailed
  deriving DecidableEq, Repr

/-- The states a plugin may report. -/
def ConnectionState.reported (s : ConnectionState) : Bool :=
  decide (s ∈ [.connected, .disconnected, .networkUnavailable, .actionRequired])

/-- `ConnectionFact`. -/
structure ConnectionFact where
  state : ConnectionState
  errorCode : Option ConnectionErrorCode := none
  message : String
  state_reported : state.reported = true
  message_len : message.length ≤ 500

/-- What a `PluginError` of an attempt is recorded as. -/
def connectionFailed : ConnectionFact :=
  { state := .actionRequired, errorCode := some .connectionFailed
    message := "连接操作失败；自动恢复已停止，请检查插件配置后重新连接。"
    state_reported := rfl, message_len := by decide }

structure EndpointConnection where
  desired : Bool := false
  state : ConnectionState := .disconnected
  errorCode : Option ConnectionErrorCode := none
  message : Option String := none
  lastAttemptAt : Option Time := none
  connectedAt : Option Time := none
  updatedAt : Time
  deriving DecidableEq, Repr

namespace EndpointConnection

/-- `intent`, of the row there is or a new one. -/
def intent (record : Option EndpointConnection) (enabled : Bool) (now : Time) :
    EndpointConnection :=
  { record.getD { updatedAt := now } with
    desired := enabled, state := if enabled then .connecting else .disconnecting
    errorCode := none, message := none, updatedAt := now }

/-- `started`. -/
def started (r : EndpointConnection) (now : Time) : EndpointConnection :=
  { r with lastAttemptAt := some now, updatedAt := now }

/-- `finished`. -/
def finished (r : EndpointConnection) (fact : ConnectionFact) (now : Time) : EndpointConnection :=
  { r with
    state := fact.state, errorCode := fact.errorCode, message := some fact.message
    updatedAt := now
    connectedAt := if fact.state = .connected then some now else r.connectedAt }

end EndpointConnection

/-! ## Coroutines -/

/-- A coroutine that attempts a connection: a user's call, with the plugin it found, or a
restoration with the profile the pass read, and the session failure it is due to if it is due to
one. -/
inductive Job
  | user (enabled : Bool) (plugin : String)
  | automatic (profile : String) (because : Option Time)
  deriving DecidableEq, Repr

/-- How far the coroutine inside the lock has come. -/
inductive Phase
  | entered | intended | running
  deriving DecidableEq, Repr

/-- What happens to an endpoint's connection. -/
inductive Event
  | intended (enabled : Bool)
  | started (job : Job)
  | ended (state : ConnectionState) (now : Time)
  | completed (enabled : Bool) (plugin : String)
  | deleted
  | raised
  deriving DecidableEq, Repr

/-- What the end of an attempt completes: a user's call. -/
def Job.completion : Job → List Event
  | .user enabled plugin => [.completed enabled plugin]
  | .automatic .. => []

/-- One endpoint: its observation profile, where it exists, its connection and provider rows, and
its lock with the coroutine inside it, those queued for it, and those that have not asked yet.
`enabledFor` is the plugin of the last enabling intent; neither it nor `log` is read by the code. -/
structure Link where
  profile : Option String := none
  record : Option EndpointConnection := none
  failure : Option ProviderState := none
  called : List Job := []
  waiters : List Job := []
  holder : Option (Job × Phase) := none
  enabledFor : Option String := none
  log : List Event := []
  deriving DecidableEq, Repr

namespace Link

/-- `set_connection`, up to its lock: `supports` says which profiles declare `connect`. -/
def setConnection (supports : String → Bool) (enabled : Bool) (l : Link) : Link :=
  match l.profile.filter supports with
  | some plugin => { l with called := l.called ++ [.user enabled plugin] }
  | none => l

/-- The time of the session failure a connected row is restored for. -/
def sessionLost (l : Link) (r : EndpointConnection) : Option Time :=
  (l.failure.filter fun s => s.lastErrorCode = some "session_missing" ∧
    ∀ t ∈ r.connectedAt, t < s.lastAttemptAt).map ProviderState.lastAttemptAt

/-- `due`, of one endpoint. -/
def due (l : Link) : Option Job :=
  match l.record, l.profile with
  | some r, some profile =>
    if r.desired = false ∨ r.state = .actionRequired then none
    else if r.state ∈ [.connecting, .recovering, .networkUnavailable] then
      some (.automatic profile none)
    else if r.state = .connected then
      (l.sessionLost r).map fun t => .automatic profile (some t)
    else none
  | _, _ => none

/-- One pass of `maintain_connections` finds the endpoint due, or not. -/
def pass (l : Link) : Link := { l with called := l.called ++ l.due.toList }

/-- `async with lock`: the lock at once when it is free and nobody is queued. -/
def acquire (j : Job) (l : Link) : Link :=
  if l.holder = none ∧ l.waiters = [] then { l with holder := some (j, .entered) }
  else { l with waiters := l.waiters ++ [j] }

/-- A coroutine comes to the lock. A restoration leaves when it is locked. -/
def enter (i : ℕ) (l : Link) : Link :=
  match l.called[i]? with
  | none => l
  | some j =>
    let l := { l with called := l.called.eraseIdx i }
    match j with
    | .automatic .. => if l.holder = none then l.acquire j else l
    | .user .. => l.acquire j

/-- The first of the queue gets the free lock. -/
def wake (l : Link) : Link :=
  match l.holder, l.waiters with
  | none, j :: rest => { l with holder := some (j, .entered), waiters := rest }
  | _, _ => l

/-- The user's intent is written. Without its endpoint the row cannot be. -/
def intend (now : Time) (l : Link) : Link :=
  match l.holder with
  | some (.user enabled plugin, .entered) =>
    if l.profile = none then { l with holder := none }
    else { l with
      record := some (.intent l.record enabled now)
      holder := some (.user enabled plugin, .intended)
      enabledFor := if enabled then some plugin else l.enabledFor
      log := .intended enabled :: l.log }
  | _ => l

/-- The coroutine inside the lock is about to start its attempt. -/
def ready (l : Link) : Option Job :=
  match l.holder with
  | some (.user enabled plugin, .intended) => some (.user enabled plugin)
  | some (.automatic profile because, .entered) => some (.automatic profile because)
  | _ => none

/-- `_run_connection`, up to the plugin's answer. -/
def start (now : Time) (l : Link) : Link :=
  match l.ready with
  | none => l
  | some j =>
    match l.record with
    | none => { l with holder := none, log := .raised :: l.log }
    | some r => { l with
        record := some (r.started now), holder := some (j, .running), log := .started j :: l.log }

/-- `_run_connection` after the plugin's answer, `none` for a `PluginError`. -/
def finish (now : Time) (answer : Option ConnectionFact) (l : Link) : Link :=
  match l.holder with
  | some (j, .running) =>
    let fact := answer.getD connectionFailed
    match l.record with
    | none => { l with holder := none, log := .raised :: l.log }
    | some r => { l with
        record := some (r.finished fact now), holder := none
        log := j.completion ++ .ended fact.state now :: l.log }
  | _ => l

/-- `record_provider_failure`, of the provider row. -/
def providerFailed (endpointId message errorCode : String) (now : Time) (l : Link) : Link :=
  if l.profile = none then l
  else
    let row : ProviderState :=
      { endpointId, lastSuccessAt := l.failure.bind ProviderState.lastSuccessAt
        lastAttemptAt := now, lastError := some (cut 1000 message)
        lastErrorCode := some errorCode }
    { l with failure := some row }

/-- A complete observation, of the provider row. -/
def observed (endpointId : String) (now : Time) (l : Link) : Link :=
  if l.profile = none then l
  else
    let row : ProviderState := { endpointId, lastSuccessAt := some now, lastAttemptAt := now }
    { l with failure := some row }

/-- `update_endpoint`, of the observation profile. -/
def updateProfile (profile : String) (l : Link) : Link :=
  if l.profile = none then l else { l with profile := some profile }

/-- `delete_endpoint`, with the rows that go with the endpoint's. -/
def delete (l : Link) : Link :=
  { l with profile := none, record := none, failure := none, log := .deleted :: l.log }

/-- `create_endpoint`. -/
def create (profile : String) (l : Link) : Link :=
  if l.profile = none then { l with profile := some profile } else l

end Link

/-! ## Steps -/

/-- A step at one endpoint. -/
inductive LinkAct
  | setConnection (enabled : Bool)
  | enter (i : ℕ)
  | wake
  | intend (now : Time)
  | start (now : Time)
  | finish (now : Time) (answer : Option ConnectionFact)
  | providerFailed (now : Time) (message errorCode : String)
  | observed (now : Time)
  | updateProfile (profile : String)
  | delete
  | create (profile : String)

/-- A step of the daemon: the read of a `maintain_connections` pass, or one at an endpoint. -/
inductive ConnectionAct
  | pass
  | at (endpointId : String) (a : LinkAct)

/-- One step at an endpoint. -/
def Link.step (supports : String → Bool) (endpointId : String) (l : Link) : LinkAct → Link
  | .setConnection enabled => l.setConnection supports enabled
  | .enter i => l.enter i
  | .wake => l.wake
  | .intend now => l.intend now
  | .start now => l.start now
  | .finish now answer => l.finish now answer
  | .providerFailed now message errorCode => l.providerFailed endpointId message errorCode now
  | .observed now => l.observed endpointId now
  | .updateProfile profile => l.updateProfile profile
  | .delete => l.delete
  | .create profile => l.create profile

/-- Every endpoint there may be. -/
abbrev Links := String → Link

/-- One step of the daemon. -/
def Links.step (supports : String → Bool) (w : Links) : ConnectionAct → Links
  | .pass => fun e => (w e).pass
  | .at endpointId a => fun e =>
    if e = endpointId then (w e).step supports endpointId a else w e

end ServerPilot
