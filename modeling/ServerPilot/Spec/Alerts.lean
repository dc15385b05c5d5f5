import ServerPilot.Spec.Gpu

/-!
# Reminders

The rules of `alerts.py` for when a condition becomes something worth telling a person,
and the evaluator that gathers the facts and owns the rows. What an evaluation finds (the
conditions that hold, the leases with cards nobody can see, the cards with their states)
comes with it, whatever it is.

An evaluation runs inside a transaction that may be rolled back, and remembers when it
last ran outside it. `log` records the evaluations that were committed, newest first, with
the rows each found; no function reads it.
-/

namespace ServerPilot.Reminders

/-! ## Conditions and keys -/

/-- What `_alert_signals` looks for, by the resource its dedupe key names. -/
inductive Condition
  | atRisk (lease : String)
  | idle (lease : String)
  | overrun (lease : String)
  | unconfirmed (allocation : String)
  | expiring (allocation : String)
  | offline (endpoint : String)
  | auth (endpoint : String)
  | keepalive (gpu : String)
  deriving DecidableEq, Repr

/-- A group of cards that capacity is told of together. -/
inductive Pool
  | group (id : String)
  | server (id : String)
  deriving DecidableEq, Repr

/-- `dedupe_key`. The text before the first colon is the constructor. -/
inductive DedupeKey
  | condition (c : Condition)
  | capacity (pool : Pool)
  | reclaimed (lease : String) (resourceEpoch : ℕ)
  deriving DecidableEq, Repr

/-- `hold_seconds`, as a span: `OFFLINE_HOLD_SECONDS`, `UNCONFIRMED_HOLD_SECONDS`,
`KEEPALIVE_FAULT_HOLD_SECONDS` or nothing. -/
def Condition.hold : Condition → Time
  | .offline _ => seconds 300
  | .unconfirmed _ => seconds 60
  | .keepalive _ => seconds 300
  | _ => seconds 0

/-- `payload["clear_successes"]` of its signal: `RECOVERY_SUCCESSES` for a server. -/
def Condition.payloadClearSuccesses : Condition → Option ℕ
  | .offline _ | .auth _ => some 2
  | _ => none

/-- `clear_successes`, the consecutive clear evaluations a recovery needs. -/
def Condition.clearSuccesses (c : Condition) : ℕ := c.payloadClearSuccesses.getD 1

/-- `silent`: for the inbox only. -/
def Condition.silent : Condition → Bool
  | .overrun _ => true
  | _ => false

/-- `Signal`: a condition that is true right now. `lease` is the lease of an allocation. -/
structure Signal where
  condition : Condition
  lease : String := ""
  message : String := ""
  deriving DecidableEq, Repr

/-- `lease_id`: a server's or a worker's signal has none. -/
def Signal.leaseId (s : Signal) : Option String :=
  match s.condition with
  | .atRisk lease | .idle lease | .overrun lease => some lease
  | .unconfirmed _ | .expiring _ => some s.lease
  | .offline _ | .auth _ | .keepalive _ => none

/-! ## The pure rules -/

inductive AlertState
  | armed | pending | active | acked | resolved
  deriving DecidableEq, Repr

/-- `OPEN_STATES`. -/
def AlertState.isOpen (s : AlertState) : Bool := decide (s ≠ .resolved)

/-- It has been put in front of a person: `{"active", "acked"}`. -/
def AlertState.told (s : AlertState) : Bool := decide (s = .active ∨ s = .acked)

/-- `Step`. -/
structure Step where
  state : AlertState
  pendingSince : Option Time
  clearStreak : ℕ := 0
  deriving DecidableEq, Repr

/-- `step_present`: advance a row whose condition holds. -/
def stepPresent (state : AlertState) (pendingSince : Option Time) (hold now : Time) : Step :=
  if state.told then ⟨state, pendingSince, 0⟩
  else
    let since := pendingSince.getD now
    if hold ≤ now - since then ⟨.active, some since, 0⟩ else ⟨.pending, some since, 0⟩

/-- `step_absent`: advance a row whose condition no longer holds. -/
def stepAbsent (state : AlertState) (pendingSince : Option Time)
    (clearStreak clearSuccesses : ℕ) : Step :=
  if state = .pending then ⟨.resolved, none, 0⟩
  else
    let streak := clearStreak + 1
    if clearSuccesses ≤ streak then ⟨.resolved, pendingSince, streak⟩
    else ⟨state, pendingSince, streak⟩

/-- `NOTIFY_REPEAT_SECONDS` as a span. -/
def notifyRepeat : Time := seconds 1800

/-- `CAPACITY_STABLE_SECONDS` as a span. -/
def capacityStable : Time := seconds 120

/-- `OFFLINE_HOLD_SECONDS` as a span. -/
def offlineHold : Time := seconds 300

/-- `EVALUATE_EVERY_SECONDS` as a span. -/
def evaluateEvery : Time := seconds 15

/-- `rested`. -/
def rested (lastNotifiedAt : Option Time) (now : Time) : Bool :=
  lastNotifiedAt.all fun last => decide (notifyRepeat ≤ now - last)

/-- `step_capacity`: fire once when a group goes from no cards to some and stays that way. -/
def stepCapacity (state : Option AlertState) (pendingSince : Option Time) (freeCards : ℕ)
    (lastNotifiedAt : Option Time) (now : Time) : Step :=
  if freeCards = 0 then
    if state.any AlertState.told then ⟨.resolved, none, 0⟩ else ⟨.armed, none, 0⟩
  else
    match state with
    | none => ⟨.resolved, pendingSince, 0⟩
    | some state =>
      if state.told then ⟨state, pendingSince, 0⟩
      else
        let since := pendingSince.getD now
        let settled := decide (capacityStable ≤ now - since)
        ⟨if settled && rested lastNotifiedAt now then .active else .pending, some since, 0⟩

/-! ## Rows -/

/-- `payload_json`. -/
structure Payload where
  clearStreak : Option ℕ := none
  clearSuccesses : Option ℕ := none
  deriving DecidableEq, Repr

/-- A row of `alerts` with a dedupe key. -/
structure Alert where
  id : String
  dedupeKey : DedupeKey
  state : AlertState := .active
  message : String
  leaseId : Option String := none
  firstSeenAt : Time
  lastSeenAt : Time
  pendingSince : Option Time := none
  notifiedAt : Option Time := none
  acknowledgedAt : Option Time := none
  acknowledgedBy : Option String := none
  payload : Payload := {}
  deriving DecidableEq, Repr

/-- `_new_reminder`, with its random id. -/
def newReminder (id : String) (key : DedupeKey) (message : String) (leaseId : Option String)
    (now : Time) : Alert :=
  { id, dedupeKey := key, message := cut 1000 message, leaseId, firstSeenAt := now
    lastSeenAt := now }

def Alert.isOpen (r : Alert) : Bool := r.state.isOpen

/-- The row is about a condition that is looked for: its type is neither `lease_reclaimed` nor
`capacity_available`. -/
def Alert.condition? (r : Alert) : Option Condition :=
  match r.dedupeKey with
  | .condition c => some c
  | _ => none

/-- `func.max(Alert.notified_at)` over some rows. -/
def lastNotified (rows : List Alert) : Option Time := (rows.filterMap Alert.notifiedAt).max?

/-- `_told_recently`: a server going up and down is one story, not a banner per outage. -/
def toldRecently (rows : List Alert) (r : Alert) (now : Time) : Bool :=
  !rested (lastNotified (rows.filter fun x => x.dedupeKey = r.dedupeKey ∧ x.id ≠ r.id)) now

/-! ## One evaluation -/

/-- A card as a capacity evaluation sees it, with the newest telemetry of it. -/
structure CardSight where
  gpuId : String
  endpointId : String
  serverGroupId : Option String
  state : GpuState
  observedAt : Option Time
  deriving DecidableEq, Repr

/-- The group a card is counted in. -/
def CardSight.pool (c : CardSight) : Pool :=
  match c.serverGroupId with
  | some group => if group = "" then .server c.endpointId else .group group
  | none => .server c.endpointId

/-- `names[key]`. -/
def Pool.name : Pool → String
  | .group id => id
  | .server id => id

/-- `state.startswith("UNKNOWN")`. -/
def CardSight.unseen (c : CardSight) : Bool :=
  decide (c.state = .unknownStale ∨ c.state = .unknownRecovering)

/-- `state in {"AVAILABLE", "KEEPALIVE"}`. -/
def CardSight.free (c : CardSight) : Bool :=
  decide (c.state = .available ∨ c.state = .keepalive)

/-- What one evaluation meets: the conditions that hold (`_alert_signals`), the leases with cards
nobody can see (`_lease_has_unseen_cards`), the cards present, and the random ids of new rows. -/
structure Look where
  now : Time
  signals : List Signal
  hasUnseenCards : String → Bool := fun _ => false
  cards : List CardSight := []
  token : DedupeKey → String := fun _ => ""

/-- `signals[key]`: of two signals with one key the later stands. -/
def Look.signal? (look : Look) (c : Condition) : Option Signal :=
  (look.signals.filter fun s => decide (s.condition = c)).getLast?

/-- The keys of the `signals` dict, in its order. -/
def Look.conditions (look : Look) : List Condition :=
  (look.signals.map Signal.condition).reverse.dedup.reverse

/-- `rows.get(key)`: of two open rows with one key the later stands. -/
def standing? (rows : List Alert) (c : Condition) : Option Alert :=
  (rows.filter fun r => r.isOpen && decide (r.dedupeKey = .condition c)).getLast?

/-- A row whose condition holds, moved on. -/
def Alert.advanced (resuming : Bool) (now : Time) (s : Signal) (state : AlertState)
    (pendingSince : Option Time) (r : Alert) : Alert :=
  -- Nobody was watching across a gap, so a hold cannot have run through it.
  let step := stepPresent state (if resuming then none else pendingSince) s.condition.hold now
  { r with
    state := step.state
    pendingSince := step.pendingSince
    message := cut 1000 s.message
    lastSeenAt := now
    payload := ⟨some 0, s.condition.payloadClearSuccesses⟩ }

/-- The same row, kept quiet where nobody is to be told, or somebody just was. -/
def Alert.present (rows : List Alert) (resuming : Bool) (now : Time) (s : Signal)
    (state : AlertState) (pendingSince : Option Time) (r : Alert) : Alert :=
  let r := r.advanced resuming now s state pendingSince
  if r.notifiedAt = none ∧ (s.condition.silent ∨ (r.state = .active ∧ toldRecently rows r now)) then
    { r with notifiedAt := some now }
  else r

/-- A row whose condition no longer holds, moved on; `none` once it is deleted. -/
def Alert.absent (look : Look) (r : Alert) : Option Alert :=
  -- It never reached anyone, so there is nothing to say it is over.
  if r.state = .pending then none
  else if r.leaseId.any fun lease => decide (lease ≠ "") && look.hasUnseenCards lease then some r
  else
    let step := stepAbsent r.state r.pendingSince (r.payload.clearStreak.getD 0)
      (r.payload.clearSuccesses.getD 1)
    some { r with
      state := step.state
      payload := { r.payload with clearStreak := some step.clearStreak }
      lastSeenAt := look.now }

/-- One row of the table through the two loops over `rows`. -/
def Alert.reminded (rows : List Alert) (resuming : Bool) (look : Look) (r : Alert) :
    Option Alert :=
  match r.condition? with
  | none => some r
  | some c =>
    if standing? rows c = some r then
      match look.signal? c with
      | some s => some (r.present rows resuming look.now s r.state r.pendingSince)
      | none => r.absent look
    else some r

/-- The rows opened for conditions that have none. -/
def opened (rows : List Alert) (resuming : Bool) (look : Look) : List Alert :=
  (look.conditions.filter fun c => (standing? rows c).isNone).filterMap fun c =>
    (look.signal? c).map fun s =>
      (newReminder (look.token (.condition c)) (.condition c) s.message s.leaseId
        look.now).present rows resuming look.now s .pending none

/-- `_evaluate_alerts` up to the capacity groups. -/
def remind (resuming : Bool) (look : Look) (rows : List Alert) : List Alert :=
  rows.filterMap (Alert.reminded rows resuming look) ++ opened rows resuming look

/-! ## Capacity -/

/-- The keys of `groups`, in its order. -/
def Look.pools (look : Look) : List Pool :=
  (look.cards.map CardSight.pool).reverse.dedup.reverse

/-- `groups[key]`. -/
def Look.cardsOf (look : Look) (pool : Pool) : List CardSight :=
  look.cards.filter fun c => decide (c.pool = pool)

/-- `_seen_within_offline_hold`. -/
def seenWithinOfflineHold (cards : List CardSight) (now : Time) : Bool :=
  cards.any fun c => c.observedAt.any fun observed => decide (now - offlineHold ≤ observed)

/-- How many cards of a group are free, or `none` where the evaluation passes the group over. -/
def Look.freeCards (look : Look) (settling : Bool) (pool : Pool) : Option ℕ :=
  let cards := look.cardsOf pool
  let unseen := cards.filter CardSight.unseen
  -- A card gone quiet moments ago, or while collection is only now resuming, might be anything.
  if unseen ≠ [] ∧ (settling ∨ seenWithinOfflineHold unseen look.now) then none
  else
    let known := cards.filter fun c => !c.unseen
    if known = [] then none else some (known.countP CardSight.free)

/-- The row armed for a group. -/
def armed (look : Look) (pool : Pool) : Alert :=
  { newReminder (look.token (.capacity pool)) (.capacity pool) (pool.name ++ " 有空闲 GPU") none
      look.now with state := .armed, pendingSince := none, lastSeenAt := look.now }

/-- The open row of a group, moved on. -/
def Alert.stocked (look : Look) (pool : Pool) (free : ℕ) (step : Step) (r : Alert) : Alert :=
  { r with
    state := step.state
    pendingSince := step.pendingSince
    lastSeenAt := look.now
    message := if step.state = .active then
      cut 1000 (pool.name ++ " 有 " ++ toString free ++ " 张空闲 GPU") else r.message }

/-- One group of `_evaluate_capacity_alerts`. -/
def capacityGroup (settling : Bool) (look : Look) (rows : List Alert) (pool : Pool) :
    List Alert :=
  match look.freeCards settling pool with
  | none => rows
  | some free =>
    let row := rows.find? fun r => r.isOpen && decide (r.dedupeKey = .capacity pool)
    let notified := lastNotified (rows.filter fun r => decide (r.dedupeKey = .capacity pool))
    let step := stepCapacity (row.map Alert.state) (row.bind Alert.pendingSince) free notified
      look.now
    match row with
    | none => if step.state ≠ .armed then rows else rows ++ [armed look pool]
    | some row =>
      if step.state = .resolved then
        (Rows.updWhere (fun r => decide (r = row))
          (fun r => { r with state := .resolved, lastSeenAt := look.now }) rows) ++
            [armed look pool]
      else
        Rows.updWhere (fun r => decide (r = row)) (Alert.stocked look pool free step) rows

/-- `_evaluate_capacity_alerts`. -/
def capacity (settling : Bool) (look : Look) (rows : List Alert) : List Alert :=
  look.pools.foldl (capacityGroup settling look) rows

/-! ## Runs -/

/-- A committed evaluation, whether collection was only resuming, and the rows it found. -/
structure Evaluation where
  look : Look
  settling : Bool
  found : List Alert

/-- The rows with a dedupe key, what the service remembers, and the epochs of the leases. -/
structure Inbox where
  rows : List Alert := []
  /-- `_alerts_evaluated_at` -/
  evaluatedAt : Option Time := none
  /-- `_alerts_resumed_at` -/
  resumedAt : Option Time := none
  epochs : String → ℕ := fun _ => 0
  log : List Evaluation := []

inductive Event
  /-- A transaction that evaluates the reminders is committed or rolled back. -/
  | evaluate (look : Look) (committed : Bool)
  /-- `mark_reminders` -/
  | mark (actor : ActorContext) (alertIds : List String) (notified acked : Bool) (now : Time)
  /-- Idle cards of a lease are taken, and `_raise_lease_reclaimed` says so. -/
  | reclaim (lease token message : String) (now : Time)
  /-- The service starts again. -/
  | restart

namespace Inbox

variable (cfg : Config) (i : Inbox)

/-- The evaluation is not due yet. -/
def throttled (now : Time) : Bool :=
  i.evaluatedAt.any fun last => decide (now - last < evaluateEvery)

/-- `resuming`: by what the service remembers nobody was watching. -/
def resuming (now : Time) : Bool :=
  i.evaluatedAt.all fun last => decide (cfg.staleAfter < now - last)

/-- `_alerts_resumed_at` during an evaluation. -/
def resumed (now : Time) : Option Time := if i.resuming cfg now then some now else i.resumedAt

/-- `settling`: collection is only now resuming. -/
def settling (now : Time) : Bool :=
  (i.resumed cfg now).any fun resumed => decide (now - resumed < offlineHold)

/-- The rows an evaluation writes. -/
def evaluated (look : Look) : List Alert :=
  capacity (i.settling cfg look.now) look (remind (i.resuming cfg look.now) look i.rows)

/-- `_evaluate_alerts` in `_write`: what is remembered stays when the rows are rolled back. -/
def evaluate (look : Look) (committed : Bool) : Inbox :=
  if i.throttled look.now then i
  else
    let remembered := { i with
      evaluatedAt := some look.now
      resumedAt := i.resumed cfg look.now }
    if committed then
      { remembered with
        rows := i.evaluated cfg look
        log := ⟨look, i.settling cfg look.now, i.rows⟩ :: i.log }
    else remembered

/-- One row of `mark_reminders`. -/
def marked (actor : ActorContext) (notified acked : Bool) (now : Time) (r : Alert) : Alert :=
  let r := if notified ∧ r.notifiedAt = none then { r with notifiedAt := some now } else r
  if acked ∧ r.state = .active then
    { r with state := .acked, acknowledgedAt := some now, acknowledgedBy := some actor.id }
  else r

/-- `mark_reminders`. -/
def mark (actor : ActorContext) (alertIds : List String) (notified acked : Bool) (now : Time) :
    Inbox :=
  if actor.role ∈ mutatingRoles then
    { i with
      rows := Rows.updWhere (fun r => decide (r.id ∈ alertIds))
        (marked actor notified acked now) i.rows }
  else i

/-- `_settle_cards` and `_raise_lease_reclaimed`: the epoch moves on, and the row names it. -/
def reclaim (lease token message : String) (now : Time) : Inbox :=
  let epoch := i.epochs lease + 1
  { i with
    epochs := fun l => if l = lease then epoch else i.epochs l
    rows := i.rows ++
      [{ newReminder token (.reclaimed lease epoch) message (some lease) now with
        state := .active }] }

/-- One event. -/
def step : Event → Inbox
  | .evaluate look committed => i.evaluate cfg look committed
  | .mark actor alertIds notified acked now => i.mark actor alertIds notified acked now
  | .reclaim lease token message now => i.reclaim lease token message now
  | .restart => { i with evaluatedAt := none, resumedAt := none }

end Inbox

end ServerPilot.Reminders
