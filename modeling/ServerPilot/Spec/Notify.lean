import ServerPilot.Lib.Batches
import ServerPilot.Lib.Run
import ServerPilot.Spec.Alerts

/-!
# Telling a person

`pending_notifications`, folded by `coalesce`, and one round of `deliverPending` in the app: it
shows what is pending and marks all of it notified in one request, which the broker takes for at
most 200 alerts. Anything may happen to the inbox between the two.
-/

namespace ServerPilot.Reminders

/-- `category == CAPACITY_AVAILABLE`. -/
def Alert.isCapacity (r : Alert) : Bool :=
  match r.dedupeKey with
  | .capacity _ => true
  | _ => false

/-- An alert as it is told: `alert_ids` is there where it stands for several. -/
structure Reminder where
  alert : Alert
  message : String
  alertIds : Option (List String) := none

/-- `alertIDs`, the alerts that are told with it. -/
def Reminder.ids (r : Reminder) : List String := r.alertIds.getD [r.alert.id]

def Alert.told (r : Alert) : Reminder := { alert := r, message := r.message }

/-- `COALESCE_SECONDS`, as a span. -/
def coalesceSpan : Time := seconds 60

/-- The reminder a batch becomes. -/
def folded : List Alert → Option Reminder
  | [] => none
  | [r] => some r.told
  | head :: rest => some {
      alert := head
      message := toString (rest.length + 1) ++ " 组服务器有空闲 GPU"
      alertIds := some ((head :: rest).map Alert.id) }

/-- `sorted(…, key=first_seen_at)`. -/
def byFirstSeen (alerts : List Alert) : List Alert :=
  alerts.insertionSort fun x y => x.firstSeenAt ≤ y.firstSeenAt

/-- `coalesce`. -/
def coalesce (alerts : List Alert) : List Reminder :=
  let others := alerts.filter fun r => !r.isCapacity
  let capacity := byFirstSeen (alerts.filter Alert.isCapacity)
  others.map Alert.told ++
    (Batches.batched Alert.firstSeenAt coalesceSpan capacity).filterMap folded

/-- `NOTIFY_WITHIN_SECONDS`, as a span. -/
def notifyWithin : Time := seconds 86400

/-- The row is active, was told to nobody, and is news. -/
def Alert.untold (now : Time) (r : Alert) : Bool :=
  decide (r.state = .active) && r.notifiedAt.isNone && decide (now - notifyWithin ≤ r.lastSeenAt)

def pendingAlerts (now : Time) (rows : List Alert) : List Alert :=
  byFirstSeen (rows.filter (Alert.untold now))

/-- `pending_notifications`. -/
def pendingNotifications (now : Time) (rows : List Alert) : List Reminder :=
  coalesce (pendingAlerts now rows)

/-- The alerts a list of reminders tells of. -/
def toldIds (reminders : List Reminder) : List String := reminders.flatMap Reminder.ids

/-- `AlertMark.alert_ids`, its `max_length`. -/
def markLimit : ℕ := 200

/-- A round of the app: when it asks, what happens until it marks, and when that is. -/
structure Round where
  actor : ActorContext
  askedAt : Time
  meanwhile : List Event := []
  markedAt : Time

/-- `deliverPending`. A request that names too many alerts is refused. -/
def deliverPending (cfg : Config) (d : Round) (i : Inbox) : Inbox :=
  let ids := toldIds (pendingNotifications d.askedAt i.rows)
  if ids = [] then i
  else
    let i := Run.run (Inbox.step cfg) i d.meanwhile
    if ids.length ≤ markLimit then i.step cfg (.mark d.actor ids true false d.markedAt) else i

end ServerPilot.Reminders
