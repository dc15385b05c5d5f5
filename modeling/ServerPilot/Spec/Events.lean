import ServerPilot.Lib.Paging
import ServerPilot.Spec.Ledger

/-!
# Reading the event log

`list_events` shows an actor the events after a cursor: its own, those of its projects'
leases, and what became of the collection of an endpoint. The limit is the query's; who may
see an event is asked of the rows it gave.
-/

namespace ServerPilot

open Rows Checked

/-- The ids of a table whose key is assigned by the table, from one on. -/
structure EventTable (events : List AuditEvent) : Prop where
  unique : (events.map AuditEvent.id).Nodup
  positive : ∀ e ∈ events, 0 < e.id

/-- The events in the order of their ids. -/
def inOrder (events : List AuditEvent) : List AuditEvent :=
  events.insertionSort fun a b => a.id ≤ b.id

/-- The events a query gives, of those after `afterId`. -/
def queryEvents (events : List AuditEvent) (afterId limit : ℕ) (latestFirst : Bool) :
    List AuditEvent :=
  let found := (inOrder events).filter fun e => afterId < e.id
  (if latestFirst then found.reverse else found).take limit

/-- Whether an actor of these projects sees an event. -/
def eventVisible (b : Broker) (actor : ActorContext) (projectIds : List String) (e : AuditEvent) :
    Bool :=
  (actor.role == "admin" || e.actorId == some actor.id) ||
    (e.resourceType == "lease" &&
      (b.ledger.lease? e.resourceId).any fun lease => lease.projectId ∈ projectIds) ||
    (e.resourceType == "endpoint" && e.action ∈ ["telemetry.failed", "telemetry.recovered"] &&
      ((b.plant.endpoint? e.resourceId).isSome &&
        actor.role ∈ ["viewer", "allocator", "operator", "admin"]))

/-- `list_events`. -/
def listEvents (b : Broker) (actor : ActorContext) (projectIds : List String)
    (afterId limit : ℕ) (latestFirst : Bool) : Tx (List AuditEvent) := do
  require (1 ≤ limit ∧ limit ≤ 1000)
    (refuse "invalid_limit" "limit must be between 1 and 1000" 422)
  pure ((queryEvents b.ledger.audit afterId limit latestFirst).filter
    (eventVisible b actor projectIds))

/-- `list_events` again and again, oldest first, after the last event returned, until a page is
empty: at most `fuel` pages. -/
def readEvents (b : Broker) (actor : ActorContext) (projectIds : List String) (limit : ℕ) :
    ℕ → ℕ → Tx (List AuditEvent)
  | 0, _ => pure []
  | fuel + 1, afterId => do
    let page ← listEvents b actor projectIds afterId limit false
    match page.getLast? with
    | none => pure []
    | some last => do
      let more ← readEvents b actor projectIds limit fuel last.id
      pure (page ++ more)

/-- Reading on until a page is empty gives each event the actor sees, once and in order. -/
def Lossless (b : Broker) (actor : ActorContext) (projectIds : List String) (limit : ℕ) : Prop :=
  ∀ fuel, b.ledger.audit.length < fuel →
    ∃ events, readEvents b actor projectIds limit fuel 0 = .ok events ∧
      events.Pairwise (fun x y => x.id < y.id) ∧
      ∀ e, e ∈ events ↔ e ∈ b.ledger.audit ∧ eventVisible b actor projectIds e = true

end ServerPilot
