import ServerPilot.Spec.Claim

/-!
# Idle cards

A lease has no deadline, so a card comes back only because it was *seen* idle for
long enough. `IdleClock` is the streak kept on a card row (or on a provider
allocation); `reconcileIdleLease` moves it on by one look and takes what has run
out.
-/

namespace ServerPilot

open Rows

/-! ## The clock -/

/-- `idle_since` and `idle_checked_at`. -/
structure IdleClock where
  since : Option Time
  checked : Option Time
  deriving DecidableEq, Repr

def LeaseResource.clock (r : LeaseResource) : IdleClock := ⟨r.idleSince, r.idleCheckedAt⟩

def LeaseResource.withClock (r : LeaseResource) (c : IdleClock) : LeaseResource :=
  { r with idleSince := c.since, idleCheckedAt := c.checked }

/-- `_idle_anchor`: when the streak effectively began, leaving out a stretch nobody could see. -/
def IdleClock.anchor (cfg : Config) (now : Time) (c : IdleClock) : Option Time :=
  c.since.map fun since =>
    let gap := now - c.checked.getD now
    if cfg.staleAfter < gap then since + gap else since

/-- Nobody looked for `IDLE_OUTAGE_RESET_SECONDS` or more. -/
def IdleClock.longOutage (now : Time) (c : IdleClock) : Bool :=
  c.checked.any fun checked => decide (idleOutageReset ≤ now - checked)

/-- `_advance_idle_clock`: move the streak on from one look (`none`: nobody could see). -/
def IdleClock.advance (cfg : Config) (now : Time) (idle : Option Bool) (c : IdleClock) :
    IdleClock :=
  match idle with
  | some false => ⟨none, none⟩
  | none => if c.longOutage now then ⟨none, none⟩ else c
  | some true =>
    ⟨some (if c.longOutage now then now else (c.anchor cfg now).getD now), some now⟩

/-! ## Looking at a lease's cards -/

/-- `_card_idleness`: whether a card runs nothing, or `none` when nobody can see it. -/
def Plant.cardIdleness (cfg : Config) (now : Time) (p : Plant) (gpuId : String) : Option Bool :=
  if p.currentProcesses gpuId ≠ [] then some false
  else if p.cardFresh cfg now gpuId then some true
  else none

/-- The endpoint of a card row. -/
def Plant.endpointOf (p : Plant) (gpuId : String) : String :=
  ((p.gpu? gpuId).map GPUDevice.endpointId).getD ""

/-- `_gpu_uuid`. -/
def Plant.uuidOf (p : Plant) (gpuId : String) : String :=
  ((p.gpu? gpuId).map GPUDevice.gpuUuid).getD ""

/-- Endpoint `e` is one of `_working_endpoints`: some of these cards runs something there. -/
def Plant.working (p : Plant) (cards : List LeaseResource) (e : String) : Bool :=
  cards.any fun r => decide (p.endpointOf r.gpuId = e ∧ p.currentProcesses r.gpuId ≠ [])

/-- `_card_reclaim_after_seconds`, as a span. -/
def cardReclaimAfter (cfg : Config) (working : Bool) (r : LeaseResource) : Time :=
  seconds ((if working then cfg.idleCardReclaimSeconds else cfg.idleLeaseReclaimSeconds) *
    max 1 r.keepIdleWindows)

/-- `_lease_liveness_age_seconds`: the newest sighting on these cards or the last heartbeat. -/
def Plant.livenessAge (p : Plant) (lease : Lease) (gpuIds : List String) (now : Time) : Time :=
  let sightings := (p.processes.filter fun x => x.gpuId ∈ gpuIds).map
    ProcessObservation.lastSeenAt
  now - sightings.foldl max lease.lastHeartbeatAt

/-- The server has nothing running of this lease, and its holder was heard from lately. -/
def Plant.protectedEndpoint (cfg : Config) (now : Time) (p : Plant) (lease : Lease)
    (cards : List LeaseResource) (e : String) : Bool :=
  !p.working cards e &&
    decide (p.livenessAge lease ((cards.filter fun r => p.endpointOf r.gpuId = e).map
      LeaseResource.gpuId) now < seconds cfg.idleLeaseReclaimSeconds)

/-- One look at a card: its clock moves on, and a broken streak drops the kept windows. -/
def LeaseResource.look (cfg : Config) (now : Time) (p : Plant) (r : LeaseResource) :
    LeaseResource :=
  let clock := r.clock.advance cfg now (p.cardIdleness cfg now r.gpuId)
  let r' := r.withClock clock
  match clock.anchor cfg now with
  | none => { r' with keepIdleWindows := 0 }
  | some _ => r'

/-- After its look, the card goes: idle long enough, seen idle now, and not protected. -/
def Plant.reclaims (cfg : Config) (now : Time) (p : Plant) (lease : Lease)
    (cards : List LeaseResource) (r : LeaseResource) : Bool :=
  let e := p.endpointOf r.gpuId
  match r.clock.anchor cfg now with
  | none => false
  | some anchor =>
    decide (seconds cfg.idleLeaseAlertSeconds ≤ now - anchor) &&
      (p.cardIdleness cfg now r.gpuId).isSome &&
      decide (cardReclaimAfter cfg (p.working cards e) r ≤ now - anchor) &&
      !p.protectedEndpoint cfg now lease cards e

/-! ## Keeping cards idle -/

/-- The windows a holder's `keep_idle` asks for a card. -/
def LeaseResource.windowsAsked (cfg : Config) (now : Time) (r : LeaseResource) : ℤ :=
  let elapsed := (now - (r.clock.anchor cfg now).getD now).tdiv 1000000
  min maxKeepIdleWindows (elapsed / cfg.idleCardReclaimSeconds + 2)

/-- An idle card extended by `keep_idle`. -/
def LeaseResource.kept (cfg : Config) (now : Time) (r : LeaseResource) : LeaseResource :=
  { r with keepIdleWindows := max r.keepIdleWindows (r.windowsAsked cfg now).toNat }

/-- What a holder is told of an idle card. -/
def Plant.cardRisk (cfg : Config) (p : Plant) (cards : List LeaseResource) (r : LeaseResource)
    (since : Time) : CardRisk :=
  { gpuId := p.uuidOf r.gpuId
    reclaimAt := since + cardReclaimAfter cfg (p.working cards (p.endpointOf r.gpuId)) r
    windowsLeft := (maxKeepIdleWindows : ℤ) - r.keepIdleWindows }

/-- A card of the lease whose streak has begun. -/
def idleCardOf (leaseId : String) (r : LeaseResource) : Bool :=
  decide (r.leaseId = leaseId ∧ r.active = true) && r.idleSince.isSome

/-- `_keep_idle_cards`: the ledger after it, and what the holder is told. -/
def Broker.keepIdleCards (cfg : Config) (now : Time) (b : Broker) (leaseId : String)
    (actor : ActorContext) : Ledger × List CardRisk :=
  let held := b.ledger.cards leaseId
  let idle := held.filter fun r => r.idleSince.isSome
  let changed := idle.filter fun r => (r.keepIdleWindows : ℤ) < r.windowsAsked cfg now
  let ledger := b.ledger.editResources (idleCardOf leaseId) (LeaseResource.kept cfg now)
  let kept := idle.map fun r =>
    b.plant.cardRisk cfg held (r.kept cfg now) ((r.clock.anchor cfg now).getD now)
  if changed = [] then (ledger, kept)
  else (ledger.addAudit (some actor.id) "lease.keep_idle" "lease" leaseId "success"
    [("gpu_ids", .texts (changed.map LeaseResource.gpuId))] now, kept)

/-! ## Taking cards -/

/-- What `_settle_cards` does to one row. -/
def LeaseResource.settled (reason releasedBy : String) (now : Time) (r : LeaseResource) :
    LeaseResource :=
  { r with
    active := false, releasedAt := some now, releaseReason := some reason
    releasedBy := some releasedBy, idleSince := none, keepIdleWindows := 0 }

/-- An active card of the lease among `gpuIds`. -/
def cardAmong (leaseId : String) (gpuIds : List String) (r : LeaseResource) : Bool :=
  decide (r.leaseId = leaseId ∧ r.active = true ∧ r.gpuId ∈ gpuIds)

/-- The lease row with its epoch raised. -/
def Lease.raised (x : Lease) : Lease := { x with resourceEpoch := x.resourceEpoch + 1 }

/-- `_settle_cards`: take these cards off the lease, and raise its epoch. -/
def Ledger.settleCards (l : Ledger) (leaseId : String) (gpuIds : List String)
    (reason releasedBy : String) (now : Time) : Ledger :=
  (l.editResources (cardAmong leaseId gpuIds)
    (LeaseResource.settled reason releasedBy now)).editLease
    leaseId Lease.raised

/-- The columns of a lease that has ended. -/
def Lease.ended (state : LeaseState) (reason : Option String) (now : Time) (x : Lease) : Lease :=
  { x with state, releasedAt := some now, releaseReason := reason }

/-- A lease an idle reclaim took the last card of. -/
def Lease.idleEnded (now : Time) (x : Lease) : Lease :=
  { x.ended .expiredEmpty (some "idle without observed process") now with idleSince := none }

/-- A card row that is no longer active, its other columns as they were. -/
def LeaseResource.dropped (now : Time) (r : LeaseResource) : LeaseResource :=
  { r with active := false, releasedAt := some now }

/-- The lease-level streak: the earliest card's, while every card is idle. -/
def leaseIdleSince (cards : List LeaseResource) : Option Time :=
  if cards.all fun r => r.idleSince.isSome then
    (cards.filterMap LeaseResource.idleSince).min?
  else none

/-- The look of `_reconcile_idle_lease`, before anything is taken. -/
def Broker.lookAtLease (cfg : Config) (now : Time) (b : Broker) (leaseId : String) : Ledger :=
  let ledger := b.ledger.editResources (fun r => r.leaseId = leaseId ∧ r.active = true)
    (LeaseResource.look cfg now b.plant)
  ledger.editLease leaseId fun x => { x with idleSince := leaseIdleSince (ledger.cards leaseId) }

/-- The cards `_reconcile_idle_lease` takes, from the rows after the look. -/
def Broker.reclaimedCards (cfg : Config) (now : Time) (b : Broker) (lease : Lease) :
    List LeaseResource :=
  let cards := (b.lookAtLease cfg now lease.id).cards lease.id
  cards.filter (b.plant.reclaims cfg now lease cards)

/-- The cards it leaves. -/
def Broker.remainingCards (cfg : Config) (now : Time) (b : Broker) (lease : Lease) :
    List LeaseResource :=
  ((b.lookAtLease cfg now lease.id).cards lease.id).filter fun r =>
    r ∉ b.reclaimedCards cfg now lease

/-- The reclaimed cards settled, and the lease ended when they were all it had. -/
def Broker.settleReclaimed (cfg : Config) (now : Time) (actorId : String) (b : Broker)
    (lease : Lease) : Ledger :=
  let settled := (b.lookAtLease cfg now lease.id).settleCards lease.id
    ((b.reclaimedCards cfg now lease).map LeaseResource.gpuId) "idle without observed process"
    actorId now
  if b.remainingCards cfg now lease ≠ [] then settled
  else settled.editLease lease.id (Lease.idleEnded now)

/-- The audit action of an idle reclaim. -/
def reclaimAction (remaining : List LeaseResource) : String :=
  if remaining ≠ [] then "lease.idle_gpu_reclaimed" else "lease.idle_reclaimed"

/-- `_reconcile_idle_lease`. -/
def Broker.reconcileIdleLease (cfg : Config) (now : Time) (actorId : String)
    (token : String → String) (b : Broker) (lease : Lease) : Broker :=
  let looked := b.lookAtLease cfg now lease.id
  let reclaimed := b.reclaimedCards cfg now lease
  let remaining := b.remainingCards cfg now lease
  if looked.cards lease.id = [] then b
  else if reclaimed = [] then { b with ledger := looked }
  else
    let ledger := b.settleReclaimed cfg now actorId lease
    let row := (ledger.lease? lease.id).getD lease
    let b := { b with ledger }.syncDirectAllocations row
      (remaining.filterMap fun r : LeaseResource => b.plant.gpu? r.gpuId) token now
    { b with
      ledger := b.ledger.addAudit (some actorId) (reclaimAction remaining) "lease" lease.id
        "success"
        [("reason", .text "idle without observed process"),
         ("reclaimed_gpu_count", .number reclaimed.length),
         ("remaining_gpu_count", .number remaining.length)] now }

end ServerPilot
