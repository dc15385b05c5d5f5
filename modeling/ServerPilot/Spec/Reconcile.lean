import ServerPilot.Spec.Idle

/-!
# Reconciling leases

Every observation ends in one pass over the live leases: legacy conflicts are
normalized, idle cards come back, leases past their deadline end or are orphaned,
and an allocation idle as a whole is marked for release at its provider.
-/

namespace ServerPilot

open Rows

/-! ## Provider allocations -/

/-- A payload for the provider's release verb. -/
structure PluginRelease where
  allocationId : String
  pluginId : String
  allocationRef : String
  deriving DecidableEq, Repr

/-- `_plugin_allocation_payload`. -/
def Ledger.pluginAllocation (l : Ledger) (leaseId : String) : Option PluginRelease :=
  ((l.allocationsOf leaseId).find? fun a => a.providerId ≠ "builtin").bind fun a =>
    a.allocationRef.map fun ref =>
      { allocationId := a.id, pluginId := a.providerId, allocationRef := ref }

/-- A provider's timestamp within the staleness window, and not from the future. -/
def Config.within (cfg : Config) (now : Time) (at_ : Option Time) : Bool :=
  at_.any fun t => decide (0 ≤ now - t ∧ now - t ≤ cfg.staleAfter)

/-- `_allocation_idle`: fresh evidence covers every card of the allocation, and none runs. -/
def ResourceAllocation.idle (cfg : Config) (now : Time) (a : ResourceAllocation) : Bool :=
  decide (a.state = .active) && cfg.within now a.confirmedAt &&
    cfg.within now a.workloadObservedAt &&
    decide ((a.locations.map AllocationLocation.gpuCount).sum = a.request.constraints.gpuCount) &&
    a.locations.all fun x => decide (x.devices.length = x.gpuCount) &&
      decide (x.runningProcessCount = some 0) &&
      x.devices.all fun d => decide (d.runningProcessCount = some 0)

def ResourceAllocation.clock (a : ResourceAllocation) : IdleClock := ⟨a.idleSince, a.idleCheckedAt⟩

/-- `_advance_idle_clock` on an allocation. -/
def ResourceAllocation.look (cfg : Config) (now : Time) (a : ResourceAllocation) :
    ResourceAllocation :=
  let c := a.clock.advance cfg now (some (a.idle cfg now))
  { a with idleSince := c.since, idleCheckedAt := c.checked }

/-- End a lease and drop its active cards, without touching their other columns. -/
def Ledger.endLease (l : Ledger) (leaseId : String) (state : LeaseState) (reason : Option String)
    (now : Time) : Ledger :=
  (l.editLease leaseId (Lease.ended state reason now)).editResources
    (fun r => r.leaseId = leaseId ∧ r.active = true) (LeaseResource.dropped now)

/-- `_finish_provider_lease`. -/
def Ledger.finishProviderLease (l : Ledger) (leaseId reason : String) (now : Time) : Ledger :=
  l.endLease leaseId .released (some reason) now

/-! ## Legacy conflicts -/

/-- `_normalize_legacy_workload_conflicts`, one lease. -/
def Ledger.normalizeConflict (actorId : String) (now : Time) (l : Ledger) (leaseId : String) :
    Ledger :=
  (l.editLease leaseId fun x => { x with state := .active }).addAudit (some actorId)
    "lease.conflict_resolved" "lease" leaseId "success"
    [("source", .text "retired_process_attribution_policy")] now

/-- `_normalize_legacy_workload_conflicts`. -/
def Ledger.normalizeConflicts (actorId : String) (now : Time) (l : Ledger) : Ledger :=
  ((l.leases.filter fun x => x.kind = .workload ∧ x.state = .conflict).map Lease.id).foldl
    (Ledger.normalizeConflict actorId now) l

/-! ## One lease -/

/-- What a pass has written so far, and the provider releases it owes. -/
abbrev Pass := Broker × List PluginRelease

/-- `_remember_plugin_release`. -/
def Pass.rememberRelease (s : Pass) (leaseId : String) : Pass :=
  (s.1, s.2 ++ (s.1.ledger.pluginAllocation leaseId).toList)

/-- A delegated lease: only its allocation's clock moves, and the whole of it goes or stays. -/
def reconcileAllocation (cfg : Config) (now : Time) (lease : Lease) (a : ResourceAllocation)
    (s : Pass) : Pass :=
  if a.state = .releasePending then s
  else
    let a' := a.look cfg now
    let write (x : ResourceAllocation) : Broker :=
      { s.1 with ledger := s.1.ledger.editAllocations (fun y => y.id = a.id) fun _ => x }
    if !a.idle cfg now then (write a', s.2)
    else if seconds cfg.idleLeaseReclaimSeconds ≤ now - a'.idleSince.getD now ∧
        seconds cfg.idleLeaseReclaimSeconds ≤ now - lease.lastHeartbeatAt then
      Pass.rememberRelease (write { a' with state := .releasePending }, s.2) lease.id
    else (write a', s.2)

/-- A lease past its deadline: orphaned while a process is seen, ended otherwise. `processes` is
what its cards ran when the pass reached it. -/
def reconcileExpiry (now : Time) (actorId : String) (processes : Bool) (lease : Lease) (s : Pass) :
    Pass :=
  if (lease.state = .held ∨ lease.state = .active) ∧ lease.expiresAt.any (fun t => t ≤ now) then
    let (ledger, reason) :=
      if processes then
        (s.1.ledger.editLease lease.id fun x => { x with state := .orphanedBusy },
          lease.releaseReason)
      else
        (s.1.ledger.endLease lease.id .expiredEmpty (some "expired without observed process") now,
          some "expired without observed process")
    let s := if processes then s else Pass.rememberRelease s lease.id
    ({ s.1 with
        ledger := ledger.addAudit (some actorId) "lease.expiry_reconciled" "lease" lease.id
          "success" [("reason", (reason.map Detail.text).getD .none)] now }, s.2)
  else s

/-- A direct lease: its idle cards first, then its deadline. -/
def reconcileDirect (cfg : Config) (now : Time) (actorId : String) (token : String → String)
    (lease : Lease) (s : Pass) : Pass :=
  let processes := (s.1.ledger.cards lease.id).any fun r =>
    s.1.plant.currentProcesses r.gpuId ≠ []
  if lease.state = .held ∨ lease.state = .active then
    let b := s.1.reconcileIdleLease cfg now actorId token lease
    match b.ledger.lease? lease.id with
    | none => (b, s.2)
    | some row =>
      if row.state = .expiredEmpty then Pass.rememberRelease (b, s.2) lease.id
      else reconcileExpiry now actorId processes row (b, s.2)
  else s

/-- `_reconcile_leases`, the body of its loop. -/
def reconcileLease (cfg : Config) (now : Time) (actorId : String)
    (token : String → String → String) (s : Pass) (leaseId : String) : Pass :=
  match s.1.ledger.lease? leaseId with
  | none => s
  | some lease =>
    if lease.kind = .keepalive then
      ({ s.1 with ledger := s.1.ledger.editLease leaseId fun x => { x with expiresAt := none } },
        s.2)
    else
      match (s.1.ledger.allocationsOf leaseId).find? (fun a =>
          a.releaseGranularity = "allocation") with
      | some a => reconcileAllocation cfg now lease a s
      | none => reconcileDirect cfg now actorId (token leaseId) lease s

/-- The live leases a pass visits. -/
def Ledger.liveLeaseIds (l : Ledger) : List String :=
  (l.leases.filter fun x => x.state.live = true).map Lease.id

/-- `_reconcile_leases`. -/
def Broker.reconcileLeases (cfg : Config) (now : Time) (actorId : String)
    (token : String → String → String) (b : Broker) : Pass :=
  let b := { b with ledger := b.ledger.normalizeConflicts actorId now }
  b.ledger.liveLeaseIds.foldl (reconcileLease cfg now actorId token) (b, [])

end ServerPilot
