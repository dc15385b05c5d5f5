import ServerPilot.Proof.Locks
import ServerPilot.Spec.Reclaim

/-!
# Claims that project policy refuses

A claim over its project's quota is refused under the same code as one that finds
every card taken, and `no_capacity` is what a reclaim waits for. The planner does
not ask about projects: `policy_spares` says when keepers survive such a claim.
-/

namespace ServerPilot

open Rows Checked

variable {cfg : Config} {w : ReclaimWorld} {b : Broker} {actor : ActorContext}
  {r : RequestCreate} {key : Option String} {now : Time}

/-! ## Policy refusals -/

/-- Refused for its project's limits: the refusal says so. -/
def RefusedByPolicy (t : Tx (Broker × Response)) : Prop :=
  ∃ e reason, t = .error (.refused e) ∧ e.code = "no_capacity" ∧
    ("project_policy", reason) ∈ e.details

/-- The calls of a refused actor are refused for that first. -/
theorem role_of_noCapacity {f : Fault} {k : Unit → Tx (Broker × Response)}
    (h : (requireRole actor mutatingRoles >>= k) = .error f) (hc : f.code = some "no_capacity") :
    actor.role ∈ mutatingRoles := by
  by_contra hr
  have hrole : requireRole actor mutatingRoles = .error (refuse "forbidden_role"
      ("role " ++ actor.role ++ " is not allowed for this operation") 403) := if_neg hr
  rw [hrole] at h
  cases h
  exact absurd hc (by simp [Fault.code, refuse])

theorem createRequest_role {persistent : Bool} {leaseId : String} {token : String → String}
    {f : Fault} (h : createRequest cfg now actor r key persistent leaseId token b = .error f)
    (hc : f.code = some "no_capacity") : actor.role ∈ mutatingRoles :=
  role_of_noCapacity h hc

theorem resizeLease_role {leaseId : String} {add : Option RequestCreate} {remove : List String}
    {epoch : Option ℕ} {token : String → String} {f : Fault}
    (h : resizeLease cfg now actor leaseId add remove epoch token b = .error f)
    (hc : f.code = some "no_capacity") : actor.role ∈ mutatingRoles :=
  role_of_noCapacity h hc

/-! ## What a plan's targets are prepared as -/

/-- A target of the plan is a known card, under the keeper the plan names. -/
theorem plan_target {t : ReclaimTarget}
    (ht : t ∈ (planKeepaliveReclaim cfg now r b).transitions) :
    ∃ g ∈ b.plant.gpus, t.endpointId = g.endpointId ∧ t.gpuId = g.id ∧
      ∃ l, b.ledger.activeLeaseForGpu g.id = some l ∧ l.kind = .keepalive ∧ t.leaseId = l.id := by
  obtain ⟨gpus, hsel, g, hg, hcard⟩ := plan_selected ht
  have hmem := ((selected_eligible r.constraints_valid hsel).2 g hg).1
  exact ⟨g, hmem, reclaimTransition_some hcard⟩

/-- Preparing it finds the lease the plan named. -/
theorem prepare_target (hb : Intact b) (hrole : actor.role ∈ mutatingRoles) {t : ReclaimTarget}
    (ht : t ∈ (planKeepaliveReclaim cfg now r b).transitions)
    (he : (b.plant.endpoint? t.endpointId).isSome = true) :
    prepareKeepaliveStop actor t.endpointId t.gpuId b = .ok (some t.leaseId) := by
  obtain ⟨g, hg, hendpoint, hid, l, hl, hkind, hlease⟩ := plan_target ht
  obtain ⟨e, he⟩ := Option.isSome_iff_exists.1 he
  have hrow : b.plant.gpu? t.gpuId = some g := hid ▸ row?_of_mem hb.gpuPk hg
  unfold prepareKeepaliveStop
  simp only [bind_ok, need_ok, pure_ok]
  refine ⟨(), require_ok.2 hrole, e, he, (), require_ok.2 hrole, g, ?_, ?_⟩
  · rw [hrow]
    simp [hendpoint]
  · rw [hl, hlease]
    simp [hkind]

theorem prepareTargets_ok {endpointId : String} {ts : List ReclaimTarget}
    (h : ∀ t ∈ ts, prepareKeepaliveStop actor endpointId t.gpuId b = .ok (some t.leaseId)) :
    prepareTargets actor endpointId b ts = .ok true := by
  induction ts with
  | nil => rfl
  | cons t ts ih =>
    unfold prepareTargets
    rw [h t List.mem_cons_self]
    have hrest := ih fun t ht => h t (List.mem_cons_of_mem _ ht)
    simpa [bind, Except.bind] using hrest

/-! ## What a reclaim does -/

theorem stopTargets_stopped {endpointId : String} {targets : List ReclaimTarget}
    {x : Reclaiming} :
    (stopTargets cfg w actor key endpointId targets x).1.stopped =
      x.stopped ++ [(endpointId, targets.map ReclaimTarget.gpuUuid)] := by
  unfold stopTargets
  simp only
  split
  · rfl
  split
  · rfl
  split <;> rfl

/-- An endpoint is stopped, or nothing happens on it. -/
theorem reclaimEndpoint_stopped {endpointId : String} {targets : List ReclaimTarget}
    {x : Reclaiming} :
    (reclaimEndpoint cfg w actor key endpointId targets x).1 = x ∧
        (reclaimEndpoint cfg w actor key endpointId targets x).2 ≠ .cleared ∨
      (reclaimEndpoint cfg w actor key endpointId targets x).1.stopped =
        x.stopped ++ [(endpointId, targets.map ReclaimTarget.gpuUuid)] := by
  unfold reclaimEndpoint
  split
  · exact Or.inl ⟨rfl, by simp⟩
  split
  · exact Or.inl ⟨rfl, by simp⟩
  split
  · exact Or.inl ⟨rfl, by simp⟩
  · exact Or.inl ⟨rfl, by simp⟩
  · exact Or.inr stopTargets_stopped

/-- Stop commands once sent stay sent. -/
theorem reclaimEndpoints_stopped (targets : List (String × List ReclaimTarget)) (x : Reclaiming) :
    x.stopped <+: (reclaimEndpoints cfg w actor key targets x).1.stopped := by
  induction targets generalizing x with
  | nil => exact List.prefix_rfl
  | cons head rest ih =>
    obtain ⟨endpointId, ts⟩ := head
    have hhead : x.stopped <+: (reclaimEndpoint cfg w actor key endpointId ts x).1.stopped := by
      rcases reclaimEndpoint_stopped with h | h
      · rw [h.1]
      · rw [h]
        exact List.prefix_append _ _
    unfold reclaimEndpoints
    split
    · rename_i x' hx
      rw [hx] at hhead
      exact hhead.trans (ih x')
    · exact hhead

/-! ## When keepers are stopped -/

/-- The first keeper a plan names can be reached: its server's row is readable, with an adapter. -/
def Broker.reachesKeeper (w : ReclaimWorld) (b : Broker) (endpointId : String) : Prop :=
  ∃ e, b.plant.collectorEndpoint endpointId = .ok e ∧
    e.val.keepaliveAdapterId.any w.resolves = true

/-- With keepers' cards counted as free the request has a placement that needs one of them, and the
server of the first is reached. -/
def Broker.handsOver (cfg : Config) (w : ReclaimWorld) (r : RequestCreate) (b : Broker) : Prop :=
  (planKeepaliveReclaim cfg w.plannedAt r b).Usable ∧
    ∃ t ∈ (planKeepaliveReclaim cfg w.plannedAt r b).transitions.head?,
      b.reachesKeeper w t.endpointId

theorem targetsByEndpoint_cons (t : ReclaimTarget) (ts : List ReclaimTarget) :
    ∃ rest, targetsByEndpoint (t :: ts) =
      (t.endpointId, (t :: ts).filter fun x => x.endpointId = t.endpointId) :: rest := by
  unfold targetsByEndpoint
  rw [List.map_cons, List.eraseDups_cons, List.map_cons]
  exact ⟨_, rfl⟩

/-- **A plan carried out.** The first endpoint's stop command is sent. -/
theorem reclaim_stops (hb : Intact b) (hrole : actor.role ∈ mutatingRoles)
    (h : b.handsOver cfg w r) :
    (reclaimKeepaliveForClaim cfg w actor r key b).1.stopped ≠ [] := by
  obtain ⟨husable, t, ht, e, he, hadapter⟩ := h
  obtain ⟨ts, hts⟩ := List.head?_eq_some_iff.1 ht
  obtain ⟨rest, hrest⟩ := targetsByEndpoint_cons t ts
  set first := (t :: ts).filter fun x => x.endpointId = t.endpointId with hfirst
  have hsome : (b.plant.endpoint? t.endpointId).isSome = true := by
    unfold Plant.collectorEndpoint at he
    simp only [bind_ok, need_ok] at he
    obtain ⟨row, hrow, -⟩ := he
    rw [hrow]
    rfl
  have hprepared : prepareTargets actor t.endpointId b first = .ok true := by
    refine prepareTargets_ok fun x hx => ?_
    obtain ⟨hx, hid⟩ := List.mem_filter.1 hx
    have hid : x.endpointId = t.endpointId := of_decide_eq_true hid
    rw [← hid]
    exact prepare_target hb hrole (hts ▸ hx) (hid ▸ hsome)
  have hhead : reclaimEndpoint cfg w actor key t.endpointId first ⟨b, []⟩ =
      stopTargets cfg w actor key t.endpointId first ⟨b, []⟩ := by
    unfold reclaimEndpoint
    simp [he, hadapter, hprepared]
  have hsent : (stopTargets cfg w actor key t.endpointId first ⟨b, []⟩).1.stopped ≠ [] := by
    rw [stopTargets_stopped]
    simp
  unfold reclaimKeepaliveForClaim
  simp only
  rw [if_pos husable, hts, hrest]
  unfold reclaimEndpoints
  rw [hhead]
  split
  · -- later endpoints only add to what was sent
    rename_i x' hx
    rw [hx] at hsent
    intro hnil
    have hprefix : x'.stopped <+: (reclaimEndpoints cfg w actor key rest x').1.stopped :=
      reclaimEndpoints_stopped rest x'
    rw [hnil] at hprefix
    exact hsent (List.prefix_nil.1 hprefix)
  · exact hsent

/-- **A plan not carried out.** Nothing is sent and nothing written. -/
theorem reclaim_spares (h : ¬ b.handsOver cfg w r) :
    (reclaimKeepaliveForClaim cfg w actor r key b).1 = ⟨b, []⟩ ∧
      (reclaimKeepaliveForClaim cfg w actor r key b).2 ≠ .cleared := by
  unfold reclaimKeepaliveForClaim
  simp only
  by_cases husable : (planKeepaliveReclaim cfg w.plannedAt r b).Usable
  · obtain ⟨t, ts, hts⟩ := List.exists_cons_of_ne_nil husable.2.1
    obtain ⟨rest, hrest⟩ := targetsByEndpoint_cons t ts
    have hreach : ¬ b.reachesKeeper w t.endpointId := by
      intro hr
      exact h ⟨husable, t, by rw [hts]; rfl, hr⟩
    have hhead : ∀ targets, (reclaimEndpoint cfg w actor key t.endpointId targets ⟨b, []⟩).1 =
        ⟨b, []⟩ ∧
          (reclaimEndpoint cfg w actor key t.endpointId targets ⟨b, []⟩).2 ≠ .cleared := by
      intro targets
      unfold reclaimEndpoint
      cases he : b.plant.collectorEndpoint t.endpointId with
      | error f => exact ⟨rfl, by simp⟩
      | ok e =>
        have hnone : e.val.keepaliveAdapterId.any w.resolves = false := by
          by_contra hne
          exact hreach ⟨e, he, by simpa using hne⟩
        simp [hnone]
    rw [if_pos husable, hts, hrest]
    unfold reclaimEndpoints
    obtain ⟨hx, ho⟩ := hhead ((t :: ts).filter fun x => x.endpointId = t.endpointId)
    split
    · rename_i x' heq
      rw [heq] at ho
      exact absurd rfl ho
    · exact ⟨hx, ho⟩
  · rw [if_neg husable]
    exact ⟨rfl, by simp⟩

/-! ## The calls -/

/-- The call stopped no keeper and left the keepers' rows as they were. -/
structure Handoff.Spares (h : Handoff) (b : Broker) : Prop where
  stopped : h.stopped = []
  leases : h.broker.ledger.leases = b.ledger.leases
  resources : h.broker.ledger.resources = b.ledger.resources
  keepalive : h.broker.plant.keepalive = b.plant.keepalive

theorem Handoff.Spares.self {a : HandoffAnswer} : Handoff.Spares ⟨b, [], a⟩ b :=
  ⟨rfl, rfl, rfl, rfl⟩

/-- Turning to the provider files an allocation at most. -/
theorem claimElsewhere_spares {d : Draw} {f : Fault} :
    (claimElsewhere cfg d actor r key f ⟨b, []⟩).Spares b := by
  have hprepare : ∀ {endpointId : String} {plugin : Plugin} {b' : Broker} {resp : Response}
      {a : HandoffAnswer},
      claimPrepare d.now actor r key endpointId plugin d.allocationId b = .ok (b', resp) →
      Handoff.Spares ⟨b', [], a⟩ b := by
    intro endpointId plugin b' resp a h
    have hretire : ∀ {l : Ledger} {sent : Option String} {filed : Option ResourceAllocation},
        (l.retireEnded sent filed).leases = l.leases ∧
          (l.retireEnded sent filed).resources = l.resources := by
      intro l sent filed
      unfold Ledger.retireEnded
      split <;> exact ⟨rfl, rfl⟩
    rcases claimPrepare_ok h with rfl | ⟨projects, filed, -, -, hcase⟩
    · exact .self
    · rcases hcase with ⟨x, -, -, rfl⟩ | ⟨-, -, rfl⟩
      · exact ⟨rfl, hretire.1, hretire.2, rfl⟩
      · exact ⟨rfl, hretire.1, hretire.2, rfl⟩
  unfold claimElsewhere
  simp only
  split
  · exact .self
  · exact .self
  split
  · exact .self
  · rename_i h
    exact hprepare h
  · rename_i h
    exact hprepare h

/-- What a call does once its first attempt was refused: it stops keepers, or spares them. -/
theorem afterRefusal {h : Handoff} (hb : Intact b) (hrole : actor.role ∈ mutatingRoles)
    (hraised : ∀ x f, reclaimKeepaliveForClaim cfg w actor r key b = (x, .raised f) →
      h.stopped = x.stopped ∧ (x = ⟨b, []⟩ → h.Spares b))
    (hcleared : ∀ x, reclaimKeepaliveForClaim cfg w actor r key b = (x, .cleared) →
      h.stopped = x.stopped)
    (hdeclined : ∀ x, reclaimKeepaliveForClaim cfg w actor r key b = (x, .declined) →
      h.stopped = x.stopped ∧ (x = ⟨b, []⟩ → h.Spares b)) :
    h.Spares b ↔ ¬ b.handsOver cfg w r := by
  cases hx : reclaimKeepaliveForClaim cfg w actor r key b with
  | mk x o =>
    have hstopped : h.stopped = x.stopped := by
      cases o with
      | raised f => exact (hraised x f hx).1
      | cleared => exact hcleared x hx
      | declined => exact (hdeclined x hx).1
    constructor
    · intro hs hhands
      have hne : (reclaimKeepaliveForClaim cfg w actor r key b).1.stopped ≠ [] :=
        reclaim_stops hb hrole hhands
      rw [hx] at hne
      exact hne (hstopped ▸ hs.stopped)
    · intro hhands
      have hspared : (reclaimKeepaliveForClaim cfg w actor r key b).1 = ⟨b, []⟩ ∧
          (reclaimKeepaliveForClaim cfg w actor r key b).2 ≠ .cleared := reclaim_spares hhands
      rw [hx] at hspared
      obtain ⟨hstate, houtcome⟩ := hspared
      cases o with
      | raised f => exact (hraised x f hx).2 hstate
      | cleared => exact absurd rfl houtcome
      | declined => exact (hdeclined x hx).2 hstate

theorem attempt_stopped {x : Reclaiming} {t : Broker → Tx (Broker × Response)} :
    (x.attempt t).stopped = x.stopped := by
  unfold Reclaiming.attempt
  split <;> rfl

theorem claimElsewhere_stopped {d : Draw} {f : Fault} {x : Reclaiming} :
    (claimElsewhere cfg d actor r key f x).stopped = x.stopped := by
  unfold claimElsewhere
  simp only
  split
  · rfl
  · rfl
  split <;> rfl

/-- A claim refused by policy. -/
theorem claim_spares (hb : Intact b) {d d' : Draw} {persistent : Bool}
    (hp : RefusedByPolicy
      (createRequest cfg d.now actor r key persistent d.leaseId d.token b)) :
    (claimRequestNow cfg w d d' actor r key persistent b).Spares b ↔ ¬ b.handsOver cfg w r := by
  obtain ⟨e, reason, hfirst, hcode, -⟩ := hp
  have hno : Fault.code (.refused e) = some "no_capacity" := congrArg some hcode
  refine @afterRefusal cfg w b actor r key _ hb (createRequest_role hfirst hno) ?_ ?_ ?_
  · intro x f hx
    have hcall : claimRequestNow cfg w d d' actor r key persistent b =
        ⟨x.broker, x.stopped, .answered (.error f)⟩ := by
      unfold claimRequestNow
      simp only [hfirst, hno, if_true, hx]
    rw [hcall]
    exact ⟨rfl, fun h => h ▸ .self⟩
  · intro x hx
    have hcall : (claimRequestNow cfg w d d' actor r key persistent b).stopped =
        (x.attempt fun b => createRequest cfg d'.now actor r key persistent d'.leaseId d'.token
          b).stopped := by
      unfold claimRequestNow
      simp only [hfirst, hno, if_true, hx]
    rw [hcall, attempt_stopped]
  · intro x hx
    have hcall : claimRequestNow cfg w d d' actor r key persistent b =
        claimElsewhere cfg d' actor r key (.refused e) x := by
      unfold claimRequestNow
      simp only [hfirst, hno, if_true, hx]
    rw [hcall]
    exact ⟨claimElsewhere_stopped, fun h => h ▸ claimElsewhere_spares⟩

/-- A resize refused by policy. -/
theorem change_spares (hb : Intact b) {d d' : Draw} {leaseId : String} {addCount : ℕ}
    {serverId serverGroupId : Option String} {remove : List String} {epoch : Option ℕ}
    {data : RequestCreate}
    (hdata : b.resizeRequestData actor leaseId addCount serverId serverGroupId = .ok data)
    (hp : RefusedByPolicy
      (resizeLease cfg d.now actor leaseId (some data) remove epoch d.token b)) :
    (changeCards cfg w d d' actor leaseId addCount serverId serverGroupId remove epoch b).Spares b ↔
      ¬ b.handsOver cfg w data := by
  obtain ⟨e, reason, hfirst, hcode, -⟩ := hp
  have hno : Fault.code (.refused e) = some "no_capacity" := congrArg some hcode
  refine @afterRefusal cfg w b actor data none _ hb (resizeLease_role hfirst hno) ?_ ?_ ?_
  · intro x f hx
    have hcall : changeCards cfg w d d' actor leaseId addCount serverId serverGroupId remove epoch
        b = ⟨x.broker, x.stopped, .answered (.error f)⟩ := by
      unfold changeCards
      simp only [hdata, hfirst, hno, if_true, hx]
    rw [hcall]
    exact ⟨rfl, fun h => h ▸ .self⟩
  · intro x hx
    have hcall : (changeCards cfg w d d' actor leaseId addCount serverId serverGroupId remove epoch
        b).stopped = (x.attempt fun b =>
          resizeLease cfg d'.now actor leaseId (some data) remove epoch d'.token b).stopped := by
      unfold changeCards
      simp only [hdata, hfirst, hno, if_true, hx]
    rw [hcall, attempt_stopped]
  · intro x hx
    have hcall : changeCards cfg w d d' actor leaseId addCount serverId serverGroupId remove epoch
        b = ⟨x.broker, x.stopped, .answered (.error (.refused e))⟩ := by
      unfold changeCards
      simp only [hdata, hfirst, hno, if_true, hx]
    rw [hcall]
    exact ⟨rfl, fun h => h ▸ .self⟩

/-- **Refused claims and keepers.** A claim, or a change of cards, that project policy refuses
spares the keepers exactly when no placement needs one of them, or the first it needs is out of
reach. -/
theorem policy_spares (cfg : Config) (w : ReclaimWorld) (b : Broker) (actor : ActorContext)
    (d d' : Draw) (hb : Intact b) :
    (∀ (r : RequestCreate) (key : Option String) (persistent : Bool),
      RefusedByPolicy (createRequest cfg d.now actor r key persistent d.leaseId d.token b) →
      ((claimRequestNow cfg w d d' actor r key persistent b).Spares b ↔ ¬ b.handsOver cfg w r)) ∧
    ∀ (leaseId : String) (addCount : ℕ) (serverId serverGroupId : Option String)
      (remove : List String) (epoch : Option ℕ) (data : RequestCreate),
      b.resizeRequestData actor leaseId addCount serverId serverGroupId = .ok data →
      RefusedByPolicy (resizeLease cfg d.now actor leaseId (some data) remove epoch d.token b) →
      ((changeCards cfg w d d' actor leaseId addCount serverId serverGroupId remove epoch b).Spares
        b ↔ ¬ b.handsOver cfg w data) := by
  refine ⟨fun r key persistent hp => claim_spares hb hp, ?_⟩
  intro leaseId addCount serverId serverGroupId remove epoch data hdata hp
  exact change_spares hb hdata hp

/-! ## A project of one card -/

/-- A server of a project that may have one card. -/
def cappedFleet : Broker :=
  .fleet [] [sampleServer "alpha" 22] [{ id := "lab", quotaGpus := some 1 }]

theorem cappedFleet_seeded : Seeded cappedFleet :=
  fleet_seeded _ (by decide) (by decide) (by decide)

/-- The project has its card, and a keeper runs on the other. -/
def cappedKeeper : Broker :=
  Run.run (exec plainConfig) cappedFleet
    [.ingestObservation 0 (lookAtTwo "alpha" "GPU-0" "GPU-1" twoCards_ne 0 []) sampleToken,
     .createRequest 0 (sampleActor "ann") oneCard none true "lease" (sampleToken "lease"),
     .ingestObservation (seconds 10) (lookAtTwo "alpha" "GPU-0" "GPU-1" twoCards_ne (seconds 10)
       [sampleProcess "GPU-1" 7]) sampleToken,
     .activateKeepalives (seconds 10) (sampleActor "ann") "alpha" ["alpha:GPU-1"] (seconds 5)
       "start" none fun _ => "keeper"]

theorem cappedKeeper_reachable : Reachable plainConfig cappedKeeper :=
  ⟨cappedFleet, cappedFleet_seeded, _, rfl⟩

/-- Stop commands succeed, and the collection after one shows both cards empty. -/
def cappedWorld : ReclaimWorld :=
  { resolves := fun x => decide (x = "server-script-v1")
    stopFails := fun _ _ => none
    collected := fun _ => [.ingestObservation (seconds 22)
      (lookAtTwo "alpha" "GPU-0" "GPU-1" twoCards_ne (seconds 22) []) sampleToken]
    observed := fun _ => true
    plannedAt := seconds 11
    notBefore := fun _ => seconds 21
    finalizedAt := fun _ => seconds 23 }

/-- What a call begun at an instant draws. -/
def cappedDraw (n : ℤ) : Draw :=
  { now := seconds n, leaseId := "second", allocationId := "filed", token := sampleToken "second" }

/-- Another task of the project asks for a card. -/
def cappedRequest : RequestCreate := { oneCard with
  taskRef := "eval"
  taskRef_len := by decide }

/-- Another card for the first task. -/
def cappedGrowth : Tx RequestCreate :=
  cappedKeeper.resizeRequestData (sampleActor "ann") "lease" 1 none none

theorem refusedByPolicy_of_check {t : Tx (Broker × Response)}
    (h : (match t with
      | .error (.refused e) =>
        decide (e.code = "no_capacity") && e.details.any fun x => decide (x.1 = "project_policy")
      | _ => false) = true) : RefusedByPolicy t := by
  cases t with
  | ok x => cases h
  | error f =>
    cases f with
    | refused e =>
      rw [Bool.and_eq_true] at h
      obtain ⟨x, hx, hname⟩ := List.any_eq_true.1 h.2
      obtain ⟨name, reason⟩ := x
      obtain rfl : name = "project_policy" := of_decide_eq_true hname
      exact ⟨e, reason, rfl, of_decide_eq_true h.1, hx⟩
    | integrity index => cases h
    | raised what => cases h

theorem cappedRequest_refused : RefusedByPolicy (createRequest plainConfig (cappedDraw 11).now
    (sampleActor "ann") cappedRequest none true (cappedDraw 11).leaseId (cappedDraw 11).token
    cappedKeeper) :=
  refusedByPolicy_of_check (by decide +kernel)

/-- Both calls on the state of the project's keeper. -/
theorem policy_spares_capped :
    ((claimRequestNow plainConfig cappedWorld (cappedDraw 11) (cappedDraw 24) (sampleActor "ann")
        cappedRequest none true cappedKeeper).Spares cappedKeeper ↔
      ¬ cappedKeeper.handsOver plainConfig cappedWorld cappedRequest) ∧
    ∃ data, cappedGrowth = .ok data ∧
      ((changeCards plainConfig cappedWorld (cappedDraw 11) (cappedDraw 24) (sampleActor "ann")
          "lease" 1 none none [] none cappedKeeper).Spares cappedKeeper ↔
        ¬ cappedKeeper.handsOver plainConfig cappedWorld data) := by
  obtain ⟨hclaim, hchange⟩ := policy_spares plainConfig cappedWorld cappedKeeper (sampleActor "ann")
    (cappedDraw 11) (cappedDraw 24) (Reachable.kept cappedKeeper_reachable).intact
  refine ⟨hclaim cappedRequest none true cappedRequest_refused, ?_⟩
  have hok : cappedGrowth.toOption.isSome = true := by decide +kernel
  cases hg : cappedGrowth with
  | error f =>
    rw [hg] at hok
    cases hok
  | ok data =>
    have hrefused : ∀ data ∈ cappedGrowth.toOption, (match resizeLease plainConfig
          (cappedDraw 11).now (sampleActor "ann") "lease" (some data) [] none (cappedDraw 11).token
          cappedKeeper with
        | .error (.refused e) => decide (e.code = "no_capacity") &&
          e.details.any fun x => decide (x.1 = "project_policy")
        | _ => false) = true := by decide +kernel
    refine ⟨data, rfl, hchange "lease" 1 none none [] none data hg ?_⟩
    exact refusedByPolicy_of_check (hrefused data (by rw [hg]; rfl))

/-- A claim and a change of cards over the quota both send the keeper's stop command. -/
theorem policy_stops_keeper :
    (¬ ∀ (cfg : Config) (w : ReclaimWorld) (b : Broker) (actor : ActorContext) (d d' : Draw)
      (r : RequestCreate) (key : Option String) (persistent : Bool), Reachable cfg b →
      RefusedByPolicy (createRequest cfg d.now actor r key persistent d.leaseId d.token b) →
      (claimRequestNow cfg w d d' actor r key persistent b).Spares b) ∧
    (claimRequestNow plainConfig cappedWorld (cappedDraw 11) (cappedDraw 24) (sampleActor "ann")
      cappedRequest none true cappedKeeper).broker.ledger.leases.any
        (fun x => x.id = "keeper" ∧ x.state = .released) = true ∧
    (changeCards plainConfig cappedWorld (cappedDraw 11) (cappedDraw 24) (sampleActor "ann") "lease"
      1 none none [] none cappedKeeper).stopped = [("alpha", ["GPU-1"])] := by
  refine ⟨fun hall => ?_, by decide +kernel, by decide +kernel⟩
  have hspared := hall plainConfig cappedWorld cappedKeeper (sampleActor "ann") (cappedDraw 11)
    (cappedDraw 24) cappedRequest none true cappedKeeper_reachable cappedRequest_refused
  have hstopped : (claimRequestNow plainConfig cappedWorld (cappedDraw 11) (cappedDraw 24)
      (sampleActor "ann") cappedRequest none true cappedKeeper).stopped =
        [("alpha", ["GPU-1"])] := by
    decide +kernel
  rw [hspared.stopped] at hstopped
  cases hstopped

end ServerPilot
