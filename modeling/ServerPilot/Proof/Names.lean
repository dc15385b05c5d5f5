import ServerPilot.Proof.Commits
import ServerPilot.Proof.Consistency
import ServerPilot.Proof.Epoch

/-!
# Task names

Two lookups find a lease by its task: a claim asks for the owned lease of its own
project, and everything else takes the newest live lease of that name in the
project or without an owner. The second finds a project's own lease exactly when
no ownerless lease of the same name is newer: `task_resolves_iff`.
-/

namespace ServerPilot

open Rows Checked

/-! ## What finding the lease means -/

/-- The actor is a session of project `P`. -/
def ActorContext.actsFor (actor : ActorContext) (P : String) : Prop :=
  actor.sessionId.isSome = true ∧ actor.sessionProject = some P

/-- The lease an answer of `_held_task` is about. -/
def heldLeaseId : Tx (Option Response) → Option Detail
  | .ok (some (.existing _ dict)) => some (.text dict.lease.id)
  | .error (.refused e) => e.details.lookup "lease_id"
  | _ => none

/-- For every session of the lease's project the name of its task stands for the lease: in every
lookup, and in a heartbeat, which is accepted and refreshes it. -/
structure ResolvesTo (cfg : Config) (b : Broker) (x : Lease) : Prop where
  holding : ∀ actor : ActorContext, actor.actsFor x.projectId →
    b.taskHolding actor x.projectId x.taskRef = some (b.holdingOf actor x)
  viewed : ∀ now actor keepIdle, actor.actsFor x.projectId →
    leaseView cfg now actor none (some x.taskRef) (some x.projectId) keepIdle b =
      leaseView cfg now actor (some x.id) none none keepIdle b
  takenOver : ∀ now actor reason force, actor.actsFor x.projectId →
    takeOverLease now actor none (some x.taskRef) x.projectId reason force b =
      takeOverLease now actor (some x.id) none x.projectId reason force b
  held : ∀ (actor : ActorContext) (r : RequestCreate), actor.actsFor x.projectId →
    r.projectId = x.projectId → r.taskRef = x.taskRef →
    heldLeaseId (b.heldTask actor r) = some (.text x.id)
  heartbeat : ∀ now actor keepIdle, actor.actsFor x.projectId → actor.role ∈ mutatingRoles →
    ∃ b' resp, leaseView cfg now actor none (some x.taskRef) (some x.projectId) keepIdle b =
      .ok (b', resp) ∧ (b'.ledger.lease? x.id).map Lease.lastHeartbeatAt = some now

/-- A live lease of this task that nobody owns. -/
def Lease.stray (task : String) (y : Lease) : Prop :=
  y.kind = .workload ∧ y.taskRef = task ∧ y.releasedAt = none ∧ y.ownerSessionId = none

/-- No ownerless lease of the same task is newer: the ones before it in the table are older, and
the ones after it were not issued later. -/
def Ledger.Foremost (l : Ledger) (x : Lease) : Prop :=
  ∃ pre post, l.leases = pre ++ x :: post ∧
    (∀ y ∈ pre, y.stray x.taskRef → y.issuedAt < x.issuedAt) ∧
    ∀ y ∈ post, y.stray x.taskRef → y.issuedAt ≤ x.issuedAt

section

variable {cfg : Config} {now : Time} {b : Broker} {x : Lease}

/-! ## The two lookups -/

/-- A row `_find_task_lease` looks at. -/
def Lease.namesake (projectId task : String) (y : Lease) : Bool :=
  decide (y.kind = .workload ∧ y.taskRef = task ∧ y.releasedAt = none ∧
    (y.projectId = projectId ∨ y.ownerSessionId = none))

/-- With one owned lease for each task, the other rows are ownerless ones. -/
theorem namesake_iff_stray (hb : Intact b) (hx : x ∈ b.ledger.leases)
    (ho : x.ownerSessionId.isSome = true) (hl : x.releasedAt = none) {y : Lease}
    (hy : y ∈ b.ledger.leases) (hne : y ≠ x) :
    y.namesake x.projectId x.taskRef = true ↔ y.stray x.taskRef := by
  unfold Lease.namesake Lease.stray
  rw [decide_eq_true_eq]
  constructor
  · rintro ⟨hk, ht, hr, hp⟩
    refine ⟨hk, ht, hr, ?_⟩
    by_contra howned
    have hproject := hp.resolve_right howned
    have hlive : ∀ z ∈ b.ledger.leases, z.ownerSessionId.isSome = true → z.releasedAt = none →
        z ∈ b.ledger.ownedLive := fun z hz h₁ h₂ => List.mem_filter.2 ⟨hz, by simp [h₁, h₂]⟩
    refine hne (List.inj_on_of_nodup_map hb.activeOwnedTask
      (hlive y hy (Option.isSome_iff_ne_none.2 howned) hr) (hlive x hx ho hl) ?_)
    rw [hproject, ht]
  · rintro ⟨hk, ht, hr, hn⟩
    exact ⟨hk, ht, hr, Or.inr hn⟩

/-- **The lookup by name** finds a project's own lease exactly when no stray one is newer. -/
theorem findTaskLease_iff (hb : Intact b) (hx : x ∈ b.ledger.leases) (hk : x.kind = .workload)
    (ho : x.ownerSessionId.isSome = true) (hl : x.releasedAt = none) :
    b.ledger.findTaskLease x.projectId x.taskRef = some x ↔ b.ledger.Foremost x := by
  have hself : x.namesake x.projectId x.taskRef = true := by simp [Lease.namesake, hk, hl]
  have hn : b.ledger.leases.Nodup := List.Nodup.of_map _ hb.leasePk
  have hfind : b.ledger.findTaskLease x.projectId x.taskRef =
      latest Lease.issuedAt (b.ledger.leases.filter (Lease.namesake x.projectId x.taskRef)) := rfl
  rw [hfind, latest_filter_eq_some_iff, and_iff_right hself]
  unfold Ledger.Foremost
  refine exists_congr fun pre => exists_congr fun post => and_congr_right fun hdec => ?_
  -- the row itself stands in neither part
  have hne : (∀ y ∈ pre, y ≠ x) ∧ ∀ y ∈ post, y ≠ x := by
    rw [hdec, List.nodup_append] at hn
    obtain ⟨-, hpost, hpre⟩ := hn
    refine ⟨fun y hy => hpre y hy x List.mem_cons_self, fun y hy he => ?_⟩
    exact (List.nodup_cons.1 hpost).1 (he ▸ hy)
  have hmem : (∀ y ∈ pre, y ∈ b.ledger.leases) ∧ ∀ y ∈ post, y ∈ b.ledger.leases := by
    rw [hdec]
    exact ⟨fun y hy => List.mem_append_left _ hy,
      fun y hy => List.mem_append_right _ (List.mem_cons_of_mem x hy)⟩
  refine and_congr (forall₂_congr fun y hy => ?_) (forall₂_congr fun y hy => ?_)
  · rw [namesake_iff_stray hb hx ho hl (hmem.1 y hy) (hne.1 y hy)]
  · rw [namesake_iff_stray hb hx ho hl (hmem.2 y hy) (hne.2 y hy)]

/-- A claim of the project finds the owned lease, whatever else carries the name. -/
theorem ownedTask_eq (hb : Intact b) (hx : x ∈ b.ledger.leases)
    (ho : x.ownerSessionId.isSome = true) (hl : x.releasedAt = none) :
    b.ledger.ownedTask? x.projectId x.taskRef = some x := by
  have hm : x ∈ b.ledger.ownedLive := List.mem_filter.2 ⟨hx, by simp [ho, hl]⟩
  have hrow : row? (fun y : Lease => (y.projectId, y.taskRef)) (x.projectId, x.taskRef)
      b.ledger.ownedLive = some x := row?_of_mem hb.activeOwnedTask hm
  unfold row? at hrow
  unfold Ledger.ownedTask?
  simpa only [Prod.mk.injEq] using hrow

theorem heldTask_lease (hb : Intact b) (hx : x ∈ b.ledger.leases)
    (ho : x.ownerSessionId.isSome = true) (hl : x.releasedAt = none) {actor : ActorContext}
    {r : RequestCreate} (ha : actor.sessionId.isSome = true) (hp : r.projectId = x.projectId)
    (ht : r.taskRef = x.taskRef) : heldLeaseId (b.heldTask actor r) = some (.text x.id) := by
  obtain ⟨s, hs⟩ := Option.isSome_iff_exists.1 ha
  unfold Broker.heldTask
  rw [hp, ht, ownedTask_eq hb hx ho hl, hs]
  simp only
  split
  · rfl
  · rfl

/-! ## What the operations do with what they find -/

/-- A view is one of the lease it finds. -/
theorem leaseView_congr {actor : ActorContext} {keepIdle : Bool}
    {id task P id' task' P' : Option String}
    (h : b.ledger.viewedLease id task P = b.ledger.viewedLease id' task' P') :
    leaseView cfg now actor id task P keepIdle b = leaseView cfg now actor id' task' P' keepIdle
      b := by
  unfold leaseView
  rw [h]

theorem lease?_heartbeat (actor : ActorContext) (id : String) (keepIdle : Bool) :
    (b.heartbeat cfg now id actor keepIdle).1.ledger.lease? id =
      (b.ledger.lease? id).map fun y => { y with lastHeartbeatAt := now } := by
  have h := lease?_editLease b.ledger id id (f := fun y => { y with lastHeartbeatAt := now })
    fun _ => rfl
  rw [if_pos rfl] at h
  unfold Broker.heartbeat
  split
  · unfold Broker.keepIdleCards
    simp only
    split <;> exact h
  · exact h

/-- Telling a holder of its changes keeps its lease. -/
theorem lease?_unseenChanges {id : String} (hid : b.ledger.lease? id = some x) :
    ∃ y, (b.ledger.unseenChanges x).1.lease? id = some y := by
  cases hy : (b.ledger.unseenChanges x).1.lease? id with
  | some y => exact ⟨y, rfl⟩
  | none =>
    have hn := lease?_eq_none.1 hy
    rw [(unseenChanges_keeps b.ledger x).keys.leases] at hn
    rw [lease?_eq_none.2 hn] at hid
    cases hid

/-- A session of the project manages its owned leases. -/
theorem actsFor_manages {actor : ActorContext} (ha : actor.actsFor x.projectId)
    (ho : x.ownerSessionId.isSome = true) : canManageLease actor x = true := by
  obtain ⟨s, hs⟩ := Option.isSome_iff_exists.1 ha.1
  obtain ⟨o, ho⟩ := Option.isSome_iff_exists.1 ho
  unfold canManageLease
  simp [hs, ho, ha.2]

/-- **A heartbeat by id** of a session of the project is accepted, and refreshes the lease. -/
theorem heartbeat_accepted (hk : Kept b) (hx : x ∈ b.ledger.leases) (hw : x.kind = .workload)
    (ho : x.ownerSessionId.isSome = true) (hl : x.releasedAt = none) {actor : ActorContext}
    (ha : actor.actsFor x.projectId) (hr : actor.role ∈ mutatingRoles) (keepIdle : Bool) :
    ∃ b' resp, leaseView cfg now actor (some x.id) none none keepIdle b = .ok (b', resp) ∧
      (b'.ledger.lease? x.id).map Lease.lastHeartbeatAt = some now := by
  have hid : b.ledger.lease? x.id = some x := row?_of_mem hk.intact.leasePk hx
  have hlive : x.state.terminal = false := by
    have hd := (hk.consistent.dated x hx).not
    rw [hl] at hd
    simpa using hd
  have hagent : b.ledger.agentLease actor x.id = .ok x := by
    have hm := actsFor_manages ha ho
    unfold Ledger.agentLease
    simp only [bind_ok, need_ok, require_ok, pure_ok]
    exact ⟨x, by simp [hid, hw], (), Or.inl hm, (), hm, rfl⟩
  have hview : b.ledger.viewedLease (some x.id) none none = some x := by
    unfold Ledger.viewedLease
    simp only [hid]
  have hi : Intact (Broker.heartbeat cfg now ⟨b.plant, (b.ledger.unseenChanges x).1⟩ x.id actor
      keepIdle).1 := (hk.intact.unseenChanges x).heartbeat cfg now actor x.id keepIdle
  refine ⟨?after, ?answer, ?accepted, ?refreshed⟩
  case accepted =>
    unfold leaseView
    simp only [bind_ok, need_ok]
    refine ⟨(), require_ok.2 hr, x, hview, x, hagent, ?_⟩
    rw [if_neg (by simp [hlive])]
    exact finish_of_intact hi _
  case refreshed =>
    obtain ⟨y, hy⟩ := lease?_unseenChanges hid
    rw [lease?_heartbeat, hy]
    rfl

/-- **A task's name** stands for a project's own live lease of the task, for every session of the
project and in every operation that looks it up, exactly when no ownerless lease of the same name
is newer. -/
theorem task_resolves_iff (hb : Reachable cfg b) (hx : x ∈ b.ledger.leases)
    (ho : x.ownerSessionId.isSome = true) (hl : x.releasedAt = none) :
    ResolvesTo cfg b x ↔ b.ledger.Foremost x := by
  have hk := hb.kept
  have hw := hb.ownersWork x hx ho
  have hid : b.ledger.lease? x.id = some x := row?_of_mem hk.intact.leasePk hx
  rw [← findTaskLease_iff hk.intact hx hw ho hl]
  constructor
  · intro h
    have hn := h.holding ⟨"agent", "allocator", some "session", some x.projectId⟩ ⟨rfl, rfl⟩
    unfold Broker.taskHolding at hn
    obtain ⟨y, hy, he⟩ := Option.map_eq_some_iff.1 hn
    have hyx : y.id = x.id := congrArg TaskHolding.leaseId he
    rw [hy, List.inj_on_of_nodup_map hk.intact.leasePk
      (List.mem_of_mem_filter (latest_mem hy)) hx hyx]
  · intro hf
    have hview : b.ledger.viewedLease none (some x.taskRef) (some x.projectId) =
        b.ledger.viewedLease (some x.id) none none := by
      unfold Ledger.viewedLease
      simp only [Option.getD_some, hf, hid]
    refine ⟨fun actor _ => ?_, fun now actor keepIdle _ => leaseView_congr hview,
      fun now actor reason force _ => ?_, fun actor r ha hp ht =>
        heldTask_lease hk.intact hx ho hl ha.1 hp ht, fun now actor keepIdle ha hr => ?_⟩
    · unfold Broker.taskHolding
      rw [hf]
      rfl
    · unfold takeOverLease
      simp only [Option.getD_some, hf, hid]
    · rw [leaseView_congr hview]
      exact heartbeat_accepted hk hx hw ho hl ha hr keepIdle

/-- The only lease of a state is found by its name. -/
theorem heldFirst_resolves :
    ∃ y, heldFirst.ledger.leases = [y] ∧ ResolvesTo plainConfig heldFirst y := by
  have hlen : heldFirst.ledger.leases.length = 1 := by decide +kernel
  obtain ⟨y, hy⟩ := List.length_eq_one_iff.1 hlen
  have hc :
      ∀ y ∈ heldFirst.ledger.leases, y.ownerSessionId.isSome = true ∧ y.releasedAt = none := by
    decide +kernel
  have hm : y ∈ heldFirst.ledger.leases := by
    rw [hy]
    exact List.mem_singleton_self y
  exact ⟨y, hy, (task_resolves_iff heldFirst_reachable hm (hc y hm).1 (hc y hm).2).2
    ⟨[], [], hy, by simp, by simp⟩⟩

end

/-! ## A name taken by a stranger -/

/-- Another project's claim for the same task name, sent from the console. -/
def strangersClaim : RequestCreate :=
  { oneCard with
    projectId := "other", projectId_len := by decide, taskRef_len := by decide
    purpose_len := by decide, duration_bounds := by decide, constraints_valid := by decide }

/-- A second lease of the same name, newer and without an owner. -/
def shadowed : Broker :=
  Run.run (exec plainConfig) heldFirst
    [.createRequest (seconds 10) { id := "console", role := "operator" } strangersClaim none true
      "stranger" (sampleToken "stranger")]

theorem shadowed_reachable : Reachable plainConfig shadowed := by
  obtain ⟨b₀, hs, ops, h⟩ := heldFirst_reachable
  exact ⟨b₀, hs, ops ++ [_], by rw [Run.run_append, ← h]; rfl⟩

/-- **A stranger's lease takes the name over**: the project's own lease is not the one its name
stands for. -/
theorem stranger_diverts_name :
    ¬ ∀ b, Reachable plainConfig b → ∀ x ∈ b.ledger.leases, x.ownerSessionId.isSome = true →
      x.releasedAt = none → ResolvesTo plainConfig b x := by
  intro h
  have hx : (shadowed.ledger.lease? "lease").isSome = true := by decide +kernel
  obtain ⟨x, hx⟩ := Option.isSome_iff_exists.1 hx
  have hc : ∀ x ∈ shadowed.ledger.lease? "lease", x.ownerSessionId.isSome = true ∧
      x.releasedAt = none ∧ x.projectId = "lab" ∧ x.taskRef = "train" := by decide +kernel
  obtain ⟨ho, hl, hp, ht⟩ := hc x hx
  have hr := (h shadowed shadowed_reachable x (lease?_mem hx) ho hl).holding (sampleActor "ann")
    ⟨rfl, by rw [hp]; rfl⟩
  have hfound : (shadowed.taskHolding (sampleActor "ann") "lab" "train").map TaskHolding.leaseId =
      some "stranger" := by decide +kernel
  rw [hp, ht] at hr
  rw [hr] at hfound
  have he : x.id = "stranger" := Option.some.inj hfound
  rw [lease?_id hx] at he
  exact absurd he (by decide)

end ServerPilot
