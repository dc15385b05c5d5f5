import ServerPilot.Proof.Names
import ServerPilot.Proof.Limits

/-!
# Takeovers and the unique indexes

A takeover writes three columns the indexes read: the lease's project and owner,
and the actor of its allocations. It looks for another holder of the task only
when the lease changes projects, so an ownerless lease taken over inside its own
project is not checked against the owned one, and the allocations are never
checked: `takeover_in_order_iff`.
-/

namespace ServerPilot

open Rows Checked

/-! ## The update -/

/-- The lease a takeover goes on with, past the checks of the caller and of what it found. -/
def Ledger.takenLease (l : Ledger) (actor : ActorContext) (leaseId task : Option String)
    (projectId : String) (force : Bool) : Option Lease :=
  (l.takeoverTarget leaseId task projectId).filter fun x =>
    actor.role ∈ mutatingRoles ∧ actor.sessionId.isSome = true ∧
      (x.kind = .workload ∧ x.state.terminal = false) ∧
      (x.ownerSessionId = none ∨ x.projectId = projectId ∨ force = true) ∧
      (x.projectId = projectId ∨ projectId ≠ systemId)

def ResourceAllocation.handedTo (actor : ActorContext) (a : ResourceAllocation) :
    ResourceAllocation :=
  { a with actorId := actor.id }

/-- The rows as a takeover writes them. -/
def Broker.handedOver (b : Broker) (actor : ActorContext) (session projectId : String) (now : Time)
    (x : Lease) : Broker :=
  { b with
    ledger :=
      (b.ledger.editLease x.id (Lease.takenOver actor session projectId now)).editAllocations
      (fun a => a.leaseId = some x.id) (ResourceAllocation.handedTo actor) }

/-- The other live owned leases of a lease's task in a project. -/
def Ledger.holdersBeside (l : Ledger) (x : Lease) (projectId : String) : List Lease :=
  l.ownedLive.filter fun y => y.projectId = projectId ∧ y.taskRef = x.taskRef ∧ y.id ≠ x.id

/-- No allocation handed to the actor meets another one of the same request. -/
def Ledger.KeysFree (l : Ledger) (x : Lease) (actor : ActorContext) : Prop :=
  ∀ a ∈ l.allocations, a.leaseId = some x.id → ∀ a' ∈ l.allocations, a' ≠ a →
    a'.leaseId = some x.id ∨ a'.actorId = actor.id →
      ¬ (a'.requestKey = a.requestKey ∧ a'.endpointId = a.endpointId)

/-- The indexes have room for a lease under its new holder: nobody else holds its task there, and
its allocations meet none of the actor's. -/
def Ledger.TakesIn (l : Ledger) (x : Lease) (actor : ActorContext) (projectId : String) : Prop :=
  (x.releasedAt = none → l.holdersBeside x projectId = []) ∧ l.KeysFree x actor

/-- A move between projects meets another holder of the task, and is looked at. -/
def Ledger.Clashes (l : Ledger) (x : Lease) (projectId : String) : Prop :=
  x.projectId ≠ projectId ∧ l.holdersBeside x projectId ≠ []

instance (l : Ledger) (x : Lease) (actor : ActorContext) : Decidable (l.KeysFree x actor) :=
  inferInstanceAs (Decidable (∀ a ∈ l.allocations, _ → ∀ a' ∈ l.allocations, _ → _ → ¬ _))

instance (l : Ledger) (x : Lease) (actor : ActorContext) (p : String) :
    Decidable (l.TakesIn x actor p) := inferInstanceAs (Decidable ((_ → _) ∧ _))

instance (l : Ledger) (x : Lease) (p : String) : Decidable (l.Clashes x p) :=
  inferInstanceAs (Decidable (_ ∧ _))

/-- A takeover leaves one holder to each task, and what the indexes do not allow it refuses. -/
structure TakesOverInOrder (cfg : Config) (b : Broker) (now : Time) (actor : ActorContext)
    (leaseId task : Option String) (projectId reason : String) (force : Bool) : Prop where
  single : ∀ P T, ((exec cfg b (.takeOverLease now actor leaseId task projectId reason
    force)).ledger.ownedLive.filter fun y => y.projectId = P ∧ y.taskRef = T).length ≤ 1
  conflict : ∀ x ∈ b.ledger.takenLease actor leaseId task projectId force,
    ∀ session ∈ actor.sessionId, ¬ Intact (b.handedOver actor session projectId now x) →
      ∃ e, takeOverLease now actor leaseId task projectId reason force b = .error (.refused e) ∧
        e.statusCode = 409
  refused : ∀ f, takeOverLease now actor leaseId task projectId reason force b = .error f →
    (∃ e, f = .refused e) ∧
      exec cfg b (.takeOverLease now actor leaseId task projectId reason force) = b

section

variable {cfg : Config} {b : Broker} {now : Time} {actor : ActorContext}
  {leaseId task : Option String} {projectId reason session : String} {force : Bool} {x : Lease}

theorem mem_holdersBeside {l : Ledger} {y : Lease} :
    y ∈ l.holdersBeside x projectId ↔ y ∈ l.ownedLive ∧
      y.projectId = projectId ∧ y.taskRef = x.taskRef ∧ y.id ≠ x.id := by
  unfold Ledger.holdersBeside
  simp [List.mem_filter]

/-- **The task index** has room for the lease exactly when nobody else holds the task. -/
theorem ownedLive_takenOver (actor : ActorContext) (session projectId : String) (now : Time)
    (hb : Intact b) (hx : x ∈ b.ledger.leases) :
    ((b.handedOver actor session projectId now x).ledger.ownedLive.map fun y =>
        (y.projectId, y.taskRef)).Nodup ↔
      (x.releasedAt = none → b.ledger.holdersBeside x projectId = []) := by
  have hn : b.ledger.leases.Nodup := List.Nodup.of_map _ hb.leasePk
  have hself : ∀ y ∈ b.ledger.leases, y.id = x.id → y = x := fun y hy h =>
    List.inj_on_of_nodup_map hb.leasePk hy hx h
  unfold Broker.handedOver Ledger.editLease Ledger.editAllocations Ledger.ownedLive
  refine (nodup_filter_updWhere_iff hn hb.activeOwnedTask).trans ?_
  simp only [decide_eq_true_eq]
  constructor
  · intro h hl
    refine List.eq_nil_iff_forall_not_mem.2 fun y hy => ?_
    obtain ⟨hy, hp, ht, hne⟩ := mem_holdersBeside.1 hy
    obtain ⟨hy, hlive⟩ := List.mem_filter.1 hy
    have hyx : y ≠ x := fun he => hne (congrArg Lease.id he)
    refine h x hx rfl ⟨rfl, hl⟩ y hy hyx ?_ ?_
    · rw [if_neg hne]
      exact of_decide_eq_true hlive
    · rw [if_neg hne, hp, ht]
      rfl
  · intro h y hy hyx hlive z hz hzy hzlive heq
    obtain rfl := hself y hy hyx
    have hne : z.id ≠ y.id := fun he => hzy (hself z hz he)
    rw [if_neg hne] at hzlive heq
    have hm : z ∈ b.ledger.holdersBeside y projectId :=
      mem_holdersBeside.2 ⟨List.mem_filter.2 ⟨hz, decide_eq_true hzlive⟩,
        congrArg Prod.fst heq, congrArg Prod.snd heq, hne⟩
    rw [h hlive.2] at hm
    cases hm

/-- **The request index** has room for the allocations exactly when none of them meets another. -/
theorem allocations_handedOver (x : Lease) (actor : ActorContext) (session projectId : String)
    (now : Time) (hb : Intact b) :
    ((b.handedOver actor session projectId now x).ledger.allocations.map fun a =>
        (a.actorId, a.requestKey, a.endpointId)).Nodup ↔ b.ledger.KeysFree x actor := by
  have hn : b.ledger.allocations.Nodup := List.Nodup.of_map _ hb.allocationPk
  have hall : ∀ l : List ResourceAllocation, l.filter (fun _ => true) = l := List.filter_true
  have h := nodup_filter_updWhere_iff (p := fun a => decide (a.leaseId = some x.id))
    (q := fun _ => true) (f := ResourceAllocation.handedTo actor)
    (g := fun a => (a.actorId, a.requestKey, a.endpointId)) hn
    (by rw [hall]; exact hb.allocationRequest)
  rw [hall] at h
  refine h.trans ?_
  simp only [decide_eq_true_eq, true_imp_iff]
  unfold Ledger.KeysFree
  refine forall₃_congr fun a _ ha => forall₃_congr fun a' _ hne => ?_
  unfold ResourceAllocation.handedTo
  by_cases ha' : a'.leaseId = some x.id
  · simp [ha']
  · simp [ha']

/-- **What a takeover writes** is intact exactly when both indexes have room. -/
theorem handedOver_intact_iff (actor : ActorContext) (session projectId : String) (now : Time)
    (hb : Intact b) (hx : x ∈ b.ledger.leases) :
    Intact (b.handedOver actor session projectId now x) ↔ b.ledger.TakesIn x actor projectId := by
  unfold Ledger.TakesIn
  rw [← ownedLive_takenOver actor session projectId now hb hx,
    ← allocations_handedOver x actor session projectId now hb]
  refine ⟨fun h => ⟨h.activeOwnedTask, h.allocationRequest⟩, fun ⟨ht, ha⟩ => ?_⟩
  have hleases : Intact ⟨b.plant, b.ledger.editLease x.id
      (Lease.takenOver actor session projectId now)⟩ :=
    hb.of_leaseIds (map_updWhere _ fun _ => rfl) ht
  exact hleases.of_allocations (fun _ => rfl) ha

/-! ## What a takeover answers -/

/-- What the checks of a takeover ask of the lease it found. -/
theorem takenLease_eq_some :
    b.ledger.takenLease actor leaseId task projectId force = some x ↔
      b.ledger.takeoverTarget leaseId task projectId = some x ∧ actor.role ∈ mutatingRoles ∧
        actor.sessionId.isSome = true ∧ (x.kind = .workload ∧ x.state.terminal = false) ∧
        (x.ownerSessionId = none ∨ x.projectId = projectId ∨ force = true) ∧
        (x.projectId = projectId ∨ projectId ≠ systemId) := by
  unfold Ledger.takenLease
  rw [Option.filter_eq_some_iff, decide_eq_true_eq]

theorem takeoverTarget_mem (h : b.ledger.takeoverTarget leaseId task projectId = some x) :
    x ∈ b.ledger.leases := by
  cases leaseId with
  | some id => exact lease?_mem h
  | none => exact List.mem_of_mem_filter (latest_mem h)

/-- The project a lease may be moved into exists afterwards. -/
theorem ensureClaimProject_made (l : Ledger) (hp : projectId ≠ systemId) :
    ∃ projects project, l.ensureClaimProject projectId = .ok ({ l with projects }, project) ∧
      ((l.projects.map Project.id).Nodup → (projects.map Project.id).Nodup) := by
  unfold Ledger.ensureClaimProject
  rw [require_bind_pos hp]
  cases hfound : l.project? projectId with
  | some project => exact ⟨l.projects, project, rfl, id⟩
  | none =>
    refine ⟨_, _, rfl, fun h => ?_⟩
    rw [List.map_append, List.nodup_append]
    refine ⟨h, List.nodup_singleton _, fun i hi j hj he => ?_⟩
    obtain ⟨p, hp, rfl⟩ := List.mem_map.1 hi
    exact row?_none hfound p hp (he.trans (List.mem_singleton.1 hj))

/-- The takeover of a lease that was found, by a caller who may take one. -/
theorem takeOverLease_found (hrole : actor.role ∈ mutatingRoles)
    (hs : actor.sessionId = some session)
    (hx : ((b.ledger.takeoverTarget leaseId task projectId).filter fun x =>
      x.kind = .workload ∧ x.state.terminal = false) = some x) :
    takeOverLease now actor leaseId task projectId reason force b =
      (require (x.ownerSessionId = none ∨ x.projectId = projectId ∨ force = true)
        (refuse "takeover_project_mismatch" "这是其他项目的租约" 409
          [("project", .text x.projectId)]) >>= fun _ =>
      b.ledger.takeoverProject x projectId >>= fun l =>
      let ledger :=
        ((l.editLease x.id (Lease.takenOver actor session projectId now)).editAllocations
          (fun a => a.leaseId = some x.id)
            (ResourceAllocation.handedTo actor)).bumpRevision.addAudit
            (some actor.id) "lease.taken_over" "lease" x.id "success"
            [("from_session", (x.ownerSessionId.map Detail.text).getD .none),
              ("reason", .text (cut 300 reason))] now
      finish { b with ledger }
        (.takenOver ({ b with ledger }.leaseDictOf x) ledger.revision)) := by
  unfold takeOverLease requireRole
  rw [require_bind_pos hrole, need_bind_some hs]
  exact need_bind_some hx

/-- A caller or a lease the checks turn away is a refusal. -/
theorem takeOverLease_turned (now : Time) (reason : String)
    (h : b.ledger.takenLease actor leaseId task projectId force = none) :
    ∃ e, takeOverLease now actor leaseId task projectId reason force b = .error (.refused e) := by
  by_cases hrole : actor.role ∈ mutatingRoles
  swap
  · unfold takeOverLease requireRole
    exact ⟨_, require_bind_neg hrole⟩
  cases hs : actor.sessionId with
  | none =>
    unfold takeOverLease requireRole
    rw [require_bind_pos hrole]
    exact ⟨_, need_bind_none hs⟩
  | some session =>
    cases hx : (b.ledger.takeoverTarget leaseId task projectId).filter fun x =>
        x.kind = .workload ∧ x.state.terminal = false with
    | none =>
      unfold takeOverLease requireRole
      rw [require_bind_pos hrole, need_bind_some hs]
      exact ⟨_, need_bind_none hx⟩
    | some x =>
      obtain ⟨htarget, hkind⟩ := Option.filter_eq_some_iff.1 hx
      rw [takeOverLease_found hrole hs hx]
      by_cases hforce : x.ownerSessionId = none ∨ x.projectId = projectId ∨ force = true
      swap
      · exact ⟨_, require_bind_neg hforce⟩
      -- what is left is the reserved project
      have hreserved : ¬ (x.projectId = projectId ∨ projectId ≠ systemId) := fun hp => by
        have hx := takenLease_eq_some.2 ⟨htarget, hrole, Option.isSome_iff_exists.2 ⟨session, hs⟩,
          of_decide_eq_true hkind, hforce, hp⟩
        rw [h] at hx
        cases hx
      obtain ⟨hmoves, hsystem⟩ := not_or.1 hreserved
      rw [require_bind_pos hforce]
      unfold Ledger.takeoverProject Ledger.ensureClaimProject
      rw [if_neg hmoves, require_bind_neg hsystem]
      exact ⟨_, rfl⟩

/-- So is a move into a project where somebody else holds the task. -/
theorem takeOverLease_clashes (now : Time) (reason : String)
    (hx : b.ledger.takenLease actor leaseId task projectId force = some x)
    (hc : b.ledger.Clashes x projectId) :
    ∃ e, takeOverLease now actor leaseId task projectId reason force b = .error (.refused e) ∧
      e.statusCode = 409 := by
  obtain ⟨htarget, hrole, hsession, hkind, hforce, hp⟩ := takenLease_eq_some.1 hx
  obtain ⟨session, hs⟩ := Option.isSome_iff_exists.1 hsession
  have hfound : ((b.ledger.takeoverTarget leaseId task projectId).filter fun x =>
      x.kind = .workload ∧ x.state.terminal = false) = some x :=
    Option.filter_eq_some_iff.2 ⟨htarget, decide_eq_true hkind⟩
  obtain ⟨projects, project, hproject, -⟩ := ensureClaimProject_made b.ledger (hp.resolve_left hc.1)
  have hclash : ¬ b.ledger.ownedLive.find? (fun y =>
      y.projectId = projectId ∧ y.taskRef = x.taskRef ∧ y.id ≠ x.id) = none := by
    rw [← List.head?_filter, List.head?_eq_none_iff]
    exact hc.2
  rw [takeOverLease_found hrole hs hfound, require_bind_pos hforce]
  unfold Ledger.takeoverProject
  rw [if_neg hc.1, hproject]
  refine ⟨_, congrArg (· >>= _) (require_bind_neg hclash), rfl⟩

/-- Any other takeover is made, and commits or not by the two indexes alone. -/
theorem takeOverLease_made (now : Time) (reason : String) (hb : Intact b)
    (hx : b.ledger.takenLease actor leaseId task projectId force = some x)
    (hc : ¬ b.ledger.Clashes x projectId) (hs : actor.sessionId = some session) :
    ∃ b' r, takeOverLease now actor leaseId task projectId reason force b = finish b' r ∧
      (Intact b' ↔ Intact (b.handedOver actor session projectId now x)) := by
  obtain ⟨htarget, hrole, -, hkind, hforce, hp⟩ := takenLease_eq_some.1 hx
  have hfound : ((b.ledger.takeoverTarget leaseId task projectId).filter fun x =>
      x.kind = .workload ∧ x.state.terminal = false) = some x :=
    Option.filter_eq_some_iff.2 ⟨htarget, decide_eq_true hkind⟩
  have hproject :
      ∃ projects, b.ledger.takeoverProject x projectId = .ok { b.ledger with projects } ∧
      (projects.map Project.id).Nodup := by
    unfold Ledger.takeoverProject
    by_cases hsame : x.projectId = projectId
    · rw [if_pos hsame]
      exact ⟨_, rfl, hb.projectPk⟩
    · obtain ⟨projects, project, hproject, hnodup⟩ :=
        ensureClaimProject_made b.ledger (hp.resolve_left hsame)
      have hclear : b.ledger.ownedLive.find? (fun y =>
          y.projectId = projectId ∧ y.taskRef = x.taskRef ∧ y.id ≠ x.id) = none := by
        rw [← List.head?_filter, List.head?_eq_none_iff]
        exact not_not.1 fun h => hc ⟨hsame, h⟩
      rw [if_neg hsame, hproject]
      exact ⟨projects, require_bind_pos hclear, hnodup hb.projectPk⟩
  obtain ⟨projects, hproject, hnodup⟩ := hproject
  rw [takeOverLease_found hrole hs hfound, require_bind_pos hforce, hproject]
  refine ⟨_, _, rfl, fun h => ?_, fun h => ?_⟩
  · exact { h with projectPk := hb.projectPk, auditPk := hb.auditPk }
  · have hmoved : Intact ⟨b.plant,
        { (b.handedOver actor session projectId now x).ledger with projects }⟩ :=
      { h with projectPk := hnodup }
    exact hmoved.bumpRevision.addAudit _ _ _ _ _ _ _

/-! ## When it is in order -/

/-- One row of a unique column. -/
theorem single_ownedLive (hb : Intact b) (P T : String) :
    (b.ledger.ownedLive.filter fun y => y.projectId = P ∧ y.taskRef = T).length ≤ 1 := by
  have hkey : b.ledger.ownedLive.filter (fun y => decide (y.projectId = P ∧ y.taskRef = T)) =
      b.ledger.ownedLive.filter fun y => decide ((y.projectId, y.taskRef) = (P, T)) :=
    List.filter_congr fun y _ => by simp
  rw [hkey]
  cases hrows : b.ledger.ownedLive.filter fun y => decide ((y.projectId, y.taskRef) = (P, T)) with
  | nil => exact Nat.zero_le 1
  | cons y l =>
    obtain ⟨hy, hk⟩ := List.mem_filter.1 (hrows ▸ List.mem_cons_self : y ∈ _)
    have hone := filter_key_of_mem hb.activeOwnedTask hy
    rw [of_decide_eq_true hk, hrows] at hone
    exact hone ▸ le_refl 1

/-- **A takeover is in order exactly when the indexes have room** for the lease it goes on with, or
the lease changes projects and meets another holder there. -/
theorem takeover_in_order_iff (cfg : Config) (b : Broker) (hb : Intact b) (now : Time)
    (actor : ActorContext) (leaseId task : Option String) (projectId reason : String)
      (force : Bool) :
    TakesOverInOrder cfg b now actor leaseId task projectId reason force ↔
      ∀ x ∈ b.ledger.takenLease actor leaseId task projectId force,
        b.ledger.Clashes x projectId ∨ b.ledger.TakesIn x actor projectId := by
  have hexec : ∀ op : Op, Intact (exec cfg b op) := fun op => by
    rcases exec_cases cfg b op with ⟨b', r, h, he⟩ | ⟨-, he⟩
    · rw [he]
      exact apply_intact hb h
    · rwa [he]
  constructor
  · intro h x hx
    by_contra hno
    obtain ⟨hclash, hroom⟩ := not_or.1 hno
    obtain ⟨htarget, -, hsession, -⟩ := takenLease_eq_some.1 hx
    obtain ⟨session, hs⟩ := Option.isSome_iff_exists.1 hsession
    obtain ⟨b', r, hcall, hi⟩ := takeOverLease_made now reason hb hx hclash hs
    have hm : x ∈ b.ledger.leases := takeoverTarget_mem htarget
    have hbroken : ¬ Intact b' :=
      fun hb' => hroom ((handedOver_intact_iff actor session projectId now hb hm).1 (hi.1 hb'))
    obtain ⟨i, hi⟩ : ∃ i, b'.violated = some i :=
      Option.ne_none_iff_exists'.1 fun hv => hbroken (violated_eq_none.1 hv)
    have herror : finish b' r = .error (.integrity i) := by
      unfold finish commit
      rw [hi]
      rfl
    obtain ⟨e, he⟩ := (h.refused _ (hcall.trans herror)).1
    cases he
  · intro h
    have hturned : ∀ f, takeOverLease now actor leaseId task projectId reason force b = .error f →
        ∃ e, f = .refused e := fun f hf => by
      cases hx : b.ledger.takenLease actor leaseId task projectId force with
      | none =>
        obtain ⟨e, he⟩ := takeOverLease_turned now reason hx
        exact ⟨e, Except.error.inj (hf.symm.trans he)⟩
      | some x =>
        by_cases hclash : b.ledger.Clashes x projectId
        · obtain ⟨e, he, -⟩ := takeOverLease_clashes now reason hx hclash
          exact ⟨e, Except.error.inj (hf.symm.trans he)⟩
        · obtain ⟨htarget, -, hsession, -⟩ := takenLease_eq_some.1 hx
          obtain ⟨session, hs⟩ := Option.isSome_iff_exists.1 hsession
          obtain ⟨b', r, hcall, hi⟩ := takeOverLease_made now reason hb hx
            hclash hs
          have hroom := (handedOver_intact_iff actor session projectId now hb
            (takeoverTarget_mem htarget)).2 ((h x hx).resolve_left hclash)
          rw [finish_of_intact (hi.2 hroom)] at hcall
          rw [hcall] at hf
          cases hf
    refine ⟨single_ownedLive (hexec _), fun x hx session hs hbroken => ?_, fun f hf => ?_⟩
    · obtain ⟨htarget, -⟩ := takenLease_eq_some.1 hx
      rcases h x hx with hclash | hroom
      · exact takeOverLease_clashes now reason hx hclash
      · exact absurd ((handedOver_intact_iff actor session projectId now hb
          (takeoverTarget_mem htarget)).2 hroom) hbroken
    · refine ⟨hturned f hf, ?_⟩
      unfold exec
      have ha : (Op.takeOverLease now actor leaseId task projectId reason force).apply cfg b =
        .error f := hf
      rw [ha]

end

/-! ## An ownerless lease beside an owned one -/

/-- The same task claimed once more from the console: a second lease of it, without an owner. -/
def consoleClaim : Op :=
  .createRequest (seconds 10) { id := "console", role := "operator" } oneCard none true "console"
    (sampleToken "console")

def heldTwice : Broker := Run.run (exec plainConfig) heldFirst [consoleClaim]

theorem heldTwice_reachable : Reachable plainConfig heldTwice := by
  obtain ⟨b₀, hs, ops, h⟩ := heldFirst_reachable
  exact ⟨b₀, hs, ops ++ [_], by rw [Run.run_append, ← h]; rfl⟩

/-- Taken into another project, the ownerless lease has the task for itself; in the project of its
namesake it does not. -/
theorem heldTwice_takeovers :
    TakesOverInOrder plainConfig heldTwice (seconds 12) (sampleActor "ann") (some "console") none
        "annex" "mine" false ∧
      ¬ TakesOverInOrder plainConfig heldTwice (seconds 12) (sampleActor "ann") (some "console")
        none "lab" "mine" false :=
  ⟨(takeover_in_order_iff _ _ heldTwice_reachable.kept.intact _ _ _ _ _ _ _).2 (by decide +kernel),
    fun h => absurd ((takeover_in_order_iff _ _ heldTwice_reachable.kept.intact _ _ _ _ _ _ _).1 h)
      (by decide +kernel)⟩

/-- **Taking over the ownerless lease breaks the task index**, which the call finds out at its
commit. -/
theorem takeover_breaks_index :
    ¬ ∀ cfg b, Reachable cfg b → ∀ now actor leaseId task projectId reason force,
      TakesOverInOrder cfg b now actor leaseId task projectId reason force := by
  intro h
  have hx := h plainConfig heldTwice heldTwice_reachable (seconds 12) (sampleActor "ann")
    (some "console") none "lab" "mine" false
  have herror : takeOverLease (seconds 12) (sampleActor "ann") (some "console") none "lab" "mine"
      false heldTwice = .error (.integrity "uq_active_owned_task") := by decide +kernel
  obtain ⟨e, he⟩ := (hx.refused _ herror).1
  cases he

end ServerPilot
