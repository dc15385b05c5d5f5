import ServerPilot.Proof.Deeds

/-!
# What commits

A transaction is refused at its commit only when it breaks an index. The writes
here break none: columns no index reads, rows that leave a partial index, and an
audit row under the next id.
-/

namespace ServerPilot

open Rows Checked

variable {b : Broker}

/-- Lease rows that keep their ids, with room for them in `uq_active_owned_task`. -/
theorem Intact.of_leaseIds (hb : Intact b) {leases : List Lease}
    (hid : leases.map Lease.id = b.ledger.leases.map Lease.id)
    (ho : (({ b.ledger with leases } : Ledger).ownedLive.map fun x =>
        (x.projectId, x.taskRef)).Nodup) : Intact ⟨b.plant, { b.ledger with leases }⟩ :=
  { hb with
    leasePk := hid ▸ hb.leasePk
    activeOwnedTask := ho
    resourceLease := fun r hr => hid ▸ hb.resourceLease r hr
    commitmentLease := fun c hc => hid ▸ hb.commitmentLease c hc
    allocationLease := fun a ha k hk => hid ▸ hb.allocationLease a ha k hk
    bindingLease := fun w hw => hid ▸ hb.bindingLease w hw }

/-- Lease rows that keep their ids, with fewer of them in `uq_active_owned_task`. -/
theorem Intact.of_leases (hb : Intact b) {leases : List Lease}
    (hid : leases.map Lease.id = b.ledger.leases.map Lease.id)
    (ho : List.Sublist (({ b.ledger with leases } : Ledger).ownedLive.map fun x =>
        (x.projectId, x.taskRef)) (b.ledger.ownedLive.map fun x => (x.projectId, x.taskRef))) :
    Intact ⟨b.plant, { b.ledger with leases }⟩ :=
  hb.of_leaseIds hid (hb.activeOwnedTask.sublist ho)

/-- An edit of how far a lease has come, that does not bring an ended one back. -/
theorem Intact.editLease (hb : Intact b) {i : String} {f : Lease → Lease}
    (hd : ∀ x, (f x).deed = x.deed)
    (hr : ∀ x, (f x).releasedAt = none → x.releasedAt = none) :
    Intact ⟨b.plant, b.ledger.editLease i f⟩ := by
  have hcol : ∀ {β : Type} (g : Lease → β), (∀ x, g x.deed = g x) → ∀ x, g (f x) = g x := by
    intro β g hg x
    rw [← hg (f x), hd, hg]
  refine hb.of_leases (map_updWhere _ (id_of_deed hd)) ?_
  refine filter_updWhere_sublist b.ledger.leases (fun x => ?_) fun x hx => ?_
  · exact hcol (fun x => (x.projectId, x.taskRef)) (fun _ => rfl) x
  · have ho : (f x).ownerSessionId = x.ownerSessionId := hcol Lease.ownerSessionId (fun _ => rfl) x
    simp only [decide_eq_true_eq, ho] at hx ⊢
    exact ⟨hx.1, hr x hx.2⟩

/-- An edit of card rows that keeps their keys and makes none of them active. -/
theorem Intact.editResources (hb : Intact b) {p : LeaseResource → Bool}
    {f : LeaseResource → LeaseResource} (hk : ∀ r, (f r).cardKey = r.cardKey)
    (ha : ∀ r, (f r).active = true → r.active = true) :
    Intact ⟨b.plant, b.ledger.editResources p f⟩ := by
  have hl : ∀ r, (f r).leaseId = r.leaseId := fun r => congrArg Prod.fst (hk r)
  have hg : ∀ r, (f r).gpuId = r.gpuId := fun r => congrArg Prod.snd (hk r)
  have hrefers : ∀ (g : LeaseResource → String) (hgf : ∀ r, g (f r) = g r) (keys : List String),
      Refers g b.ledger.resources keys → Refers g (updWhere p f b.ledger.resources) keys := by
    intro g hgf keys h r hr
    obtain ⟨r₀, hr₀, ⟨-, rfl⟩ | ⟨-, rfl⟩⟩ := mem_updWhere.1 hr
    · rw [hgf]
      exact h r₀ hr₀
    · exact h r hr₀
  have hkeys : (updWhere p f b.ledger.resources).map LeaseResource.cardKey =
      b.ledger.resources.map LeaseResource.cardKey := map_updWhere _ hk
  exact { hb with
    leaseGpu := (hkeys ▸ hb.leaseGpu :
      ((updWhere p f b.ledger.resources).map LeaseResource.cardKey).Nodup)
    activeGpu := hb.activeGpu.sublist (filter_updWhere_sublist _ hg fun r hr => by
      simpa using ha r (by simpa using hr))
    resourceLease := hrefers _ hl _ hb.resourceLease
    resourceGpu := hrefers _ hg _ hb.resourceGpu }

/-- What an allocation is filed under, apart from the request it answers. -/
def ResourceAllocation.filing (a : ResourceAllocation) :
    String × Option String × String × String × Option String :=
  (a.id, a.leaseId, a.endpointId, a.providerId, a.allocationRef)

/-- An edit of allocations that leaves their filing, with room for them in
`uq_allocation_request`. -/
theorem Intact.of_allocations (hb : Intact b) {p : ResourceAllocation → Bool}
    {f : ResourceAllocation → ResourceAllocation} (hf : ∀ a, (f a).filing = a.filing)
    (hr : ((updWhere p f b.ledger.allocations).map fun a =>
      (a.actorId, a.requestKey, a.endpointId)).Nodup) :
    Intact ⟨b.plant, b.ledger.editAllocations p f⟩ := by
  have hid : ∀ a, (f a).id = a.id := fun a => congrArg (fun k => k.1) (hf a)
  have hlease : ∀ a, (f a).leaseId = a.leaseId := fun a => congrArg (fun k => k.2.1) (hf a)
  have hend : ∀ a, (f a).endpointId = a.endpointId := fun a => congrArg (fun k => k.2.2.1) (hf a)
  have href : ∀ a, ((f a).endpointId, (f a).providerId, (f a).allocationRef) =
      (a.endpointId, a.providerId, a.allocationRef) := fun a => congrArg (fun k => k.2.2) (hf a)
  have hids : (updWhere p f b.ledger.allocations).map ResourceAllocation.id =
      b.ledger.allocations.map ResourceAllocation.id := map_updWhere _ hid
  have hrefs : ((updWhere p f b.ledger.allocations).filter fun a => a.allocationRef.isSome).map
        (fun a => (a.endpointId, a.providerId, a.allocationRef)) =
      b.ledger.referenced.map fun a => (a.endpointId, a.providerId, a.allocationRef) := by
    have hsome : ∀ a, (f a).allocationRef.isSome = a.allocationRef.isSome := fun a =>
      congrArg (fun k => Option.isSome k.2.2) (href a)
    rw [filter_updWhere _ hsome]
    exact map_updWhere _ href
  exact { hb with
    allocationPk := hids ▸ hb.allocationPk
    allocationRequest := hr
    providerAllocation := hrefs ▸ hb.providerAllocation
    allocationLease := fun a ha k hk => by
      obtain ⟨a₀, ha₀, ⟨-, rfl⟩ | ⟨-, rfl⟩⟩ := mem_updWhere.1 ha
      · rw [hlease] at hk
        exact hb.allocationLease a₀ ha₀ k hk
      · exact hb.allocationLease a ha₀ k hk
    allocationEndpoint := fun a ha => by
      obtain ⟨a₀, ha₀, ⟨-, rfl⟩ | ⟨-, rfl⟩⟩ := mem_updWhere.1 ha
      · rw [hend]
        exact hb.allocationEndpoint a₀ ha₀
      · exact hb.allocationEndpoint a ha₀ }

/-- An edit of allocations that leaves their filing and the requests they answer. -/
theorem Intact.editAllocations (hb : Intact b) {p : ResourceAllocation → Bool}
    {f : ResourceAllocation → ResourceAllocation} (hf : ∀ a, (f a).filing = a.filing)
    (hr : ∀ a, ((f a).actorId, (f a).requestKey) = (a.actorId, a.requestKey)) :
    Intact ⟨b.plant, b.ledger.editAllocations p f⟩ := by
  refine hb.of_allocations hf ?_
  have hkeys : ∀ a, ((f a).actorId, (f a).requestKey, (f a).endpointId) =
      (a.actorId, a.requestKey, a.endpointId) := fun a => by
    have hend : (f a).endpointId = a.endpointId := congrArg (fun k => k.2.2.1) (hf a)
    obtain ⟨ha, hk⟩ := Prod.mk.inj (hr a)
    rw [ha, hk, hend]
  rw [map_updWhere _ hkeys]
  exact hb.allocationRequest

/-- A lease that ends. -/
theorem Intact.endLease (hb : Intact b) (id : String) (st : LeaseState) (reason : Option String)
    (now : Time) : Intact ⟨b.plant, b.ledger.endLease id st reason now⟩ := by
  have hended : Intact ⟨b.plant, b.ledger.editLease id (Lease.ended st reason now)⟩ :=
    hb.editLease (fun _ => rfl) fun _ h => by cases h
  exact hended.editResources (fun _ => rfl) fun _ h => by cases h

/-- The next audit id is past every id there is. -/
theorem lt_nextAuditId {l : Ledger} {e : AuditEvent} (he : e ∈ l.audit) : e.id < l.nextAuditId := by
  unfold Ledger.nextAuditId
  have hle : ∀ ids : List ℕ, ∀ n ∈ ids, n ≤ ids.foldr max 0 := by
    intro ids
    induction ids with
    | nil => simp
    | cons m ids ih =>
      intro n hn
      rcases List.mem_cons.1 hn with rfl | hn
      · exact le_max_left _ _
      · exact (ih n hn).trans (le_max_right _ _)
  have := hle _ e.id (List.mem_map_of_mem he)
  omega

theorem Intact.addAudit (hb : Intact b) (a : Option String) (x t r s : String) (d : Details)
    (now : Time) : Intact ⟨b.plant, b.ledger.addAudit a x t r s d now⟩ := by
  have hids : (b.ledger.addAudit a x t r s d now).audit.map AuditEvent.id =
      b.ledger.audit.map AuditEvent.id ++ [b.ledger.nextAuditId] := List.map_append
  refine { hb with auditPk := ?_ }
  rw [hids, List.nodup_append]
  refine ⟨hb.auditPk, List.nodup_singleton _, fun i hi j hj he => ?_⟩
  obtain ⟨e, hm, rfl⟩ := List.mem_map.1 hi
  obtain rfl := List.mem_singleton.1 hj
  exact absurd (lt_nextAuditId hm) (he ▸ lt_irrefl _)

theorem Intact.bumpRevision (hb : Intact b) : Intact ⟨b.plant, b.ledger.bumpRevision⟩ := { hb with }

/-- An answer kept under a key not used yet, if there is one. -/
theorem Intact.remember (hb : Intact b) {actor : ActorContext} {action : String}
    {key : Option String} (hf : b.ledger.replay actor action key = .ok none) (r : Response)
    (now : Time) : Intact ⟨b.plant, b.ledger.remember actor action key r now⟩ := by
  cases key with
  | none => exact hb
  | some key =>
    have hkeys : (b.ledger.remember actor action (some key) r now).idempotency.map
        (fun r => (r.actorId, r.action, r.key)) =
        b.ledger.idempotency.map (fun r => (r.actorId, r.action, r.key)) ++
          [(actor.id, action, key)] := List.map_append
    refine { hb with idempotencyPk := ?_ }
    rw [hkeys, List.nodup_append]
    refine ⟨hb.idempotencyPk, List.nodup_singleton _, fun k hk k' hk' he => ?_⟩
    obtain ⟨x, hx, rfl⟩ := List.mem_map.1 hk
    obtain rfl := List.mem_singleton.1 hk'
    simp only [Prod.mk.injEq] at he
    unfold Ledger.replay Ledger.idempotent at hf
    simp only [bind_ok, pure_ok, Option.map_eq_none_iff, List.find?_eq_none] at hf
    obtain ⟨-, -, hf⟩ := hf
    exact hf x hx (by simp [he])

/-- A lookup reads the stored answers alone. -/
theorem replay_congr {l l' : Ledger} (h : l'.idempotency = l.idempotency) (actor : ActorContext)
    (action : String) (key : Option String) :
    l'.replay actor action key = l.replay actor action key := by
  unfold Ledger.replay Ledger.idempotent
  rw [h]

/-- An operation under no key or a new one that leaves an intact state is accepted, and its answer
kept. -/
theorem once_accepted_as {actor : ActorContext} {action : String} {key : Option String} {now : Time}
    {c : Broker} {r : Response} {body : Tx (Broker × Response)}
    (hf : b.ledger.replay actor action key = .ok none) (hi : Intact c)
    (hkeys : c.ledger.idempotency = b.ledger.idempotency) (hbody : body = .ok (c, r)) :
    once b actor action key now body =
      .ok (⟨c.plant, c.ledger.remember actor action key r now⟩, r) := by
  have hfc : c.ledger.replay actor action key = .ok none :=
    (replay_congr hkeys actor action key).trans hf
  unfold once remembering
  refine bind_ok.2 ⟨none, hf, bind_ok.2 ⟨(c, r), hbody, ?_⟩⟩
  exact finish_ok.2 ⟨rfl, rfl, hi.remember hfc r now⟩

/-- An operation under a new key that leaves an intact state is accepted. -/
theorem once_accepted {actor : ActorContext} {action key : String} {now : Time} {c : Broker}
    {body : Tx (Broker × Response)} (hf : b.ledger.replay actor action (some key) = .ok none)
    (hi : Intact c) (hkeys : c.ledger.idempotency = b.ledger.idempotency)
    (hbody : ∃ r, body = .ok (c, r)) :
    ∃ b' r, once b actor action (some key) now body = .ok (b', r) := by
  obtain ⟨r, hbody⟩ := hbody
  exact ⟨_, r, once_accepted_as hf hi hkeys hbody⟩

/-- A check that passes leaves the rest to be accepted. -/
theorem accepted_bind {α : Type} {x : Tx α} {f : α → Tx (Broker × Response)} {a : α}
    (hx : x = .ok a) (hf : ∃ b' r, f a = .ok (b', r)) : ∃ b' r, (x >>= f) = .ok (b', r) := by
  obtain ⟨b', r, h⟩ := hf
  exact ⟨b', r, bind_ok.2 ⟨a, hx, h⟩⟩

/-- What is built out of writes that break no index commits. -/
theorem finish_of_intact (hb : Intact b) (r : Response) : finish b r = .ok (b, r) :=
  finish_ok.2 ⟨rfl, rfl, hb⟩

/-! ## A release -/

/-- **A release commits**: the lease ends, and what it was given is marked so. -/
theorem Intact.released (hb : Intact b) (lease : Lease) (reason : String) (token : String → String)
    (now : Time) : Intact (b.released lease reason token now) := by
  have hended :
      Intact ⟨b.plant, b.ledger.bumpRevision.endLease lease.id .released (some reason) now⟩ :=
    hb.bumpRevision.endLease lease.id .released (some reason) now
  unfold Broker.released
  simp only
  split
  · exact hended
  · have hsynced := hended.editAllocations (p := isDirectOf lease.id)
      (f := b.plant.refreshDirect (lease.ended .released (some reason) now) [] now)
      (fun _ => rfl) fun _ => rfl
    unfold Broker.syncDirectAllocations
    simp only [List.map_nil, List.dedup_nil, List.filter_nil, List.append_nil]
    exact hsynced

/-! ## A holder's heartbeat -/

section

variable (cfg : Config) (now : Time) (actor : ActorContext)

theorem Intact.unseenChanges (hb : Intact b) (lease : Lease) :
    Intact ⟨b.plant, (b.ledger.unseenChanges lease).1⟩ := by
  unfold Ledger.unseenChanges
  simp only
  split
  · exact hb
  · exact hb.editLease (fun _ => rfl) fun _ h => h

theorem Intact.keepIdleCards (hb : Intact b) (id : String) :
    Intact ⟨b.plant, (b.keepIdleCards cfg now id actor).1⟩ := by
  have h : Intact ⟨b.plant, b.ledger.editResources (idleCardOf id) (LeaseResource.kept cfg now)⟩ :=
    hb.editResources (fun _ => rfl) fun _ h => h
  unfold Broker.keepIdleCards
  simp only
  split
  · exact h
  · exact h.addAudit _ _ _ _ _ _ _

/-- **A heartbeat commits.** -/
theorem Intact.heartbeat (hb : Intact b) (id : String) (keepIdle : Bool) :
    Intact (b.heartbeat cfg now id actor keepIdle).1 := by
  have h : Intact ⟨b.plant, b.ledger.editLease id fun x => { x with lastHeartbeatAt := now }⟩ :=
    hb.editLease (fun _ => rfl) fun _ h => h
  unfold Broker.heartbeat
  split
  · exact h.keepIdleCards cfg now actor id
  · exact h

end

end ServerPilot
