import ServerPilot.Proof.Steps

/-!
# What an observation takes from one lease

The pass after an observation visits each live lease once, and what a visit does
depends on that lease's rows and the plant alone: `pass_at`. So the cards an
observation takes from a lease are the ones due in the state its pass starts
from, `ingested_loses`.
-/

namespace ServerPilot

open Rows

/-! ## One visit among many -/

/-- A lease visited once in a fold of visits: before its visit its rows are as they were at the
start, and after it they stay. -/
theorem foldl_visit_at {σ : Type*} {f : σ → String → σ} (view : σ → Broker)
    (hf : ∀ s i, Visit i (view s) (view (f s i))) {ids : List String} (hn : ids.Nodup)
    {id : String} (hm : id ∈ ids) (s : σ) :
    ∃ s₁, (view s₁).plant = (view s).plant ∧
      (view s₁).ledger.folio id = (view s).ledger.folio id ∧
      SameKeys (view s).ledger (view s₁).ledger ∧
      (view (ids.foldl f s)).ledger.folio id = (view (f s₁ id)).ledger.folio id := by
  obtain ⟨pre, post, rfl⟩ := List.append_of_mem hm
  obtain ⟨hpre, hpost⟩ : id ∉ pre ∧ id ∉ post := by
    rw [List.nodup_append] at hn
    refine ⟨fun h => hn.2.2 id h id List.mem_cons_self rfl, ?_⟩
    exact (List.nodup_cons.1 hn.2.1).1
  have h₁ := foldl_visit_sweep view hf pre s
  have h₂ := foldl_visit_sweep view hf post (f (pre.foldl f s) id)
  refine ⟨pre.foldl f s, h₁.plant, h₁.others id hpre, h₁.keys, ?_⟩
  rw [List.foldl_append, List.foldl_cons]
  exact h₂.others id hpost

/-! ## What is due -/

section

variable {cfg : Config} {now : Time} {b b' : Broker} {lease : Lease}

/-- A look reads the plant and the lease's own rows. -/
theorem folio_lookAtLease_congr (hp : b'.plant = b.plant) {id : String}
    (hf : b'.ledger.folio id = b.ledger.folio id) :
    (b'.lookAtLease cfg now id).cards id = (b.lookAtLease cfg now id).cards id := by
  have h : ∀ c : Broker, (c.lookAtLease cfg now id).cards id =
      (updWhere (fun r => decide (r.leaseId = id ∧ r.active = true))
        (LeaseResource.look cfg now c.plant) (c.ledger.folio id).rows).filter
          fun r => r.active := by
    intro c
    rw [← folio_active]
    have hr := folio_editResources c.ledger id (look_leaseId cfg now c.plant)
      (p := fun r => decide (r.leaseId = id ∧ r.active = true))
    exact congrArg (fun f : Folio => f.rows.filter fun r => r.active) hr
  rw [h, h, hp, hf]

theorem reclaimedCards_congr (hp : b'.plant = b.plant)
    (hf : b'.ledger.folio lease.id = b.ledger.folio lease.id) :
    b'.reclaimedCards cfg now lease = b.reclaimedCards cfg now lease := by
  unfold Broker.reclaimedCards
  simp only
  rw [folio_lookAtLease_congr hp hf, hp]

theorem dueCards_congr (hp : b'.plant = b.plant)
    (hf : b'.ledger.folio lease.id = b.ledger.folio lease.id) :
    b'.dueCards cfg now lease = b.dueCards cfg now lease := by
  unfold Broker.dueCards
  rw [reclaimedCards_congr hp hf]

end

/-! ## One visit -/

/-- A lease the pass takes idle cards from. -/
def Lease.reclaimable (x : Lease) : Prop :=
  x.kind = .workload ∧ (x.state = .held ∨ x.state = .active)

instance (x : Lease) : Decidable x.reclaimable := inferInstanceAs (Decidable (_ ∧ _))

section

variable {cfg : Config} {now : Time} {actorId : String} {s : Pass}

theorem reconcileExpiry_ends (now : Time) (actorId : String) (processes : Bool) {lease : Lease}
    (hl : s.1.ledger.lease? lease.id = some lease) :
    Ends s.1.ledger (reconcileExpiry now actorId processes lease s).1.ledger := by
  unfold reconcileExpiry
  split
  · rename_i hs
    cases processes with
    | true =>
      have h : Keeps s.1.ledger (s.1.ledger.editLease lease.id fun x =>
          { x with state := .orphanedBusy }) := by
        refine .of_edit (fun _ => rfl) fun x hx => ?_
        rw [hl] at hx
        cases hx
        rcases hs.1 with h | h <;> exact ⟨rfl, rfl, by rw [h]; rfl, rfl, rfl⟩
      exact h.ends.trans (.of_tables rfl rfl rfl)
    | false =>
      exact (endLease_ends (i := lease.id) (s := .expiredEmpty) rfl _ now).trans
        (.of_tables rfl rfl rfl)
  · exact .of_eq .refl fun _ => rfl

theorem reconcileAllocation_keeps (lease : Lease) (a : ResourceAllocation) :
    Keeps s.1.ledger (reconcileAllocation cfg now lease a s).1.ledger := by
  unfold reconcileAllocation
  simp only
  split
  · exact .refl _
  split
  · exact .of_tables rfl rfl rfl
  split <;> exact .of_tables rfl rfl rfl

/-- **A visit to one lease**: its due cards go, if it is one of those they are taken from, and then
it may end. -/
theorem reconcileLease_at (cfg : Config) (now : Time) (actorId : String)
    (token : String → String → String) {id : String} {x : Lease}
    (hn : (s.1.ledger.resources.map LeaseResource.cardKey).Nodup)
    (hx : s.1.ledger.lease? id = some x) {h : Holding String String}
    (hh : s.1.ledger.holding? id = some h) :
    ∃ h₁ h₂, (reconcileLease cfg now actorId token s id).1.ledger.holding? id = some h₂ ∧
      h₁.Closes h₂ ∧ (h₁ = h ∨ x.reclaimable ∧ s.1.reclaimedCards cfg now x ≠ [] ∧
        h₁ = h.lose (s.1.dueCards cfg now x)) := by
  obtain rfl := lease?_id hx
  have keeps : ∀ {l : Ledger}, Keeps s.1.ledger l → ∃ h₁ h₂, l.holding? x.id = some h₂ ∧
      h₁.Closes h₂ ∧ (h₁ = h ∨ x.reclaimable ∧ s.1.reclaimedCards cfg now x ≠ [] ∧
        h₁ = h.lose (s.1.dueCards cfg now x)) :=
    fun k => ⟨h, h, (k.holding _).trans hh, .refl h, Or.inl rfl⟩
  unfold reconcileLease
  simp only [hx]
  split
  · exact keeps (.of_edit (f := fun x => { x with expiresAt := none }) (fun _ => rfl)
      fun _ _ => ⟨rfl, rfl, rfl, rfl, rfl⟩)
  rename_i hkind
  split
  · exact keeps (reconcileAllocation_keeps x _)
  unfold reconcileDirect
  simp only
  split
  · rename_i hstate
    -- first the idle cards, then the deadline
    set b := s.1.reconcileIdleLease cfg now actorId (token x.id) x with hb
    have hidle := holding_reconcileIdleLease cfg now actorId (token x.id) x hn
    rw [← hb, hh, Option.map_some] at hidle
    have hx₁ : ∃ h₁, b.ledger.holding? x.id = some h₁ ∧ (h₁ = h ∨ x.reclaimable ∧
        s.1.reclaimedCards cfg now x ≠ [] ∧ h₁ = h.lose (s.1.dueCards cfg now x)) := by
      by_cases hr : s.1.reclaimedCards cfg now x = []
      · rw [if_pos hr] at hidle
        exact ⟨h, hidle, Or.inl rfl⟩
      · rw [if_neg hr] at hidle
        have hk : x.kind = .workload := by
          cases hxk : x.kind with
          | workload => rfl
          | keepalive => exact absurd hxk hkind
        exact ⟨_, hidle, Or.inr ⟨⟨hk, hstate⟩, hr, rfl⟩⟩
    obtain ⟨h₁, hh₁, hcase⟩ := hx₁
    split
    · exact ⟨h₁, h₁, hh₁, .refl h₁, hcase⟩
    · rename_i row hrow
      split
      · exact ⟨h₁, h₁, hh₁, .refl h₁, hcase⟩
      · have hid := lease?_id hrow
        have hl : b.ledger.lease? row.id = some row := by
          rw [hid]
          exact hrow
        have he := reconcileExpiry_ends now actorId ((s.1.ledger.cards x.id).any fun r =>
          s.1.plant.currentProcesses r.gpuId ≠ []) (s := (b, s.2)) hl
        obtain ⟨h₂, hh₂, hc⟩ := he.related x.id h₁ hh₁
        exact ⟨h₁, h₂, hh₂, hc, hcase⟩
  · exact keeps (.refl _)

end

/-! ## One observation -/

section

variable {cfg : Config} {now : Time} (token : String → String → String) {b : Broker}

/-- **What the pass does to one lease**, in terms of the state it starts from. -/
theorem pass_at (hb : Intact b) (o : EndpointObservation) {id : String} {x : Lease}
    (hx : (b.beforePass cfg now o).ledger.lease? id = some x) {h : Holding String String}
    (hh : (b.beforePass cfg now o).ledger.holding? id = some h) :
    ∃ h₁ h₂, (b.ingested cfg now o token).1.ledger.holding? id = some h₂ ∧ h₁.Closes h₂ ∧
      (h₁ = h ∨ x.reclaimable ∧ h₁ = h.lose ((b.beforePass cfg now o).dueCards cfg now x)) := by
  have hc := beforePass_closing cfg now hb.leasePk o
  set s := b.beforePass cfg now o with hs
  have hfinal : ∀ i, (b.ingested cfg now o token).1.ledger.holding? i =
      (s.ledger.liveLeaseIds.foldl (reconcileLease cfg now ("collector:" ++ o.endpointId) token)
        (s, [])).1.ledger.holding? i := (auditRecovery_keeps _ _ _).holding
  rw [hfinal]
  have hvisit : ∀ (p : Pass) i, Visit i p.1
      (reconcileLease cfg now ("collector:" ++ o.endpointId) token p i).1 :=
    fun _ i => reconcileLease_visit i
  by_cases hm : id ∈ s.ledger.liveLeaseIds
  · have hnd : s.ledger.liveLeaseIds.Nodup := by
      have hp : (s.ledger.leases.map Lease.id).Nodup := by
        rw [hc.keys.leases]
        exact hb.leasePk
      exact hp.sublist (List.filter_sublist.map _)
    obtain ⟨s₁, hp, hf, hk, hlast⟩ := foldl_visit_at Prod.fst hvisit hnd hm (s, [])
    have hx₁ : s₁.1.ledger.lease? id = some x := (congrArg Folio.lease hf).trans hx
    have hkeys : (s₁.1.ledger.resources.map LeaseResource.cardKey).Nodup := by
      rw [hk.rows, hc.keys.rows]
      exact hb.leaseGpu
    obtain ⟨h₁, h₂, hh₂, hcl, hcase⟩ := reconcileLease_at cfg now ("collector:" ++ o.endpointId)
      token hkeys hx₁ ((holding_congr hf).trans hh)
    refine ⟨h₁, h₂, (holding_congr hlast).trans hh₂, hcl, ?_⟩
    rcases hcase with rfl | ⟨hr, -, rfl⟩
    · exact Or.inl rfl
    · obtain rfl := lease?_id hx
      exact Or.inr ⟨hr, by rw [dueCards_congr hp hf]⟩
  · have ho := (foldl_visit_sweep Prod.fst hvisit s.ledger.liveLeaseIds (s, [])).others id hm
    exact ⟨h, h, (holding_congr ho).trans hh, .refl h, Or.inl rfl⟩

/-- **What an observation does to one lease**: it may end, the cards due in the state the pass
starts from may go, and it may end then. -/
theorem ingested_loses (hb : Intact b) (o : EndpointObservation) {id : String}
    {h : Holding String String} (hh : b.ledger.holding? id = some h) :
    ∃ h₀ h₁ h₂ x, h.Closes h₀ ∧ (b.beforePass cfg now o).ledger.lease? id = some x ∧
      (b.beforePass cfg now o).ledger.holding? id = some h₀ ∧
      (h₁ = h₀ ∨ x.reclaimable ∧ h₁ = h₀.lose ((b.beforePass cfg now o).dueCards cfg now x)) ∧
      h₁.Closes h₂ ∧ (b.ingested cfg now o token).1.ledger.holding? id = some h₂ := by
  obtain ⟨h₀, hh₀, hc₀⟩ := (beforePass_closing cfg now hb.leasePk o).ends.related id h hh
  obtain ⟨x, hx, -⟩ := lease_of_holding hh₀
  obtain ⟨h₁, h₂, hh₂, hc, hcase⟩ := pass_at token hb o hx hh₀
  exact ⟨h₀, h₁, h₂, x, hc₀, hx, hh₀, hcase, hc, hh₂⟩

end

end ServerPilot
