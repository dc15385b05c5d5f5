import ServerPilot.Proof.Accepted
import ServerPilot.Proof.Select
import ServerPilot.Proof.Shrink

/-!
# Gaining and moving cards

A claim begins a holding (`claim_begun`), a resize and a reassignment change the
cards of one (`resize_resized`, `reassign_moved`), and an activation begins the
holdings of its keepers (`activate_begins`). Each leaves every other lease alone.
-/

namespace ServerPilot

open Rows Checked

/-! ## Cards and their servers -/

section

variable {p : Plant} {g : GPUDevice}

theorem gpu?_of_mem (hn : (p.gpus.map GPUDevice.id).Nodup) (hg : g ∈ p.gpus) :
    p.gpu? g.id = some g := row?_of_mem hn hg

theorem endpointOf_of_mem (hn : (p.gpus.map GPUDevice.id).Nodup) (hg : g ∈ p.gpus) :
    p.endpointOf g.id = g.endpointId := by
  unfold Plant.endpointOf
  rw [gpu?_of_mem hn hg]
  rfl

/-- The servers of some cards, read off their rows or looked up. -/
theorem endpointsOf_toFinset {gpus : List GPUDevice} (hn : (p.gpus.map GPUDevice.id).Nodup)
    (hg : ∀ g ∈ gpus, g ∈ p.gpus) :
    (endpointsOf gpus).toFinset = ((gpus.map GPUDevice.id).toFinset).image p.endpointOf := by
  ext e
  unfold endpointsOf
  simp only [List.mem_toFinset, List.mem_insertionSort, List.mem_dedup, List.mem_map,
    Finset.mem_image, exists_exists_and_eq_and]
  constructor
  · rintro ⟨g, hm, rfl⟩
    exact ⟨g, hm, endpointOf_of_mem hn (hg g hm)⟩
  · rintro ⟨g, hm, rfl⟩
    exact ⟨g, hm, (endpointOf_of_mem hn (hg g hm)).symm⟩

theorem commitmentsFor_leaseId {leaseId : String} {c : ResourceConstraints} {es : List String}
    {now : Time} {x : Commitment} (h : x ∈ commitmentsFor leaseId c es now) :
    x.leaseId = leaseId := by
  obtain ⟨e, -, rfl⟩ := List.mem_map.1 h
  rfl

theorem map_commitmentsFor (leaseId : String) (c : ResourceConstraints) (es : List String)
    (now : Time) : (commitmentsFor leaseId c es now).map Commitment.endpointId = es := by
  unfold commitmentsFor
  rw [List.map_map]
  exact List.map_id es

end

/-- Every card row and every commitment belongs to a lease. -/
structure Grounded (l : Ledger) : Prop where
  rows : Refers LeaseResource.leaseId l.resources (l.leases.map Lease.id)
  pledges : Refers Commitment.leaseId l.commitments (l.leases.map Lease.id)

theorem Intact.grounded {b : Broker} (hi : Intact b) : Grounded b.ledger :=
  ⟨hi.resourceLease, hi.commitmentLease⟩

/-- A lease that is not there has no rows. -/
theorem folio_absent {l : Ledger} (hg : Grounded l) {id : String} (h : l.lease? id = none) :
    l.folio id = ⟨none, [], []⟩ := by
  have hid := lease?_eq_none.1 h
  unfold Ledger.folio
  simp only [h, Folio.mk.injEq, true_and, List.filter_eq_nil_iff]
  constructor
  · intro r hr he
    exact hid (of_decide_eq_true he ▸ hg.rows r hr)
  · intro c hc he
    exact hid (of_decide_eq_true he ▸ hg.pledges c hc)

theorem holding_absent {l : Ledger} {id : String} : l.holding? id = none ↔ l.lease? id = none := by
  unfold Ledger.holding? Folio.holding?
  rw [folio_lease, Option.map_eq_none_iff]

/-! ## Bringing cards in -/

section

variable {l : Ledger} {id i : String} {gpuIds : List String} {f : LeaseResource → LeaseResource}

theorem folio_bringIn_ne (hf : ∀ r, (f r).leaseId = r.leaseId) (h : id ≠ i) :
    (l.bringIn i gpuIds f).folio id = l.folio id := by
  unfold Ledger.bringIn
  have hr : ∀ r ∈ (gpuIds.filter fun g => g ∉ (l.resources.filter fun r => r.leaseId = i).map
      LeaseResource.gpuId).map fun g => f { leaseId := i, gpuId := g }, r.leaseId = i := by
    intro r hr
    obtain ⟨g, -, rfl⟩ := List.mem_map.1 hr
    exact hf _
  rw [folio_addRows _ id i _ hr, if_neg h, List.append_nil]
  exact folio_editResources_ne l id i hf (by simp +contextual) h

/-- The cards afterwards: those held before and those brought in. -/
theorem cardSet_bringIn (hf : ∀ r, (f r).leaseId = r.leaseId) (hg : ∀ r, (f r).gpuId = r.gpuId)
    (ha : ∀ r, (f r).active = true) :
    ((l.bringIn i gpuIds f).folio i).cardSet = (l.folio i).cardSet ∪ gpuIds.toFinset := by
  ext g
  rw [Finset.mem_union, List.mem_toFinset, mem_cardSet, mem_cardSet]
  simp only [mem_cards, Ledger.bringIn, Ledger.editResources, List.mem_append, mem_updWhere]
  constructor
  · rintro ⟨r, ⟨⟨a, ham, ⟨hp, rfl⟩ | ⟨hp, rfl⟩⟩ | hr, hid, hact⟩, rfl⟩
    · exact Or.inr (by simpa [hg] using (by simpa using hp : _ ∧ _).2)
    · exact Or.inl ⟨r, ⟨ham, hid, hact⟩, rfl⟩
    · obtain ⟨g, hgm, rfl⟩ := List.mem_map.1 hr
      rw [hg]
      exact Or.inr (List.mem_of_mem_filter hgm)
  · intro h
    -- a row of this lease for the card decides how it is brought in
    by_cases hk : ∃ r ∈ l.resources, r.leaseId = i ∧ r.gpuId = g
    · by_cases hgm : g ∈ gpuIds
      · obtain ⟨r, hr, hid, rfl⟩ := hk
        exact ⟨f r, ⟨Or.inl ⟨r, hr, Or.inl ⟨by simp [hid, hgm], rfl⟩⟩, (hf r).trans hid, ha r⟩,
          hg r⟩
      · obtain ⟨r, ⟨hr, hid, hact⟩, rfl⟩ := h.resolve_right hgm
        exact ⟨r, ⟨Or.inl ⟨r, hr, Or.inr ⟨by simp [hgm], rfl⟩⟩, hid, hact⟩, rfl⟩
    · have hgm : g ∈ gpuIds := by
        rcases h with ⟨r, ⟨hr, hid, -⟩, he⟩ | h
        · exact absurd ⟨r, hr, hid, he⟩ hk
        · exact h
      refine ⟨f { leaseId := i, gpuId := g }, ⟨Or.inr (List.mem_map.2 ⟨g, ?_, rfl⟩), hf _, ha _⟩,
        hg _⟩
      refine List.mem_filter.2 ⟨hgm, ?_⟩
      simpa using fun r hr hid he => hk ⟨r, hr, hid, he⟩

end

/-! ## Claims -/

section

variable {cfg : Config} {now : Time} {actor : ActorContext} {leaseId : String}
  {token : String → String} {b b' : Broker} {resp : Response}

/-- The folio a claim inserts. -/
theorem folio_insertClaim {lease : Lease} {c : ResourceConstraints} {gpus : List GPUDevice}
    (hf : b.ledger.folio lease.id = ⟨none, [], []⟩) :
    (b.insertClaim lease c gpus token now).ledger.folio lease.id =
      { lease := some lease
        rows := (gpus.map GPUDevice.id).map fun g => { leaseId := lease.id, gpuId := g }
        pledges := commitmentsFor lease.id c (endpointsOf gpus) now } := by
  have hl : b.ledger.lease? lease.id = none := congrArg Folio.lease hf
  unfold Broker.insertClaim
  rw [folio_syncDirect, folio_insertLease _ _ _ _ _ fun _ => commitmentsFor_leaseId, if_pos rfl, hf,
    hl]
  rfl

theorem folio_insertClaim_ne {lease : Lease} {c : ResourceConstraints} {gpus : List GPUDevice}
    {id : String} (h : id ≠ lease.id) :
    (b.insertClaim lease c gpus token now).ledger.folio id = b.ledger.folio id := by
  unfold Broker.insertClaim
  rw [folio_syncDirect, folio_insertLease _ _ _ _ _ fun _ => commitmentsFor_leaseId, if_neg h]

/-- Active rows for these cards. -/
theorem cardSet_newRows (x : Option Lease) (i : String) (gpuIds : List String)
    (ps : List Commitment) :
    Folio.cardSet ⟨x, gpuIds.map fun g => { leaseId := i, gpuId := g }, ps⟩ = gpuIds.toFinset := by
  have ha : (gpuIds.map fun g => ({ leaseId := i, gpuId := g } : LeaseResource)).filter
      (fun r => r.active) = gpuIds.map fun g => { leaseId := i, gpuId := g } := by
    rw [List.filter_eq_self]
    intro r hr
    obtain ⟨g, -, rfl⟩ := List.mem_map.1 hr
    rfl
  unfold Folio.cardSet Folio.active
  rw [ha, List.map_map]
  simp [Function.comp_def]

section

variable {persistent : Bool} (lease : Lease) {c : ResourceConstraints} {gpus : List GPUDevice}
  {d : Details}

/-- Setting the owner is an edit of the inserted lease. -/
theorem ledger_claimed : (b.claimed actor persistent lease c gpus token d now).ledger =
    ((b.insertClaim lease c gpus token now).ledger.addAudit (some actor.id) "lease.issued" "lease"
      lease.id "success" d now).editLease lease.id (Lease.claimedBy actor persistent) := rfl

theorem folio_claimed_ne {id : String} (h : id ≠ lease.id) :
    (b.claimed actor persistent lease c gpus token d now).ledger.folio id = b.ledger.folio id := by
  rw [ledger_claimed, folio_editLease_ne _ id lease.id
    (f := Lease.claimedBy actor persistent) (fun _ => rfl) h, folio_addAudit,
      folio_insertClaim_ne h]

theorem ids_claimed : (b.claimed actor persistent lease c gpus token d now).ledger.leases.map
    Lease.id = b.ledger.leases.map Lease.id ++ [lease.id] := by
  have hm := map_updWhere (p := fun x => decide (x.id = lease.id))
    (f := Lease.claimedBy actor persistent) (g := Lease.id) (b.ledger.leases ++ [lease]) fun _ =>
      rfl
  exact hm.trans List.map_append

/-- A claimed lease holds its cards, with a promise on each of their servers. -/
theorem holding_claimed (hf : b.ledger.folio lease.id = ⟨none, [], []⟩) :
    (b.claimed actor persistent lease c gpus token d now).ledger.holding? lease.id =
      some (lease.holding (gpus.map GPUDevice.id).toFinset (endpointsOf gpus).toFinset) := by
  rw [ledger_claimed, holding_editLease (f := Lease.claimedBy actor persistent) (fun _ => rfl)
    fun x _ => ⟨rfl, rfl, rfl, rfl, rfl⟩]
  unfold Ledger.holding? Folio.holding?
  rw [folio_addAudit, folio_insertClaim hf, Option.map_some, cardSet_newRows]
  unfold Folio.pledged
  rw [map_commitmentsFor]

end

/-- **A claim** begins one holding: on eligible cards, as many as asked for, with a promise on
each of their servers. -/
theorem claim_begun (hb : Intact b) {r : RequestCreate} {key : Option String} {persistent : Bool}
    (h : createRequest cfg now actor r key persistent leaseId token b = .ok (b', resp)) :
    b' = b ∨ b'.plant = b.plant ∧ b.ledger.holding? leaseId = none ∧
      (∀ id, id ≠ leaseId → b'.ledger.folio id = b.ledger.folio id) ∧
      ∃ h', b'.ledger.holding? leaseId = some h' ∧ h'.Begun b.plant.endpointOf ∧ h'.epoch = 0 := by
  rcases createRequest_ok h with h | ⟨b₀, revision, gpus, d, hs, hg, hi, hb'⟩
  · exact Or.inl h
  simp only at hb'
  obtain ⟨hlen, hmem⟩ := selected_eligible r.constraints_valid hg
  have hrows : ∀ id, b₀.ledger.folio id = b.ledger.folio id := fun id =>
    folio_congr id hs.leases hs.resources hs.commitments
  -- the new id is fresh, as lease ids stay unique
  have hn := hi.leasePk
  obtain ⟨idem, hrem⟩ := remember_eq (b₀.claimed actor persistent (claimedLease leaseId actor r now
    revision) r.constraints gpus token d now).ledger actor "request.create" key resp now
  rw [hrem] at hb'
  rw [hb'] at hn
  simp only [ids_claimed, hs.leases] at hn
  have hfresh : b.ledger.lease? leaseId = none := by
    rw [lease?_eq_none]
    intro hm
    exact (List.nodup_append.1 hn).2.2 _ hm _ (List.mem_singleton_self _) rfl
  have hf : b₀.ledger.folio leaseId = ⟨none, [], []⟩ := by
    rw [hrows, folio_absent hb.grounded hfresh]
  have hplant : b'.plant = b.plant := by
    rw [hb']
    exact hs.plant
  refine Or.inr ⟨hplant, ?_, fun id hne => ?_,
    (claimedLease leaseId actor r now revision).holding (gpus.map GPUDevice.id).toFinset
      (endpointsOf gpus).toFinset, ?_, ⟨rfl, rfl, fun _ => ?_, fun _ => ?_⟩, rfl⟩
  · exact holding_absent.2 hfresh
  · rw [hb', ← hrows]
    exact folio_claimed_ne (claimedLease leaseId actor r now revision) hne
  · rw [hb']
    exact holding_claimed (claimedLease leaseId actor r now revision) hf
  · have hne : gpus ≠ [] := by
      have := r.constraints_valid.gpuCount.1
      intro hnil
      rw [hnil] at hlen
      simp at hlen
      omega
    simpa [List.toFinset_nonempty_iff, Lease.holding] using hne
  · rw [← hs.plant]
    refine endpointsOf_toFinset ?_ fun g hgm => (hmem g hgm).1
    rw [hs.plant]
    exact hb.gpuPk

end

end ServerPilot
