import Mathlib.Data.Finset.Card
import ServerPilot.Proof.Grow
import ServerPilot.Proof.Pass

/-!
# Resizing and moving

An accepted resize gives some cards back, takes others in and renews the promises
(`resize_resized`); an accepted reassignment puts a lease on other cards
(`reassign_moved`). The epoch moves in the first and stands still in the second.
-/

namespace ServerPilot

open Rows Checked

/-! ## Promises -/

section

variable {l : Ledger} {lease : Lease} {es : List String} {now : Time} {id : String}

theorem folio_syncCommitments_ne (h : id ≠ lease.id) :
    (l.syncCommitments lease es now).folio id = l.folio id := by
  unfold Ledger.syncCommitments Ledger.folio
  simp only [Folio.mk.injEq, List.filter_append, List.filter_filter, true_and]
  have hn : ∀ es', (commitmentsFor lease.id lease.constraints es' now).filter
      (fun c => c.leaseId = id) = [] := by
    intro es'
    rw [List.filter_eq_nil_iff]
    intro c hc
    simpa [commitmentsFor_leaseId hc] using Ne.symm h
  rw [hn, List.append_nil]
  refine ⟨rfl, ?_⟩
  apply List.filter_congr
  intro c _
  by_cases hc : c.leaseId = id
  · simp [hc, h]
  · simp [hc]

/-- After the sync a lease has promises on exactly these servers. -/
theorem pledged_syncCommitments :
    ((l.syncCommitments lease es now).folio lease.id).pledged = es.toFinset := by
  ext e
  unfold Folio.pledged Ledger.folio Ledger.syncCommitments
  simp only [List.mem_toFinset, List.mem_map, List.mem_filter, List.mem_append, decide_eq_true_eq]
  constructor
  · rintro ⟨c, ⟨⟨-, hc⟩ | hc, hid⟩, rfl⟩
    · exact hc.resolve_left (not_not.2 hid)
    · obtain ⟨e, he, rfl⟩ := List.mem_map.1 hc
      exact List.mem_dedup.1 (List.mem_of_mem_filter he)
  · intro he
    -- an old promise stays, a missing one is made
    by_cases hk : ∃ c ∈ l.commitments, c.leaseId = lease.id ∧ c.endpointId = e
    · obtain ⟨c, hc, hid, rfl⟩ := hk
      exact ⟨c, ⟨Or.inl ⟨hc, Or.inr he⟩, hid⟩, rfl⟩
    · refine ⟨_,
        ⟨Or.inr (List.mem_map.2 ⟨e, List.mem_filter.2 ⟨List.mem_dedup.2 he, ?_⟩, rfl⟩), rfl⟩,
        rfl⟩
      simpa using fun c hc hid he' => hk ⟨c, hc, hid, he'⟩

@[simp] theorem rows_syncCommitments : ((l.syncCommitments lease es now).folio id).rows =
    (l.folio id).rows := rfl

@[simp] theorem lease?_syncCommitments :
    (l.syncCommitments lease es now).lease? id = l.lease? id := rfl

end

/-! ## Resizing -/

section

variable {l : Ledger} {i id : String} {removed : List String} {releasedBy : String} {now : Time}

theorem folio_returnCards_ne (h : id ≠ i) :
    (l.returnCards i removed releasedBy now).folio id = l.folio id := by
  unfold Ledger.returnCards
  split
  · rfl
  · exact folio_settleCards_ne _ _ _ _ h

theorem cardSet_returnCards : ((l.returnCards i removed releasedBy now).folio i).cardSet =
    (l.folio i).cardSet \ removed.toFinset := by
  unfold Ledger.returnCards
  split
  · rename_i hr
    rw [hr]
    simp
  · exact cardSet_settleCards _ _ _ _

theorem lease?_settleCards {gpuIds : List String} {reason : String} :
    (l.settleCards i gpuIds reason releasedBy now).lease? i = (l.lease? i).map Lease.raised := by
  have h := lease?_editLease
    (l.editResources (cardAmong i gpuIds) (LeaseResource.settled reason releasedBy now)) i i
    (f := Lease.raised) fun _ => rfl
  rw [if_pos rfl] at h
  exact h

theorem lease?_returnCards : (l.returnCards i removed releasedBy now).lease? i =
    if removed = [] then l.lease? i else (l.lease? i).map Lease.raised := by
  unfold Ledger.returnCards
  split
  · rfl
  · exact lease?_settleCards

end

section

variable {cfg : Config} {now : Time} {actor : ActorContext} {leaseId : String}
  {token : String → String} {b b' : Broker} {resp : Response}

/-- The servers of the cards a lease holds. -/
theorem heldGpus_endpoints {id : String}
    (hr : ∀ r ∈ b.ledger.cards id, r.gpuId ∈ b.plant.gpus.map GPUDevice.id) :
    ((b.heldGpus id).map GPUDevice.endpointId).toFinset =
      (b.ledger.folio id).cardSet.image b.plant.endpointOf := by
  ext e
  simp only [List.mem_toFinset, List.mem_map, Finset.mem_image, mem_cardSet, Broker.heldGpus,
    List.mem_filterMap]
  constructor
  · rintro ⟨g, ⟨r, hm, hg⟩, rfl⟩
    refine ⟨r.gpuId, ⟨r, hm, rfl⟩, ?_⟩
    unfold Plant.endpointOf
    rw [hg]
    rfl
  · rintro ⟨-, ⟨r, hm, rfl⟩, rfl⟩
    obtain ⟨g, hg, he⟩ := List.mem_map.1 (hr r hm)
    cases hx : b.plant.gpu? r.gpuId with
    | none => exact absurd he (row?_none hx g hg)
    | some g' => exact ⟨g', ⟨r, hm, hx⟩, by unfold Plant.endpointOf; rw [hx]; rfl⟩

section

variable (token : String → String) (now : Time)

theorem resized_resources {lease : Lease} {raise : Bool} :
    (b.resized lease raise token now).ledger.resources = b.ledger.resources := by
  cases raise <;> rfl

theorem folio_resized_ne {lease : Lease} {raise : Bool} {id : String} (h : id ≠ lease.id) :
    (b.resized lease raise token now).ledger.folio id = b.ledger.folio id := by
  unfold Broker.resized
  simp only
  rw [folio_syncCommitments_ne h, folio_syncDirect]
  cases raise with
  | true => exact folio_editLease_ne b.ledger id lease.id (f := Lease.raised) (fun _ => rfl) h
  | false => rfl

theorem cardSet_resized {lease : Lease} {raise : Bool} {id : String} :
    ((b.resized lease raise token now).ledger.folio id).cardSet = (b.ledger.folio id).cardSet := by
  cases raise <;> rfl

theorem lease?_resized {lease : Lease} {raise : Bool} :
    (b.resized lease raise token now).ledger.lease? lease.id =
      if raise then (b.ledger.lease? lease.id).map Lease.raised else b.ledger.lease? lease.id := by
  unfold Broker.resized
  simp only [lease?_syncCommitments]
  cases raise with
  | true =>
    have h := lease?_editLease b.ledger lease.id lease.id (f := Lease.raised) fun _ => rfl
    rw [if_pos rfl] at h
    exact h
  | false => rfl

theorem pledged_resized {lease : Lease} {raise : Bool}
    (hr : ∀ r ∈ b.ledger.cards lease.id, r.gpuId ∈ b.plant.gpus.map GPUDevice.id) :
    ((b.resized lease raise token now).ledger.folio lease.id).pledged =
      (b.ledger.folio lease.id).cardSet.image b.plant.endpointOf := by
  rw [← heldGpus_endpoints hr]
  unfold Broker.resized
  exact pledged_syncCommitments

end

theorem length_returnedCards_le {names : List String} :
    (b.returnedCards leaseId names).length ≤ names.length := by
  unfold Broker.returnedCards
  rw [List.length_map]
  exact List.length_filterMap_le _ _

/-- A lease holds each of its cards once. -/
theorem card_cardSet {l : Ledger} (hn : (l.resources.map LeaseResource.cardKey).Nodup)
    (id : String) : (l.folio id).cardSet.card = (l.cards id).length := by
  unfold Folio.cardSet
  rw [folio_active, List.toFinset_card_of_nodup, List.length_map]
  refine List.Nodup.map_on (fun r hr r' hr' => cards_inj hn hr hr') ?_
  exact (List.Nodup.of_map _ hn).filter _

/-- Giving back fewer cards than are held leaves one. -/
theorem sdiff_nonempty_of_length {id : String} {removed : List String}
    (hn : (b.ledger.resources.map LeaseResource.cardKey).Nodup)
    (hl : removed.length < (b.ledger.cards id).length) :
    ((b.ledger.folio id).cardSet \ removed.toFinset).Nonempty := by
  have hc := card_cardSet hn id
  rw [← Finset.card_pos]
  have hle := Finset.le_card_sdiff removed.toFinset (b.ledger.folio id).cardSet
  have hlr := List.toFinset_card_le removed
  omega

/-- The epoch of a resized lease is raised once, by settling or by hand. -/
theorem raised_once {removed : List String} {x : Option Lease} :
    (if decide (removed = []) then (if removed = [] then x else x.map Lease.raised).map Lease.raised
      else if removed = [] then x else x.map Lease.raised) = x.map Lease.raised := by
  by_cases h : removed = [] <;> simp [h]

/-- What adding cards does to the lease it adds to. -/
structure Taking (b : Broker) (i : String) (added : List GPUDevice) (b' : Broker) : Prop where
  plant : b'.plant = b.plant
  others : ∀ id, id ≠ i → b'.ledger.folio id = b.ledger.folio id
  lease : b'.ledger.lease? i = b.ledger.lease? i
  cards : (b'.ledger.folio i).cardSet =
    (b.ledger.folio i).cardSet ∪ (added.map GPUDevice.id).toFinset

theorem addCards_taking {lease : Lease} {request : Option RequestCreate} {taken : Broker}
    {added : List GPUDevice} (h : b.addCards cfg now lease request = .ok (taken, added)) :
    Taking b lease.id added taken ∧ (request.isSome = true → added ≠ []) := by
  rcases addCards_ok h with ⟨rfl, rfl, rfl⟩ | ⟨r, rfl, hg, rfl⟩
  · exact ⟨⟨rfl, fun _ _ => rfl, rfl, by simp⟩, fun hs => by cases hs⟩
  · refine ⟨⟨rfl, fun id hne => folio_bringIn_ne (f := LeaseResource.added now) (fun _ => rfl) hne,
      rfl, cardSet_bringIn (f := LeaseResource.added now) (fun _ => rfl) (fun _ => rfl)
        fun _ => rfl⟩, fun _ hnil => ?_⟩
    have hlen := (selected_eligible r.constraints_valid hg).1
    have hpos := r.constraints_valid.gpuCount.1
    rw [hnil] at hlen
    simp at hlen
    omega

/-- **A resize** leaves one lease with the cards it kept and those it took in, its epoch raised and
its promises on exactly their servers. -/
theorem resize_resized (hb : Intact b) {addRequest : Option RequestCreate}
    {removeGpuIds : List String} {expectedEpoch : Option ℕ}
    (h : resizeLease cfg now actor leaseId addRequest removeGpuIds expectedEpoch token b =
      .ok (b', resp)) :
    b'.plant = b.plant ∧ (∀ id, id ≠ leaseId → b'.ledger.folio id = b.ledger.folio id) ∧
      ∃ x h', b.ledger.lease? leaseId = some x ∧ x.kind = .workload ∧
        (∀ e ∈ expectedEpoch, e = x.resourceEpoch) ∧
        b'.ledger.lease? leaseId = some x.raised ∧ b'.ledger.holding? leaseId = some h' ∧
        (x.holding (b.ledger.folio leaseId).cardSet (b.ledger.folio leaseId).pledged).Resized
          b.plant.endpointOf h' := by
  obtain ⟨lease, taken, added, d, hl, hk, hv, -, he, -, hlast, hadd, -, hi, hb'⟩ := resizeLease_ok h
  obtain rfl := lease?_id hl
  set removed := b.returnedCards lease.id removeGpuIds with hrem
  obtain ⟨ht, hsome⟩ := addCards_taking hadd
  have hplant : b'.plant = b.plant := by
    rw [hb']
    exact ht.plant
  have hcards : (taken.ledger.folio lease.id).cardSet =
      ((b.ledger.folio lease.id).cardSet \ removed.toFinset) ∪
        (added.map GPUDevice.id).toFinset := by
    rw [ht.cards]
    exact congrArg (· ∪ _) cardSet_returnCards
  have hres : b'.ledger.resources = taken.ledger.resources := by
    rw [hb']
    exact resized_resources token now
  have hlease : b'.ledger.lease? lease.id = some lease.raised := by
    have h₁ : taken.ledger.lease? lease.id =
        if removed = [] then some lease else some lease.raised := by
      rw [ht.lease]
      refine (lease?_returnCards (l := b.ledger.bumpRevision)).trans ?_
      rw [show b.ledger.bumpRevision.lease? lease.id = some lease from hl]
      rfl
    rw [hb']
    refine (lease?_resized token now (b := taken)).trans ?_
    rw [h₁]
    exact raised_once (x := some lease)
  have hset : (b'.ledger.folio lease.id).cardSet = (taken.ledger.folio lease.id).cardSet := by
    rw [hb']
    exact cardSet_resized token now
  have hpled : (b'.ledger.folio lease.id).pledged =
      (b'.ledger.folio lease.id).cardSet.image b.plant.endpointOf := by
    have hr : ∀ r ∈ taken.ledger.cards lease.id, r.gpuId ∈ taken.plant.gpus.map GPUDevice.id := by
      intro r hr
      have hm : r ∈ b'.ledger.resources := by
        rw [hres]
        exact (mem_cards.1 hr).1
      have := hi.resourceGpu r hm
      rwa [hplant, ← show taken.plant = b.plant from ht.plant] at this
    rw [hset, hb', ← show taken.plant = b.plant from ht.plant]
    exact pledged_resized token now hr
  have hsome' : (b'.ledger.folio lease.id).cardSet.Nonempty := by
    rw [hset, hcards]
    cases hreq : addRequest with
    | some r =>
      have hne := hsome (by rw [hreq]; rfl)
      refine Finset.Nonempty.mono Finset.subset_union_right ?_
      simpa [List.toFinset_nonempty_iff] using hne
    | none =>
      have hlt : removeGpuIds.length < (b.ledger.cards lease.id).length := by
        rw [hreq] at hlast
        simpa using hlast
      exact Finset.Nonempty.mono Finset.subset_union_left
        (sdiff_nonempty_of_length hb.leaseGpu (length_returnedCards_le.trans_lt hlt))
  refine ⟨hplant, fun id hne => ?_, lease, _, hl, hk, he, hlease, holding_of_lease hlease,
    ⟨⟨rfl, rfl⟩, ⟨hv, hv⟩, rfl, Nat.lt_succ_self _, hsome', hpled⟩⟩
  rw [hb']
  refine (folio_resized_ne token now (b := taken) hne).trans ((ht.others id hne).trans ?_)
  exact folio_returnCards_ne (l := b.ledger.bumpRevision) hne

/-! ## Moving -/

section

variable {lease : Lease} {c : ResourceConstraints} {targets : List GPUDevice}

theorem cardSet_moveCards {l : Ledger} {i : String} {gpuIds : List String} :
    ((l.moveCards i gpuIds now).folio i).cardSet = gpuIds.toFinset := by
  have he : ((l.editResources (fun r => r.leaseId = i ∧ r.active = true)
      (LeaseResource.dropped now)).folio i).cardSet = ∅ := by
    unfold Folio.cardSet
    rw [folio_active, cards_dropAll]
    rfl
  unfold Ledger.moveCards
  rw [cardSet_bringIn (f := LeaseResource.returned) (fun _ => rfl) (fun _ => rfl) fun _ => rfl, he,
    Finset.empty_union]

theorem folio_moveCards_ne {l : Ledger} {i id : String} {gpuIds : List String} (h : id ≠ i) :
    (l.moveCards i gpuIds now).folio id = l.folio id := by
  unfold Ledger.moveCards
  rw [folio_bringIn_ne (f := LeaseResource.returned) (fun _ => rfl) h]
  exact folio_editResources_ne l id i (fun _ => rfl) (by simp +contextual) h

theorem folio_renewCommitments_ne {l : Ledger} {i id : String} {es : List String} (h : id ≠ i) :
    (l.renewCommitments i c es now).folio id = l.folio id := by
  unfold Ledger.renewCommitments Ledger.folio
  simp only [Folio.mk.injEq, List.filter_append, List.filter_filter, true_and]
  have hn : (commitmentsFor i c es now).filter (fun x => x.leaseId = id) = [] := by
    rw [List.filter_eq_nil_iff]
    intro x hx
    simpa [commitmentsFor_leaseId hx] using Ne.symm h
  rw [hn, List.append_nil]
  refine ⟨rfl, ?_⟩
  apply List.filter_congr
  intro x _
  by_cases hx : x.leaseId = id
  · simp [hx, h]
  · simp [hx]

theorem pledged_renewCommitments {l : Ledger} {i : String} {es : List String} :
    ((l.renewCommitments i c es now).folio i).pledged = es.toFinset := by
  have hf : ((l.renewCommitments i c es now).folio i).pledges = commitmentsFor i c es now := by
    unfold Ledger.renewCommitments Ledger.folio
    simp only [List.filter_append, List.filter_filter]
    have h₁ :
        l.commitments.filter (fun x => decide (x.leaseId = i) && decide (x.leaseId ≠ i)) = [] := by
      rw [List.filter_eq_nil_iff]
      intro x _
      simp
    have h₂ : (commitmentsFor i c es now).filter (fun x => x.leaseId = i) =
        commitmentsFor i c es now := by
      rw [List.filter_eq_self]
      intro x hx
      simpa using commitmentsFor_leaseId hx
    rw [h₁, h₂, List.nil_append]
  unfold Folio.pledged
  rw [hf, map_commitmentsFor]

theorem folio_moved_ne {id : String} (h : id ≠ lease.id) :
    (b.moved lease c targets token now).ledger.folio id = b.ledger.folio id := by
  unfold Broker.moved
  simp only
  rw [folio_syncDirect, folio_editLease_ne _ id lease.id (f := Lease.repinned _) (fun _ => rfl) h,
    folio_renewCommitments_ne h]
  exact (folio_moveCards_ne h : (b.ledger.moveCards lease.id _ now).folio id = _)

theorem cardSet_moved : ((b.moved lease c targets token now).ledger.folio lease.id).cardSet =
    (targets.map GPUDevice.id).toFinset :=
  cardSet_moveCards (l := b.ledger) (i := lease.id)

theorem pledged_moved : ((b.moved lease c targets token now).ledger.folio lease.id).pledged =
    (endpointsOf targets).toFinset :=
  pledged_renewCommitments (l := (b.ledger.moveCards lease.id (targets.map GPUDevice.id)
    now).dropBindings lease.id)

theorem lease?_moved (c : ResourceConstraints) (targets : List GPUDevice)
    (hl : b.ledger.lease? lease.id = some lease) :
    (b.moved lease c targets token now).ledger.lease? lease.id =
      some (lease.repinned (c.pinnedTo (targets.map GPUDevice.id) (endpointsOf targets))) := by
  have h := lease?_editLease (((b.ledger.moveCards lease.id (targets.map GPUDevice.id)
    now).dropBindings lease.id).renewCommitments lease.id c (endpointsOf targets) now) lease.id
    lease.id (f := Lease.repinned (c.pinnedTo (targets.map GPUDevice.id) (endpointsOf targets)))
      fun _ => rfl
  rw [if_pos rfl] at h
  refine Eq.trans h ?_
  rw [show (((b.ledger.moveCards lease.id (targets.map GPUDevice.id) now).dropBindings
    lease.id).renewCommitments lease.id c (endpointsOf targets) now).lease? lease.id = some lease
    from hl]
  rfl

/-- The rows the target ids find. -/
theorem targets_spec {gpuIds : List String} (h : gpuIds.mapM b.plant.gpu? = some targets) :
    targets.map GPUDevice.id = gpuIds ∧ ∀ g ∈ targets, g ∈ b.plant.gpus := by
  have hf := mapM_some h
  clear h
  induction hf with
  | nil => simp
  | cons hg _ ih =>
    obtain ⟨hm, hid⟩ := row?_some hg
    simp only [List.map_cons, List.cons.injEq, List.forall_mem_cons]
    exact ⟨⟨hid, ih.1⟩, hm, ih.2⟩

/-- **A reassignment** leaves one lease on exactly the target cards, its epoch as it was and its
promises on exactly their servers. -/
theorem reassign_moved (hb : Intact b) {gpuIds : List String} {key : String} {override : Bool}
    (h : reassignLeaseGpus now actor leaseId gpuIds key override token b = .ok (b', resp)) :
    b' = b ∨ b'.plant = b.plant ∧ (∀ id, id ≠ leaseId → b'.ledger.folio id = b.ledger.folio id) ∧
      ∃ x h', b.ledger.lease? leaseId = some x ∧ x.kind = .workload ∧
        b'.ledger.holding? leaseId = some h' ∧ h'.cards = gpuIds.toFinset ∧
        b.ledger.occupied leaseId gpuIds = [] ∧
        (x.holding (b.ledger.folio leaseId).cardSet (b.ledger.folio leaseId).pledged).Moved
          b.plant.endpointOf h' := by
  rcases reassignLeaseGpus_ok h with h |
    ⟨lease, targets, c, d, hl, hk, hv, hlen, -, ht, ho, -, hi, hb'⟩
  · exact Or.inl h
  obtain rfl := lease?_id hl
  obtain ⟨hids, hmem⟩ := targets_spec ht
  have hrows : ∀ id, b'.ledger.folio id = (b.moved lease c targets token now).ledger.folio id := by
    intro id
    rw [hb']
    exact folio_remember _ id _ _ _ _ _
  have hlease := (congrArg Folio.lease (hrows lease.id)).trans (lease?_moved c targets hl)
  refine Or.inr ⟨by rw [hb']; rfl, fun id hne => (hrows id).trans (folio_moved_ne hne), lease, _,
    hl,
    hk, holding_of_lease hlease, ?_, ho, ⟨⟨rfl, rfl⟩, ⟨hv, hv⟩, rfl, rfl, fun hne => ?_, ?_⟩⟩
  · exact (congrArg Folio.cardSet (hrows _)).trans (by rw [cardSet_moved, hids])
  · have hcards : (b'.ledger.folio lease.id).cardSet = gpuIds.toFinset := by
      rw [hrows, cardSet_moved, hids]
    have hne' : (b.ledger.cards lease.id) ≠ [] := by
      rw [← folio_active]
      exact cardSet_nonempty.1 hne
    show (b'.ledger.folio lease.id).cardSet.Nonempty
    rw [hcards, List.toFinset_nonempty_iff]
    rintro rfl
    exact hne' (List.length_eq_zero_iff.1 hlen.symm)
  · show (b'.ledger.folio lease.id).pledged =
      (b'.ledger.folio lease.id).cardSet.image b.plant.endpointOf
    rw [hrows, pledged_moved, cardSet_moved]
    exact endpointsOf_toFinset hb.gpuPk hmem

/-- What `reassign_lease_gpus` is asked. -/
structure Reassignment where
  actor : ActorContext
  leaseId : String
  gpuIds : List String
  key : String
  override : Bool

/-- A reassignment the broker goes through with: its checks pass, its key is new, and no other
lease has the cards. -/
def Broker.admits (b : Broker) (m : Reassignment) : Bool :=
  (b.workloadReassignmentTargets m.actor m.leaseId m.gpuIds m.override).toBool &&
    (match b.ledger.replay m.actor "lease.gpus.reassign" (some m.key) with
      | .ok none => true
      | _ => false) &&
    (b.ledger.occupied m.leaseId m.gpuIds).isEmpty

/-- What a reassignment that is not admitted leaves is what it found. -/
theorem reassign_admitted {gpuIds : List String} {key : String} {override : Bool}
    (h : reassignLeaseGpus now actor leaseId gpuIds key override token b = .ok (b', resp)) :
    b' = b ∨ b.admits ⟨actor, leaseId, gpuIds, key, override⟩ = true := by
  rcases reassignLeaseGpus_ok h with h' | ⟨-, -, -, -, -, -, -, -, -, -, ho, -⟩
  · exact Or.inl h'
  unfold reassignLeaseGpus at h
  simp only [bind_ok] at h
  obtain ⟨-, -, ⟨lease, targets⟩, hw, h⟩ := h
  refine (once_fresh h).imp id fun hr => ?_
  unfold Broker.admits
  rw [hw, hr, ho]
  rfl

end

end

end ServerPilot
