import ServerPilot.Proof.Epoch
import ServerPilot.Proof.Physical
import ServerPilot.Proof.Placement
import ServerPilot.Proof.Redeclare

/-!
# What a resize exchanges

An accepted resize leaves the lease with the cards it had but those named, and as many
more as asked for: distinct cards, free once those named are given back, and none of
them among the cards kept (`resize_exchanges`). A refused one leaves everything. The
cards given back are free like any other, so one of them may be chosen again
(`returned_again`).
-/

namespace ServerPilot

open Rows Checked

variable {cfg : Config} {now : Time} {actor : ActorContext} {leaseId : String} {b b' : Broker}
  {resp : Response} {token : String → String} {names : List String} {expectedEpoch : Option ℕ}
  {addRequest : Option RequestCreate} {added : List GPUDevice}

/-- The cards `names` stand for, by row id or by UUID, are cards of the lease, and every name
stands for one. -/
structure Named (b : Broker) (leaseId : String) (names : List String) (named : Finset String) :
    Prop where
  held : named ⊆ (b.ledger.folio leaseId).cardSet
  known : ∀ name ∈ names, ∃ g ∈ named, name = g ∨ name = b.plant.uuidOf g
  asked : ∀ g ∈ named, ∃ name ∈ names, name = g ∨ name = b.plant.uuidOf g

/-- The lease gave the cards in `named` back and took `added` in. -/
structure Exchanged (cfg : Config) (now : Time) (b : Broker) (actor : ActorContext)
    (leaseId : String) (addRequest : Option RequestCreate) (names : List String)
    (named : Finset String) (added : List GPUDevice) (b' : Broker) : Prop where
  cards : (b'.ledger.folio leaseId).cardSet =
    ((b.ledger.folio leaseId).cardSet \ named) ∪ (added.map GPUDevice.id).toFinset
  nothing : addRequest = none → added = []
  count : ∀ r ∈ addRequest, added.length = r.constraints.gpuCount
  distinct : (added.map GPUDevice.id).Nodup
  eligible : ∀ r ∈ addRequest, ∀ g ∈ added,
    g ∈ (b.afterReturn leaseId names actor.id now).eligibleGpus cfg now r.constraints
  apart : ∀ g ∈ added, g.id ∉ (b.ledger.folio leaseId).cardSet \ named
  some : (b'.ledger.folio leaseId).cardSet.Nonempty

/-- The call is refused and leaves everything as it was, or exchanges exactly the cards named for
exactly as many as asked for. -/
def AllOrNothing (cfg : Config) (b : Broker) (now : Time) (actor : ActorContext) (leaseId : String)
    (addRequest : Option RequestCreate) (names : List String) (expectedEpoch : Option ℕ)
    (token : String → String) : Prop :=
  ((∃ f, resizeLease cfg now actor leaseId addRequest names expectedEpoch token b = .error f) ∧
    exec cfg b (.resizeLease now actor leaseId addRequest names expectedEpoch token) = b) ∨
  ∃ b' resp named added,
    resizeLease cfg now actor leaseId addRequest names expectedEpoch token b = .ok (b', resp) ∧
    exec cfg b (.resizeLease now actor leaseId addRequest names expectedEpoch token) = b' ∧
    Named b leaseId names named ∧
    Exchanged cfg now b actor leaseId addRequest names named added b'

/-! ## The cards named -/

/-- A name stands for a card by its row id or its UUID. -/
theorem cardNamed_name {active : List LeaseResource} {name : String} {r : LeaseResource}
    (h : b.plant.cardNamed active name = some r) :
    name = r.gpuId ∨ name = b.plant.uuidOf r.gpuId := by
  unfold Plant.cardNamed at h
  rcases Option.or_eq_some_iff.1 h with h | ⟨-, h⟩
  · have hp := List.find?_some h
    exact Or.inr (of_decide_eq_true hp).symm
  · have hp := List.find?_some h
    exact Or.inl (of_decide_eq_true hp).symm

/-- **The cards given back** are those named, when every name is known. -/
theorem named_returned (hknown : b.plant.unknownCards (b.ledger.cards leaseId) names = []) :
    Named b leaseId names (b.returnedCards leaseId names).toFinset where
  held := returnedCards_subset b leaseId names
  known := by
    intro name hname
    have hsome : (b.plant.cardNamed (b.ledger.cards leaseId) name).isNone ≠ true := by
      intro hnone
      exact List.filter_eq_nil_iff.1 hknown name hname hnone
    cases hr : b.plant.cardNamed (b.ledger.cards leaseId) name with
    | none =>
      rw [hr] at hsome
      exact absurd rfl hsome
    | some r =>
      refine ⟨r.gpuId, List.mem_toFinset.2 (List.mem_map_of_mem ?_), cardNamed_name hr⟩
      exact List.mem_filterMap.2 ⟨name, hname, hr⟩
  asked := by
    intro g hg
    obtain ⟨r, hr, rfl⟩ := List.mem_map.1 (List.mem_toFinset.1 hg)
    obtain ⟨name, hname, hn⟩ := List.mem_filterMap.1 hr
    exact ⟨name, hname, cardNamed_name hn⟩

/-! ## The cards taken in -/

/-- What is left once cards were given back breaks no index. -/
theorem Intact.afterReturn (hb : Intact b) (leaseId : String) (names : List String)
    (actorId : String) (now : Time) : Intact (b.afterReturn leaseId names actorId now) := by
  unfold Broker.afterReturn Ledger.returnCards
  split
  · exact hb.bumpRevision
  · have hsettled : Intact ⟨b.plant, b.ledger.bumpRevision.editResources
        (cardAmong leaseId (b.returnedCards leaseId names))
        (LeaseResource.settled "returned by holder" actorId now)⟩ := by
      refine hb.bumpRevision.editResources (fun _ => rfl) fun r h => ?_
      cases h
    exact hsettled.editLease (fun _ => rfl) fun _ h => h

/-- A card on an active row of a live task is not free, even after others were given back. -/
theorem not_kept_of_eligible (hk : Kept b) {x : Lease} (hx : b.ledger.lease? leaseId = some x)
    (hw : x.kind = .workload) {c : ResourceConstraints} {g : GPUDevice}
    (hg : g ∈ (b.afterReturn leaseId names actor.id now).eligibleGpus cfg now c) :
    g.id ∉ ((b.afterReturn leaseId names actor.id now).ledger.folio leaseId).cardSet := by
  intro hcard
  set b₁ := b.afterReturn leaseId names actor.id now
  have hi : Intact b₁ := hk.intact.afterReturn leaseId names actor.id now
  obtain ⟨r, hr, hgpu⟩ := mem_cardSet.1 hcard
  obtain ⟨hm, hid, ha⟩ := mem_cards.1 hr
  -- the row is the card's only one, and its lease a task
  have hrows := filter_key_of_mem hi.activeGpu (mem_activeResources.2 ⟨hm, ha⟩)
  obtain ⟨y, hy, hkind⟩ : ∃ y, b₁.ledger.lease? leaseId = some y ∧ y.kind = .workload := by
    have hlease : b₁.ledger.lease? leaseId = if b.returnedCards leaseId names = [] then
        b.ledger.bumpRevision.lease? leaseId
        else (b.ledger.bumpRevision.lease? leaseId).map Lease.raised := lease?_returnCards
    rw [show b.ledger.bumpRevision.lease? leaseId = some x from hx] at hlease
    split at hlease
    · exact ⟨x, hlease, hw⟩
    · exact ⟨x.raised, hlease, hw⟩
  have hactive : b₁.ledger.activeLeaseForGpu g.id = some y := by
    unfold Ledger.activeLeaseForGpu
    rw [← hgpu, hrows]
    simp [hid, hy, latest]
  exact exclusion_none (mem_eligibleGpus.1 hg).2 hactive hkind

/-! ## The call -/

/-- **What an accepted resize exchanges.** -/
theorem resize_exchanges (hk : Kept b)
    (h : resizeLease cfg now actor leaseId addRequest names expectedEpoch token b =
      .ok (b', resp)) :
    Named b leaseId names (b.returnedCards leaseId names).toFinset ∧
      ∃ added, Exchanged cfg now b actor leaseId addRequest names
        (b.returnedCards leaseId names).toFinset added b' := by
  obtain ⟨-, -, x', h', -, -, -, -, hh', hresized⟩ := resize_resized hk.intact h
  obtain ⟨lease, taken, added, d, hl, hw, hlive, -, -, hknown, -, hadd, -, hi, hb'⟩ :=
    resizeLease_ok h
  obtain rfl := lease?_id hl
  obtain ⟨ht, -⟩ := addCards_taking hadd
  have hset : (b'.ledger.folio lease.id).cardSet = (taken.ledger.folio lease.id).cardSet := by
    rw [hb']
    exact cardSet_resized token now
  have hkept : ((b.afterReturn lease.id names actor.id now).ledger.folio lease.id).cardSet =
      (b.ledger.folio lease.id).cardSet \ (b.returnedCards lease.id names).toFinset :=
    cardSet_returnCards (l := b.ledger.bumpRevision)
  have hcards : (b'.ledger.folio lease.id).cardSet =
      ((b.ledger.folio lease.id).cardSet \ (b.returnedCards lease.id names).toFinset) ∪
        (added.map GPUDevice.id).toFinset := by
    rw [hset, ht.cards]
    exact congrArg (· ∪ _) hkept
  have hsome : (b'.ledger.folio lease.id).cardSet.Nonempty := by
    obtain ⟨y, hy, rfl⟩ := lease_of_holding hh'
    exact hresized.some
  refine ⟨named_returned hknown, added, ?_⟩
  rcases addCards_ok hadd with ⟨hnone, -, rfl⟩ | ⟨r, hr, hsel, -⟩
  · refine ⟨hcards, fun _ => rfl, fun r hr => ?_, List.nodup_nil, fun _ _ g hg => ?_, fun g hg =>
      ?_,
      hsome⟩
    · rw [hnone] at hr
      cases hr
    · exact absurd hg List.not_mem_nil
    · exact absurd hg List.not_mem_nil
  · obtain ⟨hlen, hmem⟩ := selectInGroupPartitions_spec r.constraints_valid hsel
    have hpk : ((b.afterReturn lease.id names actor.id now).plant.gpus.map GPUDevice.id).Nodup :=
      hk.intact.gpuPk
    refine ⟨hcards, fun hnone => ?_, fun r' hr' => ?_, ?_, fun r' hr' g hg => ?_, fun g hg =>
      ?_, hsome⟩
    · rw [hr] at hnone
      cases hnone
    · obtain rfl := Option.some.inj (hr.symm.trans hr')
      exact hlen
    · exact selected_ids (eligible_ids hpk false) r.constraints_valid hsel
    · obtain rfl := Option.some.inj (hr.symm.trans hr')
      exact hmem g hg
    · rw [← hkept]
      exact not_kept_of_eligible hk hl hw (hmem g hg)

/-- **A resize is all or nothing**, in every reachable state. -/
theorem resize_all_or_nothing (hb : Reachable cfg b) (now : Time) (actor : ActorContext)
    (leaseId : String) (addRequest : Option RequestCreate) (names : List String)
    (expectedEpoch : Option ℕ) (token : String → String) :
    AllOrNothing cfg b now actor leaseId addRequest names expectedEpoch token := by
  unfold AllOrNothing
  rcases exec_cases cfg b (.resizeLease now actor leaseId addRequest names expectedEpoch token) with
    ⟨b', resp, h, hexec⟩ | ⟨hrefused, hexec⟩
  · obtain ⟨hnamed, added, hexchanged⟩ := resize_exchanges hb.kept h
    exact Or.inr ⟨b', resp, _, added, h, hexec, hnamed, hexchanged⟩
  · exact Or.inl ⟨hrefused, hexec⟩

/-- Naming the only card of a lease twice, and asking for one card. -/
theorem heldFirst_all_or_nothing :
    AllOrNothing plainConfig heldFirst 0 (sampleActor "ann") "lease" (some oneCard)
      ["GPU-0", "alpha:GPU-0"] (some 0) (sampleToken "lease") :=
  resize_all_or_nothing heldFirst_reachable 0 (sampleActor "ann") "lease" (some oneCard)
    ["GPU-0", "alpha:GPU-0"] (some 0) (sampleToken "lease")

/-! ## A card given back is free -/

/-- The cards an accepted resize takes in are new to the lease: neither held before nor among those
given back. -/
def TakesNewCards (cfg : Config) : Prop :=
  ∀ b, Reachable cfg b → ∀ now actor leaseId addRequest names expectedEpoch token b' resp,
    resizeLease cfg now actor leaseId addRequest names expectedEpoch token b = .ok (b', resp) →
      ∃ named added, Named b leaseId names named ∧
        Exchanged cfg now b actor leaseId addRequest names named added b' ∧
          ∀ g ∈ added, g.id ∉ (b.ledger.folio leaseId).cardSet

/-- The holder of the first card names it, and asks for one card. -/
def giveBackFirst : Broker → Tx (Broker × Response) :=
  resizeLease plainConfig 0 (sampleActor "ann") "lease" (some oneCard) ["GPU-0"] (some 0)
    (sampleToken "lease")

/-- Rows are settled before cards are chosen, so the card given back may be chosen again. -/
theorem returned_again : ¬ TakesNewCards plainConfig := by
  intro h
  have hold : (heldFirst.ledger.folio "lease").cardSet = {"alpha:GPU-0"} := by decide +kernel
  have hok : (giveBackFirst heldFirst).toOption.isSome = true := by decide +kernel
  have hnew : ∀ out ∈ (giveBackFirst heldFirst).toOption,
      (out.1.ledger.folio "lease").cardSet = {"alpha:GPU-0"} := by decide +kernel
  cases hcall : giveBackFirst heldFirst with
  | error f =>
    rw [hcall] at hok
    cases hok
  | ok out =>
  obtain ⟨b', resp⟩ := out
  rw [hcall] at hnew
  have hnew := hnew _ rfl
  obtain ⟨named, added, hnamed, hexchanged, hfresh⟩ :=
    h heldFirst heldFirst_reachable _ _ _ _ _ _ _ b' resp hcall
  -- the only card was named, so it is not kept: it was taken in
  obtain ⟨g, hg, -⟩ := hnamed.known "GPU-0" (List.mem_singleton_self _)
  have hheld : g ∈ (heldFirst.ledger.folio "lease").cardSet := hnamed.held hg
  have hcard : g ∈ (b'.ledger.folio "lease").cardSet := by
    rw [hold] at hheld
    rw [hnew]
    exact hheld
  rw [hexchanged.cards] at hcard
  rcases Finset.mem_union.1 hcard with hkept | htaken
  · exact (Finset.mem_sdiff.1 hkept).2 hg
  · obtain ⟨d, hd, rfl⟩ := List.mem_map.1 (List.mem_toFinset.1 htaken)
    exact hfresh d hd hheld

end ServerPilot
