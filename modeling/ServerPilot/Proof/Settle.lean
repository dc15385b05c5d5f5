import ServerPilot.Proof.Accepted
import ServerPilot.Proof.Grow
import ServerPilot.Proof.Pass

/-!
# Settling one server

An operator's `release_empty_conflicted_lease` and the deletion of a server both
settle a lease's cards on that server, and end the lease when these were all it
had: `holding_settleOn`. A deletion then drops the server's own rows,
`delete_uprooted`.
-/

namespace ServerPilot

open Rows Checked

section

variable {b : Broker} {id i endpointId : String}

/-- The cards of a lease on one server. -/
def Broker.serverCards (b : Broker) (leaseId endpointId : String) : Finset String :=
  ((b.cardsOn leaseId endpointId).map LeaseResource.gpuId).toFinset

theorem mem_serverCards {g : String} : g ∈ b.serverCards id endpointId ↔
    g ∈ (b.ledger.folio id).cardSet ∧ b.plant.endpointOf g = endpointId := by
  unfold Broker.serverCards Broker.cardsOn
  rw [List.mem_toFinset, mem_cardSet]
  simp only [List.mem_map, List.mem_filter, decide_eq_true_eq]
  constructor
  · rintro ⟨r, ⟨hr, he⟩, rfl⟩
    exact ⟨⟨r, hr, rfl⟩, he⟩
  · rintro ⟨⟨r, hr, rfl⟩, he⟩
    exact ⟨r, ⟨hr, he⟩, rfl⟩

theorem cardsOn_eq_nil : b.cardsOn id endpointId = [] ↔ b.serverCards id endpointId = ∅ := by
  unfold Broker.serverCards
  simp

/-- All cards are on the server exactly when as many are as there are. -/
theorem length_cardsOn : (b.cardsOn id endpointId).length = (b.ledger.cards id).length ↔
    (b.ledger.folio id).cardSet ⊆ b.serverCards id endpointId := by
  unfold Broker.cardsOn
  rw [List.length_filter_eq_length_iff]
  constructor
  · intro h g hg
    obtain ⟨r, hr, rfl⟩ := mem_cardSet.1 hg
    exact mem_serverCards.2 ⟨hg, by simpa using h r hr⟩
  · intro h r hr
    simpa using (mem_serverCards.1 (h (mem_cardSet.2 ⟨r, hr, rfl⟩))).2

variable (reason actorId : String) (now : Time)

theorem folio_settleOn_ne (h : id ≠ i) :
    (b.settleOn i endpointId reason actorId now).folio id = b.ledger.folio id := by
  unfold Broker.settleOn
  simp only
  split
  · rw [folio_editLease_ne _ id i (f := Lease.ended .released (some reason) now) (fun _ => rfl) h]
    exact folio_settleCards_ne _ _ _ _ h
  · exact folio_settleCards_ne _ _ _ _ h

/-- **Settling a server** takes the lease's cards there, and ends a lease they were all of. -/
theorem holding_settleOn : (b.settleOn i endpointId reason actorId now).holding? i =
    (b.ledger.holding? i).map (Holding.lose (b.serverCards i endpointId)) := by
  unfold Broker.settleOn
  simp only
  by_cases hl : (b.cardsOn i endpointId).length = (b.ledger.cards i).length
  · have hS := length_cardsOn.1 hl
    rw [if_pos hl, holding_ended (f := Lease.ended .released (some reason) now) (fun _ _ _ => rfl)
      fun _ => rfl]
    refine Option.map_congr fun h hh => ?_
    unfold Holding.lose
    rw [holding_cards hh, if_pos hS]
    rfl
  · have hS := fun hs => hl (length_cardsOn.2 hs)
    rw [if_neg hl, holding_settleCards]
    refine Option.map_congr fun h hh => ?_
    unfold Holding.lose
    rw [holding_cards hh, if_neg hS]
    rfl

end

/-! ## Clearing a lease by hand -/

/-- **An operator's release** of a lease on one server takes its cards there, or ends a lease that
has none. -/
theorem releaseEmpty_loses {cfg : Config} {now : Time} {actor : ActorContext}
    {endpointId leaseId key : String} {notBefore : Time} {b b' : Broker} {resp : Response}
    (h : releaseEmptyConflictedLease cfg now actor endpointId leaseId notBefore key b =
      .ok (b', resp)) :
    b' = b ∨ b'.plant = b.plant ∧ (∀ id, id ≠ leaseId → b'.ledger.folio id = b.ledger.folio id) ∧
      ((b.ledger.folio leaseId).cardSet = ∅ ∨ b.serverCards leaseId endpointId ≠ ∅) ∧
      b'.ledger.holding? leaseId =
        (b.ledger.holding? leaseId).map (Holding.lose (b.serverCards leaseId endpointId)) := by
  rcases releaseEmptyConflictedLease_ok h with h | ⟨lease, hl, hc, -, -, hb'⟩
  · exact Or.inl h
  obtain rfl := lease?_id hl
  have hrows : ∀ id, b'.ledger.folio id = (Broker.settleOn ⟨b.plant, b.ledger.bumpRevision⟩ lease.id
      endpointId (clearedReason (b.plant.endpointUnreachable cfg now endpointId)) actor.id
      now).folio id := by
    intro id
    rw [hb']
    exact folio_remember _ id _ _ _ _ _
  refine Or.inr ⟨by rw [hb'], fun id hne => (hrows id).trans (folio_settleOn_ne _ _ _ hne), ?_,
    (holding_congr (hrows lease.id)).trans (holding_settleOn _ _ _)⟩
  rcases hc with hc | hc
  · left
    unfold Folio.cardSet
    rw [folio_active, hc]
    rfl
  · exact Or.inr fun he => hc (cardsOn_eq_nil.2 he)

/-! ## Deleting a server -/

section

variable {b b' : Broker} {id endpointId actorId : String} {now : Time}

theorem serverCards_congr (hp : b'.plant = b.plant) (hf : b'.ledger.folio id = b.ledger.folio id) :
    b'.serverCards id endpointId = b.serverCards id endpointId := by
  ext g
  rw [mem_serverCards, mem_serverCards, hp, hf]

/-- The leases of a server settled one after the other: each loses its cards there. -/
theorem settleForDeleted_fold (endpointId actorId : String) (now : Time) (ids : List String)
    (hn : ids.Nodup) (b : Broker) :
    (ids.foldl (settleForDeleted endpointId actorId now) b).plant = b.plant ∧
    (∀ id, id ∉ ids → (ids.foldl (settleForDeleted endpointId actorId now) b).ledger.folio id =
      b.ledger.folio id) ∧
    ∀ id ∈ ids, (ids.foldl (settleForDeleted endpointId actorId now) b).ledger.holding? id =
      (b.ledger.holding? id).map (Holding.lose (b.serverCards id endpointId)) := by
  induction ids generalizing b with
  | nil => exact ⟨rfl, fun _ _ => rfl, fun _ h => by cases h⟩
  | cons i ids ih =>
    obtain ⟨hi, hn⟩ := List.nodup_cons.1 hn
    obtain ⟨hp, ho, hh⟩ := ih hn (settleForDeleted endpointId actorId now b i)
    have hne : ∀ id, id ≠ i → (settleForDeleted endpointId actorId now b i).ledger.folio id =
        b.ledger.folio id := fun id h => folio_settleOn_ne _ _ _ h
    have hs : (settleForDeleted endpointId actorId now b i).ledger.holding? i =
        (b.ledger.holding? i).map (Holding.lose (b.serverCards i endpointId)) :=
      holding_settleOn _ _ _
    refine ⟨hp, fun id h => ?_, fun id h => ?_⟩
    · obtain ⟨h₁, h₂⟩ := not_or.1 (List.mem_cons.not.1 h)
      exact (ho id h₂).trans (hne id h₁)
    · rcases List.mem_cons.1 h with rfl | h
      · exact (holding_congr (ho id hi)).trans hs
      · have hid : id ≠ i := fun he => hi (he ▸ h)
        have hsc : (settleForDeleted endpointId actorId now b i).serverCards id endpointId =
            b.serverCards id endpointId := serverCards_congr rfl (hne id hid)
        rw [List.foldl_cons, hh id h, holding_congr (hne id hid), hsc]

theorem holdsOn_iff (hb : Intact b) :
    b.holdsOn id endpointId = true ↔ b.serverCards id endpointId ≠ ∅ := by
  unfold Broker.holdsOn
  rw [List.any_eq_true, ← Finset.nonempty_iff_ne_empty]
  constructor
  · rintro ⟨r, hr, hg⟩
    refine ⟨r.gpuId, mem_serverCards.2 ⟨mem_cardSet.2 ⟨r, hr, rfl⟩, ?_⟩⟩
    unfold Plant.endpointOf
    cases hx : b.plant.gpu? r.gpuId with
    | none => simp [hx] at hg
    | some g => simpa [hx] using hg
  · rintro ⟨g, hg⟩
    obtain ⟨hg, he⟩ := mem_serverCards.1 hg
    obtain ⟨r, hr, rfl⟩ := mem_cardSet.1 hg
    obtain ⟨x, hx, hxe⟩ := List.mem_map.1 (hb.resourceGpu r (mem_cards.1 hr).1)
    refine ⟨r, hr, ?_⟩
    rw [← hxe, gpu?_of_mem hb.gpuPk hx]
    rw [← hxe, endpointOf_of_mem hb.gpuPk hx] at he
    simpa using he

/-- Purging a server leaves a holding its other cards and its other promises. -/
theorem holding_purgeEndpoint (hn : (b.plant.gpus.map GPUDevice.id).Nodup)
    (hk : ∀ g ∈ (b.ledger.folio id).cardSet, g ∈ b.plant.gpus.map GPUDevice.id) :
    (b.purgeEndpoint endpointId).ledger.holding? id =
      (b.ledger.holding? id).map (Holding.purge b.plant.endpointOf endpointId) := by
  have hc : ((b.purgeEndpoint endpointId).ledger.folio id).cardSet =
      (b.ledger.folio id).cardSet.filter fun g => b.plant.endpointOf g ≠ endpointId := by
    ext g
    rw [Finset.mem_filter, mem_cardSet, mem_cardSet]
    simp only [mem_cards, Broker.purgeEndpoint, List.mem_filter, decide_eq_true_eq, List.mem_map,
      not_exists, not_and]
    constructor
    · rintro ⟨r, ⟨⟨hr, hx⟩, hid, ha⟩, rfl⟩
      refine ⟨⟨r, ⟨hr, hid, ha⟩, rfl⟩, fun he => ?_⟩
      obtain ⟨x, hxm, hxe⟩ := List.mem_map.1 (hk r.gpuId (mem_cardSet.2
        ⟨r, mem_cards.2 ⟨hr, hid, ha⟩, rfl⟩))
      rw [← hxe, endpointOf_of_mem hn hxm] at he
      exact hx x ⟨hxm, he⟩ hxe
    · rintro ⟨⟨r, ⟨hr, hid, ha⟩, rfl⟩, he⟩
      refine ⟨r, ⟨⟨hr, ?_⟩, hid, ha⟩, rfl⟩
      rintro x ⟨hx, hxe⟩ hxi
      apply he
      rw [← hxi, endpointOf_of_mem hn hx, hxe]
  have hp : ((b.purgeEndpoint endpointId).ledger.folio id).pledged =
      (b.ledger.folio id).pledged.erase endpointId := by
    ext e
    unfold Folio.pledged Ledger.folio Broker.purgeEndpoint
    simp only [List.mem_toFinset, List.mem_map, List.mem_filter, decide_eq_true_eq,
      Finset.mem_erase]
    constructor
    · rintro ⟨c, ⟨⟨hc, hne⟩, hid⟩, rfl⟩
      exact ⟨hne, c, ⟨hc, hid⟩, rfl⟩
    · rintro ⟨hne, c, ⟨hc, hid⟩, rfl⟩
      exact ⟨c, ⟨⟨hc, hne⟩, hid⟩, rfl⟩
  unfold Ledger.holding? Folio.holding?
  rw [hc, hp, folio_lease, folio_lease, Option.map_map]
  rfl

theorem endpointHasActiveLeases_false (h : b.endpointHasActiveLeases endpointId = false) :
    b.leasesOn endpointId = [] := by
  unfold Broker.endpointHasActiveLeases at h
  simp only [Bool.or_eq_false_iff, List.any_eq_false, Bool.and_eq_true, not_and] at h
  unfold Broker.leasesOn
  rw [List.map_eq_nil_iff, List.filter_eq_nil_iff]
  intro x hx hd
  have hd := of_decide_eq_true hd
  exact h.1.1 x hx hd.1 hd.2

/-- What the deletion of a server does to a holding. -/
def Holding.Deleted (server : String → String) (e : String) (h h' : Holding String String) : Prop :=
  h.Uprooted server e h' ∨ h.Ended h'

/-- A holding with cards elsewhere only loses at most promises. -/
theorem purge_uprooted {server : String → String} {e : String} {h : Holding String String}
    (hc : ∀ g ∈ h.cards, server g ≠ e) : h.Uprooted server e (h.purge server e) := by
  have he : (h.purge server e).cards = h.cards := Finset.filter_true_of_mem hc
  exact ⟨⟨rfl, rfl⟩, rfl, rfl, Or.inl ⟨he, rfl⟩, fun hs => he ▸ hs,
    fun g => by rw [he]; exact ⟨fun hg => ⟨hg, hc g hg⟩, And.left⟩, rfl⟩

/-- Settling a server's cards and purging it either ends a holding or takes just that server out. -/
theorem lose_purge_deleted {server : String → String} {e : String} {h : Holding String String}
    {s : Finset String} (hs : ∀ g, g ∈ s ↔ g ∈ h.cards ∧ server g = e) :
    h.Deleted server e ((h.lose s).purge server e) := by
  unfold Holding.lose
  split
  · rename_i hc
    right
    have he : h.cards \ s = ∅ := Finset.sdiff_eq_empty_iff_subset.2 hc
    refine ⟨⟨rfl, rfl⟩, rfl, rfl, Nat.le_succ _, ?_⟩
    show (h.cards \ s).filter (fun g => server g ≠ e) = ∅
    rw [he]
    rfl
  · rename_i hc
    left
    have hcards : ∀ g, g ∈ ((h.drop s).purge server e).cards ↔ g ∈ h.cards ∧ server g ≠ e := by
      intro g
      show g ∈ (h.cards \ s).filter (fun g => server g ≠ e) ↔ _
      rw [Finset.mem_filter, Finset.mem_sdiff, hs]
      tauto
    refine ⟨⟨rfl, rfl⟩, rfl, rfl, Or.inr (Nat.lt_succ_self _), fun _ => ?_, hcards, rfl⟩
    obtain ⟨g, hg, hgs⟩ := Finset.not_subset.1 hc
    exact ⟨g, (hcards g).2 ⟨hg, fun he => hgs ((hs g).2 ⟨hg, he⟩)⟩⟩

/-- The live leases with a card on the server. -/
theorem mem_leasesOn (hb : Intact b) {id : String} : id ∈ b.leasesOn endpointId ↔
    ∃ x, b.ledger.lease? id = some x ∧ x.state.live = true ∧ b.holdsOn id endpointId = true := by
  unfold Broker.leasesOn
  simp only [List.mem_map, List.mem_filter, decide_eq_true_eq]
  constructor
  · rintro ⟨x, ⟨hx, hl, ho⟩, rfl⟩
    exact ⟨x, row?_of_mem hb.leasePk hx, hl, ho⟩
  · rintro ⟨x, hx, hl, ho⟩
    exact ⟨x, ⟨lease?_mem hx, hl, (lease?_id hx).symm ▸ ho⟩, lease?_id hx⟩

/-- What a deletion leaves of every lease: the live ones on the server settled there, and all of
them without its promises. -/
theorem delete_holding {cfg : Config} {actor : ActorContext} {key : String} {resp : Response}
    (hb : Intact b) (h : deleteEndpoint cfg now actor endpointId key b = .ok (b', resp)) :
    b' = b ∨ b'.plant = (b.purgeEndpoint endpointId).plant ∧
      ∀ id, b'.ledger.holding? id =
        (if id ∈ b.leasesOn endpointId then
          (b.ledger.holding? id).map (Holding.lose (b.serverCards id endpointId))
        else b.ledger.holding? id).map (Holding.purge b.plant.endpointOf endpointId) := by
  rcases deleteEndpoint_ok h with h | ⟨hu, -, hb'⟩
  · exact Or.inl h
  -- whether or not leases are settled, it is exactly those with a card on the server
  set settled :=
    (b.leasesOn endpointId).foldl (settleForDeleted endpointId actor.id now) b with hset
  have hd : b'.plant = (settled.purgeEndpoint endpointId).plant ∧
      ∀ id, b'.ledger.folio id = (settled.purgeEndpoint endpointId).ledger.folio id := by
    have hse : (if b.plant.endpointUnreachable cfg now endpointId = true then
        b.settleLeasesForDeleted endpointId actor.id now else b) = settled := by
      split
      · rfl
      · rename_i hr
        rw [hset, endpointHasActiveLeases_false (hu.resolve_left hr)]
        rfl
    rw [hb']
    unfold Broker.endpointDeleted
    simp only [hse]
    exact ⟨trivial, fun id => folio_remember _ id _ _ _ _ _⟩
  have hn : (b.leasesOn endpointId).Nodup := hb.leasePk.sublist (List.filter_sublist.map _)
  obtain ⟨hp, ho, hh⟩ := settleForDeleted_fold endpointId actor.id now _ hn b
  rw [← hset] at hp ho hh
  have hsettled : ∀ id, settled.ledger.holding? id = if id ∈ b.leasesOn endpointId then
      (b.ledger.holding? id).map (Holding.lose (b.serverCards id endpointId))
        else b.ledger.holding? id := by
    intro id
    split
    · rename_i hm
      exact hh id hm
    · rename_i hm
      exact holding_congr (ho id hm)
  refine Or.inr ⟨?_, fun id => ?_⟩
  · rw [hd.1]
    unfold Broker.purgeEndpoint
    rw [hp]
  · rw [holding_congr (hd.2 id), ← hp, ← hsettled]
    refine holding_purgeEndpoint (hp ▸ hb.gpuPk) fun g hg => ?_
    -- settling only takes cards, and every card row is about a known card
    have hg' : g ∈ (b.ledger.folio id).cardSet := by
      by_cases hm : id ∈ b.leasesOn endpointId
      · obtain ⟨x, hx, -, -⟩ := (mem_leasesOn hb).1 hm
        have hx' := (hh id hm).trans (congrArg _ (holding_of_lease hx))
        rw [← holding_cards hx', Holding.lose_cards] at hg
        exact (Finset.mem_sdiff.1 hg).1
      · rwa [ho id hm] at hg
    obtain ⟨r, hr, rfl⟩ := mem_cardSet.1 hg'
    rw [hp]
    exact hb.resourceGpu r (mem_cards.1 hr).1

/-- **A deletion** takes one server out of every holding, and ends those it was all of. -/
theorem delete_uprooted {cfg : Config} {actor : ActorContext} {key : String} {resp : Response}
    (hb : Intact b) (hs : ∀ id h, b.ledger.holding? id = some h → h.Sound)
    (h : deleteEndpoint cfg now actor endpointId key b = .ok (b', resp)) :
    b' = b ∨ b'.plant = (b.purgeEndpoint endpointId).plant ∧
      Each (Holding.Deleted b.plant.endpointOf endpointId) b.ledger b'.ledger := by
  rcases delete_holding hb h with h | ⟨hp, hh⟩
  · exact Or.inl h
  refine Or.inr ⟨hp, fun id hnone => ?_, fun id x hx => ?_⟩
  · rw [hh, hnone]
    split <;> rfl
  · by_cases hm : id ∈ b.leasesOn endpointId
    · rw [hh, if_pos hm, hx]
      refine ⟨_, rfl, lose_purge_deleted fun g => ?_⟩
      rw [holding_cards hx]
      exact mem_serverCards
    · rw [hh, if_neg hm, hx]
      refine ⟨_, rfl, Or.inl (purge_uprooted fun g hg he => ?_)⟩
      cases hl : x.live with
      | false =>
        rw [(hs id x hx).empty hl] at hg
        exact absurd hg (Finset.notMem_empty g)
      | true =>
        obtain ⟨y, hy, rfl⟩ := lease_of_holding hx
        refine hm ((mem_leasesOn hb).2 ⟨y, hy, hl, (holdsOn_iff hb).2 ?_⟩)
        exact Finset.nonempty_iff_ne_empty.1 ⟨g, mem_serverCards.2 ⟨hg, he⟩⟩

end

end ServerPilot
