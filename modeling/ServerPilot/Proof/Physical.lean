import ServerPilot.Proof.Fleet
import ServerPilot.Proof.Inventory

/-!
# One lease for one physical card

A lease holds rows of `gpu_devices`, and a physical card seen through two servers has
two of them. `Broker.Single` says that the rows held are physically different.

* `eligible_apart`: a card a claim may choose is physically none of those held.
* `single_exec`: a transaction keeps the cards held single, if what it takes is told
  apart by UUID from what it leaves (`Broker.tellsApart`). Claims and resizes look for
  the UUID on other rows; reassignments and keepalive activations do not.
-/

namespace ServerPilot

open Rows Checked

/-- The cards on active rows. -/
def Ledger.held (l : Ledger) : List String := l.activeResources.map LeaseResource.gpuId

/-- The cards on active rows of the other leases. -/
def Ledger.heldByOthers (l : Ledger) (leaseId : String) : List String :=
  (l.activeResources.filter fun r => r.leaseId ≠ leaseId).map LeaseResource.gpuId

/-- No card of `gpuIds` is physically another one of them, or one of `others`. -/
def Plant.Distinct (p : Plant) (gpuIds others : List String) : Prop :=
  ∀ g ∈ gpuIds, ∀ g' ∈ gpuIds ++ others, p.uuidOf g = p.uuidOf g' → g = g'

instance (p : Plant) (gpuIds others : List String) : Decidable (p.Distinct gpuIds others) :=
  inferInstanceAs (Decidable (∀ g ∈ gpuIds, ∀ g' ∈ gpuIds ++ others, _ → _))

/-- The cards held are physically different. -/
def Broker.Single (b : Broker) : Prop := b.plant.Distinct b.ledger.held []

/-- A claim for more than one card finds no two candidates that are one physical card. -/
def Broker.choosesApart (cfg : Config) (now : Time) (b : Broker) (c : ResourceConstraints) : Prop :=
  c.gpuCount = 1 ∨ ∀ g ∈ b.plant.gpus, ∀ g' ∈ b.plant.gpus,
    b.exclusion cfg now c false g = none → b.exclusion cfg now c false g' = none →
      g.gpuUuid = g'.gpuUuid → g.id = g'.id

/-- The state in which a resize chooses: the cards given back are returned already. -/
def Broker.afterReturn (b : Broker) (leaseId : String) (names : List String) (actorId : String)
    (now : Time) : Broker :=
  ⟨b.plant, b.ledger.bumpRevision.returnCards leaseId (b.returnedCards leaseId names) actorId now⟩

/-- What a transaction takes is told apart by UUID from what it leaves. -/
def Broker.tellsApart (cfg : Config) (b : Broker) : Op → Prop
  | .createRequest now _ r .. => b.choosesApart cfg now r.constraints
  | .resizeLease now actor leaseId addRequest names .. => ∀ r ∈ addRequest,
      (b.afterReturn leaseId names actor.id now).choosesApart cfg now r.constraints
  | .reassignLeaseGpus _ _ leaseId gpuIds .. =>
    b.plant.Distinct gpuIds (b.ledger.heldByOthers leaseId)
  | .activateKeepalives _ _ _ gpuIds .. => b.plant.Distinct gpuIds b.ledger.held
  | _ => True

section

variable {cfg : Config} {now : Time} {actor : ActorContext} {leaseId : String}
  {token : String → String} {b b' b₀ : Broker} {op : Op} {resp : Response} {l l' : Ledger}
  {c : ResourceConstraints} {g : GPUDevice}

/-! ## The cards held -/

theorem mem_held {g : String} : g ∈ l.held ↔ ∃ r ∈ l.resources, r.active = true ∧ r.gpuId = g := by
  unfold Ledger.held Ledger.activeResources
  simp [and_assoc]

/-- A card is held by some lease. -/
theorem mem_held_iff {g : String} : g ∈ l.held ↔ ∃ id, g ∈ (l.folio id).cardSet := by
  rw [mem_held]
  constructor
  · rintro ⟨r, hr, ha, hg⟩
    exact ⟨r.leaseId, mem_cardSet.2 ⟨r, mem_cards.2 ⟨hr, rfl, ha⟩, hg⟩⟩
  · rintro ⟨id, h⟩
    obtain ⟨r, hr, hg⟩ := mem_cardSet.1 h
    obtain ⟨hm, -, ha⟩ := mem_cards.1 hr
    exact ⟨r, hm, ha, hg⟩

theorem mem_heldByOthers {g id : String} (hid : id ≠ leaseId) (h : g ∈ (l.folio id).cardSet) :
    g ∈ l.heldByOthers leaseId := by
  obtain ⟨r, hr, hg⟩ := mem_cardSet.1 h
  obtain ⟨hm, he, ha⟩ := mem_cards.1 hr
  refine List.mem_map.2 ⟨r, List.mem_filter.2 ⟨List.mem_filter.2 ⟨hm, by simp [ha]⟩, ?_⟩, hg⟩
  simpa [he] using hid

theorem heldByOthers_subset : ∀ g ∈ l.heldByOthers leaseId, g ∈ l.held := by
  intro g hg
  obtain ⟨r, hr, he⟩ := List.mem_map.1 hg
  exact List.mem_map.2 ⟨r, List.mem_of_mem_filter hr, he⟩

/-- A held card is among those of a holding. -/
theorem holding_of_held (hb : Intact b) {id g : String} (h : g ∈ (b.ledger.folio id).cardSet) :
    ∃ x, b.ledger.holding? id = some x ∧ g ∈ x.cards := by
  cases hl : b.ledger.lease? id with
  | none =>
    -- without its lease a row would point nowhere
    rw [folio_absent hb.grounded hl] at h
    exact absurd h (Finset.notMem_empty g)
  | some y => exact ⟨_, holding_of_lease hl, h⟩

/-- Holdings that only lose cards hold nothing new. -/
theorem Each.held {R : Holding String String → Holding String String → Prop}
    (hR : ∀ {h h'}, R h h' → h'.cards ⊆ h.cards) (hb' : Intact b')
    (e : Each R b.ledger b'.ledger) : ∀ g ∈ b'.ledger.held, g ∈ b.ledger.held := by
  intro g hg
  obtain ⟨id, hid⟩ := mem_held_iff.1 hg
  obtain ⟨x, hx, hgx⟩ := holding_of_held hb' hid
  cases hy : b.ledger.holding? id with
  | none =>
    rw [e.absent id hy] at hx
    cases hx
  | some y =>
    obtain ⟨z, hz, hyz⟩ := e.related id y hy
    obtain rfl : z = x := Option.some.inj (hz.symm.trans hx)
    have hgy : g ∈ y.cards := hR hyz hgx
    rw [holding_cards hy] at hgy
    exact mem_held_iff.2 ⟨id, hgy⟩

/-- New holdings hold cards among those taken. -/
theorem Opening.held {server : String → String} {gpuIds : List String} (hb' : Intact b')
    (o : Opening server gpuIds b.ledger b'.ledger) :
    ∀ g ∈ b'.ledger.held, g ∈ gpuIds ∨ g ∈ b.ledger.held := by
  intro g hg
  obtain ⟨id, hid⟩ := mem_held_iff.1 hg
  obtain ⟨x, hx, hgx⟩ := holding_of_held hb' hid
  by_cases hy : b.ledger.holding? id = none
  · rcases o.new id hy with hn | ⟨z, hz, -, -, hc⟩
    · rw [hn] at hx
      cases hx
    · obtain rfl : z = x := Option.some.inj (hz.symm.trans hx)
      exact Or.inl (List.mem_toFinset.1 (hc hgx))
  · have hold := (o.old id hy).1
    rw [hold] at hx
    rw [holding_cards hx] at hgx
    exact Or.inr (mem_held_iff.2 ⟨id, hgx⟩)

/-! ## Keeping the cards single -/

/-- Cards told apart from those left were taken, and nothing else is held afterwards. -/
def Takes (b b' : Broker) : Prop :=
  ∃ taken left, (∀ g ∈ left, g ∈ b.ledger.held) ∧
    (∀ g ∈ b'.ledger.held, g ∈ taken ∨ g ∈ left) ∧ b.plant.Distinct taken left

theorem Takes.of_subset (h : ∀ g ∈ b'.ledger.held, g ∈ b.ledger.held) : Takes b b' := by
  refine ⟨[], b.ledger.held, fun _ hg => hg, fun g hg => Or.inr (h g hg), ?_⟩
  intro g hg
  exact absurd hg List.not_mem_nil

theorem Takes.refl (b : Broker) : Takes b b := .of_subset fun _ hg => hg

/-- **Taking cards told apart from those left** keeps the cards single. -/
theorem Broker.Single.take (hk : Kept b) (hs : b.Single) (h : op.apply cfg b = .ok (b', resp))
    (ht : Takes b b') : b'.Single := by
  obtain ⟨taken, left, hleft, hheld, hd⟩ := ht
  have hi := apply_intact hk.intact h
  have huuid : ∀ g ∈ b'.ledger.held, b'.plant.uuidOf g = b.plant.uuidOf g := by
    intro g hg
    obtain ⟨id, hid⟩ := mem_held_iff.1 hg
    obtain ⟨x, hx, hgx⟩ := holding_of_held hi hid
    exact (apply_sameCards hk h hx g hgx).2
  intro g hg g' hg' he
  rw [List.append_nil] at hg'
  rw [huuid g hg, huuid g' hg'] at he
  rcases hheld g hg with ht | hl
  · have hin : g' ∈ taken ++ left := List.mem_append.2 (hheld g' hg')
    exact hd g ht g' hin he
  rcases hheld g' hg' with ht' | hl'
  · exact (hd g' ht' g (List.mem_append_right _ hl) he.symm).symm
  · exact hs g (hleft g hl) g' (List.mem_append_left _ (hleft g' hl')) he

/-! ## Choosing cards -/

/-- Every held card's lease is live, and its row known. -/
structure Broker.Backed (b : Broker) : Prop where
  live : ∀ r ∈ b.ledger.activeResources,
    (b.ledger.lease? r.leaseId).any (fun x => x.state.live) = true
  known : ∀ r ∈ b.ledger.activeResources, r.gpuId ∈ b.plant.gpus.map GPUDevice.id
  pk : (b.plant.gpus.map GPUDevice.id).Nodup

theorem mem_activeResources {r : LeaseResource} :
    r ∈ l.activeResources ↔ r ∈ l.resources ∧ r.active = true := by
  simp [Ledger.activeResources]

theorem Kept.backed (hk : Kept b) : b.Backed := by
  refine ⟨fun r hr => ?_, fun r hr => ?_, hk.intact.gpuPk⟩
  · obtain ⟨hm, ha⟩ := mem_activeResources.1 hr
    have hcard : r.gpuId ∈ (b.ledger.folio r.leaseId).cardSet :=
      mem_cardSet.2 ⟨r, mem_cards.2 ⟨hm, rfl, ha⟩, rfl⟩
    obtain ⟨x, hx, hgx⟩ := holding_of_held hk.intact hcard
    obtain ⟨y, hy, rfl⟩ := lease_of_holding hx
    rw [hy]
    -- an ended lease has no card
    cases hlive : y.state.live with
    | true => exact hlive
    | false =>
      rw [(hk.wellkept r.leaseId _ hx).empty hlive] at hgx
      exact absurd hgx (Finset.notMem_empty _)
  · exact hk.intact.resourceGpu r (mem_activeResources.1 hr).1

/-- Cards given back are on no active row, and the other rows stay. -/
theorem activeResources_returnCards {r : LeaseResource} {removed : List String} {by_ : String}
    (h : r ∈ (l.returnCards leaseId removed by_ now).activeResources) : r ∈ l.activeResources := by
  unfold Ledger.returnCards at h
  split at h
  · exact h
  obtain ⟨hm, ha⟩ := mem_activeResources.1 h
  rcases mem_updWhere.1 hm with ⟨x, hx, ⟨-, rfl⟩ | ⟨-, rfl⟩⟩
  · -- a settled row is not active
    cases ha
  · exact mem_activeResources.2 ⟨hx, ha⟩

/-- Giving cards back ends no lease. -/
theorem live_returnCards {id : String} {removed : List String} {by_ : String} :
    ((l.returnCards leaseId removed by_ now).lease? id).any (fun x => x.state.live) =
      (l.lease? id).any (fun x => x.state.live) := by
  by_cases hid : id = leaseId
  · rw [hid, lease?_returnCards]
    split
    · rfl
    · cases l.lease? leaseId <;> rfl
  · have hfolio : (l.returnCards leaseId removed by_ now).folio id = l.folio id :=
      folio_returnCards_ne hid
    rw [show (l.returnCards leaseId removed by_ now).lease? id = l.lease? id from
      congrArg Folio.lease hfolio]

/-- A resize gives cards back before it chooses; what is left is still backed. -/
theorem Broker.Backed.afterReturn (hb : b.Backed) (leaseId : String) (names : List String)
    (actorId : String) (now : Time) : (b.afterReturn leaseId names actorId now).Backed := by
  have hold : ∀ r ∈ (b.afterReturn leaseId names actorId now).ledger.activeResources,
      r ∈ b.ledger.activeResources :=
    fun r hr => activeResources_returnCards (l := b.ledger.bumpRevision) hr
  refine ⟨fun r hr => ?_, fun r hr => hb.known r (hold r hr), hb.pk⟩
  have hlive := hb.live r (hold r hr)
  unfold Broker.afterReturn
  rw [live_returnCards]
  exact hlive

/-- **A card a claim may choose is physically none of those held.** -/
theorem eligible_apart (hb : b.Backed) (h : b.exclusion cfg now c false g = none) :
    ∀ o ∈ b.ledger.held, b.plant.uuidOf o = g.gpuUuid → o = g.id := by
  intro o ho he
  have helse : b.uuidLeasedElsewhere g = false := by
    cases hu : b.uuidLeasedElsewhere g with
    | false => rfl
    | true =>
      unfold Broker.exclusion at h
      rw [hu] at h
      split at h <;> cases h
  by_contra hne
  obtain ⟨r, hr, rfl⟩ := List.mem_map.1 ho
  obtain ⟨g', hg', hid⟩ := List.mem_map.1 (hb.known r hr)
  have hrow : b.plant.gpu? r.gpuId = some g' := hid ▸ gpu?_of_mem hb.pk hg'
  unfold Broker.uuidLeasedElsewhere at helse
  rw [List.any_eq_false] at helse
  refine helse r hr ?_
  unfold Plant.uuidOf at he
  rw [hrow] at he
  rw [hb.live r hr, hrow]
  simpa using ⟨he, fun hid' => hne (hid.symm.trans hid')⟩

/-- **The cards a claim chooses** are physically different, and none of those held. -/
theorem chosen_distinct (hb : b.Backed) (hv : c.Valid) {sel : List GPUDevice}
    (h : b.plant.selectInGroupPartitions (b.eligibleGpus cfg now c) c = some sel)
    (hc : b.choosesApart cfg now c) :
    b.plant.Distinct (sel.map GPUDevice.id) b.ledger.held := by
  obtain ⟨hlen, hsel⟩ := selected_eligible hv h
  have huuid : ∀ g ∈ sel, b.plant.uuidOf g.id = g.gpuUuid := by
    intro g hg
    unfold Plant.uuidOf
    rw [gpu?_of_mem hb.pk (hsel g hg).1]
    rfl
  intro i hi i' hi' he
  obtain ⟨g, hg, rfl⟩ := List.mem_map.1 hi
  rw [huuid g hg] at he
  rcases List.mem_append.1 hi' with hi' | ho
  · obtain ⟨g', hg', rfl⟩ := List.mem_map.1 hi'
    rw [huuid g' hg'] at he
    rcases hc with hone | hapart
    · -- one card is only itself
      obtain ⟨x, rfl⟩ := List.length_eq_one_iff.1 (hlen.trans hone)
      rw [List.mem_singleton.1 hg, List.mem_singleton.1 hg']
    · exact hapart g (hsel g hg).1 g' (hsel g' hg').1 (hsel g hg).2 (hsel g' hg').2 he
  · exact (eligible_apart hb (hsel g hg).2 i' ho he.symm).symm

/-! ## The transactions that take cards -/

/-- The filter reads nothing of the ledger that opening a project changes. -/
theorem SameRows.exclusion (hs : SameRows b b₀) (reclaim : Bool) :
    b₀.exclusion cfg now c reclaim g = b.exclusion cfg now c reclaim g := by
  obtain ⟨p, projects, leases, resources, commitments, allocations, bindings, audit, idem, n⟩ := b
  obtain ⟨p', projects', leases', resources', commitments', allocations', bindings', audit', idem',
    n'⟩ := b₀
  obtain ⟨hp, hl, hr, hc, -, -, -⟩ := hs
  simp only at hp hl hr hc
  subst hp hl hr hc
  rfl

theorem SameRows.choosesApart (hs : SameRows b b₀) (h : b.choosesApart cfg now c) :
    b₀.choosesApart cfg now c := by
  refine h.imp id fun hall g hg g' hg' hx hx' => ?_
  rw [hs.plant] at hg hg'
  rw [hs.exclusion] at hx hx'
  exact hall g hg g' hg' hx hx'

theorem createRequest_takes (hk : Kept b) {r : RequestCreate} {key : Option String}
    {persistent : Bool}
    (h : createRequest cfg now actor r key persistent leaseId token b = .ok (b', resp))
    (hc : b.choosesApart cfg now r.constraints) : Takes b b' := by
  rcases createRequest_ok h with rfl | ⟨b₀, revision, gpus, d, hs, hg, -, rfl⟩
  · exact .refl _
  have hheld₀ : b₀.ledger.held = b.ledger.held := by
    unfold Ledger.held Ledger.activeResources
    rw [hs.resources]
  have hb₀ : b₀.Backed := by
    obtain ⟨hlive, hknown, hpk⟩ := hk.backed
    have hrows : b₀.ledger.activeResources = b.ledger.activeResources := by
      unfold Ledger.activeResources
      rw [hs.resources]
    refine ⟨?_, ?_, ?_⟩
    · rw [hrows]
      unfold Ledger.lease?
      rw [hs.leases]
      exact hlive
    · rw [hrows, hs.plant]
      exact hknown
    · rw [hs.plant]
      exact hpk
  have hd := chosen_distinct hb₀ r.constraints_valid hg (hs.choosesApart hc)
  rw [hs.plant, hheld₀] at hd
  refine ⟨gpus.map GPUDevice.id, b.ledger.held, fun _ hg => hg, fun g hg => ?_, hd⟩
  obtain ⟨idem, hrem⟩ := remember_eq (b₀.claimed actor persistent (claimedLease leaseId actor r now
    revision) r.constraints gpus token d now).ledger actor "request.create" key resp now
  rw [hrem] at hg
  obtain ⟨x, hx, ha, rfl⟩ := mem_held.1 hg
  -- the card rows after a claim are the old ones and one for each chosen card
  rcases List.mem_append.1 (show x ∈ b₀.ledger.resources ++ (gpus.map GPUDevice.id).map fun g =>
    { leaseId, gpuId := g } from hx) with hx | hx
  · rw [hs.resources] at hx
    exact Or.inr (mem_held.2 ⟨x, hx, ha, rfl⟩)
  · obtain ⟨i, hi, rfl⟩ := List.mem_map.1 hx
    exact Or.inl hi

theorem Taking.held {added : List GPUDevice} (t : Taking b leaseId added b') :
    ∀ g ∈ b'.ledger.held, g ∈ added.map GPUDevice.id ∨ g ∈ b.ledger.held := by
  intro g hg
  obtain ⟨id, hid⟩ := mem_held_iff.1 hg
  by_cases he : id = leaseId
  · rw [he, t.cards, Finset.mem_union, List.mem_toFinset] at hid
    exact hid.symm.imp_right fun hold => mem_held_iff.2 ⟨leaseId, hold⟩
  · rw [t.others id he] at hid
    exact Or.inr (mem_held_iff.2 ⟨id, hid⟩)

theorem resizeLease_takes (hk : Kept b) {addRequest : Option RequestCreate} {names : List String}
    {expectedEpoch : Option ℕ}
    (h : resizeLease cfg now actor leaseId addRequest names expectedEpoch token b = .ok (b', resp))
    (hc : ∀ r ∈ addRequest,
      (b.afterReturn leaseId names actor.id now).choosesApart cfg now r.constraints) :
    Takes b b' := by
  obtain ⟨lease, taken, added, d, hl, -, -, -, -, -, -, hadd, -, -, rfl⟩ := resizeLease_ok h
  obtain rfl := lease?_id hl
  obtain ⟨t, -⟩ := addCards_taking hadd
  have hreturned : ∀ g ∈ (b.afterReturn lease.id names actor.id now).ledger.held,
      g ∈ b.ledger.held := by
    intro g hg
    obtain ⟨r, hr, hg⟩ := List.mem_map.1 hg
    exact List.mem_map.2 ⟨r, activeResources_returnCards (l := b.ledger.bumpRevision) hr, hg⟩
  refine ⟨added.map GPUDevice.id, (b.afterReturn lease.id names actor.id now).ledger.held,
    hreturned,
    fun g hg => t.held g ?_, ?_⟩
  · rw [mem_held] at hg ⊢
    have hres : (taken.resized lease (decide (b.returnedCards lease.id names = [])) token
        now).ledger.resources = taken.ledger.resources := resized_resources token now
    rw [← hres]
    exact hg
  · rcases addCards_ok hadd with ⟨-, -, rfl⟩ | ⟨r, hr, hsel, -⟩
    · intro g hg
      exact absurd hg List.not_mem_nil
    · exact chosen_distinct (hk.backed.afterReturn lease.id names actor.id now) r.constraints_valid
        hsel (hc r hr)

theorem reassignLeaseGpus_takes (hb : Intact b) {gpuIds : List String} {key : String}
    {override : Bool}
    (h : reassignLeaseGpus now actor leaseId gpuIds key override token b = .ok (b', resp))
    (hc : b.plant.Distinct gpuIds (b.ledger.heldByOthers leaseId)) : Takes b b' := by
  rcases reassign_moved hb h with rfl | ⟨-, hothers, x, x', -, -, hx', hcards, -, -⟩
  · exact .refl _
  refine ⟨gpuIds, b.ledger.heldByOthers leaseId, heldByOthers_subset, fun g hg => ?_, hc⟩
  obtain ⟨id, hid⟩ := mem_held_iff.1 hg
  by_cases he : id = leaseId
  · rw [he, ← holding_cards hx', hcards, List.mem_toFinset] at hid
    exact Or.inl hid
  · rw [hothers id he] at hid
    exact Or.inr (mem_heldByOthers he hid)

theorem activateKeepalives_takes (hk : Kept b) {endpointId : String} {gpuIds : List String}
    {notBefore : Time} {key : String} {confirmed : Option (List (String × ℕ × String))}
    (h : activateKeepalives cfg now actor endpointId gpuIds notBefore key confirmed token b =
      .ok (b', resp))
    (hc : b.plant.Distinct gpuIds b.ledger.held) : Takes b b' := by
  have happly : (Op.activateKeepalives now actor endpointId gpuIds notBefore key confirmed
      token).apply cfg b = .ok (b', resp) := h
  have hi : Intact b' := apply_intact hk.intact happly
  rcases activate_opening hk.intact hk.wellkept h with rfl | ⟨-, o⟩
  · exact .refl _
  · exact ⟨gpuIds, b.ledger.held, fun _ hg => hg, o.held hi, hc⟩

/-! ## Every run -/

/-- What an accepted transaction takes is told apart from what it leaves. -/
theorem apply_takes (hk : Kept b) (h : op.apply cfg b = .ok (b', resp))
    (hc : b.tellsApart cfg op) : Takes b b' := by
  have hi := apply_intact hk.intact h
  have hlife := apply_life hk.intact hk.wellkept h
  cases hlife with
  | ends e => exact .of_subset (e.held (fun r => r.shrinks.subset) hi)
  | loses ho f => exact .of_subset (f.held (fun r => r.subset) hi)
  | opens gpuIds ho o =>
    cases op with
    | createRequest => exact createRequest_takes hk h hc
    | activateKeepalives => exact activateKeepalives_takes hk h hc
    | claimFinish =>
      -- a plugin's lease begins without cards
      have hopen := (claimFinish_opening hk.intact h).2.held hi
      exact .of_subset fun g hg => (hopen g hg).resolve_left List.not_mem_nil
    | _ => cases ho
  | resizes i ho a =>
    cases op with
    | resizeLease => exact resizeLease_takes hk h hc
    | _ => cases ho
  | moves m ho ha a =>
    cases op with
    | reassignLeaseGpus => exact reassignLeaseGpus_takes hk.intact h hc
    | _ => cases ho
  | uproots e ho u =>
    refine .of_subset (u.held (fun r => ?_) hi)
    rcases r with r | r
    · exact fun g hg => ((r.cards g).1 hg).1
    · rw [r.cards]
      exact Finset.empty_subset _

theorem single_exec (hk : Kept b) (hs : b.Single) (hc : b.tellsApart cfg op) :
    (exec cfg b op).Single := by
  rcases exec_cases cfg b op with ⟨b', resp, h, he⟩ | ⟨-, he⟩
  · rw [he]
    exact hs.take hk h (apply_takes hk h hc)
  · rw [he]
    exact hs

theorem Seeded.single (h : Seeded b) : b.Single := by
  intro g hg
  obtain ⟨r, hr, -⟩ := mem_held.1 hg
  rw [h.resources] at hr
  cases hr

/-- **The cards held are physically different** along every run that takes cards told apart by
UUID from those it leaves. -/
theorem single_run {ops : List Op} (hk : Kept b) (hs : b.Single)
    (h : Run.Along (exec cfg) (Broker.tellsApart cfg) b ops) :
    (Run.run (exec cfg) b ops).Single := by
  have hkept : Kept (Run.run (exec cfg) b ops) ∧ (Run.run (exec cfg) b ops).Single := by
    refine Run.run_inv (I := fun b => Kept b ∧ b.Single) ?_ ⟨hk, hs⟩ h
    rintro b op ⟨hk, hs⟩ hc
    exact ⟨exec_kept cfg b op hk, single_exec hk hs hc⟩
  exact hkept.2

end

/-- **One active row for one physical card**, in every state of a run from an empty ledger whose
transactions take cards told apart by UUID from those they leave. -/
theorem physically_exclusive {cfg : Config} {b₀ : Broker} (hs : Seeded b₀) {ops : List Op}
    (h : Run.Along (exec cfg) (Broker.tellsApart cfg) b₀ ops) :
    ((Run.run (exec cfg) b₀ ops).ledger.activeResources.map fun r =>
      (Run.run (exec cfg) b₀ ops).plant.uuidOf r.gpuId).Nodup := by
  have hsingle := single_run hs.kept hs.single h
  have hi := (run_kept cfg ops hs.kept).intact
  have hn := hi.activeGpu
  rw [← Function.comp_def, ← List.map_map]
  refine List.Nodup.map_on (fun g hg g' hg' he => ?_) hn
  exact hsingle g hg g' (List.mem_append_left _ hg') he

/-- A card is seen, claimed, and its lease moved to the card next to it. -/
def movedAlong : List Op :=
  [.ingestObservation 0 (lookAtTwo "alpha" "GPU-0" "GPU-1" twoCards_ne 0 []) sampleToken,
   .createRequest 0 (sampleActor "ann") oneCard none true "one" (sampleToken "one"),
   .reassignLeaseGpus 0 (sampleActor "ann") "one" ["alpha:GPU-1"] "move" false (sampleToken "one")]

theorem movedAlong_exclusive :
    (Run.run (exec plainConfig) sampleFleet movedAlong).ledger.held = ["alpha:GPU-1"] ∧
      ((Run.run (exec plainConfig) sampleFleet movedAlong).ledger.activeResources.map fun r =>
        (Run.run (exec plainConfig) sampleFleet movedAlong).plant.uuidOf r.gpuId).Nodup := by
  refine ⟨by decide +kernel, physically_exclusive sampleFleet_seeded
    ⟨trivial, Or.inl rfl, ?_, trivial⟩⟩
  show Plant.Distinct _ _ _
  decide +kernel

theorem otherTask_len : 1 ≤ "eval".length ∧ "eval".length ≤ 255 := by decide

/-- A second task of the same session. -/
def otherTask : RequestCreate := { oneCard with taskRef := "eval", taskRef_len := otherTask_len }

/-- The leased card of `alpha` shows up on `beta` once `alpha` is stale, and the lease of another
card of `beta` is moved to it. -/
def handedOver : List Op :=
  [.ingestObservation 0 (lookAtOne "alpha" "GPU-0" 0 []) sampleToken,
   .createRequest 0 (sampleActor "ann") oneCard none true "one" (sampleToken "one"),
   .ingestObservation (seconds 100)
    (lookAtTwo "beta" "GPU-0" "GPU-1" twoCards_ne (seconds 100) []) sampleToken,
   .createRequest (seconds 100) (sampleActor "ann") otherTask none true "two" (sampleToken "two"),
   .reassignLeaseGpus (seconds 100) (sampleActor "ann") "two" ["beta:GPU-0"] "move" false
    (sampleToken "two")]

/-- Two leases hold the card that moved to another server. -/
theorem held_twice :
    ¬ ∀ (cfg : Config) (b₀ : Broker) (ops : List Op), Seeded b₀ →
      ((Run.run (exec cfg) b₀ ops).ledger.activeResources.map fun r =>
        (Run.run (exec cfg) b₀ ops).plant.uuidOf r.gpuId).Nodup := by
  intro hall
  have hnodup := hall plainConfig sampleFleet handedOver sampleFleet_seeded
  exact absurd hnodup (by decide +kernel)

end ServerPilot
