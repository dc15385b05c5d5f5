import ServerPilot.Proof.Commits
import ServerPilot.Proof.Derived
import ServerPilot.Spec.Redeclare

/-!
# Redeclaring a task

`redeclare_task` asks for the difference between the cards it counted and the
cards declared, and its resize is not told how many it counted. So the lease ends
with the cards declared exactly when it still had as many when the resize ran:
`redeclared_iff`.
-/

namespace ServerPilot

open Rows Checked

variable {cfg : Config} {now : Time} {b b' : Broker} {c : ResourceConstraints}

/-! ## A claim on one host -/

section

variable {candidates sel : List GPUDevice}

/-- What is picked on one host is picked once. -/
theorem nodup_of_sameHost (hs : c.sameHost = true) (hp : c.gpusPerNode = none)
    (he : c.placement ≠ .exact) (hn : candidates.Nodup)
    (h : selectResources candidates c = some sel) : sel.Nodup := by
  unfold selectResources at h
  by_cases hlen : candidates.length < c.gpuCount
  · rw [if_pos hlen] at h
    cases h
  rw [if_neg hlen, if_neg he, hp] at h
  simp only at h
  rw [if_pos hs] at h
  obtain ⟨host, hh, rfl⟩ := Option.map_eq_some_iff.1 h
  have hb := (fits_of_head (List.mem_of_mem_head? hh)).2
  exact (nodup_byEndpoint hn hb).sublist (List.take_sublist _ _)

theorem nodup_inGroupPartitions {p : Plant} (hs : c.sameHost = true) (hp : c.gpusPerNode = none)
    (he : c.placement ≠ .exact) (hn : candidates.Nodup)
    (h : p.selectInGroupPartitions candidates c = some sel) : sel.Nodup := by
  unfold Plant.selectInGroupPartitions at h
  obtain ⟨x, hx, rfl⟩ := Option.map_eq_some_iff.1 h
  rcases foldl_betterSelection _ _ hx with hnone | hm
  · cases hnone
  · obtain ⟨group, -, hg⟩ := List.mem_filterMap.1 hm
    obtain ⟨s, hsel, rfl⟩ := Option.map_eq_some_iff.1 hg
    exact nodup_of_sameHost hs hp he (hn.filter _) hsel

end

/-! ## A free card is nobody's -/

/-- A claim's card is not free. -/
theorem gpuState_ne_available {g : GPUDevice} {x : Lease}
    (hx : b.ledger.activeLeaseForGpu g.id = some x) (hw : x.kind = .workload) :
    (b.gpuState cfg now g).1 ≠ .available := by
  unfold Broker.gpuState
  cases hn : b.plant.nodeObservationError g with
  | some e => simp
  | none =>
  simp only
  split
  · simp
  cases ht : b.plant.telemetry? g.id with
  | none => simp
  | some t =>
  simp only
  split
  · simp
  split
  · simp
  rw [hx]
  unfold Broker.heldGpuState
  simp only [hw]
  split
  · simp
  split
  · simp
  split
  · rename_i hkeep
    cases hkeep
  split
  · simp
  · split <;> simp

/-- A card a claim may have is on no claim. -/
theorem exclusion_none {g : GPUDevice} {x : Lease}
    (h : b.exclusion cfg now c false g = none)
    (hx : b.ledger.activeLeaseForGpu g.id = some x) : x.kind ≠ .workload := by
  intro hw
  obtain ⟨-, -, -, e, -, -, -, -, hstate⟩ := exclusion_eq_none.1 h
  unfold Broker.stateExclusion at hstate
  have hkeep : (b.ledger.activeLeaseForGpu g.id).filter (fun l => l.kind = .keepalive) = none := by
    rw [hx]
    simp [Option.filter, hw]
  simp only [hkeep] at hstate
  rw [if_pos (gpuState_ne_available hx hw)] at hstate
  cases hstate

/-- The cards a claim may have are no lease's that does work. -/
theorem not_mem_cards_of_eligible (hk : Kept b) {g : GPUDevice} {x : Lease}
    (hg : g ∈ b.eligibleGpus cfg now c) (hx : b.ledger.lease? x.id = some x)
    (hw : x.kind = .workload) : ∀ r ∈ b.ledger.cards x.id, r.gpuId ≠ g.id := by
  intro r hr he
  obtain ⟨hm, hid, ha⟩ := mem_cards.1 hr
  have hlease := hk.activeLeaseForGpu_of_row hm ha
  rw [he, hid, hx] at hlease
  exact exclusion_none (mem_eligibleGpus.1 hg).2 hlease hw

/-! ## What a resize counts -/

section

variable {actor : ActorContext} {leaseId : String} {resp : Response} {token : String → String}

/-- The cards a lease gives back are its own. -/
theorem returnedCards_subset (b : Broker) (leaseId : String) (names : List String) :
    (b.returnedCards leaseId names).toFinset ⊆ (b.ledger.folio leaseId).cardSet := by
  intro g hg
  obtain ⟨r, hr, rfl⟩ := List.mem_map.1 (List.mem_toFinset.1 hg)
  obtain ⟨name, -, hn⟩ := List.mem_filterMap.1 hr
  refine mem_cardSet.2 ⟨r, ?_, rfl⟩
  unfold Plant.cardNamed at hn
  rcases Option.or_eq_some_iff.1 hn with h | ⟨-, h⟩
  · exact List.mem_reverse.1 (List.mem_of_find?_eq_some h)
  · exact List.mem_of_find?_eq_some h

/-- A resize that only gives cards back. -/
theorem resize_returns (hb : Intact b) {names : List String}
    (h : resizeLease cfg now actor leaseId none names none token b = .ok (b', resp)) :
    (b'.ledger.cards leaseId).length + (b.returnedCards leaseId names).toFinset.card =
      (b.ledger.cards leaseId).length := by
  obtain ⟨x, taken, added, d, hx, -, -, -, -, -, -, hadd, -, hi, rfl⟩ := resizeLease_ok h
  obtain rfl := lease?_id hx
  rcases addCards_ok hadd with ⟨-, rfl, rfl⟩ | ⟨r, hr, -⟩
  case inr => cases hr
  have hsub := returnedCards_subset b x.id names
  set removed := b.returnedCards x.id names
  rw [← card_cardSet hb.leaseGpu, ← card_cardSet hi.leaseGpu,
    ← Finset.card_sdiff_add_card_eq_card hsub]
  refine congrArg (· + removed.toFinset.card) (congrArg Finset.card ?_)
  refine (cardSet_resized token now).trans ?_
  exact cardSet_returnCards (l := b.ledger.bumpRevision)

/-- A resize that only takes cards in, on one host. -/
theorem resize_takes (hk : Kept b) {r : RequestCreate} (hs : r.constraints.sameHost = true)
    (hp : r.constraints.gpusPerNode = none) (he : r.constraints.placement ≠ .exact)
    (h : resizeLease cfg now actor leaseId (some r) [] none token b = .ok (b', resp)) :
    (b'.ledger.cards leaseId).length =
      (b.ledger.cards leaseId).length + r.constraints.gpuCount := by
  obtain ⟨x, taken, added, d, hx, hw, -, -, -, -, -, hadd, -, hi, rfl⟩ := resizeLease_ok h
  obtain rfl := lease?_id hx
  have hret : b.returnedCards x.id [] = [] := rfl
  rw [hret] at hadd hi ⊢
  have hreturn : b.ledger.bumpRevision.returnCards x.id [] actor.id now = b.ledger.bumpRevision :=
    rfl
  rw [hreturn] at hadd
  obtain ⟨ht, -⟩ := addCards_taking hadd
  rcases addCards_ok hadd with ⟨hr, -⟩ | ⟨r', hr, hsel, -⟩
  case inl => cases hr
  obtain rfl := Option.some.inj hr
  have hk' : Kept ⟨b.plant, b.ledger.bumpRevision⟩ := ⟨hk.intact.bumpRevision, hk.wellkept⟩
  obtain ⟨hlen, hmem⟩ := selectInGroupPartitions_spec r.constraints_valid hsel
  have hgpus : b.plant.gpus.Nodup := List.Nodup.of_map _ hk.intact.gpuPk
  have hn : added.Nodup := nodup_inGroupPartitions hs hp he
    (((List.perm_insertionSort _ _).nodup_iff.2 hgpus).filter _) hsel
  have hids : (added.map GPUDevice.id).Nodup := by
    refine List.Nodup.map_on (fun g hg g' hg' heq => ?_) hn
    exact List.inj_on_of_nodup_map hk.intact.gpuPk (mem_eligibleGpus.1 (hmem g hg)).1
      (mem_eligibleGpus.1 (hmem g' hg')).1 heq
  -- what is taken in is not the lease's yet
  have hdisjoint : Disjoint (b.ledger.folio x.id).cardSet (added.map GPUDevice.id).toFinset := by
    refine Finset.disjoint_left.2 fun g hg hg' => ?_
    obtain ⟨row, hrow, rfl⟩ := mem_cardSet.1 hg
    obtain ⟨card, hcard, heq⟩ := List.mem_map.1 (List.mem_toFinset.1 hg')
    exact not_mem_cards_of_eligible hk' (hmem card hcard) hx hw row hrow heq.symm
  have hset : ((taken.resized x (decide (([] : List String) = [])) token now).ledger.folio
      x.id).cardSet = (b.ledger.folio x.id).cardSet ∪ (added.map GPUDevice.id).toFinset :=
    (cardSet_resized token now).trans ht.cards
  rw [← card_cardSet hk.intact.leaseGpu, ← card_cardSet hi.leaseGpu]
  refine (congrArg Finset.card hset).trans ?_
  rw [Finset.card_union_of_disjoint hdisjoint, List.toFinset_card_of_nodup hids, List.length_map,
    hlen]

end

/-! ## The call -/

/-- A request made from a lease is for cards of one host. -/
theorem resizeRequestData_ok {actor : ActorContext} {leaseId : String} {addCount : ℕ}
    {serverId serverGroupId : Option String} {r : RequestCreate}
    (h : b.resizeRequestData actor leaseId addCount serverId serverGroupId = .ok r) :
    r.constraints.gpuCount = addCount ∧ r.constraints.sameHost = true ∧
      r.constraints.gpusPerNode = none ∧ r.constraints.placement ≠ .exact := by
  unfold Broker.resizeRequestData at h
  simp only [bind_ok] at h
  obtain ⟨lease, -, h⟩ := h
  split at h
  · obtain rfl := pure_ok.1 h
    unfold Broker.resizeConstraints
    split
    · exact ⟨rfl, rfl, rfl, by simp⟩
    · exact ⟨rfl, rfl, rfl, by simp⟩
    · exact ⟨rfl, rfl, rfl, by simp⟩
  · simp at h

/-- What a call plans: so many cards more, or so many of the idle ones back. -/
theorem plan_change {body : ApplyBody} {actor : ActorContext} {h : TaskHolding}
    {add : Option RequestCreate} {back : List String}
    (hp : body.plan actor h b = .ok (.change add back)) :
    (h.gpuCount < body.gpuCount ∧ back = [] ∧ ∃ r : RequestCreate, add = some r ∧
      h.gpuCount + r.constraints.gpuCount = body.gpuCount ∧ r.constraints.sameHost = true ∧
      r.constraints.gpusPerNode = none ∧ r.constraints.placement ≠ .exact) ∨
    (body.gpuCount < h.gpuCount ∧ add = none ∧ body.gpuCount + back.length = h.gpuCount) := by
  unfold ApplyBody.plan at hp
  by_cases heq : body.gpuCount = h.gpuCount
  · rw [if_pos heq, pure_ok] at hp
    cases hp
  rw [if_neg heq] at hp
  simp only [bind_ok] at hp
  obtain ⟨-, -, hp⟩ := hp
  by_cases hlt : h.gpuCount < body.gpuCount
  · rw [if_pos hlt] at hp
    simp only [bind_ok, pure_ok, Plan.change.injEq] at hp
    obtain ⟨r, hr, rfl, rfl⟩ := hp
    obtain ⟨hcount, hhost, hnodes, hplace⟩ := resizeRequestData_ok hr
    exact Or.inl ⟨hlt, rfl, r, rfl, by omega, hhost, hnodes, hplace⟩
  · rw [if_neg hlt] at hp
    simp only [bind_ok, require_ok, pure_ok, Plan.change.injEq] at hp
    obtain ⟨-, hle, rfl, rfl⟩ := hp
    refine Or.inr ⟨by omega, rfl, ?_⟩
    rw [List.length_take]
    omega

namespace Redeclaration

variable {r : Redeclaration} {response : Response}

/-- When the resize runs the lease has as many cards as were counted when the call began (the names
of the cards it gives back stand for one card each). -/
def undisturbed (cfg : Config) (r : Redeclaration) (b : Broker) : Prop :=
  ((r.meets cfg b).ledger.cards r.holding.leaseId).length + r.removeGpuIds.length =
    r.holding.gpuCount +
      ((r.meets cfg b).returnedCards r.holding.leaseId r.removeGpuIds).toFinset.card

instance (cfg : Config) (r : Redeclaration) (b : Broker) : Decidable (r.undisturbed cfg b) :=
  inferInstanceAs (Decidable (_ = _))

theorem meets_kept (hb : Reachable cfg b) : Kept (r.meets cfg b) :=
  run_kept cfg r.after (run_kept cfg r.before hb.kept)

end Redeclaration

/-- **A changed lease has the cards declared**, at the moment the resize of the call commits,
exactly when nothing in between changed how many it has. -/
theorem redeclared_iff {r : Redeclaration} {response : Response} (hb : Reachable cfg b)
    (h : r.Commits cfg b b' response) :
    (b'.ledger.cards r.holding.leaseId).length = r.body.gpuCount ↔ r.undisturbed cfg b := by
  have hk := r.meets_kept hb
  have ha := h.accepted
  change resizeLease _ _ _ _ _ _ _ _ _ = _ at ha
  unfold Redeclaration.undisturbed
  rcases plan_change h.planned with ⟨hlt, hback, q, hadd, hcount, hhost, hnodes, hplace⟩ |
    ⟨hlt, hadd, hcount⟩
  · -- more cards: as many as it has, and the difference on top
    rw [hadd, hback] at ha
    have hnone : ((r.meets cfg b).returnedCards r.holding.leaseId []).toFinset.card = 0 := rfl
    rw [resize_takes hk hhost hnodes hplace ha, hback, hnone]
    simp only [List.length_nil, Nat.add_zero]
    omega
  · -- fewer cards: as many as it has, less those given back
    rw [hadd] at ha
    have hreturned := resize_returns hk.intact ha
    omega

/-- Nothing has disturbed a call if what others commit meanwhile leaves the number of the lease's
cards, and no card of the lease goes by another's name. -/
theorem undisturbed_of_still {r : Redeclaration}
    (hheld : r.holding.gpuCount = (b.ledger.cards r.holding.leaseId).length)
    (hstill : Run.Along (exec cfg) (fun s op =>
      ((exec cfg s op).ledger.cards r.holding.leaseId).length =
        (s.ledger.cards r.holding.leaseId).length) b (r.before ++ r.after))
    (hnames : ((r.meets cfg b).returnedCards r.holding.leaseId r.removeGpuIds).toFinset.card =
      r.removeGpuIds.length) : r.undisturbed cfg b := by
  have hcount : ((r.meets cfg b).ledger.cards r.holding.leaseId).length =
      (b.ledger.cards r.holding.leaseId).length := by
    unfold Redeclaration.meets
    rw [← Run.run_append]
    exact Run.run_inv (I := fun s => (s.ledger.cards r.holding.leaseId).length =
      (b.ledger.cards r.holding.leaseId).length) (fun s op hs ho => ho.trans hs) rfl hstill
  unfold Redeclaration.undisturbed
  rw [hcount, hheld, hnames]

/-! ## A call sent twice -/

/-- A task with a card on `alpha`, and two free cards on `beta`. -/
def taskOnAlpha : Broker :=
  Run.run (exec plainConfig) sampleFleet
    [.ingestObservation 0 (lookAtOne "alpha" "GPU-0" 0 []) sampleToken,
     .ingestObservation 0 (lookAtTwo "beta" "GPU-1" "GPU-2" (by decide) 0 []) sampleToken,
     .createRequest 0 (sampleActor "ann") oneCard none true "lease" (sampleToken "lease")]

theorem taskOnAlpha_reachable : Reachable plainConfig taskOnAlpha := ⟨_, sampleFleet_seeded, _, rfl⟩

theorem lab_len : 1 ≤ "lab".length ∧ "lab".length ≤ 64 := by decide

theorem train_len : 1 ≤ "train".length ∧ "train".length ≤ 255 := by decide

theorem two_bounds : 1 ≤ 2 ∧ 2 ≤ 1024 := by decide

/-- Its session declares two cards, the second on `beta`. -/
def declareTwo : ApplyBody :=
  { project := "lab", task := "train", gpuCount := 2, serverId := some "beta", change := true
    project_len := lab_len, task_len := train_len, gpuCount_bounds := two_bounds }

/-- One more card, on `beta`. -/
def oneOnBeta : RequestCreate :=
  sampleRequest { gpuCount := 1, sameHost := true, endpointIds := ["beta"] } (by decide)

/-- The call, with what is committed before its resize runs. -/
def declaration (after : List Op) : Redeclaration :=
  { body := declareTwo, actor := sampleActor "ann"
    holding := { leaseId := "lease", mine := true, gpuCount := 1 }
    before := [], after, addRequest := some oneOnBeta, removeGpuIds := [], now := 0
    token := sampleToken "lease" }

/-- A request is what is stored of it. -/
theorem RequestCreate.eq_of_dump {r r' : RequestCreate} (h : r.dump = r'.dump) : r = r' := by
  cases r
  cases r'
  simp only [RequestCreate.dump, RequestJson.mk.injEq, Option.some.injEq] at h
  obtain ⟨rfl, rfl, rfl, rfl, rfl⟩ := h
  rfl

/-- The call reads one card, and asks for one more. -/
theorem declareTwo_plans : declareTwo.plan (sampleActor "ann")
    { leaseId := "lease", mine := true, gpuCount := 1 } taskOnAlpha =
      .ok (.change (some oneOnBeta) []) := by
  have hdata : ((taskOnAlpha.resizeRequestData (sampleActor "ann") "lease" 1 (some "beta")
      none).toOption.map RequestCreate.dump) = some oneOnBeta.dump := by decide +kernel
  cases hr : taskOnAlpha.resizeRequestData (sampleActor "ann") "lease" 1 (some "beta") none with
  | error e =>
    rw [hr] at hdata
    cases hdata
  | ok r =>
    rw [hr] at hdata
    obtain rfl := RequestCreate.eq_of_dump (Option.some.inj hdata)
    have hnext :
        declareTwo.plan (sampleActor "ann") { leaseId := "lease", mine := true, gpuCount := 1 }
        taskOnAlpha = (do
          let data ← taskOnAlpha.resizeRequestData (sampleActor "ann") "lease" 1 (some "beta") none
          pure (.change (some data) [])) := rfl
    rw [hnext, hr]
    rfl

/-- The call commits, whatever came before its resize, if the resize is accepted then. -/
theorem declaration_commits (after : List Op)
    (hok : (((declaration after).resize.apply plainConfig
      ((declaration after).meets plainConfig taskOnAlpha))).toOption.isSome = true) :
    ∃ b' response, (declaration after).Commits plainConfig taskOnAlpha b' response := by
  cases ha : (declaration after).resize.apply plainConfig
      ((declaration after).meets plainConfig taskOnAlpha) with
  | error e =>
    rw [ha] at hok
    cases hok
  | ok p =>
    refine ⟨p.1, p.2, ?_, ⟨0, none, rfl, by simp⟩, declareTwo_plans, ha⟩
    show taskOnAlpha.taskHolding (sampleActor "ann") "lab" "train" =
      some { leaseId := "lease", mine := true, gpuCount := 1 }
    decide +kernel

/-- Alone, the call ends with two cards. -/
theorem declaration_alone : ∃ b' response,
    (declaration []).Commits plainConfig taskOnAlpha b' response ∧
      (b'.ledger.cards "lease").length = 2 := by
  obtain ⟨b', response, h⟩ := declaration_commits [] (by decide +kernel)
  exact ⟨b', response, h, (redeclared_iff taskOnAlpha_reachable h).2 (by decide +kernel)⟩

/-- **A call sent twice takes twice the difference**: both answer success, and the lease ends with
three cards where two were declared. -/
theorem declared_twice :
    ¬ ∀ b, Reachable plainConfig b → ∀ (r : Redeclaration) b' response,
      r.Commits plainConfig b b' response →
        (b'.ledger.cards r.holding.leaseId).length = r.body.gpuCount := by
  intro h
  obtain ⟨b', response, hc⟩ := declaration_commits [(declaration []).resize] (by decide +kernel)
  have htwo := h _ taskOnAlpha_reachable _ _ _ hc
  have hthree : ∀ p ∈ ((declaration [(declaration []).resize]).resize.apply plainConfig
      ((declaration [(declaration []).resize]).meets plainConfig taskOnAlpha)).toOption,
      (p.1.ledger.cards "lease").length = 3 := by decide +kernel
  have he := hthree (b', response) (by rw [hc.accepted]; rfl)
  rw [show (b'.ledger.cards "lease").length = 2 from htwo] at he
  cases he

end ServerPilot
