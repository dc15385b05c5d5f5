import ServerPilot.Proof.Fleet
import ServerPilot.Proof.Select
import ServerPilot.Spec.Handoff

/-!
# Which endpoints a claim locks

The allocator scopes a request by its server groups and looks at the pinned
endpoints only when there are none; the lock set looks at the pinned endpoints
first. `locks_suffice` says when the two come to the same.
-/

namespace ServerPilot

open Rows Checked

variable {cfg : Config} {now : Time} {b : Broker} {c : ResourceConstraints} {e : Endpoint}
  {g : GPUDevice} {reclaim : Bool}

/-! ## The scope of a request -/

/-- The request without its placement scope. -/
def ResourceConstraints.unscoped (c : ResourceConstraints) : ResourceConstraints :=
  { c with endpointIds := [], serverGroupIds := [] }

/-- The endpoint is one the allocator looks at: groups first, pins only without them. -/
def ResourceConstraints.reaches (c : ResourceConstraints) (e : Endpoint) : Prop :=
  if c.serverGroupIds ≠ [] then ∃ x ∈ e.serverGroupId, x ∈ c.serverGroupIds
  else c.endpointIds = [] ∨ e.id ∈ c.endpointIds

/-- The endpoint is one the lock set looks at: pins first, groups only without them. -/
def ResourceConstraints.names (c : ResourceConstraints) (e : Endpoint) : Prop :=
  if c.endpointIds ≠ [] then e.id ∈ c.endpointIds
  else c.serverGroupIds = [] ∨ ∃ x ∈ e.serverGroupId, x ∈ c.serverGroupIds

theorem any_contains {o : Option String} {l : List String} :
    (o.any fun x => l.contains x) = true ↔ ∃ x ∈ o, x ∈ l := by
  cases o <;> simp

theorem endpointExclusion_none :
    endpointExclusion c e = none ↔ endpointExclusion c.unscoped e = none ∧ c.reaches e := by
  unfold endpointExclusion ResourceConstraints.reaches
  by_cases hl : e.observationProfile ≠ "linux"
  · simp [hl]
  rw [if_neg hl, if_neg hl, ← any_contains]
  by_cases hg : c.serverGroupIds ≠ []
  · rw [if_pos hg, if_pos hg]
    cases hm : e.serverGroupId.any fun x => c.serverGroupIds.contains x with
    | false => simp
    | true => by_cases hd : e.id ∈ c.denyEndpointIds <;> simp [ResourceConstraints.unscoped, hd]
  · rw [if_neg hg, if_neg hg]
    by_cases hp : c.endpointIds ≠ [] ∧ e.id ∉ c.endpointIds
    · have hr : ¬ (c.endpointIds = [] ∨ e.id ∈ c.endpointIds) := fun h => h.elim hp.1 hp.2
      rw [if_pos hp]
      simp [hr]
    · have hr : c.endpointIds = [] ∨ e.id ∈ c.endpointIds := by
        by_contra h
        exact hp ⟨fun h' => h (Or.inl h'), fun h' => h (Or.inr h')⟩
      rw [if_neg hp]
      by_cases hd : e.id ∈ c.denyEndpointIds <;> simp [ResourceConstraints.unscoped, hr, hd]

theorem orElse_none {α : Type} {o r : Option α} :
    (o.orElse fun _ => r) = none ↔ o = none ∧ r = none := by
  cases o <;> simp

/-- **The filter without its scope.** A card passes the allocator's filter when it passes the
unscoped one and its endpoint is in reach. -/
theorem exclusion_unscoped (he : b.plant.endpoint? g.endpointId = some e) :
    b.exclusion cfg now c reclaim g = none ↔
      b.exclusion cfg now c.unscoped reclaim g = none ∧ c.reaches e := by
  unfold Broker.exclusion
  simp only [he]
  by_cases hp : (!g.present) = true
  · simp [hp]
  by_cases hu : b.uuidLeasedElsewhere g = true
  · simp [hp, hu]
  by_cases hc : g.cudaOrdinal = none
  · simp [hp, hu, hc]
  rw [if_neg hp, if_neg hu, if_neg hc, if_neg hp, if_neg hu, if_neg hc,
    orElse_none (o := endpointExclusion c e), orElse_none (o := endpointExclusion c.unscoped e),
    endpointExclusion_none]
  -- what follows the scope reads the same fields of both requests
  exact and_right_comm

/-! ## The lock set -/

/-- The collector reads the row as a configuration. -/
def Plant.readable (p : Plant) (e : Endpoint) : Prop := (p.endpointFields e).Valid

theorem mem_collectorEndpoints {p : Plant} {f : EndpointConfig} :
    f ∈ p.collectorEndpoints ↔ ∃ e ∈ p.endpoints, p.readable e ∧ p.endpointFields e = f.val := by
  unfold Plant.collectorEndpoints
  rw [List.mem_filterMap]
  constructor
  · rintro ⟨e, he, hf⟩
    split at hf
    · rename_i hv
      cases hf
      exact ⟨e, (List.mem_insertionSort _).1 he, hv, rfl⟩
    · cases hf
  · rintro ⟨e, he, hv, hf⟩
    refine ⟨e, (List.mem_insertionSort _).2 he, ?_⟩
    have hv' : (p.endpointFields e).Valid := hv
    rw [dif_pos hv']
    exact congrArg some (Subtype.ext hf)

/-- **The lock set**, row by row: readable, with an adapter, and named. -/
theorem mem_candidates {r : RequestCreate} {p : Plant} {id : String} :
    id ∈ claimCandidateEndpointIds r p.collectorEndpoints ↔
      ∃ e ∈ p.endpoints, e.id = id ∧ e.keepaliveAdapterId.isSome = true ∧ p.readable e ∧
        r.constraints.names e := by
  have hscope : id ∈ claimCandidateEndpointIds r p.collectorEndpoints ↔
      ∃ f ∈ p.collectorEndpoints, f.val.id = id ∧ f.val.keepaliveAdapterId.isSome = true ∧
        (if r.constraints.endpointIds ≠ [] then f.val.id ∈ r.constraints.endpointIds
          else r.constraints.serverGroupIds = [] ∨
            ∃ x ∈ f.val.serverGroupId, x ∈ r.constraints.serverGroupIds) := by
    unfold claimCandidateEndpointIds
    by_cases hp : r.constraints.endpointIds ≠ []
    · simp only [if_pos hp, List.mem_map, List.mem_filter, decide_eq_true_eq]
      constructor
      · rintro ⟨f, ⟨⟨hf, ha⟩, hn⟩, rfl⟩
        exact ⟨f, hf, rfl, ha, hn⟩
      · rintro ⟨f, hf, rfl, ha, hn⟩
        exact ⟨f, ⟨⟨hf, ha⟩, hn⟩, rfl⟩
    by_cases hg : r.constraints.serverGroupIds ≠ []
    · simp only [if_neg hp, if_pos hg, List.mem_map, List.mem_filter, any_contains, hg, false_or]
      constructor
      · rintro ⟨f, ⟨⟨hf, ha⟩, hn⟩, rfl⟩
        exact ⟨f, hf, rfl, ha, hn⟩
      · rintro ⟨f, hf, rfl, ha, hn⟩
        exact ⟨f, ⟨⟨hf, ha⟩, hn⟩, rfl⟩
    · have hg' : r.constraints.serverGroupIds = [] := not_not.1 hg
      simp only [if_neg hp, hg', ne_eq, not_true_eq_false, if_false, List.mem_map, List.mem_filter,
        true_or, and_true]
      constructor
      · rintro ⟨f, ⟨hf, ha⟩, rfl⟩
        exact ⟨f, hf, rfl, ha⟩
      · rintro ⟨f, hf, rfl, ha⟩
        exact ⟨f, ⟨hf, ha⟩, rfl⟩
  rw [hscope]
  constructor
  · rintro ⟨f, hf, hid, ha, hn⟩
    obtain ⟨e, he, hv, hfe⟩ := mem_collectorEndpoints.1 hf
    rw [← hfe] at hid ha hn
    exact ⟨e, he, hid, ha, hv, hn⟩
  · rintro ⟨e, he, hid, ha, hv, hn⟩
    exact ⟨⟨p.endpointFields e, hv⟩, mem_collectorEndpoints.2 ⟨e, he, hv, rfl⟩, hid, ha, hn⟩

/-! ## Coverage -/

/-- A card of this endpoint is one the allocator, or the reclaim planner, may pick. -/
def Broker.mayPick (cfg : Config) (now : Time) (b : Broker) (c : ResourceConstraints)
    (endpointId : String) : Prop :=
  ∃ reclaim, ∃ g ∈ b.eligibleGpus cfg now c reclaim, g.endpointId = endpointId

/-- Every endpoint with a keeper adapter of which a card may be picked is locked. -/
def LockCovered (cfg : Config) (now : Time) (b : Broker) (r : RequestCreate) : Prop :=
  ∀ e ∈ b.plant.endpoints, e.keepaliveAdapterId.isSome = true →
    b.mayPick cfg now r.constraints e.id →
      e.id ∈ claimCandidateEndpointIds r b.plant.collectorEndpoints

/-- Reach and names agree where it matters: on the endpoints with a keeper adapter and a card that
passes the rest of the filter, whose rows must be readable as well. -/
def ScopesAgree (cfg : Config) (now : Time) (b : Broker) (c : ResourceConstraints) : Prop :=
  ∀ e ∈ b.plant.endpoints, e.keepaliveAdapterId.isSome = true → c.reaches e →
    (∃ reclaim, ∃ g ∈ b.plant.gpus, g.endpointId = e.id ∧
      b.exclusion cfg now c.unscoped reclaim g = none) →
    b.plant.readable e ∧ (c.serverGroupIds ≠ [] → c.endpointIds ≠ [] → e.id ∈ c.endpointIds)

/-- What the allocator reaches, the locks name, unless the request both pins and groups. -/
theorem names_of_reaches (h : c.reaches e) :
    c.names e ↔ (c.serverGroupIds ≠ [] → c.endpointIds ≠ [] → e.id ∈ c.endpointIds) := by
  unfold ResourceConstraints.reaches at h
  unfold ResourceConstraints.names
  by_cases hg : c.serverGroupIds ≠ []
  · rw [if_pos hg] at h
    by_cases hp : c.endpointIds ≠ []
    · rw [if_pos hp]
      exact ⟨fun hm _ _ => hm, fun hm => hm hg hp⟩
    · rw [if_neg hp]
      exact ⟨fun _ _ hp' => absurd hp' hp, fun _ => Or.inr h⟩
  · rw [if_neg hg] at h
    by_cases hp : c.endpointIds ≠ []
    · rw [if_pos hp]
      have hm : e.id ∈ c.endpointIds := h.resolve_left hp
      exact ⟨fun _ hg' _ => absurd hg' hg, fun _ => hm⟩
    · rw [if_neg hp]
      exact ⟨fun _ hg' _ => absurd hg' hg, fun _ => Or.inl (not_not.1 hg)⟩

/-- An endpoint a card may be picked of: in reach, and the card passes the rest of the filter. -/
theorem mayPick_iff (hb : Intact b) (he : e ∈ b.plant.endpoints) :
    b.mayPick cfg now c e.id ↔ c.reaches e ∧ ∃ reclaim, ∃ g ∈ b.plant.gpus,
      g.endpointId = e.id ∧ b.exclusion cfg now c.unscoped reclaim g = none := by
  have hrow : b.plant.endpoint? e.id = some e := row?_of_mem hb.endpointPk he
  constructor
  · rintro ⟨reclaim, g, hg, hid⟩
    obtain ⟨hm, hx⟩ := mem_eligibleGpus.1 hg
    have hx := (exclusion_unscoped (hid ▸ hrow)).1 hx
    exact ⟨hx.2, reclaim, g, hm, hid, hx.1⟩
  · rintro ⟨hr, reclaim, g, hm, hid, hx⟩
    exact ⟨reclaim, g, mem_eligibleGpus.2 ⟨hm, (exclusion_unscoped (hid ▸ hrow)).2 ⟨hx, hr⟩⟩, hid⟩

/-- What the allocator selects it may pick. -/
theorem selected_mayPick {gpus : List GPUDevice} (hv : c.Valid)
    (h : b.plant.selectInGroupPartitions (b.eligibleGpus cfg now c reclaim) c = some gpus) :
    ∀ g ∈ gpus, b.mayPick cfg now c g.endpointId := by
  intro g hg
  exact ⟨reclaim, g, mem_eligibleGpus.2 ((selected_eligible hv h).2 g hg), rfl⟩

/-- A transition names the keeper of the card it was made for. -/
theorem reclaimTransition_some {t : ReclaimTarget}
    (h : b.reclaimTransition cfg now g = some (some t)) :
    t.endpointId = g.endpointId ∧ t.gpuId = g.id ∧
      ∃ l, b.ledger.activeLeaseForGpu g.id = some l ∧ l.kind = .keepalive ∧ t.leaseId = l.id := by
  unfold Broker.reclaimTransition at h
  split at h
  · cases h
  · rename_i l hl
    obtain ⟨hactive, hkind⟩ := Option.filter_eq_some_iff.1 hl
    split at h
    · cases h
    · cases h
      exact ⟨rfl, rfl, l, hactive, of_decide_eq_true hkind, rfl⟩

/-- A transition of the plan was made for a card the planner selected. -/
theorem plan_selected {r : RequestCreate} {t : ReclaimTarget}
    (ht : t ∈ (planKeepaliveReclaim cfg now r b).transitions) :
    ∃ gpus, b.plant.selectInGroupPartitions (b.eligibleGpus cfg now r.constraints true)
        r.constraints = some gpus ∧
      ∃ g ∈ gpus, b.reclaimTransition cfg now g = some (some t) := by
  unfold planKeepaliveReclaim at ht
  simp only at ht
  split at ht
  · cases ht
  rename_i selected hsel
  split at ht
  · cases ht
  rename_i transitions hmap
  obtain ⟨o, ho, hto⟩ := List.mem_filterMap.1 ht
  obtain ⟨i, hi, hget⟩ := List.mem_iff_getElem.1 ho
  have hf := mapM_some hmap
  have hlen : i < selected.length := hf.length_eq ▸ hi
  have hcard : b.reclaimTransition cfg now selected[i] = some (some t) :=
    (hf.get hlen hi).trans (congrArg some (hget.trans hto))
  exact ⟨selected, hsel, selected[i], List.getElem_mem hlen, hcard⟩

/-- What the planner would stop, it found on endpoints a card may be picked of. -/
theorem plan_mayPick {r : RequestCreate} {t : ReclaimTarget}
    (ht : t ∈ (planKeepaliveReclaim cfg now r b).transitions) :
    b.mayPick cfg now r.constraints t.endpointId := by
  obtain ⟨gpus, hsel, g, hg, hcard⟩ := plan_selected ht
  rw [(reclaimTransition_some hcard).1]
  exact selected_mayPick r.constraints_valid hsel g hg

/-- **Lock coverage.** Every endpoint with a keeper adapter of which a card may be picked is locked
exactly when the two scopes agree; and cards are picked there alone, by the allocator and by the
planner. -/
theorem locks_suffice (hb : Intact b) (r : RequestCreate) :
    (LockCovered cfg now b r ↔ ScopesAgree cfg now b r.constraints) ∧
      (∀ reclaim gpus, b.plant.selectInGroupPartitions
          (b.eligibleGpus cfg now r.constraints reclaim) r.constraints = some gpus →
        ∀ g ∈ gpus, b.mayPick cfg now r.constraints g.endpointId) ∧
      ∀ t ∈ (planKeepaliveReclaim cfg now r b).transitions,
        b.mayPick cfg now r.constraints t.endpointId := by
  refine ⟨?_, fun reclaim gpus hsel => selected_mayPick r.constraints_valid hsel,
    fun t ht => plan_mayPick ht⟩
  constructor
  · intro h e he ha hr hcard
    obtain ⟨e', he', hid, -, hv, hn⟩ :=
      mem_candidates.1 (h e he ha ((mayPick_iff hb he).2 ⟨hr, hcard⟩))
    have heq : e' = e := List.inj_on_of_nodup_map hb.endpointPk he' he hid
    subst heq
    exact ⟨hv, (names_of_reaches hr).1 hn⟩
  · intro h e he ha hp
    obtain ⟨hr, hcard⟩ := (mayPick_iff hb he).1 hp
    obtain ⟨hv, hpin⟩ := h e he ha hr hcard
    exact mem_candidates.2 ⟨e, he, rfl, ha, hv, (names_of_reaches hr).2 hpin⟩

/-! ## A pinned request of a group -/

/-- Two servers of one group. -/
def rackFleet : Broker :=
  .fleet [⟨"rack", "/work"⟩]
    [{ sampleServer "alpha" 22 with serverGroupId := some "rack" },
      { sampleServer "beta" 23 with serverGroupId := some "rack" }] []

theorem rackFleet_seeded : Seeded rackFleet :=
  fleet_seeded _ (by decide) (by decide) (by decide)

/-- The fleet once a free card was seen on `beta`. -/
def rackSeen : Broker :=
  Run.run (exec plainConfig) rackFleet
    [.ingestObservation 0 (lookAtOne "beta" "GPU-1" 0 []) sampleToken]

theorem rackSeen_reachable : Reachable plainConfig rackSeen :=
  ⟨rackFleet, rackFleet_seeded, _, rfl⟩

theorem pinnedConstraints_valid : ResourceConstraints.Valid
    { gpuCount := 1, endpointIds := ["alpha"], serverGroupIds := ["rack"] } := by decide

/-- A claim of one card of the group, pinned to `alpha`. -/
def pinnedRequest : RequestCreate := sampleRequest _ pinnedConstraints_valid

/-- With neither pin nor group, both servers are locked. -/
theorem locks_suffice_one : LockCovered plainConfig 0 rackSeen oneCard :=
  (locks_suffice (Reachable.kept rackSeen_reachable).intact oneCard).1.2 <| by
    intro e he _ _ _
    have hread : ∀ e ∈ rackSeen.plant.endpoints, (rackSeen.plant.endpointFields e).Valid := by
      decide +kernel
    exact ⟨hread e he, fun h => absurd rfl h⟩

/-- The allocator takes the card of `beta`, and only `alpha` is locked. -/
theorem pinned_unlocked :
    ¬ ∀ (cfg : Config) (now : Time) (b : Broker) (r : RequestCreate), Reachable cfg b →
      LockCovered cfg now b r := by
  intro hall
  have hpick : (rackSeen.eligibleGpus plainConfig 0 pinnedRequest.constraints).any
      (fun g => g.endpointId = "beta") = true := by decide +kernel
  obtain ⟨g, hg, hid⟩ := List.any_eq_true.1 hpick
  have hbeta : { sampleServer "beta" 23 with serverGroupId := some "rack" } ∈
      rackSeen.plant.endpoints := by decide +kernel
  have hlocked := hall plainConfig 0 rackSeen pinnedRequest rackSeen_reachable _ hbeta rfl
    ⟨false, g, hg, of_decide_eq_true hid⟩
  have hcandidates : claimCandidateEndpointIds pinnedRequest rackSeen.plant.collectorEndpoints =
      ["alpha"] := by decide +kernel
  rw [hcandidates] at hlocked
  exact absurd hlocked (by decide)

end ServerPilot
