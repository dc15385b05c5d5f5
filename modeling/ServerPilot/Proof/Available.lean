import ServerPilot.Proof.Derived
import ServerPilot.Proof.Select

/-!
# The cards shown free and the cards a claim may have

The console calls a card free by its derived state and its server's kind alone;
the allocator also asks whether another row of the same physical card is leased,
whether the card has a CUDA ordinal and whether its server is admitted card by
card. The two answers are one exactly when these say the same: `available_iff`.
-/

namespace ServerPilot

open Rows

variable {cfg : Config} {now : Time} {b : Broker} {endpointId : Option String} {g : GPUDevice}

/-- A request for one card, with no further wish. -/
def anyCard : ResourceConstraints := { gpuCount := 1 }

/-- The card's own row says free, with or without a keeper on it. -/
def Broker.rowFree (cfg : Config) (now : Time) (b : Broker) (g : GPUDevice) : Prop :=
  (b.gpuState cfg now g).1 = .available ∨ (b.gpuState cfg now g).1 = .keepalive

/-- What the allocator asks of a free card besides: no other row of it is leased, its CUDA ordinal
is known, and its server is admitted card by card. -/
def Broker.grantable (b : Broker) (g : GPUDevice) : Prop :=
  b.uuidLeasedElsewhere g = false ∧ g.cudaOrdinal ≠ none ∧
    (b.plant.endpoint? g.endpointId).any (fun e => decide (e.observationProfile = "linux")) = true

/-- A free card of a server whose admission is the broker's is grantable, and one of a delegated
server is not. -/
def Broker.offersTruly (cfg : Config) (now : Time) (b : Broker) (g : GPUDevice) : Prop :=
  b.rowFree cfg now g → (b.plant.schedulerManaged cfg g.endpointId = false ↔ b.grantable g)

instance : Decidable (b.rowFree cfg now g) := inferInstanceAs (Decidable (_ ∨ _))

instance : Decidable (b.grantable g) := inferInstanceAs (Decidable (_ ∧ _ ∧ _))

instance : Decidable (b.offersTruly cfg now g) := inferInstanceAs (Decidable (_ → _))

/-- What the console says of a published card. -/
theorem publiclyAvailable_iff (hk : Kept b) (hg : g ∈ b.visibleGpus endpointId) :
    b.publiclyAvailable cfg now (b.view cfg endpointId) g = true ↔
      b.plant.schedulerManaged cfg g.endpointId = false ∧ b.rowFree cfg now g := by
  have hdel := mem_delegatedIds cfg endpointId hk g.endpointId
  unfold Broker.publiclyAvailable Broker.rowFree
  rw [hk.deriveState_eq hg, Bool.and_eq_true, decide_eq_true_eq, decide_eq_true_eq, hdel,
    Bool.not_eq_true]

/-- A keeper whose worker is not in error has an active lease. -/
theorem keeper_active {l : Lease} (hkind : l.kind = .keepalive)
    (h : (b.keepaliveGpuStatus cfg now g (some l)).1 ≠ .error) : l.state = .active := by
  by_contra hact
  apply h
  unfold Broker.keepaliveGpuStatus
  simp only [Option.filter, hkind, decide_true, if_true]
  split
  · rfl
  split
  · rfl
  · rfl

/-- A keeper's card whose state says free or kept has an active, observed keeper. -/
theorem rowFree_keeper {l : Lease} (hf : b.rowFree cfg now g)
    (hl : b.ledger.activeLeaseForGpu g.id = some l) (hkeep : l.kind = .keepalive) :
    l.state = .active ∧ (b.keepaliveGpuStatus cfg now g (some l)).1 ≠ .error := by
  unfold Broker.rowFree Broker.gpuState at hf
  cases hn : b.plant.nodeObservationError g with
  | some e => simp [hn] at hf
  | none =>
  simp only [hn] at hf
  split at hf
  · simp at hf
  cases ht : b.plant.telemetry? g.id with
  | none => simp [ht] at hf
  | some t =>
  simp only [ht] at hf
  split at hf
  · simp at hf
  split at hf
  · simp at hf
  rw [hl] at hf
  unfold Broker.heldGpuState at hf
  simp only [hkeep, if_true] at hf
  split at hf
  · simp at hf
  split at hf
  · simp at hf
  -- the worker's status is the first thing asked
  cases hs : b.keepaliveGpuStatus cfg now g (some l) with
  | mk actual reason =>
    have hne : actual ≠ .error := by
      rintro rfl
      simp [hs] at hf
    have herr : (b.keepaliveGpuStatus cfg now g (some l)).1 ≠ .error := by
      rw [hs]
      exact hne
    exact ⟨keeper_active hkeep herr, hne⟩

/-- A card no keeper is on and whose state is kept does not exist. -/
theorem rowFree_workload (hf : b.rowFree cfg now g)
    (hl : (b.ledger.activeLeaseForGpu g.id).filter (fun l => l.kind = .keepalive) = none) :
    (b.gpuState cfg now g).1 = .available := by
  refine hf.resolve_right fun hkeep => ?_
  unfold Broker.gpuState at hkeep
  cases hn : b.plant.nodeObservationError g with
  | some e => simp [hn] at hkeep
  | none =>
  simp only [hn] at hkeep
  split at hkeep
  · simp at hkeep
  cases ht : b.plant.telemetry? g.id with
  | none => simp [ht] at hkeep
  | some t =>
  simp only [ht] at hkeep
  split at hkeep
  · simp at hkeep
  split at hkeep
  · simp at hkeep
  unfold Broker.heldGpuState at hkeep
  cases hx : b.ledger.activeLeaseForGpu g.id with
  | none =>
    simp only [hx] at hkeep
    split at hkeep
    · simp at hkeep
    split at hkeep <;> simp at hkeep
  | some l =>
    have hkind : l.kind ≠ .keepalive := by
      intro hk
      rw [hx] at hl
      simp [Option.filter, hk] at hl
    simp only [hx, hkind, if_false] at hkeep
    split at hkeep
    · simp at hkeep
    split at hkeep
    · simp at hkeep
    split at hkeep
    · simp at hkeep
    · split at hkeep <;> simp at hkeep

/-- The allocator's own reading of the card's state is the one the console has. -/
theorem stateExclusion_anyCard :
    b.stateExclusion cfg now anyCard true g = none ↔ b.rowFree cfg now g := by
  unfold Broker.stateExclusion
  simp only
  cases hf : (b.ledger.activeLeaseForGpu g.id).filter fun l => l.kind = .keepalive with
  | some l =>
    obtain ⟨hl, hkind⟩ := Option.filter_eq_some_iff.1 hf
    have hkeep : l.kind = .keepalive := by simpa using hkind
    simp only [Bool.not_true, Bool.false_eq_true, if_false]
    by_cases hr : b.rowFree cfg now g
    · obtain ⟨hact, herr⟩ := rowFree_keeper hr hl hkeep
      have hstate : ¬ ((b.gpuState cfg now g).1 ≠ .keepalive ∧
          (b.gpuState cfg now g).1 ≠ .available) := by
        rintro ⟨hk, ha⟩
        rcases hr with h | h
        · exact ha h
        · exact hk h
      rw [if_neg hstate, if_neg (by simp [hact, herr])]
      exact iff_of_true rfl hr
    · have hstate : (b.gpuState cfg now g).1 ≠ .keepalive ∧
          (b.gpuState cfg now g).1 ≠ .available :=
        ⟨fun h => hr (Or.inr h), fun h => hr (Or.inl h)⟩
      rw [if_pos hstate]
      exact iff_of_false (by simp) hr
  | none =>
    simp only [anyCard, Option.any_none, Bool.false_eq_true, if_false]
    by_cases hr : b.rowFree cfg now g
    · rw [if_neg (by simp [rowFree_workload hr hf])]
      exact iff_of_true rfl hr
    · have hstate : (b.gpuState cfg now g).1 ≠ .available := fun h => hr (Or.inl h)
      rw [if_pos hstate]
      exact iff_of_false (by simp) hr

/-- **The cards one plain request may have**, keepers' cards included. -/
theorem mem_eligible_anyCard (hg : g ∈ b.plant.gpus) (hp : g.present = true) :
    g ∈ b.eligibleGpus cfg now anyCard true ↔ b.grantable g ∧ b.rowFree cfg now g := by
  rw [mem_eligibleGpus, and_iff_right hg]
  unfold Broker.exclusion Broker.grantable
  simp only [hp, Bool.not_true, Bool.false_eq_true, if_false]
  cases hu : b.uuidLeasedElsewhere g with
  | true => simp
  | false =>
  by_cases ho : g.cudaOrdinal = none
  · simp [ho]
  simp only [Bool.false_eq_true, if_false, ho, ne_eq, not_false_eq_true, true_and]
  cases he : b.plant.endpoint? g.endpointId with
  | none => simp
  | some e =>
    by_cases hl : e.observationProfile = "linux"
    · have h₁ : endpointExclusion anyCard e = none := by simp [endpointExclusion, anyCard, hl]
      have h₂ : b.hostExclusion anyCard e.id = none := by
        unfold Broker.hostExclusion
        cases b.plant.hostCapacity e.id <;> simp [anyCard]
      have h₃ : listExclusion anyCard e g = none := by simp [listExclusion, anyCard]
      simp [h₁, h₂, h₃, hl, stateExclusion_anyCard]
    · have h₁ : endpointExclusion anyCard e = some "provider_managed" := by
        simp [endpointExclusion, hl]
      simp [h₁, hl]

/-- The console and the allocator agree on a card: it is shown free exactly when a plain request
may have it. -/
def ShownTruly (cfg : Config) (now : Time) (endpointId : Option String) (b : Broker)
    (g : GPUDevice) : Prop :=
  b.publiclyAvailable cfg now (b.view cfg endpointId) g = true ↔
    g ∈ b.eligibleGpus cfg now anyCard true

instance : Decidable (ShownTruly cfg now endpointId b g) := inferInstanceAs (Decidable (_ ↔ _))

/-- **Free means claimable**, for a published card, exactly when a free card of a server the broker
admits is grantable. -/
theorem available_iff (hb : Reachable cfg b) (now : Time)
    (hg : g ∈ (b.view cfg endpointId).gpus) :
    ShownTruly cfg now endpointId b g ↔ b.offersTruly cfg now g := by
  obtain ⟨hv, hp⟩ := List.mem_filter.1 hg
  have hvis := mem_endpointGpus.1 hv
  unfold ShownTruly Broker.offersTruly
  rw [publiclyAvailable_iff hb.kept hvis, mem_eligible_anyCard (List.mem_of_mem_filter hvis) hp]
  by_cases hr : b.rowFree cfg now g
  · simp [hr]
  · simp [hr]

/-- The second card of the first lease's server, as the first look left it. -/
def freeCard : GPUDevice :=
  { id := "alpha:GPU-1", endpointId := "alpha", nodeId := "self", gpuUuid := "GPU-1", gpuIndex := 1
    cudaOrdinal := some 1, name := "GPU", totalVramMib := 80000, health := "OK", present := true
    firstSeenAt := 0, lastSeenAt := 0 }

theorem freeCard_shown :
    heldFirst.publiclyAvailable plainConfig 0 (heldFirst.view plainConfig none) freeCard = true ∧
      ShownTruly plainConfig 0 none heldFirst freeCard :=
  ⟨by decide +kernel,
    (available_iff heldFirst_reachable 0 (by decide +kernel)).2 (by decide +kernel)⟩

/-! ## A card shown free that no claim may have -/

/-- The machine of a lease comes back under another registration. -/
def registeredTwice : List Op :=
  [.ingestObservation 0 (lookAtOne "alpha" "GPU-0" 0 []) sampleToken,
   .createRequest 0 (sampleActor "ann") oneCard none true "lease" (sampleToken "lease"),
   .ingestObservation (seconds 100) (lookAtOne "beta" "GPU-0" (seconds 100) []) sampleToken]

/-- The card's new row. -/
def secondRow : GPUDevice :=
  { freeCard with
    id := "beta:GPU-0", endpointId := "beta", gpuUuid := "GPU-0", gpuIndex := 0,
      cudaOrdinal := some 0
    firstSeenAt := seconds 100, lastSeenAt := seconds 100 }

/-- **A leased card shown free**: its new row has no lease of its own, and no claim may have it. -/
theorem secondRow_misshown :
    ¬ ∀ b, Reachable plainConfig b → ∀ now endpointId, ∀ g ∈ (b.view plainConfig endpointId).gpus,
      ShownTruly plainConfig now endpointId b g := by
  intro h
  have hreach : Reachable plainConfig (Run.run (exec plainConfig) sampleFleet registeredTwice) :=
    ⟨_, sampleFleet_seeded, _, rfl⟩
  have hm : secondRow ∈ ((Run.run (exec plainConfig) sampleFleet registeredTwice).view plainConfig
      none).gpus := by decide +kernel
  have htruly := h _ hreach (seconds 100) none _ hm
  revert htruly
  decide +kernel

end ServerPilot
