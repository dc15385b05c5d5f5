import ServerPilot.Proof.Derived
import ServerPilot.Spec.Summary

/-!
# Two gatherings of one summary

The cards of a server are gathered twice for its occupancy: with the absent ones for
the answer to a switch of the policy, without them for the console. On the cards both
look at they read the same states (`Kept.deriveState_eq`) and the same leases
(`view_leaseByGpu`), so the numbers differ by the absent cards, each of which counts
as an error, and by the idle cards still in cooldown, which only the first leaves out.
-/

namespace ServerPilot

open Rows

variable {cfg : Config} {now cooldown : Time} {b : Broker} {endpointId : Option String}
  {e : Endpoint} {g : GPUDevice}

/-- Where keepers start, no idle card of the endpoint is still in cooldown. -/
def Broker.cooledDown (cfg : Config) (now : Time) (b : Broker) (cooldown : Time) (e : Endpoint) :
    Prop :=
  e.keepsIdle = true → ∀ g ∈ b.plant.gpus, g.endpointId = e.id →
    (b.gpuState cfg now g).1 = .available → b.ledger.cooldownRemaining cooldown g.id now ≤ 0

/-- Every card of the endpoint was there at its last complete look. -/
def Broker.allPresent (b : Broker) (e : Endpoint) : Prop :=
  ∀ g ∈ b.plant.gpus, g.endpointId = e.id → g.present = true

instance : Decidable (b.cooledDown cfg now cooldown e) := inferInstanceAs (Decidable (_ → _))

instance : Decidable (b.allPresent e) := inferInstanceAs (Decidable (∀ g ∈ _, _ → _))

/-- The status and the counts of an endpoint's occupancy are the same on both ways. -/
def SummariesAgree (cfg : Config) (now cooldown : Time) (endpointId : Option String) (b : Broker)
    (e : Endpoint) : Prop :=
  (b.snapshotKeepalive cfg now (b.view cfg endpointId) e).figures =
    (b.endpointKeepaliveSummary cfg now cooldown e).figures

/-! ## The numbers of an aggregate -/

/-- The figures of one endpoint are those of its counts. -/
theorem figures_eq_iff {values values' : List KeepaliveStatus} {n n' : ℕ} :
    (keepaliveAggregate e values n).figures = (keepaliveAggregate e values' n').figures ↔
      statusCount .on values = statusCount .on values' ∧
        statusCount .error values = statusCount .error values' ∧ n = n' := by
  constructor
  · intro h
    have hactive := congrArg KeepaliveAggregate.activeGpuCount h
    have herror := congrArg KeepaliveAggregate.errorGpuCount h
    have hidle := congrArg KeepaliveAggregate.eligibleIdleGpuCount h
    exact ⟨hactive, herror, hidle⟩
  · rintro ⟨hactive, herror, hidle⟩
    unfold keepaliveAggregate KeepaliveAggregate.figures
    simp only [hactive, herror, hidle]

theorem statusCount_map (s : KeepaliveActual) (f : GPUDevice → KeepaliveStatus)
    (gpus : List GPUDevice) :
    statusCount s (gpus.map f) = gpus.countP fun g => (f g).state = s := by
  unfold statusCount
  rw [List.countP_map]
  rfl

/-- A count by `p` and one by less agree when nothing is lost. -/
theorem countP_and_eq_iff {α : Type*} {p q : α → Bool} {l : List α} :
    l.countP (fun a => p a && q a) = l.countP p ↔ ∀ a ∈ l, p a = true → q a = true := by
  have hcomm : l.countP (fun a => p a && q a) = (l.filter p).countP q := by
    rw [List.countP_filter]
    exact List.countP_congr fun a _ => by rw [Bool.and_comm]
  rw [hcomm, List.countP_eq_length_filter (p := p), List.countP_eq_length]
  constructor
  · intro h a ha hp
    exact h a (List.mem_filter.2 ⟨ha, hp⟩)
  · intro h a ha
    obtain ⟨hm, hp⟩ := List.mem_filter.1 ha
    exact h a hm hp

/-! ## The cards gathered -/

/-- The cards of the endpoint, as they stand in the table. -/
def Plant.rowsOf (p : Plant) (e : Endpoint) : List GPUDevice :=
  p.gpus.filter fun g => g.endpointId = e.id

theorem mem_rowsOf {p : Plant} : g ∈ p.rowsOf e ↔ g ∈ p.gpus ∧ g.endpointId = e.id := by
  unfold Plant.rowsOf
  rw [List.mem_filter, decide_eq_true_eq]

theorem cardsOf_perm (p : Plant) (e : Endpoint) : (p.cardsOf e.id).Perm (p.rowsOf e) :=
  List.perm_insertionSort _ _

/-- The console publishes the present ones. -/
theorem viewGpus_perm (cfg : Config) (hv : e.id ∈ b.plant.visibleIds endpointId) :
    ((b.view cfg endpointId).gpus.filter fun g => g.endpointId = e.id).Perm
      ((b.plant.rowsOf e).filter GPUDevice.present) := by
  unfold View.gpus Broker.view
  refine (((List.perm_insertionSort _ _).filter _).filter _).trans ?_
  unfold Plant.rowsOf
  rw [List.filter_filter, List.filter_filter, List.filter_filter]
  refine List.Perm.of_eq (List.filter_congr fun g _ => ?_)
  by_cases hg : g.endpointId = e.id
  · simp [hg, hv]
  · simp [hg]

/-- A card gathered is one of a server the snapshot is asked about. -/
theorem visible_of_rowsOf (hv : e.id ∈ b.plant.visibleIds endpointId) (hg : g ∈ b.plant.rowsOf e) :
    g ∈ b.visibleGpus endpointId := by
  obtain ⟨hm, he⟩ := mem_rowsOf.1 hg
  refine List.mem_filter.2 ⟨hm, decide_eq_true ?_⟩
  rw [he]
  exact hv

/-! ## What an absent card adds -/

/-- Nobody can say whether a keeper still runs on an absent card. -/
theorem keepaliveGpuStatus_absent (h : g.present = false) (lease : Option Lease) :
    (b.keepaliveGpuStatus cfg now g lease).1 = .error := by
  unfold Broker.keepaliveGpuStatus
  simp [h]

/-- An absent card is not idle. -/
theorem gpuState_absent (h : g.present = false) : (b.gpuState cfg now g).1 ≠ .available := by
  unfold Broker.gpuState
  cases b.plant.nodeObservationError g with
  | some reason => nofun
  | none =>
    simp only [h, Bool.not_false, if_true]
    nofun

/-- Counting a table of cards: the present ones, and the rest. -/
theorem countP_present (p : GPUDevice → Bool) (gpus : List GPUDevice) :
    gpus.countP p = (gpus.filter GPUDevice.present).countP p +
      gpus.countP fun g => p g && !g.present := by
  induction gpus with
  | nil => rfl
  | cons g gpus ih =>
    cases hp : p g <;> cases hpresent : g.present <;>
      simp only [List.countP_cons, List.filter_cons, hp, hpresent, ih, Bool.false_and,
        Bool.true_and, Bool.not_true, Bool.not_false, Bool.false_eq_true, if_true, if_false]
    all_goals omega

section

variable (hk : Kept b) (hv : e.id ∈ b.plant.visibleIds endpointId)
include hk hv

/-- The cards in one state of their keepers, as the console counts them. -/
theorem snapshot_statusCount (s : KeepaliveActual) :
    statusCount s (((b.view cfg endpointId).gpus.filter fun g => g.endpointId = e.id).map fun g =>
        b.keepaliveStatusOf cfg now ((b.view cfg endpointId).leaseByGpu g.id) g) =
      ((b.plant.rowsOf e).filter GPUDevice.present).countP fun g =>
        (b.keepaliveGpuStatus cfg now g (b.ledger.activeLeaseForGpu g.id)).1 = s := by
  rw [statusCount_map, (viewGpus_perm cfg hv).countP_eq]
  refine List.countP_congr fun g _ => ?_
  unfold Broker.keepaliveStatusOf
  rw [view_leaseByGpu hk]

/-- The idle cards, as the console counts them. -/
theorem snapshot_idle :
    ((b.view cfg endpointId).gpus.filter fun g => g.endpointId = e.id).countP
        (fun g => (b.deriveState cfg now (b.view cfg endpointId) g).1 = .available) =
      ((b.plant.rowsOf e).filter GPUDevice.present).countP fun g =>
        (b.gpuState cfg now g).1 = .available := by
  rw [(viewGpus_perm cfg hv).countP_eq]
  refine List.countP_congr fun g hg => ?_
  have hrow := List.mem_of_mem_filter hg
  rw [hk.deriveState_eq (visible_of_rowsOf hv hrow)]

end

/-- The cards in one state of their keepers, absent ones among them. -/
theorem summary_statusCount (s : KeepaliveActual) :
    statusCount s ((b.plant.cardsOf e.id).map fun g =>
        b.keepaliveStatusOf cfg now (b.ledger.activeLeaseForGpu g.id) g) =
      (b.plant.rowsOf e).countP fun g =>
        (b.keepaliveGpuStatus cfg now g (b.ledger.activeLeaseForGpu g.id)).1 = s := by
  rw [statusCount_map, (cardsOf_perm b.plant e).countP_eq]
  rfl

/-- No absent card runs a keeper, as far as anybody knows. -/
theorem absent_on : ((b.plant.rowsOf e).countP fun g =>
    decide ((b.keepaliveGpuStatus cfg now g (b.ledger.activeLeaseForGpu g.id)).1 = .on) &&
      !g.present) = 0 := by
  rw [List.countP_eq_zero]
  intro g _ h
  obtain ⟨hon, habsent⟩ := Bool.and_eq_true_iff.1 h
  have herror : (b.keepaliveGpuStatus cfg now g (b.ledger.activeLeaseForGpu g.id)).1 = .error :=
    keepaliveGpuStatus_absent (by simpa using habsent) _
  rw [herror] at hon
  exact absurd (of_decide_eq_true hon) (by nofun)

/-- Every absent card is an error. -/
theorem absent_error (cfg : Config) (now : Time) (b : Broker) (e : Endpoint) :
    ((b.plant.rowsOf e).countP fun g =>
    decide ((b.keepaliveGpuStatus cfg now g (b.ledger.activeLeaseForGpu g.id)).1 = .error) &&
      !g.present) = 0 ↔ b.allPresent e := by
  rw [List.countP_eq_zero]
  constructor
  · intro h g hg he
    by_contra hp
    rw [Bool.not_eq_true] at hp
    refine h g (mem_rowsOf.2 ⟨hg, he⟩) ?_
    rw [keepaliveGpuStatus_absent hp, hp]
    rfl
  · intro h g hg hc
    obtain ⟨hm, he⟩ := mem_rowsOf.1 hg
    rw [h g hm he] at hc
    simp at hc

/-- No absent card is idle. -/
theorem absent_idle (cfg : Config) (now : Time) (b : Broker) (e : Endpoint) :
    ((b.plant.rowsOf e).countP fun g =>
      decide ((b.gpuState cfg now g).1 = .available) && !g.present) = 0 := by
  rw [List.countP_eq_zero]
  intro g _ h
  obtain ⟨hidle, habsent⟩ := Bool.and_eq_true_iff.1 h
  exact gpuState_absent (by simpa using habsent) (of_decide_eq_true hidle)

/-! ## The summaries agree -/

/-- The idle cards the console counts are those somewhere a keeper is about to start. -/
theorem idle_iff :
    (if e.keepsIdle then ((b.plant.rowsOf e).filter GPUDevice.present).countP fun g =>
        decide ((b.gpuState cfg now g).1 = .available) else 0) =
      ((b.plant.cardsOf e.id).countP fun g => e.keepsIdle &&
        decide ((b.gpuState cfg now g).1 = .available) &&
        decide (b.ledger.cooldownRemaining cooldown g.id now ≤ 0)) ↔
      b.cooledDown cfg now cooldown e := by
  rw [(cardsOf_perm b.plant e).countP_eq]
  unfold Broker.cooledDown
  cases he : e.keepsIdle with
  | false => simp
  | true =>
    simp only [if_true, Bool.true_and, forall_const]
    -- absent cards are idle for neither
    have hall := countP_present (fun g => decide ((b.gpuState cfg now g).1 = .available))
      (b.plant.rowsOf e)
    rw [absent_idle cfg now b e, Nat.add_zero] at hall
    rw [← hall, eq_comm, countP_and_eq_iff]
    constructor
    · intro h g hm hg hs
      exact of_decide_eq_true (h g (mem_rowsOf.2 ⟨hm, hg⟩) (decide_eq_true hs))
    · intro h g hg hs
      obtain ⟨hm, hg⟩ := mem_rowsOf.1 hg
      exact decide_eq_true (h g hm hg (of_decide_eq_true hs))

/-- **When the two summaries agree**: the endpoint has no absent card, and where keepers start, no
idle card in cooldown. -/
theorem summaries_agree_iff (hb : Reachable cfg b) (now cooldown : Time)
    (hv : e.id ∈ b.plant.visibleIds endpointId) :
    SummariesAgree cfg now cooldown endpointId b e ↔
      b.allPresent e ∧ b.cooledDown cfg now cooldown e := by
  have hk := hb.kept
  have hsplit := fun s => countP_present (fun g => decide
    ((b.keepaliveGpuStatus cfg now g (b.ledger.activeLeaseForGpu g.id)).1 = s)) (b.plant.rowsOf e)
  unfold SummariesAgree Broker.snapshotKeepalive Broker.endpointKeepaliveSummary
  rw [figures_eq_iff, snapshot_statusCount hk hv, snapshot_statusCount hk hv, snapshot_idle hk hv,
    summary_statusCount, summary_statusCount, idle_iff, hsplit .on, hsplit .error, absent_on]
  rw [← absent_error cfg now]
  constructor
  · rintro ⟨-, herror, hidle⟩
    exact ⟨by omega, hidle⟩
  · rintro ⟨habsent, hidle⟩
    exact ⟨rfl, by omega, hidle⟩

/-! ## A card just given back -/

/-- A claim of the one card of `alpha`, given back at once. -/
def justReturned : Broker :=
  Run.run (exec plainConfig) sampleFleet
    [.ingestObservation 0 (lookAtOne "alpha" "GPU-0" 0 []) sampleToken,
     .createRequest 0 (sampleActor "ann") oneCard none true "lease" (sampleToken "lease"),
     .releaseLease 0 (sampleActor "ann") "lease" "done" none false (sampleToken "lease")]

theorem justReturned_reachable : Reachable plainConfig justReturned :=
  ⟨_, sampleFleet_seeded, _, rfl⟩

/-- When the cooldown is over the card is idle for both. -/
theorem justReturned_agrees : SummariesAgree plainConfig (seconds 5) (seconds 5) none justReturned
    (sampleServer "alpha" 22) :=
  (summaries_agree_iff justReturned_reachable (seconds 5) (seconds 5) (by decide +kernel)).2
    ⟨by decide +kernel, by decide +kernel⟩

/-- **A card in cooldown**: the console counts it as idle, the answer to a switch of the policy does
not. -/
theorem cooldown_disagrees :
    ¬ ∀ cfg b, Reachable cfg b → ∀ now cooldown endpointId, ∀ e ∈ b.plant.endpoints,
      e.id ∈ b.plant.visibleIds endpointId → SummariesAgree cfg now cooldown endpointId b e := by
  intro h
  have hmem : sampleServer "alpha" 22 ∈ justReturned.plant.endpoints := by decide +kernel
  have hdiffer : ¬ SummariesAgree plainConfig (seconds 5) (seconds 600) none justReturned
      (sampleServer "alpha" 22) := by
    unfold SummariesAgree
    decide +kernel
  exact hdiffer (h _ _ justReturned_reachable _ _ _ _ hmem (by decide +kernel))

end ServerPilot
