import ServerPilot.Proof.Consistency
import ServerPilot.Proof.Epoch
import ServerPilot.Spec.Snapshot

/-!
# The snapshot derives the states the broker does

The maps a snapshot builds answer what the single queries answer: readings and
processes of present cards row by row, the lease of a card because no two active
rows name one card and ended leases have none. So the state the console shows is
the state admission decides by: `derived_state_eq`.
-/

namespace ServerPilot

open Rows

variable {cfg : Config} {now : Time} {b : Broker} {endpointId : Option String} {g : GPUDevice}

/-- The cards of the endpoints a snapshot is asked about. -/
def Broker.visibleGpus (b : Broker) (endpointId : Option String) : List GPUDevice :=
  b.plant.gpus.filter fun g => g.endpointId ∈ b.plant.visibleIds endpointId

theorem mem_endpointGpus :
    g ∈ (b.view cfg endpointId).endpointGpus ↔ g ∈ b.visibleGpus endpointId :=
  List.mem_insertionSort _

/-! ## The maps answer what the queries answer -/

/-- The ids of the cards a snapshot publishes. -/
theorem mem_publishedIds (cfg : Config) (hg : g ∈ b.visibleGpus endpointId)
    (hp : g.present = true) :
    g.id ∈ ((b.view cfg endpointId).endpointGpus.filter GPUDevice.present).map GPUDevice.id :=
  List.mem_map_of_mem (List.mem_filter.2 ⟨mem_endpointGpus.2 hg, hp⟩)

theorem view_telemetryByGpu (cfg : Config) (hg : g ∈ b.visibleGpus endpointId)
    (hp : g.present = true) :
    (b.view cfg endpointId).telemetryByGpu g.id = b.plant.telemetry? g.id := by
  have hid := mem_publishedIds cfg hg hp
  refine row?_filter fun t _ ht => ?_
  rw [ht]
  exact decide_eq_true hid

/-- The processes of a published card are its current ones, in another order. -/
theorem view_processesByGpu (cfg : Config) (hg : g ∈ b.visibleGpus endpointId)
    (hp : g.present = true) :
    ((b.view cfg endpointId).processesByGpu g.id).Perm (b.plant.currentProcesses g.id) := by
  have hid := mem_publishedIds cfg hg hp
  refine ((List.perm_insertionSort _ _).filter _).trans ?_
  rw [List.filter_filter]
  refine List.Perm.of_eq (List.filter_congr fun x _ => ?_)
  by_cases hx : x.gpuId = g.id
  · rw [hx]
    simp only [true_and, decide_true, Bool.true_and]
    exact decide_eq_decide.2 (and_iff_right hid)
  · simp [hx]

theorem view_processesByGpu_nil (cfg : Config) (hg : g ∈ b.visibleGpus endpointId)
    (hp : g.present = true) :
    (b.view cfg endpointId).processesByGpu g.id = [] ↔ b.plant.currentProcesses g.id = [] := by
  have h := (view_processesByGpu cfg hg hp).length_eq
  rw [← List.length_eq_zero_iff, ← List.length_eq_zero_iff, h]

/-- An active row belongs to a live lease. -/
theorem Kept.lease_of_active (hk : Kept b) {r : LeaseResource} (hr : r ∈ b.ledger.resources)
    (ha : r.active = true) : ∃ x, b.ledger.lease? r.leaseId = some x ∧ x.state.live = true := by
  cases hx : b.ledger.lease? r.leaseId with
  | none => exact absurd (hk.intact.resourceLease r hr) (lease?_eq_none.1 hx)
  | some x =>
    refine ⟨x, rfl, ?_⟩
    by_contra hl
    have hid := lease?_id hx
    have ht : x.state.terminal = true := by
      rw [LeaseState.terminal_eq_not_live]
      simpa using hl
    have hoff := hk.consistent.empty x (lease?_mem hx) ht r hr hid.symm
    rw [ha] at hoff
    cases hoff

/-- The active rows of a card with one are that one. -/
theorem Kept.active_rows (hk : Kept b) {r : LeaseResource} (hr : r ∈ b.ledger.resources)
    (ha : r.active = true) :
    (b.ledger.activeResources.filter fun x => x.gpuId = r.gpuId) = [r] :=
  filter_key_of_mem hk.intact.activeGpu (List.mem_filter.2 ⟨hr, decide_eq_true ha⟩)

theorem Kept.activeLeaseForGpu_of_row (hk : Kept b) {r : LeaseResource}
    (hr : r ∈ b.ledger.resources) (ha : r.active = true) :
    b.ledger.activeLeaseForGpu r.gpuId = b.ledger.lease? r.leaseId := by
  obtain ⟨x, hx, -⟩ := hk.lease_of_active hr ha
  unfold Ledger.activeLeaseForGpu
  rw [hk.active_rows hr ha]
  simp [hx, latest]

/-- A card no active row names has no lease. -/
theorem activeLeaseForGpu_none {l : Ledger} {gpuId : String}
    (h : ∀ r ∈ l.resources, r.active = true → r.gpuId ≠ gpuId) :
    l.activeLeaseForGpu gpuId = none := by
  have hnil : (l.activeResources.filter fun r => r.gpuId = gpuId) = [] := by
    rw [List.filter_eq_nil_iff]
    intro r hr
    obtain ⟨hm, ha⟩ := List.mem_filter.1 hr
    simpa using h r hm (of_decide_eq_true ha)
  unfold Ledger.activeLeaseForGpu
  rw [hnil]
  rfl

theorem mem_viewResources {r : LeaseResource} : r ∈ (b.view cfg endpointId).resources ↔
    r ∈ b.ledger.resources ∧ r.leaseId ∈ (b.view cfg endpointId).leases.map Lease.id := by
  refine (List.mem_insertionSort _).trans ?_
  rw [List.mem_filter, decide_eq_true_eq]
  rfl

theorem mem_viewLeases {x : Lease} :
    x ∈ (b.view cfg endpointId).leases ↔ x ∈ b.ledger.leases ∧ x.state.live = true := by
  refine (List.mem_insertionSort _).trans ?_
  exact List.mem_filter

/-- A live lease is in the view under its id. -/
theorem row?_viewLeases (cfg : Config) (endpointId : Option String) (hk : Kept b) {x : Lease}
    (hx : x ∈ b.ledger.leases)
    (hl : x.state.live = true) : row? Lease.id x.id (b.view cfg endpointId).leases = some x := by
  refine row?_of_mem ?_ (mem_viewLeases.2 ⟨hx, hl⟩)
  have hp : ((b.view cfg endpointId).leases.map Lease.id).Perm
      ((b.ledger.leases.filter fun y => y.state.live).map Lease.id) :=
    (List.perm_insertionSort _ _).map _
  exact hp.nodup_iff.2 (hk.intact.leasePk.sublist (List.filter_sublist.map _))

/-- **The lease of a card**, read off the view or asked for. -/
theorem view_leaseByGpu (hk : Kept b) (gpuId : String) :
    (b.view cfg endpointId).leaseByGpu gpuId = b.ledger.activeLeaseForGpu gpuId := by
  unfold View.leaseByGpu
  cases hf : (b.view cfg endpointId).resources.reverse.find? fun r =>
      r.active && decide (r.gpuId = gpuId) with
  | some r =>
    have hm := List.mem_reverse.1 (List.mem_of_find?_eq_some hf)
    have hq := List.find?_some hf
    obtain ⟨ha, hg⟩ := Bool.and_eq_true_iff.1 hq
    have hr := (mem_viewResources.1 hm).1
    obtain ⟨x, hx, hl⟩ := hk.lease_of_active hr ha
    have hid := lease?_id hx
    have hv := row?_viewLeases cfg endpointId hk (lease?_mem hx) hl
    rw [← of_decide_eq_true hg, hk.activeLeaseForGpu_of_row hr ha, hx, ← hv, hid]
    rfl
  | none =>
    rw [activeLeaseForGpu_none]
    · rfl
    intro r hr ha hg
    -- its lease is live, so the view would have found the row
    obtain ⟨x, hx, hl⟩ := hk.lease_of_active hr ha
    have hm : r ∈ (b.view cfg endpointId).resources := mem_viewResources.2
      ⟨hr, lease?_id hx ▸ List.mem_map_of_mem (mem_viewLeases.2 ⟨lease?_mem hx, hl⟩)⟩
    have hn := List.find?_eq_none.1 hf r (List.mem_reverse.2 hm)
    simp [ha, hg] at hn

/-- A delegated server is one whose admission a plugin decides. -/
theorem mem_delegatedIds (cfg : Config) (endpointId : Option String) (hk : Kept b) (id : String) :
    id ∈ (b.view cfg endpointId).delegatedIds ↔ b.plant.schedulerManaged cfg id = true := by
  unfold Plant.schedulerManaged
  constructor
  · intro h
    obtain ⟨e, he, rfl⟩ := List.mem_map.1 h
    obtain ⟨hm, hp⟩ := List.mem_filter.1 he
    have hrow : b.plant.endpoint? e.id = some e := row?_of_mem hk.intact.endpointPk hm
    rw [hrow]
    exact hp
  · intro h
    obtain ⟨e, he, hp⟩ := (Option.any_eq_true _ _).1 h
    obtain ⟨hm, rfl⟩ := row?_some he
    exact List.mem_map_of_mem (List.mem_filter.2 ⟨hm, hp⟩)

/-! ## The states agree -/

theorem deriveHeldState_eq (hk : Kept b) (hg : g ∈ b.visibleGpus endpointId)
    (hp : g.present = true) (lease : Option Lease) :
    (b.deriveHeldState cfg now (b.view cfg endpointId) g lease).1 =
      (b.heldGpuState cfg now g lease).1 := by
  have hproc := view_processesByGpu_nil cfg hg hp
  have hdel := mem_delegatedIds cfg endpointId hk g.endpointId
  unfold Broker.deriveHeldState Broker.heldGpuState
  cases lease with
  | none =>
    by_cases h : b.plant.currentProcesses g.id = []
    · by_cases hd : b.plant.schedulerManaged cfg g.endpointId = true
      · simp [hproc.2 h, h, hdel.2 hd, hd]
      · simp [hproc.2 h, h, mt hdel.1 hd, hd]
    · simp [mt hproc.1 h, h]
  | some l =>
    simp only
    split
    · rfl
    split
    · rfl
    split
    · -- a keeper: what its worker does decides, then the processes
      cases b.keepaliveGpuStatus cfg now g (some l) with
      | mk actual reason =>
        cases actual with
        | on => rfl
        | error => rfl
        | off =>
          by_cases h : b.plant.currentProcesses g.id = []
          · simp [hproc.2 h, h]
          · simp [mt hproc.1 h, h]
    · by_cases h : b.plant.currentProcesses g.id = []
      · simp [hproc.2 h, h]
      · simp [mt hproc.1 h, h]

/-- The derivation, in a state that keeps the invariants of the leases. -/
theorem Kept.deriveState_eq (hk : Kept b) (hg : g ∈ b.visibleGpus endpointId) :
    (b.deriveState cfg now (b.view cfg endpointId) g).1 = (b.gpuState cfg now g).1 := by
  unfold Broker.deriveState Broker.gpuState
  cases hn : b.plant.nodeObservationError g with
  | some e => rfl
  | none =>
    by_cases hp : g.present = true
    · simp only [hp, Bool.not_true, Bool.false_eq_true, if_false]
      rw [view_telemetryByGpu cfg hg hp]
      cases ht : b.plant.telemetry? g.id with
      | none => rfl
      | some t =>
        simp only
        split
        · rfl
        split
        · rfl
        rw [view_leaseByGpu hk]
        exact deriveHeldState_eq hk hg hp _
    · simp [hp]

/-- At this instant every card of the endpoints a snapshot is asked about has, in the snapshot, the
state the single queries give it. -/
def StatesAgree (cfg : Config) (now : Time) (endpointId : Option String) (b : Broker) : Prop :=
  ∀ g ∈ b.visibleGpus endpointId,
    (b.deriveState cfg now (b.view cfg endpointId) g).1 = (b.gpuState cfg now g).1

/-- **One state of a card**, computed two ways, in every reachable state, at every instant and for
every choice of endpoints. -/
theorem derived_state_eq (hb : Reachable cfg b) (now : Time) (endpointId : Option String) :
    StatesAgree cfg now endpointId b :=
  fun _ hg => hb.kept.deriveState_eq hg

theorem heldFirst_states_agree :
    (heldFirst.visibleGpus none).map GPUDevice.id = ["alpha:GPU-0", "alpha:GPU-1"] ∧
      StatesAgree plainConfig (seconds 5) none heldFirst :=
  ⟨by decide +kernel, derived_state_eq heldFirst_reachable (seconds 5) none⟩

end ServerPilot
