import ServerPilot.Proof.Evidence
import ServerPilot.Proof.Locks
import ServerPilot.Proof.Placement
import ServerPilot.Proof.Redeclare

/-!
# A reclaim plan suffices

The plan is what the selector would choose if keepers' cards were free. Once they are
(`Freed`), the cards it chose are candidates without them: nothing excluded one of them
but its keeper, and of the rest nothing changed, as a keeper has promised no CPU or
memory to give back (`Reachable.keepers_pledge_nothing`). The selector finds
something wherever there is something (`Serves.selected`), so it succeeds:
`plan_suffices`.
-/

namespace ServerPilot

open Rows Checked

/-- The cards of `targets` have become plain available, with the memory the request wants free, and
their keepers' leases have ended. Nothing else the allocator reads has changed. -/
structure Freed (cfg : Config) (now : Time) (c : ResourceConstraints) (targets : List ReclaimTarget)
    (b b' : Broker) : Prop where
  ended : ∀ t ∈ targets, ∀ x ∈ b'.ledger.lease? t.leaseId, x.state.live = false
  available : ∀ t ∈ targets, ∀ g ∈ b'.plant.gpus, g.id = t.gpuId →
    (b'.gpuState cfg now g).1 = .available
  room : ∀ t ∈ targets, ∀ m ∈ c.minFreeVramMib, ∀ r ∈ b'.plant.telemetry? t.gpuId,
    m ≤ r.memoryFreeMib
  leases : ∀ id ∉ targets.map ReclaimTarget.leaseId, b'.ledger.lease? id = b.ledger.lease? id
  resources : b'.ledger.activeResources =
    b.ledger.activeResources.filter fun r => r.leaseId ∉ targets.map ReclaimTarget.leaseId
  commitments : b'.ledger.commitments = b.ledger.commitments
  gpus : b'.plant.gpus = b.plant.gpus
  endpoints : b'.plant.endpoints = b.plant.endpoints
  hosts : b'.plant.hosts = b.plant.hosts
  nodeStates : b'.plant.nodeStates = b.plant.nodeStates
  telemetry : ∀ id ∉ targets.map ReclaimTarget.gpuId, b'.plant.telemetry? id = b.plant.telemetry? id
  processes : ∀ id ∉ targets.map ReclaimTarget.gpuId,
    b'.plant.currentProcesses id = b.plant.currentProcesses id

/-! ## Keepers promise nothing -/

/-- A live keeper has no commitment. -/
def KeepersPledgeNothing (l : Ledger) : Prop :=
  ∀ id x, l.lease? id = some x → x.kind = .keepalive → x.state.live = true →
    (l.folio id).pledged = ∅

section

variable {cfg : Config} {now : Time} {b b' : Broker} {op : Op} {resp : Response} {l l' : Ledger}

theorem pledged_eq_empty {id : String} :
    (l.folio id).pledged = ∅ ↔ ∀ c ∈ l.commitments, c.leaseId ≠ id := by
  unfold Folio.pledged Ledger.folio
  simp only [List.toFinset_eq_empty_iff, List.map_eq_nil_iff, List.filter_eq_nil_iff,
    decide_eq_true_eq]

/-- A lease keeps its kind. -/
theorem kind_kept (hk' : Kept b') (d : Deeds b op b'.ledger) {id : String} {x y : Lease}
    (hx : b.ledger.lease? id = some x) (hy : b'.ledger.lease? id = some y) : y.kind = x.kind := by
  obtain ⟨z, hz, hid, hkind⟩ := d.kind (lease?_mem hx)
  have hrow : b'.ledger.lease? z.id = some z := row?_of_mem hk'.intact.leasePk hz
  rw [hid, lease?_id hx, hy] at hrow
  cases hrow
  exact hkind

theorem activateKeepers_commitments (cfg : Config) (endpointId actorId : String)
    (token : String → String) (now : Time) (ts : List (GPUDevice × Option Lease)) (l : Ledger) :
    (ts.foldl (Ledger.activateKeeper cfg endpointId actorId token now) l).commitments =
      l.commitments := by
  induction ts generalizing l with
  | nil => rfl
  | cons t ts ih =>
    rw [List.foldl_cons, ih]
    unfold Ledger.activateKeeper
    cases t.2 with
    | some x => rfl
    | none => exact List.append_nil _

theorem commitments_remember (actor : ActorContext) (action : String) (key : Option String)
    (r : Response) (now : Time) :
    (l.remember actor action key r now).commitments = l.commitments := by
  unfold Ledger.remember
  cases key <;> rfl

/-- The same deeds are those of the same leases. -/
theorem leases_of_deeds (h : l'.deeds = l.deeds) :
    l'.leases.map Lease.id = l.leases.map Lease.id := by
  have hids := congrArg (List.map Lease.id) h
  unfold Ledger.deeds at hids
  rw [List.map_map, List.map_map] at hids
  exact hids

/-- A lease that was not there is no keeper, or has no commitment. -/
theorem begun_pledges_nothing (hk : Kept b) (ho : op.begins = true)
    (h : op.apply cfg b = .ok (b', resp)) {id : String} {y : Lease}
    (hnone : b.ledger.lease? id = none) (hy : b'.ledger.lease? id = some y)
    (hkeep : y.kind = .keepalive) : (b'.ledger.folio id).pledged = ∅ := by
  have hnew : y.id ∉ b.ledger.leases.map Lease.id := by
    rw [lease?_id hy]
    exact lease?_eq_none.1 hnone
  have hids : b'.ledger.leases.map Lease.id ≠ b.ledger.leases.map Lease.id := by
    intro heq
    exact hnew (heq ▸ List.mem_map_of_mem (lease?_mem hy))
  -- what a claim inserts works
  have hclaim : (∀ x, op.draws x → x.kind = .workload) → op.hands = false → False := by
    intro hdraws hhands
    cases apply_deeds hk.intact h with
    | kept hd => exact hids (leases_of_deeds hd)
    | handed hh => rw [hhands] at hh; cases hh
    | pinned i c hl => exact hids (by rw [hl]; exact map_updWhere _ fun _ => rfl)
    | drawn new hn hd =>
      have hdeed : y.deed ∈ b'.ledger.deeds := List.mem_map_of_mem (lease?_mem hy)
      rw [hd, List.mem_append] at hdeed
      rcases hdeed with hold | hnewly
      · obtain ⟨x, hx, he⟩ := List.mem_map.1 hold
        have hid := congrArg Lease.id he
        rw [deed_id, deed_id] at hid
        exact hnew (hid ▸ List.mem_map_of_mem hx)
      · obtain ⟨x, hx, he⟩ := List.mem_map.1 hnewly
        have hkind := congrArg Lease.kind he
        rw [deed_kind, deed_kind, hdraws x (hn x hx), hkeep] at hkind
        cases hkind
  cases op <;> simp only [Op.begins, Bool.false_eq_true] at ho
  · exact (hclaim (fun x hx => hx.1) rfl).elim
  · rcases activateKeepalives_ok h with rfl | ⟨targets, ps, -, -, -, -, -, -, rfl⟩
    · rw [hnone] at hy
      cases hy
    · rw [pledged_eq_empty]
      intro c hc hid
      rw [commitments_remember] at hc
      unfold Broker.keepersActivated at hc
      rw [activateKeepers_commitments] at hc
      have hlease := hk.intact.commitmentLease c hc
      rw [hid] at hlease
      exact lease?_eq_none.1 hnone hlease
  · exact (hclaim (fun x hx => hx.1) rfl).elim

/-- **Keepers promise nothing**, whatever a transaction does. -/
theorem apply_keepersPledge (hk : Kept b) (hk' : Kept b') (hp : KeepersPledgeNothing b.ledger)
    (h : op.apply cfg b = .ok (b', resp)) : KeepersPledgeNothing b'.ledger := by
  intro id y hy hkeep hlive
  have hdeeds := apply_deeds hk.intact h
  have hh' := holding_of_lease hy
  -- a lease that was there and has promised nothing more
  have old : ∀ {R : Holding String String → Holding String String → Prop},
      (∀ h h', R h h' → h'.live = true → h.live = true ∧ h'.pledged ⊆ h.pledged) →
      ∀ h h', b.ledger.holding? id = some h → b'.ledger.holding? id = some h' → R h h' →
        (b'.ledger.folio id).pledged = ∅ := by
    intro R hR h₀ h₁ hh₀ hh₁ r
    obtain ⟨x, hx, rfl⟩ := lease_of_holding hh₀
    obtain rfl := Option.some.inj (hh'.symm.trans hh₁)
    obtain ⟨hl, hsub⟩ := hR _ _ r hlive
    have hkind := kind_kept hk' hdeeds hx hy
    have hnone := hp id x hx (hkind.symm.trans hkeep) hl
    have hsub' : (b'.ledger.folio id).pledged ⊆ (b.ledger.folio id).pledged := hsub
    rw [hnone] at hsub'
    exact Finset.subset_empty.1 hsub'
  have each : ∀ {R : Holding String String → Holding String String → Prop},
      (∀ h h', R h h' → h'.live = true → h.live = true ∧ h'.pledged ⊆ h.pledged) →
      Each R b.ledger b'.ledger → (b'.ledger.folio id).pledged = ∅ := by
    intro R hR e
    cases hh : b.ledger.holding? id with
    | none =>
      rw [e.absent id hh] at hh'
      cases hh'
    | some h₀ =>
      obtain ⟨h₁, hh₁, r⟩ := e.related id h₀ hh
      exact old hR h₀ h₁ hh hh₁ r
  have same : b'.ledger.holding? id = b.ledger.holding? id → (b'.ledger.folio id).pledged = ∅ := by
    intro heq
    refine old (R := Eq) (fun h h' he hl => ?_) _ _ (heq ▸ hh') hh' rfl
    rw [he]
    exact ⟨hl, subset_rfl⟩
  -- a keeper is not resized, and does not move
  have alone : ∀ {R i}, Alone R i b.ledger b'.ledger →
      (∃ x, b.ledger.lease? i = some x ∧ x.kind = .workload) →
        (b'.ledger.folio id).pledged = ∅ := by
    rintro R i a ⟨x, hx, hwork⟩
    by_cases hid : id = i
    · subst hid
      have hkind := kind_kept hk' hdeeds hx hy
      rw [hkeep, hwork] at hkind
      cases hkind
    · exact same (a.others id hid)
  have shrinks : ∀ h h' : Holding String String, h.Shrinks h' → h'.live = true →
      h.live = true ∧ h'.pledged ⊆ h.pledged := by
    intro h h' hs hl
    cases hs with
    | same eq => exact eq ▸ ⟨hl, subset_rfl⟩
    | taken t => exact ⟨t.live ▸ hl, t.pledged.subset⟩
    | ended e =>
      rw [e.live] at hl
      cases hl
  cases apply_life hk.intact hk.wellkept h with
  | ends e => exact each (fun h h' c => shrinks h h' c.shrinks) e
  | loses _ f => exact each shrinks f
  | opens gpuIds ho o =>
    cases hh : b.ledger.holding? id with
    | none =>
      have hnone : b.ledger.lease? id = none := by
        cases hx : b.ledger.lease? id with
        | none => rfl
        | some x =>
          rw [holding_of_lease hx] at hh
          cases hh
      exact begun_pledges_nothing hk ho h hnone hy hkeep
    | some h₀ => exact same (o.old id (by rw [hh]; simp)).1
  | resizes i ho a =>
    refine alone a ?_
    cases op <;> simp only [Op.resizes, reduceCtorEq, Option.some.injEq] at ho
    subst ho
    obtain ⟨lease, -, -, -, hl, hwork, -⟩ := resizeLease_ok h
    exact ⟨lease, hl, hwork⟩
  | moves m ho ha a =>
    cases op <;> simp only [Op.reassignment, reduceCtorEq, Option.some.injEq] at ho
    subst ho
    rcases reassignLeaseGpus_ok h with rfl | ⟨lease, -, -, -, hl, hwork, -⟩
    · exact hp id y hy hkeep hlive
    · exact alone a ⟨lease, hl, hwork⟩
  | uproots e _ u =>
    refine each (fun h h' r hl => ?_) u
    rcases r with r | r
    · exact ⟨r.live ▸ hl, r.pledged ▸ Finset.erase_subset _ _⟩
    · rw [r.live] at hl
      cases hl

theorem Reachable.keepers_pledge_nothing (hb : Reachable cfg b) :
    KeepersPledgeNothing b.ledger := by
  obtain ⟨b₀, hs, ops, rfl⟩ := hb
  have hinit : Kept b₀ ∧ KeepersPledgeNothing b₀.ledger := by
    refine ⟨hs.kept, fun id x hx => ?_⟩
    have hm := lease?_mem hx
    rw [hs.leases] at hm
    cases hm
  refine (Run.run_inv' (I := fun b => Kept b ∧ KeepersPledgeNothing b.ledger) (fun b op hi => ?_)
    hinit).2
  have hk' := exec_kept cfg b op hi.1
  refine ⟨hk', ?_⟩
  rcases exec_cases cfg b op with ⟨b', resp, h, he⟩ | ⟨-, he⟩
  · rw [he] at hk' ⊢
    exact apply_keepersPledge hi.1 hk' hi.2 h
  · rw [he]
    exact hi.2

end

/-! ## What the plan chose is free -/

section

variable {cfg : Config} {now : Time} {b b' : Broker} {c : ResourceConstraints} {g : GPUDevice}
  {targets : List ReclaimTarget} {sel : List GPUDevice}

/-- A complete plan has a transition, or none, for each card selected. -/
theorem plan_complete {r : RequestCreate} (h : (planKeepaliveReclaim cfg now r b).complete = true) :
    ∃ sel transitions, b.plant.selectInGroupPartitions (b.eligibleGpus cfg now r.constraints true)
        r.constraints = some sel ∧
      sel.mapM (b.reclaimTransition cfg now) = some transitions ∧
      (planKeepaliveReclaim cfg now r b).transitions = transitions.filterMap id := by
  unfold planKeepaliveReclaim at h ⊢
  simp only at h ⊢
  split at h
  · cases h
  rename_i sel hsel
  split at h
  · cases h
  rename_i transitions hmap
  exact ⟨sel, transitions, hsel, hmap, rfl⟩

/-- What is selected and what is reclaimed for it, card by card. -/
theorem transition_of_selected {transitions : List (Option ReclaimTarget)}
    (hmap : sel.mapM (b.reclaimTransition cfg now) = some transitions) (hg : g ∈ sel) :
    ∃ o, b.reclaimTransition cfg now g = some o ∧ ∀ t, o = some t →
      t ∈ transitions.filterMap id := by
  have hf := mapM_some hmap
  obtain ⟨i, hi, rfl⟩ := List.mem_iff_getElem.1 hg
  have hlen : i < transitions.length := hf.length_eq ▸ hi
  refine ⟨transitions[i], hf.get hi hlen, fun t ht => ?_⟩
  exact List.mem_filterMap.2 ⟨transitions[i], List.getElem_mem hlen, ht⟩

/-- Every transition is a selected card's. -/
theorem selected_of_transition {transitions : List (Option ReclaimTarget)}
    (hmap : sel.mapM (b.reclaimTransition cfg now) = some transitions) {t : ReclaimTarget}
    (ht : t ∈ transitions.filterMap id) :
    ∃ g ∈ sel, b.reclaimTransition cfg now g = some (some t) := by
  have hf := mapM_some hmap
  obtain ⟨o, ho, hto⟩ := List.mem_filterMap.1 ht
  obtain ⟨i, hi, hget⟩ := List.mem_iff_getElem.1 ho
  have hlen : i < sel.length := hf.length_eq ▸ hi
  exact ⟨sel[i], List.getElem_mem hlen, (hf.get hlen hi).trans (congrArg some (hget.trans hto))⟩

/-- A card without a keeper has no lease at all when it is free. -/
theorem noLease_of_available (hs : (b.gpuState cfg now g).1 = .available)
    (hl : (b.ledger.activeLeaseForGpu g.id).filter (fun l => l.kind = .keepalive) = none) :
    b.ledger.activeLeaseForGpu g.id = none := by
  cases hx : b.ledger.activeLeaseForGpu g.id with
  | none => rfl
  | some x =>
    rw [hx] at hl
    have hkind : x.kind ≠ .keepalive := by
      simpa [Option.filter] using hl
    have hwork : x.kind = .workload := by
      cases hk : x.kind with
      | workload => rfl
      | keepalive => exact absurd hk hkind
    exact absurd hs (gpuState_ne_available hx hwork)

namespace Freed

variable (hf : Freed cfg now c targets b b')
include hf

/-- The active rows left are rows there were. -/
theorem row {r : LeaseResource} (hr : r ∈ b'.ledger.resources) (ha : r.active = true) :
    (r ∈ b.ledger.resources ∧ r.active = true) ∧ r.leaseId ∉ targets.map ReclaimTarget.leaseId := by
  have hm : r ∈ b'.ledger.activeResources := List.mem_filter.2 ⟨hr, decide_eq_true ha⟩
  rw [hf.resources] at hm
  obtain ⟨hm, hn⟩ := List.mem_filter.1 hm
  obtain ⟨hrow, -⟩ := List.mem_filter.1 hm
  exact ⟨⟨hrow, ha⟩, of_decide_eq_true hn⟩

/-- A card without a lease gets none. -/
theorem noLease (hk : Kept b) (h : b.ledger.activeLeaseForGpu g.id = none) :
    b'.ledger.activeLeaseForGpu g.id = none := by
  refine activeLeaseForGpu_none fun r hr ha hg => ?_
  obtain ⟨⟨hrow, hactive⟩, -⟩ := hf.row hr ha
  obtain ⟨x, hx, -⟩ := hk.lease_of_active hrow hactive
  have hlease := hk.activeLeaseForGpu_of_row hrow hactive
  rw [hg, h, hx] at hlease
  cases hlease

/-- A reclaimed card has lost its lease. -/
theorem noKeeper (hk : Kept b) {x : Lease} (h : b.ledger.activeLeaseForGpu g.id = some x)
    (hx : x.id ∈ targets.map ReclaimTarget.leaseId) :
    b'.ledger.activeLeaseForGpu g.id = none := by
  refine activeLeaseForGpu_none fun r hr ha hg => ?_
  obtain ⟨⟨hrow, hactive⟩, hnot⟩ := hf.row hr ha
  have hlease := hk.activeLeaseForGpu_of_row hrow hactive
  rw [hg, h] at hlease
  rw [← lease?_id hlease.symm] at hnot
  exact hnot hx

/-- A card apart from the reclaimed ones, without a lease, is as free as it was. -/
theorem gpuState_eq (hk : Kept b) (h : b.ledger.activeLeaseForGpu g.id = none)
    (hg : g.id ∉ targets.map ReclaimTarget.gpuId) :
    b'.gpuState cfg now g = b.gpuState cfg now g := by
  have hnode : b'.plant.nodeObservationError g = b.plant.nodeObservationError g := by
    unfold Plant.nodeObservationError Plant.nodeState?
    rw [hf.nodeStates]
  have hmanaged : b'.plant.schedulerManaged cfg g.endpointId =
      b.plant.schedulerManaged cfg g.endpointId := by
    unfold Plant.schedulerManaged Plant.endpoint?
    rw [hf.endpoints]
  unfold Broker.gpuState
  rw [hnode, hf.telemetry _ hg, hf.noLease hk h, h]
  unfold Broker.heldGpuState
  rw [hf.processes _ hg, hmanaged]

/-- No physical card is leased that was not. -/
theorem uuid (h : b.uuidLeasedElsewhere g = false) : b'.uuidLeasedElsewhere g = false := by
  unfold Broker.uuidLeasedElsewhere at h ⊢
  rw [List.any_eq_false] at h ⊢
  intro r hr hsome
  rw [hf.resources] at hr
  obtain ⟨hm, hn⟩ := List.mem_filter.1 hr
  refine h r hm ?_
  rwa [hf.leases _ (of_decide_eq_true hn), show b'.plant.gpu? r.gpuId = b.plant.gpu? r.gpuId by
    unfold Plant.gpu?; rw [hf.gpus]] at hsome

/-- The commitments of live leases are the same: the keepers had none. -/
theorem liveCommitments (hp : KeepersPledgeNothing b.ledger)
    (hkeep : ∀ t ∈ targets, ∃ x, b.ledger.lease? t.leaseId = some x ∧ x.kind = .keepalive ∧
      x.state.live = true) (e : String) :
    b'.ledger.liveCommitments e = b.ledger.liveCommitments e := by
  unfold Ledger.liveCommitments
  rw [hf.commitments]
  refine List.filter_congr fun k hk => ?_
  have hother : k.leaseId ∉ targets.map ReclaimTarget.leaseId := by
    intro hm
    obtain ⟨t, ht, hid⟩ := List.mem_map.1 hm
    obtain ⟨x, hx, hkind, hlive⟩ := hkeep t ht
    exact pledged_eq_empty.1 (hp _ x hx hkind hlive) k hk hid.symm
  rw [hf.leases _ hother]

theorem hostExclusion (hp : KeepersPledgeNothing b.ledger)
    (hkeep : ∀ t ∈ targets, ∃ x, b.ledger.lease? t.leaseId = some x ∧ x.kind = .keepalive ∧
      x.state.live = true) (e : String) : b'.hostExclusion c e = b.hostExclusion c e := by
  have hcap : b'.plant.hostCapacity e = b.plant.hostCapacity e := by
    unfold Plant.hostCapacity Plant.host?
    rw [hf.hosts]
  have hlive := hf.liveCommitments hp hkeep e
  unfold Broker.hostExclusion Ledger.committedCpu Ledger.committedMemory
  rw [hcap, hlive]

end Freed

/-- A transition names a live keeper's lease. -/
theorem transition_keeper (hk : Kept b) {t : ReclaimTarget}
    (h : b.reclaimTransition cfg now g = some (some t)) :
    ∃ x, b.ledger.lease? t.leaseId = some x ∧ x.kind = .keepalive ∧ x.state.live = true := by
  obtain ⟨-, -, x, hx, hkind, hid⟩ := reclaimTransition_some h
  obtain ⟨hlease, hcard⟩ := activeLeaseForGpu_mem hx
  obtain ⟨r, hr, -⟩ := mem_cardSet.1 hcard
  obtain ⟨hrow, hrid, ha⟩ := mem_cards.1 hr
  obtain ⟨y, hy, hlive⟩ := hk.lease_of_active hrow ha
  rw [hrid, hlease] at hy
  obtain rfl := Option.some.inj hy
  exact ⟨x, hid ▸ hlease, hkind, hlive⟩

/-- **A card the plan chose** is one an ordinary claim may have once its keeper, and those of the
other cards chosen, are gone. -/
theorem eligible_after (hb : Reachable cfg b) {transitions : List (Option ReclaimTarget)}
    (hsel : b.plant.selectInGroupPartitions (b.eligibleGpus cfg now c true) c = some sel)
    (hv : c.Valid) (hmap : sel.mapM (b.reclaimTransition cfg now) = some transitions)
    (hf : Freed cfg now c (transitions.filterMap id) b b') (hg : g ∈ sel) :
    g ∈ b'.eligibleGpus cfg now c := by
  have hk := hb.kept
  obtain ⟨-, hchosen⟩ := selected_eligible hv hsel
  obtain ⟨hrow, hfree⟩ := hchosen g hg
  obtain ⟨hpresent, huuid, hordinal, e, he, hendpoint, hhost, hlist, hstate⟩ :=
    exclusion_eq_none.1 hfree
  have hkeep : ∀ t ∈ transitions.filterMap id, ∃ x, b.ledger.lease? t.leaseId = some x ∧
      x.kind = .keepalive ∧ x.state.live = true := by
    intro t ht
    obtain ⟨g', -, hcard⟩ := selected_of_transition hmap ht
    exact transition_keeper hk hcard
  refine mem_eligibleGpus.2 ⟨hf.gpus ▸ hrow, exclusion_eq_none.2
    ⟨hpresent, hf.uuid huuid, hordinal, e, ?_, hendpoint, ?_, hlist, ?_⟩⟩
  · unfold Plant.endpoint? at he ⊢
    rw [hf.endpoints]
    exact he
  · rw [hf.hostExclusion hb.keepers_pledge_nothing hkeep]
    exact hhost
  obtain ⟨o, ho, hmem⟩ := transition_of_selected hmap hg
  unfold Broker.stateExclusion at hstate ⊢
  cases o with
  | some t =>
    -- its keeper is gone, and it is available
    have ht := hmem t rfl
    obtain ⟨-, hid, x, hx, -, hlease⟩ := reclaimTransition_some ho
    have hnone := hf.noKeeper hk hx (hlease ▸ List.mem_map_of_mem ht)
    have havailable := hf.available t ht g (hf.gpus ▸ hrow) hid.symm
    simp only [hnone, Option.filter_none, havailable, ne_eq, not_true_eq_false, if_false]
    rw [if_neg]
    intro hroom
    obtain ⟨m, hm, hlow⟩ := (Option.any_eq_true _ _).1 hroom
    obtain ⟨r, hr, hlt⟩ := (Option.any_eq_true _ _).1 hlow
    have hle := hf.room t ht m hm r (hid ▸ hr)
    have hlt := of_decide_eq_true hlt
    omega
  | none =>
    -- nothing was on it
    have hfilter :
        (b.ledger.activeLeaseForGpu g.id).filter (fun l => l.kind = .keepalive) = none := by
      unfold Broker.reclaimTransition at ho
      split at ho
      · assumption
      · split at ho <;> cases ho
    simp only [hfilter] at hstate
    split at hstate
    · cases hstate
    rename_i hs
    rw [not_not] at hs
    have hnone := noLease_of_available hs hfilter
    have hapart : g.id ∉ (transitions.filterMap id).map ReclaimTarget.gpuId := by
      intro hm
      obtain ⟨t, ht, hid⟩ := List.mem_map.1 hm
      obtain ⟨g', hg', hcard⟩ := selected_of_transition hmap ht
      have hsame : g'.id = g.id := (reclaimTransition_some hcard).2.1.symm.trans hid
      obtain rfl := List.inj_on_of_nodup_map hk.intact.gpuPk (hchosen g' hg').1 hrow hsame
      rw [ho] at hcard
      cases hcard
    simp only [hf.noLease hk hnone, Option.filter_none, hf.gpuState_eq hk hnone hapart, hs, ne_eq,
      not_true_eq_false, if_false]
    rw [hf.telemetry _ hapart]
    exact hstate

/-- **A reclaim plan suffices**: after exactly the cards of a complete plan are freed, the ordinary
selection succeeds. -/
theorem plan_suffices {r : RequestCreate} (hb : Reachable cfg b)
    (hplan : (planKeepaliveReclaim cfg now r b).complete = true)
    (hf : Freed cfg now r.constraints (planKeepaliveReclaim cfg now r b).transitions b b') :
    ∃ sel, b'.plant.selectInGroupPartitions (b'.eligibleGpus cfg now r.constraints)
      r.constraints = some sel := by
  have hv := r.constraints_valid
  have hpk := hb.kept.intact.gpuPk
  obtain ⟨sel, transitions, hsel, hmap, htransitions⟩ := plan_complete hplan
  rw [htransitions] at hf
  obtain ⟨group, hgroup⟩ := selectInGroupPartitions_group hsel
  have hserves := selectResources_serves (groupCards_ids (eligible_ids hpk true) group) hv hgroup
  have hgroups : ∀ g, b'.plant.groupOf g = b.plant.groupOf g := by
    intro g
    unfold Plant.groupOf Plant.endpoint?
    rw [hf.endpoints]
  refine (selectInGroupPartitions_some_iff (eligible_ids (hf.gpus ▸ hpk) false) hv).2
    ⟨group, sel, hserves.distinct, fun g hg => ?_, hserves.count, hserves.exact, hserves.shape⟩
  refine mem_groupCards.2 ⟨eligible_after hb hsel hv hmap hf hg, ?_⟩
  rw [hgroups]
  exact (mem_groupCards.1 (hserves.candidates g hg)).2

end

/-! ## One keeper gone -/

/-- The state with one keeper's lease ended and nothing running on its card. -/
def Broker.freed (b : Broker) (t : ReclaimTarget) (now : Time) : Broker :=
  { plant := { b.plant with processes := b.plant.processes.filter fun x => x.gpuId ≠ t.gpuId }
    ledger := b.ledger.endLease t.leaseId .released none now }

/-- That is what it takes to free a card with enough memory, if it is available then. -/
theorem freed_one {cfg : Config} {now : Time} {b : Broker} {c : ResourceConstraints}
    {t : ReclaimTarget}
    (havailable : ∀ g ∈ b.plant.gpus, g.id = t.gpuId →
      ((b.freed t now).gpuState cfg now g).1 = .available)
    (hroom : ∀ m ∈ c.minFreeVramMib, ∀ r ∈ b.plant.telemetry? t.gpuId, m ≤ r.memoryFreeMib) :
    Freed cfg now c [t] b (b.freed t now) where
  ended := by
    intro t' ht' x hx
    obtain rfl := List.mem_singleton.1 ht'
    have hrow : (b.freed t' now).ledger.lease? t'.leaseId =
        (b.ledger.lease? t'.leaseId).map fun y =>
          if decide (y.id = t'.leaseId) then y.ended .released none now else y :=
      row?_updWhere fun _ => rfl
    rw [hrow] at hx
    obtain ⟨y, hy, rfl⟩ := Option.map_eq_some_iff.1 hx
    rw [lease?_id hy]
    simp [Lease.ended, LeaseState.live]
  available := by
    intro t' ht' g hg hid
    obtain rfl := List.mem_singleton.1 ht'
    exact havailable g hg hid
  room := by
    intro t' ht' m hm r hr
    obtain rfl := List.mem_singleton.1 ht'
    exact hroom m hm r hr
  leases := by
    intro id hid
    have hne : id ≠ t.leaseId := by simpa using hid
    have hrow : (b.freed t now).ledger.lease? id = (b.ledger.lease? id).map fun y =>
        if decide (y.id = t.leaseId) then y.ended .released none now else y :=
      row?_updWhere fun _ => rfl
    rw [hrow]
    cases hy : b.ledger.lease? id with
    | none => rfl
    | some y =>
      have hyid := lease?_id hy
      simp [hyid, hne]
  resources := by
    have hdrop := filter_updWhere_drop (q := fun r : LeaseResource => decide (r.active = true))
      (p := fun r => decide (r.leaseId = t.leaseId ∧ r.active = true))
      (f := LeaseResource.dropped now) b.ledger.resources fun r _ => rfl
    refine hdrop.trans ?_
    unfold Ledger.activeResources
    rw [List.filter_filter]
    refine List.filter_congr fun r _ => ?_
    by_cases hactive : r.active = true
    · simp [hactive]
    · simp [hactive]
  commitments := rfl
  gpus := rfl
  endpoints := rfl
  hosts := rfl
  nodeStates := rfl
  telemetry := fun _ _ => rfl
  processes := by
    intro id hid
    have hne : id ≠ t.gpuId := by simpa using hid
    unfold Plant.currentProcesses Broker.freed
    rw [List.filter_filter]
    refine List.filter_congr fun x _ => ?_
    by_cases hx : x.gpuId = id
    · simp [hx, hne]
    · simp [hx]

/-- The planned reclaim of the one card of `alpha`, which a keeper runs on. -/
theorem keeper_suffices : ∃ t,
    (planKeepaliveReclaim plainConfig (seconds 20) oneCard (keeperLater [7])).transitions = [t] ∧
    ∃ sel, ((keeperLater [7]).freed t (seconds 20)).plant.selectInGroupPartitions
      (((keeperLater [7]).freed t (seconds 20)).eligibleGpus plainConfig (seconds 20)
        oneCard.constraints) oneCard.constraints = some sel := by
  have hlen : (planKeepaliveReclaim plainConfig (seconds 20) oneCard
      (keeperLater [7])).transitions.length = 1 := by decide +kernel
  obtain ⟨t, ht⟩ := List.length_eq_one_iff.1 hlen
  have hall : ∀ t ∈ (planKeepaliveReclaim plainConfig (seconds 20) oneCard
      (keeperLater [7])).transitions, ∀ g ∈ (keeperLater [7]).plant.gpus, g.id = t.gpuId →
        (((keeperLater [7]).freed t (seconds 20)).gpuState plainConfig (seconds 20) g).1 =
          .available := by
    decide +kernel
  have hplan : (planKeepaliveReclaim plainConfig (seconds 20) oneCard
      (keeperLater [7])).complete = true := by decide +kernel
  refine ⟨t, ht, plan_suffices (keeperLater_reachable [7]) hplan ?_⟩
  rw [ht]
  exact freed_one (hall t (by rw [ht]; exact List.mem_singleton_self t)) nofun

end ServerPilot
