import ServerPilot.Proof.Commits
import ServerPilot.Proof.Derived
import ServerPilot.Proof.Provided

/-!
# The release button and the release

The console publishes a verdict next to each lease, computed on the maps of a
snapshot; `release_empty_conflicted_lease` computes the same verdict on its own
queries. The maps leave out the processes of absent cards, the queries do not:
`button_iff` says when the two agree.
-/

namespace ServerPilot

open Rows Checked

variable {cfg : Config} {now : Time} {b : Broker} {x : Lease} {endpointId : Option String}

/-! ## The verdict -/

/-- On active rows the two verdicts are one. -/
theorem manualReleaseVerdict_eq {active : List LeaseResource} {unreachable : Bool}
    (ha : ∀ r ∈ active, r.active = true) :
    b.manualReleaseVerdict cfg now x active unreachable =
      b.verdictOn cfg now (fun g => (b.plant.currentProcesses g).length) x active unreachable := by
  have hself : active.filter LeaseResource.active = active := List.filter_eq_self.2 ha
  have hbusy : (fun r : LeaseResource => decide (b.plant.currentProcesses r.gpuId ≠ [])) =
      fun r => decide ((b.plant.currentProcesses r.gpuId).length ≠ 0) := by
    funext r
    simp
  unfold Broker.manualReleaseVerdict Broker.verdictOn
  rewrite [hself, hbusy]
  rfl

/-- The allocations of a lease that go back as a whole. -/
def Broker.wholes (b : Broker) (x : Lease) : List ResourceAllocation :=
  (b.ledger.allocationsOf x.id).filter fun a => a.releaseGranularity = "allocation"

/-- The holder of these cards was heard from within the alert window. -/
def Broker.recent (cfg : Config) (now : Time) (b : Broker) (x : Lease) (gpuIds : List String) :
    Prop :=
  b.plant.livenessAge x gpuIds now < seconds cfg.idleLeaseAlertSeconds

/-- **What the verdict allows**, of a live claim with cards. -/
theorem verdictOn_allowed {processes : String → ℕ} {resources : List LeaseResource}
    {unreachable : Bool} (hl : x.state.live = true) (hw : x.kind = .workload)
    (hne : resources.filter LeaseResource.active ≠ []) :
    (b.verdictOn cfg now processes x resources unreachable).allowed = true ↔
      b.wholes x ≠ [] ∧ (allocationVerdict cfg now x (b.wholes x)).allowed = true ∨
      b.wholes x = [] ∧ (unreachable = true ∨
        (∀ r ∈ resources.filter LeaseResource.active, processes r.gpuId = 0) ∧
          ¬ b.recent cfg now x
            ((resources.filter LeaseResource.active).map LeaseResource.gpuId)) := by
  unfold Broker.verdictOn
  simp only
  rw [if_neg (by simp [hl])]
  change Verdict.allowed (if b.wholes x ≠ [] then _ else _) = true ↔ _
  by_cases hwhole : b.wholes x = []
  · simp only [hwhole, ne_eq, not_true_eq_false, if_false, false_and, true_and, false_or]
    rw [if_neg hne]
    cases unreachable with
    | true => simp
    | false =>
      simp only [Bool.false_eq_true, if_false, false_or]
      cases hf : (resources.filter LeaseResource.active).find? fun r =>
          decide (processes r.gpuId ≠ 0) with
      | some r =>
        have hr := List.mem_of_find?_eq_some hf
        have hp : decide (processes r.gpuId ≠ 0) = true := by
          simpa using List.find?_some hf
        exact iff_of_false (by simp) fun h => of_decide_eq_true hp (h.1 r hr)
      | none =>
        have hnone : ∀ r ∈ resources.filter LeaseResource.active, processes r.gpuId = 0 := by
          intro r hr
          simpa using List.find?_eq_none.1 hf r hr
        simp only
        rw [if_neg (by simp [hw])]
        unfold Broker.recent
        by_cases hage : b.plant.livenessAge x
            ((resources.filter LeaseResource.active).map LeaseResource.gpuId) now <
              seconds cfg.idleLeaseAlertSeconds
        · rw [if_pos hage]
          exact iff_of_false (by simp [recentlyAlive]) fun h => h.2 hage
        · rw [if_neg hage]
          exact iff_of_true rfl ⟨hnone, hage⟩
  · simp only [hwhole, ne_eq, not_false_eq_true, if_true, true_and, false_and, or_false]
    exact Iff.rfl

/-! ## The rows of a published lease -/

/-- The view's active rows of a live lease are its cards. -/
theorem mem_resourcesByLease (cfg : Config) (endpointId : Option String) (hx : x ∈ b.ledger.leases)
    (hl : x.state.live = true) {r : LeaseResource} :
    r ∈ ((b.view cfg endpointId).resourcesByLease x.id).filter LeaseResource.active ↔
      r ∈ b.ledger.cards x.id := by
  have hm : x.id ∈ (b.view cfg endpointId).leases.map Lease.id :=
    List.mem_map_of_mem (mem_viewLeases.2 ⟨hx, hl⟩)
  unfold View.resourcesByLease
  rw [List.mem_filter, List.mem_filter, mem_viewResources, mem_cards, decide_eq_true_eq]
  constructor
  · rintro ⟨⟨⟨hr, -⟩, hid⟩, ha⟩
    exact ⟨hr, hid, ha⟩
  · rintro ⟨hr, hid, ha⟩
    exact ⟨⟨⟨hr, hid ▸ hm⟩, hid⟩, ha⟩

/-- How long ago a holder was heard from depends on which cards it has, not on their order. -/
theorem recent_congr {gpuIds gpuIds' : List String} (h : ∀ g, g ∈ gpuIds ↔ g ∈ gpuIds') :
    b.recent cfg now x gpuIds ↔ b.recent cfg now x gpuIds' := by
  have hage : b.plant.livenessAge x gpuIds now = b.plant.livenessAge x gpuIds' now := by
    unfold Plant.livenessAge
    simp only
    congr 3
    apply List.filter_congr
    intro p _
    exact decide_eq_decide.2 (h p.gpuId)
  unfold Broker.recent
  rw [hage]

/-- The card is gone from its server's last complete observation. -/
def Broker.absent (b : Broker) (gpuId : String) : Bool :=
  (b.plant.gpu? gpuId).any fun g => !g.present

/-- The lease is live and holds cards, all of them on server `e`. -/
structure Broker.HoldsOn (b : Broker) (x : Lease) (e : String) : Prop where
  mem : x ∈ b.ledger.leases
  live : x.state.live = true
  cards : b.ledger.cards x.id ≠ []
  server : ∀ r ∈ b.ledger.cards x.id, b.plant.endpointOf r.gpuId = e

/-- The row of a card a lease holds. -/
theorem Kept.gpu_of_card (hk : Kept b) {id : String} {r : LeaseResource}
    (hr : r ∈ b.ledger.cards id) : ∃ g, b.plant.gpu? r.gpuId = some g := by
  obtain ⟨hm, -, -⟩ := mem_cards.1 hr
  obtain ⟨g, hg, hid⟩ := List.mem_map.1 (hk.intact.resourceGpu r hm)
  exact ⟨g, hid ▸ row?_of_mem hk.intact.gpuPk hg⟩

theorem endpointOf_gpu {g : GPUDevice} {gpuId : String} (hg : b.plant.gpu? gpuId = some g) :
    b.plant.endpointOf gpuId = g.endpointId := by
  unfold Plant.endpointOf
  rw [hg]
  rfl

section

variable {e : String}

/-- A published lease with its cards on `e` is published because the snapshot shows `e`. -/
theorem shown_of_published (hb : Reachable cfg b) (hh : b.HoldsOn x e)
    (hp : x ∈ b.publishedLeases (b.view cfg endpointId) (b.plant.visibleIds endpointId)) :
    x.kind = .workload ∧ e ∈ b.plant.visibleIds endpointId := by
  have hk := hb.kept
  obtain ⟨-, hq⟩ := List.mem_filter.1 hp
  obtain ⟨hw, hq⟩ := of_decide_eq_true hq
  refine ⟨hw, ?_⟩
  rcases hq with hq | hq
  · obtain ⟨r, hr, hq⟩ := List.any_eq_true.1 hq
    obtain ⟨ha, hg⟩ := Bool.and_eq_true_iff.1 hq
    obtain ⟨g, hg, hid⟩ := List.mem_map.1 (of_decide_eq_true hg)
    have hvis := mem_endpointGpus.1 hg
    have hcard : r ∈ b.ledger.cards x.id :=
      (mem_resourcesByLease cfg endpointId hh.mem hh.live).1 (List.mem_filter.2 ⟨hr, ha⟩)
    have hrow : b.plant.gpu? r.gpuId = some g :=
      hid ▸ row?_of_mem hk.intact.gpuPk (List.mem_of_mem_filter hvis)
    have he := hh.server r hcard
    rw [endpointOf_gpu hrow] at he
    have hv := of_decide_eq_true (List.mem_filter.1 hvis).2
    rwa [he] at hv
  · -- a provider's lease holds no card
    obtain ⟨a, ha, hq⟩ := List.any_eq_true.1 hq
    obtain ⟨-, hprov⟩ := of_decide_eq_true hq
    obtain ⟨hm, hid⟩ := List.mem_filter.1 ha
    have hlease : a.leaseId = some x.id := of_decide_eq_true hid
    have hempty := hb.unplugged a ((mem_charged hlease).2 ⟨hm, hprov⟩) x.id hlease
    refine absurd hempty (cardSet_nonempty.2 ?_).ne_empty
    rw [folio_active]
    exact hh.cards

/-- A card the snapshot shows of `e`, where it is present. -/
theorem mem_visibleGpus (hv : e ∈ b.plant.visibleIds endpointId) {g : GPUDevice} {gpuId : String}
    (hg : b.plant.gpu? gpuId = some g) (he : b.plant.endpointOf gpuId = e) :
    g ∈ b.visibleGpus endpointId := by
  rw [endpointOf_gpu hg] at he
  refine List.mem_filter.2 ⟨(row?_some hg).1, ?_⟩
  rw [he]
  exact decide_eq_true hv

/-- The snapshot's word on whether the lease's server answers is the server's. -/
theorem leaseEndpointsUnreachable_eq (hk : Kept b) (hh : b.HoldsOn x e)
    (hv : e ∈ b.plant.visibleIds endpointId) :
    b.leaseEndpointsUnreachable cfg now (b.view cfg endpointId)
      ((b.view cfg endpointId).resourcesByLease x.id) = b.plant.endpointUnreachable cfg now e := by
  set v := b.view cfg endpointId
  have howner : ∀ r ∈ (v.resourcesByLease x.id).filter LeaseResource.active,
      (row? GPUDevice.id r.gpuId v.endpointGpus).map GPUDevice.endpointId = some e := by
    intro r hr
    have hcard := (mem_resourcesByLease cfg endpointId hh.mem hh.live).1 hr
    obtain ⟨g, hg⟩ := hk.gpu_of_card hcard
    have he := hh.server r hcard
    have hm : g ∈ v.endpointGpus := mem_endpointGpus.2 (mem_visibleGpus hv hg he)
    have hn : (v.endpointGpus.map GPUDevice.id).Nodup := by
      have hperm : (v.endpointGpus.map GPUDevice.id).Perm
          ((b.visibleGpus endpointId).map GPUDevice.id) := (List.perm_insertionSort _ _).map _
      exact hperm.nodup_iff.2 (hk.intact.gpuPk.sublist (List.filter_sublist.map _))
    have hid := (row?_some hg).2
    rw [← hid, row?_of_mem hn hm, Option.map_some, ← endpointOf_gpu hg, he]
  have hnil : (v.resourcesByLease x.id).filter LeaseResource.active ≠ [] := by
    obtain ⟨r, hr⟩ := List.exists_mem_of_ne_nil _ hh.cards
    exact List.ne_nil_of_mem ((mem_resourcesByLease cfg endpointId hh.mem hh.live).2 hr)
  -- so its owners are this one server
  have hall : ∀ o ∈ ((v.resourcesByLease x.id).filter LeaseResource.active).filterMap (fun r =>
      (row? GPUDevice.id r.gpuId v.endpointGpus).map GPUDevice.endpointId), o = e := by
    intro o ho
    obtain ⟨r, hr, he⟩ := List.mem_filterMap.1 ho
    exact Option.some.inj (he.symm.trans (howner r hr))
  have hmem : e ∈ ((v.resourcesByLease x.id).filter LeaseResource.active).filterMap (fun r =>
      (row? GPUDevice.id r.gpuId v.endpointGpus).map GPUDevice.endpointId) := by
    obtain ⟨r, hr⟩ := List.exists_mem_of_ne_nil _ hnil
    exact List.mem_filterMap.2 ⟨r, hr, howner r hr⟩
  unfold Broker.leaseEndpointsUnreachable
  simp only
  rw [Bool.eq_iff_iff, Bool.and_eq_true, List.all_eq_true]
  constructor
  · rintro ⟨-, h⟩
    exact h e hmem
  · intro h
    refine ⟨?_, fun o ho => hall o ho ▸ h⟩
    cases hl : ((v.resourcesByLease x.id).filter LeaseResource.active).filterMap (fun r =>
        (row? GPUDevice.id r.gpuId v.endpointGpus).map GPUDevice.endpointId) with
    | nil =>
      rw [hl] at hmem
      cases hmem
    | cons o os => rfl

/-- What the snapshot counts on a card of the lease: its processes, unless it is absent. -/
theorem view_processes_of_card (hk : Kept b) (hh : b.HoldsOn x e)
    (hv : e ∈ b.plant.visibleIds endpointId) {r : LeaseResource} (hr : r ∈ b.ledger.cards x.id) :
    ((b.view cfg endpointId).processesByGpu r.gpuId).length = 0 ↔
      b.absent r.gpuId = true ∨ b.plant.currentProcesses r.gpuId = [] := by
  obtain ⟨g, hg⟩ := hk.gpu_of_card hr
  have hvis := mem_visibleGpus hv hg (hh.server r hr)
  have hid := (row?_some hg).2
  have habs : b.absent r.gpuId = !g.present := by
    unfold Broker.absent
    rw [hg]
    rfl
  rw [habs, List.length_eq_zero_iff]
  by_cases hp : g.present = true
  · have hn := view_processesByGpu_nil cfg hvis hp
    rw [hid] at hn
    simp [hp, hn]
  · -- no process of an absent card is loaded
    have hnil : (b.view cfg endpointId).processesByGpu r.gpuId = [] := by
      refine List.filter_eq_nil_iff.2 fun p hm hq => ?_
      have hm := (List.mem_filter.1 ((List.mem_insertionSort _).1 hm)).2
      obtain ⟨hin, -⟩ := of_decide_eq_true hm
      rw [of_decide_eq_true hq] at hin
      obtain ⟨g', hg', hid'⟩ := List.mem_map.1 hin
      obtain ⟨hm', hp'⟩ := List.mem_filter.1 hg'
      have he : g' = g := List.inj_on_of_nodup_map hk.intact.gpuPk
        (List.mem_of_mem_filter ((List.mem_insertionSort _).1 hm')) (row?_some hg).1
          (hid'.trans hid.symm)
      exact hp (he ▸ hp')
    simp [hp, hnil]

end

/-! ## The release -/

section

variable {actor : ActorContext} {e key : String} {barrier : Time}

/-- A clearing commits. -/
theorem Intact.emptyCleared (hb : Intact b) (x : Lease) (e actorId : String) (unreachable : Bool)
    (now : Time) : Intact ⟨b.plant, b.emptyCleared x e actorId unreachable now⟩ := by
  have hsettled := (Intact.editResources hb.bumpRevision
    (p := cardAmong x.id ((b.cardsOn x.id e).map LeaseResource.gpuId))
    (f := LeaseResource.settled (clearedReason unreachable) actorId now)
    (fun _ => rfl) fun _ h => by cases h).editLease (i := x.id) (f := Lease.raised)
      (fun _ => rfl) fun _ h => h
  have hended := Intact.editLease hsettled (i := x.id)
    (f := Lease.ended .released (some (clearedReason unreachable)) now) (fun _ => rfl)
    fun _ h => by cases h
  unfold Broker.emptyCleared
  refine Intact.addAudit (b := ⟨b.plant, ({ b with ledger := b.ledger.bumpRevision }.settleOn x.id e
    (clearedReason unreachable) actorId now)⟩) ?_ _ _ _ _ _ _ _
  unfold Broker.settleOn
  simp only
  split
  · exact hended
  · exact hsettled

/-- The button is pressed by an operator, under a new key, right after the server was looked at: it
does not answer, or the look covers every card of the lease. -/
structure Broker.Pressed (cfg : Config) (now : Time) (b : Broker) (actor : ActorContext)
    (x : Lease) (e : String) (barrier : Time) (key : String) : Prop where
  role : actor.role ∈ mutatingRoles
  fresh : b.ledger.replay actor "lease.empty.release" (some key) = .ok none
  looked : b.plant.endpointUnreachable cfg now e = true ∨
    b.plant.recollected cfg now e barrier = true ∧
      ∀ r ∈ b.ledger.cards x.id, b.plant.recollectedCard cfg now e barrier r.gpuId = true

theorem cardsOn_eq (hh : b.HoldsOn x e) : b.cardsOn x.id e = b.ledger.cards x.id :=
  List.filter_eq_self.2 fun r hr => decide_eq_true (hh.server r hr)

/-- **A pressed button asks the verdict alone**: the call succeeds where it allows the release, and
is refused where it does not. -/
theorem release_decided (hk : Kept b) (hh : b.HoldsOn x e)
    (hp : b.Pressed cfg now actor x e barrier key) :
    (∃ b' resp, releaseEmptyConflictedLease cfg now actor e x.id barrier key b = .ok (b', resp)) ↔
      (b.manualReleaseVerdict cfg now x (b.ledger.cards x.id)
        (b.plant.endpointUnreachable cfg now e)).allowed = true := by
  have hrow : b.ledger.lease? x.id = some x := row?_of_mem hk.intact.leasePk hh.mem
  have hcards := cardsOn_eq hh
  constructor
  · rintro ⟨b', resp, h⟩
    unfold releaseEmptyConflictedLease once at h
    simp only [bind_ok] at h
    obtain ⟨-, -, answer, hanswer, h⟩ := h
    rw [hp.fresh] at hanswer
    cases hanswer
    obtain ⟨b₁, hb, -, -⟩ := remembering_ok h
    simp only [bind_ok, need_ok, require_ok] at hb
    obtain ⟨-, -, -, -, y, hy, -, -, -, -, -, -, -, hv, -⟩ := hb
    rw [hrow] at hy
    cases hy
    rwa [hcards] at hv
  · intro hv
    obtain ⟨E, hE⟩ : ∃ E, b.plant.endpoint? e = some E := by
      obtain ⟨r, hr⟩ := List.exists_mem_of_ne_nil _ hh.cards
      obtain ⟨g, hg⟩ := hk.gpu_of_card hr
      have he := hh.server r hr
      rw [endpointOf_gpu hg] at he
      obtain ⟨E, hm, hid⟩ := List.mem_map.1 (hk.intact.gpuEndpoint g (row?_some hg).1)
      exact ⟨E, (hid.trans he) ▸ row?_of_mem hk.intact.endpointPk hm⟩
    have hlooked : b.plant.endpointUnreachable cfg now e = true ∨
        b.plant.recollected cfg now e barrier = true := hp.looked.imp_right And.left
    have hcovered : (if b.plant.endpointUnreachable cfg now e = true then none
        else (b.cardsOn x.id e).find? fun r =>
          !b.plant.recollectedCard cfg now e barrier r.gpuId) = none := by
      split
      · rfl
      · rename_i hu
        obtain ⟨-, hall⟩ := hp.looked.resolve_left hu
        rw [hcards]
        exact List.find?_eq_none.2 fun r hr => by simp [hall r hr]
    have hintact := hk.intact.emptyCleared x e actor.id (b.plant.endpointUnreachable cfg now e) now
    have hanswers : (b.emptyCleared x e actor.id (b.plant.endpointUnreachable cfg now e)
        now).idempotency = b.ledger.idempotency := by
      unfold Broker.emptyCleared Broker.settleOn
      simp only
      split <;> rfl
    unfold releaseEmptyConflictedLease
    refine accepted_bind (a := ()) (require_ok.2 hp.role)
      (once_accepted hp.fresh hintact hanswers ?_)
    apply Exists.intro
    refine bind_ok.2 ⟨E, need_ok.2 hE, bind_ok.2 ⟨(), require_ok.2 hp.role, ?_⟩⟩
    refine bind_ok.2 ⟨x, need_ok.2 hrow, bind_ok.2 ⟨(), require_ok.2 (Or.inr ?_), ?_⟩⟩
    · rw [hcards]
      exact hh.cards
    refine bind_ok.2 ⟨(), require_ok.2 hlooked, bind_ok.2 ⟨(), require_ok.2 hcovered, ?_⟩⟩
    refine bind_ok.2 ⟨(), require_ok.2 ?_, rfl⟩
    rw [hcards]
    exact hv

/-! ## The button -/

/-- Where the button is on, pressing it succeeds; where it is off, the call is refused and changes
nothing. -/
structure ButtonTells (cfg : Config) (now : Time) (endpointId : Option String) (b : Broker)
    (actor : ActorContext) (x : Lease) (e : String) (barrier : Time) (key : String) : Prop where
  on : (b.manualRelease cfg now (b.view cfg endpointId) x).allowed = true →
    ∃ b' resp, releaseEmptyConflictedLease cfg now actor e x.id barrier key b = .ok (b', resp)
  off : (b.manualRelease cfg now (b.view cfg endpointId) x).allowed = false →
    (∃ err, releaseEmptyConflictedLease cfg now actor e x.id barrier key b = .error err) ∧
      exec cfg b (.releaseEmptyConflictedLease now actor e x.id barrier key) = b

/-- No absent card of the lease is the only reason to refuse: its server does not answer, its
allocation decides, no absent card of it runs anything, a present one does too, or its holder was
heard from lately. -/
def Broker.presentDecides (cfg : Config) (now : Time) (b : Broker) (x : Lease) (e : String) :
    Prop :=
  b.plant.endpointUnreachable cfg now e = true ∨ b.wholes x ≠ [] ∨
    (∀ r ∈ b.ledger.cards x.id, b.absent r.gpuId = true → b.plant.currentProcesses r.gpuId = []) ∨
    (∃ r ∈ b.ledger.cards x.id, b.absent r.gpuId = false ∧ b.plant.currentProcesses r.gpuId ≠ []) ∨
    b.recent cfg now x ((b.ledger.cards x.id).map LeaseResource.gpuId)

instance (gpuIds : List String) : Decidable (b.recent cfg now x gpuIds) :=
  inferInstanceAs (Decidable (_ < _))

instance : Decidable (b.presentDecides cfg now x e) :=
  inferInstanceAs (Decidable (_ ∨ _ ∨ (∀ r ∈ _, _ → _) ∨ (∃ r ∈ _, _ ∧ _) ∨ _))

/-- What the release's verdict allows. -/
theorem release_verdict (hh : b.HoldsOn x e) (hw : x.kind = .workload) :
    (b.manualReleaseVerdict cfg now x (b.ledger.cards x.id)
        (b.plant.endpointUnreachable cfg now e)).allowed = true ↔
      b.wholes x ≠ [] ∧ (allocationVerdict cfg now x (b.wholes x)).allowed = true ∨
      b.wholes x = [] ∧ (b.plant.endpointUnreachable cfg now e = true ∨
        (∀ r ∈ b.ledger.cards x.id, b.plant.currentProcesses r.gpuId = []) ∧
          ¬ b.recent cfg now x ((b.ledger.cards x.id).map LeaseResource.gpuId)) := by
  have ha : ∀ r ∈ b.ledger.cards x.id, r.active = true := fun r hr => (mem_cards.1 hr).2.2
  have hself : (b.ledger.cards x.id).filter LeaseResource.active = b.ledger.cards x.id :=
    List.filter_eq_self.2 ha
  rw [manualReleaseVerdict_eq ha, verdictOn_allowed hh.live hw (by rw [hself]; exact hh.cards),
    hself]
  simp only [List.length_eq_zero_iff]

/-- What the snapshot's verdict allows: an absent card has no say. -/
theorem snapshot_verdict (hk : Kept b) (hh : b.HoldsOn x e) (hw : x.kind = .workload)
    (hv : e ∈ b.plant.visibleIds endpointId) :
    (b.manualRelease cfg now (b.view cfg endpointId) x).allowed = true ↔
      b.wholes x ≠ [] ∧ (allocationVerdict cfg now x (b.wholes x)).allowed = true ∨
      b.wholes x = [] ∧ (b.plant.endpointUnreachable cfg now e = true ∨
        (∀ r ∈ b.ledger.cards x.id,
          b.absent r.gpuId = true ∨ b.plant.currentProcesses r.gpuId = []) ∧
          ¬ b.recent cfg now x ((b.ledger.cards x.id).map LeaseResource.gpuId)) := by
  have hrows : ∀ r, r ∈ ((b.view cfg endpointId).resourcesByLease x.id).filter
      LeaseResource.active ↔ r ∈ b.ledger.cards x.id := fun r =>
    mem_resourcesByLease cfg endpointId hh.mem hh.live
  have hne : ((b.view cfg endpointId).resourcesByLease x.id).filter LeaseResource.active ≠ [] := by
    obtain ⟨r, hr⟩ := List.exists_mem_of_ne_nil _ hh.cards
    exact List.ne_nil_of_mem ((hrows r).2 hr)
  have hrecent : b.recent cfg now x ((((b.view cfg endpointId).resourcesByLease x.id).filter
      LeaseResource.active).map LeaseResource.gpuId) ↔
      b.recent cfg now x ((b.ledger.cards x.id).map LeaseResource.gpuId) := by
    refine recent_congr fun g => ?_
    simp only [List.mem_map, hrows]
  have hquiet : (∀ r ∈ ((b.view cfg endpointId).resourcesByLease x.id).filter LeaseResource.active,
      ((b.view cfg endpointId).processesByGpu r.gpuId).length = 0) ↔
      ∀ r ∈ b.ledger.cards x.id,
        b.absent r.gpuId = true ∨ b.plant.currentProcesses r.gpuId = [] := by
    constructor
    · intro h r hr
      exact (view_processes_of_card hk hh hv hr).1 (h r ((hrows r).2 hr))
    · intro h r hr
      have hr := (hrows r).1 hr
      exact (view_processes_of_card hk hh hv hr).2 (h r hr)
  unfold Broker.manualRelease
  simp only
  rw [leaseEndpointsUnreachable_eq hk hh hv, verdictOn_allowed hh.live hw hne, hrecent, hquiet]

/-- **The button tells the truth**, at the same instant and on the same rows, exactly when no absent
card of the lease is the only reason to refuse. -/
theorem button_iff (hb : Reachable cfg b) (hh : b.HoldsOn x e)
    (hp : x ∈ b.publishedLeases (b.view cfg endpointId) (b.plant.visibleIds endpointId))
    (hpress : b.Pressed cfg now actor x e barrier key) :
    ButtonTells cfg now endpointId b actor x e barrier key ↔ b.presentDecides cfg now x e := by
  have hk := hb.kept
  obtain ⟨hw, hv⟩ := shown_of_published hb hh hp
  have hcall := release_decided hk hh hpress
  rw [release_verdict hh hw] at hcall
  have hshown := @snapshot_verdict cfg now b x endpointId e hk hh hw hv
  -- the call and the button differ where only absent cards run something
  have hagree : ButtonTells cfg now endpointId b actor x e barrier key ↔
      ((b.manualRelease cfg now (b.view cfg endpointId) x).allowed = true ↔
        ∃ b' resp, releaseEmptyConflictedLease cfg now actor e x.id barrier key b =
          .ok (b', resp)) := by
    constructor
    · intro h
      refine ⟨h.on, fun ⟨b', resp, hok⟩ => ?_⟩
      by_contra hoff
      obtain ⟨⟨err, herr⟩, -⟩ := h.off (by simpa using hoff)
      rw [herr] at hok
      cases hok
    · intro h
      refine ⟨h.1, fun hoff => ?_⟩
      have hno : ∀ b' resp, releaseEmptyConflictedLease cfg now actor e x.id barrier key b ≠
          .ok (b', resp) := by
        intro b' resp hok
        rw [h.2 ⟨b', resp, hok⟩] at hoff
        cases hoff
      rcases exec_cases cfg b (.releaseEmptyConflictedLease now actor e x.id barrier key) with
        ⟨b', resp, hok, -⟩ | ⟨hfail, hback⟩
      · exact absurd hok (hno b' resp)
      · exact ⟨hfail, hback⟩
  rw [hagree, hcall, hshown]
  unfold Broker.presentDecides
  by_cases hu : b.plant.endpointUnreachable cfg now e = true
  · simp [hu]
  by_cases hwhole : b.wholes x = []
  case neg => simp [hwhole]
  by_cases hrec : b.recent cfg now x ((b.ledger.cards x.id).map LeaseResource.gpuId)
  · simp [hwhole, hu, hrec]
  simp only [hwhole, hu, hrec, ne_eq, not_true_eq_false, false_and, true_and, false_or, or_false,
    not_false_eq_true, and_true, Bool.false_eq_true]
  constructor
  · intro h
    by_cases hpresent : ∃ r ∈ b.ledger.cards x.id, b.absent r.gpuId = false ∧
        ¬ b.plant.currentProcesses r.gpuId = []
    · exact Or.inr hpresent
    · refine Or.inl fun r hr _ => h.1 (fun s hs => ?_) r hr
      by_contra hno
      rw [not_or] at hno
      exact hpresent ⟨s, hs, by simpa using hno.1, hno.2⟩
  · rintro (habsent | ⟨s, hs, hpresent, hbusy⟩)
    · refine ⟨fun h r hr => (h r hr).elim (habsent r hr) id, fun h r hr => Or.inr (h r hr)⟩
    · refine ⟨fun h => ?_, fun h r hr => Or.inr (h r hr)⟩
      rcases h s hs with ha | hn
      · rw [hpresent] at ha
        cases ha
      · exact absurd hn hbusy

end

/-! ## A lease on one card -/

/-- A claim of one card, and what two later looks see: processes on the card, and then, at `at_`,
the card `uuid` idle. -/
def lookedAgain (pids : List ℕ) (uuid : String) (at_ : Time) : Broker :=
  Run.run (exec plainConfig) sampleFleet
    [.ingestObservation 0 (lookAtOne "alpha" "GPU-0" 0 []) sampleToken,
     .createRequest 0 (sampleActor "ann") oneCard none true "lease" (sampleToken "lease"),
     .ingestObservation (seconds 10) (lookAtOne "alpha" "GPU-0" (seconds 10) pids) sampleToken,
     .ingestObservation at_ (lookAtOne "alpha" uuid at_ []) sampleToken]

theorem lookedAgain_reachable (pids : List ℕ) (uuid : String) (at_ : Time) :
    Reachable plainConfig (lookedAgain pids uuid at_) := ⟨_, sampleFleet_seeded, _, rfl⟩

/-- The button of the lease can be pressed at `now`. -/
def Broker.offersButton (b : Broker) (x : Lease) (now : Time) : Prop :=
  (x.state.live = true ∧ b.ledger.cards x.id ≠ [] ∧
    ∀ r ∈ b.ledger.cards x.id, b.plant.endpointOf r.gpuId = "alpha") ∧
  x ∈ b.publishedLeases (b.view plainConfig none) (b.plant.visibleIds none) ∧
  (b.ledger.replay (sampleActor "ann") "lease.empty.release" (some "clear")).toOption = some none ∧
  b.plant.recollected plainConfig now "alpha" now = true ∧
  ∀ r ∈ b.ledger.cards x.id, b.plant.recollectedCard plainConfig now "alpha" now r.gpuId = true

instance (b : Broker) (x : Lease) (now : Time) : Decidable (b.offersButton x now) :=
  inferInstanceAs (Decidable ((_ ∧ _ ∧ ∀ r ∈ _, _) ∧ _ ∧ _ ∧ _ ∧ ∀ r ∈ _, _))

theorem Broker.offersButton.pressed {b : Broker} {now : Time} {id : String}
    (hx : b.ledger.lease? id = some x) (h : b.offersButton x now) :
    b.HoldsOn x "alpha" ∧
      x ∈ b.publishedLeases (b.view plainConfig none) (b.plant.visibleIds none) ∧
      b.Pressed plainConfig now (sampleActor "ann") x "alpha" now "clear" := by
  obtain ⟨⟨hl, hc, hs⟩, hp, hf, hr, hg⟩ := h
  refine ⟨⟨lease?_mem hx, hl, hc, hs⟩, hp, by decide, ?_, Or.inr ⟨hr, hg⟩⟩
  cases ha : b.ledger.replay (sampleActor "ann") "lease.empty.release" (some "clear") with
  | error e =>
    rw [ha] at hf
    cases hf
  | ok a =>
    rw [ha] at hf
    cases hf
    rfl

/-- The lease of an idle card, quiet for longer than the alert window: its button is on, and
works. -/
theorem quietLease_button : ∃ x, (lookedAgain [] "GPU-0" (seconds 700)).ledger.leases = [x] ∧
    ((lookedAgain [] "GPU-0" (seconds 700)).manualRelease plainConfig (seconds 700)
      ((lookedAgain [] "GPU-0" (seconds 700)).view plainConfig none) x).allowed = true ∧
    ButtonTells plainConfig (seconds 700) none (lookedAgain [] "GPU-0" (seconds 700))
      (sampleActor "ann") x "alpha" (seconds 700) "clear" := by
  have hlen : (lookedAgain [] "GPU-0" (seconds 700)).ledger.leases.length = 1 := by decide +kernel
  obtain ⟨x, hx⟩ := List.length_eq_one_iff.1 hlen
  have hall : ∀ x ∈ (lookedAgain [] "GPU-0" (seconds 700)).ledger.leases,
      (lookedAgain [] "GPU-0" (seconds 700)).ledger.lease? x.id = some x ∧
      (lookedAgain [] "GPU-0" (seconds 700)).offersButton x (seconds 700) ∧
      (lookedAgain [] "GPU-0" (seconds 700)).presentDecides plainConfig (seconds 700) x "alpha" ∧
      ((lookedAgain [] "GPU-0" (seconds 700)).manualRelease plainConfig (seconds 700)
        ((lookedAgain [] "GPU-0" (seconds 700)).view plainConfig none) x).allowed = true := by
    decide +kernel
  obtain ⟨hrow, hoffers, hdecides, hallowed⟩ := hall x (by rw [hx]; exact List.mem_singleton_self x)
  obtain ⟨hh, hp, hpress⟩ := hoffers.pressed hrow
  exact ⟨x, hx, hallowed, (button_iff (lookedAgain_reachable _ _ _) hh hp hpress).2 hdecides⟩

/-! ## A button that does not work -/

/-- **A card that went away with a process on it**: the button is on, and the release is refused for
the process. -/
theorem absentCard_misleads :
    ¬ ∀ b, Reachable plainConfig b → ∀ now endpointId actor x e barrier key, b.HoldsOn x e →
      x ∈ b.publishedLeases (b.view plainConfig endpointId) (b.plant.visibleIds endpointId) →
      b.Pressed plainConfig now actor x e barrier key →
      ButtonTells plainConfig now endpointId b actor x e barrier key := by
  intro h
  have hsome : ((lookedAgain [7] "GPU-1" (seconds 1000)).ledger.lease? "lease").isSome = true := by
    decide +kernel
  obtain ⟨x, hx⟩ := Option.isSome_iff_exists.1 hsome
  have hall : ∀ x ∈ (lookedAgain [7] "GPU-1" (seconds 1000)).ledger.lease? "lease",
      (lookedAgain [7] "GPU-1" (seconds 1000)).offersButton x (seconds 1000) ∧
      ((lookedAgain [7] "GPU-1" (seconds 1000)).manualRelease plainConfig (seconds 1000)
        ((lookedAgain [7] "GPU-1" (seconds 1000)).view plainConfig none) x).allowed = true := by
    decide +kernel
  obtain ⟨hoffers, hallowed⟩ := hall x hx
  obtain ⟨hh, hp, hpress⟩ := hoffers.pressed hx
  obtain ⟨b', resp, hok⟩ := (h _ (lookedAgain_reachable _ _ _) _ _ _ x _ _ _ hh hp hpress).on
    hallowed
  rw [lease?_id hx] at hok
  have hrefused :
      (releaseEmptyConflictedLease plainConfig (seconds 1000) (sampleActor "ann") "alpha"
      "lease" (seconds 1000) "clear" (lookedAgain [7] "GPU-1" (seconds 1000))).toOption = none := by
    decide +kernel
  rw [hok] at hrefused
  cases hrefused

end ServerPilot
