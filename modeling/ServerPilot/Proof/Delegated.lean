import ServerPilot.Proof.Provided
import ServerPilot.Proof.Reclaim
import ServerPilot.Proof.Replay
import ServerPilot.Proof.Ties

/-!
# Delegated leases under observation

What one observation does to a lease whose allocation a provider holds. Its nodes
leave it, its pass only moves the clock of the allocation, and what ends it is a
fact that says the provider holds nothing any more: `ingested_over_iff`.
-/

namespace ServerPilot

open Rows

/-! ## Ended holdings -/

section

variable {l l' : Ledger} {i : String}

/-- The lease is there, and no longer live. -/
def Ledger.endedAt (l : Ledger) (i : String) : Prop :=
  ∃ h, l.holding? i = some h ∧ h.live = false

theorem Ledger.works.holding (hw : l.works i) : ∃ h, l.holding? i = some h := by
  obtain ⟨x, hx, rfl, -⟩ := hw
  cases hl : l.lease? x.id with
  | none => exact absurd rfl (row?_none hl x hx)
  | some y => exact ⟨_, holding_of_lease hl⟩

/-- A workload's lease is over when its holding has ended. -/
theorem over_iff_endedAt (hn : (l.leases.map Lease.id).Nodup) (hw : l.works i) :
    l.over i ↔ l.endedAt i := by
  obtain ⟨x, hx, rfl, hkind⟩ := hw
  have hl : l.lease? x.id = some x := row?_of_mem hn hx
  constructor
  · rintro ⟨y, hy, hid, -, hdead⟩
    obtain rfl : y = x := List.inj_on_of_nodup_map hn hy hx hid
    exact ⟨_, holding_of_lease hl, hdead⟩
  · rintro ⟨h, hh, hdead⟩
    rw [holding_of_lease hl] at hh
    cases hh
    exact ⟨x, hx, rfl, hkind, hdead⟩

theorem endedAt_congr (h : l'.holding? i = l.holding? i) : l'.endedAt i ↔ l.endedAt i := by
  unfold Ledger.endedAt
  rw [h]

end

/-! ## Nodes -/

section

variable {cfg : Config} {now : Time} {b : Broker} {i : String} {endpointId : String}

/-- Ending the keepers of absent cards is not about workloads. -/
theorem releaseAbsentKeepers_works (p : Plant) (hn : (b.ledger.leases.map Lease.id).Nodup)
    (hw : b.ledger.works i) (endpointIds : List String) :
    (Broker.releaseAbsentKeepers { b with plant := p } endpointIds now).ledger.folio i =
      b.ledger.folio i := by
  have hnot : i ∉ (Broker.absentKeepers { b with plant := p } endpointIds).map Lease.id := by
    intro hm
    obtain ⟨x, hx, rfl⟩ := List.mem_map.1 hm
    obtain ⟨hx, hc⟩ := List.mem_filter.1 hx
    obtain ⟨y, hy, hid, hkind⟩ := hw
    obtain rfl : y = x := List.inj_on_of_nodup_map hn hy hx hid
    rw [hkind] at hc
    simp at hc
  exact folio_releaseAbsentKeepers hnot

theorem ingestNodeObservation_works (hn : (b.ledger.leases.map Lease.id).Nodup)
    (hw : b.ledger.works i) (n : NodeObservation) :
    (ingestNodeObservation cfg endpointId now b n).ledger.folio i = b.ledger.folio i := by
  unfold ingestNodeObservation
  split
  · rfl
  simp only
  split
  · rfl
  · exact releaseAbsentKeepers_works _ hn hw _

/-- **The nodes of an observation** leave the workloads. -/
theorem nodes_works (hn : (b.ledger.leases.map Lease.id).Nodup) (hw : b.ledger.works i)
    (ns : List NodeObservation) :
    (ns.foldl (ingestNodeObservation cfg endpointId now) b).ledger.folio i = b.ledger.folio i := by
  refine (Run.foldl_inv (I := fun s : Broker => s.ledger.folio i = b.ledger.folio i ∧
    Closing b.ledger s.ledger) ?_ ⟨rfl, .refl _⟩).1
  intro s n _ ⟨hf, hc⟩
  have hns : (s.ledger.leases.map Lease.id).Nodup := by
    rw [hc.keys.leases]
    exact hn
  have hws : s.ledger.works i := (works_of_deeds hc.keys.deeds).2 hw
  exact ⟨(ingestNodeObservation_works hns hws n).trans hf,
    hc.trans (ingestNodeObservation_closing endpointId s n)⟩

end

/-! ## Facts -/

section

variable {now : Time} {l : Ledger} {i : String}

/-- The fact an allocation is matched with ends the lease of it. -/
def ResourceAllocation.endsWith (a : ResourceAllocation) (facts : List AllocationFact)
    (now : Time) : Prop :=
  ∃ f, matchingFact facts a = some f ∧ (a.recordFact f now).state.terminal = true

/-- **One allocation** ends the lease it belongs to, if its fact says so. -/
theorem ingestAllocation_endedAt (facts : List AllocationFact) (a : ResourceAllocation)
    (hi : ∃ h, l.holding? i = some h) :
    (ingestAllocation facts now l a).endedAt i ↔
      l.endedAt i ∨ (a.leaseId = some i ∧ a.endsWith facts now) := by
  unfold ingestAllocation ResourceAllocation.endsWith
  simp only
  cases hm : matchingFact facts a with
  | none =>
    refine (endedAt_congr (l := l) rfl).trans ⟨Or.inl, fun h => h.resolve_right ?_⟩
    rintro ⟨-, f, hf, -⟩
    cases hf
  | some f =>
    have hlease := (recordFact_same a f now).leaseId
    have hends : (∃ g, some f = some g ∧ (a.recordFact g now).state.terminal = true) ↔
        (a.recordFact f now).state.terminal = true := by simp
    rw [hends]
    simp only
    cases hj : (a.recordFact f now).leaseId.filter fun _ => (a.recordFact f now).state.terminal with
    | none =>
      refine (endedAt_congr (l := l) rfl).trans ⟨Or.inl, fun h => h.resolve_right ?_⟩
      rintro ⟨hi, ht⟩
      rw [hlease, hi, Option.filter_some, if_pos ht] at hj
      cases hj
    | some j =>
      obtain ⟨hj, ht⟩ := Option.filter_eq_some_iff.1 hj
      rw [hlease] at hj
      simp only [ht, and_true, hj, Option.some.injEq]
      set l₁ := l.editAllocations (fun y => y.id = a.id) fun _ => a.recordFact f now with hl₁
      by_cases hlive : (l₁.lease? j).any (fun x => x.state.live) = true
      · rw [if_pos hlive]
        by_cases hji : j = i
        · subst hji
          obtain ⟨h, hh⟩ := hi
          refine iff_of_true ⟨h.close, ?_, rfl⟩ (Or.inr rfl)
          refine (holding_endLease (l := l₁) rfl _ now).trans ?_
          exact congrArg (Option.map Holding.close) hh
        · refine (endedAt_congr (l := l) (holding_congr ?_)).trans (by simp [hji])
          exact folio_endLease_ne (l := l₁) .released _ now fun h => hji h.symm
      · rw [if_neg hlive]
        by_cases hji : j = i
        · subst hji
          obtain ⟨h, hh⟩ := hi
          obtain ⟨x, hx, hlh⟩ := lease_of_holding hh
          have hx₁ : l₁.lease? j = some x := hx
          refine iff_of_true ⟨h, hh, ?_⟩ (Or.inr rfl)
          rw [hx₁] at hlive
          rw [hlh]
          exact Bool.eq_false_iff.2 hlive
        · exact (endedAt_congr (l := l) rfl).trans (by simp [hji])

/-- What an observation's facts say of the allocations of lease `i`: one of them ends it. -/
def Ledger.reportedOver (l : Ledger) (o : EndpointObservation) (now : Time) (i : String) : Prop :=
  ∃ a ∈ l.allocationsOf i, (a.endpointId = o.endpointId ∧ a.providerId ≠ "builtin") ∧
    a.endsWith (o.allocations.map (AllocationFact.withNodes o)) now

theorem ingestAllocations_endedAt (o : EndpointObservation) (hi : ∃ h, l.holding? i = some h) :
    (l.ingestAllocations o now).endedAt i ↔ l.endedAt i ∨ l.reportedOver o now i := by
  have hfold : ∀ (facts : List AllocationFact) (as : List ResourceAllocation) (l : Ledger),
      (∃ h, l.holding? i = some h) → ((as.foldl (ingestAllocation facts now) l).endedAt i ↔
        l.endedAt i ∨ ∃ a ∈ as, a.leaseId = some i ∧ a.endsWith facts now) := by
    intro facts as
    induction as with
    | nil => simp
    | cons a as ih =>
      intro l hl
      have hl' : ∃ h, (ingestAllocation facts now l a).holding? i = some h := by
        obtain ⟨h, hh⟩ := hl
        obtain ⟨h', hh', -⟩ := (ingestAllocation_closing facts l a).ends.related i h hh
        exact ⟨h', hh'⟩
      rw [List.foldl_cons, ih _ hl', ingestAllocation_endedAt facts a hl, or_assoc]
      simp
  unfold Ledger.ingestAllocations Ledger.reportedOver Ledger.allocationsOf
  rw [hfold _ _ l hi]
  simp only [List.mem_filter, decide_eq_true_eq]
  constructor
  · rintro (h | ⟨a, ⟨ha, hc⟩, hid, he⟩)
    · exact Or.inl h
    · exact Or.inr ⟨a, ⟨ha, hid⟩, hc, he⟩
  · rintro (h | ⟨a, ⟨ha, hid⟩, hc, he⟩)
    · exact Or.inl h
    · exact Or.inr ⟨a, ⟨ha, hc⟩, hid, he⟩

/-- **Before the pass**, an observation ends a workload's lease when a fact says so. -/
theorem absorb_endedAt {cfg : Config} {b : Broker} (hn : (b.ledger.leases.map Lease.id).Nodup)
    (hw : b.ledger.works i) (o : EndpointObservation) :
    (b.absorb cfg now o).ledger.endedAt i ↔
      b.ledger.endedAt i ∨ b.ledger.reportedOver o now i := by
  have hnodes : (o.nodes.foldl (ingestNodeObservation cfg o.endpointId now)
      { b with ledger := b.ledger.bumpRevision }).ledger.folio i = b.ledger.folio i :=
    nodes_works (b := { b with ledger := b.ledger.bumpRevision }) hn hw o.nodes
  obtain ⟨l, hfolio, hallocs, habsorb⟩ := absorb_holding hn o hnodes
  have hholding : l.holding? i = b.ledger.holding? i := holding_congr hfolio
  rw [endedAt_congr habsorb, ingestAllocations_endedAt o (by rw [hholding]; exact hw.holding),
    endedAt_congr hholding]
  unfold Ledger.reportedOver Ledger.allocationsOf
  rw [hallocs]

end

/-! ## The pass -/

section

variable {cfg : Config} {now : Time} {actorId : String} {s : Pass}
  {token : String → String → String} {i : String} {a : ResourceAllocation}

theorem reconcileDirect_charged (token : String → String) (lease : Lease) :
    (reconcileDirect cfg now actorId token lease s).1.ledger.charged = s.1.ledger.charged := by
  have hidle : (s.1.reconcileIdleLease cfg now actorId token lease).ledger.charged =
      s.1.ledger.charged := by
    unfold Broker.reconcileIdleLease
    simp only
    split
    · rfl
    split
    · rfl
    · have hsettled : (s.1.settleReclaimed cfg now actorId lease).accounts =
          s.1.ledger.accounts := by
        unfold Broker.settleReclaimed
        simp only
        split <;> rfl
      exact (charged_syncDirect ⟨s.1.plant, s.1.settleReclaimed cfg now actorId lease⟩ _ _ _
        _).trans (charged_congr hsettled)
  unfold reconcileDirect
  simp only
  split
  · split
    · exact hidle
    · split
      · exact hidle
      · exact (charged_congr (reconcileExpiry_accounts _ _)).trans hidle
  · rfl

/-- A row that a provider answers for is left by a visit to another lease. -/
theorem reconcileLease_row (hn : (s.1.ledger.allocations.map ResourceAllocation.id).Nodup)
    (ha : a ∈ s.1.ledger.allocations) (hp : a.providerId ≠ "builtin") (hi : a.leaseId ≠ some i) :
    a ∈ (reconcileLease cfg now actorId token s i).1.ledger.allocations := by
  unfold reconcileLease
  split
  · exact ha
  split
  · exact ha
  split
  · rename_i w hw
    have hwi : w ∈ s.1.ledger.allocations ∧ w.leaseId = some i := by
      simpa [Ledger.allocationsOf] using List.mem_of_find?_eq_some hw
    -- the row that is written is one of the lease's own
    have hne : decide (a.id = w.id) = false := by
      refine decide_eq_false fun hid => hi ?_
      rw [List.inj_on_of_nodup_map hn ha hwi.1 hid]
      exact hwi.2
    have hwrite : ∀ x, a ∈ updWhere (fun y => decide (y.id = w.id)) (fun _ => x)
        s.1.ledger.allocations := fun x => mem_updWhere.2 ⟨a, ha, Or.inr ⟨hne, rfl⟩⟩
    unfold reconcileAllocation
    simp only
    split
    · exact ha
    split
    · exact hwrite _
    split <;> exact hwrite _
  · have hcharged : a ∈ s.1.ledger.charged := List.mem_filter.2 ⟨ha, by simp [hp]⟩
    have hkept : ∀ lease,
        a ∈ (reconcileDirect cfg now actorId (token i) lease s).1.ledger.charged := by
      intro lease
      rw [reconcileDirect_charged]
      exact hcharged
    exact List.mem_of_mem_filter (hkept _)

/-- Visits add rows to the allocations at most, so their ids never repeat if they do not at the
end. -/
theorem visits_ids (ids : List String) (s : Pass) :
    List.Sublist (s.1.ledger.allocations.map ResourceAllocation.id)
      ((ids.foldl (reconcileLease cfg now actorId token) s).1.ledger.allocations.map
        ResourceAllocation.id) := by
  refine (Run.foldl_inv (I := fun t : Pass => Spares s.1.ledger t.1.ledger) ?_ (.of_eq rfl)).ids
  intro t i _ ht
  exact ht.trans (reconcileLease_spares token i)

/-- A row that a provider answers for is left by the visits to other leases. -/
theorem visits_row {ids : List String} {s : Pass}
    (hn : ((ids.foldl (reconcileLease cfg now actorId token) s).1.ledger.allocations.map
      ResourceAllocation.id).Nodup)
    (ha : a ∈ s.1.ledger.allocations) (hp : a.providerId ≠ "builtin")
    (hi : ∀ i ∈ ids, a.leaseId ≠ some i) :
    a ∈ (ids.foldl (reconcileLease cfg now actorId token) s).1.ledger.allocations := by
  induction ids generalizing s with
  | nil => exact ha
  | cons i ids ih =>
    rw [List.foldl_cons] at hn ⊢
    refine ih hn ?_ fun j hj => hi j (List.mem_cons_of_mem _ hj)
    refine reconcileLease_row (hn.sublist ?_) ha hp (hi i List.mem_cons_self)
    exact (reconcileLease_spares token i).ids.trans (visits_ids ids _)

/-- **A pass over a lease that a provider holds**: at its visit the row is as it was at the start,
and what the visit makes of the row is what the pass leaves. -/
theorem visits_at {ids : List String} {s : Pass} (hids : ids.Nodup) (hm : i ∈ ids)
    (hn : ((ids.foldl (reconcileLease cfg now actorId token) s).1.ledger.allocations.map
      ResourceAllocation.id).Nodup)
    (ha : a ∈ s.1.ledger.allocations) (hp : a.providerId ≠ "builtin") (hi : a.leaseId = some i) :
    ∃ t : Pass, a ∈ t.1.ledger.allocations ∧ t.1.plant = s.1.plant ∧
      t.1.ledger.folio i = s.1.ledger.folio i ∧
      (t.1.ledger.allocations.map ResourceAllocation.id).Nodup ∧
      (ids.foldl (reconcileLease cfg now actorId token) s).1.ledger.folio i =
        (reconcileLease cfg now actorId token t i).1.ledger.folio i ∧
      ∀ a' ∈ (reconcileLease cfg now actorId token t i).1.ledger.allocations,
        a'.providerId ≠ "builtin" → a'.leaseId = some i →
        a' ∈ (ids.foldl (reconcileLease cfg now actorId token) s).1.ledger.allocations := by
  obtain ⟨pre, post, rfl⟩ := List.append_of_mem hm
  obtain ⟨hpre, hpost⟩ : i ∉ pre ∧ i ∉ post := by
    rw [List.nodup_append] at hids
    refine ⟨fun h => hids.2.2 i h i List.mem_cons_self rfl, ?_⟩
    exact (List.nodup_cons.1 hids.2.1).1
  rw [List.foldl_append, List.foldl_cons] at hn ⊢
  set t := pre.foldl (reconcileLease cfg now actorId token) s with ht
  have hvisit : ∀ (p : Pass) j, Visit j p.1 (reconcileLease cfg now actorId token p j).1 :=
    fun _ j => reconcileLease_visit j
  have h₁ := foldl_visit_sweep Prod.fst hvisit pre s
  have h₂ := foldl_visit_sweep Prod.fst hvisit post (reconcileLease cfg now actorId token t i)
  have hnt : (t.1.ledger.allocations.map ResourceAllocation.id).Nodup :=
    hn.sublist ((reconcileLease_spares token i).ids.trans (visits_ids post _))
  refine ⟨t, ?_, h₁.plant, h₁.others i hpre, hnt, h₂.others i hpost, ?_⟩
  · exact visits_row hnt ha hp fun j hj hji => hpre (by rw [hi] at hji; cases hji; exact hj)
  · intro a' ha' hp' hi'
    exact visits_row hn ha' hp' fun j hj hji => hpost (by rw [hi'] at hji; cases hji; exact hj)

/-- The lease has an allocation that its provider takes back as a whole. -/
def Ledger.heldWhole (l : Ledger) (i : String) : Prop :=
  ∃ a ∈ l.allocationsOf i, a.providerId ≠ "builtin" ∧ a.releaseGranularity = "allocation"

theorem mem_allocationsOf {l : Ledger} {i : String} {a : ResourceAllocation} :
    a ∈ l.allocationsOf i ↔ a ∈ l.allocations ∧ a.leaseId = some i := by
  unfold Ledger.allocationsOf
  simp

/-- **A pass leaves a lease that is held as a whole**: only the clock of its allocation moves. -/
theorem visits_whole {ids : List String} {s : Pass} (hids : ids.Nodup)
    (hn : ((ids.foldl (reconcileLease cfg now actorId token) s).1.ledger.allocations.map
      ResourceAllocation.id).Nodup)
    (hw : s.1.ledger.heldWhole i) :
    (ids.foldl (reconcileLease cfg now actorId token) s).1.ledger.holding? i =
      s.1.ledger.holding? i := by
  by_cases hm : i ∈ ids
  · obtain ⟨a, ha, hp, hg⟩ := hw
    obtain ⟨ha, hi⟩ := mem_allocationsOf.1 ha
    obtain ⟨t, hat, -, hfolio, -, hlast, -⟩ := visits_at hids hm hn ha hp hi
    refine (holding_congr hlast).trans (Eq.trans ?_ (holding_congr hfolio))
    unfold reconcileLease
    split
    · rfl
    split
    · exact holding_editLease (f := fun x => { x with expiresAt := none }) (fun _ => rfl)
        fun _ _ => ⟨rfl, rfl, rfl, rfl, rfl⟩
    split
    · exact (reconcileAllocation_keeps _ _).holding i
    · rename_i hnone
      exact absurd hg (by simpa using List.find?_eq_none.1 hnone a (mem_allocationsOf.2 ⟨hat, hi⟩))
  · exact holding_congr ((foldl_visit_sweep Prod.fst (fun _ j => reconcileLease_visit j) ids
      s).others i hm)

end

/-! ## One observation -/

section

variable {cfg : Config} {now : Time} {b : Broker} {i : String}

/-- What an observation hears of a row leaves it with its lease, whole. -/
theorem heldWhole_absorb (hn : (b.ledger.allocations.map ResourceAllocation.id).Nodup)
    (o : EndpointObservation) (hw : b.ledger.heldWhole i) :
    (b.absorb cfg now o).ledger.heldWhole i := by
  obtain ⟨a, ha, hp, hg⟩ := hw
  obtain ⟨ha, hi⟩ := mem_allocationsOf.1 ha
  obtain ⟨a', ha', hheard⟩ := Checked.exists_of_forall₂ (absorb_heard cfg now hn o).1.flip ha
  have hsame : a.Same a' ∧ a'.releaseGranularity = a.releaseGranularity := by
    rcases hheard with rfl | ⟨-, rfl | ⟨f, -, rfl⟩⟩
    · exact ⟨.refl _, rfl⟩
    · exact ⟨⟨rfl, rfl, rfl⟩, rfl⟩
    · refine ⟨recordFact_same a f now, ?_⟩
      unfold ResourceAllocation.recordFact
      split <;> rfl
  exact ⟨a', mem_allocationsOf.2 ⟨ha', hsame.1.leaseId.trans hi⟩,
    fun h => hp (hsame.1.providerId.symm.trans h), hsame.2.trans hg⟩

/-- **What ends a lease that a provider holds**: of all that an observation brings, only a fact that
says the provider holds nothing for one of its allocations any more. -/
theorem ingested_over_iff (hb : Intact b) {o : EndpointObservation}
    {token : String → String → String} (hafter : Intact (b.ingested cfg now o token).1)
    (hw : b.ledger.works i) (hwhole : b.ledger.heldWhole i) :
    (b.ingested cfg now o token).1.ledger.over i ↔
      b.ledger.over i ∨ b.ledger.reportedOver o now i := by
  have hc := beforePass_closing cfg now hb.leasePk o
  have hpass : (b.ingested cfg now o token).1.ledger.holding? i =
      (b.absorb cfg now o).ledger.holding? i := by
    have hkeys := absorb_closing cfg now hb.leasePk o
    have hnorm : Keeps (b.absorb cfg now o).ledger (b.beforePass cfg now o).ledger :=
      normalizeConflicts_keeps (hkeys.keys.leases ▸ hb.leasePk)
    refine ((auditRecovery_keeps _ _ _).holding i).trans (Eq.trans ?_ (hnorm.holding i))
    refine visits_whole ?_ ?_ ?_
    · have hp : ((b.beforePass cfg now o).ledger.leases.map Lease.id).Nodup := by
        rw [hc.keys.leases]
        exact hb.leasePk
      exact hp.sublist (List.filter_sublist.map _)
    · have haudit : ∀ (l : Ledger) (recovered : Bool),
          (l.auditRecovery recovered o.endpointId now).allocations = l.allocations := by
        intro l recovered
        unfold Ledger.auditRecovery
        split <;> rfl
      have hids := hafter.allocationPk
      unfold Broker.ingested at hids
      rw [haudit] at hids
      exact hids
    · have hacc : (b.beforePass cfg now o).ledger.allocations =
          (b.absorb cfg now o).ledger.allocations :=
        congrArg Prod.fst (normalizeConflicts_accounts _)
      have hwhole' : (b.absorb cfg now o).ledger.heldWhole i :=
        heldWhole_absorb hb.allocationPk o hwhole
      unfold Ledger.heldWhole Ledger.allocationsOf at hwhole' ⊢
      rw [← hacc] at hwhole'
      exact hwhole'
  have hdeeds : (b.ingested cfg now o token).1.ledger.works i :=
    (works_of_deeds (deeds_ingested cfg now token hb o)).2 hw
  rw [over_iff_endedAt hafter.leasePk hdeeds, endedAt_congr hpass,
    absorb_endedAt hb.leasePk hw o, over_iff_endedAt hb.leasePk hw]

end

end ServerPilot
