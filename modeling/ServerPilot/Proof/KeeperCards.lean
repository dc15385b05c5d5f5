import ServerPilot.Proof.Clocks
import ServerPilot.Proof.Evidence

/-!
# A keeper's card is there

A card leaves its server's inventory in one way, a complete observation without it,
and the same transaction ends the keeper the card had. So in every run a keeper
holds one card, and that card is present: `keepers_stand`.
-/

namespace ServerPilot

open Rows Checked

/-- A keepalive lease is on file under this id. -/
def Ledger.isKeeper (l : Ledger) (id : String) : Prop :=
  ∃ x ∈ l.leases, x.id = id ∧ x.kind = .keepalive

/-- A keeper holds one card, and that one is in the inventory. -/
def Broker.KeepersStand (b : Broker) : Prop :=
  ∀ id, b.ledger.isKeeper id → ∀ g ∈ (b.ledger.folio id).cardSet,
    (b.ledger.folio id).cardSet = {g} ∧ ∃ c ∈ b.plant.gpus, c.id = g ∧ c.present = true

/-- No lease becomes a keeper, and keepers take no cards. -/
def KeepersThin (l l' : Ledger) : Prop :=
  ∀ id, l'.isKeeper id →
    l.isKeeper id ∧ (l'.folio id).cardSet ⊆ (l.folio id).cardSet

section

variable {l l' : Ledger} {b b' : Broker} {id : String}

theorem Ledger.isKeeper_iff : l.isKeeper id ↔
    ∃ x ∈ l.deeds, x.id = id ∧ x.kind = .keepalive := by
  unfold Ledger.isKeeper Ledger.deeds
  constructor
  · rintro ⟨x, hx, hid, hk⟩
    exact ⟨x.deed, List.mem_map_of_mem hx, hid, hk⟩
  · rintro ⟨y, hy, hid, hk⟩
    obtain ⟨x, hx, rfl⟩ := List.mem_map.1 hy
    exact ⟨x, hx, hid, hk⟩

theorem isKeeper_congr (h : l'.deeds = l.deeds) : l'.isKeeper id ↔ l.isKeeper id := by
  rw [Ledger.isKeeper_iff, Ledger.isKeeper_iff, h]

/-- A keeper's holding. -/
theorem Ledger.isKeeper.holding (h : l.isKeeper id) : ∃ x, l.holding? id = some x := by
  obtain ⟨x, hx, rfl, -⟩ := h
  cases hl : l.lease? x.id with
  | none => exact absurd rfl (row?_none hl x hx)
  | some y => exact ⟨_, holding_of_lease hl⟩

/-- The same deeds, and holdings that only lost cards. -/
theorem KeepersThin.of_each {R : Holding String String → Holding String String → Prop}
    (hR : ∀ {h h'}, R h h' → h'.cards ⊆ h.cards) (hd : l'.deeds = l.deeds) (e : Each R l l') :
    KeepersThin l l' := by
  intro id hk
  have hold : l.isKeeper id := (isKeeper_congr hd).1 hk
  refine ⟨hold, ?_⟩
  obtain ⟨x, hx⟩ := hold.holding
  obtain ⟨y, hy, r⟩ := e.related id x hx
  have hsub := hR r
  rwa [holding_cards hx, holding_cards hy] at hsub

theorem Closing.thin (h : Closing l l') : KeepersThin l l' :=
  .of_each (fun r => r.shrinks.subset) h.deeds h.ends

/-- Keepers that take no cards stand, if the cards they are left with stay present. -/
theorem Broker.KeepersStand.thin (hb : b.KeepersStand) (ht : KeepersThin b.ledger b'.ledger)
    (hp : ∀ id, b'.ledger.isKeeper id → ∀ c ∈ b.plant.gpus, c.present = true →
      c.id ∈ (b'.ledger.folio id).cardSet → ∃ d ∈ b'.plant.gpus, d.id = c.id ∧ d.present = true) :
    b'.KeepersStand := by
  intro id hk g hg
  obtain ⟨hold, hsub⟩ := ht id hk
  obtain ⟨hone, c, hc, rfl, hpresent⟩ := hb id hold g (hsub hg)
  refine ⟨?_, hp id hk c hc hpresent hg⟩
  exact Finset.Subset.antisymm (hone ▸ hsub) (Finset.singleton_subset_iff.2 hg)

theorem Broker.KeepersStand.of_gpus (hb : b.KeepersStand) (ht : KeepersThin b.ledger b'.ledger)
    (hp : ∀ c ∈ b.plant.gpus, c.present = true → c ∈ b'.plant.gpus) : b'.KeepersStand :=
  hb.thin ht fun _ _ c hc hpresent _ => ⟨c, hp c hc hpresent, rfl, hpresent⟩

end

/-! ## One look at a node -/

section

variable {cfg : Config} {now : Time} {e : String} {b : Broker} {o : NodeObservation}

/-- A sample leaves every present card present. -/
theorem seeGpu_present {n : String} {t : Time} {p : Plant} {s : TelemetryInput} {c : GPUDevice}
    (hc : c ∈ p.gpus) (hp : c.present = true) :
    ∃ d ∈ (p.seeGpu e n t s).gpus, d.id = c.id ∧ d.present = true := by
  unfold Plant.seeGpu
  simp only
  split
  · by_cases hid : c.id = gpuIdOf e n s.gpuUuid
    · exact ⟨_, mem_updWhere.2 ⟨c, hc, Or.inl ⟨decide_eq_true hid, rfl⟩⟩, rfl, rfl⟩
    · exact ⟨c, mem_updWhere.2 ⟨c, hc, Or.inr ⟨decide_eq_false hid, rfl⟩⟩, rfl, hp⟩
  · exact ⟨c, List.mem_append_left _ hc, rfl, hp⟩

theorem seen_present {c : GPUDevice} (hc : c ∈ b.plant.gpus) (hp : c.present = true) :
    ∃ d ∈ ((b.plant.readHost e o now).seeCards e o now).gpus, d.id = c.id ∧ d.present = true := by
  rw [seeCards_gpus]
  apply Run.foldl_inv (I := fun p : Plant => ∃ d ∈ p.gpus, d.id = c.id ∧ d.present = true)
  · rintro p s - ⟨d, hd, hid, hpresent⟩
    obtain ⟨d', hd', hid', hpresent'⟩ := seeGpu_present (e := e) (n := o.nodeId)
      (t := o.observedAt) (s := s) hd hpresent
    exact ⟨d', hd', hid'.trans hid, hpresent'⟩
  · exact ⟨c, hc, rfl, hp⟩

/-- Ending the keeper of an absent card leaves it no card. -/
theorem releaseAbsentKeepers_empty {l : Ledger} {actorId i : String} {ids : List String}
    (hi : i ∈ ids) (hk : l.isKeeper i) :
    ((ids.foldl (releaseAbsentKeeper actorId now) l).folio i).cardSet = ∅ := by
  have hclosing : ∀ (l : Ledger) (ids : List String),
      Closing l (ids.foldl (releaseAbsentKeeper actorId now) l) := by
    intro l ids
    apply Run.foldl_inv (I := Closing l) _ (.refl l)
    intro l' j _ hl
    exact hl.trans ((endLease_closing rfl _ now).trans (.of_tables rfl rfl rfl))
  obtain ⟨before, after, rfl⟩ := List.append_of_mem hi
  rw [List.foldl_append, List.foldl_cons]
  set m := before.foldl (releaseAbsentKeeper actorId now) l
  have hm : m.isKeeper i := (isKeeper_congr (hclosing l before).deeds).2 hk
  obtain ⟨x, hx⟩ := hm.holding
  have hended : (releaseAbsentKeeper actorId now m i).holding? i = some x.close := by
    have h : (m.endLease i .released (some "gpu absent from endpoint inventory") now).holding? i =
        (m.holding? i).map Holding.close := holding_endLease rfl _ now
    rw [hx] at h
    exact h
  have hempty : ((releaseAbsentKeeper actorId now m i).folio i).cardSet = ∅ :=
    (holding_cards hended).symm
  have hk' : (after.foldl (releaseAbsentKeeper actorId now)
      (releaseAbsentKeeper actorId now m i)).isKeeper i :=
    (isKeeper_congr ((hclosing _ after).deeds.trans (hclosing m [i]).deeds)).2 hm
  exact Finset.subset_empty.1 (hempty ▸ ((hclosing _ after).thin i hk').2)

/-- The keepers of absent cards end, so those that are left have theirs, if every absent card a
keeper has is on one of the servers. -/
theorem releaseAbsentKeepers_stand {s : Broker} {endpointIds : List String}
    (hn : (s.ledger.leases.map Lease.id).Nodup) (hw : Wellkept s.ledger)
    (hids : (s.plant.gpus.map GPUDevice.id).Nodup)
    (hs : ∀ id, s.ledger.isKeeper id → ∀ g ∈ (s.ledger.folio id).cardSet,
      (s.ledger.folio id).cardSet = {g} ∧ ∃ c ∈ s.plant.gpus, c.id = g ∧
        (c.present = false → c.endpointId ∈ endpointIds)) :
    (s.releaseAbsentKeepers endpointIds now).KeepersStand := by
  have hthin : KeepersThin s.ledger (s.releaseAbsentKeepers endpointIds now).ledger :=
    (releaseAbsentKeepers_closing s.plant s.ledger endpointIds).thin
  intro id hk g hg
  obtain ⟨hold, hsub⟩ := hthin id hk
  obtain ⟨hone, c, hc, rfl, hgone⟩ := hs id hold g (hsub hg)
  refine ⟨Finset.Subset.antisymm (hone ▸ hsub) (Finset.singleton_subset_iff.2 hg), c, ?_, rfl, ?_⟩
  · rw [releaseAbsentKeepers_gpus]
    exact hc
  by_contra hp
  have hp : c.present = false := by simpa using hp
  -- the lease is among those the transaction ends
  obtain ⟨x, hx, rfl, hkind⟩ := hold
  have hrows : ∀ r ∈ s.ledger.cards x.id, r.gpuId = c.id := by
    intro r hr
    have hm : r.gpuId ∈ (s.ledger.folio x.id).cardSet := mem_cardSet.2 ⟨r, hr, rfl⟩
    rw [hone] at hm
    exact Finset.mem_singleton.1 hm
  have hrow : ∃ r ∈ s.ledger.cards x.id, r.gpuId = c.id := mem_cardSet.1 (hsub hg)
  have hfound : s.plant.gpu? c.id = some c := gpu?_of_mem hids hc
  have hlive : x.state.terminal = false := by
    rw [LeaseState.terminal_eq_not_live, Bool.not_eq_false']
    by_contra hlive
    have hdead : x.state.live = false := by simpa using hlive
    have hsound := hw x.id _ (holding_of_lease (row?_of_mem hn hx))
    have hempty : (s.ledger.folio x.id).cardSet = ∅ := hsound.empty hdead
    rw [hempty] at hone
    exact absurd (hone.symm ▸ Finset.mem_singleton_self c.id) (Finset.notMem_empty _)
  have hmem : x ∈ s.absentKeepers endpointIds := by
    refine List.mem_filter.2 ⟨hx, decide_eq_true ⟨hkind, hlive, ?_, ?_⟩⟩
    · obtain ⟨r, hr, hrg⟩ := hrow
      refine List.any_eq_true.2 ⟨r, hr, ?_⟩
      rw [hrg, endpointOf_of_mem hids hc]
      simpa using hgone hp
    · refine List.all_eq_true.2 fun r hr => ?_
      rw [hrows r hr, hfound]
      simp [hp]
  have hended : ((s.releaseAbsentKeepers endpointIds now).ledger.folio x.id).cardSet = ∅ := by
    have hfold : ∀ actorId : String, ((((s.absentKeepers endpointIds).map Lease.id).foldl
        (releaseAbsentKeeper actorId now) s.ledger).folio x.id).cardSet = ∅ := fun actorId =>
      releaseAbsentKeepers_empty (List.mem_map_of_mem hmem) ⟨x, hx, rfl, hkind⟩
    have habsent : c.id ∈ (s.plant.gpus.filter fun g =>
        g.endpointId ∈ endpointIds ∧ g.present = false).map GPUDevice.id :=
      List.mem_map_of_mem (List.mem_filter.2 ⟨hc, decide_eq_true ⟨hgone hp, hp⟩⟩)
    unfold Broker.releaseAbsentKeepers
    simp only
    rw [if_neg (List.ne_nil_of_mem habsent)]
    split <;> exact hfold _
  rw [hended] at hg
  exact Finset.notMem_empty _ hg

/-- A card that a complete look marks absent is on its server, or on one the look displaced. -/
theorem marked_on {q : Plant} {mine : List (String × String)} {observed : List String}
    {c : GPUDevice} (hids : (q.gpus.map GPUDevice.id).Nodup) (hq : q.Named) (he : ':' ∉ e.toList)
    (hmine : ∀ m ∈ mine, ∃ u, m.2 = gpuIdOf e o.nodeId u) (hc : c ∈ q.gpus)
    (hp : c.present = true) :
    ∃ d ∈ ((q.convergeOwnership cfg e mine o.observedAt).1.markAbsent e o.nodeId observed
        o.observedAt).gpus, d.id = c.id ∧ (d.present = false → d.endpointId ∈
      (e :: (q.convergeOwnership cfg e mine o.observedAt).2).dedup) := by
  simp only [List.mem_dedup, List.mem_cons]
  set lost := (q.gpus.filter (siblingOf e (mine.map Prod.fst))).filter
    fun g => !incumbent cfg o.observedAt g with hlost
  -- what `convergeOwnership` makes of the row
  have hfirst : ∃ d ∈ (q.convergeOwnership cfg e mine o.observedAt).1.gpus, d.id = c.id ∧
      d.endpointId = c.endpointId ∧ (d.present = false → c.endpointId = e ∨
        c.endpointId ∈ (q.convergeOwnership cfg e mine o.observedAt).2) := by
    unfold Plant.convergeOwnership
    simp only
    rw [← hlost]
    set losers := lost.map GPUDevice.id ++ (mine.filter fun m => m.1 ∈
      ((q.gpus.filter (siblingOf e (mine.map Prod.fst))).filter
        (incumbent cfg o.observedAt)).map GPUDevice.gpuUuid).map Prod.snd with hlosers
    by_cases hl : c.id ∈ losers
    · refine ⟨_, mem_updWhere.2 ⟨c, hc, Or.inl ⟨decide_eq_true hl, rfl⟩⟩, rfl, rfl, fun _ => ?_⟩
      rcases List.mem_append.1 hl with hl | hl
      · obtain ⟨x, hx, hid⟩ := List.mem_map.1 hl
        have hxq : x ∈ q.gpus := List.mem_of_mem_filter (List.mem_of_mem_filter hx)
        obtain rfl : x = c := List.inj_on_of_nodup_map hids hxq hc hid
        exact Or.inr (List.mem_dedup.2 (List.mem_map_of_mem hx))
      · obtain ⟨m, hm, hid⟩ := List.mem_map.1 hl
        obtain ⟨u, hu⟩ := hmine m (List.mem_of_mem_filter hm)
        obtain ⟨hform, hcolon⟩ := hq c hc
        exact Or.inl (gpuIdOf_endpoint hcolon he (hform.symm.trans (hid.symm.trans hu)))
    · refine ⟨c, mem_updWhere.2 ⟨c, hc, Or.inr ⟨decide_eq_false hl, rfl⟩⟩, rfl, rfl, fun h => ?_⟩
      rw [hp] at h
      cases h
  obtain ⟨d, hd, hid, hend, hon⟩ := hfirst
  unfold Plant.markAbsent
  by_cases hl : d.endpointId = e ∧ d.nodeId = o.nodeId ∧ d.id ∉ observed ∧ d.present = true
  · exact ⟨_, mem_updWhere.2 ⟨d, hd, Or.inl ⟨decide_eq_true hl, rfl⟩⟩, hid, fun _ => Or.inl hl.1⟩
  · refine ⟨d, mem_updWhere.2 ⟨d, hd, Or.inr ⟨decide_eq_false hl, rfl⟩⟩, hid, fun h => ?_⟩
    rw [hend]
    exact hon h

/-- What one look needs to find, and leaves. -/
structure Broker.StandsApart (s : Broker) : Prop where
  stand : s.KeepersStand
  leaseIds : (s.ledger.leases.map Lease.id).Nodup
  wellkept : Wellkept s.ledger
  ids : (s.plant.gpus.map GPUDevice.id).Nodup
  named : s.plant.Named

/-- **One look** at a node leaves no keeper without its card. -/
theorem ingestNode_stands (hb : b.StandsApart) (he : ':' ∉ e.toList) :
    (ingestNodeObservation cfg e now b o).StandsApart := by
  have hclosing : Closing b.ledger (ingestNodeObservation cfg e now b o).ledger :=
    ingestNodeObservation_closing e b o
  refine ⟨?_, hclosing.keys.leases ▸ hb.leaseIds, hclosing.ends.wellkept
    (fun r => (Holding.Closes.shrinks r).sound) hb.wellkept, ids_ingest hb.ids,
    named_ingest hb.named he⟩
  unfold ingestNodeObservation
  split
  · exact hb.stand
  set q := (b.plant.readHost e o now).seeCards e o now with hq
  have hqids : (q.gpus.map GPUDevice.id).Nodup := ids_seen hb.ids
  have hqnamed : q.Named := named_seen hb.named he
  have hseen : ∀ id, b.ledger.isKeeper id → ∀ g ∈ (b.ledger.folio id).cardSet,
      (b.ledger.folio id).cardSet = {g} ∧ ∃ c ∈ q.gpus, c.id = g ∧ c.present = true := by
    intro id hk g hg
    obtain ⟨hone, c, hc, rfl, hp⟩ := hb.stand id hk g hg
    exact ⟨hone, seen_present hc hp⟩
  have hafter : ∀ s : Broker, s.KeepersStand →
      ({ s with plant := s.plant.seeProcesses cfg e o now } : Broker).KeepersStand := by
    intro s hs id hk g hg
    obtain ⟨hone, c, hc, hrest⟩ := hs id hk g hg
    exact ⟨hone, c, (seeProcesses_gpus cfg e o s.plant now).symm ▸ hc, hrest⟩
  refine hafter _ ?_
  simp only
  split
  · exact hseen
  · refine releaseAbsentKeepers_stand hb.leaseIds hb.wellkept ?_ fun id hk g hg => ?_
    · unfold Plant.markAbsent Plant.convergeOwnership
      exact (ids_hide.trans ids_hide).symm ▸ hqids
    · obtain ⟨hone, c, hc, rfl, hp⟩ := hseen id hk g hg
      refine ⟨hone, marked_on hqids hqnamed he (fun m hm => ?_) hc hp⟩
      obtain ⟨s, -, rfl⟩ := List.mem_map.1 hm
      exact ⟨s.gpuUuid, rfl⟩

/-- **An observation** leaves no keeper without its card. -/
theorem ingested_stand (hk : Kept b) (hb : b.KeepersStand) (hp : b.plant.Named)
    {o : EndpointObservation} (he : ':' ∉ o.endpointId.toList)
    (token : String → String → String) : (b.ingested cfg now o token).1.KeepersStand := by
  set b₁ := o.nodes.foldl (ingestNodeObservation cfg o.endpointId now)
    { b with ledger := b.ledger.bumpRevision } with hb₁
  have h₁ : b₁.StandsApart := by
    apply Run.foldl_inv (I := Broker.StandsApart)
    · intro s n _ hs
      exact ingestNode_stands hs he
    · exact ⟨hb, hk.intact.leasePk, hk.wellkept, hk.intact.gpuPk, hp⟩
  -- what comes after the nodes takes cards at most
  have ha : Closing b₁.ledger (b.absorb cfg now o).ledger :=
    absorb_after cfg now hk.intact.leasePk o
  have habsorb := absorb_closing cfg now hk.intact.leasePk o
  have hc : Closing b₁.ledger (b.beforePass cfg now o).ledger :=
    ha.trans (normalizeConflicts_keeps (habsorb.keys.leases ▸ hk.intact.leasePk)).closing
  have hs := pass_sweep cfg now token b o
  have hf := hs.fades ((beforePass_closing cfg now hk.intact.leasePk o).keys.rows ▸
    hk.intact.leaseGpu)
  have hr := @auditRecovery_keeps now ((b.absorb cfg now o).reconcileLeases cfg now
    ("collector:" ++ o.endpointId) token).1.ledger (b.plant.recovers o) o.endpointId
  refine h₁.stand.of_gpus (.of_each (R := Holding.Shrinks) (fun r => r.subset) ?_ ?_)
    fun c hc _ => ?_
  · exact hr.deeds.trans (hs.keys.deeds.trans hc.deeds)
  · exact hc.ends.fades.trans (hf.trans hr.ends.fades)
  · rw [ingested_plant, absorb_gpus]
    exact hc

end

/-! ## Every transaction -/

section

variable {cfg : Config} {now : Time} {b b' : Broker} {op : Op} {resp : Response}

/-- A target leaves the card rows of the leases on file. -/
theorem rows_activateKeeper {endpointId actorId : String} {token : String → String} {id : String}
    {t : GPUDevice × Option Lease} {l : Ledger}
    (hn : ((l.activateKeeper cfg endpointId actorId token now t).leases.map Lease.id).Nodup)
    (hid : l.lease? id ≠ none) :
    l.lease? id ≠ none ∧ (l.activateKeeper cfg endpointId actorId token now t).lease? id ≠ none ∧
      ((l.activateKeeper cfg endpointId actorId token now t).folio id).rows =
        (l.folio id).rows := by
  obtain ⟨new, hids⟩ := ids_activateKeeper cfg now endpointId actorId token l t
  refine ⟨hid, fun h => ?_, ?_⟩
  · rw [lease?_eq_none, hids] at h
    exact hid (lease?_eq_none.2 fun hm => h (List.mem_append_left _ hm))
  · cases ht : t.2 with
    | some x =>
      unfold Ledger.activateKeeper
      rw [ht]
      rfl
    | none =>
      have hfresh := activateKeeper_fresh cfg now endpointId actorId token ht hn
      have hne : id ≠ (keeperLease cfg (token t.1.id) endpointId t.1.id now l.revision).id :=
        fun he => hid (he ▸ hfresh)
      rw [folio_activateKeeper_none cfg now endpointId actorId token ht,
        folio_insertLease _ _ _ _ _ (by simp), if_neg hne]

theorem rows_activateKeepers {endpointId actorId : String} {token : String → String} {id : String}
    (ts : List (GPUDevice × Option Lease)) {l : Ledger}
    (hn : ((ts.foldl (Ledger.activateKeeper cfg endpointId actorId token now) l).leases.map
      Lease.id).Nodup) (hid : l.lease? id ≠ none) :
    ((ts.foldl (Ledger.activateKeeper cfg endpointId actorId token now) l).folio id).rows =
      (l.folio id).rows := by
  induction ts generalizing l with
  | nil => rfl
  | cons t ts ih =>
    obtain ⟨new, hids⟩ := ids_activateKeepers cfg now endpointId actorId token
      (l.activateKeeper cfg endpointId actorId token now t) ts
    have hstep := hn
    rw [List.foldl_cons, hids] at hstep
    obtain ⟨-, hid', hrows⟩ := rows_activateKeeper (List.nodup_append.1 hstep).1 hid
    exact (ih hn hid').trans hrows

/-- An activation gives every new keeper one card, a target's. -/
theorem activateKeepers_single {endpointId actorId : String} {token : String → String}
    {id : String} (ts : List (GPUDevice × Option Lease)) {l : Ledger} (hg : Grounded l)
    (hn : ((ts.foldl (Ledger.activateKeeper cfg endpointId actorId token now) l).leases.map
      Lease.id).Nodup) (hid : l.lease? id = none)
    (hk : (ts.foldl (Ledger.activateKeeper cfg endpointId actorId token now) l).lease? id ≠ none) :
    ∃ t ∈ ts, ((ts.foldl (Ledger.activateKeeper cfg endpointId actorId token now) l).folio
      id).cardSet = {t.1.id} := by
  induction ts generalizing l with
  | nil => exact absurd hid hk
  | cons t ts ih =>
    have hg' := grounded_activateKeeper cfg now endpointId actorId token hg t
    by_cases hstep : (l.activateKeeper cfg endpointId actorId token now t).lease? id = none
    · obtain ⟨t', ht', hc⟩ := ih hg' hn hstep hk
      exact ⟨t', List.mem_cons_of_mem t ht', hc⟩
    · refine ⟨t, List.mem_cons_self, ?_⟩
      have hrows := @rows_activateKeepers cfg now _ _ _ _ ts _ hn hstep
      have hnone : t.2 = none := by
        cases ht : t.2 with
        | none => rfl
        | some x =>
          refine absurd ?_ hstep
          have h := lease?_editLease l id x.id (f := Lease.keeperConfirmed now) fun _ => rfl
          unfold Ledger.activateKeeper
          rw [ht]
          refine h.trans ?_
          rw [hid]
          split <;> rfl
      set k := keeperLease cfg (token t.1.id) endpointId t.1.id now l.revision
      have hf := folio_activateKeeper_none (l := l) cfg now endpointId actorId token hnone id
      rw [folio_insertLease _ _ _ _ _ (by simp)] at hf
      -- the lease is the one this target brings
      have hown : id = k.id := by
        by_contra hne
        rw [if_neg hne] at hf
        exact hstep ((congrArg Folio.lease hf).trans hid)
      rw [if_pos hown, folio_absent hg hid] at hf
      unfold Folio.cardSet Folio.active
      rw [List.foldl_cons, hrows, hf]
      exact cardSet_newRows none k.id [t.1.id] []

/-- A keeper there is after a transaction was one before, or an activation began it. -/
theorem Deeds.keeper (d : Deeds b op b'.ledger) (hn : (b'.ledger.leases.map Lease.id).Nodup)
    {id : String} (hk : b'.ledger.isKeeper id) :
    b.ledger.isKeeper id ∨ b.ledger.lease? id = none ∧ ∃ now actor e gpuIds notBefore key confirmed
      token, op = .activateKeepalives now actor e gpuIds notBefore key confirmed token := by
  have edited : ∀ {i : String} {f : Lease → Lease}, (∀ y, (f y).id = y.id ∧ (f y).kind = y.kind) →
      b'.ledger.leases = updWhere (fun y => y.id = i) f b.ledger.leases → b.ledger.isKeeper id := by
    intro i f hf h
    obtain ⟨x, hx, hid, hkind⟩ := hk
    rw [h] at hx
    obtain ⟨y, hy, ⟨-, rfl⟩ | ⟨-, rfl⟩⟩ := mem_updWhere.1 hx
    · exact ⟨y, hy, (hf y).1.symm.trans hid, (hf y).2.symm.trans hkind⟩
    · exact ⟨x, hy, hid, hkind⟩
  cases d with
  | kept h => exact Or.inl ((isKeeper_congr h).1 hk)
  | drawn new hnew h =>
    obtain ⟨y, hy, hid, hkind⟩ := Ledger.isKeeper_iff.1 hk
    rw [h] at hy
    rcases List.mem_append.1 hy with hy | hy
    · exact Or.inl (Ledger.isKeeper_iff.2 ⟨y, hy, hid, hkind⟩)
    · refine Or.inr ⟨?_, ?_⟩
      · have hids : b'.ledger.leases.map Lease.id =
            b.ledger.leases.map Lease.id ++ new.map Lease.id := by
          have h := congrArg (List.map Lease.id) h
          unfold Ledger.deeds at h
          rw [List.map_append, List.map_map, List.map_map, List.map_map] at h
          exact h
        rw [hids] at hn
        obtain ⟨x, hx, rfl⟩ := List.mem_map.1 hy
        rw [lease?_eq_none]
        exact fun hm => (List.nodup_append.1 hn).2.2 _ hm _ (List.mem_map_of_mem hx) hid.symm
      · obtain ⟨x, hx, rfl⟩ := List.mem_map.1 hy
        have hkx : x.kind = .keepalive := hkind
        have hd := hnew x hx
        unfold Op.draws at hd
        split at hd
        · rw [hd.1] at hkx
          cases hkx
        · rw [hd.1] at hkx
          cases hkx
        · exact ⟨_, _, _, _, _, _, _, _, rfl⟩
        · exact hd.elim
  | handed _ y actor session projectId now _ _ h =>
    exact Or.inl (edited (f := Lease.takenOver actor session projectId now) (fun _ => ⟨rfl, rfl⟩) h)
  | pinned i c h => exact Or.inl (edited (f := Lease.repinned c) (fun _ => ⟨rfl, rfl⟩) h)

/-- A workload is no keeper. -/
theorem Intact.not_keeper (hb : Intact b) {id : String} {x : Lease}
    (hx : b.ledger.lease? id = some x) (hkind : x.kind = .workload) : ¬ b.ledger.isKeeper id := by
  rintro ⟨y, hy, hid, hk⟩
  obtain ⟨hm, hxid⟩ := row?_some hx
  have he : y = x := List.inj_on_of_nodup_map hb.leasePk hy hm (hid.trans hxid.symm)
  rw [he, hkind] at hk
  cases hk

/-- **No transaction gives a keeper another card.** -/
theorem apply_keeper_cards (hk : Kept b) (h : op.apply cfg b = .ok (b', resp)) {id : String}
    (hid : b.ledger.isKeeper id) : (b'.ledger.folio id).cardSet ⊆ (b.ledger.folio id).cardSet := by
  obtain ⟨x, hx⟩ := hid.holding
  have hsub : ∀ {R : Holding String String → Holding String String → Prop},
      (∀ {h h'}, R h h' → h'.cards ⊆ h.cards) → Each R b.ledger b'.ledger →
        (b'.ledger.folio id).cardSet ⊆ (b.ledger.folio id).cardSet := by
    intro R hR e
    obtain ⟨y, hy, r⟩ := e.related id x hx
    have hcards := hR r
    rwa [holding_cards hx, holding_cards hy] at hcards
  have hsame : b'.ledger.holding? id = b.ledger.holding? id →
      (b'.ledger.folio id).cardSet ⊆ (b.ledger.folio id).cardSet := by
    intro he
    rw [← holding_cards hx, ← holding_cards (he.trans hx)]
  cases apply_life hk.intact hk.wellkept h with
  | ends e => exact hsub (fun r => r.shrinks.subset) e
  | loses _ f => exact hsub (fun r => r.subset) f
  | opens gpuIds _ o => exact hsame (o.old id (by rw [hx]; simp)).1
  | resizes i ho a =>
    refine hsame (a.others id fun he => ?_)
    cases op with
    | resizeLease =>
      obtain ⟨-, -, y, -, hy, hkind, -⟩ := resize_resized hk.intact h
      cases ho
      exact hk.intact.not_keeper hy hkind (he ▸ hid)
    | _ => cases ho
  | moves m ho _ a =>
    cases op with
    | reassignLeaseGpus now actor leaseId =>
      rcases reassign_moved hk.intact h with rfl | ⟨-, -, y, -, hy, hkind, -⟩
      · exact Finset.Subset.refl _
      · cases ho
        refine hsame (a.others id fun he => ?_)
        obtain rfl : id = leaseId := he
        exact hk.intact.not_keeper hy hkind hid
    | _ => cases ho
  | uproots e _ u =>
    refine hsub (fun r => ?_) u
    rcases r with r | r
    · exact fun g hg => ((r.cards g).1 hg).1
    · rw [r.cards]
      exact Finset.empty_subset _

/-- A keeper an activation begins has one card, that shows its worker. -/
theorem activate_stand (hk : Kept b) {actor : ActorContext} {e key id : String}
    {gpuIds : List String} {notBefore : Time} {confirmed : Option (List (String × ℕ × String))}
    {token : String → String}
    (h : activateKeepalives cfg now actor e gpuIds notBefore key confirmed token b =
      .ok (b', resp)) (hnone : b.ledger.lease? id = none) (hid : b'.ledger.isKeeper id) :
    ∃ c ∈ b.plant.gpus, (b'.ledger.folio id).cardSet = {c.id} ∧ c.present = true := by
  obtain ⟨y, hy⟩ := hid.holding
  rcases activateKeepalives_ok h with rfl | ⟨targets, processes, ht, hn, hp, hw, hc, hi, hb'⟩
  · obtain ⟨x, hx, rfl, -⟩ := hid
    exact absurd rfl (row?_none hnone x hx)
  set l := (b.keepersActivated cfg e actor.id targets processes token now).ledger with hl
  have hfolio : ∀ i, b'.ledger.folio i = l.folio i := by
    intro i
    rw [hb']
    exact folio_remember l i actor "keepalive.activate_gpus" (some key) resp now
  have hids : (l.leases.map Lease.id).Nodup := by
    have hn := hi.leasePk
    rw [hb', leases_remember] at hn
    exact hn
  have hfound : l.lease? id ≠ none := by
    intro hnot
    have h := holding_congr (hfolio id)
    rw [hy, holding_absent.2 hnot] at h
    cases h
  obtain ⟨t, htm, hone⟩ := activateKeepers_single targets
    (l := b.ledger.bumpRevision) ⟨hk.intact.grounded.rows, hk.intact.grounded.pledges⟩ hids hnone
    hfound
  obtain ⟨gpuId, hg, hgt⟩ := mem_of_mapM_ok ht htm
  obtain ⟨hfoundCard, -⟩ := keepaliveTarget_ok hgt
  obtain ⟨d, rfl, hd⟩ := target_proved hn hp hw hc hg
  obtain ⟨k, r, hread⟩ := hd.read
  obtain ⟨hcard, -, hpresent⟩ := hread.card
  obtain rfl : t.1 = d := Option.some.inj (hfoundCard.symm.trans hcard)
  exact ⟨t.1, (row?_some hcard).1, by rw [hfolio]; exact hone, hpresent⟩

/-- **One transaction** leaves no keeper without its card. -/
theorem exec_stand (hk : Kept b) (hp : b.plant.Named) (hop : op.namesServer)
    (hb : b.KeepersStand) : (exec cfg b op).KeepersStand := by
  rcases exec_cases cfg b op with ⟨b', resp, h, he⟩ | ⟨-, he⟩
  swap
  · rw [he]
    exact hb
  rw [he]
  have hi := apply_intact hk.intact h
  -- the cards the keepers of before are left with
  have hold : ∀ id, b.ledger.isKeeper id → ∀ g ∈ (b'.ledger.folio id).cardSet,
      (b'.ledger.folio id).cardSet = {g} ∧ ∃ c ∈ b.plant.gpus, c.id = g ∧ c.present = true := by
    intro id hid g hg
    have hsub := apply_keeper_cards hk h hid
    obtain ⟨hone, hc⟩ := hb id hid g (hsub hg)
    exact ⟨Finset.Subset.antisymm (hone ▸ hsub) (Finset.singleton_subset_iff.2 hg), hc⟩
  have hboth : (∀ c ∈ b.plant.gpus, c.present = true → c.id ∈ b'.plant.gpus.map GPUDevice.id →
      c ∈ b'.plant.gpus) → b'.KeepersStand := by
    intro hgpus id hid g hg
    have hknown : g ∈ b'.plant.gpus.map GPUDevice.id := by
      obtain ⟨y, hy⟩ := hid.holding
      exact held_known hi hy g (holding_cards hy ▸ hg)
    rcases (apply_deeds hk.intact h).keeper hi.leasePk hid with hid | ⟨hnone, now, actor, e, gpuIds,
      notBefore, key, confirmed, token, rfl⟩
    · obtain ⟨hone, c, hc, rfl, hpresent⟩ := hold id hid g hg
      exact ⟨hone, c, hgpus c hc hpresent hknown, rfl, hpresent⟩
    · obtain ⟨c, hc, hone, hpresent⟩ := activate_stand hk h hnone hid
      rw [hone, Finset.mem_singleton] at hg
      subst hg
      exact ⟨hone, c, hgpus c hc hpresent hknown, rfl, hpresent⟩
  rcases apply_inventory hk h with heq | ⟨⟨now, o, token, rfl⟩, -⟩ | ⟨d, -, heq⟩
  · exact hboth fun c hc _ _ => heq ▸ hc
  · rcases ingestObservation_ok h with rfl | ⟨-, -, rfl⟩
    · exact hb
    · exact ingested_stand hk hb hp (not_colon_of_matchesId (hop (now, o) rfl)) token
  · refine hboth fun c hc _ hm => ?_
    obtain ⟨x, hx, hid⟩ := List.mem_map.1 hm
    have hxm := hx
    rw [heq] at hxm
    obtain rfl : x = c :=
      List.inj_on_of_nodup_map hk.intact.gpuPk (List.mem_of_mem_filter hxm) hc hid
    exact hx

theorem run_stand {ops : List Op} (hk : Kept b) (hp : b.plant.Named) (hb : b.KeepersStand)
    (hops : ∀ op ∈ ops, op.namesServer) : (Run.run (exec cfg) b ops).KeepersStand := by
  induction ops generalizing b with
  | nil => exact hb
  | cons op ops ih =>
    obtain ⟨hop, hops⟩ := List.forall_mem_cons.1 hops
    exact ih (exec_kept cfg b op hk) (owned_exec hk hp hop).1 (exec_stand hk hp hop hb) hops

/-- **In every run a keeper has one card, and that card is in the inventory.** -/
theorem keepers_stand {ops : List Op} (hs : Seeded b) (hops : ∀ op ∈ ops, op.namesServer) :
    (Run.run (exec cfg) b ops).KeepersStand := by
  refine run_stand hs.kept (fun g hg => ?_) (fun id hid => ?_) hops
  · rw [hs.gpus] at hg
    cases hg
  · obtain ⟨x, hx, -⟩ := hid
    rw [hs.leases] at hx
    cases hx

end

end ServerPilot
