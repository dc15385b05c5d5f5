import ServerPilot.Spec.Transitions
import ServerPilot.Proof.Evidence
import ServerPilot.Proof.Inventory
import ServerPilot.Proof.Replay
import ServerPilot.Proof.Ties

/-!
# No worker without a keeper

A worker confirmed on a card keeps its lease until a stop of it was recorded, or
until the broker ends the lease without having seen the worker stop, which it does
on purpose in three places: `worker_accounted`. The first of them takes the keeper
of a card that went over to another registration, `worker_orphaned`.
-/

namespace ServerPilot

open Rows Checked

/-! ## Keepers -/

section

variable {cfg : Config} {op : Op} {b b' : Broker} {resp : Response} {i g : String} {p : Plant}
  {l : Ledger}

theorem Broker.KeeperOf.cardSet (h : b.KeeperOf i g) : (b.ledger.folio i).cardSet = {g} := by
  unfold Folio.cardSet
  rw [folio_active, h.cards]
  rfl

theorem cards_of_cardSet (hn : (l.resources.map LeaseResource.cardKey).Nodup)
    (h : (l.folio i).cardSet = {g}) : (l.cards i).map LeaseResource.gpuId = [g] := by
  have hlen : (l.cards i).length = 1 := by
    rw [← card_cardSet hn, h]
    rfl
  obtain ⟨r, hr⟩ := List.length_eq_one_iff.1 hlen
  have hmem : r.gpuId ∈ (l.folio i).cardSet := mem_cardSet.2 ⟨r, by rw [hr]; simp, rfl⟩
  rw [h, Finset.mem_singleton] at hmem
  rw [hr, List.map_singleton, hmem]

/-- A keeper whose row stays, and that lives on its card, is a keeper still. -/
theorem Broker.KeeperOf.of_holding (hk : b.KeeperOf i g)
    (hrows : ∀ x ∈ b.ledger.leases, ∃ y ∈ b'.ledger.leases, y.id = x.id ∧ y.kind = x.kind)
    (hleases : (b'.ledger.leases.map Lease.id).Nodup)
    (hcards : (b'.ledger.resources.map LeaseResource.cardKey).Nodup) {h' : Holding String String}
    (hh : b'.ledger.holding? i = some h') (hlive : h'.live = true) (hset : h'.cards = {g}) :
    b'.KeeperOf i g := by
  obtain ⟨x, hx, hkind, -⟩ := hk.lease
  obtain ⟨y, hy, hid, hkind'⟩ := hrows x (lease?_mem hx)
  have hy' : b'.ledger.lease? i = some y := by
    rw [← lease?_id hx, ← hid]
    exact row?_of_mem hleases hy
  rw [holding_cards hh] at hset
  rw [holding_of_lease hy'] at hh
  cases hh
  exact ⟨⟨y, hy', hkind'.trans hkind, hlive⟩, cards_of_cardSet hcards hset⟩

/-- What a keeper holds. -/
theorem Broker.KeeperOf.holding (hk : b.KeeperOf i g) :
    ∃ h, b.ledger.holding? i = some h ∧ h.live = true ∧ h.cards = {g} := by
  obtain ⟨x, hx, -, hlive⟩ := hk.lease
  exact ⟨_, holding_of_lease hx, hlive, hk.cardSet⟩

/-- A keeper whose holding a transaction leaves is a keeper still. -/
theorem Broker.KeeperOf.stay (hk : b.KeeperOf i g) (hb : Intact b)
    (h : op.apply cfg b = .ok (b', resp)) (hh : b'.ledger.holding? i = b.ledger.holding? i) :
    b'.KeeperOf i g := by
  have hb' := apply_intact hb h
  obtain ⟨x, hx, hlive, hset⟩ := hk.holding
  exact hk.of_holding (fun _ hx => (apply_deeds hb h).kind hx) hb'.leasePk hb'.leaseGpu
    (hh.trans hx) hlive hset

/-- A keeper is no workload, so nothing that asks for one is about it. -/
theorem Broker.KeeperOf.ne (hk : b.KeeperOf i g) {j : String} {x : Lease}
    (hx : b.ledger.lease? j = some x) (hw : x.kind = .workload) : i ≠ j := by
  rintro rfl
  obtain ⟨y, hy, hkind, -⟩ := hk.lease
  rw [hx] at hy
  cases hy
  rw [hw] at hkind
  cases hkind

theorem Broker.KeeperOf.not_works (hk : b.KeeperOf i g) (hb : Intact b) : ¬ b.ledger.works i := by
  rintro ⟨x, hx, rfl, hw⟩
  exact hk.ne (row?_of_mem hb.leasePk hx) hw rfl

/-- A keeper has no allocation. -/
theorem Broker.KeeperOf.untied (hk : b.KeeperOf i g) (hb : Intact b) (ht : TiedToWork b.ledger) :
    i ∉ b.ledger.tied := fun hi => hk.not_works hb (ht i hi)

/-! ## Activation -/

section

variable {endpointId actorId : String} {token : String → String} {now : Time}

/-- The keepers there are stay keepers through an activation's targets. -/
theorem activateKeeper_keeps (hk : Broker.KeeperOf ⟨p, l⟩ i g) (t : GPUDevice × Option Lease)
    (hn : ((l.activateKeeper cfg endpointId actorId token now t).leases.map Lease.id).Nodup) :
    Broker.KeeperOf ⟨p, l.activateKeeper cfg endpointId actorId token now t⟩ i g := by
  obtain ⟨⟨x, hx, hkind, hlive⟩, hcards⟩ := hk
  change l.lease? i = some x at hx
  cases ht : t.2 with
  | some y =>
    have he := lease?_editLease l i y.id (f := Lease.keeperConfirmed now) fun _ => rfl
    unfold Ledger.activateKeeper
    rw [ht]
    refine ⟨?_, hcards⟩
    split at he
    · exact ⟨x.keeperConfirmed now, he.trans (by rw [hx]; rfl), hkind, rfl⟩
    · exact ⟨x, he.trans hx, hkind, hlive⟩
  | none =>
    have hfresh := activateKeeper_fresh cfg now endpointId actorId token ht hn
    have hne : i ≠ token t.1.id := by
      rintro rfl
      rw [hx] at hfresh
      cases hfresh
    have hf : (l.activateKeeper cfg endpointId actorId token now t).folio i = l.folio i := by
      rw [folio_activateKeeper_none cfg now endpointId actorId token ht,
        folio_insertLease _ _ _ _ _ (by simp)]
      exact if_neg hne
    refine ⟨⟨x, (congrArg Folio.lease hf).trans hx, hkind, hlive⟩, ?_⟩
    change ((l.activateKeeper cfg endpointId actorId token now t).cards i).map _ = [g]
    rw [← folio_active, hf, folio_active]
    exact hcards

theorem activateKeepers_keeps (ts : List (GPUDevice × Option Lease)) {l : Ledger}
    (hk : Broker.KeeperOf ⟨p, l⟩ i g)
    (hn : ((ts.foldl (Ledger.activateKeeper cfg endpointId actorId token now) l).leases.map
      Lease.id).Nodup) :
    Broker.KeeperOf ⟨p, ts.foldl (Ledger.activateKeeper cfg endpointId actorId token now) l⟩ i
      g := by
  induction ts generalizing l with
  | nil => exact hk
  | cons t ts ih =>
    obtain ⟨new, hids⟩ := ids_activateKeepers cfg now endpointId actorId token
      (l.activateKeeper cfg endpointId actorId token now t) ts
    rw [List.foldl_cons] at hn ⊢
    have hn₁ :
        ((l.activateKeeper cfg endpointId actorId token now t).leases.map Lease.id).Nodup := by
      rw [hids] at hn
      exact (List.nodup_append.1 hn).1
    exact ih (activateKeeper_keeps hk t hn₁) hn

/-- A target without a keeper has one now. -/
theorem activateKeeper_begins (hg : Grounded l) {t : GPUDevice × Option Lease} (ht : t.2 = none)
    (hn : ((l.activateKeeper cfg endpointId actorId token now t).leases.map Lease.id).Nodup) :
    Broker.KeeperOf ⟨p, l.activateKeeper cfg endpointId actorId token now t⟩ (token t.1.id)
      t.1.id := by
  set k := keeperLease cfg (token t.1.id) endpointId t.1.id now l.revision
  have hfresh : l.lease? k.id = none := activateKeeper_fresh cfg now endpointId actorId token ht hn
  have hf : (l.activateKeeper cfg endpointId actorId token now t).folio k.id =
      ⟨some k, [{ leaseId := k.id, gpuId := t.1.id }], []⟩ := by
    rw [folio_activateKeeper_none cfg now endpointId actorId token ht,
      folio_insertLease _ _ _ _ _ (by simp), if_pos rfl, folio_absent hg hfresh, hfresh]
    rfl
  refine ⟨⟨k, congrArg Folio.lease hf, rfl, rfl⟩, ?_⟩
  change ((l.activateKeeper cfg endpointId actorId token now t).cards k.id).map _ = [t.1.id]
  rw [← folio_active, hf]
  rfl

/-- Every target without a keeper has one at the end. -/
theorem activateKeepers_begin (ts : List (GPUDevice × Option Lease)) {l : Ledger} (hg : Grounded l)
    {t : GPUDevice × Option Lease} (hm : t ∈ ts) (ht : t.2 = none)
    (hn : ((ts.foldl (Ledger.activateKeeper cfg endpointId actorId token now) l).leases.map
      Lease.id).Nodup) :
    Broker.KeeperOf ⟨p, ts.foldl (Ledger.activateKeeper cfg endpointId actorId token now) l⟩
      (token t.1.id) t.1.id := by
  induction ts generalizing l with
  | nil => cases hm
  | cons t' ts ih =>
    obtain ⟨new, hids⟩ := ids_activateKeepers cfg now endpointId actorId token
      (l.activateKeeper cfg endpointId actorId token now t') ts
    rw [List.foldl_cons] at hn ⊢
    rcases List.mem_cons.1 hm with rfl | hm
    · have hn₁ : ((l.activateKeeper cfg endpointId actorId token now t).leases.map
          Lease.id).Nodup := by
        rw [hids] at hn
        exact (List.nodup_append.1 hn).1
      exact activateKeepers_keeps ts (activateKeeper_begins hg ht hn₁) hn
    · exact ih (grounded_activateKeeper cfg now endpointId actorId token hg t') hm hn

end

/-- **A worker confirmed has a keeper**: an accepted activation under a new key leaves one on every
target. -/
theorem activate_keeps (hk : Kept b) {now : Time} {actor : ActorContext} {endpointId key : String}
    {gpuIds : List String} {barrier : Time} {confirmed : Option (List (String × ℕ × String))}
    {token : String → String}
    (hf : b.ledger.replay actor "keepalive.activate_gpus" (some key) = .ok none)
    (h : activateKeepalives cfg now actor endpointId gpuIds barrier key confirmed token b =
      .ok (b', resp)) (hg : g ∈ gpuIds) : ∃ i, b'.KeeperOf i g := by
  have hstored : b'.ledger.remembers actor "keepalive.activate_gpus" key resp := by
    unfold activateKeepalives at h
    simp only [bind_ok] at h
    obtain ⟨-, -, h⟩ := h
    exact once_stores hf h
  rcases activateKeepalives_ok h with rfl | ⟨targets, processes, ht, -, -, -, -, hi, hb'⟩
  · exact absurd hstored (not_remembers_of_replay hf)
  have hn := hi.leasePk
  rw [hb', leases_remember] at hn
  -- the keeper is that of the fold, which the stored answer leaves alone
  have hlast : ∀ {i}, Broker.KeeperOf ⟨b.plant, (b.keepersActivated cfg endpointId actor.id targets
      processes token now).ledger⟩ i g → b'.KeeperOf i g := by
    intro i hK
    obtain ⟨⟨x, hx, hkind, hlive⟩, hcards⟩ := hK
    have hfolio : b'.ledger.folio i = (b.keepersActivated cfg endpointId actor.id targets processes
        token now).ledger.folio i := by
      rw [hb']
      exact folio_remember _ _ _ _ _ _ _
    refine ⟨⟨x, (congrArg Folio.lease hfolio).trans hx, hkind, hlive⟩, ?_⟩
    rw [← folio_active, hfolio, folio_active]
    exact hcards
  obtain ⟨t, htm, htg⟩ := answer_of_mapM_ok ht hg
  obtain ⟨hgpu, -, hact, hex⟩ := keepaliveTarget_ok htg
  have hid : t.1.id = g := (row?_some hgpu).2
  cases hx : t.2 with
  | none =>
    refine ⟨token t.1.id, hlast ?_⟩
    rw [← hid]
    have hg : Grounded b.ledger.bumpRevision :=
      ⟨hk.intact.grounded.rows, hk.intact.grounded.pledges⟩
    exact activateKeepers_begin targets hg htm hx hn
  | some x =>
    refine ⟨x.id, hlast ?_⟩
    obtain ⟨hkind, hcards⟩ := hex x hx
    obtain ⟨hl, hmem⟩ := activeLeaseForGpu_mem (hact ▸ hx : b.ledger.activeLeaseForGpu g = some x)
    have hlive : x.state.live = true := by
      by_contra hdead
      have hdead' : x.state.live = false := by simpa using hdead
      have he : (b.ledger.folio x.id).cardSet = ∅ :=
        (hk.wellkept x.id _ (holding_of_lease hl)).empty hdead'
      rw [he] at hmem
      exact absurd hmem (Finset.notMem_empty g)
    have hK : Broker.KeeperOf ⟨b.plant, b.ledger.bumpRevision⟩ x.id g :=
      ⟨⟨x, hl, hkind, hlive⟩, hcards⟩
    exact activateKeepers_keeps targets hK hn

/-! ## Observations -/

section

variable {now : Time} {endpointId : String}

/-- The card's row says it is gone. -/
def Plant.gone (p : Plant) (g : String) : Prop := ∃ d, p.gpu? g = some d ∧ d.present = false

/-- Ending the keepers of absent cards ends no keeper of a card that is there. -/
theorem releaseAbsentKeepers_folio (hk : b.KeeperOf i g) (hg : ¬ b.plant.gone g)
    (endpointIds : List String) :
    (b.releaseAbsentKeepers endpointIds now).ledger.folio i = b.ledger.folio i := by
  have hnot : i ∉ (b.absentKeepers endpointIds).map Lease.id := by
    intro hm
    obtain ⟨x, hx, hid⟩ := List.mem_map.1 hm
    have hall := (of_decide_eq_true (List.mem_filter.1 hx).2).2.2.2
    obtain ⟨r, hr, hrg⟩ := mem_cardSet.1 (hk.cardSet ▸ Finset.mem_singleton_self g)
    have habsent := List.all_eq_true.1 hall r (hid ▸ hr)
    rw [hrg] at habsent
    obtain ⟨d, hd, hp⟩ := (Option.any_eq_true _ _).1 habsent
    exact hg ⟨d, hd, by simpa using hp⟩
  exact folio_releaseAbsentKeepers hnot

/-- A node's observation leaves a keeper's rows, or its card is gone afterwards. -/
theorem ingestNodeObservation_folio (hk : b.KeeperOf i g) (n : NodeObservation) :
    (ingestNodeObservation cfg endpointId now b n).ledger.folio i = b.ledger.folio i ∨
      (ingestNodeObservation cfg endpointId now b n).plant.gone g := by
  unfold ingestNodeObservation
  split
  · exact Or.inl rfl
  simp only
  split
  · exact Or.inl rfl
  · set p := ((b.plant.readHost endpointId n now).seeCards endpointId n now).convergeOwnership cfg
      endpointId (n.gpus.map fun s => (s.gpuUuid, gpuIdOf endpointId n.nodeId s.gpuUuid))
      n.observedAt
    set q := p.1.markAbsent endpointId n.nodeId
      ((n.gpus.map fun s => (s.gpuUuid, gpuIdOf endpointId n.nodeId s.gpuUuid)).map Prod.snd)
      n.observedAt
    by_cases hg : q.gone g
    · right
      obtain ⟨d, hd, hp⟩ := hg
      refine ⟨d, ?_, hp⟩
      have hgpus : ((({ b with plant := q } : Broker).releaseAbsentKeepers
          (endpointId :: p.2).dedup now).plant.seeProcesses cfg endpointId n now).gpus = q.gpus :=
        (seeProcesses_gpus _ _ _ _ _).trans (releaseAbsentKeepers_gpus _ _)
      unfold Plant.gpu? at hd ⊢
      rw [hgpus]
      exact hd
    · left
      have hk' : Broker.KeeperOf { b with plant := q } i g := ⟨hk.lease, hk.cards⟩
      exact releaseAbsentKeepers_folio hk' hg _

/-- What a folio says of a keeper is all there is to it. -/
theorem Broker.KeeperOf.congr (hk : b.KeeperOf i g) (hf : b'.ledger.folio i = b.ledger.folio i) :
    b'.KeeperOf i g := by
  obtain ⟨⟨x, hx, hkind, hlive⟩, hcards⟩ := hk
  refine ⟨⟨x, (congrArg Folio.lease hf).trans hx, hkind, hlive⟩, ?_⟩
  rw [← folio_active, hf, folio_active]
  exact hcards

/-- The nodes of an observation leave a keeper's rows, or its card is gone after one of them. -/
theorem nodes_folio (ns : List NodeObservation) {b : Broker} (hk : b.KeeperOf i g) :
    (ns.foldl (ingestNodeObservation cfg endpointId now) b).ledger.folio i = b.ledger.folio i ∨
      ∃ ms, ms <+: ns ∧ (ms.foldl (ingestNodeObservation cfg endpointId now) b).plant.gone g := by
  induction ns generalizing b with
  | nil => exact Or.inl rfl
  | cons n ns ih =>
    have hstep : (ingestNodeObservation cfg endpointId now b n).ledger.folio i = b.ledger.folio i ∨
        (ingestNodeObservation cfg endpointId now b n).plant.gone g :=
      ingestNodeObservation_folio hk n
    rcases hstep with hf | hg
    · rcases ih (hk.congr hf) with hf' | ⟨ms, hms, hg⟩
      · exact Or.inl (hf'.trans hf)
      · exact Or.inr ⟨n :: ms, (List.prefix_cons_inj n).2 hms, hg⟩
    · exact Or.inr ⟨[n], ⟨ns, rfl⟩, hg⟩

/-- What providers say of allocations is about workloads. -/
theorem ingestAllocations_folio (hi : i ∉ l.tied) (o : EndpointObservation) :
    (l.ingestAllocations o now).folio i = l.folio i := by
  unfold Ledger.ingestAllocations
  apply Run.foldl_inv (I := fun l' : Ledger => l'.folio i = l.folio i)
  · intro l' a ha hl'
    have hne : ∀ j ∈ a.leaseId, i ≠ j := by
      rintro j hj rfl
      exact hi (mem_tied.2 ⟨a, List.mem_of_mem_filter ha, hj⟩)
    unfold ingestAllocation
    simp only
    split
    · exact hl'
    · rename_i f hf
      split
      · exact hl'
      · rename_i j hj
        have hja : j ∈ a.leaseId := by
          have h := (Option.filter_eq_some_iff.1 hj).1
          rwa [(recordFact_same a f now).leaseId] at h
        split
        · exact (folio_endLease_ne .released _ now (hne j hja)).trans hl'
        · exact hl'
  · rfl

/-- The pass leaves a keeper's holding. -/
theorem reconcileLeases_keeper (hk : b.KeeperOf i g) (hn : (b.ledger.leases.map Lease.id).Nodup)
    (actorId : String) (token : String → String → String) :
    (b.reconcileLeases cfg now actorId token).1.ledger.holding? i = b.ledger.holding? i := by
  obtain ⟨x, hx, hkind, -⟩ := hk.lease
  have hnorm : Keeps b.ledger (b.ledger.normalizeConflicts actorId now) :=
    normalizeConflicts_keeps hn
  unfold Broker.reconcileLeases
  refine (Run.foldl_inv (I := fun s : Pass => s.1.ledger.holding? i = b.ledger.holding? i ∧
    s.1.ledger.deeds = b.ledger.deeds) ?_ ⟨hnorm.holding i, hnorm.deeds⟩).1
  intro s j _ ⟨hs, hd⟩
  have hv : Visit j s.1 (reconcileLease cfg now actorId token s j).1 := reconcileLease_visit j
  refine ⟨?_, hv.keys.deeds.trans hd⟩
  by_cases hij : i = j
  · subst hij
    unfold reconcileLease
    split
    · exact hs
    · rename_i y hy
      -- it is the keeper still, and all a visit does to it is to its deadline
      have hkeeper : y.kind = .keepalive := by
        obtain ⟨z, hz, hid, hkind'⟩ := kinds_of_deeds hd.symm (lease?_mem hy)
        have hzid : z.id = x.id := by rw [hid, lease?_id hy, lease?_id hx]
        obtain rfl : z = x := List.inj_on_of_nodup_map hn hz (lease?_mem hx) hzid
        exact hkind'.symm.trans hkind
      rw [if_pos hkeeper]
      exact (holding_editLease (f := fun x => { x with expiresAt := none }) (fun _ => rfl)
        fun _ _ => ⟨rfl, rfl, rfl, rfl, rfl⟩).trans hs
  · exact (holding_congr (hv.others i hij)).trans hs

/-- What an observation is read into leaves a keeper's holding, once its nodes do. -/
theorem absorb_keeper (hn : (b.ledger.leases.map Lease.id).Nodup) (hi : i ∉ b.ledger.tied)
    (o : EndpointObservation)
    (hnodes : (o.nodes.foldl (ingestNodeObservation cfg o.endpointId now)
      { b with ledger := b.ledger.bumpRevision }).ledger.folio i = b.ledger.folio i) :
    (b.absorb cfg now o).ledger.holding? i = b.ledger.holding? i := by
  obtain ⟨l, hfolio, hallocs, habsorb⟩ := absorb_holding hn o hnodes
  have huntied : i ∉ l.tied := by
    intro hm
    obtain ⟨a, ha, hl⟩ := mem_tied.1 hm
    rw [hallocs] at ha
    exact hi (mem_tied.2 ⟨a, ha, hl⟩)
  have hfacts : (l.ingestAllocations o now).folio i = l.folio i := ingestAllocations_folio huntied o
  rw [habsorb]
  exact holding_congr (hfacts.trans hfolio)

/-- **An observation leaves a keeper**, unless the card it is on is gone after one of its nodes. -/
theorem ingested_keeper (hb : Intact b) (hk : b.KeeperOf i g) (ht : TiedToWork b.ledger)
    (o : EndpointObservation) (token : String → String → String) :
    (b.ingested cfg now o token).1.ledger.holding? i = b.ledger.holding? i ∨
      ∃ ms, ms <+: o.nodes ∧ (ms.foldl (ingestNodeObservation cfg o.endpointId now)
        { b with ledger := b.ledger.bumpRevision }).plant.gone g := by
  have hbump : Broker.KeeperOf { b with ledger := b.ledger.bumpRevision } i g :=
    ⟨hk.lease, hk.cards⟩
  have hfold : (o.nodes.foldl (ingestNodeObservation cfg o.endpointId now)
      { b with ledger := b.ledger.bumpRevision }).ledger.folio i = b.ledger.folio i ∨
      ∃ ms, ms <+: o.nodes ∧ (ms.foldl (ingestNodeObservation cfg o.endpointId now)
        { b with ledger := b.ledger.bumpRevision }).plant.gone g := nodes_folio o.nodes hbump
  rcases hfold with hnodes | hgone
  · left
    have hc := absorb_closing cfg now hb.leasePk o
    have hab := absorb_keeper hb.leasePk (hk.untied hb ht) o hnodes
    obtain ⟨x, hx, hlive, hset⟩ := hk.holding
    have hka : (b.absorb cfg now o).KeeperOf i g :=
      hk.of_holding (fun _ hx => kinds_of_deeds hc.deeds hx) (hc.keys.leases ▸ hb.leasePk)
        (hc.keys.rows ▸ hb.leaseGpu) (hab.trans hx) hlive hset
    have hpass : ((b.absorb cfg now o).reconcileLeases cfg now ("collector:" ++ o.endpointId)
        token).1.ledger.holding? i = (b.absorb cfg now o).ledger.holding? i :=
      reconcileLeases_keeper hka (hc.keys.leases ▸ hb.leasePk) _ token
    exact ((auditRecovery_keeps _ _ _).holding i).trans (hpass.trans hab)
  · exact Or.inr hgone

end

/-! ## Every transaction -/

/-- The transaction records that the worker of keeper `i` on card `g` has stopped. -/
inductive Broker.StopRecorded (cfg : Config) (b : Broker) (i g : String) : Op → Prop
  | stopped {now : Time} {actor : ActorContext} {endpointId : String} {barrier : Time}
      {key : Option String} (d : GPUDevice) (hd : d.id = g)
      (hp : StopProved b.plant endpointId barrier d) :
      b.StopRecorded cfg i g (.finalizeKeepaliveStop now actor endpointId i barrier key)
  | cleared {now : Time} {actor : ActorContext} {endpointId : String} {barrier : Time}
    {key : String}
      (hr : b.plant.recollected cfg now endpointId barrier = true)
      (hc : b.plant.recollectedCard cfg now endpointId barrier g = true)
      (hp : b.plant.currentProcesses g = []) :
      b.StopRecorded cfg i g (.releaseEmptyConflictedLease now actor endpointId i barrier key)

/-- The transaction ends keeper `i` of card `g` without having seen the worker stop: the card's row
is marked absent, or its server does not answer. -/
inductive Broker.GivenUp (cfg : Config) (b : Broker) (i g : String) : Op → Prop
  | vanished {now : Time} {o : EndpointObservation} {token : String → String → String}
      (ms : List NodeObservation) (hms : ms <+: o.nodes)
      (hg : (ms.foldl (ingestNodeObservation cfg o.endpointId now)
        { b with ledger := b.ledger.bumpRevision }).plant.gone g) :
      b.GivenUp cfg i g (.ingestObservation now o token)
  | abandoned {now : Time} {actor : ActorContext} {endpointId : String} {barrier : Time}
      {key : String} (hu : b.plant.endpointUnreachable cfg now endpointId = true) :
      b.GivenUp cfg i g (.releaseEmptyConflictedLease now actor endpointId i barrier key)
  | deleted {now : Time} {actor : ActorContext} {endpointId key : String}
      (hu : b.plant.endpointUnreachable cfg now endpointId = true)
      (he : b.plant.endpointOf g = endpointId) :
      b.GivenUp cfg i g (.deleteEndpoint now actor endpointId key)

/-- A server without a card of the keeper may come or go. -/
theorem delete_keeper (hb : Intact b) (hk : b.KeeperOf i g) {now : Time} {actor : ActorContext}
    {endpointId key : String}
    (h : deleteEndpoint cfg now actor endpointId key b = .ok (b', resp)) :
    b'.KeeperOf i g ∨ b.GivenUp cfg i g (.deleteEndpoint now actor endpointId key) := by
  by_cases he : b.plant.endpointOf g = endpointId
  · have hon : b.holdsOn i endpointId = true := by
      rw [holdsOn_iff hb]
      refine Finset.nonempty_iff_ne_empty.1 ⟨g, mem_serverCards.2 ⟨?_, he⟩⟩
      rw [hk.cardSet]
      exact Finset.mem_singleton_self g
    rcases deleteEndpoint_ok h with rfl | ⟨hu | hnone, -, -⟩
    · exact Or.inl hk
    · exact Or.inr (.deleted hu he)
    · obtain ⟨x, hx, -, hlive⟩ := hk.lease
      have hm : i ∈ b.leasesOn endpointId := (mem_leasesOn hb).2 ⟨x, hx, hlive, hon⟩
      rw [endpointHasActiveLeases_false hnone] at hm
      cases hm
  · left
    have hoff : i ∉ b.leasesOn endpointId := by
      intro hm
      obtain ⟨-, -, -, hon⟩ := (mem_leasesOn hb).1 hm
      obtain ⟨g', hg'⟩ := Finset.nonempty_iff_ne_empty.2 ((holdsOn_iff hb).1 hon)
      obtain ⟨hmem, he'⟩ := mem_serverCards.1 hg'
      rw [hk.cardSet, Finset.mem_singleton] at hmem
      exact he (hmem ▸ he')
    rcases delete_holding hb h with rfl | ⟨-, hh⟩
    · exact hk
    have hb' := @apply_intact cfg (.deleteEndpoint now actor endpointId key) b b' resp hb h
    have hd := @apply_deeds cfg (.deleteEndpoint now actor endpointId key) b b' resp hb h
    obtain ⟨x, hx, hlive, hset⟩ := hk.holding
    have hx' := hh i
    rw [if_neg hoff, hx] at hx'
    refine hk.of_holding (fun _ hx => hd.kind hx) hb'.leasePk hb'.leaseGpu hx' hlive ?_
    -- the card is another server's
    change x.cards.filter (fun g => b.plant.endpointOf g ≠ endpointId) = {g}
    rw [hset]
    exact Finset.filter_true_of_mem fun g' hg' => Finset.mem_singleton.1 hg' ▸ he

/-- An operator's release of a keeper rests on a reading of its card, or on a server that does not
answer. -/
theorem releaseEmpty_keeper (hb : Intact b) (hk : b.KeeperOf i g) (ht : TiedToWork b.ledger)
    {now : Time} {actor : ActorContext} {endpointId leaseId : String} {barrier : Time}
      {key : String}
    (h : releaseEmptyConflictedLease cfg now actor endpointId leaseId barrier key b =
      .ok (b', resp)) :
    b'.KeeperOf i g ∨
      b.StopRecorded cfg i g
        (.releaseEmptyConflictedLease now actor endpointId leaseId barrier key) ∨
      b.GivenUp cfg i g
        (.releaseEmptyConflictedLease now actor endpointId leaseId barrier key) := by
  have hstay := @Broker.KeeperOf.stay cfg
    (.releaseEmptyConflictedLease now actor endpointId leaseId barrier key) b b' resp i g hk hb h
  rcases releaseEmpty_loses h with rfl | ⟨-, hne, -⟩
  · exact Or.inl hk
  by_cases hi : i = leaseId
  swap
  · exact Or.inl (hstay (holding_congr (hne i hi)))
  subst hi
  unfold releaseEmptyConflictedLease at h
  simp only [bind_ok] at h
  obtain ⟨-, -, h⟩ := h
  rcases once_ok h with rfl | ⟨b₁, hb₁, -, -⟩
  · exact Or.inl hk
  simp only [bind_ok, need_ok, require_ok] at hb₁
  obtain ⟨-, -, -, -, lease, hl, -, hc, -, hr, -, hcov, -, hv, -⟩ := hb₁
  right
  by_cases hu : b.plant.endpointUnreachable cfg now endpointId = true
  · exact Or.inr (.abandoned hu)
  left
  obtain ⟨x, hx, hkind, hlive⟩ := hk.lease
  obtain rfl : lease = x := Option.some.inj (hl.symm.trans hx)
  -- the keeper's one card is on this server
  have hcards : b.ledger.cards i ≠ [] := by
    intro hnil
    have hone := hk.cards
    rw [hnil] at hone
    cases hone
  obtain ⟨r, hr'⟩ := List.exists_mem_of_ne_nil _ (hc.resolve_left hcards)
  have hrg : r.gpuId = g := by
    have hm : r.gpuId ∈ (b.ledger.cards i).map LeaseResource.gpuId :=
      List.mem_map_of_mem (List.mem_of_mem_filter hr')
    rw [hk.cards] at hm
    exact List.mem_singleton.1 hm
  refine .cleared (hr.resolve_left hu) ?_ ?_
  · rw [if_neg hu] at hcov
    have hcard := List.find?_eq_none.1 hcov r hr'
    rw [← hrg]
    simpa using hcard
  · -- without an allocation, the verdict is about the card's processes
    have hfree : (b.ledger.allocationsOf lease.id).filter
        (fun a => a.releaseGranularity = "allocation") = [] := by
      rw [List.filter_eq_nil_iff]
      intro a ha
      obtain ⟨ha, hid⟩ := List.mem_filter.1 ha
      rw [lease?_id hx] at hid
      exact absurd (mem_tied.2 ⟨a, ha, of_decide_eq_true hid⟩) (hk.untied hb ht)
    unfold Broker.manualReleaseVerdict at hv
    rw [hfree] at hv
    simp only [hlive, Bool.true_eq_false, if_false, ne_eq, not_true_eq_false, if_neg hu,
      hc.resolve_left hcards] at hv
    split at hv
    · cases hv
    · rename_i hidle
      have hcard := List.find?_eq_none.1 hidle r hr'
      rw [← hrg]
      simpa using hcard

/-- What a stop of another lease leaves, and what a stop of this one rests on. -/
theorem finalizeStop_keeper (hb : Intact b) (hk : b.KeeperOf i g) {now : Time}
    {actor : ActorContext} {endpointId leaseId : String} {barrier : Time} {key : Option String}
    (h : finalizeKeepaliveStop now actor endpointId leaseId barrier key b = .ok (b', resp)) :
    b'.KeeperOf i g ∨
      b.StopRecorded cfg i g (.finalizeKeepaliveStop now actor endpointId leaseId barrier key) := by
  by_cases hkeeps : b'.ledger.keeps i
  · left
    rcases finalizeKeepaliveStop_ok h with rfl | ⟨lease, gpuId, ps, -, -, -, -, -, -, -, rfl⟩
    · exact hk
    have hne : i ≠ leaseId := by
      rintro rfl
      obtain ⟨y, hy, -, hlive⟩ := hkeeps
      have hend := lease?_editLease b.ledger.bumpRevision i i (f := Lease.ended .released
        (some "keepalive stopped and target GPU observed empty") now) fun _ => rfl
      rw [if_pos rfl] at hend
      have hy' := (congrArg Folio.lease (folio_remember _ i _ _ _ _ _)).symm.trans hy
      obtain ⟨z, -, rfl⟩ := Option.map_eq_some_iff.1 (hend.symm.trans hy')
      cases hlive
    refine hk.congr ((folio_remember _ _ _ _ _ _ _).trans ?_)
    exact folio_endLease_ne (l := b.ledger.bumpRevision) .released _ now hne
  · right
    obtain ⟨rfl, d, hd, hp⟩ := stop_proved h hk.lease hkeeps
    have hone : [g] = [d.id] := hk.cards.symm.trans hd
    exact .stopped d (List.singleton_injective hone).symm hp

/-- **What one transaction does to a keeper**: nothing, unless it records that the worker stopped,
or gives the worker up. -/
theorem apply_keeper (hk : Kept b) (ht : TiedToWork b.ledger) (hK : b.KeeperOf i g)
    (h : op.apply cfg b = .ok (b', resp)) :
    b'.KeeperOf i g ∨ b.StopRecorded cfg i g op ∨ b.GivenUp cfg i g op := by
  have hb := hk.intact
  have stay := hK.stay hb h
  have keeps : Keeps b.ledger b'.ledger → b'.KeeperOf i g ∨ b.StopRecorded cfg i g op ∨
      b.GivenUp cfg i g op := fun k => Or.inl (stay (k.holding i))
  have back : b' = b → b'.KeeperOf i g ∨ b.StopRecorded cfg i g op ∨ b.GivenUp cfg i g op :=
    fun he => Or.inl (he ▸ hK)
  have held : b.ledger.holding? i ≠ none := by
    obtain ⟨x, hx, -⟩ := hK.holding
    rw [hx]
    exact Option.some_ne_none x
  cases op with
  | createRequest =>
    obtain ⟨gpuIds, o⟩ := claim_opening hb h
    exact Or.inl (stay (o.old i held).1)
  | resizeLease now actor leaseId =>
    obtain ⟨-, hne, x, -, hx, hw, -⟩ := resize_resized hb h
    exact Or.inl (stay (holding_congr (hne i (hK.ne hx hw))))
  | releaseLease now actor leaseId reason key override token =>
    rcases releaseLease_ok h with he | ⟨lease, hx, hw, -, -, d, rfl⟩
    · exact back he
    · have hne : i ≠ lease.id := lease?_id hx ▸ hK.ne hx hw
      refine Or.inl (stay (holding_congr ((folio_remember _ _ _ _ _ _ _).trans ?_)))
      exact folio_released_ne b lease _ token hne
  | reassignLeaseGpus now actor leaseId =>
    rcases reassign_moved hb h with he | ⟨-, hne, x, -, hx, hw, -⟩
    · exact back he
    · exact Or.inl (stay (holding_congr (hne i (hK.ne hx hw))))
  | takeOverLease => exact Or.inl (stay ((takeOverLease_holding h).2 i))
  | leaseView => exact keeps (leaseView_keeps h).2
  | recordLeaseHeartbeat =>
    rcases recordLeaseHeartbeat_ok h with he | ⟨-, rfl⟩
    · exact back he
    · exact keeps (heartbeat_keeps _ _ _ _ _ _).2
  | bindObservedWorkload => exact keeps (bindObservedWorkload_keeps h).2
  | releaseEmptyConflictedLease => exact releaseEmpty_keeper hb hK ht h
  | activateKeepalives =>
    rcases activate_opening hb hk.wellkept h with he | ⟨-, o⟩
    · exact back he
    · exact Or.inl (stay (o.old i held).1)
  | finalizeKeepaliveStop => exact (finalizeStop_keeper hb hK h).imp_right Or.inl
  | setKeepaliveError =>
    obtain ⟨rfl, -, -⟩ := finish_ok.1 h
    exact keeps (.refl _)
  | finishKeepaliveCleanup =>
    obtain ⟨rfl, -, -⟩ := finish_ok.1 h
    exact keeps (finishCleanup_keeps _ _ _)
  | configureKeepalivePolicy now actor endpointId policy =>
    rcases configureKeepalivePolicy_ok h with he | ⟨e, changed, -, -, rfl⟩
    · exact back he
    · refine Or.inl (stay ((holding_congr (folio_remember _ _ _ _ _ _ _)).trans ?_))
      exact (policyConfigured_keeps b e policy changed actor.id).holding i
  | ingestObservation now o token =>
    rcases ingestObservation_ok h with he | ⟨-, -, rfl⟩
    · exact back he
    · rcases ingested_keeper hb hK ht o token with hh | ⟨ms, hms, hg⟩
      · exact Or.inl (stay hh)
      · exact Or.inr (Or.inr (.vanished ms hms hg))
  | recordProviderFailure =>
    obtain ⟨-, first, rfl⟩ := recordProviderFailure_ok h
    exact keeps (providerFailed_keeps _ _ _ _)
  | pruneExpired =>
    obtain ⟨rfl, -, -⟩ := finish_ok.1 h
    exact keeps (.of_tables rfl rfl rfl)
  | createServerGroup =>
    rcases createServerGroup_ok h with he | ⟨-, rfl⟩
    · exact back he
    · exact keeps (.of_tables rfl rfl rfl)
  | createEndpoint =>
    rcases createEndpoint_ok h with he | ⟨-, rfl⟩
    · exact back he
    · exact keeps (.of_tables rfl rfl rfl)
  | updateEndpoint now actor endpointId u =>
    rcases updateEndpoint_ok h with he | ⟨e, -, -, rfl⟩
    · exact back he
    · refine Or.inl (stay ((holding_congr (folio_remember _ _ _ _ _ _ _)).trans ?_))
      exact (endpointUpdated_keeps b e u actor.id).holding i
  | deleteEndpoint => exact (delete_keeper hb hK h).imp_right Or.inr
  | claimPrepare => exact keeps (claimPrepare_keeps h).2
  | claimFailed | claimRemember | markAllocation =>
    obtain ⟨-, -, rfl⟩ := writeAllocation_ok h
    exact keeps (.of_tables rfl rfl rfl)
  | claimFinish => exact Or.inl (stay ((claimFinish_opening hb h).2.old i held).1)
  | finishPluginRelease now allocationId error =>
    rcases finishPluginRelease_ok h with he | ⟨a, ha, -, rfl⟩
    · exact back he
    · refine Or.inl (stay (holding_congr ?_))
      have hne : ∀ j ∈ a.leaseId, i ≠ j := by
        rintro j hj rfl
        exact hK.untied hb ht (mem_tied.2 ⟨a, (row?_some ha).1, hj⟩)
      unfold Ledger.pluginReleased Ledger.endReleased
      simp only
      split
      · rename_i x hx
        obtain ⟨j, hj, hxj⟩ := Option.bind_eq_some_iff.1 (Option.filter_eq_some_iff.1 hx).1
        have hix : i ≠ x.id := lease?_id hxj ▸ hne j hj
        exact folio_endLease_ne .released _ now hix
      · rfl

/-- **A keeper through a run**: it stays one to the end, or some accepted transaction on the way
found it one, and recorded that its worker stopped or gave it up. -/
theorem run_keeper (hb : Reachable cfg b) (hK : b.KeeperOf i g) (ops : List Op) :
    (Run.run (exec cfg) b ops).KeeperOf i g ∨
      ∃ pre op post, ops = pre ++ op :: post ∧
        (∃ after, op.apply cfg (Run.run (exec cfg) b pre) = .ok after) ∧
        (Run.run (exec cfg) b pre).KeeperOf i g ∧
        ((Run.run (exec cfg) b pre).StopRecorded cfg i g op ∨
          (Run.run (exec cfg) b pre).GivenUp cfg i g op) := by
  induction ops generalizing b with
  | nil => exact Or.inl hK
  | cons op ops ih =>
    have hnext : Reachable cfg (exec cfg b op) := by
      obtain ⟨b₀, hs, is, rfl⟩ := hb
      exact ⟨b₀, hs, is ++ [op], (Run.run_concat b₀ is op).symm⟩
    have hstep : (exec cfg b op).KeeperOf i g ∨ (∃ after, op.apply cfg b = .ok after) ∧
        (b.StopRecorded cfg i g op ∨ b.GivenUp cfg i g op) := by
      rcases exec_cases cfg b op with ⟨b', r, h, he⟩ | ⟨-, he⟩
      · rw [he]
        exact (apply_keeper hb.kept hb.tied hK h).imp_right fun hp => ⟨⟨_, h⟩, hp⟩
      · rw [he]
        exact Or.inl hK
    rcases hstep with hK' | ⟨hacc, hparted⟩
    · rcases ih hnext hK' with hend | ⟨pre, op', post, rfl, hacc, hpre, hparted⟩
      · exact Or.inl hend
      · exact Or.inr ⟨op :: pre, op', post, rfl, hacc, hpre, hparted⟩
    · exact Or.inr ⟨[], op, ops, rfl, hacc, hK, hparted⟩

/-- **A worker stays accounted for.** Let an activation under a new key be accepted in a reachable
state. Each of its targets then has a keeper, which at the end of every run from there still lives
and holds that card alone, unless an accepted transaction of the run found it so and recorded that
the worker stopped, or gave the worker up. -/
theorem worker_accounted (hb : Reachable cfg b) {now : Time} {actor : ActorContext}
    {endpointId key : String} {gpuIds : List String} {barrier : Time}
    {confirmed : Option (List (String × ℕ × String))} {token : String → String}
    (hf : b.ledger.replay actor "keepalive.activate_gpus" (some key) = .ok none)
    (h : activateKeepalives cfg now actor endpointId gpuIds barrier key confirmed token b =
      .ok (b', resp)) (hg : g ∈ gpuIds) :
    ∃ i, b'.KeeperOf i g ∧ ∀ ops, (Run.run (exec cfg) b' ops).KeeperOf i g ∨
      ∃ pre op post, ops = pre ++ op :: post ∧
        (∃ after, op.apply cfg (Run.run (exec cfg) b' pre) = .ok after) ∧
        (Run.run (exec cfg) b' pre).KeeperOf i g ∧
        ((Run.run (exec cfg) b' pre).StopRecorded cfg i g op ∨
          (Run.run (exec cfg) b' pre).GivenUp cfg i g op) := by
  have hb' : Reachable cfg b' := by
    obtain ⟨b₀, hs, is, rfl⟩ := hb
    set op : Op := .activateKeepalives now actor endpointId gpuIds barrier key confirmed token
    have hop : op.apply cfg (Run.run (exec cfg) b₀ is) = .ok (b', resp) := h
    refine ⟨b₀, hs, is ++ [op], ?_⟩
    rw [Run.run_concat, exec, hop]
  obtain ⟨i, hK⟩ := activate_keeps hb.kept hf h hg
  exact ⟨i, hK, run_keeper hb' hK⟩

end

/-- Of the keeper of the first card, through an operator's stop on the records of a later look. -/
theorem worker_accounted_stop :
    ∃ b' resp, activateSeen (some [("alpha:GPU-0", 7, "boot")]) keeperSeen = .ok (b', resp) ∧
      ∃ i, b'.KeeperOf i "alpha:GPU-0" ∧ ∀ ops,
        (Run.run (exec plainConfig) b' ops).KeeperOf i "alpha:GPU-0" ∨
        ∃ pre op post, ops = pre ++ op :: post ∧
          (∃ after, op.apply plainConfig (Run.run (exec plainConfig) b' pre) = .ok after) ∧
          (Run.run (exec plainConfig) b' pre).KeeperOf i "alpha:GPU-0" ∧
          ((Run.run (exec plainConfig) b' pre).StopRecorded plainConfig i "alpha:GPU-0" op ∨
            (Run.run (exec plainConfig) b' pre).GivenUp plainConfig i "alpha:GPU-0" op) := by
  obtain ⟨b', resp, h, -⟩ := accepted_of_check
    (x := activateSeen (some [("alpha:GPU-0", 7, "boot")]) keeperSeen) (P := fun _ => True)
    (by decide +kernel) fun _ _ => trivial
  have hf : keeperSeen.ledger.replay (sampleActor "ann") "keepalive.activate_gpus" (some "start") =
      .ok none := by decide +kernel
  exact ⟨b', resp, h, worker_accounted keeperSeen_reachable hf h (List.mem_singleton_self _)⟩

/-! ## A worker nobody keeps -/

/-- The transactions that may record a stop. -/
def Op.stops : Op → Bool
  | .finalizeKeepaliveStop .. | .finishKeepaliveCleanup .. | .releaseEmptyConflictedLease .. => true
  | _ => false

/-- Nothing accounts for a card without a live keeper on file and without a cleanup. -/
theorem not_accounted {b : Broker} {g : String}
    (hl : b.ledger.leases.all (fun x => !x.state.live) = true)
    (hc : (b.plant.keepalive? g).any (fun k => k.cleanupPending) = false) : ¬ b.Accounted g := by
  rintro (⟨i, ⟨x, hx, -, hlive⟩, -⟩ | ⟨hp, -⟩)
  · have hdead := List.all_eq_true.1 hl x (lease?_mem hx)
    rw [hlive] at hdead
    cases hdead
  · rw [hc] at hp
    cases hp

/-- A minute later the other registration of the machine reports the card, the worker on it. -/
def seenElsewhere : Op :=
  .ingestObservation (seconds 60) (lookAtOne "beta" "GPU-0" (seconds 60) [7]) sampleToken

/-- **A worker nobody keeps**: the card's new registration takes it over with the worker still on
it, and the keeper ends, though nobody ever stopped the worker. -/
theorem worker_orphaned :
    Reachable plainConfig keeperSeen ∧ ∃ b' resp,
      activateSeen (some [("alpha:GPU-0", 7, "boot")]) keeperSeen = .ok (b', resp) ∧
      seenElsewhere.stops = false ∧ (exec plainConfig b' seenElsewhere).plant.processes.any
        (fun x => x.pid = 7 ∧ x.gpuId = "beta:GPU-0" ∧ x.active = true) = true ∧
      ¬ (exec plainConfig b' seenElsewhere).Accounted "alpha:GPU-0" ∧
      ¬ (exec plainConfig b' seenElsewhere).Accounted "beta:GPU-0" := by
  refine ⟨keeperSeen_reachable, ?_⟩
  obtain ⟨b', resp, h, hseen, hdead, hclean⟩ := accepted_of_check
    (x := activateSeen (some [("alpha:GPU-0", 7, "boot")]) keeperSeen)
    (P := fun b => (exec plainConfig b seenElsewhere).plant.processes.any
        (fun x => x.pid = 7 ∧ x.gpuId = "beta:GPU-0" ∧ x.active = true) = true ∧
      (exec plainConfig b seenElsewhere).ledger.leases.all (fun x => !x.state.live) = true ∧
      ∀ g ∈ ["alpha:GPU-0", "beta:GPU-0"],
        ((exec plainConfig b seenElsewhere).plant.keepalive? g).any (fun k => k.cleanupPending) =
          false) (by decide +kernel) (by decide +kernel)
  refine ⟨b', resp, h, rfl, hseen, ?_, ?_⟩
  · exact not_accounted hdead (hclean "alpha:GPU-0" (by simp))
  · exact not_accounted hdead (hclean "beta:GPU-0" (by simp))

end ServerPilot
