import ServerPilot.Proof.Grow

/-!
# Activating keepers

`activate_keepalives` confirms the keepers that are there and begins one lease for
each card that has none: `activate_opening`. Nothing else moves.
-/

namespace ServerPilot

open Rows Checked

/-- Old holdings and their card rows are as they were; new ones begin on cards among `gpuIds`. -/
structure Opening (server : String → String) (gpuIds : List String) (l l' : Ledger) : Prop where
  old : ∀ id, l.holding? id ≠ none →
    l'.holding? id = l.holding? id ∧ (l'.folio id).rows = (l.folio id).rows
  new : ∀ id, l.holding? id = none → l'.holding? id = none ∨
    ∃ h, l'.holding? id = some h ∧ h.Begun server ∧ h.epoch = 0 ∧ h.cards ⊆ gpuIds.toFinset

namespace Opening

variable {server : String → String} {gpuIds : List String} {l l' l'' : Ledger}

theorem refl (l : Ledger) :
    Opening server gpuIds l l := ⟨fun _ _ => ⟨rfl, rfl⟩, fun _ h => Or.inl h⟩

theorem trans (a : Opening server gpuIds l l') (b : Opening server gpuIds l' l'') :
    Opening server gpuIds l l'' := by
  refine ⟨fun id h => ?_, fun id h => ?_⟩
  · obtain ⟨ha, hr⟩ := a.old id h
    obtain ⟨hb, hr'⟩ := b.old id (ha ▸ h)
    exact ⟨hb.trans ha, hr'.trans hr⟩
  · rcases a.new id h with hn | ⟨x, hx, hk⟩
    · exact b.new id hn
    · exact Or.inr ⟨x, (b.old id (by rw [hx]; simp)).1.trans hx, hk⟩

end Opening

section

variable (cfg : Config) (now : Time) (endpointId actorId : String) (token : String → String)
  {server : String → String} {gpuIds : List String} {l : Ledger}

/-- The lease ids only grow. -/
theorem ids_activateKeeper (l : Ledger) (t : GPUDevice × Option Lease) :
    ∃ new, (l.activateKeeper cfg endpointId actorId token now t).leases.map Lease.id =
      l.leases.map Lease.id ++ new := by
  unfold Ledger.activateKeeper
  cases t.2 with
  | some x =>
    have h := map_updWhere (p := fun y => decide (y.id = x.id)) (f := Lease.keeperConfirmed now)
      (g := Lease.id) l.leases fun _ => rfl
    exact ⟨[], h.trans (List.append_nil _).symm⟩
  | none => exact ⟨[token t.1.id], List.map_append⟩

theorem ids_activateKeepers (l : Ledger) (ts : List (GPUDevice × Option Lease)) :
    ∃ new, (ts.foldl (Ledger.activateKeeper cfg endpointId actorId token now) l).leases.map
      Lease.id =
      l.leases.map Lease.id ++ new := by
  induction ts generalizing l with
  | nil => exact ⟨[], (List.append_nil _).symm⟩
  | cons t ts ih =>
    obtain ⟨n₁, h₁⟩ := ids_activateKeeper cfg now endpointId actorId token l t
    obtain ⟨n₂, h₂⟩ := ih (l.activateKeeper cfg endpointId actorId token now t)
    exact ⟨n₁ ++ n₂, by rw [List.foldl_cons, h₂, h₁, List.append_assoc]⟩

theorem grounded_activateKeeper (hg : Grounded l) (t : GPUDevice × Option Lease) :
    Grounded (l.activateKeeper cfg endpointId actorId token now t) := by
  obtain ⟨new, hids⟩ := ids_activateKeeper cfg now endpointId actorId token l t
  refine ⟨fun r hr => ?_, fun c hc => ?_⟩
  · unfold Ledger.activateKeeper at hr hids ⊢
    cases ht : t.2 with
    | some x =>
      simp only [ht] at hr hids ⊢
      rw [hids]
      exact List.mem_append_left _ (hg.rows r hr)
    | none =>
      simp only [ht] at hr ⊢
      rcases List.mem_append.1 hr with hr | hr
      · exact List.map_append ▸ List.mem_append_left _ (hg.rows r hr)
      · obtain rfl := List.mem_singleton.1 hr
        exact List.map_append ▸ List.mem_append_right _ (List.mem_singleton_self _)
  · have hcm :
        (l.activateKeeper cfg endpointId actorId token now t).commitments = l.commitments := by
      unfold Ledger.activateKeeper
      cases t.2 with
      | some x => rfl
      | none => exact List.append_nil _
    rw [hids]
    exact List.mem_append_left _ (hg.pledges c (hcm ▸ hc))

/-- A target without a keeper gets one: the rows are those of an insertion. -/
theorem folio_activateKeeper_none {t : GPUDevice × Option Lease} (ht : t.2 = none) (id : String) :
    (l.activateKeeper cfg endpointId actorId token now t).folio id =
      (l.insertLease (keeperLease cfg (token t.1.id) endpointId t.1.id now l.revision)
        [t.1.id] []).folio id := by
  unfold Ledger.activateKeeper
  rw [ht]
  rfl

/-- The id it gets is a new one. -/
theorem activateKeeper_fresh {t : GPUDevice × Option Lease} (ht : t.2 = none)
    (hn : ((l.activateKeeper cfg endpointId actorId token now t).leases.map Lease.id).Nodup) :
    l.lease? (token t.1.id) = none := by
  have hids : (l.activateKeeper cfg endpointId actorId token now t).leases.map Lease.id =
      l.leases.map Lease.id ++ [token t.1.id] := by
    unfold Ledger.activateKeeper
    rw [ht]
    exact List.map_append
  rw [lease?_eq_none]
  rw [hids] at hn
  exact fun hm => (List.nodup_append.1 hn).2.2 _ hm _ (List.mem_singleton_self _) rfl

/-- One target: its keeper is confirmed, or begins. -/
theorem activateKeeper_opening (hg : Grounded l) (t : GPUDevice × Option Lease)
    (hn : ((l.activateKeeper cfg endpointId actorId token now t).leases.map Lease.id).Nodup)
    (hlive : ∀ x ∈ t.2, ∀ y, l.lease? x.id = some y → y.state.live = true)
    (ht : t.1.id ∈ gpuIds) :
    Opening server gpuIds l (l.activateKeeper cfg endpointId actorId token now t) := by
  cases hx : t.2 with
  | some x =>
    have hf : ∀ id, (l.activateKeeper cfg endpointId actorId token now t).folio id =
        (l.editLease x.id (Lease.keeperConfirmed now)).folio id := by
      intro id
      unfold Ledger.activateKeeper
      rw [hx]
      rfl
    have hh : ∀ id, (l.activateKeeper cfg endpointId actorId token now t).holding? id =
        l.holding? id := fun id => (holding_congr (hf id)).trans
      (holding_editLease (fun _ => rfl) fun y hy => ⟨rfl, rfl, (hlive x hx y hy).symm, rfl, rfl⟩)
    refine ⟨fun id _ => ⟨hh id, ?_⟩, fun id h => Or.inl ((hh id).trans h)⟩
    rw [hf]
    rfl
  | none =>
    set k := keeperLease cfg (token t.1.id) endpointId t.1.id now l.revision with hk
    have hf := folio_activateKeeper_none (l := l) cfg now endpointId actorId token hx
    have hfresh : l.lease? k.id = none :=
      activateKeeper_fresh cfg now endpointId actorId token hx hn
    have hne : ∀ id, id ≠ k.id →
        (l.activateKeeper cfg endpointId actorId token now t).folio id = l.folio id := by
      intro id h
      rw [hf, folio_insertLease _ _ _ _ _ (by simp), if_neg h]
    refine ⟨fun id h => ?_, fun id h => ?_⟩
    · have hid : id ≠ k.id := by
        rintro rfl
        exact h (holding_absent.2 hfresh)
      exact ⟨holding_congr (hne id hid), by rw [hne id hid]⟩
    · by_cases hid : id = k.id
      · subst hid
        have hs : (l.activateKeeper cfg endpointId actorId token now t).folio k.id =
            ⟨some k, [t.1.id].map fun g => { leaseId := k.id, gpuId := g }, []⟩ := by
          rw [hf, folio_insertLease _ _ _ _ _ (by simp), if_pos rfl, folio_absent hg hfresh, hfresh]
          rfl
        refine Or.inr ⟨k.holding [t.1.id].toFinset ∅, ?_, ⟨rfl, rfl, fun _ => ?_, fun hp => ?_⟩,
          rfl,
          ?_⟩
        · unfold Ledger.holding? Folio.holding?
          rw [hs, Option.map_some, cardSet_newRows]
          rfl
        · exact ⟨t.1.id, by simp [Lease.holding]⟩
        · cases hp
        · intro g hgm
          have he : g = t.1.id := by simpa [Lease.holding] using hgm
          rw [he, List.mem_toFinset]
          exact ht
      · exact Or.inl ((holding_congr (hne id hid)).trans h)

/-- All targets, one after the other. -/
theorem activateKeepers_opening (ts : List (GPUDevice × Option Lease)) (hg : Grounded l)
    (hn : ((ts.foldl (Ledger.activateKeeper cfg endpointId actorId token now) l).leases.map
      Lease.id).Nodup)
    (hlive : ∀ t ∈ ts, ∀ x ∈ t.2, ∃ h, l.holding? x.id = some h ∧ h.live = true)
    (ht : ∀ t ∈ ts, t.1.id ∈ gpuIds) :
    Opening server gpuIds l
      (ts.foldl (Ledger.activateKeeper cfg endpointId actorId token now) l) := by
  induction ts generalizing l with
  | nil => exact .refl l
  | cons t ts ih =>
    rw [List.foldl_cons] at hn ⊢
    have ho : Opening server gpuIds l (l.activateKeeper cfg endpointId actorId token now t) := by
      refine activateKeeper_opening cfg now endpointId actorId token hg t ?_ (fun x hx y hy => ?_)
        (ht t List.mem_cons_self)
      · obtain ⟨new, h⟩ := ids_activateKeepers cfg now endpointId actorId token
          (l.activateKeeper cfg endpointId actorId token now t) ts
        rw [h] at hn
        exact (List.nodup_append.1 hn).1
      · obtain ⟨h, hh, hv⟩ := hlive t List.mem_cons_self x hx
        rw [holding_of_lease hy] at hh
        cases hh
        exact hv
    refine ho.trans (ih (grounded_activateKeeper cfg now endpointId actorId token hg t) hn
      (fun t' ht' x hx => ?_) fun t' ht' => ht t' (List.mem_cons_of_mem t ht'))
    obtain ⟨h, hh, hv⟩ := hlive t' (List.mem_cons_of_mem t ht') x hx
    exact ⟨h, (ho.old _ (by rw [hh]; simp)).1.trans hh, hv⟩

end

/-! ## The operation -/

section

variable {cfg : Config} {now : Time} {actor : ActorContext} {token : String → String}
  {b b' : Broker} {resp : Response}

/-- A lease that owns a card has an active row for it. -/
theorem activeLeaseForGpu_mem {l : Ledger} {gpuId : String} {x : Lease}
    (h : l.activeLeaseForGpu gpuId = some x) :
    l.lease? x.id = some x ∧ gpuId ∈ (l.folio x.id).cardSet := by
  unfold Ledger.activeLeaseForGpu at h
  obtain ⟨r, hr, hx⟩ := List.mem_filterMap.1 (latest_mem h)
  obtain ⟨hr, hg⟩ := List.mem_filter.1 hr
  obtain ⟨hr, ha⟩ := List.mem_filter.1 hr
  have hid := lease?_id hx
  refine ⟨hid ▸ hx, mem_cardSet.2 ⟨r, mem_cards.2 ⟨hr, hid.symm, by simpa using ha⟩, ?_⟩⟩
  simpa using hg

/-- The worker state aside, nothing of the plant moves. -/
theorem setKeepaliveCurrent_eq (p : Plant) (gpuId : String) (actual : KeepaliveActual)
    (reason : Option String) (expected : Option ProcessObservation) (clear : Bool)
    (pending : Option Bool) (now : Time) :
    ∃ keepalive, p.setKeepaliveCurrent gpuId actual reason expected clear pending now =
      { p with keepalive } := by
  unfold Plant.setKeepaliveCurrent
  cases p.keepalive? gpuId with
  | none => exact ⟨_, rfl⟩
  | some k => exact ⟨_, rfl⟩

theorem plant_keepersActivated (cfg : Config) (endpointId actorId : String)
    (targets : List (GPUDevice × Option Lease)) (processes : List ProcessObservation)
    (token : String → String) (now : Time) :
    ∃ keepalive, (b.keepersActivated cfg endpointId actorId targets processes token now).plant =
      { b.plant with keepalive } := by
  unfold Broker.keepersActivated
  apply Run.foldl_inv (I := fun p : Plant => ∃ keepalive, p = { b.plant with keepalive }) _
    ⟨b.plant.keepalive, rfl⟩
  rintro - t _ ⟨ks, rfl⟩
  obtain ⟨ks', h⟩ := setKeepaliveCurrent_eq { b.plant with keepalive := ks } t.1.id .on none
    (processes.find? fun x => x.gpuId = t.1.id) false none now
  exact ⟨ks', h⟩

/-- **An activation** confirms keepers that are there, and begins the others on its targets. -/
theorem activate_opening (hb : Intact b)
    (hs : ∀ id h, b.ledger.holding? id = some h → h.Sound) {endpointId : String}
    {gpuIds : List String} {notBefore : Time} {key : String}
    {confirmed : Option (List (String × ℕ × String))}
    (h : activateKeepalives cfg now actor endpointId gpuIds notBefore key confirmed token b =
      .ok (b', resp)) :
    b' = b ∨ (∃ keepalive, b'.plant = { b.plant with keepalive }) ∧
      Opening b.plant.endpointOf gpuIds b.ledger b'.ledger := by
  rcases activateKeepalives_ok h with h | ⟨targets, processes, ht, -, -, -, -, hi, hb'⟩
  · exact Or.inl h
  have hn := hi.leasePk
  obtain ⟨idem, hrem⟩ := remember_eq (b.keepersActivated cfg endpointId actor.id targets processes
    token now).ledger actor "keepalive.activate_gpus" (some key) resp now
  rw [hrem] at hb'
  rw [hb'] at hn
  have ho : Opening b.plant.endpointOf gpuIds b.ledger.bumpRevision
      (b.keepersActivated cfg endpointId actor.id targets processes token now).ledger := by
    refine activateKeepers_opening cfg now endpointId actor.id token targets
      ⟨hb.grounded.rows, hb.grounded.pledges⟩ hn (fun t htm x hx => ?_) fun t htm => ?_
    · obtain ⟨g, -, hg⟩ := mem_of_mapM_ok ht htm
      obtain ⟨-, -, hact, -⟩ := keepaliveTarget_ok hg
      obtain ⟨hl, hc⟩ := activeLeaseForGpu_mem (hact ▸ hx : b.ledger.activeLeaseForGpu g = some x)
      -- it holds a card, so it is live
      refine ⟨_, holding_of_lease hl, ?_⟩
      by_contra hlive
      have he : (b.ledger.folio x.id).cardSet = ∅ :=
        (hs x.id _ (holding_of_lease hl)).empty (by simpa using hlive)
      rw [he] at hc
      exact absurd hc (Finset.notMem_empty g)
    · obtain ⟨g, hgm, hg⟩ := mem_of_mapM_ok ht htm
      rw [(row?_some (keepaliveTarget_ok hg).1).2]
      exact hgm
  refine Or.inr
    ⟨by rw [hb']; exact plant_keepersActivated cfg endpointId actor.id targets processes token now,
    ?_⟩
  rw [hb']
  exact ⟨ho.old, ho.new⟩

end

end ServerPilot
