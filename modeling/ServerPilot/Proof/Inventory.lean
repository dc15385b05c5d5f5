import ServerPilot.Proof.Steps

/-!
# The inventory of cards

A card's row id, server, node and UUID are set when the card is first seen and
never written again: observations only add cards (`absorb_grown`), a deletion
takes one server's away, and no other transaction touches the inventory
(`apply_inventory`). So the cards of a lease are what they were,
`apply_sameCards`. What a transaction can do to groups, cards and readings at all
is said once, `apply_shown`.
-/

namespace ServerPilot

open Rows Checked

/-- The columns of a card that are written once. -/
def GPUDevice.identity (g : GPUDevice) : String × String × String × String :=
  (g.id, g.endpointId, g.nodeId, g.gpuUuid)

/-- Cards were only added. -/
def Grown (p p' : Plant) : Prop :=
  ∃ new, p'.gpus.map GPUDevice.identity = p.gpus.map GPUDevice.identity ++ new

namespace Grown

variable {p p' p'' : Plant}

theorem of_gpus (h : p'.gpus = p.gpus) : Grown p p' := ⟨[], by rw [h, List.append_nil]⟩

theorem refl (p : Plant) : Grown p p := of_gpus rfl

theorem trans (a : Grown p p') (b : Grown p' p'') : Grown p p'' := by
  obtain ⟨new, ha⟩ := a
  obtain ⟨new', hb⟩ := b
  exact ⟨new ++ new', by rw [hb, ha, List.append_assoc]⟩

/-- A write on other columns of some cards. -/
theorem of_upd {q : GPUDevice → Bool} {f : GPUDevice → GPUDevice}
    (h : p'.gpus = updWhere q f p.gpus) (hf : ∀ g, (f g).identity = g.identity) : Grown p p' :=
  ⟨[], by rw [h, map_updWhere _ hf, List.append_nil]⟩

end Grown

/-- What is on show of a plant besides its servers: groups, cards and readings. -/
def Plant.shown (p : Plant) :
    List ServerGroup × List GPUDevice × List TelemetryCurrent × List HostTelemetry :=
  (p.serverGroups, p.gpus, p.telemetry, p.hosts)

theorem shown_gpus {p p' : Plant} (h : p'.shown = p.shown) : p'.gpus = p.gpus :=
  congrArg (fun x => x.2.1) h

section

variable {p p' : Plant} {id : String}

theorem identity_gpu? (p : Plant) (id : String) :
    (p.gpu? id).map GPUDevice.identity = row? Prod.fst id (p.gpus.map GPUDevice.identity) := by
  unfold Plant.gpu? row?
  rw [List.find?_map]
  rfl

theorem endpointOf_eq (p : Plant) (id : String) :
    p.endpointOf id = (((p.gpu? id).map GPUDevice.identity).map fun x => x.2.1).getD "" := by
  unfold Plant.endpointOf
  rw [Option.map_map]
  rfl

theorem uuidOf_eq (p : Plant) (id : String) :
    p.uuidOf id = (((p.gpu? id).map GPUDevice.identity).map fun x => x.2.2.2).getD "" := by
  unfold Plant.uuidOf
  rw [Option.map_map]
  rfl

/-- A known card keeps its identity. -/
theorem Grown.identity (h : Grown p p') (hm : id ∈ p.gpus.map GPUDevice.id) :
    (p'.gpu? id).map GPUDevice.identity = (p.gpu? id).map GPUDevice.identity := by
  obtain ⟨new, h⟩ := h
  obtain ⟨g, hg, rfl⟩ := List.mem_map.1 hm
  rw [identity_gpu?, identity_gpu?, h, row?_append]
  cases hr : row? Prod.fst g.id (p.gpus.map GPUDevice.identity) with
  | some x => rfl
  | none => exact absurd rfl (row?_none hr _ (List.mem_map_of_mem hg))

theorem Grown.endpointOf (h : Grown p p') (hm : id ∈ p.gpus.map GPUDevice.id) :
    p'.endpointOf id = p.endpointOf id := by
  rw [endpointOf_eq, endpointOf_eq, h.identity hm]

theorem Grown.uuidOf (h : Grown p p') (hm : id ∈ p.gpus.map GPUDevice.id) :
    p'.uuidOf id = p.uuidOf id := by
  rw [uuidOf_eq, uuidOf_eq, h.identity hm]

end

/-! ## Observations -/

section

variable {cfg : Config} {now : Time}

theorem seeGpu_grown (endpointId nodeId : String) (observedAt : Time) (p : Plant)
    (s : TelemetryInput) : Grown p (p.seeGpu endpointId nodeId observedAt s) := by
  unfold Plant.seeGpu
  simp only
  split
  · exact .of_upd rfl fun _ => rfl
  · exact ⟨_, List.map_append⟩

theorem seeCards_grown (endpointId : String) (o : NodeObservation) (p : Plant) :
    Grown p (p.seeCards endpointId o now) := by
  unfold Plant.seeCards
  have h₁ : Grown p (o.gpus.foldl (Plant.seeGpu endpointId o.nodeId o.observedAt) p) := by
    apply Run.foldl_inv (I := Grown p) _ (.refl p)
    intro q s _ hq
    exact hq.trans (seeGpu_grown _ _ _ q s)
  generalize o.gpus.foldl (Plant.seeGpu endpointId o.nodeId o.observedAt) p = q at h₁
  apply Run.foldl_inv (I := Grown p) _ h₁
  intro q s _ hq
  exact hq.trans (.of_gpus rfl)

theorem seeProcesses_shown (cfg : Config) (endpointId : String) (o : NodeObservation) (p : Plant)
    (now : Time) : (p.seeProcesses cfg endpointId o now).shown = p.shown := by
  unfold Plant.seeProcesses
  simp only [Plant.setNodeState, Plant.advanceProcessAbsence]
  apply Run.foldl_inv (I := fun q : Plant => q.shown = p.shown) _ rfl
  intro q x _ hq
  rw [← hq]
  unfold Plant.sight
  simp only
  split
  · rfl
  split <;> rfl

theorem seeProcesses_gpus (cfg : Config) (endpointId : String) (o : NodeObservation) (p : Plant)
    (now : Time) : (p.seeProcesses cfg endpointId o now).gpus = p.gpus :=
  shown_gpus (seeProcesses_shown cfg endpointId o p now)

theorem convergeOwnership_grown (cfg : Config) (p : Plant) (endpointId : String)
    (mine : List (String × String)) (observedAt : Time) :
    Grown p (p.convergeOwnership cfg endpointId mine observedAt).1 := by
  unfold Plant.convergeOwnership
  exact .of_upd rfl fun _ => rfl

theorem markAbsent_grown (p : Plant) (endpointId nodeId : String) (observed : List String)
    (observedAt : Time) : Grown p (p.markAbsent endpointId nodeId observed observedAt) := by
  unfold Plant.markAbsent
  exact .of_upd rfl fun _ => rfl

theorem releaseAbsentKeepers_shown (b : Broker) (endpointIds : List String) :
    (b.releaseAbsentKeepers endpointIds now).plant.shown = b.plant.shown := by
  unfold Broker.releaseAbsentKeepers
  simp only
  split <;> rfl

theorem releaseAbsentKeepers_gpus (b : Broker) (endpointIds : List String) :
    (b.releaseAbsentKeepers endpointIds now).plant.gpus = b.plant.gpus :=
  shown_gpus (releaseAbsentKeepers_shown b endpointIds)

theorem ingestNodeObservation_grown (endpointId : String) (b : Broker) (o : NodeObservation) :
    Grown b.plant (ingestNodeObservation cfg endpointId now b o).plant := by
  unfold ingestNodeObservation
  split
  · exact .refl _
  have hs : Grown b.plant ((b.plant.readHost endpointId o now).seeCards endpointId o now) :=
    (Grown.of_gpus rfl).trans (seeCards_grown endpointId o (b.plant.readHost endpointId o now))
  generalize (b.plant.readHost endpointId o now).seeCards endpointId o now = q at hs
  refine hs.trans (Grown.trans ?_ (.of_gpus (seeProcesses_gpus _ _ _ _ _)))
  simp only
  split
  · exact .refl _
  refine Grown.trans ?_ (.of_gpus (releaseAbsentKeepers_gpus _ _))
  exact (convergeOwnership_grown _ _ _ _ _).trans (markAbsent_grown _ _ _ _ _)

/-- The worker state of a card is not on show. -/
theorem setKeepaliveCurrent_shown (p : Plant) (gpuId : String) (actual : KeepaliveActual)
    (reason : Option String) (expected : Option ProcessObservation) (clear : Bool)
    (pending : Option Bool) (now : Time) :
    (p.setKeepaliveCurrent gpuId actual reason expected clear pending now).shown = p.shown := by
  obtain ⟨keepalive, h⟩ :=
    setKeepaliveCurrent_eq p gpuId actual reason expected clear pending now
  rw [h]
  rfl

theorem recordObservedKeepalive_shown (b : Broker) (endpointId : String) (complete : Bool) :
    (b.recordObservedKeepalive endpointId complete now).plant.shown = b.plant.shown := by
  unfold Broker.recordObservedKeepalive
  split
  · rfl
  apply Run.foldl_inv (I := fun s : Broker => s.plant.shown = b.plant.shown) _ rfl
  intro s lease _ hs
  rw [← hs]
  unfold recordObservedKeeper
  split
  · exact setKeepaliveCurrent_shown _ _ _ _ _ _ _ _
  · rfl

theorem bindNewWorkloads_plant (b : Broker) (endpointId : String) :
    (b.bindNewWorkloads endpointId now).plant = b.plant := by
  unfold Broker.bindNewWorkloads
  apply Run.foldl_inv (I := fun s : Broker => s.plant = b.plant) _ rfl
  intro s lease _ hs
  rw [← hs]
  unfold bindNewWorkload
  simp only
  split <;> rfl

/-- What an observation does to what is on show, its nodes do. -/
theorem absorb_shown (cfg : Config) (now : Time) (b : Broker) (o : EndpointObservation) :
    (b.absorb cfg now o).plant.shown =
      (o.nodes.foldl (ingestNodeObservation cfg o.endpointId now)
        { b with ledger := b.ledger.bumpRevision }).plant.shown := by
  unfold Broker.absorb
  simp only
  generalize o.nodes.foldl (ingestNodeObservation cfg o.endpointId now)
    { b with ledger := b.ledger.bumpRevision } = b₁
  have h₂ : (o.failures.foldl (ingestNodeFailure cfg o.endpointId now) b₁).plant.shown =
      b₁.plant.shown := by
    apply Run.foldl_inv (I := fun s : Broker => s.plant.shown = b₁.plant.shown) _ rfl
    intro s f _ hs
    rw [← hs]
    rfl
  generalize o.failures.foldl (ingestNodeFailure cfg o.endpointId now) b₁ = b₂ at h₂
  have hc : ∀ (s : Broker), (s.clearKeepaliveErrors cfg o.endpointId o.complete now).plant.shown =
      s.plant.shown := by
    intro s
    unfold Broker.clearKeepaliveErrors
    split <;> rfl
  rw [hc, bindNewWorkloads_plant, recordObservedKeepalive_shown, ← h₂]
  rfl

theorem absorb_gpus (cfg : Config) (now : Time) (b : Broker) (o : EndpointObservation) :
    (b.absorb cfg now o).plant.gpus =
      (o.nodes.foldl (ingestNodeObservation cfg o.endpointId now)
        { b with ledger := b.ledger.bumpRevision }).plant.gpus :=
  shown_gpus (absorb_shown cfg now b o)

/-- **An observation** only adds cards. -/
theorem absorb_grown (cfg : Config) (now : Time) (b : Broker) (o : EndpointObservation) :
    Grown b.plant (b.absorb cfg now o).plant := by
  have h₁ : Grown b.plant (o.nodes.foldl (ingestNodeObservation cfg o.endpointId now)
      { b with ledger := b.ledger.bumpRevision }).plant := by
    apply Run.foldl_inv (I := fun s : Broker => Grown b.plant s.plant)
    · intro s n _ hs
      exact hs.trans (ingestNodeObservation_grown _ s n)
    · exact .refl _
  exact h₁.trans (.of_gpus (absorb_gpus cfg now b o))

theorem ingested_plant (b : Broker) (o : EndpointObservation)
    (token : String → String → String) :
    (b.ingested cfg now o token).1.plant = (b.absorb cfg now o).plant :=
  (pass_sweep cfg now token b o).plant

end

/-! ## Every transaction -/

section

variable {cfg : Config} {op : Op} {b b' : Broker} {resp : Response}

theorem providerFailed_shown (cfg : Config) (p : Plant) (endpointId message errorCode : String)
    (now : Time) : (p.providerFailed cfg endpointId message errorCode now).shown = p.shown := by
  unfold Plant.providerFailed
  apply Run.foldl_inv (I := fun q : Plant => q.shown = p.shown) _ rfl
  intro q node _ hq
  rw [← hq]
  rfl

theorem workersOff_shown (b : Broker) (endpointId : String) (now : Time) :
    (b.workersOff endpointId now).shown = b.plant.shown := by
  unfold Broker.workersOff
  apply Run.foldl_inv (I := fun q : Plant => q.shown = b.plant.shown) _ rfl
  intro q g _ hq
  rw [← hq]
  exact setKeepaliveCurrent_shown _ _ _ _ _ _ _ _

theorem setKeepaliveErrors_shown (endpointId reason : String) (pending : Bool) (now : Time)
    (p : Plant) (gpuIds : List String) :
    (gpuIds.foldl (setKeepaliveErrorOn endpointId reason pending now) p).shown = p.shown := by
  apply Run.foldl_inv (I := fun q : Plant => q.shown = p.shown) _ rfl
  intro q g _ hq
  rw [← hq]
  unfold setKeepaliveErrorOn
  split
  · exact setKeepaliveCurrent_shown _ _ _ _ _ _ _ _
  · rfl

theorem finishCleanup_shown (actor : ActorContext) (endpointId : String) (now : Time) (b : Broker)
    (gpuIds : List String) :
    (gpuIds.foldl (finishCleanupOn actor endpointId now) b).plant.shown = b.plant.shown := by
  apply Run.foldl_inv (I := fun s : Broker => s.plant.shown = b.plant.shown) _ rfl
  intro s g _ hs
  rw [← hs]
  unfold finishCleanupOn
  split
  · exact setKeepaliveCurrent_shown _ _ _ _ _ _ _ _
  · rfl

/-- **What is on show after a transaction**: as before, with a new group, as an observation leaves
it, or without one server's rows. -/
theorem apply_shown (hk : Kept b) (h : op.apply cfg b = .ok (b', resp)) :
    b'.plant.shown = b.plant.shown ∨
      (∃ now actor data key, op = .createServerGroup now actor data key ∧
        b'.plant = { b.plant with serverGroups := b.plant.serverGroups ++ [data] }) ∨
      (∃ now o token, op = .ingestObservation now o token ∧
        b.plant.staleObservation o = false ∧ b' = (b.ingested cfg now o token).1) ∨
      ∃ now actor e key, op = .deleteEndpoint now actor e key ∧
        b'.plant = (b.purgeEndpoint e).plant := by
  cases op with
  | createRequest =>
    rcases claim_begun hk.intact h with rfl | ⟨hp, -⟩
    exacts [Or.inl rfl, Or.inl (by rw [hp])]
  | resizeLease => exact Or.inl (by rw [(resize_resized hk.intact h).1])
  | releaseLease =>
    rcases releaseLease_ok h with rfl | ⟨-, -, -, -, -, -, rfl⟩ <;> exact Or.inl rfl
  | reassignLeaseGpus =>
    rcases reassign_moved hk.intact h with rfl | ⟨hp, -⟩
    exacts [Or.inl rfl, Or.inl (by rw [hp])]
  | takeOverLease => exact Or.inl (by rw [(takeOverLease_ends h).1])
  | leaseView => exact Or.inl (by rw [(leaseView_keeps h).1])
  | recordLeaseHeartbeat =>
    rcases recordLeaseHeartbeat_ok h with rfl | ⟨-, rfl⟩
    exacts [Or.inl rfl, Or.inl (by rw [(heartbeat_keeps _ _ _ _ _ _).1])]
  | bindObservedWorkload => exact Or.inl (by rw [(bindObservedWorkload_keeps h).1])
  | releaseEmptyConflictedLease =>
    rcases releaseEmpty_loses h with rfl | ⟨hp, -⟩
    exacts [Or.inl rfl, Or.inl (by rw [hp])]
  | activateKeepalives =>
    rcases activate_opening hk.intact hk.wellkept h with rfl | ⟨⟨ks, hp⟩, -⟩
    exacts [Or.inl rfl, Or.inl (by rw [hp]; rfl)]
  | finalizeKeepaliveStop =>
    rcases finalizeKeepaliveStop_ok h with rfl | ⟨-, -, -, -, -, -, -, -, -, -, rfl⟩
    exacts [Or.inl rfl, Or.inl (setKeepaliveCurrent_shown _ _ _ _ _ _ _ _)]
  | setKeepaliveError =>
    obtain ⟨rfl, -, -⟩ := finish_ok.1 h
    exact Or.inl (setKeepaliveErrors_shown _ _ _ _ _ _)
  | finishKeepaliveCleanup =>
    obtain ⟨rfl, -, -⟩ := finish_ok.1 h
    exact Or.inl (finishCleanup_shown _ _ _ _ _)
  | configureKeepalivePolicy =>
    rcases configureKeepalivePolicy_ok h with rfl | ⟨e, changed, -, -, rfl⟩
    · exact Or.inl rfl
    · left
      unfold Broker.policyConfigured
      simp only
      split
      · exact workersOff_shown _ _ _
      · rfl
  | ingestObservation now o token =>
    rcases ingestObservation_ok h with rfl | ⟨hs, -, rfl⟩
    · exact Or.inl rfl
    · exact Or.inr (Or.inr (Or.inl ⟨now, o, token, rfl, hs, rfl⟩))
  | recordProviderFailure =>
    obtain ⟨-, first, rfl⟩ := recordProviderFailure_ok h
    exact Or.inl (providerFailed_shown _ _ _ _ _ _)
  | pruneExpired =>
    obtain ⟨rfl, -, -⟩ := finish_ok.1 h
    exact Or.inl rfl
  | createServerGroup now actor data key =>
    rcases createServerGroup_ok h with rfl | ⟨-, rfl⟩
    · exact Or.inl rfl
    · exact Or.inr (Or.inl ⟨now, actor, data, key, rfl, rfl⟩)
  | createEndpoint =>
    rcases createEndpoint_ok h with rfl | ⟨-, rfl⟩ <;> exact Or.inl rfl
  | updateEndpoint =>
    rcases updateEndpoint_ok h with rfl | ⟨e, -, -, rfl⟩ <;> exact Or.inl rfl
  | deleteEndpoint now actor endpointId key =>
    rcases delete_uprooted hk.intact hk.wellkept h with rfl | ⟨hp, -⟩
    · exact Or.inl rfl
    · exact Or.inr (Or.inr (Or.inr ⟨now, actor, endpointId, key, rfl, hp⟩))
  | claimPrepare => exact Or.inl (by rw [(claimPrepare_keeps h).1])
  | claimFailed | claimRemember | markAllocation =>
    obtain ⟨-, -, rfl⟩ := writeAllocation_ok h
    exact Or.inl rfl
  | claimFinish => exact Or.inl (by rw [(claimFinish_opening hk.intact h).1])
  | finishPluginRelease =>
    rcases finishPluginRelease_ok h with rfl | ⟨a, -, -, rfl⟩ <;> exact Or.inl rfl

/-- **The inventory after a transaction**: as before, or with new cards that no lease has yet, seen
by an observation, or without one server's cards. -/
theorem apply_inventory (hk : Kept b) (h : op.apply cfg b = .ok (b', resp)) :
    b'.plant.gpus = b.plant.gpus ∨
      ((∃ now o token, op = .ingestObservation now o token) ∧ Fades b.ledger b'.ledger ∧
        Grown b.plant b'.plant) ∨
      ∃ e, op.deletes = some e ∧
        b'.plant.gpus = b.plant.gpus.filter fun g => g.endpointId ≠ e := by
  rcases apply_shown hk h with hs | ⟨now, actor, data, key, rfl, hp⟩ |
    ⟨now, o, token, rfl, -, rfl⟩ | ⟨now, actor, e, key, rfl, hp⟩
  · exact Or.inl (shown_gpus hs)
  · exact Or.inl (by rw [hp])
  · refine Or.inr (Or.inl ⟨⟨now, o, token, rfl⟩, ingested_fades hk.intact _, ?_⟩)
    rw [ingested_plant]
    exact absorb_grown _ _ _ _
  · exact Or.inr (Or.inr ⟨e, rfl, by rw [hp]; rfl⟩)

/-- Held cards are known cards. -/
theorem held_known (hb : Intact b) {id : String} {x : Holding String String}
    (hx : b.ledger.holding? id = some x) : ∀ g ∈ x.cards, g ∈ b.plant.gpus.map GPUDevice.id := by
  intro g hg
  rw [holding_cards hx] at hg
  obtain ⟨r, hr, rfl⟩ := mem_cardSet.1 hg
  exact hb.resourceGpu r (mem_cards.1 hr).1

/-- **A card held after a transaction** is on the server it was on before, and is the same card. -/
theorem apply_sameCards (hk : Kept b) (h : op.apply cfg b = .ok (b', resp)) {id : String}
    {x : Holding String String} (hx : b'.ledger.holding? id = some x) : ∀ g ∈ x.cards,
      b'.plant.endpointOf g = b.plant.endpointOf g ∧ b'.plant.uuidOf g = b.plant.uuidOf g := by
  intro g hg
  have hgpu : ∀ {p p' : Plant}, p'.gpu? g = p.gpu? g →
      p'.endpointOf g = p.endpointOf g ∧ p'.uuidOf g = p.uuidOf g := by
    intro p p' he
    unfold Plant.endpointOf Plant.uuidOf
    rw [he]
    exact ⟨rfl, rfl⟩
  have hm' := held_known (apply_intact hk.intact h) hx g hg
  rcases apply_inventory hk h with heq | ⟨-, hf, hgrown⟩ | ⟨e, -, heq⟩
  · exact hgpu (by unfold Plant.gpu?; rw [heq])
  · -- an observation only takes cards, so this one was held before
    have hm : g ∈ b.plant.gpus.map GPUDevice.id := by
      cases hy : b.ledger.holding? id with
      | none =>
        rw [hf.absent id hy] at hx
        cases hx
      | some y =>
        obtain ⟨z, hz, s⟩ := hf.related id y hy
        rw [hx] at hz
        cases hz
        exact held_known hk.intact hy g (s.subset hg)
    exact ⟨hgrown.endpointOf hm, hgrown.uuidOf hm⟩
  · obtain ⟨c, hc, rfl⟩ := List.mem_map.1 hm'
    have hin : c ∈ b.plant.gpus := by
      rw [heq] at hc
      exact List.mem_of_mem_filter hc
    exact hgpu ((gpu?_of_mem (apply_intact hk.intact h).gpuPk hc).trans
      (gpu?_of_mem hk.intact.gpuPk hin).symm)

end

end ServerPilot
