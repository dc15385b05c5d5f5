import ServerPilot.Proof.Fleet
import ServerPilot.Proof.Plants
import ServerPilot.Spec.Groups

/-!
# Kept servers stay where they are

* `Plant.Housed`, `step_housed`: every server names a workspace, or a group there is.
* `step_connection`: no transaction changes how a server is reached and observed, or where its work
  is, while a keeper is live on it; `updateServerGroup_keeps` and `deleteServerGroup_keeps` say the
  same of the groups' own.
* `connection_frozen`: both, over every run.
-/

namespace ServerPilot

open Rows Checked

/-- How a server is reached and observed, and where its work is. -/
def Plant.reach (p : Plant) (e : Endpoint) : String × ℕ × String × String × Option String :=
  (e.host, e.port, e.sshUser, e.observationProfile, p.effectiveWorkspace e)

/-- The same of the server with the id. -/
def Plant.connection (p : Plant) (id : String) :
    Option (String × ℕ × String × String × Option String) :=
  (p.endpoint? id).map p.reach

/-- The server names a workspace or a group, and its group is there. -/
structure Plant.Houses (p : Plant) (e : Endpoint) : Prop where
  named : e.workspacePath ≠ some ""
  grouped : ∀ g, e.serverGroupId = some g → (row? ServerGroup.id g p.serverGroups).isSome = true
  placed : e.workspacePath.isSome = true ∨ e.serverGroupId.isSome = true

/-- Every server has somewhere to work. -/
def Plant.Housed (p : Plant) : Prop := ∀ e ∈ p.endpoints, p.Houses e

/-- No workspace that is sent is empty, as the schemas of the calls demand. -/
def FleetOp.Sent : FleetOp → Prop
  | .broker (.createEndpoint _ _ data _) => data.workspacePath ≠ some ""
  | .broker (.updateEndpoint _ _ _ u _) => u.workspaceOverride ≠ some (some "")
  | _ => True

section

variable {p p' : Plant} {e : Endpoint} {id : String}

theorem effectiveWorkspace_congr (h : p'.serverGroups = p.serverGroups) (e : Endpoint) :
    p'.effectiveWorkspace e = p.effectiveWorkspace e := by
  unfold Plant.effectiveWorkspace
  rw [h]

theorem reach_congr (h : p'.serverGroups = p.serverGroups) : p'.reach = p.reach := by
  funext e
  unfold Plant.reach
  rw [effectiveWorkspace_congr h]

theorem connection_congr (he : p'.endpoints = p.endpoints) (hg : p'.serverGroups = p.serverGroups) :
    p'.connection id = p.connection id := by
  unfold Plant.connection Plant.endpoint?
  rw [he, reach_congr hg]

/-- A server stays housed where it names what it named and no group goes. -/
theorem Plant.Houses.mono {e' : Endpoint} (h : p.Houses e)
    (hw : e'.workspacePath = e.workspacePath) (hg : e'.serverGroupId = e.serverGroupId)
    (hgroups : ∀ g, e.serverGroupId = some g →
      (row? ServerGroup.id g p.serverGroups).isSome = true →
      (row? ServerGroup.id g p'.serverGroups).isSome = true) : p'.Houses e' := by
  refine ⟨?_, fun g hsome => ?_, ?_⟩
  · rw [hw]
    exact h.named
  · rw [hg] at hsome
    exact hgroups g hsome (h.grouped g hsome)
  · rw [hw, hg]
    exact h.placed

theorem Plant.Housed.congr (h : p.Housed) (he : p'.endpoints = p.endpoints)
    (hg : p'.serverGroups = p.serverGroups) : p'.Housed := by
  intro e hmem
  rw [he] at hmem
  exact (h e hmem).mono rfl rfl fun _ _ hrow => by rwa [hg]

/-- A workspace of its own is where a server works. -/
theorem effectiveWorkspace_own {w : String} (h : e.workspacePath = some w) (hw : w ≠ "") :
    p.effectiveWorkspace e = some w := by
  unfold Plant.effectiveWorkspace
  rw [h, Option.filter_some, if_pos (decide_eq_true hw)]

theorem effectiveWorkspace_group (h : e.workspacePath = none) :
    p.effectiveWorkspace e = e.serverGroupId.bind fun g =>
      (row? ServerGroup.id g p.serverGroups).map ServerGroup.workspacePath := by
  unfold Plant.effectiveWorkspace
  rw [h]
  rfl

/-- A housed server works somewhere. -/
theorem Plant.Houses.workspace (h : p.Houses e) : (p.effectiveWorkspace e).isSome = true := by
  cases hw : e.workspacePath with
  | some w =>
    have hne : w ≠ "" := fun heq => h.named (hw.trans (congrArg some heq))
    rw [effectiveWorkspace_own hw hne]
    rfl
  | none =>
    obtain ⟨g, hg⟩ : ∃ g, e.serverGroupId = some g := by
      have hplaced := h.placed
      rw [hw] at hplaced
      exact Option.isSome_iff_exists.1 (hplaced.resolve_left Bool.false_ne_true)
    obtain ⟨group, hgroup⟩ := Option.isSome_iff_exists.1 (h.grouped g hg)
    rw [effectiveWorkspace_group hw, hg, Option.bind_some, hgroup]
    rfl

/-- Where every server's group is as it was, servers work where they did. -/
theorem effectiveWorkspace_same
    (h : ∀ g, e.workspacePath = none → e.serverGroupId = some g →
      (row? ServerGroup.id g p'.serverGroups).map ServerGroup.workspacePath =
        (row? ServerGroup.id g p.serverGroups).map ServerGroup.workspacePath)
    (hw : e.workspacePath ≠ some "") : p'.effectiveWorkspace e = p.effectiveWorkspace e := by
  cases hpath : e.workspacePath with
  | some w =>
    have hne : w ≠ "" := fun heq => hw (hpath.trans (congrArg some heq))
    rw [effectiveWorkspace_own hpath hne, effectiveWorkspace_own hpath hne]
  | none =>
    rw [effectiveWorkspace_group hpath, effectiveWorkspace_group hpath]
    cases hg : e.serverGroupId with
    | none => rfl
    | some g => exact h g hpath hg

end

/-- An update that changes no protected field leaves a server as it is reached. -/
theorem reach_updated {p : Plant} {e : Endpoint} {u : EndpointUpdate}
    (h : p.protectedFields e (e.updated u) = []) : p.reach (e.updated u) = p.reach e := by
  unfold Plant.protectedFields at h
  simp only [List.append_eq_nil_iff, ite_eq_right_iff, List.cons_ne_nil, imp_false,
    not_not] at h
  obtain ⟨⟨⟨-, hprofile⟩, huser⟩, hwork⟩ := h
  unfold Plant.reach
  rw [hprofile, huser, hwork]
  rfl

/-! ## What accepted calls checked -/

section

variable {cfg : Config} {now : Time} {actor : ActorContext} {b b' : Broker} {resp : Response}

theorem requireEffectiveWorkspace_ok {p : Plant} {override groupId : Option String}
    (h : p.requireEffectiveWorkspace override groupId = .ok ()) :
    (∀ g, groupId = some g → (row? ServerGroup.id g p.serverGroups).isSome = true) ∧
      (override.isSome = true ∨ groupId.isSome = true) := by
  unfold Plant.requireEffectiveWorkspace at h
  simp only [bind_ok, require_ok] at h
  obtain ⟨-, hgroup, hsome⟩ := h
  refine ⟨fun g hg => ?_, ?_⟩
  · have hrow := hgroup (by rw [hg]; rfl)
    rw [hg] at hrow
    exact hrow
  · rcases hsome with h | h
    · left
      cases override with
      | none => cases h
      | some w => rfl
    · right
      cases groupId with
      | none => cases h
      | some g => rfl

theorem createEndpoint_workspace {data : EndpointCreate} {key : String}
    (h : createEndpoint now actor data key b = .ok (b', resp)) :
    b' = b ∨ b.plant.endpoint? data.id = none ∧
      b.plant.requireEffectiveWorkspace data.workspacePath data.serverGroupId = .ok () := by
  unfold createEndpoint at h
  simp only [bind_ok] at h
  obtain ⟨-, -, h⟩ := h
  rcases once_ok h with h | ⟨b₁, hb, -, -⟩
  · exact Or.inl h
  · simp only [bind_ok, require_ok] at hb
    obtain ⟨-, hnone, -, -, u, hw, -⟩ := hb
    exact Or.inr ⟨hnone, hw⟩

theorem createServerGroup_new {data : ServerGroup} {key : String}
    (h : createServerGroup now actor data key b = .ok (b', resp)) :
    b' = b ∨ row? ServerGroup.id data.id b.plant.serverGroups = none := by
  unfold createServerGroup at h
  simp only [bind_ok] at h
  obtain ⟨-, -, h⟩ := h
  rcases once_ok h with h | ⟨b₁, hb, -, -⟩
  · exact Or.inl h
  · simp only [bind_ok, require_ok] at hb
    exact Or.inr hb.choose_spec.1

/-- An update that is accepted leaves a workspace, and leaves a kept server as it is reached. -/
theorem updateEndpoint_checks {endpointId key : String} {u : EndpointUpdate}
    (h : updateEndpoint now actor endpointId u key b = .ok (b', resp)) :
    b' = b ∨ ∃ e, b.plant.endpoint? endpointId = some e ∧
      b.plant.requireEffectiveWorkspace (e.updated u).workspacePath (e.updated u).serverGroupId =
        .ok () ∧
      (b.plant.protectedFields e (e.updated u) = [] ∨ b.activeKeepaliveOn endpointId = false) := by
  unfold updateEndpoint at h
  simp only [bind_ok] at h
  obtain ⟨-, -, h⟩ := h
  rcases once_ok h with h | ⟨b₁, hb, -, -⟩
  · exact Or.inl h
  · simp only [bind_ok, need_ok, require_ok] at hb
    obtain ⟨e, he, -, -, v, hw, -, hfields, -⟩ := hb
    exact Or.inr ⟨e, he, hw, hfields⟩

/-- An accepted update of a group sets its workspace, which no kept server of it changes by. -/
theorem updateServerGroup_ok {groupId key : String} {u : ServerGroupUpdate}
    (h : updateServerGroup now actor groupId u key b = .ok (b', resp)) :
    b' = b ∨ ∃ group path, row? ServerGroup.id groupId b.plant.serverGroups = some group ∧
      (path = group.workspacePath ∨ b.keptMembers group.id = []) ∧
      b'.plant = b.plant.setGroupWorkspace group.id path ∧ Intact b' ∧
      ∀ id, b'.ledger.holding? id = b.ledger.holding? id := by
  unfold updateServerGroup at h
  simp only [bind_ok] at h
  obtain ⟨-, -, h⟩ := h
  rcases once_ok h with h | ⟨b₁, hb, hi, rfl⟩
  · exact Or.inl h
  · simp only [bind_ok, need_ok, require_ok, pure_ok, Prod.mk.injEq] at hb
    obtain ⟨group, hg, -, hkept, rfl, -⟩ := hb
    refine Or.inr ⟨group, _, hg, hkept, rfl, hi, fun id => ?_⟩
    simp only
    split <;> rfl

/-- An accepted deletion of a group is of one no server is in. -/
theorem deleteServerGroup_ok {groupId key : String}
    (h : deleteServerGroup now actor groupId key b = .ok (b', resp)) :
    b' = b ∨ ∃ group : ServerGroup,
      (∀ e ∈ b.plant.endpoints, e.serverGroupId ≠ some group.id) ∧
      b'.plant = { b.plant with
        serverGroups := b.plant.serverGroups.filter fun g => g.id ≠ group.id } ∧ Intact b' ∧
      ∀ id, b'.ledger.holding? id = b.ledger.holding? id := by
  unfold deleteServerGroup at h
  simp only [bind_ok] at h
  obtain ⟨-, -, h⟩ := h
  rcases once_ok h with h | ⟨b₁, hb, hi, rfl⟩
  · exact Or.inl h
  · simp only [bind_ok, need_ok, require_ok, pure_ok, Prod.mk.injEq] at hb
    obtain ⟨group, -, -, hnone, rfl, -⟩ := hb
    refine Or.inr ⟨group, fun e he hmember => ?_, rfl, hi, fun _ => rfl⟩
    have hfilter := List.filter_eq_nil_iff.1 (List.map_eq_nil_iff.1 hnone) e he
    exact hfilter (decide_eq_true hmember)

end

/-! ## One transaction -/

section

variable {cfg : Config} {now : Time} {b b' : Broker} {id : String}

/-- The servers and the groups. -/
def Plant.fleet (p : Plant) : List Endpoint × List ServerGroup := (p.endpoints, p.serverGroups)

theorem seeCards_fleet (p : Plant) (e : String) (o : NodeObservation) :
    (p.seeCards e o now).fleet = p.fleet := by
  unfold Plant.seeCards
  have hseen : (o.gpus.foldl (Plant.seeGpu e o.nodeId o.observedAt) p).fleet = p.fleet := by
    apply Run.foldl_inv (I := fun q : Plant => q.fleet = p.fleet) _ rfl
    intro q s _ hq
    exact hq
  apply Run.foldl_inv (I := fun q : Plant => q.fleet = p.fleet) _ hseen
  intro q s _ hq
  exact hq

theorem seeProcesses_fleet (p : Plant) (e : String) (o : NodeObservation) :
    (p.seeProcesses cfg e o now).fleet = p.fleet := by
  unfold Plant.seeProcesses
  apply Run.foldl_inv (I := fun q : Plant => q.fleet = p.fleet) _ rfl
  intro q x _ hq
  rw [← hq]
  unfold Plant.sight
  split
  · rfl
  simp only
  split <;> rfl

theorem ingestNode_fleet (e : String) (b : Broker) (o : NodeObservation) :
    (ingestNodeObservation cfg e now b o).plant.fleet = b.plant.fleet := by
  unfold ingestNodeObservation
  split
  · rfl
  have hcards : ((b.plant.readHost e o now).seeCards e o now).fleet = b.plant.fleet :=
    seeCards_fleet _ _ _
  generalize (b.plant.readHost e o now).seeCards e o now = q at hcards
  rw [seeProcesses_fleet, ← hcards]
  split
  · rfl
  · unfold Broker.releaseAbsentKeepers
    simp only
    split <;> rfl

theorem setKeepaliveCurrent_fleet (p : Plant) (gpuId : String) (actual : KeepaliveActual)
    (reason : Option String) (expected : Option ProcessObservation) (clear : Bool)
    (pending : Option Bool) :
    (p.setKeepaliveCurrent gpuId actual reason expected clear pending now).fleet = p.fleet := by
  obtain ⟨keepalive, h⟩ := setKeepaliveCurrent_eq p gpuId actual reason expected clear pending now
  rw [h]
  rfl

/-- **An observation** leaves the servers and the groups. -/
theorem ingested_fleet (b : Broker) (o : EndpointObservation) (token : String → String → String) :
    (b.ingested cfg now o token).1.plant.fleet = b.plant.fleet := by
  rw [ingested_plant]
  unfold Broker.absorb
  simp only
  have hnodes : (o.nodes.foldl (ingestNodeObservation cfg o.endpointId now)
      { b with ledger := b.ledger.bumpRevision }).plant.fleet = b.plant.fleet := by
    have hstart : ({ b with ledger := b.ledger.bumpRevision } : Broker).plant.fleet =
        b.plant.fleet := rfl
    apply Run.foldl_inv (I := fun s : Broker => s.plant.fleet = b.plant.fleet) _ hstart
    intro s n _ hs
    rw [ingestNode_fleet, hs]
  generalize o.nodes.foldl (ingestNodeObservation cfg o.endpointId now)
    { b with ledger := b.ledger.bumpRevision } = b₁ at hnodes
  have hfailures : (o.failures.foldl (ingestNodeFailure cfg o.endpointId now) b₁).plant.fleet =
      b.plant.fleet := by
    apply Run.foldl_inv (I := fun s : Broker => s.plant.fleet = b.plant.fleet) _ hnodes
    intro s f _ hs
    exact hs
  generalize o.failures.foldl (ingestNodeFailure cfg o.endpointId now) b₁ = b₂ at hfailures
  have hkeepers : ∀ s : Broker,
      (s.recordObservedKeepalive o.endpointId o.complete now).plant.fleet = s.plant.fleet := by
    intro s
    unfold Broker.recordObservedKeepalive
    split
    · rfl
    apply Run.foldl_inv (I := fun t : Broker => t.plant.fleet = s.plant.fleet) _ rfl
    intro t lease _ ht
    rw [← ht]
    unfold recordObservedKeeper
    split
    · exact setKeepaliveCurrent_fleet _ _ _ _ _ _ _
    · rfl
  have hclear : ∀ s : Broker,
      (s.clearKeepaliveErrors cfg o.endpointId o.complete now).plant.fleet = s.plant.fleet := by
    intro s
    unfold Broker.clearKeepaliveErrors
    split <;> rfl
  rw [hclear, bindNewWorkloads_plant, hkeepers, ← hfailures]
  rfl

theorem providerFailed_fleet (p : Plant) (e message code : String) :
    (p.providerFailed cfg e message code now).fleet = p.fleet := by
  unfold Plant.providerFailed
  apply Run.foldl_inv (I := fun q : Plant => q.fleet = p.fleet) _ rfl
  intro q n _ hq
  exact hq

/-- A kept server is there. -/
theorem kept_endpoint (hb : Intact b) (h : b.activeKeepaliveOn id = true) :
    ∃ e, b.plant.endpoint? id = some e := by
  unfold Broker.activeKeepaliveOn Broker.holdsOn at h
  simp only [List.any_eq_true, Bool.and_eq_true, Option.any_eq_true, decide_eq_true_eq] at h
  obtain ⟨x, -, -, r, -, g, hg, rfl⟩ := h
  have hmem := hb.gpuEndpoint g (row?_some hg).1
  obtain ⟨e, he, hid⟩ := List.mem_map.1 hmem
  refine ⟨e, ?_⟩
  rw [← hid]
  exact row?_of_mem hb.endpointPk he

/-- The row of another server is not touched by an update of one. -/
theorem endpoint?_upd {l : List Endpoint} {f : Endpoint → Endpoint} {i : String}
    (hf : ∀ e, (f e).id = e.id) :
    row? Endpoint.id id (updWhere (fun x => x.id = i) f l) =
      (row? Endpoint.id id l).map fun x => if x.id = i then f x else x := by
  rw [row?_updWhere (f := f) hf]
  simp only [decide_eq_true_eq]

/-- A kept server has a lease on it. -/
theorem kept_leased (h : b.activeKeepaliveOn id = true) :
    b.endpointHasActiveLeases id = true := by
  unfold Broker.activeKeepaliveOn at h
  obtain ⟨x, hx, hon⟩ := List.any_eq_true.1 h
  simp only [Bool.and_eq_true] at hon
  have hany : (b.ledger.leases.any fun x => x.state.live && b.holdsOn x.id id) = true :=
    List.any_eq_true.2 ⟨x, hx, Bool.and_eq_true_iff.2 ⟨hon.1.2, hon.2⟩⟩
  unfold Broker.endpointHasActiveLeases
  rw [hany]
  rfl

/-- The transaction deletes the server, which nobody reaches any more. -/
def FleetOp.abandons (cfg : Config) (b : Broker) (id : String) : FleetOp → Prop
  | .broker (.deleteEndpoint now _ endpointId _) =>
    endpointId = id ∧ b.plant.endpointUnreachable cfg now id = true
  | _ => False

/-- **A kept server** is reached, observed and works as before each transaction, or is abandoned. -/
theorem step_connection (hk : Kept b) (hh : b.plant.Housed) {op : Op} {resp : Response}
    (h : op.apply cfg b = .ok (b', resp)) (hkeep : b.activeKeepaliveOn id = true) :
    b'.plant.connection id = b.plant.connection id ∨
      (FleetOp.broker op).abandons cfg b id ∧ b'.plant.connection id = none := by
  obtain ⟨e, hrow⟩ := kept_endpoint hk.intact hkeep
  have he : e ∈ b.plant.endpoints := (row?_some hrow).1
  have hid : e.id = id := (row?_some hrow).2
  have hrow' : row? Endpoint.id id b.plant.endpoints = some e := hrow
  have hfleet : b'.plant.fleet = b.plant.fleet →
      b'.plant.connection id = b.plant.connection id := fun hp =>
    connection_congr (congrArg Prod.fst hp) (congrArg Prod.snd hp)
  -- where the groups stay, the server's row alone decides
  have hreach : b'.plant.serverGroups = b.plant.serverGroups → ∀ e',
      b'.plant.endpoint? id = some e' → b.plant.reach e' = b.plant.reach e →
      b'.plant.connection id = b.plant.connection id := fun hg e' he' hsame => by
    unfold Plant.connection
    rw [he', hrow, reach_congr hg, Option.map_some, Option.map_some, hsame]
  cases apply_plant hk h with
  | workers _ keepalive hp => exact Or.inl (hfleet (by rw [hp]; rfl))
  | stopped _ ps keepalive hp _ => exact Or.inl (hfleet (by rw [hp]; rfl))
  | old _ _ _ _ _ hp => exact Or.inl (hfleet (by rw [hp]))
  | observed _ o token _ hp => exact Or.inl (hfleet (by rw [hp, ingested_fleet]))
  | failed _ _ _ _ _ hp => exact Or.inl (hfleet (by rw [hp, providerFailed_fleet]))
  | pruned _ _ hp => exact Or.inl (hfleet (by rw [hp]; rfl))
  | deleted now actor e' key hop hp =>
    subst hop
    rcases deleteEndpoint_ok h with rfl | ⟨hgone, -⟩
    · exact Or.inl rfl
    have hends : b'.plant.endpoints = b.plant.endpoints.filter fun x => decide (x.id ≠ e') := by
      rw [hp]
      rfl
    have hgroups : b'.plant.serverGroups = b.plant.serverGroups := by
      rw [hp]
      rfl
    by_cases hdeleted : id = e'
    · right
      rw [← hdeleted] at hgone
      have hleased := kept_leased hkeep
      refine ⟨⟨hdeleted.symm, hgone.resolve_right fun hfree => ?_⟩, ?_⟩
      · rw [hfree] at hleased
        cases hleased
      unfold Plant.connection Plant.endpoint?
      rw [hends, Option.map_eq_none_iff]
      cases hx : row? Endpoint.id id (b.plant.endpoints.filter fun x => decide (x.id ≠ e')) with
      | none => rfl
      | some x =>
        obtain ⟨hmem, hxid⟩ := row?_some hx
        exact absurd (hxid.trans hdeleted) (of_decide_eq_true (List.mem_filter.1 hmem).2)
    · left
      refine hreach hgroups e ?_ rfl
      unfold Plant.endpoint?
      rw [hends, row?_filter fun x _ hx => decide_eq_true (by rw [hx]; exact hdeleted), hrow']
  | grouped now actor data key hop hp =>
    left
    rw [hop] at h
    rcases createServerGroup_new h with rfl | hnew
    · rfl
    have hsame : b'.plant.effectiveWorkspace e = b.plant.effectiveWorkspace e := by
      refine effectiveWorkspace_same (fun g _ hg => ?_) (hh e he).named
      obtain ⟨group, hgroup⟩ := Option.isSome_iff_exists.1 ((hh e he).grouped g hg)
      rw [hp, row?_append, hgroup]
      rfl
    have hends : b'.plant.endpoint? id = some e := by
      rw [hp]
      exact hrow
    unfold Plant.connection
    rw [hends, hrow, Option.map_some, Option.map_some]
    unfold Plant.reach
    rw [hsame]
  | created now actor data key hop hp =>
    left
    refine hreach (by rw [hp]) e ?_ rfl
    rw [hp]
    unfold Plant.endpoint?
    simp only
    rw [row?_append, hrow']
    rfl
  | updated now actor e' u key hop hp =>
    left
    rw [hop] at h
    rcases updateEndpoint_checks h with rfl | ⟨x, hx, -, hfields⟩
    · rfl
    have hends : b'.plant.endpoint? id = some (if e.id = e'.id then e.updated u else e) := by
      rw [hp]
      unfold Plant.endpoint?
      simp only
      rw [endpoint?_upd (f := fun x => x.updated u) fun _ => rfl, hrow', Option.map_some]
    refine hreach (by rw [hp]) _ hends ?_
    split
    · rename_i hsame
      rw [← hsame, hid] at hx hfields
      rw [hrow] at hx
      cases hx
      rw [hkeep] at hfields
      exact reach_updated (hfields.resolve_right Bool.noConfusion)
    · rfl
  | configured now actor e' policy key keepalive hop hp =>
    left
    have hends : b'.plant.endpoint? id = some (if e.id = e'.id then { e with
        keepalivePolicy := policy, keepaliveAdapterId := e'.adapterUnder policy } else e) := by
      rw [hp]
      unfold Plant.endpoint?
      simp only
      rw [endpoint?_upd (f := fun x => { x with
        keepalivePolicy := policy, keepaliveAdapterId := e'.adapterUnder policy }) fun _ => rfl,
        hrow', Option.map_some]
    refine hreach (by rw [hp]) _ hends ?_
    split <;> rfl

/-- **Every server stays housed**: what a call names is checked, and no group with members goes. -/
theorem step_housed (hk : Kept b) (hh : b.plant.Housed) {op : Op} {resp : Response}
    (h : op.apply cfg b = .ok (b', resp)) (hsent : (FleetOp.broker op).Sent) : b'.plant.Housed := by
  have hfleet : b'.plant.fleet = b.plant.fleet → b'.plant.Housed := fun hp =>
    hh.congr (congrArg Prod.fst hp) (congrArg Prod.snd hp)
  cases apply_plant hk h with
  | workers _ keepalive hp => exact hfleet (by rw [hp]; rfl)
  | stopped _ ps keepalive hp _ => exact hfleet (by rw [hp]; rfl)
  | old _ _ _ _ _ hp => exact hfleet (by rw [hp])
  | observed _ o token _ hp => exact hfleet (by rw [hp, ingested_fleet])
  | failed _ _ _ _ _ hp => exact hfleet (by rw [hp, providerFailed_fleet])
  | pruned _ _ hp => exact hfleet (by rw [hp]; rfl)
  | deleted _ _ e' _ _ hp =>
    rw [hp]
    intro e he
    have hmem : e ∈ b.plant.endpoints := (List.mem_filter.1 he).1
    exact (hh e hmem).mono rfl rfl fun _ _ hrow => hrow
  | grouped now actor data key hop hp =>
    rw [hp]
    intro e he
    refine (hh e he).mono rfl rfl fun g _ hrow => ?_
    rw [row?_append, Option.isSome_or, hrow, Bool.true_or]
  | created now actor data key hop hp =>
    subst hop
    rcases createEndpoint_workspace h with rfl | ⟨-, hw⟩
    · exact hh
    obtain ⟨hgroup, hplaced⟩ := requireEffectiveWorkspace_ok hw
    rw [hp]
    intro e he
    rcases List.mem_append.1 he with he | he
    · exact (hh e he).mono rfl rfl fun _ _ hrow => hrow
    · cases List.mem_singleton.1 he
      exact ⟨hsent, hgroup, hplaced⟩
  | updated now actor e' u key hop hp =>
    subst hop
    rcases updateEndpoint_checks h with rfl | ⟨x, hx, hw, -⟩
    · exact hh
    obtain ⟨hgroup, hplaced⟩ := requireEffectiveWorkspace_ok hw
    rw [hp]
    intro e he
    obtain ⟨y, hy, ⟨hid, rfl⟩ | ⟨-, rfl⟩⟩ := mem_updWhere.1 he
    · -- the row that was read is the one that is written
      have hrow : row? Endpoint.id y.id b.plant.endpoints = some y :=
        row?_of_mem hk.intact.endpointPk hy
      rw [of_decide_eq_true hid, show row? Endpoint.id e'.id b.plant.endpoints = some x from hx]
        at hrow
      cases hrow
      refine ⟨?_, hgroup, hplaced⟩
      have hnamed := (hh x hy).named
      show u.workspaceOverride.getD x.workspacePath ≠ some ""
      cases hu : u.workspaceOverride with
      | none => exact hnamed
      | some w =>
        intro hempty
        rw [Option.getD_some] at hempty
        rw [hempty] at hu
        exact hsent hu
    · exact (hh _ hy).mono rfl rfl fun _ _ hrow => hrow
  | configured now actor e' policy key keepalive hop hp =>
    rw [hp]
    intro e he
    obtain ⟨y, hy, ⟨-, rfl⟩ | ⟨-, rfl⟩⟩ := mem_updWhere.1 he
    · exact (hh y hy).mono rfl rfl fun _ _ hrow => hrow
    · exact (hh _ hy).mono rfl rfl fun _ _ hrow => hrow

/-! ## The groups' own transactions -/

theorem wellkept_congr {l l' : Ledger} (h : ∀ id, l'.holding? id = l.holding? id)
    (hs : Wellkept l) : Wellkept l' := by
  intro id x hx
  rw [h] at hx
  exact hs id x hx

/-- The group with the id after another's workspace is set. -/
theorem group?_set (p : Plant) (g i path : String) :
    row? ServerGroup.id g (p.setGroupWorkspace i path).serverGroups =
      (row? ServerGroup.id g p.serverGroups).map fun x =>
        if x.id = i then { x with workspacePath := path } else x := by
  unfold Plant.setGroupWorkspace
  simp only
  rw [row?_updWhere (f := fun x : ServerGroup => { x with workspacePath := path }) fun _ => rfl]
  simp only [decide_eq_true_eq]

/-- **A group is updated**: housed servers stay housed, and kept ones work where they did. -/
theorem updateServerGroup_keeps (id : String) {actor : ActorContext} {groupId key : String}
    {u : ServerGroupUpdate} {resp : Response} (hk : Kept b) (hh : b.plant.Housed)
    (h : updateServerGroup now actor groupId u key b = .ok (b', resp)) :
    Kept b' ∧ b'.plant.Housed ∧
      (b.activeKeepaliveOn id = true → b'.plant.connection id = b.plant.connection id) := by
  rcases updateServerGroup_ok h with rfl | ⟨group, path, hgroup, hkept, hp, hi, hl⟩
  · exact ⟨hk, hh, fun _ => rfl⟩
  refine ⟨⟨hi, wellkept_congr hl hk.wellkept⟩, ?_, fun hkeep => ?_⟩
  · rw [hp]
    intro e he
    refine (hh e he).mono rfl rfl fun g _ hrow => ?_
    rwa [group?_set, Option.isSome_map]
  · obtain ⟨e, hrow⟩ := kept_endpoint hk.intact hkeep
    have he : e ∈ b.plant.endpoints := (row?_some hrow).1
    have hid : e.id = id := (row?_some hrow).2
    have hends : b'.plant.endpoint? id = some e := by
      rw [hp]
      exact hrow
    have hwork : b'.plant.effectiveWorkspace e = b.plant.effectiveWorkspace e := by
      refine effectiveWorkspace_same (fun g hown hg => ?_) (hh e he).named
      rw [hp, group?_set, Option.map_map]
      obtain ⟨x, hx⟩ := Option.isSome_iff_exists.1 ((hh e he).grouped g hg)
      rw [hx, Option.map_some, Option.map_some, Function.comp_apply]
      by_cases hsame : x.id = group.id
      · rw [if_pos hsame]
        have hxg : x.id = g := (row?_some hx).2
        rcases hkept with hpath | hnone
        · -- the group found under its own id is the one that was read
          have hboth : row? ServerGroup.id groupId b.plant.serverGroups =
              row? ServerGroup.id g b.plant.serverGroups := by
            rw [← hxg, hsame, (row?_some hgroup).2]
          rw [hgroup, hx] at hboth
          cases hboth
          rw [hpath]
        · -- a kept server that inherits would have refused the update
          have hmem : e.id ∈ b.keptMembers group.id := by
            refine List.mem_map.2 ⟨e, List.mem_filter.2 ⟨he, decide_eq_true ⟨?_, hown, ?_⟩⟩, rfl⟩
            · rw [hg, ← hxg, hsame]
            · rw [hid, hkeep]
          rw [hnone] at hmem
          cases hmem
      · rw [if_neg hsame]
    unfold Plant.connection
    rw [hends, hrow, Option.map_some, Option.map_some]
    unfold Plant.reach
    rw [hwork]

/-- **A group is deleted**: no server was in it. -/
theorem deleteServerGroup_keeps (id : String) {actor : ActorContext} {groupId key : String}
    {resp : Response}
    (hk : Kept b) (hh : b.plant.Housed)
    (h : deleteServerGroup now actor groupId key b = .ok (b', resp)) :
    Kept b' ∧ b'.plant.Housed ∧ b'.plant.connection id = b.plant.connection id := by
  rcases deleteServerGroup_ok h with rfl | ⟨group, hnone, hp, hi, hl⟩
  · exact ⟨hk, hh, rfl⟩
  have hgroup : ∀ e ∈ b.plant.endpoints, ∀ g, e.serverGroupId = some g →
      row? ServerGroup.id g b'.plant.serverGroups = row? ServerGroup.id g b.plant.serverGroups := by
    intro e he g hg
    rw [hp]
    refine row?_filter fun x _ hx => decide_eq_true fun heq => hnone e he ?_
    rw [hg, ← hx, heq]
  have hends : b'.plant.endpoints = b.plant.endpoints := by rw [hp]
  refine ⟨⟨hi, wellkept_congr hl hk.wellkept⟩, fun e he => ?_, ?_⟩
  · rw [hends] at he
    exact (hh e he).mono rfl rfl fun g hg hrow => by rwa [hgroup e he g hg]
  · unfold Plant.connection Plant.endpoint?
    rw [hends]
    cases hrow : row? Endpoint.id id b.plant.endpoints with
    | none => rfl
    | some e =>
      have he : e ∈ b.plant.endpoints := (row?_some hrow).1
      have hwork : b'.plant.effectiveWorkspace e = b.plant.effectiveWorkspace e :=
        effectiveWorkspace_same (fun g _ hg => by rw [hgroup e he g hg]) (hh e he).named
      rw [Option.map_some, Option.map_some]
      unfold Plant.reach
      rw [hwork]

end

/-! ## Every run -/

section

variable {cfg : Config} {id : String}

/-- What holds in every state of a run. -/
structure Settled (b : Broker) : Prop where
  kept : Kept b
  housed : b.plant.Housed

/-- **One transaction**, a group's or another: every server stays housed, and a kept one is reached
as before, or abandoned. -/
theorem exec_settled (cfg : Config) (b : Broker) (op : FleetOp) (id : String) (hb : Settled b)
    (hs : op.Sent) :
    Settled (op.exec cfg b) ∧ (b.activeKeepaliveOn id = true →
      (op.exec cfg b).plant.connection id = b.plant.connection id ∨
        op.abandons cfg b id ∧ (op.exec cfg b).plant.connection id = none) := by
  unfold FleetOp.exec
  cases h : op.apply cfg b with
  | error e => exact ⟨hb, fun _ => Or.inl rfl⟩
  | ok r =>
    obtain ⟨b', resp⟩ := r
    simp only
    cases op with
    | broker op =>
      have hexec : exec cfg b op = b' := by
        unfold exec
        rw [show op.apply cfg b = .ok (b', resp) from h]
      refine ⟨⟨?_, step_housed hb.kept hb.housed h hs⟩, step_connection hb.kept hb.housed h⟩
      rw [← hexec]
      exact exec_kept cfg b op hb.kept
    | updateServerGroup now actor groupId u key =>
      obtain ⟨hk, hh, hc⟩ := updateServerGroup_keeps id hb.kept hb.housed h
      exact ⟨⟨hk, hh⟩, fun hkeep => Or.inl (hc hkeep)⟩
    | deleteServerGroup now actor groupId key =>
      obtain ⟨hk, hh, hc⟩ := deleteServerGroup_keeps id hb.kept hb.housed h
      exact ⟨⟨hk, hh⟩, fun _ => Or.inl hc⟩

theorem run_settled (cfg : Config) (ops : List FleetOp) {b : Broker} (hb : Settled b)
    (hs : ∀ op ∈ ops, op.Sent) : Settled (Run.run (FleetOp.exec cfg) b ops) := by
  induction ops generalizing b with
  | nil => exact hb
  | cons op ops ih =>
    refine ih (exec_settled cfg b op "" hb (hs op List.mem_cons_self)).1 fun o ho => ?_
    exact hs o (List.mem_cons_of_mem op ho)

/-- **Kept servers stay where they are.** In every run that starts with every server housed, every
server has a workspace; and from any state of it on, as long as a keeper is live on a server, how it
is reached and observed and where it works stay as they were, until at most it is deleted while
nobody can reach it. -/
theorem connection_frozen (cfg : Config) (b₀ : Broker) (hs : Seeded b₀) (hh : b₀.plant.Housed)
    (ops mid : List FleetOp) (hsent : ∀ op ∈ ops ++ mid, op.Sent) :
    (∀ e ∈ (Run.run (FleetOp.exec cfg) b₀ ops).plant.endpoints,
      ((Run.run (FleetOp.exec cfg) b₀ ops).plant.effectiveWorkspace e).isSome = true) ∧
    ∀ id, Run.Along (FleetOp.exec cfg) (fun b _ => b.activeKeepaliveOn id = true)
        (Run.run (FleetOp.exec cfg) b₀ ops) mid →
      (Run.run (FleetOp.exec cfg) b₀ (ops ++ mid)).plant.connection id =
          (Run.run (FleetOp.exec cfg) b₀ ops).plant.connection id ∨
        ∃ pre op, mid = pre ++ [op] ∧
          op.abandons cfg (Run.run (FleetOp.exec cfg) b₀ (ops ++ pre)) id ∧
          (Run.run (FleetOp.exec cfg) b₀ (ops ++ mid)).plant.connection id = none := by
  have h₀ : Settled b₀ := ⟨hs.kept, hh⟩
  have hops : Settled (Run.run (FleetOp.exec cfg) b₀ ops) :=
    run_settled cfg ops h₀ fun op hop => hsent op (List.mem_append_left mid hop)
  refine ⟨fun e he => (hops.housed e he).workspace, fun id halong => ?_⟩
  induction mid using List.reverseRecOn with
  | nil =>
    left
    rw [List.append_nil]
  | append_singleton mid op ih =>
    have hmid : ∀ o ∈ ops ++ mid, o.Sent := fun o ho => by
      refine hsent o ?_
      rw [← List.append_assoc]
      exact List.mem_append_left [op] ho
    have hop : op.Sent := hsent op (by simp)
    obtain ⟨hbefore, hkeep, -⟩ := Run.along_append.1 halong
    rw [← Run.run_append] at hkeep
    have hsettled : Settled (Run.run (FleetOp.exec cfg) b₀ (ops ++ mid)) :=
      run_settled cfg _ h₀ hmid
    obtain ⟨-, hstep⟩ := exec_settled cfg _ op id hsettled hop
    rw [← List.append_assoc, Run.run_concat]
    -- the server is kept before the last step, so no earlier one deleted it
    have hsame := (ih hmid hbefore).resolve_right fun ⟨_, _, _, _, hnone⟩ => by
      obtain ⟨e, he⟩ := kept_endpoint hsettled.kept.intact hkeep
      unfold Plant.connection at hnone
      rw [he] at hnone
      cases hnone
    rcases hstep hkeep with h | ⟨habandon, hnone⟩
    · exact Or.inl (h.trans hsame)
    · exact Or.inr ⟨mid, op, rfl, habandon, hnone⟩

end

/-- A server of a group, whose workspace it works in. -/
def groupedFleet : Broker :=
  .fleet [{ id := "lab", workspacePath := "/group" }]
    [{ sampleServer "alpha" 22 with workspacePath := none, serverGroupId := some "lab" }] []

/-- Its keeper is seen and started. -/
def keptInGroup : List FleetOp :=
  [.broker (.ingestObservation 0 (lookAtOne "alpha" "GPU-0" 0 []) sampleToken),
   .broker (.ingestObservation (seconds 10) (lookAtOne "alpha" "GPU-0" (seconds 10) [7])
     sampleToken),
   .broker (.activateKeepalives (seconds 10) (sampleActor "ann") "alpha" ["alpha:GPU-0"] (seconds 5)
     "start" (some [("alpha:GPU-0", 7, "boot")]) fun _ => "keeper")]

/-- Then someone tries to move the group's workspace, and to log in as somebody else. -/
def movedInGroup : List FleetOp :=
  [.updateServerGroup (seconds 20) (sampleActor "ann") "lab" { workspacePath := some "/other" } "g",
   .broker
     (.updateEndpoint (seconds 20) (sampleActor "ann") "alpha" { sshUser := some "root" } "e")]

theorem movedInGroup_frozen :
    (Run.run (FleetOp.exec plainConfig) groupedFleet (keptInGroup ++ movedInGroup)).plant.connection
      "alpha" = some ("lab", 22, "pilot", "linux", some "/group") := by
  have hhoused : groupedFleet.plant.Housed := by
    intro e he
    cases List.mem_singleton.1 he
    refine ⟨by decide, fun g hg => ?_, by decide⟩
    cases hg
    decide
  have hsent : ∀ op ∈ keptInGroup ++ movedInGroup, op.Sent := by
    intro op hop
    simp only [keptInGroup, movedInGroup, List.cons_append, List.nil_append, List.mem_cons,
      List.not_mem_nil, or_false] at hop
    rcases hop with rfl | rfl | rfl | rfl | rfl
    exacts [trivial, trivial, trivial, trivial, by simp [FleetOp.Sent]]
  have hseeded : Seeded groupedFleet := fleet_seeded _ (by decide) (by decide) (by decide)
  rcases (connection_frozen plainConfig groupedFleet hseeded hhoused keptInGroup movedInGroup
    hsent).2 "alpha" (by decide +kernel) with h | ⟨-, -, -, -, h⟩
  · rw [h]
    decide +kernel
  · exact absurd h (by decide +kernel)

end ServerPilot
