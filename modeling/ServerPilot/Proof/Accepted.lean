import ServerPilot.Spec.Op

/-!
# What an accepted transaction checked and wrote

One inversion lemma for each transaction that changes a lease: either it replayed
an earlier answer and changed nothing, or its checks passed and it left exactly
these rows. Nothing later unfolds a transaction again.
-/

namespace ServerPilot

open Rows Checked

variable {cfg : Config} {now : Time} {actor : ActorContext} {leaseId : String}
  {token : String → String} {b b' : Broker} {resp : Response}

/-! ## Claims -/

/-- Projects, answers and the revision aside, the two states are one. -/
structure SameRows (b b₀ : Broker) : Prop where
  plant : b₀.plant = b.plant
  leases : b₀.ledger.leases = b.ledger.leases
  resources : b₀.ledger.resources = b.ledger.resources
  commitments : b₀.ledger.commitments = b.ledger.commitments
  allocations : b₀.ledger.allocations = b.ledger.allocations
  bindings : b₀.ledger.bindings = b.ledger.bindings
  audit : b₀.ledger.audit = b.ledger.audit

/-- A project row aside, the ledger is the one before. -/
theorem ensureClaimProject_ok {l l' : Ledger} {id : String} {project : Project}
    (h : l.ensureClaimProject id = .ok (l', project)) :
    ∃ projects, l' = { l with projects } := by
  unfold Ledger.ensureClaimProject at h
  simp only [bind_ok] at h
  obtain ⟨-, -, h⟩ := h
  cases hp : l.project? id with
  | none =>
    simp only [hp, pure_ok, Prod.mk.injEq] at h
    exact ⟨_, h.1.symm⟩
  | some x =>
    simp only [hp, pure_ok, Prod.mk.injEq] at h
    exact ⟨l.projects, h.1.symm⟩

theorem admitClaim_ok {project : Project} {r : RequestCreate} {gpus : List GPUDevice} {d : Details}
    (h : b.admitClaim cfg now project r = .ok (gpus, d)) :
    b.plant.selectInGroupPartitions (b.eligibleGpus cfg now r.constraints) r.constraints =
      some gpus := by
  unfold Broker.admitClaim at h
  simp only [bind_ok, need_ok, pure_ok, Prod.mk.injEq] at h
  obtain ⟨-, -, gpus', hg, rfl, -⟩ := h
  exact hg

/-- The steps of an accepted claim that is neither a replay nor answered with the caller's own
lease: its project is found or made, its cards are admitted, and the lease is written. -/
theorem createRequest_steps {r : RequestCreate} {key : Option String} {persistent : Bool}
    (h : createRequest cfg now actor r key persistent leaseId token b = .ok (b', resp)) :
    b' = b ∨ ∃ l project gpus details,
      b.ledger.ensureClaimProject r.projectId = .ok (l, project) ∧
      Broker.admitClaim cfg now ⟨b.plant, l.bumpRevision⟩ project r = .ok (gpus, details) ∧
      Intact b' ∧
      let claimed := Broker.claimed ⟨b.plant, l.bumpRevision⟩ actor persistent
        (claimedLease leaseId actor r now l.bumpRevision.revision) r.constraints gpus token details
          now
      b' = { claimed with
        ledger := claimed.ledger.remember actor "request.create" key resp now } := by
  unfold createRequest at h
  simp only [bind_ok] at h
  obtain ⟨-, -, replay, -, h⟩ := h
  cases replay with
  | some x =>
    simp only [pure_ok, Prod.mk.injEq] at h
    exact Or.inl h.1.symm
  | none =>
    simp only [bind_ok] at h
    obtain ⟨held, -, h⟩ := h
    cases held with
    | some x =>
      simp only [pure_ok, Prod.mk.injEq] at h
      exact Or.inl h.1.symm
    | none =>
      obtain ⟨b₁, hb, hi, rfl⟩ := remembering_ok h
      simp only [bind_ok, pure_ok, Prod.mk.injEq] at hb
      obtain ⟨⟨l, project⟩, hl, -, -, -, -, ⟨gpus, details⟩, ha, rfl, -⟩ := hb
      exact Or.inr ⟨l, project, gpus, details, hl, ha, hi, rfl⟩

/-- An accepted claim: a replay, the caller's own lease, or a new lease on selected cards. -/
theorem createRequest_ok {r : RequestCreate} {key : Option String} {persistent : Bool}
    (h : createRequest cfg now actor r key persistent leaseId token b = .ok (b', resp)) :
    b' = b ∨ ∃ b₀ revision gpus details, SameRows b b₀ ∧
      b₀.plant.selectInGroupPartitions (b₀.eligibleGpus cfg now r.constraints) r.constraints =
        some gpus ∧
      Intact b' ∧
      let claimed := b₀.claimed actor persistent (claimedLease leaseId actor r now revision)
        r.constraints gpus token details now
      b' = { claimed with
        ledger := claimed.ledger.remember actor "request.create" key resp now } := by
  rcases createRequest_steps h with h | ⟨l, project, gpus, details, hl, ha, hi, hb⟩
  · exact Or.inl h
  · obtain ⟨projects, rfl⟩ := ensureClaimProject_ok hl
    exact Or.inr ⟨⟨b.plant, ({ b.ledger with projects } : Ledger).bumpRevision⟩, _, gpus, details,
      ⟨rfl, rfl, rfl, rfl, rfl, rfl, rfl⟩, admitClaim_ok ha, hi, hb⟩

/-! ## Ending and changing a lease -/

theorem releaseLease_ok {reason : String} {key : Option String} {override : Bool}
    (h : releaseLease now actor leaseId reason key override token b = .ok (b', resp)) :
    b' = b ∨ ∃ lease, b.ledger.lease? leaseId = some lease ∧ lease.kind = .workload ∧
      lease.state.live = true ∧ Intact b' ∧
      ∃ d, b' = { b with
        ledger := ((b.released lease (cut 500 (strip reason)) token now).ledger.addAudit
          (some actor.id) "lease.released" "lease" leaseId "success" d now).remember actor
            "lease.release" key resp now } := by
  unfold releaseLease rejectGenericKeepaliveMutation at h
  simp only [bind_ok, need_ok, require_ok] at h
  obtain ⟨-, -, -, -, -, -, lease, hl, -, hk, h⟩ := h
  rcases once_ok h with h | ⟨b₁, hb, hi, rfl⟩
  · exact Or.inl h
  · simp only [bind_ok, require_ok, pure_ok, Prod.mk.injEq] at hb
    obtain ⟨-, -, -, ht, rfl, -⟩ := hb
    refine Or.inr ⟨lease, hl, ?_, ?_, hi, _, rfl⟩
    · cases hkind : lease.kind with
      | workload => rfl
      | keepalive => exact absurd hkind hk
    · rw [LeaseState.terminal_eq_not_live] at ht
      simpa using ht

theorem workloadReassignmentTargets_ok {gpuIds : List String} {override : Bool} {lease : Lease}
    {targets : List GPUDevice}
    (h : b.workloadReassignmentTargets actor leaseId gpuIds override = .ok (lease, targets)) :
    b.ledger.lease? leaseId = some lease ∧ lease.kind = .workload ∧ lease.state.live = true ∧
      gpuIds.length = (b.ledger.cards leaseId).length ∧ gpuIds.Nodup ∧
      gpuIds.mapM b.plant.gpu? = some targets := by
  unfold Broker.workloadReassignmentTargets at h
  simp only [bind_ok, need_ok, require_ok, pure_ok, Prod.mk.injEq] at h
  obtain ⟨x, hx, -, -, -, hk, -, -, -, hc, ts, ht, rfl, rfl⟩ := h
  exact ⟨hx, hk.1, hk.2, hc.1, hc.2, ht⟩

theorem reassignLeaseGpus_ok {gpuIds : List String} {key : String} {override : Bool}
    (h : reassignLeaseGpus now actor leaseId gpuIds key override token b = .ok (b', resp)) :
    b' = b ∨ ∃ lease targets c d, b.ledger.lease? leaseId = some lease ∧
      lease.kind = .workload ∧ lease.state.live = true ∧
      gpuIds.length = (b.ledger.cards leaseId).length ∧ gpuIds.Nodup ∧
      gpuIds.mapM b.plant.gpu? = some targets ∧ b.ledger.occupied leaseId gpuIds = [] ∧
      lease.constraints.validate = some c ∧ Intact b' ∧
      b' = { b.moved lease c targets token now with
        ledger := ((b.moved lease c targets token now).ledger.bumpRevision.addAudit (some actor.id)
          "lease.gpus_reassigned" "lease" leaseId "success" d now).remember actor
            "lease.gpus.reassign" (some key) resp now } := by
  unfold reassignLeaseGpus at h
  simp only [bind_ok] at h
  obtain ⟨-, -, ⟨lease, targets⟩, hw, h⟩ := h
  obtain ⟨hl, hk, hv, hlen, hn, ht⟩ := workloadReassignmentTargets_ok hw
  rcases once_ok h with h | ⟨b₁, hb, hi, rfl⟩
  · exact Or.inl h
  · simp only [bind_ok, require_ok, need_ok, pure_ok, Prod.mk.injEq] at hb
    obtain ⟨-, ho, c, hc, rfl, -⟩ := hb
    exact Or.inr ⟨lease, targets, c, _, hl, hk, hv, hlen, hn, ht, ho, hc, hi, rfl⟩

theorem agentLease_ok {l : Ledger} {lease : Lease} (h : l.agentLease actor leaseId = .ok lease) :
    l.lease? leaseId = some lease ∧ lease.kind = .workload ∧ canManageLease actor lease = true := by
  unfold Ledger.agentLease at h
  simp only [bind_ok, need_ok, require_ok, pure_ok] at h
  obtain ⟨x, hx, -, -, -, hm, rfl⟩ := h
  obtain ⟨hx, hk⟩ := Option.filter_eq_some_iff.1 hx
  exact ⟨hx, by simpa using hk, hm⟩

/-- What a resize adds: nothing, or the cards selected for its request. -/
theorem addCards_ok {lease : Lease} {request : Option RequestCreate} {taken : Broker}
    {added : List GPUDevice} (h : b.addCards cfg now lease request = .ok (taken, added)) :
    (request = none ∧ taken = b ∧ added = []) ∨ ∃ r, request = some r ∧
      b.plant.selectInGroupPartitions (b.eligibleGpus cfg now r.constraints) r.constraints =
        some added ∧
      taken = { b with ledger := b.ledger.takeCards lease.id (added.map GPUDevice.id) now } := by
  unfold Broker.addCards at h
  cases request with
  | none =>
    simp only [pure_ok, Prod.mk.injEq] at h
    exact Or.inl ⟨rfl, h.1.symm, h.2.symm⟩
  | some r =>
    simp only [bind_ok, pure_ok, Prod.mk.injEq] at h
    obtain ⟨chosen, hc, rfl, rfl⟩ := h
    unfold Broker.chooseCards at hc
    simp only [bind_ok, need_ok] at hc
    obtain ⟨project, -, hc⟩ := hc
    split at hc
    · simp at hc
    · exact Or.inr ⟨r, rfl, need_ok.1 hc, rfl⟩

/-- The cards a resize gives back. -/
def Broker.returnedCards (b : Broker) (leaseId : String) (names : List String) : List String :=
  (names.filterMap (b.plant.cardNamed (b.ledger.cards leaseId))).map LeaseResource.gpuId

theorem resizeLease_ok {addRequest : Option RequestCreate} {removeGpuIds : List String}
    {expectedEpoch : Option ℕ}
    (h : resizeLease cfg now actor leaseId addRequest removeGpuIds expectedEpoch token b =
      .ok (b', resp)) :
    ∃ lease taken added d, b.ledger.lease? leaseId = some lease ∧ lease.kind = .workload ∧
      lease.state.live = true ∧ canManageLease actor lease = true ∧
      (∀ e ∈ expectedEpoch, e = lease.resourceEpoch) ∧
      b.plant.unknownCards (b.ledger.cards leaseId) removeGpuIds = [] ∧
      ¬ ((b.ledger.cards leaseId).length ≤ removeGpuIds.length ∧ addRequest.isNone = true) ∧
      (⟨b.plant, b.ledger.bumpRevision.returnCards leaseId (b.returnedCards leaseId removeGpuIds)
        actor.id now⟩ : Broker).addCards cfg now lease addRequest = .ok (taken, added) ∧
      ¬ (b.returnedCards leaseId removeGpuIds = [] ∧ added = []) ∧ Intact b' ∧
      b' = { taken.resized lease (decide (b.returnedCards leaseId removeGpuIds = [])) token now with
        ledger := (taken.resized lease (decide (b.returnedCards leaseId removeGpuIds = [])) token
          now).ledger.addAudit (some actor.id) "lease.resized" "lease" leaseId "success" d
            now } := by
  unfold resizeLease at h
  simp only [bind_ok, require_ok, finish_ok] at h
  obtain ⟨-, -, lease, ha, -, hv, -, -, -, he, -, hu, -, -, -, hlast, ⟨taken, added⟩, hadd, -, hch,
    rfl, -, hi⟩ := h
  obtain ⟨hl, hk, hm⟩ := agentLease_ok ha
  exact ⟨lease, taken, added, _, hl, hk, hv, hm, he, hu, hlast, hadd, hch, hi, rfl⟩

theorem takeOverLease_ok {task : Option String} {leaseId : Option String}
    {projectId reason : String}
    {force : Bool}
    (h : takeOverLease now actor leaseId task projectId reason force b = .ok (b', resp)) :
    ∃ lease session l d, lease ∈ b.ledger.leases ∧ lease.kind = .workload ∧
      b.ledger.takeoverProject lease projectId = .ok l ∧ Intact b' ∧
      b' = { b with
        ledger := ((l.editLease lease.id
            (Lease.takenOver actor session projectId now)).editAllocations
          (fun a => a.leaseId = some lease.id)
          (fun a => { a with actorId := actor.id })).bumpRevision.addAudit (some actor.id)
            "lease.taken_over" "lease" lease.id "success" d now } := by
  unfold takeOverLease at h
  simp only [bind_ok, need_ok, require_ok, finish_ok] at h
  obtain ⟨-, -, session, -, lease, hf, -, -, l, hl, rfl, -, hi⟩ := h
  obtain ⟨hf, hk⟩ := Option.filter_eq_some_iff.1 hf
  have hm : lease ∈ b.ledger.leases := by
    cases leaseId with
    | some id => exact (row?_some hf).1
    | none => exact List.mem_of_mem_filter (latest_mem hf)
  exact ⟨lease, session, l, _, hm, (by simpa using hk : _ ∧ _).1, hl, hi, rfl⟩

theorem takeoverProject_ok {l l' : Ledger} {lease : Lease} {projectId : String}
    (h : l.takeoverProject lease projectId = .ok l') : ∃ projects, l' = { l with projects } := by
  unfold Ledger.takeoverProject at h
  split at h
  · simp only [pure_ok] at h
    exact ⟨l.projects, h.symm⟩
  · simp only [bind_ok, require_ok, pure_ok] at h
    obtain ⟨⟨l₁, project⟩, hp, -, -, rfl⟩ := h
    exact ensureClaimProject_ok hp

/-! ## Holders -/

/-- A view shows the unseen changes, and is the holder's heartbeat while the lease lives. -/
theorem leaseView_ok {id task projectId : Option String} {keepIdle : Bool}
    (h : leaseView cfg now actor id task projectId keepIdle b = .ok (b', resp)) :
    ∃ lease, b.ledger.lease? lease.id = some lease ∧ lease.kind = .workload ∧
      canManageLease actor lease = true ∧ Intact b' ∧
      ((lease.state.live = false ∧ b' = { b with ledger := (b.ledger.unseenChanges lease).1 } ∧
        resp = .ended lease.id lease.state lease.taskRef lease.resourceEpoch
          (b.ledger.unseenChanges lease).2 lease.releaseReason lease.releasedAt) ∨
      (lease.state.live = true ∧
        b' = (Broker.heartbeat cfg now ⟨b.plant, (b.ledger.unseenChanges lease).1⟩ lease.id actor
          keepIdle).1 ∧
        ∃ count risk kept, resp = .view lease.id lease.state lease.taskRef count
          lease.resourceEpoch (b.ledger.unseenChanges lease).2 risk kept)) := by
  unfold leaseView at h
  simp only [bind_ok, need_ok] at h
  obtain ⟨-, -, found, -, lease, ha, h⟩ := h
  obtain ⟨hl, hk, hm⟩ := agentLease_ok ha
  have hid := (row?_some hl).2
  rw [← hid] at hl
  split at h
  · rename_i ht
    obtain ⟨hb, hr, hi⟩ := finish_ok.1 h
    rw [LeaseState.terminal_eq_not_live] at ht
    exact ⟨lease, hl, hk, hm, hb ▸ hi, Or.inl ⟨by simpa using ht, hb, hr⟩⟩
  · rename_i ht
    obtain ⟨hb, hr, hi⟩ := finish_ok.1 h
    rw [LeaseState.terminal_eq_not_live] at ht
    exact ⟨lease, hl, hk, hm, hb ▸ hi, Or.inr ⟨by simpa using ht, hb, _, _, _, hr⟩⟩

theorem recordLeaseHeartbeat_ok {keepIdle : Bool}
    (h : recordLeaseHeartbeat cfg now actor leaseId keepIdle b = .ok (b', resp)) :
    b' = b ∨ Intact b' ∧ b' = (b.heartbeat cfg now leaseId actor keepIdle).1 := by
  unfold recordLeaseHeartbeat at h
  simp only [bind_ok] at h
  obtain ⟨-, -, h⟩ := h
  split at h
  · simp only [pure_ok, Prod.mk.injEq] at h
    exact Or.inl h.1.symm
  · obtain ⟨hb, -, hi⟩ := finish_ok.1 h
    exact Or.inr ⟨hb ▸ hi, hb⟩

theorem bindObservedWorkload_ok {run : Option String} {key : String}
    (h : bindObservedWorkload now actor leaseId run key b = .ok (b', resp)) :
    b' = b ∨ ∃ lease runId runs keys n, b.ledger.lease? leaseId = some lease ∧
      lease.state.live = true ∧ Intact b' ∧
      b' = { b with
        ledger := (((b.ledger.bumpRevision.bindRun leaseId runId runs keys).editLease leaseId
          (Lease.activatedByBind now)).auditBind actor lease runId n now).remember actor
            "lease.bind_observed" (some key) resp now } := by
  unfold bindObservedWorkload at h
  simp only [bind_ok, need_ok] at h
  obtain ⟨-, -, lease, hl, -, -, h⟩ := h
  rcases once_ok h with h | ⟨b₁, hb, hi, rfl⟩
  · exact Or.inl h
  · simp only [bind_ok, require_ok, pure_ok, Prod.mk.injEq] at hb
    obtain ⟨-, -, -, hs, -, -, -, -, rfl, -⟩ := hb
    refine Or.inr ⟨lease, _, _, _, _, hl, ?_, hi, rfl⟩
    rcases hs with hs | hs | hs <;> rw [hs] <;> rfl

/-! ## Keepers -/

theorem keepaliveTarget_ok {endpointId gpuId : String} {t : GPUDevice × Option Lease}
    (h : b.keepaliveTarget endpointId gpuId = .ok t) :
    b.plant.gpu? gpuId = some t.1 ∧ t.1.endpointId = endpointId ∧
      t.2 = b.ledger.activeLeaseForGpu gpuId ∧
      ∀ x ∈ t.2, x.kind = .keepalive ∧ (b.ledger.cards x.id).map LeaseResource.gpuId = [gpuId] := by
  unfold Broker.keepaliveTarget at h
  simp only [bind_ok, need_ok, require_ok, pure_ok] at h
  obtain ⟨g, hg, -, hk, -, hc, rfl⟩ := h
  obtain ⟨hg, he⟩ := Option.filter_eq_some_iff.1 hg
  exact ⟨hg, by simpa using he, rfl, fun x hx => ⟨hk x hx, hc x hx⟩⟩

theorem activateKeepalives_ok {endpointId : String} {gpuIds : List String} {notBefore : Time}
    {key : String} {confirmed : Option (List (String × ℕ × String))}
    (h : activateKeepalives cfg now actor endpointId gpuIds notBefore key confirmed token b =
      .ok (b', resp)) :
    b' = b ∨ ∃ targets processes, gpuIds.mapM (b.keepaliveTarget endpointId) = .ok targets ∧
      gpuIds.Nodup ∧
      b.plant.validateKeepaliveObservation endpointId gpuIds notBefore = .ok processes ∧
      requireOneWorkerEach gpuIds processes = .ok () ∧
      (∀ ids ∈ confirmed, validateWorkerConfirmation gpuIds processes ids = .ok ()) ∧ Intact b' ∧
      b' = { b.keepersActivated cfg endpointId actor.id targets processes token now with
        ledger := (b.keepersActivated cfg endpointId actor.id targets processes token
          now).ledger.remember actor "keepalive.activate_gpus" (some key) resp now } := by
  unfold activateKeepalives at h
  simp only [bind_ok] at h
  obtain ⟨-, -, h⟩ := h
  rcases once_ok h with h | ⟨b₁, hb, hi, rfl⟩
  · exact Or.inl h
  · simp only [bind_ok, need_ok, require_ok, pure_ok, Prod.mk.injEq] at hb
    obtain ⟨-, -, -, -, -, -, -, -, -, hn, targets, ht, processes, hp, u, hw, v, hc, rfl, -⟩ := hb
    refine Or.inr ⟨targets, processes, ht, hn.2, hp, hw, fun ids hids => ?_, hi, rfl⟩
    cases hids
    exact hc

theorem finalizeKeepaliveStop_ok {endpointId : String} {notBefore : Time} {key : Option String}
    (h : finalizeKeepaliveStop now actor endpointId leaseId notBefore key b = .ok (b', resp)) :
    b' = b ∨ ∃ lease gpuId processes, b.ledger.lease? leaseId = some lease ∧
      lease.kind = .keepalive ∧ lease.state.live = true ∧
      (b.ledger.cards leaseId).map LeaseResource.gpuId = [gpuId] ∧
      b.plant.validateKeepaliveObservation endpointId [gpuId] notBefore = .ok processes ∧
      (∀ x ∈ processes, x.blocksStop ((b.plant.keepalive? gpuId).bind KeepaliveCurrent.expectedKey)
        notBefore = false) ∧
      Intact b' ∧
      b' = { b.keeperStopped leaseId gpuId actor.id processes now with
        ledger := (b.keeperStopped leaseId gpuId actor.id processes now).ledger.remember actor
          "keepalive.finalize_stop_gpu" key resp now } := by
  unfold finalizeKeepaliveStop at h
  simp only [bind_ok] at h
  obtain ⟨-, -, h⟩ := h
  rcases once_ok h with h | ⟨b₁, hb, hi, rfl⟩
  · exact Or.inl h
  · simp only [bind_ok, need_ok, require_ok, pure_ok, Prod.mk.injEq] at hb
    obtain ⟨-, -, -, -, lease, hl, -, hv, -, hlen, -, -, processes, hp, -, hq, rfl, -⟩ := hb
    obtain ⟨hl, hk⟩ := Option.filter_eq_some_iff.1 hl
    obtain ⟨g, hg⟩ := List.length_eq_one_iff.1 hlen
    rw [hg] at hp hq hi ⊢
    refine Or.inr ⟨lease, g, processes, hl, by simpa using hk, hv, rfl, hp, fun x hx => ?_, hi, rfl⟩
    simpa using List.all_eq_true.1 hq x hx

theorem configureKeepalivePolicy_ok {endpointId key : String} {policy : KeepalivePolicy}
    (h : configureKeepalivePolicy now actor endpointId policy key b = .ok (b', resp)) :
    b' = b ∨ ∃ e changed, b.plant.endpoint? endpointId = some e ∧ Intact b' ∧
      b' = { b.policyConfigured e policy changed actor.id now with
        ledger := (b.policyConfigured e policy changed actor.id now).ledger.remember actor
          "keepalive.policy.configure" (some key) resp now } := by
  unfold configureKeepalivePolicy at h
  simp only [bind_ok] at h
  obtain ⟨-, -, h⟩ := h
  rcases once_ok h with h | ⟨b₁, hb, hi, rfl⟩
  · exact Or.inl h
  · simp only [bind_ok, need_ok, pure_ok, Prod.mk.injEq] at hb
    obtain ⟨e, he, -, -, rfl, -⟩ := hb
    exact Or.inr ⟨e, _, he, hi, rfl⟩

/-! ## Recovery -/

theorem releaseEmptyConflictedLease_ok {endpointId : String} {notBefore : Time} {key : String}
    (h : releaseEmptyConflictedLease cfg now actor endpointId leaseId notBefore key b =
      .ok (b', resp)) :
    b' = b ∨ ∃ lease, b.ledger.lease? leaseId = some lease ∧
      (b.ledger.cards leaseId = [] ∨ b.cardsOn leaseId endpointId ≠ []) ∧
      (b.manualReleaseVerdict cfg now lease (b.cardsOn leaseId endpointId)
        (b.plant.endpointUnreachable cfg now endpointId)).allowed = true ∧
      Intact b' ∧
      b' = { b with
        ledger := (b.emptyCleared lease endpointId actor.id
          (b.plant.endpointUnreachable cfg now endpointId) now).remember actor
            "lease.empty.release" (some key) resp now } := by
  unfold releaseEmptyConflictedLease at h
  simp only [bind_ok] at h
  obtain ⟨-, -, h⟩ := h
  rcases once_ok h with h | ⟨b₁, hb, hi, rfl⟩
  · exact Or.inl h
  · simp only [bind_ok, need_ok, require_ok, pure_ok, Prod.mk.injEq] at hb
    obtain ⟨-, -, -, -, lease, hl, -, hc, -, -, -, -, -, hv, rfl, -⟩ := hb
    exact Or.inr ⟨lease, hl, hc, hv, hi, rfl⟩

theorem createServerGroup_ok {data : ServerGroup} {key : String}
    (h : createServerGroup now actor data key b = .ok (b', resp)) :
    b' = b ∨ Intact b' ∧ b' = ⟨{ b.plant with serverGroups := b.plant.serverGroups ++ [data] },
      (b.ledger.bumpRevision.addAudit (some actor.id) "server_group.created" "server_group" data.id
        "success" [] now).remember actor "server_group.create" (some key) resp now⟩ := by
  unfold createServerGroup at h
  simp only [bind_ok] at h
  obtain ⟨-, -, h⟩ := h
  rcases once_ok h with h | ⟨b₁, hb, hi, rfl⟩
  · exact Or.inl h
  · simp only [bind_ok, pure_ok, Prod.mk.injEq] at hb
    obtain ⟨-, -, rfl, -⟩ := hb
    exact Or.inr ⟨hi, rfl⟩

theorem createEndpoint_ok {data : EndpointCreate} {key : String}
    (h : createEndpoint now actor data key b = .ok (b', resp)) :
    b' = b ∨ Intact b' ∧ b' = ⟨{ b.plant with endpoints := b.plant.endpoints ++ [data] },
      (b.ledger.bumpRevision.addAudit (some actor.id) "endpoint.created" "endpoint" data.id
        "success" [] now).remember actor "endpoint.create" (some key) resp now⟩ := by
  unfold createEndpoint at h
  simp only [bind_ok] at h
  obtain ⟨-, -, h⟩ := h
  rcases once_ok h with h | ⟨b₁, hb, hi, rfl⟩
  · exact Or.inl h
  · simp only [bind_ok, pure_ok, Prod.mk.injEq] at hb
    obtain ⟨-, -, -, -, -, -, rfl, -⟩ := hb
    exact Or.inr ⟨hi, rfl⟩

theorem updateEndpoint_ok {endpointId key : String} {u : EndpointUpdate}
    (h : updateEndpoint now actor endpointId u key b = .ok (b', resp)) :
    b' = b ∨ ∃ e, b.plant.endpoint? endpointId = some e ∧ Intact b' ∧
      b' = { b.endpointUpdated e u actor.id now with
        ledger := (b.endpointUpdated e u actor.id now).ledger.remember actor "endpoint.update"
          (some key) resp now } := by
  unfold updateEndpoint at h
  simp only [bind_ok] at h
  obtain ⟨-, -, h⟩ := h
  rcases once_ok h with h | ⟨b₁, hb, hi, rfl⟩
  · exact Or.inl h
  · simp only [bind_ok, need_ok, pure_ok, Prod.mk.injEq] at hb
    obtain ⟨e, he, -, -, -, -, -, -, -, -, rfl, -⟩ := hb
    exact Or.inr ⟨e, he, hi, rfl⟩

theorem deleteEndpoint_ok {endpointId key : String}
    (h : deleteEndpoint cfg now actor endpointId key b = .ok (b', resp)) :
    b' = b ∨ (b.plant.endpointUnreachable cfg now endpointId = true ∨
        b.endpointHasActiveLeases endpointId = false) ∧ Intact b' ∧
      b' = { b.endpointDeleted endpointId actor.id
          (b.plant.endpointUnreachable cfg now endpointId) now with
        ledger := (b.endpointDeleted endpointId actor.id
          (b.plant.endpointUnreachable cfg now endpointId) now).ledger.remember actor
            "endpoint.delete" (some key) resp now } := by
  unfold deleteEndpoint at h
  simp only [bind_ok] at h
  obtain ⟨-, -, h⟩ := h
  rcases once_ok h with h | ⟨b₁, hb, hi, rfl⟩
  · exact Or.inl h
  · simp only [bind_ok, need_ok, require_ok, pure_ok, Prod.mk.injEq] at hb
    obtain ⟨-, -, -, -, -, -, -, hu, rfl, -⟩ := hb
    exact Or.inr ⟨hu, hi, rfl⟩

/-! ## Collection -/

theorem ingestObservation_ok {o : EndpointObservation} {token : String → String → String}
    (h : ingestObservation cfg now o token b = .ok (b', resp)) :
    b' = b ∨ b.plant.staleObservation o = false ∧ Intact b' ∧
      b' = (b.ingested cfg now o token).1 := by
  unfold ingestObservation at h
  simp only [bind_ok, need_ok] at h
  obtain ⟨-, -, h⟩ := h
  split at h
  · simp only [pure_ok, Prod.mk.injEq] at h
    exact Or.inl h.1.symm
  · rename_i hs
    obtain ⟨hb, -, hi⟩ := finish_ok.1 h
    exact Or.inr ⟨by simpa using hs, hb ▸ hi, hb⟩

theorem recordProviderFailure_ok {endpointId message errorCode : String}
    (h : recordProviderFailure cfg now endpointId message errorCode b = .ok (b', resp)) :
    Intact b' ∧ ∃ first, b' = { plant := b.plant.providerFailed cfg endpointId message errorCode now
                                ledger :=
                                  b.ledger.providerFailed first endpointId message now } := by
  unfold recordProviderFailure at h
  simp only [bind_ok, need_ok] at h
  obtain ⟨-, -, h⟩ := h
  obtain ⟨hb, -, hi⟩ := finish_ok.1 h
  exact ⟨hb ▸ hi, _, hb⟩

/-! ## Delegated claims -/

/-- What is filed of a prepared claim: nothing new, or an allocation its project has room for. -/
theorem fileClaim_ok {r : RequestCreate} {requestKey endpointId allocationId : String}
    {plugin : Plugin} {project : Project} {filed : Option ResourceAllocation} {b₀ : Broker}
    (h : b₀.fileClaim now actor r requestKey endpointId plugin allocationId project filed =
      .ok (b', resp)) :
    Intact b' ∧ ((∃ a, filed = some a ∧ b₀.answerFiled r a = .ok resp ∧ b' = b₀) ∨
      (filed = none ∧ b₀.ledger.projectBlocked project r.constraints = none ∧
        resp = .allocation allocationId true ∧
        b' = ⟨b₀.plant, { b₀.ledger.bumpRevision with
          allocations := b₀.ledger.allocations ++
            [preparedAllocation allocationId endpointId plugin actor requestKey r now] }⟩)) := by
  unfold Broker.fileClaim at h
  cases filed with
  | some a =>
    simp only [bind_ok] at h
    obtain ⟨response, hr, h⟩ := h
    obtain ⟨hb, rfl, hi⟩ := finish_ok.1 h
    exact ⟨hb ▸ hi, Or.inl ⟨a, rfl, hr, hb⟩⟩
  | none =>
    simp only [bind_ok, require_ok] at h
    obtain ⟨-, hblocked, h⟩ := h
    obtain ⟨hb, hr, hi⟩ := finish_ok.1 h
    exact ⟨hb ▸ hi, Or.inr ⟨rfl, hblocked, hr, hb⟩⟩

/-- The steps of a prepare transaction that is no replay. -/
theorem claimPrepare_steps {r : RequestCreate} {key : Option String}
    {endpointId allocationId : String} {plugin : Plugin}
    (h : claimPrepare now actor r key endpointId plugin allocationId b = .ok (b', resp)) :
    b' = b ∨ ∃ l project, b.ledger.ensureClaimProject r.projectId = .ok (l, project) ∧
      let sent := key.filter fun k => k ≠ ""
      let filed := l.filedAllocation actor.id endpointId (requestKeyOf r key) r
      Broker.fileClaim now actor r (requestKeyOf r key) endpointId plugin allocationId project
        (resumable sent filed) ⟨b.plant, l.retireEnded sent filed⟩ = .ok (b', resp) := by
  unfold claimPrepare at h
  simp only [bind_ok] at h
  obtain ⟨-, -, replay, -, h⟩ := h
  cases replay with
  | some x =>
    simp only [pure_ok, Prod.mk.injEq] at h
    exact Or.inl h.1.symm
  | none =>
    simp only [bind_ok] at h
    obtain ⟨⟨l, project⟩, hl, -, -, h⟩ := h
    exact Or.inr ⟨l, project, hl, h⟩

/-- The prepare transaction: a replay, an answer about the allocation on file, or a new one. -/
theorem claimPrepare_ok {r : RequestCreate} {key : Option String} {endpointId allocationId : String}
    {plugin : Plugin}
    (h : claimPrepare now actor r key endpointId plugin allocationId b = .ok (b', resp)) :
    b' = b ∨ ∃ projects filed, let l := ({ b.ledger with projects } : Ledger)
      filed = l.filedAllocation actor.id endpointId (requestKeyOf r key) r ∧ Intact b' ∧
      ((∃ a, resumable (key.filter fun k => k ≠ "") filed = some a ∧
        Broker.answerFiled ⟨b.plant, l.retireEnded (key.filter fun k => k ≠ "") filed⟩ r a =
          .ok resp ∧
        b' = ⟨b.plant, l.retireEnded (key.filter fun k => k ≠ "") filed⟩) ∨
      (resumable (key.filter fun k => k ≠ "") filed = none ∧ resp = .allocation allocationId true ∧
        b' = ⟨b.plant, { (l.retireEnded (key.filter fun k => k ≠ "") filed).bumpRevision with
          allocations := (l.retireEnded (key.filter fun k => k ≠ "") filed).allocations ++
            [preparedAllocation allocationId endpointId plugin actor (requestKeyOf r key) r
              now] }⟩)) := by
  rcases claimPrepare_steps h with h | ⟨l, project, hl, h⟩
  · exact Or.inl h
  · obtain ⟨projects, rfl⟩ := ensureClaimProject_ok hl
    obtain ⟨hi, ⟨a, ha, hr, hb⟩ | ⟨hn, -, hr, hb⟩⟩ := fileClaim_ok h
    · exact Or.inr ⟨projects, _, rfl, hi, Or.inl ⟨a, ha, hr, hb⟩⟩
    · exact Or.inr ⟨projects, _, rfl, hi, Or.inr ⟨hn, hr, hb⟩⟩

theorem retireEnded_eq (l : Ledger) (sent : Option String) (filed : Option ResourceAllocation) :
    ∃ allocations, l.retireEnded sent filed = { l with allocations } := by
  unfold Ledger.retireEnded
  split
  · exact ⟨_, rfl⟩
  · exact ⟨l.allocations, rfl⟩

theorem writeAllocation_ok {id : String} {f : ResourceAllocation → ResourceAllocation}
    (h : b.writeAllocation id f = .ok (b', resp)) :
    (∃ a, b.ledger.allocation? id = some a) ∧ Intact b' ∧ b' = { b with
      ledger := (b.ledger.editAllocations (fun a => a.id = id) f).bumpRevision } := by
  unfold Broker.writeAllocation at h
  simp only [bind_ok, need_ok] at h
  obtain ⟨a, ha, h⟩ := h
  obtain ⟨hb, -, hi⟩ := finish_ok.1 h
  exact ⟨⟨a, ha⟩, hb ▸ hi, hb⟩

theorem claimFinish_ok {r : RequestCreate} {key : Option String} {allocationId : String}
    (h : claimFinish now actor r key allocationId leaseId b = .ok (b', resp)) :
    ∃ a, b.ledger.allocation? allocationId = some a ∧ Intact b' ∧
      b' = { b with
        ledger := (b.ledger.bumpRevision.delegate (delegatedLease leaseId actor r a.expiresAt now
          b.ledger.bumpRevision.revision) allocationId now).remember actor "request.create"
            (key.filter fun k => k ≠ "") resp now } := by
  unfold claimFinish at h
  obtain ⟨b₁, hb, hi, rfl⟩ := remembering_ok h
  simp only [bind_ok, need_ok, pure_ok, Prod.mk.injEq] at hb
  obtain ⟨a, ha, rfl, -⟩ := hb
  exact ⟨a, ha, hi, rfl⟩

theorem finishPluginRelease_ok {allocationId : String} {error : Option String}
    (h : finishPluginRelease now allocationId error b = .ok (b', resp)) :
    b' = b ∨ ∃ a, b.ledger.allocation? allocationId = some a ∧ Intact b' ∧
      b' = { b with ledger := b.ledger.pluginReleased a error now } := by
  unfold finishPluginRelease at h
  split at h
  · simp only [pure_ok, Prod.mk.injEq] at h
    exact Or.inl h.1.symm
  · rename_i a ha
    obtain ⟨hb, -, hi⟩ := finish_ok.1 h
    exact Or.inr ⟨a, ha, hb ▸ hi, hb⟩

end ServerPilot
