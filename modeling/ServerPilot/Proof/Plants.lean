import ServerPilot.Proof.Inventory

/-!
# What one transaction does to the plant

Most transactions write the ledger, and of the plant at most what is known of the occupancy
workers. `PlantStep` lists the others, and `apply_plant` reads each of the broker's transactions as
one of them.
-/

namespace ServerPilot

open Rows Checked

/-- The transaction stops the keeper whose worker the process is, not seen since the barrier. -/
def Op.retires (b : Broker) (q : ProcessObservation) : Op → Prop
  | .finalizeKeepaliveStop _ _ _ leaseId notBefore _ =>
    ∃ lease gpuId, b.ledger.lease? leaseId = some lease ∧ lease.kind = .keepalive ∧
      (b.ledger.cards leaseId).map LeaseResource.gpuId = [gpuId] ∧
      some q.key = (b.plant.keepalive? gpuId).bind KeepaliveCurrent.expectedKey ∧
      q.lastSeenAt < notBefore
  | _ => False

/-- The transactions that tell of a look at a server, or of one that failed. -/
def Op.looks : Op → Bool
  | .ingestObservation .. | .recordProviderFailure .. => true
  | _ => false

/-- What an accepted transaction does to the plant. -/
inductive PlantStep (cfg : Config) (b : Broker) (op : Op) (b' : Broker) : Prop
  | workers (hop : op.looks = false) (keepalive : List KeepaliveCurrent)
    (h : b'.plant = { b.plant with keepalive })
  | old (now : Time) (o : EndpointObservation) (token : String → String → String)
    (hop : op = .ingestObservation now o token) (hs : b.plant.staleObservation o = true)
    (h : b'.plant = b.plant)
  | observed (now : Time) (o : EndpointObservation) (token : String → String → String)
    (hop : op = .ingestObservation now o token) (h : b' = (b.ingested cfg now o token).1)
  | failed (now : Time) (e message code : String)
    (hop : op = .recordProviderFailure now e message code)
    (h : b'.plant = b.plant.providerFailed cfg e message code now)
  | stopped (hop : op.looks = false) (processes : List ProcessObservation)
    (keepalive : List KeepaliveCurrent)
    (h : b'.plant = { b.plant.retire processes with keepalive })
    (hstops : ∀ q ∈ processes, op.retires b q)
  | pruned (now : Time) (hop : op = .pruneExpired now) (h : b' = b.pruned now)
  | deleted (now : Time) (actor : ActorContext) (e key : String)
    (hop : op = .deleteEndpoint now actor e key) (h : b'.plant = (b.purgeEndpoint e).plant)
  | grouped (now : Time) (actor : ActorContext) (data : ServerGroup) (key : String)
    (hop : op = .createServerGroup now actor data key)
    (h : b'.plant = { b.plant with serverGroups := b.plant.serverGroups ++ [data] })
  | created (now : Time) (actor : ActorContext) (data : EndpointCreate) (key : String)
    (hop : op = .createEndpoint now actor data key)
    (h : b'.plant = { b.plant with endpoints := b.plant.endpoints ++ [data] })
  | updated (now : Time) (actor : ActorContext) (e : Endpoint) (u : EndpointUpdate) (key : String)
    (hop : op = .updateEndpoint now actor e.id u key)
    (h : b'.plant = { b.plant with
      endpoints := updWhere (fun x => x.id = e.id) (fun x => x.updated u) b.plant.endpoints })
  | configured (now : Time) (actor : ActorContext) (e : Endpoint) (policy : KeepalivePolicy)
    (key : String) (keepalive : List KeepaliveCurrent)
    (hop : op = .configureKeepalivePolicy now actor e.id policy key)
    (h : b'.plant = { b.plant with
      keepalive
      endpoints := updWhere (fun x => x.id = e.id)
        (fun x => { x with keepalivePolicy := policy, keepaliveAdapterId := e.adapterUnder policy })
        b.plant.endpoints })

section

variable {cfg : Config} {op : Op} {b b' : Broker} {resp : Response}

/-- An accepted observation is older than what is known of every node it has, or is taken in. -/
theorem ingestObservation_stale {now : Time} {o : EndpointObservation}
    {token : String → String → String}
    (h : ingestObservation cfg now o token b = .ok (b', resp)) :
    b.plant.staleObservation o = true ∧ b' = b ∨ b' = (b.ingested cfg now o token).1 := by
  unfold ingestObservation at h
  simp only [bind_ok, need_ok] at h
  obtain ⟨-, -, h⟩ := h
  split at h
  · rename_i hs
    simp only [pure_ok, Prod.mk.injEq] at h
    exact Or.inl ⟨hs, h.1.symm⟩
  · exact Or.inr (finish_ok.1 h).1

/-- Only the worker states change, however many are written. -/
theorem foldl_workers {α : Type} {f : Plant → α → Plant} {p : Plant} (l : List α)
    (hf : ∀ p a, ∃ keepalive, f p a = { p with keepalive }) :
    ∃ keepalive, l.foldl f p = { p with keepalive } := by
  apply Run.foldl_inv (I := fun q : Plant => ∃ keepalive, q = { p with keepalive }) _ ⟨_, rfl⟩
  rintro - a - ⟨keepalive, rfl⟩
  obtain ⟨keepalive', h⟩ := hf { p with keepalive } a
  exact ⟨keepalive', h⟩

theorem workersOff_workers (b : Broker) (endpointId : String) (now : Time) :
    ∃ keepalive, b.workersOff endpointId now = { b.plant with keepalive } := by
  unfold Broker.workersOff
  exact foldl_workers _ fun p _ => setKeepaliveCurrent_eq _ _ _ _ _ _ _ _

theorem setKeepaliveErrors_workers (endpointId reason : String) (pending : Bool) (now : Time)
    (gpuIds : List String) (p : Plant) :
    ∃ keepalive, gpuIds.foldl (setKeepaliveErrorOn endpointId reason pending now) p =
      { p with keepalive } := by
  refine foldl_workers _ fun p g => ?_
  unfold setKeepaliveErrorOn
  split
  · exact setKeepaliveCurrent_eq _ _ _ _ _ _ _ _
  · exact ⟨p.keepalive, rfl⟩

theorem finishCleanup_workers (actor : ActorContext) (endpointId : String) (now : Time)
    (gpuIds : List String) (b : Broker) :
    ∃ keepalive, (gpuIds.foldl (finishCleanupOn actor endpointId now) b).plant =
      { b.plant with keepalive } := by
  apply Run.foldl_inv (I := fun s : Broker => ∃ keepalive, s.plant = { b.plant with keepalive }) _
    ⟨_, rfl⟩
  rintro s g - ⟨keepalive, hs⟩
  unfold finishCleanupOn
  split
  · obtain ⟨keepalive', h⟩ := setKeepaliveCurrent_eq s.plant g .off none none true (some false) now
    exact ⟨keepalive', by rw [← show ({ s.plant with keepalive := keepalive' } : Plant) =
      { b.plant with keepalive := keepalive' } by rw [hs]]; exact h⟩
  · exact ⟨keepalive, hs⟩

/-- **The plant after a transaction.** -/
theorem apply_plant (hk : Kept b) (h : op.apply cfg b = .ok (b', resp)) :
    PlantStep cfg b op b' := by
  have same : op.looks = false → b'.plant = b.plant → PlantStep cfg b op b' :=
    fun hop hp => .workers hop b.plant.keepalive hp
  cases op with
  | createRequest =>
    refine same rfl ?_
    rcases claim_begun hk.intact h with rfl | ⟨hp, -⟩
    exacts [rfl, hp]
  | resizeLease => exact same rfl (resize_resized hk.intact h).1
  | releaseLease =>
    refine same rfl ?_
    rcases releaseLease_ok h with rfl | ⟨lease, -, -, -, -, -, rfl⟩
    exacts [rfl, rfl]
  | reassignLeaseGpus =>
    refine same rfl ?_
    rcases reassign_moved hk.intact h with rfl | ⟨hp, -⟩
    exacts [rfl, hp]
  | takeOverLease => exact same rfl (takeOverLease_ends h).1
  | leaseView => exact same rfl (leaseView_keeps h).1
  | recordLeaseHeartbeat =>
    refine same rfl ?_
    rcases recordLeaseHeartbeat_ok h with rfl | ⟨-, rfl⟩
    exacts [rfl, (heartbeat_keeps _ _ _ _ _ _).1]
  | bindObservedWorkload => exact same rfl (bindObservedWorkload_keeps h).1
  | releaseEmptyConflictedLease =>
    refine same rfl ?_
    rcases releaseEmpty_loses h with rfl | ⟨hp, -⟩
    exacts [rfl, hp]
  | activateKeepalives =>
    rcases activate_opening hk.intact hk.wellkept h with rfl | ⟨⟨ks, hp⟩, -⟩
    exacts [same rfl rfl, .workers rfl ks hp]
  | finalizeKeepaliveStop =>
    rcases finalizeKeepaliveStop_ok h with rfl | ⟨lease, g, ps, hl, hkind, -, hc, -, hq, -, rfl⟩
    · exact same rfl rfl
    · obtain ⟨ks, hp⟩ := setKeepaliveCurrent_eq (b.plant.retire ps) g .off none none true none _
      refine .stopped rfl ps ks hp fun q hmem => ?_
      have hnot := of_decide_eq_false (hq q hmem)
      rw [not_or, not_not, not_le] at hnot
      exact ⟨lease, g, hl, hkind, hc, hnot.1, hnot.2⟩
  | setKeepaliveError =>
    obtain ⟨rfl, -, -⟩ := finish_ok.1 h
    obtain ⟨ks, hp⟩ := setKeepaliveErrors_workers _ _ _ _ _ b.plant
    exact .workers rfl ks hp
  | finishKeepaliveCleanup =>
    obtain ⟨rfl, -, -⟩ := finish_ok.1 h
    obtain ⟨ks, hp⟩ := finishCleanup_workers _ _ _ _ b
    exact .workers rfl ks hp
  | configureKeepalivePolicy now actor endpointId policy key =>
    rcases configureKeepalivePolicy_ok h with rfl | ⟨e, changed, he, -, rfl⟩
    · exact same rfl rfl
    obtain rfl := (row?_some he).2
    unfold Broker.policyConfigured
    simp only
    split
    · obtain ⟨ks, hp⟩ := workersOff_workers b e.id now
      exact .configured now actor e policy key ks rfl (by rw [hp])
    · exact .configured now actor e policy key b.plant.keepalive rfl rfl
  | ingestObservation now o token =>
    rcases ingestObservation_stale h with ⟨hs, rfl⟩ | hb
    exacts [.old now o token rfl hs rfl, .observed now o token rfl hb]
  | recordProviderFailure now e message code =>
    obtain ⟨-, first, rfl⟩ := recordProviderFailure_ok h
    exact .failed now e message code rfl rfl
  | pruneExpired now =>
    obtain ⟨rfl, -, -⟩ := finish_ok.1 h
    exact .pruned now rfl rfl
  | createServerGroup now actor data key =>
    rcases createServerGroup_ok h with rfl | ⟨-, rfl⟩
    exacts [same rfl rfl, .grouped now actor data key rfl rfl]
  | createEndpoint now actor data key =>
    rcases createEndpoint_ok h with rfl | ⟨-, rfl⟩
    exacts [same rfl rfl, .created now actor data key rfl rfl]
  | updateEndpoint now actor endpointId u key =>
    rcases updateEndpoint_ok h with rfl | ⟨e, he, -, rfl⟩
    · exact same rfl rfl
    · obtain rfl := (row?_some he).2
      exact .updated now actor e u key rfl rfl
  | deleteEndpoint now actor endpointId key =>
    rcases delete_uprooted hk.intact hk.wellkept h with rfl | ⟨hp, -⟩
    exacts [same rfl rfl, .deleted now actor endpointId key rfl hp]
  | claimPrepare => exact same rfl (claimPrepare_keeps h).1
  | claimFailed | claimRemember | markAllocation =>
    refine same rfl ?_
    obtain ⟨-, -, rfl⟩ := writeAllocation_ok h
    rfl
  | claimFinish => exact same rfl (claimFinish_opening hk.intact h).1
  | finishPluginRelease =>
    refine same rfl ?_
    rcases finishPluginRelease_ok h with rfl | ⟨a, -, -, rfl⟩
    exacts [rfl, rfl]

end

end ServerPilot
