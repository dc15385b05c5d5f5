import ServerPilot.Proof.Deeds
import ServerPilot.Proof.Epoch

/-!
# What the revision tells

The app polls the revision to learn whether anything changed. `apply_tells`: a transaction raises
it, or leaves every lease as it was. `revision_tells`: **two states of a run with one revision have
the same leases, with the same cards.**
-/

namespace ServerPilot

open Rows Checked

/-- The revision does not fall, and while it stays no lease begins, ends, changes hands or cards. -/
structure Tells (l l' : Ledger) : Prop where
  le : l.revision ≤ l'.revision
  same : l'.revision = l.revision → Keeps l l'

section

variable {l l' l'' : Ledger}

theorem Tells.refl (l : Ledger) : Tells l l := ⟨Nat.le_refl _, fun _ => .refl l⟩

theorem Tells.trans (h : Tells l l') (h' : Tells l' l'') : Tells l l'' := by
  refine ⟨Nat.le_trans h.le h'.le, fun heq => ?_⟩
  have hle := h.le
  have hle' := h'.le
  have hfirst : l'.revision = l.revision := by omega
  have hsecond : l''.revision = l'.revision := by omega
  exact (h.same hfirst).trans (h'.same hsecond)

theorem Tells.raised (h : l.revision < l'.revision) : Tells l l' :=
  ⟨Nat.le_of_lt h, fun heq => absurd heq (Nat.ne_of_gt h)⟩

theorem Keeps.tells (h : Keeps l l') (hrev : l.revision ≤ l'.revision) : Tells l l' :=
  ⟨hrev, fun _ => h⟩

end

/-! ## Writes -/

section

variable {l : Ledger} {b : Broker} {cfg : Config} {now : Time}

@[simp] theorem revision_remember (actor : ActorContext) (action : String) (key : Option String)
    (r : Response) : (l.remember actor action key r now).revision = l.revision := by
  obtain ⟨_, h⟩ := remember_eq l actor action key r now
  rw [h]

@[simp] theorem revision_returnCards (i : String) (gpuIds : List String) (releasedBy : String) :
    (l.returnCards i gpuIds releasedBy now).revision = l.revision := by
  unfold Ledger.returnCards
  split <;> rfl

@[simp] theorem revision_resized (lease : Lease) (raise : Bool) (token : String → String)
    (now : Time) :
    (b.resized lease raise token now).ledger.revision = b.ledger.revision := by
  cases raise <;> rfl

@[simp] theorem revision_released (lease : Lease) (reason : String) (token : String → String) :
    (b.released lease reason token now).ledger.revision = b.ledger.revision + 1 := by
  unfold Broker.released
  simp only
  split <;> rfl

@[simp] theorem revision_settleOn (i endpointId reason actorId : String) :
    (b.settleOn i endpointId reason actorId now).revision = b.ledger.revision := by
  unfold Broker.settleOn
  simp only
  split <;> rfl

@[simp] theorem revision_settleLeasesForDeleted (endpointId actorId : String) :
    (b.settleLeasesForDeleted endpointId actorId now).ledger.revision = b.ledger.revision := by
  unfold Broker.settleLeasesForDeleted
  apply Run.foldl_inv (I := fun s : Broker => s.ledger.revision = b.ledger.revision) _ rfl
  intro s i _ hs
  exact (revision_settleOn _ _ _ _).trans hs

@[simp] theorem revision_endReleased (i : Option String) (released : Bool) :
    (l.endReleased i released now).revision = l.revision := by
  unfold Ledger.endReleased
  split <;> rfl

@[simp] theorem revision_activateKeepers (endpointId actorId : String) (token : String → String)
    (ts : List (GPUDevice × Option Lease)) :
    (ts.foldl (Ledger.activateKeeper cfg endpointId actorId token now) l).revision =
      l.revision := by
  apply Run.foldl_inv (I := fun s : Ledger => s.revision = l.revision) _ rfl
  intro s t _ hs
  rw [← hs]
  unfold Ledger.activateKeeper
  cases t.2 <;> rfl

@[simp] theorem revision_retireEnded (sent : Option String) (filed : Option ResourceAllocation) :
    (l.retireEnded sent filed).revision = l.revision := by
  obtain ⟨_, h⟩ := retireEnded_eq l sent filed
  rw [h]

@[simp] theorem revision_heartbeat (i : String) (actor : ActorContext) (keepIdle : Bool) :
    (b.heartbeat cfg now i actor keepIdle).1.ledger.revision = b.ledger.revision := by
  unfold Broker.heartbeat Broker.keepIdleCards
  simp only
  split
  · split <;> rfl
  · rfl

@[simp] theorem revision_unseenChanges (lease : Lease) :
    (l.unseenChanges lease).1.revision = l.revision := by
  unfold Ledger.unseenChanges
  simp only
  split <;> rfl

end

theorem Tells.remember {l l' : Ledger} (h : Tells l l') (actor : ActorContext) (action : String)
    (key : Option String) (r : Response) (now : Time) :
    Tells l (l'.remember actor action key r now) :=
  h.trans ((remember_keeps actor now l' action key r).tells (Nat.le_of_eq (by simp)))

/-! ## Observations -/

section

variable {cfg : Config} {now : Time} {b : Broker}

theorem ingestNode_revision (endpointId : String) (o : NodeObservation) :
    b.ledger.revision ≤ (ingestNodeObservation cfg endpointId now b o).ledger.revision := by
  unfold ingestNodeObservation Broker.releaseAbsentKeepers
  have hended : ∀ (l : Ledger) (actorId : String) (ids : List String),
      (ids.foldl (releaseAbsentKeeper actorId now) l).revision = l.revision := by
    intro l actorId ids
    apply Run.foldl_inv (I := fun s : Ledger => s.revision = l.revision) _ rfl
    exact fun s i _ hs => hs
  split
  · exact Nat.le_refl _
  · simp only
    split
    · exact Nat.le_refl _
    · split
      · exact Nat.le_refl _
      · -- the keepers of absent cards are counted once, however many end
        split
        · exact Nat.le_of_eq (hended _ _ _).symm
        · exact Nat.le_trans (Nat.le_of_eq (hended _ _ _).symm) (Nat.le_succ _)

theorem revision_ingestAllocations (l : Ledger) (o : EndpointObservation) :
    (l.ingestAllocations o now).revision = l.revision := by
  apply Run.foldl_inv (I := fun s : Ledger => s.revision = l.revision) _ rfl
  intro s a _ hs
  rw [← hs]
  unfold ingestAllocation
  simp only
  split
  · rfl
  · split
    · rfl
    · split <;> rfl

theorem revision_recordObservedKeepalive (endpointId : String) (complete : Bool) :
    (b.recordObservedKeepalive endpointId complete now).ledger.revision = b.ledger.revision := by
  unfold Broker.recordObservedKeepalive
  split
  · rfl
  · apply Run.foldl_inv (I := fun s : Broker => s.ledger.revision = b.ledger.revision) _ rfl
    intro s x _ hs
    rw [← hs]
    unfold recordObservedKeeper
    split
    · simp only
      split <;> rfl
    · rfl

theorem revision_bindNewWorkloads (endpointId : String) :
    (b.bindNewWorkloads endpointId now).ledger.revision = b.ledger.revision := by
  apply Run.foldl_inv (I := fun s : Broker => s.ledger.revision = b.ledger.revision) _ rfl
  intro s x _ hs
  rw [← hs]
  unfold bindNewWorkload
  simp only
  split <;> rfl

theorem revision_clearKeepaliveErrors (endpointId : String) (complete : Bool) :
    (b.clearKeepaliveErrors cfg endpointId complete now).ledger.revision = b.ledger.revision := by
  unfold Broker.clearKeepaliveErrors
  split <;> rfl

/-- **An observation** is counted before it is read. -/
theorem absorb_revision (o : EndpointObservation) :
    b.ledger.revision < (b.absorb cfg now o).ledger.revision := by
  unfold Broker.absorb
  simp only
  rw [revision_clearKeepaliveErrors, revision_bindNewWorkloads, revision_recordObservedKeepalive]
  simp only
  rw [revision_ingestAllocations]
  refine Nat.lt_of_lt_of_le (Nat.lt_succ_self b.ledger.revision) ?_
  have hnodes : b.ledger.revision + 1 ≤ (o.nodes.foldl
      (ingestNodeObservation cfg o.endpointId now)
        { b with ledger := b.ledger.bumpRevision }).ledger.revision := by
    apply Run.foldl_inv (I := fun s : Broker => b.ledger.revision + 1 ≤ s.ledger.revision) _
      (Nat.le_refl _)
    exact fun s x _ hs => Nat.le_trans hs (ingestNode_revision o.endpointId x)
  apply Run.foldl_inv (I := fun s : Broker => b.ledger.revision + 1 ≤ s.ledger.revision) _ hnodes
  exact fun s x _ hs => hs

theorem revision_reconcileIdleLease (actorId : String) (token : String → String) (lease : Lease) :
    (b.reconcileIdleLease cfg now actorId token lease).ledger.revision = b.ledger.revision := by
  unfold Broker.reconcileIdleLease
  simp only
  split
  · rfl
  · split
    · rfl
    · unfold Broker.settleReclaimed
      simp only
      split <;> rfl

theorem revision_reconcileExpiry (actorId : String) (processes : Bool) (lease : Lease) (s : Pass) :
    (reconcileExpiry now actorId processes lease s).1.ledger.revision = s.1.ledger.revision := by
  unfold reconcileExpiry
  split
  · cases processes <;> rfl
  · rfl

theorem revision_reconcileLease (actorId : String) (token : String → String → String) (s : Pass)
    (leaseId : String) :
    (reconcileLease cfg now actorId token s leaseId).1.ledger.revision = s.1.ledger.revision := by
  unfold reconcileLease
  split
  · rfl
  · split
    · rfl
    · split
      · unfold reconcileAllocation
        simp only
        split
        · rfl
        · split
          · rfl
          · split <;> rfl
      · unfold reconcileDirect
        simp only
        split
        · split
          · exact revision_reconcileIdleLease _ _ _
          · split
            · exact revision_reconcileIdleLease _ _ _
            · exact (revision_reconcileExpiry _ _ _ _).trans (revision_reconcileIdleLease _ _ _)
        · rfl

theorem ingested_revision (token : String → String → String) (o : EndpointObservation) :
    b.ledger.revision < (b.ingested cfg now o token).1.ledger.revision := by
  have hconflicts : ∀ (l : Ledger) (actorId : String),
      (l.normalizeConflicts actorId now).revision = l.revision := by
    intro l actorId
    apply Run.foldl_inv (I := fun s : Ledger => s.revision = l.revision) _ rfl
    exact fun s i _ hs => hs
  have hpass : ((b.absorb cfg now o).reconcileLeases cfg now ("collector:" ++ o.endpointId)
      token).1.ledger.revision = (b.absorb cfg now o).ledger.revision := by
    unfold Broker.reconcileLeases
    apply Run.foldl_inv
      (I := fun s : Pass => s.1.ledger.revision = (b.absorb cfg now o).ledger.revision) _
        (hconflicts _ _)
    exact fun s i _ hs => (revision_reconcileLease _ _ _ _).trans hs
  have haudit : ∀ (l : Ledger) (recovered : Bool),
      (l.auditRecovery recovered o.endpointId now).revision = l.revision := by
    intro l recovered
    cases recovered <;> rfl
  unfold Broker.ingested
  simp only
  rw [haudit, hpass]
  exact absorb_revision o

end

/-! ## Every transaction -/

section

variable {cfg : Config} {op : Op} {b b' : Broker} {resp : Response}

/-- **A transaction** raises the revision, or leaves every lease as it was. -/
theorem apply_tells (h : op.apply cfg b = .ok (b', resp)) : Tells b.ledger b'.ledger := by
  have same : ∀ {x : Broker}, x = b → Tells b.ledger x.ledger := fun hx => by
    rw [hx]
    exact .refl _
  have raised : ∀ {l : Ledger}, l.revision = b.ledger.revision + 1 → Tells b.ledger l :=
    fun hl => .raised (by omega)
  cases op with
  | createRequest =>
    rcases createRequest_steps h with h | ⟨l, project, gpus, d, hl, -, -, rfl⟩
    · exact same h
    · obtain ⟨projects, rfl⟩ := ensureClaimProject_ok hl
      exact raised (revision_remember _ _ _ _)
  | resizeLease now actor leaseId addRequest removeGpuIds expectedEpoch token =>
    obtain ⟨lease, taken, added, d, -, -, -, -, -, -, -, hadd, -, -, rfl⟩ := resizeLease_ok h
    have htaken : taken.ledger.revision = b.ledger.revision + 1 := by
      rcases addCards_ok hadd with ⟨-, rfl, -⟩ | ⟨-, -, -, rfl⟩
      · exact revision_returnCards _ _ _
      · exact revision_returnCards _ _ _
    exact raised (Eq.trans (revision_resized lease _ token now) htaken)
  | releaseLease =>
    rcases releaseLease_ok h with h | ⟨lease, -, -, -, -, d, rfl⟩
    · exact same h
    · exact raised ((revision_remember _ _ _ _).trans (revision_released _ _ _))
  | reassignLeaseGpus =>
    rcases reassignLeaseGpus_ok h with h | ⟨lease, targets, c, d, -, -, -, -, -, -, -, -, -, rfl⟩
    · exact same h
    · exact raised (revision_remember _ _ _ _)
  | takeOverLease =>
    obtain ⟨lease, session, l, d, -, -, hl, -, rfl⟩ := takeOverLease_ok h
    obtain ⟨projects, rfl⟩ := takeoverProject_ok hl
    exact raised rfl
  | leaseView =>
    -- a look and a heartbeat move no card, and are not counted
    refine (leaseView_keeps h).2.tells ?_
    obtain ⟨lease, -, -, -, -, ⟨-, rfl, -⟩ | ⟨-, rfl, -⟩⟩ := leaseView_ok h
    · exact Nat.le_of_eq (revision_unseenChanges _).symm
    · exact Nat.le_of_eq ((revision_heartbeat _ _ _).trans (revision_unseenChanges _)).symm
  | recordLeaseHeartbeat =>
    rcases recordLeaseHeartbeat_ok h with h | ⟨-, rfl⟩
    · exact same h
    · exact (heartbeat_keeps _ _ _ _ _ _).2.tells (Nat.le_of_eq (revision_heartbeat _ _ _).symm)
  | bindObservedWorkload =>
    rcases bindObservedWorkload_ok h with h | ⟨lease, runId, runs, keys, n, -, -, -, rfl⟩
    · exact same h
    · refine raised ((revision_remember _ _ _ _).trans ?_)
      unfold Ledger.auditBind
      simp only
      split <;> split <;> rfl
  | releaseEmptyConflictedLease =>
    rcases releaseEmptyConflictedLease_ok h with h | ⟨lease, -, -, -, -, rfl⟩
    · exact same h
    · exact raised ((revision_remember _ _ _ _).trans (revision_settleOn _ _ _ _))
  | activateKeepalives =>
    rcases activateKeepalives_ok h with h | ⟨targets, ps, -, -, -, -, -, -, rfl⟩
    · exact same h
    · exact raised ((revision_remember _ _ _ _).trans (revision_activateKeepers _ _ _ _))
  | finalizeKeepaliveStop =>
    rcases finalizeKeepaliveStop_ok h with h | ⟨lease, g, ps, -, -, -, -, -, -, -, rfl⟩
    · exact same h
    · exact raised (revision_remember _ _ _ _)
  | setKeepaliveError =>
    obtain ⟨rfl, -, -⟩ := finish_ok.1 h
    exact .refl _
  | finishKeepaliveCleanup =>
    obtain ⟨rfl, -, -⟩ := finish_ok.1 h
    refine (finishCleanup_keeps _ _ _).tells (Nat.le_of_eq ?_)
    apply Eq.symm
    apply Run.foldl_inv (I := fun s : Broker => s.ledger.revision = b.ledger.revision) _ rfl
    intro s g _ hs
    rw [← hs]
    unfold finishCleanupOn
    split <;> rfl
  | configureKeepalivePolicy now actor endpointId policy key =>
    rcases configureKeepalivePolicy_ok h with h | ⟨e, changed, -, -, rfl⟩
    · exact same h
    · have hrev : b.ledger.revision ≤
          (b.policyConfigured e policy changed actor.id now).ledger.revision := by
        unfold Broker.policyConfigured
        simp only
        split
        · exact Nat.le_succ _
        · exact Nat.le_refl _
      exact ((policyConfigured_keeps b e policy changed actor.id).tells hrev).remember actor
        "keepalive.policy.configure" (some key) resp now
  | ingestObservation =>
    rcases ingestObservation_ok h with h | ⟨-, -, rfl⟩
    · exact same h
    · exact .raised (ingested_revision _ _)
  | recordProviderFailure =>
    obtain ⟨-, first, rfl⟩ := recordProviderFailure_ok h
    refine raised ?_
    cases first <;> rfl
  | pruneExpired now =>
    obtain ⟨rfl, -, -⟩ := finish_ok.1 h
    have hkeeps : Keeps b.ledger (b.pruned now).ledger := .of_tables rfl rfl rfl
    exact hkeeps.tells (Nat.le_refl _)
  | createServerGroup =>
    rcases createServerGroup_ok h with h | ⟨-, rfl⟩
    exacts [same h, raised (revision_remember _ _ _ _)]
  | createEndpoint =>
    rcases createEndpoint_ok h with h | ⟨-, rfl⟩
    exacts [same h, raised (revision_remember _ _ _ _)]
  | updateEndpoint now actor endpointId u key =>
    -- an update that changes nothing is not counted
    rcases updateEndpoint_ok h with h | ⟨e, -, -, rfl⟩
    · exact same h
    · have hrev : b.ledger.revision ≤ (b.endpointUpdated e u actor.id now).ledger.revision := by
        unfold Broker.endpointUpdated
        simp only
        split
        · exact Nat.le_refl _
        · exact Nat.le_succ _
      exact ((endpointUpdated_keeps b e u actor.id).tells hrev).remember actor "endpoint.update"
        (some key) resp now
  | deleteEndpoint =>
    rcases deleteEndpoint_ok h with h | ⟨-, -, rfl⟩
    · exact same h
    · refine raised ((revision_remember _ _ _ _).trans ?_)
      unfold Broker.endpointDeleted
      simp only
      split
      · exact congrArg (· + 1) (revision_settleLeasesForDeleted _ _)
      · rfl
  | claimPrepare =>
    refine (claimPrepare_keeps h).2.tells ?_
    rcases claimPrepare_ok h with h | ⟨projects, filed, -, -, ⟨a, -, -, rfl⟩ | ⟨-, -, rfl⟩⟩
    · rw [h]
    · exact Nat.le_of_eq (revision_retireEnded (l := { b.ledger with projects }) _ _).symm
    · exact Nat.le_of_lt (Nat.lt_succ_of_le
        (Nat.le_of_eq (revision_retireEnded (l := { b.ledger with projects }) _ _).symm))
  | claimFailed | claimRemember | markAllocation =>
    obtain ⟨-, -, rfl⟩ := writeAllocation_ok h
    exact raised rfl
  | claimFinish =>
    obtain ⟨a, -, -, rfl⟩ := claimFinish_ok h
    exact raised (revision_remember _ _ _ _)
  | finishPluginRelease =>
    rcases finishPluginRelease_ok h with h | ⟨a, -, -, rfl⟩
    · exact same h
    · exact raised (congrArg (· + 1) (revision_endReleased _ _))

theorem exec_tells (cfg : Config) (b : Broker) (op : Op) :
    Tells b.ledger (exec cfg b op).ledger := by
  rcases exec_cases cfg b op with ⟨b', r, h, hb⟩ | ⟨-, hb⟩
  · rw [hb]
    exact apply_tells h
  · rw [hb]
    exact .refl _

theorem run_tells (cfg : Config) (b : Broker) (ops : List Op) :
    Tells b.ledger (Run.run (exec cfg) b ops).ledger := by
  unfold Run.run
  apply Run.foldl_inv (I := fun s : Broker => Tells b.ledger s.ledger) _ (.refl _)
  exact fun s op _ hs => hs.trans (exec_tells cfg s op)

end

/-- **What the revision tells.** Along a run the revision never falls. If it is at the end what it
was at the start, then in every state of the run every lease has the owner, the cards and the
servers it had at the start, and is as alive; and there is no other lease. -/
theorem revision_tells (cfg : Config) (b : Broker) (ops later : List Op) :
    b.ledger.revision ≤ (Run.run (exec cfg) b ops).ledger.revision ∧
      ((Run.run (exec cfg) b (ops ++ later)).ledger.revision = b.ledger.revision →
        (Run.run (exec cfg) b ops).ledger.deeds = b.ledger.deeds ∧
          ∀ id, (Run.run (exec cfg) b ops).ledger.holding? id = b.ledger.holding? id) := by
  have hfirst := run_tells cfg b ops
  have hlater := run_tells cfg (Run.run (exec cfg) b ops) later
  refine ⟨hfirst.le, fun heq => ?_⟩
  rw [Run.run_append] at heq
  have hsame : (Run.run (exec cfg) b ops).ledger.revision = b.ledger.revision :=
    Nat.le_antisymm (heq ▸ hlater.le) hfirst.le
  exact ⟨(hfirst.same hsame).deeds, (hfirst.same hsame).holding⟩

/-- The holder of a lease checks in, and a round of retention clears the audit. -/
def heldOn : List Op :=
  [.recordLeaseHeartbeat (seconds 5) (sampleActor "ann") "lease" true, .pruneExpired (days 31)]

/-- The holder asks for its lease. -/
def heldOnward : List Op :=
  [.leaseView (days 31) (sampleActor "ann") none (some "train") "lab" false]

/-- All three are accepted and none raises the revision: the lease has its card throughout. -/
theorem revision_tells_fleet :
    Run.Along (exec plainConfig) (fun b op => (op.apply plainConfig b).isOk = true) heldFirst
        (heldOn ++ heldOnward) ∧
      heldFirst.ledger.audit ≠ [] ∧ (Run.run (exec plainConfig) heldFirst heldOn).ledger.audit =
        [] ∧
      ((Run.run (exec plainConfig) heldFirst heldOn).ledger.holding? "lease").map Holding.cards =
        some {"alpha:GPU-0"} := by
  have htells := revision_tells plainConfig heldFirst heldOn heldOnward
  refine ⟨by decide +kernel, by decide +kernel, by decide +kernel, ?_⟩
  rw [(htells.2 (by decide +kernel)).2 "lease"]
  decide +kernel

end ServerPilot
