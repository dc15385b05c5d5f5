import ServerPilot.Proof.Steps

/-!
# Whose a lease is

The columns of a lease row that say whose it is and for which task are written
when the row is inserted, and after that by takeovers and reassignments alone:
`apply_deeds`. So only a workload ever has an owner, `Reachable.owned_workload`.
-/

namespace ServerPilot

open Rows Checked

/-- The lease rows, how far they have come left out. -/
def Ledger.deeds (l : Ledger) : List Lease := l.leases.map Lease.deed

/-- The lease rows a transaction may insert. -/
def Op.draws : Op → Lease → Prop
  | .createRequest _ actor r .., x | .claimFinish _ actor r .., x =>
    x.kind = .workload ∧ x.projectId = r.projectId ∧ x.taskRef = r.taskRef ∧
      x.ownerSessionId = actor.sessionId
  | .activateKeepalives .., x =>
    x.kind = .keepalive ∧ x.projectId = systemId ∧ x.ownerSessionId = none
  | _, _ => False

/-- The transactions that hand a lease on. -/
def Op.hands : Op → Bool
  | .takeOverLease .. => true
  | _ => false

/-- What an accepted transaction does to the lease rows, as far as their deeds go. -/
inductive Deeds (b : Broker) (op : Op) (l : Ledger) : Prop
  | kept (h : l.deeds = b.ledger.deeds)
  | drawn (new : List Lease) (hn : ∀ x ∈ new, op.draws x)
      (h : l.deeds = b.ledger.deeds ++ new.map Lease.deed)
  | handed (ho : op.hands = true) (x : Lease) (actor : ActorContext) (session projectId : String)
      (now : Time) (hx : x ∈ b.ledger.leases) (hk : x.kind = .workload)
      (h : l.leases = updWhere (fun y => y.id = x.id) (Lease.takenOver actor session projectId now)
        b.ledger.leases)
  | pinned (i : String) (c : ResourceConstraints)
      (h : l.leases = updWhere (fun y => y.id = i) (Lease.repinned c) b.ledger.leases)

/-- A deed on file is that of a row. -/
theorem kind_of_mem_deeds {l : Ledger} {x : Lease} (h : x.deed ∈ l.deeds) :
    ∃ y ∈ l.leases, y.id = x.id ∧ y.kind = x.kind := by
  obtain ⟨y, hy, he⟩ := List.mem_map.1 h
  have hid := congrArg Lease.id he
  have hkind := congrArg Lease.kind he
  exact ⟨y, hy, hid, hkind⟩

/-- Deeds that stay keep the rows and their kinds. -/
theorem kinds_of_deeds {l l' : Ledger} (h : l'.deeds = l.deeds) {x : Lease} (hx : x ∈ l.leases) :
    ∃ y ∈ l'.leases, y.id = x.id ∧ y.kind = x.kind :=
  kind_of_mem_deeds (h ▸ List.mem_map_of_mem hx)

/-! ## Writes -/

section

variable {l l' : Ledger}

theorem Keeps.deeds (k : Keeps l l') : l'.deeds = l.deeds := k.keys.deeds

theorem Closing.deeds (k : Closing l l') : l'.deeds = l.deeds := k.keys.deeds

theorem deeds_editLease {i : String} {f : Lease → Lease} (hf : ∀ x, (f x).deed = x.deed) :
    (l.editLease i f).deeds = l.deeds := map_updWhere _ hf

@[simp] theorem deeds_endLease (i : String) (st : LeaseState) (reason : Option String)
    (now : Time) : (l.endLease i st reason now).deeds = l.deeds :=
  (sameKeys_endLease i st reason now).deeds

@[simp] theorem deeds_settleCards (i : String) (gpuIds : List String) (reason releasedBy : String)
    (now : Time) : (l.settleCards i gpuIds reason releasedBy now).deeds = l.deeds :=
  (sameKeys_settleCards i gpuIds reason releasedBy now).deeds

theorem leases_remember (actor : ActorContext) (action : String) (key : Option String)
    (r : Response) (now : Time) : (l.remember actor action key r now).leases = l.leases := by
  obtain ⟨_, h⟩ := remember_eq l actor action key r now
  rw [h]

@[simp] theorem deeds_remember (actor : ActorContext) (action : String) (key : Option String)
    (r : Response) (now : Time) : (l.remember actor action key r now).deeds = l.deeds := by
  unfold Ledger.deeds
  rw [leases_remember]

theorem deeds_settleOn (b : Broker) (i endpointId reason actorId : String) (now : Time) :
    (b.settleOn i endpointId reason actorId now).deeds = b.ledger.deeds := by
  unfold Broker.settleOn
  simp only
  split
  · exact (deeds_editLease (f := Lease.ended .released (some reason) now) fun _ => rfl).trans
      (deeds_settleCards _ _ _ _ _)
  · exact deeds_settleCards _ _ _ _ _

theorem deeds_settleLeasesForDeleted (b : Broker) (endpointId actorId : String) (now : Time) :
    (b.settleLeasesForDeleted endpointId actorId now).ledger.deeds = b.ledger.deeds := by
  unfold Broker.settleLeasesForDeleted
  apply Run.foldl_inv (I := fun s : Broker => s.ledger.deeds = b.ledger.deeds) _ rfl
  intro s i _ hs
  exact (deeds_settleOn s i endpointId _ actorId now).trans hs

theorem deeds_released (b : Broker) (lease : Lease) (reason : String) (token : String → String)
    (now : Time) : (b.released lease reason token now).ledger.deeds = b.ledger.deeds := by
  unfold Broker.released
  simp only
  split <;> exact deeds_endLease (l := b.ledger.bumpRevision) _ _ _ _

theorem deeds_pluginReleased (l : Ledger) (a : ResourceAllocation) (error : Option String)
    (now : Time) : (l.pluginReleased a error now).deeds = l.deeds := by
  unfold Ledger.pluginReleased Ledger.endReleased
  simp only
  split
  · exact deeds_endLease (l := l.editAllocations _ _) _ _ _ _
  · rfl

theorem deeds_returnCards (i : String) (gpuIds : List String) (releasedBy : String) (now : Time) :
    (l.returnCards i gpuIds releasedBy now).deeds = l.deeds := by
  unfold Ledger.returnCards
  split
  · rfl
  · exact deeds_settleCards _ _ _ _ _

theorem deeds_resized (b : Broker) (lease : Lease) (raise : Bool) (token : String → String)
    (now : Time) : (b.resized lease raise token now).ledger.deeds = b.ledger.deeds := by
  unfold Broker.resized
  simp only
  split
  · exact deeds_editLease (l := b.ledger) (f := Lease.raised) fun _ => rfl
  · rfl

/-- Each target's keeper is confirmed, or inserted as a keeper of nobody's. -/
theorem deeds_activateKeepers (cfg : Config) (endpointId actorId : String) (token : String → String)
    (now : Time) (ts : List (GPUDevice × Option Lease)) (l : Ledger) :
    ∃ new : List Lease, (∀ x ∈ new, x.kind = .keepalive ∧ x.projectId = systemId ∧
        x.ownerSessionId = none) ∧
      (ts.foldl (Ledger.activateKeeper cfg endpointId actorId token now) l).deeds =
        l.deeds ++ new.map Lease.deed := by
  induction ts generalizing l with
  | nil => exact ⟨[], by simp, (List.append_nil _).symm⟩
  | cons t ts ih =>
    obtain ⟨new, hn, h⟩ := ih (l.activateKeeper cfg endpointId actorId token now t)
    rw [List.foldl_cons, h]
    cases ht : t.2 with
    | some x =>
      have hx : (l.activateKeeper cfg endpointId actorId token now t).deeds = l.deeds := by
        unfold Ledger.activateKeeper
        rw [ht]
        exact deeds_editLease (l := l) (f := Lease.keeperConfirmed now) fun _ => rfl
      exact ⟨new, hn, by rw [hx]⟩
    | none =>
      set k := keeperLease cfg (token t.1.id) endpointId t.1.id now l.revision
      have hx : (l.activateKeeper cfg endpointId actorId token now t).deeds =
          l.deeds ++ [k.deed] := by
        unfold Ledger.activateKeeper
        rw [ht]
        exact List.map_append
      refine ⟨k :: new, fun y hy => ?_, by rw [hx, List.append_assoc]; rfl⟩
      rcases List.mem_cons.1 hy with rfl | hy
      · exact ⟨rfl, rfl, rfl⟩
      · exact hn y hy

end

/-- A claim under a new id appends its lease, with its owner set. -/
theorem leases_claimed {b : Broker} {actor : ActorContext} {persistent : Bool} {lease : Lease}
    {c : ResourceConstraints} {gpus : List GPUDevice} {token : String → String} {d : Details}
    {now : Time} (hfresh : lease.id ∉ b.ledger.leases.map Lease.id) :
    (b.claimed actor persistent lease c gpus token d now).ledger.leases =
      b.ledger.leases ++ [lease.claimedBy actor persistent] := by
  have hold : updWhere (fun y => decide (y.id = lease.id)) (Lease.claimedBy actor persistent)
      b.ledger.leases = b.ledger.leases := by
    apply updWhere_of_none
    intro y hy
    simpa using fun he : y.id = lease.id => hfresh (he ▸ List.mem_map_of_mem hy)
  have hnew : updWhere (fun y => decide (y.id = lease.id)) (Lease.claimedBy actor persistent)
      [lease] = [lease.claimedBy actor persistent] := by
    simp [updWhere]
  have hl : (b.claimed actor persistent lease c gpus token d now).ledger.leases =
      updWhere (fun y => decide (y.id = lease.id)) (Lease.claimedBy actor persistent)
        (b.ledger.leases ++ [lease]) := rfl
  rw [hl, updWhere_append, hold, hnew]

/-! ## Every transaction -/

section

variable {cfg : Config} {op : Op} {b b' : Broker} {resp : Response}

/-- An observation leaves every deed. -/
theorem deeds_ingested (cfg : Config) (now : Time) (token : String → String → String)
    (hb : Intact b) (o : EndpointObservation) :
    (b.ingested cfg now o token).1.ledger.deeds = b.ledger.deeds := by
  have hc := (beforePass_closing cfg now hb.leasePk o).deeds
  have hs := (pass_sweep cfg now token b o).keys.deeds
  exact (auditRecovery_keeps _ _ _).deeds.trans (hs.trans hc)

/-- **Everything a transaction can do to the deeds.** -/
theorem apply_deeds (hb : Intact b) (h : op.apply cfg b = .ok (b', resp)) :
    Deeds b op b'.ledger := by
  have same : ∀ {x : Broker}, x = b → Deeds b op x.ledger := fun hx => .kept (by rw [hx])
  cases op with
  | createRequest now actor r key persistent leaseId token =>
    rcases createRequest_ok h with h | ⟨b₀, revision, gpus, d, hrows, -, hi, rfl⟩
    · exact same h
    · set x := claimedLease leaseId actor r now revision
      have hn := hi.leasePk
      simp only [leases_remember, ids_claimed] at hn
      have hfresh : x.id ∉ b₀.ledger.leases.map Lease.id := fun hm =>
        (List.nodup_append.1 hn).2.2 _ hm _ (List.mem_singleton_self _) rfl
      have hl : (b₀.claimed actor persistent x r.constraints gpus token d now).ledger.leases =
          b₀.ledger.leases ++ [x.claimedBy actor persistent] := leases_claimed hfresh
      rw [hrows.leases] at hl
      refine .drawn [x.claimedBy actor persistent] (fun y hy => ?_) ?_
      · obtain rfl := List.mem_singleton.1 hy
        exact ⟨rfl, rfl, rfl, rfl⟩
      · rw [deeds_remember]
        unfold Ledger.deeds
        rw [hl]
        exact List.map_append
  | resizeLease now actor leaseId addRequest removeGpuIds expectedEpoch token =>
    obtain ⟨lease, taken, added, d, -, -, -, -, -, -, -, hadd, -, -, rfl⟩ := resizeLease_ok h
    have ht : taken.ledger.deeds = b.ledger.deeds := by
      rcases addCards_ok hadd with ⟨-, rfl, -⟩ | ⟨-, -, -, rfl⟩
      · exact deeds_returnCards _ _ _ _
      · exact deeds_returnCards _ _ _ _
    exact .kept ((deeds_resized taken lease _ token now).trans ht)
  | releaseLease =>
    rcases releaseLease_ok h with h | ⟨lease, -, -, -, -, d, rfl⟩
    · exact same h
    · exact .kept ((deeds_remember _ _ _ _ _).trans (deeds_released b lease _ _ _))
  | reassignLeaseGpus now actor leaseId =>
    rcases reassignLeaseGpus_ok h with h | ⟨lease, targets, c, d, -, -, -, -, -, -, -, -, -, rfl⟩
    · exact same h
    · exact .pinned lease.id _ (leases_remember _ _ _ _ _)
  | takeOverLease now actor =>
    obtain ⟨lease, session, l, d, hm, hk, hl, -, rfl⟩ := takeOverLease_ok h
    obtain ⟨projects, rfl⟩ := takeoverProject_ok hl
    exact .handed rfl lease actor session _ now hm hk rfl
  | leaseView => exact .kept (leaseView_keeps h).2.deeds
  | recordLeaseHeartbeat =>
    rcases recordLeaseHeartbeat_ok h with h | ⟨-, rfl⟩
    exacts [same h, .kept (heartbeat_keeps _ _ _ _ _ _).2.deeds]
  | bindObservedWorkload => exact .kept (bindObservedWorkload_keeps h).2.deeds
  | releaseEmptyConflictedLease =>
    rcases releaseEmptyConflictedLease_ok h with h | ⟨lease, -, -, -, -, rfl⟩
    · exact same h
    · exact .kept ((deeds_remember _ _ _ _ _).trans
        (deeds_settleOn ⟨b.plant, b.ledger.bumpRevision⟩ _ _ _ _ _))
  | activateKeepalives now actor endpointId =>
    rcases activateKeepalives_ok h with h | ⟨targets, ps, -, -, -, -, -, -, rfl⟩
    · exact same h
    · obtain ⟨new, hn, hd⟩ := deeds_activateKeepers cfg endpointId actor.id _ now targets
        b.ledger.bumpRevision
      exact .drawn new hn ((deeds_remember _ _ _ _ _).trans hd)
  | finalizeKeepaliveStop =>
    rcases finalizeKeepaliveStop_ok h with h | ⟨lease, g, ps, -, -, -, -, -, -, -, rfl⟩
    · exact same h
    · exact .kept ((deeds_remember _ _ _ _ _).trans
        (deeds_endLease (l := b.ledger.bumpRevision) _ _ _ _))
  | setKeepaliveError =>
    obtain ⟨rfl, -, -⟩ := finish_ok.1 h
    exact .kept rfl
  | finishKeepaliveCleanup =>
    obtain ⟨rfl, -, -⟩ := finish_ok.1 h
    exact .kept (finishCleanup_keeps _ _ _).deeds
  | configureKeepalivePolicy =>
    rcases configureKeepalivePolicy_ok h with h | ⟨e, changed, -, -, rfl⟩
    · exact same h
    · exact .kept ((deeds_remember _ _ _ _ _).trans (policyConfigured_keeps b e _ _ _).deeds)
  | ingestObservation =>
    rcases ingestObservation_ok h with h | ⟨-, -, rfl⟩
    exacts [same h, .kept (deeds_ingested cfg _ _ hb _)]
  | recordProviderFailure =>
    obtain ⟨-, first, rfl⟩ := recordProviderFailure_ok h
    exact .kept (providerFailed_keeps _ _ _ _).deeds
  | pruneExpired =>
    obtain ⟨rfl, -, -⟩ := finish_ok.1 h
    exact .kept rfl
  | createServerGroup =>
    rcases createServerGroup_ok h with h | ⟨-, rfl⟩
    exacts [same h, .kept (deeds_remember _ _ _ _ _)]
  | createEndpoint =>
    rcases createEndpoint_ok h with h | ⟨-, rfl⟩
    exacts [same h, .kept (deeds_remember _ _ _ _ _)]
  | updateEndpoint =>
    rcases updateEndpoint_ok h with h | ⟨e, -, -, rfl⟩
    · exact same h
    · exact .kept ((deeds_remember _ _ _ _ _).trans (endpointUpdated_keeps b e _ _).deeds)
  | deleteEndpoint =>
    rcases deleteEndpoint_ok h with h | ⟨-, -, rfl⟩
    · exact same h
    · refine .kept ((deeds_remember _ _ _ _ _).trans ?_)
      unfold Broker.endpointDeleted
      simp only
      split
      · exact deeds_settleLeasesForDeleted b _ _ _
      · rfl
  | claimPrepare => exact .kept (claimPrepare_keeps h).2.deeds
  | claimFailed | claimRemember | markAllocation =>
    obtain ⟨-, -, rfl⟩ := writeAllocation_ok h
    exact .kept rfl
  | claimFinish now actor r key allocationId leaseId =>
    obtain ⟨a, -, -, rfl⟩ := claimFinish_ok h
    refine .drawn [delegatedLease leaseId actor r a.expiresAt now b.ledger.bumpRevision.revision]
      (fun x hx => ?_) ((deeds_remember _ _ _ _ _).trans List.map_append)
    obtain rfl := List.mem_singleton.1 hx
    exact ⟨rfl, rfl, rfl, rfl⟩
  | finishPluginRelease =>
    rcases finishPluginRelease_ok h with h | ⟨a, -, -, rfl⟩
    exacts [same h, .kept (deeds_pluginReleased _ _ _ _)]

/-- A lease row stays, with its kind. -/
theorem Deeds.kind {l : Ledger} (d : Deeds b op l) {x : Lease} (hx : x ∈ b.ledger.leases) :
    ∃ y ∈ l.leases, y.id = x.id ∧ y.kind = x.kind := by
  have kept : x.deed ∈ l.deeds → ∃ y ∈ l.leases, y.id = x.id ∧ y.kind = x.kind :=
    kind_of_mem_deeds
  have hdeed : x.deed ∈ b.ledger.deeds := List.mem_map_of_mem hx
  have edited : ∀ {i : String} {f : Lease → Lease}, (∀ y, (f y).id = y.id ∧ (f y).kind = y.kind) →
      l.leases = updWhere (fun y => y.id = i) f b.ledger.leases →
        ∃ y ∈ l.leases, y.id = x.id ∧ y.kind = x.kind := by
    intro i f hf h
    by_cases hi : x.id = i
    · exact ⟨f x, h ▸ mem_updWhere.2 ⟨x, hx, Or.inl ⟨by simpa using hi, rfl⟩⟩, hf x⟩
    · exact ⟨x, h ▸ mem_updWhere.2 ⟨x, hx, Or.inr ⟨by simpa using hi, rfl⟩⟩, rfl, rfl⟩
  cases d with
  | kept h => exact kept (h ▸ hdeed)
  | drawn new _ h => exact kept (h ▸ List.mem_append_left _ hdeed)
  | handed _ y actor session projectId now _ _ h =>
    exact edited (f := Lease.takenOver actor session projectId now) (fun _ => ⟨rfl, rfl⟩) h
  | pinned i c h => exact edited (f := Lease.repinned c) (fun _ => ⟨rfl, rfl⟩) h

end

/-! ## Owners -/

/-- Only workloads have owners. -/
def OwnersWork (l : Ledger) : Prop :=
  ∀ x ∈ l.leases, x.ownerSessionId.isSome = true → x.kind = .workload

section

variable {cfg : Config} {op : Op} {b : Broker} {l : Ledger}

theorem ownersWork_iff : OwnersWork l ↔
    ∀ x ∈ l.deeds, x.ownerSessionId.isSome = true → x.kind = .workload := by
  unfold Ledger.deeds
  rw [List.forall_mem_map]
  rfl

theorem Op.draws_owner {x : Lease} (h : op.draws x) (ho : x.ownerSessionId.isSome = true) :
    x.kind = .workload := by
  unfold Op.draws at h
  split at h
  · exact h.1
  · exact h.1
  · rw [h.2.2] at ho
    cases ho
  · exact h.elim

theorem Deeds.ownersWork (d : Deeds b op l) (hb : OwnersWork b.ledger)
    (hn : (b.ledger.leases.map Lease.id).Nodup) : OwnersWork l := by
  cases d with
  | kept h => exact ownersWork_iff.2 (h ▸ ownersWork_iff.1 hb)
  | drawn new hnew h =>
    refine ownersWork_iff.2 fun x hx => ?_
    rw [h] at hx
    rcases List.mem_append.1 hx with hx | hx
    · exact ownersWork_iff.1 hb x hx
    · obtain ⟨y, hy, rfl⟩ := List.mem_map.1 hx
      exact fun ho => Op.draws_owner (x := y) (hnew y hy) ho
  | handed _ x actor session projectId now hx hk h =>
    intro y hy ho
    rw [h] at hy
    obtain ⟨z, hz, ⟨hid, rfl⟩ | ⟨-, rfl⟩⟩ := mem_updWhere.1 hy
    · have he : z = x := List.inj_on_of_nodup_map hn hz hx (by simpa using hid)
      exact he ▸ hk
    · exact hb y hz ho
  | pinned i c h =>
    intro y hy ho
    rw [h] at hy
    obtain ⟨z, hz, ⟨-, rfl⟩ | ⟨-, rfl⟩⟩ := mem_updWhere.1 hy
    · exact hb z hz ho
    · exact hb y hz ho

theorem exec_ownersWork (hk : Kept b) (op : Op) (hb : OwnersWork b.ledger) :
    OwnersWork (exec cfg b op).ledger := by
  rcases exec_cases cfg b op with ⟨b', r, h, he⟩ | ⟨-, he⟩
  · rw [he]
    exact (apply_deeds hk.intact h).ownersWork hb hk.intact.leasePk
  · rwa [he]

/-- **Only a workload has an owner**, in every run. -/
theorem Reachable.ownersWork (h : Reachable cfg b) : OwnersWork b.ledger := by
  obtain ⟨b₀, hs, ops, rfl⟩ := h
  have h₀ : Kept b₀ ∧ OwnersWork b₀.ledger :=
    ⟨hs.kept, fun x hx => by rw [hs.leases] at hx; cases hx⟩
  have hstep : ∀ (s : Broker) (op : Op), Kept s ∧ OwnersWork s.ledger →
      Kept (exec cfg s op) ∧ OwnersWork (exec cfg s op).ledger :=
    fun s op hs => ⟨exec_kept cfg s op hs.1, exec_ownersWork hs.1 op hs.2⟩
  exact (Run.run_inv' hstep h₀).2

end

end ServerPilot
