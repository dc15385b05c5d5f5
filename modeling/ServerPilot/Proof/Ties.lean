import ServerPilot.Proof.Provided

/-!
# Whose an allocation is

An allocation row names a lease when the lease's cards are written down, or when a
claim at a provider is finished; both lease workloads. So a keeper never has an
allocation, `Reachable.tied`.
-/

namespace ServerPilot

open Rows Checked

/-- The leases that allocations name. -/
def Ledger.tied (l : Ledger) : List String := l.allocations.filterMap ResourceAllocation.leaseId

/-- Lease `id` is a workload's. -/
def Ledger.works (l : Ledger) (id : String) : Prop := ∃ x ∈ l.leases, x.id = id ∧ x.kind = .workload

/-- Allocations name no more leases than before, but for those in `S`. -/
def Ties (S : String → Prop) (l l' : Ledger) : Prop := ∀ id ∈ l'.tied, id ∈ l.tied ∨ S id

/-- Every allocation that names a lease names a workload's. -/
def TiedToWork (l : Ledger) : Prop := ∀ id ∈ l.tied, l.works id

theorem mem_tied {l : Ledger} {id : String} :
    id ∈ l.tied ↔ ∃ a ∈ l.allocations, a.leaseId = some id := List.mem_filterMap

/-! ## Writes -/

section

variable {S : String → Prop} {l l' l'' : Ledger}

theorem Ties.of_eq (h : l'.allocations = l.allocations) : Ties S l l' := by
  intro id hid
  unfold Ledger.tied at hid ⊢
  exact Or.inl (h ▸ hid)

theorem Ties.of_accounts (h : l'.accounts = l.accounts) : Ties S l l' :=
  .of_eq (congrArg Prod.fst h)

theorem Ties.trans (h : Ties S l l') (h' : Ties S l' l'') : Ties S l l'' := by
  intro id hid
  rcases h' id hid with hid | hS
  · exact h id hid
  · exact Or.inr hS

/-- An edit that leaves the column alone. -/
theorem Ties.of_edit {q : ResourceAllocation → Bool} {f : ResourceAllocation → ResourceAllocation}
    (h : l'.allocations = updWhere q f l.allocations)
    (hf : ∀ a, (f a).leaseId = a.leaseId) : Ties S l l' := by
  intro id hid
  obtain ⟨a', ha', hl⟩ := mem_tied.1 hid
  rw [h] at ha'
  obtain ⟨a, ha, ⟨-, rfl⟩ | ⟨-, rfl⟩⟩ := mem_updWhere.1 ha'
  · have hsame : a.leaseId = some id := (hf a).symm.trans hl
    exact Or.inl (mem_tied.2 ⟨a, ha, hsame⟩)
  · exact Or.inl (mem_tied.2 ⟨a', ha, hl⟩)

/-- The broker's own allocations name the lease they are written for. -/
theorem ties_syncDirect (b : Broker) (lease : Lease) (gpus : List GPUDevice)
    (token : String → String) (now : Time) (hS : S lease.id) :
    Ties S b.ledger (b.syncDirectAllocations lease gpus token now).ledger := by
  intro id hid
  obtain ⟨a', ha', hl⟩ := mem_tied.1 hid
  unfold Broker.syncDirectAllocations at ha'
  rcases List.mem_append.1 ha' with ha' | ha'
  · obtain ⟨a, ha, ⟨-, rfl⟩ | ⟨-, rfl⟩⟩ := mem_updWhere.1 ha'
    · exact Or.inl (mem_tied.2 ⟨a, ha, hl⟩)
    · exact Or.inl (mem_tied.2 ⟨a', ha, hl⟩)
  · obtain ⟨e, -, rfl⟩ := List.mem_map.1 ha'
    have hid : some lease.id = some id := hl
    exact Or.inr (Option.some.inj hid ▸ hS)

theorem ties_released (b : Broker) (lease : Lease) (reason : String) (token : String → String)
    (now : Time) (hS : S lease.id) :
    Ties S b.ledger (b.released lease reason token now).ledger := by
  have hended : Ties S b.ledger
      (b.ledger.bumpRevision.endLease lease.id .released (some reason) now) := .of_eq rfl
  unfold Broker.released
  simp only
  split
  · exact hended
  · exact hended.trans (ties_syncDirect
      ⟨b.plant, b.ledger.bumpRevision.endLease lease.id .released (some reason) now⟩
      (lease.ended .released (some reason) now) [] token now hS)

end

/-! ## Observations -/

section

variable {cfg : Config} {now : Time} {actorId : String} {S : String → Prop} {s : Pass}

theorem ties_reconcileIdleLease (b : Broker) (token : String → String) (lease : Lease)
    (hS : S lease.id) :
    Ties S b.ledger (b.reconcileIdleLease cfg now actorId token lease).ledger := by
  unfold Broker.reconcileIdleLease
  simp only
  split
  · exact .of_eq rfl
  split
  · exact .of_eq rfl
  · have hsettled : Ties S b.ledger (b.settleReclaimed cfg now actorId lease) := by
      refine .of_eq ?_
      unfold Broker.settleReclaimed
      simp only
      split <;> rfl
    have hrow : (((b.settleReclaimed cfg now actorId lease).lease? lease.id).getD lease).id =
        lease.id := by
      cases h : (b.settleReclaimed cfg now actorId lease).lease? lease.id with
      | none => rfl
      | some x => exact lease?_id h
    exact hsettled.trans (ties_syncDirect ⟨b.plant, b.settleReclaimed cfg now actorId lease⟩ _ _ _ _
      (hrow.symm ▸ hS))

theorem ties_reconcileDirect (token : String → String) (lease : Lease) (hS : S lease.id) :
    Ties S s.1.ledger (reconcileDirect cfg now actorId token lease s).1.ledger := by
  have hi : Ties S s.1.ledger (s.1.reconcileIdleLease cfg now actorId token lease).ledger :=
    ties_reconcileIdleLease s.1 token lease hS
  unfold reconcileDirect
  simp only
  split
  · split
    · exact hi
    · split
      · exact hi
      · exact hi.trans (.of_accounts (reconcileExpiry_accounts _ _))
  · exact .of_eq rfl

theorem ties_reconcileAllocation {lease : Lease} {a : ResourceAllocation}
    (ha : a ∈ s.1.ledger.allocations) :
    Ties S s.1.ledger (reconcileAllocation cfg now lease a s).1.ledger := by
  have hlook : ∀ x : ResourceAllocation, x.leaseId = a.leaseId →
      Ties S s.1.ledger (s.1.ledger.editAllocations (fun y => y.id = a.id) fun _ => x) := by
    intro x hx id hid
    obtain ⟨a', ha', hl⟩ := mem_tied.1 hid
    obtain ⟨y, hy, ⟨-, rfl⟩ | ⟨-, rfl⟩⟩ := mem_updWhere.1 ha'
    · exact Or.inl (mem_tied.2 ⟨a, ha, hx.symm.trans hl⟩)
    · exact Or.inl (mem_tied.2 ⟨a', hy, hl⟩)
  unfold reconcileAllocation
  simp only
  split
  · exact .of_eq rfl
  split
  · exact hlook _ rfl
  split
  · exact hlook _ rfl
  · exact hlook _ rfl

/-- A visit names its own lease at most, and that only when it is a workload's. -/
theorem ties_reconcileLease (token : String → String → String) (i : String)
    (hS : ∀ id, s.1.ledger.works id → S id) :
    Ties S s.1.ledger (reconcileLease cfg now actorId token s i).1.ledger := by
  unfold reconcileLease
  split
  · exact .of_eq rfl
  · rename_i lease hl
    split
    · exact .of_eq rfl
    · rename_i hkind
      have hwork : S lease.id := by
        refine hS _ ⟨lease, lease?_mem hl, rfl, ?_⟩
        cases hk : lease.kind with
        | workload => rfl
        | keepalive => exact absurd hk hkind
      split
      · rename_i a ha
        exact ties_reconcileAllocation (List.mem_of_mem_filter (List.mem_of_find?_eq_some ha))
      · exact ties_reconcileDirect _ _ hwork

/-- Which leases work is a matter of their deeds. -/
theorem works_of_deeds {l l' : Ledger} (h : l'.deeds = l.deeds) {id : String} :
    l'.works id ↔ l.works id := by
  have hdeeds : ∀ m : Ledger, m.works id ↔ ∃ x ∈ m.deeds, x.id = id ∧ x.kind = .workload := by
    intro m
    unfold Ledger.works Ledger.deeds
    simp only [List.mem_map, exists_exists_and_eq_and, deed_id, deed_kind]
  rw [hdeeds, hdeeds, h]

theorem ties_ingested (hb : Intact b) (o : EndpointObservation)
    (token : String → String → String) :
    Ties b.ledger.works b.ledger (b.ingested cfg now o token).1.ledger := by
  have habsorb : Ties b.ledger.works b.ledger (b.absorb cfg now o).ledger := by
    intro id hid
    obtain ⟨a', ha', hl⟩ := mem_tied.1 hid
    obtain ⟨a, ha, hr⟩ := exists_of_forall₂ (absorb_heard cfg now hb.allocationPk o).1 ha'
    refine Or.inl (mem_tied.2 ⟨a, ha, ?_⟩)
    rcases hr with rfl | ⟨-, hheard⟩
    · exact hl
    · exact hheard.same.leaseId.symm.trans hl
  have hpass : Ties b.ledger.works (b.absorb cfg now o).ledger
      ((b.absorb cfg now o).reconcileLeases cfg now ("collector:" ++ o.endpointId) token).1.ledger ∧
      ((b.absorb cfg now o).reconcileLeases cfg now ("collector:" ++ o.endpointId)
        token).1.ledger.deeds = b.ledger.deeds := by
    unfold Broker.reconcileLeases
    apply Run.foldl_inv (I := fun s : Pass => Ties b.ledger.works (b.absorb cfg now o).ledger
      s.1.ledger ∧ s.1.ledger.deeds = b.ledger.deeds)
    · intro s i _ ⟨ht, hd⟩
      have hworks : ∀ id, s.1.ledger.works id → b.ledger.works id :=
        fun id => (works_of_deeds hd).1
      refine ⟨ht.trans (ties_reconcileLease token i hworks), ?_⟩
      exact (reconcileLease_visit i).keys.deeds.trans hd
    · exact ⟨.of_accounts (normalizeConflicts_accounts _),
        (beforePass_closing cfg now hb.leasePk o).deeds⟩
  have hlast : Ties b.ledger.works
      ((b.absorb cfg now o).reconcileLeases cfg now ("collector:" ++ o.endpointId) token).1.ledger
      (b.ingested cfg now o token).1.ledger := by
    refine .of_eq ?_
    unfold Broker.ingested Ledger.auditRecovery
    simp only
    split <;> rfl
  exact habsorb.trans (hpass.1.trans hlast)

end

/-! ## Every transaction -/

section

variable {cfg : Config} {op : Op} {b b' : Broker} {resp : Response}

/-- A lease row stays a workload's. -/
theorem works_apply (hb : Intact b) (h : op.apply cfg b = .ok (b', resp)) {id : String}
    (hid : b.ledger.works id) : b'.ledger.works id := by
  obtain ⟨x, hx, rfl, hw⟩ := hid
  obtain ⟨y, hy, hid, hkind⟩ := (apply_deeds hb h).kind hx
  exact ⟨y, hy, hid, hkind.trans hw⟩

/-- A prepared claim names no lease yet. -/
theorem ties_claimPrepare {S : String → Prop} {now : Time} {actor : ActorContext}
    {r : RequestCreate} {key : Option String} {endpointId token : String} {plugin : Plugin}
    (h : claimPrepare now actor r key endpointId plugin token b = .ok (b', resp)) :
    Ties S b.ledger b'.ledger := by
  rcases claimPrepare_ok h with rfl | ⟨projects, filed, -, -, hnew⟩
  · exact .of_eq rfl
  · have hretired : Ties S b.ledger (({ b.ledger with projects } : Ledger).retireEnded
        (key.filter fun k => k ≠ "") filed) := by
      unfold Ledger.retireEnded
      split
      · exact .of_edit rfl fun _ => rfl
      · exact .of_eq rfl
    rcases hnew with ⟨a, -, -, rfl⟩ | ⟨-, -, rfl⟩
    · exact hretired
    · intro id hid
      obtain ⟨a, ha, hl⟩ := mem_tied.1 hid
      rcases List.mem_append.1 ha with ha | ha
      · exact hretired id (mem_tied.2 ⟨a, ha, hl⟩)
      · obtain rfl := List.mem_singleton.1 ha
        cases hl

/-- **What a transaction ties allocations to**: to the leases of workloads. -/
theorem apply_ties (hb : Intact b) (h : op.apply cfg b = .ok (b', resp)) :
    Ties b'.ledger.works b.ledger b'.ledger := by
  have hworks : ∀ {id}, b.ledger.works id → b'.ledger.works id := works_apply hb h
  have back : ∀ {x : Broker}, x = b → Ties b'.ledger.works b.ledger x.ledger :=
    fun hx => .of_eq (by rw [hx])
  have rem : ∀ {l : Ledger} {actor : ActorContext} {action : String} {key : Option String}
      {r : Response} {now : Time}, Ties b'.ledger.works b.ledger l →
        Ties b'.ledger.works b.ledger (l.remember actor action key r now) :=
    fun hl => hl.trans (.of_accounts (remember_accounts _ _ _ _ _ _))
  by_cases hbooks : op.books = false
  · exact .of_accounts (apply_accounts h hbooks)
  cases op with
  | createRequest now actor r key persistent leaseId token =>
    rcases createRequest_ok h with h | ⟨b₀, revision, gpus, d, hrows, -, hi, hb'⟩
    · exact back h
    · set x := claimedLease leaseId actor r now revision
      have hnew : b'.ledger.works x.id := by
        have hn := hi.leasePk
        rw [hb', leases_remember, ids_claimed] at hn
        have hfresh : x.id ∉ b₀.ledger.leases.map Lease.id := fun hm =>
          (List.nodup_append.1 hn).2.2 _ hm _ (List.mem_singleton_self _) rfl
        refine ⟨x.claimedBy actor persistent, ?_, rfl, rfl⟩
        rw [hb', leases_remember, leases_claimed hfresh]
        exact List.mem_append_right _ (List.mem_singleton_self _)
      have hsync : Ties b'.ledger.works b.ledger
          (b₀.claimed actor persistent x r.constraints gpus token d now).ledger := by
        have hins : Ties b'.ledger.works b.ledger (b₀.ledger.insertLease x (gpus.map GPUDevice.id)
            (commitmentsFor x.id r.constraints (endpointsOf gpus) now)) := .of_eq hrows.allocations
        exact hins.trans (ties_syncDirect ⟨b₀.plant, b₀.ledger.insertLease x
          (gpus.map GPUDevice.id) (commitmentsFor x.id r.constraints (endpointsOf gpus) now)⟩ x gpus
            token now hnew)
      rw [hb'] at hsync ⊢
      exact hsync.trans (.of_accounts (remember_accounts _ _ _ _ _ _))
  | resizeLease now actor leaseId addRequest removeGpuIds expectedEpoch token =>
    obtain ⟨lease, taken, added, d, hl, hw, -, -, -, -, -, hadd, -, -, rfl⟩ := resizeLease_ok h
    have ht := addCards_accounts hadd
    have hlease : (if decide (b.returnedCards leaseId removeGpuIds = []) = true then
        taken.ledger.editLease lease.id Lease.raised else taken.ledger).accounts =
          b.ledger.accounts := by
      split <;> exact ht
    exact Ties.trans (.of_accounts hlease) (ties_syncDirect ⟨_, _⟩ lease _ token now
      (hworks ⟨lease, lease?_mem hl, rfl, hw⟩))
  | releaseLease now actor leaseId reason key override token =>
    rcases releaseLease_ok h with h | ⟨lease, hl, hw, -, -, d, rfl⟩
    · exact back h
    · exact rem (ties_released b lease _ token now (hworks ⟨lease, lease?_mem hl, rfl, hw⟩))
  | reassignLeaseGpus now actor leaseId gpuIds key override token =>
    rcases reassignLeaseGpus_ok h with h | ⟨lease, targets, c, d, hl, hw, -, -, -, -, -, -, -, rfl⟩
    · exact back h
    · have hwork := hworks ⟨lease, lease?_mem hl, rfl, hw⟩
      exact rem (ties_syncDirect ⟨_, _⟩ (lease.repinned _) targets token now hwork)
  | takeOverLease now actor =>
    obtain ⟨lease, session, l, d, -, -, hl, -, rfl⟩ := takeOverLease_ok h
    obtain ⟨projects, rfl⟩ := takeoverProject_ok hl
    exact .of_edit rfl fun _ => rfl
  | ingestObservation now o token =>
    rcases ingestObservation_ok h with h | ⟨-, hi, rfl⟩
    · exact back h
    · intro id hid
      exact (ties_ingested hb o token id hid).imp_right hworks
  | recordProviderFailure now endpointId =>
    obtain ⟨-, first, rfl⟩ := recordProviderFailure_ok h
    refine .of_edit (q := fun a => a.endpointId = endpointId)
      (f := fun a => { a with idleSince := none }) ?_ fun _ => rfl
    cases first <;> rfl
  | deleteEndpoint now actor endpointId =>
    rcases deleteEndpoint_ok h with h | ⟨-, -, rfl⟩
    · exact back h
    · have hd : (b.endpointDeleted endpointId actor.id (b.plant.endpointUnreachable cfg now
          endpointId) now).ledger.allocations = b.ledger.allocations.filter _ :=
        congrArg Prod.fst (endpointDeleted_accounts _ _ _ _ _)
      refine rem fun id hid => ?_
      obtain ⟨a, ha, hl⟩ := mem_tied.1 hid
      have ha : a ∈ b.ledger.allocations := List.mem_of_mem_filter (hd ▸ ha)
      exact Or.inl (mem_tied.2 ⟨a, ha, hl⟩)
  | claimPrepare now actor r key endpointId plugin token =>
    exact ties_claimPrepare h
  | claimFailed now allocationId rejected error =>
    obtain ⟨-, -, rfl⟩ := writeAllocation_ok h
    exact .of_edit rfl fun _ => rfl
  | claimRemember now allocationId fact =>
    obtain ⟨-, -, rfl⟩ := writeAllocation_ok h
    exact .of_edit rfl fun a => (recordFact_same a fact now).leaseId
  | markAllocation now allocationId released error =>
    obtain ⟨-, -, rfl⟩ := writeAllocation_ok h
    exact .of_edit rfl fun _ => rfl
  | claimFinish now actor r key allocationId leaseId =>
    obtain ⟨-, -, -, has, -, x, hx, hw, -, hl⟩ := claimFinish_ties h
    intro id hid
    obtain ⟨a', ha', hl'⟩ := mem_tied.1 hid
    rw [has] at ha'
    obtain ⟨a, ha, ⟨-, rfl⟩ | ⟨-, rfl⟩⟩ := mem_updWhere.1 ha'
    · have hid : some leaseId = some id := hl'
      have hmem : x ∈ b'.ledger.leases := hl ▸ List.mem_append_right _ (List.mem_singleton_self x)
      exact Or.inr ⟨x, hmem, hx.trans (Option.some.inj hid), hw⟩
    · exact Or.inl (mem_tied.2 ⟨a', ha, hl'⟩)
  | finishPluginRelease now allocationId error =>
    rcases finishPluginRelease_ok h with h | ⟨a, ha, -, rfl⟩
    · exact back h
    · exact .of_edit (pluginReleased_allocations b.ledger a error now) fun _ => rfl
  | _ => exact absurd rfl hbooks

/-- **Allocations name workloads**, in every run. -/
theorem Reachable.tied (h : Reachable cfg b) : TiedToWork b.ledger := by
  obtain ⟨b₀, hs, ops, rfl⟩ := h
  have h₀ : Kept b₀ ∧ TiedToWork b₀.ledger := by
    refine ⟨hs.kept, fun id hid => ?_⟩
    obtain ⟨a, ha, -⟩ := mem_tied.1 hid
    rw [hs.allocations] at ha
    cases ha
  have hstep : ∀ (s : Broker) (op : Op), Kept s ∧ TiedToWork s.ledger →
      Kept (exec cfg s op) ∧ TiedToWork (exec cfg s op).ledger := by
    intro s op hs
    refine ⟨exec_kept cfg s op hs.1, ?_⟩
    rcases exec_cases cfg s op with ⟨b', r, h, he⟩ | ⟨-, he⟩
    · rw [he]
      intro id hid
      rcases apply_ties hs.1.intact h id hid with hid | hid
      · exact works_apply hs.1.intact h (hs.2 id hid)
      · exact hid
    · rw [he]
      exact hs.2
  exact (Run.run_inv' hstep h₀).2

end

end ServerPilot
