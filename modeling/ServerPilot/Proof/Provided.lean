import ServerPilot.Lib.Tally
import ServerPilot.Proof.Deeds

/-!
# The allocations of providers

What transactions do to the allocations other than the broker's own: they are
filed by a claim, tied to its lease, and otherwise told about, row by row, by
their provider, `apply_follows`. A lease tied to one never holds a card of its
own, `Reachable.unplugged`.
-/

namespace ServerPilot

open Rows Checked

/-- The allocations of providers, and any that no lease has yet. -/
def Ledger.charged (l : Ledger) : List ResourceAllocation :=
  l.allocations.filter fun a => a.providerId ≠ "builtin" ∨ a.leaseId = none

/-- The allocations, and the projects they are charged to. -/
def Ledger.accounts (l : Ledger) : List ResourceAllocation × List Project :=
  (l.allocations, l.projects)

/-- The cards the provider says an allocation has. -/
def ResourceAllocation.gpuCount (a : ResourceAllocation) : ℕ :=
  (a.locations.map AllocationLocation.gpuCount).sum

/-- Whose the allocation is, and what it was asked for. -/
structure ResourceAllocation.Same (a a' : ResourceAllocation) : Prop where
  leaseId : a'.leaseId = a.leaseId
  providerId : a'.providerId = a.providerId
  request : a'.request = a.request

/-- The allocation takes no more than before: a lease's has no more cards, and one that no lease has
does not come back to life. -/
def ResourceAllocation.Lighter (a a' : ResourceAllocation) : Prop :=
  (a.leaseId ≠ none → a'.gpuCount ≤ a.gpuCount) ∧
    (a.leaseId = none → a'.state.terminal = false → a.state.terminal = false)

instance (a a' : ResourceAllocation) : Decidable (a.Lighter a') :=
  inferInstanceAs (Decidable ((_ → _) ∧ (_ → _ → _)))

/-- Every allocation of `l'` that is charged comes from one of `l` as `R` says. -/
abbrev Follows (R : ResourceAllocation → ResourceAllocation → Prop) (l l' : Ledger) : Prop :=
  List.SublistForall₂ (fun a' a => R a a') l'.charged l.charged

/-- The row as it was, as far as its charge goes. -/
structure ResourceAllocation.Quiet (a a' : ResourceAllocation) : Prop where
  same : a.Same a'
  lighter : a.Lighter a'

theorem ResourceAllocation.Same.refl (a : ResourceAllocation) : a.Same a := ⟨rfl, rfl, rfl⟩

theorem ResourceAllocation.Same.trans {a a' a'' : ResourceAllocation} (h : a.Same a')
    (h' : a'.Same a'') : a.Same a'' :=
  ⟨h'.leaseId.trans h.leaseId, h'.providerId.trans h.providerId, h'.request.trans h.request⟩

theorem ResourceAllocation.Lighter.refl (a : ResourceAllocation) : a.Lighter a :=
  ⟨fun _ => le_rfl, fun _ h => h⟩

theorem ResourceAllocation.Lighter.trans {a a' a'' : ResourceAllocation} (h : a.Lighter a')
    (h' : a'.Lighter a'') (hid : a'.leaseId = a.leaseId) : a.Lighter a'' := by
  refine ⟨fun hn => ?_, fun hn ht => ?_⟩
  · exact (h'.1 (hid ▸ hn)).trans (h.1 hn)
  · exact h.2 hn (h'.2 (hid ▸ hn) ht)

theorem ResourceAllocation.Quiet.refl (a : ResourceAllocation) : a.Quiet a := ⟨.refl a, .refl a⟩

theorem ResourceAllocation.Quiet.trans {a a' a'' : ResourceAllocation} (h : a.Quiet a')
    (h' : a'.Quiet a'') : a.Quiet a'' :=
  ⟨h.same.trans h'.same, h.lighter.trans h'.lighter h.same.leaseId⟩

section

variable {R Q S : ResourceAllocation → ResourceAllocation → Prop} {l l' l'' : Ledger}

theorem charged_congr (h : l'.accounts = l.accounts) : l'.charged = l.charged := by
  unfold Ledger.charged
  rw [show l'.allocations = l.allocations from congrArg Prod.fst h]

theorem Follows.of_eq (hr : ∀ a, R a a) (h : l'.charged = l.charged) : Follows R l l' := by
  unfold Follows
  rw [h]
  exact List.sublistForall₂_iff.2 ⟨_, List.forall₂_same.2 fun a _ => hr a, List.Sublist.refl _⟩

theorem Follows.trans (ht : ∀ a a' a'', R a a' → Q a' a'' → S a a'') (h : Follows R l l')
    (h' : Follows Q l' l'') : Follows S l l'' :=
  sublistForall₂_trans (fun a'' a' a hq hr => ht a a' a'' hr hq) h' h

/-- Rows that are told about one by one. -/
theorem Follows.of_forall₂ (hs : ∀ a a', R a a' → a.Same a')
    (h : List.Forall₂ R l.allocations l'.allocations) : Follows R l l' := by
  refine List.sublistForall₂_iff.2 ⟨_, List.rel_filter ?_ h.flip, List.Sublist.refl _⟩
  intro a' a hr
  have hsame := hs a a' hr
  simp only [hsame.leaseId, hsame.providerId]

/-- Rows that are deleted. -/
theorem Follows.of_filter (hr : ∀ a, R a a) {q : ResourceAllocation → Bool}
    (h : l'.allocations = l.allocations.filter q) : Follows R l l' := by
  refine List.sublistForall₂_iff.2 ⟨_, List.forall₂_same.2 fun a _ => hr a, ?_⟩
  unfold Ledger.charged
  rw [h]
  exact List.filter_sublist.filter _

/-- An edit of allocations. -/
theorem Follows.of_edit (hr : ∀ a, R a a) (hs : ∀ a a', R a a' → a.Same a')
    {q : ResourceAllocation → Bool} {f : ResourceAllocation → ResourceAllocation}
    (hf : ∀ a ∈ l.allocations, q a = true → R a (f a)) : Follows R l (l.editAllocations q f) :=
  .of_forall₂ hs (forall₂_updWhere (fun a _ => hr a) hf)

/-- The broker's own allocations of a lease are nobody's charge. -/
theorem charged_syncDirect (b : Broker) (lease : Lease) (gpus : List GPUDevice)
    (token : String → String) (now : Time) :
    (b.syncDirectAllocations lease gpus token now).ledger.charged = b.ledger.charged := by
  have hdirect : ∀ a, isDirectOf lease.id a = true →
      decide (a.providerId ≠ "builtin" ∨ a.leaseId = none) = false := by
    intro a ha
    obtain ⟨hl, hp⟩ := of_decide_eq_true ha
    simp [hl, hp]
  have hrefresh : ∀ a, (b.plant.refreshDirect lease gpus now a).leaseId = a.leaseId ∧
      (b.plant.refreshDirect lease gpus now a).providerId = a.providerId := fun _ => ⟨rfl, rfl⟩
  have hold : updWhere (isDirectOf lease.id) (b.plant.refreshDirect lease gpus now)
      b.ledger.charged = b.ledger.charged := by
    refine updWhere_of_none fun a ha => ?_
    by_contra hd
    have hc := (List.mem_filter.1 ha).2
    rw [hdirect a (by simpa using hd)] at hc
    cases hc
  unfold Ledger.charged Broker.syncDirectAllocations
  simp only [List.filter_append]
  rw [filter_updWhere _ fun a => by rw [(hrefresh a).1, (hrefresh a).2]]
  refine (congrArg₂ (· ++ ·) hold (List.filter_eq_nil_iff.2 fun a ha => ?_)).trans
    (List.append_nil _)
  obtain ⟨e, -, rfl⟩ := List.mem_map.1 ha
  simp [hrefresh, newDirect]

/-- Allocation ids only accumulate. -/
theorem ids_syncDirect (b : Broker) (lease : Lease) (gpus : List GPUDevice)
    (token : String → String) (now : Time) :
    List.Sublist (b.ledger.allocations.map ResourceAllocation.id)
      ((b.syncDirectAllocations lease gpus token now).ledger.allocations.map
        ResourceAllocation.id) := by
  unfold Broker.syncDirectAllocations
  simp only [List.map_append]
  rw [map_updWhere (f := b.plant.refreshDirect lease gpus now) _ fun _ => rfl]
  exact List.sublist_append_left _ _

end

/-! ## The pass -/

/-- What a visit does to the allocations: it may add to the broker's own, and leaves the charges. -/
structure Spares (l l' : Ledger) : Prop where
  ids : List.Sublist (l.allocations.map ResourceAllocation.id)
    (l'.allocations.map ResourceAllocation.id)
  follows : (l'.allocations.map ResourceAllocation.id).Nodup →
    Follows ResourceAllocation.Quiet l l'
  projects : l'.projects = l.projects

theorem Spares.of_eq {l l' : Ledger} (h : l'.accounts = l.accounts) : Spares l l' := by
  have has : l'.allocations = l.allocations := congrArg Prod.fst h
  exact ⟨by rw [has], fun _ => .of_eq .refl (charged_congr h), congrArg Prod.snd h⟩

theorem Spares.trans {l l' l'' : Ledger} (h : Spares l l') (h' : Spares l' l'') : Spares l l'' :=
  ⟨h.ids.trans h'.ids, fun hn => Follows.trans (R := ResourceAllocation.Quiet)
    (fun _ _ _ => ResourceAllocation.Quiet.trans) (h.follows (hn.sublist h'.ids)) (h'.follows hn),
    h'.projects.trans h.projects⟩

section

variable {cfg : Config} {now : Time} {actorId : String} {s : Pass}

theorem reconcileIdleLease_spares (b : Broker) (token : String → String) (lease : Lease) :
    Spares b.ledger (b.reconcileIdleLease cfg now actorId token lease).ledger := by
  unfold Broker.reconcileIdleLease
  simp only
  split
  · exact .of_eq rfl
  split
  · exact .of_eq rfl
  · have hsettled : Spares b.ledger (b.settleReclaimed cfg now actorId lease) := by
      refine .of_eq ?_
      unfold Broker.settleReclaimed
      simp only
      split <;> rfl
    refine hsettled.trans ⟨?_, fun _ => .of_eq .refl ?_, rfl⟩
    · exact ids_syncDirect ⟨b.plant, b.settleReclaimed cfg now actorId lease⟩ _ _ _ _
    · exact charged_syncDirect ⟨b.plant, b.settleReclaimed cfg now actorId lease⟩ _ _ _ _

theorem reconcileExpiry_accounts (processes : Bool) (lease : Lease) :
    (reconcileExpiry now actorId processes lease s).1.ledger.accounts =
      s.1.ledger.accounts := by
  unfold reconcileExpiry
  split
  · cases processes <;> rfl
  · rfl

theorem reconcileDirect_spares (token : String → String) (lease : Lease) :
    Spares s.1.ledger (reconcileDirect cfg now actorId token lease s).1.ledger := by
  unfold reconcileDirect
  simp only
  split
  · have hi : Spares s.1.ledger (s.1.reconcileIdleLease cfg now actorId token lease).ledger :=
      reconcileIdleLease_spares s.1 token lease
    split
    · exact hi
    · split
      · exact hi
      · exact hi.trans (.of_eq (reconcileExpiry_accounts _ _))
  · exact .of_eq rfl

/-- A look at an allocation moves its clock, and may ask for its release. -/
theorem reconcileAllocation_spares {lease : Lease} {a : ResourceAllocation}
    (ha : a ∈ s.1.ledger.allocations) :
    Spares s.1.ledger (reconcileAllocation cfg now lease a s).1.ledger := by
  have hlook : ∀ x : ResourceAllocation, a.Quiet x → x.id = a.id →
      Spares s.1.ledger (s.1.ledger.editAllocations (fun y => y.id = a.id) fun _ => x) := by
    intro x hx hid
    have hids : (s.1.ledger.editAllocations (fun y => y.id = a.id) fun _ => x).allocations.map
        ResourceAllocation.id = s.1.ledger.allocations.map ResourceAllocation.id := by
      unfold Ledger.editAllocations updWhere
      rw [List.map_map]
      refine List.map_congr_left fun y _ => ?_
      by_cases hy : y.id = a.id
      · simp [hy, hid]
      · simp [hy]
    refine ⟨by rw [hids], fun hn => .of_forall₂ (fun _ _ h => h.same)
      (forall₂_updWhere (fun y _ => .refl y) fun y hy hya => ?_), rfl⟩
    rw [hids] at hn
    have he : y = a := List.inj_on_of_nodup_map hn hy ha (of_decide_eq_true hya)
    exact he ▸ hx
  have hquiet : a.Quiet (a.look cfg now) := ⟨⟨rfl, rfl, rfl⟩, fun _ => le_rfl, fun _ h => h⟩
  unfold reconcileAllocation
  simp only
  split
  · exact .of_eq rfl
  split
  · exact hlook _ hquiet rfl
  split
  · rename_i hidle _
    refine hlook _ ⟨⟨rfl, rfl, rfl⟩, fun _ => le_rfl, fun _ _ => ?_⟩ rfl
    -- it was idle, so it was active
    have hact : a.state = .active := by
      simp only [ResourceAllocation.idle, Bool.not_eq_true, Bool.not_eq_false',
        Bool.and_eq_true, decide_eq_true_eq] at hidle
      exact hidle.1.1.1.1
    rw [hact]
    rfl
  · exact hlook _ hquiet rfl

theorem reconcileLease_spares (token : String → String → String) (i : String) :
    Spares s.1.ledger (reconcileLease cfg now actorId token s i).1.ledger := by
  unfold reconcileLease
  split
  · exact .of_eq rfl
  · split
    · exact .of_eq rfl
    · split
      · rename_i a ha
        exact reconcileAllocation_spares (List.mem_of_mem_filter (List.mem_of_find?_eq_some ha))
      · exact reconcileDirect_spares _ _

theorem normalizeConflicts_accounts (l : Ledger) :
    (l.normalizeConflicts actorId now).accounts = l.accounts := by
  unfold Ledger.normalizeConflicts
  apply Run.foldl_inv (I := fun l' : Ledger => l'.accounts = l.accounts) _ rfl
  intro l' i _ h
  exact h

/-- **The pass** spares the charges. -/
theorem reconcileLeases_spares (cfg : Config) (now : Time) (actorId : String) (b : Broker)
    (token : String → String → String) :
    Spares b.ledger (b.reconcileLeases cfg now actorId token).1.ledger := by
  unfold Broker.reconcileLeases
  apply Run.foldl_inv (I := fun s : Pass => Spares b.ledger s.1.ledger)
  · intro s i _ hs
    exact hs.trans (reconcileLease_spares token i)
  · exact .of_eq (normalizeConflicts_accounts _)

end

/-! ## Observations -/

section

variable {cfg : Config} {now : Time}

/-- What an observation makes of an allocation: its idle clock restarts, or the fact it is matched
with is recorded. -/
def Heard (facts : List AllocationFact) (now : Time) (a a' : ResourceAllocation) : Prop :=
  a' = { a with idleSince := none } ∨ ∃ f ∈ matchingFact facts a, a' = a.recordFact f now

theorem recordFact_id (a : ResourceAllocation) (f : AllocationFact) (now : Time) :
    (a.recordFact f now).id = a.id := by
  unfold ResourceAllocation.recordFact
  split <;> rfl

theorem recordFact_same (a : ResourceAllocation) (f : AllocationFact) (now : Time) :
    a.Same (a.recordFact f now) := by
  unfold ResourceAllocation.recordFact
  split
  · exact .refl a
  · exact ⟨rfl, rfl, rfl⟩

theorem Heard.id {facts : List AllocationFact} {a a' : ResourceAllocation}
    (h : Heard facts now a a') : a'.id = a.id := by
  rcases h with rfl | ⟨f, -, rfl⟩
  · rfl
  · exact recordFact_id a f now

theorem Heard.same {facts : List AllocationFact} {a a' : ResourceAllocation}
    (h : Heard facts now a a') : a.Same a' := by
  rcases h with rfl | ⟨f, -, rfl⟩
  · exact ⟨rfl, rfl, rfl⟩
  · exact recordFact_same a f now

theorem ingestAllocation_allocations (now : Time) (facts : List AllocationFact)
    (l : Ledger) (a : ResourceAllocation) : ∃ x, Heard facts now a x ∧
      (ingestAllocation facts now l a).accounts =
        (updWhere (fun y => y.id = a.id) (fun _ => x) l.allocations, l.projects) := by
  unfold ingestAllocation
  simp only
  split
  · exact ⟨_, Or.inl rfl, rfl⟩
  · rename_i f hf
    refine ⟨a.recordFact f now, Or.inr ⟨f, hf, rfl⟩, ?_⟩
    split
    · rfl
    · split <;> rfl

/-- **What an observation says of allocations**, row by row. -/
theorem ingestAllocations_heard {l : Ledger}
    (hn : (l.allocations.map ResourceAllocation.id).Nodup) (o : EndpointObservation) :
    List.Forall₂ (fun a a' => a' = a ∨ (a.endpointId = o.endpointId ∧ a.providerId ≠ "builtin") ∧
      Heard (o.allocations.map (AllocationFact.withNodes o)) now a a')
      l.allocations (l.ingestAllocations o now).allocations ∧
    (l.ingestAllocations o now).projects = l.projects := by
  unfold Ledger.ingestAllocations
  apply Run.foldl_inv (I := fun l' : Ledger => List.Forall₂ _ l.allocations l'.allocations ∧
    l'.projects = l.projects)
  · intro l' a ha ⟨h, hp⟩
    obtain ⟨hm, hc⟩ := List.mem_filter.1 ha
    obtain ⟨x, hx, he⟩ := ingestAllocation_allocations now
      (o.allocations.map (AllocationFact.withNodes o)) l' a
    rw [Ledger.accounts, Prod.mk.injEq] at he
    refine ⟨?_, he.2.trans hp⟩
    rw [he.1]
    refine forall₂_updWhere_right h fun y hy y' hyy' hid => Or.inr ?_
    have hyid : y.id = a.id := by
      rw [← of_decide_eq_true hid]
      rcases hyy' with rfl | ⟨-, hh⟩
      · rfl
      · exact hh.id.symm
    have hya : y = a := List.inj_on_of_nodup_map hn hy hm hyid
    exact hya ▸ ⟨of_decide_eq_true hc, hx⟩
  · exact ⟨List.forall₂_same.2 fun _ _ => Or.inl rfl, rfl⟩

theorem releaseAbsentKeepers_accounts (b : Broker) (endpointIds : List String) :
    (b.releaseAbsentKeepers endpointIds now).ledger.accounts = b.ledger.accounts := by
  unfold Broker.releaseAbsentKeepers
  simp only
  split
  · rfl
  have hf : ∀ ids : List String, (ids.foldl (releaseAbsentKeeper
      ("collector:" ++ (endpointIds.insertionSort (· ≤ ·)).headD "") now) b.ledger).accounts =
        b.ledger.accounts := by
    intro ids
    apply Run.foldl_inv (I := fun l : Ledger => l.accounts = b.ledger.accounts) _ rfl
    intro l i _ hl
    exact hl
  split <;> exact hf _

theorem ingestNodeObservation_accounts (endpointId : String) (b : Broker) (o : NodeObservation) :
    (ingestNodeObservation cfg endpointId now b o).ledger.accounts = b.ledger.accounts := by
  unfold ingestNodeObservation
  split
  · rfl
  · simp only
    split
    · rfl
    · exact releaseAbsentKeepers_accounts _ _

theorem nodes_accounts (endpointId : String) (ns : List NodeObservation) (b : Broker) :
    (ns.foldl (ingestNodeObservation cfg endpointId now) b).ledger.accounts =
      b.ledger.accounts := by
  apply Run.foldl_inv (I := fun s : Broker => s.ledger.accounts = b.ledger.accounts) _ rfl
  intro s n _ hs
  exact (ingestNodeObservation_accounts _ _ _).trans hs

theorem recordObservedKeepalive_accounts (b : Broker) (endpointId : String) (complete : Bool) :
    (b.recordObservedKeepalive endpointId complete now).ledger.accounts =
      b.ledger.accounts := by
  unfold Broker.recordObservedKeepalive
  split
  · rfl
  · apply Run.foldl_inv (I := fun s : Broker => s.ledger.accounts = b.ledger.accounts) _ rfl
    intro s lease _ hs
    unfold recordObservedKeeper
    split
    · simp only
      split <;> exact hs
    · exact hs

theorem bindNewWorkloads_accounts (b : Broker) (endpointId : String) :
    (b.bindNewWorkloads endpointId now).ledger.accounts = b.ledger.accounts := by
  unfold Broker.bindNewWorkloads
  apply Run.foldl_inv (I := fun s : Broker => s.ledger.accounts = b.ledger.accounts) _ rfl
  intro s lease _ hs
  unfold bindNewWorkload
  simp only
  split <;> exact hs

/-- The accounts an observation leaves before the pass. -/
theorem absorb_heard (cfg : Config) (now : Time) {b : Broker}
    (hn : (b.ledger.allocations.map ResourceAllocation.id).Nodup)
    (o : EndpointObservation) :
    List.Forall₂ (fun a a' => a' = a ∨ (a.endpointId = o.endpointId ∧ a.providerId ≠ "builtin") ∧
      Heard (o.allocations.map (AllocationFact.withNodes o)) now a a')
      b.ledger.allocations (b.absorb cfg now o).ledger.allocations ∧
    (b.absorb cfg now o).ledger.projects = b.ledger.projects := by
  have h₁ : (o.nodes.foldl (ingestNodeObservation cfg o.endpointId now)
      { b with ledger := b.ledger.bumpRevision }).ledger.accounts = b.ledger.accounts :=
    nodes_accounts _ _ _
  have h₃ : (b.absorb cfg now o).ledger.accounts = ((o.failures.foldl
      (ingestNodeFailure cfg o.endpointId now) (o.nodes.foldl (ingestNodeObservation cfg
        o.endpointId now) { b with ledger := b.ledger.bumpRevision })).ledger.ingestAllocations o
          now).accounts := by
    unfold Broker.absorb
    simp only [clearKeepaliveErrors_ledger]
    exact (bindNewWorkloads_accounts _ _).trans (recordObservedKeepalive_accounts _ _ _)
  generalize o.nodes.foldl (ingestNodeObservation cfg o.endpointId now)
    { b with ledger := b.ledger.bumpRevision } = b₁ at h₁ h₃
  have h₂ : (o.failures.foldl (ingestNodeFailure cfg o.endpointId now) b₁).ledger.accounts =
      b.ledger.accounts := by
    rw [failures_ledger]
    exact h₁
  generalize o.failures.foldl (ingestNodeFailure cfg o.endpointId now) b₁ = b₂ at h₂ h₃
  rw [Ledger.accounts, Ledger.accounts, Prod.mk.injEq] at h₂ h₃
  rw [h₃.1, h₃.2, ← h₂.1, ← h₂.2]
  exact ingestAllocations_heard (h₂.1 ▸ hn) o

/-- What an observation is read into leaves a lease its nodes left, but for what is reported of
allocations. -/
theorem absorb_holding {b : Broker} (hn : (b.ledger.leases.map Lease.id).Nodup) {i : String}
    (o : EndpointObservation)
    (hnodes : (o.nodes.foldl (ingestNodeObservation cfg o.endpointId now)
      { b with ledger := b.ledger.bumpRevision }).ledger.folio i = b.ledger.folio i) :
    ∃ l : Ledger, l.folio i = b.ledger.folio i ∧ l.allocations = b.ledger.allocations ∧
      (b.absorb cfg now o).ledger.holding? i = (l.ingestAllocations o now).holding? i := by
  have hacc : (o.nodes.foldl (ingestNodeObservation cfg o.endpointId now)
      { b with ledger := b.ledger.bumpRevision }).ledger.accounts = b.ledger.accounts :=
    nodes_accounts _ _ _
  have hids := (nodes_closing cfg o.endpointId now o.nodes
    { b with ledger := b.ledger.bumpRevision }).keys.leases
  unfold Broker.absorb
  simp only [clearKeepaliveErrors_ledger]
  generalize o.nodes.foldl (ingestNodeObservation cfg o.endpointId now)
    { b with ledger := b.ledger.bumpRevision } = b₁ at hnodes hacc hids
  have hfail := failures_ledger cfg o.endpointId now o.failures b₁
  generalize o.failures.foldl (ingestNodeFailure cfg o.endpointId now) b₁ = b₂ at hfail
  set b₃ : Broker := ⟨b₂.plant.setProviderState
    (providerStateAfter b₂.plant o.endpointId (o.scheduler.isSome || o.complete) now),
    b₂.ledger.ingestAllocations o now⟩
  have hseen : Keeps b₃.ledger (b₃.recordObservedKeepalive o.endpointId o.complete now).ledger :=
    recordObservedKeepalive_keeps now b₃ o.endpointId o.complete
  have hn' : ((b₃.recordObservedKeepalive o.endpointId o.complete now).ledger.leases.map
      Lease.id).Nodup := by
    rw [hseen.keys.leases, (ingestAllocations_closing now b₂.ledger o).keys.leases, hfail, hids]
    exact hn
  have hbound := @bindNewWorkloads_keeps now _ hn' o.endpointId
  refine ⟨b₂.ledger, ?_, ?_, (hbound.holding i).trans (hseen.holding i)⟩
  · rw [hfail]
    exact hnodes
  · rw [hfail]
    exact congrArg Prod.fst hacc

end

/-! ## Projects -/

section

theorem remember_accounts (l : Ledger) (actor : ActorContext) (action : String)
    (key : Option String) (r : Response) (now : Time) :
    (l.remember actor action key r now).accounts = l.accounts := by
  obtain ⟨_, h⟩ := remember_eq l actor action key r now
  rw [h]
  rfl

/-- A claim's project: the one on file, or a new one without limits. -/
structure ClaimProject (l : Ledger) (id : String) (project : Project) (projects : List Project) :
    Prop where
  named : project.id = id
  known : projects = l.projects ∧ project ∈ l.projects ∨
    l.project? id = none ∧ project = { id := id } ∧ projects = l.projects ++ [project]

theorem ensureClaimProject_project {l l' : Ledger} {id : String} {project : Project}
    (h : l.ensureClaimProject id = .ok (l', project)) :
    ∃ projects, l' = { l with projects } ∧ ClaimProject l id project projects := by
  unfold Ledger.ensureClaimProject at h
  simp only [bind_ok] at h
  obtain ⟨-, -, h⟩ := h
  cases hp : l.project? id with
  | none =>
    simp only [hp, pure_ok, Prod.mk.injEq] at h
    obtain ⟨rfl, rfl⟩ := h
    exact ⟨_, rfl, rfl, Or.inr ⟨hp, rfl, rfl⟩⟩
  | some x =>
    simp only [hp, pure_ok, Prod.mk.injEq] at h
    obtain ⟨rfl, rfl⟩ := h
    exact ⟨l.projects, rfl, (row?_some hp).2, Or.inl ⟨rfl, (row?_some hp).1⟩⟩

/-- A project of `l'` is one of `l`, or a new one without limits. -/
structure Enrols (l l' : Ledger) : Prop where
  rows : ∀ p ∈ l'.projects, p ∈ l.projects ∨ ∃ id, p = { id := id }

theorem Enrols.of_eq {l l' : Ledger} (h : l'.projects = l.projects) : Enrols l l' :=
  ⟨fun _ hp => Or.inl (h ▸ hp)⟩

theorem ClaimProject.enrols {l l' : Ledger} {id : String} {project : Project}
    {projects : List Project} (c : ClaimProject l id project projects)
    (h : l'.projects = projects) : Enrols l l' := by
  refine ⟨fun p hp => ?_⟩
  rw [h] at hp
  rcases c.known with ⟨rfl, -⟩ | ⟨-, he, rfl⟩
  · exact Or.inl hp
  · rcases List.mem_append.1 hp with hp | hp
    · exact Or.inl hp
    · exact Or.inr ⟨id, (List.mem_singleton.1 hp).trans he⟩

/-- A claim's project is the one row of its id. -/
theorem ClaimProject.eq_of_mem {l : Ledger} {id : String} {project p : Project}
    {projects : List Project} (c : ClaimProject l id project projects)
    (hn : (l.projects.map Project.id).Nodup) (hp : p ∈ l.projects) (hid : p.id = id) :
    p = project := by
  rcases c.known with ⟨-, hm⟩ | ⟨hnone, -, -⟩
  · exact List.inj_on_of_nodup_map hn hp hm (hid.trans c.named.symm)
  · exact absurd hid (row?_none hnone p hp)

/-- **An accepted claim** found its project within its limits, and leaves the charges. -/
theorem createRequest_unblocked {cfg : Config} {now : Time} {actor : ActorContext}
    {r : RequestCreate} {key : Option String} {persistent : Bool} {leaseId : String}
    {token : String → String} {b b' : Broker} {resp : Response}
    (h : createRequest cfg now actor r key persistent leaseId token b = .ok (b', resp)) :
    b' = b ∨ ∃ project projects, ClaimProject b.ledger r.projectId project projects ∧
      b'.ledger.projects = projects ∧ b'.ledger.charged = b.ledger.charged ∧
      b.ledger.projectBlocked project r.constraints = none := by
  rcases createRequest_steps h with h | ⟨l, project, gpus, details, hl, ha, -, rfl⟩
  · exact Or.inl h
  · obtain ⟨projects, rfl, c⟩ := ensureClaimProject_project hl
    unfold Broker.admitClaim at ha
    simp only [bind_ok, require_ok] at ha
    obtain ⟨u, hblocked, -⟩ := ha
    have hrem := remember_accounts (Broker.claimed ⟨b.plant,
      ({ b.ledger with projects } : Ledger).bumpRevision⟩ actor persistent
        (claimedLease leaseId actor r now
          ({ b.ledger with projects } : Ledger).bumpRevision.revision)
        r.constraints gpus token details now).ledger actor "request.create" key resp now
    refine Or.inr ⟨project, projects, c, congrArg Prod.snd hrem, ?_, hblocked⟩
    exact (charged_congr hrem).trans (charged_syncDirect _ _ _ _ _)

theorem takeoverProject_enrols {l l' : Ledger} {lease : Lease} {projectId : String}
    (h : l.takeoverProject lease projectId = .ok l') : Enrols l l' := by
  unfold Ledger.takeoverProject at h
  split at h
  · obtain rfl := pure_ok.1 h
    exact .of_eq rfl
  · simp only [bind_ok, pure_ok] at h
    obtain ⟨⟨l₁, project⟩, hl, -, -, rfl⟩ := h
    obtain ⟨projects, rfl, c⟩ := ensureClaimProject_project hl
    exact c.enrols rfl

end

/-! ## Every transaction -/

/-- The provider's word, where a transaction takes it in, gives no allocation more cards than it
had, and brings none back to life that no lease has. -/
def Ledger.lightens (l : Ledger) : Op → Prop
  | .claimFailed now id rejected error =>
    ∀ a ∈ l.allocations, a.id = id → a.Lighter (a.attemptFailed rejected error now)
  | .claimRemember now id fact => ∀ a ∈ l.allocations, a.id = id → a.Lighter (a.recordFact fact now)
  | .markAllocation now id released error =>
    ∀ a ∈ l.allocations, a.id = id → a.Lighter (a.marked released error now)
  | .finishPluginRelease now id error =>
    ∀ a ∈ l.allocations, a.id = id → a.Lighter (a.marked error.isNone error now)
  | .ingestObservation now o _ => ∀ a ∈ l.allocations, a.endpointId = o.endpointId →
      a.providerId ≠ "builtin" →
        ∀ f ∈ matchingFact (o.allocations.map (AllocationFact.withNodes o)) a,
        a.Lighter (a.recordFact f now)
  | _ => True

/-- The transactions that file an allocation, or tie one to a lease. -/
def Op.files : Op → Bool
  | .claimPrepare .. | .claimFinish .. => true
  | _ => false

/-- What becomes of an allocation: it stays whose it was, and lighter if the provider says so. -/
def Ledger.Becomes (l : Ledger) (op : Op) (a a' : ResourceAllocation) : Prop :=
  a.Same a' ∧ (l.lightens op → a.Lighter a')

section

variable {cfg : Config} {op : Op} {b b' : Broker} {resp : Response}

theorem becomes_refl (l : Ledger) (op : Op) (a : ResourceAllocation) : l.Becomes op a a :=
  ⟨.refl a, fun _ => .refl a⟩

theorem becomes_quiet {l : Ledger} {a a' : ResourceAllocation} (h : a.Quiet a') :
    l.Becomes op a a' := ⟨h.same, fun _ => h.lighter⟩

/-! ### Writes that leave the allocations -/

theorem unseenChanges_accounts (l : Ledger) (lease : Lease) :
    (l.unseenChanges lease).1.accounts = l.accounts := by
  unfold Ledger.unseenChanges
  simp only
  split <;> rfl

theorem heartbeat_accounts (cfg : Config) (now : Time) (b : Broker) (id : String)
    (actor : ActorContext) (keepIdle : Bool) :
    (b.heartbeat cfg now id actor keepIdle).1.ledger.accounts = b.ledger.accounts := by
  unfold Broker.heartbeat Broker.keepIdleCards
  simp only
  split
  · split <;> rfl
  · rfl

theorem auditBind_accounts (l : Ledger) (actor : ActorContext) (lease : Lease) (runId : String)
    (gpuCount : ℕ) (now : Time) :
    (l.auditBind actor lease runId gpuCount now).accounts = l.accounts := by
  unfold Ledger.auditBind
  simp only
  split <;> split <;> rfl

theorem settleOn_accounts (b : Broker) (i endpointId reason actorId : String) (now : Time) :
    (b.settleOn i endpointId reason actorId now).accounts = b.ledger.accounts := by
  unfold Broker.settleOn
  simp only
  split <;> rfl

theorem settleLeasesForDeleted_accounts (b : Broker) (endpointId actorId : String)
    (now : Time) :
    (b.settleLeasesForDeleted endpointId actorId now).ledger.accounts =
      b.ledger.accounts := by
  unfold Broker.settleLeasesForDeleted
  apply Run.foldl_inv (I := fun s : Broker => s.ledger.accounts = b.ledger.accounts) _ rfl
  intro s i _ hs
  exact (settleOn_accounts s i endpointId _ actorId now).trans hs

theorem activateKeepers_accounts (cfg : Config) (endpointId actorId : String)
    (token : String → String) (now : Time) (ts : List (GPUDevice × Option Lease)) (l : Ledger) :
    (ts.foldl (Ledger.activateKeeper cfg endpointId actorId token now) l).accounts =
      l.accounts := by
  apply Run.foldl_inv (I := fun l' : Ledger => l'.accounts = l.accounts) _ rfl
  intro l' t _ hl
  refine Eq.trans ?_ hl
  unfold Ledger.activateKeeper
  split <;> rfl

theorem finishCleanup_accounts (actor : ActorContext) (endpointId : String) (now : Time)
    (gpuIds : List String) (b : Broker) :
    (gpuIds.foldl (finishCleanupOn actor endpointId now) b).ledger.accounts =
      b.ledger.accounts := by
  apply Run.foldl_inv (I := fun s : Broker => s.ledger.accounts = b.ledger.accounts) _ rfl
  intro s g _ hs
  refine Eq.trans ?_ hs
  unfold finishCleanupOn
  split <;> rfl

theorem pluginReleased_allocations (l : Ledger) (a : ResourceAllocation) (error : Option String)
    (now : Time) : (l.pluginReleased a error now).allocations =
      updWhere (fun x => x.id = a.id) (ResourceAllocation.marked error.isNone error now)
        l.allocations := by
  unfold Ledger.pluginReleased Ledger.endReleased
  simp only
  split <;> rfl

theorem pluginReleased_projects (l : Ledger) (a : ResourceAllocation) (error : Option String)
    (now : Time) : (l.pluginReleased a error now).projects = l.projects := by
  unfold Ledger.pluginReleased Ledger.endReleased
  simp only
  split <;> rfl

theorem ingested_projects (hb : Intact b) (now : Time) (o : EndpointObservation)
    (token : String → String → String) :
    (b.ingested cfg now o token).1.ledger.projects = b.ledger.projects := by
  have hlast : ∀ l : Ledger, (l.auditRecovery (b.plant.recovers o) o.endpointId now).projects =
      l.projects := by
    intro l
    unfold Ledger.auditRecovery
    split <;> rfl
  exact (hlast _).trans ((reconcileLeases_spares cfg now ("collector:" ++ o.endpointId)
    (b.absorb cfg now o) token).projects.trans (absorb_heard cfg now hb.allocationPk o).2)

/-- **What becomes of the allocations** in an observation. -/
theorem ingested_follows {now : Time} {o : EndpointObservation} {token : String → String → String}
    (hb : Intact b) (hi : Intact (b.ingested cfg now o token).1) :
    Follows (b.ledger.Becomes (.ingestObservation now o token)) b.ledger
      (b.ingested cfg now o token).1.ledger := by
  have hheard := (absorb_heard cfg now hb.allocationPk o).1
  have hspares := reconcileLeases_spares cfg now ("collector:" ++ o.endpointId)
    (b.absorb cfg now o) token
  set s := (b.absorb cfg now o).reconcileLeases cfg now ("collector:" ++ o.endpointId) token
  have hlast : (s.1.ledger.auditRecovery (b.plant.recovers o) o.endpointId now).accounts =
      s.1.ledger.accounts := by
    unfold Ledger.auditRecovery
    split <;> rfl
  have hlast' : (s.1.ledger.auditRecovery (b.plant.recovers o) o.endpointId now).allocations =
      s.1.ledger.allocations := congrArg Prod.fst hlast
  have hn : (s.1.ledger.allocations.map ResourceAllocation.id).Nodup := hlast' ▸ hi.allocationPk
  refine Follows.trans (R := b.ledger.Becomes (.ingestObservation now o token))
    (Q := ResourceAllocation.Quiet) (fun a a' a'' h h' => ?_) (.of_forall₂ (fun _ _ h => h.1) ?_)
    ((hspares.follows hn).trans (R := ResourceAllocation.Quiet)
      (fun _ _ _ => ResourceAllocation.Quiet.trans) (.of_eq .refl (charged_congr hlast)))
  · exact ⟨h.1.trans h'.same, fun hl => (h.2 hl).trans h'.lighter h.1.leaseId⟩
  · refine forall₂_imp_mem hheard fun a ha a' _ h => ?_
    rcases h with rfl | ⟨⟨he, hp⟩, hheard⟩
    · exact becomes_refl _ _ _
    · rcases hheard with rfl | ⟨f, hf, rfl⟩
      · exact becomes_quiet ⟨⟨rfl, rfl, rfl⟩, fun _ => le_rfl, fun _ ht => ht⟩
      · exact ⟨recordFact_same a f now, fun hl => hl a ha he hp f hf⟩

/-- Giving cards back and taking cards in is no matter of accounts. -/
theorem addCards_accounts {now : Time} {leaseId releasedBy : String} {removed : List String}
    {lease : Lease} {request : Option RequestCreate} {taken : Broker} {added : List GPUDevice}
    (h : (⟨b.plant, b.ledger.bumpRevision.returnCards leaseId removed releasedBy now⟩ :
      Broker).addCards cfg now lease request = .ok (taken, added)) :
    taken.ledger.accounts = b.ledger.accounts := by
  have hret : (b.ledger.bumpRevision.returnCards leaseId removed releasedBy now).accounts =
      b.ledger.accounts := by
    unfold Ledger.returnCards
    split <;> rfl
  rcases addCards_ok h with ⟨-, rfl, -⟩ | ⟨-, -, -, rfl⟩
  · exact hret
  · exact hret

/-- A deleted endpoint takes its allocations along. -/
theorem endpointDeleted_accounts (b : Broker) (endpointId actorId : String) (unreachable : Bool)
    (now : Time) : (b.endpointDeleted endpointId actorId unreachable now).ledger.accounts =
      (b.ledger.allocations.filter fun a => a.endpointId ≠ endpointId, b.ledger.projects) := by
  have hs := settleLeasesForDeleted_accounts b endpointId actorId now
  rw [Ledger.accounts, Ledger.accounts, Prod.mk.injEq] at hs
  unfold Broker.endpointDeleted
  simp only
  split
  · exact congrArg₂ Prod.mk (congrArg _ hs.1) hs.2
  · rfl

/-- The transactions that write allocations or projects. -/
def Op.books : Op → Bool
  | .createRequest .. | .resizeLease .. | .releaseLease .. | .reassignLeaseGpus ..
  | .takeOverLease .. | .ingestObservation .. | .recordProviderFailure .. | .deleteEndpoint ..
  | .claimPrepare .. | .claimFailed .. | .claimRemember .. | .claimFinish .. | .markAllocation ..
  | .finishPluginRelease .. => true
  | _ => false

/-- The others leave the accounts alone. -/
theorem apply_accounts (h : op.apply cfg b = .ok (b', resp)) (hop : op.books = false) :
    b'.ledger.accounts = b.ledger.accounts := by
  have rem : ∀ {l : Ledger} {actor : ActorContext} {action : String} {key : Option String}
      {r : Response} {now : Time}, l.accounts = b.ledger.accounts →
        (l.remember actor action key r now).accounts = b.ledger.accounts :=
    fun hl => (remember_accounts _ _ _ _ _ _).trans hl
  cases op with
  | leaseView =>
    obtain ⟨lease, -, -, -, -, ⟨-, rfl, -⟩ | ⟨-, rfl, -⟩⟩ := leaseView_ok h
    · exact unseenChanges_accounts _ _
    · exact (heartbeat_accounts _ _ _ _ _ _).trans (unseenChanges_accounts _ _)
  | recordLeaseHeartbeat =>
    rcases recordLeaseHeartbeat_ok h with rfl | ⟨-, rfl⟩
    · rfl
    · exact heartbeat_accounts _ _ _ _ _ _
  | bindObservedWorkload now actor leaseId =>
    rcases bindObservedWorkload_ok h with rfl | ⟨lease, runId, runs, keys, n, -, -, -, rfl⟩
    · rfl
    · exact rem (auditBind_accounts ((b.ledger.bumpRevision.bindRun leaseId runId runs
        keys).editLease leaseId (Lease.activatedByBind now)) actor lease runId n now)
  | releaseEmptyConflictedLease =>
    rcases releaseEmptyConflictedLease_ok h with rfl | ⟨lease, -, -, -, -, rfl⟩
    · rfl
    · exact rem (settleOn_accounts ⟨b.plant, b.ledger.bumpRevision⟩ _ _ _ _ _)
  | activateKeepalives now actor endpointId =>
    rcases activateKeepalives_ok h with rfl | ⟨targets, ps, -, -, -, -, -, -, rfl⟩
    · rfl
    · exact rem (activateKeepers_accounts _ _ _ _ _ _ _)
  | finalizeKeepaliveStop =>
    rcases finalizeKeepaliveStop_ok h with rfl | ⟨lease, g, ps, -, -, -, -, -, -, -, rfl⟩
    · rfl
    · exact rem rfl
  | setKeepaliveError =>
    obtain ⟨rfl, -, -⟩ := finish_ok.1 h
    rfl
  | finishKeepaliveCleanup =>
    obtain ⟨rfl, -, -⟩ := finish_ok.1 h
    exact finishCleanup_accounts _ _ _ _ _
  | configureKeepalivePolicy =>
    rcases configureKeepalivePolicy_ok h with rfl | ⟨e, changed, -, -, rfl⟩
    · rfl
    · refine rem ?_
      cases changed <;> rfl
  | pruneExpired =>
    obtain ⟨rfl, -, -⟩ := finish_ok.1 h
    rfl
  | createServerGroup =>
    rcases createServerGroup_ok h with rfl | ⟨-, rfl⟩
    · rfl
    · exact rem rfl
  | createEndpoint =>
    rcases createEndpoint_ok h with rfl | ⟨-, rfl⟩
    · rfl
    · exact rem rfl
  | updateEndpoint now actor endpointId u =>
    rcases updateEndpoint_ok h with rfl | ⟨e, -, -, rfl⟩
    · rfl
    · refine rem ?_
      unfold Broker.endpointUpdated
      simp only
      split <;> rfl
  | _ => cases hop

/-- What becomes of the accounts: each charge stays whose it was, and lighter if the provider says
so, and no project's limits change. -/
structure Booked (l : Ledger) (op : Op) (l' : Ledger) : Prop where
  follows : Follows (l.Becomes op) l l'
  enrols : Enrols l l'

/-- A release charges what was charged. -/
theorem released_charged (lease : Lease) (reason : String) (token : String → String)
    (now : Time) : (b.released lease reason token now).ledger.charged = b.ledger.charged := by
  unfold Broker.released
  simp only
  split
  · rfl
  · exact charged_syncDirect _ _ _ _ _

/-- **What becomes of the accounts**, in every transaction that files no allocation. -/
theorem apply_booked (hb : Intact b) (h : op.apply cfg b = .ok (b', resp))
    (hop : op.files = false) : Booked b.ledger op b'.ledger := by
  have eq : ∀ {l : Ledger}, l.charged = b.ledger.charged → Enrols b.ledger l →
      Booked b.ledger op l := fun he hp => ⟨.of_eq (becomes_refl _ _) he, hp⟩
  have same : ∀ {l : Ledger}, l.accounts = b.ledger.accounts → Booked b.ledger op l :=
    fun he => eq (charged_congr he) (.of_eq (congrArg Prod.snd he))
  have back : ∀ {x : Broker}, x = b → Booked b.ledger op x.ledger := fun hx => same (by rw [hx])
  have edit : ∀ {l : Ledger} {q : ResourceAllocation → Bool}
      {f : ResourceAllocation → ResourceAllocation},
      l.allocations = updWhere q f b.ledger.allocations → Enrols b.ledger l →
      (∀ a ∈ b.ledger.allocations, q a = true → b.ledger.Becomes op a (f a)) →
        Booked b.ledger op l := by
    intro l q f he hp hf
    refine ⟨.of_forall₂ (fun _ _ hr => hr.1) ?_, hp⟩
    rw [he]
    exact forall₂_updWhere (fun a _ => becomes_refl _ _ a) hf
  have rem : ∀ {l : Ledger} {actor : ActorContext} {action : String} {key : Option String}
      {r : Response} {now : Time}, Booked b.ledger op l →
        Booked b.ledger op (l.remember actor action key r now) := by
    intro l actor action key r now hl
    have ha := remember_accounts l actor action key r now
    have hp : (l.remember actor action key r now).projects = l.projects := congrArg Prod.snd ha
    refine ⟨?_, ⟨fun p hm => hl.enrols.rows p (hp ▸ hm)⟩⟩
    unfold Follows
    rw [charged_congr ha]
    exact hl.follows
  by_cases hbooks : op.books = false
  · exact same (apply_accounts h hbooks)
  cases op with
  | createRequest now actor r key persistent leaseId token =>
    rcases createRequest_unblocked h with h | ⟨project, projects, c, hp, hc, -⟩
    · exact back h
    · exact eq hc (c.enrols hp)
  | resizeLease now actor leaseId addRequest removeGpuIds expectedEpoch token =>
    obtain ⟨lease, taken, added, d, -, -, -, -, -, -, -, hadd, -, -, rfl⟩ := resizeLease_ok h
    have ht := addCards_accounts hadd
    have hlease : (if decide (b.returnedCards leaseId removeGpuIds = []) = true then
        taken.ledger.editLease lease.id Lease.raised else taken.ledger).accounts =
          b.ledger.accounts := by
      split <;> exact ht
    exact eq ((charged_syncDirect _ _ _ _ _).trans (charged_congr hlease))
      (.of_eq (congrArg Prod.snd hlease))
  | releaseLease now actor leaseId reason key override token =>
    rcases releaseLease_ok h with h | ⟨lease, -, -, -, -, d, rfl⟩
    · exact back h
    · have hr : Booked b.ledger (.releaseLease now actor leaseId reason key override token)
          (b.released lease (cut 500 (strip reason)) token now).ledger :=
        eq (released_charged _ _ _ _) (.of_eq (released_writes _ _ _ _ _).projects)
      exact rem ⟨hr.follows, ⟨hr.enrols.rows⟩⟩
  | reassignLeaseGpus now actor leaseId =>
    rcases reassignLeaseGpus_ok h with h | ⟨lease, targets, c, d, -, -, -, -, -, -, -, -, -, rfl⟩
    · exact back h
    · refine eq ?_ (.of_eq rfl)
      exact charged_syncDirect _ _ _ _ _
  | takeOverLease now actor =>
    obtain ⟨lease, session, l, d, -, -, hl, -, rfl⟩ := takeOverLease_ok h
    have hp := takeoverProject_enrols hl
    obtain ⟨projects, rfl⟩ := takeoverProject_ok hl
    exact edit rfl ⟨hp.rows⟩ fun a _ _ =>
      becomes_quiet ⟨⟨rfl, rfl, rfl⟩, fun _ => le_rfl, fun _ ht => ht⟩
  | ingestObservation now o token =>
    rcases ingestObservation_ok h with h | ⟨-, hi, rfl⟩
    · exact back h
    · exact ⟨ingested_follows hb hi, .of_eq (ingested_projects hb _ _ _)⟩
  | recordProviderFailure now endpointId =>
    obtain ⟨-, first, rfl⟩ := recordProviderFailure_ok h
    refine edit (q := fun a => a.endpointId = endpointId) (f := fun a =>
      { a with idleSince := none })
      ?_ (.of_eq ?_) fun a _ _ => becomes_quiet ⟨⟨rfl, rfl, rfl⟩, fun _ => le_rfl, fun _ ht => ht⟩
    · cases first <;> rfl
    · cases first <;> rfl
  | deleteEndpoint now actor endpointId =>
    rcases deleteEndpoint_ok h with h | ⟨-, -, rfl⟩
    · exact back h
    · have hd := endpointDeleted_accounts b endpointId actor.id (b.plant.endpointUnreachable cfg now
        endpointId) now
      exact ⟨.of_filter (becomes_refl _ _) (q := fun a => a.endpointId ≠ endpointId)
        (congrArg Prod.fst hd), .of_eq (congrArg Prod.snd hd)⟩
  | claimPrepare => cases hop
  | claimFailed now allocationId rejected error =>
    obtain ⟨-, -, rfl⟩ := writeAllocation_ok h
    refine edit rfl (.of_eq rfl) fun a ha hid =>
      ⟨⟨rfl, rfl, rfl⟩, fun hl => hl a ha (of_decide_eq_true hid)⟩
  | claimRemember now allocationId fact =>
    obtain ⟨-, -, rfl⟩ := writeAllocation_ok h
    refine edit rfl (.of_eq rfl) fun a ha hid => ⟨recordFact_same a fact now, fun hl => ?_⟩
    exact hl a ha (of_decide_eq_true hid)
  | markAllocation now allocationId released error =>
    obtain ⟨-, -, rfl⟩ := writeAllocation_ok h
    refine edit rfl (.of_eq rfl) fun a ha hid =>
      ⟨⟨rfl, rfl, rfl⟩, fun hl => hl a ha (of_decide_eq_true hid)⟩
  | claimFinish => cases hop
  | finishPluginRelease now allocationId error =>
    rcases finishPluginRelease_ok h with h | ⟨a, ha, -, rfl⟩
    · exact back h
    · have hid : a.id = allocationId := (row?_some ha).2
      refine edit (pluginReleased_allocations b.ledger a error now)
        (.of_eq (pluginReleased_projects b.ledger a error now)) fun x hx hxid =>
        ⟨⟨rfl, rfl, rfl⟩, fun hl => hl x hx ((of_decide_eq_true hxid).trans hid)⟩
  | _ => exact absurd rfl hbooks

/-! ### Filing an allocation -/

theorem retireEnded_follows (l : Ledger) (sent : Option String)
    (filed : Option ResourceAllocation) :
    Follows ResourceAllocation.Quiet l (l.retireEnded sent filed) := by
  unfold Ledger.retireEnded
  split
  · exact .of_edit .refl (fun _ _ h => h.same) fun a _ _ =>
      ⟨⟨rfl, rfl, rfl⟩, fun _ => le_rfl, fun _ ht => ht⟩
  · exact .of_eq .refl rfl

/-- **A prepared claim** files at most one allocation more, within its project's limits. -/
theorem claimPrepare_filed {now : Time} {actor : ActorContext} {r : RequestCreate}
    {key : Option String} {endpointId token : String} {plugin : Plugin}
    (h : claimPrepare now actor r key endpointId plugin token b = .ok (b', resp)) :
    b' = b ∨ ∃ project projects l, ClaimProject b.ledger r.projectId project projects ∧
      Follows ResourceAllocation.Quiet b.ledger l ∧ (∃ as, l = { b.ledger with
        projects, allocations := as }) ∧
      (b' = ⟨b.plant, l⟩ ∨ l.projectBlocked project r.constraints = none ∧
        b' = ⟨b.plant, { l.bumpRevision with
          allocations := l.allocations ++
            [preparedAllocation token endpointId plugin actor (requestKeyOf r key) r now] }⟩) := by
  rcases claimPrepare_steps h with h | ⟨l, project, hl, h⟩
  · exact Or.inl h
  · obtain ⟨projects, rfl, hproject⟩ := ensureClaimProject_project hl
    set l : Ledger := { b.ledger with projects }
    set filed := l.filedAllocation actor.id endpointId (requestKeyOf r key) r
    refine Or.inr ⟨project, projects, l.retireEnded (key.filter fun k => k ≠ "") filed, hproject,
      retireEnded_follows l _ filed, ?_, ?_⟩
    · obtain ⟨as, has⟩ := retireEnded_eq l (key.filter fun k => k ≠ "") filed
      exact ⟨as, has⟩
    · obtain ⟨-, ⟨a, -, -, hb⟩ | ⟨-, hblocked, -, hb⟩⟩ := fileClaim_ok h
      · exact Or.inl hb
      · exact Or.inr ⟨hblocked, hb⟩

/-! ## Leases of providers hold no cards -/

/-- A lease tied to a provider's allocation holds no card of its own. -/
def Unplugged (l : Ledger) : Prop :=
  ∀ a ∈ l.charged, ∀ i ∈ a.leaseId, (l.folio i).cardSet = ∅

theorem mem_charged {l : Ledger} {a : ResourceAllocation} {i : String} (hi : a.leaseId = some i) :
    a ∈ l.charged ↔ a ∈ l.allocations ∧ a.providerId ≠ "builtin" := by
  unfold Ledger.charged
  simp [hi]

theorem Follows.mem {R : ResourceAllocation → ResourceAllocation → Prop} {l l' : Ledger}
    (f : Follows R l l') {a' : ResourceAllocation} (ha : a' ∈ l'.charged) :
    ∃ a ∈ l.charged, R a a' := by
  obtain ⟨k, hk, hs⟩ := List.sublistForall₂_iff.1 f
  obtain ⟨a, hm, hr⟩ := exists_of_forall₂ (R := fun a a' => R a a') hk.flip ha
  exact ⟨a, hs.subset hm, hr⟩

theorem admits_length {m : Reassignment} (hm : b.admits m = true) :
    m.gpuIds.length = (b.ledger.cards m.leaseId).length := by
  unfold Broker.admits at hm
  simp only [Bool.and_eq_true] at hm
  cases hw : b.workloadReassignmentTargets m.actor m.leaseId m.gpuIds m.override with
  | error e =>
    rw [hw] at hm
    cases hm.1.1
  | ok x => exact (workloadReassignmentTargets_ok hw).2.2.2.1

/-- The cards of a lease that is not resized never become more. -/
theorem Life.card_le {l : Ledger} (k : Life b op l) (hb : Intact b) {i : String}
    (hne : op.resizes ≠ some i) {h h' : Holding String String}
    (hh : b.ledger.holding? i = some h) (hh' : l.holding? i = some h') :
    h'.cards.card ≤ h.cards.card := by
  have same : ∀ {x}, l.holding? i = some x → x = h' := fun hx =>
    Option.some.inj (hx.symm.trans hh')
  cases k with
  | ends e =>
    obtain ⟨x, hx, s⟩ := e.fades.related i h hh
    exact same hx ▸ Finset.card_le_card s.subset
  | loses _ f =>
    obtain ⟨x, hx, s⟩ := f.related i h hh
    exact same hx ▸ Finset.card_le_card s.subset
  | opens gpuIds _ o => rw [same ((o.old i (by rw [hh]; simp)).1.trans hh)]
  | resizes j hj a =>
    have hij : i ≠ j := fun he => hne (he ▸ hj)
    rw [same ((a.others i hij).trans hh)]
  | moves m _ ha a =>
    by_cases hid : i = m.leaseId
    · subst hid
      obtain ⟨x, y, -, hy, hc, -⟩ := a.this
      rw [← same hy, hc, holding_cards hh, card_cardSet hb.leaseGpu, ← admits_length ha]
      exact List.toFinset_card_le _
    · rw [same ((a.others i hid).trans hh)]
  | uproots e _ u =>
    obtain ⟨x, hx, r⟩ := u.related i h hh
    rw [← same hx]
    rcases r with r | r
    · exact Finset.card_le_card fun g hg => ((r.cards g).1 hg).1
    · rw [r.cards, Finset.card_empty]
      exact Nat.zero_le _

/-- The same of the card rows of a lease that was there. -/
theorem apply_cards_le (hk : Kept b) (h : op.apply cfg b = .ok (b', resp)) {i : String}
    (hi : i ∈ b.ledger.leases.map Lease.id) (hne : op.resizes ≠ some i) :
    (b'.ledger.cards i).length ≤ (b.ledger.cards i).length := by
  have hi' := apply_intact hk.intact h
  rw [← card_cardSet hi'.leaseGpu, ← card_cardSet hk.intact.leaseGpu]
  obtain ⟨x, hx⟩ : ∃ x, b.ledger.holding? i = some x := by
    cases hn : b.ledger.holding? i with
    | none => exact absurd hi (lease?_eq_none.1 (holding_absent.1 hn))
    | some x => exact ⟨x, rfl⟩
  cases hx' : b'.ledger.holding? i with
  | none =>
    rw [folio_absent hi'.grounded (holding_absent.1 hx')]
    exact Nat.zero_le _
  | some x' =>
    rw [← holding_cards hx, ← holding_cards hx']
    exact (apply_life hk.intact hk.wellkept h).card_le hk.intact hne hx hx'

theorem resizeLease_builtin {now : Time} {actor : ActorContext} {leaseId : String}
    {addRequest : Option RequestCreate} {removeGpuIds : List String} {expectedEpoch : Option ℕ}
    {token : String → String}
    (h : resizeLease cfg now actor leaseId addRequest removeGpuIds expectedEpoch token b =
      .ok (b', resp)) : ∀ a ∈ b.ledger.allocationsOf leaseId, a.providerId = "builtin" := by
  unfold resizeLease at h
  simp only [bind_ok, require_ok] at h
  obtain ⟨-, -, -, -, -, -, -, ha, -⟩ := h
  exact ha

/-- **A finished claim** at a provider ties its allocation to a new lease without cards. -/
theorem claimFinish_ties {now : Time} {actor : ActorContext} {r : RequestCreate}
    {key : Option String} {allocationId leaseId : String}
    (h : claimFinish now actor r key allocationId leaseId b = .ok (b', resp)) :
    leaseId ∉ b.ledger.leases.map Lease.id ∧ (∃ a, b.ledger.allocation? allocationId = some a) ∧
      b'.ledger.projects = b.ledger.projects ∧
      b'.ledger.allocations = updWhere (fun x => x.id = allocationId)
        (fun x => { x with leaseId := some leaseId }) b.ledger.allocations ∧
      b'.ledger.resources = b.ledger.resources ∧
      ∃ x, x.id = leaseId ∧ x.kind = .workload ∧ x.projectId = r.projectId ∧
        b'.ledger.leases = b.ledger.leases ++ [x] := by
  obtain ⟨a, ha, hi, rfl⟩ := claimFinish_ok h
  set k := delegatedLease leaseId actor r a.expiresAt now b.ledger.bumpRevision.revision
  obtain ⟨idem, hrem⟩ := remember_eq (b.ledger.bumpRevision.delegate k allocationId now) actor
    "request.create" (key.filter fun k => k ≠ "") resp now
  rw [hrem] at hi ⊢
  have hids : (b.ledger.bumpRevision.delegate k allocationId now).leases.map Lease.id =
      b.ledger.leases.map Lease.id ++ [leaseId] := List.map_append
  have hn := hi.leasePk
  refine ⟨fun hm => ?_, ⟨a, ha⟩, rfl, rfl, ?_, k, rfl, rfl, rfl, rfl⟩
  · exact (List.nodup_append.1 (hids ▸ hn)).2.2 _ hm _ (List.mem_singleton_self _) rfl
  · exact List.append_nil _

theorem apply_unplugged (hk : Kept b) (hu : Unplugged b.ledger)
    (h : op.apply cfg b = .ok (b', resp)) : Unplugged b'.ledger := by
  have hi' := apply_intact hk.intact h
  -- a lease tied to a provider's allocation is not one that is resized
  have stays : ∀ a ∈ b.ledger.charged, ∀ i ∈ a.leaseId, (b'.ledger.folio i).cardSet = ∅ := by
    intro a ha i hi
    obtain ⟨hm, hp⟩ := (mem_charged hi).1 ha
    have hne : op.resizes ≠ some i := by
      intro hr
      cases op with
      | resizeLease now actor leaseId =>
        cases hr
        exact hp (resizeLease_builtin h a (List.mem_filter.2 ⟨hm, by simpa using hi⟩))
      | _ => cases hr
    have hle := apply_cards_le hk h (hk.intact.allocationLease a hm i hi) hne
    rw [← card_cardSet hi'.leaseGpu, ← card_cardSet hk.intact.leaseGpu, hu a ha i hi,
      Finset.card_empty] at hle
    exact Finset.card_eq_zero.1 (Nat.le_zero.1 hle)
  intro a' ha' i hi
  by_cases hop : op.files = false
  · obtain ⟨a, ha, r⟩ := (apply_booked hk.intact h hop).follows.mem ha'
    exact stays a ha i (r.1.leaseId ▸ hi)
  cases op with
  | claimPrepare now actor r key endpointId plugin token =>
    rcases claimPrepare_filed h with rfl | ⟨project, projects, l, -, f, ⟨as, rfl⟩, hb'⟩
    · exact stays a' ha' i hi
    · have hl : a' ∈ ({ b.ledger with projects, allocations := as } : Ledger).charged := by
        rcases hb' with rfl | ⟨-, rfl⟩
        · exact ha'
        · obtain ⟨hm, hp⟩ := (mem_charged hi).1 ha'
          rcases List.mem_append.1 hm with hm | hm
          · exact (mem_charged hi).2 ⟨hm, hp⟩
          · obtain rfl := List.mem_singleton.1 hm
            cases hi
      obtain ⟨a, ha, r⟩ := f.mem hl
      exact stays a ha i (r.same.leaseId ▸ hi)
  | claimFinish now actor r key allocationId leaseId =>
    obtain ⟨hfresh, -, -, has, hres, -⟩ := claimFinish_ties h
    obtain ⟨hm, hp⟩ := (mem_charged hi).1 ha'
    rw [has] at hm
    obtain ⟨a, ha, ⟨-, rfl⟩ | ⟨-, rfl⟩⟩ := mem_updWhere.1 hm
    · -- the new lease holds no card
      obtain rfl : leaseId = i := Option.some.inj hi
      refine Finset.eq_empty_of_forall_notMem fun g hg => ?_
      obtain ⟨x, hx, -⟩ := mem_cardSet.1 hg
      obtain ⟨hx, hid, -⟩ := mem_cards.1 hx
      exact hfresh (hid ▸ hk.intact.resourceLease x (hres ▸ hx))
    · exact stays a' ((mem_charged hi).2 ⟨ha, hp⟩) i hi
  | _ => exact absurd rfl hop

/-- **A lease of a provider holds no card**, in every run. -/
theorem Reachable.unplugged (h : Reachable cfg b) : Unplugged b.ledger := by
  obtain ⟨b₀, hs, ops, rfl⟩ := h
  have h₀ : Kept b₀ ∧ Unplugged b₀.ledger := by
    refine ⟨hs.kept, fun a ha => ?_⟩
    have hm := List.mem_of_mem_filter ha
    rw [hs.allocations] at hm
    cases hm
  refine (Run.run_inv' (I := fun s => Kept s ∧ Unplugged s.ledger) (fun s op hs => ?_) h₀).2
  refine ⟨exec_kept cfg s op hs.1, ?_⟩
  rcases exec_cases cfg s op with ⟨b', r, h, he⟩ | ⟨-, he⟩
  · rw [he]
    exact apply_unplugged hs.1 hs.2 h
  · rw [he]
    exact hs.2

end

end ServerPilot
