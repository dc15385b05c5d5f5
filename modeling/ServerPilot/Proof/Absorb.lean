import ServerPilot.Proof.Pass

/-!
# Absorbing an observation

Before the pass, an observation may only end leases (the keeper of a card that is
gone, the lease of an allocation the provider ended) and touch columns no holding
reads: `absorb_closing`.
-/

namespace ServerPilot

open Rows

/-- The same leases and card rows, and every holding as it was or ended. -/
structure Closing (l l' : Ledger) : Prop where
  keys : SameKeys l l'
  ends : Ends l l'

section

variable {l l' l'' : Ledger}

theorem Closing.refl (l : Ledger) : Closing l l := ⟨.refl l, .of_eq .refl fun _ => rfl⟩

theorem Closing.trans (a : Closing l l') (b : Closing l' l'') : Closing l l'' :=
  ⟨a.keys.trans b.keys, a.ends.trans b.ends⟩

theorem Keeps.closing (k : Keeps l l') : Closing l l' := ⟨k.keys, k.ends⟩

theorem Closing.of_tables (h₁ : l'.leases = l.leases) (h₂ : l'.resources = l.resources)
    (h₃ : l'.commitments = l.commitments) : Closing l l' :=
  (Keeps.of_tables h₁ h₂ h₃).closing

theorem endLease_closing {i : String} {s : LeaseState} (hs : s.live = false)
    (reason : Option String) (now : Time) : Closing l (l.endLease i s reason now) :=
  ⟨sameKeys_endLease _ _ _ _, endLease_ends hs _ _⟩

end

variable {cfg : Config} {now : Time}

/-! ## Nodes -/

theorem releaseAbsentKeepers_closing (p : Plant) (l : Ledger) (endpointIds : List String) :
    Closing l (Broker.releaseAbsentKeepers ⟨p, l⟩ endpointIds now).ledger := by
  unfold Broker.releaseAbsentKeepers
  simp only
  split
  · exact .refl _
  have hf : ∀ ids : List String, Closing l (ids.foldl (releaseAbsentKeeper
      ("collector:" ++ (endpointIds.insertionSort (· ≤ ·)).headD "") now) l) := by
    intro ids
    apply Run.foldl_inv (I := Closing l) _ (.refl _)
    intro l' i _ hl
    exact hl.trans ((endLease_closing rfl _ now).trans (.of_tables rfl rfl rfl))
  split
  · exact hf _
  · exact (hf _).trans (.of_tables rfl rfl rfl)

/-- Ending the keepers of absent cards leaves the rows of every other lease. -/
theorem folio_releaseAbsentKeepers {b : Broker} {i : String} {endpointIds : List String}
    (hnot : i ∉ (b.absentKeepers endpointIds).map Lease.id) :
    (b.releaseAbsentKeepers endpointIds now).ledger.folio i = b.ledger.folio i := by
  have hfold : ∀ (actorId : String) (ids : List String), i ∉ ids →
      (ids.foldl (releaseAbsentKeeper actorId now) b.ledger).folio i = b.ledger.folio i := by
    intro actorId ids hids
    apply Run.foldl_inv (I := fun l : Ledger => l.folio i = b.ledger.folio i)
    · intro l j hj hl
      have hne : i ≠ j := fun he => hids (he ▸ hj)
      exact (folio_endLease_ne .released _ now hne).trans hl
    · rfl
  unfold Broker.releaseAbsentKeepers
  simp only
  split
  · rfl
  · split <;> exact hfold _ _ hnot

theorem ingestNodeObservation_closing (endpointId : String) (b : Broker) (o : NodeObservation) :
    Closing b.ledger (ingestNodeObservation cfg endpointId now b o).ledger := by
  unfold ingestNodeObservation
  split
  · exact .refl _
  · simp only
    split
    · exact .refl _
    · exact releaseAbsentKeepers_closing _ _ _

/-! ## Allocations -/

theorem ingestAllocation_closing (facts : List AllocationFact) (l : Ledger)
    (a : ResourceAllocation) : Closing l (ingestAllocation facts now l a) := by
  unfold ingestAllocation
  simp only
  split
  · exact .of_tables rfl rfl rfl
  split
  · exact .of_tables rfl rfl rfl
  split
  · refine Closing.trans ?_ (endLease_closing (s := .released) rfl _ now)
    exact .of_tables rfl rfl rfl
  · exact .of_tables rfl rfl rfl

theorem ingestAllocations_closing (now : Time) (l : Ledger) (o : EndpointObservation) :
    Closing l (l.ingestAllocations o now) := by
  unfold Ledger.ingestAllocations
  apply Run.foldl_inv (I := Closing l) _ (.refl _)
  intro l' a _ hl
  exact hl.trans (ingestAllocation_closing _ _ _)

/-! ## Leases -/

theorem recordObservedKeeper_keeps (b : Broker) (lease : Lease) :
    Keeps b.ledger (recordObservedKeeper now b lease).ledger := by
  unfold recordObservedKeeper
  split
  · simp only
    split
    · exact .of_edit (f := fun x => { x with lastHeartbeatAt := now, expiresAt := none })
        (fun _ => rfl) fun _ _ => ⟨rfl, rfl, rfl, rfl, rfl⟩
    · exact .refl _
  · exact .refl _

theorem recordObservedKeepalive_keeps (now : Time) (b : Broker) (endpointId : String)
    (complete : Bool) :
    Keeps b.ledger (b.recordObservedKeepalive endpointId complete now).ledger := by
  unfold Broker.recordObservedKeepalive
  split
  · exact .refl _
  · apply Run.foldl_inv (I := fun s : Broker => Keeps b.ledger s.ledger) _ (.refl _)
    intro s lease _ hs
    exact hs.trans (recordObservedKeeper_keeps s lease)

theorem bindNewWorkload_keeps {endpointId : String} {b : Broker} {lease : Lease}
    (hl : ∀ x, b.ledger.lease? lease.id = some x → x.state.live = true) :
    Keeps b.ledger (bindNewWorkload endpointId now b lease).ledger := by
  unfold bindNewWorkload
  simp only
  split
  · exact .refl _
  · refine Keeps.trans (.of_tables rfl rfl rfl) (Keeps.trans (.of_edit (i := lease.id)
      (f := Lease.activatedBySighting now) (fun _ => rfl) fun x hx => ⟨rfl, rfl, ?_, rfl, rfl⟩)
      (.of_tables rfl rfl rfl))
    exact (hl x hx).symm

/-- Leases bound by a sighting are live, and stay so. -/
theorem bindNewWorkloads_keeps {b : Broker} (hn : (b.ledger.leases.map Lease.id).Nodup)
    (endpointId : String) : Keeps b.ledger (b.bindNewWorkloads endpointId now).ledger := by
  unfold Broker.bindNewWorkloads
  apply Run.foldl_inv (I := fun s : Broker => Keeps b.ledger s.ledger) _ (.refl _)
  intro s lease hm hs
  obtain ⟨hx, hc⟩ := List.mem_filter.1 hm
  have hst : lease.state = .held ∨ lease.state = .active ∨ lease.state = .conflict := by
    simp only [decide_eq_true_eq] at hc
    exact hc.2.1
  refine hs.trans (bindNewWorkload_keeps fun x hx' => ?_)
  rw [hs.live (row?_of_mem hn hx) hx']
  rcases hst with h | h | h <;> rw [h] <;> rfl

theorem clearKeepaliveErrors_ledger (b : Broker) (endpointId : String) (complete : Bool) :
    (b.clearKeepaliveErrors cfg endpointId complete now).ledger = b.ledger := by
  unfold Broker.clearKeepaliveErrors
  split <;> rfl

/-! ## The observation -/

/-- The nodes of an observation end leases at most. -/
theorem nodes_closing (cfg : Config) (endpointId : String) (now : Time) (ns : List NodeObservation)
    (b : Broker) :
    Closing b.ledger (ns.foldl (ingestNodeObservation cfg endpointId now) b).ledger := by
  apply Run.foldl_inv (I := fun s : Broker => Closing b.ledger s.ledger) _ (.refl _)
  intro s n _ hs
  exact hs.trans (ingestNodeObservation_closing _ s n)

/-- A node that failed is told of in the plant alone. -/
theorem failures_ledger (cfg : Config) (endpointId : String) (now : Time) (fs : List NodeFailure)
    (b : Broker) : (fs.foldl (ingestNodeFailure cfg endpointId now) b).ledger = b.ledger := by
  apply Run.foldl_inv (I := fun s : Broker => s.ledger = b.ledger) _ rfl
  intro s f _ hs
  exact hs

/-- What comes after the nodes ends leases at most. -/
theorem absorb_after (cfg : Config) (now : Time) {b : Broker}
    (hn : (b.ledger.leases.map Lease.id).Nodup) (o : EndpointObservation) :
    Closing (o.nodes.foldl (ingestNodeObservation cfg o.endpointId now)
      { b with ledger := b.ledger.bumpRevision }).ledger (b.absorb cfg now o).ledger := by
  have hn₁ : ((o.nodes.foldl (ingestNodeObservation cfg o.endpointId now)
      { b with ledger := b.ledger.bumpRevision }).ledger.leases.map Lease.id).Nodup := by
    rw [(nodes_closing cfg o.endpointId now o.nodes _).keys.leases]
    exact hn
  unfold Broker.absorb
  simp only [clearKeepaliveErrors_ledger]
  generalize o.nodes.foldl (ingestNodeObservation cfg o.endpointId now)
    { b with ledger := b.ledger.bumpRevision } = b₁ at hn₁
  have h₂ : Closing b₁.ledger
      (o.failures.foldl (ingestNodeFailure cfg o.endpointId now) b₁).ledger := by
    rw [failures_ledger]
    exact .refl _
  generalize o.failures.foldl (ingestNodeFailure cfg o.endpointId now) b₁ = b₂ at h₂
  have h₃ := h₂.trans (ingestAllocations_closing now b₂.ledger o)
  have h₄ := h₃.trans (recordObservedKeepalive_keeps now ⟨b₂.plant.setProviderState
    (providerStateAfter b₂.plant o.endpointId (o.scheduler.isSome || o.complete) now),
    b₂.ledger.ingestAllocations o now⟩ o.endpointId o.complete).closing
  refine h₄.trans (bindNewWorkloads_keeps ?_ o.endpointId).closing
  rw [h₄.keys.leases]
  exact hn₁

/-- **Before the pass**, an observation ends leases or leaves them. -/
theorem absorb_closing (cfg : Config) (now : Time) {b : Broker}
    (hn : (b.ledger.leases.map Lease.id).Nodup)
    (o : EndpointObservation) : Closing b.ledger (b.absorb cfg now o).ledger := by
  have h₀ : Closing b.ledger { b with ledger := b.ledger.bumpRevision }.ledger :=
    .of_tables rfl rfl rfl
  exact h₀.trans ((nodes_closing cfg o.endpointId now o.nodes _).trans (absorb_after cfg now hn o))

end ServerPilot
