import ServerPilot.Proof.Shrink

/-!
# The reconciliation pass

One pass over the live leases only ever takes cards from leases and ends them:
`reconcileLeases_fades`. What an idle reclaim does to its lease is written out,
`holding_reconcileIdleLease`, and every step of the pass leaves the other leases'
rows alone.
-/

namespace ServerPilot

open Rows

/-- The key of a card row, the columns of `uq_lease_gpu`. -/
def LeaseResource.cardKey (r : LeaseResource) : String × String := (r.leaseId, r.gpuId)

/-- The columns a lease row was given: whose it is, for which task, on what terms. How far it has
come is left out. -/
def Lease.deed (x : Lease) : Lease :=
  { x with
    state := .held, expiresAt := none, lastHeartbeatAt := 0, activatedAt := none
    releasedAt := none, releaseReason := none, idleSince := none, resourceEpoch := 0
    agentSeenAuditId := none }

@[simp] theorem deed_id (x : Lease) : x.deed.id = x.id := rfl

@[simp] theorem deed_kind (x : Lease) : x.deed.kind = x.kind := rfl

@[simp] theorem deed_owner (x : Lease) : x.deed.ownerSessionId = x.ownerSessionId := rfl

/-- The same leases with the same card rows, however far they have come. -/
structure SameKeys (l l' : Ledger) : Prop where
  deeds : l'.leases.map Lease.deed = l.leases.map Lease.deed
  rows : l'.resources.map LeaseResource.cardKey = l.resources.map LeaseResource.cardKey

theorem SameKeys.refl (l : Ledger) : SameKeys l l := ⟨rfl, rfl⟩

/-- The same leases have the same ids. -/
theorem SameKeys.leases {l l' : Ledger} (k : SameKeys l l') :
    l'.leases.map Lease.id = l.leases.map Lease.id := by
  have h : ∀ xs : List Lease, xs.map Lease.id = (xs.map Lease.deed).map Lease.id := by
    intro xs
    rw [List.map_map]
    rfl
  rw [h l'.leases, h l.leases, k.deeds]

/-- An edit of how far a lease has come keeps its id. -/
theorem id_of_deed {f : Lease → Lease} (hd : ∀ x, (f x).deed = x.deed) (x : Lease) :
    (f x).id = x.id := by
  have h := congrArg Lease.id (hd x)
  rwa [deed_id, deed_id] at h

theorem SameKeys.trans {l l' l'' : Ledger} (a : SameKeys l l') (b : SameKeys l' l'') :
    SameKeys l l'' :=
  ⟨b.deeds.trans a.deeds, b.rows.trans a.rows⟩

section

variable {l : Ledger}

theorem sameKeys_editLease {i : String} {f : Lease → Lease} (hf : ∀ x, (f x).deed = x.deed) :
    SameKeys l (l.editLease i f) :=
  ⟨map_updWhere _ hf, rfl⟩

theorem sameKeys_editResources {p : LeaseResource → Bool} {f : LeaseResource → LeaseResource}
    (hf : ∀ r, (f r).cardKey = r.cardKey) : SameKeys l (l.editResources p f) :=
  ⟨rfl, map_updWhere _ hf⟩

theorem sameKeys_endLease (i : String) (st : LeaseState) (reason : Option String) (now : Time) :
    SameKeys l (l.endLease i st reason now) :=
  (sameKeys_editLease (f := Lease.ended st reason now) fun _ => rfl).trans
    (sameKeys_editResources (f := LeaseResource.dropped now) fun _ => rfl)

theorem sameKeys_settleCards (i : String) (gpuIds : List String) (reason releasedBy : String)
    (now : Time) : SameKeys l (l.settleCards i gpuIds reason releasedBy now) :=
  (sameKeys_editResources (f := LeaseResource.settled reason releasedBy now) fun _ => rfl).trans
    (sameKeys_editLease (f := Lease.raised) fun _ => rfl)

/-- With one row for each card, a lease's rows for one card are one row. -/
theorem cards_inj {id : String} (hn : (l.resources.map LeaseResource.cardKey).Nodup)
    {r r' : LeaseResource} (hr : r ∈ l.cards id) (hr' : r' ∈ l.cards id)
    (hg : r.gpuId = r'.gpuId) : r = r' := by
  rw [mem_cards] at hr hr'
  apply List.inj_on_of_nodup_map hn hr.1 hr'.1
  unfold LeaseResource.cardKey
  rw [hr.2.1, hr'.2.1, hg]

end

/-! ## Looking -/

@[simp] theorem look_leaseId (cfg : Config) (now : Time) (p : Plant) (r : LeaseResource) :
    (r.look cfg now p).leaseId = r.leaseId := by
  unfold LeaseResource.look
  simp only
  split <;> rfl

@[simp] theorem look_gpuId (cfg : Config) (now : Time) (p : Plant) (r : LeaseResource) :
    (r.look cfg now p).gpuId = r.gpuId := by
  unfold LeaseResource.look
  simp only
  split <;> rfl

@[simp] theorem look_active (cfg : Config) (now : Time) (p : Plant) (r : LeaseResource) :
    (r.look cfg now p).active = r.active := by
  unfold LeaseResource.look
  simp only
  split <;> rfl

section

variable (cfg : Config) (now : Time) {b : Broker}

theorem sameKeys_lookAtLease (id : String) : SameKeys b.ledger (b.lookAtLease cfg now id) := by
  have h := sameKeys_editResources (l := b.ledger) (f := LeaseResource.look cfg now b.plant)
    (p := fun r => r.leaseId = id ∧ r.active = true) fun r => by simp [LeaseResource.cardKey]
  exact h.trans ⟨map_updWhere _ fun _ => rfl, rfl⟩

theorem folio_lookAtLease_ne {id i : String} (h : id ≠ i) :
    (b.lookAtLease cfg now i).folio id = b.ledger.folio id := by
  unfold Broker.lookAtLease
  exact Eq.trans (folio_editLease_ne _ id i (fun _ => rfl) h)
    (folio_editResources_ne _ id i (look_leaseId cfg now b.plant) (by simp +contextual) h)

/-- A look changes no holding. -/
theorem holding_lookAtLease (id i : String) :
    (b.lookAtLease cfg now i).holding? id = b.ledger.holding? id := by
  unfold Broker.lookAtLease
  exact Eq.trans (holding_editLease (fun _ => rfl) fun _ _ => ⟨rfl, rfl, rfl, rfl, rfl⟩)
    (holding_editResources (look_leaseId cfg now b.plant) (look_gpuId cfg now b.plant)
      (look_active cfg now b.plant))

/-- The cards after a look are the ones before it. -/
theorem cardSet_lookAtLease (id i : String) :
    ((b.lookAtLease cfg now i).folio id).cardSet = (b.ledger.folio id).cardSet := by
  have hk : ∀ rows : List LeaseResource,
      ((updWhere (fun r => decide (r.leaseId = i ∧ r.active = true))
        (LeaseResource.look cfg now b.plant)
        rows).filter fun r => r.active).map LeaseResource.gpuId =
      (rows.filter fun r => r.active).map LeaseResource.gpuId := by
    intro rows
    rw [filter_updWhere _ (look_active cfg now b.plant),
      map_updWhere _ (look_gpuId cfg now b.plant)]
  have hf : ((b.lookAtLease cfg now i).folio id).rows =
      updWhere (fun r => decide (r.leaseId = i ∧ r.active = true))
        (LeaseResource.look cfg now b.plant)
        (b.ledger.folio id).rows := by
    have h := folio_editResources b.ledger id (look_leaseId cfg now b.plant)
      (p := fun r => decide (r.leaseId = i ∧ r.active = true))
    exact congrArg Folio.rows h
  unfold Folio.cardSet Folio.active
  rw [hf, hk]

end

/-! ## Idle reclaims -/

/-- The cards an idle reclaim takes. -/
def Broker.dueCards (cfg : Config) (now : Time) (b : Broker) (lease : Lease) : Finset String :=
  ((b.reclaimedCards cfg now lease).map LeaseResource.gpuId).toFinset

section

variable {cfg : Config} {now : Time} {b : Broker}

theorem reclaimedCards_subset {lease : Lease} {r : LeaseResource}
    (h : r ∈ b.reclaimedCards cfg now lease) :
    r ∈ (b.lookAtLease cfg now lease.id).cards lease.id :=
  (List.mem_filter.1 h).1

theorem reclaimed_mem_cardSet {lease : Lease} {r : LeaseResource}
    (h : r ∈ b.reclaimedCards cfg now lease) : r.gpuId ∈ (b.ledger.folio lease.id).cardSet := by
  rw [← cardSet_lookAtLease cfg now lease.id lease.id, mem_cardSet]
  exact ⟨r, reclaimedCards_subset h, rfl⟩

/-- Nothing remains exactly when every card is about to go. -/
theorem remainingCards_eq_nil_iff {lease : Lease}
    (hn : (b.ledger.resources.map LeaseResource.cardKey).Nodup) :
    b.remainingCards cfg now lease = [] ↔
      (b.ledger.folio lease.id).cardSet ⊆ b.dueCards cfg now lease := by
  have hn' : ((b.lookAtLease cfg now lease.id).resources.map LeaseResource.cardKey).Nodup := by
    rw [(sameKeys_lookAtLease cfg now lease.id).rows]
    exact hn
  unfold Broker.remainingCards
  rw [← cardSet_lookAtLease cfg now lease.id lease.id]
  constructor
  · intro h g hg
    obtain ⟨r, hr, rfl⟩ := mem_cardSet.1 hg
    have hmem := List.filter_eq_nil_iff.1 h r hr
    exact List.mem_toFinset.2 (List.mem_map_of_mem (by simpa using hmem))
  · intro h
    rw [List.filter_eq_nil_iff]
    intro r hr
    obtain ⟨r', hr', hg⟩ := List.mem_map.1 (List.mem_toFinset.1 (h (mem_cardSet.2 ⟨r, hr, rfl⟩)))
    have he : r' = r := cards_inj hn' (reclaimedCards_subset hr') hr hg
    simpa using he ▸ hr'

variable (actorId : String) (token : String → String)

theorem folio_settleReclaimed_ne {lease : Lease} {id : String} (h : id ≠ lease.id) :
    (b.settleReclaimed cfg now actorId lease).folio id = b.ledger.folio id := by
  have hs := (folio_settleCards_ne ((b.reclaimedCards cfg now lease).map LeaseResource.gpuId)
    "idle without observed process" actorId now h).trans (folio_lookAtLease_ne cfg
      now (b := b) h)
  unfold Broker.settleReclaimed
  simp only
  split
  · exact hs
  · rw [folio_editLease_ne _ id lease.id (f := Lease.idleEnded now) (fun _ => rfl) h]
    exact hs

theorem sameKeys_settleReclaimed (lease : Lease) :
    SameKeys b.ledger (b.settleReclaimed cfg now actorId lease) := by
  have hs : SameKeys b.ledger ((b.lookAtLease cfg now lease.id).settleCards lease.id
      ((b.reclaimedCards cfg now lease).map LeaseResource.gpuId) "idle without observed process"
      actorId now) :=
    (sameKeys_lookAtLease cfg now _).trans (sameKeys_settleCards _ _ _ _ _)
  unfold Broker.settleReclaimed
  simp only
  split
  · exact hs
  · exact hs.trans (sameKeys_editLease (f := Lease.idleEnded now) fun _ => rfl)

/-- What settling the reclaimed cards does to the holding. -/
theorem holding_settleReclaimed {lease : Lease}
    (hn : (b.ledger.resources.map LeaseResource.cardKey).Nodup) :
    (b.settleReclaimed cfg now actorId lease).holding? lease.id =
      (b.ledger.holding? lease.id).map (Holding.lose (b.dueCards cfg now lease)) := by
  have hl := holding_lookAtLease cfg now (b := b) lease.id lease.id
  unfold Broker.settleReclaimed
  simp only
  by_cases hr : b.remainingCards cfg now lease = []
  · have hS := (remainingCards_eq_nil_iff hn).1 hr
    rw [if_neg (not_not.2 hr), holding_ended (f := Lease.idleEnded now) (fun _ _ _ => rfl)
      (fun _ => rfl), hl]
    refine Option.map_congr fun h hh => ?_
    unfold Holding.lose
    rw [holding_cards hh, if_pos hS]
    rfl
  · have hS : ¬ (b.ledger.folio lease.id).cardSet ⊆ b.dueCards cfg now lease :=
      fun hs => hr ((remainingCards_eq_nil_iff hn).2 hs)
    rw [if_pos hr, holding_settleCards, hl]
    refine Option.map_congr fun h hh => ?_
    unfold Holding.lose
    rw [holding_cards hh, if_neg hS]
    rfl

/-- With no card due, an idle reclaim is at most a look. -/
theorem reconcileIdleLease_none {lease : Lease} (hr : b.reclaimedCards cfg now lease = []) :
    b.reconcileIdleLease cfg now actorId token lease = b ∨
      b.reconcileIdleLease cfg now actorId token lease =
        { b with ledger := b.lookAtLease cfg now lease.id } := by
  unfold Broker.reconcileIdleLease
  simp only [hr, if_true]
  split
  · exact Or.inl rfl
  · exact Or.inr rfl

/-- With a card due, every folio is as settling leaves it. -/
theorem folio_reconcileIdleLease {lease : Lease} (hr : b.reclaimedCards cfg now lease ≠ [])
    (id : String) :
    (b.reconcileIdleLease cfg now actorId token lease).ledger.folio id =
      (b.settleReclaimed cfg now actorId lease).folio id := by
  have hc : (b.lookAtLease cfg now lease.id).cards lease.id ≠ [] := by
    intro h
    apply hr
    unfold Broker.reclaimedCards
    rw [h]
    rfl
  unfold Broker.reconcileIdleLease
  simp only
  rw [if_neg hc, if_neg hr]
  rfl

theorem folio_reconcileIdleLease_ne {lease : Lease} {id : String} (h : id ≠ lease.id) :
    (b.reconcileIdleLease cfg now actorId token lease).ledger.folio id = b.ledger.folio id := by
  by_cases hr : b.reclaimedCards cfg now lease = []
  · rcases reconcileIdleLease_none actorId token hr with he | he
    · rw [he]
    · rw [he]
      exact folio_lookAtLease_ne cfg now h
  · rw [folio_reconcileIdleLease actorId token hr, folio_settleReclaimed_ne actorId h]

theorem plant_reconcileIdleLease {lease : Lease} :
    (b.reconcileIdleLease cfg now actorId token lease).plant = b.plant := by
  unfold Broker.reconcileIdleLease
  simp only
  split
  · rfl
  split <;> rfl

theorem sameKeys_reconcileIdleLease {lease : Lease} :
    SameKeys b.ledger (b.reconcileIdleLease cfg now actorId token lease).ledger := by
  unfold Broker.reconcileIdleLease
  simp only
  split
  · exact .refl _
  split
  · exact sameKeys_lookAtLease cfg now _
  · have hs : SameKeys b.ledger (b.settleReclaimed cfg now actorId lease) :=
      sameKeys_settleReclaimed actorId lease
    exact ⟨hs.deeds, hs.rows⟩

/-- **An idle reclaim** takes exactly the cards that are due, and ends a lease they were all of. -/
theorem holding_reconcileIdleLease (cfg : Config) (now : Time) (actorId : String)
    (token : String → String) (lease : Lease)
    (hn : (b.ledger.resources.map LeaseResource.cardKey).Nodup) :
    (b.reconcileIdleLease cfg now actorId token lease).ledger.holding? lease.id =
      if b.reclaimedCards cfg now lease = [] then b.ledger.holding? lease.id
      else (b.ledger.holding? lease.id).map (Holding.lose (b.dueCards cfg now lease)) := by
  by_cases hr : b.reclaimedCards cfg now lease = []
  · rw [if_pos hr]
    rcases reconcileIdleLease_none actorId token hr with he | he
    · rw [he]
    · rw [he]
      exact holding_lookAtLease cfg now _ _
  · rw [if_neg hr, holding_congr (folio_reconcileIdleLease actorId token hr _)]
    exact holding_settleReclaimed actorId hn

theorem reconcileIdleLease_fades (lease : Lease)
    (hn : (b.ledger.resources.map LeaseResource.cardKey).Nodup) :
    Fades b.ledger (b.reconcileIdleLease cfg now actorId token lease).ledger := by
  have hne : ∀ id, id ≠ lease.id →
      (b.reconcileIdleLease cfg now actorId token lease).ledger.holding? id =
        b.ledger.holding? id := fun id h =>
          holding_congr (folio_reconcileIdleLease_ne actorId token h)
  have hi := holding_reconcileIdleLease cfg now actorId token lease hn
  by_cases hr : b.reclaimedCards cfg now lease = []
  · rw [if_pos hr] at hi
    exact .of_map .refl hne (by simpa using hi) fun h _ => .refl h
  · rw [if_neg hr] at hi
    obtain ⟨r, hr⟩ := List.exists_mem_of_ne_nil _ hr
    refine .of_map .refl hne hi fun h hh => Holding.lose_shrinks (Or.inr ⟨r.gpuId, ?_, ?_⟩)
    · rw [holding_cards hh]
      exact reclaimed_mem_cardSet hr
    · exact List.mem_toFinset.2 (List.mem_map_of_mem hr)

end

/-! ## Visiting a lease -/

/-- What visiting lease `i` in a pass may do: nothing to the plant, nothing to other leases. -/
structure Visit (i : String) (b b' : Broker) : Prop where
  plant : b'.plant = b.plant
  keys : SameKeys b.ledger b'.ledger
  others : ∀ id, id ≠ i → b'.ledger.folio id = b.ledger.folio id
  fades : (b.ledger.resources.map LeaseResource.cardKey).Nodup → Fades b.ledger b'.ledger

theorem Visit.refl (i : String) (b : Broker) : Visit i b b :=
  ⟨rfl, .refl _, fun _ _ => rfl, fun _ => .of_eq .refl fun _ => rfl⟩

theorem Visit.trans {i : String} {b b' b'' : Broker} (v : Visit i b b') (w : Visit i b' b'') :
    Visit i b b'' := by
  refine ⟨w.plant.trans v.plant, v.keys.trans w.keys,
    fun id h => (w.others id h).trans (v.others id h), fun hn => ?_⟩
  have hn' := hn
  rw [← v.keys.rows] at hn'
  exact (v.fades hn).trans (w.fades hn')

/-- The three tables are untouched. -/
theorem Visit.of_tables {i : String} {b b' : Broker} (hp : b'.plant = b.plant)
    (h₁ : b'.ledger.leases = b.ledger.leases) (h₂ : b'.ledger.resources = b.ledger.resources)
    (h₃ : b'.ledger.commitments = b.ledger.commitments) : Visit i b b' :=
  ⟨hp, ⟨by rw [h₁], by rw [h₂]⟩, fun id _ => folio_congr id h₁ h₂ h₃,
    fun _ => .of_eq .refl fun id => holding_congr (folio_congr id h₁ h₂ h₃)⟩

/-- A harmless edit of the lease row. -/
theorem Visit.of_edit {b : Broker} {i : String} {f : Lease → Lease}
    (hd : ∀ x, (f x).deed = x.deed) (hf : ∀ x, b.ledger.lease? i = some x → Harmless f x) :
    Visit i b { b with ledger := b.ledger.editLease i f } :=
  ⟨rfl, sameKeys_editLease hd, fun id h => folio_editLease_ne _ id i (id_of_deed hd) h,
    fun _ => .of_eq .refl fun _ => holding_editLease (id_of_deed hd) hf⟩

/-- The end of the lease. -/
theorem Visit.of_end {b : Broker} {i : String} {st : LeaseState} (hst : st.live = false)
    (reason : Option String) (now : Time) :
    Visit i b { b with ledger := b.ledger.endLease i st reason now } :=
  ⟨rfl, sameKeys_endLease _ _ _ _, fun _ h => folio_endLease_ne _ _ _ h,
    fun _ => (endLease_ends hst _ _).fades⟩

theorem Visit.audit {i : String} {b b' : Broker} (v : Visit i b b') (a : Option String)
    (x t r s : String) (d : Details) (now : Time) :
    Visit i b { b' with ledger := b'.ledger.addAudit a x t r s d now } :=
  v.trans (.of_tables rfl rfl rfl rfl)

section

variable {cfg : Config} {now : Time} {actorId : String} {s : Pass}

theorem reconcileAllocation_visit (lease : Lease) (a : ResourceAllocation) :
    Visit lease.id s.1 (reconcileAllocation cfg now lease a s).1 := by
  unfold reconcileAllocation
  simp only
  split
  · exact .refl _ _
  split
  · exact .of_tables rfl rfl rfl rfl
  split <;> exact .of_tables rfl rfl rfl rfl

theorem reconcileExpiry_visit {processes : Bool} {lease : Lease}
    (hl : s.1.ledger.lease? lease.id = some lease) :
    Visit lease.id s.1 (reconcileExpiry now actorId processes lease s).1 := by
  unfold reconcileExpiry
  split
  · rename_i hs
    cases processes with
    | true =>
      refine (Visit.of_edit (f := fun x => { x with state := .orphanedBusy }) (fun _ => rfl)
        fun x hx => ?_).audit _ _ _ _ _ _ _
      rw [hl] at hx
      cases hx
      rcases hs.1 with h | h <;> exact ⟨rfl, rfl, by rw [h]; rfl, rfl, rfl⟩
    | false =>
      exact (Visit.of_end rfl _ _).audit _ _ _ _ _ _ _
  · exact .refl _ _

theorem reconcileIdleLease_visit (b : Broker) (token : String → String) (lease : Lease) :
    Visit lease.id b (b.reconcileIdleLease cfg now actorId token lease) :=
  ⟨plant_reconcileIdleLease actorId token, sameKeys_reconcileIdleLease actorId token,
    fun _ h => folio_reconcileIdleLease_ne actorId token h,
    reconcileIdleLease_fades actorId token lease⟩

theorem reconcileDirect_visit {token : String → String} (lease : Lease) :
    Visit lease.id s.1 (reconcileDirect cfg now actorId token lease s).1 := by
  unfold reconcileDirect
  simp only
  split
  · have hi : Visit lease.id s.1 (s.1.reconcileIdleLease cfg now actorId token lease) :=
      reconcileIdleLease_visit s.1 token lease
    split
    · exact hi
    · rename_i row hrow
      have hid := lease?_id hrow
      split
      · exact hi
      · refine hi.trans ?_
        rw [← hid]
        exact reconcileExpiry_visit (s := (_, s.2)) (by rw [hid]; exact hrow)
  · exact .refl _ _

/-- **A visit in a pass**: nothing happens to the plant or to another lease, and the lease itself
is as it was, lost cards or ended. -/
theorem reconcileLease_visit {token : String → String → String} (i : String) :
    Visit i s.1 (reconcileLease cfg now actorId token s i).1 := by
  unfold reconcileLease
  split
  · exact .refl _ _
  · rename_i lease hl
    have hid := lease?_id hl
    split
    · exact .of_edit (f := fun x => { x with expiresAt := none }) (fun _ => rfl)
        fun x _ => ⟨rfl, rfl, rfl, rfl, rfl⟩
    · split
      · rw [← hid]
        exact reconcileAllocation_visit lease _
      · rw [← hid]
        exact reconcileDirect_visit lease

end

/-! ## The pass -/

/-- What a pass may do: nothing to the plant, and nothing to leases it does not visit. -/
structure Sweep (ids : List String) (b b' : Broker) : Prop where
  plant : b'.plant = b.plant
  keys : SameKeys b.ledger b'.ledger
  others : ∀ id, id ∉ ids → b'.ledger.folio id = b.ledger.folio id
  fades : (b.ledger.resources.map LeaseResource.cardKey).Nodup → Fades b.ledger b'.ledger

theorem foldl_visit_sweep {σ : Type*} {f : σ → String → σ} (view : σ → Broker)
    (hf : ∀ s i, Visit i (view s) (view (f s i))) (ids : List String) (s : σ) :
    Sweep ids (view s) (view (ids.foldl f s)) := by
  induction ids generalizing s with
  | nil => exact ⟨rfl, .refl _, fun _ _ => rfl, fun _ => .of_eq .refl fun _ => rfl⟩
  | cons i ids ih =>
    have hv := hf s i
    have hs := ih (f s i)
    refine ⟨hs.plant.trans hv.plant, hv.keys.trans hs.keys, fun id h => ?_, fun hn => ?_⟩
    · have h := not_or.1 (List.mem_cons.not.1 h)
      exact (hs.others id h.2).trans (hv.others id h.1)
    · have hn' := hn
      rw [← hv.keys.rows] at hn'
      exact (hv.fades hn).trans (hs.fades hn')

/-- The same leases and card rows, and every holding as it was. -/
structure Keeps (l l' : Ledger) : Prop where
  keys : SameKeys l l'
  holding : ∀ id, l'.holding? id = l.holding? id

section

variable {l l' l'' : Ledger}

theorem Keeps.refl (l : Ledger) : Keeps l l := ⟨.refl l, fun _ => rfl⟩

theorem Keeps.trans (a : Keeps l l') (b : Keeps l' l'') : Keeps l l'' :=
  ⟨a.keys.trans b.keys, fun id => (b.holding id).trans (a.holding id)⟩

theorem Keeps.of_tables (h₁ : l'.leases = l.leases) (h₂ : l'.resources = l.resources)
    (h₃ : l'.commitments = l.commitments) : Keeps l l' :=
  ⟨⟨by rw [h₁], by rw [h₂]⟩, fun id => holding_congr (folio_congr id h₁ h₂ h₃)⟩

theorem Keeps.of_edit {i : String} {f : Lease → Lease} (hd : ∀ x, (f x).deed = x.deed)
    (hf : ∀ x, l.lease? i = some x → Harmless f x) : Keeps l (l.editLease i f) :=
  ⟨sameKeys_editLease hd, fun _ => holding_editLease (id_of_deed hd) hf⟩

theorem Keeps.ends (k : Keeps l l') : Ends l l' := .of_eq .refl k.holding

/-- A lease keeps being live, or not, as long as its holding stays. -/
theorem Keeps.live (k : Keeps l l') {id : String} {x y : Lease} (hx : l.lease? id = some x)
    (hy : l'.lease? id = some y) : y.state.live = x.state.live := by
  have h := k.holding id
  rw [holding_of_lease hx, holding_of_lease hy] at h
  exact congrArg Holding.live (Option.some.inj h)

end

section

variable {cfg : Config} {now : Time} {actorId : String} {token : String → String → String}

/-- Legacy conflicts are live leases, and stay so. -/
theorem normalizeConflicts_keeps {l : Ledger} (hn : (l.leases.map Lease.id).Nodup) :
    Keeps l (l.normalizeConflicts actorId now) := by
  unfold Ledger.normalizeConflicts
  apply Run.foldl_inv (I := Keeps l) _ (.refl l)
  intro l' i hi k
  obtain ⟨x, hx, rfl⟩ := List.mem_map.1 hi
  obtain ⟨hx, hs⟩ := List.mem_filter.1 hx
  have hs : x.state = .conflict := (by simpa using hs : _ ∧ _).2
  refine k.trans (.trans (.of_edit (f := fun x => { x with state := .active }) (fun _ => rfl)
    fun y hy => ⟨rfl, rfl, ?_, rfl, rfl⟩) (.of_tables rfl rfl rfl))
  rw [k.live (row?_of_mem hn hx) hy, hs]
  rfl

/-- **The pass** after conflicts were normalized is a sweep of the live leases. -/
theorem reconcileLeases_sweep (b : Broker) :
    let b₁ := { b with ledger := b.ledger.normalizeConflicts actorId now }
    Sweep b₁.ledger.liveLeaseIds b₁ (b.reconcileLeases cfg now actorId token).1 := by
  intro b₁
  exact foldl_visit_sweep Prod.fst (fun _ i => reconcileLease_visit i) b₁.ledger.liveLeaseIds
    (b₁, [])

end

end ServerPilot
