import ServerPilot.Model.Holding
import ServerPilot.Spec.Op

/-!
# The rows of one lease

Every claim about a lease reads the rows keyed by its id: the lease row, its card
rows and its commitments. `Ledger.folio` collects them, the lemmas here say what
each ledger write does to a folio, and `Ledger.holding?` reads a folio as a
`Holding`.
-/

namespace ServerPilot

open Rows

/-- The rows of one lease. -/
structure Folio where
  lease : Option Lease
  rows : List LeaseResource
  pledges : List Commitment

def Ledger.folio (l : Ledger) (id : String) : Folio :=
  { lease := l.lease? id
    rows := l.resources.filter fun r => r.leaseId = id
    pledges := l.commitments.filter fun c => c.leaseId = id }

/-- The active card rows. -/
def Folio.active (f : Folio) : List LeaseResource := f.rows.filter fun r => r.active

theorem folio_active (l : Ledger) (id : String) : (l.folio id).active = l.cards id := by
  unfold Folio.active Ledger.folio Ledger.cards
  rw [List.filter_filter]
  apply List.filter_congr
  intro r _
  by_cases h : r.leaseId = id <;> simp [h]

@[simp] theorem folio_lease (l : Ledger) (id : String) : (l.folio id).lease = l.lease? id := rfl

theorem lease?_id {l : Ledger} {id : String} {x : Lease} (h : l.lease? id = some x) : x.id = id :=
  (row?_some h).2

theorem lease?_mem {l : Ledger} {id : String} {x : Lease} (h : l.lease? id = some x) :
    x ∈ l.leases := (row?_some h).1

theorem lease?_eq_none {l : Ledger} {id : String} :
    l.lease? id = none ↔ id ∉ l.leases.map Lease.id := by
  constructor
  · intro h hm
    obtain ⟨x, hx, he⟩ := List.mem_map.1 hm
    exact row?_none h x hx he
  · intro h
    cases hx : l.lease? id with
    | none => rfl
    | some x => exact absurd (List.mem_map.2 ⟨x, lease?_mem hx, lease?_id hx⟩) h

theorem mem_cards {l : Ledger} {id : String} {r : LeaseResource} :
    r ∈ l.cards id ↔ r ∈ l.resources ∧ r.leaseId = id ∧ r.active = true := by
  simp [Ledger.cards]

/-! ## Writes -/

/-- An answer kept under its key is the only thing `remember` writes. -/
theorem remember_eq (l : Ledger) (actor : ActorContext) (action : String) (key : Option String)
    (r : Response) (now : Time) :
    ∃ idempotency, l.remember actor action key r now = { l with idempotency } := by
  cases key with
  | none => exact ⟨l.idempotency, rfl⟩
  | some k => exact ⟨_, rfl⟩

section

variable (l : Ledger) (id i : String)

/-- A ledger with the same three tables has the same folios. -/
theorem folio_congr {l l' : Ledger} (h₁ : l'.leases = l.leases) (h₂ : l'.resources = l.resources)
    (h₃ : l'.commitments = l.commitments) : l'.folio id = l.folio id := by
  unfold Ledger.folio Ledger.lease?
  rw [h₁, h₂, h₃]

@[simp] theorem folio_bumpRevision : l.bumpRevision.folio id = l.folio id := rfl

@[simp] theorem folio_addAudit (a : Option String) (x t r s : String) (d : Details) (now : Time) :
    (l.addAudit a x t r s d now).folio id = l.folio id := rfl

@[simp] theorem folio_editAllocations (p : ResourceAllocation → Bool)
    (f : ResourceAllocation → ResourceAllocation) :
    (l.editAllocations p f).folio id = l.folio id := rfl

@[simp] theorem folio_remember (actor : ActorContext) (action : String) (key : Option String)
    (r : Response) (now : Time) : (l.remember actor action key r now).folio id = l.folio id := by
  cases key <;> rfl

@[simp] theorem folio_syncDirect (b : Broker) (lease : Lease) (gpus : List GPUDevice)
    (token : String → String) (now : Time) :
    (b.syncDirectAllocations lease gpus token now).ledger.folio id = b.ledger.folio id := rfl

variable {f : Lease → Lease} {p : LeaseResource → Bool} {g : LeaseResource → LeaseResource}

theorem lease?_editLease (hf : ∀ x, (f x).id = x.id) :
    (l.editLease i f).lease? id = if id = i then (l.lease? id).map f else l.lease? id := by
  unfold Ledger.editLease Ledger.lease?
  rw [row?_updWhere hf]
  by_cases h : id = i
  · rw [if_pos h]
    cases hx : row? Lease.id id l.leases with
    | none => rfl
    | some x => simp [(row?_some hx).2, h]
  · rw [if_neg h]
    cases hx : row? Lease.id id l.leases with
    | none => rfl
    | some x => simp [(row?_some hx).2, h]

theorem folio_editLease (hf : ∀ x, (f x).id = x.id) :
    (l.editLease i f).folio id =
      { l.folio id with lease := if id = i then (l.lease? id).map f else l.lease? id } := by
  rw [← lease?_editLease l id i hf]
  rfl

theorem folio_editLease_ne (hf : ∀ x, (f x).id = x.id) (h : id ≠ i) :
    (l.editLease i f).folio id = l.folio id := by
  rw [folio_editLease l id i hf, if_neg h]
  rfl

theorem folio_editResources (hg : ∀ r, (g r).leaseId = r.leaseId) :
    (l.editResources p g).folio id =
      { l.folio id with rows := updWhere p g (l.folio id).rows } := by
  have hr : (updWhere p g l.resources).filter (fun r => r.leaseId = id) =
      updWhere p g (l.resources.filter fun r => r.leaseId = id) :=
    filter_updWhere _ fun r => by simp [hg r]
  unfold Ledger.editResources Ledger.folio
  simp only [hr, Folio.mk.injEq, and_true]
  rfl

/-- A write that only meets rows of lease `i` leaves every other folio alone. -/
theorem folio_editResources_ne (hg : ∀ r, (g r).leaseId = r.leaseId)
    (hp : ∀ r, p r = true → r.leaseId = i) (h : id ≠ i) :
    (l.editResources p g).folio id = l.folio id := by
  rw [folio_editResources l id hg, updWhere_of_none]
  intro r hr
  have hid : r.leaseId = id := by simpa using (List.mem_filter.1 hr).2
  by_contra hc
  exact h (hid ▸ hp r (by simpa using hc))

/-- Card rows inserted for lease `i`. -/
theorem folio_addRows (rows : List LeaseResource) (hr : ∀ r ∈ rows, r.leaseId = i) :
    { l with resources := l.resources ++ rows : Ledger }.folio id =
      { l.folio id with rows := (l.folio id).rows ++ if id = i then rows else [] } := by
  unfold Ledger.folio
  simp only [Folio.mk.injEq, List.filter_append, List.append_cancel_left_eq, and_true]
  refine ⟨rfl, ?_⟩
  by_cases h : id = i
  · rw [if_pos h, List.filter_eq_self]
    intro r hm
    simp [hr r hm, h]
  · rw [if_neg h, List.filter_eq_nil_iff]
    intro r hm
    simp [hr r hm, Ne.symm h]

/-- The rows of a new lease. -/
theorem folio_insertLease (lease : Lease) (gpuIds : List String) (cs : List Commitment)
    (hc : ∀ c ∈ cs, c.leaseId = lease.id) :
    (l.insertLease lease gpuIds cs).folio id =
      if id = lease.id then
        { lease := (l.lease? id).or (some lease)
          rows := (l.folio id).rows ++ gpuIds.map fun g => { leaseId := lease.id, gpuId := g }
          pledges := (l.folio id).pledges ++ cs }
      else l.folio id := by
  have hl : (l.insertLease lease gpuIds cs).lease? id =
      if id = lease.id then (l.lease? id).or (some lease) else l.lease? id := by
    unfold Ledger.insertLease Ledger.lease?
    rw [row?_append]
    by_cases h : id = lease.id
    · simp [h, row?]
    · simp [h, row?, Ne.symm h]
  by_cases h : id = lease.id
  · rw [if_pos h] at hl ⊢
    unfold Ledger.folio
    simp only [Folio.mk.injEq]
    refine ⟨hl, ?_, ?_⟩
    · simp [Ledger.insertLease, List.filter_append, h, List.filter_map, Function.comp_def]
    · have hcs : cs.filter (fun c => c.leaseId = id) = cs := by
        rw [List.filter_eq_self]
        intro c hm
        simp [hc c hm, h]
      simp [Ledger.insertLease, List.filter_append, hcs]
  · rw [if_neg h] at hl ⊢
    unfold Ledger.folio
    simp only [Folio.mk.injEq]
    refine ⟨hl, ?_, ?_⟩
    · simp [Ledger.insertLease, List.filter_append, List.filter_map, Function.comp_def, Ne.symm h]
    · have hcs : cs.filter (fun c => c.leaseId = id) = [] := by
        rw [List.filter_eq_nil_iff]
        intro c hm
        simp [hc c hm, Ne.symm h]
      simp [Ledger.insertLease, List.filter_append, hcs]

end

/-! ## Holdings -/

/-- The cards of a folio. -/
def Folio.cardSet (f : Folio) : Finset String := (f.active.map LeaseResource.gpuId).toFinset

/-- The servers a folio has commitments on. -/
def Folio.pledged (f : Folio) : Finset String := (f.pledges.map Commitment.endpointId).toFinset

/-- A lease with these cards and commitments, as a holding. -/
def Lease.holding (x : Lease) (cards pledged : Finset String) : Holding String String :=
  { direct := !x.delegated
    pledging := !x.delegated && decide (x.kind = .workload)
    live := x.state.live, stamped := x.releasedAt.isSome, epoch := x.resourceEpoch, cards, pledged }

/-- What a lease's rows stand for. -/
def Folio.holding? (f : Folio) : Option (Holding String String) :=
  f.lease.map fun x => x.holding f.cardSet f.pledged

/-- The holding of lease `id`. -/
def Ledger.holding? (l : Ledger) (id : String) : Option (Holding String String) :=
  (l.folio id).holding?

/-- A row in front of a list that is never empty of keys: a held card. -/
theorem mem_cardSet {l : Ledger} {id g : String} :
    g ∈ (l.folio id).cardSet ↔ ∃ r ∈ l.cards id, r.gpuId = g := by
  unfold Folio.cardSet
  rw [folio_active, List.mem_toFinset, List.mem_map]

theorem cardSet_nonempty {f : Folio} : f.cardSet.Nonempty ↔ f.active ≠ [] := by
  unfold Folio.cardSet
  simp [List.toFinset_nonempty_iff]

/-- The edit leaves what a holding reads of a lease row. -/
structure Harmless (f : Lease → Lease) (x : Lease) : Prop where
  delegated : (f x).delegated = x.delegated
  kind : (f x).kind = x.kind
  live : (f x).state.live = x.state.live
  stamped : (f x).releasedAt.isSome = x.releasedAt.isSome
  epoch : (f x).resourceEpoch = x.resourceEpoch

theorem Harmless.holding {f : Lease → Lease} {x : Lease} (h : Harmless f x)
    (cards pledged : Finset String) : (f x).holding cards pledged = x.holding cards pledged := by
  unfold Lease.holding
  rw [h.delegated, h.kind, h.live, h.stamped, h.epoch]

/-- Harmless edits of a lease row leave every holding. -/
theorem holding_editLease {l : Ledger} {id i : String} {f : Lease → Lease}
    (hid : ∀ x, (f x).id = x.id) (hf : ∀ x, l.lease? i = some x → Harmless f x) :
    (l.editLease i f).holding? id = l.holding? id := by
  unfold Ledger.holding?
  rw [folio_editLease l id i hid]
  by_cases h : id = i
  · subst h
    cases hx : l.lease? id with
    | none => simp [Folio.holding?, hx]
    | some x =>
      simp only [Folio.holding?, if_true, hx, Option.map_some, Option.some.injEq, folio_lease]
      exact (hf x hx).holding _ _
  · rw [if_neg h]
    rfl

/-- Row writes that keep each row's card and whether it is active leave who holds which card. -/
theorem cardSet_editResources {l : Ledger} {id : String} {p : LeaseResource → Bool}
    {g : LeaseResource → LeaseResource} (h₁ : ∀ r, (g r).leaseId = r.leaseId)
    (h₂ : ∀ r, (g r).gpuId = r.gpuId) (h₃ : ∀ r, (g r).active = r.active) :
    ((l.editResources p g).folio id).cardSet = (l.folio id).cardSet := by
  rw [folio_editResources l id h₁]
  unfold Folio.cardSet Folio.active
  rw [filter_updWhere _ h₃, map_updWhere _ h₂]

theorem holding_editResources {l : Ledger} {id : String} {p : LeaseResource → Bool}
    {g : LeaseResource → LeaseResource} (h₁ : ∀ r, (g r).leaseId = r.leaseId)
    (h₂ : ∀ r, (g r).gpuId = r.gpuId) (h₃ : ∀ r, (g r).active = r.active) :
    (l.editResources p g).holding? id = l.holding? id := by
  have hcards : ((l.editResources p g).folio id).cardSet = (l.folio id).cardSet :=
    cardSet_editResources h₁ h₂ h₃
  unfold Ledger.holding? Folio.holding?
  rw [hcards]
  rw [folio_editResources l id h₁]
  rfl

end ServerPilot
