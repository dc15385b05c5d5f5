import ServerPilot.Proof.Fleet
import ServerPilot.Proof.Provided
import ServerPilot.Proof.Replay

/-!
# Project limits

Claims, resizes and prepared provider claims are checked against the usage of
their project. `Ledger.load` is that usage as a total over the leases and the
allocations no lease has yet, and `apply_within` follows it through every
transaction. Two things reach a limit unchecked: a takeover into another project,
and a provider that reports more than was asked of it. `run_within_limits`.
-/

namespace ServerPilot

open Rows Checked

/-! ## Usage as a total -/

/-- The usage is within the project's limits. -/
structure Project.Within (p : Project) (gpus leases : ℕ) : Prop where
  quota : ∀ q ∈ p.quotaGpus, gpus ≤ q
  concurrency : ∀ n ∈ p.concurrencyLimit, leases ≤ n

instance (p : Project) (gpus leases : ℕ) : Decidable (p.Within gpus leases) :=
  decidable_of_iff ((∀ q ∈ p.quotaGpus, gpus ≤ q) ∧ ∀ n ∈ p.concurrencyLimit, leases ≤ n)
    ⟨fun ⟨a, b⟩ => ⟨a, b⟩, fun ⟨a, b⟩ => ⟨a, b⟩⟩

/-- Every project is within its limits. -/
def WithinLimits (l : Ledger) : Prop :=
  ∀ p ∈ l.projects, p.Within (l.gpuUsage p.id) (l.leaseUsage p.id)

instance (l : Ledger) : Decidable (WithinLimits l) :=
  inferInstanceAs (Decidable (∀ p ∈ l.projects, _))

/-- A lease that counts against project `p`. -/
def Lease.worksFor (p : String) (x : Lease) : Bool :=
  decide (x.state.live = true ∧ x.kind = .workload ∧ x.projectId = p)

/-- An allocation without a lease that counts against project `p`. -/
def ResourceAllocation.pendingFor (p : String) (a : ResourceAllocation) : Bool :=
  decide (a.leaseId = none ∧ a.state.terminal = false ∧ a.request.projectId = p)

/-- A provider's allocation of lease `i`. -/
def ResourceAllocation.tiedTo (i : String) (a : ResourceAllocation) : Bool :=
  decide (a.leaseId = some i ∧ a.providerId ≠ "builtin")

/-- The cards an allocation was asked for. -/
def ResourceAllocation.asked (a : ResourceAllocation) : ℕ := a.request.constraints.gpuCount

/-- What lease `i` counts for: its cards, and those of its provider's allocations. -/
def Ledger.charge (l : Ledger) (i : String) : ℕ :=
  (l.cards i).length + tally (ResourceAllocation.tiedTo i) ResourceAllocation.gpuCount l.charged

/-- The total for project `p`, of `f` over its leases and of `g` over its pending allocations. -/
def Ledger.load (l : Ledger) (f : Lease → ℕ) (g : ResourceAllocation → ℕ) (p : String) : ℕ :=
  tally (Lease.worksFor p) f l.leases + tally (ResourceAllocation.pendingFor p) g l.charged

section

variable {b : Broker} {l l' : Ledger} {p : String}

theorem Project.Within.mono {x : Project} {gpus leases gpus' leases' : ℕ}
    (h : x.Within gpus leases) (hg : gpus' ≤ gpus) (hl : leases' ≤ leases) :
    x.Within gpus' leases' :=
  ⟨fun q hq => hg.trans (h.quota q hq), fun n hn => hl.trans (h.concurrency n hn)⟩

/-- What has no limit is within it. -/
theorem Project.within_unlimited (id : String) (gpus leases : ℕ) :
    ({ id } : Project).Within gpus leases :=
  ⟨fun _ hq => (by cases hq), fun _ hn => (by cases hn)⟩

/-- **The admission check** is that one more lease of these cards stays within the limits. -/
theorem projectBlocked_eq_none {x : Project} {c : ResourceConstraints} :
    l.projectBlocked x c = none ↔
      x.Within (l.gpuUsage x.id + c.gpuCount) (l.leaseUsage x.id + 1) := by
  have hquota : x.quotaGpus.filter (fun q => q < l.gpuUsage x.id + c.gpuCount) = none ↔
      ∀ q ∈ x.quotaGpus, l.gpuUsage x.id + c.gpuCount ≤ q := by
    cases x.quotaGpus <;> simp [Option.filter]
  have hlimit : x.concurrencyLimit.filter (fun n => n ≤ l.leaseUsage x.id) = none ↔
      ∀ n ∈ x.concurrencyLimit, l.leaseUsage x.id + 1 ≤ n := by
    cases x.concurrencyLimit with
    | none => simp
    | some n =>
      simp only [Option.filter_some, decide_eq_true_eq, ite_eq_right_iff, reduceCtorEq, imp_false,
        not_le, Option.mem_some_iff, forall_eq', Nat.succ_le_iff]
  unfold Ledger.projectBlocked
  constructor
  · intro h
    split at h
    · cases h
    · rename_i hq
      split at h
      · cases h
      · rename_i hn
        exact ⟨hquota.1 hq, hlimit.1 hn⟩
  · intro h
    rw [hquota.2 h.quota]
    simp only
    rw [hlimit.2 h.concurrency]

theorem tally_charged {q : ResourceAllocation → Bool} {g : ResourceAllocation → ℕ}
    (hq : ∀ a, q a = true → a.providerId ≠ "builtin" ∨ a.leaseId = none) :
    tally q g l.charged = tally q g l.allocations :=
  tally_filter fun a _ ha => decide_eq_true (hq a ha)

/-- `_project_usage` counts every card of a project, its own and its providers'. -/
theorem gpuUsage_eq (hu : Unplugged l) (p : String) :
    l.gpuUsage p = l.load (fun x => l.charge x.id) ResourceAllocation.asked p := by
  have hlease : ∀ i : String,
      (l.cards i).length + (((l.allocationsOf i).filter fun a => a.providerId ≠ "builtin").map
        fun a => (a.locations.map AllocationLocation.gpuCount).sum - (l.cards i).length).sum =
      l.charge i := by
    intro i
    have htied : tally (ResourceAllocation.tiedTo i) ResourceAllocation.gpuCount l.charged =
        (((l.allocationsOf i).filter fun a => a.providerId ≠ "builtin").map
          ResourceAllocation.gpuCount).sum := by
      rw [tally_charged fun a ha => Or.inl (of_decide_eq_true ha).2]
      unfold tally Ledger.allocationsOf
      rw [List.filter_filter]
      congr 2
      apply List.filter_congr
      intro a _
      unfold ResourceAllocation.tiedTo
      by_cases hi : a.leaseId = some i <;> simp [hi]
    unfold Ledger.charge
    rw [htied]
    by_cases hnil : (l.allocationsOf i).filter (fun a => a.providerId ≠ "builtin") = []
    · rw [hnil]
      rfl
    · -- a provider's lease has no card to count twice
      obtain ⟨a, ha⟩ := List.exists_mem_of_ne_nil _ hnil
      obtain ⟨hm, hp⟩ := List.mem_filter.1 ha
      obtain ⟨hm, hi⟩ := List.mem_filter.1 hm
      have hid : a.leaseId = some i := of_decide_eq_true hi
      have hempty := hu a ((mem_charged hid).2 ⟨hm, of_decide_eq_true hp⟩) i hid
      have hcards : l.cards i = [] := by
        rw [← folio_active]
        by_contra hne
        exact (cardSet_nonempty.2 hne).ne_empty hempty
      rw [hcards]
      rfl
  have hpending : tally (ResourceAllocation.pendingFor p) ResourceAllocation.asked l.charged =
      tally (ResourceAllocation.pendingFor p) ResourceAllocation.asked l.allocations :=
    tally_charged fun a ha => Or.inr (of_decide_eq_true ha).1
  unfold Ledger.load
  rw [hpending]
  unfold Ledger.gpuUsage tally
  refine congrArg₂ (· + ·) (congrArg List.sum ?_) rfl
  exact List.map_congr_left fun x _ => hlease x.id

theorem leaseUsage_eq (l : Ledger) (p : String) :
    l.leaseUsage p = l.load (fun _ => 1) (fun _ => 1) p := by
  unfold Ledger.load
  rw [tally_charged fun a ha => Or.inr (of_decide_eq_true ha).1, tally_one, tally_one]
  rfl

/-- A lease is counted once. -/
theorem tally_lease (hb : Intact b) {x : Lease} (hx : x ∈ b.ledger.leases) {q : Lease → Bool}
    {g : Lease → ℕ} : tally (fun y => decide (y.id = x.id) && q y) g b.ledger.leases =
      if q x then g x else 0 :=
  @tally_key _ _ _ _ _ _ Lease.id hb.leasePk x hx

/-- So is an allocation. -/
theorem tally_allocation (hb : Intact b) {a : ResourceAllocation} (ha : a ∈ b.ledger.allocations)
    {q : ResourceAllocation → Bool} {g : ResourceAllocation → ℕ} :
    tally (fun y => decide (y.id = a.id) && q y) g b.ledger.allocations =
      if q a then g a else 0 :=
  @tally_key _ _ _ _ _ _ ResourceAllocation.id hb.allocationPk a ha

/-- The leases that go on come to no more, and those that are new to what they come to. -/
theorem load_le {f f' : Lease → ℕ} {g : ResourceAllocation → ℕ} {kept new : List Lease}
    (hl : l'.leases = kept ++ new)
    (hk : List.Forall₂ (fun x x' => x'.worksFor p = true → x.worksFor p = true ∧ f' x' ≤ f x)
      l.leases kept)
    (hp : tally (ResourceAllocation.pendingFor p) g l'.charged ≤
      tally (ResourceAllocation.pendingFor p) g l.charged) :
    l'.load f' g p ≤ l.load f g p + tally (Lease.worksFor p) f' new := by
  have hkept : tally (Lease.worksFor p) f' kept ≤ tally (Lease.worksFor p) f l.leases :=
    tally_forall₂ hk fun _ _ h => h
  unfold Ledger.load
  rw [hl, tally_append]
  omega

end

/-! ## What goes on -/

section

variable {cfg : Config} {op : Op} {b b' : Broker} {resp : Response}

/-- The lease goes on: as the same lease, for no other project. -/
structure Lease.GoesOn (x x' : Lease) : Prop where
  id : x'.id = x.id
  worksFor : ∀ p, x'.worksFor p = true → x.worksFor p = true

/-- **What becomes of the lease rows**, unless a takeover hands one on: each goes on, and what is
new was drawn up. -/
theorem apply_leases (hk : Kept b) (h : op.apply cfg b = .ok (b', resp)) (hop : op.hands = false) :
    ∃ kept new, b'.ledger.leases = kept ++ new ∧ (∀ y ∈ new, ∃ x, op.draws x ∧ x.deed = y.deed) ∧
      List.Forall₂ Lease.GoesOn b.ledger.leases kept := by
  have hi' := apply_intact hk.intact h
  -- the columns of a deed stay, and a lease once over stays over
  have goes : ∀ {kept : List Lease}, (∀ x' ∈ kept, x' ∈ b'.ledger.leases) →
      List.Forall₂ (fun x x' : Lease => x'.id = x.id ∧ x'.kind = x.kind ∧
        x'.projectId = x.projectId) b.ledger.leases kept →
      List.Forall₂ Lease.GoesOn b.ledger.leases kept := by
    intro kept hsub hf
    refine forall₂_imp_mem hf fun x hx x' hx' ⟨hid, hkind, hproject⟩ => ⟨hid, fun p hp => ?_⟩
    obtain ⟨hlive, hw, hpr⟩ := of_decide_eq_true hp
    refine decide_eq_true ⟨?_, hkind ▸ hw, hproject ▸ hpr⟩
    by_contra hdead
    obtain ⟨y, hy, hl⟩ := (apply_life hk.intact hk.wellkept h).over
      (holding_of_lease (row?_of_mem hk.intact.leasePk hx)) (by simpa [Lease.holding] using hdead)
    have hx'' : b'.ledger.lease? x.id = some x' := hid ▸ row?_of_mem hi'.leasePk (hsub x' hx')
    rw [holding_of_lease hx''] at hy
    cases hy
    rw [show x'.state.live = false from hl] at hlive
    cases hlive
  have deeds : ∀ {kept : List Lease}, kept.map Lease.deed = b.ledger.deeds →
      List.Forall₂ (fun x x' : Lease => x'.id = x.id ∧ x'.kind = x.kind ∧
        x'.projectId = x.projectId) b.ledger.leases kept := by
    intro kept hd
    refine (forall₂_of_map_eq hd).imp fun x x' he => ?_
    have hid := congrArg Lease.id he
    have hkind := congrArg Lease.kind he
    have hproject := congrArg Lease.projectId he
    exact ⟨hid, hkind, hproject⟩
  cases apply_deeds hk.intact h with
  | kept hd =>
    exact ⟨_, [], (List.append_nil _).symm, by simp, goes (fun _ hx => hx) (deeds hd)⟩
  | drawn drawn hn hd =>
    obtain ⟨kept, new, hl, hkept, hnew⟩ := List.map_eq_append_iff.1 hd
    refine ⟨kept, new, hl, fun y hy => ?_, goes (fun x hx => ?_) (deeds hkept)⟩
    · have hm : y.deed ∈ drawn.map Lease.deed := hnew ▸ List.mem_map_of_mem hy
      obtain ⟨x, hx, he⟩ := List.mem_map.1 hm
      exact ⟨x, hn x hx, he⟩
    · rw [hl]
      exact List.mem_append_left _ hx
  | handed ho =>
    rw [hop] at ho
    cases ho
  | pinned i c hl =>
    refine ⟨_, [], (List.append_nil _).symm, by simp, goes (fun _ hx => hx) ?_⟩
    rw [hl]
    exact forall₂_updWhere (fun x _ => ⟨rfl, rfl, rfl⟩) fun x _ _ => ⟨rfl, rfl, rfl⟩

/-- A provider's allocations of a lease come to no more, as long as its word is no heavier. -/
theorem tied_le {R : ResourceAllocation → ResourceAllocation → Prop} {l l' : Ledger}
    (f : Follows R l l') (hr : ∀ a a', R a a' → a.Same a' ∧ a.Lighter a') (i : String) :
    tally (ResourceAllocation.tiedTo i) ResourceAllocation.gpuCount l'.charged ≤
      tally (ResourceAllocation.tiedTo i) ResourceAllocation.gpuCount l.charged := by
  refine tally_sublistForall₂ f fun a' a h ha => ?_
  obtain ⟨hs, hl⟩ := hr a a' h
  obtain ⟨hi, hp⟩ := of_decide_eq_true ha
  rw [hs.leaseId] at hi
  rw [hs.providerId] at hp
  exact ⟨decide_eq_true ⟨hi, hp⟩, hl.1 (by rw [hi]; simp)⟩

/-- So do the allocations no lease has yet. -/
theorem pending_le {R : ResourceAllocation → ResourceAllocation → Prop} {l l' : Ledger}
    (f : Follows R l l') (hr : ∀ a a', R a a' → a.Same a' ∧ a.Lighter a')
    {g : ResourceAllocation → ℕ} (hg : ∀ a a' : ResourceAllocation, a'.request = a.request →
      g a' = g a) (p : String) :
    tally (ResourceAllocation.pendingFor p) g l'.charged ≤
      tally (ResourceAllocation.pendingFor p) g l.charged := by
  refine tally_sublistForall₂ f fun a' a h ha => ?_
  obtain ⟨hs, hl⟩ := hr a a' h
  obtain ⟨hi, ht, hp⟩ := of_decide_eq_true ha
  rw [hs.leaseId] at hi
  rw [hs.request] at hp
  exact ⟨decide_eq_true ⟨hi, hl.2 hi ht, hp⟩, (hg a a' hs.request).le⟩

/-- What a lease that was there counts for grows only by a resize. -/
theorem charge_le (hk : Kept b) (h : op.apply cfg b = .ok (b', resp)) (hop : op.files = false)
    (hl : b.ledger.lightens op) {x : Lease} (hx : x ∈ b.ledger.leases)
    (hne : op.resizes ≠ some x.id) : b'.ledger.charge x.id ≤ b.ledger.charge x.id := by
  have hcards := apply_cards_le hk h (List.mem_map_of_mem hx) hne
  have htied := tied_le (apply_booked hk.intact h hop).follows
    (fun a a' r => ⟨r.1, r.2 hl⟩) x.id
  unfold Ledger.charge
  omega

/-- The total after a transaction that hands nothing on and files nothing, for measures of the
leases that go on. -/
theorem load_carried (hk : Kept b) (h : op.apply cfg b = .ok (b', resp)) (hop : op.files = false)
    (hh : op.hands = false) (hl : b.ledger.lightens op) (f f' : Lease → ℕ)
    (g : ResourceAllocation → ℕ)
    (hg : ∀ a a' : ResourceAllocation, a'.request = a.request → g a' = g a)
    (hf : ∀ x ∈ b.ledger.leases, ∀ x' : Lease, x'.id = x.id → f' x' ≤ f x) (p : String) :
    ∃ new : List Lease, (∀ y ∈ new, ∃ x, op.draws x ∧ x.deed = y.deed) ∧
      b'.ledger.leases.map Lease.id = b.ledger.leases.map Lease.id ++ new.map Lease.id ∧
      b'.ledger.load f' g p ≤ b.ledger.load f g p + tally (Lease.worksFor p) f' new := by
  obtain ⟨kept, new, he, hnew, hgo⟩ := apply_leases hk h hh
  have hids : kept.map Lease.id = b.ledger.leases.map Lease.id := by
    refine List.forall₂_eq_eq_eq ▸ ?_
    rw [List.forall₂_map_left_iff, List.forall₂_map_right_iff]
    exact hgo.flip.imp fun x' x r => r.id
  refine ⟨new, hnew, by rw [he, List.map_append, hids], load_le he ?_ ?_⟩
  · exact forall₂_imp_mem hgo fun x hx x' _ r hw => ⟨r.worksFor p hw, hf x hx x' r.id⟩
  · exact pending_le (apply_booked hk.intact h hop).follows (fun a a' r => ⟨r.1, r.2 hl⟩) hg p

/-- **A transaction that admits nothing** leaves every project's usage, or lowers it. -/
theorem usage_le (hk : Kept b) (hu : Unplugged b.ledger) (hu' : Unplugged b'.ledger)
    (h : op.apply cfg b = .ok (b', resp)) (hop : op.files = false) (hh : op.hands = false)
    (hr : op.resizes = none) (hl : b.ledger.lightens op)
    (hd : ∀ x, op.draws x → x.kind = .keepalive) (p : String) :
    b'.ledger.gpuUsage p ≤ b.ledger.gpuUsage p ∧
      b'.ledger.leaseUsage p ≤ b.ledger.leaseUsage p := by
  -- what is new is a keeper
  have hnone : ∀ {new : List Lease} {f : Lease → ℕ},
      (∀ y ∈ new, ∃ x, op.draws x ∧ x.deed = y.deed) → tally (Lease.worksFor p) f new = 0 := by
    intro new f hn
    refine tally_eq_zero fun y hy => ?_
    obtain ⟨x, hx, he⟩ := hn y hy
    have hkind : y.kind = .keepalive := (congrArg Lease.kind he).symm.trans (hd x hx)
    simp [Lease.worksFor, hkind]
  rw [gpuUsage_eq hu, gpuUsage_eq hu', leaseUsage_eq, leaseUsage_eq]
  constructor
  · obtain ⟨new, hn, -, hle⟩ := load_carried hk h hop hh hl (fun x => b.ledger.charge x.id)
      (fun x => b'.ledger.charge x.id) ResourceAllocation.asked
      (fun a a' he => by unfold ResourceAllocation.asked; rw [he])
      (fun x hx x' hid => by
        rw [hid]
        exact charge_le hk h hop hl hx (by rw [hr]; simp)) p
    rwa [hnone hn, Nat.add_zero] at hle
  · obtain ⟨new, hn, -, hle⟩ := load_carried hk h hop hh hl (fun _ => 1) (fun _ => 1)
      (fun _ => 1) (fun _ _ _ => rfl) (fun _ _ _ _ => le_rfl) p
    rwa [hnone hn, Nat.add_zero] at hle

/-! ## What is checked -/

/-- The lease of an accepted claim, and how many cards it gets. -/
theorem createRequest_issued (hb : Intact b) {now : Time} {actor : ActorContext}
    {r : RequestCreate} {key : Option String} {persistent : Bool} {leaseId : String}
    {token : String → String}
    (h : createRequest cfg now actor r key persistent leaseId token b = .ok (b', resp)) :
    b' = b ∨ leaseId ∉ b.ledger.leases.map Lease.id ∧
      b'.ledger.leases.map Lease.id = b.ledger.leases.map Lease.id ++ [leaseId] ∧
      (b'.ledger.folio leaseId).cardSet.card ≤ r.constraints.gpuCount := by
  rcases createRequest_ok h with h | ⟨b₀, revision, gpus, d, hs, hg, hi, rfl⟩
  · exact Or.inl h
  set lease := claimedLease leaseId actor r now revision
  obtain ⟨hlen, -⟩ := selected_eligible r.constraints_valid hg
  have hids : (b₀.claimed actor persistent lease r.constraints gpus token d now).ledger.leases.map
      Lease.id = b.ledger.leases.map Lease.id ++ [leaseId] := by
    rw [ids_claimed, hs.leases]
    rfl
  have hn := hi.leasePk
  simp only [leases_remember, hids] at hn
  have hfresh : leaseId ∉ b.ledger.leases.map Lease.id := fun hm =>
    (List.nodup_append.1 hn).2.2 _ hm _ (List.mem_singleton_self _) rfl
  have hf : b₀.ledger.folio lease.id = ⟨none, [], []⟩ := by
    have hfolio : b₀.ledger.folio leaseId = b.ledger.folio leaseId :=
      folio_congr leaseId hs.leases hs.resources hs.commitments
    exact hfolio.trans (folio_absent hb.grounded (lease?_eq_none.2 hfresh))
  refine Or.inr ⟨hfresh, by simp only [leases_remember, hids], ?_⟩
  have hh : (b₀.claimed actor persistent lease r.constraints gpus token d now).ledger.holding?
      lease.id =
        some (lease.holding (gpus.map GPUDevice.id).toFinset (endpointsOf gpus).toFinset) :=
    holding_claimed lease hf
  simp only [folio_remember]
  rw [show leaseId = lease.id from rfl, ← holding_cards hh]
  exact (List.toFinset_card_le _).trans (by rw [List.length_map, hlen])

/-- What a resize checked: the cards it takes in fit the quota next to those it leaves. -/
theorem addCards_quota {now : Time} {lease : Lease} {request : Option RequestCreate}
    {taken : Broker} {added : List GPUDevice}
    (h : b.addCards cfg now lease request = .ok (taken, added)) :
    added = [] ∨ ∃ project, b.ledger.project? lease.projectId = some project ∧
      ∀ q ∈ project.quotaGpus, b.ledger.gpuUsage project.id + added.length ≤ q := by
  rcases addCards_ok h with ⟨-, -, rfl⟩ | ⟨r, rfl, hg, -⟩
  · exact Or.inl rfl
  refine Or.inr ?_
  rw [(selected_eligible r.constraints_valid hg).1]
  unfold Broker.addCards at h
  simp only [bind_ok] at h
  obtain ⟨chosen, hc, -⟩ := h
  unfold Broker.chooseCards at hc
  simp only [bind_ok, need_ok] at hc
  obtain ⟨project, hp, hc⟩ := hc
  refine ⟨project, hp, fun q hq => ?_⟩
  split at hc
  · simp at hc
  · rename_i hnone
    rw [hq, Option.filter_some] at hnone
    by_contra hlt
    simp [not_le.1 hlt] at hnone

/-- A resize, as far as counting goes: the ledger `l` with the cards given back, and the cards
taken in on top. -/
theorem resize_counts (hb : Intact b) {now : Time} {actor : ActorContext} {leaseId : String}
    {addRequest : Option RequestCreate} {removeGpuIds : List String} {expectedEpoch : Option ℕ}
    {token : String → String}
    (h : resizeLease cfg now actor leaseId addRequest removeGpuIds expectedEpoch token b =
      .ok (b', resp)) :
    ∃ (x : Lease) (l : Ledger) (k : ℕ), b.ledger.lease? leaseId = some x ∧ x.kind = .workload ∧
      x.state.live = true ∧ l.accounts = b.ledger.accounts ∧
      (∃ f : Lease → Lease, (∀ y, (f y).id = y.id) ∧ (∀ p y, (f y).worksFor p = y.worksFor p) ∧
        l.leases = b.ledger.leases.map f) ∧
      (∀ i, (l.folio i).cardSet ⊆ (b.ledger.folio i).cardSet) ∧
      (∀ i, i ≠ leaseId → (b'.ledger.folio i).cardSet = (l.folio i).cardSet) ∧
      (b'.ledger.folio leaseId).cardSet.card ≤ (l.folio leaseId).cardSet.card + k ∧
      (k = 0 ∨ ∃ project, b.ledger.project? x.projectId = some project ∧
        ∀ q ∈ project.quotaGpus, l.gpuUsage project.id + k ≤ q) := by
  obtain ⟨-, hne, -⟩ := resize_resized hb h
  obtain ⟨x, taken, added, d, hx, hw, hv, -, -, -, -, hadd, -, -, rfl⟩ := resizeLease_ok h
  obtain rfl := lease?_id hx
  set removed := b.returnedCards x.id removeGpuIds
  set l := b.ledger.bumpRevision.returnCards x.id removed actor.id now with hl
  obtain ⟨ht, -⟩ := addCards_taking hadd
  have hother : ∀ i, i ≠ x.id → l.folio i = b.ledger.folio i := fun i hi =>
    folio_returnCards_ne (l := b.ledger.bumpRevision) hi
  have hcards : (l.folio x.id).cardSet = (b.ledger.folio x.id).cardSet \ removed.toFinset :=
    cardSet_returnCards (l := b.ledger.bumpRevision)
  refine ⟨x, l, added.length, hx, hw, hv, ?_, ?_, fun i => ?_, fun i hi => ?_, ?_, ?_⟩
  · rw [hl]
    unfold Ledger.returnCards
    split <;> rfl
  · rw [hl]
    unfold Ledger.returnCards
    split
    · exact ⟨id, fun _ => rfl, fun _ _ => rfl, (List.map_id _).symm⟩
    · refine ⟨fun y => if decide (y.id = x.id) = true then y.raised else y, fun y => ?_,
        fun p y => ?_, rfl⟩
      · by_cases hy : y.id = x.id <;> simp [hy, Lease.raised]
      · by_cases hy : y.id = x.id <;> simp [hy, Lease.raised, Lease.worksFor]
  · by_cases hi : i = x.id
    · rw [hi, hcards]
      exact Finset.sdiff_subset
    · rw [hother i hi]
  · rw [hne i hi, hother i hi]
  · have hset : ((taken.resized x (decide (removed = [])) token now).ledger.folio x.id).cardSet =
        (l.folio x.id).cardSet ∪ (added.map GPUDevice.id).toFinset :=
      (cardSet_resized token now).trans ht.cards
    refine (congrArg Finset.card hset).le.trans ((Finset.card_union_le _ _).trans ?_)
    exact Nat.add_le_add_left ((List.toFinset_card_le _).trans (List.length_map _).le) _
  · rcases addCards_quota hadd with rfl | ⟨project, hp, hq⟩
    · exact Or.inl rfl
    · refine Or.inr ⟨project, ?_, hq⟩
      have hprojects : l.projects = b.ledger.projects := by
        rw [hl]
        unfold Ledger.returnCards
        split <;> rfl
      unfold Ledger.project? at hp ⊢
      rwa [← hprojects]

/-- The lease `take_over_lease` finds. -/
def Ledger.takeoverTarget (l : Ledger) (leaseId task : Option String) (projectId : String) :
    Option Lease :=
  match leaseId with
  | some id => l.lease? id
  | none => l.findTaskLease projectId (task.getD "")

theorem takeOver_hands {now : Time} {actor : ActorContext} {leaseId task : Option String}
    {projectId reason : String} {force : Bool}
    (h : takeOverLease now actor leaseId task projectId reason force b = .ok (b', resp)) :
    ∃ x session, b.ledger.takeoverTarget leaseId task projectId = some x ∧
      x ∈ b.ledger.leases ∧ x.kind = .workload ∧ x.state.live = true ∧
      b'.ledger.leases = updWhere (fun y => y.id = x.id)
        (Lease.takenOver actor session projectId now) b.ledger.leases := by
  unfold takeOverLease at h
  simp only [bind_ok, need_ok, require_ok] at h
  obtain ⟨-, -, session, -, x, hx, -, -, l, hl, h⟩ := h
  obtain ⟨hb', -, -⟩ := finish_ok.1 h
  obtain ⟨projects, rfl⟩ := takeoverProject_ok hl
  obtain ⟨hf, hs⟩ := Option.filter_eq_some_iff.1 hx
  obtain ⟨hw, ht⟩ := of_decide_eq_true hs
  have hm : x ∈ b.ledger.leases := by
    cases leaseId with
    | some id => exact lease?_mem hf
    | none => exact List.mem_of_mem_filter (latest_mem hf)
  rw [LeaseState.terminal_eq_not_live] at ht
  exact ⟨x, session, hf, hm, hw, by simpa using ht, by rw [hb']; rfl⟩

/-! ## Every transaction -/

/-- The limits leave room for what a transaction brings into a project unchecked: a lease that is
taken over from another project; and the provider's word is no heavier than what was asked of it. -/
def Broker.covers (b : Broker) : Op → Prop
  | .takeOverLease now actor leaseId task projectId reason force =>
    (takeOverLease now actor leaseId task projectId reason force b).isOk = true →
      ∀ x ∈ b.ledger.takeoverTarget leaseId task projectId, x.projectId ≠ projectId →
        ∀ p ∈ b.ledger.project? projectId,
          p.Within (b.ledger.gpuUsage projectId + b.ledger.charge x.id)
            (b.ledger.leaseUsage projectId + 1)
  | .claimFinish _ _ r _ allocationId _ => ∀ a ∈ b.ledger.allocation? allocationId,
    a.pendingFor r.projectId = true ∧ a.gpuCount ≤ a.asked
  | op => b.ledger.lightens op

instance (l : Ledger) (op : Op) : Decidable (l.lightens op) := by
  cases op
  case ingestObservation =>
    exact inferInstanceAs (Decidable (∀ a ∈ l.allocations, _ → _ → ∀ f ∈ _, _))
  all_goals first
    | exact inferInstanceAs (Decidable (∀ a ∈ l.allocations, _ → _))
    | exact inferInstanceAs (Decidable True)

instance (b : Broker) (op : Op) : Decidable (b.covers op) := by
  cases op
  case takeOverLease => exact inferInstanceAs (Decidable (_ = true → ∀ x ∈ _, _ → ∀ p ∈ _, _))
  case claimFinish => exact inferInstanceAs (Decidable (∀ a ∈ _, _ ∧ _))
  all_goals
    dsimp only [Broker.covers]
    infer_instance

theorem covers_lightens (hc : b.covers op) (hop : op.files = false) (hh : op.hands = false) :
    b.ledger.lightens op := by
  cases op with
  | takeOverLease => cases hh
  | claimFinish => cases hop
  | _ => exact hc

/-- An accepted claim stays within its project's limits. -/
theorem createRequest_within (hk : Kept b) (hu : Unplugged b.ledger) (hu' : Unplugged b'.ledger)
    (hw : WithinLimits b.ledger) {now : Time} {actor : ActorContext} {r : RequestCreate}
    {key : Option String} {persistent : Bool} {leaseId : String} {token : String → String}
    (h : createRequest cfg now actor r key persistent leaseId token b = .ok (b', resp))
    {p : Project} (hp : p ∈ b.ledger.projects) :
    p.Within (b'.ledger.gpuUsage p.id) (b'.ledger.leaseUsage p.id) := by
  rcases createRequest_unblocked h with rfl | ⟨project, projects, c, -, hcharged, hblocked⟩
  · exact hw p hp
  rcases createRequest_issued hk.intact h with rfl | ⟨hfresh, hids, hcount⟩
  · exact hw p hp
  let op : Op := .createRequest now actor r key persistent leaseId token
  have ha : op.apply cfg b = .ok (b', resp) := h
  have hi' := apply_intact hk.intact ha
  -- the new lease has its cards alone
  have hcharge : b'.ledger.charge leaseId ≤ r.constraints.gpuCount := by
    have htied : tally (ResourceAllocation.tiedTo leaseId) ResourceAllocation.gpuCount
        b'.ledger.charged = 0 := by
      rw [hcharged]
      refine tally_eq_zero fun a ha => ?_
      by_contra hne
      have ht : a.tiedTo leaseId = true := by simpa using hne
      obtain ⟨hi, -⟩ := of_decide_eq_true ht
      exact hfresh (hk.intact.allocationLease a (List.mem_of_mem_filter ha) leaseId hi)
    unfold Ledger.charge
    rw [htied, ← card_cardSet hi'.leaseGpu]
    exact hcount
  have one : ∀ (f f' : Lease → ℕ) (g : ResourceAllocation → ℕ) (n : ℕ),
      (∀ a a' : ResourceAllocation, a'.request = a.request → g a' = g a) →
      (∀ x ∈ b.ledger.leases, ∀ x' : Lease, x'.id = x.id → f' x' ≤ f x) →
      (∀ y : Lease, y.id = leaseId → f' y ≤ n) →
      b'.ledger.load f' g p.id ≤
        b.ledger.load f g p.id + if r.projectId = p.id then n else 0 := by
    intro f f' g n hg hf hn
    obtain ⟨new, hnew, hi, hle⟩ := load_carried hk ha rfl rfl trivial f f' g hg hf p.id
    rw [hids] at hi
    have hone := List.append_cancel_left hi
    obtain ⟨y, rfl⟩ : ∃ y, new = [y] := List.length_eq_one_iff.1 (by
      rw [← List.length_map (f := Lease.id), ← hone]
      rfl)
    obtain ⟨x, ⟨-, hpr, -⟩, he⟩ := hnew y (List.mem_singleton_self y)
    have hproject : y.projectId = r.projectId := (congrArg Lease.projectId he).symm.trans hpr
    have hyid : y.id = leaseId := (List.cons.inj hone).1.symm
    refine hle.trans (Nat.add_le_add_left ?_ _)
    rw [tally_cons, tally_nil, Nat.add_zero]
    by_cases hpid : r.projectId = p.id
    · rw [if_pos hpid]
      split
      · exact hn y hyid
      · exact Nat.zero_le _
    · have hno : y.worksFor p.id = false := by
        simp [Lease.worksFor, hproject, hpid]
      rw [hno]
      exact Nat.zero_le _
  have hgpu := one (fun x => b.ledger.charge x.id) (fun x => b'.ledger.charge x.id)
    ResourceAllocation.asked r.constraints.gpuCount
    (fun a a' he => by unfold ResourceAllocation.asked; rw [he])
    (fun x hx x' hid => by
      rw [hid]
      exact charge_le hk ha rfl trivial hx (by simp [op, Op.resizes]))
    (fun y hy => by rw [hy]; exact hcharge)
  have hlease := one (fun _ => 1) (fun _ => 1) (fun _ => 1) 1
    (fun _ _ _ => rfl) (fun _ _ _ _ => le_rfl) (fun _ _ => le_rfl)
  rw [← gpuUsage_eq hu, ← gpuUsage_eq hu'] at hgpu
  rw [← leaseUsage_eq, ← leaseUsage_eq] at hlease
  by_cases hpid : r.projectId = p.id
  · obtain rfl := c.eq_of_mem hk.intact.projectPk hp hpid.symm
    rw [if_pos hpid] at hgpu hlease
    exact (projectBlocked_eq_none.1 hblocked).mono hgpu hlease
  · rw [if_neg hpid] at hgpu hlease
    exact (hw p hp).mono hgpu hlease

/-- A resize stays within its project's quota. -/
theorem resizeLease_within (hk : Kept b) (hu : Unplugged b.ledger) (hu' : Unplugged b'.ledger)
    (hw : WithinLimits b.ledger) {now : Time} {actor : ActorContext} {leaseId : String}
    {addRequest : Option RequestCreate} {removeGpuIds : List String} {expectedEpoch : Option ℕ}
    {token : String → String}
    (h : resizeLease cfg now actor leaseId addRequest removeGpuIds expectedEpoch token b =
      .ok (b', resp)) {p : Project} (hp : p ∈ b.ledger.projects) :
    p.Within (b'.ledger.gpuUsage p.id) (b'.ledger.leaseUsage p.id) := by
  obtain ⟨x, l, k, hx, hxw, hxl, haccounts, ⟨f, hfid, hfw, hlf⟩, hsub, hother, hcount, hquota⟩ :=
    resize_counts hk.intact h
  obtain rfl := lease?_id hx
  have hm := lease?_mem hx
  let op : Op := .resizeLease now actor x.id addRequest removeGpuIds expectedEpoch token
  have ha : op.apply cfg b = .ok (b', resp) := h
  have hi' := apply_intact hk.intact ha
  have hcharged : l.charged = b.ledger.charged := charged_congr haccounts
  have hul : Unplugged l := by
    intro a ham i hi
    rw [hcharged] at ham
    exact Finset.subset_empty.1 (hu a ham i hi ▸ hsub i)
  -- nothing of the change is new
  have hnone : ∀ {new : List Lease} {f : Lease → ℕ},
      (∀ y ∈ new, ∃ z, op.draws z ∧ z.deed = y.deed) → tally (Lease.worksFor p.id) f new = 0 := by
    intro new f hn
    refine tally_eq_zero fun y hy => ?_
    obtain ⟨z, hz, -⟩ := hn y hy
    exact hz.elim
  have htied : ∀ i, tally (ResourceAllocation.tiedTo i) ResourceAllocation.gpuCount
      b'.ledger.charged ≤ tally (ResourceAllocation.tiedTo i) ResourceAllocation.gpuCount
        b.ledger.charged := fun i =>
    tied_le (apply_booked hk.intact ha rfl).follows (fun a a' r => ⟨r.1, r.2 trivial⟩) i
  -- what each lease held once the cards were given back
  set held : Lease → ℕ := fun y => (l.folio y.id).cardSet.card +
    tally (ResourceAllocation.tiedTo y.id) ResourceAllocation.gpuCount b.ledger.charged
  have hheld : ∀ y ∈ b.ledger.leases, held y ≤ b.ledger.charge y.id := by
    intro y _
    unfold Ledger.charge
    rw [← card_cardSet hk.intact.leaseGpu]
    exact Nat.add_le_add_right (Finset.card_le_card (hsub y.id)) _
  have hgpu : b'.ledger.gpuUsage p.id ≤ b.ledger.load held ResourceAllocation.asked p.id +
      if x.worksFor p.id = true then k else 0 := by
    obtain ⟨new, hnew, -, hle⟩ := load_carried hk ha rfl rfl trivial
      (fun y => held y + if decide (y.id = x.id) then k else 0) (fun y => b'.ledger.charge y.id)
      ResourceAllocation.asked
      (fun a a' he => by unfold ResourceAllocation.asked; rw [he])
      (fun y _ y' hid => by
        have ht := htied y.id
        simp only [hid]
        unfold Ledger.charge
        rw [← card_cardSet hi'.leaseGpu]
        by_cases hy : y.id = x.id
        · have hc := hcount
          rw [← hy] at hc
          simp only [hy, decide_true, if_true] at hc ht ⊢
          simp only [held, hy]
          omega
        · have hc := congrArg Finset.card (hother y.id hy)
          simp only [hy, decide_false, Bool.false_eq_true, if_false]
          simp only [held]
          omega) p.id
    rw [hnone hnew, Nat.add_zero] at hle
    rw [gpuUsage_eq hu']
    refine hle.trans ?_
    unfold Ledger.load
    rw [tally_add, tally_ite, tally_lease hk.intact hm]
    omega
  have hleases : b'.ledger.leaseUsage p.id ≤ b.ledger.leaseUsage p.id := by
    obtain ⟨new, hnew, -, hle⟩ := load_carried hk ha rfl rfl trivial (fun _ => 1)
      (fun _ => 1) (fun _ => 1) (fun _ _ _ => rfl) (fun _ _ _ _ => le_rfl) p.id
    rw [hnone hnew, Nat.add_zero] at hle
    rwa [leaseUsage_eq, leaseUsage_eq]
  have hload : b.ledger.load held ResourceAllocation.asked p.id ≤ b.ledger.gpuUsage p.id := by
    rw [gpuUsage_eq hu]
    exact Nat.add_le_add_right (tally_mono hheld) _
  refine ⟨fun q hq => ?_, fun n hn => hleases.trans ((hw p hp).concurrency n hn)⟩
  by_cases hxp : x.worksFor p.id = true
  · rw [if_pos hxp] at hgpu
    rcases hquota with rfl | ⟨project, hproject, hfit⟩
    · exact hgpu.trans (hload.trans ((hw p hp).quota q hq))
    · obtain ⟨-, -, hpid⟩ := of_decide_eq_true hxp
      have he : project = p := by
        obtain ⟨hpm, hpi⟩ := row?_some hproject
        exact List.inj_on_of_nodup_map hk.intact.projectPk hpm hp (hpi.trans hpid)
      subst he
      refine hgpu.trans (le_trans (Nat.add_le_add_right ?_ k) (hfit q hq))
      rw [gpuUsage_eq hul]
      unfold Ledger.load
      rw [hcharged]
      refine Nat.add_le_add_right ?_ _
      refine tally_forall₂ (R := fun z y => z = f y) ?_ ?_
      · rw [hlf, List.forall₂_map_left_iff]
        exact List.forall₂_same.2 fun _ _ => rfl
      · rintro _ y rfl hwy
        refine ⟨(hfw _ y).trans hwy, ?_⟩
        unfold Ledger.charge
        rw [hfid, hcharged]
        refine Nat.add_le_add_right ?_ _
        unfold Folio.cardSet
        rw [folio_active]
        exact (List.toFinset_card_le _).trans (List.length_map _).le
  · rw [if_neg hxp, Nat.add_zero] at hgpu
    exact hgpu.trans (hload.trans ((hw p hp).quota q hq))

/-- A takeover stays within the limits where they leave room for the lease. -/
theorem takeOverLease_within (cfg : Config) (hk : Kept b) (hu : Unplugged b.ledger)
    (hu' : Unplugged b'.ledger) (hw : WithinLimits b.ledger) {now : Time} {actor : ActorContext}
    {leaseId task : Option String} {projectId reason : String} {force : Bool}
    (hc : b.covers (.takeOverLease now actor leaseId task projectId reason force))
    (h : takeOverLease now actor leaseId task projectId reason force b = .ok (b', resp))
    {p : Project} (hp : p ∈ b.ledger.projects) :
    p.Within (b'.ledger.gpuUsage p.id) (b'.ledger.leaseUsage p.id) := by
  obtain ⟨x, session, hx, hm, hxw, hxl, hleases⟩ := takeOver_hands h
  let op : Op := .takeOverLease now actor leaseId task projectId reason force
  have ha : op.apply cfg b = .ok (b', resp) := h
  set taken := Lease.takenOver actor session projectId now
  -- the totals before, and the lease counted where it now belongs instead of where it was
  have moved : ∀ (f f' : Lease → ℕ) (g : ResourceAllocation → ℕ),
      (∀ a a' : ResourceAllocation, a'.request = a.request → g a' = g a) →
      (∀ y ∈ b.ledger.leases, f' y ≤ f y) → f' (taken x) = f' x →
      b'.ledger.load f' g p.id + (if x.projectId = p.id then f' x else 0) ≤
        b.ledger.load f g p.id + if projectId = p.id then f' x else 0 := by
    intro f f' g hg hf hx'
    have hpending := pending_le (apply_booked hk.intact ha rfl).follows
      (fun a a' r => ⟨r.1, r.2 trivial⟩) hg p.id
    have hupd := @tally_updWhere _ (Lease.worksFor p.id) (fun y => decide (y.id = x.id)) f'
      b.ledger.leases taken
    rw [tally_lease hk.intact hm, tally_lease hk.intact hm] at hupd
    have hbefore : x.worksFor p.id = decide (x.projectId = p.id) := by
      simp [Lease.worksFor, hxl, hxw]
    have hafter : (taken x).worksFor p.id = decide (projectId = p.id) := by
      simp [taken, Lease.worksFor, Lease.takenOver, hxl, hxw]
    have hold : tally (Lease.worksFor p.id) f' b.ledger.leases ≤
        tally (Lease.worksFor p.id) f b.ledger.leases := tally_mono hf
    simp only [hbefore, hafter, decide_eq_true_eq, Function.comp, hx'] at hupd
    unfold Ledger.load
    rw [hleases]
    omega
  have hcharge : ∀ y ∈ b.ledger.leases, b'.ledger.charge y.id ≤ b.ledger.charge y.id :=
    fun y hy => charge_le hk ha rfl trivial hy (by simp [op, Op.resizes])
  have hgpu := moved (fun y => b.ledger.charge y.id) (fun y => b'.ledger.charge y.id)
    ResourceAllocation.asked (fun a a' he => by unfold ResourceAllocation.asked; rw [he])
    hcharge rfl
  have hlease := moved (fun _ => 1) (fun _ => 1) (fun _ => 1) (fun _ _ _ => rfl)
    (fun _ _ => le_rfl) rfl
  rw [← gpuUsage_eq hu, ← gpuUsage_eq hu'] at hgpu
  rw [← leaseUsage_eq, ← leaseUsage_eq] at hlease
  by_cases hpid : projectId = p.id
  · by_cases hsame : x.projectId = projectId
    · rw [if_pos hpid, if_pos (hsame.trans hpid)] at hgpu hlease
      exact (hw p hp).mono (by omega) (by omega)
    · have hroom := hc (by rw [h]; rfl) x hx hsame p (hpid ▸ row?_of_mem hk.intact.projectPk hp)
      have hxc := hcharge x hm
      rw [if_pos hpid] at hgpu hlease
      rw [hpid] at hroom
      exact hroom.mono (by omega) (by omega)
  · rw [if_neg hpid] at hgpu hlease
    exact (hw p hp).mono (by omega) (by omega)

/-- A prepared provider claim stays within its project's limits. -/
theorem claimPrepare_within (hk : Kept b) (hu : Unplugged b.ledger) (hu' : Unplugged b'.ledger)
    (hw : WithinLimits b.ledger) {now : Time} {actor : ActorContext} {r : RequestCreate}
    {key : Option String} {endpointId token : String} {plugin : Plugin}
    (h : claimPrepare now actor r key endpointId plugin token b = .ok (b', resp))
    {p : Project} (hp : p ∈ b.ledger.projects) :
    p.Within (b'.ledger.gpuUsage p.id) (b'.ledger.leaseUsage p.id) := by
  rcases claimPrepare_filed h with rfl | ⟨project, projects, l, c, hf, ⟨as, hl⟩, hb'⟩
  · exact hw p hp
  have hleases : l.leases = b.ledger.leases := by rw [hl]
  have hresources : l.resources = b.ledger.resources := by rw [hl]
  have hul : Unplugged l := by
    intro a ha i hi
    obtain ⟨a₀, ha₀, q⟩ := hf.mem ha
    have hfolio : l.folio i = b.ledger.folio i := by
      rw [hl]
      exact folio_congr i rfl rfl rfl
    rw [hfolio]
    exact hu a₀ ha₀ i (q.same.leaseId ▸ hi)
  have hquiet : ∀ a a', ResourceAllocation.Quiet a a' → a.Same a' ∧ a.Lighter a' :=
    fun _ _ q => ⟨q.same, q.lighter⟩
  have hcharge : ∀ i, l.charge i ≤ b.ledger.charge i := by
    intro i
    have ht := tied_le hf hquiet i
    unfold Ledger.charge Ledger.cards
    rw [hresources]
    omega
  -- freeing an ended key frees no usage, and adds none
  have hgpu : l.gpuUsage p.id ≤ b.ledger.gpuUsage p.id := by
    have hpending := pending_le hf hquiet (g := ResourceAllocation.asked)
      (fun a a' he => by unfold ResourceAllocation.asked; rw [he]) p.id
    have hheld : tally (Lease.worksFor p.id) (fun y => l.charge y.id) b.ledger.leases ≤
        tally (Lease.worksFor p.id) (fun y => b.ledger.charge y.id) b.ledger.leases :=
      tally_mono fun y _ => hcharge y.id
    rw [gpuUsage_eq hu, gpuUsage_eq hul]
    unfold Ledger.load
    rw [hleases]
    omega
  have hlease : l.leaseUsage p.id ≤ b.ledger.leaseUsage p.id := by
    have hpending := pending_le hf hquiet (g := fun _ => 1) (fun _ _ _ => rfl) p.id
    rw [leaseUsage_eq, leaseUsage_eq]
    unfold Ledger.load
    rw [hleases]
    omega
  rcases hb' with rfl | ⟨hblocked, rfl⟩
  · exact (hw p hp).mono hgpu hlease
  set a := preparedAllocation token endpointId plugin actor (requestKeyOf r key) r now with hadef
  have happ : ({ l.bumpRevision with allocations := l.allocations ++ [a] } : Ledger).charged =
      l.charged ++ [a] := by
    unfold Ledger.charged
    rw [List.filter_append]
    refine congrArg _ ?_
    rw [List.filter_cons_of_pos (by simp [hadef, preparedAllocation])]
    rfl
  have hpend : a.pendingFor p.id = decide (r.projectId = p.id) := by
    simp [ResourceAllocation.pendingFor, hadef, preparedAllocation, AllocationState.terminal,
      RequestCreate.dump]
  have hone : ∀ g : ResourceAllocation → ℕ,
      tally (ResourceAllocation.pendingFor p.id) g [a] = if r.projectId = p.id then g a else 0 := by
    intro g
    rw [tally_cons, tally_nil, hpend, Nat.add_zero]
    simp
  have hchargeA : ∀ i, ({ l.bumpRevision with allocations := l.allocations ++ [a] } :
      Ledger).charge i = l.charge i := by
    intro i
    have htied : a.tiedTo i = false := by
      simp [ResourceAllocation.tiedTo, hadef, preparedAllocation]
    unfold Ledger.charge
    rw [happ, tally_append, tally_cons, htied]
    rfl
  have hg : ({ l.bumpRevision with allocations := l.allocations ++ [a] } : Ledger).gpuUsage p.id =
      l.gpuUsage p.id + if r.projectId = p.id then r.constraints.gpuCount else 0 := by
    rw [gpuUsage_eq hu', gpuUsage_eq hul]
    unfold Ledger.load
    rw [happ, tally_append, hone]
    simp only [hchargeA]
    exact (Nat.add_assoc _ _ _).symm
  have hn : ({ l.bumpRevision with allocations := l.allocations ++ [a] } : Ledger).leaseUsage p.id =
      l.leaseUsage p.id + if r.projectId = p.id then 1 else 0 := by
    rw [leaseUsage_eq, leaseUsage_eq]
    unfold Ledger.load
    rw [happ, tally_append, hone]
    exact (Nat.add_assoc _ _ _).symm
  simp only [hg, hn]
  by_cases hpid : r.projectId = p.id
  · obtain rfl := c.eq_of_mem hk.intact.projectPk hp hpid.symm
    rw [if_pos hpid, if_pos hpid]
    exact projectBlocked_eq_none.1 hblocked
  · rw [if_neg hpid, if_neg hpid]
    exact (hw p hp).mono hgpu hlease

/-- A finished provider claim stays within the limits, where the provider gave no more than it was
asked for and the allocation still waited for its lease. -/
theorem claimFinish_within (hk : Kept b) (hu : Unplugged b.ledger) (hu' : Unplugged b'.ledger)
    (hw : WithinLimits b.ledger) {now : Time} {actor : ActorContext} {r : RequestCreate}
    {key : Option String} {allocationId leaseId : String}
    (hc : b.covers (.claimFinish now actor r key allocationId leaseId))
    (h : claimFinish now actor r key allocationId leaseId b = .ok (b', resp))
    {p : Project} (hp : p ∈ b.ledger.projects) :
    p.Within (b'.ledger.gpuUsage p.id) (b'.ledger.leaseUsage p.id) := by
  obtain ⟨hfresh, ⟨a, ha⟩, -, has, hres, x, hxid, hxw, hxp, hleases⟩ := claimFinish_ties h
  obtain ⟨hm, hid⟩ := row?_some ha
  obtain ⟨hpend, hasked⟩ := hc a ha
  obtain ⟨hnolease, hlive, hproject⟩ := of_decide_eq_true hpend
  set tie : ResourceAllocation → ResourceAllocation := fun y => { y with leaseId := some leaseId }
  -- the allocation no longer waits: its request is not counted any more
  have hpending : ∀ g : ResourceAllocation → ℕ,
      tally (ResourceAllocation.pendingFor p.id) g b'.ledger.charged +
        (if r.projectId = p.id then g a else 0) =
      tally (ResourceAllocation.pendingFor p.id) g b.ledger.charged := by
    intro g
    rw [tally_charged fun y hy => Or.inr (of_decide_eq_true hy).1,
      tally_charged fun y hy => Or.inr (of_decide_eq_true hy).1, has]
    have hupd := @tally_updWhere _ (ResourceAllocation.pendingFor p.id)
      (fun y => decide (y.id = a.id)) g b.ledger.allocations tie
    have hzero : tally (fun y => decide (y.id = a.id) && ResourceAllocation.pendingFor p.id (tie y))
        (g ∘ tie) b.ledger.allocations = 0 :=
      tally_eq_zero fun y _ => by simp [tie, ResourceAllocation.pendingFor]
    have hwas : a.pendingFor p.id = decide (r.projectId = p.id) := by
      simp [ResourceAllocation.pendingFor, hnolease, hlive, hproject]
    rw [tally_allocation hk.intact hm, hzero, hwas, Nat.add_zero] at hupd
    simpa [hid] using hupd
  -- only the new lease gets a provider's cards
  have htied : ∀ i, tally (ResourceAllocation.tiedTo i) ResourceAllocation.gpuCount
      b'.ledger.charged ≤ tally (ResourceAllocation.tiedTo i) ResourceAllocation.gpuCount
        b.ledger.charged + if i = leaseId then a.gpuCount else 0 := by
    intro i
    rw [tally_charged fun y hy => Or.inl (of_decide_eq_true hy).2,
      tally_charged fun y hy => Or.inl (of_decide_eq_true hy).2, has]
    have hupd := @tally_updWhere _ (ResourceAllocation.tiedTo i) (fun y => decide (y.id = a.id))
      ResourceAllocation.gpuCount b.ledger.allocations tie
    rw [tally_allocation hk.intact hm, tally_allocation hk.intact hm] at hupd
    have hnot : a.tiedTo i = false := by
      simp [ResourceAllocation.tiedTo, hnolease]
    have hnow : (if (tie a).tiedTo i = true then (ResourceAllocation.gpuCount ∘ tie) a else 0) ≤
        if i = leaseId then a.gpuCount else 0 := by
      by_cases hi : i = leaseId
      · rw [if_pos hi]
        split
        · exact le_rfl
        · exact Nat.zero_le _
      · have hno : (tie a).tiedTo i = false := by
          simp [tie, ResourceAllocation.tiedTo, Ne.symm hi]
        rw [hno]
        exact Nat.zero_le _
    rw [hnot, hid] at hupd
    simp only [Bool.false_eq_true, if_false, Nat.add_zero] at hupd
    rw [hupd]
    exact Nat.add_le_add_left hnow _
  have hcharge : ∀ i, b'.ledger.charge i ≤
      b.ledger.charge i + if i = leaseId then a.gpuCount else 0 := by
    intro i
    have ht := htied i
    unfold Ledger.charge Ledger.cards
    rw [hres]
    omega
  have hnone : b.ledger.charge leaseId = 0 := by
    have hcards : b.ledger.cards leaseId = [] := by
      rw [← folio_active, folio_absent hk.intact.grounded (lease?_eq_none.2 hfresh)]
      rfl
    have ht : tally (ResourceAllocation.tiedTo leaseId) ResourceAllocation.gpuCount
        b.ledger.charged = 0 := by
      refine tally_eq_zero fun y hy => ?_
      by_contra hne
      have htrue : y.tiedTo leaseId = true := by simpa using hne
      obtain ⟨hi, -⟩ := of_decide_eq_true htrue
      exact hfresh (hk.intact.allocationLease y (List.mem_of_mem_filter hy) leaseId hi)
    unfold Ledger.charge
    rw [hcards, ht]
    rfl
  have total : ∀ (f f' : Lease → ℕ) (g : ResourceAllocation → ℕ),
      (∀ y ∈ b.ledger.leases, f' y ≤ f y) → f' x ≤ g a →
      b'.ledger.load f' g p.id ≤ b.ledger.load f g p.id := by
    intro f f' g hf hx
    have hold : tally (Lease.worksFor p.id) f' b.ledger.leases ≤
        tally (Lease.worksFor p.id) f b.ledger.leases := tally_mono hf
    have hnew : tally (Lease.worksFor p.id) f' [x] ≤ if r.projectId = p.id then g a else 0 := by
      rw [tally_cons, tally_nil, Nat.add_zero]
      by_cases hpid : r.projectId = p.id
      · rw [if_pos hpid]
        split
        · exact hx
        · exact Nat.zero_le _
      · have hno : x.worksFor p.id = false := by
          simp [Lease.worksFor, hxp, hpid]
        rw [hno]
        exact Nat.zero_le _
    have hwas := hpending g
    unfold Ledger.load
    rw [hleases, tally_append]
    omega
  have hgpu := total (fun y => b.ledger.charge y.id) (fun y => b'.ledger.charge y.id)
    ResourceAllocation.asked
    (fun y hy => by
      have hne : y.id ≠ leaseId := fun he => hfresh (he ▸ List.mem_map_of_mem hy)
      have hc := hcharge y.id
      rwa [if_neg hne] at hc)
    (by
      have hc := hcharge leaseId
      rw [hnone, if_pos rfl, Nat.zero_add] at hc
      rw [hxid]
      exact hc.trans hasked)
  have hlease := total (fun _ => 1) (fun _ => 1) (fun _ => 1) (fun _ _ => le_rfl) le_rfl
  rw [← gpuUsage_eq hu, ← gpuUsage_eq hu'] at hgpu
  rw [← leaseUsage_eq, ← leaseUsage_eq] at hlease
  exact (hw p hp).mono hgpu hlease

/-- What a transaction adds to the projects has no limits. -/
theorem apply_enrols (hb : Intact b) (h : op.apply cfg b = .ok (b', resp)) :
    Enrols b.ledger b'.ledger := by
  by_cases hop : op.files = false
  · exact (apply_booked hb h hop).enrols
  cases op with
  | claimPrepare now actor r key endpointId plugin token =>
    rcases claimPrepare_filed h with rfl | ⟨project, projects, l, c, -, ⟨as, rfl⟩, hb'⟩
    · exact .of_eq rfl
    · rcases hb' with rfl | ⟨-, rfl⟩
      · exact c.enrols rfl
      · exact c.enrols rfl
  | claimFinish now actor r key allocationId leaseId =>
    obtain ⟨-, -, hprojects, -⟩ := claimFinish_ties h
    exact .of_eq hprojects
  | _ => exact absurd rfl hop

/-- **A transaction stays within the limits** where they cover it. -/
theorem apply_within (hk : Kept b) (hu : Unplugged b.ledger) (hw : WithinLimits b.ledger)
    (hc : b.covers op) (h : op.apply cfg b = .ok (b', resp)) : WithinLimits b'.ledger := by
  have hu' := apply_unplugged hk hu h
  intro p hp
  rcases (apply_enrols hk.intact h).rows p hp with hp | ⟨id, rfl⟩
  case inr => exact Project.within_unlimited _ _ _
  -- a transaction that admits nothing
  have other : op.files = false → op.hands = false → op.resizes = none →
      (∀ x, op.draws x → x.kind = .keepalive) →
      p.Within (b'.ledger.gpuUsage p.id) (b'.ledger.leaseUsage p.id) := by
    intro hop hh hr hd
    obtain ⟨hg, hl⟩ := usage_le hk hu hu' h hop hh hr (covers_lightens hc hop hh) hd p.id
    exact (hw p hp).mono hg hl
  cases op with
  | createRequest => exact createRequest_within hk hu hu' hw h hp
  | resizeLease => exact resizeLease_within hk hu hu' hw h hp
  | takeOverLease => exact takeOverLease_within cfg hk hu hu' hw hc h hp
  | claimPrepare => exact claimPrepare_within hk hu hu' hw h hp
  | claimFinish => exact claimFinish_within hk hu hu' hw hc h hp
  | activateKeepalives => exact other rfl rfl rfl fun x hx => hx.1
  | _ => exact other rfl rfl rfl fun x hx => hx.elim

/-- **The limits hold along every run** whose takeovers between projects they leave room for, and
whose providers say no more than they were asked. -/
theorem run_within_limits (hb : Reachable cfg b) (hw : WithinLimits b.ledger) (ops : List Op)
    (hc : Run.Along (exec cfg) Broker.covers b ops) :
    WithinLimits (Run.run (exec cfg) b ops).ledger := by
  refine (Run.run_inv (I := fun s => Kept s ∧ Unplugged s.ledger ∧ WithinLimits s.ledger)
    (fun s op hs ho => ?_) ⟨hb.kept, hb.unplugged, hw⟩ hc).2.2
  obtain ⟨hk, hu, hw⟩ := hs
  refine ⟨exec_kept cfg s op hk, ?_⟩
  rcases exec_cases cfg s op with ⟨s', r, h, he⟩ | ⟨-, he⟩
  · rw [he]
    exact ⟨apply_unplugged hk hu h, apply_within hk hu hw ho h⟩
  · rw [he]
    exact ⟨hu, hw⟩

end

/-! ## Two projects at their limits -/

/-- Limits a configuration may give a project. -/
def Project.configured (p : Project) : Prop :=
  (∀ q ∈ p.quotaGpus, 1 ≤ q) ∧ ∀ n ∈ p.concurrencyLimit, 1 ≤ n

instance (p : Project) : Decidable p.configured :=
  inferInstanceAs (Decidable (_ ∧ _))

/-- A server with two cards, for two projects that may use one each. -/
def limitedFleet : Broker :=
  .fleet [] [sampleServer "alpha" 22]
    [{ id := "lab", quotaGpus := some 1, concurrencyLimit := some 1 },
     { id := "annex", quotaGpus := some 1, concurrencyLimit := some 1 }]

theorem limitedFleet_seeded : Seeded limitedFleet :=
  fleet_seeded [] (by decide) (by decide) (by decide)

/-- A session of `annex`. -/
def annexActor : ActorContext := { sampleActor "bob" with sessionProject := some "annex" }

/-- A claim of `annex` for one card. -/
def annexCard : RequestCreate :=
  { oneCard with projectId := "annex", taskRef := "evaluate", projectId_len := by decide
                 taskRef_len := by decide }

/-- Either project claims a card. -/
def limitedClaims : List Op :=
  [.ingestObservation 0 (lookAtTwo "alpha" "GPU-0" "GPU-1" twoCards_ne 0 []) sampleToken,
   .createRequest 0 (sampleActor "ann") oneCard none true "lease" (sampleToken "lease"),
   .createRequest 0 annexActor annexCard none true "other" (sampleToken "other")]

/-- `annex` takes the lease of `lab` over. -/
def annexes (force : Bool) : Op :=
  .takeOverLease 0 annexActor (some "lease") none "annex" "handed over" force

/-- At its limit, `lab` gets no second lease, and `annex` is not handed one that is owned. -/
theorem limitedClaim_within :
    WithinLimits (Run.run (exec plainConfig) limitedFleet (limitedClaims ++
      [.createRequest 0 (sampleActor "ann") oneCard none true "more" (sampleToken "more"),
       annexes false])).ledger :=
  run_within_limits ⟨_, limitedFleet_seeded, [], rfl⟩ (by decide) _ (by decide +kernel)

/-- **A takeover is not checked**: it brings a project over its limits. -/
theorem takeover_exceeds :
    ¬ ∀ b, Reachable plainConfig b → (∀ p ∈ b.ledger.projects, p.configured) →
      WithinLimits b.ledger → ∀ ops, WithinLimits (Run.run (exec plainConfig) b ops).ledger := by
  intro h
  have hall := h limitedFleet ⟨_, limitedFleet_seeded, [], rfl⟩ (by decide) (by decide)
    (limitedClaims ++ [annexes true])
  exact absurd hall (by decide +kernel)

end ServerPilot
