import ServerPilot.Proof.Commits
import ServerPilot.Proof.Evidence
import ServerPilot.Proof.Inventory
import ServerPilot.Proof.Physical
import ServerPilot.Proof.Promises

/-!
# What a holder is told

The holder of a lease learns of a change of its cards from the audit rows past its
cursor. `Told` says of two ledgers that every lease kept its cursor, and that a lease
whose cards changed has a new row its holder will read, or is closed.

* `apply_told`: so it is across every transaction that is not silent (`Op.silent`).
* `change_told_once`: so a change in a run is in the next reply to the holder, and in no later one.
* `reassignment_untold`: a change by a silent transaction is in none.
-/

namespace ServerPilot

open Rows Checked

/-- The row reports a change of this lease. -/
def AuditEvent.notice (e : AuditEvent) (id : String) : Prop :=
  e.resourceType = "lease" ∧ e.resourceId = id ∧ e.action ∈ leaseChangeActions

/-- The lease ended otherwise than by an idle reclaim. -/
def Lease.closed (x : Lease) : Prop :=
  x.state = .released ∨
    (x.state = .expiredEmpty ∧ x.releaseReason = some "expired without observed process")

theorem Lease.closed.not_live {x : Lease} (h : x.closed) : x.state.live = false := by
  rcases h with h | ⟨h, -⟩ <;> rw [h] <;> rfl

/-- Audit rows were only added, each with an id of its own. -/
structure Recorded (l l' : Ledger) : Prop where
  old : ∀ e ∈ l.audit, e ∈ l'.audit
  new : ∀ e ∈ l'.audit, e ∈ l.audit ∨ l.nextAuditId ≤ e.id

/-- The lease row as far as its holder's reading goes. -/
structure Lease.Reads (x x' : Lease) : Prop where
  kind : x'.kind = x.kind
  cursor : x'.agentSeenAuditId = x.agentSeenAuditId
  closed : x.closed → x'.closed

/-- Audit rows were added, and the lease, if it does work, is read from where it was. -/
structure Followed (id : String) (l l' : Ledger) : Prop where
  log : Recorded l l'
  lease : ∀ x, l.lease? id = some x → x.kind = .workload → ∃ x', l'.lease? id = some x' ∧ x.Reads x'

/-- A new row reports a change of the lease. -/
def Noticed (id : String) (l l' : Ledger) : Prop :=
  ∃ e ∈ l'.audit, l.nextAuditId ≤ e.id ∧ e.notice id

/-- Besides, if the lease's cards changed, a new row says so or the lease is closed. -/
structure Told (id : String) (l l' : Ledger) : Prop extends Followed id l l' where
  cards : ∀ x, l.lease? id = some x → x.kind = .workload →
    (l'.folio id).cardSet ≠ (l.folio id).cardSet →
      Noticed id l l' ∨ ∀ x', l'.lease? id = some x' → x'.closed

/-- What a reply to a view of this lease reports. -/
def Response.changesTo (id : String) : Response → Option (List SeenChange)
  | .view i _ _ _ _ changes _ _ | .ended i _ _ _ changes _ _ =>
    if i = id then some changes else none
  | _ => none

/-- The rows a view of this lease reports. -/
def Broker.unread (b : Broker) (id : String) : List AuditEvent :=
  ((b.ledger.lease? id).map b.ledger.unseenEvents).getD []

/-- What a delivered view of this lease tells its holder. -/
def Broker.delivers (cfg : Config) (b : Broker) (op : Op) (id : String) :
    Option (List SeenChange) :=
  match op with
  | .leaseView .. => (op.apply cfg b).toOption.bind fun r => r.2.changesTo id
  | _ => none

/-- Retention takes no audit row. -/
def Broker.retains (b : Broker) : Op → Bool
  | .pruneExpired now => b.ledger.audit.all fun e => !decide (e.createdAt < now - days 30)
  | _ => true

/-- The transactions whose audit rows `LEASE_CHANGE_ACTIONS` does not list. -/
def Op.silent : Op → Bool
  | .reassignLeaseGpus .. | .releaseEmptyConflictedLease .. | .deleteEndpoint .. => true
  | _ => false

section

variable {l l' l'' : Ledger} {id i : String}

/-! ## The log -/

theorem Recorded.refl (l : Ledger) : Recorded l l := ⟨fun _ h => h, fun _ h => Or.inl h⟩

theorem Recorded.of_audit (h : l'.audit = l.audit) : Recorded l l' := by
  refine ⟨fun e he => ?_, fun e he => Or.inl ?_⟩
  · rw [h]
    exact he
  · rw [← h]
    exact he

/-- The next id never goes back. -/
theorem Recorded.next_le (h : Recorded l l') : l.nextAuditId ≤ l'.nextAuditId := by
  have hmax : ∀ n, (∀ e ∈ l.audit, e.id < n) → 1 ≤ n → l.nextAuditId ≤ n := by
    intro n hn h1
    unfold Ledger.nextAuditId
    have hids : ∀ i ∈ l.audit.map AuditEvent.id, i < n := by
      intro i hi
      obtain ⟨e, he, rfl⟩ := List.mem_map.1 hi
      exact hn e he
    generalize l.audit.map AuditEvent.id = ids at hids
    induction ids with
    | nil => simpa using h1
    | cons i ids ih =>
      have hi := hids i List.mem_cons_self
      have hrest := ih fun j hj => hids j (List.mem_cons_of_mem i hj)
      simp only [List.foldr_cons]
      omega
  refine hmax _ (fun e he => lt_nextAuditId (h.old e he)) ?_
  unfold Ledger.nextAuditId
  omega

theorem Recorded.trans (a : Recorded l l') (b : Recorded l' l'') : Recorded l l'' := by
  refine ⟨fun e he => b.old e (a.old e he), fun e he => ?_⟩
  rcases b.new e he with he | he
  · exact a.new e he
  · exact Or.inr (a.next_le.trans he)

theorem recorded_addAudit (a : Option String) (x t r s : String) (d : Details) (now : Time) :
    Recorded l (l.addAudit a x t r s d now) := by
  refine ⟨fun e he => List.mem_append_left _ he, fun e he => ?_⟩
  rcases List.mem_append.1 he with he | he
  · exact Or.inl he
  · rw [List.mem_singleton.1 he]
    exact Or.inr le_rfl

/-! ## Composing -/

theorem Lease.Reads.refl (x : Lease) : x.Reads x := ⟨rfl, rfl, fun h => h⟩

theorem Lease.Reads.trans {x x' x'' : Lease} (a : x.Reads x') (b : x'.Reads x'') : x.Reads x'' :=
  ⟨b.kind.trans a.kind, b.cursor.trans a.cursor, fun h => b.closed (a.closed h)⟩

theorem Followed.trans (a : Followed id l l') (b : Followed id l' l'') : Followed id l l'' := by
  refine ⟨a.log.trans b.log, fun x hx hw => ?_⟩
  obtain ⟨x', hx', hr⟩ := a.lease x hx hw
  obtain ⟨x'', hx'', hr'⟩ := b.lease x' hx' (hr.kind.trans hw)
  exact ⟨x'', hx'', hr.trans hr'⟩

theorem Told.trans (a : Told id l l') (b : Told id l' l'') : Told id l l'' := by
  refine ⟨a.toFollowed.trans b.toFollowed, fun x hx hw hne => ?_⟩
  obtain ⟨x', hx', hr⟩ := a.lease x hx hw
  have hw' : x'.kind = .workload := hr.kind.trans hw
  by_cases hfirst : (l'.folio id).cardSet = (l.folio id).cardSet
  · rw [← hfirst] at hne
    refine (b.cards x' hx' hw' hne).imp_left ?_
    rintro ⟨e, he, hid, hn⟩
    exact ⟨e, he, a.log.next_le.trans hid, hn⟩
  · rcases a.cards x hx hw hfirst with ⟨e, he, hid, hn⟩ | hclosed
    · exact Or.inl ⟨e, b.log.old e he, hid, hn⟩
    · -- a closed lease stays closed
      obtain ⟨x'', hx'', hr'⟩ := b.lease x' hx' hw'
      refine Or.inr fun y hy => ?_
      obtain rfl : x'' = y := Option.some.inj (hx''.symm.trans hy)
      exact hr'.closed (hclosed x' hx')

/-- The lease's rows are untouched. -/
theorem Told.of_folio (hlog : Recorded l l') (h : l'.folio id = l.folio id) : Told id l l' := by
  have hl : l'.lease? id = l.lease? id := congrArg Folio.lease h
  refine ⟨⟨hlog, fun x hx _ => ⟨x, hl.trans hx, .refl x⟩⟩, fun x _ _ hne => ?_⟩
  rw [h] at hne
  exact absurd rfl hne

theorem Told.of_tables (hlog : Recorded l l') (h₁ : l'.leases = l.leases)
    (h₂ : l'.resources = l.resources) (h₃ : l'.commitments = l.commitments) : Told id l l' :=
  .of_folio hlog (folio_congr id h₁ h₂ h₃)

theorem Told.refl (id : String) (l : Ledger) : Told id l l := .of_folio (.refl l) rfl

/-- No such lease, or one that does no work. -/
theorem Told.of_none (hlog : Recorded l l') (h : ∀ x, l.lease? id = some x → x.kind ≠ .workload) :
    Told id l l' :=
  ⟨⟨hlog, fun x hx hw => absurd hw (h x hx)⟩, fun x hx hw => absurd hw (h x hx)⟩

theorem Told.bump (h : Told id l l') : Told id l l'.bumpRevision :=
  h.trans (.of_tables (.of_audit rfl) rfl rfl rfl)

theorem Told.audit (h : Told id l l') (a : Option String) (x t r s : String) (d : Details)
    (now : Time) : Told id l (l'.addAudit a x t r s d now) :=
  h.trans (.of_tables (recorded_addAudit a x t r s d now) rfl rfl rfl)

theorem Told.remember (h : Told id l l') (actor : ActorContext) (action : String)
    (key : Option String) (resp : Response) (now : Time) :
    Told id l (l'.remember actor action key resp now) := by
  obtain ⟨idem, hrem⟩ := remember_eq l' actor action key resp now
  rw [hrem]
  exact h.trans (.of_tables (.of_audit rfl) rfl rfl rfl)

/-- The row that says so is written. -/
theorem Followed.notice (h : Followed id l l') {a : Option String} {x s : String} {d : Details}
    {now : Time} (hx : x ∈ leaseChangeActions) :
    Told id l (l'.addAudit a x "lease" id s d now) := by
  have hlog := recorded_addAudit (l := l') a x "lease" id s d now
  refine ⟨⟨h.log.trans hlog, h.lease⟩, fun _ _ _ _ => Or.inl ?_⟩
  exact ⟨_, List.mem_append_right _ (List.mem_singleton_self _), h.log.next_le, rfl, rfl, hx⟩

/-- An edit of a lease row its holder's reading does not depend on. -/
theorem Told.of_edit {f : Lease → Lease} (hid : ∀ x, (f x).id = x.id)
    (hf : ∀ x, l.lease? i = some x → x.kind = .workload → x.Reads (f x)) :
    Told id l (l.editLease i f) := by
  by_cases h : id = i
  · subst h
    refine ⟨⟨.of_audit rfl, fun x hx hw => ⟨f x, ?_, hf x hx hw⟩⟩, fun x _ _ hne => ?_⟩
    · rw [lease?_editLease _ _ _ hid, if_pos rfl, hx]
      rfl
    · exact absurd rfl hne
  · exact .of_folio (.of_audit rfl) (folio_editLease_ne l id i hid h)

/-- Any edit of card rows. -/
theorem Followed.of_rows {p : LeaseResource → Bool} {g : LeaseResource → LeaseResource} :
    Followed id l (l.editResources p g) := ⟨.of_audit rfl, fun x hx _ => ⟨x, hx, .refl x⟩⟩

/-- An edit of card rows that leaves who holds which card. -/
theorem Told.of_rows {p : LeaseResource → Bool} {g : LeaseResource → LeaseResource}
    (h : ((l.editResources p g).folio id).cardSet = (l.folio id).cardSet) :
    Told id l (l.editResources p g) :=
  ⟨.of_rows, fun _ _ _ hne => absurd h hne⟩

/-- The row an edit leaves is the edited row. -/
theorem lease?_edited {f : Lease → Lease} {y : Lease} (hid : ∀ x, (f x).id = x.id)
    (h : (l.editLease i f).lease? i = some y) : ∃ x, l.lease? i = some x ∧ y = f x := by
  rw [lease?_editLease _ _ _ hid, if_pos rfl] at h
  obtain ⟨x, hx, he⟩ := Option.map_eq_some_iff.1 h
  exact ⟨x, hx, he.symm⟩

/-- The end of a lease, unless it is an idle reclaim. -/
theorem Told.of_end {s : LeaseState} {reason : Option String} {now : Time}
    (hs : ∀ x : Lease, (x.ended s reason now).closed) : Told id l (l.endLease i s reason now) := by
  by_cases h : id = i
  · subst h
    have hrow : ∀ x, l.lease? id = some x →
        (l.endLease id s reason now).lease? id = some (x.ended s reason now) := by
      intro x hx
      have hedit := lease?_editLease l id id (f := Lease.ended s reason now) fun _ => rfl
      rw [if_pos rfl, hx] at hedit
      exact hedit
    refine ⟨⟨.of_audit rfl, fun x hx _ => ⟨_, hrow x hx, rfl, rfl, fun _ => hs x⟩⟩,
      fun x hx _ _ => Or.inr fun y hy => ?_⟩
    rw [hrow x hx] at hy
    cases hy
    exact hs x
  · exact .of_folio (.of_audit rfl) (folio_endLease_ne _ _ _ h)

theorem closed_released (reason : Option String) (now : Time) (x : Lease) :
    (x.ended .released reason now).closed := Or.inl rfl

theorem closed_expired (now : Time) (x : Lease) :
    (x.ended .expiredEmpty (some "expired without observed process") now).closed :=
  Or.inr ⟨rfl, rfl⟩

/-- A fold of steps that tell. -/
theorem Told.foldl {σ α : Type*} (view : σ → Ledger) {f : σ → α → σ} (xs : List α) (s : σ)
    (hf : ∀ s, ∀ a ∈ xs, Told id (view s) (view (f s a))) :
    Told id (view s) (view (xs.foldl f s)) := by
  refine Run.foldl_inv (I := fun t => Told id (view s) (view t)) ?_ (.refl id _)
  intro t a ha ht
  exact ht.trans (hf t a ha)

end

/-! ## The pass -/

section

variable {cfg : Config} {now : Time} {actorId : String} {id : String}

theorem syncDirect_told (b : Broker) (lease : Lease) (gpus : List GPUDevice)
    (token : String → String) (now : Time) :
    Told id b.ledger (b.syncDirectAllocations lease gpus token now).ledger :=
  .of_tables (.of_audit rfl) rfl rfl rfl

theorem reclaimAction_reported (remaining : List LeaseResource) :
    reclaimAction remaining ∈ leaseChangeActions := by
  unfold reclaimAction leaseChangeActions
  split <;> simp

theorem lookAtLease_told (b : Broker) (i : String) :
    Told id b.ledger (b.lookAtLease cfg now i) := by
  have hlook : Told id b.ledger (b.ledger.editResources
      (fun r => r.leaseId = i ∧ r.active = true) (LeaseResource.look cfg now b.plant)) :=
    .of_rows (cardSet_lookAtLease cfg now id i)
  exact hlook.trans (.of_edit (fun _ => rfl) fun _ _ _ => ⟨rfl, rfl, fun h => h⟩)

theorem lease?_lookAtLease (cfg : Config) (now : Time) (b : Broker) (i : String) :
    ∃ since, (b.lookAtLease cfg now i).lease? i =
      (b.ledger.lease? i).map fun x => { x with idleSince := since } := by
  let looked := b.ledger.editResources (fun r => r.leaseId = i ∧ r.active = true)
    (LeaseResource.look cfg now b.plant)
  let since := leaseIdleSince (looked.cards i)
  have hedit :=
    lease?_editLease looked i i (f := fun x => { x with idleSince := since }) fun _ => rfl
  exact ⟨since, hedit.trans (if_pos rfl)⟩

theorem settleCards_followed (l : Ledger) (i : String) (gpuIds : List String)
    (reason releasedBy : String) (now : Time) :
    Followed id l (l.settleCards i gpuIds reason releasedBy now) :=
  Followed.of_rows.trans (Told.of_edit (f := Lease.raised) (fun _ => rfl)
    fun _ _ _ => ⟨rfl, rfl, fun h => h⟩).toFollowed

/-- A live lease whose due cards are settled is still read from where it was. -/
theorem settleReclaimed_followed {b : Broker} {lease : Lease}
    (hlive : ∀ x, b.ledger.lease? lease.id = some x → x.state.live = true) :
    Followed id b.ledger (b.settleReclaimed cfg now actorId lease) := by
  have hlook : ∀ y, (b.lookAtLease cfg now lease.id).lease? lease.id = some y →
      y.state.live = true := by
    intro y hy
    obtain ⟨since, hrow⟩ := lease?_lookAtLease cfg now b lease.id
    rw [hrow] at hy
    obtain ⟨x, hx, rfl⟩ := Option.map_eq_some_iff.1 hy
    exact hlive x hx
  have hlooked : Told id b.ledger (b.lookAtLease cfg now lease.id) := lookAtLease_told b lease.id
  have hsettle := hlooked.toFollowed.trans
    (settleCards_followed _ lease.id ((b.reclaimedCards cfg now lease).map LeaseResource.gpuId)
      "idle without observed process" actorId now)
  unfold Broker.settleReclaimed
  simp only
  split
  · exact hsettle
  · refine hsettle.trans (Told.of_edit (f := Lease.idleEnded now) (fun _ => rfl)
      fun y hy _ => ⟨rfl, rfl, fun hc => ?_⟩).toFollowed
    -- the lease was live until its last card went
    obtain ⟨x, hx, rfl⟩ := lease?_edited (f := Lease.raised) (fun _ => rfl) hy
    have hl := hlook x hx
    rw [show x.state.live = false from hc.not_live] at hl
    cases hl

theorem reconcileIdleLease_told {b : Broker} {token : String → String} {lease : Lease}
    (hlive : ∀ x, b.ledger.lease? lease.id = some x → x.state.live = true) :
    Told id b.ledger (b.reconcileIdleLease cfg now actorId token lease).ledger := by
  by_cases hid : id = lease.id
  · subst hid
    unfold Broker.reconcileIdleLease
    simp only
    split
    · exact .refl _ _
    split
    · exact lookAtLease_told b lease.id
    · refine Followed.notice ?_ (reclaimAction_reported _)
      exact (settleReclaimed_followed hlive).trans
        (syncDirect_told ⟨b.plant, b.settleReclaimed cfg now actorId lease⟩ _ _ _ _).toFollowed
  · refine .of_folio ?_ (folio_reconcileIdleLease_ne actorId token hid)
    unfold Broker.reconcileIdleLease
    simp only
    split
    · exact .refl _
    split
    · exact .of_audit rfl
    · refine Recorded.trans ?_ (recorded_addAudit _ _ _ _ _ _ _)
      have hsettled : Followed lease.id b.ledger (b.settleReclaimed cfg now actorId lease) :=
        settleReclaimed_followed hlive
      exact hsettled.log.trans (.of_audit rfl)

variable {s : Pass} {token : String → String → String}

theorem reconcileExpiry_told {processes : Bool} {lease : Lease}
    (hl : s.1.ledger.lease? lease.id = some lease) :
    Told id s.1.ledger (reconcileExpiry now actorId processes lease s).1.ledger := by
  unfold reconcileExpiry
  split
  · rename_i hstate
    cases processes with
    | true =>
      refine Told.audit (.of_edit (f := fun x => { x with state := .orphanedBusy }) (fun _ => rfl)
        fun x hx _ => ⟨rfl, rfl, fun hc => ?_⟩) _ _ _ _ _ _ _
      -- only a live lease is orphaned
      obtain rfl : lease = x := Option.some.inj (hl.symm.trans hx)
      have hlive := hc.not_live
      rcases hstate.1 with h | h <;> rw [h] at hlive <;> cases hlive
    | false => exact Told.audit (.of_end (closed_expired now)) _ _ _ _ _ _ _
  · exact .refl _ _

theorem reconcileDirect_told {lease : Lease} {token : String → String}
    (hl : s.1.ledger.lease? lease.id = some lease) :
    Told id s.1.ledger (reconcileDirect cfg now actorId token lease s).1.ledger := by
  unfold reconcileDirect
  simp only
  split
  · rename_i hstate
    have hidle : Told id s.1.ledger
        (s.1.reconcileIdleLease cfg now actorId token lease).ledger := by
      refine reconcileIdleLease_told fun x hx => ?_
      obtain rfl : lease = x := Option.some.inj (hl.symm.trans hx)
      rcases hstate with h | h <;> rw [h] <;> rfl
    split
    · exact hidle
    · rename_i row hrow
      split
      · exact hidle
      · have hid := lease?_id hrow
        exact hidle.trans (reconcileExpiry_told (s := (_, s.2)) (by rw [hid]; exact hrow))
  · exact .refl _ _

theorem reconcileAllocation_told (lease : Lease) (a : ResourceAllocation) :
    Told id s.1.ledger (reconcileAllocation cfg now lease a s).1.ledger := by
  have hwrite : ∀ x : ResourceAllocation, Told id s.1.ledger
      (s.1.ledger.editAllocations (fun y => y.id = a.id) fun _ => x) :=
    fun x => .of_tables (.of_audit rfl) rfl rfl rfl
  unfold reconcileAllocation
  simp only
  split
  · exact .refl _ _
  split
  · exact hwrite _
  split
  · exact hwrite _
  · exact hwrite _

theorem reconcileLease_told (s : Pass) (i : String) :
    Told id s.1.ledger (reconcileLease cfg now actorId token s i).1.ledger := by
  unfold reconcileLease
  split
  · exact .refl _ _
  · rename_i lease hl
    split
    · exact .of_edit (fun _ => rfl) fun x _ _ => ⟨rfl, rfl, fun h => h⟩
    split
    · exact reconcileAllocation_told lease _
    · have hid := lease?_id hl
      exact reconcileDirect_told (by rw [hid]; exact hl)

theorem normalizeConflicts_told {l : Ledger} (hn : (l.leases.map Lease.id).Nodup) :
    Told id l (l.normalizeConflicts actorId now) := by
  unfold Ledger.normalizeConflicts
  have hboth : ∀ ids : List String, (∀ i ∈ ids, ∃ x, l.lease? i = some x ∧ x.state = .conflict) →
      Keeps l (ids.foldl (Ledger.normalizeConflict actorId now) l) ∧
        Told id l (ids.foldl (Ledger.normalizeConflict actorId now) l) := by
    intro ids hids
    refine Run.foldl_inv (I := fun m => Keeps l m ∧ Told id l m) ?_ ⟨.refl l, .refl id l⟩
    rintro m i hi ⟨hk, ht⟩
    obtain ⟨x, hx, hs⟩ := hids i hi
    have hlive : ∀ y, m.lease? i = some y → y.state.live = true := by
      intro y hy
      rw [hk.live hx hy, hs]
      rfl
    refine ⟨hk.trans (.trans (.of_edit (f := fun x => { x with state := .active }) (fun _ => rfl)
      fun y hy => ⟨rfl, rfl, (hlive y hy).symm, rfl, rfl⟩) (.of_tables rfl rfl rfl)), ?_⟩
    refine ht.trans (Told.audit (.of_edit (f := fun x => { x with state := .active })
      (fun _ => rfl) fun y hy _ => ⟨rfl, rfl, fun hc => ?_⟩) _ _ _ _ _ _ _)
    have hl := hlive y hy
    rw [hc.not_live] at hl
    cases hl
  refine (hboth _ fun i hi => ?_).2
  obtain ⟨x, hx, rfl⟩ := List.mem_map.1 hi
  obtain ⟨hx, hs⟩ := List.mem_filter.1 hx
  exact ⟨x, row?_of_mem hn hx, (by simpa using hs : _ ∧ _).2⟩

theorem reconcileLeases_told {b : Broker} (hn : (b.ledger.leases.map Lease.id).Nodup) :
    Told id b.ledger (b.reconcileLeases cfg now actorId token).1.ledger := by
  unfold Broker.reconcileLeases
  have hconflicts : Told id b.ledger (b.ledger.normalizeConflicts actorId now) :=
    normalizeConflicts_told hn
  refine hconflicts.trans ?_
  exact Told.foldl (f := reconcileLease cfg now actorId token) (fun s : Pass => s.1.ledger) _
    (⟨b.plant, b.ledger.normalizeConflicts actorId now⟩, []) fun s i _ => reconcileLease_told s i

/-! ## An observation -/

theorem releaseAbsentKeepers_told (p : Plant) (l : Ledger) (endpointIds : List String) :
    Told id l (Broker.releaseAbsentKeepers ⟨p, l⟩ endpointIds now).ledger := by
  unfold Broker.releaseAbsentKeepers
  simp only
  split
  · exact .refl _ _
  have hkeepers : ∀ ids : List String, Told id l (ids.foldl (releaseAbsentKeeper
      ("collector:" ++ (endpointIds.insertionSort (· ≤ ·)).headD "") now) l) := by
    intro ids
    refine Told.foldl (fun l : Ledger => l) ids l fun l i _ => ?_
    exact Told.audit (.of_end (closed_released _ now)) _ _ _ _ _ _ _
  split
  · exact hkeepers _
  · exact (hkeepers _).trans (.of_tables (.of_audit rfl) rfl rfl rfl)

theorem ingestNodeObservation_told (endpointId : String) (b : Broker) (o : NodeObservation) :
    Told id b.ledger (ingestNodeObservation cfg endpointId now b o).ledger := by
  unfold ingestNodeObservation
  split
  · exact .refl _ _
  · simp only
    split
    · exact .refl _ _
    · exact releaseAbsentKeepers_told _ _ _

theorem ingestAllocations_told (l : Ledger) (o : EndpointObservation) :
    Told id l (l.ingestAllocations o now) := by
  unfold Ledger.ingestAllocations
  refine Told.foldl (fun l : Ledger => l) _ l fun l a _ => ?_
  have hwrite : ∀ x : ResourceAllocation, Told id l
      (l.editAllocations (fun y => y.id = a.id) fun _ => x) :=
    fun x => .of_tables (.of_audit rfl) rfl rfl rfl
  unfold ingestAllocation
  simp only
  split
  · exact hwrite _
  split
  · exact hwrite _
  split
  · exact (hwrite _).trans (.of_end (closed_released _ now))
  · exact hwrite _

theorem recordObservedKeepalive_told (b : Broker) (endpointId : String) (complete : Bool) :
    Told id b.ledger (b.recordObservedKeepalive endpointId complete now).ledger := by
  unfold Broker.recordObservedKeepalive
  split
  · exact .refl _ _
  refine Told.foldl Broker.ledger _ b fun b lease _ => ?_
  unfold recordObservedKeeper
  split
  · simp only
    split
    · exact .of_edit (f := fun x => { x with lastHeartbeatAt := now, expiresAt := none })
        (fun _ => rfl) fun _ _ _ => ⟨rfl, rfl, fun h => h⟩
    · exact .refl _ _
  · exact .refl _ _

/-- A sighting activates a live lease. -/
theorem bindNewWorkload_told {endpointId : String} {b : Broker} {lease : Lease}
    (hl : ∀ x, b.ledger.lease? lease.id = some x → x.state.live = true) :
    Told id b.ledger (bindNewWorkload endpointId now b lease).ledger := by
  unfold bindNewWorkload
  simp only
  split
  · exact .refl _ _
  · refine Told.audit (Told.audit (Told.trans ?_ (Told.of_edit (f := Lease.activatedBySighting now)
      (fun _ => rfl) fun x hx _ => ⟨rfl, rfl, fun hc => ?_⟩)) _ _ _ _ _ _ _) _ _ _ _ _ _ _
    · exact .of_tables (.of_audit rfl) rfl rfl rfl
    have hlive := hl x hx
    rw [hc.not_live] at hlive
    cases hlive

theorem bindNewWorkloads_told {b : Broker} (hn : (b.ledger.leases.map Lease.id).Nodup)
    (endpointId : String) : Told id b.ledger (b.bindNewWorkloads endpointId now).ledger := by
  unfold Broker.bindNewWorkloads
  refine (Run.foldl_inv (I := fun s : Broker => Keeps b.ledger s.ledger ∧ Told id b.ledger s.ledger)
    ?_ ⟨.refl _, .refl id _⟩).2
  rintro s lease hm ⟨hk, ht⟩
  obtain ⟨hx, hc⟩ := List.mem_filter.1 hm
  have hst : lease.state = .held ∨ lease.state = .active ∨ lease.state = .conflict := by
    simp only [decide_eq_true_eq] at hc
    exact hc.2.1
  have hlive : ∀ x, s.ledger.lease? lease.id = some x → x.state.live = true := by
    intro x hx'
    rw [hk.live (row?_of_mem hn hx) hx']
    rcases hst with h | h | h <;> rw [h] <;> rfl
  exact ⟨hk.trans (bindNewWorkload_keeps hlive), ht.trans (bindNewWorkload_told hlive)⟩

theorem absorb_told {b : Broker} (hn : (b.ledger.leases.map Lease.id).Nodup)
    (o : EndpointObservation) : Told id b.ledger (b.absorb cfg now o).ledger := by
  unfold Broker.absorb
  simp only [clearKeepaliveErrors_ledger]
  have h₀ : Closing b.ledger { b with ledger := b.ledger.bumpRevision }.ledger ∧
      Told id b.ledger { b with ledger := b.ledger.bumpRevision }.ledger :=
    ⟨.of_tables rfl rfl rfl, .of_tables (.of_audit rfl) rfl rfl rfl⟩
  generalize { b with ledger := b.ledger.bumpRevision } = b₀ at h₀
  have h₁ :
      Closing b.ledger (o.nodes.foldl (ingestNodeObservation cfg o.endpointId now) b₀).ledger ∧
      Told id b.ledger (o.nodes.foldl (ingestNodeObservation cfg o.endpointId now) b₀).ledger :=
    ⟨h₀.1.trans (nodes_closing cfg o.endpointId now o.nodes b₀), h₀.2.trans
      (Told.foldl Broker.ledger _ b₀ fun b n _ => ingestNodeObservation_told _ b n)⟩
  generalize o.nodes.foldl (ingestNodeObservation cfg o.endpointId now) b₀ = b₁ at h₁
  have hfail := failures_ledger cfg o.endpointId now o.failures b₁
  rw [← hfail] at h₁
  generalize o.failures.foldl (ingestNodeFailure cfg o.endpointId now) b₁ = b₂ at h₁
  have h₂ := h₁.1.trans (ingestAllocations_closing now b₂.ledger o)
  have h₃ := h₂.trans (recordObservedKeepalive_keeps now ⟨b₂.plant.setProviderState
    (providerStateAfter b₂.plant o.endpointId (o.scheduler.isSome || o.complete) now),
    b₂.ledger.ingestAllocations o now⟩ o.endpointId o.complete).closing
  refine (h₁.2.trans (ingestAllocations_told b₂.ledger o)).trans
    ((recordObservedKeepalive_told ⟨_, b₂.ledger.ingestAllocations o now⟩ o.endpointId
      o.complete).trans (bindNewWorkloads_told ?_ o.endpointId))
  rw [h₃.keys.leases]
  exact hn

theorem ingested_told {b : Broker} (hn : (b.ledger.leases.map Lease.id).Nodup)
    (o : EndpointObservation) : Told id b.ledger (b.ingested cfg now o token).1.ledger := by
  have habsorb : Told id b.ledger (b.absorb cfg now o).ledger := absorb_told hn o
  have hn' : ((b.absorb cfg now o).ledger.leases.map Lease.id).Nodup := by
    rw [(absorb_closing cfg now hn o).keys.leases]
    exact hn
  have hpass : Told id b.ledger ((b.absorb cfg now o).reconcileLeases cfg now
      ("collector:" ++ o.endpointId) token).1.ledger := habsorb.trans (reconcileLeases_told hn')
  unfold Broker.ingested Ledger.auditRecovery
  simp only
  split
  · exact hpass.audit _ _ _ _ _ _ _
  · exact hpass

end

/-! ## The other transactions -/

section

variable {cfg : Config} {now : Time} {actor : ActorContext} {leaseId id : String}
  {token : String → String} {b b' : Broker} {resp : Response}

theorem createRequest_told (hb : Intact b) {r : RequestCreate} {key : Option String}
    {persistent : Bool}
    (h : createRequest cfg now actor r key persistent leaseId token b = .ok (b', resp)) :
    Told id b.ledger b'.ledger := by
  rcases claim_begun hb h with rfl | ⟨-, hfresh, hothers, -⟩
  · exact .refl _ _
  have hlog : Recorded b.ledger b'.ledger := by
    rcases createRequest_ok h with rfl | ⟨b₀, revision, gpus, d, hs, -, -, rfl⟩
    · exact .refl _
    obtain ⟨idem, hrem⟩ := remember_eq (b₀.claimed actor persistent (claimedLease leaseId actor r
      now revision) r.constraints gpus token d now).ledger actor "request.create" key resp now
    rw [hrem]
    have hclaim : Recorded b.ledger
        (b₀.insertClaim (claimedLease leaseId actor r now revision) r.constraints gpus token
          now).ledger := .of_audit hs.audit
    exact hclaim.trans ((recorded_addAudit _ _ _ _ _ _ _).trans (.of_audit rfl))
  by_cases hid : id = leaseId
  · refine .of_none hlog fun x hx => ?_
    rw [hid, holding_absent.1 hfresh] at hx
    cases hx
  · exact .of_folio hlog (hothers id hid)

/-- A resize is reported too, to whoever made it. -/
theorem resizeLease_told (hb : Intact b) {addRequest : Option RequestCreate} {names : List String}
    {expectedEpoch : Option ℕ}
    (h : resizeLease cfg now actor leaseId addRequest names expectedEpoch token b =
      .ok (b', resp)) :
    Told id b.ledger b'.ledger := by
  obtain ⟨-, hothers, x, -, hx, -, -, hx', -⟩ := resize_resized hb h
  obtain ⟨lease, taken, added, d, hl, -, -, -, -, -, -, hadd, -, -, rfl⟩ := resizeLease_ok h
  obtain rfl := lease?_id hl
  have haudit : taken.ledger.audit = b.ledger.audit := by
    have hreturned : (b.ledger.bumpRevision.returnCards lease.id
        (b.returnedCards lease.id names) actor.id now).audit = b.ledger.audit := by
      unfold Ledger.returnCards
      split <;> rfl
    rcases addCards_ok hadd with ⟨-, rfl, -⟩ | ⟨r, -, -, rfl⟩
    · exact hreturned
    · exact hreturned
  have hlog : Recorded b.ledger (taken.resized lease
      (decide (b.returnedCards lease.id names = [])) token now).ledger := by
    refine .of_audit ?_
    rw [← haudit]
    unfold Broker.resized
    simp only
    split <;> rfl
  by_cases hid : id = lease.id
  · subst hid
    refine Followed.notice ⟨hlog, fun y hy _ => ⟨x.raised, hx', ?_⟩⟩ (by simp [leaseChangeActions])
    obtain rfl : x = y := Option.some.inj (hx.symm.trans hy)
    exact ⟨rfl, rfl, fun h => h⟩
  · exact .of_folio (hlog.trans (recorded_addAudit _ _ _ _ _ _ _)) (hothers id hid)

theorem releaseLease_told {reason : String} {key : Option String} {override : Bool}
    (h : releaseLease now actor leaseId reason key override token b = .ok (b', resp)) :
    Told id b.ledger b'.ledger := by
  rcases releaseLease_ok h with rfl | ⟨lease, -, -, -, -, d, rfl⟩
  · exact .refl _ _
  refine Told.remember (Told.audit ?_ _ _ _ _ _ _ _) _ _ _ _ _
  have hend : Told id b.ledger (b.ledger.bumpRevision.endLease lease.id .released
      (some (cut 500 (strip reason))) now) :=
    (Told.refl id b.ledger).bump.trans (.of_end (closed_released _ now))
  unfold Broker.released
  simp only
  split
  · exact hend
  · exact hend.trans (syncDirect_told ⟨b.plant, b.ledger.bumpRevision.endLease lease.id .released
      (some (cut 500 (strip reason))) now⟩ _ _ _ _)

/-- A reassignment moves no cursor, but no row its holder reads is written. -/
theorem reassignLeaseGpus_followed (hb : Intact b) {gpuIds : List String} {key : String}
    {override : Bool}
    (h : reassignLeaseGpus now actor leaseId gpuIds key override token b = .ok (b', resp)) :
    Followed id b.ledger b'.ledger := by
  rcases reassignLeaseGpus_ok h with rfl | ⟨lease, targets, c, d, hl, -, -, -, -, -, -, -, -, rfl⟩
  · exact (Told.refl _ _).toFollowed
  obtain rfl := lease?_id hl
  have hmoved : Followed id b.ledger (b.moved lease c targets token now).ledger := by
    refine ⟨.of_audit rfl, fun x hx _ => ?_⟩
    by_cases hid : id = lease.id
    · subst hid
      obtain rfl : lease = x := Option.some.inj (hl.symm.trans hx)
      exact ⟨_, lease?_moved c targets hl, rfl, rfl, fun h => h⟩
    · exact ⟨x, (congrArg Folio.lease (folio_moved_ne hid)).trans hx, .refl x⟩
  have hrest : Told id (b.moved lease c targets token now).ledger
      (((b.moved lease c targets token now).ledger.bumpRevision.addAudit (some actor.id)
        "lease.gpus_reassigned" "lease" lease.id "success" d now).remember actor
          "lease.gpus.reassign" (some key) resp now) :=
    ((Told.refl id _).bump.audit _ _ _ _ _ _ _).remember _ _ _ _ _
  exact hmoved.trans hrest.toFollowed

theorem takeOverLease_told {task session : Option String} {projectId reason : String} {force : Bool}
    (h : takeOverLease now actor session task projectId reason force b = .ok (b', resp)) :
    Told id b.ledger b'.ledger := by
  obtain ⟨lease, session, l, d, -, -, hl, -, rfl⟩ := takeOverLease_ok h
  obtain ⟨projects, rfl⟩ := takeoverProject_ok hl
  refine Told.audit ?_ _ _ _ _ _ _ _
  have hproject : Told id b.ledger { b.ledger with projects } :=
    .of_tables (.of_audit rfl) rfl rfl rfl
  exact hproject.trans ((Told.of_edit (f := Lease.takenOver actor session projectId now)
    (fun _ => rfl) fun _ _ _ => ⟨rfl, rfl, fun h => h⟩).trans
      (.of_tables (.of_audit rfl) rfl rfl rfl))

theorem keepIdleCards_told (b : Broker) (i : String) :
    Told id b.ledger (b.keepIdleCards cfg now i actor).1 := by
  have hrows : Told id b.ledger
      (b.ledger.editResources (idleCardOf i) (LeaseResource.kept cfg now)) :=
    .of_rows (cardSet_editResources (fun _ => rfl) (fun _ => rfl) fun _ => rfl)
  unfold Broker.keepIdleCards
  simp only
  split
  · exact hrows
  · exact hrows.audit _ _ _ _ _ _ _

theorem heartbeat_told (b : Broker) (i : String) (keepIdle : Bool) :
    Told id b.ledger (b.heartbeat cfg now i actor keepIdle).1.ledger := by
  have hbeat : Told id b.ledger (b.ledger.editLease i fun x => { x with lastHeartbeatAt := now }) :=
    .of_edit (fun _ => rfl) fun _ _ _ => ⟨rfl, rfl, fun h => h⟩
  unfold Broker.heartbeat
  simp only
  split
  · exact hbeat.trans (keepIdleCards_told ⟨b.plant, b.ledger.editLease i fun x =>
      { x with lastHeartbeatAt := now }⟩ i)
  · exact hbeat

theorem bindObservedWorkload_told {run : Option String} {key : String}
    (h : bindObservedWorkload now actor leaseId run key b = .ok (b', resp)) :
    Told id b.ledger b'.ledger := by
  rcases bindObservedWorkload_ok h with rfl | ⟨lease, runId, runs, keys, n, hl, hlive, -, rfl⟩
  · exact .refl _ _
  have hbind : Told id b.ledger ((b.ledger.bumpRevision.bindRun leaseId runId runs keys).editLease
      leaseId (Lease.activatedByBind now)) := by
    have hruns : Told id b.ledger (b.ledger.bumpRevision.bindRun leaseId runId runs keys) :=
      .of_tables (.of_audit rfl) rfl rfl rfl
    refine hruns.trans (.of_edit ?_ fun x hx _ => ?_)
    · intro x
      unfold Lease.activatedByBind
      split <;> rfl
    · obtain rfl : lease = x := Option.some.inj (hl.symm.trans hx)
      refine ⟨?_, ?_, fun hc => ?_⟩
      · unfold Lease.activatedByBind
        split <;> rfl
      · unfold Lease.activatedByBind
        split <;> rfl
      · rw [hc.not_live] at hlive
        cases hlive
  have haudit : ∀ {l : Ledger}, Told id b.ledger l →
      Told id b.ledger (l.auditBind actor lease runId n now) := by
    intro l hl
    unfold Ledger.auditBind
    simp only
    split <;> split
    · exact hl.audit _ _ _ _ _ _ _
    · exact (hl.audit _ _ _ _ _ _ _).audit _ _ _ _ _ _ _
    · exact (hl.audit _ _ _ _ _ _ _).audit _ _ _ _ _ _ _
    · exact ((hl.audit _ _ _ _ _ _ _).audit _ _ _ _ _ _ _).audit _ _ _ _ _ _ _
  exact (haudit hbind).remember actor "lease.bind_observed" (some key) resp now

theorem settleOn_followed (b : Broker) (i endpointId reason actorId : String) :
    Followed id b.ledger (b.settleOn i endpointId reason actorId now) := by
  have hsettled : Followed id b.ledger (b.ledger.settleCards i
      ((b.cardsOn i endpointId).map LeaseResource.gpuId) reason actorId now) :=
    settleCards_followed _ _ _ _ _ _
  unfold Broker.settleOn
  simp only
  split
  · exact hsettled.trans (Told.of_edit (f := Lease.ended .released (some reason) now)
      (fun _ => rfl) fun _ _ _ => ⟨rfl, rfl, fun _ => Or.inl rfl⟩).toFollowed
  · exact hsettled

theorem releaseEmpty_followed {endpointId key : String} {notBefore : Time}
    (h : releaseEmptyConflictedLease cfg now actor endpointId leaseId notBefore key b =
      .ok (b', resp)) : Followed id b.ledger b'.ledger := by
  rcases releaseEmptyConflictedLease_ok h with rfl | ⟨lease, hl, -, -, -, rfl⟩
  · exact (Told.refl _ _).toFollowed
  have hbump := (Told.refl id b.ledger).bump.toFollowed
  have hsettled : Followed id b.ledger (Broker.settleOn ⟨b.plant, b.ledger.bumpRevision⟩ lease.id
      endpointId (clearedReason (b.plant.endpointUnreachable cfg now endpointId)) actor.id now) :=
    hbump.trans (settleOn_followed ⟨b.plant, b.ledger.bumpRevision⟩ _ _ _ _)
  have hcleared : Told id (Broker.settleOn ⟨b.plant, b.ledger.bumpRevision⟩ lease.id endpointId
      (clearedReason (b.plant.endpointUnreachable cfg now endpointId)) actor.id now)
      (b.emptyCleared lease endpointId actor.id
        (b.plant.endpointUnreachable cfg now endpointId) now) :=
    Told.audit (.refl _ _) _ _ _ _ _ _ _
  exact hsettled.trans
    (hcleared.remember actor "lease.empty.release" (some key) resp now).toFollowed

theorem settleForDeleted_followed (b : Broker) (endpointId actorId i : String) :
    Followed id b.ledger (settleForDeleted endpointId actorId now b i).ledger :=
  (settleOn_followed b i endpointId _ actorId).trans
    ((Told.refl _ _).audit _ _ _ _ _ _ _).toFollowed

theorem deleteEndpoint_followed {endpointId key : String}
    (h : deleteEndpoint cfg now actor endpointId key b = .ok (b', resp)) :
    Followed id b.ledger b'.ledger := by
  rcases deleteEndpoint_ok h with rfl | ⟨-, -, rfl⟩
  · exact (Told.refl _ _).toFollowed
  have hall : Followed id b.ledger (b.settleLeasesForDeleted endpointId actor.id now).ledger := by
    refine Run.foldl_inv (I := fun s : Broker => Followed id b.ledger s.ledger) ?_
      (Told.refl _ _).toFollowed
    intro s i _ hs
    exact hs.trans (settleForDeleted_followed s endpointId actor.id i)
  have hsettled :
      Followed id b.ledger (if b.plant.endpointUnreachable cfg now endpointId = true then
      b.settleLeasesForDeleted endpointId actor.id now else b).ledger := by
    split
    · exact hall
    · exact (Told.refl _ _).toFollowed
  -- the purge deletes card rows, and no lease and no audit row
  have hpurged : ∀ s : Broker, Followed id s.ledger (s.purgeEndpoint endpointId).ledger :=
    fun s => ⟨.of_audit rfl, fun x hx _ => ⟨x, hx, .refl x⟩⟩
  have hdeleted : Told id (Broker.purgeEndpoint (if b.plant.endpointUnreachable cfg now endpointId =
      true then b.settleLeasesForDeleted endpointId actor.id now else b) endpointId).ledger
      (b.endpointDeleted endpointId actor.id (b.plant.endpointUnreachable cfg now endpointId)
        now).ledger :=
    Told.audit (Told.bump (.refl _ _)) _ _ _ _ _ _ _
  exact (hsettled.trans (hpurged _)).trans
    (hdeleted.remember actor "endpoint.delete" (some key) resp now).toFollowed

theorem activateKeepalives_told (hk : Kept b) {endpointId : String} {gpuIds : List String}
    {notBefore : Time} {key : String} {confirmed : Option (List (String × ℕ × String))}
    (h : activateKeepalives cfg now actor endpointId gpuIds notBefore key confirmed token b =
      .ok (b', resp)) : Told id b.ledger b'.ledger := by
  rcases activate_opening hk.intact hk.wellkept h with rfl | ⟨-, hopen⟩
  · exact .refl _ _
  rcases activateKeepalives_ok h with rfl | ⟨targets, processes, ht, -, -, -, -, -, rfl⟩
  · exact .refl _ _
  have hlog : Recorded b.ledger
      (b.keepersActivated cfg endpointId actor.id targets processes token now).ledger := by
    refine Run.foldl_inv (I := Recorded b.ledger) ?_ (.of_audit rfl)
    intro l t _ hl
    refine hl.trans (Recorded.trans (.of_audit ?_) (recorded_addAudit _ _ _ _ _ _ _))
    split <;> rfl
  have hother : ∀ x, b.ledger.lease? id = some x → x.kind = .workload →
      ∀ t ∈ targets, ∀ y ∈ t.2, y.id ≠ id := by
    rintro x hx hw t ht' y hy rfl
    obtain ⟨g, -, hg⟩ := mem_of_mapM_ok ht ht'
    obtain ⟨-, -, hact, hkeeper⟩ := keepaliveTarget_ok hg
    have hrow := (activeLeaseForGpu_mem (hact ▸ hy : b.ledger.activeLeaseForGpu g = some y)).1
    obtain rfl : y = x := Option.some.inj (hrow.symm.trans hx)
    rw [(hkeeper y hy).1] at hw
    cases hw
  obtain ⟨idem, hrem⟩ := remember_eq (b.keepersActivated cfg endpointId actor.id targets processes
    token now).ledger actor "keepalive.activate_gpus" (some key) resp now
  rw [hrem] at hopen ⊢
  refine ⟨⟨hlog.trans (.of_audit rfl), fun x hx hw => ⟨x, ?_, .refl x⟩⟩, fun x hx hw hne =>
    absurd ?_ hne⟩
  · exact lease?_activateKeepers token actor.id targets (l := b.ledger.bumpRevision) hx
      (hother x hx hw)
  · have hheld : b.ledger.holding? id ≠ none := by
      rw [holding_of_lease hx]
      simp
    unfold Folio.cardSet Folio.active
    rw [(hopen.old id hheld).2]

theorem pluginReleased_told (l : Ledger) (a : ResourceAllocation) (error : Option String) :
    Told id l (l.pluginReleased a error now) := by
  have hmark : Told id l (l.editAllocations (fun x => x.id = a.id)
      (ResourceAllocation.marked error.isNone error now)) := .of_tables (.of_audit rfl) rfl rfl rfl
  unfold Ledger.pluginReleased Ledger.endReleased
  simp only
  refine Told.audit (Told.bump ?_) _ _ _ _ _ _ _
  split
  · exact hmark.trans (.of_end (closed_released _ now))
  · exact hmark

theorem claimPrepare_told {r : RequestCreate} {key : Option String}
    {endpointId allocationId : String}
    {plugin : Plugin}
    (h : claimPrepare now actor r key endpointId plugin allocationId b = .ok (b', resp)) :
    Told id b.ledger b'.ledger := by
  rcases claimPrepare_ok h with rfl | ⟨projects, filed, -, -, h⟩
  · exact .refl _ _
  · obtain ⟨as, ha⟩ := retireEnded_eq { b.ledger with projects } (key.filter fun k => k ≠ "") filed
    rcases h with ⟨a, -, -, rfl⟩ | ⟨-, -, rfl⟩
    · rw [ha]
      exact .of_tables (.of_audit rfl) rfl rfl rfl
    · rw [ha]
      exact .of_tables (.of_audit rfl) rfl rfl rfl

theorem claimFinish_told {r : RequestCreate} {key : Option String}
    {allocationId : String}
    (h : claimFinish now actor r key allocationId leaseId b = .ok (b', resp)) :
    Told id b.ledger b'.ledger := by
  obtain ⟨hfresh, hothers⟩ := claimFinish_fresh h
  obtain ⟨a, -, -, rfl⟩ := claimFinish_ok h
  obtain ⟨idem, hrem⟩ := remember_eq (b.ledger.bumpRevision.delegate (delegatedLease leaseId actor r
    a.expiresAt now b.ledger.bumpRevision.revision) allocationId now) actor "request.create"
    (key.filter fun k => k ≠ "") resp now
  have hlog : Recorded b.ledger ((b.ledger.bumpRevision.delegate (delegatedLease leaseId actor r
      a.expiresAt now b.ledger.bumpRevision.revision) allocationId now).remember actor
      "request.create" (key.filter fun k => k ≠ "") resp now) := by
    rw [hrem]
    exact Recorded.trans (.of_audit rfl) ((recorded_addAudit _ _ _ _ _ _ _).trans (.of_audit rfl))
  by_cases hid : id = leaseId
  · refine .of_none hlog fun x hx => ?_
    rw [hid, hfresh] at hx
    cases hx
  · exact .of_folio hlog (hothers id hid)

theorem claimStep_told {allocationId : String} {f : ResourceAllocation → ResourceAllocation}
    (h : b.writeAllocation allocationId f = .ok (b', resp)) : Told id b.ledger b'.ledger := by
  obtain ⟨-, -, rfl⟩ := writeAllocation_ok h
  exact .of_tables (.of_audit rfl) rfl rfl rfl

theorem finalizeKeepaliveStop_told {endpointId : String} {notBefore : Time} {key : Option String}
    (h : finalizeKeepaliveStop now actor endpointId leaseId notBefore key b = .ok (b', resp)) :
    Told id b.ledger b'.ledger := by
  rcases finalizeKeepaliveStop_ok h with rfl | ⟨lease, g, ps, -, -, -, -, -, -, -, rfl⟩
  · exact .refl _ _
  have hend : Told id b.ledger (b.ledger.bumpRevision.endLease leaseId .released
      (some "keepalive stopped and target GPU observed empty") now) :=
    (Told.refl id b.ledger).bump.trans (.of_end (closed_released _ now))
  have hstop : Told id b.ledger (b.keeperStopped leaseId g actor.id ps now).ledger :=
    hend.audit _ _ _ _ _ _ _
  exact hstop.remember actor "keepalive.finalize_stop_gpu" key resp now

theorem finishCleanup_told (endpointId : String) (gpuIds : List String) (b : Broker) :
    Told id b.ledger (gpuIds.foldl (finishCleanupOn actor endpointId now) b).ledger := by
  refine Told.foldl Broker.ledger gpuIds b fun s g _ => ?_
  unfold finishCleanupOn
  split
  · exact (Told.refl id s.ledger).audit _ _ _ _ _ _ _
  · exact .refl _ _

theorem policyConfigured_told (b : Broker) (e : Endpoint) (policy : KeepalivePolicy)
    (changed : Bool) (actorId : String) :
    Told id b.ledger (b.policyConfigured e policy changed actorId now).ledger := by
  unfold Broker.policyConfigured
  simp only
  split
  · exact (Told.refl id b.ledger).bump.audit _ _ _ _ _ _ _
  · exact .refl _ _

theorem endpointUpdated_told (b : Broker) (e : Endpoint) (u : EndpointUpdate) (actorId : String) :
    Told id b.ledger (b.endpointUpdated e u actorId now).ledger := by
  unfold Broker.endpointUpdated
  simp only
  split
  · exact .refl _ _
  · exact (Told.refl id b.ledger).bump.audit _ _ _ _ _ _ _

theorem providerFailed_told (l : Ledger) (first : Bool) (endpointId message : String) :
    Told id l (l.providerFailed first endpointId message now) := by
  have hidle : Told id l (l.editAllocations (fun a => a.endpointId = endpointId)
      fun a => { a with idleSince := none }).bumpRevision := .of_tables (.of_audit rfl) rfl rfl rfl
  unfold Ledger.providerFailed
  simp only
  split
  · exact hidle.audit _ _ _ _ _ _ _
  · exact hidle

/-! ## What goes unsaid -/

/-- None of the rows added reports a change of the lease. -/
def Unnoticed (id : String) (l l' : Ledger) : Prop := ∀ e ∈ l'.audit, e ∈ l.audit ∨ ¬ e.notice id

theorem Unnoticed.of_audit {l l' : Ledger} (h : l'.audit = l.audit) : Unnoticed id l l' := by
  intro e he
  rw [h] at he
  exact Or.inl he

theorem Unnoticed.audit {l l' : Ledger} (h : Unnoticed id l l') {x : String}
    (hx : x ∉ leaseChangeActions) (a : Option String) (t r s : String) (d : Details) (now : Time) :
    Unnoticed id l (l'.addAudit a x t r s d now) := by
  intro e he
  rcases List.mem_append.1 he with he | he
  · exact h e he
  · refine Or.inr fun hn => hx ?_
    rw [List.mem_singleton.1 he] at hn
    exact hn.2.2

theorem Unnoticed.remember {l l' : Ledger} (h : Unnoticed id l l') (actor : ActorContext)
    (action : String) (key : Option String) (resp : Response) (now : Time) :
    Unnoticed id l (l'.remember actor action key resp now) := by
  obtain ⟨idem, hrem⟩ := remember_eq l' actor action key resp now
  rw [hrem]
  exact h

theorem audit_settleOn (b : Broker) (i endpointId reason actorId : String) (now : Time) :
    (b.settleOn i endpointId reason actorId now).audit = b.ledger.audit := by
  unfold Broker.settleOn
  simp only
  split <;> rfl

/-! ## A view -/

theorem unseenChanges_recorded (l : Ledger) (lease : Lease) :
    Recorded l (l.unseenChanges lease).1 := by
  unfold Ledger.unseenChanges
  simp only
  split <;> exact .of_audit rfl

/-- A view of one lease changes no other. -/
theorem leaseView_told {i task projectId : Option String} {keepIdle : Bool}
    (h : leaseView cfg now actor i task projectId keepIdle b = .ok (b', resp))
    (hother : resp.changesTo id = none) : Told id b.ledger b'.ledger := by
  obtain ⟨lease, -, -, -, -, hview⟩ := leaseView_ok h
  have hne : id ≠ lease.id := by
    rintro rfl
    rcases hview with ⟨-, -, rfl⟩ | ⟨-, -, count, risk, kept, rfl⟩
    · simp [Response.changesTo] at hother
    · simp [Response.changesTo] at hother
  have hseen : Told id b.ledger (b.ledger.unseenChanges lease).1 := by
    refine .of_folio (unseenChanges_recorded _ _) ?_
    unfold Ledger.unseenChanges
    simp only
    split
    · rfl
    · exact folio_editLease_ne _ _ _ (fun _ => rfl) hne
  rcases hview with ⟨-, rfl, -⟩ | ⟨-, rfl, -⟩
  · exact hseen
  · exact hseen.trans (heartbeat_told ⟨b.plant, (b.ledger.unseenChanges lease).1⟩ lease.id keepIdle)

/-- The rows past the cursor are those of the log past it. -/
theorem mem_unseenEvents {l : Ledger} {lease : Lease} {e : AuditEvent} :
    e ∈ l.unseenEvents lease ↔
      e ∈ l.audit ∧ e.notice lease.id ∧ lease.agentSeenAuditId.getD 0 < e.id := by
  unfold Ledger.unseenEvents Lease.unseen AuditEvent.notice
  rw [List.mem_insertionSort, List.mem_filter, decide_eq_true_eq]
  tauto

/-- The last of the reported rows has the greatest id. -/
theorem le_last_unseen {l : Ledger} {lease : Lease} {last : AuditEvent}
    (h : (l.unseenEvents lease).getLast? = some last) :
    ∀ e ∈ l.unseenEvents lease, e.id ≤ last.id := by
  intro e he
  let byId : AuditEvent → AuditEvent → Prop := fun a b => a.id ≤ b.id
  have htotal : Std.Total byId := ⟨fun a b => Nat.le_total a.id b.id⟩
  have htrans : IsTrans AuditEvent byId := ⟨fun _ _ _ => Nat.le_trans⟩
  have hsorted : (l.unseenEvents lease).Pairwise byId :=
    List.pairwise_insertionSort byId (l.audit.filter lease.unseen)
  obtain ⟨ys, hys⟩ := List.getLast?_eq_some_iff.1 h
  rw [hys] at hsorted he
  rcases List.mem_append.1 he with he | he
  · exact (List.pairwise_append.1 hsorted).2.2 e he last (List.mem_singleton_self _)
  · rw [List.mem_singleton.1 he]

/-- A delivered view reports the rows past the cursor and moves the cursor past them, and no
further than the log. -/
theorem leaseView_reads {i task projectId : Option String} {keepIdle : Bool}
    {changes : List SeenChange}
    (h : leaseView cfg now actor i task projectId keepIdle b = .ok (b', resp))
    (hc : resp.changesTo id = some changes) :
    Recorded b.ledger b'.ledger ∧ ∃ x x', b.ledger.lease? id = some x ∧ x.kind = .workload ∧
      b'.ledger.lease? id = some x' ∧ x'.kind = .workload ∧
      changes = (b.ledger.unseenEvents x).map AuditEvent.seen ∧
      (x'.agentSeenAuditId = x.agentSeenAuditId ∨
        ∃ e ∈ b.ledger.unseenEvents x, x'.agentSeenAuditId = some e.id) ∧
      ∀ e ∈ b.ledger.unseenEvents x, e.id ≤ x'.agentSeenAuditId.getD 0 := by
  obtain ⟨lease, hl, hw, -, -, hview⟩ := leaseView_ok h
  obtain ⟨rfl, hchanges⟩ : lease.id = id ∧ (b.ledger.unseenChanges lease).2 = changes := by
    rcases hview with ⟨-, -, rfl⟩ | ⟨-, -, count, risk, kept, rfl⟩
    · simpa [Response.changesTo] using hc
    · simpa [Response.changesTo] using hc
  have hseen : changes = (b.ledger.unseenEvents lease).map AuditEvent.seen ∧
      ∃ x', (b.ledger.unseenChanges lease).1.lease? lease.id = some x' ∧ x'.kind = .workload ∧
        (x'.agentSeenAuditId = lease.agentSeenAuditId ∨
          ∃ e ∈ b.ledger.unseenEvents lease, x'.agentSeenAuditId = some e.id) ∧
        ∀ e ∈ b.ledger.unseenEvents lease, e.id ≤ x'.agentSeenAuditId.getD 0 := by
    rw [← hchanges]
    unfold Ledger.unseenChanges
    simp only
    split
    · rename_i hnone
      rw [List.getLast?_eq_none_iff] at hnone
      rw [hnone]
      exact ⟨rfl, lease, hl, hw, Or.inl rfl, by simp⟩
    · rename_i last hlast
      have hrow := lease?_editLease b.ledger lease.id lease.id
        (f := fun x => { x with agentSeenAuditId := some last.id }) fun _ => rfl
      rw [if_pos rfl, hl] at hrow
      exact ⟨rfl, _, hrow, hw, Or.inr ⟨last, List.mem_of_getLast? hlast, rfl⟩,
        le_last_unseen hlast⟩
  obtain ⟨hrep, x₁, hx₁, hw₁, hcursor, hpast⟩ := hseen
  have hlog := unseenChanges_recorded b.ledger lease
  rcases hview with ⟨-, rfl, -⟩ | ⟨-, rfl, -⟩
  · exact ⟨hlog, lease, x₁, hl, hw, hx₁, hw₁, hrep, hcursor, hpast⟩
  · -- the heartbeat that follows moves no cursor
    have hbeat : Told lease.id (b.ledger.unseenChanges lease).1 (Broker.heartbeat cfg now
        ⟨b.plant, (b.ledger.unseenChanges lease).1⟩ lease.id actor keepIdle).1.ledger :=
      heartbeat_told ⟨b.plant, (b.ledger.unseenChanges lease).1⟩ lease.id keepIdle
    obtain ⟨x', hx', hr⟩ := hbeat.lease x₁ hx₁ hw₁
    rw [← hr.cursor] at hcursor hpast
    exact ⟨hlog.trans hbeat.log, lease, x', hl, hw, hx', hr.kind.trans hw₁, hrep, hcursor, hpast⟩

/-! ## Every transaction -/

variable {op : Op}

theorem delivers_some {changes : List SeenChange} (h : b.delivers cfg op id = some changes) :
    ∃ now actor i task projectId keepIdle b' resp,
      op = .leaseView now actor i task projectId keepIdle ∧
      leaseView cfg now actor i task projectId keepIdle b = .ok (b', resp) ∧
      exec cfg b op = b' ∧ resp.changesTo id = some changes := by
  unfold Broker.delivers at h
  split at h
  · rename_i now actor i task projectId keepIdle
    cases happly : (Op.leaseView now actor i task projectId keepIdle).apply cfg b with
    | error e =>
      rw [happly] at h
      cases h
    | ok r =>
      rw [happly] at h
      refine ⟨now, actor, i, task, projectId, keepIdle, r.1, r.2, rfl, happly, ?_, h⟩
      unfold exec
      rw [happly]
  · cases h

/-- **What each transaction leaves a holder with**, a delivered view of the lease apart: its row
is read from where it was, and unless the transaction is silent, it tells of a change. -/
theorem apply_told (hk : Kept b) (h : op.apply cfg b = .ok (b', resp))
    (hret : b.retains op = true) (hview : b.delivers cfg op id = none) :
    Followed id b.ledger b'.ledger ∧ (op.silent = false → Told id b.ledger b'.ledger) := by
  have told : Told id b.ledger b'.ledger → Followed id b.ledger b'.ledger ∧
      (op.silent = false → Told id b.ledger b'.ledger) := fun ht => ⟨ht.toFollowed, fun _ => ht⟩
  have silent : op.silent = true → Followed id b.ledger b'.ledger →
      Followed id b.ledger b'.ledger ∧ (op.silent = false → Told id b.ledger b'.ledger) := by
    intro hs hf
    refine ⟨hf, fun hn => ?_⟩
    rw [hs] at hn
    cases hn
  cases op with
  | createRequest => exact told (createRequest_told hk.intact h)
  | resizeLease => exact told (resizeLease_told hk.intact h)
  | releaseLease => exact told (releaseLease_told h)
  | reassignLeaseGpus => exact silent rfl (reassignLeaseGpus_followed hk.intact h)
  | takeOverLease => exact told (takeOverLease_told h)
  | leaseView now actor i task projectId keepIdle =>
    refine told (leaseView_told h ?_)
    unfold Broker.delivers at hview
    rw [h] at hview
    exact hview
  | recordLeaseHeartbeat =>
    rcases recordLeaseHeartbeat_ok h with rfl | ⟨-, rfl⟩
    · exact told (.refl _ _)
    · exact told (heartbeat_told _ _ _)
  | bindObservedWorkload => exact told (bindObservedWorkload_told h)
  | releaseEmptyConflictedLease => exact silent rfl (releaseEmpty_followed h)
  | activateKeepalives => exact told (activateKeepalives_told hk h)
  | finalizeKeepaliveStop => exact told (finalizeKeepaliveStop_told h)
  | setKeepaliveError =>
    obtain ⟨rfl, -, -⟩ := finish_ok.1 h
    exact told (.refl _ _)
  | finishKeepaliveCleanup =>
    obtain ⟨rfl, -, -⟩ := finish_ok.1 h
    exact told (finishCleanup_told _ _ _)
  | configureKeepalivePolicy now actor endpointId policy key =>
    rcases configureKeepalivePolicy_ok h with rfl | ⟨e, changed, -, -, rfl⟩
    · exact told (.refl _ _)
    · exact told ((policyConfigured_told b e policy changed actor.id).remember actor
        "keepalive.policy.configure" (some key) resp now)
  | ingestObservation =>
    rcases ingestObservation_ok h with rfl | ⟨-, -, rfl⟩
    · exact told (.refl _ _)
    · exact told (ingested_told hk.intact.leasePk _)
  | recordProviderFailure =>
    obtain ⟨-, first, rfl⟩ := recordProviderFailure_ok h
    exact told (providerFailed_told _ _ _ _)
  | pruneExpired now =>
    obtain ⟨rfl, -, -⟩ := finish_ok.1 h
    refine told (.of_tables (.of_audit ?_) rfl rfl rfl)
    refine List.filter_eq_self.2 fun e he => ?_
    have hall := List.all_eq_true.1 hret e he
    simpa using hall
  | createServerGroup now actor data key =>
    rcases createServerGroup_ok h with rfl | ⟨-, rfl⟩
    · exact told (.refl _ _)
    · exact told (((Told.refl id b.ledger).bump.audit _ _ _ _ _ _ _).remember actor
        "server_group.create" (some key) resp now)
  | createEndpoint now actor data key =>
    rcases createEndpoint_ok h with rfl | ⟨-, rfl⟩
    · exact told (.refl _ _)
    · exact told (((Told.refl id b.ledger).bump.audit _ _ _ _ _ _ _).remember actor
        "endpoint.create" (some key) resp now)
  | updateEndpoint now actor endpointId u key =>
    rcases updateEndpoint_ok h with rfl | ⟨e, -, -, rfl⟩
    · exact told (.refl _ _)
    · exact told ((endpointUpdated_told b e u actor.id).remember actor "endpoint.update"
        (some key) resp now)
  | deleteEndpoint => exact silent rfl (deleteEndpoint_followed h)
  | claimPrepare => exact told (claimPrepare_told h)
  | claimFailed | claimRemember | markAllocation => exact told (claimStep_told h)
  | claimFinish => exact told (claimFinish_told h)
  | finishPluginRelease =>
    rcases finishPluginRelease_ok h with rfl | ⟨a, -, -, rfl⟩
    · exact told (.refl _ _)
    · exact told (pluginReleased_told _ _ _)

/-- A silent transaction writes no row that reports a change of a lease. -/
theorem apply_unnoticed (hop : op.silent = true) (h : op.apply cfg b = .ok (b', resp)) :
    Unnoticed id b.ledger b'.ledger := by
  cases op with
  | reassignLeaseGpus =>
    rcases reassignLeaseGpus_ok h with rfl | ⟨lease, targets, c, d, -, -, -, -, -, -, -, -, -, rfl⟩
    · exact .of_audit rfl
    · refine Unnoticed.remember (Unnoticed.audit (.of_audit rfl) ?_ _ _ _ _ _ _) _ _ _ _ _
      simp [leaseChangeActions]
  | releaseEmptyConflictedLease =>
    rcases releaseEmptyConflictedLease_ok h with rfl | ⟨lease, -, -, -, -, rfl⟩
    · exact .of_audit rfl
    · refine Unnoticed.remember (Unnoticed.audit (.of_audit ?_) ?_ _ _ _ _ _ _) _ _ _ _ _
      · exact audit_settleOn _ _ _ _ _ _
      · simp [leaseChangeActions]
  | deleteEndpoint now actor endpointId =>
    rcases deleteEndpoint_ok h with rfl | ⟨-, -, rfl⟩
    · exact .of_audit rfl
    have hall :
        Unnoticed id b.ledger (b.settleLeasesForDeleted endpointId actor.id now).ledger := by
      refine Run.foldl_inv (I := fun s : Broker => Unnoticed id b.ledger s.ledger) ?_
        (.of_audit rfl)
      intro s i _ hs
      have hsettled : Unnoticed id b.ledger
          (s.settleOn i endpointId "server deleted while unreachable" actor.id now) := by
        intro e he
        rw [audit_settleOn] at he
        exact hs e he
      refine hsettled.audit ?_ _ _ _ _ _ _
      simp [leaseChangeActions]
    refine Unnoticed.remember (Unnoticed.audit ?_ ?_ _ _ _ _ _ _) _ _ _ _ _
    · show Unnoticed id b.ledger (ite _ _ _ : Broker).ledger
      split
      · exact hall
      · exact .of_audit rfl
    · simp [leaseChangeActions]
  | _ => cases hop

end

/-! ## Runs -/

section

variable {cfg : Config} {id : String} {b b' : Broker} {resp : Response} {op : Op}

/-- A lease new in a state came with the transaction that inserts it. -/
theorem Deeds.born {l : Ledger} {x : Lease} (d : Deeds b op l) (hx : x ∈ l.leases)
    (hnew : x.id ∉ b.ledger.leases.map Lease.id) : ∃ z, op.draws z ∧ z.deed = x.deed := by
  have old : ∀ y ∈ b.ledger.leases, y.id ≠ x.id :=
    fun y hy he => hnew (he ▸ List.mem_map_of_mem hy)
  have hdeed : x.deed ∈ l.deeds := List.mem_map_of_mem hx
  have edited : ∀ {i : String} {f : Lease → Lease}, (∀ y, (f y).id = y.id) →
      l.leases = updWhere (fun y => y.id = i) f b.ledger.leases →
        ∃ z, op.draws z ∧ z.deed = x.deed := by
    intro i f hf h
    rw [h] at hx
    obtain ⟨z, hz, ⟨-, rfl⟩ | ⟨-, rfl⟩⟩ := mem_updWhere.1 hx
    · exact absurd (hf z).symm (old z hz)
    · exact absurd rfl (old x hz)
  have fresh : x.deed ∉ b.ledger.deeds := by
    intro hm
    obtain ⟨y, hy, hid, -⟩ := kind_of_mem_deeds hm
    exact old y hy hid
  cases d with
  | kept h => exact absurd (h ▸ hdeed) fresh
  | drawn new hn h =>
    rw [h] at hdeed
    obtain ⟨z, hz, he⟩ := List.mem_map.1 ((List.mem_append.1 hdeed).resolve_left fresh)
    exact ⟨z, hn z hz, he⟩
  | handed _ y actor session projectId now _ _ h =>
    exact edited (f := Lease.takenOver actor session projectId now) (fun _ => rfl) h
  | pinned i c h => exact edited (f := Lease.repinned c) (fun _ => rfl) h

/-- A lease that takes up work has reported nothing yet. -/
theorem apply_born (hb : Intact b) (h : op.apply cfg b = .ok (b', resp)) {x : Lease}
    (hx : b'.ledger.lease? id = some x) (hw : x.kind = .workload)
    (hnew : ∀ y, b.ledger.lease? id = some y → y.kind ≠ .workload) : x.agentSeenAuditId = none := by
  obtain ⟨hm, hid⟩ := row?_some hx
  have hnodup := (apply_intact hb h).leasePk
  have d := apply_deeds hb h
  have habsent : x.id ∉ b.ledger.leases.map Lease.id := by
    intro hold
    obtain ⟨y, hy, he⟩ := List.mem_map.1 hold
    obtain ⟨z, hz, hzid, hzk⟩ := d.kind hy
    -- the row there was kept its kind
    obtain rfl : z = x := List.inj_on_of_nodup_map hnodup hz hm (hzid.trans he)
    have hrow : b.ledger.lease? id = some y := by
      rw [← hid, ← he]
      exact row?_of_mem hb.leasePk hy
    exact hnew y hrow (hzk.symm.trans hw)
  cases op with
  | createRequest now actor r key persistent leaseId token =>
    rcases createRequest_ok h with rfl | ⟨b₀, revision, gpus, c, hs, -, -, rfl⟩
    · exact absurd (List.mem_map_of_mem hm) habsent
    simp only [leases_remember] at hm hnodup
    rw [ids_claimed] at hnodup
    have hfresh : leaseId ∉ b₀.ledger.leases.map Lease.id := fun hm =>
      (List.nodup_append.1 hnodup).2.2 _ hm _ (List.mem_singleton_self _) rfl
    have hfresh : (claimedLease leaseId actor r now revision).id ∉
        b₀.ledger.leases.map Lease.id := hfresh
    rw [leases_claimed hfresh] at hm
    rcases List.mem_append.1 hm with hm | hm
    · exact absurd (List.mem_map_of_mem (hs.leases ▸ hm)) habsent
    · obtain rfl := List.mem_singleton.1 hm
      rfl
  | claimFinish now actor r key allocationId leaseId =>
    obtain ⟨a, -, -, rfl⟩ := claimFinish_ok h
    rw [leases_remember] at hm
    rcases List.mem_append.1 (show x ∈ b.ledger.leases ++ [_] from hm) with hm | hm
    · exact absurd (List.mem_map_of_mem hm) habsent
    · obtain rfl := List.mem_singleton.1 hm
      rfl
  | activateKeepalives =>
    obtain ⟨z, ⟨hk, -⟩, he⟩ := d.born hm habsent
    have hdeed := congrArg Lease.kind he
    have hkind : z.kind = x.kind := hdeed
    rw [hk, hw] at hkind
    cases hkind
  | _ =>
    obtain ⟨z, hz, -⟩ := d.born hm habsent
    exact hz.elim

/-- No holder has read past the log. -/
def CursorsInLog (b : Broker) : Prop :=
  ∀ id x, b.ledger.lease? id = some x → x.kind = .workload →
    x.agentSeenAuditId.getD 0 < b.ledger.nextAuditId

theorem nextAuditId_pos (l : Ledger) : 0 < l.nextAuditId := by
  unfold Ledger.nextAuditId
  omega

theorem exec_followed (hk : Kept b) (hret : b.retains op = true)
    (hview : b.delivers cfg op id = none) : Followed id b.ledger (exec cfg b op).ledger := by
  rcases exec_cases cfg b op with ⟨b', resp, h, he⟩ | ⟨-, he⟩
  · rw [he]
    exact (apply_told hk h hret hview).1
  · rw [he]
    exact (Told.refl _ _).toFollowed

theorem exec_cursors (hk : Kept b) (hc : CursorsInLog b) (hret : b.retains op = true) :
    CursorsInLog (exec cfg b op) := by
  rcases exec_cases cfg b op with ⟨b', resp, h, he⟩ | ⟨-, he⟩
  swap
  · rwa [he]
  intro id x hx hw
  cases hv : b.delivers cfg op id with
  | some changes =>
    obtain ⟨now, actor, i, task, projectId, keepIdle, b₁, r, -, hr, he₁, hrc⟩ := delivers_some hv
    rw [he₁] at hx ⊢
    obtain ⟨hlog, y, y', hy, hyw, hy', -, -, hcursor, -⟩ := leaseView_reads hr hrc
    obtain rfl : y' = x := Option.some.inj (hy'.symm.trans hx)
    have hbefore := hc id y hy hyw
    have hnext := hlog.next_le
    rcases hcursor with hcursor | ⟨e, he, hcursor⟩
    · rw [hcursor]
      omega
    · rw [hcursor]
      exact lt_nextAuditId (hlog.old e (mem_unseenEvents.1 he).1)
  | none =>
    have hf := exec_followed hk hret hv
    rw [he] at hx hf ⊢
    by_cases hold : ∃ y, b.ledger.lease? id = some y ∧ y.kind = .workload
    · obtain ⟨y, hy, hyw⟩ := hold
      obtain ⟨y', hy', hreads⟩ := hf.lease y hy hyw
      obtain rfl : y' = x := Option.some.inj (hy'.symm.trans hx)
      have hbefore := hc id y hy hyw
      have hnext := hf.log.next_le
      rw [hreads.cursor]
      omega
    · have hnone : x.agentSeenAuditId = none :=
        apply_born hk.intact h hx hw fun y hy hyw => hold ⟨y, hy, hyw⟩
      rw [hnone]
      exact nextAuditId_pos _

/-- Between views a lease is read from where it was. -/
theorem run_followed {ops : List Op} (hk : Kept b)
    (hret : Run.Along (exec cfg) (fun b op => b.retains op = true) b ops)
    (hquiet : Run.Along (exec cfg) (fun b op => b.delivers cfg op id = none) b ops) :
    Followed id b.ledger (Run.run (exec cfg) b ops).ledger := by
  induction ops generalizing b with
  | nil => exact (Told.refl _ _).toFollowed
  | cons op ops ih =>
    obtain ⟨hr, hret⟩ := hret
    obtain ⟨hq, hquiet⟩ := hquiet
    exact (exec_followed hk hr hq).trans (ih (exec_kept cfg b op hk) hret hquiet)

theorem run_cursors {ops : List Op} (hk : Kept b) (hc : CursorsInLog b)
    (hret : Run.Along (exec cfg) (fun b op => b.retains op = true) b ops) :
    Kept (Run.run (exec cfg) b ops) ∧ CursorsInLog (Run.run (exec cfg) b ops) := by
  refine Run.run_inv (I := fun b => Kept b ∧ CursorsInLog b) ?_ ⟨hk, hc⟩ hret
  rintro b op ⟨hk, hc⟩ hr
  exact ⟨exec_kept cfg b op hk, exec_cursors hk hc hr⟩

/-- The holder has read up to `n`. -/
def Broker.ReadTo (b : Broker) (id : String) (n : ℕ) : Prop :=
  ∃ x, b.ledger.lease? id = some x ∧ x.kind = .workload ∧ n ≤ x.agentSeenAuditId.getD 0

/-- A cursor never goes back. -/
theorem exec_readTo {n : ℕ} (hk : Kept b) (hret : b.retains op = true) (h : b.ReadTo id n) :
    (exec cfg b op).ReadTo id n := by
  obtain ⟨x, hx, hw, hn⟩ := h
  cases hv : b.delivers cfg op id with
  | some changes =>
    obtain ⟨now, actor, i, task, projectId, keepIdle, b₁, r, -, hr, he₁, hrc⟩ := delivers_some hv
    obtain ⟨-, y, y', hy, -, hy', hyw', -, hcursor, -⟩ := leaseView_reads hr hrc
    obtain rfl : y = x := Option.some.inj (hy.symm.trans hx)
    rw [he₁]
    refine ⟨y', hy', hyw', ?_⟩
    rcases hcursor with hcursor | ⟨e, he, hcursor⟩
    · rw [hcursor]
      exact hn
    · have hpast := (mem_unseenEvents.1 he).2.2
      rw [hcursor, Option.getD_some]
      omega
  | none =>
    obtain ⟨x', hx', hr⟩ := (exec_followed hk hret hv).lease x hx hw
    refine ⟨x', hx', hr.kind.trans hw, ?_⟩
    rw [hr.cursor]
    exact hn

theorem run_readTo {n : ℕ} {ops : List Op} (hk : Kept b) (h : b.ReadTo id n)
    (hret : Run.Along (exec cfg) (fun b op => b.retains op = true) b ops) :
    (Run.run (exec cfg) b ops).ReadTo id n := by
  have hboth : Kept (Run.run (exec cfg) b ops) ∧ (Run.run (exec cfg) b ops).ReadTo id n := by
    refine Run.run_inv (I := fun b => Kept b ∧ b.ReadTo id n) ?_ ⟨hk, h⟩ hret
    rintro b op ⟨hk, h⟩ hr
    exact ⟨exec_kept cfg b op hk, exec_readTo hk hr h⟩
  exact hboth.2

theorem unread_of_lease {x : Lease} (hx : b.ledger.lease? id = some x) :
    b.unread id = b.ledger.unseenEvents x := by
  unfold Broker.unread
  rw [hx]
  rfl

theorem mem_unread {e : AuditEvent} : e ∈ b.unread id ↔ ∃ x, b.ledger.lease? id = some x ∧
    e ∈ b.ledger.audit ∧ e.notice id ∧ x.agentSeenAuditId.getD 0 < e.id := by
  constructor
  · intro he
    cases hx : b.ledger.lease? id with
    | none =>
      unfold Broker.unread at he
      rw [hx] at he
      cases he
    | some x =>
      rw [unread_of_lease hx, mem_unseenEvents, lease?_id hx] at he
      exact ⟨x, rfl, he⟩
  · rintro ⟨x, hx, he⟩
    rw [unread_of_lease hx, mem_unseenEvents, lease?_id hx]
    exact he

/-- What was read is not read again. -/
theorem unread_of_readTo {e : AuditEvent} (h : b.ReadTo id e.id) : e ∉ b.unread id := by
  obtain ⟨x, hx, -, hn⟩ := h
  rw [unread_of_lease hx]
  intro he
  have hpast := (mem_unseenEvents.1 he).2.2
  omega

/-- A delivered view reports what was unread, and reads it. -/
theorem view_reads {changes : List SeenChange} (hv : b.delivers cfg op id = some changes) :
    changes = (b.unread id).map AuditEvent.seen ∧
      ∀ e ∈ b.unread id, (exec cfg b op).ReadTo id e.id := by
  obtain ⟨now, actor, i, task, projectId, keepIdle, b₁, r, -, hr, he₁, hrc⟩ := delivers_some hv
  obtain ⟨-, x, x', hx, -, hx', hw', hrep, -, hpast⟩ := leaseView_reads hr hrc
  rw [unread_of_lease hx, he₁]
  exact ⟨hrep, fun e he => ⟨x', hx', hw', hpast e he⟩⟩

/-- A delivered view leaves every lease its cards. -/
theorem view_cardSet {changes : List SeenChange} {x : Lease}
    (hv : b.delivers cfg op id = some changes) (hx : b.ledger.lease? id = some x) :
    ((exec cfg b op).ledger.folio id).cardSet = (b.ledger.folio id).cardSet := by
  obtain ⟨now, actor, i, task, projectId, keepIdle, b₁, r, -, hr, he₁, -⟩ := delivers_some hv
  have hkeeps := (leaseView_keeps hr).2.holding id
  rw [holding_of_lease hx] at hkeeps
  rw [he₁]
  exact (holding_cards hkeeps).symm

end

/-- The transaction is the doing of the lease's holder. -/
def Broker.byHolder (b : Broker) (op : Op) (id : String) : Bool :=
  match op with
  | .resizeLease _ actor .. | .releaseLease _ actor .. | .reassignLeaseGpus _ actor ..
  | .releaseEmptyConflictedLease _ actor .. | .deleteEndpoint _ actor .. =>
    (b.ledger.lease? id).any fun x => canManageLease actor x
  | _ => false

/-- Every change of a live lease's cards that its holder did not make is in the next view its
holder is given. -/
def ChangesTold (cfg : Config) : Prop :=
  ∀ b₀, Seeded b₀ → ∀ (before : List Op) (op : Op) (between : List Op) (view : Op) (id : String)
    (x : Lease) (changes : List SeenChange),
    Run.Along (exec cfg) (fun b op => b.retains op = true) b₀ (before ++ op :: between) →
    (Run.run (exec cfg) b₀ before).ledger.lease? id = some x → x.kind = .workload →
    x.state.live = true → (Run.run (exec cfg) b₀ before).byHolder op id = false →
    ((Run.run (exec cfg) b₀ (before ++ [op])).ledger.folio id).cardSet ≠
      ((Run.run (exec cfg) b₀ before).ledger.folio id).cardSet →
    Run.Along (exec cfg) (fun b op => b.delivers cfg op id = none)
      (Run.run (exec cfg) b₀ (before ++ [op])) between →
    (Run.run (exec cfg) b₀ (before ++ op :: between)).delivers cfg view id = some changes →
    ∃ e ∈ (Run.run (exec cfg) b₀ (before ++ op :: between)).unread id,
      e ∈ (Run.run (exec cfg) b₀ (before ++ [op])).ledger.audit ∧
      e ∉ (Run.run (exec cfg) b₀ before).ledger.audit

/-- **Which changes the next view reports, and that it reports them once.** In every run whose
audit rows are retained, let a transaction change the cards of a lease, without ending it by a
release or its expiry unless it is silent. The next view delivered reports the rows past the
cursor; a row the transaction wrote is among them if and only if the transaction is not silent;
and no later view reports any of them. -/
theorem change_told_once {cfg : Config} {b₀ : Broker} (hs : Seeded b₀)
    {before between after : List Op} {op view : Op} {id : String} {x : Lease}
    {changes : List SeenChange}
    (hret : Run.Along (exec cfg) (fun b op => b.retains op = true) b₀
      (before ++ op :: (between ++ view :: after)))
    (hx : (Run.run (exec cfg) b₀ before).ledger.lease? id = some x) (hw : x.kind = .workload)
    (hcards : ((Run.run (exec cfg) b₀ (before ++ [op])).ledger.folio id).cardSet ≠
      ((Run.run (exec cfg) b₀ before).ledger.folio id).cardSet)
    (hend : op.silent = true ∨ ∀ y,
      (Run.run (exec cfg) b₀ (before ++ [op])).ledger.lease? id = some y → ¬ y.closed)
    (hquiet : Run.Along (exec cfg) (fun b op => b.delivers cfg op id = none)
      (Run.run (exec cfg) b₀ (before ++ [op])) between)
    (hview : (Run.run (exec cfg) b₀ (before ++ op :: between)).delivers cfg view id =
      some changes) :
    changes = ((Run.run (exec cfg) b₀ (before ++ op :: between)).unread id).map AuditEvent.seen ∧
      ((∃ e ∈ (Run.run (exec cfg) b₀ (before ++ op :: between)).unread id,
          e ∈ (Run.run (exec cfg) b₀ (before ++ [op])).ledger.audit ∧
          e ∉ (Run.run (exec cfg) b₀ before).ledger.audit) ↔ op.silent = false) ∧
      ∀ e ∈ (Run.run (exec cfg) b₀ (before ++ op :: between)).unread id,
        e ∉ (Run.run (exec cfg) b₀ (before ++ op :: (between ++ view :: after))).unread id := by
  obtain ⟨hretBefore, hretOp, hretRest⟩ := Run.along_append.1 hret
  obtain ⟨hretBetween, -, hretAfter⟩ := Run.along_append.1 hretRest
  set s := Run.run (exec cfg) b₀ before
  have hstep : Run.run (exec cfg) b₀ (before ++ [op]) = exec cfg s op := Run.run_concat _ _ _
  have hthen : Run.run (exec cfg) b₀ (before ++ op :: between) =
      Run.run (exec cfg) (exec cfg s op) between := by
    rw [Run.run_append]
    rfl
  rw [hstep] at hcards hend hquiet ⊢
  rw [hthen] at hview ⊢
  set t := Run.run (exec cfg) (exec cfg s op) between
  have hempty : CursorsInLog b₀ := by
    intro i y hy
    have hm := lease?_mem hy
    rw [hs.leases] at hm
    cases hm
  obtain ⟨hks, hcs⟩ : Kept s ∧ CursorsInLog s := run_cursors hs.kept hempty hretBefore
  have hkt : Kept t := run_kept cfg between (exec_kept cfg s op hks)
  obtain ⟨hreport, hread⟩ := view_reads hview
  refine ⟨hreport, ⟨?_, fun hloud => ?_⟩, fun e he => ?_⟩
  · -- a row of a silent transaction is not reported
    rintro ⟨e, he, hnew, hold⟩
    cases hop : op.silent with
    | false => rfl
    | true =>
      obtain ⟨-, -, -, hnotice, -⟩ := mem_unread.1 he
      rcases exec_cases cfg s op with ⟨b', resp, h, hb'⟩ | ⟨-, hb'⟩
      · rw [hb'] at hnew
        have hquietly : Unnoticed id s.ledger b'.ledger := apply_unnoticed hop h
        rcases hquietly e hnew with hm | hn
        · exact absurd hm hold
        · exact absurd hnotice hn
      · rw [hb'] at hnew
        exact absurd hnew hold
  · -- a change is no view of the lease
    have hchange : s.delivers cfg op id = none := by
      cases hv : s.delivers cfg op id with
      | none => rfl
      | some _ => exact absurd (view_cardSet hv hx) hcards
    have hopen := hend.resolve_left (by rw [hloud]; exact Bool.false_ne_true)
    have htold : Told id s.ledger (exec cfg s op).ledger := by
      rcases exec_cases cfg s op with ⟨b', resp, h, hb'⟩ | ⟨-, hb'⟩
      · rw [hb']
        exact (apply_told hks h hretOp hchange).2 hloud
      · rw [hb']
        exact .refl _ _
    obtain ⟨x', hx', hreads⟩ := htold.lease x hx hw
    obtain ⟨e, he, hid, hnotice⟩ := (htold.cards x hx hw hcards).resolve_right
      fun hclosed => hopen x' hx' (hclosed x' hx')
    have hbetween := run_followed (exec_kept cfg s op hks) hretBetween hquiet
    obtain ⟨y, hy, hreads'⟩ := hbetween.lease x' hx' (hreads.kind.trans hw)
    refine ⟨e, mem_unread.2 ⟨y, hy, hbetween.log.old e he, hnotice, ?_⟩, he, fun hold => ?_⟩
    · have hcursor := hcs id x hx hw
      rw [hreads'.cursor, hreads.cursor]
      omega
    · have hlt := lt_nextAuditId hold
      omega
  · have hlater : Run.run (exec cfg) b₀ (before ++ op :: (between ++ view :: after)) =
        Run.run (exec cfg) (exec cfg t view) after := by
      rw [Run.run_append, Run.run_cons, Run.run_append]
      rfl
    rw [hlater]
    exact unread_of_readTo (run_readTo (exec_kept cfg t view hkt) (hread e he) hretAfter)

/-- The card on `alpha` works; the one on `beta` has been idle for a while. -/
def idleForAWhile : List Op :=
  spanClaim ++
    [.ingestObservation (seconds 150) (lookAtOne "beta" "GPU-1" (seconds 150) []) sampleToken,
     .ingestObservation (seconds 150) (lookAtOne "alpha" "GPU-0" (seconds 150) [7]) sampleToken]

/-- A whole window has passed at this look. -/
def reclaimingLook : Op :=
  .ingestObservation (seconds 300) (lookAtOne "beta" "GPU-1" (seconds 300) []) sampleToken

/-- The holder asks how its lease is. -/
def annLooks : Op := .leaseView (seconds 310) (sampleActor "ann") (some "lease") none none false

theorem reclaim_told :
    ∃ e ∈ (Run.run (exec swiftConfig) sampleFleet (idleForAWhile ++ [reclaimingLook])).unread
      "lease",
      e ∈ (Run.run (exec swiftConfig) sampleFleet
        (idleForAWhile ++ [reclaimingLook])).ledger.audit ∧
      e ∉ (Run.run (exec swiftConfig) sampleFleet idleForAWhile).ledger.audit := by
  have hx : ((Run.run (exec swiftConfig) sampleFleet idleForAWhile).ledger.lease? "lease").isSome =
      true := by decide +kernel
  obtain ⟨x, hx⟩ := Option.isSome_iff_exists.1 hx
  have hw : ∀ x ∈ (Run.run (exec swiftConfig) sampleFleet idleForAWhile).ledger.lease? "lease",
      x.kind = .workload := by decide +kernel
  have hopen : ∀ y ∈ (Run.run (exec swiftConfig) sampleFleet
      (idleForAWhile ++ [reclaimingLook])).ledger.lease? "lease", y.state.live = true := by
    decide +kernel
  have hview : ((Run.run (exec swiftConfig) sampleFleet
      (idleForAWhile ++ [reclaimingLook])).delivers swiftConfig annLooks "lease").isSome =
        true := by
    decide +kernel
  obtain ⟨changes, hview⟩ := Option.isSome_iff_exists.1 hview
  have htold := @change_told_once swiftConfig sampleFleet sampleFleet_seeded idleForAWhile [] []
    reclaimingLook annLooks "lease" x changes (by decide +kernel) hx (hw x hx) (by decide +kernel)
    (Or.inr fun y hy hc => by
      have hdead := hc.not_live
      rw [hopen y hy] at hdead
      cases hdead) trivial hview
  exact htold.2.1.2 rfl

/-- An operator from outside the project moves the lease to the other card. -/
def bobMoves : Op :=
  .reassignLeaseGpus 0 { sampleActor "bob" with sessionProject := none } "lease" ["alpha:GPU-1"]
    "move" true (sampleToken "lease")

/-- A lease on the first of two cards. -/
def annHolds : List Op :=
  [.ingestObservation 0 (lookAtTwo "alpha" "GPU-0" "GPU-1" twoCards_ne 0 []) sampleToken,
   .createRequest 0 (sampleActor "ann") oneCard none true "lease" (sampleToken "lease")]

/-- **A reassignment goes untold.** -/
theorem reassignment_untold : ¬ ChangesTold plainConfig := by
  intro hall
  have hx : ((Run.run (exec plainConfig) sampleFleet annHolds).ledger.lease? "lease").isSome =
      true := by decide +kernel
  obtain ⟨x, hx⟩ := Option.isSome_iff_exists.1 hx
  have hx' : ∀ x ∈ (Run.run (exec plainConfig) sampleFleet annHolds).ledger.lease? "lease",
      x.kind = .workload ∧ x.state.live = true := by decide +kernel
  have hview :
      (Run.run (exec plainConfig) sampleFleet (annHolds ++ [bobMoves])).delivers plainConfig
      annLooks "lease" = some [] := by decide +kernel
  obtain ⟨e, he, -⟩ := hall sampleFleet sampleFleet_seeded annHolds bobMoves [] annLooks "lease" x
    []
    (by decide +kernel) hx (hx' x hx).1 (hx' x hx).2 (by decide +kernel) (by decide +kernel) trivial
    hview
  have hnone : (Run.run (exec plainConfig) sampleFleet (annHolds ++ [bobMoves])).unread "lease" =
      [] := by decide +kernel
  rw [hnone] at he
  cases he

end ServerPilot
