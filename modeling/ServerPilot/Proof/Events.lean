import ServerPilot.Lib.Choice
import ServerPilot.Spec.Events

/-!
# Reading the event log page by page

The limit counts events, the filter then drops those that are hidden: a page may be empty with
events still to come. `readEvents_eq` says that the pages are those of `Paging.read` over the
log in order; `events_lossless_iff` is its condition.
-/

namespace ServerPilot

open Rows Checked

/-! ## The log in order -/

theorem inOrder_perm (events : List AuditEvent) : (inOrder events).Perm events :=
  List.perm_insertionSort _ events

theorem inOrder_sorted {events : List AuditEvent} (h : EventTable events) :
    (inOrder events).Pairwise fun x y => x.id < y.id := by
  have hsorted : (inOrder events).Pairwise fun x y => x.id ≤ y.id :=
    Choice.sorted (fun a b => Nat.le_total a.id b.id)
      (fun a b c (hab : a.id ≤ b.id) (hbc : b.id ≤ c.id) => Nat.le_trans hab hbc) events
  have hunique : ((inOrder events).map AuditEvent.id).Nodup :=
    ((inOrder_perm events).map AuditEvent.id).nodup_iff.2 h.unique
  have hne : (inOrder events).Pairwise fun x y => x.id ≠ y.id := List.pairwise_map.1 hunique
  exact (hsorted.and hne).imp fun hxy => lt_of_le_of_ne hxy.1 hxy.2

/-- What comes after an event of an ordered list is what has greater ids. -/
theorem filter_after {s a c : List AuditEvent} {v : AuditEvent} (hs : s = a ++ v :: c)
    (h : s.Pairwise fun x y => x.id < y.id) : (s.filter fun e => v.id < e.id) = c := by
  subst hs
  obtain ⟨-, hvc, hav⟩ := List.pairwise_append.1 h
  have ha : (a.filter fun e => v.id < e.id) = [] := by
    rw [List.filter_eq_nil_iff]
    intro x hx
    have := hav x hx v List.mem_cons_self
    simp only [decide_eq_true_eq]
    omega
  have hc : (c.filter fun e => v.id < e.id) = c := by
    rw [List.filter_eq_self]
    intro x hx
    exact decide_eq_true ((List.pairwise_cons.1 hvc).1 x hx)
  rw [List.filter_append, ha, List.nil_append,
    List.filter_cons_of_neg (by simp only [decide_eq_true_eq, lt_irrefl, not_false_eq_true]), hc]

/-- The events after one that is itself after the cursor. -/
theorem filter_filter_after {events : List AuditEvent} {after next : ℕ} (h : after < next) :
    ((events.filter fun e => after < e.id).filter fun e => next < e.id) =
      events.filter fun e => next < e.id := by
  rw [List.filter_filter]
  refine List.filter_congr fun e _ => ?_
  rw [← Bool.decide_and, decide_eq_decide]
  omega

/-! ## Pages -/

section

variable {b : Broker} {actor : ActorContext} {projectIds : List String} {limit : ℕ}

theorem listEvents_eq (hlimit : 1 ≤ limit ∧ limit ≤ 1000) (afterId : ℕ) :
    listEvents b actor projectIds afterId limit false =
      .ok ((((inOrder b.ledger.audit).filter fun e => afterId < e.id).take limit).filter
        (eventVisible b actor projectIds)) := by
  rw [listEvents, require_bind_pos hlimit]
  rfl

/-- The pages are those of a reader that goes on after the last element it saw. -/
theorem readEvents_eq (htable : EventTable b.ledger.audit) (hlimit : 1 ≤ limit ∧ limit ≤ 1000) :
    ∀ (fuel afterId : ℕ), readEvents b actor projectIds limit fuel afterId =
      .ok (Paging.read (eventVisible b actor projectIds) limit fuel
        ((inOrder b.ledger.audit).filter fun e => afterId < e.id))
  | 0, _ => rfl
  | fuel + 1, afterId => by
    rw [readEvents, listEvents_eq hlimit, Paging.read]
    have hsorted : ((inOrder b.ledger.audit).filter fun e => afterId < e.id).Pairwise
        fun x y => x.id < y.id := (inOrder_sorted htable).filter _
    by_cases hpage : (((inOrder b.ledger.audit).filter fun e => afterId < e.id).take limit).filter
        (eventVisible b actor projectIds) = []
    · rw [if_pos hpage, hpage]
      rfl
    · obtain ⟨a, v, hs, _, _, _, hlast⟩ := Paging.page_cases hpage
      have hrest := filter_after hs hsorted
      have hv : v ∈ (inOrder b.ledger.audit).filter fun e => afterId < e.id := by
        rw [hs]
        exact List.mem_append_right a List.mem_cons_self
      have hafter : afterId < v.id := of_decide_eq_true (List.mem_filter.1 hv).2
      rw [filter_filter_after hafter] at hrest
      rw [if_neg hpage, ← hrest]
      simp only [bind, Except.bind, hlast, readEvents_eq htable hlimit fuel v.id]
      rfl

/-- Every event is after the cursor a reader starts from. -/
theorem filter_positive (htable : EventTable b.ledger.audit) :
    ((inOrder b.ledger.audit).filter fun e => 0 < e.id) = inOrder b.ledger.audit := by
  rw [List.filter_eq_self]
  intro e he
  exact decide_eq_true (htable.positive e ((inOrder_perm _).mem_iff.1 he))

/-- What the actor sees of the log in order is what a reader is to get. -/
theorem eq_visible_iff (htable : EventTable b.ledger.audit) {events : List AuditEvent} :
    (events.Pairwise (fun x y => x.id < y.id) ∧
      ∀ e, e ∈ events ↔ e ∈ b.ledger.audit ∧ eventVisible b actor projectIds e = true) ↔
      events = (inOrder b.ledger.audit).filter (eventVisible b actor projectIds) := by
  have hsorted := (inOrder_sorted htable).filter (eventVisible b actor projectIds)
  have hmem : ∀ e, e ∈ (inOrder b.ledger.audit).filter (eventVisible b actor projectIds) ↔
      e ∈ b.ledger.audit ∧ eventVisible b actor projectIds e = true := by
    intro e
    rw [List.mem_filter, (inOrder_perm _).mem_iff]
  constructor
  · rintro ⟨hpair, hall⟩
    have hnodup : ∀ {l : List AuditEvent}, l.Pairwise (fun x y => x.id < y.id) → l.Nodup := by
      intro l hl
      exact hl.imp fun hxy heq => absurd (congrArg AuditEvent.id heq) (Nat.ne_of_lt hxy)
    have hperm : events.Perm ((inOrder b.ledger.audit).filter (eventVisible b actor projectIds)) :=
      (List.perm_ext_iff_of_nodup (hnodup hpair) (hnodup hsorted)).2 fun e =>
        (hall e).trans (hmem e).symm
    exact hperm.eq_of_pairwise (fun _ _ _ _ h₁ h₂ => absurd h₁ (Nat.lt_asymm h₂)) hpair hsorted
  · rintro rfl
    exact ⟨hsorted, hmem⟩

end

/-- Paging loses nothing exactly if no `limit` hidden events in a row come right before one the
actor sees. -/
theorem events_lossless_iff {b : Broker} {actor : ActorContext} {projectIds : List String}
    {limit : ℕ} (htable : EventTable b.ledger.audit) (hlimit : 1 ≤ limit ∧ limit ≤ 1000) :
    Lossless b actor projectIds limit ↔
      Paging.Close (eventVisible b actor projectIds) limit (inOrder b.ledger.audit) := by
  have hlength : (inOrder b.ledger.audit).length = b.ledger.audit.length :=
    (inOrder_perm b.ledger.audit).length_eq
  have hfuel : ∀ fuel, b.ledger.audit.length < fuel →
      ((∃ events, readEvents b actor projectIds limit fuel 0 = .ok events ∧
        events.Pairwise (fun x y => x.id < y.id) ∧
        ∀ e, e ∈ events ↔ e ∈ b.ledger.audit ∧ eventVisible b actor projectIds e = true) ↔
      Paging.Close (eventVisible b actor projectIds) limit (inOrder b.ledger.audit)) := by
    intro fuel hlt
    rw [readEvents_eq htable hlimit, filter_positive htable,
      ← Paging.read_eq_iff fuel _ (hlength ▸ hlt)]
    constructor
    · rintro ⟨events, heq, hgood⟩
      cases heq
      exact (eq_visible_iff htable).1 hgood
    · intro h
      exact ⟨_, rfl, (eq_visible_iff htable).2 h⟩
  constructor
  · intro h
    exact (hfuel _ (Nat.lt_succ_self _)).1 (h _ (Nat.lt_succ_self _))
  · intro h fuel hlt
    exact (hfuel fuel hlt).2 h

/-! ## A hidden event first -/

/-- An event of `actorId`'s own on a server group. -/
def groupEvent (id : ℕ) (actorId : String) : AuditEvent where
  id := id
  actorId := some actorId
  action := "server_group.created"
  resourceType := "server_group"
  resourceId := "group"
  result := "ok"
  createdAt := 0

/-- One event of somebody else, then one of ann's. -/
def sharedLog : Broker := { ledger := { audit := [groupEvent 1 "bob", groupEvent 2 "ann"] } }

/-- An allocator of no project. -/
def ann : ActorContext := { id := "ann", role := "allocator" }

theorem sharedLog_table : EventTable sharedLog.ledger.audit where
  unique := by decide
  positive := by decide

theorem events_lossless_shared :
    Lossless sharedLog ann [] 2 ↔
      Paging.Close (eventVisible sharedLog ann []) 2 (inOrder sharedLog.ledger.audit) :=
  events_lossless_iff sharedLog_table (by decide)

/-- One event at a time, ann reads nothing: her own is never reached. -/
theorem events_lost : ¬ ∀ (b : Broker) (actor : ActorContext) (projectIds : List String)
    (limit : ℕ), EventTable b.ledger.audit → 1 ≤ limit ∧ limit ≤ 1000 →
    Lossless b actor projectIds limit := by
  intro h
  obtain ⟨events, heq, -, hall⟩ := h sharedLog ann [] 1 sharedLog_table (by decide) 3 (by decide)
  have hread : readEvents sharedLog ann [] 1 3 0 = .ok [] := by decide +kernel
  rw [hread] at heq
  cases heq
  have hvisible : eventVisible sharedLog ann [] (groupEvent 2 "ann") = true := by decide
  exact absurd ((hall _).2 ⟨by decide, hvisible⟩) List.not_mem_nil

end ServerPilot
