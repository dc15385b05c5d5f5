import ServerPilot.Proof.Fleet
import ServerPilot.Spec.EndpointLocks

/-!
# Calls that hold endpoint locks

* `locks_ascend`: every call acquires its locks in the same order, so calls never wait for each
  other in a circle.
* `leaks_forever`: a call cancelled while it waits for a lock keeps those it has, for good:
  `keepalive_endpoint_locks` acquires them outside its `try`.
* `endpoint_locks`: **no two calls work on one endpoint at a time, and unless one was cancelled
  in that way, all of them come to their end.**
-/

namespace ServerPilot.Api

open AsyncLock AsyncLock.State

variable {T : Type} [DecidableEq T] {call : T → LockedCall} {s s' : State T String} {t u : T}
  {held held' : List String} {e : String}

theorem locks_ascend (c : LockedCall) : c.locks.Pairwise (· < ·) :=
  Finset.sortedLT_sort _ |>.pairwise

theorem mem_locks {c : LockedCall} : e ∈ c.locks ↔ e ∈ c.endpointIds := Finset.mem_sort _

omit [DecidableEq T] in
/-- The locks of a call at work are those of its endpoints. -/
theorem working_held (h : Inv (fun t => (call t).locks) s) (ht : (s.task t).phase = .working held) :
    e ∈ held ↔ e ∈ (call t).endpointIds := by
  have hplanned := h.planned t
  rw [ht, Phase.Follows] at hplanned
  rw [hplanned]
  exact mem_locks

omit [DecidableEq T] in
theorem working_apart (h : Inv (fun t => (call t).locks) s) (hne : t ≠ u)
    (ht : (s.task t).phase = .working held) (hu : (s.task u).phase = .working held') :
    Disjoint (call t).endpointIds (call u).endpointIds := by
  rw [Finset.disjoint_left]
  intro e het heu
  refine hne (h.sole e t u ?_ ?_)
  · rw [ht]
    exact (working_held h ht).2 het
  · rw [hu]
    exact (working_held h hu).2 heu

/-- **A lock that a cancelled call kept is kept for good**: nobody works on its endpoint again. -/
theorem leaks_forever (h : Inv (fun t => (call t).locks) s)
    (ht : (s.task t).phase = .aborted held) (he : e ∈ held) {ms : List (Move T)}
    (hms : s.moves ms = some s') :
    (s'.lock e).locked = true ∧
      ∀ u held', (s'.task u).phase = .working held' → e ∉ (call u).endpointIds := by
  have h' := h.moves hms
  have hkept := moves_aborted hms ht
  have howned : e ∈ (s'.task t).phase.owned := by
    rw [hkept]
    exact he
  refine ⟨(h'.held e).2 ⟨t, howned⟩, fun u held' hu heu => ?_⟩
  have heu' : e ∈ (s'.task u).phase.owned := by
    rw [hu]
    exact (working_held h' hu).2 heu
  have htu := h'.sole e t u howned heu'
  rw [← htu, hkept] at hu
  cases hu

omit [DecidableEq T] in
/-- A call for one endpoint leaves no lock behind. -/
theorem reconcile_clean (h : Inv (fun t => (call t).locks) s) (hcall : call t = .reconcile e)
    (ht : (s.task t).phase = .aborted held) : held = [] := by
  have hplanned := h.planned t
  have hone : (call t).locks = [e] := by
    rw [hcall]
    exact Finset.sort_singleton _ _
  rw [ht, Phase.Follows, hone] at hplanned
  obtain ⟨r, rest, heq⟩ := hplanned
  cases held with
  | nil => rfl
  | cons x held =>
    have hlength := congrArg List.length heq
    simp at hlength

/-- **Calls under endpoint locks.** After any moves of any calls: two calls at work have no
endpoint in common; so far no more moves were made than the locks of the calls account for; a call
cancelled while it waited for its second lock or a later one keeps its locks for good, and no other
call does; the calls can go on until none has a move left; and where there is no such call, calls
without a move are all over, with every lock free. -/
theorem endpoint_locks [Fintype T] (call : T → LockedCall) (ms : List (Move T)) :
    ∀ s ∈ (calls call).moves ms,
      (∀ t u held held', t ≠ u → (s.task t).phase = .working held →
        (s.task u).phase = .working held' →
          Disjoint (call t).endpointIds (call u).endpointIds) ∧
      (ms.filter Move.isProgress).length ≤ ∑ t, (3 * (call t).locks.length + 2) ∧
      (∀ t held, (s.task t).phase = .aborted held →
        (∀ e, call t = .reconcile e → held = []) ∧
          ∀ e ∈ held, ∀ ms', ∀ s' ∈ s.moves ms', (s'.lock e).locked = true ∧
            ∀ u held', (s'.task u).phase = .working held' → e ∉ (call u).endpointIds) ∧
      (∃ ms' s', (∀ m ∈ ms', m.isProgress = true) ∧ s.moves ms' = some s' ∧ AtRest s') ∧
      (Clean s → AtRest s →
        (∀ t, (s.task t).phase.isOver = true) ∧ ∀ e, (s.lock e).locked = false) := by
  intro s hs
  have h : Inv (fun t => (call t).locks) s := (inv_initial _).moves hs
  refine ⟨fun t u held held' hne ht hu => working_apart h hne ht hu, ?_, ?_, exists_rest s, ?_⟩
  · have hbound := moves_ahead hs
    exact (Nat.le_add_right _ _).trans hbound
  · intro t held ht
    refine ⟨fun e hcall => reconcile_clean h hcall ht, fun e he ms' s' hs' => ?_⟩
    exact leaks_forever h ht he hs'
  · intro hclean hrest
    have hascend : ∀ t, ((call t).locks).Pairwise (· < ·) := fun t => locks_ascend (call t)
    exact ⟨h.stuck hascend hclean hrest, h.unlocked hascend hclean hrest⟩

/-- The configurations of a fleet of two. -/
def sharedEndpoints : List EndpointConfig := sampleFleet.plant.collectorEndpoints

/-- A claim and a reassignment that share both servers of a fleet, and a reconciliation of one. -/
def sharedCalls : Fin 3 → LockedCall
  | 0 => .claim oneCard sharedEndpoints
  | 1 => .reassignment sharedEndpoints
  | 2 => .reconcile "beta"

theorem sharedCalls_locks (t : Fin 3) :
    (sharedCalls t).locks = if t = 2 then ["beta"] else ["alpha", "beta"] := by
  have htwo : keepaliveEndpointLocks {"alpha", "beta"} = ["alpha", "beta"] := by
    unfold keepaliveEndpointLocks
    rw [Finset.sort_insert _ (by decide) (by decide), Finset.sort_singleton]
  have hclaim : (sharedCalls 0).endpointIds = {"alpha", "beta"} := by decide +kernel
  have hreassignment : (sharedCalls 1).endpointIds = {"alpha", "beta"} := by decide +kernel
  match t with
  | 0 => exact (congrArg keepaliveEndpointLocks hclaim).trans htwo
  | 1 => exact (congrArg keepaliveEndpointLocks hreassignment).trans htwo
  | 2 => exact Finset.sort_singleton _ _

/-- The claim and the reassignment are never at work together. And should the reassignment be
cancelled while it waits for the second server, which the reconciliation has, it keeps the lock of
the first for good. -/
theorem endpoint_locks_two :
    (∀ ms s held held', (calls sharedCalls).moves ms = some s →
      (s.task 0).phase = .working held → (s.task 1).phase ≠ .working held') ∧
    ∃ s, (calls sharedCalls).moves [.advance 2, .advance 2, .advance 1, .advance 1, .cancel 1,
        .unwind 1] = some s ∧
      ∀ ms s', s.moves ms = some s' → (s'.lock "alpha").locked = true ∧
        ∀ held, (s'.task 0).phase ≠ .working held := by
  have hshared : "alpha" ∈ (sharedCalls 0).endpointIds ∧ "alpha" ∈ (sharedCalls 1).endpointIds := by
    decide +kernel
  refine ⟨fun ms s held held' hs h₀ h₁ => ?_, ?_⟩
  · have hapart := (endpoint_locks sharedCalls ms s hs).1 0 1 held held' (by decide) h₀ h₁
    exact Finset.disjoint_left.1 hapart hshared.1 hshared.2
  · have hcalls : calls sharedCalls = AsyncLock.State.initial fun t =>
        if t = 2 then ["beta"] else ["alpha", "beta"] := by
      unfold calls
      exact congrArg AsyncLock.State.initial (funext sharedCalls_locks)
    obtain ⟨s, hs, hleft⟩ : ∃ s, (calls sharedCalls).moves [.advance 2, .advance 2, .advance 1,
        .advance 1, .cancel 1, .unwind 1] = some s ∧
          (s.task 1).phase = .aborted ["alpha"] := by
      rw [hcalls]
      exact ⟨_, rfl, rfl⟩
    refine ⟨s, hs, fun ms s' hs' => ?_⟩
    obtain ⟨hlocked, hnobody⟩ := ((endpoint_locks sharedCalls _ s hs).2.2.1 1 ["alpha"] hleft).2
      "alpha" (List.mem_singleton_self _) ms s' hs'
    exact ⟨hlocked, fun held hwork => hnobody 0 held hwork hshared.1⟩

end ServerPilot.Api
