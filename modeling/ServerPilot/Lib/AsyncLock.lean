import Mathlib.Algebra.BigOperators.Group.Finset.Basic
import Mathlib.Algebra.Order.BigOperators.Group.Finset
import Mathlib.Data.Fintype.Basic
import Mathlib.Data.Set.Finite.Lattice
import Mathlib.Data.List.Nodup
import Mathlib.Logic.Function.Basic
import Mathlib.Order.Preorder.Finite

/-!
# Coroutines that take locks in order

Fair locks of a single-threaded event loop, and coroutines that take several of them one after
the other, work, and give them all back. A coroutine may be cancelled: at work it gives its locks
back, but one that waits for a lock leaves with those it has. Locks taken in ascending order are
never waited for in a circle (`State.stuck`), so a system that nobody leaves in that way comes to
rest with every lock free.
-/

namespace AsyncLock

variable {T R : Type*}

/-! ## One lock -/

/-- What a waiter waits on. -/
inductive Future
  | pending
  | woken
  | cancelled
  deriving DecidableEq, Repr

/-- A lock, and who waits for it, first come first. -/
structure Lock (T : Type*) where
  locked : Bool := false
  waiters : List (T × Future) := []

namespace Lock

/-- The first waiter is told to come, unless it already was or is on its way out. -/
def wakeFirst (l : Lock T) : Lock T :=
  match l.waiters with
  | (t, .pending) :: rest => { l with waiters := (t, .woken) :: rest }
  | _ => l

def release (l : Lock T) : Lock T := { l with locked := false }.wakeFirst

/-- Nobody has the lock, and nobody else is to have it first. -/
def free (l : Lock T) : Bool := !l.locked && l.waiters.all fun x => x.2 = .cancelled

variable [DecidableEq T]

def leaveQueue (t : T) (l : Lock T) : Lock T :=
  { l with waiters := l.waiters.filter fun x => x.1 ≠ t }

/-- The future of a waiter is cancelled, if it is still pending. -/
def cancel (t : T) (l : Lock T) : Lock T :=
  { l with waiters := l.waiters.map fun x =>
      if x.1 = t ∧ x.2 = .pending then (x.1, .cancelled) else x }

/-- A waiter that was cancelled leaves; should the lock be for the taking, the next one is told. -/
def unwind (t : T) (l : Lock T) : Lock T :=
  if l.locked then l.leaveQueue t else (l.leaveQueue t).wakeFirst

end Lock

/-! ## Coroutines -/

inductive Phase (R : Type*)
  /-- It has the first locks and goes on to the others. -/
  | seeking (held rest : List R)
  | waiting (held : List R) (r : R) (rest : List R)
  | working (held : List R)
  | finished
  /-- It was cancelled while it waited, and these locks were its own. -/
  | aborted (held : List R)

structure Task (R : Type*) where
  phase : Phase R
  cancelRequested : Bool := false

structure State (T R : Type*) where
  task : T → Task R
  lock : R → Lock T

/-- What happens next. `advance` takes the next lock or waits for it, and with all of them goes to
work. -/
inductive Move (T : Type*)
  | advance (t : T)
  | wake (t : T)
  | leave (t : T)
  | cancel (t : T)
  | unwind (t : T)

/-- A coroutine goes on; the others are cancellations. -/
def Move.isProgress : Move T → Bool
  | .cancel _ => false
  | _ => true

namespace State

/-- Coroutines that have not begun. -/
def initial (plan : T → List R) : State T R where
  task := fun t => { phase := .seeking [] (plan t) }
  lock := fun _ => {}

variable [DecidableEq T] [DecidableEq R]

def setTask (s : State T R) (t : T) (x : Task R) : State T R :=
  { s with task := Function.update s.task t x }

def setLock (s : State T R) (r : R) (l : Lock T) : State T R :=
  { s with lock := Function.update s.lock r l }

def releaseAll (s : State T R) (held : List R) : State T R :=
  held.reverse.foldl (fun s r => s.setLock r (s.lock r).release) s

/-- The state after a move, if it can be made. -/
def next (s : State T R) : Move T → Option (State T R)
  | .advance t =>
    match (s.task t).phase with
    | .seeking held (r :: rest) =>
      if (s.lock r).free then
        some ((s.setLock r { s.lock r with locked := true }).setTask t
          { s.task t with phase := .seeking (held ++ [r]) rest })
      else
        some ((s.setLock r
          { s.lock r with waiters := (s.lock r).waiters ++ [(t, .pending)] }).setTask
          t { s.task t with phase := .waiting held r rest })
    | .seeking held [] => some (s.setTask t { s.task t with phase := .working held })
    | _ => none
  | .wake t =>
    match (s.task t).phase with
    | .waiting held r rest =>
      if (t, .woken) ∈ (s.lock r).waiters ∧ (s.task t).cancelRequested = false then
        some ((s.setLock r { (s.lock r).leaveQueue t with locked := true }).setTask t
          { s.task t with phase := .seeking (held ++ [r]) rest })
      else none
    | _ => none
  | .leave t =>
    match (s.task t).phase with
    | .working held => some ((s.releaseAll held).setTask t { s.task t with phase := .finished })
    | _ => none
  | .cancel t =>
    match (s.task t).phase with
    | .waiting _ r _ =>
      some ((s.setLock r ((s.lock r).cancel t)).setTask t { s.task t with cancelRequested := true })
    | _ => none
  | .unwind t =>
    match (s.task t).phase with
    | .waiting held r _ =>
      if (s.task t).cancelRequested then
        some ((s.setLock r ((s.lock r).unwind t)).setTask t
          { s.task t with phase := .aborted held })
      else none
    | _ => none

/-- The state after moves all of which can be made. -/
def moves (s : State T R) : List (Move T) → Option (State T R)
  | [] => some s
  | m :: ms => (s.next m).bind fun s' => s'.moves ms

end State

/-! ## What holds of a lock -/

namespace Lock

/-- Nobody waits twice; a lock for the taking is promised to its first waiter or about to lose it;
only the first waiter is told to come, and only while the lock is for the taking. -/
structure Sound (l : Lock T) : Prop where
  once : (l.waiters.map Prod.fst).Nodup
  first : l.locked = false → ∀ x ∈ l.waiters.head?, x.2 ≠ .pending
  later : ∀ x ∈ l.waiters.tail, x.2 ≠ .woken
  taken : l.locked = true → ∀ x ∈ l.waiters, x.2 ≠ .woken

theorem wakeFirst_keys (l : Lock T) :
    l.wakeFirst.waiters.map Prod.fst = l.waiters.map Prod.fst := by
  unfold wakeFirst
  split
  · rename_i hl
    rw [hl]
    rfl
  · rfl

theorem wakeFirst_locked (l : Lock T) : l.wakeFirst.locked = l.locked := by
  unfold wakeFirst
  split <;> rfl

theorem wakeFirst_cancelled {l : Lock T} {t : T} (h : (t, Future.cancelled) ∈ l.wakeFirst.waiters) :
    (t, Future.cancelled) ∈ l.waiters := by
  unfold wakeFirst at h
  split at h
  · rename_i u rest hl
    rw [hl]
    rcases List.mem_cons.1 h with h | h
    · cases h
    · exact List.mem_cons_of_mem _ h
  · exact h

/-- **Waking the first waiter** of a lock for the taking makes the lock sound. -/
theorem wakeFirst_sound {l : Lock T} (hlocked : l.locked = false)
    (honce : (l.waiters.map Prod.fst).Nodup) (hlater : ∀ x ∈ l.waiters.tail, x.2 ≠ .woken) :
    l.wakeFirst.Sound := by
  constructor
  · rw [wakeFirst_keys]
    exact honce
  · intro _ x hx
    unfold wakeFirst at hx
    split at hx
    · cases hx
      exact nofun
    · rename_i hnot
      intro hpending
      obtain ⟨rest, hrest⟩ := List.head?_eq_some_iff.1 hx
      exact hnot x.1 rest (by rw [hrest, ← hpending])
  · intro x hx
    unfold wakeFirst at hx
    split at hx
    · rename_i hl
      rw [hl] at hlater
      exact hlater x hx
    · exact hlater x hx
  · intro h
    rw [wakeFirst_locked, hlocked] at h
    cases h

theorem Sound.release {l : Lock T} (h : l.Sound) : l.release.Sound :=
  wakeFirst_sound rfl h.once h.later

theorem release_keys (l : Lock T) : l.release.waiters.map Prod.fst = l.waiters.map Prod.fst :=
  wakeFirst_keys _

theorem release_locked (l : Lock T) : l.release.locked = false := wakeFirst_locked _

theorem release_release (l : Lock T) : l.release.release = l.release := by
  obtain ⟨locked, waiters⟩ := l
  unfold release wakeFirst
  cases waiters with
  | nil => rfl
  | cons x rest =>
    obtain ⟨t, future⟩ := x
    cases future <;> rfl

theorem Sound.take {l : Lock T} (h : l.Sound) (hfree : l.free = true) :
    Sound { l with locked := true } := by
  have hall := List.all_eq_true.1 (Bool.and_eq_true_iff.1 hfree).2
  refine ⟨h.once, nofun, h.later, fun _ x hx hwoken => ?_⟩
  have hcancelled := of_decide_eq_true (hall x hx)
  rw [hwoken] at hcancelled
  cases hcancelled

theorem Sound.enqueue {l : Lock T} {t : T} (h : l.Sound) (hfree : l.free = false)
    (ht : t ∉ l.waiters.map Prod.fst) :
    Sound { l with waiters := l.waiters ++ [(t, .pending)] } := by
  have htail : ∀ x ∈ (l.waiters ++ [(t, Future.pending)]).tail, x ∈ l.waiters.tail ∨
      x = (t, .pending) := by
    cases l.waiters with
    | nil => exact fun x hx => Or.inr (List.eq_of_mem_singleton (by simp at hx))
    | cons y rest =>
      intro x hx
      simpa using hx
  constructor
  · rw [List.map_append, List.map_singleton, ← List.concat_eq_append]
    exact h.once.concat ht
  · intro hlocked x hx
    -- an unlocked lock that is not free has a waiter already
    have hlocked : l.locked = false := hlocked
    cases hw : l.waiters with
    | nil =>
      rw [free, hlocked, hw] at hfree
      cases hfree
    | cons y rest =>
      simp only [hw, List.cons_append, List.head?_cons] at hx
      exact h.first hlocked x (by rw [hw]; exact hx)
  · intro x hx
    rcases htail x hx with hx | rfl
    · exact h.later x hx
    · exact nofun
  · intro hlocked x hx
    rcases List.mem_append.1 hx with hx | hx
    · exact h.taken hlocked x hx
    · rw [List.mem_singleton.1 hx]
      exact nofun

/-- Who was told to come is the first one. -/
theorem Sound.woken {l : Lock T} {t : T} (h : l.Sound) (hw : (t, Future.woken) ∈ l.waiters) :
    ∃ rest, l.waiters = (t, .woken) :: rest := by
  cases hl : l.waiters with
  | nil =>
    rw [hl] at hw
    cases hw
  | cons x rest =>
    rw [hl] at hw
    rcases List.mem_cons.1 hw with rfl | hw
    · exact ⟨rest, rfl⟩
    · exact absurd rfl (h.later _ (by rw [hl]; exact hw))

theorem tail_filter {α : Type*} {p : α → Bool} {l : List α} {x : α} (hx : x ∈ (l.filter p).tail) :
    x ∈ l.tail := by
  cases l with
  | nil => exact hx
  | cons y rest =>
    by_cases hy : p y = true
    · rw [List.filter_cons_of_pos hy] at hx
      exact List.mem_of_mem_filter hx
    · rw [List.filter_cons_of_neg hy] at hx
      exact List.mem_of_mem_filter (List.mem_of_mem_tail hx)

variable [DecidableEq T]

theorem mem_leaveQueue {l : Lock T} {t : T} {x : T × Future} :
    x ∈ (l.leaveQueue t).waiters ↔ x ∈ l.waiters ∧ x.1 ≠ t := by
  simp [leaveQueue]

theorem leaveQueue_keys {l : Lock T} {t u : T} :
    u ∈ (l.leaveQueue t).waiters.map Prod.fst ↔ u ∈ l.waiters.map Prod.fst ∧ u ≠ t := by
  constructor
  · intro h
    obtain ⟨x, hx, rfl⟩ := List.mem_map.1 h
    obtain ⟨hx, hne⟩ := mem_leaveQueue.1 hx
    exact ⟨List.mem_map_of_mem hx, hne⟩
  · rintro ⟨h, hne⟩
    obtain ⟨x, hx, rfl⟩ := List.mem_map.1 h
    exact List.mem_map_of_mem (mem_leaveQueue.2 ⟨hx, hne⟩)

theorem leaveQueue_once {l : Lock T} {t : T} (h : l.Sound) :
    ((l.leaveQueue t).waiters.map Prod.fst).Nodup :=
  h.once.sublist (List.filter_sublist.map Prod.fst)

theorem leaveQueue_later {l : Lock T} {t : T} (h : l.Sound) :
    ∀ x ∈ (l.leaveQueue t).waiters.tail, x.2 ≠ .woken := fun x hx => h.later x (tail_filter hx)

/-- **The waiter that was told takes the lock.** -/
theorem Sound.wake {l : Lock T} {t : T} (h : l.Sound) (hw : (t, Future.woken) ∈ l.waiters) :
    Sound { l.leaveQueue t with locked := true } := by
  refine ⟨leaveQueue_once h, nofun, leaveQueue_later h, fun _ x hx => ?_⟩
  obtain ⟨rest, hl⟩ := h.woken hw
  obtain ⟨hx, hne⟩ := mem_leaveQueue.1 hx
  rw [hl] at hx
  rcases List.mem_cons.1 hx with rfl | hx
  · exact absurd rfl hne
  · exact h.later x (by rw [hl]; exact hx)

theorem unwind_keys {l : Lock T} {t u : T} :
    u ∈ (l.unwind t).waiters.map Prod.fst ↔ u ∈ l.waiters.map Prod.fst ∧ u ≠ t := by
  unfold unwind
  split
  · exact leaveQueue_keys
  · rw [wakeFirst_keys]
    exact leaveQueue_keys

theorem unwind_locked {l : Lock T} {t : T} : (l.unwind t).locked = l.locked := by
  unfold unwind
  split
  · rfl
  · exact wakeFirst_locked _

theorem unwind_cancelled {l : Lock T} {t u : T} (h : (u, Future.cancelled) ∈ (l.unwind t).waiters) :
    (u, Future.cancelled) ∈ l.waiters := by
  unfold unwind at h
  split at h
  · exact (mem_leaveQueue.1 h).1
  · exact (mem_leaveQueue.1 (wakeFirst_cancelled h)).1

theorem Sound.unwind {l : Lock T} (h : l.Sound) (t : T) : (l.unwind t).Sound := by
  unfold Lock.unwind
  split
  · rename_i hlocked
    refine ⟨leaveQueue_once h, fun hno => ?_, leaveQueue_later h, fun _ x hx => ?_⟩
    · have hno : l.locked = false := hno
      rw [hlocked] at hno
      cases hno
    · exact h.taken hlocked x (mem_leaveQueue.1 hx).1
  · rename_i hlocked
    exact wakeFirst_sound (Bool.eq_false_of_not_eq_true hlocked) (leaveQueue_once h)
      (leaveQueue_later h)

theorem mem_cancel {l : Lock T} {t : T} {y : T × Future} (hy : y ∈ (l.cancel t).waiters) :
    ∃ x ∈ l.waiters, y.1 = x.1 ∧ (y.2 = x.2 ∨ y.1 = t ∧ y.2 = .cancelled) := by
  obtain ⟨x, hx, rfl⟩ := List.mem_map.1 hy
  refine ⟨x, hx, ?_⟩
  split
  · rename_i h
    exact ⟨rfl, Or.inr ⟨h.1, rfl⟩⟩
  · exact ⟨rfl, Or.inl rfl⟩

theorem cancel_keys {l : Lock T} {t : T} :
    (l.cancel t).waiters.map Prod.fst = l.waiters.map Prod.fst := by
  unfold cancel
  rw [List.map_map]
  refine List.map_congr_left fun x _ => ?_
  simp only [Function.comp_apply]
  split <;> rfl

theorem Sound.cancel {l : Lock T} (h : l.Sound) (t : T) : (l.cancel t).Sound := by
  have hkept : ∀ {x y : T × Future}, (y.2 = x.2 ∨ y.1 = t ∧ y.2 = .cancelled) → x.2 ≠ .woken →
      y.2 ≠ .woken := by
    rintro x y (hy | ⟨-, hy⟩) hx
    · rwa [hy]
    · rw [hy]
      exact nofun
  refine ⟨by rw [cancel_keys]; exact h.once, fun hlocked y hy => ?_, fun y hy => ?_,
    fun hlocked y hy => ?_⟩
  · have hlocked : l.locked = false := hlocked
    unfold Lock.cancel at hy
    rw [List.head?_map] at hy
    obtain ⟨x, hx, rfl⟩ := Option.map_eq_some_iff.1 hy
    split
    · exact nofun
    · exact h.first hlocked x hx
  · unfold Lock.cancel at hy
    rw [← List.map_tail] at hy
    obtain ⟨x, hx, rfl⟩ := List.mem_map.1 hy
    split
    · exact nofun
    · exact h.later x hx
  · obtain ⟨x, hx, -, hfuture⟩ := mem_cancel hy
    exact hkept hfuture (h.taken hlocked x hx)

end Lock

/-! ## What holds of the coroutines -/

namespace Phase

/-- The locks that are its own. -/
def owned : Phase R → List R
  | seeking held _ | waiting held _ _ | working held | aborted held => held
  | finished => []

def awaits : Phase R → Option R
  | waiting _ r _ => some r
  | _ => none

/-- It takes the locks of its plan one after the other. -/
def Follows (plan : List R) : Phase R → Prop
  | seeking held rest => held ++ rest = plan
  | waiting held r rest => held ++ r :: rest = plan
  | working held => held = plan
  | finished => True
  | aborted held => ∃ r rest, held ++ r :: rest = plan

def isOver : Phase R → Bool
  | finished | aborted _ => true
  | _ => false

/-- The moves it has before it at most. -/
def ahead : Phase R → ℕ
  | seeking _ rest => 3 * rest.length + 2
  | waiting _ _ rest => 3 * rest.length + 4
  | working _ => 1
  | finished | aborted _ => 0

end Phase

namespace State

variable [DecidableEq T] [DecidableEq R] {plan : T → List R} {s s' : State T R}

/-- A coroutine owns the locks it has taken, nobody else does, and a lock's queue is those who
wait for it. -/
structure Inv (plan : T → List R) (s : State T R) : Prop where
  planned : ∀ t, (s.task t).phase.Follows (plan t)
  sole : ∀ r t u, r ∈ (s.task t).phase.owned → r ∈ (s.task u).phase.owned → t = u
  held : ∀ r, (s.lock r).locked = true ↔ ∃ t, r ∈ (s.task t).phase.owned
  queued : ∀ r t, t ∈ (s.lock r).waiters.map Prod.fst ↔ (s.task t).phase.awaits = some r
  sound : ∀ r, (s.lock r).Sound
  doomed : ∀ r t, (t, Future.cancelled) ∈ (s.lock r).waiters → (s.task t).cancelRequested = true

omit [DecidableEq T] [DecidableEq R] in
theorem inv_initial (plan : T → List R) : Inv plan (State.initial plan) where
  planned := fun _ => rfl
  sole := fun _ _ _ h => absurd h List.not_mem_nil
  held := fun _ => ⟨nofun, fun ⟨_, h⟩ => absurd h List.not_mem_nil⟩
  queued := fun _ _ => ⟨fun h => absurd h List.not_mem_nil, nofun⟩
  sound := fun _ => ⟨List.nodup_nil, nofun, nofun, nofun⟩
  doomed := fun _ _ h => absurd h List.not_mem_nil

/-- **One coroutine and one lock change.** What the two must agree on, everything else being as it
was. -/
structure Fits (plan : T → List R) (s : State T R) (t : T) (r : R) (x : Task R) (l : Lock T) :
    Prop where
  planned : x.phase.Follows (plan t)
  owned : ∀ q, q ≠ r → (q ∈ x.phase.owned ↔ q ∈ (s.task t).phase.owned)
  held : l.locked = true ↔ r ∈ x.phase.owned ∨ ∃ u, u ≠ t ∧ r ∈ (s.task u).phase.owned
  sole : r ∈ x.phase.owned → ∀ u, u ≠ t → r ∉ (s.task u).phase.owned
  awaits : ∀ q, q ≠ r → (x.phase.awaits = some q ↔ (s.task t).phase.awaits = some q)
  queued : t ∈ l.waiters.map Prod.fst ↔ x.phase.awaits = some r
  others : ∀ u, u ≠ t →
    (u ∈ l.waiters.map Prod.fst ↔ u ∈ (s.lock r).waiters.map Prod.fst) ∧
      ((u, Future.cancelled) ∈ l.waiters → (u, Future.cancelled) ∈ (s.lock r).waiters)
  sound : l.Sound
  doomed : (t, Future.cancelled) ∈ l.waiters → x.cancelRequested = true
  requested : (s.task t).cancelRequested = true → x.cancelRequested = true

theorem Inv.put (h : Inv plan s) {t : T} {r : R} {x : Task R} {l : Lock T}
    (f : Fits plan s t r x l) : Inv plan ((s.setLock r l).setTask t x) := by
  have htask : ∀ u, u ≠ t → ((s.setLock r l).setTask t x).task u = s.task u := fun u hu =>
    Function.update_of_ne hu _ _
  have hself : ((s.setLock r l).setTask t x).task t = x := Function.update_self ..
  have hlock : ∀ q, q ≠ r → ((s.setLock r l).setTask t x).lock q = s.lock q := fun q hq =>
    Function.update_of_ne hq _ _
  have hthis : ((s.setLock r l).setTask t x).lock r = l := Function.update_self ..
  constructor
  case planned =>
    intro u
    by_cases hu : u = t
    · rw [hu, hself]
      exact f.planned
    · rw [htask u hu]
      exact h.planned u
  case sole =>
    have hcross : ∀ q u, u ≠ t → q ∈ x.phase.owned → q ∉ (s.task u).phase.owned := by
      intro q u hu hq hq'
      by_cases hqr : q = r
      · exact f.sole (hqr ▸ hq) u hu (hqr ▸ hq')
      · exact hu (h.sole q u t hq' ((f.owned q hqr).1 hq))
    intro q u v hu hv
    by_cases hut : u = t
    · by_cases hvt : v = t
      · rw [hut, hvt]
      · rw [hut, hself] at hu
        rw [htask v hvt] at hv
        exact absurd hv (hcross q v hvt hu)
    · rw [htask u hut] at hu
      by_cases hvt : v = t
      · rw [hvt, hself] at hv
        exact absurd hu (hcross q u hut hv)
      · rw [htask v hvt] at hv
        exact h.sole q u v hu hv
  case held =>
    intro q
    have hsplit : (∃ u, q ∈ (((s.setLock r l).setTask t x).task u).phase.owned) ↔
        q ∈ x.phase.owned ∨ ∃ u, u ≠ t ∧ q ∈ (s.task u).phase.owned := by
      constructor
      · rintro ⟨u, hu⟩
        by_cases hut : u = t
        · rw [hut, hself] at hu
          exact Or.inl hu
        · rw [htask u hut] at hu
          exact Or.inr ⟨u, hut, hu⟩
      · rintro (hq | ⟨u, hut, hq⟩)
        · exact ⟨t, by rw [hself]; exact hq⟩
        · exact ⟨u, by rw [htask u hut]; exact hq⟩
    rw [hsplit]
    by_cases hqr : q = r
    · rw [hqr, hthis]
      exact f.held
    · rw [hlock q hqr, h.held q, f.owned q hqr]
      constructor
      · rintro ⟨u, hu⟩
        by_cases hut : u = t
        · exact Or.inl (hut ▸ hu)
        · exact Or.inr ⟨u, hut, hu⟩
      · rintro (hq | ⟨u, -, hq⟩)
        · exact ⟨t, hq⟩
        · exact ⟨u, hq⟩
  case queued =>
    intro q u
    by_cases hqr : q = r
    · rw [hqr, hthis]
      by_cases hut : u = t
      · rw [hut, hself]
        exact f.queued
      · rw [htask u hut, (f.others u hut).1]
        exact h.queued r u
    · rw [hlock q hqr]
      by_cases hut : u = t
      · rw [hut, hself, f.awaits q hqr]
        exact h.queued q t
      · rw [htask u hut]
        exact h.queued q u
  case sound =>
    intro q
    by_cases hqr : q = r
    · rw [hqr, hthis]
      exact f.sound
    · rw [hlock q hqr]
      exact h.sound q
  case doomed =>
    intro q u hu
    by_cases hqr : q = r
    · rw [hqr, hthis] at hu
      by_cases hut : u = t
      · rw [hut] at hu ⊢
        rw [hself]
        exact f.doomed hu
      · rw [htask u hut]
        exact h.doomed r u ((f.others u hut).2 hu)
    · rw [hlock q hqr] at hu
      by_cases hut : u = t
      · rw [hut] at hu ⊢
        rw [hself]
        exact f.requested (h.doomed q t hu)
      · rw [htask u hut]
        exact h.doomed q u hu

/-! ## What a move does -/

/-- The moves there are, with all that each asks and does. -/
inductive Step (s : State T R) : Move T → State T R → Prop
  | take {t : T} {held rest : List R} {r : R} : (s.task t).phase = .seeking held (r :: rest) →
      (s.lock r).free = true →
      Step s (.advance t) ((s.setLock r { s.lock r with locked := true }).setTask t
        { s.task t with phase := .seeking (held ++ [r]) rest })
  | queue {t : T} {held rest : List R} {r : R} : (s.task t).phase = .seeking held (r :: rest) →
      (s.lock r).free = false →
      Step s (.advance t) ((s.setLock r
        { s.lock r with waiters := (s.lock r).waiters ++ [(t, .pending)] }).setTask t
          { s.task t with phase := .waiting held r rest })
  | enter {t : T} {held : List R} : (s.task t).phase = .seeking held [] →
      Step s (.advance t) (s.setTask t { s.task t with phase := .working held })
  | wake {t : T} {held rest : List R} {r : R} : (s.task t).phase = .waiting held r rest →
      (t, Future.woken) ∈ (s.lock r).waiters → (s.task t).cancelRequested = false →
      Step s (.wake t) ((s.setLock r { (s.lock r).leaveQueue t with locked := true }).setTask t
        { s.task t with phase := .seeking (held ++ [r]) rest })
  | leave {t : T} {held : List R} : (s.task t).phase = .working held →
      Step s (.leave t) ((s.releaseAll held).setTask t { s.task t with phase := .finished })
  | cancel {t : T} {held rest : List R} {r : R} : (s.task t).phase = .waiting held r rest →
      Step s (.cancel t) ((s.setLock r ((s.lock r).cancel t)).setTask t
        { s.task t with cancelRequested := true })
  | unwind {t : T} {held rest : List R} {r : R} : (s.task t).phase = .waiting held r rest →
      (s.task t).cancelRequested = true →
      Step s (.unwind t) ((s.setLock r ((s.lock r).unwind t)).setTask t
        { s.task t with phase := .aborted held })

theorem next_step {m : Move T} (h : s.next m = some s') : Step s m s' := by
  cases m with
  | advance t =>
    unfold next at h
    dsimp only at h
    split at h
    · rename_i hphase
      split at h
      · rename_i hfree
        cases h
        exact .take hphase hfree
      · rename_i hfree
        cases h
        exact .queue hphase (Bool.eq_false_of_not_eq_true hfree)
    · rename_i hphase
      cases h
      exact .enter hphase
    · cases h
  | wake t =>
    unfold next at h
    dsimp only at h
    split at h
    · rename_i hphase
      split at h
      · rename_i hwoken
        cases h
        exact .wake hphase hwoken.1 hwoken.2
      · cases h
    · cases h
  | leave t =>
    unfold next at h
    dsimp only at h
    split at h
    · rename_i hphase
      cases h
      exact .leave hphase
    · cases h
  | cancel t =>
    unfold next at h
    dsimp only at h
    split at h
    · rename_i hphase
      cases h
      exact .cancel hphase
    · cases h
  | unwind t =>
    unfold next at h
    dsimp only at h
    split at h
    · rename_i hphase
      split at h
      · rename_i hrequested
        cases h
        exact .unwind hphase hrequested
      · cases h
    · cases h

omit [DecidableEq T] in
theorem releaseAll_lock (s : State T R) (held : List R) (r : R) :
    (s.releaseAll held).lock r = if r ∈ held then (s.lock r).release else s.lock r := by
  have hreversed : ∀ (l : List R) (s : State T R),
      (l.foldl (fun s r => s.setLock r (s.lock r).release) s).lock r =
        if r ∈ l then (s.lock r).release else s.lock r := by
    intro l
    induction l with
    | nil => exact fun s => (if_neg List.not_mem_nil).symm
    | cons q l ih =>
      intro s
      rw [List.foldl_cons, ih]
      by_cases hq : r = q
      · rw [hq]
        have hthis : (s.setLock q (s.lock q).release).lock q = (s.lock q).release :=
          Function.update_self ..
        rw [hthis, Lock.release_release, ite_self, if_pos List.mem_cons_self]
      · have hother : (s.setLock q (s.lock q).release).lock r = s.lock r :=
          Function.update_of_ne hq _ _
        rw [hother]
        simp [hq]
  rw [releaseAll, hreversed]
  simp

omit [DecidableEq T] in
theorem releaseAll_task (s : State T R) (held : List R) : (s.releaseAll held).task = s.task := by
  unfold releaseAll
  induction held.reverse generalizing s with
  | nil => rfl
  | cons q l ih =>
    rw [List.foldl_cons, ih]
    rfl

/-! ## The moves keep it -/

section

variable {t : T} {held rest : List R} {r : R}

omit [DecidableEq T] [DecidableEq R] in
theorem Inv.notHeld (h : Inv plan s) (hlocked : (s.lock r).locked = false) (u : T) :
    r ∉ (s.task u).phase.owned := by
  intro hu
  rw [(h.held r).2 ⟨u, hu⟩] at hlocked
  cases hlocked

omit [DecidableEq T] [DecidableEq R] in
theorem Inv.unlocked_of_woken (h : Inv plan s) (hw : (t, Future.woken) ∈ (s.lock r).waiters) :
    (s.lock r).locked = false := by
  by_contra hlocked
  exact (h.sound r).taken (Bool.eq_true_of_not_eq_false hlocked) _ hw rfl

omit [DecidableEq R] in
/-- Whose a lock is, seen from one coroutine. -/
theorem Inv.held_iff (h : Inv plan s) (t : T) (r : R) : (s.lock r).locked = true ↔
    r ∈ (s.task t).phase.owned ∨ ∃ u, u ≠ t ∧ r ∈ (s.task u).phase.owned := by
  refine Iff.trans (h.held r) ⟨?_, ?_⟩
  · rintro ⟨u, hu⟩
    by_cases hut : u = t
    · exact Or.inl (hut ▸ hu)
    · exact Or.inr ⟨u, hut, hu⟩
  · rintro (hr | ⟨u, -, hu⟩)
    · exact ⟨t, hr⟩
    · exact ⟨u, hu⟩

theorem Inv.take (h : Inv plan s) (hphase : (s.task t).phase = .seeking held (r :: rest))
    (hfree : (s.lock r).free = true) :
    Inv plan ((s.setLock r { s.lock r with locked := true }).setTask t
      { s.task t with phase := .seeking (held ++ [r]) rest }) := by
  have hlocked : (s.lock r).locked = false := by
    simpa using (Bool.and_eq_true_iff.1 hfree).1
  have hnobody := h.notHeld hlocked
  have hplanned := h.planned t
  rw [hphase] at hplanned
  have hawaits : ∀ q, (s.task t).phase.awaits ≠ some q := by
    rw [hphase]
    exact nofun
  apply h.put
  refine ⟨?_, ?_, ?_, fun _ u _ => hnobody u, ?_, ?_, fun u _ => ⟨Iff.rfl, id⟩,
    (h.sound r).take hfree, h.doomed r t, id⟩
  · rw [Phase.Follows, List.append_assoc]
    exact hplanned
  · intro q hq
    rw [hphase]
    simp [Phase.owned, hq]
  · exact ⟨fun _ => Or.inl (by simp [Phase.owned]), fun _ => rfl⟩
  · exact fun q _ => ⟨nofun, fun hq => absurd hq (hawaits q)⟩
  · exact ⟨fun hq => absurd ((h.queued r t).1 hq) (hawaits r), nofun⟩

theorem Inv.queue (h : Inv plan s) (hphase : (s.task t).phase = .seeking held (r :: rest))
    (hfree : (s.lock r).free = false) :
    Inv plan ((s.setLock r
      { s.lock r with waiters := (s.lock r).waiters ++ [(t, .pending)] }).setTask t
        { s.task t with phase := .waiting held r rest }) := by
  have hplanned := h.planned t
  rw [hphase] at hplanned
  have hawaits : ∀ q, (s.task t).phase.awaits ≠ some q := by
    rw [hphase]
    exact nofun
  have howned : (s.task t).phase.owned = held := by rw [hphase]; rfl
  have hnot : t ∉ (s.lock r).waiters.map Prod.fst := fun hq => hawaits r ((h.queued r t).1 hq)
  apply h.put
  refine ⟨hplanned, fun q _ => by rw [howned]; rfl, ?_, ?_, ?_, ?_, ?_,
    (h.sound r).enqueue hfree hnot, ?_, id⟩
  · rw [← howned]
    exact h.held_iff t r
  · intro hr u hut hu
    exact hut (h.sole r u t hu (by rw [howned]; exact hr))
  · intro q hq
    exact ⟨fun hx => absurd (Option.some.inj hx).symm hq, fun hx => absurd hx (hawaits q)⟩
  · exact ⟨fun _ => rfl, fun _ => by simp⟩
  · intro u hut
    refine ⟨by simp [hut], fun hu => ?_⟩
    rcases List.mem_append.1 hu with hu | hu
    · exact hu
    · cases List.mem_singleton.1 hu
  · intro hu
    rcases List.mem_append.1 hu with hu | hu
    · exact h.doomed r t hu
    · cases List.mem_singleton.1 hu

theorem Inv.wake (h : Inv plan s) (hphase : (s.task t).phase = .waiting held r rest)
    (hwoken : (t, Future.woken) ∈ (s.lock r).waiters) :
    Inv plan ((s.setLock r { (s.lock r).leaveQueue t with locked := true }).setTask t
      { s.task t with phase := .seeking (held ++ [r]) rest }) := by
  have hnobody := h.notHeld (h.unlocked_of_woken hwoken)
  have hplanned := h.planned t
  rw [hphase] at hplanned
  apply h.put
  refine ⟨?_, ?_, ?_, fun _ u _ => hnobody u, ?_, ?_, ?_, (h.sound r).wake hwoken, ?_, id⟩
  · rw [Phase.Follows, List.append_assoc]
    exact hplanned
  · intro q hq
    rw [hphase]
    simp [Phase.owned, hq]
  · exact ⟨fun _ => Or.inl (by simp [Phase.owned]), fun _ => rfl⟩
  · intro q hq
    rw [hphase]
    exact ⟨nofun, fun hx => absurd (Option.some.inj hx).symm hq⟩
  · exact ⟨fun hq => absurd rfl (Lock.leaveQueue_keys.1 hq).2, nofun⟩
  · intro u hut
    exact ⟨by simp [Lock.leaveQueue_keys, hut], fun hu => (Lock.mem_leaveQueue.1 hu).1⟩
  · exact fun hu => absurd rfl (Lock.mem_leaveQueue.1 hu).2

theorem Inv.cancel (h : Inv plan s) (t : T) (r : R) :
    Inv plan ((s.setLock r ((s.lock r).cancel t)).setTask t
      { s.task t with cancelRequested := true }) := by
  apply h.put
  refine ⟨h.planned t, fun q _ => Iff.rfl, h.held_iff t r, ?_, fun q _ => Iff.rfl, ?_, ?_,
    (h.sound r).cancel t, fun _ => rfl, fun _ => rfl⟩
  · exact fun hr u hut hu => hut (h.sole r u t hu hr)
  · rw [Lock.cancel_keys]
    exact h.queued r t
  · intro u hut
    refine ⟨by rw [Lock.cancel_keys], fun hu => ?_⟩
    obtain ⟨x, hx, hfst, hsnd⟩ := Lock.mem_cancel hu
    rcases hsnd with hsnd | ⟨hut', -⟩
    · have heq : x = (u, .cancelled) := Prod.ext hfst.symm hsnd.symm
      exact heq ▸ hx
    · exact absurd hut' hut

theorem Inv.unwind (h : Inv plan s) (hphase : (s.task t).phase = .waiting held r rest) :
    Inv plan ((s.setLock r ((s.lock r).unwind t)).setTask t
      { s.task t with phase := .aborted held }) := by
  have hplanned := h.planned t
  rw [hphase] at hplanned
  have howned : (s.task t).phase.owned = held := by rw [hphase]; rfl
  apply h.put
  refine ⟨⟨r, rest, hplanned⟩, fun q _ => by rw [howned]; rfl, ?_, ?_, ?_, ?_, ?_,
    (h.sound r).unwind t, ?_, id⟩
  · rw [Lock.unwind_locked, ← howned]
    exact h.held_iff t r
  · intro hr u hut hu
    exact hut (h.sole r u t hu (by rw [howned]; exact hr))
  · intro q hq
    rw [hphase]
    exact ⟨nofun, fun hx => absurd (Option.some.inj hx).symm hq⟩
  · exact ⟨fun hq => absurd rfl (Lock.unwind_keys.1 hq).2, nofun⟩
  · intro u hut
    exact ⟨by simp [Lock.unwind_keys, hut], Lock.unwind_cancelled⟩
  · exact fun hu => h.doomed r t (Lock.unwind_cancelled hu)

omit [DecidableEq R] in
theorem Inv.enter (h : Inv plan s) (hphase : (s.task t).phase = .seeking held []) :
    Inv plan (s.setTask t { s.task t with phase := .working held }) := by
  have hplanned := h.planned t
  rw [hphase, Phase.Follows, List.append_nil] at hplanned
  have hsame : ∀ u, ((s.setTask t { s.task t with phase := .working held }).task u).phase.owned =
        (s.task u).phase.owned ∧
      ((s.setTask t { s.task t with phase := .working held }).task u).phase.awaits =
        (s.task u).phase.awaits ∧
      ((s.setTask t { s.task t with phase := .working held }).task u).cancelRequested =
        (s.task u).cancelRequested := by
    intro u
    by_cases hut : u = t
    · subst hut
      simp [setTask, hphase, Phase.owned, Phase.awaits]
    · simp [setTask, Function.update_of_ne hut]
  constructor
  · intro u
    by_cases hut : u = t
    · subst hut
      simpa [setTask, Phase.Follows] using hplanned
    · simpa [setTask, Function.update_of_ne hut] using h.planned u
  · intro q u v hu hv
    rw [(hsame u).1] at hu
    rw [(hsame v).1] at hv
    exact h.sole q u v hu hv
  · intro q
    simp only [(hsame _).1]
    exact h.held q
  · intro q u
    rw [(hsame u).2.1]
    exact h.queued q u
  · exact h.sound
  · intro q u hu
    rw [(hsame u).2.2]
    exact h.doomed q u hu

theorem Inv.leave (h : Inv plan s) (hphase : (s.task t).phase = .working held) :
    Inv plan ((s.releaseAll held).setTask t { s.task t with phase := .finished }) := by
  set s' := (s.releaseAll held).setTask t { s.task t with phase := .finished }
  have hself : s'.task t = { s.task t with phase := .finished } := Function.update_self ..
  have hother : ∀ u, u ≠ t → s'.task u = s.task u := fun u hut =>
    (Function.update_of_ne hut _ _).trans (congrFun (releaseAll_task s held) u)
  have hlock : ∀ q, s'.lock q = if q ∈ held then (s.lock q).release else s.lock q :=
    fun q => releaseAll_lock s held q
  have howned : (s.task t).phase.owned = held := by rw [hphase]; rfl
  -- it owns nothing any more, and nobody else owned what it had
  have hkept : ∀ u q, q ∈ (s'.task u).phase.owned ↔ q ∈ (s.task u).phase.owned ∧ q ∉ held := by
    intro u q
    by_cases hut : u = t
    · rw [hut, hself, howned]
      exact ⟨fun hq => absurd hq List.not_mem_nil, fun hq => absurd hq.1 hq.2⟩
    · rw [hother u hut]
      refine ⟨fun hq => ⟨hq, fun hheld => hut ?_⟩, fun hq => hq.1⟩
      exact h.sole q u t hq (by rw [howned]; exact hheld)
  constructor
  · intro u
    by_cases hut : u = t
    · rw [hut, hself]
      trivial
    · rw [hother u hut]
      exact h.planned u
  · exact fun q u v hu hv => h.sole q u v ((hkept u q).1 hu).1 ((hkept v q).1 hv).1
  · intro q
    simp only [hkept, hlock]
    by_cases hq : q ∈ held
    · rw [if_pos hq, Lock.release_locked]
      exact ⟨nofun, fun ⟨_, _, hnot⟩ => absurd hq hnot⟩
    · rw [if_neg hq, h.held q]
      simp [hq]
  · intro q u
    have hkeys : (s'.lock q).waiters.map Prod.fst = (s.lock q).waiters.map Prod.fst := by
      rw [hlock]
      split
      · exact Lock.release_keys _
      · rfl
    rw [hkeys, h.queued q u]
    by_cases hut : u = t
    · rw [hut, hself, hphase]
      exact ⟨nofun, nofun⟩
    · rw [hother u hut]
  · intro q
    rw [hlock]
    split
    · exact (h.sound q).release
    · exact h.sound q
  · intro q u hu
    have hwas : (u, Future.cancelled) ∈ (s.lock q).waiters := by
      rw [hlock] at hu
      split at hu
      · exact Lock.wakeFirst_cancelled (l := { s.lock q with locked := false }) hu
      · exact hu
    by_cases hut : u = t
    · rw [hut] at hwas ⊢
      rw [hself]
      exact h.doomed q t hwas
    · rw [hother u hut]
      exact h.doomed q u hwas

/-- **Every move keeps it.** -/
theorem Inv.step (h : Inv plan s) {m : Move T} (hm : Step s m s') : Inv plan s' := by
  cases hm with
  | take hphase hfree => exact h.take hphase hfree
  | queue hphase hfree => exact h.queue hphase hfree
  | enter hphase => exact h.enter hphase
  | wake hphase hwoken _ => exact h.wake hphase hwoken
  | leave hphase => exact h.leave hphase
  | cancel _ => exact h.cancel _ _
  | unwind hphase _ => exact h.unwind hphase

theorem Inv.moves (h : Inv plan s) {ms : List (Move T)} (hms : s.moves ms = some s') :
    Inv plan s' := by
  induction ms generalizing s with
  | nil =>
    cases hms
    exact h
  | cons m ms ih =>
    obtain ⟨s₁, hm, hms⟩ := Option.bind_eq_some_iff.1 hms
    exact ih (h.step (next_step hm)) hms

end

/-! ## Rest -/

/-- Nobody left with locks of its own. -/
def Clean (s : State T R) : Prop := ∀ t held, (s.task t).phase = .aborted held → held = []

/-- No coroutine can go on. -/
def AtRest (s : State T R) : Prop := ∀ m : Move T, m.isProgress = true → s.next m = none

/-- A coroutine at rest is over, or waits for a lock it was not told of. -/
theorem AtRest.waits (hrest : AtRest s) (t : T) (hover : (s.task t).phase.isOver = false) :
    ∃ held r rest, (s.task t).phase = .waiting held r rest ∧
      (s.task t).cancelRequested = false ∧ (t, Future.woken) ∉ (s.lock r).waiters := by
  have hadvance := hrest (.advance t) rfl
  have hwake := hrest (.wake t) rfl
  have hleave := hrest (.leave t) rfl
  have hunwind := hrest (.unwind t) rfl
  unfold next at hadvance hwake hleave hunwind
  cases hphase : (s.task t).phase with
  | seeking held rest =>
    cases rest with
    | nil => simp [hphase] at hadvance
    | cons r rest =>
      simp only [hphase] at hadvance
      split at hadvance <;> cases hadvance
  | waiting held r rest =>
    refine ⟨held, r, rest, rfl, ?_⟩
    simp only [hphase] at hwake hunwind
    split at hunwind
    · cases hunwind
    · rename_i hrequested
      have hrequested := Bool.eq_false_of_not_eq_true hrequested
      split at hwake
      · cases hwake
      · rename_i hwoken
        exact ⟨hrequested, fun hw => hwoken ⟨hw, hrequested⟩⟩
  | working held => simp [hphase] at hleave
  | finished =>
    rw [hphase] at hover
    cases hover
  | aborted held =>
    rw [hphase] at hover
    cases hover

end State

namespace State

variable [DecidableEq T] [LinearOrder R] {plan : T → List R} {s s' : State T R}

/-- **Nobody waits in a circle.** Where every plan ascends and nobody left with locks, a system at
rest is over: whoever waits for the last lock anybody waits for would wait for somebody that waits
for a later one. -/
theorem Inv.stuck [Finite T] (h : Inv plan s) (hplan : ∀ t, (plan t).Pairwise (· < ·))
    (hclean : Clean s) (hrest : AtRest s) (t : T) : (s.task t).phase.isOver = true := by
  by_contra hnot
  obtain ⟨held₀, r₀, rest₀, hphase₀, -⟩ := hrest.waits t (Bool.eq_false_of_not_eq_true hnot)
  have hfinite : {r | ∃ t, (s.task t).phase.awaits = some r}.Finite := by
    have hrange := Set.finite_range fun t => (s.task t).phase.awaits
    refine (hrange.preimage (Option.some_injective R).injOn).subset ?_
    rintro r ⟨t, ht⟩
    exact ⟨t, ht⟩
  have hsome : (s.task t).phase.awaits = some r₀ := by rw [hphase₀]; rfl
  obtain ⟨r, ⟨v, hv⟩, hlast⟩ := hfinite.exists_maximal ⟨r₀, t, hsome⟩
  have hqueued := (h.queued r v).2 hv
  cases hlocked : (s.lock r).locked with
  | false =>
    -- its first waiter was told, or is on its way out
    obtain ⟨⟨u, future⟩, hu⟩ : ∃ x, (s.lock r).waiters.head? = some x := by
      cases hw : (s.lock r).waiters with
      | nil =>
        rw [hw] at hqueued
        cases hqueued
      | cons x rest => exact ⟨x, rfl⟩
    have hmem : (u, future) ∈ (s.lock r).waiters := List.mem_of_head? hu
    have hawaits := (h.queued r u).1 (List.mem_map_of_mem hmem)
    have hover : (s.task u).phase.isOver = false := by
      cases hphase : (s.task u).phase with
      | waiting _ _ _ => rfl
      | _ => rw [hphase] at hawaits; cases hawaits
    obtain ⟨held, r', rest, hphase, hrequested, hwoken⟩ := hrest.waits u hover
    rw [hphase] at hawaits
    obtain rfl := Option.some.inj hawaits
    cases future with
    | pending => exact (h.sound _).first hlocked _ hu rfl
    | woken => exact hwoken hmem
    | cancelled =>
      rw [h.doomed _ _ hmem] at hrequested
      cases hrequested
  | true =>
    -- its owner waits for a later one
    obtain ⟨u, hu⟩ := (h.held r).1 hlocked
    have hover : (s.task u).phase.isOver = false := by
      cases hphase : (s.task u).phase with
      | finished =>
        rw [hphase] at hu
        exact absurd hu List.not_mem_nil
      | aborted held =>
        rw [hphase, hclean u held hphase] at hu
        exact absurd hu List.not_mem_nil
      | _ => rfl
    obtain ⟨held, r', rest, hphase, -⟩ := hrest.waits u hover
    have hplanned := h.planned u
    rw [hphase, Phase.Follows] at hplanned
    rw [hphase] at hu
    have hascends := hplan u
    rw [← hplanned, List.pairwise_append] at hascends
    have hlt : r < r' := hascends.2.2 r hu r' List.mem_cons_self
    exact absurd (hlast ⟨u, by rw [hphase]; rfl⟩ hlt.le) (not_le.2 hlt)

/-- **At rest every lock is free.** -/
theorem Inv.unlocked [Finite T] (h : Inv plan s) (hplan : ∀ t, (plan t).Pairwise (· < ·))
    (hclean : Clean s) (hrest : AtRest s) (r : R) : (s.lock r).locked = false := by
  by_contra hlocked
  obtain ⟨t, ht⟩ := (h.held r).1 (Bool.eq_true_of_not_eq_false hlocked)
  have hover := h.stuck hplan hclean hrest t
  cases hphase : (s.task t).phase with
  | finished =>
    rw [hphase] at ht
    cases ht
  | aborted held =>
    rw [hphase, hclean t held hphase] at ht
    cases ht
  | _ =>
    rw [hphase] at hover
    cases hover

/-! ## How far it is to rest -/

variable [Fintype T]

/-- The moves the coroutines have before them at most. -/
def ahead (s : State T R) : ℕ := ∑ t, (s.task t).phase.ahead

omit [LinearOrder R] in
theorem ahead_update {t : T} {x : Task R} (h : s'.task = Function.update s.task t x) :
    s'.ahead + (s.task t).phase.ahead = s.ahead + x.phase.ahead := by
  have hrest : ∑ u ∈ Finset.univ.erase t, (s'.task u).phase.ahead =
      ∑ u ∈ Finset.univ.erase t, (s.task u).phase.ahead := by
    refine Finset.sum_congr rfl fun u hu => ?_
    rw [h, Function.update_of_ne (Finset.ne_of_mem_erase hu)]
  have hself : (s'.task t).phase.ahead = x.phase.ahead := by
    rw [h, Function.update_self]
  have hnew : s'.ahead = (s'.task t).phase.ahead +
      ∑ u ∈ Finset.univ.erase t, (s'.task u).phase.ahead :=
    (Finset.add_sum_erase _ _ (Finset.mem_univ t)).symm
  have hold : s.ahead = (s.task t).phase.ahead +
      ∑ u ∈ Finset.univ.erase t, (s.task u).phase.ahead :=
    (Finset.add_sum_erase _ _ (Finset.mem_univ t)).symm
  omega

/-- **Each move but a cancellation is one less to make.** -/
theorem Step.ahead_le {m : Move T} (hm : Step s m s') :
    (if m.isProgress = true then 1 else 0) + s'.ahead ≤ s.ahead := by
  have hone : ∀ {t : T} {x : Task R}, s'.task = Function.update s.task t x →
      x.phase.ahead < (s.task t).phase.ahead → 1 + s'.ahead ≤ s.ahead := by
    intro t x htask hlt
    have hupdate := ahead_update htask
    omega
  have hsame : ∀ {t : T} {x : Task R}, s'.task = Function.update s.task t x →
      x.phase.ahead = (s.task t).phase.ahead → 0 + s'.ahead ≤ s.ahead := by
    intro t x htask heq
    have hupdate := ahead_update htask
    omega
  cases hm with
  | take hphase _ =>
    refine hone rfl ?_
    rw [hphase]
    simp [Phase.ahead]
  | queue hphase _ =>
    refine hone rfl ?_
    rw [hphase]
    simp only [Phase.ahead, List.length_cons]
    omega
  | enter hphase =>
    refine hone rfl ?_
    rw [hphase]
    simp [Phase.ahead]
  | wake hphase _ _ =>
    refine hone rfl ?_
    rw [hphase]
    simp [Phase.ahead]
  | leave hphase =>
    refine hone (congrArg (Function.update · _ _) (releaseAll_task s _)) ?_
    rw [hphase]
    exact Nat.zero_lt_one
  | cancel hphase => exact hsame rfl rfl
  | unwind hphase _ =>
    refine hone rfl ?_
    rw [hphase]
    simp [Phase.ahead]

/-- **A bound on the moves of a run.** -/
theorem moves_ahead {ms : List (Move T)} (h : s.moves ms = some s') :
    (ms.filter Move.isProgress).length + s'.ahead ≤ s.ahead := by
  induction ms generalizing s with
  | nil =>
    cases h
    simp
  | cons m ms ih =>
    obtain ⟨s₁, hm, hms⟩ := Option.bind_eq_some_iff.1 h
    have hfirst := (next_step hm).ahead_le
    have hrest := ih hms
    by_cases hprogress : m.isProgress = true
    · rw [if_pos hprogress] at hfirst
      rw [List.filter_cons_of_pos hprogress, List.length_cons]
      omega
    · rw [if_neg hprogress] at hfirst
      rw [List.filter_cons_of_neg hprogress]
      omega

/-- **Every system can come to rest**: as long as it has not, there is a move to make. -/
theorem exists_rest (s : State T R) :
    ∃ ms s', (∀ m ∈ ms, m.isProgress = true) ∧ s.moves ms = some s' ∧ AtRest s' := by
  induction hn : s.ahead using Nat.strong_induction_on generalizing s with
  | _ n ih =>
    by_cases hrest : AtRest s
    · exact ⟨[], s, nofun, rfl, hrest⟩
    · obtain ⟨m, hm⟩ := not_forall.1 hrest
      obtain ⟨hprogress, hm⟩ := Classical.not_imp.1 hm
      obtain ⟨s₁, hs₁⟩ := Option.ne_none_iff_exists'.1 hm
      have hless := (next_step hs₁).ahead_le
      rw [if_pos hprogress] at hless
      obtain ⟨ms, s', hms, hmoves, hrest'⟩ := ih s₁.ahead (by omega) s₁ rfl
      refine ⟨m :: ms, s', ?_, ?_, hrest'⟩
      · exact List.forall_mem_cons.2 ⟨hprogress, hms⟩
      · rw [moves, hs₁]
        exact hmoves

/-! ## Locks that stay taken -/

omit [Fintype T] in
/-- Who left does not come back, and keeps what it had. -/
theorem Step.aborted {m : Move T} (hm : Step s m s') {t : T} {held : List R}
    (h : (s.task t).phase = .aborted held) : (s'.task t).phase = .aborted held := by
  have hother : ∀ {u : T} {x : Task R}, s'.task = Function.update s.task u x →
      (s.task u).phase ≠ .aborted held → (s'.task t).phase = .aborted held := by
    intro u x htask hne
    by_cases htu : t = u
    · exact absurd (htu ▸ h) hne
    · rw [htask, Function.update_of_ne htu]
      exact h
  cases hm with
  | leave hphase =>
    exact hother (congrArg (Function.update · _ _) (releaseAll_task s _))
      (by rw [hphase]; exact nofun)
  | take hphase _ | queue hphase _ | enter hphase | wake hphase _ _ | cancel hphase
    | unwind hphase _ => exact hother rfl (by rw [hphase]; exact nofun)

omit [Fintype T] in
theorem moves_aborted {ms : List (Move T)} (hms : s.moves ms = some s') {t : T} {held : List R}
    (h : (s.task t).phase = .aborted held) : (s'.task t).phase = .aborted held := by
  induction ms generalizing s with
  | nil =>
    cases hms
    exact h
  | cons m ms ih =>
    obtain ⟨s₁, hm, hms⟩ := Option.bind_eq_some_iff.1 hms
    exact ih hms ((next_step hm).aborted h)

end State

end AsyncLock
