import Mathlib.Data.List.AList
import ServerPilot.Lib.Leads

/-!
# One worker for each key

A supervisor keeps a table from keys to tasks. A pass over the keys that are wanted starts a task
for each that has none at work, and cancels and drops the others; a task may end at any time, and
a cancelled one takes its time. `Table.Sound` is what every event keeps: the table holds no
cancelled task, and every task at work is in it, under its key. So no key has two tasks at work
(`Table.Sound.one`), and a pass leaves exactly the wanted keys with one (`works_pass`).
-/

namespace Supervise

/-- A task: the key it works for, whether it was cancelled, and whether it ended. -/
structure Task (κ : Type*) where
  key : κ
  cancelled : Bool := false
  done : Bool := false
  deriving DecidableEq, Repr

/-- The supervisor's table, by key, and the tasks it made, by number. -/
structure Table (κ : Type*) where
  entries : AList fun _ : κ => ℕ := ∅
  tasks : List (Task κ) := []

variable {κ : Type*}

namespace Task

variable {t : Task κ}

def working (t : Task κ) : Bool := !t.cancelled && !t.done

/-- A task that ended is not cancelled any more. -/
def cancel (t : Task κ) : Task κ := if t.done then t else { t with cancelled := true }

def finish (t : Task κ) : Task κ := { t with done := true }

@[simp] theorem cancel_key (t : Task κ) : t.cancel.key = t.key := by
  unfold cancel
  split <;> rfl

@[simp] theorem cancel_working (t : Task κ) : t.cancel.working = false := by
  unfold cancel working
  split
  · rename_i h
    simp [h]
  · rfl

@[simp] theorem finish_working (t : Task κ) : t.finish.working = false := by
  unfold finish working
  simp

end Task

namespace Table

variable [DecidableEq κ] (s : Table κ)

/-- The task of a key. -/
def task? (k : κ) : Option (Task κ) := (s.entries.lookup k).bind fun i => s.tasks[i]?

/-- Start a task for a key. -/
def start (k : κ) : Table κ :=
  { entries := s.entries.insert k s.tasks.length, tasks := s.tasks ++ [{ key := k }] }

/-- Start a task for a key that has none, or whose task ended. -/
def ensure (k : κ) : Table κ :=
  match s.task? k with
  | none => s.start k
  | some t => if t.done then s.start k else s

/-- Cancel the task of a key. -/
def cancelAt (k : κ) : Table κ :=
  match s.entries.lookup k with
  | none => s
  | some i => { s with tasks := s.tasks.modify i Task.cancel }

/-- Drop a key, and cancel its task. -/
def drop (k : κ) : Table κ := { s.cancelAt k with entries := s.entries.erase k }

/-- One pass. -/
def pass (wanted : List κ) : Table κ :=
  let s := wanted.foldl ensure s
  (s.entries.keys.filter fun k => k ∉ wanted).foldl drop s

/-- Cancel all of them. -/
def cancelAll : Table κ := s.entries.keys.foldl cancelAt s

/-- A task ends. -/
def ends (i : ℕ) : Table κ := { s with tasks := s.tasks.modify i Task.finish }

/-- A key has a task at work. -/
def Works (k : κ) : Prop :=
  ∃ (i : ℕ) (t : Task κ), s.tasks[i]? = some t ∧ t.working = true ∧ t.key = k

/-- What the table says of the tasks. -/
structure Sound : Prop where
  entry : ∀ k i, s.entries.lookup k = some i → ∃ t, s.tasks[i]? = some t ∧ t.key = k ∧
    t.cancelled = false
  worker : ∀ i t, s.tasks[i]? = some t → t.working = true → s.entries.lookup t.key = some i

section

variable {s} {k k' : κ} {i j : ℕ} {t u : Task κ} {f : Task κ → Task κ} {wanted : List κ}

theorem Sound.empty : (({} : Table κ)).Sound :=
  ⟨fun _ _ h => (by cases h), fun _ _ h => (by cases h)⟩

/-- **No key has two tasks at work.** -/
theorem Sound.one (hs : s.Sound) (hi : s.tasks[i]? = some t) (hj : s.tasks[j]? = some u)
    (ht : t.working = true) (hu : u.working = true) (h : t.key = u.key) : i = j := by
  have hit := hs.worker i t hi ht
  have hju := hs.worker j u hj hu
  rw [h, hju] at hit
  exact (Option.some.inj hit).symm

omit [DecidableEq κ] in
/-- A task after one of them changed. -/
theorem task_modify (h : (s.tasks.modify i f)[j]? = some t) :
    ∃ u, s.tasks[j]? = some u ∧ t = if i = j then f u else u := by
  rw [List.getElem?_modify] at h
  obtain ⟨u, hu, ht⟩ := Option.map_eq_some_iff.1 h
  exact ⟨u, hu, ht.symm⟩

omit [DecidableEq κ] in
theorem modify_task (h : s.tasks[j]? = some u) :
    (s.tasks.modify i f)[j]? = some (if i = j then f u else u) := by
  rw [List.getElem?_modify, h]
  rfl

/-! ## Starting -/

theorem start_task (h : s.tasks[i]? = some t) : (s.start k).tasks[i]? = some t := by
  obtain ⟨hi, -⟩ := List.getElem?_eq_some_iff.1 h
  exact (List.getElem?_append_left hi).trans h

/-- A task is started where none is at work. -/
theorem Sound.start (hs : s.Sound) (h : ¬ s.Works k) : (s.start k).Sound := by
  constructor
  · intro k' i hlookup
    by_cases hk : k' = k
    · subst hk
      obtain rfl : s.tasks.length = i := Option.some.inj ((AList.lookup_insert s.entries).symm.trans
        hlookup)
      exact ⟨{ key := k' }, List.getElem?_concat_length, rfl, rfl⟩
    · obtain ⟨t, ht, hkey, hcancelled⟩ := hs.entry k' i
        ((AList.lookup_insert_ne hk).symm.trans hlookup)
      exact ⟨t, start_task ht, hkey, hcancelled⟩
  · intro i t ht hwork
    by_cases hi : i < s.tasks.length
    · have hold : s.tasks[i]? = some t := (List.getElem?_append_left hi).symm.trans ht
      have hne : t.key ≠ k := fun hk => h ⟨i, t, hold, hwork, hk⟩
      exact (AList.lookup_insert_ne hne).trans (hs.worker i t hold hwork)
    · -- the new one
      have hnew := (List.getElem?_append_right (not_lt.1 hi)).symm.trans ht
      obtain ⟨hlen, rfl⟩ : i - s.tasks.length = 0 ∧ ({ key := k } : Task κ) = t := by
        rw [List.getElem?_singleton] at hnew
        split at hnew
        · exact ⟨‹_›, Option.some.inj hnew⟩
        · cases hnew
      have hlast : i = s.tasks.length := by omega
      rw [hlast]
      exact AList.lookup_insert s.entries

theorem works_start (k : κ) (s : Table κ) : (s.start k).Works k :=
  ⟨s.tasks.length, { key := k }, List.getElem?_concat_length, rfl, rfl⟩

theorem Sound.not_works (hs : s.Sound) (h : ∀ t ∈ s.task? k, t.done = true) : ¬ s.Works k := by
  rintro ⟨i, t, ht, hwork, rfl⟩
  have hlookup := hs.worker i t ht hwork
  have hdone := h t (by unfold task?; rw [hlookup]; exact ht)
  unfold Task.working at hwork
  simp [hdone] at hwork

/-- Either the key has a task at work already, or one is started. -/
theorem Sound.ensure_cases (hs : s.Sound) (k : κ) :
    (s.Works k ∧ s.ensure k = s) ∨ (¬ s.Works k ∧ s.ensure k = s.start k) := by
  unfold ensure
  cases htask : s.task? k with
  | none => exact Or.inr ⟨hs.not_works (by simp [htask]), rfl⟩
  | some t =>
    dsimp only
    cases hdone : t.done with
    | true => exact Or.inr ⟨hs.not_works (by simp [htask, hdone]), if_pos rfl⟩
    | false =>
      obtain ⟨i, hlookup, ht⟩ := Option.bind_eq_some_iff.1 htask
      obtain ⟨u, hu, hkey, hcancelled⟩ := hs.entry k i hlookup
      obtain rfl : t = u := Option.some.inj (ht.symm.trans hu)
      refine Or.inl ⟨⟨i, t, ht, ?_, hkey⟩, if_neg Bool.false_ne_true⟩
      unfold Task.working
      rw [hcancelled, hdone]
      rfl

theorem Sound.ensure (hs : s.Sound) (k : κ) : (s.ensure k).Sound := by
  rcases hs.ensure_cases k with ⟨-, he⟩ | ⟨hno, he⟩
  · rwa [he]
  · rw [he]
    exact hs.start hno

theorem Sound.works_ensure (hs : s.Sound) (k : κ) : (s.ensure k).Works k := by
  rcases hs.ensure_cases k with ⟨hyes, he⟩ | ⟨-, he⟩
  · rwa [he]
  · rw [he]
    exact works_start k s

/-- What is there stays. -/
theorem Sound.ensure_task (hs : s.Sound) (k : κ) (h : s.tasks[i]? = some t) :
    (s.ensure k).tasks[i]? = some t := by
  rcases hs.ensure_cases k with ⟨-, he⟩ | ⟨-, he⟩
  · rwa [he]
  · rw [he]
    exact start_task h

/-! ## Cancelling -/

theorem cancelAt_entries (k : κ) (s : Table κ) : (s.cancelAt k).entries = s.entries := by
  unfold cancelAt
  split <;> rfl

/-- A task after a cancellation: that of the key is cancelled, and the others are as they were. -/
theorem cancelAt_task (h : (s.cancelAt k).tasks[j]? = some t) :
    ∃ u, s.tasks[j]? = some u ∧ t = if s.entries.lookup k = some j then u.cancel else u := by
  unfold cancelAt at h
  cases hlookup : s.entries.lookup k with
  | none =>
    rw [hlookup] at h
    exact ⟨t, h, by simp⟩
  | some i =>
    rw [hlookup] at h
    obtain ⟨u, hu, rfl⟩ := task_modify h
    exact ⟨u, hu, by simp⟩

theorem task_cancelAt (h : s.tasks[j]? = some u) (hne : s.entries.lookup k ≠ some j) :
    (s.cancelAt k).tasks[j]? = some u := by
  unfold cancelAt
  cases hlookup : s.entries.lookup k with
  | none => exact h
  | some i =>
    dsimp only
    rw [modify_task h, if_neg fun hij : i = j => hne (hij ▸ hlookup)]

theorem drop_lookup (k' : κ) (s : Table κ) :
    (s.drop k').entries.lookup k = if k = k' then none else s.entries.lookup k := by
  by_cases h : k = k'
  · subst h
    rw [if_pos rfl]
    exact AList.lookup_erase k s.entries
  · rw [if_neg h]
    exact AList.lookup_erase_ne h

theorem Sound.drop (hs : s.Sound) (k : κ) : (s.drop k).Sound := by
  constructor
  · intro k' i hlookup
    rw [drop_lookup] at hlookup
    split at hlookup
    · cases hlookup
    rename_i hne
    obtain ⟨t, ht, hkey, hcancelled⟩ := hs.entry k' i hlookup
    refine ⟨t, task_cancelAt ht fun hk => hne ?_, hkey, hcancelled⟩
    -- one task is not of two keys
    obtain ⟨u, hu, hukey, -⟩ := hs.entry k i hk
    obtain rfl : t = u := Option.some.inj (ht.symm.trans hu)
    exact hkey.symm.trans hukey
  · intro i t ht hwork
    obtain ⟨u, hu, rfl⟩ := cancelAt_task ht
    by_cases hk : s.entries.lookup k = some i
    · rw [if_pos hk, Task.cancel_working] at hwork
      cases hwork
    · rw [if_neg hk] at hwork ⊢
      have hlookup := hs.worker i u hu hwork
      rw [drop_lookup, if_neg fun hkey : u.key = k => hk (hkey ▸ hlookup)]
      exact hlookup

/-- A task of another key is left alone. -/
theorem Sound.drop_task (hs : s.Sound) (h : s.tasks[i]? = some t) (hne : t.key ≠ k) :
    (s.drop k).tasks[i]? = some t := by
  refine task_cancelAt h fun hk => hne ?_
  obtain ⟨u, hu, hkey, -⟩ := hs.entry k i hk
  obtain rfl : t = u := Option.some.inj (h.symm.trans hu)
  exact hkey

/-! ## Events -/

theorem Sound.ends (hs : s.Sound) (i : ℕ) : (s.ends i).Sound := by
  constructor
  · intro k j hlookup
    obtain ⟨t, ht, hkey, hcancelled⟩ := hs.entry k j hlookup
    refine ⟨_, modify_task ht, ?_⟩
    split
    · exact ⟨hkey, hcancelled⟩
    · exact ⟨hkey, hcancelled⟩
  · intro j t ht hwork
    obtain ⟨u, hu, rfl⟩ := task_modify ht
    by_cases hij : i = j
    · rw [if_pos hij, Task.finish_working] at hwork
      cases hwork
    · rw [if_neg hij] at hwork ⊢
      exact hs.worker j u hu hwork

theorem Sound.ensured (hs : s.Sound) (wanted : List κ) :
    (wanted.foldl Table.ensure s).Sound ∧ ∀ k ∈ wanted, (wanted.foldl Table.ensure s).Works k := by
  refine Run.foldl_settles (I := fun s : Table κ => s.Sound) (Q := fun s k => s.Works k)
    (fun s k _ hs => hs.ensure k) ?_ (fun s k _ hs => hs.works_ensure k) hs
  rintro s k k' hs ⟨i, t, ht, hwork, hkey⟩
  exact ⟨i, t, hs.ensure_task k ht, hwork, hkey⟩

theorem Sound.pass (hs : s.Sound) (wanted : List κ) : (s.pass wanted).Sound :=
  Run.foldl_inv (I := fun s : Table κ => s.Sound) (fun _ k _ hs => hs.drop k) (hs.ensured wanted).1

/-- **A pass leaves the tasks of the wanted keys alone.** -/
theorem Sound.pass_task (hs : s.Sound) (h : s.tasks[i]? = some t) (hk : t.key ∈ wanted) :
    (s.pass wanted).tasks[i]? = some t := by
  have hensured : (wanted.foldl Table.ensure s).Sound ∧
      (wanted.foldl Table.ensure s).tasks[i]? = some t :=
    Run.foldl_inv (I := fun s : Table κ => s.Sound ∧ s.tasks[i]? = some t)
      (fun _ k _ hs => ⟨hs.1.ensure k, hs.1.ensure_task k hs.2⟩) ⟨hs, h⟩
  refine (Run.foldl_inv (I := fun s : Table κ => s.Sound ∧ s.tasks[i]? = some t) ?_ hensured).2
  intro s k hmem hs
  have hnot : k ∉ wanted := of_decide_eq_true (List.mem_filter.1 hmem).2
  exact ⟨hs.1.drop k, hs.1.drop_task hs.2 fun hkey => hnot (hkey ▸ hk)⟩

/-- A key a pass does not want has no entry left. -/
theorem pass_lookup (s : Table κ) (hk : k ∉ wanted) : (s.pass wanted).entries.lookup k = none := by
  unfold pass
  dsimp only
  set s₁ := wanted.foldl Table.ensure s
  have hstays : ∀ (s : Table κ) (k' k : κ), True → s.entries.lookup k = none →
      (s.drop k').entries.lookup k = none := by
    intro s k' k _ h
    rw [drop_lookup, h]
    exact ite_self none
  by_cases hmem : k ∈ s₁.entries.keys
  · exact (Run.foldl_settles (Q := fun (s : Table κ) k => s.entries.lookup k = none)
      (fun _ _ _ _ => trivial) hstays
      (fun s k _ _ => by rw [drop_lookup, if_pos rfl]) trivial).2 k
      (List.mem_filter.2 ⟨hmem, decide_eq_true hk⟩)
  · exact Run.foldl_inv (I := fun s : Table κ => s.entries.lookup k = none)
      (fun s k' _ h => hstays s k' k trivial h) (AList.lookup_eq_none.2 hmem)

/-- **After a pass exactly the wanted keys have a task at work.** -/
theorem Sound.works_pass (hs : s.Sound) : (s.pass wanted).Works k ↔ k ∈ wanted := by
  constructor
  · rintro ⟨i, t, ht, hwork, rfl⟩
    by_contra hk
    have hlookup := (hs.pass wanted).worker i t ht hwork
    rw [pass_lookup s hk] at hlookup
    cases hlookup
  · intro hk
    obtain ⟨hsound, hworks⟩ := hs.ensured wanted
    refine (Run.foldl_inv (I := fun s : Table κ => s.Sound ∧ s.Works k) ?_
      ⟨hsound, hworks k hk⟩).2
    rintro s k' hmem ⟨hs, i, t, ht, hwork, rfl⟩
    have hnot : k' ∉ wanted := of_decide_eq_true (List.mem_filter.1 hmem).2
    exact ⟨hs.drop k', i, t, hs.drop_task ht fun hkey => hnot (hkey ▸ hk), hwork, rfl⟩

/-- **A task that is cancelled with the whole table is at work no more.** -/
theorem Sound.cancelAll (hs : s.Sound) (h : s.cancelAll.tasks[i]? = some t) :
    t.working = false := by
  -- nothing starts on the way, and the task of each key is cancelled at its turn
  have hback : ∀ (s' : Table κ) (k : κ) (i : ℕ) (t : Task κ),
      (s'.cancelAt k).tasks[i]? = some t →
        ∃ u, s'.tasks[i]? = some u ∧ u.key = t.key ∧ (t.working = true → t = u) := by
    intro s' k i t h
    obtain ⟨u, hu, rfl⟩ := cancelAt_task h
    refine ⟨u, hu, ?_⟩
    split
    · exact ⟨(Task.cancel_key u).symm, fun hwork => by simp at hwork⟩
    · exact ⟨rfl, fun _ => rfl⟩
  have hall := (Run.foldl_settles (f := Table.cancelAt) (l := s.entries.keys)
    (I := fun s' : Table κ => s'.entries = s.entries ∧ ∀ (i : ℕ) (t : Task κ),
      s'.tasks[i]? = some t → t.working = true → s.tasks[i]? = some t)
    (Q := fun s' k => ∀ (i : ℕ) (t : Task κ), s.entries.lookup k = some i → s'.tasks[i]? = some t →
      t.working = false) ?_ ?_ ?_ (t := s) ⟨rfl, fun _ _ h _ => h⟩)
  · by_contra hwork
    rw [Bool.not_eq_false] at hwork
    have hlookup := hs.worker i t (hall.1.2 i t h hwork) hwork
    have hkey : t.key ∈ s.entries.keys := AList.lookup_isSome.1 (by rw [hlookup]; rfl)
    have hdone := hall.2 t.key hkey i t hlookup h
    rw [hwork] at hdone
    cases hdone
  · intro s' k _ hs'
    refine ⟨(cancelAt_entries k s').trans hs'.1, fun i t ht hwork => ?_⟩
    obtain ⟨u, hu, -, hsame⟩ := hback s' k i t ht
    obtain rfl := hsame hwork
    exact hs'.2 i t hu hwork
  · intro s' k k' _ hturn i t hlookup ht
    obtain ⟨u, hu, -, hsame⟩ := hback s' k i t ht
    cases hwork : t.working with
    | false => rfl
    | true =>
      have hidle := hturn i u hlookup hu
      rw [hsame hwork, hidle] at hwork
      cases hwork
  · intro s' k _ hs' i t hlookup ht
    obtain ⟨u, -, rfl⟩ := cancelAt_task ht
    rw [hs'.1, if_pos hlookup, Task.cancel_working]

end

end Table

end Supervise
