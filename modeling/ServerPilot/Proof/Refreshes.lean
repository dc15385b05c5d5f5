import ServerPilot.Lib.Run
import ServerPilot.Lib.Serial
import ServerPilot.Spec.BrokerStore

/-!
# Refresh tasks

The task a store waits for is the one it has started and not invalidated; the flags
`isRefreshing`, `pendingRefresh` and the discard mark say what they seem to say
(`coherent_step`). What a store shows changes only when the snapshot of that task, not
marked, has reached the required revision (`step_known`).
-/

namespace ServerPilot.Desktop

open Serial

variable {ρ : RecordKind → Type} {s t : BrokerStore ρ} {e : Event ρ} {task : RefreshTask}
  {now : Time}

/-! ## Tasks -/

/-- What a store knows of its refresh tasks. -/
structure Work where
  client : Option ℕ
  refreshing : Bool
  active : Option RefreshTask
  pending : Bool
  generation : UInt64
  discarded : Option UInt64
  tasks : List RefreshTask
  turns : ℕ
  retired : ℕ
  started : ℕ

def BrokerStore.work (s : BrokerStore ρ) : Work :=
  { client := s.snapshotClient, refreshing := s.isRefreshing, active := s.activeRefreshTask
    pending := s.pendingRefresh, generation := s.refreshGeneration
    discarded := s.discardedRefreshGeneration, tasks := s.tasks, turns := s.turns
    retired := s.retired, started := s.started }

namespace Work

variable (w : Work)

/-- The task was neither invalidated nor has it reported back. -/
def Live (task : RefreshTask) : Prop := task ∈ w.tasks ∧ w.retired < task.turn

/-- What holds between the counters and the tasks. -/
structure Timed : Prop where
  generation : w.generation = serial w.turns
  numbered : ∀ task ∈ w.tasks, task.generation = serial task.turn
  started : ∀ task ∈ w.tasks, task.turn ≤ w.started
  startedLe : w.started ≤ w.turns
  retiredLe : w.retired ≤ w.turns
  apart : ∀ task ∈ w.tasks, task.turn ≠ w.retired
  once : w.tasks.Nodup
  active : ∀ task, w.active = some task ↔ w.Live task
  latest : ∀ task, w.active = some task → task.turn = w.turns ∧ w.client = some task.service

/-- What the flags say. -/
structure Coherent : Prop extends Timed w where
  refreshing : w.refreshing = w.active.isSome
  pending : w.pending = true → w.active.isSome = true
  discarded : ∀ g ∈ w.discarded, g = w.generation ∧ w.pending = true

/-! ### Operations -/

/-- Nobody is waited for. -/
def invalidate : Work :=
  { w with
    generation := w.generation + 1, pending := false, discarded := none, active := none
    refreshing := false, turns := w.turns + 1, retired := w.turns + 1 }

/-- A task of `service` is started, and waited for. -/
def start (service : ℕ) (actorID : String) : Work :=
  let task : RefreshTask :=
    { generation := w.generation + 1, service, actorID, turn := w.turns + 1 }
  { w with
    generation := w.generation + 1, refreshing := true, active := some task
    tasks := task :: w.tasks, turns := w.turns + 1, started := w.turns + 1 }

/-- A task reports back. -/
def report (task : RefreshTask) : Work :=
  { w with
    tasks := w.tasks.erase task
    active := if w.active = some task then none else w.active }

variable {w}

namespace Timed

variable (hw : w.Timed)

include hw

/-- A task that carries the generation in force is the one waited for. -/
theorem active_of_generation (hm : task ∈ w.tasks) (hg : task.generation = w.generation)
    (hyoung : w.turns < task.turn + 2 ^ 64) : w.active = some task := by
  have hturn : task.turn = w.turns := by
    rw [hw.numbered task hm, hw.generation] at hg
    exact eq_of_serial_eq hg ((hw.started task hm).trans hw.startedLe) hyoung
  have hne := hw.apart task hm
  have hle := hw.retiredLe
  exact (hw.active task).2 ⟨hm, by omega⟩

/-- And the one waited for carries it. -/
theorem generation_of_active (ha : w.active = some task) :
    task ∈ w.tasks ∧ task.generation = w.generation := by
  have hm := ((hw.active task).1 ha).1
  refine ⟨hm, ?_⟩
  rw [hw.numbered task hm, hw.generation, (hw.latest task ha).1]

theorem turn_le (hm : task ∈ w.tasks) :
    task.turn ≤ w.turns := (hw.started task hm).trans hw.startedLe

theorem invalidate : w.invalidate.Timed where
  generation := by
    change w.generation + 1 = serial (w.turns + 1)
    rw [hw.generation, serial_succ]
  numbered := hw.numbered
  started := hw.started
  startedLe := hw.startedLe.trans (Nat.le_succ _)
  retiredLe := le_rfl
  apart := by
    intro task hm
    have hle := hw.turn_le hm
    change task.turn ≠ w.turns + 1
    omega
  once := hw.once
  active := by
    intro task
    refine ⟨fun h => (by cases h), fun h => ?_⟩
    have hle := hw.turn_le h.1
    have hlt : w.turns + 1 < task.turn := h.2
    omega
  latest := by
    intro task h
    cases h

/-- The task that starts is the only one waited for, if there was none. -/
theorem start (hidle : w.active = none) {service : ℕ} (hc : w.client = some service)
    (actorID : String) : (w.start service actorID).Timed := by
  have hdead : ∀ task ∈ w.tasks, task.turn ≤ w.retired := by
    intro task hm
    by_contra hlt
    have hlive := (hw.active task).2 ⟨hm, by omega⟩
    rw [hidle] at hlive
    cases hlive
  have hle := hw.retiredLe
  constructor
  case generation =>
    change w.generation + 1 = serial (w.turns + 1)
    rw [hw.generation, serial_succ]
  case numbered =>
    intro task hm
    rcases List.mem_cons.1 hm with rfl | hm
    · change w.generation + 1 = serial (w.turns + 1)
      rw [hw.generation, serial_succ]
    · exact hw.numbered task hm
  case started =>
    intro task hm
    rcases List.mem_cons.1 hm with rfl | hm
    · exact le_rfl
    · exact (hw.turn_le hm).trans (Nat.le_succ _)
  case startedLe => exact le_rfl
  case retiredLe => exact hle.trans (Nat.le_succ _)
  case apart =>
    intro task hm
    rcases List.mem_cons.1 hm with rfl | hm
    · change w.turns + 1 ≠ w.retired
      omega
    · exact hw.apart task hm
  case once =>
    refine List.nodup_cons.2 ⟨fun hm => ?_, hw.once⟩
    have hlt := hw.turn_le hm
    change w.turns + 1 ≤ w.turns at hlt
    omega
  case active =>
    intro task
    constructor
    · intro h
      obtain rfl := Option.some.inj h
      refine ⟨List.mem_cons_self, ?_⟩
      change w.retired < w.turns + 1
      omega
    · rintro ⟨hm, hlt⟩
      rcases List.mem_cons.1 hm with rfl | hm
      · rfl
      · have hdead := hdead task hm
        change w.retired < task.turn at hlt
        omega
  case latest =>
    intro task h
    obtain rfl := Option.some.inj h
    exact ⟨rfl, hc⟩

/-- A task that reported back is waited for no longer. -/
theorem report (task : RefreshTask) : (w.report task).Timed := by
  have hsub : ∀ {other}, other ∈ w.tasks.erase task ↔ other ≠ task ∧ other ∈ w.tasks :=
    hw.once.mem_erase_iff
  constructor
  case generation => exact hw.generation
  case numbered => exact fun other h => hw.numbered other (hsub.1 h).2
  case started => exact fun other h => hw.started other (hsub.1 h).2
  case startedLe => exact hw.startedLe
  case retiredLe => exact hw.retiredLe
  case apart => exact fun other h => hw.apart other (hsub.1 h).2
  case once => exact hw.once.erase task
  case active =>
    intro other
    unfold Work.report
    constructor
    · intro h
      dsimp only at h
      split at h
      · cases h
      · rename_i hother
        have hlive := (hw.active other).1 h
        refine ⟨hsub.2 ⟨fun heq => ?_, hlive.1⟩, hlive.2⟩
        rw [heq] at h
        exact hother h
    · rintro ⟨h, hlt⟩
      obtain ⟨hne, hmem⟩ := hsub.1 h
      have hactive := (hw.active other).2 ⟨hmem, hlt⟩
      dsimp only
      rw [if_neg]
      · exact hactive
      · intro htask
        exact hne (Option.some.inj (hactive.symm.trans htask))
  case latest =>
    intro other h
    unfold Work.report at h
    dsimp only at h
    split at h
    · cases h
    · exact hw.latest other h

end Timed

namespace Coherent

variable (hw : w.Coherent)

include hw

theorem invalidate : w.invalidate.Coherent where
  toTimed := hw.toTimed.invalidate
  refreshing := rfl
  pending := by
    intro h
    cases h
  discarded := by
    intro g h
    cases h

theorem discarded_idle (hidle : w.active = none) : w.discarded = none := by
  cases hd : w.discarded with
  | none => rfl
  | some g =>
    have hactive := hw.pending (hw.discarded g hd).2
    rw [hidle] at hactive
    cases hactive

/-- Whoever asks while a task is waited for is remembered. -/
theorem pend (ha : w.active.isSome = true) : { w with pending := true }.Coherent :=
  { hw with
    pending := fun _ => ha
    discarded := fun g h => ⟨(hw.discarded g h).1, rfl⟩ }

/-- The task waited for is marked. -/
theorem mark (ha : w.active.isSome = true) :
    { w with discarded := some w.generation, pending := true }.Coherent :=
  { hw with
    pending := fun _ => ha
    discarded := fun _ h => ⟨(Option.some.inj h).symm, rfl⟩ }

end Coherent

/-- A task starts when none is waited for and none is marked. -/
theorem Timed.coherent_start (hw : w.Timed) (hidle : w.active = none) (hd : w.discarded = none)
    {service : ℕ} (hc : w.client = some service) (actorID : String) :
    (w.start service actorID).Coherent where
  toTimed := hw.start hidle hc actorID
  refreshing := rfl
  pending := fun _ => rfl
  discarded := by
    intro g h
    rw [show (w.start service actorID).discarded = w.discarded from rfl, hd] at h
    cases h

end Work

/-- No refresh task reports back so late that its generation is in force again. -/
def Timely (s : BrokerStore ρ) : Event ρ → Prop
  | .completeRefresh task _ _ => s.turns < task.turn + 2 ^ 64
  | _ => True

instance (s : BrokerStore ρ) : (e : Event ρ) → Decidable (Timely s e)
  | .completeRefresh task _ _ => inferInstanceAs (Decidable (s.turns < task.turn + 2 ^ 64))
  | .connect .. => isTrue trivial
  | .setActor .. => isTrue trivial
  | .reload .. => isTrue trivial
  | .requestRefreshIfDue .. => isTrue trivial
  | .setWindowVisible .. => isTrue trivial
  | .performMutation => isTrue trivial
  | .acknowledge .. => isTrue trivial
  | .setErrorMessage .. => isTrue trivial
  | .setNotice .. => isTrue trivial
  | .setFeedback .. => isTrue trivial

/-! ## What the methods do to the tasks -/

open BrokerStore Work

@[simp] theorem work_setErrorMessage (message : Option String) :
    (s.setErrorMessage message).work = s.work := rfl

@[simp] theorem work_setNotice (notice : Option String) : (s.setNotice notice).work = s.work := rfl

@[simp] theorem work_invalidate : s.invalidateActiveRefresh.work = s.work.invalidate := rfl

theorem work_start {service : ℕ} (hc : s.snapshotClient = some service) :
    (s.startRefresh now).work = s.work.start service s.actorID := by
  unfold startRefresh
  rw [hc]
  simp [work, Work.start, nextTask, hc]

theorem work_reportRefreshFailure (description : String) :
    (s.reportRefreshFailure description).work = s.work := by
  unfold reportRefreshFailure
  dsimp only
  split
  · rfl
  · rfl

theorem work_useResult [∀ k, DecidableEq (ρ k)] (result : Except String (BrokerSnapshot ρ)) :
    (s.useResult task result now).work = s.work := by
  unfold useResult
  cases result with
  | error description =>
    unfold refreshFailure
    dsimp only
    split
    · rfl
    · exact work_reportRefreshFailure description
  | ok x =>
    dsimp only
    split
    · exact work_reportRefreshFailure _
    · rfl

/-- A request starts a task or is remembered. -/
theorem coherent_request (hs : s.work.Coherent) (now : Time) :
    (s.requestRefresh now).work.Coherent := by
  unfold requestRefresh
  split
  · exact hs
  rename_i hc
  obtain ⟨service, hc⟩ := Option.ne_none_iff_exists'.1 hc
  split
  · rename_i ha
    exact hs.pend ha
  · rename_i ha
    have hidle : s.activeRefreshTask = none := by simpa using ha
    rw [work_start hc]
    exact hs.toTimed.coherent_start hidle (hs.discarded_idle hidle) hc s.actorID

/-- The end of a report starts the task asked for meanwhile. -/
theorem coherent_finish (hs : s.work.Timed) (hidle : s.activeRefreshTask = none)
    (hd : s.discardedRefreshGeneration = none) {service : ℕ} (hc : s.snapshotClient = some service)
    (now : Time) : (s.finishRefresh now).work.Coherent := by
  unfold finishRefresh
  split
  · have hstart : ({ s with pendingRefresh := false }.startRefresh now).work =
        { s with pendingRefresh := false }.work.start service s.actorID := work_start hc
    have hquiet : { s with pendingRefresh := false }.work.Timed := { hs with }
    rw [hstart]
    exact hquiet.coherent_start hidle hd hc s.actorID
  · rename_i hp
    refine { hs with refreshing := ?_, pending := ?_, discarded := ?_ }
    · change false = s.activeRefreshTask.isSome
      rw [hidle]
      rfl
    · intro h
      exact absurd h hp
    · intro g h
      rw [show _ = s.discardedRefreshGeneration from rfl, hd] at h
      cases h

/-- A task of an earlier generation reports back to nobody. -/
theorem coherent_unheard (hs : s.work.Coherent) (hg : task.generation ≠ s.refreshGeneration) :
    (s.endTask task).work.Coherent := by
  have hother : ¬ s.work.active = some task := fun ha => hg (hs.generation_of_active ha).2
  have hactive : (s.work.report task).active = s.work.active := if_neg hother
  have hreport := hs.report task
  have hwork : (s.endTask task).work = s.work.report task := by
    rw [show (s.endTask task).work =
      { s.work.report task with active := s.work.active } from rfl, ← hactive]
  rw [hwork]
  exact
    { hreport with
      refreshing := hactive ▸ hs.refreshing
      pending := hactive ▸ hs.pending
      discarded := hs.discarded }

theorem timed_idle (hs : s.work.Timed) (ha : s.activeRefreshTask = some task) :
    (s.endTask task).idle.work.Timed := by
  have hidle : (s.work.report task).active = none := if_pos ha
  have hreport := hs.report task
  rw [show (s.endTask task).idle.work = { s.work.report task with active := none } from rfl,
    ← hidle]
  exact hreport

/-- A mark is on the task waited for. -/
theorem discarded_eq (hs : s.work.Coherent) (ha : s.activeRefreshTask = some task) :
    s.discardedRefreshGeneration = none ∨ s.discardedRefreshGeneration = some task.generation := by
  obtain ⟨-, hg⟩ := hs.generation_of_active ha
  cases hd : s.discardedRefreshGeneration with
  | none => exact Or.inl rfl
  | some g =>
    rw [hg, (hs.discarded g hd).1]
    exact Or.inr rfl

/-! ## What a store shows and knows -/

/-- The floor and what is shown, with the revisions the services have shown. -/
def BrokerStore.known (s : BrokerStore ρ) :
    BrokerSnapshot ρ × Option (BrokerSnapshot ρ) × Option ℤ × List (ℕ × ℤ) :=
  (s.snapshot, s.lastGoodSnapshot, s.minimumRequiredSnapshotRevision, s.learned)

/-- What the task brings counts. -/
def BrokerStore.Awaits (s : BrokerStore ρ) (task : RefreshTask) : Prop :=
  task ∈ s.tasks ∧ task.generation = s.refreshGeneration ∧
    s.discardedRefreshGeneration ≠ some task.generation

/-- The store lets the snapshot of the task through. -/
def BrokerStore.Accepts (s : BrokerStore ρ) (task : RefreshTask) (x : BrokerSnapshot ρ) : Prop :=
  s.Awaits task ∧ s.snapshotRevisionFloorError x = none

instance (s : BrokerStore ρ) (task : RefreshTask) : Decidable (s.Awaits task) :=
  inferInstanceAs (Decidable (task ∈ s.tasks ∧ task.generation = s.refreshGeneration ∧
    s.discardedRefreshGeneration ≠ some task.generation))

instance (s : BrokerStore ρ) (task : RefreshTask) (x : BrokerSnapshot ρ) :
    Decidable (s.Accepts task x) :=
  inferInstanceAs (Decidable (s.Awaits task ∧ s.snapshotRevisionFloorError x = none))

theorem known_startRefresh : (s.startRefresh now).known = s.known := by
  unfold startRefresh
  split <;> rfl

theorem known_requestRefresh : (s.requestRefresh now).known = s.known := by
  unfold requestRefresh
  split
  · rfl
  · split
    · rfl
    · exact known_startRefresh

theorem known_finishRefresh : (s.finishRefresh now).known = s.known := by
  unfold finishRefresh
  split
  · exact known_startRefresh
  · rfl

theorem known_reportRefreshFailure (description : String) :
    (s.reportRefreshFailure description).known = s.known := by
  unfold reportRefreshFailure
  dsimp only
  split <;> rfl

theorem known_refreshFailure (description : String) :
    (s.refreshFailure description).known = s.known := by
  unfold refreshFailure
  dsimp only
  split
  · rfl
  · exact known_reportRefreshFailure description

/-! ## Turns -/

/-- The task waited for stays; who has asked is not forgotten, and the task may have been marked. -/
structure Work.Stays (w w' : Work) : Prop where
  active : w'.active = w.active
  turns : w'.turns = w.turns
  started : w'.started = w.started
  pending : w.pending = true → w'.pending = true
  discarded : w'.discarded = w.discarded ∨ w'.discarded = some w.generation

/-- A new task is waited for. -/
def Work.Turns (w w' : Work) : Prop :=
  ∃ task, w'.active = some task ∧ w.turns < task.turn ∧ task.turn ≤ w'.turns ∧
    w'.started = task.turn

/-- Nobody is waited for, and nobody had asked meanwhile. -/
structure Work.Rests (w w' : Work) : Prop where
  idle : w'.active = none
  unasked : w.pending = false
  turns : w.turns ≤ w'.turns
  started : w.started ≤ w'.started

theorem Work.Stays.refl (w : Work) : w.Stays w :=
  ⟨rfl, rfl, rfl, id, Or.inl rfl⟩

theorem startRefresh_turns {service : ℕ} (hc : s.snapshotClient = some service) :
    s.work.Turns (s.startRefresh now).work := by
  rw [work_start hc]
  exact ⟨_, rfl, Nat.lt_succ_self _, le_rfl, rfl⟩

/-- A request leaves the task waited for, or starts one. -/
theorem requestRefresh_turns (s : BrokerStore ρ) (now : Time) :
    s.work.Stays (s.requestRefresh now).work ∨ s.work.Turns (s.requestRefresh now).work := by
  unfold requestRefresh
  split
  · exact Or.inl (Work.Stays.refl _)
  rename_i hc
  obtain ⟨service, hc⟩ := Option.ne_none_iff_exists'.1 hc
  split
  · exact Or.inl ⟨rfl, rfl, rfl, fun _ => rfl, Or.inl rfl⟩
  · exact Or.inr (startRefresh_turns hc)

/-- After an invalidation a request starts a task, if there is a client. -/
theorem restart_turns (client : Option ℕ) (hs : s.work.Coherent)
    (hc : s.snapshotClient ≠ none → client ≠ none) (ht : t.work = { s.work.invalidate with client })
    (now : Time) :
    s.work.Rests (t.requestRefresh now).work ∨ s.work.Turns (t.requestRefresh now).work := by
  have hclient : t.snapshotClient = client := congrArg Work.client ht
  have hactive : t.activeRefreshTask = none := congrArg Work.active ht
  have hturns : t.turns = s.turns + 1 := congrArg Work.turns ht
  have hstarted : t.started = s.started := congrArg Work.started ht
  unfold requestRefresh
  split
  · rename_i hnone
    left
    have hunasked : s.pendingRefresh = false := by
      by_contra hp
      obtain ⟨task, ha⟩ := Option.isSome_iff_exists.1 (hs.pending (Bool.not_eq_false _ ▸ hp))
      have hsome : s.snapshotClient = some task.service := (hs.latest task ha).2
      refine hc (fun hn => ?_) (hclient.symm.trans hnone)
      rw [hsome] at hn
      cases hn
    refine ⟨hactive, hunasked, ?_, ?_⟩
    · change s.turns ≤ t.turns
      omega
    · change s.started ≤ t.started
      omega
  · rename_i hsome
    obtain ⟨service, hsome⟩ := Option.ne_none_iff_exists'.1 hsome
    rw [hactive]
    right
    have hnew : t.work.Turns (t.startRefresh now).work := startRefresh_turns hsome
    obtain ⟨task, ha, hlt, hle, hst⟩ := hnew
    refine ⟨task, ha, ?_, hle, hst⟩
    change t.turns < task.turn at hlt
    change s.turns < task.turn
    omega

/-- After a report a task starts exactly if one was asked for. -/
theorem finish_turns (hidle : t.activeRefreshTask = none) (hturns : t.turns = s.turns)
    (hstarted : t.started = s.started) (hpending : t.pendingRefresh = s.pendingRefresh)
    {service : ℕ} (hc : t.snapshotClient = some service) (now : Time) :
    s.work.Rests (t.finishRefresh now).work ∨ s.work.Turns (t.finishRefresh now).work := by
  unfold finishRefresh
  split
  · right
    have hnew : { t with pendingRefresh := false }.work.Turns
        ({ t with pendingRefresh := false }.startRefresh now).work := startRefresh_turns hc
    obtain ⟨task, ha, hlt, hle, hst⟩ := hnew
    refine ⟨task, ha, ?_, hle, hst⟩
    change t.turns < task.turn at hlt
    change s.turns < task.turn
    omega
  · rename_i hp
    left
    refine ⟨hidle, ?_, hturns.ge, hstarted.ge⟩
    change s.pendingRefresh = false
    rw [← hpending]
    exact Bool.eq_false_iff.2 hp

theorem coherent_initial [Inhabited (ρ .summary)] [Inhabited (ρ .history)] (actorID : String)
    (refreshInterval : Time) : (initial (ρ := ρ) actorID refreshInterval).work.Coherent where
  generation := rfl
  numbered := fun _ h => absurd h List.not_mem_nil
  started := fun _ h => absurd h List.not_mem_nil
  startedLe := le_rfl
  retiredLe := le_rfl
  apart := fun _ h => absurd h List.not_mem_nil
  once := List.nodup_nil
  active := fun _ => ⟨fun h => (by cases h), fun h => absurd h.1 List.not_mem_nil⟩
  latest := fun _ h => (by cases h)
  refreshing := rfl
  pending := fun h => (by cases h)
  discarded := fun _ h => (by cases h)

/-! ## What an event does to the tasks -/

variable [∀ k, DecidableEq (ρ k)]

/-- The task waited for reports back. -/
theorem coherent_heard (hs : s.work.Coherent) (ha : s.activeRefreshTask = some task)
    (result : Except String (BrokerSnapshot ρ)) (now : Time) :
    (((s.endTask task).hear task result now).finishRefresh now).work.Coherent := by
  obtain ⟨-, hc⟩ := hs.latest task ha
  have htimed := timed_idle hs.toTimed ha
  unfold hear
  split
  · have hunmarked : { (s.endTask task).idle with discardedRefreshGeneration := none }.work.Timed :=
      { htimed with }
    exact coherent_finish hunmarked rfl rfl hc now
  · rename_i hd
    have hnone : s.discardedRefreshGeneration = none :=
      (discarded_eq hs ha).resolve_right hd
    have hkeep :
        ((s.endTask task).idle.useResult task result now).work = (s.endTask task).idle.work :=
      work_useResult result
    have hidle := congrArg Work.active hkeep
    have hmark := (congrArg Work.discarded hkeep).trans hnone
    have hclient := (congrArg Work.client hkeep).trans hc
    exact coherent_finish (hkeep ▸ htimed) hidle hmark hclient now

/-- **Coherence is kept** by every event, unless a task is `2 ^ 64` generations late. -/
theorem coherent_step (hs : s.work.Coherent) (h : Timely s e) : (s.step e).work.Coherent := by
  cases e with
  | connect service now =>
    have hi := hs.invalidate
    exact coherent_request (s := { s.invalidateActiveRefresh with snapshotClient := some service })
      { hi with latest := fun task h => (by cases h) } now
  | setActor value now =>
    unfold BrokerStore.step BrokerStore.setActor
    dsimp only
    split
    · exact hs
    · have hi : (({ s with actorID := value }.setNotice
          (some ("本机操作记录已切换为：" ++ value ++ "。"))).invalidateActiveRefresh).work.Coherent :=
        hs.invalidate
      exact coherent_request hi now
  | reload now => exact coherent_request hs now
  | requestRefreshIfDue now =>
    unfold BrokerStore.step BrokerStore.requestRefreshIfDue
    dsimp only
    cases s.lastRefreshStartedAt with
    | none => exact coherent_request hs now
    | some last =>
      dsimp only
      split_ifs
      · exact hs
      · exact coherent_request hs now
      · exact hs
      · exact coherent_request hs now
  | setWindowVisible visible now =>
    unfold BrokerStore.step BrokerStore.setWindowVisible
    dsimp only
    split
    · exact coherent_request (s := { s with windowVisible := visible }) hs now
    · exact hs
  | completeRefresh task result now =>
    unfold BrokerStore.step
    dsimp only
    split
    · rename_i hm
      unfold completeRefresh
      split
      · rename_i hg
        exact coherent_unheard hs hg
      · rename_i hg
        exact coherent_heard hs (hs.active_of_generation hm (not_not.1 hg) h) result now
    · exact hs
  | performMutation =>
    unfold BrokerStore.step
    dsimp only
    split
    · exact hs
    · exact hs
  | acknowledge service revision =>
    unfold BrokerStore.step raiseMinimumRequiredSnapshotRevision
    dsimp only
    cases revision with
    | none => exact hs
    | some r =>
      cases ha : s.activeRefreshTask.isSome with
      | false => exact hs
      | true => exact hs.mark ha
  | setErrorMessage message => exact hs
  | setNotice notice => exact hs
  | setFeedback feedback => exact hs

theorem coherent_run {es : List (Event ρ)} (hs : s.work.Coherent)
    (h : Run.Along BrokerStore.step Timely s es) : (Run.run BrokerStore.step s es).work.Coherent :=
  Run.run_inv (I := fun s => s.work.Coherent) (fun _ _ hs h => coherent_step hs h) hs h

/-! ### Turns -/

/-- **What an event does to the task waited for**: it stays, gives way to a new one, or is the
last. -/
theorem step_turns (hs : s.work.Coherent) (h : Timely s e) :
    s.work.Stays (s.step e).work ∨ s.work.Rests (s.step e).work ∨
      s.work.Turns (s.step e).work := by
  cases e with
  | connect service now =>
    right
    exact restart_turns (t := { s.invalidateActiveRefresh with snapshotClient := some service })
      (some service) hs (fun _ h => (by cases h)) rfl now
  | setActor value now =>
    unfold BrokerStore.step BrokerStore.setActor
    dsimp only
    split
    · exact Or.inl (Work.Stays.refl _)
    · right
      exact restart_turns (t := ({ s with actorID := value }.setNotice
          (some ("本机操作记录已切换为：" ++ value ++ "。"))).invalidateActiveRefresh)
        s.snapshotClient hs id rfl now
  | reload now => exact (requestRefresh_turns s now).imp_right Or.inr
  | requestRefreshIfDue now =>
    unfold BrokerStore.step BrokerStore.requestRefreshIfDue
    dsimp only
    cases s.lastRefreshStartedAt with
    | none => exact (requestRefresh_turns s now).imp_right Or.inr
    | some last =>
      dsimp only
      split_ifs
      · exact Or.inl (Work.Stays.refl _)
      · exact (requestRefresh_turns s now).imp_right Or.inr
      · exact Or.inl (Work.Stays.refl _)
      · exact (requestRefresh_turns s now).imp_right Or.inr
  | setWindowVisible visible now =>
    unfold BrokerStore.step BrokerStore.setWindowVisible
    dsimp only
    split
    · exact (requestRefresh_turns { s with windowVisible := visible } now).imp_right Or.inr
    · exact Or.inl (Work.Stays.refl _)
  | completeRefresh task result now =>
    unfold BrokerStore.step
    dsimp only
    split
    · rename_i hm
      unfold completeRefresh
      split
      · exact Or.inl ⟨rfl, rfl, rfl, id, Or.inl rfl⟩
      rename_i hg
      have ha := hs.active_of_generation hm (not_not.1 hg) h
      obtain ⟨-, hc⟩ := hs.latest task ha
      right
      unfold hear
      split
      · exact finish_turns (s := s)
          (t := { (s.endTask task).idle with discardedRefreshGeneration := none })
            rfl rfl rfl rfl hc now
      · have hkeep : ((s.endTask task).idle.useResult task result now).work =
            (s.endTask task).idle.work := work_useResult result
        have hidle := congrArg Work.active hkeep
        have hclient := (congrArg Work.client hkeep).trans hc
        exact finish_turns (s := s) hidle (congrArg Work.turns hkeep) (congrArg Work.started hkeep)
          (congrArg Work.pending hkeep) hclient now
    · exact Or.inl (Work.Stays.refl _)
  | performMutation =>
    unfold BrokerStore.step
    dsimp only
    split
    · exact Or.inl (Work.Stays.refl _)
    · exact Or.inl (Work.Stays.refl _)
  | acknowledge service revision =>
    unfold BrokerStore.step raiseMinimumRequiredSnapshotRevision
    dsimp only
    cases revision with
    | none => exact Or.inl (Work.Stays.refl _)
    | some r =>
      cases ha : s.activeRefreshTask.isSome with
      | false => exact Or.inl ⟨rfl, rfl, rfl, id, Or.inl rfl⟩
      | true => exact Or.inl ⟨rfl, rfl, rfl, fun _ => rfl, Or.inr rfl⟩
  | setErrorMessage message => exact Or.inl (Work.Stays.refl _)
  | setNotice notice => exact Or.inl (Work.Stays.refl _)
  | setFeedback feedback => exact Or.inl (Work.Stays.refl _)

/-! ## What an event shows -/

/-- **What comes in** is a revision a mutation was acknowledged with, or a snapshot let through. -/
theorem step_known (s : BrokerStore ρ) (e : Event ρ) :
    (s.step e).known = s.known ∨
      (∃ service r, e = .acknowledge service (some r) ∧
        (s.step e).known = (s.raiseMinimumRequiredSnapshotRevision service (some r)).known) ∨
      ∃ task x now, e = .completeRefresh task (.ok x) now ∧ s.Accepts task x ∧
        (s.step e).known = (s.acceptSnapshot task.service x now).known := by
  cases e with
  | connect service now => exact Or.inl known_requestRefresh
  | setActor value now =>
    left
    unfold BrokerStore.step BrokerStore.setActor
    dsimp only
    split
    · rfl
    · exact known_requestRefresh
  | reload now => exact Or.inl known_requestRefresh
  | requestRefreshIfDue now =>
    left
    unfold BrokerStore.step BrokerStore.requestRefreshIfDue
    dsimp only
    cases s.lastRefreshStartedAt with
    | none => exact known_requestRefresh
    | some last =>
      dsimp only
      split_ifs
      · rfl
      · exact known_requestRefresh
      · rfl
      · exact known_requestRefresh
  | setWindowVisible visible now =>
    left
    unfold BrokerStore.step BrokerStore.setWindowVisible
    dsimp only
    split
    · exact known_requestRefresh
    · rfl
  | completeRefresh task result now =>
    unfold BrokerStore.step
    dsimp only
    split
    · rename_i hm
      unfold completeRefresh
      split
      · exact Or.inl rfl
      rename_i hg
      rw [known_finishRefresh]
      unfold hear
      split
      · exact Or.inl rfl
      rename_i hd
      unfold useResult
      cases result with
      | error description => exact Or.inl (known_refreshFailure description)
      | ok x =>
        dsimp only
        cases hfloor : (s.endTask task).idle.snapshotRevisionFloorError x with
        | some description => exact Or.inl (known_reportRefreshFailure description)
        | none => exact Or.inr (Or.inr ⟨task, x, now, rfl, ⟨⟨hm, not_not.1 hg, hd⟩, hfloor⟩, rfl⟩)
    · exact Or.inl rfl
  | performMutation =>
    left
    unfold BrokerStore.step
    dsimp only
    split <;> rfl
  | acknowledge service revision =>
    cases revision with
    | none => exact Or.inl rfl
    | some r => exact Or.inr (Or.inl ⟨service, r, rfl, rfl⟩)
  | setErrorMessage message => exact Or.inl rfl
  | setNotice notice => exact Or.inl rfl
  | setFeedback feedback => exact Or.inl rfl

/-- What a snapshot that is let through does. -/
theorem step_accepted {x : BrokerSnapshot ρ} (ha : s.Accepts task x) :
    s.step (.completeRefresh task (.ok x) now) =
      ((s.endTask task).idle.acceptSnapshot task.service x now).finishRefresh now := by
  obtain ⟨⟨hm, hg, hd⟩, hfloor⟩ := ha
  have hhear : (s.endTask task).hear task (.ok x) now =
      (s.endTask task).idle.acceptSnapshot task.service x now := by
    unfold hear
    refine (if_neg hd).trans ?_
    unfold useResult
    dsimp only
    rw [show (s.endTask task).idle.snapshotRevisionFloorError x = none from hfloor]
  rw [← hhear]
  change (if task ∈ s.tasks then (s.endTask task).completeRefresh task (.ok x) now else s) = _
  rw [if_pos hm]
  unfold completeRefresh
  exact if_neg (not_not.2 hg)

/-! ## Equivalence -/

/-- Two snapshots are equivalent if they differ in their times and pending allocations at most. -/
theorem equivalent_iff {x y : BrokerSnapshot ρ} :
    x.isSemanticallyEquivalentForRefresh y = true ↔
      { x with serverTime := y.serverTime, pendingAllocations := y.pendingAllocations } = y := by
  obtain ⟨⟩ := x
  obtain ⟨⟩ := y
  simp only [BrokerSnapshot.isSemanticallyEquivalentForRefresh, Bool.and_eq_true, decide_eq_true_eq,
    BrokerSnapshot.mk.injEq]
  tauto

theorem revision_of_equivalent {x y : BrokerSnapshot ρ}
    (h : x.isSemanticallyEquivalentForRefresh y = true) :
    x.snapshotRevision = y.snapshotRevision := by
  have hfields := congrArg BrokerSnapshot.snapshotRevision (equivalent_iff.1 h)
  exact hfields

/-- The last good snapshot is of the revision let through. -/
theorem lastGood_accept (s : BrokerStore ρ) (service : ℕ) (x : BrokerSnapshot ρ) (now : Time) :
    ∃ good, (s.acceptSnapshot service x now).lastGoodSnapshot = some good ∧
      good.snapshotRevision = x.snapshotRevision := by
  unfold acceptSnapshot
  dsimp only
  cases s.lastGoodSnapshot with
  | none => exact ⟨x, rfl, rfl⟩
  | some good =>
    dsimp only
    split
    · rename_i h
      exact ⟨good, rfl, revision_of_equivalent h⟩
    · exact ⟨x, rfl, rfl⟩

end ServerPilot.Desktop
