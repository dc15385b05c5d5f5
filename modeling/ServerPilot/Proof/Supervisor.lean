import ServerPilot.Proof.Fleet
import ServerPilot.Spec.Supervisor

/-!
# One probe for each server

`collectors_supervised`: along every run of the supervisor no server has two probes at work; a cycle
leaves exactly the servers it lists with one, and their tasks as they were; and after the shutdown
none is at work.
-/

namespace ServerPilot.Api

open Supervise Run

/-- How the supervisor stands. -/
structure Supervisor.Sound (s : Supervisor) : Prop where
  serving : s.closed = false → s.probes.Sound
  idle : s.closed = true → ∀ (i : ℕ) (t : Supervise.Task String), s.probes.tasks[i]? = some t →
    t.working = false

section

variable {s : Supervisor}

theorem Supervisor.next_closed (h : s.closed = true) (plant : Plant) (listed : Bool) :
    s.next (.cycle plant listed) = s ∧ s.next .shutdown = s :=
  ⟨if_pos h, if_pos h⟩

theorem Supervisor.next_cycle (h : s.closed = false) (plant : Plant) (listed : Bool) :
    s.next (.cycle plant listed) =
      { s with probes := s.probes.pass (collectedIds plant listed) } :=
  if_neg (Bool.eq_false_iff.1 h)

theorem Supervisor.next_shutdown (h : s.closed = false) :
    s.next .shutdown = { probes := s.probes.cancelAll, closed := true } :=
  if_neg (Bool.eq_false_iff.1 h)

theorem Supervisor.Sound.next (hs : s.Sound) (e : SupervisorEvent) : (s.next e).Sound := by
  cases hclosed : s.closed with
  | true =>
    cases e with
    | cycle plant listed => rwa [(Supervisor.next_closed hclosed plant listed).1]
    | shutdown => rwa [(Supervisor.next_closed hclosed {} true).2]
    | taskEnds i =>
      refine ⟨fun hopen => ?_, fun _ j t ht => ?_⟩
      · exact Bool.noConfusion (hclosed.symm.trans hopen)
      · -- an end puts no task to work
        obtain ⟨u, hu, rfl⟩ := Table.task_modify ht
        split
        · exact Task.finish_working u
        · exact hs.idle hclosed j u hu
  | false =>
    have hprobes := hs.serving hclosed
    have hnot : s.closed ≠ true := Bool.eq_false_iff.1 hclosed
    cases e with
    | cycle plant listed =>
      rw [Supervisor.next_cycle hclosed]
      exact ⟨fun _ => hprobes.pass _, fun h => absurd h hnot⟩
    | taskEnds i => exact ⟨fun _ => hprobes.ends i, fun h => absurd h hnot⟩
    | shutdown =>
      rw [Supervisor.next_shutdown hclosed]
      exact ⟨fun h => Bool.noConfusion h, fun _ i t ht => hprobes.cancelAll ht⟩

theorem supervisor_sound (es : List SupervisorEvent) : (run Supervisor.next {} es).Sound :=
  run_inv' (fun _ e hs => hs.next e) ⟨fun _ => .empty, fun h => Bool.noConfusion h⟩

end

/-- **The supervisor.** Along every run no server has two probes at work. A cycle leaves exactly the
servers it collects with one at work, and every task of theirs as it was. After the
shutdown no probe is at work. -/
theorem collectors_supervised (es : List SupervisorEvent) :
    let s := run Supervisor.next {} es
    (∀ (i j : ℕ) (t u : Supervise.Task String), s.probes.tasks[i]? = some t →
      s.probes.tasks[j]? = some u → t.working = true → u.working = true → t.key = u.key → i = j) ∧
    (s.closed = false → ∀ plant listed,
      (∀ e, (s.next (.cycle plant listed)).probes.Works e ↔ e ∈ collectedIds plant listed) ∧
      ∀ (i : ℕ) (t : Supervise.Task String), s.probes.tasks[i]? = some t →
        t.key ∈ collectedIds plant listed →
          (s.next (.cycle plant listed)).probes.tasks[i]? = some t) ∧
    (s.closed = true → ∀ (i : ℕ) (t : Supervise.Task String), s.probes.tasks[i]? = some t →
      t.working = false) := by
  have hs := supervisor_sound es
  set s := run Supervisor.next {} es
  refine ⟨fun i j t u hi hj ht hu hkey => ?_, fun hopen plant listed => ?_, hs.idle⟩
  · cases hclosed : s.closed with
    | true =>
      rw [hs.idle hclosed i t hi] at ht
      cases ht
    | false => exact (hs.serving hclosed).one hi hj ht hu hkey
  · have hprobes := hs.serving hopen
    rw [Supervisor.next_cycle hopen]
    exact ⟨fun e => hprobes.works_pass, fun i t ht hkey => hprobes.pass_task ht hkey⟩

/-- Both servers are collected, the task of the first ends, and the next cycle starts it anew. -/
def alphaRestarted : List SupervisorEvent :=
  [.cycle sampleFleet.plant true, .taskEnds 0, .cycle sampleFleet.plant true]

/-- Then the second server is dropped, and the collector is shut down. -/
def betaDropped : List SupervisorEvent :=
  [.cycle (Broker.fleet [] [sampleServer "alpha" 22] []).plant true]

/-- The third task is the one probe of the first server; a cycle without the second server keeps it,
and leaves the second without one; and after the shutdown it is cancelled. -/
theorem collectors_supervised_alpha :
    let s := run Supervisor.next {} alphaRestarted
    let t := run Supervisor.next {} (alphaRestarted ++ betaDropped)
    let closed := run Supervisor.next {} (alphaRestarted ++ betaDropped ++ [.shutdown])
    s.probes.tasks.map (fun t => (t.key, t.working)) =
        [("alpha", false), ("beta", true), ("alpha", true)] ∧
      (∀ (i : ℕ) (u : Supervise.Task String), s.probes.tasks[i]? = some u → u.working = true →
        u.key = "alpha" → i = 2) ∧
      t.probes.Works "alpha" ∧ ¬ t.probes.Works "beta" ∧
      t.probes.tasks[2]? = s.probes.tasks[2]? ∧
      closed.probes.tasks[2]? = some { key := "alpha", cancelled := true } ∧
      ∀ (i : ℕ) (u : Supervise.Task String), closed.probes.tasks[i]? = some u →
        u.working = false := by
  obtain ⟨hone, hcycle, -⟩ := collectors_supervised alphaRestarted
  obtain ⟨-, -, hidle⟩ := collectors_supervised (alphaRestarted ++ betaDropped ++ [.shutdown])
  obtain ⟨hworks, hkept⟩ := hcycle (by decide +kernel)
    (Broker.fleet [] [sampleServer "alpha" 22] []).plant true
  have hthird : (run Supervisor.next {} alphaRestarted).probes.tasks[2]? =
      some { key := "alpha" } := by decide +kernel
  refine ⟨by decide +kernel, fun i u hi hu hkey => ?_, (hworks "alpha").2 (by decide +kernel),
    fun h => absurd ((hworks "beta").1 h) (by decide +kernel), ?_, by decide +kernel,
    hidle (by decide +kernel)⟩
  · exact hone i 2 u { key := "alpha" } hi hthird hu rfl hkey
  · rw [hthird]
    exact hkept 2 _ hthird (by decide +kernel)

end ServerPilot.Api
