import Mathlib.Algebra.Order.Group.Defs
import Mathlib.Data.List.Basic

/-!
# Sliding windows over a log of times

A log to which a time is only added when fewer than `limit` of its times lie in the window
before it (`Paced`) has at most `limit` times in any window of that width (`Paced.length_le`). A
queue whose front is dropped as it leaves the window holds what the whole log has in the window
(`dropWhile_eq_after`, `after_after`).
-/

namespace Window

variable {T : Type*} [LinearOrder T] {edge edge' now : T} {log : List T} {limit : ℕ}

/-- The times of a log after an edge. -/
def after (edge : T) (log : List T) : List T := log.filter fun t => decide (edge < t)

theorem after_append (edge : T) (log log' : List T) :
    after edge (log ++ log') = after edge log ++ after edge log' := List.filter_append ..

/-- A later edge can be applied to what an earlier one left. -/
theorem after_after (h : edge ≤ edge') (log : List T) :
    after edge' (after edge log) = after edge' log := by
  unfold after
  rw [List.filter_filter]
  refine List.filter_congr fun t _ => ?_
  rw [Bool.and_eq_left_iff_imp]
  intro ht
  exact decide_eq_true (lt_of_le_of_lt h (of_decide_eq_true ht))

/-- **Dropping the front of an ordered log leaves the times after the edge.** -/
theorem dropWhile_eq_after (h : log.Pairwise (· ≤ ·)) (edge : T) :
    log.dropWhile (fun t => decide (t ≤ edge)) = after edge log := by
  induction log with
  | nil => rfl
  | cons t log ih =>
    have hrest := List.pairwise_cons.1 h
    by_cases ht : t ≤ edge
    · rw [List.dropWhile_cons_of_pos (by simpa using ht), ih hrest.2, after, after,
        List.filter_cons_of_neg (by simpa using ht)]
    · -- the first time that stays is followed by later ones only
      rw [List.dropWhile_cons_of_neg (by simpa using ht), after, List.filter_eq_self.2]
      intro u hu
      rcases List.mem_cons.1 hu with rfl | hu
      · simpa using ht
      · exact decide_eq_true (lt_of_lt_of_le (not_le.1 ht) (hrest.1 u hu))

variable [AddCommGroup T] {width : T}

/-- A log whose every time found fewer than `limit` others in the window that it closes. -/
inductive Paced (limit : ℕ) (width : T) : List T → Prop
  | nil : Paced limit width []
  | concat {log : List T} {now : T} : Paced limit width log →
      (after (now - width) log).length < limit → Paced limit width (log ++ [now])

/-- **At most `limit` times of a paced log lie in a window**: in any set of times that are less
than `width` apart. -/
theorem Paced.length_le (h : Paced limit width log) {P : T → Prop} [DecidablePred P]
    (hP : ∀ a b, P a → P b → b - width < a) :
    (log.filter fun t => decide (P t)).length ≤ limit := by
  induction h with
  | nil => exact Nat.zero_le _
  | @concat log now _ hroom ih =>
    rw [List.filter_append, List.length_append]
    by_cases hnow : P now
    · -- what the window holds besides the new time was counted when it was added
      have hsub : (log.filter fun t => decide (P t)).length ≤ (after (now - width) log).length := by
        refine (List.monotone_filter_right log fun t ht => ?_).length_le
        exact decide_eq_true (hP t now (of_decide_eq_true ht) hnow)
      rw [List.filter_cons_of_pos (by simpa using hnow), List.filter_nil, List.length_singleton]
      omega
    · rw [List.filter_cons_of_neg (by simpa using hnow), List.filter_nil, List.length_nil]
      exact ih

variable [IsOrderedAddMonoid T]

/-- The half-open windows, closed on either side. -/
theorem Paced.during_le (h : Paced limit width log) (start : T) :
    (log.filter fun t => decide (start ≤ t ∧ t < start + width)).length ≤ limit ∧
      (log.filter fun t => decide (start < t ∧ t ≤ start + width)).length ≤ limit := by
  constructor
  · refine h.length_le fun a b ha hb => ?_
    exact lt_of_lt_of_le (sub_lt_iff_lt_add.2 hb.2) ha.1
  · refine h.length_le fun a b ha hb => ?_
    exact lt_of_le_of_lt (sub_le_iff_le_add.2 hb.2) ha.1

end Window
