import Mathlib.Order.Bounds.Basic
import ServerPilot.Lib.Tally

/-!
# When a running total is enough

Amounts come at times, in order. `first` is the time of the one with which the total is enough,
for a notion of enough that more never spoils; it is the least of the times by which enough has
come (`first_isLeast`).
-/

namespace Running

open Rows

variable {τ : Type*} [LinearOrder τ]

/-- The time at which enough has come, after `total`. -/
def first (enough : ℕ → Bool) : ℕ → List (τ × ℕ) → Option τ
  | _, [] => none
  | total, (t, amount) :: rest =>
    if enough (total + amount) then some t else first enough (total + amount) rest

/-- What comes by a time. -/
def upTo (t : τ) (l : List (τ × ℕ)) : ℕ := tally (fun x => decide (x.1 ≤ t)) Prod.snd l

/-- What comes at all. -/
def whole (l : List (τ × ℕ)) : ℕ := (l.map Prod.snd).sum

variable {enough : ℕ → Bool} {l l' : List (τ × ℕ)} {total : ℕ} {t : τ}

theorem upTo_cons (x : τ × ℕ) (l : List (τ × ℕ)) (t : τ) :
    upTo t (x :: l) = (if x.1 ≤ t then x.2 else 0) + upTo t l := by
  rw [upTo, tally_cons]
  simp only [decide_eq_true_eq]
  rfl

theorem upTo_perm (h : l.Perm l') (t : τ) : upTo t l = upTo t l' :=
  ((h.filter _).map Prod.snd).sum_nat

omit [LinearOrder τ] in
theorem whole_perm (h : l.Perm l') : whole l = whole l' := (h.map Prod.snd).sum_nat

/-- What comes before everything is nothing. -/
theorem upTo_eq_zero (h : ∀ x ∈ l, t < x.1) : upTo t l = 0 :=
  tally_eq_zero fun x hx => decide_eq_false (not_le.2 (h x hx))

/-- More is still enough. -/
def Monotone (enough : ℕ → Bool) : Prop := ∀ a b, a ≤ b → enough a = true → enough b = true

omit [LinearOrder τ] in
/-- There is such a time exactly when all of it is enough. -/
theorem first_isSome (hm : Monotone enough) : ∀ (l : List (τ × ℕ)) {total : ℕ},
    enough total = false →
      ((first enough total l).isSome = true ↔ enough (total + whole l) = true)
  | [], total, h => by
    rw [first, whole, List.map_nil, List.sum_nil, Nat.add_zero, h]
    rfl
  | (t, amount) :: rest, total, h => by
    rw [first, whole, List.map_cons, List.sum_cons, ← Nat.add_assoc]
    by_cases hnow : enough (total + amount) = true
    · rw [if_pos hnow]
      exact iff_of_true rfl (hm _ _ (Nat.le_add_right _ _) hnow)
    · rw [if_neg hnow]
      exact first_isSome hm rest (Bool.eq_false_of_not_eq_true hnow)

/-- Of amounts in order, it is the least time by which enough has come. -/
theorem first_isLeast (hm : Monotone enough) : ∀ (l : List (τ × ℕ)) {total : ℕ},
    (l.Pairwise fun x y => x.1 ≤ y.1) → enough total = false → first enough total l = some t →
      IsLeast {s | s ∈ l.map Prod.fst ∧ enough (total + upTo s l) = true} t
  | [], total, _, _, h => by cases h
  | (a, amount) :: rest, total, hsorted, hbefore, h => by
    obtain ⟨hfirst, hrest⟩ := List.pairwise_cons.1 hsorted
    rw [first] at h
    by_cases hnow : enough (total + amount) = true
    · rw [if_pos hnow] at h
      have hat : a = t := Option.some_inj.1 h
      subst hat
      refine ⟨⟨List.mem_cons_self, ?_⟩, ?_⟩
      · rw [upTo_cons, if_pos (le_refl a)]
        exact hm _ _ (by omega) hnow
      · rintro s ⟨hs, _⟩
        rcases List.mem_cons.1 hs with rfl | hs
        · exact le_rfl
        · obtain ⟨x, hx, rfl⟩ := List.mem_map.1 hs
          exact hfirst x hx
    · rw [if_neg hnow] at h
      have hnot := Bool.eq_false_of_not_eq_true hnow
      obtain ⟨⟨hmem, henough⟩, hleast⟩ := first_isLeast hm rest hrest hnot h
      -- every time of the rest comes with the head's amount
      have hwith : ∀ s ∈ rest.map Prod.fst,
          total + upTo s ((a, amount) :: rest) = total + amount + upTo s rest := by
        intro s hs
        obtain ⟨x, hx, rfl⟩ := List.mem_map.1 hs
        rw [upTo_cons, if_pos (hfirst x hx), Nat.add_assoc]
      refine ⟨⟨List.mem_cons_of_mem _ hmem, by rw [hwith t hmem]; exact henough⟩, ?_⟩
      rintro s ⟨hs, hsenough⟩
      by_cases hin : s ∈ rest.map Prod.fst
      · rw [hwith s hin] at hsenough
        exact hleast ⟨hin, hsenough⟩
      · -- the head alone is not enough
        have hsa : s = a := (List.mem_cons.1 hs).resolve_right hin
        subst hsa
        have hnone : upTo s rest = 0 := upTo_eq_zero fun x hx =>
          lt_of_le_of_ne (hfirst x hx) fun he => hin (List.mem_map.2 ⟨x, hx, he.symm⟩)
        rw [upTo_cons, if_pos le_rfl, hnone, Nat.add_zero, hnot] at hsenough
        cases hsenough

end Running
