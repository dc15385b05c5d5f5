import ServerPilot.Lib.Rows
import Mathlib.Algebra.GroupWithZero.Nat
import Mathlib.Algebra.Order.BigOperators.Group.List

/-!
# Totals over a table

`tally p g l` is `select sum(g) from l where p`. It grows with the table, and
shrinks with its rows; an update adds at most what the updated rows come to.
-/

namespace Rows

variable {α β : Type*} {p p' q : α → Bool} {g g' : α → ℕ} {l l' : List α}

/-- The sum of `g` over the rows that pass `p`. -/
def tally (p : α → Bool) (g : α → ℕ) (l : List α) : ℕ := ((l.filter p).map g).sum

@[simp] theorem tally_nil : tally p g [] = 0 := rfl

theorem tally_cons (a : α) : tally p g (a :: l) = (if p a then g a else 0) + tally p g l := by
  unfold tally
  rw [List.filter_cons]
  split <;> simp

theorem tally_append : tally p g (l ++ l') = tally p g l + tally p g l' := by
  simp [tally]

/-- Counting is a tally. -/
theorem tally_one : tally p (fun _ => 1) l = (l.filter p).length := by
  simp [tally]

theorem tally_filter (h : ∀ a ∈ l, p a = true → q a = true) :
    tally p g (l.filter q) = tally p g l := by
  unfold tally
  rw [List.filter_filter]
  congr 2
  apply List.filter_congr
  intro a ha
  cases hp : p a with
  | false => simp
  | true => simp [h a ha hp]

theorem tally_eq_zero (h : ∀ a ∈ l, p a = false) : tally p g l = 0 := by
  unfold tally
  rw [List.filter_eq_nil_iff.2 fun a ha => by simp [h a ha]]
  rfl

/-- Fewer rows come to less. -/
theorem tally_sublist (h : List.Sublist l l') : tally p g l ≤ tally p g l' := by
  induction h with
  | slnil => exact le_rfl
  | cons a _ ih =>
    rw [tally_cons]
    exact ih.trans (Nat.le_add_left _ _)
  | cons_cons a _ ih =>
    rw [tally_cons, tally_cons]
    exact Nat.add_le_add_left ih _

/-- Rows that come to less, one by one, come to less together. -/
theorem tally_forall₂ {R : α → α → Prop} (h : List.Forall₂ R l l')
    (hR : ∀ a b, R a b → p' b = true → p a = true ∧ g' b ≤ g a) :
    tally p' g' l' ≤ tally p g l := by
  induction h with
  | nil => exact le_rfl
  | @cons a b l l' hab _ ih =>
    rw [tally_cons, tally_cons]
    refine Nat.add_le_add ?_ ih
    by_cases hb : p' b = true
    · obtain ⟨ha, hg⟩ := hR a b hab hb
      rwa [if_pos hb, if_pos ha]
    · rw [if_neg hb]
      exact Nat.zero_le _

/-- A table each of whose rows comes to less than one of another's, no row used twice, comes to
less. -/
theorem tally_sublistForall₂ {R : α → α → Prop} (h : List.SublistForall₂ R l' l)
    (hR : ∀ b a, R b a → p' b = true → p a = true ∧ g' b ≤ g a) : tally p' g' l' ≤ tally p g l := by
  obtain ⟨k, hk, hs⟩ := List.sublistForall₂_iff.1 h
  exact (tally_forall₂ hk.flip fun a b hab => hR b a hab).trans (tally_sublist hs)

/-- Rows that count for less come to less. -/
theorem tally_mono (h : ∀ a ∈ l, g' a ≤ g a) : tally p g' l ≤ tally p g l := by
  induction l with
  | nil => exact le_rfl
  | cons a l ih =>
    have hl := ih fun x hx => h x (List.mem_cons_of_mem _ hx)
    have ha := h a List.mem_cons_self
    rw [tally_cons, tally_cons]
    by_cases hp : p a = true
    · rw [if_pos hp, if_pos hp]
      exact Nat.add_le_add ha hl
    · rw [if_neg hp, if_neg hp]
      exact Nat.add_le_add_left hl 0

/-- **What an update does to a total**: its rows no longer come to what they did, and come to
what they now do. -/
theorem tally_updWhere {f : α → α} :
    tally p g (updWhere q f l) + tally (fun a => q a && p a) g l =
      tally p g l + tally (fun a => q a && p (f a)) (g ∘ f) l := by
  induction l with
  | nil => rfl
  | cons a l ih =>
    have hc : updWhere q f (a :: l) = (if q a = true then f a else a) :: updWhere q f l := rfl
    rw [hc, tally_cons, tally_cons, tally_cons, tally_cons]
    by_cases hq : q a = true
    · simp only [hq, if_true, Bool.true_and, Function.comp]
      omega
    · simp only [hq, Bool.false_and, Bool.false_eq_true, if_false]
      omega

theorem tally_add : tally p (fun a => g a + g' a) l = tally p g l + tally p g' l := by
  induction l with
  | nil => rfl
  | cons a l ih =>
    rw [tally_cons, tally_cons, tally_cons, ih]
    by_cases hp : p a = true
    · simp only [hp, if_true]
      omega
    · simp only [hp, Bool.false_eq_true, if_false]
      omega

/-- What only some rows come to. -/
theorem tally_ite : tally p (fun a => if q a then g a else 0) l =
    tally (fun a => q a && p a) g l := by
  induction l with
  | nil => rfl
  | cons a l ih =>
    rw [tally_cons, tally_cons, ih]
    by_cases hq : q a = true <;> by_cases hp : p a = true <;> simp [hq, hp]

/-- The total of one row. -/
theorem tally_key {κ : Type*} [DecidableEq κ] {key : α → κ} (hn : (l.map key).Nodup) {a : α}
    (ha : a ∈ l) : tally (fun x => decide (key x = key a) && p x) g l = if p a then g a else 0 := by
  have hf : l.filter (fun x => decide (key x = key a) && p x) = [a].filter p := by
    rw [← List.filter_filter, List.filter_filter, ← filter_key_of_mem hn ha, List.filter_filter]
    apply List.filter_congr
    intro x _
    exact Bool.and_comm _ _
  unfold tally
  rw [hf, List.filter_cons]
  split <;> simp

/-- An update of each row on its own, as a relation of the rows. -/
theorem forall₂_updWhere {R : α → α → Prop} {f : α → α} (hr : ∀ a ∈ l, R a a)
    (hf : ∀ a ∈ l, q a = true → R a (f a)) : List.Forall₂ R l (updWhere q f l) := by
  induction l with
  | nil => exact .nil
  | cons a l ih =>
    have hc : updWhere q f (a :: l) = (if q a = true then f a else a) :: updWhere q f l := rfl
    rw [hc]
    refine .cons ?_ (ih (fun x hx => hr x (List.mem_cons_of_mem a hx))
      fun x hx => hf x (List.mem_cons_of_mem a hx))
    split
    · rename_i hq
      exact hf a List.mem_cons_self hq
    · exact hr a List.mem_cons_self

/-- An update of the rows on the right of a relation. -/
theorem forall₂_updWhere_right {R : α → α → Prop} {f : α → α} (h : List.Forall₂ R l l')
    (hf : ∀ a ∈ l, ∀ b, R a b → q b = true → R a (f b)) : List.Forall₂ R l (updWhere q f l') := by
  induction h with
  | nil => exact .nil
  | @cons a b l l' hab _ ih =>
    have hc : updWhere q f (b :: l') = (if q b = true then f b else b) :: updWhere q f l' := rfl
    rw [hc]
    refine .cons ?_ (ih fun x hx => hf x (List.mem_cons_of_mem a hx))
    split
    · rename_i hq
      exact hf a List.mem_cons_self b hab hq
    · exact hab

/-- A relation row by row, from another that implies it for the rows of the two tables. -/
theorem forall₂_imp_mem {γ : Type*} {R Q : α → γ → Prop} {l₁ : List α} {l₂ : List γ}
    (h : List.Forall₂ R l₁ l₂) (hq : ∀ a ∈ l₁, ∀ b ∈ l₂, R a b → Q a b) :
    List.Forall₂ Q l₁ l₂ := by
  induction h with
  | nil => exact .nil
  | @cons a b l₁ l₂ hab _ ih =>
    refine .cons (hq a List.mem_cons_self b List.mem_cons_self hab) (ih fun x hx y hy => ?_)
    exact hq x (List.mem_cons_of_mem a hx) y (List.mem_cons_of_mem b hy)

/-- Rows coming from rows that come from rows. -/
theorem sublistForall₂_trans {γ : Type*} {R : α → β → Prop} {Q : β → γ → Prop} {S : α → γ → Prop}
    (ht : ∀ a b c, R a b → Q b c → S a c) {l₁ : List α} {l₂ : List β} {l₃ : List γ}
    (h : List.SublistForall₂ R l₁ l₂) (h' : List.SublistForall₂ Q l₂ l₃) :
    List.SublistForall₂ S l₁ l₃ := by
  induction h' generalizing l₁ with
  | nil =>
    cases h
    exact .nil
  | cons hq _ ih =>
    cases h with
    | nil => exact .nil
    | cons hr h => exact .cons (ht _ _ _ hr hq) (ih h)
    | cons_right h => exact .cons_right (ih h)
  | cons_right _ ih => exact .cons_right (ih h)

/-- Rows with one column in common, table by table, have it in common row by row. -/
theorem forall₂_of_map_eq {h : α → β} (he : l'.map h = l.map h) :
    List.Forall₂ (fun a b => h b = h a) l l' := by
  induction l generalizing l' with
  | nil =>
    rw [List.map_nil, List.map_eq_nil_iff] at he
    subst he
    exact .nil
  | cons a l ih =>
    cases l' with
    | nil => cases he
    | cons b l' =>
      rw [List.map_cons, List.map_cons, List.cons.injEq] at he
      exact .cons he.1 (ih he.2)

end Rows
