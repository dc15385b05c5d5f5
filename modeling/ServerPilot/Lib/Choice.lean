import Mathlib.Algebra.GroupWithZero.Nat
import Mathlib.Algebra.Order.BigOperators.Group.List
import Mathlib.Data.List.Dedup
import Mathlib.Data.List.Sort

/-!
# Greedy choices from a list

What a sort begins with, how much the first of a descending list come to, and what
blocks of a keyed list look like taken together.
-/

namespace Choice

variable {α β κ : Type*}

section

variable {r : α → α → Prop} [DecidableRel r]

/-- A sort is in order. -/
theorem sorted (total : ∀ a b, r a b ∨ r b a) (trans : ∀ a b c, r a b → r b c → r a c)
    (l : List α) : (l.insertionSort r).Pairwise r := by
  have htotal : Std.Total r := ⟨total⟩
  have htrans : IsTrans α r := ⟨trans⟩
  exact List.pairwise_insertionSort r l

/-- A sort begins with a least element. -/
theorem head_insertionSort (total : ∀ a b, r a b ∨ r b a)
    (trans : ∀ a b c, r a b → r b c → r a c) {l : List α} {a : α}
    (h : (l.insertionSort r).head? = some a) : ∀ b ∈ l, r a b := by
  intro b hb
  have hsorted := sorted total trans l
  cases hs : l.insertionSort r with
  | nil =>
    rw [hs] at h
    cases h
  | cons x rest =>
    rw [hs] at h hsorted
    cases h
    rcases List.mem_cons.1 (hs ▸ (List.mem_insertionSort r).2 hb) with rfl | hrest
    · exact (total b b).elim id id
    · exact List.rel_of_pairwise_cons hsorted hrest

end

section

variable {ι : Type*} [LinearOrder ι] [LinearOrder κ] (f : α → ι) (k : α → κ)

/-- By `f` and then by `k`: any two compare. -/
theorem lex_total (a b : α) : (f a < f b ∨ (f a = f b ∧ k a ≤ k b)) ∨
    (f b < f a ∨ (f b = f a ∧ k b ≤ k a)) := by
  rcases lt_trichotomy (f a) (f b) with hlt | heq | hgt
  · exact Or.inl (Or.inl hlt)
  · rcases le_total (k a) (k b) with hle | hle
    · exact Or.inl (Or.inr ⟨heq, hle⟩)
    · exact Or.inr (Or.inr ⟨heq.symm, hle⟩)
  · exact Or.inr (Or.inl hgt)

theorem lex_trans (a b c : α) (hab : f a < f b ∨ (f a = f b ∧ k a ≤ k b))
    (hbc : f b < f c ∨ (f b = f c ∧ k b ≤ k c)) : f a < f c ∨ (f a = f c ∧ k a ≤ k c) := by
  rcases hab with hlt | ⟨heq, hle⟩
  · rcases hbc with hlt' | ⟨heq', -⟩
    · exact Or.inl (hlt.trans hlt')
    · exact Or.inl (heq' ▸ hlt)
  · rcases hbc with hlt' | ⟨heq', hle'⟩
    · exact Or.inl (heq ▸ hlt')
    · exact Or.inr ⟨heq.trans heq', hle.trans hle'⟩

end

/-- A list that begins somewhere has something. -/
theorem head?_of_mem {l : List α} {a : α} (h : a ∈ l) : ∃ x, l.head? = some x := by
  cases l with
  | nil => cases h
  | cons x rest => exact ⟨x, rfl⟩

/-! ## The largest first -/

/-- The first `m` of a list whose head is its largest come to as much as the `m` after the head. -/
theorem sum_take_le_cons {l : List ℕ} {a : ℕ} (h : ∀ x ∈ l, x ≤ a) (m : ℕ) :
    (l.take m).sum ≤ ((a :: l).take m).sum := by
  induction l generalizing a m with
  | nil => simp
  | cons x rest ih =>
    cases m with
    | zero => simp
    | succ m =>
      have hx : x ≤ a := h x List.mem_cons_self
      have hrest := @ih a (fun y hy => h y (List.mem_cons_of_mem x hy)) m
      cases m with
      | zero => simpa using hx
      | succ m =>
        simp only [List.take_succ_cons, List.sum_cons] at hrest ⊢
        omega

/-- **Any `m` of a descending list** come to no more than its first `m`. -/
theorem sum_le_sum_take {l t : List ℕ} (hl : l.Pairwise (· ≥ ·)) (h : t.Subperm l) :
    t.sum ≤ (l.take t.length).sum := by
  obtain ⟨t', hp, hs⟩ := h
  rw [← hp.sum_eq, ← hp.length_eq]
  clear hp
  induction hs with
  | slnil => simp
  | cons a _ ih =>
    obtain ⟨ha, hrest⟩ := List.pairwise_cons.1 hl
    exact (ih hrest).trans (sum_take_le_cons (fun x hx => ha x hx) _)
  | cons_cons a _ ih =>
    have hrest := ih (List.pairwise_cons.1 hl).2
    simp only [List.sum_cons, List.length_cons, List.take_succ_cons]
    omega

/-- Enough in the first `j` blocks: what is taken comes from them. -/
theorem take_flatMap {f : α → List β} {l : List α} {n j : ℕ}
    (h : n ≤ (((l.map fun a => (f a).length)).take j).sum) :
    (l.flatMap f).take n = ((l.take j).flatMap f).take n := by
  conv_lhs => rw [← List.take_append_drop j l, List.flatMap_append]
  refine List.take_append_of_le_length ?_
  rw [List.length_flatMap, List.map_take]
  exact h

/-! ## Blocks -/

/-- Blocks of different keys have nothing in common. -/
theorem nodup_flatMap_keyed (key : β → κ) {l : List α} {f : α → List β} {k : α → κ}
    (hk : (l.map k).Nodup) (hf : ∀ a ∈ l, (f a).Nodup ∧ ∀ b ∈ f a, key b = k a) :
    (l.flatMap f).Nodup := by
  induction l with
  | nil => exact List.nodup_nil
  | cons a l ih =>
    obtain ⟨hnotin, hrest⟩ := List.nodup_cons.1 hk
    rw [List.flatMap_cons]
    refine List.Nodup.append (hf a List.mem_cons_self).1
      (ih hrest fun x hx => hf x (List.mem_cons_of_mem a hx)) ?_
    intro b hb hb'
    obtain ⟨x, hx, hbx⟩ := List.mem_flatMap.1 hb'
    have hka := (hf a List.mem_cons_self).2 b hb
    have hkx := (hf x (List.mem_cons_of_mem a hx)).2 b hbx
    rw [← hka, hkx] at hnotin
    exact hnotin (List.mem_map_of_mem hx)

/-- Blocks of `n` equal elements each. -/
theorem count_flatMap_replicate [DecidableEq κ] (f : α → κ) (n : ℕ) (l : List α) (x : κ) :
    (l.flatMap fun a => List.replicate n (f a)).count x = n * (l.map f).count x := by
  induction l with
  | nil => simp
  | cons a l ih =>
    rw [List.flatMap_cons, List.count_append, ih, List.map_cons, List.count_replicate]
    by_cases h : f a = x
    · simp [h, Nat.mul_add, Nat.add_comm]
    · simp [h]

/-- The first of each queue and the rest of each are the queues. -/
theorem heads_append_tails (queues : List (List α)) :
    (queues.filterMap List.head? ++ (queues.map List.tail).flatten).Perm queues.flatten := by
  induction queues with
  | nil => exact List.Perm.refl _
  | cons q queues ih =>
    cases q with
    | nil => exact ih
    | cons a q =>
      simp only [List.filterMap_cons, List.head?_cons, List.map_cons, List.tail_cons,
        List.flatten_cons, List.cons_append]
      refine List.Perm.cons a ?_
      refine (List.perm_append_comm_assoc _ _ _).trans ?_
      exact ih.append_left q

/-- Where `f` always has something, taking first and last is one. -/
theorem take_filterMap {f : α → Option β} {l : List α} (h : ∀ a ∈ l, (f a).isSome = true) (n : ℕ) :
    (l.filterMap f).take n = (l.take n).filterMap f := by
  induction l generalizing n with
  | nil => simp
  | cons a l ih =>
    obtain ⟨b, hb⟩ := Option.isSome_iff_exists.1 (h a List.mem_cons_self)
    cases n with
    | zero => rfl
    | succ n =>
      rw [List.filterMap_cons_some hb, List.take_succ_cons, List.take_succ_cons,
        List.filterMap_cons_some hb, ih (fun x hx => h x (List.mem_cons_of_mem a hx))]

/-- Empty queues hold nothing. -/
theorem flatten_filter_ne_nil (queues : List (List α)) [DecidablePred fun q : List α => q ≠ []] :
    (queues.filter fun q => q ≠ []).flatten = queues.flatten := by
  induction queues with
  | nil => rfl
  | cons q queues ih =>
    by_cases h : q = []
    · simpa [h] using ih
    · simpa [h] using ih

end Choice
