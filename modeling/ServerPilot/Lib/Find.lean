import Mathlib.Data.List.Infix

/-!
# Finding and counting a text in a text

`find` and `count` (without overlaps), as strings have them, and what they are of two texts
with a character between them that the text looked for does not hold (`find_append_cons`,
`count_append_cons`).
-/

namespace Find

variable {α : Type*} [DecidableEq α]

/-- Where `sub` first occurs. -/
def find (sub : List α) : List α → Option ℕ
  | [] => if sub = [] then some 0 else none
  | c :: s => if sub.isPrefixOf (c :: s) then some 0 else (find sub s).map (· + 1)

/-- How often `sub` occurs, after `skip` more characters of an occurrence. -/
def countAfter (sub : List α) : ℕ → List α → ℕ
  | _, [] => 0
  | skip + 1, _ :: s => countAfter sub skip s
  | 0, c :: s =>
    if sub.isPrefixOf (c :: s) then countAfter sub (sub.length - 1) s + 1 else countAfter sub 0 s

/-- How often `sub` occurs, of occurrences that do not overlap. -/
def count (sub s : List α) : ℕ := countAfter sub 0 s

variable {sub : List α}

/-! ## Finding -/

theorem find_eq_none : ∀ {s : List α}, find sub s = none ↔ ¬ sub <:+: s
  | [] => by
    unfold find
    split_ifs with hnil
    · subst hnil
      simp
    · simp [List.infix_nil, hnil]
  | c :: s => by
    unfold find
    rw [List.infix_cons_iff, not_or, ← find_eq_none (s := s), ← List.isPrefixOf_iff_prefix]
    split_ifs with hpre
    · simp [hpre]
    · simp [hpre]

/-- A text that is found occurs there, and nowhere before. -/
theorem find_eq_some : ∀ {s : List α} {i : ℕ}, find sub s = some i →
    sub <+: s.drop i ∧ ∀ j < i, ¬ sub <+: s.drop j
  | [], i, h => by
    unfold find at h
    split_ifs at h with hnil
    cases h
    exact ⟨hnil ▸ List.nil_prefix, fun j hj => absurd hj (Nat.not_lt_zero j)⟩
  | c :: s, i, h => by
    unfold find at h
    split_ifs at h with hpre
    · cases h
      exact ⟨List.isPrefixOf_iff_prefix.1 hpre, fun j hj => absurd hj (Nat.not_lt_zero j)⟩
    · obtain ⟨k, hk, rfl⟩ := Option.map_eq_some_iff.1 h
      obtain ⟨hhere, hbefore⟩ := find_eq_some hk
      refine ⟨hhere, fun j hj => ?_⟩
      cases j with
      | zero => exact fun hzero => hpre (List.isPrefixOf_iff_prefix.2 hzero)
      | succ j => exact hbefore j (by omega)

/-- What is found first is not part of what is before it. -/
theorem not_infix_take {s : List α} {i : ℕ} (h : find sub s = some i) (hne : sub ≠ []) :
    ¬ sub <:+: s.take i := by
  intro hin
  obtain ⟨a, b, hab⟩ := hin
  have hsplit : s = a ++ (sub ++ (b ++ s.drop i)) := by
    conv_lhs => rw [← List.take_append_drop i s, ← hab]
    simp only [List.append_assoc]
  have hlt : a.length < i := by
    have hlen := congrArg List.length hab
    rw [List.length_append, List.length_append] at hlen
    have hpos := List.length_pos_iff.2 hne
    have := List.length_take_le i s
    omega
  refine (find_eq_some h).2 a.length hlt ?_
  rw [hsplit, List.drop_left]
  exact List.prefix_append _ _

/-! ## Counting -/

theorem countAfter_eq : ∀ (k : ℕ) (s : List α), countAfter sub k s = count sub (s.drop k)
  | 0, _ => rfl
  | _ + 1, [] => rfl
  | k + 1, _ :: s => countAfter_eq k s

theorem count_cons (hne : sub ≠ []) (c : α) (s : List α) :
    count sub (c :: s) =
      if sub <+: c :: s then count sub ((c :: s).drop sub.length) + 1 else count sub s := by
  obtain ⟨n, hn⟩ : ∃ n, sub.length = n + 1 :=
    ⟨sub.length - 1, by have := List.length_pos_iff.2 hne; omega⟩
  by_cases hpre : sub <+: c :: s
  · rw [if_pos hpre, count, countAfter, if_pos (List.isPrefixOf_iff_prefix.2 hpre), countAfter_eq,
      hn]
    rfl
  · rw [if_neg hpre, count, countAfter,
      if_neg fun hp => hpre (List.isPrefixOf_iff_prefix.1 hp)]
    rfl

theorem count_eq_zero (hne : sub ≠ []) : ∀ {s : List α}, count sub s = 0 ↔ ¬ sub <:+: s
  | [] => by
    rw [List.infix_nil]
    exact ⟨fun _ => hne, fun _ => rfl⟩
  | c :: s => by
    rw [count_cons hne, List.infix_cons_iff, not_or, ← count_eq_zero hne (s := s)]
    split_ifs with hpre
    · exact ⟨fun h => (nomatch h), fun h => absurd hpre h.1⟩
    · exact ⟨fun h => ⟨hpre, h⟩, fun h => h.2⟩

/-- The first occurrence is one, and the rest are in what is after it. -/
theorem count_of_find (hne : sub ≠ []) : ∀ {s : List α} {i : ℕ}, find sub s = some i →
    count sub s = count sub (s.drop (i + sub.length)) + 1
  | [], i, h => by
    unfold find at h
    rw [if_neg hne] at h
    cases h
  | c :: s, i, h => by
    rw [count_cons hne]
    unfold find at h
    split_ifs at h with hpre
    · cases h
      rw [if_pos (List.isPrefixOf_iff_prefix.1 hpre), Nat.zero_add]
    · obtain ⟨k, hk, rfl⟩ := Option.map_eq_some_iff.1 h
      rw [if_neg fun hp => hpre (List.isPrefixOf_iff_prefix.2 hp), count_of_find hne hk,
        show k + 1 + sub.length = k + sub.length + 1 by omega, List.drop_succ_cons]

/-- What is counted is found. -/
theorem exists_find (hne : sub ≠ []) {s : List α} (h : 0 < count sub s) :
    ∃ i, find sub s = some i := by
  cases hf : find sub s with
  | none =>
    rw [(count_eq_zero hne).2 (find_eq_none.1 hf)] at h
    cases h
  | some i => exact ⟨i, rfl⟩

/-! ## Past a character that is not part of it -/

omit [DecidableEq α] in
theorem prefix_append_cons {x : α} (hx : x ∉ sub) (a b : List α) :
    sub <+: a ++ x :: b ↔ sub <+: a := by
  refine ⟨fun h => ?_, fun h => h.trans (List.prefix_append a _)⟩
  rcases Nat.lt_or_ge a.length sub.length with hlong | hshort
  · have hmore : a ++ [x] <+: sub := by
      refine List.prefix_of_prefix_length_le ?_ h ?_
      · exact ⟨b, by rw [List.append_assoc]; rfl⟩
      · rw [List.length_append, List.length_singleton]
        exact hlong
    exact absurd (hmore.subset (List.mem_append_right a (List.mem_singleton_self x))) hx
  · exact List.prefix_of_prefix_length_le h (List.prefix_append a _) hshort

theorem find_append_cons {x : α} (hne : sub ≠ []) (hx : x ∉ sub) (b : List α) : ∀ a : List α,
    find sub (a ++ x :: b) = (find sub a).or ((find sub b).map (· + (a.length + 1)))
  | [] => by
    have hpre : ¬ sub <+: [] ++ x :: b := by
      rw [prefix_append_cons hx, List.prefix_nil]
      exact hne
    rw [List.nil_append] at hpre ⊢
    have hnil : find sub [] = none := if_neg hne
    rw [find.eq_2, if_neg fun hp => hpre (List.isPrefixOf_iff_prefix.1 hp), hnil]
    rfl
  | c :: a => by
    rw [List.cons_append, find, find]
    have hiff := prefix_append_cons hx (c :: a) b
    rw [List.cons_append, ← List.isPrefixOf_iff_prefix, ← List.isPrefixOf_iff_prefix] at hiff
    by_cases hpre : sub.isPrefixOf (c :: a) = true
    · rw [if_pos hpre, if_pos (hiff.2 hpre)]
      rfl
    · rw [if_neg hpre, if_neg fun hp => hpre (hiff.1 hp), find_append_cons hne hx b a]
      cases find sub a with
      | some i => rfl
      | none =>
        cases find sub b with
        | none => rfl
        | some i => exact congrArg some (Nat.add_assoc i _ 1)

theorem count_append_cons {x : α} (hne : sub ≠ []) (hx : x ∉ sub) (a b : List α) :
    count sub (a ++ x :: b) = count sub a + count sub b := by
  induction hn : a.length using Nat.strong_induction_on generalizing a with
  | _ n ih =>
    subst hn
    cases a with
    | nil =>
      have hpre : ¬ sub <+: [] ++ x :: b := by
        rw [prefix_append_cons hx, List.prefix_nil]
        exact hne
      rw [List.nil_append] at hpre ⊢
      rw [count_cons hne, if_neg hpre]
      exact (Nat.zero_add _).symm
    | cons c a =>
      have hpos := List.length_pos_iff.2 hne
      have hiff := prefix_append_cons hx (c :: a) b
      rw [List.cons_append, count_cons hne, count_cons hne, ← List.cons_append]
      by_cases hpre : sub <+: c :: a
      · rw [if_pos hpre, if_pos (hiff.2 hpre), List.drop_append_of_le_length hpre.length_le,
          ih _ ?_ _ rfl, Nat.add_right_comm]
        rw [List.length_drop, List.length_cons]
        omega
      · rw [if_neg hpre, if_neg fun hp => hpre (hiff.1 hp)]
        exact ih _ (Nat.lt_succ_self _) _ rfl

end Find
