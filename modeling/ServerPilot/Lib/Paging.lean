import Mathlib.Data.List.DropRight
import Mathlib.Data.List.Infix

/-!
# Paging by the last element returned

A reader takes `n` elements, keeps those it may see, and goes on after the last of these. It
sees everything exactly if no `n` elements that are hidden from it come right before one that
is not (`read_eq_iff`).
-/

namespace Paging

variable {α : Type*} (p : α → Bool) (n : ℕ)

/-- What is left after a page: what follows the last element of it that passes. -/
def rest (s : List α) : List α := (s.take n).rtakeWhile (fun x => !p x) ++ s.drop n

/-- Pages until one is empty, `fuel` at most. -/
def read : ℕ → List α → List α
  | 0, _ => []
  | fuel + 1, s =>
    if (s.take n).filter p = [] then []
    else (s.take n).filter p ++ read fuel (rest p n s)

/-- Of the `n` elements before one that passes, one passes, if there are as many. -/
def Close (s : List α) : Prop :=
  ∀ i e, s[i + n]? = some e → p e = true → ∃ j < n, ∃ x, s[i + j]? = some x ∧ p x = true

variable {p n}

/-- A list with an element that passes ends in what follows the last of these. -/
theorem exists_last {l : List α} (h : l.filter p ≠ []) :
    ∃ a v t, l = a ++ v :: t ∧ p v = true ∧ (∀ x ∈ t, p x = false) ∧
      l.rtakeWhile (fun x => !p x) = t ∧ (l.filter p).getLast? = some v := by
  induction l using List.reverseRecOn with
  | nil => exact absurd rfl h
  | append_singleton l x ih =>
    by_cases hx : p x = true
    · refine ⟨l, x, [], rfl, hx, by simp, ?_, ?_⟩
      · rw [List.rtakeWhile_concat_neg _ _ _ (by simp [hx])]
      · simp [List.filter_append, hx]
    · rw [Bool.not_eq_true] at hx
      have hfilter : (l ++ [x]).filter p = l.filter p := by simp [List.filter_append, hx]
      rw [hfilter] at h ⊢
      obtain ⟨a, v, t, rfl, hv, ht, htake, hlast⟩ := ih h
      refine ⟨a, v, t ++ [x], by simp, hv, ?_, ?_, hlast⟩
      · intro y hy
        rcases List.mem_append.1 hy with hy | hy
        · exact ht y hy
        · rw [List.mem_singleton.1 hy, hx]
      · rw [List.rtakeWhile_concat_pos _ _ _ (by simp [hx]), htake]

/-- A page that is not empty: what it shows, and what is left. -/
theorem page_cases {s : List α} (h : (s.take n).filter p ≠ []) :
    ∃ a v, s = a ++ v :: rest p n s ∧ a.length < n ∧ p v = true ∧
      (s.take n).filter p = a.filter p ++ [v] ∧ ((s.take n).filter p).getLast? = some v := by
  obtain ⟨a, v, t, htake, hv, ht, hrest, hlast⟩ := exists_last h
  refine ⟨a, v, ?_, ?_, hv, ?_, hlast⟩
  · rw [rest, hrest]
    conv_lhs => rw [← List.take_append_drop n s, htake]
    rw [List.append_assoc, List.cons_append]
  · have hlen := List.length_take_le n s
    rw [htake, List.length_append, List.length_cons] at hlen
    omega
  · have hnone : t.filter p = [] := by
      rw [List.filter_eq_nil_iff]
      intro x hx
      rw [ht x hx]
      exact Bool.false_ne_true
    rw [htake, List.filter_append, List.filter_cons_of_pos hv, hnone]

/-- The elements of a page pass on the question to what is left. -/
theorem close_iff {a : List α} {v : α} {t : List α} (ha : a.length < n) (hv : p v = true) :
    Close p n (a ++ v :: t) ↔ Close p n t := by
  have hat : ∀ k, (a ++ v :: t)[a.length + 1 + k]? = t[k]? := by
    intro k
    rw [List.getElem?_append_right (by omega), show a.length + 1 + k - a.length = k + 1 by omega]
    rfl
  constructor
  · intro h i e he hpe
    obtain ⟨j, hj, x, hx, hpx⟩ := h (a.length + 1 + i) e (by rw [Nat.add_assoc, hat]; exact he) hpe
    exact ⟨j, hj, x, by rw [← hat, ← Nat.add_assoc]; exact hx, hpx⟩
  · intro h i e he hpe
    rcases Nat.lt_or_ge a.length i with hlt | hge
    · obtain ⟨k, rfl⟩ := Nat.exists_eq_add_of_lt hlt
      rw [show a.length + k + 1 + n = a.length + 1 + (k + n) by omega, hat] at he
      obtain ⟨j, hj, x, hx, hpx⟩ := h k e he hpe
      refine ⟨j, hj, x, ?_, hpx⟩
      rw [show a.length + k + 1 + j = a.length + 1 + (k + j) by omega, hat]
      exact hx
    · -- the page's last element is among the `n`
      refine ⟨a.length - i, by omega, v, ?_, hv⟩
      rw [show i + (a.length - i) = a.length by omega, List.getElem?_append_right (Nat.le_refl _),
        Nat.sub_self]
      rfl

/-- Where the first `n` do not pass, nothing passes exactly if the list is close. -/
theorem close_of_blind {s : List α} (h : (s.take n).filter p = []) :
    Close p n s ↔ s.filter p = [] := by
  rw [List.filter_eq_nil_iff] at h ⊢
  constructor
  · intro hclose
    have hnone : ∀ (k : ℕ) (e : α), s[k]? = some e → p e = true → False := by
      intro k
      induction k using Nat.strong_induction_on with
      | _ k ih =>
        intro e he hpe
        rcases Nat.lt_or_ge k n with hlt | hge
        · rw [← List.getElem?_take_of_lt hlt] at he
          exact h e (List.mem_of_getElem? he) hpe
        · obtain ⟨i, rfl⟩ := Nat.exists_eq_add_of_le' hge
          obtain ⟨j, hj, x, hx, hpx⟩ := hclose i e he hpe
          exact ih (i + j) (by omega) x hx hpx
    intro x hx hpx
    obtain ⟨k, hk⟩ := List.getElem?_of_mem hx
    exact hnone k x hk hpx
  · intro hall i e he hpe
    exact absurd hpe (hall e (List.mem_of_getElem? he))

/-- Reading to an empty page shows everything exactly if the list is close. -/
theorem read_eq_iff : ∀ (fuel : ℕ) (s : List α), s.length < fuel →
    (read p n fuel s = s.filter p ↔ Close p n s)
  | 0, s, h => absurd h (Nat.not_lt_zero _)
  | fuel + 1, s, h => by
    by_cases hpage : (s.take n).filter p = []
    · rw [read, if_pos hpage, close_of_blind hpage]
      exact eq_comm
    · obtain ⟨a, v, hs, ha, hv, hfilter, _⟩ := page_cases hpage
      have hlen : (rest p n s).length < fuel := by
        have := congrArg List.length hs
        rw [List.length_append, List.length_cons] at this
        omega
      rw [read, if_neg hpage, hfilter]
      conv_rhs => rw [hs, close_iff ha hv, ← read_eq_iff fuel _ hlen]
      conv_lhs =>
        rhs
        rw [hs, List.filter_append, List.filter_cons_of_pos hv, List.append_cons]
      exact List.append_right_inj _

end Paging
