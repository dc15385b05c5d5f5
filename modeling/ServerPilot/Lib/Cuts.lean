import Mathlib.Data.List.Basic
import Mathlib.Order.Monotone.Basic

/-!
# A list cut into even parts

Slices between the positions `i * n / m` are `m` parts of a list of length `n`, in order, that
give the list back and differ in length by at most one (`slices_evenParts`).
-/

namespace Cuts

variable {α : Type*} {l : List α} {a b m n : ℕ}

/-- The elements of a list from position `a` up to `b`. -/
def slice (l : List α) (a b : ℕ) : List α := (l.take b).drop a

theorem slice_length (h : b ≤ l.length) : (slice l a b).length = b - a := by
  rw [slice, List.length_drop, List.length_take, min_eq_left h]

theorem take_append_slice (h : a ≤ b) : l.take a ++ slice l a b = l.take b := by
  have hinit : l.take a = (l.take b).take a := by rw [List.take_take, min_eq_left h]
  rw [hinit, slice, List.take_append_drop]

/-- **Slices between growing positions join to what lies before the last of them.** -/
theorem flatten_slices {cut : ℕ → ℕ} (hzero : cut 0 = 0) (hmono : Monotone cut) (l : List α)
    (m : ℕ) :
    ((List.range m).map fun i => slice l (cut i) (cut (i + 1))).flatten = l.take (cut m) := by
  induction m with
  | zero => rw [hzero]; rfl
  | succ m ih =>
    have hstep := take_append_slice (l := l) (hmono (Nat.le_succ m))
    rw [List.range_succ, List.map_append, List.flatten_append, ih, List.map_singleton,
      List.flatten_singleton]
    exact hstep

/-! ## Even positions -/

theorem even_mono (n m : ℕ) : Monotone fun i => i * n / m := fun _ _ h =>
  Nat.div_le_div_right (Nat.mul_le_mul_right n h)

/-- **Two neighbouring positions are `n / m` apart, or one more.** -/
theorem even_step (hm : 0 < m) (n i : ℕ) :
    n / m ≤ (i + 1) * n / m - i * n / m ∧ (i + 1) * n / m - i * n / m ≤ n / m + 1 := by
  have hi := Nat.div_add_mod (i * n) m
  have hn := Nat.div_add_mod n m
  have hr := Nat.mod_lt (i * n) hm
  have hs := Nat.mod_lt n hm
  have hsum : (i + 1) * n = m * (i * n / m + n / m) + (i * n % m + n % m) := by
    rw [Nat.add_mul, Nat.one_mul, Nat.mul_add]
    omega
  have hquot : (i + 1) * n / m = i * n / m + n / m + (i * n % m + n % m) / m := by
    rw [hsum, Nat.mul_add_div hm]
  -- the two remainders together reach the next multiple at most once
  have hcarry : (i * n % m + n % m) / m < 2 := Nat.div_lt_of_lt_mul (by omega)
  rw [hquot, Nat.add_assoc, Nat.add_sub_cancel_left]
  generalize (i * n % m + n % m) / m = carry at hcarry ⊢
  omega

/-! ## Even parts -/

/-- Parts of a list: how many, that they are the list, that none is empty, and that they differ in
length by at most one. -/
structure EvenParts (count : ℕ) (parts : List (List α)) (l : List α) : Prop where
  count : parts.length = count
  whole : parts.flatten = l
  nonempty : ∀ part ∈ parts, part ≠ []
  even : ∀ part ∈ parts, ∀ other ∈ parts, part.length ≤ other.length + 1

theorem singletons_evenParts (l : List α) : EvenParts l.length (l.map fun x => [x]) l where
  count := List.length_map _
  whole := by
    induction l with
    | nil => rfl
    | cons x l ih => rw [List.map_cons, List.flatten_cons, ih]; rfl
  nonempty := by
    intro part hpart
    obtain ⟨x, -, rfl⟩ := List.mem_map.1 hpart
    exact List.cons_ne_nil _ _
  even := by
    intro part hpart other _
    obtain ⟨x, -, rfl⟩ := List.mem_map.1 hpart
    exact Nat.le_add_left 1 _

/-- **The slices between even positions are even parts.** -/
theorem slices_evenParts (hm : 0 < m) (hle : m ≤ l.length) :
    EvenParts m
      ((List.range m).map fun i => slice l (i * l.length / m) ((i + 1) * l.length / m)) l := by
  have hlength : ∀ i < m,
      (slice l (i * l.length / m) ((i + 1) * l.length / m)).length =
        (i + 1) * l.length / m - i * l.length / m := by
    intro i hi
    have hlast : (i + 1) * l.length / m ≤ m * l.length / m := even_mono l.length m hi
    rw [Nat.mul_div_cancel_left _ hm] at hlast
    exact slice_length hlast
  have hpart : ∀ part ∈ (List.range m).map fun i =>
      slice l (i * l.length / m) ((i + 1) * l.length / m),
      l.length / m ≤ part.length ∧ part.length ≤ l.length / m + 1 := by
    intro part hpart
    obtain ⟨i, hi, rfl⟩ := List.mem_map.1 hpart
    rw [hlength i (List.mem_range.1 hi)]
    exact even_step hm l.length i
  constructor
  · rw [List.length_map, List.length_range]
  · have hzero : (fun i => i * l.length / m) 0 = 0 := by simp
    have hflat := flatten_slices hzero (even_mono l.length m) l m
    rw [Nat.mul_div_cancel_left _ hm, List.take_length] at hflat
    exact hflat
  · -- at least one element for each part
    intro part hmem
    have hone : 1 ≤ l.length / m := Nat.div_pos hle hm
    have := (hpart part hmem).1
    exact List.ne_nil_of_length_pos (by omega)
  · intro part hmem other hother
    have h := (hpart part hmem).2
    have h' := (hpart other hother).1
    omega

/-- The last element of the last part is the last of the list. -/
theorem EvenParts.getLast {count : ℕ} {parts : List (List α)} (h : EvenParts count parts l) :
    parts.getLast?.bind List.getLast? = l.getLast? := by
  rcases List.eq_nil_or_concat parts with rfl | ⟨init, part, rfl⟩
  · rw [← h.whole]
    rfl
  · have hne : part ≠ [] := h.nonempty part (by simp)
    rw [← h.whole, List.concat_eq_append, List.getLast?_append_of_ne_nil _ (List.cons_ne_nil _ _),
      List.flatten_append, List.flatten_singleton, List.getLast?_append_of_ne_nil _ hne]
    rfl

end Cuts
