import Mathlib.Data.List.Sort

/-!
# Numbering by a sort

Items with different keys, sorted by key and counted from zero: each gets the number of keys
below its own (`mapIdx_eq`), whatever order the items came in.
-/

namespace Ranking

variable {α κ : Type*}

/-- A total order, as a test. -/
structure Order (le : κ → κ → Bool) : Prop where
  total : ∀ a b, le a b = true ∨ le b a = true
  trans : ∀ a b c, le a b = true → le b c = true → le a c = true
  antisymm : ∀ a b, le a b = true → le b a = true → a = b

variable (le : κ → κ → Bool)

/-- The number of keys below one. -/
def rank (keys : List κ) (k : κ) : ℕ := (keys.filter fun x => !le k x).length

/-- The items in the order of their keys. -/
def arranged (key : α → κ) (l : List α) : List α :=
  l.insertionSort fun a b => le (key a) (key b) = true

variable {le}

theorem rank_perm {keys keys' : List κ} (h : keys.Perm keys') (k : κ) :
    rank le keys k = rank le keys' k := (h.filter _).length_eq

theorem arranged_perm (le : κ → κ → Bool) (key : α → κ) (l : List α) :
    (arranged le key l).Perm l :=
  List.perm_insertionSort _ l

theorem arranged_map {β : Type*} (f : α → β) (key : β → κ) (l : List α) :
    (arranged le (fun a => key (f a)) l).map f = arranged le key (l.map f) :=
  List.map_insertionSort _ _ _ _ fun _ _ _ _ => Iff.rfl

/-- What is told of numbered items by their keys alone can be told of the keys. -/
theorem map_mapIdx_arranged {β γ δ : Type*} (f : α → β) (key : β → κ) {h : ℕ → α → δ} {p : δ → γ}
    {g : ℕ → β → γ} (l : List α) (hp : ∀ i a, p (h i a) = g i (f a)) :
    ((arranged le (fun a => key (f a)) l).mapIdx h).map p =
      (arranged le key (l.map f)).mapIdx g := by
  rw [← arranged_map f key l]
  refine List.ext_getElem? fun i => ?_
  rw [List.getElem?_map, List.getElem?_mapIdx, List.getElem?_mapIdx, List.getElem?_map]
  cases (arranged le (fun a => key (f a)) l)[i]? with
  | none => rfl
  | some a => exact congrArg some (hp i a)

theorem arranged_sorted (h : Order le) (key : α → κ) (l : List α) :
    (arranged le key l).Pairwise fun a b => le (key a) (key b) = true := by
  have htotal : Std.Total fun a b : α => le (key a) (key b) = true := ⟨fun a b => h.total _ _⟩
  have htrans : IsTrans α fun a b => le (key a) (key b) = true := ⟨fun a b c => h.trans _ _ _⟩
  exact List.pairwise_insertionSort _ l

/-- In an ordered list of different keys, the place of a key is its rank. -/
theorem rank_getElem (h : Order le) : ∀ {keys : List κ}, (keys.Pairwise fun a b => le a b = true) →
    keys.Nodup → ∀ {i : ℕ} {k : κ}, keys[i]? = some k → rank le keys k = i
  | [], _, _, i, k, hk => by cases hk
  | a :: keys, hsorted, hnodup, i, k, hk => by
    obtain ⟨hfirst, hrest⟩ := List.pairwise_cons.1 hsorted
    obtain ⟨hnew, hnodup'⟩ := List.nodup_cons.1 hnodup
    have hself : le a a = true := (h.total a a).elim id id
    cases i with
    | zero =>
      cases hk
      have hnone : ((a :: keys).filter fun x => !le a x) = [] := by
        rw [List.filter_eq_nil_iff]
        intro x hx
        rcases List.mem_cons.1 hx with rfl | hx
        · simp [hself]
        · simp [hfirst x hx]
      rw [rank, hnone]
      rfl
    | succ i =>
      have hmem : k ∈ keys := List.mem_of_getElem? hk
      have hbelow : le k a = false := by
        rw [← Bool.not_eq_true]
        intro hle
        exact hnew (h.antisymm a k (hfirst k hmem) hle ▸ hmem)
      have ih := rank_getElem h hrest hnodup' hk
      rw [rank] at ih ⊢
      rw [List.filter_cons_of_pos (by rw [hbelow]; rfl), List.length_cons, ih]

/-- Counting the sorted items numbers each with its rank. -/
theorem mapIdx_eq (h : Order le) {β : Type*} (f : ℕ → α → β) (key : α → κ) {l : List α}
    (hnodup : (l.map key).Nodup) :
    (arranged le key l).mapIdx f =
      (arranged le key l).map fun a => f (rank le (l.map key) (key a)) a := by
  have hperm := (arranged_perm le key l).map key
  have hsorted : ((arranged le key l).map key).Pairwise fun a b => le a b = true :=
    List.pairwise_map.2 (arranged_sorted h key l)
  have hnodup' : ((arranged le key l).map key).Nodup := hperm.nodup_iff.2 hnodup
  refine List.ext_getElem? fun i => ?_
  rw [List.getElem?_mapIdx, List.getElem?_map]
  cases hi : (arranged le key l)[i]? with
  | none => rfl
  | some a =>
    have hat : ((arranged le key l).map key)[i]? = some (key a) := by
      rw [List.getElem?_map, hi]
      rfl
    rw [Option.map_some, Option.map_some, ← rank_perm hperm,
      rank_getElem h hsorted hnodup' hat]

/-- The ranks of different keys are the numbers below their count. -/
theorem map_rank_perm (h : Order le) {keys : List κ} (hnodup : keys.Nodup) :
    (keys.map (rank le keys)).Perm (List.range keys.length) := by
  have hperm := arranged_perm le id keys
  have hcount := mapIdx_eq h (fun i _ => i) id (l := keys) (by rw [List.map_id]; exact hnodup)
  rw [List.map_id] at hcount
  have hrange : (arranged le id keys).mapIdx (fun i _ => i) = List.range keys.length := by
    refine List.ext_getElem? fun i => ?_
    rw [List.getElem?_mapIdx, ← hperm.length_eq]
    rcases Nat.lt_or_ge i (arranged le id keys).length with hlt | hge
    · rw [List.getElem?_eq_getElem hlt, List.getElem?_range hlt]
      rfl
    · rw [List.getElem?_eq_none hge, List.getElem?_eq_none (by rw [List.length_range]; exact hge)]
      rfl
  rw [← hrange, hcount]
  exact (hperm.map _).symm

end Ranking
