import Mathlib.Algebra.Order.Group.Defs
import Mathlib.Algebra.Order.Group.Unbundled.Basic
import Mathlib.Data.List.Induction
import Mathlib.Data.List.Perm.Subperm

/-!
# Batches of what lies close together

Elements in order of their position are put into batches, one by one: into the last batch while they
lie within `width` of its first element, and else into a new one. The batches give the list back
(`batched_flatten`), no two elements of one lie farther apart than `width` (`batched_spans`), and
no grouping with that property has fewer groups (`batched_length_le`).
-/

namespace Batches

variable {α T : Type*} [AddCommGroup T] [LinearOrder T] [IsOrderedAddMonoid T]

section

variable (pos : α → T) (width : T)

/-- Put an element into the last batch, or into a new one. -/
def join (batches : List (List α)) (x : α) : List (List α) :=
  match batches.getLast? with
  | some (head :: rest) =>
    if pos x - pos head ≤ width then batches.dropLast ++ [head :: rest ++ [x]]
    else batches ++ [[x]]
  | _ => batches ++ [[x]]

def batched (xs : List α) : List (List α) := xs.foldl (join pos width) []

/-- How the batches of `done` stand: each lies within `width` of its head, and the heads lie farther
apart than that. -/
structure Sound (done : List α) (batches : List (List α)) : Prop where
  flatten : batches.flatten = done
  span : ∀ b ∈ batches, ∃ h r, b = h :: r ∧ ∀ x ∈ r, pos x - pos h ≤ width
  apart : (batches.filterMap List.head?).Pairwise fun a b => width < pos b - pos a

end

variable {pos : α → T} {width : T} {xs done : List α} {batches : List (List α)}

theorem Sound.join (hw : 0 ≤ width) (hs : Sound pos width done batches) (x : α) :
    Sound pos width (done ++ [x]) (join pos width batches x) := by
  unfold Batches.join
  rcases List.eq_nil_or_concat batches with rfl | ⟨front, last, rfl⟩
  · obtain rfl : [] = done := hs.flatten
    exact ⟨rfl, fun b hb => ⟨x, [], List.mem_singleton.1 hb, fun _ h => absurd h List.not_mem_nil⟩,
      List.pairwise_singleton _ _⟩
  obtain ⟨h, r, rfl, hr⟩ := hs.span last (by simp)
  have hflat := hs.flatten
  have hfront : ∀ b ∈ front, ∃ h r, b = h :: r ∧ ∀ x ∈ r, pos x - pos h ≤ width :=
    fun b hb => hs.span b (by simp [hb])
  have hapart := hs.apart
  simp only [List.concat_eq_append, List.flatten_append, List.flatten_singleton,
    List.filterMap_append, List.getLast?_append, List.getLast?_singleton, Option.some_or,
    List.dropLast_concat] at hflat hapart ⊢
  split
  · rename_i hclose
    refine ⟨by rw [← hflat]; simp, fun b hb => ?_, ?_⟩
    · rcases List.mem_append.1 hb with hb | hb
      · exact hfront b hb
      · obtain rfl := List.mem_singleton.1 hb
        refine ⟨h, r ++ [x], rfl, fun y hy => ?_⟩
        rcases List.mem_append.1 hy with hy | hy
        · exact hr y hy
        · rwa [List.mem_singleton.1 hy]
    · simpa using hapart
  · rename_i hfar
    refine ⟨by rw [← hflat]; simp, fun b hb => ?_, ?_⟩
    · rcases List.mem_append.1 hb with hb | hb
      · rcases List.mem_append.1 hb with hb | hb
        · exact hfront b hb
        · obtain rfl := List.mem_singleton.1 hb
          exact ⟨h, r, rfl, hr⟩
      · exact ⟨x, [], List.mem_singleton.1 hb, fun _ h => absurd h List.not_mem_nil⟩
    · -- the new head is farther from the others than from the last
      have hnew : width < pos x - pos h := not_le.1 hfar
      have hold := (List.pairwise_append.1 hapart).2.2
      rw [List.filterMap_append, List.pairwise_append]
      refine ⟨by simpa using hapart, by simp, fun a ha c hc => ?_⟩
      obtain rfl : c = x := by simpa using hc
      rw [List.filterMap_append] at ha
      rcases List.mem_append.1 ha with ha | ha
      · have hlast : width < pos h - pos a := hold a ha h (by simp)
        calc width < pos h - pos a := hlast
          _ ≤ (pos c - pos h) + (pos h - pos a) :=
            le_add_of_nonneg_left (hw.trans hnew.le)
          _ = pos c - pos a := sub_add_sub_cancel _ _ _
      · obtain rfl : a = h := by simpa using ha
        exact hnew

theorem batched_sound (hw : 0 ≤ width) (xs : List α) :
    Sound pos width xs (batched pos width xs) := by
  unfold batched
  induction xs using List.reverseRecOn with
  | nil => exact ⟨rfl, fun _ h => absurd h List.not_mem_nil, List.Pairwise.nil⟩
  | append_singleton xs x ih =>
    rw [List.foldl_append]
    exact ih.join hw x

/-- **The batches give the list back.** -/
theorem batched_flatten (hw : 0 ≤ width) (xs : List α) : (batched pos width xs).flatten = xs :=
  (batched_sound hw xs).flatten

/-- **A batch spans no more than `width`**, where the list is in order. -/
theorem batched_spans (hw : 0 ≤ width) (hxs : xs.Pairwise fun x y => pos x ≤ pos y) {b : List α}
    (hb : b ∈ batched pos width xs) {x y : α} (hx : x ∈ b) (hy : y ∈ b) :
    pos x - pos y ≤ width := by
  obtain ⟨h, r, rfl, hr⟩ := (batched_sound hw xs).span b hb
  have hsub : List.Sublist (h :: r) xs := by
    have hmem := List.sublist_flatten_of_mem hb
    rwa [batched_flatten hw] at hmem
  have hfirst := (List.pairwise_cons.1 (hxs.sublist hsub)).1
  have hlow : pos h ≤ pos y := by
    rcases List.mem_cons.1 hy with rfl | hy
    · exact le_rfl
    · exact hfirst y hy
  have hhigh : pos x - pos h ≤ width := by
    rcases List.mem_cons.1 hx with rfl | hx
    · rwa [sub_self]
    · exact hr x hx
  exact (sub_le_sub_left hlow (pos x)).trans hhigh

omit [IsOrderedAddMonoid T] in
/-- Elements farther apart than `width` are in groups of their own. -/
theorem length_le_of_apart {hs : List α} (hapart : hs.Pairwise fun a b => width < pos b - pos a)
    {groups : List (List α)} (hcover : ∀ x ∈ hs, ∃ g ∈ groups, x ∈ g)
    (hspan : ∀ g ∈ groups, ∀ x ∈ g, ∀ y ∈ g, pos x - pos y ≤ width) :
    hs.length ≤ groups.length := by
  have hgroup : ∀ x, ∃ g, x ∈ hs → g ∈ groups ∧ x ∈ g := by
    intro x
    by_cases hx : x ∈ hs
    · obtain ⟨g, hg, hxg⟩ := hcover x hx
      exact ⟨g, fun _ => ⟨hg, hxg⟩⟩
    · exact ⟨[], fun h => absurd h hx⟩
  choose group hgroup using hgroup
  have hnodup : (hs.map group).Nodup := by
    refine List.pairwise_map.2 (hapart.imp_of_mem fun {a b} ha hb hlt hsame => ?_)
    have hclose := hspan (group a) (hgroup a ha).1 b (hsame ▸ (hgroup b hb).2) a (hgroup a ha).2
    exact absurd hclose (not_le.2 hlt)
  have hsub : hs.map group ⊆ groups := by
    intro g hg
    obtain ⟨x, hx, rfl⟩ := List.mem_map.1 hg
    exact (hgroup x hx).1
  calc hs.length = (hs.map group).length := (List.length_map _).symm
    _ ≤ groups.length := (List.subperm_of_subset hnodup hsub).length_le

/-- **No grouping has fewer groups.** -/
theorem batched_length_le (hw : 0 ≤ width) {groups : List (List α)}
    (hcover : ∀ x ∈ xs, ∃ g ∈ groups, x ∈ g)
    (hspan : ∀ g ∈ groups, ∀ x ∈ g, ∀ y ∈ g, pos x - pos y ≤ width) :
    (batched pos width xs).length ≤ groups.length := by
  have hs : Sound pos width xs (batched pos width xs) := batched_sound hw xs
  have hheads : ((batched pos width xs).filterMap List.head?).length =
      (batched pos width xs).length := by
    rw [List.filterMap_length_eq_length]
    intro b hb
    obtain ⟨h, r, rfl, -⟩ := hs.span b hb
    rfl
  rw [← hheads]
  refine length_le_of_apart hs.apart (fun x hx => hcover x ?_) hspan
  obtain ⟨b, hb, hx⟩ := List.mem_filterMap.1 hx
  rw [← hs.flatten]
  exact List.mem_flatten.2 ⟨b, hb, List.mem_of_mem_head? hx⟩

end Batches
