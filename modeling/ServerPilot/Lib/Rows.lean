import Mathlib.Data.List.Basic
import Mathlib.Data.List.Nodup
import Mathlib.Data.List.Sort

/-!
# Tables as lists of rows

A database table is a list of rows. Every statement a ledger runs against one is
an insertion (append), a deletion (filter) or an in-place update of the rows a
`where` clause selects, `updWhere`. The facts here say how membership, keys and
lookups move through those three.
-/

namespace Rows

variable {α β κ : Type*}

/-- `update … set f where p`. -/
def updWhere (p : α → Bool) (f : α → α) (l : List α) : List α :=
  l.map fun a => if p a then f a else a

theorem mem_updWhere {p : α → Bool} {f : α → α} {l : List α} {x : α} :
    x ∈ updWhere p f l ↔ ∃ a ∈ l, (p a = true ∧ x = f a) ∨ (p a = false ∧ x = a) := by
  unfold updWhere
  rw [List.mem_map]
  constructor
  · rintro ⟨a, ha, rfl⟩
    cases hp : p a with
    | true => exact ⟨a, ha, Or.inl ⟨hp, by simp⟩⟩
    | false => exact ⟨a, ha, Or.inr ⟨hp, by simp⟩⟩
  · rintro ⟨a, ha, ⟨hp, rfl⟩ | ⟨hp, rfl⟩⟩
    · exact ⟨a, ha, by simp [hp]⟩
    · exact ⟨x, ha, by simp [hp]⟩

/-- An update that no row matches changes nothing. -/
theorem updWhere_of_none {p : α → Bool} {f : α → α} {l : List α} (h : ∀ a ∈ l, p a = false) :
    updWhere p f l = l := by
  unfold updWhere
  conv_rhs => rw [← List.map_id l]
  apply List.map_congr_left
  intro a ha
  simp [h a ha]

/-- An update that leaves `g` alone leaves the column `g` alone. -/
theorem map_updWhere {p : α → Bool} {f : α → α} {g : α → β} (l : List α)
    (h : ∀ a, g (f a) = g a) : (updWhere p f l).map g = l.map g := by
  unfold updWhere
  rw [List.map_map]
  apply List.map_congr_left
  intro a _
  by_cases hp : p a = true
  · simp [hp, h a]
  · simp [hp]

@[simp] theorem updWhere_nil {p : α → Bool} {f : α → α} : updWhere p f [] = [] := rfl

theorem updWhere_append {p : α → Bool} {f : α → α} {l l' : List α} :
    updWhere p f (l ++ l') = updWhere p f l ++ updWhere p f l' := by
  simp [updWhere]

/-- An update that leaves the test `q` alone can be made after selecting by `q`. -/
theorem filter_updWhere {p q : α → Bool} {f : α → α} (l : List α) (h : ∀ a, q (f a) = q a) :
    (updWhere p f l).filter q = updWhere p f (l.filter q) := by
  unfold updWhere
  rw [List.filter_map]
  congr 1
  apply List.filter_congr
  intro a _
  by_cases hp : p a = true
  · simp [hp, h a]
  · simp [hp]

/-- An update that makes its rows fail the test `q` deletes them, as far as `q` goes. -/
theorem filter_updWhere_drop {p q : α → Bool} {f : α → α} (l : List α)
    (h : ∀ a, p a = true → q (f a) = false) :
    (updWhere p f l).filter q = l.filter fun a => q a && !p a := by
  induction l with
  | nil => rfl
  | cons a l ih =>
    have hc : updWhere p f (a :: l) = (if p a = true then f a else a) :: updWhere p f l := rfl
    rw [hc, List.filter_cons, List.filter_cons, ih]
    by_cases hp : p a = true
    · simp [hp, h a hp]
    · simp [hp]

/-- An update that keeps the key and never makes a row pass `q` leaves fewer keys, as far as `q`
goes. -/
theorem filter_updWhere_sublist {p q : α → Bool} {f : α → α} {g : α → β} (l : List α)
    (hg : ∀ a, g (f a) = g a) (hq : ∀ a, q (f a) = true → q a = true) :
    List.Sublist (((updWhere p f l).filter q).map g) ((l.filter q).map g) := by
  induction l with
  | nil => exact List.Sublist.slnil
  | cons a l ih =>
    have hc : updWhere p f (a :: l) = (if p a = true then f a else a) :: updWhere p f l := rfl
    rw [hc]
    by_cases hp : p a = true
    · rw [if_pos hp]
      by_cases hf : q (f a) = true
      · rw [List.filter_cons_of_pos hf, List.filter_cons_of_pos (hq a hf), List.map_cons,
          List.map_cons, hg]
        exact ih.cons_cons _
      · rw [List.filter_cons_of_neg hf]
        refine ih.trans ?_
        exact (List.Sublist.filter q (List.sublist_cons_self a l)).map g
    · rw [if_neg hp]
      by_cases ha : q a = true
      · rw [List.filter_cons_of_pos ha, List.filter_cons_of_pos ha, List.map_cons, List.map_cons]
        exact ih.cons_cons _
      · rw [List.filter_cons_of_neg ha, List.filter_cons_of_neg ha]
        exact ih

/-- An update keeps a partial unique index exactly when no row it writes comes to share its key with
another row of the index. -/
theorem nodup_filter_updWhere_iff {p q : α → Bool} {f : α → α} {g : α → β} {l : List α}
    (hn : l.Nodup)
    (hg : ((l.filter q).map g).Nodup) :
    (((updWhere p f l).filter q).map g).Nodup ↔
      ∀ a ∈ l, p a = true → q (f a) = true → ∀ a' ∈ l, a' ≠ a →
        q (if p a' then f a' else a') = true → g (if p a' then f a' else a') ≠ g (f a) := by
  have hmap : ((updWhere p f l).filter q).map g =
      (l.filter fun a => q (if p a then f a else a)).map fun a => g (if p a then f a else a) := by
    unfold updWhere
    rw [List.filter_map, List.map_map]
    rfl
  rw [hmap, List.nodup_map_iff_inj_on (hn.filter _)]
  constructor
  · intro h a ha hp hq a' ha' hne hq' heq
    refine hne (h a' (List.mem_filter.2 ⟨ha', hq'⟩) a (List.mem_filter.2 ⟨ha, ?_⟩) ?_)
    · rwa [if_pos hp]
    · rwa [if_pos hp]
  · intro h a ha a' ha' heq
    obtain ⟨ha, hq⟩ := List.mem_filter.1 ha
    obtain ⟨ha', hq'⟩ := List.mem_filter.1 ha'
    by_contra hne
    by_cases hp : p a = true
    · rw [if_pos hp] at hq heq
      exact h a ha hp hq a' ha' (Ne.symm hne) hq' heq.symm
    · by_cases hp' : p a' = true
      · rw [if_pos hp'] at hq' heq
        exact h a' ha' hp' hq' a ha hne hq heq
      · -- neither row is written
        rw [if_neg hp] at hq heq
        rw [if_neg hp'] at hq' heq
        exact hne (List.inj_on_of_nodup_map hg (List.mem_filter.2 ⟨ha, hq⟩)
          (List.mem_filter.2 ⟨ha', hq'⟩) heq)

/-- The row with the greatest column `f`, the first of equals: `order by f desc limit 1`. -/
def latest [LT β] [DecidableLT β] (f : α → β) : List α → Option α
  | [] => none
  | a :: l =>
    match latest f l with
    | none => some a
    | some b => if f a < f b then some b else some a

theorem latest_mem [LT β] [DecidableLT β] {f : α → β} {l : List α} {a : α}
    (h : latest f l = some a) : a ∈ l := by
  induction l with
  | nil => cases h
  | cons x l ih =>
    unfold latest at h
    split at h
    · cases h
      exact List.mem_cons_self
    · rename_i b hb
      split at h
      · cases h
        exact List.mem_cons_of_mem x (ih hb)
      · cases h
        exact List.mem_cons_self

theorem latest_eq_none [LT β] [DecidableLT β] {f : α → β} {l : List α} :
    latest f l = none ↔ l = [] := by
  cases l with
  | nil => simp [latest]
  | cons a l =>
    unfold latest
    split
    · simp
    · split <;> simp

/-- The newest row passing `p`: rows before it are older, and rows after it are not newer. -/
theorem latest_filter_eq_some_iff [LinearOrder β] {p : α → Bool} {f : α → β} {l : List α} {a : α} :
    latest f (l.filter p) = some a ↔ p a = true ∧ ∃ pre post, l = pre ++ a :: post ∧
      (∀ x ∈ pre, p x = true → f x < f a) ∧ ∀ x ∈ post, p x = true → f x ≤ f a := by
  induction l generalizing a with
  | nil => simp [latest]
  | cons b l ih =>
    by_cases hb : p b = true
    · rw [List.filter_cons_of_pos hb]
      unfold latest
      cases hl : latest f (l.filter p) with
      | none =>
        have hnone : ∀ x ∈ l, ¬ p x = true := List.filter_eq_nil_iff.1 (latest_eq_none.1 hl)
        simp only [Option.some.injEq]
        constructor
        · rintro rfl
          exact ⟨hb, [], l, rfl, by simp, fun x hx hp => absurd hp (hnone x hx)⟩
        · rintro ⟨ha, pre, post, he, -, -⟩
          cases pre with
          | nil => exact (List.cons.inj he).1
          | cons c pre =>
            obtain ⟨-, rfl⟩ := List.cons.inj he
            exact absurd ha (hnone a (by simp))
      | some c =>
        obtain ⟨hc, pre, post, hdec, hpre, hpost⟩ := ih.1 hl
        have hmax : ∀ x ∈ l, p x = true → f x ≤ f c := by
          intro x hx hp
          rw [hdec] at hx
          rcases List.mem_append.1 hx with hx | hx
          · exact (hpre x hx hp).le
          · rcases List.mem_cons.1 hx with rfl | hx
            · exact le_rfl
            · exact hpost x hx hp
        simp only
        by_cases hbc : f b < f c
        · rw [if_pos hbc, Option.some.injEq]
          constructor
          · rintro rfl
            refine ⟨hc, b :: pre, post, by rw [hdec]; rfl, fun x hx hp => ?_, hpost⟩
            rcases List.mem_cons.1 hx with rfl | hx
            · exact hbc
            · exact hpre x hx hp
          · rintro ⟨ha, pre', post', he, hpre', hpost'⟩
            cases pre' with
            | nil =>
              obtain ⟨rfl, rfl⟩ := List.cons.inj he
              exact absurd (hpost' c (by rw [hdec]; simp) hc) (not_le.2 hbc)
            | cons d pre' =>
              obtain ⟨rfl, rfl⟩ := List.cons.inj he
              have hla := ih.2 ⟨ha, pre', post', rfl,
                fun x hx => hpre' x (List.mem_cons_of_mem b hx), hpost'⟩
              rw [hl] at hla
              exact Option.some.inj hla
        · rw [if_neg hbc, Option.some.injEq]
          constructor
          · rintro rfl
            exact ⟨hb, [], l, rfl, by simp, fun x hx hp => (hmax x hx hp).trans (not_lt.1 hbc)⟩
          · rintro ⟨ha, pre', post', he, hpre', hpost'⟩
            cases pre' with
            | nil => exact (List.cons.inj he).1
            | cons d pre' =>
              obtain ⟨rfl, rfl⟩ := List.cons.inj he
              have hlt := hpre' b List.mem_cons_self hb
              have hle := hmax a (by simp) ha
              exact absurd (hlt.trans_le hle) hbc
    · rw [List.filter_cons_of_neg hb, ih]
      constructor
      · rintro ⟨ha, pre, post, rfl, hpre, hpost⟩
        refine ⟨ha, b :: pre, post, rfl, fun x hx hp => ?_, hpost⟩
        rcases List.mem_cons.1 hx with rfl | hx
        · exact absurd hp hb
        · exact hpre x hx hp
      · rintro ⟨ha, pre, post, he, hpre, hpost⟩
        cases pre with
        | nil =>
          obtain ⟨rfl, -⟩ := List.cons.inj he
          exact absurd ha hb
        | cons c pre =>
          obtain ⟨rfl, rfl⟩ := List.cons.inj he
          exact ⟨ha, pre, post, rfl, fun x hx => hpre x (List.mem_cons_of_mem b hx), hpost⟩

/-- The row with key `k`. -/
def row? [DecidableEq κ] (key : α → κ) (k : κ) (l : List α) : Option α :=
  l.find? fun a => key a = k

variable [DecidableEq κ] {key : α → κ}

theorem row?_some {k : κ} {l : List α} {a : α} (h : row? key k l = some a) : a ∈ l ∧ key a = k := by
  unfold row? at h
  exact ⟨List.mem_of_find?_eq_some h, by simpa using List.find?_some h⟩

theorem row?_none {k : κ} {l : List α} (h : row? key k l = none) : ∀ a ∈ l, key a ≠ k := by
  unfold row? at h
  simpa using h

/-- With unique keys a row is the one its key finds. -/
theorem row?_of_mem {l : List α} (hn : (l.map key).Nodup) {a : α} (ha : a ∈ l) :
    row? key (key a) l = some a := by
  cases h : row? key (key a) l with
  | none => exact absurd rfl (row?_none h a ha)
  | some b =>
    obtain ⟨hb, hk⟩ := row?_some h
    rw [List.inj_on_of_nodup_map hn hb ha hk]

/-- The selection of one key is its row. -/
theorem filter_key_of_mem {l : List α} (hn : (l.map key).Nodup) {a : α} (ha : a ∈ l) :
    (l.filter fun x => key x = key a) = [a] := by
  induction l with
  | nil => cases ha
  | cons b l ih =>
    obtain ⟨hb, hn⟩ := List.nodup_cons.1 hn
    rcases List.mem_cons.1 ha with rfl | ha
    · rw [List.filter_cons_of_pos (by simp), List.filter_eq_nil_iff.2]
      intro x hx he
      exact hb (List.mem_map.2 ⟨x, hx, by simpa using he⟩)
    · have hne : key b ≠ key a := fun he => hb (he ▸ List.mem_map_of_mem ha)
      rw [List.filter_cons_of_neg (by simpa using hne), ih hn ha]

/-- A selection by key that admits `k` leaves the row of `k`. -/
theorem row?_filter {q : α → Bool} {k : κ} {l : List α} (h : ∀ a ∈ l, key a = k → q a = true) :
    row? key k (l.filter q) = row? key k l := by
  unfold row?
  rw [List.find?_filter]
  induction l with
  | nil => rfl
  | cons a l ih =>
    rw [List.find?_cons, List.find?_cons, ih fun x hx => h x (List.mem_cons_of_mem a hx)]
    by_cases hk : key a = k
    · simp [hk, h a List.mem_cons_self hk]
    · simp [hk]

theorem row?_append {k : κ} {l l' : List α} :
    row? key k (l ++ l') = (row? key k l).or (row? key k l') := by
  simp [row?, List.find?_append]

/-- Lookups through an update that keeps the key. -/
theorem row?_updWhere {p : α → Bool} {f : α → α} {l : List α} {k : κ}
    (h : ∀ a, key (f a) = key a) :
    row? key k (updWhere p f l) = (row? key k l).map fun a => if p a then f a else a := by
  unfold row? updWhere
  rw [List.find?_map]
  have hc : ((fun a => decide (key a = k)) ∘ fun a => if p a = true then f a else a)
      = fun a => decide (key a = k) := by
    funext a
    by_cases hp : p a = true
    · simp [hp, h a]
    · simp [hp]
  rw [hc]

/-! ## Tables of pairs -/

theorem mem_of_lookup {α β : Type*} [BEq α] [LawfulBEq α] {l : List (α × β)} {a : α} {b : β}
    (h : l.lookup a = some b) : (a, b) ∈ l := by
  obtain ⟨l₁, l₂, rfl, -⟩ := List.lookup_eq_some_iff.1 h
  exact List.mem_append_right _ List.mem_cons_self

end Rows
