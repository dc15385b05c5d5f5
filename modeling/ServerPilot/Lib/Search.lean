import Mathlib.Data.List.Infix
import Mathlib.Data.List.TakeWhile

/-!
# Searching a text for a pattern

A pattern is told by what it takes of the text from one position on. `search` is its first match
and `findallFrom` all its matches that do not overlap. A pattern that begins with a tag and a
separator is searched for segment by segment (`search_segment`): it can match only where a segment
ends with the tag.
-/

namespace Search

variable {α β : Type*}

/-- What the pattern takes at the first position where it matches. -/
def search (pattern : List α → Option β) : List α → Option β
  | [] => pattern []
  | c :: s =>
    match pattern (c :: s) with
    | some b => some b
    | none => search pattern s

/-- What the pattern takes at each match, with the text that follows the match: a match begins
where the one before has ended or later. `start` is true at the start of the text, and `skip`
characters still belong to a match. -/
def findallFrom (pattern : Bool → List α → Option (β × List α)) : Bool → ℕ → List α → List β
  | _, _, [] => []
  | _, skip + 1, _ :: s => findallFrom pattern false skip s
  | start, 0, c :: s =>
    match pattern start (c :: s) with
    | some (b, rest) => b :: findallFrom pattern false (s.length - rest.length) s
    | none => findallFrom pattern false 0 s

/-- What follows `tag` and a separator, at the start of a text. -/
def tagged [DecidableEq α] (sep : α) (tag s : List α) : Option (List α) :=
  if (tag ++ [sep]).isPrefixOf s then some (s.drop (tag.length + 1)) else none

/-! ## Searching -/

section

variable {pattern : List α → Option β}

theorem search_cons (c : α) (s : List α) :
    search pattern (c :: s) = (pattern (c :: s)).or (search pattern s) := by
  unfold search
  cases pattern (c :: s) with
  | some b => rfl
  | none =>
    cases s with
    | nil => rfl
    | cons d s => rfl

end

theorem append_cons_inj {sep : α} : ∀ {x y s t : List α}, sep ∉ x → sep ∉ y →
    x ++ sep :: s = y ++ sep :: t → x = y ∧ s = t
  | [], [], _, _, _, _, h => ⟨rfl, (List.cons.inj h).2⟩
  | [], b :: _, _, _, _, hy, h => absurd ((List.cons.inj h).1 ▸ List.mem_cons_self) hy
  | a :: _, [], _, _, hx, _, h => absurd ((List.cons.inj h).1 ▸ List.mem_cons_self) hx
  | a :: x, b :: y, s, t, hx, hy, h => by
    obtain ⟨hhead, htail⟩ := List.cons.inj h
    obtain ⟨hxy, hst⟩ := append_cons_inj (fun hin => hx (List.mem_cons_of_mem a hin))
      (fun hin => hy (List.mem_cons_of_mem b hin)) htail
    exact ⟨by rw [hhead, hxy], hst⟩

section

variable [DecidableEq α] {sep : α} {tag : List α} {f : List α → Option β}

/-- A tag is found only where it is all of what stands before the separator. -/
theorem tagged_segment {seg : List α} (htag : sep ∉ tag) (hseg : sep ∉ seg) (r : List α) :
    tagged sep tag (seg ++ sep :: r) = if seg = tag then some r else none := by
  unfold tagged
  split_ifs with hpre heq heq
  · rw [heq, List.drop_append, List.drop_eq_nil_of_le (Nat.le_succ _), Nat.add_sub_cancel_left]
    rfl
  · refine absurd ?_ heq
    obtain ⟨t, ht⟩ := List.isPrefixOf_iff_prefix.1 hpre
    rw [List.append_assoc, List.singleton_append] at ht
    exact (append_cons_inj htag hseg ht).1.symm
  · refine absurd (List.isPrefixOf_iff_prefix.2 ⟨r, ?_⟩) hpre
    rw [heq, List.append_assoc, List.singleton_append]
  · rfl

theorem tagged_of_notMem {s : List α} (h : sep ∉ s) : tagged sep tag s = none := by
  unfold tagged
  rw [if_neg]
  intro hpre
  obtain ⟨t, rfl⟩ := List.isPrefixOf_iff_prefix.1 hpre
  exact h (List.mem_append_left t (List.mem_append_right tag List.mem_cons_self))

/-- **One segment.** The pattern matches at its end, if it ends with the tag, or else after it. -/
theorem search_segment (htag : sep ∉ tag) : ∀ {seg : List α}, sep ∉ seg → ∀ r : List α,
    search (fun s => (tagged sep tag s).bind f) (seg ++ sep :: r) =
      if tag <:+ seg then (f r).or (search (fun s => (tagged sep tag s).bind f) r)
      else search (fun s => (tagged sep tag s).bind f) r
  | [], hseg, r => by
    rw [List.nil_append, search_cons]
    have h : tagged sep tag (sep :: r) = if [] = tag then some r else none :=
      tagged_segment htag hseg r
    rw [h]
    by_cases htag' : tag = []
    · rw [if_pos htag'.symm, if_pos (htag' ▸ List.suffix_rfl)]
      rfl
    · rw [if_neg (Ne.symm htag'), if_neg fun hs => htag' (List.suffix_nil.1 hs)]
      rfl
  | c :: seg, hseg, r => by
    -- either the whole segment is the tag, or the tag ends the rest of it
    have hseg' : sep ∉ seg := fun hin => hseg (List.mem_cons_of_mem c hin)
    rw [List.cons_append, search_cons, ← List.cons_append, tagged_segment htag hseg,
      search_segment htag hseg']
    by_cases heq : c :: seg = tag
    · have hlong : ¬ tag <:+ seg := by
        intro hs
        have hle := hs.length_le
        rw [← heq, List.length_cons] at hle
        omega
      rw [if_pos heq, if_neg hlong, if_pos (heq ▸ List.suffix_rfl)]
      rfl
    · have hiff : tag <:+ c :: seg ↔ tag <:+ seg := by
        rw [List.suffix_cons_iff]
        exact or_iff_right (Ne.symm heq)
      rw [if_neg heq]
      simp only [hiff]
      rfl

/-- Nothing is found without a separator. -/
theorem search_of_notMem : ∀ {s : List α}, sep ∉ s →
    search (fun s => (tagged sep tag s).bind f) s = none
  | [], h => by
    unfold search
    rw [tagged_of_notMem h]
    rfl
  | c :: s, h => by
    rw [search_cons, tagged_of_notMem h,
      search_of_notMem fun hin => h (List.mem_cons_of_mem c hin)]
    rfl

end

/-! ## Finding all -/

section

variable {pattern : Bool → List α → Option (β × List α)}

theorem findallFrom_skip : ∀ (p rest : List α),
    findallFrom pattern false p.length (p ++ rest) = findallFrom pattern false 0 rest
  | [], rest => rfl
  | c :: p, rest => by
    rw [List.cons_append, List.length_cons, findallFrom, findallFrom_skip p rest]

/-- After a match the search goes on with what follows it. -/
theorem findallFrom_match {start : Bool} {p rest : List α} {b : β} (hp : p ≠ [])
    (h : pattern start (p ++ rest) = some (b, rest)) :
    findallFrom pattern start 0 (p ++ rest) = b :: findallFrom pattern false 0 rest := by
  cases p with
  | nil => exact absurd rfl hp
  | cons c p =>
    rw [List.cons_append] at h ⊢
    rw [findallFrom, h]
    simp only
    rw [List.length_append, Nat.add_sub_cancel, findallFrom_skip]

/-- Where the pattern does not match, the search goes on one character later. -/
theorem findallFrom_cons {start : Bool} {c : α} {s : List α} (h : pattern start (c :: s) = none) :
    findallFrom pattern start 0 (c :: s) = findallFrom pattern false 0 s := by
  rw [findallFrom, h]

/-- A part in which no match begins. -/
theorem findallFrom_pass {p rest : List α} (h : ∀ c ∈ p, ∀ s, pattern false (c :: s) = none) :
    findallFrom pattern false 0 (p ++ rest) = findallFrom pattern false 0 rest := by
  induction p with
  | nil => rfl
  | cons c p ih =>
    rw [List.cons_append, findallFrom_cons (h c List.mem_cons_self _)]
    exact ih fun d hd => h d (List.mem_cons_of_mem c hd)

end

end Search
