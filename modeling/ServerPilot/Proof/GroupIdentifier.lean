import Mathlib.Data.List.Chain
import ServerPilot.Spec.GroupIdentifier

/-!
# Every name has a group id

What folding leaves has no two dashes in a row (`foldl_slugged`), so that cutting a slug to
120 characters and trimming it costs one character at most: two are always left
(`slugOf_shape`). The number adds eight at most while fewer than a million ids are taken.
`groupId_made` puts this together.
-/

namespace ServerPilot.Desktop

open Numbering

/-! ## Folding -/

/-- A character of a slug. -/
def isSlugChar (c : Char) : Bool := isFolded c || c == '-'

/-- The begin of a slug: it does not begin with a dash, and has no two in a row. -/
structure Slugged (l : List Char) : Prop where
  chars : ∀ c ∈ l, isSlugChar c = true
  head : ∀ c ∈ l.head?, isFolded c = true
  gaps : l.IsChain fun a b => a ≠ '-' ∨ b ≠ '-'

theorem ne_dash {c : Char} (h : isFolded c = true) : c ≠ '-' := by
  rintro rfl
  exact absurd h (by decide)

/-- What a character at the end must be like for the slug to stay one. -/
theorem Slugged.concat {l : List Char} (h : Slugged l) {c : Char} (hc : isSlugChar c = true)
    (hfirst : l = [] → isFolded c = true) (hgap : ∀ b ∈ l.getLast?, b ≠ '-' ∨ c ≠ '-') :
    Slugged (l ++ [c]) where
  chars := by
    intro x hx
    rcases List.mem_append.1 hx with hx | hx
    · exact h.chars x hx
    · rw [List.mem_singleton.1 hx]
      exact hc
  head := by
    intro x hx
    cases l with
    | nil =>
      cases hx
      exact hfirst rfl
    | cons a rest => exact h.head x hx
  gaps := by
    refine h.gaps.append (List.isChain_singleton c) ?_
    intro b hb x hx
    cases hx
    exact hgap b hb

theorem foldScalar_slugged {slug : List Char} (h : Slugged slug) (scalar : Char) :
    Slugged (foldScalar slug scalar) := by
  unfold foldScalar
  split_ifs with hfolded hdash
  · refine h.concat ?_ (fun _ => hfolded) fun _ _ => Or.inr (ne_dash hfolded)
    rw [isSlugChar, hfolded]
    rfl
  · obtain ⟨hne, hend⟩ := Bool.and_eq_true_iff.1 hdash
    refine h.concat rfl ?_ ?_
    · rintro rfl
      cases hne
    · intro b hb
      refine Or.inl fun hb' => ?_
      rw [endsInDash, Option.mem_def.1 hb, hb'] at hend
      cases hend
  · exact h

/-- What the folding loop leaves. -/
theorem foldl_slugged (ascii : List Char) : Slugged (ascii.foldl foldScalar []) := by
  suffices h : ∀ slug, Slugged slug → Slugged (ascii.foldl foldScalar slug) from
    h [] ⟨by simp, by simp, .nil⟩
  induction ascii with
  | nil => exact fun _ h => h
  | cons c rest ih => exact fun slug h => ih _ (foldScalar_slugged h c)

/-! ## Trimming -/

theorem trimDashes_begins (l : List Char) : trimDashes l <+: l := List.rdropWhile_prefix _ l

theorem Slugged.begin {l k : List Char} (h : Slugged l) (hk : k <+: l) : Slugged k where
  chars := fun c hc => h.chars c (hk.subset hc)
  head := by
    intro c hc
    obtain ⟨rest, rfl⟩ := hk
    cases k with
    | nil => cases hc
    | cons a k => exact h.head c hc
  gaps := List.IsChain.prefix h.gaps hk

/-- A character that is no dash survives, with all before it. -/
theorem lt_length_trimDashes {l : List Char} {i : ℕ} {c : Char} (hc : l[i]? = some c)
    (hne : c ≠ '-') : i < (trimDashes l).length := by
  induction l using List.reverseRecOn with
  | nil => cases hc
  | append_singleton l x ih =>
    unfold trimDashes at ih ⊢
    by_cases hx : (x == '-') = true
    · rw [List.rdropWhile_concat_pos (· == '-') l x hx]
      refine ih ?_
      rw [← hc, eq_comm]
      refine List.getElem?_append_left ?_
      have hlt : i < (l ++ [x]).length := (List.getElem?_eq_some_iff.1 hc).1
      rw [List.length_append, List.length_singleton] at hlt
      refine lt_of_le_of_ne (Nat.lt_succ_iff.1 hlt) ?_
      rintro rfl
      rw [List.getElem?_concat_length] at hc
      cases hc
      exact hne (beq_iff_eq.1 hx)
    · rw [List.rdropWhile_concat_neg (· == '-') l x hx]
      exact (List.getElem?_eq_some_iff.1 hc).1

/-- The last character of a trimmed slug is no dash. -/
theorem trimDashes_last {l : List Char} {c : Char} (h : (trimDashes l).getLast? = some c) :
    c ≠ '-' := by
  have hne : trimDashes l ≠ [] := by
    intro hnil
    rw [hnil] at h
    cases h
  have hlast := List.rdropWhile_last_not (· == '-') l hne
  rw [List.getLast?_eq_some_getLast hne] at h
  cases h
  exact fun hc => hlast (beq_iff_eq.2 hc)

/-! ## A slug before its number -/

/-- What a slug to be cut is like: a letter, and a character that is no dash second or third. -/
structure Lettered (l : List Char) : Prop where
  chars : ∀ c ∈ l, isSlugChar c = true
  letter : ∃ c, l[0]? = some c ∧ ('a' ≤ c ∧ c ≤ 'z')
  second : ∃ i, 1 ≤ i ∧ i ≤ 2 ∧ ∃ c, l[i]? = some c ∧ c ≠ '-'

theorem lettered_group : Lettered "group".toList where
  chars := List.all_eq_true.1 (by decide)
  letter := ⟨'g', rfl, by decide⟩
  second := ⟨1, by omega, by omega, 'r', rfl, by decide⟩

theorem lettered_group_append {slug : List Char} (h : Slugged slug) :
    Lettered ("group-".toList ++ slug) where
  chars := by
    intro c hc
    rcases List.mem_append.1 hc with hc | hc
    · exact List.all_eq_true.1 (by decide : "group-".toList.all isSlugChar = true) c hc
    · exact h.chars c hc
  letter := ⟨'g', rfl, by decide⟩
  second := ⟨1, by omega, by omega, 'r', rfl, by decide⟩

/-- Of a trimmed slug of two characters or more, the second or the third is no dash. -/
theorem trimmed_second {l : List Char} (h : Slugged (trimDashes l))
    (hlen : 2 ≤ (trimDashes l).length) :
    ∃ i, 1 ≤ i ∧ i ≤ 2 ∧ ∃ c, (trimDashes l)[i]? = some c ∧ c ≠ '-' := by
  have hlast := @trimDashes_last l
  generalize trimDashes l = k at h hlen hlast
  match k, hlen with
  | [a, b], _ => exact ⟨1, by omega, by omega, b, rfl, hlast rfl⟩
  | a :: b :: c :: rest, _ =>
    rcases (List.isChain_cons_cons.1 (List.isChain_cons_cons.1 h.gaps).2).1 with hb | hc
    · exact ⟨1, by omega, by omega, b, rfl, hb⟩
    · exact ⟨2, by omega, by omega, c, rfl, hc⟩

theorem lettered_trimDashes {l : List Char} (h : Slugged l) :
    Lettered (lettered (trimDashes l)) := by
  have htrimmed := h.begin (trimDashes_begins l)
  unfold lettered
  split_ifs with hshort hempty
  · exact lettered_group
  · exact lettered_group_append htrimmed
  · rw [Bool.or_eq_true, decide_eq_true_eq, not_or, Bool.not_eq_true', Bool.not_eq_false] at hshort
    obtain ⟨hlen, hletter⟩ := hshort
    obtain ⟨c, hc, hrange⟩ := (Option.any_eq_true _ _).1 hletter
    refine ⟨htrimmed.chars, ⟨c, ?_, ?_⟩, trimmed_second htrimmed (not_lt.1 hlen)⟩
    · rw [← List.head?_eq_getElem?]
      exact hc
    · simpa using hrange

/-- What is cut to 120 characters and trimmed still begins with a letter and has two characters. -/
theorem Lettered.cut {l : List Char} (h : Lettered l) :
    (∀ c ∈ trimDashes (l.take 120), isSlugChar c = true) ∧
      (∃ c, (trimDashes (l.take 120)).head? = some c ∧ ('a' ≤ c ∧ c ≤ 'z')) ∧
      2 ≤ (trimDashes (l.take 120)).length ∧ (trimDashes (l.take 120)).length ≤ 120 := by
  have hbegins := trimDashes_begins (l.take 120)
  obtain ⟨i, hi, hi', c, hc, hne⟩ := h.second
  have hkept : i < (trimDashes (l.take 120)).length := by
    refine lt_length_trimDashes (c := c) ?_ hne
    rw [List.getElem?_take_of_lt (by omega)]
    exact hc
  refine ⟨?_, ?_, by omega, hbegins.length_le.trans (List.length_take_le 120 l)⟩
  · intro x hx
    exact h.chars x (List.mem_of_mem_take (hbegins.subset hx))
  · obtain ⟨a, ha, hletter⟩ := h.letter
    refine ⟨a, ?_, hletter⟩
    rw [List.head?_eq_getElem?, List.getElem?_eq_getElem (by omega),
      hbegins.getElem (by omega), ← List.getElem?_eq_getElem, List.getElem?_take_of_lt (by omega)]
    exact ha

/-- The slug of every name: slug characters, a letter first, between 2 and 120 of them. -/
theorem slugOf_shape (t : Transforms) (displayName : String) :
    (∀ c ∈ (slugOf t displayName).toList, isSlugChar c = true) ∧
      (∃ c, (slugOf t displayName).toList.head? = some c ∧ ('a' ≤ c ∧ c ≤ 'z')) ∧
      2 ≤ (slugOf t displayName).toList.length ∧
      (slugOf t displayName).toList.length ≤ 120 := by
  rw [slugOf, String.toList_ofList]
  exact (lettered_trimDashes (foldl_slugged _)).cut

/-! ## Numbers -/

theorem nextNumbered_iterate (slug : String) (s : String × ℕ) (k : ℕ) :
    (nextNumbered slug)^[k + 1] s = (slug ++ "-" ++ toString (s.2 + k), s.2 + k + 1) := by
  induction k with
  | zero => rfl
  | succ k ih =>
    rw [Function.iterate_succ_apply', ih]
    rfl

/-- The candidates of a slug, in the order of the loop. -/
theorem candidate_eq (slug : String) (k : ℕ) :
    ((nextNumbered slug)^[k] (slug, 2)).1 =
      if k = 0 then slug else slug ++ "-" ++ toString (k + 1) := by
  cases k with
  | zero => rfl
  | succ k =>
    rw [nextNumbered_iterate, if_neg (by omega), Nat.add_comm 2 k]

theorem toString_injective {a b : ℕ} (h : toString a = toString b) : a = b := by
  have hdigits : Nat.toDigits 10 a = Nat.toDigits 10 b := by
    rw [← Nat.toList_repr, ← Nat.toList_repr]
    exact congrArg String.toList h
  have hparsed := congrArg (fun digits => Nat.ofDigitChars 10 digits 0) hdigits
  simpa using hparsed

theorem candidates_injective (slug : String) :
    Function.Injective fun k => ((nextNumbered slug)^[k] (slug, 2)).1 := by
  have hlonger : ∀ n : ℕ, slug ≠ slug ++ "-" ++ toString n := by
    intro n h
    have hlen := congrArg String.length h
    simp only [String.length_append] at hlen
    have : "-".length = 1 := rfl
    omega
  intro a b h
  simp only [candidate_eq] at h
  split_ifs at h with ha hb hb
  · rw [ha, hb]
  · exact absurd h (hlonger _)
  · exact absurd h.symm (hlonger _)
  · have hlists := congrArg String.toList h
    rw [String.toList_append, String.toList_append (s := slug ++ "-")] at hlists
    have := toString_injective (String.toList_injective (List.append_cancel_left hlists))
    omega

/-- A slug with a number below a million and one passes for an id. -/
theorem isSlugID_numbered {slug number : List Char} (hchars : ∀ c ∈ slug, isSlugChar c = true)
    (hletter : ∃ c, slug.head? = some c ∧ ('a' ≤ c ∧ c ≤ 'z')) (hlen : 2 ≤ slug.length)
    (hmax : slug.length ≤ 120) (hnumber : ∀ c ∈ number, isSlugChar c = true)
    (hshort : number.length ≤ 8) : isSlugID (String.ofList (slug ++ number)) = true := by
  obtain ⟨c, hc, hrange⟩ := hletter
  cases slug with
  | nil => cases hc
  | cons first rest =>
    cases hc
    simp only [isSlugID, String.toList_ofList, List.cons_append, String.length_ofList,
      List.length_cons, List.length_append] at *
    simp only [Bool.and_eq_true, decide_eq_true_eq, List.all_append, List.all_eq_true]
    exact ⟨⟨⟨by omega, by omega⟩, hrange⟩,
      fun x hx => hchars x (List.mem_cons_of_mem _ hx), hnumber⟩

theorem digits_slugChar {n : ℕ} : ∀ c ∈ Nat.toDigits 10 n, isSlugChar c = true := by
  intro c hc
  have hdigit := Nat.isDigit_of_mem_toDigits (by omega) (by omega) hc
  have hrange : ('0' ≤ c && c ≤ '9') = true := hdigit
  simp [isSlugChar, isFolded, hrange]

theorem numbered_eq (slug : String) (n : ℕ) :
    slug ++ "-" ++ toString n = String.ofList (slug.toList ++ '-' :: Nat.toDigits 10 n) := by
  have hdigits : (toString n).toList = Nat.toDigits 10 n := Nat.toList_repr
  refine String.toList_injective ?_
  rw [String.toList_append, String.toList_append, hdigits, List.append_assoc]
  exact String.toList_ofList.symm

/-- What `isSlugID` accepts, the backend's pattern accepts. -/
theorem matchesId_of_isSlugID {value : String} (h : isSlugID value = true) :
    matchesId value = true := by
  unfold isSlugID at h
  unfold matchesId
  have hlength : value.length = value.toList.length := String.length_toList.symm
  rw [hlength] at h
  cases hl : value.toList with
  | nil =>
    rw [hl] at h
    cases h
  | cons first rest =>
    rw [hl] at h
    simp only [Bool.and_eq_true, decide_eq_true_eq, List.length_cons, List.all_eq_true] at h ⊢
    obtain ⟨⟨hlen, hletter⟩, hrest⟩ := h
    refine ⟨⟨?_, ?_⟩, by omega, by omega⟩
    · exact Bool.and_eq_true_iff.2 ⟨decide_eq_true hletter.1, decide_eq_true hletter.2⟩
    · intro c hc
      have := hrest c hc
      simp only [isFolded, Bool.or_eq_true] at this ⊢
      exact this

/-- Every name has an id that is free, while fewer than a million are taken. -/
theorem groupId_made (t : Transforms) (displayName : String) (taken : Finset String)
    (hfew : taken.card < 10 ^ 6) :
    ∃ id turns, (∀ fuel, turns ≤ fuel → makeGroupId t displayName taken fuel = some id) ∧
      id ∉ taken ∧ isSlugID id = true ∧ matchesId id = true := by
  obtain ⟨k, hk, hfree, hends⟩ :=
    untilFree_ends taken (candidates_injective (slugOf t displayName))
  obtain ⟨hchars, hletter, hlen, hmax⟩ := slugOf_shape t displayName
  have hslug : isSlugID ((nextNumbered (slugOf t displayName))^[k] (slugOf t displayName, 2)).1 =
      true := by
    rw [candidate_eq]
    split_ifs with hzero
    · have hnone : ∀ c ∈ ([] : List Char), isSlugChar c = true := List.forall_mem_nil _
      have := isSlugID_numbered hchars hletter hlen hmax hnone (Nat.zero_le 8)
      rwa [List.append_nil, String.ofList_toList] at this
    · have hdigits : (Nat.toDigits 10 (k + 1)).length ≤ 7 :=
        (Nat.length_toDigits_le_iff (by omega) (by omega)).2 (by omega)
      have hnumber : ∀ c ∈ '-' :: Nat.toDigits 10 (k + 1), isSlugChar c = true := by
        intro c hc
        rcases List.mem_cons.1 hc with rfl | hc
        · rfl
        · exact digits_slugChar c hc
      rw [numbered_eq]
      exact isSlugID_numbered hchars hletter hlen hmax hnumber (Nat.succ_le_succ hdigits)
  exact ⟨_, k + 1, fun fuel hfuel => hends fuel (by omega), hfree, hslug,
    matchesId_of_isSlugID hslug⟩

/-- A name that no character of an id is left of, when the id it then gets is taken. -/
theorem groupId_made_group : ∃ made turns,
    (∀ fuel, turns ≤ fuel → makeGroupId ⟨some, some, id⟩ "!" {"group"} fuel = some made) ∧
      made ∉ ({"group"} : Finset String) ∧ isSlugID made = true ∧ matchesId made = true :=
  groupId_made ⟨some, some, id⟩ "!" {"group"} (by decide)

example : makeGroupId ⟨some, some, id⟩ "!" {"group"} 2 = some "group-2" := by decide +kernel

end ServerPilot.Desktop
