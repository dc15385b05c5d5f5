import ServerPilot.Spec.Policy

/-!
# Installing the policy

A text that is accepted is blank, or has a text before and a text after the place of the block,
both free of markers (`merge_cases`). What a merge leaves in the second case is `framed`: merging
into it changes the block and nothing else (`merge_framed`). A blank text gets the bare block,
and a second merge puts two empty lines in front of it. `merge_proper_iff` says that this, and
white space other than line breaks next to the block, are all there is to go wrong.
-/

namespace ServerPilot.Policy

open Find Collector

/-! ## White space -/

section

variable {α : Type*} {p q : α → Bool}

/-- Two tests, one weaker: they drop the same where all that the weaker takes passes the other. -/
theorem dropWhile_eq_iff (hpq : ∀ c, p c = true → q c = true) : ∀ {l : List α},
    l.dropWhile p = l.dropWhile q ↔ ∀ c ∈ l.takeWhile q, p c = true
  | [] => by simp
  | c :: l => by
    by_cases hp : p c = true
    · rw [List.dropWhile_cons_of_pos hp, List.dropWhile_cons_of_pos (hpq c hp),
        List.takeWhile_cons_of_pos (hpq c hp), dropWhile_eq_iff hpq, List.forall_mem_cons]
      exact (and_iff_right hp).symm
    · by_cases hq : q c = true
      · rw [List.dropWhile_cons_of_neg hp, List.dropWhile_cons_of_pos hq,
          List.takeWhile_cons_of_pos hq, List.forall_mem_cons]
        refine ⟨fun h => ?_, fun h => absurd h.1 hp⟩
        have hlen := (List.dropWhile_suffix q (l := l)).length_le
        rw [← h, List.length_cons] at hlen
        omega
      · rw [List.dropWhile_cons_of_neg hp, List.dropWhile_cons_of_neg hq,
          List.takeWhile_cons_of_neg hq]
        simp

theorem rdropWhile_eq_iff (hpq : ∀ c, p c = true → q c = true) {l : List α} :
    l.rdropWhile p = l.rdropWhile q ↔ ∀ c ∈ l.rtakeWhile q, p c = true := by
  rw [List.rdropWhile, List.rdropWhile, List.reverse_inj, dropWhile_eq_iff hpq, List.rtakeWhile]
  simp

end

theorem isSpace_of_isLineBreak (c : Char) (h : isLineBreak c = true) : isSpace c = true := by
  simp only [isLineBreak, isSpace, Bool.or_eq_true, Bool.and_eq_true, decide_eq_true_eq,
    beq_iff_eq] at h ⊢
  omega

/-- Dropping fewer kinds after dropping all of them drops nothing. -/
theorem rdropWhile_rstrip (s : Text) : (rstrip s).rdropWhile isLineBreak = rstrip s := by
  refine List.rdropWhile_eq_self_iff.2 fun hne hbreak => ?_
  exact List.rdropWhile_last_not isSpace s hne (isSpace_of_isLineBreak _ hbreak)

theorem dropWhile_lstrip (s : Text) : (lstrip s).dropWhile isLineBreak = lstrip s := by
  cases hs : lstrip s with
  | nil => rfl
  | cons c rest =>
    have hnot := List.head?_dropWhile_not isSpace s
    rw [show s.dropWhile isSpace = c :: rest from hs] at hnot
    refine List.dropWhile_cons_of_neg fun hbreak => ?_
    simp only [List.head?_cons, isSpace_of_isLineBreak c hbreak] at hnot
    cases hnot

theorem rstrip_rstrip (s : Text) : rstrip (rstrip s) = rstrip s := List.rdropWhile_idempotent _ _

theorem lstrip_lstrip (s : Text) : lstrip (lstrip s) = lstrip s := List.dropWhile_idempotent _ _

theorem rstrip_concat {c : Char} (h : isSpace c = true) (s : Text) :
    rstrip (s ++ [c]) = rstrip s := List.rdropWhile_concat_pos _ _ _ h

/-! ## Markers -/

theorem marker_ne_nil {m : Text} (h : m ∈ markers) : m ≠ [] :=
  (by decide : ∀ m ∈ markers, m ≠ []) m h

theorem newline_not_mem_marker {m : Text} (h : m ∈ markers) : '\n' ∉ m :=
  (by decide : ∀ m ∈ markers, '\n' ∉ m) m h

theorem MarkerFree.count {s m : Text} (h : MarkerFree s) (hm : m ∈ markers) : count m s = 0 :=
  (count_eq_zero (marker_ne_nil hm)).2 (h m hm)

theorem markerFree_of_count {s : Text} (h : ∀ m ∈ markers, Find.count m s = 0) : MarkerFree s :=
  fun m hm => (count_eq_zero (marker_ne_nil hm)).1 (h m hm)

theorem MarkerFree.find {s m : Text} (h : MarkerFree s) (hm : m ∈ markers) : find m s = none :=
  find_eq_none.2 (h m hm)

theorem MarkerFree.part {s k : Text} (h : MarkerFree s) (hk : k <:+: s) : MarkerFree k :=
  fun m hm hin => h m hm (hin.trans hk)

theorem MarkerFree.rstrip {s : Text} (h : MarkerFree s) : MarkerFree (rstrip s) :=
  h.part ( List.rdropWhile_prefix isSpace s).isInfix

theorem MarkerFree.lstrip {s : Text} (h : MarkerFree s) : MarkerFree (lstrip s) :=
  h.part (List.dropWhile_suffix isSpace).isInfix

/-- What keeps a start and an end marker from overlapping. -/
structure Markers.Apart (m : Markers) : Prop where
  start : m.start.head? = some '<' ∧ '<' ∉ m.start.tail
  stop : m.stop.head? = some '<'
  unlike : ¬ m.stop <+: m.start ∧ ¬ m.start <+: m.stop

theorem policyBlockMarkers_apart : policyBlockMarkers.Apart := by
  constructor <;> decide

theorem legacyPolicyBlockMarkers_apart : legacyPolicyBlockMarkers.Apart := by
  constructor <;> decide

/-- An end marker at or after a start marker begins after it. -/
theorem Markers.Apart.le {m : Markers} (h : m.Apart) {s : Text} {start stop : ℕ}
    (hstart : m.start <+: s.drop start) (hstop : m.stop <+: s.drop stop) (hle : start ≤ stop) :
    start + m.start.length ≤ stop := by
  by_contra hlt
  obtain ⟨rest, hrest⟩ := hstart
  obtain ⟨j, rfl⟩ := Nat.exists_eq_add_of_le hle
  rw [← List.drop_drop, ← hrest, List.drop_append_of_le_length (by omega)] at hstop
  cases j with
  | zero =>
    rcases List.prefix_or_prefix_of_prefix hstop (List.prefix_append m.start rest) with hp | hp
    · exact h.unlike.1 hp
    · exact h.unlike.2 hp
  | succ j =>
    have hstart := h.start
    have hstop' := h.stop
    obtain ⟨more, hmore⟩ := hstop
    cases hs : m.start with
    | nil =>
      rw [hs] at hstart
      cases hstart.1
    | cons c tail =>
      cases he : m.stop with
      | nil =>
        rw [he] at hstop'
        cases hstop'
      | cons d end' =>
        rw [hs] at hstart hmore hlt
        rw [he] at hstop' hmore
        cases hstop'
        rw [List.length_cons] at hlt
        rw [List.drop_succ_cons, List.drop_eq_getElem_cons (by omega)] at hmore
        have hhead : '<' = tail[j] := (List.cons.inj hmore).1
        exact hstart.2 (hhead ▸ List.getElem_mem _)

/-- What is around the only block of these markers has neither of them. -/
theorem around_free {m : Markers} (h : m.Apart) {s before after : Text}
    (hone : count m.start s = 1 ∧ count m.stop s = 1) (hs : around m s = some (before, after)) :
    (¬ m.start <:+: before ∧ ¬ m.stop <:+: before) ∧
      ¬ m.start <:+: after ∧ ¬ m.stop <:+: after := by
  have hstartne : m.start ≠ [] := by
    rintro hnil
    have := h.start.1
    rw [hnil] at this
    cases this
  have hstopne : m.stop ≠ [] := by
    rintro hnil
    have := h.stop
    rw [hnil] at this
    cases this
  unfold around at hs
  obtain ⟨start, hstart⟩ := exists_find hstartne (s := s) (by omega)
  obtain ⟨stop, hstop⟩ := exists_find hstopne (s := s) (by omega)
  rw [hstart, hstop] at hs
  simp only at hs
  split_ifs at hs with hlt
  cases hs
  have hle := h.le (find_eq_some hstart).1 (find_eq_some hstop).1 (not_lt.1 hlt)
  have hreststart : count m.start (s.drop (start + m.start.length)) = 0 := by
    have := count_of_find hstartne hstart
    omega
  have hreststop : count m.stop (s.drop (stop + m.stop.length)) = 0 := by
    have := count_of_find hstopne hstop
    omega
  refine ⟨⟨not_infix_take hstart hstartne, fun hin => ?_⟩, fun hin => ?_,
    (count_eq_zero hstopne).1 hreststop⟩
  · exact not_infix_take hstop hstopne
      (hin.trans (List.take_prefix_take_left (by omega)).isInfix)
  · exact (count_eq_zero hstartne).1 hreststart
      (hin.trans (List.drop_suffix_drop_left s (by omega)).isInfix)

/-! ## The block in its place -/

/-- The block without its last line break. -/
def body (policy : Text) : Text :=
  policyBlockMarkers.start ++ '\n' :: (rstrip policy ++ '\n' :: policyBlockMarkers.stop)

theorem renderPolicyBlock_eq (policy : Text) :
    renderPolicyBlock policy = body policy ++ ['\n'] := by
  simp [renderPolicyBlock, body]

theorem rstrip_renderPolicyBlock (policy : Text) :
    rstrip (renderPolicyBlock policy) = body policy := by
  rw [renderPolicyBlock_eq, rstrip_concat (by decide)]
  refine List.rdropWhile_eq_self_iff.2 fun hne hspace => ?_
  have hlast : (body policy).getLast hne = '>' := by
    rw [← Option.some.injEq, ← List.getLast?_eq_some_getLast, body, List.getLast?_append_cons,
      ← List.cons_append, List.getLast?_append_cons]
    rfl
  rw [hlast] at hspace
  exact absurd hspace (by decide)

/-- A text with a block between two texts. -/
def framed (before policy after : Text) : Text :=
  before ++ '\n' :: '\n' :: (body policy ++ '\n' :: after)

/-- Every marker of it is in one of its parts. -/
theorem count_framed {m : Text} (hm : m ∈ markers) (before policy after : Text) :
    count m (framed before policy after) = count m before + (count m policyBlockMarkers.start +
      (count m (rstrip policy) + (count m policyBlockMarkers.stop + count m after))) := by
  have hsplit : ∀ a b : Text, count m (a ++ '\n' :: b) = count m a + count m b :=
    count_append_cons (marker_ne_nil hm) (newline_not_mem_marker hm)
  have hempty : ∀ b : Text, count m ('\n' :: b) = count m b := by
    intro b
    rw [← List.nil_append ('\n' :: b), hsplit]
    exact Nat.zero_add _
  rw [framed, body, hsplit, hempty, List.append_assoc, List.cons_append, hsplit, List.append_assoc,
    List.cons_append, hsplit, hsplit]

theorem find_framed {m : Text} (hm : m ∈ markers) (before policy after : Text) :
    find m (framed before policy after) =
      (find m before).or
        ((find m (body policy ++ '\n' :: after)).map (· + (before.length + 2))) := by
  have hne := marker_ne_nil hm
  have hnot := newline_not_mem_marker hm
  have hnil : find m [] = none := if_neg hne
  rw [framed, find_append_cons hne hnot, ← List.nil_append ('\n' :: (body policy ++ _)),
    find_append_cons hne hnot, hnil, Option.none_or, Option.map_map]
  congr 2
  funext i
  simp only [Function.comp_apply, List.length_nil]
  omega

/-- The block up to its end marker. -/
def opening (policy : Text) : Text := policyBlockMarkers.start ++ '\n' :: (rstrip policy ++ ['\n'])

theorem around_framed {before policy : Text} (hbefore : MarkerFree before)
    (hpolicy : MarkerFree policy) (after : Text) :
    around policyBlockMarkers (framed before policy after) =
      some (before ++ ['\n', '\n'], '\n' :: after) := by
  have hs : policyBlockMarkers.start ∈ markers := by decide
  have he : policyBlockMarkers.stop ∈ markers := by decide
  have hstart : find policyBlockMarkers.start (framed before policy after) =
      some (before.length + 2) := by
    have hself : find policyBlockMarkers.start policyBlockMarkers.start = some 0 := by decide
    rw [find_framed hs, hbefore.find hs, body, List.append_assoc, List.cons_append,
      find_append_cons (marker_ne_nil hs) (newline_not_mem_marker hs), hself, Option.none_or]
    exact congrArg some (Nat.zero_add _)
  have hstop : find policyBlockMarkers.stop (framed before policy after) =
      some (before.length + 2 + (opening policy).length) := by
    have hself : find policyBlockMarkers.stop policyBlockMarkers.stop = some 0 := by decide
    have hother : find policyBlockMarkers.stop policyBlockMarkers.start = none := by decide
    rw [find_framed he, hbefore.find he, body, List.append_assoc, List.cons_append,
      find_append_cons (marker_ne_nil he) (newline_not_mem_marker he), hother, List.append_assoc,
      List.cons_append, find_append_cons (marker_ne_nil he) (newline_not_mem_marker he),
      hpolicy.rstrip.find he, find_append_cons (marker_ne_nil he) (newline_not_mem_marker he),
      hself, opening]
    simp only [Option.none_or, Option.some_or, Option.map_some, List.length_append,
      List.length_cons, List.length_nil]
    congr 1
    omega
  unfold around
  rw [hstart, hstop]
  simp only [Nat.not_lt_of_le (Nat.le_add_right _ _), if_false, Option.some.injEq, Prod.mk.injEq]
  constructor
  · have hsplit : framed before policy after =
        (before ++ ['\n', '\n']) ++ (body policy ++ '\n' :: after) := by
      rw [framed, List.append_assoc]
      rfl
    rw [hsplit]
    exact List.take_left' (List.length_append ..)
  · have hsplit : framed before policy after =
        (before ++ ['\n', '\n'] ++ opening policy ++ policyBlockMarkers.stop) ++
          '\n' :: after := by
      simp [framed, body, opening]
    rw [hsplit]
    refine List.drop_left' ?_
    simp only [List.length_append, List.length_cons, List.length_nil]

theorem count_framed_of_free {before policy after : Text} (hbefore : MarkerFree before)
    (hpolicy : MarkerFree policy) (hafter : MarkerFree after) :
    (count policyBlockMarkers.start (framed before policy after) = 1 ∧
      count policyBlockMarkers.stop (framed before policy after) = 1) ∧
      count legacyPolicyBlockMarkers.start (framed before policy after) = 0 ∧
      count legacyPolicyBlockMarkers.stop (framed before policy after) = 0 := by
  have hcount : ∀ m ∈ markers, count m (framed before policy after) =
      count m policyBlockMarkers.start + count m policyBlockMarkers.stop := by
    intro m hm
    rw [count_framed hm, hbefore.count hm, hpolicy.rstrip.count hm, hafter.count hm]
    omega
  exact ⟨⟨hcount _ (by decide), hcount _ (by decide)⟩, hcount _ (by decide), hcount _ (by decide)⟩

/-- Merging into a text with a block changes the block, and strips what is around it. -/
theorem merge_framed {before policy after : Text} (hbefore : MarkerFree before)
    (hpolicy : MarkerFree policy) (hafter : MarkerFree after) (later : Text) :
    mergePolicyBlock (framed before policy after) (renderPolicyBlock later) =
      .ok (framed (rstrip before) later (lstrip after)) := by
  obtain ⟨hcurrent, hlegacy⟩ := count_framed_of_free hbefore hpolicy hafter
  have hb : rstrip (before ++ ['\n', '\n']) = rstrip before := by
    rw [show before ++ ['\n', '\n'] = (before ++ ['\n']) ++ ['\n'] by simp,
      rstrip_concat (by decide), rstrip_concat (by decide)]
  have ha : lstrip ('\n' :: after) = lstrip after := List.dropWhile_cons_of_pos (by decide)
  simp only [mergePolicyBlock, hcurrent.1, hcurrent.2, hlegacy.1, hlegacy.2, ne_eq,
    not_true_eq_false, or_self, if_false, lt_irrefl, Nat.not_lt_zero, and_false, Nat.zero_lt_one,
    if_true, replaceBlock, around_framed hbefore hpolicy, rstrip_renderPolicyBlock, hb, ha]
  rfl

/-! ## What is accepted -/

/-- What the texts around the block are, and what replaces the block. -/
theorem replaceBlock_cases {m : Markers} (h : m.Apart) (other : Markers)
    (hall : ∀ k ∈ markers, k = m.start ∨ k = m.stop ∨ k = other.start ∨ k = other.stop)
    {existing block result : Text}
    (hone : count m.start existing = 1 ∧ count m.stop existing = 1)
    (hother : other.start ≠ [] ∧ other.stop ≠ [])
    (hnone : count other.start existing = 0 ∧ count other.stop existing = 0)
    (hr : replaceBlock m existing block = .ok result) :
    ∃ before after, around m existing = some (before, after) ∧ MarkerFree before ∧
      MarkerFree after ∧ ∀ policy, replaceBlock m existing (renderPolicyBlock policy) =
        .ok (framed (rstrip before) policy (lstrip after)) := by
  cases ha : around m existing with
  | none =>
    rw [replaceBlock, ha] at hr
    cases hr
  | some sides =>
    obtain ⟨before, after⟩ := sides
    obtain ⟨hbefore, hafter⟩ := around_free h hone ha
    have hparts : before <:+: existing ∧ after <:+: existing := by
      unfold around at ha
      cases hs : find m.start existing with
      | none =>
        rw [hs] at ha
        cases ha
      | some start =>
        cases he : find m.stop existing with
        | none =>
          rw [hs, he] at ha
          cases ha
        | some stop =>
          rw [hs, he] at ha
          simp only at ha
          split_ifs at ha
          cases ha
          exact ⟨( List.take_prefix _ _).isInfix, (List.drop_suffix _ _).isInfix⟩
    -- of each side: its own markers are the block's, the others are nowhere
    have hfree : ∀ {part : Text}, part <:+: existing → ¬ m.start <:+: part →
        ¬ m.stop <:+: part → MarkerFree part := by
      intro part hpart hstart hstop k hk hin
      rcases hall k hk with rfl | rfl | rfl | rfl
      · exact hstart hin
      · exact hstop hin
      · exact (count_eq_zero hother.1).1 hnone.1 (hin.trans hpart)
      · exact (count_eq_zero hother.2).1 hnone.2 (hin.trans hpart)
    refine ⟨before, after, rfl, hfree hparts.1 hbefore.1 hbefore.2,
      hfree hparts.2 hafter.1 hafter.2, fun policy => ?_⟩
    · rw [replaceBlock, ha]
      simp only [rstrip_renderPolicyBlock]
      rfl

/-- A text with a marker has a character that is no white space. -/
theorem text_of_marker {m existing : Text} (hm : m ∈ markers) (h : 0 < count m existing) :
    ∃ c ∈ existing, isSpace c = false := by
  obtain ⟨i, hi⟩ := exists_find (marker_ne_nil hm) h
  have hin : m <:+: existing := by
    by_contra hnot
    rw [find_eq_none.2 hnot] at hi
    cases hi
  have hhead : ∀ k ∈ markers, '<' ∈ k := by decide
  exact ⟨'<', hin.subset (hhead m hm), by decide⟩

/-- An accepted text is blank, or has a place for the block between two texts without markers. -/
theorem merge_cases {existing block result : Text}
    (h : mergePolicyBlock existing block = .ok result) :
    (existing.all isSpace = true ∧ ∀ b, mergePolicyBlock existing b = .ok b) ∨
      ((∃ c ∈ existing, isSpace c = false) ∧ MarkerFree (sides existing).1 ∧
        MarkerFree (sides existing).2 ∧
        ∀ policy, mergePolicyBlock existing (renderPolicyBlock policy) =
          .ok (framed (rstrip (sides existing).1) policy (lstrip (sides existing).2))) := by
  unfold mergePolicyBlock at h ⊢
  simp only at h ⊢
  split_ifs at h with hcomplete hdup hacross hcurrent hlegacy hblank
  · -- the current block is replaced
    right
    obtain ⟨before, after, ha, hbefore, hafter, hreplace⟩ :=
      replaceBlock_cases policyBlockMarkers_apart legacyPolicyBlockMarkers (by decide)
        (by omega) (by decide) (by omega) h
    have hsides : sides existing = (before, after) := by
      rw [sides, if_pos hcurrent, ha]
      rfl
    rw [hsides]
    refine ⟨text_of_marker (by decide) hcurrent, hbefore, hafter, fun policy => ?_⟩
    rw [if_neg hcomplete, if_neg hdup, if_neg hacross, if_pos hcurrent]
    exact hreplace policy
  · -- the legacy block is replaced
    right
    obtain ⟨before, after, ha, hbefore, hafter, hreplace⟩ :=
      replaceBlock_cases legacyPolicyBlockMarkers_apart policyBlockMarkers (by decide)
        (by omega) (by decide) (by omega) h
    have hsides : sides existing = (before, after) := by
      rw [sides, if_neg hcurrent, if_pos hlegacy, ha]
      rfl
    rw [hsides]
    refine ⟨text_of_marker (by decide) hlegacy, hbefore, hafter, fun policy => ?_⟩
    rw [if_neg hcomplete, if_neg hdup, if_neg hacross, if_neg hcurrent, if_pos hlegacy]
    exact hreplace policy
  · -- the file is blank
    left
    refine ⟨hblank, fun b => ?_⟩
    rw [if_neg hcomplete, if_neg hdup, if_neg hacross, if_neg hcurrent, if_neg hlegacy,
      if_pos hblank]
  · -- the block is appended
    right
    have hsides : sides existing = (existing, []) := by
      rw [sides, if_neg hcurrent, if_neg hlegacy]
    rw [hsides]
    have hfree : MarkerFree existing := by
      refine markerFree_of_count ?_
      simp only [markers, List.forall_mem_cons, List.not_mem_nil, false_imp_iff, implies_true,
        and_true]
      omega
    refine ⟨?_, hfree, ?_, fun policy => ?_⟩
    · rw [Bool.not_eq_true, List.all_eq_false] at hblank
      obtain ⟨c, hc, hspace⟩ := hblank
      exact ⟨c, hc, Bool.not_eq_true _ ▸ hspace⟩
    · exact hfree.part List.nil_infix
    · rw [if_neg hcomplete, if_neg hdup, if_neg hacross, if_neg hcurrent, if_neg hlegacy,
        if_neg hblank, renderPolicyBlock_eq]
      rfl

/-! ## The result -/

/-- What a merge keeps of the texts around the block. -/
theorem sameAround_iff (old : Text × Text) :
    SameAround old (rstrip old.1 ++ ['\n', '\n'], '\n' :: lstrip old.2) ↔
      (∀ c ∈ old.1.rtakeWhile isSpace, isLineBreak c = true) ∧
        ∀ c ∈ old.2.takeWhile isSpace, isLineBreak c = true := by
  have hbefore : (rstrip old.1 ++ ['\n', '\n']).rdropWhile isLineBreak =
      old.1.rdropWhile isSpace := by
    rw [show rstrip old.1 ++ ['\n', '\n'] = (rstrip old.1 ++ ['\n']) ++ ['\n'] by simp,
      List.rdropWhile_concat_pos _ _ _ (by decide), List.rdropWhile_concat_pos _ _ _ (by decide)]
    exact rdropWhile_rstrip old.1
  have hafter : ('\n' :: lstrip old.2).dropWhile isLineBreak = old.2.dropWhile isSpace := by
    rw [List.dropWhile_cons_of_pos (by decide)]
    exact dropWhile_lstrip old.2
  rw [← rdropWhile_eq_iff isSpace_of_isLineBreak, ← dropWhile_eq_iff isSpace_of_isLineBreak]
  constructor
  · intro h
    exact ⟨h.before.trans hbefore, h.after.trans hafter⟩
  · intro h
    exact ⟨h.1.trans hbefore.symm, h.2.trans hafter.symm⟩

/-- A merge keeps the user's text and can be made again exactly if the text is not blank and has
no spaces or tabs next to the block. -/
theorem merge_proper_iff {existing policy later result : Text} (hpolicy : MarkerFree policy)
    (hr : mergePolicyBlock existing (renderPolicyBlock policy) = .ok result) :
    Proper existing policy later result ↔ Spaced existing := by
  rcases merge_cases hr with ⟨hblank, hbare⟩ | ⟨htext, hbefore, hafter, hmerge⟩
  · -- a blank text: the second merge puts line breaks in front
    rw [hbare] at hr
    cases hr
    refine ⟨fun h => ?_, fun h => ?_⟩
    · exfalso
      have hagain := h.again
      rcases merge_cases hagain with ⟨hall, _⟩ | ⟨_, _, _, hframed⟩
      · have hmem : '<' ∈ renderPolicyBlock policy := List.mem_append_left _ (by decide)
        exact absurd (List.all_eq_true.1 hall _ hmem) (by decide)
      · rw [hframed] at hagain
        have hlen := congrArg List.length (Except.ok.inj hagain)
        rw [renderPolicyBlock_eq, framed] at hlen
        simp only [List.length_append, List.length_cons, List.length_nil] at hlen
        omega
    · obtain ⟨c, hc, hspace⟩ := h.text
      rw [List.all_eq_true.1 hblank c hc] at hspace
      cases hspace
  · rw [hmerge] at hr
    cases hr
    have hcounts := count_framed_of_free hbefore.rstrip hpolicy hafter.lstrip
    have hagain := merge_framed hbefore.rstrip hpolicy hafter.lstrip
    rw [rstrip_rstrip, lstrip_lstrip] at hagain
    have haround := around_framed hbefore.rstrip hpolicy (lstrip (sides existing).2)
    refine ⟨fun h => ?_, fun h => ?_⟩
    · obtain ⟨before, after, ha, _, hsame⟩ := h.installed.block
      rw [haround] at ha
      cases ha
      have := (sameAround_iff _).1 hsame
      exact ⟨htext, this.1, this.2⟩
    · refine ⟨⟨hcounts.1, hcounts.2, _, _, haround, ?_,
        (sameAround_iff _).2 ⟨h.before, h.after⟩⟩, hagain policy,
        (hagain later).trans (hmerge later).symm⟩
      rw [rstrip_renderPolicyBlock, framed, List.append_assoc]
      rfl

/-- A rule of a line is put after a text of a line. -/
theorem merge_proper_line :
    Proper "be kind\n".toList "new".toList "newer".toList
        ("be kind\n\n".toList ++ renderPolicyBlock "new".toList) ↔ Spaced "be kind\n".toList :=
  merge_proper_iff (markerFree_of_count (by decide)) (by decide)

/-- A new file gets the bare block; merging it again changes the file. -/
theorem merge_restless : ¬ ∀ existing policy later result : Text, MarkerFree policy →
    MarkerFree later → mergePolicyBlock existing (renderPolicyBlock policy) = .ok result →
    Proper existing policy later result := by
  intro h
  have hfree : MarkerFree "new".toList := markerFree_of_count (by decide)
  have := (h [] "new".toList "new".toList (renderPolicyBlock "new".toList) hfree hfree rfl).again
  exact absurd (Except.ok.inj this) (by decide)

end ServerPilot.Policy
