import ServerPilot.Proof.GresUsed

/-!
# Slurm capacity and placements

* `clusterGpuCapacity_iff`: the capacity is read faithfully exactly if the counts of every node
  stand where they are looked for.
* `placedRight_iff`: a job's locations have the counts of its placements exactly if no entry with
  GPUs is missed. `re.findall` leaves out the entry after one without a suffix, as the match before
  it takes the comma (`missed`).
* `gpuCounts_iff` is both.
-/

namespace ServerPilot.Gres

open Checked Search Collector

/-! ## Columns -/

theorem dropWhile_concat_space (s : List Char) :
    (s ++ [' ']).dropWhile isSpace = s.dropWhile isSpace ++ [' '] ∨
      ((s ++ [' ']).dropWhile isSpace = [] ∧ s.dropWhile isSpace = []) := by
  rw [List.dropWhile_append]
  split_ifs with hempty
  · exact Or.inr ⟨by decide, List.isEmpty_iff.1 hempty⟩
  · exact Or.inl rfl

theorem stripped_concat (s : List Char) : stripped (s ++ [' ']) = stripped s := by
  unfold stripped
  rcases dropWhile_concat_space s with h | ⟨h, hs⟩
  · rw [h, List.reverse_append, List.reverse_singleton, List.singleton_append,
      List.dropWhile_cons_of_pos (by decide)]
  · rw [h, hs]

theorem stripped_column (width : ℕ) (s : List Char) : stripped (column width s) = stripped s := by
  unfold column
  generalize width - s.length = n
  induction n with
  | zero => rw [List.replicate_zero, List.append_nil]
  | succ n ih => rw [List.replicate_succ', ← List.append_assoc, stripped_concat, ih]

theorem column_length {width : ℕ} {s : List Char} (h : s.length ≤ width) :
    (column width s).length = width := by
  unfold column
  rw [List.length_append, List.length_replicate]
  omega

theorem mem_column {width : ℕ} {s : List Char} {c : Char} (h : c ∈ column width s) :
    c ∈ s ∨ c = ' ' :=
  (List.mem_append.1 h).imp_right List.eq_of_mem_replicate

theorem parseGresTotal_text (gpusPerNode : ℕ) (g : Entries) :
    parseGresTotal gpusPerNode g.text = (shownNumber g.all).getD gpusPerNode := by
  have hscan := scan_typedNumber g.tail g.head (x := []) (by decide)
  rw [List.nil_append] at hscan
  unfold parseGresTotal
  exact congrArg (fun o => Option.getD o gpusPerNode) hscan

variable (gpusPerNode : ℕ) (lower : String → String)

/-- The node Slurm tells of. -/
def Row.node (r : Row) : Node where
  name := stripped r.name
  state := stripped r.state
  totalGpus := gpuCount r.declared.all
  allocatedGpus := gpuCount r.used.all
  schedulable := !isUnschedulable lower (stripped r.state)

/-- The counts of a node are where they are looked for. -/
def RowShown (r : Row) : Prop :=
  (shownNumber r.declared.all).getD gpusPerNode = gpuCount r.declared.all ∧
    UsedShown (gpuCount r.declared.all) r.used

theorem readNode_line (r : Row) :
    readNode gpusPerNode lower (String.ofList r.line) =
      (parseGresUsedIndexes r.used.text ((shownNumber r.declared.all).getD gpusPerNode) >>=
        fun used => .ok ⟨stripped r.name, stripped r.state,
          (shownNumber r.declared.all).getD gpusPerNode, used.card,
          !isUnschedulable lower (stripped r.state)⟩) := by
  have hname := column_length r.name_len
  have hstate := column_length r.state_len
  have hdeclared := column_length r.declared_len
  have hused := column_length r.used_len
  have hdrop : r.line.drop 32 =
      column 20 r.state ++ (column 40 r.declared.text ++ column 80 r.used.text) :=
    List.drop_left' hname
  have hdrop₅₂ : r.line.drop 52 = column 40 r.declared.text ++ column 80 r.used.text := by
    rw [show 52 = 32 + 20 from rfl, ← List.drop_drop, hdrop, List.drop_left' hstate]
  have hdrop₉₂ : r.line.drop 92 = column 80 r.used.text := by
    rw [show 92 = 52 + 40 from rfl, ← List.drop_drop, hdrop₅₂, List.drop_left' hdeclared]
  have hlength : 92 ≤ r.line.length := by
    simp only [Row.line, List.length_append, hname, hstate, hdeclared, hused]
    omega
  have htake : r.line.take 32 = column 32 r.name := List.take_left' hname
  unfold readNode
  simp only [String.toList_ofList]
  rw [require_bind_pos hlength, htake, hdrop, hdrop₅₂, hdrop₉₂, List.take_left' hstate,
    List.take_left' hdeclared]
  simp only [stripped_column, stripped_eq_of (entries_text_plain r.declared),
    stripped_eq_of (entries_text_plain r.used), parseGresTotal_text]
  rfl

/-- A row is read as the node it tells of exactly if its counts are where they are looked for. -/
theorem readNode_iff (r : Row) :
    readNode gpusPerNode lower (String.ofList r.line) = .ok (r.node lower) ↔
      RowShown gpusPerNode r := by
  rw [readNode_line, bind_ok]
  constructor
  · rintro ⟨s, hs, hnode⟩
    have heq := Except.ok.inj hnode
    have htotal := congrArg Node.totalGpus heq
    have hcard := congrArg Node.allocatedGpus heq
    simp only [Row.node] at htotal hcard
    rw [htotal] at hs
    exact ⟨htotal, (used_iff r).1 ⟨s, hs, hcard⟩⟩
  · rintro ⟨htotal, hused⟩
    obtain ⟨s, hs, hcard⟩ := (used_iff r).2 hused
    rw [htotal]
    exact ⟨s, hs, by rw [hcard]; rfl⟩

/-! ## The cluster -/

/-- What the schedulable nodes have left. -/
def freeBlocks (rows : List Row) : List ℤ :=
  (rows.filter fun r => !isUnschedulable lower (stripped r.state)).map fun r =>
    (gpuCount r.declared.all : ℤ) - gpuCount r.used.all

/-- **The capacity is read faithfully**: each node with what it has and what of it is used, and what
is free over the schedulable nodes. -/
def ReadRight (rows : List Row) : Prop :=
  ∃ capacity, clusterGpuCapacity gpusPerNode lower (sinfo rows) = .ok capacity ∧
    capacity.nodes = rows.map (Row.node lower) ∧
    (∀ node ∈ capacity.nodes, node.allocatedGpus ≤ node.totalGpus) ∧
    capacity.freeGpuCount = (freeBlocks lower rows).sum ∧
    (∀ free ∈ freeBlocks lower rows, free ≤ capacity.largestFreeBlock) ∧
    (capacity.largestFreeBlock ∈ freeBlocks lower rows ∨
      freeBlocks lower rows = [] ∧ capacity.largestFreeBlock = 0)

theorem isLineBreak_space {c : Char} (h : isSpace c = false) : isLineBreak c = false := by
  simp only [isSpace, Bool.or_eq_false_iff, Bool.and_eq_false_iff, decide_eq_false_iff_not,
    beq_eq_false_iff_ne] at h
  simp only [isLineBreak, Bool.or_eq_false_iff, Bool.and_eq_false_iff, decide_eq_false_iff_not,
    beq_eq_false_iff_ne]
  omega

theorem line_oneLine (r : Row) : ∀ c ∈ r.line, isLineBreak c = false := by
  have hcolumn : ∀ {width : ℕ} {s : List Char}, (∀ c ∈ s, isLineBreak c = false) →
      ∀ c ∈ column width s, isLineBreak c = false := by
    intro width s hs c hc
    rcases mem_column hc with hc | rfl
    · exact hs c hc
    · decide
  intro c hc
  rcases List.mem_append.1 hc with hc | hc
  · exact hcolumn r.name_line c hc
  rcases List.mem_append.1 hc with hc | hc
  · exact hcolumn r.state_line c hc
  rcases List.mem_append.1 hc with hc | hc
  · exact hcolumn (fun d hd => isLineBreak_space (entries_text_plain r.declared d hd)) c hc
  · exact hcolumn (fun d hd => isLineBreak_space (entries_text_plain r.used d hd)) c hc

theorem lines_sinfo (rows : List Row) :
    ((splitlines (sinfo rows)).filter fun line => strip line ≠ "") =
      rows.map fun r => String.ofList r.line := by
  have hlines := Ordinals.splitlines_print (rows.map Row.line) fun l hl => by
    obtain ⟨r, _, rfl⟩ := List.mem_map.1 hl
    exact line_oneLine r
  rw [List.flatMap_map, List.map_map] at hlines
  unfold sinfo
  rw [hlines]
  refine List.filter_eq_self.2 fun line hline => decide_eq_true ?_
  obtain ⟨r, _, rfl⟩ := List.mem_map.1 hline
  obtain ⟨s, hs⟩ := entries_text_cons r.declared
  have hletter : 'g' ∈ r.line := by
    refine List.mem_append_right _ (List.mem_append_right _ (List.mem_append_left _ ?_))
    exact List.mem_append_left _ (hs ▸ List.mem_cons_self)
  exact Ordinals.strip_ne_empty hletter (by decide)

theorem clusterGpuCapacity_iff (rows : List Row) :
    ReadRight gpusPerNode lower rows ↔ ∀ r ∈ rows, RowShown gpusPerNode r := by
  have hread : ((rows.map fun r => String.ofList r.line).mapM (readNode gpusPerNode lower) =
      .ok (rows.map (Row.node lower))) ↔ ∀ r ∈ rows, RowShown gpusPerNode r := by
    rw [List.mapM_map, mapM_eq_map]
    exact forall₂_congr fun r _ => readNode_iff gpusPerNode lower r
  have hfree : ((rows.map (Row.node lower)).filter Node.schedulable).map Node.free =
      freeBlocks lower rows := by
    rw [List.filter_map, List.map_map]
    rfl
  rw [← hread]
  unfold ReadRight clusterGpuCapacity
  rw [lines_sinfo]
  constructor
  · rintro ⟨capacity, hcapacity, hnodes, -⟩
    obtain ⟨nodes, hmap, hok⟩ := bind_ok.1 hcapacity
    cases hok
    rw [hmap]
    exact congrArg Except.ok hnodes
  · intro hmap
    refine ⟨_, bind_ok.2 ⟨_, hmap, rfl⟩, rfl, ?_, ?_, ?_, ?_⟩
    · intro node hnode
      obtain ⟨r, _, rfl⟩ := List.mem_map.1 hnode
      exact r.used_le
    · exact congrArg List.sum hfree
    · intro free hmem
      simp only [hfree]
      cases hmax : (freeBlocks lower rows).max? with
      | none =>
        rw [List.max?_eq_none_iff.1 hmax] at hmem
        cases hmem
      | some largest => exact (List.max?_eq_some_iff.1 hmax).2 free hmem
    · simp only [hfree]
      cases hmax : (freeBlocks lower rows).max? with
      | none => exact Or.inr ⟨List.max?_eq_none_iff.1 hmax, rfl⟩
      | some largest => exact Or.inl (List.max?_eq_some_iff.1 hmax).1

/-! ## Placements -/

/-- The type is one the pattern of `allocation_fact` takes. -/
def isRead : Option Kind → Bool
  | some kind => kind.text.all isWordChar
  | none => true

/-- The entries that are not counted: those with a type that is not taken, and each that stands
after a counted one without a suffix. -/
def missed : Bool → List Entry → List Entry
  | _, [] => []
  | true, e :: es => e :: missed false es
  | false, e :: es =>
    if isRead e.kind = true then missed e.suffix.isNone es else e :: missed false es

/-- The entries after one, without the comma if it belongs to a match. -/
def leftText : Bool → List Entry → List Char
  | false, es => moreText es
  | true, es => (moreText es).drop 1

theorem placedNumber_count (e : Entry) (es : List Entry) :
    placedNumber (':' :: (digits e.count ++ restText e es)) =
      some (e.count, (restText e es).drop 1) := by
  unfold placedNumber
  simp only
  rw [number_count]
  rcases restText_cases e es with ⟨-, -, h⟩ | ⟨-, -, t, h⟩ | ⟨-, t, h⟩ <;> rw [h] <;> rfl

theorem placedNumber_kind (kind : Kind) (s : List Char) :
    placedNumber (':' :: (kind.text ++ ':' :: s)) = none := by
  unfold placedNumber
  simp only
  cases hnumber : number (kind.text ++ ':' :: s) with
  | none => rfl
  | some x =>
    obtain ⟨n, rest⟩ := x
    obtain ⟨d, t, rfl, hd⟩ := number_kind kind s hnumber
    have hplain : d ≠ '(' ∧ d ≠ ',' := by
      rcases hd with hd | rfl
      · obtain ⟨-, hcomma, hopen, -, -⟩ := isKindChar_plain (kind.plain d hd)
        exact ⟨hopen, hcomma⟩
      · decide
    split
    · rename_i heq
      cases heq
    · rename_i heq
      cases heq
      exact absurd rfl hplain.1
    · rename_i heq
      cases heq
      exact absurd rfl hplain.2
    · rfl

theorem placedNumber_of_ne {c : Char} (h : c ≠ ':') (s : List Char) :
    placedNumber (c :: s) = none := by
  unfold placedNumber
  split
  · rename_i heq
    exact absurd (List.cons.inj heq).1 h
  · rfl

theorem placedNumber_rest (e : Entry) (es : List Entry) :
    placedNumber (restText e es) = none := by
  rcases restText_cases e es with ⟨-, -, h⟩ | ⟨-, -, t, h⟩ | ⟨-, t, h⟩ <;> rw [h]
  · rfl
  · exact placedNumber_of_ne (by decide) t
  · exact placedNumber_of_ne (by decide) t

theorem isDigit_word {c : Char} (h : c.isDigit = true) : isWordChar c = true := by
  simp [isWordChar, Char.isAlphanum, h]

theorem dropWhile_of_not_all {p : Char → Bool} (s : List Char) : ∀ {l : List Char},
    ¬ l.all p = true → ∃ d t, (l ++ s).dropWhile p = d :: t ∧ d ∈ l
  | [], h => absurd rfl h
  | c :: l, h => by
    by_cases hc : p c = true
    · have hl : ¬ l.all p = true := fun hall => h (by rw [List.all_cons, hc, hall]; rfl)
      obtain ⟨d, t, heq, hd⟩ := dropWhile_of_not_all s hl
      refine ⟨d, t, ?_, List.mem_cons_of_mem c hd⟩
      rw [List.cons_append, List.dropWhile_cons_of_pos hc, heq]
    · exact ⟨c, l ++ s, List.dropWhile_cons_of_neg hc, List.mem_cons_self⟩

/-- Of an entry, its count is taken, if its type is. -/
theorem placedEntry_text (e : Entry) (es : List Entry) :
    placedEntry (e.text ++ moreText es) =
      if isRead e.kind = true then some (e.count, (restText e es).drop 1) else none := by
  have htext : e.text ++ moreText es = 'g' :: 'p' :: 'u' :: ':' :: bodyText e es :=
    entry_text [] e es
  rw [htext]
  unfold placedEntry
  simp only
  cases hkind : e.kind with
  | none =>
    have hstops : Stops isWordChar (restText e es) :=
      restText_stops (by decide) (by decide) e es
    have hword := takeWhile_stops hstops (l := digits e.count) fun c hc =>
      isDigit_word (mem_digits hc)
    rw [body_untyped hkind, hword.1, hword.2, if_neg (digits_ne_nil _), placedNumber_rest,
      placedNumber_count]
    rfl
  | some kind =>
    rw [body_typed hkind, placedNumber_kind, Option.or_none]
    unfold isRead
    simp only
    by_cases hall : kind.text.all isWordChar = true
    · have hword := takeWhile_stops (stops_cons (p := isWordChar) (c := ':') (by decide)
        (digits e.count ++ restText e es)) (l := kind.text) (List.all_eq_true.1 hall)
      rw [hword.1, hword.2, if_neg kind.ne, placedNumber_count, if_pos hall]
    · -- the type stops the pattern before the colon
      obtain ⟨d, t, hdrop, hd⟩ :=
        dropWhile_of_not_all (':' :: (digits e.count ++ restText e es)) hall
      rw [hdrop, placedNumber_of_ne (isKindChar_plain (kind.plain d hd)).1, if_neg hall]
      split_ifs <;> rfl

/-! ### Passing what is no entry -/

theorem placedPattern_of_ne {c : Char} (h : c ≠ ',') (s : List Char) :
    placedPattern false (c :: s) = none := by
  unfold placedPattern
  rw [if_neg Bool.false_ne_true, Option.none_or]
  split
  · rename_i heq
    exact absurd (List.cons.inj heq).1 h
  · rfl

theorem placedPattern_comma (s : List Char) : placedPattern false (',' :: s) = placedEntry s := by
  unfold placedPattern
  rw [if_neg Bool.false_ne_true, Option.none_or]
  rfl

theorem placedEntry_of_ne {c : Char} (h : c ≠ 'g') (s : List Char) :
    placedEntry (c :: s) = none := by
  unfold placedEntry
  split
  · rename_i heq
    exact absurd (List.cons.inj heq).1 h
  · rfl

/-- A part in which no entry begins. -/
def Passed (p : List Char) : Prop :=
  ∀ rest, findallFrom placedPattern false 0 (p ++ rest) = findallFrom placedPattern false 0 rest

theorem Passed.append {p q : List Char} (hp : Passed p) (hq : Passed q) : Passed (p ++ q) := by
  intro rest
  rw [List.append_assoc, hp, hq]

theorem Passed.tail {c : Char} {p : List Char} (hc : c ≠ ',') (h : Passed (c :: p)) :
    Passed p := by
  intro rest
  rw [← h rest, List.cons_append, findallFrom_cons (placedPattern_of_ne hc _)]

theorem passed_of_notMem {p : List Char} (h : ',' ∉ p) : Passed p := by
  intro rest
  refine findallFrom_pass fun c hc s => placedPattern_of_ne ?_ s
  rintro rfl
  exact h hc

theorem passed_spans (x : Spans) : Passed x.text := by
  have hspan : ∀ y : Span, Passed y.text := fun y =>
    passed_of_notMem fun hin => (span_text_plain y ',' hin).2 rfl
  have hmore : ∀ l : List Span, Passed (l.flatMap fun y => ',' :: y.text) := by
    intro l
    induction l with
    | nil => exact fun rest => rfl
    | cons y l ih =>
      refine Passed.append (q := l.flatMap fun y => ',' :: y.text) (fun rest => ?_) ih
      have hfirst : placedEntry (y.text ++ rest) = none := by
        obtain ⟨c, s, hcons, hc⟩ := spans_text_cons ⟨y, []⟩
        have htext : y.text = c :: s := by
          simpa [Spans.text, Spans.all, List.intercalate] using hcons
        rw [htext]
        refine placedEntry_of_ne ?_ _
        rintro rfl
        exact absurd hc (by decide)
      rw [List.cons_append, findallFrom_cons ((placedPattern_comma _).trans hfirst)]
      exact hspan y rest
  rw [spans_text]
  exact (hspan x.head).append (hmore x.tail)

theorem passed_suffix (suffix : Suffix) : Passed suffix.text := by
  have hclose : Passed [')'] := passed_of_notMem (by decide)
  cases suffix with
  | sockets spans =>
    exact (passed_of_notMem (p := ['(', 'S', ':']) (by decide)).append
      ((passed_spans spans).append hclose)
  | indexes spans =>
    cases spans with
    | some spans =>
      exact (passed_of_notMem (p := ['(', 'I', 'D', 'X', ':']) (by decide)).append
        ((passed_spans spans).append hclose)
    | none => exact passed_of_notMem (by decide)

theorem passed_entry (e : Entry) : Passed e.text := by
  have hkind : ',' ∉ kindText e.kind := by
    cases e.kind with
    | some kind =>
      intro hin
      rcases List.mem_append.1 hin with hin | hin
      · exact (isKindChar_plain (kind.plain _ hin)).2.1 rfl
      · exact absurd hin (by decide)
    | none => exact List.not_mem_nil
  have hcount : ',' ∉ digits e.count := by
    intro hin
    exact absurd (mem_digits hin) (by decide)
  have hsuffix : Passed (suffixText e.suffix) := by
    cases e.suffix with
    | some suffix => exact passed_suffix suffix
    | none => exact fun rest => rfl
  exact (passed_of_notMem (by decide)).append
    ((passed_of_notMem hkind).append ((passed_of_notMem hcount).append hsuffix))

/-! ### Counting -/

/-- What a match leaves: the entries after, of which the next has lost its comma where the count had
no suffix. -/
theorem findall_rest (e : Entry) (es : List Entry) :
    findallFrom placedPattern false 0 ((restText e es).drop 1) =
      findallFrom placedPattern false 0 (leftText e.suffix.isNone es) := by
  unfold restText suffixText
  cases e.suffix with
  | some suffix =>
    obtain ⟨t, -, ht⟩ := suffix_cons suffix
    have hpassed : Passed t := Passed.tail (c := '(') (by decide) (ht ▸ passed_suffix suffix)
    simp only [ht, List.cons_append, List.drop_one, List.tail_cons]
    exact hpassed (moreText es)
  | none => rfl

/-- An entry that is counted. -/
theorem findall_read {start : Bool} (before : List Char) {e : Entry} {es : List Entry}
    (hread : isRead e.kind = true)
    (hpattern : placedPattern start (before ++ (e.text ++ moreText es)) =
      placedEntry (e.text ++ moreText es)) :
    findallFrom placedPattern start 0 (before ++ (e.text ++ moreText es)) =
      e.count :: findallFrom placedPattern false 0 (leftText e.suffix.isNone es) := by
  rw [placedEntry_text, if_pos hread] at hpattern
  have hsplit : before ++ (e.text ++ moreText es) =
      (before ++ (['g', 'p', 'u', ':'] ++ (kindText e.kind ++ (digits e.count ++
        (restText e es).take 1)))) ++ (restText e es).drop 1 := by
    simp only [List.append_assoc, List.take_append_drop]
    simp [Entry.text, restText]
  rw [hsplit] at hpattern ⊢
  rw [findallFrom_match (by simp) hpattern, findall_rest]

theorem placedPattern_start (e : Entry) (es : List Entry) :
    placedPattern true (e.text ++ moreText es) = placedEntry (e.text ++ moreText es) := by
  have hcons : e.text ++ moreText es = 'g' :: ('p' :: 'u' :: ':' :: bodyText e es) :=
    entry_text [] e es
  unfold placedPattern
  rw [if_pos rfl, hcons]
  exact Option.or_none

/-- What is counted of entries, and what is not, are all of them. -/
theorem findall_entries : ∀ (es : List Entry) (skip : Bool),
    (findallFrom placedPattern false 0 (leftText skip es)).sum + gpuCount (missed skip es) =
      gpuCount es
  | [], skip => by cases skip <;> rfl
  | e :: es, true => by
    have ih : (findallFrom placedPattern false 0 (moreText es)).sum +
        gpuCount (missed false es) = gpuCount es := findall_entries es false
    have hleft : leftText true (e :: es) = e.text ++ moreText es := rfl
    rw [hleft, passed_entry e, missed]
    unfold gpuCount at ih ⊢
    simp only [List.map_cons, List.sum_cons]
    omega
  | e :: es, false => by
    have hleft : leftText false (e :: es) = [','] ++ (e.text ++ moreText es) := rfl
    rw [hleft, missed]
    by_cases hread : isRead e.kind = true
    · -- a count without a suffix takes the comma after it with it
      have ih := findall_entries es e.suffix.isNone
      rw [findall_read [','] hread (placedPattern_comma _), if_pos hread]
      unfold gpuCount at ih ⊢
      simp only [List.map_cons, List.sum_cons]
      omega
    · have ih : (findallFrom placedPattern false 0 (moreText es)).sum +
          gpuCount (missed false es) = gpuCount es := findall_entries es false
      have hnone : placedPattern false (',' :: (e.text ++ moreText es)) = none := by
        rw [placedPattern_comma, placedEntry_text, if_neg hread]
      rw [List.singleton_append, findallFrom_cons hnone, passed_entry e, if_neg hread]
      unfold gpuCount at ih ⊢
      simp only [List.map_cons, List.sum_cons]
      omega

/-- What `allocation_fact` counts of a placement, and what it does not, are all its GPUs. -/
theorem placedCount_text (g : Entries) :
    placedCount g.text + gpuCount (missed false g.all) = gpuCount g.all := by
  unfold placedCount Entries.text Entries.all
  rw [missed]
  by_cases hread : isRead g.head.kind = true
  · have hrest := findall_entries g.tail g.head.suffix.isNone
    have hfirst : findallFrom placedPattern true 0 (g.head.text ++ moreText g.tail) =
        g.head.count :: findallFrom placedPattern false 0 (leftText g.head.suffix.isNone g.tail) :=
      findall_read [] hread (placedPattern_start g.head g.tail)
    rw [hfirst, if_pos hread]
    unfold gpuCount at hrest ⊢
    simp only [List.map_cons, List.sum_cons]
    omega
  · have hrest : (findallFrom placedPattern false 0 (moreText g.tail)).sum +
        gpuCount (missed false g.tail) = gpuCount g.tail := findall_entries g.tail false
    have hcons : g.head.text ++ moreText g.tail =
        'g' :: ('p' :: 'u' :: ':' :: bodyText g.head g.tail) := entry_text [] g.head g.tail
    have hnone : placedPattern true (g.head.text ++ moreText g.tail) = none := by
      rw [placedPattern_start, placedEntry_text, if_neg hread]
    have hpassed : findallFrom placedPattern true 0 (g.head.text ++ moreText g.tail) =
        findallFrom placedPattern false 0 (moreText g.tail) := by
      have hpass := passed_entry g.head (moreText g.tail)
      rw [hcons] at hpass hnone ⊢
      rw [findallFrom_cons (placedPattern_of_ne (by decide) _)] at hpass
      rw [findallFrom_cons hnone, hpass]
    rw [hpassed, if_neg hread]
    unfold gpuCount at hrest ⊢
    simp only [List.map_cons, List.sum_cons]
    omega

/-- All entries with GPUs are counted. -/
def NoneMissed (g : Entries) : Prop := ∀ e ∈ missed false g.all, e.count = 0

theorem placedCount_iff (g : Entries) : placedCount g.text = gpuCount g.all ↔ NoneMissed g := by
  have htext := placedCount_text g
  have hzero : gpuCount (missed false g.all) = 0 ↔ NoneMissed g := by
    unfold gpuCount NoneMissed
    rw [List.sum_eq_zero_iff_forall_eq_nat, List.forall_mem_map]
  rw [← hzero]
  omega

/-- **Placements are read faithfully**: each of their nodes with all GPUs of its placement. -/
def PlacedRight (hostnames : String → List String) (placements : List (String × Entries)) : Prop :=
  allocationLocations (fun nodeList => some (hostnames nodeList))
      (placements.map fun p => (p.1, p.2.text)) =
    .ok (placements.flatMap fun p => (hostnames p.1).map fun name => ⟨name, gpuCount p.2.all⟩)

theorem allocationLocations_all (hostnames : String → List String) :
    ∀ placements : List (String × List Char),
      allocationLocations (fun nodeList => some (hostnames nodeList)) placements =
        .ok (placements.flatMap fun p => (hostnames p.1).map fun name => ⟨name, placedCount p.2⟩)
  | [] => rfl
  | (nodeList, gres) :: placements => by
    rw [allocationLocations, allocationLocations_all hostnames placements]
    rfl

theorem placedRight_iff (hostnames : String → List String) :
    ∀ placements : List (String × Entries), PlacedRight hostnames placements ↔
      ∀ p ∈ placements, hostnames p.1 ≠ [] → NoneMissed p.2
  | [] => by simp [PlacedRight, allocationLocations]
  | p :: placements => by
    have ih := placedRight_iff hostnames placements
    unfold PlacedRight at ih ⊢
    rw [allocationLocations_all, Except.ok.injEq] at ih ⊢
    have hhead : ((hostnames p.1).map fun name => Location.mk name (placedCount p.2.text)) =
        ((hostnames p.1).map fun name => Location.mk name (gpuCount p.2.all)) ↔
        (hostnames p.1 ≠ [] → NoneMissed p.2) := by
      rw [← placedCount_iff]
      cases hostnames p.1 with
      | nil => simp
      | cons name names =>
        refine ⟨fun h _ => congrArg Location.gpuCount (List.cons.inj h).1, fun h => ?_⟩
        rw [h (List.cons_ne_nil name names)]
    rw [List.forall_mem_cons, ← ih, ← hhead, List.map_cons, List.flatMap_cons, List.flatMap_cons]
    constructor
    · intro h
      exact List.append_inj h (by simp)
    · rintro ⟨hfirst, hrest⟩
      rw [hfirst, hrest]

/-! ## Both -/

/-- **Exactly when GPU counts are read faithfully**: the capacity, if the counts of every node are
where they are looked for; the placements, if none of an entry with GPUs is missed. -/
theorem gpuCounts_iff (gpusPerNode : ℕ) (lower : String → String)
    (hostnames : String → List String) (rows : List Row) (placements : List (String × Entries)) :
    (ReadRight gpusPerNode lower rows ↔ ∀ r ∈ rows, RowShown gpusPerNode r) ∧
      (PlacedRight hostnames placements ↔
        ∀ p ∈ placements, hostnames p.1 ≠ [] → NoneMissed p.2) :=
  ⟨clusterGpuCapacity_iff gpusPerNode lower rows, placedRight_iff hostnames placements⟩

/-- `gpu:4(S:0-1)` -/
def onSockets : Entries where
  head := ⟨none, 4, some (.sockets ⟨⟨0, 1, by decide⟩, []⟩), fun _ h => by cases h⟩
  tail := []

/-- `gpu:0(IDX:N/A)` -/
def noneUsed : Entries where
  head := ⟨none, 0, some (.indexes none), fun _ h => by cases h⟩
  tail := []

/-- An idle node whose four GPUs are on two sockets. -/
def socketsRow : Row where
  name := "node1".toList
  state := "idle".toList
  declared := onSockets
  used := noneUsed
  name_len := by decide
  state_len := by decide
  declared_len := by decide
  used_len := by decide
  name_line := forall_mem_of_all (by decide)
  state_line := forall_mem_of_all (by decide)
  used_le := by decide
  indexes_lt := by
    intro e he spans hsuffix
    rw [List.mem_singleton.1 he] at hsuffix
    cases hsuffix

/-- `gpu:a100:1,gpu:v100:2` -/
def twoTypes : Entries where
  head := ⟨some ⟨"a100".toList, by decide, List.all_eq_true.1 (by decide)⟩, 1, none,
    fun _ h => by cases h⟩
  tail := [⟨some ⟨"v100".toList, by decide, List.all_eq_true.1 (by decide)⟩, 2, none,
    fun _ h => by cases h⟩]

/-- The sockets are read as the total, and the second of two entries is not counted. -/
theorem gpuCounts_misread :
    ¬ ReadRight 8 String.toLower [socketsRow] ∧
      ¬ PlacedRight (fun _ => ["node1"]) [("node1", twoTypes)] := by
  constructor
  · rw [clusterGpuCapacity_iff]
    intro h
    have htotal := (h socketsRow List.mem_cons_self).1
    exact absurd htotal (by decide)
  · rw [placedRight_iff]
    intro h
    have hmissed := h ("node1", twoTypes) List.mem_cons_self (by decide)
    exact absurd (hmissed _ List.mem_cons_self) (by decide)

end ServerPilot.Gres
