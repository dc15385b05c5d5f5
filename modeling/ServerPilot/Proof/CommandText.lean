import ServerPilot.Spec.CommandText

/-!
# When the copied command is the command

* `run_pieces`: where every single quote is a Character of its own, the quoted argument reads as
  the argument.
* `text_balance`: the text against its arguments, by length and single quotes. A single quote
  within a larger Character is left as it is, and the text is too short for its words by one.
* `commandText_iff`: **the shell gives back exactly the arguments when no single quote is part of
  a larger Character, and only then.**
-/

namespace ServerPilot.Desktop

open Shell

variable {cs : Characters}

/-- Every single quote is a Character of its own. -/
def Characters.Separates (cs : Characters) (argument : List Char) : Prop :=
  ∀ ch ∈ cs.segment argument, '\'' ∈ ch → ch = ['\'']

/-! ## Arguments that read back -/

/-- What `replacingOccurrences` makes of Characters. -/
def replaced (pieces : List (List Char)) : List Char :=
  pieces.flatMap fun ch => if ch = ['\''] then quoteMark else ch

theorem replaced_cons (ch : List Char) (pieces : List (List Char)) :
    replaced (ch :: pieces) = (if ch = ['\''] then quoteMark else ch) ++ replaced pieces := rfl

theorem run_pieces {pieces : List (List Char)} (h : ∀ ch ∈ pieces, '\'' ∈ ch → ch = ['\''])
    (words : List (List Char)) (word : List Char) :
    (replaced pieces).foldl step { mode := .single, words := words, current := some word } =
      { mode := .single, words := words, current := some (word ++ pieces.flatten) } := by
  induction pieces generalizing word with
  | nil =>
    rw [List.flatten_nil, List.append_nil]
    rfl
  | cons ch pieces ih =>
    have hrest := ih fun c hc => h c (List.mem_cons_of_mem _ hc)
    rw [replaced_cons, List.foldl_append, List.flatten_cons]
    by_cases hquote : ch = ['\'']
    · rw [if_pos hquote, run_quoteMark, hrest, hquote, List.append_assoc]
    · have hplain : '\'' ∉ ch := fun hin => hquote (h ch List.mem_cons_self hin)
      rw [if_neg hquote, run_plain hplain, hrest, List.append_assoc]

theorem quoteArgument_reads {args : List (List Char)} (h : ∀ a ∈ args, cs.Separates a) :
    Reads (quoteArgument cs) args := by
  intro a ha words
  refine run_word words ?_
  have hrun := run_pieces (h a ha) words []
  rw [List.nil_append, cs.flatten] at hrun
  exact hrun

/-! ## Texts that are too short for their words -/

/-- The single quotes within larger Characters. -/
def hidden : List (List Char) → ℕ
  | [] => 0
  | ch :: pieces => (if ch = ['\''] then 0 else ch.count '\'') + hidden pieces

theorem hidden_append (pieces pieces' : List (List Char)) :
    hidden (pieces ++ pieces') = hidden pieces + hidden pieces' := by
  induction pieces with
  | nil => rw [List.nil_append, hidden, Nat.zero_add]
  | cons ch pieces ih => rw [List.cons_append, hidden, hidden, ih, Nat.add_assoc]

/-- **Replacing, counted**: a replaced quote adds as many single quotes as characters. -/
theorem replaced_balance (pieces : List (List Char)) :
    (replaced pieces).length + hidden pieces =
      pieces.flatten.length + (replaced pieces).count '\'' := by
  induction pieces with
  | nil => rfl
  | cons ch pieces ih =>
    rw [replaced_cons, hidden, List.flatten_cons, List.length_append, List.length_append,
      List.count_append]
    by_cases hquote : ch = ['\'']
    · have hlength : quoteMark.length = 4 := rfl
      have hcount : quoteMark.count '\'' = 3 := rfl
      rw [if_pos hquote, if_pos hquote, hlength, hcount, hquote, List.length_singleton]
      omega
    · rw [if_neg hquote, if_neg hquote]
      omega

theorem replaced_doubles (pieces : List (List Char)) :
    (replaced pieces).count '"' = pieces.flatten.count '"' := by
  induction pieces with
  | nil => rfl
  | cons ch pieces ih =>
    rw [replaced_cons, List.flatten_cons, List.count_append, List.count_append, ih]
    by_cases hquote : ch = ['\'']
    · rw [if_pos hquote, hquote]
      rfl
    · rw [if_neg hquote]

theorem quoteArgument_balance (cs : Characters) (a : List Char) :
    (quoteArgument cs a).length + hidden (cs.segment a) =
      a.length + (quoteArgument cs a).count '\'' := by
  have hbalance := replaced_balance (cs.segment a)
  rw [cs.flatten] at hbalance
  have hquoted : quoteArgument cs a = '\'' :: replaced (cs.segment a) ++ ['\''] := rfl
  have hlength : (quoteArgument cs a).length = (replaced (cs.segment a)).length + 2 := by
    rw [hquoted, List.length_append, List.length_cons, List.length_singleton]
  have hcount : (quoteArgument cs a).count '\'' = (replaced (cs.segment a)).count '\'' + 2 := by
    rw [hquoted, List.count_append, List.count_cons_self, List.count_singleton_self]
  omega

theorem quoteArgument_doubles (cs : Characters) (a : List Char) :
    (quoteArgument cs a).count '"' = a.count '"' := by
  have hcount := replaced_doubles (cs.segment a)
  rw [cs.flatten] at hcount
  have hquoted : quoteArgument cs a = '\'' :: replaced (cs.segment a) ++ ['\''] := rfl
  rw [hquoted, List.count_append, List.count_cons_of_ne (by decide), hcount]
  rfl

/-- **The text against its arguments**: with the separators it is as long as they are, with the
single quotes it has, but for those that are hidden. -/
theorem text_balance (cs : Characters) {args : List (List Char)} (hne : args ≠ []) :
    ([' '].intercalate (args.map (quoteArgument cs))).length + 1 +
        hidden (args.flatMap cs.segment) =
      args.flatten.length + ([' '].intercalate (args.map (quoteArgument cs))).count '\'' +
        args.length := by
  induction args with
  | nil => exact absurd rfl hne
  | cons a args ih =>
    have ha := quoteArgument_balance cs a
    cases args with
    | nil =>
      rw [List.map_singleton, List.intercalate_singleton, List.flatMap_singleton,
        List.flatten_singleton, List.length_singleton]
      omega
    | cons b args =>
      have hrest := ih (List.cons_ne_nil _ _)
      rw [List.map_cons] at hrest
      have hblank : [' '].count '\'' = 0 := rfl
      rw [List.map_cons, List.map_cons, List.intercalate_cons_cons, List.flatMap_cons,
        hidden_append, List.flatten_cons, List.length_cons, List.length_append, List.length_append,
        List.length_append, List.count_append, List.count_append, hblank, List.length_singleton]
      omega

theorem text_doubles (args : List (List Char)) :
    ([' '].intercalate (args.map (quoteArgument cs))).count '"' = args.flatten.count '"' := by
  induction args with
  | nil => rfl
  | cons a args ih =>
    have ha := quoteArgument_doubles cs a
    cases args with
    | nil =>
      rw [List.map_singleton, List.intercalate_singleton, List.flatten_singleton]
      exact ha
    | cons b args =>
      have hblank : [' '].count '"' = 0 := rfl
      rw [List.map_cons] at ih
      rw [List.map_cons, List.map_cons, List.intercalate_cons_cons, List.flatten_cons,
        List.count_append, List.count_append, List.count_append, hblank, ih, ha, Nat.add_zero]

/-- No hidden quote, no Character with one. -/
theorem separates_of_hidden {pieces : List (List Char)} (h : hidden pieces = 0) :
    ∀ ch ∈ pieces, '\'' ∈ ch → ch = ['\''] := by
  induction pieces with
  | nil => exact fun ch hch => absurd hch List.not_mem_nil
  | cons piece pieces ih =>
    rw [hidden] at h
    intro ch hch hin
    rcases List.mem_cons.1 hch with rfl | hch
    · by_contra hquote
      rw [if_neg hquote] at h
      have := List.count_pos_iff.2 hin
      omega
    · exact ih (by omega) ch hch hin

/-- Words that come back hide no quote. -/
theorem separates_of_reads {args : List (List Char)}
    (h : splitWords ([' '].intercalate (args.map (quoteArgument cs))) = some args) :
    ∀ a ∈ args, cs.Separates a := by
  intro a ha
  have hbalance := text_balance cs (List.ne_nil_of_mem ha)
  have hlength := splitWords_length h (text_doubles args).symm
  have hnone : hidden (args.flatMap cs.segment) = 0 := by omega
  intro ch hch
  exact separates_of_hidden hnone ch (List.mem_flatMap.2 ⟨a, ha, hch⟩)

/-! ## The copied command -/

theorem shellWords_eq_some {text : String} {words : List String} :
    shellWords text = some words ↔ splitWords text.toList = some (words.map String.toList) := by
  unfold shellWords
  rw [Option.map_eq_some_iff]
  constructor
  · rintro ⟨l, hl, rfl⟩
    rw [hl, List.map_map]
    simp [Function.comp_def]
  · intro h
    refine ⟨_, h, ?_⟩
    simp [Function.comp_def]

/-- **The copied command is the command exactly when every single quote in every argument is a
Character of its own.** -/
theorem commandText_iff (cs : Characters) (e : AllocationEntryRecord) :
    shellWords (e.commandText cs) = some e.argv ↔
      ∀ a ∈ e.argv, ∀ ch ∈ cs.segment a.toList, '\'' ∈ ch → ch = ['\''] := by
  have htext : (e.commandText cs).toList =
      [' '].intercalate ((e.argv.map String.toList).map (quoteArgument cs)) := by
    rw [AllocationEntryRecord.commandText, String.toList_ofList, List.map_map]
    rfl
  rw [shellWords_eq_some, htext]
  constructor
  · intro h a ha
    exact separates_of_reads h a.toList (List.mem_map_of_mem ha)
  · intro h
    refine splitWords_join (quoteArgument_reads fun a ha => ?_)
    obtain ⟨s, hs, rfl⟩ := List.mem_map.1 ha
    exact h s hs

/-! ## A quote with an accent -/

/-- The combining diacritical marks. -/
def isMark (c : Char) : Bool := '\u0300' ≤ c && c ≤ '\u036f'

/-- Characters of texts whose only marks are the combining diacritical ones. -/
def joinMarks : List Char → List (List Char)
  | [] => []
  | c :: text =>
    match joinMarks text with
    | (d :: ch) :: rest => if isMark d then (c :: d :: ch) :: rest else [c] :: (d :: ch) :: rest
    | rest => [c] :: rest

theorem joinMarks_flatten (text : List Char) : (joinMarks text).flatten = text := by
  induction text with
  | nil => rfl
  | cons c text ih =>
    unfold joinMarks
    split
    · rename_i d ch rest hrest
      rw [hrest] at ih
      have hcons : c :: text = c :: ((d :: ch) :: rest).flatten := by rw [ih]
      split_ifs
      · rw [hcons]
        rfl
      · rw [hcons]
        rfl
    · rw [List.flatten_cons, ih]
      rfl

theorem joinMarks_nonempty (text : List Char) : ∀ ch ∈ joinMarks text, ch ≠ [] := by
  induction text with
  | nil => exact fun ch hch => absurd hch List.not_mem_nil
  | cons c text ih =>
    unfold joinMarks
    split
    · rename_i d ch rest hrest
      rw [hrest] at ih
      have hothers : ∀ x ∈ rest, x ≠ [] := fun x hx => ih x (List.mem_cons_of_mem _ hx)
      split_ifs
      · exact List.forall_mem_cons.2 ⟨List.cons_ne_nil _ _, hothers⟩
      · exact List.forall_mem_cons.2 ⟨List.cons_ne_nil _ _, ih⟩
    · exact List.forall_mem_cons.2 ⟨List.cons_ne_nil _ _, ih⟩

def marks : Characters where
  segment := joinMarks
  flatten := joinMarks_flatten
  nonempty := joinMarks_nonempty

/-- An argument with an acute accent on its quote, as a provider may send it. -/
def accented : List String := ["it'\u0301s"]

/-- The quote in it closes the quotation, and the last one opens another that does not end. -/
theorem commandText_misread : boundedArguments accented = true ∧
    shellWords (AllocationEntryRecord.commandText marks { argv := accented }) = none ∧
    shellWords (AllocationEntryRecord.commandText marks { argv := accented }) ≠ some accented := by
  decide +kernel

end ServerPilot.Desktop
