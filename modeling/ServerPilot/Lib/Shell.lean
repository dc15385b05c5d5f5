import Mathlib.Data.List.Basic
import Mathlib.Data.List.Count
import Mathlib.Data.List.Induction

/-!
# Words of a shell

How a POSIX shell splits one line into words when nothing in it is expanded: blanks separate,
a backslash, single and double quotes quote, an unquoted operator or line break ends the words of
the command.

* `run_plain`, `run_word`: what stands between single quotes is read as it is.
* `splitWords_length`: what is split without double quotes is longer than its words, by its single
  quotes and by the separators between words.
-/

namespace Shell

inductive Mode
  | outside
  | escaped
  | single
  | double
  | doubleEscaped
  | comment
  | operator
  deriving DecidableEq, Repr

/-- The complete words, and the one that is being read, if one is. -/
structure Lexer where
  mode : Mode
  words : List (List Char)
  current : Option (List Char)
  deriving DecidableEq, Repr

def start : Lexer := { mode := .outside, words := [], current := none }

def isBlank (c : Char) : Bool := c = ' ' || c = '\t'

/-- What begins an operator, and the line break. -/
def isOperator (c : Char) : Bool :=
  c = '&' || c = '|' || c = ';' || c = '<' || c = '>' || c = '(' || c = ')' || c = '\n'

/-- What a backslash quotes between double quotes. -/
def isSpecial (c : Char) : Bool := c = '$' || c = '\u0060' || c = '"' || c = '\\'

/-- Go on in a mode with more of the current word. -/
def Lexer.put (s : Lexer) (mode : Mode) (chars : List Char) : Lexer :=
  { s with mode := mode, current := some (s.current.getD [] ++ chars) }

/-- Go on in a mode. -/
def Lexer.goto (s : Lexer) (mode : Mode) : Lexer := { s with mode := mode }

/-- The current word is complete. -/
def Lexer.cut (s : Lexer) : Lexer :=
  { s with words := s.words ++ s.current.toList, current := none }

/-- One character. -/
def step (s : Lexer) (c : Char) : Lexer :=
  match s.mode with
  | .outside =>
    if c = '\'' then s.put .single []
    else if c = '"' then s.put .double []
    else if c = '\\' then s.goto .escaped
    else if isBlank c then s.cut
    else if isOperator c then s.goto .operator
    else if c = '#' ∧ s.current = none then s.goto .comment
    else s.put .outside [c]
  | .escaped =>
    -- a backslash and a line break are no part of the text
    if c = '\n' then s.goto .outside else s.put .outside [c]
  | .single => if c = '\'' then s.goto .outside else s.put .single [c]
  | .double =>
    if c = '"' then s.goto .outside
    else if c = '\\' then s.goto .doubleEscaped
    else s.put .double [c]
  | .doubleEscaped =>
    if c = '\n' then s.goto .double
    else if isSpecial c then s.put .double [c]
    else s.put .double ['\\', c]
  | .comment => if c = '\n' then s.goto .operator else s
  | .operator => s

/-- The words at the end of the text, unless a quotation is open or an operator came. -/
def finish (s : Lexer) : Option (List (List Char)) :=
  match s.mode with
  | .outside | .comment => some s.cut.words
  | .escaped => some (s.put .outside ['\\']).cut.words
  | .single | .double | .doubleEscaped | .operator => none

/-- **The words of a text.** -/
def splitWords (text : List Char) : Option (List (List Char)) := finish (text.foldl step start)

/-! ## What has been read -/

/-- The text of the words so far, joined. -/
def Lexer.output (s : Lexer) : List Char := s.words.flatten ++ s.current.getD []

@[simp] theorem put_output (s : Lexer) (mode : Mode) (chars : List Char) :
    (s.put mode chars).output = s.output ++ chars := by
  simp [Lexer.output, Lexer.put]

@[simp] theorem goto_output (s : Lexer) (mode : Mode) : (s.goto mode).output = s.output := rfl

@[simp] theorem cut_output (s : Lexer) : s.cut.output = s.output := by
  cases h : s.current <;> simp [Lexer.output, Lexer.cut, h]

@[simp] theorem put_mode (s : Lexer) (mode : Mode) (chars : List Char) :
    (s.put mode chars).mode = mode := rfl

@[simp] theorem put_words (s : Lexer) (mode : Mode) (chars : List Char) :
    (s.put mode chars).words = s.words := rfl

@[simp] theorem goto_mode (s : Lexer) (mode : Mode) : (s.goto mode).mode = mode := rfl

@[simp] theorem goto_words (s : Lexer) (mode : Mode) : (s.goto mode).words = s.words := rfl

@[simp] theorem cut_mode (s : Lexer) : s.cut.mode = s.mode := rfl

theorem cut_words_length (s : Lexer) : s.cut.words.length ≤ s.words.length + 1 := by
  cases h : s.current <;> simp [Lexer.cut, h]

/-- Cutting leaves the output in the complete words. -/
theorem cut_words_flatten (s : Lexer) : s.cut.words.flatten = s.output := by
  rw [← cut_output, Lexer.output, show s.cut.current = none from rfl, Option.getD_none,
    List.append_nil]

/-- **One character adds no more double quotes than it is.** -/
theorem step_output (s : Lexer) (c : Char) :
    ∃ added, (step s c).output = s.output ++ added ∧ added.count '"' ≤ [c].count '"' := by
  have hnone : ∀ s' : Lexer, s'.output = s.output →
      ∃ added, s'.output = s.output ++ added ∧ added.count '"' ≤ [c].count '"' := fun s' h =>
    ⟨[], by rw [h, List.append_nil], Nat.zero_le _⟩
  unfold step
  cases s.mode with
  | outside =>
    dsimp only
    split_ifs
    · exact ⟨[], put_output .., Nat.zero_le _⟩
    · exact ⟨[], put_output .., Nat.zero_le _⟩
    · exact hnone _ rfl
    · exact hnone _ (cut_output s)
    · exact hnone _ rfl
    · exact hnone _ rfl
    · exact ⟨[c], put_output .., Nat.le_refl _⟩
  | escaped =>
    dsimp only
    split_ifs
    · exact hnone _ rfl
    · exact ⟨[c], put_output .., Nat.le_refl _⟩
  | single =>
    dsimp only
    split_ifs
    · exact hnone _ rfl
    · exact ⟨[c], put_output .., Nat.le_refl _⟩
  | double =>
    dsimp only
    split_ifs
    · exact hnone _ rfl
    · exact hnone _ rfl
    · exact ⟨[c], put_output .., Nat.le_refl _⟩
  | doubleEscaped =>
    dsimp only
    split_ifs
    · exact hnone _ rfl
    · exact ⟨[c], put_output .., Nat.le_refl _⟩
    · -- a double quote after a backslash is quoted by it
      have hcount : ['\\', c].count '"' = [c].count '"' := List.count_cons_of_ne (by decide)
      exact ⟨['\\', c], put_output .., Nat.le_of_eq hcount⟩
  | comment =>
    dsimp only
    split_ifs
    · exact hnone _ rfl
    · exact hnone _ rfl
  | operator => exact hnone _ rfl

/-! ## Counting -/

/-- A backslash that was read and quotes what comes next. -/
def pending (s : Lexer) : ℕ := if s.mode = .escaped then 1 else 0

/-- No double quotes have been open: every character that was read is in the output, or is a
single quote, separates words, or is one that quotes the next. -/
structure Sharp (s : Lexer) (read : List Char) : Prop where
  mode : s.mode ≠ .double ∧ s.mode ≠ .doubleEscaped
  doubles : s.output.count '"' ≤ read.count '"'
  length : s.output.length + read.count '\'' + s.words.length + pending s ≤ read.length

/-- A double quote that was read is not in the output. -/
def Lossy (s : Lexer) (read : List Char) : Prop := s.output.count '"' < read.count '"'

theorem lossy_step {s : Lexer} {read : List Char} (h : Lossy s read) (c : Char) :
    Lossy (step s c) (read ++ [c]) := by
  obtain ⟨added, hadded, hcount⟩ := step_output s c
  unfold Lossy at h ⊢
  rw [hadded, List.count_append, List.count_append]
  omega

/-- **Outside double quotes**, a character is a single quote, separates words, quotes the next or
is one more of the output. -/
theorem step_length {s : Lexer} {c : Char} (hd : s.mode ≠ .double) (he : s.mode ≠ .doubleEscaped)
    (hquote : s.mode = .outside → c ≠ '"') :
    ((step s c).mode ≠ .double ∧ (step s c).mode ≠ .doubleEscaped) ∧
      (step s c).output.length + [c].count '\'' + (step s c).words.length + pending (step s c) ≤
        s.output.length + s.words.length + pending s + 1 := by
  have hone : [c].count '\'' ≤ 1 := List.count_le_length
  have hother : c ≠ '\'' → [c].count '\'' = 0 := fun h =>
    List.count_eq_zero.2 (by simpa using h.symm)
  have hcut := cut_words_length s
  generalize [c].count '\'' = quotes at hone hother ⊢
  unfold step
  cases hmode : s.mode with
  | outside =>
    dsimp only
    by_cases hsingle : c = '\''
    · simp only [hsingle, if_true]
      simp [pending, hmode]
      omega
    · rw [if_neg hsingle, if_neg (hquote hmode), hother hsingle]
      split_ifs <;> simp [pending, hmode] <;> omega
  | escaped =>
    dsimp only
    split_ifs <;> simp [pending, hmode] <;> omega
  | single =>
    dsimp only
    by_cases hsingle : c = '\''
    · simp only [hsingle, if_true]
      simp [pending, hmode]
      omega
    · rw [if_neg hsingle, hother hsingle]
      simp [pending, hmode]
      omega
  | double => exact absurd hmode hd
  | doubleEscaped => exact absurd hmode he
  | comment =>
    dsimp only
    split_ifs <;> simp [pending, hmode] <;> omega
  | operator =>
    dsimp only
    simp [pending, hmode]
    omega

theorem sharp_step {s : Lexer} {read : List Char} (h : Sharp s read) (c : Char) :
    Sharp (step s c) (read ++ [c]) ∨ Lossy (step s c) (read ++ [c]) := by
  by_cases hopen : s.mode = .outside ∧ c = '"'
  · -- a double quote opens, and is not in the output
    right
    obtain ⟨hmode, rfl⟩ := hopen
    have hstep : step s '"' = s.put .double [] := by
      unfold step
      rw [hmode]
      rfl
    rw [Lossy, hstep, put_output, List.append_nil, List.count_append]
    have := h.doubles
    exact Nat.lt_succ_of_le this
  · left
    obtain ⟨hmode, hsize⟩ := step_length (c := c) h.mode.1 h.mode.2 fun hm hc => hopen ⟨hm, hc⟩
    obtain ⟨added, hadded, hcount⟩ := step_output s c
    have hlength := h.length
    have hdoubles := h.doubles
    refine ⟨hmode, ?_, ?_⟩
    · rw [hadded, List.count_append, List.count_append]
      omega
    · rw [List.count_append, List.length_append, List.length_singleton]
      omega

/-- **A run** has no double quotes open, or has lost one. -/
theorem run_counts (text : List Char) :
    Sharp (text.foldl step start) text ∨ Lossy (text.foldl step start) text := by
  induction text using List.reverseRecOn with
  | nil => exact .inl ⟨⟨nofun, nofun⟩, Nat.le_refl _, Nat.le_refl _⟩
  | append_singleton read c ih =>
    rw [List.foldl_append, List.foldl_cons, List.foldl_nil]
    rcases ih with h | h
    · exact sharp_step h c
    · exact .inr (lossy_step h c)

/-- **A text is at least as long as its words, its single quotes and the separators between its
words**, when all its double quotes are in the words. -/
theorem splitWords_length {text : List Char} {words : List (List Char)}
    (h : splitWords text = some words) (hd : words.flatten.count '"' = text.count '"') :
    words.flatten.length + text.count '\'' + words.length ≤ text.length + 1 := by
  unfold splitWords finish at h
  set s := text.foldl step start with hs
  have hcounts : Sharp s text ∨ Lossy s text := run_counts text
  have hsharp : s.output.count '"' = text.count '"' → Sharp s text := fun hall => by
    rcases hcounts with hsharp | hlossy
    · exact hsharp
    · exact absurd hall (Nat.ne_of_lt hlossy)
  have hcut := cut_words_length s
  cases hmode : s.mode with
  | outside | comment =>
    rw [hmode] at h
    obtain rfl := Option.some.inj h
    rw [cut_words_flatten] at hd ⊢
    have hlength := (hsharp hd).length
    omega
  | escaped =>
    -- the backslash at the end is part of the last word
    rw [hmode] at h
    obtain rfl := Option.some.inj h
    have hput := cut_words_length (s.put .outside ['\\'])
    rw [put_words] at hput
    rw [cut_words_flatten, put_output] at hd ⊢
    have hnone : ['\\'].count '"' = 0 := by decide
    rw [List.count_append, hnone, Nat.add_zero] at hd
    have hlength := (hsharp hd).length
    rw [pending, if_pos hmode] at hlength
    rw [List.length_append, List.length_singleton]
    omega
  | single | double | doubleEscaped | operator => rw [hmode] at h; cases h

/-! ## Quoting -/

/-- **Text without a single quote is read as it is** between single quotes. -/
theorem run_plain {text : List Char} (h : '\'' ∉ text) (words : List (List Char))
    (word : List Char) :
    text.foldl step { mode := .single, words := words, current := some word } =
      { mode := .single, words := words, current := some (word ++ text) } := by
  induction text generalizing word with
  | nil => rw [List.append_nil]; rfl
  | cons c text ih =>
    have hc : c ≠ '\'' := fun hc => h (hc ▸ List.mem_cons_self)
    have hrest : '\'' ∉ text := fun hm => h (List.mem_cons_of_mem _ hm)
    have hstep : step { mode := .single, words := words, current := some word } c =
        { mode := .single, words := words, current := some (word ++ [c]) } := by
      unfold step
      dsimp only
      rw [if_neg hc]
      rfl
    rw [List.foldl_cons, hstep, ih hrest, List.append_assoc, List.singleton_append]

/-- How a single quote is written between single quotes: it closes them, is quoted by a backslash,
and opens them again. -/
def quoteMark : List Char := ['\'', '\\', '\'', '\'']

theorem run_quoteMark (words : List (List Char)) (word : List Char) :
    quoteMark.foldl step { mode := .single, words := words, current := some word } =
      { mode := .single, words := words, current := some (word ++ ['\'']) } := by
  simp [quoteMark, step, Lexer.goto, Lexer.put]

/-- Text in single quotes whose inside reads as a word is that word. -/
theorem run_word {inside word : List Char} (words : List (List Char))
    (h : inside.foldl step { mode := .single, words := words, current := some [] } =
      { mode := .single, words := words, current := some word }) :
    ('\'' :: inside ++ ['\'']).foldl step { mode := .outside, words := words, current := none } =
      { mode := .outside, words := words, current := some word } := by
  have hopen : step { mode := .outside, words := words, current := none } '\'' =
      { mode := .single, words := words, current := some [] } := rfl
  rw [List.cons_append, List.foldl_cons, hopen, List.foldl_append, h]
  rfl

/-- A way to write words that the shell undoes. -/
def Reads (quoted : List Char → List Char) (args : List (List Char)) : Prop :=
  ∀ arg ∈ args, ∀ words, (quoted arg).foldl step
    { mode := .outside, words := words, current := none } =
      { mode := .outside, words := words, current := some arg }

theorem run_join {quoted : List Char → List Char} {args : List (List Char)}
    (h : Reads quoted args) (words : List (List Char)) :
    ([' '].intercalate (args.map quoted)).foldl step
      { mode := .outside, words := words, current := none } =
        { mode := .outside, words := words ++ args.dropLast, current := args.getLast? } := by
  induction args generalizing words with
  | nil =>
    rw [List.dropLast_nil, List.append_nil]
    rfl
  | cons arg args ih =>
    have harg := h arg List.mem_cons_self words
    cases args with
    | nil =>
      rw [List.map_singleton, List.intercalate_singleton, harg, List.dropLast_singleton,
        List.append_nil]
      rfl
    | cons next args =>
      have hblank : step { mode := .outside, words := words, current := some arg } ' ' =
          { mode := .outside, words := words ++ [arg], current := none } := rfl
      have hrest := ih (fun a ha => h a (List.mem_cons_of_mem _ ha)) (words ++ [arg])
      rw [List.map_cons] at hrest
      rw [List.map_cons, List.map_cons, List.intercalate_cons_cons, List.foldl_append,
        List.foldl_append, harg, List.foldl_cons, hblank, List.foldl_nil, hrest,
        List.append_assoc]
      rfl

/-- **Words that each read as they should, with a space between them, are the words of the
text.** -/
theorem splitWords_join {quoted : List Char → List Char} {args : List (List Char)}
    (h : Reads quoted args) : splitWords ([' '].intercalate (args.map quoted)) = some args := by
  unfold splitWords start
  rw [run_join h []]
  cases hlast : args.getLast? with
  | none =>
    rw [List.getLast?_eq_none_iff.1 hlast]
    rfl
  | some last =>
    obtain ⟨init, rfl⟩ := List.getLast?_eq_some_iff.1 hlast
    simp [finish, Lexer.cut]

end Shell
