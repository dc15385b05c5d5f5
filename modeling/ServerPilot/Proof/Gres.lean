import ServerPilot.Proof.Ordinals
import ServerPilot.Spec.Gres

/-!
# The counts in Slurm's texts

What the two searches of `slurm-immediate` find in the text of a node's entries, told by the
entries: the number that is taken for the total (`scan_typedNumber`) and the count that is taken for
what is used (`scan_usedNumber`). A text is read segment by segment between its colons, since both
patterns begin with `gpu:`.
-/

namespace ServerPilot.Gres

open Checked Search Collector

/-! ## Characters -/

theorem forall_mem_of_all {p : Char → Prop} [DecidablePred p] {l : List Char}
    (h : (l.all fun c => decide (p c)) = true) : ∀ c ∈ l, p c :=
  fun c hc => of_decide_eq_true (List.all_eq_true.1 h c hc)

theorem isKindChar_plain {c : Char} (h : isKindChar c = true) :
    c ≠ ':' ∧ c ≠ ',' ∧ c ≠ '(' ∧ c ≠ ')' ∧ isSpace c = false := by
  simp only [isKindChar, Bool.and_eq_true, decide_eq_true_eq, Bool.not_eq_true',
    Bool.or_eq_false_iff, decide_eq_false_iff_not] at h
  obtain ⟨⟨hlow, hhigh⟩, ⟨⟨hcolon, hcomma⟩, hopen⟩, hclose⟩ := h
  refine ⟨hcolon, hcomma, hopen, hclose, ?_⟩
  simp only [isSpace, Bool.or_eq_false_iff, Bool.and_eq_false_iff, decide_eq_false_iff_not,
    beq_eq_false_iff_ne]
  omega

theorem isDigit_range {c : Char} (h : c.isDigit = true) : 48 ≤ c.toNat ∧ c.toNat ≤ 57 := by
  simpa [Char.isDigit, UInt32.le_iff_toNat_le] using h

theorem isDigit_kindChar {c : Char} (h : c.isDigit = true) : isKindChar c = true := by
  have hrange := isDigit_range h
  simp only [isKindChar, Bool.and_eq_true, decide_eq_true_eq, Bool.not_eq_true',
    Bool.or_eq_false_iff, decide_eq_false_iff_not]
  refine ⟨⟨by omega, by omega⟩, ⟨⟨?_, ?_⟩, ?_⟩, ?_⟩ <;>
    · rintro rfl
      exact absurd h (by decide)

theorem mem_digits {n : ℕ} {c : Char} (h : c ∈ digits n) : c.isDigit = true :=
  Nat.isDigit_of_mem_toDigits (by decide) (by decide) h

theorem digits_ne_nil (n : ℕ) : digits n ≠ [] := Nat.toDigits_ne_nil

/-- What follows does not begin with a character that `p` takes. -/
def Stops (p : Char → Bool) (rest : List Char) : Prop := ∀ c, rest.head? = some c → p c = false

theorem stops_nil (p : Char → Bool) : Stops p [] := fun _ h => absurd h (by simp)

theorem stops_cons {p : Char → Bool} {c : Char} (h : p c = false) (s : List Char) :
    Stops p (c :: s) := by
  intro d hd
  cases hd
  exact h

theorem takeWhile_stops {p : Char → Bool} {rest : List Char} (hrest : Stops p rest) :
    ∀ {l : List Char}, (∀ c ∈ l, p c = true) →
      (l ++ rest).takeWhile p = l ∧ (l ++ rest).dropWhile p = rest := by
  intro l hl
  rw [List.takeWhile_append_of_pos hl, List.dropWhile_append_of_pos hl]
  cases rest with
  | nil => exact ⟨List.append_nil l, rfl⟩
  | cons c s =>
    have hc : ¬ p c = true := by
      rw [hrest c rfl]
      exact Bool.false_ne_true
    rw [List.takeWhile_cons_of_neg hc, List.dropWhile_cons_of_neg hc, List.append_nil]
    exact ⟨rfl, rfl⟩

/-! ## Numbers -/

theorem number_digits (n : ℕ) {rest : List Char} (h : Stops Char.isDigit rest) :
    number (digits n ++ rest) = some (n, rest) := by
  obtain ⟨htake, hdrop⟩ := takeWhile_stops h (l := digits n) fun c hc => mem_digits hc
  unfold number
  rw [htake, hdrop, if_neg (digits_ne_nil n), digits,
    Nat.ofDigitChars_toDigits (by decide) (by decide)]

theorem number_eq_none {c : Char} (h : c.isDigit = false) (s : List Char) :
    number (c :: s) = none := by
  unfold number
  rw [List.takeWhile_cons_of_neg (by rw [h]; exact Bool.false_ne_true), if_pos rfl]

theorem closedNumber_digits (n : ℕ) {rest : List Char} (h : Stops Char.isDigit rest) :
    closedNumber (digits n ++ rest) =
      if rest = [] ∨ rest.head? = some '(' then some n else none := by
  unfold closedNumber
  rw [number_digits n h]
  cases rest with
  | nil => rfl
  | cons c s =>
    by_cases hc : c = '('
    · subst hc
      rfl
    · rw [if_neg (by simp [hc])]
      split
      · rename_i heq
        cases heq
      · rename_i heq
        cases heq
        exact absurd rfl hc
      · rfl

/-- What is left when `p` is passed in a text with a character that `p` does not take. -/
theorem dropWhile_cons_of_stop {p : Char → Bool} {c : Char} (hc : p c = false) (s : List Char) :
    ∀ l : List Char, ∃ d t, (l ++ c :: s).dropWhile p = d :: t ∧ (d ∈ l ∨ d = c)
  | [] => ⟨c, s, List.dropWhile_cons_of_neg (by rw [hc]; exact Bool.false_ne_true), Or.inr rfl⟩
  | a :: l => by
    by_cases ha : p a = true
    · obtain ⟨d, t, heq, hd⟩ := dropWhile_cons_of_stop hc s l
      refine ⟨d, t, ?_, hd.imp_left (List.mem_cons_of_mem a)⟩
      rw [List.cons_append, List.dropWhile_cons_of_pos ha, heq]
    · exact ⟨a, l ++ c :: s, List.dropWhile_cons_of_neg ha, Or.inl List.mem_cons_self⟩

/-- A number in a text before whose first colon there is only a type goes no further. -/
theorem number_kind (kind : Kind) (s : List Char) {n : ℕ} {rest : List Char}
    (h : number (kind.text ++ ':' :: s) = some (n, rest)) :
    ∃ d t, rest = d :: t ∧ (d ∈ kind.text ∨ d = ':') := by
  unfold number at h
  split_ifs at h
  cases h
  exact dropWhile_cons_of_stop (by decide) s kind.text

/-- A type is not a number that ends there. -/
theorem closedNumber_kind (kind : Kind) (s : List Char) :
    closedNumber (kind.text ++ ':' :: s) = none := by
  unfold closedNumber
  cases hnumber : number (kind.text ++ ':' :: s) with
  | none => rfl
  | some x =>
    obtain ⟨d, t, hrest, hd⟩ := number_kind (n := x.1) kind s hnumber
    have hopen : d ≠ '(' := by
      rcases hd with hd | rfl
      · exact (isKindChar_plain (kind.plain d hd)).2.2.1
      · decide
    obtain ⟨n, rest⟩ := x
    subst hrest
    split
    · rename_i heq
      cases heq
    · rename_i heq
      cases heq
      exact absurd rfl hopen
    · rfl

/-! ## Types -/

/-- A text without colons, and without white space, before a colon. -/
theorem afterKind_segment {seg : List Char} (hne : seg ≠ [])
    (hplain : ∀ c ∈ seg, c ≠ ':' ∧ isSpace c = false) (s : List Char) :
    afterKind (seg ++ ':' :: s) = some s := by
  have hstops : Stops (fun c => c ≠ ':' && !isSpace c) (':' :: s) := stops_cons (by decide) s
  obtain ⟨htake, hdrop⟩ := takeWhile_stops hstops (l := seg) fun c hc => by
    obtain ⟨hcolon, hspace⟩ := hplain c hc
    simp [hcolon, hspace]
  unfold afterKind
  rw [hdrop, htake]
  simp only
  rw [if_neg hne]

theorem afterKind_of_notMem {s : List Char} (h : ':' ∉ s) : afterKind s = none := by
  unfold afterKind
  split
  · rename_i rest heq
    refine absurd ?_ h
    exact (List.dropWhile_suffix _).subset (heq ▸ List.mem_cons_self)
  · rfl

theorem afterKind_kind (kind : Kind) (s : List Char) :
    afterKind (kind.text ++ ':' :: s) = some s := by
  refine afterKind_segment kind.ne (fun c hc => ?_) s
  obtain ⟨hcolon, -, -, -, hspace⟩ := isKindChar_plain (kind.plain c hc)
  exact ⟨hcolon, hspace⟩

theorem colon_notMem_kind (kind : Kind) : ':' ∉ kind.text :=
  fun h => (isKindChar_plain (kind.plain _ h)).1 rfl

theorem colon_notMem_digits (n : ℕ) : ':' ∉ digits n := by
  intro h
  exact absurd (mem_digits h) (by decide)

theorem digits_plain {n : ℕ} {c : Char} (h : c ∈ digits n) : c ≠ ':' ∧ isSpace c = false := by
  obtain ⟨hcolon, -, -, -, hspace⟩ := isKindChar_plain (isDigit_kindChar (mem_digits h))
  exact ⟨hcolon, hspace⟩

theorem number_of_kind (kind : Kind) (s : List Char) :
    (number (kind.text ++ ':' :: s)).map Prod.fst = (number kind.text).map Prod.fst := by
  have htake : (kind.text ++ ':' :: s).takeWhile Char.isDigit =
      kind.text.takeWhile Char.isDigit := by
    induction kind.text with
    | nil => rfl
    | cons c l ih =>
      rw [List.cons_append, List.takeWhile_cons, List.takeWhile_cons, ih]
  unfold number
  rw [htake]
  split_ifs
  · rfl
  · rfl

/-! ## Indexes -/

theorem spans_text (x : Spans) :
    x.text = x.head.text ++ x.tail.flatMap fun y => ',' :: y.text := by
  obtain ⟨head, tail⟩ := x
  unfold Spans.text Spans.all
  induction tail generalizing head with
  | nil => simp [List.intercalate]
  | cons y tail ih =>
    have hy := ih y
    simp only [List.map_cons, List.flatMap_cons] at hy ⊢
    rw [List.intercalate_cons_cons, hy]
    simp

/-- What stands in the text of indexes. -/
theorem mem_span_text {x : Span} {c : Char} (h : c ∈ x.text) : c.isDigit = true ∨ c = '-' := by
  unfold Span.text at h
  split_ifs at h
  · exact Or.inl (mem_digits h)
  · rcases List.mem_append.1 h with h | h
    · exact Or.inl (mem_digits h)
    · rcases List.mem_cons.1 h with rfl | h
      · exact Or.inr rfl
      · exact Or.inl (mem_digits h)

theorem mem_spans_text {x : Spans} {c : Char} (h : c ∈ x.text) :
    c.isDigit = true ∨ c = '-' ∨ c = ',' := by
  rw [spans_text] at h
  rcases List.mem_append.1 h with h | h
  · exact (mem_span_text h).imp_right Or.inl
  · obtain ⟨y, _, hy⟩ := List.mem_flatMap.1 h
    rcases List.mem_cons.1 hy with rfl | hy
    · exact Or.inr (Or.inr rfl)
    · exact (mem_span_text hy).imp_right Or.inl

theorem colon_notMem_spans (x : Spans) : ':' ∉ x.text := by
  intro h
  rcases mem_spans_text h with h | h | h <;> exact absurd h (by decide)

/-- The first index is the number that the text of indexes begins with. -/
theorem number_spans (x : Spans) (s : List Char) :
    ∃ rest, number (x.text ++ ')' :: s) = some (x.head.first, rest) ∧
      ∃ c t, rest = c :: t ∧ (c = '-' ∨ c = ',' ∨ c = ')') := by
  have hmore : ∃ c t, x.tail.flatMap (fun y => ',' :: y.text) ++ ')' :: s = c :: t ∧
      (c = ',' ∨ c = ')') := by
    cases x.tail with
    | nil => exact ⟨')', s, rfl, Or.inr rfl⟩
    | cons y tail => exact ⟨',', _, rfl, Or.inl rfl⟩
  obtain ⟨c, t, hct, hc⟩ := hmore
  rw [spans_text, List.append_assoc, hct]
  unfold Span.text
  split_ifs
  · refine ⟨c :: t, number_digits _ (stops_cons ?_ t), c, t, rfl, Or.inr hc⟩
    rcases hc with rfl | rfl <;> decide
  · rw [List.append_assoc]
    exact ⟨_, number_digits _ (stops_cons (by decide) _), '-', _, rfl, Or.inl rfl⟩

/-! ## Entries -/

/-- The entries after one. -/
theorem moreText_cons (e : Entry) (es : List Entry) :
    moreText (e :: es) = [','] ++ (e.text ++ moreText es) := rfl

/-- What follows a count. -/
def restText (e : Entry) (es : List Entry) : List Char := suffixText e.suffix ++ moreText es

/-- What follows `gpu:` in an entry. -/
def bodyText (e : Entry) (es : List Entry) : List Char :=
  kindText e.kind ++ (digits e.count ++ restText e es)

theorem entry_text (x : List Char) (e : Entry) (es : List Entry) :
    x ++ (e.text ++ moreText es) = (x ++ ['g', 'p', 'u']) ++ ':' :: bodyText e es := by
  simp [Entry.text, bodyText, restText]

theorem suffix_cons (suffix : Suffix) : ∃ t, t ≠ [] ∧ suffix.text = '(' :: t := by
  cases suffix with
  | sockets spans => exact ⟨_, List.cons_ne_nil _ _, rfl⟩
  | indexes spans => cases spans <;> exact ⟨_, List.cons_ne_nil _ _, rfl⟩

/-- A count is followed by a bracket, a comma or nothing. -/
theorem restText_cases (e : Entry) (es : List Entry) :
    (e.suffix = none ∧ es = [] ∧ restText e es = []) ∨
      (e.suffix = none ∧ es ≠ [] ∧ ∃ t, restText e es = ',' :: t) ∨
      (e.suffix.isSome = true ∧ ∃ t, restText e es = '(' :: t) := by
  unfold restText suffixText
  cases hsuffix : e.suffix with
  | some suffix =>
    obtain ⟨t, -, ht⟩ := suffix_cons suffix
    refine Or.inr (Or.inr ⟨rfl, t ++ moreText es, ?_⟩)
    simp only [ht, List.cons_append]
  | none =>
    cases es with
    | nil => exact Or.inl ⟨rfl, rfl, rfl⟩
    | cons next es => exact Or.inr (Or.inl ⟨rfl, List.cons_ne_nil _ _, _, rfl⟩)

theorem restText_stops {p : Char → Bool} (hopen : p '(' = false) (hcomma : p ',' = false)
    (e : Entry) (es : List Entry) : Stops p (restText e es) := by
  rcases restText_cases e es with ⟨-, -, h⟩ | ⟨-, -, t, h⟩ | ⟨-, t, h⟩ <;> rw [h]
  · exact stops_nil p
  · exact stops_cons hcomma t
  · exact stops_cons hopen t

theorem number_count (e : Entry) (es : List Entry) :
    number (digits e.count ++ restText e es) = some (e.count, restText e es) :=
  number_digits e.count (restText_stops (by decide) (by decide) e es)

/-- The text before a colon, of a count and what stands between them. -/
theorem segment_plain {n : ℕ} {more : List Char}
    (hmore : ∀ c ∈ more, c ≠ ':' ∧ isSpace c = false) :
    ∀ c ∈ digits n ++ more, c ≠ ':' ∧ isSpace c = false := by
  intro c hc
  rcases List.mem_append.1 hc with hc | hc
  · exact digits_plain hc
  · exact hmore c hc

theorem colon_notMem_segment {n : ℕ} {more : List Char}
    (hmore : ∀ c ∈ more, c ≠ ':' ∧ isSpace c = false) : ':' ∉ digits n ++ more :=
  fun h => (segment_plain hmore _ h).1 rfl

theorem afterKind_count {n : ℕ} {more : List Char}
    (hmore : ∀ c ∈ more, c ≠ ':' ∧ isSpace c = false) (s : List Char) :
    afterKind ((digits n ++ more) ++ ':' :: s) = some s :=
  afterKind_segment (by simp [digits_ne_nil]) (segment_plain hmore) s

/-- A tag does not end a text that ends with another character. -/
theorem not_suffix_of_last (tag x : List Char) {c d : Char} (hcd : c ≠ d) :
    ¬ tag ++ [c] <:+ x ++ [d] := by
  rintro ⟨t, ht⟩
  rw [← List.append_assoc] at ht
  exact hcd (List.cons.inj (List.append_inj' ht rfl).2).1

/-! ## Searching for `gpu:` -/

/-- A search for `gpu:` and what `f` takes after it. -/
def scan (f : List Char → Option ℕ) (s : List Char) : Option ℕ :=
  search (fun s => (tagged ':' ['g', 'p', 'u'] s).bind f) s

theorem scan_entry (f : List Char → Option ℕ) {x : List Char} (hx : ':' ∉ x) (e : Entry)
    (es : List Entry) :
    scan f (x ++ (e.text ++ moreText es)) = (f (bodyText e es)).or (scan f (bodyText e es)) := by
  unfold scan
  rw [entry_text, search_segment (by decide) (by simp [hx]), if_pos (List.suffix_append x _)]

theorem scan_segment (f : List Char → Option ℕ) {x : List Char} {c : Char} (hx : ':' ∉ x ++ [c])
    (hc : c ≠ 'u') (s : List Char) : scan f ((x ++ [c]) ++ ':' :: s) = scan f s := by
  unfold scan
  rw [search_segment (by decide) hx, if_neg]
  exact not_suffix_of_last ['g', 'p'] x (Ne.symm hc)

theorem scan_of_notMem (f : List Char → Option ℕ) {s : List Char} (h : ':' ∉ s) :
    scan f s = none :=
  search_of_notMem h

/-- The text of a suffix before its colon. -/
def markOf : Suffix → List Char
  | .sockets _ => ['(', 'S']
  | .indexes _ => ['(', 'I', 'D', 'X']

/-- The text of a suffix after its colon. -/
def payload : Suffix → List Char
  | .sockets spans => spans.text ++ [')']
  | .indexes (some spans) => spans.text ++ [')']
  | .indexes none => ['N', '/', 'A', ')']

/-- The first number a suffix shows. -/
def firstShown : Suffix → Option ℕ
  | .sockets spans => some spans.head.first
  | .indexes (some spans) => some spans.head.first
  | .indexes none => none

theorem suffix_text (suffix : Suffix) : suffix.text = markOf suffix ++ ':' :: payload suffix := by
  cases suffix with
  | sockets spans => rfl
  | indexes spans => cases spans <;> rfl

theorem mark_plain (suffix : Suffix) : ∀ c ∈ markOf suffix, c ≠ ':' ∧ isSpace c = false := by
  cases suffix with
  | sockets spans => exact forall_mem_of_all (l := ['(', 'S']) (by decide)
  | indexes spans => exact forall_mem_of_all (l := ['(', 'I', 'D', 'X']) (by decide)

theorem mark_last (suffix : Suffix) : ∃ x c, markOf suffix = x ++ [c] ∧ c ≠ 'u' := by
  cases suffix with
  | sockets spans => exact ⟨['('], 'S', rfl, by decide⟩
  | indexes spans => exact ⟨['(', 'I', 'D'], 'X', rfl, by decide⟩

/-- A list of ranges, or the letters that stand for none. -/
theorem payload_cases (suffix : Suffix) :
    (∃ spans : Spans, payload suffix = spans.text ++ [')'] ∧
      firstShown suffix = some spans.head.first) ∨
      (payload suffix = ['N', '/', 'A', ')'] ∧ firstShown suffix = none) := by
  cases suffix with
  | sockets spans => exact Or.inl ⟨spans, rfl, rfl⟩
  | indexes spans =>
    cases spans with
    | some spans => exact Or.inl ⟨spans, rfl, rfl⟩
    | none => exact Or.inr ⟨rfl, rfl⟩

theorem colon_notMem_payload (suffix : Suffix) : ':' ∉ payload suffix := by
  rcases payload_cases suffix with ⟨spans, hpayload, -⟩ | ⟨hpayload, -⟩
  · rw [hpayload, List.mem_append]
    rintro (h | h)
    · exact colon_notMem_spans spans h
    · exact absurd h (by decide)
  · rw [hpayload]
    decide

/-- No number starts with the letters. -/
theorem number_letters (s : List Char) : number (['N', '/', 'A', ')'] ++ s) = none :=
  number_eq_none (by decide) (['/', 'A', ')'] ++ s)

theorem number_payload (suffix : Suffix) (s : List Char) :
    (number (payload suffix ++ s)).map Prod.fst = firstShown suffix := by
  rcases payload_cases suffix with ⟨spans, hpayload, hshown⟩ | ⟨hpayload, hshown⟩
  · obtain ⟨rest, hnumber, -⟩ := number_spans spans s
    rw [hpayload, hshown, List.append_assoc, List.singleton_append, hnumber]
    rfl
  · rw [hpayload, hshown, number_letters]
    rfl

theorem body_typed {e : Entry} {kind : Kind} (h : e.kind = some kind) (es : List Entry) :
    bodyText e es = kind.text ++ ':' :: (digits e.count ++ restText e es) := by
  unfold bodyText kindText
  rw [h]
  simp

theorem body_untyped {e : Entry} (h : e.kind = none) (es : List Entry) :
    bodyText e es = digits e.count ++ restText e es := by
  unfold bodyText kindText
  rw [h]
  rfl

theorem count_suffix {e : Entry} {suffix : Suffix} (h : e.suffix = some suffix)
    (es : List Entry) :
    digits e.count ++ restText e es =
      (digits e.count ++ markOf suffix) ++ ':' :: (payload suffix ++ moreText es) := by
  unfold restText suffixText
  rw [h]
  simp [suffix_text]

theorem count_last {e : Entry} (h : e.suffix = none) :
    digits e.count ++ restText e [] = digits e.count := by
  unfold restText suffixText
  rw [h]
  exact List.append_nil _

theorem count_comma {e : Entry} (h : e.suffix = none) (next : Entry) (es : List Entry) :
    digits e.count ++ restText e (next :: es) =
      (digits e.count ++ [',']) ++ (next.text ++ moreText es) := by
  unfold restText suffixText
  rw [h, moreText_cons]
  simp

theorem count_next {e : Entry} (h : e.suffix = none) (next : Entry) (es : List Entry) :
    digits e.count ++ restText e (next :: es) =
      (digits e.count ++ [',', 'g', 'p', 'u']) ++ ':' :: bodyText next es := by
  rw [count_comma h, entry_text]
  simp

theorem comma_plain : ∀ c ∈ [',', 'g', 'p', 'u'], c ≠ ':' ∧ isSpace c = false :=
  forall_mem_of_all (by decide)

/-- What follows a suffix. -/
theorem scan_payload (f : List Char → Option ℕ) (e : Entry) {suffix : Suffix}
    (h : e.suffix = some suffix) (es : List Entry) :
    scan f (digits e.count ++ restText e es) = scan f (payload suffix ++ moreText es) := by
  obtain ⟨x, c, hmark, hc⟩ := mark_last suffix
  have hcolon := colon_notMem_segment (n := e.count) (mark_plain suffix)
  rw [count_suffix h]
  rw [hmark, ← List.append_assoc] at hcolon ⊢
  exact scan_segment f hcolon hc _

/-! ## The total -/

/-- The number that stands where the total is looked for, of the entries of a node. -/
def shownNumber : List Entry → Option ℕ
  | [] => none
  | e :: es =>
    match e.kind, e.suffix with
    | some _, _ => some e.count
    | none, some suffix => (firstShown suffix).or (shownNumber es)
    | none, none =>
      match es with
      | [] => none
      | next :: _ =>
        match next.kind with
        | none => some next.count
        | some kind => some (((number kind.text).map Prod.fst).getD next.count)

theorem typedNumber_eq {s t : List Char} (h : afterKind s = some t) :
    typedNumber s = (number t).map Prod.fst := by
  cases hnumber : number t <;> simp [typedNumber, h, hnumber]

theorem typedNumber_of_none {s : List Char} (h : afterKind s = none) : typedNumber s = none := by
  unfold typedNumber
  rw [h]
  rfl

theorem shownNumber_typed {e : Entry} {kind : Kind} (h : e.kind = some kind) (es : List Entry) :
    shownNumber (e :: es) = some e.count := by
  rw [shownNumber.eq_def]
  simp only [h]

theorem scan_typedNumber : ∀ (es : List Entry) (e : Entry) {x : List Char}, ':' ∉ x →
    scan typedNumber (x ++ (e.text ++ moreText es)) = shownNumber (e :: es) := by
  intro es
  induction es with
  | nil =>
    intro e x hx
    rw [scan_entry typedNumber hx, shownNumber]
    cases hkind : e.kind with
    | some kind =>
      rw [body_typed hkind, typedNumber_eq (afterKind_kind kind _), number_count]
      rfl
    | none =>
      -- the pattern takes the count and what follows it for a type, up to the next colon
      rw [body_untyped hkind]
      cases hsuffix : e.suffix with
      | some suffix =>
        rw [scan_payload _ e hsuffix, count_suffix hsuffix,
          typedNumber_eq (afterKind_count (mark_plain suffix) _), number_payload]
        have hcolon : ':' ∉ payload suffix ++ moreText [] := by
          rw [moreText, List.flatMap_nil, List.append_nil]
          exact colon_notMem_payload suffix
        rw [scan_of_notMem _ hcolon]
        rfl
      | none =>
        rw [count_last hsuffix, scan_of_notMem _ (colon_notMem_digits _),
          typedNumber_of_none (afterKind_of_notMem (colon_notMem_digits _))]
        rfl
  | cons next es ih =>
    intro e x hx
    rw [scan_entry typedNumber hx, shownNumber]
    cases hkind : e.kind with
    | some kind =>
      rw [body_typed hkind, typedNumber_eq (afterKind_kind kind _), number_count]
      rfl
    | none =>
      rw [body_untyped hkind]
      cases hsuffix : e.suffix with
      | some suffix =>
        have hcolon : ':' ∉ payload suffix ++ [','] := by
          simp [colon_notMem_payload suffix]
        have hafter := ih next hcolon
        rw [List.append_assoc, ← moreText_cons] at hafter
        rw [scan_payload _ e hsuffix, count_suffix hsuffix,
          typedNumber_eq (afterKind_count (mark_plain suffix) _), number_payload, hafter]
      | none =>
        have hcolon : ':' ∉ digits e.count ++ [','] := by
          simp [colon_notMem_digits]
        have hnext := ih next hcolon
        rw [← count_comma hsuffix] at hnext
        -- that is the colon of the next entry: what stands after it is a count or a type
        rw [hnext, count_next hsuffix, typedNumber_eq (afterKind_count comma_plain _)]
        simp only
        cases hnextKind : next.kind with
        | none =>
          rw [body_untyped hnextKind, number_count]
          rfl
        | some kind =>
          rw [body_typed hnextKind, number_of_kind, shownNumber_typed hnextKind]
          simp only
          cases number kind.text <;> rfl

/-! ## The count that is used -/

/-- The count of the first entry with a suffix, or else of the last entry. -/
def firstMarked : Entry → List Entry → ℕ
  | e, [] => e.count
  | e, next :: es => if e.suffix.isSome then e.count else firstMarked next es

theorem closedNumber_count (e : Entry) (es : List Entry) :
    closedNumber (digits e.count ++ restText e es) =
      if e.suffix.isSome = true ∨ es = [] then some e.count else none := by
  rw [closedNumber_digits _ (restText_stops (by decide) (by decide) e es)]
  rcases restText_cases e es with ⟨hsuffix, hes, h⟩ | ⟨hsuffix, hes, t, h⟩ | ⟨hsuffix, t, h⟩
  · rw [h, if_pos (Or.inl rfl), if_pos (Or.inr hes)]
  · rw [h, if_neg (by simp), if_neg (by simp [hsuffix, hes])]
  · rw [h, if_pos (Or.inl hsuffix), if_pos (Or.inr (List.head?_cons))]

theorem closedNumber_payload (suffix : Suffix) (s : List Char) :
    closedNumber (payload suffix ++ s) = none := by
  unfold closedNumber
  rcases payload_cases suffix with ⟨spans, hpayload, -⟩ | ⟨hpayload, -⟩
  · obtain ⟨rest, hnumber, c, t, rfl, hc⟩ := number_spans spans s
    rw [hpayload, List.append_assoc, List.singleton_append, hnumber]
    rcases hc with rfl | rfl | rfl <;> rfl
  · rw [hpayload, number_letters]

/-- After a count and a comma only the count of the next entry can be taken. -/
theorem usedNumber_comma {e : Entry} (h : e.suffix = none) (next : Entry) (es : List Entry) :
    usedNumber (digits e.count ++ restText e (next :: es)) = none ∨
      usedNumber (digits e.count ++ restText e (next :: es)) = some (firstMarked next es) := by
  have hplain : closedNumber (digits e.count ++ restText e (next :: es)) = none := by
    rw [closedNumber_count, if_neg (by simp [h])]
  unfold usedNumber
  rw [hplain, count_next h, afterKind_count comma_plain]
  simp only [Option.bind_some, Option.or_none]
  cases hkind : next.kind with
  | some kind =>
    rw [body_typed hkind, closedNumber_kind]
    exact Or.inl rfl
  | none =>
    rw [body_untyped hkind, closedNumber_count]
    split_ifs with hread
    · refine Or.inr (congrArg some ?_)
      cases es with
      | nil => rfl
      | cons after es =>
        rw [firstMarked, if_pos (hread.resolve_right (by simp))]
    · exact Or.inl rfl

/-- Of an entry with a suffix, or the last one, its count is taken. -/
theorem usedNumber_count {e : Entry} {es : List Entry} (h : e.suffix.isSome = true ∨ es = []) :
    usedNumber (bodyText e es) = some e.count := by
  unfold usedNumber
  cases hkind : e.kind with
  | some kind =>
    rw [body_typed hkind, afterKind_kind, Option.bind_some, closedNumber_count, if_pos h]
    rfl
  | none =>
    rw [body_untyped hkind, closedNumber_count, if_pos h]
    have hnone : (afterKind (digits e.count ++ restText e es)).bind closedNumber = none := by
      cases hsuffix : e.suffix with
      | some suffix =>
        rw [count_suffix hsuffix, afterKind_count (mark_plain suffix), Option.bind_some,
          closedNumber_payload]
      | none =>
        have hes : es = [] := h.resolve_left (by simp [hsuffix])
        rw [hes, count_last hsuffix, afterKind_of_notMem (colon_notMem_digits _)]
        rfl
    rw [hnone]
    rfl

theorem scan_usedNumber : ∀ (es : List Entry) (e : Entry) {x : List Char}, ':' ∉ x →
    scan usedNumber (x ++ (e.text ++ moreText es)) = some (firstMarked e es) := by
  intro es
  induction es with
  | nil =>
    intro e x hx
    rw [scan_entry usedNumber hx, usedNumber_count (Or.inr rfl)]
    rfl
  | cons next es ih =>
    intro e x hx
    rw [scan_entry usedNumber hx]
    -- a count is taken where a bracket or the end follows it; after a comma the search goes on
    cases hsuffix : e.suffix with
    | some suffix =>
      have hmarked : e.suffix.isSome = true := by rw [hsuffix]; rfl
      rw [usedNumber_count (Or.inl hmarked), firstMarked, if_pos hmarked]
      rfl
    | none =>
      have hcolon : ':' ∉ digits e.count ++ [','] := by
        simp [colon_notMem_digits]
      have hnext := ih next hcolon
      rw [← count_comma hsuffix] at hnext
      have hfirst : firstMarked e (next :: es) = firstMarked next es := by
        rw [firstMarked, if_neg (by simp [hsuffix])]
      rw [hfirst]
      cases hkind : e.kind with
      | some kind =>
        have hnone : usedNumber (bodyText e (next :: es)) = none := by
          unfold usedNumber
          rw [body_typed hkind, afterKind_kind, Option.bind_some, closedNumber_count,
            if_neg (by simp [hsuffix]), closedNumber_kind]
          rfl
        rw [hnone, Option.none_or, body_typed hkind]
        -- a type that ends with the tag is tried once more, before the count
        have hsegment := search_segment (f := usedNumber)
          (show ':' ∉ ['g', 'p', 'u'] by decide) (colon_notMem_kind kind)
          (digits e.count ++ restText e (next :: es))
        unfold scan at hnext ⊢
        rw [hsegment, hnext]
        split_ifs
        · rcases usedNumber_comma hsuffix next es with hcomma | hcomma <;> rw [hcomma] <;> rfl
        · rfl
      | none =>
        rw [body_untyped hkind, hnext]
        rcases usedNumber_comma hsuffix next es with hcomma | hcomma <;> rw [hcomma] <;> rfl

end ServerPilot.Gres
