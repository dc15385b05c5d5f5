import ServerPilot.Lib.JsonText
import ServerPilot.Proof.Gres

/-!
# The indexes in Slurm's texts

What `parse_gres_used_indexes` makes of what a node uses: index lists read back
(`parseIdx_spans`), anything more than an index list fails (`parseIdx_foreign`), and what is used is
read right exactly if it can be read off the entries (`used_iff`).
-/

namespace ServerPilot.Gres

open Checked Search Collector

/-! ## Numbers as `int` reads them -/

theorem stripped_eq_of {s : List Char} (h : ∀ c ∈ s, isSpace c = false) : stripped s = s := by
  have hdrop : ∀ l : List Char, (∀ c ∈ l, isSpace c = false) → l.dropWhile isSpace = l := by
    intro l hl
    cases l with
    | nil => rfl
    | cons c l =>
      exact List.dropWhile_cons_of_neg (by rw [hl c List.mem_cons_self]; exact Bool.false_ne_true)
  unfold stripped
  rw [hdrop s h, hdrop _ fun c hc => h c (List.mem_reverse.1 hc), List.reverse_reverse]

theorem mem_stripped {s : List Char} {c : Char} (hc : c ∈ s) (hspace : isSpace c = false) :
    c ∈ stripped s := by
  have hdrop : ∀ l : List Char, c ∈ l → c ∈ l.dropWhile isSpace := by
    intro l hl
    rw [← List.takeWhile_append_dropWhile (p := isSpace) (l := l)] at hl
    rcases List.mem_append.1 hl with hl | hl
    · have hs := List.mem_takeWhile_imp hl
      rw [hspace] at hs
      cases hs
    · exact hl
  exact List.mem_reverse.2 (hdrop _ (List.mem_reverse.2 (hdrop s hc)))

theorem isNumeral_of_digits : ∀ {l : List Char}, l ≠ [] → (∀ c ∈ l, c.isDigit = true) →
    isNumeral l = true
  | [], hne, _ => absurd rfl hne
  | [c], _, h => h c List.mem_cons_self
  | c :: d :: l, _, h => by
    have hd : d ≠ '_' := by
      rintro rfl
      exact absurd (h '_' (List.mem_cons_of_mem c List.mem_cons_self)) (by decide)
    have ih := isNumeral_of_digits (List.cons_ne_nil d l) fun x hx =>
      h x (List.mem_cons_of_mem c hx)
    rw [isNumeral]
    · rw [h c List.mem_cons_self, ih]
      rfl
    · intro h
      cases h
    · intro s heq
      exact hd (List.cons.inj heq).1

theorem mem_numeral : ∀ {l : List Char}, isNumeral l = true →
    ∀ c ∈ l, c.isDigit = true ∨ c = '_' := by
  intro l
  induction l using isNumeral.induct with
  | case1 =>
    intro h
    cases h
  | case2 c =>
    intro h d hd
    rw [List.mem_singleton.1 hd]
    exact Or.inl h
  | case3 c s ih =>
    intro h d hd
    rw [isNumeral, Bool.and_eq_true] at h
    rcases List.mem_cons.1 hd with rfl | hd
    · exact Or.inl h.1
    · rcases List.mem_cons.1 hd with rfl | hd
      · exact Or.inr rfl
      · exact ih h.2 d hd
  | case4 c s hnil hscore ih =>
    intro h d hd
    rw [isNumeral, Bool.and_eq_true] at h
    · rcases List.mem_cons.1 hd with rfl | hd
      · exact Or.inl h.1
      · exact ih h.2 d hd
    · exact hnil
    · exact hscore

theorem natural_digits (n : ℕ) : natural (digits n) = some n := by
  have hfilter : (digits n).filter (· ≠ '_') = digits n := by
    refine List.filter_eq_self.2 fun c hc => decide_eq_true ?_
    rintro rfl
    exact absurd (mem_digits hc) (by decide)
  unfold natural
  rw [if_pos (isNumeral_of_digits (digits_ne_nil n) fun c hc => mem_digits hc), hfilter, digits,
    Nat.ofDigitChars_toDigits (by decide) (by decide)]

theorem int_digits (n : ℕ) : int (digits n) = .ok (n : ℤ) := by
  have hfirst : ∀ c s, digits n = c :: s → c ≠ '-' ∧ c ≠ '+' := by
    intro c s h
    have hc : c.isDigit = true := mem_digits (h ▸ List.mem_cons_self)
    constructor <;>
    · rintro rfl
      exact absurd hc (by decide)
  unfold int
  rw [stripped_eq_of fun c hc => (digits_plain hc).2]
  split
  · rename_i heq
    exact absurd rfl (hfirst _ _ heq).1
  · rename_i heq
    exact absurd rfl (hfirst _ _ heq).2
  · rw [natural_digits]
    rfl

/-- A character that stands in no number. -/
def Foreign (c : Char) : Prop :=
  c.isDigit = false ∧ c ≠ '_' ∧ c ≠ '-' ∧ c ≠ '+' ∧ c ≠ ',' ∧ isSpace c = false

theorem natural_foreign {c : Char} (hf : Foreign c) {s : List Char} (hc : c ∈ s) :
    natural s = none := by
  unfold natural
  refine if_neg fun h => ?_
  rcases mem_numeral h c hc with hdigit | rfl
  · rw [hf.1] at hdigit
    cases hdigit
  · exact hf.2.1 rfl

theorem int_foreign {c : Char} (hf : Foreign c) {s : List Char} (hc : c ∈ s) :
    int s = .error "invalid literal for int() with base 10" := by
  have hin := mem_stripped hc hf.2.2.2.2.2
  unfold int
  split
  · rename_i t heq
    rw [heq] at hin
    rw [natural_foreign hf ((List.mem_cons.1 hin).resolve_left hf.2.2.1)]
    rfl
  · rename_i t heq
    rw [heq] at hin
    rw [natural_foreign hf ((List.mem_cons.1 hin).resolve_left hf.2.2.2.1)]
    rfl
  · rw [natural_foreign hf hin]
    rfl

/-! ## Index lists -/

theorem splitOnce_dash : ∀ {s a b : List Char}, splitOnce ['-'] s = some (a, b) →
    s = a ++ '-' :: b
  | [], _, _, h => by cases h
  | c :: s, a, b, h => by
    unfold splitOnce at h
    split_ifs at h with hpre
    · cases h
      have hc : '-' = c := by
        simpa using List.isPrefixOf_iff_prefix.1 hpre
      rw [← hc]
      rfl
    · obtain ⟨x, hx, heq⟩ := Option.map_eq_some_iff.1 h
      cases heq
      rw [splitOnce_dash hx]
      rfl

theorem splitOnce_none : ∀ {s : List Char}, '-' ∉ s → splitOnce ['-'] s = none
  | [], _ => rfl
  | c :: s, h => by
    unfold splitOnce
    rw [if_neg, splitOnce_none fun hin => h (List.mem_cons_of_mem c hin)]
    · rfl
    · intro hpre
      have hc : '-' = c := by
        simpa using List.isPrefixOf_iff_prefix.1 hpre
      exact h (hc ▸ List.mem_cons_self)

theorem splitOnce_append : ∀ {a : List Char} (b : List Char), '-' ∉ a →
    splitOnce ['-'] (a ++ '-' :: b) = some (a, b)
  | [], _, _ => rfl
  | c :: a, b, h => by
    rw [List.cons_append]
    unfold splitOnce
    rw [if_neg, splitOnce_append b fun hin => h (List.mem_cons_of_mem c hin)]
    · rfl
    · intro hpre
      have hc : '-' = c := by
        simpa using List.isPrefixOf_iff_prefix.1 hpre
      exact h (hc ▸ List.mem_cons_self)

theorem readPart_foreign {c : Char} (hf : Foreign c) {part : List Char} (hc : c ∈ part)
    (used : Finset ℤ) : ∃ e, readPart used part = .error e := by
  have hin := mem_stripped hc hf.2.2.2.2.2
  unfold readPart
  simp only
  rw [if_neg (List.ne_nil_of_mem hin)]
  -- the character is on one side of the first dash, if there is one
  split
  · rename_i a b heq
    have hsplit := splitOnce_dash heq
    rw [hsplit] at hin
    rcases List.mem_append.1 hin with ha | hb
    · rw [int_foreign hf ha]
      exact ⟨_, rfl⟩
    · rw [int_foreign hf ((List.mem_cons.1 hb).resolve_left hf.2.2.1)]
      cases int a with
      | error e => exact ⟨e, rfl⟩
      | ok n => exact ⟨_, rfl⟩
  · rw [int_foreign hf hin]
    exact ⟨_, rfl⟩

theorem foldlM_error {α σ ε : Type} {f : σ → α → Except ε σ} {a : α}
    (hf : ∀ s, ∃ e, f s a = .error e) : ∀ {l : List α}, a ∈ l → ∀ s, ∃ e, l.foldlM f s = .error e
  | b :: l, ha, s => by
    rw [List.foldlM_cons]
    cases hb : f s b with
    | error e => exact ⟨e, rfl⟩
    | ok s' =>
      rcases List.mem_cons.1 ha with rfl | ha
      · obtain ⟨e, he⟩ := hf s
        rw [he] at hb
        cases hb
      · exact foldlM_error hf ha s'

theorem mem_intercalate {c d : Char} (hcd : c ≠ d) : ∀ {ls : List (List Char)},
    c ∈ [d].intercalate ls → ∃ l ∈ ls, c ∈ l
  | [], h => by cases h
  | [l], h => ⟨l, List.mem_cons_self, by simpa [List.intercalate] using h⟩
  | l :: k :: ls, h => by
    rw [List.intercalate_cons_cons] at h
    rcases List.mem_append.1 h with h | h
    · rcases List.mem_append.1 h with h | h
      · exact ⟨l, List.mem_cons_self, h⟩
      · exact absurd (List.mem_singleton.1 h) hcd
    · obtain ⟨m, hm, hc⟩ := mem_intercalate hcd h
      exact ⟨m, List.mem_cons_of_mem l hm, hc⟩

theorem parseIdx_foreign {c : Char} (hf : Foreign c) {spec : List Char} (hc : c ∈ spec) :
    ∃ e, parseIdx spec = .error e := by
  have hin := mem_stripped hc hf.2.2.2.2.2
  unfold parseIdx
  simp only
  rw [if_neg (List.ne_nil_of_mem hin)]
  have hsplit : [','].intercalate ((stripped spec).splitOn ',') = stripped spec :=
    List.intercalate_splitOn ','
  rw [← hsplit] at hin
  obtain ⟨part, hpart, hc⟩ := mem_intercalate hf.2.2.2.2.1 hin
  exact foldlM_error (readPart_foreign hf hc) hpart ∅

theorem range_succ (n : ℤ) : range n (n + 1) = {n} := by
  unfold range
  rw [show (n + 1 - n).toNat = 1 by omega, Finset.range_one, Finset.image_singleton]
  simp

theorem span_text_plain (x : Span) : ∀ c ∈ x.text, isSpace c = false ∧ c ≠ ',' := by
  intro c hc
  rcases mem_span_text hc with hdigit | rfl
  · obtain ⟨-, hcomma, -, -, hspace⟩ := isKindChar_plain (isDigit_kindChar hdigit)
    exact ⟨hspace, hcomma⟩
  · decide

theorem span_text_ne (x : Span) : x.text ≠ [] := by
  unfold Span.text
  split_ifs
  · exact digits_ne_nil _
  · simp

theorem dash_notMem_digits (n : ℕ) : '-' ∉ digits n := by
  intro h
  exact absurd (mem_digits h) (by decide)

theorem readPart_span (used : Finset ℤ) (x : Span) :
    readPart used x.text = .ok (used ∪ range x.first (x.last + 1)) := by
  unfold readPart
  simp only
  rw [stripped_eq_of fun c hc => (span_text_plain x c hc).1, if_neg (span_text_ne x)]
  unfold Span.text
  split_ifs with hsingle
  · rw [splitOnce_none (dash_notMem_digits _), ← hsingle, range_succ]
    simp only
    rw [int_digits, Finset.union_comm]
    rfl
  · rw [splitOnce_append _ (dash_notMem_digits _)]
    simp only
    rw [int_digits, int_digits]
    rfl

theorem foldlM_spans : ∀ (l : List Span) (used : Finset ℤ),
    (l.map Span.text).foldlM readPart used =
      .ok (l.foldl (fun s span => s ∪ range span.first (span.last + 1)) used)
  | [], _ => rfl
  | x :: l, used => by
    rw [List.map_cons, List.foldlM_cons, readPart_span]
    exact foldlM_spans l _

theorem spans_text_plain (x : Spans) : ∀ c ∈ x.text, isSpace c = false := by
  intro c hc
  rcases mem_spans_text hc with hdigit | rfl | rfl
  · exact (isKindChar_plain (isDigit_kindChar hdigit)).2.2.2.2
  · decide
  · decide

theorem digits_cons (n : ℕ) : ∃ c s, digits n = c :: s ∧ c.isDigit = true :=
  JsonText.toDigits_cons n

theorem spans_text_cons (x : Spans) : ∃ c s, x.text = c :: s ∧ c.isDigit = true := by
  have hspan : ∃ c s, x.head.text = c :: s ∧ c.isDigit = true := by
    obtain ⟨c, s, hdigits, hc⟩ := digits_cons x.head.first
    unfold Span.text
    rw [hdigits]
    split_ifs
    · exact ⟨c, s, rfl, hc⟩
    · exact ⟨c, _, rfl, hc⟩
  obtain ⟨c, s, hspan, hc⟩ := hspan
  rw [spans_text, hspan]
  exact ⟨c, _, rfl, hc⟩

/-- The indexes that are printed are read. -/
theorem parseIdx_spans (x : Spans) : parseIdx x.text = .ok x.indexes := by
  obtain ⟨c, s, hcons, -⟩ := spans_text_cons x
  unfold parseIdx
  simp only
  rw [stripped_eq_of (spans_text_plain x), if_neg (by rw [hcons]; exact List.cons_ne_nil c s)]
  have hparts : x.text.splitOn ',' = x.all.map Span.text := by
    refine List.splitOn_intercalate ',' (fun l hl hin => ?_) (by simp [Spans.all])
    obtain ⟨y, _, rfl⟩ := List.mem_map.1 hl
    exact (span_text_plain y ',' hin).2 rfl
  rw [hparts]
  exact foldlM_spans x.all ∅

/-! ## Where indexes are shown -/

/-- A type that ends with the word that indexes begin with. -/
def endsIdx : Option Kind → Bool
  | some kind => ['I', 'D', 'X'].isSuffixOf kind.text
  | none => false

/-- The entry is taken to show its indexes. -/
def isMarked (e : Entry) : Bool :=
  endsIdx e.kind ||
    match e.suffix with
    | some (.indexes _) => true
    | _ => false

/-- What is taken for the indexes of an entry that is taken to show them. -/
def innerText (e : Entry) (es : List Entry) : List Char :=
  if endsIdx e.kind = true then digits e.count ++ restText e es
  else
    match e.suffix with
    | some suffix => payload suffix ++ moreText es
    | none => moreText es

/-- What is taken for indexes, of the first entry that is taken to show them. -/
def marked : List Entry → Option (List Char)
  | [] => none
  | e :: es => if isMarked e = true then some (innerText e es) else marked es

/-- A search for `IDX:`. -/
def scanIdx (s : List Char) : Option (List Char) :=
  search (fun s => (tagged ':' ['I', 'D', 'X'] s).bind some) s

theorem scanIdx_eq (s : List Char) : search (tagged ':' ['I', 'D', 'X']) s = scanIdx s := by
  unfold scanIdx
  refine congrArg (fun f => search f s) (funext fun t => ?_)
  cases tagged ':' ['I', 'D', 'X'] t <;> rfl

theorem scanIdx_segment {seg : List Char} (hseg : ':' ∉ seg) (s : List Char) :
    scanIdx (seg ++ ':' :: s) = if ['I', 'D', 'X'] <:+ seg then some s else scanIdx s := by
  unfold scanIdx
  rw [search_segment (by decide) hseg]
  rfl

theorem scanIdx_other {x : List Char} {c : Char} (hx : ':' ∉ x ++ [c]) (hc : c ≠ 'X')
    (s : List Char) : scanIdx ((x ++ [c]) ++ ':' :: s) = scanIdx s := by
  rw [scanIdx_segment hx, if_neg]
  exact not_suffix_of_last ['I', 'D'] x (Ne.symm hc)

theorem scanIdx_of_notMem {s : List Char} (h : ':' ∉ s) : scanIdx s = none := search_of_notMem h

theorem scanIdx_entry {x : List Char} (hx : ':' ∉ x) (e : Entry) (es : List Entry) :
    scanIdx (x ++ (e.text ++ moreText es)) =
      if endsIdx e.kind = true then some (digits e.count ++ restText e es)
      else scanIdx (digits e.count ++ restText e es) := by
  have hgpu : x ++ ['g', 'p', 'u'] = (x ++ ['g', 'p']) ++ ['u'] := by simp
  rw [entry_text, hgpu, scanIdx_other (by simp [hx]) (by decide)]
  cases hkind : e.kind with
  | some kind =>
    rw [body_typed hkind, scanIdx_segment (colon_notMem_kind kind)]
    unfold endsIdx
    simp only [List.isSuffixOf_iff_suffix]
  | none =>
    rw [body_untyped hkind]
    rfl

/-- The indexes that follow a count, or those of an entry after it. -/
theorem scanIdx_count (e : Entry) {suffix : Suffix} (h : e.suffix = some suffix)
    (es : List Entry) :
    scanIdx (digits e.count ++ restText e es) =
      match suffix with
      | .indexes _ => some (payload suffix ++ moreText es)
      | .sockets _ => scanIdx (payload suffix ++ moreText es) := by
  have hcolon := colon_notMem_segment (n := e.count) (mark_plain suffix)
  rw [count_suffix h]
  cases suffix with
  | indexes spans =>
    have hends : ['I', 'D', 'X'] <:+ digits e.count ++ markOf (.indexes spans) :=
      ⟨digits e.count ++ ['('], by simp [markOf]⟩
    rw [scanIdx_segment hcolon, if_pos hends]
  | sockets spans =>
    have hmark : digits e.count ++ markOf (.sockets spans) =
        (digits e.count ++ ['(']) ++ ['S'] := by
      simp [markOf]
    rw [hmark] at hcolon ⊢
    exact scanIdx_other hcolon (by decide) _

/-- One entry, by what is found in the entries after it. -/
theorem scanIdx_first {es : List Entry}
    (hmore : ∀ y : List Char, ':' ∉ y → scanIdx (y ++ moreText es) = marked es) (e : Entry)
    {x : List Char} (hx : ':' ∉ x) : scanIdx (x ++ (e.text ++ moreText es)) = marked (e :: es) := by
  rw [scanIdx_entry hx, marked, isMarked, innerText]
  by_cases hends : endsIdx e.kind = true
  · rw [if_pos hends, hends]
    rfl
  · rw [if_neg hends, if_neg hends, Bool.eq_false_iff.2 hends]
    cases hsuffix : e.suffix with
    | some suffix =>
      rw [scanIdx_count e hsuffix]
      cases suffix with
      | indexes spans => rfl
      | sockets spans => exact hmore _ (colon_notMem_payload _)
    | none =>
      have hcount : restText e es = moreText es := by
        rw [restText, hsuffix]
        rfl
      rw [hcount]
      exact hmore _ (colon_notMem_digits _)

theorem scanIdx_more (es : List Entry) :
    ∀ y : List Char, ':' ∉ y → scanIdx (y ++ moreText es) = marked es := by
  induction es with
  | nil =>
    intro y hy
    rw [moreText, List.flatMap_nil, List.append_nil]
    exact scanIdx_of_notMem hy
  | cons e es ih =>
    intro y hy
    rw [moreText_cons, ← List.append_assoc]
    exact scanIdx_first ih e (by simpa using hy)

theorem scanIdx_entries (es : List Entry) (e : Entry) {x : List Char} (hx : ':' ∉ x) :
    scanIdx (x ++ (e.text ++ moreText es)) = marked (e :: es) :=
  scanIdx_first (scanIdx_more es) e hx

/-! ## What is used -/

theorem payload_plain (suffix : Suffix) : ∀ c ∈ payload suffix, isSpace c = false := by
  have hspans : ∀ spans : Spans, ∀ c ∈ spans.text ++ [')'], isSpace c = false := by
    intro spans c hc
    rcases List.mem_append.1 hc with hc | hc
    · exact spans_text_plain spans c hc
    · rw [List.mem_singleton.1 hc]
      decide
  cases suffix with
  | sockets spans => exact hspans spans
  | indexes spans =>
    cases spans with
    | some spans => exact hspans spans
    | none => exact forall_mem_of_all (l := ['N', '/', 'A', ')']) (by decide)

/-- No entry holds white space. -/
theorem entry_text_plain (e : Entry) : ∀ c ∈ e.text, isSpace c = false := by
  intro c hc
  have htag : ∀ c ∈ ['g', 'p', 'u', ':'], isSpace c = false := forall_mem_of_all (by decide)
  rcases List.mem_append.1 hc with hc | hc
  · exact htag c hc
  rcases List.mem_append.1 hc with hc | hc
  · cases hkind : e.kind with
    | some kind =>
      rw [hkind] at hc
      rcases List.mem_append.1 hc with hc | hc
      · exact (isKindChar_plain (kind.plain c hc)).2.2.2.2
      · rw [List.mem_singleton.1 hc]
        decide
    | none =>
      rw [hkind] at hc
      cases hc
  rcases List.mem_append.1 hc with hc | hc
  · exact (digits_plain hc).2
  · cases hsuffix : e.suffix with
    | some suffix =>
      rw [hsuffix, suffixText, suffix_text] at hc
      rcases List.mem_append.1 hc with hc | hc
      · exact (mark_plain suffix c hc).2
      · rcases List.mem_cons.1 hc with rfl | hc
        · decide
        · exact payload_plain suffix c hc
    | none =>
      rw [hsuffix] at hc
      cases hc

theorem entries_text_plain (g : Entries) : ∀ c ∈ g.text, isSpace c = false := by
  intro c hc
  rcases List.mem_append.1 hc with hc | hc
  · exact entry_text_plain g.head c hc
  · obtain ⟨e, _, hc⟩ := List.mem_flatMap.1 hc
    rcases List.mem_cons.1 hc with rfl | hc
    · decide
    · exact entry_text_plain e c hc

theorem entries_text_cons (g : Entries) : ∃ s, g.text = 'g' :: s := ⟨_, rfl⟩

theorem parseGresUsedCount_text (g : Entries) (total : ℕ) :
    parseGresUsedCount g.text total =
      .ok (range 0 (min (firstMarked g.head g.tail) total : ℕ)) := by
  have hscan := scan_usedNumber g.tail g.head (x := []) (by decide)
  rw [List.nil_append] at hscan
  unfold scan at hscan
  unfold parseGresUsedCount Entries.text
  rw [hscan]
  simp only [need, bind, Except.bind, pure, Except.pure]
  split_ifs with hzero hall
  · rw [Nat.le_zero.1 hzero, Nat.zero_min]
    rfl
  · rw [Nat.min_eq_right hall]
  · rw [Nat.min_eq_left (by omega)]

theorem card_range (n : ℕ) : (range 0 n).card = n := by
  unfold range
  rw [Finset.card_image_of_injective]
  · simp
  · intro a b hab
    simpa using hab

theorem marked_eq : ∀ l : List Entry, marked l =
    match l.dropWhile fun e => !isMarked e with
    | [] => none
    | e :: es => some (innerText e es)
  | [] => rfl
  | e :: es => by
    by_cases h : isMarked e = true
    · rw [marked, if_pos h, List.dropWhile_cons_of_neg (by simp [h])]
    · rw [marked, if_neg h, List.dropWhile_cons_of_pos (by simp [h])]
      exact marked_eq es

theorem entries_not_empty (g : Entries) :
    ¬ (g.text = [] ∨ g.text = "(null)".toList ∨ g.text = "N/A".toList ∨ g.text = "n/a".toList) := by
  obtain ⟨s, hs⟩ := entries_text_cons g
  rw [hs]
  rintro (h | h | h | h)
  · cases h
  · exact absurd (List.cons.inj h).1 (by decide)
  · exact absurd (List.cons.inj h).1 (by decide)
  · exact absurd (List.cons.inj h).1 (by decide)

theorem used_unmarked {g : Entries} (h : marked g.all = none) (total : ℕ) :
    parseGresUsedIndexes g.text total =
      .ok (range 0 (min (firstMarked g.head g.tail) total : ℕ)) := by
  have hscan := scanIdx_entries g.tail g.head (x := []) (by decide)
  rw [List.nil_append] at hscan
  unfold parseGresUsedIndexes
  simp only
  rw [stripped_eq_of (entries_text_plain g), if_neg (entries_not_empty g), scanIdx_eq]
  unfold Entries.all at h
  rw [show scanIdx g.text = none from hscan.trans h]
  exact parseGresUsedCount_text g total

theorem used_marked {g : Entries} {inner : List Char} (h : marked g.all = some inner)
    (total : ℕ) :
    parseGresUsedIndexes g.text total =
      if (withoutBracket inner).map Char.toUpper ≠ ['N', '/', 'A'] then
        (parseIdx (withoutBracket inner)).map fun used =>
          used.filter fun index => 0 ≤ index ∧ index < total
      else .ok (range 0 (min (firstMarked g.head g.tail) total : ℕ)) := by
  have hscan := scanIdx_entries g.tail g.head (x := []) (by decide)
  rw [List.nil_append] at hscan
  unfold parseGresUsedIndexes
  simp only
  rw [stripped_eq_of (entries_text_plain g), if_neg (entries_not_empty g), scanIdx_eq]
  unfold Entries.all at h
  rw [show scanIdx g.text = some inner from hscan.trans h, parseGresUsedCount_text]
  simp only
  split_ifs
  · cases parseIdx (withoutBracket inner) <;> rfl
  · rfl

theorem map_toUpper_ne {s : List Char} {c : Char} (hc : c ∈ s)
    (hupper : c.toUpper ∉ ['N', '/', 'A']) : s.map Char.toUpper ≠ ['N', '/', 'A'] := by
  intro h
  exact hupper (h ▸ List.mem_map_of_mem hc)

theorem isDigit_toUpper {c : Char} (h : c.isDigit = true) : c.toUpper ∉ ['N', '/', 'A'] := by
  have hrange := isDigit_range h
  have hsame : c.toUpper = c := by
    unfold Char.toUpper
    rw [dif_neg]
    rintro ⟨hlow, -⟩
    have hlow' : 97 ≤ c.toNat := hlow
    omega
  rw [hsame]
  intro hin
  simp only [List.mem_cons, List.not_mem_nil, or_false] at hin
  rcases hin with rfl | rfl | rfl <;> exact absurd h (by decide)

/-- A character that is not the last stays. -/
theorem mem_withoutBracket {c : Char} {x y : List Char} (hy : y ≠ []) :
    c ∈ withoutBracket (x ++ c :: y) := by
  unfold withoutBracket
  split_ifs
  · rw [List.dropLast_append_of_ne_nil (List.cons_ne_nil c y), List.dropLast_cons_of_ne_nil hy]
    exact List.mem_append_right _ List.mem_cons_self
  · exact List.mem_append_right _ List.mem_cons_self

/-- Where more than an index list follows, reading it fails. -/
theorem used_foreign {g : Entries} {c : Char} {x y : List Char} (hf : Foreign c)
    (hupper : c.toUpper ∉ ['N', '/', 'A']) (hy : y ≠ []) (h : marked g.all = some (x ++ c :: y))
    (total : ℕ) : ∃ e, parseGresUsedIndexes g.text total = .error e := by
  have hin := mem_withoutBracket (c := c) (x := x) hy
  obtain ⟨e, he⟩ := parseIdx_foreign hf hin
  rw [used_marked h, if_pos (map_toUpper_ne hin hupper), he]
  exact ⟨e, rfl⟩

theorem foreign_bracket : Foreign '(' := by
  refine ⟨?_, ?_, ?_, ?_, ?_, ?_⟩ <;> decide

theorem foreign_letter : Foreign 'g' := by
  refine ⟨?_, ?_, ?_, ?_, ?_, ?_⟩ <;> decide

/-- Indexes that another entry follows cannot be read. -/
theorem used_followed {g : Entries} {next : Entry} {x : List Char} {es : List Entry}
    (h : marked g.all = some (x ++ moreText (next :: es))) (total : ℕ) :
    ∃ error, parseGresUsedIndexes g.text total = .error error := by
  have hsplit : x ++ moreText (next :: es) =
      (x ++ [',']) ++ 'g' :: (['p', 'u', ':'] ++ (kindText next.kind ++
        (digits next.count ++ suffixText next.suffix)) ++ moreText es) := by
    rw [moreText_cons]
    simp [Entry.text]
  rw [hsplit] at h
  exact used_foreign foreign_letter (by decide) (by simp) h total

theorem mem_indexes {x : Spans} {i : ℤ} (h : i ∈ x.indexes) : 0 ≤ i := by
  have hfold : ∀ (l : List Span) (s : Finset ℤ), (∀ i ∈ s, 0 ≤ i) →
      ∀ i ∈ l.foldl (fun s span => s ∪ range span.first (span.last + 1)) s, 0 ≤ i := by
    intro l
    induction l with
    | nil => exact fun s hs => hs
    | cons y l ih =>
      intro s hs
      refine ih _ fun i hi => ?_
      rcases Finset.mem_union.1 hi with hi | hi
      · exact hs i hi
      · obtain ⟨k, -, rfl⟩ := Finset.mem_image.1 hi
        exact Int.add_nonneg (Int.natCast_nonneg _) (Int.natCast_nonneg _)
  exact hfold x.all ∅ (fun i hi => absurd hi (Finset.notMem_empty i)) i h

/-- Slurm withholds the indexes. -/
def withheld : Option Suffix → Bool
  | some (.indexes none) => true
  | _ => false

/-- Where what is used can be read off its entries: no entry but the last is taken to show its
indexes, and the entry that is read has all the GPUs that are used. It is the last, if that shows
its indexes, and otherwise the first with a suffix, or else the last. Of a type that ends with
`IDX` the count is taken for an index. -/
def UsedShown (all : ℕ) (used : Entries) : Prop :=
  match used.all.dropWhile fun e => !isMarked e with
  | [] => firstMarked used.head used.tail = gpuCount used.all
  | [e] =>
    if endsIdx e.kind = true then
      e.suffix.isNone = true ∧ (if e.count < all then 1 else 0) = gpuCount used.all
    else if withheld e.suffix = true then
      firstMarked used.head used.tail = gpuCount used.all
    else e.count = gpuCount used.all
  | _ :: _ :: _ => False

theorem firstMarked_le : ∀ (e : Entry) (es : List Entry), firstMarked e es ≤ gpuCount (e :: es)
  | e, [] => Nat.le_refl _
  | e, next :: es => by
    have hnext := firstMarked_le next es
    rw [firstMarked]
    unfold gpuCount at hnext ⊢
    rw [List.map_cons, List.sum_cons]
    split_ifs
    · exact Nat.le_add_right _ _
    · exact hnext.trans (Nat.le_add_left _ _)

/-- Of the count alone: it is read as far as the node has GPUs. -/
theorem range_iff (r : Row) {result : Except String (Finset ℤ)}
    (h : result = .ok (range 0 (min (firstMarked r.used.head r.used.tail)
      (gpuCount r.declared.all) : ℕ))) :
    (∃ s, result = .ok s ∧ s.card = gpuCount r.used.all) ↔
      firstMarked r.used.head r.used.tail = gpuCount r.used.all := by
  have hle : firstMarked r.used.head r.used.tail ≤ gpuCount r.declared.all :=
    (firstMarked_le _ _).trans r.used_le
  rw [Nat.min_eq_left hle] at h
  rw [h]
  constructor
  · rintro ⟨s, hs, hcard⟩
    cases hs
    rw [← hcard, card_range]
  · intro hcount
    exact ⟨_, rfl, (card_range _).trans hcount⟩

/-- A count that is taken for an index. -/
theorem used_index {g : Entries} {n : ℕ} (h : marked g.all = some (digits n)) (total : ℕ) :
    ∃ s, parseGresUsedIndexes g.text total = .ok s ∧ s.card = if n < total then 1 else 0 := by
  obtain ⟨c, t, hcons, hc⟩ := digits_cons n
  have hlast : withoutBracket (digits n) = digits n := by
    unfold withoutBracket
    refine if_neg fun hlast => ?_
    exact absurd (mem_digits (List.mem_of_getLast? hlast)) (by decide)
  have hupper : (digits n).map Char.toUpper ≠ ['N', '/', 'A'] :=
    map_toUpper_ne (hcons ▸ List.mem_cons_self) (isDigit_toUpper hc)
  have hparse : parseIdx (digits n) = .ok {(n : ℤ)} := by
    have hspan : (⟨⟨n, n, le_rfl⟩, []⟩ : Spans).text = digits n := by
      simp [Spans.text, Spans.all, Span.text, List.intercalate]
    rw [← hspan, parseIdx_spans]
    simp [Spans.indexes, Spans.all, range_succ]
  rw [used_marked h, hlast, if_pos hupper, hparse]
  refine ⟨_, rfl, ?_⟩
  simp only
  rw [Finset.filter_singleton]
  by_cases hn : n < total
  · rw [if_pos ⟨Int.natCast_nonneg n, Int.ofNat_lt.2 hn⟩, if_pos hn]
    rfl
  · rw [if_neg fun h => hn (Int.ofNat_lt.1 h.2), if_neg hn]
    rfl

/-- Indexes at the end are read. -/
theorem used_spans {g : Entries} {spans : Spans} (h : marked g.all = some (spans.text ++ [')']))
    {total : ℕ} (hlt : ∀ i ∈ spans.indexes, i < total) :
    parseGresUsedIndexes g.text total = .ok spans.indexes := by
  obtain ⟨c, t, hcons, hc⟩ := spans_text_cons spans
  have hlast : withoutBracket (spans.text ++ [')']) = spans.text := by
    unfold withoutBracket
    rw [if_pos List.getLast?_concat, List.dropLast_concat]
  have hupper : spans.text.map Char.toUpper ≠ ['N', '/', 'A'] :=
    map_toUpper_ne (hcons ▸ List.mem_cons_self) (isDigit_toUpper hc)
  rw [used_marked h, hlast, if_pos hupper, parseIdx_spans]
  refine congrArg Except.ok (Finset.filter_true_of_mem fun i hi => ?_)
  exact ⟨mem_indexes hi, hlt i hi⟩

theorem not_ok_of_error {ε α : Type} {x : Except ε α} {p : α → Prop} (h : ∃ e, x = .error e) :
    ¬ ∃ s, x = .ok s ∧ p s := by
  obtain ⟨e, rfl⟩ := h
  rintro ⟨s, hs, -⟩
  cases hs

/-- The entry that is taken to show its indexes is the last, and its type makes it so. -/
theorem ends_iff (r : Row) {e : Entry} (hends : endsIdx e.kind = true)
    (hmarked : marked r.used.all = some (innerText e [])) :
    (∃ s, parseGresUsedIndexes r.used.text (gpuCount r.declared.all) = .ok s ∧
      s.card = gpuCount r.used.all) ↔ e.suffix.isNone = true ∧
        (if e.count < gpuCount r.declared.all then 1 else 0) = gpuCount r.used.all := by
  rw [innerText, if_pos hends] at hmarked
  cases hsuffix : e.suffix with
  | none =>
    rw [count_last hsuffix] at hmarked
    obtain ⟨s, hs, hcard⟩ := used_index hmarked (gpuCount r.declared.all)
    rw [hs, ← hcard]
    simp
  | some suffix =>
    obtain ⟨t, ht, htext⟩ := suffix_cons suffix
    have hrest : restText e [] = '(' :: t := by
      unfold restText suffixText
      rw [hsuffix, ← htext]
      exact List.append_nil _
    -- the count is followed by the bracket of the suffix, which no number has
    rw [hrest] at hmarked
    refine iff_of_false (not_ok_of_error ?_) (by simp)
    exact used_foreign foreign_bracket (by decide) ht hmarked _

/-- The entry that is taken to show its indexes is the last, and does show them or withhold
them. -/
theorem shows_iff (r : Row) {e : Entry} (hends : ¬ endsIdx e.kind = true)
    (hismarked : isMarked e = true) (hmem : e ∈ r.used.all)
    (hmarked : marked r.used.all = some (innerText e [])) :
    (∃ s, parseGresUsedIndexes r.used.text (gpuCount r.declared.all) = .ok s ∧
      s.card = gpuCount r.used.all) ↔
        if withheld e.suffix = true then
          firstMarked r.used.head r.used.tail = gpuCount r.used.all
        else e.count = gpuCount r.used.all := by
  rw [innerText, if_neg hends] at hmarked
  rw [isMarked, Bool.eq_false_iff.2 hends, Bool.false_or] at hismarked
  cases hsuffix : e.suffix with
  | none =>
    rw [hsuffix] at hismarked
    cases hismarked
  | some suffix =>
    rw [hsuffix] at hismarked hmarked
    cases suffix with
    | sockets spans => cases hismarked
    | indexes spans =>
      cases spans with
      | none =>
        refine range_iff r ((used_marked hmarked _).trans (if_neg ?_))
        exact not_not.2 (by decide)
      | some spans =>
        have hinner : payload (.indexes (some spans)) ++ moreText [] = spans.text ++ [')'] :=
          List.append_nil _
        simp only [hinner] at hmarked
        rw [used_spans hmarked (r.indexes_lt e hmem spans hsuffix)]
        constructor
        · rintro ⟨s, hs, hcard⟩
          cases hs
          exact (e.shown spans hsuffix).symm.trans hcard
        · intro hcount
          exact ⟨_, rfl, (e.shown spans hsuffix).trans hcount⟩

/-- An entry that is taken to show its indexes, and is not the last. -/
theorem followed_error {g : Entries} {e next : Entry} {es : List Entry}
    (hismarked : isMarked e = true) (hmarked : marked g.all = some (innerText e (next :: es)))
    (total : ℕ) : ∃ error, parseGresUsedIndexes g.text total = .error error := by
  by_cases hends : endsIdx e.kind = true
  · rw [innerText, if_pos hends, restText, ← List.append_assoc] at hmarked
    exact used_followed hmarked total
  · rw [innerText, if_neg hends] at hmarked
    rw [isMarked, Bool.eq_false_iff.2 hends, Bool.false_or] at hismarked
    cases hsuffix : e.suffix with
    | none =>
      rw [hsuffix] at hismarked
      cases hismarked
    | some suffix =>
      rw [hsuffix] at hmarked
      exact used_followed hmarked total

/-- What is used is read right exactly if it can be read off the entries. -/
theorem used_iff (r : Row) :
    (∃ s, parseGresUsedIndexes r.used.text (gpuCount r.declared.all) = .ok s ∧
      s.card = gpuCount r.used.all) ↔ UsedShown (gpuCount r.declared.all) r.used := by
  have hmarked := marked_eq r.used.all
  unfold UsedShown
  cases hdrop : r.used.all.dropWhile fun e => !isMarked e with
  | nil =>
    rw [hdrop] at hmarked
    exact range_iff r (used_unmarked hmarked _)
  | cons e es =>
    have hfirst := List.head?_dropWhile_not (fun e => !isMarked e) r.used.all
    rw [hdrop] at hmarked hfirst
    have hismarked : isMarked e = true := by simpa using hfirst
    have hmem : e ∈ r.used.all :=
      (List.dropWhile_suffix _).subset (hdrop ▸ List.mem_cons_self)
    cases es with
    | nil =>
      by_cases hends : endsIdx e.kind = true
      · simp only [if_pos hends]
        exact ends_iff r hends hmarked
      · simp only [if_neg hends]
        exact shows_iff r hends hismarked hmem hmarked
    | cons next es => exact iff_of_false (not_ok_of_error (followed_error hismarked hmarked _)) id

end ServerPilot.Gres
