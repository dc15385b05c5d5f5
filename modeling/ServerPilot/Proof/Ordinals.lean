import Mathlib.Data.List.TakeWhile
import Mathlib.Order.Interval.Set.Defs
import ServerPilot.Proof.Probe
import ServerPilot.Spec.Ordinals

/-!
# Both sides number the cards alike

The printed lines read back field for field (`csvRows_print`, `splitComma_print`), so that each
side comes to the cards of the host with their bus addresses, in the order of its query, all
different (`parseGpuCsv_listing`, `resolveGpuOrdinals_listing`). Both then sort by the same key,
and the place in the sort is the rank of the address, which no order of the rows changes
(`Listing.number_eq`). `ordinals_agree` puts this together.
-/

namespace ServerPilot.Ordinals

open Checked Collector Ranking
open Helper (GpuUuid HelperError validateGpuUuid matchesGpuUuid)

/-! ## Bus addresses in order -/

theorem tupleLe_order : Order tupleLe where
  total := by
    intro a
    induction a with
    | nil => exact fun b => Or.inl rfl
    | cons x a ih =>
      intro b
      cases b with
      | nil => exact Or.inr rfl
      | cons y b =>
        unfold tupleLe
        rcases Nat.lt_trichotomy x y with hlt | rfl | hgt
        · left
          rw [if_neg (Nat.ne_of_lt hlt)]
          exact decide_eq_true hlt
        · rw [if_pos rfl, if_pos rfl]
          exact ih b
        · right
          rw [if_neg (Nat.ne_of_lt hgt)]
          exact decide_eq_true hgt
  trans := by
    intro a
    induction a with
    | nil => exact fun _ _ _ _ => rfl
    | cons x a ih =>
      intro b c hab hbc
      cases b with
      | nil => cases hab
      | cons y b =>
        cases c with
        | nil => cases hbc
        | cons z c =>
          unfold tupleLe at hab hbc ⊢
          split_ifs at hab hbc ⊢ with hxy hyz hxz
          · exact ih b c hab hbc
          all_goals first
            | (simp only [decide_eq_true_eq] at *; omega)
  antisymm := by
    intro a
    induction a with
    | nil =>
      intro b _ hba
      cases b with
      | nil => rfl
      | cons y b => cases hba
    | cons x a ih =>
      intro b hab hba
      cases b with
      | nil => cases hab
      | cons y b =>
        unfold tupleLe at hab hba
        split_ifs at hab hba with hxy hyx
        · rw [hxy, ih b hab hba]
        · exact absurd hxy.symm hyx
        · exact absurd ‹y = x›.symm hxy
        · simp only [decide_eq_true_eq] at hab hba
          omega

/-! ## Lines -/

theorem splitlinesFrom_line (l : List Char) : ∀ (acc rest : List Char),
    (∀ c ∈ l, isLineBreak c = false) → splitlinesFrom acc (l ++ '\n' :: rest) =
      String.ofList (acc.reverse ++ l) :: splitlinesFrom [] rest := by
  induction l with
  | nil =>
    intro acc rest _
    rw [List.append_nil]
    rfl
  | cons c l ih =>
    intro acc rest h
    have hc : isLineBreak c = false := h c List.mem_cons_self
    have hreturn : c ≠ '\r' := by
      rintro rfl
      exact absurd hc (by decide)
    rw [List.cons_append, splitlinesFrom, if_neg (by rw [hc]; exact Bool.false_ne_true),
      ih _ _ fun x hx => h x (List.mem_cons_of_mem c hx)]
    · simp
    · intro more heq _
      exact hreturn heq

theorem splitlines_print (lines : List (List Char))
    (h : ∀ l ∈ lines, ∀ c ∈ l, isLineBreak c = false) :
    splitlines (String.ofList (lines.flatMap fun l => l ++ ['\n'])) = lines.map String.ofList := by
  rw [splitlines, String.toList_ofList]
  induction lines with
  | nil => rfl
  | cons l lines ih =>
    rw [List.flatMap_cons, List.append_assoc, List.singleton_append,
      splitlinesFrom_line l _ _ (h l List.mem_cons_self),
      ih fun k hk => h k (List.mem_cons_of_mem l hk)]
    rfl

/-- A line without its end. -/
def lineOf (index : ℕ) (fields : List Field) : List Char :=
  Nat.toDigits 10 index ++ fields.flatMap fun f => ',' :: ' ' :: f.text

theorem digit_plain {n : ℕ} {c : Char} (h : c ∈ Nat.toDigits 10 n) :
    c ≠ ',' ∧ c ≠ '"' ∧ isLineBreak c = false := by
  have hdigit := Nat.isDigit_of_mem_toDigits (by omega) (by omega) h
  refine ⟨?_, ?_, ?_⟩
  · rintro rfl
    exact absurd hdigit (by decide)
  · rintro rfl
    exact absurd hdigit (by decide)
  · have hrange : 48 ≤ c.toNat ∧ c.toNat ≤ 57 := by
      simpa [Char.isDigit, UInt32.le_iff_toNat_le] using hdigit
    simp only [isLineBreak, Bool.or_eq_false_iff, Bool.and_eq_false_iff, decide_eq_false_iff_not,
      beq_eq_false_iff_ne]
    omega

theorem lineOf_oneLine (index : ℕ) (fields : List Field) :
    ∀ c ∈ lineOf index fields, isLineBreak c = false := by
  intro c hc
  rcases List.mem_append.1 hc with hc | hc
  · exact (digit_plain hc).2.2
  · obtain ⟨f, _, hf⟩ := List.mem_flatMap.1 hc
    rcases List.mem_cons.1 hf with rfl | hf
    · decide
    · rcases List.mem_cons.1 hf with rfl | hf
      · decide
      · exact f.oneLine c hf

theorem splitlines_printLines {α : Type} (index : α → ℕ) (fields : α → List Field) (l : List α) :
    splitlines (String.ofList (l.flatMap fun a => printLine (index a) (fields a))) =
      l.map fun a => String.ofList (lineOf (index a) (fields a)) := by
  have h := splitlines_print (l.map fun a => lineOf (index a) (fields a))
    (by
      intro k hk
      obtain ⟨a, _, rfl⟩ := List.mem_map.1 hk
      exact lineOf_oneLine _ _)
  rw [List.flatMap_map, List.map_map] at h
  exact h

/-! ## Columns -/

theorem foldlM_inField : ∀ (l : List Char) {r r' : CsvRecord}, ',' ∉ l → r.state = .inField →
    l.foldlM CsvRecord.char r = some r' → r' = { r with field := l.reverse ++ r.field }
  | [], r, r', _, _, h => by
    cases h
    rfl
  | c :: l, r, r', hcomma, hstate, h => by
    have hc : c ≠ ',' := fun heq => hcomma (heq ▸ List.mem_cons_self)
    rw [List.foldlM_cons] at h
    obtain ⟨k, hk, hrest⟩ := Option.bind_eq_some_iff.1 h
    unfold CsvRecord.char at hk
    rw [hstate] at hk
    simp only [if_neg hc, CsvRecord.add] at hk
    split_ifs at hk
    cases hk
    rw [foldlM_inField l (fun hin => hcomma (List.mem_cons_of_mem c hin)) rfl hrest]
    simp [hstate]

/-- The columns of a record that has been read to here. -/
def columns (r : CsvRecord) : List String :=
  r.fields.reverse ++ [String.ofList r.field.reverse]

theorem foldlM_fields : ∀ (fields : List Field) {r r' : CsvRecord}, r.state = .inField →
    (fields.flatMap fun f => ',' :: ' ' :: f.text).foldlM CsvRecord.char r = some r' →
    r'.state = .inField ∧ columns r' = columns r ++
      fields.map fun f => String.ofList (' ' :: f.text)
  | [], r, r', hstate, h => by
    cases h
    exact ⟨hstate, (List.append_nil _).symm⟩
  | f :: fields, r, r', hstate, h => by
    rw [List.flatMap_cons, List.cons_append, List.cons_append, List.foldlM_cons] at h
    obtain ⟨k, hk, h⟩ := Option.bind_eq_some_iff.1 h
    unfold CsvRecord.char at hk
    rw [hstate] at hk
    cases hk
    rw [List.foldlM_cons] at h
    obtain ⟨k, hk, h⟩ := Option.bind_eq_some_iff.1 h
    cases hk
    rw [List.foldlM_append] at h
    obtain ⟨k, hk, h⟩ := Option.bind_eq_some_iff.1 h
    have hfield := foldlM_inField f.text f.comma rfl hk
    subst hfield
    obtain ⟨hin, hcolumns⟩ := foldlM_fields fields rfl h
    refine ⟨hin, hcolumns.trans ?_⟩
    simp [columns, CsvRecord.save]

/-- The columns of a printed line. -/
def columnsOf (index : ℕ) (fields : List Field) : List String :=
  String.ofList (Nat.toDigits 10 index) :: fields.map fun f => String.ofList (' ' :: f.text)

theorem foldlM_lineOf {index : ℕ} {fields : List Field} {r' : CsvRecord}
    (h : (lineOf index fields).foldlM CsvRecord.char {} = some r') :
    r'.state = .inField ∧ columns r' = columnsOf index fields := by
  unfold lineOf at h
  rw [List.foldlM_append] at h
  obtain ⟨k, hk, h⟩ := Option.bind_eq_some_iff.1 h
  have hplain : ∀ c ∈ Nat.toDigits 10 index, c ≠ ',' ∧ c ≠ '"' ∧ isLineBreak c = false :=
    fun c hc => digit_plain hc
  have hfirst : k.state = .inField ∧ columns k = [String.ofList (Nat.toDigits 10 index)] := by
    cases hd : Nat.toDigits 10 index with
    | nil => exact absurd hd Nat.toDigits_ne_nil
    | cons c l =>
      rw [hd] at hk hplain
      have hc := hplain c List.mem_cons_self
      rw [List.foldlM_cons] at hk
      obtain ⟨k', hk', hk⟩ := Option.bind_eq_some_iff.1 hk
      have hstart : CsvRecord.char {} c = some { state := .inField, field := [c] } := by
        unfold CsvRecord.char
        simp only [if_neg hc.2.1, if_neg hc.1]
        rfl
      rw [hstart] at hk'
      cases hk'
      have hcomma : ',' ∉ l := fun hin => (hplain ',' (List.mem_cons_of_mem c hin)).1 rfl
      rw [foldlM_inField l hcomma rfl hk]
      exact ⟨rfl, by simp [columns]⟩
  obtain ⟨hstate, hcolumns⟩ := foldlM_fields fields hfirst.1 h
  exact ⟨hstate, by rw [hcolumns, hfirst.2]; rfl⟩

/-- A reader that does not raise reads a printed line as its columns. -/
theorem csvRows_print {α : Type} (index : α → ℕ) (fields : α → List Field) : ∀ l : List α,
    (csvRows {} (l.map fun a => String.ofList (lineOf (index a) (fields a)))).2 = false →
    (csvRows {} (l.map fun a => String.ofList (lineOf (index a) (fields a)))).1 =
      l.map fun a => columnsOf (index a) (fields a)
  | [], _ => rfl
  | a :: l, h => by
    rw [List.map_cons, csvRows, String.toList_ofList] at h ⊢
    cases hr : (lineOf (index a) (fields a)).foldlM CsvRecord.char {} with
    | none =>
      rw [hr] at h
      cases h
    | some r =>
      rw [hr] at h
      obtain ⟨hstate, hcolumns⟩ := foldlM_lineOf hr
      have hend : r.endLine = r.save .startRecord := by
        unfold CsvRecord.endLine
        rw [hstate]
      simp only [hend, CsvRecord.save, if_true] at h ⊢
      rw [csvRows_print index fields l h, List.map_cons, ← hcolumns, columns]
      simp

theorem strip_space (l : List Char) :
    strip (String.ofList (' ' :: l)) = strip (String.ofList l) := by
  simp only [strip, String.toList_ofList]
  rw [List.dropWhile_cons_of_pos (by decide)]

/-! ## What the collector reads -/

/-- What a row that is read adds, all of it new. -/
theorem readGpuRow_ok {py : Library} {observed observed' : List Observed} {row : List String}
    (h : readGpuRow py observed row = .ok observed') :
    ∃ x, observed' = observed ++ [x] ∧ value row 1 = some x.card.gpuUuid ∧
      pciBusKey (value row 11) = .ok x.bus ∧
      x.card.gpuUuid ∉ observed.map (fun x => x.card.gpuUuid) ∧
      x.bus ∉ observed.map Observed.bus := by
  unfold readGpuRow at h
  obtain ⟨_, _, h⟩ := bind_ok.1 h
  obtain ⟨_, _, h⟩ := bind_ok.1 h
  obtain ⟨_, _, h⟩ := bind_ok.1 h
  obtain ⟨_, _, h⟩ := bind_ok.1 h
  obtain ⟨_, _, h⟩ := bind_ok.1 h
  obtain ⟨bus, hbus, h⟩ := bind_ok.1 h
  generalize value row 1 = uuid at h ⊢
  split at h
  · obtain ⟨_, hnew, h⟩ := bind_ok.1 h
    obtain ⟨_, _, h⟩ := bind_ok.1 h
    obtain ⟨_, _, h⟩ := bind_ok.1 h
    obtain ⟨_, _, h⟩ := bind_ok.1 h
    cases h
    have hdistinct := require_ok.1 hnew
    exact ⟨_, rfl, rfl, hbus, hdistinct.2.1, hdistinct.2.2⟩
  · cases h

/-- The keys of a table with one more. -/
theorem nodup_concat {α : Type} {l : List α} {a : α} (h : l.Nodup) (ha : a ∉ l) :
    (l ++ [a]).Nodup := by
  rw [List.nodup_append]
  refine ⟨h, List.nodup_singleton a, ?_⟩
  rintro x hx y hy rfl
  exact ha (List.mem_singleton.1 hy ▸ hx)

theorem pciBusId_of_key {v : Option String} {bus : List ℕ} (h : pciBusKey v = .ok bus) :
    Ordinals.pciBusId (v.getD "") = some bus := by
  unfold pciBusKey at h
  split at h
  · rename_i domain b d₁ d₂ f hsplit
    split at h
    · rename_i hdomain hbus hdevice hfunction
      split_ifs at h with hf
      cases h
      unfold Ordinals.pciBusId
      simp only [hsplit, hdomain, hbus, hdevice, hfunction, if_pos hf]
    · cases h
  · cases h

/-- The fields of a line of the collector's query. -/
def Reading.fields (r : Reading) : List Field :=
  r.gpu.uuid :: r.name :: (r.measured ++ [r.gpu.pciBusId])

theorem value_uuid (r : Reading) {v : String}
    (h : value (columnsOf r.index r.fields) 1 = some v) : r.gpu.id = v := by
  have hcolumn : (columnsOf r.index r.fields).getD 1 "" =
      String.ofList (' ' :: r.gpu.uuid.text) := rfl
  unfold value at h
  rw [hcolumn, strip_space] at h
  simp only at h
  split_ifs at h
  exact Option.some.inj h

theorem value_bus (r : Reading) {bus : List ℕ}
    (h : pciBusKey (value (columnsOf r.index r.fields) 11) = .ok bus) :
    r.gpu.address = some bus := by
  have hcolumn : (columnsOf r.index r.fields).getD 11 "" =
      String.ofList (' ' :: r.gpu.pciBusId.text) := by
    have hlength := r.measured_length
    simp [columnsOf, Reading.fields, List.getD_eq_getElem?_getD, hlength]
  have hkey := pciBusId_of_key h
  unfold value at hkey
  rw [hcolumn, strip_space] at hkey
  simp only at hkey
  split_ifs at hkey with hempty
  · cases hkey
  · exact hkey

/-- Rows read one by one, each to an entry whose keys no entry before it has. -/
theorem foldlM_concat {α β γ κ μ ε : Type} {read : List β → α → Except ε (List β)} {u : β → κ}
    {v : β → μ} {tell : β → γ} {shown : α → γ}
    (hread : ∀ (seen seen' : List β) (a : α), read seen a = .ok seen' →
      ∃ x, seen' = seen ++ [x] ∧ tell x = shown a ∧ u x ∉ seen.map u ∧ v x ∉ seen.map v) :
    ∀ (l : List α) {seen seen' : List β}, l.foldlM read seen = .ok seen' →
      (seen.map u).Nodup → (seen.map v).Nodup →
        seen'.map tell = seen.map tell ++ l.map shown ∧ (seen'.map u).Nodup ∧ (seen'.map v).Nodup
  | [], seen, seen', h, hu, hv => by
    cases h
    exact ⟨(List.append_nil _).symm, hu, hv⟩
  | a :: l, seen, seen', h, hu, hv => by
    rw [List.foldlM_cons] at h
    obtain ⟨next, hnext, h⟩ := bind_ok.1 h
    obtain ⟨x, rfl, htell, hnewu, hnewv⟩ := hread _ _ _ hnext
    have hu' : ((seen ++ [x]).map u).Nodup := by
      rw [List.map_append]
      exact nodup_concat hu hnewu
    have hv' : ((seen ++ [x]).map v).Nodup := by
      rw [List.map_append]
      exact nodup_concat hv hnewv
    obtain ⟨hall, hnodup⟩ := foldlM_concat hread l h hu' hv'
    refine ⟨?_, hnodup⟩
    rw [hall, List.map_append, List.append_assoc]
    simp only [List.map_cons, List.map_nil, List.cons_append, List.nil_append, htell]

/-- The rows of the collector's query, read one by one. -/
theorem foldlM_readGpuRow {py : Library} (readings : List Reading)
    {observed observed' : List Observed}
    (h : (readings.map fun r => columnsOf r.index r.fields).foldlM (readGpuRow py) observed =
      .ok observed')
    (hu : (observed.map fun x => x.card.gpuUuid).Nodup) (hb : (observed.map Observed.bus).Nodup) :
    (observed'.map fun x => (x.card.gpuUuid, some x.bus)) =
        (observed.map fun x => (x.card.gpuUuid, some x.bus)) ++
          readings.map (fun r => (r.gpu.id, r.gpu.address)) ∧
      (observed'.map fun x => x.card.gpuUuid).Nodup ∧ (observed'.map Observed.bus).Nodup := by
  rw [List.foldlM_map] at h
  refine foldlM_concat (fun seen seen' r hrow => ?_) readings h hu hb
  obtain ⟨x, hseen, huuid, hbus, hnewu, hnewb⟩ := readGpuRow_ok hrow
  exact ⟨x, hseen, by rw [value_uuid r huuid, value_bus r hbus], hnewu, hnewb⟩

/-! ## What the helper reads -/

theorem splitOnce_comma : ∀ (l rest : List Char), ',' ∉ l →
    splitOnce [','] (l ++ ',' :: rest) = some (l, rest)
  | [], rest, _ => rfl
  | c :: l, rest, h => by
    have hc : ¬ ([','].isPrefixOf (c :: (l ++ ',' :: rest)) = true) := by
      intro hp
      simp only [List.isPrefixOf, Bool.and_true, beq_iff_eq] at hp
      exact h (hp ▸ List.mem_cons_self)
    rw [List.cons_append, splitOnce, if_neg hc,
      splitOnce_comma l rest fun hin => h (List.mem_cons_of_mem c hin)]
    rfl

theorem splitComma_print (index : ℕ) (f g : Field) :
    splitComma 2 (lineOf index [f, g]) = [Nat.toDigits 10 index, ' ' :: f.text, ' ' :: g.text] := by
  have hindex : ',' ∉ Nat.toDigits 10 index := fun hin => (digit_plain hin).1 rfl
  have hf : ',' ∉ ' ' :: f.text := by
    intro hin
    rcases List.mem_cons.1 hin with h | h
    · cases h
    · exact f.comma h
  have hline : lineOf index [f, g] =
      Nat.toDigits 10 index ++ ',' :: ((' ' :: f.text) ++ ',' :: (' ' :: g.text)) := by
    simp [lineOf]
  rw [hline, splitComma, splitOnce_comma _ _ hindex]
  simp only
  rw [splitComma, splitOnce_comma _ _ hf]
  rfl

theorem readOrdinalLine_ok {digits : Digits} {observed observed' : List Placed} {index : ℕ}
    {g : Gpu} (h : readOrdinalLine digits observed
      (String.ofList (lineOf index [g.uuid, g.pciBusId])) = .ok observed') :
    ∃ x, observed' = observed ++ [x] ∧ x.gpuUuid.1 = g.id ∧ g.address = some x.bus ∧
      x.gpuUuid ∉ observed.map Placed.gpuUuid ∧ x.bus ∉ observed.map Placed.bus := by
  unfold readOrdinalLine at h
  rw [String.toList_ofList, splitComma_print] at h
  simp only [List.map_cons, List.map_nil, strip_space] at h
  obtain ⟨_, _, h⟩ := bind_ok.1 h
  obtain ⟨i, _, h⟩ := bind_ok.1 h
  obtain ⟨uuid, huuid, h⟩ := bind_ok.1 h
  obtain ⟨bus, hbus, h⟩ := bind_ok.1 h
  obtain ⟨_, hnew, h⟩ := bind_ok.1 h
  cases h
  have hid : uuid.1 = g.id := by
    unfold validateGpuUuid at huuid
    simp only at huuid
    split_ifs at huuid
    cases huuid
    rfl
  refine ⟨_, rfl, hid, need_ok.1 hbus, (require_ok.1 hnew).2.1, fun hmem => ?_⟩
  obtain ⟨other, hother, hsame⟩ := List.mem_map.1 hmem
  exact (require_ok.1 hnew).2.2 other hother hsame

theorem foldlM_readOrdinalLine {digits : Digits} (lines : List (ℕ × Gpu))
    {observed observed' : List Placed}
    (h : (lines.map fun x => String.ofList (lineOf x.1 [x.2.uuid, x.2.pciBusId])).foldlM
      (readOrdinalLine digits) observed = .ok observed')
    (hu : (observed.map Placed.gpuUuid).Nodup) (hb : (observed.map Placed.bus).Nodup) :
    (observed'.map fun x => (x.gpuUuid.1, some x.bus)) =
        (observed.map fun x => (x.gpuUuid.1, some x.bus)) ++
          lines.map (fun x => (x.2.id, x.2.address)) ∧
      (observed'.map Placed.gpuUuid).Nodup ∧ (observed'.map Placed.bus).Nodup := by
  rw [List.foldlM_map] at h
  refine foldlM_concat (fun seen seen' l hline => ?_) lines h hu hb
  obtain ⟨x, hseen, huuid, hbus, hnewu, hnewb⟩ := readOrdinalLine_ok hline
  exact ⟨x, hseen, by rw [huuid, hbus], hnewu, hnewb⟩

/-! ## The cards of a host -/

/-- UUIDs and bus addresses, all different, that are those of the cards of a host. -/
structure Listing (host : List Gpu) (pairs : List (String × List ℕ)) : Prop where
  same : (host.map fun g => (g.id, g.address)).Perm (pairs.map fun x => (x.1, some x.2))
  uuids : (pairs.map Prod.fst).Nodup
  addresses : (pairs.map Prod.snd).Nodup

variable {host : List Gpu} {pairs : List (String × List ℕ)}

theorem Listing.ids (h : Listing host pairs) : (host.map Gpu.id).Perm (pairs.map Prod.fst) := by
  have hhost : host.map Gpu.id = (host.map fun g => (g.id, g.address)).map Prod.fst := by
    rw [List.map_map]
    exact List.map_congr_left fun _ _ => rfl
  have hpairs : (pairs.map fun x => (x.1, some x.2)).map Prod.fst = pairs.map Prod.fst := by
    rw [List.map_map]
    exact List.map_congr_left fun _ _ => rfl
  rw [hhost, ← hpairs]
  exact h.same.map Prod.fst

theorem Listing.filterMap_address (h : Listing host pairs) :
    (host.filterMap Gpu.address).Perm (pairs.map Prod.snd) := by
  have hhost : host.filterMap Gpu.address =
      (host.map fun g => (g.id, g.address)).filterMap Prod.snd := by
    rw [List.filterMap_map]
    exact List.filterMap_congr fun g _ => by rw [Function.comp_apply]
  have hpairs : (pairs.map fun x => (x.1, some x.2)).filterMap Prod.snd = pairs.map Prod.snd := by
    rw [List.filterMap_map, ← List.filterMap_eq_map]
    exact List.filterMap_congr fun _ _ => rfl
  rw [hhost, ← hpairs]
  exact h.same.filterMap Prod.snd

/-- A card's number is the rank of its address. -/
theorem Listing.number_eq (h : Listing host pairs) {uuid : String} {address : List ℕ}
    (hmem : (uuid, address) ∈ pairs) :
    number host uuid = rank tupleLe (pairs.map Prod.snd) address := by
  have hfind : (host.find? fun g => g.id = uuid).bind Gpu.address = some address := by
    have hin : (uuid, some address) ∈ host.map fun g => (g.id, g.address) :=
      h.same.mem_iff.2 (List.mem_map.2 ⟨_, hmem, rfl⟩)
    obtain ⟨g, hg, heq⟩ := List.mem_map.1 hin
    cases hf : host.find? fun g => g.id = uuid with
    | none =>
      have := List.find?_eq_none.1 hf g hg
      exact absurd (congrArg Prod.fst heq) (by simpa using this)
    | some k =>
      have hk : k.id = uuid := by simpa using List.find?_some hf
      have hpair : (k.id, k.address) ∈ pairs.map fun x => (x.1, some x.2) :=
        h.same.mem_iff.1 (List.mem_map.2 ⟨k, List.mem_of_find?_eq_some hf, rfl⟩)
      obtain ⟨x, hx, hxk⟩ := List.mem_map.1 hpair
      obtain ⟨hfst, hsnd⟩ := Prod.mk.inj hxk
      have hsame : x = (uuid, address) :=
        List.inj_on_of_nodup_map h.uuids hx hmem (hfst.trans hk)
      rw [hsame] at hsnd
      rw [Option.bind_some, ← hsnd]
  unfold number
  rw [hfind]
  exact rank_perm h.filterMap_address address

/-- Counting the cards in the order of their addresses gives each its number. -/
theorem Listing.numbered (h : Listing host pairs) {β : Type} (f : ℕ → String → β) :
    ((arranged tupleLe Prod.snd pairs).mapIdx fun i x => f i x.1).Perm
      (host.map fun g => f (number host g.id) g.id) := by
  rw [mapIdx_eq tupleLe_order (fun i (x : String × List ℕ) => f i x.1) Prod.snd h.addresses]
  have hnumber : (arranged tupleLe Prod.snd pairs).map
      (fun x => f (rank tupleLe (pairs.map Prod.snd) x.2) x.1) =
      (arranged tupleLe Prod.snd pairs).map fun x => f (number host x.1) x.1 := by
    refine List.map_congr_left fun x hx => ?_
    rw [h.number_eq ((arranged_perm _ Prod.snd pairs).mem_iff.1 hx)]
  rw [hnumber]
  refine ((arranged_perm _ Prod.snd pairs).map _).trans ?_
  have hids := h.ids.symm.map fun u => f (number host u) u
  rw [List.map_map, List.map_map] at hids
  exact hids

/-- The numbers of the cards are those below their count, each once. -/
theorem Listing.bijOn (h : Listing host pairs) :
    Set.BijOn (number host) {u | u ∈ host.map Gpu.id} (Set.Iio host.length) := by
  have hperm : (pairs.map fun x => number host x.1).Perm (List.range pairs.length) := by
    have hrank := map_rank_perm tupleLe_order h.addresses
    rw [List.map_map, List.length_map] at hrank
    refine (List.Perm.of_eq (List.map_congr_left fun x hx => ?_)).trans hrank
    exact h.number_eq hx
  have hlength : host.length = pairs.length := by
    have := h.same.length_eq
    rwa [List.length_map, List.length_map] at this
  have hids : ∀ u, u ∈ host.map Gpu.id ↔ ∃ x ∈ pairs, x.1 = u := fun u =>
    h.ids.mem_iff.trans List.mem_map
  refine ⟨?_, ?_, ?_⟩
  · intro u hu
    obtain ⟨x, hx, rfl⟩ := (hids u).1 hu
    have := hperm.mem_iff.1 (List.mem_map.2 ⟨x, hx, rfl⟩)
    rw [Set.mem_Iio, hlength]
    exact List.mem_range.1 this
  · intro u hu v hv huv
    obtain ⟨x, hx, rfl⟩ := (hids u).1 hu
    obtain ⟨y, hy, rfl⟩ := (hids v).1 hv
    have hnodup : (pairs.map fun x => number host x.1).Nodup :=
      hperm.nodup_iff.2 List.nodup_range
    rw [List.inj_on_of_nodup_map hnodup hx hy huv]
  · intro k hk
    rw [Set.mem_Iio, hlength] at hk
    obtain ⟨x, hx, rfl⟩ := List.mem_map.1 (hperm.mem_iff.2 (List.mem_range.2 hk))
    exact ⟨x.1, (hids x.1).2 ⟨x, hx, rfl⟩, rfl⟩

/-! ## Both sides -/

theorem strip_ne_empty {s : List Char} {c : Char} (hc : c ∈ s) (hspace : isSpace c = false) :
    strip (String.ofList s) ≠ "" := by
  intro h
  have hlist := congrArg String.toList h
  rw [strip, String.toList_ofList, String.toList_ofList] at hlist
  have hnil := List.reverse_eq_nil_iff.1 hlist
  rw [List.dropWhile_eq_nil_iff] at hnil
  have hall : ∀ x ∈ s.dropWhile isSpace, isSpace x = true := fun x hx =>
    hnil x (List.mem_reverse.2 hx)
  cases hd : s.dropWhile isSpace with
  | nil =>
    rw [List.dropWhile_eq_nil_iff.1 hd c hc] at hspace
    cases hspace
  | cons x rest =>
    have hx := List.head?_dropWhile_not isSpace s
    simp only [hd, List.head?_cons, hall x (hd ▸ List.mem_cons_self)] at hx
    cases hx

variable {readings : List Reading} {lines : List (ℕ × Gpu)}

/-- What the collector reads are the cards of the host, numbered in the order of their buses. -/
theorem parseGpuCsv_listing {py : Library} {cards : List TelemetryInput}
    (hperm : (readings.map Reading.gpu).Perm host) (hids : ∀ g ∈ host, g.id ≠ "")
    (h : parseGpuCsv py (gpuQuery readings) = .ok cards) :
    ∃ pairs, Listing host pairs ∧ (cards.map fun c => (c.gpuUuid, c.cudaOrdinal)) =
      (arranged tupleLe Prod.snd pairs).mapIdx fun i x => (x.1, i) := by
  obtain ⟨observed, hrows, h⟩ := bind_ok.1 h
  obtain ⟨_, _, h⟩ := bind_ok.1 h
  obtain ⟨_, _, h⟩ := bind_ok.1 h
  cases h
  have hlines : splitlines (gpuQuery readings) =
      readings.map fun r => String.ofList (lineOf r.index r.fields) :=
    splitlines_printLines Reading.index Reading.fields readings
  rw [overRows, hlines] at hrows
  obtain ⟨result, hfold, hrows⟩ := bind_ok.1 hrows
  obtain ⟨_, hbroken, hrows⟩ := bind_ok.1 hrows
  cases hrows
  rw [csvRows_print Reading.index Reading.fields readings (require_ok.1 hbroken)] at hfold
  have hkept : ((readings.map fun r => columnsOf r.index r.fields).filter fun row =>
      row.any fun column => strip column ≠ "") =
      readings.map fun r => columnsOf r.index r.fields := by
    rw [List.filter_eq_self]
    intro row hrow
    obtain ⟨r, hr, rfl⟩ := List.mem_map.1 hrow
    have hid := hids r.gpu (hperm.mem_iff.1 (List.mem_map.2 ⟨r, hr, rfl⟩))
    refine List.any_eq_true.2 ⟨String.ofList (' ' :: r.gpu.uuid.text), ?_, ?_⟩
    · exact List.mem_cons_of_mem _ List.mem_cons_self
    · rw [strip_space]
      exact decide_eq_true hid
  rw [hkept] at hfold
  obtain ⟨hall, huuids, hbuses⟩ := foldlM_readGpuRow readings hfold List.nodup_nil List.nodup_nil
  refine ⟨observed.map fun x => (x.card.gpuUuid, x.bus), ⟨?_, ?_, ?_⟩, ?_⟩
  · have hcards := hperm.symm.map fun g => (g.id, g.address)
    rw [List.map_map] at hcards ⊢
    refine hcards.trans (List.Perm.of_eq ?_)
    exact hall.symm
  · rw [List.map_map]
    exact huuids
  · rw [List.map_map]
    exact hbuses
  · refine map_mapIdx_arranged (fun x : Observed => (x.card.gpuUuid, x.bus)) Prod.snd observed ?_
    exact fun _ _ => rfl

/-- What the helper reads are the cards of the host, numbered in the order of their buses. -/
theorem resolveGpuOrdinals_listing {digits : Digits} {ordinals : List (GpuUuid × String)}
    (hperm : (lines.map Prod.snd).Perm host)
    (h : resolveGpuOrdinals digits (ordinalQuery lines) = .ok ordinals) :
    (∀ g ∈ host, g.id ≠ "") ∧ ∃ pairs, Listing host pairs ∧
      (ordinals.map fun x => (x.1.1, x.2)) =
        (arranged tupleLe Prod.snd pairs).mapIdx fun i x => (x.1, toString i) := by
  obtain ⟨observed, hfold, h⟩ := bind_ok.1 h
  obtain ⟨_, _, h⟩ := bind_ok.1 h
  cases h
  have hlines : splitlines (ordinalQuery lines) =
      lines.map fun x => String.ofList (lineOf x.1 [x.2.uuid, x.2.pciBusId]) :=
    splitlines_printLines (fun x : ℕ × Gpu => x.1) (fun x => [x.2.uuid, x.2.pciBusId]) lines
  have hkept : ((splitlines (ordinalQuery lines)).filter fun line => strip line ≠ "") =
      lines.map fun x => String.ofList (lineOf x.1 [x.2.uuid, x.2.pciBusId]) := by
    rw [hlines, List.filter_eq_self]
    intro line hline
    obtain ⟨x, _, rfl⟩ := List.mem_map.1 hline
    refine decide_eq_true (strip_ne_empty (c := ',') ?_ (by decide))
    exact List.mem_append_right _ List.mem_cons_self
  rw [hkept] at hfold
  obtain ⟨hall, huuids, hbuses⟩ :=
    foldlM_readOrdinalLine lines hfold List.nodup_nil List.nodup_nil
  have hcards := hperm.symm.map fun g => (g.id, g.address)
  rw [List.map_map] at hcards
  have hsame : (host.map fun g => (g.id, g.address)).Perm
      (observed.map fun x => (x.gpuUuid.1, some x.bus)) := hcards.trans (List.Perm.of_eq hall.symm)
  constructor
  · intro g hg hempty
    obtain ⟨x, _, hx⟩ := List.mem_map.1 (hsame.mem_iff.1 (List.mem_map.2 ⟨g, hg, rfl⟩))
    have hvalid := x.gpuUuid.2
    rw [(Prod.mk.inj hx).1, hempty] at hvalid
    exact absurd hvalid (by decide)
  · refine ⟨observed.map fun x => (x.gpuUuid.1, x.bus), ⟨?_, ?_, ?_⟩, ?_⟩
    · rw [List.map_map]
      exact hsame
    · rw [List.map_map]
      have hvalues := huuids.map Subtype.val_injective
      rw [List.map_map] at hvalues
      exact hvalues
    · rw [List.map_map]
      exact hbuses
    · refine map_mapIdx_arranged (fun x : Placed => (x.gpuUuid.1, x.bus)) Prod.snd observed ?_
      exact fun _ _ => rfl

/-- Whatever the order of their queries, the collector and the helper number the cards of a host
alike, from zero on. -/
theorem ordinals_agree {py : Library} {digits : Digits} {cards : List TelemetryInput}
    {ordinals : List (GpuUuid × String)} (hreadings : (readings.map Reading.gpu).Perm host)
    (hlines : (lines.map Prod.snd).Perm host)
    (hcards : parseGpuCsv py (gpuQuery readings) = .ok cards)
    (hordinals : resolveGpuOrdinals digits (ordinalQuery lines) = .ok ordinals) :
    (host.map Gpu.id).Nodup ∧
      Set.BijOn (number host) {u | u ∈ host.map Gpu.id} (Set.Iio host.length) ∧
      (cards.map fun c => (c.gpuUuid, c.cudaOrdinal)).Perm
        (host.map fun g => (g.id, number host g.id)) ∧
      (ordinals.map fun x => (x.1.1, x.2)).Perm
        (host.map fun g => (g.id, toString (number host g.id))) := by
  obtain ⟨hids, pairs, hlisting, hprinted⟩ := resolveGpuOrdinals_listing hlines hordinals
  obtain ⟨pairs', hlisting', hprinted'⟩ := parseGpuCsv_listing hreadings hids hcards
  refine ⟨hlisting.ids.nodup_iff.2 hlisting.uuids, hlisting.bijOn, ?_, ?_⟩
  · rw [hprinted']
    exact hlisting'.numbered fun i u => (u, i)
  · rw [hprinted]
    exact hlisting.numbered fun i u => (u, toString i)

/-! ## Two cards, asked for in two orders -/

theorem filter_plain (s : List Char) :
    ',' ∉ s.filter (fun c => c != ',' && !isLineBreak c) ∧
      ∀ c ∈ s.filter (fun c => c != ',' && !isLineBreak c), isLineBreak c = false := by
  constructor
  · intro h
    exact absurd (List.mem_filter.1 h).2 (by decide)
  · intro c hc
    have := (List.mem_filter.1 hc).2
    simp only [Bool.and_eq_true, Bool.not_eq_true'] at this
    exact this.2

/-- A text without its commas and line breaks. -/
def Field.plain (s : String) : Field where
  text := s.toList.filter fun c => c != ',' && !isLineBreak c
  comma := (filter_plain s.toList).1
  oneLine := (filter_plain s.toList).2

def firstGpu : Gpu where
  uuid := .plain "GPU-00000000-0000-0000-0000-00000000000a"
  pciBusId := .plain "00000000:65:00.0"

def secondGpu : Gpu where
  uuid := .plain "GPU-00000000-0000-0000-0000-00000000000b"
  pciBusId := .plain "00000000:17:00.0"

/-- Memory, utilization, temperature, power and performance state of an idle card. -/
def idleFields : List Field :=
  ["16384", "0", "16384", "0", "0", "30", "20", "P8"].map Field.plain

theorem idleFields_length : idleFields.length = 8 := rfl

/-- An idle card. -/
def idleReading (gpu : Gpu) (index : ℕ) : Reading where
  gpu := gpu
  index := index
  name := .plain "Tesla"
  measured := idleFields
  measured_length := idleFields_length

/-- What `float` makes of the numbers printed of idle cards. -/
def numberLibrary : Library :=
  { sampleLibrary with
    float := fun s =>
      match s with
      | "0" => some (.finite 0)
      | "1" => some (.finite 1)
      | "20" => some (.finite 20)
      | "30" => some (.finite 30)
      | "16384" => some (.finite 16384)
      | _ => none }

/-- What `isdigit` and `int` make of the two indexes. -/
def twoDigits : Digits where
  isdigit s := s == "0" || s == "1"
  int s := if s = "0" then some 0 else if s = "1" then some 1 else none

theorem exists_of_isOk {ε α : Type} {x : Except ε α} (h : x.isOk = true) : ∃ a, x = .ok a := by
  cases x with
  | error e => cases h
  | ok a => exact ⟨a, rfl⟩

theorem ordinals_agree_two : ∃ cards ordinals,
    parseGpuCsv numberLibrary (gpuQuery [idleReading firstGpu 0, idleReading secondGpu 1]) =
        .ok cards ∧
      resolveGpuOrdinals twoDigits (ordinalQuery [(1, secondGpu), (0, firstGpu)]) = .ok ordinals ∧
      ([firstGpu, secondGpu].map Gpu.id).Nodup ∧
      Set.BijOn (number [firstGpu, secondGpu]) {u | u ∈ [firstGpu, secondGpu].map Gpu.id}
        (Set.Iio 2) ∧
      (cards.map fun c => (c.gpuUuid, c.cudaOrdinal)).Perm
        ([firstGpu, secondGpu].map fun g => (g.id, number [firstGpu, secondGpu] g.id)) ∧
      (ordinals.map fun x => (x.1.1, x.2)).Perm
        ([firstGpu, secondGpu].map fun g =>
          (g.id, toString (number [firstGpu, secondGpu] g.id))) := by
  obtain ⟨cards, hcards⟩ : ∃ cards, parseGpuCsv numberLibrary
      (gpuQuery [idleReading firstGpu 0, idleReading secondGpu 1]) = .ok cards :=
    exists_of_isOk (by decide +kernel)
  obtain ⟨ordinals, hordinals⟩ : ∃ ordinals, resolveGpuOrdinals twoDigits
      (ordinalQuery [(1, secondGpu), (0, firstGpu)]) = .ok ordinals :=
    exists_of_isOk (by decide +kernel)
  have hreadings : ([idleReading firstGpu 0, idleReading secondGpu 1].map Reading.gpu).Perm
      [firstGpu, secondGpu] := List.Perm.refl _
  have hlines : ([(1, secondGpu), (0, firstGpu)].map Prod.snd).Perm [firstGpu, secondGpu] :=
    List.Perm.swap _ _ _
  exact ⟨cards, ordinals, hcards, hordinals, ordinals_agree hreadings hlines hcards hordinals⟩

end ServerPilot.Ordinals
