import Mathlib.Data.List.Induction
import ServerPilot.Spec.Importer

/-!
# What an import makes of its lines

`Read` is what holds after some lines: an endpoint for each address, of the first line that has
it. So a report that is made accounts for every line (`accounts`), and only the ids can go
wrong: two hosts may differ in what `_endpoint_id` leaves out. `import_complete_iff` says exactly
when they do not.
-/

namespace ServerPilot.Importer

open Checked Collector

variable {t : Tables} {d : Defaults}

/-! ## One line -/

/-- What holds of an import after some lines. -/
structure Read (t : Tables) (d : Defaults) (lines : List String) (s : Progress) : Prop where
  ignored : s.ignored = (lines.filter fun l => matchSsh t l = none).length
  first : ∀ e ∈ s.parsed, ∃ (i : ℕ) (line : String) (x : Destination), lines[i]? = some line ∧
    matchSsh t line = some x ∧ ¬ Seen t lines i x ∧ e.fields.val = fieldsOf d x ∧
    e.projectIds = d.projectIds
  found : ∀ (i : ℕ) line x, lines[i]? = some line → matchSsh t line = some x →
    ∃ e ∈ s.parsed, e.at x = true
  nodup : (s.parsed.map fun e => (e.fields.val.host, e.fields.val.port)).Nodup
  duplicate : ∀ (i : ℕ) line x, lines[i]? = some line → matchSsh t line = some x →
    Seen t lines i x → addressText x ∈ s.duplicateAddresses

theorem at_iff {e : Imported} {x : Destination} :
    e.at x = true ↔ e.fields.val.host = x.host ∧ e.fields.val.port = x.port := by
  simp [Imported.at]

theorem is_iff {e : Imported} {x : Destination} :
    e.is x = true ↔ (e.fields.val.host = x.host ∧ e.fields.val.port = x.port) ∧
      e.fields.val.sshUser = x.user := by
  simp [Imported.is, at_iff]

/-- The line at a place of a list with one more line. -/
theorem getElem?_concat {lines : List String} {line l : String} {i : ℕ}
    (h : (lines ++ [line])[i]? = some l) :
    (i < lines.length ∧ lines[i]? = some l) ∨ (i = lines.length ∧ l = line) := by
  rcases Nat.lt_trichotomy i lines.length with hlt | rfl | hgt
  · rw [List.getElem?_append_left hlt] at h
    exact Or.inl ⟨hlt, h⟩
  · rw [List.getElem?_concat_length] at h
    exact Or.inr ⟨rfl, (Option.some.inj h).symm⟩
  · rw [List.getElem?_eq_none (by rw [List.length_append, List.length_singleton]; omega)] at h
    cases h

/-- One more line changes nothing about the lines before it. -/
theorem seen_concat {lines : List String} {line : String} {i : ℕ} (hi : i ≤ lines.length)
    {x : Destination} : Seen t (lines ++ [line]) i x ↔ Seen t lines i x := by
  have hat : ∀ j < i, (lines ++ [line])[j]? = lines[j]? := by
    intro j hj
    exact List.getElem?_append_left (by omega)
  constructor
  · rintro ⟨j, hj, l, y, hl, hy⟩
    exact ⟨j, hj, l, y, (hat j hj) ▸ hl, hy⟩
  · rintro ⟨j, hj, l, y, hl, hy⟩
    exact ⟨j, hj, l, y, (hat j hj).symm ▸ hl, hy⟩

/-- The line an endpoint comes from is where it was. -/
theorem Read.first_concat {lines : List String} {s : Progress} (h : Read t d lines s)
    (line : String) {e : Imported} (he : e ∈ s.parsed) :
    ∃ (i : ℕ) (l : String) (x : Destination), (lines ++ [line])[i]? = some l ∧
      matchSsh t l = some x ∧ ¬ Seen t (lines ++ [line]) i x ∧ e.fields.val = fieldsOf d x ∧
      e.projectIds = d.projectIds := by
  obtain ⟨i, l, x, hl, hx, hseen, hfields⟩ := h.first e he
  have hi : i < lines.length := (List.getElem?_eq_some_iff.1 hl).1
  refine ⟨i, l, x, ?_, hx, ?_, hfields⟩
  · rw [List.getElem?_append_left hi]
    exact hl
  · rw [seen_concat hi.le]
    exact hseen

/-- An address has been seen exactly if it has an endpoint. -/
theorem Read.seen_iff {lines : List String} {s : Progress} (h : Read t d lines s)
    {x : Destination} : Seen t lines lines.length x ↔ ∃ e ∈ s.parsed, e.at x = true := by
  constructor
  · rintro ⟨j, _, l, y, hl, hy, hhost, hport⟩
    obtain ⟨e, he, hat⟩ := h.found j l y hl hy
    refine ⟨e, he, ?_⟩
    rw [at_iff] at hat ⊢
    exact ⟨hat.1.trans hhost, hat.2.trans hport⟩
  · rintro ⟨e, he, hat⟩
    obtain ⟨i, l, y, hl, hy, _, hfields, _⟩ := h.first e he
    rw [at_iff, hfields] at hat
    exact ⟨i, (List.getElem?_eq_some_iff.1 hl).1, l, y, hl, hy, hat.1, hat.2⟩

theorem configOf_ok {x : Destination} {e : Imported} (h : configOf d x = .ok e) :
    e.fields.val = fieldsOf d x ∧ e.projectIds = d.projectIds := by
  unfold configOf at h
  split_ifs at h
  cases h
  exact ⟨rfl, rfl⟩

/-- What a line can do: it is ignored, a duplicate, or the first of its address. -/
theorem importLine_cases {s s' : Progress} {line : String} (h : importLine t d s line = .ok s') :
    (matchSsh t line = none ∧ s' = { s with ignored := s.ignored + 1 }) ∨
      (∃ x, matchSsh t line = some x ∧ (∃ e ∈ s.parsed, e.at x = true) ∧
        s' = { s with duplicateAddresses := s.duplicateAddresses ++ [addressText x] }) ∨
      ∃ x e, matchSsh t line = some x ∧ (¬ ∃ e ∈ s.parsed, e.at x = true) ∧
        configOf d x = .ok e ∧ s' = { s with parsed := s.parsed ++ [e] } := by
  unfold importLine at h
  cases hm : matchSsh t line with
  | none =>
    rw [hm] at h
    cases h
    exact Or.inl ⟨rfl, rfl⟩
  | some x =>
    rw [hm] at h
    obtain ⟨_, _, h⟩ := bind_ok.1 h
    split_ifs at h with hany
    · cases h
      exact Or.inr (Or.inl ⟨x, rfl, List.any_eq_true.1 hany, rfl⟩)
    · obtain ⟨e, he, h⟩ := bind_ok.1 h
      cases h
      exact Or.inr (Or.inr ⟨x, e, rfl, fun hex => hany (List.any_eq_true.2 hex), he, rfl⟩)

/-- One more line. -/
theorem Read.step {lines : List String} {s s' : Progress} {line : String} (h : Read t d lines s)
    (hs : importLine t d s line = .ok s') : Read t d (lines ++ [line]) s' := by
  rcases importLine_cases hs with ⟨hnone, rfl⟩ | ⟨x, hx, hex, rfl⟩ | ⟨x, e, hx, hnew, he, rfl⟩
  · -- the line is no command
    refine ⟨?_, fun e he => h.first_concat line he, ?_, h.nodup, ?_⟩
    · simp [List.filter_append, hnone, h.ignored]
    · intro i l y hl hy
      rcases getElem?_concat hl with ⟨_, hl⟩ | ⟨_, rfl⟩
      · exact h.found i l y hl hy
      · rw [hnone] at hy
        cases hy
    · intro i l y hl hy hseen
      rcases getElem?_concat hl with ⟨hi, hl⟩ | ⟨_, rfl⟩
      · exact h.duplicate i l y hl hy ((seen_concat hi.le).1 hseen)
      · rw [hnone] at hy
        cases hy
  · -- its address has an endpoint
    refine ⟨?_, fun e he => h.first_concat line he, ?_, h.nodup, ?_⟩
    · simp [List.filter_append, hx, h.ignored]
    · intro i l y hl hy
      rcases getElem?_concat hl with ⟨_, hl⟩ | ⟨_, rfl⟩
      · exact h.found i l y hl hy
      · rw [hx] at hy
        cases hy
        exact hex
    · intro i l y hl hy hseen
      rcases getElem?_concat hl with ⟨hi, hl⟩ | ⟨_, rfl⟩
      · exact List.mem_append_left _ (h.duplicate i l y hl hy ((seen_concat hi.le).1 hseen))
      · rw [hx] at hy
        cases hy
        exact List.mem_append_right _ (List.mem_singleton_self _)
  · -- it is the first of its address
    obtain ⟨hfields, hprojects⟩ := configOf_ok he
    have hat : e.at x = true := by
      rw [at_iff, hfields]
      exact ⟨rfl, rfl⟩
    refine ⟨?_, ?_, ?_, ?_, ?_⟩
    · simp [List.filter_append, hx, h.ignored]
    · intro e' he'
      rcases List.mem_append.1 he' with he' | he'
      · exact h.first_concat line he'
      · rw [List.mem_singleton.1 he']
        refine ⟨lines.length, line, x, List.getElem?_concat_length, hx, ?_, hfields, hprojects⟩
        rw [seen_concat (Nat.le_refl _), h.seen_iff]
        exact hnew
    · intro i l y hl hy
      rcases getElem?_concat hl with ⟨_, hl⟩ | ⟨_, rfl⟩
      · obtain ⟨e', he', hat'⟩ := h.found i l y hl hy
        exact ⟨e', List.mem_append_left _ he', hat'⟩
      · rw [hx] at hy
        cases hy
        exact ⟨e, List.mem_append_right _ (List.mem_singleton_self e), hat⟩
    · rw [List.map_append, List.nodup_append]
      refine ⟨h.nodup, List.nodup_singleton _, ?_⟩
      rintro a ha b hb rfl
      obtain ⟨e', he', rfl⟩ := List.mem_map.1 ha
      have hsame := List.mem_singleton.1 hb
      simp only [hfields] at hsame
      exact hnew ⟨e', he', at_iff.2 (Prod.mk.inj hsame)⟩
    · intro i l y hl hy hseen
      rcases getElem?_concat hl with ⟨hi, hl⟩ | ⟨rfl, rfl⟩
      · exact h.duplicate i l y hl hy ((seen_concat hi.le).1 hseen)
      · rw [hx] at hy
        cases hy
        rw [seen_concat (Nat.le_refl _), h.seen_iff] at hseen
        exact absurd hseen hnew

/-- All lines. -/
theorem read_lines {lines : List String} {s : Progress}
    (h : lines.foldlM (importLine t d) {} = .ok s) : Read t d lines s := by
  induction lines using List.reverseRecOn generalizing s with
  | nil =>
    cases h
    exact ⟨rfl, by simp, by simp, List.nodup_nil, by simp⟩
  | append_singleton lines line ih =>
    rw [List.foldlM_append] at h
    obtain ⟨s₀, h₀, h⟩ := bind_ok.1 h
    rw [List.foldlM_cons] at h
    obtain ⟨s₁, h₁, h⟩ := bind_ok.1 h
    cases h
    exact (ih h₀).step h₁

/-! ## The report -/

/-- The first lines of an address are one line. -/
theorem first_unique {lines : List String} {i j : ℕ} {l k : String} {x y : Destination}
    (hl : lines[i]? = some l) (hx : matchSsh t l = some x) (hi : ¬ Seen t lines i x)
    (hk : lines[j]? = some k) (hy : matchSsh t k = some y) (hj : ¬ Seen t lines j y)
    (hhost : x.host = y.host) (hport : x.port = y.port) : x = y := by
  rcases Nat.lt_trichotomy i j with hlt | rfl | hgt
  · exact absurd ⟨i, hlt, l, x, hl, hx, hhost, hport⟩ hj
  · rw [hl] at hk
    cases hk
    rw [hx] at hy
    exact Option.some.inj hy
  · exact absurd ⟨j, hgt, k, y, hk, hy, hhost.symm, hport.symm⟩ hi

/-- Of items with different keys, one passes a test that only one key can pass. -/
theorem length_filter_one {α β : Type} {l : List α} {f : α → β} {p : α → Bool} {a : α}
    (hnodup : (l.map f).Nodup) (ha : a ∈ l) (hp : p a = true)
    (hkey : ∀ b ∈ l, p b = true → f b = f a) : (l.filter p).length = 1 := by
  have hall : ∀ b ∈ l.filter p, b = a := by
    intro b hb
    obtain ⟨hbl, hpb⟩ := List.mem_filter.1 hb
    exact List.inj_on_of_nodup_map hnodup hbl ha (hkey b hbl hpb)
  have hmem : a ∈ l.filter p := List.mem_filter.2 ⟨ha, hp⟩
  have hone : (l.filter p).Nodup := (List.Nodup.of_map f hnodup).filter p
  match hf : l.filter p with
  | [] =>
    rw [hf] at hmem
    cases hmem
  | [_] => rfl
  | b :: c :: rest =>
    rw [hf] at hall hone
    have hb := hall b List.mem_cons_self
    have hc := hall c (List.mem_cons_of_mem b List.mem_cons_self)
    rw [hb, hc] at hone
    exact absurd List.mem_cons_self (List.nodup_cons.1 hone).1

section

variable {contents : List String} {r : ImportReport}

/-- What a report is made of. -/
theorem import_ok (h : importServersFiles t d contents = .ok r) :
    ∃ s, Read t d (linesOf contents) s ∧ s.parsed ≠ [] ∧ r.endpoints.Perm s.parsed ∧
      r.duplicateAddresses = s.duplicateAddresses.dedup.insertionSort (· ≤ ·) ∧
      r.ignoredLines = s.ignored := by
  unfold importServersFiles at h
  obtain ⟨_, _, h⟩ := bind_ok.1 h
  obtain ⟨_, _, h⟩ := bind_ok.1 h
  obtain ⟨s, hs, h⟩ := bind_ok.1 h
  obtain ⟨_, hne, h⟩ := bind_ok.1 h
  cases h
  exact ⟨s, read_lines hs, require_ok.1 hne, List.perm_insertionSort _ _, rfl, rfl⟩

/-- A report accounts for every line. -/
theorem accounts (h : importServersFiles t d contents = .ok r) :
    Accounts t (linesOf contents) r := by
  obtain ⟨s, hread, _, hperm, hdup, hignored⟩ := import_ok h
  refine ⟨hignored.trans hread.ignored, ?_, ?_⟩
  · intro i line x hl hx hseen
    rw [hdup, List.mem_insertionSort, List.mem_dedup]
    exact hread.duplicate i line x hl hx hseen
  · intro i line x hl hx hseen
    obtain ⟨e, he, hat⟩ := hread.found i line x hl hx
    obtain ⟨j, k, y, hk, hy, hj, hfields, _⟩ := hread.first e he
    have haddress := at_iff.1 hat
    rw [hfields] at haddress
    have hxy : y = x := first_unique hk hy hj hl hx hseen haddress.1 haddress.2
    subst hxy
    rw [(hperm.filter _).length_eq]
    refine length_filter_one hread.nodup he ?_ ?_
    · rw [is_iff, hfields]
      exact ⟨⟨rfl, rfl⟩, rfl⟩
    · intro b _ hb
      obtain ⟨⟨hhost, hport⟩, _⟩ := is_iff.1 hb
      rw [hhost, hport, hfields]
      rfl

/-- The endpoints of a report have different ids exactly if lines of different addresses make
different ids. -/
theorem ids_nodup_iff (h : importServersFiles t d contents = .ok r) :
    (r.endpoints.map fun e => e.fields.val.id).Nodup ↔
      ∀ l ∈ linesOf contents, ∀ k ∈ linesOf contents, ∀ x y, matchSsh t l = some x →
        matchSsh t k = some y → endpointId x.host x.port = endpointId y.host y.port →
        x.host = y.host ∧ x.port = y.port := by
  obtain ⟨s, hread, _, hperm, _, _⟩ := import_ok h
  rw [(hperm.map _).nodup_iff]
  constructor
  · intro hnodup l hl k hk x y hx hy hid
    obtain ⟨i, hi⟩ := List.getElem?_of_mem hl
    obtain ⟨j, hj⟩ := List.getElem?_of_mem hk
    obtain ⟨e, he, hex⟩ := hread.found i l x hi hx
    obtain ⟨e', he', hey⟩ := hread.found j k y hj hy
    have hidOf : ∀ (e : Imported) (x : Destination), e ∈ s.parsed → e.at x = true →
        e.fields.val.id = endpointId x.host x.port := by
      intro e x he hat
      obtain ⟨_, _, z, _, _, _, hfields, _⟩ := hread.first e he
      have haddress := at_iff.1 hat
      rw [hfields] at haddress ⊢
      rw [← haddress.1, ← haddress.2]
      rfl
    have hsame : e = e' := List.inj_on_of_nodup_map hnodup he he'
      ((hidOf e x he hex).trans (hid.trans (hidOf e' y he' hey).symm))
    subst hsame
    have hx' := at_iff.1 hex
    have hy' := at_iff.1 hey
    exact ⟨hx'.1.symm.trans hy'.1, hx'.2.symm.trans hy'.2⟩
  · intro hsep
    refine List.Nodup.map_on ?_ (List.Nodup.of_map _ hread.nodup)
    intro e he e' he' hid
    obtain ⟨i, l, x, hl, hx, _, hfields, _⟩ := hread.first e he
    obtain ⟨j, k, y, hk, hy, _, hfields', _⟩ := hread.first e' he'
    rw [hfields, hfields'] at hid
    obtain ⟨hhost, hport⟩ :=
      hsep l (List.mem_of_getElem? hl) k (List.mem_of_getElem? hk) x y hx hy hid
    refine List.inj_on_of_nodup_map hread.nodup he he' ?_
    rw [hfields, hfields']
    exact Prod.ext hhost hport

/-- Different ids come of different addresses, also up to case. -/
theorem addresses_of_ids (h : importServersFiles t d contents = .ok r)
    (hids : (r.endpoints.map fun e => e.fields.val.id).Nodup) :
    (r.endpoints.map fun e => (lower e.fields.val.host, e.fields.val.port)).Nodup := by
  obtain ⟨s, hread, _, hperm, _, _⟩ := import_ok h
  refine List.Nodup.map_on ?_ (List.Nodup.of_map _ hids)
  intro e he e' he' hsame
  obtain ⟨_, _, x, _, _, _, hfields, _⟩ := hread.first e (hperm.mem_iff.1 he)
  obtain ⟨_, _, y, _, _, _, hfields', _⟩ := hread.first e' (hperm.mem_iff.1 he')
  refine List.inj_on_of_nodup_map hids he he' ?_
  obtain ⟨hhost, hport⟩ := Prod.mk.inj hsame
  rw [hfields, hfields'] at hhost hport ⊢
  change endpointId x.host x.port = endpointId y.host y.port
  change lower x.host = lower y.host at hhost
  change x.port = y.port at hport
  rw [endpointId, endpointId, hhost, hport]

/-- An import whose report is made is complete exactly if lines of different addresses make
different ids, and the projects are different and none is the broker's own. -/
theorem import_complete_iff {projects : List String}
    (h : importServersFiles t d contents = .ok r) :
    Complete t projects (linesOf contents) r ↔ Separate t d projects (linesOf contents) := by
  obtain ⟨s, hread, hne, hperm, _, _⟩ := import_ok h
  constructor
  · intro hc
    have haccepted := of_decide_eq_true hc.accepted
    refine ⟨(ids_nodup_iff h).1 hc.ids, haccepted.1, haccepted.2.1, ?_⟩
    obtain ⟨e, he⟩ := List.exists_mem_of_ne_nil _ hne
    obtain ⟨_, _, _, _, _, _, _, hprojects⟩ := hread.first e he
    rw [← hprojects]
    exact haccepted.2.2.2.2 e (hperm.mem_iff.2 he)
  · intro hsep
    have hids := (ids_nodup_iff h).2 hsep.ids
    refine ⟨accounts h, hids, addresses_of_ids h hids, decide_eq_true ?_⟩
    refine ⟨hsep.projects.1, hsep.projects.2.1, hids, ?_, ?_⟩
    · exact ((hperm.map _).nodup_iff).2 hread.nodup
    · intro e he
      obtain ⟨_, _, _, _, _, _, _, hprojects⟩ := hread.first e (hperm.mem_iff.1 he)
      rw [hprojects]
      exact hsep.projects.2.2

end

/-! ## Two hosts of one id -/

/-- `\d` and `\w`, of ASCII. -/
def asciiTables : Tables where
  decimal c := if c.isDigit then some (c.toNat - 48) else none
  word c := c.isAlphanum || c == '_'

def sampleDefaults : Defaults where
  projectIds := ["project-a"]
  workspacePath := "/srv/imported"

/-- Two servers that differ in a character the id leaves out. -/
def twoServers : List String := ["ssh -p 22 root@node.1\n# ssh -p 22 root@node-1\n"]

/-- One server, on two ports. -/
def twoPorts : List String := ["ssh -p 1111 root@10.0.0.1\n# ssh -p 2222 root@10.0.0.1\n"]

/-- What an import that does not raise returns. -/
theorem exists_report (contents : List String)
    (h : (importServersFiles asciiTables sampleDefaults contents).toBool = true) :
    ∃ r, importServersFiles asciiTables sampleDefaults contents = .ok r := by
  cases hr : importServersFiles asciiTables sampleDefaults contents with
  | error e =>
    rw [hr] at h
    cases h
  | ok r => exact ⟨r, rfl⟩

theorem import_complete_ports : ∃ r,
    importServersFiles asciiTables sampleDefaults twoPorts = .ok r ∧
      (Complete asciiTables ["project-a"] (linesOf twoPorts) r ↔
        Separate asciiTables sampleDefaults ["project-a"] (linesOf twoPorts)) := by
  obtain ⟨r, hr⟩ := exists_report twoPorts (by decide +kernel)
  exact ⟨r, hr, import_complete_iff hr⟩

/-- The inventory rejects the report of two servers whose ids are one. -/
theorem import_incomplete : ¬ ∀ (t : Tables) (d : Defaults) (projects contents : List String)
    (r : ImportReport), systemId ∉ projects ∧ projects.Nodup ∧ systemId ∉ d.projectIds →
    importServersFiles t d contents = .ok r → Complete t projects (linesOf contents) r := by
  intro h
  obtain ⟨r, hr⟩ := exists_report twoServers (by decide +kernel)
  have hcomplete := h asciiTables sampleDefaults ["project-a"] twoServers r (by decide) hr
  have hsame := (ids_nodup_iff hr).1 hcomplete.ids "ssh -p 22 root@node.1" (by decide +kernel)
    "# ssh -p 22 root@node-1" (by decide +kernel)
    { host := "node.1", port := 22, user := "root", digits := 2 }
    { host := "node-1", port := 22, user := "root", digits := 2 }
    (by decide +kernel) (by decide +kernel) (by decide +kernel)
  exact absurd hsame.1 (by decide)

end ServerPilot.Importer
