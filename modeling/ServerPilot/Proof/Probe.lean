import ServerPilot.Proof.Scheduler
import ServerPilot.Spec.Probe

/-!
# A broken node breaks the snapshot

Reading one node raises what is caught around it, and three things that are not: an
`AttributeError` for an output that is no text, an `OverflowError` for a number that
reads as infinite, and a `csv.Error` for a field beyond the limit
(`parseProbeText_raises`). `isolates_iff`: a snapshot is read node by node, and all
that goes wrong with it raised as a `CollectionError`, exactly when the document
itself loads and no node that the loop comes to breaks.
-/

namespace ServerPilot.Collector

open Checked Scheduler

/-! ## What may be raised -/

/-- Whatever the computation raises is in `S`. -/
def Raises {ε α : Type} (S : ε → Prop) (x : Except ε α) : Prop := ∀ e, x = .error e → S e

section

variable {ε α β σ : Type} {S T : ε → Prop} {x : Except ε α}

theorem Raises.ok (a : α) : Raises S (.ok a : Except ε α) := fun _ h => by cases h

theorem Raises.pure (a : α) : Raises S (pure a : Except ε α) := fun _ h => by cases h

theorem Raises.error {e : ε} (h : S e) : Raises S (.error e : Except ε α) := by
  intro e' he
  cases he
  exact h

theorem Raises.throw {e : ε} (h : S e) : Raises S (throw e : Except ε α) := Raises.error h

theorem Raises.bind {f : α → Except ε β} (hx : Raises S x) (hf : ∀ a, Raises S (f a)) :
    Raises S (x >>= f) := by
  intro e he
  rcases bind_error.1 he with h | ⟨a, -, h⟩
  · exact hx e h
  · exact hf a e h

theorem Raises.require {c : Prop} [Decidable c] {e : ε} (h : S e) :
    Raises S (require c e) := by
  intro e' he
  rw [← (require_error.1 he).2]
  exact h

theorem Raises.need {o : Option α} {e : ε} (h : S e) : Raises S (need o e) := by
  cases o with
  | none => exact Raises.error h
  | some a => exact Raises.ok a

theorem Raises.ite {c : Prop} [Decidable c] {y : Except ε α} (hx : Raises S x)
    (hy : Raises S y) : Raises S (if c then x else y) := by
  split
  · exact hx
  · exact hy

/-- A fold raises what its steps raise. -/
theorem Raises.foldlM {f : σ → α → Except ε σ} (hf : ∀ s a, Raises S (f s a)) (l : List α)
    (s : σ) : Raises S (l.foldlM f s) := by
  induction l generalizing s with
  | nil => exact Raises.pure s
  | cons a l ih =>
    rw [List.foldlM_cons]
    exact (hf s a).bind ih

theorem Raises.mapM {f : α → Except ε β} (hf : ∀ a, Raises S (f a)) (l : List α) :
    Raises S (l.mapM f) := by
  induction l with
  | nil => exact Raises.pure _
  | cons a l ih =>
    rw [List.mapM_cons]
    exact (hf a).bind fun b => ih.bind fun bs => Raises.pure _

/-- The first element that a walk over a list fails at. -/
theorem mapM_error_iff {f : α → Except ε β} {l : List α} {e : ε} :
    l.mapM f = .error e ↔ ∃ pre a post, l = pre ++ a :: post ∧ (∀ x ∈ pre, ∃ b, f x = .ok b) ∧
      f a = .error e := by
  induction l with
  | nil =>
    simp only [List.mapM_nil, pure_error, false_iff]
    rintro ⟨pre, a, post, h, -⟩
    cases pre <;> cases h
  | cons a l ih =>
    rw [List.mapM_cons, bind_error]
    constructor
    · rintro (h | ⟨b, hb, h⟩)
      · exact ⟨[], a, l, rfl, by simp, h⟩
      · rcases bind_error.1 h with h | ⟨bs, -, h⟩
        · obtain ⟨pre, a', post, rfl, hpre, he⟩ := ih.1 h
          exact ⟨a :: pre, a', post, rfl, List.forall_mem_cons.2 ⟨⟨b, hb⟩, hpre⟩, he⟩
        · cases h
    · rintro ⟨pre, a', post, heq, hpre, he⟩
      cases pre with
      | nil =>
        cases heq
        exact Or.inl he
      | cons c pre =>
        obtain ⟨rfl, rfl⟩ := List.cons.inj heq
        obtain ⟨⟨b, hb⟩, hpre⟩ := List.forall_mem_cons.1 hpre
        exact Or.inr ⟨b, hb, bind_error.2 (Or.inl (ih.2 ⟨pre, a', post, rfl, hpre, he⟩))⟩

end

/-! ## The scheduler's part -/

/-- A `CollectionError`. -/
def Refused (e : Raised) : Prop := ∃ m, e = .collection m

section

variable {py : Readers} {α : Type}

theorem mapping_raises (value : Json) (label : String) (keys optionalKeys : List String) :
    Raises Refused (mapping value label keys optionalKeys) := by
  unfold mapping
  split
  · exact (Raises.ok _).ite (Raises.error ⟨_, rfl⟩)
  · exact Raises.error ⟨_, rfl⟩

theorem integer_raises (label : String) (minimum maximum : ℤ) (value : Json) :
    Raises Refused (integer label minimum maximum value) := by
  unfold integer
  split
  · exact (Raises.ok _).ite (Raises.error ⟨_, rfl⟩)
  · exact Raises.error ⟨_, rfl⟩

theorem text_raises (label : String) (maximum : ℕ) (value : Json) :
    Raises Refused (text label maximum value) := by
  unfold text
  split
  · exact (Raises.error ⟨_, rfl⟩).ite ((Raises.error ⟨_, rfl⟩).ite (Raises.ok _))
  · exact Raises.error ⟨_, rfl⟩

theorem map_raises {β : Type} {S : Raised → Prop} {x : Except Raised α} (f : α → β)
    (hx : Raises S x) : Raises S (f <$> x) := by
  cases x with
  | error e => exact Raises.error (hx e rfl)
  | ok a => exact Raises.ok _

theorem nullableText_raises (label : String) (maximum : ℕ) (value : Json) :
    Raises Refused (nullableText label maximum value) := by
  unfold nullableText
  split
  · exact Raises.ok _
  · exact map_raises _ (text_raises _ _ _)

theorem optional_raises {read : Json → Except Raised α} (h : ∀ v, Raises Refused (read v))
    (scheduler : Dict) (key : String) : Raises Refused (Scheduler.optional scheduler key read) := by
  unfold Scheduler.optional
  split
  · exact Raises.ok _
  · exact map_raises _ (h _)

theorem observedAtText_raises (value : Json) : Raises Refused (observedAtText py value) := by
  unfold observedAtText
  simp only
  split
  · split
    · exact (Raises.error ⟨_, rfl⟩).ite (Raises.ok _)
    · exact Raises.error ⟨_, rfl⟩
  · exact Raises.error ⟨_, rfl⟩

theorem nodesField_raises (value : Json) : Raises Refused (nodesField value) := by
  unfold nodesField
  split
  · exact Raises.ok _
  · exact Raises.error ⟨_, rfl⟩

/-- A capacity that is not accepted is a `CollectionError`. -/
theorem schedulerCapacity_raises (value : Json) :
    Raises Refused (schedulerCapacity py value) := by
  unfold schedulerCapacity
  split
  · exact Raises.ok _
  · refine (mapping_raises _ _ _ _).bind fun _ => (integer_raises _ _ _ _).bind fun _ => ?_
    refine (text_raises _ _ _).bind fun _ => (nullableText_raises _ _ _).bind fun _ => ?_
    refine (optional_raises observedAtText_raises _ _).bind fun _ => ?_
    refine (optional_raises (integer_raises _ _ _) _ _).bind fun _ => ?_
    refine (Raises.require ⟨_, rfl⟩).bind fun _ => ?_
    refine (optional_raises (integer_raises _ _ _) _ _).bind fun _ => ?_
    refine (optional_raises (integer_raises _ _ _) _ _).bind fun _ => ?_
    refine (optional_raises (integer_raises _ _ _) _ _).bind fun _ => ?_
    refine (optional_raises (integer_raises _ _ _) _ _).bind fun _ => ?_
    exact (optional_raises nodesField_raises _ _).bind fun _ => Raises.pure _

end

/-! ## One node -/

/-- The errors of a probe's text: those caught around the node, those of a reader of rows, and those
that reading a number raises. -/
structure Covers (py : Library) (S : Thrown → Prop) : Prop where
  collection : ∀ m, S (.collection m)
  value : ∀ m, S (.value m)
  csv : ∀ m, S (.csv m)
  int : ∀ v, Raises S (int py v)

section

variable {py : Library} {S : Thrown → Prop}

theorem overRows_raises {α : Type} {f : α → List String → Except Thrown α} (hc : ∀ m, S (.csv m))
    (hf : ∀ a row, Raises S (f a row)) (start : α) (raw : String) :
    Raises S (overRows f start raw) := by
  unfold overRows
  refine (Raises.foldlM hf _ _).bind fun _ => ?_
  exact (Raises.require (hc _)).bind fun _ => Raises.pure _

theorem pciBusKey_raises (h : Covers py S) (v : Option String) : Raises S (pciBusKey v) := by
  unfold pciBusKey
  simp only
  split
  · split
    · exact (Raises.ok _).ite (Raises.error (h.collection _))
    · exact Raises.error (h.collection _)
  · exact Raises.error (h.collection _)

theorem readGpuRow_raises (h : Covers py S) (observed : List Observed) (row : List String) :
    Raises S (readGpuRow py observed row) := by
  unfold readGpuRow
  refine (Raises.require (h.collection _)).bind fun _ => (h.int _).bind fun _ => ?_
  refine (h.int _).bind fun _ => (h.int _).bind fun _ => (h.int _).bind fun _ => ?_
  refine (pciBusKey_raises h _).bind fun _ => ?_
  split
  · refine (Raises.require (h.collection _)).bind fun _ => (h.int _).bind fun _ => ?_
    exact (h.int _).bind fun _ => (h.int _).bind fun _ => Raises.pure _
  · exact Raises.throw (h.collection _)

theorem parseGpuCsv_raises (h : Covers py S) (raw : String) : Raises S (parseGpuCsv py raw) := by
  unfold parseGpuCsv
  refine (overRows_raises h.csv (readGpuRow_raises h) _ _).bind fun _ => ?_
  refine (Raises.require (h.collection _)).bind fun _ => ?_
  exact (Raises.require (h.value _)).bind fun _ => Raises.pure _

theorem readProcessRow_raises (h : Covers py S) (apps : List ComputeApp) (row : List String) :
    Raises S (readProcessRow py apps row) := by
  unfold readProcessRow
  refine (h.int _).bind fun _ => (h.int _).bind fun _ => ?_
  split
  · exact Raises.pure _
  · exact Raises.throw (h.collection _)

theorem parseProcessCsv_raises (h : Covers py S) (raw : String) :
    Raises S (parseProcessCsv py raw) := by
  unfold parseProcessCsv
  exact (Raises.ok _).ite (overRows_raises h.csv (readProcessRow_raises h) _ _)

theorem parsePsOutput_raises (h : Covers py S) (raw : String) :
    Raises S (parsePsOutput py raw) := by
  have hline : ∀ line, Raises S (readPsLine py line) := by
    intro line
    unfold readPsLine
    split
    · refine (h.int _).bind fun pid => ?_
      cases pid <;> exact Raises.pure _
    · exact Raises.pure _
  unfold parsePsOutput
  exact (Raises.mapM hline _).bind fun _ => Raises.pure _

theorem parseIdentity_raises (h : Covers py S) (raw : String) : Raises S (parseIdentity raw) := by
  unfold parseIdentity
  split
  · exact Raises.ok _
  · exact Raises.error (h.collection _)

theorem parseCgroupCpuLine_raises (h : Covers py S) (tokens : List String) :
    Raises S (parseCgroupCpuLine py tokens) := by
  have hquota : ∀ token, Raises S (cgroupCpuQuota py token) := by
    intro token
    unfold cgroupCpuQuota
    refine (Raises.ok _).ite ((h.int _).bind fun _ => ?_)
    exact (Raises.require (h.collection _)).bind fun _ => Raises.pure _
  unfold parseCgroupCpuLine
  split
  · refine (hquota _).bind fun _ => (h.int _).bind fun _ => (h.int _).bind fun _ => ?_
    split
    · exact (Raises.require (h.collection _)).bind fun _ => Raises.pure _
    · exact Raises.throw (h.collection _)
  · exact Raises.throw (h.collection _)

theorem parseCgroupMemoryLine_raises (h : Covers py S) (tokens : List String) :
    Raises S (parseCgroupMemoryLine py tokens) := by
  unfold parseCgroupMemoryLine
  split
  · refine (h.int _).bind fun current => ?_
    cases current with
    | none => exact Raises.throw (h.collection _)
    | some current =>
      refine (Raises.require (h.collection _)).bind fun _ => ?_
      refine (Raises.pure _).ite ((h.int _).bind fun limit => ?_)
      cases limit with
      | none => exact Raises.throw (h.collection _)
      | some limit => exact (Raises.require (h.collection _)).bind fun _ => Raises.pure _
  · exact Raises.throw (h.collection _)

theorem readHostLine_raises (h : Covers py S) (s : HostLines) (line : String) :
    Raises S (readHostLine py s line) := by
  unfold readHostLine
  simp only
  refine Raises.ite ?_ ?_
  · refine (Raises.require (h.collection _)).bind fun _ => ?_
    exact (parseCgroupMemoryLine_raises h _).bind fun _ => Raises.pure _
  · split
    · refine (Raises.require (h.collection _)).bind fun _ => (h.int _).bind fun _ => ?_
      exact (h.int _).bind fun _ => Raises.pure _
    · refine (Raises.require (h.collection _)).bind fun _ => ?_
      exact (parseCgroupCpuLine_raises h _).bind fun _ => Raises.pure _
    · exact Raises.throw (h.collection _)

theorem parseHostResourceSnapshot_raises (h : Covers py S) (raw : String) :
    Raises S (parseHostResourceSnapshot py raw) := by
  unfold parseHostResourceSnapshot
  simp only
  split
  · refine (h.int _).bind fun _ => (Raises.foldlM (readHostLine_raises h) _ _).bind fun _ => ?_
    split
    · refine (h.int _).bind fun _ => (h.int _).bind fun _ => ?_
      split
      · exact (Raises.require (h.collection _)).bind fun _ => Raises.pure _
      · exact Raises.throw (h.collection _)
    · exact Raises.throw (h.collection _)
  · exact Raises.throw (h.collection _)

theorem parseCombinedProbe_raises (h : Covers py S) (raw : String) :
    Raises S (parseCombinedProbe raw) := by
  unfold parseCombinedProbe
  simp only
  refine (Raises.need (h.collection _)).bind fun _ => ?_
  refine (Raises.need (h.collection _)).bind fun _ => ?_
  refine (Raises.need (h.collection _)).bind fun _ => ?_
  refine (Raises.need (h.collection _)).bind fun _ => ?_
  refine (Raises.need (h.collection _)).bind fun _ => ?_
  exact (Raises.require (h.collection _)).bind fun _ => Raises.pure _

/-- **A probe's text** raises nothing else. -/
theorem parseProbeText_raises (h : Covers py S) (raw : String) (nodeId : Json)
    (observedAt : Datetime) : Raises S (parseProbeText py raw nodeId observedAt) := by
  unfold parseProbeText
  refine (parseCombinedProbe_raises h _).bind fun sections => ?_
  have hgpus : Raises S (probedGpus py (gpuProbeStatus sections.gpu) sections.gpu) :=
    (parseGpuCsv_raises h _).ite (Raises.ok _)
  have happs : Raises S (probedApps py (gpuProbeStatus sections.gpu) sections.process) :=
    (parseProcessCsv_raises h _).ite (Raises.ok _)
  refine hgpus.bind fun _ => happs.bind fun _ => ?_
  refine (parseIdentity_raises h _).bind fun _ => ?_
  refine (parseHostResourceSnapshot_raises h _).bind fun _ => ?_
  refine (parsePsOutput_raises h _).bind fun _ => ?_
  refine (Raises.require (h.value _)).bind fun _ => (Raises.need (h.value _)).bind fun _ => ?_
  exact (Raises.require (h.value _)).bind fun _ => Raises.pure _

/-- Besides what is caught, only a number that reads as infinite and an overlong field raise. -/
def Stumbles (e : Thrown) : Prop :=
  e.caught = true ∨ (∃ m, e = .raised (.overflow m)) ∨ ∃ m, e = .csv m

theorem covers_stumbles (py : Library) : Covers py Stumbles where
  collection _ := Or.inl rfl
  value _ := Or.inl rfl
  csv _ := Or.inr (Or.inr ⟨_, rfl⟩)
  int v := by
    unfold int
    split
    · exact Raises.ok _
    · split
      · exact Raises.ok _
      · exact Raises.error (Or.inr (Or.inl ⟨_, rfl⟩))
      · exact Raises.ok _
      · exact Raises.ok _

/-- **Finite numbers**: where no text reads as an infinite number, what is not caught is the reader
of rows. -/
theorem finite_raises (hfinite : ∀ s negative, py.float s ≠ some (.infinite negative))
    (raw : String) (nodeId : Json) (observedAt : Datetime) :
    Raises (fun e => e.caught = true ∨ ∃ m, e = .csv m)
      (parseProbeText py raw nodeId observedAt) := by
  refine parseProbeText_raises ⟨fun _ => Or.inl rfl, fun _ => Or.inl rfl,
    fun _ => Or.inr ⟨_, rfl⟩, fun v => ?_⟩ raw nodeId observedAt
  unfold int
  split
  · exact Raises.ok _
  · split
    · exact Raises.ok _
    · rename_i h
      exact absurd h (hfinite _ _)
    · exact Raises.ok _
    · exact Raises.ok _

end

/-! ## One entry -/

section

variable {py : Library} {α : Type} {x : Except Raised α} {e : Thrown} {entry : Json} {node : Dict}

theorem lifted_ok {a : α} : lifted x = .ok a ↔ x = .ok a := by
  unfold lifted
  cases x <;> simp [Except.mapError]

theorem lifted_error : lifted x = .error e ↔ ∃ r, x = .error r ∧ e = .raised r := by
  unfold lifted
  cases x <;> simp [Except.mapError, eq_comm]

/-- A `CollectionError`, from wherever. -/
def Collected (e : Thrown) : Prop := ∃ m, e = .collection m

theorem lifted_raises (hx : Raises Refused x) : Raises Collected (lifted x) := by
  intro e he
  obtain ⟨r, hr, rfl⟩ := lifted_error.1 he
  obtain ⟨m, rfl⟩ := hx r hr
  exact ⟨m, rfl⟩

theorem timestamp_raises (value : Json) (label : String) :
    Raises Collected (timestamp py value label) := by
  unfold timestamp
  refine (lifted_raises (text_raises _ _ _)).bind fun _ => ?_
  split
  · exact Raises.throw ⟨_, rfl⟩
  · exact (Raises.require ⟨_, rfl⟩).bind fun _ => Raises.pure _

theorem Collected.caught (h : Collected e) : e.caught = true := by
  obtain ⟨m, rfl⟩ := h
  rfl

theorem Collected.reported (h : Collected e) : e.reported = true := by
  obtain ⟨m, rfl⟩ := h
  rfl

theorem Stumbles.not_reported (h : Stumbles e) (hc : e.caught = false) : e.reported = false := by
  rcases h with h | ⟨m, rfl⟩ | ⟨m, rfl⟩
  · rw [h] at hc
    cases hc
  · rfl
  · rfl

/-- What escapes the reading of a probe escapes the snapshot's `except` as well. -/
theorem probeOf_uncaught (h : probeOf py node = .error e) (hc : e.caught = false) :
    e.reported = false ∧ ∃ observedAt,
      timestamp py (field node "observed_at") "node.observed_at" = .ok observedAt ∧
      ∀ raw, field node "output" = .text raw →
        parseProbeText py raw (field node "node_id") observedAt = .error e := by
  unfold probeOf at h
  rcases bind_error.1 h with h | ⟨observedAt, hat, h⟩
  · have hcaught := (timestamp_raises _ _ e h).caught
    rw [hcaught] at hc
    cases hc
  unfold parseRawNodeProbe at h
  split at h
  · rename_i raw hraw
    have hstumbles := parseProbeText_raises (covers_stumbles py) raw _ _ e h
    refine ⟨hstumbles.not_reported hc, observedAt, hat, fun raw' heq => ?_⟩
    rw [hraw] at heq
    cases heq
    exact h
  · rename_i hnot
    cases h
    exact ⟨rfl, observedAt, hat, fun raw heq => absurd heq (hnot raw)⟩

/-- **What goes wrong with an entry**: its form, or what is thrown inside its probe. -/
theorem readNode_error (h : readNode py entry = .error e) :
    Collected e ∨ ∃ node, lifted (mapping entry "node" nodeKeys []) = .ok node ∧
      isNull (field node "error_code") = true ∧ probeOf py node = .error e ∧
      e.caught = false := by
  unfold readNode at h
  rcases bind_error.1 h with h | ⟨node, hm, h⟩
  · exact Or.inl (lifted_raises (mapping_raises _ _ _ _) e h)
  split at h
  · rcases bind_error.1 h with h | ⟨u, -, h⟩
    · exact Or.inl ⟨_, (require_error.1 h).2.symm⟩
    · cases h
  · rename_i hnull
    unfold readProbe at h
    split at h
    · cases h
    · rename_i e' hprobe
      split at h
      · cases h
      · rename_i hc
        cases h
        exact Or.inr ⟨node, hm, by simpa using hnull, hprobe, by simpa using hc⟩

/-- The two ways of an output: none that is a text, or one with a number that reads as infinite or a
field over the limit of the reader of rows. -/
def Overruns (py : Library) (entry : Json) : Prop :=
  ∃ node observedAt, mapping entry "node" nodeKeys [] = .ok node ∧
    timestamp py (field node "observed_at") "node.observed_at" = .ok observedAt ∧
    ∀ raw, field node "output" = .text raw → ∃ m,
      parseProbeText py raw (field node "node_id") observedAt = .error (.csv m) ∨
        parseProbeText py raw (field node "node_id") observedAt = .error (.raised (.overflow m)) ∧
          ∃ s negative, py.float s = some (.infinite negative)

/-- **What breaks**: there is no third way. -/
theorem breaks_overruns (h : Breaks py entry) : Overruns py entry := by
  obtain ⟨node, observedAt, hm, -, hat, hraw⟩ := h
  refine ⟨node, observedAt, hm, hat, fun raw houtput => ?_⟩
  obtain ⟨e, he, hc⟩ := hraw raw houtput
  rcases parseProbeText_raises (covers_stumbles py) raw _ _ e he with h | ⟨m, rfl⟩ | ⟨m, rfl⟩
  · rw [h] at hc
    cases hc
  · refine ⟨m, Or.inr ⟨he, ?_⟩⟩
    by_contra hnone
    have hfinite : ∀ s negative, py.float s ≠ some (.infinite negative) :=
      fun s negative h => hnone ⟨s, negative, h⟩
    rcases finite_raises hfinite raw _ _ _ he with h | ⟨m', h⟩
    · cases h
    · cases h
  · exact ⟨m, Or.inl he⟩

/-- **Exactly the entries that break** raise what no `except` around them takes. -/
theorem breaks_iff :
    Breaks py entry ↔ ∃ e, readNode py entry = .error e ∧ e.reported = false := by
  constructor
  · rintro ⟨node, observedAt, hm, hnull, hat, hraw⟩
    have hprobe : ∃ e, probeOf py node = .error e ∧ e.caught = false := by
      unfold probeOf
      rw [hat]
      cases ho : field node "output" with
      | text raw => exact hraw raw ho
      | _ => exact ⟨_, rfl, rfl⟩
    obtain ⟨e, he, hc⟩ := hprobe
    refine ⟨e, ?_, (probeOf_uncaught he hc).1⟩
    unfold readNode
    refine bind_error.2 (Or.inr ⟨node, lifted_ok.2 hm, ?_⟩)
    rw [if_neg (by simp [hnull])]
    unfold readProbe
    rw [he]
    simp [hc]
  · rintro ⟨e, he, hr⟩
    rcases readNode_error he with h | ⟨node, hm, hnull, hprobe, hc⟩
    · rw [h.reported] at hr
      cases hr
    · obtain ⟨-, observedAt, hat, hraw⟩ := probeOf_uncaught hprobe hc
      exact ⟨node, observedAt, lifted_ok.1 hm, hnull, hat, fun raw heq => ⟨e, hraw raw heq, hc⟩⟩

/-- The other errors of an entry are `CollectionError`s. -/
theorem readNode_reported (h : readNode py entry = .error e) (hr : e.reported = true) :
    Collected e := by
  rcases readNode_error h with h | ⟨node, -, -, hprobe, hc⟩
  · exact h
  · rw [(probeOf_uncaught hprobe hc).1] at hr
    cases hr

end

/-! ## Probes -/

section

variable {py : Library} {node : Dict} {nodes : List Dict} {n : NodeObservation}

theorem probeOf_named (h : probeOf py node = .ok n) :
    nodeIdOf (field node "node_id") = some n.nodeId := by
  unfold probeOf parseRawNodeProbe at h
  obtain ⟨observedAt, -, h⟩ := bind_ok.1 h
  split at h
  · unfold parseProbeText at h
    simp only [bind_ok, need_ok, pure_ok] at h
    obtain ⟨-, -, -, -, -, -, -, -, -, -, -, -, -, -, id, hid, -, -, rfl⟩ := h
    exact hid
  · cases h

/-- A probe's entry is read as its probe is. -/
theorem readNode_probe (hp : ProbeEntry node) : readNode py (.object node) = readProbe py node := by
  have hm : lifted (mapping (.object node) "node" nodeKeys []) = .ok node := by
    refine lifted_ok.2 ?_
    unfold mapping
    simp only [List.append_nil]
    exact if_pos hp.fields
  unfold readNode
  rw [hm]
  refine (if_neg ?_ : _)
  simp [hp.succeeded]

theorem strip_length (s : String) : (strip s).length ≤ s.length := by
  unfold strip
  rw [String.length_ofList, List.length_reverse, ← String.length_toList]
  refine (List.dropWhile_sublist _).length_le.trans ?_
  rw [List.length_reverse]
  exact (List.dropWhile_sublist _).length_le

theorem cut_length (k : ℕ) (s : String) : (cut k s).length ≤ k := by
  unfold cut
  rw [String.length_ofList, List.length_take]
  exact Nat.min_le_left _ _

/-- The failure a caught error leaves passes its checks. -/
theorem check_caught {value : Json} {id : String} (h : nodeIdOf value = some id) (text : String) :
    ReportedFailure.check ⟨value, .text "parse_error", .text (cut 500 text)⟩ =
      .ok ⟨id, "parse_error", strip (cut 500 text)⟩ := by
  have hcode : strip "parse_error" = "parse_error" := by decide +kernel
  unfold ReportedFailure.check
  simp only [h, hcode]
  refine if_pos ⟨by decide, ?_⟩
  exact (strip_length _).trans (cut_length _ _)

/-- **Probes, one by one**: what is read of them, none of them breaking. -/
theorem reads_probes (hp : ∀ node ∈ nodes, ProbeEntry node)
    (hb : ∀ node ∈ nodes, ¬ Breaks py (.object node)) :
    ∃ read failures, (nodes.map Json.object).mapM (readNode py) = .ok read ∧
      (read.filterMap Sum.getRight?).mapM ReportedFailure.check = .ok failures ∧
      ((read.filterMap Sum.getLeft?).map (fun n => some n.nodeId) ++
        failures.map fun f => some f.nodeId).Perm
          (nodes.map fun node => nodeIdOf (field node "node_id")) ∧
      (∀ node ∈ nodes, ∀ n, probeOf py node = .ok n → n ∈ read.filterMap Sum.getLeft?) ∧
      ∀ node ∈ nodes, (∀ n, probeOf py node ≠ .ok n) →
        ∃ f ∈ failures, nodeIdOf (field node "node_id") = some f.nodeId := by
  induction nodes with
  | nil => exact ⟨[], [], rfl, rfl, .nil, by simp, by simp⟩
  | cons node nodes ih =>
    obtain ⟨hnode, hnodes⟩ := List.forall_mem_cons.1 hp
    obtain ⟨hbreak, hbreaks⟩ := List.forall_mem_cons.1 hb
    obtain ⟨read, failures, hread, hchecks, hperm, hok, herror⟩ := ih hnodes hbreaks
    obtain ⟨id, hid⟩ := Option.isSome_iff_exists.1 hnode.named
    have hone : ∀ r, readNode py (.object node) = .ok r →
        ((node :: nodes).map Json.object).mapM (readNode py) = .ok (r :: read) := by
      intro r hr
      rw [List.map_cons, List.mapM_cons, hr, hread]
      rfl
    cases h : probeOf py node with
    | ok n =>
      have hr : readNode py (.object node) = .ok (.inl n) := by
        rw [readNode_probe hnode]
        unfold readProbe
        rw [h]
      refine ⟨.inl n :: read, failures, hone _ hr, hchecks, ?_, ?_, ?_⟩
      · rw [List.map_cons, probeOf_named h]
        exact hperm.cons _
      · refine List.forall_mem_cons.2 ⟨fun n' hn' => ?_, fun x hx n' hn' => ?_⟩
        · rw [h] at hn'
          cases hn'
          exact List.mem_cons_self
        · exact List.mem_cons_of_mem _ (hok x hx n' hn')
      · exact List.forall_mem_cons.2 ⟨fun hnot => absurd h (hnot n), herror⟩
    | error e =>
      have hc : e.caught = true := by
        by_contra hc
        refine hbreak (breaks_iff.2 ⟨e, ?_, (probeOf_uncaught h (by simpa using hc)).1⟩)
        rw [readNode_probe hnode]
        unfold readProbe
        rw [h]
        exact if_neg hc
      have hr : readNode py (.object node) = .ok (.inr
          ⟨field node "node_id", .text "parse_error", .text (cut 500 e.text)⟩) := by
        rw [readNode_probe hnode]
        unfold readProbe
        rw [h]
        exact if_pos hc
      refine ⟨_, ⟨id, "parse_error", strip (cut 500 e.text)⟩ :: failures, hone _ hr, ?_, ?_, ?_, ?_⟩
      · rw [List.filterMap_cons_some (by rfl), List.mapM_cons, check_caught hid, hchecks]
        rfl
      · simp only [List.map_cons, hid]
        exact List.perm_middle.trans (hperm.cons _)
      · refine List.forall_mem_cons.2 ⟨fun n' hn' => ?_, hok⟩
        rw [h] at hn'
        cases hn'
      · refine List.forall_mem_cons.2 ⟨fun _ => ⟨_, List.mem_cons_self, hid⟩, fun x hx hnot => ?_⟩
        obtain ⟨f, hf, hfid⟩ := herror x hx hnot
        exact ⟨f, List.mem_cons_of_mem _ hf, hfid⟩

end

/-! ## The snapshot -/

section

variable {py : Library} {endpointId : String} {observedAt : Datetime} {snapshot s₀ : Dict}
  {entries : List Json} {o₀ o : EndpointObservation} {e : Thrown}
  {read : List (NodeObservation ⊕ ReportedFailure)} {failures : List NodeFailure}

theorem withNodes_keys (snapshot : Dict) (entries : List Json) :
    (withNodes snapshot entries).map Prod.fst = snapshot.map Prod.fst := by
  unfold withNodes
  rw [List.map_map]
  refine List.map_congr_left fun x _ => ?_
  simp only [Function.comp_apply]
  split <;> rfl

theorem field_withNodes_nodes {value : Json} (h : snapshot.lookup "nodes" = some value) :
    field (withNodes snapshot entries) "nodes" = .list entries := by
  unfold field
  have hlookup : (withNodes snapshot entries).lookup "nodes" = some (.list entries) := by
    unfold withNodes
    induction snapshot with
    | nil => cases h
    | cons x rest ih =>
      obtain ⟨k, v⟩ := x
      rw [lookup_cons_if] at h
      by_cases hk : k = "nodes"
      · subst hk
        rw [List.map_cons, if_pos rfl, lookup_cons_if, if_pos rfl]
      · rw [if_neg fun he => hk he.symm] at h
        rw [List.map_cons, if_neg hk, lookup_cons_if, if_neg fun he => hk he.symm]
        exact ih h
  rw [hlookup]
  rfl

theorem field_withNodes {key : String} (hkey : key ≠ "nodes") :
    field (withNodes snapshot entries) key = field snapshot key := by
  unfold field
  refine congrArg (Option.getD · Json.null) ?_
  unfold withNodes
  induction snapshot with
  | nil => rfl
  | cons x rest ih =>
    obtain ⟨k, v⟩ := x
    rw [List.map_cons, lookup_cons_if]
    by_cases hk : k = "nodes"
    · subst hk
      rw [if_pos rfl, lookup_cons_if, if_neg hkey, if_neg hkey]
      exact ih
    · rw [if_neg hk, lookup_cons_if]
      split
      · rfl
      · exact ih

/-- A snapshot that is accepted but for its nodes is accepted with nodes that are read. -/
theorem readFields_ok (h₀ : readFields py endpointId observedAt s₀ = .ok o₀)
    (hfields : ∀ key, key ≠ "nodes" → field snapshot key = field s₀ key)
    (hnodes : field snapshot "nodes" = .list entries) (hlen : entries.length ≤ 1024)
    (hread : entries.mapM (readNode py) = .ok read)
    (hchecks : (read.filterMap Sum.getRight?).mapM ReportedFailure.check = .ok failures)
    (hdistinct : ((read.filterMap Sum.getLeft?).map NodeObservation.nodeId ++
      failures.map NodeFailure.nodeId).Nodup) :
    ∃ o, readFields py endpointId observedAt snapshot = .ok o ∧
      o.nodes = read.filterMap Sum.getLeft? ∧ o.failures = failures := by
  unfold readFields observation at h₀
  simp only [bind_ok, require_ok, pure_ok] at h₀
  obtain ⟨version, hversion, -, -, -, -, scheduler, hscheduler, -,
    ⟨-, -, u, ⟨hlength, hoffset, hallocations, -⟩, -⟩, note, hnote, -⟩ := h₀
  have hlist : list (.list entries) "nodes" 1024 = .ok entries := if_pos hlen
  refine ⟨{ endpointId := strip endpointId, observedAt, nodes := read.filterMap Sum.getLeft?
            failures, scheduler, allocations := field snapshot "allocations" }, ?_, rfl, rfl⟩
  unfold readFields observation
  rw [hnodes, hfields "schema_version" (by decide), hfields "scheduler" (by decide),
    hfields "allocations" (by decide), hfields "implementation_version" (by decide)]
  simp only [bind_ok, require_ok, pure_ok]
  exact ⟨version, hversion, entries, hlist, read, hread, scheduler, hscheduler, _,
    ⟨failures, hchecks, u, ⟨hlength, hoffset, hallocations, hdistinct⟩, rfl⟩, note, hnote, rfl⟩

/-- What goes wrong in a document is reported, or an entry the loop comes to breaks. -/
theorem readSnapshot_error {payload : Json}
    (h : readSnapshot py endpointId observedAt payload = .error e) :
    (Collected e ∨ ∃ m, e = .value m) ∨
      e.reported = false ∧ ∃ entry, Reaches py payload entry ∧ Breaks py entry := by
  unfold readSnapshot at h
  rcases bind_error.1 h with h | ⟨snapshot, hsnapshot, h⟩
  · exact Or.inl (Or.inl (lifted_raises (mapping_raises _ _ _ _) e h))
  unfold readFields at h
  rcases bind_error.1 h with h | ⟨version, hversion, h⟩
  · exact Or.inl (Or.inl (lifted_raises (integer_raises _ _ _ _) e h))
  rcases bind_error.1 h with h | ⟨entries, hentries, h⟩
  · refine Or.inl (Or.inl ?_)
    unfold list at h
    split at h
    · split at h
      · cases h
      · cases h
        exact ⟨_, rfl⟩
    · cases h
      exact ⟨_, rfl⟩
  rcases bind_error.1 h with h | ⟨read, -, h⟩
  · obtain ⟨pre, entry, post, heq, hpre, he⟩ := mapM_error_iff.1 h
    cases hr : e.reported with
    | true => exact Or.inl (Or.inl (readNode_reported he hr))
    | false =>
      exact Or.inr ⟨rfl, entry, ⟨snapshot, version, entries, pre, post, lifted_ok.1 hsnapshot,
        lifted_ok.1 hversion, hentries, heq, hpre⟩, breaks_iff.2 ⟨e, he, hr⟩⟩
  refine Or.inl ?_
  rcases bind_error.1 h with h | ⟨scheduler, -, h⟩
  · exact Or.inl (lifted_raises (schedulerCapacity_raises _) e h)
  rcases bind_error.1 h with h | ⟨o, -, h⟩
  · refine Or.inr ?_
    unfold observation at h
    rcases bind_error.1 h with h | ⟨failures, -, h⟩
    · obtain ⟨-, f, -, -, -, he⟩ := mapM_error_iff.1 h
      unfold ReportedFailure.check at he
      split at he
      · split at he
        · cases he
        · cases he
          exact ⟨_, rfl⟩
      · cases he
        exact ⟨_, rfl⟩
    · rcases bind_error.1 h with h | ⟨u, -, h⟩
      · exact ⟨_, (require_error.1 h).2.symm⟩
      · cases h
  rcases bind_error.1 h with h | ⟨note, -, h⟩
  · exact Or.inl (lifted_raises (nullableText_raises _ _ _) e h)
  · cases h

/-- An entry that breaks ends the reading of its document. -/
theorem reaches_error {payload entry : Json} (hr : Reaches py payload entry)
    (hb : Breaks py entry) :
    ∃ e, readSnapshot py endpointId observedAt payload = .error e ∧ e.reported = false := by
  obtain ⟨snapshot, version, entries, pre, post, hsnapshot, hversion, hentries, heq, hpre⟩ := hr
  obtain ⟨e, he, hnot⟩ := breaks_iff.1 hb
  refine ⟨e, ?_, hnot⟩
  unfold readSnapshot
  refine bind_error.2 (Or.inr ⟨snapshot, lifted_ok.2 hsnapshot, ?_⟩)
  unfold readFields
  refine bind_error.2 (Or.inr ⟨version, lifted_ok.2 hversion, ?_⟩)
  refine bind_error.2 (Or.inr ⟨entries, hentries, ?_⟩)
  exact bind_error.2 (Or.inl (mapM_error_iff.2 ⟨pre, entry, post, heq, hpre, he⟩))

end

/-! ## What a server script prints -/

section

variable {py : Library} {raw endpointId : String} {observedAt : Datetime} {snapshot : Dict}
  {nodes : List Dict} {payload : Json}

theorem snapshot_parsed (hsize : raw.utf8ByteSize ≤ 1048576)
    (hload : py.loads noDuplicateJsonObject rejectJsonConstant raw = .ok payload) :
    parseServerScriptSnapshot py raw endpointId observedAt =
      match readSnapshot py endpointId observedAt payload with
      | .ok o => .ok o
      | .error (.raised (.value m)) => .error (.collection ("invalid node observation: " ++ m))
      | .error (.raised (.type m)) => .error (.collection ("invalid node observation: " ++ m))
      | .error e => .error e := by
  unfold parseServerScriptSnapshot
  rw [if_neg (not_lt.2 hsize), hload]
  rfl

/-- An error that is not reported gets through. -/
theorem unreported_parsed {e : Thrown} (hsize : raw.utf8ByteSize ≤ 1048576)
    (hload : py.loads noDuplicateJsonObject rejectJsonConstant raw = .ok payload)
    (he : readSnapshot py endpointId observedAt payload = .error e) (hr : e.reported = false) :
    parseServerScriptSnapshot py raw endpointId observedAt = .error e := by
  rw [snapshot_parsed hsize hload, he]
  cases e with
  | raised e => cases e <;> first | rfl | cases hr
  | csv m => rfl
  | recursion => rfl

/-- An answer is what was read of the document. -/
theorem parsed_ok {o : EndpointObservation} (hsize : raw.utf8ByteSize ≤ 1048576)
    (hload : py.loads noDuplicateJsonObject rejectJsonConstant raw = .ok payload)
    (h : parseServerScriptSnapshot py raw endpointId observedAt = .ok o) :
    readSnapshot py endpointId observedAt payload = .ok o := by
  rw [snapshot_parsed hsize hload] at h
  cases hread : readSnapshot py endpointId observedAt payload with
  | ok o' =>
    rw [hread] at h
    exact h
  | error e =>
    rw [hread] at h
    split at h
    · rename_i heq
      cases heq
    · cases h
    · cases h
    · cases h

/-- The keys of a snapshot whose other fields are accepted are checked without its nodes. -/
theorem holds_rest (h : Holds py endpointId observedAt snapshot nodes) :
    (∀ s : Dict, s.map Prod.fst = snapshot.map Prod.fst → mapping (.object s) "snapshot"
      ["schema_version", "nodes", "scheduler", "allocations"] ["implementation_version"] = .ok s) ∧
      ∃ o, readFields py endpointId observedAt (withNodes snapshot []) = .ok o := by
  obtain ⟨o, ho⟩ := h.rest
  unfold readSnapshot at ho
  obtain ⟨s₀, hs₀, ho⟩ := bind_ok.1 ho
  rw [lifted_ok] at hs₀
  unfold mapping at hs₀
  simp only [withNodes_keys] at hs₀
  split at hs₀
  · rename_i hk
    obtain rfl := Except.ok.inj hs₀
    refine ⟨fun s hs => ?_, o, ho⟩
    unfold mapping
    simp only [hs]
    exact if_pos hk
  · cases hs₀

theorem holds_field (h : Holds py endpointId observedAt snapshot nodes) :
    field snapshot "nodes" = .list (nodes.map .object) := by
  unfold field
  rw [h.entries]
  rfl

/-- The loop comes to every probe before the first that breaks. -/
theorem unbroken_probes (h : Holds py endpointId observedAt snapshot nodes)
    (hlen : nodes.length ≤ 1024)
    (hunbroken : ∀ entry, Reaches py (.object snapshot) entry → ¬ Breaks py entry) :
    ∀ node ∈ nodes, ¬ Breaks py (.object node) := by
  cases hread : (nodes.map Json.object).mapM (readNode py) with
  | ok read =>
    intro node hm hb
    obtain ⟨e, he, -⟩ := breaks_iff.1 hb
    obtain ⟨r, -, hr⟩ := Checked.exists_of_forall₂ (mapM_ok hread).flip
      (List.mem_map_of_mem (f := Json.object) hm)
    rw [he] at hr
    cases hr
  | error e =>
    obtain ⟨pre, entry, post, heq, hpre, he⟩ := mapM_error_iff.1 hread
    obtain ⟨node, hm, rfl⟩ : ∃ node ∈ nodes, Json.object node = entry := by
      have hentry : entry ∈ nodes.map Json.object := by
        rw [heq]
        simp
      exact List.mem_map.1 hentry
    obtain ⟨hkeys, o, ho⟩ := holds_rest h
    unfold readFields at ho
    obtain ⟨version, hversion, -⟩ := bind_ok.1 ho
    rw [lifted_ok, field_withNodes (by decide)] at hversion
    have hlist : list (field snapshot "nodes") "nodes" 1024 = .ok (nodes.map .object) := by
      rw [holds_field h]
      exact if_pos (by simpa using hlen)
    refine absurd (breaks_iff.2 ⟨e, he, ?_⟩) (hunbroken _ ⟨snapshot, version, _, pre, post,
      hkeys snapshot rfl, hversion, hlist, heq, hpre⟩)
    rw [readNode_probe (h.probes node hm)] at he
    unfold readProbe at he
    split at he
    · cases he
    · rename_i e' hprobe
      split at he
      · cases he
      · rename_i hc
        cases he
        exact (probeOf_uncaught hprobe (by simpa using hc)).1

/-- **Every probe gets its place** in a snapshot none of whose probes breaks. -/
theorem holds_nodes (h : Holds py endpointId observedAt snapshot nodes)
    (hlen : nodes.length ≤ 1024) (hb : ∀ node ∈ nodes, ¬ Breaks py (.object node)) :
    ∃ o, readSnapshot py endpointId observedAt (.object snapshot) = .ok o ∧
      NodeByNode py endpointId observedAt snapshot nodes o := by
  obtain ⟨hkeys, o₀, h₀⟩ := holds_rest h
  obtain ⟨read, failures, hread, hchecks, hperm, hok, herror⟩ :=
    reads_probes h.probes hb
  have hdistinct : ((read.filterMap Sum.getLeft?).map NodeObservation.nodeId ++
      failures.map NodeFailure.nodeId).Nodup := by
    refine List.Nodup.of_map some ?_
    rw [List.map_append, List.map_map, List.map_map]
    exact hperm.nodup_iff.2 h.distinct
  obtain ⟨o, ho, honodes, hofailures⟩ := readFields_ok h₀
    (fun key hkey => (field_withNodes hkey).symm) (holds_field h) (by simpa using hlen) hread
    hchecks hdistinct
  refine ⟨o, ?_, ?_, ?_, ?_⟩
  · unfold readSnapshot
    rw [hkeys snapshot rfl]
    exact ho
  · intro node hm n hn
    refine ⟨honodes ▸ hok node hm n hn, ?_⟩
    have hone : [Json.object node].mapM (readNode py) = .ok [.inl n] := by
      have hr : readNode py (.object node) = .ok (.inl n) := by
        rw [readNode_probe (h.probes node hm)]
        unfold readProbe
        rw [hn]
      rw [List.mapM_cons, hr]
      rfl
    obtain ⟨alone, halone, hanodes, -⟩ := readFields_ok h₀
      (fun key hkey => (field_withNodes hkey).trans (field_withNodes hkey).symm)
      (field_withNodes_nodes h.entries) (by simp) hone rfl (by simp)
    refine ⟨alone, ?_, hanodes⟩
    unfold readSnapshot
    rw [hkeys _ (withNodes_keys snapshot _)]
    exact halone
  · intro node hm hnot
    rw [hofailures]
    exact herror node hm hnot
  · have hlength := hperm.length_eq
    rw [List.length_append, List.length_map, List.length_map, List.length_map] at hlength
    rw [honodes, hofailures]
    exact hlength

/-- **Node by node**: a snapshot is read node by node, and whatever is wrong with it is a
`CollectionError`, exactly when the document loads and no node the loop comes to breaks; and what
breaks has an output that is no text, or that overruns. -/
theorem isolates_iff (py : Library) (raw endpointId : String) (observedAt : Datetime) :
    (Isolates py raw endpointId observedAt ↔
      (raw.utf8ByteSize ≤ 1048576 → Unbroken py raw endpointId observedAt)) ∧
      ∀ entry, Breaks py entry → Overruns py entry := by
  refine ⟨?_, fun entry h => breaks_overruns h⟩
  constructor
  · intro h hsize
    refine ⟨fun e he => ?_, fun payload hload entry hr hb => ?_, fun snapshot nodes hload hh => ?_⟩
    · by_contra hnot
      have hparsed : parseServerScriptSnapshot py raw endpointId observedAt = .error e := by
        unfold parseServerScriptSnapshot
        rw [if_neg (not_lt.2 hsize), he]
        cases e with
        | raised e => cases e <;> first | rfl | exact absurd rfl hnot
        | csv m => rfl
        | recursion => rfl
      exact hnot (Collected.reported (h.collected e hparsed))
    · obtain ⟨e, he, hnot⟩ : ∃ e, readSnapshot py endpointId observedAt payload = .error e ∧
          e.reported = false := reaches_error hr hb
      have hreported := Collected.reported (h.collected e (unreported_parsed hsize hload he hnot))
      rw [hreported] at hnot
      cases hnot
    · obtain ⟨o, ho, -⟩ := h.nodes hsize snapshot nodes hload hh
      have hread := parsed_ok hsize hload ho
      unfold readSnapshot at hread
      obtain ⟨s, hs, hread⟩ := bind_ok.1 hread
      rw [lifted_ok, (holds_rest hh).1 snapshot rfl] at hs
      obtain rfl := Except.ok.inj hs
      unfold readFields at hread
      obtain ⟨-, -, hread⟩ := bind_ok.1 hread
      obtain ⟨entries, hentries, -⟩ := bind_ok.1 hread
      rw [holds_field hh] at hentries
      unfold list at hentries
      simp only at hentries
      split at hentries
      · rename_i hlen
        simpa using hlen
      · cases hentries
  · intro h
    by_cases hsize : raw.utf8ByteSize ≤ 1048576
    · have h := h hsize
      refine ⟨fun e he => ?_, fun _ snapshot nodes hload hh => ?_⟩
      · cases hload : py.loads noDuplicateJsonObject rejectJsonConstant raw with
        | error e' =>
          have hr := h.document e' hload
          unfold parseServerScriptSnapshot at he
          rw [if_neg (not_lt.2 hsize), hload] at he
          cases e' with
          | raised e' => cases e' <;> first | (cases he; exact ⟨_, rfl⟩) | cases hr
          | csv m => cases hr
          | recursion => cases hr
        | ok payload =>
          cases hread : readSnapshot py endpointId observedAt payload with
          | ok o =>
            rw [snapshot_parsed hsize hload, hread] at he
            cases he
          | error e' =>
            rcases readSnapshot_error hread with (⟨m, rfl⟩ | ⟨m, rfl⟩) | ⟨-, entry, hr, hb⟩
            · rw [snapshot_parsed hsize hload, hread] at he
              cases he
              exact ⟨_, rfl⟩
            · rw [snapshot_parsed hsize hload, hread] at he
              cases he
              exact ⟨_, rfl⟩
            · exact absurd hb (h.entries payload hload entry hr)
      · have hlen := h.bounded snapshot nodes hload hh
        obtain ⟨o, ho, hnode⟩ := holds_nodes hh hlen
          (unbroken_probes hh hlen (h.entries _ hload))
        refine ⟨o, ?_, hnode⟩
        rw [snapshot_parsed hsize hload, ho]
    · refine ⟨fun e he => ?_, fun hs => absurd hs hsize⟩
      unfold parseServerScriptSnapshot at he
      rw [if_pos (not_le.1 hsize)] at he
      cases he
      exact ⟨_, rfl⟩

end

/-! ## An output that is no text -/

/-- A node without an error, and without an output. -/
def brokenDocument : Dict :=
  [("schema_version", .int 3),
   ("nodes", .list [.object
     [("node_id", .text "a"), ("observed_at", .text "2026-01-01T00:00:00Z"), ("output", .null),
      ("error_code", .null), ("message", .null)]]),
   ("scheduler", .null), ("allocations", .list [])]

/-- The document as it is printed. -/
def brokenText : String :=
  "\x7b\"schema_version\":3,\"nodes\":[\x7b\"node_id\":\"a\",\"observed_at\":" ++
    "\"2026-01-01T00:00:00Z\",\"output\":null,\"error_code\":null,\"message\":null\x7d]," ++
    "\"scheduler\":null,\"allocations\":[]\x7d"

/-- What the library makes of this text, and of the time in it. -/
def sampleLibrary : Library where
  loads hook _ text :=
    if text = brokenText then hook brokenDocument else .error (.value "Expecting value")
  float _ := none
  strptime _ := none
  readers := sampleReaders
  allocations value :=
    match value with
    | .list [] => true
    | _ => false

theorem brokenText_size : brokenText.utf8ByteSize ≤ 1048576 := by decide +kernel

theorem brokenText_loads :
    sampleLibrary.loads noDuplicateJsonObject rejectJsonConstant brokenText =
    .ok (.object brokenDocument) := by
  unfold sampleLibrary
  simp only
  rw [if_pos trivial]
  exact if_pos (by decide +kernel)

theorem brokenDocument_raises :
    readSnapshot sampleLibrary "alpha" newYear (.object brokenDocument) =
      .error (.raised (.attribute "object has no attribute 'split'")) := rfl

/-- **One output of `null`** and the whole snapshot ends in an `AttributeError`. -/
theorem null_output_escapes :
    ¬ ∀ (py : Library) (raw endpointId : String) (observedAt : Datetime),
      Isolates py raw endpointId observedAt := by
  intro h
  obtain ⟨m, hm⟩ := (h sampleLibrary brokenText "alpha" newYear).collected _
    (unreported_parsed brokenText_size brokenText_loads brokenDocument_raises rfl)
  cases hm

end ServerPilot.Collector
