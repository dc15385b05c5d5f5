import ServerPilot.Spec.Scheduler

/-!
# A capacity stored and read back

What the collector accepts, the broker's check of the stored text accepts field by
field (`validate_encoded`), with one exception: a time that is on the calendar in its
own zone and off it in UTC. There the conversion overflows, and neither check catches
that: `capacity_round_trip_iff`.
-/

namespace ServerPilot.Scheduler

open Checked

variable {py : Readers} {value : Json} {c : Capacity} {n : SchedulerNode} {l : List SchedulerNode}

/-! ## What the collector accepts -/

theorem modelValidate_ok (h : modelValidate value = .ok n) : n.Valid := by
  unfold modelValidate at h
  split at h
  · split at h
    · dsimp only at h
      split at h
      · next hvalid =>
        cases h
        exact hvalid.1
      · cases h
    · cases h
  · cases h

/-- A node that is dumped is taken as it was. -/
theorem modelValidate_modelDump (h : n.Valid) : modelValidate n.modelDump = .ok n := by
  have hkeys : ["name", "state", "total_gpus", "allocated_gpus", "schedulable"] ⊆ nodeKeys :=
    List.Subset.refl _
  simp [modelValidate, SchedulerNode.modelDump, List.lookup_cons, h, hkeys]

theorem schedulerNodes_modelDump (h : schedulerNodes value = .ok l) :
    schedulerNodes (.list (l.map SchedulerNode.modelDump)) = .ok l := by
  unfold schedulerNodes at h
  split at h
  · simp only [bind_ok, require_ok, pure_ok] at h
    obtain ⟨nodes, hnodes, -, hnodup, rfl⟩ := h
    have hvalid : ∀ n ∈ nodes, n.Valid := fun n hn => by
      obtain ⟨item, -, hitem⟩ := mem_of_mapM_ok hnodes hn
      exact modelValidate_ok hitem
    have hback : (nodes.map SchedulerNode.modelDump).mapM modelValidate = .ok nodes := by
      clear hnodes hnodup
      induction nodes with
      | nil => rfl
      | cons n rest ih =>
        rw [List.map_cons, List.mapM_cons, modelValidate_modelDump (hvalid n List.mem_cons_self)]
        have hrest := ih fun m hm => hvalid m (List.mem_cons_of_mem _ hm)
        simp [hrest, bind, Except.bind, pure, Except.pure]
    unfold schedulerNodes
    simp only [bind_ok, require_ok, pure_ok]
    exact ⟨nodes, hback, (), hnodup, rfl⟩
  · cases h

/-- What the collector's check leaves of the checks to come. -/
structure Accepted (py : Readers) (c : Capacity) : Prop where
  free : 0 ≤ c.freeGpuCount
  gpuName : c.gpuName ≠ ""
  observedAt : ∀ t ∈ c.observedAt, ∃ d, py.fromisoformat (replaceZ t) = some d ∧ d.offset ≠ none
  largestFreeBlock : ∀ n ∈ c.largestFreeBlock, 0 ≤ n ∧ n ≤ c.freeGpuCount
  vramMib : ∀ n ∈ c.vramMib, 1 ≤ n
  maxGpusPerLease : ∀ n ∈ c.maxGpusPerLease, 1 ≤ n
  cpuCoresPerGpu : ∀ n ∈ c.cpuCoresPerGpu, 1 ≤ n
  memoryMibPerGpu : ∀ n ∈ c.memoryMibPerGpu, 1 ≤ n
  nodes : ∀ l ∈ c.nodes, schedulerNodes (.list (l.map SchedulerNode.modelDump)) = .ok l
  note : ∀ t ∈ c.note, t ≠ ""

theorem integer_ok {label : String} {minimum maximum n : ℤ}
    (h : integer label minimum maximum value = .ok n) : minimum ≤ n ∧ n ≤ maximum := by
  unfold integer at h
  dsimp only at h
  split at h
  · split at h
    · next hrange =>
      cases h
      exact hrange
    · cases h
  · cases h

theorem text_ok {label s : String} {maximum : ℕ} (h : text label maximum value = .ok s) :
    s ≠ "" := by
  unfold text at h
  split at h
  · split at h
    · cases h
    · next hlen =>
      split at h
      · cases h
      · cases h
        exact fun he => hlen (.inl he)
  · cases h

theorem observedAtText_ok {t : String} (h : observedAtText py value = .ok t) :
    ∃ d, py.fromisoformat (replaceZ t) = some d ∧ d.offset ≠ none := by
  unfold observedAtText at h
  dsimp only at h
  split at h
  · split at h
    · next d hd =>
      split at h
      · cases h
      · next hoffset =>
        cases h
        exact ⟨d, hd, hoffset⟩
    · cases h
  · cases h

theorem nodesField_ok (h : nodesField value = .ok l) :
    schedulerNodes (.list (l.map SchedulerNode.modelDump)) = .ok l := by
  unfold nodesField at h
  split at h
  · next hnodes =>
    cases h
    exact schedulerNodes_modelDump hnodes
  · cases h

theorem optional_ok {α : Type} {scheduler : Dict} {key : String} {read : Json → Except Raised α}
    {o : Option α} (h : optional scheduler key read = .ok o) :
    ∀ a ∈ o, ∃ value, read value = .ok a := by
  unfold optional at h
  split at h
  · cases h
    exact nofun
  · next value _ =>
    cases hread : read value with
    | error e =>
      rw [hread] at h
      cases h
    | ok a =>
      rw [hread] at h
      cases h
      intro b hb
      cases hb
      exact ⟨value, hread⟩

theorem nullableText_ok {label : String} {maximum : ℕ} {o : Option String}
    (h : nullableText label maximum value = .ok o) : ∀ t ∈ o, t ≠ "" := by
  unfold nullableText at h
  split at h
  · cases h
    exact nofun
  · cases hread : text label maximum value with
    | error e =>
      rw [hread] at h
      cases h
    | ok s =>
      rw [hread] at h
      cases h
      intro t ht
      cases ht
      exact text_ok hread

/-- **An accepted report** meets every condition the stored text is checked for. -/
theorem schedulerCapacity_ok (h : schedulerCapacity py value = .ok (some c)) : Accepted py c := by
  unfold schedulerCapacity at h
  split at h
  · cases h
  · simp only [bind_ok, require_ok, pure_ok, Option.some.injEq] at h
    obtain ⟨_, -, free, hfree, name, hname, note, hnote, at_, hat, largest, hlargest, -, hle, vram,
      hvram, most, hmost, cores, hcores, memory, hmemory, nodes, hnodes, rfl⟩ := h
    exact {
      free := (integer_ok hfree).1
      gpuName := text_ok hname
      observedAt := fun t ht => observedAtText_ok (optional_ok hat t ht).choose_spec
      largestFreeBlock := fun n hn =>
        ⟨(integer_ok (optional_ok hlargest n hn).choose_spec).1, hle n hn⟩
      vramMib := fun n hn => (integer_ok (optional_ok hvram n hn).choose_spec).1
      maxGpusPerLease := fun n hn => (integer_ok (optional_ok hmost n hn).choose_spec).1
      cpuCoresPerGpu := fun n hn => (integer_ok (optional_ok hcores n hn).choose_spec).1
      memoryMibPerGpu := fun n hn => (integer_ok (optional_ok hmemory n hn).choose_spec).1
      nodes := fun l hl => nodesField_ok (optional_ok hnodes l hl).choose_spec
      note := nullableText_ok hnote }

/-! ## What the broker stores -/

/-- The fields of the stored text. -/
def Capacity.stored (c : Capacity) : Dict :=
  (capacityKeys.filterMap fun key => (c.get? key).map (key, ·)).mergeSort fun x y => x.1 ≤ y.1

theorem stored_perm (c : Capacity) :
    c.stored.Perm (capacityKeys.filterMap fun key => (c.get? key).map (key, ·)) :=
  List.mergeSort_perm _ _

theorem stored_keys (c : Capacity) : c.stored.map Prod.fst ⊆ capacityKeys := by
  intro key hkey
  exact (keys_filterMap_keys c.get? capacityKeys).subset
    (((stored_perm c).map Prod.fst).mem_iff.1 hkey)

theorem stored_lookup (c : Capacity) {key : String} (hkey : key ∈ capacityKeys) :
    c.stored.lookup key = c.get? key := by
  have hnodup : (c.stored.map Prod.fst).Nodup :=
    ((stored_perm c).map Prod.fst).nodup_iff.2
      ((by decide : capacityKeys.Nodup).sublist (keys_filterMap_keys _ _))
  rw [lookup_perm (stored_perm c) hnodup, lookup_filterMap_keys, if_pos hkey]

/-- A field that is stored as `wrap` has it passes a check that undoes `wrap`. -/
theorem checked_stored {α : Type} {key : String} {read : Json → Option α} (wrap : α → Json)
    {o : Option α} (hkey : key ∈ capacityKeys) (hget : c.get? key = o.map wrap)
    (hread : ∀ a ∈ o, read (wrap a) = some a) : checked c.stored key read = .ok o := by
  unfold checked
  rw [stored_lookup c hkey, hget]
  cases o with
  | none => rfl
  | some a =>
    dsimp only [Option.map_some]
    rw [hread a rfl]
    rfl

theorem intFrom_int {minimum n : ℤ} (h : minimum ≤ n) : intFrom minimum (.int n) = some n :=
  if_pos h

theorem someText_text {t : String} (h : t ≠ "") : someText (.text t) = some t := if_neg h

/-! ## The time -/

theorem replaceZ_placeholder {t : String} (h : t ∈ ["", "Unknown", "N/A", "None"]) :
    replaceZ t = t := by
  simp only [List.mem_cons, List.not_mem_nil, or_false] at h
  rcases h with rfl | rfl | rfl | rfl <;> decide +kernel

/-- A time the collector takes is read, if it has an instant in UTC. -/
theorem externalDatetime_text {t : String} {d : Datetime}
    (hd : py.fromisoformat (replaceZ t) = some d) (hoffset : d.offset ≠ none) :
    externalDatetime py (some (.text t)) = some <$> ensureUtc d := by
  have hnot : t ∉ ["", "Unknown", "N/A", "None"] := by
    intro ht
    rw [replaceZ_placeholder ht, py.placeholders t ht] at hd
    cases hd
  refine (if_neg hnot).trans ?_
  rw [hd]
  exact if_neg hoffset

theorem ensureUtc_ok {d : Datetime} (hoffset : d.offset ≠ none) (h : d.InUtc) :
    ∃ d', ensureUtc d = .ok d' := by
  obtain ⟨o, ho⟩ := Option.ne_none_iff_exists'.1 hoffset
  unfold ensureUtc
  rw [ho]
  exact ⟨_, dif_pos (h o ho)⟩

theorem ensureUtc_overflow {d : Datetime} (h : ¬ d.InUtc) :
    ensureUtc d = .error (.overflow "date value out of range") := by
  unfold Datetime.InUtc at h
  push Not at h
  obtain ⟨o, ho, hrange⟩ := h
  unfold ensureUtc
  rw [Option.mem_def.1 ho]
  exact dif_neg fun hin => absurd hin.2 (not_lt.2 (hrange hin.1))

/-! ## The round trip -/

/-- The time of a capacity has an instant in UTC, if it has a time. -/
def Capacity.TimeInUtc (py : Readers) (c : Capacity) : Prop :=
  ∀ t ∈ c.observedAt, ∀ d, py.fromisoformat (replaceZ t) = some d → d.InUtc

/-- What storing and reading back owes: the same capacity, and a time each snapshot can read. -/
def RoundTrips (py : Readers) (c : Capacity) : Prop :=
  decodePluginCapacity py (encodePluginCapacity c) = .ok (some c) ∧
    ∃ at_, externalDatetime py (c.get? "observed_at") = .ok at_

/-- The stored time is taken again, if it has an instant in UTC. -/
theorem checkObservedAt_stored (hc : Accepted py c) (hutc : c.TimeInUtc py) :
    checkObservedAt py c.stored = .ok c.observedAt := by
  unfold checkObservedAt
  rw [stored_lookup c (by decide), show c.get? "observed_at" = c.observedAt.map .text from rfl]
  cases ht : c.observedAt with
  | none => rfl
  | some t =>
    obtain ⟨d, hd, hoffset⟩ := hc.observedAt t ht
    obtain ⟨d', hd'⟩ := ensureUtc_ok hoffset (hutc t ht d hd)
    dsimp only [Option.map_some]
    rw [externalDatetime_text hd hoffset, hd']
    rfl

/-- A time that has none ends the check with an error. -/
theorem checkObservedAt_overflow {t : String} {d : Datetime} (hc : Accepted py c)
    (ht : c.observedAt = some t) (hd : py.fromisoformat (replaceZ t) = some d) (hd' : ¬ d.InUtc) :
    checkObservedAt py c.stored = .error (some (.overflow "date value out of range")) := by
  obtain ⟨_, hd'', hoffset⟩ := hc.observedAt t ht
  cases hd.symm.trans hd''
  unfold checkObservedAt
  rw [stored_lookup c (by decide), show c.get? "observed_at" = c.observedAt.map .text from rfl, ht]
  dsimp only [Option.map_some]
  rw [externalDatetime_text hd hoffset, ensureUtc_overflow hd']
  rfl

/-- The fields before the time pass. -/
theorem validate_stored (hc : Accepted py c) {o : Check (Option String)}
    (ho : checkObservedAt py c.stored = o) :
    validate py c.stored = (o >>= fun observedAt => .ok { c with observedAt }) := by
  have hcount : (c.stored.lookup "free_gpu_count").bind (intFrom 0) = some c.freeGpuCount := by
    rw [stored_lookup c (by decide)]
    exact intFrom_int hc.free
  have hname : (c.stored.lookup "gpu_name").bind someText = some c.gpuName := by
    rw [stored_lookup c (by decide)]
    exact someText_text hc.gpuName
  have hlargest : checked c.stored "largest_free_block" (intFrom 0) = .ok c.largestFreeBlock :=
    checked_stored .int (by decide) rfl fun n hn => intFrom_int (hc.largestFreeBlock n hn).1
  have hvram : checked c.stored "vram_mib" (intFrom 1) = .ok c.vramMib :=
    checked_stored .int (by decide) rfl fun n hn => intFrom_int (hc.vramMib n hn)
  have hmost : checked c.stored "max_gpus_per_lease" (intFrom 1) = .ok c.maxGpusPerLease :=
    checked_stored .int (by decide) rfl fun n hn => intFrom_int (hc.maxGpusPerLease n hn)
  have hcores : checked c.stored "cpu_cores_per_gpu" (intFrom 1) = .ok c.cpuCoresPerGpu :=
    checked_stored .int (by decide) rfl fun n hn => intFrom_int (hc.cpuCoresPerGpu n hn)
  have hmemory : checked c.stored "memory_mib_per_gpu" (intFrom 1) = .ok c.memoryMibPerGpu :=
    checked_stored .int (by decide) rfl fun n hn => intFrom_int (hc.memoryMibPerGpu n hn)
  have hnote : checked c.stored "note" someText = .ok c.note :=
    checked_stored .text (by decide) rfl fun t ht => someText_text (hc.note t ht)
  have hnodes : checked c.stored "nodes" (fun value => (schedulerNodes value).toOption) =
      .ok c.nodes := by
    refine checked_stored (fun l => .list (l.map SchedulerNode.modelDump)) (by decide) rfl
      fun l hl => ?_
    rw [hc.nodes l hl]
    rfl
  unfold validate
  rw [require_bind_pos (stored_keys c), need_bind_some hcount, need_bind_some hname, ho]
  cases o with
  | error e => rfl
  | ok observedAt =>
    refine bind_ok.2 ⟨observedAt, rfl, ?_⟩
    simp only [bind_ok, require_ok, pure_ok]
    exact ⟨_, hlargest, (), fun n hn => (hc.largestFreeBlock n hn).2, _, hvram, _, hmost, _, hcores,
      _, hmemory, _, hnote, _, hnodes, rfl⟩

/-- What comes of a stored time that has no instant in UTC. -/
theorem decode_overflow {t : String} {d : Datetime} (hc : Accepted py c)
    (ht : c.observedAt = some t) (hd : py.fromisoformat (replaceZ t) = some d) (hd' : ¬ d.InUtc) :
    decodePluginCapacity py (encodePluginCapacity c) =
      .error (.overflow "date value out of range") := by
  change validatedPluginCapacity py c.stored = _
  unfold validatedPluginCapacity
  rw [validate_stored hc (checkObservedAt_overflow hc ht hd hd')]
  rfl

/-- **A stored capacity reads back**, and its time can be read, exactly if its time is on the
calendar in UTC. -/
theorem capacity_round_trip_iff (py : Readers) {value : Json} {c : Capacity}
    (h : schedulerCapacity py value = .ok (some c)) :
    RoundTrips py c ↔ c.TimeInUtc py := by
  have hc := schedulerCapacity_ok h
  constructor
  · rintro ⟨hback, -⟩ t ht d hd
    by_contra hout
    rw [decode_overflow hc ht hd hout] at hback
    cases hback
  · intro hutc
    refine ⟨?_, ?_⟩
    · change validatedPluginCapacity py c.stored = _
      unfold validatedPluginCapacity
      rw [validate_stored hc (checkObservedAt_stored hc hutc)]
      rfl
    · rw [show c.get? "observed_at" = c.observedAt.map .text from rfl]
      cases ht : c.observedAt with
      | none => exact ⟨none, rfl⟩
      | some t =>
        obtain ⟨d, hd, hoffset⟩ := hc.observedAt t ht
        obtain ⟨d', hd'⟩ := ensureUtc_ok hoffset (hutc t ht d hd)
        refine ⟨some d', ?_⟩
        dsimp only [Option.map_some]
        rw [externalDatetime_text hd hoffset, hd']
        rfl

theorem hour_lt_day : ∀ o ∈ some (3600 * 1000000 : ℤ),
    -(86400 * 1000000) < o ∧ o < 86400 * 1000000 := by
  intro o ho
  cases ho
  decide

/-- The first instant of the calendar, in a zone an hour ahead of UTC. -/
def firstInstant : Datetime where
  micros := 0
  offset := some (3600 * 1000000)
  in_calendar := by decide
  offset_lt := hour_lt_day

theorem newYear_in_calendar : (0 : ℤ) ≤ 739616 * 86400 * 1000000 ∧
    739616 * 86400 * 1000000 < calendarEnd := by
  decide

theorem utc_lt_day : ∀ o ∈ some (0 : ℤ), -(86400 * 1000000) < o ∧ o < 86400 * 1000000 := by
  intro o ho
  cases ho
  decide

/-- The instant that the first one of the year 2026 is in UTC. -/
def newYear : Datetime where
  micros := 739616 * 86400 * 1000000
  offset := some 0
  in_calendar := newYear_in_calendar
  offset_lt := utc_lt_day

/-- What is read of the two times of the examples. -/
def sampleReaders : Readers where
  fromisoformat t :=
    if t = "0001-01-01T00:00:00+01:00" then some firstInstant
    else if t = "2026-01-01T00:00:00+00:00" then some newYear
    else none
  int _ := none
  placeholders := by decide

/-- A report of eight free cards, made at this time. -/
def reportAt (t : String) : Json :=
  .object [("free_gpu_count", .int 8), ("gpu_name", .text "A100"), ("observed_at", .text t)]

/-- What the collector takes of it. -/
def eightAt (t : String) : Capacity :=
  { freeGpuCount := 8, gpuName := "A100", observedAt := some t }

theorem newYear_accepted : schedulerCapacity sampleReaders (reportAt "2026-01-01T00:00:00Z") =
    .ok (some (eightAt "2026-01-01T00:00:00Z")) := rfl

theorem firstInstant_accepted :
    schedulerCapacity sampleReaders (reportAt "0001-01-01T00:00:00+01:00") =
      .ok (some (eightAt "0001-01-01T00:00:00+01:00")) := rfl

theorem newYear_inUtc : newYear.InUtc := by
  intro o ho
  cases ho
  decide

theorem firstInstant_not_inUtc : ¬ firstInstant.InUtc := by
  intro h
  have hin := h _ rfl
  revert hin
  decide

/-- A report of this year comes back, one of the first hour of the calendar does not. -/
theorem newYear_round_trip :
    RoundTrips sampleReaders (eightAt "2026-01-01T00:00:00Z") ∧
      ¬ RoundTrips sampleReaders (eightAt "0001-01-01T00:00:00+01:00") := by
  refine ⟨(capacity_round_trip_iff sampleReaders newYear_accepted).2 ?_, fun hback => ?_⟩
  · intro t ht d hd
    cases ht
    have hread : sampleReaders.fromisoformat (replaceZ "2026-01-01T00:00:00Z") = some newYear := rfl
    cases hread.symm.trans hd
    exact newYear_inUtc
  · have hutc := (capacity_round_trip_iff sampleReaders firstInstant_accepted).1 hback
    exact firstInstant_not_inUtc (hutc _ rfl firstInstant rfl)

/-- **A time before the calendar begins in UTC** breaks the reading of what was stored. -/
theorem first_hour_overflows :
    ¬ ∀ py value c, schedulerCapacity py value = .ok (some c) → RoundTrips py c := by
  intro hall
  have hback := hall _ _ _ firstInstant_accepted
  have hraised := decode_overflow (schedulerCapacity_ok firstInstant_accepted) rfl rfl
    firstInstant_not_inUtc
  rw [RoundTrips, hraised] at hback
  cases hback.1

end ServerPilot.Scheduler
