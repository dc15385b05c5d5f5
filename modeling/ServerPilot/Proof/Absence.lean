import ServerPilot.Proof.Fleet
import ServerPilot.Proof.Ownership
import ServerPilot.Proof.Plants

/-!
# When a process is gone

A process leaves the inventory when its keeper is stopped, when its server or its row is deleted,
or because complete looks at its node missed it for the whole grace. `Turn` says what a transaction
makes of one row (`exec_turn`), `missed_since` what lies behind a clock that runs, and
`gone_after_grace` is the history of every process that was taken for gone.
-/

namespace ServerPilot

open Rows Checked

/-- The row of a process. -/
def Plant.process? (p : Plant) (k : String × ℕ × String × Time) : Option ProcessObservation :=
  row? ProcessObservation.identity k p.processes

/-- A process just seen. -/
structure ProcessObservation.Current (now : Time) (q : ProcessObservation) : Prop where
  active : q.active = true
  present : q.absentSince = none
  seen : q.lastSeenAt = now

/-- A row as it was, or one just seen. -/
def Seen (now : Time) (r r' : Option ProcessObservation) : Prop :=
  r' = r ∨ ∃ q, r' = some q ∧ q.Current now

section

variable {now : Time} {r r' r'' : Option ProcessObservation} {q : ProcessObservation}

theorem Seen.refl (now : Time) (r : Option ProcessObservation) : Seen now r r := Or.inl rfl

theorem Seen.trans (a : Seen now r r') (b : Seen now r' r'') : Seen now r r'' := by
  rcases b with rfl | b
  · exact a
  · exact Or.inr b

theorem Seen.current (h : Seen now (some q) r') (hq : q.Current now) :
    ∃ q', r' = some q' ∧ q'.Current now := by
  rcases h with rfl | h
  · exact ⟨q, rfl, hq⟩
  · exact h

end

/-! ## Sightings -/

section

variable {e n boot : String} {uuids : List String} {now : Time} {p : Plant} {x : ProcessInput}
  {k : String × ℕ × String × Time} {q : ProcessObservation}

/-- The identity a reported process has. -/
def ProcessInput.identity (e n boot : String) (x : ProcessInput) : String × ℕ × String × Time :=
  (gpuIdOf e n x.gpuUuid, x.pid, boot, x.processStartedAt)

theorem sighted_current (now : Time) (x : ProcessInput) (q : ProcessObservation) :
    (q.sighted now x).Current now := ⟨rfl, rfl, rfl⟩

/-- The row a sighting refreshes, as far as one identity goes. -/
theorem process?_refreshed (now : Time) (p : Plant) (x : ProcessInput)
    (k : String × ℕ × String × Time) (i : String × ℕ × String × Time) :
    row? ProcessObservation.identity k (updWhere (fun q => q.identity = i)
      (ProcessObservation.sighted now x) p.processes) =
      (p.process? k).map fun q => if q.identity = i then q.sighted now x else q := by
  rw [row?_updWhere (f := ProcessObservation.sighted now x) fun _ => rfl]
  simp only [decide_eq_true_eq]
  rfl

theorem sight_seen : Seen now (p.process? k) ((p.sight e n boot uuids now x).process? k) := by
  unfold Plant.sight
  split
  · exact .refl _ _
  simp only
  split
  · rename_i row _
    have h := process?_refreshed now p x k row.identity
    cases hr : p.process? k with
    | none =>
      rw [hr] at h
      exact Or.inl h
    | some q =>
      rw [hr, Option.map_some] at h
      by_cases hq : q.identity = row.identity
      · rw [if_pos hq] at h
        exact Or.inr ⟨_, h, sighted_current _ _ _⟩
      · rw [if_neg hq] at h
        exact Or.inl h
  · -- a new row, behind the others
    unfold Plant.process?
    simp only
    rw [row?_append]
    cases hr : row? ProcessObservation.identity k p.processes with
    | some q => exact Or.inl rfl
    | none =>
      rw [Option.none_or]
      cases hnew : row? ProcessObservation.identity k _ with
      | none => exact Or.inl rfl
      | some q =>
        obtain ⟨hmem, -⟩ := row?_some hnew
        rw [List.mem_singleton] at hmem
        subst hmem
        exact Or.inr ⟨_, rfl, ⟨rfl, rfl, rfl⟩⟩

/-- A process reported under its own identity is seen. -/
theorem sight_exact (now : Time) (hx : x.gpuUuid ∈ uuids) (hk : x.identity e n boot = k)
    (hr : p.process? k = some q) :
    ∃ q', (p.sight e n boot uuids now x).process? k = some q' ∧ q'.Current now := by
  have hsame : p.processes.find? (fun q => q.identity =
      (gpuIdOf e n x.gpuUuid, x.pid, boot, x.processStartedAt)) = some q := by
    rw [← hk] at hr
    exact hr
  have hrow : p.sightedRow (gpuIdOf e n x.gpuUuid) boot x = some q := by
    unfold Plant.sightedRow
    simp only [hsame, Option.some_or]
  have hid : q.identity = k := (row?_some hr).2
  unfold Plant.sight
  rw [if_neg (not_not.2 hx)]
  simp only [hrow]
  refine ⟨q.sighted now x, ?_, sighted_current _ _ _⟩
  have h := process?_refreshed now p x k q.identity
  rw [hr, Option.map_some, if_pos rfl] at h
  exact h

theorem sights_seen (e n boot : String) (uuids : List String) (now : Time) (p : Plant)
    (k : String × ℕ × String × Time) (xs : List ProcessInput) :
    Seen now (p.process? k) ((xs.foldl (Plant.sight e n boot uuids now) p).process? k) := by
  apply Run.foldl_inv (I := fun p' : Plant => Seen now (p.process? k) (p'.process? k)) _ (.refl _ _)
  intro p' x _ hp
  exact hp.trans sight_seen

theorem sights_exact {xs : List ProcessInput} (hx : x ∈ xs) (hu : x.gpuUuid ∈ uuids)
    (hk : x.identity e n boot = k) (hr : p.process? k = some q) :
    ∃ q', (xs.foldl (Plant.sight e n boot uuids now) p).process? k = some q' ∧ q'.Current now := by
  obtain ⟨xs₁, xs₂, rfl⟩ := List.append_of_mem hx
  rw [List.foldl_append, List.foldl_cons]
  have hfirst := sights_seen e n boot uuids now p k xs₁
  generalize xs₁.foldl (Plant.sight e n boot uuids now) p = p₁ at hfirst
  obtain ⟨q₁, hq₁⟩ : ∃ q₁, p₁.process? k = some q₁ := by
    rcases hfirst with h | ⟨q₁, h, -⟩
    · exact ⟨q, h.trans hr⟩
    · exact ⟨q₁, h⟩
  obtain ⟨q₂, hq₂, hc⟩ := sight_exact now hu hk hq₁
  have hrest := sights_seen e n boot uuids now (p₁.sight e n boot uuids now x) k xs₂
  rw [hq₂] at hrest
  exact hrest.current hc

theorem sights_gpus (xs : List ProcessInput) :
    (xs.foldl (Plant.sight e n boot uuids now) p).gpus = p.gpus := by
  apply Run.foldl_inv (I := fun p' : Plant => p'.gpus = p.gpus) _ rfl
  intro p' x _ hp
  rw [← hp]
  unfold Plant.sight
  split
  · rfl
  simp only
  split <;> rfl

end

/-! ## The node of a card -/

/-- Known cards stay, on their nodes. -/
structure Homed (p p' : Plant) : Prop where
  known : ∀ g ∈ p.gpus.map GPUDevice.id, g ∈ p'.gpus.map GPUDevice.id
  home : ∀ g ∈ p.gpus.map GPUDevice.id, ∀ n, g ∈ p'.nodeGpuIds n ↔ g ∈ p.nodeGpuIds n

namespace Homed

variable {p p' p'' : Plant}

theorem mem_nodeGpuIds {g n : String} :
    g ∈ p.nodeGpuIds n ↔ ∃ x ∈ p.gpus.map GPUDevice.identity, x.1 = g ∧ x.2.2.1 = n := by
  unfold Plant.nodeGpuIds
  constructor
  · intro h
    obtain ⟨x, hx, rfl⟩ := List.mem_map.1 h
    obtain ⟨hx, hn⟩ := List.mem_filter.1 hx
    exact ⟨_, List.mem_map_of_mem hx, rfl, of_decide_eq_true hn⟩
  · rintro ⟨y, hy, rfl, rfl⟩
    obtain ⟨x, hx, rfl⟩ := List.mem_map.1 hy
    exact List.mem_map_of_mem (List.mem_filter.2 ⟨hx, decide_eq_true rfl⟩)

theorem ids_eq (p : Plant) :
    p.gpus.map GPUDevice.id = (p.gpus.map GPUDevice.identity).map Prod.fst := by
  rw [List.map_map]
  rfl

theorem of_identity (h : p'.gpus.map GPUDevice.identity = p.gpus.map GPUDevice.identity) :
    Homed p p' := by
  refine ⟨fun g hg => ?_, fun g _ n => ?_⟩
  · rw [ids_eq] at hg ⊢
    rwa [h]
  · rw [mem_nodeGpuIds, mem_nodeGpuIds, h]

theorem of_gpus (h : p'.gpus = p.gpus) : Homed p p' := of_identity (by rw [h])

theorem refl (p : Plant) : Homed p p := of_gpus rfl

theorem trans (a : Homed p p') (b : Homed p' p'') : Homed p p'' :=
  ⟨fun g hg => b.known g (a.known g hg),
    fun g hg n => (b.home g (a.known g hg) n).trans (a.home g hg n)⟩

/-- A write on other columns of some cards. -/
theorem of_upd {q : GPUDevice → Bool} {f : GPUDevice → GPUDevice}
    (h : p'.gpus = updWhere q f p.gpus) (hf : ∀ g, (f g).identity = g.identity) : Homed p p' :=
  of_identity (by rw [h, map_updWhere _ hf])

/-- One more card, that was not known. -/
theorem of_new {x : GPUDevice} (h : p'.gpus = p.gpus ++ [x])
    (hx : x.id ∉ p.gpus.map GPUDevice.id) : Homed p p' := by
  refine ⟨fun g hg => ?_, fun g hg n => ?_⟩
  · rw [h, List.map_append]
    exact List.mem_append_left _ hg
  · have hne : x.id ≠ g := fun heq => hx (heq ▸ hg)
    rw [mem_nodeGpuIds, mem_nodeGpuIds, h, List.map_append]
    constructor
    · rintro ⟨y, hy, hid, hn⟩
      rcases List.mem_append.1 hy with hy | hy
      · exact ⟨y, hy, hid, hn⟩
      · rw [List.map_singleton, List.mem_singleton] at hy
        subst hy
        exact absurd hid hne
    · rintro ⟨y, hy, hid, hn⟩
      exact ⟨y, List.mem_append_left _ hy, hid, hn⟩

/-- A process of a known card runs on the node it ran on. -/
theorem onNode (h : Homed p p') {q : ProcessObservation} (hq : q.gpuId ∈ p.gpus.map GPUDevice.id)
    (e n : String) : p'.onNode e n q = p.onNode e n q := by
  unfold Plant.onNode
  refine congrArg _ (Bool.eq_iff_iff.2 ?_)
  rw [List.contains_iff_mem, List.contains_iff_mem]
  exact h.home _ hq n

end Homed

section

variable {cfg : Config} {now : Time} {e : String} {p : Plant}

theorem seeGpu_homed (n : String) (observedAt : Time) (s : TelemetryInput) :
    Homed p (p.seeGpu e n observedAt s) := by
  unfold Plant.seeGpu
  simp only
  split
  · exact .of_upd rfl fun _ => rfl
  · rename_i hnone
    refine .of_new rfl fun hmem => hnone ?_
    obtain ⟨x, hx, hid⟩ := List.mem_map.1 hmem
    unfold Plant.gpu?
    cases hr : row? GPUDevice.id (gpuIdOf e n s.gpuUuid) p.gpus with
    | some y => rfl
    | none => exact absurd hid (row?_none hr x hx)

theorem seeCards_homed (o : NodeObservation) : Homed p (p.seeCards e o now) := by
  unfold Plant.seeCards
  have h₁ : Homed p (o.gpus.foldl (Plant.seeGpu e o.nodeId o.observedAt) p) := by
    apply Run.foldl_inv (I := Homed p) _ (.refl p)
    intro q s _ hq
    exact hq.trans (seeGpu_homed _ _ s)
  generalize o.gpus.foldl (Plant.seeGpu e o.nodeId o.observedAt) p = q at h₁
  apply Run.foldl_inv (I := Homed p) _ h₁
  intro q s _ hq
  exact hq.trans (.of_gpus rfl)

theorem seeCards_processes (o : NodeObservation) :
    (p.seeCards e o now).processes = p.processes := by
  unfold Plant.seeCards
  have h₁ : (o.gpus.foldl (Plant.seeGpu e o.nodeId o.observedAt) p).processes = p.processes := by
    apply Run.foldl_inv (I := fun q : Plant => q.processes = p.processes) _ rfl
    intro q s _ hq
    exact hq
  rw [← h₁]
  generalize o.gpus.foldl (Plant.seeGpu e o.nodeId o.observedAt) p = p₁
  apply Run.foldl_inv (I := fun q : Plant => q.processes = p₁.processes) _ rfl
  intro q s _ hq
  exact hq

theorem releaseAbsentKeepers_processes (b : Broker) (endpointIds : List String) :
    (b.releaseAbsentKeepers endpointIds now).plant.processes = b.plant.processes := by
  unfold Broker.releaseAbsentKeepers
  simp only
  split <;> rfl

/-! ## One node -/

/-- The absence clock of one row of a node that was looked at. -/
def ProcessObservation.aged (cfg : Config) (now : Time) (complete : Bool) (q : ProcessObservation) :
    ProcessObservation :=
  if complete = true then q.advance cfg now else { q with absentSince := none }

theorem ProcessObservation.Current.aged {q : ProcessObservation} (h : q.Current now)
    (complete : Bool) : q.aged cfg now complete = q := by
  have hnone := h.present
  unfold ProcessObservation.aged ProcessObservation.advance
  cases complete with
  | true =>
    rw [if_pos rfl, hnone]
    simp only
    rw [if_neg (by rw [h.seen]; exact lt_irrefl now)]
  | false =>
    rw [if_neg Bool.false_ne_true, ← hnone]

theorem aged_identity (cfg : Config) (now : Time) (q : ProcessObservation) (complete : Bool) :
    (q.aged cfg now complete).identity = q.identity := by
  unfold ProcessObservation.aged ProcessObservation.advance
  split
  · split
    · split <;> rfl
    · split <;> rfl
  · rfl

/-- A complete look leaves a row it did not see, or starts its clock, or takes it for gone. -/
theorem advance_cases (cfg : Config) (now : Time) (q : ProcessObservation) :
    q.advance cfg now = q ∨
      (q.absentSince = none ∧ q.lastSeenAt < now ∧
        q.advance cfg now = { q with absentSince := some now }) ∨
      ∃ since, q.absentSince = some since ∧ cfg.absenceGrace ≤ now - since ∧
        q.advance cfg now = { q with active := false, absentSince := none } := by
  unfold ProcessObservation.advance
  cases hclock : q.absentSince with
  | none =>
    simp only
    split
    · rename_i hlast
      exact Or.inr (Or.inl ⟨trivial, hlast, rfl⟩)
    · exact Or.inl rfl
  | some since =>
    simp only
    split
    · rename_i hgrace
      exact Or.inr (Or.inr ⟨since, rfl, hgrace, rfl⟩)
    · exact Or.inl rfl

theorem process?_aged (cfg : Config) (now : Time) (e : String) (p : Plant) (n : String)
    (complete : Bool) (k : String × ℕ × String × Time) :
    (p.advanceProcessAbsence cfg e n complete now).process? k =
      (p.process? k).map fun q => if p.onNode e n q = true then q.aged cfg now complete else q := by
  unfold Plant.advanceProcessAbsence Plant.process?
  exact row?_updWhere (f := ProcessObservation.aged cfg now complete)
    fun q => aged_identity cfg now q complete

end

section

variable {cfg : Config} {now : Time} {e : String} {b : Broker} {p₀ : Plant}
  {k : String × ℕ × String × Time} {q : ProcessObservation}

/-- The node's report tells of the process under its own identity. -/
def NodeObservation.lists (e : String) (o : NodeObservation) (k : String × ℕ × String × Time) :
    Prop :=
  ∃ x ∈ o.processes, x.gpuUuid ∈ o.gpus.map TelemetryInput.gpuUuid ∧
    x.identity e o.nodeId o.bootId = k

theorem read_homed (o : NodeObservation) :
    Homed b.plant ((b.plant.readHost e o now).seeCards e o now) := by
  have hread : Homed b.plant (b.plant.readHost e o now) := .of_gpus rfl
  exact hread.trans (seeCards_homed o)

theorem convergeOwnership_homed (cfg : Config) (p : Plant) (e : String)
    (mine : List (String × String)) (observedAt : Time) :
    Homed p (p.convergeOwnership cfg e mine observedAt).1 := by
  unfold Plant.convergeOwnership
  exact .of_upd rfl fun _ => rfl

theorem markAbsent_homed (p : Plant) (e n : String) (observed : List String) (observedAt : Time) :
    Homed p (p.markAbsent e n observed observedAt) := by
  unfold Plant.markAbsent
  exact .of_upd rfl fun _ => rfl

theorem ingestNode_homed (cfg : Config) (now : Time) (e : String) (b : Broker)
    (o : NodeObservation) :
    Homed b.plant (ingestNodeObservation cfg e now b o).plant := by
  unfold ingestNodeObservation
  split
  · exact .refl _
  have hs : Homed b.plant ((b.plant.readHost e o now).seeCards e o now) := read_homed o
  generalize (b.plant.readHost e o now).seeCards e o now = q at hs
  refine hs.trans (Homed.trans ?_ (.of_gpus (seeProcesses_gpus _ _ _ _ _)))
  simp only
  split
  · exact .refl _
  refine Homed.trans ?_ (.of_gpus (releaseAbsentKeepers_gpus _ _))
  exact (convergeOwnership_homed _ _ _ _ _).trans (markAbsent_homed _ _ _ _ _)

/-- **One node**: the row is as before or just seen, and then its clock moves if it is a row of
this node. -/
theorem ingestNode_process (cfg : Config) (now : Time) (k : String × ℕ × String × Time)
    (o : NodeObservation) (hs : b.plant.staleNode e o = false) :
    ∃ p r, Homed b.plant p ∧ Seen now (b.plant.process? k) r ∧
      (∀ q, b.plant.process? k = some q → o.lists e k → ∃ q', r = some q' ∧ q'.Current now) ∧
      (ingestNodeObservation cfg e now b o).plant.process? k = r.map fun q =>
        if p.onNode e o.nodeId q = true then q.aged cfg now o.observationComplete else q := by
  unfold ingestNodeObservation
  rw [if_neg (by rw [hs]; exact Bool.false_ne_true)]
  simp only
  have h₀ : Homed b.plant ((b.plant.readHost e o now).seeCards e o now) := read_homed o
  have hp₀ : ((b.plant.readHost e o now).seeCards e o now).processes = b.plant.processes :=
    seeCards_processes o
  generalize (b.plant.readHost e o now).seeCards e o now = p₁ at h₀ hp₀
  -- the cards of the node are settled; its processes come next
  have key : ∀ p : Plant, Homed p₁ p → p.processes = p₁.processes →
      ∃ p' r, Homed b.plant p' ∧ Seen now (b.plant.process? k) r ∧
        (∀ q, b.plant.process? k = some q → o.lists e k → ∃ q', r = some q' ∧ q'.Current now) ∧
        (p.seeProcesses cfg e o now).process? k = r.map fun q =>
          if p'.onNode e o.nodeId q = true then q.aged cfg now o.observationComplete else q := by
    intro p hhome hrows
    have hsame : p.process? k = b.plant.process? k := by
      unfold Plant.process?
      rw [hrows, hp₀]
    refine ⟨_, _, (h₀.trans hhome).trans (.of_gpus (sights_gpus o.processes)), ?_, ?_,
      process?_aged cfg now e _ o.nodeId o.observationComplete k⟩
    · rw [← hsame]
      exact sights_seen _ _ _ _ _ _ _ o.processes
    · rintro q hq ⟨x, hx, hu, hk⟩
      exact sights_exact hx hu hk (hsame.trans hq)
  split
  · exact key _ (.refl _) rfl
  · refine key _ ?_ ?_
    · refine Homed.trans ?_ (.of_gpus (releaseAbsentKeepers_gpus _ _))
      exact (convergeOwnership_homed _ _ _ _ _).trans (markAbsent_homed _ _ _ _ _)
    · rw [releaseAbsentKeepers_processes]
      rfl

theorem ingestNode_stale (cfg : Config) (now : Time) (o : NodeObservation)
    (hs : b.plant.staleNode e o = true) :
    ingestNodeObservation cfg e now b o = b := by
  unfold ingestNodeObservation
  rw [if_pos hs]

/-- A process just seen, or one of other nodes than these. -/
def Apart (now : Time) (p : Plant) (e : String) (ns : List String) (q : ProcessObservation) :
    Prop :=
  q.Current now ∨ q.gpuId ∈ p.gpus.map GPUDevice.id ∧ ∀ n ∈ ns, p.onNode e n q = false

theorem ingestNode_apart (o : NodeObservation) (hb : Homed p₀ b.plant)
    (hq : ∀ q, b.plant.process? k = some q → Apart now p₀ e [o.nodeId] q) :
    Seen now (b.plant.process? k) ((ingestNodeObservation cfg e now b o).plant.process? k) := by
  cases hs : b.plant.staleNode e o with
  | true =>
    rw [ingestNode_stale cfg now o hs]
    exact .refl _ _
  | false =>
    obtain ⟨p, r, hhome, hseen, -, hr⟩ := ingestNode_process cfg now k o hs
    rw [hr]
    -- neither a row just seen nor one of another node is aged
    have hkept : ∀ q, Apart now p₀ e [o.nodeId] q →
        (if p.onNode e o.nodeId q = true then q.aged cfg now o.observationComplete else q) = q := by
      rintro q (hc | ⟨hknown, hnot⟩)
      · rw [hc.aged, ite_self]
      · rw [(hb.trans hhome).onNode hknown, hnot o.nodeId List.mem_cons_self,
          if_neg Bool.false_ne_true]
    rcases hseen with rfl | ⟨q, rfl, hc⟩
    · cases hrow : b.plant.process? k with
      | none => exact Or.inl rfl
      | some q =>
        rw [Option.map_some, hkept q (hq q hrow)]
        exact .refl _ _
    · rw [Option.map_some, hkept q (Or.inl hc)]
      exact Or.inr ⟨q, rfl, hc⟩

theorem ingestNodes_homed (cfg : Config) (now : Time) (e : String) (b : Broker)
    (ns : List NodeObservation) :
    Homed b.plant (ns.foldl (ingestNodeObservation cfg e now) b).plant := by
  apply Run.foldl_inv (I := fun s : Broker => Homed b.plant s.plant) _ (.refl _)
  intro s o _ hs
  exact hs.trans (ingestNode_homed _ _ _ _ o)

/-- **Nodes that a row is not of** leave it, or see it. -/
theorem ingestNodes_apart (ns : List NodeObservation) (hb : Homed p₀ b.plant)
    (hq : ∀ q, b.plant.process? k = some q →
      Apart now p₀ e (ns.map NodeObservation.nodeId) q) :
    Seen now (b.plant.process? k)
      ((ns.foldl (ingestNodeObservation cfg e now) b).plant.process? k) := by
  induction ns generalizing b with
  | nil => exact .refl _ _
  | cons o ns ih =>
    rw [List.foldl_cons]
    have hone : Seen now (b.plant.process? k)
        ((ingestNodeObservation cfg e now b o).plant.process? k) := by
      refine ingestNode_apart o hb fun q hr => (hq q hr).imp_right fun h => ⟨h.1, fun n hn => ?_⟩
      rw [List.mem_singleton.1 hn]
      exact h.2 _ List.mem_cons_self
    refine hone.trans (ih (hb.trans (ingestNode_homed _ _ _ _ o)) fun q hr => ?_)
    rcases hone with heq | ⟨q', hq', hc⟩
    · exact (hq q (heq.symm.trans hr)).imp_right fun h =>
        ⟨h.1, fun n hn => h.2 n (List.mem_cons_of_mem _ hn)⟩
    · rw [hr] at hq'
      cases hq'
      exact Or.inl hc

theorem ingestFailure_process (cfg : Config) (now : Time) (e : String) (b : Broker)
    (k : String × ℕ × String × Time) (f : NodeFailure) :
    (ingestNodeFailure cfg e now b f).plant.process? k = (b.plant.process? k).map fun q =>
      if b.plant.onNode e f.nodeId q = true then q.aged cfg now false else q :=
  process?_aged cfg now e (b.plant.setNodeState _) f.nodeId false k

theorem ingestFailures_gpus (cfg : Config) (now : Time) (e : String) (b : Broker)
    (fs : List NodeFailure) :
    (fs.foldl (ingestNodeFailure cfg e now) b).plant.gpus = b.plant.gpus := by
  apply Run.foldl_inv (I := fun s : Broker => s.plant.gpus = b.plant.gpus) _ rfl
  intro s f _ hs
  exact hs

/-- Failures of nodes that a row is not of leave it. -/
theorem ingestFailures_apart (cfg : Config) (now : Time) (e : String)
    (k : String × ℕ × String × Time) (fs : List NodeFailure) (hb : Homed p₀ b.plant)
    (hq : ∀ q, b.plant.process? k = some q → Apart now p₀ e (fs.map NodeFailure.nodeId) q) :
    (fs.foldl (ingestNodeFailure cfg e now) b).plant.process? k = b.plant.process? k := by
  apply Run.foldl_inv (I := fun s : Broker => s.plant.gpus = b.plant.gpus ∧
    s.plant.process? k = b.plant.process? k) _ ⟨rfl, rfl⟩ |>.2
  rintro s f hf ⟨hgpus, hs⟩
  refine ⟨hgpus, ?_⟩
  rw [ingestFailure_process cfg now e s k f, hs]
  cases hrow : b.plant.process? k with
  | none => rfl
  | some q =>
    rw [Option.map_some]
    rcases hq q hrow with hc | ⟨hknown, hnot⟩
    · rw [hc.aged, ite_self]
    · rw [(hb.trans (.of_gpus hgpus)).onNode hknown, hnot _ (List.mem_map_of_mem hf),
        if_neg Bool.false_ne_true]

end

/-! ## One observation -/

/-- The observation tells that a look at the process's node failed or was partial. -/
def Plant.blinds (p : Plant) (o : EndpointObservation) (q : ProcessObservation) : Prop :=
  (∃ n ∈ o.nodes, n.observationComplete = false ∧ p.staleNode o.endpointId n = false ∧
    p.onNode o.endpointId n.nodeId q = true) ∨
  ∃ f ∈ o.failures, p.onNode o.endpointId f.nodeId q = true

/-- The observation has a complete look at the process's node, without the process. -/
def Plant.misses (p : Plant) (o : EndpointObservation) (q : ProcessObservation) : Prop :=
  ∃ n ∈ o.nodes, n.observationComplete = true ∧ p.staleNode o.endpointId n = false ∧
    p.onNode o.endpointId n.nodeId q = true ∧ ¬ n.lists o.endpointId q.identity

/-- What an observation makes of one row. -/
inductive Plant.Turn (cfg : Config) (now : Time) (p : Plant) (o : EndpointObservation) :
    Option ProcessObservation → Option ProcessObservation → Prop
  | same (r : Option ProcessObservation) (h : ∀ q, r = some q → ¬ p.blinds o q) :
    Turn cfg now p o r r
  | current (r : Option ProcessObservation) (q : ProcessObservation) (h : q.Current now) :
    Turn cfg now p o r (some q)
  | blind (q : ProcessObservation) (ha : q.active = true) :
    Turn cfg now p o (some q) (some { q with absentSince := none })
  | missed (q : ProcessObservation) (ha : q.active = true) (h : p.misses o q)
    (hb : ¬ p.blinds o q) : Turn cfg now p o (some q) (some (q.advance cfg now))

section

variable {cfg : Config} {now : Time} {e : String} {b s : Broker} {o : EndpointObservation}
  {k : String × ℕ × String × Time} {q q' : ProcessObservation}

/-- A card is on one node. -/
theorem onNode_unique {p : Plant} (hn : (p.gpus.map GPUDevice.id).Nodup) {n m : String}
    (h : p.onNode e n q = true) (h' : p.onNode e m q' = true) (hcard : q'.gpuId = q.gpuId) :
    m = n := by
  have hof : ∀ {n : String} {q : ProcessObservation}, p.onNode e n q = true →
      ∃ g ∈ p.gpus, g.nodeId = n ∧ g.id = q.gpuId := by
    intro n q h
    have hmem := List.contains_iff_mem.1 (Bool.and_eq_true_iff.1 h).2
    obtain ⟨g, hg, hid⟩ := List.mem_map.1 hmem
    obtain ⟨hg, hnode⟩ := List.mem_filter.1 hg
    exact ⟨g, hg, of_decide_eq_true hnode, hid⟩
  obtain ⟨g, hg, rfl, hid⟩ := hof h
  obtain ⟨g', hg', rfl, hid'⟩ := hof h'
  rw [List.inj_on_of_nodup_map hn hg' hg (by rw [hid', hid, hcard])]

theorem onNode_active {p : Plant} {n : String} (h : p.onNode e n q = true) : q.active = true :=
  (of_decide_eq_true (Bool.and_eq_true_iff.1 h).1).2

/-- **The rest of an observation**, of whose nodes a row is none, leaves it or sees it. -/
theorem rest_apart (cfg : Config) (now : Time) (e : String) (k : String × ℕ × String × Time)
    {p₀ : Plant} (ns : List NodeObservation) (fs : List NodeFailure)
    (hs : Homed p₀ s.plant)
    (hq : ∀ q, s.plant.process? k = some q →
      Apart now p₀ e (ns.map NodeObservation.nodeId ++ fs.map NodeFailure.nodeId) q) :
    Seen now (s.plant.process? k)
      ((fs.foldl (ingestNodeFailure cfg e now)
        (ns.foldl (ingestNodeObservation cfg e now) s)).plant.process? k) := by
  have hnodes : Seen now (s.plant.process? k)
      ((ns.foldl (ingestNodeObservation cfg e now) s).plant.process? k) :=
    ingestNodes_apart ns hs fun q hr => (hq q hr).imp_right fun h =>
      ⟨h.1, fun n hn => h.2 n (List.mem_append_left _ hn)⟩
  refine hnodes.trans
    (Or.inl (ingestFailures_apart cfg now e k fs (hs.trans (ingestNodes_homed _ _ _ _ ns))
    fun q hr => ?_))
  rcases hnodes with heq | ⟨q', hq', hc⟩
  · exact (hq q (heq.symm.trans hr)).imp_right fun h =>
      ⟨h.1, fun n hn => h.2 n (List.mem_append_right _ hn)⟩
  · rw [hr] at hq'
    cases hq'
    exact Or.inl hc

theorem nodes_staleNode (ns : List NodeObservation) {n : NodeObservation}
    (hne : ∀ m ∈ ns, n.nodeId ≠ m.nodeId) :
    (ns.foldl (ingestNodeObservation cfg e now) b).plant.staleNode e n = b.plant.staleNode e n := by
  apply Run.foldl_inv (I := fun s : Broker => s.plant.staleNode e n = b.plant.staleNode e n) _ rfl
  intro s m hm hs
  rw [ingested_staleNode s (hne m hm), hs]

/-- A row just seen is still so after the rest of the observation. -/
theorem rest_current {p₀ : Plant} {r : Option ProcessObservation} (ns : List NodeObservation)
    (fs : List NodeFailure) (hs : Homed p₀ s.plant) (hq : s.plant.process? k = some q)
    (hc : q.Current now) :
    p₀.Turn cfg now o r ((fs.foldl (ingestNodeFailure cfg e now)
      (ns.foldl (ingestNodeObservation cfg e now) s)).plant.process? k) := by
  have hrest := rest_apart cfg now e k ns fs hs fun q' hq' => by
    rw [hq] at hq'
    cases hq'
    exact Or.inl hc
  rw [hq] at hrest
  obtain ⟨q', hq', hc'⟩ := hrest.current hc
  rw [hq']
  exact .current r q' hc'

/-- The nodes of an observation before and after one of them are others, and so are the failures. -/
theorem others_ne {n : NodeObservation} {pre post : List NodeObservation}
    (hnodes : o.nodes = pre ++ n :: post) :
    (∀ m ∈ pre, m.nodeId ≠ n.nodeId) ∧
      ∀ m ∈ post.map NodeObservation.nodeId ++ o.failures.map NodeFailure.nodeId, m ≠ n.nodeId := by
  have hunique := o.unique_nodes
  rw [hnodes, List.map_append, List.map_cons, List.append_assoc, List.cons_append,
    List.nodup_append] at hunique
  obtain ⟨-, hrest, hapart⟩ := hunique
  refine ⟨fun m hm => hapart _ (List.mem_map_of_mem hm) _ List.mem_cons_self, fun m hm heq => ?_⟩
  exact (List.nodup_cons.1 hrest).1 (heq ▸ hm)

/-- **An observation with the node of a row.** -/
theorem home_turn (hb : Intact b) {n : NodeObservation} {pre post : List NodeObservation}
    (hnodes : o.nodes = pre ++ n :: post) (hr : b.plant.process? k = some q)
    (hon : b.plant.onNode o.endpointId n.nodeId q = true) :
    b.plant.Turn cfg now o (some q)
      ((o.failures.foldl (ingestNodeFailure cfg o.endpointId now)
        (o.nodes.foldl (ingestNodeObservation cfg o.endpointId now) b)).plant.process? k) := by
  obtain ⟨hpre, hpost⟩ := others_ne hnodes
  have hknown : q.gpuId ∈ b.plant.gpus.map GPUDevice.id := hb.processGpu q (row?_some hr).1
  have hn : n ∈ o.nodes := by rw [hnodes]; exact List.mem_append_right _ List.mem_cons_self
  have away : ∀ {q' : ProcessObservation} {m : String}, q'.gpuId = q.gpuId → m ≠ n.nodeId →
      b.plant.onNode o.endpointId m q' = false := fun hcard hne =>
    Bool.eq_false_of_not_eq_true fun h => hne (onNode_unique hb.gpuPk hon h hcard)
  have sees : (n.observationComplete = false → b.plant.staleNode o.endpointId n = true) →
      ¬ b.plant.blinds o q := by
    rintro hno (⟨m, hm, hincomplete, hstale, hm'⟩ | ⟨f, hf, hf'⟩)
    · have hsame := onNode_unique hb.gpuPk hon hm' rfl
      have hmn : m = n := by
        rw [hnodes] at hm
        rcases List.mem_append.1 hm with hm | hm
        · exact absurd hsame (hpre m hm)
        · rcases List.mem_cons.1 hm with hm | hm
          · exact hm
          · exact absurd hsame (hpost _ (List.mem_append_left _ (List.mem_map_of_mem hm)))
      rw [hmn] at hincomplete hstale
      rw [hno hincomplete] at hstale
      cases hstale
    · exact hpost _ (List.mem_append_right _ (List.mem_map_of_mem hf))
        (onNode_unique hb.gpuPk hon hf' rfl)
  rw [hnodes, List.foldl_append, List.foldl_cons]
  have hfirst : Seen now (b.plant.process? k)
      ((pre.foldl (ingestNodeObservation cfg o.endpointId now) b).plant.process? k) := by
    refine ingestNodes_apart pre (.refl _) fun q' hq' => Or.inr ?_
    rw [hr] at hq'
    cases hq'
    refine ⟨hknown, fun m hm => ?_⟩
    obtain ⟨x, hx, rfl⟩ := List.mem_map.1 hm
    exact away rfl (hpre x hx)
  have hhome₁ : Homed b.plant
      (pre.foldl (ingestNodeObservation cfg o.endpointId now) b).plant :=
        ingestNodes_homed _ _ _ _ pre
  have hstale₁ : (pre.foldl (ingestNodeObservation cfg o.endpointId now) b).plant.staleNode
      o.endpointId n = b.plant.staleNode o.endpointId n :=
    nodes_staleNode pre fun m hm => (hpre m hm).symm
  generalize pre.foldl (ingestNodeObservation cfg o.endpointId now) b = s at hfirst hhome₁ hstale₁
  rcases hfirst with heq | ⟨q', hq', hc⟩
  swap
  · exact rest_current (n :: post) o.failures hhome₁ hq' hc
  rw [hr] at heq
  have hhome₂ := hhome₁.trans (ingestNode_homed cfg now o.endpointId s n)
  -- after the node of the row, what is left does not concern it
  have rest : ∀ q', (ingestNodeObservation cfg o.endpointId now s n).plant.process? k = some q' →
      q'.gpuId = q.gpuId → Seen now (some q')
        ((o.failures.foldl (ingestNodeFailure cfg o.endpointId now)
          (post.foldl (ingestNodeObservation cfg o.endpointId now)
            (ingestNodeObservation cfg o.endpointId now s n))).plant.process? k) := by
    intro q' hq' hcard
    rw [← hq']
    refine rest_apart cfg now o.endpointId k post o.failures hhome₂ fun q'' hq'' => Or.inr ?_
    rw [hq'] at hq''
    cases hq''
    exact ⟨hcard ▸ hknown, fun m hm => away hcard (hpost m hm)⟩
  cases hs : b.plant.staleNode o.endpointId n with
  | true =>
    have hsame := ingestNode_stale cfg now n (hstale₁.trans hs)
    rcases rest q (by rw [hsame]; exact heq) rfl with h | ⟨q', hq', hc⟩
    · rw [h]
      refine .same _ fun q' hq' => ?_
      cases hq'
      exact sees fun _ => hs
    · rw [hq']
      exact .current _ q' hc
  | false =>
    obtain ⟨p, r, hhome, hseen, hlists, hrow⟩ :=
      ingestNode_process cfg now k n (hstale₁.trans hs)
    have hcurrent : ∀ q', r = some q' → q'.Current now →
        b.plant.Turn cfg now o (some q)
          ((o.failures.foldl (ingestNodeFailure cfg o.endpointId now)
            (post.foldl (ingestNodeObservation cfg o.endpointId now)
              (ingestNodeObservation cfg o.endpointId now s n))).plant.process? k) := by
      rintro q' rfl hc
      rw [Option.map_some, hc.aged, ite_self] at hrow
      exact rest_current post o.failures hhome₂ hrow hc
    by_cases hlisted : n.lists o.endpointId k
    · obtain ⟨q', hq', hc⟩ := hlists q heq hlisted
      exact hcurrent q' hq' hc
    rcases hseen with h | ⟨q', hq', hc⟩
    swap
    · exact hcurrent q' hq' hc
    rw [heq] at h
    subst h
    have hon' : p.onNode o.endpointId n.nodeId q = true := by
      rw [(hhome₁.trans hhome).onNode hknown]
      exact hon
    rw [Option.map_some, if_pos hon'] at hrow
    have hid := aged_identity cfg now q n.observationComplete
    rcases rest _ hrow (congrArg Prod.fst hid) with h | ⟨q', hq', hc⟩
    swap
    · rw [hq']
      exact .current _ q' hc
    rw [h]
    cases hcomplete : n.observationComplete with
    | true =>
      have hsees : ¬ b.plant.blinds o q := sees fun hno => by rw [hcomplete] at hno; cases hno
      refine .missed q (onNode_active hon) ⟨n, hn, hcomplete, hs, hon, ?_⟩ hsees
      rw [(row?_some hr).2]
      exact hlisted
    | false => exact .blind q (onNode_active hon)

/-- **The nodes and failures of an observation**, for one row. -/
theorem looks_turn (hb : Intact b) (o : EndpointObservation) (k : String × ℕ × String × Time) :
    b.plant.Turn cfg now o (b.plant.process? k)
      ((o.failures.foldl (ingestNodeFailure cfg o.endpointId now)
        (o.nodes.foldl (ingestNodeObservation cfg o.endpointId now) b)).plant.process? k) := by
  cases hr : b.plant.process? k with
  | none =>
    have hrest := rest_apart cfg now o.endpointId k o.nodes o.failures
      (Homed.refl b.plant) fun q hq => by rw [hr] at hq; cases hq
    rw [hr] at hrest
    rcases hrest with h | ⟨q, hq, hc⟩
    · rw [h]
      exact .same none fun q hq => by cases hq
    · rw [hq]
      exact .current none q hc
  | some q =>
    have hknown : q.gpuId ∈ b.plant.gpus.map GPUDevice.id := hb.processGpu q (row?_some hr).1
    by_cases hnode : ∃ n ∈ o.nodes, b.plant.onNode o.endpointId n.nodeId q = true
    · obtain ⟨n, hn, hon⟩ := hnode
      obtain ⟨pre, post, hnodes⟩ := List.append_of_mem hn
      exact home_turn hb hnodes hr hon
    have hseen : Seen now (some q)
        ((o.nodes.foldl (ingestNodeObservation cfg o.endpointId now) b).plant.process? k) := by
      rw [← hr]
      refine ingestNodes_apart o.nodes (.refl _) fun q' hq' => Or.inr ?_
      rw [hr] at hq'
      cases hq'
      refine ⟨hknown, fun m hm => Bool.eq_false_of_not_eq_true fun h => hnode ?_⟩
      obtain ⟨n, hn, rfl⟩ := List.mem_map.1 hm
      exact ⟨n, hn, h⟩
    have hhome : Homed b.plant
      (o.nodes.foldl (ingestNodeObservation cfg o.endpointId now) b).plant :=
        ingestNodes_homed _ _ _ _ o.nodes
    generalize o.nodes.foldl (ingestNodeObservation cfg o.endpointId now) b = s at hseen hhome
    rcases hseen with heq | ⟨q', hq', hc⟩
    swap
    · exact rest_current [] o.failures hhome hq' hc
    by_cases hfailed : ∃ f ∈ o.failures, b.plant.onNode o.endpointId f.nodeId q = true
    · -- the failures before and after it are of other nodes
      obtain ⟨f, hf, hon⟩ := hfailed
      obtain ⟨pre, post, hfailures⟩ := List.append_of_mem hf
      have hunique := (List.nodup_append.1 o.unique_nodes).2.1
      rw [hfailures, List.map_append, List.map_cons, List.nodup_append] at hunique
      obtain ⟨-, hrest, hapart⟩ := hunique
      have away : ∀ {q' : ProcessObservation} {m : String}, q'.gpuId = q.gpuId → m ≠ f.nodeId →
          b.plant.onNode o.endpointId m q' = false := fun hcard hne =>
        Bool.eq_false_of_not_eq_true fun h => hne (onNode_unique hb.gpuPk hon h hcard)
      rw [hfailures, List.foldl_append, List.foldl_cons]
      have hfirst := ingestFailures_apart cfg now o.endpointId k pre hhome fun q' hq' => by
          rw [heq] at hq'
          cases hq'
          exact Or.inr ⟨hknown, fun m hm => away rfl (hapart m hm _ List.mem_cons_self)⟩
      have hgpus := ingestFailures_gpus cfg now o.endpointId s pre
      generalize pre.foldl (ingestNodeFailure cfg o.endpointId now) s = s₁ at hfirst hgpus
      have hhome₁ := hhome.trans (.of_gpus hgpus)
      have hrow := ingestFailure_process cfg now o.endpointId s₁ k f
      rw [hfirst, heq, Option.map_some, hhome₁.onNode hknown, if_pos hon] at hrow
      have hhome₂ : Homed b.plant (ingestNodeFailure cfg o.endpointId now s₁ f).plant :=
        hhome₁.trans (.of_gpus rfl)
      have hlast := ingestFailures_apart cfg now o.endpointId k post hhome₂ fun q' hq' => by
          rw [hrow] at hq'
          cases hq'
          refine Or.inr ⟨hknown, fun m hm => away rfl fun hm' => ?_⟩
          exact (List.nodup_cons.1 hrest).1 (hm' ▸ hm)
      rw [hlast, hrow]
      exact .blind q (onNode_active hon)
    · rw [ingestFailures_apart cfg now o.endpointId k o.failures hhome fun q' hq' => ?_, heq]
      · refine .same _ fun q' hq' => ?_
        cases hq'
        rintro (⟨n, hn, -, -, hon⟩ | ⟨f, hf, hon⟩)
        · exact hnode ⟨n, hn, hon⟩
        · exact hfailed ⟨f, hf, hon⟩
      · rw [heq] at hq'
        cases hq'
        refine Or.inr ⟨hknown, fun m hm => Bool.eq_false_of_not_eq_true fun h => hfailed ?_⟩
        obtain ⟨f, hf, rfl⟩ := List.mem_map.1 hm
        exact ⟨f, hf, h⟩

end

/-! ## The rest of an observation, and failures -/

section

variable {cfg : Config} {now : Time} {b b' : Broker} {k : String × ℕ × String × Time}

theorem setKeepaliveCurrent_processes (p : Plant) (gpuId : String) (actual : KeepaliveActual)
    (reason : Option String) (expected : Option ProcessObservation) (clear : Bool)
    (pending : Option Bool) (now : Time) :
    (p.setKeepaliveCurrent gpuId actual reason expected clear pending now).processes =
      p.processes := by
  obtain ⟨keepalive, h⟩ := setKeepaliveCurrent_eq p gpuId actual reason expected clear pending now
  rw [h]

theorem recordObservedKeepalive_processes (b : Broker) (endpointId : String) (complete : Bool) :
    (b.recordObservedKeepalive endpointId complete now).plant.processes = b.plant.processes := by
  unfold Broker.recordObservedKeepalive
  split
  · rfl
  apply Run.foldl_inv (I := fun s : Broker => s.plant.processes = b.plant.processes) _ rfl
  intro s lease _ hs
  rw [← hs]
  unfold recordObservedKeeper
  split
  · exact setKeepaliveCurrent_processes _ _ _ _ _ _ _ _
  · rfl

/-- What an observation does to the processes, its nodes and failures do. -/
theorem absorb_processes (cfg : Config) (now : Time) (b : Broker) (o : EndpointObservation) :
    (b.absorb cfg now o).plant.processes =
      (o.failures.foldl (ingestNodeFailure cfg o.endpointId now)
        (o.nodes.foldl (ingestNodeObservation cfg o.endpointId now)
          { b with ledger := b.ledger.bumpRevision })).plant.processes := by
  unfold Broker.absorb
  simp only
  have hclear : ∀ s : Broker,
      (s.clearKeepaliveErrors cfg o.endpointId o.complete now).plant.processes =
        s.plant.processes := by
    intro s
    unfold Broker.clearKeepaliveErrors
    split <;> rfl
  rw [hclear, bindNewWorkloads_plant, recordObservedKeepalive_processes]
  rfl

theorem ingested_turn (hb : Intact b) (o : EndpointObservation) (token : String → String → String)
    (k : String × ℕ × String × Time) :
    b.plant.Turn cfg now o (b.plant.process? k)
      ((b.ingested cfg now o token).1.plant.process? k) := by
  have hbumped : Intact { b with ledger := b.ledger.bumpRevision } := { hb with }
  have h : b.plant.Turn cfg now o _ _ := looks_turn hbumped o k
  rw [ingested_plant]
  unfold Plant.process?
  rw [absorb_processes]
  exact h

/-- **A failed attempt** restarts the clock of each row on a node of the server. -/
theorem providerFailed_process (cfg : Config) (p : Plant) (e message errorCode : String)
    (now : Time) (k : String × ℕ × String × Time) :
    ((p.providerFailed cfg e message errorCode now).process? k = p.process? k ∧
      ∀ q, p.process? k = some q → ∀ g ∈ p.gpus, g.endpointId = e →
        p.onNode e g.nodeId q = false) ∨
    ∃ q, p.process? k = some q ∧ q.active = true ∧
      (p.providerFailed cfg e message errorCode now).process? k =
        some { q with absentSince := none } := by
  have hfold : ∀ (ns : List String) (p' : Plant), p'.gpus = p.gpus →
      ((ns.foldl (fun p n => p.advanceProcessAbsence cfg e n false now) p').process? k =
          p'.process? k ∧
        ∀ q, p'.process? k = some q → ∀ n ∈ ns, p.onNode e n q = false) ∨
      ∃ q, p'.process? k = some q ∧ q.active = true ∧
        (ns.foldl (fun p n => p.advanceProcessAbsence cfg e n false now) p').process? k =
          some { q with absentSince := none } := by
    intro ns
    induction ns with
    | nil => exact fun p' _ => Or.inl ⟨rfl, fun q _ n hn => by cases hn⟩
    | cons n ns ih =>
      intro p' hgpus
      rw [List.foldl_cons]
      have hnode : ∀ q, p'.onNode e n q = p.onNode e n q := fun q => by
        unfold Plant.onNode Plant.nodeGpuIds
        rw [hgpus]
      have hone := process?_aged cfg now e p' n false k
      cases hr : p'.process? k with
      | none =>
        rw [hr, Option.map_none] at hone
        rcases ih (p'.advanceProcessAbsence cfg e n false now) hgpus with ⟨h, -⟩ | ⟨q, hq, -⟩
        · exact Or.inl ⟨h.trans hone, fun q hq => by cases hq⟩
        · rw [hone] at hq
          cases hq
      | some q =>
        rw [hr, Option.map_some, hnode] at hone
        by_cases hon : p.onNode e n q = true
        · rw [if_pos hon] at hone
          refine Or.inr ⟨q, rfl, onNode_active hon, ?_⟩
          rcases ih (p'.advanceProcessAbsence cfg e n false now) hgpus with ⟨h, -⟩ | ⟨q', hq', -, h⟩
          · exact h.trans hone
          · rw [hone] at hq'
            cases hq'
            exact h
        · rw [if_neg hon] at hone
          rcases ih (p'.advanceProcessAbsence cfg e n false now) hgpus with ⟨h, haway⟩ |
            ⟨q', hq', hactive, h⟩
          · refine Or.inl ⟨h.trans hone, fun q' hq' m hm => ?_⟩
            cases hq'
            rcases List.mem_cons.1 hm with rfl | hm
            · exact Bool.eq_false_of_not_eq_true hon
            · exact haway q hone m hm
          · rw [hone] at hq'
            cases hq'
            exact Or.inr ⟨q, rfl, hactive, h⟩
  rcases hfold ((p.gpus.filter fun g => g.endpointId = e).map GPUDevice.nodeId).dedup p rfl with
    ⟨h, haway⟩ | h
  · refine Or.inl ⟨h, fun q hq g hg he => haway q hq _ ?_⟩
    exact List.mem_dedup.2 (List.mem_map_of_mem (List.mem_filter.2 ⟨hg, decide_eq_true he⟩))
  · exact Or.inr h

end

/-! ## Every transaction -/

/-- The transaction tells that a look at the process's node failed or was partial. -/
def Op.blinds (cfg : Config) (b : Broker) (q : ProcessObservation) (op : Op) : Prop :=
  (∃ b' r, op.apply cfg b = .ok (b', r)) ∧
    match op with
    | .ingestObservation _ o _ => b.plant.blinds o q
    | .recordProviderFailure _ e _ _ =>
      ∃ g ∈ b.plant.gpus, g.endpointId = e ∧ b.plant.onNode e g.nodeId q = true
    | _ => False

/-- The transaction is a complete look at the process's node that did not see it. -/
def Op.misses (b : Broker) (q : ProcessObservation) : Op → Prop
  | .ingestObservation _ o _ => b.plant.misses o q
  | _ => False

/-- The transaction deletes the process's server, or rows last seen as long ago as this one. -/
def Op.drops (b : Broker) (q : ProcessObservation) : Op → Prop
  | .pruneExpired now => q.lastSeenAt < now - days 7
  | .deleteEndpoint _ _ e _ =>
    q.endpointId = e ∨ ∃ g ∈ b.plant.gpus, g.endpointId = e ∧ g.id = q.gpuId
  | _ => False

/-- What a transaction makes of one row. -/
inductive Turn (cfg : Config) (b : Broker) (op : Op) :
    Option ProcessObservation → Option ProcessObservation → Prop
  | same (r : Option ProcessObservation) (h : ∀ q, r = some q → ¬ op.blinds cfg b q) :
    Turn cfg b op r r
  | present (r : Option ProcessObservation) (q : ProcessObservation) (ha : q.active = true)
    (hp : q.absentSince = none) : Turn cfg b op r (some q)
  | missed (q : ProcessObservation) (ha : q.active = true) (h : op.misses b q)
    (hb : ¬ op.blinds cfg b q) : Turn cfg b op (some q) (some (q.advance cfg op.now))
  | stopped (q : ProcessObservation) (h : op.retires b q) :
    Turn cfg b op (some q) (some { q with active := false })
  | dropped (q : ProcessObservation) (h : op.drops b q) : Turn cfg b op (some q) none

section

variable {cfg : Config} {op : Op} {b b' : Broker} {resp : Response}

section

variable {p' : Plant} {k : String × ℕ × String × Time} {q : ProcessObservation}
  {keeps : ProcessObservation → Bool}

/-- A row after a deletion of rows. -/
theorem process?_filtered (hb : Intact b) (hr : b.plant.process? k = some q)
    (h : p'.processes = b.plant.processes.filter keeps) :
    p'.process? k = if keeps q = true then some q else none := by
  have hsole : ∀ x ∈ b.plant.processes, x.identity = k → x = q := fun x hx hid =>
    List.inj_on_of_nodup_map hb.processIdentity hx (row?_some hr).1
      (hid.trans (row?_some hr).2.symm)
  unfold Plant.process?
  rw [h]
  split
  · rename_i hq
    rw [row?_filter fun x hx hid => by rw [hsole x hx hid]; exact hq]
    exact hr
  · rename_i hq
    cases hrow : row? ProcessObservation.identity k (b.plant.processes.filter keeps) with
    | none => rfl
    | some x =>
      obtain ⟨hx, hid⟩ := row?_some hrow
      obtain ⟨hx, hkeeps⟩ := List.mem_filter.1 hx
      rw [hsole x hx hid] at hkeeps
      exact absurd hkeeps hq

theorem process?_filtered_none (hr : b.plant.process? k = none)
    (h : p'.processes = b.plant.processes.filter keeps) : p'.process? k = none := by
  unfold Plant.process?
  rw [h]
  cases hrow : row? ProcessObservation.identity k (b.plant.processes.filter keeps) with
  | none => rfl
  | some x =>
    obtain ⟨hx, hid⟩ := row?_some hrow
    exact absurd hid (row?_none hr x (List.mem_of_mem_filter hx))

end

/-- **One transaction** and one row. -/
theorem exec_turn (cfg : Config) (op : Op) (hk : Kept b) (k : String × ℕ × String × Time) :
    Turn cfg b op (b.plant.process? k) ((exec cfg b op).plant.process? k) := by
  rcases exec_cases cfg b op with ⟨b', r, h, he⟩ | ⟨⟨e, h⟩, he⟩
  swap
  · rw [he]
    refine .same _ fun q _ hq => ?_
    obtain ⟨⟨b', r, hok⟩, -⟩ := hq
    rw [h] at hok
    cases hok
  rw [he]
  have hrow :
      ∀ {p : Plant}, b'.plant.processes = p.processes → b'.plant.process? k = p.process? k :=
    fun hp => by unfold Plant.process?; rw [hp]
  have hsame : b'.plant.processes = b.plant.processes → op.looks = false →
      Turn cfg b op (b.plant.process? k) (b'.plant.process? k) := fun hp hlooks => by
    rw [hrow hp]
    refine .same _ fun q _ hblind => ?_
    cases op <;> first | exact hblind.2 | cases hlooks
  cases apply_plant hk h with
  | workers hop keepalive hp => exact hsame (by rw [hp]) hop
  | grouped _ _ _ _ hop hp | created _ _ _ _ hop hp | updated _ _ _ _ _ hop hp
    | configured _ _ _ _ _ _ hop hp => exact hsame (by rw [hp]) (by rw [hop]; rfl)
  | old now o token hop hs hp =>
    rw [hrow (by rw [hp]), hop]
    refine .same _ fun q _ hblind => ?_
    -- every node is older than what is known of it, and no node failed
    unfold Plant.staleObservation at hs
    simp only [Bool.and_eq_true, List.isEmpty_iff, List.all_eq_true] at hs
    rcases hblind.2 with ⟨n, hn, -, hstale, -⟩ | ⟨f, hf, -⟩
    · rw [hs.2 n hn] at hstale
      cases hstale
    · rw [hs.1.2] at hf
      cases hf
  | observed now o token hop hp =>
    rw [hp, hop]
    have hturn : b.plant.Turn cfg now o _ _ := ingested_turn hk.intact o token k
    generalize b.plant.process? k = r₀ at hturn
    generalize (b.ingested cfg now o token).1.plant.process? k = r₁ at hturn
    cases hturn with
    | same _ hq => exact .same _ fun q hr hblind => hq q hr hblind.2
    | current _ q hc => exact .present _ q hc.active hc.present
    | blind q ha => exact .present _ _ ha rfl
    | missed q ha hm hsees => exact .missed q ha hm fun hblind => hsees hblind.2
  | failed now e message code hop hp =>
    rw [hrow (by rw [hp]), hop]
    rcases providerFailed_process cfg b.plant e message code now k with ⟨hkept, haway⟩ |
      ⟨q, hq, ha, hcleared⟩
    · rw [hkept]
      refine .same _ fun q hr hblind => ?_
      obtain ⟨g, hg, hge, hon⟩ := hblind.2
      rw [haway q hr g hg hge] at hon
      cases hon
    · rw [hq, hcleared]
      exact .present _ _ ha rfl
  | stopped hop ps keepalive hp hstops =>
    have hretired : b'.plant.processes = (b.plant.retire ps).processes := by rw [hp]
    have hstop := row?_updWhere (p := fun x => x ∈ ps) (f := fun x => { x with active := false })
      (l := b.plant.processes) (k := k) fun x : ProcessObservation =>
        (rfl : ({ x with active := false } : ProcessObservation).identity = x.identity)
    rw [hrow hretired]
    unfold Plant.process? Plant.retire
    simp only
    rw [hstop]
    cases hr : row? ProcessObservation.identity k b.plant.processes with
    | none => exact .same _ fun q hq => by cases hq
    | some q =>
      rw [Option.map_some]
      by_cases hmem : q ∈ ps
      · rw [if_pos (decide_eq_true hmem)]
        exact .stopped q (hstops q hmem)
      · rw [if_neg (by simpa using hmem)]
        refine .same _ fun q' _ hblind => ?_
        cases op <;> first | exact hblind.2 | cases hop
  | pruned now hop hp =>
    rw [hop]
    have hfiltered : b'.plant.processes =
        b.plant.processes.filter fun x => ¬ x.lastSeenAt < now - days 7 := by
      rw [hp]
      rfl
    cases hr : b.plant.process? k with
    | none =>
      rw [process?_filtered_none hr hfiltered]
      exact .same _ fun q hq => by cases hq
    | some q =>
      rw [process?_filtered hk.intact hr hfiltered]
      split
      · exact .same _ fun q' _ hblind => hblind.2
      · rename_i hnot
        exact .dropped q (not_not.1 fun h => hnot (decide_eq_true h))
  | deleted now actor e key hop hp =>
    rw [hop]
    have hfiltered : b'.plant.processes = b.plant.processes.filter fun x => x.endpointId ≠ e ∧
        x.gpuId ∉ (b.plant.gpus.filter fun g => g.endpointId = e).map GPUDevice.id := by
      rw [hp]
      rfl
    cases hr : b.plant.process? k with
    | none =>
      rw [process?_filtered_none hr hfiltered]
      exact .same _ fun q hq => by cases hq
    | some q =>
      rw [process?_filtered hk.intact hr hfiltered]
      split
      · exact .same _ fun q' _ hblind => hblind.2
      · rename_i hnot
        rw [decide_eq_true_eq, not_and_or, not_not, not_not] at hnot
        refine .dropped q (hnot.imp_right fun hmem => ?_)
        obtain ⟨g, hg, hid⟩ := List.mem_map.1 hmem
        obtain ⟨hg, he⟩ := List.mem_filter.1 hg
        exact ⟨g, hg, of_decide_eq_true he, hid⟩

end

/-! ## Every run -/

/-- A complete look at `s`, later than its last sighting, missed the process; no accepted look at
its node since then failed, was partial or saw it. -/
def MissedSince (cfg : Config) (b₀ : Broker) (ops : List Op) (k : String × ℕ × String × Time)
    (q : ProcessObservation) (s : Time) : Prop :=
  ∃ pre first mid, ops = pre ++ first :: mid ∧ first.now = s ∧ q.lastSeenAt < s ∧
    (Run.run (exec cfg) b₀ pre).plant.process? k = some { q with absentSince := none } ∧
    first.misses (Run.run (exec cfg) b₀ pre) { q with absentSince := none } ∧
    ∀ mid₁ a mid₂, mid = mid₁ ++ a :: mid₂ →
      (Run.run (exec cfg) b₀ (pre ++ first :: mid₁)).plant.process? k = some q ∧
        ¬ a.blinds cfg (Run.run (exec cfg) b₀ (pre ++ first :: mid₁)) q

section

variable {cfg : Config} {b₀ : Broker} {ops : List Op} {op : Op} {k : String × ℕ × String × Time}
  {q : ProcessObservation} {s : Time}

/-- A transaction after which the row is as before adds to the time it was missed. -/
theorem MissedSince.later (h : MissedSince cfg b₀ ops k q s)
    (hq : (Run.run (exec cfg) b₀ ops).plant.process? k = some q)
    (hb : ¬ op.blinds cfg (Run.run (exec cfg) b₀ ops) q) :
    MissedSince cfg b₀ (ops ++ [op]) k q s := by
  obtain ⟨pre, first, mid, rfl, hs, hlast, hrow, hmiss, hmid⟩ := h
  refine ⟨pre, first, mid ++ [op], by simp, hs, hlast, hrow, hmiss, fun mid₁ a mid₂ heq => ?_⟩
  rcases List.eq_nil_or_concat mid₂ with rfl | ⟨mid₂, c, rfl⟩
  · obtain ⟨rfl, hop⟩ := List.append_inj' heq rfl
    obtain rfl := List.singleton_inj.1 hop
    exact ⟨hq, hb⟩
  · rw [List.concat_eq_append, ← List.cons_append, ← List.append_assoc] at heq
    obtain ⟨heq, -⟩ := List.append_inj' heq rfl
    exact hmid mid₁ a mid₂ heq

/-- **What lies behind a clock that runs.** -/
theorem missed_since (hs : Seeded b₀) (hq : (Run.run (exec cfg) b₀ ops).plant.process? k = some q)
    (ha : q.active = true) (hsince : q.absentSince = some s) : MissedSince cfg b₀ ops k q s := by
  induction ops using List.reverseRecOn generalizing q with
  | nil =>
    have hnone : b₀.plant.process? k = none := by
      unfold Plant.process?
      rw [hs.processes]
      rfl
    rw [Run.run_nil, hnone] at hq
    cases hq
  | append_singleton ops op ih =>
    have hk : Kept (Run.run (exec cfg) b₀ ops) := run_kept cfg ops hs.kept
    have hturn := exec_turn cfg op hk k
    rw [Run.run_concat] at hq
    rw [hq] at hturn
    generalize hr : (Run.run (exec cfg) b₀ ops).plant.process? k = r at hturn
    cases hturn with
    | same _ hno => exact (ih hr ha hsince).later hr (hno q rfl)
    | present _ _ _ hp =>
      rw [hp] at hsince
      cases hsince
    | stopped => cases ha
    | missed q₀ ha₀ hmiss hno =>
      rcases advance_cases cfg op.now q₀ with h | ⟨hclock, hlast, h⟩ | ⟨since, -, -, h⟩
      · rw [h] at hsince ⊢
        exact (ih hr ha₀ hsince).later hr hno
      · -- this look is the first to miss it
        rw [h] at hsince ⊢
        have hrest : ({ q₀ with absentSince := none } : ProcessObservation) = q₀ := by rw [← hclock]
        cases hsince
        refine ⟨ops, op, [], rfl, rfl, hlast, ?_, ?_, fun mid₁ a mid₂ heq => ?_⟩
        · rw [hr]
          exact congrArg some hrest.symm
        · rw [hrest]
          exact hmiss
        · cases mid₁ <;> cases heq
      · rw [h] at hsince
        cases hsince

/-- **When a process is gone.** A transaction after which an active process has no active row stops
its keeper, deletes its row, or is a complete look at its node that misses it again, the grace or
more after the look its absence counts from; no look in between failed, was partial or saw it. -/
theorem gone_after_grace (cfg : Config) (b₀ : Broker) (hs : Seeded b₀) (ops : List Op) (op : Op)
    (k : String × ℕ × String × Time) (q : ProcessObservation)
    (hq : (Run.run (exec cfg) b₀ ops).plant.process? k = some q) (ha : q.active = true)
    (hgone : ∀ q', (Run.run (exec cfg) b₀ (ops ++ [op])).plant.process? k = some q' →
      q'.active = false) :
    op.retires (Run.run (exec cfg) b₀ ops) q ∨ op.drops (Run.run (exec cfg) b₀ ops) q ∨
      op.misses (Run.run (exec cfg) b₀ ops) q ∧ ∃ s, q.absentSince = some s ∧
        cfg.absenceGrace ≤ op.now - s ∧ MissedSince cfg b₀ ops k q s := by
  have hk : Kept (Run.run (exec cfg) b₀ ops) := run_kept cfg ops hs.kept
  have hturn := exec_turn cfg op hk k
  rw [Run.run_concat] at hgone
  rw [hq] at hturn
  generalize (exec cfg (Run.run (exec cfg) b₀ ops) op).plant.process? k = r' at hturn hgone
  cases hturn with
  | same =>
    rw [hgone q rfl] at ha
    cases ha
  | present _ q' ha' =>
    rw [hgone q' rfl] at ha'
    cases ha'
  | stopped _ h => exact Or.inl h
  | dropped _ h => exact Or.inr (Or.inl h)
  | missed _ _ hmiss _ =>
    have hoff := hgone _ rfl
    rcases advance_cases cfg op.now q with h | ⟨-, -, h⟩ | ⟨s, hclock, hgrace, -⟩
    · rw [h, ha] at hoff
      cases hoff
    · rw [h, ha] at hoff
      cases hoff
    · exact Or.inr (Or.inr ⟨hmiss, s, hclock, hgrace, missed_since hs hq ha hclock⟩)

end

/-- A run in which a process is seen, missed once, and then missed again. -/
def seenAndMissed : List Op :=
  [.ingestObservation 0 (lookAtOne "alpha" "GPU-0" 0 [7]) sampleToken,
   .ingestObservation (seconds 60) (lookAtOne "alpha" "GPU-0" (seconds 60) []) sampleToken]

def missedOnce : ProcessObservation :=
  { endpointId := "alpha", gpuId := "alpha:GPU-0", pid := 7, bootId := "boot", processStartedAt := 0
    username := some "user", usedMemoryMib := 1000, firstSeenAt := 0, lastSeenAt := 0
    absentSince := some (seconds 60) }

theorem seenAndMissed_gone :
    (Run.run (exec plainConfig) sampleFleet (seenAndMissed ++ [.ingestObservation (seconds 600)
      (lookAtOne "alpha" "GPU-0" (seconds 600) []) sampleToken])).plant.process?
        missedOnce.identity = some { missedOnce with active := false, absentSince := none } ∧
      ∃ s, missedOnce.absentSince = some s ∧
        MissedSince plainConfig sampleFleet seenAndMissed missedOnce.identity missedOnce s := by
  have hrow : (Run.run (exec plainConfig) sampleFleet seenAndMissed).plant.process?
      missedOnce.identity = some missedOnce := by decide +kernel
  have hgone : (Run.run (exec plainConfig) sampleFleet (seenAndMissed ++ [.ingestObservation
      (seconds 600) (lookAtOne "alpha" "GPU-0" (seconds 600) []) sampleToken])).plant.process?
        missedOnce.identity = some { missedOnce with active := false, absentSince := none } := by
    decide +kernel
  have hcauses := gone_after_grace plainConfig sampleFleet sampleFleet_seeded seenAndMissed
    (.ingestObservation (seconds 600) (lookAtOne "alpha" "GPU-0" (seconds 600) []) sampleToken)
    missedOnce.identity missedOnce hrow rfl fun q hq => by
      rw [hgone] at hq
      cases hq
      rfl
  obtain ⟨-, s, hs, -, h⟩ := (hcauses.resolve_left id).resolve_left id
  exact ⟨hgone, s, hs, h⟩

end ServerPilot
