import ServerPilot.Proof.Fleet
import ServerPilot.Spec.Figures

/-!
# A holder is shown only its own work

Two runs that differ only in what was observed on one card, before a lease was
issued, show the holder the same figures (`shows_own_work`): what the figures read is
alike in both (`Alike`), from the lease's issue on. A card that joins its lease
later is not covered, nor is a process the two runs take for different ones.
-/

namespace ServerPilot

open Rows

variable {cfg : Config} {c : String} {S : Time}

/-! ## What is compared -/

/-- A sample of the card, not from before. -/
def ownSample (c : String) (S : Time) (s : TelemetrySample) : Bool :=
  decide (s.gpuId = c ∧ S ≤ s.observedAt)

/-- A process of another card, or not from before. -/
def ownProcess (c : String) (S : Time) (q : ProcessObservation) : Bool :=
  decide (q.gpuId ≠ c ∨ S ≤ q.firstSeenAt)

def TelemetrySample.stamp (s : TelemetrySample) : String × Time := (s.gpuId, s.observedAt)

def GPUDevice.device (g : GPUDevice) : String × String := (g.id, g.nodeId)

/-- **Alike**, but for what was observed on the card before. -/
structure Alike (c : String) (S : Time) (w w' : Watch) : Prop where
  ledger : w.ledger = w'.ledger
  hosts : w.hostObservedAt = w'.hostObservedAt
  devices : w.plant.gpus.map GPUDevice.device = w'.plant.gpus.map GPUDevice.device
  times : w.history.map TelemetrySample.stamp = w'.history.map TelemetrySample.stamp
  history : w.history.filter (ownSample c S) = w'.history.filter (ownSample c S)
  currentTimes : w.current.map TelemetrySample.stamp = w'.current.map TelemetrySample.stamp
  current : w.current.filter (ownSample c S) = w'.current.filter (ownSample c S)
  processes : w.plant.processes.filter (ownProcess c S) = w'.plant.processes.filter (ownProcess c S)
  vram : (w.plant.gpu? c).map GPUDevice.totalVramMib =
      (w'.plant.gpu? c).map GPUDevice.totalVramMib ∨
    w.history.filter (ownSample c S) = [] ∧ w.current.filter (ownSample c S) = []

/-- Everything observed on the card is from before. -/
structure Old (c : String) (S : Time) (w : Watch) : Prop where
  history : w.history.filter (ownSample c S) = []
  current : w.current.filter (ownSample c S) = []
  processes : ∀ q ∈ w.plant.processes, q.gpuId = c → q.firstSeenAt < S

/-- Two reports that differ only in the readings of the card and the processes on it. -/
structure NodeReport.DiffersOn (endpointId c : String) (o o' : NodeReport) : Prop where
  nodeId : o.nodeId = o'.nodeId
  observedAt : o.observedAt = o'.observedAt
  bootId : o.bootId = o'.bootId
  complete : o.observationComplete = o'.observationComplete
  cards : List.Forall₂ (fun s s' => s.gpuUuid = s'.gpuUuid ∧
    (gpuIdOf endpointId o.nodeId s.gpuUuid ≠ c → s = s')) o.cards o'.cards
  processes : o.processes.filter (fun x => gpuIdOf endpointId o.nodeId x.gpuUuid ≠ c) =
    o'.processes.filter fun x => gpuIdOf endpointId o.nodeId x.gpuUuid ≠ c

/-- Two acts that differ only in what is observed on the card. -/
def WatchAct.DiffersOn (c : String) : WatchAct → WatchAct → Prop
  | .observe endpointId now o, .observe endpointId' now' o' =>
    endpointId = endpointId' ∧ now = now' ∧ o.DiffersOn endpointId c o'
  | a, a' => a = a'

/-- The act is from before. -/
def WatchAct.Before (S : Time) : WatchAct → Prop
  | .observe _ now o => o.observedAt < S ∧ now < S
  | _ => True

/-- The plant after the cards of a report, before its processes. -/
def Watch.seen (w : Watch) (endpointId : String) (o : NodeReport) : Plant :=
  o.cards.foldl (fun p s => p.seeGpu endpointId o.nodeId o.observedAt s.toTelemetryInput) w.plant

/-- Both runs take every process seen on the card for the same row, or for a new one. -/
def TakenAlike (c : String) (ws : Watch × Watch) : WatchAct → Prop
  | .observe endpointId now o =>
    Run.Along
      (fun (ps : Plant × Plant) x =>
        (Watch.sight endpointId o now ps.1 x, Watch.sight endpointId o now ps.2 x))
      (fun ps x => gpuIdOf endpointId o.nodeId x.gpuUuid = c →
        (ps.1.sightedRow c o.bootId x).map ProcessObservation.identity =
          (ps.2.sightedRow c o.bootId x).map ProcessObservation.identity)
      (ws.1.seen endpointId o, ws.2.seen endpointId o) o.processes
  | _ => True

instance : ∀ (ws : Watch × Watch) a, Decidable (TakenAlike c ws a)
  | _, .observe _ _ o => inferInstanceAs (Decidable (Run.Along _ _ _ o.processes))
  | _, .fail .. | _, .prune _ | _, .commit _ => isTrue trivial

/-- Two runs doing the same. -/
def bothStep (cfg : Config) (ws : Watch × Watch) (a : WatchAct) : Watch × Watch :=
  (ws.1.step cfg a, ws.2.step cfg a)

/-! ## Cards -/

section Cards

variable {p p' : Plant} {e n : String} {t : Time} {s : TelemetryInput}

theorem seeGpu_devices : (p.seeGpu e n t s).gpus.map GPUDevice.device =
    if gpuIdOf e n s.gpuUuid ∈ (p.gpus.map GPUDevice.device).map Prod.fst then
      p.gpus.map GPUDevice.device
    else p.gpus.map GPUDevice.device ++ [(gpuIdOf e n s.gpuUuid, n)] := by
  have hmem : gpuIdOf e n s.gpuUuid ∈ (p.gpus.map GPUDevice.device).map Prod.fst ↔
      (p.gpu? (gpuIdOf e n s.gpuUuid)).isSome = true := by
    rw [List.map_map]
    unfold Plant.gpu? row?
    rw [List.find?_isSome, List.mem_map]
    constructor
    · rintro ⟨g, hg, hid⟩
      exact ⟨g, hg, decide_eq_true hid⟩
    · rintro ⟨g, hg, hid⟩
      exact ⟨g, hg, of_decide_eq_true hid⟩
  by_cases h : (p.gpu? (gpuIdOf e n s.gpuUuid)).isSome = true
  · rw [if_pos (hmem.2 h)]
    unfold Plant.seeGpu
    simp only [h, if_true]
    exact map_updWhere _ fun _ => rfl
  · rw [if_neg fun hm => h (hmem.1 hm)]
    unfold Plant.seeGpu
    simp only [h, if_false, Bool.false_eq_true]
    rw [List.map_append]
    rfl

theorem seeGpu_vram : ((p.seeGpu e n t s).gpu? c).map GPUDevice.totalVramMib =
    if gpuIdOf e n s.gpuUuid = c then some s.totalVramMib
    else (p.gpu? c).map GPUDevice.totalVramMib := by
  by_cases h : (p.gpu? (gpuIdOf e n s.gpuUuid)).isSome = true
  · unfold Plant.seeGpu
    simp only [h, if_true]
    unfold Plant.gpu?
    rw [row?_updWhere (by intro a; rfl), Option.map_map]
    split
    · rename_i hc
      rw [hc] at h
      obtain ⟨g, hg⟩ := Option.isSome_iff_exists.1 h
      unfold Plant.gpu? at hg
      rw [hg, Option.map_some]
      simp [(row?_some hg).2, hc]
    · rename_i hc
      cases hg : row? GPUDevice.id c p.gpus with
      | none => rfl
      | some g =>
        have hid : g.id ≠ gpuIdOf e n s.gpuUuid := fun heq =>
          hc (heq.symm.trans (row?_some hg).2)
        simp [hid]
  · unfold Plant.seeGpu
    simp only [h, if_false, Bool.false_eq_true]
    unfold Plant.gpu?
    rw [row?_append]
    split
    · rename_i hc
      rw [hc] at h
      have hnone : row? GPUDevice.id c p.gpus = none := by
        cases hg : row? GPUDevice.id c p.gpus with
        | none => rfl
        | some g =>
          unfold Plant.gpu? at h
          rw [hg] at h
          exact absurd rfl h
      rw [hnone]
      simp [row?, hc]
    · rename_i hc
      cases hg : row? GPUDevice.id c p.gpus with
      | some g => rfl
      | none => simp [row?, hc]

theorem seen_processes {w : Watch} {o : NodeReport} :
    (w.seen e o).processes = w.plant.processes := by
  unfold Watch.seen
  generalize w.plant = p
  induction o.cards generalizing p with
  | nil => rfl
  | cons s l ih => exact ih _

/-- The same cards, by their ids. -/
theorem foldl_seeGpu_devices {l l' : List CardSample}
    (hl : List.Forall₂ (fun s s' => s.gpuUuid = s'.gpuUuid) l l')
    (hp : p.gpus.map GPUDevice.device = p'.gpus.map GPUDevice.device) :
    (l.foldl (fun p s => p.seeGpu e n t s.toTelemetryInput) p).gpus.map GPUDevice.device =
      (l'.foldl (fun p s => p.seeGpu e n t s.toTelemetryInput) p').gpus.map GPUDevice.device := by
  induction hl generalizing p p' with
  | nil => exact hp
  | @cons s s' l l' hs _ ih =>
    refine ih ?_
    rw [seeGpu_devices, seeGpu_devices, hp, hs]

/-- The same readings: the card's memory is the same, or it was not read. -/
theorem foldl_seeGpu_vram {l : List CardSample}
    (h : (p.gpu? c).map GPUDevice.totalVramMib = (p'.gpu? c).map GPUDevice.totalVramMib ∨
      ∃ s ∈ l, gpuIdOf e n s.gpuUuid = c) :
    ((l.foldl (fun p s => p.seeGpu e n t s.toTelemetryInput) p).gpu? c).map
        GPUDevice.totalVramMib =
      ((l.foldl (fun p s => p.seeGpu e n t s.toTelemetryInput) p').gpu? c).map
        GPUDevice.totalVramMib := by
  induction l generalizing p p' with
  | nil =>
    rcases h with h | ⟨s, hs, -⟩
    · exact h
    · cases hs
  | cons s l ih =>
    refine ih ?_
    rw [seeGpu_vram, seeGpu_vram]
    by_cases hc : gpuIdOf e n s.gpuUuid = c
    · left
      rw [if_pos hc, if_pos hc]
    · rw [if_neg hc, if_neg hc]
      rcases h with h | ⟨s', hs', hc'⟩
      · exact Or.inl h
      · rcases List.mem_cons.1 hs' with rfl | hs'
        · exact absurd hc' hc
        · exact Or.inr ⟨s', hs', hc'⟩

end Cards

/-! ## Processes -/

section Processes

variable {p p' : Plant} {e : String} {o o' : NodeReport} {now : Time} {x : ProcessInput}

/-- The rows after a process was taken for one of this identity, or for a new one. -/
def sightedRows (e : String) (o : NodeReport) (now : Time) (x : ProcessInput)
    (taken : Option (String × ℕ × String × Time)) (rows : List ProcessObservation) :
    List ProcessObservation :=
  match taken with
  | some i => updWhere (fun q => q.identity = i) (ProcessObservation.sighted now x) rows
  | none => rows ++ [{
      endpointId := e, gpuId := gpuIdOf e o.nodeId x.gpuUuid, pid := x.pid, bootId := o.bootId
      processStartedAt := x.processStartedAt, username := x.username
      usedMemoryMib := x.usedMemoryMib, firstSeenAt := now, lastSeenAt := now }]

theorem sight_processes : (Watch.sight e o now p x).processes =
    if x.gpuUuid ∉ o.cards.map fun s => s.gpuUuid then p.processes
    else sightedRows e o now x ((p.sightedRow (gpuIdOf e o.nodeId x.gpuUuid) o.bootId x).map
      ProcessObservation.identity) p.processes := by
  unfold Watch.sight Plant.sight sightedRows
  split
  · rfl
  · simp only
    split <;> rename_i h <;> rw [h] <;> rfl

theorem sight_gpus : (Watch.sight e o now p x).gpus = p.gpus := by
  unfold Watch.sight Plant.sight
  split
  · rfl
  · simp only
    split <;> rfl

theorem ownProcess_sighted (q : ProcessObservation) :
    ownProcess c S (q.sighted now x) = ownProcess c S q := rfl

/-- What is compared of the rows depends only on what is compared before, and on the row taken. -/
theorem sightedRows_own {taken : Option (String × ℕ × String × Time)}
    {rows rows' : List ProcessObservation}
    (h : rows.filter (ownProcess c S) = rows'.filter (ownProcess c S)) :
    (sightedRows e o now x taken rows).filter (ownProcess c S) =
      (sightedRows e o now x taken rows').filter (ownProcess c S) := by
  cases taken with
  | some i =>
    unfold sightedRows
    simp only
    rw [filter_updWhere rows fun q => ownProcess_sighted q,
      filter_updWhere rows' fun q => ownProcess_sighted q, h]
  | none =>
    unfold sightedRows
    simp only
    rw [List.filter_append, List.filter_append, h]

/-- A process is looked for among the rows of its card. -/
theorem sightedRow_congr {g boot : String}
    (h : p.processes.filter (fun q => q.gpuId = g) = p'.processes.filter fun q => q.gpuId = g) :
    p.sightedRow g boot x = p'.sightedRow g boot x := by
  have hsame : ∀ p : Plant, (p.processes.find? fun q =>
      q.identity = (g, x.pid, boot, x.processStartedAt)) =
      (p.processes.filter fun q => q.gpuId = g).find? fun q =>
        q.identity = (g, x.pid, boot, x.processStartedAt) := by
    intro p
    rw [List.find?_filter]
    refine congrArg (fun f => List.find? f p.processes) (funext fun q => ?_)
    by_cases hq : q.identity = (g, x.pid, boot, x.processStartedAt)
    · have hg : q.gpuId = g := congrArg Prod.fst hq
      simp [hq, hg]
    · simp [hq]
  have hactive : ∀ p : Plant, (p.processes.filter fun q =>
      q.gpuId = g ∧ q.pid = x.pid ∧ q.bootId = boot ∧ q.active = true) =
      (p.processes.filter fun q => q.gpuId = g).filter fun q =>
        q.gpuId = g ∧ q.pid = x.pid ∧ q.bootId = boot ∧ q.active = true := by
    intro p
    rw [List.filter_filter]
    refine List.filter_congr fun q _ => ?_
    by_cases hg : q.gpuId = g <;> simp [hg]
  unfold Plant.sightedRow
  rw [hsame p, hsame p', hactive p, hactive p', h]

/-- The rows of another card are all compared. -/
theorem rows_of_own {g : String} (hg : g ≠ c)
    (h : p.processes.filter (ownProcess c S) = p'.processes.filter (ownProcess c S)) :
    p.processes.filter (fun q => q.gpuId = g) = p'.processes.filter fun q => q.gpuId = g := by
  have hthrough : ∀ p : Plant, (p.processes.filter fun q => q.gpuId = g) =
      (p.processes.filter (ownProcess c S)).filter fun q => q.gpuId = g := by
    intro p
    rw [List.filter_filter]
    refine List.filter_congr fun q _ => ?_
    by_cases hq : q.gpuId = g
    · simp [hq, ownProcess, hg]
    · simp [hq]
  rw [hthrough p, hthrough p', h]

/-- A process seen in both runs. -/
theorem sight_own
    (htaken : gpuIdOf e o.nodeId x.gpuUuid = c →
      (p.sightedRow c o.bootId x).map ProcessObservation.identity =
        (p'.sightedRow c o.bootId x).map ProcessObservation.identity)
    (h : p.processes.filter (ownProcess c S) = p'.processes.filter (ownProcess c S)) :
    (Watch.sight e o now p x).processes.filter (ownProcess c S) =
      (Watch.sight e o now p' x).processes.filter (ownProcess c S) := by
  have hrow : (p.sightedRow (gpuIdOf e o.nodeId x.gpuUuid) o.bootId x).map
      ProcessObservation.identity =
      (p'.sightedRow (gpuIdOf e o.nodeId x.gpuUuid) o.bootId x).map
        ProcessObservation.identity := by
    by_cases hc : gpuIdOf e o.nodeId x.gpuUuid = c
    · rw [hc]
      exact htaken hc
    · rw [sightedRow_congr (rows_of_own hc h)]
  rw [sight_processes, sight_processes, hrow]
  split
  · exact h
  · exact sightedRows_own h

/-- The processes of one report, in both runs. -/
theorem foldl_sight_own {l : List ProcessInput}
    (htaken : Run.Along
      (fun (ps : Plant × Plant) x => (Watch.sight e o now ps.1 x, Watch.sight e o now ps.2 x))
      (fun ps x => gpuIdOf e o.nodeId x.gpuUuid = c →
        (ps.1.sightedRow c o.bootId x).map ProcessObservation.identity =
          (ps.2.sightedRow c o.bootId x).map ProcessObservation.identity) (p, p') l)
    (h : p.processes.filter (ownProcess c S) = p'.processes.filter (ownProcess c S)) :
    (l.foldl (Watch.sight e o now) p).processes.filter (ownProcess c S) =
      (l.foldl (Watch.sight e o now) p').processes.filter (ownProcess c S) := by
  induction l generalizing p p' with
  | nil => exact h
  | cons x l ih => exact ih htaken.2 (sight_own htaken.1 h)

theorem foldl_sight_gpus {l : List ProcessInput} :
    (l.foldl (Watch.sight e o now) p).gpus = p.gpus := by
  induction l generalizing p with
  | nil => rfl
  | cons x l ih => exact ih.trans sight_gpus

/-! ### Before -/

theorem sightedRow_mem {g boot : String} {q : ProcessObservation}
    (h : p.sightedRow g boot x = some q) : q ∈ p.processes ∧ q.gpuId = g := by
  unfold Plant.sightedRow at h
  rcases Option.or_eq_some_iff.1 h with hsame | ⟨-, hlatest⟩
  · have hid : q.identity = (g, x.pid, boot, x.processStartedAt) := by
      simpa using List.find?_some hsame
    exact ⟨List.mem_of_find?_eq_some hsame, congrArg Prod.fst hid⟩
  · obtain ⟨hmem, hq⟩ := List.mem_filter.1 (latest_mem (Option.filter_eq_some_iff.1 hlatest).1)
    exact ⟨hmem, (of_decide_eq_true hq).1⟩

/-- A process seen before leaves only rows from before. -/
theorem sight_old (hnow : now < S)
    (hold : ∀ q ∈ p.processes, q.gpuId = c → q.firstSeenAt < S) :
    ∀ q ∈ (Watch.sight e o now p x).processes, q.gpuId = c → q.firstSeenAt < S := by
  rw [sight_processes]
  intro q hq hc
  split at hq
  · exact hold q hq hc
  · unfold sightedRows at hq
    split at hq
    · obtain ⟨a, ha, ⟨-, rfl⟩ | ⟨-, rfl⟩⟩ := mem_updWhere.1 hq
      · exact hold a ha hc
      · exact hold q ha hc
    · rcases List.mem_append.1 hq with hq | hq
      · exact hold q hq hc
      · rw [List.mem_singleton.1 hq]
        exact hnow

/-- A process seen on the card before is not compared. -/
theorem sight_before (hnow : now < S) (hc : gpuIdOf e o.nodeId x.gpuUuid = c)
    (hold : ∀ q ∈ p.processes, q.gpuId = c → q.firstSeenAt < S) :
    (Watch.sight e o now p x).processes.filter (ownProcess c S) =
      p.processes.filter (ownProcess c S) := by
  rw [sight_processes]
  split
  · rfl
  · cases hrow : p.sightedRow (gpuIdOf e o.nodeId x.gpuUuid) o.bootId x with
    | some r =>
      obtain ⟨hr, hgpu⟩ := sightedRow_mem hrow
      unfold sightedRows
      simp only [Option.map_some]
      rw [filter_updWhere _ fun q => ownProcess_sighted q]
      -- no compared row has the identity of a row of the card
      refine updWhere_of_none fun q hq => decide_eq_false fun hid => ?_
      obtain ⟨hmem, hown⟩ := List.mem_filter.1 hq
      have hqc : q.gpuId = c := (congrArg Prod.fst hid).trans (hgpu.trans hc)
      rcases of_decide_eq_true hown with hne | hle
      · exact hne hqc
      · exact absurd (hold q hmem hqc) (not_lt_of_ge hle)
    | none =>
      unfold sightedRows
      simp only [Option.map_none]
      rw [List.filter_append]
      have hnew : ¬ (gpuIdOf e o.nodeId x.gpuUuid ≠ c ∨ S ≤ now) := by
        rintro (hne | hle)
        · exact hne hc
        · exact absurd hnow (not_lt_of_ge hle)
      simp [ownProcess, hnew]

theorem foldl_sight_old {l : List ProcessInput} (hnow : now < S)
    (hold : ∀ q ∈ p.processes, q.gpuId = c → q.firstSeenAt < S) :
    ∀ q ∈ (l.foldl (Watch.sight e o now) p).processes, q.gpuId = c → q.firstSeenAt < S := by
  induction l generalizing p with
  | nil => exact hold
  | cons x l ih => exact ih (sight_old hnow hold)

/-- Processes of other cards are taken in alike. -/
theorem foldl_sight_others {l : List ProcessInput} (hl : ∀ x ∈ l, gpuIdOf e o.nodeId x.gpuUuid ≠ c)
    (h : p.processes.filter (ownProcess c S) = p'.processes.filter (ownProcess c S)) :
    (l.foldl (Watch.sight e o now) p).processes.filter (ownProcess c S) =
      (l.foldl (Watch.sight e o now) p').processes.filter (ownProcess c S) := by
  induction l generalizing p p' with
  | nil => exact h
  | cons x l ih =>
    have hx : gpuIdOf e o.nodeId x.gpuUuid ≠ c := hl x List.mem_cons_self
    exact ih (fun y hy => hl y (List.mem_cons_of_mem _ hy))
      (sight_own (fun hc => absurd hc hx) h)

/-- Of the processes of a report from before, only those of other cards matter. -/
theorem foldl_sight_before {l : List ProcessInput} (hnow : now < S)
    (hold : ∀ q ∈ p.processes, q.gpuId = c → q.firstSeenAt < S) :
    (l.foldl (Watch.sight e o now) p).processes.filter (ownProcess c S) =
      ((l.filter fun x => gpuIdOf e o.nodeId x.gpuUuid ≠ c).foldl
        (Watch.sight e o now) p).processes.filter (ownProcess c S) := by
  induction l generalizing p with
  | nil => rfl
  | cons x l ih =>
    rw [List.foldl_cons, ih (sight_old hnow hold)]
    by_cases hc : gpuIdOf e o.nodeId x.gpuUuid = c
    · rw [List.filter_cons_of_neg (by simp [hc])]
      refine foldl_sight_others ?_ (sight_before hnow hc hold)
      intro y hy
      exact of_decide_eq_true (List.mem_filter.1 hy).2
    · rw [List.filter_cons_of_pos (by simp [hc])]
      rfl

/-! ### Absence -/

/-- The absence clock leaves a row's card and first sighting. -/
theorem aged_kept (complete : Bool) (q : ProcessObservation) :
    (if complete = true then q.advance cfg now else { q with absentSince := none }).gpuId =
        q.gpuId ∧
      (if complete = true then q.advance cfg now
        else { q with absentSince := none }).firstSeenAt = q.firstSeenAt := by
  cases complete with
  | false => exact ⟨rfl, rfl⟩
  | true =>
    unfold ProcessObservation.advance
    simp only [if_true]
    split
    · split <;> exact ⟨rfl, rfl⟩
    · split <;> exact ⟨rfl, rfl⟩

theorem ownProcess_aged (complete : Bool) (q : ProcessObservation) :
    ownProcess c S (if complete = true then q.advance cfg now else { q with absentSince := none }) =
      ownProcess c S q := by
  unfold ownProcess
  rw [(aged_kept complete q).1, (aged_kept complete q).2]

/-- The absence clock moves alike. -/
theorem absence_own {n : String} {complete : Bool}
    (hgpus : p.gpus.map GPUDevice.device = p'.gpus.map GPUDevice.device)
    (h : p.processes.filter (ownProcess c S) = p'.processes.filter (ownProcess c S)) :
    (p.advanceProcessAbsence cfg e n complete now).processes.filter (ownProcess c S) =
      (p'.advanceProcessAbsence cfg e n complete now).processes.filter (ownProcess c S) := by
  have hids : ∀ p : Plant, p.nodeGpuIds n =
      ((p.gpus.map GPUDevice.device).filter fun d => d.2 = n).map Prod.fst := by
    intro p
    unfold Plant.nodeGpuIds
    rw [List.filter_map, List.map_map]
    rfl
  have hnode : p.onNode e n = p'.onNode e n := by
    funext q
    unfold Plant.onNode
    rw [hids p, hids p', hgpus]
  unfold Plant.advanceProcessAbsence
  simp only
  rw [filter_updWhere _ (ownProcess_aged complete), filter_updWhere _ (ownProcess_aged complete),
    hnode, h]

theorem absence_old {n : String} {complete : Bool}
    (hold : ∀ q ∈ p.processes, q.gpuId = c → q.firstSeenAt < S) :
    ∀ q ∈ (p.advanceProcessAbsence cfg e n complete now).processes,
      q.gpuId = c → q.firstSeenAt < S := by
  intro q hq hc
  obtain ⟨a, ha, ⟨-, rfl⟩ | ⟨-, rfl⟩⟩ := mem_updWhere.1 hq
  · rw [(aged_kept complete a).1] at hc
    rw [(aged_kept complete a).2]
    exact hold a ha hc
  · exact hold q ha hc

end Processes

/-! ## Samples -/

section Samples

variable {e : String} {o o' : NodeReport} {s s' : TelemetrySample} {h h' : List TelemetrySample}

theorem map_filter_stamp (f : String × Time → Bool) (l : List TelemetrySample) :
    (l.filter fun s => f s.stamp).map TelemetrySample.stamp =
      (l.map TelemetrySample.stamp).filter f := by
  rw [List.filter_map]
  rfl

/-- Whether a history point is due depends on times alone. -/
theorem due_congr (hh : h.map TelemetrySample.stamp = h'.map TelemetrySample.stamp)
    (hs : s.stamp = s'.stamp) : Watch.due h s = Watch.due h' s' := by
  have htimes : ∀ (l : List TelemetrySample) (s : TelemetrySample),
      (l.filter fun t => t.gpuId = s.gpuId).map TelemetrySample.observedAt =
        ((l.map TelemetrySample.stamp).filter fun t => t.1 = s.stamp.1).map Prod.snd := by
    intro l s
    rw [← map_filter_stamp, List.map_map]
    rfl
  have hobserved : s.observedAt = s'.observedAt := congrArg Prod.snd hs
  unfold Watch.due
  rw [htimes h s, htimes h' s', hh, hs, hobserved]

/-- The rows of two reports that differ on the card have the same times. -/
theorem rows_stamps (hd : o.DiffersOn e c o') :
    (o.cards.map (Watch.row e o)).map TelemetrySample.stamp =
      (o'.cards.map (Watch.row e o')).map TelemetrySample.stamp := by
  have hcards := hd.cards
  have hnode := hd.nodeId
  have hobserved := hd.observedAt
  generalize o.cards = l at hcards ⊢
  generalize o'.cards = l' at hcards ⊢
  induction hcards with
  | nil => rfl
  | cons hs _ ih =>
    rw [List.map_cons, List.map_cons, List.map_cons, List.map_cons, ih]
    have hstamp : ∀ s s' : CardSample, s.gpuUuid = s'.gpuUuid →
        (Watch.row e o s).stamp = (Watch.row e o' s').stamp := by
      intro s s' huuid
      unfold Watch.row TelemetrySample.stamp
      simp only [hnode, hobserved, huuid]
    rw [hstamp _ _ hs.1]

/-- A history extended by what is due keeps its times alike. -/
theorem history_times {rows rows' : List TelemetrySample}
    (hh : h.map TelemetrySample.stamp = h'.map TelemetrySample.stamp)
    (hrows : rows.map TelemetrySample.stamp = rows'.map TelemetrySample.stamp) :
    (h ++ rows.filter (Watch.due h)).map TelemetrySample.stamp =
      (h' ++ rows'.filter (Watch.due h')).map TelemetrySample.stamp := by
  rw [List.map_append, List.map_append, hh]
  congr 1
  -- row by row, a point is due in both or in neither
  have hpair : List.Forall₂ (fun s s' => s.stamp = s'.stamp) rows rows' := by
    have heq : List.Forall₂ (fun t t' => t = t') (rows.map TelemetrySample.stamp)
        (rows'.map TelemetrySample.stamp) := List.forall₂_eq_eq_eq ▸ hrows
    rw [List.forall₂_map_left_iff, List.forall₂_map_right_iff] at heq
    exact heq
  clear hrows
  induction hpair with
  | nil => rfl
  | @cons s s' l l' hs _ ih =>
    rw [List.filter_cons, List.filter_cons, due_congr hh hs]
    split
    · rw [List.map_cons, List.map_cons, ih, hs]
    · exact ih

theorem replace_stamps (l : List TelemetrySample) (s : TelemetrySample) :
    (Watch.replace l s).map TelemetrySample.stamp =
      ((l.map TelemetrySample.stamp).filter fun t => t.1 ≠ s.stamp.1) ++ [s.stamp] := by
  unfold Watch.replace
  rw [List.map_append, ← map_filter_stamp]
  rfl

theorem foldl_replace_stamps {rows rows' : List TelemetrySample}
    (hh : h.map TelemetrySample.stamp = h'.map TelemetrySample.stamp)
    (hrows : rows.map TelemetrySample.stamp = rows'.map TelemetrySample.stamp) :
    (rows.foldl Watch.replace h).map TelemetrySample.stamp =
      (rows'.foldl Watch.replace h').map TelemetrySample.stamp := by
  induction rows generalizing rows' h h' with
  | nil =>
    rw [List.map_nil] at hrows
    rw [List.map_eq_nil_iff.1 hrows.symm]
    exact hh
  | cons s l ih =>
    cases rows' with
    | nil => cases hrows
    | cons s' l' =>
      rw [List.map_cons, List.map_cons] at hrows
      obtain ⟨hs, hl⟩ := List.cons.inj hrows
      have hreplaced : (Watch.replace h s).map TelemetrySample.stamp =
          (Watch.replace h' s').map TelemetrySample.stamp := by
        rw [replace_stamps, replace_stamps, hh, hs]
      show (l.foldl Watch.replace (Watch.replace h s)).map TelemetrySample.stamp =
        (l'.foldl Watch.replace (Watch.replace h' s')).map TelemetrySample.stamp
      exact ih hreplaced hl

theorem replace_own (l : List TelemetrySample) (s : TelemetrySample) :
    (Watch.replace l s).filter (ownSample c S) =
      (l.filter (ownSample c S)).filter (fun t => t.gpuId ≠ s.gpuId) ++
        [s].filter (ownSample c S) := by
  unfold Watch.replace
  rw [List.filter_append, List.filter_filter, List.filter_filter]
  congr 2
  funext t
  exact Bool.and_comm _ _

/-- The same readings are taken in alike. -/
theorem foldl_replace_own {rows : List TelemetrySample}
    (hh : h.filter (ownSample c S) = h'.filter (ownSample c S)) :
    (rows.foldl Watch.replace h).filter (ownSample c S) =
      (rows.foldl Watch.replace h').filter (ownSample c S) := by
  induction rows generalizing h h' with
  | nil => exact hh
  | cons s l ih =>
    refine ih ?_
    rw [replace_own, replace_own, hh]

/-- Readings from before are not compared. -/
theorem foldl_replace_old {rows : List TelemetrySample} (hrows : ∀ s ∈ rows, s.observedAt < S)
    (hh : h.filter (ownSample c S) = []) :
    (rows.foldl Watch.replace h).filter (ownSample c S) = [] := by
  induction rows generalizing h with
  | nil => exact hh
  | cons s l ih =>
    refine ih (fun t ht => hrows t (List.mem_cons_of_mem _ ht)) ?_
    have hs : ¬ S ≤ s.observedAt := not_le_of_gt (hrows s List.mem_cons_self)
    rw [replace_own, hh]
    simp [ownSample, hs]

theorem history_old {rows : List TelemetrySample} (hrows : ∀ s ∈ rows, s.observedAt < S)
    (hh : h.filter (ownSample c S) = []) :
    (h ++ rows.filter (Watch.due h)).filter (ownSample c S) = [] := by
  rw [List.filter_append, hh, List.nil_append, List.filter_eq_nil_iff]
  intro s hs hown
  have hle : S ≤ s.observedAt := (of_decide_eq_true hown).2
  exact absurd (hrows s (List.mem_filter.1 hs).1) (not_lt_of_ge hle)

end Samples

/-! ## Steps -/

section Steps

variable {w w' : Watch} {a a' : WatchAct} {e n : String} {now : Time} {o o' : NodeReport}

theorem observe_gpu? {p : Plant} {complete : Bool} {l : List ProcessInput} {node : String} :
    ((l.foldl (Watch.sight e o now) p).advanceProcessAbsence cfg e node complete now).gpu? c =
      p.gpu? c := by
  unfold Plant.gpu? Plant.advanceProcessAbsence
  simp only
  rw [foldl_sight_gpus]

/-- What is observed before is from before. -/
theorem Old.step (h : Old c S w) (hb : a.Before S) : Old c S (w.step cfg a) := by
  cases a with
  | observe e now o =>
    obtain ⟨hobserved, hnow⟩ := hb
    have hrows : ∀ s ∈ o.cards.map (Watch.row e o), s.observedAt < S := by
      intro s hs
      obtain ⟨card, -, rfl⟩ := List.mem_map.1 hs
      exact hobserved
    unfold Watch.step Watch.observe
    simp only
    split
    · exact h
    · refine ⟨history_old hrows h.history, foldl_replace_old hrows h.current, ?_⟩
      refine absence_old (foldl_sight_old hnow ?_)
      rw [show (o.cards.foldl (fun p s => p.seeGpu e o.nodeId o.observedAt s.toTelemetryInput)
        w.plant).processes = w.plant.processes from seen_processes (w := w)]
      exact h.processes
  | fail e n now => exact { h with processes := absence_old h.processes }
  | prune now =>
    refine ⟨?_, h.current, fun q hq => h.processes q (List.mem_filter.1 hq).1⟩
    show (w.history.filter _).filter (ownSample c S) = []
    rw [List.filter_comm, h.history]
    rfl
  | commit l => exact { h with }

theorem Alike.fail (h : Alike c S w w') : Alike c S (w.fail cfg e n now) (w'.fail cfg e n now) :=
  { h with processes := absence_own h.devices h.processes }

theorem Alike.prune (h : Alike c S w w') : Alike c S (w.prune now) (w'.prune now) := by
  have hfilter : ∀ {α : Type} {f g : α → Bool} {l l' : List α}, l.filter g = l'.filter g →
      (l.filter f).filter g = (l'.filter f).filter g := by
    intro α f g l l' hl
    rw [List.filter_comm, hl, List.filter_comm]
  refine { h with
    times := ?_, history := hfilter h.history, processes := hfilter h.processes, vram := ?_ }
  · show (w.history.filter fun s => decide ¬ s.stamp.2 < _).map TelemetrySample.stamp =
      (w'.history.filter fun s => decide ¬ s.stamp.2 < _).map TelemetrySample.stamp
    rw [map_filter_stamp fun t => decide ¬ t.2 < now - seconds 86400,
      map_filter_stamp fun t => decide ¬ t.2 < now - seconds 86400, h.times]
  · refine h.vram.imp id fun hnone => ⟨?_, hnone.2⟩
    show (w.history.filter _).filter (ownSample c S) = []
    rw [List.filter_comm, hnone.1]
    rfl

/-- Reports that differ on the card see the same other processes. -/
theorem sight_differs (hd : o.DiffersOn e c o') : Watch.sight e o now = Watch.sight e o' now := by
  have huuids : (o.cards.map fun s => s.gpuUuid) = o'.cards.map fun s => s.gpuUuid := by
    have hcards := hd.cards
    generalize o.cards = l at hcards ⊢
    generalize o'.cards = l' at hcards ⊢
    induction hcards with
    | nil => rfl
    | cons hs _ ih => rw [List.map_cons, List.map_cons, hs.1, ih]
  funext p x
  unfold Watch.sight
  rw [hd.nodeId, hd.bootId, huuids]

/-- **Before.** Reports that differ on the card keep the rest alike. -/
theorem Alike.observe_before (h : Alike c S w w') (ho : Old c S w) (ho' : Old c S w')
    (hd : o.DiffersOn e c o') (hobserved : o.observedAt < S) (hnow : now < S) :
    Alike c S (w.observe cfg e now o) (w'.observe cfg e now o') := by
  have hold : Old c S (w.observe cfg e now o) :=
    ho.step (a := .observe e now o) ⟨hobserved, hnow⟩
  have hold' : Old c S (w'.observe cfg e now o') :=
    ho'.step (a := .observe e now o') ⟨hd.observedAt ▸ hobserved, hnow⟩
  have hstamps := rows_stamps hd
  have huuid : List.Forall₂ (fun s s' : CardSample => s.gpuUuid = s'.gpuUuid) o.cards o'.cards :=
    hd.cards.imp fun _ _ hs => hs.1
  have hdevices : (w.seen e o).gpus.map GPUDevice.device =
      (w'.seen e o').gpus.map GPUDevice.device := by
    unfold Watch.seen
    rw [← hd.nodeId, ← hd.observedAt]
    exact foldl_seeGpu_devices huuid h.devices
  have hprocesses : (o.processes.foldl (Watch.sight e o now) (w.seen e o)).processes.filter
      (ownProcess c S) =
      (o'.processes.foldl (Watch.sight e o' now) (w'.seen e o')).processes.filter
        (ownProcess c S) := by
    have hseen : (w.seen e o).processes.filter (ownProcess c S) =
        (w'.seen e o').processes.filter (ownProcess c S) := by
      rw [seen_processes, seen_processes]
      exact h.processes
    have hleft : ∀ q ∈ (w.seen e o).processes, q.gpuId = c → q.firstSeenAt < S := by
      rw [seen_processes]
      exact ho.processes
    have hright : ∀ q ∈ (w'.seen e o').processes, q.gpuId = c → q.firstSeenAt < S := by
      rw [seen_processes]
      exact ho'.processes
    rw [← sight_differs hd, foldl_sight_before hnow hleft, foldl_sight_before hnow hright,
      hd.processes]
    refine foldl_sight_others (fun x hx => ?_) hseen
    exact of_decide_eq_true (List.mem_filter.1 hx).2
  by_cases hstale : (w.hostObservedAt e o.nodeId).any (fun t => decide (o.observedAt < t)) = true
  · have hstale' : (w'.hostObservedAt e o'.nodeId).any (fun t => decide (o'.observedAt < t)) =
        true := by
      rw [← h.hosts, ← hd.nodeId, ← hd.observedAt]
      exact hstale
    unfold Watch.observe
    rw [if_pos hstale, if_pos hstale']
    exact h
  · have hstale' : ¬ (w'.hostObservedAt e o'.nodeId).any (fun t => decide (o'.observedAt < t)) =
        true := by
      rw [← h.hosts, ← hd.nodeId, ← hd.observedAt]
      exact hstale
    refine ⟨?_, ?_, ?_, ?_, hold.history.trans hold'.history.symm, ?_,
      hold.current.trans hold'.current.symm, ?_, Or.inr ⟨hold.history, hold.current⟩⟩
    all_goals unfold Watch.observe; rw [if_neg hstale, if_neg hstale']
    · exact h.ledger
    · simp only [h.hosts, hd.nodeId, hd.observedAt]
    · show (o.processes.foldl (Watch.sight e o now) (w.seen e o)).gpus.map _ =
        (o'.processes.foldl (Watch.sight e o' now) (w'.seen e o')).gpus.map _
      rw [foldl_sight_gpus, foldl_sight_gpus]
      exact hdevices
    · exact history_times h.times hstamps
    · exact foldl_replace_stamps h.currentTimes hstamps
    · show (((o.processes.foldl (Watch.sight e o now) (w.seen e o)).advanceProcessAbsence cfg e
        o.nodeId o.observationComplete now).processes.filter _) =
        ((o'.processes.foldl (Watch.sight e o' now) (w'.seen e o')).advanceProcessAbsence cfg e
          o'.nodeId o'.observationComplete now).processes.filter _
      rw [← hd.nodeId, ← hd.complete]
      refine absence_own ?_ hprocesses
      rw [foldl_sight_gpus, foldl_sight_gpus]
      exact hdevices

/-- **From then on.** The same report keeps the two runs alike. -/
theorem Alike.observe_after (h : Alike c S w w')
    (ht : TakenAlike c (w, w') (.observe e now o)) :
    Alike c S (w.observe cfg e now o) (w'.observe cfg e now o) := by
  have hdevices : (w.seen e o).gpus.map GPUDevice.device =
      (w'.seen e o).gpus.map GPUDevice.device :=
    foldl_seeGpu_devices (List.forall₂_same.2 fun _ _ => rfl) h.devices
  have hprocesses : (o.processes.foldl (Watch.sight e o now) (w.seen e o)).processes.filter
      (ownProcess c S) =
      (o.processes.foldl (Watch.sight e o now) (w'.seen e o)).processes.filter
        (ownProcess c S) := by
    refine foldl_sight_own ht ?_
    rw [seen_processes, seen_processes]
    exact h.processes
  have hdue : ∀ rows : List TelemetrySample,
      rows.filter (Watch.due w.history) = rows.filter (Watch.due w'.history) := fun rows =>
    List.filter_congr fun s _ => due_congr h.times rfl
  by_cases hstale : (w.hostObservedAt e o.nodeId).any (fun t => decide (o.observedAt < t)) = true
  · have hstale' : (w'.hostObservedAt e o.nodeId).any (fun t => decide (o.observedAt < t)) =
        true := h.hosts ▸ hstale
    unfold Watch.observe
    rw [if_pos hstale, if_pos hstale']
    exact h
  · have hstale' : ¬ (w'.hostObservedAt e o.nodeId).any (fun t => decide (o.observedAt < t)) =
        true := h.hosts ▸ hstale
    refine ⟨?_, ?_, ?_, ?_, ?_, ?_, ?_, ?_, ?_⟩
    all_goals unfold Watch.observe; rw [if_neg hstale, if_neg hstale']
    · exact h.ledger
    · simp only [h.hosts]
    · show (o.processes.foldl (Watch.sight e o now) (w.seen e o)).gpus.map _ =
        (o.processes.foldl (Watch.sight e o now) (w'.seen e o)).gpus.map _
      rw [foldl_sight_gpus, foldl_sight_gpus]
      exact hdevices
    · exact history_times h.times rfl
    · simp only [List.filter_append, h.history, hdue]
    · exact foldl_replace_stamps h.currentTimes rfl
    · exact foldl_replace_own h.current
    · refine absence_own ?_ hprocesses
      rw [foldl_sight_gpus, foldl_sight_gpus]
      exact hdevices
    · simp only [observe_gpu?]
      by_cases hread : ∃ s ∈ o.cards, gpuIdOf e o.nodeId s.gpuUuid = c
      · exact Or.inl (foldl_seeGpu_vram (Or.inr hread))
      · rcases h.vram with hvram | ⟨hhistory, hcurrent⟩
        · exact Or.inl (foldl_seeGpu_vram (Or.inl hvram))
        · -- the card was not read, so nothing of it is new
          have hrows : ∀ s ∈ o.cards.map (Watch.row e o), ownSample c S s = false := by
            intro s hs
            obtain ⟨card, hcard, rfl⟩ := List.mem_map.1 hs
            exact decide_eq_false fun hown => hread ⟨card, hcard, hown.1⟩
          right
          constructor
          · rw [List.filter_append, hhistory, List.nil_append, List.filter_eq_nil_iff]
            intro s hs hown
            rw [hrows s (List.mem_filter.1 hs).1] at hown
            cases hown
          · generalize o.cards.map (Watch.row e o) = rows at hrows
            generalize w.current = l at hcurrent ⊢
            induction rows generalizing l with
            | nil => exact hcurrent
            | cons s rows ih =>
              refine ih (fun t ht => hrows t (List.mem_cons_of_mem _ ht)) _ ?_
              rw [replace_own, hcurrent]
              simp [hrows s List.mem_cons_self]

theorem WatchAct.differs_cases (h : a.DiffersOn c a') : a = a' ∧ (∀ e now o, a ≠ .observe e now o) ∨
    ∃ e now o o', a = .observe e now o ∧ a' = .observe e now o' ∧ o.DiffersOn e c o' := by
  cases a with
  | observe e now o =>
    cases a' with
    | observe e' now' o' =>
      obtain ⟨rfl, rfl, hd⟩ := h
      exact Or.inr ⟨e, now, o, o', rfl, rfl, hd⟩
    | fail => cases h
    | prune => cases h
    | commit => cases h
  | fail e n now => exact Or.inl ⟨h, nofun⟩
  | prune now => exact Or.inl ⟨h, nofun⟩
  | commit l => exact Or.inl ⟨h, nofun⟩

theorem Alike.step_before (h : Alike c S w w') (ho : Old c S w) (ho' : Old c S w')
    (hd : a.DiffersOn c a') (hb : a.Before S) : Alike c S (w.step cfg a) (w'.step cfg a') := by
  rcases WatchAct.differs_cases hd with ⟨rfl, hne⟩ | ⟨e, now, o, o', rfl, rfl, hreport⟩
  · cases a with
    | observe e now o => exact absurd rfl (hne e now o)
    | fail e n now => exact h.fail
    | prune now => exact h.prune
    | commit l => exact { h with ledger := rfl }
  · exact h.observe_before ho ho' hreport hb.1 hb.2

theorem Alike.step_after (h : Alike c S w w') (ht : TakenAlike c (w, w') a) :
    Alike c S (w.step cfg a) (w'.step cfg a) := by
  cases a with
  | observe e now o => exact h.observe_after ht
  | fail e n now => exact h.fail
  | prune now => exact h.prune
  | commit l => exact { h with ledger := rfl }

end Steps

/-! ## The figures -/

section Figures

variable {w w' : Watch} {now : Time} {x : Lease}

/-- What a selection keeps is found among what is compared. -/
theorem filter_through {α : Type} {f m : α → Bool} {l l' : List α}
    (hf : ∀ a, f a = true → m a = true)
    (h : l.filter m = l'.filter m) : l.filter f = l'.filter f := by
  have hthrough : ∀ l : List α, l.filter f = (l.filter m).filter f := by
    intro l
    rw [List.filter_filter]
    refine List.filter_congr fun a _ => ?_
    cases hfa : f a with
    | false => rfl
    | true => rw [hf a hfa]; rfl
  rw [hthrough l, hthrough l', h]

theorem Alike.leaseByGpu (h : Alike c S w w') (g : String) : w.leaseByGpu g = w'.leaseByGpu g := by
  unfold Watch.leaseByGpu
  rw [h.ledger]

/-- The holder's samples are the same. -/
theorem Alike.samples (h : Alike c S w w') (hissued : S ≤ x.issuedAt) :
    ((w.recentSamples now c).filter fun s => x.issuedAt ≤ s.observedAt) =
      (w'.recentSamples now c).filter fun s => x.issuedAt ≤ s.observedAt := by
  have htimes : ∀ w : Watch, ((w.history.filter fun s => s.gpuId = c ∧
      now - telemetryRecentAverageWindow ≤ s.observedAt).map TelemetrySample.observedAt) =
      ((w.history.map TelemetrySample.stamp).filter fun t => t.1 = c ∧
        now - telemetryRecentAverageWindow ≤ t.2).map Prod.snd := by
    intro w
    rw [← map_filter_stamp, List.map_map]
    rfl
  unfold Watch.recentSamples
  simp only [htimes, h.times, List.filter_append, List.filter_filter]
  congr 1
  · refine filter_through (fun s hs => ?_) h.history
    simp only [Bool.and_eq_true, decide_eq_true_eq] at hs
    exact decide_eq_true ⟨hs.2.1, hissued.trans hs.1⟩
  · refine filter_through (fun s hs => ?_) h.current
    simp only [Bool.and_eq_true, decide_eq_true_eq] at hs
    exact decide_eq_true ⟨hs.2.1, hissued.trans hs.1⟩

/-- Without a sample of the holder's there is no average. -/
theorem samples_none (hissued : S ≤ x.issuedAt) (hhistory : w.history.filter (ownSample c S) = [])
    (hcurrent : w.current.filter (ownSample c S) = []) :
    ((w.recentSamples now c).filter fun s => x.issuedAt ≤ s.observedAt) = [] := by
  rw [List.filter_eq_nil_iff]
  intro s hs hle
  have hle : x.issuedAt ≤ s.observedAt := of_decide_eq_true hle
  have hown : ∀ l : List TelemetrySample, l.filter (ownSample c S) = [] → s ∈ l →
      s.gpuId = c → False := by
    intro l hl hmem hc
    have hno := List.filter_eq_nil_iff.1 hl s hmem
    exact hno (decide_eq_true ⟨hc, hissued.trans hle⟩)
  unfold Watch.recentSamples at hs
  rcases List.mem_append.1 hs with hs | hs
  · obtain ⟨hmem, hcond⟩ := List.mem_filter.1 hs
    exact hown _ hhistory hmem (of_decide_eq_true hcond).1
  · obtain ⟨hmem, hcond⟩ := List.mem_filter.1 hs
    exact hown _ hcurrent hmem (of_decide_eq_true hcond).1

theorem Alike.leaseRecentAverage (h : Alike c S w w')
    (hissued : ∀ x ∈ w.leaseByGpu c, S ≤ x.issuedAt) :
    w.leaseRecentAverage now c = w'.leaseRecentAverage now c := by
  have hmem : ∀ w : Watch, (w.current ++ w.history).map TelemetrySample.gpuId =
      (w.current.map TelemetrySample.stamp ++ w.history.map TelemetrySample.stamp).map
        Prod.fst := by
    intro w
    rw [← List.map_append, List.map_map]
    rfl
  have haverage : ∀ x : Lease, S ≤ x.issuedAt → Watch.recentTelemetryAverage (w.totalVram c)
      ((w.recentSamples now c).filter fun s => x.issuedAt ≤ s.observedAt) =
      Watch.recentTelemetryAverage (w'.totalVram c)
        ((w'.recentSamples now c).filter fun s => x.issuedAt ≤ s.observedAt) := by
    intro x hx
    rw [← h.samples hx]
    rcases h.vram with hvram | ⟨hhistory, hcurrent⟩
    · unfold Watch.totalVram
      rw [hvram]
    · rw [samples_none hx hhistory hcurrent]
      rfl
  unfold Watch.leaseRecentAverage
  rw [hmem w, hmem w', h.currentTimes, h.times, ← h.leaseByGpu c]
  split
  · cases hheld : (w.leaseByGpu c).filter fun x => x.kind = .workload with
    | none => rfl
    | some x =>
      have hx : x ∈ w.leaseByGpu c := (Option.filter_eq_some_iff.1 hheld).1
      rw [Option.map_some, Option.map_some, haverage x (hissued x hx)]
  · rfl

/-- The last process of any lease is the same, the card's being the holder's own. -/
theorem Alike.lastProcessObservedAt (h : Alike c S w w')
    (hissued : ∀ x ∈ w.leaseByGpu c, S ≤ x.issuedAt) (leaseId : String) :
    w.lastProcessObservedAt leaseId = w'.lastProcessObservedAt leaseId := by
  unfold Watch.lastProcessObservedAt
  have hleases : w'.leaseByGpu = w.leaseByGpu := funext fun g => (h.leaseByGpu g).symm
  rw [hleases]
  refine congrArg (fun l => List.max? (List.map ProcessObservation.lastSeenAt l)) ?_
  refine filter_through (fun q hq => ?_) h.processes
  refine decide_eq_true ?_
  by_cases hc : q.gpuId = c
  · obtain ⟨x, hx, hcond⟩ := (Option.any_eq_true _ _).1 hq
    have hle : x.issuedAt ≤ q.firstSeenAt := (of_decide_eq_true hcond).2
    exact Or.inr ((hissued x (hc ▸ hx)).trans hle)
  · exact Or.inl hc

end Figures

/-! ## Two runs -/

/-- Two runs that differ on the card, before. -/
theorem runs_before {pre pre' : List WatchAct} (hpre : List.Forall₂ (WatchAct.DiffersOn c) pre pre')
    (hbefore : ∀ a ∈ pre ++ pre', a.Before S) {w w' : Watch} (h : Alike c S w w') (ho : Old c S w)
    (ho' : Old c S w') :
    Alike c S (Run.run (Watch.step cfg) w pre) (Run.run (Watch.step cfg) w' pre') := by
  induction hpre generalizing w w' with
  | nil => exact h
  | @cons a a' l l' hd _ ih =>
    have ha : a.Before S := hbefore a (List.mem_append_left _ List.mem_cons_self)
    have ha' : a'.Before S := hbefore a' (List.mem_append_right _ List.mem_cons_self)
    refine ih ?_ (h.step_before ho ho' hd ha) (ho.step ha) (ho'.step ha')
    intro b hb
    rcases List.mem_append.1 hb with hb | hb
    · exact hbefore b (List.mem_append_left _ (List.mem_cons_of_mem _ hb))
    · exact hbefore b (List.mem_append_right _ (List.mem_cons_of_mem _ hb))

/-- Two runs that do the same from then on. -/
theorem runs_after {post : List WatchAct} {w w' : Watch} (h : Alike c S w w')
    (htaken : Run.Along (bothStep cfg) (TakenAlike c) (w, w') post) :
    Alike c S (Run.run (Watch.step cfg) w post) (Run.run (Watch.step cfg) w' post) := by
  induction post generalizing w w' with
  | nil => exact h
  | cons a post ih => exact ih (h.step_after htaken.1) htaken.2

/-- **A holder is shown only its own work.** Of two runs that differ only in what was observed on a
card before some time, and do the same from then on, every later snapshot shows the same average
of the card and the same last process of each lease, if the card's lease is no older than that
time and every process seen on it later is taken alike in both. -/
theorem shows_own_work (cfg : Config) (c : String) (S : Time) {pre pre' post : List WatchAct}
    (hpre : List.Forall₂ (WatchAct.DiffersOn c) pre pre')
    (hbefore : ∀ a ∈ pre ++ pre', a.Before S)
    (htaken : Run.Along (bothStep cfg) (TakenAlike c)
      (Run.run (Watch.step cfg) {} pre, Run.run (Watch.step cfg) {} pre') post)
    (hissued : ∀ x ∈ (Run.run (Watch.step cfg) {} (pre ++ post)).leaseByGpu c, S ≤ x.issuedAt)
    (now : Time) :
    (Run.run (Watch.step cfg) {} (pre ++ post)).leaseRecentAverage now c =
        (Run.run (Watch.step cfg) {} (pre' ++ post)).leaseRecentAverage now c ∧
      ∀ leaseId, (Run.run (Watch.step cfg) {} (pre ++ post)).lastProcessObservedAt leaseId =
        (Run.run (Watch.step cfg) {} (pre' ++ post)).lastProcessObservedAt leaseId := by
  have hstart : Old c S {} := ⟨rfl, rfl, nofun⟩
  have hsame : Alike c S {} {} := ⟨rfl, rfl, rfl, rfl, rfl, rfl, rfl, rfl, Or.inl rfl⟩
  have halike := runs_after (runs_before hpre hbefore hsame hstart hstart) htaken
  rw [← Run.run_append, ← Run.run_append] at halike
  exact ⟨halike.leaseRecentAverage hissued, halike.lastProcessObservedAt hissued⟩

/-! ### One card -/

/-- A look at `alpha`, whose one card is `alpha:U`. -/
def lookAtU (t : ℤ) (used : ℕ) (processes : List ProcessInput) : WatchAct :=
  .observe "alpha" (seconds t)
    { observedAt := seconds t, bootId := "b"
      cards := [{ gpuUuid := "U", gpuIndex := 0, cudaOrdinal := 0, totalVramMib := 81920
                  memoryUsedMib := used, memoryFreeMib := 81920 - used }]
      processes }

/-- A process of the former holder, and one of the next. -/
def formerProcess : ProcessInput :=
  { gpuUuid := "U", pid := 5, usedMemoryMib := 40000, username := some "old"
    processStartedAt := 0 }

def nextProcess : ProcessInput :=
  { gpuUuid := "U", pid := 9, usedMemoryMib := 20000, username := some "new"
    processStartedAt := seconds 220 }

/-- The ledger with one claim, issued then, on these cards. -/
def claimedAt (issued : ℤ) (cards : List String) : Ledger :=
  { leases := [{
      id := "L", actorId := "agent", projectId := "p", kind := .workload, taskRef := "t"
      purpose := "train", constraints := { gpuCount := 1 }, durationSeconds := 3600
      state := .active, issuedAt := seconds issued, expiresAt := none
      lastHeartbeatAt := seconds issued, issuedRevision := 1 }]
    resources := cards.map fun g => { leaseId := "L", gpuId := g } }

/-- `shows_own_work`, of a card that comes with its lease. -/
theorem shows_own_work_issued :
    let w := Run.run (Watch.step plainConfig) {} ([lookAtU 100 40000 [formerProcess]] ++
      [.commit (claimedAt 200 ["alpha:U"]), lookAtU 260 20000 [nextProcess]])
    let w' := Run.run (Watch.step plainConfig) {} ([lookAtU 100 0 []] ++
      [.commit (claimedAt 200 ["alpha:U"]), lookAtU 260 20000 [nextProcess]])
    w.leaseRecentAverage (seconds 270) "alpha:U" = w'.leaseRecentAverage (seconds 270) "alpha:U" ∧
      ∀ leaseId, w.lastProcessObservedAt leaseId = w'.lastProcessObservedAt leaseId := by
  refine shows_own_work plainConfig "alpha:U" (seconds 200) ?_ ?_ (by decide +kernel)
    (by decide +kernel) (seconds 270)
  · refine .cons ⟨rfl, rfl, rfl, rfl, rfl, rfl, ?_, by decide⟩ .nil
    exact .cons ⟨rfl, fun hne => absurd (by decide) hne⟩ .nil
  · intro a ha
    rcases List.mem_cons.1 ha with rfl | ha
    · exact ⟨by decide, by decide⟩
    · rw [List.mem_singleton.1 ha]
      exact ⟨by decide, by decide⟩

/-- A claim that grows onto a card is shown what the card's former holder did there. -/
theorem joined_shows_former : ¬ ∀ (c : String) (given : Time) (pre pre' post : List WatchAct)
    (l : Ledger), List.Forall₂ (WatchAct.DiffersOn c) pre pre' →
    (∀ a ∈ pre ++ pre', a.Before given) →
    (Run.run (Watch.step plainConfig) {} pre).leaseByGpu c = none →
    (Run.run (Watch.step plainConfig) {} (pre ++ [.commit l])).leaseByGpu c ≠ none →
    ∀ now leaseId,
      (Run.run (Watch.step plainConfig) {} (pre ++ .commit l :: post)).leaseRecentAverage now c =
        (Run.run (Watch.step plainConfig) {} (pre' ++ .commit l :: post)).leaseRecentAverage now c ∧
      (Run.run (Watch.step plainConfig) {} (pre ++ .commit l :: post)).lastProcessObservedAt
          leaseId =
        (Run.run (Watch.step plainConfig) {} (pre' ++ .commit l :: post)).lastProcessObservedAt
          leaseId := by
  intro h
  have hshown := h "alpha:U" (seconds 300)
    [.commit (claimedAt 0 ["alpha:V"]), lookAtU 100 40000 [formerProcess]]
    [.commit (claimedAt 0 ["alpha:V"]), lookAtU 100 0 []] []
    (claimedAt 0 ["alpha:V", "alpha:U"]) ?_ ?_ (by decide +kernel) (by decide +kernel)
    (seconds 310) "L"
  · have hlast := hshown.2
    revert hlast
    decide +kernel
  · refine .cons rfl (.cons ⟨rfl, rfl, rfl, rfl, rfl, rfl, ?_, by decide⟩ .nil)
    exact .cons ⟨rfl, fun hne => absurd (by decide) hne⟩ .nil
  · intro a ha
    simp only [List.cons_append, List.nil_append, List.mem_cons, List.not_mem_nil, or_false] at ha
    rcases ha with rfl | rfl | rfl | rfl
    · trivial
    · exact ⟨by decide, by decide⟩
    · trivial
    · exact ⟨by decide, by decide⟩

end ServerPilot
