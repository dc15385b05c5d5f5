import ServerPilot.Lib.Rows
import ServerPilot.Lib.Run
import ServerPilot.Spec.Slurm

/-!
# One job for a request

What the helper promises the broker: `srun` at most once for a request, facts
about the request's own job, no refusal while a job of the request runs or may
start, and every sampled job reported. `applies_truthful` proves it of every
interleaving in which no capacity check fails once the request file is there, no
run creates the file of a refused request, and no request id is another's with
`request-` before it.
-/

namespace ServerPilot.Slurm

/-! ## The promise -/

namespace Site

variable (w : Site)

/-- The job was accepted for the request. -/
def IsFor (j : ℕ) (x : String) : Prop := ∃ y ∈ w.jobs, y.id = j ∧ y.request = some x

/-- The requests whose file was created. -/
def requested : List String := w.reserved.map Prod.fst

/-- **What the helper promises.** -/
structure Truthful : Prop where
  once : (w.sruns.map Srun.requestId).Nodup
  printed : ∀ p ∈ w.printed, w.IsFor p.2 p.1
  refused : ∀ x ∈ w.refused, (∀ y ∈ w.jobs, y.request = some x → y.state.final = true) ∧
    (∀ s ∈ w.sruns, s.requestId = x → s.exit ≠ none) ∧
    ∀ r ∈ w.runs, r.requestId = x → r.phase ≠ .reserved ∧ r.phase ≠ .written
  reported : ∀ y ∈ w.jobs, ∀ x, y.request = some x → y.sampled = true →
    y.state.mapped = .active → ∀ answers listing, listing.Perm w.names →
      ∃ f ∈ w.allAllocations answers listing, f.allocationRef = y.id ∧ f.requestId = some x

/-- The step is not one that goes wrong: no capacity check fails once the request file was created
(unless the request was refused before), and no request file is created for a refused request or
next to one it could be taken for. -/
def fair : SiteAct → Prop
  | .capacity i false => ∀ r ∈ w.runs[i]?, r.phase = .begun →
      r.requestId ∈ w.requested → r.requestId ∈ w.refused
  | .reserve i => ∀ r ∈ w.runs[i]?, r.phase = .checked → w.files (requestName r.requestId) = none →
      r.requestId ∉ w.refused ∧ ∀ y ∈ w.requested,
        r.requestId ≠ requestName y ∧ y ≠ requestName r.requestId
  | _ => True

instance : ∀ a, Decidable (w.fair a)
  | .capacity i false => inferInstanceAs (Decidable (∀ r ∈ w.runs[i]?, _ → _ → _))
  | .reserve i =>
    inferInstanceAs (Decidable (∀ r ∈ w.runs[i]?, _ → _ → _ ∧ ∀ y ∈ w.requested, _))
  | .capacity _ true | .apply _ | .write _ | .launch _ | .look .. | .poll _ | .ask .. | .interrupt _
  | .accept .. | .announce _ | .setState .. | .exit .. | .hold _ | .foreign .. => isTrue trivial

end Site

/-! ## Runs and their request files -/

namespace ApplyPhase

/-- The run created the request file. -/
def owns : ApplyPhase → Bool
  | reserved | written | waiting _ => true
  | _ => false

/-- The run wrote the request file. -/
def filed : ApplyPhase → Bool
  | written | waiting _ => true
  | _ => false

/-- The run has nothing left to start. -/
def launched : ApplyPhase → Bool
  | waiting _ | done => true
  | _ => false

end ApplyPhase

/-- A run between the request file and `srun` is the one that created the file. -/
structure Owned (w : Site) : Prop where
  owner : ∀ (i : ℕ) (r : ApplyRun), w.runs[i]? = some r → r.phase.owns = true →
    (r.requestId, i) ∈ w.reserved
  single : w.requested.Nodup
  started : ∀ s ∈ w.sruns, ∃ (i : ℕ) (r : ApplyRun), (s.requestId, i) ∈ w.reserved ∧
    w.runs[i]? = some r ∧
    r.requestId = s.requestId ∧ r.phase.launched = true
  once : (w.sruns.map Srun.requestId).Nodup
  waits : ∀ (i : ℕ) (r : ApplyRun) (k : ℕ), w.runs[i]? = some r → r.phase = .waiting k →
    ∃ s : Srun, w.sruns[k]? = some s ∧ s.requestId = r.requestId

section

variable {w w' : Site} {i j k : ℕ} {x y : String} {r : ApplyRun}

theorem runs_moveTo {p : ApplyPhase} {m : ℕ} :
    (w.moveTo i p).runs[m]? = some r ↔
      ∃ r', w.runs[m]? = some r' ∧ r = if i = m then { r' with phase := p } else r' := by
  unfold Site.moveTo
  simp only [List.getElem?_modify]
  constructor
  · intro h
    obtain ⟨r', hr', heq⟩ := Option.map_eq_some_iff.1 h
    exact ⟨r', hr', heq.symm⟩
  · rintro ⟨r', hr', rfl⟩
    exact Option.map_eq_some_iff.2 ⟨r', hr', rfl⟩

/-- After a run went on it is in its new phase, and the others are as they were. -/
theorem runs_moveTo_cases {p q : ApplyPhase} {m : ℕ} (hr : w.runs[i]? = some ⟨x, q⟩)
    (hm : (w.moveTo i p).runs[m]? = some r) :
    (m = i ∧ r = ⟨x, p⟩) ∨ (i ≠ m ∧ w.runs[m]? = some r) := by
  obtain ⟨r', hr', rfl⟩ := runs_moveTo.1 hm
  by_cases him : i = m
  · subst him
    rw [hr] at hr'
    obtain rfl := Option.some.inj hr'
    exact Or.inl ⟨rfl, if_pos rfl⟩
  · rw [if_neg him]
    exact Or.inr ⟨him, hr'⟩

/-- A request has one creator. -/
theorem Owned.unique (h : Owned w) (hi : (x, i) ∈ w.reserved) (hj : (x, j) ∈ w.reserved) :
    i = j := by
  have hpair := List.inj_on_of_nodup_map h.single hi hj rfl
  exact congrArg Prod.snd hpair

/-- What has not started its `srun` is the only one that could. -/
theorem Owned.fresh (h : Owned w) (hr : w.runs[i]? = some r) (ho : r.phase.owns = true)
    (hl : r.phase.launched = false) : r.requestId ∉ w.sruns.map Srun.requestId := by
  intro hm
  obtain ⟨s, hs, hid⟩ := List.mem_map.1 hm
  obtain ⟨m, r', hres, hr', -, hlaunched⟩ := h.started s hs
  have hmi : m = i := h.unique (hid ▸ hres) (h.owner i r hr ho)
  subst hmi
  rw [hr] at hr'
  obtain rfl := Option.some.inj hr'
  rw [hl] at hlaunched
  cases hlaunched

/-- What was started stays so when a run goes on that has started nothing. -/
theorem Owned.started_moveTo (h : Owned w) {q : ApplyPhase} (hr : w.runs[i]? = some ⟨x, q⟩)
    (hq : q.launched = false) (p : ApplyPhase) {s : Srun} (hs : s ∈ w.sruns) :
    ∃ (m : ℕ) (r : ApplyRun), (s.requestId, m) ∈ w.reserved ∧
      (w.moveTo i p).runs[m]? = some r ∧ r.requestId = s.requestId ∧ r.phase.launched = true := by
  obtain ⟨m, r, hres, hr', hid, hlaunched⟩ := h.started s hs
  have hne : i ≠ m := by
    rintro rfl
    rw [hr] at hr'
    obtain rfl := Option.some.inj hr'
    rw [hq] at hlaunched
    cases hlaunched
  exact ⟨m, r, hres, runs_moveTo.2 ⟨r, hr', (if_neg hne).symm⟩, hid, hlaunched⟩

/-- A run goes on to a phase in which it owns nothing. -/
theorem Owned.moveTo (h : Owned w) {p : ApplyPhase} (hp : p.owns = false)
    (hl : ∀ r, w.runs[i]? = some r → r.phase.launched = true → p.launched = true) :
    Owned (w.moveTo i p) := by
  constructor
  · intro m r hr ho
    obtain ⟨r', hr', rfl⟩ := runs_moveTo.1 hr
    split at ho
    · rw [hp] at ho
      cases ho
    · rename_i hne
      rw [if_neg hne]
      exact h.owner m r' hr' ho
  · exact h.single
  · intro s hs
    obtain ⟨m, r, hres, hr, hid, hlaunched⟩ := h.started s hs
    refine ⟨m, _, hres, runs_moveTo.2 ⟨r, hr, rfl⟩, ?_, ?_⟩
    · split <;> exact hid
    · split
      · rename_i heq
        subst heq
        exact hl r hr hlaunched
      · exact hlaunched
  · exact h.once
  · intro m r k hr hk
    obtain ⟨r', hr', rfl⟩ := runs_moveTo.1 hr
    split at hk
    · have hpk : p = .waiting k := hk
      rw [hpk] at hp
      cases hp
    · rename_i hne
      rw [if_neg hne]
      exact h.waits m r' k hr' hk

/-- A new request file has its creator. -/
theorem Owned.reserve (h : Owned w) (hr : w.runs[i]? = some ⟨x, .checked⟩)
    (hx : x ∉ w.requested) (hruns : w'.runs = (w.moveTo i .reserved).runs)
    (hreserved : w'.reserved = (x, i) :: w.reserved) (hsruns : w'.sruns = w.sruns) : Owned w' := by
  constructor
  · intro m r hm ho
    rw [hruns] at hm
    rw [hreserved]
    rcases runs_moveTo_cases hr hm with ⟨rfl, rfl⟩ | ⟨-, hm⟩
    · exact List.mem_cons_self
    · exact List.mem_cons_of_mem _ (h.owner m r hm ho)
  · unfold Site.requested
    rw [hreserved]
    exact List.nodup_cons.2 ⟨hx, h.single⟩
  · intro s hs
    rw [hsruns] at hs
    rw [hruns, hreserved]
    obtain ⟨m, r, hres, hr', hid, hlaunched⟩ := h.started_moveTo hr rfl .reserved hs
    exact ⟨m, r, List.mem_cons_of_mem _ hres, hr', hid, hlaunched⟩
  · rw [hsruns]
    exact h.once
  · intro m r k hm hk
    rw [hruns] at hm
    rw [hsruns]
    rcases runs_moveTo_cases hr hm with ⟨-, rfl⟩ | ⟨-, hm⟩
    · cases hk
    · exact h.waits m r k hm hk

/-- The creator writes its file. -/
theorem Owned.write (h : Owned w) (hr : w.runs[i]? = some ⟨x, .reserved⟩) :
    Owned (w.moveTo i .written) := by
  constructor
  · intro m r hm ho
    rcases runs_moveTo_cases hr hm with ⟨rfl, rfl⟩ | ⟨-, hm⟩
    · exact h.owner m ⟨x, .reserved⟩ hr rfl
    · exact h.owner m r hm ho
  · exact h.single
  · exact fun s hs => h.started_moveTo hr rfl .written hs
  · exact h.once
  · intro m r k hm hk
    rcases runs_moveTo_cases hr hm with ⟨-, rfl⟩ | ⟨-, hm⟩
    · cases hk
    · exact h.waits m r k hm hk

/-- The creator starts its `srun`, the first of the request. -/
theorem Owned.launch (h : Owned w) (hr : w.runs[i]? = some ⟨x, .written⟩)
    (hruns : w'.runs = (w.moveTo i (.waiting w.sruns.length)).runs)
    (hreserved : w'.reserved = w.reserved)
    (hsruns : w'.sruns = w.sruns ++ [{ requestId := x }]) : Owned w' := by
  have howner : (x, i) ∈ w.reserved := h.owner i _ hr rfl
  constructor
  · intro m r hm ho
    rw [hruns] at hm
    rw [hreserved]
    rcases runs_moveTo_cases hr hm with ⟨rfl, rfl⟩ | ⟨-, hm⟩
    · exact howner
    · exact h.owner m r hm ho
  · unfold Site.requested
    rw [hreserved]
    exact h.single
  · intro s hs
    rw [hsruns] at hs
    rw [hruns, hreserved]
    rcases List.mem_append.1 hs with hs | hs
    · exact h.started_moveTo hr rfl _ hs
    · rw [List.mem_singleton.1 hs]
      refine ⟨i, ⟨x, .waiting w.sruns.length⟩, howner, runs_moveTo.2 ⟨_, hr, ?_⟩, rfl, rfl⟩
      rw [if_pos rfl]
  · rw [hsruns, List.map_append, List.nodup_append]
    refine ⟨h.once, List.nodup_singleton _, ?_⟩
    intro a ha c hc heq
    have hx : a = x := heq.trans (List.mem_singleton.1 hc)
    exact h.fresh hr rfl rfl (hx ▸ ha)
  · intro m r k hm hk
    rw [hruns] at hm
    rw [hsruns]
    rcases runs_moveTo_cases hr hm with ⟨-, rfl⟩ | ⟨-, hm⟩
    · -- its own `srun` is the last one
      obtain rfl : w.sruns.length = k := ApplyPhase.waiting.inj hk
      refine ⟨{ requestId := x }, ?_, rfl⟩
      rw [List.getElem?_append_right le_rfl, Nat.sub_self]
      rfl
    · obtain ⟨s, hs, hid⟩ := h.waits m r k hm hk
      refine ⟨s, ?_, hid⟩
      rw [List.getElem?_append_left (List.getElem?_eq_some_iff.1 hs).1]
      exact hs

/-- Steps that leave the runs, the request files' creators and the starts as they are. -/
theorem Owned.congr (h : Owned w) (hruns : w'.runs = w.runs) (hreserved : w'.reserved = w.reserved)
    (hsruns : ∀ k : ℕ, (w'.sruns[k]?).map Srun.requestId = (w.sruns[k]?).map Srun.requestId) :
    Owned w' := by
  have hids : w'.sruns.map Srun.requestId = w.sruns.map Srun.requestId := by
    apply List.ext_getElem?
    intro k
    rw [List.getElem?_map, List.getElem?_map]
    exact hsruns k
  constructor
  · rw [hruns, hreserved]
    exact h.owner
  · unfold Site.requested
    rw [hreserved]
    exact h.single
  · intro s hs
    have hm : s.requestId ∈ w.sruns.map Srun.requestId := hids ▸ List.mem_map.2 ⟨s, hs, rfl⟩
    obtain ⟨s', hs', hid⟩ := List.mem_map.1 hm
    rw [hruns, hreserved, ← hid]
    exact h.started s' hs'
  · rw [hids]
    exact h.once
  · intro m r k hm hk
    rw [hruns] at hm
    obtain ⟨s, hs, hid⟩ := h.waits m r k hm hk
    have hk' := hsruns k
    rw [hs] at hk'
    obtain ⟨s', hs', hid'⟩ := Option.map_eq_some_iff.1 hk'
    exact ⟨s', hs', hid'.trans hid⟩

end

/-! ## The directory -/

/-- The files, logs and jobs are those of the requests that were filed. -/
structure Filed (w : Site) : Prop where
  ids : (w.jobs.map Job.id).Nodup
  accepted : ∀ s ∈ w.sruns, ∀ j ∈ s.job, w.IsFor j s.requestId
  source : ∀ y ∈ w.jobs, ∀ x, y.request = some x →
    ∃ s ∈ w.sruns, s.requestId = x ∧ s.job = some y.id
  logs : ∀ x, ∀ j ∈ w.logs x, w.IsFor j x
  listed : ∀ x ∈ w.requested, requestName x ∈ w.names
  request : ∀ x ∈ w.requested, ∃ file, w.files (requestName x) = some file ∧
    ∀ d ∈ file, d.requestId = x ∧ ∀ j ∈ d.allocationRef, w.IsFor j x
  other : ∀ name file, w.files name = some file → (∃ x ∈ w.requested, name = requestName x) ∨
    name ∈ w.requested ∧ ∃ j, file = some ⟨name, some j⟩ ∧ w.IsFor j name
  apart : ∀ x ∈ w.requested, ∀ y ∈ w.requested, x ≠ requestName y
  written : ∀ (i : ℕ) (r : ApplyRun), w.runs[i]? = some r → r.phase.filed = true →
    ∃ d, w.files (requestName r.requestId) = some (some d)
  kept : ∀ s ∈ w.sruns, ∃ d, w.files (requestName s.requestId) = some (some d)
  sampled : ∀ y ∈ w.jobs, ∀ x, y.request = some x → y.sampled = true →
    w.files x = some (some ⟨x, some y.id⟩)

section

variable {w w' : Site} {i j k : ℕ} {x y : String} {r : ApplyRun} {s : Srun}

theorem requestName_inj (h : requestName x = requestName y) : x = y := by
  unfold requestName at h
  exact String.append_right_inj _ |>.1 h

theorem Owned.requested (h : Owned w) (hs : s ∈ w.sruns) : s.requestId ∈ w.requested := by
  obtain ⟨i, r, hres, -, -, -⟩ := h.started s hs
  exact List.mem_map.2 ⟨_, hres, rfl⟩

theorem Owned.mem_requested (h : Owned w) (hr : w.runs[i]? = some r) (ho : r.phase.owns = true) :
    r.requestId ∈ w.requested :=
  List.mem_map.2 ⟨_, h.owner i r hr ho, rfl⟩

/-- A job is for one request. -/
theorem Filed.isFor_unique (h : Filed w) (hx : w.IsFor j x) (hy : w.IsFor j y) : x = y := by
  obtain ⟨a, ha, rfl, hax⟩ := hx
  obtain ⟨c, hc, hid, hcy⟩ := hy
  obtain rfl := List.inj_on_of_nodup_map h.ids hc ha hid
  exact Option.some.inj (hax.symm.trans hcy)

/-- The sample of a request is about its job. -/
theorem Filed.sample (h : Filed w) (hx : x ∈ w.requested) {d : Doc} (hd : w.readJson x = some d) :
    d.requestId = x ∧ ∃ j, d.allocationRef = some j ∧ w.IsFor j x := by
  obtain ⟨file, hfile, hdoc⟩ := Option.bind_eq_some_iff.1 hd
  rcases h.other x file hfile with ⟨y, hy, heq⟩ | ⟨-, j, rfl, hj⟩
  · exact absurd heq (h.apart x hx y hy)
  · obtain rfl := Option.some.inj hdoc
    exact ⟨rfl, j, rfl, hj⟩

/-- A run goes on to a phase that has written nothing. -/
theorem Filed.moveTo (h : Filed w) {p : ApplyPhase} (hp : p.filed = false) :
    Filed (w.moveTo i p) := by
  refine { h with written := fun m r hr hf => ?_ }
  obtain ⟨r', hr', rfl⟩ := runs_moveTo.1 hr
  split at hf
  · rw [hp] at hf
    cases hf
  · rename_i hne
    rw [if_neg hne]
    exact h.written m r' hr' hf

/-- A request file is written again, about a job of the request. -/
theorem Filed.rewrite (h : Filed w) (ho : Owned w) (hx : x ∈ w.requested) (ref : Option ℕ)
    (href : ∀ j ∈ ref, w.IsFor j x) : Filed (w.put (requestName x) (some ⟨x, ref⟩)) := by
  have hsome : ∀ y, (∃ d, w.files (requestName y) = some (some d)) →
      ∃ d, (w.put (requestName x) (some ⟨x, ref⟩)).files (requestName y) = some (some d) := by
    intro y hy
    unfold Site.put
    simp only
    split
    · exact ⟨_, rfl⟩
    · exact hy
  refine { h with
    listed := ?_, request := ?_, other := ?_, written := ?_, kept := ?_, sampled := ?_ }
  · intro y hy
    unfold Site.put
    simp only
    split
    · exact h.listed y hy
    · exact List.mem_append_left _ (h.listed y hy)
  · intro y hy
    unfold Site.put
    simp only
    split
    · rename_i heq
      obtain rfl := requestName_inj heq
      refine ⟨_, rfl, fun d hd => ?_⟩
      obtain rfl := Option.some.inj hd
      exact ⟨rfl, href⟩
    · exact h.request y hy
  · intro name file hfile
    unfold Site.put at hfile
    simp only at hfile
    split at hfile
    · rename_i heq
      exact Or.inl ⟨x, hx, heq⟩
    · exact h.other name file hfile
  · intro m r hr hf
    exact hsome r.requestId (h.written m r hr hf)
  · intro s hs
    exact hsome s.requestId (h.kept s hs)
  · intro y hy z hz hsampled
    obtain ⟨s, hs, hid, -⟩ := h.source y hy z hz
    have hne : z ≠ requestName x := h.apart z (hid ▸ ho.requested hs) x hx
    show (if z = requestName x then _ else w.files z) = _
    rw [if_neg hne]
    exact h.sampled y hy z hz hsampled

/-- A request file is created. -/
theorem Filed.reserve (h : Filed w) (hnone : w.files (requestName x) = none)
    (hapart : ∀ y ∈ w.requested, x ≠ requestName y ∧ y ≠ requestName x) :
    Filed { (w.put (requestName x) none).moveTo i .reserved with
      reserved := (x, i) :: w.reserved } := by
  have hself : x ≠ requestName x := by
    intro heq
    have hlen := congrArg String.length heq
    unfold requestName at hlen
    rw [String.length_append] at hlen
    have hprefix : "request-".length = 8 := by decide
    omega
  -- the files there were are not the new one
  have hold : ∀ name file, w.files name = some file →
      (w.put (requestName x) none).files name = some file := by
    intro name file hfile
    have hne : name ≠ requestName x := by
      rintro rfl
      rw [hnone] at hfile
      cases hfile
    show (if name = requestName x then _ else w.files name) = _
    rw [if_neg hne]
    exact hfile
  constructor
  · exact h.ids
  · exact h.accepted
  · exact h.source
  · exact h.logs
  · intro y hy
    show requestName y ∈ if requestName x ∈ w.names then w.names else w.names ++ [requestName x]
    rcases List.mem_cons.1 hy with rfl | hy
    · split
      · assumption
      · exact List.mem_append_right _ (List.mem_singleton_self _)
    · split
      · exact h.listed y hy
      · exact List.mem_append_left _ (h.listed y hy)
  · intro y hy
    rcases List.mem_cons.1 hy with rfl | hy
    · refine ⟨none, ?_, fun d hd => by cases hd⟩
      show (if requestName y = requestName y then some none else _) = _
      rw [if_pos rfl]
    · obtain ⟨file, hfile, hdoc⟩ := h.request y hy
      exact ⟨file, hold _ _ hfile, hdoc⟩
  · intro name file hfile
    have hfile : (if name = requestName x then some none else w.files name) = some file := hfile
    split at hfile
    · rename_i heq
      exact Or.inl ⟨x, List.mem_cons_self, heq⟩
    · rcases h.other name file hfile with ⟨y, hy, heq⟩ | ⟨hm, hj⟩
      · exact Or.inl ⟨y, List.mem_cons_of_mem _ hy, heq⟩
      · exact Or.inr ⟨List.mem_cons_of_mem _ hm, hj⟩
  · intro a ha c hc
    have ha' : a = x ∨ a ∈ w.requested := List.mem_cons.1 ha
    have hc' : c = x ∨ c ∈ w.requested := List.mem_cons.1 hc
    rcases ha' with heq | ha'
    · rcases hc' with heq' | hc'
      · rw [heq, heq']
        exact hself
      · rw [heq]
        exact (hapart c hc').1
    · rcases hc' with heq' | hc'
      · rw [heq']
        exact (hapart a ha').2
      · exact h.apart a ha' c hc'
  · intro m r hm hf
    obtain ⟨r', hr', rfl⟩ := runs_moveTo.1 hm
    split at hf
    · cases hf
    · rename_i hne
      rw [if_neg hne]
      obtain ⟨d, hd⟩ := h.written m r' hr' hf
      exact ⟨d, hold _ _ hd⟩
  · intro s hs
    obtain ⟨d, hd⟩ := h.kept s hs
    exact ⟨d, hold _ _ hd⟩
  · intro y hy z hz hsampled
    exact hold _ _ (h.sampled y hy z hz hsampled)

/-- `srun` is started: its log is empty. -/
theorem Filed.launch (h : Filed w) (hr : w.runs[i]? = some ⟨x, .written⟩) :
    Filed { w.moveTo i (.waiting w.sruns.length) with
      logs := fun n => if n = x then [] else w.logs n
      sruns := w.sruns ++ [{ requestId := x }] } := by
  obtain ⟨d, hd⟩ := h.written i ⟨x, .written⟩ hr rfl
  refine { h with accepted := ?_, source := ?_, logs := ?_, written := ?_, kept := ?_ }
  · intro s hs j hj
    rcases List.mem_append.1 hs with hs | hs
    · exact h.accepted s hs j hj
    · rw [List.mem_singleton.1 hs] at hj
      cases hj
  · intro y hy z hz
    obtain ⟨s, hs, hid, hjob⟩ := h.source y hy z hz
    exact ⟨s, List.mem_append_left _ hs, hid, hjob⟩
  · intro z j hj
    have hj : j ∈ if z = x then [] else w.logs z := hj
    split at hj
    · cases hj
    · exact h.logs z j hj
  · intro m r hm hf
    rcases runs_moveTo_cases hr hm with ⟨-, rfl⟩ | ⟨-, hm⟩
    · exact ⟨d, hd⟩
    · exact h.written m r hm hf
  · intro s hs
    rcases List.mem_append.1 hs with hs | hs
    · exact h.kept s hs
    · rw [List.mem_singleton.1 hs]
      exact ⟨d, hd⟩

/-- Steps of Slurm keep what a job is for. -/
theorem isFor_of_sub (hsub : ∀ y ∈ w.jobs, ∃ y' ∈ w'.jobs, y'.id = y.id ∧ y'.request = y.request)
    (h : w.IsFor j x) : w'.IsFor j x := by
  obtain ⟨y, hy, hid, hx⟩ := h
  obtain ⟨y', hy', hid', hx'⟩ := hsub y hy
  exact ⟨y', hy', hid'.trans hid, hx'.trans hx⟩

/-- A new job takes nothing from what the others are for. -/
theorem isFor_append {y : Job} (hjobs : w'.jobs = w.jobs ++ [y]) (h : w.IsFor j x) :
    w'.IsFor j x := by
  refine isFor_of_sub (fun z hz => ⟨z, ?_, rfl, rfl⟩) h
  rw [hjobs]
  exact List.mem_append_left _ hz

theorem ids_append {y : Job} (hids : (w.jobs.map Job.id).Nodup)
    (hfresh : y.id ∉ w.jobs.map Job.id) :
    ((w.jobs ++ [y]).map Job.id).Nodup := by
  rw [List.map_append, List.map_singleton, ← List.concat_eq_append]
  exact hids.concat hfresh

/-- The parts of the directory that are about what jobs are for. -/
theorem Filed.jobs (h : Filed w) (hsub : ∀ {j x}, w.IsFor j x → w'.IsFor j x)
    (hids : (w'.jobs.map Job.id).Nodup) (hfiles : w'.files = w.files) (hnames : w'.names = w.names)
    (hreserved : w'.reserved = w.reserved) (hruns : w'.runs = w.runs)
    (hlogs : ∀ x, ∀ j ∈ w'.logs x, w'.IsFor j x)
    (haccepted : ∀ s ∈ w'.sruns, ∀ j ∈ s.job, w'.IsFor j s.requestId)
    (hsource : ∀ y ∈ w'.jobs, ∀ x, y.request = some x →
      ∃ s ∈ w'.sruns, s.requestId = x ∧ s.job = some y.id)
    (hkept : ∀ s ∈ w'.sruns, ∃ s' ∈ w.sruns, s'.requestId = s.requestId)
    (hsampled : ∀ y ∈ w'.jobs, y.sampled = true →
      ∃ y' ∈ w.jobs, y'.id = y.id ∧ y'.request = y.request ∧ y'.sampled = true) : Filed w' := by
  have hreq : w'.requested = w.requested := congrArg (List.map Prod.fst) hreserved
  constructor
  · exact hids
  · exact haccepted
  · exact hsource
  · exact hlogs
  · rw [hreq, hnames]
    exact h.listed
  · rw [hreq, hfiles]
    intro x hx
    obtain ⟨file, hfile, hdoc⟩ := h.request x hx
    exact ⟨file, hfile, fun d hd => ⟨(hdoc d hd).1, fun j hj => hsub ((hdoc d hd).2 j hj)⟩⟩
  · rw [hreq, hfiles]
    intro name file hfile
    rcases h.other name file hfile with hx | ⟨hm, j, hdoc, hj⟩
    · exact Or.inl hx
    · exact Or.inr ⟨hm, j, hdoc, hsub hj⟩
  · rw [hreq]
    exact h.apart
  · rw [hruns, hfiles]
    exact h.written
  · rw [hfiles]
    intro s hs
    obtain ⟨s', hs', hid⟩ := hkept s hs
    exact hid ▸ h.kept s' hs'
  · rw [hfiles]
    intro y hy x hx hsampled'
    obtain ⟨y', hy', hid, hrequest, hsam⟩ := hsampled y hy hsampled'
    rw [← hid]
    exact h.sampled y' hy' x (hrequest.trans hx) hsam

/-- The creator writes its file. -/
theorem Filed.write (h : Filed w) (ho : Owned w) (hr : w.runs[i]? = some ⟨x, .reserved⟩) :
    Filed ((w.put (requestName x) (some ⟨x, none⟩)).moveTo i .written) := by
  have hx : x ∈ w.requested := ho.mem_requested hr rfl
  have hput : Filed (w.put (requestName x) (some ⟨x, none⟩)) :=
    h.rewrite ho hx none fun j hj => by cases hj
  refine { hput with written := fun m r hm hf => ?_ }
  have hrun : (w.put (requestName x) (some ⟨x, none⟩)).runs[i]? = some ⟨x, .reserved⟩ := hr
  rcases runs_moveTo_cases hrun hm with ⟨-, rfl⟩ | ⟨-, hm⟩
  · refine ⟨⟨x, none⟩, ?_⟩
    show (if requestName x = requestName x then _ else _) = _
    rw [if_pos rfl]
  · exact hput.written m r hm hf

/-- The hold process writes its sample. -/
theorem Filed.hold (h : Filed w) (ho : Owned w) {y : Job} (hy : y ∈ w.jobs) (hid : y.id = j)
    (hyx : y.request = some x) :
    Filed { w.put x (some { requestId := x, allocationRef := some j }) with
      jobs := w.jobs.map fun z => if z.id = j then { z with sampled := true } else z } := by
  obtain ⟨s, hs, hsx, hsj⟩ := h.source y hy x hyx
  have hx : x ∈ w.requested := hsx ▸ ho.requested hs
  have hne : ∀ z ∈ w.requested, requestName z ≠ x := fun z hz heq => h.apart x hx z hz heq.symm
  -- the job of the request is this one
  have hone : ∀ z ∈ w.jobs, z.request = some x → z.id = j := by
    intro z hz hzx
    obtain ⟨s', hs', hsx', hsj'⟩ := h.source z hz x hzx
    obtain rfl := List.inj_on_of_nodup_map ho.once hs' hs (hsx'.trans hsx.symm)
    exact (Option.some.inj (hsj'.symm.trans hsj)).trans hid
  have hsub : ∀ {m z}, w.IsFor m z → Site.IsFor { w.put x (some ⟨x, some j⟩) with
      jobs := w.jobs.map fun z => if z.id = j then { z with sampled := true } else z } m z := by
    intro m z hm
    refine isFor_of_sub (fun a ha => ⟨_, List.mem_map.2 ⟨a, ha, rfl⟩, ?_⟩) hm
    split <;> exact ⟨rfl, rfl⟩
  have hfile : ∀ z ∈ w.requested, ∀ file, w.files (requestName z) = some file →
      (if requestName z = x then some (some ⟨x, some j⟩) else w.files (requestName z)) =
        some file := by
    intro z hz file hfile
    rw [if_neg (hne z hz)]
    exact hfile
  constructor
  · show ((w.jobs.map fun z => if z.id = j then { z with sampled := true } else z).map Job.id).Nodup
    have hmap :
        (w.jobs.map fun z => if z.id = j then { z with sampled := true } else z).map Job.id =
        w.jobs.map Job.id := by
      rw [List.map_map]
      refine List.map_congr_left fun z _ => ?_
      simp only [Function.comp]
      split <;> rfl
    rw [hmap]
    exact h.ids
  · intro s hs m hm
    exact hsub (h.accepted s hs m hm)
  · intro z hz v hv
    obtain ⟨z', hz', rfl⟩ := List.mem_map.1 hz
    have hv' : z'.request = some v := by
      split at hv <;> exact hv
    obtain ⟨s, hs, hsv, hsj⟩ := h.source z' hz' v hv'
    refine ⟨s, hs, hsv, ?_⟩
    split <;> exact hsj
  · intro z m hm
    exact hsub (h.logs z m hm)
  · intro z hz
    show requestName z ∈ if x ∈ w.names then w.names else w.names ++ [x]
    split
    · exact h.listed z hz
    · exact List.mem_append_left _ (h.listed z hz)
  · intro z hz
    obtain ⟨file, hfz, hdoc⟩ := h.request z hz
    exact ⟨file, hfile z hz file hfz, fun d hd =>
      ⟨(hdoc d hd).1, fun m hm => hsub ((hdoc d hd).2 m hm)⟩⟩
  · intro name file hf
    have hf : (if name = x then some (some ⟨x, some j⟩) else w.files name) = some file := hf
    split at hf
    · rename_i heq
      obtain rfl := Option.some.inj hf
      rw [heq]
      exact Or.inr ⟨hx, j, rfl, hsub ⟨y, hy, hid, hyx⟩⟩
    · rcases h.other name file hf with hz | ⟨hm, m, hdoc, hfor⟩
      · exact Or.inl hz
      · exact Or.inr ⟨hm, m, hdoc, hsub hfor⟩
  · exact h.apart
  · intro m r hr hf
    have hr : w.runs[m]? = some r := hr
    obtain ⟨d, hd⟩ := h.written m r hr hf
    have howns : r.phase.owns = true := by
      cases hp : r.phase <;> rw [hp] at hf <;> first | rfl | cases hf
    exact ⟨d, hfile r.requestId (ho.mem_requested hr howns) _ hd⟩
  · intro s hs
    obtain ⟨d, hd⟩ := h.kept s hs
    exact ⟨d, hfile s.requestId (ho.requested hs) _ hd⟩
  · intro z hz v hv hsampled
    obtain ⟨z', hz', rfl⟩ := List.mem_map.1 hz
    have hv' : z'.request = some v := by
      split at hv <;> exact hv
    show (if v = x then some (some ⟨x, some j⟩) else w.files v) = _
    split
    · rename_i hvx
      have hzj : z'.id = j := hone z' hz' (hvx ▸ hv')
      rw [if_pos hzj, hvx, hzj]
    · rename_i hvx
      have hzj : z'.id ≠ j := by
        intro heq
        have hsame := List.inj_on_of_nodup_map h.ids hz' hy (heq.trans hid.symm)
        rw [hsame, hyx] at hv'
        exact hvx (Option.some.inj hv').symm
      rw [if_neg hzj] at hsampled ⊢
      exact h.sampled z' hz' v hv' hsampled

end

/-! ## What is reported -/

section

variable {w : Site} {x : String} {j : ℕ} {d : Doc} {answers : ℕ → Bool} {listing : List String}

/-- A request file says whose it is. -/
theorem Filed.docs (h : Filed w) {name : String} (hd : w.readJson name = some d) :
    d.requestId ∈ w.requested ∧ ∀ m ∈ d.allocationRef, w.IsFor m d.requestId := by
  obtain ⟨file, hfile, hdoc⟩ := Option.bind_eq_some_iff.1 hd
  rcases h.other name file hfile with ⟨y, hy, rfl⟩ | ⟨hm, m, rfl, hfor⟩
  · obtain ⟨file', hfile', hdocs⟩ := h.request y hy
    obtain rfl := Option.some.inj (hfile.symm.trans hfile')
    obtain ⟨hid, hrefs⟩ := hdocs d hdoc
    rw [hid]
    exact ⟨hy, hrefs⟩
  · obtain rfl := Option.some.inj hdoc
    refine ⟨hm, fun m' hm' => ?_⟩
    obtain rfl := Option.some.inj hm'
    exact hfor

/-- The job `all_allocations` takes for a request's is accepted for it. -/
theorem Filed.jobOf (h : Filed w) {name : String} (hd : w.readJson name = some d)
    (hj : w.jobOf answers d = some j) : w.IsFor j d.requestId := by
  obtain ⟨hrequested, hrefs⟩ := h.docs hd
  unfold Site.jobOf at hj
  split at hj
  · rename_i sample hsample
    obtain ⟨-, m, hm, hfor⟩ := h.sample hrequested hsample
    rw [hm] at hj
    obtain rfl := Option.some.inj hj
    exact hfor
  · unfold Site.requestJobId at hj
    cases href : d.allocationRef with
    | some m =>
      rw [href] at hj
      obtain rfl := Option.some.inj hj
      exact hrefs m href
    | none =>
      -- the log names the jobs of its own `srun`
      rw [href, Option.none_or] at hj
      split at hj
      · rename_i m hm
        obtain rfl := Option.some.inj hj
        have hmem : m ∈ (w.logs d.requestId).dedup.filter _ :=
          hm ▸ List.mem_singleton_self m
        exact h.logs _ _ (List.mem_dedup.1 (List.mem_filter.1 hmem).1)
      · cases hj

theorem Filed.requests (h : Filed w) (hm : (j, d) ∈ w.requests answers listing) :
    w.IsFor j d.requestId := by
  obtain ⟨d', hd', hpair⟩ := List.mem_filterMap.1 hm
  obtain ⟨name, -, hname⟩ := List.mem_filterMap.1 hd'
  obtain ⟨m, hjob, heq⟩ := Option.map_eq_some_iff.1 hpair
  obtain ⟨rfl, rfl⟩ := Prod.mk.inj heq
  exact h.jobOf hname hjob

/-- A fact under a request id is about a job accepted for it. -/
theorem Filed.reports (h : Filed w) {f : Site.Fact} (hf : f ∈ w.allAllocations answers listing)
    (hx : f.requestId = some x) : w.IsFor f.allocationRef x := by
  obtain ⟨j, -, rfl⟩ := List.mem_map.1 hf
  obtain ⟨d, hd, rfl⟩ := Option.map_eq_some_iff.1 hx
  have hm : (j, d) ∈ (w.requests answers listing).reverse := Rows.mem_of_lookup hd
  exact h.requests (List.mem_reverse.1 hm)

theorem isRequestName_requestName (x : String) : isRequestName (requestName x) = true := by
  unfold isRequestName requestName
  rw [String.toList_append, List.isPrefixOf_iff_prefix]
  exact List.prefix_append _ _

/-- **Every sampled job is reported** under its request. -/
theorem Filed.reported (h : Filed w) (ho : Owned w) {y : Job} (hy : y ∈ w.jobs)
    (hyx : y.request = some x) (hsampled : y.sampled = true) (hlisting : listing.Perm w.names) :
    ∃ f ∈ w.allAllocations answers listing, f.allocationRef = y.id ∧ f.requestId = some x := by
  obtain ⟨s, hs, hsx, -⟩ := h.source y hy x hyx
  have hrequested : x ∈ w.requested := hsx ▸ ho.requested hs
  -- its request file is listed and read
  obtain ⟨d, hd⟩ := h.kept s hs
  rw [hsx] at hd
  have hread : w.readJson (requestName x) = some d := by
    unfold Site.readJson
    rw [hd]
    rfl
  have hdx : d.requestId = x := by
    obtain ⟨file, hfile, hdocs⟩ := h.request x hrequested
    rw [hd] at hfile
    obtain rfl := Option.some.inj hfile
    exact (hdocs d rfl).1
  have hlisted : requestName x ∈ listing := hlisting.mem_iff.2 (h.listed x hrequested)
  -- and its sample names the job
  have hjob : w.jobOf answers d = some y.id := by
    have hsample : w.readJson x = some ⟨x, some y.id⟩ := by
      unfold Site.readJson
      rw [h.sampled y hy x hyx hsampled]
      rfl
    unfold Site.jobOf
    rw [hdx, hsample]
  have hmem : (y.id, d) ∈ w.requests answers listing := by
    refine List.mem_filterMap.2 ⟨d, List.mem_filterMap.2 ⟨requestName x, ?_, hread⟩, ?_⟩
    · exact List.mem_filter.2 ⟨hlisted, isRequestName_requestName x⟩
    · rw [hjob]
      rfl
  -- no other request is taken for the job's
  have hfound : ∃ d', (w.requests answers listing).reverse.lookup y.id = some d' := by
    cases hl : (w.requests answers listing).reverse.lookup y.id with
    | some d' => exact ⟨d', rfl⟩
    | none =>
      have hnone := List.lookup_eq_none_iff.1 hl (y.id, d) (List.mem_reverse.2 hmem)
      simp at hnone
  obtain ⟨d', hd'⟩ := hfound
  have hfor : w.IsFor y.id d'.requestId := h.requests (List.mem_reverse.1 (Rows.mem_of_lookup hd'))
  have hx' : d'.requestId = x := h.isFor_unique hfor ⟨y, hy, rfl, hyx⟩
  refine ⟨_, List.mem_map.2 ⟨y.id, ?_, rfl⟩, rfl, ?_⟩
  · rw [List.mem_insertionSort, List.mem_dedup]
    exact List.mem_append_left _ (List.mem_map.2 ⟨_, hmem, rfl⟩)
  · show ((w.requests answers listing).reverse.lookup y.id).map Doc.requestId = some x
    rw [hd', Option.map_some, hx']

end

/-! ## What was answered -/

/-- What was printed is about jobs of the request, and nothing of a refused request is left. -/
structure Answered (w : Site) : Prop where
  printed : ∀ p ∈ w.printed, w.IsFor p.2 p.1
  settled : ∀ x ∈ w.refused, x ∉ w.requested ∨
    ∃ s ∈ w.sruns, s.requestId = x ∧ s.exit = some noCapacityExitCode
  final : ∀ s ∈ w.sruns, s.exit = some noCapacityExitCode →
    ∀ j ∈ s.job, ∀ y ∈ w.jobs, y.id = j → y.state.final = true

/-- The three together. -/
structure Kept (w : Site) : Prop where
  owned : Owned w
  filed : Filed w
  answered : Answered w

section

variable {w w' : Site} {i j k : ℕ} {x : String}

/-- A step that answers nothing, of whose jobs and ended `srun`s the answers stay true. -/
theorem Answered.congr (h : Answered w) (hsub : ∀ {j x}, w.IsFor j x → w'.IsFor j x)
    (hprinted : w'.printed = w.printed) (hrefused : w'.refused = w.refused)
    (hreserved : w'.reserved = w.reserved)
    (hended : ∀ s ∈ w.sruns, s.exit = some noCapacityExitCode →
      ∃ s' ∈ w'.sruns, s'.requestId = s.requestId ∧ s'.exit = s.exit)
    (hfinal : ∀ s ∈ w'.sruns, s.exit = some noCapacityExitCode →
      ∀ j ∈ s.job, ∀ y ∈ w'.jobs, y.id = j → y.state.final = true) : Answered w' := by
  constructor
  · rw [hprinted]
    intro p hp
    exact hsub (h.printed p hp)
  · rw [hrefused]
    intro x hx
    unfold Site.requested
    rw [hreserved]
    rcases h.settled x hx with hno | ⟨s, hs, hsx, hexit⟩
    · exact Or.inl hno
    · obtain ⟨s', hs', hid, hexit'⟩ := hended s hs hexit
      exact Or.inr ⟨s', hs', hid.trans hsx, hexit'.trans hexit⟩
  · exact hfinal

/-- A run goes on without having written anything. -/
theorem Kept.moveTo (h : Kept w) {p : ApplyPhase} (ho : p.owns = false) (hf : p.filed = false)
    (hl : ∀ r, w.runs[i]? = some r → r.phase.launched = true → p.launched = true) :
    Kept (w.moveTo i p) :=
  ⟨h.owned.moveTo ho hl, h.filed.moveTo hf, { h.answered with }⟩

theorem Kept.done (h : Kept w) : Kept (w.moveTo i .done) := h.moveTo rfl rfl fun _ _ _ => rfl

/-- A run prints a fact about a job of its request. -/
theorem Kept.print (h : Kept w) (hj : w.IsFor j x) :
    Kept { w with printed := (x, j) :: w.printed } := by
  refine ⟨{ h.owned with }, { h.filed with }, { h.answered with printed := ?_ }⟩
  intro p hp
  rcases List.mem_cons.1 hp with rfl | hp
  · exact hj
  · exact h.answered.printed p hp

/-- A run exits with `NO_CAPACITY_EXIT_CODE`, and nothing of its request is left. -/
theorem Kept.refuse (h : Kept w) (hx : x ∉ w.requested ∨
    ∃ s ∈ w.sruns, s.requestId = x ∧ s.exit = some noCapacityExitCode) :
    Kept { w with refused := x :: w.refused } := by
  refine ⟨{ h.owned with }, { h.filed with }, { h.answered with settled := ?_ }⟩
  intro y hy
  rcases List.mem_cons.1 hy with rfl | hy
  · exact hx
  · exact h.answered.settled y hy

/-! ## Steps of a run -/

theorem Kept.apply (h : Kept w) (x : String) : Kept (w.step (.apply x)) := by
  -- only the new run is not one of the old, and it has done nothing yet
  have hold : ∀ (m : ℕ) (r : ApplyRun), (w.runs ++ [{ requestId := x }])[m]? = some r →
      r.phase ≠ .begun → w.runs[m]? = some r := by
    intro m r hr hne
    rcases Nat.lt_or_ge m w.runs.length with hlt | hge
    · rwa [List.getElem?_append_left hlt] at hr
    · rw [List.getElem?_append_right hge] at hr
      have hm := List.mem_of_getElem? hr
      rw [List.mem_singleton.1 hm] at hne
      exact absurd rfl hne
  have hnew : ∀ (m : ℕ) (r : ApplyRun), w.runs[m]? = some r →
      (w.runs ++ [{ requestId := x }])[m]? = some r := by
    intro m r hr
    rw [List.getElem?_append_left (List.getElem?_eq_some_iff.1 hr).1]
    exact hr
  refine ⟨{ h.owned with owner := ?_, started := ?_, waits := ?_ },
    { h.filed with written := ?_ }, { h.answered with }⟩
  · intro m r hr ho
    refine h.owned.owner m r (hold m r hr ?_) ho
    intro hp
    rw [hp] at ho
    cases ho
  · intro s hs
    obtain ⟨m, r, hres, hr, hid, hl⟩ := h.owned.started s hs
    exact ⟨m, r, hres, hnew m r hr, hid, hl⟩
  · intro m r k hr hk
    refine h.owned.waits m r k (hold m r hr ?_) hk
    intro hp
    rw [hp] at hk
    cases hk
  · intro m r hr hf
    refine h.filed.written m r (hold m r hr ?_) hf
    intro hp
    rw [hp] at hf
    cases hf

theorem Kept.capacity (h : Kept w) {enough : Bool} (hfair : w.fair (.capacity i enough)) :
    Kept (w.capacity i enough) := by
  unfold Site.capacity
  split
  · rename_i x hr
    have hmove : ∀ {p : ApplyPhase}, ∀ r, w.runs[i]? = some r → r.phase.launched = true →
        p.launched = true := by
      intro p r hr' hl
      rw [hr] at hr'
      obtain rfl := Option.some.inj hr'
      cases hl
    cases enough with
    | true => exact h.moveTo rfl rfl hmove
    | false =>
      have hrefused : x ∈ w.requested → x ∈ w.refused := hfair ⟨x, .begun⟩ hr rfl
      by_cases hx : x ∈ w.requested
      · exact h.done.refuse (h.answered.settled x (hrefused hx))
      · exact h.done.refuse (Or.inl hx)
  · exact h

theorem Kept.reserve (h : Kept w) (hfair : w.fair (.reserve i)) : Kept (w.reserve i) := by
  unfold Site.reserve
  split
  · rename_i x hr
    split
    · refine h.moveTo rfl rfl fun r hr' hl => ?_
      rw [hr] at hr'
      obtain rfl := Option.some.inj hr'
      cases hl
    · rename_i hfile
      have hnone : w.files (requestName x) = none := by
        cases hf : w.files (requestName x) with
        | none => rfl
        | some file =>
          rw [hf] at hfile
          exact absurd rfl hfile
      have hx : x ∉ w.requested := by
        intro hm
        obtain ⟨file, hf, -⟩ := h.filed.request x hm
        rw [hnone] at hf
        cases hf
      obtain ⟨hrefused, hapart⟩ : x ∉ w.refused ∧ ∀ y ∈ w.requested, x ≠ requestName y ∧
        y ≠ requestName x := hfair ⟨x, .checked⟩ hr rfl hnone
      refine ⟨h.owned.reserve hr hx rfl rfl rfl, h.filed.reserve hnone hapart,
        { h.answered with settled := ?_ }⟩
      intro y hy
      rcases h.answered.settled y hy with hno | hs
      · refine Or.inl fun hm => ?_
        rcases List.mem_cons.1 hm with hyx | hm
        · obtain rfl : y = x := hyx
          exact hrefused hy
        · exact hno hm
      · exact Or.inr hs
  · exact h

theorem Kept.write (h : Kept w) : Kept (w.write i) := by
  unfold Site.write
  split
  · rename_i x hr
    refine ⟨?_, h.filed.write h.owned hr, { h.answered with }⟩
    exact (h.owned.write hr).congr rfl rfl fun _ => rfl
  · exact h

theorem Kept.launch (h : Kept w) : Kept (w.launch i) := by
  unfold Site.launch
  split
  · rename_i x hr
    refine ⟨h.owned.launch hr rfl rfl rfl, h.filed.launch hr, ?_⟩
    refine h.answered.congr id rfl rfl rfl ?_ ?_
    · intro s hs _
      exact ⟨s, List.mem_append_left _ hs, rfl, rfl⟩
    · intro s hs hexit
      rcases List.mem_append.1 hs with hs | hs
      · exact h.answered.final s hs hexit
      · rw [List.mem_singleton.1 hs] at hexit
        cases hexit
  · exact h

theorem Kept.look (h : Kept w) {answers : ℕ → Bool} {deadline : Bool} :
    Kept (w.look i answers deadline) := by
  unfold Site.look
  split
  · rename_i x k hr
    have hx : x ∈ w.requested := h.owned.mem_requested hr rfl
    split
    · exact h
    · rename_i sample hsample
      obtain ⟨-, m, hm, hfor⟩ := h.filed.sample hx hsample
      split
      · exact h.done
      · rename_i j hj
        obtain rfl := Option.some.inj (hj.symm.trans hm)
        have hput : Kept (w.put (requestName x) (some ⟨x, some j⟩)) := by
          refine ⟨{ h.owned with }, ?_, { h.answered with }⟩
          refine h.filed.rewrite h.owned hx (some j) fun m hm => ?_
          obtain rfl := Option.some.inj hm
          exact hfor
        simp only
        split
        · exact hput.done.print hfor
        · exact hput
  · exact h

theorem Kept.poll (h : Kept w) : Kept (w.poll i) := by
  unfold Site.poll
  split
  · rename_i x k hr
    split
    · exact h
    · rename_i code hcode
      obtain ⟨s, hs, hexit⟩ := Option.bind_eq_some_iff.1 hcode
      split
      · rename_i hno
        obtain ⟨s', hs', hid⟩ := h.owned.waits i _ k hr rfl
        obtain rfl := Option.some.inj (hs.symm.trans hs')
        exact h.done.refuse (Or.inr ⟨s, List.mem_of_getElem? hs, hid, hno ▸ hexit⟩)
      · exact h.done
  · exact h

theorem Kept.ask (h : Kept w) {answers : ℕ → Bool} {listing : List String} :
    Kept (w.ask i answers listing) := by
  unfold Site.ask
  split
  · rename_i x hr
    split
    · rename_i f hf
      have hfx : f.requestId = some x := by simpa using List.find?_some hf
      have hfor : w.IsFor f.allocationRef x := h.filed.reports (List.mem_of_find?_eq_some hf) hfx
      split
      · exact h.done.print hfor
      · exact h.done
    · exact h.done
  · exact h

/-! ## Steps of Slurm -/

theorem mem_modify {α : Type} {l : List α} {f : α → α} {a : α} (h : a ∈ l.modify k f) :
    a ∈ l ∨ ∃ c, l[k]? = some c ∧ a = f c := by
  obtain ⟨m, hm⟩ := List.mem_iff_getElem?.1 h
  rw [List.getElem?_modify] at hm
  obtain ⟨c, hc, rfl⟩ := Option.map_eq_some_iff.1 hm
  split
  · rename_i heq
    subst heq
    exact Or.inr ⟨c, hc, rfl⟩
  · exact Or.inl (List.mem_of_getElem? hc)

theorem modify_of_mem {α : Type} {l : List α} {f : α → α} {c : α} (h : c ∈ l) :
    c ∈ l.modify k f ∨ l[k]? = some c ∧ f c ∈ l.modify k f := by
  obtain ⟨m, hm⟩ := List.mem_iff_getElem?.1 h
  have hmod : (l.modify k f)[m]? = some (if k = m then f c else c) := by
    rw [List.getElem?_modify, hm]
    split <;> rfl
  split at hmod
  · rename_i heq
    subst heq
    exact Or.inr ⟨hm, List.mem_of_getElem? hmod⟩
  · exact Or.inl (List.mem_of_getElem? hmod)

theorem modify_ids {l : List Srun} {f : Srun → Srun} (hf : ∀ s, (f s).requestId = s.requestId)
    (m : ℕ) : ((l.modify k f)[m]?).map Srun.requestId = (l[m]?).map Srun.requestId := by
  rw [List.getElem?_modify]
  cases l[m]? with
  | none => rfl
  | some s =>
    show some (if k = m then f s else s).requestId = some s.requestId
    split
    · rw [hf s]
    · rfl

/-- The jobs of an `srun` that ended are over, and a new job is not one of them. -/
theorem Kept.final_append (h : Kept w) {y z : Job} {s : Srun} {m : ℕ}
    (hfresh : y.id ∉ w.jobs.map Job.id) (hs : s ∈ w.sruns)
    (hended : s.exit = some noCapacityExitCode) (hm : m ∈ s.job) (hz : z ∈ w.jobs ++ [y])
    (hzm : z.id = m) : z.state.final = true := by
  rcases List.mem_append.1 hz with hz | hz
  · exact h.answered.final s hs hended m hm z hz hzm
  · obtain ⟨z', hz', hid, -⟩ := h.filed.accepted s hs m hm
    rw [List.mem_singleton.1 hz] at hzm
    exact absurd (List.mem_map.2 ⟨z', hz', hid.trans hzm.symm⟩) hfresh

/-- Slurm accepts a job. -/
theorem Kept.accept (h : Kept w) : Kept (w.accept k j) := by
  unfold Site.accept
  split
  · rename_i s hs
    split
    · rename_i hcond
      obtain ⟨hexit, hjob, hfresh⟩ := hcond
      have hmem : s ∈ w.sruns := List.mem_of_getElem? hs
      set f : Srun → Srun := fun s => { s with job := some j } with hf
      set y : Job := { id := j, name := "sp-" ++ s.requestId, request := some s.requestId } with hy
      have hsub : ∀ {m x}, w.IsFor m x → Site.IsFor
          { w with sruns := w.sruns.modify k f, jobs := w.jobs ++ [y] } m x := fun hm =>
        isFor_append rfl hm
      have hnew : Site.IsFor { w with sruns := w.sruns.modify k f, jobs := w.jobs ++ [y] } j
          s.requestId := ⟨y, List.mem_append_right _ List.mem_cons_self, rfl, rfl⟩
      refine ⟨h.owned.congr rfl rfl (modify_ids fun _ => rfl), ?_, ?_⟩
      · refine h.filed.jobs hsub ?_ rfl rfl rfl rfl ?_ ?_ ?_ ?_ ?_
        · exact ids_append h.filed.ids hfresh
        · intro x m hm
          exact hsub (h.filed.logs x m hm)
        · intro s' hs' m hm
          rcases mem_modify hs' with hs' | ⟨c, hc, rfl⟩
          · exact hsub (h.filed.accepted s' hs' m hm)
          · obtain rfl := Option.some.inj (hs.symm.trans hc)
            obtain rfl := Option.some.inj hm
            exact hnew
        · intro z hz x hzx
          rcases List.mem_append.1 hz with hz | hz
          · obtain ⟨s', hs', hid, hsj⟩ := h.filed.source z hz x hzx
            rcases modify_of_mem (k := k) (f := f) hs' with hs'' | ⟨hk, -⟩
            · exact ⟨s', hs'', hid, hsj⟩
            · obtain rfl := Option.some.inj (hs.symm.trans hk)
              rw [hjob] at hsj
              cases hsj
          · obtain rfl := List.mem_singleton.1 hz
            obtain rfl := Option.some.inj hzx
            refine ⟨f s, ?_, rfl, rfl⟩
            refine List.mem_of_getElem? (i := k) ?_
            rw [List.getElem?_modify, hs]
            simp
        · intro s' hs'
          rcases mem_modify hs' with hs' | ⟨c, hc, rfl⟩
          · exact ⟨s', hs', rfl⟩
          · exact ⟨c, List.mem_of_getElem? hc, rfl⟩
        · intro z hz hsam
          rcases List.mem_append.1 hz with hz | hz
          · exact ⟨z, hz, rfl, rfl, hsam⟩
          · rw [List.mem_singleton.1 hz] at hsam
            cases hsam
      · refine h.answered.congr hsub rfl rfl rfl ?_ ?_
        · intro s' hs' hended
          rcases modify_of_mem (k := k) (f := f) hs' with hs'' | ⟨-, hs''⟩
          · exact ⟨s', hs'', rfl, rfl⟩
          · exact ⟨f s', hs'', rfl, rfl⟩
        · intro s' hs' hended m hm z hz hzm
          -- an `srun` that ended is not the one that got the job
          have hs'' : s' ∈ w.sruns := by
            rcases mem_modify hs' with hs' | ⟨c, hc, rfl⟩
            · exact hs'
            · obtain rfl := Option.some.inj (hs.symm.trans hc)
              rw [show (f s).exit = s.exit from rfl, hexit] at hended
              cases hended
          exact h.final_append hfresh hs'' hended hm hz hzm
    · exact h
  · exact h

theorem Kept.announce (h : Kept w) : Kept (w.announce k) := by
  unfold Site.announce
  split
  · rename_i x j e hs
    refine ⟨{ h.owned with }, { h.filed with logs := ?_ }, { h.answered with }⟩
    intro z m hm
    have hm : m ∈ if z = x then w.logs z ++ [j] else w.logs z := hm
    split at hm
    · rename_i hzx
      rcases List.mem_append.1 hm with hm | hm
      · exact h.filed.logs z m hm
      · rw [List.mem_singleton.1 hm, hzx]
        exact h.filed.accepted _ (List.mem_of_getElem? hs) j rfl
    · exact h.filed.logs z m hm
  · exact h

/-- Jobs change their states, final ones excepted. -/
theorem Kept.setState (h : Kept w) {state : JobState} : Kept (w.setState j state) := by
  set f : Job → Job := fun y => if y.id = j ∧ y.state.final = false then { y with state } else y
    with hf
  have hid : ∀ y, (f y).id = y.id := by
    intro y
    rw [hf]
    simp only
    split <;> rfl
  have hrequest : ∀ y, (f y).request = y.request := by
    intro y
    rw [hf]
    simp only
    split <;> rfl
  have hsampled : ∀ y, (f y).sampled = y.sampled := by
    intro y
    rw [hf]
    simp only
    split <;> rfl
  have hfinal : ∀ y : Job, y.state.final = true → (f y).state.final = true := by
    intro y hy
    rw [hf]
    simp only
    split
    · rename_i hcond
      rw [hy] at hcond
      cases hcond.2
    · exact hy
  have hsub : ∀ {m x}, w.IsFor m x → (w.setState j state).IsFor m x := fun hm =>
    isFor_of_sub (fun y hy => ⟨f y, List.mem_map.2 ⟨y, hy, rfl⟩, hid y, hrequest y⟩) hm
  refine ⟨h.owned.congr rfl rfl fun _ => rfl, ?_, ?_⟩
  · refine h.filed.jobs hsub ?_ rfl rfl rfl rfl ?_ ?_ ?_ ?_ ?_
    · show ((w.jobs.map f).map Job.id).Nodup
      have hmap : (w.jobs.map f).map Job.id = w.jobs.map Job.id := by
        rw [List.map_map]
        exact List.map_congr_left fun y _ => hid y
      rw [hmap]
      exact h.filed.ids
    · intro x m hm
      exact hsub (h.filed.logs x m hm)
    · intro s hs m hm
      exact hsub (h.filed.accepted s hs m hm)
    · intro y hy x hyx
      obtain ⟨y', hy', rfl⟩ := List.mem_map.1 hy
      obtain ⟨s, hs, hsx, hsj⟩ := h.filed.source y' hy' x ((hrequest y').symm.trans hyx)
      exact ⟨s, hs, hsx, hsj.trans (congrArg some (hid y').symm)⟩
    · intro s hs
      exact ⟨s, hs, rfl⟩
    · intro y hy hsam
      obtain ⟨y', hy', rfl⟩ := List.mem_map.1 hy
      exact ⟨y', hy', (hid y').symm, (hrequest y').symm, (hsampled y').symm.trans hsam⟩
  · refine h.answered.congr hsub rfl rfl rfl ?_ ?_
    · intro s hs _
      exact ⟨s, hs, rfl, rfl⟩
    · intro s hs hended m hm y hy hym
      obtain ⟨y', hy', rfl⟩ := List.mem_map.1 hy
      exact hfinal y' (h.answered.final s hs hended m hm y' hy' ((hid y').symm.trans hym))

/-- An `srun` ends. -/
theorem Kept.ended (h : Kept w) {s : Srun} (hs : w.sruns[k]? = some s) (hexit : s.exit = none)
    {code : ℕ} (hcode : code = noCapacityExitCode →
      ∀ j ∈ s.job, ∀ y ∈ w.jobs, y.id = j → y.state.final = true) :
    Kept { w with sruns := w.sruns.modify k fun s => { s with exit := some code } } := by
  set f : Srun → Srun := fun s => { s with exit := some code } with hf
  refine ⟨h.owned.congr rfl rfl (modify_ids fun _ => rfl), ?_, ?_⟩
  · refine h.filed.jobs id h.filed.ids rfl rfl rfl rfl h.filed.logs ?_ ?_ ?_ ?_
    · intro s' hs' m hm
      rcases mem_modify hs' with hs' | ⟨c, hc, rfl⟩
      · exact h.filed.accepted s' hs' m hm
      · exact h.filed.accepted c (List.mem_of_getElem? hc) m hm
    · intro y hy x hyx
      obtain ⟨s', hs', hid, hsj⟩ := h.filed.source y hy x hyx
      rcases modify_of_mem (k := k) (f := f) hs' with hs'' | ⟨-, hs''⟩
      · exact ⟨s', hs'', hid, hsj⟩
      · exact ⟨f s', hs'', hid, hsj⟩
    · intro s' hs'
      rcases mem_modify hs' with hs' | ⟨c, hc, rfl⟩
      · exact ⟨s', hs', rfl⟩
      · exact ⟨c, List.mem_of_getElem? hc, rfl⟩
    · intro y hy hsam
      exact ⟨y, hy, rfl, rfl, hsam⟩
  · refine h.answered.congr id rfl rfl rfl ?_ ?_
    · intro s' hs' hended
      rcases modify_of_mem (k := k) (f := f) hs' with hs'' | ⟨hk, -⟩
      · exact ⟨s', hs'', rfl, rfl⟩
      · obtain rfl := Option.some.inj (hs.symm.trans hk)
        rw [hexit] at hended
        cases hended
    · intro s' hs' hended
      rcases mem_modify hs' with hs' | ⟨c, hc, rfl⟩
      · exact h.answered.final s' hs' hended
      · obtain rfl := Option.some.inj (hs.symm.trans hc)
        exact hcode (Option.some.inj hended)

theorem Kept.exit (h : Kept w) {code : ℕ} : Kept (w.exit k code) := by
  unfold Site.exit
  split
  · rename_i s hs
    split
    · rename_i hcode
      split
      · rename_i hcond
        cases hjob : s.job with
        | none =>
          refine h.ended hs hcond.1 fun _ m hm => ?_
          rw [hjob] at hm
          cases hm
        | some j =>
          -- the job is cancelled, and the `srun` ends
          have hcancelled : Kept (w.setState j .cancelled) := h.setState
          refine hcancelled.ended hs hcond.1 fun _ m hm y hy hym => ?_
          rw [hjob] at hm
          obtain rfl := Option.some.inj hm
          obtain ⟨y', hy', rfl⟩ := List.mem_map.1 hy
          split
          · rfl
          · rename_i hnot
            split at hym
            · contradiction
            · cases hfin : y'.state.final with
              | true => rfl
              | false => exact absurd ⟨hym, hfin⟩ hnot
      · exact h
    · rename_i hcode
      split
      · rename_i hexit
        exact h.ended hs hexit fun heq => absurd heq hcode
      · exact h
  · exact h

theorem Kept.hold (h : Kept w) : Kept (w.hold j) := by
  unfold Site.hold
  split
  · rename_i m n x state sam hjob
    split
    · have hy := List.mem_of_find?_eq_some hjob
      have hid : m = j := by simpa using List.find?_some hjob
      refine ⟨h.owned.congr rfl rfl fun _ => rfl, h.filed.hold h.owned hy hid rfl, ?_⟩
      have hsub : ∀ {m z}, w.IsFor m z → Site.IsFor { w.put x (some ⟨x, some j⟩) with
          jobs := w.jobs.map fun z => if z.id = j then { z with sampled := true } else z } m z := by
        intro m z hm
        refine isFor_of_sub (fun a ha => ⟨_, List.mem_map.2 ⟨a, ha, rfl⟩, ?_⟩) hm
        split <;> exact ⟨rfl, rfl⟩
      refine h.answered.congr hsub rfl rfl rfl ?_ ?_
      · intro s hs _
        exact ⟨s, hs, rfl, rfl⟩
      · intro s hs hended a ha y hy hya
        obtain ⟨y', hy', rfl⟩ := List.mem_map.1 hy
        have hya' : y'.id = a := by
          split at hya <;> exact hya
        have hfinal := h.answered.final s hs hended a ha y' hy' hya'
        split <;> exact hfinal
    · exact h
  · exact h

theorem Kept.foreign (h : Kept w) {name : String} : Kept (w.foreign j name) := by
  unfold Site.foreign
  split
  · exact h
  · rename_i hfresh
    have hsub : ∀ {m x}, w.IsFor m x →
        Site.IsFor { w with jobs := w.jobs ++ [{ id := j, name }] } m x := fun hm =>
      isFor_append rfl hm
    refine ⟨{ h.owned with }, ?_, ?_⟩
    · refine h.filed.jobs hsub ?_ rfl rfl rfl rfl ?_ ?_ ?_ ?_ ?_
      · exact ids_append h.filed.ids hfresh
      · intro x m hm
        exact hsub (h.filed.logs x m hm)
      · intro s hs m hm
        exact hsub (h.filed.accepted s hs m hm)
      · intro z hz x hzx
        rcases List.mem_append.1 hz with hz | hz
        · exact h.filed.source z hz x hzx
        · rw [List.mem_singleton.1 hz] at hzx
          cases hzx
      · intro s hs
        exact ⟨s, hs, rfl⟩
      · intro z hz hsam
        rcases List.mem_append.1 hz with hz | hz
        · exact ⟨z, hz, rfl, rfl, hsam⟩
        · rw [List.mem_singleton.1 hz] at hsam
          cases hsam
    · refine h.answered.congr hsub rfl rfl rfl ?_ ?_
      · intro s hs _
        exact ⟨s, hs, rfl, rfl⟩
      · intro s hs hended m hm z hz hzm
        exact h.final_append hfresh hs hended hm hz hzm

/-! ## Every run -/

theorem kept_start : Kept {} := by
  refine ⟨⟨?_, List.nodup_nil, ?_, List.nodup_nil, ?_⟩, ?_, ⟨?_, ?_, ?_⟩⟩
  · intro i r hr
    cases hr
  · intro s hs
    cases hs
  · intro i r k hr
    cases hr
  · constructor <;> first | exact List.nodup_nil | nofun
  all_goals nofun

theorem Kept.step (h : Kept w) {a : SiteAct} (hfair : w.fair a) : Kept (w.step a) := by
  cases a with
  | apply x => exact h.apply x
  | capacity i enough => exact h.capacity hfair
  | reserve i => exact h.reserve hfair
  | write i => exact h.write
  | launch i => exact h.launch
  | look i answers deadline => exact h.look
  | poll i => exact h.poll
  | ask i answers listing =>
    show Kept (if listing.isPerm w.names then w.ask i answers listing else w)
    split
    · exact h.ask
    · exact h
  | interrupt i => exact h.done
  | accept k j => exact h.accept
  | announce k => exact h.announce
  | setState j state => exact h.setState
  | exit k code => exact h.exit
  | hold j => exact h.hold
  | foreign j name => exact h.foreign

/-- Nothing of a refused request runs, or may start. -/
theorem Kept.refused (h : Kept w) (hx : x ∈ w.refused) :
    (∀ y ∈ w.jobs, y.request = some x → y.state.final = true) ∧
    (∀ s ∈ w.sruns, s.requestId = x → s.exit ≠ none) ∧
    ∀ r ∈ w.runs, r.requestId = x → r.phase ≠ .reserved ∧ r.phase ≠ .written := by
  rcases h.answered.settled x hx with hno | ⟨s, hs, hsx, hexit⟩
  · refine ⟨?_, ?_, ?_⟩
    · intro y hy hyx
      obtain ⟨s, hs, hsx, -⟩ := h.filed.source y hy x hyx
      exact absurd (hsx ▸ h.owned.requested hs) hno
    · intro s hs hsx
      exact absurd (hsx ▸ h.owned.requested hs) hno
    · intro r hr hrx
      obtain ⟨i, hi⟩ := List.mem_iff_getElem?.1 hr
      have hnot : r.phase.owns ≠ true := fun ho => hno (hrx ▸ h.owned.mem_requested hi ho)
      refine ⟨fun hp => hnot ?_, fun hp => hnot ?_⟩ <;> rw [hp] <;> rfl
  · refine ⟨?_, ?_, ?_⟩
    · intro y hy hyx
      obtain ⟨s', hs', hsx', hsj⟩ := h.filed.source y hy x hyx
      obtain rfl := List.inj_on_of_nodup_map h.owned.once hs' hs (hsx'.trans hsx.symm)
      exact h.answered.final s' hs' hexit y.id hsj y hy rfl
    · intro s' hs' hsx'
      obtain rfl := List.inj_on_of_nodup_map h.owned.once hs' hs (hsx'.trans hsx.symm)
      rw [hexit]
      nofun
    · intro r hr hrx
      obtain ⟨i, hi⟩ := List.mem_iff_getElem?.1 hr
      -- the run that created the file has started the `srun`
      have hstarted : r.requestId ∈ w.sruns.map Srun.requestId :=
        List.mem_map.2 ⟨s, hs, hsx.trans hrx.symm⟩
      refine ⟨fun hp => ?_, fun hp => ?_⟩
      · exact h.owned.fresh hi (by rw [hp]; rfl) (by rw [hp]; rfl) hstarted
      · exact h.owned.fresh hi (by rw [hp]; rfl) (by rw [hp]; rfl) hstarted

theorem Kept.truthful (h : Kept w) : w.Truthful where
  once := h.owned.once
  printed := h.answered.printed
  refused _ hx := h.refused hx
  reported _ hy _ hyx hsam _ _ _ hlisting := h.filed.reported h.owned hy hyx hsam hlisting

end

/-- **One job for a request, and true answers**, in every interleaving of the helper's runs. -/
theorem applies_truthful (acts : List SiteAct) (h : Run.Along Site.step Site.fair {} acts) :
    (Run.run Site.step {} acts).Truthful := by
  have hkept : Kept (Run.run Site.step {} acts) :=
    Run.run_inv (I := Kept) (fun _ _ hk hfair => hk.step hfair) kept_start h
  exact hkept.truthful

/-- An application that gets its job. -/
def obtained : List SiteAct :=
  [.apply "a", .capacity 0 true, .reserve 0, .write 0, .launch 0, .accept 0 7, .announce 0,
    .setState 7 .running, .hold 7, .look 0 (fun _ => true) true]

/-- One job is obtained, and another request refused. -/
theorem applies_truthful_obtained :
    let w := Run.run Site.step {} (obtained ++ [.apply "b", .capacity 1 false])
    w.Truthful ∧ w.printed = [("a", 7)] ∧ w.refused = ["b"] :=
  ⟨applies_truthful _ (by decide +kernel), by decide +kernel, by decide +kernel⟩

/-- A repeated application meets a full cluster, and is refused while its job runs. -/
theorem refused_running : ¬ ∀ acts : List SiteAct, (Run.run Site.step {} acts).Truthful := by
  intro h
  have hrefused := (h (obtained ++ [.apply "a", .capacity 1 false])).refused "a" (by decide +kernel)
  have hjob : ∃ y ∈ (Run.run Site.step {} (obtained ++ [.apply "a", .capacity 1 false])).jobs,
      y.request = some "a" ∧ y.state.final = false := by
    decide +kernel
  obtain ⟨y, hy, hya, hnot⟩ := hjob
  rw [hrefused.1 y hy hya] at hnot
  cases hnot

/-- The request file of `a` is taken for the sample of `request-a`: its job is printed. -/
example :
    let w := Run.run Site.step {} (obtained ++ [.apply "request-a", .capacity 1 true, .reserve 1,
      .write 1, .launch 1, .look 1 (fun _ => true) true])
    w.printed = [("request-a", 7), ("a", 7)] ∧ w.jobs.map Job.request = [some "a"] := by
  decide +kernel

end ServerPilot.Slurm
