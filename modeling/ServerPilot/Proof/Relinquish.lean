import ServerPilot.Spec.Relinquish
import ServerPilot.Proof.Delegated
import ServerPilot.Proof.Records
import ServerPilot.Proof.Release

/-!
# A release and its provider

The provider is asked before the ledger is, so a release can fail after the
allocation is gone. `relinquish_atomic_iff` says exactly when it is atomic all the
same: the transaction at its end ends the lease, or the next report of the
provider does.
-/

namespace ServerPilot

open Rows Checked

/-! ## What atomic means -/

/-- A provider answers for a row of the lease at this endpoint. -/
def Broker.delegatesTo (b : Broker) (leaseId endpointId : String) : Prop :=
  ∃ a ∈ b.ledger.allocationsOf leaseId, a.providerId ≠ "builtin" ∧ a.endpointId = endpointId

/-- The next observation of an endpoint that holds the lease ends it. -/
def Broker.endsNext (cfg : Config) (b : Broker) (leaseId : String) : Prop :=
  (∃ e, b.delegatesTo leaseId e) ∧ ∀ now o token b' r, b.delegatesTo leaseId o.endpointId →
    b.plant.staleObservation o = false → ingestObservation cfg now o token b = .ok (b', r) →
    b'.ledger.over leaseId

/-- A broker error is only raised by a release that gave nothing back, and after a confirmed one the
lease is over, or will be with the next observation. -/
structure Relinquished.Atomic (cfg : Config) (leaseId : String) (c : Relinquished) : Prop where
  clean : ∀ e, c.answer = some (.error (.refused e)) → c.confirmed = false ∧ c.freed = false
  ends : c.confirmed = true → c.broker.ledger.over leaseId ∨ c.broker.endsNext cfg leaseId

/-- Every observation that is taken next reports an allocation of the lease as ended. -/
def Broker.reportedNext (cfg : Config) (b : Broker) (leaseId : String) : Prop :=
  (∃ e, b.delegatesTo leaseId e) ∧ ∀ now o, b.delegatesTo leaseId o.endpointId →
    b.plant.staleObservation o = false →
    (∃ token b' r, ingestObservation cfg now o token b = .ok (b', r)) →
    b.ledger.reportedOver o now leaseId

/-- Providers take their allocations back as a whole. -/
def Ledger.wholeRows (l : Ledger) : Prop :=
  ∀ a ∈ l.allocations, a.providerId ≠ "builtin" → a.releaseGranularity = "allocation"

/-- The last transaction of a release ends the lease: it is live, the actor may end it, and the key
is new. -/
def Broker.endable (b : Broker) (actor : ActorContext) (leaseId : String) (key : Option String)
    (override : Bool) : Prop :=
  ∃ x, b.ledger.lease? leaseId = some x ∧ x.state.terminal = false ∧
    (canManageLease actor x = true ∨ override = true) ∧
    b.ledger.replay actor "lease.release" key = .ok none

/-! ## The states of a release -/

section

variable (w : ReleaseCourse) (cfg : Config) (p : PluginRelease) (b : Broker)

/-- The state in which the provider's answer arrives. -/
def ReleaseCourse.heard : Broker :=
  Run.run (exec cfg) b
    (w.before ++ .markAllocation w.markedAt p.allocationId false none :: w.meanwhile)

/-- The provider's answer is on file. -/
def ReleaseCourse.told : Broker :=
  exec cfg (w.heard cfg p b) (.markAllocation w.answeredAt p.allocationId true none)

/-- The row of the allocation is there. -/
def Broker.files (b : Broker) (p : PluginRelease) : Prop :=
  p.allocationId ∈ b.ledger.allocations.map ResourceAllocation.id

/-- A confirmed release gets to its last transaction: nothing breaks, and the allocation's row is
there to be marked. -/
def ReleaseCourse.through : Prop := w.breaks = none ∧ (w.heard cfg p b).files p

instance : Decidable (b.files p) := inferInstanceAs (Decidable (_ ∈ _))

/-- The state a confirmed release is in when it writes last, or breaks off. -/
def ReleaseCourse.left : Broker :=
  if w.breaks = some .atMark ∨ ¬ (w.heard cfg p b).files p then w.heard cfg p b
  else if w.breaks = some .atWrite then w.told cfg p b
  else Run.run (exec cfg) (w.told cfg p b) w.between

/-- The release ends the lease with its last transaction, or finds the answer of an earlier release
there, or breaks off before it, and then the lease is over already, or will be with the next
observation. -/
def ReleaseCourse.Settles (actor : ActorContext) (leaseId : String) (key : Option String)
    (override : Bool) : Prop :=
  (w.through cfg p b ∧ (w.left cfg p b).endable actor leaseId key override) ∨
    ((w.through cfg p b →
        ∃ r, (w.left cfg p b).ledger.replay actor "lease.release" key = .ok (some r)) ∧
      ((w.left cfg p b).ledger.over leaseId ∨ (w.left cfg p b).reportedNext cfg leaseId))

end

/-! ## The last transaction -/

section

variable {cfg : Config} {b : Broker} {actor : ActorContext} {leaseId reason : String}
  {key : Option String} {override : Bool}

theorem replay_refused {l : Ledger} {action : String} {f : Fault}
    (h : l.replay actor action key = .error f) : ∃ e, f = .refused e := by
  cases key with
  | none => cases h
  | some k =>
    unfold Ledger.replay Ledger.idempotent at h
    dsimp only at h
    by_cases hk : k ≠ "" ∧ k.length ≤ 255
    · rw [require_bind_pos hk] at h
      cases h
    · rw [require_bind_neg hk] at h
      cases h
      exact ⟨_, rfl⟩

/-- **The last transaction** of a release ends the lease, replays an earlier answer, or is
refused. -/
theorem releaseLease_cases (now : Time) (token : String → String) (key : Option String)
    (hb : Intact b)
    (hcall : requireRelease actor reason override = .ok ()) (hw : b.ledger.works leaseId) :
    (b.endable actor leaseId key override ∧ ∃ b' r,
      releaseLease now actor leaseId reason key override token b = .ok (b', r) ∧
        b'.ledger.over leaseId) ∨
    (∃ r, b.ledger.replay actor "lease.release" key = .ok (some r) ∧
      releaseLease now actor leaseId reason key override token b = .ok (b, r)) ∨
    (¬ b.endable actor leaseId key override ∧
      (∀ r, b.ledger.replay actor "lease.release" key ≠ .ok (some r)) ∧
      ∃ e, releaseLease now actor leaseId reason key override token b = .error (.refused e)) := by
  obtain ⟨x, hx, rfl, hkind⟩ := hw
  have hl : b.ledger.lease? x.id = some x := row?_of_mem hb.leasePk hx
  by_cases hend : b.endable actor x.id key override
  · obtain ⟨y, hy, hlive, hmay, hkey⟩ := hend
    cases hl.symm.trans hy
    obtain ⟨b', r, h, hover, -⟩ :=
      releaseLease_accepts now token key hb hcall hl hkind hlive hmay hkey
    exact Or.inl ⟨⟨x, hl, hlive, hmay, hkey⟩, b', r, h, hover⟩
  obtain ⟨hrole, hoverride, hreason⟩ := requireRelease_ok.1 hcall
  -- what is left is the part under the key
  obtain ⟨body, hbody, hrefused⟩ : ∃ body : Tx (Broker × Response),
      releaseLease now actor x.id reason key override token b =
        once b actor "lease.release" key now body ∧
      (¬ ((canManageLease actor x = true ∨ override = true) ∧ x.state.terminal = false) →
        ∃ e, body = .error (.refused e)) := by
    refine ⟨?body, ?runs, fun h => ?_⟩
    case runs =>
      unfold releaseLease requireRole rejectGenericKeepaliveMutation
      rw [require_bind_pos hrole, require_bind_pos hoverride, require_bind_pos hreason,
        need_bind_some hl, require_bind_pos (by rw [hkind]; exact LeaseKind.noConfusion)]
    · by_cases hmay : canManageLease actor x = true ∨ override = true
      · rw [require_bind_pos hmay, require_bind_neg fun hlive => h ⟨hmay, hlive⟩]
        exact ⟨_, rfl⟩
      · rw [require_bind_neg hmay]
        exact ⟨_, rfl⟩
  unfold once at hbody
  rw [hbody]
  cases hkey : b.ledger.replay actor "lease.release" key with
  | error f =>
    obtain ⟨e, rfl⟩ := replay_refused hkey
    exact Or.inr (Or.inr ⟨hend, fun r h => (by cases h), e, rfl⟩)
  | ok stored =>
    cases stored with
    | some r => exact Or.inr (Or.inl ⟨r, rfl, rfl⟩)
    | none =>
      obtain ⟨e, rfl⟩ := hrefused fun h => hend ⟨x, hl, h.2, h.1, hkey⟩
      exact Or.inr (Or.inr ⟨hend, fun r h => (by cases h), e, rfl⟩)

/-- A lease that works, works through every run. -/
theorem run_works (hb : Kept b) (ops : List Op) (hw : b.ledger.works leaseId) :
    (Run.run (exec cfg) b ops).ledger.works leaseId := by
  have hstep : ∀ (s : Broker) (op : Op), Kept s ∧ s.ledger.works leaseId →
      Kept (exec cfg s op) ∧ (exec cfg s op).ledger.works leaseId := by
    intro s op ⟨hk, hs⟩
    refine ⟨exec_kept cfg s op hk, ?_⟩
    rcases exec_cases cfg s op with ⟨b', r, h, he⟩ | ⟨-, he⟩
    · rw [he]
      exact works_apply hk.intact h hs
    · rw [he]
      exact hs
  exact (Run.run_inv' hstep ⟨hb, hw⟩).2

/-! ## Marks -/

theorem markAllocation_missing {p : PluginRelease} (h : ¬ b.files p) (released : Bool)
    (error : Option String) (now : Time) :
    markAllocation now p.allocationId released error b = .error (.raised "AttributeError") := by
  have hnone : b.ledger.allocation? p.allocationId = none := by
    cases ha : b.ledger.allocation? p.allocationId with
    | none => rfl
    | some a =>
      obtain ⟨hm, hid⟩ := row?_some ha
      exact absurd (List.mem_map.2 ⟨a, hm, hid⟩) h
  unfold markAllocation Broker.writeAllocation
  rw [need_bind_none hnone]

/-- A mark on a row that is there is the transaction of the run. -/
theorem markAllocation_exec (hb : Intact b) {p : PluginRelease} (h : b.files p) (released : Bool)
    (error : Option String) (now : Time) :
    markAllocation now p.allocationId released error b =
      .ok (exec cfg b (.markAllocation now p.allocationId released error), .done) := by
  have hm := markAllocation_made hb h released error now
  have he : exec cfg b (.markAllocation now p.allocationId released error) =
      b.markedRow p.allocationId released error now := by
    have hop : (Op.markAllocation now p.allocationId released error).apply cfg b =
        .ok (b.markedRow p.allocationId released error now, .done) := hm
    unfold exec
    rw [hop]
  rw [hm, he]

/-! ## The next observation -/

/-- What the next observation does to a lease that a provider holds is what its facts say. -/
theorem over_or_next_iff (hb : Intact b) (hw : b.ledger.works leaseId)
    (hwhole : b.ledger.wholeRows) :
    b.ledger.over leaseId ∨ b.endsNext cfg leaseId ↔
      b.ledger.over leaseId ∨ b.reportedNext cfg leaseId := by
  have hheld : (∃ e, b.delegatesTo leaseId e) → b.ledger.heldWhole leaseId := by
    rintro ⟨e, a, ha, hp, -⟩
    exact ⟨a, ha, hp, hwhole a (mem_allocationsOf.1 ha).1 hp⟩
  have hnext : ∀ {now : Time} {o : EndpointObservation} {token : String → String → String}
      {b' : Broker} {r : Response}, (∃ e, b.delegatesTo leaseId e) →
      b.plant.staleObservation o = false → ingestObservation cfg now o token b = .ok (b', r) →
      (b'.ledger.over leaseId ↔ b.ledger.over leaseId ∨ b.ledger.reportedOver o now leaseId) := by
    intro now o token b' r hd hs h
    obtain ⟨hi, rfl⟩ : Intact b' ∧ b' = (b.ingested cfg now o token).1 := by
      unfold ingestObservation at h
      simp only [bind_ok, hs, Bool.false_eq_true, if_false, finish_ok] at h
      obtain ⟨-, -, rfl, -, hi⟩ := h
      exact ⟨hi, rfl⟩
    exact ingested_over_iff hb hi hw (hheld hd)
  constructor
  · rintro (h | ⟨hd, h⟩)
    · exact Or.inl h
    · refine or_iff_not_imp_left.2 fun hlive => ⟨hd, ?_⟩
      intro now o he hs hok
      obtain ⟨token, b', r, hok⟩ := hok
      exact ((hnext hd hs hok).1 (h now o token b' r he hs hok)).resolve_left hlive
  · rintro (h | ⟨hd, h⟩)
    · exact Or.inl h
    · exact Or.inr ⟨hd, fun now o token b' r he hs hok =>
        (hnext hd hs hok).2 (Or.inr (h now o he hs ⟨token, b', r, hok⟩))⟩

/-! ## How a release goes -/

variable {w : ReleaseCourse} {p : PluginRelease}

/-- The states of a release are states of a run. -/
theorem left_run (w : ReleaseCourse) (cfg : Config) (p : PluginRelease) (b : Broker) :
    ∃ ops, w.left cfg p b = Run.run (exec cfg) b ops := by
  set heard := w.before ++ .markAllocation w.markedAt p.allocationId false none :: w.meanwhile
    with hheard
  have htold : w.told cfg p b = Run.run (exec cfg) b
      (heard ++ [.markAllocation w.answeredAt p.allocationId true none]) := by
    rw [Run.run_concat]
    rfl
  unfold ReleaseCourse.left
  split
  · exact ⟨heard, rfl⟩
  split
  · exact ⟨_, htold⟩
  · refine ⟨(heard ++ [.markAllocation w.answeredAt p.allocationId true none]) ++ w.between, ?_⟩
    rw [Run.run_append, ← htold]

/-- The last transaction's own part in being atomic. -/
theorem writeRelease_atomic_iff (hb : Intact b)
    (hcall : requireRelease actor reason override = .ok ()) (hw : b.ledger.works leaseId)
    (hwhole : b.ledger.wholeRows) :
    (b.writeRelease w actor leaseId reason key override true).Atomic cfg leaseId ↔
      b.endable actor leaseId key override ∨
        (∃ r, b.ledger.replay actor "lease.release" key = .ok (some r)) ∧
          (b.ledger.over leaseId ∨ b.reportedNext cfg leaseId) := by
  unfold Broker.writeRelease
  rcases releaseLease_cases w.writtenAt w.token key hb hcall hw with
    ⟨hend, b', r, h, hover⟩ | ⟨r, hkey, h⟩ | ⟨hend, hkey, e, h⟩
  · rw [h]
    exact iff_of_true ⟨fun e he => (by cases he), fun _ => Or.inl hover⟩ (Or.inl hend)
  · rw [h]
    have hnot : ¬ b.endable actor leaseId key override := by
      rintro ⟨x, -, -, -, hnew⟩
      cases hkey.symm.trans hnew
    rw [← over_or_next_iff hb hw hwhole]
    constructor
    · intro ha
      exact Or.inr ⟨⟨r, hkey⟩, ha.ends rfl⟩
    · intro hc
      exact ⟨fun e he => (by cases he), fun _ => (hc.resolve_left hnot).2⟩
  · rw [h]
    refine iff_of_false (fun ha => ?_) ?_
    · exact Bool.false_ne_true (ha.clean e rfl).1.symm
    · rintro (hc | ⟨⟨r, hr⟩, -⟩)
      · exact hend hc
      · exact hkey r hr

/-- A confirmed release that broke off is atomic if the next observation ends the lease. -/
theorem brokenOff_atomic_iff (hb : Intact b) (hw : b.ledger.works leaseId)
    (hwhole : b.ledger.wholeRows) {answer : Option (Tx Response)} {freed : Bool}
    (ha : ∀ e, answer ≠ some (.error (.refused e))) :
    Relinquished.Atomic cfg leaseId
      { broker := b, confirmed := true, answer := answer, freed := freed } ↔
      b.ledger.over leaseId ∨ b.reportedNext cfg leaseId := by
  rw [← over_or_next_iff hb hw hwhole]
  exact ⟨fun h => h.ends rfl, fun h => ⟨fun e he => absurd he (ha e), fun _ => h⟩⟩

/-- From the provider's confirmation on, a release is atomic exactly if it settles. -/
theorem hearRelease_atomic_iff (hb : Kept b) (hcall : requireRelease actor reason override = .ok ())
    (hw : b.ledger.works leaseId) (hwhole : (w.left cfg p b).ledger.wholeRows)
    (hr : w.refusal = none) :
    ((w.heard cfg p b).hearRelease cfg w actor leaseId reason key override
      p.allocationId).Atomic cfg leaseId ↔ w.Settles cfg p b actor leaseId key override := by
  have hheard : Intact (w.heard cfg p b) := (run_kept cfg _ hb).intact
  obtain ⟨ops, hleft⟩ := left_run w cfg p b
  have hkept : Intact (w.left cfg p b) := by
    rw [hleft]
    exact (run_kept cfg ops hb).intact
  have hworks : (w.left cfg p b).ledger.works leaseId := by
    rw [hleft]
    exact run_works hb ops hw
  have hbroken : ∀ {answer : Option (Tx Response)} {freed : Bool},
      (∀ e, answer ≠ some (.error (.refused e))) → ¬ w.through cfg p b →
      (Relinquished.Atomic cfg leaseId
        { broker := w.left cfg p b, confirmed := true, answer := answer, freed := freed } ↔
      w.Settles cfg p b actor leaseId key override) := by
    intro answer freed ha hnot
    rw [brokenOff_atomic_iff hkept hworks hwhole ha]
    simp [ReleaseCourse.Settles, hnot]
  unfold Broker.hearRelease
  rw [hr]
  simp only
  by_cases hmark : w.breaks = some .atMark
  · have he : w.left cfg p b = w.heard cfg p b := if_pos (Or.inl hmark)
    rw [if_pos hmark, ← he]
    exact hbroken (fun e h => (by cases h)) fun h => (by rw [h.1] at hmark; cases hmark)
  rw [if_neg hmark]
  by_cases hfiles : (w.heard cfg p b).files p
  swap
  · have he : w.left cfg p b = w.heard cfg p b := if_pos (Or.inr hfiles)
    rw [markAllocation_missing hfiles, ← he]
    exact hbroken (fun e h => (by cases h)) fun h => hfiles h.2
  have hgone : ¬ (w.breaks = some .atMark ∨ ¬ (w.heard cfg p b).files p) := by
    simp [hmark, hfiles]
  rw [markAllocation_exec hheard hfiles]
  simp only
  by_cases hwrite : w.breaks = some .atWrite
  · have he : w.left cfg p b = w.told cfg p b := (if_neg hgone).trans (if_pos hwrite)
    rw [if_pos hwrite, show exec cfg (w.heard cfg p b) _ = w.left cfg p b from he.symm]
    exact hbroken (fun e h => (by cases h)) fun h => (by rw [h.1] at hwrite; cases hwrite)
  · have he : w.left cfg p b = Run.run (exec cfg) (w.told cfg p b) w.between :=
      (if_neg hgone).trans (if_neg hwrite)
    have hthrough : w.through cfg p b := by
      refine ⟨?_, hfiles⟩
      cases hbr : w.breaks with
      | none => rfl
      | some k => cases k <;> simp_all
    rw [if_neg hwrite, show Run.run (exec cfg) (exec cfg (w.heard cfg p b) _) w.between =
      w.left cfg p b from he.symm, writeRelease_atomic_iff hkept hcall hworks hwhole]
    simp [ReleaseCourse.Settles, hthrough]

/-- **Exactly when a release is atomic.** One that its provider confirmed must settle; every other
release is atomic. -/
theorem relinquish_atomic_iff (hb : Reachable cfg b)
    (hwhole : ∀ p, b.releasableAllocation actor leaseId override = some p →
      (w.left cfg p b).ledger.wholeRows) :
    (relinquish cfg w actor leaseId reason key override b).Atomic cfg leaseId ↔
      ∀ p, requireRelease actor reason override = .ok () →
        b.releasableAllocation actor leaseId override = some p →
        (Run.run (exec cfg) b w.before).files p → w.refusal = none →
        w.Settles cfg p b actor leaseId key override := by
  have hsafe : ∀ c : Relinquished, c.confirmed = false → c.freed = false →
      c.Atomic cfg leaseId := fun c hc hf =>
    ⟨fun _ _ => ⟨hc, hf⟩, fun h => absurd (hc.symm.trans h) Bool.false_ne_true⟩
  cases hcall : requireRelease actor reason override with
  | error f =>
    refine iff_of_true ?_ fun p h => (by cases h)
    unfold relinquish
    rw [hcall]
    exact hsafe _ rfl rfl
  | ok u =>
  cases hp : b.releasableAllocation actor leaseId override with
  | none =>
    refine iff_of_true ?_ fun p _ h => (by cases h)
    unfold relinquish
    rw [hcall, hp]
    simp only
    unfold Broker.writeRelease
    split
    · exact ⟨fun e he => (by cases he), fun h => absurd h Bool.false_ne_true⟩
    · exact hsafe _ rfl rfl
  | some p =>
  by_cases hfiles : (Run.run (exec cfg) b w.before).files p
  swap
  · refine iff_of_true ?_ fun q _ hq hf _ => absurd (by cases hq; exact hf) hfiles
    unfold relinquish
    rw [hcall, hp]
    simp only
    rw [markAllocation_missing hfiles]
    exact hsafe _ rfl rfl
  have hk₀ : Kept (Run.run (exec cfg) b w.before) := run_kept cfg _ hb.kept
  have hrun : relinquish cfg w actor leaseId reason key override b =
      (w.heard cfg p b).hearRelease cfg w actor leaseId reason key override p.allocationId := by
    unfold relinquish ReleaseCourse.heard
    rw [hcall, hp]
    simp only
    rw [markAllocation_exec hk₀.intact hfiles, Run.run_append, Run.run_cons]
  rw [hrun]
  cases hr : w.refusal with
  | some text =>
    refine iff_of_true ?_ fun _ _ _ _ h => (by cases h)
    unfold Broker.hearRelease
    rw [hr]
    simp only
    split <;> exact hsafe _ rfl rfl
  | none =>
    have hw : b.ledger.works leaseId := by
      obtain ⟨-, -, -, -, hplugin⟩ := releasable_some.1 hp
      obtain ⟨a, ha, -, -⟩ := pluginAllocation_mem hplugin
      exact hb.tied leaseId (mem_tied.2 ⟨a, mem_allocationsOf.1 ha⟩)
    rw [hearRelease_atomic_iff hb.kept hcall hw (hwhole p hp) hr]
    exact ⟨fun h q _ hq _ _ => (by cases hq; exact h), fun h => h p rfl rfl hfiles rfl⟩

theorem writeRelease_alone (world : ReleaseWorld) (confirmed : Bool) :
    (b.writeRelease { world with } actor leaseId reason key override confirmed).toReleased =
      b.endRelease world actor leaseId reason key override confirmed := by
  unfold Broker.writeRelease Broker.endRelease
  cases releaseLease world.writtenAt actor leaseId reason key override world.token b with
  | ok written => rfl
  | error f => rfl

/-- With nothing committed in between, this is the release by itself. -/
theorem relinquish_alone (world : ReleaseWorld) :
    (relinquish cfg { world with } actor leaseId reason key override b).toReleased =
      releaseCall world actor leaseId reason key override b := by
  unfold relinquish releaseCall
  cases requireRelease actor reason override with
  | error f => rfl
  | ok u =>
    cases b.releasableAllocation actor leaseId override with
    | none => exact writeRelease_alone world false
    | some p =>
      simp only [Run.run_nil]
      cases markAllocation world.markedAt p.allocationId false none b with
      | error f => rfl
      | ok s =>
        unfold Broker.hearRelease Broker.answerRelease
        cases world.refusal with
        | some text =>
          simp only
          cases markAllocation world.answeredAt p.allocationId false (some text) s.1 <;> rfl
        | none =>
          simp only
          by_cases hmark : world.breaks = some .atMark
          · rw [if_pos hmark, if_pos hmark]
          rw [if_neg hmark, if_neg hmark]
          cases markAllocation world.answeredAt p.allocationId true none s.1 with
          | error f => rfl
          | ok t =>
            simp only
            by_cases hwrite : world.breaks = some .atWrite
            · rw [if_pos hwrite, if_pos hwrite]
            · rw [if_neg hwrite, if_neg hwrite]
              exact writeRelease_alone world true

end

/-! ## A key that cannot be stored -/

/-- The server goes to the plugin, and a claim of one card of it is granted. -/
def delegatedTask : Broker :=
  Run.run (exec applyingConfig) sampleFleet
    [.updateEndpoint 0 (sampleActor "ann") "alpha" { observationProfile := some "cluster" } "move",
     .claimPrepare 0 (sampleActor "ann") oneCard none "alpha"
      { pluginId := "cluster", capabilities := ["observe", "apply", "release"]
        releaseGranularity := "allocation" } "grant",
     .claimRemember (seconds 1) "grant"
      { allocationRef := "job-1", state := .active, observedAt := seconds 1 },
     .claimFinish (seconds 2) (sampleActor "ann") oneCard none "grant" "lease"]

theorem delegatedTask_reachable : Reachable applyingConfig delegatedTask :=
  ⟨_, sampleFleet_seeded, _, rfl⟩

/-- The provider confirms, and nothing fails. -/
def confirmedRelease : ReleaseCourse where
  markedAt := seconds 3
  answeredAt := seconds 4
  writtenAt := seconds 5
  token := fun _ => "unused"

/-- A key one character longer than the table takes. -/
def longKey : String := String.ofList (List.replicate 256 'k')

/-- What the provider is asked to take back. -/
def grantRelease : PluginRelease :=
  { allocationId := "grant", pluginId := "cluster", allocationRef := "job-1" }

theorem delegatedTask_release :
    delegatedTask.releasableAllocation (sampleActor "ann") "lease" true = some grantRelease := by
  decide +kernel

/-- The release of the task, under this key. -/
def releaseUnder (key : Option String) : Relinquished :=
  relinquish applyingConfig confirmedRelease (sampleActor "ann") "lease" "done" key true
    delegatedTask

/-- The call raised a broker error. -/
def Relinquished.isRefused (c : Relinquished) : Bool :=
  match c.answer with
  | some (.error (.refused _)) => true
  | _ => false

theorem Relinquished.isRefused_iff {c : Relinquished} :
    c.isRefused = true ↔ ∃ e, c.answer = some (.error (.refused e)) := by
  unfold Relinquished.isRefused
  split
  · rename_i e h
    exact iff_of_true rfl ⟨e, h⟩
  · rename_i h
    exact iff_of_false Bool.false_ne_true fun ⟨e, he⟩ => h e he

theorem longKey_refused : (releaseUnder (some longKey)).confirmed = true ∧
    (releaseUnder (some longKey)).isRefused = true ∧
    ((releaseUnder (some longKey)).broker.ledger.lease? "lease").any (fun x => x.state.live) =
      true ∧
    (releaseUnder (some longKey)).broker.ledger.allocations.map ResourceAllocation.state =
      [.released] := by
  decide +kernel

/-- **An error for a release that happened**: the key is looked at only after the provider gave the
allocation back. -/
theorem long_key_releases :
    ¬ ∀ (cfg : Config) (w : ReleaseCourse) (actor : ActorContext) (leaseId reason : String)
      (key : Option String) (override : Bool) (b : Broker), Reachable cfg b →
      (relinquish cfg w actor leaseId reason key override b).Atomic cfg leaseId := by
  intro h
  obtain ⟨hconfirmed, hrefused, -⟩ := longKey_refused
  obtain ⟨e, he⟩ := Relinquished.isRefused_iff.1 hrefused
  have hatomic : (releaseUnder (some longKey)).Atomic applyingConfig "lease" :=
    h applyingConfig confirmedRelease (sampleActor "ann") "lease" "done" (some longKey) true
      delegatedTask delegatedTask_reachable
  exact Bool.false_ne_true ((hatomic.clean e he).1.symm.trans hconfirmed)

instance (l : Ledger) : Decidable l.wholeRows :=
  inferInstanceAs (Decidable (∀ a ∈ l.allocations, a.providerId ≠ "builtin" → _))

/-- The same release without a key is atomic. -/
theorem keyless_release_atomic :
    (relinquish applyingConfig confirmedRelease (sampleActor "ann") "lease" "done" none true
      delegatedTask).Atomic applyingConfig "lease" := by
  refine (relinquish_atomic_iff delegatedTask_reachable fun p hp => ?_).2 fun p _ hp _ _ => ?_
  · cases delegatedTask_release.symm.trans hp
    decide +kernel
  · cases delegatedTask_release.symm.trans hp
    have hlive : ((confirmedRelease.left applyingConfig grantRelease delegatedTask).ledger.lease?
        "lease").any (fun x => decide (x.state.terminal = false)) = true := by decide +kernel
    obtain ⟨x, hx, hterminal⟩ := (Option.any_eq_true _ _).1 hlive
    exact Or.inl ⟨⟨rfl, by decide +kernel⟩, x, hx, of_decide_eq_true hterminal, Or.inr rfl, rfl⟩

end ServerPilot
