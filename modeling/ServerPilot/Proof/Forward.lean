import ServerPilot.Proof.Refreshes

/-!
# Snapshots move forward

The revision required of a snapshot never goes down, so neither does the revision
shown; what was asked for before a mutation was acknowledged is not shown after it.
The floor also outlives the service it was learned from: a snapshot of the service
connected now is refused for another one's revision exactly if it is behind it
(`refused_iff`, `restarted_service_refused`).
-/

namespace ServerPilot.Desktop

open BrokerStore Work

variable {ρ : RecordKind → Type} {s t : BrokerStore ρ} {e : Event ρ} {task : RefreshTask}
    {now : Time}

/-! ## The required revision -/

/-- The revision of the last good snapshot. -/
def BrokerStore.goodRevision (s : BrokerStore ρ) : ℤ :=
  (s.lastGoodSnapshot.bind BrokerSnapshot.snapshotRevision).getD 0

theorem floor_none {x : BrokerSnapshot ρ} (h : s.snapshotRevisionFloorError x = none) :
    ∃ v, x.snapshotRevision = some v ∧ s.requiredRevision ≤ v := by
  unfold snapshotRevisionFloorError at h
  cases hx : x.snapshotRevision with
  | none =>
    rw [hx] at h
    cases h
  | some v =>
    rw [hx] at h
    dsimp only at h
    split at h
    · rename_i hle
      exact ⟨v, rfl, hle⟩
    · cases h

/-- What the revisions in a store come from: no service has shown more than is required, and one
has shown as much. -/
structure BrokerStore.Informed (s : BrokerStore ρ) : Prop where
  good : 0 ≤ s.goodRevision
  above : ∀ k ∈ s.learned, k.2 ≤ s.requiredRevision
  attained : 0 < s.requiredRevision → ∃ service, (service, s.requiredRevision) ∈ s.learned

/-- An acknowledged revision is required from then on. -/
theorem required_raise (hs : s.Informed) (service : ℕ) (r : ℤ) :
    (s.raiseMinimumRequiredSnapshotRevision service (some r)).requiredRevision =
      max s.requiredRevision r := by
  have hgood := hs.good
  unfold goodRevision at hgood
  unfold requiredRevision raiseMinimumRequiredSnapshotRevision
  dsimp only
  cases s.minimumRequiredSnapshotRevision with
  | none =>
    simp only [Option.getD_some, Option.getD_none]
    omega
  | some required =>
    simp only [Option.getD_some]
    omega

variable [∀ k, DecidableEq (ρ k)]

/-- A snapshot let through sets the required revision to its own. -/
theorem required_accept (hs : s.Informed) {x : BrokerSnapshot ρ} {v : ℤ}
    (hv : x.snapshotRevision = some v) (hle : s.requiredRevision ≤ v) (service : ℕ) (now : Time) :
    (s.acceptSnapshot service x now).requiredRevision = v ∧
      (s.acceptSnapshot service x now).goodRevision = v := by
  obtain ⟨good, hgood, hrev⟩ := lastGood_accept s service x now
  have hgoodRev : (s.acceptSnapshot service x now).goodRevision = v := by
    unfold goodRevision
    rw [hgood, Option.bind_some, hrev, hv]
    rfl
  have hge : 0 ≤ v := hs.good.trans ((le_max_right _ _).trans hle)
  have hmin : (s.acceptSnapshot service x now).minimumRequiredSnapshotRevision = none := by
    unfold acceptSnapshot
    dsimp only
    rw [hv]
    cases hm : s.minimumRequiredSnapshotRevision with
    | none => rfl
    | some required =>
      have hreq : required ≤ v := by
        refine le_trans ?_ hle
        unfold requiredRevision
        rw [hm]
        exact le_max_left _ _
      dsimp only
      rw [if_pos hreq]
  refine ⟨?_, hgoodRev⟩
  unfold requiredRevision
  rw [hmin]
  change max 0 (s.acceptSnapshot service x now).goodRevision = v
  rw [hgoodRev]
  exact max_eq_right hge

/-! ### After every event -/

omit [∀ k, DecidableEq (ρ k)] in
theorem required_of_known (h : t.known = s.known) : t.requiredRevision = s.requiredRevision := by
  simp only [known, Prod.mk.injEq] at h
  obtain ⟨-, hgood, hmin, -⟩ := h
  unfold requiredRevision
  rw [hgood, hmin]

omit [∀ k, DecidableEq (ρ k)] in
theorem informed_of_known (h : t.known = s.known) (hs : s.Informed) : t.Informed := by
  have hreq := required_of_known h
  simp only [known, Prod.mk.injEq] at h
  obtain ⟨-, hgood, -, hlearned⟩ := h
  refine ⟨?_, ?_, ?_⟩
  · unfold goodRevision
    rw [hgood]
    exact hs.good
  · rw [hreq, hlearned]
    exact hs.above
  · rw [hreq, hlearned]
    exact hs.attained

omit [∀ k, DecidableEq (ρ k)] in
theorem informed_raise (hs : s.Informed) (service : ℕ) (r : ℤ) :
    (s.raiseMinimumRequiredSnapshotRevision service (some r)).Informed := by
  have hreq := required_raise hs service r
  refine ⟨hs.good, ?_, ?_⟩
  · intro k hk
    rw [hreq]
    rcases List.mem_cons.1 hk with rfl | hk
    · exact le_max_right _ _
    · exact (hs.above k hk).trans (le_max_left _ _)
  · rw [hreq]
    intro hpos
    rcases le_total r s.requiredRevision with hle | hle
    · rw [max_eq_left hle] at hpos ⊢
      obtain ⟨other, hother⟩ := hs.attained hpos
      exact ⟨other, List.mem_cons_of_mem _ hother⟩
    · rw [max_eq_right hle]
      exact ⟨service, List.mem_cons_self⟩

theorem informed_accept (hs : s.Informed) {x : BrokerSnapshot ρ}
    (h : s.snapshotRevisionFloorError x = none) (service : ℕ) (now : Time) :
    (s.acceptSnapshot service x now).Informed := by
  obtain ⟨v, hv, hle⟩ := floor_none h
  obtain ⟨hreq, hgood⟩ := required_accept hs hv hle service now
  have hlearned : (s.acceptSnapshot service x now).learned = (service, v) :: s.learned := by
    unfold acceptSnapshot
    dsimp only
    rw [hv]
    rfl
  refine ⟨?_, ?_, ?_⟩
  · rw [hgood]
    exact hs.good.trans ((le_max_right _ _).trans hle)
  · intro k hk
    rw [hlearned] at hk
    rw [hreq]
    rcases List.mem_cons.1 hk with rfl | hk
    · exact le_rfl
    · exact (hs.above k hk).trans hle
  · intro _
    rw [hreq, hlearned]
    exact ⟨service, List.mem_cons_self⟩

/-- What is known comes from the services. -/
theorem informed_step (hs : s.Informed) (e : Event ρ) : (s.step e).Informed := by
  rcases step_known s e with h | ⟨service, r, -, h⟩ | ⟨task, x, now, -, ha, h⟩
  · exact informed_of_known h hs
  · exact informed_of_known h (informed_raise hs service r)
  · exact informed_of_known h (informed_accept hs ha.2 task.service now)

/-- **The required revision never goes down.** -/
theorem required_le_step (hs : s.Informed) (e : Event ρ) :
    s.requiredRevision ≤ (s.step e).requiredRevision := by
  rcases step_known s e with h | ⟨service, r, -, h⟩ | ⟨task, x, now, -, ha, h⟩
  · exact (required_of_known h).ge
  · rw [required_of_known h, required_raise hs]
    exact le_max_left _ _
  · obtain ⟨v, hv, hle⟩ := floor_none ha.2
    rw [required_of_known h, (required_accept hs hv hle task.service now).1]
    exact hle

omit [∀ k, DecidableEq (ρ k)] in
theorem informed_initial [Inhabited (ρ .summary)] [Inhabited (ρ .history)] (actorID : String)
    (refreshInterval : Time) : (initial (ρ := ρ) actorID refreshInterval).Informed :=
  ⟨le_rfl, fun _ h => absurd h List.not_mem_nil, fun h => absurd h (lt_irrefl 0)⟩

theorem informed_run (hs : s.Informed) (es : List (Event ρ)) :
    (Run.run BrokerStore.step s es).Informed :=
  Run.run_inv' (I := Informed) (fun _ e hs => informed_step hs e) hs

/-! ## Going forward -/

/-- The last good snapshot of `t` is of no lower revision than that of `s`. -/
def Advances (s t : BrokerStore ρ) : Prop :=
  ∀ good ∈ s.lastGoodSnapshot, ∀ v ∈ good.snapshotRevision,
    ∃ good' ∈ t.lastGoodSnapshot, ∃ v' ∈ good'.snapshotRevision, v ≤ v'

/-- The event changes what is shown. -/
def Shows (s : BrokerStore ρ) (e : Event ρ) : Prop :=
  (s.step e).snapshot ≠ s.snapshot ∨ (s.step e).lastGoodSnapshot ≠ s.lastGoodSnapshot

theorem advances_step (s : BrokerStore ρ) (e : Event ρ) : Advances s (s.step e) := by
  intro good hgood v hv
  have hle : v ≤ s.requiredRevision := by
    unfold requiredRevision
    rw [show s.lastGoodSnapshot = some good from hgood, Option.bind_some,
      show good.snapshotRevision = some v from hv]
    exact le_max_right _ _
  rcases step_known s e with h | ⟨service, r, -, h⟩ | ⟨task, x, now, -, ha, h⟩
  · simp only [known, Prod.mk.injEq] at h
    exact ⟨good, h.2.1.trans hgood, v, hv, le_rfl⟩
  · simp only [known, Prod.mk.injEq] at h
    exact ⟨good, h.2.1.trans hgood, v, hv, le_rfl⟩
  · simp only [known, Prod.mk.injEq] at h
    obtain ⟨good', hgood', hrev⟩ := lastGood_accept s task.service x now
    obtain ⟨v', hv', hle'⟩ := floor_none ha.2
    exact ⟨good', h.2.1.trans hgood', v', hrev.trans hv', hle.trans hle'⟩

theorem advances_run (s : BrokerStore ρ) (es : List (Event ρ)) :
    Advances s (Run.run BrokerStore.step s es) := by
  induction es generalizing s with
  | nil => exact fun good hgood v hv => ⟨good, hgood, v, hv, le_rfl⟩
  | cons e es ih =>
    intro good hgood v hv
    obtain ⟨good₁, hgood₁, v₁, hv₁, hle₁⟩ := advances_step s e good hgood v hv
    obtain ⟨good₂, hgood₂, v₂, hv₂, hle₂⟩ := ih (s.step e) good₁ hgood₁ v₁ hv₁
    exact ⟨good₂, hgood₂, v₂, hv₂, hle₁.trans hle₂⟩

/-! ## After an acknowledgement -/

/-- A mutation was acknowledged with revision `r` when the generation had been raised `n` times. -/
structure Acknowledged (n : ℕ) (r : ℤ) (s : BrokerStore ρ) : Prop where
  required : r ≤ s.requiredRevision
  turns : n ≤ s.turns
  marked : ∀ task, s.activeRefreshTask = some task → task.turn ≤ n →
    s.discardedRefreshGeneration = some task.generation

theorem acknowledged_raise (hs : s.work.Coherent) (hi : s.Informed) (service : ℕ) (r : ℤ) :
    Acknowledged s.turns r (s.step (.acknowledge service (some r))) where
  required := by
    change r ≤ (s.raiseMinimumRequiredSnapshotRevision service (some r)).requiredRevision
    rw [required_raise hi]
    exact le_max_right _ _
  turns := le_rfl
  marked := by
    intro task ha _
    change s.activeRefreshTask = some task at ha
    change (if s.activeRefreshTask.isSome then some s.refreshGeneration
      else s.discardedRefreshGeneration) = some task.generation
    rw [ha, (hs.generation_of_active ha).2]
    rfl

theorem acknowledged_step {n : ℕ} {r : ℤ} (h : Acknowledged n r s) (hs : s.work.Coherent)
    (hi : s.Informed) (ht : Timely s e) : Acknowledged n r (s.step e) := by
  have hreq := h.required.trans (required_le_step hi e)
  have hn := h.turns
  rcases step_turns hs ht with hstays | hrests | ⟨new, hnew, hlt, hle, -⟩
  · refine ⟨hreq, hn.trans hstays.turns.ge, fun task ha hold => ?_⟩
    have ha' : s.activeRefreshTask = some task := hstays.active.symm.trans ha
    rcases hstays.discarded with hd | hd
    · exact hd.trans (h.marked task ha' hold)
    · exact hd.trans (congrArg some (hs.generation_of_active ha').2.symm)
  · refine ⟨hreq, hn.trans hrests.turns, fun task ha _ => ?_⟩
    have hidle : (s.step e).activeRefreshTask = none := hrests.idle
    rw [hidle] at ha
    cases ha
  · refine ⟨hreq, ?_, fun task ha hold => ?_⟩
    · change s.turns < new.turn at hlt
      change new.turn ≤ (s.step e).turns at hle
      omega
    · obtain rfl := Option.some.inj (hnew.symm.trans ha)
      change s.turns < new.turn at hlt
      omega

/-- What is shown from then on was asked for since, and has reached `r`. -/
theorem shown_after {n : ℕ} {r : ℤ} (h : Acknowledged n r s) (hs : s.work.Coherent)
    (ht : Timely s e) (hshows : Shows s e) :
    ∃ task x now, e = .completeRefresh task (.ok x) now ∧ n < task.turn ∧
      ∃ v, x.snapshotRevision = some v ∧ r ≤ v := by
  rcases step_known s e with hk | ⟨service, r, -, hk⟩ | ⟨task, x, now, rfl, ha, -⟩
  · simp only [known, Prod.mk.injEq] at hk
    rcases hshows with hne | hne
    · exact absurd hk.1 hne
    · exact absurd hk.2.1 hne
  · simp only [known, Prod.mk.injEq] at hk
    rcases hshows with hne | hne
    · exact absurd hk.1 hne
    · exact absurd hk.2.1 hne
  · obtain ⟨⟨hm, hg, hd⟩, hfloor⟩ := ha
    obtain ⟨v, hv, hle⟩ := floor_none hfloor
    refine ⟨task, x, now, rfl, ?_, v, hv, h.required.trans hle⟩
    by_contra hold
    have hactive := hs.active_of_generation hm hg ht
    exact hd (h.marked task hactive (by omega))

/-! ## Another service's revisions -/

/-- The service has itself shown nothing later than the snapshot. -/
def Current (s : BrokerStore ρ) (service : ℕ) (x : BrokerSnapshot ρ) : Prop :=
  ∃ v, x.snapshotRevision = some v ∧ 0 ≤ v ∧ ∀ k ∈ s.learned, k.1 = service → k.2 ≤ v

/-- No other service has shown anything later either. -/
def AheadOfOthers (s : BrokerStore ρ) (service : ℕ) (x : BrokerSnapshot ρ) : Prop :=
  ∀ v ∈ x.snapshotRevision, ∀ k ∈ s.learned, k.1 ≠ service → k.2 ≤ v

omit [∀ k, DecidableEq (ρ k)] in
/-- **When a service is heard.** A snapshot its own service has not outdated is let through exactly
if no other service has outdated it. -/
theorem accepts_iff (hi : s.Informed) (ha : s.Awaits task) {x : BrokerSnapshot ρ}
    (hx : Current s task.service x) : s.Accepts task x ↔ AheadOfOthers s task.service x := by
  obtain ⟨v, hv, hpos, hown⟩ := hx
  constructor
  · rintro ⟨-, hfloor⟩ w hw k hk -
    obtain ⟨v', hv', hle⟩ := floor_none hfloor
    obtain rfl := Option.some.inj (hv'.symm.trans hw)
    exact (hi.above k hk).trans hle
  · intro hothers
    refine ⟨ha, ?_⟩
    have hle : s.requiredRevision ≤ v := by
      by_contra hlt
      obtain ⟨service, hservice⟩ := hi.attained (by omega)
      have hbound : s.requiredRevision ≤ v := by
        by_cases heq : service = task.service
        · exact hown _ hservice heq
        · exact hothers v hv _ hservice heq
      exact hlt hbound
    unfold snapshotRevisionFloorError
    rw [hv]
    dsimp only
    rw [if_pos hle]

/-- What is shown along a run moves forward. -/
structure MovesForward (start : BrokerStore ρ) (es : List (Event ρ)) : Prop where
  /-- The revision shown never goes down. -/
  advances : ∀ pre post, es = pre ++ post →
    Advances (Run.run BrokerStore.step start pre) (Run.run BrokerStore.step start es)
  /-- What is shown after an acknowledgement was asked for after it, and has reached its
  revision. -/
  acknowledged : ∀ pre service r post, es = pre ++ .acknowledge service (some r) :: post →
    ∀ e, Timely (Run.run BrokerStore.step start es) e →
      Shows (Run.run BrokerStore.step start es) e →
        ∃ task x now, e = .completeRefresh task (.ok x) now ∧
          (Run.run BrokerStore.step start pre).turns < task.turn ∧
            ∃ v, x.snapshotRevision = some v ∧ r ≤ v

/-- Snapshots of the service connected now are let through unless it has itself outdated them. -/
def Hears (s : BrokerStore ρ) (task : RefreshTask) (x : BrokerSnapshot ρ) : Prop :=
  s.Awaits task → s.snapshotClient = some task.service → Current s task.service x →
    s.Accepts task x

theorem acknowledged_run {n : ℕ} {r : ℤ} {es : List (Event ρ)} (h : Acknowledged n r s)
    (hs : s.work.Coherent) (hi : s.Informed) (ht : Run.Along BrokerStore.step Timely s es) :
    Acknowledged n r (Run.run BrokerStore.step s es) := by
  induction es generalizing s with
  | nil => exact h
  | cons e es ih =>
    exact ih (acknowledged_step h hs hi ht.1) (coherent_step hs ht.1) (informed_step hi e) ht.2

/-- **Snapshots move forward** along every run, and the service connected now is heard in the end
exactly as far as its snapshots are ahead of the other services. -/
theorem moves_forward [Inhabited (ρ .summary)] [Inhabited (ρ .history)] (actorID : String)
    (refreshInterval : Time) {es : List (Event ρ)}
    (h : Run.Along BrokerStore.step Timely (initial actorID refreshInterval) es) :
    MovesForward (initial actorID refreshInterval) es ∧
      ∀ task x, (Run.run BrokerStore.step (initial actorID refreshInterval) es).Awaits task →
        (Run.run BrokerStore.step (initial actorID refreshInterval) es).snapshotClient =
          some task.service →
        Current (Run.run BrokerStore.step (initial actorID refreshInterval) es) task.service x →
          (Hears (Run.run BrokerStore.step (initial actorID refreshInterval) es) task x ↔
            AheadOfOthers (Run.run BrokerStore.step (initial actorID refreshInterval) es)
              task.service x) := by
  set start : BrokerStore ρ := initial actorID refreshInterval
  have hstart : start.work.Coherent := coherent_initial actorID refreshInterval
  have hinit : start.Informed := informed_initial actorID refreshInterval
  refine ⟨⟨?_, ?_⟩, ?_⟩
  · rintro pre post rfl
    rw [Run.run_append]
    exact advances_run _ post
  · rintro pre service r post rfl e he hshows
    obtain ⟨hpre, hack, hpost⟩ := Run.along_append.1 h
    have hs := coherent_run hstart hpre
    have hi := informed_run hinit pre
    have hrun : Run.run BrokerStore.step start (pre ++ .acknowledge service (some r) :: post) =
        Run.run BrokerStore.step ((Run.run BrokerStore.step start pre).step
          (.acknowledge service (some r))) post := by
      rw [Run.run_append, Run.run_cons]
    rw [hrun] at he hshows
    have hafter := acknowledged_run (acknowledged_raise hs hi service r) (coherent_step hs hack)
      (informed_step hi _) hpost
    exact shown_after hafter (coherent_run (coherent_step hs hack) hpost) he hshows
  · intro task x ha hc hx
    have hiff := accepts_iff (informed_run hinit es) ha hx
    exact ⟨fun hears => hiff.1 (hears ha hc hx), fun hahead _ _ _ => hiff.2 hahead⟩

/-! ## A service that starts over -/

/-- Records that are numbers. -/
def Numbered : RecordKind → Type := fun _ => ℕ

instance : ∀ k, DecidableEq (Numbered k) := fun _ => inferInstanceAs (DecidableEq ℕ)

instance (k : RecordKind) : Inhabited (Numbered k) := inferInstanceAs (Inhabited ℕ)

/-- The empty state, at a revision. -/
def emptyAt (revision : ℤ) : BrokerSnapshot Numbered :=
  { BrokerSnapshot.empty with snapshotRevision := some revision }

/-- A store that saw one service at revision 150, and is connected to another one now. -/
def reconnected : List (Event Numbered) :=
  [.connect 1 0, .completeRefresh ⟨2, 1, "human", 2⟩ (.ok (emptyAt 150)) 0, .connect 2 0]

theorem reconnected_forward :
    MovesForward (initial (ρ := Numbered) "human" (seconds 12)) reconnected :=
  (moves_forward "human" (seconds 12) (by decide)).1

/-- The service connected now is always heard. -/
def NeverLockedOut (start : BrokerStore Numbered) : Prop :=
  ∀ es, Run.Along BrokerStore.step Timely start es →
    ∀ task x, Hears (Run.run BrokerStore.step start es) task x

/-- The second service is at revision 3, and its snapshots are refused for the first one's 150. -/
theorem restarted_service_refused : ¬ NeverLockedOut (initial "human" (seconds 12)) := by
  intro h
  have hheard := h reconnected (by decide) ⟨4, 2, "human", 4⟩ (emptyAt 3) (by decide) (by decide)
  have haccepted := hheard ⟨3, rfl, by decide, by decide⟩
  revert haccepted
  decide

end ServerPilot.Desktop
