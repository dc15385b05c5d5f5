import ServerPilot.Proof.Forward

/-!
# Refreshes coalesce

While a refresh is in flight a further request is remembered, and a new refresh
starts as the one in flight ends. What a response then leaves on the screen is the
response, but for one field the comparison before it forgets, `pendingAllocations`
(`shown_iff`), which the service's state never has. All of this is as long as the
generation of a refresh in flight does not come into force again: it is a wrapping
`UInt64` (`overtaken_clears`).
-/

namespace ServerPilot.Desktop

open BrokerStore Work Serial

variable {ρ : RecordKind → Type} [∀ k, DecidableEq (ρ k)] {s : BrokerStore ρ} {e : Event ρ}
  {task : RefreshTask} {now : Time}

/-! ## One refresh at a time -/

omit [∀ k, DecidableEq (ρ k)] in
/-- `isRefreshing` says that a live refresh is in flight. -/
theorem refreshing_iff (hs : s.work.Coherent) :
    s.isRefreshing = true ↔ ∃ task, s.work.Live task := by
  have hflag : s.isRefreshing = s.activeRefreshTask.isSome := hs.refreshing
  rw [hflag, Option.isSome_iff_exists]
  exact exists_congr fun task => hs.active task

omit [∀ k, DecidableEq (ρ k)] in
/-- There is one at most. -/
theorem live_unique (hs : s.work.Coherent) {other : RefreshTask} (h : s.work.Live task)
    (h' : s.work.Live other) : task = other := by
  have ha := (hs.active task).2 h
  have hb := (hs.active other).2 h'
  exact Option.some.inj (ha.symm.trans hb)

/-! ## Requests made meanwhile -/

/-- A request was made at turn `n`, while `task` was in flight: it is remembered as long as the task
is, and then a refresh has started. -/
structure Asked (task : RefreshTask) (n : ℕ) (s : BrokerStore ρ) : Prop where
  turns : n ≤ s.turns
  answered : (s.activeRefreshTask = some task ∧ s.pendingRefresh = true) ∨ n < s.started

theorem asked_reload (hs : s.work.Coherent) (h : s.work.Live task) (now : Time) :
    Asked task s.turns (s.step (.reload now)) := by
  have ha : s.activeRefreshTask = some task := (hs.active task).2 h
  have hc : s.snapshotClient = some task.service := (hs.latest task ha).2
  have hstep : s.step (.reload now) = { s with pendingRefresh := true } := by
    change s.requestRefresh now = _
    unfold requestRefresh
    rw [if_neg (by rw [hc]; exact Option.some_ne_none _), if_pos (by rw [ha]; rfl)]
  rw [hstep]
  exact ⟨le_rfl, Or.inl ⟨ha, rfl⟩⟩

theorem asked_step {n : ℕ} (h : Asked task n s) (hs : s.work.Coherent) (ht : Timely s e) :
    Asked task n (s.step e) := by
  have hn := h.turns
  rcases step_turns hs ht with hstays | hrests | ⟨new, -, hlt, hle, hstarted⟩
  · refine ⟨hn.trans hstays.turns.ge, ?_⟩
    rcases h.answered with ⟨ha, hp⟩ | hlater
    · exact Or.inl ⟨hstays.active.trans ha, hstays.pending hp⟩
    · exact Or.inr (hlater.trans_eq hstays.started.symm)
  · refine ⟨hn.trans hrests.turns, ?_⟩
    rcases h.answered with ⟨-, hp⟩ | hlater
    · have hunasked : s.pendingRefresh = false := hrests.unasked
      rw [hp] at hunasked
      cases hunasked
    · exact Or.inr (hlater.trans_le hrests.started)
  · change s.turns < new.turn at hlt
    change new.turn ≤ (s.step e).turns at hle
    change (s.step e).started = new.turn at hstarted
    exact ⟨by omega, Or.inr (by omega)⟩

theorem asked_run {n : ℕ} {es : List (Event ρ)} (h : Asked task n s) (hs : s.work.Coherent)
    (ht : Run.Along BrokerStore.step Timely s es) :
    Asked task n (Run.run BrokerStore.step s es) := by
  induction es generalizing s with
  | nil => exact h
  | cons e es ih => exact ih (asked_step h hs ht.1) (coherent_step hs ht.1) ht.2

/-! ## What a response leaves on the screen -/

/-- The snapshot on the screen is the response, but for its time. -/
def OnScreen (s : BrokerStore ρ) (x : BrokerSnapshot ρ) : Prop :=
  { s.snapshot with serverTime := x.serverTime } = x

/-- What is shown once a response is let through. -/
theorem shown_accepted {x : BrokerSnapshot ρ} (ha : s.Accepts task x) (now : Time) :
    (s.step (.completeRefresh task (.ok x) now)).snapshot =
      if s.snapshot.isSemanticallyEquivalentForRefresh x then s.snapshot else x := by
  rw [step_accepted ha]
  exact congrArg Prod.fst known_finishRefresh

/-- **What an accepted response shows**: the response, unless it is equivalent to what was there
and comes with other pending allocations. -/
theorem shown_iff {x : BrokerSnapshot ρ} (ha : s.Accepts task x) (now : Time) :
    OnScreen (s.step (.completeRefresh task (.ok x) now)) x ↔
      (s.snapshot.isSemanticallyEquivalentForRefresh x = true →
        s.snapshot.pendingAllocations = x.pendingAllocations) := by
  unfold OnScreen
  rw [shown_accepted ha]
  by_cases h : s.snapshot.isSemanticallyEquivalentForRefresh x = true
  · rw [if_pos h]
    have heq := equivalent_iff.1 h
    constructor
    · intro hx _
      have hpending := congrArg BrokerSnapshot.pendingAllocations hx
      exact hpending
    · intro hpending
      have hpending := hpending h
      rw [← heq, ← hpending]
  · rw [if_neg h]
    exact ⟨fun _ hx => absurd hx h, fun _ => rfl⟩

omit [∀ k, DecidableEq (ρ k)] in
/-- The service's state has no pending allocations. -/
theorem pending_served {x : BrokerSnapshot ρ} (h : x.Served) : x.pendingAllocations = [] := by
  have hnone : x.received.pendingAllocations = [] := by
    unfold BrokerSnapshot.received listed
    dsimp only
    exact if_neg (by decide)
  rwa [show x.received = x from h] at hnone

/-- So none are ever shown. -/
theorem pending_step (hs : s.snapshot.pendingAllocations = []) (he : e.Served) :
    (s.step e).snapshot.pendingAllocations = [] := by
  rcases step_known s e with h | ⟨service, r, -, h⟩ | ⟨task, x, now, rfl, -, h⟩
  · rw [show (s.step e).snapshot = s.snapshot from congrArg Prod.fst h]
    exact hs
  · rw [show (s.step e).snapshot = s.snapshot from congrArg Prod.fst h]
    exact hs
  · rw [show (s.step _).snapshot = (s.acceptSnapshot task.service x now).snapshot from
      congrArg Prod.fst h]
    unfold acceptSnapshot
    dsimp only
    split
    · exact hs
    · exact pending_served he

theorem pending_run {es : List (Event ρ)} (hs : s.snapshot.pendingAllocations = [])
    (he : ∀ e ∈ es, e.Served) :
    (Run.run BrokerStore.step s es).snapshot.pendingAllocations = [] := by
  induction es generalizing s with
  | nil => exact hs
  | cons e es ih =>
    obtain ⟨h, he⟩ := List.forall_mem_cons.1 he
    exact ih (pending_step hs h) he

/-! ## Along a run -/

/-- Refreshes coalesce without loss along a run. -/
structure Coalesces (start : BrokerStore ρ) (es : List (Event ρ)) : Prop where
  refreshing : (Run.run BrokerStore.step start es).isRefreshing = true ↔
    ∃ task, (Run.run BrokerStore.step start es).work.Live task
  single : ∀ task other, (Run.run BrokerStore.step start es).work.Live task →
    (Run.run BrokerStore.step start es).work.Live other → task = other
  /-- A request made while a refresh was in flight is remembered until a later one has started. -/
  lossless : ∀ pre now post, es = pre ++ .reload now :: post →
    ∀ task, (Run.run BrokerStore.step start pre).work.Live task →
      ((Run.run BrokerStore.step start es).work.Live task ∧
        (Run.run BrokerStore.step start es).pendingRefresh = true) ∨
      (Run.run BrokerStore.step start pre).turns < (Run.run BrokerStore.step start es).started

/-- **Refreshes coalesce** along every run, and where the service answers, a response that is let
through in the end is on the screen. -/
theorem coalesces [Inhabited (ρ .summary)] [Inhabited (ρ .history)] (actorID : String)
    (refreshInterval : Time) {es : List (Event ρ)}
    (h : Run.Along BrokerStore.step Timely (initial actorID refreshInterval) es) :
    Coalesces (initial actorID refreshInterval) es ∧
      ((∀ e ∈ es, e.Served) → ∀ task x now, x.Served →
        (Run.run BrokerStore.step (initial actorID refreshInterval) es).Accepts task x →
          OnScreen (Run.run BrokerStore.step (initial actorID refreshInterval)
            (es ++ [.completeRefresh task (.ok x) now])) x) := by
  set start : BrokerStore ρ := initial actorID refreshInterval
  have hstart : start.work.Coherent := coherent_initial actorID refreshInterval
  have hs := coherent_run hstart h
  refine ⟨⟨refreshing_iff hs, fun _ _ => live_unique hs, ?_⟩, ?_⟩
  · rintro pre now post rfl task hlive
    obtain ⟨hpre, hreload, hpost⟩ := Run.along_append.1 h
    have hbefore := coherent_run hstart hpre
    have hrun : Run.run BrokerStore.step start (pre ++ .reload now :: post) =
        Run.run BrokerStore.step ((Run.run BrokerStore.step start pre).step (.reload now))
          post := by
      rw [Run.run_append, Run.run_cons]
    rw [hrun] at hs ⊢
    have hasked := asked_run (asked_reload hbefore hlive now) (coherent_step hbefore hreload) hpost
    rcases hasked.answered with ⟨ha, hp⟩ | hlater
    · exact Or.inl ⟨(hs.active task).1 ha, hp⟩
    · exact Or.inr hlater
  · intro he task x now hx ha
    rw [Run.run_concat]
    refine (shown_iff ha now).2 fun _ => ?_
    rw [pending_served hx]
    exact pending_run rfl he

/-! ## A store asked twice -/

/-- A store asked twice to reload while its first refresh is in flight, which is answered. -/
def askedTwice : List (Event Numbered) :=
  [.connect 1 0, .reload 0, .reload 0, .completeRefresh ⟨2, 1, "human", 2⟩ (.ok (emptyAt 150)) 0]

/-- The refresh that follows shows what the service answers it. -/
theorem askedTwice_coalesces :
    Coalesces (initial (ρ := Numbered) "human" (seconds 12)) askedTwice ∧
      OnScreen (Run.run BrokerStore.step (initial "human" (seconds 12))
        (askedTwice ++ [.completeRefresh ⟨3, 1, "human", 3⟩ (.ok (emptyAt 151)) 0]))
          (emptyAt 151) := by
  obtain ⟨hcoalesces, hscreen⟩ :=
    @coalesces Numbered _ _ _ "human" (seconds 12) askedTwice (by decide)
  refine ⟨hcoalesces, hscreen ?_ _ _ 0 (by decide) (by decide)⟩
  intro e he
  simp only [askedTwice, List.mem_cons, List.not_mem_nil, or_false] at he
  rcases he with rfl | rfl | rfl | rfl
  · trivial
  · trivial
  · trivial
  · change (emptyAt 150).Served
    decide

/-! ## A generation that is in force again -/

/-- The first refresh of a store that connects to service 1. -/
def firstRefresh : RefreshTask := ⟨2, 1, "human", 2⟩

/-- The actor is changed `n` times while the first refresh is in flight. -/
def actorChanged (n : ℕ) : List (Event Numbered) :=
  .connect 1 0 :: List.replicate n (.setActor "other" 0)

/-- What each change leaves: another refresh in flight, and the first one has not reported. -/
structure Overtaken (turns : ℕ) (w : Work) : Prop where
  coherent : w.Coherent
  client : w.client = some 1
  turns : w.turns = turns
  first : firstRefresh ∈ w.tasks
  active : w.active.isSome = true
  unasked : w.pending = false

theorem Overtaken.step {turns : ℕ} {s : BrokerStore Numbered} (h : Overtaken turns s.work) :
    Overtaken (turns + 2) (s.step (.setActor "other" 0)).work := by
  have hcoherent := coherent_step (e := .setActor "other" 0) h.coherent trivial
  set t := ({ s with actorID := "other" }.setNotice
    (some "本机操作记录已切换为：other。")).invalidateActiveRefresh with ht
  have hclient : t.snapshotClient = some 1 := h.client
  have hidle : ¬ t.activeRefreshTask.isSome = true := Bool.false_ne_true
  have hstep : s.step (.setActor "other" 0) = t.startRefresh 0 := by
    unfold BrokerStore.step BrokerStore.setActor
    dsimp only
    rw [if_neg (by decide)]
    change t.requestRefresh 0 = _
    unfold requestRefresh
    rw [if_neg (by rw [hclient]; exact Option.some_ne_none 1), if_neg hidle]
  rw [hstep, work_start hclient] at hcoherent ⊢
  refine ⟨hcoherent, h.client, ?_, List.mem_cons_of_mem _ h.first, rfl, rfl⟩
  change s.turns + 1 + 1 = turns + 2
  rw [show s.turns = turns from h.turns]

theorem overtaken_run (n : ℕ) :
    Overtaken (2 * n + 2) (Run.run BrokerStore.step (initial "human" (seconds 12))
      (actorChanged n)).work := by
  induction n with
  | zero =>
    have hcoherent : (Run.run BrokerStore.step (initial (ρ := Numbered) "human" (seconds 12))
        (actorChanged 0)).work.Coherent :=
      coherent_run (coherent_initial "human" (seconds 12)) (by decide)
    exact ⟨hcoherent, rfl, rfl, by decide, rfl, rfl⟩
  | succ n ih =>
    unfold actorChanged at ih ⊢
    rw [List.replicate_succ', ← List.cons_append, Run.run_concat]
    exact ih.step

/-- Once the generation of the first refresh is in force again, its report clears the flag. -/
theorem first_clears {n : ℕ} (hn : 2 * n = 2 ^ 64) :
    ¬ Coalesces (initial "human" (seconds 12))
      (actorChanged n ++ [.completeRefresh firstRefresh (.error "") 0]) := by
  intro hcoalesces
  have hrefreshing := hcoalesces.refreshing
  rw [Run.run_concat] at hrefreshing
  have h := overtaken_run n
  generalize Run.run BrokerStore.step (initial (ρ := Numbered) "human" (seconds 12))
    (actorChanged n) = s at h hrefreshing
  -- the refresh in flight is another one than the first
  obtain ⟨task, ha⟩ := Option.isSome_iff_exists.1 h.active
  have hturn : task.turn = 2 * n + 2 := (h.coherent.latest task ha).1.trans h.turns
  obtain ⟨hm, hlate⟩ := (h.coherent.active task).1 ha
  have hne : task ≠ firstRefresh := by
    intro heq
    rw [heq, hn] at hturn
    exact absurd hturn (by decide)
  have hforce : firstRefresh.generation = s.refreshGeneration := by
    have hgeneration : s.refreshGeneration = serial s.turns := h.coherent.generation
    rw [hgeneration, show s.turns = 2 * n + 2 from h.turns, hn]
    exact serial_eq_iff.2 (by decide)
  -- what the first one leaves as it reports back
  have hunmarked : s.discardedRefreshGeneration = none := by
    cases hd : s.discardedRefreshGeneration with
    | none => rfl
    | some g =>
      have hpending : s.work.pending = true := (h.coherent.discarded g hd).2
      rw [h.unasked] at hpending
      cases hpending
  have hwork : (s.step (.completeRefresh firstRefresh (.error "") 0)).work =
      { s.work with
        refreshing := false, active := none, tasks := s.tasks.erase firstRefresh } := by
    have hhear : ((s.endTask firstRefresh).hear firstRefresh (.error "") 0).work =
        (s.endTask firstRefresh).idle.work := by
      unfold hear
      rw [if_neg]
      · exact work_useResult _
      · change ¬ s.discardedRefreshGeneration = _
        rw [hunmarked]
        exact Option.some_ne_none _ |>.symm
    have hunasked : ((s.endTask firstRefresh).hear firstRefresh (.error "") 0).pendingRefresh =
        false := (congrArg Work.pending hhear).trans h.unasked
    have hstep : s.step (.completeRefresh firstRefresh (.error "") 0) =
        ((s.endTask firstRefresh).hear firstRefresh (.error "") 0).finishRefresh 0 := by
      have hfirst : firstRefresh ∈ s.tasks := h.first
      unfold BrokerStore.step
      dsimp only
      rw [if_pos hfirst]
      unfold completeRefresh
      exact if_neg (not_not.2 hforce)
    rw [hstep]
    unfold finishRefresh
    rw [if_neg (by rw [hunasked]; exact Bool.false_ne_true)]
    exact congrArg (fun w : Work => { w with refreshing := false }) hhear
  have hstill : (s.step (.completeRefresh firstRefresh (.error "") 0)).work.Live task := by
    rw [hwork]
    exact ⟨(List.mem_erase_of_ne hne).2 hm, hlate⟩
  have hflag : (s.step (.completeRefresh firstRefresh (.error "") 0)).isRefreshing = false :=
    congrArg Work.refreshing hwork
  rw [hrefreshing.2 ⟨task, hstill⟩] at hflag
  cases hflag

/-- **A generation is in force again after `2 ^ 64` more**: `isRefreshing` is cleared while a
refresh is in flight. -/
theorem overtaken_clears : ¬ ∀ es : List (Event Numbered), (∀ e ∈ es, e.Served) →
    Coalesces (initial "human" (seconds 12)) es := by
  intro h
  refine first_clears (n := 2 ^ 63) (by decide) (h _ fun e he => ?_)
  rcases List.mem_append.1 he with he | he
  · rcases List.mem_cons.1 he with rfl | he
    · trivial
    · rw [List.eq_of_mem_replicate he]
      trivial
  · rw [List.mem_singleton.1 he]
    trivial

end ServerPilot.Desktop
