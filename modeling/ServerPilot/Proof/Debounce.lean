import ServerPilot.Lib.Stretch
import ServerPilot.Proof.Fleet
import ServerPilot.Proof.Inbox

/-!
# Debouncing

`Watched` is what the open row of a condition says of the evaluations committed so far:
a pending row has been there since the oldest of an unbroken stretch that showed the
condition, and the clear streak of a row somebody was told of counts evaluations that did
not. Every evaluation keeps it (`watched_step`) whose memory of the last evaluation is not
newer than the last one committed: then a reminder surfaces only after its hold, and goes
away only after its clear evaluations (`debounced`).

An evaluation that notices a gap and is rolled back leaves that memory behind, and the
next one lets the hold run through the gap (`gap_swallowed`).
-/

namespace ServerPilot.Reminders

open Span

variable {cfg : Config} {i : Inbox} {rows : List Alert} {look : Look} {resuming : Bool}
  {c : Condition} {r : Alert} {s : Signal} {log : List Evaluation} {e : Evaluation}

/-! ## What the log says -/

/-- The evaluation found the condition to hold. -/
def Evaluation.Shows (c : Condition) (e : Evaluation) : Prop :=
  c ∈ e.look.signals.map Signal.condition

/-- One evaluation comes within the staleness limit of another. -/
def Near (cfg : Config) (a b : Evaluation) : Prop := a.look.now - b.look.now ≤ cfg.staleAfter

/-- The condition was there at every evaluation of a span as long as its hold, which ends with
the newest one and has no gap. -/
def HeldFor (cfg : Config) (c : Condition) (log : List Evaluation) : Prop :=
  ∃ newest ∈ log.head?, ∃ oldest older,
    Stretch (Evaluation.Shows c) (Near cfg) log oldest older ∧
      c.hold ≤ newest.look.now - oldest.look.now

/-- The newest evaluations, as many as a recovery takes, found it clear. -/
def ClearedFor (c : Condition) (log : List Evaluation) : Prop :=
  c.clearSuccesses ≤ log.length ∧ ∀ e ∈ log.take c.clearSuccesses, ¬ e.Shows c

/-- What one event may do to the reminders. -/
structure Debounced (cfg : Config) (i i' : Inbox) : Prop where
  /-- A condition surfaces only after its hold. -/
  surfaced : ∀ c, ¬ i.Tells (.condition c) → i'.Tells (.condition c) → HeldFor cfg c i'.log
  /-- It is over only after its clear evaluations. -/
  cleared : ∀ c, i.Tells (.condition c) → ¬ i'.Tells (.condition c) → ClearedFor c i'.log
  /-- No key has two open rows. -/
  once : ∀ k, (openOf k i'.rows).length ≤ 1

/-- An evaluation that finds a waiting condition there, and remembers no gap, comes within the
staleness limit of the last evaluation that was committed. -/
def Unbroken (cfg : Config) (i : Inbox) : Event → Prop
  | .evaluate look true =>
    i.throttled look.now = false → i.resuming cfg look.now = false →
      (∃ r ∈ i.rows, r.state = .pending ∧ ∃ c ∈ r.condition?, (look.signal? c).isSome = true) →
        ∀ last ∈ i.log.head?, look.now - last.look.now ≤ cfg.staleAfter
  | _ => True

/-! ## What a row says of the log -/

/-- The clear evaluations a row counts. -/
def Alert.streak (r : Alert) : ℕ := r.payload.clearStreak.getD 0

structure Watched (cfg : Config) (log : List Evaluation) (c : Condition) (r : Alert) : Prop where
  waiting : r.state = .pending → ∃ oldest older, r.pendingSince = some oldest.look.now ∧
    Stretch (Evaluation.Shows c) (Near cfg) log oldest older
  unarmed : r.state ≠ .armed
  successes : r.payload.clearSuccesses = c.payloadClearSuccesses
  streak : r.state.told = true → r.streak < c.clearSuccesses ∧ r.streak ≤ log.length ∧
    ∀ e ∈ log.take r.streak, ¬ e.Shows c
  lease : r.leaseId ≠ none → c.clearSuccesses = 1

namespace Watched

/-- An open row nobody was told of is pending. -/
theorem pending_of_not_told (hw : Watched cfg log c r) (hopen : r.isOpen = true)
    (htold : r.state.told = false) : r.state = .pending := by
  have hunarmed := hw.unarmed
  unfold Alert.isOpen at hopen
  cases hstate : r.state
  all_goals first
    | rfl
    | exact absurd hstate hunarmed
    | (rw [hstate] at hopen; exact absurd hopen Bool.false_ne_true)
    | (rw [hstate] at htold; exact absurd htold.symm Bool.false_ne_true)

/-- A note on a row changes nothing it says. -/
theorem alike {m : Alert} (hw : Watched cfg log c r) (h : Alike r m) : Watched cfg log c m := by
  have hstreak : m.streak = r.streak := by
    unfold Alert.streak
    rw [h.payload]
  refine ⟨fun hp => ?_, fun ha => hw.unarmed (h.armed.1 ha), ?_, fun ht => ?_, ?_⟩
  · rw [h.pendingSince]
    exact hw.waiting (h.pending.1 hp)
  · rw [h.payload]
    exact hw.successes
  · rw [hstreak]
    exact hw.streak (h.told.symm.trans ht)
  · rw [h.leaseId]
    exact hw.lease

end Watched

theorem clearSuccesses_pos (c : Condition) : 0 < c.clearSuccesses := by
  cases c <;> exact Nat.succ_pos _

/-- The conditions of a lease are over as soon as they are clear. -/
theorem clearSuccesses_of_leaseId (h : s.leaseId ≠ none) : s.condition.clearSuccesses = 1 := by
  unfold Signal.leaseId at h
  cases hc : s.condition
  all_goals first
    | rfl
    | (rw [hc] at h; exact absurd rfl h)

/-- A row whose condition holds, moved on: it waits since the oldest of an unbroken stretch, or
that stretch is as long as the hold. -/
theorem present_watched (rows : List Alert) {state : AlertState} {since : Option Time}
    (hs : s.condition = c) (hstate : state ≠ .armed)
    (hlease : r.leaseId ≠ none → c.clearSuccesses = 1)
    (hsince : state.told = false → ∃ oldest older,
      (if resuming then none else since).getD e.look.now = oldest.look.now ∧
        Stretch (Evaluation.Shows c) (Near cfg) (e :: log) oldest older) :
    Watched cfg (e :: log) c (r.present rows resuming e.look.now s state since) ∧
      (state.told = false → (r.present rows resuming e.look.now s state since).state.told = true →
        HeldFor cfg c (e :: log)) := by
  have hpayload : (r.present rows resuming e.look.now s state since).streak = 0 := by
    unfold Alert.streak
    rw [present_payload]
    rfl
  have hstreak : (r.present rows resuming e.look.now s state since).streak < c.clearSuccesses ∧
      (r.present rows resuming e.look.now s state since).streak ≤ (e :: log).length ∧
      ∀ x ∈ (e :: log).take (r.present rows resuming e.look.now s state since).streak,
        ¬ x.Shows c := by
    rw [hpayload]
    refine ⟨clearSuccesses_pos c, Nat.zero_le _, fun x hx => ?_⟩
    exact absurd hx List.not_mem_nil
  have hsuccesses : (r.present rows resuming e.look.now s state since).payload.clearSuccesses =
      c.payloadClearSuccesses := by
    rw [present_payload, hs]
  have hleased : (r.present rows resuming e.look.now s state since).leaseId ≠ none →
      c.clearSuccesses = 1 := by
    rw [present_leaseId]
    exact hlease
  cases htold : state.told with
  | true =>
    have hsame : (r.present rows resuming e.look.now s state since).state = state := by
      rw [present_state]
      unfold stepPresent
      rw [if_pos htold]
    refine ⟨⟨fun hp => ?_, fun ha => hstate (hsame ▸ ha), hsuccesses, fun _ => hstreak, hleased⟩,
      fun h => (by cases h)⟩
    rw [hsame] at hp
    rw [hp] at htold
    cases htold
  | false =>
    obtain ⟨oldest, older, hoff, hstretch⟩ := hsince htold
    have hstep : stepPresent state (if resuming then none else since) s.condition.hold e.look.now =
        if c.hold ≤ e.look.now - oldest.look.now then ⟨.active, some oldest.look.now, 0⟩
        else ⟨.pending, some oldest.look.now, 0⟩ := by
      unfold stepPresent
      rw [htold, if_neg Bool.false_ne_true, hoff, hs]
    refine ⟨⟨fun hp => ⟨oldest, older, ?_, hstretch⟩, ?_, hsuccesses, fun _ => hstreak, hleased⟩,
      fun _ hnow => ⟨e, rfl, oldest, older, hstretch, ?_⟩⟩
    · rw [present_pendingSince, hstep]
      split <;> rfl
    · rw [present_state, hstep]
      split
      · exact fun h => (by cases h)
      · exact fun h => (by cases h)
    · rw [present_state, hstep] at hnow
      by_contra hshort
      rw [if_neg hshort] at hnow
      cases hnow

/-- A row whose condition is clear, moved on: it counts one more clear evaluation, or it has
counted enough. -/
theorem absent_watched (hw : Watched cfg log c r) (hopen : r.isOpen = true)
    (hclear : ¬ e.Shows c) :
    (∀ x ∈ r.absent e.look, x.isOpen = true →
      Watched cfg (e :: log) c x ∧ x.state = r.state ∧ r.state.told = true) ∧
    (r.state.told = true → (r.absent e.look).toList.filter Alert.isOpen = [] →
      ClearedFor c (e :: log)) := by
  have htold : r.state ≠ .pending → r.state.told = true := fun hp => by
    by_contra hnot
    exact hp (hw.pending_of_not_told hopen (Bool.eq_false_iff.2 hnot))
  unfold Alert.absent
  by_cases hp : r.state = .pending
  · rw [if_pos hp]
    refine ⟨fun x hx => (by cases hx), fun h => ?_⟩
    rw [hp] at h
    cases h
  obtain ⟨hlt, hlen, hlog⟩ := hw.streak (htold hp)
  rw [if_neg hp]
  by_cases hidden : (r.leaseId.any fun lease =>
      decide (lease ≠ "") && e.look.hasUnseenCards lease) = true
  · -- A row nobody can see to has counted nothing, since one clear evaluation would end it.
    rw [if_pos hidden]
    have hleased : r.leaseId ≠ none := fun h => by rw [h] at hidden; cases hidden
    have hzero : r.streak = 0 := by
      have hone := hw.lease hleased
      omega
    refine ⟨fun x hx _ => ?_, fun _ h => ?_⟩
    · cases hx
      refine ⟨⟨fun h => absurd h hp, hw.unarmed, hw.successes, fun _ => ?_, hw.lease⟩, rfl,
        htold hp⟩
      rw [hzero]
      exact ⟨clearSuccesses_pos c, Nat.zero_le _, fun x hx => absurd hx List.not_mem_nil⟩
    · rw [Option.toList_some, List.filter_singleton, hopen] at h
      cases h
  · rw [if_neg hidden]
    have hsuccesses : r.payload.clearSuccesses.getD 1 = c.clearSuccesses := by
      rw [hw.successes]
      rfl
    have hstep : stepAbsent r.state r.pendingSince (r.payload.clearStreak.getD 0)
        (r.payload.clearSuccesses.getD 1) =
          if c.clearSuccesses ≤ r.streak + 1 then ⟨.resolved, r.pendingSince, r.streak + 1⟩
          else ⟨r.state, r.pendingSince, r.streak + 1⟩ := by
      unfold stepAbsent
      rw [if_neg hp, hsuccesses]
      rfl
    have hall : ∀ x ∈ (e :: log).take (r.streak + 1), ¬ x.Shows c := fun x hx => by
      rw [List.take_succ_cons] at hx
      rcases List.mem_cons.1 hx with rfl | hx
      · exact hclear
      · exact hlog x hx
    dsimp only
    rw [hstep]
    by_cases hover : c.clearSuccesses ≤ r.streak + 1
    · rw [if_pos hover]
      refine ⟨fun x hx hx' => ?_, fun _ _ => ⟨?_, fun x hx => hall x ?_⟩⟩
      · cases hx
        cases hx'
      · rw [List.length_cons]
        omega
      · rwa [show r.streak + 1 = c.clearSuccesses by omega]
    · rw [if_neg hover]
      refine ⟨fun x hx _ => ?_, fun _ h => ?_⟩
      · cases hx
        refine ⟨⟨fun h => absurd h hp, hw.unarmed, hw.successes, fun _ => ?_, hw.lease⟩, rfl,
          htold hp⟩
        refine ⟨Nat.lt_of_not_le hover, ?_, hall⟩
        rw [List.length_cons]
        exact Nat.succ_le_succ hlen
      · rw [Option.toList_some, List.filter_singleton] at h
        unfold Alert.isOpen at h hopen
        dsimp only at h
        rw [hopen] at h
        cases h

/-! ## One event -/

/-- The open row of every condition, if there is one, says what the log says. -/
def WatchedAll (cfg : Config) (i : Inbox) : Prop :=
  ∀ c, ∀ r ∈ openOf (.condition c) i.rows, Watched cfg i.log c r

/-- One committed evaluation, for one condition. -/
theorem evaluated_watched (honce : Once i) (hw : WatchedAll cfg i)
    (hdue : i.throttled look.now = false) (hu : Unbroken cfg i (.evaluate look true))
    (he : e = ⟨look, i.settling cfg look.now, i.rows⟩) (c : Condition) :
    (∀ r ∈ openOf (.condition c) (i.evaluated cfg look), Watched cfg (e :: i.log) c r) ∧
    (¬ i.Tells (.condition c) →
      (∃ r ∈ openOf (.condition c) (i.evaluated cfg look), r.state.told = true) →
        HeldFor cfg c (e :: i.log)) ∧
    (i.Tells (.condition c) →
      (¬ ∃ r ∈ openOf (.condition c) (i.evaluated cfg look), r.state.told = true) →
        ClearedFor c (e :: i.log)) := by
  have hnow : look.now = e.look.now := by rw [he]
  rw [openOf_evaluated_condition]
  rcases honce.open_once (.condition c) with hnone | ⟨r, hone⟩
  · have htells : ¬ i.Tells (.condition c) := by
      rintro ⟨r, hr, -⟩
      rw [hnone] at hr
      cases hr
    rw [openOf_remind_none hnone]
    cases hs : look.signal? c with
    | none =>
      refine ⟨fun r hr => (by cases hr), fun _ h => ?_, fun h => absurd h htells⟩
      obtain ⟨r, hr, -⟩ := h
      cases hr
    | some s =>
      have hsc := signal?_condition hs
      have hshows : e.Shows c := by
        unfold Evaluation.Shows
        rw [he]
        exact signal?_isSome.1 (by rw [hs]; rfl)
      let r := newReminder (look.token (.condition c)) (.condition c) s.message s.leaseId look.now
      have hpresent : Watched cfg (e :: i.log) c
            (r.present i.rows (i.resuming cfg look.now) e.look.now s .pending none) ∧
          (AlertState.pending.told = false →
            (r.present i.rows (i.resuming cfg look.now) e.look.now s .pending none).state.told =
              true → HeldFor cfg c (e :: i.log)) :=
        present_watched i.rows hsc (by intro h; cases h) (fun h =>
          hsc ▸ clearSuccesses_of_leaseId h)
          (fun _ => ⟨e, i.log, by rw [ite_self]; rfl, .start hshows⟩)
      obtain ⟨hnew, hheld⟩ := hpresent
      rw [← hnow] at hnew hheld
      refine ⟨fun r hr => ?_, fun _ h => ?_, fun h => absurd h htells⟩
      · rw [List.mem_singleton.1 hr]
        exact hnew
      · obtain ⟨r, hr, htold⟩ := h
        rw [List.mem_singleton.1 hr] at htold
        exact hheld rfl htold
  · have hmem : r ∈ openOf (.condition c) i.rows := hone ▸ List.mem_singleton_self r
    obtain ⟨hrow, hopen, hkey⟩ := mem_openOf.1 hmem
    have hwr := hw c r hmem
    have htells : i.Tells (.condition c) ↔ r.state.told = true := by
      constructor
      · rintro ⟨x, hx, htold⟩
        rw [hone] at hx
        rwa [← List.mem_singleton.1 hx]
      · exact fun htold => ⟨r, hmem, htold⟩
    rw [htells, openOf_remind_some hone]
    cases hs : look.signal? c with
    | some s =>
      have hshows : e.Shows c := by
        unfold Evaluation.Shows
        rw [he]
        exact signal?_isSome.1 (by rw [hs]; rfl)
      have hsince : r.state.told = false → ∃ oldest older,
          (if i.resuming cfg look.now then none else r.pendingSince).getD e.look.now =
              oldest.look.now ∧
            Stretch (Evaluation.Shows c) (Near cfg) (e :: i.log) oldest older := by
        intro htold
        cases hres : i.resuming cfg look.now with
        | true => exact ⟨e, i.log, by rw [if_pos rfl]; rfl, .start hshows⟩
        | false =>
          have hp := hwr.pending_of_not_told hopen htold
          obtain ⟨oldest, older, hpending, hstretch⟩ := hwr.waiting hp
          refine ⟨oldest, older, by rw [if_neg Bool.false_ne_true, hpending]; rfl,
            hstretch.cons hshows fun last hlast => ?_⟩
          unfold Near
          rw [← hnow]
          refine hu hdue hres ⟨r, hrow, hp, c, ?_, by rw [hs]; rfl⟩ last hlast
          unfold Alert.condition?
          rw [hkey]
          rfl
      obtain ⟨hnew, hheld⟩ := present_watched i.rows (signal?_condition hs) hwr.unarmed hwr.lease
        hsince
      rw [← hnow] at hnew hheld
      refine ⟨fun x hx => ?_, fun hnot h => ?_, fun htold hnot =>
        absurd ⟨_, List.mem_singleton_self _, ?_⟩ hnot⟩
      · rw [List.mem_singleton.1 hx]
        exact hnew
      · obtain ⟨x, hx, htold⟩ := h
        rw [List.mem_singleton.1 hx] at htold
        exact hheld (Bool.eq_false_iff.2 hnot) htold
      · rw [present_state]
        unfold stepPresent
        rw [if_pos htold]
        exact htold
    | none =>
      have hclear : ¬ e.Shows c := by
        unfold Evaluation.Shows
        rw [he]
        intro h
        have hsome := signal?_isSome.2 h
        rw [hs] at hsome
        cases hsome
      obtain ⟨hrest, hcleared⟩ := absent_watched hwr hopen hclear
      have hlook : e.look = look := by rw [he]
      rw [hlook] at hrest hcleared
      have hfiltered : ∀ x ∈ (r.absent look).toList.filter Alert.isOpen,
          x ∈ r.absent look ∧ x.isOpen = true := fun x hx =>
        ⟨Option.mem_toList.1 (List.mem_filter.1 hx).1, (List.mem_filter.1 hx).2⟩
      refine ⟨fun x hx => ?_, fun hnot h => ?_, fun htold hnot => hcleared htold ?_⟩
      · exact (hrest x (hfiltered x hx).1 (hfiltered x hx).2).1
      · obtain ⟨x, hx, -⟩ := h
        exact absurd (hrest x (hfiltered x hx).1 (hfiltered x hx).2).2.2 hnot
      · refine List.eq_nil_iff_forall_not_mem.2 fun x hx => hnot ⟨x, hx, ?_⟩
        obtain ⟨-, hstate, -⟩ := hrest x (hfiltered x hx).1 (hfiltered x hx).2
        rw [hstate]
        exact htold

/-- One event keeps what the rows say, and does to the reminders what it may. -/
theorem watched_step (honce : Once i) (hw : WatchedAll cfg i) {ev : Event}
    (hu : Unbroken cfg i ev) :
    WatchedAll cfg (i.step cfg ev) ∧ Debounced cfg i (i.step cfg ev) := by
  have honce' : ∀ k, (openOf k (i.step cfg ev).rows).length ≤ 1 := fun k =>
    ((honce.step cfg ev).open_once k).length_le
  -- An event that leaves the rows of the conditions as they are surfaces and ends nothing.
  have hquiet : (∀ c, openOf (.condition c) (i.step cfg ev).rows = openOf (.condition c) i.rows) →
      (i.step cfg ev).log = i.log →
        WatchedAll cfg (i.step cfg ev) ∧ Debounced cfg i (i.step cfg ev) := by
    intro hrows hlog
    have htells : ∀ c, (i.step cfg ev).Tells (.condition c) ↔ i.Tells (.condition c) := fun c => by
      unfold Inbox.Tells
      rw [hrows c]
    refine ⟨fun c r hr => ?_, fun c hnot h => ?_, fun c h hnot => ?_, honce'⟩
    · rw [hlog]
      exact hw c r (hrows c ▸ hr)
    · exact absurd ((htells c).1 h) hnot
    · exact absurd ((htells c).2 h) hnot
  cases ev with
  | evaluate look committed =>
    cases hdue : i.throttled look.now with
    | true =>
      have hsame : i.step cfg (.evaluate look committed) = i := step_throttled hdue
      exact hquiet (fun c => by rw [hsame]) (by rw [hsame])
    | false =>
      cases committed with
      | false =>
        have hsame : i.step cfg (.evaluate look false) = _ := step_rolledBack hdue
        exact hquiet (fun c => by rw [hsame]) (by rw [hsame])
      | true =>
        have hstep : i.step cfg (.evaluate look true) = _ := step_committed hdue
        have hone := evaluated_watched honce hw hdue hu rfl
        rw [hstep] at honce' ⊢
        exact ⟨fun c => (hone c).1, fun c => (hone c).2.1, fun c => (hone c).2.2, honce'⟩
  | mark actor alertIds notified acked now =>
    obtain ⟨g, hg, hrows, -, hlog⟩ := mark_rows (i := i) actor alertIds notified acked now
    have hopen : ∀ c, openOf (.condition c)
        (i.step cfg (.mark actor alertIds notified acked now)).rows =
          (openOf (.condition c) i.rows).map g := fun c => by
      unfold Inbox.step
      dsimp only
      rw [hrows, openOf_map hg]
    refine ⟨fun c r hr => ?_, fun c hnot h => ?_, fun c h hnot => ?_, honce'⟩
    · rw [hopen c] at hr
      obtain ⟨x, hx, rfl⟩ := List.mem_map.1 hr
      have hlog' : (i.step cfg (.mark actor alertIds notified acked now)).log = i.log := hlog
      rw [hlog']
      exact (hw c x hx).alike (hg x)
    · exact absurd ((tells_of_map hg (hopen c)).1 h) hnot
    · exact absurd ((tells_of_map hg (hopen c)).2 h) hnot
  | reclaim lease token message now =>
    exact hquiet (fun c => openOf_reclaim_ne (by intro h; cases h)) rfl
  | restart => exact hquiet (fun c => rfl) rfl

/-! ## Runs -/

/-- A run of events is debounced when each of its events does what it may. -/
def DebouncedRun (cfg : Config) (es : List Event) : Prop :=
  ∀ before ev after, es = before ++ ev :: after →
    Debounced cfg (Run.run (Inbox.step cfg) {} before)
      ((Run.run (Inbox.step cfg) {} before).step cfg ev)

/-- **Reminders are debounced** in every run whose evaluations notice each gap since the last
one committed. -/
theorem debounced {es : List Event} (h : Run.Along (Inbox.step cfg) (Unbroken cfg) {} es) :
    DebouncedRun cfg es := by
  rintro before ev after rfl
  obtain ⟨hbefore, hev, -⟩ := Run.along_append.1 h
  have hkept : Once (Run.run (Inbox.step cfg) {} before) ∧
      WatchedAll cfg (Run.run (Inbox.step cfg) {} before) := by
    refine Run.run_inv (I := fun i => Once i ∧ WatchedAll cfg i) (fun i e hi he => ?_) ?_ hbefore
    · exact ⟨hi.1.step cfg e, (watched_step hi.1 hi.2 he).1⟩
    · exact ⟨once_run cfg [], fun c r hr => (by cases hr)⟩
  exact (watched_step hkept.1 hkept.2 hev).2

/-! ## A run that waits, and one that does not -/

instance (cfg : Config) (i : Inbox) : DecidablePred (Unbroken cfg i)
  | .evaluate look true => inferInstanceAs (Decidable (i.throttled look.now = false →
      i.resuming cfg look.now = false →
        (∃ r ∈ i.rows, r.state = .pending ∧ ∃ c ∈ r.condition?, (look.signal? c).isSome = true) →
          ∀ last ∈ i.log.head?, look.now - last.look.now ≤ cfg.staleAfter))
  | .evaluate _ false => isTrue trivial
  | .mark .. => isTrue trivial
  | .reclaim .. => isTrue trivial
  | .restart => isTrue trivial

/-- When an event happens. -/
def Event.at? : Event → Option Time
  | .evaluate look _ => some look.now
  | .mark _ _ _ _ now => some now
  | .reclaim _ _ _ now => some now
  | .restart => none

/-- The events come at times that do not go back. -/
def InOrder (es : List Event) : Prop := (es.filterMap Event.at?).Pairwise (· ≤ ·)

/-- A server is out of reach at this second. -/
def unreachable (second : ℤ) : Look :=
  { now := seconds second, signals := [{ condition := .offline "alpha" }] }

/-- An outage seen every forty seconds for five minutes, and noted by the App. -/
def outage : List Event :=
  [0, 40, 80, 120, 160, 200, 240, 280, 320].map fun second => .evaluate (unreachable second) true

/-- It surfaces, having been there for all of its hold. -/
theorem outage_debounced : DebouncedRun plainConfig outage ∧
    (Run.run (Inbox.step plainConfig) {} outage).Tells (.condition (.offline "alpha")) :=
  ⟨debounced (by decide +kernel), by decide +kernel⟩

/-- A server out of reach before a gap of a quarter of an hour and after it; the evaluation that
notices the gap is rolled back. -/
def wakening : List Event :=
  [.evaluate (unreachable 0) true, .evaluate (unreachable 900) false]

/-- The next evaluation surfaces the outage at once. -/
theorem gap_swallowed : ¬ ∀ cfg es, InOrder es → DebouncedRun cfg es := by
  intro h
  have hrun := h plainConfig (wakening ++ [.evaluate (unreachable 916) true])
    (by unfold InOrder; decide +kernel) wakening _ [] rfl
  obtain ⟨newest, hnewest, oldest, older, hstretch, hheld⟩ :=
    hrun.surfaced (.offline "alpha") (by decide +kernel) (by decide +kernel)
  have htimes : ((Run.run (Inbox.step plainConfig) {} wakening).step plainConfig
      (.evaluate (unreachable 916) true)).log.map (fun e => e.look.now) =
        [seconds 916, seconds 0] := by decide +kernel
  obtain ⟨a, rest, hlog, ha, hrest⟩ := List.map_eq_cons_iff.1 htimes
  obtain ⟨b, rest', rfl, hb, -⟩ := List.map_eq_cons_iff.1 hrest
  rw [hlog] at hnewest hstretch
  cases hnewest
  -- The stretch is the newest evaluation alone, and that is no span at all.
  cases hstretch with
  | start _ =>
    rw [sub_self] at hheld
    exact absurd hheld (by decide)
  | extend _ hnear _ =>
    unfold Near at hnear
    rw [ha, hb] at hnear
    exact absurd hnear (by decide)

end ServerPilot.Reminders
