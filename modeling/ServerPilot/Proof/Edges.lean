import ServerPilot.Lib.Stretch
import ServerPilot.Proof.Debounce

/-!
# Capacity notices

A group of cards is told of on an edge: it was seen empty, and then with free cards for
as long as `CAPACITY_STABLE_SECONDS`. `Stocked` is what the group's open row says of the
looks at it so far, one constructor for each state of the row; every look keeps it
(`stocked_look`), and from it follow both that a notice is earned and that an edge is not
lost (`noticed`).

The evaluator does not start the span again across a gap. A row that was pending before one
surfaces at the first look after it (`gap_counted`), so a look at a pending group has to come
within the staleness limit of the last.
-/

namespace ServerPilot.Reminders

open Span

variable {cfg : Config} {i : Inbox} {rows : List Alert} {look : Look} {p : Pool} {r : Alert}

/-! ## Looks at one group -/

/-- A look at a group: when, how many cards were free, and whether a person had been told. -/
structure Sight where
  time : Time
  free : ℕ
  told : Bool
  deriving DecidableEq, Repr

/-- Somebody is told of the group by one of these rows. -/
def toldOf (p : Pool) (rows : List Alert) : Bool :=
  (openOf (.capacity p) rows).any fun r => r.state.told

/-- The look an evaluation takes at a group, where it does not pass it over. -/
def Evaluation.sight (p : Pool) (e : Evaluation) : Option Sight :=
  (e.look.freeCards e.settling p).map fun free => ⟨e.look.now, free, toldOf p e.found⟩

/-- The looks at a group, newest first. -/
def sights (p : Pool) (log : List Evaluation) : List Sight := log.filterMap (Evaluation.sight p)

/-- Cards were free, and nobody had been told. -/
def Fresh (s : Sight) : Prop := 0 < s.free ∧ s.told = false

/-- One look comes within the staleness limit of another. -/
def Close (cfg : Config) (a b : Sight) : Prop := a.time - b.time ≤ cfg.staleAfter

/-- Every row of the group that was notified has rested by now. -/
def RestedAll (p : Pool) (rows : List Alert) (now : Time) : Prop :=
  ∀ r ∈ rowsOf (.capacity p) rows, ∀ t ∈ r.notifiedAt, notifyRepeat ≤ now - t

/-- What one event may do to the notice of a group. -/
structure Noticed (cfg : Config) (p : Pool) (i i' : Inbox) : Prop where
  /-- The group was seen empty, then with free cards at every look of a span long enough and
  without a gap, and nobody was told in between; the last notice has rested. -/
  earned : ¬ i.Tells (.capacity p) → i'.Tells (.capacity p) →
    ∃ newest ∈ (sights p i'.log).head?, ∃ oldest empty older,
      Stretch Fresh (Close cfg) (sights p i'.log) oldest (empty :: older) ∧ empty.free = 0 ∧
        capacityStable ≤ newest.time - oldest.time ∧ RestedAll p i.rows newest.time
  /-- A look at the group that finds it stable and rested leaves a person told. -/
  heard : ∀ newest, sights p i'.log = newest :: sights p i.log →
    ∀ oldest empty older,
      Stretch (fun s => 0 < s.free) (fun _ _ => True) (sights p i'.log) oldest (empty :: older) →
        empty.free = 0 → capacityStable ≤ newest.time - oldest.time →
          RestedAll p i.rows newest.time → i'.Tells (.capacity p)

/-- A look that finds a pending group with free cards comes within the staleness limit of the last
look at it. -/
def Steady (cfg : Config) (p : Pool) (i : Inbox) : Event → Prop
  | .evaluate look true =>
    i.throttled look.now = false →
      ∀ free ∈ look.freeCards (i.settling cfg look.now) p, 0 < free →
        (∃ r ∈ openOf (.capacity p) i.rows, r.state = .pending) →
          ∀ last ∈ (sights p i.log).head?, look.now - last.time ≤ cfg.staleAfter
  | _ => True

/-! ## What the row of a group says -/

/-- The open rows of a group after the looks at it. -/
inductive Stocked (R : Sight → Sight → Prop) : List Sight → List Alert → Prop
  /-- It was never seen empty. -/
  | unseen {log : List Sight} : (∀ s ∈ log, 0 < s.free) → Stocked R log []
  /-- It is empty. -/
  | armed {s : Sight} {log : List Sight} {r : Alert} : r.state = .armed → r.pendingSince = none →
      s.free = 0 → Stocked R (s :: log) [r]
  /-- It has had free cards since it was empty, and nobody was told. -/
  | pending {log older : List Sight} {oldest empty : Sight} {r : Alert} : r.state = .pending →
      r.pendingSince = some oldest.time → Stretch Fresh R log oldest (empty :: older) →
        empty.free = 0 → Stocked R log [r]
  /-- Somebody was told, and it still has free cards. -/
  | told {log : List Sight} {r : Alert} : r.state.told = true → Stocked R log [r]

/-- A notice has rested when every notified row has. -/
theorem rested_lastNotified {now : Time} :
    rested (lastNotified rows) now = true ↔ ∀ r ∈ rows, ∀ t ∈ r.notifiedAt,
      notifyRepeat ≤ now - t := by
  have hmem : ∀ t, t ∈ rows.filterMap Alert.notifiedAt ↔ ∃ r ∈ rows, t ∈ r.notifiedAt := fun t =>
    List.mem_filterMap
  unfold rested lastNotified
  cases hmax : (rows.filterMap Alert.notifiedAt).max? with
  | none =>
    have hnil := List.max?_eq_none_iff.1 hmax
    refine ⟨fun _ r hr t ht => ?_, fun _ => rfl⟩
    have hin := (hmem t).2 ⟨r, hr, ht⟩
    rw [hnil] at hin
    cases hin
  | some last =>
    obtain ⟨hin, hle⟩ := List.max?_eq_some_iff.1 hmax
    rw [Option.all_some, decide_eq_true_iff]
    constructor
    · intro hlast r hr t ht
      have htle := hle t ((hmem t).2 ⟨r, hr, ht⟩)
      exact hlast.trans (sub_le_sub_left htle now)
    · intro hall
      obtain ⟨r, hr, ht⟩ := (hmem last).1 hin
      exact hall r hr last ht

theorem toldOf_singleton (h : openOf (.capacity p) rows = [r]) : toldOf p rows = r.state.told := by
  unfold toldOf
  rw [h]
  simp

theorem toldOf_eq_true :
    toldOf p rows = true ↔ ∃ r ∈ openOf (.capacity p) rows, r.state.told = true := by
  unfold toldOf
  rw [List.any_eq_true]

/-! ## One look -/

section Rule

variable {state : AlertState} {since notified : Option Time} {free : ℕ} {now : Time}

/-- A group without cards waits for some, and a notice of it is over. -/
theorem stepCapacity_empty : stepCapacity (some state) since 0 notified now =
    if state.told then ⟨.resolved, none, 0⟩ else ⟨.armed, none, 0⟩ := rfl

/-- A notice stands while there are cards. -/
theorem stepCapacity_told (hfree : 0 < free) (htold : state.told = true) :
    stepCapacity (some state) since free notified now = ⟨state, since, 0⟩ := by
  unfold stepCapacity
  rw [if_neg (Nat.pos_iff_ne_zero.1 hfree)]
  exact if_pos htold

/-- Cards that appeared are told of once they have settled and the last notice has rested. -/
theorem stepCapacity_fresh (hfree : 0 < free) (htold : state.told = false) :
    stepCapacity (some state) since free notified now =
      ⟨if capacityStable ≤ now - since.getD now ∧ rested notified now = true then .active
        else .pending, some (since.getD now), 0⟩ := by
  unfold stepCapacity
  rw [if_neg (Nat.pos_iff_ne_zero.1 hfree)]
  dsimp only
  rw [htold, if_neg Bool.false_ne_true]
  simp

end Rule

section Look

variable {R : Sight → Sight → Prop} {log : List Sight} {settling : Bool} {free : ℕ} {n : Sight}
  (hfree : look.freeCards settling p = some free) (hn : n = ⟨look.now, free, toldOf p rows⟩)
  (hnext : (∃ r ∈ openOf (.capacity p) rows, r.state = .pending) → 0 < free →
    ∀ b ∈ log.head?, R n b)

/-- Somebody is told of the group by these rows. -/
def SomeTold (l : List Alert) : Prop := ∃ r ∈ l, r.state.told = true

/-- The notice a look gives is earned. -/
def Earned (R : Sight → Sight → Prop) (p : Pool) (rows : List Alert) (n : Sight)
    (log : List Sight) : Prop :=
  ∃ oldest empty older, Stretch Fresh R (n :: log) oldest (empty :: older) ∧ empty.free = 0 ∧
    capacityStable ≤ n.time - oldest.time ∧ RestedAll p rows n.time

/-- The look finds the group stable since it was empty, and rested. -/
def Due (p : Pool) (rows : List Alert) (n : Sight) (log : List Sight) : Prop :=
  ∃ oldest empty older,
    Stretch (fun s => 0 < s.free) (fun _ _ => True) (n :: log) oldest (empty :: older) ∧
      empty.free = 0 ∧ capacityStable ≤ n.time - oldest.time ∧ RestedAll p rows n.time

/-- Nothing is due at a look that finds the group empty. -/
theorem not_due (h0 : n.free = 0) : ¬ Due p rows n log := by
  rintro ⟨oldest, empty, older, hstretch, -⟩
  obtain ⟨b, rest, hb, hpos⟩ := hstretch.newest
  cases hb
  exact absurd h0 (Nat.pos_iff_ne_zero.1 hpos)

theorem not_someTold {r : Alert} (h : r.state.told = false) : ¬ SomeTold [r] := by
  rintro ⟨x, hx, htold⟩
  rw [List.mem_singleton.1 hx, h] at htold
  cases htold

include hfree hn hnext

/-- **One look.** It keeps what the row says, gives a notice only when it is earned, and leaves
somebody told when one is due. -/
theorem stocked_look (h : Stocked R log (openOf (.capacity p) rows)) :
    Stocked R (n :: log) (openOf (.capacity p) (capacityGroup settling look rows p)) ∧
      (toldOf p rows = false →
        SomeTold (openOf (.capacity p) (capacityGroup settling look rows p)) →
          Earned R p rows n log) ∧
      (Due p rows n log →
        SomeTold (openOf (.capacity p) (capacityGroup settling look rows p))) := by
  have htime : n.time = look.now := by rw [hn]
  have hcount : n.free = free := by rw [hn]
  have hrested : RestedAll p rows n.time ↔
      rested (lastNotified (rowsOf (.capacity p) rows)) look.now = true := by
    rw [rested_lastNotified, htime]
    rfl
  generalize hopen : openOf (.capacity p) rows = l at h hnext
  cases h with
  | unseen hseen =>
    rw [openOf_capacityGroup_none hopen hfree]
    by_cases h0 : free = 0
    · rw [if_pos h0]
      exact ⟨.armed rfl rfl (hcount.trans h0), fun _ h => absurd h (not_someTold rfl),
        fun h => absurd h (not_due (hcount.trans h0))⟩
    · rw [if_neg h0]
      have hall : ∀ s ∈ n :: log, 0 < s.free := fun s hs => by
        rcases List.mem_cons.1 hs with rfl | hs
        · omega
        · exact hseen s hs
      refine ⟨.unseen hall, fun _ h => ?_, fun h => ?_⟩
      · obtain ⟨r, hr, -⟩ := h
        cases hr
      · obtain ⟨oldest, empty, older, hstretch, hempty, -⟩ := h
        have hpos := hall empty (hstretch.mem_of_mem_older List.mem_cons_self)
        omega
  | armed hstate hsince hs =>
    rename_i s older r
    have hfresh : r.state.told = false := by rw [hstate]; rfl
    rw [openOf_capacityGroup_some hopen hfree rfl]
    rcases Nat.eq_zero_or_pos free with h0 | hpos
    · rw [h0, stepCapacity_empty, hfresh]
      exact ⟨.armed rfl rfl (hcount.trans h0), fun _ h => absurd h (not_someTold rfl),
        fun h => absurd h (not_due (hcount.trans h0))⟩
    · -- The look after the empty one is the first of the edge, and an edge has to last.
      have hshort : ¬ (capacityStable ≤ look.now - (r.pendingSince).getD look.now ∧
          rested (lastNotified (rowsOf (.capacity p) rows)) look.now = true) := fun h => by
        have hlt := h.1
        rw [hsince, Option.getD_none, sub_self] at hlt
        exact absurd hlt (by decide)
      rw [stepCapacity_fresh hpos hfresh, if_neg hshort, hsince]
      have hfirst : Stretch Fresh R (n :: s :: older) n (s :: older) := by
        refine .start ⟨hcount ▸ hpos, ?_⟩
        rw [hn]
        exact (toldOf_singleton hopen).trans hfresh
      refine ⟨.pending rfl (by rw [htime]; rfl) hfirst hs, fun _ h => ?_, fun h => ?_⟩
      · obtain ⟨x, hx, htold⟩ := h
        rw [if_neg (by intro h; cases h), List.mem_singleton] at hx
        rw [hx] at htold
        cases htold
      · obtain ⟨oldest, empty, older', hstretch, -, hstable, -⟩ := h
        cases hstretch with
        | start _ =>
          rw [sub_self] at hstable
          exact absurd hstable (by decide)
        | extend _ _ hrest =>
          obtain ⟨b, rest, hb, hb'⟩ := hrest.newest
          cases hb
          omega
  | pending hstate hsince hstretch hempty =>
    rename_i older oldest empty r
    have hfresh : r.state.told = false := by rw [hstate]; rfl
    rw [openOf_capacityGroup_some hopen hfree rfl]
    rcases Nat.eq_zero_or_pos free with h0 | hpos
    · rw [h0, stepCapacity_empty, hfresh]
      exact ⟨.armed rfl rfl (hcount.trans h0), fun _ h => absurd h (not_someTold rfl),
        fun h => absurd h (not_due (hcount.trans h0))⟩
    · have hnew : Fresh n := by
        refine ⟨hcount ▸ hpos, ?_⟩
        rw [hn]
        exact (toldOf_singleton hopen).trans hfresh
      have hlonger : Stretch Fresh R (n :: log) oldest (empty :: older) :=
        hstretch.cons hnew (hnext ⟨r, List.mem_singleton_self r, hstate⟩ hpos)
      rw [stepCapacity_fresh hpos hfresh, hsince, Option.getD_some]
      by_cases hfire : capacityStable ≤ look.now - oldest.time ∧
          rested (lastNotified (rowsOf (.capacity p) rows)) look.now = true
      · rw [if_pos hfire]
        refine ⟨.told rfl, fun _ _ => ⟨oldest, empty, older, hlonger, hempty, ?_,
          hrested.2 hfire.2⟩, fun _ => ⟨_, List.mem_singleton_self _, rfl⟩⟩
        rw [htime]
        exact hfire.1
      · rw [if_neg hfire]
        refine ⟨.pending rfl rfl hlonger hempty, fun _ h => ?_, fun h => ?_⟩
        · obtain ⟨x, hx, htold⟩ := h
          rw [if_neg (by intro h; cases h), List.mem_singleton] at hx
          rw [hx] at htold
          cases htold
        · obtain ⟨oldest', empty', older', hstretch', hempty', hstable, hrest⟩ := h
          have hsame := (hlonger.imp (fun _ h => h.1) fun _ _ _ => trivial).unique hstretch'
            (fun b hb => by cases hb; omega) (fun b hb => by cases hb; omega)
          rw [hsame.1, ← htime] at hfire
          exact absurd ⟨hstable, htime ▸ hrested.1 hrest⟩ hfire
  | told htold =>
    rename_i r
    rw [openOf_capacityGroup_some hopen hfree rfl]
    have hbefore : toldOf p rows = true := (toldOf_singleton hopen).trans htold
    rcases Nat.eq_zero_or_pos free with h0 | hpos
    · rw [h0, stepCapacity_empty, htold]
      refine ⟨.armed rfl rfl (hcount.trans h0), fun h => ?_, fun h => ?_⟩
      · rw [hbefore] at h
        cases h
      · exact absurd h (not_due (hcount.trans h0))
    · rw [stepCapacity_told hpos htold]
      have hopen' : r.state ≠ .resolved := fun h => by rw [h] at htold; cases htold
      rw [if_neg hopen']
      refine ⟨.told htold, fun h => ?_, fun _ => ⟨_, List.mem_singleton_self _, htold⟩⟩
      rw [hbefore] at h
      cases h

end Look

/-! ## One event -/

theorem toldOf_rowsOf : toldOf p (rowsOf (.capacity p) rows) = toldOf p rows := by
  unfold toldOf
  rw [openOf_rowsOf]

theorem restedAll_rowsOf {now : Time} :
    RestedAll p (rowsOf (.capacity p) rows) now ↔ RestedAll p rows now := by
  unfold RestedAll rowsOf
  rw [List.filter_filter]
  simp

/-- A note on the row changes nothing it says. -/
theorem Stocked.map {R : Sight → Sight → Prop} {log : List Sight} {l : List Alert}
    {g : Alert → Alert} (hg : ∀ r, Alike r (g r)) (h : Stocked R log l) :
    Stocked R log (l.map g) := by
  cases h with
  | unseen hseen => exact .unseen hseen
  | armed hstate hsince hs =>
    exact .armed ((hg _).armed.2 hstate) ((hg _).pendingSince.trans hsince) hs
  | pending hstate hsince hstretch hempty =>
    exact .pending ((hg _).pending.2 hstate) ((hg _).pendingSince.trans hsince) hstretch hempty
  | told htold => exact .told ((hg _).told.trans htold)

/-- The open row of the group says what the looks say. -/
def StockedRow (cfg : Config) (p : Pool) (i : Inbox) : Prop :=
  Stocked (Close cfg) (sights p i.log) (openOf (.capacity p) i.rows)

/-- An event that is no look at the group, and tells nobody more or less, gives no notice and
misses none. -/
theorem noticed_of_quiet {i' : Inbox} (hsights : sights p i'.log = sights p i.log)
    (htells : i'.Tells (.capacity p) ↔ i.Tells (.capacity p)) : Noticed cfg p i i' := by
  refine ⟨fun hnot h => absurd (htells.1 h) hnot, fun newest hnew => ?_⟩
  have hlen := congrArg List.length hnew
  rw [hsights, List.length_cons] at hlen
  omega

/-- One event keeps what the row of a group says, and does to its notice what it may. -/
theorem noticed_step (h : StockedRow cfg p i) {ev : Event} (hu : Steady cfg p i ev) :
    StockedRow cfg p (i.step cfg ev) ∧ Noticed cfg p i (i.step cfg ev) := by
  have hquiet : openOf (.capacity p) (i.step cfg ev).rows = openOf (.capacity p) i.rows →
      sights p (i.step cfg ev).log = sights p i.log →
        StockedRow cfg p (i.step cfg ev) ∧ Noticed cfg p i (i.step cfg ev) := by
    intro hrows hsights
    refine ⟨?_, noticed_of_quiet hsights ?_⟩
    · unfold StockedRow
      rw [hrows, hsights]
      exact h
    · unfold Inbox.Tells
      rw [hrows]
  cases ev with
  | evaluate look committed =>
    cases hdue : i.throttled look.now with
    | true =>
      have hsame : i.step cfg (.evaluate look committed) = i := step_throttled hdue
      exact hquiet (by rw [hsame]) (by rw [hsame])
    | false =>
      cases committed with
      | false =>
        have hsame : i.step cfg (.evaluate look false) = _ := step_rolledBack hdue
        exact hquiet (by rw [hsame]) (by rw [hsame])
      | true =>
        have hstep : i.step cfg (.evaluate look true) = _ := step_committed hdue
        have hopen : openOf (.capacity p) (i.step cfg (.evaluate look true)).rows =
            openOf (.capacity p) (capacityGroup (i.settling cfg look.now) look
              (rowsOf (.capacity p) i.rows) p) := by
          rw [hstep, ← openOf_rowsOf, ← rowsOf_evaluated_capacity]
        have hlog : sights p (i.step cfg (.evaluate look true)).log =
            (look.freeCards (i.settling cfg look.now) p).elim (sights p i.log)
              fun free => ⟨look.now, free, toldOf p i.rows⟩ :: sights p i.log := by
          rw [hstep]
          unfold sights
          rw [List.filterMap_cons]
          unfold Evaluation.sight
          dsimp only
          cases look.freeCards (i.settling cfg look.now) p <;> rfl
        cases hfree : look.freeCards (i.settling cfg look.now) p with
        | none =>
          -- The group is passed over: its rows stay as they are.
          refine hquiet ?_ (by rw [hlog, hfree, Option.elim_none])
          rw [hopen]
          unfold capacityGroup
          rw [hfree]
          exact openOf_rowsOf
        | some free =>
          rw [hfree, Option.elim_some] at hlog
          have hbefore : Stocked (Close cfg) (sights p i.log)
              (openOf (.capacity p) (rowsOf (.capacity p) i.rows)) := by
            rw [openOf_rowsOf]
            exact h
          obtain ⟨hkept, hearned, hheard⟩ := stocked_look hfree
            (congrArg (Sight.mk look.now free) toldOf_rowsOf.symm)
            (fun hp hpos last hlast => hu hdue free hfree hpos (openOf_rowsOf ▸ hp) last hlast)
            hbefore
          refine ⟨?_, fun hnot htells => ?_, fun newest hnew oldest empty older hstretch hempty
            hstable hrest => ?_⟩
          · unfold StockedRow
            rw [hopen, hlog]
            exact hkept
          · have huntold : toldOf p (rowsOf (.capacity p) i.rows) = false := by
              rw [toldOf_rowsOf, Bool.eq_false_iff]
              exact fun htold => hnot (toldOf_eq_true.1 htold)
            unfold Inbox.Tells at htells
            rw [hopen] at htells
            obtain ⟨oldest, empty, older, hstretch, hempty, hstable, hrest⟩ :=
              hearned huntold htells
            rw [hlog]
            exact ⟨_, rfl, oldest, empty, older, hstretch, hempty, hstable,
              restedAll_rowsOf.1 hrest⟩
          · rw [hlog] at hnew hstretch
            cases hnew
            unfold Inbox.Tells
            rw [hopen]
            exact hheard ⟨oldest, empty, older, hstretch, hempty, hstable,
              restedAll_rowsOf.2 hrest⟩
  | mark actor alertIds notified acked now =>
    obtain ⟨g, hg, hrows, -, hlog⟩ := mark_rows (i := i) actor alertIds notified acked now
    have hopen : openOf (.capacity p) (i.step cfg (.mark actor alertIds notified acked now)).rows =
        (openOf (.capacity p) i.rows).map g := by
      unfold Inbox.step
      dsimp only
      rw [hrows, openOf_map hg]
    have hlog' : (i.step cfg (.mark actor alertIds notified acked now)).log = i.log := hlog
    refine ⟨?_, noticed_of_quiet (by rw [hlog']) (tells_of_map hg hopen)⟩
    unfold StockedRow
    rw [hopen, hlog']
    exact Stocked.map hg h
  | reclaim lease token message now =>
    exact hquiet (openOf_reclaim_ne (by intro h; cases h)) rfl
  | restart => exact hquiet rfl rfl

/-! ## Runs -/

/-- Every event of a run does to the group's notice what it may. -/
def NoticedRun (cfg : Config) (p : Pool) (es : List Event) : Prop :=
  ∀ before ev after, es = before ++ ev :: after →
    Noticed cfg p (Run.run (Inbox.step cfg) {} before)
      ((Run.run (Inbox.step cfg) {} before).step cfg ev)

/-- **Capacity notices** are earned and not lost in every run whose looks at a pending group come
within the staleness limit of each other. -/
theorem noticed {es : List Event} (h : Run.Along (Inbox.step cfg) (Steady cfg p) {} es) :
    NoticedRun cfg p es := by
  rintro before ev after rfl
  obtain ⟨hbefore, hev, -⟩ := Run.along_append.1 h
  have hkept : StockedRow cfg p (Run.run (Inbox.step cfg) {} before) := by
    refine Run.run_inv (I := StockedRow cfg p) (fun i e hi he => (noticed_step hi he).1) ?_ hbefore
    exact .unseen fun s hs => absurd hs List.not_mem_nil
  exact (noticed_step hkept hev).2

/-! ## An edge that settles, and one that sleeps -/

instance (cfg : Config) (p : Pool) (i : Inbox) : DecidablePred (Steady cfg p i)
  | .evaluate look true => inferInstanceAs (Decidable (i.throttled look.now = false →
      ∀ free ∈ look.freeCards (i.settling cfg look.now) p, 0 < free →
        (∃ r ∈ openOf (.capacity p) i.rows, r.state = .pending) →
          ∀ last ∈ (sights p i.log).head?, look.now - last.time ≤ cfg.staleAfter))
  | .evaluate _ false => isTrue trivial
  | .mark .. => isTrue trivial
  | .reclaim .. => isTrue trivial
  | .restart => isTrue trivial

/-- A server with one card, seen at this second. -/
def oneCardAt (second : ℤ) (state : GpuState) : Look :=
  { now := seconds second, signals := []
    cards := [⟨"alpha/GPU-0", "alpha", none, state, some (seconds second)⟩] }

/-- The card is busy, and comes free forty seconds later. -/
def freed : List Event :=
  [.evaluate (oneCardAt 0 .busyUnmanaged) true, .evaluate (oneCardAt 40 .available) true]

/-- Seen free for two minutes it is told of. -/
theorem freed_noticed :
    NoticedRun plainConfig (.server "alpha")
      (freed ++ [80, 120, 160].map fun second => .evaluate (oneCardAt second .available) true) ∧
    (Run.run (Inbox.step plainConfig) {}
      (freed ++ [80, 120, 160].map fun second =>
        .evaluate (oneCardAt second .available) true)).Tells (.capacity (.server "alpha")) :=
  ⟨noticed (by decide +kernel), by decide +kernel⟩

/-- Seen free once, and again after a quarter of an hour in which nobody looked, it is told of at
once. -/
theorem gap_counted : ¬ ∀ cfg p es, InOrder es → NoticedRun cfg p es := by
  intro h
  have hrun :=
    h plainConfig (.server "alpha") (freed ++ [.evaluate (oneCardAt 940 .available) true])
    (by unfold InOrder; decide +kernel) freed _ [] rfl
  obtain ⟨newest, hnewest, oldest, empty, older, hstretch, -, hstable, -⟩ :=
    hrun.earned (by decide +kernel) (by decide +kernel)
  have hsights : sights (.server "alpha") ((Run.run (Inbox.step plainConfig) {} freed).step
      plainConfig (.evaluate (oneCardAt 940 .available) true)).log =
        [⟨seconds 940, 1, false⟩, ⟨seconds 40, 1, false⟩, ⟨seconds 0, 0, false⟩] := by
    decide +kernel
  rw [hsights] at hnewest hstretch
  cases hnewest
  cases hstretch with
  | start _ =>
    rw [sub_self] at hstable
    exact absurd hstable (by decide)
  | extend _ hnear _ => exact absurd hnear (by unfold Close; decide)

end ServerPilot.Reminders
