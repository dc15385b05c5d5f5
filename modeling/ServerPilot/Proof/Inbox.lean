import ServerPilot.Lib.Run
import ServerPilot.Spec.Alerts

/-!
# The rows of one key

`rowsOf k` are the rows with one dedupe key, `openOf k` the open ones among them. Each
part of an evaluation leaves the rows of every key but its own alone, and what it makes
of a key's rows depends on those rows only: `openOf_remind_none`, `openOf_remind_some`
for a condition, `rowsOf_evaluated_capacity` for a group of cards. From it no key ever
has two open rows (`once_run`).
-/

namespace ServerPilot.Reminders

variable {cfg : Config} {i : Inbox} {rows : List Alert} {look : Look} {resuming settling : Bool}
  {k : DedupeKey} {c : Condition} {p : Pool} {r : Alert} {s : Signal}

/-- The rows with one dedupe key. -/
def rowsOf (k : DedupeKey) (rows : List Alert) : List Alert :=
  rows.filter fun r => decide (r.dedupeKey = k)

/-- The open ones. -/
def openOf (k : DedupeKey) (rows : List Alert) : List Alert :=
  rows.filter fun r => r.isOpen && decide (r.dedupeKey = k)

theorem mem_openOf : r ∈ openOf k rows ↔ r ∈ rows ∧ r.isOpen = true ∧ r.dedupeKey = k := by
  unfold openOf
  rw [List.mem_filter, Bool.and_eq_true, decide_eq_true_iff]

theorem openOf_append {l : List Alert} : openOf k (rows ++ l) = openOf k rows ++ openOf k l :=
  List.filter_append ..

theorem rowsOf_append {l : List Alert} : rowsOf k (rows ++ l) = rowsOf k rows ++ rowsOf k l :=
  List.filter_append ..

/-- The open rows of a key are found among the rows of that key. -/
theorem openOf_rowsOf : openOf k (rowsOf k rows) = openOf k rows := by
  unfold openOf rowsOf
  rw [List.filter_filter]
  refine List.filter_congr fun r _ => ?_
  cases r.isOpen <;> simp

/-- What a pass leaves of one kind comes from the rows of a kind, when it brings in no others. -/
theorem filter_filterMap_of_imp {α β : Type*} {g : α → Option β} {f : β → Bool} {q : α → Bool}
    {l : List α}
    (h : ∀ x ∈ l, ∀ y ∈ g x, f y = true → q x = true) :
    (l.filterMap g).filter f = ((l.filter q).filterMap g).filter f := by
  induction l with
  | nil => rfl
  | cons x l ih =>
    have ihl := ih fun y hy => h y (List.mem_cons_of_mem x hy)
    cases hq : q x with
    | true =>
      rw [List.filter_cons_of_pos hq, List.filterMap_cons, List.filterMap_cons]
      cases g x with
      | none => exact ihl
      | some y =>
        dsimp only
        rw [List.filter_cons, List.filter_cons, ihl]
    | false =>
      rw [List.filter_cons_of_neg (by rw [hq]; exact Bool.false_ne_true), List.filterMap_cons]
      cases hg : g x with
      | none => exact ihl
      | some y =>
        dsimp only
        have hf : f y ≠ true := fun hf => by
          have hqx := h x List.mem_cons_self y hg hf
          rw [hq] at hqx
          cases hqx
        rw [List.filter_cons_of_neg hf, ihl]

theorem filter_map_of_imp {α : Type*} {g : α → α} {f q : α → Bool} {l : List α}
    (h : ∀ x ∈ l, f (g x) = true → q x = true) :
    (l.map g).filter f = ((l.filter q).map g).filter f := by
  have hpass := filter_filterMap_of_imp (g := some ∘ g) (f := f) (q := q) (l := l)
    fun x hx y hy hf => h x hx (by cases hy; exact hf)
  rwa [List.filterMap_eq_map] at hpass

/-! ## One row -/

/-- Keeping a row quiet changes nothing else of it. -/
theorem present_eq {now : Time} {state : AlertState} {since : Option Time} :
    r.present rows resuming now s state since =
      { r.advanced resuming now s state since with
        notifiedAt := (r.present rows resuming now s state since).notifiedAt } := by
  unfold Alert.present
  dsimp only
  split <;> rfl

@[simp] theorem present_dedupeKey {now : Time} {state : AlertState} {since : Option Time} :
    (r.present rows resuming now s state since).dedupeKey = r.dedupeKey := by
  rw [present_eq]; rfl

@[simp] theorem present_leaseId {now : Time} {state : AlertState} {since : Option Time} :
    (r.present rows resuming now s state since).leaseId = r.leaseId := by
  rw [present_eq]; rfl

@[simp] theorem present_state {now : Time} {state : AlertState} {since : Option Time} :
    (r.present rows resuming now s state since).state =
      (stepPresent state (if resuming then none else since) s.condition.hold now).state := by
  rw [present_eq]; rfl

@[simp] theorem present_pendingSince {now : Time} {state : AlertState} {since : Option Time} :
    (r.present rows resuming now s state since).pendingSince =
      (stepPresent state (if resuming then none else since) s.condition.hold now).pendingSince := by
  rw [present_eq]; rfl

@[simp] theorem present_payload {now : Time} {state : AlertState} {since : Option Time} :
    (r.present rows resuming now s state since).payload =
      ⟨some 0, s.condition.payloadClearSuccesses⟩ := by
  rw [present_eq]; rfl

/-- A row whose condition holds is open afterwards. -/
theorem stepPresent_state (state : AlertState) (since : Option Time) (hold now : Time) :
    (stepPresent state since hold now).state = .pending ∨
      (stepPresent state since hold now).state.told = true := by
  unfold stepPresent
  split
  · rename_i htold
    exact Or.inr htold
  · dsimp only
    split
    · exact Or.inr rfl
    · exact Or.inl rfl

theorem isOpen_of_told {state : AlertState} (h : state.told = true) : state.isOpen = true := by
  cases state
  all_goals first | rfl | cases h

theorem present_isOpen {now : Time} {state : AlertState} {since : Option Time} :
    (r.present rows resuming now s state since).isOpen = true := by
  unfold Alert.isOpen
  rw [present_state]
  rcases stepPresent_state state (if resuming then none else since) s.condition.hold now with
    h | h
  · rw [h]; rfl
  · exact isOpen_of_told h

/-- A row whose condition is over keeps its key. -/
theorem absent_dedupeKey {x : Alert} (h : x ∈ r.absent look) : x.dedupeKey = r.dedupeKey := by
  unfold Alert.absent at h
  split at h
  · cases h
  · split at h
    · cases h; rfl
    · cases h; rfl

theorem reminded_dedupeKey {x : Alert} (h : x ∈ r.reminded rows resuming look) :
    x.dedupeKey = r.dedupeKey := by
  unfold Alert.reminded at h
  split at h
  · cases h; rfl
  · split at h
    · split at h
      · cases h; exact present_dedupeKey
      · exact absent_dedupeKey h
    · cases h; rfl

/-! ## The conditions -/

theorem signal?_condition (h : look.signal? c = some s) : s.condition = c := by
  have hmem := List.mem_of_getLast? h
  rw [List.mem_filter, decide_eq_true_iff] at hmem
  exact hmem.2

theorem signal?_isSome :
    (look.signal? c).isSome = true ↔ c ∈ look.signals.map Signal.condition := by
  unfold Look.signal?
  rw [List.getLast?_isSome, List.mem_map]
  constructor
  · intro hne
    obtain ⟨s, hs⟩ := List.exists_mem_of_ne_nil _ hne
    rw [List.mem_filter, decide_eq_true_iff] at hs
    exact ⟨s, hs⟩
  · rintro ⟨s, hs, hc⟩
    exact List.ne_nil_of_mem (List.mem_filter.2 ⟨hs, decide_eq_true hc⟩)

theorem mem_conditions : c ∈ look.conditions ↔ (look.signal? c).isSome = true := by
  unfold Look.conditions
  rw [signal?_isSome, List.mem_reverse, List.mem_dedup, List.mem_reverse]

theorem nodup_conditions : look.conditions.Nodup := by
  unfold Look.conditions
  exact List.nodup_reverse.2 (List.nodup_dedup _)

theorem standing?_eq : standing? rows c = (openOf (.condition c) rows).getLast? := rfl

/-- Rows of a key no condition has are left alone by the reminders. -/
theorem rowsOf_remind (hk : ∀ c, k ≠ .condition c) :
    rowsOf k (remind resuming look rows) = rowsOf k rows := by
  unfold remind rowsOf
  rw [List.filter_append]
  have hopened : (opened rows resuming look).filter (fun r => decide (r.dedupeKey = k)) = [] := by
    rw [List.filter_eq_nil_iff]
    intro x hx
    unfold opened at hx
    obtain ⟨c, -, hc⟩ := List.mem_filterMap.1 hx
    obtain ⟨s, -, rfl⟩ := Option.map_eq_some_iff.1 hc
    rw [decide_eq_true_iff, present_dedupeKey]
    exact fun h => hk c h.symm
  rw [hopened, List.append_nil, filter_filterMap_of_imp (q := fun r => decide (r.dedupeKey = k))]
  · have hsame : (rows.filter fun r => decide (r.dedupeKey = k)).filterMap
        (Alert.reminded rows resuming look) = rows.filter fun r => decide (r.dedupeKey = k) := by
      refine (List.filterMap_congr fun r hr => ?_).trans List.filterMap_some
      have hkey := of_decide_eq_true (List.mem_filter.1 hr).2
      unfold Alert.reminded Alert.condition?
      split
      · rfl
      · rename_i c hc
        split at hc
        · rename_i c' hc'
          exact absurd (hkey.symm.trans hc') (hk c')
        · cases hc
    rw [hsame, List.filter_filter]
    simp
  · intro r _ x hx hkey
    rw [decide_eq_true_iff] at hkey ⊢
    rw [← hkey, reminded_dedupeKey hx]

/-- The open rows of a condition come from its open rows and the row opened for it. -/
theorem openOf_remind : openOf (.condition c) (remind resuming look rows) =
    openOf (.condition c) ((openOf (.condition c) rows).filterMap
      (Alert.reminded rows resuming look)) ++
    openOf (.condition c) (opened rows resuming look) := by
  unfold remind
  rw [openOf_append]
  congr 1
  refine filter_filterMap_of_imp fun r _ x hx hopen => ?_
  rw [Bool.and_eq_true, decide_eq_true_iff] at hopen ⊢
  have hkey := (reminded_dedupeKey hx).symm.trans hopen.2
  refine ⟨?_, hkey⟩
  -- A row that is not open is no entry of its key, and stays as it is.
  by_contra hclosed
  have hentry : standing? rows c ≠ some r := fun h => by
    rw [standing?_eq] at h
    exact hclosed (mem_openOf.1 (List.mem_of_getLast? h)).2.1
  unfold Alert.reminded Alert.condition? at hx
  rw [hkey] at hx
  dsimp only at hx
  rw [if_neg hentry] at hx
  cases hx
  exact hclosed hopen.1

/-- Among rows opened each for a key of its own, a key finds its own. -/
theorem filter_filterMap_condition {g : Condition → Option Alert} {l : List Condition}
    (hl : l.Nodup) (hg : ∀ c, ∀ x ∈ g c, x.dedupeKey = .condition c ∧ x.isOpen = true) :
    openOf (.condition c) (l.filterMap g) = if c ∈ l then (g c).toList else [] := by
  unfold openOf
  rw [filter_filterMap_of_imp (q := fun c' => c' == c)]
  · rw [List.filter_beq]
    by_cases hc : c ∈ l
    · rw [if_pos hc, List.count_eq_one_of_mem hl hc]
      cases hgc : g c with
      | none => simp [hgc]
      | some x =>
        have hx := hg c x hgc
        simp [hgc, hx.1, hx.2]
    · rw [if_neg hc, List.count_eq_zero_of_not_mem hc]
      rfl
  · intro c' _ x hx hopen
    rw [Bool.and_eq_true, decide_eq_true_iff, (hg c' x hx).1] at hopen
    rw [beq_iff_eq]
    cases hopen.2
    rfl

/-- A condition without an open row that holds gets one, and no other does. -/
theorem openOf_opened : openOf (.condition c) (opened rows resuming look) =
    if openOf (.condition c) rows = [] then
      ((look.signal? c).map fun s =>
        (newReminder (look.token (.condition c)) (.condition c) s.message s.leaseId
          look.now).present rows resuming look.now s .pending none).toList
    else [] := by
  unfold opened
  rw [filter_filterMap_condition (nodup_conditions.filter _)]
  · have hmem : c ∈ look.conditions.filter (fun c => (standing? rows c).isNone) ↔
        (look.signal? c).isSome = true ∧ openOf (.condition c) rows = [] := by
      rw [List.mem_filter, mem_conditions, standing?_eq, Option.isNone_iff_eq_none,
        List.getLast?_eq_none_iff]
    by_cases hnone : openOf (.condition c) rows = []
    · rw [if_pos hnone]
      cases hs : look.signal? c with
      | none =>
        rw [hs] at hmem
        rw [if_neg fun h => absurd (hmem.1 h).1 Bool.false_ne_true]
        rfl
      | some s =>
        rw [if_pos (hmem.2 ⟨by rw [hs]; rfl, hnone⟩)]
    · rw [if_neg hnone, if_neg fun h => hnone (hmem.1 h).2]
  · intro c' x hx
    obtain ⟨s, -, rfl⟩ := Option.map_eq_some_iff.1 hx
    exact ⟨present_dedupeKey, present_isOpen⟩

/-- A condition without an open row: it gets one if it holds. -/
theorem openOf_remind_none (h : openOf (.condition c) rows = []) :
    openOf (.condition c) (remind resuming look rows) =
      ((look.signal? c).map fun s =>
        (newReminder (look.token (.condition c)) (.condition c) s.message s.leaseId
          look.now).present rows resuming look.now s .pending none).toList := by
  rw [openOf_remind, openOf_opened, if_pos h, h]
  rfl

/-- A condition with an open row: the row is moved on. -/
theorem openOf_remind_some (h : openOf (.condition c) rows = [r]) :
    openOf (.condition c) (remind resuming look rows) =
      match look.signal? c with
      | some s => [r.present rows resuming look.now s r.state r.pendingSince]
      | none => (r.absent look).toList.filter Alert.isOpen := by
  have hr := mem_openOf.1 (h ▸ List.mem_singleton_self r)
  have hentry : standing? rows c = some r := by rw [standing?_eq, h]; rfl
  have hstep : r.reminded rows resuming look =
      match look.signal? c with
      | some s => some (r.present rows resuming look.now s r.state r.pendingSince)
      | none => r.absent look := by
    unfold Alert.reminded Alert.condition?
    rw [hr.2.2]
    exact if_pos hentry
  rw [openOf_remind, openOf_opened, h, if_neg (List.cons_ne_nil _ _), List.append_nil,
    List.filterMap_cons, hstep]
  cases look.signal? c with
  | some s =>
    dsimp only [List.filterMap_nil]
    refine List.filter_eq_self.2 fun x hx => ?_
    rw [List.mem_singleton.1 hx, present_isOpen, present_dedupeKey, hr.2.2]
    simp
  | none =>
    dsimp only
    cases habs : r.absent look with
    | none => rfl
    | some x =>
      have hkey := (absent_dedupeKey habs).trans hr.2.2
      refine List.filter_congr fun y hy => ?_
      rw [List.mem_singleton.1 hy, hkey]
      simp

/-! ## The groups of cards -/

/-- Rows updated in place leave the rows of the other keys alone. -/
theorem rowsOf_updWhere_ne {f : Alert → Alert} (hf : ∀ x, (f x).dedupeKey = x.dedupeKey)
    (hr : r.dedupeKey ≠ k) :
    rowsOf k (Rows.updWhere (fun x => decide (x = r)) f rows) = rowsOf k rows := by
  unfold rowsOf Rows.updWhere
  rw [filter_map_of_imp (q := fun x => decide (x.dedupeKey = k))]
  · have hsame : (rows.filter fun x => decide (x.dedupeKey = k)).map
        (fun x => if decide (x = r) = true then f x else x) =
          rows.filter fun x => decide (x.dedupeKey = k) := by
      refine (List.map_congr_left fun x hx => ?_).trans (List.map_id _)
      have hkey := of_decide_eq_true (List.mem_filter.1 hx).2
      rw [if_neg]
      · rfl
      · intro h
        exact hr (of_decide_eq_true h ▸ hkey)
    rw [hsame, List.filter_filter]
    simp
  · intro x _ hx
    rw [decide_eq_true_iff] at hx ⊢
    split at hx
    · exact (hf x).symm.trans hx
    · exact hx

/-- Rows updated in place keep their keys. -/
theorem rowsOf_updWhere {f : Alert → Alert} {q : Alert → Bool}
    (hf : ∀ x, (f x).dedupeKey = x.dedupeKey) :
    rowsOf k (Rows.updWhere q f rows) = Rows.updWhere q f (rowsOf k rows) := by
  unfold rowsOf Rows.updWhere
  rw [List.filter_map]
  congr 1
  refine List.filter_congr fun x _ => ?_
  rw [Function.comp]
  split
  · rw [hf x]
  · rfl

/-- One group of cards leaves the rows of every other key alone. -/
theorem rowsOf_capacityGroup_ne (hk : k ≠ .capacity p) :
    rowsOf k (capacityGroup settling look rows p) = rowsOf k rows := by
  have hnew : rowsOf k [armed look p] = [] := by
    unfold rowsOf
    rw [List.filter_eq_nil_iff]
    intro x hx
    rw [List.mem_singleton.1 hx, decide_eq_true_iff]
    exact fun h => hk h.symm
  unfold capacityGroup
  cases hfree : look.freeCards settling p with
  | none => rfl
  | some free =>
    dsimp only
    split
    · split
      · rfl
      · rw [rowsOf_append, hnew, List.append_nil]
    · rename_i row hrow
      have hkey : row.dedupeKey ≠ k := by
        have hfound := List.find?_some hrow
        rw [Bool.and_eq_true, decide_eq_true_iff] at hfound
        exact fun h => hk (h.symm.trans hfound.2)
      split
      · rw [rowsOf_append, hnew, List.append_nil]
        exact rowsOf_updWhere_ne (by intro x; rfl) hkey
      · exact rowsOf_updWhere_ne (by intro x; rfl) hkey

/-- What one group of cards makes of its rows depends on its rows only. -/
theorem rowsOf_capacityGroup :
    rowsOf (.capacity p) (capacityGroup settling look rows p) =
      capacityGroup settling look (rowsOf (.capacity p) rows) p := by
  have hnew : rowsOf (.capacity p) [armed look p] = [armed look p] := by
    unfold rowsOf
    exact List.filter_eq_self.2 fun x hx => by
      rw [List.mem_singleton.1 hx]
      exact decide_eq_true rfl
  have hfind : (rowsOf (.capacity p) rows).find?
      (fun r => r.isOpen && decide (r.dedupeKey = .capacity p)) =
        rows.find? fun r => r.isOpen && decide (r.dedupeKey = .capacity p) := by
    have hopen : openOf (.capacity p) (rowsOf (.capacity p) rows) = openOf (.capacity p) rows :=
      openOf_rowsOf
    unfold openOf at hopen
    rw [← List.head?_filter, ← List.head?_filter, hopen]
  have hnotified : (rowsOf (.capacity p) rows).filter
      (fun r => decide (r.dedupeKey = .capacity p)) =
        rows.filter fun r => decide (r.dedupeKey = .capacity p) := by
    unfold rowsOf
    rw [List.filter_filter]
    simp
  unfold capacityGroup
  cases hfree : look.freeCards settling p with
  | none => rfl
  | some free =>
    dsimp only
    rw [hfind, hnotified]
    split
    · split
      · rfl
      · rw [rowsOf_append, hnew]
    · split
      · rw [rowsOf_append, hnew, rowsOf_updWhere (by intro x; rfl)]
      · exact rowsOf_updWhere (by intro x; rfl)

/-- A row moved on in place is the row of its key. -/
theorem openOf_updWhere {f : Alert → Alert} (h : openOf k rows = [r]) :
    openOf k (Rows.updWhere (fun x => decide (x = r)) f rows) = openOf k [f r] := by
  have hr : r.isOpen = true ∧ r.dedupeKey = k :=
    (mem_openOf.1 (h ▸ List.mem_singleton_self r)).2
  unfold openOf at h ⊢
  unfold Rows.updWhere
  rw [filter_map_of_imp (q := fun x => x.isOpen && decide (x.dedupeKey = k)), h]
  · simp
  · intro x _ hx
    dsimp only at hx
    split at hx
    · rename_i heq
      rw [of_decide_eq_true heq, hr.1, hr.2]
      simp
    · exact hx

theorem openOf_armed : openOf (.capacity p) [armed look p] = [armed look p] :=
  List.filter_eq_self.2 fun x hx => by
    rw [List.mem_singleton.1 hx, Bool.and_eq_true, decide_eq_true_iff]
    exact ⟨rfl, rfl⟩

/-- A group without an open row: one is armed when no card is free. -/
theorem openOf_capacityGroup_none {free : ℕ} (h : openOf (.capacity p) rows = [])
    (hfree : look.freeCards settling p = some free) :
    openOf (.capacity p) (capacityGroup settling look rows p) =
      if free = 0 then [armed look p] else [] := by
  have hfind : rows.find? (fun r => r.isOpen && decide (r.dedupeKey = .capacity p)) = none := by
    rw [← List.head?_filter]
    exact (congrArg List.head? h).trans rfl
  unfold capacityGroup
  rw [hfree]
  dsimp only
  rw [hfind]
  unfold stepCapacity
  by_cases h0 : free = 0
  · subst h0
    rw [if_pos rfl]
    exact (openOf_append.trans (by rw [h]; rfl)).trans openOf_armed
  · rw [if_neg h0]
    dsimp only [Option.map_none]
    rw [if_neg h0, if_pos (by intro h; cases h)]
    exact h

/-- A group with an open row: the row is moved on, and another one armed when it is over. -/
theorem openOf_capacityGroup_some {free : ℕ} {step : Step} (h : openOf (.capacity p) rows = [r])
    (hfree : look.freeCards settling p = some free)
    (hstep : step = stepCapacity (some r.state) r.pendingSince free
      (lastNotified (rowsOf (.capacity p) rows)) look.now) :
    openOf (.capacity p) (capacityGroup settling look rows p) =
      if step.state = .resolved then [armed look p] else [r.stocked look p free step] := by
  have hfind : rows.find? (fun r => r.isOpen && decide (r.dedupeKey = .capacity p)) = some r := by
    rw [← List.head?_filter]
    exact (congrArg List.head? h).trans rfl
  have hkey := (mem_openOf.1 (h ▸ List.mem_singleton_self r)).2.2
  unfold capacityGroup
  rw [hfree]
  dsimp only
  rw [hfind]
  dsimp only [Option.map_some, Option.bind_some]
  subst hstep
  by_cases hover : (stepCapacity (some r.state) r.pendingSince free
      (lastNotified (rowsOf (.capacity p) rows)) look.now).state = .resolved
  · rw [if_pos hover]
    refine (congrArg (openOf _) (if_pos hover)).trans ?_
    rw [openOf_append, openOf_armed, openOf_updWhere h]
    have hclosed : openOf (.capacity p)
        [{ r with state := AlertState.resolved, lastSeenAt := look.now }] = [] := by
      unfold openOf
      rw [List.filter_eq_nil_iff]
      intro x hx
      rw [List.mem_singleton.1 hx, Bool.and_eq_true]
      exact fun h => absurd h.1 Bool.false_ne_true
    rw [hclosed]
    rfl
  · rw [if_neg hover]
    refine (congrArg (openOf _) (if_neg hover)).trans ?_
    rw [openOf_updWhere h]
    refine List.filter_eq_self.2 fun x hx => ?_
    rw [List.mem_singleton.1 hx, Bool.and_eq_true, decide_eq_true_iff]
    exact ⟨decide_eq_true hover, hkey⟩

theorem mem_pools : p ∈ look.pools ↔ ∃ card ∈ look.cards, card.pool = p := by
  unfold Look.pools
  rw [List.mem_reverse, List.mem_dedup, List.mem_reverse, List.mem_map]

theorem nodup_pools : look.pools.Nodup := by
  unfold Look.pools
  exact List.nodup_reverse.2 (List.nodup_dedup _)

/-- A group without cards is passed over. -/
theorem freeCards_of_notMem (h : p ∉ look.pools) : look.freeCards settling p = none := by
  have hcards : look.cardsOf p = [] := by
    unfold Look.cardsOf
    rw [List.filter_eq_nil_iff]
    intro card hcard hpool
    exact h (mem_pools.2 ⟨card, hcard, of_decide_eq_true hpool⟩)
  unfold Look.freeCards
  rw [hcards]
  rfl

/-- The groups of one evaluation do not touch each other's rows. -/
theorem rowsOf_foldl_capacityGroup {l : List Pool} (hl : l.Nodup) :
    rowsOf (.capacity p) (l.foldl (capacityGroup settling look) rows) =
      if p ∈ l then capacityGroup settling look (rowsOf (.capacity p) rows) p
      else rowsOf (.capacity p) rows := by
  induction l generalizing rows with
  | nil => rfl
  | cons x l ih =>
    obtain ⟨hx, hl⟩ := List.nodup_cons.1 hl
    rw [List.foldl_cons, ih hl]
    by_cases heq : p = x
    · subst heq
      rw [if_neg hx, if_pos List.mem_cons_self, rowsOf_capacityGroup]
    · have hne : DedupeKey.capacity p ≠ .capacity x := fun h => heq (by cases h; rfl)
      rw [rowsOf_capacityGroup_ne hne]
      by_cases hp : p ∈ l
      · rw [if_pos hp, if_pos (List.mem_cons_of_mem _ hp)]
      · rw [if_neg hp, if_neg (List.not_mem_cons_of_ne_of_not_mem heq hp)]

theorem rowsOf_capacity_ne (hk : ∀ p, k ≠ .capacity p) :
    rowsOf k (capacity settling look rows) = rowsOf k rows := by
  unfold capacity
  refine Run.foldl_inv (I := fun l => rowsOf k l = rowsOf k rows) (fun l p _ hl => ?_) rfl
  rw [rowsOf_capacityGroup_ne (hk p), hl]

/-- What an evaluation makes of a group's rows. -/
theorem rowsOf_evaluated_capacity :
    rowsOf (.capacity p) (i.evaluated cfg look) =
      capacityGroup (i.settling cfg look.now) look (rowsOf (.capacity p) i.rows) p := by
  unfold Inbox.evaluated capacity
  rw [rowsOf_foldl_capacityGroup nodup_pools,
    rowsOf_remind (by intro c h; cases h)]
  by_cases hp : p ∈ look.pools
  · rw [if_pos hp]
  · rw [if_neg hp]
    unfold capacityGroup
    rw [freeCards_of_notMem hp]

/-- What it makes of the rows of a condition. -/
theorem openOf_evaluated_condition :
    openOf (.condition c) (i.evaluated cfg look) =
      openOf (.condition c) (remind (i.resuming cfg look.now) look i.rows) := by
  unfold Inbox.evaluated
  rw [← openOf_rowsOf, rowsOf_capacity_ne (by intro p h; cases h), openOf_rowsOf]

/-- A reclaim's reminder is left alone. -/
theorem rowsOf_evaluated_reclaimed {lease : String} {epoch : ℕ} :
    rowsOf (.reclaimed lease epoch) (i.evaluated cfg look) =
      rowsOf (.reclaimed lease epoch) i.rows := by
  unfold Inbox.evaluated
  rw [rowsOf_capacity_ne (by intro p h; cases h), rowsOf_remind (by intro c h; cases h)]

/-! ## Marked and reclaimed -/

/-- `m` is `r` with a note of who was told, at most. -/
structure Alike (r m : Alert) : Prop where
  dedupeKey : m.dedupeKey = r.dedupeKey
  pendingSince : m.pendingSince = r.pendingSince
  payload : m.payload = r.payload
  leaseId : m.leaseId = r.leaseId
  state : m.state = r.state ∨ r.state = .active ∧ m.state = .acked

namespace Alike

variable {m : Alert}

theorem refl (r : Alert) : Alike r r := ⟨rfl, rfl, rfl, rfl, Or.inl rfl⟩

theorem told (h : Alike r m) : m.state.told = r.state.told := by
  rcases h.state with heq | ⟨hr, hm⟩
  · rw [heq]
  · rw [hr, hm]; rfl

theorem isOpen (h : Alike r m) : m.isOpen = r.isOpen := by
  unfold Alert.isOpen
  rcases h.state with heq | ⟨hr, hm⟩
  · rw [heq]
  · rw [hr, hm]; rfl

theorem pending (h : Alike r m) : m.state = .pending ↔ r.state = .pending := by
  rcases h.state with heq | ⟨hr, hm⟩
  · rw [heq]
  · rw [hr, hm]
    exact ⟨fun h => (by cases h), fun h => (by cases h)⟩

theorem armed (h : Alike r m) : m.state = .armed ↔ r.state = .armed := by
  rcases h.state with heq | ⟨hr, hm⟩
  · rw [heq]
  · rw [hr, hm]
    exact ⟨fun h => (by cases h), fun h => (by cases h)⟩

end Alike

theorem marked_alike {actor : ActorContext} {notified acked : Bool} {now : Time} :
    Alike r (Inbox.marked actor notified acked now r) := by
  unfold Inbox.marked
  by_cases hn : notified = true ∧ r.notifiedAt = none
  · rw [if_pos hn]
    dsimp only
    split
    · rename_i h; exact ⟨rfl, rfl, rfl, rfl, Or.inr ⟨h.2, rfl⟩⟩
    · exact ⟨rfl, rfl, rfl, rfl, Or.inl rfl⟩
  · rw [if_neg hn]
    dsimp only
    split
    · rename_i h; exact ⟨rfl, rfl, rfl, rfl, Or.inr ⟨h.2, rfl⟩⟩
    · exact ⟨rfl, rfl, rfl, rfl, Or.inl rfl⟩

/-- `mark_reminders` makes notes on rows. -/
theorem mark_rows (actor : ActorContext) (alertIds : List String) (notified acked : Bool)
    (now : Time) :
    ∃ g : Alert → Alert, (∀ r, Alike r (g r)) ∧
      (i.mark actor alertIds notified acked now).rows = i.rows.map g ∧
      (i.mark actor alertIds notified acked now).epochs = i.epochs ∧
      (i.mark actor alertIds notified acked now).log = i.log := by
  unfold Inbox.mark
  split
  · refine ⟨_, fun r => ?_, rfl, rfl, rfl⟩
    split
    · exact marked_alike
    · exact Alike.refl r
  · exact ⟨id, Alike.refl, (List.map_id _).symm, rfl, rfl⟩

theorem openOf_map {g : Alert → Alert} (hg : ∀ r, Alike r (g r)) :
    openOf k (rows.map g) = (openOf k rows).map g := by
  unfold openOf
  rw [List.filter_map]
  congr 1
  refine List.filter_congr fun r _ => ?_
  rw [Function.comp, (hg r).isOpen, (hg r).dedupeKey]

/-- A person is told of the key: its open row is active or acknowledged. -/
def Inbox.Tells (i : Inbox) (k : DedupeKey) : Prop := ∃ r ∈ openOf k i.rows, r.state.told = true

instance (i : Inbox) (k : DedupeKey) : Decidable (i.Tells k) :=
  inferInstanceAs (Decidable (∃ r ∈ openOf k i.rows, r.state.told = true))

/-- Notes on rows tell nobody more or less. -/
theorem tells_of_map {i' : Inbox} {g : Alert → Alert} (hg : ∀ r, Alike r (g r))
    (h : openOf k i'.rows = (openOf k i.rows).map g) : i'.Tells k ↔ i.Tells k := by
  unfold Inbox.Tells
  rw [h]
  constructor
  · rintro ⟨x, hx, htold⟩
    obtain ⟨y, hy, rfl⟩ := List.mem_map.1 hx
    exact ⟨y, hy, (hg y).told ▸ htold⟩
  · rintro ⟨y, hy, htold⟩
    exact ⟨g y, List.mem_map_of_mem hy, (hg y).told.trans htold⟩

/-- A reclaim's reminder is of its own key. -/
theorem openOf_reclaim_ne {lease token message : String} {now : Time}
    (hk : k ≠ .reclaimed lease (i.epochs lease + 1)) :
    openOf k (i.reclaim lease token message now).rows = openOf k i.rows := by
  unfold Inbox.reclaim
  dsimp only
  rw [openOf_append]
  have hnew : openOf k [{ newReminder token (.reclaimed lease (i.epochs lease + 1)) message
      (some lease) now with state := .active }] = [] := by
    unfold openOf
    rw [List.filter_eq_nil_iff]
    intro x hx
    rw [List.mem_singleton.1 hx, Bool.and_eq_true, decide_eq_true_iff]
    exact fun h => hk h.2.symm
  rw [hnew, List.append_nil]

/-! ## What an evaluation leaves -/

/-- One that is not due leaves everything. -/
theorem step_throttled {committed : Bool} (h : i.throttled look.now = true) :
    i.step cfg (.evaluate look committed) = i := by
  unfold Inbox.step Inbox.evaluate
  dsimp only
  rw [h, if_pos rfl]

/-- One that is rolled back is remembered. -/
theorem step_rolledBack (h : i.throttled look.now = false) :
    i.step cfg (.evaluate look false) =
      { i with evaluatedAt := some look.now, resumedAt := i.resumed cfg look.now } := by
  unfold Inbox.step Inbox.evaluate
  dsimp only
  rw [h]
  rfl

/-- One that is committed. -/
theorem step_committed (h : i.throttled look.now = false) :
    i.step cfg (.evaluate look true) = { i with
      evaluatedAt := some look.now
      resumedAt := i.resumed cfg look.now
      rows := i.evaluated cfg look
      log := ⟨look, i.settling cfg look.now, i.rows⟩ :: i.log } := by
  unfold Inbox.step Inbox.evaluate
  dsimp only
  rw [h]
  rfl

/-! ## No key has two open rows -/

/-- Nothing of a key is open, or one row is. -/
def AtMostOne (k : DedupeKey) (rows : List Alert) : Prop :=
  openOf k rows = [] ∨ ∃ r, openOf k rows = [r]

theorem AtMostOne.length_le (h : AtMostOne k rows) : (openOf k rows).length ≤ 1 := by
  rcases h with h | ⟨r, h⟩
  · rw [h]; exact Nat.zero_le _
  · rw [h]; rfl

/-- No key has two open rows, and a lease's reclaims are no newer than its epoch. -/
structure Once (i : Inbox) : Prop where
  open_once : ∀ k, AtMostOne k i.rows
  epochs : ∀ r ∈ i.rows, ∀ lease epoch, r.dedupeKey = .reclaimed lease epoch →
    epoch ≤ i.epochs lease

namespace Once

/-- An evaluation opens a row only where there is none. -/
theorem evaluated (h : Once i) (cfg : Config) (look : Look) :
    ∀ k, AtMostOne k (i.evaluated cfg look) := by
  intro k
  cases k with
  | condition c =>
    unfold AtMostOne
    rw [openOf_evaluated_condition]
    rcases h.open_once (.condition c) with hnone | ⟨r, hone⟩
    · rw [openOf_remind_none hnone]
      cases look.signal? c with
      | none => exact Or.inl rfl
      | some s => exact Or.inr ⟨_, rfl⟩
    · rw [openOf_remind_some hone]
      cases look.signal? c with
      | none =>
        dsimp only
        cases r.absent look with
        | none => exact Or.inl rfl
        | some x =>
          dsimp only [Option.toList_some]
          rw [List.filter_singleton]
          cases x.isOpen
          · exact Or.inl rfl
          · exact Or.inr ⟨x, rfl⟩
      | some s => exact Or.inr ⟨_, rfl⟩
  | capacity p =>
    unfold AtMostOne
    rw [← openOf_rowsOf, rowsOf_evaluated_capacity]
    have hrows := h.open_once (.capacity p)
    unfold AtMostOne at hrows
    rw [← openOf_rowsOf] at hrows
    cases hfree : look.freeCards (i.settling cfg look.now) p with
    | none =>
      unfold capacityGroup
      rw [hfree]
      exact hrows
    | some free =>
      rcases hrows with hnone | ⟨r, hone⟩
      · rw [openOf_capacityGroup_none hnone hfree]
        split
        · exact Or.inr ⟨_, rfl⟩
        · exact Or.inl rfl
      · rw [openOf_capacityGroup_some hone hfree rfl]
        split
        · exact Or.inr ⟨_, rfl⟩
        · exact Or.inr ⟨_, rfl⟩
  | reclaimed lease epoch =>
    unfold AtMostOne
    rw [← openOf_rowsOf, rowsOf_evaluated_reclaimed, openOf_rowsOf]
    exact h.open_once (.reclaimed lease epoch)

/-- No event opens a second row for a key. -/
theorem step (h : Once i) (cfg : Config) (e : Event) : Once (i.step cfg e) := by
  cases e with
  | evaluate look committed =>
    unfold Inbox.step Inbox.evaluate
    dsimp only
    split
    · exact h
    · split
      · refine ⟨h.evaluated cfg look, fun r hr lease epoch hkey => ?_⟩
        have hmem : r ∈ rowsOf (.reclaimed lease epoch) (i.evaluated cfg look) :=
          List.mem_filter.2 ⟨hr, decide_eq_true hkey⟩
        rw [rowsOf_evaluated_reclaimed] at hmem
        exact h.epochs r (List.mem_filter.1 hmem).1 lease epoch hkey
      · exact ⟨h.open_once, h.epochs⟩
  | mark actor alertIds notified acked now =>
    obtain ⟨g, hg, hrows, hepochs, -⟩ := mark_rows (i := i) actor alertIds notified acked now
    unfold Inbox.step
    dsimp only
    refine ⟨fun k => ?_, fun r hr lease epoch hkey => ?_⟩
    · unfold AtMostOne
      rw [hrows, openOf_map hg]
      rcases h.open_once k with hnone | ⟨r, hone⟩
      · exact Or.inl (by rw [hnone]; rfl)
      · exact Or.inr ⟨g r, by rw [hone]; rfl⟩
    · rw [hrows] at hr
      obtain ⟨x, hx, rfl⟩ := List.mem_map.1 hr
      rw [hepochs]
      exact h.epochs x hx lease epoch ((hg x).dedupeKey.symm.trans hkey)
  | reclaim lease token message now =>
    refine ⟨fun k => ?_, fun r hr lease' epoch hkey => ?_⟩
    · by_cases hk : k = .reclaimed lease (i.epochs lease + 1)
      · have hnone : openOf k i.rows = [] := by
          refine List.filter_eq_nil_iff.2 fun x hx hopen => ?_
          rw [Bool.and_eq_true, decide_eq_true_iff, hk] at hopen
          have hle := h.epochs x hx lease _ hopen.2
          omega
        refine Or.inr ⟨{ newReminder token (.reclaimed lease (i.epochs lease + 1)) message
          (some lease) now with state := .active }, ?_⟩
        unfold Inbox.step Inbox.reclaim
        dsimp only
        rw [openOf_append, hnone, List.nil_append]
        refine List.filter_eq_self.2 fun x hx => ?_
        rw [List.mem_singleton.1 hx, Bool.and_eq_true, decide_eq_true_iff]
        exact ⟨rfl, hk.symm⟩
      · unfold AtMostOne Inbox.step
        dsimp only
        rw [openOf_reclaim_ne hk]
        exact h.open_once k
    · unfold Inbox.step Inbox.reclaim at hr ⊢
      dsimp only at hr ⊢
      rcases List.mem_append.1 hr with hold | hnew
      · have hle := h.epochs r hold lease' epoch hkey
        split
        · rename_i heq
          subst heq
          omega
        · exact hle
      · rw [List.mem_singleton.1 hnew] at hkey
        cases hkey
        rw [if_pos rfl]
  | restart => exact ⟨h.open_once, h.epochs⟩

end Once

/-- **No key has two open rows**, in any run. -/
theorem once_run (cfg : Config) (es : List Event) :
    Once (Run.run (Inbox.step cfg) {} es) := by
  refine Run.run_inv' (I := Once) (fun i e h => h.step cfg e) ?_
  refine ⟨fun k => Or.inl rfl, fun r hr => ?_⟩
  cases hr

end ServerPilot.Reminders
