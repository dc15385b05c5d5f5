import ServerPilot.Lib.Leads
import ServerPilot.Proof.Fleet
import ServerPilot.Proof.Inbox
import ServerPilot.Spec.Notify

/-!
# Every alert is told once

* `told_once`: what is pending is told as a whole, each alert in one reminder, and no folding of the
  capacity alerts that keeps within a minute makes do with fewer.
* `delivered_once`: a round of the app marks what it told exactly when the broker takes its request;
  what was marked is never pending again.
-/

namespace ServerPilot.Reminders

open Run

section

variable {now : Time} {rows alerts : List Alert} {r x : Alert}

/-! ## Folding -/

theorem byFirstSeen_perm (alerts : List Alert) : (byFirstSeen alerts).Perm alerts :=
  List.perm_insertionSort _ _

theorem byFirstSeen_sorted (alerts : List Alert) :
    (byFirstSeen alerts).Pairwise fun x y => x.firstSeenAt ≤ y.firstSeenAt :=
  List.pairwise_insertionSort _ _

/-- A batch is told with all its alerts. -/
theorem folded_ids {batch : List Alert} (h : batch ≠ []) :
    ∃ reminder, folded batch = some reminder ∧ reminder.ids = batch.map Alert.id ∧
      reminder.alert ∈ batch := by
  rcases batch with _ | ⟨head, _ | ⟨next, rest⟩⟩
  · exact absurd rfl h
  · exact ⟨head.told, rfl, rfl, List.mem_singleton_self head⟩
  · exact ⟨_, rfl, rfl, List.mem_cons_self⟩

/-- The alerts of folded batches are those of the batches. -/
theorem toldIds_folded {batches : List (List Alert)} (h : ∀ b ∈ batches, b ≠ []) :
    toldIds (batches.filterMap folded) = batches.flatten.map Alert.id := by
  induction batches with
  | nil => rfl
  | cons batch batches ih =>
    obtain ⟨reminder, hfold, hids, -⟩ := folded_ids (h batch List.mem_cons_self)
    have hrest := ih fun b hb => h b (List.mem_cons_of_mem batch hb)
    rw [List.filterMap_cons_some hfold, List.flatten_cons, List.map_append, ← hrest]
    unfold toldIds
    rw [List.flatMap_cons, hids]

theorem toldIds_map (alerts : List Alert) :
    toldIds (alerts.map Alert.told) = alerts.map Alert.id := by
  induction alerts with
  | nil => rfl
  | cons r alerts ih =>
    unfold toldIds at ih ⊢
    rw [List.map_cons, List.flatMap_cons, ih]
    rfl

theorem coalesceSpan_nonneg : 0 ≤ coalesceSpan := by decide

theorem batches_nonempty (alerts : List Alert) :
    ∀ b ∈ Batches.batched Alert.firstSeenAt coalesceSpan alerts, b ≠ [] := by
  intro b hb
  obtain ⟨h, r, rfl, -⟩ := (Batches.batched_sound coalesceSpan_nonneg alerts).span b hb
  exact List.cons_ne_nil h r

/-- **Folding loses nothing and tells nothing twice.** -/
theorem coalesce_ids (alerts : List Alert) :
    (toldIds (coalesce alerts)).Perm (alerts.map Alert.id) := by
  unfold coalesce
  dsimp only
  have hsplit := List.filter_append_perm Alert.isCapacity alerts
  have hcapacity := byFirstSeen_perm (alerts.filter Alert.isCapacity)
  have hids : toldIds ((alerts.filter fun r => !r.isCapacity).map Alert.told ++
      (Batches.batched Alert.firstSeenAt coalesceSpan (byFirstSeen
        (alerts.filter Alert.isCapacity))).filterMap folded) =
      (alerts.filter fun r => !r.isCapacity).map Alert.id ++
        (byFirstSeen (alerts.filter Alert.isCapacity)).map Alert.id := by
    have happ : ∀ l l' : List Reminder, toldIds (l ++ l') = toldIds l ++ toldIds l' :=
      fun l l' => List.flatMap_append
    rw [happ, toldIds_map, toldIds_folded (batches_nonempty _),
      Batches.batched_flatten coalesceSpan_nonneg]
  rw [hids, ← List.map_append]
  refine List.Perm.map Alert.id ?_
  exact (hcapacity.append_left _).trans (List.perm_append_comm.trans hsplit)

theorem mem_pendingAlerts : r ∈ pendingAlerts now rows ↔ r ∈ rows ∧ r.untold now = true := by
  unfold pendingAlerts
  rw [(byFirstSeen_perm _).mem_iff, List.mem_filter]

/-- The reminders of capacity are the folded batches. -/
theorem capacity_reminders (alerts : List Alert) :
    ((coalesce alerts).filter fun r => r.alert.isCapacity).length =
      (Batches.batched Alert.firstSeenAt coalesceSpan
        (byFirstSeen (alerts.filter Alert.isCapacity))).length := by
  unfold coalesce
  dsimp only
  set batches := Batches.batched Alert.firstSeenAt coalesceSpan
    (byFirstSeen (alerts.filter Alert.isCapacity)) with hbatches
  have hothers : ((alerts.filter fun r => !r.isCapacity).map Alert.told).filter
      (fun r => r.alert.isCapacity) = [] := by
    refine List.filter_eq_nil_iff.2 fun reminder hr => ?_
    obtain ⟨r, hmem, rfl⟩ := List.mem_map.1 hr
    have hnot := (List.mem_filter.1 hmem).2
    simpa [Alert.told] using hnot
  have hfolded : (batches.filterMap folded).filter (fun r => r.alert.isCapacity) =
      batches.filterMap folded := by
    refine List.filter_eq_self.2 fun reminder hr => ?_
    obtain ⟨b, hb, hfold⟩ := List.mem_filterMap.1 hr
    obtain ⟨reminder', hfold', -, hmem⟩ := folded_ids (batches_nonempty _ b hb)
    obtain rfl : reminder' = reminder := Option.some.inj (hfold'.symm.trans hfold)
    -- a batch is one of capacity alerts
    have hflat : reminder'.alert ∈ batches.flatten := List.mem_flatten.2 ⟨b, hb, hmem⟩
    rw [hbatches, Batches.batched_flatten coalesceSpan_nonneg,
      (byFirstSeen_perm _).mem_iff] at hflat
    exact (List.mem_filter.1 hflat).2
  rw [List.filter_append, hothers, List.nil_append, hfolded, List.filterMap_length_eq_length]
  intro b hb
  obtain ⟨reminder, hfold, -⟩ := folded_ids (batches_nonempty _ b hb)
  rw [hfold]
  rfl

/-- **Every pending alert is told, once.** The reminders tell of the pending alerts, each of them in
one; alerts folded into one reminder were first seen within a minute of each other; and no way to
put the pending capacity alerts into groups that keep within a minute has fewer groups than there
are reminders of capacity. -/
theorem told_once (now : Time) (rows : List Alert) :
    (toldIds (pendingNotifications now rows)).Perm ((pendingAlerts now rows).map Alert.id) ∧
    (∀ reminder ∈ pendingNotifications now rows, ∃ batch : List Alert,
      reminder.ids = batch.map Alert.id ∧ (∀ x ∈ batch, x ∈ pendingAlerts now rows) ∧
        ∀ x ∈ batch, ∀ y ∈ batch, x.firstSeenAt - y.firstSeenAt ≤ coalesceSpan) ∧
    ∀ groups : List (List Alert),
      (∀ r ∈ pendingAlerts now rows, r.isCapacity = true → ∃ g ∈ groups, r ∈ g) →
      (∀ g ∈ groups, ∀ x ∈ g, ∀ y ∈ g, x.firstSeenAt - y.firstSeenAt ≤ coalesceSpan) →
        ((pendingNotifications now rows).filter fun r => r.alert.isCapacity).length ≤
          groups.length := by
  refine ⟨coalesce_ids _, fun reminder hr => ?_, fun groups hcover hspan => ?_⟩
  · unfold pendingNotifications coalesce at hr
    dsimp only at hr
    rcases List.mem_append.1 hr with hr | hr
    · obtain ⟨r, hmem, rfl⟩ := List.mem_map.1 hr
      refine ⟨[r], rfl, fun x hx => ?_, fun x hx y hy => ?_⟩
      · rw [List.mem_singleton.1 hx]
        exact (List.mem_filter.1 hmem).1
      · rw [List.mem_singleton.1 hx, List.mem_singleton.1 hy, sub_self]
        exact coalesceSpan_nonneg
    · obtain ⟨b, hb, hfold⟩ := List.mem_filterMap.1 hr
      obtain ⟨reminder', hfold', hids, -⟩ := folded_ids (batches_nonempty _ b hb)
      obtain rfl : reminder' = reminder := Option.some.inj (hfold'.symm.trans hfold)
      refine ⟨b, hids, fun x hx => ?_, fun x hx y hy => ?_⟩
      · have hflat := List.mem_flatten.2 ⟨b, hb, hx⟩
        rw [Batches.batched_flatten coalesceSpan_nonneg, (byFirstSeen_perm _).mem_iff] at hflat
        exact (List.mem_filter.1 hflat).1
      · exact Batches.batched_spans coalesceSpan_nonneg (byFirstSeen_sorted _) hb hx hy
  · unfold pendingNotifications
    rw [capacity_reminders]
    refine Batches.batched_length_le coalesceSpan_nonneg (fun r hr => ?_) hspan
    obtain ⟨hr, hcapacity⟩ := List.mem_filter.1 ((byFirstSeen_perm _).mem_iff.1 hr)
    exact hcover r hr hcapacity

theorem mem_toldIds {id : String} : id ∈ toldIds (pendingNotifications now rows) ↔
    ∃ r ∈ rows, r.untold now = true ∧ r.id = id := by
  unfold pendingNotifications
  rw [(coalesce_ids _).mem_iff, List.mem_map]
  constructor
  · rintro ⟨r, hr, rfl⟩
    obtain ⟨hmem, huntold⟩ := mem_pendingAlerts.1 hr
    exact ⟨r, hmem, huntold, rfl⟩
  · rintro ⟨r, hmem, huntold, rfl⟩
    exact ⟨r, mem_pendingAlerts.2 ⟨hmem, huntold⟩, rfl⟩

/-- Nothing is told where nothing is pending. -/
theorem pendingNotifications_eq_nil (h : ∀ r ∈ rows, r.untold now = false) :
    pendingNotifications now rows = [] := by
  have hnone : pendingAlerts now rows = [] := by
    refine List.eq_nil_iff_forall_not_mem.2 fun r hr => ?_
    obtain ⟨hmem, huntold⟩ := mem_pendingAlerts.1 hr
    rw [h r hmem] at huntold
    cases huntold
  unfold pendingNotifications
  rw [hnone]
  rfl

end

/-! ## What is marked stays marked -/

/-- The ids an event may give to a new row. -/
def Event.names (e : Event) (id : String) : Prop :=
  match e with
  | .evaluate look _ => ∃ k, look.token k = id
  | .reclaim _ token _ _ => token = id
  | .mark .. | .restart => False

/-- The rows with these ids have been told. -/
def Silenced (ids : List String) (rows : List Alert) : Prop :=
  ∀ r ∈ rows, r.id ∈ ids → r.notifiedAt.isSome = true

/-- A row that takes the place of another: it has its id, and was told if that was. -/
def Alert.Follows (x r : Alert) : Prop :=
  x.id = r.id ∧ (r.notifiedAt.isSome = true → x.notifiedAt.isSome = true)

section

variable {cfg : Config} {ids : List String} {rows rows' : List Alert} {look : Look} {x r : Alert}
  {i : Inbox} {e : Event} {now : Time}

theorem Alert.Follows.refl (r : Alert) : r.Follows r := ⟨rfl, fun h => h⟩

theorem Silenced.follow (h : Silenced ids rows)
    (hrows : ∀ x ∈ rows', (∃ r ∈ rows, x.Follows r) ∨ x.id ∉ ids) : Silenced ids rows' := by
  intro x hx hid
  rcases hrows x hx with ⟨r, hr, hsame, htold⟩ | hnew
  · exact htold (h r hr (hsame ▸ hid))
  · exact absurd hid hnew

theorem follows_present {resuming : Bool} {s : Signal} {state : AlertState} {since : Option Time} :
    (r.present rows resuming now s state since).Follows r := by
  unfold Alert.present
  dsimp only
  split
  · exact ⟨rfl, fun _ => rfl⟩
  · exact ⟨rfl, id⟩

theorem follows_reminded {resuming : Bool} (h : x ∈ r.reminded rows resuming look) :
    x.Follows r := by
  unfold Alert.reminded at h
  split at h
  · obtain rfl := Option.mem_some_iff.1 h
    exact .refl r
  split at h
  · split at h
    · obtain rfl := Option.mem_some_iff.1 h
      exact follows_present
    · unfold Alert.absent at h
      split at h
      · cases h
      split at h
      · obtain rfl := Option.mem_some_iff.1 h
        exact .refl r
      · obtain rfl := Option.mem_some_iff.1 h
        exact ⟨rfl, id⟩
  · obtain rfl := Option.mem_some_iff.1 h
    exact .refl r

theorem silenced_remind (hn : ∀ id ∈ ids, ∀ k, look.token k ≠ id) (h : Silenced ids rows)
    (resuming : Bool) : Silenced ids (remind resuming look rows) := by
  refine h.follow fun x hx => ?_
  rcases List.mem_append.1 hx with hx | hx
  · obtain ⟨r, hr, hrem⟩ := List.mem_filterMap.1 hx
    exact Or.inl ⟨r, hr, follows_reminded hrem⟩
  · -- a row that was opened just now
    right
    obtain ⟨c, -, hopened⟩ := List.mem_filterMap.1 hx
    obtain ⟨s, -, rfl⟩ := Option.map_eq_some_iff.1 hopened
    intro hid
    rw [follows_present.1] at hid
    exact hn _ hid _ rfl

theorem silenced_updWhere {p : Alert → Bool} {f : Alert → Alert} (hf : ∀ r, (f r).Follows r)
    (h : Silenced ids rows) : Silenced ids (Rows.updWhere p f rows) := by
  refine h.follow fun x hx => ?_
  obtain ⟨r, hr, rfl⟩ := List.mem_map.1 hx
  refine Or.inl ⟨r, hr, ?_⟩
  split
  · exact hf r
  · exact .refl r

theorem silenced_armed (hn : ∀ id ∈ ids, ∀ k, look.token k ≠ id) (h : Silenced ids rows)
    (pool : Pool) : Silenced ids (rows ++ [armed look pool]) := by
  refine h.follow fun x hx => ?_
  rcases List.mem_append.1 hx with hx | hx
  · exact Or.inl ⟨x, hx, .refl x⟩
  · obtain rfl := List.mem_singleton.1 hx
    exact Or.inr fun hid => hn _ hid _ rfl

theorem silenced_capacity (hn : ∀ id ∈ ids, ∀ k, look.token k ≠ id) (h : Silenced ids rows)
    (settling : Bool) : Silenced ids (capacity settling look rows) := by
  unfold capacity
  refine foldl_inv (I := fun rows => Silenced ids rows) (fun rows pool _ h => ?_) h
  unfold capacityGroup
  split
  · exact h
  dsimp only
  split
  · split
    · exact h
    · exact silenced_armed hn h pool
  · split
    · refine silenced_armed hn (silenced_updWhere ?_ h) pool
      exact fun r => ⟨rfl, fun h => h⟩
    · refine silenced_updWhere ?_ h
      exact fun r => ⟨rfl, fun h => h⟩

theorem follows_marked (actor : ActorContext) (notified acked : Bool) (r : Alert) :
    (Inbox.marked actor notified acked now r).Follows r := by
  unfold Inbox.marked
  dsimp only
  split <;> split
  all_goals exact ⟨rfl, fun h => by first | rfl | exact h⟩

/-- **No event unmarks a row.** -/
theorem step_silenced (hn : ∀ id ∈ ids, ¬ e.names id) (h : Silenced ids i.rows) :
    Silenced ids (i.step cfg e).rows := by
  cases e with
  | evaluate look committed =>
    have hfresh : ∀ id ∈ ids, ∀ k, look.token k ≠ id := fun id hid k hk => hn id hid ⟨k, hk⟩
    change Silenced ids (i.evaluate cfg look committed).rows
    unfold Inbox.evaluate
    split
    · exact h
    dsimp only
    split
    · exact silenced_capacity hfresh (silenced_remind hfresh h _) _
    · exact h
  | mark actor alertIds notified acked now =>
    change Silenced ids (i.mark actor alertIds notified acked now).rows
    unfold Inbox.mark
    split
    · exact silenced_updWhere (follows_marked actor notified acked) h
    · exact h
  | reclaim lease token message now =>
    -- the row it adds has an id of its own
    refine h.follow fun x hx => ?_
    rcases List.mem_append.1 hx with hx | hx
    · exact Or.inl ⟨x, hx, .refl x⟩
    · obtain rfl := List.mem_singleton.1 hx
      exact Or.inr fun hid => hn _ hid rfl
  | restart => exact h

/-- What was told is not pending. -/
theorem Silenced.not_pending (h : Silenced ids rows) {id : String}
    (hid : id ∈ toldIds (pendingNotifications now rows)) : id ∉ ids := by
  obtain ⟨r, hr, huntold, rfl⟩ := mem_toldIds.1 hid
  intro hmem
  have htold := h r hr hmem
  unfold Alert.untold at huntold
  simp only [Bool.and_eq_true, Option.isNone_iff_eq_none] at huntold
  rw [huntold.1.2] at htold
  cases htold

theorem marked_silenced {actor : ActorContext} (hrole : actor.role ∈ mutatingRoles) :
    Silenced ids (i.step cfg (.mark actor ids true false now)).rows := by
  change Silenced ids (i.mark actor ids true false now).rows
  unfold Inbox.mark
  rw [if_pos hrole]
  intro x hx hid
  obtain ⟨r, hr, rfl⟩ := List.mem_map.1 hx
  by_cases hmem : r.id ∈ ids
  · rw [if_pos (decide_eq_true hmem)]
    unfold Inbox.marked
    cases hn : r.notifiedAt with
    | none => simp
    | some t => simp [hn]
  · rw [if_neg (by simpa using hmem)] at hid
    exact absurd hid hmem

/-- A row after a mark is a row from before it, as far as being pending goes. -/
theorem untold_of_mark {actor : ActorContext} {at_ : Time}
    (hx : x ∈ (i.step cfg (.mark actor ids true false at_)).rows) (hu : x.untold now = true) :
    ∃ r ∈ i.rows, r.untold now = true ∧ r.id = x.id := by
  change x ∈ (i.mark actor ids true false at_).rows at hx
  unfold Inbox.mark at hx
  split at hx
  swap
  · exact ⟨x, hx, hu, rfl⟩
  obtain ⟨r, hr, rfl⟩ := List.mem_map.1 hx
  split at hu
  · -- a marked row was told
    unfold Inbox.marked at hu
    cases hn : r.notifiedAt with
    | none => simp [hn, Alert.untold] at hu
    | some t => simp [hn, Alert.untold] at hu
  · rename_i hnot
    rw [if_neg hnot]
    exact ⟨r, hr, hu, rfl⟩

/-- **Once told, never again.** Where the broker takes the request of a round, none of the alerts it
told is pending at any later time, as long as no new row takes one of their ids. And it takes the
request exactly when the caller may write and the round told of at most 200 alerts: if nothing
happened in between, nothing of what was pending is pending then, and otherwise the same reminders
are told again. -/
theorem delivered_once (cfg : Config) (d : Round) (i : Inbox) :
    let ids := toldIds (pendingNotifications d.askedAt i.rows)
    let left := deliverPending cfg d i
    (d.actor.role ∈ mutatingRoles → ids.length ≤ markLimit → ∀ es,
      Along (Inbox.step cfg) (fun _ e => ∀ id ∈ ids, ¬ e.names id) left es →
        ∀ now, ∀ id ∈ toldIds (pendingNotifications now (run (Inbox.step cfg) left es).rows),
          id ∉ ids) ∧
    (d.meanwhile = [] → ids ≠ [] →
      (d.actor.role ∈ mutatingRoles ∧ ids.length ≤ markLimit ↔
        pendingNotifications d.askedAt left.rows = []) ∧
      (¬ (d.actor.role ∈ mutatingRoles ∧ ids.length ≤ markLimit) → left = i)) := by
  intro ids left
  have hleft : ids ≠ [] → ids.length ≤ markLimit → left = (run (Inbox.step cfg) i d.meanwhile).step
      cfg (.mark d.actor ids true false d.markedAt) := by
    intro hsome hlen
    change (if ids = [] then i else _) = _
    rw [if_neg hsome]
    exact if_pos hlen
  refine ⟨fun hrole hlen es hfresh now id hid hmem => ?_, fun hquiet hsome => ?_⟩
  · by_cases hsome : ids = []
    · rw [hsome] at hmem
      cases hmem
    have hsilenced : Silenced ids left.rows := by
      rw [hleft hsome hlen]
      exact marked_silenced hrole
    have hlater : Silenced ids (run (Inbox.step cfg) left es).rows :=
      run_inv (I := fun i : Inbox => Silenced ids i.rows) (fun i e h hn => step_silenced hn h)
        hsilenced hfresh
    exact hlater.not_pending hid hmem
  · have hrefused : ¬ (d.actor.role ∈ mutatingRoles ∧ ids.length ≤ markLimit) → left = i := by
      intro hnot
      by_cases hlen : ids.length ≤ markLimit
      · rw [hleft hsome hlen, hquiet]
        exact if_neg fun hrole => hnot ⟨hrole, hlen⟩
      · change (if ids = [] then i else _) = _
        rw [if_neg hsome]
        refine (if_neg hlen).trans ?_
        rw [hquiet]
        rfl
    refine ⟨⟨fun ⟨hrole, hlen⟩ => ?_, fun hnone => ?_⟩, hrefused⟩
    · have hsilenced : Silenced ids left.rows := by
        rw [hleft hsome hlen]
        exact marked_silenced hrole
      refine pendingNotifications_eq_nil fun x hx => ?_
      cases hu : x.untold d.askedAt with
      | false => rfl
      | true =>
        -- what is pending afterwards was pending before, and was told
        rw [hleft hsome hlen, hquiet] at hx
        obtain ⟨r, hr, hru, hid⟩ := untold_of_mark hx hu
        have htold : x.id ∈ ids := mem_toldIds.2 ⟨r, hr, hru, hid⟩
        have hpending : x.id ∈ toldIds (pendingNotifications d.askedAt left.rows) :=
          mem_toldIds.2 ⟨x, by rw [hleft hsome hlen, hquiet]; exact hx, hu, rfl⟩
        exact absurd htold (hsilenced.not_pending hpending)
    · by_contra hnot
      rw [hrefused hnot] at hnone
      refine hsome ?_
      change toldIds (pendingNotifications d.askedAt i.rows) = []
      rw [hnone]
      rfl

end

/-! ## Two groups -/

/-- The row of a group that has cards again. -/
def stockedRow (group : String) (at_ : Time) : Alert :=
  { newReminder group (.capacity (.group group)) (group ++ " 有 1 张空闲 GPU") none at_ with
    state := .active }

/-- Two groups got cards half a minute apart. -/
def stockedRows : List Alert := [stockedRow "a100" 0, stockedRow "h100" (seconds 30)]

/-- They are told of together. -/
theorem told_once_pair : ((pendingNotifications (seconds 60) stockedRows).filter fun r =>
    r.alert.isCapacity).length ≤ 1 :=
  (told_once (seconds 60) stockedRows).2.2 [stockedRows] (by decide) (by decide)

theorem delivered_once_pair : pendingNotifications (seconds 60) (deliverPending plainConfig
    { actor := sampleActor "ann", askedAt := seconds 60, markedAt := seconds 61 }
    { rows := stockedRows }).rows = [] :=
  (((delivered_once plainConfig
    { actor := sampleActor "ann", askedAt := seconds 60, markedAt := seconds 61 }
    { rows := stockedRows }).2 rfl (by decide)).1).1 ⟨by decide, by decide⟩

end ServerPilot.Reminders
