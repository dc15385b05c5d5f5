import ServerPilot.Lib.Run
import ServerPilot.Proof.Fleet
import ServerPilot.Proof.Pass

/-!
# Keeping cards idle

A run of `keep_idle` calls and looks at one lease, each with the machines as they are then. A call
takes nothing from the time a card has left and leaves it a whole window, and what was kept in a
streak is dropped with it (`keep_idle_well`), as long as no look sees a kept card idle after an
outage, and a card on a server that is not at work has windows that are long enough
(`IdleCondition`).
-/

namespace ServerPilot.KeepIdle

open Rows

/-! ## Runs -/

/-- A `keep_idle` of a lease, or a look at it. -/
inductive IdleEvent (leaseId : String)
  | keep (now : Time) (plant : Plant) (actor : ActorContext)
  | look (now : Time) (plant : Plant) (actorId : String) (token : String → String)
      (lease : { x : Lease // x.id = leaseId })

variable (cfg : Config) {leaseId : String}

/-- What an event does to the tables. -/
def idleStep (l : Ledger) : IdleEvent leaseId → Ledger
  | .keep now plant actor => (Broker.keepIdleCards cfg now ⟨plant, l⟩ leaseId actor).1
  | .look now plant actorId token lease =>
    (Broker.reconcileIdleLease cfg now actorId token ⟨plant, l⟩ lease.1).ledger

/-- Every card of the lease has at most `MAX_KEEP_IDLE_WINDOWS` kept windows, and none outside a
streak. -/
def Fair (leaseId : String) (l : Ledger) : Prop :=
  ∀ r ∈ l.cards leaseId, r.keepIdleWindows ≤ maxKeepIdleWindows ∧
    (r.idleSince = none → r.keepIdleWindows = 0)

/-- A card row before and after `keep_idle`: its clock stands, it does not go earlier, on a server
at work or not, and an idle one is left a whole window from now, unless it has all it can get. -/
structure KeptWell (leaseId : String) (now : Time) (plant : Plant) (held : List LeaseResource)
    (r r' : LeaseResource) : Prop where
  clock : r'.clock = r.clock
  later : ∀ working, cardReclaimAfter cfg working r ≤ cardReclaimAfter cfg working r'
  window : idleCardOf leaseId r = true → r'.keepIdleWindows = maxKeepIdleWindows ∨
    ∀ anchor, r.clock.anchor cfg now = some anchor →
      now + seconds cfg.idleCardReclaimSeconds ≤
        anchor + cardReclaimAfter cfg (plant.working held (plant.endpointOf r.gpuId)) r'

/-- A look ends a card's streak: a process is seen, or nobody looked for too long. -/
def EndsStreak (now : Time) (plant : Plant) (r : LeaseResource) : Prop :=
  plant.cardIdleness cfg now r.gpuId = some false ∨ r.clock.longOutage now = true

/-- A card row before and after a look: a streak that ends takes its kept windows with it. -/
def LookedWell (leaseId : String) (now : Time) (plant : Plant) (r r' : LeaseResource) : Prop :=
  r.leaseId = leaseId → r.active = true → EndsStreak cfg now plant r → r'.keepIdleWindows = 0

/-- What is promised of an event. -/
def IdleGood (l : Ledger) (e : IdleEvent leaseId) : Prop :=
  match e with
  | .keep now plant _ =>
    List.Forall₂ (KeptWell cfg leaseId now plant (l.cards leaseId)) l.resources
      (idleStep cfg l e).resources
  | .look now plant _ _ _ =>
    List.Forall₂ (LookedWell cfg leaseId now plant) l.resources (idleStep cfg l e).resources

/-- Two windows of the span that counts for a card are enough, or it has three. -/
def Spared (now : Time) (working : Bool) (r : LeaseResource) : Prop :=
  let idle := now - (r.clock.anchor cfg now).getD now
  cfg.idleCardReclaimSeconds ≤ cfg.idleLeaseReclaimSeconds ∨ working = true ∨
    maxKeepIdleWindows ≤ r.keepIdleWindows ∨ seconds cfg.idleCardReclaimSeconds ≤ idle ∨
    (0 ≤ idle ∧ idle + seconds cfg.idleCardReclaimSeconds ≤
      seconds (cfg.idleLeaseReclaimSeconds * 2))

/-- When an event does what is promised. -/
def IdleCondition (l : Ledger) : IdleEvent leaseId → Prop
  | .keep now plant _ => ∀ r ∈ l.cards leaseId, r.idleSince.isSome = true →
      Spared cfg now (plant.working (l.cards leaseId) (plant.endpointOf r.gpuId)) r
  | .look now plant _ _ _ => ∀ r ∈ l.cards leaseId, 0 < r.keepIdleWindows →
      r.clock.longOutage now = true → plant.cardIdleness cfg now r.gpuId ≠ some true

/-! ## What an event does to the rows -/

variable {cfg} {l : Ledger} {now : Time} {plant : Plant} {r : LeaseResource}

theorem resources_keep (actor : ActorContext) :
    (idleStep cfg l (.keep now plant actor : IdleEvent leaseId)).resources =
      updWhere (idleCardOf leaseId) (LeaseResource.kept cfg now) l.resources := by
  unfold idleStep Broker.keepIdleCards
  simp only
  split <;> rfl

/-- The rows of the lease are looked at, and some of them settled. -/
theorem resources_look (cfg : Config) (l : Ledger) (now : Time) (plant : Plant)
    (actorId : String) (token : String → String)
    (lease : { x : Lease // x.id = leaseId }) : ∃ taken : LeaseResource → Bool,
    (idleStep cfg l (.look now plant actorId token lease)).resources =
      updWhere taken (LeaseResource.settled "idle without observed process" actorId now)
        (updWhere (fun r => r.leaseId = leaseId ∧ r.active = true)
          (LeaseResource.look cfg now plant) l.resources) := by
  obtain ⟨lease, rfl⟩ := lease
  have hnone : ∀ rows, updWhere (fun _ => false)
      (LeaseResource.settled "idle without observed process" actorId now) rows = rows :=
    fun rows => updWhere_of_none fun _ _ => rfl
  unfold idleStep Broker.reconcileIdleLease
  simp only
  split_ifs with hcards hreclaimed
  · refine ⟨fun _ => false, ?_⟩
    rw [hnone, updWhere_of_none fun r hr => ?_]
    by_contra hmine
    have hlooked : r.look cfg now plant ∈
        (Broker.lookAtLease cfg now ⟨plant, l⟩ lease.id).cards lease.id := by
      have hmine := Bool.eq_true_of_not_eq_false hmine
      refine List.mem_filter.2 ⟨mem_updWhere.2 ⟨r, hr, Or.inl ⟨hmine, rfl⟩⟩, ?_⟩
      rw [look_leaseId, look_active]
      exact hmine
    rw [hcards] at hlooked
    cases hlooked
  · exact ⟨fun _ => false, (hnone _).symm⟩
  · refine ⟨cardAmong lease.id ((Broker.reclaimedCards cfg now ⟨plant, l⟩ lease).map
      LeaseResource.gpuId), ?_⟩
    simp only [Broker.settleReclaimed, Ledger.addAudit, Broker.syncDirectAllocations]
    split <;> rfl

theorem forall₂_updWhere {α : Type*} {R : α → α → Prop} {p : α → Bool} {f : α → α} {rows : List α}
    (h : ∀ a ∈ rows, R a (if p a then f a else a)) : List.Forall₂ R rows (updWhere p f rows) :=
  List.forall₂_map_right_iff.2 (List.forall₂_same.2 h)

/-! ## Keeping -/

theorem windowsAsked_le (cfg : Config) (now : Time) (r : LeaseResource) :
    r.windowsAsked cfg now ≤ maxKeepIdleWindows :=
  min_le_left _ _

/-- The windows asked for reach a whole window past now, unless they are all there are. -/
theorem windowsAsked_reach (cfg : Config) (now : Time) (r : LeaseResource) :
    r.windowsAsked cfg now = maxKeepIdleWindows ∨
      now - (r.clock.anchor cfg now).getD now + seconds cfg.idleCardReclaimSeconds ≤
        seconds (cfg.idleCardReclaimSeconds * r.windowsAsked cfg now) := by
  rcases min_choice (maxKeepIdleWindows : ℤ)
    ((now - (r.clock.anchor cfg now).getD now).tdiv 1000000 / cfg.idleCardReclaimSeconds + 2)
    with h | h
  · exact Or.inl h
  · right
    rw [LeaseResource.windowsAsked, h]
    set idle : ℤ := now - (r.clock.anchor cfg now).getD now with hidle
    have hpos : (0 : ℤ) < cfg.idleCardReclaimSeconds := by
      have := cfg.card_bounds.1
      omega
    have hfloor := Int.emod_add_mul_ediv (idle.tdiv 1000000) cfg.idleCardReclaimSeconds
    have hrest := Int.emod_lt_of_pos (idle.tdiv 1000000) hpos
    have htrunc : idle < (idle.tdiv 1000000 + 1) * 1000000 := by
      have := Int.tmod_add_mul_tdiv idle 1000000
      have := Int.tmod_lt_of_pos idle (show (0 : ℤ) < 1000000 by decide)
      omega
    unfold seconds
    rw [mul_add]
    set windows : ℤ := cfg.idleCardReclaimSeconds * (idle.tdiv 1000000 / cfg.idleCardReclaimSeconds)
    change idle + (cfg.idleCardReclaimSeconds : ℤ) * 1000000 ≤
      (windows + (cfg.idleCardReclaimSeconds : ℤ) * 2) * 1000000
    omega

theorem mem_cards {rows : Ledger} : r ∈ rows.cards leaseId ↔
    r ∈ rows.resources ∧ r.leaseId = leaseId ∧ r.active = true := by
  rw [Ledger.cards, List.mem_filter, decide_eq_true_eq]

theorem idleCardOf_iff : idleCardOf leaseId r = true ↔
    (r.leaseId = leaseId ∧ r.active = true) ∧ r.idleSince.isSome = true := by
  rw [idleCardOf, Bool.and_eq_true, decide_eq_true_eq]

/-- More kept windows, more time. -/
theorem cardReclaimAfter_mono {r r' : LeaseResource} (h : r.keepIdleWindows ≤ r'.keepIdleWindows)
    (working : Bool) : cardReclaimAfter cfg working r ≤ cardReclaimAfter cfg working r' := by
  unfold cardReclaimAfter seconds
  have hmax : ((max 1 r.keepIdleWindows : ℕ) : ℤ) ≤ (max 1 r'.keepIdleWindows : ℕ) :=
    Int.ofNat_le.2 (max_le_max le_rfl h)
  refine mul_le_mul_of_nonneg_right (mul_le_mul_of_nonneg_left hmax ?_) (by decide)
  split_ifs <;> exact Int.natCast_nonneg _

/-- The windows asked for are among those the card has then. -/
theorem windowsAsked_le_kept (cfg : Config) (now : Time) (r : LeaseResource) :
    r.windowsAsked cfg now ≤ (max 1 (r.kept cfg now).keepIdleWindows : ℕ) :=
  calc r.windowsAsked cfg now ≤ ((r.windowsAsked cfg now).toNat : ℤ) := Int.self_le_toNat _
    _ ≤ ((r.kept cfg now).keepIdleWindows : ℤ) := Int.ofNat_le.2 (le_max_right _ _)
    _ ≤ (max 1 (r.kept cfg now).keepIdleWindows : ℕ) := Int.ofNat_le.2 (le_max_right _ _)

/-- Windows that last at least as long as those that are counted in reach as far. -/
theorem reach_of_le {base : ℕ} (hbase : cfg.idleCardReclaimSeconds ≤ base) (r : LeaseResource) :
    seconds (cfg.idleCardReclaimSeconds * r.windowsAsked cfg now) ≤
      seconds (base * (max 1 (r.kept cfg now).keepIdleWindows : ℕ)) := by
  have hasked := windowsAsked_le_kept cfg now r
  have hcard : (cfg.idleCardReclaimSeconds : ℤ) * r.windowsAsked cfg now ≤
      cfg.idleCardReclaimSeconds * (max 1 (r.kept cfg now).keepIdleWindows : ℕ) :=
    mul_le_mul_of_nonneg_left hasked (Int.natCast_nonneg _)
  have hwide : (cfg.idleCardReclaimSeconds : ℤ) * (max 1 (r.kept cfg now).keepIdleWindows : ℕ) ≤
      base * (max 1 (r.kept cfg now).keepIdleWindows : ℕ) :=
    mul_le_mul_of_nonneg_right (Int.ofNat_le.2 hbase) (Int.natCast_nonneg _)
  exact mul_le_mul_of_nonneg_right (hcard.trans hwide) (by decide)

/-- A card that was idle for a whole window already gets all there are. -/
theorem windowsAsked_max (h : seconds cfg.idleCardReclaimSeconds ≤
    now - (r.clock.anchor cfg now).getD now) : r.windowsAsked cfg now = maxKeepIdleWindows := by
  refine min_eq_left ?_
  have hpos : (0 : ℤ) < cfg.idleCardReclaimSeconds := by
    have := cfg.card_bounds.1
    omega
  have hwhole : (cfg.idleCardReclaimSeconds : ℤ) ≤
      (now - (r.clock.anchor cfg now).getD now).tdiv 1000000 := by
    set idle : ℤ := now - (r.clock.anchor cfg now).getD now
    change (cfg.idleCardReclaimSeconds : ℤ) * 1000000 ≤ idle at h
    have := Int.tmod_add_mul_tdiv idle 1000000
    have := Int.tmod_lt_of_pos idle (show (0 : ℤ) < 1000000 by decide)
    omega
  have hone : 1 ≤ (now - (r.clock.anchor cfg now).getD now).tdiv 1000000 /
      cfg.idleCardReclaimSeconds := (Int.le_ediv_iff_mul_le hpos).2 (by rw [one_mul]; exact hwhole)
  unfold maxKeepIdleWindows
  push_cast
  omega

/-- A card gets two windows at least, in a streak that has begun. -/
theorem two_le_windowsAsked (h : 0 ≤ now - (r.clock.anchor cfg now).getD now) :
    2 ≤ r.windowsAsked cfg now := by
  refine le_min (by decide) ?_
  have hnonneg : 0 ≤ (now - (r.clock.anchor cfg now).getD now).tdiv 1000000 /
      cfg.idleCardReclaimSeconds :=
    Int.ediv_nonneg (Int.tdiv_nonneg h (by decide)) (Int.natCast_nonneg _)
  omega

theorem kept_of_max (hfair : r.keepIdleWindows ≤ maxKeepIdleWindows)
    (h : r.windowsAsked cfg now = maxKeepIdleWindows ∨ maxKeepIdleWindows ≤ r.keepIdleWindows) :
    (r.kept cfg now).keepIdleWindows = maxKeepIdleWindows := by
  have hasked := windowsAsked_le cfg now r
  change max r.keepIdleWindows (r.windowsAsked cfg now).toNat = maxKeepIdleWindows
  omega

theorem add_le_of_sub_add_le {now anchor window span : ℤ} (h : now - anchor + window ≤ span) :
    now + window ≤ anchor + span := by
  omega

/-- **Keeping.** An idle card that its windows spare is kept as promised. -/
theorem kept_well {held : List LeaseResource} (hfair : r.keepIdleWindows ≤ maxKeepIdleWindows)
    (hspared : Spared cfg now (plant.working held (plant.endpointOf r.gpuId)) r) :
    KeptWell cfg leaseId now plant held r (r.kept cfg now) := by
  refine ⟨rfl, fun working => cardReclaimAfter_mono (le_max_left _ _) working, fun _ => ?_⟩
  rcases windowsAsked_reach cfg now r with hmax | hreach
  · exact Or.inl (kept_of_max hfair (Or.inl hmax))
  -- the span that counts for the card is at least a card window
  have hwide : ∀ base : ℕ, cfg.idleCardReclaimSeconds ≤ base → ∀ anchor,
      r.clock.anchor cfg now = some anchor → now + seconds cfg.idleCardReclaimSeconds ≤
        anchor + seconds (base * (max 1 (r.kept cfg now).keepIdleWindows : ℕ)) := by
    intro base hbase anchor hanchor
    rw [hanchor, Option.getD_some] at hreach
    exact add_le_of_sub_add_le (hreach.trans (reach_of_le hbase r))
  unfold cardReclaimAfter
  rcases hspared with hle | hworking | hall | hwhole | ⟨hbegun, htwo⟩
  · refine Or.inr (hwide _ ?_)
    split_ifs
    · exact le_rfl
    · exact hle
  · right
    rw [hworking]
    exact hwide _ le_rfl
  · exact Or.inl (kept_of_max hfair (Or.inr hall))
  · exact Or.inl (kept_of_max hfair (Or.inl (windowsAsked_max hwhole)))
  · right
    cases plant.working held (plant.endpointOf r.gpuId) with
    | true => exact hwide _ le_rfl
    | false =>
      intro anchor hanchor
      have hwindows := (two_le_windowsAsked hbegun).trans (windowsAsked_le_kept cfg now r)
      have hspan : seconds (cfg.idleLeaseReclaimSeconds * 2) ≤
          seconds (cfg.idleLeaseReclaimSeconds * (max 1 (r.kept cfg now).keepIdleWindows : ℕ)) :=
        mul_le_mul_of_nonneg_right (mul_le_mul_of_nonneg_left hwindows (Int.natCast_nonneg _))
          (by decide)
      rw [hanchor, Option.getD_some] at htwo
      exact add_le_of_sub_add_le (htwo.trans hspan)

/-! ## Looking -/

theorem look_windows_le (cfg : Config) (now : Time) (plant : Plant) (r : LeaseResource) :
    (r.look cfg now plant).keepIdleWindows ≤ r.keepIdleWindows := by
  unfold LeaseResource.look
  simp only
  split
  · exact Nat.zero_le _
  · exact le_rfl

/-- A card that a look leaves with no streak has no kept windows. -/
theorem look_windows_none (h : (r.look cfg now plant).idleSince = none) :
    (r.look cfg now plant).keepIdleWindows = 0 := by
  unfold LeaseResource.look at h ⊢
  simp only at h ⊢
  split at h
  · rfl
  · rename_i hsome
    have hsince : (r.clock.advance cfg now (plant.cardIdleness cfg now r.gpuId)).since = none := h
    rw [IdleClock.anchor, hsince] at hsome
    cases hsome

/-- **Looking.** A streak that ends leaves no kept windows, unless the card is seen idle after an
outage and had some. -/
theorem look_windows_ended (hends : EndsStreak cfg now plant r)
    (h : 0 < r.keepIdleWindows → r.clock.longOutage now = true →
      plant.cardIdleness cfg now r.gpuId ≠ some true) :
    (r.look cfg now plant).keepIdleWindows = 0 := by
  cases hidle : plant.cardIdleness cfg now r.gpuId with
  | none =>
    have hout : r.clock.longOutage now = true := hends.resolve_left (by rw [hidle]; simp)
    refine look_windows_none ?_
    unfold LeaseResource.look
    simp only [hidle, IdleClock.advance, hout, if_true]
    rfl
  | some idle =>
    cases idle with
    | false =>
      refine look_windows_none ?_
      unfold LeaseResource.look
      simp only [hidle, IdleClock.advance]
      rfl
    | true =>
      have hout : r.clock.longOutage now = true := hends.resolve_left (by rw [hidle]; simp)
      have hzero : r.keepIdleWindows = 0 := by
        by_contra hne
        exact h (Nat.pos_of_ne_zero hne) hout hidle
      exact Nat.le_zero.1 (hzero ▸ look_windows_le cfg now plant r)

/-! ## Runs of events -/

/-- An event leaves the cards of the lease fair. -/
theorem idleStep_fair (h : Fair leaseId l) (e : IdleEvent leaseId) :
    Fair leaseId (idleStep cfg l e) := by
  intro r' hr'
  rw [mem_cards] at hr'
  obtain ⟨hmem, hmine⟩ := hr'
  cases e with
  | keep now plant actor =>
    rw [resources_keep, mem_updWhere] at hmem
    obtain ⟨r, hr, ⟨hidle, rfl⟩ | ⟨-, rfl⟩⟩ := hmem
    · obtain ⟨hlease, hsince⟩ := idleCardOf_iff.1 hidle
      have hfair := h r (mem_cards.2 ⟨hr, hlease⟩)
      have hasked := windowsAsked_le cfg now r
      refine ⟨?_, fun hnone => ?_⟩
      · change max r.keepIdleWindows (r.windowsAsked cfg now).toNat ≤ maxKeepIdleWindows
        have := hfair.1
        omega
      · rw [show r.idleSince = none from hnone] at hsince
        cases hsince
    · exact h _ (mem_cards.2 ⟨hr, hmine⟩)
  | look now plant actorId token lease =>
    obtain ⟨taken, htaken⟩ := resources_look cfg l now plant actorId token lease
    rw [htaken, mem_updWhere] at hmem
    obtain ⟨x, hx, ⟨-, rfl⟩ | ⟨-, rfl⟩⟩ := hmem
    · cases hmine.2
    · obtain ⟨r, hr, ⟨hlease, rfl⟩ | ⟨hother, rfl⟩⟩ := mem_updWhere.1 hx
      · have hfair := h r (mem_cards.2 ⟨hr, of_decide_eq_true hlease⟩)
        exact ⟨(look_windows_le _ _ _ _).trans hfair.1, look_windows_none⟩
      · exact absurd hmine (of_decide_eq_false hother)

/-- An event that meets its condition does what is promised. -/
theorem idleStep_good (h : Fair leaseId l) (e : IdleEvent leaseId) (hc : IdleCondition cfg l e) :
    IdleGood cfg l e := by
  cases e with
  | keep now plant actor =>
    unfold IdleGood
    rw [resources_keep]
    refine forall₂_updWhere fun r hr => ?_
    by_cases hidle : idleCardOf leaseId r = true
    · rw [if_pos hidle]
      obtain ⟨hlease, hsince⟩ := idleCardOf_iff.1 hidle
      have hmem := mem_cards.2 ⟨hr, hlease⟩
      exact kept_well (h r hmem).1 (hc r hmem hsince)
    · rw [if_neg hidle]
      exact ⟨rfl, fun _ => le_rfl, fun hi => absurd hi hidle⟩
  | look now plant actorId token lease =>
    unfold IdleGood
    obtain ⟨taken, htaken⟩ := resources_look cfg l now plant actorId token lease
    rw [htaken, updWhere, updWhere, List.map_map]
    refine List.forall₂_map_right_iff.2 (List.forall₂_same.2 fun r hr => ?_)
    intro hlease hactive hends
    have hmem := mem_cards.2 ⟨hr, hlease, hactive⟩
    have hzero := look_windows_ended hends (hc r hmem)
    simp only [Function.comp_apply, hlease, hactive, and_self, decide_true, if_true]
    split
    · rfl
    · exact hzero

/-- **A run of `keep_idle` calls and looks.** Where every event meets its condition, every state
is fair and every event does what is promised. -/
theorem keep_idle_well (cfg : Config) (leaseId : String) (l : Ledger)
    (events : List (IdleEvent leaseId)) (hl : Fair leaseId l)
    (h : Run.Along (idleStep cfg) (IdleCondition cfg) l events) :
    Run.Along (idleStep cfg) (fun l e => Fair leaseId l ∧ IdleGood cfg l e) l events ∧
      Fair leaseId (Run.run (idleStep cfg) l events) := by
  -- by induction on the run: fairness is the invariant
  induction events generalizing l with
  | nil => exact ⟨trivial, hl⟩
  | cons e events ih =>
    obtain ⟨hgood, hend⟩ := ih _ (idleStep_fair hl e) h.2
    exact ⟨⟨⟨hl, idleStep_good hl e h.1⟩, hgood⟩, hend⟩

/-! ## One card, kept for a while -/

/-- A card row in a streak that began at 0. -/
def idleRow (windows : ℕ) : LeaseResource where
  leaseId := "lease"
  gpuId := "card"
  idleSince := some 0
  idleCheckedAt := some 0
  keepIdleWindows := windows

def idleLedger (windows : ℕ) : Ledger := { resources := [idleRow windows] }

/-- The card runs nothing, and was just read. -/
def idlePlant (now : Time) : Plant :=
  { gpus := [{ id := "card", endpointId := "alpha", nodeId := "alpha", gpuUuid := "GPU-1"
               gpuIndex := 0, cudaOrdinal := some 0, name := "card", totalVramMib := 80000
               health := "OK", present := true, firstSeenAt := 0, lastSeenAt := now }]
    telemetry := [{ gpuId := "card", observedAt := now, collectedAt := now, memoryUsedMib := 0
                    memoryFreeMib := 80000 }] }

/-- The lease, heard from at this instant. -/
def heardLease (now : Time) : { x : Lease // x.id = "lease" } :=
  ⟨{ id := "lease", actorId := "agent", projectId := "lab", kind := .workload, taskRef := "train"
     purpose := "training", constraints := { gpuCount := 1 }, durationSeconds := 3600
     state := .held, issuedAt := 0, expiresAt := none, lastHeartbeatAt := now
     issuedRevision := 1 }, rfl⟩

def keepAt (now : Time) : IdleEvent "lease" := .keep now (idlePlant now) (sampleActor "agent")

def lookAt (now : Time) : IdleEvent "lease" :=
  .look now (idlePlant now) "collector" (sampleToken "lease") (heardLease now)

theorem idleLedger_cards (windows : ℕ) : (idleLedger windows).cards "lease" = [idleRow windows] :=
  rfl

theorem idleLedger_fair {windows : ℕ} (h : windows ≤ maxKeepIdleWindows) :
    Fair "lease" (idleLedger windows) := by
  intro r hr
  rw [idleLedger_cards, List.mem_singleton] at hr
  subst hr
  exact ⟨h, fun hnone => nomatch hnone⟩

theorem keepAt_resources :
    (idleStep plainConfig (idleLedger 0) (keepAt (seconds 60))).resources = [idleRow 2] := by
  decide +kernel

/-- Kept after a minute, and looked at a minute later. -/
theorem keep_idle_well_minute :
    Run.Along (idleStep plainConfig) (fun l e => Fair "lease" l ∧ IdleGood plainConfig l e)
        (idleLedger 0) [keepAt (seconds 60), lookAt (seconds 120)] ∧
      Fair "lease" (Run.run (idleStep plainConfig) (idleLedger 0)
        [keepAt (seconds 60), lookAt (seconds 120)]) := by
  refine keep_idle_well plainConfig "lease" (idleLedger 0) _ (idleLedger_fair (by decide))
    ⟨fun r _ _ => Or.inl (by decide), fun r hr _ hout => ?_, trivial⟩
  rw [Ledger.cards, keepAt_resources] at hr
  obtain rfl := List.mem_singleton.1 (List.mem_of_mem_filter hr)
  revert hout
  decide

/-- Kept after a minute, and seen idle after nobody looked for seven: the new streak has the
windows of the old one. -/
theorem kept_past_outage_carried :
    ¬ Run.Along (idleStep plainConfig) (fun l e => Fair "lease" l ∧ IdleGood plainConfig l e)
      (idleLedger 0) [keepAt (seconds 60), lookAt (seconds 460)] := by
  rintro ⟨-, ⟨-, hgood⟩, -⟩
  have hafter : (idleStep plainConfig (idleStep plainConfig (idleLedger 0) (keepAt (seconds 60)))
      (lookAt (seconds 460))).resources.map LeaseResource.keepIdleWindows = [2] := by
    decide +kernel
  have hlooked : List.Forall₂
      (LookedWell plainConfig "lease" (seconds 460) (idlePlant (seconds 460)))
      (idleStep plainConfig (idleLedger 0) (keepAt (seconds 60))).resources
      (idleStep plainConfig (idleStep plainConfig (idleLedger 0) (keepAt (seconds 60)))
        (lookAt (seconds 460))).resources := hgood
  rw [keepAt_resources] at hlooked
  obtain ⟨r', rest, hr', -, hrows⟩ := List.forall₂_cons_left_iff.1 hlooked
  rw [hrows, List.map_cons, hr' rfl rfl (Or.inr (by decide))] at hafter
  cases hafter

/-- Settings by which a lease on a server that is not at work loses its cards sooner than one of
its cards on a server that is. -/
def hastyConfig : Config :=
  { plainConfig with
    idleLeaseReclaimSeconds := 600
    reclaim_bounds := by decide, reclaim_after_alert := by decide }

/-- Kept after a minute under these settings: less than a card window is left. -/
theorem kept_too_short : ¬ IdleGood hastyConfig (idleLedger 0) (keepAt (seconds 60)) := by
  intro hgood
  have hafter : (idleStep hastyConfig (idleLedger 0) (keepAt (seconds 60))).resources =
      [idleRow 2] := by decide +kernel
  have hkept : List.Forall₂ (KeptWell hastyConfig "lease" (seconds 60)
      (idlePlant (seconds 60)) [idleRow 0]) [idleRow 0]
      (idleStep hastyConfig (idleLedger 0) (keepAt (seconds 60))).resources := hgood
  rw [hafter] at hkept
  obtain ⟨r', rest, hr', -, hrows⟩ := List.forall₂_cons_left_iff.1 hkept
  obtain rfl : idleRow 2 = r' := (List.cons.inj hrows).1
  rcases hr'.window (by decide) with hall | hleft
  · exact absurd hall (by decide)
  · exact absurd (hleft (seconds 60) (by decide)) (by decide)

/-- The two ways a run breaks its promises. -/
theorem kept_past_outage :
    ¬ Run.Along (idleStep plainConfig) (fun l e => Fair "lease" l ∧ IdleGood plainConfig l e)
        (idleLedger 0) [keepAt (seconds 60), lookAt (seconds 460)] ∧
      ¬ Run.Along (idleStep hastyConfig) (fun l e => Fair "lease" l ∧ IdleGood hastyConfig l e)
        (idleLedger 0) [keepAt (seconds 60)] :=
  ⟨kept_past_outage_carried, fun h => kept_too_short h.1.2⟩

end ServerPilot.KeepIdle
