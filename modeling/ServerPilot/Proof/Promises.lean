import ServerPilot.Proof.Inventory
import ServerPilot.Proof.Reclaim
import ServerPilot.Proof.Fleet

/-!
# Commitments follow the cards

A claim, a resize and a reassignment promise CPU and memory on exactly the
servers of the lease's cards, and a deletion takes the server's promises with its
cards. Taking cards from a lease leaves its promises alone: the two agree in every
run in which no lease that goes on loses its last card on a server that way,
`commitments_agree`.
-/

namespace ServerPilot

open Rows Checked

/-- The servers a live direct claim has commitments on are the servers of its active cards. -/
def CommitmentsAgree (b : Broker) : Prop :=
  ∀ x ∈ b.ledger.leases, x.delegated = false → x.kind = .workload → x.state.live = true → ∀ e,
    (∃ c ∈ b.ledger.commitments, c.leaseId = x.id ∧ c.endpointId = e) ↔
      ∃ r ∈ b.ledger.resources, r.leaseId = x.id ∧ r.active = true ∧
        b.plant.endpointOf r.gpuId = e

/-! ## Taking cards -/

/-- What `release_empty_conflicted_lease` is asked. -/
structure Clearing where
  now : Time
  actor : ActorContext
  endpointId : String
  leaseId : String
  key : String

/-- The clearing a transaction asks for. -/
def Op.clearing : Op → Option Clearing
  | .releaseEmptyConflictedLease now actor endpointId leaseId _ key =>
    some { now, actor, endpointId, leaseId, key }
  | _ => none

/-- The observation a transaction takes in, and when. -/
def Op.observation : Op → Option (Time × EndpointObservation)
  | .ingestObservation now o _ => some (now, o)
  | _ => none

/-- The verdict on the lease allows its clearing, and the key is new. -/
def Broker.clears (cfg : Config) (b : Broker) (c : Clearing) : Bool :=
  (match b.ledger.replay c.actor "lease.empty.release" (some c.key) with
    | .ok none => true
    | _ => false) &&
    (b.ledger.lease? c.leaseId).any fun x =>
      (b.manualReleaseVerdict cfg c.now x (b.cardsOn c.leaseId c.endpointId)
        (b.plant.endpointUnreachable cfg c.now c.endpointId)).allowed

/-- A clearing that goes through takes the last card of a direct claim, or none on a server it has
cards on. -/
def Broker.clearingLeaves (cfg : Config) (b : Broker) (c : Clearing) : Prop :=
  b.clears cfg c = true → ∀ h ∈ b.ledger.holding? c.leaseId, h.live = true → h.pledging = true →
    h.Leaves b.plant.endpointOf (b.serverCards c.leaseId c.endpointId)

/-- The idle cards due in the pass after an observation are all a direct claim has, or none is its
last on a server. -/
def Broker.passLeaves (cfg : Config) (now : Time) (b : Broker) (o : EndpointObservation) : Prop :=
  let s := b.beforePass cfg now o
  b.plant.staleObservation o = false → ∀ x ∈ s.ledger.leases, x.reclaimable →
    ∀ h ∈ s.ledger.holding? x.id, h.pledging = true →
      h.Leaves s.plant.endpointOf (s.dueCards cfg now x)

/-- No lease that goes on loses its last card on a server to a transaction that takes cards. -/
def Broker.leavesServers (cfg : Config) (b : Broker) (op : Op) : Prop :=
  (∀ c ∈ op.clearing, b.clearingLeaves cfg c) ∧
    ∀ p ∈ op.observation, b.passLeaves cfg p.1 p.2

instance (cfg : Config) (b : Broker) (c : Clearing) : Decidable (b.clearingLeaves cfg c) :=
  inferInstanceAs (Decidable (_ → ∀ h ∈ b.ledger.holding? c.leaseId, _ → _ → _))

instance (cfg : Config) (now : Time) (b : Broker) (o : EndpointObservation) :
    Decidable (b.passLeaves cfg now o) :=
  inferInstanceAs (Decidable (_ → ∀ x ∈ (b.beforePass cfg now o).ledger.leases, _ →
    ∀ h ∈ (b.beforePass cfg now o).ledger.holding? x.id, _ → _))

instance (cfg : Config) (b : Broker) (op : Op) : Decidable (b.leavesServers cfg op) :=
  inferInstanceAs (Decidable ((∀ c ∈ op.clearing, _) ∧ ∀ p ∈ op.observation, _))

/-- What a clearing that is not admitted leaves is what it found. -/
theorem releaseEmpty_admitted {cfg : Config} {now : Time} {actor : ActorContext}
    {endpointId leaseId key : String} {notBefore : Time} {b b' : Broker} {resp : Response}
    (h : releaseEmptyConflictedLease cfg now actor endpointId leaseId notBefore key b =
      .ok (b', resp)) :
    b' = b ∨ b.clears cfg ⟨now, actor, endpointId, leaseId, key⟩ = true := by
  rcases releaseEmptyConflictedLease_ok h with h' | ⟨lease, hl, -, hv, -⟩
  · exact Or.inl h'
  unfold releaseEmptyConflictedLease at h
  simp only [bind_ok] at h
  obtain ⟨-, -, h⟩ := h
  rcases once_fresh h with h' | hr
  · exact Or.inl h'
  right
  unfold Broker.clears
  rw [hr, hl]
  simpa using hv

/-! ## The invariant -/

/-- Every lease keeps its promises on exactly the servers of its cards. -/
def Promised (b : Broker) : Prop :=
  ∀ id h, b.ledger.holding? id = some h → h.Pledged b.plant.endpointOf

section

variable {cfg : Config} {op : Op} {b b' : Broker} {resp : Response}

/-- An observation, case by case: whatever ended is no matter, and what was due left the promises
right. -/
theorem ingested_promised (hk : Kept b) (hp : Promised b) {now : Time} {o : EndpointObservation}
    (token : String → String → String) (hs : b.plant.staleObservation o = false)
    (hl : b.passLeaves cfg now o) : Promised (b.ingested cfg now o token).1 := by
  intro id h' hh'
  have hgrown := absorb_grown cfg now b o
  have hplant : (b.ingested cfg now o token).1.plant = (b.beforePass cfg now o).plant :=
    ingested_plant b o token
  cases hh : b.ledger.holding? id with
  | none =>
    rw [(ingested_fades hk.intact o).absent id hh] at hh'
    cases hh'
  | some h =>
    have hloses := @ingested_loses cfg now token b hk.intact o id h hh
    obtain ⟨h₀, h₁, h₂, x, hc, hx, hh₀, hcase, hc', hh₂⟩ := hloses
    rw [hh'] at hh₂
    cases hh₂
    rw [hplant]
    -- the cards are where they were, so the promises are right before the pass
    have hsame : h.Pledged (b.beforePass cfg now o).plant.endpointOf :=
      (hp id h hh).congr fun g hg => hgrown.endpointOf (held_known hk.intact hh g hg)
    refine hc'.pledged ?_
    rcases hcase with rfl | ⟨hr, rfl⟩
    · exact hc.pledged hsame
    · have hid := lease?_id hx
      refine (Holding.lose_keepsWord (hc.pledged hsame) fun _ hd => ?_)
      exact hl hs x (lease?_mem hx) hr h₀ (by rw [hid]; exact hh₀) hd

/-- **One transaction keeps the promises.** -/
theorem apply_promised (hk : Kept b) (hp : Promised b) (hl : b.leavesServers cfg op)
    (h : op.apply cfg b = .ok (b', resp)) : Promised b' := by
  -- in the servers of the state before
  have transfer : (∀ id x, b'.ledger.holding? id = some x → x.Pledged b.plant.endpointOf) →
      Promised b' := fun hpl id x hx =>
    (hpl id x hx).congr fun g hg => (apply_sameCards hk h hx g hg).1
  have each : ∀ {R}, (∀ x y : Holding String String, R x y → x.Pledged b.plant.endpointOf →
      y.Pledged b.plant.endpointOf) → Each R b.ledger b'.ledger → Promised b' := by
    intro R hR e
    refine transfer fun id y hy => ?_
    cases hx : b.ledger.holding? id with
    | none =>
      rw [e.absent id hx] at hy
      cases hy
    | some x =>
      obtain ⟨z, hz, r⟩ := e.related id x hx
      rw [hy] at hz
      cases hz
      exact hR x y r (hp id x hx)
  have alone : ∀ {R i}, (∀ x y : Holding String String, R x y → y.Pledged b.plant.endpointOf) →
      Alone R i b.ledger b'.ledger → Promised b' := by
    intro R i hR a
    refine transfer fun id y hy => ?_
    by_cases hid : id = i
    · subst hid
      obtain ⟨x, z, -, hz, r⟩ := a.this
      rw [hy] at hz
      cases hz
      exact hR x y r
    · rw [a.others id hid] at hy
      exact hp id y hy
  cases apply_life hk.intact hk.wellkept h with
  | ends e => exact each (fun _ _ c => c.pledged) e
  | opens gpuIds _ o =>
    refine transfer fun id y hy => ?_
    cases hx : b.ledger.holding? id with
    | none =>
      rcases o.new id hx with hn | ⟨z, hz, hb, -⟩
      · rw [hn] at hy
        cases hy
      · rw [hy] at hz
        cases hz
        exact hb.keepsWord
    | some x =>
      rw [(o.old id (by rw [hx]; simp)).1] at hy
      exact hp id y hy
  | resizes i _ a => exact alone (fun _ _ r => r.keepsWord) a
  | moves m _ _ a => exact alone (fun _ _ r => r.2.keepsWord) a
  | uproots e _ u =>
    refine each (fun x y r hx => ?_) u
    rcases r with r | r
    · exact r.keepsWord hx
    · exact Holding.Closes.pledged (Or.inr r) hx
  | loses ho f =>
    cases op <;> simp only [Op.takes, Bool.false_eq_true] at ho
    · -- a clearing
      rename_i now actor endpointId leaseId notBefore key
      rcases releaseEmpty_loses h with rfl | ⟨hplant, hne, -, hh⟩
      · exact hp
      rcases releaseEmpty_admitted h with rfl | hadm
      · exact hp
      have hl := hl.1 _ rfl hadm
      refine transfer fun id y hy => ?_
      by_cases hid : id = leaseId
      · subst hid
        rw [hh] at hy
        obtain ⟨x, hx, rfl⟩ := Option.map_eq_some_iff.1 hy
        exact Holding.lose_keepsWord (hp id x hx) (hl x hx)
      · rw [holding_congr (hne id hid)] at hy
        exact hp id y hy
    · -- an observation
      rename_i now o token
      rcases ingestObservation_ok h with rfl | ⟨hs, -, rfl⟩
      · exact hp
      · exact ingested_promised hk hp token hs (hl.2 _ rfl)

/-- **The promises in every run** that takes no lease's last card on a server it goes on without. -/
theorem run_promised {ops : List Op} (hk : Kept b) (hp : Promised b)
    (hl : Run.Along (exec cfg) (fun b op => b.leavesServers cfg op) b ops) :
    Promised (Run.run (exec cfg) b ops) := by
  refine (Run.run_inv (I := fun b => Kept b ∧ Promised b) (fun b op hi hl => ?_) ⟨hk, hp⟩ hl).2
  refine ⟨exec_kept cfg b op hi.1, ?_⟩
  rcases exec_cases cfg b op with ⟨b', resp, h, he⟩ | ⟨-, he⟩
  · rw [he]
    exact apply_promised hi.1 hi.2 hl h
  · rw [he]
    exact hi.2

theorem Seeded.promised (h : Seeded b) : Promised b := by
  intro id x hx
  obtain ⟨y, hy, -⟩ := lease_of_holding hx
  have hm := lease?_mem hy
  rw [h.leases] at hm
  cases hm

/-- Promises kept are commitments that agree. -/
theorem Promised.agree (hk : Kept b) (hp : Promised b) : CommitmentsAgree b := by
  intro x hx hd hw hl e
  have hh := holding_of_lease (row?_of_mem hk.intact.leasePk hx : b.ledger.lease? x.id = some x)
  have hpl : (b.ledger.folio x.id).pledged =
      (b.ledger.folio x.id).cardSet.image b.plant.endpointOf := by
    refine hp x.id _ hh hl ?_
    show (!x.delegated && decide (x.kind = .workload)) = true
    rw [hd, hw]
    rfl
  have hleft : e ∈ (b.ledger.folio x.id).pledged ↔
      ∃ c ∈ b.ledger.commitments, c.leaseId = x.id ∧ c.endpointId = e := by
    unfold Folio.pledged Ledger.folio
    simp only [List.mem_toFinset, List.mem_map, List.mem_filter, decide_eq_true_eq, and_assoc]
  rw [← hleft, hpl, Finset.mem_image]
  constructor
  · rintro ⟨g, hg, rfl⟩
    obtain ⟨r, hr, rfl⟩ := mem_cardSet.1 hg
    obtain ⟨hm, hid, ha⟩ := mem_cards.1 hr
    exact ⟨r, hm, hid, ha, rfl⟩
  · rintro ⟨r, hr, hid, ha, rfl⟩
    exact ⟨r.gpuId, mem_cardSet.2 ⟨r, mem_cards.2 ⟨hr, hid, ha⟩, rfl⟩, rfl⟩

end

/-- **Commitments agree with the cards** in every state of a run in which no lease that goes on
loses its last card on a server to an idle reclaim or a clearing. -/
theorem commitments_agree {cfg : Config} {b : Broker} (hb : Seeded b) {ops : List Op}
    (hl : Run.Along (exec cfg) (fun b op => b.leavesServers cfg op) b ops) :
    CommitmentsAgree (Run.run (exec cfg) b ops) :=
  (run_promised hb.kept hb.promised hl).agree (run_kept cfg ops hb.kept)

/-- A claim of two cards. -/
def twoCards : RequestCreate := sampleRequest { gpuCount := 2 } (by decide)

/-- A claim of two cards, one on each of two servers. -/
def spanClaim : List Op :=
  [.ingestObservation 0 (lookAtOne "alpha" "GPU-0" 0 []) sampleToken,
   .ingestObservation 0 (lookAtOne "beta" "GPU-1" 0 []) sampleToken,
   .createRequest 0 (sampleActor "ann") twoCards none true "lease" (sampleToken "lease")]

/-- The holder gives the card on `beta` back. -/
def shrinkToAlpha : List Op :=
  spanClaim ++ [.resizeLease 0 (sampleActor "ann") "lease" none ["beta:GPU-1"] none
    (sampleToken "lease")]

theorem shrinkToAlpha_agrees :
    CommitmentsAgree (Run.run (exec plainConfig) sampleFleet shrinkToAlpha) :=
  commitments_agree sampleFleet_seeded (by decide +kernel)

/-! ## A card taken on one server leaves the promise there -/

/-- Both cards stay idle, and the operator clears the lease from `beta`. -/
def clearBeta : List Op :=
  spanClaim ++
    [.ingestObservation (seconds 700) (lookAtOne "beta" "GPU-1" (seconds 700) []) sampleToken,
     .releaseEmptyConflictedLease (seconds 700) (sampleActor "ann") "beta" "lease" (seconds 700)
       "clear"]

/-- Settings that look seldom and reclaim early. -/
def swiftConfig : Config :=
  { plugin := fun _ => none
    intervalSeconds := 200, idleLeaseAlertSeconds := 60
    idleLeaseReclaimSeconds := 120, idleCardReclaimSeconds := 120
    interval_bounds := by decide, grace_bounds := plainConfig.grace_bounds,
      alert_bounds := by decide
    reclaim_bounds := by decide, card_bounds := by decide, reclaim_after_alert := by decide }

/-- The card on `alpha` works while the one on `beta` stays idle for a whole window. -/
def idleBeta : List Op :=
  spanClaim ++
    [.ingestObservation (seconds 150) (lookAtOne "beta" "GPU-1" (seconds 150) []) sampleToken,
     .ingestObservation (seconds 150) (lookAtOne "alpha" "GPU-0" (seconds 150) [7]) sampleToken,
     .ingestObservation (seconds 300) (lookAtOne "beta" "GPU-1" (seconds 300) []) sampleToken]

/-- A live direct claim has a commitment on a server it has no card on. -/
def Broker.overcommits (b : Broker) : Bool :=
  b.ledger.commitments.any fun c =>
    (b.ledger.leases.any fun x =>
      x.id = c.leaseId && !x.delegated && x.kind = .workload && x.state.live) &&
    !b.ledger.resources.any fun r =>
      r.leaseId = c.leaseId && r.active && b.plant.endpointOf r.gpuId = c.endpointId

theorem overcommits_disagree {b : Broker} (h : b.overcommits = true) :
    ¬ CommitmentsAgree b := by
  intro ha
  simp only [Broker.overcommits, List.any_eq_true, Bool.and_eq_true, Bool.not_eq_true',
    decide_eq_true_eq] at h
  obtain ⟨c, hc, ⟨x, hx, ⟨⟨hid, hd⟩, hk⟩, hl⟩, hn⟩ := h
  obtain ⟨r, hr, hrid, hra, hre⟩ := (ha x hx hd hk hl c.endpointId).1 ⟨c, hc, hid.symm, rfl⟩
  have hany : b.ledger.resources.any (fun r =>
      r.leaseId = c.leaseId && r.active && b.plant.endpointOf r.gpuId = c.endpointId) = true := by
    refine List.any_eq_true.2 ⟨r, hr, ?_⟩
    simp [hrid, hid, hra, hre]
  rw [hany] at hn
  cases hn

/-- **Commitments outlive the cards**: a partial clearing and an idle reclaim of some cards each
leave a live lease a commitment on a server it has no card on. -/
theorem taking_cards_overcommits :
    ¬ (∀ b, Reachable plainConfig b → CommitmentsAgree b) ∧
      ¬ ∀ b, Reachable swiftConfig b → CommitmentsAgree b := by
  have hclear : (Run.run (exec plainConfig) sampleFleet clearBeta).overcommits = true := by
    decide +kernel
  have hidle : (Run.run (exec swiftConfig) sampleFleet idleBeta).overcommits = true := by
    decide +kernel
  exact ⟨fun h => overcommits_disagree hclear (h _ ⟨_, sampleFleet_seeded, _, rfl⟩),
    fun h => overcommits_disagree hidle (h _ ⟨_, sampleFleet_seeded, _, rfl⟩)⟩

end ServerPilot
