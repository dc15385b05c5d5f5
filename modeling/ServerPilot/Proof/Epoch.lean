import ServerPilot.Proof.Fleet

/-!
# The epoch names the cards

`resource_epoch` is what a holder quotes to say which cards it means. It keeps
its word through every run that puts the lease on no other cards by
reassignment, `epoch_coherent`; a reassignment changes the cards under the same
epoch, `reassign_breaks_epoch`.
-/

namespace ServerPilot

open Rows

/-- A reassignment that goes through leaves lease `id` on the cards it has. -/
def Broker.staysPut (id : String) (b : Broker) (op : Op) : Prop :=
  ∀ m ∈ op.reassignment, m.leaseId = id → b.admits m = true →
    m.gpuIds.toFinset = (b.ledger.folio id).cardSet

instance (id : String) (b : Broker) (op : Op) : Decidable (b.staysPut id op) :=
  inferInstanceAs (Decidable (∀ m ∈ op.reassignment, _))

variable {cfg : Config} {op : Op} {b b' : Broker} {id : String}

/-- What one transaction does to one lease's epoch and cards. -/
theorem apply_tracks (hk : Kept b) {resp : Response} (h : op.apply cfg b = .ok (b', resp))
    (hs : b.staysPut id op) {x : Holding String String} (hx : b.ledger.holding? id = some x) :
    ∃ y, b'.ledger.holding? id = some y ∧ x.Tracks y := by
  cases apply_life hk.intact hk.wellkept h with
  | ends e =>
    obtain ⟨y, hy, s⟩ := e.fades.related id x hx
    exact ⟨y, hy, s.tracks⟩
  | loses _ f =>
    obtain ⟨y, hy, s⟩ := f.related id x hx
    exact ⟨y, hy, s.tracks⟩
  | opens gpuIds _ o => exact ⟨x, (o.old id (by rw [hx]; simp)).1.trans hx, .refl x⟩
  | resizes i _ a =>
    by_cases hid : id = i
    · subst hid
      obtain ⟨x', y, hx', hy, r⟩ := a.this
      rw [hx] at hx'
      cases hx'
      exact ⟨y, hy, r.tracks⟩
    · exact ⟨x, (a.others id hid).trans hx, .refl x⟩
  | uproots e _ u =>
    obtain ⟨y, hy, r⟩ := u.related id x hx
    refine ⟨y, hy, ?_⟩
    rcases r with r | r
    · exact r.tracks
    · exact (Holding.Shrinks.ended r).tracks
  | moves m ho ha a =>
    by_cases hid : id = m.leaseId
    · subst hid
      obtain ⟨x', y, hx', hy, hc, r⟩ := a.this
      rw [hx] at hx'
      cases hx'
      -- the cards it is put on are the ones it has
      refine ⟨y, hy, r.tracks (hc.trans ?_)⟩
      rw [holding_cards hx]
      exact hs m ho rfl ha
    · exact ⟨x, (a.others id hid).trans hx, .refl x⟩

/-- What a run does to one lease's epoch and cards. -/
theorem run_tracks {ops : List Op} (hk : Kept b)
    (hs : Run.Along (exec cfg) (fun b op => b.staysPut id op) b ops)
    {x : Holding String String} (hx : b.ledger.holding? id = some x) :
    ∃ y, (Run.run (exec cfg) b ops).ledger.holding? id = some y ∧ x.Tracks y := by
  induction ops generalizing b x with
  | nil => exact ⟨x, hx, .refl x⟩
  | cons op ops ih =>
    obtain ⟨hs, hrest⟩ := hs
    have hstep : ∃ y, (exec cfg b op).ledger.holding? id = some y ∧ x.Tracks y := by
      rcases exec_cases cfg b op with ⟨b', resp, h, he⟩ | ⟨-, he⟩
      · rw [he]
        exact apply_tracks hk h hs hx
      · rw [he]
        exact ⟨x, hx, .refl x⟩
    obtain ⟨y, hy, t⟩ := hstep
    obtain ⟨z, hz, t'⟩ := ih (exec_kept cfg b op hk) hrest hy
    exact ⟨z, hz, t.trans t'⟩

/-- A lease on the first of two cards. -/
def heldFirst : Broker :=
  Run.run (exec plainConfig) sampleFleet
    [.ingestObservation 0 (lookAtTwo "alpha" "GPU-0" "GPU-1" (by decide) 0 []) sampleToken,
     .createRequest 0 (sampleActor "ann") oneCard none true "lease" (sampleToken "lease")]

theorem heldFirst_reachable : Reachable plainConfig heldFirst := ⟨_, sampleFleet_seeded, _, rfl⟩

/-- Its holder asks for the second card too. -/
def takeSecond : Op :=
  .resizeLease 0 (sampleActor "ann") "lease" (some oneCard) [] (some 0) (sampleToken "lease")

/-- **The epoch keeps its word.** Let a lease have shown its epoch in a reachable state, and let no
reassignment from there on put it on other cards. Whenever its cards have changed and it lives, its
epoch is greater; and a resize that quotes the epoch is accepted only on the cards it had. -/
theorem epoch_coherent (hb : Reachable cfg b) {ops : List Op}
    (hs : Run.Along (exec cfg) (fun b op => b.staysPut id op) b ops) {x : Lease}
    (hx : b.ledger.lease? id = some x) :
    (∀ y, (Run.run (exec cfg) b ops).ledger.lease? id = some y → y.state.live = true →
      ((Run.run (exec cfg) b ops).ledger.folio id).cardSet ≠ (b.ledger.folio id).cardSet →
        x.resourceEpoch < y.resourceEpoch) ∧
    ∀ now actor addRequest removeGpuIds token after,
      resizeLease cfg now actor id addRequest removeGpuIds (some x.resourceEpoch) token
        (Run.run (exec cfg) b ops) = .ok after →
      ((Run.run (exec cfg) b ops).ledger.folio id).cardSet = (b.ledger.folio id).cardSet := by
  obtain ⟨h, hh, t⟩ := run_tracks hb.kept hs (holding_of_lease hx)
  refine ⟨fun y hy hl hc => ?_, fun now actor addRequest removeGpuIds token after hr => ?_⟩
  · rw [holding_of_lease hy] at hh
    cases hh
    exact (t.cards hl).resolve_left hc
  · obtain ⟨y, -, -, -, hy, -, hl, -, he, -⟩ := resizeLease_ok hr
    rw [holding_of_lease hy] at hh
    cases hh
    have heq : x.resourceEpoch = y.resourceEpoch := he x.resourceEpoch rfl
    rcases t.cards hl with hc | hlt
    · exact hc
    · exact absurd hlt (by simp [Lease.holding, heq])

/-- The epoch of a lease, 0 where there is none. -/
def Ledger.epochOf (l : Ledger) (id : String) : ℕ := ((l.lease? id).map Lease.resourceEpoch).getD 0

theorem takeSecond_raises_epoch :
    heldFirst.ledger.epochOf "lease" <
      (Run.run (exec plainConfig) heldFirst [takeSecond]).ledger.epochOf "lease" := by
  have hx : (heldFirst.ledger.lease? "lease").isSome = true := by decide +kernel
  have hy : ((Run.run (exec plainConfig) heldFirst [takeSecond]).ledger.lease? "lease").isSome =
      true := by decide +kernel
  have hl : ∀ y ∈ (Run.run (exec plainConfig) heldFirst [takeSecond]).ledger.lease? "lease",
      y.state.live = true := by decide +kernel
  obtain ⟨x, hx⟩ := Option.isSome_iff_exists.1 hx
  obtain ⟨y, hy⟩ := Option.isSome_iff_exists.1 hy
  have h := (epoch_coherent heldFirst_reachable (by decide +kernel) hx).1 y hy (hl y hy)
    (by decide +kernel)
  unfold Ledger.epochOf
  rw [hx, hy]
  exact h

/-! ## A reassignment keeps the epoch -/

/-- Every transaction that changes the cards of a live direct lease raises its epoch. -/
def CardChangesRaiseEpoch (cfg : Config) : Prop :=
  ∀ b, Reachable cfg b → ∀ op id x y, b.ledger.lease? id = some x → x.delegated = false →
    (exec cfg b op).ledger.lease? id = some y → y.state.live = true →
      ((exec cfg b op).ledger.folio id).cardSet ≠ (b.ledger.folio id).cardSet →
        x.resourceEpoch < y.resourceEpoch

/-- A resize that quotes an epoch is accepted only on the cards the lease had when it showed it. -/
def QuotedEpochNamesCards (cfg : Config) : Prop :=
  ∀ b, Reachable cfg b → ∀ ops id x, b.ledger.lease? id = some x →
    ∀ now actor addRequest removeGpuIds token after,
      resizeLease cfg now actor id addRequest removeGpuIds (some x.resourceEpoch) token
        (Run.run (exec cfg) b ops) = .ok after →
      ((Run.run (exec cfg) b ops).ledger.folio id).cardSet = (b.ledger.folio id).cardSet

/-- The same lease moved to the second card. -/
def moveToSecond : Op :=
  .reassignLeaseGpus 0 (sampleActor "ann") "lease" ["alpha:GPU-1"] "move" false
    (sampleToken "lease")

/-- **A reassignment breaks both**: the lease is on another card under epoch 0, and a resize that
quotes epoch 0 for the first card is accepted. -/
theorem reassign_breaks_epoch :
    ¬ CardChangesRaiseEpoch plainConfig ∧ ¬ QuotedEpochNamesCards plainConfig := by
  have hx : (heldFirst.ledger.lease? "lease").isSome = true := by decide +kernel
  obtain ⟨x, hx⟩ := Option.isSome_iff_exists.1 hx
  have hcards : ((exec plainConfig heldFirst moveToSecond).ledger.folio "lease").cardSet ≠
      (heldFirst.ledger.folio "lease").cardSet := by decide +kernel
  refine ⟨fun h => ?_, fun h => ?_⟩
  · have hy : ((exec plainConfig heldFirst moveToSecond).ledger.lease? "lease").isSome = true := by
      decide +kernel
    obtain ⟨y, hy⟩ := Option.isSome_iff_exists.1 hy
    have hd : ∀ x ∈ heldFirst.ledger.lease? "lease", x.delegated = false := by decide +kernel
    have hl : ∀ y ∈ (exec plainConfig heldFirst moveToSecond).ledger.lease? "lease",
        y.state.live = true := by decide +kernel
    have he : ∀ x ∈ heldFirst.ledger.lease? "lease",
        ∀ y ∈ (exec plainConfig heldFirst moveToSecond).ledger.lease? "lease",
          ¬ x.resourceEpoch < y.resourceEpoch := by decide +kernel
    exact he x hx y hy (h heldFirst heldFirst_reachable moveToSecond "lease" x y hx (hd x hx) hy
      (hl y hy) hcards)
  · have hr : ∀ x ∈ heldFirst.ledger.lease? "lease",
        (resizeLease plainConfig 0 (sampleActor "ann") "lease" (some oneCard) []
          (some x.resourceEpoch) (sampleToken "lease")
          (exec plainConfig heldFirst moveToSecond)).toBool = true := by decide +kernel
    have hr := hr x hx
    cases ho : resizeLease plainConfig 0 (sampleActor "ann") "lease" (some oneCard) []
        (some x.resourceEpoch) (sampleToken "lease") (exec plainConfig heldFirst moveToSecond) with
    | error e =>
      rw [ho] at hr
      cases hr
    | ok after =>
      exact hcards (h heldFirst heldFirst_reachable [moveToSecond] "lease" x hx _ _ _ _ _ after ho)

end ServerPilot
