import ServerPilot.Spec.StartBatch
import ServerPilot.Proof.Commits
import ServerPilot.Proof.Workers

/-!
# What a failed start leaves behind

A start either confirms its batch or is cleaned up, `startBatch_cases`. A cleanup
whose stop stayed unanswered marks each card that still is a row of the endpoint,
`cleanup_marks`. A confirmation under a key that is already on file writes nothing
and is no failure: there the workers of the batch are left to nobody,
`start_accounts_iff`, `repeated_key_orphans`.
-/

namespace ServerPilot

open Rows Checked

/-! ## What accounts for a card -/

/-- Whether a cleanup of the card is on record. -/
def Plant.marked (p : Plant) (g : String) : Bool := (p.keepalive? g).any fun k => k.cleanupPending

def Broker.Marked (b : Broker) (g : String) : Prop := b.plant.marked g = true

/-- A keeper holds the card, or its cleanup is on record. -/
def Broker.Covered (b : Broker) (g : String) : Prop := (∃ i, b.KeeperOf i g) ∨ b.Marked g

/-- The card is a row of the endpoint. -/
def Broker.Registers (b : Broker) (endpointId g : String) : Prop :=
  (b.plant.gpu? g).any (fun x => decide (x.endpointId = endpointId)) = true

/-- No worker that a start may have begun is forgotten: each card of the batch ends with a keeper,
with a stop that the helper answered, or with its cleanup on record. -/
def Start.Accounts (s : Start) (gpuIds : List String) : Prop :=
  s.mayRun = true → ∀ g ∈ gpuIds,
    (∃ i, s.broker.KeeperOf i g) ∨ s.stopped = true ∨ s.broker.Marked g

/-! ## Marking -/

section

variable {p : Plant} {g endpointId reason : String} {pending : Option Bool} {now : Time}

/-- The mark of a card after a failed operation on another, or on itself. -/
theorem marked_setKeepaliveCurrent (p : Plant) (g g' reason : String) (pending : Option Bool)
    (now : Time) :
    (p.setKeepaliveCurrent g' .error (some reason) none false pending now).marked g =
      if g' = g then pending.getD (p.marked g) else p.marked g := by
  unfold Plant.setKeepaliveCurrent Plant.marked
  by_cases hg : g' = g
  · subst hg
    rw [if_pos rfl]
    cases hk : p.keepalive? g' with
    | none =>
      unfold Plant.keepalive? at hk ⊢
      rw [row?_append, hk]
      simp [row?]
    | some k =>
      unfold Plant.keepalive? at hk ⊢
      dsimp only
      rw [row?_updWhere, hk]
      · simp [(row?_some hk).2]
      · exact fun _ => rfl
  · rw [if_neg hg]
    cases hk : p.keepalive? g' with
    | none =>
      unfold Plant.keepalive?
      rw [row?_append]
      simp [row?, hg]
    | some k' =>
      unfold Plant.keepalive?
      dsimp only
      rw [row?_updWhere]
      · cases hrow : row? KeepaliveCurrent.gpuId g p.keepalive with
        | none => rfl
        | some k =>
          have hne : ¬ k.gpuId = g' := fun h => hg (h.symm.trans (row?_some hrow).2)
          simp [hne]
      · exact fun _ => rfl

theorem gpus_setKeepaliveErrorOn (p : Plant) (endpointId reason : String) (pending : Bool)
    (now : Time) (g : String) :
    ∃ keepalive, setKeepaliveErrorOn endpointId reason pending now p g = { p with keepalive } := by
  unfold setKeepaliveErrorOn
  split
  · exact setKeepaliveCurrent_eq ..
  · exact ⟨p.keepalive, rfl⟩

/-- The cards a failed start marks: those of the batch that are rows of its endpoint. -/
theorem marked_setKeepaliveErrorOn (p : Plant) (endpointId reason : String) (pending : Bool)
    (now : Time) (g g' : String) :
    (setKeepaliveErrorOn endpointId reason pending now p g').marked g =
      (p.marked g || (pending && decide (g' = g) &&
        (p.gpu? g).any fun x => decide (x.endpointId = endpointId))) := by
  unfold setKeepaliveErrorOn
  by_cases hrow : (p.gpu? g').any (fun x => decide (x.endpointId = endpointId)) = true
  · rw [if_pos hrow, marked_setKeepaliveCurrent]
    by_cases hg : g' = g
    · subst hg
      cases pending <;> simp [hrow]
    · simp [hg]
  · rw [if_neg hrow]
    by_cases hg : g' = g
    · subst hg
      simp [Bool.eq_false_iff.2 hrow]
    · simp [hg]

theorem marked_setKeepaliveErrors (p : Plant) (endpointId reason : String) (pending : Bool)
    (now : Time) (g : String) (gpuIds : List String) :
    (gpuIds.foldl (setKeepaliveErrorOn endpointId reason pending now) p).marked g =
      (p.marked g || (pending && decide (g ∈ gpuIds) &&
        (p.gpu? g).any fun x => decide (x.endpointId = endpointId))) := by
  induction gpuIds generalizing p with
  | nil => simp
  | cons g' gpuIds ih =>
    obtain ⟨keepalive, hk⟩ := gpus_setKeepaliveErrorOn p endpointId reason pending now g'
    have hgpu : (setKeepaliveErrorOn endpointId reason pending now p g').gpu? g = p.gpu? g := by
      rw [hk]
      rfl
    rw [List.foldl_cons, ih, hgpu, marked_setKeepaliveErrorOn]
    by_cases hg : g' = g
    · subst hg
      cases p.marked g' with
      | true => simp
      | false => cases pending <;> simp
    · have hne : ¬ g = g' := fun h => hg h.symm
      simp [hg, hne]

theorem gpus_setKeepaliveErrors (p : Plant) (endpointId reason : String) (pending : Bool)
    (now : Time) (gpuIds : List String) :
    ∃ keepalive, gpuIds.foldl (setKeepaliveErrorOn endpointId reason pending now) p =
      { p with keepalive } := by
  apply Run.foldl_inv (I := fun q : Plant => ∃ keepalive, q = { p with keepalive }) _
    ⟨p.keepalive, rfl⟩
  rintro - g _ ⟨keepalive, rfl⟩
  obtain ⟨keepalive', h⟩ :=
    gpus_setKeepaliveErrorOn { p with keepalive } endpointId reason pending now g
  exact ⟨keepalive', h⟩

/-- A worker state is kept once for each card. -/
theorem keepalivePk_setKeepaliveErrorOn (p : Plant) (endpointId reason : String) (pending : Bool)
    (now : Time) (g : String) (h : (p.keepalive.map KeepaliveCurrent.gpuId).Nodup) :
    ((setKeepaliveErrorOn endpointId reason pending now p g).keepalive.map
      KeepaliveCurrent.gpuId).Nodup := by
  unfold setKeepaliveErrorOn
  split
  · unfold Plant.setKeepaliveCurrent
    cases hk : p.keepalive? g with
    | none =>
      have hnew : g ∉ p.keepalive.map KeepaliveCurrent.gpuId := by
        intro hmem
        obtain ⟨k, hk', hkg⟩ := List.mem_map.1 hmem
        exact row?_none hk k hk' hkg
      dsimp only
      rw [List.map_append, List.map_singleton]
      refine List.nodup_append.2 ⟨h, List.nodup_singleton _, fun a ha c hc hac => hnew ?_⟩
      have hcg : c = g := List.mem_singleton.1 hc
      rw [← hcg, ← hac]
      exact ha
    | some k =>
      dsimp only
      rw [map_updWhere]
      · exact h
      · exact fun _ => rfl
  · exact h

/-- **An error of a start commits**, whatever cards it names. -/
theorem setKeepaliveError_accepts {b : Broker} (hb : Intact b) (now : Time)
    (endpointId reason : String) (gpuIds : List String) (pending : Bool) :
    ∃ plant, setKeepaliveError now endpointId gpuIds reason pending b =
        .ok ({ b with plant }, .done) ∧
      ∀ g, plant.marked g = (b.plant.marked g || (pending && decide (g ∈ gpuIds) &&
        (b.plant.gpu? g).any fun x => decide (x.endpointId = endpointId))) := by
  refine ⟨_, ?_, fun g => marked_setKeepaliveErrors b.plant endpointId reason pending now g gpuIds⟩
  have hpk : ((gpuIds.foldl (setKeepaliveErrorOn endpointId reason pending now)
      b.plant).keepalive.map KeepaliveCurrent.gpuId).Nodup := by
    apply Run.foldl_inv (I := fun q : Plant => (q.keepalive.map KeepaliveCurrent.gpuId).Nodup) _
      hb.keepalivePk
    intro q g _ hq
    exact keepalivePk_setKeepaliveErrorOn q endpointId reason pending now g hq
  obtain ⟨keepalive, hk⟩ := gpus_setKeepaliveErrors b.plant endpointId reason pending now gpuIds
  rw [hk] at hpk
  unfold setKeepaliveError
  dsimp only
  rw [hk]
  have hset : Intact { b with plant := { b.plant with keepalive } } :=
    { hb with keepalivePk := hpk }
  exact finish_of_intact hset .done

end

/-! ## How a start ends -/

section

variable {cfg : Config} {w : StartWorld} {endpointId : String} {targets : StartTargets}
  {actor : ActorContext} {key : String} {b : Broker}

/-- The state in which a start is given up, or activated. -/
def StartWorld.reached (w : StartWorld) (cfg : Config) (targets : StartTargets) (b : Broker) :
    Broker :=
  if (w.start.verified (resultByGpuUuid (targets.map Prod.snd) true)).isAnswer &&
      (w.attest.verified (attestedIdentities (targets.map Prod.snd))).isAnswer then
    Run.run (exec cfg) b w.meanwhile
  else b

/-- The state a cleanup writes its marks to. -/
def StartWorld.settled (w : StartWorld) (cfg : Config) (targets : StartTargets) (b : Broker) :
    Broker :=
  Run.run (exec cfg) (w.reached cfg targets b) w.afterwards

/-- The start is confirmed: the helper answers and attests the batch, the endpoint is collected, and
the activation is accepted. -/
def StartWorld.Confirms (w : StartWorld) (cfg : Config) (endpointId : String)
    (targets : StartTargets) (actor : ActorContext) (key : String) (b : Broker) : Prop :=
  (w.start.verified (resultByGpuUuid (targets.map Prod.snd) true)).isAnswer = true ∧
    w.collected = true ∧ w.activates = true ∧ ∃ identities,
      w.attest.verified (attestedIdentities (targets.map Prod.snd)) = .answered identities ∧
      ∃ b' r, w.activation cfg endpointId targets actor key identities
        (Run.run (exec cfg) b w.meanwhile) = .ok (b', r)

theorem adapterError_of_verified {α β : Type} {r : Reply α} {check : α → Except String β}
    {message : String} {uncertain : Bool} (h : r.verified check = .adapterError message uncertain) :
    r = .adapterError message uncertain := by
  unfold Reply.verified at h
  cases r with
  | answered a =>
    dsimp only at h
    split at h <;> cases h
  | adapterError m u =>
    cases h
    rfl
  | brokerError code => cases h
  | failed => cases h

/-- Unless the adapter failed before it asked, the helper may have started a worker. -/
theorem mayRun_of_verified {check : List HelperResult → Except String Unit}
    (h : ∀ message uncertain, w.start.verified check ≠ .adapterError message uncertain) :
    w.mayRun = true := by
  unfold StartWorld.mayRun
  cases hs : w.start with
  | adapterError message uncertain => exact absurd (by rw [hs]; rfl) (h message uncertain)
  | _ => rfl

/-- After the attestation a start is activated, or cleaned up. -/
theorem confirmStart_cases (cfg : Config) (w : StartWorld) (endpointId : String)
    (targets : StartTargets) (actor : ActorContext) (key : String)
    (identities : List (String × ℕ × String)) (b : Broker) :
    ((w.collected = true ∧ w.activates = true ∧ ∃ b' r, w.activation cfg endpointId targets actor
        key identities (Run.run (exec cfg) b w.meanwhile) = .ok (b', r)) ∧
      ∃ b' r, w.activation cfg endpointId targets actor key identities
        (Run.run (exec cfg) b w.meanwhile) = .ok (b', r) ∧
      confirmStart cfg w endpointId targets actor key identities b =
        { broker := b', mayRun := w.mayRun, stopped := false, error := none }) ∨
    (¬ (w.collected = true ∧ w.activates = true ∧ ∃ b' r, w.activation cfg endpointId targets actor
        key identities (Run.run (exec cfg) b w.meanwhile) = .ok (b', r)) ∧
      ∃ code, confirmStart cfg w endpointId targets actor key identities b =
        cleanupFailedStart cfg w endpointId targets code true
          (Run.run (exec cfg) b w.meanwhile)) := by
  unfold confirmStart
  cases hc : w.collected with
  | false => exact Or.inr ⟨fun h => Bool.false_ne_true h.1, _, rfl⟩
  | true =>
    cases hact : w.activates with
    | false => exact Or.inr ⟨fun h => Bool.false_ne_true h.2.1, _, rfl⟩
    | true =>
      cases hok : w.activation cfg endpointId targets actor key identities
          (Run.run (exec cfg) b w.meanwhile) with
      | ok r => exact Or.inl ⟨⟨rfl, rfl, r.1, r.2, rfl⟩, r.1, r.2, rfl, by simp [hok]⟩
      | error e =>
        refine Or.inr ⟨?_, ?_⟩
        · rintro ⟨-, -, b', r, h⟩
          cases h
        cases e with
        | refused e => exact ⟨e.code, by simp [hok]⟩
        | _ => exact ⟨_, by simp [hok]; rfl⟩

/-- **A start is confirmed or cleaned up.** -/
theorem startBatch_cases (cfg : Config) (w : StartWorld) (endpointId : String)
    (targets : StartTargets) (actor : ActorContext) (key : String) (b : Broker) :
    (w.Confirms cfg endpointId targets actor key b ∧ ∃ identities b' r,
      w.attest.verified (attestedIdentities (targets.map Prod.snd)) = .answered identities ∧
      w.activation cfg endpointId targets actor key identities
        (Run.run (exec cfg) b w.meanwhile) = .ok (b', r) ∧
      startBatch cfg w endpointId targets actor key b =
        { broker := b', mayRun := w.mayRun, stopped := false, error := none }) ∨
    (¬ w.Confirms cfg endpointId targets actor key b ∧ ∃ code,
      startBatch cfg w endpointId targets actor key b =
        cleanupFailedStart cfg w endpointId targets code w.mayRun (w.reached cfg targets b)) := by
  unfold startBatch StartWorld.Confirms StartWorld.reached
  cases hs : w.start.verified (resultByGpuUuid (targets.map Prod.snd) true) with
  | adapterError message uncertain =>
    have hrun : w.mayRun = uncertain := by
      unfold StartWorld.mayRun
      rw [adapterError_of_verified hs]
    exact Or.inr ⟨fun h => Bool.false_ne_true h.1, _, by rw [hrun]; rfl⟩
  | brokerError code =>
    have hrun := mayRun_of_verified fun m u h => by rw [hs] at h; cases h
    exact Or.inr ⟨fun h => Bool.false_ne_true h.1, code, by rw [hrun]; rfl⟩
  | failed =>
    have hrun := mayRun_of_verified fun m u h => by rw [hs] at h; cases h
    exact Or.inr ⟨fun h => Bool.false_ne_true h.1, _, by rw [hrun]; rfl⟩
  | answered results =>
    have hrun := mayRun_of_verified fun m u h => by rw [hs] at h; cases h
    rw [hrun]
    cases ha : w.attest.verified (attestedIdentities (targets.map Prod.snd)) with
    | answered identities =>
      rcases confirmStart_cases cfg w endpointId targets actor key identities b with
        ⟨⟨hc, hact, b', r, hok⟩, b'', r', hok', he⟩ | ⟨hno, code, he⟩
      · exact Or.inl ⟨⟨rfl, hc, hact, identities, rfl, b', r, hok⟩, identities, b'', r', rfl, hok',
          by rw [hrun] at he; exact he⟩
      · refine Or.inr ⟨?_, code, he⟩
        rintro ⟨-, hc, hact, ids, hids, b', r, hok⟩
        cases hids
        exact hno ⟨hc, hact, b', r, hok⟩
    | adapterError message uncertain =>
      refine Or.inr ⟨?_, _, rfl⟩
      rintro ⟨-, -, -, ids, hids, -⟩
      cases hids
    | brokerError code =>
      refine Or.inr ⟨?_, code, rfl⟩
      rintro ⟨-, -, -, ids, hids, -⟩
      cases hids
    | failed =>
      refine Or.inr ⟨?_, _, rfl⟩
      rintro ⟨-, -, -, ids, hids, -⟩
      cases hids

/-- **What a cleanup leaves**: its stop was answered or not, and if not, each card of the batch that
still is a row of the endpoint is marked. -/
theorem cleanup_marks {s : Broker} (hs : Intact (Run.run (exec cfg) s w.afterwards))
    (endpointId : String) (targets : StartTargets) (code : String) (cleanupRemote : Bool) :
    let x := cleanupFailedStart cfg w endpointId targets code cleanupRemote s
    x.mayRun = w.mayRun ∧ x.stopped = (cleanupRemote && w.stopAnswered targets) ∧
      x.broker.ledger = (Run.run (exec cfg) s w.afterwards).ledger ∧
      ∀ g ∈ targets.map Prod.fst, (x.broker.Marked g ↔
        (Run.run (exec cfg) s w.afterwards).Marked g ∨ (cleanupRemote = true ∧
          w.stopAnswered targets = false ∧
          (Run.run (exec cfg) s w.afterwards).Registers endpointId g)) := by
  dsimp only
  unfold cleanupFailedStart
  dsimp only
  set s' := Run.run (exec cfg) s w.afterwards
  generalize (if !w.collectedAfter && _ then _ else _ : String) = shown
  obtain ⟨plant, he, hm⟩ := setKeepaliveError_accepts hs w.recordedAt endpointId
    (publicErrorMessage shown) (targets.map Prod.fst)
    (cleanupRemote && !w.stopAnswered targets)
  rw [he]
  refine ⟨rfl, rfl, rfl, fun g hg => ?_⟩
  unfold Broker.Marked Broker.Registers
  rw [hm g]
  simp [hg, and_assoc]

/-- An activation accepted under a key on file is a replay: it writes nothing. -/
theorem activation_replayed {identities : List (String × ℕ × String)} {b' : Broker} {r : Response}
    (hf : b.ledger.replay actor "keepalive.activate_gpus" (some (key ++ ":activate-batch")) ≠
      .ok none)
    (h : w.activation cfg endpointId targets actor key identities b = .ok (b', r)) : b' = b := by
  unfold StartWorld.activation activateKeepalives at h
  simp only [bind_ok] at h
  obtain ⟨-, -, h⟩ := h
  unfold once at h
  simp only [bind_ok] at h
  obtain ⟨replay, hreplay, h⟩ := h
  cases replay with
  | none => exact absurd hreplay hf
  | some response =>
    simp only [pure_ok, Prod.mk.injEq] at h
    exact h.1.symm

/-- A confirmed start covers its batch, unless its key was on file. -/
theorem confirmed_covers (hb : Kept b) {identities : List (String × ℕ × String)} {b' : Broker}
    {r : Response} (h : w.activation cfg endpointId targets actor key identities b = .ok (b', r))
    {g : String} (hg : g ∈ targets.map Prod.fst) :
    b'.Covered g ↔
      b.ledger.replay actor "keepalive.activate_gpus" (some (key ++ ":activate-batch")) = .ok none ∨
        b.Covered g := by
  by_cases hf : b.ledger.replay actor "keepalive.activate_gpus"
      (some (key ++ ":activate-batch")) = .ok none
  · exact iff_of_true (Or.inl (activate_keeps hb hf h hg)) (Or.inl hf)
  · rw [activation_replayed hf h]
    exact ⟨Or.inr, fun hc => hc.resolve_left hf⟩

/-- A keeper is a matter of the ledger. -/
theorem keeperOf_congr {b b' : Broker} {i g : String} (h : b'.ledger = b.ledger) :
    b'.KeeperOf i g ↔ b.KeeperOf i g :=
  ⟨fun hk => ⟨h ▸ hk.lease, h ▸ hk.cards⟩, fun hk => ⟨h.symm ▸ hk.lease, h.symm ▸ hk.cards⟩⟩

/-- **Exactly when no worker is forgotten.** A confirmed start accounts for its batch if the key of
its activation is new, and otherwise only for the cards that were accounted for already; any other
start does if its stop was answered, and otherwise for the cards that still are rows of the
endpoint, or were accounted for already. -/
theorem start_accounts_iff (hb : Reachable cfg b) :
    (startBatch cfg w endpointId targets actor key b).Accounts (targets.map Prod.fst) ↔
      (w.mayRun = true → ∀ g ∈ targets.map Prod.fst,
        (w.Confirms cfg endpointId targets actor key b →
          (Run.run (exec cfg) b w.meanwhile).ledger.replay actor "keepalive.activate_gpus"
              (some (key ++ ":activate-batch")) = .ok none ∨
            (Run.run (exec cfg) b w.meanwhile).Covered g) ∧
        (¬ w.Confirms cfg endpointId targets actor key b →
          w.stopAnswered targets = true ∨ (w.settled cfg targets b).Registers endpointId g ∨
            (w.settled cfg targets b).Covered g)) := by
  have hkept : ∀ s ops, Kept s → Kept (Run.run (exec cfg) s ops) := fun _ ops => run_kept cfg ops
  have hreached : Kept (w.reached cfg targets b) := by
    unfold StartWorld.reached
    split
    · exact hkept _ _ hb.kept
    · exact hb.kept
  rcases startBatch_cases cfg w endpointId targets actor key b with
    ⟨hc, identities, b', r, -, hok, he⟩ | ⟨hno, code, he⟩
  · rw [he]
    refine forall_congr' fun _ => forall₂_congr fun g hg => ?_
    rw [← confirmed_covers (hkept _ _ hb.kept) hok hg]
    unfold Broker.Covered
    simp [hc]
  · rw [he]
    obtain ⟨hrun, hstop, hledger, hmarks⟩ :=
      cleanup_marks (hkept _ w.afterwards hreached).intact endpointId targets code w.mayRun
    unfold Start.Accounts
    rw [hrun, hstop]
    refine forall_congr' fun hmay => forall₂_congr fun g hg => ?_
    have hkeeper : ∀ i, (cleanupFailedStart cfg w endpointId targets code w.mayRun
        (w.reached cfg targets b)).broker.KeeperOf i g ↔ (w.settled cfg targets b).KeeperOf i g :=
      fun i => keeperOf_congr hledger
    rw [hmarks g hg]
    simp only [hkeeper]
    rw [hmay]
    unfold Broker.Covered
    change _ ∨ _ ∨ (w.settled cfg targets b).Marked g ∨ _ ∧ _ ∧
      (w.settled cfg targets b).Registers endpointId g ↔ _
    cases hs : w.stopAnswered targets with
    | true => simp [hno]
    | false =>
      simp only [hno, not_false_eq_true, false_implies, forall_const, true_and, Bool.and_false,
        Bool.false_eq_true, false_or]
      tauto

end

/-! ## A repeated key -/

/-- A look at both cards of `alpha`, with these workers on them. -/
def lookAtWorkers (at_ : Time) (workers : List (String × ℕ)) : Op :=
  .ingestObservation at_ (lookAtTwo "alpha" "GPU-0" "GPU-1" twoCards_ne at_
    (workers.map fun x => sampleProcess x.1 x.2)) sampleToken

/-- The first card was started under the key `again`, the second is idle. -/
def firstStarted : Broker :=
  Run.run (exec plainConfig) sampleFleet
    [lookAtWorkers 0 [], lookAtWorkers (seconds 10) [("GPU-0", 7)],
     .activateKeepalives (seconds 10) (sampleActor "ann") "alpha" ["alpha:GPU-0"] (seconds 5)
      "again:activate-batch" (some [("alpha:GPU-0", 7, "boot")]) fun _ => "keeper"]

/-- The helper starts a worker on the second card and attests it, and the collector sees it. -/
def secondStarts : StartWorld where
  start := .answered [{ gpuUuid := "GPU-1", status := "running" }]
  attest := .answered [{
    gpuUuid := "GPU-1", pid := 8, driverPid := 8, bootId := "boot", startTimeTicks := 1
    workerMarker := keepaliveWorkerMarker }]
  stop := .failed
  meanwhile := [lookAtWorkers (seconds 20) [("GPU-0", 7), ("GPU-1", 8)]]
  notBefore := seconds 15
  confirmedAt := seconds 20
  recordedAt := seconds 20
  token := fun _ => "second"

/-- The second start, under the key of the first. -/
def secondStart : Start :=
  startBatch plainConfig secondStarts "alpha" [("alpha:GPU-1", "GPU-1")] (sampleActor "ann") "again"
    firstStarted

theorem firstStarted_reachable : Reachable plainConfig firstStarted :=
  ⟨_, sampleFleet_seeded, _, rfl⟩

theorem secondStart_forgotten : secondStart.error = none ∧ secondStart.mayRun = true ∧
    secondStart.stopped = false ∧
    secondStart.broker.plant.processes.any (fun x => x.pid = 8 ∧ x.gpuId = "alpha:GPU-1") = true ∧
    secondStart.broker.ledger.resources.all (fun r => r.gpuId ≠ "alpha:GPU-1") = true ∧
    secondStart.broker.plant.marked "alpha:GPU-1" = false := by
  decide +kernel

/-- **A repeated key**: a start under a key that is on file is confirmed by the answer of the
earlier one, and the worker it began has neither a keeper nor a cleanup. -/
theorem repeated_key_orphans :
    ¬ ∀ (cfg : Config) (w : StartWorld) (endpointId : String) (targets : StartTargets)
      (actor : ActorContext) (key : String) (b : Broker), Reachable cfg b →
      (startBatch cfg w endpointId targets actor key b).Accounts (targets.map Prod.fst) := by
  intro h
  obtain ⟨-, hrun, hstop, -, hfree, hclean⟩ := secondStart_forgotten
  rcases h _ secondStarts "alpha" [("alpha:GPU-1", "GPU-1")] (sampleActor "ann") "again"
    firstStarted firstStarted_reachable hrun "alpha:GPU-1" (List.mem_singleton_self _) with
    ⟨i, -, hcards⟩ | hstopped | hmarked
  · obtain ⟨r, hr, hg⟩ := List.mem_map.1 (hcards.symm ▸ List.mem_singleton_self "alpha:GPU-1")
    have hne := List.all_eq_true.1 hfree r (mem_cards.1 hr).1
    simp [hg] at hne
  · exact Bool.false_ne_true (hstop.symm.trans hstopped)
  · exact Bool.false_ne_true (hclean.symm.trans hmarked)

/-- The same start under a new key gives the worker a keeper. -/
theorem new_key_accounts :
    (startBatch plainConfig secondStarts "alpha" [("alpha:GPU-1", "GPU-1")] (sampleActor "ann")
      "once" firstStarted).Accounts ([("alpha:GPU-1", "GPU-1")].map Prod.fst) := by
  refine (start_accounts_iff firstStarted_reachable).2 fun _ g _ =>
    ⟨fun _ => Or.inl (by decide +kernel), fun hno => ?_⟩
  refine absurd ⟨rfl, rfl, rfl, [("GPU-1", 8, "boot")], rfl, ?_⟩ hno
  obtain ⟨b', resp, h, -⟩ := accepted_of_check
    (x := secondStarts.activation plainConfig "alpha" [("alpha:GPU-1", "GPU-1")]
      (sampleActor "ann") "once" [("GPU-1", 8, "boot")]
      (Run.run (exec plainConfig) firstStarted secondStarts.meanwhile))
    (P := fun _ => True) (by decide +kernel) fun _ _ => trivial
  exact ⟨b', resp, h⟩

end ServerPilot
