import ServerPilot.Proof.Commits
import ServerPilot.Proof.Derived

/-!
# The evidence behind a keeper

A keeper's lease ends by a stop only on records that are no older than the stop, and
begins or is confirmed only on those that show one process on its card, the attested
one: `stop_proved` and `start_proved`.
-/

namespace ServerPilot

open Rows Checked

/-! ## Evidence -/

/-- The endpoint was collected since `barrier`: its host reading, and the provider's last
success. -/
structure Plant.CollectedSince (p : Plant) (endpointId : String) (barrier : Time)
    (h : HostTelemetry) : Prop where
  host : p.host? endpointId "self" = some h
  reading : barrier ≤ h.collectedAt
  success : ∃ s t, p.providerState? endpointId = some s ∧ s.lastSuccessAt = some t ∧ barrier ≤ t

/-- The card was read since `barrier`, in the same snapshot as the host. -/
structure Plant.CardReadSince (p : Plant) (endpointId : String) (barrier : Time) (g : GPUDevice)
    (h : HostTelemetry) (t : TelemetryCurrent) : Prop where
  collected : p.CollectedSince endpointId barrier h
  card : p.gpu? g.id = some g ∧ g.endpointId = endpointId ∧ g.present = true
  reading : p.telemetry? g.id = some t
  fresh : barrier ≤ t.collectedAt
  snapshot : t.observedAt = h.observedAt

/-- What a stop rests on: the endpoint was collected since the barrier, and the card is gone from
its inventory, or was read since with nothing on it but the expected worker, last seen before. -/
inductive StopProved (p : Plant) (endpointId : String) (barrier : Time) (g : GPUDevice) : Prop
  | gone (h : HostTelemetry) (hc : p.CollectedSince endpointId barrier h)
      (hg : p.gpu? g.id = some g ∧ g.endpointId = endpointId ∧ g.present = false)
  | empty (h : HostTelemetry) (t : TelemetryCurrent)
      (hr : p.CardReadSince endpointId barrier g h t)
      (hx : ∀ x ∈ p.currentProcesses g.id, x.lastSeenAt < barrier ∧
        (p.keepalive? g.id).bind KeepaliveCurrent.expectedKey = some x.key)

/-- What a start rests on: the card was read since the barrier with one process on it, the attested
one where the helper attested any. -/
structure StartProved (p : Plant) (endpointId : String) (barrier : Time)
    (confirmed : Option (List (String × ℕ × String))) (g : GPUDevice) : Prop where
  read : ∃ h t, p.CardReadSince endpointId barrier g h t
  alone : ∃ x, p.currentProcesses g.id = [x] ∧
    ∀ ids ∈ confirmed, ids.lookup g.id = some (x.pid, x.bootId)

/-! ## Reading the checks -/

section

variable {p : Plant} {endpointId g : String} {gpuIds : List String} {threshold : Time}
  {processes ps : List ProcessObservation}

theorem observedSince_collected (h : p.observedSince endpointId threshold = true) :
    ∃ t, p.CollectedSince endpointId threshold t := by
  unfold Plant.observedSince at h
  rw [Bool.and_eq_true, Option.any_eq_true, Option.any_eq_true] at h
  obtain ⟨⟨t, ht, hc⟩, s, hs, hl⟩ := h
  obtain ⟨u, hu, hb⟩ := Option.any_eq_true _ _ |>.1 hl
  exact ⟨t, ht, by simpa using hc, s, u, hs, hu, by simpa using hb⟩

/-- A validated card is gone, or was read since, and its current processes are what it runs. -/
theorem validateKeepaliveCard_ok (ho : p.observedSince endpointId threshold = true)
    (h : p.validateKeepaliveCard endpointId threshold g = .ok ps) :
    ∃ d, d.id = g ∧ p.gpu? g = some d ∧ d.endpointId = endpointId ∧
      ((d.present = false ∧ ps = []) ∨
        (ps = p.currentProcesses g ∧ ∃ h t, p.CardReadSince endpointId threshold d h t)) := by
  unfold Plant.validateKeepaliveCard at h
  simp only [bind_ok, need_ok] at h
  obtain ⟨d, hd, h⟩ := h
  obtain ⟨hd, he⟩ := Option.filter_eq_some_iff.1 hd
  obtain rfl := (row?_some hd).2
  refine ⟨d, rfl, hd, by simpa using he, ?_⟩
  split at h
  · rename_i hp
    simp only [pure_ok] at h
    exact Or.inl ⟨by simpa using hp, h.symm⟩
  · rename_i hp
    simp only [bind_ok, require_ok, pure_ok] at h
    obtain ⟨-, hc, rfl⟩ := h
    unfold Plant.coveredSince at hc
    obtain ⟨t, ht, hc⟩ := Option.any_eq_true _ _ |>.1 hc
    rw [Bool.and_eq_true, decide_eq_true_eq, Option.any_eq_true] at hc
    obtain ⟨hf, k, hk, hs⟩ := hc
    obtain ⟨k', hcol⟩ := observedSince_collected ho
    obtain rfl : k = k' := Option.some.inj (hk.symm.trans hcol.host)
    exact Or.inr ⟨rfl, k, t, hcol, ⟨hd, by simpa using he, by simpa using hp⟩, ht, hf,
      by simpa using hs⟩

theorem validateKeepaliveObservation_ok
    (h : p.validateKeepaliveObservation endpointId gpuIds threshold = .ok processes) :
    p.observedSince endpointId threshold = true ∧ ∃ pss,
      List.Forall₂ (fun g ps => p.validateKeepaliveCard endpointId threshold g = .ok ps) gpuIds
        pss ∧
        processes = pss.flatten := by
  unfold Plant.validateKeepaliveObservation at h
  simp only [bind_ok, require_ok, pure_ok] at h
  obtain ⟨-, ho, pss, hp, rfl⟩ := h
  exact ⟨ho, pss, mapM_ok hp, rfl⟩

/-- The processes a card was validated with are on it. -/
theorem validated_on (h : p.validateKeepaliveCard endpointId threshold g = .ok ps) :
    ∀ x ∈ ps, x.gpuId = g := by
  unfold Plant.validateKeepaliveCard at h
  simp only [bind_ok, need_ok] at h
  obtain ⟨d, -, h⟩ := h
  intro x hx
  split at h
  · simp only [pure_ok] at h
    rw [← h] at hx
    cases hx
  · simp only [bind_ok, require_ok, pure_ok] at h
    obtain ⟨-, -, rfl⟩ := h
    simpa using (by simpa using (List.mem_filter.1 hx).2 : x.gpuId = g ∧ x.active = true).1

/-- Among distinct validated cards, a card's share of the processes is its own list. -/
theorem share_of_validated {pss : List (List ProcessObservation)}
    (h : List.Forall₂ (fun g ps => p.validateKeepaliveCard endpointId threshold g = .ok ps) gpuIds
      pss)
    (hn : gpuIds.Nodup) (hg : g ∈ gpuIds) :
    ∃ ps, p.validateKeepaliveCard endpointId threshold g = .ok ps ∧
      (pss.flatten.filter fun x => x.gpuId = g) = ps := by
  induction h with
  | nil => cases hg
  | @cons k ks gs pss hk hrest ih =>
    obtain ⟨hnot, hn⟩ := List.nodup_cons.1 hn
    rw [List.flatten_cons, List.filter_append]
    rcases List.mem_cons.1 hg with rfl | hg
    · have hall : (ks.filter fun x => x.gpuId = g) = ks := by
        rw [List.filter_eq_self]
        intro x hx
        simpa using validated_on hk x hx
      have hnone : (pss.flatten.filter fun x => x.gpuId = g) = [] := by
        rw [List.filter_eq_nil_iff]
        intro x hx
        obtain ⟨ps, hps, hx⟩ := List.mem_flatten.1 hx
        obtain ⟨k, hk, hv⟩ := exists_of_forall₂ hrest hps
        have hxk := validated_on hv x hx
        simpa [hxk] using fun he : k = g => hnot (he ▸ hk)
      exact ⟨ks, hk, by rw [hall, hnone, List.append_nil]⟩
    · obtain ⟨ps, hps, he⟩ := ih hn hg
      have hnone : (ks.filter fun x => x.gpuId = g) = [] := by
        rw [List.filter_eq_nil_iff]
        intro x hx
        have hxk := validated_on hk x hx
        simpa [hxk] using fun he : k = g => hnot (he ▸ hg)
      exact ⟨ps, hps, by rw [hnone, he, List.nil_append]⟩

end

/-! ## Stopping -/

/-- A live keepalive lease. -/
def Ledger.keeps (l : Ledger) (id : String) : Prop :=
  ∃ x, l.lease? id = some x ∧ x.kind = .keepalive ∧ x.state.live = true

/-- An active keepalive lease that holds this card. -/
def Ledger.keeperOn (l : Ledger) (id gpuId : String) : Prop :=
  ∃ x, l.lease? id = some x ∧ x.kind = .keepalive ∧ x.state = .active ∧
    gpuId ∈ (l.folio id).cardSet

section

variable {cfg : Config} {now : Time} {actor : ActorContext} {b b' : Broker} {resp : Response}
  {endpointId leaseId : String} {barrier : Time}

/-- **A stop** ends its own keeper alone, and only on evidence about that keeper's card. -/
theorem stop_proved {key : Option String} {id : String}
    (h : finalizeKeepaliveStop now actor endpointId leaseId barrier key b = .ok (b', resp))
    (hb : b.ledger.keeps id) (hb' : ¬ b'.ledger.keeps id) :
    id = leaseId ∧ ∃ g, (b.ledger.cards id).map LeaseResource.gpuId = [g.id] ∧
      StopProved b.plant endpointId barrier g := by
  rcases finalizeKeepaliveStop_ok h with rfl | ⟨lease, gpuId, ps, -, -, -, hc, hp, hq, -, rfl⟩
  · exact absurd hb hb'
  have hid : id = leaseId := by
    by_contra hne
    refine hb' ?_
    obtain ⟨x, hx, hk⟩ := hb
    refine ⟨x, ?_, hk⟩
    rw [← folio_lease, folio_remember]
    exact (congrArg Folio.lease (folio_endLease_ne (l := b.ledger.bumpRevision) .released _ now
      hne)).trans hx
  subst hid
  obtain ⟨ho, pss, hpss, rfl⟩ := validateKeepaliveObservation_ok hp
  obtain ⟨ps, hv, hshare⟩ := share_of_validated hpss (List.nodup_singleton _)
    (List.mem_singleton_self _)
  obtain ⟨d, rfl, hd, he, hcase⟩ := validateKeepaliveCard_ok ho hv
  refine ⟨rfl, d, hc, ?_⟩
  rcases hcase with ⟨hgone, -⟩ | ⟨rfl, k, t, hread⟩
  · obtain ⟨k, hk⟩ := observedSince_collected ho
    exact .gone k hk ⟨hd, he, hgone⟩
  · refine .empty k t hread fun x hx => ?_
    rw [← hshare] at hx
    have hblock := hq x (List.mem_of_mem_filter hx)
    unfold ProcessObservation.blocksStop at hblock
    simp only [decide_eq_false_iff_not, not_or, not_not, not_le] at hblock
    exact ⟨hblock.2, hblock.1.symm⟩

/-! ## Starting -/

/-- A lease no target names stays as it is. -/
theorem lease?_activateKeepers (token : String → String) (actorId : String) {id : String}
    {x : Lease} (ts : List (GPUDevice × Option Lease)) {l : Ledger} (hx : l.lease? id = some x)
    (hne : ∀ t ∈ ts, ∀ y ∈ t.2, y.id ≠ id) :
    (ts.foldl (Ledger.activateKeeper cfg endpointId actorId token now) l).lease? id = some x := by
  induction ts generalizing l with
  | nil => exact hx
  | cons t ts ih =>
    refine ih ?_ fun t' ht' => hne t' (List.mem_cons_of_mem t ht')
    unfold Ledger.activateKeeper
    cases ht : t.2 with
    | some y =>
      have hy : id ≠ y.id := fun he => hne t List.mem_cons_self y ht he.symm
      have h := lease?_editLease l id y.id (f := Lease.keeperConfirmed now) fun _ => rfl
      rw [if_neg hy, hx] at h
      exact h
    | none =>
      have h : ∀ k : Lease, row? Lease.id id (l.leases ++ [k]) = some x := by
        intro k
        have hx' : row? Lease.id id l.leases = some x := hx
        rw [row?_append, hx']
        rfl
      exact h _

/-- Exactly one process on each target, and the attested one. -/
theorem one_worker {gpuIds : List String} {processes : List ProcessObservation}
    (hw : requireOneWorkerEach gpuIds processes = .ok ()) {g : String} (hg : g ∈ gpuIds) :
    ∃ x, (processes.filter fun x => x.gpuId = g) = [x] := by
  unfold requireOneWorkerEach at hw
  simp only [bind_ok, require_ok] at hw
  obtain ⟨-, -, hone⟩ := hw
  rw [← List.length_eq_one_iff]
  by_contra hne
  have hmem : g ∈ gpuIds.filter fun g => (processes.filter fun x => x.gpuId = g).length ≠ 1 :=
    List.mem_filter.2 ⟨hg, by simpa using hne⟩
  rw [hone] at hmem
  cases hmem

theorem attested_worker {gpuIds : List String} {processes : List ProcessObservation}
    {ids : List (String × ℕ × String)}
      (hc : validateWorkerConfirmation gpuIds processes ids = .ok ())
    {g : String} (hg : g ∈ gpuIds) {x : ProcessObservation}
    (hx : (processes.filter fun x => x.gpuId = g) = [x]) :
    ids.lookup g = some (x.pid, x.bootId) := by
  unfold validateWorkerConfirmation at hc
  simp only [bind_ok] at hc
  obtain ⟨-, -, hc⟩ := hc
  have hg := forM_ok hc g hg
  simp only [bind_ok, require_ok, hx] at hg
  obtain ⟨-, -, -, -, hm⟩ := hg
  simpa using hm.symm

/-- A target of an activation runs the one process the evidence shows. -/
theorem target_proved {gpuIds : List String} {confirmed : Option (List (String × ℕ × String))}
    {processes : List ProcessObservation} (hn : gpuIds.Nodup)
    (hp : b.plant.validateKeepaliveObservation endpointId gpuIds barrier = .ok processes)
    (hw : requireOneWorkerEach gpuIds processes = .ok ())
    (hc : ∀ ids ∈ confirmed, validateWorkerConfirmation gpuIds processes ids = .ok ())
    {gpuId : String} (hg : gpuId ∈ gpuIds) :
    ∃ g, g.id = gpuId ∧ StartProved b.plant endpointId barrier confirmed g := by
  obtain ⟨ho, pss, hpss, rfl⟩ := validateKeepaliveObservation_ok hp
  obtain ⟨ps, hv, hshare⟩ := share_of_validated hpss hn hg
  obtain ⟨x, hx⟩ := one_worker hw hg
  obtain ⟨d, rfl, -, -, hcase⟩ := validateKeepaliveCard_ok ho hv
  rcases hcase with ⟨-, rfl⟩ | ⟨rfl, hread⟩
  · rw [hshare] at hx
    cases hx
  · exact ⟨d, rfl, hread, x, hshare ▸ hx, fun ids hids => attested_worker (hc ids hids) hg hx⟩

/-- **A start** makes a lease an active keeper of a card only if no other lease holds the card, and
only on evidence about the card. -/
theorem start_proved (hk : Kept b) {gpuIds : List String} {key : String}
    {confirmed : Option (List (String × ℕ × String))} {token : String → String}
    {id gpuId : String}
    (h : activateKeepalives cfg now actor endpointId gpuIds barrier key confirmed token b =
      .ok (b', resp)) (hb : ¬ b.ledger.keeperOn id gpuId) (hb' : b'.ledger.keeperOn id gpuId) :
    (∀ r ∈ b.ledger.activeResources, r.gpuId = gpuId → r.leaseId = id) ∧
      ∃ g, g.id = gpuId ∧ StartProved b.plant endpointId barrier confirmed g := by
  have hopen := activate_opening hk.intact hk.wellkept h
  have hi' := @apply_intact cfg (.activateKeepalives now actor endpointId gpuIds barrier key
    confirmed token) b b' resp hk.intact h
  rcases activateKeepalives_ok h with rfl | ⟨targets, processes, ht, hn, hp, hw, hc, -, hb₁⟩
  · exact absurd hb' hb
  rcases hopen with rfl | ⟨-, hopen⟩
  · exact absurd hb' hb
  -- the card is a target
  have hg : gpuId ∈ gpuIds := by
    obtain ⟨y, hy, hkind, hstate, hcard⟩ := hb'
    cases hx : b.ledger.holding? id with
    | none =>
      rcases hopen.new id hx with hnone | ⟨k, hk', -, -, hsub⟩
      · rw [holding_of_lease hy] at hnone
        cases hnone
      · rw [holding_of_lease hy] at hk'
        cases hk'
        exact List.mem_toFinset.1 (hsub hcard)
    | some k =>
      have hrows := (hopen.old id (by rw [hx]; simp)).2
      obtain ⟨x, hx', -⟩ := lease_of_holding hx
      have hcard' : gpuId ∈ (b.ledger.folio id).cardSet := by
        unfold Folio.cardSet Folio.active at hcard ⊢
        rwa [hrows] at hcard
      by_cases hnamed : ∃ t ∈ targets, ∃ z ∈ t.2, z.id = id
      · obtain ⟨t, htm, z, hz, rfl⟩ := hnamed
        obtain ⟨g, hgm, hgt⟩ := mem_of_mapM_ok ht htm
        obtain ⟨-, -, -, hex⟩ := keepaliveTarget_ok hgt
        obtain ⟨r, hr, hrg⟩ := mem_cardSet.1 hcard'
        have hmem : r.gpuId ∈ (b.ledger.cards z.id).map LeaseResource.gpuId :=
          List.mem_map_of_mem hr
        rw [(hex z hz).2, List.mem_singleton] at hmem
        rw [← hrg, hmem]
        exact hgm
      · push Not at hnamed
        have hsame : b'.ledger.lease? id = some x := by
          rw [hb₁]
          rw [← folio_lease, folio_remember]
          exact lease?_activateKeepers token actor.id targets (l := b.ledger.bumpRevision) hx'
            hnamed
        rw [hy] at hsame
        cases hsame
        exact absurd ⟨y, hx', hkind, hstate, hcard'⟩ hb
  refine ⟨fun r hr hrg => ?_, target_proved hn hp hw hc hg⟩
  -- every active row there was still stands, and no card is active twice
  obtain ⟨hrm, hra⟩ := List.mem_filter.1 hr
  obtain ⟨y, -, -, -, hcard⟩ := hb'
  obtain ⟨r', hr', hrg'⟩ := mem_cardSet.1 hcard
  obtain ⟨hr'm, hr'id, hr'a⟩ := mem_cards.1 hr'
  obtain ⟨x, hx, -⟩ := hk.lease_of_active hrm (of_decide_eq_true hra)
  have hrows := (hopen.old r.leaseId (by rw [holding_of_lease hx]; simp)).2
  have hr₁ : r ∈ (b'.ledger.folio r.leaseId).rows := by
    rw [hrows]
    exact List.mem_filter.2 ⟨hrm, by simp⟩
  have hrm' : r ∈ b'.ledger.resources := (List.mem_filter.1 hr₁).1
  have he : r = r' := List.inj_on_of_nodup_map hi'.activeGpu (List.mem_filter.2 ⟨hrm', hra⟩)
    (List.mem_filter.2 ⟨hr'm, decide_eq_true hr'a⟩) (hrg.trans hrg'.symm)
  rw [he]
  exact hr'id

end

/-! ## A keeper's life -/

/-- A keeper seen at work on an idle card. -/
def keeperSeen : Broker :=
  Run.run (exec plainConfig) sampleFleet
    [.ingestObservation 0 (lookAtOne "alpha" "GPU-0" 0 []) sampleToken,
     .ingestObservation (seconds 10) (lookAtOne "alpha" "GPU-0" (seconds 10) [7]) sampleToken]

/-- Its activation, with or without an attestation. -/
def activateSeen (confirmed : Option (List (String × ℕ × String))) (b : Broker) :
    Tx (Broker × Response) :=
  activateKeepalives plainConfig (seconds 10) (sampleActor "ann") "alpha" ["alpha:GPU-0"]
    (seconds 5) "start" confirmed (fun _ => "keeper") b

/-- The attested keeper, and then a look at the card. -/
def keeperLater (pids : List ℕ) : Broker :=
  Run.run (exec plainConfig) keeperSeen
    [.activateKeepalives (seconds 10) (sampleActor "ann") "alpha" ["alpha:GPU-0"] (seconds 5)
      "start" (some [("alpha:GPU-0", 7, "boot")]) fun _ => "keeper",
     .ingestObservation (seconds 20) (lookAtOne "alpha" "GPU-0" (seconds 20) pids) sampleToken]

/-- A stop of the keeper told to it at 15 s. -/
def stopKeeper (b : Broker) : Tx (Broker × Response) :=
  finalizeKeepaliveStop (seconds 20) (sampleActor "ann") "alpha" "keeper" (seconds 15) none b

theorem keeperSeen_reachable : Reachable plainConfig keeperSeen := ⟨_, sampleFleet_seeded, _, rfl⟩

theorem keeperLater_reachable (pids : List ℕ) : Reachable plainConfig (keeperLater pids) := by
  obtain ⟨b₀, hs, ops, h⟩ := keeperSeen_reachable
  exact ⟨b₀, hs, ops ++ [_, _], by rw [Run.run_append, ← h]; rfl⟩

instance (l : Ledger) (id : String) : Decidable (l.keeps id) :=
  inferInstanceAs (Decidable (∃ x, l.lease? id = some x ∧ x.kind = .keepalive ∧
    x.state.live = true))

instance (l : Ledger) (id gpuId : String) : Decidable (l.keeperOn id gpuId) :=
  inferInstanceAs (Decidable (∃ x, l.lease? id = some x ∧ x.kind = .keepalive ∧
    x.state = .active ∧ gpuId ∈ (l.folio id).cardSet))

/-- An accepted call, from a check that it is one and of what it leaves. -/
theorem accepted_of_check {x : Tx (Broker × Response)} {P : Broker → Prop}
    (hok : x.toOption.isSome = true) (hP : ∀ r ∈ x.toOption, P r.1) :
    ∃ b' resp, x = .ok (b', resp) ∧ P b' := by
  cases x with
  | error e => cases hok
  | ok r => exact ⟨r.1, r.2, rfl, hP r rfl⟩

end ServerPilot
