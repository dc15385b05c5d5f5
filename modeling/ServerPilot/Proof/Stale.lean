import ServerPilot.Proof.Clocks
import ServerPilot.Spec.Capacity

/-!
# Observations that come late

Collections of one endpoint may be received out of order. The staleness test of
`ingest_observation` looks at the nodes of an observation, and only when there are
some and none failed: a capacity or an allocation report, and a partial
collection, is taken in however old it is. `late_harmless` says when a late report
changes nothing.
-/

namespace ServerPilot

open Rows Checked

/-- Two reports of one endpoint, the first observed before the second, node by node. -/
structure EndpointReport.Before (a r : EndpointReport) : Prop where
  endpoint : a.observation.endpointId = r.observation.endpointId
  observedAt : a.observedAt < r.observedAt
  nodes : ∀ n ∈ a.observation.nodes, ∀ m ∈ r.observation.nodes, n.nodeId = m.nodeId →
    n.observedAt < m.observedAt

/-- A late report the staleness test knows for one after the report `r`: it has nodes, none that
failed, and each of them was in `r` or had a later reading before it. -/
structure EndpointReport.KnownLate (a r : EndpointReport) (p : Plant) : Prop where
  nodes : a.observation.nodes ≠ []
  failures : a.observation.failures = []
  seen : ∀ n ∈ a.observation.nodes,
    n.nodeId ∈ r.observation.nodes.map NodeObservation.nodeId ∨
      p.staleNode a.observation.endpointId n = true

section

variable {cfg : Config} {now : Time} {b b' : Broker} {e : String} {n : NodeObservation}

theorem setKeepaliveCurrent_providerStates (p : Plant) (gpuId : String) (actual : KeepaliveActual)
    (reason : Option String) (expected : Option ProcessObservation) (clear : Bool)
    (pending : Option Bool) (now : Time) :
    (p.setKeepaliveCurrent gpuId actual reason expected clear pending now).providerStates =
      p.providerStates := by
  obtain ⟨keepalive, h⟩ := setKeepaliveCurrent_eq p gpuId actual reason expected clear pending now
  rw [h]

/-- A look at a node leaves what is known of the providers. -/
theorem ingested_providerStates (b : Broker) (n : NodeObservation) :
    (ingestNodeObservation cfg e now b n).plant.providerStates = b.plant.providerStates := by
  have hseen : ∀ p : Plant, (p.seeCards e n now).providerStates = p.providerStates := by
    intro p
    unfold Plant.seeCards
    apply Run.foldl_inv (I := fun q : Plant => q.providerStates = p.providerStates)
    · intro q s _ hq
      exact hq
    apply Run.foldl_inv (I := fun q : Plant => q.providerStates = p.providerStates) _ rfl
    intro q s _ hq
    exact hq
  have hprocesses : ∀ p : Plant,
      (p.seeProcesses cfg e n now).providerStates = p.providerStates := by
    intro p
    unfold Plant.seeProcesses
    simp only [Plant.setNodeState, Plant.advanceProcessAbsence]
    apply Run.foldl_inv (I := fun q : Plant => q.providerStates = p.providerStates) _ rfl
    intro q x _ hq
    rw [← hq]
    unfold Plant.sight
    simp only
    split
    · rfl
    split <;> rfl
  have hends : ∀ (s : Broker) (endpointIds : List String),
      (s.releaseAbsentKeepers endpointIds now).plant.providerStates = s.plant.providerStates := by
    intro s endpointIds
    unfold Broker.releaseAbsentKeepers
    simp only
    split <;> rfl
  unfold ingestNodeObservation
  split
  · rfl
  rw [hprocesses]
  simp only
  split
  · exact hseen _
  · rw [hends]
    exact hseen _

/-- Of the providers an observation writes that of its own server. -/
theorem absorb_providerStates (cfg : Config) (now : Time) (b : Broker) (o : EndpointObservation) :
    (b.absorb cfg now o).plant.providerStates =
      (b.plant.setProviderState (providerStateAfter b.plant o.endpointId
        (o.scheduler.isSome || o.complete) now)).providerStates := by
  unfold Broker.absorb
  simp only
  have hnodes : (o.failures.foldl (ingestNodeFailure cfg o.endpointId now)
      (o.nodes.foldl (ingestNodeObservation cfg o.endpointId now)
        { b with ledger := b.ledger.bumpRevision })).plant.providerStates =
      b.plant.providerStates := by
    apply Run.foldl_inv (I := fun s : Broker => s.plant.providerStates = b.plant.providerStates)
    · intro s f _ hs
      exact hs
    apply Run.foldl_inv (I := fun s : Broker => s.plant.providerStates = b.plant.providerStates)
    · intro s n _ hs
      exact (ingested_providerStates s n).trans hs
    · rfl
  generalize o.failures.foldl (ingestNodeFailure cfg o.endpointId now)
    (o.nodes.foldl (ingestNodeObservation cfg o.endpointId now)
      { b with ledger := b.ledger.bumpRevision }) = b₂ at hnodes
  have hclear : ∀ s : Broker,
      (s.clearKeepaliveErrors cfg o.endpointId o.complete now).plant.providerStates =
        s.plant.providerStates := by
    intro s
    unfold Broker.clearKeepaliveErrors
    split <;> rfl
  have hrecord : ∀ s : Broker,
      (s.recordObservedKeepalive o.endpointId o.complete now).plant.providerStates =
        s.plant.providerStates := by
    intro s
    unfold Broker.recordObservedKeepalive
    split
    · rfl
    apply Run.foldl_inv (I := fun x : Broker => x.plant.providerStates = s.plant.providerStates) _
      rfl
    intro x lease _ hx
    rw [← hx]
    unfold recordObservedKeeper
    split
    · exact setKeepaliveCurrent_providerStates _ _ _ _ _ _ _ _
    · rfl
  rw [hclear, bindNewWorkloads_plant, hrecord]
  simp only [Plant.setProviderState, providerStateAfter, Plant.providerState?, hnodes]
  rfl

/-- A look that is taken in is an attempt at its receipt. -/
theorem absorb_attempt (cfg : Config) (now : Time) (b : Broker) (o : EndpointObservation) :
    ((b.absorb cfg now o).plant.providerState? o.endpointId).map ProviderState.lastAttemptAt =
      some now := by
  unfold Plant.providerState?
  rw [absorb_providerStates]
  simp only [Plant.setProviderState]
  rw [row?_append]
  cases hold : row? ProviderState.endpointId o.endpointId (b.plant.providerStates.filter fun t =>
      t.endpointId ≠ (providerStateAfter b.plant o.endpointId
        (o.scheduler.isSome || o.complete) now).endpointId) with
  | none => simp [row?, providerStateAfter]
  | some s =>
    obtain ⟨hm, hkey⟩ := row?_some hold
    exact absurd hkey (of_decide_eq_true (List.mem_filter.1 hm).2)

/-- A node an observation looked at has a reading no older than that look. -/
theorem nodes_host_seen {ns : List NodeObservation} (hns : (ns.map NodeObservation.nodeId).Nodup)
    (hn : n ∈ ns) (b : Broker) :
    ∃ h, (ns.foldl (ingestNodeObservation cfg e now) b).plant.host? e n.nodeId = some h ∧
      n.observedAt ≤ h.observedAt := by
  induction ns generalizing b with
  | nil => cases hn
  | cons o rest ih =>
    obtain ⟨hout, hrest⟩ := List.nodup_cons.1 hns
    rcases List.mem_cons.1 hn with rfl | hm
    · rw [List.foldl_cons, nodes_host_other hout]
      cases hs : b.plant.staleNode e n with
      | true =>
        -- a later reading was there, and stays
        obtain ⟨h, hh, hlt⟩ := (Option.any_eq_true ..).1 hs
        unfold ingestNodeObservation
        rw [if_pos hs]
        exact ⟨h, hh, le_of_lt (of_decide_eq_true hlt)⟩
      | false =>
        have hself : ((ingestNodeObservation cfg e now b n).plant.host? e n.nodeId).map
            HostTelemetry.observedAt = some n.observedAt := ingested_host_self hs
        obtain ⟨h, hh, hat⟩ := Option.map_eq_some_iff.1 hself
        exact ⟨h, hh, hat.ge⟩
    · exact ih hrest hm _

/-- **The staleness of a node after a report**: a node of the report is stale for a look made
before it, another is as stale as it was. -/
theorem ingested_known {a r : EndpointReport} {token : String → String → String} {resp : Response}
    (hbefore : a.Before r) (hr : ingestObservation cfg now r.observation token b = .ok (b', resp))
    (hn : n ∈ a.observation.nodes) :
    b'.plant.staleNode a.observation.endpointId n = true ↔
      n.nodeId ∈ r.observation.nodes.map NodeObservation.nodeId ∨
        b.plant.staleNode a.observation.endpointId n = true := by
  have hlate : ∀ m ∈ r.observation.nodes, n.nodeId = m.nodeId → n.observedAt < m.observedAt :=
    hbefore.nodes n hn
  rw [hbefore.endpoint]
  cases hs : b.plant.staleObservation r.observation with
  | true =>
    rw [ingestObservation_ignored hr hs]
    -- the report was ignored: all its nodes had later readings
    refine ⟨Or.inr, fun h => h.elim (fun hm => ?_) id⟩
    obtain ⟨m, hm, hid⟩ := List.mem_map.1 hm
    have hall := (Bool.and_eq_true .. ▸ hs).2
    obtain ⟨h, hh, hlt⟩ := (Option.any_eq_true ..).1 (List.all_eq_true.1 hall m hm)
    unfold Plant.staleNode
    rw [← hid, hh, Option.any_some]
    exact decide_eq_true ((hlate m hm hid.symm).trans (of_decide_eq_true hlt))
  | false =>
    rw [ingestObservation_taken hr hs]
    unfold Plant.staleNode
    rw [absorb_host]
    by_cases hm : n.nodeId ∈ r.observation.nodes.map NodeObservation.nodeId
    · obtain ⟨m, hmem, hid⟩ := List.mem_map.1 hm
      have hseen : ∃ h, (r.observation.nodes.foldl
          (ingestNodeObservation cfg r.observation.endpointId now)
            { b with ledger := b.ledger.bumpRevision }).plant.host? r.observation.endpointId
              m.nodeId = some h ∧ m.observedAt ≤ h.observedAt :=
        nodes_host_seen (List.Nodup.of_append_left r.observation.unique_nodes) hmem _
      obtain ⟨h, hh, hle⟩ := hseen
      rw [← hid, hh, Option.any_some]
      exact ⟨fun _ => Or.inl (hid ▸ hm),
        fun _ => decide_eq_true ((hlate m hmem hid.symm).trans_le hle)⟩
    · rw [nodes_host_other hm]
      exact ⟨Or.inr, fun h => h.resolve_left hm⟩

/-- A late report is ignored exactly when it is known to be late. -/
theorem ingested_stale {a r : EndpointReport} {token : String → String → String} {resp : Response}
    (hbefore : a.Before r) (hr : ingestObservation cfg now r.observation token b = .ok (b', resp)) :
    b'.plant.staleObservation a.observation = true ↔ a.KnownLate r b.plant := by
  unfold Plant.staleObservation
  rw [Bool.and_eq_true, Bool.and_eq_true, List.all_eq_true]
  constructor
  · rintro ⟨⟨hnodes, hfailures⟩, hall⟩
    refine ⟨?_, by simpa using hfailures, fun n hn => ?_⟩
    · intro hnil
      rw [hnil] at hnodes
      cases hnodes
    · exact (ingested_known hbefore hr hn).1 (hall n hn)
  · intro h
    refine ⟨⟨?_, by simpa using h.failures⟩, fun n hn => ?_⟩
    · simpa using h.nodes
    · exact (ingested_known hbefore hr hn).2 (h.seen n hn)

/-- An accepted report, on the broker and on the capacities. -/
theorem ingestReport_ok {r : EndpointReport} {token : String → String → String} {s s' : Collected}
    (h : ingestReport cfg now r token s = .ok s') :
    ∃ resp, ingestObservation cfg now r.observation token s.broker = .ok (s'.broker, resp) ∧
      (s.broker.plant.staleObservation r.observation = true → s' = s) := by
  unfold ingestReport at h
  rw [bind_ok] at h
  obtain ⟨⟨broker, resp⟩, hbroker, h⟩ := h
  cases hs : s.broker.plant.staleObservation r.observation with
  | true =>
    simp only [hs, if_true, pure_ok] at h
    have hsame : broker = s.broker := ingestObservation_ignored hbroker hs
    refine ⟨resp, by rw [← h]; exact hbroker, fun _ => ?_⟩
    rw [← h, hsame]
  | false =>
    simp only [hs, Bool.false_eq_true, if_false, pure_ok] at h
    exact ⟨resp, by rw [← h]; exact hbroker, fun hstale => by cases hstale⟩

end

/-- **Late reports.** After a report `r` an earlier one leaves every row of the endpoint as it is
when it is known to be late, and otherwise moves at least the time of the last attempt. -/
theorem late_harmless {cfg : Config} {s s₁ s₂ : Collected} {a r : EndpointReport}
    {nowR nowA : Time} {tokenR tokenA : String → String → String} (hbefore : a.Before r)
    (hr : ingestReport cfg nowR r tokenR s = .ok s₁)
    (ha : ingestReport cfg nowA a tokenA s₁ = .ok s₂) :
    (a.KnownLate r s.broker.plant →
      s₂.rows a.observation.endpointId = s₁.rows a.observation.endpointId) ∧
    (nowR < nowA → (∀ x, s.broker.plant.providerState? a.observation.endpointId = some x →
        x.lastAttemptAt < nowA) →
      s₂.rows a.observation.endpointId = s₁.rows a.observation.endpointId →
        a.KnownLate r s.broker.plant) := by
  obtain ⟨respR, hbrokerR, hignoredR⟩ := ingestReport_ok hr
  obtain ⟨respA, hbrokerA, hignoredA⟩ := ingestReport_ok ha
  constructor
  · intro hknown
    rw [hignoredA ((ingested_stale hbefore hbrokerR).2 hknown)]
  · intro hlater hpast hrows
    by_contra hknown
    have htaken : s₁.broker.plant.staleObservation a.observation = false := by
      cases h : s₁.broker.plant.staleObservation a.observation with
      | true => exact absurd ((ingested_stale hbefore hbrokerR).1 h) hknown
      | false => rfl
    have hattempt : (s₁.broker.plant.providerState? a.observation.endpointId).map
        ProviderState.lastAttemptAt = some nowA := by
      have hprovider : s₂.broker.plant.providerState? a.observation.endpointId =
          s₁.broker.plant.providerState? a.observation.endpointId :=
        congrArg EndpointRows.provider hrows
      rw [← hprovider, ingestObservation_taken hbrokerA htaken]
      exact absorb_attempt cfg nowA s₁.broker a.observation
    -- but the attempt before it was earlier
    cases hs : s.broker.plant.staleObservation r.observation with
    | true =>
      rw [hignoredR hs] at hattempt
      obtain ⟨x, hx, hat⟩ := Option.map_eq_some_iff.1 hattempt
      exact absurd hat (hpast x hx).ne
    | false =>
      have hfirst : (s₁.broker.plant.providerState? r.observation.endpointId).map
          ProviderState.lastAttemptAt = some nowR := by
        rw [ingestObservation_taken hbrokerR hs]
        exact absorb_attempt cfg nowR s.broker r.observation
      rw [← hbefore.endpoint, hattempt] at hfirst
      exact absurd (Option.some.inj hfirst) hlater.ne'

theorem hear_ok {cfg : Config} {now : Time} {r : EndpointReport}
    {token : String → String → String} {s : Collected}
    (h : (ingestReport cfg now r token s).isOk = true) :
    ingestReport cfg now r token s = .ok (s.hear cfg token now r) := by
  unfold Collected.hear
  cases hr : ingestReport cfg now r token s with
  | error e =>
    rw [hr] at h
    cases h
  | ok s' => rfl

/-! ## A report of nodes, and one of capacity -/

/-- A look at `alpha`. -/
def lookReport (at_ : Time) : EndpointReport :=
  { observation := lookAtOne "alpha" "GPU-0" at_ [], observedAt := at_, scheduler_eq := rfl }

/-- The provider of `alpha` can hand out this many cards. -/
def freeReport (free : ℕ) (at_ : Time) : EndpointReport :=
  { observation :=
      { endpointId := "alpha", nodes := [], failures := [], scheduler := some []
        nodes_valid := fun _ h => by cases h
        unique_nodes := List.nodup_nil }
    observedAt := at_
    capacity := some { freeGpuCount := free, gpuName := "H100", observedAt := some at_ }
    scheduler_eq := rfl }

/-- `alpha`, after a look of second 100. -/
def looked : Collected :=
  Collected.hear plainConfig sampleToken { broker := sampleFleet } (seconds 101)
    (lookReport (seconds 100))

/-- `alpha`, after its provider said at second 100 that nothing is free. -/
def taken : Collected :=
  Collected.hear plainConfig sampleToken { broker := sampleFleet } (seconds 101)
    (freeReport 0 (seconds 100))

theorem look_before : (lookReport (seconds 60)).Before (lookReport (seconds 100)) := by
  refine ⟨rfl, by decide, fun n hn m hm _ => ?_⟩
  rw [List.mem_singleton.1 hn, List.mem_singleton.1 hm]
  decide

theorem free_before : (freeReport 8 (seconds 60)).Before (freeReport 0 (seconds 100)) :=
  ⟨rfl, by decide, fun _ hn => by cases hn⟩

/-- `late_harmless`, of a late look, which is ignored, and of a late capacity, which is not. -/
theorem late_harmless_look :
    (looked.hear plainConfig sampleToken (seconds 110) (lookReport (seconds 60))).rows "alpha" =
      looked.rows "alpha" ∧
    (taken.hear plainConfig sampleToken (seconds 110) (freeReport 8 (seconds 60))).rows "alpha" ≠
      taken.rows "alpha" := by
  constructor
  · refine (late_harmless look_before (hear_ok (by decide +kernel)) (hear_ok (by decide +kernel))).1
      ⟨by decide, rfl, fun n hn => Or.inl ?_⟩
    rw [List.mem_singleton.1 hn]
    decide
  · intro hrows
    have hknown := (late_harmless free_before (hear_ok (by decide +kernel))
      (hear_ok (by decide +kernel))).2 (by decide) (fun x hx => by cases hx) hrows
    exact hknown.nodes rfl

/-- **A late capacity replaces a later one**: eight cards are free again. -/
theorem late_capacity :
    (freeReport 8 (seconds 60)).Before (freeReport 0 (seconds 100)) ∧
      (taken.capacity? "alpha").map PluginCapacity.freeGpuCount = some 0 ∧
      ((taken.hear plainConfig sampleToken (seconds 110) (freeReport 8 (seconds 60))).capacity?
        "alpha").map PluginCapacity.freeGpuCount = some 8 :=
  ⟨free_before, by decide +kernel, by decide +kernel⟩

end ServerPilot
