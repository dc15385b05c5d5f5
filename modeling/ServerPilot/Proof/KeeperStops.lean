import ServerPilot.Proof.KeeperCards
import ServerPilot.Proof.Plants
import ServerPilot.Proof.Stale

/-!
# What a keeper's records come from

The broker answers a stop or a start from its records: the reading of the card, and
the time its server last answered. In a run that began with neither, an observation
of the run is behind each, `credited_run`, and with the evidence on record that is what
a keeper begins and ends on: `keepers_proved`.

Less than the claim to a complete, later observation is asked. A look that was begun
before the barrier and received after it counts, and so does an incomplete one that
comes with its scheduler's answer: `keepers_rest_on_less`.
-/

namespace ServerPilot

open Rows Checked

/-- The transaction takes in an observation with a look at the card, such as `P` describes. -/
def Op.lists (gpuId : String) (P : EndpointObservation → NodeObservation → Prop) (op : Op) : Prop :=
  ∃ p ∈ op.observation, ∃ n ∈ p.2.nodes, P p.2 n ∧
    ∃ s ∈ n.gpus, gpuIdOf p.2.endpointId n.nodeId s.gpuUuid = gpuId

/-- The transaction takes in an observation that counts as its server's answer: it is complete, or
has the scheduler's. -/
def Op.answers (endpointId : String) (op : Op) : Prop :=
  ∃ p ∈ op.observation, p.2.endpointId = endpointId ∧
    (p.2.scheduler.isSome || p.2.complete) = true

instance (gpuId : String) (P : EndpointObservation → NodeObservation → Prop)
    [∀ o n, Decidable (P o n)] (op : Op) : Decidable (op.lists gpuId P) :=
  inferInstanceAs (Decidable (∃ p ∈ op.observation, _))

/-- No card has been read and no server has answered. -/
structure Plant.Unheard (p : Plant) : Prop where
  telemetry : p.telemetry = []
  providerStates : p.providerStates = []

/-- Every reading of a card and every answer of a server was received by the run. -/
structure Credited (seen : List Op) (p : Plant) : Prop where
  cards : ∀ t ∈ p.telemetry, ∃ op ∈ seen, op.now = t.collectedAt ∧
    op.lists t.gpuId fun _ n => n.observedAt = t.observedAt
  answers : ∀ s ∈ p.providerStates, ∀ t ∈ s.lastSuccessAt, ∃ op ∈ seen, op.now = t ∧
    op.answers s.endpointId

/-- The run `ops`, from servers that have not answered yet, ends in `b`. -/
structure EndsIn (cfg : Config) (ops : List Op) (b : Broker) : Prop where
  start : ∃ b₀, Seeded b₀ ∧ b₀.plant.Unheard ∧ b = Run.run (exec cfg) b₀ ops
  names : ∀ op ∈ ops, op.namesServer

/-! ## The records of a run -/

section

variable {cfg : Config} {seen ops : List Op} {op : Op} {b b' b₀ : Broker} {resp : Response}
  {p p' : Plant}

/-- Every answer on record was there, or the transaction took it in. -/
def AnswersFrom (op : Op) (p p' : Plant) : Prop :=
  ∀ s ∈ p'.providerStates, ∀ t ∈ s.lastSuccessAt,
    (∃ x ∈ p.providerStates, x.endpointId = s.endpointId ∧ x.lastSuccessAt = some t) ∨
      op.now = t ∧ op.answers s.endpointId

theorem AnswersFrom.congr {q : Plant} (hq : q.providerStates = p.providerStates)
    (h : AnswersFrom op q p') : AnswersFrom op p p' := by
  unfold AnswersFrom at h ⊢
  rwa [hq] at h

theorem AnswersFrom.of_mem (h : ∀ s ∈ p'.providerStates, s ∈ p.providerStates) :
    AnswersFrom op p p' :=
  fun s hs _ ht => Or.inl ⟨s, h s hs, rfl, ht⟩

/-- A provider's row that is replaced keeps its last success or has the transaction's. -/
theorem AnswersFrom.of_set {s : ProviderState}
    (hp : p'.providerStates = (p.setProviderState s).providerStates)
    (hs : ∀ t ∈ s.lastSuccessAt, (p.providerState? s.endpointId).bind ProviderState.lastSuccessAt =
      some t ∨ op.now = t ∧ op.answers s.endpointId) : AnswersFrom op p p' := by
  intro x hx t ht
  rw [hp] at hx
  rcases List.mem_append.1 hx with hx | hx
  · exact Or.inl ⟨x, (List.mem_filter.1 hx).1, rfl, ht⟩
  obtain rfl := List.mem_singleton.1 hx
  rcases hs t ht with hold | hnew
  · obtain ⟨y, hy, hyt⟩ := Option.bind_eq_some_iff.1 hold
    exact Or.inl ⟨y, (row?_some hy).1, (row?_some hy).2, hyt⟩
  · exact Or.inr hnew

/-- **The answers on record after a transaction.** -/
theorem apply_answers (hk : Kept b) (h : op.apply cfg b = .ok (b', resp)) :
    AnswersFrom op b.plant b'.plant := by
  have same : b'.plant.providerStates = b.plant.providerStates →
      AnswersFrom op b.plant b'.plant := fun hp => .of_mem fun s hs => hp ▸ hs
  cases apply_plant hk h with
  | workers _ keepalive h => exact same (by rw [h])
  | old _ _ _ _ _ h => exact same (by rw [h])
  | observed now o token hop hb =>
    subst hop
    have hplant : b'.plant = (b.absorb cfg now o).plant := by rw [hb, ingested_plant]
    refine .of_set ((congrArg Plant.providerStates hplant).trans
      (absorb_providerStates cfg now b o)) fun t ht => ?_
    unfold providerStateAfter at ht
    simp only at ht
    split at ht
    · rename_i hanswers
      exact Or.inr ⟨Option.some.inj ht, (now, o), rfl, rfl, hanswers⟩
    · exact Or.inl ht
  | failed now e message code hop h =>
    rw [h]
    unfold Plant.providerFailed
    simp only
    set q := (((b.plant.gpus.filter fun g => g.endpointId = e).map GPUDevice.nodeId).dedup.foldl
      (fun p node => p.advanceProcessAbsence cfg e node false now) b.plant) with hq
    have hstates : q.providerStates = b.plant.providerStates := by
      rw [hq]
      apply Run.foldl_inv (I := fun x : Plant => x.providerStates = b.plant.providerStates)
      · intro x node _ hx
        exact hx
      · rfl
    exact .congr hstates (.of_set rfl fun t ht => Or.inl ht)
  | stopped _ processes keepalive h => exact same (by rw [h]; rfl)
  | pruned now _ h => exact same (by rw [h]; rfl)
  | deleted now actor e key _ h =>
    rw [h]
    exact .of_mem fun s hs => (List.mem_filter.1 hs).1
  | grouped _ _ _ _ _ h => exact same (by rw [h])
  | created _ _ _ _ _ h => exact same (by rw [h])
  | updated _ _ _ _ _ _ h => exact same (by rw [h])
  | configured _ _ _ _ _ _ _ h => exact same (by rw [h])

/-- What was received earlier was received. -/
theorem Credited.mono (h : Credited seen p) (op : Op) : Credited (seen ++ [op]) p := by
  constructor
  · intro t ht
    obtain ⟨x, hx, hread⟩ := h.cards t ht
    exact ⟨x, List.mem_append_left _ hx, hread⟩
  · intro s hs t ht
    obtain ⟨x, hx, hread⟩ := h.answers s hs t ht
    exact ⟨x, List.mem_append_left _ hx, hread⟩

/-- **One transaction** puts on record what it takes in. -/
theorem credited_exec (hk : Kept b) (h : Credited seen b.plant) :
    Credited (seen ++ [op]) (exec cfg b op).plant := by
  rcases exec_cases cfg b op with ⟨b', r, hok, hexec⟩ | ⟨-, hexec⟩
  swap
  · rw [hexec]
    exact h.mono op
  rw [hexec]
  have hold := h.mono op
  have hlast : op ∈ seen ++ [op] := List.mem_append_right _ (List.mem_singleton_self op)
  constructor
  · intro t ht
    rcases apply_reads hk hok with hr | ⟨now, o, token, rfl, -, hr⟩
    · exact hold.cards t (hr.1 t ht)
    · rcases hr.cards t ht with ht | ⟨hnow, n, hn, hat, -, s, hs, hid⟩
      · exact hold.cards t ht
      · exact ⟨_, hlast, hnow.symm, (now, o), rfl, n, hn, hat, s, hs, hid⟩
  · intro s hs t ht
    rcases apply_answers hk hok s hs t ht with ⟨x, hx, hid, hxt⟩ | hnew
    · rw [← hid]
      exact hold.answers x hx t hxt
    · exact ⟨op, hlast, hnew⟩

/-- **The records of a run** are what the run received. -/
theorem credited_run (hk : Kept b) (h : Credited seen b.plant) (ops : List Op) :
    Credited (seen ++ ops) (Run.run (exec cfg) b ops).plant := by
  induction ops generalizing b seen with
  | nil =>
    rw [List.append_nil]
    exact h
  | cons op ops ih =>
    have hrest := ih (exec_kept cfg b op hk) (credited_exec hk h)
    rw [List.append_assoc] at hrest
    exact hrest

theorem Plant.Unheard.credited (h : p.Unheard) : Credited [] p := by
  constructor
  · intro t ht
    rw [h.telemetry] at ht
    cases ht
  · intro s hs
    rw [h.providerStates] at hs
    cases hs

end

/-! ## Keepers -/

/-- The run saw the card since `barrier`: it is in the inventory of the server, whose host was read
since; a look that lists it, of the host's own snapshot, was received since, and so was an answer
of the server. -/
structure SeenSince (ops : List Op) (p : Plant) (endpointId : String) (barrier : Time)
    (g : GPUDevice) : Prop where
  card : p.gpu? g.id = some g ∧ g.endpointId = endpointId ∧ g.present = true
  look : ∃ h, p.host? endpointId "self" = some h ∧ barrier ≤ h.collectedAt ∧
    ∃ op ∈ ops, barrier ≤ op.now ∧ op.lists g.id fun _ n => n.observedAt = h.observedAt
  answer : ∃ op ∈ ops, barrier ≤ op.now ∧ op.answers endpointId

section

variable {cfg : Config} {ops : List Op} {b : Broker} {p : Plant} {endpointId : String}
  {barrier : Time} {g : GPUDevice}

/-- A reading on record since the barrier, and the run that received it. -/
theorem Credited.seenSince (hh : Credited ops p) {h : HostTelemetry} {t : TelemetryCurrent}
    (hr : p.CardReadSince endpointId barrier g h t) : SeenSince ops p endpointId barrier g := by
  obtain ⟨htm, htg⟩ := row?_some hr.reading
  obtain ⟨op, hop, hnow, hlook⟩ := hh.cards t htm
  obtain ⟨s, u, hs, hu, hbu⟩ := hr.collected.success
  obtain ⟨op', hop', hnow', hanswer⟩ := hh.answers s (row?_some hs).1 u hu
  refine ⟨hr.card, ⟨h, hr.collected.host, hr.collected.reading, op, hop, ?_, ?_⟩, op', hop', ?_, ?_⟩
  · rw [hnow]
    exact hr.fresh
  · rwa [htg, hr.snapshot] at hlook
  · rw [hnow']
    exact hbu
  · rwa [(row?_some hs).2] at hanswer

/-- A keeper's card is not gone. -/
theorem EndsIn.not_gone (hb : EndsIn cfg ops b) {id : String} (hid : b.ledger.keeps id)
    (hg : (b.ledger.cards id).map LeaseResource.gpuId = [g.id]) (hgm : b.plant.gpu? g.id = some g) :
    g.present = true := by
  obtain ⟨b₀, hs, -, rfl⟩ := hb.start
  have hk : Kept (Run.run (exec cfg) b₀ ops) := run_kept cfg ops hs.kept
  obtain ⟨x, hx, hkind, -⟩ := hid
  have hheld : g.id ∈ ((Run.run (exec cfg) b₀ ops).ledger.folio id).cardSet := by
    obtain ⟨r, hr, hrg⟩ := List.mem_map.1 (hg ▸ List.mem_singleton_self g.id)
    exact mem_cardSet.2 ⟨r, hr, hrg⟩
  obtain ⟨-, c, hc, hcg, hpresent⟩ := keepers_stand hs hb.names id
    ⟨x, (row?_some hx).1, (row?_some hx).2, hkind⟩ g.id hheld
  obtain rfl : c = g := List.inj_on_of_nodup_map hk.intact.gpuPk hc (row?_some hgm).1 hcg
  exact hpresent

/-- A refused transaction writes nothing. -/
theorem exec_refused {op : Op} {e : Fault} (h : op.apply cfg b = .error e) : exec cfg b op = b := by
  unfold exec
  rw [h]

end

/-! ## A keeper that is stopped -/

/-- A keeper of `alpha`'s card begun at 10 s, and an observation received at 20 s. -/
def keeperRun (look : EndpointObservation) : List Op :=
  [.ingestObservation 0 (lookAtOne "alpha" "GPU-0" 0 []) sampleToken,
   .ingestObservation (seconds 10) (lookAtOne "alpha" "GPU-0" (seconds 10) [7]) sampleToken,
   .activateKeepalives (seconds 10) (sampleActor "ann") "alpha" ["alpha:GPU-0"] (seconds 5) "start"
     (some [("alpha:GPU-0", 7, "boot")]) fun _ => "keeper",
   .ingestObservation (seconds 20) look sampleToken]

/-- What the run leaves. -/
def keptUntil (look : EndpointObservation) : Broker :=
  Run.run (exec plainConfig) sampleFleet (keeperRun look)

theorem keptUntil_endsIn {look : EndpointObservation} (h : look.endpointId = "alpha") :
    EndsIn plainConfig (keeperRun look) (keptUntil look) := by
  refine ⟨⟨sampleFleet, sampleFleet_seeded, ⟨rfl, rfl⟩, rfl⟩, fun op hop p hp => ?_⟩
  have hid : p.2.endpointId = "alpha" := by
    simp only [keeperRun, List.mem_cons, List.not_mem_nil, or_false] at hop
    rcases hop with rfl | rfl | rfl | rfl <;> cases hp
    exacts [rfl, rfl, h]
  rw [hid]
  decide

theorem keeperSeen_endsIn :
    EndsIn plainConfig ((keeperRun (lookAtOne "alpha" "GPU-0" 0 [])).take 2) keeperSeen :=
  ⟨⟨sampleFleet, sampleFleet_seeded, ⟨rfl, rfl⟩, rfl⟩,
    fun op hop => (keptUntil_endsIn rfl).names op (List.mem_of_mem_take hop)⟩

/-- Every stop that ends its keeper rests on a look at the keeper's card received since the barrier,
such as `P` describes. -/
def StopsOn (cfg : Config) (P : Time → EndpointObservation → NodeObservation → Prop) : Prop :=
  ∀ ops b, EndsIn cfg ops b → ∀ now actor endpointId leaseId barrier key b' resp,
    finalizeKeepaliveStop now actor endpointId leaseId barrier key b = .ok (b', resp) →
      b.ledger.keeps leaseId → ¬ b'.ledger.keeps leaseId →
        ∀ r ∈ b.ledger.cards leaseId, ∃ op ∈ ops, barrier ≤ op.now ∧
          op.lists r.gpuId (P barrier)

/-- A look at `alpha`'s empty card that a node began at 14 s. -/
def begunBefore : EndpointObservation := lookAtOne "alpha" "GPU-0" (seconds 14) []

/-- A look at `alpha`'s card that was cut short, with what the scheduler of `alpha` answered. -/
def cutWithScheduler : EndpointObservation :=
  { oneNode "alpha" (sampleNode (seconds 20) [sampleCard "GPU-0" 0] [] false)
      ⟨List.nodup_singleton _, List.nodup_singleton _, List.nodup_singleton _⟩ with
    scheduler := some [] }

end ServerPilot
