import ServerPilot.Proof.Delegated
import ServerPilot.Proof.Records
import ServerPilot.Spec.Watch

/-!
# Whole allocations go on whole evidence

A row of an allocation keeps a clock and the evidence it last recorded. Only a pass
moves the clock on (`apply_descends`, `visit_row`), and while no provider's own word is
taken, an active row that reads idle was shown idle by the nodes of an observation
(`Traced`). So a pass marks an allocation for release only after a stretch of looks
that all found whole evidence: `reclaim_vouched`.
-/

namespace ServerPilot

open Rows

/-! ## Rows between looks -/

/-- What a row says of the cards it stands for. -/
def ResourceAllocation.evidence (a : ResourceAllocation) :
    Option String × List AllocationLocation × Option Time × Option Time :=
  (a.allocationRef, a.locations, a.confirmedAt, a.workloadObservedAt)

/-- A row that nothing is known of yet. -/
def ResourceAllocation.Blank (a : ResourceAllocation) : Prop :=
  a.idleSince = none ∧ a.state ≠ .active

/-- The row after a write that neither looks at it nor records a fact. -/
structure ResourceAllocation.Rests (a a' : ResourceAllocation) : Prop where
  id : a'.id = a.id
  providerId : a'.providerId = a.providerId
  clock : a'.idleSince = none ∨ a'.clock = a.clock
  evidence : a'.state = .active → a.state = .active ∧ a'.evidence = a.evidence

/-- The row after a transaction that is no observation: at rest, or with the answer to its claim. -/
def ResourceAllocation.Told (op : Op) (a a' : ResourceAllocation) : Prop :=
  a.Rests a' ∨ ∃ now f, op = .claimRemember now a.id f ∧ a' = a.recordFact f now

/-- Every row of a provider is blank, or comes from one as `R` says. -/
def Ledger.Descends (R : ResourceAllocation → ResourceAllocation → Prop) (l l' : Ledger) : Prop :=
  ∀ a' ∈ l'.allocations, a'.providerId ≠ "builtin" →
    a'.Blank ∨ ∃ a ∈ l.allocations, a.providerId ≠ "builtin" ∧ R a a'

section

variable {cfg : Config} {op : Op} {b b' : Broker} {resp : Response} {l l' : Ledger}
  {R : ResourceAllocation → ResourceAllocation → Prop}

theorem ResourceAllocation.Rests.refl (a : ResourceAllocation) : a.Rests a :=
  ⟨rfl, rfl, Or.inr rfl, fun h => ⟨h, rfl⟩⟩

/-- Ledgers with the same charges have the same rows of providers. -/
theorem Ledger.Descends.of_charged (hr : ∀ a, R a a) (h : l'.charged = l.charged) :
    l.Descends R l' := by
  intro a ha hp
  have hm : a ∈ l'.charged := List.mem_filter.2 ⟨ha, by simp [hp]⟩
  rw [h] at hm
  exact Or.inr ⟨a, (List.mem_filter.1 hm).1, hp, hr a⟩

theorem Ledger.Descends.of_updWhere (hr : ∀ a, R a a) {q : ResourceAllocation → Bool}
    {f : ResourceAllocation → ResourceAllocation}
    (hl : l'.allocations = updWhere q f l.allocations)
    (hf : ∀ a ∈ l.allocations, q a = true → (f a).providerId = a.providerId ∧ R a (f a)) :
    l.Descends R l' := by
  intro a' ha' hp
  rw [hl] at ha'
  obtain ⟨a, ha, ⟨hq, rfl⟩ | ⟨-, rfl⟩⟩ := mem_updWhere.1 ha'
  · obtain ⟨hsame, hrel⟩ := hf a ha hq
    exact Or.inr ⟨a, ha, hsame ▸ hp, hrel⟩
  · exact Or.inr ⟨a', ha, hp, hr a'⟩

theorem retireEnded_rests (l : Ledger) (sent : Option String) (filed : Option ResourceAllocation) :
    l.Descends ResourceAllocation.Rests (l.retireEnded sent filed) := by
  unfold Ledger.retireEnded
  split
  · exact .of_updWhere .refl rfl fun a _ _ => ⟨rfl, rfl, rfl, Or.inr rfl, fun h => ⟨h, rfl⟩⟩
  · exact .of_charged .refl rfl

/-- A prepared claim files a blank row at most. -/
theorem claimPrepare_rests {now : Time} {actor : ActorContext} {r : RequestCreate}
    {key : Option String} {endpointId token : String} {plugin : Plugin}
    (h : claimPrepare now actor r key endpointId plugin token b = .ok (b', resp)) :
    b.ledger.Descends ResourceAllocation.Rests b'.ledger := by
  rcases claimPrepare_ok h with rfl | ⟨projects, filed, -, -, hnew⟩
  · exact .of_charged .refl rfl
  · have hretired := retireEnded_rests { b.ledger with projects } (key.filter fun k => k ≠ "") filed
    rcases hnew with ⟨a, -, -, rfl⟩ | ⟨-, -, rfl⟩
    · exact hretired
    · intro a ha hp
      rcases List.mem_append.1 ha with ha | ha
      · exact hretired a ha hp
      · rw [List.mem_singleton.1 ha]
        refine Or.inl ⟨rfl, ?_⟩
        unfold preparedAllocation
        simp

/-- **Between observations** the rows of providers rest, or hear the answer to their claim. -/
theorem apply_descends (h : op.apply cfg b = .ok (b', resp))
    (hop : ∀ now o token, op ≠ .ingestObservation now o token) :
    b.ledger.Descends (ResourceAllocation.Told op) b'.ledger := by
  have hr : ∀ a, ResourceAllocation.Told op a a := fun a => Or.inl (.refl a)
  have eq : ∀ {l : Ledger}, l.charged = b.ledger.charged →
      b.ledger.Descends (ResourceAllocation.Told op) l := fun he => .of_charged hr he
  have back : ∀ {x : Broker}, x = b → b.ledger.Descends (ResourceAllocation.Told op) x.ledger :=
    fun hx => eq (by rw [hx])
  have rest : ∀ {l : Ledger}, b.ledger.Descends ResourceAllocation.Rests l →
      b.ledger.Descends (ResourceAllocation.Told op) l := by
    intro l hl a' ha' hp
    refine (hl a' ha' hp).imp id ?_
    rintro ⟨a, ha, hpa, hrest⟩
    exact ⟨a, ha, hpa, Or.inl hrest⟩
  have edit : ∀ {l : Ledger} {q : ResourceAllocation → Bool}
      {f : ResourceAllocation → ResourceAllocation},
      l.allocations = updWhere q f b.ledger.allocations →
        (∀ a : ResourceAllocation, a.Rests (f a)) →
          b.ledger.Descends (ResourceAllocation.Told op) l :=
    fun he hf => .of_updWhere hr he fun a _ _ => ⟨(hf a).providerId, Or.inl (hf a)⟩
  by_cases hbooks : op.books = false
  · exact eq (charged_congr (apply_accounts h hbooks))
  cases op with
  | createRequest now actor r key persistent leaseId token =>
    rcases createRequest_unblocked h with h | ⟨project, projects, c, hp, hc, -⟩
    · exact back h
    · exact eq hc
  | resizeLease now actor leaseId addRequest removeGpuIds expectedEpoch token =>
    obtain ⟨lease, taken, added, d, -, -, -, -, -, -, -, hadd, -, -, rfl⟩ := resizeLease_ok h
    have hlease : (if decide (b.returnedCards leaseId removeGpuIds = []) = true then
        taken.ledger.editLease lease.id Lease.raised else taken.ledger).accounts =
          b.ledger.accounts := by
      split <;> exact addCards_accounts hadd
    exact eq ((charged_syncDirect _ _ _ _ _).trans (charged_congr hlease))
  | releaseLease now actor leaseId reason key override token =>
    rcases releaseLease_ok h with h | ⟨lease, -, -, -, -, d, rfl⟩
    · exact back h
    · exact eq ((charged_congr (remember_accounts _ _ _ _ _ _)).trans (released_charged _ _ _ _))
  | reassignLeaseGpus now actor leaseId =>
    rcases reassignLeaseGpus_ok h with h | ⟨lease, targets, c, d, -, -, -, -, -, -, -, -, -, rfl⟩
    · exact back h
    · exact eq (charged_syncDirect _ _ _ _ _)
  | takeOverLease now actor =>
    obtain ⟨lease, session, l, d, -, -, hl, -, rfl⟩ := takeOverLease_ok h
    obtain ⟨projects, rfl⟩ := takeoverProject_ok hl
    exact edit rfl fun a => ⟨rfl, rfl, Or.inr rfl, fun h => ⟨h, rfl⟩⟩
  | ingestObservation now o token => exact absurd rfl (hop now o token)
  | recordProviderFailure now endpointId =>
    obtain ⟨-, first, rfl⟩ := recordProviderFailure_ok h
    refine edit (q := fun a => a.endpointId = endpointId)
      (f := fun a => { a with idleSince := none }) ?_ fun a =>
        ⟨rfl, rfl, Or.inl rfl, fun h => ⟨h, rfl⟩⟩
    cases first <;> rfl
  | deleteEndpoint now actor endpointId key =>
    rcases deleteEndpoint_ok h with h | ⟨-, -, rfl⟩
    · exact back h
    · have hd := (remember_accounts _ actor "endpoint.delete" (some key) resp now).trans
        (endpointDeleted_accounts b endpointId actor.id (b.plant.endpointUnreachable cfg now
          endpointId) now)
      intro a ha hp
      have ha : a ∈ b.ledger.allocations.filter fun a => a.endpointId ≠ endpointId :=
        (congrArg (a ∈ ·) (congrArg Prod.fst hd)).mp ha
      exact Or.inr ⟨a, (List.mem_filter.1 ha).1, hp, hr a⟩
  | claimPrepare => exact rest (claimPrepare_rests h)
  | claimFailed now allocationId rejected error =>
    obtain ⟨-, -, rfl⟩ := writeAllocation_ok h
    refine edit rfl fun a => ⟨rfl, rfl, Or.inr rfl, fun ha => ?_⟩
    cases rejected <;> cases ha
  | claimRemember now allocationId fact =>
    obtain ⟨-, -, rfl⟩ := writeAllocation_ok h
    refine .of_updWhere hr rfl fun a _ hid => ⟨(recordFact_same a fact now).providerId, ?_⟩
    exact Or.inr ⟨now, fact, by rw [of_decide_eq_true hid], rfl⟩
  | claimFinish now actor r key allocationId leaseId =>
    obtain ⟨a, -, -, rfl⟩ := claimFinish_ok h
    refine edit (congrArg Prod.fst (remember_accounts _ _ _ _ _ _)) fun a =>
      ⟨rfl, rfl, Or.inr rfl, fun h => ⟨h, rfl⟩⟩
  | markAllocation now allocationId released error =>
    obtain ⟨-, -, rfl⟩ := writeAllocation_ok h
    refine edit rfl fun a => ⟨rfl, rfl, Or.inr rfl, fun ha => ?_⟩
    cases released <;> cases ha
  | finishPluginRelease now allocationId error =>
    rcases finishPluginRelease_ok h with h | ⟨a, -, -, rfl⟩
    · exact back h
    · refine edit (pluginReleased_allocations b.ledger a error now) fun a =>
        ⟨rfl, rfl, Or.inr rfl, fun ha => ?_⟩
      cases error <;> cases ha
  | _ => exact absurd rfl hbooks

end

/-! ## Evidence -/

/-- The nodes of an observation showed the cards of a row, for the fact it recorded. -/
def EndpointObservation.Backs (o : EndpointObservation) (a : ResourceAllocation) : Prop :=
  ∃ f ∈ o.allocations, f.state = .active ∧ a.allocationRef = some f.allocationRef ∧
    a.confirmedAt = some f.observedAt ∧
    (∀ x ∈ a.locations, ∃ n ∈ o.nodes, n.nodeId = x.node ∧ n.observationComplete = true ∧
      (∀ t ∈ a.workloadObservedAt, t ≤ n.observedAt) ∧ ∀ d ∈ x.devices,
        d.gpuUuid ∈ n.gpus.map TelemetryInput.gpuUuid ∧
          d.runningProcessCount = some (n.processCount [d.gpuUuid])) ∧
    (f.Distinct → (a.locations.map AllocationLocation.node).Nodup ∧
      ∀ x ∈ a.locations, (x.devices.map AllocatedDevice.gpuUuid).Nodup)

/-- The evidence of an active row that reads idle is that of an observation taken in. -/
def ResourceAllocation.Traced (seen : List EndpointObservation) (a : ResourceAllocation) : Prop :=
  a.state = .active → a.workloadObservedAt.isSome = true →
    a.locations.all AllocationLocation.shownIdle = true → ∃ o ∈ seen, o.Backs a

section

variable {cfg : Config} {now : Time} {o : EndpointObservation} {f : AllocationFact}
  {a a' : ResourceAllocation} {seen : List EndpointObservation}

theorem backs_congr (h : a'.evidence = a.evidence) : o.Backs a' ↔ o.Backs a := by
  simp only [ResourceAllocation.evidence, Prod.mk.injEq] at h
  obtain ⟨href, hlocations, hconfirmed, hworkload⟩ := h
  unfold EndpointObservation.Backs
  rw [href, hlocations, hconfirmed, hworkload]

theorem ResourceAllocation.Traced.mono (h : a.Traced seen) : a.Traced (o :: seen) := by
  intro hactive hsome hidle
  obtain ⟨p, hp, hbacks⟩ := h hactive hsome hidle
  exact ⟨p, List.mem_cons_of_mem _ hp, hbacks⟩

theorem ResourceAllocation.Traced.keep (h : a.Traced seen)
    (hr : a'.state = .active → a.state = .active ∧ a'.evidence = a.evidence) : a'.Traced seen := by
  intro hactive hsome hidle
  obtain ⟨hstate, he⟩ := hr hactive
  have hfields := he
  simp only [ResourceAllocation.evidence, Prod.mk.injEq] at hfields
  obtain ⟨-, hlocations, -, hworkload⟩ := hfields
  rw [hworkload] at hsome
  rw [hlocations] at hidle
  obtain ⟨p, hp, hbacks⟩ := h hstate hsome hidle
  exact ⟨p, hp, (backs_congr he).2 hbacks⟩

/-- A fact that is not taken leaves the row, one that is taken becomes its evidence. -/
theorem recordFact_cases (a : ResourceAllocation) (f : AllocationFact) (now : Time) :
    a.recordFact f now = a ∨
      (a.recordFact f now).workloadObservedAt = f.workloadObservedAt ∧
      (a.recordFact f now).confirmedAt = some f.observedAt ∧
      (a.recordFact f now).allocationRef = some f.allocationRef ∧
      (f.locations ≠ [] → (a.recordFact f now).locations = f.locations) := by
  unfold ResourceAllocation.recordFact
  split
  · exact Or.inl rfl
  · refine Or.inr ⟨rfl, rfl, rfl, fun hne => ?_⟩
    simp [hne]

theorem recordFact_clock (a : ResourceAllocation) (f : AllocationFact) (now : Time) :
    (a.recordFact f now).clock = a.clock := by
  unfold ResourceAllocation.recordFact
  split <;> rfl

/-- An answer that does not call the cards idle leaves the row traced. -/
theorem traced_word (h : a.Traced seen) (hf : f.callsIdle = false) :
    (a.recordFact f now).Traced seen := by
  rcases recordFact_cases a f now with hsame | ⟨hworkload, -, -, hlocations⟩
  · rw [hsame]
    exact h
  · intro _ hsome hidle
    rw [hworkload] at hsome
    have hne : f.locations ≠ [] := by
      intro he
      rw [AllocationFact.callsIdle, hsome, he] at hf
      cases hf
    rw [hlocations hne] at hidle
    rw [AllocationFact.callsIdle, hsome, hidle] at hf
    cases hf

/-! ### Facts completed from nodes -/

variable {capacities : List (String × ℕ)} {active : Bool} {nodes : List NodeObservation}
  {n : NodeObservation} {x x' : AllocationLocation} {g : AllocationFact}

/-- A location that its node shows: the cards are cards of that node, with what runs on them. -/
theorem observed_some (h : x.observed capacities active nodes = some x') :
    ∃ n, nodes.find? (fun n => n.nodeId = x.node) = some n ∧ x'.node = x.node ∧
      (∀ d ∈ x'.devices, d.gpuUuid ∈ n.gpus.map TelemetryInput.gpuUuid ∧
        d.runningProcessCount = some (n.processCount [d.gpuUuid])) ∧
      x'.devices.map AllocatedDevice.gpuUuid =
        (x.declared capacities (some n)).map AllocatedDevice.gpuUuid := by
  unfold AllocationLocation.observed at h
  simp only [Option.bind_eq_some_iff] at h
  obtain ⟨n, hn, h⟩ := h
  rw [hn] at h
  split at h
  · rename_i hc
    obtain ⟨-, -, hcards⟩ := hc
    simp only [Option.some.injEq] at h
    subst h
    refine ⟨n, hn, rfl, ?_, ?_⟩
    · intro d hd
      obtain ⟨d₀, hd₀, rfl⟩ := List.mem_map.1 hd
      exact ⟨hcards d₀ hd₀, rfl⟩
    · simp
  · cases h

theorem declared_nodup (hn : n.Valid) (hx : (x.devices.map AllocatedDevice.gpuUuid).Nodup) :
    ((x.declared capacities (some n)).map AllocatedDevice.gpuUuid).Nodup := by
  unfold AllocationLocation.declared
  simp only
  split
  · rw [List.map_map]
    exact hn.uuids
  · exact hx

/-- A completed fact with a reading: every location was shown by a node. -/
theorem withNodes_some (h : (g.withNodes o).workloadObservedAt.isSome = true) :
    g.state = .active ∧ g.locations ≠ [] ∧
      (g.withNodes o).locations.map AllocationLocation.node =
        g.locations.map AllocationLocation.node ∧
      ∀ x' ∈ (g.withNodes o).locations, ∃ x ∈ g.locations, ∃ n ∈ o.nodes, n.nodeId = x'.node ∧
        n.observationComplete = true ∧
        (∀ t ∈ (g.withNodes o).workloadObservedAt, t ≤ n.observedAt) ∧
        (∀ d ∈ x'.devices, d.gpuUuid ∈ n.gpus.map TelemetryInput.gpuUuid ∧
          d.runningProcessCount = some (n.processCount [d.gpuUuid])) ∧
        ((x.devices.map AllocatedDevice.gpuUuid).Nodup →
          (x'.devices.map AllocatedDevice.gpuUuid).Nodup) := by
  set nodes := o.nodes.filter NodeObservation.observationComplete
  set look := AllocationLocation.observed (o.scheduler.getD []) (decide (g.state = .active)) nodes
  have hcomplete : (decide (g.state = .active) && !g.locations.isEmpty &&
      g.locations.all fun x => (look x).isSome) = true := by
    by_contra hne
    have hnone : (g.withNodes o).workloadObservedAt = none := if_neg hne
    rw [hnone] at h
    cases h
  have hworkload : (g.withNodes o).workloadObservedAt = (g.locations.filterMap fun x =>
      (nodes.find? fun n => n.nodeId = x.node).map NodeObservation.observedAt).min? :=
    if_pos hcomplete
  have hlocations : (g.withNodes o).locations =
      g.locations.map fun x => (look x).getD x.unobserved := rfl
  simp only [Bool.and_eq_true, decide_eq_true_eq, List.all_eq_true] at hcomplete
  obtain ⟨⟨hactive, hne⟩, hall⟩ := hcomplete
  refine ⟨hactive, by simpa using hne, ?_, ?_⟩
  · rw [hlocations, List.map_map]
    refine List.map_congr_left fun x hx => ?_
    obtain ⟨x', hx'⟩ := Option.isSome_iff_exists.1 (hall x hx)
    obtain ⟨n, -, hnode, -⟩ := observed_some hx'
    simp only [Function.comp_apply, hx', Option.getD_some]
    exact hnode
  · intro x' hx'
    rw [hlocations] at hx'
    obtain ⟨x, hx, rfl⟩ := List.mem_map.1 hx'
    obtain ⟨x', hsome⟩ := Option.isSome_iff_exists.1 (hall x hx)
    simp only [hsome, Option.getD_some]
    obtain ⟨n, hfind, hnode, hcards, huuids⟩ := observed_some hsome
    obtain ⟨hn, hc⟩ := List.mem_filter.1 (List.mem_of_find?_eq_some hfind)
    have hid : n.nodeId = x.node := by simpa using List.find?_some hfind
    refine ⟨x, hx, n, hn, hid.trans hnode.symm, hc, ?_, hcards, ?_⟩
    · intro t ht
      rw [hworkload] at ht
      refine (List.min?_eq_some_iff.1 ht).2 _ (List.mem_filterMap.2 ⟨x, hx, ?_⟩)
      rw [hfind]
      rfl
    · intro hd
      rw [huuids]
      exact declared_nodup (o.nodes_valid n hn) hd

/-- **What an observation says of a row** leaves it traced. -/
theorem traced_heard (hg : g ∈ o.allocations) (h : a.Traced seen) :
    (a.recordFact (g.withNodes o) now).Traced (o :: seen) := by
  rcases recordFact_cases a (g.withNodes o) now with hsame | ⟨hworkload, hconfirmed, href, hlocs⟩
  · rw [hsame]
    exact h.mono
  · intro _ hsome _
    rw [hworkload] at hsome
    obtain ⟨hactive, hne, hnodes, hshown⟩ := withNodes_some hsome
    have hlocs := hlocs (by
      intro he
      rw [he] at hnodes
      exact hne (by simpa using hnodes.symm))
    refine ⟨o, List.mem_cons_self, g, hg, hactive, href, hconfirmed, ?_, ?_⟩
    · intro x hx
      rw [hlocs] at hx
      obtain ⟨-, -, n, hn, hid, hc, hage, hcards, -⟩ := hshown x hx
      exact ⟨n, hn, hid, hc, by rw [hworkload]; exact hage, hcards⟩
    · intro hd
      rw [hlocs, hnodes]
      refine ⟨hd.nodes, fun x hx => ?_⟩
      obtain ⟨x₀, hx₀, -, -, -, -, -, -, hnodup⟩ := hshown x hx
      exact hnodup (hd.devices x₀ hx₀)

/-- **Idle and traced is whole evidence.** -/
theorem whole_of_idle {heardAt : Time} (h : a.Traced seen) (hidle : a.idle cfg now = true) :
    Look.Whole cfg seen ⟨now, a, heardAt⟩ := by
  unfold ResourceAllocation.idle at hidle
  simp only [Bool.and_eq_true, decide_eq_true_eq, List.all_eq_true] at hidle
  obtain ⟨⟨⟨⟨hactive, hconfirmed⟩, hworkload⟩, hasked⟩, hlocations⟩ := hidle
  obtain ⟨t, ht, hage⟩ : ∃ t, a.workloadObservedAt = some t ∧ now - cfg.staleAfter ≤ t := by
    unfold Config.within at hworkload
    simp only [Option.any_eq_true, decide_eq_true_eq] at hworkload
    obtain ⟨t, ht, -, hle⟩ := hworkload
    exact ⟨t, ht, by linarith⟩
  obtain ⟨o, ho, f, hf, hstate, href, hat, hshown, hdistinct⟩ := h hactive (by rw [ht]; rfl) (by
    simp only [List.all_eq_true, AllocationLocation.shownIdle, Bool.and_eq_true, decide_eq_true_eq]
    exact hlocations)
  refine ⟨hactive, hconfirmed, hasked, fun x hx => (hlocations x hx).1.1, o, ho, f, hf, hstate,
    href, hat, fun x hx => ?_, hdistinct⟩
  obtain ⟨n, hn, hid, hc, hfresh, hcards⟩ := hshown x hx
  refine ⟨n, hn, hid, hc, hage.trans (hfresh t ht), fun d hd => (hcards d hd).1, ?_⟩
  -- no process on a card that counts none
  intro d hd p hp hon
  have hzero : n.processCount [d.gpuUuid] = 0 := by
    have hcount := (hcards d hd).2
    rw [(hlocations x hx).2 d hd] at hcount
    exact (Option.some.inj hcount).symm
  have hnil : (n.processes.filter fun q => q.gpuUuid ∈ [d.gpuUuid]).map ProcessInput.pid = [] := by
    unfold NodeObservation.processCount at hzero
    simpa using hzero
  have hmem : p ∈ n.processes.filter fun q => q.gpuUuid ∈ [d.gpuUuid] :=
    List.mem_filter.2 ⟨hp, by simp [hon]⟩
  rw [List.map_eq_nil_iff.1 hnil] at hmem
  cases hmem

end

/-! ## The clock -/

/-- A running clock counts a stretch of looks, the last of them its own, that all found whole
evidence. -/
def IdleClock.Counts (cfg : Config) (seen : List EndpointObservation) (looks : List Look)
    (c : IdleClock) : Prop :=
  ∀ since, c.since = some since → ∃ k stretch rest, looks = (k :: stretch) ++ rest ∧
    c.checked = some k.now ∧
    (k :: stretch).IsChain (fun later earlier => later.now - earlier.now < idleOutageReset) ∧
    (∀ j ∈ k :: stretch, j.Whole cfg seen) ∧ k.now - since = counted cfg (k :: stretch)

section

variable {cfg : Config} {now : Time} {o : EndpointObservation} {c : IdleClock}
  {seen : List EndpointObservation} {looks : List Look} {k : Look} {a a' : ResourceAllocation}

theorem Look.Whole.mono (h : k.Whole cfg seen) : k.Whole cfg (o :: seen) := by
  obtain ⟨p, hp, hshown⟩ := h.shown
  exact ⟨h.active, h.confirmed, h.asked, h.covered, p, List.mem_cons_of_mem _ hp, hshown⟩

theorem IdleClock.Counts.mono (h : c.Counts cfg seen looks) : c.Counts cfg (o :: seen) looks := by
  intro since hs
  obtain ⟨k, stretch, rest, hl, hc, hchain, hwhole, hcount⟩ := h since hs
  exact ⟨k, stretch, rest, hl, hc, hchain, fun j hj => (hwhole j hj).mono, hcount⟩

theorem counts_stopped (h : c.since = none) : c.Counts cfg seen looks := by
  intro since hs
  rw [h] at hs
  cases hs

/-- A first look of whole evidence starts the count. -/
theorem counts_started (hk : k.Whole cfg seen) :
    (IdleClock.mk (some k.now) (some k.now)).Counts cfg seen (k :: looks) := by
  intro since hs
  cases hs
  exact ⟨k, [], looks, rfl, rfl, List.isChain_singleton k, by simpa using hk, by simp [counted]⟩

/-- **One look** moves the clock on by what can be counted, or starts it anew. -/
theorem counts_advance {idle : Bool} (hc : c.Counts cfg seen looks)
    (hk : idle = true → k.Whole cfg seen) :
    (c.advance cfg k.now (some idle)).Counts cfg seen (k :: looks) := by
  cases idle with
  | false => exact counts_stopped rfl
  | true =>
    have hk := hk rfl
    unfold IdleClock.advance
    simp only
    by_cases hlong : c.longOutage k.now = true
    · rw [if_pos hlong]
      exact counts_started hk
    rw [if_neg hlong]
    cases hs : c.since with
    | none =>
      have hanchor : c.anchor cfg k.now = none := by simp [IdleClock.anchor, hs]
      rw [hanchor]
      exact counts_started hk
    | some since =>
      obtain ⟨j, stretch, rest, rfl, hchecked, hchain, hwhole, hcount⟩ := hc since hs
      have hshort : k.now - j.now < idleOutageReset := by
        by_contra hge
        exact hlong (by simp [IdleClock.longOutage, hchecked, not_lt.1 hge])
      have hanchor : c.anchor cfg k.now = some (if cfg.staleAfter < k.now - j.now then
          since + (k.now - j.now) else since) := by
        simp [IdleClock.anchor, hs, hchecked]
      rw [hanchor]
      intro since' hs'
      cases hs'
      refine ⟨k, j :: stretch, rest, rfl, rfl, List.isChain_cons_cons.2 ⟨hshort, hchain⟩,
        List.forall_mem_cons.2 ⟨hk, hwhole⟩, ?_⟩
      -- a gap beyond the limit moves the start along with the look
      unfold counted
      rw [← hcount]
      simp only [Option.getD_some]
      split <;> ring

end

/-! ## A pass -/

/-- What a look makes of a row: its clock moves on, and it is marked once idle and silent long
enough. -/
def Look.Leaves (cfg : Config) (k : Look) (a' : ResourceAllocation) : Prop :=
  a' = k.row.look cfg k.now ∨
    k.row.idle cfg k.now = true ∧
      seconds cfg.idleLeaseReclaimSeconds ≤
        k.now - (k.row.look cfg k.now).idleSince.getD k.now ∧
      seconds cfg.idleLeaseReclaimSeconds ≤ k.now - k.heardAt ∧
      a' = { k.row.look cfg k.now with state := .releasePending }

section

variable {cfg : Config} {now : Time} {actorId : String} {token : String → String → String}
  {s : Pass} {i : String} {a' : ResourceAllocation}

/-- **A visit** looks at one row at most, and leaves the rows of other allocations. -/
theorem visit_row (ha : a' ∈ (reconcileLease cfg now actorId token s i).1.ledger.allocations)
    (hp : a'.providerId ≠ "builtin") :
    (a' ∈ s.1.ledger.allocations ∧ ∀ k ∈ s.1.ledger.lookOn now i, k.row.id ≠ a'.id) ∨
      ∃ k, s.1.ledger.lookOn now i = some k ∧ k.now = now ∧ k.row ∈ s.1.ledger.allocations ∧
        k.row.state ≠ .releasePending ∧ k.Leaves cfg a' := by
  unfold Ledger.lookOn
  unfold reconcileLease at ha
  cases hl : s.1.ledger.lease? i with
  | none =>
    rw [hl] at ha
    exact Or.inl ⟨ha, by simp⟩
  | some lease =>
    rw [hl] at ha
    simp only at ha
    by_cases hkind : lease.kind = .keepalive
    · rw [if_pos hkind] at ha
      exact Or.inl ⟨ha, by simp [Option.filter, hkind]⟩
    rw [if_neg hkind] at ha
    rw [Option.filter_some, if_pos (by simpa using hkind), Option.bind_some]
    cases hw : (s.1.ledger.allocationsOf i).find? fun a =>
        decide (a.releaseGranularity = "allocation") with
    | none =>
      rw [hw] at ha
      simp only at ha
      have hm : a' ∈ s.1.ledger.charged := by
        rw [← reconcileDirect_charged (token i) lease]
        exact List.mem_filter.2 ⟨ha, by simp [hp]⟩
      exact Or.inl ⟨List.mem_of_mem_filter hm, by simp⟩
    | some a =>
      rw [hw] at ha
      simp only at ha
      have hm : a ∈ s.1.ledger.allocations :=
        (mem_allocationsOf.1 (List.mem_of_find?_eq_some hw)).1
      unfold reconcileAllocation at ha
      by_cases hpending : a.state = .releasePending
      · rw [if_pos hpending] at ha
        exact Or.inl ⟨ha, by simp [Option.filter, hpending]⟩
      rw [if_neg hpending] at ha
      rw [Option.filter_some, if_pos (by simpa using hpending), Option.map_some]
      set k : Look := ⟨now, a, lease.lastHeartbeatAt⟩
      -- whatever is written replaces the row that was looked at
      have written : ∀ x : ResourceAllocation, k.Leaves cfg x →
          a' ∈ updWhere (fun y => decide (y.id = a.id)) (fun _ => x) s.1.ledger.allocations →
          (a' ∈ s.1.ledger.allocations ∧ ∀ j ∈ some k, j.row.id ≠ a'.id) ∨
            ∃ j, some k = some j ∧ j.now = now ∧ j.row ∈ s.1.ledger.allocations ∧
              j.row.state ≠ .releasePending ∧ j.Leaves cfg a' := by
        intro x hx hm'
        obtain ⟨y, hy, ⟨-, rfl⟩ | ⟨hid, rfl⟩⟩ := mem_updWhere.1 hm'
        · exact Or.inr ⟨k, rfl, rfl, hm, hpending, hx⟩
        · refine Or.inl ⟨hy, ?_⟩
          rintro j ⟨⟩
          exact fun h => of_decide_eq_false hid h.symm
      simp only at ha
      split at ha
      · exact written _ (Or.inl rfl) ha
      · rename_i hidle
        split at ha
        · rename_i hdue
          exact written _ (Or.inr ⟨by simpa using hidle, hdue.1, hdue.2, rfl⟩) ha
        · exact written _ (Or.inl rfl) ha

/-- The rows of providers, against what was looked at and taken in. -/
def Ledger.Backed (cfg : Config) (seen : List EndpointObservation) (looks : List Look)
    (l : Ledger) : Prop :=
  ∀ a ∈ l.allocations, a.providerId ≠ "builtin" →
    a.clock.Counts cfg seen (looksAt a.id looks) ∧ a.Traced seen

/-- A row marked for release was so in `l`, or is vouched for. -/
def Watched.Vouched (cfg : Config) (w : Watched) (l : Ledger) (now : Time)
    (a : ResourceAllocation) : Prop :=
  a.state = .releasePending →
    (∃ a₀ ∈ l.allocations, a₀.id = a.id ∧ a₀.state = .releasePending) ∨ w.Vouches cfg now a.id

variable {k : Look} {seen : List EndpointObservation} {looks : List Look} {b : Broker} {l : Ledger}

theorem looksAt_cons (id : String) (k : Look) (looks : List Look) :
    looksAt id (k :: looks) =
      if k.row.id = id then k :: looksAt id looks else looksAt id looks := by
  unfold looksAt
  rw [List.filter_cons]
  simp only [decide_eq_true_eq]

/-- **What a look leaves** is backed, and vouched for if it is marked. -/
theorem leaves_backed (hleft : k.Leaves cfg a')
    (hc : k.row.clock.Counts cfg seen (looksAt k.row.id looks)) (ht : k.row.Traced seen) :
    a'.id = k.row.id ∧ a'.clock.Counts cfg seen (k :: looksAt k.row.id looks) ∧ a'.Traced seen ∧
      (a'.state = .releasePending → k.row.state ≠ .releasePending →
        (Watched.mk b (k :: looks) seen).Vouches cfg k.now a'.id) := by
  have hcount : (k.row.clock.advance cfg k.now (some (k.row.idle cfg k.now))).Counts cfg seen
      (k :: looksAt k.row.id looks) :=
    counts_advance hc fun hidle => whole_of_idle ht hidle
  rcases hleft with rfl | ⟨hidle, hdue, hsilent, rfl⟩
  · refine ⟨rfl, hcount, ht.keep fun h => ⟨h, rfl⟩, fun h hnot => absurd h hnot⟩
  · refine ⟨rfl, hcount, fun h => (by cases h), fun _ _ => ?_⟩
    have hrunning : ∃ since, (k.row.look cfg k.now).idleSince = some since := by
      unfold ResourceAllocation.look IdleClock.advance
      rw [hidle]
      exact ⟨_, rfl⟩
    obtain ⟨since, hs⟩ := hrunning
    obtain ⟨j, stretch, rest, heq, -, hchain, hwhole, htotal⟩ := hcount since hs
    obtain ⟨rfl, hrest⟩ : k = j ∧ looksAt k.row.id looks = stretch ++ rest := by
      simpa using heq
    refine ⟨k, stretch, rest, ?_, rfl, hchain, hwhole, ?_, hsilent⟩
    · refine (looksAt_cons _ k looks).trans ((if_pos rfl).trans ?_)
      exact congrArg (k :: ·) hrest
    · rw [← htotal]
      rw [hs] at hdue
      exact hdue

/-- **A pass** leaves every row backed, and vouched for if it marked it. -/
theorem pass_backed (hb : s.1.ledger.Backed cfg seen looks) (ids : List String) :
    ∀ a ∈ (ids.foldl (lookedOn cfg now actorId token) (s, looks)).1.1.ledger.allocations,
      a.providerId ≠ "builtin" →
      (a.clock.Counts cfg seen
        (looksAt a.id (ids.foldl (lookedOn cfg now actorId token) (s, looks)).2) ∧
          a.Traced seen) ∧
        (Watched.mk b (ids.foldl (lookedOn cfg now actorId token) (s, looks)).2 seen).Vouched cfg
          s.1.ledger now a := by
  apply Run.foldl_inv (I := fun t : Pass × List Look =>
    ∀ a ∈ t.1.1.ledger.allocations, a.providerId ≠ "builtin" →
      (a.clock.Counts cfg seen (looksAt a.id t.2) ∧ a.Traced seen) ∧
        (Watched.mk b t.2 seen).Vouched cfg s.1.ledger now a)
  · rintro ⟨t, looks⟩ i - ht a ha hp
    unfold lookedOn at ha ⊢
    simp only at ha ht ⊢
    rcases visit_row ha hp with ⟨ha, hother⟩ | ⟨k, hk, rfl, hrow, hnot, hleft⟩
    · -- a look at another row is not among the looks at this one
      have hsame : looksAt a.id ((t.1.ledger.lookOn now i).toList ++ looks) =
          looksAt a.id looks := by
        cases hk : t.1.ledger.lookOn now i with
        | none => rfl
        | some k => exact (looksAt_cons _ k looks).trans (if_neg (hother k hk))
      obtain ⟨hbacked, hvouched⟩ := ht a ha hp
      rw [hsame]
      refine ⟨hbacked, fun hm => (hvouched hm).imp id ?_⟩
      unfold Watched.Vouches
      simp only [hsame]
      exact id
    · have hprovider : k.row.providerId ≠ "builtin" := by
        rcases hleft with rfl | ⟨-, -, -, rfl⟩ <;> exact hp
      obtain ⟨⟨hcount, htraced⟩, -⟩ := ht k.row hrow hprovider
      obtain ⟨hid, hcount', htraced', hvouch⟩ := leaves_backed (b := b) hleft hcount htraced
      rw [hk]
      refine ⟨⟨?_, htraced'⟩, fun hm => Or.inr (hvouch hm hnot)⟩
      rw [hid]
      exact ((looksAt_cons _ k looks).trans (if_pos rfl)) ▸ hcount'
  · exact fun a ha hp => ⟨hb a ha hp, fun hm => Or.inl ⟨a, ha, rfl, hm⟩⟩

theorem looked_fst (ids : List String) (p : Pass × List Look) :
    (ids.foldl (lookedOn cfg now actorId token) p).1 =
      ids.foldl (reconcileLease cfg now actorId token) p.1 := by
  induction ids generalizing p with
  | nil => rfl
  | cons i ids ih => exact ih _

end

/-! ## One observation -/

section

variable {cfg : Config} {now : Time} {o : EndpointObservation} {b : Broker}
  {token : String → String → String} {seen : List EndpointObservation} {looks : List Look}
  {a : ResourceAllocation} {w : Watched}

/-- What an observation hears of the allocations leaves their rows backed, and marks none. -/
theorem absorb_backed (now : Time) (o : EndpointObservation) (hb : Intact b)
    (hl : b.ledger.Backed cfg seen looks) :
    (b.beforePass cfg now o).ledger.Backed cfg (o :: seen) looks ∧
      ∀ a ∈ (b.beforePass cfg now o).ledger.allocations, a.state = .releasePending →
        ∃ a₀ ∈ b.ledger.allocations, a₀.id = a.id ∧ a₀.state = .releasePending := by
  have hallocs : (b.beforePass cfg now o).ledger.allocations =
      (b.absorb cfg now o).ledger.allocations :=
    congrArg Prod.fst (normalizeConflicts_accounts _)
  have hheard : ∀ a ∈ (b.beforePass cfg now o).ledger.allocations, ∃ a₀ ∈ b.ledger.allocations,
      a = a₀ ∨ Heard (o.allocations.map (AllocationFact.withNodes o)) now a₀ a := by
    intro a ha
    rw [hallocs] at ha
    obtain ⟨a₀, ha₀, h⟩ := Checked.exists_of_forall₂ (absorb_heard cfg now hb.allocationPk o).1 ha
    exact ⟨a₀, ha₀, h.imp id And.right⟩
  refine ⟨fun a ha hp => ?_, fun a ha hm => ?_⟩
  · obtain ⟨a₀, ha₀, rfl | rfl | ⟨f, hf, rfl⟩⟩ := hheard a ha
    · obtain ⟨hc, ht⟩ := hl a ha₀ hp
      exact ⟨hc.mono, ht.mono⟩
    · obtain ⟨-, ht⟩ := hl a₀ ha₀ hp
      exact ⟨counts_stopped rfl, ht.mono.keep fun h => ⟨h, rfl⟩⟩
    · rw [(recordFact_same a₀ f now).providerId] at hp
      obtain ⟨hc, ht⟩ := hl a₀ ha₀ hp
      obtain ⟨g, hg, rfl⟩ : ∃ g ∈ o.allocations, g.withNodes o = f := by
        have hm : f ∈ o.allocations.map (AllocationFact.withNodes o) := by
          unfold matchingFact at hf
          rcases Option.or_eq_some_iff.1 hf with h | ⟨-, h⟩ <;>
            exact List.mem_reverse.1 (List.mem_of_find?_eq_some h)
        exact List.mem_map.1 hm
      rw [recordFact_clock, recordFact_id]
      exact ⟨hc.mono, traced_heard hg ht⟩
  · obtain ⟨a₀, ha₀, rfl | rfl | ⟨f, -, rfl⟩⟩ := hheard a ha
    · exact ⟨a, ha₀, rfl, hm⟩
    · exact ⟨a₀, ha₀, rfl, hm⟩
    · refine ⟨a₀, ha₀, (recordFact_id a₀ f now).symm, ?_⟩
      -- no fact asserts that a release is pending
      unfold ResourceAllocation.recordFact at hm
      split at hm
      · exact hm
      · simp only at hm
        split at hm
        · cases hs : f.state <;> rw [hs] at hm <;> cases hm
        · exact hm

/-- An observation that is taken in ends in its pass; any other leaves the run as it was. -/
theorem observe_cases (cfg : Config) (w : Watched) (now : Time) (o : EndpointObservation)
    (token : String → String → String) :
    (exec cfg w.broker (.ingestObservation now o token) = w.broker ∧
      w.observe cfg (.ingestObservation now o token) = (w.looks, w.seen)) ∨
    (exec cfg w.broker (.ingestObservation now o token) =
        (w.broker.ingested cfg now o token).1 ∧
      Intact (w.broker.ingested cfg now o token).1 ∧
      w.observe cfg (.ingestObservation now o token) =
        (w.broker.looksIn cfg now o token w.looks, o :: w.seen)) := by
  unfold exec Watched.observe Op.apply
  simp only
  cases h : ingestObservation cfg now o token w.broker with
  | error e => exact Or.inl ⟨rfl, rfl⟩
  | ok x =>
    obtain ⟨b', resp⟩ := x
    unfold ingestObservation at h
    simp only [Checked.bind_ok, Checked.need_ok] at h
    obtain ⟨-, -, h⟩ := h
    split at h
    · simp only [Checked.pure_ok, Prod.mk.injEq] at h
      obtain ⟨rfl, rfl⟩ := h
      exact Or.inl ⟨rfl, rfl⟩
    · obtain ⟨rfl, rfl, hi⟩ := finish_ok.1 h
      exact Or.inr ⟨rfl, hi, rfl⟩

/-- **One observation** leaves the rows backed, and what it marks is vouched for. -/
theorem observe_backed (hb : Intact w.broker) (hw : w.broker.ledger.Backed cfg w.seen w.looks)
    (now : Time) (o : EndpointObservation) (token : String → String → String) :
    ∀ a ∈ (w.step cfg (.ingestObservation now o token)).broker.ledger.allocations,
      a.providerId ≠ "builtin" →
      (a.clock.Counts cfg (w.step cfg (.ingestObservation now o token)).seen
        (looksAt a.id (w.step cfg (.ingestObservation now o token)).looks) ∧
          a.Traced (w.step cfg (.ingestObservation now o token)).seen) ∧
        (w.step cfg (.ingestObservation now o token)).Vouched cfg w.broker.ledger now a := by
  unfold Watched.step
  simp only
  rcases observe_cases cfg w now o token with ⟨hx, hobs⟩ | ⟨hx, -, hobs⟩
  · rw [hx, hobs]
    exact fun a ha hp => ⟨hw a ha hp, fun hm => Or.inl ⟨a, ha, rfl, hm⟩⟩
  · rw [hx, hobs]
    obtain ⟨hbacked, hmarked⟩ := absorb_backed now o hb hw
    have haudit : ∀ (l : Ledger) (recovered : Bool),
        (l.auditRecovery recovered o.endpointId now).allocations = l.allocations := by
      intro l recovered
      unfold Ledger.auditRecovery
      split <;> rfl
    intro a ha hp
    unfold Broker.ingested at ha
    rw [haudit] at ha
    have hpass := @pass_backed cfg now ("collector:" ++ o.endpointId) token
      (w.broker.beforePass cfg now o, []) (o :: w.seen) w.looks
      (w.broker.ingested cfg now o token).1 hbacked
      (w.broker.beforePass cfg now o).ledger.liveLeaseIds
    rw [looked_fst] at hpass
    obtain ⟨hrow, hvouched⟩ := hpass a ha hp
    refine ⟨hrow, fun hm => (hvouched hm).imp ?_ id⟩
    rintro ⟨a₀, ha₀, hid, hpending⟩
    obtain ⟨a₁, ha₁, hid₁, hpending₁⟩ := hmarked a₀ ha₀ hpending
    exact ⟨a₁, ha₁, hid₁.trans hid, hpending₁⟩

end

/-! ## Runs -/

section

variable {cfg : Config} {b₀ : Broker} {ops : List Op} {w : Watched} {op : Op}

/-- **One transaction** that takes no provider's word leaves the rows backed. -/
theorem step_backed (hb : Intact w.broker) (hw : w.broker.ledger.Backed cfg w.seen w.looks)
    (hop : op.takesWord = false) :
    (w.step cfg op).broker.ledger.Backed cfg (w.step cfg op).seen (w.step cfg op).looks := by
  by_cases hi : ∃ now o token, op = .ingestObservation now o token
  · obtain ⟨now, o, token, rfl⟩ := hi
    exact fun a ha hp => (observe_backed hb hw now o token a ha hp).1
  have hobs : w.observe cfg op = (w.looks, w.seen) := by
    unfold Watched.observe
    split
    · exact absurd ⟨_, _, _, rfl⟩ hi
    · rfl
  unfold Watched.step
  rw [hobs]
  simp only
  rcases exec_cases cfg w.broker op with ⟨b', r, h, hx⟩ | ⟨-, hx⟩
  · rw [hx]
    intro a' ha' hp
    rcases apply_descends h (fun now o token he => hi ⟨now, o, token, he⟩) a' ha' hp with
      ⟨hstopped, hidle⟩ | ⟨a, ha, hpa, hrests | ⟨now, f, rfl, rfl⟩⟩
    · exact ⟨counts_stopped hstopped, fun h => absurd h hidle⟩
    · obtain ⟨hc, ht⟩ := hw a ha hpa
      refine ⟨?_, ht.keep hrests.evidence⟩
      rw [hrests.id]
      rcases hrests.clock with hstopped | hsame
      · exact counts_stopped hstopped
      · rw [hsame]
        exact hc
    · obtain ⟨hc, ht⟩ := hw a ha hpa
      rw [recordFact_clock, recordFact_id]
      exact ⟨hc, traced_word ht hop⟩
  · rw [hx]
    exact hw

/-- Watching a run changes nothing in it. -/
theorem watched_broker (ops : List Op) (w : Watched) :
    (Run.run (Watched.step cfg) w ops).broker = Run.run (exec cfg) w.broker ops := by
  induction ops generalizing w with
  | nil => rfl
  | cons op ops ih =>
    rw [Run.run_cons, Run.run_cons]
    exact ih _

/-- In a run that takes no provider's word every row is backed. -/
theorem run_backed (cfg : Config) (h₀ : Seeded b₀) (hops : ∀ op ∈ ops, op.takesWord = false) :
    let w := Run.run (Watched.step cfg) { broker := b₀ } ops
    Intact w.broker ∧ w.broker.ledger.Backed cfg w.seen w.looks := by
  refine Run.foldl_inv (f := Watched.step cfg) (I := fun w : Watched => Intact w.broker ∧
    w.broker.ledger.Backed cfg w.seen w.looks) ?_ ⟨h₀.intact, ?_⟩
  · rintro w op hm ⟨hb, hw⟩
    refine ⟨?_, step_backed hb hw (hops op hm)⟩
    rcases exec_cases cfg w.broker op with ⟨b', r, h, hx⟩ | ⟨-, hx⟩
    · exact (congrArg Intact hx).mpr (apply_intact hb h)
    · exact (congrArg Intact hx).mpr hb
  · intro a ha
    rw [h₀.allocations] at ha
    cases ha

/-- **Reclaim needs whole evidence**: in a run that takes no provider's word for an allocation being
idle, a pass marks an allocation for release only where the looks at it end in a stretch of whole
evidence as long as the reclaim limit, its holder silent for as long. -/
theorem reclaim_vouched (h₀ : Seeded b₀) (hops : ∀ op ∈ ops, op.takesWord = false) (now : Time)
    (o : EndpointObservation) (token : String → String → String) (id : String)
    (hmarks : (Run.run (Watched.step cfg) { broker := b₀ } ops).Marks
      ((Run.run (Watched.step cfg) { broker := b₀ } ops).step cfg
        (.ingestObservation now o token)) id) :
    ((Run.run (Watched.step cfg) { broker := b₀ } ops).step cfg
      (.ingestObservation now o token)).Vouches cfg now id := by
  obtain ⟨hb, hw⟩ := run_backed cfg h₀ hops
  obtain ⟨⟨a, ha, rfl, hnot⟩, a', ha', hid, hp, hm⟩ := hmarks
  rcases (observe_backed hb hw now o token a' ha' hp).2 hm with ⟨a₀, ha₀, hid₀, hpending⟩ | hvouched
  · obtain rfl : a₀ = a := List.inj_on_of_nodup_map hb.allocationPk ha₀ ha (hid₀.trans hid)
    exact absurd hpending hnot
  · rwa [hid] at hvouched

end

/-! ## A plugin's own word -/

theorem sooner_alert : 60 ≤ 60 ∧ 60 ≤ 86400 := by decide

theorem sooner_reclaim : 120 ≤ 120 ∧ 120 ≤ 604800 := by decide

theorem slower_interval : 1 ≤ 200 ∧ 200 ≤ 3600 := by decide

theorem reclaim_after_sooner : 60 ≤ 120 := by decide

/-- Reclaim after two minutes, with a look every 200 seconds. -/
def soonerConfig : Config :=
  { applyingConfig with
    intervalSeconds := 200, idleLeaseAlertSeconds := 60, idleLeaseReclaimSeconds := 120
    interval_bounds := slower_interval, alert_bounds := sooner_alert
    reclaim_bounds := sooner_reclaim, reclaim_after_alert := reclaim_after_sooner }

/-- `alpha` goes to the plugin, and a claim of one card of it is granted, with this answer. -/
def grantedWith (f : AllocationFact) : List Op :=
  [.updateEndpoint 0 (sampleActor "ann") "alpha" { observationProfile := some "cluster" } "move",
   .claimPrepare 0 (sampleActor "ann") oneCard none "alpha"
    { pluginId := "cluster", capabilities := ["observe", "apply", "release"]
      releaseGranularity := "allocation" } "grant",
   .claimRemember (seconds 1) "grant" f,
   .claimFinish (seconds 2) (sampleActor "ann") oneCard none "grant" "lease"]

/-- The plugin's answer calls the card idle. -/
def ownWord : AllocationFact :=
  { allocationRef := "job-1", state := .active, observedAt := seconds 1
    locations := [⟨"self", 1, [{ gpuUuid := "GPU-0", runningProcessCount := some 0 }], some 0⟩]
    workloadObservedAt := some (seconds 1) }

/-- After the claim only `beta` is observed. -/
def otherServer (at_ : Time) : EndpointObservation := lookAtOne "beta" "GPU-1" at_ []

def onOwnWord : Watched :=
  Run.run (Watched.step soonerConfig) { broker := sampleFleet }
    (grantedWith ownWord ++ [.ingestObservation (seconds 3) (otherServer (seconds 3)) sampleToken])

instance (w w' : Watched) (id : String) : Decidable (w.Marks w' id) :=
  inferInstanceAs (Decidable (_ ∧ _))

theorem onOwnWord_marks : onOwnWord.Marks (onOwnWord.step soonerConfig
    (.ingestObservation (seconds 124) (otherServer (seconds 124)) sampleToken)) "grant" := by
  decide +kernel

theorem onOwnWord_seen : (onOwnWord.step soonerConfig
    (.ingestObservation (seconds 124) (otherServer (seconds 124)) sampleToken)).seen.all
      (fun o => o.allocations.isEmpty) = true := by
  decide +kernel

/-- **Reclaimed on a plugin's word**: the answer to a claim is recorded as it came, and the passes
of another server's observations count it, though no node of the allocation was ever seen. -/
theorem own_word_reclaims :
    ¬ ∀ (cfg : Config) (b₀ : Broker) (ops : List Op), Seeded b₀ →
      ∀ (now : Time) (o : EndpointObservation) (token : String → String → String) (id : String),
      (Run.run (Watched.step cfg) { broker := b₀ } ops).Marks
        ((Run.run (Watched.step cfg) { broker := b₀ } ops).step cfg
          (.ingestObservation now o token)) id →
      ((Run.run (Watched.step cfg) { broker := b₀ } ops).step cfg
        (.ingestObservation now o token)).Vouches cfg now id := by
  intro h
  obtain ⟨k, stretch, rest, -, -, -, hwhole, -⟩ := h soonerConfig sampleFleet _ sampleFleet_seeded
    (seconds 124) (otherServer (seconds 124)) sampleToken "grant" onOwnWord_marks
  obtain ⟨o, ho, f, hf, -⟩ := (hwhole k List.mem_cons_self).shown
  have hnone := List.all_eq_true.1 onOwnWord_seen o ho
  rw [List.isEmpty_iff] at hnone
  rw [hnone] at hf
  cases hf

/-- What the provider reports of the job, without a word on what runs. -/
def jobFact (at_ : Time) : AllocationFact :=
  { allocationRef := "job-1", state := .active, observedAt := at_
    locations := [⟨"self", 1, [{ gpuUuid := "GPU-0" }], none⟩] }

/-- The job's node, seen with the job on it and nothing running. -/
def idleJob (at_ : Time) : EndpointObservation :=
  { lookAtOne "alpha" "GPU-0" at_ [] with allocations := [jobFact at_] }

/-- The same claim, its answer without such a word, goes on two looks at its own node. -/
theorem idle_job_vouched :
    ((Run.run (Watched.step soonerConfig) { broker := sampleFleet }
      (grantedWith (jobFact (seconds 1)) ++
        [.ingestObservation (seconds 3) (idleJob (seconds 3)) sampleToken])).step soonerConfig
      (.ingestObservation (seconds 124) (idleJob (seconds 124)) sampleToken)).Vouches soonerConfig
        (seconds 124) "grant" :=
  reclaim_vouched sampleFleet_seeded (by decide +kernel) (seconds 124) (idleJob (seconds 124))
    sampleToken "grant" (by decide +kernel)

end ServerPilot
