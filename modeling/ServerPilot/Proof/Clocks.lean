import ServerPilot.Proof.Ownership
import ServerPilot.Spec.Snapshot

/-!
# The remote clock and the broker's

A reading carries two times: when its node says it was taken, `observedAt`, and
when the broker received it, `collectedAt`. Freshness and the staleness test read
the first, which a node may have put in the future.

* `apply_reads`: a transaction adds no reading, except those of the looks an
  observation takes in.
* `clocks_agree`: while nothing taken in is ahead of its receipt, a card counts as
  fresh no longer than the limit after a sample of it was received, and no look of
  the present is refused for its age.
* `ahead_blocks`: a node taken in ahead of its receipt refuses such a look.
-/

namespace ServerPilot

open Rows Checked

/-! ## The readings of a plant -/

/-- The readings of cards and of hosts. -/
def Plant.readings (p : Plant) : List TelemetryCurrent × List HostTelemetry :=
  (p.telemetry, p.hosts)

/-- No reading is new. -/
def Plant.Rereads (p p' : Plant) : Prop :=
  (∀ t ∈ p'.telemetry, t ∈ p.telemetry) ∧ ∀ h ∈ p'.hosts, h ∈ p.hosts

/-- The readings after looks received at `now`: old ones, and those of looks the staleness test
let through. -/
structure Plant.Reads (e : String) (now : Time) (ns : List NodeObservation) (p p' : Plant) :
    Prop where
  cards : ∀ t ∈ p'.telemetry, t ∈ p.telemetry ∨ t.collectedAt = now ∧ ∃ n ∈ ns,
    n.observedAt = t.observedAt ∧ p.staleNode e n = false ∧
      ∃ s ∈ n.gpus, gpuIdOf e n.nodeId s.gpuUuid = t.gpuId
  hosts : ∀ h ∈ p'.hosts, h ∈ p.hosts ∨ ∃ n ∈ ns,
    n.observedAt = h.observedAt ∧ p.staleNode e n = false

section

variable {e : String} {now : Time} {cfg : Config} {b : Broker} {p p' p'' : Plant}
  {o : NodeObservation} {ns : List NodeObservation}

theorem Plant.Rereads.of_eq (h : p'.readings = p.readings) : p.Rereads p' := by
  obtain ⟨ht, hh⟩ := Prod.mk.injEq .. ▸ h
  exact ⟨fun t hm => ht ▸ hm, fun x hm => hh ▸ hm⟩

theorem Plant.Reads.of_eq (h : p''.readings = p'.readings) (hr : p.Reads e now ns p') :
    p.Reads e now ns p'' := by
  obtain ⟨ht, hh⟩ := Prod.mk.injEq .. ▸ h
  exact ⟨fun t hm => hr.cards t (ht ▸ hm), fun x hm => hr.hosts x (hh ▸ hm)⟩

theorem shown_readings (h : p'.shown = p.shown) : p'.readings = p.readings :=
  congrArg (fun x => x.2.2) h

/-- The readings of one look at a node's cards. -/
theorem seeCards_telemetry {t : TelemetryCurrent} (ht : t ∈ (p.seeCards e o now).telemetry) :
    t ∈ p.telemetry ∨ t.collectedAt = now ∧ o.observedAt = t.observedAt ∧
      ∃ s ∈ o.gpus, gpuIdOf e o.nodeId s.gpuUuid = t.gpuId := by
  revert t
  unfold Plant.seeCards
  apply Run.foldl_inv (I := fun q : Plant => ∀ {t : TelemetryCurrent}, t ∈ q.telemetry →
    t ∈ p.telemetry ∨ t.collectedAt = now ∧ o.observedAt = t.observedAt ∧
      ∃ s ∈ o.gpus, gpuIdOf e o.nodeId s.gpuUuid = t.gpuId)
  · intro q s hs hq t ht
    rcases List.mem_append.1 ht with ht | ht
    · exact hq (List.mem_filter.1 ht).1
    · rw [List.mem_singleton.1 ht]
      exact Or.inr ⟨rfl, rfl, s, hs, rfl⟩
  · -- inserting the cards' rows reads nothing
    have hsame : (o.gpus.foldl (Plant.seeGpu e o.nodeId o.observedAt) p).telemetry =
        p.telemetry := by
      apply Run.foldl_inv (I := fun q : Plant => q.telemetry = p.telemetry) _ rfl
      intro q s _ hq
      rw [← hq]
      rfl
    intro t ht
    rw [hsame] at ht
    exact Or.inl ht

/-- One look at a node. -/
theorem ingested_reads (b : Broker) (o : NodeObservation) :
    b.plant.Reads e now [o] (ingestNodeObservation cfg e now b o).plant := by
  unfold ingestNodeObservation
  split
  · exact ⟨fun t ht => Or.inl ht, fun h hh => Or.inl hh⟩
  rename_i hs
  have hstale : b.plant.staleNode e o = false := by simpa using hs
  have hread : b.plant.Reads e now [o] ((b.plant.readHost e o now).seeCards e o now) := by
    constructor
    · intro t ht
      rcases seeCards_telemetry ht with ht | ⟨hnow, hat, hcard⟩
      · exact Or.inl ht
      · exact Or.inr ⟨hnow, o, List.mem_singleton_self o, hat, hstale, hcard⟩
    · intro h hh
      rw [seeCards_hosts] at hh
      rcases List.mem_append.1 hh with hh | hh
      · exact Or.inl (List.mem_filter.1 hh).1
      · rw [List.mem_singleton.1 hh]
        exact Or.inr ⟨o, List.mem_singleton_self o, rfl, hstale⟩
  refine .of_eq ?_ hread
  rw [shown_readings (seeProcesses_shown _ _ _ _ _)]
  simp only
  split
  · rfl
  · rw [shown_readings (releaseAbsentKeepers_shown _ _)]
    rfl

/-- The looks of one observation, one after the other. -/
theorem nodes_reads (hns : (ns.map NodeObservation.nodeId).Nodup) (b : Broker) :
    b.plant.Reads e now ns (ns.foldl (ingestNodeObservation cfg e now) b).plant := by
  induction ns generalizing b with
  | nil => exact ⟨fun t ht => Or.inl ht, fun h hh => Or.inl hh⟩
  | cons o rest ih =>
    obtain ⟨hout, hrest⟩ := List.nodup_cons.1 hns
    have hhead : b.plant.Reads e now [o] (ingestNodeObservation cfg e now b o).plant :=
      ingested_reads b o
    have htail := ih hrest (ingestNodeObservation cfg e now b o)
    -- the staleness of the other nodes was not touched
    have hstale : ∀ m ∈ rest, (ingestNodeObservation cfg e now b o).plant.staleNode e m =
        b.plant.staleNode e m := by
      intro m hm
      refine ingested_staleNode b fun heq => hout ?_
      exact List.mem_map.2 ⟨m, hm, heq⟩
    constructor
    · intro t ht
      rcases htail.cards t ht with ht | ⟨hnow, n, hn, hat, hs, hcard⟩
      · rcases hhead.cards t ht with ht | ⟨hnow, n, hn, hread⟩
        · exact Or.inl ht
        · exact Or.inr ⟨hnow, n, by rw [List.mem_singleton.1 hn]; exact List.mem_cons_self, hread⟩
      · exact Or.inr ⟨hnow, n, List.mem_cons_of_mem _ hn, hat, hstale n hn ▸ hs, hcard⟩
    · intro h hh
      rcases htail.hosts h hh with hh | ⟨n, hn, hat, hs⟩
      · rcases hhead.hosts h hh with hh | ⟨n, hn, hread⟩
        · exact Or.inl hh
        · exact Or.inr ⟨n, by rw [List.mem_singleton.1 hn]; exact List.mem_cons_self, hread⟩
      · exact Or.inr ⟨n, List.mem_cons_of_mem _ hn, hat, hstale n hn ▸ hs⟩

/-- What an observation reads, its nodes read. -/
theorem absorb_readings (cfg : Config) (now : Time) (b : Broker) (o : EndpointObservation) :
    (b.absorb cfg now o).plant.readings =
      (o.nodes.foldl (ingestNodeObservation cfg o.endpointId now)
        { b with ledger := b.ledger.bumpRevision }).plant.readings :=
  shown_readings (absorb_shown cfg now b o)

theorem absorb_reads (cfg : Config) (now : Time) (b : Broker) (o : EndpointObservation) :
    b.plant.Reads o.endpointId now o.nodes (b.absorb cfg now o).plant :=
  .of_eq (absorb_readings cfg now b o)
    (nodes_reads (List.Nodup.of_append_left o.unique_nodes) { b with
      ledger := b.ledger.bumpRevision })

end

/-! ## Every transaction -/

section

variable {cfg : Config} {op : Op} {b b' : Broker} {resp : Response}

/-- **The readings after a transaction**: none is new, or it is an observation and they are those
of its looks. -/
theorem apply_reads (hk : Kept b) (h : op.apply cfg b = .ok (b', resp)) :
    b.plant.Rereads b'.plant ∨ ∃ now o token, op = .ingestObservation now o token ∧
      b.plant.staleObservation o = false ∧ b.plant.Reads o.endpointId now o.nodes b'.plant := by
  rcases apply_shown hk h with hs | ⟨now, actor, data, key, rfl, hp⟩ |
    ⟨now, o, token, rfl, hs, rfl⟩ | ⟨now, actor, e, key, rfl, hp⟩
  · exact Or.inl (.of_eq (shown_readings hs))
  · exact Or.inl (.of_eq (by rw [hp]; rfl))
  · refine Or.inr ⟨now, o, token, rfl, hs, ?_⟩
    rw [ingested_plant]
    exact absorb_reads cfg now b o
  · rw [hp]
    exact Or.inl ⟨fun t ht => (List.mem_filter.1 ht).1, fun x hx => (List.mem_filter.1 hx).1⟩

end

/-! ## Fresh cards -/

/-- A state that says nothing fresh is known of the card. -/
def GpuState.outdated (s : GpuState) : Bool :=
  decide (s = .unknownStale ∨ s = .unknownRecovering)

/-- The card counts as freshly observed at `now`: by `derive_state`, in some snapshot, by
`_gpu_state`, or by `_resources_have_fresh_telemetry`. -/
def Broker.countsFresh (cfg : Config) (now : Time) (b : Broker) (gpuId : String) : Prop :=
  (∃ endpointId, ∃ g ∈ b.plant.gpus, g.id = gpuId ∧
    (b.deriveState cfg now (b.view cfg endpointId) g).1.outdated = false) ∨
  (∃ g ∈ b.plant.gpus, g.id = gpuId ∧ (b.gpuState cfg now g).1.outdated = false) ∨
  ∃ rs : List LeaseResource, b.plant.resourcesHaveFreshTelemetry cfg now rs = true ∧
    gpuId ∈ rs.map LeaseResource.gpuId

/-- The transaction is an observation with a sample of the card. -/
def Op.samples (gpuId : String) (op : Op) : Prop :=
  ∃ p ∈ op.observation, ∃ n ∈ p.2.nodes, ∃ s ∈ n.gpus,
    gpuIdOf p.2.endpointId n.nodeId s.gpuUuid = gpuId

/-- After the run `seen`, a card counts as fresh at most the staleness limit after a sample of it
was received. -/
def FreshOnTime (cfg : Config) (seen : List Op) (b : Broker) : Prop :=
  ∀ now gpuId, b.countsFresh cfg now gpuId →
    ∃ op ∈ seen, op.samples gpuId ∧ now ≤ op.now + cfg.staleAfter

/-- After the run `seen`, no look received at its own time is ignored for its age. -/
def TakenOnTime (seen : List Op) (b : Broker) : Prop :=
  ∀ now, (∀ op ∈ seen, op.now ≤ now) → ∀ o : EndpointObservation,
    (∀ n ∈ o.nodes, n.observedAt = now) → b.plant.staleObservation o = false ∧
      ∀ n ∈ o.nodes, b.plant.staleNode o.endpointId n = false

/-- An observation none of whose looks is both taken in and ahead of its receipt. -/
def Broker.punctual (b : Broker) (op : Op) : Prop :=
  ∀ p ∈ op.observation, b.plant.staleObservation p.2 = true ∨ ∀ n ∈ p.2.nodes,
    b.plant.staleNode p.2.endpointId n = true ∨ n.observedAt ≤ p.1

instance (b : Broker) (op : Op) : Decidable (b.punctual op) :=
  inferInstanceAs (Decidable (∀ p ∈ op.observation, _))

/-- Nothing has been read yet. -/
structure Plant.Unread (p : Plant) : Prop where
  telemetry : p.telemetry = []
  hosts : p.hosts = []

/-- Every reading was received by the run, and is not ahead of its receipt. -/
structure Received (seen : List Op) (p : Plant) : Prop where
  cards : ∀ t ∈ p.telemetry, ∃ op ∈ seen, op.samples t.gpuId ∧ t.observedAt ≤ op.now
  hosts : ∀ h ∈ p.hosts, ∃ op ∈ seen, h.observedAt ≤ op.now

section

variable {cfg : Config} {seen : List Op} {b b' b₀ : Broker} {op : Op} {ops : List Op} {now : Time}
  {gpuId : String} {p p' : Plant}

/-- What counts as fresh has a reading of that age. -/
theorem countsFresh_reading (h : b.countsFresh cfg now gpuId) :
    ∃ t ∈ b.plant.telemetry, t.gpuId = gpuId ∧ now ≤ t.observedAt + cfg.staleAfter := by
  rcases h with ⟨endpointId, g, -, rfl, h⟩ | ⟨g, -, rfl, h⟩ | ⟨rs, h, hr⟩
  · unfold Broker.deriveState at h
    split at h
    · cases h
    split at h
    · cases h
    split at h
    · cases h
    rename_i t ht
    split at h
    · cases h
    rename_i hage
    have hread : t ∈ (b.view cfg endpointId).telemetry ∧ t.gpuId = g.id := row?_some ht
    refine ⟨t, (List.mem_filter.1 hread.1).1, hread.2, ?_⟩
    have hle : now - t.observedAt ≤ cfg.staleAfter := not_lt.1 hage
    exact sub_le_iff_le_add'.1 hle
  · unfold Broker.gpuState at h
    split at h
    · cases h
    split at h
    · cases h
    split at h
    · cases h
    rename_i t ht
    split at h
    · cases h
    rename_i hage
    have hread : t ∈ b.plant.telemetry ∧ t.gpuId = g.id := row?_some ht
    refine ⟨t, hread.1, hread.2, ?_⟩
    have hle : now - t.observedAt ≤ cfg.staleAfter := not_lt.1 hage
    exact sub_le_iff_le_add'.1 hle
  · obtain ⟨r, hrm, rfl⟩ := List.mem_map.1 hr
    have hfresh := List.all_eq_true.1 h r hrm
    unfold Plant.cardFresh at hfresh
    obtain ⟨-, hfresh⟩ := Bool.and_eq_true .. ▸ hfresh
    obtain ⟨t, ht, hage⟩ := (Option.any_eq_true ..).1 hfresh
    have hread : t ∈ b.plant.telemetry ∧ t.gpuId = r.gpuId := row?_some ht
    refine ⟨t, hread.1, hread.2, ?_⟩
    have hle : now - cfg.staleAfter ≤ t.observedAt := of_decide_eq_true hage
    exact sub_le_iff_le_add.1 hle

theorem Received.fresh (h : Received seen b.plant) : FreshOnTime cfg seen b := by
  intro now gpuId hfresh
  obtain ⟨t, ht, rfl, hage⟩ := countsFresh_reading hfresh
  obtain ⟨op, hop, hsample, hle⟩ := h.cards t ht
  exact ⟨op, hop, hsample, hage.trans (by gcongr)⟩

theorem Received.taken (h : Received seen b.plant) : TakenOnTime seen b := by
  intro now hnow o ho
  have hnode : ∀ n ∈ o.nodes, b.plant.staleNode o.endpointId n = false := by
    intro n hn
    unfold Plant.staleNode
    rw [Option.any_eq_false]
    intro x hx
    obtain ⟨op, hop, hle⟩ := h.hosts x (row?_some hx).1
    have hpast : x.observedAt ≤ n.observedAt := by
      rw [ho n hn]
      exact hle.trans (hnow op hop)
    exact decide_eq_false (not_lt.2 hpast)
  refine ⟨?_, hnode⟩
  unfold Plant.staleObservation
  cases hns : o.nodes with
  | nil => rfl
  | cons n ns =>
    have hfirst := hnode n (hns ▸ List.mem_cons_self)
    simp only [List.all_cons, hfirst, Bool.false_and, Bool.and_false]

theorem Received.mono (h : Received seen p) (op : Op) (hp : p.Rereads p') :
    Received (seen ++ [op]) p' := by
  constructor
  · intro t ht
    obtain ⟨x, hx, hread⟩ := h.cards t (hp.1 t ht)
    exact ⟨x, List.mem_append_left _ hx, hread⟩
  · intro t ht
    obtain ⟨x, hx, hread⟩ := h.hosts t (hp.2 t ht)
    exact ⟨x, List.mem_append_left _ hx, hread⟩

/-- **One transaction** that takes in nothing ahead of its receipt. -/
theorem received_exec (hk : Kept b) (h : Received seen b.plant) (hop : b.punctual op) :
    Received (seen ++ [op]) (exec cfg b op).plant := by
  rcases exec_cases cfg b op with ⟨b', r, hok, hexec⟩ | ⟨-, hexec⟩
  · rw [hexec]
    rcases apply_reads hk hok with hp | ⟨now, o, token, rfl, hs, hr⟩
    · exact h.mono op hp
    have hpunctual : ∀ n ∈ o.nodes, b.plant.staleNode o.endpointId n = false →
        n.observedAt ≤ now := by
      intro n hn hstale
      rcases hop (now, o) rfl with hall | hall
      · rw [hs] at hall
        cases hall
      · rcases hall n hn with h' | h'
        · rw [hstale] at h'
          cases h'
        · exact h'
    have hlast : Op.ingestObservation now o token ∈ seen ++ [.ingestObservation now o token] :=
      List.mem_append_right _ (List.mem_singleton_self _)
    have hold := h.mono (.ingestObservation now o token) (.of_eq rfl)
    constructor
    · intro t ht
      rcases hr.cards t ht with ht | ⟨-, n, hn, hat, hstale, s, hsm, hid⟩
      · exact hold.cards t ht
      · refine ⟨_, hlast, ⟨(now, o), rfl, n, hn, s, hsm, hid⟩, ?_⟩
        rw [← hat]
        exact hpunctual n hn hstale
    · intro x hx
      rcases hr.hosts x hx with hx | ⟨n, hn, hat, hstale⟩
      · exact hold.hosts x hx
      · refine ⟨_, hlast, ?_⟩
        rw [← hat]
        exact hpunctual n hn hstale
  · rw [hexec]
    exact h.mono op (.of_eq rfl)

/-- **A run** that takes in nothing ahead of its receipt. -/
theorem received_run (hk : Kept b) (h : Received seen b.plant)
    (ha : Run.Along (exec cfg) Broker.punctual b ops) :
    Received (seen ++ ops) (Run.run (exec cfg) b ops).plant := by
  induction ops generalizing b seen with
  | nil =>
    rw [List.append_nil]
    exact h
  | cons op ops ih =>
    have hrest := ih (exec_kept cfg b op hk) (received_exec hk h ha.1) ha.2
    rw [List.append_assoc] at hrest
    exact hrest

/-! ## Looks ahead of their receipt -/

/-- A look that is taken in becomes the node's reading. -/
theorem ingested_host_self {e : String} {o : NodeObservation}
    (hs : b.plant.staleNode e o = false) :
    ((ingestNodeObservation cfg e now b o).plant.host? e o.nodeId).map HostTelemetry.observedAt =
      some o.observedAt := by
  have hread : ((b.plant.readHost e o now).host? e o.nodeId).map HostTelemetry.observedAt =
      some o.observedAt := by
    unfold Plant.readHost Plant.host?
    simp only
    rw [row?_append]
    cases hold : row? (fun h : HostTelemetry => (h.endpointId, h.nodeId)) (e, o.nodeId)
        (b.plant.hosts.filter fun h => ¬ (h.endpointId = e ∧ h.nodeId = o.nodeId)) with
    | none => simp [row?]
    | some h =>
      obtain ⟨hm, hkey⟩ := row?_some hold
      have hne := of_decide_eq_true (List.mem_filter.1 hm).2
      exact absurd ⟨congrArg Prod.fst hkey, congrArg Prod.snd hkey⟩ hne
  have hhosts : (ingestNodeObservation cfg e now b o).plant.hosts =
      (b.plant.readHost e o now).hosts := by
    unfold ingestNodeObservation
    rw [hs]
    simp only [Bool.false_eq_true, if_false, seeProcesses_hosts]
    split
    · exact seeCards_hosts _ _ _
    · rw [releaseAbsentKeepers_hosts]
      exact seeCards_hosts _ _ _
  rw [← hread]
  unfold Plant.host?
  rw [hhosts]

/-- The nodes an observation did not look at keep their readings. -/
theorem nodes_host_other {e m : String} {ns : List NodeObservation}
    (hm : m ∉ ns.map NodeObservation.nodeId) (b : Broker) :
    (ns.foldl (ingestNodeObservation cfg e now) b).plant.host? e m = b.plant.host? e m := by
  apply Run.foldl_inv (I := fun x : Broker => x.plant.host? e m = b.plant.host? e m) _ rfl
  intro x n hn hx
  rw [← hx]
  refine ingested_host x e m n fun heq => hm ?_
  exact List.mem_map.2 ⟨n, hn, heq.symm⟩

theorem nodes_host {e : String} {ns : List NodeObservation}
    (hns : (ns.map NodeObservation.nodeId).Nodup) {n : NodeObservation} (hn : n ∈ ns)
    (hs : b.plant.staleNode e n = false) :
    ((ns.foldl (ingestNodeObservation cfg e now) b).plant.host? e n.nodeId).map
      HostTelemetry.observedAt = some n.observedAt := by
  induction ns generalizing b with
  | nil => cases hn
  | cons o rest ih =>
    obtain ⟨hout, hrest⟩ := List.nodup_cons.1 hns
    rcases List.mem_cons.1 hn with rfl | hm
    · rw [List.foldl_cons, nodes_host_other hout]
      exact ingested_host_self hs
    · refine ih hrest hm ?_
      rw [ingested_staleNode b fun heq => hout (List.mem_map.2 ⟨n, hm, heq⟩)]
      exact hs

/-- The host readings after an observation are those after its nodes. -/
theorem absorb_host (cfg : Config) (now : Time) (b : Broker) (o : EndpointObservation)
    (e m : String) :
    (b.absorb cfg now o).plant.host? e m =
      (o.nodes.foldl (ingestNodeObservation cfg o.endpointId now)
        { b with ledger := b.ledger.bumpRevision }).plant.host? e m := by
  have hhosts : (b.absorb cfg now o).plant.hosts =
      (o.nodes.foldl (ingestNodeObservation cfg o.endpointId now)
        { b with ledger := b.ledger.bumpRevision }).plant.hosts :=
    congrArg Prod.snd (absorb_readings cfg now b o)
  unfold Plant.host?
  rw [hhosts]

/-- A look of one node at one instant. -/
def glance (endpointId : String) (n : NodeObservation) (hn : n.Valid) (now : Time) :
    EndpointObservation :=
  { endpointId, nodes := [{ n with observedAt := now }]
    nodes_valid := fun _ h => List.mem_singleton.1 h ▸ ⟨hn.uuids, hn.indexes, hn.ordinals⟩
    unique_nodes := by simp }

/-- **A look taken in ahead of its receipt** makes the broker refuse the next one. -/
theorem ahead_blocks {resp : Response} (hok : op.apply cfg b = .ok (b', resp))
    (hop : ¬ b.punctual op) (hseen : ∀ x ∈ seen, x.now ≤ op.now) :
    ¬ TakenOnTime (seen ++ [op]) b' := by
  unfold Broker.punctual at hop
  simp only [not_forall] at hop
  obtain ⟨⟨now, o⟩, hobs, hop⟩ := hop
  obtain ⟨token, rfl⟩ : ∃ token, op = .ingestObservation now o token := by
    cases op <;> simp_all [Op.observation]
  simp only [not_or, not_forall, not_le] at hop
  obtain ⟨hs, n, hn, hstale, hahead⟩ := hop
  have hstale : b.plant.staleNode o.endpointId n = false := by simpa using hstale
  have hhost : (b'.plant.host? o.endpointId n.nodeId).map HostTelemetry.observedAt =
      some n.observedAt := by
    rw [ingestObservation_taken hok (by simpa using hs), absorb_host]
    exact nodes_host (List.Nodup.of_append_left o.unique_nodes) hn hstale
  intro htaken
  have hlate : ∀ x ∈ seen ++ [Op.ingestObservation now o token], x.now ≤ now := by
    intro x hx
    rcases List.mem_append.1 hx with hx | hx
    · exact hseen x hx
    · rw [List.mem_singleton.1 hx]
      exact le_rfl
  obtain ⟨-, hfresh⟩ := htaken now hlate (glance o.endpointId n (o.nodes_valid n hn) now)
    fun m hm => by rw [List.mem_singleton.1 hm]
  have hrefused := hfresh _ (List.mem_singleton_self _)
  unfold Plant.staleNode at hrefused
  obtain ⟨x, hx, hat⟩ := Option.map_eq_some_iff.1 hhost
  rw [show (glance o.endpointId n (o.nodes_valid n hn) now).endpointId = o.endpointId from rfl,
    hx, Option.any_some, hat] at hrefused
  exact absurd hahead (of_decide_eq_false hrefused)

/-- **The remote clock and the broker's.** In every run from servers nobody has looked at, at times
that never go back: while no look is taken in ahead of its receipt, after every step a card counts
as fresh at most the staleness limit after a sample of it was received, and a look received at its
own time is taken in. The first accepted step that takes in a look ahead of its receipt ends
that. -/
theorem clocks_agree {cfg : Config} {b₀ : Broker} (hs : Seeded b₀) (hu : b₀.plant.Unread)
    {ops : List Op} (hclock : (ops.map Op.now).Pairwise (· ≤ ·)) :
    (Run.Along (exec cfg) Broker.punctual b₀ ops → ∀ seen, seen <+: ops →
      FreshOnTime cfg seen (Run.run (exec cfg) b₀ seen) ∧
        TakenOnTime seen (Run.run (exec cfg) b₀ seen)) ∧
    ∀ seen op b' resp, seen ++ [op] <+: ops →
      op.apply cfg (Run.run (exec cfg) b₀ seen) = .ok (b', resp) →
      ¬ (Run.run (exec cfg) b₀ seen).punctual op → ¬ TakenOnTime (seen ++ [op]) b' := by
  have hk : Kept b₀ := hs.kept
  constructor
  · rintro ha seen ⟨rest, rfl⟩
    have hstart : Received [] b₀.plant := by
      constructor
      · intro t ht
        rw [hu.telemetry] at ht
        cases ht
      · intro h hh
        rw [hu.hosts] at hh
        cases hh
    have hreceived : Received seen (Run.run (exec cfg) b₀ seen).plant :=
      received_run hk hstart (Run.along_append.1 ha).1
    exact ⟨hreceived.fresh, hreceived.taken⟩
  · rintro seen op b' resp ⟨rest, rfl⟩ hok hop
    refine ahead_blocks hok hop fun x hx => ?_
    rw [List.append_assoc, List.map_append] at hclock
    exact (List.pairwise_append.1 hclock).2.2 x.now (List.mem_map.2 ⟨x, hx, rfl⟩) op.now
      List.mem_cons_self

end

/-! ## A clock two hours ahead -/

/-- A look received at its own time. -/
def timelyLook : EndpointObservation := lookAtOne "alpha" "GPU-0" (seconds 60) []

/-- A look whose node says it is two hours later. -/
def aheadLook : EndpointObservation := lookAtOne "alpha" "GPU-0" (seconds 7200) []

def timely : List Op := [.ingestObservation (seconds 60) timelyLook sampleToken]

def ahead : List Op := [.ingestObservation 0 aheadLook sampleToken]

/-- `clocks_agree`, of a look that is on time, and of one that is not after it. -/
theorem clocks_agree_timely :
    (FreshOnTime plainConfig timely (Run.run (exec plainConfig) sampleFleet timely) ∧
      TakenOnTime timely (Run.run (exec plainConfig) sampleFleet timely)) ∧
    ∃ b' resp, (Op.ingestObservation (seconds 90) aheadLook sampleToken).apply plainConfig
        (Run.run (exec plainConfig) sampleFleet timely) = .ok (b', resp) ∧
      ¬ TakenOnTime (timely ++ [.ingestObservation (seconds 90) aheadLook sampleToken]) b' := by
  have hu : sampleFleet.plant.Unread := ⟨rfl, rfl⟩
  refine ⟨?_, ?_⟩
  · refine (@clocks_agree plainConfig _ sampleFleet_seeded hu timely (by decide)).1 ?_ timely
      List.prefix_rfl
    decide +kernel
  · have hlast := (@clocks_agree plainConfig _ sampleFleet_seeded hu
      (timely ++ [.ingestObservation (seconds 90) aheadLook sampleToken]) (by decide)).2 timely
      (.ingestObservation (seconds 90) aheadLook sampleToken)
    have haccepted : ((Op.ingestObservation (seconds 90) aheadLook sampleToken).apply plainConfig
        (Run.run (exec plainConfig) sampleFleet timely)).isOk = true := by decide +kernel
    cases hok : (Op.ingestObservation (seconds 90) aheadLook sampleToken).apply plainConfig
        (Run.run (exec plainConfig) sampleFleet timely) with
    | error e =>
      rw [hok] at haccepted
      cases haccepted
    | ok x => exact ⟨x.1, x.2, rfl, hlast x.1 x.2 List.prefix_rfl hok (by decide +kernel)⟩

/-- **A clock two hours ahead.** Its card counts as fresh almost two hours after the only look was
received, and the look of a minute later is refused. -/
theorem ahead_misleads :
    ¬ FreshOnTime plainConfig ahead (Run.run (exec plainConfig) sampleFleet ahead) ∧
      ¬ TakenOnTime ahead (Run.run (exec plainConfig) sampleFleet ahead) := by
  constructor
  · intro hfresh
    have hcounts : (Run.run (exec plainConfig) sampleFleet ahead).countsFresh plainConfig
        (seconds 7000) "alpha:GPU-0" := by
      refine Or.inr (Or.inl ?_)
      decide +kernel
    obtain ⟨op, hop, -, hle⟩ := hfresh _ _ hcounts
    rw [List.mem_singleton.1 hop] at hle
    revert hle
    decide
  · intro htaken
    obtain ⟨hignored, -⟩ := htaken (seconds 60) (by decide) timelyLook (by decide)
    revert hignored
    decide +kernel

end ServerPilot
