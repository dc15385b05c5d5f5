import ServerPilot.Proof.Absorb
import ServerPilot.Proof.Change
import ServerPilot.Proof.Keepers
import ServerPilot.Proof.Settle

/-!
# What one transaction does to the leases

`Life` is the list of everything an accepted transaction can do to the holdings;
`apply_life` reads each of the broker's transactions as one of them. The
invariants of the leases are derived from `Life` alone.
-/

namespace ServerPilot

open Rows Checked

/-- The transactions in which an observer or an operator takes cards from leases. -/
def Op.takes : Op → Bool
  | .ingestObservation .. | .releaseEmptyConflictedLease .. => true
  | _ => false

/-- The reassignment a transaction asks for. -/
def Op.reassignment : Op → Option Reassignment
  | .reassignLeaseGpus _ actor leaseId gpuIds key override _ =>
    some { actor, leaseId, gpuIds, key, override }
  | _ => none

/-- The server a transaction deletes. -/
def Op.deletes : Op → Option String
  | .deleteEndpoint _ _ endpointId _ => some endpointId
  | _ => none

/-- The transactions that insert leases. -/
def Op.begins : Op → Bool
  | .createRequest .. | .activateKeepalives .. | .claimFinish .. => true
  | _ => false

/-- The lease a transaction resizes. -/
def Op.resizes : Op → Option String
  | .resizeLease _ _ leaseId .. => some leaseId
  | _ => none

/-- One lease went on as `R` says, and every other holding is as it was. -/
structure Alone (R : Holding String String → Holding String String → Prop) (i : String)
    (l l' : Ledger) : Prop where
  others : ∀ id, id ≠ i → l'.holding? id = l.holding? id
  this : ∃ h h', l.holding? i = some h ∧ l'.holding? i = some h' ∧ R h h'

/-- What an accepted transaction does to the holdings. -/
inductive Life (b : Broker) (op : Op) (l : Ledger) : Prop
  | ends (e : Ends b.ledger l)
  | loses (ho : op.takes = true) (f : Fades b.ledger l)
  | opens (gpuIds : List String) (ho : op.begins = true)
      (o : Opening b.plant.endpointOf gpuIds b.ledger l)
  | resizes (i : String) (ho : op.resizes = some i)
      (a : Alone (Holding.Resized b.plant.endpointOf) i b.ledger l)
  | moves (m : Reassignment) (ho : op.reassignment = some m) (ha : b.admits m = true)
      (a : Alone (fun h h' => h'.cards = m.gpuIds.toFinset ∧ h.Moved b.plant.endpointOf h')
        m.leaseId b.ledger l)
  | uproots (e : String) (ho : op.deletes = some e)
      (u : Each (Holding.Deleted b.plant.endpointOf e) b.ledger l)

/-- Every holding is sound. -/
def Wellkept (l : Ledger) : Prop := ∀ id h, l.holding? id = some h → h.Sound

section

variable {R : Holding String String → Holding String String → Prop} {l l' : Ledger}

theorem Each.wellkept (hR : ∀ {h h'}, R h h' → h.Sound → h'.Sound) (e : Each R l l')
    (hs : Wellkept l) : Wellkept l' := by
  intro id h' hh'
  cases hh : l.holding? id with
  | none =>
    rw [e.absent id hh] at hh'
    cases hh'
  | some h =>
    obtain ⟨k, hk, r⟩ := e.related id h hh
    rw [hh'] at hk
    cases hk
    exact hR r (hs id h hh)

theorem Alone.wellkept {i : String} (hR : ∀ {h h'}, R h h' → h.Sound → h'.Sound)
    (a : Alone R i l l') (hs : Wellkept l) : Wellkept l' := by
  intro id h' hh'
  by_cases hid : id = i
  · subst hid
    obtain ⟨h, k, hh, hk, r⟩ := a.this
    rw [hh'] at hk
    cases hk
    exact hR r (hs id h hh)
  · rw [a.others id hid] at hh'
    exact hs id h' hh'

/-- **Whatever a transaction does, holdings stay sound.** -/
theorem Life.wellkept {b : Broker} {op : Op} (k : Life b op l) (hs : Wellkept b.ledger) :
    Wellkept l := by
  cases k with
  | ends e => exact e.fades.wellkept Holding.Shrinks.sound hs
  | loses _ f => exact f.wellkept Holding.Shrinks.sound hs
  | opens gpuIds _ o =>
    intro id h' hh'
    cases hh : b.ledger.holding? id with
    | none =>
      rcases o.new id hh with hn | ⟨k, hk, hb, -⟩
      · rw [hn] at hh'
        cases hh'
      · rw [hh'] at hk
        cases hk
        exact hb.sound
    | some h =>
      rw [(o.old id (by rw [hh]; simp)).1] at hh'
      exact hs id h' hh'
  | resizes i _ a => exact a.wellkept Holding.Resized.sound hs
  | moves m _ _ a => exact a.wellkept (fun r => r.2.sound) hs
  | uproots e _ u =>
    refine u.wellkept (fun r hs => ?_) hs
    rcases r with r | r
    · exact r.sound hs
    · exact r.sound

end

/-! ## Transactions that leave every holding -/

section

variable {cfg : Config} {now : Time} {actor : ActorContext} {b b' : Broker} {resp : Response}

theorem Ends.of_tables {l l' : Ledger} (h₁ : l'.leases = l.leases)
    (h₂ : l'.resources = l.resources) (h₃ : l'.commitments = l.commitments) : Ends l l' :=
  (Keeps.of_tables h₁ h₂ h₃).ends

theorem remember_keeps (actor : ActorContext) (now : Time) (l : Ledger) (action : String)
    (key : Option String) (resp : Response) :
    Keeps l (l.remember actor action key resp now) := by
  obtain ⟨_, h⟩ := remember_eq l actor action key resp now
  rw [h]
  exact .of_tables rfl rfl rfl

theorem Ends.remember {l l' : Ledger} (e : Ends l l') (actor : ActorContext) (action : String)
    (key : Option String) (resp : Response) (now : Time) :
    Ends l (l'.remember actor action key resp now) :=
  e.trans (remember_keeps actor now l' action key resp).ends

theorem keepIdleCards_keeps (b : Broker) (id : String) :
    Keeps b.ledger (b.keepIdleCards cfg now id actor).1 := by
  have h : Keeps b.ledger
      (b.ledger.editResources (idleCardOf id) (LeaseResource.kept cfg now)) :=
    ⟨sameKeys_editResources (f := LeaseResource.kept cfg now) fun _ => rfl, fun _ =>
      holding_editResources (fun _ => rfl) (fun _ => rfl) fun _ => rfl⟩
  unfold Broker.keepIdleCards
  simp only
  split
  · exact h
  · exact h.trans (.of_tables rfl rfl rfl)

/-- A heartbeat, with or without a wish to keep idle cards. -/
theorem heartbeat_keeps (cfg : Config) (now : Time) (actor : ActorContext) (b : Broker)
    (id : String) (keepIdle : Bool) :
    (b.heartbeat cfg now id actor keepIdle).1.plant = b.plant ∧
      Keeps b.ledger (b.heartbeat cfg now id actor keepIdle).1.ledger := by
  have h : Keeps b.ledger (b.ledger.editLease id fun x => { x with lastHeartbeatAt := now }) :=
    .of_edit (fun _ => rfl) fun _ _ => ⟨rfl, rfl, rfl, rfl, rfl⟩
  unfold Broker.heartbeat
  split
  · exact ⟨rfl, h.trans (keepIdleCards_keeps ⟨b.plant, b.ledger.editLease id fun x =>
      { x with lastHeartbeatAt := now }⟩ id)⟩
  · exact ⟨rfl, h⟩

theorem unseenChanges_keeps (l : Ledger) (lease : Lease) : Keeps l (l.unseenChanges lease).1 := by
  unfold Ledger.unseenChanges
  simp only
  split
  · exact .refl l
  · exact .of_edit (fun _ => rfl) fun _ _ => ⟨rfl, rfl, rfl, rfl, rfl⟩

theorem leaseView_keeps {id task projectId : Option String} {keepIdle : Bool}
    (h : leaseView cfg now actor id task projectId keepIdle b = .ok (b', resp)) :
    b'.plant = b.plant ∧ Keeps b.ledger b'.ledger := by
  obtain ⟨lease, -, -, -, -, ⟨-, rfl, -⟩ | ⟨-, rfl, -⟩⟩ := leaseView_ok h
  · exact ⟨rfl, unseenChanges_keeps _ _⟩
  · obtain ⟨hp, hk⟩ := heartbeat_keeps cfg now actor
      ⟨b.plant, (b.ledger.unseenChanges lease).1⟩ lease.id keepIdle
    exact ⟨hp, (unseenChanges_keeps _ _).trans hk⟩

theorem activatedByBind_harmless (now : Time) (x : Lease) :
    Harmless (Lease.activatedByBind now) x := by
  by_cases hs : x.state = .held ∨ x.state = .conflict
  · have hx : x.activatedByBind now = { x with
        state := .active, activatedAt := some (x.activatedAt.getD now), lastHeartbeatAt := now } :=
      if_pos hs
    refine ⟨by rw [hx], by rw [hx], ?_, by rw [hx], by rw [hx]⟩
    rw [hx]
    rcases hs with hs | hs <;> rw [hs] <;> rfl
  · have hx : x.activatedByBind now = x := if_neg hs
    exact ⟨by rw [hx], by rw [hx], by rw [hx], by rw [hx], by rw [hx]⟩

theorem bindObservedWorkload_keeps {id : String} {run : Option String} {key : String}
    (h : bindObservedWorkload now actor id run key b = .ok (b', resp)) :
    b'.plant = b.plant ∧ Keeps b.ledger b'.ledger := by
  rcases bindObservedWorkload_ok h with rfl | ⟨lease, runId, runs, keys, n, hl, -, -, rfl⟩
  · exact ⟨rfl, .refl _⟩
  have hbind : Keeps b.ledger (b.ledger.bumpRevision.bindRun id runId runs keys) :=
    .of_tables rfl rfl rfl
  have hedit : ∀ l : Ledger, Keeps l (l.editLease id (Lease.activatedByBind now)) := by
    intro l
    refine .of_edit (fun x => ?_) fun x _ => activatedByBind_harmless now x
    unfold Lease.activatedByBind
    split <;> rfl
  have haudit : ∀ l : Ledger, Keeps l (l.auditBind actor lease runId n now) := by
    intro l
    unfold Ledger.auditBind
    split <;> split <;> exact .of_tables rfl rfl rfl
  exact ⟨rfl, hbind.trans ((hedit _).trans ((haudit _).trans (remember_keeps actor now _
    "lease.bind_observed" (some key) resp)))⟩

/-- A takeover changes whose a lease is, and no holding. -/
theorem takeOverLease_holding {leaseId task : Option String} {projectId reason : String}
    {force : Bool}
    (h : takeOverLease now actor leaseId task projectId reason force b = .ok (b', resp)) :
    b'.plant = b.plant ∧ ∀ id, b'.ledger.holding? id = b.ledger.holding? id := by
  obtain ⟨lease, session, l, d, -, -, hl, -, rfl⟩ := takeOverLease_ok h
  obtain ⟨projects, rfl⟩ := takeoverProject_ok hl
  refine ⟨rfl, fun id => ?_⟩
  exact holding_editLease (l := { b.ledger with projects }) (i := lease.id)
    (f := Lease.takenOver actor session projectId now) (fun _ => rfl)
    fun _ _ => ⟨rfl, rfl, rfl, rfl, rfl⟩

theorem takeOverLease_ends {leaseId task : Option String} {projectId reason : String} {force : Bool}
    (h : takeOverLease now actor leaseId task projectId reason force b = .ok (b', resp)) :
    b'.plant = b.plant ∧ Ends b.ledger b'.ledger :=
  ⟨(takeOverLease_holding h).1, .of_eq .refl (takeOverLease_holding h).2⟩

theorem finishCleanup_keeps (endpointId : String) (gpuIds : List String) (b : Broker) :
    Keeps b.ledger (gpuIds.foldl (finishCleanupOn actor endpointId now) b).ledger := by
  apply Run.foldl_inv (I := fun s : Broker => Keeps b.ledger s.ledger) _ (.refl _)
  intro s g _ hs
  unfold finishCleanupOn
  split
  · exact hs.trans (.of_tables rfl rfl rfl)
  · exact hs

theorem providerFailed_keeps (l : Ledger) (first : Bool) (endpointId message : String) :
    Keeps l (l.providerFailed first endpointId message now) := by
  unfold Ledger.providerFailed
  simp only
  split <;> exact .of_tables rfl rfl rfl

theorem claimPrepare_keeps {r : RequestCreate} {key : Option String} {endpointId token : String}
    {plugin : Plugin}
      (h : claimPrepare now actor r key endpointId plugin token b = .ok (b', resp)) :
    b'.plant = b.plant ∧ Keeps b.ledger b'.ledger := by
  rcases claimPrepare_ok h with rfl | ⟨projects, filed, -, -, h⟩
  · exact ⟨rfl, .refl _⟩
  · obtain ⟨as, ha⟩ := retireEnded_eq { b.ledger with projects } (key.filter fun k => k ≠ "") filed
    rcases h with ⟨a, -, -, rfl⟩ | ⟨-, -, rfl⟩
    · rw [ha]
      exact ⟨rfl, .of_tables rfl rfl rfl⟩
    · rw [ha]
      exact ⟨rfl, .of_tables rfl rfl rfl⟩

theorem policyConfigured_keeps (b : Broker) (e : Endpoint) (policy : KeepalivePolicy)
    (changed : Bool) (actorId : String) :
    Keeps b.ledger (b.policyConfigured e policy changed actorId now).ledger := by
  unfold Broker.policyConfigured
  simp only
  split
  · exact .of_tables rfl rfl rfl
  · exact .refl _

theorem endpointUpdated_keeps (b : Broker) (e : Endpoint) (u : EndpointUpdate) (actorId : String) :
    Keeps b.ledger (b.endpointUpdated e u actorId now).ledger := by
  unfold Broker.endpointUpdated
  simp only
  split
  · exact .refl _
  · exact .of_tables rfl rfl rfl

end

/-! ## Transactions that end leases -/

section

variable {cfg : Config} {now : Time} {actor : ActorContext} {b b' : Broker} {resp : Response}

/-- What a release writes: the end of its lease, and of the rest only what tells of allocations. -/
structure WritesEnd (b : Broker) (lease : Lease) (reason : String) (now : Time) (b' : Broker) :
    Prop where
  plant : b'.plant = b.plant
  leases : b'.ledger.leases = (b.ledger.endLease lease.id .released (some reason) now).leases
  resources :
    b'.ledger.resources = (b.ledger.endLease lease.id .released (some reason) now).resources
  commitments :
    b'.ledger.commitments = (b.ledger.endLease lease.id .released (some reason) now).commitments
  projects : b'.ledger.projects = b.ledger.projects
  idempotency : b'.ledger.idempotency = b.ledger.idempotency

theorem released_writes (b : Broker) (lease : Lease) (reason : String) (token : String → String)
    (now : Time) : WritesEnd b lease reason now (b.released lease reason token now) := by
  unfold Broker.released
  simp only
  split <;> exact ⟨rfl, rfl, rfl, rfl, rfl, rfl⟩

theorem folio_released_ne (b : Broker) (lease : Lease) (reason : String) (token : String → String)
    {id : String} (hne : id ≠ lease.id) :
    (b.released lease reason token now).ledger.folio id = b.ledger.folio id := by
  have h := released_writes b lease reason token now
  exact (folio_congr _ h.leases h.resources h.commitments).trans
    (folio_endLease_ne .released _ now hne)

theorem released_ends (b : Broker) (lease : Lease) (reason : String) (token : String → String) :
    Ends b.ledger (b.released lease reason token now).ledger := by
  have h := released_writes b lease reason token now
  have hend : Ends b.ledger (b.ledger.endLease lease.id .released (some reason) now) :=
    endLease_ends rfl (some reason) now
  exact hend.trans (.of_tables h.leases h.resources h.commitments)

theorem keeperStopped_ends (b : Broker) (leaseId gpuId actorId : String)
    (processes : List ProcessObservation) :
    Ends b.ledger (b.keeperStopped leaseId gpuId actorId processes now).ledger := by
  have h₀ : Ends b.ledger b.ledger.bumpRevision := .of_tables rfl rfl rfl
  exact h₀.trans ((endLease_ends (i := leaseId) (s := .released) rfl _ now).trans
    (.of_tables rfl rfl rfl))

theorem pluginReleased_ends (l : Ledger) (a : ResourceAllocation) (error : Option String) :
    Ends l (l.pluginReleased a error now) := by
  have h₀ : Ends l (l.editAllocations (fun x => x.id = a.id)
      (ResourceAllocation.marked error.isNone error now)) := .of_tables rfl rfl rfl
  unfold Ledger.pluginReleased Ledger.endReleased
  simp only
  split
  · rename_i x _
    exact h₀.trans ((endLease_ends (i := x.id) (s := .released) rfl _ now).trans
      (.of_tables rfl rfl rfl))
  · exact .of_tables rfl rfl rfl

end

/-! ## Observations -/

section

variable {cfg : Config} {now : Time} {token : String → String → String} {b : Broker}

theorem auditRecovery_keeps (l : Ledger) (recovered : Bool) (endpointId : String) :
    Keeps l (l.auditRecovery recovered endpointId now) := by
  unfold Ledger.auditRecovery
  split
  · exact .of_tables rfl rfl rfl
  · exact .refl _

/-- The state an observation's pass starts from. -/
def Broker.beforePass (cfg : Config) (now : Time) (b : Broker) (o : EndpointObservation) : Broker :=
  { b.absorb cfg now o with
    ledger := (b.absorb cfg now o).ledger.normalizeConflicts ("collector:" ++ o.endpointId) now }

theorem beforePass_closing (cfg : Config) (now : Time)
    (hn : (b.ledger.leases.map Lease.id).Nodup) (o : EndpointObservation) :
    Closing b.ledger (b.beforePass cfg now o).ledger := by
  have ha := absorb_closing cfg now hn o
  exact ha.trans (normalizeConflicts_keeps (ha.keys.leases ▸ hn)).closing

/-- An observation's pass, as a sweep of the leases live when it starts. -/
theorem pass_sweep (cfg : Config) (now : Time) (token : String → String → String) (b : Broker)
    (o : EndpointObservation) :
    Sweep (b.beforePass cfg now o).ledger.liveLeaseIds (b.beforePass cfg now o)
      ((b.absorb cfg now o).reconcileLeases cfg now ("collector:" ++ o.endpointId) token).1 :=
  reconcileLeases_sweep _

/-- **An observation** only takes cards. -/
theorem ingested_fades (hb : Intact b) (o : EndpointObservation) :
    Fades b.ledger (b.ingested cfg now o token).1.ledger := by
  have hc := beforePass_closing cfg now hb.leasePk o
  have hs := pass_sweep cfg now token b o
  have hf := hs.fades (hc.keys.rows ▸ hb.leaseGpu)
  exact hc.ends.fades.trans (hf.trans (auditRecovery_keeps _ _ _).ends.fades)

end

/-! ## Every transaction -/

section

variable {cfg : Config} {op : Op} {b b' : Broker} {resp : Response}

/-- The lease a delegated claim finishes with is new, and no other lease changes. -/
theorem claimFinish_fresh {now : Time} {actor : ActorContext} {r : RequestCreate}
    {key : Option String} {allocationId leaseId : String}
    (h : claimFinish now actor r key allocationId leaseId b = .ok (b', resp)) :
    b.ledger.lease? leaseId = none ∧
      ∀ id, id ≠ leaseId → b'.ledger.folio id = b.ledger.folio id := by
  obtain ⟨a, -, hi, rfl⟩ := claimFinish_ok h
  set k := delegatedLease leaseId actor r a.expiresAt now b.ledger.bumpRevision.revision
  set key' := key.filter fun x => x ≠ ""
  obtain ⟨idem, hrem⟩ := remember_eq (b.ledger.bumpRevision.delegate k allocationId now) actor
    "request.create" key' resp now
  refine ⟨?_, fun id hid => ?_⟩
  · have hn := hi.leasePk
    rw [hrem] at hn
    have hids : (b.ledger.bumpRevision.delegate k allocationId now).leases.map Lease.id =
        b.ledger.leases.map Lease.id ++ [leaseId] := List.map_append
    rw [lease?_eq_none]
    intro hm
    exact (List.nodup_append.1 (hids ▸ hn)).2.2 _ hm _ (List.mem_singleton_self _) rfl
  · have hf : ((b.ledger.bumpRevision.delegate k allocationId now).remember actor
        "request.create" key' resp now).folio id = (b.ledger.insertLease k [] []).folio id := by
      rw [folio_remember]
      rfl
    have hid : id ≠ k.id := hid
    rw [hf, folio_insertLease _ _ _ _ _ (by simp), if_neg hid]

/-- A finished delegated claim begins a holding without cards. -/
theorem claimFinish_opening {now : Time} {actor : ActorContext} {r : RequestCreate}
    {key : Option String} {allocationId leaseId : String} (hb : Intact b)
    (h : claimFinish now actor r key allocationId leaseId b = .ok (b', resp)) :
    b'.plant = b.plant ∧ Opening b.plant.endpointOf [] b.ledger b'.ledger := by
  obtain ⟨hfresh, hne⟩ := claimFinish_fresh h
  obtain ⟨a, -, -, rfl⟩ := claimFinish_ok h
  set k := delegatedLease leaseId actor r a.expiresAt now b.ledger.bumpRevision.revision
  set key' := key.filter fun x => x ≠ ""
  refine ⟨rfl, fun id hold => ?_, fun id hnew => ?_⟩
  · have hid : id ≠ k.id := by
      rintro rfl
      exact hold (holding_absent.2 hfresh)
    exact ⟨holding_congr (hne id hid), by rw [hne id hid]⟩
  · by_cases hid : id = k.id
    · rw [hid]
      have hs : ((b.ledger.bumpRevision.delegate k allocationId now).remember actor
          "request.create" key' resp now).folio k.id = ⟨some k, [], []⟩ := by
        have hf : ((b.ledger.bumpRevision.delegate k allocationId now).remember actor
            "request.create" key' resp now).folio k.id =
              (b.ledger.insertLease k [] []).folio k.id := by
          rw [folio_remember]
          rfl
        have hfresh : b.ledger.lease? k.id = none := hfresh
        rw [hf, folio_insertLease _ _ _ _ _ (by simp), if_pos rfl, folio_absent hb.grounded hfresh,
          hfresh]
        rfl
      refine Or.inr ⟨k.holding ∅ ∅, ?_, ⟨rfl, rfl, fun hd => ?_, fun hp => ?_⟩, rfl, ?_⟩
      · unfold Ledger.holding? Folio.holding?
        rw [hs]
        rfl
      · cases hd
      · cases hp
      · exact Finset.empty_subset _
    · exact Or.inl ((holding_congr (hne id hid)).trans hnew)

/-- A claim, as an opening. -/
theorem claim_opening {now : Time} {actor : ActorContext} {r : RequestCreate}
    {key : Option String} {persistent : Bool} {leaseId : String} {token : String → String}
    (hb : Intact b)
    (h : createRequest cfg now actor r key persistent leaseId token b = .ok (b', resp)) :
    ∃ gpuIds, Opening b.plant.endpointOf gpuIds b.ledger b'.ledger := by
  rcases claim_begun hb h with rfl | ⟨-, hnone, hne, x, hx, hbegun, he⟩
  · exact ⟨[], .refl _⟩
  refine ⟨x.cards.toList, fun id hold => ?_, fun id hnew => ?_⟩
  · have hid : id ≠ leaseId := by
      rintro rfl
      exact hold hnone
    exact ⟨holding_congr (hne id hid), by rw [hne id hid]⟩
  · by_cases hid : id = leaseId
    · subst hid
      exact Or.inr ⟨x, hx, hbegun, he, by rw [Finset.toList_toFinset]⟩
    · exact Or.inl ((holding_congr (hne id hid)).trans hnew)

/-- **Everything a transaction can do to the holdings.** -/
theorem apply_life (hb : Intact b) (hs : Wellkept b.ledger)
    (h : op.apply cfg b = .ok (b', resp)) : Life b op b'.ledger := by
  have same : ∀ {l : Ledger}, l = b.ledger → Life b op l :=
    fun hl => .ends (.of_eq .refl fun _ => by rw [hl])
  have keeps : ∀ {l : Ledger}, Keeps b.ledger l → Life b op l :=
    fun k => .ends k.ends
  cases op with
  | createRequest =>
    obtain ⟨gpuIds, o⟩ := claim_opening hb h
    exact .opens gpuIds rfl o
  | resizeLease now actor leaseId =>
    obtain ⟨-, hne, x, h', hx, -, -, -, hh', r⟩ := resize_resized hb h
    exact .resizes leaseId rfl ⟨fun id hid =>
      holding_congr (hne id hid), _, h', holding_of_lease hx,
      hh', r⟩
  | releaseLease now actor leaseId reason key override token =>
    rcases releaseLease_ok h with rfl | ⟨lease, -, -, -, -, d, rfl⟩
    · exact same rfl
    · have he : Ends b.ledger ((b.released lease (cut 500 (strip reason)) token now).ledger.addAudit
          (some actor.id) "lease.released" "lease" leaseId "success" d now) :=
        (released_ends b lease _ _).trans (.of_tables rfl rfl rfl)
      exact .ends (he.remember actor "lease.release" key resp now)
  | reassignLeaseGpus now actor leaseId =>
    rcases reassign_admitted h with rfl | ha
    · exact same rfl
    rcases reassign_moved hb h with rfl | ⟨-, hne, x, h', hx, -, hh', hc, -, r⟩
    · exact same rfl
    · exact .moves _ rfl ha ⟨fun id hid => holding_congr (hne id hid), _, h', holding_of_lease hx,
        hh', hc, r⟩
  | takeOverLease => exact .ends (takeOverLease_ends h).2
  | leaseView => exact keeps (leaseView_keeps h).2
  | recordLeaseHeartbeat =>
    rcases recordLeaseHeartbeat_ok h with rfl | ⟨-, rfl⟩
    · exact same rfl
    · exact keeps (heartbeat_keeps _ _ _ _ _ _).2
  | bindObservedWorkload => exact keeps (bindObservedWorkload_keeps h).2
  | releaseEmptyConflictedLease now actor endpointId leaseId =>
    rcases releaseEmpty_loses h with rfl | ⟨-, hne, hc, hh⟩
    · exact same rfl
    · refine .loses rfl (.of_map .refl (fun id hid => holding_congr (hne id hid)) hh fun k hk => ?_)
      apply Holding.lose_shrinks
      rw [holding_cards hk]
      refine hc.imp id fun hne => ?_
      obtain ⟨g, hg⟩ := Finset.nonempty_iff_ne_empty.2 hne
      exact ⟨g, (mem_serverCards.1 hg).1, hg⟩
  | activateKeepalives now actor endpointId gpuIds =>
    rcases activate_opening hb hs h with rfl | ⟨-, o⟩
    · exact same rfl
    · exact .opens gpuIds rfl o
  | finalizeKeepaliveStop =>
    rcases finalizeKeepaliveStop_ok h with rfl | ⟨lease, g, ps, -, -, -, -, -, -, -, rfl⟩
    · exact same rfl
    · exact .ends ((keeperStopped_ends _ _ _ _ _).remember _ _ _ _ _)
  | setKeepaliveError =>
    obtain ⟨rfl, -, -⟩ := finish_ok.1 h
    exact same rfl
  | finishKeepaliveCleanup =>
    obtain ⟨rfl, -, -⟩ := finish_ok.1 h
    exact keeps (finishCleanup_keeps _ _ _)
  | configureKeepalivePolicy now actor endpointId policy key =>
    rcases configureKeepalivePolicy_ok h with rfl | ⟨e, changed, -, -, rfl⟩
    · exact same rfl
    · exact .ends ((policyConfigured_keeps b e policy changed actor.id).ends.remember actor
        "keepalive.policy.configure" (some key) resp now)
  | ingestObservation =>
    rcases ingestObservation_ok h with rfl | ⟨-, -, rfl⟩
    · exact same rfl
    · exact .loses rfl (ingested_fades hb _)
  | recordProviderFailure =>
    obtain ⟨-, first, rfl⟩ := recordProviderFailure_ok h
    exact keeps (providerFailed_keeps _ _ _ _)
  | pruneExpired =>
    obtain ⟨rfl, -, -⟩ := finish_ok.1 h
    exact keeps (.of_tables rfl rfl rfl)
  | createServerGroup =>
    rcases createServerGroup_ok h with rfl | ⟨-, rfl⟩
    · exact same rfl
    · exact keeps (.of_tables rfl rfl rfl)
  | createEndpoint =>
    rcases createEndpoint_ok h with rfl | ⟨-, rfl⟩
    · exact same rfl
    · exact keeps (.of_tables rfl rfl rfl)
  | updateEndpoint now actor endpointId u key =>
    rcases updateEndpoint_ok h with rfl | ⟨e, -, -, rfl⟩
    · exact same rfl
    · exact .ends ((endpointUpdated_keeps b e u actor.id).ends.remember actor "endpoint.update"
        (some key) resp now)
  | deleteEndpoint now actor endpointId =>
    rcases delete_uprooted hb hs h with rfl | ⟨-, u⟩
    · exact same rfl
    · exact .uproots endpointId rfl u
  | claimPrepare => exact keeps (claimPrepare_keeps h).2
  | claimFailed | claimRemember | markAllocation =>
    obtain ⟨-, -, rfl⟩ := writeAllocation_ok h
    exact keeps (.of_tables rfl rfl rfl)
  | claimFinish => exact .opens [] rfl (claimFinish_opening hb h).2
  | finishPluginRelease =>
    rcases finishPluginRelease_ok h with rfl | ⟨a, -, -, rfl⟩
    · exact same rfl
    · exact .ends (pluginReleased_ends _ _ _)

/-- **What is committed is intact.** -/
theorem apply_intact (hb : Intact b) (h : op.apply cfg b = .ok (b', resp)) : Intact b' := by
  have replayed : ∀ {x : Broker}, x = b → Intact x := fun hx => hx ▸ hb
  cases op with
  | createRequest =>
    rcases createRequest_ok h with h | ⟨-, -, -, -, -, -, hi, -⟩
    exacts [replayed h, hi]
  | resizeLease =>
    obtain ⟨-, -, -, -, -, -, -, -, -, -, -, -, -, hi, -⟩ := resizeLease_ok h
    exact hi
  | releaseLease =>
    rcases releaseLease_ok h with h | ⟨-, -, -, -, hi, -⟩
    exacts [replayed h, hi]
  | reassignLeaseGpus =>
    rcases reassignLeaseGpus_ok h with h | ⟨-, -, -, -, -, -, -, -, -, -, -, -, hi, -⟩
    exacts [replayed h, hi]
  | takeOverLease =>
    obtain ⟨-, -, -, -, -, -, -, hi, -⟩ := takeOverLease_ok h
    exact hi
  | leaseView =>
    obtain ⟨-, -, -, -, hi, -⟩ := leaseView_ok h
    exact hi
  | recordLeaseHeartbeat =>
    rcases recordLeaseHeartbeat_ok h with h | ⟨hi, -⟩
    exacts [replayed h, hi]
  | bindObservedWorkload =>
    rcases bindObservedWorkload_ok h with h | ⟨-, -, -, -, -, -, -, hi, -⟩
    exacts [replayed h, hi]
  | releaseEmptyConflictedLease =>
    rcases releaseEmptyConflictedLease_ok h with h | ⟨-, -, -, -, hi, -⟩
    exacts [replayed h, hi]
  | activateKeepalives =>
    rcases activateKeepalives_ok h with h | ⟨-, -, -, -, -, -, -, hi, -⟩
    exacts [replayed h, hi]
  | finalizeKeepaliveStop =>
    rcases finalizeKeepaliveStop_ok h with h | ⟨-, -, -, -, -, -, -, -, -, hi, -⟩
    exacts [replayed h, hi]
  | setKeepaliveError | finishKeepaliveCleanup | pruneExpired =>
    obtain ⟨rfl, -, hi⟩ := finish_ok.1 h
    exact hi
  | configureKeepalivePolicy =>
    rcases configureKeepalivePolicy_ok h with h | ⟨-, -, -, hi, -⟩
    exacts [replayed h, hi]
  | ingestObservation =>
    rcases ingestObservation_ok h with h | ⟨-, hi, -⟩
    exacts [replayed h, hi]
  | recordProviderFailure => exact (recordProviderFailure_ok h).1
  | createServerGroup =>
    rcases createServerGroup_ok h with h | ⟨hi, -⟩
    exacts [replayed h, hi]
  | createEndpoint =>
    rcases createEndpoint_ok h with h | ⟨hi, -⟩
    exacts [replayed h, hi]
  | updateEndpoint =>
    rcases updateEndpoint_ok h with h | ⟨-, -, hi, -⟩
    exacts [replayed h, hi]
  | deleteEndpoint =>
    rcases deleteEndpoint_ok h with h | ⟨-, hi, -⟩
    exacts [replayed h, hi]
  | claimPrepare =>
    rcases claimPrepare_ok h with h | ⟨-, -, -, hi, -⟩
    exacts [replayed h, hi]
  | claimFailed | claimRemember | markAllocation =>
    obtain ⟨-, hi, -⟩ := writeAllocation_ok h
    exact hi
  | claimFinish =>
    obtain ⟨-, -, hi, -⟩ := claimFinish_ok h
    exact hi
  | finishPluginRelease =>
    rcases finishPluginRelease_ok h with h | ⟨-, -, hi, -⟩
    exacts [replayed h, hi]

end

/-! ## Every run -/

/-- What holds of every reachable state. -/
structure Kept (b : Broker) : Prop where
  intact : Intact b
  wellkept : Wellkept b.ledger

theorem Seeded.kept {b : Broker} (h : Seeded b) : Kept b := by
  refine ⟨h.intact, fun id x hx => ?_⟩
  obtain ⟨y, hy, -⟩ := lease_of_holding hx
  have hm := lease?_mem hy
  rw [h.leases] at hm
  cases hm

theorem exec_kept (cfg : Config) (b : Broker) (op : Op) (hk : Kept b) : Kept (exec cfg b op) := by
  rcases exec_cases cfg b op with ⟨b', r, h, he⟩ | ⟨-, he⟩
  · rw [he]
    exact ⟨apply_intact hk.intact h, (apply_life hk.intact hk.wellkept h).wellkept hk.wellkept⟩
  · rwa [he]

theorem run_kept (cfg : Config) {b : Broker} (ops : List Op) (hk : Kept b) :
    Kept (Run.run (exec cfg) b ops) :=
  Run.run_inv' (exec_kept cfg) hk

theorem Reachable.kept {cfg : Config} {b : Broker} (h : Reachable cfg b) : Kept b := by
  obtain ⟨b₀, hs, ops, rfl⟩ := h
  exact run_kept cfg ops hs.kept

end ServerPilot
