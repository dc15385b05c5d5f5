import ServerPilot.Proof.Available
import ServerPilot.Proof.Evidence
import ServerPilot.Proof.Inventory
import ServerPilot.Spec.Records

/-!
# No published row vanishes in the App

The App drops a row its readers refuse. Of an endpoint they refuse nothing a
snapshot says, and of a group only a path whose slash Swift reads together with the
scalar after it. A card's row contradicts itself when a keeper keeps a card of a
delegated endpoint free: its state then says available and its public flag does not.
The rows are all kept exactly when neither happens, `rows_kept_iff`.
-/

namespace ServerPilot

open Rows Checked

/-! ## Groups and card ids -/

/-- The groups are the same, and every new card has an id. -/
structure Plant.Presents (p q : Plant) : Prop where
  groups : q.serverGroups = p.serverGroups
  cards : ∀ g ∈ q.gpus, g.id ≠ "" ∨ g.id ∈ p.gpus.map GPUDevice.id

namespace Plant.Presents

variable {p q r : Plant}

theorem of_eq (hs : q.serverGroups = p.serverGroups) (hg : q.gpus = p.gpus) : p.Presents q :=
  ⟨hs, fun _ h => Or.inr (hg ▸ List.mem_map_of_mem h)⟩

/-- Nothing on show changed. -/
theorem of_shown (h : q.shown = p.shown) : p.Presents q :=
  of_eq (congrArg (fun x => x.1) h) (shown_gpus h)

theorem refl (p : Plant) : p.Presents p := of_eq rfl rfl

theorem trans (a : p.Presents q) (b : q.Presents r) : p.Presents r := by
  refine ⟨b.groups.trans a.groups, fun g hg => ?_⟩
  rcases b.cards g hg with h | h
  · exact Or.inl h
  · obtain ⟨g', hg', hid⟩ := List.mem_map.1 h
    rw [← hid]
    exact a.cards g' hg'

/-- A write on some cards that leaves their ids. -/
theorem of_upd {c : GPUDevice → Bool} {f : GPUDevice → GPUDevice}
    (hs : q.serverGroups = p.serverGroups) (hg : q.gpus = updWhere c f p.gpus)
    (hf : ∀ g, (f g).id = g.id) : p.Presents q := by
  refine ⟨hs, fun g h => Or.inr ?_⟩
  rw [← map_updWhere p.gpus hf (p := c), ← hg]
  exact List.mem_map_of_mem h

end Plant.Presents

/-- A row id is never empty. -/
theorem gpuIdOf_ne (e n u : String) : gpuIdOf e n u ≠ "" := by
  intro h
  have hlen := congrArg String.length h
  unfold gpuIdOf at hlen
  split at hlen <;> simp [String.length_append] at hlen

section

variable {cfg : Config} {now : Time}

theorem seeGpu_presents (e n : String) (at_ : Time) (p : Plant) (s : TelemetryInput) :
    p.Presents (p.seeGpu e n at_ s) := by
  unfold Plant.seeGpu
  simp only
  split
  · exact .of_upd rfl rfl fun _ => rfl
  · refine ⟨rfl, fun g hg => ?_⟩
    rcases List.mem_append.1 hg with h | h
    · exact Or.inr (List.mem_map_of_mem h)
    · obtain rfl := List.mem_singleton.1 h
      exact Or.inl (gpuIdOf_ne _ _ _)

theorem seeCards_presents (e : String) (o : NodeObservation) (p : Plant) :
    p.Presents (p.seeCards e o now) := by
  unfold Plant.seeCards
  have h₁ : p.Presents (o.gpus.foldl (Plant.seeGpu e o.nodeId o.observedAt) p) := by
    apply Run.foldl_inv (I := p.Presents) _ (.refl p)
    intro q s _ hq
    exact hq.trans (seeGpu_presents _ _ _ q s)
  apply Run.foldl_inv (I := p.Presents) _ h₁
  intro q s _ hq
  exact hq.trans (.of_eq rfl rfl)

theorem convergeOwnership_presents (p : Plant) (e : String) (mine : List (String × String))
    (at_ : Time) : p.Presents (p.convergeOwnership cfg e mine at_).1 := by
  unfold Plant.convergeOwnership
  exact .of_upd rfl rfl fun _ => rfl

theorem markAbsent_presents (p : Plant) (e n : String) (observed : List String) (at_ : Time) :
    p.Presents (p.markAbsent e n observed at_) := by
  unfold Plant.markAbsent
  exact .of_upd rfl rfl fun _ => rfl

theorem ingestNodeObservation_presents (e : String) (b : Broker) (o : NodeObservation) :
    b.plant.Presents (ingestNodeObservation cfg e now b o).plant := by
  unfold ingestNodeObservation
  split
  · exact .refl _
  have hr : b.plant.Presents (b.plant.readHost e o now) := .of_eq rfl rfl
  have hs : b.plant.Presents ((b.plant.readHost e o now).seeCards e o now) :=
    hr.trans (seeCards_presents e o _)
  generalize (b.plant.readHost e o now).seeCards e o now = q at hs
  refine hs.trans (Plant.Presents.trans ?_ (.of_shown (seeProcesses_shown _ _ _ _ _)))
  simp only
  split
  · exact .refl _
  refine Plant.Presents.trans ?_ (.of_shown (releaseAbsentKeepers_shown _ _))
  exact (convergeOwnership_presents _ _ _ _).trans (markAbsent_presents _ _ _ _ _)

theorem absorb_presents (cfg : Config) (now : Time) (b : Broker) (o : EndpointObservation) :
    b.plant.Presents (b.absorb cfg now o).plant := by
  have hnodes : b.plant.Presents (o.nodes.foldl (ingestNodeObservation cfg o.endpointId now)
      { b with ledger := b.ledger.bumpRevision }).plant := by
    apply Run.foldl_inv (I := fun s : Broker => b.plant.Presents s.plant)
    · intro s n _ hs
      exact hs.trans (ingestNodeObservation_presents _ s n)
    · exact .refl _
  exact hnodes.trans (.of_shown (absorb_shown cfg now b o))

end

/-! ## Runs of checked requests -/

/-- What a request's schema promises of the transaction: a new group passes `ServerGroupCreate`. -/
def Op.Sent : Op → Prop
  | .createServerGroup _ _ data _ => data.Valid
  | _ => True

/-- Every group passes its schema, and every card has an id. -/
structure Plant.Presentable (p : Plant) : Prop where
  groups : ∀ x ∈ p.serverGroups, x.Valid
  cards : ∀ g ∈ p.gpus, g.id ≠ ""

theorem Plant.Presents.presentable {p q : Plant} (h : p.Presents q) (hp : p.Presentable) :
    q.Presentable := by
  refine ⟨fun x hx => hp.groups x (h.groups ▸ hx), fun g hg => ?_⟩
  rcases h.cards g hg with hne | hold
  · exact hne
  · obtain ⟨g', hg', hid⟩ := List.mem_map.1 hold
    rw [← hid]
    exact hp.cards g' hg'

section

variable {cfg : Config} {op : Op} {b b' : Broker} {resp : Response}

/-- The plant after a transaction presents the one before, or has the group sent. -/
theorem apply_presents (hk : Kept b) (h : op.apply cfg b = .ok (b', resp)) :
    b.plant.Presents b'.plant ∨ ∃ now actor data key,
      op = .createServerGroup now actor data key ∧
        b'.plant = { b.plant with serverGroups := b.plant.serverGroups ++ [data] } := by
  rcases apply_shown hk h with hs | ⟨now, actor, data, key, rfl, hp⟩ |
    ⟨now, o, token, rfl, -, rfl⟩ | ⟨now, actor, e, key, rfl, hp⟩
  · exact Or.inl (.of_shown hs)
  · exact Or.inr ⟨now, actor, data, key, rfl, hp⟩
  · left
    rw [ingested_plant]
    exact absorb_presents _ _ _ _
  · refine Or.inl ⟨by rw [hp]; rfl, fun g hg => Or.inr ?_⟩
    rw [hp] at hg
    exact List.mem_map_of_mem (List.mem_filter.1 hg).1

theorem exec_presentable (hk : Kept b) (hsent : op.Sent) (hp : b.plant.Presentable) :
    (exec cfg b op).plant.Presentable := by
  rcases exec_cases cfg b op with ⟨b', resp, h, heq⟩ | ⟨-, heq⟩
  · rw [heq]
    rcases apply_presents hk h with hsame | ⟨now, actor, data, key, rfl, hnew⟩
    · exact hsame.presentable hp
    · rw [hnew]
      refine ⟨fun x hx => ?_, hp.cards⟩
      rcases List.mem_append.1 hx with hold | hlast
      · exact hp.groups x hold
      · obtain rfl := List.mem_singleton.1 hlast
        exact hsent
  · rw [heq]
    exact hp

/-- **Every run of checked requests** leaves groups their schema accepts and cards with ids. -/
theorem run_presentable {b₀ : Broker} (h₀ : Seeded b₀) (hg : ∀ x ∈ b₀.plant.serverGroups, x.Valid)
    {ops : List Op} (hops : ∀ op ∈ ops, op.Sent) :
    (Run.run (exec cfg) b₀ ops).plant.Presentable := by
  have hstart : b₀.plant.Presentable := by
    refine ⟨hg, fun g hg => ?_⟩
    rw [h₀.gpus] at hg
    cases hg
  have hrun : ∀ (ops : List Op) (b : Broker), Kept b → b.plant.Presentable →
      (∀ op ∈ ops, op.Sent) → (Run.run (exec cfg) b ops).plant.Presentable := by
    intro ops
    induction ops with
    | nil => exact fun b _ hp _ => hp
    | cons op ops ih =>
      intro b hk hp hsent
      rw [Run.run_cons]
      exact ih _ (exec_kept cfg b op hk)
        (exec_presentable hk (hsent op List.mem_cons_self) hp)
        (fun o ho => hsent o (List.mem_cons_of_mem _ ho))
  exact hrun ops b₀ h₀.kept hstart hops

end

/-! ## What the App reads -/

open Desktop

section

variable {cfg : Config} {now : Time} {d : Particulars} {b : Broker} {joins : Char → Bool}
  {e : Endpoint} {g : GPUDevice}

theorem actual_known (a : KeepaliveActual) : uppercased a.name ∈ ["OFF", "ON", "ERROR"] := by
  cases a <;> decide

theorem policy_known (p : KeepalivePolicy) :
    lowercased p.name ∈ ["disabled", "idle_keepalive"] := by
  cases p <;> decide

/-- The summary of an endpoint is read whatever it counts. -/
theorem summary_read {raw : Dict} {a : KeepaliveActual} {p : KeepalivePolicy} (fallback : Bool)
    (ha : raw.string "actual" = some a.name) (hp : raw.string "policy" = some p.name) :
    ∃ r, EndpointKeepaliveSummary.init? raw fallback = some r := by
  have hstate : uppercased (((raw.string "actual").or (raw.string "state")).getD "OFF") ∈
      ["OFF", "ON", "ERROR"] := by
    rw [ha]
    exact actual_known a
  have hpolicy : ∀ s, lowercased ((raw.string "policy").getD s) ∈
      ["disabled", "idle_keepalive"] := by
    intro s
    rw [hp]
    exact policy_known p
  exact ⟨_, (if_neg (not_not.2 hstate)).trans (if_neg (not_not.2 (hpolicy _)))⟩

/-- The status of a card is read, whatever it would fall back on. -/
theorem status_read {raw : Dict} {a : KeepaliveActual} {e : Endpoint} (fallback : Bool)
    (fallbackState : String) (ha : raw.string "actual" = some a.name)
    (hd : raw.string "desired" = some e.desired.name)
    (hp : raw.string "policy" = some e.keepalivePolicy.name) :
    ∃ r, GPUKeepaliveStatus.init? raw fallback fallbackState = some r := by
  have hstate : uppercased (((raw.string "actual").or (raw.string "state")).getD fallbackState) ∈
      ["OFF", "ON", "ERROR"] := by
    rw [ha]
    exact actual_known a
  have hpolicy : lowercased ((raw.string "policy").getD "disabled") ∈
      ["disabled", "idle_keepalive"] := by
    rw [hp]
    exact policy_known _
  have hdesired : ∀ s, uppercased ((raw.string "desired").getD s) ∈ ["OFF", "ON"] := by
    intro s
    rw [hd, Option.getD_some]
    unfold Endpoint.desired
    split <;> decide
  exact ⟨_, (if_neg (not_not.2 hpolicy)).trans
    ((if_neg (not_not.2 (hdesired _))).trans (if_neg (not_not.2 hstate)))⟩

theorem endpoint_read (e : Endpoint) :
    ∃ r, EndpointRecord.init? (b.endpointPayload cfg now d e) = some r := by
  obtain ⟨k, hk⟩ := @summary_read (((b.endpointPayload cfg now d e).object "keepalive").getD [])
    (b.snapshotKeepalive cfg now (b.view cfg none) e).actual
    (b.snapshotKeepalive cfg now (b.view cfg none) e).policy
    ((b.endpointPayload cfg now d e).string "keepalive_adapter_id").isSome rfl rfl
  have hid : (b.endpointPayload cfg now d e).string "id" = some e.id := rfl
  have hhost : (b.endpointPayload cfg now d e).string "host" = some e.host := rfl
  have huser : (b.endpointPayload cfg now d e).string "ssh_user" = some e.sshUser := rfl
  unfold EndpointRecord.init?
  rw [hid, hhost, huser]
  simp only [Option.bind_eq_bind, Option.bind_some, hk]
  exact ⟨_, rfl⟩

/-- A field that is there is the one that has to be read. -/
theorem optionalField_some {α : Type} {raw : Dict} {key : String} {v : Raw} {read : Option α}
    (h : raw.lookup key = some v) (hne : v ≠ .null) (hr : read.isSome = true) :
    (optionalField raw key read).isSome = true := by
  have hblank : raw.blank key = false := by
    unfold Dict.blank
    rw [h]
    cases v with
    | null => exact absurd rfl hne
    | _ => rfl
  unfold optionalField
  rw [hblank]
  simpa using hr

theorem string_of_lookup {raw : Dict} {key s : String} (h : raw.lookup key = some (.text s)) :
    raw.string key = some s := by
  unfold Dict.string
  rw [h]
  rfl

theorem object_of_lookup {raw l : Dict} {key : String} (h : raw.lookup key = some (.object l)) :
    raw.object key = some l := by
  unfold Dict.object
  rw [h]
  rfl

/-- A limit with a known end is read. -/
theorem limits_read {raw : Dict} {s : String} (hs : raw.lookup "lease_ends" = some (.text s))
    (hk : (ServerGroupLeaseEnds.rawValue? s).isSome = true) :
    (ServerGroupLimits.init? raw).isSome = true := by
  have hread : ((raw.string "lease_ends").bind ServerGroupLeaseEnds.rawValue?).isSome = true := by
    rw [string_of_lookup hs]
    exact hk
  obtain ⟨v, hv⟩ := Option.isSome_iff_exists.1 (optionalField_some hs (fun h => by cases h) hread)
  unfold ServerGroupLimits.init?
  rw [hv]
  rfl

theorem leaseEnds_known (x : Plugin) :
    (ServerGroupLeaseEnds.rawValue? x.leaseEnds).isSome = true := by
  unfold Plugin.leaseEnds
  split <;> rfl

/-- What a snapshot says of a group's allocation: three fields the App can read. -/
theorem allocationFields_read (members : List Endpoint) :
    ∃ (a : String) (l : Dict) (n : Raw),
      b.serverGroupAllocationFields cfg now d members =
        [("allocation", .text a), ("limits", .object l), ("largest_allocatable_block", n)] ∧
      (ServerGroupAllocation.rawValue? a).isSome = true ∧
      (ServerGroupLimits.init? l).isSome = true ∧ (n = .null ∨ ∃ k, n = .number k) := by
  unfold Broker.serverGroupAllocationFields
  simp only
  split
  · rename_i x _
    refine ⟨_, _, _, rfl, rfl, limits_read rfl (leaseEnds_known x), ?_⟩
    generalize ((d.schedulerCapacity _).bind fun c => c.largestFreeBlock.or _) = largest
    cases largest with
    | none => exact Or.inl rfl
    | some n => exact Or.inr ⟨n, rfl⟩
  · exact ⟨_, _, _, rfl, rfl, limits_read rfl rfl, Or.inr ⟨_, rfl⟩⟩

/-- A path its schema accepts is one the App accepts when Swift sees its slash. -/
theorem absolute_iff {x : ServerGroup} (hv : x.Valid) :
    isAbsoluteWorkspacePath joins x.workspacePath = hasPrefix joins "/" x.workspacePath := by
  have habs := hv.absolute
  unfold absoluteSingleLinePath at habs
  obtain ⟨-, hline⟩ := Bool.and_eq_true_iff.1 habs
  have hno : ∀ c ∈ x.workspacePath.toList, c ≠ '\x00' ∧ c ≠ '\n' ∧ c ≠ '\r' := by
    intro c hc
    have hgood := List.all_eq_true.1 hline c hc
    simpa [and_assoc] using hgood
  have hfree : ∀ c, (∀ k ∈ x.workspacePath.toList, k ≠ c) →
      x.workspacePath.toList.contains c = false := by
    intro c hc
    rw [List.contains_eq_any_beq, List.any_eq_false]
    intro k hk heq
    exact hc k hk (beq_iff_eq.1 heq).symm
  unfold isAbsoluteWorkspacePath
  rw [hfree _ fun k hk => (hno k hk).1, hfree _ fun k hk => (hno k hk).2.1,
    hfree _ fun k hk => (hno k hk).2.2]
  simp

/-- A group whose fields can be read is accepted by its path. -/
theorem groupRecord_read {raw l : Dict} {id path a : String} {n : Raw}
    (hid : raw.lookup "id" = some (.text id)) (hne : id ≠ "")
    (hpath : raw.lookup "workspace_path" = some (.text path))
    (hmis : ServerGroupRecord.misshapen raw = false)
    (ha : raw.lookup "allocation" = some (.text a))
    (hka : (ServerGroupAllocation.rawValue? a).isSome = true)
    (hl : raw.lookup "limits" = some (.object l))
    (hkl : (ServerGroupLimits.init? l).isSome = true)
    (hn : raw.lookup "largest_allocatable_block" = some n)
    (hkn : n = .null ∨ ∃ k, n = .number k) :
    (ServerGroupRecord.init? joins raw).isSome = isAbsoluteWorkspacePath joins path := by
  have hallocation : (optionalField raw "allocation" ((raw.string "allocation").bind
      ServerGroupAllocation.rawValue?)).isSome = true := by
    refine optionalField_some ha (fun h => by cases h) ?_
    rw [string_of_lookup ha]
    exact hka
  have hlimits : (optionalField raw "limits" ((raw.object "limits").bind
      ServerGroupLimits.init?)).isSome = true := by
    refine optionalField_some hl (fun h => by cases h) ?_
    rw [object_of_lookup hl]
    exact hkl
  have hlargest : (optionalField raw "largest_allocatable_block"
      (raw.optionalInt "largest_allocatable_block")).isSome = true := by
    rcases hkn with rfl | ⟨k, rfl⟩
    · unfold optionalField Dict.blank
      rw [hn]
      rfl
    · refine optionalField_some hn (fun h => by cases h) ?_
      unfold Dict.optionalInt
      rw [hn]
      rfl
  obtain ⟨va, hva⟩ := Option.isSome_iff_exists.1 hallocation
  obtain ⟨vl, hvl⟩ := Option.isSome_iff_exists.1 hlimits
  obtain ⟨vn, hvn⟩ := Option.isSome_iff_exists.1 hlargest
  have hsome : (some id).filter (fun s => decide (s ≠ "")) = some id := by simp [hne]
  unfold ServerGroupRecord.init?
  rw [string_of_lookup hid, hsome, string_of_lookup hpath, hmis, hva, hvl, hvn]
  simp only [Option.getD_some, Option.bind_eq_bind, Option.bind_some]
  cases isAbsoluteWorkspacePath joins path with
  | true => rfl
  | false => rfl

/-- **A group is read** exactly when Swift sees the slash its path starts with. -/
theorem group_read {x : ServerGroup} (hv : x.Valid) :
    (ServerGroupRecord.init? joins (b.serverGroupPayload cfg now d x)).isSome =
      hasPrefix joins "/" x.workspacePath := by
  have hid : x.id ≠ "" := by
    intro h
    have hm := hv.id
    rw [h] at hm
    exact absurd hm (by decide)
  unfold Broker.serverGroupPayload
  simp only
  obtain ⟨a, l, n, hf, ha, hl, hn⟩ := @allocationFields_read cfg now d b
    ((b.plant.endpoints.insertionSort fun e f => e.id ≤ f.id).filter fun e =>
      e.serverGroupId = some x.id)
  rw [hf, ← absolute_iff hv]
  refine groupRecord_read rfl hid rfl ?_ rfl ha rfl hl rfl hn
  generalize d.environmentNotes x.id = notes
  cases notes <;> rfl

/-! ### Cards -/

theorem allocatable_iff (s : GpuState) :
    s.name ∈ GPURecord.allocatableStates ↔ s = .available ∨ s = .keepalive := by
  cases s <;> decide

/-- What a card that is not free is called. -/
def takenStatuses : List String :=
  ["连接失败", "占卡校验失败，暂不可申请", "归属冲突", "外部进程", "需调度申请", "运行中", "已分配未运行"]

theorem publicStatus_taken (m : MonitorStatus) (s : GpuState) (desired actual : KeepaliveActual)
    (reason : Option String) (leased : Bool) :
    publicStatus m false s desired actual reason leased ∈ takenStatuses := by
  unfold publicStatus
  simp only [Bool.false_eq_true, false_and, if_false]
  repeat' split
  all_goals decide

/-- None of these says free. -/
theorem takenStatuses_apart : ∀ t ∈ takenStatuses,
    GPURecord.availableStatusPrefix.toList.isPrefixOf (Columns.trim t).toList = false := by
  decide

theorem taken_apart {t : String} (ht : t ∈ takenStatuses) :
    (trimmed (some t)).any (hasPrefix joins GPURecord.availableStatusPrefix) = false := by
  have hapart := takenStatuses_apart t ht
  rw [Option.any_eq_false]
  intro u hu
  obtain ⟨hu, -⟩ := Option.filter_eq_some_iff.1 hu
  obtain rfl : Columns.trim t = u := by simpa using hu
  unfold hasPrefix
  rw [hapart]
  simp

/-- A card's row is read, with its public flag, unless it contradicts itself. -/
theorem gpuRecord_read {raw : Dict} {endpointID name id s t : String} {p : Bool}
    (he : raw.lookup "endpoint_id" = some (.text endpointID))
    (hname : raw.lookup "name" = some (.text name)) (hid : raw.lookup "id" = some (.text id))
    (hne : id ≠ "") (hs : raw.lookup "state" = some (.text s))
    (hp : raw.lookup "publicly_available" = some (.bool p))
    (ht : raw.lookup "public_status" = some (.text t))
    (hk : ∀ f, ∃ k, GPUKeepaliveStatus.init? ((raw.object "keepalive").getD []) false f = some k) :
    (∃ r, GPURecord.init? joins raw = some r ∧ r.isPubliclyAvailable = p) ↔
      ¬ (p = false ∧ (s ∈ GPURecord.allocatableStates ∨
        (trimmed (some t)).any (hasPrefix joins GPURecord.availableStatusPrefix) = true)) := by
  have hidOf : GPURecord.idOf raw endpointID = some id := by
    unfold GPURecord.idOf
    rw [string_of_lookup hid]
    simp [hne]
  have hbool : raw.bool "publicly_available" false = p := by
    unfold Dict.bool Dict.optionalBool
    rw [hp]
    rfl
  obtain ⟨k, hk⟩ := hk (if s = "KEEPALIVE" then "ON" else "OFF")
  unfold GPURecord.init?
  rw [string_of_lookup he, string_of_lookup hname, string_of_lookup hs, string_of_lookup ht, hp]
  simp only [Option.bind_eq_bind, Option.bind_some, hidOf, Option.getD_some, Option.map_some, hbool]
  by_cases hc : p = false ∧ (s ∈ GPURecord.allocatableStates ∨
      (trimmed (some t)).any (hasPrefix joins GPURecord.availableStatusPrefix) = true)
  · have hc' := hc
    rw [← Option.some_inj (a := p)] at hc'
    rw [if_pos hc']
    simp [hc]
  · have hc' := hc
    rw [← Option.some_inj (a := p)] at hc'
    rw [if_neg hc', hk]
    exact iff_of_true ⟨_, rfl, rfl⟩ hc

theorem gpu_read {v : View} (hv : v = b.view cfg none) (hid : g.id ≠ "") :
    (∃ r, GPURecord.init? joins (b.gpuPayload cfg now d e g) = some r ∧
        r.isPubliclyAvailable = b.publiclyAvailable cfg now v g) ↔
      ¬ (b.publiclyAvailable cfg now v g = false ∧ ((b.deriveState cfg now v g).1 = .available ∨
        (b.deriveState cfg now v g).1 = .keepalive)) := by
  subst hv
  have hstatus := @status_read (((b.gpuPayload cfg now d e g).object "keepalive").getD [])
    (b.keepaliveGpuStatus cfg now g ((b.view cfg none).leaseByGpu g.id)).1 e false
  rw [gpuRecord_read rfl rfl rfl hid rfl rfl rfl fun f => hstatus f rfl rfl rfl, allocatable_iff]
  refine not_congr (and_congr_right fun hfalse => ?_)
  rw [hfalse, taken_apart (publicStatus_taken _ _ _ _ _ _)]
  exact or_iff_left Bool.false_ne_true

/-! ## Rows that contradict themselves -/

/-- A keeper keeps the card free: it is read well, and its keeper works, or rests with nothing on
the card. -/
def Broker.keptFree (cfg : Config) (now : Time) (b : Broker) (g : GPUDevice) : Prop :=
  b.plant.nodeObservationError g = none ∧ healthy g.health = true ∧
    (∃ t, b.plant.telemetry? g.id = some t ∧ now - t.observedAt ≤ cfg.staleAfter ∧
      healthy t.health = true) ∧
    ∃ l, b.ledger.activeLeaseForGpu g.id = some l ∧ l.kind = .keepalive ∧
      ((b.keepaliveGpuStatus cfg now g (some l)).1 = .on ∨
        (b.keepaliveGpuStatus cfg now g (some l)).1 = .off ∧ b.plant.currentProcesses g.id = [])

/-- On a delegated server the lease alone shows a card free, and it is a keeper's. -/
theorem heldFree_delegated (hd : b.plant.schedulerManaged cfg g.endpointId = true)
    (lease : Option Lease) :
    ((b.heldGpuState cfg now g lease).1 = .available ∨
        (b.heldGpuState cfg now g lease).1 = .keepalive) ↔
      ∃ l, lease = some l ∧ l.kind = .keepalive ∧
        ((b.keepaliveGpuStatus cfg now g (some l)).1 = .on ∨
          (b.keepaliveGpuStatus cfg now g (some l)).1 = .off ∧
            b.plant.currentProcesses g.id = []) := by
  unfold Broker.heldGpuState
  cases lease with
  | none => by_cases h : b.plant.currentProcesses g.id = [] <;> simp [h, hd]
  | some l =>
    by_cases hkind : l.kind = .keepalive
    · -- a keeper in error shows a conflict, whatever its lease says
      cases hs : b.keepaliveGpuStatus cfg now g (some l) with
      | mk actual reason =>
        by_cases herr : actual = .error
        · subst herr
          simp only [hkind, if_true, hs]
          split
          · simp [hs]
          split <;> simp [hs]
        · have hact := keeper_active hkind (by rw [hs]; exact herr)
          simp only [hkind, hact, hs]
          cases actual with
          | on => simp [hs, hkind]
          | off => by_cases h : b.plant.currentProcesses g.id = [] <;> simp [h, hs, hkind]
          | error => exact absurd rfl herr
    · simp only [hkind, if_false]
      refine iff_of_false ?_ (by simp [hkind])
      split
      · simp
      split
      · simp
      split
      · simp
      · split <;> simp

/-- A present card of a delegated server shows free exactly when a keeper keeps it so. -/
theorem rowFree_delegated (hp : g.present = true)
    (hd : b.plant.schedulerManaged cfg g.endpointId = true) :
    b.rowFree cfg now g ↔ b.keptFree cfg now g := by
  unfold Broker.rowFree Broker.keptFree Broker.gpuState
  cases hn : b.plant.nodeObservationError g with
  | some e => simp
  | none =>
  cases ht : b.plant.telemetry? g.id with
  | none => simp [hp]
  | some t =>
  by_cases hage : cfg.staleAfter < now - t.observedAt
  · refine iff_of_false (by simp [hp, hage]) ?_
    rintro ⟨-, -, ⟨u, hu, hle, -⟩, -⟩
    obtain rfl := Option.some.inj hu
    exact absurd hage (not_lt.2 hle)
  by_cases hwell : healthy t.health = true ∧ healthy g.health = true
  · simp only [hp, hage, hwell.1, hwell.2, Bool.not_true, Bool.or_self, Bool.false_eq_true,
      if_false]
    rw [heldFree_delegated hd]
    exact ⟨fun h => ⟨trivial, trivial, ⟨t, rfl, not_lt.1 hage, hwell.1⟩, h⟩, fun h => h.2.2.2⟩
  · have hsick : (!healthy t.health || !healthy g.health) = true := by
      rw [← Bool.not_and, Bool.not_eq_true', Bool.eq_false_iff]
      exact fun h => hwell (Bool.and_eq_true_iff.1 h)
    refine iff_of_false (by simp [hp, hage, hsick]) ?_
    rintro ⟨-, hg, ⟨u, hu, -, hh⟩, -⟩
    obtain rfl := Option.some.inj hu
    exact hwell ⟨hh, hg⟩

/-! ## The rows -/

/-- The App keeps every row of the full snapshot, and calls the cards free that are. -/
structure RowsKept (joins : Char → Bool) (cfg : Config) (now : Time) (d : Particulars)
    (b : Broker) : Prop where
  gpus : ∀ g ∈ (b.view cfg none).gpus, ∀ e ∈ b.plant.endpoints, e.id = g.endpointId →
    ∃ r, GPURecord.init? joins (b.gpuPayload cfg now d e g) = some r ∧
      r.isPubliclyAvailable = b.publiclyAvailable cfg now (b.view cfg none) g
  endpoints : ∀ e ∈ b.plant.endpoints,
    (EndpointRecord.init? (b.endpointPayload cfg now d e)).isSome = true
  groups : ∀ x ∈ b.plant.serverGroups,
    (ServerGroupRecord.init? joins (b.serverGroupPayload cfg now d x)).isSome = true

/-- No keeper keeps a card of a delegated server free, and Swift sees the slash of every group's
path. -/
structure Broker.Plain (joins : Char → Bool) (cfg : Config) (now : Time) (b : Broker) : Prop where
  delegated : ∀ g ∈ b.plant.gpus, g.present = true →
    b.plant.schedulerManaged cfg g.endpointId = true → ¬ b.keptFree cfg now g
  slashes : ∀ x ∈ b.plant.serverGroups, hasPrefix joins "/" x.workspacePath = true

/-- A published card is read, with its public flag, unless a keeper keeps it free on a delegated
server. -/
theorem Kept.card_read (hk : Kept b) (hg : g ∈ (b.view cfg none).gpus) (hid : g.id ≠ "") :
    (∃ r, GPURecord.init? joins (b.gpuPayload cfg now d e g) = some r ∧
        r.isPubliclyAvailable = b.publiclyAvailable cfg now (b.view cfg none) g) ↔
      (b.plant.schedulerManaged cfg g.endpointId = true → ¬ b.keptFree cfg now g) := by
  obtain ⟨hv, hpres⟩ := List.mem_filter.1 hg
  have hvis := mem_endpointGpus.1 hv
  have hpub := @publiclyAvailable_iff cfg now b none g hk hvis
  have hstate : ((b.deriveState cfg now (b.view cfg none) g).1 = .available ∨
      (b.deriveState cfg now (b.view cfg none) g).1 = .keepalive) ↔ b.rowFree cfg now g := by
    rw [hk.deriveState_eq hvis]
    exact Iff.rfl
  rw [gpu_read rfl hid, hstate, ← Bool.not_eq_true, hpub]
  cases hd : b.plant.schedulerManaged cfg g.endpointId with
  | true =>
    rw [rowFree_delegated hpres hd]
    simp
  | false => simp

/-- The full snapshot publishes the present cards. -/
theorem Kept.mem_published (hk : Kept b) (hg : g ∈ b.plant.gpus) (hp : g.present = true) :
    g ∈ (b.view cfg none).gpus := by
  have hlisted : g.endpointId ∈ b.plant.visibleIds none := by
    unfold Plant.visibleIds
    simpa using hk.intact.gpuEndpoint g hg
  refine List.mem_filter.2 ⟨mem_endpointGpus.2 (List.mem_filter.2 ⟨hg, ?_⟩), hp⟩
  exact decide_eq_true hlisted

/-- **No published row vanishes**, in every state checked requests reach, exactly when no keeper
keeps a delegated card free and no path hides its slash. -/
theorem rows_kept_iff {b₀ : Broker} {ops : List Op} (h₀ : Seeded b₀)
    (hg : ∀ x ∈ b₀.plant.serverGroups, x.Valid) (hops : ∀ op ∈ ops, op.Sent)
    (joins : Char → Bool) (now : Time) (d : Particulars) :
    RowsKept joins cfg now d (Run.run (exec cfg) b₀ ops) ↔
      (Run.run (exec cfg) b₀ ops).Plain joins cfg now := by
  have hk : Kept (Run.run (exec cfg) b₀ ops) := run_kept cfg ops h₀.kept
  have hp : (Run.run (exec cfg) b₀ ops).plant.Presentable := run_presentable h₀ hg hops
  generalize Run.run (exec cfg) b₀ ops = b at hk hp
  constructor
  · intro h
    refine ⟨fun g hg hpres => ?_, fun x hx => ?_⟩
    · obtain ⟨e, he, hid⟩ := List.mem_map.1 (hk.intact.gpuEndpoint g hg)
      have hpub : g ∈ (b.view cfg none).gpus := hk.mem_published hg hpres
      exact (hk.card_read hpub (hp.cards g hg)).1 (h.gpus g hpub e he hid)
    · rw [← group_read (hp.groups x hx)]
      exact h.groups x hx
  · intro h
    refine ⟨fun g hg e _ _ => ?_, fun e _ => ?_, fun x hx => ?_⟩
    · obtain ⟨hv, hpres⟩ := List.mem_filter.1 hg
      have hrow := List.mem_of_mem_filter (mem_endpointGpus.1 hv)
      exact (hk.card_read hg (hp.cards g hrow)).2 (h.delegated g hrow hpres)
    · exact Option.isSome_iff_exists.2 (endpoint_read e)
    · rw [group_read (hp.groups x hx)]
      exact h.slashes x hx

end

/-! ## A server handed to a plugin while its keeper starts -/

/-- A plugin that hands out the cards of its servers. -/
def applyingConfig : Config :=
  { plainConfig with
    plugin := fun id => if id = "cluster" then
      some { pluginId := "cluster", capabilities := ["observe", "apply", "release"]
             releaseGranularity := "allocation" } else none }

/-- The combining diacritical marks join the character before them. -/
def combining (c : Char) : Bool := decide (0x300 ≤ c.toNat ∧ c.toNat ≤ 0x36f)

def sampleParticulars : Particulars :=
  { displayName := id, environmentNotes := fun _ => none, description := fun _ => none
    sshAlias := fun _ => none, expectedGpuCount := fun _ => none
    schedulerCapacity := fun _ => none, applyMaxSeconds := fun _ => none
    directClaimBudgetSeconds := 60 }

/-- A group, and a card of `alpha` seen free; `alpha` goes to the plugin. -/
def goneToPlugin : List Op :=
  [.createServerGroup 0 (sampleActor "ann") { id := "lab", workspacePath := "/work" } "group",
   .ingestObservation 0 (lookAtOne "alpha" "GPU-0" 0 []) sampleToken,
   .ingestObservation (seconds 10) (lookAtOne "alpha" "GPU-0" (seconds 10) [7]) sampleToken,
   .updateEndpoint (seconds 11) (sampleActor "ann") "alpha"
     { observationProfile := some "cluster" } "move"]

theorem goneToPlugin_kept :
    RowsKept combining applyingConfig (seconds 13) sampleParticulars
      (Run.run (exec applyingConfig) sampleFleet goneToPlugin) := by
  refine (rows_kept_iff sampleFleet_seeded (fun x hx => by cases hx) ?_ _ _ _).2 ⟨?_, ?_⟩
  · intro op hop
    simp only [goneToPlugin, List.mem_cons, List.not_mem_nil, or_false] at hop
    rcases hop with rfl | rfl | rfl | rfl
    · exact ⟨by decide, by decide, by decide⟩
    all_goals trivial
  · rintro g - - - ⟨-, -, -, l, hl, -⟩
    have hnone :
        (Run.run (exec applyingConfig) sampleFleet goneToPlugin).ledger.resources = [] := by
      decide +kernel
    rw [activeLeaseForGpu_none (by rw [hnone]; intro r hr; cases hr)] at hl
    cases hl
  · decide +kernel

/-- The keeper, whose start is confirmed after the server went to the plugin. -/
def keptAfter : List Op :=
  goneToPlugin ++ [.activateKeepalives (seconds 12) (sampleActor "ann") "alpha" ["alpha:GPU-0"]
    (seconds 5) "start" (some [("alpha:GPU-0", 7, "boot")]) fun _ => "keeper"]

/-- **A card the App drops**: kept free by a keeper, on a server a plugin admits. -/
theorem keptAfter_dropped :
    ¬ ∀ (joins : Char → Bool) (cfg : Config) (now : Time) (d : Particulars) (b₀ : Broker)
      (ops : List Op), Seeded b₀ → (∀ x ∈ b₀.plant.serverGroups, x.Valid) →
        (∀ op ∈ ops, op.Sent) → RowsKept joins cfg now d (Run.run (exec cfg) b₀ ops) := by
  intro h
  have hsent : ∀ op ∈ keptAfter, op.Sent := by
    intro op hop
    simp only [keptAfter, goneToPlugin, List.mem_append, List.mem_cons, List.not_mem_nil,
      or_false] at hop
    rcases hop with (rfl | rfl | rfl | rfl) | rfl
    · exact ⟨by decide, by decide, by decide⟩
    all_goals trivial
  have hkept := h combining applyingConfig (seconds 13) sampleParticulars sampleFleet keptAfter
    sampleFleet_seeded (fun x hx => by cases hx) hsent
  have hdropped : ∃ g ∈ ((Run.run (exec applyingConfig) sampleFleet keptAfter).view applyingConfig
      none).gpus, ∃ e ∈ (Run.run (exec applyingConfig) sampleFleet keptAfter).plant.endpoints,
        e.id = g.endpointId ∧ (GPURecord.init? combining
          ((Run.run (exec applyingConfig) sampleFleet keptAfter).gpuPayload applyingConfig
            (seconds 13) sampleParticulars e g)).isSome = false := by
    decide +kernel
  obtain ⟨g, hg, e, he, hid, hnone⟩ := hdropped
  obtain ⟨r, hr, -⟩ := hkept.gpus g hg e he hid
  rw [hr] at hnone
  cases hnone

end ServerPilot
