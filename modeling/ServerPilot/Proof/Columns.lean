import ServerPilot.Proof.Locks
import ServerPilot.Spec.Columns

/-!
# Rows that can be read back

Every column a create or an update writes has passed the bounds the collector reads
it with, except the labels: an update may write the JSON `null`, and what a schema
trims from a label is less than what the reader strips. `rows_readable` proves, of
every sequence of calls without such labels, that the collector reads every row and
that the allocator's filter never raises.
-/

namespace ServerPilot.Columns

open Rows Checked

variable {known : String → Bool} {inv inv' : Inventory} {r r' : EndpointRow} {labels : List String}

/-! ## Readable rows -/

namespace Inventory

/-- The group defaults are workspace paths. -/
def Grouped (inv : Inventory) : Prop := ∀ g ∈ inv.groups, workspaceText g.workspacePath

/-- **The collector reads every row.** -/
def Readable (inv : Inventory) : Prop := ∀ r ∈ inv.rows, (inv.collectorEndpoint r).isSome = true

/-- The labels a row would be read with. -/
def labels? (inv : Inventory) (id : String) : Option (List String) :=
  (inv.row? id).bind EndpointRow.labelsJson

/-- The allocator never raises over these rows, whatever the other tables hold. -/
def Admits (inv : Inventory) : Prop :=
  ∀ (cfg : Config) (now : Time) (b : Broker) (c : ResourceConstraints) (reclaimable : Bool),
    b.plant.endpoints = inv.rows.map endpoint →
      ∃ gpus, eligibleGpus cfg now b inv.labels? c reclaimable = .ok gpus

end Inventory

/-- The labels a call sends, an explicit null being `some none`. -/
def Call.sentLabels : Call known → Option (Option (List String))
  | .create _ _ data _ => some (some data.val.labels)
  | .update _ _ _ data _ => data.val.labels

/-- The labels a call sends are no null, and none of them is blank. -/
def Call.Plain (call : Call known) : Prop :=
  ∀ v ∈ call.sentLabels, v ≠ none ∧ ∀ labels ∈ v, ∀ l ∈ labels, strip l ≠ ""

instance : DecidablePred (@Call.Plain known) := fun call =>
  inferInstanceAs (Decidable (∀ v ∈ call.sentLabels, v ≠ none ∧ ∀ labels ∈ v, ∀ l ∈ labels, _))

theorem collectorEndpoint_isSome : (inv.collectorEndpoint r).isSome = true ↔
    ∃ labels, r.labelsJson = some labels ∧ (inv.fields r labels).Valid := by
  unfold Inventory.collectorEndpoint
  cases r.labelsJson with
  | none => simp
  | some labels =>
    simp only [Option.some.injEq, exists_eq_left']
    split <;> simp_all

/-- A row is read the same as long as the groups are. -/
theorem fields_congr (h : inv'.groups = inv.groups) :
    inv'.fields r labels = inv.fields r labels := by
  unfold Inventory.fields Inventory.effectiveWorkspace Inventory.group?
  rw [h]

theorem collectorEndpoint_congr (h : inv'.groups = inv.groups)
    (hr : (inv.collectorEndpoint r).isSome = true) :
    (inv'.collectorEndpoint r).isSome = true := by
  obtain ⟨labels, hlabels, hvalid⟩ := collectorEndpoint_isSome.1 hr
  exact collectorEndpoint_isSome.2 ⟨labels, hlabels, (fields_congr h).symm ▸ hvalid⟩

/-! ## Workspaces -/

/-- What a row's workspace resolves to is a path, its override being one. -/
theorem effectiveWorkspace_text (hgroups : inv.Grouped)
    (hoverride : ∀ s ∈ r.workspacePath, s ≠ "" → workspaceText s) :
    ∀ s ∈ inv.effectiveWorkspace r, workspaceText s := by
  intro s hs
  unfold Inventory.effectiveWorkspace resolveEffectiveWorkspace at hs
  split at hs
  · rename_i w hw
    obtain rfl := Option.some.inj hs
    obtain ⟨hpath, hne⟩ := Option.filter_eq_some_iff.1 hw
    exact hoverride w hpath (of_decide_eq_true hne)
  · obtain ⟨g, hg, rfl⟩ := Option.map_eq_some_iff.1 hs
    obtain ⟨id, -, hrow⟩ := Option.bind_eq_some_iff.1 hg
    exact hgroups g (row?_some hrow).1

/-- A row that was read has a path for its override. -/
theorem override_text (hvalid : (inv.fields r labels).Valid) :
    ∀ s ∈ r.workspacePath, s ≠ "" → workspaceText s := by
  intro s hs hne
  refine hvalid.workspacePath s ?_
  show inv.effectiveWorkspace r = some s
  have hpath : r.workspacePath = some s := hs
  have hkeep : (some s).filter (fun w => decide (w ≠ "")) = some s :=
    Option.filter_eq_some_iff.2 ⟨rfl, decide_eq_true hne⟩
  unfold Inventory.effectiveWorkspace resolveEffectiveWorkspace
  rw [hpath, hkeep]

theorem storedWorkspaceOverride_text {path override : Option (Option String)}
    (hpath : ∀ v ∈ path, ∀ s ∈ v, workspaceText s)
    (hoverride : ∀ v ∈ override, ∀ s ∈ v, workspaceText s) :
    ∀ s ∈ storedWorkspaceOverride path override, workspaceText s := by
  intro s hs
  unfold storedWorkspaceOverride at hs
  cases override with
  | some v => exact hoverride v rfl s hs
  | none =>
    cases path with
    | some v => exact hpath v rfl s hs
    | none => cases hs

/-! ## Creating -/

theorem create_valid (hgroups : inv.Grouped) {d : EndpointCreate} (hd : d.Valid known)
    (hplain : ∀ l ∈ d.labels, strip l ≠ "") : (inv.fields d.row d.labels).Valid where
  id := hd.id
  host := hd.host
  port := hd.port
  sshUser := hd.sshUser
  sshAlias := hd.sshAlias
  workspacePath := effectiveWorkspace_text hgroups fun s hs _ =>
    storedWorkspaceOverride_text hd.workspacePath hd.workspacePathOverride s hs
  observationProfile := hd.observationProfile.1
  keepaliveAdapterId := hd.keepaliveAdapterId
  labels := ⟨hplain, hd.labels.1⟩
  storageGroup := hd.storageGroup
  serverGroupId := hd.serverGroupId
  expectedGpuCount := hd.expectedGpuCount
  expectedGpuTotalVramMib := hd.expectedGpuTotalVramMib
  idleKeepalive := hd.idleKeepalive

/-- A create adds the row it was sent, or none. -/
theorem createEndpoint_ok {around : Surroundings} {actor : ActorContext} {d : EndpointCreate}
    {key : String} (h : createEndpoint around actor d key inv = .ok inv') :
    inv'.groups = inv.groups ∧ (inv'.rows = inv.rows ∨ inv'.rows = inv.rows ++ [d.row]) := by
  unfold createEndpoint at h
  simp only [bind_ok] at h
  obtain ⟨-, -, seen, -, h⟩ := h
  split at h
  · obtain rfl := pure_ok.1 h
    exact ⟨rfl, Or.inl rfl⟩
  · simp only [bind_ok, pure_ok] at h
    obtain ⟨-, -, -, -, -, -, group, -, -, -, -, -, rfl⟩ := h
    exact ⟨rfl, Or.inr rfl⟩

/-! ## Updating -/

/-- A field that was sent takes the column's place. -/
theorem forall_getD {α : Type} {P : α → Prop} {sent : Option (Option α)} {column : Option α}
    (hsent : ∀ v ∈ sent, ∀ s ∈ v, P s) (hcolumn : ∀ s ∈ column, P s) :
    ∀ s ∈ sent.getD column, P s := by
  cases sent with
  | none => exact hcolumn
  | some v => exact hsent v rfl

theorem merge_ok {u : EndpointUpdate} (h : u.merge r = .ok r') :
    ∃ sshUser observationProfile, u.sshUser.getD (some r.sshUser) = some sshUser ∧
      u.observationProfile.getD (some r.observationProfile) = some observationProfile ∧
      r' = { r with
        sshUser, observationProfile
        sshAlias := u.sshAlias.getD r.sshAlias
        workspacePath := u.nextOverride r
        keepaliveAdapterId := u.keepaliveAdapterId.getD r.keepaliveAdapterId
        labelsJson := u.labels.getD r.labelsJson
        storageGroup := u.storageGroup.getD r.storageGroup
        serverGroupId := u.serverGroupId.getD r.serverGroupId
        expectedGpuCount := u.expectedGpuCount.getD r.expectedGpuCount
        expectedGpuTotalVramMib := u.expectedGpuTotalVramMib.getD r.expectedGpuTotalVramMib
        ownerProjectId := u.ownerProjectId.getD r.ownerProjectId } := by
  unfold EndpointUpdate.merge notNull at h
  simp only [bind_ok, need_ok, pure_ok] at h
  obtain ⟨sshUser, huser, profile, hprofile, rfl⟩ := h
  exact ⟨sshUser, profile, huser, hprofile, rfl⟩

/-- An update merges valid values into a valid row. -/
theorem merge_valid (hgroups : inv.Grouped) {u : EndpointUpdate} (hu : u.Valid known)
    (hplain : ∀ v ∈ u.labels, v ≠ none ∧ ∀ labels ∈ v, ∀ l ∈ labels, strip l ≠ "")
    (hadapter : ¬ (u.keepaliveAdapterId = some none ∧ r.keepalivePolicy = .idleKeepalive))
    (hr : (inv.collectorEndpoint r).isSome = true) (h : u.merge r = .ok r') :
    (inv.collectorEndpoint r').isSome = true := by
  obtain ⟨labels, hlabels, hvalid⟩ := collectorEndpoint_isSome.1 hr
  obtain ⟨sshUser, profile, huser, hprofile, rfl⟩ := merge_ok h
  -- the labels are the ones sent, or the row's
  have hlabels' : ∃ labels', u.labels.getD r.labelsJson = some labels' ∧
      (∀ l ∈ labels', strip l ≠ "") ∧ labels'.Nodup := by
    cases hsent : u.labels with
    | none => exact ⟨labels, hlabels, hvalid.labels⟩
    | some v =>
      obtain ⟨hne, hstrip⟩ := hplain v hsent
      cases v with
      | none => exact absurd rfl hne
      | some labels' =>
        exact ⟨labels', rfl, hstrip labels' rfl, (hu.labels _ hsent labels' rfl).1⟩
  obtain ⟨labels', heq, hlabels'⟩ := hlabels'
  refine collectorEndpoint_isSome.2 ⟨labels', heq, ?_⟩
  constructor
  · exact hvalid.id
  · exact hvalid.host
  · exact hvalid.port
  · refine forall_getD (P := fun s => matchesUser s = true) hu.sshUser ?_ sshUser huser
    intro s hs
    obtain rfl := Option.some.inj hs
    exact hvalid.sshUser
  · exact forall_getD hu.sshAlias hvalid.sshAlias
  · refine effectiveWorkspace_text hgroups ?_
    show ∀ s ∈ u.nextOverride r, s ≠ "" → workspaceText s
    unfold EndpointUpdate.nextOverride
    split
    · exact fun s hs _ =>
        storedWorkspaceOverride_text hu.workspacePath hu.workspacePathOverride s hs
    · exact override_text hvalid
  · refine forall_getD (P := fun s => 1 ≤ s.length ∧ s.length ≤ 40)
      (fun v hv s hs => (hu.observationProfile v hv s hs).1) ?_ profile hprofile
    intro s hs
    obtain rfl := Option.some.inj hs
    exact hvalid.observationProfile
  · exact forall_getD hu.keepaliveAdapterId hvalid.keepaliveAdapterId
  · exact hlabels'
  · exact forall_getD hu.storageGroup hvalid.storageGroup
  · exact forall_getD hu.serverGroupId hvalid.serverGroupId
  · exact forall_getD hu.expectedGpuCount hvalid.expectedGpuCount
  · exact forall_getD hu.expectedGpuTotalVramMib hvalid.expectedGpuTotalVramMib
  · intro hpolicy
    have hpolicy : r.keepalivePolicy = .idleKeepalive := hpolicy
    show u.keepaliveAdapterId.getD r.keepaliveAdapterId ≠ none
    cases hsent : u.keepaliveAdapterId with
    | none => exact hvalid.idleKeepalive hpolicy
    | some v =>
      intro hnone
      have hv : v = none := hnone
      rw [hv] at hsent
      exact hadapter ⟨hsent, hpolicy⟩

/-- An update merges its fields into the row it names, or changes nothing. -/
theorem updateEndpoint_ok {around : Surroundings} {actor : ActorContext} {id : String}
    {u : EndpointUpdate} {key : String} (h : updateEndpoint around actor id u key inv = .ok inv') :
    inv'.groups = inv.groups ∧ (inv'.rows = inv.rows ∨ ∃ r r', inv.row? id = some r ∧
      ¬ (u.keepaliveAdapterId = some none ∧ r.keepalivePolicy = .idleKeepalive) ∧
      u.merge r = .ok r' ∧ inv'.rows = updWhere (fun x => x.id = id) (fun _ => r') inv.rows) := by
  unfold updateEndpoint at h
  simp only [bind_ok] at h
  obtain ⟨-, -, seen, -, h⟩ := h
  split at h
  · obtain rfl := pure_ok.1 h
    exact ⟨rfl, Or.inl rfl⟩
  · simp only [bind_ok, pure_ok, need_ok, require_ok] at h
    obtain ⟨r, hr, -, -, -, -, group, -, after, -, -, -, -, hadapter, r', hmerge, -, -, rfl⟩ := h
    exact ⟨rfl, Or.inr ⟨r, r', hr, hadapter, hmerge, rfl⟩⟩

/-! ## Runs of calls -/

theorem call_groups (call : Call known) : (inv.call call).groups = inv.groups := by
  cases call with
  | create around actor data key =>
    unfold Inventory.call
    simp only
    split
    · rename_i inv' h
      exact (createEndpoint_ok h).1
    · rfl
  | update around actor id data key =>
    unfold Inventory.call
    simp only
    split
    · rename_i inv' h
      exact (updateEndpoint_ok h).1
    · rfl

/-- A call with plain labels leaves every row readable. -/
theorem call_readable (hgroups : inv.Grouped) (hread : inv.Readable) {call : Call known}
    (hplain : call.Plain) : (inv.call call).Readable := by
  have hold : ∀ r ∈ inv.rows, ((inv.call call).collectorEndpoint r).isSome = true := fun r hr =>
    collectorEndpoint_congr (call_groups call) (hread r hr)
  cases call with
  | create around actor data key =>
    unfold Inventory.call at hold ⊢
    simp only at hold ⊢
    split
    · rename_i inv' h
      rw [h] at hold
      obtain ⟨hg, hrows⟩ := createEndpoint_ok h
      intro r hr
      rcases hrows with hrows | hrows <;> rw [hrows] at hr
      · exact hold r hr
      · rcases List.mem_append.1 hr with hr | hr
        · exact hold r hr
        · rw [List.mem_singleton.1 hr]
          refine collectorEndpoint_congr hg (collectorEndpoint_isSome.2 ⟨_, rfl, ?_⟩)
          exact create_valid hgroups data.2 ((hplain _ rfl).2 _ rfl)
    · exact hread
  | update around actor id data key =>
    unfold Inventory.call at hold ⊢
    simp only at hold ⊢
    split
    · rename_i inv' h
      rw [h] at hold
      obtain ⟨hg, hrows⟩ := updateEndpoint_ok h
      intro r hr
      rcases hrows with hrows | ⟨old, new, hfound, hadapter, hmerge, hrows⟩ <;> rw [hrows] at hr
      · exact hold r hr
      · obtain ⟨a, ha, ⟨-, rfl⟩ | ⟨-, rfl⟩⟩ := mem_updWhere.1 hr
        · have hread' := hread old (row?_some hfound).1
          exact collectorEndpoint_congr hg
            (merge_valid hgroups data.2 hplain hadapter hread' hmerge)
        · exact hold r ha
    · exact hread

/-! ## The allocator -/

/-- A card that passes every check has telemetry. -/
theorem telemetry_of_admitted {cfg : Config} {now : Time} {b : Broker} {c : ResourceConstraints}
    {reclaimable : Bool} {g : GPUDevice} (h : b.exclusion cfg now c reclaimable g = none) :
    (b.plant.telemetry? g.id).isSome = true := by
  obtain ⟨-, -, -, e, -, -, -, -, hstate⟩ := exclusion_eq_none.1 h
  cases ht : b.plant.telemetry? g.id with
  | some t => rfl
  | none =>
    -- without telemetry the card's state is unknown, and its reason that state's name
    have hunknown : (b.gpuState cfg now g).1 ≠ .available ∧
        (b.gpuState cfg now g).1 ≠ .keepalive := by
      unfold Broker.gpuState
      rw [ht]
      split
      · exact ⟨nofun, nofun⟩
      · split
        · exact ⟨nofun, nofun⟩
        · exact ⟨nofun, nofun⟩
    unfold Broker.stateExclusion at hstate
    simp only at hstate
    split at hstate
    · split at hstate
      · cases hstate
      · rw [if_pos ⟨hunknown.2, hunknown.1⟩] at hstate
        cases hstate
    · rw [if_pos hunknown.1] at hstate
      cases hstate

theorem readsLabels_endpoint {b : Broker} {c : ResourceConstraints} {g : GPUDevice} {e : Endpoint}
    (h : readsLabels b c g = some e) : b.plant.endpoint? g.endpointId = some e := by
  unfold readsLabels at h
  split at h
  · exact (Option.filter_eq_some_iff.1 h).1
  · cases h

/-- A readable row has labels. -/
theorem labels_of_readable (hread : inv.Readable) (hr : r ∈ inv.rows) :
    inv.labels? r.id ≠ none := by
  unfold Inventory.labels?
  cases hrow : inv.row? r.id with
  | none => exact absurd rfl (row?_none hrow r hr)
  | some r' =>
    obtain ⟨labels, hlabels, -⟩ := collectorEndpoint_isSome.1 (hread r' (row?_some hrow).1)
    rw [Option.bind_some, hlabels]
    nofun

/-- Readable rows are read by the allocator too. -/
theorem readable_admits (hread : inv.Readable) : inv.Admits := by
  intro cfg now b c reclaimable hrows
  have hcard : ∀ g, ∃ reason, exclusion cfg now b inv.labels? c reclaimable g = .ok reason := by
    intro g
    unfold exclusion
    simp only [bind_ok, require_ok, pure_ok]
    refine ⟨_, (), ?_, (), telemetry_of_admitted, rfl⟩
    intro e he
    -- the endpoint's row is one the collector reads
    have hmem : e ∈ b.plant.endpoints := (row?_some (readsLabels_endpoint he)).1
    rw [hrows] at hmem
    obtain ⟨r, hr, hre⟩ := List.mem_map.1 hmem
    rw [← hre]
    exact labels_of_readable hread hr
  obtain ⟨reasons, hreasons⟩ := mapM_total (l := b.plant.gpus.insertionSort gpuOrder)
    fun g _ => hcard g
  unfold eligibleGpus
  simp only [bind_ok, pure_ok]
  exact ⟨_, reasons, hreasons, rfl⟩

/-- **Endpoint rows stay readable**, over every sequence of calls that send plain labels. -/
theorem rows_readable (inv : Inventory) (hgroups : inv.Grouped) (hread : inv.Readable)
    (calls : List (Call known))
    (hplain : Run.Along Inventory.call (fun _ call => call.Plain) inv calls) :
    (Run.run Inventory.call inv calls).Readable ∧ (Run.run Inventory.call inv calls).Admits := by
  have hkept : (Run.run Inventory.call inv calls).Grouped ∧
      (Run.run Inventory.call inv calls).Readable := by
    refine Run.run_inv (I := fun inv : Inventory => inv.Grouped ∧ inv.Readable) ?_
      ⟨hgroups, hread⟩ hplain
    rintro inv call ⟨hg, hr⟩ hp
    exact ⟨fun g hmem => hg g (call_groups call ▸ hmem), call_readable hg hr hp⟩
  exact ⟨hkept.2, readable_admits hkept.2⟩

/-! ## Two calls -/

/-- The built-in profile. -/
def builtinOnly (profile : String) : Bool := decide (profile = "linux")

def operator : ActorContext := { id := "app", role := "operator" }

/-- An endpoint with its own workspace. -/
def alpha : EndpointCreate :=
  { id := "alpha", host := "10.0.0.1", port := 22, sshUser := "ml", labels := ["a100"]
    workspacePath := some (some "/srv/work") }

theorem alpha_valid : alpha.Valid builtinOnly := by
  constructor <;> decide

def relabelled : EndpointUpdate := { labels := some (some ["a100", "nvlink"]) }

theorem relabelled_valid : relabelled.Valid builtinOnly := by
  constructor <;> decide

/-- The labels are sent as an explicit null. -/
def nulled : EndpointUpdate := { labels := some none }

theorem nulled_valid : nulled.Valid builtinOnly := by
  constructor <;> decide

theorem empty_grouped : Inventory.Grouped {} := by
  intro g hg
  exact absurd hg List.not_mem_nil

theorem empty_readable : Inventory.Readable {} := by
  intro r hr
  exact absurd hr List.not_mem_nil

/-- The endpoint is created, then updated. -/
def updatedBy (u : { u : EndpointUpdate // u.Valid builtinOnly }) : List (Call builtinOnly) :=
  [.create {} operator ⟨alpha, alpha_valid⟩ "k1", .update {} operator "alpha" u "k2"]

/-- `rows_readable`, of new labels. -/
theorem rows_readable_relabelled :
    (Run.run Inventory.call {} (updatedBy ⟨relabelled, relabelled_valid⟩)).Readable ∧
      (Run.run Inventory.call {} (updatedBy ⟨relabelled, relabelled_valid⟩)).Admits :=
  rows_readable {} empty_grouped empty_readable _ (by decide +kernel)

/-- Labels sent as null are stored, and the row is dropped from collection. -/
theorem null_unreadable : ¬ ∀ inv : Inventory, inv.Grouped → inv.Readable →
    ∀ calls : List (Call builtinOnly),
      (Run.run Inventory.call inv calls).Readable ∧ (Run.run Inventory.call inv calls).Admits := by
  intro h
  obtain ⟨hread, -⟩ := h {} empty_grouped empty_readable (updatedBy ⟨nulled, nulled_valid⟩)
  have hrow : ¬ ∀ r ∈ (Run.run Inventory.call {} (updatedBy ⟨nulled, nulled_valid⟩)).rows,
      ((Run.run Inventory.call {} (updatedBy ⟨nulled, nulled_valid⟩)).collectorEndpoint r).isSome =
        true := by
    decide +kernel
  exact hrow hread

/-- From then on the filter raises for any request that comes to a card of that server. -/
example (cfg : Config) :
    let inv := Run.run Inventory.call {} (updatedBy ⟨nulled, nulled_valid⟩)
    let card : GPUDevice :=
      { id := "alpha:U", endpointId := "alpha", nodeId := "alpha", gpuUuid := "U", gpuIndex := 0
        cudaOrdinal := some 0, name := "A100", totalVramMib := 81920, health := "OK"
        present := true, firstSeenAt := 0, lastSeenAt := 0 }
    eligibleGpus cfg 0 { plant := { endpoints := inv.rows.map Inventory.endpoint, gpus := [card] } }
      inv.labels? { gpuCount := 1 } false =
        .error (.raised "TypeError: 'NoneType' object is not iterable") := by
  rfl

/-- A label the schemas keep, and the reader strips to nothing. -/
example : trim "\x1c" = "\x1c" ∧ strip "\x1c" = "" := by decide

end ServerPilot.Columns
