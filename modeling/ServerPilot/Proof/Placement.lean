import Mathlib.Algebra.Group.Action.Defs
import ServerPilot.Lib.Choice
import ServerPilot.Proof.Fleet
import ServerPilot.Proof.Select

/-!
# What the allocator can place

`Serves` says what a selection from one list of candidates is for: the cards named
where the request names them, else cards in the shape it asks for.
`selectResources` finds one whenever there is one (`selectResources_serves`,
`Serves.selected`), greedy as it is: best fit, whole blocks and rounds all end with
as many cards as hosts with room can give.

An exact request is served by its cards alone, in whatever shape they stand. So the
selection is right for the request as a whole unless it names cards of one group in
another shape (`placement_iff`).
-/

namespace ServerPilot

open Rows Checked Choice

variable {candidates sel : List GPUDevice} {c : ResourceConstraints} {p : Plant}
  {h : String × List GPUDevice} {g : GPUDevice}

/-- The host shape of a request: one host, or `nodes` hosts of `gpusPerNode` cards each. -/
structure HostShape (c : ResourceConstraints) (sel : List GPUDevice) : Prop where
  oneHost : c.sameHost = true → ∀ g ∈ sel, ∀ g' ∈ sel, g.endpointId = g'.endpointId
  blocks : ∀ k ∈ c.gpusPerNode, (sel.map GPUDevice.endpointId).dedup.length = c.nodes ∧
    ∀ g ∈ sel, (sel.map GPUDevice.endpointId).count g.endpointId = k

instance : Decidable (HostShape c sel) :=
  decidable_of_iff
    ((c.sameHost = true → ∀ g ∈ sel, ∀ g' ∈ sel, g.endpointId = g'.endpointId) ∧
      ∀ k ∈ c.gpusPerNode, (sel.map GPUDevice.endpointId).dedup.length = c.nodes ∧
        ∀ g ∈ sel, (sel.map GPUDevice.endpointId).count g.endpointId = k)
    ⟨fun h => ⟨h.1, h.2⟩, fun h => ⟨h.oneHost, h.blocks⟩⟩

/-- A selection from these candidates that the allocator may make: an exact request is served by
the cards it names, any other by cards in its shape. -/
structure Serves (candidates : List GPUDevice) (c : ResourceConstraints) (sel : List GPUDevice) :
    Prop where
  distinct : sel.Nodup
  candidates : ∀ g ∈ sel, g ∈ candidates
  count : sel.length = c.gpuCount
  exact : c.placement = .exact → ∀ id, id ∈ sel.map GPUDevice.id ↔ id ∈ c.gpuIds
  shape : c.placement ≠ .exact → HostShape c sel

/-- A placement of the request: distinct candidates of one group, as many as asked for, in the shape
asked for, and the cards named if it is exact. -/
structure Feasible (p : Plant) (candidates : List GPUDevice) (c : ResourceConstraints)
    (sel : List GPUDevice) : Prop where
  distinct : (sel.map GPUDevice.id).Nodup
  candidates : ∀ g ∈ sel, g ∈ candidates
  count : sel.length = c.gpuCount
  oneGroup : ∀ g ∈ sel, ∀ g' ∈ sel, p.groupOf g = p.groupOf g'
  shape : HostShape c sel
  exact : c.placement = .exact → ∀ id, id ∈ sel.map GPUDevice.id ↔ id ∈ c.gpuIds

/-- Something is selected exactly if there is a placement, and what is selected is one. -/
def PlacedRightly (p : Plant) (candidates : List GPUDevice) (c : ResourceConstraints) : Prop :=
  ((∃ sel, p.selectInGroupPartitions candidates c = some sel) ↔ ∃ s, Feasible p candidates c s) ∧
    ∀ sel, p.selectInGroupPartitions candidates c = some sel → Feasible p candidates c sel

/-- The candidates a request names. -/
def namedCards (candidates : List GPUDevice) (c : ResourceConstraints) : List GPUDevice :=
  candidates.filter fun g => g.id ∈ c.gpuIds

/-- An exact request whose cards are all candidates of one group names them in its own shape. -/
def NamedInShape (p : Plant) (candidates : List GPUDevice) (c : ResourceConstraints) : Prop :=
  c.placement = .exact → (∀ id ∈ c.gpuIds, id ∈ candidates.map GPUDevice.id) →
    (∀ g ∈ namedCards candidates c, ∀ g' ∈ namedCards candidates c, p.groupOf g = p.groupOf g') →
    HostShape c (namedCards candidates c)

/-! ## The hosts of a list of candidates -/

/-- The candidates on one host. -/
def hostCount (candidates : List GPUDevice) (endpointId : String) : ℕ :=
  (candidates.filter fun g => g.endpointId = endpointId).length

theorem byEndpoint_keys :
    (byEndpoint candidates).map Prod.fst = (candidates.map GPUDevice.endpointId).dedup := by
  unfold byEndpoint
  rw [List.map_map]
  exact List.map_id _

/-- A host has its candidates and no other. -/
theorem mem_host (hh : h ∈ byEndpoint candidates) :
    g ∈ h.2 ↔ g ∈ candidates ∧ g.endpointId = h.1 := by
  obtain ⟨e, -, rfl⟩ := List.mem_map.1 hh
  rw [List.mem_insertionSort, List.mem_filter, decide_eq_true_eq]

theorem length_host (hh : h ∈ byEndpoint candidates) : h.2.length = hostCount candidates h.1 := by
  obtain ⟨e, -, rfl⟩ := List.mem_map.1 hh
  exact List.length_insertionSort _ _

/-- Every candidate stands on a host. -/
theorem exists_host (hg : g ∈ candidates) : ∃ h ∈ byEndpoint candidates, h.1 = g.endpointId := by
  have hkey : g.endpointId ∈ (byEndpoint candidates).map Prod.fst := by
    rw [byEndpoint_keys, List.mem_dedup]
    exact List.mem_map_of_mem hg
  exact List.mem_map.1 hkey

theorem host_ne_nil (hh : h ∈ byEndpoint candidates) : h.2 ≠ [] := by
  have hkey : h.1 ∈ (byEndpoint candidates).map Prod.fst := List.mem_map_of_mem hh
  rw [byEndpoint_keys, List.mem_dedup] at hkey
  obtain ⟨g, hg, he⟩ := List.mem_map.1 hkey
  exact List.ne_nil_of_mem ((mem_host hh).2 ⟨hg, he⟩)

/-- Some hosts in some order, no two of them one. -/
theorem keys_nodup {hosts : List (String × List GPUDevice)}
    (h : hosts.Subperm (byEndpoint candidates)) :
    (hosts.map Prod.fst).Nodup := by
  obtain ⟨hosts', hp, hs⟩ := h
  have hk : ((byEndpoint candidates).map Prod.fst).Nodup := by
    rw [byEndpoint_keys]
    exact List.nodup_dedup _
  exact (hp.map _).nodup_iff.1 (hk.sublist (hs.map _))

theorem bestFit_subperm (q : String × List GPUDevice → Bool) :
    (bestFit ((byEndpoint candidates).filter q)).Subperm (byEndpoint candidates) :=
  (List.perm_insertionSort _ _).subperm.trans List.filter_sublist.subperm

/-- Cards of different hosts are different. -/
theorem hosts_nodup (hn : candidates.Nodup) {hosts : List (String × List GPUDevice)}
    (hs : hosts.Subperm (byEndpoint candidates)) {f : String × List GPUDevice → List GPUDevice}
    (hf : ∀ h, List.Sublist (f h) h.2) : (hosts.flatMap f).Nodup := by
  refine nodup_flatMap_keyed GPUDevice.endpointId (keys_nodup hs) fun h hh => ?_
  have hmem := hs.subset hh
  exact ⟨(nodup_byEndpoint hn hmem).sublist (hf h), fun g hg =>
    ((mem_host hmem).1 ((hf h).subset hg)).2⟩

/-- Hosts with their candidates, one after the other, are the candidates. -/
theorem hosts_perm (hn : candidates.Nodup) {hosts : List (String × List GPUDevice)}
    (hp : hosts.Perm (byEndpoint candidates)) : (hosts.flatMap Prod.snd).Perm candidates := by
  refine (List.perm_ext_iff_of_nodup (hosts_nodup hn hp.subperm fun h => List.Sublist.refl _) hn).2
    fun g => ?_
  constructor
  · intro hg
    obtain ⟨h, hh, hgh⟩ := List.mem_flatMap.1 hg
    exact ((mem_host (hp.mem_iff.1 hh)).1 hgh).1
  · intro hg
    obtain ⟨h, hh, he⟩ := exists_host hg
    exact List.mem_flatMap.2 ⟨h, hp.mem_iff.2 hh, (mem_host hh).2 ⟨hg, he.symm⟩⟩

/-! ## Rounds -/

/-- The rounds take cards of the queues, none of them twice. -/
theorem spreadRounds_subperm (fuel : ℕ) (queues : List (List GPUDevice)) (need : ℕ) :
    (spreadRounds fuel queues need).Subperm queues.flatten := by
  induction fuel generalizing queues need with
  | zero => exact List.nil_subperm
  | succ fuel ih =>
    unfold spreadRounds
    split
    · exact List.nil_subperm
    have hrest := ih ((queues.map List.tail).filter fun q => q ≠ [])
      (need - ((queues.filterMap List.head?).take need).length)
    rw [flatten_filter_ne_nil] at hrest
    have hheads := (List.take_sublist need (queues.filterMap List.head?)).subperm
    exact (hheads.append hrest).trans (heads_append_tails queues).subperm

/-- **The rounds find enough** as long as there is enough: each takes a card of every queue left. -/
theorem length_spreadRounds (fuel : ℕ) (queues : List (List GPUDevice)) (need : ℕ)
    (hne : ∀ q ∈ queues, q ≠ []) (hfuel : queues.flatten.length ≤ fuel) :
    (spreadRounds fuel queues need).length = min need queues.flatten.length := by
  induction fuel generalizing queues need with
  | zero =>
    have hzero : queues.flatten.length = 0 := by omega
    rw [hzero, Nat.min_zero]
    rfl
  | succ fuel ih =>
    unfold spreadRounds
    split
    · rename_i hdone
      rcases hdone with rfl | rfl
      · simp
      · simp
    rename_i hgo
    rw [not_or] at hgo
    have hheads : (queues.filterMap List.head?).length = queues.length := by
      rw [List.length_filterMap_eq_countP, List.countP_eq_length]
      intro q hq
      cases q with
      | nil => exact absurd rfl (hne _ hq)
      | cons a q => rfl
    have htotal := (heads_append_tails queues).length_eq
    have hsome : 0 < queues.length := List.length_pos_of_ne_nil hgo.1
    rw [List.length_append, hheads] at htotal
    rw [List.length_append, ih, flatten_filter_ne_nil, List.length_take, hheads]
    · omega
    · intro q hq
      exact of_decide_eq_true (List.mem_filter.1 hq).2
    · rw [flatten_filter_ne_nil]
      omega

/-! ## What is selected serves -/

/-- Blocks of `k` cards of some hosts. -/
theorem blocks_shape {hosts : List (String × List GPUDevice)} {k : ℕ}
    (hs : hosts.Subperm (byEndpoint candidates)) (hk : 1 ≤ k)
    (hroom : ∀ h ∈ hosts, k ≤ h.2.length) :
    (((hosts.flatMap fun h => h.2.take k).map GPUDevice.endpointId).dedup.length = hosts.length) ∧
      ∀ e ∈ (hosts.flatMap fun h => h.2.take k).map GPUDevice.endpointId,
        ((hosts.flatMap fun h => h.2.take k).map GPUDevice.endpointId).count e = k := by
  have hnames : (hosts.flatMap fun h => h.2.take k).map GPUDevice.endpointId =
      hosts.flatMap fun h => List.replicate k h.1 := by
    rw [List.map_flatMap]
    refine List.flatMap_congr fun h hh => ?_
    refine List.eq_replicate_iff.2 ⟨by simp [hroom h hh], fun e he => ?_⟩
    obtain ⟨g, hg, rfl⟩ := List.mem_map.1 he
    exact ((mem_host (hs.subset hh)).1 (List.mem_of_mem_take hg)).2
  have hmem : ∀ e, e ∈ (hosts.flatMap fun h => List.replicate k h.1) ↔ e ∈ hosts.map Prod.fst := by
    intro e
    rw [List.mem_flatMap, List.mem_map]
    refine exists_congr fun h => and_congr_right fun _ => ?_
    rw [List.mem_replicate]
    exact ⟨fun he => he.2.symm, fun he => ⟨by omega, he.symm⟩⟩
  rw [hnames]
  constructor
  · have hkeys : (hosts.map Prod.fst).length = hosts.length := List.length_map _
    rw [← hkeys]
    refine List.Perm.length_eq ((List.perm_ext_iff_of_nodup (List.nodup_dedup _) (keys_nodup hs)).2
      fun e => ?_)
    rw [List.mem_dedup, hmem]
  · intro e he
    rw [count_flatMap_replicate, List.count_eq_one_of_mem (keys_nodup hs) ((hmem e).1 he),
      Nat.mul_one]

/-- Looking rows up by their keys finds rows with those keys. -/
theorem mapM_row_keys {ids : List String}
    (hsel : ids.mapM (fun id => row? GPUDevice.id id candidates) = some sel) :
    sel.map GPUDevice.id = ids := by
  have hrows := mapM_some hsel
  clear hsel
  induction hrows with
  | nil => rfl
  | cons hrow _ ih => rw [List.map_cons, (row?_some hrow).2, ih]

/-- Cards of one host are in the shape of any request that does not count nodes. -/
theorem oneHost_shape (hk : c.gpusPerNode = none) {e : String} (he : ∀ g ∈ sel, g.endpointId = e) :
    HostShape c sel := by
  refine ⟨fun _ g hg g' hg' => (he g hg).trans (he g' hg').symm, fun k hmem => ?_⟩
  rw [hk] at hmem
  cases hmem

theorem noShape (hk : c.gpusPerNode = none) (hs : c.sameHost = false) : HostShape c sel := by
  refine ⟨fun h => ?_, fun k hmem => ?_⟩
  · rw [hs] at h
    cases h
  · rw [hk] at hmem
    cases hmem

/-- One name in the list: all of it is that name. -/
theorem endpoint_eq_of_dedup (h : (sel.map GPUDevice.endpointId).dedup.length = 1) :
    ∀ g ∈ sel, ∀ g' ∈ sel, g.endpointId = g'.endpointId := by
  obtain ⟨e, he⟩ := List.length_eq_one_iff.1 h
  have hall : ∀ g ∈ sel, g.endpointId = e := by
    intro g hg
    have hm : g.endpointId ∈ (sel.map GPUDevice.endpointId).dedup :=
      List.mem_dedup.2 (List.mem_map_of_mem hg)
    rw [he] at hm
    exact List.mem_singleton.1 hm
  exact fun g hg g' hg' => (hall g hg).trans (hall g' hg').symm

/-- Enough cards of a host, without one twice and in the shape of any request for one host. -/
theorem take_host_serves (hn : candidates.Nodup) (hk : c.gpusPerNode = none) (n : ℕ)
    (hh : h ∈ byEndpoint candidates) : (h.2.take n).Nodup ∧ HostShape c (h.2.take n) :=
  ⟨(nodup_byEndpoint hn hh).sublist (List.take_sublist _ _),
    oneHost_shape hk fun _ hg => ((mem_host hh).1 (List.mem_of_mem_take hg)).2⟩

/-- **What is selected serves the request.** -/
theorem selectResources_serves (hc : (candidates.map GPUDevice.id).Nodup) (hv : c.Valid)
    (hsel : selectResources candidates c = some sel) : Serves candidates c sel := by
  obtain ⟨hcount, hmem⟩ := selectResources_spec hv hsel
  have hn : candidates.Nodup := List.Nodup.of_map _ hc
  suffices hrest : sel.Nodup ∧
      (c.placement = .exact → ∀ id, id ∈ sel.map GPUDevice.id ↔ id ∈ c.gpuIds) ∧
      (c.placement ≠ .exact → HostShape c sel) by
    exact ⟨hrest.1, hmem, hcount, hrest.2.1, hrest.2.2⟩
  unfold selectResources at hsel
  split at hsel
  · cases hsel
  split at hsel
  · -- exact placement: the cards named, in the order they are named
    rename_i hexact
    have hids := mapM_row_keys hsel
    refine ⟨List.Nodup.of_map GPUDevice.id ?_, fun _ id => by rw [hids], fun h => absurd hexact h⟩
    rw [hids]
    exact (hv.lists c.gpuIds (by simp)).1
  rename_i hexact
  suffices hrest : sel.Nodup ∧ HostShape c sel by
    exact ⟨hrest.1, fun h => absurd h hexact, fun _ => hrest.2⟩
  simp only at hsel
  split at hsel
  · -- explicit topology: whole blocks of enough hosts
    rename_i k hk
    split at hsel
    · cases hsel
    split at hsel
    · cases hsel
      have hs := (List.take_sublist c.nodes
        (bestFit ((byEndpoint candidates).filter fun h => k ≤ h.2.length))).subperm.trans
        (bestFit_subperm _)
      have hshape := blocks_shape hs (hv.gpusPerNode k hk).1 fun h hh =>
        (fits_of_head (List.mem_of_mem_take hh)).1
      rw [List.length_take, Nat.min_eq_left (by omega)] at hshape
      refine ⟨hosts_nodup hn hs fun h => List.take_sublist _ _, fun hone => ?_, fun k' hk' => ?_⟩
      · have hnodes := hv.sameHost hone
        rw [hnodes] at hshape ⊢
        exact endpoint_eq_of_dedup hshape.1
      · obtain rfl : k = k' := Option.some.inj (hk.symm.trans hk')
        exact ⟨hshape.1, fun g hg => hshape.2 _ (List.mem_map_of_mem hg)⟩
    · cases hsel
  rename_i hk
  split at hsel
  · -- one host
    obtain ⟨host, hh, rfl⟩ := Option.map_eq_some_iff.1 hsel
    exact take_host_serves hn hk _ (fits_of_head (List.mem_of_mem_head? hh)).2
  rename_i hone
  rw [Bool.not_eq_true] at hone
  suffices hrest : sel.Nodup from ⟨hrest, noShape hk hone⟩
  split at hsel
  · -- packing: the tightest host that fits, else from the largest block on
    split at hsel
    · rename_i host rest hh
      cases hsel
      have hm : host ∈ bestFit ((byEndpoint candidates).filter fun h => c.gpuCount ≤ h.2.length) :=
        hh ▸ List.mem_cons_self
      exact (nodup_byEndpoint hn (fits_of_head hm).2).sublist (List.take_sublist _ _)
    · cases hsel
      have hp := hosts_perm hn (List.perm_insertionSort (fun a b : String × List GPUDevice =>
        b.2.length < a.2.length ∨ (a.2.length = b.2.length ∧ a.1 ≤ b.1)) (byEndpoint candidates))
      exact (hp.nodup_iff.2 hn).sublist (List.take_sublist _ _)
  · -- spreading: rounds over the hosts
    split at hsel
    · cases hsel
      have hp := hosts_perm hn (List.perm_insertionSort
        (fun a b : String × List GPUDevice => a.1 ≤ b.1) (byEndpoint candidates))
      have hsub := spreadRounds_subperm candidates.length
        (((byEndpoint candidates).insertionSort fun a b => a.1 ≤ b.1).map Prod.snd) c.gpuCount
      rw [← List.flatMap_def] at hsub
      obtain ⟨l, hl, hs⟩ := hsub
      exact hl.nodup_iff.1 ((hp.nodup_iff.2 hn).sublist hs)
    · cases hsel

/-! ## A request that can be served is -/

/-- Cards that serve stand among the candidates. -/
theorem Serves.length_le {s : List GPUDevice} (h : Serves candidates c s) :
    c.gpuCount ≤ candidates.length := by
  rw [← h.count]
  exact (h.distinct.subperm h.candidates).length_le

/-- As many candidates of a host as serve from it. -/
theorem count_le_hostCount {s : List GPUDevice} (hn : s.Nodup) (hs : ∀ g ∈ s, g ∈ candidates)
    (e : String) : (s.map GPUDevice.endpointId).count e ≤ hostCount candidates e := by
  have hsub : (s.filter fun g => g.endpointId = e).Subperm
      (candidates.filter fun g => g.endpointId = e) :=
    (hn.subperm hs).filter _
  rw [List.count_eq_countP, List.countP_map, List.countP_eq_length_filter]
  exact hsub.length_le

/-- A host that serves `k` cards has room for `k`. -/
theorem exists_room {s : List GPUDevice} (hn : s.Nodup) (hs : ∀ g ∈ s, g ∈ candidates) {e : String}
    (he : e ∈ s.map GPUDevice.endpointId) {k : ℕ} (hk : k ≤ (s.map GPUDevice.endpointId).count e) :
    ∃ h, h ∈ (byEndpoint candidates).filter (fun h => k ≤ h.2.length) ∧ h.1 = e := by
  obtain ⟨g, hg, rfl⟩ := List.mem_map.1 he
  obtain ⟨h, hh, hname⟩ := exists_host (hs g hg)
  refine ⟨h, List.mem_filter.2 ⟨hh, decide_eq_true ?_⟩, hname⟩
  rw [length_host hh, hname]
  exact hk.trans (count_le_hostCount hn hs _)

/-- Cards in blocks of `k` on some hosts: as many hosts have room for `k`. -/
theorem hosts_with_room {s : List GPUDevice} (hn : s.Nodup) (hs : ∀ g ∈ s, g ∈ candidates) {k : ℕ}
    (hk : ∀ g ∈ s, (s.map GPUDevice.endpointId).count g.endpointId = k) :
    (s.map GPUDevice.endpointId).dedup.length ≤
      ((byEndpoint candidates).filter fun h => k ≤ h.2.length).length := by
  have hsub : (s.map GPUDevice.endpointId).dedup ⊆
      ((byEndpoint candidates).filter fun h => k ≤ h.2.length).map Prod.fst := by
    intro e he
    rw [List.mem_dedup] at he
    obtain ⟨g, hg, rfl⟩ := List.mem_map.1 he
    obtain ⟨h, hh, hname⟩ := exists_room hn hs he (hk g hg).ge
    exact List.mem_map.2 ⟨h, hh, hname⟩
  have hle := ((List.nodup_dedup _).subperm hsub).length_le
  rwa [List.length_map] at hle

/-- Whole blocks of `n` hosts with room. -/
theorem length_blocks {hosts : List (String × List GPUDevice)} {n k : ℕ} (hn : n ≤ hosts.length)
    (hroom : ∀ h ∈ hosts, k ≤ h.2.length) :
    ((hosts.take n).flatMap fun h => h.2.take k).length = k * n := by
  have hconst : (hosts.take n).map (fun h => (h.2.take k).length) =
      (hosts.take n).map fun _ => k := by
    refine List.map_congr_left fun h hh => ?_
    rw [List.length_take, Nat.min_eq_left (hroom h (List.mem_of_mem_take hh))]
  rw [List.length_flatMap, hconst, List.map_const', List.sum_replicate, List.length_take,
    Nat.min_eq_left hn, smul_eq_mul, Nat.mul_comm]

/-- **Whatever can be served is selected.** -/
theorem Serves.selected {s : List GPUDevice} (hs : Serves candidates c s) (hn : candidates.Nodup)
    (hv : c.Valid) : ∃ sel, selectResources candidates c = some sel := by
  have hlen := hs.length_le
  unfold selectResources
  rw [if_neg (by omega)]
  split
  · -- exact placement: every card named is a candidate
    rename_i hexact
    rw [mapM_some_iff]
    intro id hid
    obtain ⟨g, hg, rfl⟩ := List.mem_map.1 ((hs.exact hexact id).2 hid)
    cases hrow : row? GPUDevice.id g.id candidates with
    | none => exact absurd rfl (row?_none hrow g (hs.candidates g hg))
    | some g' => rfl
  rename_i hexact
  have hshape := hs.shape hexact
  simp only
  split
  · -- explicit topology: the hosts of `s` have room for a block each
    rename_i k hk
    obtain ⟨hnodes, hblocks⟩ := hshape.blocks k hk
    have hhosts := hosts_with_room hs.distinct hs.candidates hblocks
    have hfit :
        c.nodes ≤ (bestFit ((byEndpoint candidates).filter fun h => k ≤ h.2.length)).length := by
      unfold bestFit
      rw [List.length_insertionSort]
      omega
    have hsize := length_blocks hfit fun h hh => (fits_of_head hh).1
    rw [hv.topology k hk] at hsize
    rw [if_neg (by omega), if_pos hsize]
    exact ⟨_, rfl⟩
  rename_i hk
  split
  · -- one host: the one `s` is on
    rename_i hone
    obtain ⟨g, hg⟩ := List.exists_mem_of_length_pos (l := s)
      (by have := hs.count; have := hv.gpuCount; omega)
    have hall : c.gpuCount ≤ (s.map GPUDevice.endpointId).count g.endpointId := by
      rw [← hs.count, ← List.length_map (f := GPUDevice.endpointId), List.count_eq_length.2]
      intro e he
      obtain ⟨g', hg', rfl⟩ := List.mem_map.1 he
      exact hshape.oneHost hone g hg g' hg'
    obtain ⟨h, hh, -⟩ := exists_room hs.distinct hs.candidates (List.mem_map_of_mem hg) hall
    obtain ⟨x, hx⟩ := head?_of_mem (mem_bestFit.2 hh)
    exact ⟨_, by rw [hx]; rfl⟩
  split
  · split
    · exact ⟨_, rfl⟩
    · exact ⟨_, rfl⟩
  · -- rounds over all candidates
    have hp := hosts_perm hn (List.perm_insertionSort
      (fun a b : String × List GPUDevice => a.1 ≤ b.1) (byEndpoint candidates))
    rw [List.flatMap_def] at hp
    have hsize := length_spreadRounds candidates.length
      (((byEndpoint candidates).insertionSort fun a b => a.1 ≤ b.1).map Prod.snd) c.gpuCount
      (fun q hq => by
        obtain ⟨h, hh, rfl⟩ := List.mem_map.1 hq
        exact host_ne_nil ((List.mem_insertionSort _).1 hh)) hp.length_eq.le
    rw [hp.length_eq, Nat.min_eq_left hlen] at hsize
    rw [if_pos hsize]
    exact ⟨_, rfl⟩

/-! ## One group at a time -/

/-- The candidates of one group. -/
def groupCards (p : Plant) (candidates : List GPUDevice) (group : Option String) : List GPUDevice :=
  candidates.filter fun g => p.groupOf g = group

theorem mem_groupCards {group : Option String} :
    g ∈ groupCards p candidates group ↔ g ∈ candidates ∧ p.groupOf g = group := by
  unfold groupCards
  rw [List.mem_filter, decide_eq_true_eq]

theorem groupCards_ids (hc : (candidates.map GPUDevice.id).Nodup) (group : Option String) :
    ((groupCards p candidates group).map GPUDevice.id).Nodup :=
  hc.sublist (List.filter_sublist.map _)

theorem groupCards_nodup (hn : candidates.Nodup) (group : Option String) :
    (groupCards p candidates group).Nodup := hn.filter _

/-- A best selection is kept until a better one comes. -/
theorem foldl_betterSelection_some (l : List (List GPUDevice × PartitionScore))
    (x : List GPUDevice × PartitionScore) : ∃ y, l.foldl betterSelection (some x) = some y := by
  induction l generalizing x with
  | nil => exact ⟨x, rfl⟩
  | cons z l ih =>
    have hnext : ∃ w, betterSelection (some x) z = some w := by
      unfold betterSelection
      simp only
      split
      · exact ⟨z, rfl⟩
      · exact ⟨x, rfl⟩
    obtain ⟨w, hw⟩ := hnext
    rw [List.foldl_cons, hw]
    exact ih w

/-- The selection is made from the candidates of one group. -/
theorem selectInGroupPartitions_group (h : p.selectInGroupPartitions candidates c = some sel) :
    ∃ group, selectResources (groupCards p candidates group) c = some sel := by
  unfold Plant.selectInGroupPartitions at h
  obtain ⟨x, hx, rfl⟩ := Option.map_eq_some_iff.1 h
  rcases foldl_betterSelection _ _ hx with hn | hm
  · cases hn
  · obtain ⟨group, -, hs⟩ := List.mem_filterMap.1 hm
    obtain ⟨s, hsel, rfl⟩ := Option.map_eq_some_iff.1 hs
    exact ⟨group, hsel⟩

/-- A group that makes a selection has candidates. -/
theorem group_of_selected {group : Option String} (hv : c.Valid)
    (h : selectResources (groupCards p candidates group) c = some sel) :
    group ∈ (candidates.map p.groupOf).dedup := by
  obtain ⟨hlen, hmem⟩ := selectResources_spec hv h
  have hpos : 0 < sel.length := by
    have hcount := hv.gpuCount
    omega
  obtain ⟨g, hg⟩ := List.exists_mem_of_length_pos hpos
  obtain ⟨hgc, hgroup⟩ := mem_groupCards.1 (hmem g hg)
  rw [List.mem_dedup, ← hgroup]
  exact List.mem_map_of_mem hgc

/-- A group that can be served makes a selection. -/
theorem selectInGroupPartitions_some {group : Option String} (hv : c.Valid)
    (h : selectResources (groupCards p candidates group) c = some sel) :
    ∃ s, p.selectInGroupPartitions candidates c = some s := by
  have hin := group_of_selected hv h
  unfold Plant.selectInGroupPartitions
  simp only
  cases hscored : (candidates.map p.groupOf).dedup.filterMap (fun group =>
      (selectResources (candidates.filter fun g => p.groupOf g = group) c).map fun selected =>
        (selected, partitionScore group (candidates.filter fun g => p.groupOf g = group)
          selected)) with
  | nil =>
    have hnone := List.filterMap_eq_nil_iff.1 hscored group hin
    unfold groupCards at h
    rw [h] at hnone
    cases hnone
  | cons x rest =>
    obtain ⟨y, hy⟩ := foldl_betterSelection_some rest x
    exact ⟨y.1, by rw [List.foldl_cons]; exact congrArg (Option.map Prod.fst) hy⟩

/-- Candidates are distinct cards. -/
theorem eligible_ids {cfg : Config} {now : Time} {b : Broker}
    (hn : (b.plant.gpus.map GPUDevice.id).Nodup) (reclaimable : Bool) :
    ((b.eligibleGpus cfg now c reclaimable).map GPUDevice.id).Nodup := by
  have hsorted : ((b.plant.gpus.insertionSort gpuOrder).map GPUDevice.id).Nodup :=
    ((List.perm_insertionSort gpuOrder b.plant.gpus).map _).nodup_iff.2 hn
  exact hsorted.sublist (List.filter_sublist.map _)

/-- What is selected are distinct cards. -/
theorem selected_ids (hc : (candidates.map GPUDevice.id).Nodup) (hv : c.Valid)
    (hsel : p.selectInGroupPartitions candidates c = some sel) : (sel.map GPUDevice.id).Nodup := by
  obtain ⟨group, hg⟩ := selectInGroupPartitions_group hsel
  have hserves := selectResources_serves (groupCards_ids hc group) hv hg
  exact hserves.distinct.map_on fun g hgm g' hgm' he =>
    List.inj_on_of_nodup_map hc (mem_groupCards.1 (hserves.candidates g hgm)).1
      (mem_groupCards.1 (hserves.candidates g' hgm')).1 he

/-- **When something is selected**: some group serves the request. -/
theorem selectInGroupPartitions_some_iff (hc : (candidates.map GPUDevice.id).Nodup) (hv : c.Valid) :
    (∃ sel, p.selectInGroupPartitions candidates c = some sel) ↔
      ∃ group s, Serves (groupCards p candidates group) c s := by
  constructor
  · rintro ⟨sel, hsel⟩
    obtain ⟨group, hg⟩ := selectInGroupPartitions_group hsel
    exact ⟨group, sel, selectResources_serves (groupCards_ids hc group) hv hg⟩
  · rintro ⟨group, s, hs⟩
    have hn : candidates.Nodup := List.Nodup.of_map _ hc
    obtain ⟨sel, hsel⟩ := hs.selected (groupCards_nodup hn group) hv
    exact selectInGroupPartitions_some hv hsel

/-! ## The request as a whole -/

/-- The order of the cards does not matter to the shape they are in. -/
theorem HostShape.perm {s s' : List GPUDevice} (hp : s.Perm s') (h : HostShape c s) :
    HostShape c s' := by
  have hnames := hp.map GPUDevice.endpointId
  refine ⟨fun hone g hg g' hg' => ?_, fun k hk => ?_⟩
  · exact h.oneHost hone g (hp.mem_iff.2 hg) g' (hp.mem_iff.2 hg')
  · obtain ⟨hnodes, hblocks⟩ := h.blocks k hk
    refine ⟨?_, fun g hg => ?_⟩
    · rw [← hnames.dedup.length_eq]
      exact hnodes
    · rw [← hnames.count_eq]
      exact hblocks g (hp.mem_iff.2 hg)

theorem mem_namedCards : g ∈ namedCards candidates c ↔ g ∈ candidates ∧ g.id ∈ c.gpuIds := by
  unfold namedCards
  rw [List.mem_filter, decide_eq_true_eq]

/-- What serves an exact request are the cards it names. -/
theorem named_perm {s : List GPUDevice} (hc : (candidates.map GPUDevice.id).Nodup) (hn : s.Nodup)
    (hs : ∀ g ∈ s, g ∈ candidates) (hids : ∀ id, id ∈ s.map GPUDevice.id ↔ id ∈ c.gpuIds) :
    s.Perm (namedCards candidates c) := by
  have hnamed : (namedCards candidates c).Nodup := (List.Nodup.of_map _ hc).filter _
  refine (List.perm_ext_iff_of_nodup hn hnamed).2 fun g => ?_
  rw [mem_namedCards]
  constructor
  · intro hg
    exact ⟨hs g hg, (hids g.id).1 (List.mem_map_of_mem hg)⟩
  · rintro ⟨hg, hid⟩
    obtain ⟨g', hg', he⟩ := List.mem_map.1 ((hids g.id).2 hid)
    rwa [← List.inj_on_of_nodup_map hc (hs g' hg') hg he]

/-- The cards an exact request names, all of them candidates of one group, serve it. -/
theorem named_serves (hc : (candidates.map GPUDevice.id).Nodup) (hv : c.Valid)
    (hexact : c.placement = .exact) (hids : ∀ id ∈ c.gpuIds, id ∈ candidates.map GPUDevice.id)
    (hone : ∀ g ∈ namedCards candidates c, ∀ g' ∈ namedCards candidates c,
      p.groupOf g = p.groupOf g') :
    ∃ group, Serves (groupCards p candidates group) c (namedCards candidates c) := by
  have hn : candidates.Nodup := List.Nodup.of_map _ hc
  have hmem : ∀ id, id ∈ (namedCards candidates c).map GPUDevice.id ↔ id ∈ c.gpuIds := by
    intro id
    constructor
    · intro hid
      obtain ⟨g, hg, rfl⟩ := List.mem_map.1 hid
      exact (mem_namedCards.1 hg).2
    · intro hid
      obtain ⟨g, hg, rfl⟩ := List.mem_map.1 (hids id hid)
      exact List.mem_map_of_mem (mem_namedCards.2 ⟨hg, hid⟩)
  have hcount : (namedCards candidates c).length = c.gpuCount := by
    have hp := (List.perm_ext_iff_of_nodup (hc.sublist (List.filter_sublist.map GPUDevice.id))
      (hv.lists c.gpuIds (by simp)).1).2 hmem
    rw [← hv.gpuIds (hv.exact hexact), ← hp.length_eq]
    exact (List.length_map _).symm
  have hpos : 0 < (namedCards candidates c).length := by
    have hbound := hv.gpuCount
    omega
  obtain ⟨g, hg⟩ := List.exists_mem_of_length_pos hpos
  exact ⟨p.groupOf g, hn.filter _,
    fun g' hg' => mem_groupCards.2 ⟨(mem_namedCards.1 hg').1, hone g' hg' g hg⟩, hcount,
    fun _ => hmem, fun h => absurd hexact h⟩

/-- What a group serves in the shape asked for is a placement. -/
theorem Serves.feasible {group : Option String} {s : List GPUDevice}
    (hc : (candidates.map GPUDevice.id).Nodup) (hs : Serves (groupCards p candidates group) c s)
    (hshape : c.placement = .exact → HostShape c s) : Feasible p candidates c s where
  distinct := hs.distinct.map_on fun g hg g' hg' he =>
    List.inj_on_of_nodup_map hc (mem_groupCards.1 (hs.candidates g hg)).1
      (mem_groupCards.1 (hs.candidates g' hg')).1 he
  candidates := fun g hg => (mem_groupCards.1 (hs.candidates g hg)).1
  count := hs.count
  oneGroup := fun g hg g' hg' => (mem_groupCards.1 (hs.candidates g hg)).2.trans
    (mem_groupCards.1 (hs.candidates g' hg')).2.symm
  shape := by
    by_cases hexact : c.placement = .exact
    · exact hshape hexact
    · exact hs.shape hexact
  exact := hs.exact

/-- A placement is served by the group it is in. -/
theorem Feasible.serves {s : List GPUDevice} (hs : Feasible p candidates c s) (hv : c.Valid) :
    ∃ group, Serves (groupCards p candidates group) c s := by
  have hpos : 0 < s.length := by
    have hcount := hs.count
    have hbound := hv.gpuCount
    omega
  obtain ⟨g, hg⟩ := List.exists_mem_of_length_pos hpos
  exact ⟨p.groupOf g, List.Nodup.of_map _ hs.distinct,
    fun g' hg' => mem_groupCards.2 ⟨hs.candidates g' hg', hs.oneGroup g' hg' g hg⟩, hs.count,
    hs.exact, fun _ => hs.shape⟩

/-- **When the selection is right**: unless an exact request names cards of one group in another
shape than its own. -/
theorem placement_iff (hc : (candidates.map GPUDevice.id).Nodup) (hv : c.Valid) :
    PlacedRightly p candidates c ↔ NamedInShape p candidates c := by
  constructor
  · rintro ⟨-, hright⟩ hexact hids hone
    obtain ⟨group, hserves⟩ := named_serves hc hv hexact hids hone
    obtain ⟨sel, hsel⟩ := (selectInGroupPartitions_some_iff hc hv).2 ⟨group, _, hserves⟩
    have hfeasible := hright sel hsel
    have hp := named_perm hc (List.Nodup.of_map _ hfeasible.distinct) hfeasible.candidates
      (hfeasible.exact hexact)
    exact hfeasible.shape.perm hp
  · intro hnamed
    have hright : ∀ sel, p.selectInGroupPartitions candidates c = some sel →
        Feasible p candidates c sel := by
      intro sel hsel
      obtain ⟨group, hg⟩ := selectInGroupPartitions_group hsel
      have hserves := selectResources_serves (groupCards_ids hc group) hv hg
      refine hserves.feasible hc fun hexact => ?_
      have hids := hserves.exact hexact
      have hmem : ∀ g ∈ sel, g ∈ candidates :=
        fun g hg => (mem_groupCards.1 (hserves.candidates g hg)).1
      have hp := named_perm hc hserves.distinct hmem hids
      refine (hnamed hexact (fun id hid => ?_) fun g hg g' hg' => ?_).perm hp.symm
      · obtain ⟨g, hg, rfl⟩ := List.mem_map.1 ((hids id).2 hid)
        exact List.mem_map_of_mem (hmem g hg)
      · have hgroup := mem_groupCards.1 (hserves.candidates g (hp.mem_iff.2 hg))
        have hgroup' := mem_groupCards.1 (hserves.candidates g' (hp.mem_iff.2 hg'))
        exact hgroup.2.trans hgroup'.2.symm
    refine ⟨⟨fun h => ?_, fun h => ?_⟩, hright⟩
    · obtain ⟨sel, hsel⟩ := h
      exact ⟨sel, hright sel hsel⟩
    · obtain ⟨s, hs⟩ := h
      obtain ⟨group, hserves⟩ := hs.serves hv
      exact (selectInGroupPartitions_some_iff hc hv).2 ⟨group, s, hserves⟩

/-! ## Two servers -/

/-- A card of the small fleet. -/
def cardOn (endpointId uuid : String) (index : ℕ) : GPUDevice :=
  { id := endpointId ++ ":" ++ uuid, endpointId, nodeId := "default", gpuUuid := uuid
    gpuIndex := index, cudaOrdinal := some index, name := "GPU", totalVramMib := 80000
    health := "OK", present := true, firstSeenAt := 0, lastSeenAt := 0 }

/-- Two cards on `alpha` and one on `beta`. -/
def threeCards : List GPUDevice :=
  [cardOn "alpha" "GPU-0" 0, cardOn "alpha" "GPU-1" 1, cardOn "beta" "GPU-2" 0]

/-- Both cards of `alpha`, asked for by name and on one host. -/
def namedPair (gpuIds : List String) : ResourceConstraints :=
  { gpuCount := 2, sameHost := true, placement := .exact, gpuIds }

theorem namedPair_placed :
    PlacedRightly sampleFleet.plant threeCards (namedPair ["alpha:GPU-0", "alpha:GPU-1"]) :=
  (placement_iff (by decide) (by decide)).2 fun _ _ _ => by decide

/-- **Two cards of two hosts**, named in a request for one host, are selected. -/
theorem namedApart_misplaced : ¬ ∀ p candidates c, (candidates.map GPUDevice.id).Nodup →
    c.Valid → PlacedRightly p candidates c := by
  intro h
  have hsel : sampleFleet.plant.selectInGroupPartitions threeCards
      (namedPair ["alpha:GPU-0", "beta:GPU-2"]) =
        some [cardOn "alpha" "GPU-0" 0, cardOn "beta" "GPU-2" 0] := by
    decide +kernel
  have hshape := ((h sampleFleet.plant threeCards (namedPair ["alpha:GPU-0", "beta:GPU-2"])
    (by decide) (by decide)).2 _ hsel).shape
  have hone := hshape.oneHost rfl (cardOn "alpha" "GPU-0" 0) (by simp)
    (cardOn "beta" "GPU-2" 0) (by simp)
  exact absurd hone (by decide)

end ServerPilot
