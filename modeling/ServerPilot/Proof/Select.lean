import Mathlib.Algebra.BigOperators.Group.List.Lemmas
import Mathlib.Data.List.Dedup
import ServerPilot.Spec.Op

/-!
# What the allocator selects

A selection is made of candidates and has exactly the size asked for, whatever
the placement: `selectInGroupPartitions_spec`.
-/

namespace ServerPilot

open Rows Checked

variable {candidates sel : List GPUDevice} {c : ResourceConstraints}

theorem mem_byEndpoint {h : String × List GPUDevice} (hh : h ∈ byEndpoint candidates)
    {g : GPUDevice} (hg : g ∈ h.2) : g ∈ candidates := by
  obtain ⟨e, -, rfl⟩ := List.mem_map.1 hh
  exact List.mem_of_mem_filter ((List.mem_insertionSort _).1 hg)

theorem nodup_byEndpoint (hn : candidates.Nodup) {h : String × List GPUDevice}
    (hh : h ∈ byEndpoint candidates) : h.2.Nodup := by
  obtain ⟨e, -, rfl⟩ := List.mem_map.1 hh
  exact (List.perm_insertionSort _ _).nodup_iff.2 (hn.filter _)

/-- The endpoints' cards, counted together, are the candidates. -/
theorem length_byEndpoint :
    ((byEndpoint candidates).map fun h => h.2.length).sum = candidates.length := by
  have hc : ∀ e, (candidates.filter fun g => g.endpointId = e).length =
      (candidates.map GPUDevice.endpointId).count e := by
    intro e
    rw [List.count_eq_countP, List.countP_map, List.countP_eq_length_filter]
    congr 1
  unfold byEndpoint
  rw [List.map_map]
  simp only [Function.comp_def, List.length_insertionSort, hc]
  rw [List.sum_map_count_dedup_eq_length, List.length_map]

theorem mem_bestFit {hosts : List (String × List GPUDevice)} {h : String × List GPUDevice} :
    h ∈ bestFit hosts ↔ h ∈ hosts := List.mem_insertionSort _

/-- Spanning from the largest block on uses every host's cards. -/
theorem length_largestFirst (hosts : List (String × List GPUDevice)) :
    ((largestFirst hosts).flatMap Prod.snd).length = (hosts.map fun h => h.2.length).sum := by
  rw [List.length_flatMap]
  exact ((List.perm_insertionSort _ hosts).map _).sum_eq

theorem spreadRounds_subset (fuel : ℕ) (queues : List (List GPUDevice)) (need : ℕ)
    {g : GPUDevice} (hg : g ∈ spreadRounds fuel queues need) : ∃ q ∈ queues, g ∈ q := by
  induction fuel generalizing queues need with
  | zero => simp [spreadRounds] at hg
  | succ fuel ih =>
    unfold spreadRounds at hg
    split at hg
    · simp at hg
    rcases List.mem_append.1 hg with hg | hg
    · obtain ⟨q, hq, hh⟩ := List.mem_filterMap.1 (List.mem_of_mem_take hg)
      exact ⟨q, hq, List.mem_of_mem_head? hh⟩
    · obtain ⟨t, ht, hgt⟩ := ih _ _ hg
      obtain ⟨q, hq, rfl⟩ := List.mem_map.1 (List.mem_of_mem_filter ht)
      exact ⟨q, hq, List.mem_of_mem_tail hgt⟩

/-- A host with room gives as many of its cards as are asked for. -/
theorem take_host {h : String × List GPUDevice} {n : ℕ} (hn : n ≤ h.2.length)
    (hh : h ∈ byEndpoint candidates) :
    (h.2.take n).length = n ∧ ∀ g ∈ h.2.take n, g ∈ candidates :=
  ⟨by simp [hn], fun _ hg => mem_byEndpoint hh (List.mem_of_mem_take hg)⟩

theorem fits_of_head {h : String × List GPUDevice} {n : ℕ}
    (hh : h ∈ bestFit ((byEndpoint candidates).filter fun h => n ≤ h.2.length)) :
    n ≤ h.2.length ∧ h ∈ byEndpoint candidates := by
  obtain ⟨hm, hn⟩ := List.mem_filter.1 (mem_bestFit.1 hh)
  exact ⟨by simpa using hn, hm⟩

/-- **A selection** has the size asked for, and only candidates in it. -/
theorem selectResources_spec (hv : c.Valid) (h : selectResources candidates c = some sel) :
    sel.length = c.gpuCount ∧ ∀ g ∈ sel, g ∈ candidates := by
  unfold selectResources at h
  split at h
  · cases h
  rename_i hlen
  split at h
  · -- exact placement: the listed cards, each a candidate
    rename_i he
    have hf := mapM_some h
    refine ⟨by rw [← hf.length_eq]; exact hv.gpuIds (hv.exact he), fun g hg => ?_⟩
    obtain ⟨i, hi, rfl⟩ := List.mem_iff_getElem.1 hg
    have hg := hf.get (i := i) (by rw [hf.length_eq]; exact hi) hi
    exact (row?_some hg).1
  simp only at h
  split at h
  · -- explicit topology: whole blocks of enough hosts
    rename_i n hn
    split at h
    · cases h
    split at h
    · rename_i hl
      cases h
      refine ⟨hl, fun g hg => ?_⟩
      obtain ⟨host, hh, hgh⟩ := List.mem_flatMap.1 hg
      exact mem_byEndpoint (fits_of_head (List.mem_of_mem_take hh)).2 (List.mem_of_mem_take hgh)
    · cases h
  split at h
  · -- one host
    obtain ⟨host, hh, rfl⟩ := Option.map_eq_some_iff.1 h
    obtain ⟨hn, hb⟩ := fits_of_head (List.mem_of_mem_head? hh)
    exact take_host hn hb
  split at h
  · -- packing: the tightest host that fits, else from the largest block on
    split at h
    · rename_i host rest hh
      cases h
      have hm : host ∈ bestFit ((byEndpoint candidates).filter fun h => c.gpuCount ≤ h.2.length) :=
        hh ▸ List.mem_cons_self
      obtain ⟨hn, hb⟩ := fits_of_head hm
      exact take_host hn hb
    · cases h
      refine ⟨?_, fun g hg => ?_⟩
      · rw [List.length_take, length_largestFirst, length_byEndpoint]
        omega
      · obtain ⟨host, hh, hgh⟩ := List.mem_flatMap.1 (List.mem_of_mem_take hg)
        exact mem_byEndpoint ((List.mem_insertionSort _).1 hh) hgh
  · -- spreading: rounds over the hosts
    split at h
    · rename_i hl
      cases h
      refine ⟨hl, fun g hg => ?_⟩
      obtain ⟨q, hq, hgq⟩ := spreadRounds_subset _ _ _ hg
      obtain ⟨host, hh, rfl⟩ := List.mem_map.1 hq
      exact mem_byEndpoint ((List.mem_insertionSort _).1 hh) hgq
    · cases h

/-- The best of some selections is one of them. -/
theorem foldl_betterSelection (l : List (List GPUDevice × PartitionScore))
    (best : Option (List GPUDevice × PartitionScore)) {x : List GPUDevice × PartitionScore}
    (h : l.foldl betterSelection best = some x) : best = some x ∨ x ∈ l := by
  induction l generalizing best with
  | nil => exact Or.inl h
  | cons y l ih =>
    rcases ih (betterSelection best y) h with hb | hm
    · unfold betterSelection at hb
      split at hb
      · cases hb
        exact Or.inr List.mem_cons_self
      · split at hb
        · cases hb
          exact Or.inr List.mem_cons_self
        · exact Or.inl hb
    · exact Or.inr (List.mem_cons_of_mem y hm)

/-- **What a claim gets**: as many cards as it asked for, all of them candidates. -/
theorem selectInGroupPartitions_spec {p : Plant} (hv : c.Valid)
    (h : p.selectInGroupPartitions candidates c = some sel) :
    sel.length = c.gpuCount ∧ ∀ g ∈ sel, g ∈ candidates := by
  unfold Plant.selectInGroupPartitions at h
  obtain ⟨x, hx, rfl⟩ := Option.map_eq_some_iff.1 h
  rcases foldl_betterSelection _ _ hx with hn | hm
  · cases hn
  · obtain ⟨group, -, hs⟩ := List.mem_filterMap.1 hm
    obtain ⟨s, hsel, rfl⟩ := Option.map_eq_some_iff.1 hs
    obtain ⟨hl, hc⟩ := selectResources_spec hv hsel
    exact ⟨hl, fun g hg => List.mem_of_mem_filter (hc g hg)⟩

/-- Nothing excludes a card exactly if no part of the filter does. -/
theorem exclusion_eq_none {cfg : Config} {now : Time} {b : Broker} {reclaimable : Bool}
    {g : GPUDevice} :
    b.exclusion cfg now c reclaimable g = none ↔
      g.present = true ∧ b.uuidLeasedElsewhere g = false ∧ g.cudaOrdinal ≠ none ∧
        ∃ e, b.plant.endpoint? g.endpointId = some e ∧ endpointExclusion c e = none ∧
          b.hostExclusion c e.id = none ∧ listExclusion c e g = none ∧
          b.stateExclusion cfg now c reclaimable g = none := by
  unfold Broker.exclusion
  cases hp : g.present with
  | false => simp
  | true =>
  cases hu : b.uuidLeasedElsewhere g with
  | true => simp
  | false =>
  cases ho : g.cudaOrdinal with
  | none => simp
  | some n =>
  cases he : b.plant.endpoint? g.endpointId with
  | none => simp
  | some e => simp [Option.orElse_eq_or]

/-- A candidate is a card no exclusion applies to. -/
theorem mem_eligibleGpus {cfg : Config} {now : Time} {b : Broker} {reclaimable : Bool}
    {g : GPUDevice} :
    g ∈ b.eligibleGpus cfg now c reclaimable ↔
      g ∈ b.plant.gpus ∧ b.exclusion cfg now c reclaimable g = none := by
  unfold Broker.eligibleGpus
  rw [List.mem_filter, List.mem_insertionSort, decide_eq_true_eq]

/-- The cards a claim gets are known, and nothing excludes them. -/
theorem selected_eligible {cfg : Config} {now : Time} {b : Broker} {reclaimable : Bool}
    (hv : c.Valid)
    (h : b.plant.selectInGroupPartitions (b.eligibleGpus cfg now c reclaimable) c = some sel) :
    sel.length = c.gpuCount ∧
      ∀ g ∈ sel, g ∈ b.plant.gpus ∧ b.exclusion cfg now c reclaimable g = none := by
  obtain ⟨hl, hs⟩ := selectInGroupPartitions_spec hv h
  exact ⟨hl, fun g hg => mem_eligibleGpus.1 (hs g hg)⟩

end ServerPilot
