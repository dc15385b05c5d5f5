import Mathlib.Data.Prod.Lex
import Mathlib.Data.String.Basic
import ServerPilot.Proof.Placement

/-!
# The allocator does not fragment the fleet

A selection on one host is on the tightest host that could serve the request alone,
and packing over several hosts uses as few as any placement does. Each group's
selection is the best of its group (`bestFit_tight`, `largestFirst_fewest`), and the
score compares the groups by what was minimised in them.

Spreading does not look for the tightest host: it begins with the least endpoint id.
It serves the request on one host only if it has one host to begin with or one card to
place (`SpreadAlone`), and then the selection is the tightest only where such a host
is (`unfragmented_iff`).
-/

namespace ServerPilot

open Rows Checked Choice

variable {candidates sel : List GPUDevice} {c : ResourceConstraints} {p : Plant}
  {h : String × List GPUDevice} {g : GPUDevice} {e e' e'' : String}

/-- The hosts a selection uses. -/
def hostsUsed (sel : List GPUDevice) : List String := (sel.map GPUDevice.endpointId).dedup

/-- A host that can serve the whole request alone. -/
def ServesAlone (candidates : List GPUDevice) (c : ResourceConstraints) (e : String) : Prop :=
  ∃ s, Serves candidates c s ∧ ∀ g ∈ s, g.endpointId = e

/-- Fewer candidates, or as many and the smaller id. -/
def Tighter (candidates : List GPUDevice) (e e' : String) : Prop :=
  hostCount candidates e < hostCount candidates e' ∨
    (hostCount candidates e = hostCount candidates e' ∧ e ≤ e')

/-- A selection on one host is on the tightest of the hosts that can serve the request alone. -/
def OnTightest (p : Plant) (candidates : List GPUDevice) (c : ResourceConstraints) : Prop :=
  ∀ sel e, p.selectInGroupPartitions candidates c = some sel → hostsUsed sel = [e] →
    ∀ e', ServesAlone candidates c e' → Tighter candidates e e'

/-- A selection packed over several hosts uses no more of them than any placement. -/
def OnFewest (p : Plant) (candidates : List GPUDevice) (c : ResourceConstraints) : Prop :=
  c.placement = .pack → c.gpusPerNode = none → ∀ sel,
    p.selectInGroupPartitions candidates c = some sel → 1 < (hostsUsed sel).length →
      ∀ s, Feasible p candidates c s → (hostsUsed sel).length ≤ (hostsUsed s).length

/-- The selection leaves the fleet in one piece. -/
def Unfragmented (p : Plant) (candidates : List GPUDevice) (c : ResourceConstraints) : Prop :=
  OnTightest p candidates c ∧ OnFewest p candidates c

/-- Spreading over hosts, with nothing said about their shape. -/
def PlainSpread (c : ResourceConstraints) : Prop :=
  c.placement = .spread ∧ c.sameHost = false ∧ c.gpusPerNode = none

/-- The server group of an endpoint. -/
def Plant.hostGroup (p : Plant) (endpointId : String) : Option String :=
  (p.endpoint? endpointId).bind Endpoint.serverGroupId

/-- A host that spreading over its group serves alone: it has room, and is the only host there is,
or the first in the order of ids when one card is asked for. -/
def SpreadAlone (p : Plant) (candidates : List GPUDevice) (c : ResourceConstraints) (e : String) :
    Prop :=
  c.gpuCount ≤ hostCount candidates e ∧ ∀ g ∈ candidates, p.groupOf g = p.hostGroup e →
    g.endpointId = e ∨ (c.gpuCount = 1 ∧ e ≤ g.endpointId)

/-- Where spreading serves the request on one host, it does so on the tightest with room. -/
def SpreadFits (p : Plant) (candidates : List GPUDevice) (c : ResourceConstraints) : Prop :=
  PlainSpread c → (∃ e, SpreadAlone p candidates c e) →
    ∃ e, SpreadAlone p candidates c e ∧
      ∀ e', c.gpuCount ≤ hostCount candidates e' → Tighter candidates e e'

/-! ## Tighter hosts -/

theorem Tighter.trans (h : Tighter candidates e e') (h' : Tighter candidates e' e'') :
    Tighter candidates e e'' :=
  lex_trans (hostCount candidates) id e e' e'' h h'

/-- Cards of one host, at least one of them. -/
theorem hostsUsed_eq (hne : sel ≠ []) (h : ∀ g ∈ sel, g.endpointId = e) : hostsUsed sel = [e] := by
  have hnames : sel.map GPUDevice.endpointId = List.replicate sel.length e := by
    refine List.eq_replicate_iff.2 ⟨List.length_map _, fun x hx => ?_⟩
    obtain ⟨g, hg, rfl⟩ := List.mem_map.1 hx
    exact h g hg
  unfold hostsUsed
  rw [hnames]
  exact List.replicate_dedup (List.length_pos_of_ne_nil hne).ne'

/-- One host used: every card is on it. -/
theorem endpoint_of_hostsUsed (h : hostsUsed sel = [e]) : ∀ g ∈ sel, g.endpointId = e := by
  intro g hg
  have hm : g.endpointId ∈ hostsUsed sel := List.mem_dedup.2 (List.mem_map_of_mem hg)
  rw [h] at hm
  exact List.mem_singleton.1 hm

/-- Names among some others are no more than those. -/
theorem hostsUsed_le {names : List String} (h : ∀ g ∈ sel, g.endpointId ∈ names) :
    (hostsUsed sel).length ≤ names.length := by
  refine (List.Nodup.subperm (List.nodup_dedup _) fun e he => ?_).length_le
  obtain ⟨g, hg, rfl⟩ := List.mem_map.1 (List.mem_dedup.1 he)
  exact h g hg

/-- Cards that serve a request alone leave room for it on their host. -/
theorem room_of_alone (h : ServesAlone candidates c e) : c.gpuCount ≤ hostCount candidates e := by
  obtain ⟨s, hs, he⟩ := h
  have hcount : (s.map GPUDevice.endpointId).count e = s.length := by
    rw [← List.length_map (f := GPUDevice.endpointId), List.count_eq_length]
    intro x hx
    obtain ⟨g, hg, rfl⟩ := List.mem_map.1 hx
    exact (he g hg).symm
  rw [← hs.count, ← hcount]
  exact count_le_hostCount hs.distinct hs.candidates e

/-- A host with room has some of its candidates. -/
theorem host_of_room {n : ℕ} (hn : 1 ≤ n) (h : n ≤ hostCount candidates e) :
    ∃ x ∈ (byEndpoint candidates).filter (fun h => n ≤ h.2.length), x.1 = e := by
  have hpos : 0 < (candidates.filter fun g => g.endpointId = e).length := by
    unfold hostCount at h
    omega
  obtain ⟨g, hg⟩ := List.exists_mem_of_length_pos hpos
  obtain ⟨hm, he⟩ := List.mem_filter.1 hg
  obtain ⟨x, hx, hname⟩ := exists_host hm
  have hname : x.1 = e := hname.trans (of_decide_eq_true he)
  refine ⟨x, List.mem_filter.2 ⟨hx, decide_eq_true ?_⟩, hname⟩
  rw [length_host hx, hname]
  exact h

/-! ## The best of one group -/

/-- Best fit begins with a host no other is tighter than. -/
theorem head_bestFit {hosts : List (String × List GPUDevice)}
    (hh : (bestFit hosts).head? = some h) :
    ∀ x ∈ hosts, h.2.length < x.2.length ∨ (h.2.length = x.2.length ∧ h.1 ≤ x.1) := by
  exact head_insertionSort
    (lex_total (fun x : String × List GPUDevice => x.2.length) Prod.fst)
    (lex_trans (fun x : String × List GPUDevice => x.2.length) Prod.fst) hh

/-- **Best fit takes the tightest host** of those with room. -/
theorem bestFit_tight {n : ℕ} (hn : 1 ≤ n)
    (hh : (bestFit ((byEndpoint candidates).filter fun h => n ≤ h.2.length)).head? = some h)
    (he : n ≤ hostCount candidates e) : Tighter candidates h.1 e := by
  obtain ⟨x, hx, rfl⟩ := host_of_room hn he
  have hle := head_bestFit hh x hx
  have hmem := (fits_of_head (List.mem_of_mem_head? hh)).2
  rw [length_host hmem, length_host (List.mem_filter.1 hx).1] at hle
  exact hle

/-- A request for one host, or packed, goes to the best fit if there is one. -/
theorem selectResources_bestFit (hexact : c.placement ≠ .exact) (hspread : ¬ PlainSpread c)
    (hv : c.Valid) (hnodes : c.nodes = 1)
    (hh : (bestFit ((byEndpoint candidates).filter fun h => c.gpuCount ≤ h.2.length)).head? =
      some h) :
    selectResources candidates c = some (h.2.take c.gpuCount) := by
  obtain ⟨hroom, hmem⟩ := fits_of_head (List.mem_of_mem_head? hh)
  have hlen : h.2.length ≤ candidates.length := by
    rw [length_host hmem]
    exact List.length_filter_le _ _
  unfold selectResources
  rw [if_neg (by omega), if_neg hexact]
  simp only
  cases hfit : bestFit ((byEndpoint candidates).filter fun h => c.gpuCount ≤ h.2.length) with
  | nil =>
    rw [hfit] at hh
    cases hh
  | cons x rest =>
    rw [hfit] at hh
    cases hh
    split
    · rename_i k hk
      have hsize := hv.topology k hk
      rw [hnodes, Nat.mul_one] at hsize
      subst hsize
      simp only [hfit, hnodes, List.length_cons, List.take_succ_cons, List.take_zero,
        List.flatMap_cons, List.flatMap_nil, List.append_nil, List.length_take]
      rw [if_neg (by omega), if_pos (Nat.min_eq_left hroom)]
    rename_i hk
    split
    · rfl
    rename_i hone
    rw [Bool.not_eq_true] at hone
    cases hplace : c.placement with
    | exact => exact absurd hplace hexact
    | spread => exact absurd ⟨hplace, hone, hk⟩ hspread
    | pack => simp

/-- **A host that can serve the request alone** leaves its group's selection on a tighter one. -/
theorem tightest_of_alone (hexact : c.placement ≠ .exact) (hspread : ¬ PlainSpread c) (hv : c.Valid)
    (he : ServesAlone candidates c e) : ∃ sel e₀, selectResources candidates c = some sel ∧
      hostsUsed sel = [e₀] ∧ Tighter candidates e₀ e := by
  have hroom := room_of_alone he
  have hpos := hv.gpuCount.1
  obtain ⟨s, hs, hone⟩ := he
  have hne : s ≠ [] := by
    rintro rfl
    have hzero := hs.count
    rw [List.length_nil] at hzero
    omega
  have hnodes : c.nodes = 1 := by
    cases hk : c.gpusPerNode with
    | none =>
      by_contra hmany
      have hsome := hv.explicitNodes (by have := hv.nodes; omega)
      rw [hk] at hsome
      cases hsome
    | some k =>
      have hused := ((hs.shape hexact).blocks k hk).1
      have hsingle := hostsUsed_eq hne hone
      unfold hostsUsed at hsingle
      rw [hsingle] at hused
      exact hused.symm
  obtain ⟨x, hx, -⟩ := host_of_room hpos hroom
  obtain ⟨h, hh⟩ := head?_of_mem (mem_bestFit.2 hx)
  obtain ⟨hfits, hmem⟩ := fits_of_head (List.mem_of_mem_head? hh)
  refine ⟨_, h.1, selectResources_bestFit hexact hspread hv hnodes hh, hostsUsed_eq ?_ ?_,
    bestFit_tight hpos hh hroom⟩
  · refine List.ne_nil_of_length_pos ?_
    rw [List.length_take]
    omega
  · exact fun g hg => ((mem_host hmem).1 (List.mem_of_mem_take hg)).2

/-! ## Spanning -/

/-- Cards are on the hosts they use. -/
theorem length_eq_sum_count (sel : List GPUDevice) :
    sel.length = ((hostsUsed sel).map fun e => (sel.map GPUDevice.endpointId).count e).sum := by
  unfold hostsUsed
  rw [List.sum_map_count_dedup_eq_length, List.length_map]

/-- The hosts, the largest block first. -/
theorem pairwise_largestFirst (hosts : List (String × List GPUDevice)) :
    ((largestFirst hosts).map fun h => h.2.length).Pairwise (· ≥ ·) := by
  rw [List.pairwise_map]
  refine (sorted
    (lex_total (fun x : String × List GPUDevice => OrderDual.toDual x.2.length) Prod.fst)
    (lex_trans (fun x : String × List GPUDevice => OrderDual.toDual x.2.length) Prod.fst)
    hosts).imp fun {a b} hab => ?_
  rcases hab with hlt | ⟨heq, -⟩
  · exact le_of_lt hlt
  · exact le_of_eq heq.symm

/-- **Packing from the largest block on** uses as few hosts as any as many cards do. -/
theorem largestFirst_fewest {s : List GPUDevice} (hn : s.Nodup) (hs : ∀ g ∈ s, g ∈ candidates) :
    (hostsUsed (((largestFirst (byEndpoint candidates)).flatMap Prod.snd).take s.length)).length ≤
      (hostsUsed s).length := by
  have hp : (largestFirst (byEndpoint candidates)).Perm (byEndpoint candidates) :=
    List.perm_insertionSort _ _
  have hsizes : (largestFirst (byEndpoint candidates)).map (fun h => h.2.length) =
      ((largestFirst (byEndpoint candidates)).map Prod.fst).map (hostCount candidates) := by
    rw [List.map_map]
    exact List.map_congr_left fun h hh => length_host (hp.mem_iff.1 hh)
  -- what `s` takes of each of its hosts is there to take
  have hroom : s.length ≤ ((hostsUsed s).map (hostCount candidates)).sum := by
    rw [length_eq_sum_count s]
    exact List.sum_le_sum fun e _ => count_le_hostCount hn hs e
  have hsub : ((hostsUsed s).map (hostCount candidates)).Subperm
      ((largestFirst (byEndpoint candidates)).map fun h => h.2.length) := by
    have hhosts : (hostsUsed s).Subperm ((largestFirst (byEndpoint candidates)).map Prod.fst) := by
      refine (List.nodup_dedup _).subperm fun e he => ?_
      obtain ⟨g, hg, rfl⟩ := List.mem_map.1 (List.mem_dedup.1 he)
      obtain ⟨h, hh, hname⟩ := exists_host (hs g hg)
      exact List.mem_map.2 ⟨h, hp.mem_iff.2 hh, hname⟩
    obtain ⟨l, hl, hsl⟩ := hhosts
    rw [hsizes]
    exact ⟨l.map _, hl.map _, hsl.map _⟩
  have hle := hroom.trans (sum_le_sum_take (pairwise_largestFirst _) hsub)
  rw [List.length_map] at hle
  have htake := take_flatMap hle
  rw [htake]
  have hnames : (((largestFirst (byEndpoint candidates)).take (hostsUsed s).length).map
      Prod.fst).length ≤ (hostsUsed s).length := by
    rw [List.length_map, List.length_take]
    exact Nat.min_le_left _ _
  refine (hostsUsed_le fun g hg => ?_).trans hnames
  obtain ⟨h, hh, hgh⟩ := List.mem_flatMap.1 (List.mem_of_mem_take hg)
  have hmem := hp.mem_iff.1 (List.mem_of_mem_take hh)
  rw [((mem_host hmem).1 hgh).2]
  exact List.mem_map_of_mem hh

/-! ## Spreading -/

/-- The hosts in the order spreading visits them. -/
def byName (candidates : List GPUDevice) : List (String × List GPUDevice) :=
  (byEndpoint candidates).insertionSort fun a b => a.1 ≤ b.1

theorem byName_perm (candidates : List GPUDevice) :
    (byName candidates).Perm (byEndpoint candidates) := List.perm_insertionSort _ _

/-- The first round takes a card of each queue in turn. -/
theorem heads_spreadRounds (fuel : ℕ) {queues : List (List GPUDevice)} {need : ℕ}
    (hne : ∀ q ∈ queues, q ≠ []) {q : List GPUDevice} (hq : q ∈ queues.take need) :
    ∃ g ∈ spreadRounds (fuel + 1) queues need, g ∈ q := by
  have hgo : ¬ (queues = [] ∨ need = 0) := by
    rintro (rfl | rfl)
    · simp at hq
    · simp at hq
  unfold spreadRounds
  rw [if_neg hgo]
  have hsome : ∀ q ∈ queues, (List.head? q).isSome = true := by
    intro q hq
    cases q with
    | nil => exact absurd rfl (hne _ hq)
    | cons a q => rfl
  obtain ⟨g, hg⟩ := Option.isSome_iff_exists.1 (hsome q (List.mem_of_mem_take hq))
  refine ⟨g, List.mem_append_left _ ?_, List.mem_of_mem_head? hg⟩
  rw [take_filterMap hsome]
  exact List.mem_filterMap.2 ⟨q, hq, hg⟩

/-- A plain spread takes a card of each of its first hosts. -/
theorem spread_first (hplain : PlainSpread c) (hv : c.Valid)
    (hsel : selectResources candidates c = some sel) :
    ∀ x ∈ (byName candidates).take c.gpuCount, ∃ g ∈ sel, g.endpointId = x.1 := by
  obtain ⟨hplace, hone, hk⟩ := hplain
  intro x hx
  have hpos := hv.gpuCount.1
  unfold selectResources at hsel
  split at hsel
  · cases hsel
  rename_i hlen
  have hexact : ¬ c.placement = .exact := by
    intro hexact
    rw [hplace] at hexact
    cases hexact
  rw [if_neg hexact] at hsel
  simp only [hk, hone, hplace] at hsel
  split at hsel
  · rename_i h
    cases h
  split at hsel
  · rename_i h
    cases h
  split at hsel
  · cases hsel
    obtain ⟨fuel, hfuel⟩ : ∃ n, candidates.length = n + 1 := ⟨candidates.length - 1, by omega⟩
    rw [hfuel]
    have hne : ∀ q ∈ (byName candidates).map Prod.snd, q ≠ [] := by
      intro q hq
      obtain ⟨y, hy, rfl⟩ := List.mem_map.1 hq
      exact host_ne_nil ((byName_perm candidates).mem_iff.1 hy)
    have hxq : x.2 ∈ ((byName candidates).map Prod.snd).take c.gpuCount := by
      rw [← List.map_take]
      exact List.mem_map_of_mem hx
    obtain ⟨g, hg, hgx⟩ := heads_spreadRounds fuel hne hxq
    exact ⟨g, hg,
      ((mem_host ((byName_perm candidates).mem_iff.1 (List.mem_of_mem_take hx))).1 hgx).2⟩
  · cases hsel

/-- The first host spreading visits has the least id. -/
theorem byName_head {x : String × List GPUDevice} {rest : List (String × List GPUDevice)}
    (h : byName candidates = x :: rest) : ∀ g ∈ candidates, x.1 ≤ g.endpointId := by
  intro g hg
  obtain ⟨y, hy, hname⟩ := exists_host hg
  have hhead : (byName candidates).head? = some x := by
    rw [h]
    rfl
  have hle := head_insertionSort (fun a b : String × List GPUDevice => le_total a.1 b.1)
    (fun _ _ _ => le_trans) hhead y hy
  rwa [hname] at hle

/-- A spread that stayed on one host had no other host to go to, or only one card to place. -/
theorem spread_stays (hplain : PlainSpread c) (hv : c.Valid)
    (hsel : selectResources candidates c = some sel) (hused : hostsUsed sel = [e]) :
    ∀ g ∈ candidates, g.endpointId = e ∨ (c.gpuCount = 1 ∧ e ≤ g.endpointId) := by
  have hfirst := spread_first hplain hv hsel
  have hon := endpoint_of_hostsUsed hused
  have hpos := hv.gpuCount.1
  intro g hg
  obtain ⟨x, hx, hname⟩ := exists_host hg
  have hx := (byName_perm candidates).mem_iff.2 hx
  cases hhosts : byName candidates with
  | nil =>
    rw [hhosts] at hx
    cases hx
  | cons y rest =>
    have hleast := byName_head hhosts g hg
    obtain ⟨n, hn⟩ : ∃ n, c.gpuCount = n + 1 := ⟨c.gpuCount - 1, by omega⟩
    rw [hhosts, hn, List.take_succ_cons] at hfirst
    have hy : y.1 = e := by
      obtain ⟨g', hg', he⟩ := hfirst y List.mem_cons_self
      rw [← he]
      exact hon g' hg'
    rw [hy] at hleast
    cases n with
    | zero => exact Or.inr ⟨hn, hleast⟩
    | succ n =>
      -- a second host would have been visited too
      cases rest with
      | nil =>
        rw [hhosts] at hx
        obtain rfl := List.mem_singleton.1 hx
        exact Or.inl (hname.symm.trans hy)
      | cons z rest =>
        have hz : z.1 = e := by
          obtain ⟨g', hg', he⟩ := hfirst z
            (List.mem_cons_of_mem y (by rw [List.take_succ_cons]; exact List.mem_cons_self))
          rw [← he]
          exact hon g' hg'
        have hkeys := keys_nodup (byName_perm candidates).subperm
        rw [hhosts, List.map_cons, List.map_cons, hy, hz] at hkeys
        exact absurd List.mem_cons_self (List.nodup_cons.1 hkeys).1

/-- Room for a plain spread is all it takes. -/
theorem alone_of_room (hn : candidates.Nodup) (hplain : PlainSpread c)
    (h : c.gpuCount ≤ hostCount candidates e) : ServesAlone candidates c e := by
  obtain ⟨hplace, hone, hk⟩ := hplain
  refine ⟨(candidates.filter fun g => g.endpointId = e).take c.gpuCount, ?_, fun g hg => ?_⟩
  · refine ⟨(hn.filter _).sublist (List.take_sublist _ _),
      fun g hg => List.mem_of_mem_filter (List.mem_of_mem_take hg), ?_, fun hexact => ?_,
      fun _ => noShape hk hone⟩
    · rw [List.length_take]
      exact Nat.min_eq_left h
    · rw [hplace] at hexact
      cases hexact
  · exact of_decide_eq_true (List.mem_filter.1 (List.mem_of_mem_take hg)).2

/-- A host with no other to go to, or the first for one card: a spread stays on it. -/
theorem spread_alone (hn : candidates.Nodup) (hplain : PlainSpread c) (hv : c.Valid)
    (hroom : c.gpuCount ≤ hostCount candidates e)
    (hall : ∀ g ∈ candidates, g.endpointId = e ∨ (c.gpuCount = 1 ∧ e ≤ g.endpointId)) :
    ∃ sel, selectResources candidates c = some sel ∧ hostsUsed sel = [e] := by
  obtain ⟨s, hs, -⟩ := alone_of_room hn hplain hroom
  obtain ⟨sel, hsel⟩ := hs.selected hn hv
  obtain ⟨hlen, hmem⟩ := selectResources_spec hv hsel
  have hpos := hv.gpuCount.1
  have hne : sel ≠ [] := List.ne_nil_of_length_pos (by omega)
  refine ⟨sel, hsel, ?_⟩
  by_cases hmany : ∀ g ∈ candidates, g.endpointId = e
  · exact hostsUsed_eq hne fun g hg => hmany g (hmem g hg)
  -- another host: one card, and the first host is this one
  rw [not_forall] at hmany
  obtain ⟨g, hg⟩ := hmany
  rw [Classical.not_imp] at hg
  have hcount : c.gpuCount = 1 := ((hall g hg.1).resolve_left hg.2).1
  obtain ⟨x, hx, hname⟩ := host_of_room hpos hroom
  have hx := (byName_perm candidates).mem_iff.2 (List.mem_filter.1 hx).1
  cases hhosts : byName candidates with
  | nil =>
    rw [hhosts] at hx
    cases hx
  | cons y rest =>
    have hy :=
      (byName_perm candidates).mem_iff.1 (hhosts ▸ List.mem_cons_self : y ∈ byName candidates)
    obtain ⟨g', hg', he'⟩ := spread_first hplain hv hsel y
      (by rw [hhosts, hcount]; exact List.mem_cons_self)
    have hfirst : y.1 = e := by
      have hle : y.1 ≤ e := by
        obtain ⟨z, hz⟩ := List.exists_mem_of_ne_nil _
          (host_ne_nil ((byName_perm candidates).mem_iff.1 hx))
        obtain ⟨hzc, hze⟩ := (mem_host ((byName_perm candidates).mem_iff.1 hx)).1 hz
        have hleast := byName_head hhosts z hzc
        rwa [hze, hname] at hleast
      rcases hall g' (hmem g' hg') with heq | ⟨-, hge⟩
      · exact he'.symm.trans heq
      · exact le_antisymm hle (he' ▸ hge)
    obtain ⟨w, hw⟩ := List.length_eq_one_iff.1 (hlen.trans hcount)
    refine hostsUsed_eq hne fun z hz => ?_
    rw [hw] at hz hg'
    obtain rfl := List.mem_singleton.1 hz
    obtain rfl := List.mem_singleton.1 hg'
    exact he'.trans hfirst

/-! ## The best of the groups -/

/-- A score, in tuple order. -/
def PartitionScore.key (a : PartitionScore) : ℕ ×ₗ ℕ ×ₗ String ×ₗ String :=
  toLex (a.hosts, toLex (a.eligible, toLex (a.host, a.group)))

theorem PartitionScore.lt_iff (a b : PartitionScore) : a.lt b = true ↔ a.key < b.key := by
  unfold PartitionScore.lt PartitionScore.key
  rw [Prod.Lex.toLex_lt_toLex, Prod.Lex.toLex_lt_toLex, Prod.Lex.toLex_lt_toLex]
  by_cases hhosts : a.hosts = b.hosts
  · by_cases heligible : a.eligible = b.eligible
    · by_cases hhost : a.host = b.host
      · simp [hhosts, heligible, hhost]
      · simp [hhosts, heligible, hhost]
    · simp [hhosts, heligible]
  · simp [hhosts]

/-- A lower score uses no more hosts. -/
theorem hosts_le_of_key {a b : PartitionScore} (h : a.key ≤ b.key) : a.hosts ≤ b.hosts := by
  rcases Prod.Lex.toLex_le_toLex.1 h with hlt | ⟨heq, -⟩
  · exact hlt.le
  · exact heq.le

/-- Among scores of as many hosts, a lower one has the tighter host. -/
theorem host_le_of_key {a b : PartitionScore} (h : a.key ≤ b.key) (hhosts : a.hosts = b.hosts) :
    a.eligible < b.eligible ∨ (a.eligible = b.eligible ∧ a.host ≤ b.host) := by
  rcases Prod.Lex.toLex_le_toLex.1 h with hlt | ⟨-, hrest⟩
  · exact absurd hhosts hlt.ne
  rcases Prod.Lex.toLex_le_toLex.1 hrest with hlt | ⟨heq, hrest⟩
  · exact Or.inl hlt
  rcases Prod.Lex.toLex_le_toLex.1 hrest with hlt | ⟨hhost, -⟩
  · exact Or.inr ⟨heq, hlt.le⟩
  · exact Or.inr ⟨heq, hhost.le⟩

/-- The selection kept has the least score of those offered. -/
theorem foldl_betterSelection_least (l : List (List GPUDevice × PartitionScore))
    (best : Option (List GPUDevice × PartitionScore)) {x : List GPUDevice × PartitionScore}
    (h : l.foldl betterSelection best = some x) :
    (∀ y ∈ l, x.2.key ≤ y.2.key) ∧ ∀ y, best = some y → x.2.key ≤ y.2.key := by
  induction l generalizing best with
  | nil =>
    refine ⟨fun _ hm => absurd hm List.not_mem_nil, fun y hy => ?_⟩
    rw [List.foldl_nil, hy] at h
    cases h
    exact le_rfl
  | cons z l ih =>
    rw [List.foldl_cons] at h
    obtain ⟨hrest, hbest⟩ := ih _ h
    cases hb : best with
    | none =>
      have hz := hbest z (by rw [hb]; rfl)
      refine ⟨fun y hy => ?_, fun y hy => by cases hy⟩
      rcases List.mem_cons.1 hy with rfl | hy
      · exact hz
      · exact hrest y hy
    | some w =>
      by_cases hlt : z.2.lt w.2 = true
      · have hz := hbest z (by rw [hb]; unfold betterSelection; simp [hlt])
        have hzw := ((PartitionScore.lt_iff z.2 w.2).1 hlt).le
        refine ⟨fun y hy => ?_, fun y hy => ?_⟩
        · rcases List.mem_cons.1 hy with rfl | hy
          · exact hz
          · exact hrest y hy
        · cases hy
          exact hz.trans hzw
      · have hw := hbest w (by rw [hb]; unfold betterSelection; simp [hlt])
        have hwz := not_lt.1 (mt (PartitionScore.lt_iff z.2 w.2).2 hlt)
        refine ⟨fun y hy => ?_, fun y hy => ?_⟩
        · rcases List.mem_cons.1 hy with rfl | hy
          · exact hw.trans hwz
          · exact hrest y hy
        · cases hy
          exact hw

/-- **What is selected** is some group's selection, and no group's scores less. -/
theorem selected_least (hv : c.Valid) (h : p.selectInGroupPartitions candidates c = some sel) :
    ∃ group, selectResources (groupCards p candidates group) c = some sel ∧
      ∀ group' sel', selectResources (groupCards p candidates group') c = some sel' →
        (partitionScore group (groupCards p candidates group) sel).key ≤
          (partitionScore group' (groupCards p candidates group') sel').key := by
  unfold Plant.selectInGroupPartitions at h
  obtain ⟨x, hx, rfl⟩ := Option.map_eq_some_iff.1 h
  have hleast := (foldl_betterSelection_least _ _ hx).1
  rcases foldl_betterSelection _ _ hx with hn | hm
  · cases hn
  obtain ⟨group, -, hs⟩ := List.mem_filterMap.1 hm
  obtain ⟨s, hsel, rfl⟩ := Option.map_eq_some_iff.1 hs
  refine ⟨group, hsel, fun group' sel' hsel' => ?_⟩
  have hin := group_of_selected hv hsel'
  unfold groupCards at hsel' ⊢
  refine hleast (sel', partitionScore group' (candidates.filter fun g => p.groupOf g = group') sel')
    (List.mem_filterMap.2 ⟨group', hin, ?_⟩)
  simp only [hsel', Option.map_some]

/-- The score of a selection on one host. -/
theorem partitionScore_one (group : Option String) (gpus : List GPUDevice)
    (h : hostsUsed sel = [e]) : (partitionScore group gpus sel).hosts = 1 ∧
      (partitionScore group gpus sel).eligible = hostCount gpus e ∧
      (partitionScore group gpus sel).host = e := by
  unfold hostsUsed at h
  unfold partitionScore
  rw [h]
  exact ⟨rfl, rfl, rfl⟩

theorem partitionScore_hosts {group : Option String} {gpus : List GPUDevice} :
    (partitionScore group gpus sel).hosts = (hostsUsed sel).length := rfl

/-- A host's candidates are all in its group. -/
theorem hostCount_group : hostCount (groupCards p candidates (p.hostGroup e)) e =
    hostCount candidates e := by
  unfold hostCount groupCards
  rw [List.filter_filter]
  congr 1
  refine List.filter_congr fun g _ => ?_
  by_cases hg : g.endpointId = e
  · subst hg
    simp [Plant.hostGroup, Plant.groupOf]
  · simp [hg]

/-- A selection on one host was made in the host's group. -/
theorem group_of_hostsUsed {group : Option String} (hv : c.Valid)
    (hsel : selectResources (groupCards p candidates group) c = some sel)
    (hused : hostsUsed sel = [e]) : group = p.hostGroup e := by
  obtain ⟨hlen, hmem⟩ := selectResources_spec hv hsel
  have hpos : 0 < sel.length := by
    have hcount := hv.gpuCount
    omega
  obtain ⟨g, hg⟩ := List.exists_mem_of_length_pos hpos
  rw [← (mem_groupCards.1 (hmem g hg)).2, ← endpoint_of_hostsUsed hused g hg]
  rfl

/-- Some group's selection on one host: the one chosen is on one host too, and a tighter one. -/
theorem chosen_tighter (hv : c.Valid) (h : p.selectInGroupPartitions candidates c = some sel)
    {group : Option String} {s : List GPUDevice}
    (hs : selectResources (groupCards p candidates group) c = some s) (hused : hostsUsed s = [e]) :
    ∃ e₀, hostsUsed sel = [e₀] ∧ Tighter candidates e₀ e := by
  obtain ⟨own, hsel, hleast⟩ := selected_least hv h
  have hkey := hleast group s hs
  obtain ⟨hone, heligible, hhost⟩ :=
    partitionScore_one group (groupCards p candidates group) hused
  have hle := hosts_le_of_key hkey
  rw [partitionScore_hosts, hone] at hle
  have hpos : 0 < (hostsUsed sel).length := by
    have hlen := (selectResources_spec hv hsel).1
    have hcount := hv.gpuCount.1
    obtain ⟨g, hg⟩ := List.exists_mem_of_length_pos (l := sel) (by omega)
    exact List.length_pos_of_mem (List.mem_dedup.2 (List.mem_map_of_mem hg))
  obtain ⟨e₀, he₀⟩ := List.length_eq_one_iff.1 (by omega : (hostsUsed sel).length = 1)
  obtain ⟨hone₀, heligible₀, hhost₀⟩ := partitionScore_one own (groupCards p candidates own) he₀
  refine ⟨e₀, he₀, ?_⟩
  have htight := host_le_of_key hkey (hone₀.trans hone.symm)
  rw [heligible, hhost, heligible₀, hhost₀] at htight
  obtain rfl := group_of_hostsUsed hv hs hused
  obtain rfl := group_of_hostsUsed hv hsel he₀
  rw [hostCount_group, hostCount_group] at htight
  exact htight

/-! ## No fragments -/

/-- Cards that serve a request alone stand in one group. -/
theorem alone_in_group (p : Plant) (he : ServesAlone candidates c e) :
    ServesAlone (groupCards p candidates (p.hostGroup e)) c e := by
  obtain ⟨s, hs, hone⟩ := he
  refine ⟨s, ⟨hs.distinct, fun g hg => ?_, hs.count, hs.exact, hs.shape⟩, hone⟩
  refine mem_groupCards.2 ⟨hs.candidates g hg, ?_⟩
  rw [← hone g hg]
  rfl

/-- Everything but a plain spread goes to the tightest host. -/
theorem onTightest_of_not_spread (hv : c.Valid) (hexact : c.placement ≠ .exact)
    (hspread : ¬ PlainSpread c) : OnTightest p candidates c := by
  intro sel e hsel hused e' he'
  obtain ⟨s, e₁, hs, hone, htight⟩ :=
    tightest_of_alone hexact hspread hv (alone_in_group p he')
  obtain ⟨e₀, he₀, htight₀⟩ := chosen_tighter hv hsel hs hone
  rw [hused] at he₀
  obtain rfl : e = e₀ := by simpa using he₀
  obtain hgroup := group_of_hostsUsed hv hs hone
  have hcount₁ :
      hostCount (groupCards p candidates (p.hostGroup e')) e₁ = hostCount candidates e₁ := by
    rw [hgroup, hostCount_group]
  unfold Tighter at htight
  rw [hcount₁, hostCount_group] at htight
  exact htight₀.trans htight

/-- Packing spans as few hosts as it can. -/
theorem packs_fewest (hc : (candidates.map GPUDevice.id).Nodup) (hv : c.Valid)
    (hexact : c.placement ≠ .exact) : OnFewest p candidates c := by
  intro hpack hk sel hsel hmany s hs
  have hn : candidates.Nodup := List.Nodup.of_map _ hc
  have hplain : ¬ PlainSpread c := fun h => by
    have hplace := h.1
    rw [hpack] at hplace
    cases hplace
  obtain ⟨own, hown, hleast⟩ := selected_least hv hsel
  -- the group `s` is in
  obtain ⟨group, hserves⟩ := hs.serves hv
  have hfit : bestFit ((byEndpoint (groupCards p candidates group)).filter fun h =>
      c.gpuCount ≤ h.2.length) = [] := by
    rw [List.eq_nil_iff_forall_not_mem]
    intro x hx
    obtain ⟨h, hh⟩ := head?_of_mem hx
    obtain ⟨hroom, hmem⟩ := fits_of_head (List.mem_of_mem_head? hh)
    have hone := selectResources_bestFit hexact hplain hv
      (by
        by_contra hnodes
        have hsome := hv.explicitNodes (by have := hv.nodes; omega)
        rw [hk] at hsome
        cases hsome) hh
    have hused : hostsUsed (h.2.take c.gpuCount) = [h.1] := by
      refine hostsUsed_eq ?_ fun g hg => ((mem_host hmem).1 (List.mem_of_mem_take hg)).2
      refine List.ne_nil_of_length_pos ?_
      have hpos := hv.gpuCount.1
      rw [List.length_take]
      omega
    obtain ⟨e₀, he₀, -⟩ := chosen_tighter hv hsel hone hused
    rw [he₀] at hmany
    exact absurd hmany (by simp)
  obtain ⟨s', hs'⟩ := hserves.selected (groupCards_nodup hn group) hv
  have hle := hosts_le_of_key (hleast group s' hs')
  rw [partitionScore_hosts, partitionScore_hosts] at hle
  refine hle.trans ?_
  unfold selectResources at hs'
  split at hs'
  · cases hs'
  simp only [hk, hfit, List.head?_nil, Option.map_none] at hs'
  split at hs'
  · cases hs'
  · cases hs'
    rw [← hs.count]
    exact largestFirst_fewest hserves.distinct hserves.candidates

/-- A host spreading serves alone: its group's selection stays on it. -/
theorem SpreadAlone.selected (h : SpreadAlone p candidates c e) (hn : candidates.Nodup)
    (hplain : PlainSpread c) (hv : c.Valid) :
    ∃ sel, selectResources (groupCards p candidates (p.hostGroup e)) c = some sel ∧
      hostsUsed sel = [e] := by
  obtain ⟨hroom, hall⟩ := h
  refine spread_alone (groupCards_nodup hn _) hplain hv ?_ fun g hg => ?_
  · rw [hostCount_group]
    exact hroom
  · obtain ⟨hm, hgroup⟩ := mem_groupCards.1 hg
    exact hall g hm hgroup

/-- A spread that stayed on one host is served there alone. -/
theorem spreadAlone_of_used (hplain : PlainSpread c) (hv : c.Valid)
    (h : p.selectInGroupPartitions candidates c = some sel)
    (hc : (candidates.map GPUDevice.id).Nodup) (hused : hostsUsed sel = [e]) :
    SpreadAlone p candidates c e := by
  obtain ⟨group, hsel, -⟩ := selected_least hv h
  obtain rfl := group_of_hostsUsed hv hsel hused
  have hserves := selectResources_serves (groupCards_ids hc _) hv hsel
  have hroom := room_of_alone ⟨sel, hserves, endpoint_of_hostsUsed hused⟩
  rw [hostCount_group] at hroom
  exact ⟨hroom, fun g hg hgroup =>
    spread_stays hplain hv hsel hused g (mem_groupCards.2 ⟨hg, hgroup⟩)⟩

/-- **When the selection does not fragment the fleet**: unless spreading serves the request on one
host, and none it could do so on is the tightest with room. -/
theorem unfragmented_iff (hc : (candidates.map GPUDevice.id).Nodup) (hv : c.Valid)
    (hexact : c.placement ≠ .exact) : Unfragmented p candidates c ↔ SpreadFits p candidates c := by
  have hn : candidates.Nodup := List.Nodup.of_map _ hc
  constructor
  · rintro ⟨htightest, -⟩ hplain ⟨e, he⟩
    obtain ⟨s, hs, hused⟩ := he.selected hn hplain hv
    obtain ⟨sel, hsel⟩ := selectInGroupPartitions_some hv hs
    obtain ⟨e₀, he₀, -⟩ := chosen_tighter hv hsel hs hused
    refine ⟨e₀, spreadAlone_of_used hplain hv hsel hc he₀, fun e' hroom => ?_⟩
    exact htightest sel e₀ hsel he₀ e' (alone_of_room hn hplain hroom)
  · intro hfits
    refine ⟨?_, packs_fewest hc hv hexact⟩
    by_cases hplain : PlainSpread c
    · intro sel e hsel hused e' he'
      obtain ⟨e₀, he₀, htight⟩ := hfits hplain ⟨e, spreadAlone_of_used hplain hv hsel hc hused⟩
      obtain ⟨s, hs, hone⟩ := he₀.selected hn hplain hv
      obtain ⟨e₁, he₁, htight₁⟩ := chosen_tighter hv hsel hs hone
      rw [hused] at he₁
      obtain rfl : e = e₁ := by simpa using he₁
      exact htight₁.trans (htight e' (room_of_alone he'))
    · exact onTightest_of_not_spread hv hexact hplain

/-- Packing two cards on three. -/
theorem threeCards_unfragmented :
    Unfragmented sampleFleet.plant threeCards { gpuCount := 2 } :=
  (unfragmented_iff (by decide) (by decide) (by decide)).2 fun h => absurd h.1 (by decide)

/-- **One card, spread**: it is taken from `alpha` with its two, and `beta` has just one. -/
theorem spread_fragments : ¬ ∀ p candidates c, (candidates.map GPUDevice.id).Nodup → c.Valid →
    c.placement ≠ .exact → Unfragmented p candidates c := by
  intro h
  have hsel : sampleFleet.plant.selectInGroupPartitions threeCards
      { gpuCount := 1, placement := .spread } = some [cardOn "alpha" "GPU-0" 0] := by
    decide +kernel
  have hbeta : ServesAlone threeCards { gpuCount := 1, placement := .spread } "beta" := by
    refine ⟨[cardOn "beta" "GPU-2" 0], ⟨by decide, by decide, rfl, nofun, fun _ => ⟨nofun, nofun⟩⟩,
      ?_⟩
    intro g hg
    obtain rfl := List.mem_singleton.1 hg
    rfl
  have htight := (h sampleFleet.plant threeCards { gpuCount := 1, placement := .spread } (by decide)
    (by decide) (by decide)).1 _ "alpha" hsel (by decide) "beta" hbeta
  rcases htight with hlt | ⟨heq, -⟩
  · exact absurd hlt (by decide)
  · exact absurd heq (by decide)

end ServerPilot
