import ServerPilot.Proof.Fleet

/-!
# Leases, cards and timestamps agree

The lease table, the card table and their timestamps tell one story in every
reachable state: `reachable_consistent`.
-/

namespace ServerPilot

open Rows

/-- A lease is over exactly when its release is dated; over, it has no active card; claimed card by
card and not over, it has one; and no card is active twice. -/
structure Consistent (l : Ledger) : Prop where
  dated : ∀ x ∈ l.leases, x.state.terminal = true ↔ x.releasedAt.isSome = true
  empty : ∀ x ∈ l.leases, x.state.terminal = true → ∀ r ∈ l.resources, r.leaseId = x.id →
    r.active = false
  held : ∀ x ∈ l.leases, x.delegated = false → x.state.live = true →
    ∃ r ∈ l.resources, r.leaseId = x.id ∧ r.active = true
  single : ∀ gpuId, (l.resources.filter fun r => r.gpuId = gpuId ∧ r.active = true).length ≤ 1

/-- Unique active cards, counted card by card. -/
theorem active_single {l : Ledger} (h : (l.activeResources.map LeaseResource.gpuId).Nodup)
    (gpuId : String) :
    (l.resources.filter fun r => r.gpuId = gpuId ∧ r.active = true).length ≤ 1 := by
  have hc := List.nodup_iff_count_le_one.1 h gpuId
  rw [List.count_eq_countP, List.countP_map, List.countP_eq_length_filter] at hc
  unfold Ledger.activeResources at hc
  rw [List.filter_filter] at hc
  refine le_trans (le_of_eq (congrArg List.length ?_)) hc
  apply List.filter_congr
  intro r _
  simp [Function.comp, beq_eq_decide]

/-- Sound holdings under the unique indexes are a consistent ledger. -/
theorem Kept.consistent {b : Broker} (hk : Kept b) : Consistent b.ledger := by
  have sound : ∀ x ∈ b.ledger.leases,
      (x.holding (b.ledger.folio x.id).cardSet (b.ledger.folio x.id).pledged).Sound := fun x hx =>
    hk.wellkept x.id _ (holding_of_lease (row?_of_mem hk.intact.leasePk hx))
  refine ⟨fun x hx => ?_, fun x hx ht r hr hid => ?_, fun x hx hd hl => ?_,
    active_single hk.intact.activeGpu⟩
  · have h : x.releasedAt.isSome = !x.state.live := (sound x hx).stamped
    rw [h, LeaseState.terminal_eq_not_live]
  · rw [LeaseState.terminal_eq_not_live, Bool.not_eq_true'] at ht
    have he : (b.ledger.folio x.id).cardSet = ∅ := (sound x hx).empty ht
    by_contra ha
    have hm : r.gpuId ∈ (b.ledger.folio x.id).cardSet :=
      mem_cardSet.2 ⟨r, mem_cards.2 ⟨hr, hid, by simpa using ha⟩, rfl⟩
    rw [he] at hm
    exact Finset.notMem_empty _ hm
  · have hne : (b.ledger.folio x.id).cardSet.Nonempty := (sound x hx).held hl (by
      show (!x.delegated) = true
      rw [hd]
      rfl)
    obtain ⟨g, hg⟩ := hne
    obtain ⟨r, hr, -⟩ := mem_cardSet.1 hg
    obtain ⟨hm, hid, ha⟩ := mem_cards.1 hr
    exact ⟨r, hm, hid, ha⟩

/-- **The ledger is consistent in every reachable state.** -/
theorem reachable_consistent {cfg : Config} {b : Broker} (h : Reachable cfg b) :
    Consistent b.ledger :=
  h.kept.consistent

/-- A run in which a card is seen, claimed and given back. -/
def claimAndRelease : List Op :=
  [.ingestObservation 0 (lookAtOne "alpha" "GPU-0" 0 []) sampleToken,
   .createRequest 0 (sampleActor "ann") oneCard none true "lease" (sampleToken "lease"),
   .releaseLease 0 (sampleActor "ann") "lease" "done" none false (sampleToken "lease")]

theorem claimAndRelease_consistent :
    (Run.run (exec plainConfig) sampleFleet claimAndRelease).ledger.leases.map Lease.state =
        [.released] ∧
      Consistent (Run.run (exec plainConfig) sampleFleet claimAndRelease).ledger :=
  ⟨by decide +kernel, reachable_consistent ⟨_, sampleFleet_seeded, claimAndRelease, rfl⟩⟩

end ServerPilot
