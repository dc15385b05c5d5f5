import ServerPilot.Proof.Folio

/-!
# Losing cards

The writes that take cards from leases, read as what happens to each holding:
`endLease` ends one, `settleCards` followed by an end when nothing is left takes
from one, and an idle reclaim is the second of these. `Fades` says of a whole
ledger that every holding is as it was, lost cards or ended.
-/

namespace ServerPilot

open Rows

/-- Every holding of `l` went on to `l'` as `R` says, and none appeared. -/
structure Each (R : Holding String String → Holding String String → Prop) (l l' : Ledger) :
    Prop where
  absent : ∀ id, l.holding? id = none → l'.holding? id = none
  related : ∀ id h, l.holding? id = some h → ∃ h', l'.holding? id = some h' ∧ R h h'

/-- Every holding is as it was, lost some cards or ended. -/
abbrev Fades := Each Holding.Shrinks

/-- Every holding is as it was, or ended. -/
abbrev Ends := Each Holding.Closes

section

variable {R Q : Holding String String → Holding String String → Prop} {l l' l'' : Ledger}

theorem Each.of_eq (hr : ∀ h, R h h) (h : ∀ id, l'.holding? id = l.holding? id) : Each R l l' :=
  ⟨fun id hn => (h id).trans hn, fun id x hx => ⟨x, (h id).trans hx, hr x⟩⟩

theorem Each.mono (hq : ∀ h h', R h h' → Q h h') (e : Each R l l') : Each Q l l' := by
  refine ⟨e.absent, fun id h hh => ?_⟩
  obtain ⟨h', hh', r⟩ := e.related id h hh
  exact ⟨h', hh', hq h h' r⟩

theorem Each.comp (ht : ∀ {h h' h''}, R h h' → R h' h'' → R h h'') (a : Each R l l')
    (b : Each R l' l'') : Each R l l'' := by
  refine ⟨fun id hn => b.absent id (a.absent id hn), fun id h hh => ?_⟩
  obtain ⟨h', hh', s⟩ := a.related id h hh
  obtain ⟨h'', hh'', s'⟩ := b.related id h' hh'
  exact ⟨h'', hh'', ht s s'⟩

/-- Only the holding `i` changed, and it became `φ` of what it was. -/
theorem Each.of_map {i : String} {φ : Holding String String → Holding String String}
    (hr : ∀ h, R h h) (hne : ∀ id, id ≠ i → l'.holding? id = l.holding? id)
    (hi : l'.holding? i = (l.holding? i).map φ)
    (hφ : ∀ h, l.holding? i = some h → R h (φ h)) : Each R l l' := by
  refine ⟨fun id hn => ?_, fun id h hh => ?_⟩
  · by_cases hid : id = i
    · subst hid
      rw [hi, hn]
      rfl
    · rw [hne id hid, hn]
  · by_cases hid : id = i
    · subst hid
      exact ⟨φ h, by rw [hi, hh]; rfl, hφ h hh⟩
    · exact ⟨h, by rw [hne id hid, hh], hr h⟩

theorem Ends.trans (a : Ends l l') (b : Ends l' l'') : Ends l l'' := a.comp Holding.Closes.trans b

theorem Ends.fades (a : Ends l l') : Fades l l' := a.mono fun _ _ => Holding.Closes.shrinks

theorem Fades.trans (a : Fades l l') (b : Fades l' l'') : Fades l l'' :=
  a.comp Holding.Shrinks.trans b

end

/-! ## Edits and ends -/

section

variable {l : Ledger} {id i : String}

theorem holding_of_lease {x : Lease} (hx : l.lease? id = some x) :
    l.holding? id = some (x.holding (l.folio id).cardSet (l.folio id).pledged) := by
  unfold Ledger.holding? Folio.holding?
  rw [folio_lease, hx]
  rfl

theorem lease_of_holding {h : Holding String String} (hh : l.holding? id = some h) :
    ∃ x, l.lease? id = some x ∧ h = x.holding (l.folio id).cardSet (l.folio id).pledged := by
  unfold Ledger.holding? Folio.holding? at hh
  obtain ⟨x, hx, rfl⟩ := Option.map_eq_some_iff.1 hh
  exact ⟨x, hx, rfl⟩

theorem holding_cards {h : Holding String String} (hh : l.holding? id = some h) :
    h.cards = (l.folio id).cardSet := by
  obtain ⟨x, -, rfl⟩ := lease_of_holding hh
  rfl

theorem holding_congr {l' : Ledger} (h : l'.folio id = l.folio id) :
    l'.holding? id = l.holding? id := by
  unfold Ledger.holding?
  rw [h]

/-- An edit of a lease row that reads as `φ` on holdings. -/
theorem holding_editLease_self {f : Lease → Lease}
    {φ : Holding String String → Holding String String} (hid : ∀ x, (f x).id = x.id)
    (hφ : ∀ x c p, (f x).holding c p = φ (x.holding c p)) :
    (l.editLease i f).holding? i = (l.holding? i).map φ := by
  unfold Ledger.holding?
  rw [folio_editLease l i i hid, if_pos rfl]
  unfold Folio.holding?
  simp only [folio_lease, Option.map_map]
  congr 1
  funext x
  exact hφ x _ _

theorem cards_dropAll (now : Time) :
    (l.editResources (fun r => r.leaseId = i ∧ r.active = true) (LeaseResource.dropped now)).cards
      i =
      [] := by
  unfold Ledger.editResources Ledger.cards
  rw [filter_updWhere_drop _ (by simp [LeaseResource.dropped]), List.filter_eq_nil_iff]
  intro r _
  simp

theorem cards_endLease (st : LeaseState) (reason : Option String) (now : Time) :
    (l.endLease i st reason now).cards i = [] :=
  cards_dropAll (l := l.editLease i (Lease.ended st reason now)) now

theorem folio_endLease_ne (st : LeaseState) (reason : Option String) (now : Time) (h : id ≠ i) :
    (l.endLease i st reason now).folio id = l.folio id := by
  unfold Ledger.endLease
  exact Eq.trans (folio_editResources_ne _ id i (fun _ => rfl) (by simp +contextual) h)
    (folio_editLease_ne l id i (fun _ => rfl) h)

theorem holding_endLease {st : LeaseState} (hst : st.live = false) (reason : Option String)
    (now : Time) : (l.endLease i st reason now).holding? i = (l.holding? i).map Holding.close := by
  have hc : ((l.endLease i st reason now).folio i).cardSet = ∅ := by
    unfold Folio.cardSet
    rw [folio_active, cards_endLease]
    rfl
  have hl :
      (l.endLease i st reason now).lease? i = (l.lease? i).map (Lease.ended st reason now) := by
    have h := lease?_editLease l i i (f := Lease.ended st reason now) fun _ => rfl
    rw [if_pos rfl] at h
    exact h
  unfold Ledger.holding? Folio.holding?
  rw [hc, folio_lease, folio_lease, hl, Option.map_map, Option.map_map]
  congr 1
  funext x
  simp only [Function.comp, Lease.holding, Lease.ended, Holding.close, Holding.stamp, hst,
    Option.isSome_some]
  rfl

theorem endLease_ends {s : LeaseState} (hst : s.live = false) (reason : Option String)
    (now : Time) : Ends l (l.endLease i s reason now) :=
  .of_map .refl (fun _ h => holding_congr (folio_endLease_ne s reason now h))
    (holding_endLease hst reason now) fun h _ => Or.inr h.close_ended

/-! ## Settling -/

theorem cards_settleCards (gpuIds : List String) (reason releasedBy : String) (now : Time) :
    (l.settleCards i gpuIds reason releasedBy now).cards i =
      (l.cards i).filter fun r => r.gpuId ∉ gpuIds := by
  unfold Ledger.settleCards Ledger.editLease Ledger.editResources Ledger.cards
  rw [filter_updWhere_drop _ (by simp [LeaseResource.settled]), List.filter_filter]
  apply List.filter_congr
  intro r _
  by_cases h₁ : r.leaseId = i <;> by_cases h₂ : r.active = true <;> by_cases h₃ : r.gpuId ∈
    gpuIds <;>
    simp [cardAmong, h₁, h₂, h₃]

theorem folio_settleCards_ne (gpuIds : List String) (reason releasedBy : String) (now : Time)
    (h : id ≠ i) : (l.settleCards i gpuIds reason releasedBy now).folio id = l.folio id := by
  unfold Ledger.settleCards
  exact Eq.trans (folio_editLease_ne _ id i (fun _ => rfl) h)
    (folio_editResources_ne l id i (fun _ => rfl) (by simp +contextual [cardAmong]) h)

theorem cardSet_settleCards (gpuIds : List String) (reason releasedBy : String) (now : Time) :
    ((l.settleCards i gpuIds reason releasedBy now).folio i).cardSet =
      (l.folio i).cardSet \ gpuIds.toFinset := by
  ext g
  rw [Finset.mem_sdiff, List.mem_toFinset, mem_cardSet, mem_cardSet, cards_settleCards]
  simp only [List.mem_filter, decide_eq_true_eq]
  constructor
  · rintro ⟨r, ⟨hr, hg⟩, rfl⟩
    exact ⟨⟨r, hr, rfl⟩, hg⟩
  · rintro ⟨⟨r, hr, rfl⟩, hg⟩
    exact ⟨r, ⟨hr, hg⟩, rfl⟩

/-- Settling cards drops them from the holding. -/
theorem holding_settleCards (gpuIds : List String) (reason releasedBy : String) (now : Time) :
    (l.settleCards i gpuIds reason releasedBy now).holding? i =
      (l.holding? i).map (Holding.drop gpuIds.toFinset) := by
  have hc := cardSet_settleCards (l := l) (i := i) gpuIds reason releasedBy now
  have hl : (l.settleCards i gpuIds reason releasedBy now).lease? i =
      (l.lease? i).map Lease.raised := by
    have h := lease?_editLease
      (l.editResources (cardAmong i gpuIds) (LeaseResource.settled reason releasedBy now)) i i
      (f := Lease.raised) fun _ => rfl
    rw [if_pos rfl] at h
    exact h
  unfold Ledger.holding? Folio.holding?
  rw [hc, folio_lease, folio_lease, hl, Option.map_map, Option.map_map]
  rfl

/-- A lease that ended by having all its cards settled. -/
theorem holding_ended {f : Lease → Lease} (hf : ∀ x c p, (f x).holding c p = (x.holding c p).stamp)
    (hid : ∀ x, (f x).id = x.id) (gpuIds : List String) (reason releasedBy : String) (now : Time) :
    ((l.settleCards i gpuIds reason releasedBy now).editLease i f).holding? i =
      (l.holding? i).map fun h => (h.drop gpuIds.toFinset).stamp := by
  rw [holding_editLease_self hid hf, holding_settleCards, Option.map_map]
  rfl

end

end ServerPilot
