import Mathlib.Data.Fintype.Card

/-!
# The first free candidate

A loop walks candidate after candidate until it finds one that is not taken. Where the
candidates differ and finitely many are taken, it ends, at the latest after as many steps
as there are taken ones (`untilFree_ends`).
-/

namespace Numbering

variable {σ α : Type*} [DecidableEq α]

/-- Steps until the candidate of the state is not taken, `fuel` looks at most. -/
def untilFree (next : σ → σ) (candidate : σ → α) (taken : Finset α) : ℕ → σ → Option α
  | 0, _ => none
  | fuel + 1, s =>
    if candidate s ∈ taken then untilFree next candidate taken fuel (next s)
    else some (candidate s)

/-- One of the first `taken.card + 1` different candidates is free. -/
theorem exists_free {f : ℕ → α} (hf : Function.Injective f) (taken : Finset α) :
    ∃ k ≤ taken.card, f k ∉ taken := by
  by_contra hall
  push Not at hall
  have hsub : (Finset.range (taken.card + 1)).image f ⊆ taken := by
    intro a ha
    obtain ⟨k, hk, rfl⟩ := Finset.mem_image.1 ha
    exact hall k (Nat.lt_succ_iff.1 (Finset.mem_range.1 hk))
  have hcard := Finset.card_le_card hsub
  rw [Finset.card_image_of_injective _ hf, Finset.card_range] at hcard
  omega

variable {next : σ → σ} {candidate : σ → α} {taken : Finset α}

/-- Enough looks find the first free candidate. -/
theorem untilFree_eq {k : ℕ} : ∀ {s : σ}, candidate (next^[k] s) ∉ taken →
    (∀ j < k, candidate (next^[j] s) ∈ taken) →
    ∀ fuel, k < fuel → untilFree next candidate taken fuel s = some (candidate (next^[k] s)) := by
  induction k with
  | zero =>
    intro s hfree _ fuel hfuel
    obtain ⟨n, rfl⟩ : ∃ n, fuel = n + 1 := ⟨fuel - 1, by omega⟩
    exact if_neg hfree
  | succ k ih =>
    intro s hfree htaken fuel hfuel
    obtain ⟨n, rfl⟩ : ∃ n, fuel = n + 1 := ⟨fuel - 1, by omega⟩
    have hhere : candidate s ∈ taken := htaken 0 (by omega)
    have hrest : ∀ j < k, candidate (next^[j] (next s)) ∈ taken := by
      intro j hj
      exact htaken (j + 1) (by omega)
    exact (if_pos hhere).trans (ih hfree hrest n (by omega))

/-- The loop ends at a free candidate, and has passed at most `taken.card` of them. -/
theorem untilFree_ends (taken : Finset α) {s : σ}
    (hinj : Function.Injective fun k => candidate (next^[k] s)) :
    ∃ k ≤ taken.card, candidate (next^[k] s) ∉ taken ∧
      ∀ fuel, k < fuel →
        untilFree next candidate taken fuel s = some (candidate (next^[k] s)) := by
  have hex : ∃ k, candidate (next^[k] s) ∉ taken := by
    obtain ⟨k, _, hk⟩ := exists_free hinj taken
    exact ⟨k, hk⟩
  have hle : Nat.find hex ≤ taken.card := by
    obtain ⟨k, hk, hfree⟩ := exists_free hinj taken
    exact (Nat.find_min' hex hfree).trans hk
  have hbefore : ∀ j < Nat.find hex, candidate (next^[j] s) ∈ taken := by
    intro j hj
    exact not_not.1 (Nat.find_min hex hj)
  exact ⟨Nat.find hex, hle, Nat.find_spec hex, untilFree_eq (Nat.find_spec hex) hbefore⟩

end Numbering
