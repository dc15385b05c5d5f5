import Mathlib.Logic.Function.Basic

/-!
# Remembered answers

A computation that may fail is asked by a key and a stamp. Its last success for a key is
remembered with the stamp, and given again for the same stamp; failures are not remembered.
`Right` is the invariant: what is remembered is what would be computed.
-/

namespace Memo

variable {κ φ α ε : Type*} [DecidableEq κ] [DecidableEq φ]

/-- The last success for each key. -/
abbrev Cache (κ φ α : Type*) := κ → Option (φ × α)

/-- Compute, and remember a success. -/
def compute (f : κ → φ → Except ε α) (k : κ) (s : φ) (cache : Cache κ φ α) :
    Except ε α × Cache κ φ α :=
  match f k s with
  | .ok a => (.ok a, Function.update cache k (some (s, a)))
  | .error e => (.error e, cache)

/-- The remembered answer if its stamp is this one, or a new one. -/
def ask (f : κ → φ → Except ε α) (k : κ) (s : φ) (cache : Cache κ φ α) :
    Except ε α × Cache κ φ α :=
  match cache k with
  | some (stamp, a) => if stamp = s then (.ok a, cache) else compute f k s cache
  | none => compute f k s cache

/-- What is remembered is what would be computed. -/
def Right (f : κ → φ → Except ε α) (cache : Cache κ φ α) : Prop :=
  ∀ k s a, cache k = some (s, a) → f k s = .ok a

variable {f : κ → φ → Except ε α} {k : κ} {s : φ} {cache : Cache κ φ α}

omit [DecidableEq κ] [DecidableEq φ] in
theorem right_empty : Right f fun _ => none := by
  intro k s a h
  cases h

omit [DecidableEq φ] in
theorem compute_right (h : Right f cache) : Right f (compute f k s cache).2 := by
  unfold compute
  cases hf : f k s with
  | error e => exact h
  | ok a =>
    intro k' s' a' hk'
    simp only at hk'
    by_cases hkk : k' = k
    · subst hkk
      rw [Function.update_self] at hk'
      cases hk'
      exact hf
    · rw [Function.update_of_ne hkk] at hk'
      exact h k' s' a' hk'

omit [DecidableEq φ] in
theorem compute_fst : (compute f k s cache).1 = f k s := by
  unfold compute
  cases f k s with
  | error e => rfl
  | ok a => rfl

/-- A remembered answer is the answer. -/
theorem ask_fst (h : Right f cache) : (ask f k s cache).1 = f k s := by
  unfold ask
  cases hk : cache k with
  | none => exact compute_fst
  | some entry =>
    obtain ⟨stamp, a⟩ := entry
    by_cases hs : stamp = s
    · subst hs
      simp only [if_pos]
      exact (h k stamp a hk).symm
    · simp only [if_neg hs]
      exact compute_fst

theorem ask_right (h : Right f cache) : Right f (ask f k s cache).2 := by
  unfold ask
  cases cache k with
  | none => exact compute_right h
  | some entry =>
    obtain ⟨stamp, a⟩ := entry
    by_cases hs : stamp = s
    · simp only [if_pos hs]
      exact h
    · simp only [if_neg hs]
      exact compute_right h

end Memo
