import Mathlib.Data.Option.Basic
import Mathlib.Data.Prod.Basic

/-!
# Programs that ask for messages

A program asks for a message, emits an event or ends; what it asks comes from a source, which may
have nothing yet. A source that another one refines, through a map of their states, gives every
program the same messages (`run_refines`).
-/

namespace Coroutine

variable {μ ε σ κ κ' : Type}

/-- What a program does next. -/
inductive Act (μ ε σ : Type)
  | receive (resume : μ → σ)
  | emit (event : ε) (next : σ)
  | done

/-- What a run shows. -/
inductive Mark (μ ε : Type)
  | received (message : μ)
  | emitted (event : ε)
  deriving DecidableEq, Repr

/-- Up to `n` steps of a program on a source; a program that waits stays where it is. -/
def run (act : σ → Act μ ε σ) (next : κ → Option (μ × κ)) : ℕ → σ → κ → List (Mark μ ε) × σ
  | 0, s, _ => ([], s)
  | n + 1, s, k =>
    match act s with
    | .done => ([], s)
    | .emit event s' =>
      let r := run act next n s' k
      (.emitted event :: r.1, r.2)
    | .receive resume =>
      match next k with
      | none => ([], s)
      | some (message, k') =>
        let r := run act next n (resume message) k'
        (.received message :: r.1, r.2)

/-- **A refined source gives every program the same run.** -/
theorem run_refines {next : κ → Option (μ × κ)} {next' : κ' → Option (μ × κ')} {abs : κ → κ'}
    (h : ∀ k, (next k).map (Prod.map id abs) = next' (abs k)) (act : σ → Act μ ε σ) (n : ℕ) :
    ∀ (s : σ) (k : κ), run act next n s k = run act next' n s (abs k) := by
  induction n with
  | zero => exact fun _ _ => rfl
  | succ n ih =>
    intro s k
    have hk := h k
    unfold run
    cases act s with
    | done => rfl
    | emit event s' =>
      dsimp only
      rw [ih s' k]
    | receive resume =>
      dsimp only
      rw [← hk]
      cases next k with
      | none => rfl
      | some x =>
        obtain ⟨message, k'⟩ := x
        dsimp only [Option.map_some, Prod.map_apply, id_eq]
        rw [ih (resume message) k']

end Coroutine
