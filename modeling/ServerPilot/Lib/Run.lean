import Mathlib.Data.List.Basic
import Mathlib.Logic.Relation

/-!
# Runs of a deterministic system

A system is a step function `σ → ι → σ`; a run feeds it a list of inputs. `Along`
says that a condition on the state before each step and its input holds all the
way; `run_inv` is the induction every invariant goes through.
-/

namespace Run

variable {σ ι : Type*} (step : σ → ι → σ)

/-- The state after the inputs `is`. -/
def run (s : σ) (is : List ι) : σ := is.foldl step s

/-- `P` holds of every state a run passes and the input it meets there. -/
def Along (P : σ → ι → Prop) : σ → List ι → Prop
  | _, [] => True
  | s, i :: is => P s i ∧ Along P (step s i) is

instance Along.decidable (P : σ → ι → Prop) [∀ s i, Decidable (P s i)] :
    ∀ (s : σ) (is : List ι), Decidable (Along step P s is)
  | _, [] => isTrue trivial
  | s, i :: is =>
    have := Along.decidable P (step s i) is
    inferInstanceAs (Decidable (P s i ∧ Along step P (step s i) is))

variable {step}

@[simp] theorem run_nil (s : σ) : run step s [] = s := rfl

@[simp] theorem run_cons (s : σ) (i : ι) (is : List ι) :
    run step s (i :: is) = run step (step s i) is := rfl

theorem run_append (s : σ) (is js : List ι) :
    run step s (is ++ js) = run step (run step s is) js := by
  simp [run]

theorem run_concat (s : σ) (is : List ι) (i : ι) :
    run step s (is ++ [i]) = step (run step s is) i := by
  simp [run]

theorem along_append {P : σ → ι → Prop} {s : σ} {is js : List ι} :
    Along step P s (is ++ js) ↔ Along step P s is ∧ Along step P (run step s is) js := by
  induction is generalizing s with
  | nil => simp [Along]
  | cons i is ih => simp only [List.cons_append, Along, run_cons, ih, and_assoc]

/-- **Invariants.** What holds at the start and is kept by every step meeting `P` holds at the
end of every run along which `P` holds. -/
theorem run_inv {P : σ → ι → Prop} {I : σ → Prop} (hstep : ∀ s i, I s → P s i → I (step s i))
    {s : σ} {is : List ι} (h0 : I s) (ha : Along step P s is) : I (run step s is) := by
  induction is generalizing s with
  | nil => exact h0
  | cons i is ih => exact ih (hstep s i h0 ha.1) ha.2

/-- The unconditional form. -/
theorem run_inv' {I : σ → Prop} (hstep : ∀ s i, I s → I (step s i)) {s : σ} {is : List ι}
    (h0 : I s) : I (run step s is) := by
  induction is generalizing s with
  | nil => exact h0
  | cons i is ih => exact ih (hstep s i h0)

/-- A fold keeps what each of its steps keeps. -/
theorem foldl_inv {α : Type*} {f : σ → α → σ} {I : σ → Prop} {l : List α} {s : σ}
    (hstep : ∀ s, ∀ a ∈ l, I s → I (f s a)) (h0 : I s) : I (l.foldl f s) := by
  induction l generalizing s with
  | nil => exact h0
  | cons a l ih =>
    exact ih (fun s a' ha' hs => hstep s a' (List.mem_cons_of_mem a ha') hs)
      (hstep s a List.mem_cons_self h0)

end Run
