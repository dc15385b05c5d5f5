import Mathlib.Data.List.Basic

/-!
# Unbroken stretches of a log

A log is kept newest entry first. `Stretch P R log oldest older` says that it opens
with entries that all satisfy `P`, each related by `R` to the one before it, that
`oldest` is the first of them in time, and that `older` is what was logged before.
-/

namespace Span

variable {α : Type*} {P Q : α → Prop} {R S : α → α → Prop} {log older : List α} {a oldest : α}

inductive Stretch (P : α → Prop) (R : α → α → Prop) : List α → α → List α → Prop
  | start {a : α} {older : List α} : P a → Stretch P R (a :: older) a older
  | extend {a b oldest : α} {log older : List α} :
      P a → R a b → Stretch P R (b :: log) oldest older → Stretch P R (a :: b :: log) oldest older

namespace Stretch

/-- A stretch of stronger entries, more closely related, is a stretch. -/
theorem imp (hP : ∀ a, P a → Q a) (hR : ∀ a b, R a b → S a b) (h : Stretch P R log oldest older) :
    Stretch Q S log oldest older := by
  induction h with
  | start ha => exact .start (hP _ ha)
  | extend ha hab _ ih => exact .extend (hP _ ha) (hR _ _ hab) ih

/-- There is a newest entry, and it satisfies the condition. -/
theorem newest (h : Stretch P R log oldest older) : ∃ b rest, log = b :: rest ∧ P b := by
  cases h with
  | start ha => exact ⟨_, _, rfl, ha⟩
  | extend ha _ _ => exact ⟨_, _, rfl, ha⟩

/-- What was logged before a stretch is logged. -/
theorem mem_of_mem_older (h : Stretch P R log oldest older) (ha : a ∈ older) : a ∈ log := by
  induction h with
  | start _ => exact List.mem_cons_of_mem _ ha
  | extend _ _ _ ih => exact List.mem_cons_of_mem _ (ih ha)

/-- The next entry prolongs a stretch when it is related to the newest one. -/
theorem cons (hold : Stretch P R log oldest older) (ha : P a)
    (hnext : ∀ b ∈ log.head?, R a b) : Stretch P R (a :: log) oldest older := by
  obtain ⟨b, rest, rfl, -⟩ := hold.newest
  exact .extend ha (hnext b rfl) hold

/-- A stretch that cannot reach further back is the only one of its kind. -/
theorem unique {oldest' : α} {older' : List α} (h : Stretch P R log oldest older)
    (h' : Stretch P S log oldest' older') (hend : ∀ b ∈ older.head?, ¬ P b)
    (hend' : ∀ b ∈ older'.head?, ¬ P b) : oldest = oldest' ∧ older = older' := by
  induction h with
  | start ha =>
    cases h' with
    | start _ => exact ⟨rfl, rfl⟩
    | extend _ _ hrest =>
      obtain ⟨b, rest, heq, hb⟩ := hrest.newest
      cases heq
      exact absurd hb (hend _ rfl)
  | extend ha hab hrest ih =>
    cases h' with
    | start _ =>
      obtain ⟨b, rest, heq, hb⟩ := hrest.newest
      cases heq
      exact absurd hb (hend' _ rfl)
    | extend _ _ hrest' => exact ih hrest' hend

end Stretch

end Span
