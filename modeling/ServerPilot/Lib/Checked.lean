import Mathlib.Logic.Basic
import Mathlib.Data.List.Forall2

/-!
# Checked computations

A transaction is a chain of checks ending in a result: a value of `Except ε α`.
These are the two checks (`require` a condition, `need` a row) and the lemmas
that read an accepted chain backwards: every check on the way passed.
-/

namespace Checked

universe u v

variable {ε : Type v} {α β : Type u}

/-- Go on if `c`, fail with `e` otherwise. -/
def require (c : Prop) [Decidable c] (e : ε) : Except ε Unit :=
  if c then .ok () else .error e

/-- The value, or a failure with `e`. -/
def need (o : Option α) (e : ε) : Except ε α :=
  match o with
  | some a => .ok a
  | none => .error e

@[simp] theorem require_ok {c : Prop} [Decidable c] {e : ε} {u : Unit} :
    require c e = .ok u ↔ c := by
  unfold require
  split <;> simp_all

@[simp] theorem need_ok {o : Option α} {e : ε} {a : α} : need o e = .ok a ↔ o = some a := by
  cases o <;> simp [need]

@[simp] theorem bind_ok {x : Except ε α} {f : α → Except ε β} {b : β} :
    x >>= f = .ok b ↔ ∃ a, x = .ok a ∧ f a = .ok b := by
  cases x with
  | error e => simp [bind, Except.bind]
  | ok a => simp [bind, Except.bind]

@[simp] theorem pure_ok {a b : α} : (pure a : Except ε α) = .ok b ↔ a = b := by
  simp [pure, Except.pure]

@[simp] theorem throw_ok {e : ε} {b : α} : (throw e : Except ε α) = .ok b ↔ False := by
  simp [throw, throwThe, MonadExceptOf.throw]

/-! A chain run forwards: a check that passes is skipped, one that fails is the answer. -/

theorem require_bind_pos {β : Type} {c : Prop} [Decidable c] {e : ε} {f : Unit → Except ε β}
    (h : c) : (require c e >>= f) = f () := by
  unfold require
  rw [if_pos h]
  rfl

theorem require_bind_neg {β : Type} {c : Prop} [Decidable c] {e : ε} {f : Unit → Except ε β}
    (h : ¬ c) : (require c e >>= f) = .error e := by
  unfold require
  rw [if_neg h]
  rfl

theorem need_bind_some {o : Option α} {a : α} {e : ε} {f : α → Except ε β} (h : o = some a) :
    (need o e >>= f) = f a := by
  rw [h]
  rfl

theorem need_bind_none {o : Option α} {e : ε} {f : α → Except ε β} (h : o = none) :
    (need o e >>= f) = .error e := by
  rw [h]
  rfl

/-! A refused chain read backwards: one check on the way failed, and those before it passed. -/

theorem require_error {c : Prop} [Decidable c] {e e' : ε} :
    require c e = .error e' ↔ ¬ c ∧ e = e' := by
  unfold require
  by_cases h : c <;> simp [h]

theorem bind_error {x : Except ε α} {f : α → Except ε β} {e : ε} :
    x >>= f = .error e ↔ x = .error e ∨ ∃ a, x = .ok a ∧ f a = .error e := by
  cases x with
  | error e' => simp [bind, Except.bind]
  | ok a => simp [bind, Except.bind]

theorem pure_error {a : α} {e : ε} : (pure a : Except ε α) = .error e ↔ False := by
  simp [pure, Except.pure]

/-- A walk that gives each element its own answer. -/
theorem mapM_eq_map {f : α → Except ε β} {g : α → β} : ∀ {l : List α},
    l.mapM f = .ok (l.map g) ↔ ∀ a ∈ l, f a = .ok (g a)
  | [] => by simp [pure, Except.pure]
  | a :: l => by
    rw [List.mapM_cons, List.map_cons, List.forall_mem_cons, ← mapM_eq_map (l := l)]
    cases f a with
    | error e => simp [bind, Except.bind]
    | ok b => cases l.mapM f <;> simp [bind, Except.bind, pure, Except.pure]

/-- A walk over elements that are each accepted. -/
theorem mapM_total {f : α → Except ε β} {l : List α} (h : ∀ a ∈ l, ∃ b, f a = .ok b) :
    ∃ l', l.mapM f = .ok l' := by
  induction l with
  | nil => exact ⟨[], rfl⟩
  | cons a l ih =>
    obtain ⟨b, hb⟩ := h a List.mem_cons_self
    obtain ⟨l', hl'⟩ := ih fun a' ha' => h a' (List.mem_cons_of_mem _ ha')
    refine ⟨b :: l', ?_⟩
    simp only [List.mapM_cons, bind_ok, pure_ok]
    exact ⟨b, hb, l', hl', rfl⟩

/-- An accepted chain of checks accepted each of its elements. -/
theorem mapM_ok {f : α → Except ε β} {l : List α} {l' : List β} (h : l.mapM f = .ok l') :
    List.Forall₂ (fun a b => f a = .ok b) l l' := by
  induction l generalizing l' with
  | nil =>
    simp only [List.mapM_nil, pure_ok] at h
    subst h
    exact .nil
  | cons a l ih =>
    simp only [List.mapM_cons, bind_ok, pure_ok] at h
    obtain ⟨b, hb, bs, hbs, rfl⟩ := h
    exact .cons hb (ih hbs)

/-- The same of lookups that all succeed. -/
theorem mapM_some {f : α → Option β} {l : List α} {l' : List β} (h : l.mapM f = some l') :
    List.Forall₂ (fun a b => f a = some b) l l' := by
  induction l generalizing l' with
  | nil =>
    simp only [List.mapM_nil, pure, Option.some.injEq] at h
    subst h
    exact .nil
  | cons a l ih =>
    simp only [List.mapM_cons, bind, pure, Option.bind_eq_some_iff, Option.some.injEq] at h
    obtain ⟨b, hb, bs, hbs, rfl⟩ := h
    exact .cons hb (ih hbs)

/-- A list of lookups succeeds exactly when each of them does. -/
theorem mapM_some_iff {f : α → Option β} {l : List α} :
    (∃ l', l.mapM f = some l') ↔ ∀ a ∈ l, (f a).isSome = true := by
  induction l with
  | nil => simp
  | cons a l ih =>
    rw [List.forall_mem_cons, ← ih, Option.isSome_iff_exists]
    simp only [List.mapM_cons, bind, pure, Option.bind_eq_some_iff, Option.some.injEq]
    constructor
    · rintro ⟨-, b, hb, bs, hbs, -⟩
      exact ⟨⟨b, hb⟩, bs, hbs⟩
    · rintro ⟨⟨b, hb⟩, bs, hbs⟩
      exact ⟨b :: bs, b, hb, bs, hbs, rfl⟩

/-- In related lists, every element on the right has a partner on the left. -/
theorem exists_of_forall₂ {R : α → β → Prop} {l : List α} {l' : List β} (h : List.Forall₂ R l l')
    {b : β} (hb : b ∈ l') : ∃ a ∈ l, R a b := by
  induction h with
  | nil => cases hb
  | cons hab _ ih =>
    rcases List.mem_cons.1 hb with rfl | hb
    · exact ⟨_, List.mem_cons_self, hab⟩
    · obtain ⟨a, ha, he⟩ := ih hb
      exact ⟨a, List.mem_cons_of_mem _ ha, he⟩

/-- What an accepted chain of checks answers comes from its elements. -/
theorem mem_of_mapM_ok {f : α → Except ε β} {l : List α} {l' : List β} (h : l.mapM f = .ok l')
    {b : β} (hb : b ∈ l') : ∃ a ∈ l, f a = .ok b :=
  exists_of_forall₂ (mapM_ok h) hb

/-- Every element of an accepted chain of checks was answered. -/
theorem answer_of_mapM_ok {f : α → Except ε β} {l : List α} {l' : List β} (h : l.mapM f = .ok l')
    {a : α} (ha : a ∈ l) : ∃ b ∈ l', f a = .ok b :=
  exists_of_forall₂ (R := fun b a => f a = .ok b) (mapM_ok h).flip ha

/-- An accepted sequence of checks accepted each of them. -/
theorem forM_ok {f : α → Except ε PUnit} {l : List α} (h : l.forM f = .ok ⟨⟩) :
    ∀ a ∈ l, f a = .ok ⟨⟩ := by
  induction l with
  | nil => simp
  | cons a l ih =>
    rw [List.forM, bind_ok] at h
    obtain ⟨u, ha, h⟩ := h
    intro x hx
    rcases List.mem_cons.1 hx with rfl | hx
    · exact ha
    · exact ih h x hx

end Checked
