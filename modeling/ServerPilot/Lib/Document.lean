import Mathlib.Data.List.Nodup
import Mathlib.Data.Rat.Defs

/-!
# JSON values

What `json.loads` makes of a document: integers and floats apart, an object as the
list of its fields. An infinite float is what a literal too large for a double reads as.
-/

namespace ServerPilot

/-- A double, by its value. -/
inductive Double
  | finite (q : ℚ)
  | infinite (negative : Bool)
  | nan
  deriving DecidableEq

/-- A JSON value as `json.loads` gives it. -/
inductive Json
  | null
  | bool (b : Bool)
  | int (n : ℤ)
  | float (x : Double)
  | text (s : String)
  | list (items : List Json)
  | object (fields : List (String × Json))

/-- `value.get(key)`, of an object. -/
def Json.get? (value : Json) (key : String) : Option Json :=
  match value with
  | .object fields => fields.lookup key
  | _ => none

/-- Whether `value == n`: a float with that value is equal to it. -/
def Json.equalsInt (value : Json) (n : ℤ) : Bool :=
  match value with
  | .int m => m = n
  | .float (.finite q) => q = n
  | .bool b => (if b then 1 else 0) = n
  | _ => false

@[simp] theorem Json.get?_object (fields : List (String × Json)) (key : String) :
    (Json.object fields).get? key = fields.lookup key := rfl

/-! ## Fields -/

variable {α β : Type*} [DecidableEq α] {l l' : List (α × β)}

theorem lookup_cons_if (a b : α) (v : β) (l : List (α × β)) :
    ((b, v) :: l).lookup a = if a = b then some v else l.lookup a := by
  rw [List.lookup_cons]
  by_cases h : a = b
  · simp [h]
  · simp [beq_eq_false_iff_ne.2 h, h]

/-- The order of the fields does not matter to who looks one up. -/
theorem lookup_perm (hp : l.Perm l') (hl : (l.map Prod.fst).Nodup) (a : α) :
    l.lookup a = l'.lookup a := by
  induction hp with
  | nil => rfl
  | cons x _ ih =>
    obtain ⟨b, v⟩ := x
    rw [lookup_cons_if, lookup_cons_if, ih (List.nodup_cons.1 hl).2]
  | swap x y rest =>
    obtain ⟨b, v⟩ := x
    obtain ⟨b', v'⟩ := y
    have hne : b' ≠ b := fun h => (List.nodup_cons.1 hl).1 (by simp [h])
    simp only [lookup_cons_if]
    by_cases hb : a = b
    · subst hb
      rw [if_neg hne.symm, if_pos rfl, if_pos rfl]
    · rw [if_neg hb, if_neg hb]
  | trans h₁ _ ih₁ ih₂ =>
    exact (ih₁ hl).trans (ih₂ ((h₁.map Prod.fst).nodup_iff.1 hl))

/-- What a walk over some keys has put down for a key. -/
theorem lookup_filterMap_keys (f : α → Option β) (keys : List α) (a : α) :
    (keys.filterMap fun k => (f k).map (k, ·)).lookup a = if a ∈ keys then f a else none := by
  induction keys with
  | nil => rfl
  | cons k rest ih =>
    cases hk : f k with
    | none =>
      rw [List.filterMap_cons_none (by rw [hk]; rfl), ih]
      by_cases ha : a = k
      · subst ha
        simp [hk]
      · simp [ha]
    | some v =>
      rw [List.filterMap_cons_some (by rw [hk]; rfl), lookup_cons_if, ih]
      by_cases ha : a = k
      · subst ha
        simp [hk]
      · simp [ha]

omit [DecidableEq α] in
theorem keys_filterMap_keys (f : α → Option β) (keys : List α) :
    ((keys.filterMap fun k => (f k).map (k, ·)).map Prod.fst).Sublist keys := by
  induction keys with
  | nil => exact List.Sublist.refl _
  | cons k rest ih =>
    cases hk : f k with
    | none =>
      rw [List.filterMap_cons_none (by rw [hk]; rfl)]
      exact ih.cons _
    | some v =>
      rw [List.filterMap_cons_some (by rw [hk]; rfl)]
      exact ih.cons_cons _

end ServerPilot
