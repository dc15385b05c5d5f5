import Mathlib.Logic.Relation
import ServerPilot.Lib.DurableFile

/-!
# Programs that share a directory

Several programs put a file under one name at the same time, each written under a temporary name of
its own. `Guarded` proves one of them by itself: what it knows of its file stands whatever the
others do. `Own.effect` says once what a call of one of them can do, and `crew_sound` what holds of
all of them together, in any order, whichever dies and whenever the power is lost.
-/

namespace DurableFile

variable {N C R : Type*}

/-- A disk, and which program put which file under a name, the latest first. -/
structure Traced (N C : Type*) where
  disk : Disk N C
  placed : List (ℕ × ℕ)

/-- A call of the program `j` is answered. -/
def Traced.after [DecidableEq N] (w : Traced N C) (d : N) (j : ℕ) (c : Call N C) (a : Answer)
    (disk : Disk N C) : Traced N C where
  disk := disk
  placed :=
    match c, a, disk.entry d with
    | .rename _ m, .ok, some i => if m = d then (j, i) :: w.placed else w.placed
    | _, _, _ => w.placed

/-- The calls of a program that puts a file under `d` by way of `t`. -/
inductive Own (d t : N) : Call N C → Prop
  | create : Own d t (.create t)
  | write (c : C) : Own d t (.write t c)
  | sync : Own d t (.sync t)
  | rename : Own d t (.rename t d)
  | unlink : Own d t (.unlink t)
  | syncNames : Own d t .syncNames

/-- The file was under the name at the start, or a program put it there. -/
def Public (first : List (Option ℕ)) (w : Traced N C) (e : Option ℕ) : Prop :=
  e ∈ first ∨ ∃ x ∈ w.placed, e = some x.2

/-- All that was ever under the name is on the disk, and nothing else is under it. -/
structure Kept (d : N) (first : List (Option ℕ)) (w : Traced N C) : Prop where
  whole : Whole (fun _ => True) d w.disk
  shown : ∀ e ∈ w.disk.onDisk d, Public first w e
  old : ∀ i, Public first w (some i) → i < w.disk.count ∧ (w.disk.files i).synced = true

/-- The file under `t` was never put in place. -/
def Private (t : N) (first : List (Option ℕ)) (w : Traced N C) : Prop :=
  ∀ i, w.disk.entry t = some i → ¬ Public first w (some i)

/-- The two names do not stand for one file. -/
def Apart (t u : N) (s : Disk N C) : Prop := ∀ i, s.entry t = some i → s.entry u ≠ some i

/-- What the others may do to the program of `t`. -/
structure Spares (d t : N) (w w' : Traced N C) : Prop where
  entry : w'.disk.entry t = w.disk.entry t
  file : ∀ i, w.disk.entry t = some i → w'.disk.files i = w.disk.files i
  grown : ∃ new, w'.placed = new ++ w.placed ∧
    (∀ e ∈ w'.disk.onDisk d, (∃ x ∈ new, e = some x.2) ∨ e ∈ w.disk.onDisk d) ∧
    ((∃ x ∈ new, w'.disk.entry d = some x.2) ∨ w'.disk.entry d = w.disk.entry d)

/-- What is shown was put in place by the program `j` or after it. -/
def Since (j : ℕ) (w : Traced N C) (shown : List (Option ℕ)) : Prop :=
  ∃ newer i older, w.placed = newer ++ (j, i) :: older ∧
    ∀ e ∈ shown, ∃ x ∈ newer ++ [(j, i)], e = some x.2

section

variable {d t : N} {w w' w'' : Traced N C} {first es es' : List (Option ℕ)} {new : List (ℕ × ℕ)}
  {e : Option ℕ} {i j : ℕ}

theorem Kept.file (h : Kept d first w) (hi : w.disk.entry t = some i) : i < w.disk.count :=
  h.whole.used t _ (h.whole.now t) i hi

theorem public_append (hplaced : w'.placed = new ++ w.placed) :
    Public first w' e ↔ (∃ x ∈ new, e = some x.2) ∨ Public first w e := by
  unfold Public
  rw [hplaced]
  simp only [List.mem_append, or_and_right, exists_or]
  exact or_left_comm

theorem Spares.refl (d t : N) (w : Traced N C) : Spares d t w w :=
  ⟨rfl, fun _ _ => rfl, [], rfl, fun _ he => Or.inr he, Or.inr rfl⟩

theorem Spares.trans (h : Spares d t w w') (h' : Spares d t w' w'') : Spares d t w w'' := by
  obtain ⟨new, hplaced, hshown, htop⟩ := h.grown
  obtain ⟨new', hplaced', hshown', htop'⟩ := h'.grown
  have hleft : ∀ {e : Option ℕ}, (∃ x ∈ new', e = some x.2) → ∃ x ∈ new' ++ new, e = some x.2 :=
    fun ⟨x, hx, he⟩ => ⟨x, List.mem_append_left _ hx, he⟩
  have hright : ∀ {e : Option ℕ}, (∃ x ∈ new, e = some x.2) → ∃ x ∈ new' ++ new, e = some x.2 :=
    fun ⟨x, hx, he⟩ => ⟨x, List.mem_append_right _ hx, he⟩
  refine ⟨h'.entry.trans h.entry, fun i hi => ?_, new' ++ new, ?_, fun e he => ?_, ?_⟩
  · rw [h'.file i (h.entry.trans hi), h.file i hi]
  · rw [hplaced', hplaced, List.append_assoc]
  · rcases hshown' e he with he | he
    · exact Or.inl (hleft he)
    · exact (hshown e he).imp_left hright
  · rcases htop' with htop' | htop'
    · exact Or.inl (hleft htop')
    · rw [htop']
      exact htop.imp_left hright

/-- What is put in place later is shown before what was put in place earlier. -/
theorem Since.mono (h : Since j w es) (hplaced : w'.placed = new ++ w.placed)
    (hes : ∀ e ∈ es', (∃ x ∈ new, e = some x.2) ∨ e ∈ es) : Since j w' es' := by
  obtain ⟨newer, i, older, hlog, hshown⟩ := h
  refine ⟨new ++ newer, i, older, ?_, fun e he => ?_⟩
  · rw [hplaced, hlog, List.append_assoc]
  · rw [List.append_assoc]
    rcases hes e he with ⟨x, hx, he⟩ | he
    · exact ⟨x, List.mem_append_left _ hx, he⟩
    · obtain ⟨x, hx, he⟩ := hshown e he
      exact ⟨x, List.mem_append_right _ hx, he⟩

theorem Since.onDisk (h : Since j w (w.disk.onDisk d)) (hs : Spares d t w w') :
    Since j w' (w'.disk.onDisk d) := by
  obtain ⟨new, hplaced, hshown, -⟩ := hs.grown
  exact h.mono hplaced hshown

theorem Since.entry (h : Since j w [w.disk.entry d]) (hs : Spares d t w w') :
    Since j w' [w'.disk.entry d] := by
  obtain ⟨new, hplaced, -, htop⟩ := hs.grown
  refine h.mono hplaced fun e he => ?_
  rw [List.mem_singleton.1 he]
  exact htop.imp_right List.mem_singleton.2

end

/-! ## What a call can do -/

/-- What a call of the program `j` of `t` does: it puts at most its own file in place, one that is
on the disk and in `G`. -/
structure Effect (d t : N) (j : ℕ) (G : C → Prop) (w w' : Traced N C) (new : List (ℕ × ℕ)) :
    Prop where
  whole : Whole (fun _ => True) d w'.disk
  count : w.disk.count ≤ w'.disk.count
  entries : ∀ n, n ≠ t → n ≠ d → w'.disk.entry n = w.disk.entry n
  files : ∀ i < w.disk.count, w.disk.entry t ≠ some i → w'.disk.files i = w.disk.files i
  own : ∀ i, w'.disk.entry t = some i → new = [] ∧ (w.disk.entry t = some i ∨ w.disk.count ≤ i)
  placed : w'.placed = new ++ w.placed
  shown : ∀ e ∈ w'.disk.onDisk d, (∃ x ∈ new, e = some x.2) ∨ e ∈ w.disk.onDisk d
  top : (∃ x ∈ new, w'.disk.entry d = some x.2) ∨ w'.disk.entry d = w.disk.entry d
  good : ∀ x ∈ new, x.1 = j ∧ w.disk.entry t = some x.2 ∧
    (w'.disk.files x.2).synced = true ∧ G (w'.disk.files x.2).content

section

variable {d t u : N} {w w' : Traced N C} {G : C → Prop} {first : List (Option ℕ)}
  {new : List (ℕ × ℕ)} {i j : ℕ}

theorem Effect.refl (h : Kept d first w) : Effect d t j G w w [] :=
  ⟨h.whole, Nat.le_refl _, fun _ _ _ => rfl, fun _ _ _ => rfl, fun _ hi => ⟨rfl, Or.inl hi⟩, rfl,
    fun _ he => Or.inr he, Or.inr rfl, nofun⟩

theorem Effect.put {x : File C} (h : Kept d first w) (hp : Private t first w)
    (hi : w.disk.entry t = some i) : Effect d t j G w ⟨w.disk.put i x, w.placed⟩ [] := by
  have hfresh : some i ∉ w.disk.onDisk d := fun hmem => hp i hi (h.shown _ hmem)
  refine ⟨h.whole.put hfresh, Nat.le_refl _, fun _ _ _ => rfl, fun k _ hk => ?_,
    fun _ hk => ⟨rfl, Or.inl hk⟩, rfl, fun _ he => Or.inr he, Or.inr rfl, nofun⟩
  exact Function.update_of_ne (fun heq : k = i => hk (heq ▸ hi)) _ _

/-- A file that was put in place is not touched. -/
theorem Effect.public_file (h : Effect d t j G w w' new) (hk : Kept d first w)
    (hp : Private t first w) (hi : Public first w (some i)) :
    w'.disk.files i = w.disk.files i :=
  h.files i (hk.old i hi).1 fun ht => hp i ht hi

theorem Effect.kept (h : Effect d t j G w w' new) (hk : Kept d first w) (hp : Private t first w) :
    Kept d first w' := by
  refine ⟨h.whole, fun e he => ?_, fun i hi => ?_⟩
  · exact (public_append h.placed).2 ((h.shown e he).imp_right (hk.shown e))
  · rcases (public_append h.placed).1 hi with ⟨x, hx, heq⟩ | hi
    · obtain ⟨-, hentry, hsynced, -⟩ := h.good x hx
      cases heq
      exact ⟨Nat.lt_of_lt_of_le (hk.file hentry) h.count, hsynced⟩
    · rw [h.public_file hk hp hi]
      exact ⟨Nat.lt_of_lt_of_le (hk.old i hi).1 h.count, (hk.old i hi).2⟩

theorem Effect.private (h : Effect d t j G w w' new) (hk : Kept d first w)
    (hp : Private t first w) : Private t first w' := by
  intro i hi hpublic
  obtain ⟨rfl, hold⟩ := h.own i hi
  rcases (public_append h.placed).1 hpublic with ⟨x, hx, -⟩ | hpublic
  · cases hx
  rcases hold with hold | hold
  · exact hp i hold hpublic
  · exact absurd (hk.old i hpublic).1 (Nat.not_lt.2 hold)

/-- **Another program** is spared. -/
theorem Effect.spares (h : Effect d t j G w w' new) (hk : Kept d first w) (hut : u ≠ t)
    (hud : u ≠ d) (ha : Apart u t w.disk) : Spares d u w w' :=
  ⟨h.entries u hut hud, fun i hi => h.files i (hk.file hi) (ha i hi), new, h.placed, h.shown,
    h.top⟩

theorem Effect.private_other (h : Effect d t j G w w' new) (hut : u ≠ t) (hud : u ≠ d)
    (ha : Apart u t w.disk) (hu : Private u first w) : Private u first w' := by
  intro i hi hpublic
  rw [h.entries u hut hud] at hi
  rcases (public_append h.placed).1 hpublic with ⟨x, hx, heq⟩ | hpublic
  · cases heq
    exact ha _ hi (h.good x hx).2.1
  · exact hu i hi hpublic

theorem Effect.apart (h : Effect d t j G w w' new) (hk : Kept d first w) (hut : u ≠ t)
    (hud : u ≠ d) (ha : Apart u t w.disk) : Apart u t w'.disk := by
  intro i hi ht
  rw [h.entries u hut hud] at hi
  rcases (h.own i ht).2 with hold | hold
  · exact ha i hi hold
  · exact absurd (hk.file hi) (Nat.not_lt.2 hold)

end

variable [DecidableEq N]

section

variable {d t : N} {w : Traced N C} {G : C → Prop} {first : List (Option ℕ)} {i j : ℕ}
  {c : Call N C} {a : Answer} {s' : Disk N C}

/-- The trace of a rename. -/
theorem placed_rename (hne : d ≠ t) :
    (w.after d j (.rename t d) .ok ((w.disk.link d (some i)).link t none)).placed =
      (j, i) :: w.placed := by
  have htop : ((w.disk.link d (some i)).link t none).entry d = some i :=
    entry_renamed hne
  unfold Traced.after
  simp only [htop, if_pos]

/-- **What a call can do.** The file it renames is on the disk and in `G`. -/
theorem Own.effect (h : Kept d first w) (hp : Private t first w) (hne : d ≠ t) (ho : Own d t c)
    (hready : c = .rename t d → ∀ i, w.disk.entry t = some i →
      (w.disk.files i).synced = true ∧ G (w.disk.files i).content)
    (hd : Does w.disk c a s') : ∃ new, Effect d t j G w (w.after d j c a s') new := by
  cases hd with
  | failed =>
    have hsame : w.after d j c .failed w.disk = w := by cases c <;> rfl
    rw [hsame]
    exact ⟨[], .refl h⟩
  | created n c₀ hnone =>
    -- the number of the new file is nobody's yet
    cases ho
    refine ⟨[], h.whole.create hne, Nat.le_succ _, fun n hn _ => Function.update_of_ne hn _ _,
      fun i hi _ => Function.update_of_ne (Nat.ne_of_lt hi) _ _, fun i hi => ⟨rfl, Or.inr ?_⟩, rfl,
      fun e he => Or.inr ?_, Or.inr (entry_link_ne (s := w.disk.put _ _) hne), nofun⟩
    · have hcount : some w.disk.count = some i := entry_link.symm.trans hi
      exact Nat.le_of_eq (Option.some.inj hcount)
    · rwa [show (w.after d j (.create t) .ok (w.disk.create t c₀)).disk.onDisk d = w.disk.onDisk d
        from onDisk_link_ne (s := w.disk.put _ _) hne] at he
  | written n i c₀ hi =>
    cases ho
    exact ⟨[], .put h hp hi⟩
  | partly n i c₀ g hi =>
    cases ho
    exact ⟨[], .put h hp hi⟩
  | synced n i hi =>
    cases ho
    exact ⟨[], .put h hp hi⟩
  | missing n hnone => exact ⟨[], .refl h⟩
  | unlinked n i hi =>
    cases ho
    refine ⟨[], h.whole.link (fun i hi => by cases hi) fun heq => absurd heq.symm hne,
      Nat.le_refl _, fun n hn _ => entry_link_ne hn, fun _ _ _ => rfl, fun i hi => ?_, rfl,
      fun e he => Or.inr ?_, Or.inr (entry_link_ne hne), nofun⟩
    · cases (entry_link (s := w.disk)).symm.trans hi
    · rwa [show (w.after d j (.unlink t) .ok (w.disk.link t none)).disk.onDisk d = w.disk.onDisk d
        from onDisk_link_ne hne] at he
  | namesSynced =>
    refine ⟨[], h.whole.syncNames, Nat.le_refl _, fun _ _ _ => rfl, fun _ _ _ => rfl,
      fun _ hi => ⟨rfl, Or.inl hi⟩, rfl, fun e he => Or.inr ?_, Or.inr rfl, nofun⟩
    rw [List.mem_singleton.1 he]
    exact h.whole.now d
  | renamed n m i hi =>
    cases ho
    obtain ⟨hsynced, hG⟩ := hready rfl i hi
    have hlinked : Whole (fun _ => True) d (w.disk.link d (some i)) := by
      refine h.whole.link (fun k hk => ?_) fun _ k hk => ?_
      · cases hk
        exact h.file hi
      · cases hk
        exact ⟨hsynced, trivial⟩
    have htop : ((w.disk.link d (some i)).link t none).entry d = some i :=
      entry_renamed hne
    refine ⟨[(j, i)], hlinked.link (fun k hk => by cases hk) fun heq => absurd heq.symm hne,
      Nat.le_refl _, fun n hn hnd => (entry_link_ne hn).trans (entry_link_ne hnd),
      fun _ _ _ => rfl, fun k hk => ?_, placed_rename hne, fun e he => ?_, Or.inl ?_,
      fun x hx => ?_⟩
    · cases (entry_link (s := w.disk.link d (some i))).symm.trans hk
    · have he : e ∈ ((w.disk.link d (some i)).link t none).onDisk d := he
      rw [onDisk_link_ne hne, show (w.disk.link d (some i)).onDisk d = some i :: w.disk.onDisk d
        from Function.update_self _ _ _] at he
      exact (List.mem_cons.1 he).imp_left fun he => ⟨_, List.mem_singleton_self _, he⟩
    · exact ⟨_, List.mem_singleton_self _, htop⟩
    · cases List.mem_singleton.1 hx
      exact ⟨rfl, hi, hsynced, hG⟩

end

/-! ## One program among others -/

/-- The program `j` of `t` keeps to its own calls, puts only a file in place that is on the disk and
in `G`, and ends in `Q`, whatever the others do between its calls. -/
def Guarded (d t : N) (j : ℕ) (G : C → Prop) (Q : R → Traced N C → Prop) :
    Prog N C R → Traced N C → Prop
  | .done r, w => ∀ w', Spares d t w w' → Q r w'
  | .call c resume, w => Own d t c ∧ ∀ w', Spares d t w w' →
      (c = .rename t d → ∀ i, w'.disk.entry t = some i →
        (w'.disk.files i).synced = true ∧ G (w'.disk.files i).content) ∧
      ∀ a s', Does w'.disk c a s' → Guarded d t j G Q (resume a) (w'.after d j c a s')

section

variable {d t : N} {j : ℕ} {w w' : Traced N C} {G : C → Prop} {Q : R → Traced N C → Prop}
  {p : Prog N C R}

theorem Guarded.spares (h : Guarded d t j G Q p w) (hs : Spares d t w w') :
    Guarded d t j G Q p w' := by
  cases p with
  | done r => exact fun w'' hs' => h w'' (hs.trans hs')
  | call c resume => exact ⟨h.1, fun w'' hs' => h.2 w'' (hs.trans hs')⟩

/-- A program that returned put its file in place for good, and its temporary name is gone. -/
def Leaves (d t : N) (j : ℕ) (r : Outcome) (w : Traced N C) : Prop :=
  r = .returned → Since j w (w.disk.onDisk d) ∧ w.disk.entry t = none

theorem cleanUp_guarded {r : Outcome} (hne : d ≠ t)
    (h : r = .returned → Since j w (w.disk.onDisk d)) :
    Guarded d t j G (Leaves d t j) (cleanUp t r) w := by
  refine ⟨.unlink, fun w₁ h₁ => ⟨nofun, fun a s' hd => ?_⟩⟩
  cases hd with
  | failed => exact fun _ _ hr => by cases hr
  | missing _ hnone =>
    intro w₂ h₂ hr
    exact ⟨((h hr).onDisk h₁).onDisk h₂, h₂.entry.trans hnone⟩
  | unlinked i hi =>
    intro w₂ h₂ hr
    have hsince : Since j (w₁.after d j (.unlink t) .ok (w₁.disk.link t none))
        ((w₁.disk.link t none).onDisk d) := by
      rw [onDisk_link_ne hne]
      exact (h hr).onDisk h₁
    exact ⟨hsince.onDisk h₂, h₂.entry.trans entry_link⟩

end

/-! ## All of them together -/

/-- Numbered programs, each with its temporary name while it is at work. -/
structure Crew (N C : Type*) where
  trace : Traced N C
  running : ℕ → Option (N × Prog N C Outcome)
  begun : List ℕ
  returned : List ℕ

def Crew.start (s : Disk N C) : Crew N C where
  trace := ⟨s, []⟩
  running := fun _ => none
  begun := []
  returned := []

/-- A program begins with a temporary name that nobody has; it makes a call, ends, or dies; or the
power is lost, and with it every program. That no file has the new name is what an exclusive open
finds out; that no program at work has it (`hnew`), also not one that has yet to create its file, is
assumed of the names that are drawn. -/
inductive Crew.Step (d : N) (temporary : N → Prop) (program : ℕ → N → Prog N C Outcome) :
    Crew N C → Crew N C → Prop
  | begin (w : Crew N C) (j : ℕ) (t : N) (hj : j ∉ w.begun) (ht : temporary t)
    (hfree : w.trace.disk.entry t = none) (hnew : ∀ k x, w.running k = some x → x.1 ≠ t) :
    Step d temporary program w { w with
      running := Function.update w.running j (some (t, program j t))
      begun := j :: w.begun }
  | call (w : Crew N C) (j : ℕ) (t : N) (c : Call N C) (resume : Answer → Prog N C Outcome)
    (a : Answer) (s' : Disk N C) (h : w.running j = some (t, .call c resume))
    (hd : Does w.trace.disk c a s') :
    Step d temporary program w { w with
      trace := w.trace.after d j c a s'
      running := Function.update w.running j (some (t, resume a)) }
  | finish (w : Crew N C) (j : ℕ) (t : N) (r : Outcome) (h : w.running j = some (t, .done r)) :
    Step d temporary program w { w with
      running := Function.update w.running j none
      returned := if r = .returned then j :: w.returned else w.returned }
  | die (w : Crew N C) (j : ℕ) :
    Step d temporary program w { w with running := Function.update w.running j none }
  | cut (w : Crew N C) (s' : Disk N C) (hd : Cut w.trace.disk s') :
    Step d temporary program w { w with
      trace := { w.trace with disk := s' }
      running := fun _ => none }

/-- What holds of programs at work on a directory that was `s`, where what the program `j` puts in
place is in `G j`. -/
structure Crew.Sound (d : N) (s : Disk N C) (G : ℕ → C → Prop) (w : Crew N C) : Prop where
  kept : Kept d (s.onDisk d) w.trace
  own : ∀ j x, w.running j = some x → j ∈ w.begun ∧ d ≠ x.1 ∧
    Private x.1 (s.onDisk d) w.trace ∧ Guarded d x.1 j (G j) (Leaves d x.1 j) x.2 w.trace
  apart : ∀ j k x y, j ≠ k → w.running j = some x → w.running k = some y →
    x.1 ≠ y.1 ∧ Apart x.1 y.1 w.trace.disk
  first : ∀ i, some i ∈ s.onDisk d → w.trace.disk.files i = s.files i
  placed : ∀ x ∈ w.trace.placed, x.1 ∈ w.begun ∧ G x.1 (w.trace.disk.files x.2).content
  since : ∀ j ∈ w.returned, Since j w.trace (w.trace.disk.onDisk d)

section

variable {d : N} {s : Disk N C} {G : ℕ → C → Prop} {w w' : Crew N C} {temporary : N → Prop}
  {program : ℕ → N → Prog N C Outcome}

theorem start_sound (h : Whole (fun _ => True) d s) : (Crew.start s).Sound d s G where
  kept := by
    refine ⟨h, fun _ he => Or.inl he, fun i hi => ?_⟩
    rcases hi with hi | ⟨x, hx, -⟩
    · exact ⟨h.used d _ hi i rfl, (h.whole _ hi i rfl).1⟩
    · cases hx
  own := nofun
  apart := nofun
  first := fun _ _ => rfl
  placed := nofun
  since := nofun

/-- Programs that stop leave the others as they were. -/
theorem Crew.Sound.fewer (h : w.Sound d s G) {running : ℕ → Option (N × Prog N C Outcome)}
    (hfewer : ∀ j x, running j = some x → w.running j = some x) :
    Crew.Sound d s G { w with running } :=
  ⟨h.kept, fun j x hx => h.own j x (hfewer j x hx),
    fun j k x y hne hx hy => h.apart j k x y hne (hfewer j x hx) (hfewer k y hy), h.first, h.placed,
    h.since⟩

theorem update_none {α : Type*} {f : ℕ → Option α} {j k : ℕ} {x : α}
    (h : Function.update f j none k = some x) : f k = some x := by
  by_cases hk : k = j
  · subst hk
    rw [Function.update_self] at h
    cases h
  · rwa [Function.update_of_ne hk] at h

theorem update_some {α : Type*} {f : ℕ → Option α} {j k : ℕ} {v x : α}
    (h : Function.update f j (some v) k = some x) : k = j ∧ x = v ∨ k ≠ j ∧ f k = some x := by
  by_cases hk : k = j
  · subst hk
    rw [Function.update_self] at h
    exact Or.inl ⟨rfl, (Option.some.inj h).symm⟩
  · rw [Function.update_of_ne hk] at h
    exact Or.inr ⟨hk, h⟩

/-- **One step** keeps all that holds. -/
theorem crew_step (htemp : ∀ t, temporary t → d ≠ t)
    (hguarded : ∀ j t w, temporary t → Guarded d t j (G j) (Leaves d t j) (program j t) w)
    (h : w.Sound d s G) (hstep : Crew.Step d temporary program w w') : w'.Sound d s G := by
  cases hstep with
  | begin j t hj ht hfree hnew =>
    have hnone : ∀ i, w.trace.disk.entry t ≠ some i := fun i hi => by rw [hfree] at hi; cases hi
    refine ⟨h.kept, fun k x hx => ?_, fun k l x y hne hx hy => ?_, h.first,
      fun x hx => ⟨List.mem_cons_of_mem _ (h.placed x hx).1, (h.placed x hx).2⟩, h.since⟩
    · rcases update_some hx with ⟨rfl, rfl⟩ | ⟨-, hx⟩
      · exact ⟨List.mem_cons_self, htemp t ht, fun i hi => absurd hi (hnone i),
          hguarded k t w.trace ht⟩
      · obtain ⟨hbegun, hrest⟩ := h.own k x hx
        exact ⟨List.mem_cons_of_mem _ hbegun, hrest⟩
    · rcases update_some hx with ⟨rfl, rfl⟩ | ⟨-, hx⟩
      · rcases update_some hy with ⟨rfl, -⟩ | ⟨-, hy⟩
        · exact absurd rfl hne
        · exact ⟨(hnew l y hy).symm, fun i hi => absurd hi (hnone i)⟩
      · rcases update_some hy with ⟨-, rfl⟩ | ⟨-, hy⟩
        · exact ⟨hnew k x hx, fun i _ => hnone i⟩
        · exact h.apart k l x y hne hx hy
  | call j t c resume a s' hrun hd =>
    obtain ⟨hbegun, hne, hp, ho, hnext⟩ := h.own j _ hrun
    obtain ⟨hready, hnext⟩ := hnext w.trace (.refl d t w.trace)
    obtain ⟨new, heff⟩ := ho.effect h.kept hp hne hready hd
    -- what the call does to the others, it does under a name that is not theirs
    have hother : ∀ k x, k ≠ j → w.running k = some x →
        x.1 ≠ t ∧ x.1 ≠ d ∧ Apart x.1 t w.trace.disk := by
      intro k x hk hx
      obtain ⟨hxt, ha⟩ := h.apart k j x _ hk hx hrun
      exact ⟨hxt, (h.own k x hx).2.1.symm, ha⟩
    refine ⟨heff.kept h.kept hp, fun k x hx => ?_, fun k l x y hkl hx hy => ?_, fun i hi => ?_,
      fun x hx => ?_, fun k hk => (h.since k hk).mono heff.placed heff.shown⟩
    · rcases update_some hx with ⟨rfl, rfl⟩ | ⟨hk, hx⟩
      · exact ⟨hbegun, hne, heff.private h.kept hp, hnext a s' hd⟩
      · obtain ⟨hxt, hxd, ha⟩ := hother k x hk hx
        obtain ⟨hkbegun, hkd, hkp, hkg⟩ := h.own k x hx
        exact ⟨hkbegun, hkd, heff.private_other hxt hxd ha hkp,
          hkg.spares (heff.spares h.kept hxt hxd ha)⟩
    · rcases update_some hx with ⟨rfl, rfl⟩ | ⟨hk, hx⟩
      · rcases update_some hy with ⟨rfl, -⟩ | ⟨hl, hy⟩
        · exact absurd rfl hkl
        · obtain ⟨hyt, hyd, ha⟩ := hother l y hl hy
          exact ⟨hyt.symm, fun i hi hiy => heff.apart h.kept hyt hyd ha i hiy hi⟩
      · obtain ⟨hxt, hxd, ha⟩ := hother k x hk hx
        rcases update_some hy with ⟨-, rfl⟩ | ⟨hl, hy⟩
        · exact ⟨hxt, heff.apart h.kept hxt hxd ha⟩
        · obtain ⟨hyt, hyd, -⟩ := hother l y hl hy
          obtain ⟨hxy, hap⟩ := h.apart k l x y hkl hx hy
          refine ⟨hxy, fun i hi hiy => ?_⟩
          rw [heff.entries x.1 hxt hxd] at hi
          rw [heff.entries y.1 hyt hyd] at hiy
          exact hap i hi hiy
    · exact (heff.public_file h.kept hp (Or.inl hi)).trans (h.first i hi)
    · have hx : x ∈ (w.trace.after d j c a s').placed := hx
      rw [heff.placed] at hx
      rcases List.mem_append.1 hx with hx | hx
      · obtain ⟨rfl, -, -, hG⟩ := heff.good x hx
        exact ⟨hbegun, hG⟩
      · rw [heff.public_file h.kept hp (Or.inr ⟨x, hx, rfl⟩)]
        exact h.placed x hx
  | finish j t r hrun =>
    have hs : Crew.Sound d s G { w with running := Function.update w.running j none } :=
      h.fewer fun _ _ => update_none
    refine ⟨hs.kept, hs.own, hs.apart, hs.first, hs.placed, fun k hk => ?_⟩
    have hk : k ∈ if r = .returned then j :: w.returned else w.returned := hk
    split_ifs at hk with hr
    · rcases List.mem_cons.1 hk with rfl | hk
      · obtain ⟨-, -, -, hg⟩ := h.own k _ hrun
        exact (hg w.trace (.refl d t w.trace) hr).1
      · exact h.since k hk
    · exact h.since k hk
  | die j => exact h.fewer fun _ _ => update_none
  | cut s' hd =>
    -- what was put in place is on the disk, and stays
    have hfiles : ∀ i, Public (s.onDisk d) w.trace (some i) → s'.files i = w.trace.disk.files i :=
      fun i hi => hd.kept i (h.kept.old i hi).2
    have hshown : ∀ e ∈ s'.onDisk d, e ∈ w.trace.disk.onDisk d := fun e he => by
      rw [hd.settled d, List.mem_singleton] at he
      exact he ▸ hd.entry d
    refine ⟨⟨h.kept.whole.cut hd, fun e he => h.kept.shown e (hshown e he), fun i hi => ?_⟩,
      nofun, nofun, fun i hi => ?_, fun x hx => ?_, fun j hj => ?_⟩
    · exact ⟨hd.count ▸ (h.kept.old i hi).1, hd.clean i⟩
    · exact (hfiles i (Or.inl hi)).trans (h.first i hi)
    · rw [show s'.files x.2 = _ from hfiles x.2 (Or.inr ⟨x, hx, rfl⟩)]
      exact h.placed x hx
    · have hnew : { w.trace with disk := s' }.placed = [] ++ w.trace.placed := rfl
      exact (h.since j hj).mono hnew fun e he => Or.inr (hshown e he)

/-- **All that is reached** is sound. -/
theorem crew_sound (htemp : ∀ t, temporary t → d ≠ t)
    (hguarded : ∀ j t w, temporary t → Guarded d t j (G j) (Leaves d t j) (program j t) w)
    (hstart : Whole (fun _ => True) d s)
    (h : Relation.ReflTransGen (Crew.Step d temporary program) (.start s) w) :
    w.Sound d s G := by
  induction h with
  | refl => exact start_sound hstart
  | tail _ hstep ih => exact crew_step htemp hguarded ih hstep

end

end DurableFile
