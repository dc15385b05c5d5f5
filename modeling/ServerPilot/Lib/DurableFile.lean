import Mathlib.Data.List.Basic
import Mathlib.Logic.Function.Basic

/-!
# Files that outlive a power cut

A directory of files under a cache: what was written to a file is on the disk once the file is
synced, and what a name stands for once the directory is. A program is a tree of system calls, each
of which may fail, stop halfway or be the last one before a power cut. `Safe` is the rule for what
holds at every moment of a program; a file put in place by `publish` is never seen in part.
-/

namespace DurableFile

variable {N C R : Type*}

/-! ## Disks -/

/-- The text of a file, and whether all of it is on the disk. -/
structure File (C : Type*) where
  content : C
  synced : Bool

/-- Files by number, and names. `onDisk` lists what a name may stand for after a power cut. -/
structure Disk (N C : Type*) where
  files : ℕ → File C
  count : ℕ
  entry : N → Option ℕ
  onDisk : N → List (Option ℕ)

namespace Disk

/-- No names. -/
def empty (c : C) : Disk N C where
  files := fun _ => ⟨c, true⟩
  count := 0
  entry := fun _ => none
  onDisk := fun _ => [none]

/-- What is read under a name. -/
def read (s : Disk N C) (n : N) : Option C := (s.entry n).map fun i => (s.files i).content

def put (s : Disk N C) (i : ℕ) (x : File C) : Disk N C :=
  { s with files := Function.update s.files i x }

def syncNames (s : Disk N C) : Disk N C := { s with onDisk := fun n => [s.entry n] }

variable [DecidableEq N]

def link (s : Disk N C) (n : N) (e : Option ℕ) : Disk N C :=
  { s with
    entry := Function.update s.entry n e
    onDisk := Function.update s.onDisk n (e :: s.onDisk n) }

def create (s : Disk N C) (n : N) (c : C) : Disk N C :=
  { (s.put s.count ⟨c, false⟩).link n (some s.count) with count := s.count + 1 }

end Disk

/-! ## System calls -/

inductive Call (N C : Type*)
  | create (n : N)
  | write (n : N) (c : C)
  | sync (n : N)
  | rename (n m : N)
  | unlink (n : N)
  | syncNames

inductive Answer
  | ok
  /-- There is no such name. -/
  | missing
  | failed
  deriving DecidableEq, Repr

/-- A power cut: a file keeps its text if it is synced, and each name stands for something it may
stand for. -/
structure Cut (s s' : Disk N C) : Prop where
  count : s'.count = s.count
  kept : ∀ i, (s.files i).synced = true → s'.files i = s.files i
  clean : ∀ i, (s'.files i).synced = true
  entry : ∀ n, s'.entry n ∈ s.onDisk n
  settled : ∀ n, s'.onDisk n = [s'.entry n]

section

variable [DecidableEq N]

/-- What a call does, and what it answers. A failed write leaves any text. -/
inductive Does (s : Disk N C) : Call N C → Answer → Disk N C → Prop
  | created (n : N) (c : C) (h : s.entry n = none) : Does s (.create n) .ok (s.create n c)
  | written (n : N) (i : ℕ) (c : C) (h : s.entry n = some i) :
    Does s (.write n c) .ok (s.put i ⟨c, false⟩)
  | partly (n : N) (i : ℕ) (c g : C) (h : s.entry n = some i) :
    Does s (.write n c) .failed (s.put i ⟨g, false⟩)
  | synced (n : N) (i : ℕ) (h : s.entry n = some i) :
    Does s (.sync n) .ok (s.put i ⟨(s.files i).content, true⟩)
  | renamed (n m : N) (i : ℕ) (h : s.entry n = some i) :
    Does s (.rename n m) .ok ((s.link m (some i)).link n none)
  | unlinked (n : N) (i : ℕ) (h : s.entry n = some i) : Does s (.unlink n) .ok (s.link n none)
  | missing (n : N) (h : s.entry n = none) : Does s (.unlink n) .missing s
  | namesSynced : Does s .syncNames .ok s.syncNames
  | failed (c : Call N C) : Does s c .failed s

/-! ## Programs -/

/-- A program asks for a call and goes on as it is answered. -/
inductive Prog (N C R : Type*)
  | done (r : R)
  | call (c : Call N C) (resume : Answer → Prog N C R)

/-- `I` holds at every moment of a program, whatever its calls answer, and `Q` at its end. -/
def Safe (I : Disk N C → Prop) (Q : R → Disk N C → Prop) : Prog N C R → Disk N C → Prop
  | .done r, s => I s ∧ Q r s
  | .call c resume, s => I s ∧ ∀ a s', Does s c a s' → I s' ∧ Safe I Q (resume a) s'

section

variable {I : Disk N C → Prop} {Q Q' : R → Disk N C → Prop} {p : Prog N C R} {s s' : Disk N C}

theorem Safe.now (h : Safe I Q p s) : I s := by
  cases p with
  | done r => exact h.1
  | call c resume => exact h.1

theorem Safe.step {c : Call N C} {resume : Answer → Prog N C R} {a : Answer}
    (h : Safe I Q (.call c resume) s) (hd : Does s c a s') : Safe I Q (resume a) s' :=
  (h.2 a s' hd).2

theorem Safe.mono (hQ : ∀ r s, Q r s → Q' r s) (h : Safe I Q p s) : Safe I Q' p s := by
  induction p generalizing s with
  | done r => exact ⟨h.1, hQ r s h.2⟩
  | call c resume ih => exact ⟨h.1, fun a s' hd => ⟨(h.2 a s' hd).1, ih a (h.2 a s' hd).2⟩⟩

end

end

/-! ## A name whose file is whole -/

/-- Under the name `d` there is nothing, or a file all of which is on the disk and in `P`; so there
will be after a power cut. -/
structure Whole (P : C → Prop) (d : N) (s : Disk N C) : Prop where
  now : ∀ n, s.entry n ∈ s.onDisk n
  used : ∀ n, ∀ e ∈ s.onDisk n, ∀ i ∈ e, i < s.count
  whole : ∀ e ∈ s.onDisk d, ∀ i ∈ e, (s.files i).synced = true ∧ P (s.files i).content

/-- The name stands for what it will stand for after a power cut. -/
def Settled (d : N) (s : Disk N C) : Prop := ∀ e ∈ s.onDisk d, e = s.entry d

section

variable {P P' : C → Prop} {d n m : N} {s s' : Disk N C} {i : ℕ} {e : Option ℕ}

theorem whole_empty (P : C → Prop) (d : N) (c : C) : Whole P d (Disk.empty c) := by
  refine ⟨fun n => List.mem_singleton_self _, fun n e he i hi => ?_, fun e he i hi => ?_⟩
  · rw [List.mem_singleton.1 he] at hi
    cases hi
  · rw [List.mem_singleton.1 he] at hi
    cases hi

theorem Whole.mono (hP : ∀ c, P c → P' c) (h : Whole P d s) : Whole P' d s :=
  ⟨h.now, h.used, fun e he i hi => ⟨(h.whole e he i hi).1, hP _ (h.whole e he i hi).2⟩⟩

/-- What is read is whole. -/
theorem Whole.read (h : Whole P d s) : ∀ c ∈ s.read d, P c := by
  intro c hc
  obtain ⟨i, hi, rfl⟩ := Option.map_eq_some_iff.1 hc
  exact (h.whole _ (h.now d) i hi).2

theorem Whole.cut (h : Whole P d s) (hc : Cut s s') : Whole P d s' := by
  refine ⟨fun n => ?_, fun n e he i hi => ?_, fun e he i hi => ⟨hc.clean i, ?_⟩⟩
  · rw [hc.settled n]
    exact List.mem_singleton_self _
  · rw [hc.settled n, List.mem_singleton] at he
    rw [hc.count]
    exact h.used n _ (hc.entry n) i (he ▸ hi)
  · rw [hc.settled d, List.mem_singleton] at he
    have hwhole := h.whole _ (hc.entry d) i (he ▸ hi)
    rw [hc.kept i hwhole.1]
    exact hwhole.2

/-- A settled name reads the same after a power cut. -/
theorem Settled.read_cut (hs : Settled d s) (h : Whole P d s) (hc : Cut s s') :
    s'.read d = s.read d := by
  have hentry : s'.entry d = s.entry d := hs _ (hc.entry d)
  unfold Disk.read
  rw [hentry]
  cases he : s.entry d with
  | none => rfl
  | some i =>
    have hwhole := h.whole _ (h.now d) i he
    rw [Option.map_some, Option.map_some, hc.kept i hwhole.1]

theorem settled_cut (hc : Cut s s') : Settled d s' := by
  intro e he
  rw [hc.settled d] at he
  exact List.mem_singleton.1 he

/-! ### Calls -/

theorem Whole.put {x : File C} (h : Whole P d s) (hi : some i ∉ s.onDisk d) :
    Whole P d (s.put i x) := by
  refine ⟨h.now, h.used, fun e he j hj => ?_⟩
  have hne : j ≠ i := by
    rintro rfl
    obtain rfl : e = some j := hj
    exact hi he
  unfold Disk.put
  simp only
  rw [Function.update_of_ne hne]
  exact h.whole e he j hj

theorem read_put {x : File C} (h : Whole P d s) (hi : some i ∉ s.onDisk d) :
    (s.put i x).read d = s.read d := by
  unfold Disk.read Disk.put
  simp only
  cases he : s.entry d with
  | none => rfl
  | some j =>
    have hne : j ≠ i := fun hj => hi (by rw [← hj, ← he]; exact h.now d)
    rw [Option.map_some, Option.map_some, Function.update_of_ne hne]

theorem Whole.syncNames (h : Whole P d s) : Whole P d s.syncNames := by
  have hsole : ∀ {n : N} {e : Option ℕ}, e ∈ s.syncNames.onDisk n → e ∈ s.onDisk n := by
    intro n e he
    obtain rfl := List.mem_singleton.1 he
    exact h.now n
  exact ⟨fun n => List.mem_singleton_self _, fun n e he => h.used n e (hsole he),
    fun e he => h.whole e (hsole he)⟩

theorem settled_syncNames : Settled d s.syncNames := fun _ he => List.mem_singleton.1 he

variable [DecidableEq N]

theorem mem_link {n' : N} : (s.link n e).entry n' ∈ (s.link n e).onDisk n' ↔
    n' = n ∨ s.entry n' ∈ s.onDisk n' := by
  unfold Disk.link
  by_cases hn : n' = n
  · subst hn
    simp
  · simp [hn]

theorem Whole.link (h : Whole P d s) (he : ∀ i ∈ e, i < s.count)
    (hd : n = d → ∀ i ∈ e, (s.files i).synced = true ∧ P (s.files i).content) :
    Whole P d (s.link n e) := by
  have hold : ∀ {m : N} {x : Option ℕ}, x ∈ (s.link n e).onDisk m →
      m = n ∧ x = e ∨ x ∈ s.onDisk m := by
    intro m x hx
    unfold Disk.link at hx
    simp only at hx
    by_cases hm : m = n
    · subst hm
      rw [Function.update_self] at hx
      exact (List.mem_cons.1 hx).imp_left fun h => ⟨rfl, h⟩
    · rw [Function.update_of_ne hm] at hx
      exact Or.inr hx
  refine ⟨fun m => mem_link.2 (Or.inr (h.now m)), fun m x hx i hi => ?_, fun x hx i hi => ?_⟩
  · rcases hold hx with ⟨-, rfl⟩ | hx
    · exact he i hi
    · exact h.used m x hx i hi
  · rcases hold hx with ⟨hn, rfl⟩ | hx
    · exact hd hn.symm i hi
    · exact h.whole x hx i hi

theorem read_link_ne (hne : d ≠ n) : (s.link n e).read d = s.read d := by
  unfold Disk.read Disk.link
  simp only
  rw [Function.update_of_ne hne]

theorem onDisk_link_ne (hne : d ≠ n) : (s.link n e).onDisk d = s.onDisk d :=
  Function.update_of_ne hne _ _

theorem entry_link : (s.link n e).entry n = e := Function.update_self _ _ _

theorem entry_link_ne (hne : d ≠ n) : (s.link n e).entry d = s.entry d :=
  Function.update_of_ne hne _ _

/-- A renamed file is under its new name. -/
theorem entry_renamed {t : N} (hne : d ≠ t) : ((s.link d e).link t none).entry d = e :=
  (entry_link_ne hne).trans entry_link

theorem settled_link_ne (hne : d ≠ n) (h : Settled d s) : Settled d (s.link n e) := by
  intro x hx
  rw [onDisk_link_ne hne] at hx
  rw [entry_link_ne hne]
  exact h x hx

theorem Whole.create {c : C} (h : Whole P d s) (hne : d ≠ n) : Whole P d (s.create n c) := by
  have hfresh : some s.count ∉ s.onDisk d := fun hmem =>
    absurd (h.used d _ hmem s.count rfl) (Nat.lt_irrefl _)
  have hput : Whole P d (s.put s.count ⟨c, false⟩) := h.put hfresh
  have hroom : Whole P d { s.put s.count ⟨c, false⟩ with count := s.count + 1 } :=
    ⟨hput.now, fun m e he i hi => Nat.lt_succ_of_lt (hput.used m e he i hi), hput.whole⟩
  exact hroom.link (fun i hi => by cases hi; exact Nat.lt_succ_self _) fun heq =>
    absurd heq.symm hne

end

/-! ## Putting a file in place -/

inductive Outcome
  | returned
  | raised
  deriving DecidableEq, Repr

/-- The temporary name is removed, however the rest ended. -/
def cleanUp (t : N) (r : Outcome) : Prog N C Outcome :=
  .call (.unlink t) fun
    | .failed => .done .raised
    | _ => .done r

/-- A text is put under `d`: written and synced under a temporary name, and renamed. -/
def publish (d t : N) (c : C) : Prog N C Outcome :=
  .call (.create t) fun
    | .ok => .call (.write t c) fun
      | .ok => .call (.sync t) fun
        | .ok => .call (.rename t d) fun
          | .ok => .call .syncNames fun
            | .ok => cleanUp t .returned
            | _ => cleanUp t .raised
          | _ => cleanUp t .raised
        | _ => cleanUp t .raised
      | _ => cleanUp t .raised
    | _ => .done .raised

/-- A name is removed; one that is not there needs nothing. -/
def remove (d : N) : Prog N C Outcome :=
  .call (.unlink d) fun
    | .ok => .call .syncNames fun
      | .ok => .done .returned
      | _ => .done .raised
    | .missing => .done .returned
    | .failed => .done .raised

/-- What is read after a call: what was, or what was asked for; the latter if it returned. -/
def Ends (d : N) (old new : Option C) (r : Outcome) (s : Disk N C) : Prop :=
  (s.read d = old ∨ s.read d = new) ∧ (r = .returned → s.read d = new)

section

variable {P : C → Prop} {d t : N} {s : Disk N C} {i : ℕ} {c : C} {r : Outcome} {old : Option C}
  [DecidableEq N]

/-- **The clean-up** leaves the name alone. -/
theorem cleanUp_safe (h : Whole P d s) (hne : d ≠ t) (hr : Ends d old (some c) r s)
    (hs : r = .returned → Settled d s) :
    Safe (Whole P d) (fun r s => Ends d old (some c) r s ∧ (r = .returned → Settled d s))
      (cleanUp t r) s := by
  refine ⟨h, fun a s' hd => ?_⟩
  cases hd with
  | unlinked i hi =>
    have hw : Whole P d (s.link t none) :=
      h.link (fun i hi => by cases hi) fun heq => absurd heq.symm hne
    have hread : (s.link t none).read d = s.read d := read_link_ne hne
    refine ⟨hw, hw, ?_, fun heq => settled_link_ne hne (hs heq)⟩
    unfold Ends
    rw [hread]
    exact hr
  | missing _ => exact ⟨h, h, hr, hs⟩
  | failed => exact ⟨h, h, ⟨hr.1, nofun⟩, nofun⟩

/-- **A published text** is in place whole, or what was there stays; it is there for good when the
call returns. -/
theorem publish_safe (h : Whole P d s) (hne : d ≠ t) (hc : P c) :
    Safe (Whole P d) (fun r s' => Ends d (s.read d) (some c) r s' ∧ (r = .returned → Settled d s'))
      (publish d t c) s := by
  refine ⟨h, fun a s₁ h₁ => ?_⟩
  cases h₁ with
  | failed => exact ⟨h, h, ⟨Or.inl rfl, nofun⟩, nofun⟩
  | created _ c₀ hnone =>
    -- the new file has a number of its own
    have hw₁ : Whole P d (s.create t c₀) := h.create hne
    have hnew : some s.count ∉ s.onDisk d := fun hmem =>
      absurd (h.used d _ hmem s.count rfl) (Nat.lt_irrefl _)
    have hread₁ : (s.create t c₀).read d = s.read d :=
      Eq.trans (read_link_ne (s := s.put s.count ⟨c₀, false⟩) hne) (read_put h hnew)
    have hentry₁ : (s.create t c₀).entry t = some s.count := Function.update_self _ _ _
    have hfresh₁ : some s.count ∉ (s.create t c₀).onDisk d := by
      rw [show (s.create t c₀).onDisk d = s.onDisk d from onDisk_link_ne hne]
      exact hnew
    generalize s.create t c₀ = s₁ at hw₁ hread₁ hentry₁ hfresh₁
    have hkept : ∀ x, (s₁.put s.count x).read d = s.read d := fun x =>
      (read_put hw₁ hfresh₁).trans hread₁
    refine ⟨hw₁, hw₁, fun a s₂ h₂ => ?_⟩
    cases h₂ with
    | failed => exact ⟨hw₁, cleanUp_safe hw₁ hne ⟨Or.inl hread₁, nofun⟩ nofun⟩
    | partly _ i _ g hi =>
      rw [hentry₁] at hi
      cases hi
      exact ⟨hw₁.put hfresh₁, cleanUp_safe (hw₁.put hfresh₁) hne ⟨Or.inl (hkept _), nofun⟩ nofun⟩
    | written _ i _ hi =>
      rw [hentry₁] at hi
      cases hi
      have hw₂ : Whole P d (s₁.put s.count ⟨c, false⟩) := hw₁.put hfresh₁
      refine ⟨hw₂, hw₂, fun a s₃ h₃ => ?_⟩
      cases h₃ with
      | failed => exact ⟨hw₂, cleanUp_safe hw₂ hne ⟨Or.inl (hkept _), nofun⟩ nofun⟩
      | synced _ i hi =>
        have hentry₂ : (s₁.put s.count ⟨c, false⟩).entry t = some s.count := hentry₁
        rw [hentry₂] at hi
        cases hi
        have hfile : (s₁.put s.count ⟨c, false⟩).files s.count = ⟨c, false⟩ :=
          Function.update_self _ _ _
        rw [hfile]
        have hw₃ : Whole P d ((s₁.put s.count ⟨c, false⟩).put s.count ⟨c, true⟩) :=
          hw₂.put hfresh₁
        have hread₃ : ((s₁.put s.count ⟨c, false⟩).put s.count ⟨c, true⟩).read d = s.read d :=
          (read_put hw₂ hfresh₁).trans (hkept _)
        have hfile₃ : ((s₁.put s.count ⟨c, false⟩).put s.count ⟨c, true⟩).files s.count =
            ⟨c, true⟩ := Function.update_self _ _ _
        have hentry₃ : ((s₁.put s.count ⟨c, false⟩).put s.count ⟨c, true⟩).entry t =
            some s.count := hentry₁
        generalize (s₁.put s.count ⟨c, false⟩).put s.count ⟨c, true⟩ = s₃
          at hw₃ hread₃ hfile₃ hentry₃
        refine ⟨hw₃, hw₃, fun a s₄ h₄ => ?_⟩
        cases h₄ with
        | failed => exact ⟨hw₃, cleanUp_safe hw₃ hne ⟨Or.inl hread₃, nofun⟩ nofun⟩
        | renamed _ _ i hi =>
          rw [hentry₃] at hi
          cases hi
          -- the name stands for a file that is on the disk
          have hused : s.count < s₃.count := hw₃.used t _ (hw₃.now t) _ hentry₃
          have hlinked : Whole P d (s₃.link d (some s.count)) := by
            refine hw₃.link (fun i hi => ?_) fun _ i hi => ?_
            · cases hi
              exact hused
            · cases hi
              rw [hfile₃]
              exact ⟨rfl, hc⟩
          have hw₄ : Whole P d ((s₃.link d (some s.count)).link t none) :=
            hlinked.link (fun i hi => by cases hi) fun heq => absurd heq.symm hne
          have hread₄ : ((s₃.link d (some s.count)).link t none).read d = some c := by
            rw [read_link_ne hne]
            unfold Disk.read Disk.link
            simp only [Function.update_self, Option.map_some, hfile₃]
          generalize (s₃.link d (some s.count)).link t none = s₄ at hw₄ hread₄
          refine ⟨hw₄, hw₄, fun a s₅ h₅ => ?_⟩
          cases h₅ with
          | failed => exact ⟨hw₄, cleanUp_safe hw₄ hne ⟨Or.inr hread₄, nofun⟩ nofun⟩
          | namesSynced =>
            exact ⟨hw₄.syncNames, cleanUp_safe hw₄.syncNames hne ⟨Or.inr hread₄, fun _ => hread₄⟩
              fun _ => settled_syncNames⟩

/-- **A removed name** is gone, or what was there stays; when the call returns it is gone for good,
unless it was gone before but may come back. -/
theorem remove_safe (h : Whole P d s) :
    Safe (Whole P d) (fun r s' => Ends d (s.read d) none r s' ∧
      (r = .returned → Settled d s ∨ s.read d ≠ none → Settled d s')) (remove d) s := by
  refine ⟨h, fun a s₁ h₁ => ?_⟩
  cases h₁ with
  | failed => exact ⟨h, h, ⟨Or.inl rfl, nofun⟩, nofun⟩
  | missing _ hnone =>
    have hread : s.read d = none := by
      unfold Disk.read
      rw [hnone]
      rfl
    exact ⟨h, h, ⟨Or.inl rfl, fun _ => hread⟩, fun _ hs => hs.resolve_right fun hne => hne hread⟩
  | unlinked i hi =>
    have hw : Whole P d (s.link d none) :=
      h.link (fun i hi => by cases hi) fun _ i hi => by cases hi
    have hread : (s.link d none).read d = none := by
      unfold Disk.read Disk.link
      simp only [Function.update_self, Option.map_none]
    refine ⟨hw, hw, fun a s₂ h₂ => ?_⟩
    cases h₂ with
    | failed => exact ⟨hw, hw, ⟨Or.inr hread, nofun⟩, nofun⟩
    | namesSynced =>
      exact ⟨hw.syncNames, hw.syncNames, ⟨Or.inr hread, fun _ => hread⟩,
        fun _ _ => settled_syncNames⟩

end

end DurableFile
