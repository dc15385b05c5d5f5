import ServerPilot.Spec.Backup

/-!
# A backup is whole and does not come undone

* `publishCopy_guarded`, `backup_guarded`: one backup, whatever the others do between its calls.
* `backups_kept`: **backups to one destination, in any order**, with any call failing, any of them
  dying and the power lost at any time. What is under the name is what was there, or a whole checked
  copy; after a backup returned it is that copy or one that was put there later.
-/

namespace ServerPilot.Database

open DurableFile

variable {C : Type*}

theorem copyName_ne (destination random : String) : destination ≠ copyName destination random := by
  intro h
  have hlength := congrArg String.length h
  unfold copyName at hlength
  simp only [String.length_append] at hlength
  have hdot : ".".length = 1 := rfl
  omega

/-! ## One backup -/

section

variable {d t : String} {w : Traced String C} {G : C → Prop} {i j : ℕ}

/-- After the rename, the sync of the directory makes it last. -/
theorem syncNames_guarded (hne : d ≠ t) (h : Since j w [w.disk.entry d]) :
    Guarded d t j G (Leaves d t j) (.call .syncNames fun
      | .ok => cleanUp t .returned
      | _ => cleanUp t .raised) w := by
  refine ⟨.syncNames, fun w₁ h₁ => ⟨nofun, fun a s' hd => ?_⟩⟩
  cases hd with
  | failed => exact cleanUp_guarded hne nofun
  | namesSynced =>
    have hsince : Since j w₁ [w₁.disk.entry d] := h.entry h₁
    exact cleanUp_guarded hne fun _ => hsince

theorem rename_guarded (hne : d ≠ t) (hi : w.disk.entry t = some i)
    (hx : (w.disk.files i).synced = true ∧ G (w.disk.files i).content) :
    Guarded d t j G (Leaves d t j) (.call (.rename t d) fun
      | .ok => .call .syncNames fun
        | .ok => cleanUp t .returned
        | _ => cleanUp t .raised
      | _ => cleanUp t .raised) w := by
  refine ⟨.rename, fun w₁ h₁ => ⟨fun _ j hj => ?_, fun a s' hd => ?_⟩⟩
  · cases hi.symm.trans (h₁.entry.symm.trans hj)
    rw [h₁.file i hi]
    exact hx
  · cases hd with
    | failed => exact cleanUp_guarded hne nofun
    | renamed _ _ k hk =>
      cases hi.symm.trans (h₁.entry.symm.trans hk)
      refine syncNames_guarded hne ⟨[], i, w₁.placed, placed_rename hne, fun e he => ?_⟩
      refine ⟨_, List.mem_singleton_self _, ?_⟩
      exact (List.mem_singleton.1 he).trans (entry_renamed hne)

theorem publishCopy_guarded (hne : d ≠ t) (hi : w.disk.entry t = some i)
    (hx : G (w.disk.files i).content) :
    Guarded d t j G (Leaves d t j) (publishCopy d t) w := by
  refine ⟨.sync, fun w₁ h₁ => ⟨nofun, fun a s' hd => ?_⟩⟩
  cases hd with
  | failed => exact cleanUp_guarded hne nofun
  | synced _ k hj =>
    cases hi.symm.trans (h₁.entry.symm.trans hj)
    have hfile : (w₁.after d j (.sync t) .ok
        (w₁.disk.put i ⟨(w₁.disk.files i).content, true⟩)).disk.files i =
          ⟨(w₁.disk.files i).content, true⟩ := Function.update_self _ _ _
    refine rename_guarded (i := i) hne (h₁.entry.trans hi) ?_
    rw [hfile, h₁.file i hi]
    exact ⟨rfl, hx⟩

/-- **One backup** among others. -/
theorem backup_guarded (intact : C → Bool) (source : Option String) (copy : C) (checks : Bool)
    (hne : d ≠ t) (w : Traced String C) :
    Guarded d t j (fun c => c = copy ∧ intact copy = true) (Leaves d t j)
      (backup intact source d t copy checks) w := by
  unfold backup
  by_cases hrefused : source = none ∨ source = some d
  · rw [if_pos hrefused]
    exact fun _ _ hr => by cases hr
  rw [if_neg hrefused]
  refine ⟨.create, fun w₁ h₁ => ⟨nofun, fun a s₁ hd => ?_⟩⟩
  cases hd with
  | failed => exact fun _ _ hr => by cases hr
  | created _ c₀ hnone =>
    -- a copy that is written in part, or not intact, is cleaned up and never renamed
    refine ⟨.write copy, fun w₂ h₂ => ⟨nofun, fun a s₂ hd => ?_⟩⟩
    cases hd with
    | failed => exact cleanUp_guarded hne nofun
    | partly _ i _ g hi => exact cleanUp_guarded hne nofun
    | written _ i _ hi =>
      have hfile : (w₂.after d j (.write t copy) .ok (w₂.disk.put i ⟨copy, false⟩)).disk.files i =
          ⟨copy, false⟩ := Function.update_self _ _ _
      show Guarded d t j _ _ (if (checks && intact copy) = true then _ else _) _
      split_ifs with hchecked
      · refine publishCopy_guarded (i := i) hne hi ?_
        rw [hfile]
        exact ⟨rfl, (Bool.and_eq_true_iff.1 hchecked).2⟩
      · exact cleanUp_guarded hne nofun

end

/-! ## All of them -/

/-- **Backups are kept**, from a directory in which the destination is on the disk or not there.
Also after a power cut at this moment, the destination is what it was at the start, or a whole copy
of the live database that was checked; once a backup returned, it is the copy of that backup or of
one that put its own there later; and the temporary name of a backup that is about to return is
gone. -/
theorem backups_kept (b : Backups C) (s : Disk String C)
    (hs : Whole (fun _ => True) b.destination s) (w : Crew String C)
    (h : Relation.ReflTransGen b.Step (.start s) w) :
    (∀ disk, disk = w.trace.disk ∨ Cut w.trace.disk disk →
      ((∃ e ∈ s.onDisk b.destination,
          disk.read b.destination = e.map fun i => (s.files i).content) ∨
        ∃ j ∈ w.begun, b.intact (b.copies j) = true ∧
          disk.read b.destination = some (b.copies j)) ∧
      ∀ j ∈ w.returned, ∃ newer older, w.trace.placed.map Prod.fst = newer ++ j :: older ∧
        ∃ k ∈ newer ++ [j], b.intact (b.copies k) = true ∧
          disk.read b.destination = some (b.copies k)) ∧
    ∀ j t, w.running j = some (t, .done .returned) → w.trace.disk.entry t = none := by
  have hsound : w.Sound b.destination s fun j c => c = b.copies j ∧ b.intact (b.copies j) = true :=
    crew_sound (fun t ⟨random, ht⟩ => ht ▸ copyName_ne _ random)
      (fun j t w ⟨random, ht⟩ => backup_guarded _ _ _ _ (ht ▸ copyName_ne _ random) w) hs h
  refine ⟨fun disk hdisk => ?_, fun j t hrun => ?_⟩
  · -- what is under the name was put there, and is on the disk
    obtain ⟨hmem, hfiles⟩ : disk.entry b.destination ∈ w.trace.disk.onDisk b.destination ∧
        ∀ i, Public (s.onDisk b.destination) w.trace (some i) →
          disk.files i = w.trace.disk.files i := by
      rcases hdisk with rfl | hcut
      · exact ⟨hsound.kept.whole.now _, fun _ _ => rfl⟩
      · exact ⟨hcut.entry _, fun i hi => hcut.kept i (hsound.kept.old i hi).2⟩
    have hcopy : ∀ x ∈ w.trace.placed, disk.entry b.destination = some x.2 →
        b.intact (b.copies x.1) = true ∧ disk.read b.destination = some (b.copies x.1) := by
      intro x hx hentry
      obtain ⟨-, hcontent, hintact⟩ := hsound.placed x hx
      refine ⟨hintact, ?_⟩
      unfold Disk.read
      rw [hentry, Option.map_some, hfiles x.2 (Or.inr ⟨x, hx, rfl⟩), hcontent]
    refine ⟨?_, fun j hj => ?_⟩
    · rcases hsound.kept.shown _ hmem with hfirst | ⟨x, hx, hentry⟩
      · refine Or.inl ⟨_, hfirst, ?_⟩
        unfold Disk.read
        cases he : disk.entry b.destination with
        | none => rfl
        | some i =>
          rw [he] at hfirst
          rw [Option.map_some, Option.map_some, hfiles i (Or.inl hfirst), hsound.first i hfirst]
      · exact Or.inr ⟨x.1, (hsound.placed x hx).1, hcopy x hx hentry⟩
    · obtain ⟨newer, i, older, hlog, hshown⟩ := hsound.since j hj
      obtain ⟨x, hx, hentry⟩ := hshown _ hmem
      have hplaced : x ∈ w.trace.placed := by
        rw [hlog]
        rcases List.mem_append.1 hx with hx | hx
        · exact List.mem_append_left _ hx
        · exact List.mem_append_right _ (List.mem_cons.2 (Or.inl (List.mem_singleton.1 hx)))
      refine ⟨newer.map Prod.fst, older.map Prod.fst, ?_, x.1, ?_, hcopy x hplaced hentry⟩
      · rw [hlog, List.map_append, List.map_cons]
      · have hfst := List.mem_map_of_mem (f := Prod.fst) hx
        rwa [List.map_append] at hfst
  · obtain ⟨-, -, -, hg⟩ := hsound.own j _ hrun
    exact (hg w.trace (.refl _ _ _) rfl).2

/-- Numbered copies, all of them checked. -/
def numberedBackups : Backups ℕ where
  intact := fun _ => true
  source := some "live"
  destination := "kept"
  copies := id
  checks := fun _ => true

/-- The program of a numbered backup. -/
theorem numbered_program (j : ℕ) (t : String) :
    backup numberedBackups.intact numberedBackups.source numberedBackups.destination t
      (numberedBackups.copies j) (numberedBackups.checks j) = .call (.create t) fun
        | .ok => .call (.write t j) fun
          | .ok => publishCopy "kept" t
          | _ => cleanUp t .raised
        | _ => .done .raised := by
  unfold backup
  rw [if_neg (by decide)]
  rfl

/-- The end of a backup whose copy is synced. -/
def putInPlace (t : String) : Prog String ℕ Outcome :=
  .call (.rename t "kept") fun
    | .ok => .call .syncNames fun
      | .ok => cleanUp t .returned
      | _ => cleanUp t .raised
    | _ => cleanUp t .raised

/-- A copy is put in place and its backup returns. -/
theorem putInPlace_returns {s w : Crew String ℕ} {j i : ℕ} {t : String} (hne : "kept" ≠ t)
    (hw : Relation.ReflTransGen numberedBackups.Step s w)
    (hrun : w.running j = some (t, putInPlace t)) (hi : w.trace.disk.entry t = some i) :
    ∃ w', Relation.ReflTransGen numberedBackups.Step s w' ∧ w'.returned = j :: w.returned ∧
      w'.trace.placed = (j, i) :: w.trace.placed ∧ (∀ k, k ≠ j → w'.running k = w.running k) ∧
      ∀ u, u ≠ t → u ≠ "kept" → w'.trace.disk.entry u = w.trace.disk.entry u := by
  have hrenamed := hw.tail (.call _ j t _ _ .ok _ hrun (.renamed t "kept" i hi))
  have hnames := hrenamed.tail
    (.call _ j t _ _ .ok _ (Function.update_self _ _ _) .namesSynced)
  have hcleaned := hnames.tail
    (.call _ j t _ _ .missing _ (Function.update_self _ _ _) (.missing t entry_link))
  have hreturned := hcleaned.tail (.finish _ j t .returned (Function.update_self _ _ _))
  refine ⟨_, hreturned, rfl, placed_rename hne, fun k hk => ?_, fun u hu hd => ?_⟩
  · simp only [Function.update_of_ne hk]
  · exact (entry_link_ne hu).trans (entry_link_ne hd)

/-- In a new directory, two backups at a time: the second begins before the first has written, and
puts its copy in place after the first has returned. A power cut after it leaves the second copy. -/
theorem backups_kept_two :
    ∃ w, Relation.ReflTransGen numberedBackups.Step (.start (Disk.empty 0)) w ∧
      0 ∈ w.returned ∧ 1 ∈ w.returned ∧
      ∀ disk, Cut w.trace.disk disk → disk.read "kept" = some 1 := by
  obtain ⟨t, ht⟩ : ∃ t, t = copyName "kept" "a" := ⟨_, rfl⟩
  obtain ⟨u, hu⟩ : ∃ u, u = copyName "kept" "b" := ⟨_, rfl⟩
  have htd : "kept" ≠ t := ht ▸ copyName_ne "kept" "a"
  have hud : "kept" ≠ u := hu ▸ copyName_ne "kept" "b"
  have htu : t ≠ u := by
    rw [ht, hu]
    decide
  have hbegun := Relation.ReflTransGen.single (r := numberedBackups.Step)
    (.begin (.start (Disk.empty 0)) 0 t nofun ⟨"a", ht⟩ rfl nofun)
  rw [numbered_program] at hbegun
  have hcreated := hbegun.tail (.call _ 0 t _ _ .ok _ rfl (.created t 0 rfl))
  have hjoined := hcreated.tail
    (.begin _ 1 u (fun h => absurd (List.mem_singleton.1 h) Nat.one_ne_zero) ⟨"b", hu⟩
      (entry_link_ne htu.symm) fun k x hx => by
        rcases update_some hx with ⟨-, rfl⟩ | ⟨-, hx⟩
        · exact htu
        rcases update_some hx with ⟨-, rfl⟩ | ⟨-, hx⟩
        · exact htu
        cases hx)
  rw [numbered_program] at hjoined
  have hwritten := hjoined.tail (.call _ 0 t _ _ .ok _ rfl (.written t 0 0 entry_link))
  have hcreated' := hwritten.tail
    (.call _ 1 u _ _ .ok _ rfl (.created u 0 (entry_link_ne htu.symm)))
  have hwritten' := hcreated'.tail (.call _ 1 u _ _ .ok _ rfl (.written u 1 1 entry_link))
  have hsynced := hwritten'.tail
    (.call _ 0 t _ _ .ok _ rfl (.synced t 0 ((entry_link_ne htu).trans entry_link)))
  have hsynced' := hsynced.tail (.call _ 1 u _ _ .ok _ rfl (.synced u 1 entry_link))
  -- the first copy is put in place, and then the second
  obtain ⟨w, hw, hfirst, hplaced, hrun, hentry⟩ :=
    putInPlace_returns (j := 0) htd hsynced' rfl ((entry_link_ne htu).trans entry_link)
  obtain ⟨w', hw', hsecond, hplaced', -⟩ :=
    putInPlace_returns hud hw (hrun 1 Nat.one_ne_zero)
      ((hentry u htu.symm hud.symm).trans entry_link)
  refine ⟨w', hw', ?_, ?_, fun disk hcut => ?_⟩
  · rw [hsecond, hfirst]
    exact List.mem_cons_of_mem _ List.mem_cons_self
  · rw [hsecond]
    exact List.mem_cons_self
  obtain ⟨newer, older, hlog, k, hk, -, hread⟩ :=
    ((backups_kept numberedBackups _ (whole_empty _ _ _) _ hw').1 disk (Or.inr hcut)).2 1
      (hsecond ▸ List.mem_cons_self)
  have hlog : [1, 0] = newer ++ 1 :: older := by
    rw [← hlog, hplaced', hplaced]
    rfl
  have hlast : newer = [] := by
    cases newer with
    | nil => rfl
    | cons a rest =>
      have hrest : [0] = rest ++ 1 :: older := (List.cons.inj hlog).2
      cases rest with
      | nil => cases hrest
      | cons b rest => cases rest <;> cases hrest
  rw [hlast] at hk
  rw [List.mem_singleton.1 hk] at hread
  exact hread

end ServerPilot.Database
