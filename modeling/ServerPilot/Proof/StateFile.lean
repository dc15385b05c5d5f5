import ServerPilot.Proof.Protocol
import ServerPilot.Spec.StateFile

/-!
# The recorded workers are never lost halfway

* `Sound`, `step_sound`: at every moment the file is what one call was to write, whole and on the
  disk, or is not there.
* `state_file_kept`: **whatever fails, dies or loses its power, the helper reads its file**: the
  workers of one call, and after a call that returned the workers of that call. What it looks like
  when a call ends is what `Helper.Write` says of it.
-/

namespace ServerPilot.Protocol

open DurableFile Helper

variable {floats : Floats}

theorem temporaryName_ne (random : String) : statePath ≠ temporaryName random := by
  intro h
  have hhead := congrArg (fun s : String => s.toList.head?) h
  unfold statePath temporaryName at hhead
  simp [String.toList_append] at hhead

/-- The texts of what these calls were to write. -/
def Written (floats : Floats) (begun : List Identities) (text : List Char) : Prop :=
  ∃ m ∈ begun, writtenText floats m = some text

theorem writtenText_none {m : Identities} : writtenText floats m = none ↔ m.entries = [] := by
  unfold writtenText stateFile
  by_cases h : m.entries = []
  · simp [h]
  · simp [h]

/-! ## What holds of a session -/

structure Session.Sound (floats : Floats) (w : Session) : Prop where
  whole : Whole (Written floats w.begun) statePath w.disk
  running : ∀ x, w.running = some x →
    Safe (Whole (Written floats w.begun) statePath)
      (fun r s => Ends statePath x.before (writtenText floats x.identities) r s ∧
        (r = .returned → ¬ (w.unsure = true ∧ x.idle) → Settled statePath s))
      x.program w.disk
  sure : w.running = none → w.unsure = false → Settled statePath w.disk
  promised : ∀ m, w.promised = some m →
    w.running = none ∧ Settled statePath w.disk ∧ w.disk.read statePath = writtenText floats m

section

variable {w w' : Session}

theorem start_sound : Session.start.Sound floats where
  whole := whole_empty _ _ _
  running := nofun
  sure := fun _ _ _ he => List.mem_singleton.1 he
  promised := nofun

/-- **A call that begins** is safe. -/
theorem writeIdentities_safe (identities : Identities) (random : String) {unsure : Bool}
    {begun : List Identities} {s : Disk String (List Char)}
    (hw : Whole (Written floats begun) statePath s) (hm : identities ∈ begun)
    (hs : unsure = false → Settled statePath s) :
    Safe (Whole (Written floats begun) statePath)
      (fun r s' => Ends statePath (s.read statePath) (writtenText floats identities) r s' ∧
        (r = .returned → ¬ (unsure = true ∧ identities.entries = [] ∧ s.read statePath = none) →
          Settled statePath s'))
      (writeIdentities floats random identities) s := by
  unfold writeIdentities
  cases htext : writtenText floats identities with
  | none =>
    refine (remove_safe hw).mono fun r s' h => ⟨h.1, fun hr hsure => h.2 hr ?_⟩
    cases hu : unsure with
    | false => exact Or.inl (hs hu)
    | true => exact Or.inr fun hread => hsure ⟨hu, writtenText_none.1 htext, hread⟩
  | some text =>
    have hsafe := publish_safe hw (temporaryName_ne random) ⟨identities, hm, htext⟩
    exact hsafe.mono fun r s' h => ⟨h.1, fun hr _ => h.2 hr⟩

/-- **One step** keeps a session sound. -/
theorem step_sound (h : w.Sound floats) (hstep : Session.Step floats w w') : w'.Sound floats := by
  cases hstep with
  | begin identities random hidle =>
    have hw : Whole (Written floats (identities :: w.begun)) statePath w.disk :=
      h.whole.mono fun c ⟨m, hm, hc⟩ => ⟨m, List.mem_cons_of_mem _ hm, hc⟩
    refine ⟨hw, fun x hx => ?_, nofun, nofun⟩
    cases hx
    exact writeIdentities_safe identities random hw List.mem_cons_self fun hu => h.sure hidle hu
  | call x c resume a disk hrun hp hd =>
    have hsafe := h.running x hrun
    rw [hp] at hsafe
    have hnext := hsafe.step hd
    refine ⟨hnext.now, fun y hy => ?_, nofun, fun m hm => ?_⟩
    · cases hy
      exact hnext
    · have hnone := (h.promised m hm).1
      rw [hrun] at hnone
      cases hnone
  | finish x r hrun hp =>
    have hsafe := h.running x hrun
    rw [hp] at hsafe
    obtain ⟨-, hends, hsettled⟩ := hsafe
    cases r with
    | raised => exact ⟨h.whole, nofun, nofun, nofun⟩
    | returned =>
      refine ⟨h.whole, nofun, fun _ hsure => hsettled rfl fun hboth => ?_, fun m hm => ?_⟩
      · have hsure : (w.unsure && decide x.idle) = false := hsure
        rw [hboth.1, decide_eq_true hboth.2] at hsure
        cases hsure
      · have hm : (if w.unsure = true ∧ x.idle then none else some x.identities) = some m := hm
        split_ifs at hm with hboth
        cases hm
        exact ⟨rfl, hsettled rfl hboth, hends.2 rfl⟩
  | die x disk hrun hd =>
    have hsafe := h.running x hrun
    have hw : Whole (Written floats w.begun) statePath disk := by
      rcases hd with rfl | ⟨c, resume, a, hp, hd⟩
      · exact h.whole
      · rw [hp] at hsafe
        exact (hsafe.step hd).now
    refine ⟨hw, nofun, nofun, fun m hm => ?_⟩
    have hnone := (h.promised m hm).1
    rw [hrun] at hnone
    cases hnone
  | cut disk hidle hd =>
    refine ⟨h.whole.cut hd, fun x hx => ?_, fun _ _ => settled_cut hd, fun m hm => ?_⟩
    · have hx : w.running = some x := hx
      rw [hidle] at hx
      cases hx
    · obtain ⟨-, hsettled, hread⟩ := h.promised m hm
      exact ⟨hidle, settled_cut hd, (hsettled.read_cut h.whole hd).trans hread⟩

theorem reached_sound (h : Relation.ReflTransGen (Session.Step floats) .start w) :
    w.Sound floats := by
  induction h with
  | refl => exact start_sound
  | tail _ hstep ih => exact step_sound ih hstep

end

/-! ## What is read -/

/-- What was written is read back. -/
theorem readIdentities_written (floats : Floats) (m : Identities) :
    ∃ m', readIdentities floats false (writtenText floats m) = .ok m' ∧
      ∀ u, m'.lookup u = m.lookup u := by
  obtain ⟨m', hm', hlookup⟩ := stateFile_identities m
  refine ⟨m', ?_, hlookup⟩
  unfold readIdentities StateDirectory.readIdentities
  rw [stateOfText_writtenText]
  exact hm'

/-- A file that holds what one of these calls was to write, or is not there, can be read. -/
theorem readIdentities_whole {begun : List Identities} {s : Disk String (List Char)}
    (h : Whole (Written floats begun) statePath s) :
    ∃ m', readIdentities floats false (s.read statePath) = .ok m' ∧
      (m' = ∅ ∨ ∃ m ∈ begun, ∀ u, m'.lookup u = m.lookup u) := by
  cases hread : s.read statePath with
  | none => exact ⟨∅, rfl, Or.inl rfl⟩
  | some text =>
    obtain ⟨m, hm, htext⟩ := h.read text hread
    obtain ⟨m', hm', hlookup⟩ := readIdentities_written floats m
    rw [htext] at hm'
    exact ⟨m', hm', Or.inr ⟨m, hm, hlookup⟩⟩

/-- How a call ended is one of the ways `Helper.Write` lists. -/
theorem ends_write {identities : Identities} {before : Option (List Char)} {r : Outcome}
    {s : Disk String (List Char)}
    (h : Ends statePath before (writtenText floats identities) r s) :
    ∃ write : Write, (write.error.isNone = true ↔ r = .returned) ∧
      stateOfText floats (s.read statePath) =
        write.file (stateOfText floats before) (stateFile identities) := by
  have hnew : s.read statePath = writtenText floats identities →
      stateOfText floats (s.read statePath) = stateFile identities := fun hread => by
    rw [hread, stateOfText_writtenText]
  cases r with
  | returned => exact ⟨.done, by simp [Write.error], hnew (h.2 rfl)⟩
  | raised =>
    rcases h.1 with hread | hread
    · exact ⟨.kept "", by simp [Write.error], by rw [hread]; rfl⟩
    · exact ⟨.replaced "", by simp [Write.error], hnew hread⟩

/-- **The recorded workers are kept.** In every session, also after a power cut at this moment: the
file reads as no workers or as those of one call; after a call that is to be relied on, as those of
that call; and at the end of a call it is what `Write` says. Every call that returned is to be
relied on until the next one begins, but one: a call without workers that finds no file after a call
that ended badly, if none has put a file in place or removed one since (`removal_undone`). -/
theorem state_file_kept (floats : Floats) (w : Session)
    (h : Relation.ReflTransGen (Session.Step floats) .start w) :
    (∀ disk, disk = w.disk ∨ Cut w.disk disk →
      (∃ m', readIdentities floats false (disk.read statePath) = .ok m' ∧
        (m' = ∅ ∨ ∃ m ∈ w.begun, ∀ u, m'.lookup u = m.lookup u)) ∧
      ∀ m, w.promised = some m →
        ∃ m', readIdentities floats false (disk.read statePath) = .ok m' ∧
          ∀ u, m'.lookup u = m.lookup u) ∧
    ∀ x r, w.running = some x → x.program = .done r →
      ∃ write : Write, (write.error.isNone = true ↔ r = .returned) ∧
        stateOfText floats (w.disk.read statePath) =
          write.file (stateOfText floats x.before) (stateFile x.identities) := by
  have hs : w.Sound floats := reached_sound h
  refine ⟨fun disk hdisk => ?_, fun x r hrun hp => ?_⟩
  · have hw : Whole (Written floats w.begun) statePath disk := by
      rcases hdisk with rfl | hcut
      · exact hs.whole
      · exact hs.whole.cut hcut
    refine ⟨readIdentities_whole hw, fun m hm => ?_⟩
    obtain ⟨-, hsettled, hread⟩ := hs.promised m hm
    have hsame : disk.read statePath = writtenText floats m := by
      rcases hdisk with rfl | hcut
      · exact hread
      · exact (hsettled.read_cut hs.whole hcut).trans hread
    rw [hsame]
    exact readIdentities_written floats m
  · have hsafe := hs.running x hrun
    rw [hp] at hsafe
    exact ends_write hsafe.2.1

/-- Floats that are not read or written. -/
def noFloats : Floats := ⟨fun _ => [], fun _ => none⟩

/-- A worker, and the record of it alone. -/
def oneWorker : Identity where
  pid := 7
  bootId := "boot"
  startTimeTicks := 1
  pid_pos := by decide
  bootId_len := by decide
  ticks_pos := by decide

def oneRecorded : Identities := AList.singleton oneGpu oneWorker

theorem oneRecorded_lookup : oneRecorded.lookup oneGpu = some oneWorker := by decide

/-- In a new directory, a call that records the worker. -/
theorem oneRecorded_run : ∃ w, Relation.ReflTransGen (Session.Step noFloats) .start w ∧
    w.running = none ∧ w.promised = some oneRecorded ∧ w.disk.entry statePath = some 0 ∧
    w.disk.onDisk statePath = [some 0] := by
  obtain ⟨text, htext⟩ : ∃ text, writtenText noFloats oneRecorded = some text :=
    Option.ne_none_iff_exists'.1 fun h => by cases writtenText_none.1 h
  obtain ⟨t, ht⟩ : ∃ t, t = temporaryName "a" := ⟨_, rfl⟩
  have hne : statePath ≠ t := ht ▸ temporaryName_ne "a"
  have hprogram : writeIdentities noFloats "a" oneRecorded = publish statePath t text := by
    unfold writeIdentities
    rw [htext, ht]
  have hbegun := Relation.ReflTransGen.single (r := Session.Step noFloats)
    (.begin .start oneRecorded "a" rfl)
  rw [hprogram] at hbegun
  have hcreated := hbegun.tail (.call _ _ _ _ .ok _ rfl rfl (.created t [] rfl))
  have hwritten := hcreated.tail (.call _ _ _ _ .ok _ rfl rfl (.written t 0 text entry_link))
  have hsynced := hwritten.tail (.call _ _ _ _ .ok _ rfl rfl (.synced t 0 entry_link))
  have hrenamed := hsynced.tail (.call _ _ _ _ .ok _ rfl rfl (.renamed t statePath 0 entry_link))
  have hnames := hrenamed.tail (.call _ _ _ _ .ok _ rfl rfl .namesSynced)
  have hcleaned := hnames.tail (.call _ _ _ _ .missing _ rfl rfl (.missing t entry_link))
  have hfinished := hcleaned.tail (.finish _ _ .returned rfl rfl)
  refine ⟨_, hfinished, rfl, rfl, ?_, ?_⟩
  · exact entry_renamed hne
  · exact congrArg (fun e => [e]) (entry_renamed hne)

/-- The worker is on record, also after a power cut. -/
theorem state_file_kept_recorded :
    ∃ w, Relation.ReflTransGen (Session.Step noFloats) .start w ∧ ∀ disk, Cut w.disk disk →
      ∃ m', readIdentities noFloats false (disk.read statePath) = .ok m' ∧
        m'.lookup oneGpu = some oneWorker := by
  obtain ⟨w, hw, -, hpromised, -⟩ := oneRecorded_run
  refine ⟨w, hw, fun disk hcut => ?_⟩
  obtain ⟨m', hm', hlookup⟩ :=
    ((state_file_kept noFloats w hw).1 disk (Or.inr hcut)).2 oneRecorded hpromised
  exact ⟨m', hm', (hlookup oneGpu).trans oneRecorded_lookup⟩

/-- A power cut at which one name stands for a file it stood for before. -/
theorem cut_back {s : Disk String (List Char)} {d : String} {e : Option ℕ} (he : e ∈ s.onDisk d)
    (hs : ∀ n, s.entry n ∈ s.onDisk n) :
    ∃ disk, Cut s disk ∧ disk.entry d = e ∧
      ∀ i, (s.files i).synced = true → disk.files i = s.files i := by
  refine ⟨⟨fun i => ⟨(s.files i).content, true⟩, s.count, Function.update s.entry d e,
    fun n => [Function.update s.entry d e n]⟩, ⟨rfl, fun i hi => ?_, fun _ => rfl, fun n => ?_,
    fun _ => rfl⟩, Function.update_self _ _ _, fun i hi => ?_⟩
  · rw [← hi]
  · change Function.update s.entry d e n ∈ s.onDisk n
    by_cases hn : n = d
    · subst hn
      rwa [Function.update_self]
    · rw [Function.update_of_ne hn]
      exact hs n
  · rw [← hi]

/-- **A removal that returned may be undone.** The file is removed, the directory cannot be synced
and the call raises; the next call finds no file, syncs nothing and returns; the power is cut, and
the worker is on record again. -/
theorem removal_undone :
    ∃ w x disk, Relation.ReflTransGen (Session.Step noFloats) .start w ∧
      w.running = some x ∧ x.identities = ∅ ∧ x.program = .done .returned ∧ Cut w.disk disk ∧
      ∃ m', readIdentities noFloats false (disk.read statePath) = .ok m' ∧
        m'.lookup oneGpu = some oneWorker := by
  obtain ⟨w, hw, hidle, hpromised, hentry, hshown⟩ := oneRecorded_run
  have hprogram : writeIdentities noFloats "b" ∅ = remove statePath := by
    unfold writeIdentities
    rw [writtenText_none.2 rfl]
  have hbegun := hw.tail (.begin w ∅ "b" hidle)
  rw [hprogram] at hbegun
  have hunlinked := hbegun.tail (.call _ _ _ _ .ok _ rfl rfl (.unlinked statePath 0 hentry))
  have hfailed := hunlinked.tail (.call _ _ _ _ .failed _ rfl rfl (.failed _))
  have hraised := hfailed.tail (.finish _ _ .raised rfl rfl)
  have hagain := hraised.tail (.begin _ ∅ "b" rfl)
  rw [hprogram] at hagain
  have hmissing := hagain.tail (.call _ _ _ _ .missing _ rfl rfl (.missing statePath entry_link))
  have hold : some 0 ∈ (w.disk.link statePath none).onDisk statePath := by
    unfold Disk.link
    simp only [Function.update_self, hshown]
    exact List.mem_cons_of_mem _ (List.mem_singleton_self _)
  obtain ⟨disk, hcut, hback, hsame⟩ := cut_back hold (reached_sound hmissing).whole.now
  refine ⟨_, _, disk, hmissing, rfl, rfl, rfl, hcut, ?_⟩
  -- the file that is back is the one the record was written to
  have hsound := reached_sound hw
  have hread : disk.read statePath = writtenText noFloats oneRecorded := by
    obtain ⟨hsynced, -⟩ := hsound.whole.whole _ (hshown ▸ List.mem_singleton_self _) 0 rfl
    rw [← (hsound.promised oneRecorded hpromised).2.2]
    unfold Disk.read
    rw [hback, hentry, Option.map_some, Option.map_some, hsame 0 hsynced]
    rfl
  rw [hread]
  obtain ⟨m', hm', hlookup⟩ := readIdentities_written noFloats oneRecorded
  exact ⟨m', hm', (hlookup oneGpu).trans oneRecorded_lookup⟩

end ServerPilot.Protocol
