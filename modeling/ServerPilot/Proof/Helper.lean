import ServerPilot.Spec.Helper
import Mathlib.Data.List.Induction

/-!
# What the helper records of its workers

`stateFile_identities`: what the helper writes of its workers is what it reads back.
A call that starts workers writes them once, at its end, from a dict by card: of two
submissions for one card only the later is looked at. So every worker that came up
is on record exactly if no submission but the last of its card succeeds and the last
write puts the new file in place: `records_iff`.
-/

namespace ServerPilot.Helper

open Checked

/-! ## The file -/

theorem readWorker_workerEntry (x : Sigma fun _ : GpuUuid => Identity) :
    readWorker (workerEntry x) = .ok (x.1, x.2) := by
  obtain ⟨⟨u, hu⟩, pid, bootId, ticks, hpid, hboot, hticks⟩ := x
  have hcard : readCard (workerEntry ⟨⟨u, hu⟩, pid, bootId, ticks, hpid, hboot, hticks⟩) =
      .ok (⟨u, hu⟩, ⟨pid, hpid⟩) := by
    simp [readCard, workerEntry, validateGpuUuid, List.lookup_cons, hu, hpid]
  unfold readWorker
  rw [hcard]
  simp [workerEntry, List.lookup_cons, hboot, hticks]

/-- Entries of cards that are not on record yet are all taken. -/
theorem readWorkers_entries {l : List (Sigma fun _ : GpuUuid => Identity)} (hl : l.NodupKeys)
    {m : Identities} (hm : ∀ x ∈ l, x.1 ∉ m) :
    ∃ m', readWorkers (l.map workerEntry) m = .ok m' ∧
      ∀ u, m'.lookup u = (l.dlookup u).or (m.lookup u) := by
  induction l generalizing m with
  | nil => exact ⟨m, rfl, fun u => by simp⟩
  | cons x rest ih =>
    obtain ⟨hx, hrest⟩ := List.nodupKeys_cons.1 hl
    have hfresh : ∀ y ∈ rest, y.1 ∉ m.insert x.1 x.2 := by
      intro y hy hmem
      rcases (AList.mem_insert m).1 hmem with h | h
      · exact hx (h ▸ List.mem_keys_of_mem hy)
      · exact hm y (List.mem_cons_of_mem _ hy) h
    obtain ⟨m', hread, hlookup⟩ := ih hrest hfresh
    refine ⟨m', ?_, fun u => ?_⟩
    · rw [List.map_cons, readWorkers, readWorker_workerEntry]
      dsimp only
      rw [if_neg (hm x List.mem_cons_self)]
      exact hread
    · rw [hlookup]
      by_cases hu : u = x.1
      · subst hu
        rw [AList.lookup_insert, List.dlookup_cons_eq]
        have hnone : rest.dlookup x.1 = none := List.dlookup_eq_none.2 hx
        rw [hnone]
        rfl
      · rw [AList.lookup_insert_ne hu]
        obtain ⟨v, identity⟩ := x
        rw [List.dlookup_cons_ne _ _ hu]

/-- **The file reads back** as the workers that were written. -/
theorem stateFile_identities (m : Identities) :
    ∃ m', (stateFile m).identities = .ok m' ∧ ∀ u, m'.lookup u = m.lookup u := by
  unfold stateFile
  by_cases hempty : m.entries = []
  · refine ⟨∅, by rw [if_pos hempty]; rfl, fun u => ?_⟩
    have hm : m = ∅ := AList.ext hempty
    rw [hm]
  · rw [if_neg hempty]
    set l := m.entries.mergeSort fun x y => x.1.1 ≤ y.1.1 with hl
    have hperm : l.Perm m.entries := List.mergeSort_perm _ _
    have hnodup : l.NodupKeys := (List.perm_nodupKeys hperm).2 m.nodupKeys
    obtain ⟨m', hread, hlookup⟩ := readWorkers_entries hnodup (m := ∅)
      fun x _ => AList.notMem_empty x.1
    refine ⟨m', ?_, fun u => ?_⟩
    · exact hread
    · rw [hlookup, AList.lookup_empty, Option.or_none]
      exact List.perm_dlookup u hnodup hperm

/-- Whether a later call finds this worker on record for the card. -/
def StateFile.Lists (file : StateFile) (u : GpuUuid) (identity : Identity) : Prop :=
  ∃ m, file.identities = .ok m ∧ m.lookup u = some identity

/-- The file says what the helper holds in memory. -/
def StateFile.Agrees (file : StateFile) (m : Identities) : Prop :=
  ∃ m', file.identities = .ok m' ∧ ∀ u, m'.lookup u = m.lookup u

variable {file : StateFile} {m : Identities} {u : GpuUuid} {identity : Identity}

theorem StateFile.Agrees.lists_iff (h : file.Agrees m) :
    file.Lists u identity ↔ m.lookup u = some identity := by
  obtain ⟨m', hread, hlookup⟩ := h
  unfold Lists
  rw [hread, ← hlookup]
  constructor
  · rintro ⟨m'', hok, hm⟩
    cases hok
    exact hm
  · exact fun hm => ⟨m', rfl, hm⟩

/-! ## Before anything is started -/

variable {h : Host} {l : Places} {i : ℕ} {x : GpuUuid × ℕ}

/-- A place that waits for a start: nothing is on record for its card, or what is does not run when
it is looked at here or at an earlier place of the card. -/
def Waits (h : Host) (m : Identities) (l : Places) (u : GpuUuid) (i : ℕ) : Prop :=
  (u, i) ∈ l ∧ (m.lookup u = none ∨ ∃ k ≤ i, (u, k) ∈ l ∧ h.isRunning k = false)

/-- A place at which a record is dropped. -/
def Drops (h : Host) (m : Identities) (l : Places) (u : GpuUuid) (i : ℕ) : Prop :=
  (u, i) ∈ l ∧ m.lookup u ≠ none ∧ h.isRunning i = false ∧
    ∀ k < i, (u, k) ∈ l → h.isRunning k = true

variable {v : GpuUuid} {j : ℕ} {a : Identity}

theorem waits_of_none (hm : m.lookup v = none) :
    Waits h m ((v, j) :: l) u i ↔ (u, i) = (v, j) ∨ Waits h m l u i := by
  unfold Waits
  grind

theorem drops_of_none (hm : m.lookup v = none) :
    Drops h m ((v, j) :: l) u i ↔ Drops h m l u i := by
  unfold Drops
  grind

theorem drops_of_running (hrun : h.isRunning j = true) :
    Drops h m ((v, j) :: l) u i ↔ Drops h m l u i := by
  unfold Drops
  grind

section

variable (hj : ∀ y ∈ l, j < y.2)

include hj

theorem waits_of_running (hm : m.lookup v = some a) (hrun : h.isRunning j = true) :
    Waits h m ((v, j) :: l) u i ↔ Waits h m l u i := by
  unfold Waits
  grind

theorem waits_of_dead (hrun : h.isRunning j = false) :
    Waits h m ((v, j) :: l) u i ↔ (u, i) = (v, j) ∨ Waits h (m.erase v) l u i := by
  unfold Waits
  by_cases huv : u = v
  · subst huv
    rw [AList.lookup_erase]
    grind
  · rw [AList.lookup_erase_ne huv]
    grind

theorem drops_of_dead (hm : m.lookup v = some a) (hrun : h.isRunning j = false) :
    Drops h m ((v, j) :: l) u i ↔ (u, i) = (v, j) ∨ Drops h (m.erase v) l u i := by
  unfold Drops
  by_cases huv : u = v
  · subst huv
    rw [AList.lookup_erase]
    grind
  · rw [AList.lookup_erase_ne huv]
    grind

end

/-- What the first loop comes to on the rest `l` of the request: `fresh` is what it adds to
`pending`. -/
structure Surveyed (h : Host) (l : Places) (s s' : Survey) (fresh : Places) : Prop where
  pending : s'.pending = s.pending ++ fresh
  sublist : fresh.Sublist l
  mem_iff : ∀ u i, (u, i) ∈ fresh ↔ Waits h s.identities l u i
  absent : ∀ u, s.identities.lookup u = none ∨ (∃ i, (u, i) ∈ fresh) →
    s'.identities.lookup u = none
  agrees : s.file.Agrees s.identities → s'.file.Agrees s'.identities
  saved : ∀ u i, Drops h s.identities l u i → h.drop i = .done

theorem Write.error_eq_none {w : Write} : w.error = none ↔ w = .done := by
  cases w <;> simp [Write.error]

/-- **The first loop** finds the places that wait, and what it leaves says of none of their cards
that it has a worker; it fails only on a write. -/
theorem survey_spec (hl : l.Pairwise fun x y => x.2 < y.2) (s : Survey) :
    (∃ s' fresh, survey h l s = .ok s' ∧ Surveyed h l s s' fresh) ∨
      (∃ e, survey h l s = .error e) ∧ ∃ u i, Drops h s.identities l u i ∧ h.drop i ≠ .done := by
  induction l generalizing s with
  | nil =>
    refine .inl ⟨s, [], rfl, ?_⟩
    exact {
      pending := (List.append_nil _).symm
      sublist := List.Sublist.refl _
      mem_iff := fun u i => by simp [Waits]
      absent := fun u hu => hu.elim id fun ⟨_, hi⟩ => absurd hi List.not_mem_nil
      agrees := id
      saved := fun u i hd => absurd hd.1 List.not_mem_nil }
  | cons x rest ih =>
    obtain ⟨v, j⟩ := x
    obtain ⟨hj, hrest⟩ := List.pairwise_cons.1 hl
    unfold survey
    cases hm : s.identities.lookup v with
    | none =>
      dsimp only
      rcases ih hrest { s with pending := s.pending ++ [(v, j)] } with
        ⟨s', fresh, hs, hsur⟩ | ⟨herr, u, i, hdrop, hw⟩
      · refine .inl ⟨s', (v, j) :: fresh, hs, ?_⟩
        exact {
          pending := by rw [hsur.pending, List.append_assoc]; rfl
          sublist := hsur.sublist.cons_cons _
          mem_iff := fun u i => by rw [List.mem_cons, hsur.mem_iff, waits_of_none hm]
          absent := fun u hu => by
            apply hsur.absent
            rcases hu with hu | ⟨i, hi⟩
            · exact .inl hu
            · rcases List.mem_cons.1 hi with hi | hi
              · cases hi
                exact .inl hm
              · exact .inr ⟨i, hi⟩
          agrees := hsur.agrees
          saved := fun u i hd => hsur.saved u i ((drops_of_none hm).1 hd) }
      · exact .inr ⟨herr, u, i, (drops_of_none hm).2 hdrop, hw⟩
    | some a =>
      dsimp only
      cases hrun : h.isRunning j with
      | true =>
        rw [if_pos rfl]
        rcases ih hrest { s with results := s.results.insert v .unchanged } with
          ⟨s', fresh, hs, hsur⟩ | ⟨herr, u, i, hdrop, hw⟩
        · refine .inl ⟨s', fresh, hs, ?_⟩
          exact {
            pending := hsur.pending
            sublist := hsur.sublist.cons _
            mem_iff := fun u i => by rw [hsur.mem_iff, waits_of_running hj hm hrun]
            absent := hsur.absent
            agrees := hsur.agrees
            saved := fun u i hd => hsur.saved u i ((drops_of_running hrun).1 hd) }
        · exact .inr ⟨herr, u, i, (drops_of_running hrun).2 hdrop, hw⟩
      | false =>
        rw [if_neg Bool.false_ne_true]
        have hhead : Drops h s.identities ((v, j) :: rest) v j :=
          (drops_of_dead hj hm hrun).2 (.inl rfl)
        cases hw : (h.drop j).error with
        | some e =>
          refine .inr ⟨⟨_, rfl⟩, v, j, hhead, fun hdone => ?_⟩
          rw [Write.error_eq_none.2 hdone] at hw
          cases hw
        | none =>
          dsimp only
          have hdone : h.drop j = .done := Write.error_eq_none.1 hw
          rcases ih hrest { s with
              identities := s.identities.erase v
              file := (h.drop j).file s.file (stateFile (s.identities.erase v))
              pending := s.pending ++ [(v, j)] } with
            ⟨s', fresh, hs, hsur⟩ | ⟨herr, u, i, hdrop, hw'⟩
          · refine .inl ⟨s', (v, j) :: fresh, hs, ?_⟩
            exact {
              pending := by rw [hsur.pending, List.append_assoc]; rfl
              sublist := hsur.sublist.cons_cons _
              mem_iff := fun u i => by rw [List.mem_cons, hsur.mem_iff, waits_of_dead hj hrun]
              absent := fun u hu => by
                apply hsur.absent
                by_cases huv : u = v
                · subst huv
                  exact .inl (AList.lookup_erase _ _)
                · rcases hu with hu | ⟨i, hi⟩
                  · exact .inl ((AList.lookup_erase_ne huv).trans hu)
                  · rcases List.mem_cons.1 hi with hi | hi
                    · cases hi
                      exact absurd rfl huv
                    · exact .inr ⟨i, hi⟩
              agrees := fun _ => hsur.agrees (by
                rw [hdone]
                exact stateFile_identities _)
              saved := fun u i hd => by
                rcases (drops_of_dead hj hm hrun).1 hd with hd | hd
                · cases hd
                  exact hdone
                · exact hsur.saved u i hd }
          · exact .inr ⟨herr, u, i, (drops_of_dead hj hm hrun).2 (.inr hdrop), hw'⟩

/-! ## What was started -/

/-- Of two submissions for one card the later is kept. -/
theorem submitted_later (hl : l.Pairwise fun x y => x.2 < y.2) (hu : (u, i) ∈ l) :
    ∃ j, (submitted l).lookup u = some j ∧ (u, j) ∈ l ∧ i ≤ j := by
  induction l using List.reverseRecOn with
  | nil => exact absurd hu List.not_mem_nil
  | append_singleton rest x ih =>
    obtain ⟨v, k⟩ := x
    obtain ⟨hrest, -, hlast⟩ := List.pairwise_append.1 hl
    have hsub : submitted (rest ++ [(v, k)]) = (submitted rest).insert v k := by
      unfold submitted
      rw [List.foldl_append]
      rfl
    rw [hsub]
    by_cases huv : u = v
    · subst huv
      refine ⟨k, AList.lookup_insert _, by simp, ?_⟩
      rcases List.mem_append.1 hu with hu | hu
      · exact (hlast _ hu _ List.mem_cons_self).le
      · rw [List.mem_singleton] at hu
        cases hu
        exact le_rfl
    · have hin : (u, i) ∈ rest := by
        rcases List.mem_append.1 hu with hu | hu
        · exact hu
        · rw [List.mem_singleton] at hu
          cases hu
          exact absurd rfl huv
      obtain ⟨j, hj, hmem, hle⟩ := ih hrest hin
      exact ⟨j, (AList.lookup_insert_ne huv).trans hj, List.mem_append_left _ hmem, hle⟩

variable {futures : AList fun _ : GpuUuid => ℕ} {s : Gathered} {us : List GpuUuid}

/-- The worker that the submission kept for a card gave, if it came up. -/
def broughtUp (h : Host) (futures : AList fun _ : GpuUuid => ℕ) (u : GpuUuid) : Option Identity :=
  (futures.lookup u).bind fun j => (h.start j).toOption

theorem collect_lookup (v : GpuUuid) : (s.collect h futures v).identities.lookup u =
    if u = v then (broughtUp h futures v).or (s.identities.lookup u)
    else s.identities.lookup u := by
  unfold Gathered.collect broughtUp
  cases hj : futures.lookup v with
  | none => simp
  | some j =>
    cases hstart : h.start j with
    | error e => simp [hstart, Except.toOption]
    | ok identity =>
      by_cases huv : u = v
      · subst huv
        simp [hstart, Except.toOption]
      · simp [hstart, huv]

/-- The second loop puts down what came up for each card it goes through. -/
theorem gathered_lookup : (us.foldl (Gathered.collect h futures) s).identities.lookup u =
    if u ∈ us then (broughtUp h futures u).or (s.identities.lookup u)
    else s.identities.lookup u := by
  induction us generalizing s with
  | nil => simp
  | cons v rest ih =>
    rw [List.foldl_cons, ih, collect_lookup]
    by_cases huv : u = v
    · subst huv
      cases broughtUp h futures u <;> simp
    · simp [huv]

/-! ## The call -/

/-- What a call owes: every worker that it started and that came up is on record as itself, and no
card was given two. -/
def Called.Recorded (c : Called) : Prop :=
  (∀ x ∈ c.started, c.file.Lists x.1 x.2) ∧ (c.started.map Prod.fst).Nodup

/-- A write that leaves the old file in place. -/
def Write.loses : Write → Bool
  | .kept _ => true
  | _ => false

theorem Write.file_of_loses {w : Write} {old new : StateFile} (hw : w.loses = true) :
    w.file old new = old := by
  cases w with
  | kept => rfl
  | done => cases hw
  | replaced => cases hw

theorem Write.file_of_saves {w : Write} {old new : StateFile} (hw : w.loses = false) :
    w.file old new = new := by
  cases w with
  | kept => cases hw
  | done => rfl
  | replaced => rfl

/-- Whether the submission at a place gives no worker. -/
def Host.fails (h : Host) (i : ℕ) : Prop := (h.start i).toOption = none

/-- When a call puts down every worker it starts: unless it ends before it starts any, no
submission but the last of its card succeeds, and the last write takes if anything came up. -/
def Host.Traces (h : Host) (requested : List GpuUuid) (m : Identities) : Prop :=
  (∀ u i, Drops h m requested.zipIdx u i → h.drop i = .done) →
    (∀ u i j, i < j → Waits h m requested.zipIdx u i → (u, j) ∈ requested.zipIdx → h.fails i) ∧
      (h.save.loses = true → ∀ u i, Waits h m requested.zipIdx u i → h.fails i)

theorem mem_cameUp {pending : Places} :
    (u, identity) ∈ cameUp h pending ↔
      ∃ i, (u, i) ∈ pending ∧ (h.start i).toOption = some identity := by
  unfold cameUp
  simp only [List.mem_filterMap, Option.map_eq_some_iff, Prod.mk.injEq, Prod.exists]
  constructor
  · rintro ⟨v, i, hmem, a, hstart, rfl, rfl⟩
    exact ⟨i, hmem, hstart⟩
  · rintro ⟨i, hmem, hstart⟩
    exact ⟨u, i, hmem, identity, hstart, rfl, rfl⟩

/-- Among places in order, what holds of each two holds of the earlier and the later. -/
theorem pairwise_places {R : GpuUuid × ℕ → GpuUuid × ℕ → Prop}
    (hl : l.Pairwise fun x y => x.2 < y.2) :
    l.Pairwise R ↔ ∀ x ∈ l, ∀ y ∈ l, x.2 < y.2 → R x y := by
  constructor
  · intro hR x hx y hy hxy
    obtain ⟨a, ha, rfl⟩ := List.getElem_of_mem hx
    obtain ⟨b, hb, rfl⟩ := List.getElem_of_mem hy
    rcases lt_trichotomy a b with hab | rfl | hab
    · exact List.pairwise_iff_getElem.1 hR a b ha hb hab
    · exact absurd hxy (lt_irrefl _)
    · exact absurd (List.pairwise_iff_getElem.1 hl b a hb ha hab) hxy.asymm
  · exact fun hR => hl.imp_of_mem fun hx hy hxy => hR _ hx _ hy hxy

/-- No card got two workers exactly if of two submissions for one card one failed. -/
theorem nodup_cameUp {pending : Places} (hp : pending.Pairwise fun x y => x.2 < y.2) :
    ((cameUp h pending).map Prod.fst).Nodup ↔
      ∀ u i j, (u, i) ∈ pending → (u, j) ∈ pending → i < j → h.fails i ∨ h.fails j := by
  unfold List.Nodup cameUp
  rw [List.pairwise_map, List.pairwise_filterMap, pairwise_places hp]
  constructor
  · intro hne u i j hi hj hij
    by_contra hboth
    obtain ⟨hfi, hfj⟩ := not_or.1 hboth
    obtain ⟨a, ha⟩ := Option.ne_none_iff_exists'.1 hfi
    obtain ⟨b, hb⟩ := Option.ne_none_iff_exists'.1 hfj
    exact hne _ hi _ hj hij (u, a) (by rw [ha]; rfl) (u, b) (by rw [hb]; rfl) rfl
  · rintro hfails ⟨u, i⟩ hi ⟨v, j⟩ hj hij x hx y hy hxy
    obtain ⟨a, ha, rfl⟩ := Option.map_eq_some_iff.1 hx
    obtain ⟨b, hb, rfl⟩ := Option.map_eq_some_iff.1 hy
    obtain rfl : u = v := hxy
    rcases hfails u i j hi hj hij with hf | hf
    · exact absurd (hf.symm.trans ha) (Option.some_ne_none a).symm
    · exact absurd (hf.symm.trans hb) (Option.some_ne_none b).symm

/-- A place that waits, and one of its card after it. -/
theorem Waits.later {j : ℕ} (hw : Waits h m l u i) (hij : i ≤ j) (hj : (u, j) ∈ l) :
    Waits h m l u j :=
  ⟨hj, hw.2.imp_right fun ⟨k, hk, hmem, hrun⟩ => ⟨k, hk.trans hij, hmem, hrun⟩⟩

theorem zipIdx_increasing (requested : List GpuUuid) :
    requested.zipIdx.Pairwise fun x y => x.2 < y.2 := by
  rw [← List.pairwise_map (f := Prod.snd), List.zipIdx_map_snd]
  exact List.pairwise_lt_range'

/-- What the starts of a call come to for a card that waits for one: the last place of the card
decides. -/
theorem gathered_of_waiting {pending : Places} (hp : pending.Pairwise fun x y => x.2 < y.2)
    (hnone : s.identities.lookup u = none) (hu : (u, i) ∈ pending) :
    ∃ j, (u, j) ∈ pending ∧ i ≤ j ∧
      ((pending.map Prod.fst).foldl (Gathered.collect h (submitted pending))
        s).identities.lookup u = (h.start j).toOption := by
  obtain ⟨j, hj, hmem, hle⟩ := submitted_later hp hu
  refine ⟨j, hmem, hle, ?_⟩
  rw [gathered_lookup, if_pos (List.mem_map_of_mem hmem), hnone, Option.or_none]
  unfold broughtUp
  rw [hj]
  rfl

/-- The workers that came up of `pending`, and whether the file after the last write lists them. -/
theorem recorded_iff {pending : Places} (hp : pending.Pairwise fun x y => x.2 < y.2)
    (hold : file.Agrees s.identities)
    (hnone : ∀ u i, (u, i) ∈ pending → s.identities.lookup u = none)
    (answer : Except HelperError KeepaliveResponse) :
    Called.Recorded { answer, started := cameUp h pending, file := h.save.file file (stateFile
      ((pending.map Prod.fst).foldl (Gathered.collect h (submitted pending)) s).identities) } ↔
      (∀ u i j, (u, i) ∈ pending → (u, j) ∈ pending → i < j → h.fails i) ∧
        (h.save.loses = true → ∀ u i, (u, i) ∈ pending → h.fails i) := by
  unfold Called.Recorded
  dsimp only
  rw [nodup_cameUp hp]
  cases hlost : h.save.loses with
  | true =>
    -- The old file is in place, and it lists none of these cards.
    rw [Write.file_of_loses hlost]
    constructor
    · rintro ⟨hlists, -⟩
      have hall : ∀ u i, (u, i) ∈ pending → h.fails i := by
        intro u i hi
        by_contra hup
        obtain ⟨a, ha⟩ := Option.ne_none_iff_exists'.1 hup
        have hon := hold.lists_iff.1 (hlists (u, a) (mem_cameUp.2 ⟨i, hi, ha⟩))
        rw [hnone u i hi] at hon
        cases hon
      exact ⟨fun u i _ hi _ _ => hall u i hi, fun _ => hall⟩
    · rintro ⟨hearlier, hall⟩
      refine ⟨?_, fun u i j hi hj hij => .inl (hearlier u i j hi hj hij)⟩
      rintro ⟨u, a⟩ hup
      obtain ⟨i, hi, ha⟩ := mem_cameUp.1 hup
      exact absurd ((hall rfl u i hi).symm.trans ha) (Option.some_ne_none a).symm
  | false =>
    rw [Write.file_of_saves hlost]
    constructor
    · rintro ⟨hlists, hone⟩
      refine ⟨fun u i j hi hj hij => ?_, nofun⟩
      by_contra hup
      obtain ⟨a, ha⟩ := Option.ne_none_iff_exists'.1 hup
      have hon := (StateFile.Agrees.lists_iff (stateFile_identities _)).1
        (hlists (u, a) (mem_cameUp.2 ⟨i, hi, ha⟩))
      obtain ⟨k, hk, hjk, hlookup⟩ := gathered_of_waiting hp (hnone u j hj) hj
      have hka : (h.start k).toOption = some a := hlookup.symm.trans hon
      rcases hone u i k hi hk (hij.trans_le hjk) with hf | hf
      · exact hup hf
      · exact absurd (hf.symm.trans hka) (Option.some_ne_none a).symm
    · rintro ⟨hearlier, -⟩
      refine ⟨?_, fun u i j hi hj hij => .inl (hearlier u i j hi hj hij)⟩
      rintro ⟨u, a⟩ hup
      obtain ⟨i, hi, ha⟩ := mem_cameUp.1 hup
      obtain ⟨k, hk, hik, hlookup⟩ := gathered_of_waiting hp (hnone u i hi) hi
      have hsame : i = k := by
        by_contra hne
        have hf := hearlier u i k hi hk (lt_of_le_of_ne hik hne)
        exact absurd (hf.symm.trans ha) (Option.some_ne_none a).symm
      subst hsame
      exact (StateFile.Agrees.lists_iff (stateFile_identities _)).2 (hlookup.trans ha)

/-- **What `_enable` puts down.** -/
theorem enable_recorded (requested : List GpuUuid) (hm : file.Agrees m) :
    (enable h requested m file).Recorded ↔ h.Traces requested m := by
  unfold enable
  rcases survey_spec (zipIdx_increasing requested) { identities := m, file } with
    ⟨s, fresh, hs, hsur⟩ | ⟨⟨e, he⟩, u, i, hdrop, hw⟩
  · rw [hs]
    dsimp only
    have hpending : s.pending = fresh := hsur.pending
    rw [hpending]
    have htraces : h.Traces requested m ↔
        (∀ u i j, (u, i) ∈ fresh → (u, j) ∈ fresh → i < j → h.fails i) ∧
          (h.save.loses = true → ∀ u i, (u, i) ∈ fresh → h.fails i) := by
      unfold Host.Traces
      simp only [hsur.mem_iff]
      constructor
      · exact fun ht => ⟨fun u i j hi hj hij => (ht hsur.saved).1 u i j hij hi hj.1,
          (ht hsur.saved).2⟩
      · exact fun ht _ => ⟨fun u i j hij hi hj => ht.1 u i j hi (hi.later hij.le hj) hij, ht.2⟩
    rw [htraces]
    split
    · next hempty =>
      subst hempty
      exact iff_of_true ⟨fun x hx => absurd hx List.not_mem_nil, List.nodup_nil⟩
        ⟨fun u i j hi => absurd hi List.not_mem_nil, fun _ u i hi => absurd hi List.not_mem_nil⟩
    · exact recorded_iff ((zipIdx_increasing requested).sublist hsur.sublist) (hsur.agrees hm)
        (fun u i hi => hsur.absent u (.inr ⟨i, hi⟩)) _
  · rw [he]
    dsimp only
    exact iff_of_true ⟨fun x hx => absurd hx List.not_mem_nil, List.nodup_nil⟩
      fun hsaved => absurd (hsaved u i hdrop) hw

/-- What a call that reached its first loop read agrees with the file. -/
theorem checkRequest_agrees {dir : StateDirectory} {gpuUuids : List Json} {requested : List GpuUuid}
    (ha : checkRequest h dir gpuUuids = .ok (requested, m)) : dir.workers.Agrees m := by
  unfold checkRequest at ha
  simp only [bind_ok, require_ok, pure_ok, Prod.mk.injEq] at ha
  obtain ⟨_, -, _, -, _, -, _, -, _, -, m', hread, -, rfl⟩ := ha
  unfold StateDirectory.readIdentities at hread
  split at hread
  · cases hread
  · exact ⟨m', hread, fun _ => rfl⟩

/-- **Every worker is put down** by a call exactly if, when it gets as far as starting them, no
submission but the last of its card succeeds, and its last write takes if anything came up. -/
theorem records_iff (h : Host) (dir : StateDirectory) (gpuUuids : List Json) :
    (setEnabled h dir true gpuUuids).Recorded ↔
      ∀ requested m, checkRequest h dir gpuUuids = .ok (requested, m) → h.Traces requested m := by
  unfold setEnabled
  cases ha : checkRequest h dir gpuUuids with
  | error e =>
    dsimp only
    exact iff_of_true ⟨fun x hx => absurd hx List.not_mem_nil, List.nodup_nil⟩ nofun
  | ok found =>
    obtain ⟨requested, m⟩ := found
    dsimp only
    rw [if_pos rfl, enable_recorded requested (checkRequest_agrees ha)]
    constructor
    · intro ht requested' m' heq
      cases heq
      exact ht
    · exact fun ht => ht requested m rfl

theorem oneGpu_matches : matchesGpuUuid "GPU-00000000-0000-0000-0000-00000000000a" = true := by
  decide +kernel

/-- The card of the example. -/
def oneGpu : GpuUuid := ⟨"GPU-00000000-0000-0000-0000-00000000000a", oneGpu_matches⟩

theorem bootId_fits : 1 ≤ "boot".length ∧ "boot".length ≤ 128 := by decide

/-- The worker of the `i`th start. -/
def workerOf (i : ℕ) : Identity :=
  ⟨i.succ, "boot", 1, Int.natCast_succ_pos i, bootId_fits, Int.one_pos⟩

/-- A server with one card, on which every start succeeds, each with a process of its own. -/
def freshHost : Host where
  knownGpuUuids := .ok [oneGpu]
  isRunning _ := false
  start i := .ok (workerOf i)

/-- A request to enable one card, which names it twice. -/
def namedTwice : Json :=
  .object [("schema_version", .int 3), ("enabled", .bool true),
    ("gpu_uuids", .list [.text oneGpu.1, .text oneGpu.1])]

/-- **A card named twice gets two workers**, and one of them is on no record. -/
theorem repeated_card_unrecorded :
    ¬ ∀ h dir payload request, KeepaliveRequest.decode payload = .ok request →
      request.enabled = true → (handleRequest h dir payload).Recorded := by
  intro hall
  have hdecode : ∃ request, KeepaliveRequest.decode namedTwice = .ok request ∧
      request.enabled = true :=
    ⟨⟨true, [oneGpu, oneGpu], List.cons_ne_nil _ _⟩, rfl, rfl⟩
  obtain ⟨request, hok, henabled⟩ := hdecode
  have hnodup := (hall freshHost {} namedTwice request hok henabled).2
  revert hnodup
  decide +kernel

end ServerPilot.Helper
