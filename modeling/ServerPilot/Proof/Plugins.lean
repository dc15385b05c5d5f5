import ServerPilot.Lib.Run
import ServerPilot.Proof.Probe
import ServerPilot.Spec.Plugins

/-!
# One profile, one owner

A discovery gives each candidate's verdict, remembered or not (`discover_fst`), so the listing and
the lookup go by the same plugins. They agree as long as no plugin takes the id of a built-in
profile, no two broken files are listed under one id and no file makes the search itself raise
(`oneOwner_iff`).
-/

namespace ServerPilot.Plugins

open Checked

variable (lib : Outside)

/-! ## Verdicts -/

/-- What probing a file gives. -/
def Candidate.verdict (c : Candidate) : Except Raised PluginInfo :=
  match c.stat with
  | .error name => .error (.pluginError ("plugin could not be read: " ++ name))
  | .ok stat => probePlugin lib c.path stat c.source

/-- What the cache remembers is what probing gives. -/
abbrev Right (cache : ProbeCache) : Prop :=
  Memo.Right (fun path stamp => probePlugin lib path stamp.1 stamp.2) cache

/-- The cache of a process that started, after discoveries in these contents. -/
def cacheAfter (earlier : List (List Directory)) : ProbeCache :=
  earlier.foldl (fun cache dirs => (discover lib dirs cache).2) fun _ => none

variable {lib} {cache : ProbeCache}

theorem probePluginCached_fst (h : Right lib cache) (c : Candidate) :
    (probePluginCached lib c cache).1 = c.verdict lib := by
  unfold probePluginCached Candidate.verdict
  cases c.stat with
  | error name => rfl
  | ok stat => exact Memo.ask_fst h

theorem probePluginCached_right (h : Right lib cache) (c : Candidate) :
    Right lib (probePluginCached lib c cache).2 := by
  unfold probePluginCached
  cases c.stat with
  | error name => exact h
  | ok stat => exact Memo.ask_right h

/-- A plugin is named after its file. -/
theorem probePlugin_ok {path : Path} {stat : Stat} {source : PluginSource} {plugin : PluginInfo}
    (h : probePlugin lib path stat source = .ok plugin) : plugin.pluginId = path.name := by
  unfold probePlugin at h
  simp only [bind_ok] at h
  obtain ⟨_, _, _, _, pluginId, _, _, hname, _, _, _, _, _, _, _, _, _, _, _, _, _, _, _, _, _, _,
    _, _, _, _, h⟩ := h
  cases h
  exact (require_ok.1 hname).symm

theorem verdict_ok {c : Candidate} {plugin : PluginInfo} (h : c.verdict lib = .ok plugin) :
    plugin.pluginId = c.path.name := by
  unfold Candidate.verdict at h
  cases hs : c.stat with
  | error name =>
    rw [hs] at h
    cases h
  | ok stat =>
    rw [hs] at h
    exact probePlugin_ok h

theorem candidate_valid {dirs : List Directory} {c : Candidate} (h : c ∈ candidates dirs) :
    isValidPluginId c.path.name = true := by
  obtain ⟨d, _, hc⟩ := List.mem_flatMap.1 h
  unfold Directory.candidates at hc
  split_ifs at hc
  · obtain ⟨e, he, rfl⟩ := List.mem_map.1 hc
    have := (List.mem_filter.1 he).2
    unfold Entry.isPluginCandidate at this
    simp only [Bool.and_eq_true] at this
    exact this.1.2
  · cases hc

/-! ## A discovery -/

variable (lib) in
/-- The discovery, by the verdicts alone. -/
def sortOut : List Candidate → Discovery → Option Discovery
  | [], d => some d
  | c :: rest, d =>
    match c.verdict lib with
    | .ok plugin => sortOut rest (d.put plugin)
    | .error (.pluginError message) => sortOut rest (d.fail c message)
    | .error .other => none

theorem discoverAmong_spec : ∀ (l : List Candidate) (d : Discovery) {cache : ProbeCache},
    Right lib cache → (discoverAmong lib l d cache).1 = sortOut lib l d ∧
      Right lib (discoverAmong lib l d cache).2
  | [], d, cache, h => ⟨rfl, h⟩
  | c :: rest, d, cache, h => by
    have hfst := probePluginCached_fst h c
    have hright := probePluginCached_right h c
    unfold discoverAmong sortOut
    revert hfst hright
    obtain ⟨verdict, cache'⟩ := probePluginCached lib c cache
    intro hfst hright
    rw [show verdict = c.verdict lib from hfst]
    cases hv : c.verdict lib with
    | ok plugin => exact discoverAmong_spec rest _ hright
    | error e =>
      cases e with
      | pluginError message => exact discoverAmong_spec rest _ hright
      | other => exact ⟨rfl, hright⟩

variable (lib) in
/-- A file that is not a plugin now. -/
def Candidate.Broken (c : Candidate) : Prop := ∀ plugin, c.verdict lib ≠ .ok plugin

instance (c : Candidate) : Decidable (c.Broken lib) :=
  match h : c.verdict lib with
  | .ok plugin => isFalse fun hb => hb plugin h
  | .error _ => isTrue fun plugin hp => by rw [h] at hp; cases hp

/-- What a discovery among some candidates gives, over what it started with. -/
structure Discovered (lib : Outside) (l : List Candidate) (d d' : Discovery) : Prop where
  distinct : (d.found.map PluginInfo.pluginId).Nodup → (d'.found.map PluginInfo.pluginId).Nodup
  from_verdict : ∀ plugin ∈ d'.found, plugin ∈ d.found ∨ ∃ c ∈ l, c.verdict lib = .ok plugin
  keeps : ∀ plugin ∈ d.found, ∃ other ∈ d'.found, other.pluginId = plugin.pluginId
  complete : ∀ c ∈ l, ¬ c.Broken lib → ∃ other ∈ d'.found, other.pluginId = c.path.name
  failures : (∀ c ∈ l, isValidPluginId c.path.name = true) →
    d'.failures.map PluginDiscoveryFailure.id =
      d.failures.map PluginDiscoveryFailure.id ++
        (l.filter fun c => c.Broken lib).map fun c => c.path.name

theorem put_distinct {d : Discovery} (plugin : PluginInfo)
    (h : (d.found.map PluginInfo.pluginId).Nodup) :
    ((d.put plugin).found.map PluginInfo.pluginId).Nodup := by
  have hsub : ((d.found.filter fun x => x.pluginId ≠ plugin.pluginId).map
      PluginInfo.pluginId).Nodup := h.sublist (List.filter_sublist.map _)
  rw [Discovery.put, List.map_append, List.nodup_append]
  refine ⟨hsub, List.nodup_singleton _, ?_⟩
  intro id hid other hother
  obtain ⟨x, hx, rfl⟩ := List.mem_map.1 hid
  rw [List.map_singleton, List.mem_singleton] at hother
  subst hother
  exact of_decide_eq_true (List.mem_filter.1 hx).2

theorem put_keeps {d : Discovery} (plugin : PluginInfo) {x : PluginInfo} (hx : x ∈ d.found) :
    ∃ other ∈ (d.put plugin).found, other.pluginId = x.pluginId := by
  by_cases he : x.pluginId = plugin.pluginId
  · exact ⟨plugin, List.mem_append_right _ (List.mem_singleton_self _), he.symm⟩
  · exact ⟨x, List.mem_append_left _ (List.mem_filter.2 ⟨hx, decide_eq_true he⟩), rfl⟩

theorem mem_put {d : Discovery} {plugin x : PluginInfo} (hx : x ∈ (d.put plugin).found) :
    x ∈ d.found ∨ x = plugin := by
  rcases List.mem_append.1 hx with hx | hx
  · exact Or.inl (List.mem_of_mem_filter hx)
  · exact Or.inr (List.mem_singleton.1 hx)

theorem sortOut_spec : ∀ (l : List Candidate) {d d' : Discovery}, sortOut lib l d = some d' →
    Discovered lib l d d'
  | [], d, d', h => by
    cases h
    exact {
      distinct := id
      from_verdict := fun plugin hp => Or.inl hp
      keeps := fun plugin hp => ⟨plugin, hp, rfl⟩
      complete := fun c hc => absurd hc List.not_mem_nil
      failures := fun _ => (List.append_nil _).symm }
  | c :: rest, d, d', h => by
    unfold sortOut at h
    cases hv : c.verdict lib with
    | ok plugin =>
      rw [hv] at h
      have ih := sortOut_spec rest h
      have hworks : ¬ c.Broken lib := fun hb => hb plugin hv
      refine ⟨fun hd => ih.distinct (put_distinct plugin hd), ?_, ?_, ?_, ?_⟩
      · intro x hx
        rcases ih.from_verdict x hx with hx | ⟨c', hc', hx⟩
        · rcases mem_put hx with hx | rfl
          · exact Or.inl hx
          · exact Or.inr ⟨c, List.mem_cons_self, hv⟩
        · exact Or.inr ⟨c', List.mem_cons_of_mem _ hc', hx⟩
      · intro x hx
        obtain ⟨y, hy, hyx⟩ := put_keeps plugin hx
        obtain ⟨z, hz, hzy⟩ := ih.keeps y hy
        exact ⟨z, hz, hzy.trans hyx⟩
      · intro c' hc' hw
        rcases List.mem_cons.1 hc' with rfl | hc'
        · obtain ⟨z, hz, hzp⟩ := ih.keeps plugin
            (List.mem_append_right _ (List.mem_singleton_self _))
          exact ⟨z, hz, hzp.trans (verdict_ok hv)⟩
        · exact ih.complete c' hc' hw
      · intro hvalid
        rw [ih.failures fun x hx => hvalid x (List.mem_cons_of_mem _ hx),
          List.filter_cons_of_neg (by simpa using hworks)]
        rfl
    | error e =>
      have hbroken : c.Broken lib := fun plugin hp => by rw [hv] at hp; cases hp
      cases e with
      | other =>
        rw [hv] at h
        cases h
      | pluginError message =>
        rw [hv] at h
        have ih := sortOut_spec rest h
        refine ⟨ih.distinct, ?_, ih.keeps, ?_, ?_⟩
        · intro x hx
          rcases ih.from_verdict x hx with hx | ⟨c', hc', hx⟩
          · exact Or.inl hx
          · exact Or.inr ⟨c', List.mem_cons_of_mem _ hc', hx⟩
        · intro c' hc' hw
          rcases List.mem_cons.1 hc' with rfl | hc'
          · exact absurd hbroken hw
          · exact ih.complete c' hc' hw
        · intro hvalid
          rw [ih.failures fun x hx => hvalid x (List.mem_cons_of_mem _ hx),
            List.filter_cons_of_pos (by simpa using hbroken), Discovery.fail, List.map_append,
            if_pos (hvalid c List.mem_cons_self), List.append_assoc]
          rfl

/-- A discovery raises when probing one of the files does. -/
theorem sortOut_isSome : ∀ (l : List Candidate) (d : Discovery),
    (∃ d', sortOut lib l d = some d') ↔ ∀ c ∈ l, c.verdict lib ≠ .error .other
  | [], d => by simp [sortOut]
  | c :: rest, d => by
    rw [List.forall_mem_cons]
    unfold sortOut
    cases hv : c.verdict lib with
    | ok plugin => simp [sortOut_isSome rest]
    | error e =>
      cases e with
      | pluginError message => simp [sortOut_isSome rest]
      | other => simp

variable (lib) in
/-- The discovery in some contents, by the verdicts alone. -/
def discovered (dirs : List Directory) : Option Discovery :=
  (sortOut lib (candidates dirs) {}).map fun d =>
    { d with found := Ranking.arranged nameLe PluginInfo.pluginId d.found }

theorem discover_spec (h : Right lib cache) (dirs : List Directory) :
    (discover lib dirs cache).1 = discovered lib dirs ∧ Right lib (discover lib dirs cache).2 := by
  obtain ⟨hfst, hright⟩ := discoverAmong_spec (candidates dirs) {} h
  unfold discover discovered
  rw [← hfst]
  revert hright
  obtain ⟨d, cache'⟩ := discoverAmong lib (candidates dirs) {} cache
  intro hright
  cases d with
  | none => exact ⟨rfl, hright⟩
  | some d => exact ⟨rfl, hright⟩

theorem cacheAfter_right (earlier : List (List Directory)) : Right lib (cacheAfter lib earlier) :=
  Run.foldl_inv (I := Right lib) (fun _ dirs _ h => (discover_spec h dirs).2) Memo.right_empty

variable (lib) in
theorem discover_fst (earlier : List (List Directory)) (dirs : List Directory) :
    (discover lib dirs (cacheAfter lib earlier)).1 = discovered lib dirs :=
  (discover_spec (cacheAfter_right earlier) dirs).1

/-- What is found in some contents, and what fails there. -/
structure Answers (lib : Outside) (dirs : List Directory) (d : Discovery) : Prop where
  distinct : (d.found.map PluginInfo.pluginId).Nodup
  valid : ∀ plugin ∈ d.found, isValidPluginId plugin.pluginId = true
  found : ∀ id, id ∈ d.found.map PluginInfo.pluginId ↔
    ∃ c ∈ candidates dirs, ¬ c.Broken lib ∧ c.path.name = id
  failures : d.failures.map PluginDiscoveryFailure.id =
    ((candidates dirs).filter fun c => c.Broken lib).map fun c => c.path.name

theorem discovered_answers {dirs : List Directory} {d : Discovery}
    (h : discovered lib dirs = some d) : Answers lib dirs d := by
  obtain ⟨d', hd', rfl⟩ := Option.map_eq_some_iff.1 h
  have hspec := sortOut_spec _ hd'
  have hperm := Ranking.arranged_perm nameLe PluginInfo.pluginId d'.found
  have hfrom : ∀ plugin ∈ d'.found, ∃ c ∈ candidates dirs, c.verdict lib = .ok plugin :=
    fun plugin hp => (hspec.from_verdict plugin hp).resolve_left List.not_mem_nil
  refine ⟨(hperm.map _).nodup_iff.2 (hspec.distinct List.nodup_nil), ?_, ?_, ?_⟩
  · intro plugin hp
    obtain ⟨c, hc, hv⟩ := hfrom plugin (hperm.mem_iff.1 hp)
    rw [verdict_ok hv]
    exact candidate_valid hc
  · intro id
    rw [(hperm.map _).mem_iff]
    constructor
    · intro hid
      obtain ⟨plugin, hp, rfl⟩ := List.mem_map.1 hid
      obtain ⟨c, hc, hv⟩ := hfrom plugin hp
      exact ⟨c, hc, fun hb => hb plugin hv, (verdict_ok hv).symm⟩
    · rintro ⟨c, hc, hw, rfl⟩
      obtain ⟨other, hother, heq⟩ := hspec.complete c hc hw
      exact List.mem_map.2 ⟨other, hother, heq⟩
  · exact hspec.failures fun c hc => candidate_valid hc

/-! ## Lookup and listing -/

/-- The lookup by the discovery. -/
theorem getPlugin_fst {dirs : List Directory} {d : Discovery} (h : discovered lib dirs = some d)
    (earlier : List (List Directory)) (id : String) :
    (getPlugin lib dirs id (cacheAfter lib earlier)).1 =
      some (d.found.find? fun x => x.pluginId = id) := by
  have hfst := discover_fst lib earlier dirs
  unfold getPlugin
  split_ifs with hvalid
  · revert hfst
    obtain ⟨answer, cache'⟩ := discover lib dirs (cacheAfter lib earlier)
    rintro rfl
    rw [h]
  · refine congrArg some (List.find?_eq_none.2 fun x hx heq => hvalid ?_).symm
    rw [← of_decide_eq_true heq]
    exact (discovered_answers h).valid x hx

theorem requirePlugin_fst {dirs : List Directory} {d : Discovery}
    (h : discovered lib dirs = some d) (earlier : List (List Directory)) (id : String) :
    (requirePlugin lib dirs id (cacheAfter lib earlier)).1 =
      need (d.found.find? fun x => x.pluginId = id)
        (.pluginError ("unknown observation profile: " ++ id)) := by
  have hfst := getPlugin_fst h earlier id
  unfold requirePlugin
  revert hfst
  obtain ⟨answer, cache'⟩ := getPlugin lib dirs id (cacheAfter lib earlier)
  rintro rfl
  cases d.found.find? fun x => x.pluginId = id with
  | none => rfl
  | some plugin => rfl

theorem isKnown_fst {dirs : List Directory} {d : Discovery} (h : discovered lib dirs = some d)
    (earlier : List (List Directory)) (id : String) :
    (isKnownObservationProfile lib dirs id (cacheAfter lib earlier)).1 =
      some (decide (id ∈ builtinObservationProfiles ∨ id ∈ d.found.map PluginInfo.pluginId)) := by
  unfold isKnownObservationProfile isPluginProfile
  by_cases hb : id ∈ builtinObservationProfiles
  · rw [if_pos hb]
    simp [hb]
  · rw [if_neg hb]
    simp only [getPlugin_fst h earlier id, Option.map_some, hb, false_or]
    congr 1
    rw [Bool.eq_iff_iff, List.find?_isSome, decide_eq_true_iff, List.mem_map]
    simp

/-- The plugin with an id is the one that is found. -/
theorem find_of_mem {l : List PluginInfo} (h : (l.map PluginInfo.pluginId).Nodup)
    {plugin : PluginInfo} (hp : plugin ∈ l) :
    (l.find? fun x => x.pluginId = plugin.pluginId) = some plugin := by
  induction l with
  | nil => cases hp
  | cons x l ih =>
    obtain ⟨hnew, hrest⟩ := List.nodup_cons.1 h
    rcases List.mem_cons.1 hp with rfl | hp
    · exact List.find?_cons_of_pos (decide_eq_true rfl)
    · have hne : x.pluginId ≠ plugin.pluginId := fun he =>
        hnew (List.mem_map.2 ⟨plugin, hp, he.symm⟩)
      rw [List.find?_cons_of_neg (by simpa using hne)]
      exact ih hrest hp

/-- The loop over the plugins lists those whose id was not listed before. -/
theorem foldl_addPlugin : ∀ (found : List PluginInfo) (l : Listing),
    (found.map PluginInfo.pluginId).Nodup →
    found.foldl Listing.addPlugin l =
      { profiles := l.profiles ++
          (found.filter fun x => x.pluginId ∉ l.seen).map PluginInfo.profile
        seen := l.seen ++ (found.filter fun x => x.pluginId ∉ l.seen).map PluginInfo.pluginId }
  | [], l, _ => by simp
  | plugin :: found, l, h => by
    obtain ⟨hnew, hrest⟩ := List.nodup_cons.1 h
    rw [List.foldl_cons, foldl_addPlugin found _ hrest, Listing.addPlugin]
    by_cases hs : plugin.pluginId ∈ l.seen
    · rw [if_pos hs, List.filter_cons_of_neg (by simpa using hs)]
    · have hsame : (found.filter fun x => x.pluginId ∉ l.seen ++ [plugin.pluginId]) =
          found.filter fun x => x.pluginId ∉ l.seen := by
        refine List.filter_congr fun x hx => ?_
        have hne : x.pluginId ≠ plugin.pluginId := fun he =>
          hnew (List.mem_map.2 ⟨x, hx, he⟩)
        simp [hne]
      rw [if_neg hs, hsame, List.filter_cons_of_pos (by simpa using hs)]
      simp

/-- The loop over the failures lists each whose id was not listed before it. -/
theorem foldl_addFailure : ∀ (failures : List PluginDiscoveryFailure) (l : Listing),
    (failures.foldl Listing.addFailure l).profiles = l.profiles ++
      (failures.filter fun x => x.id ∉ l.seen).map PluginDiscoveryFailure.profile
  | [], l => (List.append_nil _).symm
  | failure :: failures, l => by
    rw [List.foldl_cons, foldl_addFailure failures, Listing.addFailure]
    by_cases hs : failure.id ∈ l.seen
    · rw [if_pos hs, List.filter_cons_of_neg (by simpa using hs)]
    · rw [if_neg hs, List.filter_cons_of_pos (by simpa using hs)]
      simp

/-- A discovery is listed in three parts. -/
theorem listing_profiles {d : Discovery} (h : (d.found.map PluginInfo.pluginId).Nodup) :
    d.listing.profiles = builtinProfileCatalog ++
      (d.found.filter fun x => x.pluginId ∉ builtinObservationProfiles).map PluginInfo.profile ++
      (d.failures.filter fun x => x.id ∉ builtinObservationProfiles ∧
        x.id ∉ d.found.map PluginInfo.pluginId).map PluginDiscoveryFailure.profile := by
  rw [Discovery.listing, foldl_addFailure, foldl_addPlugin _ _ h]
  refine congrArg₂ (· ++ ·) rfl (congrArg _ (List.filter_congr fun x hx => ?_))
  have hseen : builtinProfileCatalog.map Profile.id = builtinObservationProfiles := rfl
  by_cases hb : x.id ∈ builtinObservationProfiles
  · simp [hseen, hb]
  · simp only [hseen, List.mem_append, not_or, hb, not_false_eq_true, true_and, List.mem_map,
      List.mem_filter, decide_eq_true_eq, decide_eq_decide, not_iff_not]
    constructor
    · rintro ⟨p, ⟨hp, _⟩, hid⟩
      exact ⟨p, hp, hid⟩
    · rintro ⟨p, hp, hid⟩
      exact ⟨p, ⟨hp, hid ▸ hb⟩, hid⟩

/-! ## One owner -/

/-- An id is listed as one that can be used. -/
def Listed (profiles : List Profile) (id : String) : Prop :=
  ∃ p ∈ profiles, p.id = id ∧ p.available ≠ some false

/-- In these contents the ids of the listing differ, those it lists as usable are the known ones,
each with what its plugin declares, and no plugin has the id of a built-in profile. The listing and
the lookups may find different things in the cache. -/
def OneOwner (lib : Outside) (dirs : List Directory) (atListing atLookup : ProbeCache) : Prop :=
  ∃ profiles, (listObservationProfiles lib dirs atListing).1 = some profiles ∧
    (profiles.map Profile.id).Nodup ∧
    (∀ id, ∃ known, (isKnownObservationProfile lib dirs id atLookup).1 = some known ∧
      (known = true ↔ Listed profiles id)) ∧
    (∀ p ∈ profiles, p.available ≠ some false → p.id ∉ builtinObservationProfiles →
      ∃ plugin, (requirePlugin lib dirs p.id atLookup).1 = .ok plugin ∧
        p.capabilities = plugin.capabilities ∧ p.limits = some plugin.limits) ∧
    ∀ id ∈ builtinObservationProfiles, (getPlugin lib dirs id atLookup).1 = some none

/-- A broken file that is listed: its name is no built-in profile's and no plugin's. -/
def Candidate.LeftOver (lib : Outside) (dirs : List Directory) (c : Candidate) : Prop :=
  c.Broken lib ∧ c.path.name ∉ builtinObservationProfiles ∧
    ∀ other ∈ candidates dirs, other.path.name = c.path.name → other.Broken lib

instance (dirs : List Directory) (c : Candidate) : Decidable (c.LeftOver lib dirs) :=
  inferInstanceAs (Decidable (_ ∧ _ ∧ _))

/-- Every file is a plugin or fails with a `PluginError`, no plugin has the name of a built-in
profile, and the broken files that no plugin stands in for have different names. -/
structure Sound (lib : Outside) (dirs : List Directory) : Prop where
  probed : ∀ c ∈ candidates dirs, c.verdict lib ≠ .error .other
  unclaimed : ∀ c ∈ candidates dirs, ¬ c.Broken lib → c.path.name ∉ builtinObservationProfiles
  apart : (((candidates dirs).filter fun c => c.LeftOver lib dirs).map fun c => c.path.name).Nodup

variable {dirs : List Directory} {d : Discovery}

theorem Answers.leftOver (h : Answers lib dirs d) {c : Candidate} :
    c.LeftOver lib dirs ↔ c.Broken lib ∧ c.path.name ∉ builtinObservationProfiles ∧
      c.path.name ∉ d.found.map PluginInfo.pluginId := by
  refine and_congr_right fun _ => and_congr_right fun _ => ?_
  rw [h.found]
  constructor
  · rintro hall ⟨other, hother, hw, hname⟩
    exact hw (hall other hother hname)
  · intro hnone other hother hname
    by_contra hw
    exact hnone ⟨other, hother, hw, hname⟩

theorem Answers.listing_ids (h : Answers lib dirs d) :
    d.listing.profiles.map Profile.id = builtinObservationProfiles ++
      (d.found.filter fun x => x.pluginId ∉ builtinObservationProfiles).map PluginInfo.pluginId ++
      ((candidates dirs).filter fun c => c.LeftOver lib dirs).map fun c => c.path.name := by
  have hfailed : (d.failures.filter fun x => x.id ∉ builtinObservationProfiles ∧
      x.id ∉ d.found.map PluginInfo.pluginId).map PluginDiscoveryFailure.id =
      ((candidates dirs).filter fun c => c.LeftOver lib dirs).map fun c => c.path.name := by
    have hmap := congrArg (List.filter fun id => id ∉ builtinObservationProfiles ∧
      id ∉ d.found.map PluginInfo.pluginId) h.failures
    rw [List.filter_map, List.filter_map, List.filter_filter] at hmap
    refine hmap.trans (congrArg _ (List.filter_congr fun c _ => ?_))
    rw [Bool.eq_iff_iff, Bool.and_eq_true, decide_eq_true_iff, decide_eq_true_iff, h.leftOver]
    simp only [Function.comp_apply, decide_eq_true_iff]
    exact and_comm
  rw [listing_profiles h.distinct, List.map_append, List.map_append, ← hfailed, List.map_map,
    List.map_map]
  rfl

theorem Answers.listed_iff (h : Answers lib dirs d) (id : String) :
    Listed d.listing.profiles id ↔
      id ∈ builtinObservationProfiles ∨ id ∈ d.found.map PluginInfo.pluginId := by
  unfold Listed
  rw [listing_profiles h.distinct]
  constructor
  · rintro ⟨p, hp, rfl, hav⟩
    rcases List.mem_append.1 hp with hp | hp
    · rcases List.mem_append.1 hp with hp | hp
      · exact Or.inl (List.mem_map.2 ⟨p, hp, rfl⟩)
      · obtain ⟨plugin, hplugin, rfl⟩ := List.mem_map.1 hp
        exact Or.inr (List.mem_map.2 ⟨plugin, List.mem_of_mem_filter hplugin, rfl⟩)
    · obtain ⟨failure, _, rfl⟩ := List.mem_map.1 hp
      exact absurd rfl hav
  · intro hid
    by_cases hb : id ∈ builtinObservationProfiles
    · obtain ⟨p, hp, rfl⟩ := List.mem_map.1 (show id ∈ builtinProfileCatalog.map Profile.id from hb)
      refine ⟨p, List.mem_append_left _ (List.mem_append_left _ hp), rfl, ?_⟩
      rw [List.mem_singleton.1 hp]
      exact fun h => nomatch h
    · obtain ⟨plugin, hplugin, rfl⟩ := List.mem_map.1 (hid.resolve_left hb)
      exact ⟨plugin.profile, List.mem_append_left _ (List.mem_append_right _ (List.mem_map.2
        ⟨plugin, List.mem_filter.2 ⟨hplugin, decide_eq_true hb⟩, rfl⟩)), rfl, fun h => nomatch h⟩

/-- What is listed of a plugin is what the lookup finds. -/
theorem Answers.listed_as_found (h : Answers lib dirs d) {p : Profile}
    (hp : p ∈ d.listing.profiles) (hav : p.available ≠ some false)
    (hb : p.id ∉ builtinObservationProfiles) :
    ∃ plugin, (d.found.find? fun x => x.pluginId = p.id) = some plugin ∧
      p.capabilities = plugin.capabilities ∧ p.limits = some plugin.limits := by
  rw [listing_profiles h.distinct] at hp
  rcases List.mem_append.1 hp with hp | hp
  · rcases List.mem_append.1 hp with hp | hp
    · exact absurd (List.mem_map.2 ⟨p, hp, rfl⟩) hb
    · obtain ⟨plugin, hplugin, rfl⟩ := List.mem_map.1 hp
      exact ⟨plugin, find_of_mem h.distinct (List.mem_of_mem_filter hplugin), rfl, rfl⟩
  · obtain ⟨failure, _, rfl⟩ := List.mem_map.1 hp
    exact absurd rfl hav

/-- No plugin answers for a built-in profile when none of that name is found. -/
theorem unclaimed_iff (hd : discovered lib dirs = some d) (earlier : List (List Directory)) :
    (∀ id ∈ builtinObservationProfiles,
        (getPlugin lib dirs id (cacheAfter lib earlier)).1 = some none) ↔
      ∀ c ∈ candidates dirs, ¬ c.Broken lib → c.path.name ∉ builtinObservationProfiles := by
  have h := discovered_answers hd
  have hnone : ∀ id, (getPlugin lib dirs id (cacheAfter lib earlier)).1 = some none ↔
      id ∉ d.found.map PluginInfo.pluginId := by
    intro id
    rw [getPlugin_fst hd, Option.some_inj, List.find?_eq_none, List.mem_map, not_exists]
    exact forall_congr' fun x => by simp
  constructor
  · intro hall c hc hw hb
    exact (hnone _).1 (hall _ hb) ((h.found _).2 ⟨c, hc, hw, rfl⟩)
  · intro hall id hid
    refine (hnone id).2 fun hmem => ?_
    obtain ⟨c, hc, hw, rfl⟩ := (h.found id).1 hmem
    exact hall c hc hw hid

/-- The ids of the listing differ when those of its failures do. -/
theorem Answers.nodup_iff (h : Answers lib dirs d) :
    (d.listing.profiles.map Profile.id).Nodup ↔
      (((candidates dirs).filter fun c => c.LeftOver lib dirs).map fun c => c.path.name).Nodup := by
  rw [h.listing_ids]
  constructor
  · exact fun hn => (List.nodup_append.1 hn).2.1
  · intro hn
    have hfound : ((d.found.filter fun x => x.pluginId ∉ builtinObservationProfiles).map
        PluginInfo.pluginId).Nodup := h.distinct.sublist (List.filter_sublist.map _)
    refine List.nodup_append.2 ⟨List.nodup_append.2 ⟨List.nodup_singleton _, hfound, ?_⟩, hn, ?_⟩
    · intro id hid other hother
      obtain ⟨x, hx, rfl⟩ := List.mem_map.1 hother
      intro heq
      exact of_decide_eq_true (List.mem_filter.1 hx).2 (heq ▸ hid)
    · intro id hid other hother heq
      obtain ⟨c, hc, rfl⟩ := List.mem_map.1 hother
      obtain ⟨_, hbuiltin, hnew⟩ := h.leftOver.1 (of_decide_eq_true (List.mem_filter.1 hc).2)
      subst heq
      rcases List.mem_append.1 hid with hid | hid
      · exact hbuiltin hid
      · exact hnew (((List.filter_sublist).map _).subset hid)

/-- **The listing and the lookup have one owner for each profile exactly in sound contents**,
whatever was discovered before. -/
theorem oneOwner_iff (earlier later : List (List Directory)) (dirs : List Directory) :
    OneOwner lib dirs (cacheAfter lib earlier) (cacheAfter lib later) ↔ Sound lib dirs := by
  have hlist : (listObservationProfiles lib dirs (cacheAfter lib earlier)).1 =
      (discovered lib dirs).map fun d => d.listing.profiles := by
    rw [← discover_fst lib earlier dirs]
    rfl
  constructor
  · rintro ⟨profiles, hprofiles, hnodup, _, _, hbuiltin⟩
    obtain ⟨d, hd, rfl⟩ := Option.map_eq_some_iff.1 (hlist.symm.trans hprofiles)
    obtain ⟨d', hd', _⟩ := Option.map_eq_some_iff.1 hd
    exact {
      probed := (sortOut_isSome _ _).1 ⟨d', hd'⟩
      unclaimed := (unclaimed_iff hd later).1 hbuiltin
      apart := (discovered_answers hd).nodup_iff.1 hnodup }
  · intro hsound
    obtain ⟨d', hd'⟩ := (sortOut_isSome (candidates dirs) {}).2 hsound.probed
    obtain ⟨d, hd⟩ : ∃ d, discovered lib dirs = some d := ⟨_, by rw [discovered, hd']; rfl⟩
    have h := discovered_answers hd
    refine ⟨d.listing.profiles, by rw [hlist, hd]; rfl, h.nodup_iff.2 hsound.apart, ?_, ?_,
      (unclaimed_iff hd later).2 hsound.unclaimed⟩
    · intro id
      refine ⟨_, isKnown_fst hd later id, ?_⟩
      rw [decide_eq_true_iff, h.listed_iff]
    · intro p hp hav hb
      obtain ⟨plugin, hfind, hsame⟩ := h.listed_as_found hp hav hb
      refine ⟨plugin, ?_, hsame⟩
      rw [requirePlugin_fst hd, hfind]
      rfl

/-! ## A plugin of the built-in name -/

/-- What a working plugin named `linux` prints. -/
def linuxInfo : String :=
  "\x7b\"plugin_id\": \"linux\", \"display_name\": \"Linux\", \"schema_version\": 5, " ++
  "\"capabilities\": [\"observe\"], \"release_granularity\": \"device\", " ++
  "\"entry_kind\": \"ssh\", \"limits\": \x7b\"lease_ends\": \"on_release\", " ++
  "\"max_lease_seconds\": null, \"apply_max_seconds\": null, \"queues\": false\x7d\x7d"

/-- That text, read. -/
def linuxPayload : Json := .object [("plugin_id", .text "linux"), ("display_name", .text "Linux"),
  ("schema_version", .int 5), ("capabilities", .list [.text "observe"]),
  ("release_granularity", .text "device"), ("entry_kind", .text "ssh"),
  ("limits", .object [("lease_ends", .text "on_release"), ("max_lease_seconds", .null),
    ("apply_max_seconds", .null), ("queues", .bool false)])]

/-- A file `linux` works; every other file exits with an error. -/
def sampleOutside : Outside where
  info path _ := if path.name = "linux" then .ok linuxInfo else .error "plugin exited 1"
  loads text := if text = linuxInfo then .value linuxPayload else .malformed
  keys _ := ""

def sampleEntry (name : String) : Entry :=
  { name, stat := .ok ⟨1, 2, 3, 4⟩, resolvedName := name }

/-- The user's directory, with an executable file `linux`. -/
def claimed : List Directory :=
  [{ path := "/root/plugins", source := .locally, entries := [sampleEntry "linux"] }]

/-- A bundled plugin and the user's copy of it, both broken. -/
def bothBroken : List Directory :=
  [{ path := "/opt/bundled_plugins", source := .builtin, entries := [sampleEntry "cluster"] },
    { path := "/root/plugins", source := .locally, entries := [sampleEntry "cluster"] }]

theorem linux_claimed :
    ¬ OneOwner sampleOutside claimed (cacheAfter sampleOutside []) (cacheAfter sampleOutside []) ∧
      ¬ OneOwner sampleOutside bothBroken (cacheAfter sampleOutside [])
        (cacheAfter sampleOutside []) := by
  constructor
  · rintro ⟨_, _, _, _, _, hbuiltin⟩
    have hlinux := congrArg (Option.map Option.isSome) (hbuiltin "linux" (by decide))
    have hfound : (getPlugin sampleOutside claimed "linux" (cacheAfter sampleOutside [])).1.map
        Option.isSome = some true := by decide +kernel
    rw [hfound] at hlinux
    cases hlinux
  · rintro ⟨profiles, hprofiles, hnodup, _⟩
    have hids : (listObservationProfiles sampleOutside bothBroken
        (cacheAfter sampleOutside [])).1.map (List.map Profile.id) =
          some ["linux", "cluster", "cluster"] := by decide +kernel
    rw [hprofiles, Option.map_some, Option.some_inj] at hids
    rw [hids] at hnodup
    revert hnodup
    decide

end ServerPilot.Plugins
