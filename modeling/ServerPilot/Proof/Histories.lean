import ServerPilot.Lib.Run
import ServerPilot.Lib.Serial
import ServerPilot.Spec.TelemetryHistory

/-!
# Whose answer a history is

The recency list is the cache's, whatever happens (`tidy_step`). What a store keeps,
shows or reports for a key answers the last request made for it to the service
connected now, unless a task of an earlier connection comes back with the number in
force: a reconnection forgets the numbers, and they are given out again
(`histories_belong`, `answer_of_former_service`).
-/

namespace ServerPilot.Desktop

open Serial

variable {η : Type} {s t : HistoryStore η} {key k : HistoryKey} {now : Time}

@[simp] theorem setKey_self {α β : Type} [DecidableEq α] (d : α → β) (a : α) (b : β) :
    setKey d a b a = b := if_pos rfl

theorem setKey_ne {α β : Type} [DecidableEq α] {d : α → β} {a a' : α} {b : β} (h : a' ≠ a) :
    setKey d a b a' = d a' := if_neg h

/-! ## The recency list -/

/-- The recency list has exactly the cached keys, each once, and no more than the limit. -/
structure Tidy (s : HistoryStore η) : Prop where
  exact : ∀ k, k ∈ s.recency ↔ (s.cache k).isSome = true
  once : s.recency.Nodup
  bounded : s.recency.length ≤ cacheLimit

/-- The cache and its list agree. -/
def Agree (l : List HistoryKey) (cache : HistoryKey → Option (CachedHistory η)) : Prop :=
  l.Nodup ∧ ∀ k, k ∈ l ↔ (cache k).isSome = true

/-- Without its least recent key a cache still agrees with its list. -/
theorem agree_tail {rest : List HistoryKey} {cache : HistoryKey → Option (CachedHistory η)}
    (h : Agree (k :: rest) cache) : Agree rest (setKey cache k none) := by
  obtain ⟨hk, hrest⟩ := List.nodup_cons.1 h.1
  refine ⟨hrest, fun k' => ?_⟩
  by_cases heq : k' = k
  · subst heq
    rw [setKey_self]
    exact ⟨fun hmem => absurd hmem hk, fun hnone => (by cases hnone)⟩
  · rw [setKey_ne heq, ← h.2 k', List.mem_cons]
    exact ⟨Or.inr, fun hmem => hmem.resolve_left heq⟩

/-- Keys are forgotten until the rest is within the limit. -/
theorem evict_agree {l : List HistoryKey} {cache : HistoryKey → Option (CachedHistory η)}
    (h : Agree l cache) :
    Agree (HistoryStore.evict l cache).1 (HistoryStore.evict l cache).2 ∧
      (HistoryStore.evict l cache).1.length ≤ cacheLimit := by
  induction l generalizing cache with
  | nil => exact ⟨h, Nat.zero_le _⟩
  | cons k rest ih =>
    unfold HistoryStore.evict
    split
    · exact ih (agree_tail h)
    · rename_i hlen
      refine ⟨h, ?_⟩
      rw [List.length_cons]
      omega

/-- Nothing comes in for them. -/
theorem evict_sub {l : List HistoryKey} {cache : HistoryKey → Option (CachedHistory η)}
    {c : CachedHistory η} (h : (HistoryStore.evict l cache).2 k = some c) : cache k = some c := by
  induction l generalizing cache with
  | nil => exact h
  | cons k' rest ih =>
    unfold HistoryStore.evict at h
    split at h
    · have hleft := ih h
      by_cases heq : k = k'
      · subst heq
        rw [setKey_self] at hleft
        cases hleft
      · rwa [setKey_ne heq] at hleft
    · exact h

/-- A key moved to the end of the list is in it once. -/
theorem nodup_touch {l : List HistoryKey} (h : l.Nodup) (key : HistoryKey) :
    ((l.filter fun k => decide (k ≠ key)) ++ [key]).Nodup := by
  rw [List.nodup_append_comm, List.singleton_append, List.nodup_cons]
  refine ⟨fun hmem => ?_, h.filter _⟩
  have hne := List.of_mem_filter hmem
  simp at hne

theorem mem_touch {l : List HistoryKey} :
    k ∈ (l.filter fun k => decide (k ≠ key)) ++ [key] ↔ k = key ∨ k ∈ l := by
  rw [List.mem_append, List.mem_filter, List.mem_singleton, decide_eq_true_iff]
  by_cases heq : k = key
  · simp [heq]
  · simp [heq]

/-- A key already in the list takes no more room. -/
theorem length_touch {l : List HistoryKey} (h : key ∈ l) :
    ((l.filter fun k => decide (k ≠ key)) ++ [key]).length ≤ l.length := by
  rw [List.length_append, List.length_singleton]
  have hlt : (l.filter fun k => decide (k ≠ key)).length < l.length := by
    refine List.length_filter_lt_length_iff_exists.2 ⟨key, h, ?_⟩
    simp
  omega

namespace Tidy

variable (hs : Tidy s)

include hs

/-- Looking a history up keeps the list. -/
theorem cachedHistory (key : HistoryKey) (now : Time) : Tidy (s.cachedHistory key now).1 := by
  unfold HistoryStore.cachedHistory
  cases hc : s.cache key with
  | none => exact hs
  | some cached =>
    have hmem : key ∈ s.recency := (hs.exact key).2 (by rw [hc]; rfl)
    dsimp only
    split
    · refine ⟨fun k => ?_, nodup_touch hs.once key, (length_touch hmem).trans hs.bounded⟩
      refine mem_touch.trans ?_
      change k = key ∨ k ∈ s.recency ↔ (s.cache k).isSome = true
      rw [← hs.exact k]
      refine ⟨fun h => ?_, Or.inr⟩
      rcases h with rfl | h
      · exact hmem
      · exact h
    · refine ⟨fun k => ?_, hs.once.filter _, (List.length_filter_le _ _).trans hs.bounded⟩
      change k ∈ s.recency.filter (fun k => decide (k ≠ key)) ↔
        (setKey s.cache key none k).isSome = true
      rw [List.mem_filter, decide_eq_true_iff, hs.exact k]
      by_cases heq : k = key
      · subst heq
        rw [setKey_self]
        exact ⟨fun h => absurd rfl h.2, fun h => (by cases h)⟩
      · rw [setKey_ne heq]
        exact ⟨fun h => h.1, fun h => ⟨h, heq⟩⟩

/-- Keeping a history keeps the list. -/
theorem cacheHistory (h : EndpointTelemetryHistory η) (key : HistoryKey) (request : ℕ)
    (now : Time) : Tidy (s.cacheHistory h key request now) := by
  have hagree : Agree (s.touch key).recency (setKey s.cache key (some ⟨h, now, request⟩)) := by
    refine ⟨nodup_touch hs.once key, fun k => ?_⟩
    refine mem_touch.trans ?_
    by_cases heq : k = key
    · subst heq
      rw [setKey_self]
      exact ⟨fun _ => rfl, fun _ => Or.inl rfl⟩
    · rw [setKey_ne heq, ← hs.exact k]
      exact ⟨fun h => h.resolve_left heq, Or.inr⟩
  obtain ⟨hkept, hlen⟩ := evict_agree hagree
  exact ⟨hkept.2, hkept.1, hlen⟩

/-- Using an answer keeps the list. -/
theorem useHistory (key : HistoryKey) (request : ℕ) (isActive : Bool)
    (result : Except String (EndpointTelemetryHistory η)) (now : Time) :
    Tidy (s.useHistory key request isActive result now) := by
  unfold HistoryStore.useHistory
  cases result with
  | error description =>
    dsimp only
    split
    · exact ⟨hs.exact, hs.once, hs.bounded⟩
    · exact hs
  | ok h =>
    have hkept := hs.cacheHistory h key request now
    dsimp only
    split
    · split
      · exact ⟨hkept.exact, hkept.once, hkept.bounded⟩
      · exact hkept
    · exact ⟨hs.exact, hs.once, hs.bounded⟩

end Tidy

/-- **The recency list is the cache's** after every event. -/
theorem tidy_step (hs : Tidy s) (e : HistoryEvent η) : Tidy (s.step e) := by
  cases e with
  | connect client supported =>
    exact ⟨fun k => ⟨fun h => absurd h List.not_mem_nil, fun h => (by cases h)⟩, List.nodup_nil,
      Nat.zero_le _⟩
  | request key now =>
    change Tidy (s.silent.requestHistory key now)
    unfold HistoryStore.requestHistory
    split
    · exact ⟨hs.exact, hs.once, hs.bounded⟩
    split
    · exact ⟨hs.exact, hs.once, hs.bounded⟩
    have hcancelled : Tidy (s.silent.cancelInactive key) :=
      ⟨hs.exact, hs.once, hs.bounded⟩
    have hlooked := hcancelled.cachedHistory key now
    dsimp only
    split
    · exact ⟨hlooked.exact, hlooked.once, hlooked.bounded⟩
    · split
      · exact hlooked
      · exact ⟨hlooked.exact, hlooked.once, hlooked.bounded⟩
  | complete task result now =>
    unfold HistoryStore.step
    dsimp only
    split
    · unfold HistoryStore.completeHistory
      dsimp only
      split
      · exact ⟨hs.exact, hs.once, hs.bounded⟩
      · refine Tidy.useHistory ?_ _ _ _ _ _
        exact ⟨hs.exact, hs.once, hs.bounded⟩
    · exact ⟨hs.exact, hs.once, hs.bounded⟩

/-! ## Whose answer -/

/-- What holds between the numbers of the keys, the tasks, and the histories kept. -/
structure Filed (s : HistoryStore η) : Prop where
  generations : ∀ k, (s.generations k).getD 0 = serial (s.turns k)
  numbered : ∀ task ∈ s.running, task.generation = serial task.turn
  past : ∀ task ∈ s.running, task.connection ≤ s.connection
  current : ∀ task ∈ s.running, task.connection = s.connection →
    task.turn ≤ s.turns task.key ∧
      (task.turn = s.turns task.key → s.latest task.key = some task.number)
  kept : ∀ k c, s.cache k = some c → s.latest k = some c.request

namespace Filed

variable (hs : Filed s)

include hs

theorem configure (client : Option ℕ) (supported : Bool) :
    Filed (s.configure client supported) where
  generations := fun _ => rfl
  numbered := hs.numbered
  past := fun task h => (hs.past task h).trans (Nat.le_succ _)
  current := by
    intro task h hc
    have hle := hs.past task h
    change task.connection = s.connection + 1 at hc
    omega
  kept := by
    intro k c h
    cases h

theorem cancelInactive (key : HistoryKey) : Filed (s.cancelInactive key) where
  generations := by
    intro k
    unfold HistoryStore.cancelInactive
    dsimp only
    split
    · rw [Option.getD_some, hs.generations k, serial_succ]
    · exact hs.generations k
  numbered := hs.numbered
  past := hs.past
  current := by
    intro task h hc
    obtain ⟨hle, hlatest⟩ := hs.current task h hc
    unfold HistoryStore.cancelInactive
    dsimp only
    split
    · exact ⟨hle.trans (Nat.le_succ _), fun heq => by omega⟩
    · exact ⟨hle, hlatest⟩
  kept := hs.kept

/-- Looking a history up finds the last request's, and forgets what is too old. -/
theorem cachedHistory (key : HistoryKey) (now : Time) :
    Filed (s.cachedHistory key now).1 ∧
      (∀ c, (s.cachedHistory key now).2 = some c → s.latest key = some c.request) ∧
      ((s.cachedHistory key now).2 = none → (s.cachedHistory key now).1.cache key = none) := by
  unfold HistoryStore.cachedHistory
  cases hc : s.cache key with
  | none => exact ⟨hs, fun c h => (by cases h), fun _ => hc⟩
  | some cached =>
    dsimp only
    split
    · refine ⟨⟨hs.generations, hs.numbered, hs.past, hs.current, hs.kept⟩, ?_, ?_⟩
      · intro c h
        obtain rfl := Option.some.inj h
        exact hs.kept key cached hc
      · intro h
        cases h
    · refine ⟨⟨hs.generations, hs.numbered, hs.past, hs.current, ?_⟩, fun c h => (by cases h),
        fun _ => setKey_self _ _ _⟩
      intro k c h
      change setKey s.cache key none k = some c at h
      by_cases heq : k = key
      · subst heq
        rw [setKey_self] at h
        cases h
      · rw [setKey_ne heq] at h
        exact hs.kept k c h

/-- The new request is the last, and nothing older is kept for its key. -/
theorem startHistory (hc : s.cache key = none) (client : ℕ) :
    Filed (s.startHistory key client) where
  generations := by
    intro k
    change (setKey s.generations key (some ((s.generations key).getD 0 + 1)) k).getD 0 =
      serial (setKey s.turns key (s.turns key + 1) k)
    by_cases heq : k = key
    · subst heq
      rw [setKey_self, setKey_self, Option.getD_some, hs.generations k, serial_succ]
    · rw [setKey_ne heq, setKey_ne heq]
      exact hs.generations k
  numbered := by
    intro task h
    rcases List.mem_cons.1 h with rfl | h
    · change (s.generations key).getD 0 + 1 = serial (s.turns key + 1)
      rw [hs.generations key, serial_succ]
    · exact hs.numbered task h
  past := by
    intro task h
    rcases List.mem_cons.1 h with rfl | h
    · exact le_rfl
    · exact hs.past task h
  current := by
    intro task h hconnection
    change task.turn ≤ setKey s.turns key (s.turns key + 1) task.key ∧
      (task.turn = setKey s.turns key (s.turns key + 1) task.key →
        setKey s.latest key (some s.requests) task.key = some task.number)
    rcases List.mem_cons.1 h with rfl | h
    · dsimp only
      rw [setKey_self, setKey_self]
      exact ⟨le_rfl, fun _ => rfl⟩
    · obtain ⟨hle, hlatest⟩ := hs.current task h hconnection
      by_cases heq : task.key = key
      · rw [heq] at hle ⊢
        rw [setKey_self]
        exact ⟨hle.trans (Nat.le_succ _), fun h => by omega⟩
      · rw [setKey_ne heq, setKey_ne heq]
        exact ⟨hle, hlatest⟩
  kept := by
    intro k c h
    change s.cache k = some c at h
    have hne : k ≠ key := by
      intro heq
      rw [heq, hc] at h
      cases h
    change setKey s.latest key (some s.requests) k = some c.request
    rw [setKey_ne hne]
    exact hs.kept k c h

/-- An answer to the last request may be kept. -/
theorem cacheHistory (h : EndpointTelemetryHistory η) {request : ℕ}
    (hlatest : s.latest key = some request) (now : Time) :
    Filed (s.cacheHistory h key request now) := by
  refine ⟨hs.generations, hs.numbered, hs.past, hs.current, fun k c hk => ?_⟩
  have hbefore := evict_sub hk
  by_cases heq : k = key
  · subst heq
    rw [setKey_self] at hbefore
    obtain rfl := Option.some.inj hbefore
    exact hlatest
  · rw [setKey_ne heq] at hbefore
    exact hs.kept k c hbefore

/-- An answer to the last request may be used. -/
theorem useHistory {request : ℕ} (hlatest : s.latest key = some request) (isActive : Bool)
    (result : Except String (EndpointTelemetryHistory η)) (now : Time) :
    Filed (s.useHistory key request isActive result now) := by
  unfold HistoryStore.useHistory
  cases result with
  | error description =>
    dsimp only
    split
    · exact ⟨hs.generations, hs.numbered, hs.past, hs.current, hs.kept⟩
    · exact hs
  | ok h =>
    have hcached := hs.cacheHistory h hlatest now
    dsimp only
    split
    · split
      · exact ⟨hcached.generations, hcached.numbered, hcached.past, hcached.current, hcached.kept⟩
      · exact hcached
    · exact ⟨hs.generations, hs.numbered, hs.past, hs.current, hs.kept⟩

theorem endTask (task : HistoryTask) : Filed (s.silent.endTask task) where
  generations := hs.generations
  numbered := fun other h => hs.numbered other (List.mem_of_mem_erase h)
  past := fun other h => hs.past other (List.mem_of_mem_erase h)
  current := fun other h => hs.current other (List.mem_of_mem_erase h)
  kept := hs.kept

end Filed

/-- No task of an earlier connection reports back with the number in force for its key, nor one of
this connection so late that its number is in force again. -/
def Punctual (s : HistoryStore η) : HistoryEvent η → Prop
  | .complete task _ _ =>
    if task.connection = s.connection then s.turns task.key < task.turn + 2 ^ 64
    else s.generations task.key ≠ some task.generation
  | _ => True

instance (s : HistoryStore η) : (e : HistoryEvent η) → Decidable (Punctual s e)
  | .complete task _ _ =>
    inferInstanceAs (Decidable (if task.connection = s.connection then
      s.turns task.key < task.turn + 2 ^ 64 else s.generations task.key ≠ some task.generation))
  | .connect .. => isTrue trivial
  | .request .. => isTrue trivial

/-- An answer with the number in force answers the last request. -/
theorem Filed.latest_of_punctual (hs : Filed s) {task : HistoryTask} (hm : task ∈ s.running)
    (hg : s.generations task.key = some task.generation)
    {result : Except String (EndpointTelemetryHistory η)}
    (h : Punctual s (.complete task result now)) : s.latest task.key = some task.number := by
  change if _ then _ else _ at h
  split at h
  · rename_i hc
    obtain ⟨hle, hlatest⟩ := hs.current task hm hc
    have hnumber : serial task.turn = serial (s.turns task.key) := by
      rw [← hs.numbered task hm, ← hs.generations task.key, hg]
      rfl
    exact hlatest (eq_of_serial_eq hnumber hle h)
  · exact absurd hg h

/-- What was done for a request was done for the last one for its key. -/
def Belongs (t : HistoryStore η) (e : HistoryEvent η) (d : Deed) : Prop :=
  (∀ n ∈ d.request, t.latest d.key = some n) ∧ (d.request = none → ∃ now, e = .request d.key now)

theorem deeds_cachedHistory : (s.cachedHistory key now).1.deeds = s.deeds ∧
    (s.cachedHistory key now).1.latest = s.latest := by
  unfold HistoryStore.cachedHistory
  cases s.cache key with
  | none => exact ⟨rfl, rfl⟩
  | some cached =>
    dsimp only
    split
    · exact ⟨rfl, rfl⟩
    · exact ⟨rfl, rfl⟩

/-- Using an answer is done for its request. -/
theorem deeds_useHistory {request : ℕ} {isActive : Bool}
    {result : Except String (EndpointTelemetryHistory η)} {d : Deed}
    (h : d ∈ (s.useHistory key request isActive result now).deeds) :
    d ∈ s.deeds ∨ d.key = key ∧ d.request = some request := by
  unfold HistoryStore.useHistory at h
  cases result with
  | error description =>
    dsimp only at h
    split at h
    · rcases List.mem_cons.1 h with rfl | h
      · exact Or.inr ⟨rfl, rfl⟩
      · exact Or.inl h
    · exact Or.inl h
  | ok history =>
    dsimp only at h
    split at h
    · split at h
      · rcases List.mem_cons.1 h with rfl | h
        · exact Or.inr ⟨rfl, rfl⟩
        · rcases List.mem_cons.1 h with rfl | h
          · exact Or.inr ⟨rfl, rfl⟩
          · exact Or.inl h
      · rcases List.mem_cons.1 h with rfl | h
        · exact Or.inr ⟨rfl, rfl⟩
        · exact Or.inl h
    · rcases List.mem_cons.1 h with rfl | h
      · exact Or.inr ⟨rfl, rfl⟩
      · exact Or.inl h

theorem latest_useHistory {request : ℕ} {isActive : Bool}
    {result : Except String (EndpointTelemetryHistory η)} :
    (s.useHistory key request isActive result now).latest = s.latest := by
  unfold HistoryStore.useHistory
  cases result with
  | error description =>
    dsimp only
    split <;> rfl
  | ok history =>
    dsimp only
    split
    · split <;> rfl
    · rfl

/-- A request: what is shown at once was the last request's answer. -/
theorem requestHistory_belongs (hs : Filed s) (key : HistoryKey) (now : Time) :
    Filed (s.step (.request key now)) ∧
      ∀ d ∈ (s.step (.request key now)).deeds,
        Belongs (s.step (.request key now)) (.request key now) d := by
  have hsilent : Filed s.silent := ⟨hs.generations, hs.numbered, hs.past, hs.current, hs.kept⟩
  change Filed (s.silent.requestHistory key now) ∧
    ∀ d ∈ (s.silent.requestHistory key now).deeds,
      Belongs (s.silent.requestHistory key now) (.request key now) d
  -- turned down, the call reports the error itself
  have hturned : ∀ message, Filed (s.silent.report message key none) ∧
      ∀ d ∈ (s.silent.report message key none).deeds,
        Belongs (s.silent.report message key none) (.request key now) d := by
    intro message
    refine ⟨⟨hs.generations, hs.numbered, hs.past, hs.current, hs.kept⟩, fun d hd => ?_⟩
    obtain rfl := List.mem_singleton.1 hd
    exact ⟨fun n hn => (by cases hn), fun _ => ⟨now, rfl⟩⟩
  unfold HistoryStore.requestHistory
  split
  · exact hturned _
  split
  · exact hturned _
  rename_i client _
  obtain ⟨hfiled, hfound, hmissed⟩ := (hsilent.cancelInactive key).cachedHistory key now
  obtain ⟨hdeeds, hlatest⟩ := @deeds_cachedHistory _ (s.silent.cancelInactive key) key now
  dsimp only
  split
  · rename_i cached hcached
    refine ⟨⟨hfiled.generations, hfiled.numbered, hfiled.past, hfiled.current, hfiled.kept⟩,
      fun d hd => ?_⟩
    change d ∈ _ :: ((s.silent.cancelInactive key).cachedHistory key now).1.deeds at hd
    rw [hdeeds] at hd
    obtain rfl := List.mem_singleton.1 hd
    refine ⟨fun n hn => ?_, fun hnone => (by cases hnone)⟩
    obtain rfl := Option.some.inj hn
    change ((s.silent.cancelInactive key).cachedHistory key now).1.latest key = _
    rw [hlatest]
    exact hfound cached hcached
  · rename_i hnone
    split
    · refine ⟨hfiled, fun d hd => ?_⟩
      rw [hdeeds] at hd
      exact absurd hd List.not_mem_nil
    · refine ⟨hfiled.startHistory (hmissed hnone) client, fun d hd => ?_⟩
      change d ∈ ((s.silent.cancelInactive key).cachedHistory key now).1.deeds at hd
      rw [hdeeds] at hd
      exact absurd hd List.not_mem_nil

/-- **What an event does for a key** it does for the last request, if it is punctual. -/
theorem belongs_step (hs : Filed s) {e : HistoryEvent η} (h : Punctual s e) :
    Filed (s.step e) ∧ ∀ d ∈ (s.step e).deeds, Belongs (s.step e) e d := by
  cases e with
  | connect client supported =>
    have hsilent : Filed s.silent := ⟨hs.generations, hs.numbered, hs.past, hs.current, hs.kept⟩
    exact ⟨hsilent.configure client supported, fun d hd => absurd hd List.not_mem_nil⟩
  | request key now => exact requestHistory_belongs hs key now
  | complete task result now =>
    unfold HistoryStore.step
    dsimp only
    split
    · rename_i hm
      have hended := hs.endTask task
      unfold HistoryStore.completeHistory
      split
      · exact ⟨hended, fun d hd => absurd hd List.not_mem_nil⟩
      rename_i hg
      have hlast := hs.latest_of_punctual hm (not_not.1 hg) h
      have hover : ∀ isActive, Filed ((s.silent.endTask task).finishRequest task.key isActive) :=
        fun _ => ⟨hended.generations, hended.numbered, hended.past, hended.current, hended.kept⟩
      dsimp only
      refine ⟨(hover _).useHistory hlast _ _ _, fun d hd => ?_⟩
      rcases deeds_useHistory hd with hold | ⟨hkey, hrequest⟩
      · exact absurd hold List.not_mem_nil
      · rw [Belongs, latest_useHistory, hrequest, hkey]
        refine ⟨fun n hn => ?_, fun hnone => (by cases hnone)⟩
        obtain rfl := Option.some.inj hn
        exact hlast
    · exact ⟨⟨hs.generations, hs.numbered, hs.past, hs.current, hs.kept⟩,
        fun d hd => absurd hd List.not_mem_nil⟩

/-! ## Along a run -/

/-- Answers belong to their requests in the last event of every run along which `P` holds. -/
def AnswersBelong (P : HistoryStore η → HistoryEvent η → Prop) : Prop :=
  ∀ es e, Run.Along HistoryStore.step P {} (es ++ [e]) →
    ∀ d ∈ (Run.run HistoryStore.step {} (es ++ [e])).deeds,
      Belongs (Run.run HistoryStore.step {} (es ++ [e])) e d

/-- **Histories belong to their requests** along every punctual run, and the recency list is the
cache's along every run. -/
theorem histories_belong : AnswersBelong (Punctual (η := η)) ∧
    ∀ es : List (HistoryEvent η), Tidy (Run.run HistoryStore.step {} es) := by
  constructor
  · intro es e h
    obtain ⟨hpre, hlast, -⟩ := Run.along_append.1 h
    have hfiled : Filed (Run.run HistoryStore.step ({} : HistoryStore η) es) := by
      refine Run.run_inv (I := Filed) (fun s e hs he => (belongs_step hs he).1) ?_ hpre
      exact ⟨fun _ => rfl, fun _ h => absurd h List.not_mem_nil, fun _ h =>
        absurd h List.not_mem_nil,
        fun _ h => absurd h List.not_mem_nil, fun _ _ h => (by cases h)⟩
    rw [Run.run_concat]
    exact (belongs_step hfiled hlast).2
  · intro es
    refine Run.run_inv' (I := Tidy) (fun s e hs => tidy_step hs e) ?_
    exact ⟨fun k => ⟨fun h => absurd h List.not_mem_nil, fun h => (by cases h)⟩, List.nodup_nil,
      Nat.zero_le _⟩

/-! ## A number given out again -/

/-- The task of the first request to a service, the `connection`th connected to. -/
def firstTask (client connection number : ℕ) : HistoryTask :=
  { key := ⟨"alpha", .oneHour⟩, generation := 1, client, number, connection, turn := 1 }

/-- A history of `alpha` that tells who sent it. -/
def sentBy (client : ℕ) : EndpointTelemetryHistory ℕ :=
  { endpointID := "alpha", range := .oneHour, samples := client }

/-- The same history is asked of two services, the second connected to before the first answered. -/
def askedBoth : List (HistoryEvent ℕ) :=
  [.connect (some 1) true, .request ⟨"alpha", .oneHour⟩ 0, .connect (some 2) true,
    .request ⟨"alpha", .oneHour⟩ 0]

/-- The second service answers for itself. -/
theorem answer_of_present_service :
    ∀ d ∈ (Run.run HistoryStore.step ({} : HistoryStore ℕ)
        (askedBoth ++ [.complete (firstTask 2 2 1) (.ok (sentBy 2)) 0])).deeds,
      Belongs (Run.run HistoryStore.step ({} : HistoryStore ℕ)
          (askedBoth ++ [.complete (firstTask 2 2 1) (.ok (sentBy 2)) 0]))
        (.complete (firstTask 2 2 1) (.ok (sentBy 2)) 0) d :=
  histories_belong.1 askedBoth _ (by decide)

/-- The first service answers for the second. -/
theorem answer_of_former_service : ¬ AnswersBelong (η := ℕ) fun _ _ => True := by
  intro h
  have hbelongs := h askedBoth (.complete (firstTask 1 1 0) (.ok (sentBy 1)) 0)
    (by simp [askedBoth, Run.Along]) ⟨.cached, ⟨"alpha", .oneHour⟩, some 0⟩ (by decide)
  have hlatest := hbelongs.1 0 rfl
  revert hlatest
  decide

end ServerPilot.Desktop
