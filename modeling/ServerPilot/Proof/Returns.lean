import ServerPilot.Proof.Release
import ServerPilot.Proof.Resize

/-!
# Returning some of the cards

`gpu_release` with a list of names resizes the lease, and takes one refusal of
the resize, `use_release`, for the end of the task. The resize gives it when
there are as many names as cards, so a card named twice counts as two, and no
name at all is not a resize: `returns_named_iff`.
-/

namespace ServerPilot

open Rows Checked

/-! ## What a call owes -/

/-- The name the tool looks the task up by. -/
def toolName (task leaseId : Option String) : Option String :=
  (task.filter fun t => t ≠ "").or leaseId

/-- The state the tool's look at the task leaves: a heartbeat of its holder. -/
def Broker.lookedAt (cfg : Config) (viewedAt : Time) (actor : ActorContext) (project : String)
    (task leaseId : Option String) (b : Broker) : Broker :=
  match toolName task leaseId with
  | none => b
  | some name => exec cfg b (.leaseView viewedAt actor none (some name) (some project) false)

/-- The live task the tool goes on with. -/
def Broker.taskFound (cfg : Config) (viewedAt : Time) (actor : ActorContext) (project : String)
    (task leaseId : Option String) (b : Broker) : Option String :=
  (toolName task leaseId).bind fun name =>
    match leaseView cfg viewedAt actor none (some name) (some project) false b with
    | .ok (_, .view id ..) => some id
    | _ => none

/-- The call changed nothing: it failed, or the task was over before. -/
structure ToolCall.Declined (call : ToolCall) (looked : Broker) : Prop where
  broker : call.broker = looked
  answer : (∃ f, call.answer = .failed f) ∨
    ∃ id, call.answer = .ended id ∧ looked.ledger.over id

/-- Exactly the cards named, each by its row id or its UUID, left the lease, and the task ended only
if these are all it holds. -/
structure ToolCall.Returned (call : ToolCall) (looked : Broker) (id : String)
    (names : List String) : Prop where
  answer : ∀ f, call.answer ≠ .failed f
  named : Named looked id names (looked.returnedCards id names).toFinset
  cards : (call.broker.ledger.folio id).cardSet =
    (looked.ledger.folio id).cardSet \ (looked.returnedCards id names).toFinset
  whole : call.broker.ledger.over id →
    (looked.returnedCards id names).toFinset = (looked.ledger.folio id).cardSet ∧
      looked.ledger.pluginAllocation id = none

/-- A call that names cards is declined, or returns exactly these. -/
def ReturnsNamed (cfg : Config) (viewedAt resizedAt : Time) (w : ReleaseWorld)
    (actor : ActorContext)
    (project : String) (task leaseId : Option String) (names : List String) (outcome : Outcome)
    (b : Broker) : Prop :=
  let call := gpuRelease cfg viewedAt resizedAt w actor project task leaseId (some names) outcome b
  let looked := b.lookedAt cfg viewedAt actor project task leaseId
  call.Declined looked ∨
    ∃ id ∈ b.taskFound cfg viewedAt actor project task leaseId, call.Returned looked id names

/-- The names a resize lets through to its count: cards of a direct lease, with nothing on them. -/
def Broker.Countable (b : Broker) (id : String) (names : List String) : Prop :=
  (∀ a ∈ b.ledger.allocationsOf id, a.providerId = "builtin") ∧
    b.plant.unknownCards (b.ledger.cards id) names = [] ∧
    b.plant.busyCards (b.ledger.cards id) names = []

/-- As many names as cards are names of all of them; and no names are given for no cards. -/
def Broker.CountsRight (b : Broker) (id : String) (names : List String) : Prop :=
  (names = [] → b.ledger.cards id = [] ∧ b.ledger.pluginAllocation id = none) ∧
    (names ≠ [] → b.Countable id names → (b.ledger.cards id).length ≤ names.length →
      ∀ r ∈ b.ledger.cards id, r.gpuId ∈ b.returnedCards id names)

instance (b : Broker) (id : String) (names : List String) : Decidable (b.Countable id names) :=
  inferInstanceAs (Decidable (_ ∧ _ ∧ _))

instance (b : Broker) (id : String) (names : List String) : Decidable (b.CountsRight id names) :=
  inferInstanceAs (Decidable ((_ → _) ∧ (_ → _ → _ → ∀ r ∈ b.ledger.cards id, _)))

section

variable {cfg : Config} {b looked : Broker} {viewedAt resizedAt : Time} {w : ReleaseWorld}
  {actor : ActorContext} {project id : String} {task leaseId : Option String}
  {names : List String} {outcome : Outcome}

/-! ## The look -/

/-- What the look at a live task leaves: its lease, live and its caller's. -/
structure Broker.Opened (looked : Broker) (actor : ActorContext) (id : String) (x : Lease) :
    Prop where
  lease : looked.ledger.lease? id = some x
  kind : x.kind = .workload
  live : x.state.live = true
  mine : canManageLease actor x = true
  role : actor.role ∈ mutatingRoles

/-- The same leases stand under the same ids. -/
theorem SameKeys.lease? {l l' : Ledger} (k : SameKeys l l') (id : String) :
    (l'.lease? id).map Lease.deed = (l.lease? id).map Lease.deed := by
  have h : ∀ m : Ledger, (m.lease? id).map Lease.deed =
      (m.leases.map Lease.deed).find? fun x => decide (x.id = id) := by
    intro m
    rw [List.find?_map]
    rfl
  rw [h, h, k.deeds]

/-- Whoever manages a lease manages it under its deed. -/
theorem canManageLease_deed {x y : Lease} (h : y.deed = x.deed) :
    canManageLease actor y = canManageLease actor x := by
  have hdeed : ∀ z : Lease, canManageLease actor z = canManageLease actor z.deed := fun _ => rfl
  rw [hdeed y, hdeed x, h]

/-- A look at a live task leaves it live. -/
theorem view_opened {name : String} {b' : Broker} {resp : Response}
    (h : leaseView cfg viewedAt actor none (some name) (some project) false b = .ok (b', resp)) :
    (∃ id state taskRef epoch changes reason at_,
      resp = .ended id state taskRef epoch changes reason at_ ∧ b'.ledger.over id) ∨
    ∃ id state taskRef count epoch changes risk kept,
      resp = .view id state taskRef count epoch changes risk kept ∧ ∃ x, b'.Opened actor id x := by
  have hrole : actor.role ∈ mutatingRoles := by
    unfold leaseView requireRole at h
    simp only [bind_ok, require_ok] at h
    obtain ⟨-, hrole, -⟩ := h
    exact hrole
  obtain ⟨-, hkeeps⟩ := leaseView_keeps h
  obtain ⟨x, hx, hw, hm, -, hcase⟩ := leaseView_ok h
  -- the lease goes on as it was
  have hlease : ∃ y, b'.ledger.lease? x.id = some y ∧ y.deed = x.deed ∧
      y.state.live = x.state.live := by
    have hy := hkeeps.keys.lease? x.id
    rw [hx] at hy
    obtain ⟨y, hy, hdeed⟩ := Option.map_eq_some_iff.1 hy
    exact ⟨y, hy, hdeed, hkeeps.live hx hy⟩
  obtain ⟨y, hy, hdeed, hlive⟩ := hlease
  have hkind : y.kind = .workload := (congrArg Lease.kind hdeed).trans hw
  rcases hcase with ⟨hl, -, hr⟩ | ⟨hl, -, count, risk, kept, hr⟩
  · exact Or.inl ⟨_, _, _, _, _, _, _, hr, y, lease?_mem hy, lease?_id hy, hkind, hlive.trans hl⟩
  · exact Or.inr ⟨_, _, _, _, _, _, _, _, hr, y, hy, hkind, hlive.trans hl,
      (canManageLease_deed hdeed).trans hm, hrole⟩

/-- The call declines what the look declines, and otherwise goes on with the task found. -/
theorem gpuRelease_cases (cfg : Config) (b : Broker) (viewedAt resizedAt : Time) (w : ReleaseWorld)
    (actor : ActorContext) (project : String) (task leaseId : Option String) (names : List String)
    (outcome : Outcome) :
    ((gpuRelease cfg viewedAt resizedAt w actor project task leaseId (some names) outcome
      b).Declined
        (b.lookedAt cfg viewedAt actor project task leaseId) ∧
      b.taskFound cfg viewedAt actor project task leaseId = none) ∨
    ∃ id x, b.taskFound cfg viewedAt actor project task leaseId = some id ∧
      (b.lookedAt cfg viewedAt actor project task leaseId).Opened actor id x ∧
      gpuRelease cfg viewedAt resizedAt w actor project task leaseId (some names) outcome b =
        (b.lookedAt cfg viewedAt actor project task leaseId).returnCards cfg resizedAt w actor id
          (some names) outcome := by
  unfold gpuRelease Broker.lookedAt Broker.taskFound toolName
  cases hname : (task.filter fun t => t ≠ "").or leaseId with
  | none => exact Or.inl ⟨⟨rfl, Or.inl ⟨_, rfl⟩⟩, rfl⟩
  | some name =>
    simp only [Option.bind_some]
    rcases exec_cases cfg b (.leaseView viewedAt actor none (some name) (some project) false) with
      ⟨b', resp, h, hexec⟩ | ⟨⟨f, h⟩, hexec⟩
    · have hview : leaseView cfg viewedAt actor none (some name) (some project) false b =
        .ok (b', resp) := h
      rw [hexec, hview]
      rcases view_opened hview with
        ⟨id, _, _, _, _, _, _, rfl, hover⟩ | ⟨id, _, _, _, _, _, _, _, rfl, x, hx⟩
      · exact Or.inl ⟨⟨rfl, Or.inr ⟨id, rfl, hover⟩⟩, rfl⟩
      · exact Or.inr ⟨id, x, rfl, hx, rfl⟩
    · have hview : leaseView cfg viewedAt actor none (some name) (some project) false b =
        .error f := h
      rw [hexec, hview]
      exact Or.inl ⟨⟨rfl, Or.inl ⟨f, rfl⟩⟩, rfl⟩

/-! ## The end of a task -/

theorem Broker.Opened.not_over {x : Lease} (ho : looked.Opened actor id x) (hb : Intact looked) :
    ¬ looked.ledger.over id := by
  rintro ⟨y, hy, hid, -, hl⟩
  have hrow : looked.ledger.lease? id = some y := hid ▸ row?_of_mem hb.leasePk hy
  rw [ho.lease] at hrow
  obtain rfl := Option.some.inj hrow
  rw [ho.live] at hl
  cases hl

theorem Broker.Opened.not_terminal {x : Lease} (ho : looked.Opened actor id x) :
    x.state.terminal = false := by
  rw [LeaseState.terminal_eq_not_live, ho.live]
  rfl

theorem Broker.Opened.requires {x : Lease} (ho : looked.Opened actor id x) (outcome : Outcome) :
    requireRelease actor outcome.reason false = .ok () := by
  refine requireRelease_ok.2 ⟨ho.role, fun h => absurd h Bool.false_ne_true, ?_⟩
  cases outcome <;> decide

/-- A direct task ends. -/
theorem endTask_direct (w : ReleaseWorld) (outcome : Outcome) {x : Lease} (hb : Intact looked)
    (ho : looked.Opened actor id x)
    (hp : looked.ledger.pluginAllocation id = none) :
    (looked.endTask w actor id outcome).answer = .ended id ∧
      (looked.endTask w actor id outcome).broker.ledger.over id ∧
      (looked.endTask w actor id outcome).broker.ledger.cards id = [] := by
  have hnone : looked.releasableAllocation actor id false = none := by
    rw [Option.eq_none_iff_forall_ne_some]
    intro p h
    obtain ⟨-, -, -, -, hsome⟩ := releasable_some.1 h
    rw [hp] at hsome
    cases hsome
  obtain ⟨b', r, hr, hover, hcards⟩ := releaseLease_accepts w.writtenAt w.token none hb
    (ho.requires outcome) ho.lease ho.kind ho.not_terminal (Or.inl ho.mine) rfl
  unfold Broker.endTask releaseCall Broker.endRelease
  rw [ho.requires outcome]
  simp only [hnone, hr]
  exact ⟨trivial, hover, hcards⟩

/-- A call that left a mark and failed neither declined nor returned cards. -/
theorem neither_of_marked {call : ToolCall} {f : Fault} (ha : call.answer = .failed f)
    (hr : looked.ledger.revision < call.broker.ledger.revision) :
    ¬ call.Declined looked ∧ ¬ call.Returned looked id names := by
  refine ⟨fun h => ?_, fun h => h.answer f ha⟩
  rw [h.broker] at hr
  exact lt_irrefl _ hr

/-- A delegated task ends, or is left marked: either way the call neither declined nor returned
cards. -/
theorem endTask_delegated (w : ReleaseWorld) (outcome : Outcome) (names : List String) {x : Lease}
    (hb : Intact looked) (ho : looked.Opened actor id x)
    {p : PluginRelease} (hp : looked.ledger.pluginAllocation id = some p) :
    ¬ (looked.endTask w actor id outcome).Declined looked ∧
      ¬ (looked.endTask w actor id outcome).Returned looked id names := by
  have hrequires := ho.requires outcome
  have hreleasable : looked.releasableAllocation actor id false = some p :=
    releasable_some.2 ⟨x, ho.lease, ho.not_terminal, Or.inl ho.mine, hp⟩
  have hremote := releaseCall_remote w none hb hrequires hreleasable
  set marked := looked.markedRow p.allocationId false none w.markedAt with hmarked
  have hi : Intact marked := hb.markedRow p.allocationId false none w.markedAt
  have ha : p.allocationId ∈ marked.ledger.allocations.map ResourceAllocation.id := by
    rw [hmarked, markedRow_ids]
    exact pluginAllocation_id hp
  have hrevision : looked.ledger.revision < marked.ledger.revision := Nat.lt_succ_self _
  have hagain : ∀ released error now,
      looked.ledger.revision <
        (marked.markedRow p.allocationId released error now).ledger.revision :=
    fun _ _ _ => hrevision.trans (Nat.lt_succ_self _)
  unfold Broker.endTask
  rw [hremote]
  cases hr : w.refusal with
  | some text =>
    rw [answerRelease_refused hi ha hr]
    exact neither_of_marked rfl (hagain _ _ _)
  | none =>
    cases hbr : w.breaks with
    | some at_ =>
      cases at_ with
      | atMark =>
        rw [answerRelease_atMark hr hbr]
        exact neither_of_marked rfl hrevision
      | atWrite =>
        rw [answerRelease_atWrite hi ha hr hbr]
        exact neither_of_marked rfl (hagain _ _ _)
    | none =>
      rw [answerRelease_through hi ha hr hbr]
      -- the last transaction finds the lease as the look left it
      have hlease : (marked.markedRow p.allocationId true none w.answeredAt).ledger.lease? id =
        some x := ho.lease
      obtain ⟨b', r, hcall, hover, -⟩ := releaseLease_accepts w.writtenAt w.token none
        (hi.markedRow p.allocationId true none w.answeredAt)
        hrequires hlease ho.kind ho.not_terminal (Or.inl ho.mine) rfl
      unfold Broker.endRelease
      rw [hcall]
      refine ⟨fun h => ?_, fun h => ?_⟩
      · obtain ⟨f, hf⟩ | ⟨i, hi, hover'⟩ := h.answer
        · cases hf
        · cases hi
          exact ho.not_over hb hover'
      · have hnone := (h.whole hover).2
        rw [hp] at hnone
        cases hnone

/-! ## The resize in between -/

theorem Broker.Opened.agentLease {x : Lease} (ho : looked.Opened actor id x) :
    looked.ledger.agentLease actor id = .ok x := by
  unfold Ledger.agentLease
  simp only [bind_ok, need_ok, require_ok, pure_ok]
  exact ⟨x, by simp [ho.lease, ho.kind], (), Or.inl ho.mine, (), ho.mine, rfl⟩

/-- A commit that fails gives no code. -/
theorem finish_error {b : Broker} {r : Response} {f : Fault} (h : finish b r = .error f) :
    f.code = none := by
  unfold finish commit at h
  cases hv : b.violated with
  | none =>
    rw [hv] at h
    cases h
  | some index =>
    rw [hv] at h
    cases h
    rfl

/-- **The refusal the tool takes for an end** is given exactly when cards of the lease are named,
and there are as many names as cards. -/
theorem resize_use_release_iff (cfg : Config) (resizedAt : Time) {x : Lease}
    (ho : looked.Opened actor id x)
    (token : String → String) :
    (∃ f, resizeLease cfg resizedAt actor id none names none token looked = .error f ∧
        f.code = some "use_release") ↔
      looked.Countable id names ∧ (looked.ledger.cards id).length ≤ names.length := by
  unfold resizeLease requireRole
  rw [require_bind_pos ho.role, ho.agentLease]
  change (∃ f, (require (x.state.live = true) _ >>= _) = _ ∧ _) ↔ _
  rw [require_bind_pos ho.live]
  constructor
  · rintro ⟨f, h, hcode⟩
    -- of all the refusals on the way, only that of the count has the code
    have other : ∀ {code message : String} {status : ℕ} {details : Details},
        (refuse code message status details).code = some "use_release" → code = "use_release" :=
      fun h => Option.some.inj h
    simp only [bind_error, require_error, require_ok] at h
    rcases h with ⟨-, rfl⟩ | ⟨-, hbuiltin, ⟨-, rfl⟩ | ⟨-, -, ⟨-, rfl⟩ | ⟨-, hknown, ⟨-, rfl⟩ |
      ⟨-, hidle, ⟨hcount, rfl⟩ | ⟨-, -, hadd | ⟨out, -, ⟨-, rfl⟩ | ⟨-, -, hlast⟩⟩⟩⟩⟩⟩⟩
    · exact absurd (other hcode) (by decide)
    · exact absurd (other hcode) (by decide)
    · exact absurd (other hcode) (by decide)
    · exact absurd (other hcode) (by decide)
    · exact ⟨⟨hbuiltin, hknown, hidle⟩, (not_not.1 hcount).1⟩
    · cases hadd
    · exact absurd (other hcode) (by decide)
    · rw [finish_error hlast] at hcode
      cases hcode
  · rintro ⟨⟨hbuiltin, hknown, hidle⟩, hcount⟩
    rw [require_bind_pos hbuiltin, require_bind_pos (by simp)]
    change ∃ f, (require (looked.plant.unknownCards (looked.ledger.cards id) names = []) _ >>= _) =
      _ ∧ _
    rw [require_bind_pos hknown, require_bind_pos hidle, require_bind_neg (not_not.2 ⟨hcount, rfl⟩)]
    exact ⟨_, rfl, rfl⟩

/-- A resize that is accepted answers with the names it was given. -/
theorem resize_response {token : String → String} {b' : Broker} {resp : Response}
    (h : resizeLease cfg resizedAt actor id none names none token looked = .ok (b', resp)) :
    ∃ lease added removed epoch revision, resp = .resized lease added removed epoch revision := by
  unfold resizeLease at h
  simp only [bind_ok, finish_ok] at h
  obtain ⟨-, -, lease, -, -, -, -, -, -, -, -, -, -, -, -, -, out, -, -, -, -, rfl, -⟩ := h
  exact ⟨_, _, _, _, _, rfl⟩

/-- A resize that is accepted returns exactly the cards named, and leaves the task live. -/
theorem returned_of_resize (hk : Kept looked) {call : ToolCall} {token : String → String}
    {resp : Response} (ha : ∀ f, call.answer ≠ .failed f)
    (h : resizeLease cfg resizedAt actor id none names none token looked =
      .ok (call.broker, resp)) : call.Returned looked id names := by
  obtain ⟨hnamed, added, hex⟩ := resize_exchanges hk h
  obtain rfl := hex.nothing rfl
  obtain ⟨-, -, x, h', hx, -, -, hx', hh', hresized⟩ := resize_resized hk.intact h
  refine ⟨ha, hnamed, ?_, fun hover => ?_⟩
  · rw [hex.cards]
    simp
  · -- the lease is live, and no other has its id
    obtain ⟨y, hy, hid, -, hl⟩ := hover
    have hpk : (call.broker.ledger.leases.map Lease.id).Nodup := by
      obtain ⟨-, -, -, -, -, -, -, -, -, -, -, -, -, hi, -⟩ := resizeLease_ok h
      exact hi.leasePk
    have hrow : call.broker.ledger.lease? id = some y := hid ▸ row?_of_mem hpk hy
    rw [hx'] at hrow
    obtain rfl := Option.some.inj hrow
    have hlive : x.state.live = true := hresized.live.1
    rw [show x.raised.state = x.state from rfl, hlive] at hl
    cases hl

theorem plugin_none_of_countable (hc : looked.Countable id names) :
    looked.ledger.pluginAllocation id = none := by
  rw [Option.eq_none_iff_forall_ne_some]
  intro p hp
  obtain ⟨a, ha, -, hne⟩ := pluginAllocation_mem hp
  exact hne (hc.1 a ha)

/-! ## The call -/

/-- The end of a direct task, as a return of cards: right when these were all it holds. -/
theorem endTask_returned_iff {x : Lease} (hb : Intact looked) (ho : looked.Opened actor id x)
    (hp : looked.ledger.pluginAllocation id = none)
    (hknown : looked.plant.unknownCards (looked.ledger.cards id) names = []) :
    ((looked.endTask w actor id outcome).Declined looked ∨
        (looked.endTask w actor id outcome).Returned looked id names) ↔
      ∀ r ∈ looked.ledger.cards id, r.gpuId ∈ looked.returnedCards id names := by
  obtain ⟨hanswer, hover, hcards⟩ := endTask_direct w outcome hb ho hp
  have hempty : ((looked.endTask w actor id outcome).broker.ledger.folio id).cardSet = ∅ := by
    rw [Finset.eq_empty_iff_forall_notMem]
    intro g hg
    obtain ⟨r, hr, -⟩ := mem_cardSet.1 hg
    rw [hcards] at hr
    cases hr
  have hsub := returnedCards_subset looked id names
  constructor
  · rintro (h | h) r hr
    · obtain ⟨f, hf⟩ | ⟨i, hi, hover'⟩ := h.answer
      · rw [hanswer] at hf
        cases hf
      · rw [hanswer] at hi
        cases hi
        exact absurd hover' (ho.not_over hb)
    · have hall := (h.whole hover).1
      rw [← List.mem_toFinset, hall]
      exact mem_cardSet.2 ⟨r, hr, rfl⟩
  · intro hall
    have heq : (looked.returnedCards id names).toFinset = (looked.ledger.folio id).cardSet := by
      refine hsub.antisymm fun g hg => ?_
      obtain ⟨r, hr, rfl⟩ := mem_cardSet.1 hg
      exact List.mem_toFinset.2 (hall r hr)
    refine Or.inr ⟨fun f hf => ?_, named_returned hknown, ?_, fun _ => ⟨heq, hp⟩⟩
    · rw [hanswer] at hf
      cases hf
    · rw [hempty, heq, Finset.sdiff_self]

/-- What the tool does with a task it found is right exactly when the names count right. -/
theorem returnCards_iff (cfg : Config) (resizedAt : Time) (w : ReleaseWorld) (outcome : Outcome)
    (names : List String) {x : Lease} (hk : Kept looked) (ho : looked.Opened actor id x) :
    ((looked.returnCards cfg resizedAt w actor id (some names) outcome).Declined looked ∨
        (looked.returnCards cfg resizedAt w actor id (some names) outcome).Returned looked id
          names) ↔
      looked.CountsRight id names := by
  unfold Broker.CountsRight
  cases names with
  | nil =>
    have hcall : looked.returnCards cfg resizedAt w actor id (some []) outcome =
        looked.endTask w actor id outcome := rfl
    rw [hcall]
    cases hp : looked.ledger.pluginAllocation id with
    | some p =>
      obtain ⟨hd, hr⟩ := endTask_delegated w outcome [] hk.intact ho hp
      exact iff_of_false (not_or.2 ⟨hd, hr⟩) fun h => by cases (h.1 rfl).2
    | none =>
      rw [endTask_returned_iff hk.intact ho hp rfl]
      constructor
      · intro h
        refine ⟨fun _ => ⟨List.eq_nil_iff_forall_not_mem.2 fun r hr => ?_, rfl⟩, fun h =>
          absurd rfl h⟩
        exact absurd (h r hr) List.not_mem_nil
      · intro h r hr
        rw [(h.1 rfl).1] at hr
        cases hr
  | cons name names =>
    have hne : name :: names ≠ [] := List.cons_ne_nil _ _
    by_cases hcount : looked.Countable id (name :: names) ∧
        (looked.ledger.cards id).length ≤ (name :: names).length
    · -- the count is full, and the task ends
      obtain ⟨f, hf, hcode⟩ := (resize_use_release_iff cfg resizedAt ho w.token).2 hcount
      have hcall : looked.returnCards cfg resizedAt w actor id (some (name :: names)) outcome =
          looked.endTask w actor id outcome := by
        unfold Broker.returnCards
        simp only [Option.getD_some, hf, hcode, if_true]
      rw [hcall, endTask_returned_iff hk.intact ho (plugin_none_of_countable hcount.1) hcount.1.2.1]
      exact ⟨fun h => ⟨fun hnil => absurd hnil hne, fun _ _ _ => h⟩,
        fun h => h.2 hne hcount.1 hcount.2⟩
    · -- the resize decides
      refine iff_of_true ?_ ⟨fun hnil => absurd hnil hne, fun _ hc hle => absurd ⟨hc, hle⟩ hcount⟩
      cases hresize : resizeLease cfg resizedAt actor id none (name :: names) none w.token
        looked with
      | error f =>
        have hcode : ¬ f.code = some "use_release" := fun hcode =>
          hcount ((resize_use_release_iff cfg resizedAt ho w.token).1 ⟨f, hresize, hcode⟩)
        have hcall : looked.returnCards cfg resizedAt w actor id (some (name :: names)) outcome =
            { broker := looked, answer := .failed f } := by
          unfold Broker.returnCards
          simp only [Option.getD_some, hresize, if_neg hcode]
        rw [hcall]
        exact Or.inl ⟨rfl, Or.inl ⟨f, rfl⟩⟩
      | ok out =>
        obtain ⟨b', resp⟩ := out
        obtain ⟨_, _, removed, _, _, rfl⟩ := resize_response hresize
        have hcall : looked.returnCards cfg resizedAt w actor id (some (name :: names)) outcome =
            { broker := b', answer := .removed id removed } := by
          unfold Broker.returnCards
          simp only [Option.getD_some, hresize]
        rw [hcall]
        exact Or.inr (returned_of_resize hk (fun f hf => by cases hf) hresize)

/-- **A call that names cards returns exactly these, or is declined, exactly when it counts right**:
it names some card, unless the task has none, and when it has as many names as there are cards it
names all of them. -/
theorem returns_named_iff (cfg : Config) (b : Broker) (hb : Reachable cfg b)
    (viewedAt resizedAt : Time) (w : ReleaseWorld) (actor : ActorContext) (project : String)
    (task leaseId : Option String) (names : List String) (outcome : Outcome) :
    ReturnsNamed cfg viewedAt resizedAt w actor project task leaseId names outcome b ↔
      ∀ id ∈ b.taskFound cfg viewedAt actor project task leaseId,
        (b.lookedAt cfg viewedAt actor project task leaseId).CountsRight id names := by
  have hk : Kept (b.lookedAt cfg viewedAt actor project task leaseId) := by
    unfold Broker.lookedAt
    cases toolName task leaseId with
    | none => exact hb.kept
    | some name => exact exec_kept cfg b _ hb.kept
  unfold ReturnsNamed
  rcases gpuRelease_cases cfg b viewedAt resizedAt w actor project task leaseId names outcome with
    ⟨hdeclined, hnone⟩ | ⟨id, x, hfound, ho, hcall⟩
  · refine iff_of_true (Or.inl hdeclined) fun id hid => ?_
    rw [hnone] at hid
    cases hid
  · have hiff := returnCards_iff cfg resizedAt w outcome names hk ho
    rw [hcall]
    constructor
    · rintro h i hi
      obtain rfl : id = i := Option.some.inj (hfound.symm.trans hi)
      refine hiff.1 (h.imp_right ?_)
      rintro ⟨j, hj, hr⟩
      obtain rfl : id = j := Option.some.inj (hfound.symm.trans hj)
      exact hr
    · intro h
      exact (hiff.2 (h id hfound)).imp_right fun hr => ⟨id, hfound, hr⟩

end

/-! ## A card named twice -/

theorem heldBoth_constraints : ResourceConstraints.Valid { gpuCount := 2 } := by decide

/-- A task on both cards of a server. -/
def heldBoth : Broker :=
  Run.run (exec plainConfig) sampleFleet
    [.ingestObservation 0 (lookAtTwo "alpha" "GPU-0" "GPU-1" twoCards_ne 0 []) sampleToken,
     .createRequest 0 (sampleActor "ann") (sampleRequest { gpuCount := 2 } heldBoth_constraints)
       none
       true "lease" (sampleToken "lease")]

theorem heldBoth_reachable : Reachable plainConfig heldBoth := ⟨_, sampleFleet_seeded, _, rfl⟩

/-- A release nothing goes wrong with. -/
def smoothRelease : ReleaseWorld :=
  { markedAt := seconds 2, answeredAt := seconds 3, writtenAt := seconds 4
    token := sampleToken "lease" }

/-- Naming one card by its row id and its UUID counts wrong; naming it once counts right. -/
theorem heldBoth_returns :
    ReturnsNamed plainConfig (seconds 1) (seconds 2) smoothRelease (sampleActor "ann") "lab"
        (some "train") none ["GPU-0"] .completed heldBoth ∧
      ¬ ReturnsNamed plainConfig (seconds 1) (seconds 2) smoothRelease (sampleActor "ann") "lab"
        (some "train") none ["GPU-0", "alpha:GPU-0"] .completed heldBoth :=
  ⟨(returns_named_iff _ _ heldBoth_reachable _ _ _ _ _ _ _ _ _).2 (by decide +kernel),
    fun h => absurd ((returns_named_iff _ _ heldBoth_reachable _ _ _ _ _ _ _ _ _).1 h)
      (by decide +kernel)⟩

/-- **A card named twice ends the task**, which holds another one. -/
theorem one_card_ends_task :
    ¬ ∀ cfg b, Reachable cfg b → ∀ viewedAt resizedAt w actor project task leaseId names outcome,
      ReturnsNamed cfg viewedAt resizedAt w actor project task leaseId names outcome b := by
  intro h
  have hr := h plainConfig heldBoth heldBoth_reachable (seconds 1) (seconds 2) smoothRelease
    (sampleActor "ann") "lab" (some "train") none ["GPU-0", "alpha:GPU-0"] .completed
  let looked :=
    heldBoth.lookedAt plainConfig (seconds 1) (sampleActor "ann") "lab" (some "train") none
  let call := gpuRelease plainConfig (seconds 1) (seconds 2) smoothRelease (sampleActor "ann") "lab"
    (some "train") none (some ["GPU-0", "alpha:GPU-0"]) .completed heldBoth
  have hended : call.broker.ledger.liveLeaseIds = [] ∧ looked.ledger.liveLeaseIds = ["lease"] := by
    decide +kernel
  have hkept : (call.broker.ledger.folio "lease").cardSet ≠ (looked.ledger.folio "lease").cardSet \
      (looked.returnedCards "lease" ["GPU-0", "alpha:GPU-0"]).toFinset := by decide +kernel
  have hfound : heldBoth.taskFound plainConfig (seconds 1) (sampleActor "ann") "lab" (some "train")
      none = some "lease" := by decide +kernel
  rcases hr with hd | ⟨id, hid, hret⟩
  · have hsame : call.broker = looked := hd.broker
    rw [hsame, hended.2] at hended
    cases hended.1
  · obtain rfl : "lease" = id := Option.some.inj (hfound.symm.trans hid)
    exact hkept hret.cards

end ServerPilot
