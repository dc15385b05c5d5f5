import ServerPilot.Proof.Epoch
import ServerPilot.Proof.Deeds
import ServerPilot.Spec.Calls

/-!
# Retries under a key

A call repeated under the key it stored its answer with gets that answer back and
touches nothing, for the four calls that look the key up before anything that can
fail, `release_lease` among them because a lease once over stays over. A move and
a provider claim look at the state first, and replay only where they would still
be let through: `keyed_replays_iff`.
-/

namespace ServerPilot

open Rows Checked

/-! ## A lease once over -/

/-- Lease `id` is a workload's, and over. -/
def Ledger.over (l : Ledger) (id : String) : Prop :=
  ∃ x ∈ l.leases, x.id = id ∧ x.kind = .workload ∧ x.state.live = false

section

variable {cfg : Config} {op : Op} {b b' : Broker} {id : String} {resp : Response}

/-- What is over stays over, whatever happens to the holdings. -/
theorem Life.over {l : Ledger} (k : Life b op l) {h : Holding String String}
    (hh : b.ledger.holding? id = some h) (hl : h.live = false) :
    ∃ h', l.holding? id = some h' ∧ h'.live = false := by
  have tracked : ∀ {h' : Holding String String}, h.Tracks h' → h'.live = false := by
    intro h' t
    by_contra hc
    rw [t.live (by simpa using hc)] at hl
    cases hl
  cases k with
  | ends e =>
    obtain ⟨h', hh', s⟩ := e.fades.related id h hh
    exact ⟨h', hh', tracked s.tracks⟩
  | loses _ f =>
    obtain ⟨h', hh', s⟩ := f.related id h hh
    exact ⟨h', hh', tracked s.tracks⟩
  | opens gpuIds _ o => exact ⟨h, (o.old id (by rw [hh]; simp)).1.trans hh, hl⟩
  | resizes i _ a =>
    by_cases hid : id = i
    · obtain ⟨x, y, hx, -, r⟩ := a.this
      rw [← hid, hh] at hx
      cases hx
      rw [r.live.1] at hl
      cases hl
    · exact ⟨h, (a.others id hid).trans hh, hl⟩
  | moves m _ _ a =>
    by_cases hid : id = m.leaseId
    · obtain ⟨x, y, hx, -, -, r⟩ := a.this
      rw [← hid, hh] at hx
      cases hx
      rw [r.live.1] at hl
      cases hl
    · exact ⟨h, (a.others id hid).trans hh, hl⟩
  | uproots e _ u =>
    obtain ⟨h', hh', r⟩ := u.related id h hh
    refine ⟨h', hh', ?_⟩
    rcases r with r | r
    · exact tracked r.tracks
    · exact r.live

theorem apply_over (hk : Kept b) (h : op.apply cfg b = .ok (b', resp)) (ho : b.ledger.over id) :
    b'.ledger.over id := by
  obtain ⟨x, hx, rfl, hw, hl⟩ := ho
  obtain ⟨y, hy, hid, hkind⟩ := (apply_deeds hk.intact h).kind hx
  have hi' := apply_intact hk.intact h
  obtain ⟨h', hh', hl'⟩ := (apply_life hk.intact hk.wellkept h).over
    (holding_of_lease (row?_of_mem hk.intact.leasePk hx)) hl
  have hy' : b'.ledger.lease? x.id = some y := hid ▸ row?_of_mem hi'.leasePk hy
  rw [holding_of_lease hy'] at hh'
  cases hh'
  exact ⟨y, hy, hid, hkind.trans hw, hl'⟩

/-- **A lease once over stays over**, in every run. -/
theorem run_over (hk : Kept b) (ho : b.ledger.over id) (ops : List Op) :
    (Run.run (exec cfg) b ops).ledger.over id := by
  have hstep : ∀ (s : Broker) (op : Op), Kept s ∧ s.ledger.over id →
      Kept (exec cfg s op) ∧ (exec cfg s op).ledger.over id := by
    intro s op hs
    refine ⟨exec_kept cfg s op hs.1, ?_⟩
    rcases exec_cases cfg s op with ⟨b', r, h, he⟩ | ⟨-, he⟩
    · rw [he]
      exact apply_over hs.1 h hs.2
    · rw [he]
      exact hs.2
  exact (Run.run_inv' hstep ⟨hk, ho⟩).2

end

/-! ## Stored answers -/

/-- The answer `response` is on record under this key. -/
def Ledger.remembers (l : Ledger) (actor : ActorContext) (action key : String)
    (response : Response) : Prop :=
  ∃ r ∈ l.idempotency, r.actorId = actor.id ∧ r.action = action ∧ r.key = key ∧
    r.response = response

instance (l : Ledger) (actor : ActorContext) (action key : String) (response : Response) :
    Decidable (l.remembers actor action key response) :=
  inferInstanceAs (Decidable (∃ r ∈ l.idempotency, _))

/-- The call stored its answer: its caller may write, its key was a new one, and the transaction it
ends with was accepted. -/
structure KeyedCall.Stores (cfg : Config) (c : KeyedCall) (d : Draw) (actor : ActorContext)
    (key : String) (b b' : Broker) (response : Response) : Prop where
  role : actor.role ∈ mutatingRoles
  fresh : b.ledger.replay actor c.action (some key) = .ok none
  accepted : (c.last d actor key).apply cfg b = .ok (b', response)

/-- The call, made on `b` at any time, answers `response`, changes nothing and asks no provider. -/
def KeyedCall.Replays (cfg : Config) (c : KeyedCall) (actor : ActorContext) (key : String)
    (b : Broker) (response : Response) : Prop :=
  ∀ d, c.course cfg d actor key b = .answered (.ok (b, some response))

/-- The providers a claim might go to. -/
def Broker.providersFor (cfg : Config) (b : Broker) (r : RequestCreate) :
    List (Endpoint × Plugin) :=
  (b.plant.endpoints.filter r.constraints.namesEndpoint).filterMap fun e =>
    (cfg.applyPlugin e).map fun x => (e, x)

/-- What the state must still have for a call to reach its stored answer: a move needs its lease
live, manageable and on as many cards, all of them known; a provider claim needs its one
provider. -/
def KeyedCall.Reaches (cfg : Config) (actor : ActorContext) (b : Broker) : KeyedCall → Prop
  | reassignLeaseGpus leaseId gpuIds override => ∃ x ∈ b.ledger.lease? leaseId,
      x.kind = .workload ∧ x.state.live = true ∧
      (override = true ∨ canManageLease actor x = true) ∧
      b.ledger.pluginAllocation leaseId = none ∧
      gpuIds.length = (b.ledger.cards leaseId).length ∧
      ∀ g ∈ gpuIds, (b.plant.gpu? g).isSome = true
  | claimProvider r => ∃ p, b.providersFor cfg r = [p] ∧
      r.durationSeconds ≠ undeclaredDurationSeconds ∧
      ∀ m ∈ p.2.maxLeaseSeconds, r.durationSeconds ≤ m
  | _ => True

section

variable {cfg : Config} {actor : ActorContext} {b b' : Broker} {key action : String}
  {response : Response} {d : Draw} {now : Time} {leaseId : String}

/-- An answer on record is the one a lookup finds. -/
theorem replay_of_remembers (hi : Intact b) (hkey : key ≠ "" ∧ key.length ≤ 255)
    (hr : b.ledger.remembers actor action key response) :
    b.ledger.replay actor action (some key) = .ok (some response) := by
  obtain ⟨r, hm, ha, hc, hk, rfl⟩ := hr
  have hfind : b.ledger.idempotency.find? (fun r =>
      decide (r.actorId = actor.id ∧ r.action = action ∧ r.key = key)) = some r := by
    have hrow : row? (fun r => (r.actorId, r.action, r.key)) (actor.id, action, key)
        b.ledger.idempotency = some r := by
      rw [← ha, ← hc, ← hk]
      exact row?_of_mem hi.idempotencyPk hm
    rw [← hrow]
    unfold row?
    congr 1
    funext x
    simp only [Prod.mk.injEq]
  unfold Ledger.replay Ledger.idempotent
  simp only [bind_ok, require_ok, pure_ok]
  exact ⟨(), hkey, by rw [hfind]; rfl⟩

/-- A key that was looked up is a well-formed one. -/
theorem key_of_replay {answer : Option Response}
    (h : b.ledger.replay actor action (some key) = .ok answer) : key ≠ "" ∧ key.length ≤ 255 := by
  unfold Ledger.replay Ledger.idempotent at h
  simp only [bind_ok, require_ok] at h
  obtain ⟨-, hk, -⟩ := h
  exact hk

/-- A stored answer comes back from the lookup that guards an operation. -/
theorem once_replays {body : Tx (Broker × Response)}
    (h : b.ledger.replay actor action (some key) = .ok (some response)) :
    once b actor action (some key) now body = .ok (b, response) := by
  unfold once
  rw [h]
  rfl

theorem settled_eq {t : Tx (Broker × Response)} :
    Course.settled t = .answered (.ok (b, some response)) ↔ t = .ok (b, response) := by
  cases t with
  | error e => simp [Course.settled, Except.map]
  | ok x => simp [Course.settled, Except.map, Prod.ext_iff]

/-! ## Calls that look their key up first -/

theorem createRequest_replays {r : RequestCreate} {persistent : Bool} {token : String → String}
    (hr : actor.role ∈ mutatingRoles)
    (h : b.ledger.replay actor "request.create" (some key) = .ok (some response)) :
    createRequest cfg now actor r (some key) persistent leaseId token b = .ok (b, response) := by
  unfold createRequest
  simp only [bind_ok]
  exact ⟨(), require_ok.2 hr, some response, h, rfl⟩

theorem updateEndpoint_replays {endpointId : String} {u : EndpointUpdate}
    (hr : actor.role ∈ mutatingRoles)
    (h : b.ledger.replay actor "endpoint.update" (some key) = .ok (some response)) :
    updateEndpoint now actor endpointId u key b = .ok (b, response) := by
  unfold updateEndpoint
  simp only [bind_ok]
  exact ⟨(), require_ok.2 hr, once_replays h⟩

theorem deleteEndpoint_replays {endpointId : String} (hr : actor.role ∈ mutatingRoles)
    (h : b.ledger.replay actor "endpoint.delete" (some key) = .ok (some response)) :
    deleteEndpoint cfg now actor endpointId key b = .ok (b, response) := by
  unfold deleteEndpoint
  simp only [bind_ok]
  exact ⟨(), require_ok.2 hr, once_replays h⟩

/-! ## Releases -/

/-- The answer of an operation under a new key is on record. -/
theorem once_stores {body : Tx (Broker × Response)}
    (hf : b.ledger.replay actor action (some key) = .ok none)
    (h : once b actor action (some key) now body = .ok (b', response)) :
    b'.ledger.remembers actor action key response := by
  unfold once at h
  rw [hf] at h
  obtain ⟨b₁, -, -, rfl⟩ := remembering_ok h
  exact ⟨_, List.mem_append_right _ (List.mem_singleton_self _), rfl, rfl, rfl, rfl⟩

/-- A new key has no answer on record. -/
theorem not_remembers_of_replay (hf : b.ledger.replay actor action (some key) = .ok none) :
    ¬ b.ledger.remembers actor action key response := by
  rintro ⟨r, hm, ha, hc, hk, -⟩
  unfold Ledger.replay Ledger.idempotent at hf
  simp only [bind_ok, pure_ok, Option.map_eq_none_iff, List.find?_eq_none] at hf
  obtain ⟨-, -, hf⟩ := hf
  exact hf r hm (by simp [ha, hc, hk])

theorem leases_released (b : Broker) (lease : Lease) (reason : String) (token : String → String)
    (now : Time) : (b.released lease reason token now).ledger.leases =
      updWhere (fun x => x.id = lease.id) (Lease.ended .released (some reason) now)
        b.ledger.leases :=
  (released_writes b lease reason token now).leases

/-- A release that stored its answer passed the checks its retry meets, and ended its lease. -/
theorem releaseLease_stores {reason : String} {override : Bool} {token : String → String}
    (hf : b.ledger.replay actor "lease.release" (some key) = .ok none)
    (h : releaseLease now actor leaseId reason (some key) override token b = .ok (b', response)) :
    requireRelease actor reason override = .ok () ∧ b'.ledger.over leaseId := by
  have h' := h
  unfold releaseLease at h'
  simp only [bind_ok] at h'
  obtain ⟨u, hr, v, ho, w, hs, x, hx, t, hk, honce⟩ := h'
  constructor
  · unfold requireRelease
    simp only [bind_ok]
    exact ⟨u, hr, v, ho, hs⟩
  · rcases releaseLease_ok h with rfl | ⟨lease, hl, hw, -, -, d, rfl⟩
    · exact absurd (once_stores hf honce) (not_remembers_of_replay hf)
    · have hm := lease?_mem hl
      have hid : lease.id = leaseId := lease?_id hl
      refine ⟨lease.ended .released (some (cut 500 (strip reason))) now, ?_, hid, hw, rfl⟩
      rw [leases_remember]
      change _ ∈ (b.released lease (cut 500 (strip reason)) token now).ledger.leases
      rw [leases_released]
      exact mem_updWhere.2 ⟨lease, hm, Or.inl ⟨by simp, rfl⟩⟩

/-- **A release replays**: its lease is over, so nothing is given back again. -/
theorem releaseCourse_replays {reason : String} {override : Bool} (hi : Intact b)
    (hc : requireRelease actor reason override = .ok ()) (ho : b.ledger.over leaseId)
    (h : b.ledger.replay actor "lease.release" (some key) = .ok (some response)) (d : Draw) :
    releaseCourse d actor leaseId reason key override b =
      .answered (.ok (b, some response)) := by
  obtain ⟨x, hx, rfl, hw, hl⟩ := ho
  have hid : b.ledger.lease? x.id = some x := row?_of_mem hi.leasePk hx
  have hnone : b.releasableAllocation actor x.id override = none := by
    unfold Broker.releasableAllocation
    rw [hid]
    simp [Option.filter, LeaseState.terminal_eq_not_live, hl]
  unfold releaseCourse
  rw [hnone, hc]
  refine settled_eq.2 ?_
  unfold requireRelease at hc
  simp only [bind_ok] at hc
  obtain ⟨u, hr, v, hop, hs⟩ := hc
  unfold releaseLease rejectGenericKeepaliveMutation
  simp only [bind_ok, need_ok]
  exact ⟨u, hr, v, hop, (), hs, x, hid, (), require_ok.2 (by simp [hw]), once_replays h⟩

/-! ## Moves -/

/-- **A move replays** exactly when it would still be let through. -/
theorem reassign_replays_iff (now : Time) {gpuIds : List String} {override : Bool}
    (token : String → String) (hr : actor.role ∈ mutatingRoles) (hn : gpuIds.Nodup)
    (hop : override = true → actor.role ∈ ["operator", "admin"])
    (h : b.ledger.replay actor "lease.gpus.reassign" (some key) = .ok (some response)) :
    reassignLeaseGpus now actor leaseId gpuIds key override token b = .ok (b, response) ↔
      (KeyedCall.reassignLeaseGpus leaseId gpuIds override).Reaches cfg actor b := by
  have hauth : ∀ x : Lease, requireReassignmentAuthorization actor x override = .ok () ↔
      (override = true ∨ canManageLease actor x = true) := by
    intro x
    unfold requireReassignmentAuthorization
    cases override with
    | true => simpa using hop rfl
    | false => simp
  unfold reassignLeaseGpus Broker.workloadReassignmentTargets KeyedCall.Reaches
  simp only [bind_ok, need_ok, require_ok, pure_ok]
  constructor
  · rintro ⟨-, -, ⟨lease, targets⟩, ⟨x, hx, u, ha, -, ⟨hw, hl⟩, -, hp, -, ⟨hlen, -⟩, ts, ht, -⟩, -⟩
    exact ⟨x, hx, hw, hl, (hauth x).1 ha, hp, hlen, mapM_some_iff.1 ⟨ts, ht⟩⟩
  · rintro ⟨x, hx, hw, hl, ha, hp, hlen, hg⟩
    obtain ⟨ts, ht⟩ := mapM_some_iff.2 hg
    exact ⟨(), require_ok.2 hr, (x, ts),
      ⟨x, hx, (), (hauth x).2 ha, (), ⟨hw, hl⟩, (), hp, (), ⟨hlen, hn⟩, ts, ht,
      rfl⟩, once_replays h⟩

/-! ## Provider claims -/

/-- The one provider a claim goes to. -/
theorem chooseProvider_iff {r : RequestCreate} {p : Endpoint × Plugin} :
    chooseProvider cfg b r = .ok (some p) ↔ b.providersFor cfg r = [p] ∧
      r.durationSeconds ≠ undeclaredDurationSeconds ∧
      ∀ m ∈ p.2.maxLeaseSeconds, r.durationSeconds ≤ m := by
  unfold chooseProvider Broker.providersFor
  simp only
  split
  · rename_i hnil
    simp [hnil]
  · rename_i e x hone
    rw [hone]
    simp only [bind_ok, require_ok, pure_ok, Option.some.injEq, List.cons.injEq, and_true]
    constructor
    · rintro ⟨-, hd, -, hm, rfl⟩
      exact ⟨rfl, hd, hm⟩
    · rintro ⟨rfl, hd, hm⟩
      exact ⟨(), hd, (), hm, rfl⟩
  · rename_i hmany hany
    simp only [throw_ok, false_iff, not_and]
    intro hp
    exact absurd hp (hany p.1 p.2)

theorem claimPrepare_replays {r : RequestCreate} {endpointId token : String} {plugin : Plugin}
    (hr : actor.role ∈ mutatingRoles) (hkey : key ≠ "")
    (h : b.ledger.replay actor "request.create" (some key) = .ok (some response)) :
    claimPrepare now actor r (some key) endpointId plugin token b = .ok (b, response) := by
  have hsent : (some key).filter (fun k => decide (k ≠ "")) = some key := by
    simp [Option.filter, hkey]
  unfold claimPrepare
  simp only [hsent, bind_ok]
  exact ⟨(), require_ok.2 hr, some response, h, rfl⟩

/-- **A provider claim replays** exactly when it would still find its one provider. -/
theorem claimCourse_replays_iff {r : RequestCreate} (hr : actor.role ∈ mutatingRoles)
    (hkey : key ≠ "") (hresp : ∀ id first, response ≠ .allocation id first)
    (h : b.ledger.replay actor "request.create" (some key) = .ok (some response)) :
    claimCourse cfg d actor r key b = .answered (.ok (b, some response)) ↔
      (KeyedCall.claimProvider r).Reaches cfg actor b := by
  have hchoose : (do requireRole actor mutatingRoles; chooseProvider cfg b r) =
      chooseProvider cfg b r := by
    have hrole : requireRole actor mutatingRoles = .ok () := require_ok.2 hr
    rw [hrole]
    rfl
  unfold claimCourse
  rw [hchoose]
  constructor
  · intro hc
    cases ho : chooseProvider cfg b r with
    | error e => simp [ho] at hc
    | ok found =>
      cases found with
      | none => simp [ho] at hc
      | some p => exact ⟨p, chooseProvider_iff.1 ho⟩
  · rintro ⟨p, hp⟩
    rw [chooseProvider_iff.2 hp]
    simp only [claimPrepare_replays hr hkey h]
    split
    · rename_i hb
      simp only [Except.ok.injEq, Prod.mk.injEq] at hb
      exact absurd hb.2 (hresp _ _)
    · exact settled_eq.2 rfl

/-- What a provider claim stores is a lease. -/
theorem claimFinish_answer {r : RequestCreate} {k : Option String} {allocationId : String}
    (h : claimFinish now actor r k allocationId leaseId b = .ok (b', response)) :
    ∃ e n x, response = .lease e n x := by
  unfold claimFinish at h
  obtain ⟨b₁, hb, -, -⟩ := remembering_ok h
  simp only [bind_ok, pure_ok, Prod.mk.injEq] at hb
  obtain ⟨-, -, -, rfl⟩ := hb
  exact ⟨_, _, _, rfl⟩

end

/-! ## Every keyed call -/

section

variable {cfg : Config} {c : KeyedCall} {d : Draw} {actor : ActorContext} {key : String}
  {b b' : Broker} {response : Response}

/-- What a move's stored answer says of its payload. -/
theorem reassign_stores {leaseId : String} {gpuIds : List String} {override : Bool}
    {token : String → String} {now : Time}
    (h : reassignLeaseGpus now actor leaseId gpuIds key override token b = .ok (b', response)) :
    gpuIds.Nodup ∧ (override = true → actor.role ∈ ["operator", "admin"]) := by
  unfold reassignLeaseGpus Broker.workloadReassignmentTargets at h
  simp only [bind_ok, need_ok, require_ok] at h
  obtain ⟨-, -, -, ⟨x, -, u, ha, -, -, -, -, -, ⟨-, hn⟩, -⟩, -⟩ := h
  refine ⟨hn, fun ho => ?_⟩
  unfold requireReassignmentAuthorization at ha
  rw [if_pos ho] at ha
  exact require_ok.1 ha

/-- **Retries replay.** In every state reached after a call stored its answer, as long as the answer
is on record, the same call gets it back, changes nothing and asks no provider, exactly when its
state still lets it reach the lookup. -/
theorem keyed_replays_iff (hb : Reachable cfg b) (hs : c.Stores cfg d actor key b b' response)
    (ops : List Op)
    (hrec : (Run.run (exec cfg) b' ops).ledger.remembers actor c.action key response) :
    c.Replays cfg actor key (Run.run (exec cfg) b' ops) response ↔
      c.Reaches cfg actor (Run.run (exec cfg) b' ops) := by
  have hkey := key_of_replay hs.fresh
  have hk' : Kept b' := by
    have he := exec_kept cfg b (c.last d actor key) hb.kept
    unfold exec at he
    rw [hs.accepted] at he
    exact he
  have hk := run_kept cfg ops hk'
  have hreplay := replay_of_remembers hk.intact hkey hrec
  cases c with
  | createRequest r persistent =>
    exact iff_of_true (fun d => settled_eq.2 (createRequest_replays hs.role hreplay)) trivial
  | updateEndpoint endpointId u =>
    exact iff_of_true (fun d => settled_eq.2 (updateEndpoint_replays hs.role hreplay)) trivial
  | deleteEndpoint endpointId =>
    exact iff_of_true (fun d => settled_eq.2 (deleteEndpoint_replays hs.role hreplay)) trivial
  | releaseLease leaseId reason override =>
    obtain ⟨hc, ho⟩ := releaseLease_stores hs.fresh hs.accepted
    exact iff_of_true (releaseCourse_replays hk.intact hc (run_over hk' ho ops) hreplay) trivial
  | reassignLeaseGpus leaseId gpuIds override =>
    obtain ⟨hn, hop⟩ := reassign_stores hs.accepted
    have h : ∀ d : Draw, _ ↔ (KeyedCall.reassignLeaseGpus leaseId gpuIds override).Reaches cfg actor
        (Run.run (exec cfg) b' ops) := fun d =>
      settled_eq.trans (reassign_replays_iff d.now d.token hs.role hn hop hreplay)
    exact ⟨fun hr => (h d).1 (hr d), fun hr d => (h d).2 hr⟩
  | claimProvider r =>
    obtain ⟨e, n, x, rfl⟩ := claimFinish_answer hs.accepted
    have h : ∀ d : Draw, _ ↔ (KeyedCall.claimProvider r).Reaches cfg actor
        (Run.run (exec cfg) b' ops) := fun d =>
      claimCourse_replays_iff (d := d) hs.role hkey.1 (fun _ _ => by simp) hreplay
    exact ⟨fun hr => (h d).1 (hr d), fun hr d => (h d).2 hr⟩

/-- The move of the first lease to the second card, as a call. -/
def moveCall : KeyedCall := .reassignLeaseGpus "lease" ["alpha:GPU-1"] false

def moveDraw : Draw :=
  { now := 0, leaseId := "", allocationId := "", token := sampleToken "lease" }

/-- The move stores its answer. -/
theorem moveCall_stores :
    ∃ response, moveCall.Stores plainConfig moveDraw (sampleActor "ann") "move"
    heldFirst (exec plainConfig heldFirst moveToSecond) response := by
  have hok : (moveToSecond.apply plainConfig heldFirst).toOption.isSome = true := by decide +kernel
  have hf : (heldFirst.ledger.replay (sampleActor "ann") "lease.gpus.reassign"
      (some "move")).toOption = some none := by decide +kernel
  rcases exec_cases plainConfig heldFirst moveToSecond with ⟨b', r, h, he⟩ | ⟨⟨e, h⟩, -⟩
  · refine ⟨r, by decide, ?_, by rw [he]; exact h⟩
    cases hr : heldFirst.ledger.replay (sampleActor "ann") "lease.gpus.reassign" (some "move") with
    | error e =>
      rw [hr] at hf
      cases hf
    | ok x =>
      rw [hr] at hf
      exact hr.trans (congrArg Except.ok (Option.some.inj hf))
  · rw [h] at hok
    cases hok

/-- What the move stored is on record. -/
theorem moveCall_remembered {response : Response} {ops : List Op}
    (hs : moveCall.Stores plainConfig moveDraw (sampleActor "ann") "move" heldFirst b response)
    (hkeep : b.ledger.idempotency ⊆ (Run.run (exec plainConfig) b ops).ledger.idempotency) :
    (Run.run (exec plainConfig) b ops).ledger.remembers (sampleActor "ann") moveCall.action "move"
      response := by
  have h := hs.accepted
  change reassignLeaseGpus _ _ _ _ _ _ _ _ = _ at h
  unfold reassignLeaseGpus at h
  simp only [bind_ok] at h
  obtain ⟨-, -, p, hp, honce⟩ := h
  obtain ⟨r, hm, hr⟩ := once_stores hs.fresh honce
  exact ⟨r, hkeep hm, hr⟩

/-- A move repeated at once replays. -/
theorem moveCall_replays : ∃ response, moveCall.Replays plainConfig (sampleActor "ann") "move"
    (exec plainConfig heldFirst moveToSecond) response := by
  obtain ⟨response, hs⟩ := moveCall_stores
  have hreach : ∀ x ∈ (exec plainConfig heldFirst moveToSecond).ledger.lease? "lease",
      x.kind = .workload ∧ x.state.live = true ∧ canManageLease (sampleActor "ann") x = true := by
    decide +kernel
  have hsome : ((exec plainConfig heldFirst moveToSecond).ledger.lease? "lease").isSome = true := by
    decide +kernel
  obtain ⟨x, hx⟩ := Option.isSome_iff_exists.1 hsome
  obtain ⟨hw, hl, hm⟩ := hreach x hx
  refine ⟨response, (keyed_replays_iff heldFirst_reachable hs []
    (moveCall_remembered hs (List.Subset.refl _))).2 ⟨x, hx, hw, hl, Or.inr hm, ?_⟩⟩
  decide +kernel

/-! ## A move retried after its lease ended -/

/-- The holder gives its cards back. -/
def giveBack : Op :=
  .releaseLease 0 (sampleActor "ann") "lease" "done" none false (sampleToken "lease")

/-- **A move does not replay** once its lease has ended, its answer still on record. -/
theorem moveCall_refused :
    ¬ ∀ (c : KeyedCall) (d : Draw) (actor : ActorContext) (key : String) (b b' : Broker)
      (response : Response), Reachable plainConfig b →
        c.Stores plainConfig d actor key b b' response →
      ∀ ops, (Run.run (exec plainConfig) b' ops).ledger.remembers actor c.action key response →
        c.Replays plainConfig actor key (Run.run (exec plainConfig) b' ops) response := by
  intro h
  obtain ⟨response, hs⟩ := moveCall_stores
  have hkeep : (exec plainConfig heldFirst moveToSecond).ledger.idempotency ⊆
      (Run.run (exec plainConfig) (exec plainConfig heldFirst moveToSecond)
        [giveBack]).ledger.idempotency := by decide +kernel
  have hr :=
    h _ _ _ _ _ _ _ heldFirst_reachable hs [giveBack] (moveCall_remembered hs hkeep) moveDraw
  have herr : ((moveCall.last moveDraw (sampleActor "ann") "move").apply plainConfig
      (Run.run (exec plainConfig) (exec plainConfig heldFirst moveToSecond) [giveBack])).toOption =
        none := by decide +kernel
  rw [settled_eq.1 hr] at herr
  cases herr

end

end ServerPilot
