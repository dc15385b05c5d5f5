import ServerPilot.Lib.Run
import ServerPilot.Spec.Connection

/-!
# Automatic reconnection and the user

A restoration acts on what its pass read: when it gets the lock, the user may have
disconnected, the login may have been rejected, the profile may be another one, the
endpoint gone. `reconnects` says that nothing else goes wrong: in every run in
which a restoration still finds the row as the pass needs it, and an attempt its row, what
happens to an endpoint respects the user (`Respectful`).
-/

namespace ServerPilot

/-! ## What respects the user -/

namespace Event

/-- A completed call of the user's. -/
def completion : Event → Option (Bool × String)
  | completed enabled plugin => some (enabled, plugin)
  | _ => none

/-- A successful connection. -/
def connection : Event → Option Time
  | ended .connected now => some now
  | _ => none

end Event

/-- The user's last completed call, in a log with the latest event first. -/
def lastCompleted (log : List Event) : Option (Bool × String) := log.findSome? Event.completion

/-- What happened since the user last enabled the connection. -/
def sinceEnabled (log : List Event) : List Event := log.takeWhile (· ≠ .intended true)

/-- The last successful connection of the endpoint there is. -/
def lastConnected (log : List Event) : Option Time :=
  (log.takeWhile (· ≠ .deleted)).findSome? Event.connection

/-- The attempts in flight after a log. -/
def inFlight : List Event → ℤ
  | [] => 0
  | .started _ :: log => inFlight log + 1
  | .ended .. :: log => inFlight log - 1
  | _ :: log => inFlight log

/-- An automatic attempt with this plugin, due to this session failure, is what the user wants. -/
structure Warranted (plugin : String) (because : Option Time) (log : List Event) : Prop where
  enabled : lastCompleted log = some (true, plugin)
  accepted : ∀ t, .ended .actionRequired t ∉ sinceEnabled log
  newer : ∀ t ∈ because, ∀ c ∈ lastConnected log, c < t

/-- Every automatic attempt was warranted, at most one attempt was in flight at any time, and
nothing raised. -/
def Respectful (log : List Event) : Prop :=
  ∀ ev older, ev :: older <:+ log →
    (∀ plugin because, ev = .started (.automatic plugin because) →
      Warranted plugin because older) ∧ ev ≠ .raised ∧ inFlight (ev :: older) ≤ 1

theorem Respectful.cons {ev : Event} {log : List Event} (h : Respectful log)
    (hw : ∀ plugin because, ev = .started (.automatic plugin because) →
      Warranted plugin because log)
    (hr : ev ≠ .raised) (hf : inFlight (ev :: log) ≤ 1) : Respectful (ev :: log) := by
  intro ev' older hs
  rcases List.suffix_cons_iff.1 hs with heq | hs
  · obtain ⟨rfl, rfl⟩ := List.cons.inj heq
    exact ⟨hw, hr, hf⟩
  · exact h ev' older hs

theorem lastConnected_cons {ev : Event} {log : List Event} (hd : ev ≠ .deleted)
    (hc : ev.connection = none) : lastConnected (ev :: log) = lastConnected log := by
  have htake : (ev :: log).takeWhile (· ≠ .deleted) = ev :: log.takeWhile (· ≠ .deleted) :=
    List.takeWhile_cons_of_pos (decide_eq_true hd)
  unfold lastConnected
  rw [htake, List.findSome?_cons, hc]

theorem lastConnected_deleted (log : List Event) : lastConnected (.deleted :: log) = none := by
  unfold lastConnected
  rw [List.takeWhile_cons_of_neg (by simp)]
  rfl

theorem lastConnected_ended (state : ConnectionState) (now : Time) (log : List Event) :
    lastConnected (.ended state now :: log) =
      if state = .connected then some now else lastConnected log := by
  cases state with
  | connected => rfl
  | _ => exact lastConnected_cons nofun rfl

theorem mem_sinceEnabled {ev x : Event} {log : List Event} (he : x ≠ ev)
    (h : x ∈ sinceEnabled (ev :: log)) : x ∈ sinceEnabled log := by
  unfold sinceEnabled at h ⊢
  rw [List.takeWhile_cons] at h
  split at h
  · exact (List.mem_cons.1 h).resolve_left he
  · cases h

/-! ## The invariant of one endpoint -/

namespace Link

/-- The call of the user's whose intent is written and not yet answered. -/
def pending (l : Link) : Option (Bool × String) :=
  match l.holder with
  | some (.user enabled plugin, .intended) => some (enabled, plugin)
  | some (.user enabled plugin, .running) => some (enabled, plugin)
  | _ => none

/-- An attempt is under way. -/
def running (l : Link) : Bool :=
  match l.holder with
  | some (_, .running) => true
  | _ => false

/-- The row is what a restoration with this profile, due to this session failure, takes it for. -/
def restorable (l : Link) (r : EndpointConnection) (profile : String) (because : Option Time) :
    Prop :=
  r.desired = true ∧ r.state ≠ .actionRequired ∧ l.enabledFor = some profile ∧
    ∀ t ∈ because, ∀ c ∈ r.connectedAt, c < t

instance (l : Link) (r : EndpointConnection) (profile : String) (because : Option Time) :
    Decidable (l.restorable r profile because) :=
  inferInstanceAs (Decidable (_ ∧ _ ∧ _ ∧ ∀ t ∈ because, ∀ c ∈ r.connectedAt, c < t))

/-- An attempt that starts finds its row, and a restoration finds it restorable. -/
def startsFairly (l : Link) : Bool :=
  match l.ready with
  | some (.automatic profile because) =>
    l.record.any fun r => decide (l.restorable r profile because)
  | some (.user ..) => l.record.isSome
  | none => true

/-- An attempt that ends finds its row. -/
def endsFairly (l : Link) : Bool := !l.running || l.record.isSome

/-- The step is not one that goes wrong. -/
def fair (l : Link) : LinkAct → Prop
  | .start _ => l.startsFairly = true
  | .finish .. => l.endsFairly = true
  | _ => True

instance (l : Link) : ∀ a, Decidable (l.fair a)
  | .start _ => inferInstanceAs (Decidable (l.startsFairly = true))
  | .finish .. => inferInstanceAs (Decidable (l.endsFairly = true))
  | .setConnection _ | .enter _ | .wake | .intend _ | .providerFailed .. | .observed _
  | .updateProfile _ | .delete | .create _ => isTrue trivial

/-- The rows of an endpoint agree with its log. -/
structure Faithful (l : Link) : Prop where
  respectful : Respectful l.log
  flight : inFlight l.log = if l.running then 1 else 0
  pending : ∀ r ∈ l.record, ∀ p ∈ l.pending,
    r.desired = p.1 ∧ (p.1 = true → l.enabledFor = some p.2)
  settled : ∀ r ∈ l.record, l.pending = none → ∃ q, lastCompleted l.log = some (r.desired, q) ∧
    (r.desired = true → l.enabledFor = some q)
  accepted : ∀ r ∈ l.record, r.desired = true → r.state ≠ .actionRequired →
    ∀ t, .ended .actionRequired t ∉ sinceEnabled l.log
  trying : ∀ r ∈ l.record, l.pending ≠ none ∨ l.running = true → r.state ≠ .actionRequired
  connected : ∀ r ∈ l.record, r.connectedAt = lastConnected l.log
  unknown : l.record = none → lastConnected l.log = none

section

variable {l l' : Link} {r : EndpointConnection}

/-- What the invariant is about, apart from the lock. -/
theorem Faithful.congr (h : l.Faithful) (hrecord : l'.record = l.record) (hlog : l'.log = l.log)
    (hfor : l'.enabledFor = l.enabledFor) (hpending : l'.pending = l.pending)
    (hrunning : l'.running = l.running) : l'.Faithful := by
  constructor
  · rw [hlog]
    exact h.respectful
  · rw [hlog, hrunning]
    exact h.flight
  · rw [hrecord, hpending, hfor]
    exact h.pending
  · rw [hrecord, hpending, hfor, hlog]
    exact h.settled
  · rw [hrecord, hlog]
    exact h.accepted
  · rw [hrecord, hpending, hrunning]
    exact h.trying
  · rw [hrecord, hlog]
    exact h.connected
  · rw [hrecord, hlog]
    exact h.unknown

/-- Getting the lock is no event. -/
theorem Faithful.enters (h : l.Faithful) (hfree : l.holder = none) (j : Job)
    (called waiters : List Job) :
    Faithful { l with called, waiters, holder := some (j, .entered) } := by
  refine h.congr rfl rfl rfl ?_ ?_
  · unfold Link.pending
    rw [hfree]
    cases j <;> rfl
  · unfold Link.running
    rw [hfree]

theorem Faithful.acquire (h : l.Faithful) (j : Job) : (l.acquire j).Faithful := by
  unfold Link.acquire
  split
  · rename_i hfree
    exact h.enters hfree.1 j _ _
  · exact h.congr rfl rfl rfl rfl rfl

theorem Faithful.enter (h : l.Faithful) (i : ℕ) : (l.enter i).Faithful := by
  have hcalled : ∀ called, Faithful { l with called } :=
    fun called => h.congr rfl rfl rfl rfl rfl
  unfold Link.enter
  split
  · exact h
  simp only
  split
  · split
    · exact (hcalled _).acquire _
    · exact hcalled _
  · exact (hcalled _).acquire _

theorem Faithful.wake (h : l.Faithful) : l.wake.Faithful := by
  unfold Link.wake
  split
  · rename_i j rest hfree hwaiters
    exact h.enters hfree j l.called rest
  · exact h

/-- The user's intent. -/
theorem Faithful.intend (h : l.Faithful) (now : Time) : (l.intend now).Faithful := by
  unfold Link.intend
  split
  · rename_i enabled plugin hholder
    have hrunning : l.running = false := by
      unfold Link.running
      rw [hholder]
    have hflight : inFlight l.log = 0 := by
      rw [h.flight, hrunning]
      rfl
    split
    · -- the row cannot be written: the call raises before its attempt
      refine h.congr rfl rfl rfl ?_ ?_
      · unfold Link.pending
        rw [hholder]
      · rw [hrunning]
        rfl
    constructor
    · refine h.respectful.cons (fun _ _ hev => by cases hev) nofun ?_
      show inFlight l.log ≤ 1
      omega
    · exact hflight
    · rintro r hr p hp
      obtain rfl := Option.some.inj hr
      obtain rfl := Option.some.inj hp
      refine ⟨rfl, fun htrue => ?_⟩
      show (if enabled = true then some plugin else l.enabledFor) = some plugin
      rw [if_pos htrue]
    · intro r _ hnone
      cases hnone
    · rintro r hr hdesired - t hmem
      obtain rfl := Option.some.inj hr
      -- an enabling intent wipes the slate
      have henabled : enabled = true := hdesired
      rw [henabled] at hmem
      cases hmem
    · rintro r hr - hstate
      obtain rfl := Option.some.inj hr
      cases enabled <;> cases hstate
    · rintro r hr
      obtain rfl := Option.some.inj hr
      have hlast : lastConnected (.intended enabled :: l.log) = lastConnected l.log :=
        lastConnected_cons nofun rfl
      show (EndpointConnection.intent l.record enabled now).connectedAt =
        lastConnected (.intended enabled :: l.log)
      rw [hlast]
      cases hrecord : l.record with
      | none => exact (h.unknown hrecord).symm
      | some r => exact h.connected r hrecord
    · intro hnone
      cases hnone
  · exact h

/-- A restoration that finds the row restorable is warranted. -/
theorem Faithful.warranted (h : l.Faithful) (hr : l.record = some r) {profile : String}
    {because : Option Time} (hpending : l.pending = none)
    (hrestorable : l.restorable r profile because) : Warranted profile because l.log := by
  obtain ⟨hdesired, hstate, hfor, hnewer⟩ := hrestorable
  obtain ⟨q, hcompleted, hq⟩ := h.settled r hr hpending
  have hplugin : profile = q := Option.some.inj (hfor.symm.trans (hq hdesired))
  constructor
  · rw [hcompleted, hdesired, hplugin]
  · exact h.accepted r hr hdesired hstate
  · rw [← h.connected r hr]
    exact hnewer

/-- The coroutine that is about to start is in the lock, and nothing is under way. -/
theorem ready_holder {j : Job} (h : l.ready = some j) :
    l.running = false ∧ Link.pending { l with holder := some (j, .running) } = l.pending := by
  unfold Link.ready at h
  split at h
  · rename_i enabled plugin hholder
    obtain rfl := Option.some.inj h
    unfold Link.running Link.pending
    rw [hholder]
    exact ⟨rfl, rfl⟩
  · rename_i profile because hholder
    obtain rfl := Option.some.inj h
    unfold Link.running Link.pending
    rw [hholder]
    exact ⟨rfl, rfl⟩
  · cases h

/-- An attempt starts. -/
theorem Faithful.start (h : l.Faithful) (hfair : l.startsFairly = true) (now : Time) :
    (l.start now).Faithful := by
  unfold Link.start
  split
  · exact h
  rename_i j hready
  obtain ⟨hrunning, hpending⟩ := ready_holder hready
  have hflight : inFlight l.log = 0 := by
    rw [h.flight, hrunning]
    rfl
  -- a fair start has its row, and is warranted when it is automatic
  have hwarranted : ∃ r, l.record = some r ∧ r.state ≠ .actionRequired ∧
      ∀ profile because, j = .automatic profile because → Warranted profile because l.log := by
    unfold Link.startsFairly at hfair
    rw [hready] at hfair
    cases j with
    | user enabled plugin =>
      obtain ⟨r, hr⟩ := Option.isSome_iff_exists.1 hfair
      exact ⟨r, hr, h.trying r hr (Or.inl (hpending ▸ nofun)), nofun⟩
    | automatic profile because =>
      obtain ⟨r, hr, hrestorable⟩ := (Option.any_eq_true ..).1 hfair
      have hrestorable := of_decide_eq_true hrestorable
      refine ⟨r, hr, hrestorable.2.1, fun profile' because' heq => ?_⟩
      obtain ⟨rfl, rfl⟩ := Job.automatic.inj heq
      exact h.warranted hr (hpending ▸ rfl) hrestorable
  obtain ⟨r, hr, hstate, hwarranted⟩ := hwarranted
  simp only [hr]
  constructor
  · refine h.respectful.cons (fun profile because hev => ?_) nofun ?_
    · exact hwarranted profile because (Event.started.inj hev)
    · show inFlight l.log + 1 ≤ 1
      omega
  · show inFlight l.log + 1 = 1
    omega
  · intro r' hr' p hp
    obtain rfl := Option.some.inj hr'
    exact h.pending r hr p (hpending ▸ hp)
  · intro r' hr' hnone
    obtain rfl := Option.some.inj hr'
    exact h.settled r hr (hpending ▸ hnone)
  · intro r' hr' hdesired hstate t hmem
    obtain rfl := Option.some.inj hr'
    have hne : Event.ended .actionRequired t ≠ .started j := nofun
    exact h.accepted r hr hdesired hstate t (mem_sinceEnabled hne hmem)
  · intro r' hr' _
    obtain rfl := Option.some.inj hr'
    exact hstate
  · intro r' hr'
    obtain rfl := Option.some.inj hr'
    have hlast : lastConnected (.started j :: l.log) = lastConnected l.log :=
      lastConnected_cons nofun rfl
    exact (h.connected r hr).trans hlast.symm
  · nofun

/-- What a completed call adds to a log. -/
theorem completion_cons (j : Job) (log : List Event) (h : Respectful log) (hf : inFlight log = 0) :
    Respectful (j.completion ++ log) ∧ inFlight (j.completion ++ log) = 0 ∧
      lastConnected (j.completion ++ log) = lastConnected log ∧
      ∀ t, .ended .actionRequired t ∈ sinceEnabled (j.completion ++ log) →
        .ended .actionRequired t ∈ sinceEnabled log := by
  cases j with
  | automatic profile because => exact ⟨h, hf, rfl, fun _ => id⟩
  | user enabled plugin =>
    refine ⟨h.cons (fun _ _ hev => by cases hev) nofun ?_, hf, lastConnected_cons nofun rfl,
      fun t => mem_sinceEnabled nofun⟩
    show inFlight log ≤ 1
    omega

/-- An attempt ends. -/
theorem Faithful.finish (h : l.Faithful) (hfair : l.endsFairly = true) (now : Time)
    (answer : Option ConnectionFact) : (l.finish now answer).Faithful := by
  unfold Link.finish
  split
  · rename_i j hholder
    simp only
    set fact := answer.getD connectionFailed with hfact
    have hrunning : l.running = true := by
      unfold Link.running
      rw [hholder]
    have hflight : inFlight l.log = 1 := by
      rw [h.flight, hrunning]
      rfl
    obtain ⟨r, hr⟩ : ∃ r, l.record = some r := by
      unfold Link.endsFairly at hfair
      rw [hrunning] at hfair
      exact Option.isSome_iff_exists.1 hfair
    simp only [hr]
    have hended : Respectful (.ended fact.state now :: l.log) := by
      refine h.respectful.cons (fun _ _ hev => by cases hev) nofun ?_
      show inFlight l.log - 1 ≤ 1
      omega
    have hnone : inFlight (.ended fact.state now :: l.log) = 0 := by
      show inFlight l.log - 1 = 0
      omega
    obtain ⟨hrespectful, hzero, hlast, hsince⟩ := completion_cons j _ hended hnone
    constructor
    · exact hrespectful
    · exact hzero
    · intro r' _ p hp
      cases hp
    · -- a call is the last one to complete; a restoration leaves the last one
      intro r' hr' _
      obtain rfl := Option.some.inj hr'
      cases j with
      | user enabled plugin =>
        have hpending : l.pending = some (enabled, plugin) := by
          unfold Link.pending
          rw [hholder]
        obtain ⟨hdesired, hfor⟩ := h.pending r hr _ hpending
        refine ⟨plugin, ?_, fun htrue => hfor (hdesired.symm.trans htrue)⟩
        exact congrArg (fun d => some (d, plugin)) hdesired.symm
      | automatic profile because =>
        have hpending : l.pending = none := by
          unfold Link.pending
          rw [hholder]
        exact h.settled r hr hpending
    · intro r' hr' hdesired hstate t hmem
      obtain rfl := Option.some.inj hr'
      have hne : Event.ended .actionRequired t ≠ .ended fact.state now := by
        intro heq
        exact hstate (Event.ended.inj heq).1.symm
      have hbefore : r.state ≠ .actionRequired := h.trying r hr (Or.inr hrunning)
      exact h.accepted r hr hdesired hbefore t (mem_sinceEnabled hne (hsince t hmem))
    · intro r' _ htrying
      rcases htrying with hpending | hrun
      · exact absurd rfl hpending
      · cases hrun
    · intro r' hr'
      obtain rfl := Option.some.inj hr'
      show (if fact.state = .connected then some now else r.connectedAt) =
        lastConnected (j.completion ++ .ended fact.state now :: l.log)
      rw [hlast, lastConnected_ended, h.connected r hr]
    · nofun
  · exact h

/-- The endpoint is deleted. -/
theorem Faithful.delete (h : l.Faithful) : l.delete.Faithful := by
  constructor
  · refine h.respectful.cons (fun _ _ hev => by cases hev) nofun ?_
    show inFlight l.log ≤ 1
    rw [h.flight]
    split <;> omega
  · exact h.flight
  · intro r hr
    cases hr
  · intro r hr
    cases hr
  · intro r hr
    cases hr
  · intro r hr
    cases hr
  · intro r hr
    cases hr
  · intro _
    exact lastConnected_deleted l.log

/-- **One step at an endpoint** that does not go wrong. -/
theorem Faithful.step (h : l.Faithful) (supports : String → Bool) (e : String) {a : LinkAct}
    (hfair : l.fair a) : (l.step supports e a).Faithful := by
  cases a with
  | setConnection enabled =>
    show (l.setConnection supports enabled).Faithful
    unfold Link.setConnection
    split
    · exact h.congr rfl rfl rfl rfl rfl
    · exact h
  | enter i => exact h.enter i
  | wake => exact h.wake
  | intend now => exact h.intend now
  | start now => exact h.start hfair now
  | finish now answer => exact h.finish hfair now answer
  | providerFailed now message errorCode =>
    show (l.providerFailed e message errorCode now).Faithful
    unfold Link.providerFailed
    split
    · exact h
    · exact h.congr rfl rfl rfl rfl rfl
  | observed now =>
    show (l.observed e now).Faithful
    unfold Link.observed
    split
    · exact h
    · exact h.congr rfl rfl rfl rfl rfl
  | updateProfile profile =>
    show (l.updateProfile profile).Faithful
    unfold Link.updateProfile
    split
    · exact h
    · exact h.congr rfl rfl rfl rfl rfl
  | delete => exact h.delete
  | create profile =>
    show (l.create profile).Faithful
    unfold Link.create
    split
    · exact h.congr rfl rfl rfl rfl rfl
    · exact h

end

end Link

/-! ## Every endpoint -/

/-- The step is not one that goes wrong at its endpoint. -/
def Links.fair (w : Links) : ConnectionAct → Prop
  | .pass => True
  | .at endpointId a => (w endpointId).fair a

instance (w : Links) : ∀ a, Decidable (w.fair a)
  | .pass => isTrue trivial
  | .at endpointId a => inferInstanceAs (Decidable ((w endpointId).fair a))

/-- Endpoints nobody has connected yet. -/
def Links.unmanaged (profiles : String → Option String) : Links :=
  fun e => { profile := profiles e }

theorem unmanaged_faithful (profiles : String → Option String) (e : String) :
    (Links.unmanaged profiles e).Faithful := by
  constructor
  · intro ev older hs
    cases List.suffix_nil.1 hs
  · rfl
  · intro r hr
    cases hr
  · intro r hr
    cases hr
  · intro r hr
    cases hr
  · intro r hr
    cases hr
  · intro r hr
    cases hr
  · intro _
    rfl

theorem step_faithful {supports : String → Bool} {w : Links} (hw : ∀ e, (w e).Faithful)
    {a : ConnectionAct} (hfair : w.fair a) (e : String) : (w.step supports a e).Faithful := by
  cases a with
  | pass => exact (hw e).congr rfl rfl rfl rfl rfl
  | «at» endpointId a =>
    show (if e = endpointId then (w e).step supports endpointId a else w e).Faithful
    split
    · rename_i heq
      subst heq
      exact (hw e).step supports e hfair
    · exact hw e

/-- **Automatic reconnection respects the user.** In every interleaving of calls, passes, failures,
profile updates and deletions in which a restoration that starts finds the row as its pass took it,
with the plugin the user enabled, and an attempt finds its row, every automatic attempt was
warranted, at most one attempt of an endpoint was in flight at any time, and nothing raised. -/
theorem reconnects {supports : String → Bool} {profiles : String → Option String}
    {acts : List ConnectionAct}
    (ha : Run.Along (Links.step supports) Links.fair (.unmanaged profiles) acts) (e : String) :
    Respectful (Run.run (Links.step supports) (.unmanaged profiles) acts e).log := by
  have hfaithful : ∀ e, (Run.run (Links.step supports) (.unmanaged profiles) acts e).Faithful := by
    apply Run.run_inv (I := fun w : Links => ∀ e, (w e).Faithful) (P := Links.fair)
    · intro w a hw hfair e
      exact step_faithful hw hfair e
    · exact unmanaged_faithful profiles
    · exact ha
  exact (hfaithful e).respectful

/-! ## One endpoint -/

/-- `alpha` is observed through the plugin `cluster`; every plugin manages connections. -/
def clusterOnly : Links := .unmanaged fun e => if e = "alpha" then some "cluster" else none

/-- The steps of `alpha`, and the passes, one after the other. -/
def runAlpha (acts : List ConnectionAct) : Link :=
  Run.run (Links.step fun _ => true) clusterOnly acts "alpha"

/-- What a plugin answers when its session is up. -/
def sessionUp : ConnectionFact :=
  { state := .connected, message := "ok", state_reported := rfl, message_len := by decide }

theorem actionRequired_reported : ConnectionState.actionRequired.reported = true := rfl

theorem rejected_len : "authentication rejected".length ≤ 500 := by decide

/-- What a plugin answers when the login is rejected. -/
def loginRejected : ConnectionFact :=
  { state := .actionRequired, errorCode := some .authFailed, message := "authentication rejected"
    state_reported := actionRequired_reported, message_len := rejected_len }

/-- The user enables the connection, and the attempt begins. -/
def enabling : List ConnectionAct :=
  [.at "alpha" (.setConnection true), .at "alpha" (.enter 0), .at "alpha" (.intend 0),
    .at "alpha" (.start 1)]

/-- A session that was lost is restored. -/
def restored : List ConnectionAct :=
  enabling ++ [.at "alpha" (.finish 2 (some sessionUp)),
    .at "alpha" (.providerFailed 3 "session gone" "session_missing"), .pass,
    .at "alpha" (.enter 0), .at "alpha" (.start 4), .at "alpha" (.finish 5 (some sessionUp))]

/-- `reconnects`, of that run. -/
theorem reconnects_restored : Respectful (runAlpha restored).log :=
  reconnects (by decide +kernel) "alpha"

/-- A pass reads the row while the user's attempt is under way; the login is rejected before its
restoration comes to the lock. -/
def rejectedTwice : List ConnectionAct :=
  enabling ++ [.pass, .at "alpha" (.finish 2 (some loginRejected)), .at "alpha" (.enter 0),
    .at "alpha" (.start 3)]

/-- The profile changes under an enabled connection. -/
def otherPlugin : List ConnectionAct :=
  enabling ++ [.at "alpha" (.finish 2 (some sessionUp)), .at "alpha" (.updateProfile "other"),
    .at "alpha" (.providerFailed 3 "session gone" "session_missing"), .pass,
    .at "alpha" (.enter 0), .at "alpha" (.start 4)]

/-- The endpoint is deleted during an attempt. -/
def deletedMeanwhile : List ConnectionAct :=
  enabling ++ [.at "alpha" .delete, .at "alpha" (.finish 2 (some sessionUp))]

/-- **Reconnection overrides the user**: a rejected login is repeated, a plugin connected that the
user never enabled, and the end of an attempt raises when its endpoint is gone. -/
theorem reconnection_overrides :
    ¬ Respectful (runAlpha rejectedTwice).log ∧ ¬ Respectful (runAlpha otherPlugin).log ∧
      ¬ Respectful (runAlpha deletedMeanwhile).log := by
  have hrejected : (runAlpha rejectedTwice).log = [.started (.automatic "cluster" none),
      .completed true "cluster", .ended .actionRequired 2, .started (.user true "cluster"),
      .intended true] := by decide +kernel
  have hother : (runAlpha otherPlugin).log = [.started (.automatic "other" (some 3)),
      .completed true "cluster", .ended .connected 2, .started (.user true "cluster"),
      .intended true] := by decide +kernel
  have hdeleted : (runAlpha deletedMeanwhile).log = [.raised, .deleted,
      .started (.user true "cluster"), .intended true] := by decide +kernel
  rw [hrejected, hother, hdeleted]
  refine ⟨fun h => ?_, fun h => ?_, fun h => ?_⟩
  · obtain ⟨hwarranted, -, -⟩ := h _ _ List.suffix_rfl
    exact (hwarranted _ _ rfl).accepted 2 (by decide +kernel)
  · obtain ⟨hwarranted, -, -⟩ := h _ _ List.suffix_rfl
    have henabled := (hwarranted _ _ rfl).enabled
    revert henabled
    decide +kernel
  · obtain ⟨-, hraised, -⟩ := h _ _ List.suffix_rfl
    exact hraised rfl

end ServerPilot
