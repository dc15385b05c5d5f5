import ServerPilot.Lib.Window
import ServerPilot.Proof.Doubles
import ServerPilot.Spec.RateLimiter

/-!
# What the rate limit lets through

* `expired_iff`: the double `now - 60` drops exactly the times of a minute ago and earlier.
* `Tracks.step`: an actor's queue holds what the log of all its accepted checks has in the last
  minute, after its own checks and after those of others.
* `limiter_exact`: **no window of a minute has more accepted checks of one actor than allowed, a
  refused check has that many in the minute before it, and an actor's outcomes are those of its
  own checks alone.**
-/

namespace ServerPilot.Api

open Window

/-- The subtraction is exact, or both sides are below every reading. -/
theorem expired_iff (hit now : Reading) :
    hit.seconds ≤ toDouble (now.seconds - 60) ↔ hit.seconds ≤ now.seconds - 60 := by
  by_cases hmin : 60 ≤ now.seconds
  · have hlt : now.seconds < 2 ^ (53 : ℤ) := lt_of_lt_of_le now.inRange (by norm_num)
    have hexact := toDouble_sub (n := 60) now.isDouble (by simpa using hmin) hlt
    rw [Nat.cast_ofNat] at hexact
    rw [hexact]
  · -- in the first minute of the clock nothing is old enough
    have hneg : now.seconds - 60 < 0 := by linarith
    have hround := toDouble_neg hneg
    have hhit := hit.nonneg
    constructor
    · intro h
      linarith
    · intro h
      linarith

/-- What an actor's queue records. -/
def RateLimiter.recorded (r : RateLimiter) (actorId : String) : List ℚ :=
  (r.hits actorId).map Reading.seconds

section

variable {r : RateLimiter} {actorId : String} {log : List ℚ} {latest : ℚ}

/-! ## One check -/

theorem check_perMinute (r : RateLimiter) (now : Reading) (a : String) :
    (r.check now a).2.perMinute = r.perMinute := by
  unfold RateLimiter.check
  dsimp only
  split <;> rfl

/-- **A check leaves the queues of other actors as they are.** -/
theorem check_other (r : RateLimiter) (now : Reading) {a b : String} (h : b ≠ a) :
    (r.check now a).2.hits b = r.hits b := by
  unfold RateLimiter.check
  dsimp only
  split <;> exact Function.update_of_ne h _ _

theorem check_full {now : Reading} {a : String}
    (h : r.perMinute ≤ (trim now (r.hits a)).length) :
    (r.check now a).1 = .error rateLimited ∧ (r.check now a).2.hits a = trim now (r.hits a) := by
  unfold RateLimiter.check
  dsimp only
  rw [if_pos h]
  exact ⟨rfl, Function.update_self ..⟩

theorem check_room {now : Reading} {a : String}
    (h : (trim now (r.hits a)).length < r.perMinute) :
    (r.check now a).1 = .ok () ∧ (r.check now a).2.hits a = trim now (r.hits a) ++ [now] := by
  unfold RateLimiter.check
  dsimp only
  rw [if_neg (not_le.2 h)]
  exact ⟨rfl, Function.update_self ..⟩

/-- The answer and the queue it leaves depend on the actor's queue alone. -/
theorem check_congr {r' : RateLimiter} (now : Reading) {a : String}
    (hm : r.perMinute = r'.perMinute) (hh : r.hits a = r'.hits a) :
    (r.check now a).1 = (r'.check now a).1 ∧
      (r.check now a).2.hits a = (r'.check now a).2.hits a := by
  by_cases h : r.perMinute ≤ (trim now (r.hits a)).length
  · have h' : r'.perMinute ≤ (trim now (r'.hits a)).length := by rwa [← hm, ← hh]
    rw [(check_full h).1, (check_full h').1, (check_full h).2, (check_full h').2, hh]
    exact ⟨rfl, rfl⟩
  · have hroom := not_le.1 h
    have hroom' : (trim now (r'.hits a)).length < r'.perMinute := by rwa [← hm, ← hh]
    rw [(check_room hroom).1, (check_room hroom').1, (check_room hroom).2, (check_room hroom').2,
      hh]
    exact ⟨rfl, rfl⟩

/-! ## The queue and the log -/

/-- The queue of an actor against the log of its accepted checks, at a time no check is after. -/
structure Tracks (r : RateLimiter) (actorId : String) (log : List ℚ) (latest : ℚ) : Prop where
  queue : ∃ edge, edge ≤ latest - 60 ∧ r.recorded actorId = after edge log
  ordered : log.Pairwise (· ≤ ·)
  past : ∀ t ∈ log, t ≤ latest
  paced : Paced r.perMinute 60 log

theorem tracks_new (perMinute : ℕ) (actorId : String) (latest : ℚ) :
    Tracks (RateLimiter.new perMinute) actorId [] latest where
  queue := ⟨latest - 60, le_rfl, rfl⟩
  ordered := List.Pairwise.nil
  past := fun _ ht => absurd ht List.not_mem_nil
  paced := .nil

/-- **What is left of the queue is the log's last minute.** -/
theorem Tracks.trim_eq (h : Tracks r actorId log latest) {now : Reading}
    (hnow : latest ≤ now.seconds) :
    (trim now (r.hits actorId)).map Reading.seconds = after (now.seconds - 60) log := by
  obtain ⟨edge, hedge, hqueue⟩ := h.queue
  have hsorted : (r.recorded actorId).Pairwise (· ≤ ·) := by
    rw [hqueue]
    exact h.ordered.sublist List.filter_sublist
  have hdrop : (trim now (r.hits actorId)).map Reading.seconds =
      (r.recorded actorId).dropWhile fun t => decide (t ≤ now.seconds - 60) := by
    unfold trim RateLimiter.recorded
    rw [List.dropWhile_map]
    congr 2
    funext hit
    exact decide_eq_decide.2 (expired_iff hit now)
  rw [hdrop, dropWhile_eq_after hsorted, hqueue, after_after (by linarith)]

/-- Later, with the same queue. -/
theorem Tracks.later (h : Tracks r actorId log latest) {r' : RateLimiter} {now : ℚ}
    (hm : r'.perMinute = r.perMinute) (hh : r'.hits actorId = r.hits actorId)
    (hnow : latest ≤ now) : Tracks r' actorId log now where
  queue := by
    obtain ⟨edge, hedge, hqueue⟩ := h.queue
    refine ⟨edge, by linarith, ?_⟩
    rw [← hqueue, RateLimiter.recorded, RateLimiter.recorded, hh]
  ordered := h.ordered
  past := fun t ht => (h.past t ht).trans hnow
  paced := hm ▸ h.paced

/-- A check of the actor that finds the minute full. -/
theorem Tracks.full (h : Tracks r actorId log latest) {now : Reading} (hnow : latest ≤ now.seconds)
    (hfull : r.perMinute ≤ (after (now.seconds - 60) log).length) :
    (r.check now actorId).1 = .error rateLimited ∧
      Tracks (r.check now actorId).2 actorId log now.seconds := by
  have htrim := h.trim_eq hnow
  have hlen : r.perMinute ≤ (trim now (r.hits actorId)).length := by
    rwa [← List.length_map (f := Reading.seconds), htrim]
  obtain ⟨hanswer, hhits⟩ := check_full hlen
  refine ⟨hanswer, ⟨now.seconds - 60, le_rfl, ?_⟩, h.ordered, ?_, ?_⟩
  · rw [RateLimiter.recorded, hhits, htrim]
  · exact fun t ht => (h.past t ht).trans hnow
  · rw [check_perMinute]
    exact h.paced

/-- A check of the actor that finds room. -/
theorem Tracks.room (h : Tracks r actorId log latest) {now : Reading} (hnow : latest ≤ now.seconds)
    (hroom : (after (now.seconds - 60) log).length < r.perMinute) :
    (r.check now actorId).1 = .ok () ∧
      Tracks (r.check now actorId).2 actorId (log ++ [now.seconds]) now.seconds := by
  have htrim := h.trim_eq hnow
  have hlen : (trim now (r.hits actorId)).length < r.perMinute := by
    rwa [← List.length_map (f := Reading.seconds), htrim]
  obtain ⟨hanswer, hhits⟩ := check_room hlen
  have hpast : ∀ t ∈ log, t ≤ now.seconds := fun t ht => (h.past t ht).trans hnow
  refine ⟨hanswer, ⟨now.seconds - 60, le_rfl, ?_⟩, ?_, ?_, ?_⟩
  · -- the new time is in its own last minute
    have hself : after (now.seconds - 60) [now.seconds] = [now.seconds] := by
      rw [after, List.filter_cons_of_pos (by simp), List.filter_nil]
    rw [RateLimiter.recorded, hhits, List.map_append, htrim, after_append, hself]
    rfl
  · refine List.pairwise_append.2 ⟨h.ordered, List.pairwise_singleton .., ?_⟩
    intro t ht u hu
    rw [List.mem_singleton.1 hu]
    exact hpast t ht
  · intro t ht
    rcases List.mem_append.1 ht with ht | ht
    · exact hpast t ht
    · exact (List.mem_singleton.1 ht).le
  · rw [check_perMinute]
    exact h.paced.concat hroom

/-- A refusal says that the log's last minute is full. -/
theorem Tracks.refused (h : Tracks r actorId log latest) {now : Reading} {e : BrokerError}
    (hnow : latest ≤ now.seconds) (he : (r.check now actorId).1 = .error e) :
    e = rateLimited ∧ r.perMinute ≤ (after (now.seconds - 60) log).length := by
  by_cases hfull : r.perMinute ≤ (after (now.seconds - 60) log).length
  · rw [(h.full hnow hfull).1] at he
    exact ⟨(Except.error.inj he).symm, hfull⟩
  · rw [(h.room hnow (not_le.1 hfull)).1] at he
    cases he

/-! ## Runs -/

theorem accepted_append (a : String) (o o' : Outcomes) :
    accepted a (o ++ o') = accepted a o ++ accepted a o' := by
  rw [accepted, List.filter_append, List.map_append]
  rfl

theorem accepted_ok {c : Check} (h : c.actorId = actorId) :
    accepted actorId [(c, .ok ())] = [c.now.seconds] := by
  subst h
  simp [accepted, Except.isOk, Except.toBool]

theorem accepted_error (a : String) (c : Check) (e : BrokerError) :
    accepted a [(c, .error e)] = [] := by
  simp [accepted, Except.isOk, Except.toBool]

theorem accepted_other {c : Check} (h : c.actorId ≠ actorId) (answer : Except BrokerError Unit) :
    accepted actorId [(c, answer)] = [] := by
  simp [accepted, h]

/-- **One check of any actor** adds to the log exactly what it lets through. -/
theorem Tracks.step (h : Tracks r actorId log latest) (c : Check) (hnow : latest ≤ c.now.seconds) :
    Tracks (r.check c.now c.actorId).2 actorId
      (log ++ accepted actorId [(c, (r.check c.now c.actorId).1)]) c.now.seconds := by
  by_cases hown : c.actorId = actorId
  · rw [hown]
    by_cases hfull : r.perMinute ≤ (after (c.now.seconds - 60) log).length
    · obtain ⟨hanswer, htracks⟩ := h.full hnow hfull
      rw [hanswer, accepted_error, List.append_nil]
      exact htracks
    · obtain ⟨hanswer, htracks⟩ := h.room hnow (not_le.1 hfull)
      rw [hanswer, accepted_ok hown]
      exact htracks
  · rw [accepted_other hown, List.append_nil]
    exact h.later (check_perMinute ..) (check_other r c.now (Ne.symm hown)) hnow

/-- The limiter a run leaves. -/
def RateLimiter.settle (r : RateLimiter) (calls : List Check) : RateLimiter :=
  calls.foldl (fun r c => (r.check c.now c.actorId).2) r

theorem settle_perMinute (r : RateLimiter) (calls : List Check) :
    (r.settle calls).perMinute = r.perMinute := by
  induction calls generalizing r with
  | nil => rfl
  | cons c rest ih =>
    rw [RateLimiter.settle, List.foldl_cons]
    exact (ih _).trans (check_perMinute ..)

/-- **A run** adds to the log exactly what it lets through. -/
theorem Tracks.run (h : Tracks r actorId log latest) {calls : List Check}
    (hordered : (latest :: calls.map fun c => c.now.seconds).Pairwise (· ≤ ·)) {now : ℚ}
    (hlatest : latest ≤ now) (hcalls : ∀ c ∈ calls, c.now.seconds ≤ now) :
    Tracks (r.settle calls) actorId (log ++ accepted actorId (r.outcomes calls)) now := by
  induction calls generalizing r log latest with
  | nil =>
    rw [show accepted actorId (r.outcomes []) = [] from rfl, List.append_nil]
    exact h.later rfl rfl hlatest
  | cons c rest ih =>
    rw [List.map_cons, List.pairwise_cons] at hordered
    have hc : latest ≤ c.now.seconds := hordered.1 _ List.mem_cons_self
    have htracks := ih (h.step c hc) hordered.2 (hcalls c List.mem_cons_self)
      fun d hd => hcalls d (List.mem_cons_of_mem _ hd)
    rw [List.append_assoc, ← accepted_append] at htracks
    exact htracks

theorem outcomes_calls (r : RateLimiter) (calls : List Check) :
    (r.outcomes calls).map Prod.fst = calls := by
  induction calls generalizing r with
  | nil => rfl
  | cons c rest ih => rw [RateLimiter.outcomes, List.map_cons, ih]

/-- What is answered after some calls is answered by the limiter they leave. -/
theorem outcomes_split {calls : List Check} {earlier later : Outcomes} {c : Check}
    {answer : Except BrokerError Unit} (h : r.outcomes calls = earlier ++ (c, answer) :: later) :
    ∃ before, before ++ [c] <+: calls ∧ earlier = r.outcomes before ∧
      answer = ((r.settle before).check c.now c.actorId).1 := by
  induction earlier generalizing r calls with
  | nil =>
    cases calls with
    | nil => cases h
    | cons d rest =>
      rw [RateLimiter.outcomes, List.nil_append, List.cons.injEq, Prod.mk.injEq] at h
      obtain ⟨⟨rfl, rfl⟩, -⟩ := h
      exact ⟨[], ⟨rest, rfl⟩, rfl, rfl⟩
  | cons o earlier ih =>
    cases calls with
    | nil => cases h
    | cons d rest =>
      rw [RateLimiter.outcomes, List.cons_append, List.cons.injEq] at h
      obtain ⟨rfl, h⟩ := h
      obtain ⟨before, ⟨tail, htail⟩, rfl, hanswer⟩ := ih h
      refine ⟨d :: before, ⟨tail, ?_⟩, rfl, hanswer⟩
      rw [← htail]
      rfl

/-- **An actor's outcomes are those of its own checks alone.** -/
theorem outcomes_own {r' : RateLimiter} (hm : r.perMinute = r'.perMinute)
    (hh : r.hits actorId = r'.hits actorId) (calls : List Check) :
    (r.outcomes calls).filter (fun o => decide (o.1.actorId = actorId)) =
      r'.outcomes (calls.filter fun c => decide (c.actorId = actorId)) := by
  induction calls generalizing r r' with
  | nil => rfl
  | cons c rest ih =>
    rw [RateLimiter.outcomes]
    by_cases hown : c.actorId = actorId
    · have hhits : r.hits c.actorId = r'.hits c.actorId := by rw [hown, hh]
      obtain ⟨hanswer, hleft⟩ := check_congr c.now hm hhits
      have hm' : (r.check c.now c.actorId).2.perMinute =
          (r'.check c.now c.actorId).2.perMinute := by
        rw [check_perMinute, check_perMinute, hm]
      rw [List.filter_cons_of_pos (by simpa using hown),
        List.filter_cons_of_pos (by simpa using hown), RateLimiter.outcomes, hanswer,
        ih hm' (hown ▸ hleft)]
    · -- a check of another actor is left out, and so is its queue
      have hleft : (r.check c.now c.actorId).2.hits actorId = r'.hits actorId := by
        rw [check_other r c.now (Ne.symm hown), hh]
      rw [List.filter_cons_of_neg (by simpa using hown),
        List.filter_cons_of_neg (by simpa using hown)]
      exact ih ((check_perMinute ..).trans hm) hleft

end

/-! ## The claim about a new limiter -/

/-- The log of an actor in a run of a new limiter. -/
theorem tracks_checks (perMinute : ℕ) (actorId : String) {calls : List Check} {now : ℚ}
    (hordered : (calls.map fun c => c.now.seconds).Pairwise (· ≤ ·))
    (hcalls : ∀ c ∈ calls, c.now.seconds ≤ now) :
    Tracks ((RateLimiter.new perMinute).settle calls) actorId
      (accepted actorId ((RateLimiter.new perMinute).outcomes calls)) now := by
  cases calls with
  | nil => exact tracks_new perMinute actorId now
  | cons c rest =>
    have hfirst : ∀ t ∈ (c :: rest).map fun c => c.now.seconds, c.now.seconds ≤ t := by
      intro t ht
      rcases List.mem_cons.1 ht with rfl | ht
      · exact le_rfl
      · exact List.rel_of_pairwise_cons hordered ht
    have hstart := tracks_new perMinute actorId c.now.seconds
    exact hstart.run (List.pairwise_cons.2 ⟨hfirst, hordered⟩) (hcalls c List.mem_cons_self) hcalls

/-- **The limit is exact over runs.** For every limit and every sequence of checks: a half-open
window of a minute has at most as many accepted checks of an actor as the limit; a refusal finds
that many in the minute before it; the checks of others change nothing for an actor. -/
theorem limiter_exact (perMinute : ℕ) (s : Checks) :
    ((RateLimiter.new perMinute).outcomes s.calls).map Prod.fst = s.calls ∧
      (∀ (actorId : String) (start : ℚ),
        ((accepted actorId ((RateLimiter.new perMinute).outcomes s.calls)).filter
            fun t => decide (start ≤ t ∧ t < start + 60)).length ≤ perMinute ∧
          ((accepted actorId ((RateLimiter.new perMinute).outcomes s.calls)).filter
            fun t => decide (start < t ∧ t ≤ start + 60)).length ≤ perMinute) ∧
      (∀ (earlier later : Outcomes) (c : Check) (e : BrokerError),
        (RateLimiter.new perMinute).outcomes s.calls = earlier ++ (c, .error e) :: later →
          e = rateLimited ∧
            perMinute ≤ ((accepted c.actorId earlier).filter
              fun t => decide (c.now.seconds - 60 < t ∧ t ≤ c.now.seconds)).length) ∧
      ∀ actorId : String,
        ((RateLimiter.new perMinute).outcomes s.calls).filter
            (fun o => decide (o.1.actorId = actorId)) =
          (RateLimiter.new perMinute).outcomes
            (s.calls.filter fun c => decide (c.actorId = actorId)) := by
  refine ⟨outcomes_calls _ _, fun actorId start => ?_, fun earlier later c e h => ?_,
    fun actorId => outcomes_own rfl rfl s.calls⟩
  · have hrange : ∀ c ∈ s.calls, c.now.seconds ≤ 2 ^ 34 := fun c _ => le_of_lt c.now.inRange
    have htracks := tracks_checks perMinute actorId s.ordered hrange
    have hpaced := htracks.paced
    rw [settle_perMinute] at hpaced
    exact hpaced.during_le start
  · obtain ⟨before, ⟨rest, hcalls⟩, rfl, hanswer⟩ := outcomes_split h
    have hordered := s.ordered
    rw [← hcalls, List.append_assoc, List.map_append] at hordered
    obtain ⟨hbefore, -, hacross⟩ := List.pairwise_append.1 hordered
    have hpast : ∀ d ∈ before, d.now.seconds ≤ c.now.seconds := fun d hd =>
      hacross _ (List.mem_map_of_mem hd) _ List.mem_cons_self
    have htracks := tracks_checks perMinute c.actorId hbefore hpast
    have hperMinute := settle_perMinute (RateLimiter.new perMinute) before
    obtain ⟨he, hfull⟩ := htracks.refused le_rfl hanswer.symm
    rw [hperMinute] at hfull
    have hsame : (accepted c.actorId ((RateLimiter.new perMinute).outcomes before)).filter
        (fun t => decide (c.now.seconds - 60 < t ∧ t ≤ c.now.seconds)) =
          after (c.now.seconds - 60)
            (accepted c.actorId ((RateLimiter.new perMinute).outcomes before)) := by
      refine List.filter_congr fun t ht => ?_
      exact decide_eq_decide.2 ⟨fun h => h.1, fun h => ⟨h, htracks.past t ht⟩⟩
    rw [hsame]
    exact ⟨he, hfull⟩

end ServerPilot.Api
