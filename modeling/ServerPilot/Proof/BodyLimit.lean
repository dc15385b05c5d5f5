import ServerPilot.Spec.BodyLimit

/-!
# The body limit is exact and invisible

* `readBody_spec`: the loop refuses exactly when too many bytes come before the body ends, and
  otherwise takes the messages of the body off the channel.
* `replay_run`: no program can tell the replayed channel from the live one.
* `bodyLimit_exact`: **the app is called exactly for a body within the limit, with the messages
  it would have had, and one 413 answers the others.**
-/

namespace ServerPilot.Api

open Coroutine

section

variable {maxBytes : ℕ} {m : Message} {channel : List Message}

/-! ## The body, message by message -/

theorem bodyMessages_continues (h : m.continues = true) (channel : List Message) :
    bodyMessages (m :: channel) = m :: bodyMessages channel := by
  rw [bodyMessages, List.takeWhile_cons_of_pos h, List.dropWhile_cons_of_pos h, List.cons_append]
  rfl

theorem bodyMessages_ends (h : ¬ m.continues = true) (channel : List Message) :
    bodyMessages (m :: channel) = [m] := by
  rw [bodyMessages, List.takeWhile_cons_of_neg h, List.dropWhile_cons_of_neg h]
  rfl

theorem bodyReceived_continues (h : m.continues = true) (channel : List Message) :
    bodyReceived (m :: channel) = m.length + bodyReceived channel := by
  have hrequest : m.isRequest = true := (Bool.and_eq_true_iff.1 h).1
  rw [bodyReceived, bodyMessages_continues h, List.map_cons, List.sum_cons, if_pos hrequest]
  rfl

theorem bodyReceived_ends (h : ¬ m.continues = true) (channel : List Message) :
    bodyReceived (m :: channel) = if m.isRequest then m.length else 0 := by
  rw [bodyReceived, bodyMessages_ends h, List.map_singleton, List.sum_singleton]

theorem bodyEnds_continues (h : m.continues = true) (channel : List Message) :
    bodyEnds (m :: channel) = bodyEnds channel := by
  rw [bodyEnds, List.any_cons, h]
  rfl

theorem bodyEnds_ends (h : ¬ m.continues = true) (channel : List Message) :
    bodyEnds (m :: channel) = true := by
  rw [bodyEnds, List.any_cons, Bool.eq_false_of_not_eq_true h]
  rfl

/-! ## The loop -/

/-- What the loop comes to, from the bytes and messages it has. -/
def ReadsTo (maxBytes received : ℕ) (messages channel : List Message) (r : BodyRead) : Prop :=
  (maxBytes < received + bodyReceived channel → r = .tooLarge) ∧
    (received + bodyReceived channel ≤ maxBytes →
      (bodyEnds channel = true → ∃ live,
        r = .buffered (messages ++ bodyMessages channel) live ∧
          bodyMessages channel ++ live = channel) ∧
      (bodyEnds channel = false → ∃ waitingFor, r = .waiting waitingFor))

/-- **The loop**, for a count that has not passed the limit. -/
theorem readBody_spec (channel : List Message) :
    ∀ (received : ℕ) (messages : List Message), received ≤ maxBytes →
      ReadsTo maxBytes received messages channel (readBody maxBytes received messages channel) := by
  induction channel with
  | nil =>
    intro received messages hle
    refine ⟨fun h => ?_, fun _ => ⟨nofun, fun _ => ⟨messages, rfl⟩⟩⟩
    have hzero : bodyReceived [] = 0 := rfl
    omega
  | cons m live ih =>
    intro received messages hle
    unfold readBody
    by_cases hcontinues : m.continues = true
    · -- another chunk: the bytes and the message are counted, and the loop goes on
      have hrequest : m.isRequest = true := (Bool.and_eq_true_iff.1 hcontinues).1
      have hcount := bodyReceived_continues hcontinues live
      simp only [hrequest, if_true, true_and, hcontinues]
      by_cases hlarge : maxBytes < received + m.length
      · rw [if_pos hlarge]
        exact ⟨fun _ => rfl, fun h => absurd h (by omega)⟩
      · rw [if_neg hlarge]
        obtain ⟨htoo, hin⟩ := ih (received + m.length) (messages ++ [m]) (Nat.le_of_not_lt hlarge)
        rw [ReadsTo, hcount, ← Nat.add_assoc, bodyEnds_continues hcontinues,
          bodyMessages_continues hcontinues]
        refine ⟨htoo, fun h => ⟨fun hends => ?_, (hin h).2⟩⟩
        obtain ⟨rest, hread, hrest⟩ := (hin h).1 hends
        rw [List.append_assoc, List.singleton_append] at hread
        exact ⟨rest, hread, by rw [List.cons_append, hrest]⟩
    · -- the message that ends the body, or interrupts it
      have hcount := bodyReceived_ends hcontinues live
      rw [ReadsTo, hcount, bodyEnds_ends hcontinues, bodyMessages_ends hcontinues]
      by_cases hrequest : m.isRequest = true
      · simp only [hrequest, if_true, true_and, hcontinues]
        by_cases hlarge : maxBytes < received + m.length
        · rw [if_pos hlarge]
          exact ⟨fun _ => rfl, fun h => absurd h (by omega)⟩
        · rw [if_neg hlarge]
          exact ⟨fun h => absurd h hlarge, fun _ => ⟨fun _ => ⟨live, rfl, rfl⟩, nofun⟩⟩
      · simp only [hrequest, hcontinues]
        exact ⟨fun h => absurd h (by simpa using hle), fun _ => ⟨fun _ => ⟨live, rfl, rfl⟩, nofun⟩⟩

end

/-! ## The replayed channel -/

/-- **No program can tell the replayed channel from the live one.** -/
theorem replay_run {ε σ : Type} (act : σ → Act Message ε σ) (n : ℕ) (s : σ)
    (messages live : List Message) :
    run act replayReceive n s (messages, live) = run act receive n s (messages ++ live) := by
  have hrefines : ∀ k : List Message × List Message,
      (replayReceive k).map (Prod.map id fun k => k.1 ++ k.2) = receive (k.1 ++ k.2) := by
    rintro ⟨messages, live⟩
    cases messages with
    | nil => cases live <;> rfl
    | cons m messages => rfl
  exact run_refines hrefines act n s (messages, live)

/-! ## The middleware -/

theorem declaresTooMuch_iff {s : Scope} {maxBytes : ℕ} :
    s.declaresTooMuch maxBytes = false ↔ ∀ n ∈ s.declaredLength, n ≤ maxBytes := by
  unfold Scope.declaresTooMuch
  cases s.declaredLength with
  | none => simp
  | some n => simp

/-- **The body limit is exact and invisible.** For every limit, headers and messages of an `http`
request: the app is called exactly when the body has ended and the declared length, when it is a
number, and the bytes received are at most the limit; one 413 answers exactly the requests over
it, and nothing else is answered; and whatever the app does for however long, it has the same run
as on the server's own channel. -/
theorem bodyLimit_exact (maxBytes : ℕ) (headers : List (Bytes × Bytes)) (channel : List Message) :
    let scope : Scope := { type := some "http", headers := headers }
    let handled := requestBodyLimit maxBytes scope channel
    let within := (∀ n ∈ scope.declaredLength, n ≤ maxBytes) ∧ bodyReceived channel ≤ maxBytes
    (handled.app.isSome = true ↔ bodyEnds channel = true ∧ within) ∧
      (¬ within → handled.answers = [reject]) ∧ (within → handled.answers = []) ∧
      ∀ replay ∈ handled.app, ∀ (ε σ : Type) (act : σ → Act Message ε σ) (n : ℕ) (s : σ),
        run act replayReceive n s replay = run act receive n s channel := by
  intro scope handled within
  obtain ⟨htoo, hin⟩ := readBody_spec channel 0 [] (Nat.zero_le maxBytes)
  rw [Nat.zero_add] at htoo hin
  have hhandled : handled = requestBodyLimit maxBytes scope channel := rfl
  unfold requestBodyLimit at hhandled
  rw [if_neg (not_not_intro rfl)] at hhandled
  by_cases hdeclared : scope.declaresTooMuch maxBytes = true
  · -- refused before anything is read
    have hnot : ¬ within := fun h => by
      rw [declaresTooMuch_iff.2 h.1] at hdeclared
      cases hdeclared
    rw [if_pos hdeclared] at hhandled
    rw [hhandled]
    exact ⟨⟨nofun, fun h => absurd h.2 hnot⟩, fun _ => rfl, fun h => absurd h hnot, nofun⟩
  · have hlength := declaresTooMuch_iff.1 (Bool.eq_false_of_not_eq_true hdeclared)
    rw [if_neg hdeclared] at hhandled
    by_cases hlarge : maxBytes < bodyReceived channel
    · have hnot : ¬ within := fun h => absurd h.2 (not_le.2 hlarge)
      rw [htoo hlarge] at hhandled
      rw [hhandled]
      exact ⟨⟨nofun, fun h => absurd h.2 hnot⟩, fun _ => rfl, fun h => absurd h hnot, nofun⟩
    · have hwithin : within := ⟨hlength, not_lt.1 hlarge⟩
      obtain ⟨hended, hwaiting⟩ := hin (not_lt.1 hlarge)
      cases hends : bodyEnds channel with
      | true =>
        obtain ⟨live, hread, hchannel⟩ := hended hends
        rw [hread] at hhandled
        rw [hhandled]
        refine ⟨⟨fun _ => ⟨rfl, hwithin⟩, fun _ => rfl⟩, fun h => absurd hwithin h,
          fun _ => rfl, ?_⟩
        intro replay hreplay ε σ act n s
        cases hreplay
        rw [replay_run, List.nil_append, hchannel]
      | false =>
        -- more of the body is still to come
        obtain ⟨messages, hread⟩ := hwaiting hends
        rw [hread] at hhandled
        rw [hhandled]
        exact ⟨⟨nofun, nofun⟩, fun h => absurd hwithin h, fun _ => rfl, nofun⟩

end ServerPilot.Api
