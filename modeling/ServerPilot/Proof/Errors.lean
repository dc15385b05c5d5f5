import ServerPilot.Proof.Forward

/-!
# Whose error it is

A refresh that succeeds takes down the message of one that failed. What an action
puts up is announced and outlives every refresh, unless a failed refresh is still
waiting to be made good: the flag that says so is not lowered by the action, and the
message passes for the refresh's (`stands_iff`, `refusal_unannounced`).
-/

namespace ServerPilot.Desktop

open BrokerStore

variable {ρ : RecordKind → Type} {s t : BrokerStore ρ} {e : Event ρ} {task : RefreshTask}
  {now : Time} {text : String}

/-! ## Who speaks -/

/-- `text` is what an action puts up in the event. -/
inductive PutsUp (s : BrokerStore ρ) : Event ρ → String → Prop
  | set (text : String) : PutsUp s (.setErrorMessage (some text)) text
  | refused (h : s.allowsMutations = false) :
      PutsUp s .performMutation s.mutationUnavailableReason
  | actor (now : Time) : PutsUp s (.setActor "" now) "本机操作标识不能为空。"

/-- The result is reported as a failed refresh. -/
def BrokerStore.Reports (s : BrokerStore ρ) : Except String (BrokerSnapshot ρ) → Prop
  | .ok x => s.snapshotRevisionFloorError x ≠ none
  | .error _ => ¬ (s.lastGoodSnapshot.isSome ∧
      s.consecutiveRefreshFailures + 1 < failuresBeforeStale)

/-- The event puts up a message or takes one down, other than by a refresh that succeeds. -/
def Replaces (s : BrokerStore ρ) : Event ρ → Prop
  | .setErrorMessage _ => True
  | .performMutation => s.allowsMutations = false
  | .setActor value _ => value = ""
  | .completeRefresh task result _ => s.Awaits task ∧ s.Reports result
  | _ => False

/-- The message and whose it passes for. -/
def BrokerStore.said (s : BrokerStore ρ) : Option String × Bool :=
  (s.errorMessage, s.refreshOwnsError)

theorem said_startRefresh : (s.startRefresh now).said = s.said := by
  unfold startRefresh
  split <;> rfl

theorem said_requestRefresh : (s.requestRefresh now).said = s.said := by
  unfold requestRefresh
  split
  · rfl
  · split
    · rfl
    · exact said_startRefresh

theorem said_finishRefresh : (s.finishRefresh now).said = s.said := by
  unfold finishRefresh
  split
  · exact said_startRefresh
  · rfl

theorem owns_reportRefreshFailure (description : String) :
    (s.reportRefreshFailure description).refreshOwnsError = true := by
  unfold reportRefreshFailure
  dsimp only
  split <;> rfl

theorem step_putsUp [∀ k, DecidableEq (ρ k)] (h : PutsUp s e text) :
    s.step e = s.setErrorMessage (some text) := by
  cases h with
  | set text => rfl
  | refused h =>
    unfold BrokerStore.step
    dsimp only
    rw [if_neg (by rw [h]; exact Bool.false_ne_true)]
  | actor now => rfl

variable [∀ k, DecidableEq (ρ k)]

/-- **Who else touches the message**: a refresh that succeeds, and nobody. -/
theorem step_said (h : ¬ Replaces s e) :
    (s.step e).said = s.said ∨
      ∃ task x now, e = .completeRefresh task (.ok x) now ∧ s.Accepts task x ∧
        (s.step e).said = (if s.refreshOwnsError then none else s.errorMessage, false) := by
  cases e with
  | connect service now => exact Or.inl said_requestRefresh
  | setActor value now =>
    left
    have hvalue : ¬ value = "" := h
    unfold BrokerStore.step BrokerStore.setActor
    dsimp only
    rw [if_neg hvalue]
    exact said_requestRefresh
  | reload now => exact Or.inl said_requestRefresh
  | requestRefreshIfDue now =>
    left
    unfold BrokerStore.step BrokerStore.requestRefreshIfDue
    dsimp only
    cases s.lastRefreshStartedAt with
    | none => exact said_requestRefresh
    | some last =>
      dsimp only
      split_ifs
      · rfl
      · exact said_requestRefresh
      · rfl
      · exact said_requestRefresh
  | setWindowVisible visible now =>
    left
    unfold BrokerStore.step BrokerStore.setWindowVisible
    dsimp only
    split
    · exact said_requestRefresh
    · rfl
  | completeRefresh task result now =>
    unfold BrokerStore.step
    dsimp only
    split
    · rename_i hm
      unfold completeRefresh
      split
      · exact Or.inl rfl
      rename_i hg
      rw [said_finishRefresh]
      unfold hear
      split
      · exact Or.inl rfl
      rename_i hd
      have hawaits : s.Awaits task := ⟨hm, not_not.1 hg, hd⟩
      have hquiet : ¬ s.Reports result := fun hr => h ⟨hawaits, hr⟩
      unfold useResult
      cases result with
      | error description =>
        left
        have hfirst := not_not.1 hquiet
        unfold refreshFailure
        dsimp only
        rw [if_pos]
        · rfl
        · exact hfirst
      | ok x =>
        have hfloor : s.snapshotRevisionFloorError x = none := not_not.1 hquiet
        right
        refine ⟨task, x, now, rfl, ⟨hawaits, hfloor⟩, ?_⟩
        dsimp only
        rw [show (s.endTask task).idle.snapshotRevisionFloorError x = none from hfloor]
        rfl
    · exact Or.inl rfl
  | performMutation =>
    left
    unfold BrokerStore.step
    dsimp only
    have hallowed : s.allowsMutations = true := Bool.not_eq_false _ ▸ h
    rw [if_pos hallowed]
  | acknowledge service revision =>
    left
    cases revision <;> rfl
  | setErrorMessage message => exact absurd trivial h
  | setNotice notice => exact Or.inl rfl
  | setFeedback feedback => exact Or.inl rfl

/-- The message of a failed refresh is the refresh's. -/
theorem owns_reported {result : Except String (BrokerSnapshot ρ)} (ha : s.Awaits task)
    (hr : s.Reports result) :
    (s.step (.completeRefresh task result now)).refreshOwnsError = true := by
  obtain ⟨hm, hg, hd⟩ := ha
  have hstep : s.step (.completeRefresh task result now) =
      ((s.endTask task).idle.useResult task result now).finishRefresh now := by
    have hhear : (s.endTask task).hear task result now =
        (s.endTask task).idle.useResult task result now := if_neg hd
    rw [← hhear]
    change (if task ∈ s.tasks then (s.endTask task).completeRefresh task result now else s) = _
    rw [if_pos hm]
    exact if_neg (not_not.2 hg)
  have hsaid : (s.step (.completeRefresh task result now)).said =
      ((s.endTask task).idle.useResult task result now).said := by
    rw [hstep]
    exact said_finishRefresh
  refine (congrArg Prod.snd hsaid).trans ?_
  change ((s.endTask task).idle.useResult task result now).refreshOwnsError = true
  unfold useResult
  cases result with
  | error description =>
    dsimp only
    unfold refreshFailure
    dsimp only
    rw [if_neg]
    · exact owns_reportRefreshFailure description
    · exact hr
  | ok x =>
    obtain ⟨description, hfloor⟩ := Option.ne_none_iff_exists'.1 hr
    dsimp only
    rw [show (s.endTask task).idle.snapshotRevisionFloorError x = some description from hfloor]
    exact owns_reportRefreshFailure description

/-! ## What stands and what yields -/

/-- The message is announced, and stays until something replaces it. -/
def Stands (s : BrokerStore ρ) (e : Event ρ) (text : String) : Prop :=
  (s.step e).feedback = some ⟨.failure, text⟩ ∧
    ∀ es, Run.Along BrokerStore.step (fun s e => ¬ Replaces s e) (s.step e) es →
      (Run.run BrokerStore.step (s.step e) es).errorMessage = some text

/-- The message goes with the next snapshot let through, if nothing replaces it before. -/
def Yields (s : BrokerStore ρ) : Prop :=
  ∀ es, Run.Along BrokerStore.step (fun s e => ¬ Replaces s e) s es →
    ∀ task x now, (Run.run BrokerStore.step s es).Accepts task x →
      ((Run.run BrokerStore.step s es).step (.completeRefresh task (.ok x) now)).errorMessage = none

theorem said_accepted {x : BrokerSnapshot ρ} (ha : s.Accepts task x) :
    (s.step (.completeRefresh task (.ok x) now)).said =
      (if s.refreshOwnsError then none else s.errorMessage, false) := by
  rw [step_accepted ha, said_finishRefresh]
  rfl

/-- Nothing but a replacement takes down a message that is not the refresh's. -/
theorem message_stands (hmessage : s.errorMessage = some text) (howns : s.refreshOwnsError = false)
    {es : List (Event ρ)} (h : Run.Along BrokerStore.step (fun s e => ¬ Replaces s e) s es) :
    (Run.run BrokerStore.step s es).errorMessage = some text := by
  have hkept : (Run.run BrokerStore.step s es).said = (some text, false) := by
    refine Run.run_inv (I := fun t : BrokerStore ρ => t.said = (some text, false)) ?_ ?_ h
    · intro t e ht hquiet
      rcases step_said hquiet with hsaid | ⟨task, x, now, -, -, hsaid⟩
      · exact hsaid.trans ht
      · simp only [said, Prod.mk.injEq] at ht
        rw [hsaid, ht.1, ht.2]
        rfl
    · exact Prod.ext hmessage howns
  exact congrArg Prod.fst hkept

/-- The refresh's message is the refresh's, or gone, until something replaces it. -/
theorem message_yields (h : s.refreshOwnsError = true ∨ s.errorMessage = none) : Yields s := by
  intro es hquiet task x now ha
  have hkept : (Run.run BrokerStore.step s es).refreshOwnsError = true ∨
      (Run.run BrokerStore.step s es).errorMessage = none := by
    refine Run.run_inv (I := fun t : BrokerStore ρ =>
      t.refreshOwnsError = true ∨ t.errorMessage = none) ?_ h hquiet
    intro t e ht hquiet
    rcases step_said hquiet with hsaid | ⟨task, x, now, -, -, hsaid⟩
    · simp only [said, Prod.mk.injEq] at hsaid
      rw [hsaid.1, hsaid.2]
      exact ht
    · simp only [said, Prod.mk.injEq] at hsaid
      right
      rw [hsaid.1]
      rcases ht with howns | hnone
      · rw [if_pos howns]
      · rw [hnone, ite_self]
  have hsaid := congrArg Prod.fst (@said_accepted _ _ task now _ x ha)
  refine hsaid.trans ?_
  rcases hkept with howns | hnone
  · exact if_pos howns
  · rw [hnone]
    exact ite_self _

/-! ## When an action's message stands -/

/-- A snapshot of the required revision. -/
def BrokerStore.recovering (s : BrokerStore ρ) : BrokerSnapshot ρ :=
  { s.snapshot with snapshotRevision := some s.requiredRevision }

/-- The task of a reconnection. -/
def BrokerStore.reconnecting (s : BrokerStore ρ) : RefreshTask :=
  s.invalidateActiveRefresh.nextTask 0

/-- After a reconnection its snapshot is let through. -/
theorem reconnection_accepts (s : BrokerStore ρ) :
    (s.step (.connect 0 0)).Accepts s.reconnecting s.recovering := by
  have hstep : s.step (.connect 0 0) =
      { s.invalidateActiveRefresh with snapshotClient := some 0 }.startRefresh 0 := rfl
  rw [hstep]
  refine ⟨⟨List.mem_cons_self, rfl, fun h => (by cases h)⟩, ?_⟩
  exact if_pos le_rfl

/-- **When an action's message stands**: if no failed refresh is waiting to be made good. -/
theorem stands_iff (h : PutsUp s e text) : Stands s e text ↔ s.refreshOwnsError = false := by
  have hstep := step_putsUp h
  constructor
  · rintro ⟨-, hstands⟩
    by_contra howns
    have howns : s.refreshOwnsError = true := Bool.not_eq_false _ ▸ howns
    set t := s.step e with ht
    have haccepts := reconnection_accepts t
    have hquiet : Run.Along BrokerStore.step (fun s e => ¬ Replaces s e) t
        [.connect 0 0, .completeRefresh t.reconnecting (.ok t.recovering) 0] :=
      ⟨id, fun hreplaces => hreplaces.2 haccepts.2, trivial⟩
    have hgone := congrArg Prod.fst (@said_accepted _ _ _ 0 _ _ haccepts)
    have hmessage := hstands _ hquiet
    have hflag : (t.step (.connect 0 0)).refreshOwnsError = true := by
      have hsaid : (t.step (.connect 0 0)).said = t.said := said_requestRefresh
      have hflag := congrArg Prod.snd hsaid
      refine hflag.trans ?_
      rw [hstep]
      exact howns
    rw [hflag] at hgone
    have hnone := hmessage.symm.trans hgone
    cases hnone
  · intro howns
    rw [Stands, hstep]
    refine ⟨?_, fun es hquiet =>
      message_stands (s := s.setErrorMessage (some text)) rfl howns hquiet⟩
    change (if s.refreshOwnsError then s.feedback else some ⟨.failure, text⟩) = _
    rw [howns]
    rfl

/-- **Whose error it is.** In every state, an action's message is announced and outlives every
refresh exactly if no failed refresh is waiting to be made good; a refresh's message goes with the
next snapshot let through. -/
theorem errors_kept_apart (s : BrokerStore ρ) :
    (∀ e text, PutsUp s e text → (Stands s e text ↔ s.refreshOwnsError = false)) ∧
      ∀ task result now, s.Awaits task → s.Reports result →
        Yields (s.step (.completeRefresh task result now)) := by
  refine ⟨fun e text h => stands_iff h, fun task result now ha hr => ?_⟩
  exact message_yields (Or.inl (owns_reported ha hr))

/-- An action refused before any connection. -/
theorem refusal_stands :
    Stands (initial (ρ := Numbered) "human" (seconds 12)) .performMutation
      "当前为只读测试夹具或尚未连接本机服务，不能执行资源变更。" :=
  ((errors_kept_apart _).1 _ _ (PutsUp.refused rfl)).2 rfl

/-! ## An action taken while the service is down -/

/-- Every message of an action stands. -/
def ActionsStand (start : BrokerStore Numbered) : Prop :=
  ∀ es e text, PutsUp (Run.run BrokerStore.step start es) e text →
    Stands (Run.run BrokerStore.step start es) e text

/-- A store whose first refresh timed out. -/
def timedOut : List (Event Numbered) :=
  [.connect 1 0, .completeRefresh ⟨2, 1, "human", 2⟩ (.error "资源刷新超时。") 0]

/-- The action refused for it is not announced. -/
theorem refusal_unannounced : ¬ ActionsStand (initial "human" (seconds 12)) := by
  intro h
  have hstands := h timedOut .performMutation _ (PutsUp.refused (by decide))
  have hannounced := hstands.1
  revert hannounced
  decide

end ServerPilot.Desktop
