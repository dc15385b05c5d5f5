import ServerPilot.Lib.Leads
import ServerPilot.Proof.Delegated
import ServerPilot.Proof.KeepalivePlan
import ServerPilot.Proof.Replay
import ServerPilot.Proof.StartBatch
import ServerPilot.Proof.Workers

/-!
# What a reconciliation does

* `keeper_or_ended`: a keeper is on its one card until it ends for good, whatever is committed.
* `finalized`: an accepted stop under a new key ends its keeper on evidence about its card.
* `activated`: an accepted activation under a new key leaves a keeper on every target, on evidence.
* `reconcile_carried`: a reconciliation without an error carried its whole plan out.
* `stops_answered`: otherwise the cards it names are those it answers for.
-/

namespace ServerPilot

open Rows Checked Run

/-! ## Along a run -/

section

variable {cfg : Config} {op : Op} {b b' : Broker} {resp : Response} {i g : String}

theorem leads_run (cfg : Config) (b : Broker) (ops : List Op) :
    Leads (exec cfg) b (run (exec cfg) b ops) := .run b ops

theorem leads_apply (op : Op) (h : op.apply cfg b = .ok (b', resp)) : Leads (exec cfg) b b' := by
  have hnext : Leads (exec cfg) b (exec cfg b op) := .next b op
  unfold exec at hnext
  rwa [h] at hnext

theorem Reachable.leads (hb : Reachable cfg b) (h : Leads (exec cfg) b b') : Reachable cfg b' := by
  obtain ⟨b₀, hs, ops, rfl⟩ := hb
  obtain ⟨rest, rfl⟩ := h
  exact ⟨b₀, hs, ops ++ rest, (run_append b₀ ops rest).symm⟩

/-- An ended lease is ended for good. -/
theorem ended_leads (hk : Kept b) (he : b.ledger.endedAt i) (h : Leads (exec cfg) b b') :
    b'.ledger.endedAt i := by
  refine (h.inv (I := fun s => Kept s ∧ s.ledger.endedAt i) ?_ ⟨hk, he⟩).2
  intro s op ⟨hk, x, hx, hdead⟩
  refine ⟨exec_kept cfg s op hk, ?_⟩
  rcases exec_cases cfg s op with ⟨s', r, h, hs⟩ | ⟨-, hs⟩
  · rw [hs]
    exact (apply_life hk.intact hk.wellkept h).over hx hdead
  · rw [hs]
    exact ⟨x, hx, hdead⟩

theorem not_keeps_of_ended (he : b.ledger.endedAt i) : ¬ b.ledger.keeps i := by
  rintro ⟨x, hx, -, hlive⟩
  obtain ⟨k, hk, hdead⟩ := he
  rw [holding_of_lease hx] at hk
  cases hk
  rw [show x.state.live = false from hdead] at hlive
  cases hlive

/-- A holding of one card that shrank and lives has that card. -/
theorem card_of_shrinks {x y : Holding String String} (hx : x.cards = {g}) (s : x.Shrinks y)
    (hlive : y.live = true) : y.cards = {g} := by
  cases s with
  | same eq => rw [eq, hx]
  | taken t =>
    have hnone : y.cards = ∅ := Finset.ssubset_singleton_iff.1 (hx ▸ t.cards)
    exact absurd hnone t.some.ne_empty
  | ended e =>
    rw [e.live] at hlive
    cases hlive

/-- **A keeper no transaction ended** is on its card still. -/
theorem apply_keeper_card (hb : Reachable cfg b) (hK : b.KeeperOf i g)
    (h : op.apply cfg b = .ok (b', resp)) (hkeeps : b'.ledger.keeps i) : b'.KeeperOf i g := by
  have hk := hb.kept
  rcases apply_keeper hk hb.tied hK h with hK' | hparted
  · exact hK'
  have hb' := apply_intact hk.intact h
  obtain ⟨x, hx, -, hset⟩ := hK.holding
  obtain ⟨y, hy, -, hlive⟩ := hkeeps
  have hcard : ∀ k : Holding String String, b'.ledger.holding? i = some k →
      (k.live = true → k.cards = {g}) → b'.KeeperOf i g := by
    intro k hk' hone
    have hk'live : k.live = true := by
      rw [holding_of_lease hy] at hk'
      cases hk'
      exact hlive
    exact hK.of_holding (fun _ hx => (apply_deeds hk.intact h).kind hx) hb'.leasePk hb'.leaseGpu hk'
      hk'live (hone hk'live)
  cases apply_life hk.intact hk.wellkept h with
  | ends e =>
    obtain ⟨k, hk', s⟩ := e.related i x hx
    exact hcard k hk' (card_of_shrinks hset s.shrinks)
  | loses _ f =>
    obtain ⟨k, hk', s⟩ := f.related i x hx
    exact hcard k hk' (card_of_shrinks hset s)
  | opens gpuIds _ o =>
    exact hK.stay hk.intact h (o.old i (by rw [hx]; simp)).1
  | resizes j ho a =>
    -- what parts a keeper from its worker resizes no lease
    rcases hparted with hp | hp <;> cases hp <;> cases ho
  | moves m ho _ a =>
    rcases hparted with hp | hp <;> cases hp <;> cases ho
  | uproots e _ u =>
    obtain ⟨k, hk', r⟩ := u.related i x hx
    refine hcard k hk' ?_
    rcases r with r | r
    · intro _
      refine (r.some (by rw [hset]; exact Finset.singleton_nonempty g)).subset_singleton_iff.1 ?_
      intro c hc
      rw [← hset]
      exact ((r.cards c).1 hc).1
    · exact card_of_shrinks hset (.ended r)

/-- **Until it ends, a keeper is on its one card.** -/
theorem keeper_or_ended (hb : Reachable cfg b) (hK : b.KeeperOf i g ∨ b.ledger.endedAt i)
    (h : Leads (exec cfg) b b') : b'.KeeperOf i g ∨ b'.ledger.endedAt i := by
  refine (h.inv (I := fun s => Reachable cfg s ∧ (s.KeeperOf i g ∨ s.ledger.endedAt i)) ?_
    ⟨hb, hK⟩).2
  intro s op ⟨hs, hcase⟩
  refine ⟨hs.leads (.next s op), ?_⟩
  rcases hcase with hK | he
  swap
  · exact Or.inr (ended_leads hs.kept he (.next s op))
  rcases exec_cases cfg s op with ⟨s', r, h, he⟩ | ⟨-, he⟩
  swap
  · rw [he]
    exact Or.inl hK
  rw [he]
  obtain ⟨x, hx, hkind, -⟩ := hK.lease
  obtain ⟨y, hy, hid, hkind'⟩ := (apply_deeds hs.kept.intact h).kind (lease?_mem hx)
  have hy' : s'.ledger.lease? i = some y := by
    rw [← lease?_id hx, ← hid]
    exact row?_of_mem (apply_intact hs.kept.intact h).leasePk hy
  cases hlive : y.state.live with
  | true => exact Or.inl (apply_keeper_card hs hK h ⟨y, hy', hkind'.trans hkind, hlive⟩)
  | false => exact Or.inr ⟨_, holding_of_lease hy', hlive⟩

/-! ## What the transactions of a pass did -/

variable {now : Time} {actor : ActorContext} {endpointId key : String} {barrier : Time}

/-- **A stop** accepted under a new key ends its keeper, on evidence about its card. -/
theorem finalized (hb : Reachable cfg b) (hK : b.KeeperOf i g ∨ b.ledger.endedAt i)
    (hf : b.ledger.replay actor "keepalive.finalize_stop_gpu" (some key) = .ok none)
    (h : finalizeKeepaliveStop now actor endpointId i barrier (some key) b = .ok (b', resp)) :
    b.KeeperOf i g ∧ (∃ d, d.id = g ∧ StopProved b.plant endpointId barrier d) ∧
      b'.ledger.endedAt i := by
  have hstored : b'.ledger.remembers actor "keepalive.finalize_stop_gpu" key resp := by
    have hbody := h
    unfold finalizeKeepaliveStop at hbody
    simp only [bind_ok] at hbody
    obtain ⟨-, -, hbody⟩ := hbody
    exact once_stores hf hbody
  -- a replay would have stored no answer under a key that was new
  rcases finalizeKeepaliveStop_ok h with rfl | ⟨x, c, ps, hx, hkind, hlive, -, -, -, -, hb'⟩
  · exact absurd hstored (not_remembers_of_replay hf)
  have hkeeps : b.ledger.keeps i := ⟨x, hx, hkind, hlive⟩
  have hK : b.KeeperOf i g := hK.resolve_right fun he => not_keeps_of_ended he hkeeps
  have hnot : ¬ b'.ledger.keeps i := by
    rintro ⟨y, hy, -, hlive'⟩
    have hend := lease?_editLease b.ledger.bumpRevision i i (f := Lease.ended .released
      (some "keepalive stopped and target GPU observed empty") now) fun _ => rfl
    rw [if_pos rfl] at hend
    rw [hb'] at hy
    have hy' := (congrArg Folio.lease (folio_remember _ i _ _ _ _ _)).symm.trans hy
    obtain ⟨z, -, rfl⟩ := Option.map_eq_some_iff.1 (hend.symm.trans hy')
    cases hlive'
  have hled : Leads (exec cfg) b b' := leads_apply
    (.finalizeKeepaliveStop now actor endpointId i barrier (some key)) h
  obtain ⟨-, d, hd, hproof⟩ := stop_proved h hkeeps hnot
  have hone : [g] = [d.id] := hK.cards.symm.trans hd
  refine ⟨hK, ⟨d, (List.singleton_injective hone).symm, hproof⟩, ?_⟩
  exact (keeper_or_ended hb (Or.inl hK) hled).resolve_left fun hK' => hnot hK'.lease

/-- **An activation** accepted under a new key leaves a keeper on every target, on evidence. -/
theorem activated (hk : Kept b) {gpuIds : List String}
    {confirmed : Option (List (String × ℕ × String))} {token : String → String}
    (hf : b.ledger.replay actor "keepalive.activate_gpus" (some key) = .ok none)
    (h : activateKeepalives cfg now actor endpointId gpuIds barrier key confirmed token b =
      .ok (b', resp)) (hg : g ∈ gpuIds) :
    (∃ d, d.id = g ∧ StartProved b.plant endpointId barrier confirmed d) ∧
      ∃ i, b'.KeeperOf i g := by
  refine ⟨?_, activate_keeps hk hf h hg⟩
  have hstored : b'.ledger.remembers actor "keepalive.activate_gpus" key resp := by
    have hbody := h
    unfold activateKeepalives at hbody
    simp only [bind_ok] at hbody
    obtain ⟨-, -, hbody⟩ := hbody
    exact once_stores hf hbody
  rcases activateKeepalives_ok h with rfl | ⟨targets, processes, -, hn, hp, hw, hc, -, -⟩
  · exact absurd hstored (not_remembers_of_replay hf)
  · exact target_proved hn hp hw hc hg

/-- The mark of a card after it, or another, was cleaned up. -/
theorem marked_finishCleanupOn (b : Broker) (c : String) :
    (finishCleanupOn actor endpointId now b c).plant.marked g =
      (b.plant.marked g && !(decide (c = g) && (b.plant.gpu? c).any fun d =>
        decide (d.endpointId = endpointId))) := by
  unfold finishCleanupOn
  by_cases hmark : (b.plant.keepalive? c).any (fun k => k.cleanupPending) = true
  swap
  · rw [if_neg fun h => hmark ((Bool.and_eq_true_iff.1 h).2)]
    by_cases hc : c = g
    · subst hc
      rw [show b.plant.marked c = false by simpa [Plant.marked] using hmark, Bool.false_and]
    · simp [hc]
  rw [hmark, Bool.and_true]
  cases hon : (b.plant.gpu? c).any fun d => decide (d.endpointId = endpointId) with
  | false => simp
  | true =>
    obtain ⟨k, hk, -⟩ := Option.any_eq_true _ _ |>.1 hmark
    rw [if_pos rfl]
    unfold Plant.setKeepaliveCurrent Plant.marked
    rw [hk]
    unfold Plant.keepalive? at hk ⊢
    dsimp only
    rw [row?_updWhere]
    · by_cases hc : c = g
      · subst hc
        simp [hk, (row?_some hk).2]
      · cases hrow : row? KeepaliveCurrent.gpuId g b.plant.keepalive with
        | none => simp
        | some k' =>
          have hne : ¬ k'.gpuId = c := fun h => hc (h.symm.trans (row?_some hrow).2)
          simp [hne, hc]
    · exact fun _ => rfl

theorem registers_finishCleanupOn (b : Broker) (c : String) :
    (finishCleanupOn actor endpointId now b c).Registers endpointId g ↔
      b.Registers endpointId g := by
  unfold finishCleanupOn
  split
  · obtain ⟨keepalive, h⟩ := setKeepaliveCurrent_eq b.plant c .off none none true (some false) now
    unfold Broker.Registers
    dsimp only
    rw [h]
    rfl
  · rfl

/-- **A cleanup** leaves no card of the endpoint marked that it was for. -/
theorem cleaned {gpuIds : List String}
    (h : finishKeepaliveCleanup now actor endpointId gpuIds b = .ok (b', resp)) (hg : g ∈ gpuIds) :
    ¬ (b'.Registers endpointId g ∧ b'.Marked g) := by
  unfold finishKeepaliveCleanup at h
  obtain ⟨rfl, -, -⟩ := finish_ok.1 h
  refine (foldl_settles (f := finishCleanupOn actor endpointId now) (I := fun _ : Broker => True)
    (Q := fun s c => ¬ (s.Registers endpointId c ∧ s.Marked c)) (fun _ _ _ _ => trivial) ?_ ?_
    trivial).2 g hg
  · rintro s c d - hnot ⟨hreg, hmark⟩
    refine hnot ⟨(registers_finishCleanupOn s c).1 hreg, ?_⟩
    unfold Broker.Marked at hmark ⊢
    rw [marked_finishCleanupOn, Bool.and_eq_true] at hmark
    exact hmark.1
  · rintro s c - - ⟨hreg, hmark⟩
    have hreg : (s.plant.gpu? c).any (fun d => decide (d.endpointId = endpointId)) = true :=
      (registers_finishCleanupOn s c).1 hreg
    unfold Broker.Marked at hmark
    rw [marked_finishCleanupOn, hreg] at hmark
    simp at hmark

end

/-! ## Carried out -/

/-- The helper answered that the process is its worker on the card. -/
def Reply.Attests (attest : Reply (List WorkerAttestation)) (gpuUuid : String)
    (x : ProcessObservation) : Prop :=
  ∃ workers, attest = .answered workers ∧
    ∃ a ∈ workers, a.gpuUuid = gpuUuid ∧ a.driverPid = x.pid ∧ a.bootId = x.bootId

/-- Between `p` and `out` a worker was confirmed on the card `g` of UUID `u`: under a key that
was on file, or anew, on a look since the barrier that shows the attested process alone on it, and
with a keeper. -/
inductive Confirmed (cfg : Config) (actor : ActorContext) (endpointId key : String) (barrier : Time)
    (attest : Reply (List WorkerAttestation)) (p out : Broker) (g u : String) : Prop
  | onFile (s : Broker) (hp : Leads (exec cfg) p s) (hs : Leads (exec cfg) s out) (r : Response)
    (h : s.ledger.replay actor "keepalive.activate_gpus" (some key) = .ok (some r))
  | new (s s' : Broker) (hp : Leads (exec cfg) p s) (hss : Leads (exec cfg) s s')
    (hs : Leads (exec cfg) s' out) (d : GPUDevice) (hd : d.id = g)
    (hread : ∃ h t, s.plant.CardReadSince endpointId barrier d h t) (x : ProcessObservation)
    (halone : s.plant.currentProcesses g = [x]) (hattest : attest.Attests u x) (i : String)
    (hK : s'.KeeperOf i g)

/-- Between `p` and `out` the keeper of the card was stopped: under a key that was on file, or anew,
on evidence, and for good. -/
inductive Stopped (cfg : Config) (actor : ActorContext) (endpointId key : String) (barrier : Time)
    (p out : Broker) (i g : String) : Prop
  | onFile (s : Broker) (hp : Leads (exec cfg) p s) (hs : Leads (exec cfg) s out) (r : Response)
    (h : s.ledger.replay actor "keepalive.finalize_stop_gpu" (some key) = .ok (some r))
  | new (s : Broker) (hp : Leads (exec cfg) p s) (hs : Leads (exec cfg) s out)
    (hK : s.KeeperOf i g) (d : GPUDevice) (hd : d.id = g)
    (hproof : StopProved s.plant endpointId barrier d) (hend : out.ledger.endedAt i)

/-- The helper stopped every card the plan cleans up. -/
def PassWorld.cleanupAnswered (w : PassWorld) (plan : List Transition) : Bool :=
  (w.cleanup.verified (resultByGpuUuid ((cleanupsOf plan).map Prod.snd) false)).isAnswer

/-- An entry of a plan made at `p` is carried out at `out`. A cleanup the helper did not answer is
left for the next reconciliation. -/
inductive Carried (cfg : Config) (w : PassWorld) (actor : ActorContext) (endpointId key : String)
    (plan : List Transition) (p out : Broker) : Transition → Prop
  | cleanup (g u : String) (h : w.cleanupAnswered plan = true → ∃ s, Leads (exec cfg) p s ∧
      Leads (exec cfg) s out ∧ ¬ (s.Registers endpointId g ∧ s.Marked g)) :
    Carried cfg w actor endpointId key plan p out (.cleanup g u)
  | start (g u : String) (h : Confirmed cfg actor endpointId (key ++ ":activate-batch")
      w.start.notBefore w.start.attest p out g u) :
    Carried cfg w actor endpointId key plan p out (.start g u)
  | recover (g u : String) (h : Confirmed cfg actor endpointId (key ++ ":recover-batch")
      w.recover.notBefore w.recover.attest p out g u) :
    Carried cfg w actor endpointId key plan p out (.recover g u)
  | stop (g u i : String) (h : Stopped cfg actor endpointId (key ++ ":stop:" ++ g)
      (w.stop g).notBefore p out i g) : Carried cfg w actor endpointId key plan p out (.stop g u i)
  | ineligible (g u : String) (state : Option GpuState) (reason : String) :
    Carried cfg w actor endpointId key plan p out (.ineligible g u state reason)

section

variable {cfg : Config} {actor : ActorContext} {endpointId key : String} {barrier : Time}
  {attest : Reply (List WorkerAttestation)} {targets : StartTargets} {p b out out' : Broker}
  {i g u : String}

theorem Confirmed.later (h : Confirmed cfg actor endpointId key barrier attest p out g u)
    (hl : Leads (exec cfg) out out') :
    Confirmed cfg actor endpointId key barrier attest p out' g u := by
  cases h with
  | onFile s hp hs r h => exact .onFile s hp (hs.trans hl) r h
  | new s s' hp hss hs d hd hread x halone hattest i hK =>
    exact .new s s' hp hss (hs.trans hl) d hd hread x halone hattest i hK

theorem Confirmed.earlier (hl : Leads (exec cfg) b p)
    (h : Confirmed cfg actor endpointId key barrier attest p out g u) :
    Confirmed cfg actor endpointId key barrier attest b out g u := by
  cases h with
  | onFile s hp hs r h => exact .onFile s (hl.trans hp) hs r h
  | new s s' hp hss hs d hd hread x halone hattest i hK =>
    exact .new s s' (hl.trans hp) hss hs d hd hread x halone hattest i hK

/-- A process a confirmation names for a card was attested for the card of one of its targets. -/
theorem attests_of_confirmed {identities : List (String × ℕ × String)} {x : ProcessObservation}
    (h : attest.verified (attestedIdentities (targets.map Prod.snd)) = .answered identities)
    (hx : (confirmedIdentities targets identities).lookup g = some (x.pid, x.bootId)) :
    ∃ u, (g, u) ∈ targets ∧ attest.Attests u x := by
  obtain ⟨t, ht, hentry⟩ := List.mem_filterMap.1 (mem_of_lookup hx)
  obtain ⟨identity, hidentity, hpair⟩ := Option.map_eq_some_iff.1 hentry
  obtain ⟨rfl, rfl⟩ := Prod.mk.inj hpair
  refine ⟨t.2, ht, ?_⟩
  unfold Reply.verified at h
  split at h
  · rename_i workers
    refine ⟨workers, rfl, ?_⟩
    unfold attestedIdentities at h
    split at h
    · rename_i hids
      split at hids
      · cases h
        cases hids
        obtain ⟨a, ha, hnames⟩ := List.mem_map.1 (mem_of_lookup hidentity)
        simp only [Prod.mk.injEq] at hnames
        exact ⟨a, ha, hnames⟩
      · cases hids
    · cases h
  · cases h
  · cases h
  · cases h

theorem Stopped.later (hk : Kept out) (h : Stopped cfg actor endpointId key barrier p out i g)
    (hl : Leads (exec cfg) out out') : Stopped cfg actor endpointId key barrier p out' i g := by
  cases h with
  | onFile s hp hs r h => exact .onFile s hp (hs.trans hl) r h
  | new s hp hs hK d hd hproof hend =>
    exact .new s hp (hs.trans hl) hK d hd hproof (ended_leads hk hend hl)

theorem Stopped.earlier (hl : Leads (exec cfg) b p)
    (h : Stopped cfg actor endpointId key barrier p out i g) :
    Stopped cfg actor endpointId key barrier b out i g := by
  cases h with
  | onFile s hp hs r h => exact .onFile s (hl.trans hp) hs r h
  | new s hp hs hK d hd hproof hend => exact .new s (hl.trans hp) hs hK d hd hproof hend

/-- A key that is not new answers, and nothing changes. -/
theorem once_on_file {action : String} {k : Option String} {now : Time}
    {body : Tx (Broker × Response)} {r : Response}
    (hf : b.ledger.replay actor action k ≠ .ok none)
    (h : once b actor action k now body = .ok (out, r)) :
    b.ledger.replay actor action k = .ok (some r) ∧ out = b := by
  unfold once at h
  simp only [bind_ok] at h
  obtain ⟨replay, hreplay, h⟩ := h
  cases replay with
  | none => exact absurd hreplay hf
  | some response =>
    simp only [pure_ok, Prod.mk.injEq] at h
    obtain ⟨rfl, rfl⟩ := h
    exact ⟨hreplay, rfl⟩

/-- An accepted activation confirms each of its targets. -/
theorem confirmed_of_activate (hk : Kept b) {now : Time}
    {identities : List (String × ℕ × String)} {token : String → String} {r : Response}
    (ha : attest.verified (attestedIdentities (targets.map Prod.snd)) = .answered identities)
    (h : activateKeepalives cfg now actor endpointId (targets.map Prod.fst) barrier key
      (some (confirmedIdentities targets identities)) token b = .ok (out, r))
    (hg : (g, u) ∈ targets) (hu : ∀ u', (g, u') ∈ targets → u' = u) :
    Confirmed cfg actor endpointId key barrier attest b out g u := by
  by_cases hf : b.ledger.replay actor "keepalive.activate_gpus" (some key) = .ok none
  · obtain ⟨⟨d, rfl, hproof⟩, i, hK⟩ := activated hk hf h (List.mem_map_of_mem hg)
    have hl : Leads (exec cfg) b out := leads_apply (.activateKeepalives now actor endpointId
      (targets.map Prod.fst) barrier key (some (confirmedIdentities targets identities)) token) h
    obtain ⟨x, halone, hconfirmed⟩ := hproof.alone
    obtain ⟨u', hu', hattest⟩ := attests_of_confirmed ha (hconfirmed _ rfl)
    rw [hu u' hu'] at hattest
    exact .new b out (.refl b) hl (.refl out) d rfl hproof.read x halone hattest i hK
  · unfold activateKeepalives at h
    simp only [bind_ok] at h
    obtain ⟨-, -, h⟩ := h
    obtain ⟨hfile, rfl⟩ := once_on_file hf h
    exact .onFile out (.refl out) (.refl out) r hfile

/-- An accepted stop has stopped the keeper of its card. -/
theorem stopped_of_finalize (hb : Reachable cfg b) (hK : b.KeeperOf i g ∨ b.ledger.endedAt i)
    {now : Time} {r : Response}
    (h : finalizeKeepaliveStop now actor endpointId i barrier (some key) b = .ok (out, r)) :
    Stopped cfg actor endpointId key barrier b out i g := by
  by_cases hf : b.ledger.replay actor "keepalive.finalize_stop_gpu" (some key) = .ok none
  · obtain ⟨hK, ⟨d, hd, hproof⟩, hend⟩ := finalized hb hK hf h
    have hl : Leads (exec cfg) b out := leads_apply
      (.finalizeKeepaliveStop now actor endpointId i barrier (some key)) h
    exact .new b (.refl b) hl hK d hd hproof hend
  · unfold finalizeKeepaliveStop at h
    simp only [bind_ok] at h
    obtain ⟨-, -, h⟩ := h
    obtain ⟨hfile, rfl⟩ := once_on_file hf h
    exact .onFile out (.refl out) (.refl out) r hfile

end

/-! ## The batches -/

section

variable {cfg : Config} {w : PassWorld} {actor : ActorContext} {endpointId key : String}
  {targets : StartTargets} {b : Broker} {g u : String}

theorem cleanupSection_leads (targets : StartTargets) (b : Broker) :
    Leads (exec cfg) b (cleanupSection cfg w actor endpointId targets b).1 := by
  unfold cleanupSection
  split
  · exact .refl b
  dsimp only
  have hheard := leads_run cfg b w.duringCleanup
  split
  · have hlater := hheard.trans (.run _ w.afterCleanup)
    split
    · rename_i h
      exact hlater.trans (leads_apply (.finishKeepaliveCleanup w.cleanedAt actor endpointId
        (targets.map Prod.fst)) h)
    · exact hlater
  · exact hheard

/-- Without an error an answered cleanup has cleared its marks. -/
theorem cleanupSection_cleans (hg : g ∈ targets.map Prod.fst)
    (h : (cleanupSection cfg w actor endpointId targets b).2 = none)
    (ha : (w.cleanup.verified (resultByGpuUuid (targets.map Prod.snd) false)).isAnswer = true) :
    ¬ ((cleanupSection cfg w actor endpointId targets b).1.Registers endpointId g ∧
      (cleanupSection cfg w actor endpointId targets b).1.Marked g) := by
  unfold cleanupSection at h ⊢
  split at h
  · rename_i hnil
    rw [hnil] at hg
    cases hg
  rename_i hsome
  rw [if_neg hsome]
  dsimp only at h ⊢
  cases hv : w.cleanup.verified (resultByGpuUuid (targets.map Prod.snd) false) with
  | answered u =>
    rw [hv] at h
    dsimp only at h ⊢
    cases hfin : finishKeepaliveCleanup w.cleanedAt actor endpointId (targets.map Prod.fst)
        (run (exec cfg) (run (exec cfg) b w.duringCleanup) w.afterCleanup) with
    | ok r =>
      obtain ⟨b', resp⟩ := r
      exact cleaned hfin hg
    | error f =>
      rw [hfin] at h
      cases h
  | _ =>
    rw [hv] at ha
    cases ha

theorem startSection_leads (targets : StartTargets) (b : Broker) :
    Leads (exec cfg) b (startSection cfg w actor endpointId key targets b).1 := by
  unfold startSection
  split
  · exact .refl b
  dsimp only
  rcases startBatch_cases cfg w.start endpointId targets actor key b with
    ⟨-, identities, b', r, -, hok, he⟩ | ⟨-, code, he⟩
  · rw [he]
    exact (Leads.run b w.start.meanwhile).trans (leads_apply
      (.activateKeepalives w.start.confirmedAt actor endpointId (targets.map Prod.fst)
        w.start.notBefore (key ++ ":activate-batch") _ w.start.token) hok)
  · rw [he]
    have hreached : Leads (exec cfg) b (w.start.reached cfg targets b) := by
      unfold StartWorld.reached
      split
      · exact .run b _
      · exact .refl b
    have hsettled := hreached.trans (.run _ w.start.afterwards)
    unfold cleanupFailedStart
    dsimp only
    -- the error is recorded, unless that is refused too
    split
    · rename_i hset
      exact hsettled.trans (leads_apply (.setKeepaliveError w.start.recordedAt endpointId
        (targets.map Prod.fst) _ _) hset)
    · exact hsettled

/-- Without an error every card of the batch has its worker confirmed. -/
theorem startSection_confirms (hb : Reachable cfg b) (hg : (g, u) ∈ targets)
    (hu : ∀ u', (g, u') ∈ targets → u' = u)
    (h : (startSection cfg w actor endpointId key targets b).2 = none) :
    Confirmed cfg actor endpointId (key ++ ":activate-batch") w.start.notBefore w.start.attest b
      (startSection cfg w actor endpointId key targets b).1 g u := by
  unfold startSection at h ⊢
  split at h
  · rename_i hnil
    rw [hnil] at hg
    cases hg
  rename_i hsome
  rw [if_neg hsome]
  dsimp only at h ⊢
  rcases startBatch_cases cfg w.start endpointId targets actor key b with
    ⟨-, identities, b', r, ha, hok, he⟩ | ⟨-, code, he⟩
  · rw [he]
    have hheard := leads_run cfg b w.start.meanwhile
    exact (confirmed_of_activate (hb.leads hheard).kept ha hok hg hu).earlier hheard
  · rw [he] at h
    unfold cleanupFailedStart at h
    dsimp only at h
    split at h <;> cases h

variable (cfg w actor endpointId key) in
theorem recoverSection_cases (targets : StartTargets) (b : Broker) :
    (∃ b' r identities,
      w.recover.attest.verified (attestedIdentities (targets.map Prod.snd)) = .answered identities ∧
      activateKeepalives cfg w.recover.confirmedAt actor endpointId (targets.map Prod.fst)
        w.recover.notBefore (key ++ ":recover-batch")
        (some (confirmedIdentities targets identities)) w.recover.token
        (run (exec cfg) b w.recover.meanwhile) = .ok (b', r) ∧
      recoverSection cfg w actor endpointId key targets b = (b', none)) ∨
    ((recoverSection cfg w actor endpointId key targets b).2 ≠ none ∨ targets = []) ∧
      Leads (exec cfg) b (recoverSection cfg w actor endpointId key targets b).1 := by
  unfold recoverSection
  by_cases hnil : targets = []
  · rw [if_pos hnil]
    exact Or.inr ⟨Or.inr hnil, .refl b⟩
  rw [if_neg hnil]
  dsimp only
  -- without an answer that vouches for every card nothing is committed
  split
  · exact Or.inr ⟨Or.inl (Option.some_ne_none _), .refl b⟩
  · exact Or.inr ⟨Or.inl (Option.some_ne_none _), .refl b⟩
  · exact Or.inr ⟨Or.inl (Option.some_ne_none _), .refl b⟩
  · rename_i identities ha
    split
    · exact Or.inr ⟨Or.inl (Option.some_ne_none _), .run b _⟩
    split
    · exact Or.inr ⟨Or.inl (Option.some_ne_none _), .run b _⟩
    split
    · rename_i hok
      exact Or.inl ⟨_, _, identities, ha, hok, rfl⟩
    · exact Or.inr ⟨Or.inl (Option.some_ne_none _), .run b _⟩
    · exact Or.inr ⟨Or.inl (Option.some_ne_none _), .run b _⟩

theorem recoverSection_leads (targets : StartTargets) (b : Broker) :
    Leads (exec cfg) b (recoverSection cfg w actor endpointId key targets b).1 := by
  rcases recoverSection_cases cfg w actor endpointId key targets b with
    ⟨b', r, identities, -, hok, he⟩ | ⟨-, hl⟩
  · rw [he]
    exact (Leads.run b _).trans (leads_apply (.activateKeepalives w.recover.confirmedAt actor
      endpointId (targets.map Prod.fst) w.recover.notBefore (key ++ ":recover-batch")
      (some (confirmedIdentities targets identities)) w.recover.token) hok)
  · exact hl

theorem recoverSection_confirms (hb : Reachable cfg b) (hg : (g, u) ∈ targets)
    (hu : ∀ u', (g, u') ∈ targets → u' = u)
    (h : (recoverSection cfg w actor endpointId key targets b).2 = none) :
    Confirmed cfg actor endpointId (key ++ ":recover-batch") w.recover.notBefore w.recover.attest b
      (recoverSection cfg w actor endpointId key targets b).1 g u := by
  rcases recoverSection_cases cfg w actor endpointId key targets b with
    ⟨b', r, identities, ha, hok, he⟩ | ⟨hne | hnil, -⟩
  · rw [he]
    have hheard := leads_run cfg b w.recover.meanwhile
    exact (confirmed_of_activate (hb.leads hheard).kept ha hok hg hu).earlier hheard
  · exact absurd h hne
  · rw [hnil] at hg
    cases hg

end

/-! ## The stops -/

/-- What a step of the stops does to them: nothing is taken back. -/
structure Stopping.Grows (cfg : Config) (x y : Stopping) : Prop where
  leads : Leads (exec cfg) x.broker y.broker
  prepared : x.prepared ⊆ y.prepared
  failures : x.failures ⊆ y.failures
  raised : x.raised.isSome = true → y.raised.isSome = true

/-- How the stops stand: what is prepared was asked for, and a failure is one of a card that was. -/
structure Stopping.Sound (cfg : Config) (targets : List StopTarget) (b : Broker) (x : Stopping) :
    Prop where
  leads : Leads (exec cfg) b x.broker
  prepared : x.prepared ⊆ targets
  failures : ∀ f ∈ x.failures, ∃ t ∈ targets, t.gpuId = f.1

section

variable {cfg : Config} {w : PassWorld} {actor : ActorContext} {endpointId key : String}
  {targets : List StopTarget} {b : Broker} {x y : Stopping} {t : StopTarget}

theorem Stopping.Grows.refl (x : Stopping) : x.Grows cfg x :=
  ⟨.refl _, List.Subset.refl _, List.Subset.refl _, id⟩

theorem Stopping.Grows.trans {z : Stopping} (h : x.Grows cfg y) (h' : y.Grows cfg z) :
    x.Grows cfg z :=
  ⟨h.leads.trans h'.leads, List.Subset.trans h.prepared h'.prepared,
    List.Subset.trans h.failures h'.failures, fun hx => h'.raised (h.raised hx)⟩

theorem Stopping.fail_grows {s : Broker} (h : Leads (exec cfg) x.broker s) (code : String) :
    x.Grows cfg (x.fail s t code) :=
  ⟨h, List.Subset.refl _, List.subset_append_left _ _, id⟩

/-- A step that prepares nothing and fails only a target keeps the stops sound. -/
theorem Stopping.Sound.grow (hx : x.Sound cfg targets b) (hg : x.Grows cfg y)
    (hp : y.prepared = x.prepared)
    (hf : ∀ f ∈ y.failures, f ∈ x.failures ∨ ∃ t ∈ targets, t.gpuId = f.1) :
    y.Sound cfg targets b := by
  refine ⟨hx.leads.trans hg.leads, ?_, fun f hmem => (hf f hmem).elim (hx.failures f) id⟩
  rw [hp]
  exact hx.prepared

theorem Stopping.Sound.fail {s : Broker} (hx : x.Sound cfg targets b) (ht : t ∈ targets)
    (h : Leads (exec cfg) x.broker s) (code : String) : (x.fail s t code).Sound cfg targets b := by
  refine hx.grow (x.fail_grows h code) rfl fun f hf => ?_
  rcases List.mem_append.1 hf with hf | hf
  · exact Or.inl hf
  · obtain rfl := List.mem_singleton.1 hf
    exact Or.inr ⟨t, ht, rfl⟩

/-- The card's failure is on the list. -/
theorem Stopping.fail_named (s : Broker) (code : String) :
    t.gpuId ∈ (x.fail s t code).failures.map Prod.fst :=
  List.mem_map.2 ⟨(t.gpuId, code), List.mem_append.2 (Or.inr (List.mem_singleton_self _)), rfl⟩

/-- A lease that was found is the planned keeper, on the planned card. -/
theorem prepared_keeper {s : Broker} (hs : Reachable cfg s) {i g : String}
    (hK : s.KeeperOf i g ∨ s.ledger.endedAt i)
    (h : prepareKeepaliveStop actor endpointId g s = .ok (some i)) : s.KeeperOf i g := by
  refine hK.resolve_right fun ⟨k, hk, hdead⟩ => ?_
  unfold prepareKeepaliveStop at h
  simp only [bind_ok, need_ok, pure_ok] at h
  obtain ⟨-, -, e, -, u, -, d, hd, hlease⟩ := h
  obtain ⟨hd, -⟩ := Option.filter_eq_some_iff.1 hd
  rw [(row?_some hd).2] at hlease
  obtain ⟨l, hl, rfl⟩ := Option.map_eq_some_iff.1 hlease
  obtain ⟨hlease, hcard⟩ := activeLeaseForGpu_mem (Option.filter_eq_some_iff.1 hl).1
  -- an ended lease has no card left
  have hempty := (hs.kept.wellkept l.id k hk).empty hdead
  rw [← holding_cards hk, hempty] at hcard
  exact absurd hcard (Finset.notMem_empty g)

variable (cfg w actor endpointId) in
theorem prepareStop_grows (x : Stopping) (t : StopTarget) :
    x.Grows cfg (prepareStop cfg w actor endpointId x t) := by
  unfold prepareStop
  split
  · exact .refl x
  have hheard := leads_run cfg x.broker (w.stop t.gpuId).before
  dsimp only
  split
  · split
    · exact ⟨hheard, List.subset_append_left _ _, List.Subset.refl _, id⟩
    · exact x.fail_grows hheard _
  · exact x.fail_grows hheard _
  · exact ⟨hheard, List.Subset.refl _, List.Subset.refl _, fun _ => rfl⟩

theorem prepareStop_sound (hx : x.Sound cfg targets b) (ht : t ∈ targets) :
    (prepareStop cfg w actor endpointId x t).Sound cfg targets b := by
  have hheard := leads_run cfg x.broker (w.stop t.gpuId).before
  unfold prepareStop
  split
  · exact hx
  dsimp only
  split
  · split
    · exact ⟨hx.leads.trans hheard,
        List.append_subset.2 ⟨hx.prepared, List.cons_subset.2 ⟨ht, List.nil_subset _⟩⟩, hx.failures⟩
    · exact hx.fail ht hheard _
  · exact hx.fail ht hheard _
  · exact hx.grow ⟨hheard, List.Subset.refl _, List.Subset.refl _, fun _ => rfl⟩ rfl
      fun f hf => Or.inl hf

/-- A look prepares its target only where the planned keeper holds the card. -/
theorem prepareStop_keeper (hb : Reachable cfg b) (hx : Leads (exec cfg) b x.broker)
    (hK : b.KeeperOf t.leaseId t.gpuId ∨ b.ledger.endedAt t.leaseId) {t' : StopTarget}
    (ht' : t' ∈ (prepareStop cfg w actor endpointId x t).prepared) :
    t' ∈ x.prepared ∨ t' = t ∧
      (run (exec cfg) x.broker (w.stop t.gpuId).before).KeeperOf t.leaseId t.gpuId := by
  have hled := hx.trans (leads_run cfg x.broker (w.stop t.gpuId).before)
  unfold prepareStop at ht'
  split at ht'
  · exact Or.inl ht'
  dsimp only at ht'
  split at ht'
  · rename_i leaseId hok
    split at ht'
    · rename_i hlease
      rw [hlease] at hok
      rcases List.mem_append.1 ht' with ht' | ht'
      · exact Or.inl ht'
      · exact Or.inr ⟨List.mem_singleton.1 ht',
          prepared_keeper (hb.leads hled) (keeper_or_ended hb hK hled) hok⟩
    · exact Or.inl ht'
  · exact Or.inl ht'
  · exact Or.inl ht'

/-- A look at a lease ends in one of three ways. -/
theorem prepareStop_turn (x : Stopping) (t : StopTarget) :
    (prepareStop cfg w actor endpointId x t).raised.isSome = true ∨
      t.gpuId ∈ (prepareStop cfg w actor endpointId x t).failures.map Prod.fst ∨
      t ∈ (prepareStop cfg w actor endpointId x t).prepared := by
  unfold prepareStop
  split
  · rename_i hraised
    exact Or.inl hraised
  dsimp only
  split
  · split
    · exact Or.inr (Or.inr (List.mem_append.2 (Or.inr (List.mem_singleton_self t))))
    · exact Or.inr (Or.inl (Stopping.fail_named _ _))
  · exact Or.inr (Or.inl (Stopping.fail_named _ _))
  · exact Or.inl rfl

variable (cfg w actor endpointId key) in
theorem stopOne_grows (x : Stopping) (t : StopTarget) :
    x.Grows cfg (stopOne cfg w actor endpointId key x t) := by
  unfold stopOne
  split
  · exact .refl x
  have hheard := leads_run cfg x.broker (w.stop t.gpuId).meanwhile
  dsimp only
  split
  · exact x.fail_grows hheard _
  split
  · rename_i hok
    exact ⟨hheard.trans (leads_apply (.finalizeKeepaliveStop _ actor endpointId t.leaseId _
      (some (key ++ ":stop:" ++ t.gpuId))) hok), List.Subset.refl _, List.Subset.refl _, id⟩
  · exact x.fail_grows hheard _
  · exact ⟨hheard, List.Subset.refl _, List.Subset.refl _, fun _ => rfl⟩

theorem stopOne_sound (hx : x.Sound cfg targets b) (ht : t ∈ targets) :
    (stopOne cfg w actor endpointId key x t).Sound cfg targets b := by
  refine hx.grow (stopOne_grows cfg w actor endpointId key x t) ?_ fun f hf => ?_
  · unfold stopOne Stopping.fail
    dsimp only
    repeat' split
    all_goals rfl
  · have hfail : ∀ (s : Broker) code, f ∈ (x.fail s t code).failures →
        f ∈ x.failures ∨ ∃ t ∈ targets, t.gpuId = f.1 := by
      intro s code hf
      rcases List.mem_append.1 hf with hf | hf
      · exact Or.inl hf
      · obtain rfl := List.mem_singleton.1 hf
        exact Or.inr ⟨t, ht, rfl⟩
    unfold stopOne at hf
    dsimp only at hf
    repeat' split at hf
    all_goals first | exact Or.inl hf | exact hfail _ _ hf

/-- A stop ends in one of three ways. -/
theorem stopOne_turn (hb : Reachable cfg b) (hx : Leads (exec cfg) b x.broker)
    (hK : b.KeeperOf t.leaseId t.gpuId ∨ b.ledger.endedAt t.leaseId) :
    (stopOne cfg w actor endpointId key x t).raised.isSome = true ∨
      t.gpuId ∈ (stopOne cfg w actor endpointId key x t).failures.map Prod.fst ∨
      Stopped cfg actor endpointId (key ++ ":stop:" ++ t.gpuId) (w.stop t.gpuId).notBefore b
        (stopOne cfg w actor endpointId key x t).broker t.leaseId t.gpuId := by
  have hled := hx.trans (.run _ (w.stop t.gpuId).meanwhile)
  unfold stopOne
  split
  · rename_i hraised
    exact Or.inl hraised
  dsimp only
  -- a card that was not collected has failed, whatever the helper said of it
  split
  · exact Or.inr (Or.inl (Stopping.fail_named _ _))
  split
  · rename_i hok
    exact Or.inr (Or.inr ((stopped_of_finalize (hb.leads hled) (keeper_or_ended hb hK hled)
      hok).earlier hled))
  · exact Or.inr (Or.inl (Stopping.fail_named _ _))
  · exact Or.inl rfl

theorem lookUpStops_leads (targets : List StopTarget) (b : Broker) :
    Leads (exec cfg) b (lookUpStops cfg w actor endpointId targets b).broker :=
  foldl_leads Stopping.broker (fun x t => (prepareStop_grows cfg w actor endpointId x t).leads)
    targets { broker := b }

/-- **What is prepared** had its turn, and the planned keeper held the card then. -/
theorem lookUpStops_keeper (hb : Reachable cfg b) (targets : List StopTarget)
    (hK : ∀ t ∈ targets, b.KeeperOf t.leaseId t.gpuId ∨ b.ledger.endedAt t.leaseId)
    (ht : t ∈ (lookUpStops cfg w actor endpointId targets b).prepared) :
    ∃ done rest, targets = done ++ t :: rest ∧
      (run (exec cfg) (lookUpStops cfg w actor endpointId done b).broker
        (w.stop t.gpuId).before).KeeperOf t.leaseId t.gpuId := by
  induction targets using List.reverseRecOn with
  | nil => cases ht
  | append_singleton done t' ih =>
    have hfold : lookUpStops cfg w actor endpointId (done ++ [t']) b =
        prepareStop cfg w actor endpointId (lookUpStops cfg w actor endpointId done b) t' := by
      unfold lookUpStops
      rw [List.foldl_append]
      rfl
    rw [hfold] at ht
    rcases prepareStop_keeper hb (lookUpStops_leads done b)
      (hK t' (List.mem_append_right _ (List.mem_singleton_self t'))) ht with ht | ⟨rfl, hkeeper⟩
    · obtain ⟨done', rest, rfl, hkeeper⟩ := ih (fun t ht => hK t (List.mem_append_left _ ht)) ht
      exact ⟨done', rest ++ [t'], List.append_assoc _ _ _, hkeeper⟩
    · exact ⟨done, [], rfl, hkeeper⟩

variable (cfg w actor endpointId) in
/-- Looking the leases up. -/
theorem lookUpStops_spec (targets : List StopTarget) (b : Broker) :
    (lookUpStops cfg w actor endpointId targets b).Sound cfg targets b ∧
      ∀ t ∈ targets, (lookUpStops cfg w actor endpointId targets b).raised.isSome = true ∨
        t.gpuId ∈ (lookUpStops cfg w actor endpointId targets b).failures.map Prod.fst ∨
        t ∈ (lookUpStops cfg w actor endpointId targets b).prepared := by
  refine foldl_settles (I := fun x => x.Sound cfg targets b)
    (Q := fun x t => x.raised.isSome = true ∨ t.gpuId ∈ x.failures.map Prod.fst ∨ t ∈ x.prepared)
    (fun x t ht hx => prepareStop_sound hx ht) ?_
    (fun x t _ _ => prepareStop_turn x t) ?_
  · intro x t t' _ hturn
    have hg := prepareStop_grows cfg w actor endpointId x t
    exact hturn.imp hg.raised (Or.imp (fun h => List.map_subset _ hg.failures h)
      fun h => hg.prepared h)
  · exact ⟨.refl b, List.nil_subset targets, fun f hf => absurd hf List.not_mem_nil⟩

variable (w actor endpointId key) in
/-- **The stops.** Unless a fault was raised, every card that was planned is one whose failure the
answer names, or its keeper was stopped; and the answer names no other card. -/
theorem stopEach_spec (hb : Reachable cfg b)
    (hK : ∀ t ∈ targets, b.KeeperOf t.leaseId t.gpuId ∨ b.ledger.endedAt t.leaseId) :
    let x := stopEach cfg w actor endpointId key (lookUpStops cfg w actor endpointId targets b)
    x.Sound cfg targets b ∧ ∀ t ∈ targets, x.raised.isSome = true ∨
      t.gpuId ∈ x.failures.map Prod.fst ∨
      Stopped cfg actor endpointId (key ++ ":stop:" ++ t.gpuId) (w.stop t.gpuId).notBefore b
        x.broker t.leaseId t.gpuId := by
  obtain ⟨hlooked, hturns⟩ := lookUpStops_spec cfg w actor endpointId targets b
  set looked := lookUpStops cfg w actor endpointId targets b
  -- what a card gets at its turn: the rest of the pass takes none of it back
  set got : Stopping → StopTarget → Prop := fun x t => x.raised.isSome = true ∨
    t.gpuId ∈ x.failures.map Prod.fst ∨ Stopped cfg actor endpointId (key ++ ":stop:" ++ t.gpuId)
      (w.stop t.gpuId).notBefore b x.broker t.leaseId t.gpuId
  have hkeep : ∀ x t t', x.Sound cfg targets b ∧ looked.Grows cfg x → got x t' →
      got (stopOne cfg w actor endpointId key x t) t' := by
    intro x t t' hx hturn
    have hg := stopOne_grows cfg w actor endpointId key x t
    exact hturn.imp hg.raised (Or.imp (fun h => List.map_subset _ hg.failures h)
      fun h => h.later (hb.leads hx.1.leads).kept hg.leads)
  have hstep : ∀ x, ∀ t ∈ looked.prepared, x.Sound cfg targets b ∧ looked.Grows cfg x →
      (stopOne cfg w actor endpointId key x t).Sound cfg targets b ∧
        looked.Grows cfg (stopOne cfg w actor endpointId key x t) := by
    intro x t ht hx
    exact ⟨stopOne_sound hx.1 (hlooked.prepared ht),
      hx.2.trans (stopOne_grows cfg w actor endpointId key x t)⟩
  have hturn : ∀ x, ∀ t ∈ looked.prepared, x.Sound cfg targets b ∧ looked.Grows cfg x →
      got (stopOne cfg w actor endpointId key x t) t := by
    intro x t ht hx
    exact stopOne_turn hb hx.1.leads (hK t (hlooked.prepared ht))
  obtain ⟨⟨hsound, hgrown⟩, hstops⟩ :=
    foldl_settles hstep hkeep hturn (t := looked) ⟨hlooked, .refl looked⟩
  refine ⟨hsound, fun t ht => ?_⟩
  rcases hturns t ht with hraised | hfailed | hprepared
  · exact Or.inl (hgrown.raised hraised)
  · exact Or.inr (Or.inl (List.map_subset _ hgrown.failures hfailed))
  · exact hstops t hprepared

theorem stopSection_leads (targets : List StopTarget) (b : Broker) :
    Leads (exec cfg) b (stopSection cfg w actor endpointId key targets b).1 := by
  exact (lookUpStops_leads targets b).trans (foldl_leads Stopping.broker
    (fun x t => (stopOne_grows cfg w actor endpointId key x t).leads) _ _)

/-- Without an error every keeper was stopped. -/
theorem stopSection_stops (hb : Reachable cfg b)
    (hK : ∀ t ∈ targets, b.KeeperOf t.leaseId t.gpuId ∨ b.ledger.endedAt t.leaseId)
    (h : (stopSection cfg w actor endpointId key targets b).2 = none) (ht : t ∈ targets) :
    Stopped cfg actor endpointId (key ++ ":stop:" ++ t.gpuId) (w.stop t.gpuId).notBefore b
      (stopSection cfg w actor endpointId key targets b).1 t.leaseId t.gpuId := by
  have hspec := (stopEach_spec w actor endpointId key hb hK).2 t ht
  unfold stopSection at h ⊢
  dsimp only at h ⊢
  rw [Option.or_eq_none_iff] at h
  obtain ⟨hraised, hfailures⟩ := h
  rcases hspec with hsome | hnamed | hstopped
  · rw [hraised] at hsome
    cases hsome
  · split at hfailures
    · rename_i hnil
      rw [hnil] at hnamed
      cases hnamed
    · cases hfailures
  · exact hstopped

end

/-! ## The whole pass -/

section

variable {cfg : Config} {w : PassWorld} {actor : ActorContext} {endpointId key : String}
  {plan : List Transition} {b : Broker} {x : Section} {f : Broker → Section}

theorem Section.andThen_leads (hx : Leads (exec cfg) b x.1)
    (hf : ∀ s, Leads (exec cfg) s (f s).1) : Leads (exec cfg) b (x.andThen f).1 := by
  obtain ⟨s, _ | fault⟩ := x
  · exact hx.trans (hf s)
  · exact hx

theorem Section.andThen_none (h : (x.andThen f).2 = none) : x.2 = none ∧ x.andThen f = f x.1 := by
  obtain ⟨s, _ | fault⟩ := x
  · exact ⟨rfl, rfl⟩
  · cases h

theorem carryOut_leads (plan : List Transition) (b : Broker) :
    Leads (exec cfg) b (carryOut cfg w actor endpointId key plan b).1 :=
  Section.andThen_leads (Section.andThen_leads (Section.andThen_leads (cleanupSection_leads _ b)
    (startSection_leads _)) (recoverSection_leads _)) (stopSection_leads _)

/-- **Without an error the whole plan is carried out.** -/
theorem carryOut_carries (hb : Reachable cfg b)
    (hK : ∀ t ∈ stopsOf plan, b.KeeperOf t.leaseId t.gpuId)
    (hu : ∀ t, t ∈ startsOf plan ∨ t ∈ recoversOf plan → t.2 = b.plant.uuidOf t.1)
    (h : (carryOut cfg w actor endpointId key plan b).2 = none) {t : Transition} (ht : t ∈ plan) :
    Carried cfg w actor endpointId key plan b (carryOut cfg w actor endpointId key plan b).1 t := by
  unfold carryOut at h ⊢
  -- section by section, from the last
  obtain ⟨h₃, hout⟩ := Section.andThen_none h
  rw [hout] at h ⊢
  obtain ⟨h₂, hrecovered⟩ := Section.andThen_none h₃
  rw [hrecovered] at h h₃ ⊢
  obtain ⟨h₁, hstarted⟩ := Section.andThen_none h₂
  rw [hstarted] at h h₃ h₂ ⊢
  set s₁ := (cleanupSection cfg w actor endpointId (cleanupsOf plan) b).1 with hs₁
  set s₂ := (startSection cfg w actor endpointId key (startsOf plan) s₁).1 with hs₂
  set s₃ := (recoverSection cfg w actor endpointId key (recoversOf plan) s₂).1 with hs₃
  set out := (stopSection cfg w actor endpointId key (stopsOf plan) s₃).1 with hs₄
  have hl₁ : Leads (exec cfg) b s₁ := cleanupSection_leads _ b
  have hl₂ : Leads (exec cfg) s₁ s₂ := startSection_leads _ s₁
  have hl₃ : Leads (exec cfg) s₂ s₃ := recoverSection_leads _ s₂
  have hl₄ : Leads (exec cfg) s₃ out := stopSection_leads _ s₃
  have hb₁ := hb.leads hl₁
  have hb₂ := hb₁.leads hl₂
  have hb₃ := hb₂.leads hl₃
  cases t with
  | cleanup g u =>
    have hmem : (g, u) ∈ cleanupsOf plan := List.mem_filterMap.2 ⟨_, ht, rfl⟩
    refine .cleanup g u fun ha => ⟨s₁, hl₁, hl₂.trans (hl₃.trans hl₄), ?_⟩
    exact cleanupSection_cleans (List.mem_map_of_mem hmem) h₁ ha
  | start g u =>
    have hmem : (g, u) ∈ startsOf plan := List.mem_filterMap.2 ⟨_, ht, rfl⟩
    have hone : ∀ u', (g, u') ∈ startsOf plan → u' = u := fun u' hmem' =>
      (hu _ (Or.inl hmem')).trans (hu _ (Or.inl hmem)).symm
    have hc := startSection_confirms hb₁ hmem hone h₂
    exact .start g u ((hc.later (hl₃.trans hl₄)).earlier hl₁)
  | recover g u =>
    have hmem : (g, u) ∈ recoversOf plan := List.mem_filterMap.2 ⟨_, ht, rfl⟩
    have hone : ∀ u', (g, u') ∈ recoversOf plan → u' = u := fun u' hmem' =>
      (hu _ (Or.inr hmem')).trans (hu _ (Or.inr hmem)).symm
    have hc := recoverSection_confirms hb₂ hmem hone h₃
    exact .recover g u ((hc.later hl₄).earlier (hl₁.trans hl₂))
  | stop g u i =>
    have hmem : (⟨g, u, i⟩ : StopTarget) ∈ stopsOf plan := List.mem_filterMap.2 ⟨_, ht, rfl⟩
    have hled := hl₁.trans (hl₂.trans hl₃)
    have hs := stopSection_stops hb₃
      (fun t ht => keeper_or_ended hb (Or.inl (hK t ht)) hled) h hmem
    exact .stop g u i (hs.earlier hled)
  | ineligible g u state reason => exact .ineligible g u state reason

/-- A planned stop is of a keeper and its card. -/
theorem planned_keeper (hk : Kept b) {cooldown now : Time} {e : Endpoint} {t : StopTarget}
    (ht : t ∈ stopsOf (b.keepaliveTransitions cfg cooldown now e)) :
    b.KeeperOf t.leaseId t.gpuId := by
  obtain ⟨x, hx, hentry⟩ := List.mem_filterMap.1 ht
  have hjust := plan_justified hk hx
  cases x <;> cases hentry
  cases hjust with
  | stop _ _ _ hK => exact hK

/-- A planned start or recovery is under the UUID of its card. -/
theorem planned_uuid (hk : Kept b) {cooldown now : Time} {e : Endpoint} {t : String × String}
    (ht : t ∈ startsOf (b.keepaliveTransitions cfg cooldown now e) ∨
      t ∈ recoversOf (b.keepaliveTransitions cfg cooldown now e)) :
    t.2 = b.plant.uuidOf t.1 := by
  have hcard : ∀ d ∈ b.plant.cardsOf e.id, d.gpuUuid = b.plant.uuidOf d.id := by
    intro d hd
    obtain ⟨hd, -⟩ := List.mem_filter.1 ((List.mem_insertionSort _).1 hd)
    have hrow : b.plant.gpu? d.id = some d := row?_of_mem hk.intact.gpuPk hd
    unfold Plant.uuidOf
    rw [hrow]
    rfl
  rcases ht with ht | ht
  · obtain ⟨x, hx, hentry⟩ := List.mem_filterMap.1 ht
    have hjust := plan_justified hk hx
    cases x <;> cases hentry
    cases hjust with
    | start d hd => exact hcard d hd
    | restart d _ hd => exact hcard d hd
  · obtain ⟨x, hx, hentry⟩ := List.mem_filterMap.1 ht
    have hjust := plan_justified hk hx
    cases x <;> cases hentry
    cases hjust with
    | recover d _ _ hd => exact hcard d hd

end

/-! ## Turning keepalive off -/

/-- Keepalive of the server is turned off, its one keeper's card is stopped, and the next look at it
shows it empty. -/
def turnOff : PassWorld where
  resolves _ := true
  beforePlan := [.configureKeepalivePolicy (seconds 25) (sampleActor "ann") "alpha" .disabled "off"]
  plannedAt := seconds 26
  cleanup := .failed
  cleanedAt := seconds 26
  start := { start := .failed, attest := .failed, stop := .failed, notBefore := 0, confirmedAt := 0
             recordedAt := 0, token := id }
  recover := { attest := .failed, notBefore := 0, confirmedAt := 0, token := id }
  stop _ := { reply := .answered [⟨"GPU-0", "stopped"⟩]
              meanwhile := [.ingestObservation (seconds 40)
                (lookAtOne "alpha" "GPU-0" (seconds 40) []) sampleToken]
              notBefore := seconds 30, finalizedAt := seconds 41 }

end ServerPilot
