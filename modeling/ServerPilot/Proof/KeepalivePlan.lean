import ServerPilot.Spec.KeepalivePass
import ServerPilot.Proof.Derived
import ServerPilot.Proof.Evidence

/-!
# What the planner asks for

* `plan_cards`: a card has at most one entry that asks for work.
* `plan_justified`: what each entry rests on. No entry asks for work on a workload's card, a worker
  is started only where nothing else runs, and only unknown processes are to be attested.
* `plan_leaves`: a card without an entry needs none.
* `plan_sound`: all of it, in every state a run reaches.
-/

namespace ServerPilot

open Rows Checked

/-- The lease has an active row of the card. -/
def Ledger.Owns (l : Ledger) (x : Lease) (g : String) : Prop :=
  l.lease? x.id = some x ∧ ∃ r ∈ l.cards x.id, r.gpuId = g

/-- Every process on the card is the worker that was confirmed there. -/
def Plant.OnlyWorker (p : Plant) (g : String) : Prop :=
  ∀ x ∈ p.currentProcesses g, (p.keepalive? g).bind KeepaliveCurrent.expectedKey = some x.key

/-- The card's worker was confirmed, and is not in error. -/
def Plant.Confirmed (p : Plant) (g : String) : Prop :=
  p.OnlyWorker g ∧ ∃ k, p.keepalive? g = some k ∧ k.actual ≠ .error

/-- Nothing holds the card and nothing runs on it; it is there, read of late and healthy, admitted
by the broker itself, and no workload gave it back within the cooldown. -/
structure Broker.Free (cfg : Config) (cooldown now : Time) (b : Broker) (g : GPUDevice) : Prop where
  unowned : ∀ x, ¬ b.ledger.Owns x g.id
  idle : b.plant.currentProcesses g.id = []
  present : g.present = true
  reading : ∃ t, b.plant.telemetry? g.id = some t ∧ now - t.observedAt ≤ cfg.staleAfter ∧
    healthy t.health = true ∧ healthy g.health = true
  direct : b.plant.schedulerManaged cfg g.endpointId = false
  cooled : 0 < cooldown → ∀ r ∈ b.ledger.resources, r.gpuId = g.id →
    (b.ledger.lease? r.leaseId).any (fun x => x.kind = .workload) = true →
      ∀ t, r.releasedAt = some t → cooldown ≤ now - t

/-- What an entry of the plan rests on. -/
inductive Broker.Justifies (cfg : Config) (cooldown now : Time) (b : Broker) (e : Endpoint) :
    Transition → Prop
  | stop (i g : String) (hpolicy : e.keepalivePolicy = .disabled) (hk : b.KeeperOf i g) :
    Justifies cfg cooldown now b e (.stop g (b.plant.uuidOf g) i)
  | cleanup (g : GPUDevice) (hg : g ∈ b.plant.cardsOf e.id)
    (hmark : (b.plant.keepalive? g.id).any (fun k => k.cleanupPending) = true)
    (hfree : ∀ x, b.ledger.Owns x g.id → x.kind ≠ .keepalive) :
    Justifies cfg cooldown now b e (.cleanup g.id (b.plant.uuidOf g.id))
  | start (g : GPUDevice) (hg : g ∈ b.plant.cardsOf e.id)
    (hidle : e.keepalivePolicy = .idleKeepalive)
    (hfree : b.Free cfg cooldown now g) : Justifies cfg cooldown now b e (.start g.id g.gpuUuid)
  | restart (g : GPUDevice) (x : Lease) (hg : g ∈ b.plant.cardsOf e.id)
    (hidle : e.keepalivePolicy = .idleKeepalive) (hx : b.ledger.Owns x g.id)
    (hkind : x.kind = .keepalive)
    (hdown : x.state ≠ .active ∨ b.plant.currentProcesses g.id = [])
    (hknown : b.plant.OnlyWorker g.id) : Justifies cfg cooldown now b e (.start g.id g.gpuUuid)
  | recover (g : GPUDevice) (x : Lease) (p : ProcessObservation) (hg : g ∈ b.plant.cardsOf e.id)
    (hidle : e.keepalivePolicy = .idleKeepalive) (hx : b.ledger.Owns x g.id)
    (hkind : x.kind = .keepalive) (hone : b.plant.currentProcesses g.id = [p])
    (hnew : ¬ b.plant.Confirmed g.id) : Justifies cfg cooldown now b e (.recover g.id g.gpuUuid)
  | ineligible (g : GPUDevice) (hg : g ∈ b.plant.cardsOf e.id) (state : Option GpuState)
    (reason : String) : Justifies cfg cooldown now b e (.ineligible g.id g.gpuUuid state reason)

/-- Why a card has no entry: a workload has it, its keeper is at work, or its reading is bad and
says nothing of it. -/
inductive Broker.Leaves (b : Broker) (g : GPUDevice) : Prop
  | work (x : Lease) (hx : b.ledger.Owns x g.id) (hkind : x.kind = .workload)
  | kept (x : Lease) (hx : b.ledger.Owns x g.id) (hkind : x.kind = .keepalive)
    (hactive : x.state = .active) (hruns : b.plant.currentProcesses g.id ≠ [])
    (hconfirmed : b.plant.Confirmed g.id)
  | silent (t : TelemetryCurrent) (ht : b.plant.telemetry? g.id = some t) (hempty : t.health = "")

section

variable {cfg : Config} {cooldown now : Time} {b : Broker} {e : Endpoint} {g : GPUDevice}

/-! ## Who holds a card -/

theorem owner_iff (hk : Kept b) {x : Lease} {c : String} :
    b.ledger.activeLeaseForGpu c = some x ↔ b.ledger.Owns x c := by
  constructor
  · intro h
    obtain ⟨hx, hmem⟩ := activeLeaseForGpu_mem h
    exact ⟨hx, mem_cardSet.1 hmem⟩
  · rintro ⟨hx, r, hr, rfl⟩
    obtain ⟨hrow, hid, hactive⟩ := mem_cards.1 hr
    rw [hk.activeLeaseForGpu_of_row hrow hactive, hid, hx]

theorem unowned_iff (hk : Kept b) {c : String} :
    b.ledger.activeLeaseForGpu c = none ↔ ∀ x, ¬ b.ledger.Owns x c := by
  constructor
  · intro h x hx
    rw [(owner_iff hk).2 hx] at h
    cases h
  · intro h
    cases hx : b.ledger.activeLeaseForGpu c with
    | none => rfl
    | some x => exact absurd ((owner_iff hk).1 hx) (h x)

/-- A keeper that holds a card of the server is one of its keepers. -/
theorem mem_keepersOn (hk : Kept b) (hg : g ∈ b.plant.cardsOf e.id) {x : Lease}
    (hx : b.ledger.Owns x g.id) (hkind : x.kind = .keepalive) : x ∈ b.keepersOn e.id := by
  obtain ⟨hlease, r, hr, hid⟩ := hx
  obtain ⟨hmem, hon⟩ := List.mem_filter.1 ((List.mem_insertionSort _).1 hg)
  obtain ⟨hrow, hleaseId, hactive⟩ := mem_cards.1 hr
  obtain ⟨y, hy, hlive⟩ := hk.lease_of_active hrow hactive
  rw [hleaseId, hlease] at hy
  cases hy
  have hgpu : b.plant.gpu? r.gpuId = some g := by
    rw [hid]
    exact row?_of_mem hk.intact.gpuPk hmem
  have hholds : b.holdsOn x.id e.id = true := by
    refine List.any_eq_true.2 ⟨r, hr, ?_⟩
    rw [hgpu]
    exact hon
  refine List.mem_filter.2 ⟨lease?_mem hlease, ?_⟩
  rw [hkind, hlive, hholds]
  rfl

/-! ## The stops and the cleanups -/

theorem mem_plannedStops (hk : Kept b) {i c : String} :
    (i, c) ∈ b.plannedStops e ↔
      e.keepalivePolicy = .disabled ∧ b.KeeperOf i c ∧ b.plant.endpointOf c = e.id := by
  unfold Broker.plannedStops
  by_cases hpolicy : e.keepalivePolicy = .disabled
  swap
  · rw [if_neg hpolicy]
    simp [hpolicy]
  rw [if_pos hpolicy, List.mem_filterMap]
  constructor
  · rintro ⟨x, hx, hentry⟩
    obtain ⟨hmem, hkeeper⟩ := List.mem_filter.1 hx
    simp only [Bool.and_eq_true, decide_eq_true_eq] at hkeeper
    have hlease : b.ledger.lease? x.id = some x := row?_of_mem hk.intact.leasePk hmem
    split at hentry
    · rename_i r hcards
      split at hentry
      · rename_i hon
        cases hentry
        exact ⟨hpolicy, ⟨⟨x, hlease, hkeeper.1.1, hkeeper.1.2⟩, by rw [hcards]; rfl⟩, hon⟩
      · cases hentry
    · cases hentry
  · rintro ⟨-, hkeeper, hon⟩
    obtain ⟨x, hx, hkind, hlive⟩ := hkeeper.lease
    have hid : x.id = i := lease?_id hx
    obtain ⟨r, hcards, hr⟩ : ∃ r, b.ledger.cards i = [r] ∧ r.gpuId = c := by
      have hone := hkeeper.cards
      rcases hc : b.ledger.cards i with _ | ⟨r, _ | ⟨r', rest⟩⟩
      · rw [hc] at hone
        cases hone
      · rw [hc] at hone
        cases hone
        exact ⟨r, rfl, rfl⟩
      · rw [hc] at hone
        cases hone
    have hmem : r ∈ b.ledger.cards i := by rw [hcards]; exact List.mem_singleton_self r
    obtain ⟨d, hd⟩ : ∃ d, b.plant.gpu? c = some d := by
      have href := hk.intact.resourceGpu r (mem_cards.1 hmem).1
      rw [hr] at href
      obtain ⟨d, hd, hid⟩ := List.mem_map.1 href
      exact ⟨d, by rw [← hid]; exact row?_of_mem hk.intact.gpuPk hd⟩
    refine ⟨x, List.mem_filter.2 ⟨lease?_mem hx, ?_⟩, ?_⟩
    · have hholds : b.holdsOn x.id e.id = true := by
        refine List.any_eq_true.2 ⟨r, by rw [hid]; exact hmem, ?_⟩
        unfold Plant.endpointOf at hon
        rw [hd] at hon
        rw [hr, hd]
        exact decide_eq_true hon
      rw [hkind, hlive, hholds]
      rfl
    · rw [hid, hcards]
      simp only
      rw [hr, if_pos hon]

theorem mem_plannedCleanups (hk : Kept b) {c : String} (h : c ∈ b.plannedCleanups e) :
    ∃ g ∈ b.plant.cardsOf e.id, g.id = c ∧
      (b.plant.keepalive? c).any (fun k => k.cleanupPending) = true ∧
      ∀ x, b.ledger.Owns x c → x.kind ≠ .keepalive := by
  unfold Broker.plannedCleanups at h
  simp only at h
  split at h
  · cases h
  obtain ⟨hmem, hmark⟩ := List.mem_filter.1 h
  obtain ⟨g, hg, rfl⟩ := List.mem_map.1 hmem
  simp only [Bool.and_eq_true, decide_eq_true_eq] at hmark
  refine ⟨g, hg, rfl, hmark.1, fun x hx hkind => hmark.2 ?_⟩
  obtain ⟨-, r, hr, hid⟩ := id hx
  exact List.mem_flatMap.2 ⟨x, mem_keepersOn hk hg hx hkind, List.mem_map.2 ⟨r, hr, hid⟩⟩

/-! ## The cards under idle keepalive -/

/-- Nothing is to be confirmed where the card is empty, or its one known worker runs. -/
theorem needsConfirmation_eq_false {c : String} :
    b.needsConfirmation c = false ↔
      b.plant.currentProcesses c = [] ∨ b.plant.Confirmed c := by
  unfold Broker.needsConfirmation Plant.Confirmed Plant.OnlyWorker
  simp only
  cases hps : b.plant.currentProcesses c with
  | nil => simp
  | cons x xs =>
    cases hcur : b.plant.keepalive? c with
    | none => simp
    | some k =>
      simp only [List.isEmpty_cons, Bool.not_false, Bool.true_and, Option.all_some,
        Option.bind_some, Bool.or_eq_false_iff, decide_eq_false_iff_not, Option.isNone_eq_false_iff,
        Bool.not_eq_false', List.all_eq_true, decide_eq_true_eq, reduceCtorEq, false_or,
        Option.some.injEq, exists_eq_left']
      constructor
      · rintro ⟨⟨herror, -⟩, hall⟩
        exact ⟨fun y hy => (hall y hy).symm, herror⟩
      · rintro ⟨hall, herror⟩
        refine ⟨⟨herror, ?_⟩, fun y hy => (hall y hy).symm⟩
        rw [hall x List.mem_cons_self]
        rfl

theorem leasedTransition_justified (hk : Kept b) (hg : g ∈ b.plant.cardsOf e.id)
    (hidle : e.keepalivePolicy = .idleKeepalive) {x : Lease}
    (hx : b.ledger.activeLeaseForGpu g.id = some x) {t : Transition}
    (h : b.leasedTransition g x = some t) : b.Justifies cfg cooldown now e t := by
  have howns : b.ledger.Owns x g.id := (owner_iff hk).1 hx
  unfold Broker.leasedTransition at h
  simp only at h
  by_cases hkind : x.kind = .keepalive
  swap
  · rw [if_pos hkind] at h
    cases h
  rw [if_neg (not_not.2 hkind)] at h
  cases hneeds : b.needsConfirmation g.id with
  | true =>
    rw [hneeds, if_pos rfl] at h
    have hnot : ¬ (b.plant.currentProcesses g.id = [] ∨ b.plant.Confirmed g.id) := by
      rw [← needsConfirmation_eq_false, hneeds]
      exact Bool.noConfusion
    split at h
    · rename_i hlen
      obtain ⟨p, hp⟩ := List.length_eq_one_iff.1 hlen
      cases h
      exact .recover g x p hg hidle howns hkind hp fun hconfirmed => hnot (Or.inr hconfirmed)
    · cases h
      exact .ineligible g hg _ _
  | false =>
    rw [hneeds, if_neg Bool.false_ne_true] at h
    split at h
    · rename_i hdown
      cases h
      refine .restart g x hg hidle howns hkind hdown ?_
      rcases needsConfirmation_eq_false.1 hneeds with hnone | hconfirmed
      · intro p hp
        rw [hnone] at hp
        cases hp
      · exact hconfirmed.1
    · cases h

/-- A leased card without an entry is a workload's, or its keeper is at work. -/
theorem leasedTransition_none (hk : Kept b) {x : Lease}
    (hx : b.ledger.activeLeaseForGpu g.id = some x) (h : b.leasedTransition g x = none) :
    b.Leaves g := by
  have howns : b.ledger.Owns x g.id := (owner_iff hk).1 hx
  unfold Broker.leasedTransition at h
  simp only at h
  by_cases hkind : x.kind = .keepalive
  swap
  · refine .work x howns ?_
    cases hkind' : x.kind with
    | workload => rfl
    | keepalive => exact absurd hkind' hkind
  rw [if_neg (not_not.2 hkind)] at h
  cases hneeds : b.needsConfirmation g.id with
  | true =>
    rw [hneeds, if_pos rfl] at h
    split at h <;> cases h
  | false =>
    rw [hneeds, if_neg Bool.false_ne_true] at h
    split at h
    · cases h
    · rename_i hup
      rw [not_or, not_not] at hup
      exact .kept x howns hkind hup.1 hup.2
        ((needsConfirmation_eq_false.1 hneeds).resolve_left hup.2)

variable (cfg now) in
/-- What the state of a card no lease is on says of it. -/
theorem gpuState_unleased (h : b.ledger.activeLeaseForGpu g.id = none) :
    ((b.gpuState cfg now g).1 = .available ∧ b.plant.currentProcesses g.id = [] ∧
        g.present = true ∧ b.plant.schedulerManaged cfg g.endpointId = false ∧
        ∃ t, b.plant.telemetry? g.id = some t ∧ now - t.observedAt ≤ cfg.staleAfter ∧
          healthy t.health = true ∧ healthy g.health = true) ∨
      ∃ state reason, b.gpuState cfg now g = (state, some reason) ∧ state ≠ .available ∧
        (reason = "" → ∃ t, b.plant.telemetry? g.id = some t ∧ t.health = "") := by
  unfold Broker.gpuState
  cases hn : b.plant.nodeObservationError g with
  | some error =>
    refine Or.inr ⟨_, error, rfl, GpuState.noConfusion, fun hempty => absurd hempty ?_⟩
    unfold Plant.nodeObservationError at hn
    simp only [Option.bind_eq_some_iff] at hn
    obtain ⟨s, -, code, -, hcode⟩ := hn
    split at hcode
    · cases hcode
    · rename_i hne
      cases hcode
      split
      · split
        · exact hne
        · assumption
      · exact hne
  | none =>
    simp only
    cases hpresent : g.present with
    | false => exact Or.inr ⟨_, _, rfl, GpuState.noConfusion, fun hempty => by simp at hempty⟩
    | true =>
      rw [Bool.not_true, if_neg Bool.false_ne_true]
      cases ht : b.plant.telemetry? g.id with
      | none => exact Or.inr ⟨_, _, rfl, GpuState.noConfusion, fun hempty => by simp at hempty⟩
      | some t =>
        simp only
        by_cases hstale : cfg.staleAfter < now - t.observedAt
        · rw [if_pos hstale]
          refine Or.inr ⟨_, _, rfl, GpuState.noConfusion, fun hempty => ?_⟩
          have hlen := congrArg String.length hempty
          simp [String.length_append] at hlen
        rw [if_neg hstale]
        cases hhealth : (!healthy t.health || !healthy g.health) with
        | true => exact Or.inr ⟨_, _, rfl, GpuState.noConfusion, fun hempty => ⟨t, rfl, hempty⟩⟩
        | false =>
          rw [if_neg Bool.false_ne_true, h]
          unfold Broker.heldGpuState
          simp only
          by_cases hps : b.plant.currentProcesses g.id = []
          swap
          · rw [if_pos hps]
            exact Or.inr ⟨_, _, rfl, GpuState.noConfusion, fun hempty => by simp at hempty⟩
          rw [if_neg (not_not.2 hps)]
          cases hmanaged : b.plant.schedulerManaged cfg g.endpointId with
          | true => exact Or.inr ⟨_, _, rfl, GpuState.noConfusion, fun hempty => by simp at hempty⟩
          | false =>
            simp only [Bool.or_eq_false_iff, Bool.not_eq_false'] at hhealth
            exact Or.inl ⟨rfl, hps, trivial, rfl, t, rfl, not_lt.1 hstale, hhealth.1, hhealth.2⟩

/-- A cooldown that is over: every workload gave the card back as long ago. -/
theorem cooled_of_remaining {l : Ledger} {c : String}
    (h : ¬ 0 < l.cooldownRemaining cooldown c now) (hpos : 0 < cooldown) {r : LeaseResource}
    (hr : r ∈ l.resources) (hid : r.gpuId = c)
    (hwork : (l.lease? r.leaseId).any (fun x => x.kind = .workload) = true) {t : Time}
    (ht : r.releasedAt = some t) : cooldown ≤ now - t := by
  have hmem : t ∈ (l.resources.filter fun r => decide (r.gpuId = c) &&
      (l.lease? r.leaseId).any fun x => x.kind = .workload).filterMap LeaseResource.releasedAt :=
    List.mem_filterMap.2 ⟨r, List.mem_filter.2 ⟨hr, by simp [hid, hwork]⟩, ht⟩
  unfold Ledger.cooldownRemaining at h
  rw [if_neg (not_le.2 hpos)] at h
  cases hlast : l.workloadReleasedAt c with
  | none =>
    have hnil := List.max?_eq_none_iff.1 hlast
    rw [hnil] at hmem
    cases hmem
  | some last =>
    have hle : t ≤ last := (List.max?_eq_some_iff.1 hlast).2 t hmem
    rw [hlast] at h
    simp only [lt_max_iff, lt_self_iff_false, false_or] at h
    have hpast : cooldown ≤ now - last := sub_nonpos.1 (not_lt.1 h)
    calc cooldown ≤ now - last := hpast
      _ ≤ now - t := Int.sub_le_sub_left hle now

theorem freeTransition_justified (hk : Kept b) (hg : g ∈ b.plant.cardsOf e.id)
    (hidle : e.keepalivePolicy = .idleKeepalive)
    (hx : b.ledger.activeLeaseForGpu g.id = none) {t : Transition}
    (h : b.freeTransition cfg cooldown now g = some t) : b.Justifies cfg cooldown now e t := by
  unfold Broker.freeTransition at h
  rcases gpuState_unleased cfg now hx with
    ⟨hstate, hps, hpresent, hdirect, hreading⟩ | ⟨state, reason, hstate, hne, -⟩
  · cases hs : b.gpuState cfg now g with
    | mk state reason =>
      rw [hs] at hstate h
      cases hstate
      simp only at h
      split at h
      · cases h
        exact .ineligible g hg _ _
      · rename_i hcool
        cases h
        exact .start g hg hidle ⟨(unowned_iff hk).1 hx, hps, hpresent, hreading, hdirect,
          fun hpos r hr hid hwork t ht => cooled_of_remaining hcool hpos hr hid hwork ht⟩
  · rw [hstate] at h
    split at h
    · rename_i heq
      exact absurd (Prod.mk.inj heq).1 hne
    · rename_i heq
      cases heq
      split at h
      · cases h
      · cases h
        exact .ineligible g hg _ _
    · rename_i heq
      cases heq

theorem freeTransition_none (hx : b.ledger.activeLeaseForGpu g.id = none)
    (h : b.freeTransition cfg cooldown now g = none) : b.Leaves g := by
  unfold Broker.freeTransition at h
  rcases gpuState_unleased cfg now hx with ⟨hstate, -⟩ |
    ⟨state, reason, hstate, hne, hsilent⟩
  · cases hs : b.gpuState cfg now g with
    | mk state reason =>
      rw [hs] at hstate h
      cases hstate
      simp only at h
      split at h <;> cases h
  · rw [hstate] at h
    split at h
    · rename_i heq
      exact absurd (Prod.mk.inj heq).1 hne
    · rename_i heq
      cases heq
      split at h
      · rename_i hempty
        obtain ⟨t, ht, hhealth⟩ := hsilent hempty
        exact .silent t ht hhealth
      · cases h
    · rename_i heq
      cases heq

theorem idleTransition_gpuId {t : Transition} (h : b.idleTransition cfg cooldown now g = some t) :
    t.gpuId = g.id := by
  unfold Broker.idleTransition Broker.leasedTransition Broker.freeTransition at h
  simp only at h
  repeat' split at h
  all_goals cases h
  all_goals rfl

/-! ## The whole plan -/

theorem cardsOf_nodup (hb : Intact b) (i : String) :
    ((b.plant.cardsOf i).map GPUDevice.id).Nodup := by
  have hperm := (List.perm_insertionSort (fun x y : GPUDevice => x.gpuIndex ≤ y.gpuIndex)
    (b.plant.gpus.filter fun g => g.endpointId = i)).map GPUDevice.id
  exact hperm.nodup_iff.2 (hb.gpuPk.sublist (List.filter_sublist.map _))

/-- The plan under idle keepalive, past the cleanups. -/
def Broker.idlePlan (cfg : Config) (cooldown now : Time) (b : Broker) (e : Endpoint) :
    List Transition :=
  if e.keepalivePolicy ≠ .idleKeepalive then []
  else if e.keepaliveAdapterId = none then
    (b.plant.cardsOf e.id).map fun g => .ineligible g.id g.gpuUuid none
      "endpoint has no sealed keepalive adapter configured"
  else ((b.plant.cardsOf e.id).filter fun g => g.id ∉ b.plannedCleanups e).filterMap
    (b.idleTransition cfg cooldown now)

theorem mem_plan {t : Transition} : t ∈ b.keepaliveTransitions cfg cooldown now e ↔
    (∃ i c, (i, c) ∈ b.plannedStops e ∧ t = .stop c (b.plant.uuidOf c) i) ∨
    (∃ c ∈ b.plannedCleanups e, t = .cleanup c (b.plant.uuidOf c)) ∨
    t ∈ b.idlePlan cfg cooldown now e := by
  unfold Broker.keepaliveTransitions Broker.idlePlan
  simp only [List.mem_append, List.mem_map, Prod.exists, or_assoc]
  constructor
  · rintro (⟨i, c, h, rfl⟩ | ⟨c, h, rfl⟩ | h)
    · exact Or.inl ⟨i, c, h, rfl⟩
    · exact Or.inr (Or.inl ⟨c, h, rfl⟩)
    · exact Or.inr (Or.inr h)
  · rintro (⟨i, c, h, rfl⟩ | ⟨c, h, rfl⟩ | h)
    · exact Or.inl ⟨i, c, h, rfl⟩
    · exact Or.inr (Or.inl ⟨c, h, rfl⟩)
    · exact Or.inr (Or.inr h)

theorem mem_idlePlan {t : Transition} (h : t ∈ b.idlePlan cfg cooldown now e) :
    e.keepalivePolicy = .idleKeepalive ∧ ∃ g ∈ b.plant.cardsOf e.id,
      (t.executable = false ∧ ∃ reason, t = .ineligible g.id g.gpuUuid none reason) ∨
      (g.id ∉ b.plannedCleanups e ∧ b.idleTransition cfg cooldown now g = some t) := by
  unfold Broker.idlePlan at h
  split at h
  · cases h
  rename_i hidle
  refine ⟨not_not.1 hidle, ?_⟩
  split at h
  · obtain ⟨g, hg, rfl⟩ := List.mem_map.1 h
    exact ⟨g, hg, Or.inl ⟨rfl, _, rfl⟩⟩
  · obtain ⟨g, hg, ht⟩ := List.mem_filterMap.1 h
    obtain ⟨hg, hclean⟩ := List.mem_filter.1 hg
    exact ⟨g, hg, Or.inr ⟨of_decide_eq_true hclean, ht⟩⟩

/-- **Every entry is justified.** -/
theorem plan_justified (hk : Kept b) {t : Transition}
    (h : t ∈ b.keepaliveTransitions cfg cooldown now e) : b.Justifies cfg cooldown now e t := by
  rcases mem_plan.1 h with ⟨i, c, hstop, rfl⟩ | ⟨c, hc, rfl⟩ | h
  · obtain ⟨hpolicy, hkeeper, -⟩ := (mem_plannedStops hk).1 hstop
    exact .stop i c hpolicy hkeeper
  · obtain ⟨g, hg, rfl, hmark, hfree⟩ := mem_plannedCleanups hk hc
    exact .cleanup g hg hmark hfree
  · obtain ⟨hidle, g, hg, ⟨-, reason, rfl⟩ | ⟨-, ht⟩⟩ := mem_idlePlan h
    · exact .ineligible g hg none reason
    · unfold Broker.idleTransition at ht
      cases hx : b.ledger.activeLeaseForGpu g.id with
      | some x =>
        rw [hx] at ht
        exact leasedTransition_justified hk hg hidle hx ht
      | none =>
        rw [hx] at ht
        exact freeTransition_justified hk hg hidle hx ht

/-- **A card without an entry** needs none. -/
theorem plan_leaves (hk : Kept b) (hidle : e.keepalivePolicy = .idleKeepalive)
    (hg : g ∈ b.plant.cardsOf e.id) :
    (∃ t ∈ b.keepaliveTransitions cfg cooldown now e, t.gpuId = g.id) ∨ b.Leaves g := by
  by_cases hadapter : e.keepaliveAdapterId = none
  · -- without an adapter every card is named as ineligible
    refine Or.inl ⟨.ineligible g.id g.gpuUuid none
      "endpoint has no sealed keepalive adapter configured", mem_plan.2 (Or.inr (Or.inr ?_)), rfl⟩
    unfold Broker.idlePlan
    rw [if_neg (not_not.2 hidle), if_pos hadapter]
    exact List.mem_map_of_mem hg
  by_cases hclean : g.id ∈ b.plannedCleanups e
  · exact Or.inl ⟨_, mem_plan.2 (Or.inr (Or.inl ⟨g.id, hclean, rfl⟩)), rfl⟩
  cases ht : b.idleTransition cfg cooldown now g with
  | some t =>
    refine Or.inl ⟨t, mem_plan.2 (Or.inr (Or.inr ?_)), idleTransition_gpuId ht⟩
    unfold Broker.idlePlan
    rw [if_neg (not_not.2 hidle), if_neg hadapter]
    exact List.mem_filterMap.2 ⟨g, List.mem_filter.2 ⟨hg, decide_eq_true hclean⟩, ht⟩
  | none =>
    right
    unfold Broker.idleTransition at ht
    cases hx : b.ledger.activeLeaseForGpu g.id with
    | some x =>
      rw [hx] at ht
      exact leasedTransition_none hk hx ht
    | none =>
      rw [hx] at ht
      exact freeTransition_none hx ht

/-- A keeper owns its card. -/
theorem Broker.KeeperOf.owns {i c : String} (h : b.KeeperOf i c) :
    ∃ x, x.id = i ∧ x.kind = .keepalive ∧ b.ledger.Owns x c := by
  obtain ⟨x, hx, hkind, -⟩ := h.lease
  have hid : x.id = i := lease?_id hx
  have hmem : c ∈ (b.ledger.cards i).map LeaseResource.gpuId := by
    rw [h.cards]
    exact List.mem_singleton_self c
  obtain ⟨r, hr, hrc⟩ := List.mem_map.1 hmem
  exact ⟨x, hid, hkind, hid ▸ hx, r, hid ▸ hr, hrc⟩

/-- Two stops are of two cards: one card has one keeper. -/
theorem plannedStops_apart (hk : Kept b) :
    (b.plannedStops e).Pairwise fun s s' => s.2 ≠ s'.2 := by
  have hleases : (b.plannedStops e).Pairwise fun s s' => s.1 ≠ s'.1 := by
    unfold Broker.plannedStops
    split
    swap
    · exact List.Pairwise.nil
    rw [List.pairwise_filterMap]
    have hids : (b.keepersOn e.id).Pairwise fun x y => x.id ≠ y.id :=
      List.pairwise_map.1 (hk.intact.leasePk.sublist (List.filter_sublist.map Lease.id))
    refine hids.imp fun {x y} hne s hs s' hs' => ?_
    have hfst : s.1 = x.id := by
      split at hs
      · split at hs
        · cases hs
          rfl
        · cases hs
      · cases hs
    have hfst' : s'.1 = y.id := by
      split at hs'
      · split at hs'
        · cases hs'
          rfl
        · cases hs'
      · cases hs'
    rw [hfst, hfst']
    exact hne
  refine hleases.imp_of_mem fun {s s'} hs hs' hne hsame => hne ?_
  obtain ⟨-, hkeeper, -⟩ := (mem_plannedStops hk).1 hs
  obtain ⟨-, hkeeper', -⟩ := (mem_plannedStops hk).1 hs'
  obtain ⟨x, hid, -, hx⟩ := hkeeper.owns
  obtain ⟨y, hid', -, hy⟩ := hkeeper'.owns
  rw [hsame] at hx
  have hxy := ((owner_iff hk).2 hx).symm.trans ((owner_iff hk).2 hy)
  rw [← hid, ← hid', Option.some.inj hxy]

/-- **A card has at most one entry that asks for work.** -/
theorem plan_cards (hk : Kept b) :
    (((b.keepaliveTransitions cfg cooldown now e).filter Transition.executable).map
      Transition.gpuId).Nodup := by
  unfold List.Nodup
  rw [List.pairwise_map, List.pairwise_filter]
  unfold Broker.keepaliveTransitions
  simp only
  rw [List.pairwise_append, List.pairwise_append, List.pairwise_map, List.pairwise_map]
  have hcards : (b.plant.cardsOf e.id).Pairwise fun g g' => g.id ≠ g'.id :=
    List.pairwise_map.1 (cardsOf_nodup hk.intact e.id)
  have hcleanups : (b.plannedCleanups e).Pairwise fun c c' => c ≠ c' := by
    unfold Broker.plannedCleanups
    simp only
    split
    · exact List.Pairwise.nil
    · exact (cardsOf_nodup hk.intact e.id).sublist List.filter_sublist
  refine ⟨⟨?_, ?_, ?_⟩, ?_, ?_⟩
  · exact (plannedStops_apart hk).imp fun hne _ _ => hne
  · exact hcleanups.imp fun hne _ _ => hne
  · -- a card with a keeper is not cleaned up
    rintro t ht t' ht' - -
    obtain ⟨⟨i, c⟩, hs, rfl⟩ := List.mem_map.1 ht
    obtain ⟨c', hc', rfl⟩ := List.mem_map.1 ht'
    intro hsame
    have hsame : c = c' := hsame
    obtain ⟨-, hkeeper, -⟩ := (mem_plannedStops hk).1 hs
    obtain ⟨x, -, hkind, hx⟩ := hkeeper.owns
    obtain ⟨-, -, -, -, hfree⟩ := mem_plannedCleanups hk hc'
    rw [hsame] at hx
    exact hfree x hx hkind
  · change (b.idlePlan cfg cooldown now e).Pairwise _
    unfold Broker.idlePlan
    split
    · exact List.Pairwise.nil
    split
    · rw [List.pairwise_map]
      exact hcards.imp fun _ hex => Bool.noConfusion hex
    · rw [List.pairwise_filterMap]
      refine (hcards.sublist List.filter_sublist).imp fun {g g'} hne t ht t' ht' _ _ => ?_
      rw [idleTransition_gpuId ht, idleTransition_gpuId ht']
      exact hne
  · rintro t ht t' ht' - hex
    obtain ⟨hidle, g, hg, ⟨hno, -⟩ | ⟨hclean, htrans⟩⟩ := mem_idlePlan ht'
    · rw [hno] at hex
      cases hex
    rw [idleTransition_gpuId htrans]
    rcases List.mem_append.1 ht with ht | ht
    · -- stops are planned where keepers are not to be kept
      obtain ⟨⟨i, c⟩, hs, rfl⟩ := List.mem_map.1 ht
      obtain ⟨hpolicy, -⟩ := (mem_plannedStops hk).1 hs
      rw [hpolicy] at hidle
      cases hidle
    · obtain ⟨c, hc, rfl⟩ := List.mem_map.1 ht
      intro hsame
      exact hclean (hsame ▸ hc)

/-- **The plan is sound.** In every state a run reaches a card has at most one entry that asks for
work; every entry rests on what justifies it; with the policy off every keeper of the server is to
be stopped; and under idle keepalive a card without an entry is a workload's, or its keeper is at
work, or its health is unreadable. -/
theorem plan_sound (hb : Reachable cfg b) (cooldown now : Time) (e : Endpoint) :
    (((b.keepaliveTransitions cfg cooldown now e).filter Transition.executable).map
      Transition.gpuId).Nodup ∧
    (∀ t ∈ b.keepaliveTransitions cfg cooldown now e, b.Justifies cfg cooldown now e t) ∧
    (e.keepalivePolicy = .disabled → ∀ i c, b.KeeperOf i c → b.plant.endpointOf c = e.id →
      .stop c (b.plant.uuidOf c) i ∈ b.keepaliveTransitions cfg cooldown now e) ∧
    (e.keepalivePolicy = .idleKeepalive → ∀ g ∈ b.plant.cardsOf e.id,
      (∃ t ∈ b.keepaliveTransitions cfg cooldown now e, t.gpuId = g.id) ∨ b.Leaves g) := by
  have hk : Kept b := hb.kept
  refine ⟨plan_cards hk, fun t ht => plan_justified hk ht, fun hpolicy i c hkeeper hon => ?_,
    fun hidle g hg => plan_leaves hk hidle hg⟩
  exact mem_plan.2 (Or.inl ⟨i, c, (mem_plannedStops hk).2 ⟨hpolicy, hkeeper, hon⟩, rfl⟩)

end

/-- With the policy off the keeper of a card is to be stopped. -/
theorem plan_sound_disabled :
    .stop "alpha:GPU-0" "GPU-0" "keeper" ∈ (keeperLater [7]).keepaliveTransitions plainConfig 0 25
      { sampleServer "alpha" 22 with keepalivePolicy := .disabled } := by
  have hkeeper : (keeperLater [7]).KeeperOf "keeper" "alpha:GPU-0" := by
    refine ⟨?_, by decide +kernel⟩
    obtain ⟨x, hx, hkeeps⟩ := Option.any_eq_true _ _ |>.1
      (show ((keeperLater [7]).ledger.lease? "keeper").any
        (fun x => decide (x.kind = .keepalive) && x.state.live) = true by decide +kernel)
    rw [Bool.and_eq_true, decide_eq_true_eq] at hkeeps
    exact ⟨x, hx, hkeeps.1, hkeeps.2⟩
  have huuid : (keeperLater [7]).plant.uuidOf "alpha:GPU-0" = "GPU-0" := by decide +kernel
  have hplan := (plan_sound (keeperLater_reachable [7]) 0 25
    { sampleServer "alpha" 22 with keepalivePolicy := .disabled }).2.2.1 rfl "keeper" "alpha:GPU-0"
      hkeeper (by decide +kernel)
  rw [huuid] at hplan
  exact hplan

end ServerPilot
