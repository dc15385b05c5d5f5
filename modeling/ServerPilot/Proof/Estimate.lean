import ServerPilot.Spec.Estimate

/-!
# A refusal is explained

The estimate is the least scaled end by which enough cards are released (`estimate_eta`); it
raises when the scaled end of some live lease is out of range, whether or not that lease is
one the estimate may depend on (`explained_iff`).
-/

namespace ServerPilot

open Running

/-! ## The releases to come -/

/-- When a lease with a declared duration should release how many cards, if its scaled end lies
in the future. -/
def Ledger.release? (l : Ledger) (scale : ℚ) (now : Time) (lease : Lease) : Option (Time × ℕ) :=
  (lease.scaledEnd scale).bind fun ends =>
    if ends ≤ now ∨ lease.durationSeconds = undeclaredDurationSeconds then none
    else some (ends, l.leaseCardCount lease)

/-- The releases to come, of the live leases. -/
def Ledger.releases (l : Ledger) (now : Time) : List (Time × ℕ) :=
  l.liveWorkloads.filterMap (l.release? (l.scale now) now)

variable {l : Ledger} {scale : ℚ} {now : Time}

/-- One round raises when its lease has no scaled end, and files its release otherwise. -/
theorem add_eq_some {s s' : Coming} {lease : Lease} (h : s.add l scale now lease = some s') :
    s'.releases = s.releases ++ (l.release? scale now lease).toList := by
  obtain ⟨ends, hends, rfl⟩ := Option.map_eq_some_iff.1 h
  rw [Ledger.release?, hends, Option.bind_some]
  split_ifs with hout
  · exact (List.append_nil _).symm
  · rfl

theorem foldlM_add_releases : ∀ (leases : List Lease) {s s' : Coming},
    leases.foldlM (Coming.add l scale now) s = some s' →
      s'.releases = s.releases ++ leases.filterMap (l.release? scale now)
  | [], s, s', h => by
    cases h
    exact (List.append_nil _).symm
  | lease :: leases, s, s', h => by
    rw [List.foldlM_cons] at h
    obtain ⟨next, hnext, h⟩ := Option.bind_eq_some_iff.1 h
    rw [foldlM_add_releases leases h, add_eq_some hnext, List.append_assoc]
    cases hr : l.release? scale now lease with
    | none => rw [List.filterMap_cons_none hr, Option.toList_none, List.nil_append]
    | some r => rw [List.filterMap_cons_some hr, Option.toList_some, List.singleton_append]

theorem foldlM_add_isSome : ∀ (leases : List Lease) (s : Coming),
    (∃ s', leases.foldlM (Coming.add l scale now) s = some s') ↔
      ∀ lease ∈ leases, ∃ ends, lease.scaledEnd scale = some ends
  | [], s => iff_of_true ⟨s, rfl⟩ fun _ h => absurd h List.not_mem_nil
  | lease :: leases, s => by
    rw [List.foldlM_cons, List.forall_mem_cons]
    cases hends : lease.scaledEnd scale with
    | none =>
      refine iff_of_false ?_ fun h => nomatch h.1
      rintro ⟨s', h⟩
      obtain ⟨next, hnext, _⟩ := Option.bind_eq_some_iff.1 h
      rw [Coming.add, hends] at hnext
      cases hnext
    | some ends =>
      obtain ⟨next, hnext⟩ : ∃ next, s.add l scale now lease = some next := by
        rw [Coming.add, hends]
        exact ⟨_, rfl⟩
      rw [hnext]
      exact (foldlM_add_isSome leases next).trans ⟨fun h => ⟨⟨ends, rfl⟩, h⟩, fun h => h.2⟩

/-! ## The estimate -/

theorem releaseLe_iff {a b : Time × ℕ} :
    releaseLe a b = true ↔ a.1 < b.1 ∨ a.1 = b.1 ∧ a.2 ≤ b.2 := by
  unfold releaseLe
  split_ifs with heq
  · rw [decide_eq_true_eq]
    exact ⟨fun h => Or.inr ⟨heq, h⟩, fun h => (h.resolve_left heq.not_lt).2⟩
  · rw [decide_eq_true_eq]
    exact ⟨Or.inl, fun h => h.resolve_right fun h => heq h.1⟩

theorem releaseLe_order : Ranking.Order releaseLe where
  total a b := by
    rw [releaseLe_iff, releaseLe_iff]
    rcases lt_trichotomy a.1 b.1 with hlt | heq | hgt
    · exact Or.inl (Or.inl hlt)
    · exact (le_total a.2 b.2).imp (fun h => Or.inr ⟨heq, h⟩) fun h => Or.inr ⟨heq.symm, h⟩
    · exact Or.inr (Or.inl hgt)
  trans a b c hab hbc := by
    rw [releaseLe_iff] at hab hbc ⊢
    rcases hab with hab | ⟨hab, hab2⟩
    · exact Or.inl (hbc.elim (fun h => hab.trans h) fun h => h.1 ▸ hab)
    · rcases hbc with hbc | ⟨hbc, hbc2⟩
      · exact Or.inl (hab ▸ hbc)
      · exact Or.inr ⟨hab.trans hbc, hab2.trans hbc2⟩
  antisymm a b hab hba := by
    rw [releaseLe_iff] at hab hba
    rcases hab with hab | ⟨heq, hle⟩
    · exact (hba.elim (fun h => absurd hab h.not_gt) fun h => absurd hab h.1.not_gt)
    · exact Prod.ext heq (hle.antisymm ((hba.resolve_left heq.not_gt).2))

theorem releaseLe_fst {a b : Time × ℕ} (h : releaseLe a b = true) : a.1 ≤ b.1 :=
  (releaseLe_iff.1 h).elim le_of_lt fun h => h.1.le

theorem enough_monotone (n : ℤ) : Running.Monotone fun coming => decide (n ≤ (coming : ℤ)) := by
  intro a b hab h
  have := of_decide_eq_true h
  exact decide_eq_true (by omega)

/-- **The estimate.** It is there when the releases to come are enough, and is then the least
of their times by which enough is released. -/
theorem estimate_eta {jitter : ℚ} {n : ℤ} {e : CapacityEstimate} (hn : 1 ≤ n)
    (h : l.estimateCapacityAt now jitter n = some e) :
    (e.eta.isSome = true ↔ n ≤ (whole (l.releases now) : ℤ)) ∧
      ∀ t, e.eta = some t →
        IsLeast {s | s ∈ (l.releases now).map Prod.fst ∧ n ≤ (upTo s (l.releases now) : ℤ)} t := by
  obtain ⟨s, hs, rfl⟩ := Option.map_eq_some_iff.1 h
  have hreleases : s.releases = l.releases now := foldlM_add_releases _ hs
  have hperm := Ranking.arranged_perm releaseLe id (l.releases now)
  have hsorted : (Ranking.arranged releaseLe id (l.releases now)).Pairwise fun x y => x.1 ≤ y.1 :=
    (Ranking.arranged_sorted releaseLe_order id _).imp releaseLe_fst
  have hnone : decide (n ≤ ((0 : ℕ) : ℤ)) = false := decide_eq_false (by omega)
  simp only [hreleases]
  constructor
  · rw [first_isSome (enough_monotone n) _ hnone, whole_perm hperm, Nat.zero_add,
      decide_eq_true_eq]
  · intro t ht
    have hleast := first_isLeast (enough_monotone n) _ hsorted hnone ht
    simpa only [Nat.zero_add, decide_eq_true_eq, upTo_perm hperm, (hperm.map Prod.fst).mem_iff]
      using hleast

/-! ## Every refusal -/

/-- No shortfall makes the estimate raise; it has an eta exactly when the live leases whose scaled
end lies in the future hold enough, that is the earliest end by which those ending no later do,
and a larger shortfall gives no earlier one. -/
def Ledger.Explained (l : Ledger) (now : Time) (jitter : ℚ) : Prop :=
  (∀ n : ℤ, 1 ≤ n → ∃ e, l.estimateCapacityAt now jitter n = some e ∧
    (e.eta.isSome = true ↔ n ≤ (whole (l.releases now) : ℤ)) ∧
    ∀ t, e.eta = some t →
      IsLeast {s | s ∈ (l.releases now).map Prod.fst ∧ n ≤ (upTo s (l.releases now) : ℤ)} t) ∧
  ∀ (n n' : ℤ) (e e' : CapacityEstimate), 1 ≤ n → n ≤ n' →
    l.estimateCapacityAt now jitter n = some e → l.estimateCapacityAt now jitter n' = some e' →
      ∀ t', e'.eta = some t' → ∃ t, e.eta = some t ∧ t ≤ t'

/-- The declared duration times the scale is a time difference, and added to the issue a date. -/
def Lease.EndsInRange (scale : ℚ) (lease : Lease) : Prop :=
  ∃ delta, timedeltaSeconds (toDouble (lease.durationSeconds * scale)) = some delta ∧
    datetimeMin ≤ lease.issuedAt + delta ∧ lease.issuedAt + delta ≤ datetimeMax

theorem endsInRange_iff {lease : Lease} :
    lease.EndsInRange scale ↔ ∃ ends, lease.scaledEnd scale = some ends := by
  unfold Lease.EndsInRange Lease.scaledEnd
  constructor
  · rintro ⟨delta, hdelta, hrange⟩
    refine ⟨lease.issuedAt + delta, ?_⟩
    rw [hdelta, Option.bind_some, addDelta, if_pos hrange]
  · rintro ⟨ends, h⟩
    obtain ⟨delta, hdelta, hadd⟩ := Option.bind_eq_some_iff.1 h
    unfold addDelta at hadd
    split_ifs at hadd with hrange
    exact ⟨delta, hdelta, hrange⟩

/-- **Every refusal is explained exactly when the scaled end of every live lease is in range**, of
those with no declared duration too. -/
theorem explained_iff (l : Ledger) (now : Time) (jitter : ℚ) :
    l.Explained now jitter ↔ ∀ lease ∈ l.liveWorkloads, lease.EndsInRange (l.scale now) := by
  have hsome : (∀ lease ∈ l.liveWorkloads, lease.EndsInRange (l.scale now)) ↔
      ∃ s, l.liveWorkloads.foldlM (Coming.add l (l.scale now) now) {} = some s := by
    rw [foldlM_add_isSome]
    exact forall₂_congr fun _ _ => endsInRange_iff
  rw [hsome]
  constructor
  · intro h
    obtain ⟨e, he, _⟩ := h.1 1 le_rfl
    obtain ⟨s, hs, _⟩ := Option.map_eq_some_iff.1 he
    exact ⟨s, hs⟩
  · rintro ⟨s, hs⟩
    have hall : ∀ n, ∃ e, l.estimateCapacityAt now jitter n = some e := by
      intro n
      rw [Ledger.estimateCapacityAt, hs]
      exact ⟨_, rfl⟩
    refine ⟨fun n hn => ?_, fun n n' e e' hn hnn he he' t' ht' => ?_⟩
    · obtain ⟨e, he⟩ := hall n
      exact ⟨e, he, estimate_eta hn he⟩
    · obtain ⟨hisSome, hleast⟩ := estimate_eta hn he
      obtain ⟨hisSome', hleast'⟩ := estimate_eta (hn.trans hnn) he'
      have hwhole : n ≤ (whole (l.releases now) : ℤ) :=
        hnn.trans (hisSome'.1 (by rw [ht']; rfl))
      obtain ⟨t, ht⟩ := Option.isSome_iff_exists.1 (hisSome.2 hwhole)
      obtain ⟨hmem, henough⟩ := (hleast' t' ht').1
      exact ⟨t, ht, (hleast t ht).2 ⟨hmem, hnn.trans henough⟩⟩

/-! ## Runs far longer than declared -/

/-- The start of 2026. -/
def sampleNow : Time := seconds 1767225600

/-- A lease that was declared to take a minute and took 68 days. -/
def longRun : Lease where
  id := "lease-old"
  actorId := "agent"
  projectId := "project"
  kind := .workload
  taskRef := "train"
  purpose := "training"
  constraints := { gpuCount := 1 }
  durationSeconds := 60
  state := .released
  issuedAt := sampleNow - seconds (69 * 86400)
  expiresAt := none
  lastHeartbeatAt := sampleNow
  releasedAt := some (sampleNow - seconds 86400)
  releaseReason := some "workload_completed"
  issuedRevision := 1

/-- A live lease with no declared duration, issued a minute ago. -/
def openEnded : Lease :=
  { longRun with
    id := "lease-live", durationSeconds := undeclaredDurationSeconds, state := .held
    issuedAt := sampleNow - seconds 60, releasedAt := none, releaseReason := none }

/-- Fifty such runs, and the live lease. -/
def longRuns : Ledger :=
  { leases := openEnded :: (List.range 50).map fun i =>
      { longRun with id := "lease-" ++ toString i } }

theorem longRuns_unexplained : ¬ longRuns.Explained sampleNow 1 := by
  intro h
  obtain ⟨e, he, _⟩ := h.1 1 le_rfl
  have hraises : (longRuns.estimateCapacityAt sampleNow 1 1).isNone = true := by decide +kernel
  rw [he] at hraises
  cases hraises

end ServerPilot
