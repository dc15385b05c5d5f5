import Mathlib.Order.Bounds.Defs
import ServerPilot.Spec.History

/-!
# The points of a history

* `bucketsFor_even`: the buckets are even parts of the samples, whatever their number.
* `historyOf_sorted`: the samples are oldest first, the latest reading last.
* `history_buckets`: **every history has as many points as it may, none of them raises, and its
  last point is at the time of the newest sample**, for the host and for every card.
-/

namespace ServerPilot

open Checked Cuts Rows

section

variable {α β : Type} {observedAt : α → Time} {cutoff : Time}

/-! ## Buckets -/

/-- **Buckets are even parts of the samples.** -/
theorem bucketsFor_even (maxPoints : MaxPoints) (values : List α) :
    EvenParts (min maxPoints.value values.length) (bucketsFor maxPoints values) values := by
  have hpos : 0 < maxPoints.value := lt_of_lt_of_le (by decide) maxPoints.atLeast
  unfold bucketsFor
  by_cases hfew : values.length ≤ maxPoints.value
  · rw [if_pos hfew, min_eq_right hfew]
    exact singletons_evenParts values
  · have hmany : maxPoints.value ≤ values.length := Nat.le_of_not_le hfew
    rw [if_neg hfew, min_eq_left hmany]
    exact slices_evenParts hpos hmany

/-- A point for every bucket, the last one with what the last sample has. -/
theorem points_of_parts {make : List α → Tx β} {time : β → Time}
    (hmake : ∀ {bucket newest}, bucket.getLast? = some newest →
      ∃ point, make bucket = .ok point ∧ time point = observedAt newest) :
    ∀ {parts : List (List α)}, (∀ part ∈ parts, part ≠ []) →
      ∃ points, parts.mapM make = .ok points ∧ points.length = parts.length ∧
        points.getLast?.map time = (parts.getLast?.bind List.getLast?).map observedAt := by
  intro parts
  induction parts with
  | nil =>
    intro _
    exact ⟨[], rfl, rfl, rfl⟩
  | cons part parts ih =>
    intro hne
    obtain ⟨newest, hnewest⟩ : ∃ newest, part.getLast? = some newest :=
      ⟨_, List.getLast?_eq_some_getLast (hne part List.mem_cons_self)⟩
    obtain ⟨point, hpoint, htime⟩ := hmake hnewest
    obtain ⟨points, hpoints, hlength, hlast⟩ := ih fun p hp => hne p (List.mem_cons_of_mem _ hp)
    refine ⟨point :: points, ?_, ?_, ?_⟩
    · simp only [List.mapM_cons, bind_ok, pure_ok]
      exact ⟨point, hpoint, points, hpoints, rfl⟩
    · rw [List.length_cons, List.length_cons, hlength]
    · cases parts with
      | nil =>
        obtain rfl : points = [] := List.eq_nil_of_length_eq_zero hlength
        simp [hnewest, htime]
      | cons next parts =>
        cases points with
        | nil => cases hlength
        | cons p points =>
          rw [List.getLast?_cons_cons, List.getLast?_cons_cons]
          exact hlast

/-! ## Samples -/

theorem windowed_sorted (rows : List (Archived α)) :
    (windowed observedAt cutoff rows).Pairwise fun a b => observedAt a ≤ observedAt b := by
  have htotal : Std.Total (Archived.olderThan observedAt) := ⟨fun a b => by
    unfold Archived.olderThan
    rcases lt_trichotomy (observedAt a.sample) (observedAt b.sample) with h | h | h
    · exact .inl (.inl h)
    · rcases Nat.le_total a.id b.id with hid | hid
      · exact .inl (.inr ⟨h, hid⟩)
      · exact .inr (.inr ⟨h.symm, hid⟩)
    · exact .inr (.inl h)⟩
  have htrans : IsTrans (Archived α) (Archived.olderThan observedAt) := ⟨fun a b c hab hbc => by
    rcases hab with hab | ⟨hab, hidab⟩
    · rcases hbc with hbc | ⟨hbc, -⟩
      · exact .inl (hab.trans hbc)
      · exact .inl (hbc ▸ hab)
    · rcases hbc with hbc | ⟨hbc, hidbc⟩
      · exact .inl (hab ▸ hbc)
      · exact .inr ⟨hab.trans hbc, hidab.trans hidbc⟩⟩
  have hsorted := List.pairwise_insertionSort (Archived.olderThan observedAt)
    (rows.filter fun row => decide (cutoff ≤ observedAt row.sample))
  refine List.pairwise_map.2 (hsorted.imp fun {a b} hab => ?_)
  rcases hab with h | ⟨h, -⟩
  · exact le_of_lt h
  · exact le_of_eq h

/-- Nothing in an ordered list is later than its last element. -/
theorem le_getLast {samples : List α} {last : α}
    (h : samples.Pairwise fun a b => observedAt a ≤ observedAt b)
    (hlast : samples.getLast? = some last) : ∀ s ∈ samples, observedAt s ≤ observedAt last := by
  obtain ⟨init, rfl⟩ := List.getLast?_eq_some_iff.1 hlast
  intro s hs
  rcases List.mem_append.1 hs with hs | hs
  · exact (List.pairwise_append.1 h).2.2 s hs last (List.mem_singleton_self _)
  · rw [List.mem_singleton.1 hs]

theorem appendCurrent_sorted {samples : List α} (current : α)
    (h : samples.Pairwise fun a b => observedAt a ≤ observedAt b) :
    (appendCurrent observedAt cutoff samples current).Pairwise
      fun a b => observedAt a ≤ observedAt b := by
  unfold appendCurrent
  split
  · rename_i hnew
    refine List.pairwise_append.2 ⟨h, List.pairwise_singleton .., ?_⟩
    intro s hs t ht
    rw [List.mem_singleton.1 ht]
    -- the last sample is before the latest reading, the others are not after the last
    obtain ⟨last, hlast⟩ : ∃ last, samples.getLast? = some last :=
      ⟨_, List.getLast?_eq_some_getLast (List.ne_nil_of_mem hs)⟩
    exact (le_getLast h hlast s hs).trans (le_of_lt (hnew.2 last hlast))
  · exact h

/-- **Samples are oldest first**, the latest reading last. -/
theorem historyOf_sorted (rows : List (Archived α)) (current : List α) :
    (current.foldl (appendCurrent observedAt cutoff) (windowed observedAt cutoff rows)).Pairwise
      fun a b => observedAt a ≤ observedAt b := by
  have hrun : ∀ samples : List α, samples.Pairwise (fun a b => observedAt a ≤ observedAt b) →
      (current.foldl (appendCurrent observedAt cutoff) samples).Pairwise
        fun a b => observedAt a ≤ observedAt b := by
    induction current with
    | nil => exact fun _ h => h
    | cons c current ih => exact fun samples h => ih _ (appendCurrent_sorted c h)
  exact hrun _ (windowed_sorted rows)

/-! ## Charts -/

/-- Points that tell of samples: how many there are, and that the last of them is at the time of
the newest sample. -/
structure Charts (maxPoints : MaxPoints) (observedAt : α → Time) (time : β → Time)
    (samples : List α) (points : List β) : Prop where
  count : points.length = min maxPoints.value samples.length
  newest : ∀ point ∈ points.getLast?, IsGreatest {t | ∃ s ∈ samples, observedAt s = t} (time point)

/-- The points of ordered samples are there, and tell of them. -/
theorem charts_of_sorted {make : List α → Tx β} {time : β → Time} {samples : List α}
    (maxPoints : MaxPoints)
    (hmake : ∀ {bucket newest}, bucket.getLast? = some newest →
      ∃ point, make bucket = .ok point ∧ time point = observedAt newest)
    (hsorted : samples.Pairwise fun a b => observedAt a ≤ observedAt b) :
    ∃ points, (bucketsFor maxPoints samples).mapM make = .ok points ∧
      Charts maxPoints observedAt time samples points := by
  have hparts := bucketsFor_even maxPoints samples
  obtain ⟨points, hpoints, hlength, hlast⟩ := points_of_parts hmake hparts.nonempty
  rw [hparts.getLast] at hlast
  refine ⟨points, hpoints, hlength.trans hparts.count, fun point hpoint => ?_⟩
  rw [Option.mem_def.1 hpoint, Option.map_some] at hlast
  obtain ⟨newest, hnewest, htime⟩ := Option.map_eq_some_iff.1 hlast.symm
  rw [← htime]
  refine ⟨⟨newest, List.mem_of_getLast? hnewest, rfl⟩, ?_⟩
  rintro t ⟨s, hs, rfl⟩
  exact le_getLast hsorted hnewest s hs

end

theorem hostPoint_last (total : List ℚ → ℚ) {bucket : List HostTelemetry} {newest : HostTelemetry}
    (h : bucket.getLast? = some newest) :
    ∃ point, hostPoint total bucket = .ok point ∧ point.observedAt = newest.observedAt := by
  unfold hostPoint lastOf
  rw [need_bind_some h]
  exact ⟨_, rfl, rfl⟩

theorem gpuPoint_last (total : List ℚ → ℚ) (device : GPUDevice) {bucket : List TelemetryCurrent}
    {newest : TelemetryCurrent} (h : bucket.getLast? = some newest) :
    ∃ point, gpuPoint total device bucket = .ok point ∧ point.observedAt = newest.observedAt := by
  unfold gpuPoint lastOf
  rw [need_bind_some h]
  exact ⟨_, rfl, rfl⟩

/-- **One series**: it is there, and its points tell of its card's readings. -/
theorem gpuSeries_charts (total : List ℚ → ℚ) (maxPoints : MaxPoints)
    (sampled : List (GPUDevice × List TelemetryCurrent))
    {entry : GPUDevice × List TelemetryCurrent}
    (hsorted : entry.2.Pairwise fun a b => a.observedAt ≤ b.observedAt) :
    ∃ series, gpuSeries total maxPoints sampled entry = .ok series ∧ series.gpuId = entry.1.id ∧
      Charts maxPoints TelemetryCurrent.observedAt GPUPoint.observedAt entry.2 series.points := by
  obtain ⟨points, hpoints, hcharts⟩ :=
    charts_of_sorted maxPoints (gpuPoint_last total entry.1) hsorted
  unfold gpuSeries
  rw [hpoints]
  exact ⟨_, rfl, rfl, hcharts⟩

theorem ofInt?_value (maxPoints : MaxPoints) :
    MaxPoints.ofInt? maxPoints.value = some maxPoints := by
  unfold MaxPoints.ofInt?
  rw [dif_pos (by rw [Int.toNat_natCast]; exact ⟨maxPoints.atLeast, maxPoints.atMost⟩)]
  rfl

theorem hostSamples_sorted (p : Plant) (tables : HistoryTables) (endpointId : String)
    (cutoff : Time) :
    (hostSamples p tables endpointId cutoff).Pairwise fun a b => a.observedAt ≤ b.observedAt :=
  historyOf_sorted _ _

theorem gpuReadings_sorted (p : Plant) (tables : HistoryTables) (gpuId : String) (cutoff : Time) :
    (gpuReadings p tables gpuId cutoff).Pairwise fun a b => a.observedAt ≤ b.observedAt :=
  historyOf_sorted _ _

/-- **A history is refused for its question, or it is there** with all its points. -/
theorem endpointHistory_spec (total : List ℚ → ℚ) (now : Time) (p : Plant) (tables : HistoryTables)
    (endpointId : String) (windowSeconds : ℤ) (maxPoints : MaxPoints) :
    (∃ e, endpointHistory total now p tables endpointId windowSeconds maxPoints.value =
        .error (.refused e)) ∨
      ∃ reply, endpointHistory total now p tables endpointId windowSeconds maxPoints.value =
          .ok reply ∧
        Charts maxPoints HostTelemetry.observedAt HostPoint.observedAt
          (hostSamples p tables endpointId (now - seconds windowSeconds)) reply.points ∧
        ∀ series ∈ reply.gpuSeries,
          Charts maxPoints TelemetryCurrent.observedAt GPUPoint.observedAt
            (gpuReadings p tables series.gpuId (now - seconds windowSeconds)) series.points := by
  unfold endpointHistory
  by_cases hwindow : windowSeconds ∈ historyWindows
  · rw [require_bind_pos hwindow, need_bind_some (ofInt?_value maxPoints)]
    cases hendpoint : p.endpoint? endpointId with
    | none => exact .inl ⟨_, need_bind_none rfl⟩
    | some endpoint =>
      right
      rw [need_bind_some rfl]
      set cutoff := now - seconds windowSeconds
      obtain ⟨points, hpoints, hcharts⟩ := charts_of_sorted maxPoints (hostPoint_last total)
        (hostSamples_sorted p tables endpointId cutoff)
      set sampled := ((historyDevices p endpoint.id).map fun d =>
        (d, gpuReadings p tables d.id cutoff)).filter fun s => !s.2.isEmpty with hsampled
      have hreadings : ∀ entry ∈ sampled, entry.2 = gpuReadings p tables entry.1.id cutoff := by
        intro entry hentry
        obtain ⟨d, -, rfl⟩ := List.mem_map.1 (List.mem_filter.1 hentry).1
        rfl
      have hseries : ∀ entry ∈ sampled, ∃ series, gpuSeries total maxPoints sampled entry =
          .ok series ∧ series.gpuId = entry.1.id ∧ Charts maxPoints TelemetryCurrent.observedAt
            GPUPoint.observedAt entry.2 series.points := fun entry hentry =>
        gpuSeries_charts total maxPoints sampled (hreadings entry hentry ▸ gpuReadings_sorted ..)
      obtain ⟨all, hall⟩ := mapM_total (f := gpuSeries total maxPoints sampled) (l := sampled)
        fun entry hentry => (hseries entry hentry).imp fun _ h => h.1
      refine ⟨{
        endpointId := endpoint.id
        windowSeconds := windowSeconds
        pointCount := points.length
        points := points
        gpuSeries := all }, ?_, hcharts, ?_⟩
      · exact bind_ok.2 ⟨points, hpoints, bind_ok.2 ⟨all, hall, rfl⟩⟩
      -- each series answered is the one of its card
      intro series hmem
      obtain ⟨entry, hentry, hmade⟩ := exists_of_forall₂ (mapM_ok hall) hmem
      obtain ⟨series', hmade', hid, htold⟩ := hseries entry hentry
      rw [hmade, Except.ok.injEq] at hmade'
      subst hmade'
      rw [hid, ← hreadings entry hentry]
      exact htold
  · exact .inl ⟨_, require_bind_neg hwindow⟩

/-- **History buckets partition.** For every limit and every list of samples, the buckets are as
many as the limit or the samples, none is empty, they join to the list and differ in size by at
most one; no history raises, and the last point of each chart is at the time of the newest
sample. -/
theorem history_buckets (maxPoints : MaxPoints) :
    (∀ {α : Type} (values : List α),
      EvenParts (min maxPoints.value values.length) (bucketsFor maxPoints values) values) ∧
    ∀ (total : List ℚ → ℚ) (now : Time) (p : Plant) (tables : HistoryTables) (endpointId : String)
      (windowSeconds : ℤ),
      (∀ what, endpointHistory total now p tables endpointId windowSeconds maxPoints.value ≠
        .error (.raised what)) ∧
      ∀ reply, endpointHistory total now p tables endpointId windowSeconds maxPoints.value =
          .ok reply →
        Charts maxPoints HostTelemetry.observedAt HostPoint.observedAt
          (hostSamples p tables endpointId (now - seconds windowSeconds)) reply.points ∧
        ∀ series ∈ reply.gpuSeries,
          Charts maxPoints TelemetryCurrent.observedAt GPUPoint.observedAt
            (gpuReadings p tables series.gpuId (now - seconds windowSeconds)) series.points := by
  refine ⟨fun values => bucketsFor_even maxPoints values, ?_⟩
  intro total now p tables endpointId windowSeconds
  rcases endpointHistory_spec total now p tables endpointId windowSeconds maxPoints with
    ⟨e, he⟩ | ⟨reply, hreply, hcharts⟩
  · rw [he]
    exact ⟨nofun, nofun⟩
  · rw [hreply]
    refine ⟨nofun, ?_⟩
    intro reply' h
    rw [← Except.ok.inj h]
    exact hcharts

end ServerPilot
