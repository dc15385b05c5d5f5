import ServerPilot.Proof.Environment
import ServerPilot.Spec.Handoff

/-!
# One owner for each card

A card is an identity, its UUID, but a row is keyed by server and node. Ownership
converges when a complete observation finds the card present elsewhere
(`convergeOwnership`); an incomplete one does not look, and two nodes of one
server are never compared. `uuid_owned` says which runs keep one present row for
each card.
-/

namespace ServerPilot

open Rows Checked

/-! ## Row ids along a run -/

/-- Every row has the id its server, node and card make, and a server id has no colon. -/
def Plant.Named (p : Plant) : Prop :=
  ∀ g ∈ p.gpus, g.id = gpuIdOf g.endpointId g.nodeId g.gpuUuid ∧ ':' ∉ g.endpointId.toList

/-- At most one present row carries any UUID. -/
def Plant.Owned (p : Plant) : Prop :=
  ∀ g ∈ p.gpus, ∀ g' ∈ p.gpus, g.present = true → g'.present = true →
    g.gpuUuid = g'.gpuUuid → g.id = g'.id

/-- The ids the samples of a node land on are of no other card. -/
def Plant.Apart (p : Plant) (e n : String) (samples : List TelemetryInput) : Prop :=
  ∀ s ∈ samples, ∀ g ∈ p.gpus, g.id = gpuIdOf e n s.gpuUuid →
    g.endpointId = e ∧ g.nodeId = n ∧ g.gpuUuid = s.gpuUuid

section

variable {e n : String} {t : Time} {p p' : Plant} {g : GPUDevice} {s : TelemetryInput}
  {samples : List TelemetryInput}

theorem not_colon_of_matchesId {x : String} (h : matchesId x = true) : ':' ∉ x.toList := by
  unfold matchesId at h
  split at h
  · cases h
  rename_i c rest hx
  rw [hx]
  simp only [Bool.and_eq_true, List.all_eq_true] at h
  obtain ⟨⟨hc, hrest⟩, -⟩ := h
  intro hm
  rcases List.mem_cons.1 hm with rfl | hm
  · exact absurd hc (by decide)
  · exact absurd (hrest _ hm) (by decide)

/-- A row a sample inserts, or one that was there under the same identity. -/
theorem seeGpu_origin (hg : g ∈ (p.seeGpu e n t s).gpus) :
    (∃ a ∈ p.gpus, a.id = g.id ∧ a.endpointId = g.endpointId ∧ a.nodeId = g.nodeId ∧
      a.gpuUuid = g.gpuUuid) ∨
    g.id = gpuIdOf e n s.gpuUuid ∧ g.endpointId = e ∧ g.nodeId = n ∧ g.gpuUuid = s.gpuUuid := by
  unfold Plant.seeGpu at hg
  simp only at hg
  split at hg
  · obtain ⟨a, ha, ⟨-, rfl⟩ | ⟨-, rfl⟩⟩ := mem_updWhere.1 hg
    · exact Or.inl ⟨a, ha, rfl, rfl, rfl, rfl⟩
    · exact Or.inl ⟨g, ha, rfl, rfl, rfl, rfl⟩
  · rcases List.mem_append.1 hg with hg | hg
    · exact Or.inl ⟨g, hg, rfl, rfl, rfl, rfl⟩
    · obtain rfl := List.mem_singleton.1 hg
      exact Or.inr ⟨rfl, rfl, rfl, rfl⟩

/-- A row a sample does not land on stays. -/
theorem seeGpu_frame (hg : g ∈ p.gpus) (hid : g.id ≠ gpuIdOf e n s.gpuUuid) :
    g ∈ (p.seeGpu e n t s).gpus := by
  unfold Plant.seeGpu
  simp only
  split
  · exact mem_updWhere.2 ⟨g, hg, Or.inr ⟨decide_eq_false hid, rfl⟩⟩
  · exact List.mem_append_left _ hg

theorem Plant.Named.see (h : p.Named) (he : ':' ∉ e.toList) : (p.seeGpu e n t s).Named := by
  intro g hg
  rcases seeGpu_origin hg with ⟨a, ha, hid, hea, hna, hua⟩ | ⟨hid, rfl, rfl, hu⟩
  · rw [← hid, ← hea, ← hna, ← hua]
    exact h a ha
  · exact ⟨by rw [hid, hu], he⟩

theorem Plant.Apart.see (h : p.Apart e n samples) : (p.seeGpu e n t s).Apart e n samples := by
  intro x hx g hg hid
  rcases seeGpu_origin hg with ⟨a, ha, haid, hea, hna, hua⟩ | ⟨hs, he, hn, hu⟩
  · rw [← hea, ← hna, ← hua]
    exact h x hx a ha (haid.trans hid)
  · exact ⟨he, hn, hu.trans (gpuIdOf_uuid (hs.symm.trans hid))⟩

theorem seeGpu_ids (hn : (p.gpus.map GPUDevice.id).Nodup) :
    ((p.seeGpu e n t s).gpus.map GPUDevice.id).Nodup := by
  unfold Plant.seeGpu
  simp only
  split
  · rw [map_updWhere]
    · exact hn
    · intro a
      rfl
  · rename_i hnone
    rw [List.map_append, List.map_singleton]
    refine List.nodup_append.2 ⟨hn, List.nodup_singleton _, ?_⟩
    rintro a ha b hb rfl
    obtain ⟨g, hg, rfl⟩ := List.mem_map.1 ha
    have hid : g.id = gpuIdOf e n s.gpuUuid := List.mem_singleton.1 hb
    have hfound : p.gpu? (gpuIdOf e n s.gpuUuid) ≠ none := fun h => row?_none h g hg hid
    exact hnone (Option.isSome_iff_ne_none.2 hfound)

/-- What the samples of a node leave: their own rows, and the rows they do not land on. -/
structure Sampled (e n : String) (samples : List TelemetryInput) (p q : Plant) : Prop where
  named : q.Named
  ids : (q.gpus.map GPUDevice.id).Nodup
  landed : ∀ g ∈ q.gpus, ∀ s ∈ samples, g.id = gpuIdOf e n s.gpuUuid →
    g.endpointId = e ∧ g.nodeId = n ∧ g.gpuUuid = s.gpuUuid
  other : ∀ g ∈ q.gpus, (∀ s ∈ samples, g.id ≠ gpuIdOf e n s.gpuUuid) → g ∈ p.gpus
  frame : ∀ g ∈ p.gpus, (∀ s ∈ samples, g.id ≠ gpuIdOf e n s.gpuUuid) → g ∈ q.gpus

theorem seeCards_sampled (h : p.Named) (hids : (p.gpus.map GPUDevice.id).Nodup)
    (he : ':' ∉ e.toList) (o : NodeObservation) (now : Time) (ha : p.Apart e o.nodeId o.gpus) :
    Sampled e o.nodeId o.gpus p ((p.readHost e o now).seeCards e o now) := by
  have hgpus := seeCards_gpus (p.readHost e o now) e o now
  set q := o.gpus.foldl (Plant.seeGpu e o.nodeId o.observedAt) (p.readHost e o now) with hq
  have hfold : q.Named ∧ (q.gpus.map GPUDevice.id).Nodup ∧ q.Apart e o.nodeId o.gpus := by
    apply Run.foldl_inv (I := fun r : Plant =>
      r.Named ∧ (r.gpus.map GPUDevice.id).Nodup ∧ r.Apart e o.nodeId o.gpus)
    · rintro r s - ⟨hr, hri, hra⟩
      exact ⟨hr.see he, seeGpu_ids hri, hra.see⟩
    · exact ⟨h, hids, ha⟩
  have hother : ∀ g ∈ q.gpus, (∀ s ∈ o.gpus, g.id ≠ gpuIdOf e o.nodeId s.gpuUuid) →
      g ∈ p.gpus := by
    intro g hg hnone
    rcases mem_seeGpus (hq ▸ hg) with ⟨s, hs, hid, -⟩ | ⟨hg, -⟩
    · exact absurd hid (hnone s hs)
    · exact hg
  have hframe : ∀ g ∈ p.gpus, (∀ s ∈ o.gpus, g.id ≠ gpuIdOf e o.nodeId s.gpuUuid) →
      g ∈ q.gpus := by
    intro g hg hnone
    apply Run.foldl_inv (I := fun r : Plant => g ∈ r.gpus)
    · intro r s hs hr
      exact seeGpu_frame hr (hnone s hs)
    · exact hg
  obtain ⟨hnamed, hnodup, hapart⟩ := hfold
  constructor
  case named => intro g hg; exact hnamed g (hgpus ▸ hg)
  case ids => rw [hgpus]; exact hnodup
  case landed => intro g hg s hs hid; exact hapart s hs g (hgpus ▸ hg) hid
  case other => intro g hg; exact hother g (hgpus ▸ hg)
  case frame => intro g hg hnone; exact hgpus ▸ hframe g hg hnone

end

/-! ## One node -/

/-- A later node of the same look leaves this row out, completely. -/
def Plant.Doomed (p : Plant) (e : String) (rest : List NodeObservation) (g : GPUDevice) : Prop :=
  ∃ m ∈ rest, g.endpointId = e ∧ g.nodeId = m.nodeId ∧ p.staleNode e m = false ∧
    m.observationComplete = true ∧ g.gpuUuid ∉ m.gpus.map TelemetryInput.gpuUuid

instance (p : Plant) (e : String) (rest : List NodeObservation) (g : GPUDevice) :
    Decidable (p.Doomed e rest g) := inferInstanceAs (Decidable (∃ m ∈ rest, _))

/-- A node may be taken in, before `rest`: no sample lands on another card's row; a card present
on another server is reported by a complete observation; and one present on another node of the
server is about to be left out there. -/
def Plant.nodeConverges (p : Plant) (e : String) (o : NodeObservation)
    (rest : List NodeObservation) : Prop :=
  p.staleNode e o = true ∨
    (p.Apart e o.nodeId o.gpus ∧ ∀ s ∈ o.gpus, ∀ g ∈ p.gpus, g.present = true →
      g.gpuUuid = s.gpuUuid →
      (g.endpointId ≠ e → o.observationComplete = true) ∧
      (g.endpointId = e → g.nodeId ≠ o.nodeId → p.Doomed e rest g))

instance (p : Plant) (e n : String) (samples : List TelemetryInput) :
    Decidable (p.Apart e n samples) := inferInstanceAs (Decidable (∀ s ∈ samples, _))

instance (p : Plant) (e : String) (o : NodeObservation) (rest : List NodeObservation) :
    Decidable (p.nodeConverges e o rest) := inferInstanceAs (Decidable (_ ∨ _))

/-- At most one present row carries any UUID, once the nodes of `rest` were taken in. -/
def Plant.OwnedAfter (p : Plant) (e : String) (rest : List NodeObservation) : Prop :=
  ∀ g ∈ p.gpus, ∀ g' ∈ p.gpus, g.present = true → g'.present = true →
    ¬ p.Doomed e rest g → ¬ p.Doomed e rest g' → g.gpuUuid = g'.gpuUuid → g.id = g'.id

section

variable {e : String} {p q : Plant} {cfg : Config} {now : Time} {b : Broker}
  {o : NodeObservation} {rest : List NodeObservation} {g : GPUDevice}

/-- A row a complete look marks in neither pass: not displaced, not standing down, not left out. -/
structure Spared (cfg : Config) (e : String) (o : NodeObservation) (q : Plant) (g : GPUDevice) :
    Prop where
  stale : ∀ x ∈ q.gpus, siblingOf e (o.gpus.map TelemetryInput.gpuUuid) x = true →
    incumbent cfg o.observedAt x = false → g.id ≠ x.id
  fresh : ∀ x ∈ q.gpus, siblingOf e (o.gpus.map TelemetryInput.gpuUuid) x = true →
    incumbent cfg o.observedAt x = true → ∀ s ∈ o.gpus, s.gpuUuid = x.gpuUuid →
      g.id ≠ gpuIdOf e o.nodeId s.gpuUuid
  listed : g.endpointId = e → g.nodeId = o.nodeId →
    ∃ s ∈ o.gpus, g.id = gpuIdOf e o.nodeId s.gpuUuid

theorem mine_uuids (e : String) (o : NodeObservation) :
    (o.gpus.map fun s => (s.gpuUuid, gpuIdOf e o.nodeId s.gpuUuid)).map Prod.fst =
      o.gpus.map TelemetryInput.gpuUuid := by
  rw [List.map_map]
  rfl

/-- The rows after a node was taken in: those its samples left, spared if the look is complete. -/
theorem mem_ingested (hs : b.plant.staleNode e o = false)
    (hg : g ∈ (ingestNodeObservation cfg e now b o).plant.gpus) (hpresent : g.present = true) :
    g ∈ ((b.plant.readHost e o now).seeCards e o now).gpus ∧ (o.observationComplete = true →
      Spared cfg e o ((b.plant.readHost e o now).seeCards e o now) g) := by
  unfold ingestNodeObservation at hg
  rw [if_neg (by rw [hs]; exact Bool.false_ne_true)] at hg
  simp only [seeProcesses_gpus] at hg
  cases hc : o.observationComplete with
  | false =>
    simp only [hc, Bool.not_false, if_true] at hg
    exact ⟨hg, fun h => absurd h Bool.false_ne_true⟩
  | true =>
    simp only [hc, Bool.not_true, Bool.false_eq_true, if_false, releaseAbsentKeepers_gpus] at hg
    obtain ⟨hg, hlisted⟩ := present_of_hide hg hpresent
    obtain ⟨hg, hlost⟩ := present_of_hide hg hpresent
    have hlost := of_decide_eq_false hlost
    rw [mine_uuids, List.mem_append, not_or] at hlost
    refine ⟨hg, fun _ => ⟨?_, ?_, ?_⟩⟩
    · intro x hx hsib hstale hid
      refine hlost.1 (List.mem_map.2 ⟨x, ?_, hid.symm⟩)
      exact List.mem_filter.2 ⟨List.mem_filter.2 ⟨hx, hsib⟩, by rw [hstale]; rfl⟩
    · intro x hx hsib hfresh s hsm hsx hid
      refine hlost.2 (List.mem_map.2 ⟨_, List.mem_filter.2 ⟨List.mem_map.2 ⟨s, hsm, rfl⟩, ?_⟩,
        hid.symm⟩)
      refine decide_eq_true (List.mem_map.2 ⟨x, ?_, hsx.symm⟩)
      exact List.mem_filter.2 ⟨List.mem_filter.2 ⟨hx, hsib⟩, hfresh⟩
    · intro he hn
      by_contra hout
      refine of_decide_eq_false hlisted ⟨he, hn, fun hin => hout ?_, hpresent⟩
      rw [List.map_map] at hin
      obtain ⟨s, hsm, hid⟩ := List.mem_map.1 hin
      exact ⟨s, hsm, hid.symm⟩

/-- A row that lost nothing and was not left out stays. -/
theorem ingested_mem (hs : b.plant.staleNode e o = false)
    (hg : g ∈ ((b.plant.readHost e o now).seeCards e o now).gpus)
    (hids : (((b.plant.readHost e o now).seeCards e o now).gpus.map GPUDevice.id).Nodup)
    (he : g.endpointId ≠ e) (hmine : ∀ s ∈ o.gpus, g.id ≠ gpuIdOf e o.nodeId s.gpuUuid)
    (hfresh : g.gpuUuid ∈ o.gpus.map TelemetryInput.gpuUuid →
      incumbent cfg o.observedAt g = true) :
    g ∈ (ingestNodeObservation cfg e now b o).plant.gpus := by
  unfold ingestNodeObservation
  rw [if_neg (by rw [hs]; exact Bool.false_ne_true)]
  simp only [seeProcesses_gpus]
  cases hc : o.observationComplete with
  | false =>
    simp only [Bool.not_false, if_true]
    exact hg
  | true =>
    simp only [Bool.not_true, Bool.false_eq_true, if_false, releaseAbsentKeepers_gpus]
    refine mem_updWhere.2 ⟨g, ?_, Or.inr ⟨decide_eq_false fun h => he h.1, rfl⟩⟩
    refine mem_updWhere.2 ⟨g, hg, Or.inr ⟨decide_eq_false fun hlost => ?_, rfl⟩⟩
    rcases List.mem_append.1 hlost with hlost | hlost
    · -- only this row has its id, and it is seen within the limit
      obtain ⟨x, hx, hid⟩ := List.mem_map.1 hlost
      obtain ⟨hx, hstale⟩ := List.mem_filter.1 hx
      obtain ⟨hx, hsib⟩ := List.mem_filter.1 hx
      obtain rfl : x = g := List.inj_on_of_nodup_map hids hx hg hid
      have hin := (of_decide_eq_true hsib).1
      rw [List.map_map] at hin
      rw [hfresh hin] at hstale
      cases hstale
    · obtain ⟨m, hm, hid⟩ := List.mem_map.1 hlost
      obtain ⟨s, hsm, rfl⟩ := List.mem_map.1 (List.mem_filter.1 hm).1
      exact hmine s hsm hid.symm

theorem seeProcesses_hosts (p : Plant) (e : String) (o : NodeObservation) :
    (p.seeProcesses cfg e o now).hosts = p.hosts := by
  unfold Plant.seeProcesses
  simp only [Plant.setNodeState, Plant.advanceProcessAbsence]
  apply Run.foldl_inv (I := fun q : Plant => q.hosts = p.hosts) _ rfl
  intro q x _ hq
  rw [← hq]
  unfold Plant.sight
  simp only
  split
  · rfl
  split <;> rfl

theorem seeCards_hosts (p : Plant) (e : String) (o : NodeObservation) :
    (p.seeCards e o now).hosts = p.hosts := by
  unfold Plant.seeCards
  apply Run.foldl_inv (I := fun q : Plant => q.hosts = p.hosts)
  · intro q s _ hq
    rw [← hq]
    rfl
  · apply Run.foldl_inv (I := fun q : Plant => q.hosts = p.hosts) _ rfl
    intro q s _ hq
    rw [← hq]
    rfl

theorem releaseAbsentKeepers_hosts (b : Broker) (endpointIds : List String) :
    (b.releaseAbsentKeepers endpointIds now).plant.hosts = b.plant.hosts := by
  unfold Broker.releaseAbsentKeepers
  simp only
  split <;> rfl

/-- A node's reading is its own: the other nodes' stay as they were. -/
theorem ingested_host (b : Broker) (e m : String) (o : NodeObservation) (hm : m ≠ o.nodeId) :
    (ingestNodeObservation cfg e now b o).plant.host? e m = b.plant.host? e m := by
  have hread : (b.plant.readHost e o now).host? e m = b.plant.host? e m := by
    unfold Plant.readHost Plant.host?
    simp only
    rw [row?_append, row?_filter]
    · rw [show ∀ h : HostTelemetry, h.nodeId = o.nodeId →
          row? (fun h : HostTelemetry => (h.endpointId, h.nodeId)) (e, m) [h] = none from ?_,
        Option.or_none]
      · rfl
      · intro h hh
        simp [row?, hh, hm.symm]
    · intro h _ hk
      have hn : h.nodeId = m := congrArg Prod.snd hk
      exact decide_eq_true fun hx => hm (hn.symm.trans hx.2)
  have hhosts : (ingestNodeObservation cfg e now b o).plant.hosts = b.plant.hosts ∨
      (ingestNodeObservation cfg e now b o).plant.hosts = (b.plant.readHost e o now).hosts := by
    unfold ingestNodeObservation
    split
    · exact Or.inl rfl
    refine Or.inr ?_
    simp only [seeProcesses_hosts]
    split
    · exact seeCards_hosts _ _ _
    · rw [releaseAbsentKeepers_hosts]
      exact seeCards_hosts _ _ _
  rcases hhosts with h | h
  · unfold Plant.host?
    rw [h]
  · rw [← hread]
    unfold Plant.host?
    rw [h]

theorem ingested_staleNode (b : Broker) {m : NodeObservation} (hm : m.nodeId ≠ o.nodeId) :
    (ingestNodeObservation cfg e now b o).plant.staleNode e m = b.plant.staleNode e m := by
  unfold Plant.staleNode
  rw [ingested_host b e m.nodeId o hm]

theorem ingested_doomed (b : Broker) (hrest : ∀ m ∈ rest, m.nodeId ≠ o.nodeId) :
    (ingestNodeObservation cfg e now b o).plant.Doomed e rest g ↔ b.plant.Doomed e rest g := by
  constructor
  · rintro ⟨m, hm, he, hn, hs, h⟩
    exact ⟨m, hm, he, hn, (ingested_staleNode b (hrest m hm)) ▸ hs, h⟩
  · rintro ⟨m, hm, he, hn, hs, h⟩
    exact ⟨m, hm, he, hn, (ingested_staleNode b (hrest m hm)).symm ▸ hs, h⟩

/-- A row no sample landed on was there before, and is not for this node to leave out. -/
theorem Sampled.old (hq : Sampled e o.nodeId o.gpus p q) (hg : g ∈ q.gpus)
    (hnone : ∀ s ∈ o.gpus, g.id ≠ gpuIdOf e o.nodeId s.gpuUuid) (hd : ¬ p.Doomed e rest g)
    (hc : o.observationComplete = true → Spared cfg e o q g) :
    g ∈ p.gpus ∧ ¬ p.Doomed e (o :: rest) g := by
  refine ⟨hq.other g hg hnone, ?_⟩
  rintro ⟨m, hm, he, hn, hs, hcomplete, hout⟩
  rcases List.mem_cons.1 hm with rfl | hm
  · obtain ⟨s, hsm, hid⟩ := (hc hcomplete).listed he hn
    exact hnone s hsm hid
  · exact hd ⟨m, hm, he, hn, hs, hcomplete, hout⟩

/-- A row a sample landed on meets no other present row of its card. -/
theorem Sampled.alone (hq : Sampled e o.nodeId o.gpus p q) (hp : p.Named)
    (hc : ∀ s ∈ o.gpus, ∀ g ∈ p.gpus, g.present = true → g.gpuUuid = s.gpuUuid →
      (g.endpointId ≠ e → o.observationComplete = true) ∧
      (g.endpointId = e → g.nodeId ≠ o.nodeId → p.Doomed e rest g))
    {x y : GPUDevice} (hx : x ∈ q.gpus) (hy : y ∈ q.gpus)
    (hxc : o.observationComplete = true → Spared cfg e o q x)
    (hyc : o.observationComplete = true → Spared cfg e o q y)
    (hland : ∃ s ∈ o.gpus, x.id = gpuIdOf e o.nodeId s.gpuUuid)
    (hnone : ∀ s ∈ o.gpus, y.id ≠ gpuIdOf e o.nodeId s.gpuUuid) (hyp : y.present = true)
    (hyd : ¬ p.Doomed e rest y) (huuid : y.gpuUuid = x.gpuUuid) : False := by
  obtain ⟨s, hsm, hid⟩ := hland
  have hyold : y ∈ p.gpus := hq.other y hy hnone
  have hyu : y.gpuUuid = s.gpuUuid := huuid.trans (hq.landed x hx s hsm hid).2.2
  obtain ⟨helse, hown⟩ := hc s hsm y hyold hyp hyu
  by_cases hye : y.endpointId = e
  · -- on this server: another node's row, which a later node leaves out
    refine hyd (hown hye fun hyn => hnone s hsm ?_)
    rw [(hp y hyold).1, hye, hyn, hyu]
  · -- elsewhere: convergence took the card from one of the two
    have hcomplete := helse hye
    have hsib : siblingOf e (o.gpus.map TelemetryInput.gpuUuid) y = true :=
      decide_eq_true ⟨List.mem_map.2 ⟨s, hsm, hyu.symm⟩, hye, hyp⟩
    cases hi : incumbent cfg o.observedAt y with
    | false => exact (hyc hcomplete).stale y hy hsib hi rfl
    | true => exact (hxc hcomplete).fresh y hy hsib hi s hsm hyu.symm hid

/-- **One node.** If it may be taken in, what is owned after it was owned after it and the rest. -/
theorem ownedAfter_ingest (hp : b.plant.Named) (hids : (b.plant.gpus.map GPUDevice.id).Nodup)
    (he : ':' ∉ e.toList) (hrest : ∀ m ∈ rest, m.nodeId ≠ o.nodeId)
    (hc : b.plant.nodeConverges e o rest) (h : b.plant.OwnedAfter e (o :: rest)) :
    (ingestNodeObservation cfg e now b o).plant.OwnedAfter e rest := by
  cases hs : b.plant.staleNode e o with
  | true =>
    have hsame : ingestNodeObservation cfg e now b o = b := by
      unfold ingestNodeObservation
      rw [if_pos hs]
    have hdoomed : ∀ g, b.plant.Doomed e (o :: rest) g → b.plant.Doomed e rest g := by
      rintro g ⟨m, hm, hme, hmn, hms, hmc⟩
      rcases List.mem_cons.1 hm with rfl | hm
      · rw [hs] at hms
        cases hms
      · exact ⟨m, hm, hme, hmn, hms, hmc⟩
    rw [hsame]
    intro g hg g' hg' hgp hgp' hd hd'
    exact h g hg g' hg' hgp hgp' (fun hx => hd (hdoomed g hx)) fun hx => hd' (hdoomed g' hx)
  | false =>
    obtain ⟨hapart, hshown⟩ := hc.resolve_left (by rw [hs]; exact Bool.false_ne_true)
    have hq := seeCards_sampled hp hids he o now hapart
    intro g hg g' hg' hgp hgp' hd hd' huuid
    obtain ⟨hg, hgc⟩ := mem_ingested hs hg hgp
    obtain ⟨hg', hgc'⟩ := mem_ingested hs hg' hgp'
    rw [ingested_doomed b hrest] at hd hd'
    by_cases hl : ∃ s ∈ o.gpus, g.id = gpuIdOf e o.nodeId s.gpuUuid
    · by_cases hl' : ∃ s ∈ o.gpus, g'.id = gpuIdOf e o.nodeId s.gpuUuid
      · obtain ⟨s, hsm, hid⟩ := hl
        obtain ⟨s', hsm', hid'⟩ := hl'
        have hu := (hq.landed g hg s hsm hid).2.2
        have hu' := (hq.landed g' hg' s' hsm' hid').2.2
        rw [hid, hid', ← hu, ← hu', huuid]
      · have hnone : ∀ s ∈ o.gpus, g'.id ≠ gpuIdOf e o.nodeId s.gpuUuid :=
          fun s hsm hid => hl' ⟨s, hsm, hid⟩
        exact (hq.alone hp hshown hg hg' hgc hgc' hl hnone hgp' hd' huuid.symm).elim
    · have hnone : ∀ s ∈ o.gpus, g.id ≠ gpuIdOf e o.nodeId s.gpuUuid :=
        fun s hsm hid => hl ⟨s, hsm, hid⟩
      by_cases hl' : ∃ s ∈ o.gpus, g'.id = gpuIdOf e o.nodeId s.gpuUuid
      · exact (hq.alone hp hshown hg' hg hgc' hgc hl' hnone hgp hd huuid).elim
      · have hnone' : ∀ s ∈ o.gpus, g'.id ≠ gpuIdOf e o.nodeId s.gpuUuid :=
          fun s hsm hid => hl' ⟨s, hsm, hid⟩
        obtain ⟨hm, hmd⟩ := hq.old hg hnone hd hgc
        obtain ⟨hm', hmd'⟩ := hq.old hg' hnone' hd' hgc'
        exact h g hm g' hm' hgp hgp' hmd hmd' huuid

theorem named_seen (hp : p.Named) (he : ':' ∉ e.toList) :
    ((p.readHost e o now).seeCards e o now).Named := by
  intro g hg
  rw [seeCards_gpus] at hg
  revert g
  apply Run.foldl_inv (I := Plant.Named)
  · intro r s _ hr
    exact hr.see he
  · exact hp

theorem ids_seen (hids : (p.gpus.map GPUDevice.id).Nodup) :
    (((p.readHost e o now).seeCards e o now).gpus.map GPUDevice.id).Nodup := by
  rw [seeCards_gpus]
  apply Run.foldl_inv (I := fun r : Plant => (r.gpus.map GPUDevice.id).Nodup)
  · intro r s _ hr
    exact seeGpu_ids hr
  · exact hids

/-- Marking cards absent keeps their ids. -/
theorem ids_hide {x : GPUDevice → Bool} {t : Time} {l : List GPUDevice} :
    (updWhere x (GPUDevice.hidden t) l).map GPUDevice.id = l.map GPUDevice.id :=
  map_updWhere l fun _ => rfl

/-- Row ids keep their form through a node that lands on no other card's row. -/
theorem named_ingest (hp : b.plant.Named) (he : ':' ∉ e.toList) :
    (ingestNodeObservation cfg e now b o).plant.Named := by
  have hsee : ((b.plant.readHost e o now).seeCards e o now).Named := named_seen hp he
  have hhide : ∀ {x : GPUDevice → Bool} {t : Time} {l : List GPUDevice},
      (∀ g ∈ l, g.id = gpuIdOf g.endpointId g.nodeId g.gpuUuid ∧ ':' ∉ g.endpointId.toList) →
      ∀ g ∈ updWhere x (GPUDevice.hidden t) l,
        g.id = gpuIdOf g.endpointId g.nodeId g.gpuUuid ∧ ':' ∉ g.endpointId.toList := by
    intro x t l hl g hg
    obtain ⟨a, ha, ⟨-, rfl⟩ | ⟨-, rfl⟩⟩ := mem_updWhere.1 hg
    · exact hl a ha
    · exact hl g ha
  unfold ingestNodeObservation
  split
  · exact hp
  intro g hg
  simp only [seeProcesses_gpus] at hg
  split at hg
  · exact hsee g hg
  · rw [releaseAbsentKeepers_gpus] at hg
    exact hhide (hhide hsee) g hg

theorem ids_ingest (hids : (b.plant.gpus.map GPUDevice.id).Nodup) :
    ((ingestNodeObservation cfg e now b o).plant.gpus.map GPUDevice.id).Nodup := by
  have hsee : (((b.plant.readHost e o now).seeCards e o now).gpus.map GPUDevice.id).Nodup :=
    ids_seen hids
  unfold ingestNodeObservation
  split
  · exact hids
  simp only [seeProcesses_gpus]
  split
  · exact hsee
  · rw [releaseAbsentKeepers_gpus]
    unfold Plant.markAbsent Plant.convergeOwnership
    exact (ids_hide.trans ids_hide).symm ▸ hsee

/-- A card of another server that every look at it finds seen within the limit is left alone. -/
theorem ingest_keeps (hp : b.plant.Named) (he : ':' ∉ e.toList)
    (hids : (b.plant.gpus.map GPUDevice.id).Nodup) (hg : g ∈ b.plant.gpus) (hge : g.endpointId ≠ e)
    (hfresh : g.gpuUuid ∈ o.gpus.map TelemetryInput.gpuUuid →
      incumbent cfg o.observedAt g = true) :
    g ∈ (ingestNodeObservation cfg e now b o).plant.gpus := by
  cases hs : b.plant.staleNode e o with
  | true =>
    unfold ingestNodeObservation
    rw [if_pos hs]
    exact hg
  | false =>
    have hmine : ∀ s ∈ o.gpus, g.id ≠ gpuIdOf e o.nodeId s.gpuUuid := by
      intro s _ hid
      obtain ⟨hform, hcolon⟩ := hp g hg
      exact hge (gpuIdOf_endpoint hcolon he (hform.symm.trans hid))
    have hseen : ∀ q : Plant, g ∈ q.gpus →
        g ∈ (o.gpus.foldl (Plant.seeGpu e o.nodeId o.observedAt) q).gpus := by
      intro q hq
      apply Run.foldl_inv (I := fun r : Plant => g ∈ r.gpus) _ hq
      intro r s hsm hr
      exact seeGpu_frame hr (hmine s hsm)
    have hseenIds : ∀ q : Plant, (q.gpus.map GPUDevice.id).Nodup →
        ((o.gpus.foldl (Plant.seeGpu e o.nodeId o.observedAt) q).gpus.map GPUDevice.id).Nodup := by
      intro q hq
      apply Run.foldl_inv (I := fun r : Plant => (r.gpus.map GPUDevice.id).Nodup) _ hq
      intro r s _ hr
      exact seeGpu_ids hr
    refine ingested_mem hs ?_ ?_ hge hmine hfresh
    · rw [seeCards_gpus]
      exact hseen _ hg
    · rw [seeCards_gpus]
      exact hseenIds _ hids

end

/-! ## One observation -/

/-- Each node in its turn may be taken in. -/
def Broker.nodesConverge (cfg : Config) (e : String) (now : Time) :
    List NodeObservation → Broker → Prop
  | [], _ => True
  | o :: rest, b => b.plant.nodeConverges e o rest ∧
      Broker.nodesConverge cfg e now rest (ingestNodeObservation cfg e now b o)

instance Broker.nodesConverge.decidable (cfg : Config) (e : String) (now : Time) :
    ∀ (ns : List NodeObservation) (b : Broker), Decidable (b.nodesConverge cfg e now ns)
  | [], _ => isTrue trivial
  | _ :: rest, _ =>
    have := Broker.nodesConverge.decidable cfg e now rest
    inferInstanceAs (Decidable (_ ∧ _))

/-- The step an observation is to ownership: not too old to be taken in, its nodes converge. -/
def Broker.converges (cfg : Config) (b : Broker) : Op → Prop
  | .ingestObservation now o _ => b.plant.staleObservation o = true ∨
      { b with ledger := b.ledger.bumpRevision }.nodesConverge cfg o.endpointId now o.nodes
  | _ => True

theorem converges_iff {cfg : Config} {b : Broker} {op : Op} :
    b.converges cfg op ↔ ∀ p ∈ op.observation, b.plant.staleObservation p.2 = true ∨
      { b with ledger := b.ledger.bumpRevision }.nodesConverge cfg p.2.endpointId p.1
        p.2.nodes := by
  cases op with
  | ingestObservation now o token =>
    refine ⟨fun h p hp => ?_, fun h => h _ rfl⟩
    obtain rfl := Option.some.inj hp
    exact h
  | _ => exact ⟨fun _ _ hp => (by cases hp), fun _ => trivial⟩

instance (cfg : Config) (b : Broker) (op : Op) : Decidable (b.converges cfg op) :=
  decidable_of_iff _ converges_iff.symm

/-- The server an observation is of has an id of the schema's form. -/
def Op.namesServer (op : Op) : Prop := ∀ p ∈ op.observation, matchesId p.2.endpointId = true

section

variable {e : String} {cfg : Config} {now : Time} {b b' : Broker} {g : GPUDevice}

theorem owned_nodes (he : ':' ∉ e.toList) (ns : List NodeObservation)
    (hns : (ns.map NodeObservation.nodeId).Nodup) {b : Broker} (hp : b.plant.Named)
    (hids : (b.plant.gpus.map GPUDevice.id).Nodup) (h : b.plant.OwnedAfter e ns)
    (hc : b.nodesConverge cfg e now ns) :
    (ns.foldl (ingestNodeObservation cfg e now) b).plant.Owned := by
  induction ns generalizing b with
  | nil =>
    intro g hg g' hg' hgp hgp' huuid
    have hnone : ∀ x, ¬ b.plant.Doomed e [] x := by
      rintro x ⟨m, hm, -⟩
      cases hm
    exact h g hg g' hg' hgp hgp' (hnone g) (hnone g') huuid
  | cons o rest ih =>
    obtain ⟨hout, hrest⟩ := List.nodup_cons.1 hns
    have hne : ∀ m ∈ rest, m.nodeId ≠ o.nodeId := by
      intro m hm heq
      exact hout (heq ▸ List.mem_map.2 ⟨m, hm, rfl⟩)
    exact ih hrest (named_ingest hp he) (ids_ingest hids)
      (ownedAfter_ingest hp hids he hne hc.1 h) hc.2

theorem named_absorb (he : ∀ x, x = e → ':' ∉ x.toList) (hp : b.plant.Named)
    {o : EndpointObservation} (hoe : o.endpointId = e) : (b.absorb cfg now o).plant.Named := by
  intro g hg
  rw [absorb_gpus] at hg
  revert g
  apply Run.foldl_inv (I := fun s : Broker => s.plant.Named)
  · intro s n _ hs
    exact named_ingest hs (he _ hoe)
  · exact hp

/-- **One transaction** keeps the form of the row ids, and one owner where it converges. -/
theorem owned_exec (hk : Kept b) (hp : b.plant.Named) {op : Op} (hop : op.namesServer) :
    (exec cfg b op).plant.Named ∧
      (b.plant.Owned → b.converges cfg op → (exec cfg b op).plant.Owned) := by
  have hsub : ∀ {p' : Plant}, (∀ g ∈ p'.gpus, g ∈ b.plant.gpus) →
      p'.Named ∧ (b.plant.Owned → b.converges cfg op → p'.Owned) := by
    intro p' hsub
    refine ⟨fun g hg => hp g (hsub g hg), fun ho _ g hg g' hg' => ?_⟩
    exact ho g (hsub g hg) g' (hsub g' hg')
  rcases exec_cases cfg b op with ⟨b', r, hok, hexec⟩ | ⟨-, hexec⟩
  · rw [hexec]
    rcases apply_inventory hk hok with heq | ⟨⟨now, o, token, rfl⟩, -⟩ | ⟨d, -, heq⟩
    · exact hsub fun g hg => heq ▸ hg
    · have hcolon : ':' ∉ o.endpointId.toList := not_colon_of_matchesId (hop (now, o) rfl)
      cases hs : b.plant.staleObservation o with
      | true => exact ingestObservation_ignored hok hs ▸ hsub fun g hg => hg
      | false =>
        rw [ingestObservation_taken hok hs]
        refine ⟨named_absorb (fun x hx => hx ▸ hcolon) hp rfl, fun ho hc => ?_⟩
        have hc := hc.resolve_left (by rw [hs]; exact Bool.false_ne_true)
        have hns : (o.nodes.map NodeObservation.nodeId).Nodup :=
          (List.nodup_append.1 o.unique_nodes).1
        have hafter := owned_nodes hcolon o.nodes hns
          (b := { b with ledger := b.ledger.bumpRevision }) hp hk.intact.gpuPk
          (fun g hg g' hg' hgp hgp' _ _ => ho g hg g' hg' hgp hgp') hc
        intro g hg g' hg'
        rw [absorb_gpus] at hg hg'
        exact hafter g hg g' hg'
    · exact hsub fun g hg => List.mem_of_mem_filter (heq ▸ hg)
  · rw [hexec]
    exact hsub fun g hg => hg

/-- Rows keep their form through every run. -/
theorem named_run {ops : List Op} (hk : Kept b) (hp : b.plant.Named)
    (hops : ∀ op ∈ ops, op.namesServer) : (Run.run (exec cfg) b ops).plant.Named := by
  induction ops generalizing b with
  | nil => exact hp
  | cons op ops ih =>
    obtain ⟨hop, hops⟩ := List.forall_mem_cons.1 hops
    exact ih (exec_kept cfg b op hk) (owned_exec hk hp hop).1 hops

theorem owned_run {ops : List Op} (hk : Kept b) (hp : b.plant.Named) (ho : b.plant.Owned)
    (hops : ∀ op ∈ ops, op.namesServer) (ha : Run.Along (exec cfg) (Broker.converges cfg) b ops) :
    (Run.run (exec cfg) b ops).plant.Owned := by
  induction ops generalizing b with
  | nil => exact ho
  | cons op ops ih =>
    obtain ⟨hop, hops⟩ := List.forall_mem_cons.1 hops
    have hstep : (exec cfg b op).plant.Named ∧
        (b.plant.Owned → b.converges cfg op → (exec cfg b op).plant.Owned) := owned_exec hk hp hop
    obtain ⟨hnamed, howned⟩ := hstep
    exact ih (exec_kept cfg b op hk) hnamed (howned ho ha.1) hops ha.2

/-- **The incumbent stays.** No observation takes a card from another server that its looks find
seen within the limit. -/
theorem incumbent_stays (hk : Kept b) (hp : b.plant.Named) {o : EndpointObservation}
    (ho : matchesId o.endpointId = true) (token : String → String → String)
    (hg : g ∈ b.plant.gpus) (hge : g.endpointId ≠ o.endpointId)
    (hfresh : ∀ n ∈ o.nodes, g.gpuUuid ∈ n.gpus.map TelemetryInput.gpuUuid →
      n.observedAt - cfg.staleAfter ≤ g.lastSeenAt) :
    g ∈ (exec cfg b (.ingestObservation now o token)).plant.gpus := by
  have hcolon : ':' ∉ o.endpointId.toList := not_colon_of_matchesId ho
  rcases exec_cases cfg b (.ingestObservation now o token) with ⟨b', r, hok, hexec⟩ | ⟨-, hexec⟩
  · rw [hexec]
    cases hs : b.plant.staleObservation o with
    | true => exact ingestObservation_ignored hok hs ▸ hg
    | false =>
      rw [ingestObservation_taken hok hs, absorb_gpus]
      have hfold : ∀ s : Broker, s = o.nodes.foldl (ingestNodeObservation cfg o.endpointId now)
          { b with ledger := b.ledger.bumpRevision } →
          s.plant.Named ∧ (s.plant.gpus.map GPUDevice.id).Nodup ∧ g ∈ s.plant.gpus := by
        rintro s rfl
        apply Run.foldl_inv (I := fun s : Broker => s.plant.Named ∧
          (s.plant.gpus.map GPUDevice.id).Nodup ∧ g ∈ s.plant.gpus)
        · rintro s n hn ⟨hsp, hsi, hsg⟩
          refine ⟨named_ingest hsp hcolon, ids_ingest hsi, ?_⟩
          exact ingest_keeps hsp hcolon hsi hsg hge fun hin => decide_eq_true (hfresh n hn hin)
        · exact ⟨hp, hk.intact.gpuPk, hg⟩
      exact (hfold _ rfl).2.2
  · rw [hexec]
    exact hg

end

/-- **UUID ownership.** In every run whose observations converge at most one present row carries any
UUID; and in every run, an observation never displaces a present row of another server that is seen
within the staleness limit of its looks. -/
theorem uuid_owned {cfg : Config} {b₀ : Broker} (hs : Seeded b₀) {ops : List Op}
    (hops : ∀ op ∈ ops, op.namesServer) :
    (Run.Along (exec cfg) (Broker.converges cfg) b₀ ops →
      (((Run.run (exec cfg) b₀ ops).plant.gpus.filter fun g => g.present = true).map
        GPUDevice.gpuUuid).Nodup) ∧
    ∀ (now : Time) (o : EndpointObservation) (token : String → String → String),
      matchesId o.endpointId = true → ∀ g ∈ (Run.run (exec cfg) b₀ ops).plant.gpus,
        g.present = true → g.endpointId ≠ o.endpointId →
        (∀ n ∈ o.nodes, g.gpuUuid ∈ n.gpus.map TelemetryInput.gpuUuid →
          n.observedAt - cfg.staleAfter ≤ g.lastSeenAt) →
        g ∈ (exec cfg (Run.run (exec cfg) b₀ ops) (.ingestObservation now o token)).plant.gpus := by
  have hk : Kept (Run.run (exec cfg) b₀ ops) := Reachable.kept ⟨b₀, hs, ops, rfl⟩
  have hempty : b₀.plant.gpus = [] := hs.gpus
  have hp : b₀.plant.Named := by
    intro g hg
    rw [hempty] at hg
    cases hg
  constructor
  · intro ha
    have ho : b₀.plant.Owned := by
      intro g hg
      rw [hempty] at hg
      cases hg
    have hend := owned_run hs.kept hp ho hops ha
    rw [List.nodup_map_iff_inj_on]
    · intro g hg g' hg' huuid
      obtain ⟨hg, hgp⟩ := List.mem_filter.1 hg
      obtain ⟨hg', hgp'⟩ := List.mem_filter.1 hg'
      exact List.inj_on_of_nodup_map hk.intact.gpuPk hg hg'
        (hend g hg g' hg' (of_decide_eq_true hgp) (of_decide_eq_true hgp') huuid)
    · exact (List.Nodup.of_map _ hk.intact.gpuPk).filter _
  · intro now o token ho g hg _ hge hfresh
    exact incumbent_stays hk (named_run hs.kept hp hops) ho token hg hge hfresh

/-! ## A card seen from two servers -/

/-- Two complete looks, from two servers, at one card. -/
def seenTwice : List Op :=
  [.ingestObservation 0 (lookAtOne "alpha" "GPU-0" 0 []) sampleToken,
   .ingestObservation (seconds 10) (lookAtOne "beta" "GPU-0" (seconds 10) []) sampleToken]

theorem seenTwice_names : ∀ op ∈ seenTwice, op.namesServer := by
  intro op hop p hp
  simp only [seenTwice, List.mem_cons, List.not_mem_nil, or_false] at hop
  rcases hop with rfl | rfl <;> (obtain rfl := Option.some.inj hp; decide)

/-- The second registration stands down, and a third look finds the card where it was. -/
theorem uuid_owned_twice :
    (((Run.run (exec plainConfig) sampleFleet seenTwice).plant.gpus.filter fun g =>
      g.present = true).map GPUDevice.gpuUuid).Nodup ∧
    ∀ g ∈ (Run.run (exec plainConfig) sampleFleet seenTwice).plant.gpus, g.present = true →
      g.endpointId ≠ "beta" → seconds 20 - plainConfig.staleAfter ≤ g.lastSeenAt →
      g ∈ (exec plainConfig (Run.run (exec plainConfig) sampleFleet seenTwice)
        (.ingestObservation (seconds 20) (lookAtOne "beta" "GPU-0" (seconds 20) [])
          sampleToken)).plant.gpus := by
  obtain ⟨howned, hstays⟩ := @uuid_owned plainConfig _ sampleFleet_seeded _ seenTwice_names
  refine ⟨howned (by decide +kernel), fun g hg hgp hge hfresh => ?_⟩
  refine hstays (seconds 20) (lookAtOne "beta" "GPU-0" (seconds 20) []) sampleToken (by decide) g hg
    hgp hge ?_
  intro n hn _
  obtain rfl := List.mem_singleton.1 hn
  exact hfresh

/-- What `beta` shows of the card when its probe is cut short. -/
def cutShort : EndpointObservation :=
  oneNode "beta" (sampleNode 0 [sampleCard "GPU-0" 0] [] false)
    ⟨List.nodup_singleton _, List.nodup_singleton _, List.nodup_singleton _⟩

/-- An incomplete look makes the card present on both servers. -/
theorem present_twice :
    ¬ ∀ (cfg : Config) (b₀ : Broker) (ops : List Op), Seeded b₀ → (∀ op ∈ ops, op.namesServer) →
      (((Run.run (exec cfg) b₀ ops).plant.gpus.filter fun g => g.present = true).map
        GPUDevice.gpuUuid).Nodup := by
  intro hall
  have hnames : ∀ op ∈ [Op.ingestObservation 0 (lookAtOne "alpha" "GPU-0" 0 []) sampleToken,
      .ingestObservation 0 cutShort sampleToken], op.namesServer := by
    intro op hop p hp
    simp only [List.mem_cons, List.not_mem_nil, or_false] at hop
    rcases hop with rfl | rfl <;> (obtain rfl := Option.some.inj hp; decide)
  have hnodup := hall plainConfig sampleFleet _ sampleFleet_seeded hnames
  exact absurd hnodup (by decide +kernel)

end ServerPilot
