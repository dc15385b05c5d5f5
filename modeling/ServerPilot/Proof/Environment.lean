import ServerPilot.Spec.Environment
import ServerPilot.Proof.Promises

/-!
# The environment of a lease

A job sees the devices its environment names, so the names must be those the
server gives to the holder's cards now. On a server that is always observed as
one and the same node they are (`run_own`): its present rows mirror its latest
observation (`Mirrors`), and nothing but an observation of it writes them.
`nodes_share` is a server of two nodes, each with a device 0.
-/

namespace ServerPilot

open Rows Checked

/-! ## Row ids -/

/-- A row id is its server's id up to the first colon. -/
theorem gpuIdOf_takeWhile {e : String} (he : ':' ∉ e.toList) (n u : String) :
    (gpuIdOf e n u).toList.takeWhile (fun c => decide (c ≠ ':')) = e.toList := by
  obtain ⟨rest, hrest⟩ : ∃ rest, (gpuIdOf e n u).toList = e.toList ++ ':' :: rest := by
    unfold gpuIdOf
    split
    · exact ⟨u.toList, by simp⟩
    · exact ⟨n.toList ++ ':' :: u.toList, by simp⟩
  have hall : ∀ c ∈ e.toList, decide (c ≠ ':') = true := by
    intro c hc
    apply decide_eq_true
    rintro rfl
    exact he hc
  rw [hrest, List.takeWhile_append_of_pos hall]
  simp

/-- Cards of two servers have different row ids. -/
theorem gpuIdOf_endpoint {e f n m u v : String} (he : ':' ∉ e.toList) (hf : ':' ∉ f.toList)
    (h : gpuIdOf e n u = gpuIdOf f m v) : e = f := by
  have heq : e.toList = f.toList := by
    rw [← gpuIdOf_takeWhile he n u, ← gpuIdOf_takeWhile hf m v, h]
  exact String.toList_inj.1 heq

/-- Cards of one node have different row ids. -/
theorem gpuIdOf_uuid {e n u v : String} (h : gpuIdOf e n u = gpuIdOf e n v) : u = v := by
  unfold gpuIdOf at h
  split at h <;> simpa using h

/-! ## Samples -/

section

variable {e n : String} {observedAt : Time} {p p' : Plant} {g : GPUDevice}

/-- After a sample a row shows it, or is another card's and as it was. -/
theorem mem_seeGpu {s : TelemetryInput} (hg : g ∈ (p.seeGpu e n observedAt s).gpus) :
    g.id = gpuIdOf e n s.gpuUuid ∧ g.cudaOrdinal = some s.cudaOrdinal ∨
      g ∈ p.gpus ∧ g.id ≠ gpuIdOf e n s.gpuUuid := by
  unfold Plant.seeGpu at hg
  simp only at hg
  split at hg
  · obtain ⟨a, ha, ⟨hid, rfl⟩ | ⟨hid, rfl⟩⟩ := mem_updWhere.1 hg
    · exact Or.inl ⟨of_decide_eq_true hid, rfl⟩
    · exact Or.inr ⟨ha, of_decide_eq_false hid⟩
  · rename_i hnone
    rcases List.mem_append.1 hg with hg | hg
    · -- a row with this id would have been found
      refine Or.inr ⟨hg, fun hid => hnone ?_⟩
      have hn : p.gpu? (gpuIdOf e n s.gpuUuid) ≠ none := fun h => row?_none h g hg hid
      exact Option.isSome_iff_ne_none.2 hn
    · obtain rfl := List.mem_singleton.1 hg
      exact Or.inl ⟨rfl, rfl⟩

/-- After the samples of a node a row shows one of them, or is another card's and as it was. -/
theorem mem_seeGpus {samples : List TelemetryInput}
    (hg : g ∈ (samples.foldl (Plant.seeGpu e n observedAt) p).gpus) :
    (∃ s ∈ samples, g.id = gpuIdOf e n s.gpuUuid ∧ g.cudaOrdinal = some s.cudaOrdinal) ∨
      g ∈ p.gpus ∧ ∀ s ∈ samples, g.id ≠ gpuIdOf e n s.gpuUuid := by
  induction samples generalizing p with
  | nil => exact Or.inr ⟨hg, by simp⟩
  | cons s samples ih =>
    rcases ih hg with ⟨t, ht, h⟩ | ⟨hg, hother⟩
    · exact Or.inl ⟨t, List.mem_cons_of_mem s ht, h⟩
    rcases mem_seeGpu hg with h | ⟨hg, hs⟩
    · exact Or.inl ⟨s, List.mem_cons_self, h⟩
    · exact Or.inr ⟨hg, List.forall_mem_cons.2 ⟨hs, hother⟩⟩

/-- The samples are all that a node's readings leave in the inventory. -/
theorem seeCards_gpus (p : Plant) (e : String) (o : NodeObservation) (now : Time) :
    (p.seeCards e o now).gpus = (o.gpus.foldl (Plant.seeGpu e o.nodeId o.observedAt) p).gpus := by
  unfold Plant.seeCards
  generalize o.gpus.foldl (Plant.seeGpu e o.nodeId o.observedAt) p = q
  apply Run.foldl_inv (I := fun r : Plant => r.gpus = q.gpus) _ rfl
  intro r s _ hr
  rw [← hr]
  rfl

end

/-! ## A server of one node -/

/-- The rows of server `e` are cards of its node `n`, under their own ids. -/
def Placed (e n : String) (p : Plant) : Prop :=
  ∀ g ∈ p.gpus, g.endpointId = e → g.nodeId = n ∧ g.id = gpuIdOf e n g.gpuUuid

/-- A look at node `n` alone shows this card, with the ordinal its row has. -/
def Shown (n : String) (look : Option EndpointObservation) (g : GPUDevice) : Prop :=
  ∃ o m s, look = some o ∧ o.nodes = [m] ∧ m.nodeId = n ∧ s ∈ m.gpus ∧
    s.gpuUuid = g.gpuUuid ∧ g.cudaOrdinal = some s.cudaOrdinal

/-- The present rows of server `e` are as its latest look shows them. -/
structure Mirrors (e n : String) (look : Option EndpointObservation) (p : Plant) : Prop where
  placed : Placed e n p
  shown : ∀ g ∈ p.gpus, g.endpointId = e → g.present = true → Shown n look g

section

variable {e n f m : String} {look : Option EndpointObservation} {p p' : Plant} {t : Time}
  {cfg : Config} {now : Time} {b b' : Broker}

/-- Rows gone, or as they were. -/
theorem Mirrors.sub (h : Mirrors e n look p) (hsub : ∀ g ∈ p'.gpus, g ∈ p.gpus) :
    Mirrors e n look p' :=
  ⟨fun g hg => h.placed g (hsub g hg), fun g hg => h.shown g (hsub g hg)⟩

/-- A row marked absent. -/
def GPUDevice.hidden (t : Time) (g : GPUDevice) : GPUDevice :=
  { g with present := false, absentAt := some t }

theorem Placed.hide {q : GPUDevice → Bool} (h : Placed e n p)
    (hp : p'.gpus = updWhere q (GPUDevice.hidden t) p.gpus) : Placed e n p' := by
  intro g hg
  rw [hp] at hg
  obtain ⟨a, ha, ⟨-, rfl⟩ | ⟨-, rfl⟩⟩ := mem_updWhere.1 hg
  · exact h a ha
  · exact h g ha

/-- A row that is present was not the one marked absent. -/
theorem present_of_hide {q : GPUDevice → Bool} {g : GPUDevice} {l : List GPUDevice}
    (hg : g ∈ updWhere q (GPUDevice.hidden t) l) (hpresent : g.present = true) :
    g ∈ l ∧ q g = false := by
  obtain ⟨a, ha, ⟨-, rfl⟩ | ⟨hq, rfl⟩⟩ := mem_updWhere.1 hg
  · cases hpresent
  · exact ⟨ha, hq⟩

theorem Mirrors.hide {q : GPUDevice → Bool} (h : Mirrors e n look p)
    (hp : p'.gpus = updWhere q (GPUDevice.hidden t) p.gpus) : Mirrors e n look p' := by
  refine ⟨h.placed.hide hp, fun g hg he hpresent => ?_⟩
  rw [hp] at hg
  exact h.shown g (present_of_hide hg hpresent).1 he hpresent

/-- A sample of any server, of `e` one of its node. -/
theorem Placed.see (h : Placed e n p) (s : TelemetryInput) (hnode : f = e → m = n) :
    Placed e n (p.seeGpu f m t s) := by
  intro g hg
  unfold Plant.seeGpu at hg
  simp only at hg
  split at hg
  · obtain ⟨a, ha, ⟨-, rfl⟩ | ⟨-, rfl⟩⟩ := mem_updWhere.1 hg
    · exact h a ha
    · exact h g ha
  · rcases List.mem_append.1 hg with hg | hg
    · exact h g hg
    · obtain rfl := List.mem_singleton.1 hg
      rintro rfl
      obtain rfl := hnode rfl
      exact ⟨rfl, rfl⟩

/-- A sample of another server is no card of this one. -/
theorem Mirrors.seeOther (h : Mirrors e n look p) (s : TelemetryInput) (hf : f ≠ e)
    (he : ':' ∉ e.toList) (hfc : ':' ∉ f.toList) : Mirrors e n look (p.seeGpu f m t s) := by
  have hplaced : Placed e n (p.seeGpu f m t s) := h.placed.see s fun hfe => absurd hfe hf
  refine ⟨hplaced, fun g hg hge hpresent => ?_⟩
  rcases mem_seeGpu hg with ⟨hid, -⟩ | ⟨hg, -⟩
  · have hown := (hplaced g hg hge).2
    exact absurd (gpuIdOf_endpoint hfc he (hid.symm.trans hown)) hf
  · exact h.shown g hg hge hpresent

theorem Mirrors.of_gpus (h : Mirrors e n look p) (hp : p'.gpus = p.gpus) :
    Mirrors e n look p' := h.sub fun _ hg => hp ▸ hg

/-- A look at another server takes cards of this one at most. -/
theorem Mirrors.ingestOther (h : Mirrors e n look b.plant) (o : NodeObservation) (hf : f ≠ e)
    (he : ':' ∉ e.toList) (hfc : ':' ∉ f.toList) :
    Mirrors e n look (ingestNodeObservation cfg f now b o).plant := by
  unfold ingestNodeObservation
  split
  · exact h
  have hs : Mirrors e n look ((b.plant.readHost f o now).seeCards f o now) := by
    refine .of_gpus ?_ (seeCards_gpus (b.plant.readHost f o now) f o now)
    apply Run.foldl_inv (I := Mirrors e n look)
    · intro q s _ hq
      exact hq.seeOther s hf he hfc
    · exact h.of_gpus rfl
  generalize (b.plant.readHost f o now).seeCards f o now = q at hs
  refine .of_gpus ?_ (seeProcesses_gpus _ _ _ _ _)
  simp only
  split
  · exact hs
  refine .of_gpus ?_ (releaseAbsentKeepers_gpus _ _)
  have hc : Mirrors e n look (q.convergeOwnership cfg f
      (o.gpus.map fun s => (s.gpuUuid, gpuIdOf f o.nodeId s.gpuUuid)) o.observedAt).1 := hs.hide rfl
  exact hc.hide rfl

/-- A complete look at the server's node: what is present now is what it lists. -/
theorem Mirrors.ingestOwn {o : EndpointObservation} {node : NodeObservation}
    (h : Mirrors e n look b.plant) (ho : o.nodes = [node]) (hn : node.nodeId = n)
    (hcomplete : node.observationComplete = true) (hstale : b.plant.staleNode e node = false) :
    Mirrors e n (some o) (ingestNodeObservation cfg e now b node).plant := by
  unfold ingestNodeObservation
  rw [if_neg (by rw [hstale]; exact Bool.false_ne_true)]
  have hs : Placed e n ((b.plant.readHost e node now).seeCards e node now) := by
    intro g hg
    rw [seeCards_gpus] at hg
    revert g
    apply Run.foldl_inv (I := Placed e n)
    · intro q s _ hq
      exact hq.see s fun _ => hn
    · exact h.placed
  have hmem : ∀ g ∈ ((b.plant.readHost e node now).seeCards e node now).gpus,
      (∃ s ∈ node.gpus, g.id = gpuIdOf e n s.gpuUuid ∧ g.cudaOrdinal = some s.cudaOrdinal) ∨
        ∀ s ∈ node.gpus, g.id ≠ gpuIdOf e n s.gpuUuid := by
    intro g hg
    rw [seeCards_gpus] at hg
    rw [← hn]
    exact (mem_seeGpus hg).imp_right And.right
  generalize (b.plant.readHost e node now).seeCards e node now = q at hs hmem
  refine .of_gpus ?_ (seeProcesses_gpus _ _ _ _ _)
  simp only [hcomplete, Bool.not_true, Bool.false_eq_true, if_false]
  refine .of_gpus ?_ (releaseAbsentKeepers_gpus _ _)
  have hc : Placed e n (q.convergeOwnership cfg e
      (node.gpus.map fun s => (s.gpuUuid, gpuIdOf e node.nodeId s.gpuUuid)) node.observedAt).1 :=
    hs.hide rfl
  refine ⟨hc.hide rfl, fun g hg hge hpresent => ?_⟩
  obtain ⟨hg, hlisted⟩ := present_of_hide hg hpresent
  obtain ⟨hg, -⟩ := present_of_hide hg hpresent
  obtain ⟨hgn, hgid⟩ := hs g hg hge
  -- a row the look left out would have been marked absent
  have hin : g.id ∈ (node.gpus.map fun s =>
      (s.gpuUuid, gpuIdOf e node.nodeId s.gpuUuid)).map Prod.snd := by
    by_contra hout
    exact of_decide_eq_false hlisted ⟨hge, hgn.trans hn.symm, hout, hpresent⟩
  simp only [List.map_map, List.mem_map, Function.comp_apply] at hin
  obtain ⟨s, hsm, hsid⟩ := hin
  rcases hmem g hg with ⟨s', hs', hid, hord⟩ | hnone
  · exact ⟨o, node, s', rfl, ho, hn, hs', gpuIdOf_uuid (hid.symm.trans hgid), hord⟩
  · exact absurd (hn ▸ hsid.symm) (hnone s hsm)

end

/-! ## Along a run -/

/-- What the transaction observes of server `e`, if anything, is node `n`, completely. -/
def Op.observesAs (e n : String) (op : Op) : Prop :=
  ∀ p ∈ op.observation, ':' ∉ p.2.endpointId.toList ∧
    (p.2.endpointId = e → p.2.complete = true ∧ p.2.nodes.map NodeObservation.nodeId = [n])

section

variable {e n : String} {last : Option EndpointObservation} {cfg : Config} {b b' : Broker}

/-- An observation that is not too old is taken in. -/
theorem ingestObservation_taken {now : Time} {o : EndpointObservation}
    {token : String → String → String} {resp : Response}
    (h : ingestObservation cfg now o token b = .ok (b', resp))
    (hs : b.plant.staleObservation o = false) : b'.plant = (b.absorb cfg now o).plant := by
  unfold ingestObservation at h
  simp only [bind_ok, need_ok, hs, Bool.false_eq_true, if_false] at h
  obtain ⟨-, -, h⟩ := h
  obtain ⟨rfl, -, -⟩ := finish_ok.1 h
  exact ingested_plant b o token

/-- A look that is too old changes nothing. -/
theorem ingestObservation_ignored {now : Time} {o : EndpointObservation}
    {token : String → String → String} {resp : Response}
    (h : ingestObservation cfg now o token b = .ok (b', resp))
    (hs : b.plant.staleObservation o = true) : b' = b := by
  unfold ingestObservation at h
  simp only [bind_ok, need_ok, hs, if_true, pure_ok, Prod.mk.injEq] at h
  obtain ⟨-, -, rfl, -⟩ := h
  rfl

/-- **One observation** keeps the mirror, of its own server with the new look. -/
theorem Mirrors.absorb (h : Mirrors e n last b.plant) (now : Time) {o : EndpointObservation}
    (he : ':' ∉ e.toList) (hoc : ':' ∉ o.endpointId.toList)
    (hone : o.endpointId = e → o.complete = true ∧ o.nodes.map NodeObservation.nodeId = [n])
    (hs : b.plant.staleObservation o = false) :
    Mirrors e n (if o.endpointId = e then some o else last) (b.absorb cfg now o).plant := by
  refine .of_gpus ?_ (absorb_gpus cfg now b o)
  by_cases hoe : o.endpointId = e
  · rw [if_pos hoe]
    obtain ⟨hcomplete, hnodes⟩ := hone hoe
    obtain ⟨node, hnode, hn⟩ := List.map_eq_singleton_iff.1 hnodes
    unfold EndpointObservation.complete at hcomplete
    rw [Bool.and_eq_true, hnode] at hcomplete
    have hnc : node.observationComplete = true := by simpa using hcomplete.2
    have hstale : b.plant.staleNode e node = false := by
      unfold Plant.staleObservation at hs
      rw [hnode, hcomplete.1, hoe] at hs
      simpa using hs
    rw [hnode, hoe]
    exact Mirrors.ingestOwn (b := { b with ledger := b.ledger.bumpRevision }) h hnode hn hnc hstale
  · rw [if_neg hoe]
    apply Run.foldl_inv (I := fun s : Broker => Mirrors e n last s.plant)
    · intro s node _ hs
      exact hs.ingestOther node hoe he hoc
    · exact h

/-- **One transaction** keeps the mirror. -/
theorem Mirrors.exec (h : Mirrors e n last b.plant) (hk : Kept b) (op : Op) (he : ':' ∉ e.toList)
    (hop : op.observesAs e n) :
    Mirrors e n ((op.look cfg e b).or last) (exec cfg b op).plant := by
  rcases exec_cases cfg b op with ⟨b', r, hok, hexec⟩ | ⟨⟨x, herr⟩, hexec⟩
  · rw [hexec]
    have hother : (∀ now o token, op ≠ .ingestObservation now o token) →
        Mirrors e n ((op.look cfg e b).or last) b'.plant := by
      intro hne
      have hlook : op.look cfg e b = none := by
        cases op with
        | ingestObservation now o token => exact absurd rfl (hne now o token)
        | _ => rfl
      rw [hlook, Option.none_or]
      rcases apply_inventory hk hok with heq | ⟨⟨now, o, token, hop⟩, -⟩ | ⟨d, -, heq⟩
      · exact h.of_gpus heq
      · exact absurd hop (hne now o token)
      · exact h.sub fun g hg => List.mem_of_mem_filter (heq ▸ hg)
    cases op with
    | ingestObservation now o token =>
      obtain ⟨hoc, hone⟩ := hop (now, o) rfl
      have hlook : (Op.ingestObservation now o token).look cfg e b =
          if o.endpointId = e ∧ b.plant.staleObservation o = false then some o else none := by
        unfold Op.look
        simp only [hok, Except.toBool, true_and]
      cases hs : b.plant.staleObservation o with
      | true =>
        rw [hlook, if_neg (by rw [hs]; simp), Option.none_or, ingestObservation_ignored hok hs]
        exact h
      | false =>
        have hm : Mirrors e n (if o.endpointId = e then some o else last)
            (b.absorb cfg now o).plant := h.absorb now he hoc hone hs
        rw [hlook, ingestObservation_taken hok hs, hs]
        by_cases hoe : o.endpointId = e
        · simpa [hoe] using hm
        · simpa [hoe] using hm
    | _ => exact hother fun _ _ _ => Op.noConfusion
  · have hlook : op.look cfg e b = none := by
      unfold Op.look
      cases op with
      | ingestObservation =>
        simp only [herr, Except.toBool, Bool.false_eq_true, false_and, and_false, if_false]
      | _ => rfl
    rw [hexec, hlook, Option.none_or]
    exact h

/-- **A run** keeps the mirror. -/
theorem run_mirrors {ops : List Op} (h : Mirrors e n last b.plant) (hk : Kept b)
    (he : ':' ∉ e.toList) (hops : ∀ op ∈ ops, op.observesAs e n) :
    Mirrors e n (latestLook cfg e b last ops) (Run.run (ServerPilot.exec cfg) b ops).plant := by
  induction ops generalizing b last with
  | nil => exact h
  | cons op ops ih =>
    obtain ⟨hop, hops⟩ := List.forall_mem_cons.1 hops
    exact ih (h.exec hk op he hop) (exec_kept cfg b op hk) hops

end

/-! ## Entries -/

/-- The ordinals an entry lists. -/
def ExecutableResource.ordinals (E : ExecutableResource) : List ℕ :=
  E.gpus.filterMap ExecutableGpu.cudaOrdinal

/-- What an entry of server `e` says: every card of the lease there is present and has an ordinal,
and the entry lists those ordinals. -/
structure Lists (b : Broker) (leaseId e : String) (E : ExecutableResource) : Prop where
  present : ∀ g ∈ b.devicesOn leaseId e, g.present = true
  numbered : ∀ g ∈ b.devicesOn leaseId e, g.cudaOrdinal.isSome = true
  gpus : E.gpus.Perm ((b.devicesOn leaseId e).map GPUDevice.executable)
  spelled : E.cudaVisibleDevices = ",".intercalate (E.ordinals.map toString)

section

variable {b : Broker} {leaseId e : String} {E : ExecutableResource} {g h : GPUDevice}

theorem mem_devicesOn : g ∈ b.devicesOn leaseId e ↔
    (∃ r ∈ b.ledger.cards leaseId, b.plant.gpu? r.gpuId = some g) ∧ g.endpointId = e := by
  unfold Broker.devicesOn Broker.devices
  simp [List.mem_filterMap]

/-- **An entry** of the environment. -/
theorem executableResource_lists (hE : b.executableResource leaseId e = some E) :
    E.endpointId = e ∧ Lists b leaseId e E := by
  unfold Broker.executableResource at hE
  simp only at hE
  split at hE
  · cases hE
  rename_i hpresent
  have hall : ∀ g ∈ b.devicesOn leaseId e, g.present = true := by
    intro g hg
    by_contra hgone
    exact hpresent (List.any_eq_true.2 ⟨g, hg, by simpa using hgone⟩)
  rw [List.filter_eq_self.2 hall] at hE
  obtain ⟨row, hrow, hE⟩ := Option.bind_eq_some_iff.1 hE
  have hperm : ((b.devicesOn leaseId e).insertionSort cudaOrder).Perm (b.devicesOn leaseId e) :=
    List.perm_insertionSort _ _
  split at hE
  · cases hE
  rename_i hnumbered
  have hnum : ∀ g ∈ b.devicesOn leaseId e, g.cudaOrdinal.isSome = true := by
    intro g hg
    by_contra hnone
    exact hnumbered (List.any_eq_true.2 ⟨g, hperm.mem_iff.2 hg, by simpa using hnone⟩)
  split at hE
  · cases hE
  obtain rfl := Option.some.inj hE
  refine ⟨(row?_some hrow).2, hall, hnum, hperm.map _, ?_⟩
  unfold ExecutableResource.ordinals
  simp only [List.filterMap_map, List.map_filterMap]
  rfl

/-- Every entry is one of the lease's servers'. -/
theorem mem_executableResources (hE : E ∈ b.executableResources leaseId) :
    Lists b leaseId E.endpointId E := by
  obtain ⟨e, -, hE⟩ := List.mem_filterMap.1 hE
  obtain ⟨rfl, hlists⟩ := executableResource_lists hE
  exact hlists

/-- The ordinals listed are those of the rows. -/
theorem Lists.ordinals_perm (hE : Lists b leaseId e E) :
    (E.ordinals.map some).Perm ((b.devicesOn leaseId e).map GPUDevice.cudaOrdinal) := by
  have hp : E.ordinals.Perm ((b.devicesOn leaseId e).filterMap GPUDevice.cudaOrdinal) := by
    have hperm := hE.gpus.filterMap ExecutableGpu.cudaOrdinal
    rw [List.filterMap_map] at hperm
    exact hperm
  have hsome : ∀ l : List GPUDevice, (∀ g ∈ l, g.cudaOrdinal.isSome = true) →
      (l.filterMap GPUDevice.cudaOrdinal).map some = l.map GPUDevice.cudaOrdinal := by
    intro l hl
    induction l with
    | nil => rfl
    | cons g l ih =>
      obtain ⟨hg, hl⟩ := List.forall_mem_cons.1 hl
      obtain ⟨k, hk⟩ := Option.isSome_iff_exists.1 hg
      rw [List.filterMap_cons_some hk, List.map_cons, List.map_cons, ih hl, hk]
  rw [← hsome _ hE.numbered]
  exact hp.map some

/-- The cards of a lease on a server are distinct rows. -/
theorem devicesOn_nodup (hb : Intact b) : (b.devicesOn leaseId e).Nodup := by
  unfold Broker.devicesOn Broker.devices
  apply List.Nodup.filter
  have hn : ((b.ledger.cards leaseId).map LeaseResource.gpuId).Nodup := by
    apply List.Nodup.sublist _ hb.activeGpu
    unfold Ledger.cards Ledger.activeResources
    apply List.Sublist.map
    exact List.monotone_filter_right _ fun r hr => by simpa using (of_decide_eq_true hr).2
  have hperm := List.perm_insertionSort (fun r s : LeaseResource => r.gpuId ≤ s.gpuId)
    (b.ledger.cards leaseId)
  replace hn := ((hperm.map LeaseResource.gpuId).nodup_iff).2 hn
  have hfound : ∀ i j g, g ∈ b.plant.gpu? i → g ∈ b.plant.gpu? j → i = j := by
    intro i j g hi hj
    exact ((row?_some hi).2).symm.trans (row?_some hj).2
  have hdistinct := List.Nodup.filterMap hfound hn
  rw [List.filterMap_map] at hdistinct
  exact hdistinct

/-- Two leases have no card in common. -/
theorem devicesOn_disjoint (hb : Intact b) {x y : String} (hxy : x ≠ y)
    (hg : g ∈ b.devicesOn x e) (hh : h ∈ b.devicesOn y e) : g.id ≠ h.id := by
  obtain ⟨⟨r, hr, hrg⟩, -⟩ := mem_devicesOn.1 hg
  obtain ⟨⟨s, hs, hsh⟩, -⟩ := mem_devicesOn.1 hh
  obtain ⟨hrm, rfl, hra⟩ := mem_cards.1 hr
  obtain ⟨hsm, rfl, hsa⟩ := mem_cards.1 hs
  intro heq
  have hid : r.gpuId = s.gpuId := by
    rw [← (row?_some hrg).2, heq, (row?_some hsh).2]
  have hrs : r = s := List.inj_on_of_nodup_map hb.activeGpu
    (List.mem_filter.2 ⟨hrm, by simpa using hra⟩) (List.mem_filter.2 ⟨hsm, by simpa using hsa⟩) hid
  exact hxy (congrArg LeaseResource.leaseId hrs)

end

/-! ## The environment names the holder's cards -/

/-- What the environments handed out for server `e` say, `look` being its latest observation. -/
structure OwnOrdinals (b : Broker) (look : Option EndpointObservation) (e : String) : Prop where
  /-- No ordinal is named to two leases. -/
  disjoint : ∀ x y, x ≠ y → ∀ E ∈ b.executableResources x, ∀ F ∈ b.executableResources y,
    E.endpointId = e → F.endpointId = e → List.Disjoint E.ordinals F.ordinals
  /-- An entry names each of the lease's cards there once, as the latest observation does. -/
  exact : ∀ x, ∀ E ∈ b.executableResources x, E.endpointId = e →
    E.cudaVisibleDevices = ",".intercalate (E.ordinals.map toString) ∧ E.ordinals.Nodup ∧
      (E.ordinals.map some).Perm ((b.devicesOn x e).map fun g => look.bind fun o => o.ordinalOf g)
  /-- A server with a card absent or without an ordinal has no entry. -/
  withheld : ∀ x, ∀ g ∈ b.devicesOn x e, g.present = false ∨ g.cudaOrdinal = none →
    ∀ E ∈ b.executableResources x, E.endpointId ≠ e

section

variable {e n : String} {look : Option EndpointObservation} {b : Broker} {g h : GPUDevice}

/-- The card a look shows is the one it gives the ordinal to. -/
theorem Shown.ordinalOf (hs : Shown n look g) (hn : g.nodeId = n) :
    (look.bind fun o => o.ordinalOf g) = g.cudaOrdinal := by
  obtain ⟨o, m, s, rfl, ho, hm, hsm, hu, hord⟩ := hs
  have hnode : (o.nodes.find? fun m => m.nodeId = g.nodeId) = some m := by
    rw [ho, hn]
    exact List.find?_cons_of_pos (decide_eq_true hm)
  have huuid := (o.nodes_valid m (by rw [ho]; exact List.mem_singleton_self m)).uuids
  have hsample : (m.gpus.find? fun s => s.gpuUuid = g.gpuUuid) = some s := by
    rw [← hu]
    exact row?_of_mem huuid hsm
  show o.ordinalOf g = g.cudaOrdinal
  unfold EndpointObservation.ordinalOf
  rw [hnode, Option.bind_some, hsample, hord]
  rfl

/-- Two cards of one look with one ordinal are one card. -/
theorem Shown.eq_of_ordinal (hg : Shown n look g) (hh : Shown n look h)
    (heq : g.cudaOrdinal = h.cudaOrdinal) : g.gpuUuid = h.gpuUuid := by
  obtain ⟨o, m, s, rfl, ho, -, hsm, hu, hord⟩ := hg
  obtain ⟨o', m', t, ho', hm', -, htm, hv, hord'⟩ := hh
  obtain rfl := Option.some.inj ho'
  obtain rfl : m = m' := by
    rw [ho] at hm'
    exact (List.cons.inj hm').1
  have hvalid := o.nodes_valid m (by rw [ho]; exact List.mem_singleton_self m)
  rw [hord, hord'] at heq
  have hst : s = t := List.inj_on_of_nodup_map hvalid.ordinals hsm htm (Option.some.inj heq)
  rw [← hu, hst, hv]

/-- A mirrored server's entries name its cards. -/
theorem Mirrors.own (hm : Mirrors e n look b.plant) (hb : Intact b) : OwnOrdinals b look e := by
  have hrow : ∀ {x : String} {g : GPUDevice}, g ∈ b.devicesOn x e →
      g ∈ b.plant.gpus ∧ g.endpointId = e := by
    intro x g hg
    obtain ⟨⟨r, -, hrg⟩, he⟩ := mem_devicesOn.1 hg
    exact ⟨(row?_some hrg).1, he⟩
  have hshown : ∀ {x : String} {E : ExecutableResource}, Lists b x e E → ∀ g ∈ b.devicesOn x e,
      Shown n look g := by
    intro x E hE g hg
    exact hm.shown g (hrow hg).1 (hrow hg).2 (hE.present g hg)
  -- on one server, rows with one UUID are one row
  have hid : ∀ {x y : String} {g h : GPUDevice}, g ∈ b.devicesOn x e → h ∈ b.devicesOn y e →
      g.gpuUuid = h.gpuUuid → g.id = h.id := by
    intro x y g h hg hh hu
    rw [(hm.placed g (hrow hg).1 (hrow hg).2).2, (hm.placed h (hrow hh).1 (hrow hh).2).2, hu]
  have hordinal : ∀ {x : String} {E : ExecutableResource} {k : ℕ}, Lists b x e E →
      k ∈ E.ordinals → ∃ g ∈ b.devicesOn x e, g.cudaOrdinal = some k := by
    intro x E k hE hk
    exact List.mem_map.1 (hE.ordinals_perm.mem_iff.1 (List.mem_map_of_mem hk))
  refine ⟨?_, ?_, ?_⟩
  · intro x y hxy E hE F hF hEe hFe k hkE hkF
    have hEl : Lists b x e E := hEe ▸ mem_executableResources hE
    have hFl : Lists b y e F := hFe ▸ mem_executableResources hF
    obtain ⟨g, hg, hgk⟩ := hordinal hEl hkE
    obtain ⟨h, hh, hhk⟩ := hordinal hFl hkF
    have hu := (hshown hEl g hg).eq_of_ordinal (hshown hFl h hh) (hgk.trans hhk.symm)
    exact devicesOn_disjoint hb hxy hg hh (hid hg hh hu)
  · intro x E hE hEe
    have hEl : Lists b x e E := hEe ▸ mem_executableResources hE
    have hperm := hEl.ordinals_perm
    refine ⟨hEl.spelled, ?_, ?_⟩
    · have hnodup : ((b.devicesOn x e).map GPUDevice.cudaOrdinal).Nodup := by
        refine List.Nodup.map_on (fun g hg h hh heq => ?_) (devicesOn_nodup hb)
        have hu := (hshown hEl g hg).eq_of_ordinal (hshown hEl h hh) heq
        exact List.inj_on_of_nodup_map hb.gpuPk (hrow hg).1 (hrow hh).1 (hid hg hh hu)
      exact List.Nodup.of_map some (hperm.nodup_iff.2 hnodup)
    · have hlook : (b.devicesOn x e).map GPUDevice.cudaOrdinal =
          (b.devicesOn x e).map fun g => look.bind fun o => o.ordinalOf g := by
        refine List.map_congr_left fun g hg => ?_
        exact ((hshown hEl g hg).ordinalOf (hm.placed g (hrow hg).1 (hrow hg).2).1).symm
      rw [← hlook]
      exact hperm
  · intro x g hg hbad E hE hEe
    have hEl : Lists b x e E := hEe ▸ mem_executableResources hE
    rcases hbad with hgone | hnone
    · rw [hEl.present g hg] at hgone
      cases hgone
    · have hsome := hEl.numbered g hg
      rw [hnone] at hsome
      cases hsome

/-- **The environment names the holder's cards**: on a server that every observation shows, and
completely, as one and the same node. -/
theorem run_own {cfg : Config} {b₀ : Broker} {ops : List Op} (h₀ : Seeded b₀)
    (he : ':' ∉ e.toList) (hops : ∀ op ∈ ops, op.observesAs e n) :
    OwnOrdinals (Run.run (exec cfg) b₀ ops) (latestLook cfg e b₀ none ops) e := by
  have hempty : Mirrors e n none b₀.plant := by
    constructor <;> intro g hg <;> rw [h₀.gpus] at hg <;> cases hg
  have hkept : Kept (Run.run (exec cfg) b₀ ops) :=
    Run.run_inv' (fun b op hk => exec_kept cfg b op hk) h₀.kept
  exact (run_mirrors hempty h₀.kept he hops).own hkept.intact

end

/-! ## Two nodes -/

/-- Two cards of `alpha`, and a claim of both. -/
def pairClaim : List Op :=
  [.ingestObservation 0 (lookAtTwo "alpha" "GPU-0" "GPU-1" twoCards_ne 0 []) sampleToken,
   .createRequest 0 (sampleActor "ann") twoCards none true "lease" (sampleToken "lease")]

/-- The claim's environment. -/
theorem pairClaim_own :
    OwnOrdinals (Run.run (exec plainConfig) sampleFleet pairClaim)
        (latestLook plainConfig "alpha" sampleFleet none pairClaim) "alpha" ∧
      ((Run.run (exec plainConfig) sampleFleet pairClaim).executableResources "lease").map
        ExecutableResource.cudaVisibleDevices = ["0,1"] := by
  refine ⟨run_own (n := "self") sampleFleet_seeded (by decide) ?_, by decide +kernel⟩
  intro op hop p hp
  simp only [pairClaim, List.mem_cons, List.not_mem_nil, or_false] at hop
  rcases hop with rfl | rfl
  · obtain rfl := Option.some.inj hp
    decide
  · cases hp

/-- A plugin that reports what a cluster's nodes run. -/
def clusterConfig : Config :=
  { plainConfig with
    plugin := fun id =>
      if id = "cluster" then some { pluginId := "cluster", capabilities := ["observe"] } else none }

/-- A server of one node, and a cluster. -/
def clusterFleet : Broker :=
  .fleet [] [sampleServer "alpha" 22,
    { sampleServer "beta" 23 with observationProfile := "cluster" }] []

/-- Two nodes of the cluster, each with its device 0. -/
def clusterLook : EndpointObservation :=
  { endpointId := "beta"
    nodes := [{ sampleNode 0 [sampleCard "GPU-2" 0] [] true with nodeId := "n1" },
      { sampleNode 0 [sampleCard "GPU-3" 0] [] true with nodeId := "n2" }]
    nodes_valid := by
      intro n hn
      simp only [List.mem_cons, List.not_mem_nil, or_false] at hn
      rcases hn with rfl | rfl <;>
        exact ⟨List.nodup_singleton _, List.nodup_singleton _, List.nodup_singleton _⟩
    unique_nodes := by simp [sampleNode] }

/-- The claim moved to the cluster, a card on each node. -/
def acrossNodes : List Op :=
  pairClaim ++ [.ingestObservation 0 clusterLook sampleToken,
    .reassignLeaseGpus 0 (sampleActor "ann") "lease" ["beta:n1:GPU-2", "beta:n2:GPU-3"] "move" false
      (sampleToken "lease")]

/-- Complete observations are not enough: on a server of two nodes an entry names device 0 twice. -/
theorem nodes_share :
    ¬ ∀ (cfg : Config) (b₀ : Broker) (ops : List Op) (e : String), Seeded b₀ →
      (∀ op ∈ ops, ∀ p ∈ op.observation, p.2.complete = true) →
      OwnOrdinals (Run.run (exec cfg) b₀ ops) (latestLook cfg e b₀ none ops) e := by
  intro hall
  have hseeded : Seeded clusterFleet := fleet_seeded [] (by decide) (by decide) (by decide)
  have hcomplete : ∀ op ∈ acrossNodes, ∀ p ∈ op.observation, p.2.complete = true := by
    decide
  have hown := hall clusterConfig clusterFleet acrossNodes "beta" hseeded hcomplete
  have hentries : ((Run.run (exec clusterConfig) clusterFleet acrossNodes).executableResources
      "lease").map (fun E => (E.endpointId, E.ordinals)) = [("beta", [0, 0])] := by
    decide +kernel
  obtain ⟨E, hE, heq⟩ := List.mem_map.1 (hentries ▸ List.mem_singleton_self _)
  obtain ⟨hEe, hEo⟩ := Prod.mk.inj heq
  have hnodup := (hown.exact "lease" E hE hEe).2.1
  rw [hEo] at hnodup
  exact absurd hnodup (by decide)

end ServerPilot
