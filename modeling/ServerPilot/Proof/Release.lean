import ServerPilot.Spec.Release
import ServerPilot.Proof.Commits
import ServerPilot.Proof.Replay

/-!
# Ending a lease

A release of a live task by whoever may end it is accepted, `releaseLease_accepts`,
unless its key is malformed or was used before. For a delegated lease that is
looked at only after the provider has given the allocation back.
-/

namespace ServerPilot

open Rows Checked

section

variable {b b' : Broker} {now : Time} {actor : ActorContext} {leaseId reason : String}
  {key : Option String} {override : Bool} {token : String → String} {x : Lease} {resp : Response}

/-! ## The last transaction -/

theorem requireRelease_ok : requireRelease actor reason override = .ok () ↔
    actor.role ∈ mutatingRoles ∧ (override = true → actor.role ∈ ["operator", "admin"]) ∧
      strip reason ≠ "" := by
  unfold requireRelease requireRole
  simp only [bind_ok, require_ok]
  constructor
  · rintro ⟨-, hrole, -, hoverride, hreason⟩
    exact ⟨hrole, hoverride, hreason⟩
  · rintro ⟨hrole, hoverride, hreason⟩
    exact ⟨(), hrole, (), hoverride, hreason⟩

/-- **A release is accepted** of every live task its caller may end, under no key or a new one, and
the lease is over. -/
theorem releaseLease_accepts (now : Time) (token : String → String) (key : Option String)
    (hb : Intact b)
    (hcall : requireRelease actor reason override = .ok ()) (hx : b.ledger.lease? leaseId = some x)
    (hw : x.kind = .workload) (hl : x.state.terminal = false)
    (hm : canManageLease actor x = true ∨ override = true)
    (hkey : b.ledger.replay actor "lease.release" key = .ok none) :
    ∃ b' r, releaseLease now actor leaseId reason key override token b = .ok (b', r) ∧
      b'.ledger.over leaseId ∧ b'.ledger.cards leaseId = [] := by
  obtain ⟨hrole, hoverride, hreason⟩ := requireRelease_ok.1 hcall
  obtain rfl := lease?_id hx
  set text := cut 500 (strip reason) with htext
  obtain ⟨hplant, hleases, hresources, -, -, hkeys⟩ := released_writes b x text token now
  have hintact : Intact ⟨b.plant, (b.released x text token now).ledger.addAudit (some actor.id)
      "lease.released" "lease" x.id "success" [("reason", .text text)] now⟩ := by
    have h := (hb.released x text token now).addAudit (some actor.id) "lease.released" "lease" x.id
      "success" [("reason", .text text)] now
    rwa [hplant] at h
  have hover : (b.ledger.endLease x.id .released (some text) now).leases = updWhere
      (fun y => y.id = x.id) (Lease.ended .released (some text) now) b.ledger.leases := rfl
  set audited := (b.released x text token now).ledger.addAudit (some actor.id) "lease.released"
    "lease" x.id "success" [("reason", .text text)] now with haudited
  have haccepted : ∃ r, releaseLease now actor x.id reason key override token b =
      .ok (⟨b.plant, audited.remember actor "lease.release" key r now⟩, r) := by
    refine ⟨.lease (audited.nextAuditId - 1) audited.revision
      (Broker.leaseDictOf ⟨b.plant, audited⟩ x), ?_⟩
    unfold releaseLease requireRole rejectGenericKeepaliveMutation
    rw [require_bind_pos hrole, require_bind_pos hoverride, require_bind_pos hreason,
      need_bind_some hx, require_bind_pos (by rw [hw]; exact LeaseKind.noConfusion)]
    refine once_accepted_as hkey hintact hkeys ?_
    rw [require_bind_pos hm, require_bind_pos hl]
    rfl
  obtain ⟨r, haccepted⟩ := haccepted
  refine ⟨_, r, haccepted, ⟨x.ended .released (some text) now, ?_, rfl, hw, rfl⟩, ?_⟩
  · rw [leases_remember]
    change _ ∈ (b.released x text token now).ledger.leases
    rw [hleases, hover]
    exact mem_updWhere.2 ⟨x, lease?_mem hx, Or.inl ⟨by simp, rfl⟩⟩
  · have hnone := cards_endLease (l := b.ledger) (i := x.id) .released (some text) now
    have hrows : (audited.remember actor "lease.release" key r now).resources =
        (b.ledger.endLease x.id .released (some text) now).resources := by
      rw [← hresources]
      cases key <;> rfl
    unfold Ledger.cards at hnone ⊢
    simp only [hrows]
    exact hnone

/-! ## The provider's part -/

/-- The state with an allocation marked as the provider answered. -/
def Broker.markedRow (b : Broker) (allocationId : String) (released : Bool) (error : Option String)
    (now : Time) : Broker :=
  { b with
    ledger := (b.ledger.editAllocations (fun a => a.id = allocationId)
      (ResourceAllocation.marked released error now)).bumpRevision }

theorem Intact.markedRow (hb : Intact b) (allocationId : String) (released : Bool)
    (error : Option String) (now : Time) :
    Intact (b.markedRow allocationId released error now) := by
  have h : Intact ⟨b.plant, b.ledger.editAllocations (fun a => a.id = allocationId)
      (ResourceAllocation.marked released error now)⟩ :=
    hb.editAllocations (fun _ => rfl) fun _ => rfl
  exact h.bumpRevision

/-- A mark on a row that is there is made. -/
theorem markAllocation_made (hb : Intact b) {allocationId : String}
    (ha : allocationId ∈ b.ledger.allocations.map ResourceAllocation.id) (released : Bool)
    (error : Option String) (now : Time) :
    markAllocation now allocationId released error b =
      .ok (b.markedRow allocationId released error now, .done) := by
  obtain ⟨a, hm, rfl⟩ := List.mem_map.1 ha
  have hfound : b.ledger.allocation? a.id = some a := row?_of_mem hb.allocationPk hm
  unfold markAllocation Broker.writeAllocation
  rw [need_bind_some hfound]
  exact finish_of_intact (hb.markedRow a.id released error now) .done

theorem markedRow_ids (allocationId : String) (released : Bool) (error : Option String)
    (now : Time) :
    (b.markedRow allocationId released error now).ledger.allocations.map ResourceAllocation.id =
      b.ledger.allocations.map ResourceAllocation.id :=
  map_updWhere _ fun _ => rfl

/-- The allocation a release goes to its provider with. -/
theorem pluginAllocation_mem {l : Ledger} {p : PluginRelease}
    (h : l.pluginAllocation leaseId = some p) :
    ∃ a ∈ l.allocationsOf leaseId, a.id = p.allocationId ∧ a.providerId ≠ "builtin" := by
  obtain ⟨a, ha, hp⟩ := Option.bind_eq_some_iff.1 h
  obtain ⟨ref, -, rfl⟩ := Option.map_eq_some_iff.1 hp
  have hne := List.find?_some ha
  exact ⟨a, List.mem_of_find?_eq_some ha, rfl, of_decide_eq_true hne⟩

theorem pluginAllocation_id {l : Ledger} {p : PluginRelease}
    (h : l.pluginAllocation leaseId = some p) :
    p.allocationId ∈ l.allocations.map ResourceAllocation.id := by
  obtain ⟨a, ha, hid, -⟩ := pluginAllocation_mem h
  exact hid ▸ List.mem_map_of_mem (List.mem_of_mem_filter ha)

/-- The lease of an allocation its caller may give back. -/
theorem releasable_some {p : PluginRelease} :
    b.releasableAllocation actor leaseId override = some p ↔
      ∃ x, b.ledger.lease? leaseId = some x ∧ x.state.terminal = false ∧
        (canManageLease actor x = true ∨ override = true) ∧
          b.ledger.pluginAllocation leaseId = some p := by
  unfold Broker.releasableAllocation
  rw [Option.bind_eq_some_iff]
  constructor
  · rintro ⟨x, hx, hp⟩
    obtain ⟨hx, hs⟩ := Option.filter_eq_some_iff.1 hx
    simp only [Bool.and_eq_true, Bool.not_eq_true', Bool.or_eq_true] at hs
    rw [lease?_id hx] at hp
    exact ⟨x, hx, hs.1, hs.2, hp⟩
  · rintro ⟨x, hx, hl, hm, hp⟩
    refine ⟨x, Option.filter_eq_some_iff.2 ⟨hx, ?_⟩, by rwa [lease?_id hx]⟩
    simp only [Bool.and_eq_true, Bool.not_eq_true', Bool.or_eq_true]
    exact ⟨hl, hm⟩

section

variable {w : ReleaseWorld} {p : PluginRelease}

/-- The provider refuses: the row keeps its error, and the caller is told. -/
theorem answerRelease_refused (hb : Intact b) {allocationId text : String}
    (ha : allocationId ∈ b.ledger.allocations.map ResourceAllocation.id)
    (hr : w.refusal = some text) :
    b.answerRelease w actor leaseId reason key override allocationId =
      { broker := b.markedRow allocationId false (some text) w.answeredAt, confirmed := false
        answer := some (.error (refuse "plugin_release_failed" "归还结果待确认，分配仍保留。" 409
          [("allocation_id", .text allocationId)])) } := by
  unfold Broker.answerRelease
  rw [hr]
  simp only
  rw [markAllocation_made hb ha]

/-- The provider confirms, and nothing is written any more. -/
theorem answerRelease_atMark {allocationId : String} (hr : w.refusal = none)
    (hbr : w.breaks = some .atMark) :
    b.answerRelease w actor leaseId reason key override allocationId =
      { broker := b, confirmed := true, answer := none } := by
  unfold Broker.answerRelease
  rw [hr, hbr]
  rfl

/-- The provider confirms, and that is all that is written. -/
theorem answerRelease_atWrite (hb : Intact b) {allocationId : String}
    (ha : allocationId ∈ b.ledger.allocations.map ResourceAllocation.id) (hr : w.refusal = none)
    (hbr : w.breaks = some .atWrite) :
    b.answerRelease w actor leaseId reason key override allocationId =
      { broker := b.markedRow allocationId true none w.answeredAt, confirmed := true
        answer := none } := by
  unfold Broker.answerRelease
  rw [hr, hbr]
  simp only
  rw [if_neg (by decide), markAllocation_made hb ha]
  rfl

/-- The provider confirms, that is written, and the last transaction follows. -/
theorem answerRelease_through (hb : Intact b) {allocationId : String}
    (ha : allocationId ∈ b.ledger.allocations.map ResourceAllocation.id) (hr : w.refusal = none)
    (hbr : w.breaks = none) :
    b.answerRelease w actor leaseId reason key override allocationId =
      (b.markedRow allocationId true none w.answeredAt).endRelease w actor leaseId reason key
        override true := by
  unfold Broker.answerRelease
  rw [hr, hbr]
  simp only
  rw [if_neg (by decide), markAllocation_made hb ha]
  rfl

/-- A release of a delegated lease is first marked, and then the provider's to answer. -/
theorem releaseCall_remote (w : ReleaseWorld) (key : Option String) (hb : Intact b)
    (hcall : requireRelease actor reason override = .ok ())
    (hp : b.releasableAllocation actor leaseId override = some p) :
    releaseCall w actor leaseId reason key override b =
      (b.markedRow p.allocationId false none w.markedAt).answerRelease w actor leaseId reason key
        override p.allocationId := by
  obtain ⟨-, -, -, -, hplugin⟩ := releasable_some.1 hp
  have hmem := pluginAllocation_id hplugin
  unfold releaseCall
  rw [hcall, hp]
  simp only
  rw [markAllocation_made hb hmem]

end

end

end ServerPilot
