import ServerPilot.Spec.Ledger

/-!
# Committing a transaction

The unique indexes and foreign keys of the schema, checked on the state an
operation leaves. `Intact` is their conjunction; `commit_ok` says a committed
state is the one the operation built, and intact.
-/

namespace ServerPilot

open Rows Checked

/-- Every row's reference `f` is the key of a row. -/
def Refers {α : Type*} (f : α → String) (rows : List α) (keys : List String) : Prop :=
  ∀ r ∈ rows, f r ∈ keys

instance {α : Type*} (f : α → String) (rows : List α) (keys : List String) :
    Decidable (Refers f rows keys) := inferInstanceAs (Decidable (∀ r ∈ rows, f r ∈ keys))

/-- A nullable reference, null or the key of a row. -/
def RefersOpt {α : Type*} (f : α → Option String) (rows : List α) (keys : List String) : Prop :=
  ∀ r ∈ rows, ∀ k ∈ f r, k ∈ keys

instance {α : Type*} (f : α → Option String) (rows : List α) (keys : List String) :
    Decidable (RefersOpt f rows keys) :=
  inferInstanceAs (Decidable (∀ r ∈ rows, ∀ k ∈ f r, k ∈ keys))

/-- The rows of the partial index `uq_active_owned_task`. -/
def Ledger.ownedLive (l : Ledger) : List Lease :=
  l.leases.filter fun x => x.ownerSessionId.isSome ∧ x.releasedAt = none

/-- The allocations with a provider's handle; a null handle never clashes. -/
def Ledger.referenced (l : Ledger) : List ResourceAllocation :=
  l.allocations.filter fun a => a.allocationRef.isSome

/-- The unique indexes and foreign keys, by name. -/
structure Intact (b : Broker) : Prop where
  endpointPk : (b.plant.endpoints.map Endpoint.id).Nodup
  endpointHostPort : (b.plant.endpoints.map fun e => (e.host, e.port)).Nodup
  gpuPk : (b.plant.gpus.map GPUDevice.id).Nodup
  gpuUuid : (b.plant.gpus.map fun g => (g.endpointId, g.nodeId, g.gpuUuid)).Nodup
  gpuEndpoint : Refers GPUDevice.endpointId b.plant.gpus (b.plant.endpoints.map Endpoint.id)
  telemetryPk : (b.plant.telemetry.map TelemetryCurrent.gpuId).Nodup
  hostPk : (b.plant.hosts.map fun h => (h.endpointId, h.nodeId)).Nodup
  nodeStatePk : (b.plant.nodeStates.map fun s => (s.endpointId, s.nodeId)).Nodup
  providerPk : (b.plant.providerStates.map ProviderState.endpointId).Nodup
  processIdentity : (b.plant.processes.map ProcessObservation.identity).Nodup
  processGpu : Refers ProcessObservation.gpuId b.plant.processes (b.plant.gpus.map GPUDevice.id)
  keepalivePk : (b.plant.keepalive.map KeepaliveCurrent.gpuId).Nodup
  projectPk : (b.ledger.projects.map Project.id).Nodup
  leasePk : (b.ledger.leases.map Lease.id).Nodup
  activeOwnedTask : (b.ledger.ownedLive.map fun x => (x.projectId, x.taskRef)).Nodup
  leaseGpu : (b.ledger.resources.map fun r => (r.leaseId, r.gpuId)).Nodup
  activeGpu : (b.ledger.activeResources.map LeaseResource.gpuId).Nodup
  resourceLease : Refers LeaseResource.leaseId b.ledger.resources (b.ledger.leases.map Lease.id)
  resourceGpu : Refers LeaseResource.gpuId b.ledger.resources (b.plant.gpus.map GPUDevice.id)
  commitmentPk : (b.ledger.commitments.map fun c => (c.leaseId, c.endpointId)).Nodup
  commitmentLease : Refers Commitment.leaseId b.ledger.commitments (b.ledger.leases.map Lease.id)
  commitmentEndpoint :
    Refers Commitment.endpointId b.ledger.commitments (b.plant.endpoints.map Endpoint.id)
  allocationPk : (b.ledger.allocations.map ResourceAllocation.id).Nodup
  allocationRequest :
    (b.ledger.allocations.map fun a => (a.actorId, a.requestKey, a.endpointId)).Nodup
  providerAllocation :
    (b.ledger.referenced.map fun a => (a.endpointId, a.providerId, a.allocationRef)).Nodup
  allocationLease :
    RefersOpt ResourceAllocation.leaseId b.ledger.allocations (b.ledger.leases.map Lease.id)
  allocationEndpoint :
    Refers ResourceAllocation.endpointId b.ledger.allocations (b.plant.endpoints.map Endpoint.id)
  bindingPk : (b.ledger.bindings.map fun w => (w.leaseId, w.runId)).Nodup
  bindingLease : Refers WorkloadBinding.leaseId b.ledger.bindings (b.ledger.leases.map Lease.id)
  auditPk : (b.ledger.audit.map AuditEvent.id).Nodup
  idempotencyPk : (b.ledger.idempotency.map fun r => (r.actorId, r.action, r.key)).Nodup

/-- Each constraint with its name and whether the state satisfies it. -/
def Broker.constraints (b : Broker) : List (String × Bool) :=
  [("endpoints.id", decide (b.plant.endpoints.map Endpoint.id).Nodup),
   ("uq_endpoint_host_port", decide (b.plant.endpoints.map fun e => (e.host, e.port)).Nodup),
   ("gpu_devices.id", decide (b.plant.gpus.map GPUDevice.id).Nodup),
   ("uq_endpoint_node_gpu_uuid",
     decide (b.plant.gpus.map fun g => (g.endpointId, g.nodeId, g.gpuUuid)).Nodup),
   ("gpu_devices.endpoint_id",
     decide (Refers GPUDevice.endpointId b.plant.gpus (b.plant.endpoints.map Endpoint.id))),
   ("telemetry_current.gpu_id", decide (b.plant.telemetry.map TelemetryCurrent.gpuId).Nodup),
   ("endpoint_telemetry_current",
     decide (b.plant.hosts.map fun h => (h.endpointId, h.nodeId)).Nodup),
   ("node_observation_states",
     decide (b.plant.nodeStates.map fun s => (s.endpointId, s.nodeId)).Nodup),
   ("uq_provider_endpoint", decide (b.plant.providerStates.map ProviderState.endpointId).Nodup),
   ("uq_current_process_identity",
     decide (b.plant.processes.map ProcessObservation.identity).Nodup),
   ("process_observations.gpu_id",
     decide (Refers ProcessObservation.gpuId b.plant.processes (b.plant.gpus.map GPUDevice.id))),
   ("keepalive_current.gpu_id", decide (b.plant.keepalive.map KeepaliveCurrent.gpuId).Nodup),
   ("projects.id", decide (b.ledger.projects.map Project.id).Nodup),
   ("leases.id", decide (b.ledger.leases.map Lease.id).Nodup),
   ("uq_active_owned_task",
     decide (b.ledger.ownedLive.map fun x => (x.projectId, x.taskRef)).Nodup),
   ("uq_lease_gpu", decide (b.ledger.resources.map fun r => (r.leaseId, r.gpuId)).Nodup),
   ("uq_active_lease_resource_gpu",
     decide (b.ledger.activeResources.map LeaseResource.gpuId).Nodup),
   ("lease_resources.lease_id",
     decide (Refers LeaseResource.leaseId b.ledger.resources (b.ledger.leases.map Lease.id))),
   ("lease_resources.gpu_id",
     decide (Refers LeaseResource.gpuId b.ledger.resources (b.plant.gpus.map GPUDevice.id))),
   ("uq_lease_endpoint_commitment",
     decide (b.ledger.commitments.map fun c => (c.leaseId, c.endpointId)).Nodup),
   ("lease_endpoint_commitments.lease_id",
     decide (Refers Commitment.leaseId b.ledger.commitments (b.ledger.leases.map Lease.id))),
   ("lease_endpoint_commitments.endpoint_id",
     decide (Refers Commitment.endpointId b.ledger.commitments
       (b.plant.endpoints.map Endpoint.id))),
   ("resource_allocations.id", decide (b.ledger.allocations.map ResourceAllocation.id).Nodup),
   ("uq_allocation_request",
     decide (b.ledger.allocations.map fun a => (a.actorId, a.requestKey, a.endpointId)).Nodup),
   ("uq_provider_allocation",
     decide (b.ledger.referenced.map fun a =>
       (a.endpointId, a.providerId, a.allocationRef)).Nodup),
   ("resource_allocations.lease_id",
     decide (RefersOpt ResourceAllocation.leaseId b.ledger.allocations
       (b.ledger.leases.map Lease.id))),
   ("resource_allocations.endpoint_id",
     decide (Refers ResourceAllocation.endpointId b.ledger.allocations
       (b.plant.endpoints.map Endpoint.id))),
   ("uq_lease_run_id", decide (b.ledger.bindings.map fun w => (w.leaseId, w.runId)).Nodup),
   ("workload_bindings.lease_id",
     decide (Refers WorkloadBinding.leaseId b.ledger.bindings (b.ledger.leases.map Lease.id))),
   ("audit_events.id", decide (b.ledger.audit.map AuditEvent.id).Nodup),
   ("uq_idempotency",
     decide (b.ledger.idempotency.map fun r => (r.actorId, r.action, r.key)).Nodup)]

/-- The first constraint the state violates. -/
def Broker.violated (b : Broker) : Option String :=
  (b.constraints.find? fun c => !c.2).map Prod.fst

/-- `COMMIT`, or the `IntegrityError` that rolls the transaction back. -/
def commit (b : Broker) : Tx Broker :=
  match b.violated with
  | some index => .error (.integrity index)
  | none => .ok b

theorem violated_eq_none {b : Broker} : b.violated = none ↔ Intact b := by
  unfold Broker.violated Broker.constraints
  simp only [Option.map_eq_none_iff, List.find?_eq_none, List.forall_mem_cons, Bool.not_eq_true',
    Bool.not_eq_false, decide_eq_true_eq, List.not_mem_nil, IsEmpty.forall_iff, implies_true,
      and_true]
  constructor
  · rintro ⟨h1, h2, h3, h4, h5, h6, h7, h8, h9, h10, h11, h12, h13, h14, h15, h16, h17, h18, h19,
      h20, h21, h22, h23, h24, h25, h26, h27, h28, h29, h30, h31⟩
    exact ⟨h1, h2, h3, h4, h5, h6, h7, h8, h9, h10, h11, h12, h13, h14, h15, h16, h17, h18, h19,
      h20, h21, h22, h23, h24, h25, h26, h27, h28, h29, h30, h31⟩
  · rintro ⟨h1, h2, h3, h4, h5, h6, h7, h8, h9, h10, h11, h12, h13, h14, h15, h16, h17, h18, h19,
      h20, h21, h22, h23, h24, h25, h26, h27, h28, h29, h30, h31⟩
    exact ⟨h1, h2, h3, h4, h5, h6, h7, h8, h9, h10, h11, h12, h13, h14, h15, h16, h17, h18, h19,
      h20, h21, h22, h23, h24, h25, h26, h27, h28, h29, h30, h31⟩

/-- A committed state is the one the transaction built, and it is intact. -/
@[simp] theorem commit_ok {b b' : Broker} : commit b = .ok b' ↔ b = b' ∧ Intact b := by
  unfold commit
  cases h : b.violated with
  | none => simp [violated_eq_none.1 h]
  | some i =>
    have hn : ¬ Intact b := fun hi => by simp [violated_eq_none.2 hi] at h
    simp [hn]

/-- Commit, and answer. -/
def finish (b : Broker) (response : Response) : Tx (Broker × Response) := do
  let b ← commit b
  pure (b, response)

theorem finish_ok {b b' : Broker} {r r' : Response} :
    finish b r = .ok (b', r') ↔ b' = b ∧ r' = r ∧ Intact b := by
  unfold finish
  simp only [bind_ok, commit_ok, pure_ok, Prod.mk.injEq]
  constructor
  · rintro ⟨_, ⟨rfl, hi⟩, rfl, rfl⟩
    exact ⟨rfl, rfl, hi⟩
  · rintro ⟨rfl, rfl, hi⟩
    exact ⟨_, ⟨rfl, hi⟩, rfl, rfl⟩

/-- Run an operation, and commit what it leaves together with its answer under the key. -/
def remembering (actor : ActorContext) (action : String) (key : Option String) (now : Time)
    (body : Tx (Broker × Response)) : Tx (Broker × Response) := do
  let (b, response) ← body
  finish { b with ledger := b.ledger.remember actor action key response now } response

/-- An operation under an idempotency key: a key already used replays its answer. -/
def once (b : Broker) (actor : ActorContext) (action : String) (key : Option String) (now : Time)
    (body : Tx (Broker × Response)) : Tx (Broker × Response) := do
  match ← b.ledger.replay actor action key with
  | some response => pure (b, response)
  | none => remembering actor action key now body

section

variable {b b' : Broker} {actor : ActorContext} {action : String} {key : Option String} {now : Time}
  {body : Tx (Broker × Response)} {r : Response}

/-- What a remembered operation leaves is what its body built, committed. -/
theorem remembering_ok (h : remembering actor action key now body = .ok (b', r)) :
    ∃ b₁, body = .ok (b₁, r) ∧ Intact b' ∧
      b' = { b₁ with ledger := b₁.ledger.remember actor action key r now } := by
  unfold remembering at h
  simp only [bind_ok, finish_ok] at h
  obtain ⟨⟨b₁, r₁⟩, hb, rfl, rfl, hi⟩ := h
  exact ⟨b₁, hb, hi, rfl⟩

/-- A replay changes nothing; otherwise the body ran, and what it left was committed. -/
theorem once_ok (h : once b actor action key now body = .ok (b', r)) :
    b' = b ∨ ∃ b₁, body = .ok (b₁, r) ∧ Intact b' ∧
      b' = { b₁ with ledger := b₁.ledger.remember actor action key r now } := by
  unfold once at h
  simp only [bind_ok] at h
  obtain ⟨replay, -, h⟩ := h
  cases replay with
  | some response =>
    simp only [pure_ok, Prod.mk.injEq] at h
    exact Or.inl h.1.symm
  | none => exact Or.inr (remembering_ok h)

/-- What is not a replay came under a key not used yet. -/
theorem once_fresh (h : once b actor action key now body = .ok (b', r)) :
    b' = b ∨ b.ledger.replay actor action key = .ok none := by
  unfold once at h
  simp only [bind_ok] at h
  obtain ⟨replay, hr, h⟩ := h
  cases replay with
  | some response =>
    simp only [pure_ok, Prod.mk.injEq] at h
    exact Or.inl h.1.symm
  | none => exact Or.inr hr

end

end ServerPilot
