import ServerPilot.Lib.Run
import ServerPilot.Spec.Holder
import ServerPilot.Spec.Provider

/-!
# The broker as a system

`Op` lists every transaction of the control plane, with the instant it runs at and
whatever it draws at random; `exec` runs one, and a refused one changes nothing.
The writer is single, so a run of the broker is a list of transactions.
-/

namespace ServerPilot

/-- One transaction. -/
inductive Op
  | createRequest (now : Time) (actor : ActorContext) (r : RequestCreate) (key : Option String)
      (persistent : Bool) (leaseId : String) (token : String → String)
  | resizeLease (now : Time) (actor : ActorContext) (leaseId : String)
      (addRequest : Option RequestCreate) (removeGpuIds : List String) (expectedEpoch : Option ℕ)
      (token : String → String)
  | releaseLease (now : Time) (actor : ActorContext) (leaseId reason : String)
      (key : Option String) (operatorOverride : Bool) (token : String → String)
  | reassignLeaseGpus (now : Time) (actor : ActorContext) (leaseId : String)
      (gpuIds : List String) (key : String) (operatorOverride : Bool) (token : String → String)
  | takeOverLease (now : Time) (actor : ActorContext) (leaseId task : Option String)
      (projectId reason : String) (force : Bool)
  | leaseView (now : Time) (actor : ActorContext) (leaseId task projectId : Option String)
      (keepIdle : Bool)
  | recordLeaseHeartbeat (now : Time) (actor : ActorContext) (leaseId : String) (keepIdle : Bool)
  | bindObservedWorkload (now : Time) (actor : ActorContext) (leaseId : String)
      (run : Option String) (key : String)
  | releaseEmptyConflictedLease (now : Time) (actor : ActorContext) (endpointId leaseId : String)
      (observationNotBefore : Time) (key : String)
  | activateKeepalives (now : Time) (actor : ActorContext) (endpointId : String)
      (gpuIds : List String) (observationNotBefore : Time) (key : String)
      (confirmed : Option (List (String × ℕ × String))) (token : String → String)
  | finalizeKeepaliveStop (now : Time) (actor : ActorContext) (endpointId leaseId : String)
      (observationNotBefore : Time) (key : Option String)
  | setKeepaliveError (now : Time) (endpointId : String) (gpuIds : List String) (reason : String)
      (cleanupPending : Bool)
  | finishKeepaliveCleanup (now : Time) (actor : ActorContext) (endpointId : String)
      (gpuIds : List String)
  | configureKeepalivePolicy (now : Time) (actor : ActorContext) (endpointId : String)
      (policy : KeepalivePolicy) (key : String)
  | ingestObservation (now : Time) (o : EndpointObservation) (token : String → String → String)
  | recordProviderFailure (now : Time) (endpointId message errorCode : String)
  | pruneExpired (now : Time)
  | createServerGroup (now : Time) (actor : ActorContext) (data : ServerGroup) (key : String)
  | createEndpoint (now : Time) (actor : ActorContext) (data : EndpointCreate) (key : String)
  | updateEndpoint (now : Time) (actor : ActorContext) (endpointId : String) (u : EndpointUpdate)
      (key : String)
  | deleteEndpoint (now : Time) (actor : ActorContext) (endpointId key : String)
  | claimPrepare (now : Time) (actor : ActorContext) (r : RequestCreate) (key : Option String)
      (endpointId : String) (plugin : Plugin) (token : String)
  | claimFailed (now : Time) (allocationId : String) (rejected : Bool) (error : String)
  | claimRemember (now : Time) (allocationId : String) (fact : AllocationFact)
  | claimFinish (now : Time) (actor : ActorContext) (r : RequestCreate) (key : Option String)
      (allocationId leaseId : String)
  | markAllocation (now : Time) (allocationId : String) (released : Bool) (error : Option String)
  | finishPluginRelease (now : Time) (allocationId : String) (error : Option String)

/-- When the transaction runs. -/
def Op.now : Op → Time
  | createRequest now .. | resizeLease now .. | releaseLease now .. | reassignLeaseGpus now ..
  | takeOverLease now .. | leaseView now .. | recordLeaseHeartbeat now ..
  | bindObservedWorkload now .. | releaseEmptyConflictedLease now .. | activateKeepalives now ..
  | finalizeKeepaliveStop now .. | setKeepaliveError now .. | finishKeepaliveCleanup now ..
  | configureKeepalivePolicy now .. | ingestObservation now .. | recordProviderFailure now ..
  | pruneExpired now | createServerGroup now .. | createEndpoint now .. | updateEndpoint now ..
  | deleteEndpoint now .. | claimPrepare now .. | claimFailed now .. | claimRemember now ..
  | claimFinish now .. | markAllocation now .. | finishPluginRelease now .. => now

/-- The transaction, on a state. -/
def Op.apply (cfg : Config) : Op → Broker → Tx (Broker × Response)
  | .createRequest now actor r key persistent leaseId token =>
    ServerPilot.createRequest cfg now actor r key persistent leaseId token
  | .resizeLease now actor leaseId addRequest removeGpuIds expectedEpoch token =>
    ServerPilot.resizeLease cfg now actor leaseId addRequest removeGpuIds expectedEpoch token
  | .releaseLease now actor leaseId reason key override token =>
    ServerPilot.releaseLease now actor leaseId reason key override token
  | .reassignLeaseGpus now actor leaseId gpuIds key override token =>
    ServerPilot.reassignLeaseGpus now actor leaseId gpuIds key override token
  | .takeOverLease now actor leaseId task projectId reason force =>
    ServerPilot.takeOverLease now actor leaseId task projectId reason force
  | .leaseView now actor leaseId task projectId keepIdle =>
    ServerPilot.leaseView cfg now actor leaseId task projectId keepIdle
  | .recordLeaseHeartbeat now actor leaseId keepIdle =>
    ServerPilot.recordLeaseHeartbeat cfg now actor leaseId keepIdle
  | .bindObservedWorkload now actor leaseId run key =>
    ServerPilot.bindObservedWorkload now actor leaseId run key
  | .releaseEmptyConflictedLease now actor endpointId leaseId notBefore key =>
    ServerPilot.releaseEmptyConflictedLease cfg now actor endpointId leaseId notBefore key
  | .activateKeepalives now actor endpointId gpuIds notBefore key confirmed token =>
    ServerPilot.activateKeepalives cfg now actor endpointId gpuIds notBefore key confirmed token
  | .finalizeKeepaliveStop now actor endpointId leaseId notBefore key =>
    ServerPilot.finalizeKeepaliveStop now actor endpointId leaseId notBefore key
  | .setKeepaliveError now endpointId gpuIds reason cleanupPending =>
    ServerPilot.setKeepaliveError now endpointId gpuIds reason cleanupPending
  | .finishKeepaliveCleanup now actor endpointId gpuIds =>
    ServerPilot.finishKeepaliveCleanup now actor endpointId gpuIds
  | .configureKeepalivePolicy now actor endpointId policy key =>
    ServerPilot.configureKeepalivePolicy now actor endpointId policy key
  | .ingestObservation now o token => ServerPilot.ingestObservation cfg now o token
  | .recordProviderFailure now endpointId message errorCode =>
    ServerPilot.recordProviderFailure cfg now endpointId message errorCode
  | .pruneExpired now => ServerPilot.pruneExpired now
  | .createServerGroup now actor data key => ServerPilot.createServerGroup now actor data key
  | .createEndpoint now actor data key => ServerPilot.createEndpoint now actor data key
  | .updateEndpoint now actor endpointId u key =>
    ServerPilot.updateEndpoint now actor endpointId u key
  | .deleteEndpoint now actor endpointId key =>
    ServerPilot.deleteEndpoint cfg now actor endpointId key
  | .claimPrepare now actor r key endpointId plugin token =>
    ServerPilot.claimPrepare now actor r key endpointId plugin token
  | .claimFailed now allocationId rejected error =>
    ServerPilot.claimFailed now allocationId rejected error
  | .claimRemember now allocationId fact => ServerPilot.claimRemember now allocationId fact
  | .claimFinish now actor r key allocationId leaseId =>
    ServerPilot.claimFinish now actor r key allocationId leaseId
  | .markAllocation now allocationId released error =>
    ServerPilot.markAllocation now allocationId released error
  | .finishPluginRelease now allocationId error =>
    ServerPilot.finishPluginRelease now allocationId error

/-- The state a transaction leaves: a refused one is rolled back. -/
def exec (cfg : Config) (b : Broker) (op : Op) : Broker :=
  match op.apply cfg b with
  | .ok (b', _) => b'
  | .error _ => b

/-- The state before any transaction: an inventory of endpoints, groups and projects. -/
structure Seeded (b : Broker) : Prop where
  intact : Intact b
  gpus : b.plant.gpus = []
  processes : b.plant.processes = []
  leases : b.ledger.leases = []
  resources : b.ledger.resources = []
  commitments : b.ledger.commitments = []
  allocations : b.ledger.allocations = []
  audit : b.ledger.audit = []

/-- The states some run of transactions reaches. -/
def Reachable (cfg : Config) (b : Broker) : Prop :=
  ∃ b₀, Seeded b₀ ∧ ∃ ops, b = Run.run (exec cfg) b₀ ops

/-- An accepted transaction, or a refused one that changed nothing. -/
theorem exec_cases (cfg : Config) (b : Broker) (op : Op) :
    (∃ b' r, op.apply cfg b = .ok (b', r) ∧ exec cfg b op = b') ∨
      (∃ e, op.apply cfg b = .error e) ∧ exec cfg b op = b := by
  unfold exec
  cases h : op.apply cfg b with
  | error e => exact Or.inr ⟨⟨e, rfl⟩, rfl⟩
  | ok x => exact Or.inl ⟨x.1, x.2, rfl, rfl⟩

end ServerPilot
