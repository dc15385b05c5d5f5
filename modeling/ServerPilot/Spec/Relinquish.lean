import ServerPilot.Spec.Release
import ServerPilot.Spec.Op

/-!
# Ending a task among others

`release_lease` of a delegated lease holds no lock while it asks the provider, so
other transactions are committed between its own: `relinquish`. With none of them
it is `releaseCall`.
-/

namespace ServerPilot

/-- What happens around a release: the provider's answer and where the server fails, and what others
commit before the mark, while the provider is asked, and before the lease is ended. -/
structure ReleaseCourse extends ReleaseWorld where
  before : List Op := []
  meanwhile : List Op := []
  between : List Op := []

/-- How a release went. `freed` says whether the call wrote a row as released. -/
structure Relinquished extends Released where
  freed : Bool

variable (cfg : Config) (w : ReleaseCourse) (actor : ActorContext) (leaseId reason : String)
  (key : Option String) (operatorOverride : Bool)

/-- The transaction a release ends with; it is the one that ends the lease. -/
def Broker.writeRelease (confirmed : Bool) (b : Broker) : Relinquished :=
  match releaseLease w.writtenAt actor leaseId reason key operatorOverride w.token b with
  | .ok (b', response) =>
    { broker := b', confirmed, answer := some (.ok response)
      freed := confirmed || decide (b'.ledger.leases ≠ b.ledger.leases) }
  | .error f => { broker := b, confirmed, answer := some (.error f), freed := confirmed }

/-- From the provider's answer on. -/
def Broker.hearRelease (allocationId : String) (b : Broker) : Relinquished :=
  match w.refusal with
  | some text =>
    match markAllocation w.answeredAt allocationId false (some text) b with
    | .ok (b', _) =>
      { broker := b', confirmed := false, freed := false
        answer := some (.error (refuse "plugin_release_failed" "归还结果待确认，分配仍保留。" 409
          [("allocation_id", .text allocationId)])) }
    | .error f => { broker := b, confirmed := false, answer := some (.error f), freed := false }
  | none =>
    if w.breaks = some .atMark then
      { broker := b, confirmed := true, answer := none, freed := false }
    else
      match markAllocation w.answeredAt allocationId true none b with
      | .ok (b', _) =>
        if w.breaks = some .atWrite then
          { broker := b', confirmed := true, answer := none, freed := true }
        else
          (Run.run (exec cfg) b' w.between).writeRelease w actor leaseId reason key
            operatorOverride true
      | .error f => { broker := b, confirmed := true, answer := some (.error f), freed := false }

/-- `release_lease`. -/
def relinquish (b : Broker) : Relinquished :=
  match requireRelease actor reason operatorOverride with
  | .error f => { broker := b, confirmed := false, answer := some (.error f), freed := false }
  | .ok _ =>
    match b.releasableAllocation actor leaseId operatorOverride with
    | none =>
      (Run.run (exec cfg) b w.before).writeRelease w actor leaseId reason key operatorOverride false
    | some p =>
      match markAllocation w.markedAt p.allocationId false none (Run.run (exec cfg) b w.before) with
      | .ok (b', _) =>
        (Run.run (exec cfg) b' w.meanwhile).hearRelease cfg w actor leaseId reason key
          operatorOverride p.allocationId
      | .error f =>
        { broker := Run.run (exec cfg) b w.before, confirmed := false, answer := some (.error f)
          freed := false }

end ServerPilot
