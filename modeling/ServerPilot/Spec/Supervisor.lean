import ServerPilot.Lib.Supervise
import ServerPilot.Spec.Handoff

/-!
# The collector's supervisor

`collector_supervisor` keeps one `observe_endpoint_forever` task for each server. Between two of its
cycles any task may end, and at shutdown it cancels what it still has.
-/

namespace ServerPilot.Api

/-- The supervisor: its tasks, by endpoint id, and whether it was shut down. -/
structure Supervisor where
  probes : Supervise.Table String := {}
  closed : Bool := false

/-- What happens: a cycle that reads the servers, or fails to; the end of a task; the shutdown. -/
inductive SupervisorEvent
  | cycle (plant : Plant) (listed : Bool)
  | taskEnds (task : ℕ)
  | shutdown

/-- The servers a cycle collects. A listing that fails counts as an empty one. -/
def collectedIds (plant : Plant) (listed : Bool) : List String :=
  if listed then plant.collectorEndpoints.map fun e => e.val.id else []

/-- `collector_supervisor`, event by event. -/
def Supervisor.next (s : Supervisor) : SupervisorEvent → Supervisor
  | .cycle plant listed =>
    if s.closed then s else { s with probes := s.probes.pass (collectedIds plant listed) }
  | .taskEnds i => { s with probes := s.probes.ends i }
  | .shutdown => if s.closed then s else { probes := s.probes.cancelAll, closed := true }

end ServerPilot.Api
