import ServerPilot.Spec.Reclaim

/-!
# Ending a task

`release_lease` over its transactions, for a delegated lease with the provider's
answer between them, and the tool `gpu_release`, which maps a return of cards to
a resize or to the end of the whole task. Each transaction is committed on its
own, so what a call that breaks off did stays done.
-/

namespace ServerPilot

open Checked

/-! ## The call -/

/-- Where a call breaks off after the provider has answered: at the row that says so, or at the
transaction that ends the lease. -/
inductive Break
  | atMark | atWrite
  deriving DecidableEq

/-- What happens around a release: the provider's answer, an error's text when it refuses; where
the server fails on the way; and when the transactions run. -/
structure ReleaseWorld where
  refusal : Option String := none
  breaks : Option Break := none
  markedAt : Time
  answeredAt : Time
  writtenAt : Time
  token : String → String

/-- How a release went: the state it leaves, whether the provider confirmed it, and the answer,
none from a call that broke off. -/
structure Released where
  broker : Broker
  confirmed : Bool
  answer : Option (Tx Response)

/-- The transaction a release ends with, on the state its other ones left. -/
def Broker.endRelease (b : Broker) (w : ReleaseWorld) (actor : ActorContext)
    (leaseId reason : String) (key : Option String) (operatorOverride confirmed : Bool) :
    Released :=
  match releaseLease w.writtenAt actor leaseId reason key operatorOverride w.token b with
  | .ok (b', response) => { broker := b', confirmed, answer := some (.ok response) }
  | .error f => { broker := b, confirmed, answer := some (.error f) }

/-- `_release_plugin_allocation_before_write`, from the provider's answer on. -/
def Broker.answerRelease (b : Broker) (w : ReleaseWorld) (actor : ActorContext)
    (leaseId reason : String) (key : Option String) (operatorOverride : Bool)
    (allocationId : String) : Released :=
  match w.refusal with
  | some text =>
    match markAllocation w.answeredAt allocationId false (some text) b with
    | .ok (b', _) =>
      { broker := b', confirmed := false
        answer := some (.error (refuse "plugin_release_failed" "归还结果待确认，分配仍保留。" 409
          [("allocation_id", .text allocationId)])) }
    | .error f => { broker := b, confirmed := false, answer := some (.error f) }
  | none =>
    if w.breaks = some .atMark then { broker := b, confirmed := true, answer := none }
    else
      match markAllocation w.answeredAt allocationId true none b with
      | .ok (b', _) =>
        if w.breaks = some .atWrite then { broker := b', confirmed := true, answer := none }
        else b'.endRelease w actor leaseId reason key operatorOverride true
      | .error f => { broker := b, confirmed := true, answer := some (.error f) }

/-- `release_lease`: an allocation the actor may give back goes to its provider first. -/
def releaseCall (w : ReleaseWorld) (actor : ActorContext) (leaseId reason : String)
    (key : Option String) (operatorOverride : Bool) (b : Broker) : Released :=
  match requireRelease actor reason operatorOverride with
  | .error f => { broker := b, confirmed := false, answer := some (.error f) }
  | .ok _ =>
    match b.releasableAllocation actor leaseId operatorOverride with
    | none => b.endRelease w actor leaseId reason key operatorOverride false
    | some p =>
      match markAllocation w.markedAt p.allocationId false none b with
      | .ok (b', _) =>
        b'.answerRelease w actor leaseId reason key operatorOverride p.allocationId
      | .error f => { broker := b, confirmed := false, answer := some (.error f) }

/-! ## The tool -/

/-- What `gpu_release` answers: the task is over, cards were given back, or a failure. -/
inductive ToolAnswer
  | ended (leaseId : String)
  | removed (leaseId : String) (gpuIds : List String)
  | failed (f : Fault)

/-- What a call of the tool leaves and answers. -/
structure ToolCall where
  broker : Broker
  answer : ToolAnswer

/-- How a task ended. -/
inductive Outcome
  | completed | failed | abandoned
  deriving DecidableEq

/-- `RELEASE_REASONS[outcome]`. -/
def Outcome.reason : Outcome → String
  | completed => "workload_completed"
  | failed => "workload_failed"
  | abandoned => "workload_abandoned"

/-- The end of the whole task. -/
def Broker.endTask (b : Broker) (w : ReleaseWorld) (actor : ActorContext) (leaseId : String)
    (outcome : Outcome) : ToolCall :=
  let x := releaseCall w actor leaseId outcome.reason none false b
  match x.answer with
  | some (.ok _) => { broker := x.broker, answer := .ended leaseId }
  | some (.error f) => { broker := x.broker, answer := .failed f }
  | none => { broker := x.broker, answer := .failed (.raised "InternalServerError") }

/-- A view of a live lease goes on to return cards, or to end the task. The tool takes no list of
cards and an empty one for the same thing. -/
def Broker.returnCards (cfg : Config) (b : Broker) (resizedAt : Time) (w : ReleaseWorld)
    (actor : ActorContext) (leaseId : String) (gpuIds : Option (List String)) (outcome : Outcome) :
    ToolCall :=
  match gpuIds.getD [] with
  | [] => b.endTask w actor leaseId outcome
  | names@(_ :: _) =>
    match resizeLease cfg resizedAt actor leaseId none names none w.token b with
    | .ok (b', .resized _ _ removed _ _) => { broker := b', answer := .removed leaseId removed }
    | .ok (b', _) => { broker := b', answer := .failed (.raised "KeyError") }
    | .error f =>
      -- every card it holds: that is the task ending
      if f.code = some "use_release" then b.endTask w actor leaseId outcome
      else { broker := b, answer := .failed f }

/-- `gpu_release`, for a session of `project`. -/
def gpuRelease (cfg : Config) (viewedAt resizedAt : Time) (w : ReleaseWorld) (actor : ActorContext)
    (project : String) (task leaseId : Option String) (gpuIds : Option (List String))
    (outcome : Outcome) (b : Broker) : ToolCall :=
  match (task.filter fun t => t ≠ "").or leaseId with
  | none => { broker := b, answer := .failed (.raised "ValueError") }
  | some name =>
    match leaseView cfg viewedAt actor none (some name) (some project) false b with
    | .error f => { broker := b, answer := .failed f }
    | .ok (b', .view id ..) => b'.returnCards cfg resizedAt w actor id gpuIds outcome
    | .ok (b', .ended id ..) => { broker := b', answer := .ended id }
    | .ok (b', _) => { broker := b', answer := .failed (.raised "KeyError") }

end ServerPilot
