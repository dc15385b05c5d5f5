import Mathlib.Data.Finset.Sort
import Mathlib.Data.String.Basic
import ServerPilot.Lib.AsyncLock
import ServerPilot.Spec.Handoff

/-!
# Locks on endpoints

While keepers of an endpoint are started, stopped or handed over, the endpoint's lock is held. A
claim, a change of cards and a reassignment hold the locks of several endpoints
(`keepalive_endpoint_locks`), a reconciliation holds one. The locks are `asyncio` locks; an `await`
that does not have to wait is a move of its own here, so there are more interleavings than the
event loop has.
-/

namespace ServerPilot.Api

/-- A call that works under the locks of endpoints. -/
inductive LockedCall
  /-- `claim_request_now` and `change_cards`. -/
  | claim (r : RequestCreate) (endpoints : List EndpointConfig)
  /-- `apply_lease_gpu_reassignment`. -/
  | reassignment (endpoints : List EndpointConfig)
  /-- `reconcile_endpoint_keepalive`. -/
  | reconcile (endpointId : String)

def LockedCall.endpointIds : LockedCall → Finset String
  | .claim r endpoints => (claimCandidateEndpointIds r endpoints).toFinset
  | .reassignment endpoints => (endpoints.map fun e => e.val.id).toFinset
  | .reconcile endpointId => {endpointId}

/-- The locks of `keepalive_endpoint_locks`, in the order they are acquired in. -/
def keepaliveEndpointLocks (endpointIds : Finset String) : List String :=
  endpointIds.sort

/-- The locks a call acquires before it works; it releases them in reverse. -/
def LockedCall.locks (c : LockedCall) : List String := keepaliveEndpointLocks c.endpointIds

/-- Calls that have not begun, and locks that nobody has. -/
def calls {T : Type} (call : T → LockedCall) : AsyncLock.State T String :=
  AsyncLock.State.initial fun t => (call t).locks

end ServerPilot.Api
