import ServerPilot.Spec.Op

/-!
# Server groups

A group gives its servers a workspace. `updateServerGroup` and `deleteServerGroup` change the groups
there are; `FleetOp` lists them beside the other transactions.
-/

namespace ServerPilot

open Rows Checked

/-- `ServerGroupUpdate`; `rest` tells that another field is sent, with a value the row does not
have. -/
structure ServerGroupUpdate where
  workspacePath : Option String := none
  rest : Bool := false
  deriving DecidableEq, Repr

/-- The servers that inherit the group's workspace and are kept busy, as
`_reject_group_workspace_change_if_keepalive` lists them. -/
def Broker.keptMembers (b : Broker) (groupId : String) : List String :=
  (b.plant.endpoints.filter fun e => e.serverGroupId = some groupId ∧ e.workspacePath = none ∧
    b.activeKeepaliveOn e.id = true).map Endpoint.id

/-- The plant with the group's workspace set. -/
def Plant.setGroupWorkspace (p : Plant) (groupId path : String) : Plant :=
  { p with
    serverGroups := updWhere (fun g => g.id = groupId) (fun g => { g with workspacePath := path })
      p.serverGroups }

/-- `update_server_group`. -/
def updateServerGroup (now : Time) (actor : ActorContext) (groupId : String) (u : ServerGroupUpdate)
    (key : String) (b : Broker) : Tx (Broker × Response) := do
  requireRole actor mutatingRoles
  once b actor "server_group.update" (some key) now do
    let group ← need (row? ServerGroup.id groupId b.plant.serverGroups)
      (refuse "server_group_not_found" "server group does not exist" 404)
    let path := u.workspacePath.getD group.workspacePath
    require (path = group.workspacePath ∨ b.keptMembers group.id = [])
      (refuse "keepalive_endpoint_connection_in_use"
        "stop active keepalive on inheriting members before changing the group workspace" 409
        [("fields", .texts ["workspace_path"]), ("endpoint_ids", .texts (b.keptMembers group.id))])
    let changed := u.rest || decide (path ≠ group.workspacePath)
    let ledger := if changed then
        b.ledger.bumpRevision.addAudit (some actor.id) "server_group.updated" "server_group"
          group.id "success" [] now
      else b.ledger
    pure ({ plant := b.plant.setGroupWorkspace group.id path, ledger },
      .endpoint (if changed then ledger.nextAuditId - 1 else 0) ledger.revision group.id)

/-- `delete_server_group`. -/
def deleteServerGroup (now : Time) (actor : ActorContext) (groupId key : String) (b : Broker) :
    Tx (Broker × Response) := do
  requireRole actor mutatingRoles
  once b actor "server_group.delete" (some key) now do
    let group ← need (row? ServerGroup.id groupId b.plant.serverGroups)
      (refuse "server_group_not_found" "server group does not exist" 404)
    let memberIds := (b.plant.endpoints.filter fun e => e.serverGroupId = some group.id).map
      Endpoint.id
    require (memberIds = []) (refuse "server_group_has_members"
      "server group still has member endpoints" 409 [("endpoint_ids", .texts memberIds)])
    let plant := { b.plant with
      serverGroups := b.plant.serverGroups.filter fun g => g.id ≠ group.id }
    let ledger := b.ledger.bumpRevision.addAudit (some actor.id) "server_group.deleted"
      "server_group" groupId "success" [] now
    pure ({ plant, ledger }, .endpoint (ledger.nextAuditId - 1) ledger.revision groupId)

/-- A transaction, with those on groups. -/
inductive FleetOp
  | broker (op : Op)
  | updateServerGroup (now : Time) (actor : ActorContext) (groupId : String)
      (u : ServerGroupUpdate) (key : String)
  | deleteServerGroup (now : Time) (actor : ActorContext) (groupId key : String)

def FleetOp.apply (cfg : Config) : FleetOp → Broker → Tx (Broker × Response)
  | .broker op => op.apply cfg
  | .updateServerGroup now actor groupId u key =>
    ServerPilot.updateServerGroup now actor groupId u key
  | .deleteServerGroup now actor groupId key => ServerPilot.deleteServerGroup now actor groupId key

/-- The state a transaction leaves: a refused one is rolled back. -/
def FleetOp.exec (cfg : Config) (b : Broker) (op : FleetOp) : Broker :=
  match op.apply cfg b with
  | .ok (b', _) => b'
  | .error _ => b

end ServerPilot
