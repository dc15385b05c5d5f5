import ServerPilot.Proof.Steps

/-!
# Fleets

The states runs begin in: an inventory of servers nobody has looked at yet,
`fleet_seeded`. The rest of the file is a small fleet, with the observations and
requests the examples of later files are made of.
-/

namespace ServerPilot

open Rows Checked

/-- A broker that knows its servers and projects, and nothing else. -/
def Broker.fleet (groups : List ServerGroup) (endpoints : List Endpoint)
    (projects : List Project) : Broker :=
  { plant := { serverGroups := groups, endpoints }, ledger := { projects } }

/-- **An inventory** of distinct servers and projects is a state a run may begin in. -/
theorem fleet_seeded (groups : List ServerGroup) {endpoints : List Endpoint}
    {projects : List Project} (hid : (endpoints.map Endpoint.id).Nodup)
    (hhost : (endpoints.map fun e => (e.host, e.port)).Nodup)
    (hproject : (projects.map Project.id).Nodup) :
    Seeded (Broker.fleet groups endpoints projects) := by
  have hi : Intact (Broker.fleet groups endpoints projects) := by
    constructor
    case endpointPk => exact hid
    case endpointHostPort => exact hhost
    case projectPk => exact hproject
    all_goals first | exact List.nodup_nil | exact fun _ h => by cases h
  exact ⟨hi, rfl, rfl, rfl, rfl, rfl, rfl, rfl⟩

/-! ## A small fleet -/

/-- The default settings, without any plugin. -/
def plainConfig : Config :=
  { plugin := fun _ => none
    interval_bounds := by decide, grace_bounds := by decide, alert_bounds := by decide
    reclaim_bounds := by decide, card_bounds := by decide, reclaim_after_alert := by decide }

/-- A server reached by its own name. -/
def sampleServer (id : String) (port : ℕ) : Endpoint :=
  { id, host := "lab", port, sshUser := "pilot", workspacePath := some "/work"
    keepaliveAdapterId := some "server-script-v1", keepalivePolicy := .idleKeepalive }

/-- Two servers, `alpha` and `beta`, reached through one host. -/
def sampleFleet : Broker :=
  .fleet [] [sampleServer "alpha" 22, sampleServer "beta" 23] []

theorem sampleFleet_seeded : Seeded sampleFleet :=
  fleet_seeded [] (by decide) (by decide) (by decide)

/-- A card as a node reports it. -/
def sampleCard (uuid : String) (index : ℕ) : TelemetryInput :=
  { gpuUuid := uuid, gpuIndex := index, cudaOrdinal := index, totalVramMib := 80000
    memoryUsedMib := 0, memoryFreeMib := 80000 }

/-- A process as a node reports it, started when the node booted. -/
def sampleProcess (uuid : String) (pid : ℕ) : ProcessInput :=
  { gpuUuid := uuid, pid, usedMemoryMib := 1000, username := some "user", processStartedAt := 0 }

/-- What a machine with eight cores and 64 GiB of memory shows at one instant. -/
def sampleNode (at_ : Time) (cards : List TelemetryInput) (processes : List ProcessInput)
    (complete : Bool) : NodeObservation :=
  { observedAt := at_, bootId := "boot", gpus := cards, processes
    host := { cpuCount := 8, memoryTotalMib := 65536, memoryAvailableMib := 65536 }
    observationComplete := complete }

/-- A look at a server of one node. -/
def oneNode (endpointId : String) (n : NodeObservation) (hn : n.Valid) : EndpointObservation :=
  { endpointId, nodes := [n]
    nodes_valid := fun _ h => List.mem_singleton.1 h ▸ hn
    unique_nodes := by simp }

/-- A complete look at a server with one card, at one instant. -/
def lookAtOne (endpointId uuid : String) (at_ : Time) (pids : List ℕ) : EndpointObservation :=
  oneNode endpointId (sampleNode at_ [sampleCard uuid 0] (pids.map (sampleProcess uuid)) true)
    ⟨List.nodup_singleton _, List.nodup_singleton _, List.nodup_singleton _⟩

/-- A complete look at a server with two cards, at one instant. -/
def lookAtTwo (endpointId u v : String) (huv : u ≠ v) (at_ : Time)
    (processes : List ProcessInput) : EndpointObservation :=
  oneNode endpointId (sampleNode at_ [sampleCard u 0, sampleCard v 1] processes true)
    ⟨by simpa [sampleNode, sampleCard] using huv, by simp [sampleNode, sampleCard],
      by simp [sampleNode, sampleCard]⟩

theorem twoCards_ne : "GPU-0" ≠ "GPU-1" := by decide

/-- Collectors name the rows they insert after their lease and server. -/
def sampleToken (leaseId endpointId : String) : String :=
  "allocation:" ++ leaseId ++ ":" ++ endpointId

/-- An operator's session in project `lab`. -/
def sampleActor (id : String) : ActorContext :=
  { id, role := "operator", sessionId := some id, sessionProject := some "lab" }

/-- A claim of `lab` for these constraints. -/
def sampleRequest (c : ResourceConstraints) (hc : c.Valid) : RequestCreate :=
  { projectId := "lab", taskRef := "train", purpose := "training", durationSeconds := 3600
    constraints := c, projectId_len := by decide, taskRef_len := by decide
    purpose_len := by decide, duration_bounds := by decide, constraints_valid := hc }

/-- A claim of one card. -/
def oneCard : RequestCreate := sampleRequest { gpuCount := 1 } (by decide)

end ServerPilot
