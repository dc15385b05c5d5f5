import ServerPilot.Spec.Op

/-!
# The environment of a lease

The `resources` of `_lease_dict`: for each server the lease has cards on, how to
reach it and which devices a job may see there, as `CUDA_VISIBLE_DEVICES` names
them. A server's entry is left out where the names could not be trusted.
-/

namespace ServerPilot

open Rows

/-- `CUDA_SELECTOR_RE.fullmatch`. -/
def cudaSelector (s : String) : Bool :=
  match s.toList with
  | [] => false
  | c :: cs => c.isAlphanum && decide (cs.length ≤ 159) &&
      cs.all fun c => c.isAlphanum || c = '_' || c = '.' || c = '-'

/-- The order of the cards in an entry. -/
def cudaOrder (g h : GPUDevice) : Prop :=
  g.cudaOrdinal.getD 1025 < h.cudaOrdinal.getD 1025 ∨
    g.cudaOrdinal.getD 1025 = h.cudaOrdinal.getD 1025 ∧ g.gpuIndex ≤ h.gpuIndex

instance : DecidableRel cudaOrder := fun g h => by
  unfold cudaOrder
  infer_instance

/-- One card of an entry. -/
structure ExecutableGpu where
  id : String
  gpuUuid : String
  gpuIndex : ℕ
  cudaOrdinal : Option ℕ
  deriving DecidableEq, Repr

/-- The card, as an entry lists it. -/
def GPUDevice.executable (g : GPUDevice) : ExecutableGpu :=
  { id := g.id, gpuUuid := g.gpuUuid, gpuIndex := g.gpuIndex, cudaOrdinal := g.cudaOrdinal }

/-- What a holder needs to run on one server. -/
structure ExecutableResource where
  endpointId : String
  host : String
  port : ℕ
  sshUser : String
  workspacePath : Option String
  gpus : List ExecutableGpu
  cudaVisibleDevices : String
  cudaDeviceOrder : String := "PCI_BUS_ID"
  cpuCores : ℚ
  memoryMib : ℕ
  deriving DecidableEq, Repr

/-- The rows of a lease's active cards, in the order of their ids. -/
def Broker.devices (b : Broker) (leaseId : String) : List GPUDevice :=
  ((b.ledger.cards leaseId).insertionSort fun r s => r.gpuId ≤ s.gpuId).filterMap fun r =>
    b.plant.gpu? r.gpuId

/-- The rows of a lease's active cards on one server. -/
def Broker.devicesOn (b : Broker) (leaseId endpointId : String) : List GPUDevice :=
  (b.devices leaseId).filter fun g => g.endpointId = endpointId

/-- One turn of the loop over `by_endpoint`. -/
def Broker.executableResource (b : Broker) (leaseId endpointId : String) :
    Option ExecutableResource :=
  let gpus := ((b.devicesOn leaseId endpointId).filter GPUDevice.present).insertionSort cudaOrder
  -- a missing card makes its own server's selector unsafe
  if (b.devicesOn leaseId endpointId).any fun g => !g.present then none
  else (b.plant.endpoint? endpointId).bind fun e =>
    if gpus.any fun g => g.cudaOrdinal.isNone then none
    else
      let selectors := gpus.filterMap fun g => g.cudaOrdinal.map toString
      let commitment := b.ledger.commitments.find? fun c =>
        c.leaseId = leaseId ∧ c.endpointId = endpointId
      if !selectors.all cudaSelector then none
      else some
        { endpointId := e.id, host := e.host, port := e.port, sshUser := e.sshUser
          workspacePath := b.plant.effectiveWorkspace e
          gpus := gpus.map GPUDevice.executable
          cudaVisibleDevices := ",".intercalate selectors
          cpuCores := (commitment.map Commitment.cpuCores).getD 0
          memoryMib := (commitment.map Commitment.memoryMib).getD 0 }

/-- The `resources` of `_lease_dict`, for cards the broker itself assigned. -/
def Broker.executableResources (b : Broker) (leaseId : String) : List ExecutableResource :=
  let present := (b.devices leaseId).filter GPUDevice.present
  ((present.map GPUDevice.endpointId).dedup.insertionSort (· ≤ ·)).filterMap
    (b.executableResource leaseId)

/-! ## What an observation says of a card -/

/-- The ordinal the observation gives to this card. -/
def EndpointObservation.ordinalOf (o : EndpointObservation) (g : GPUDevice) : Option ℕ :=
  (o.nodes.find? fun n => n.nodeId = g.nodeId).bind fun n =>
    (n.gpus.find? fun s => s.gpuUuid = g.gpuUuid).map TelemetryInput.cudaOrdinal

/-- The observation of this server the transaction takes in: one that is accepted, and not older
than what the server has. -/
def Op.look (cfg : Config) (endpointId : String) (b : Broker) (op : Op) :
    Option EndpointObservation :=
  match op with
  | .ingestObservation _ o _ =>
    if o.endpointId = endpointId ∧ (op.apply cfg b).toBool = true ∧
        b.plant.staleObservation o = false then some o
    else none
  | _ => none

/-- The latest observation of a server a run took in; `last` before it began. -/
def latestLook (cfg : Config) (endpointId : String) :
    Broker → Option EndpointObservation → List Op → Option EndpointObservation
  | _, last, [] => last
  | b, last, op :: ops =>
    latestLook cfg endpointId (exec cfg b op) ((op.look cfg endpointId b).or last) ops

end ServerPilot
