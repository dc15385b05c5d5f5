import ServerPilot.Spec.Op
import ServerPilot.Spec.Transitions

/-!
# Starting workers

The part of `reconcile_endpoint_keepalive` that starts a batch of workers: enable
them at the helper, have it attest them, collect the endpoint, and write their
leases in one transaction. Whatever fails on the way ends in `cleanup_failed_start`.
Anything may be committed while the server waits for a remote answer.
-/

namespace ServerPilot

open Rows Checked

/-! ## Remote answers -/

/-- How a remote call ends: an answer, one of the two errors that are told apart, or any other
exception. -/
inductive Reply (α : Type)
  | answered (a : α)
  | adapterError (message : String) (uncertain : Bool)
  | brokerError (code : String)
  | failed

/-- A check of an answer, a broker error when it does not pass. -/
def Reply.verified {α β : Type} (r : Reply α) (check : α → Except String β) : Reply β :=
  match r with
  | .answered a =>
    match check a with
    | .ok b => .answered b
    | .error code => .brokerError code
  | .adapterError message uncertain => .adapterError message uncertain
  | .brokerError code => .brokerError code
  | .failed => .failed

/-- Whether the call was answered. -/
def Reply.isAnswer {α : Type} : Reply α → Bool
  | .answered _ => true
  | _ => false

/-- `_keepalive_adapter_failure_code`. -/
def adapterFailureCode (message : String) (uncertain : Bool) : String :=
  let contains (part : String) : Bool := message.toList.tails.any part.toList.isPrefixOf
  if contains "keepalive_helper_unreachable" then "keepalive_helper_unreachable"
  else if contains "keepalive_helper_incompatible" then "keepalive_helper_incompatible"
  else if contains "PyTorch with CUDA support is required" then "keepalive_pytorch_cuda_required"
  else if contains "PyTorch CUDA runtime could not initialize the selected GPU" then
    "keepalive_cuda_runtime_unavailable"
  else if contains "no kernel image is available for execution on the device" then
    "keepalive_cuda_architecture_unsupported"
  else if contains "does not contain requested GPU UUID" then "keepalive_cuda_uuid_not_found"
  else if contains "keepalive CUDA PCI ordinal mapping" then "keepalive_cuda_index_mapping_failed"
  else if contains "exactly one CUDA GPU must be visible" ||
      contains "CUDA visible device count is" then
    "keepalive_cuda_target_unavailable"
  else if uncertain then "keepalive_outcome_uncertain"
  else "keepalive_adapter_failed"

/-- A card and the state the helper answers for it. -/
structure HelperResult where
  gpuUuid : String
  status : String

/-- The cards an answer names, if they are the requested ones, each once. -/
def exactly (named gpuUuids : List String) : Bool :=
  decide (named.length = gpuUuids.length ∧ named.Nodup ∧ named ⊆ gpuUuids ∧ gpuUuids ⊆ named)

/-- `result_by_gpu_uuid`. -/
def resultByGpuUuid (gpuUuids : List String) (enabled : Bool) (results : List HelperResult) :
    Except String Unit :=
  let expected := if enabled then "running" else "stopped"
  if exactly (results.map HelperResult.gpuUuid) gpuUuids &&
      results.all fun r => r.status = expected then .ok ()
  else .error "keepalive_adapter_failed"

/-- `KeepaliveWorkerAttestation`. -/
structure WorkerAttestation where
  gpuUuid : String
  pid : ℤ
  driverPid : ℕ
  bootId : String
  startTimeTicks : ℤ
  workerMarker : String

def keepaliveWorkerMarker : String := "serverpilot-keepalive-worker-v3"

/-- `attested_worker_identities_by_gpu_uuid`: the process each card is attested to run. -/
def attestedIdentities (gpuUuids : List String) (workers : List WorkerAttestation) :
    Except String (List (String × ℕ × String)) :=
  if exactly (workers.map WorkerAttestation.gpuUuid) gpuUuids && workers.all fun x =>
      decide (0 < x.pid ∧ 0 < x.driverPid ∧ x.bootId ≠ "" ∧ 0 < x.startTimeTicks ∧
        x.workerMarker = keepaliveWorkerMarker) then
    .ok (workers.map fun x => (x.gpuUuid, x.driverPid, x.bootId))
  else .error "keepalive_attestation_invalid"

/-- `_public_error_message`, of the codes of a failed start. -/
def publicErrorMessage (code : String) : String :=
  ([("keepalive_cuda_target_unavailable",
      "远端占卡程序已启动，但 PyTorch/CUDA 没有识别出唯一目标 GPU；请检查这台服务器的 CUDA 运行环境。"),
    ("keepalive_cuda_runtime_unavailable",
      "远端 PyTorch 已安装 CUDA 支持，但无法初始化目标 GPU；请检查这台服务器的驱动与 CUDA 运行环境。"),
    ("keepalive_cuda_architecture_unsupported",
      "远端 PyTorch 的 CUDA 内核不支持这台服务器的 GPU 架构。"),
    ("keepalive_pytorch_cuda_required", "远端占卡程序使用的 Python 缺少支持 CUDA 的 PyTorch。"),
    ("keepalive_cuda_index_mapping_failed",
      "远端占卡程序无法把目标 GPU UUID 映射到当前 CUDA 设备编号。"),
    ("keepalive_cuda_uuid_not_found", "远端当前 PCI GPU 清单中找不到目标 GPU UUID。"),
    ("keepalive_helper_incompatible",
      "远端占卡 helper 版本或能力不匹配；请先完成该服务器的 helper 升级。"),
    ("keepalive_helper_unreachable",
      "暂时连不上这台服务器的占卡 helper，没有改动任何占卡；稍后重试。"),
    ("keepalive_attestation_invalid", "远端占卡程序的身份校验未通过；该 GPU 暂不可申请。"),
    ("keepalive_outcome_uncertain", "占卡程序返回结果不确定，本次没有分配任务。"),
    ("keepalive_adapter_failed", "占卡程序启动或停止失败；下一采集周期会继续尝试。"),
    ("keepalive_cleanup_failed", "占卡异常且未能完成清理；请在 APP 中确认该 GPU 的实际状态。"),
    ("keepalive_observation_stale", "占卡操作后没有取得完整的新状态；下一采集周期会继续尝试。"),
    ("keepalive_observation_incomplete", "占卡操作后没有取得完整的新状态；下一采集周期会继续尝试。"),
    ("keepalive_process_missing",
      "未检测到占卡程序；该卡仍按可用显示，下一采集周期会继续尝试。"),
    ("idempotency_key_required", "本次写操作缺少 idempotency_key。"),
    ("endpoint_not_found", "这台服务器已经不在本机资源池中。")].lookup code).getD
    ("操作未完成（" ++ code ++ "）。")

/-! ## The exchange -/

/-- What happens around a start: the three remote answers, what is committed before the activation
and during a cleanup, whether the two collections succeed and the activation gets to commit, and
when the transactions run. -/
structure StartWorld where
  start : Reply (List HelperResult)
  attest : Reply (List WorkerAttestation)
  stop : Reply (List HelperResult)
  meanwhile : List Op := []
  afterwards : List Op := []
  collected : Bool := true
  collectedAfter : Bool := true
  activates : Bool := true
  notBefore : Time
  confirmedAt : Time
  recordedAt : Time
  token : String → String

/-- How a start went: the state it leaves, whether the helper may have started a worker, whether it
answered a stop of all of them, and the code of the error it ended with. -/
structure Start where
  broker : Broker
  mayRun : Bool
  stopped : Bool
  error : Option String

/-- A batch: the cards by row id, each with its UUID. -/
abbrev StartTargets := List (String × String)

variable (cfg : Config) (w : StartWorld) (endpointId : String) (targets : StartTargets)

/-- Whether the helper may have started a worker: not if the adapter failed before it asked. -/
def StartWorld.mayRun : Bool :=
  match w.start with
  | .adapterError _ uncertain => uncertain
  | _ => true

/-- The stop of a failed start, as it was answered. -/
def StartWorld.stopAnswered : Bool :=
  (w.stop.verified (resultByGpuUuid (targets.map Prod.snd) false)).isAnswer

/-- `cleanup_failed_start`. -/
def cleanupFailedStart (code : String) (cleanupRemote : Bool) (b : Broker) : Start :=
  let stopped := cleanupRemote && w.stopAnswered targets
  let unfinished := cleanupRemote && !w.stopAnswered targets
  let code := if unfinished then "keepalive_cleanup_failed" else code
  let b := Run.run (exec cfg) b w.afterwards
  let code := if !w.collectedAfter && decide (code ≠ "keepalive_cleanup_failed") then
    "keepalive_observation_failed" else code
  match setKeepaliveError w.recordedAt endpointId (targets.map Prod.fst) (publicErrorMessage code)
      unfinished b with
  | .ok (b', _) => { broker := b', mayRun := w.mayRun, stopped, error := some code }
  | .error _ => { broker := b, mayRun := w.mayRun, stopped, error := some "internal_error" }

/-- The workers a confirmation names, by row id. -/
def confirmedIdentities (identities : List (String × ℕ × String)) : List (String × ℕ × String) :=
  targets.filterMap fun t => (identities.lookup t.2).map fun identity => (t.1, identity)

/-- The activation of a batch, under the key of its reconciliation. -/
def StartWorld.activation (actor : ActorContext) (key : String)
    (identities : List (String × ℕ × String)) (b : Broker) : Tx (Broker × Response) :=
  activateKeepalives cfg w.confirmedAt actor endpointId (targets.map Prod.fst) w.notBefore
    (key ++ ":activate-batch") (some (confirmedIdentities targets identities)) w.token b

/-- From the attestation on: the collection, and the activation. -/
def confirmStart (actor : ActorContext) (key : String) (identities : List (String × ℕ × String))
    (b : Broker) : Start :=
  let b := Run.run (exec cfg) b w.meanwhile
  if !w.collected then
    cleanupFailedStart cfg w endpointId targets "keepalive_observation_failed" true b
  else if !w.activates then
    cleanupFailedStart cfg w endpointId targets "keepalive_activation_failed" true b
  else
    match w.activation cfg endpointId targets actor key identities b with
    | .ok (b', _) => { broker := b', mayRun := w.mayRun, stopped := false, error := none }
    | .error (.refused e) => cleanupFailedStart cfg w endpointId targets e.code true b
    | .error _ =>
      cleanupFailedStart cfg w endpointId targets "keepalive_activation_failed" true b

/-- `reconcile_endpoint_keepalive`, its start transitions. -/
def startBatch (actor : ActorContext) (key : String) (b : Broker) : Start :=
  match w.start.verified (resultByGpuUuid (targets.map Prod.snd) true) with
  | .adapterError message uncertain =>
    cleanupFailedStart cfg w endpointId targets (adapterFailureCode message uncertain) uncertain b
  | .brokerError code => cleanupFailedStart cfg w endpointId targets code true b
  | .failed => cleanupFailedStart cfg w endpointId targets "keepalive_adapter_failed" true b
  | .answered _ =>
    match w.attest.verified (attestedIdentities (targets.map Prod.snd)) with
    | .adapterError message uncertain =>
      cleanupFailedStart cfg w endpointId targets (adapterFailureCode message uncertain) true b
    | .brokerError code => cleanupFailedStart cfg w endpointId targets code true b
    | .failed => cleanupFailedStart cfg w endpointId targets "keepalive_activation_failed" true b
    | .answered identities => confirmStart cfg w endpointId targets actor key identities b

end ServerPilot
