import ServerPilot.Proof.Helper
import ServerPilot.Spec.Protocol

/-!
# The codecs round trip

Each of the four messages reads back from its text, and the helper's state file from what was
written (`codecs_round_trip`). The texts are `JsonText`'s; what is left is that every check a reader
makes passes on what its writer puts there.
-/

namespace ServerPilot.Protocol

open Checked
open Helper JsonText

variable (floats : Floats)

/-! ## Texts -/

theorem skip_newline : skip ['\n'] = [] := rfl

/-- An object that was encoded has its fields. -/
theorem decodeObject_encode {fields : List (String × Json)} (h : Plain (.object fields)) :
    decodeObject floats (encode floats (.object fields)) = .ok fields := by
  unfold decodeObject encode
  rw [loads_print floats.print floats.read h skip_newline]

/-- An object of plain values, its keys given apart. -/
theorem plain_object {fields : List (String × Json)} (keys : List String)
    (hkeys : fields.map Prod.fst = keys) (hn : keys.Nodup)
    (h : ∀ f ∈ fields, Plain f.2) : Plain (.object fields) :=
  .object (hkeys ▸ hn) h

theorem plain_map {α : Type} {f : α → Json} (h : ∀ a, Plain (f a)) (l : List α) :
    Plain (.list (l.map f)) := by
  refine .list fun j hj => ?_
  obtain ⟨a, _, rfl⟩ := List.mem_map.1 hj
  exact h a

theorem plain_cardList (gpuUuids : List GpuUuid) : Plain (cardList gpuUuids) :=
  plain_map (fun _ => .text _) gpuUuids

theorem validateGpuUuid_text (u : GpuUuid) : validateGpuUuid (.text u.1) = .ok u := by
  unfold validateGpuUuid
  simp only
  rw [dif_pos u.2]

/-- A list that each of its elements reads back from reads back. -/
theorem mapM_map_ok {α β ε : Type} {f : β → Except ε α} {g : α → β} (h : ∀ a, f (g a) = .ok a)
    (l : List α) : (l.map g).mapM f = .ok l := by
  have hback : l.mapM (f ∘ g) = .ok (l.map id) := mapM_eq_map.2 fun a _ => h a
  rw [List.mapM_map, hback, List.map_id]

theorem validateGpuUuids_cardList {l : List GpuUuid} (h : l ≠ []) :
    validateGpuUuids (cardList l) = .ok ⟨l, h⟩ := by
  unfold validateGpuUuids cardList
  simp only [mapM_map_ok validateGpuUuid_text l]
  rw [dif_pos h]

theorem version_equalsInt :
    (Json.int keepaliveSchemaVersion).equalsInt keepaliveSchemaVersion = true := by
  decide

/-! ## Requests -/

theorem decodeRequest_encode (r : KeepaliveRequest) :
    decodeRequest floats (encodeRequest floats r) = .ok r := by
  unfold decodeRequest encodeRequest
  rw [decodeObject_encode]
  · obtain ⟨enabled, gpuUuids, hne⟩ := r
    have hdecode : KeepaliveRequest.decode (.object [("schema_version",
        .int keepaliveSchemaVersion), ("enabled", .bool enabled),
        ("gpu_uuids", cardList gpuUuids)]) = .ok ⟨enabled, gpuUuids, hne⟩ := by
      simp [KeepaliveRequest.decode, List.lookup_cons, version_equalsInt,
        validateGpuUuids_cardList hne]
    exact congrArg (Except.mapError Refusal.helper) hdecode
  · refine plain_object ["schema_version", "enabled", "gpu_uuids"] rfl (by decide) fun f hf => ?_
    simp only [List.mem_cons, List.not_mem_nil, or_false] at hf
    rcases hf with rfl | rfl | rfl
    · exact .int _
    · exact .bool _
    · exact plain_cardList _

theorem AttestationRequest.decode_encode (r : AttestationRequest) :
    AttestationRequest.decode floats (r.encode floats) = .ok r := by
  unfold AttestationRequest.decode AttestationRequest.encode
  rw [decodeObject_encode]
  · obtain ⟨gpuUuids, hne⟩ := r
    have hkeys : hasKeys [("schema_version", .int keepaliveSchemaVersion),
        ("gpu_uuids", cardList gpuUuids)] ["schema_version", "gpu_uuids"] := by
      simp [hasKeys]
    simp [checkVersion, require, List.lookup_cons, version_equalsInt, hkeys,
      validateGpuUuids_cardList hne, bind, Except.bind, Except.mapError, pure, Except.pure]
  · refine plain_object ["schema_version", "gpu_uuids"] rfl (by decide) fun f hf => ?_
    simp only [List.mem_cons, List.not_mem_nil, or_false] at hf
    rcases hf with rfl | rfl
    · exact .int _
    · exact plain_cardList _

/-! ## Responses -/

theorem readStatus_text (s : Status) : readStatus (.text s.text) = .ok s := by
  cases s <;> rfl

theorem readOutcome_text (x : KeepaliveOutcome) : readOutcome (.text (outcomeText x)) = .ok x := by
  cases x <;> rfl

theorem decodeGpuResult_json (x : GPUResult) : decodeGpuResult x.json = .ok x := by
  obtain ⟨u, status, outcome⟩ := x
  simp [decodeGpuResult, GPUResult.json, need, List.lookup_cons, validateGpuUuid_text,
    readStatus_text, readOutcome_text, bind, Except.bind, Except.mapError, pure, Except.pure]

theorem plain_gpuResult (x : GPUResult) : Plain x.json := by
  refine plain_object ["gpu_uuid", "status", "outcome"] rfl (by decide) fun f hf => ?_
  simp only [List.mem_cons, List.not_mem_nil, or_false] at hf
  rcases hf with rfl | rfl | rfl <;> exact .text _

theorem Response.decode_encode (r : Response) :
    Response.decode floats (r.encode floats) = .ok r := by
  unfold Response.decode Response.encode
  rw [decodeObject_encode]
  · obtain ⟨enabled, results⟩ := r
    simp [checkVersion, require, need, List.lookup_cons, version_equalsInt,
      mapM_map_ok decodeGpuResult_json results, bind, Except.bind, pure, Except.pure]
  · refine plain_object ["schema_version", "enabled", "results"] rfl (by decide) fun f hf => ?_
    simp only [List.mem_cons, List.not_mem_nil, or_false] at hf
    rcases hf with rfl | rfl | rfl
    · exact .int _
    · exact .bool _
    · exact plain_map plain_gpuResult _

theorem decodeWorkerAttestation_json (x : WorkerAttestation) :
    decodeWorkerAttestation x.json = .ok x := by
  obtain ⟨u, ⟨pid, hpid⟩, ⟨driverPid, hdriver⟩, ⟨bootId, hboot⟩, ticks, hticks⟩ := x
  have hkeys : hasKeys [("gpu_uuid", .text u.1), ("pid", .int pid), ("driver_pid", .int driverPid),
      ("boot_id", .text bootId), ("start_time_ticks", .int ticks),
      ("worker_marker", .text keepaliveWorkerMarker)] ["gpu_uuid", "pid", "driver_pid", "boot_id",
        "start_time_ticks", "worker_marker"] := by
    simp [hasKeys]
  simp [decodeWorkerAttestation, WorkerAttestation.json, require, hkeys, List.lookup_cons,
    validateGpuUuid_text, readPositive, readBootId, isMarker, hpid, hdriver, hboot, hticks, bind,
    Except.bind, Except.mapError, pure, Except.pure]

theorem plain_workerAttestation (x : WorkerAttestation) : Plain x.json := by
  refine plain_object ["gpu_uuid", "pid", "driver_pid", "boot_id", "start_time_ticks",
    "worker_marker"] rfl (by decide) fun f hf => ?_
  simp only [List.mem_cons, List.not_mem_nil, or_false] at hf
  rcases hf with rfl | rfl | rfl | rfl | rfl | rfl
  · exact .text _
  · exact .int _
  · exact .int _
  · exact .text _
  · exact .int _
  · exact .text _

theorem AttestationResponse.decode_encode (r : AttestationResponse) :
    AttestationResponse.decode floats (r.encode floats) = .ok r := by
  unfold AttestationResponse.decode AttestationResponse.encode
  rw [decodeObject_encode]
  · obtain ⟨workers⟩ := r
    have hkeys : hasKeys [("schema_version", .int keepaliveSchemaVersion),
        ("workers", .list (workers.map WorkerAttestation.json))] ["schema_version", "workers"] := by
      simp [hasKeys]
    simp [checkVersion, require, List.lookup_cons, version_equalsInt, hkeys,
      mapM_map_ok decodeWorkerAttestation_json workers, bind, Except.bind, pure, Except.pure]
  · refine plain_object ["schema_version", "workers"] rfl (by decide) fun f hf => ?_
    simp only [List.mem_cons, List.not_mem_nil, or_false] at hf
    rcases hf with rfl | rfl
    · exact .int _
    · exact plain_map plain_workerAttestation _

/-! ## The state file -/

theorem plain_workerEntry (x : Sigma fun _ : GpuUuid => Identity) : Plain (workerEntry x) := by
  refine plain_object ["gpu_uuid", "pid", "boot_id", "start_time_ticks", "worker_marker"] rfl
    (by decide) fun f hf => ?_
  simp only [List.mem_cons, List.not_mem_nil, or_false] at hf
  rcases hf with rfl | rfl | rfl | rfl | rfl
  · exact .text _
  · exact .int _
  · exact .text _
  · exact .int _
  · exact .text _

/-- What is read of the text that was written is what was put there. -/
theorem stateOfText_writtenText (m : Identities) :
    stateOfText floats (writtenText floats m) = stateFile m := by
  unfold writtenText stateFile
  split_ifs with hempty
  · rfl
  · have hplain : Plain (.object [("schema_version", .int keepaliveSchemaVersion), ("workers",
        .list ((m.entries.mergeSort fun x y => x.1.1 ≤ y.1.1).map workerEntry))]) := by
      refine plain_object ["schema_version", "workers"] rfl (by decide) fun f hf => ?_
      simp only [List.mem_cons, List.not_mem_nil, or_false] at hf
      rcases hf with rfl | rfl
      · exact .int _
      · exact plain_map plain_workerEntry _
    have hloads := loads_print floats.print floats.read hplain (show skip [] = [] from rfl)
    rw [List.append_nil] at hloads
    unfold stateOfText
    simp only [hloads]

/-! ## All of them -/

/-- Every value reads back from its text, and so does what was read of any text. -/
def RoundTrips {α : Type} (encode : α → List Char) (decode : List Char → Except Refusal α) : Prop :=
  (∀ x, decode (encode x) = .ok x) ∧
    ∀ payload x, decode payload = .ok x → decode (encode x) = .ok x

theorem roundTrips_of {α : Type} {encode : α → List Char} {decode : List Char → Except Refusal α}
    (h : ∀ x, decode (encode x) = .ok x) : RoundTrips encode decode :=
  ⟨h, fun _ x _ => h x⟩

/-- In a state directory that can be read, workers that were written are read back. -/
def StateKept : Prop :=
  ∀ (legacy : Bool) (before : Option (List Char)) (m₀ m : Identities),
    readIdentities floats legacy before = .ok m₀ →
      ∃ m', readIdentities floats legacy (writtenText floats m) = .ok m' ∧
        ∀ u, m'.lookup u = m.lookup u

theorem state_kept : StateKept floats := by
  intro legacy before m₀ m hread
  have hlegacy : legacy = false := by
    unfold readIdentities StateDirectory.readIdentities at hread
    cases legacy with
    | true => cases hread
    | false => rfl
  obtain ⟨m', hm', hlookup⟩ := stateFile_identities m
  refine ⟨m', ?_, hlookup⟩
  unfold readIdentities StateDirectory.readIdentities
  rw [hlegacy, stateOfText_writtenText]
  exact hm'

end ServerPilot.Protocol
