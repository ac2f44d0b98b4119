/-
  What each RPC does against the fake: one spec lemma per RPC.

  Each `*_exec` lemma gives the whole outcome of an RPC run against `fake m newId` on any state
  `s`: the answer and the state after it, as a case analysis on the request's checks and on what
  the store holds.  Every later proof about an RPC cites its spec lemma and never unfolds the
  RPC.
-/
import Mathlib.Algebra.Order.Ring.Int
import CsiCloudscale.Controller
import CsiCloudscale.Fake

namespace CsiCloudscale

open Csi Cloudscale

variable (K : Names) (d : Driver) (m : Nat) (newId : String)

/-! ## The texts the fake answers with -/

@[simp] theorem maxVolumesPerServerErrorMessageRe_notFound :
    maxVolumesPerServerErrorMessageRe notFoundError.text = false := by decide

@[simp] theorem maxVolumesPerServerErrorMessageRe_maxVolumesError :
    maxVolumesPerServerErrorMessageRe maxVolumesError.text = true := by decide

@[simp] theorem reraiseNotFound_notFoundError (operation : String) :
    reraiseNotFound notFoundError operation = .status .notFound ⟨notFoundError.text, []⟩ := rfl

@[simp] theorem isNotFound_notFoundError : notFoundError.isNotFound = true := rfl

/-! ## CreateVolume -/

/-- What passing `CreateVolume`'s checks means: every check passed, and the triple is the size,
    storage type and LUKS flag they computed. -/
theorem createVolumeChecks_ok {req : CreateVolumeRequest} {n : Int64} {storageType luks : String}
    (h : createVolumeChecks K d req = .ok (n, storageType, luks)) :
    req.name ≠ "" ∧ req.volumeCapabilities ≠ [] ∧
      validateCapabilities req.volumeCapabilities = [] ∧
      zoneMismatch d.zone req.accessibilityRequirements = none ∧
      storageType = defaultStorageType (req.parameters.get K.storageTypeAttribute) ∧
      (storageType = "ssd" ∨ storageType = "bulk") ∧
      calculateStorageGB req.capacityRange storageType = .ok n ∧
      (req.parameters.get K.luksEncryptedAttribute = "true" →
        validateLuksCapabilities req.volumeCapabilities = []) ∧
      luks = if req.parameters.get K.luksEncryptedAttribute = "true" then "true" else "false" := by
  unfold createVolumeChecks at h
  simp only [bind, Except.bind, pure, Except.pure] at h
  repeat' split at h
  all_goals cases h
  all_goals simp_all [List.isEmpty_iff, Option.eq_none_iff_forall_not_mem, Option.mem_def,
    or_iff_not_imp_left]

theorem name_ne_of_createVolumeChecks {req : CreateVolumeRequest} {c : Int64 × String × String}
    (h : createVolumeChecks K d req = .ok c) : req.name ≠ "" :=
  (createVolumeChecks_ok K d h).1

/-- The size the checks go on with is the one `calculateStorageGB` gives for the storage type. -/
theorem calculateStorageGB_of_createVolumeChecks {req : CreateVolumeRequest} {n : Int64}
    {storageType luks : String} (h : createVolumeChecks K d req = .ok (n, storageType, luks)) :
    calculateStorageGB req.capacityRange storageType = .ok n := by
  obtain ⟨-, -, -, -, -, -, hn, -⟩ := createVolumeChecks_ok K d h
  exact hn

/-- **`CreateVolume` against the fake.**  After its checks it looks the name up: no match
    creates the volume under the drawn UUID, one match of the same size is the idempotent hit,
    one match of another size is `AlreadyExists`, and two matches are a fatal error. -/
theorem createVolume_exec (req : CreateVolumeRequest) (s : Cloud) :
    Rpc.exec (fake m newId) (createVolume K d req) s =
      match createVolumeChecks K d req with
      | .error e => some (.error e, s)
      | .ok (sizeGB, storageType, luks) =>
        let csiVolume := csiVolumeOf K d req.name sizeGB luks req.parameters
        match s.volumes.filter (·.name = req.name) with
        | [] =>
          some (.ok ⟨{ csiVolume with volumeId := newId }⟩, s.put (createdVolume newId
            { name := req.name, sizeGB := sizeGB, type := storageType, zone := d.zone }))
        | [vol] =>
          if vol.sizeGB ≠ sizeGB then
            some (.error (.status .alreadyExists
              ⟨"invalid option requested size: %d", [.int sizeGB.val]⟩), s)
          else some (.ok ⟨{ csiVolume with volumeId := vol.uuid }⟩, s)
        | _ :: _ :: _ =>
          some (.error (.plain ⟨"fatal issue: duplicate volume %q exists", [.str req.name]⟩), s) := by
  rcases hc : createVolumeChecks K d req with e | ⟨sizeGB, storageType, luks⟩
  · simp [createVolume, hc]
  · -- the lookup answers with the volumes of the name
    simp only [createVolume, hc, bind_pure_comp, map_pure, pure_bind, Rpc.exec_bind, Rpc.exec_send,
      fake, name_ne_of_createVolumeChecks K d hc, if_false, Option.map_some', Option.some_bind]
    rcases hv : s.volumes.filter (·.name = req.name) with _ | ⟨v, _ | ⟨w, l⟩⟩
    · simp [hv, fake, createdVolume]
    · by_cases hs : v.sizeGB = sizeGB <;> simp [hv, hs]
    · simp [hv]

/-! ## DeleteVolume -/

/-- `DeleteVolume` against the fake: the fake deletes whatever id it is given. -/
theorem deleteVolume_exec (req : DeleteVolumeRequest) (s : Cloud) :
    Rpc.exec (fake m newId) (deleteVolume req) s =
      if req.volumeId = "" then
        some (.error (.status .invalidArgument ⟨"DeleteVolume Volume ID must be provided", []⟩), s)
      else some (.ok (), s.erase req.volumeId) := by
  by_cases h : req.volumeId = "" <;> simp [deleteVolume, h, Rpc.exec_bind, fake]

/-! ## ControllerPublishVolume and ControllerUnpublishVolume -/

/-- **`ControllerPublishVolume` against the fake.**  After its checks, the attach fails with
    `NotFound` for an unknown volume or node and with `ResourceExhausted` for a node that already
    holds `m` attachments; otherwise the volume's server set becomes exactly `[nodeId]` and the
    answer carries the stored volume's name. -/
theorem controllerPublishVolume_exec (req : ControllerPublishVolumeRequest) (s : Cloud) :
    Rpc.exec (fake m newId) (controllerPublishVolume K req) s =
      match controllerPublishVolumeChecks req with
      | .error e => some (.error e, s)
      | .ok () =>
        match s.get? req.volumeId with
        | none => some (.error (.status .notFound ⟨notFoundError.text, []⟩), s)
        | some vol =>
          if req.nodeId ∉ s.servers then
            some (.error (.status .notFound ⟨notFoundError.text, []⟩), s)
          else if m ≤ volumesPerServer s.volumes req.nodeId then
            some (.error (.status .resourceExhausted ⟨maxVolumesError.text, []⟩), s)
          else
            some (.ok ⟨publishContextOf K vol.name req.volumeContext⟩,
              s.setServerUUIDs req.volumeId [req.nodeId]) := by
  rcases hc : controllerPublishVolumeChecks req with e | ⟨⟩
  · simp [controllerPublishVolume, hc]
  · -- the volume is fetched, then updated to the node
    simp only [controllerPublishVolume, hc, bind_pure_comp, map_pure, pure_bind, Rpc.exec_bind,
      Rpc.exec_send, fake, Option.map_some', Option.some_bind]
    rcases hv : s.get? req.volumeId with _ | vol
    · simp [fakeUpdate, hv]
    · have hu := Cloud.uuid_of_get? hv
      by_cases hs : req.nodeId ∈ s.servers <;>
        by_cases hm : m ≤ volumesPerServer s.volumes req.nodeId <;>
        simp [fake, fakeUpdate, hv, hs, hm, hu]

/-- `ControllerUnpublishVolume` against the fake: a volume that is gone counts as detached;
    otherwise its server set becomes empty. -/
theorem controllerUnpublishVolume_exec (req : ControllerUnpublishVolumeRequest) (s : Cloud) :
    Rpc.exec (fake m newId) (controllerUnpublishVolume req) s =
      if req.volumeId = "" then
        some (.error (.status .invalidArgument
          ⟨"ControllerPublishVolume Volume ID must be provided", []⟩), s)
      else match s.get? req.volumeId with
        | none => some (.ok (), s)
        | some _ => some (.ok (), s.setServerUUIDs req.volumeId []) := by
  by_cases h : req.volumeId = ""
  · simp [controllerUnpublishVolume, h, Rpc.exec_bind]
  · rcases hv : s.get? req.volumeId with _ | vol <;>
      simp [controllerUnpublishVolume, h, Rpc.exec_bind, fake, fakeUpdate, hv]

/-! ## ValidateVolumeCapabilities and ListVolumes -/

/-- `ValidateVolumeCapabilities` against the fake: for a stored volume it confirms the single
    supported access mode, whatever capabilities were asked about. -/
theorem validateVolumeCapabilities_exec (req : ValidateVolumeCapabilitiesRequest) (s : Cloud) :
    Rpc.exec (fake m newId) (validateVolumeCapabilities req) s =
      match validateVolumeCapabilitiesChecks req with
      | .error e => some (.error e, s)
      | .ok () =>
        match s.get? req.volumeId with
        | none => some (.error (.status .notFound ⟨notFoundError.text, []⟩), s)
        | some _ => some (.ok ⟨some [⟨supportedAccessMode, none⟩]⟩, s) := by
  rcases hc : validateVolumeCapabilitiesChecks req with e | ⟨⟩
  · simp [validateVolumeCapabilities, hc, Rpc.exec_bind]
  · rcases hv : s.get? req.volumeId with _ | vol <;>
      simp [validateVolumeCapabilities, hc, Rpc.exec_bind, fake, hv]

/-- `ListVolumes` against the fake: one entry per stored volume. -/
theorem listVolumes_exec (req : ListVolumesRequest) (s : Cloud) :
    Rpc.exec (fake m newId) (listVolumes req) s =
      if req.startingToken ≠ "" then
        some (.error (.status .aborted ⟨"pagination not supported", []⟩), s)
      else some (.ok ⟨s.volumes.map fun vol => ⟨vol.uuid, vol.sizeGB * gb, [], []⟩⟩, s) := by
  by_cases h : req.startingToken = "" <;> simp [listVolumes, h, Rpc.exec_bind, fake]

/-! ## ControllerExpandVolume -/

/-- **`ControllerExpandVolume` against the fake.**  A requested size not above the current one
    changes nothing and reports the current capacity; a larger one is written to the store. -/
theorem controllerExpandVolume_exec (req : ControllerExpandVolumeRequest) (s : Cloud) :
    Rpc.exec (fake m newId) (controllerExpandVolume req) s =
      if req.volumeId.length = 0 then
        some (.error (.status .invalidArgument
          ⟨"ControllerExpandVolume volume ID missing in request", []⟩), s)
      else match s.get? req.volumeId with
        | none => some (.error (.status .internal
            ⟨"ControllerExpandVolume could not retrieve existing volume: %v",
              [.str notFoundError.text]⟩), s)
        | some vol =>
          match calculateStorageGB req.capacityRange vol.type with
          | .error err => some (.error (.status .outOfRange
              ⟨"ControllerExpandVolume invalid capacity range: %v", [.capacity err]⟩), s)
          | .ok n =>
            if n ≤ vol.sizeGB then some (.ok ⟨vol.sizeGB * gb, true⟩, s)
            else some (.ok ⟨n * gb, nodeExpansionRequiredFor req.volumeCapability⟩,
              s.setSizeGB req.volumeId n) := by
  by_cases h : req.volumeId.length = 0
  · simp [controllerExpandVolume, h]
  · -- the volume is fetched, then the size computed from its type
    simp only [controllerExpandVolume, h, if_false, Int64.le_iff, bind_pure_comp, map_pure,
      pure_bind, Rpc.exec_bind, Rpc.exec_send, fake, Option.map_some', Option.some_bind]
    rcases hv : s.get? req.volumeId with _ | vol
    · simp
    · have hu := Cloud.uuid_of_get? hv
      rcases hn : calculateStorageGB req.capacityRange vol.type with err | n
      · simp [hn]
      · by_cases hle : n.val ≤ vol.sizeGB.val
        · simp [hn, hle]
        · have hlt : vol.sizeGB.val < n.val := by omega
          simp [fake, fakeUpdate, hv, hn, hle, hu, hlt]

end CsiCloudscale
