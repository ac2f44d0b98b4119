/-
  The Volume Lifecycle Controller: the RPCs of `controller.go`, each as an `Rpc` program.

  Each definition follows its Go function statement by statement: the same checks in the same
  order with the same codes and texts, the same calls of `d.cloudscaleClient.Volumes` with the
  same request bodies, and the same response.  `throw` is Go's `return nil, err`; a `match` on
  `← Rpc.send c` is Go's `if err != nil` after the call `c`.  Logging is left out, and so are the
  request fields no RPC reads.

  Three names `controller.go` uses are declared in other files of the `driver` package, which
  are not part of this model: `DriverName` and the three LUKS attribute keys.  They are the
  fields of `Names`, a parameter of every RPC that uses them.  The publish context is a Go map
  literal over four of them, which the Go compiler accepts only when they are distinct; `Names`
  carries that fact as a field.
-/
import Mathlib.Algebra.Order.Ring.Int
import CsiCloudscale.Csi
import CsiCloudscale.Capacity
import CsiCloudscale.Validation

namespace CsiCloudscale

open Csi Cloudscale

/-- The names `controller.go` takes from other files of the `driver` package. -/
structure Names where
  driverName : String
  luksEncryptedAttribute : String
  luksCipherAttribute : String
  luksKeySizeAttribute : String
  /-- The keys of the publish-context literal are distinct constants. -/
  publishKeys_nodup : [driverName ++ "/volume-name", luksEncryptedAttribute, luksCipherAttribute,
    luksKeySizeAttribute].Nodup

/-- `PublishInfoVolumeName`: passes the volume name from `ControllerPublishVolume` to the node. -/
def Names.publishInfoVolumeName (K : Names) : String := K.driverName ++ "/volume-name"

/-- `StorageTypeAttribute`: the storage type of the volume, `"ssd"` or `"bulk"`. -/
def Names.storageTypeAttribute (K : Names) : String := K.driverName ++ "/volume-type"

/-- The four keys of the publish context are distinct. -/
theorem Names.publishKeys_ne (K : Names) :
    K.luksEncryptedAttribute ≠ K.publishInfoVolumeName ∧
    K.luksCipherAttribute ≠ K.publishInfoVolumeName ∧
    K.luksKeySizeAttribute ≠ K.publishInfoVolumeName ∧
    K.luksCipherAttribute ≠ K.luksEncryptedAttribute ∧
    K.luksKeySizeAttribute ≠ K.luksEncryptedAttribute ∧
    K.luksKeySizeAttribute ≠ K.luksCipherAttribute := by
  have h := K.publishKeys_nodup
  simp only [List.nodup_cons, List.mem_cons, List.mem_singleton, List.not_mem_nil, or_false,
    not_or, List.nodup_nil, and_true, not_false_eq_true] at h
  obtain ⟨⟨h1, h2, h3⟩, ⟨h4, h5⟩, h6⟩ := h
  exact ⟨Ne.symm h1, Ne.symm h2, Ne.symm h3, Ne.symm h4, Ne.symm h5, Ne.symm h6⟩

/-- The part of `Driver` the controller reads: the zone it creates volumes in. -/
structure Driver where
  zone : String
  deriving DecidableEq, Repr

/-- Names for the concrete runs of later modules: any four distinct keys serve. -/
def exampleNames : Names :=
  ⟨"csi.cloudscale.ch", "csi.cloudscale.ch/luks-encrypted", "csi.cloudscale.ch/luks-cipher",
    "csi.cloudscale.ch/luks-key-size", by decide⟩

/-- A driver for the concrete runs of later modules. -/
def exampleDriver : Driver := ⟨"rma1"⟩

variable (K : Names) (d : Driver)

/-! ## CreateVolume -/

/-- The zone check of `CreateVolume` (lines 88-98): the zone of the first requisite topology
    whose `zone` segment is set to another zone than the controller's. -/
def zoneMismatch (zone : String) : Option TopologyRequirement → Option String
  | none => none
  | some reqs => (reqs.requisite.filterMap fun t => t.segments.lookup "zone").find? (· ≠ zone)

/-- The storage type a request asks for: the parameter, `"ssd"` when it is empty. -/
def defaultStorageType (storageType : String) : String :=
  if storageType = "" then "ssd" else storageType

/-- The checks `CreateVolume` makes before its first call (lines 76-122): the error it returns,
    or the size in gigabytes, the storage type and the LUKS flag it goes on with. -/
def createVolumeChecks (req : CreateVolumeRequest) : Except Csi.Error (Int64 × String × String) := do
  if req.name = "" then
    throw (.status .invalidArgument ⟨"CreateVolume Name must be provided", []⟩)
  if req.volumeCapabilities.isEmpty then
    throw (.status .invalidArgument ⟨"CreateVolume Volume capabilities must be provided", []⟩)
  let violations := validateCapabilities req.volumeCapabilities
  if !violations.isEmpty then
    throw (.status .invalidArgument ⟨"volume capabilities cannot be satisified: %s",
      [.str (String.intercalate "; " violations)]⟩)
  if let some zone := zoneMismatch d.zone req.accessibilityRequirements then
    throw (.status .resourceExhausted ⟨"volume can be only created in zone: %q, got: %q",
      [.str d.zone, .str zone]⟩)
  let storageType := defaultStorageType (req.parameters.get K.storageTypeAttribute)
  if storageType ≠ "ssd" ∧ storageType ≠ "bulk" then
    throw (.status .invalidArgument
      ⟨"invalid volume type requested. Only 'ssd' or 'bulk' are supported", []⟩)
  let sizeGB ← match calculateStorageGB req.capacityRange storageType with
    | .error err => throw (.status .invalidArgument err.message)
    | .ok n => pure n
  let luksEncrypted ← if req.parameters.get K.luksEncryptedAttribute = "true" then do
      let violations := validateLuksCapabilities req.volumeCapabilities
      if !violations.isEmpty then
        throw (.status .invalidArgument ⟨"volume capabilities cannot be satisified: %s",
          [.str (String.intercalate "; " violations)]⟩)
      pure "true"
    else pure "false"
  return (sizeGB, storageType, luksEncrypted)

/-- The volume `CreateVolume` answers with, before its id is known (lines 140-158). -/
def csiVolumeOf (volumeName : String) (sizeGB : Int64) (luksEncrypted : String)
    (parameters : Dict) : Csi.Volume :=
  let volumeContext : Dict :=
    [(K.publishInfoVolumeName, volumeName), (K.luksEncryptedAttribute, luksEncrypted)]
  let volumeContext := if luksEncrypted = "true" then
      (volumeContext.set K.luksCipherAttribute (parameters.get K.luksCipherAttribute)).set
        K.luksKeySizeAttribute (parameters.get K.luksKeySizeAttribute)
    else volumeContext
  ⟨"", sizeGB * gb, volumeContext, [⟨[("zone", d.zone)]⟩]⟩

/-- The volume context of a created volume names it. -/
@[simp] theorem get_csiVolumeOf_volumeName (volumeName : String) (sizeGB : Int64)
    (luksEncrypted : String) (parameters : Dict) :
    (csiVolumeOf K d volumeName sizeGB luksEncrypted parameters).volumeContext.get
      K.publishInfoVolumeName = volumeName := by
  obtain ⟨h1, h2, h3, -⟩ := K.publishKeys_ne
  unfold csiVolumeOf
  split <;> simp [h1.symm, h2.symm, h3.symm]

/-- `CreateVolume` creates a new volume from the given request; idempotent on the name. -/
def createVolume (req : CreateVolumeRequest) : Rpc CreateVolumeResponse := do
  let (sizeGB, storageType, luksEncrypted) ← match createVolumeChecks K d req with
    | .error err => throw err
    | .ok checked => pure checked
  let volumeName := req.name
  let volumes ← match ← Rpc.send (.list (some volumeName)) with
    | .error err => throw (.status .internal ⟨err.text, []⟩)
    | .ok volumes => pure volumes
  let csiVolume := csiVolumeOf K d volumeName sizeGB luksEncrypted req.parameters
  match volumes with
  | [] =>
    let volumeReq : VolumeRequest :=
      { name := volumeName, sizeGB := sizeGB, type := storageType, zone := d.zone }
    let vol ← match ← Rpc.send (.create volumeReq) with
      | .error err => throw (.status .internal ⟨err.text, []⟩)
      | .ok vol => pure vol
    return ⟨{ csiVolume with volumeId := vol.uuid }⟩
  | [vol] =>
    if vol.sizeGB ≠ sizeGB then
      throw (.status .alreadyExists ⟨"invalid option requested size: %d", [.int sizeGB.val]⟩)
    return ⟨{ csiVolume with volumeId := vol.uuid }⟩
  | _ => throw (.plain ⟨"fatal issue: duplicate volume %q exists", [.str volumeName]⟩)

/-! ## DeleteVolume -/

/-- `DeleteVolume` deletes the given volume; a volume that is already gone is no error. -/
def deleteVolume (req : DeleteVolumeRequest) : Rpc Unit := do
  if req.volumeId = "" then
    throw (.status .invalidArgument ⟨"DeleteVolume Volume ID must be provided", []⟩)
  match ← Rpc.send (.delete req.volumeId) with
  | .error err => if err.isNotFound then return () else throw (.backend err)
  | .ok () => return ()

/-! ## ControllerPublishVolume and ControllerUnpublishVolume -/

/-- The checks `ControllerPublishVolume` makes before its first call (lines 231-249). -/
def controllerPublishVolumeChecks (req : ControllerPublishVolumeRequest) : Except Csi.Error Unit := do
  if req.volumeId = "" then
    throw (.status .invalidArgument ⟨"ControllerPublishVolume Volume ID must be provided", []⟩)
  if req.nodeId = "" then
    throw (.status .invalidArgument ⟨"ControllerPublishVolume Node ID must be provided", []⟩)
  if req.volumeCapability.isNone then
    throw (.status .invalidArgument
      ⟨"ControllerPublishVolume Volume capability must be provided", []⟩)
  if req.readonly then
    throw (.status .alreadyExists ⟨"read only Volumes are not supported", []⟩)

/-- The publish context (lines 276-281): the volume's name, and the LUKS attributes of the
    request's volume context, passed on as they are. -/
def publishContextOf (volumeName : String) (volumeContext : Dict) : Dict :=
  [(K.publishInfoVolumeName, volumeName),
    (K.luksEncryptedAttribute, volumeContext.get K.luksEncryptedAttribute),
    (K.luksCipherAttribute, volumeContext.get K.luksCipherAttribute),
    (K.luksKeySizeAttribute, volumeContext.get K.luksKeySizeAttribute)]

@[simp] theorem get_publishContextOf_volumeName (volumeName : String) (volumeContext : Dict) :
    (publishContextOf K volumeName volumeContext).get K.publishInfoVolumeName = volumeName :=
  Dict.get_cons_self ..

/-- The publish context passes each LUKS attribute of the volume context on as it is. -/
theorem get_publishContextOf_luks (volumeName : String) (volumeContext : Dict) {k : String}
    (hk : k ∈ [K.luksEncryptedAttribute, K.luksCipherAttribute, K.luksKeySizeAttribute]) :
    (publishContextOf K volumeName volumeContext).get k = volumeContext.get k := by
  obtain ⟨h1, h2, h3, h4, h5, h6⟩ := K.publishKeys_ne
  simp only [List.mem_cons, List.mem_singleton, List.not_mem_nil, or_false] at hk
  rcases hk with rfl | rfl | rfl <;> simp [publishContextOf, *]

/-- `ControllerPublishVolume` attaches the given volume to the node. -/
def controllerPublishVolume (req : ControllerPublishVolumeRequest) :
    Rpc ControllerPublishVolumeResponse := do
  match controllerPublishVolumeChecks req with
  | .error err => throw err
  | .ok () => pure ()
  match ← Rpc.send (.update req.volumeId { serverUUIDs := some [req.nodeId] }) with
  | .error err =>
    if maxVolumesPerServerErrorMessageRe err.text then
      throw (.status .resourceExhausted ⟨err.text, []⟩)
    throw (reraiseNotFound err "attaching volume")
  | .ok () => pure ()
  let volume ← match ← Rpc.send (.get req.volumeId) with
    | .error err => throw (reraiseNotFound err "fetch volume")
    | .ok volume => pure volume
  return ⟨publishContextOf K volume.name req.volumeContext⟩

/-- `ControllerUnpublishVolume` detaches the given volume from its node. -/
def controllerUnpublishVolume (req : ControllerUnpublishVolumeRequest) : Rpc Unit := do
  if req.volumeId = "" then
    throw (.status .invalidArgument ⟨"ControllerPublishVolume Volume ID must be provided", []⟩)
  match ← Rpc.send (.get req.volumeId) with
  | .error err => if err.isNotFound then return () else throw (.backend err)
  | .ok _ => pure ()
  match ← Rpc.send (.update req.volumeId { serverUUIDs := some [] }) with
  | .error err => throw (reraiseNotFound err "unpublish volume")
  | .ok () => return ()

/-! ## ValidateVolumeCapabilities and ListVolumes -/

/-- The checks `ValidateVolumeCapabilities` makes before its call (lines 326-332). -/
def validateVolumeCapabilitiesChecks (req : ValidateVolumeCapabilitiesRequest) :
    Except Csi.Error Unit := do
  if req.volumeId = "" then
    throw (.status .invalidArgument
      ⟨"ValidateVolumeCapabilities Volume ID must be provided", []⟩)
  if req.volumeCapabilities.isEmpty then
    throw (.status .invalidArgument
      ⟨"ValidateVolumeCapabilities Volume Capabilities must be provided", []⟩)

/-- `ValidateVolumeCapabilities` checks whether the volume capabilities requested are
    supported. -/
def validateVolumeCapabilities (req : ValidateVolumeCapabilitiesRequest) :
    Rpc ValidateVolumeCapabilitiesResponse := do
  match validateVolumeCapabilitiesChecks req with
  | .error err => throw err
  | .ok () => pure ()
  match ← Rpc.send (.get req.volumeId) with
  | .error err => throw (reraiseNotFound err "fetch volume to validate capabilities")
  | .ok _ => return ⟨some [⟨supportedAccessMode, none⟩]⟩

/-- `ListVolumes` returns every volume; pagination is not supported. -/
def listVolumes (req : ListVolumesRequest) : Rpc ListVolumesResponse := do
  if req.startingToken ≠ "" then
    throw (.status .aborted ⟨"pagination not supported", []⟩)
  match ← Rpc.send (.list none) with
  | .error err => throw (.backend err)
  | .ok volumes => return ⟨volumes.map fun vol => ⟨vol.uuid, vol.sizeGB * gb, [], []⟩⟩

/-! ## ControllerExpandVolume -/

/-- Whether the node must grow its filesystem after a resize: not for a raw block volume. -/
def nodeExpansionRequiredFor : Option VolumeCapability → Bool
  | some ⟨_, some .block⟩ => false
  | _ => true

/-- `ControllerExpandVolume` is called from the resizer to increase the volume size. -/
def controllerExpandVolume (req : ControllerExpandVolumeRequest) :
    Rpc ControllerExpandVolumeResponse := do
  let volID := req.volumeId
  if volID.length = 0 then
    throw (.status .invalidArgument ⟨"ControllerExpandVolume volume ID missing in request", []⟩)
  let volume ← match ← Rpc.send (.get volID) with
    | .error err => throw (.status .internal
        ⟨"ControllerExpandVolume could not retrieve existing volume: %v", [.str err.text]⟩)
    | .ok volume => pure volume
  let resizeGigaBytes ← match calculateStorageGB req.capacityRange volume.type with
    | .error err => throw (.status .outOfRange
        ⟨"ControllerExpandVolume invalid capacity range: %v", [.capacity err]⟩)
    | .ok n => pure n
  if resizeGigaBytes ≤ volume.sizeGB then
    return ⟨volume.sizeGB * gb, true⟩
  match ← Rpc.send (.update volume.uuid { sizeGB := resizeGigaBytes }) with
  | .error err => throw (.status .internal
      ⟨"cannot resize volume %s: %s", [.str req.volumeId, .str err.text]⟩)
  | .ok () => pure ()
  return ⟨resizeGigaBytes * gb, nodeExpansionRequiredFor req.volumeCapability⟩

/-! ## The RPCs without a backend call -/

/-- The answer of every RPC the driver does not implement. -/
def unimplemented {α : Type} : Rpc α := throw (.status .unimplemented ⟨"", []⟩)

/-- `GetCapacity` returns the capacity of the storage pool: not implemented. -/
def getCapacity : Rpc Unit := unimplemented

/-- `CreateSnapshot`: not implemented. -/
def createSnapshot : Rpc Unit := unimplemented

/-- `DeleteSnapshot`: not implemented. -/
def deleteSnapshot : Rpc Unit := unimplemented

/-- `ListSnapshots`: not implemented. -/
def listSnapshots : Rpc Unit := unimplemented

/-- `ControllerGetVolume`, for the volume health check: not implemented. -/
def controllerGetVolume : Rpc Unit := unimplemented

/-- `ControllerGetCapabilities`: the controller RPCs the driver supports. -/
def controllerGetCapabilities : List RpcType :=
  [.createDeleteVolume, .publishUnpublishVolume, .listVolumes, .expandVolume]

end CsiCloudscale
