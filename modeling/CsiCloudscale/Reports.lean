/-
  What the controller reports: capacities in bytes, and confirmed capabilities.

  Three RPCs report a volume's capacity as its size in gigabytes times `GB`, multiplied in
  `int64`: `CreateVolume` (`int64(sizeGB)*GB`), `ControllerExpandVolume`
  (`resizeGigaBytes*GB`) and `ListVolumes` (`int64(vol.SizeGB*GB)`, the product taken in Go's
  64-bit `int`).  The product is exact exactly while the size stays below `2^33` GB
  (`val_mul_gb_eq_iff`).  `calculateStorageGB` admits every `int64` required size, and rounds
  `2^63 - 1` bytes up to `2^33` GB, so all three reports of such a volume wrap to `-2^63`
  (`capacity_report_wraps`), and `CreateVolume` answers a capacity below the one required
  (`createVolume_capacity_below_required`).

  `ValidateVolumeCapabilities` confirms the one supported access mode for every stored volume,
  whatever capabilities it is asked about: it confirms a list that `CreateVolume`'s checks reject
  (`validateVolumeCapabilities_confirms_rejected`).
-/
import Mathlib.Algebra.Order.Ring.Int
import CsiCloudscale.Frame

namespace CsiCloudscale

open Csi Cloudscale

/-! ## Capacities -/

/-- **The capacity product is exact below `2^33` GB.**  For a size that is not negative,
    `sizeGB * GB` in `int64` is the exact product iff the size is below `2^33`. -/
theorem val_mul_gb_eq_iff (n : Int64) (h0 : 0 ≤ n.val) :
    (n * gb).val = n.val * 1073741824 ↔ n.val < 8589934592 := by
  have := (n * gb).lt_max
  constructor
  · intro h; omega
  · intro h; exact Int64.val_mul_of_lt (by rw [val_gb]; omega) (by rw [val_gb]; omega)

variable (K : Names) (d : Driver) (m : Nat)

/-- A request for the largest size an `int64` holds, `2^63 - 1` bytes, of an `ssd` volume. -/
def hugeRequest : CreateVolumeRequest :=
  ⟨"pvc-1", some ⟨9223372036854775807, 0⟩, [⟨.singleNodeWriter, some .mount⟩], [], none⟩

/-- The volume `hugeRequest` creates under the UUID `vol-1`: `2^33` GB. -/
def hugeVolume : Cloudscale.Volume := ⟨"vol-1", "pvc-1", 8589934592, "ssd", []⟩

/-- Grow the volume `vol-1` to `2^63 - 1` bytes. -/
def hugeExpandRequest : ControllerExpandVolumeRequest :=
  ⟨"vol-1", some ⟨9223372036854775807, 0⟩, some ⟨.singleNodeWriter, some .mount⟩⟩

/-- **`CreateVolume` reports less than was required.**  On the empty fake, `CreateVolume` for
    `2^63 - 1` bytes succeeds and stores a volume of `2^33` GB, whose exact capacity is `2^63`
    bytes, and answers with that volume and a capacity of `-2^63` bytes, below the required
    size. -/
theorem createVolume_capacity_below_required :
    ∃ resp, Rpc.exec (fake m "vol-1") (createVolume K d hugeRequest) Cloud.empty =
        some (.ok resp, Cloud.empty.put hugeVolume) ∧
      resp.volume.volumeId = hugeVolume.uuid ∧ hugeVolume.sizeGB.val * 2 ^ 30 = 2 ^ 63 ∧
      resp.volume.capacityBytes.val = -2 ^ 63 ∧
      ∃ r, hugeRequest.capacityRange = some r ∧ 0 < r.requiredBytes.val ∧
        resp.volume.capacityBytes.val < r.requiredBytes.val :=
  have hcap : (csiVolumeOf K d "pvc-1" 8589934592 "false" []).capacityBytes.val = -2 ^ 63 := rfl
  ⟨⟨{ csiVolumeOf K d "pvc-1" 8589934592 "false" [] with volumeId := "vol-1" }⟩,
    by rw [createVolume_exec]; rfl, rfl, by decide, hcap, _, rfl, by decide,
    lt_of_eq_of_lt hcap (by decide)⟩

/-- **Capacity reports wrap.**  `CreateVolume` for `2^63 - 1` bytes stores a volume of `2^33` GB,
    whose exact capacity is `2^63` bytes, and reports `-2^63`; `ListVolumes` then lists it with
    `-2^63`; and `ControllerExpandVolume` of a 5 GB volume to `2^63 - 1` bytes stores `2^33` GB
    and reports `-2^63` too. -/
theorem capacity_report_wraps :
    Rpc.exec (fake m "vol-1") (createVolume K d hugeRequest) Cloud.empty =
      some (.ok ⟨{ csiVolumeOf K d "pvc-1" 8589934592 "false" [] with volumeId := "vol-1" }⟩,
        Cloud.empty.put hugeVolume) ∧
    (csiVolumeOf K d "pvc-1" 8589934592 "false" []).capacityBytes.val = -2 ^ 63 ∧
    Rpc.exec (fake m "vol-2") (listVolumes ⟨""⟩) (Cloud.empty.put hugeVolume) =
      some (.ok ⟨[⟨"vol-1", hugeVolume.sizeGB * gb, [], []⟩]⟩, Cloud.empty.put hugeVolume) ∧
    (hugeVolume.sizeGB * gb).val = -2 ^ 63 ∧ hugeVolume.sizeGB.val * 2 ^ 30 = 2 ^ 63 ∧
    Rpc.exec (fake m "vol-2") (controllerExpandVolume hugeExpandRequest) pvcCloud =
      some (.ok ⟨8589934592 * gb, true⟩, pvcCloud.setSizeGB "vol-1" 8589934592) ∧
    ((8589934592 : Int64) * gb).val = -2 ^ 63 := by
  refine ⟨?_, rfl, rfl, rfl, by decide, ?_, rfl⟩
  · rw [createVolume_exec]; rfl
  · rw [controllerExpandVolume_exec]; rfl

/-! ## Confirmed capabilities -/

/-- Ask whether `vol-1` supports multi-node multi-writer mounts. -/
def multiWriterRequest : ValidateVolumeCapabilitiesRequest :=
  ⟨"vol-1", [⟨.multiNodeMultiWriter, some .mount⟩]⟩

/-- **Validate confirms what create rejects.**  Asked about a multi-node multi-writer mount
    for a stored volume, `ValidateVolumeCapabilities` confirms the supported access mode; the
    same capability list fails `CreateVolume`'s checks. -/
theorem validateVolumeCapabilities_confirms_rejected (newId : String) :
    Rpc.exec (fake m newId) (validateVolumeCapabilities multiWriterRequest) pvcCloud =
      some (.ok ⟨some [⟨supportedAccessMode, none⟩]⟩, pvcCloud) ∧
    createVolumeChecks K d { pvcRequest with volumeCapabilities := multiWriterRequest.volumeCapabilities } =
      .error (.status .invalidArgument ⟨"volume capabilities cannot be satisified: %s",
        [.str "unsupported access mode MULTI_NODE_MULTI_WRITER"]⟩) :=
  ⟨rfl, rfl⟩

end CsiCloudscale
