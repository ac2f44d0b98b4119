/-
  The request checks of `CreateVolume`: where the zone and the capabilities are decided.

  `createVolumeChecks` runs its checks in the order of `controller.go`, and the first that fails
  decides the answer.  Two facts about that order are proved here, over every request.

  The zone check (lines 88-98) rejects a request, with `ResourceExhausted`, exactly when the name
  and capability checks before it pass and some requisite topology names a zone other than the
  controller's (`createVolumeChecks_resourceExhausted_iff`): every requisite topology has to
  admit the zone, not one of them, so a requirement listing the controller's zone beside another
  is rejected (`createVolumeChecks_rejects_mixed_zones`).

  The capability checks (lines 80-86 and 114-119) reject exactly the capability lists the CSI
  rules exclude (`createVolumeChecks_capabilities`).  The LUKS check comes after the zone,
  storage type and capacity checks, so for a LUKS-encrypted volume this needs those three to
  pass: a request that fails one of them is answered with that failure, whatever its
  capabilities (`createVolumeChecks_hides_luks_block`).  Without LUKS, the checks before the zone
  check decide alone.
-/
import Mathlib.Algebra.Order.Ring.Int
import CsiCloudscale.Create

namespace CsiCloudscale

open Csi Cloudscale

variable (K : Names) (d : Driver)

/-! ## The zone check -/

/-- A topology admits a zone when it has no `zone` segment or its `zone` segment is that
    zone. -/
def Csi.Topology.Admits (zone : String) (t : Topology) : Prop :=
  t.segments.lookup "zone" = none ∨ t.segments.lookup "zone" = some zone

/-- The zone check finds a mismatch iff requirements are given and one of their requisite
    topologies does not admit the zone. -/
theorem zoneMismatch_isSome_iff (zone : String) (r : Option TopologyRequirement) :
    (zoneMismatch zone r).isSome ↔
      ∃ reqs, r = some reqs ∧ ∃ t ∈ reqs.requisite, ¬ t.Admits zone := by
  cases r with
  | none => simp [zoneMismatch]
  | some reqs =>
    simp only [zoneMismatch, List.find?_isSome, List.mem_filterMap, Topology.Admits,
      Option.some.injEq, exists_eq_left', not_or]
    constructor
    · rintro ⟨z, ⟨t, ht, hz⟩, hne⟩
      exact ⟨t, ht, by simp [hz], by simpa [hz] using hne⟩
    · rintro ⟨t, ht, h1, h2⟩
      obtain ⟨z, hz⟩ := Option.ne_none_iff_exists'.mp h1
      exact ⟨z, ⟨t, ht, hz⟩, by simpa [hz] using h2⟩

/-- **The zone check.**  `CreateVolume`'s checks fail with `ResourceExhausted` iff the name and
    capability checks pass and some requisite topology does not admit the controller's zone. -/
theorem createVolumeChecks_resourceExhausted_iff (req : CreateVolumeRequest) :
    (∃ msg, createVolumeChecks K d req = .error (.status .resourceExhausted msg)) ↔
      req.name ≠ "" ∧ req.volumeCapabilities ≠ [] ∧
        validateCapabilities req.volumeCapabilities = [] ∧
        ∃ reqs, req.accessibilityRequirements = some reqs ∧
          ∃ t ∈ reqs.requisite, ¬ t.Admits d.zone := by
  rw [← zoneMismatch_isSome_iff]
  unfold createVolumeChecks
  simp only [bind, Except.bind, pure, Except.pure, List.isEmpty_iff]
  by_cases hn : req.name = "" <;> by_cases hc : req.volumeCapabilities = [] <;>
    by_cases hv : validateCapabilities req.volumeCapabilities = [] <;> simp [hn, hc, hv]
  cases zoneMismatch d.zone req.accessibilityRequirements <;> simp
  -- past the zone check, every failure is an `InvalidArgument`
  intro x
  repeat' split
  all_goals simp

/-- A request for `pvc-1` to be accessible from `rma1` or from `lpg1`. -/
def mixedZoneRequest : CreateVolumeRequest :=
  { pvcRequest with
    accessibilityRequirements := some ⟨[⟨[("zone", "rma1")]⟩, ⟨[("zone", "lpg1")]⟩]⟩ }

/-- **A requirement naming the controller's zone is rejected.**  In `rma1`, the request
    accessible from `rma1` or `lpg1` is refused for `lpg1`, though its first topology admits
    `rma1`. -/
theorem createVolumeChecks_rejects_mixed_zones :
    createVolumeChecks exampleNames exampleDriver mixedZoneRequest =
      .error (.status .resourceExhausted ⟨"volume can be only created in zone: %q, got: %q",
        [.str "rma1", .str "lpg1"]⟩) ∧
    ∃ reqs, mixedZoneRequest.accessibilityRequirements = some reqs ∧
      ∃ t ∈ reqs.requisite, t.Admits exampleDriver.zone :=
  ⟨rfl, _, rfl, _, List.mem_cons_self _ _, .inr rfl⟩

/-! ## The capability checks -/

/-- The `InvalidArgument` errors of `CreateVolume`'s capability checks: no capabilities given,
    or some that cannot be satisfied, as `validateCapabilities` or `validateLuksCapabilities`
    finds them. -/
def Csi.Error.IsCapabilityError : Csi.Error → Prop
  | .status .invalidArgument m => m.format = "CreateVolume Volume capabilities must be provided" ∨
      m.format = "volume capabilities cannot be satisified: %s"
  | _ => False

/-- The capability lists the CSI rules of the driver accept: some are given, each is a single
    node writer with block or mount access, and none asks for block access when the volume is
    to be LUKS-encrypted. -/
def CapabilitiesAccepted (caps : List VolumeCapability) (parameters : Dict) : Prop :=
  caps ≠ [] ∧
    (∀ cap ∈ caps, cap.accessMode = .singleNodeWriter ∧
      (cap.accessType = some .block ∨ cap.accessType = some .mount)) ∧
    (parameters.get K.luksEncryptedAttribute = "true" → ∀ cap ∈ caps, cap.accessType ≠ some .block)

/-- The rule, in the terms of the two validators. -/
theorem capabilitiesAccepted_iff (caps : List VolumeCapability) (parameters : Dict) :
    CapabilitiesAccepted K caps parameters ↔ caps ≠ [] ∧ validateCapabilities caps = [] ∧
      (parameters.get K.luksEncryptedAttribute = "true" → validateLuksCapabilities caps = []) := by
  have hok : ∀ cap : VolumeCapability, CapabilityOk cap ↔ cap.accessMode = .singleNodeWriter ∧
      (cap.accessType = some .block ∨ cap.accessType = some .mount) := by
    rintro ⟨m, (_ | _ | _)⟩ <;> simp [CapabilityOk, supportedAccessMode]
  simp only [CapabilitiesAccepted, validateCapabilities_eq_nil_iff,
    validateLuksCapabilities_eq_nil_iff, hok]

/-- The checks `CreateVolume` makes between its capability checks and its LUKS check: the zone,
    the storage type and the capacity range pass. -/
def LaterChecksPass (req : CreateVolumeRequest) : Prop :=
  zoneMismatch d.zone req.accessibilityRequirements = none ∧
    (defaultStorageType (req.parameters.get K.storageTypeAttribute) = "ssd" ∨
      defaultStorageType (req.parameters.get K.storageTypeAttribute) = "bulk") ∧
    ∃ n, calculateStorageGB req.capacityRange
      (defaultStorageType (req.parameters.get K.storageTypeAttribute)) = .ok n

/-- A capacity error is no capability error. -/
theorem not_isCapabilityError_capacity (e : CapacityError) :
    ¬ (Csi.Error.status .invalidArgument e.message).IsCapabilityError := by
  cases e <;> simp [Csi.Error.IsCapabilityError, CapacityError.message]

/-- **The capability checks.**  For a request with a name, `CreateVolume`'s checks raise no
    capability error iff the rule accepts its capabilities, provided that, when the volume is
    to be LUKS-encrypted, the zone, storage type and capacity checks before the LUKS check pass;
    when they pass, the checks pass iff the rule accepts the capabilities. -/
theorem createVolumeChecks_capabilities {req : CreateVolumeRequest} (hname : req.name ≠ "")
    (hluks : req.parameters.get K.luksEncryptedAttribute = "true" → LaterChecksPass K d req) :
    ((∀ e, createVolumeChecks K d req = .error e → ¬ e.IsCapabilityError) ↔
      CapabilitiesAccepted K req.volumeCapabilities req.parameters) ∧
    (LaterChecksPass K d req → ((∃ c, createVolumeChecks K d req = .ok c) ↔
      CapabilitiesAccepted K req.volumeCapabilities req.parameters)) := by
  rw [capabilitiesAccepted_iff]
  unfold createVolumeChecks
  simp only [bind, Except.bind, pure, Except.pure, hname, if_false, List.isEmpty_iff]
  by_cases hc : req.volumeCapabilities = [] <;>
    by_cases hv : validateCapabilities req.volumeCapabilities = [] <;>
    simp [hc, hv, Csi.Error.IsCapabilityError]
  -- the capability checks passed; what is left are the zone, type, size and LUKS checks
  refine ⟨?_, fun ⟨hzone, htype, n, hn⟩ => ?_⟩
  · by_cases hlk : req.parameters.get K.luksEncryptedAttribute = "true"
    · obtain ⟨hzone, htype, n, hn⟩ := hluks hlk
      have hst : ¬(defaultStorageType (req.parameters.get K.storageTypeAttribute) ≠ "ssd" ∧
          defaultStorageType (req.parameters.get K.storageTypeAttribute) ≠ "bulk") := by tauto
      simp only [hzone, hst, hn, hlk, if_false, if_true]
      by_cases hlv : validateLuksCapabilities req.volumeCapabilities = [] <;>
        simp [hlv, Csi.Error.IsCapabilityError]
    · -- without LUKS, a later failure is a zone, type or capacity error
      simp only [hlk, if_false, false_implies, iff_true]
      intro e he
      split at he
      · cases he; simp [Csi.Error.IsCapabilityError]
      · split at he
        · cases he; simp [Csi.Error.IsCapabilityError]
        · split at he
          · cases he; exact not_isCapabilityError_capacity _
          · cases he
  · have hst : ¬(defaultStorageType (req.parameters.get K.storageTypeAttribute) ≠ "ssd" ∧
        defaultStorageType (req.parameters.get K.storageTypeAttribute) ≠ "bulk") := by tauto
    simp only [hzone, hst, hn, if_false]
    by_cases hlk : req.parameters.get K.luksEncryptedAttribute = "true" <;>
      by_cases hlv : validateLuksCapabilities req.volumeCapabilities = [] <;> simp [hlk, hlv]

/-- A request for `pvc-1` of the type `nvme`, which is no storage type, not LUKS-encrypted. -/
def nvmeRequest : CreateVolumeRequest :=
  { pvcRequest with parameters := [(exampleNames.storageTypeAttribute, "nvme")] }

theorem createVolumeChecks_capabilities_nvme :
    nvmeRequest.name ≠ "" ∧
    (nvmeRequest.parameters.get exampleNames.luksEncryptedAttribute = "true" →
      LaterChecksPass exampleNames exampleDriver nvmeRequest) ∧
    ((∀ e, createVolumeChecks exampleNames exampleDriver nvmeRequest = .error e →
        ¬ e.IsCapabilityError) ↔
      CapabilitiesAccepted exampleNames nvmeRequest.volumeCapabilities nvmeRequest.parameters) ∧
    (LaterChecksPass exampleNames exampleDriver nvmeRequest →
      ((∃ c, createVolumeChecks exampleNames exampleDriver nvmeRequest = .ok c) ↔
        CapabilitiesAccepted exampleNames nvmeRequest.volumeCapabilities nvmeRequest.parameters)) :=
  have hname : nvmeRequest.name ≠ "" := by decide
  have hluks : nvmeRequest.parameters.get exampleNames.luksEncryptedAttribute = "true" →
      LaterChecksPass exampleNames exampleDriver nvmeRequest := fun h => absurd h (by decide)
  ⟨hname, hluks, createVolumeChecks_capabilities exampleNames exampleDriver hname hluks⟩

/-- A LUKS-encrypted raw block volume of the type `nvme`, which is no storage type. -/
def nvmeLuksRequest : CreateVolumeRequest :=
  { pvcRequest with
    volumeCapabilities := [⟨.singleNodeWriter, some .block⟩]
    parameters := [(exampleNames.luksEncryptedAttribute, "true"),
      (exampleNames.storageTypeAttribute, "nvme")] }

/-- **A LUKS block request answered for its type.**  Its capabilities break the LUKS rule, and
    `CreateVolume` answers with the storage-type error, no capability error. -/
theorem createVolumeChecks_hides_luks_block :
    createVolumeChecks exampleNames exampleDriver nvmeLuksRequest =
      .error (.status .invalidArgument
        ⟨"invalid volume type requested. Only 'ssd' or 'bulk' are supported", []⟩) ∧
    ¬ (Csi.Error.status .invalidArgument
        ⟨"invalid volume type requested. Only 'ssd' or 'bulk' are supported", []⟩).IsCapabilityError ∧
    ¬ CapabilitiesAccepted exampleNames nvmeLuksRequest.volumeCapabilities
      nvmeLuksRequest.parameters := by
  refine ⟨rfl, by simp [Csi.Error.IsCapabilityError], fun h => ?_⟩
  exact h.2.2 rfl _ (List.mem_singleton_self _) rfl

end CsiCloudscale
