/-
  What each RPC may change in the store, whether it succeeds or not.

  The seven RPCs that reach the backend are the requests a run of the controller is made of
  (`Request`).  For each one, an effect lemma (`*_effect`) says everything it can do to the fake's
  store, read off its spec lemma: every RPC either leaves the store as it was or makes the one
  change its backend call makes.  Later modules derive their invariants from these lemmas and
  never unfold an RPC again.

  Over the effect lemmas sits an abstract statement of the frame: `Footprint r s s'` is what
  serving `r` may change, in the words of the controller's contract (attach and detach touch the
  named volume's servers, expand grows the named volume to the size asked for, create adds one
  volume, delete removes the named one, the rest change nothing).  `request_footprint` shows that
  the code stays within its footprint, and `Footprint.keeps` that every footprint keeps each
  volume's name and type and never shrinks it.  A create adds a volume under the UUID the fake
  draws; that this UUID is not in use is the one assumption, and it is what the fake's
  `randString(32)` is for.
-/
import Mathlib.Algebra.Order.Ring.Int
import CsiCloudscale.Create

namespace CsiCloudscale

open Csi Cloudscale

/-- A call of one of the controller RPCs that reach the backend. -/
inductive Request
  | createVolume (req : CreateVolumeRequest)
  | deleteVolume (req : DeleteVolumeRequest)
  | controllerPublishVolume (req : ControllerPublishVolumeRequest)
  | controllerUnpublishVolume (req : ControllerUnpublishVolumeRequest)
  | validateVolumeCapabilities (req : ValidateVolumeCapabilitiesRequest)
  | listVolumes (req : ListVolumesRequest)
  | controllerExpandVolume (req : ControllerExpandVolumeRequest)

/-- The RPC that serves a request, with its response dropped. -/
def Request.rpc (K : Names) (d : Driver) : Request → Rpc Unit
  | .createVolume req => CsiCloudscale.createVolume K d req >>= fun _ => pure ()
  | .deleteVolume req => CsiCloudscale.deleteVolume req
  | .controllerPublishVolume req =>
    CsiCloudscale.controllerPublishVolume K req >>= fun _ => pure ()
  | .controllerUnpublishVolume req => CsiCloudscale.controllerUnpublishVolume req
  | .validateVolumeCapabilities req =>
    CsiCloudscale.validateVolumeCapabilities req >>= fun _ => pure ()
  | .listVolumes req => CsiCloudscale.listVolumes req >>= fun _ => pure ()
  | .controllerExpandVolume req => CsiCloudscale.controllerExpandVolume req >>= fun _ => pure ()

/-- Dropping the response keeps the state a run ends in. -/
theorem Rpc.exec_of_exec_discard {σ α : Type} {h : Handler σ} {x : Rpc α} {s s' : σ}
    {res : Except Csi.Error Unit} (hx : Rpc.exec h (x >>= fun _ => pure ()) s = some (res, s')) :
    ∃ r, Rpc.exec h x s = some (r, s') := by
  rw [Rpc.exec_bind] at hx
  rcases hr : Rpc.exec h x s with _ | ⟨_ | _, t⟩ <;> simp only [hr] at hx <;> cases hx <;>
    exact ⟨_, rfl⟩

variable (K : Names) (d : Driver) (m : Nat) (newId : String)

/-! ## The effect of each RPC on the fake -/

section Effects

variable {s s' : Cloud}

/-- A failed or repeated `CreateVolume` changes nothing; otherwise it stores one new volume with
    the requested name, where there was none, under the drawn UUID. -/
theorem createVolume_effect {req : CreateVolumeRequest} {r}
    (h : Rpc.exec (fake m newId) (createVolume K d req) s = some (r, s')) :
    s' = s ∨ ∃ n st luks, createVolumeChecks K d req = .ok (n, st, luks) ∧
      s.volumes.filter (·.name = req.name) = [] ∧
      s' = s.put (createdVolume newId { name := req.name, sizeGB := n, type := st, zone := d.zone }) := by
  rw [createVolume_exec] at h
  rcases hc : createVolumeChecks K d req with e | ⟨n, st, luks⟩ <;> simp only [hc] at h
  · simp_all
  · rcases hv : s.volumes.filter (·.name = req.name) with _ | ⟨v, _ | ⟨w, l⟩⟩ <;>
      simp only [hv] at h
    · simp only [Option.some.injEq, Prod.mk.injEq] at h
      exact .inr ⟨n, st, luks, rfl, hv, h.2.symm⟩
    · split at h <;> simp_all
    · simp_all

theorem deleteVolume_effect {req : DeleteVolumeRequest} {r}
    (h : Rpc.exec (fake m newId) (deleteVolume req) s = some (r, s')) :
    s' = s ∨ s' = s.erase req.volumeId := by
  rw [deleteVolume_exec] at h
  split at h <;> simp_all

theorem controllerPublishVolume_effect {req : ControllerPublishVolumeRequest} {r}
    (h : Rpc.exec (fake m newId) (controllerPublishVolume K req) s = some (r, s')) :
    s' = s ∨ s' = s.setServerUUIDs req.volumeId [req.nodeId] := by
  rw [controllerPublishVolume_exec] at h
  repeat' split at h
  all_goals simp_all

theorem controllerUnpublishVolume_effect {req : ControllerUnpublishVolumeRequest} {r}
    (h : Rpc.exec (fake m newId) (controllerUnpublishVolume req) s = some (r, s')) :
    s' = s ∨ s' = s.setServerUUIDs req.volumeId [] := by
  rw [controllerUnpublishVolume_exec] at h
  repeat' split at h
  all_goals simp_all

theorem validateVolumeCapabilities_effect {req : ValidateVolumeCapabilitiesRequest} {r}
    (h : Rpc.exec (fake m newId) (validateVolumeCapabilities req) s = some (r, s')) : s' = s := by
  rw [validateVolumeCapabilities_exec] at h
  repeat' split at h
  all_goals simp_all

theorem listVolumes_effect {req : ListVolumesRequest} {r}
    (h : Rpc.exec (fake m newId) (listVolumes req) s = some (r, s')) : s' = s := by
  rw [listVolumes_exec] at h
  split at h <;> simp_all

/-- `ControllerExpandVolume` changes nothing, or sets the named volume's size to what the
    capacity range asks for its type, when that is larger. -/
theorem controllerExpandVolume_effect {req : ControllerExpandVolumeRequest} {r}
    (h : Rpc.exec (fake m newId) (controllerExpandVolume req) s = some (r, s')) :
    s' = s ∨ ∃ vol n, s.get? req.volumeId = some vol ∧
      calculateStorageGB req.capacityRange vol.type = .ok n ∧ vol.sizeGB < n ∧
      s' = s.setSizeGB req.volumeId n := by
  rw [controllerExpandVolume_exec] at h
  split at h
  · simp_all
  · rcases hv : s.get? req.volumeId with _ | vol <;> simp only [hv] at h
    · simp_all
    · rcases hn : calculateStorageGB req.capacityRange vol.type with err | n <;>
        simp only [hn] at h
      · simp_all
      · split at h
        · simp_all
        · simp only [Option.some.injEq, Prod.mk.injEq] at h
          exact .inr ⟨vol, n, rfl, hn, by simpa using ‹¬n ≤ vol.sizeGB›, h.2.symm⟩

/-- A `ControllerPublishVolume` that succeeds passed its checks, found the volume and the node
    with room on it, attached the volume to the node alone, and answers with the stored volume's
    name. -/
theorem controllerPublishVolume_ok {req : ControllerPublishVolumeRequest} {y}
    (h : Rpc.exec (fake m newId) (controllerPublishVolume K req) s = some (.ok y, s')) :
    controllerPublishVolumeChecks req = .ok () ∧ ∃ vol, s.get? req.volumeId = some vol ∧
      req.nodeId ∈ s.servers ∧ volumesPerServer s.volumes req.nodeId < m ∧
      y = ⟨publishContextOf K vol.name req.volumeContext⟩ ∧
      s' = s.setServerUUIDs req.volumeId [req.nodeId] := by
  rw [controllerPublishVolume_exec] at h
  repeat' split at h
  all_goals simp_all

end Effects

/-! ## The frame -/

/-- `v` grows to `v'`: same name and type, and a size not smaller. -/
def Cloudscale.Volume.GrowsTo (v v' : Cloudscale.Volume) : Prop :=
  v'.name = v.name ∧ v'.type = v.type ∧ v.sizeGB ≤ v'.sizeGB

theorem Cloudscale.Volume.growsTo_refl (v : Cloudscale.Volume) : v.GrowsTo v :=
  ⟨rfl, rfl, (Int64.le_iff _ _).mpr le_rfl⟩

/-- Every volume of `s` that is still in `s'`, under its UUID, has grown to its new self. -/
def Cloud.Keeps (s s' : Cloud) : Prop :=
  ∀ v ∈ s.volumes, ∀ v' ∈ s'.volumes, v'.uuid = v.uuid → v.GrowsTo v'

/-- What serving a request may change in the store, successful or not. -/
def Footprint : Request → Cloud → Cloud → Prop
  | .createVolume _, s, s' =>
    s' = s ∨ ∃ vol, vol.uuid ∉ s.uuids ∧ s'.volumes = s.volumes ++ [vol] ∧ s'.servers = s.servers
  | .deleteVolume req, s, s' => s' = s ∨ s' = s.erase req.volumeId
  | .controllerPublishVolume req, s, s' => s' = s ∨ ∃ l, s' = s.setServerUUIDs req.volumeId l
  | .controllerUnpublishVolume req, s, s' => s' = s ∨ ∃ l, s' = s.setServerUUIDs req.volumeId l
  | .validateVolumeCapabilities _, s, s' => s' = s
  | .listVolumes _, s, s' => s' = s
  | .controllerExpandVolume req, s, s' =>
    s' = s ∨ ∃ vol n, s.get? req.volumeId = some vol ∧
      calculateStorageGB req.capacityRange vol.type = .ok n ∧ vol.sizeGB < n ∧
      s' = s.setSizeGB req.volumeId n

namespace Cloud

variable {s s' : Cloud}

theorem keeps_refl (s : Cloud) : s.Keeps s := fun v hv _ hv' hu =>
  eq_of_uuid_eq hv hv' hu.symm ▸ v.growsTo_refl

theorem keeps_of_volumes_append {vol : Cloudscale.Volume} (hf : vol.uuid ∉ s.uuids)
    (h : s'.volumes = s.volumes ++ [vol]) : s.Keeps s' := by
  intro v hv v' hv' hu
  rw [h, List.mem_append, List.mem_singleton] at hv'
  rcases hv' with hv' | rfl
  · exact eq_of_uuid_eq hv hv' hu.symm ▸ v.growsTo_refl
  · exact absurd (hu ▸ List.mem_map_of_mem _ hv) hf

theorem keeps_erase (s : Cloud) (id : String) : s.Keeps (s.erase id) := fun v hv _ hv' hu =>
  eq_of_uuid_eq hv (mem_erase.mp hv').1 hu.symm ▸ v.growsTo_refl

/-- A change of the volume `id` that grows it keeps the store. -/
theorem keeps_modify {id : String} {f : Cloudscale.Volume → Cloudscale.Volume} {hf}
    (hg : ∀ v ∈ s.volumes, v.uuid = id → v.GrowsTo (f v)) : s.Keeps (s.modify id f hf) := by
  intro v hv v' hv' hu
  obtain ⟨w, hw, rfl⟩ := mem_modify.mp hv'
  have hwu : w.uuid = v.uuid := by split at hu <;> simp_all
  obtain rfl := eq_of_uuid_eq hw hv hwu
  split
  · exact hg w hw ‹_›
  · exact w.growsTo_refl

theorem keeps_setServerUUIDs (s : Cloud) (id : String) (l : List String) :
    s.Keeps (s.setServerUUIDs id l) :=
  keeps_modify fun v _ _ => v.growsTo_refl

end Cloud

/-- Every footprint keeps each volume's name and type and never shrinks it. -/
theorem Footprint.keeps {r : Request} {s s' : Cloud} (h : Footprint r s s') : s.Keeps s' := by
  cases r <;> simp only [Footprint] at h
  case createVolume =>
    obtain rfl | ⟨vol, hf, hv, -⟩ := h
    exacts [Cloud.keeps_refl _, Cloud.keeps_of_volumes_append hf hv]
  case deleteVolume =>
    obtain rfl | rfl := h
    exacts [Cloud.keeps_refl _, Cloud.keeps_erase _ _]
  case controllerPublishVolume | controllerUnpublishVolume =>
    obtain rfl | ⟨l, rfl⟩ := h
    exacts [Cloud.keeps_refl _, Cloud.keeps_setServerUUIDs _ _ _]
  case validateVolumeCapabilities | listVolumes => exact h ▸ Cloud.keeps_refl _
  case controllerExpandVolume =>
    obtain rfl | ⟨vol, n, hv, -, hlt, rfl⟩ := h
    · exact Cloud.keeps_refl _
    · refine Cloud.keeps_modify fun v hv' hu => ⟨rfl, rfl, ?_⟩
      obtain rfl := Cloud.eq_of_uuid_eq hv' (Cloud.mem_of_get? hv) (hu.trans (Cloud.uuid_of_get? hv).symm)
      simp only [Int64.lt_iff, Int64.le_iff] at hlt ⊢
      exact hlt.le

/-- Serving any request against the fake stays within its footprint. -/
theorem serve_footprint (r : Request) {s s' : Cloud} {res : Except Csi.Error Unit}
    (hfresh : newId ∉ s.uuids) (h : Rpc.exec (fake m newId) (r.rpc K d) s = some (res, s')) :
    Footprint r s s' := by
  cases r <;> simp only [Request.rpc, Footprint] at h ⊢
  case createVolume =>
    obtain ⟨_, h⟩ := Rpc.exec_of_exec_discard h
    obtain rfl | ⟨n, st, luks, -, -, rfl⟩ := createVolume_effect K d m newId h
    · exact .inl rfl
    · exact .inr ⟨_, hfresh, Cloud.volumes_put_of_fresh hfresh, rfl⟩
  case deleteVolume => exact deleteVolume_effect m newId h
  case controllerPublishVolume =>
    obtain ⟨_, h⟩ := Rpc.exec_of_exec_discard h
    exact (controllerPublishVolume_effect K m newId h).imp_right fun h => ⟨_, h⟩
  case controllerUnpublishVolume =>
    exact (controllerUnpublishVolume_effect m newId h).imp_right fun h => ⟨_, h⟩
  case validateVolumeCapabilities =>
    obtain ⟨_, h⟩ := Rpc.exec_of_exec_discard h
    exact validateVolumeCapabilities_effect m newId h
  case listVolumes =>
    obtain ⟨_, h⟩ := Rpc.exec_of_exec_discard h
    exact listVolumes_effect m newId h
  case controllerExpandVolume =>
    obtain ⟨_, h⟩ := Rpc.exec_of_exec_discard h
    exact controllerExpandVolume_effect m newId h

/-- **The frame of the controller.**  Serving any request against the fake, successfully or
    not, changes no more than its footprint, and so keeps every volume's name and type and
    never shrinks it; a create needs only that the UUID the fake draws is not in use. -/
theorem request_footprint (r : Request) {s s' : Cloud} {res : Except Csi.Error Unit}
    (hfresh : newId ∉ s.uuids) (h : Rpc.exec (fake m newId) (r.rpc K d) s = some (res, s')) :
    Footprint r s s' ∧ s.Keeps s' :=
  have hf := serve_footprint K d m newId r hfresh h
  ⟨hf, hf.keeps⟩

/-- A 10 GiB expand of a 5 GiB volume, the volume `pvc-1` after `pvcRequest`. -/
def expandRequest : ControllerExpandVolumeRequest :=
  ⟨"vol-1", some ⟨10737418240, 0⟩, some ⟨.singleNodeWriter, some .mount⟩⟩

theorem request_footprint_expand :
    "vol-2" ∉ pvcCloud.uuids ∧
    Rpc.exec (fake 128 "vol-2") ((Request.controllerExpandVolume expandRequest).rpc exampleNames
      exampleDriver) pvcCloud = some (.ok (), pvcCloud.setSizeGB "vol-1" 10) ∧
    Footprint (.controllerExpandVolume expandRequest) pvcCloud (pvcCloud.setSizeGB "vol-1" 10) ∧
    pvcCloud.Keeps (pvcCloud.setSizeGB "vol-1" 10) :=
  have hf : "vol-2" ∉ pvcCloud.uuids := by decide
  have h : Rpc.exec (fake 128 "vol-2") ((Request.controllerExpandVolume expandRequest).rpc
      exampleNames exampleDriver) pvcCloud = some (.ok (), pvcCloud.setSizeGB "vol-1" 10) := rfl
  ⟨hf, h, request_footprint exampleNames exampleDriver 128 "vol-2" _ hf h⟩

end CsiCloudscale
