/-
  Retries: what a call repeated after it succeeded does (controller.go, lines 197-321 and
  487-541).

  The driver never retries a remote call itself; the orchestrator retries, and CSI asks that a
  call repeated after it succeeded succeed again and change nothing.  This module runs each
  call twice against the fake of `driver_test.go`.

  1. **Publish** — the repeat of a successful `ControllerPublishVolume` answers with the same
     `PublishContext` and the store it found, UNLESS the node now holds `m` volumes or more: the
     fake's attach-limit check counts every volume attached to the node, the one being
     published again included (`controllerPublishVolume_repeat`).  So the repeat fails with
     `ResourceExhausted` on every node the first call filled to the limit
     (`controllerPublishVolume_repeat_refused`, for every limit).

  2. **Delete and unpublish** — the fake's `Delete` of an absent id succeeds; the cloudscale.ch
     API answers it with a 404.  `fakeNotFound` is the fake with that answer, and against it both
     calls are no-ops on an absent volume and repeat as they first ran
     (`deleteVolume_unpublish_idempotent`): the first delete leaves the volume absent
     (`Cloud.get?_erase_self`), and setting a volume's servers is idempotent
     (`Cloud.setServerUUIDs_idem`).

  3. **Expand** — the repeat of a successful `ControllerExpandVolume` changes nothing and
     reports the same capacity, but always with `NodeExpansionRequired`: the first expand of a
     raw block volume answers `false`, its repeat `true` (`controllerExpandVolume_repeat`).
     Run concurrently instead, two such expands can crash the fake (`Safety.lean`).
-/
import CsiCloudscale.System

namespace CsiCloudscale

open Csi Cloudscale

variable (K : Names) (m : Nat) (newId : String)

/-! ## Publishing twice -/

/-- **A repeated publish answers as the first did unless the node is full.**  After a
    successful `ControllerPublishVolume`, the same request again leaves the store as it is, and
    succeeds with the same response exactly when the node holds fewer than `m` volumes. -/
theorem controllerPublishVolume_repeat {req : ControllerPublishVolumeRequest} {s s1 : Cloud}
    {y : ControllerPublishVolumeResponse}
    (h : Rpc.exec (fake m newId) (controllerPublishVolume K req) s = some (.ok y, s1)) :
    Rpc.exec (fake m newId) (controllerPublishVolume K req) s1 =
      if m ≤ volumesPerServer s1.volumes req.nodeId then
        some (.error (.status .resourceExhausted ⟨maxVolumesError.text, []⟩), s1)
      else some (.ok y, s1) := by
  obtain ⟨hc, vol, hv, hn, -, rfl, rfl⟩ := controllerPublishVolume_ok K m newId h
  rw [controllerPublishVolume_exec, hc]
  simp [hv, Cloud.uuid_of_get? hv, hn, Cloud.setServerUUIDs_idem]

/-- `vol-1` published twice to `node-1` of `twoNodeCloud`. -/
theorem controllerPublishVolume_repeat_node1 :
    Rpc.exec (fake 128 "vol-2") (controllerPublishVolume exampleNames (publishTo "node-1"))
        twoNodeCloud =
      some (.ok ⟨publishContextOf exampleNames "pvc-1" []⟩,
        twoNodeCloud.setServerUUIDs "vol-1" ["node-1"]) ∧
    Rpc.exec (fake 128 "vol-2") (controllerPublishVolume exampleNames (publishTo "node-1"))
        (twoNodeCloud.setServerUUIDs "vol-1" ["node-1"]) =
      if 128 ≤ volumesPerServer (twoNodeCloud.setServerUUIDs "vol-1" ["node-1"]).volumes
          "node-1" then
        some (.error (.status .resourceExhausted ⟨maxVolumesError.text, []⟩),
          twoNodeCloud.setServerUUIDs "vol-1" ["node-1"])
      else
        some (.ok ⟨publishContextOf exampleNames "pvc-1" []⟩,
          twoNodeCloud.setServerUUIDs "vol-1" ["node-1"]) :=
  ⟨rfl, @controllerPublishVolume_repeat exampleNames 128 "vol-2" _ twoNodeCloud _ _ rfl⟩

/-- The `i`-th of the volumes crowding `node-1`; their ids are `a`, `aa`, `aaa`, … -/
def crowdVolume (i : Nat) : Cloudscale.Volume :=
  let uuid := String.mk (List.replicate (i + 1) 'a')
  ⟨uuid, uuid, 5, "ssd", ["node-1"]⟩

theorem crowdVolume_uuid_ne (i : Nat) : (crowdVolume i).uuid ≠ "vol-1" := by
  intro h
  have := congrArg String.data h
  simp [crowdVolume, List.replicate_succ] at this

/-- `vol-1`, not attached, beside `n` volumes attached to the only node `node-1`. -/
def crowdedCloud (n : Nat) : Cloud :=
  ⟨⟨"vol-1", "pvc-1", 5, "ssd", []⟩ :: (List.range n).map crowdVolume, ["node-1"], by
    rw [List.map_cons, List.map_map, List.nodup_cons]
    refine ⟨fun h => ?_, (List.nodup_range n).map fun i j h => ?_⟩
    · obtain ⟨i, -, hi⟩ := List.mem_map.mp h
      exact crowdVolume_uuid_ne i hi
    · simpa [crowdVolume] using congrArg (fun s => s.data.length) h⟩

theorem volumesPerServer_crowd (l : List Nat) :
    volumesPerServer (l.map crowdVolume) "node-1" = l.length := by
  induction l with
  | nil => rfl
  | cons i l ih => simp [volumesPerServer_cons, ih, crowdVolume]; omega

theorem volumes_crowdedCloud_attach (n : Nat) :
    ((crowdedCloud n).setServerUUIDs "vol-1" ["node-1"]).volumes =
      ⟨"vol-1", "pvc-1", 5, "ssd", ["node-1"]⟩ :: (List.range n).map crowdVolume := by
  simp only [Cloud.setServerUUIDs, Cloud.modify, crowdedCloud, List.map_cons, List.map_map,
    if_true]
  refine congrArg _ (List.map_congr_left fun i _ => ?_)
  simp only [Function.comp_apply, crowdVolume_uuid_ne i, if_false]

/-- With a limit of `n + 1` and `node-1` holding `n` other volumes, publishing `vol-1` to it
    succeeds and fills the node; the same publish again fails with `ResourceExhausted`. -/
theorem controllerPublishVolume_repeat_refused (n : Nat) :
    Rpc.exec (fake (n + 1) "vol-2") (controllerPublishVolume exampleNames (publishTo "node-1"))
        (crowdedCloud n) =
      some (.ok ⟨publishContextOf exampleNames "pvc-1" []⟩,
        (crowdedCloud n).setServerUUIDs "vol-1" ["node-1"]) ∧
    Rpc.exec (fake (n + 1) "vol-2") (controllerPublishVolume exampleNames (publishTo "node-1"))
        ((crowdedCloud n).setServerUUIDs "vol-1" ["node-1"]) =
      some (.error (.status .resourceExhausted ⟨maxVolumesError.text, []⟩),
        (crowdedCloud n).setServerUUIDs "vol-1" ["node-1"]) := by
  have hc : controllerPublishVolumeChecks (publishTo "node-1") = .ok () := rfl
  have hs : (crowdedCloud n).servers = ["node-1"] := rfl
  have hv : (crowdedCloud n).get? "vol-1" = some ⟨"vol-1", "pvc-1", 5, "ssd", []⟩ := by
    simp [Cloud.get?, crowdedCloud]
  have h0 : volumesPerServer (crowdedCloud n).volumes "node-1" = n := by
    simp [crowdedCloud, volumesPerServer_cons, volumesPerServer_crowd]
  have h1 : volumesPerServer ((crowdedCloud n).setServerUUIDs "vol-1" ["node-1"]).volumes
      "node-1" = n + 1 := by
    simp [volumes_crowdedCloud_attach, volumesPerServer_cons, volumesPerServer_crowd]; omega
  constructor <;> rw [controllerPublishVolume_exec, hc] <;> simp [publishTo, hv, h0, h1, hs]

/-- The same at the limit of 128 volumes a node: the 128th publish succeeds, its repeat fails. -/
theorem controllerPublishVolume_repeat_fails_at_limit :
    Rpc.exec (fake 128 "vol-2") (controllerPublishVolume exampleNames (publishTo "node-1"))
        (crowdedCloud 127) =
      some (.ok ⟨publishContextOf exampleNames "pvc-1" []⟩,
        (crowdedCloud 127).setServerUUIDs "vol-1" ["node-1"]) ∧
    Rpc.exec (fake 128 "vol-2") (controllerPublishVolume exampleNames (publishTo "node-1"))
        ((crowdedCloud 127).setServerUUIDs "vol-1" ["node-1"]) =
      some (.error (.status .resourceExhausted ⟨maxVolumesError.text, []⟩),
        (crowdedCloud 127).setServerUUIDs "vol-1" ["node-1"]) :=
  controllerPublishVolume_repeat_refused 127

/-! ## Deleting and unpublishing twice -/

/-- The fake, with cloudscale.ch's answer to the `Delete` of an absent volume: a 404. -/
def fakeNotFound : Handler Cloud
  | .delete id, s =>
    if s.get? id = none then some (.error notFoundError, s) else fake m newId (.delete id) s
  | c, s => fake m newId c s

/-- `DeleteVolume` against `fakeNotFound`: the 404 of an absent volume is a success. -/
theorem deleteVolume_exec_notFound (req : DeleteVolumeRequest) (s : Cloud)
    (hv : req.volumeId ≠ "") :
    Rpc.exec (fakeNotFound m newId) (deleteVolume req) s =
      if s.get? req.volumeId = none then some (.ok (), s)
      else some (.ok (), s.erase req.volumeId) := by
  by_cases h : s.get? req.volumeId = none <;>
    simp [deleteVolume, hv, h, Rpc.exec_bind, fakeNotFound, fake]

/-- `ControllerUnpublishVolume` against `fakeNotFound`: detach a present volume, succeed on an
    absent one. -/
theorem controllerUnpublishVolume_exec_notFound (req : ControllerUnpublishVolumeRequest)
    (s : Cloud) (hv : req.volumeId ≠ "") :
    Rpc.exec (fakeNotFound m newId) (controllerUnpublishVolume req) s =
      match s.get? req.volumeId with
      | none => some (.ok (), s)
      | some _ => some (.ok (), s.setServerUUIDs req.volumeId []) := by
  rcases h : s.get? req.volumeId with _ | vol <;>
    simp [controllerUnpublishVolume, hv, h, Rpc.exec_bind, fakeNotFound, fake, fakeUpdate]

/-- **Delete and unpublish are safe to retry.**  Of a nonempty id absent from the store, both
    succeed and change nothing; after either succeeded, the same call succeeds again and leaves
    the store as the first one left it. -/
theorem deleteVolume_unpublish_idempotent (v n : String) (hv : v ≠ "") (s : Cloud) :
    (s.get? v = none →
      Rpc.exec (fakeNotFound m newId) (deleteVolume ⟨v⟩) s = some (.ok (), s) ∧
      Rpc.exec (fakeNotFound m newId) (controllerUnpublishVolume ⟨v, n⟩) s = some (.ok (), s)) ∧
    (∀ s1, Rpc.exec (fakeNotFound m newId) (deleteVolume ⟨v⟩) s = some (.ok (), s1) →
      Rpc.exec (fakeNotFound m newId) (deleteVolume ⟨v⟩) s1 = some (.ok (), s1)) ∧
    (∀ s1, Rpc.exec (fakeNotFound m newId) (controllerUnpublishVolume ⟨v, n⟩) s =
        some (.ok (), s1) →
      Rpc.exec (fakeNotFound m newId) (controllerUnpublishVolume ⟨v, n⟩) s1 =
        some (.ok (), s1)) := by
  simp only [deleteVolume_exec_notFound m newId ⟨v⟩ _ hv,
    controllerUnpublishVolume_exec_notFound m newId ⟨v, n⟩ _ hv]
  refine ⟨fun h => by simp [h], fun s1 h => ?_, fun s1 h => ?_⟩
  · -- delete: the second call finds the volume gone, or absent as before
    split at h <;> cases h
    · simp [*]
    · simp [Cloud.get?_erase_self]
  · -- unpublish: the second call detaches a detached volume
    rcases hs : s.get? v with _ | vol <;> simp only [hs] at h <;> cases h
    · simp [hs]
    · simp [hs, Cloud.uuid_of_get? hs, Cloud.setServerUUIDs_idem]

/-- Deleting and unpublishing `vol-1`: on the empty store, where it is absent, and on
    `attachedCloud`, where it is attached to `node-1`. -/
theorem deleteVolume_unpublish_idempotent_vol1 :
    "vol-1" ≠ "" ∧
    (Cloud.empty.get? "vol-1" = none ∧
      Rpc.exec (fakeNotFound 128 "vol-2") (deleteVolume ⟨"vol-1"⟩) Cloud.empty =
        some (.ok (), Cloud.empty) ∧
      Rpc.exec (fakeNotFound 128 "vol-2") (controllerUnpublishVolume ⟨"vol-1", "node-1"⟩)
        Cloud.empty = some (.ok (), Cloud.empty)) ∧
    (∃ s1, Rpc.exec (fakeNotFound 128 "vol-2") (deleteVolume ⟨"vol-1"⟩) attachedCloud =
        some (.ok (), s1) ∧
      Rpc.exec (fakeNotFound 128 "vol-2") (deleteVolume ⟨"vol-1"⟩) s1 = some (.ok (), s1)) ∧
    (∃ s1, Rpc.exec (fakeNotFound 128 "vol-2") (controllerUnpublishVolume ⟨"vol-1", "node-1"⟩)
        attachedCloud = some (.ok (), s1) ∧
      Rpc.exec (fakeNotFound 128 "vol-2") (controllerUnpublishVolume ⟨"vol-1", "node-1"⟩) s1 =
        some (.ok (), s1)) :=
  have hempty := deleteVolume_unpublish_idempotent 128 "vol-2" "vol-1" "node-1" (by decide)
    Cloud.empty
  have hattached := deleteVolume_unpublish_idempotent 128 "vol-2" "vol-1" "node-1" (by decide)
    attachedCloud
  ⟨by decide, ⟨rfl, hempty.1 rfl⟩, ⟨_, rfl, hattached.2.1 _ rfl⟩, ⟨_, rfl, hattached.2.2 _ rfl⟩⟩

/-! ## Expanding twice -/

/-- **A repeated expand changes nothing, and asks the node to expand.**  After a successful
    `ControllerExpandVolume`, the same request again leaves the store as it is and answers with
    the same capacity, but with `NodeExpansionRequired` set: it finds the volume at the size asked
    for and takes the early return, which sets it whatever the capability. -/
theorem controllerExpandVolume_repeat {req : ControllerExpandVolumeRequest} {s s1 : Cloud}
    {y : ControllerExpandVolumeResponse}
    (h : Rpc.exec (fake m newId) (controllerExpandVolume req) s = some (.ok y, s1)) :
    Rpc.exec (fake m newId) (controllerExpandVolume req) s1 =
      some (.ok ⟨y.capacityBytes, true⟩, s1) := by
  rw [controllerExpandVolume_exec] at h ⊢
  split at h
  · cases h
  rename_i hlen
  rw [if_neg hlen]
  rcases hv : s.get? req.volumeId with _ | vol <;> simp only [hv] at h
  · cases h
  rcases hn : calculateStorageGB req.capacityRange vol.type with err | n <;> simp only [hn] at h
  · cases h
  split at h <;> cases h
  · -- the first call found the size already reached, and changed nothing
    simp [hv, hn, *]
  · -- the first call resized; the second finds the new size
    simp [hv, Cloud.uuid_of_get? hv, hn]

/-- Grow the raw block volume `vol-1` to 10 GB. -/
def expandBlockRequest : ControllerExpandVolumeRequest :=
  ⟨"vol-1", some ⟨10737418240, 0⟩, some ⟨.singleNodeWriter, some .block⟩⟩

/-- Expanding the raw block volume `vol-1` twice: the first call answers that the node need not
    expand, the repeat that it must. -/
theorem controllerExpandVolume_repeat_block :
    Rpc.exec (fake 128 "vol-2") (controllerExpandVolume expandBlockRequest) pvcCloud =
      some (.ok ⟨10 * gb, false⟩, pvcCloud.setSizeGB "vol-1" 10) ∧
    Rpc.exec (fake 128 "vol-2") (controllerExpandVolume expandBlockRequest)
        (pvcCloud.setSizeGB "vol-1" 10) =
      some (.ok ⟨10 * gb, true⟩, pvcCloud.setSizeGB "vol-1" 10) :=
  have h : Rpc.exec (fake 128 "vol-2") (controllerExpandVolume expandBlockRequest) pvcCloud =
      some (.ok ⟨10 * gb, false⟩, pvcCloud.setSizeGB "vol-1" 10) := by
    rw [controllerExpandVolume_exec]; rfl
  ⟨h, controllerExpandVolume_repeat 128 "vol-2" h⟩

end CsiCloudscale
