/-
  The controller as a system: runs of requests against the fake, and what holds along them.

  A `World` is the fake's store together with every UUID the fake has drawn so far, a ghost
  that the fake's `randString(32)` stands for: a drawn UUID is never drawn again, so a volume
  that has been deleted never comes back under its UUID.  The world carries as a field that
  every stored UUID has been drawn.  A `Step` serves one request of any kind with any content,
  successful or not; `Reachable` is any finite sequence of steps.

  Three results over whole runs follow from the effect lemmas of `Frame.lean`:

  * the store invariant `Cloud.Consistent` (names unique, at most one attached server, sizes a
    whole number of steps) holds in every world a run reaches from a consistent one; the
    contract's stronger predicate, with every size positive, does not: a create with only a limit
    stores a volume of size 0 (`createVolume_limit_only_zero_size`);
  * a publish to another node moves an attached volume there (`controllerPublishVolume_reattaches`);
  * along any run every volume keeps its name under its UUID (`World.Descends`), so a publish of a
    created volume, however much later, answers with the name the create put into the volume
    context (`controllerPublishVolume_echoes_context`).
-/
import Mathlib.Algebra.Order.Ring.Int
import Mathlib.Logic.Relation
import CsiCloudscale.Frame

namespace CsiCloudscale

open Csi Cloudscale

/-- The controller's world: the fake's store, and every UUID the fake has drawn. -/
structure World where
  cloud : Cloud
  issued : List String
  uuids_issued : cloud.uuids ⊆ issued

variable (K : Names) (d : Driver) (m : Nat)

/-- One request served against the fake, which draws a UUID it has never drawn before. -/
inductive Step : World → World → Prop
  | serve (r : Request) (newId : String) {w w' : World} {res : Except Csi.Error Unit}
      (hfresh : newId ∉ w.issued)
      (h : Rpc.exec (fake m newId) (r.rpc K d) w.cloud = some (res, w'.cloud))
      (hi : w'.issued = newId :: w.issued) : Step w w'

/-- The worlds a finite run of requests leads to. -/
def Reachable : World → World → Prop := Relation.ReflTransGen (Step K d m)

/-- Serving a request stores no volume under a UUID other than the stored ones and the drawn
    one. -/
theorem serve_uuids_subset (r : Request) {newId : String} {s s' : Cloud}
    {res : Except Csi.Error Unit} (h : Rpc.exec (fake m newId) (r.rpc K d) s = some (res, s')) :
    s'.uuids ⊆ newId :: s.uuids := by
  have hs := List.subset_cons_self newId s.uuids
  cases r <;> simp only [Request.rpc] at h
  case createVolume =>
    obtain ⟨_, h⟩ := Rpc.exec_of_exec_discard h
    obtain rfl | ⟨n, st, luks, -, -, rfl⟩ := createVolume_effect K d m newId h
    exacts [hs, Cloud.uuids_put_subset _ _]
  case deleteVolume =>
    obtain rfl | rfl := deleteVolume_effect m newId h
    exacts [hs, (Cloud.uuids_erase_subset _ _).trans hs]
  case controllerPublishVolume =>
    obtain ⟨_, h⟩ := Rpc.exec_of_exec_discard h
    obtain rfl | rfl := controllerPublishVolume_effect K m newId h <;> simp [Cloud.setServerUUIDs]
  case controllerUnpublishVolume =>
    obtain rfl | rfl := controllerUnpublishVolume_effect m newId h <;>
      simp [Cloud.setServerUUIDs]
  case validateVolumeCapabilities =>
    obtain ⟨_, h⟩ := Rpc.exec_of_exec_discard h
    rw [validateVolumeCapabilities_effect m newId h]; exact hs
  case listVolumes =>
    obtain ⟨_, h⟩ := Rpc.exec_of_exec_discard h
    rw [listVolumes_effect m newId h]; exact hs
  case controllerExpandVolume =>
    obtain ⟨_, h⟩ := Rpc.exec_of_exec_discard h
    obtain rfl | ⟨vol, n, -, -, -, rfl⟩ := controllerExpandVolume_effect m newId h <;>
      simp [Cloud.setSizeGB]

/-! ## The store invariant -/

/-- The store invariant the controller keeps: no two volumes share a name, a volume is attached
    to at most one server, and its size is a whole number of its type's steps. -/
structure Cloud.Consistent (s : Cloud) : Prop where
  names_nodup : (s.volumes.map (·.name)).Nodup
  servers_le_one : ∀ v ∈ s.volumes, v.serverUUIDs.length ≤ 1
  step_dvd : ∀ v ∈ s.volumes, stepOf v.type ∣ v.sizeGB.val

/-- The predicate of the controller's contract: the invariant, and every size positive. -/
def Cloud.Healthy (s : Cloud) : Prop :=
  s.Consistent ∧ ∀ v ∈ s.volumes, 0 < v.sizeGB.val

namespace Cloud.Consistent

variable {s : Cloud} (hs : s.Consistent)
include hs

theorem erase (id : String) : (s.erase id).Consistent where
  names_nodup := ((List.filter_sublist _).map _).nodup hs.names_nodup
  servers_le_one v hv := hs.servers_le_one v (mem_erase.mp hv).1
  step_dvd v hv := hs.step_dvd v (mem_erase.mp hv).1

/-- A change of the volume `id` that keeps its name and keeps it attached to at most one server
    and a whole number of steps keeps the invariant. -/
theorem modify {id : String} {f : Cloudscale.Volume → Cloudscale.Volume} {hf}
    (hg : ∀ v ∈ s.volumes, v.uuid = id → (f v).name = v.name ∧
      (f v).serverUUIDs.length ≤ 1 ∧ stepOf (f v).type ∣ (f v).sizeGB.val) :
    (s.modify id f hf).Consistent where
  names_nodup := by
    have : (s.modify id f hf).volumes.map (·.name) = s.volumes.map (·.name) := by
      simp only [Cloud.modify, List.map_map]
      exact List.map_congr_left fun v hv => by
        dsimp only [Function.comp]; split
        · exact (hg v hv ‹_›).1
        · rfl
    rw [this]; exact hs.names_nodup
  servers_le_one w hw := by
    obtain ⟨v, hv, rfl⟩ := mem_modify.mp hw
    split
    exacts [(hg v hv ‹_›).2.1, hs.servers_le_one v hv]
  step_dvd w hw := by
    obtain ⟨v, hv, rfl⟩ := mem_modify.mp hw
    split
    exacts [(hg v hv ‹_›).2.2, hs.step_dvd v hv]

/-- Storing a volume under a name no volume has, attached to at most one server and of a whole
    number of steps, keeps the invariant. -/
theorem put {vol : Cloudscale.Volume} (hn : s.volumes.filter (·.name = vol.name) = [])
    (h1 : vol.serverUUIDs.length ≤ 1) (h2 : stepOf vol.type ∣ vol.sizeGB.val) :
    (s.put vol).Consistent where
  names_nodup := by
    rw [List.filter_eq_nil_iff] at hn
    simp only [Cloud.put, List.map_append, List.nodup_append, List.map_cons, List.map_nil,
      List.nodup_singleton, List.disjoint_singleton, List.mem_map, List.mem_filter, not_exists,
      not_and, true_and]
    exact ⟨((List.filter_sublist _).map _).nodup hs.names_nodup,
      fun v hv he => hn v hv.1 (by simpa using he)⟩
  servers_le_one v hv := (mem_put.mp hv).elim (fun h => hs.servers_le_one v h.1) (· ▸ h1)
  step_dvd v hv := (mem_put.mp hv).elim (fun h => hs.step_dvd v h.1) (· ▸ h2)

end Cloud.Consistent

/-- Serving any request against the fake keeps the store invariant. -/
theorem consistent_of_serve (r : Request) {newId : String} {s s' : Cloud}
    {res : Except Csi.Error Unit} (hs : s.Consistent)
    (h : Rpc.exec (fake m newId) (r.rpc K d) s = some (res, s')) : s'.Consistent := by
  cases r <;> simp only [Request.rpc] at h
  case createVolume =>
    obtain ⟨_, h⟩ := Rpc.exec_of_exec_discard h
    obtain rfl | ⟨n, st, luks, hc, hv, rfl⟩ := createVolume_effect K d m newId h
    exacts [hs, hs.put hv (by simp [createdVolume])
      (stepOf_dvd_of_ok (calculateStorageGB_of_createVolumeChecks K d hc))]
  case deleteVolume =>
    obtain rfl | rfl := deleteVolume_effect m newId h
    exacts [hs, hs.erase _]
  case controllerPublishVolume =>
    obtain ⟨_, h⟩ := Rpc.exec_of_exec_discard h
    obtain rfl | rfl := controllerPublishVolume_effect K m newId h
    exacts [hs, hs.modify fun v hv _ => ⟨rfl, by simp, hs.step_dvd v hv⟩]
  case controllerUnpublishVolume =>
    obtain rfl | rfl := controllerUnpublishVolume_effect m newId h
    exacts [hs, hs.modify fun v hv _ => ⟨rfl, by simp, hs.step_dvd v hv⟩]
  case validateVolumeCapabilities =>
    obtain ⟨_, h⟩ := Rpc.exec_of_exec_discard h
    exact validateVolumeCapabilities_effect m newId h ▸ hs
  case listVolumes =>
    obtain ⟨_, h⟩ := Rpc.exec_of_exec_discard h
    exact listVolumes_effect m newId h ▸ hs
  case controllerExpandVolume =>
    obtain ⟨_, h⟩ := Rpc.exec_of_exec_discard h
    obtain rfl | ⟨vol, n, hv, hn, -, rfl⟩ := controllerExpandVolume_effect m newId h
    · exact hs
    · -- the resized volume is the one looked up, and the new size is whole steps of its type
      refine hs.modify fun v hv' hu => ⟨rfl, hs.servers_le_one v hv', ?_⟩
      obtain rfl := Cloud.eq_of_uuid_eq hv' (Cloud.mem_of_get? hv)
        (hu.trans (Cloud.uuid_of_get? hv).symm)
      exact stepOf_dvd_of_ok hn

theorem Step.keeps_consistent {w w' : World} (h : Step K d m w w') (hw : w.cloud.Consistent) :
    w'.cloud.Consistent := by
  obtain ⟨r, newId, -, h, -⟩ := h
  exact consistent_of_serve K d m r hw h

/-- Every world a run reaches from a consistent store has a consistent store. -/
theorem Reachable.consistent {w w' : World} (h : Reachable K d m w w')
    (hw : w.cloud.Consistent) : w'.cloud.Consistent := by
  induction h with
  | refl => exact hw
  | tail _ hs ih => exact hs.keeps_consistent K d m ih

/-- The fake with nothing in it, as a world. -/
def emptyWorld : World := ⟨Cloud.empty, [], List.nil_subset _⟩

/-- A request for `pvc-1` with only a limit, of 1 GiB, and no required size. -/
def limitOnlyRequest : CreateVolumeRequest :=
  ⟨"pvc-1", some ⟨0, 1073741824⟩, [⟨.singleNodeWriter, some .mount⟩], [], none⟩

/-- The world after `limitOnlyRequest`: an `ssd` volume of 0 GB. -/
def zeroSizeWorld : World :=
  ⟨⟨[⟨"vol-1", "pvc-1", 0, "ssd", []⟩], [], by decide⟩, ["vol-1"], fun _ h => h⟩

/-- **A create with only a limit stores a volume of size 0.**  With no required size the size is
    rounded up from 0 bytes, to 0 steps, which no limit check rejects.  From the empty fake, which
    satisfies the contract's predicate, one step reaches a store that does not. -/
theorem createVolume_limit_only_zero_size :
    Step K d m emptyWorld zeroSizeWorld ∧ emptyWorld.cloud.Healthy ∧
      ¬ zeroSizeWorld.cloud.Healthy :=
  have h : Rpc.exec (fake m "vol-1") ((Request.createVolume limitOnlyRequest).rpc K d)
      Cloud.empty = some (.ok (), ⟨[⟨"vol-1", "pvc-1", 0, "ssd", []⟩], [], by decide⟩) := rfl
  ⟨.serve (.createVolume limitOnlyRequest) "vol-1" (by decide) h rfl,
    ⟨⟨List.nodup_nil, (fun _ h => nomatch h), (fun _ h => nomatch h)⟩, (fun _ h => nomatch h)⟩,
    fun h => absurd (h.2 ⟨"vol-1", "pvc-1", 0, "ssd", []⟩ (List.mem_singleton_self _))
      (by simp)⟩

/-- The one-step run to `zeroSizeWorld` keeps the store invariant, though not the contract's
    predicate. -/
theorem reachable_consistent_zero_size :
    Reachable exampleNames exampleDriver 128 emptyWorld zeroSizeWorld ∧
      emptyWorld.cloud.Consistent ∧ zeroSizeWorld.cloud.Consistent :=
  have h : Rpc.exec (fake 128 "vol-1")
      ((Request.createVolume limitOnlyRequest).rpc exampleNames exampleDriver) Cloud.empty =
        some (.ok (), ⟨[⟨"vol-1", "pvc-1", 0, "ssd", []⟩], [], by decide⟩) := rfl
  have hr : Reachable exampleNames exampleDriver 128 emptyWorld zeroSizeWorld :=
    .single (.serve (.createVolume limitOnlyRequest) "vol-1" (by decide) h rfl)
  have hc : emptyWorld.cloud.Consistent :=
    ⟨List.nodup_nil, (fun _ h => nomatch h), (fun _ h => nomatch h)⟩
  ⟨hr, hc, Reachable.consistent exampleNames exampleDriver 128 hr hc⟩

/-! ## Publishing an attached volume -/

variable (newId : String)

/-- **A publish moves an attached volume.**  Whatever servers the volume is attached to, a
    publish to a known node below the attach limit succeeds and leaves the volume attached to
    that node alone. -/
theorem controllerPublishVolume_reattaches {req : ControllerPublishVolumeRequest} {s : Cloud}
    {vol : Cloudscale.Volume} (hc : controllerPublishVolumeChecks req = .ok ())
    (hv : s.get? req.volumeId = some vol) (hn : req.nodeId ∈ s.servers)
    (hm : volumesPerServer s.volumes req.nodeId < m) :
    Rpc.exec (fake m newId) (controllerPublishVolume K req) s =
      some (.ok ⟨publishContextOf K vol.name req.volumeContext⟩,
        s.setServerUUIDs req.volumeId [req.nodeId]) ∧
    ((s.setServerUUIDs req.volumeId [req.nodeId]).get? req.volumeId).map (·.serverUUIDs) =
      some [req.nodeId] := by
  rw [controllerPublishVolume_exec, hc, hv]
  simp [hn, Nat.not_le.mpr hm, hv, Cloud.uuid_of_get? hv]

/-- A store with the volume `vol-1` attached to `node-1`, and a second node `node-2`. -/
def attachedCloud : Cloud :=
  ⟨[⟨"vol-1", "pvc-1", 5, "ssd", ["node-1"]⟩], ["node-1", "node-2"], by decide⟩

/-- Publish `vol-1` to `node`. -/
def publishTo (node : String) : ControllerPublishVolumeRequest :=
  ⟨"vol-1", node, some ⟨.singleNodeWriter, some .mount⟩, false, []⟩

theorem controllerPublishVolume_reattaches_node2 :
    (attachedCloud.get? "vol-1").map (·.serverUUIDs) = some ["node-1"] ∧
    Rpc.exec (fake 128 "vol-2") (controllerPublishVolume exampleNames (publishTo "node-2"))
        attachedCloud =
      some (.ok ⟨publishContextOf exampleNames "pvc-1" []⟩,
        attachedCloud.setServerUUIDs "vol-1" ["node-2"]) ∧
    ((attachedCloud.setServerUUIDs "vol-1" ["node-2"]).get? "vol-1").map (·.serverUUIDs) =
      some ["node-2"] :=
  have hc : controllerPublishVolumeChecks (publishTo "node-2") = .ok () := rfl
  have hv : attachedCloud.get? (publishTo "node-2").volumeId =
      some ⟨"vol-1", "pvc-1", 5, "ssd", ["node-1"]⟩ := rfl
  ⟨rfl, controllerPublishVolume_reattaches exampleNames 128 "vol-2" hc hv (by decide)
    (by decide)⟩

/-- A store with the volume `vol-1`, not attached, and two nodes. -/
def twoNodeCloud : Cloud :=
  ⟨[⟨"vol-1", "pvc-1", 5, "ssd", []⟩], ["node-1", "node-2"], by decide⟩

/-- **Two publishes to two nodes both succeed.**  Published to `node-1`, the volume is attached
    there; published next to `node-2`, with no unpublish between, it is attached to `node-2`. -/
theorem controllerPublishVolume_moves_attached_volume :
    Rpc.exec (fake 128 "vol-2") (controllerPublishVolume exampleNames (publishTo "node-1"))
        twoNodeCloud =
      some (.ok ⟨publishContextOf exampleNames "pvc-1" []⟩,
        twoNodeCloud.setServerUUIDs "vol-1" ["node-1"]) ∧
    ((twoNodeCloud.setServerUUIDs "vol-1" ["node-1"]).get? "vol-1").map (·.serverUUIDs) =
      some ["node-1"] ∧
    Rpc.exec (fake 128 "vol-2") (controllerPublishVolume exampleNames (publishTo "node-2"))
        (twoNodeCloud.setServerUUIDs "vol-1" ["node-1"]) =
      some (.ok ⟨publishContextOf exampleNames "pvc-1" []⟩,
        twoNodeCloud.setServerUUIDs "vol-1" ["node-2"]) ∧
    ((twoNodeCloud.setServerUUIDs "vol-1" ["node-2"]).get? "vol-1").map (·.serverUUIDs) =
      some ["node-2"] :=
  ⟨rfl, rfl, rfl, rfl⟩

/-! ## Names along a run -/

/-- `v` grows to `w` through `v'`. -/
theorem Cloudscale.Volume.GrowsTo.trans {v v' w : Cloudscale.Volume} (h : v.GrowsTo v')
    (h' : v'.GrowsTo w) : v.GrowsTo w :=
  ⟨h'.1.trans h.1, h'.2.1.trans h.2.1, (Int64.le_iff _ _).mpr
    (le_trans ((Int64.le_iff _ _).mp h.2.2) ((Int64.le_iff _ _).mp h'.2.2))⟩

/-- Every UUID `w` has drawn is still drawn in `w'`, and every volume of `w'` under such a UUID
    is a volume of `w`, grown. -/
def World.Descends (w w' : World) : Prop :=
  w.issued ⊆ w'.issued ∧ ∀ v' ∈ w'.cloud.volumes, v'.uuid ∈ w.issued →
    ∃ v ∈ w.cloud.volumes, v.uuid = v'.uuid ∧ v.GrowsTo v'

theorem World.descends_refl (w : World) : w.Descends w :=
  ⟨List.Subset.refl _, fun v' hv' _ => ⟨v', hv', rfl, v'.growsTo_refl⟩⟩

theorem World.Descends.trans {w w' w'' : World} (h : w.Descends w') (h' : w'.Descends w'') :
    w.Descends w'' := by
  refine ⟨h.1.trans h'.1, fun v'' hv'' hu => ?_⟩
  obtain ⟨v', hv', hu', hg'⟩ := h'.2 v'' hv'' (h.1 hu)
  obtain ⟨v, hv, hu0, hg⟩ := h.2 v' hv' (hu' ▸ hu)
  exact ⟨v, hv, hu0.trans hu', hg.trans hg'⟩

/-- One step: a volume under a UUID drawn before the step was stored before it, since the step
    draws a new UUID; and the step's footprint grows it. -/
theorem Step.descends {w w' : World} (h : Step K d m w w') : w.Descends w' := by
  obtain ⟨r, newId, hfresh, h, hi⟩ := h
  have hk := (serve_footprint K d m newId r (fun hm => hfresh (w.uuids_issued hm)) h).keeps
  refine ⟨hi ▸ List.subset_cons_self _ _, fun v' hv' hu => ?_⟩
  obtain he | hm := List.mem_cons.mp (serve_uuids_subset K d m r h (List.mem_map_of_mem _ hv'))
  · exact absurd (he ▸ hu) hfresh
  · obtain ⟨v, hv, hvu⟩ := List.mem_map.mp hm
    exact ⟨v, hv, hvu, hk v hv v' hv' hvu.symm⟩

theorem Reachable.descends {w w' : World} (h : Reachable K d m w w') : w.Descends w' := by
  induction h with
  | refl => exact World.descends_refl _
  | tail _ hs ih => exact ih.trans (hs.descends K d m)

/-- **Publish echoes the create's volume context.**  After a `CreateVolume` that succeeds with
    volume context `ctx`, and any run of requests, a `ControllerPublishVolume` of the returned
    volume id with `ctx` that succeeds answers with a publish context that agrees with `ctx` on
    the volume-name key and on the three LUKS keys. -/
theorem controllerPublishVolume_echoes_context {s0 : Cloud} {w1 w2 : World}
    {req : CreateVolumeRequest} {x : CreateVolumeResponse} {newId' : String}
    {preq : ControllerPublishVolumeRequest} {y : ControllerPublishVolumeResponse} {s3 : Cloud}
    (hc : Rpc.exec (fake m newId) (createVolume K d req) s0 = some (.ok x, w1.cloud))
    (hrun : Reachable K d m w1 w2)
    (hp : Rpc.exec (fake m newId') (controllerPublishVolume K preq) w2.cloud = some (.ok y, s3))
    (hid : preq.volumeId = x.volume.volumeId) (hctx : preq.volumeContext = x.volume.volumeContext) :
    ∀ key ∈ [K.publishInfoVolumeName, K.luksEncryptedAttribute, K.luksCipherAttribute,
      K.luksKeySizeAttribute], y.publishContext.get key = x.volume.volumeContext.get key := by
  obtain ⟨n, st, luks, vol, -, hv, -, rfl⟩ := createVolume_ok K d m hc
  have hvm : vol ∈ w1.cloud.volumes ∧ vol.name = req.name :=
    have h := List.mem_filter.mp (hv ▸ List.mem_singleton_self vol : vol ∈ _)
    ⟨h.1, of_decide_eq_true h.2⟩
  obtain ⟨-, vol2, hg, -, -, rfl, -⟩ := controllerPublishVolume_ok K m newId' hp
  have hu : vol2.uuid = vol.uuid := (Cloud.uuid_of_get? hg).trans hid
  -- the volume published is the volume created, grown: it has kept its name
  have hname : vol2.name = req.name := by
    obtain ⟨v, hv1, hvu, hgrow⟩ := (hrun.descends K d m).2 vol2 (Cloud.mem_of_get? hg)
      (hu ▸ w1.uuids_issued (List.mem_map_of_mem _ hvm.1))
    rw [hgrow.1, Cloud.eq_of_uuid_eq hv1 hvm.1 (hvu.trans hu), hvm.2]
  intro key hkey
  rcases List.mem_cons.mp hkey with rfl | hkey
  · simp [hname]
  · rw [get_publishContextOf_luks K _ _ hkey, hctx]

/-- A fake with one node and no volume. -/
def nodeCloud : Cloud := ⟨[], ["node-1"], List.nodup_nil⟩

/-- The world after `pvcRequest` on `nodeCloud`, with the UUID `vol-1` drawn. -/
def pvcWorld : World :=
  ⟨⟨[⟨"vol-1", "pvc-1", 5, "ssd", []⟩], ["node-1"], by decide⟩, ["vol-1"], fun _ h => h⟩

/-- The world after `expandRequest` on `pvcWorld`, with the UUID `vol-2` drawn. -/
def expandedWorld : World :=
  ⟨pvcWorld.cloud.setSizeGB "vol-1" 10, ["vol-2", "vol-1"], by decide⟩

/-- Publish `vol-1` to `node-1` with the volume context `pvcRequest` was answered with. -/
def echoRequest : ControllerPublishVolumeRequest :=
  ⟨"vol-1", "node-1", some ⟨.singleNodeWriter, some .mount⟩, false,
    pvcResponse.volume.volumeContext⟩

theorem controllerPublishVolume_echoes_context_pvc :
    Rpc.exec (fake 128 "vol-1") (createVolume exampleNames exampleDriver pvcRequest) nodeCloud =
      some (.ok pvcResponse, pvcWorld.cloud) ∧
    Reachable exampleNames exampleDriver 128 pvcWorld expandedWorld ∧
    Rpc.exec (fake 128 "vol-3") (controllerPublishVolume exampleNames echoRequest)
        expandedWorld.cloud =
      some (.ok ⟨publishContextOf exampleNames "pvc-1" pvcResponse.volume.volumeContext⟩,
        expandedWorld.cloud.setServerUUIDs "vol-1" ["node-1"]) ∧
    ∀ key ∈ [exampleNames.publishInfoVolumeName, exampleNames.luksEncryptedAttribute,
      exampleNames.luksCipherAttribute, exampleNames.luksKeySizeAttribute],
      (publishContextOf exampleNames "pvc-1" pvcResponse.volume.volumeContext).get key =
        pvcResponse.volume.volumeContext.get key :=
  have hc : Rpc.exec (fake 128 "vol-1") (createVolume exampleNames exampleDriver pvcRequest)
      nodeCloud = some (.ok pvcResponse, pvcWorld.cloud) := rfl
  have hrun : Reachable exampleNames exampleDriver 128 pvcWorld expandedWorld :=
    .single (.serve (.controllerExpandVolume expandRequest) "vol-2" (by decide) rfl rfl)
  have hp : Rpc.exec (fake 128 "vol-3") (controllerPublishVolume exampleNames echoRequest)
      expandedWorld.cloud =
      some (.ok ⟨publishContextOf exampleNames "pvc-1" pvcResponse.volume.volumeContext⟩,
        expandedWorld.cloud.setServerUUIDs "vol-1" ["node-1"]) := rfl
  ⟨hc, hrun, hp, controllerPublishVolume_echoes_context exampleNames exampleDriver 128 "vol-1"
    hc hrun hp rfl rfl⟩

end CsiCloudscale
