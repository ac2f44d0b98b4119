/-
  The in-memory backend of `driver_test.go`: `FakeVolumeServiceOperations` and
  `FakeServerServiceOperations`, as a `Handler`.

  The fake keeps its volumes in a Go map keyed by UUID and its servers in another.  A `Cloud` is
  that state: the volumes as a list (the map's key is each volume's `uuid`, so the UUIDs are
  distinct, which the structure carries as a field) and the ids of the servers.  Go iterates a
  map in a random order; the model iterates the list in order, and nothing the controller
  returns depends on the order except the order of `ListVolumes` entries.

  `Create` draws its UUID with `randString(32)`; the handler takes that UUID as a parameter
  (`newId`), so every statement about a create holds for whatever UUID is drawn.  A call on which
  the fake panics (`panic("implement me")`) answers `none`.  `defaultMaxVolumesPerNode`, which
  the fake reads, is declared in a file of the package outside this model: it is the parameter
  `maxVolumesPerNode`.
-/
import Mathlib.Algebra.Order.Ring.Int
import Mathlib.Data.List.Nodup
import CsiCloudscale.Cloudscale

namespace CsiCloudscale

open Cloudscale

/-- The fake's state: its volumes, keyed by UUID, and the ids of its servers. -/
structure Cloud where
  volumes : List Volume
  servers : List String
  uuids_nodup : (volumes.map (·.uuid)).Nodup

namespace Cloud

/-- The fake as `NewFakeClient` starts it, with no servers. -/
def empty : Cloud := ⟨[], [], List.nodup_nil⟩

/-- The UUIDs of the stored volumes: the keys of `f.volumes`. -/
def uuids (s : Cloud) : List String := s.volumes.map (·.uuid)

/-- `f.volumes[id]`. -/
def get? (s : Cloud) (id : String) : Option Volume := s.volumes.find? (·.uuid = id)

/-- `f.volumes[vol.UUID] = vol`. -/
def put (s : Cloud) (vol : Volume) : Cloud where
  volumes := s.volumes.filter (·.uuid ≠ vol.uuid) ++ [vol]
  servers := s.servers
  uuids_nodup := by
    rw [List.map_append, List.nodup_append]
    refine ⟨((List.filter_sublist _).map _).nodup s.uuids_nodup, List.nodup_singleton _, ?_⟩
    simp [List.disjoint_singleton]

/-- A change that keeps every UUID keeps the list of UUIDs. -/
theorem map_uuid_modify (s : Cloud) (id : String) {f : Volume → Volume}
    (hf : ∀ v, (f v).uuid = v.uuid) :
    (s.volumes.map fun v => if v.uuid = id then f v else v).map (·.uuid) = s.uuids := by
  simp only [List.map_map, uuids]
  exact List.map_congr_left fun v _ => by dsimp only [Function.comp]; split <;> simp [hf]

/-- Change the stored volume `id` by a change that keeps its UUID (`vol.X = ...` through the
    pointer the map holds). -/
def modify (s : Cloud) (id : String) (f : Volume → Volume) (hf : ∀ v, (f v).uuid = v.uuid) :
    Cloud where
  volumes := s.volumes.map fun v => if v.uuid = id then f v else v
  servers := s.servers
  uuids_nodup := by rw [map_uuid_modify s id hf]; exact s.uuids_nodup

/-- `delete(f.volumes, id)`. -/
def erase (s : Cloud) (id : String) : Cloud where
  volumes := s.volumes.filter (·.uuid ≠ id)
  servers := s.servers
  uuids_nodup := ((List.filter_sublist _).map _).nodup s.uuids_nodup

/-- `vol.ServerUUIDs = &serverUUIDs`. -/
def setServerUUIDs (s : Cloud) (id : String) (serverUUIDs : List String) : Cloud :=
  s.modify id (fun v => { v with serverUUIDs }) fun _ => rfl

/-- `vol.SizeGB = sizeGB`. -/
def setSizeGB (s : Cloud) (id : String) (sizeGB : Int64) : Cloud :=
  s.modify id (fun v => { v with sizeGB }) fun _ => rfl

@[ext] theorem ext {s t : Cloud} (hv : s.volumes = t.volumes) (hs : s.servers = t.servers) :
    s = t := by
  cases s; cases t; cases hv; cases hs; rfl

/-! ## Lookup by UUID -/

/-- Two stored volumes with one UUID are the same volume. -/
theorem eq_of_uuid_eq {s : Cloud} {v w : Volume} (hv : v ∈ s.volumes) (hw : w ∈ s.volumes)
    (h : v.uuid = w.uuid) : v = w :=
  List.inj_on_of_nodup_map s.uuids_nodup hv hw h

theorem get?_eq_some_iff {s : Cloud} {id : String} {v : Volume} :
    s.get? id = some v ↔ v ∈ s.volumes ∧ v.uuid = id := by
  constructor
  · intro h
    exact ⟨List.mem_of_find?_eq_some h, by simpa using List.find?_some h⟩
  · rintro ⟨hv, rfl⟩
    obtain ⟨w, hw⟩ : ∃ w, s.get? v.uuid = some w :=
      Option.isSome_iff_exists.mp (List.find?_isSome.mpr ⟨v, hv, by simp⟩)
    rw [hw, eq_of_uuid_eq (List.mem_of_find?_eq_some hw) hv (by simpa using List.find?_some hw)]

theorem get?_eq_none_iff {s : Cloud} {id : String} :
    s.get? id = none ↔ id ∉ s.uuids := by
  simp [get?, uuids]

theorem uuid_of_get? {s : Cloud} {id : String} {v : Volume} (h : s.get? id = some v) :
    v.uuid = id :=
  (get?_eq_some_iff.mp h).2

theorem mem_of_get? {s : Cloud} {id : String} {v : Volume} (h : s.get? id = some v) :
    v ∈ s.volumes :=
  (get?_eq_some_iff.mp h).1

/-! ## The three changes -/

theorem mem_put {s : Cloud} {vol w : Volume} :
    w ∈ (s.put vol).volumes ↔ (w ∈ s.volumes ∧ w.uuid ≠ vol.uuid) ∨ w = vol := by
  simp [put]

/-- Storing a volume when no stored volume satisfies `p`: then only the new one can. -/
theorem filter_put_of_filter_eq_nil {s : Cloud} {vol : Volume} {p : Volume → Bool}
    (h : s.volumes.filter p = []) : (s.put vol).volumes.filter p = [vol].filter p := by
  rw [List.filter_eq_nil_iff] at h
  simp only [put, List.filter_append, List.filter_filter, List.append_left_eq_self,
    List.filter_eq_nil_iff, Bool.and_eq_true, not_and]
  exact fun a ha hp => absurd hp (h a ha)

/-- The stored volumes with a property after a store: the old ones but the replaced one, then
    the new one if it has the property. -/
theorem filter_put (s : Cloud) (vol : Volume) (p : Volume → Bool) :
    (s.put vol).volumes.filter p = (s.volumes.filter p).filter (·.uuid ≠ vol.uuid) ++ [vol].filter p := by
  simp only [put, List.filter_append, List.filter_filter, Bool.and_comm]

/-- Storing a volume under a UUID not in use appends it. -/
theorem volumes_put_of_fresh {s : Cloud} {vol : Volume} (h : vol.uuid ∉ s.uuids) :
    (s.put vol).volumes = s.volumes ++ [vol] := by
  simp only [put, List.append_left_inj, List.filter_eq_self, decide_eq_true_eq]
  exact fun w hw he => h (he ▸ List.mem_map_of_mem _ hw)

theorem mem_modify {s : Cloud} {id : String} {f : Volume → Volume} {hf} {w : Volume} :
    w ∈ (s.modify id f hf).volumes ↔ ∃ v ∈ s.volumes, w = if v.uuid = id then f v else v := by
  simp [modify, eq_comm]

theorem mem_erase {s : Cloud} {id : String} {w : Volume} :
    w ∈ (s.erase id).volumes ↔ w ∈ s.volumes ∧ w.uuid ≠ id := by
  simp [erase]

@[simp] theorem uuids_modify (s : Cloud) (id : String) (f : Volume → Volume) (hf) :
    (s.modify id f hf).uuids = s.uuids :=
  map_uuid_modify s id hf

theorem uuids_erase_subset (s : Cloud) (id : String) : (s.erase id).uuids ⊆ s.uuids :=
  ((List.filter_sublist _).map _).subset

theorem uuids_put_subset (s : Cloud) (vol : Volume) : (s.put vol).uuids ⊆ vol.uuid :: s.uuids := by
  intro u hu
  simp only [uuids, put, List.map_append, List.mem_append, List.mem_map, List.mem_filter,
    List.map_cons, List.map_nil, List.mem_singleton, List.mem_cons, List.not_mem_nil,
    or_false] at hu ⊢
  rcases hu with ⟨v, ⟨hv, -⟩, rfl⟩ | rfl
  exacts [.inr ⟨v, hv, rfl⟩, .inl rfl]

@[simp] theorem servers_put (s : Cloud) (vol : Volume) : (s.put vol).servers = s.servers := rfl
@[simp] theorem servers_modify (s : Cloud) (id : String) (f : Volume → Volume) (hf) :
    (s.modify id f hf).servers = s.servers := rfl
@[simp] theorem servers_erase (s : Cloud) (id : String) : (s.erase id).servers = s.servers := rfl
@[simp] theorem servers_setServerUUIDs (s : Cloud) (id : String) (l : List String) :
    (s.setServerUUIDs id l).servers = s.servers := rfl

theorem get?_erase_self (s : Cloud) (id : String) : (s.erase id).get? id = none := by
  simp [get?, erase]

/-- Setting a volume's servers twice to the same list sets them once. -/
theorem setServerUUIDs_idem (s : Cloud) (id : String) (l : List String) :
    (s.setServerUUIDs id l).setServerUUIDs id l = s.setServerUUIDs id l := by
  ext1
  · simp only [setServerUUIDs, modify, List.map_map]
    exact List.map_congr_left fun v _ => by dsimp only [Function.comp]; split <;> simp [*]
  · rfl

theorem get?_modify (s : Cloud) (id id' : String) (f : Volume → Volume) (hf) :
    (s.modify id f hf).get? id' = (s.get? id').map fun v => if v.uuid = id then f v else v := by
  simp only [get?, modify, List.find?_map]
  congr 1
  exact congrArg (List.find? · _) (funext fun v => by
    dsimp only [Function.comp]; split <;> simp [*])

@[simp] theorem get?_setServerUUIDs (s : Cloud) (id id' : String) (l : List String) :
    (s.setServerUUIDs id l).get? id' =
      (s.get? id').map fun v => if v.uuid = id then { v with serverUUIDs := l } else v :=
  get?_modify ..

@[simp] theorem get?_setSizeGB (s : Cloud) (id id' : String) (n : Int64) :
    (s.setSizeGB id n).get? id' =
      (s.get? id').map fun v => if v.uuid = id then { v with sizeGB := n } else v :=
  get?_modify ..

/-- A change of a volume that is not stored changes nothing. -/
theorem modify_of_get?_none {s : Cloud} {id : String} {f : Volume → Volume} {hf}
    (h : s.get? id = none) : s.modify id f hf = s := by
  rw [get?_eq_none_iff] at h
  ext1
  · conv_rhs => rw [← List.map_id s.volumes]
    exact List.map_congr_left fun v hv => by
      rw [if_neg fun (he : v.uuid = id) => h (he ▸ List.mem_map_of_mem _ hv)]; rfl
  · rfl

end Cloud

/-- `getVolumesPerServer`: how many attachments name the server, over all volumes. -/
def volumesPerServer (volumes : List Volume) (serverUUID : String) : Nat :=
  volumes.foldl (fun volumesCount v => v.serverUUIDs.foldl (fun volumesCount uuid =>
    if uuid = serverUUID then volumesCount + 1 else volumesCount) volumesCount) 0

theorem foldl_count_eq (l : List String) (serverUUID : String) (c : Nat) :
    l.foldl (fun c uuid => if uuid = serverUUID then c + 1 else c) c = c + l.count serverUUID := by
  induction l generalizing c with
  | nil => rfl
  | cons u l ih => by_cases h : u = serverUUID <;> simp [h, ih, List.count_cons]; omega

theorem foldl_volumesPerServer (vs : List Volume) (serverUUID : String) (c : Nat) :
    vs.foldl (fun c v => v.serverUUIDs.foldl (fun c uuid =>
      if uuid = serverUUID then c + 1 else c) c) c = c + volumesPerServer vs serverUUID := by
  induction vs generalizing c with
  | nil => rfl
  | cons v vs ih =>
    conv_rhs => rw [volumesPerServer, List.foldl_cons, ih]
    rw [List.foldl_cons, ih, foldl_count_eq, foldl_count_eq]
    omega

/-- The count of a server's attachments, one volume at a time. -/
theorem volumesPerServer_cons (v : Volume) (vs : List Volume) (serverUUID : String) :
    volumesPerServer (v :: vs) serverUUID =
      v.serverUUIDs.count serverUUID + volumesPerServer vs serverUUID := by
  conv_lhs => rw [volumesPerServer, List.foldl_cons, foldl_volumesPerServer, foldl_count_eq]
  omega

@[simp] theorem volumesPerServer_nil (serverUUID : String) : volumesPerServer [] serverUUID = 0 :=
  rfl

theorem volumesPerServer_append (vs ws : List Volume) (serverUUID : String) :
    volumesPerServer (vs ++ ws) serverUUID =
      volumesPerServer vs serverUUID + volumesPerServer ws serverUUID := by
  induction vs with
  | nil => simp
  | cons v vs ih => simp only [List.cons_append, volumesPerServer_cons, ih]; omega

/-- Dropping volumes never raises a server's count. -/
theorem volumesPerServer_le_of_sublist {vs ws : List Volume} (h : vs.Sublist ws)
    (serverUUID : String) : volumesPerServer vs serverUUID ≤ volumesPerServer ws serverUUID := by
  induction h with
  | slnil => exact le_rfl
  | cons v _ ih => rw [volumesPerServer_cons]; omega
  | cons₂ v _ ih => simp only [volumesPerServer_cons]; omega

/-- Changing the volume `id` of a list with distinct UUIDs changes a server's count by what
    leaves and what enters that one volume's server list. -/
theorem volumesPerServer_map_modify (vs : List Volume) (hvs : (vs.map (·.uuid)).Nodup)
    (id : String) (f : Volume → Volume) (serverUUID : String) :
    volumesPerServer (vs.map fun v => if v.uuid = id then f v else v) serverUUID +
        (vs.find? (·.uuid = id)).elim 0 (·.serverUUIDs.count serverUUID) =
      volumesPerServer vs serverUUID +
        (vs.find? (·.uuid = id)).elim 0 fun v => (f v).serverUUIDs.count serverUUID := by
  induction vs with
  | nil => rfl
  | cons v vs ih =>
    rw [List.map_cons, List.nodup_cons] at hvs
    by_cases hv : v.uuid = id
    · -- `v` is the one volume changed; the others keep their servers
      have hrest : (vs.map fun w => if w.uuid = id then f w else w) = vs :=
        (List.map_congr_left fun w hw => if_neg fun (he : w.uuid = id) =>
          hvs.1 (by rw [hv, ← he]; exact List.mem_map_of_mem _ hw)).trans (List.map_id vs)
      simp only [List.map_cons, hv, if_true, hrest, List.find?_cons, decide_True,
        Option.elim, volumesPerServer_cons]
      omega
    · simp only [List.map_cons, hv, if_false, List.find?_cons, decide_False, volumesPerServer_cons]
      have := ih hvs.2
      omega

theorem Cloud.volumesPerServer_setServerUUIDs (s : Cloud) (id : String) (l : List String)
    (serverUUID : String) :
    volumesPerServer (s.setServerUUIDs id l).volumes serverUUID +
        (s.get? id).elim 0 (·.serverUUIDs.count serverUUID) =
      volumesPerServer s.volumes serverUUID + (s.get? id).elim 0 fun _ => l.count serverUUID :=
  volumesPerServer_map_modify s.volumes s.uuids_nodup id _ serverUUID

@[simp] theorem Cloud.volumesPerServer_setSizeGB (s : Cloud) (id : String) (sizeGB : Int64)
    (serverUUID : String) :
    volumesPerServer (s.setSizeGB id sizeGB).volumes serverUUID =
      volumesPerServer s.volumes serverUUID :=
  Nat.add_right_cancel (volumesPerServer_map_modify s.volumes s.uuids_nodup id _ serverUUID)

/-- `generateNotFoundError()`: a 404 response whose `Message` is `{"detail": "not found"}`, which
    `Error()` renders as `detail: not found`. -/
def notFoundError : Cloudscale.Error := .response 404 "detail: not found"

/-- The error the fake answers an attach to a full server with: a 400 response whose `detail` is
    the attach-limit text, rendered by `Error()` after `detail: `. -/
def maxVolumesError : Cloudscale.Error :=
  .response 400
    "detail: Due to internal limitations, it is currently not possible to attach more than 128 volumes"

/-- `FakeVolumeServiceOperations.Update`. -/
def fakeUpdate (maxVolumesPerNode : Nat) (volumeID : String) (req : VolumeRequest) (s : Cloud) :
    Option (Except Cloudscale.Error Unit × Cloud) :=
  match s.get? volumeID with
  | none => some (.error notFoundError, s)
  | some vol =>
    match req.serverUUIDs with
    | some serverUUIDs =>
      if serverUUIDs.length > 1 then some (.error (.other "multi attach is not implemented"), s)
      else if let [serverUUID] := serverUUIDs then
        if serverUUID ∉ s.servers then some (.error notFoundError, s)
        else if volumesPerServer s.volumes serverUUID ≥ maxVolumesPerNode then
          some (.error maxVolumesError, s)
        else some (.ok (), s.setServerUUIDs volumeID serverUUIDs)
      else some (.ok (), s.setServerUUIDs volumeID serverUUIDs)
    | none =>
      if vol.sizeGB < req.sizeGB then some (.ok (), s.setSizeGB volumeID req.sizeGB) else none

/-- The volume `FakeVolumeServiceOperations.Create` stores for a request, under the UUID `id`. -/
def createdVolume (id : String) (req : VolumeRequest) : Volume :=
  ⟨id, req.name, req.sizeGB, req.type, req.serverUUIDs.getD []⟩

/-- The fake client; `newId` is the UUID a create draws. -/
def fake (maxVolumesPerNode : Nat) (newId : String) : Handler Cloud
  | .list none, s => some (.ok s.volumes, s)
  | .list (some name), s =>
    if name = "" then none else some (.ok (s.volumes.filter (·.name = name)), s)
  | .get id, s => some ((s.get? id).elim (.error notFoundError) .ok, s)
  | .create req, s => some (.ok (createdVolume newId req), s.put (createdVolume newId req))
  | .update id req, s => fakeUpdate maxVolumesPerNode id req s
  | .delete id, s => some (.ok (), s.erase id)

end CsiCloudscale
