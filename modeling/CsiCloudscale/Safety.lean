/-
  What no run of the controller does: the attach limit over every interleaving, progress, and
  two races, of two resizes and of a publish with an unpublish.

  1. **The attach limit under concurrency** — the fake refuses an attach to a server that
     already holds `m` volumes and an attach to more than one server, and the controller never
     creates a volume that comes with servers (`Request.allCalls_detached`: `Client.AllCalls`
     says which calls a program may make, whatever the calls before answered).  So the store
     invariant `Cloud.WithinLimit` (every volume on at most one server, every server with at most
     `m` volumes) is kept by each backend call of each RPC, and hence by every interleaving of
     any number of concurrent RPCs (`concurrent_rpcs_withinLimit`), the sequential runs
     included.

  2. **Progress** — the fake panics on a name filter `""` and on an update that neither sets
     servers nor grows the volume.  The controller never makes such a call on its own: every
     request is answered from every store (`Request.exec_isSome`), so every world can serve every
     request (`World.serves`).

  3. **Two resizes race** — `ControllerExpandVolume` reads the volume, compares sizes, and only
     then asks for the resize, so two concurrent expands can both pass the comparison against
     the old size.  When the larger resize lands first, the second asks for a size that does not
     grow the volume, on which the fake panics (`controllerExpandVolume_race`: after the first
     three calls, the second resize is the next call and the fake answers it with no state);
     two identical expands, a retry while the first is in flight, are such a pair.

  4. **A publish races an unpublish** — `ControllerUnpublishVolume` detaches the volume from every
     server, whatever node the request names, and `ControllerPublishVolume` reads the volume
     back after attaching it without looking at its servers.  An unpublish that detaches between
     the two calls leaves the publish reporting success for a volume attached nowhere
     (`controllerPublishVolume_unpublish_race`).
-/
import Mathlib.Algebra.Order.Ring.Int
import CsiCloudscale.System
import CsiCloudscale.Race

namespace CsiCloudscale

open Cloudscale

/-! ## The attach-limit invariant -/

/-- What the attach limit keeps in the store: no volume attached to two servers, and no server
    holding more than `m` volumes. -/
structure Cloud.WithinLimit (m : Nat) (s : Cloud) : Prop where
  servers_le_one : ∀ v ∈ s.volumes, v.serverUUIDs.length ≤ 1
  volumesPerServer_le : ∀ n, volumesPerServer s.volumes n ≤ m

/-- The calls that cannot attach a volume around the attach-limit check: all but a create of a
    volume that comes with servers. -/
def Cloudscale.Call.Detached : Call → Prop
  | .create req => req.serverUUIDs = none
  | _ => True

namespace Cloud.WithinLimit

variable {m : Nat} {s s' : Cloud} (hs : s.WithinLimit m)
include hs

theorem erase (id : String) : (s.erase id).WithinLimit m where
  servers_le_one v hv := hs.servers_le_one v (mem_erase.mp hv).1
  volumesPerServer_le n :=
    (volumesPerServer_le_of_sublist (List.filter_sublist _) n).trans (hs.volumesPerServer_le n)

/-- Storing a volume attached to no server. -/
theorem put {vol : Volume} (hv : vol.serverUUIDs = []) : (s.put vol).WithinLimit m where
  servers_le_one w hw :=
    (mem_put.mp hw).elim (fun h => hs.servers_le_one w h.1) (· ▸ by simp [hv])
  volumesPerServer_le n := calc
    volumesPerServer (s.put vol).volumes n =
        volumesPerServer (s.volumes.filter (·.uuid ≠ vol.uuid)) n := by
      simp [Cloud.put, volumesPerServer_append, volumesPerServer_cons, hv]
    _ ≤ volumesPerServer s.volumes n := volumesPerServer_le_of_sublist (List.filter_sublist _) n
    _ ≤ m := hs.volumesPerServer_le n

/-- Setting a volume's servers to at most one server, which has room. -/
theorem setServerUUIDs {id : String} {l : List String} (hl : l.length ≤ 1)
    (hroom : ∀ u ∈ l, volumesPerServer s.volumes u < m) :
    (s.setServerUUIDs id l).WithinLimit m where
  servers_le_one w hw := by
    obtain ⟨v, hv, rfl⟩ := mem_modify.mp hw
    split
    exacts [hl, hs.servers_le_one v hv]
  volumesPerServer_le n := by
    have h := volumesPerServer_setServerUUIDs s id l n
    have hn := hs.volumesPerServer_le n
    rcases hg : s.get? id with _ | v <;> simp only [hg, Option.elim] at h
    · omega
    · by_cases hu : n ∈ l
      · have := hroom n hu
        have := List.count_le_length n l
        omega
      · rw [List.count_eq_zero_of_not_mem hu] at h
        omega

theorem setSizeGB (id : String) (sizeGB : Int64) : (s.setSizeGB id sizeGB).WithinLimit m where
  servers_le_one w hw := by
    obtain ⟨v, hv, rfl⟩ := mem_modify.mp hw
    split <;> exact hs.servers_le_one v hv
  volumesPerServer_le n := by
    rw [volumesPerServer_setSizeGB]
    exact hs.volumesPerServer_le n

/-- An update the fake accepts attaches only to a known server with room, and to one server. -/
theorem fakeUpdate {id : String} {req : VolumeRequest} {r}
    (h : CsiCloudscale.fakeUpdate m id req s = some (r, s')) : s'.WithinLimit m := by
  unfold CsiCloudscale.fakeUpdate at h
  rcases hv : s.get? id with _ | vol <;> simp only [hv] at h
  · cases h; exact hs
  rcases hl : req.serverUUIDs with _ | l <;> simp only [hl] at h
  · split at h
    · cases h; exact hs.setSizeGB _ _
    · cases h
  rcases l with _ | ⟨u, _ | ⟨u', l⟩⟩
  · -- a detach
    simp only [List.length_nil, gt_iff_lt, Nat.not_lt_zero, if_false, Option.some.injEq,
      Prod.mk.injEq] at h
    obtain ⟨-, rfl⟩ := h
    exact hs.setServerUUIDs (by simp) (by simp)
  · -- an attach, refused for an unknown server or a full one
    simp only [List.length_singleton, gt_iff_lt, Nat.lt_irrefl, if_false] at h
    split at h
    · cases h; exact hs
    split at h
    · cases h; exact hs
    cases h
    exact hs.setServerUUIDs (by simp) (by simp; omega)
  · -- more than one server is refused
    simp only [List.length_cons, gt_iff_lt] at h
    rw [if_pos (by omega)] at h
    cases h; exact hs

/-- **Each call the fake answers keeps the attach limit**, unless it creates an attached
    volume. -/
theorem fake {newId : String} {c : Call} {r} (hc : c.Detached)
    (h : CsiCloudscale.fake m newId c s = some (r, s')) : s'.WithinLimit m := by
  cases c with
  | list name =>
    rcases name with _ | name
    · cases h; exact hs
    · simp only [CsiCloudscale.fake] at h
      split at h
      · cases h
      · cases h; exact hs
  | get id => cases h; exact hs
  | create req =>
    cases h
    exact hs.put (by simp [createdVolume, show req.serverUUIDs = none from hc])
  | update id req => exact hs.fakeUpdate h
  | delete id => cases h; exact hs.erase id

end Cloud.WithinLimit

theorem Cloud.WithinLimit.fakeDrawing {m : Nat} {c : Call} {st st' : Cloud × List String} {r}
    (hs : st.1.WithinLimit m) (hc : c.Detached)
    (h : CsiCloudscale.fakeDrawing m c st = some (r, st')) : st'.1.WithinLimit m := by
  obtain ⟨s, ids⟩ := st
  cases c with
  | create req =>
    rcases ids with _ | ⟨newId, ids⟩
    · cases h
    · rw [fakeDrawing_create] at h
      cases h
      exact hs.fake hc rfl
  | _ =>
    simp only [CsiCloudscale.fakeDrawing, Option.map_eq_some', Prod.exists, Prod.mk.injEq] at h
    obtain ⟨r', s', h1, rfl, rfl⟩ := h
    exact hs.fake hc h1

/-! ## The calls a program may make -/

namespace Client

variable {α β : Type}

/-- Every call a program may make satisfies `P`, whatever the calls before it answered. -/
def AllCalls (P : Call → Prop) : Client α → Prop
  | .pure _ => True
  | .call c k => P c ∧ ∀ r, AllCalls P (k r)

theorem AllCalls.bind {P : Call → Prop} {x : Client α} {f : α → Client β} (hx : x.AllCalls P)
    (hf : ∀ a, (f a).AllCalls P) : (x.bind f).AllCalls P := by
  induction x with
  | pure a => exact hf a
  | call c k ih => exact ⟨hx.1, fun r => ih r (hx.2 r)⟩

end Client

namespace Rpc

variable {α β : Type} {P : Call → Prop}

theorem allCalls_pure (a : α) : (pure a : Rpc α).run.AllCalls P := trivial

theorem allCalls_throw (e : Csi.Error) : (throw e : Rpc α).run.AllCalls P := trivial

theorem allCalls_bind {x : Rpc α} {f : α → Rpc β} (hx : x.run.AllCalls P)
    (hf : ∀ a, (f a).run.AllCalls P) : (x >>= f).run.AllCalls P := by
  rw [ExceptT.run_bind]
  refine hx.bind fun e => ?_
  cases e
  · trivial
  · exact hf _

theorem allCalls_send {c : Call} (hc : P c) : (send c).run.AllCalls P :=
  ⟨hc, fun _ => trivial⟩

end Rpc

variable (K : Names) (d : Driver) (m : Nat)

/-- No controller RPC creates a volume that comes with servers: every attach it makes is an
    update, and goes through the fake's checks. -/
theorem Request.allCalls_detached (r : Request) : (r.rpc K d).run.AllCalls Call.Detached := by
  cases r <;> dsimp only [Request.rpc, CsiCloudscale.createVolume, CsiCloudscale.deleteVolume,
    CsiCloudscale.controllerPublishVolume, CsiCloudscale.controllerUnpublishVolume,
    CsiCloudscale.validateVolumeCapabilities, CsiCloudscale.listVolumes,
    CsiCloudscale.controllerExpandVolume] <;>
  repeat' first
    | exact Rpc.allCalls_pure _ | exact Rpc.allCalls_throw _
    | apply Rpc.allCalls_bind | apply Rpc.allCalls_send | intro _ | split
  all_goals trivial

/-! ## Every interleaving keeps the limit -/

namespace Threads

variable {α : Type} {m}

/-- One call of one thread keeps the limit, and every thread is left with a program that
    creates no attached volume. -/
theorem step_withinLimit {t t' : Threads (Cloud × List String) α} {i : Nat}
    (hs : t.state.1.WithinLimit m) (ht : ∀ x ∈ t.threads, x.AllCalls Call.Detached)
    (h : t.step (fakeDrawing m) i = some t') :
    t'.state.1.WithinLimit m ∧ ∀ x ∈ t'.threads, x.AllCalls Call.Detached := by
  obtain ⟨c, k, r, s', hi, hc, rfl⟩ := step_eq_some _ h
  obtain ⟨hd, hk⟩ := ht _ (List.getElem?_mem hi)
  refine ⟨hs.fakeDrawing hd hc, fun x hx => ?_⟩
  rcases List.mem_or_eq_of_mem_set hx with hx | rfl
  exacts [ht x hx, hk r]

theorem run_withinLimit {t t' : Threads (Cloud × List String) α} {sched : List Nat}
    (hs : t.state.1.WithinLimit m) (ht : ∀ x ∈ t.threads, x.AllCalls Call.Detached)
    (h : t.run (fakeDrawing m) sched = some t') : t'.state.1.WithinLimit m := by
  induction sched generalizing t with
  | nil => cases h; exact hs
  | cons i sched ih =>
    obtain ⟨t1, h1, h2⟩ := Option.bind_eq_some.mp h
    obtain ⟨hs1, ht1⟩ := step_withinLimit hs ht h1
    exact ih hs1 ht1 h2

end Threads

/-- **No interleaving of concurrent RPCs breaks the attach limit.**  Any number of controller
    RPCs of any kinds, interleaved at their backend calls in any order, against the fake from a
    store within the limit: the store stays within it, every volume on at most one server and
    every server with at most `m` volumes. -/
theorem concurrent_rpcs_withinLimit (rs : List Request) {s : Cloud} (hs : s.WithinLimit m)
    (ids : List String) (sched : List Nat)
    {t : Threads (Cloud × List String) (Except Csi.Error Unit)}
    (h : Threads.run (fakeDrawing m) ⟨(s, ids), rs.map fun r => (r.rpc K d).run⟩ sched = some t) :
    t.state.1.WithinLimit m :=
  Threads.run_withinLimit hs (by simpa using fun r _ => Request.allCalls_detached K d r) h

/-- Two publishes of `vol-1`, to `node-1` and to `node-2`, interleaved, with a limit of one
    volume a node. -/
theorem concurrent_publishes_withinLimit :
    twoNodeCloud.WithinLimit 1 ∧ ∃ t, Threads.run (fakeDrawing 1)
      ⟨(twoNodeCloud, []), [Request.controllerPublishVolume (publishTo "node-1"),
        Request.controllerPublishVolume (publishTo "node-2")].map
          fun r => (r.rpc exampleNames exampleDriver).run⟩ [0, 1, 0, 1] = some t ∧
      t.state.1.WithinLimit 1 := by
  have hs : twoNodeCloud.WithinLimit 1 :=
    ⟨by decide, fun n => by simp [twoNodeCloud, volumesPerServer_cons]⟩
  exact ⟨hs, _, rfl, concurrent_rpcs_withinLimit exampleNames exampleDriver 1
    [.controllerPublishVolume (publishTo "node-1"), .controllerPublishVolume (publishTo "node-2")]
    hs [] [0, 1, 0, 1] rfl⟩

/-! ## Progress -/

/-- Dropping the response keeps a run that answers. -/
theorem Rpc.exec_discard_isSome {σ α : Type} {h : Handler σ} {x : Rpc α} {s : σ}
    (hx : (Rpc.exec h x s).isSome) : (Rpc.exec h (x >>= fun _ => pure ()) s).isSome := by
  obtain ⟨⟨r, s'⟩, hr⟩ := Option.isSome_iff_exists.mp hx
  rw [Rpc.exec_bind, hr]
  cases r <;> rfl

/-- The fake never panics under a controller RPC: every request is answered, from every store
    and whatever UUID a create draws. -/
theorem Request.exec_isSome (r : Request) (s : Cloud) (newId : String) :
    (Rpc.exec (fake m newId) (r.rpc K d) s).isSome := by
  cases r <;> simp only [Request.rpc] <;> (try apply Rpc.exec_discard_isSome) <;>
    simp only [createVolume_exec, deleteVolume_exec, controllerPublishVolume_exec,
      controllerUnpublishVolume_exec, validateVolumeCapabilities_exec, listVolumes_exec,
      controllerExpandVolume_exec] <;>
    repeat' split
  all_goals rfl

/-- A string longer than every string of a list is not in it. -/
theorem exists_not_mem_strings (l : List String) : ∃ x, x ∉ l := by
  have hle : ∀ y ∈ l, y.length ≤ (l.map String.length).sum := by
    induction l with
    | nil => simp
    | cons a l ih =>
      simp only [List.mem_cons, List.map_cons, List.sum_cons, forall_eq_or_imp]
      exact ⟨by omega, fun y hy => by have := ih y hy; omega⟩
  refine ⟨String.mk (List.replicate ((l.map String.length).sum + 1) 'a'), fun hx => ?_⟩
  have := hle _ hx
  simp only [String.length, List.length_replicate] at this
  omega

/-- **Every world can serve every request.**  Whatever the store and the request, the fake draws
    a UUID it has never drawn and answers: no run of the controller gets stuck. -/
theorem World.serves (w : World) (r : Request) :
    ∃ (newId : String) (res : Except Csi.Error Unit) (w' : World), newId ∉ w.issued ∧
      Rpc.exec (fake m newId) (r.rpc K d) w.cloud = some (res, w'.cloud) ∧
      w'.issued = newId :: w.issued := by
  obtain ⟨newId, hfresh⟩ := exists_not_mem_strings w.issued
  obtain ⟨⟨res, s'⟩, h⟩ := Option.isSome_iff_exists.mp (Request.exec_isSome K d m r w.cloud newId)
  refine ⟨newId, res, ⟨s', newId :: w.issued, ?_⟩, hfresh, h, rfl⟩
  exact (serve_uuids_subset K d m r h).trans (List.cons_subset_cons _ w.uuids_issued)

/-! ## Two resizes race -/

/-- The calls of a `ControllerExpandVolume` that is to grow the volume it finds: the lookup, and
    then the resize of that volume to the size `calculateStorageGB` gives. -/
theorem controllerExpandVolume_run_grow {req : Csi.ControllerExpandVolumeRequest} {vol : Volume}
    {n : Int64} (hlen : req.volumeId.length ≠ 0)
    (hn : calculateStorageGB req.capacityRange vol.type = .ok n) (hgrow : vol.sizeGB < n) :
    ∃ k, (controllerExpandVolume req).run = .call (.get req.volumeId) k ∧
      ∃ k', k (.ok vol) = .call (.update vol.uuid { sizeGB := n }) k' := by
  simp only [Int64.lt_iff] at hgrow
  simp only [controllerExpandVolume, hlen, Rpc.send, Client.send, ExceptT.run_bind,
    ExceptT.run_lift, map_eq_pure_bind, Client.bind_eq, Client.call_bind, Client.pure_bind,
    if_false, ExceptT.run_pure, Client.pure_eq]
  refine ⟨_, rfl, ?_⟩
  simp only [hn, Int64.le_iff, not_le.mpr hgrow, if_false, ExceptT.run_bind, ExceptT.run_lift,
    ExceptT.run_pure, Client.bind_eq, Client.pure_bind, Client.pure_eq, map_eq_pure_bind,
    Client.call_bind]
  exact ⟨_, rfl⟩

/-- **Two concurrent expands of one volume can crash the fake.**  Both read the volume while it
    has its old size and both pass the comparison with it; the one asking more resizes first,
    and the other is then left to ask for a size not above the new one, on which the fake
    panics (`panic("implement me")`).  This holds for every store, every volume to grow and
    every pair of requested sizes, the equal ones included. -/
theorem controllerExpandVolume_race (s : Cloud) (ids : List String) {vol : Volume}
    {req1 req2 : Csi.ControllerExpandVolumeRequest} (hv : s.get? req1.volumeId = some vol)
    (hid : req2.volumeId = req1.volumeId) (hlen : req1.volumeId.length ≠ 0) {n1 n2 : Int64}
    (h1 : calculateStorageGB req1.capacityRange vol.type = .ok n1)
    (h2 : calculateStorageGB req2.capacityRange vol.type = .ok n2)
    (hlt : vol.sizeGB < n2) (hle : n2 ≤ n1) :
    ∃ t k, Threads.run (fakeDrawing m)
        ⟨(s, ids), [(controllerExpandVolume req1).run, (controllerExpandVolume req2).run]⟩
        [0, 1, 0] = some t ∧
      t.threads[1]? = some (.call (.update vol.uuid { sizeGB := n2 }) k) ∧
      fakeDrawing m (.update vol.uuid { sizeGB := n2 }) t.state = none := by
  have hv' : s.get? vol.uuid = some vol := (Cloud.uuid_of_get? hv).symm ▸ hv
  simp only [Int64.lt_iff, Int64.le_iff] at hlt hle
  obtain ⟨k1, hk1, k1', hk1'⟩ := controllerExpandVolume_run_grow hlen h1
    (show vol.sizeGB < n1 by simp only [Int64.lt_iff]; omega)
  obtain ⟨k2, hk2, k2', hk2'⟩ := controllerExpandVolume_run_grow (hid ▸ hlen) h2
    (show vol.sizeGB < n2 by simpa only [Int64.lt_iff])
  -- the larger resize lands; the smaller one then finds the volume already that large
  have hup1 : fakeUpdate m vol.uuid { sizeGB := n1 } s = some (.ok (), s.setSizeGB vol.uuid n1) := by
    simp [fakeUpdate, hv', Int64.lt_iff, show vol.sizeGB.val < n1.val by omega]
  have hup2 : fakeUpdate m vol.uuid { sizeGB := n2 } (s.setSizeGB vol.uuid n1) = none := by
    simp [fakeUpdate, hv', Int64.lt_iff, hle]
  rw [hk1, hk2, hid]
  simp only [Threads.run, Threads.step, List.getElem?_cons_zero, List.getElem?_cons_succ,
    fakeDrawing, fake, hv, Option.elim, Option.map_some', Option.some_bind, List.set, hk1', hk2',
    hup1]
  exact ⟨_, k2', rfl, rfl, by simp [hup2]⟩

/-- The resize of `vol-1` to 10 GB asked twice at once. -/
theorem controllerExpandVolume_race_retry :
    pvcCloud.get? expandRequest.volumeId = some ⟨"vol-1", "pvc-1", 5, "ssd", []⟩ ∧
    expandRequest.volumeId.length ≠ 0 ∧
    calculateStorageGB expandRequest.capacityRange "ssd" = .ok 10 ∧
    ∃ t k, Threads.run (fakeDrawing 128)
        ⟨(pvcCloud, []), [(controllerExpandVolume expandRequest).run,
          (controllerExpandVolume expandRequest).run]⟩ [0, 1, 0] = some t ∧
      t.threads[1]? = some (.call (.update "vol-1" { sizeGB := 10 }) k) ∧
      fakeDrawing 128 (.update "vol-1" { sizeGB := 10 }) t.state = none :=
  have hv : pvcCloud.get? expandRequest.volumeId = some ⟨"vol-1", "pvc-1", 5, "ssd", []⟩ := rfl
  have hn : calculateStorageGB expandRequest.capacityRange "ssd" = .ok 10 := rfl
  ⟨hv, by decide, hn, controllerExpandVolume_race 128 pvcCloud [] hv rfl (by decide) hn hn
    (by decide) (by decide)⟩

/-! ## A publish races an unpublish -/

/-- The calls of a `ControllerPublishVolume` whose checks pass: the attach, then the read-back
    of the volume. -/
theorem controllerPublishVolume_run_attach {req : Csi.ControllerPublishVolumeRequest}
    (hc : controllerPublishVolumeChecks req = .ok ()) :
    ∃ k, ((Request.controllerPublishVolume req).rpc K d).run =
        .call (.update req.volumeId { serverUUIDs := some [req.nodeId] }) k ∧
      ∃ k', k (.ok ()) = .call (.get req.volumeId) k' ∧ ∀ v, k' (.ok v) = .pure (.ok ()) := by
  simp only [Request.rpc, controllerPublishVolume, hc, Rpc.send, Client.send, ExceptT.run_bind,
    ExceptT.run_lift, map_eq_pure_bind, Client.bind_eq, Client.call_bind, Client.pure_bind,
    ExceptT.run_pure, Client.pure_eq, pure_bind, bind_assoc]
  refine ⟨_, rfl, ?_⟩
  simp only [ExceptT.run_bind, ExceptT.run_lift, ExceptT.run_pure, Client.bind_eq,
    Client.pure_bind, Client.pure_eq, map_eq_pure_bind, Client.call_bind]
  exact ⟨_, rfl, fun v => rfl⟩

/-- The calls of a `ControllerUnpublishVolume` of a volume that exists: the lookup, then the
    detach from every server. -/
theorem controllerUnpublishVolume_run_detach {req : Csi.ControllerUnpublishVolumeRequest}
    (hid : req.volumeId ≠ "") :
    ∃ k, ((Request.controllerUnpublishVolume req).rpc K d).run = .call (.get req.volumeId) k ∧
      ∀ v, ∃ k', k (.ok v) = .call (.update req.volumeId { serverUUIDs := some [] }) k' ∧
        k' (.ok ()) = .pure (.ok ()) := by
  simp only [Request.rpc, controllerUnpublishVolume, hid, if_false, Rpc.send, Client.send,
    ExceptT.run_bind, ExceptT.run_lift, map_eq_pure_bind, Client.bind_eq, Client.call_bind,
    Client.pure_bind, ExceptT.run_pure, Client.pure_eq, pure_bind]
  refine ⟨_, rfl, fun v => ?_⟩
  simp only [ExceptT.run_bind, ExceptT.run_lift, ExceptT.run_pure, Client.bind_eq,
    Client.pure_bind, Client.pure_eq, map_eq_pure_bind, Client.call_bind]
  exact ⟨_, rfl, rfl⟩

/-- **A publish can succeed with the volume detached.**  `ControllerUnpublishVolume` detaches the
    volume from every server, whatever node it names.  Run while a `ControllerPublishVolume` of
    the same volume attaches it to a node, its lookup first, the unpublish detaches the volume
    between the publish's attach and its read-back: both succeed, and the volume is attached to
    no server. -/
theorem controllerPublishVolume_unpublish_race (s : Cloud) (ids : List String)
    {req : Csi.ControllerPublishVolumeRequest} {vol : Cloudscale.Volume}
    (hc : controllerPublishVolumeChecks req = .ok ()) (hv : s.get? req.volumeId = some vol)
    (hn : req.nodeId ∈ s.servers) (hm : volumesPerServer s.volumes req.nodeId < m)
    (node : String) :
    ∃ t, Threads.run (fakeDrawing m) ⟨(s, ids), [((Request.controllerPublishVolume req).rpc K d).run,
        ((Request.controllerUnpublishVolume ⟨req.volumeId, node⟩).rpc K d).run]⟩ [1, 0, 1, 0] =
          some t ∧
      t.threads = [.pure (.ok ()), .pure (.ok ())] ∧
      (t.state.1.get? req.volumeId).map (·.serverUUIDs) = some [] := by
  have hid : req.volumeId ≠ "" := by
    intro h; rw [controllerPublishVolumeChecks, if_pos h] at hc; cases hc
  obtain ⟨k, hk, k', hk', hk''⟩ := controllerPublishVolume_run_attach K d hc
  obtain ⟨u, hu, hu'⟩ := @controllerUnpublishVolume_run_detach K d ⟨req.volumeId, node⟩ hid
  obtain ⟨u', hu1, hu2⟩ := hu' vol
  -- the publish attaches the volume; the unpublish, which looked it up before, then detaches it
  have hattach : fakeUpdate m req.volumeId { serverUUIDs := some [req.nodeId] } s =
      some (.ok (), s.setServerUUIDs req.volumeId [req.nodeId]) := by
    simp [fakeUpdate, hv, hn, Nat.not_le.mpr hm]
  have hdetach : fakeUpdate m req.volumeId { serverUUIDs := some [] }
      (s.setServerUUIDs req.volumeId [req.nodeId]) =
      some (.ok (), (s.setServerUUIDs req.volumeId [req.nodeId]).setServerUUIDs req.volumeId []) := by
    simp [fakeUpdate, hv]
  rw [hk, hu]
  simp only [Threads.run, Threads.step, List.getElem?_cons_zero, List.getElem?_cons_succ,
    fakeDrawing, fake, hv, Option.elim, Option.map_some', Option.some_bind, List.set, hu1, hk',
    hattach, hdetach, hu2, Cloud.get?_setServerUUIDs, hk'']
  exact ⟨_, rfl, rfl, by simp [hv, Cloud.uuid_of_get? hv]⟩

/-- `vol-1` published to `node-1` while an unpublish naming `node-2` runs. -/
theorem controllerPublishVolume_unpublish_race_node2 :
    controllerPublishVolumeChecks (publishTo "node-1") = .ok () ∧
    twoNodeCloud.get? "vol-1" = some ⟨"vol-1", "pvc-1", 5, "ssd", []⟩ ∧
    "node-1" ∈ twoNodeCloud.servers ∧ volumesPerServer twoNodeCloud.volumes "node-1" < 128 ∧
    ∃ t, Threads.run (fakeDrawing 128) ⟨(twoNodeCloud, []),
        [((Request.controllerPublishVolume (publishTo "node-1")).rpc exampleNames exampleDriver).run,
          ((Request.controllerUnpublishVolume ⟨"vol-1", "node-2"⟩).rpc exampleNames
            exampleDriver).run]⟩ [1, 0, 1, 0] = some t ∧
      t.threads = [.pure (.ok ()), .pure (.ok ())] ∧
      (t.state.1.get? "vol-1").map (·.serverUUIDs) = some [] :=
  ⟨rfl, rfl, by decide, by decide,
    @controllerPublishVolume_unpublish_race exampleNames exampleDriver 128 twoNodeCloud []
      (publishTo "node-1") ⟨"vol-1", "pvc-1", 5, "ssd", []⟩ rfl rfl (by decide) (by decide)
      "node-2"⟩

end CsiCloudscale
