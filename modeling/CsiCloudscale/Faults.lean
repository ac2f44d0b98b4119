/-
  RPCs against a backend whose calls can fail: what a failed RPC leaves behind.

  A cloud API call can fail for reasons the controller does not control (a timeout, a reset
  connection).  `Handler.withFaults` runs a backend with such failures injected: a schedule says,
  call by call, whether the call fails, and with which error; a call that fails changes nothing.
  The fake with injected failures is the backend of this module: each call either fails without
  effect or succeeds with the fake's effect.

  The results are stated in two layers.  `Tame h store` says what the argument needs of a backend
  (a failed call and a lookup leave the store as it was); for every tame backend,
  `CreateVolume`, `DeleteVolume`, `ControllerUnpublishVolume` and `ControllerExpandVolume` that
  fail leave the store as it was: each of them fails only before its one mutating call or at it.
  `ControllerPublishVolume` is different: it attaches, then reads the volume back, and a failure
  of the read-back is reported although the attach has been made
  (`controllerPublishVolume_fails_after_attach`).  `rpc_error_keeps_store` says exactly what a
  failed RPC can leave behind against the fake with injected failures.
-/
import Mathlib.Algebra.Order.Ring.Int
import CsiCloudscale.Frame

namespace CsiCloudscale

open Csi Cloudscale

/-- The backend `h` with the failures of a schedule injected: while the schedule's head is
    `some e` the call fails with `e` and changes nothing; `none`, or an exhausted schedule,
    passes the call to `h`. -/
def Handler.withFaults {σ : Type} (h : Handler σ) : Handler (σ × List (Option Cloudscale.Error))
  | _, (s, some e :: fs) => some (.error e, (s, fs))
  | c, (s, none :: fs) => (h c s).map fun (r, s') => (r, (s', fs))
  | c, (s, []) => (h c s).map fun (r, s') => (r, (s', []))

/-- A backend whose failed calls and whose lookups leave the store, as `store` reads it from the
    backend's state, as it was. -/
structure Tame {σ : Type} (h : Handler σ) (store : σ → Cloud) : Prop where
  error_keeps : ∀ c s e s', h c s = some (.error e, s') → store s' = store s
  lookup_keeps : ∀ c s r s', h c s = some (r, s') → c.mutates = false → store s' = store s

/-! ## The fake, with and without injected failures, is tame -/

section Fake

variable (m : Nat) (newId : String)

theorem fakeUpdate_error_keeps {id : String} {req : VolumeRequest} {s s' : Cloud}
    {e : Cloudscale.Error} (h : fakeUpdate m id req s = some (.error e, s')) : s' = s := by
  unfold fakeUpdate at h
  repeat' split at h
  all_goals simp_all

/-- An attach or detach the fake accepts sets the volume's servers to the ones asked for. -/
theorem fakeUpdate_serverUUIDs_ok {id : String} {l : List String} {s s' : Cloud}
    (h : fakeUpdate m id { serverUUIDs := some l } s = some (.ok (), s')) :
    s' = s.setServerUUIDs id l := by
  unfold fakeUpdate at h
  repeat' split at h
  all_goals simp_all

theorem fake_tame : Tame (fake m newId) id where
  error_keeps c s e s' h := by
    cases c
    case list name => cases name <;> simp only [fake] at h <;> (try split at h) <;> simp_all
    case get id => simp only [fake] at h; cases s.get? id <;> simp_all
    case update => exact fakeUpdate_error_keeps m h
    all_goals simp_all [fake]
  lookup_keeps c s r s' h hc := by
    cases c
    case list name => cases name <;> simp only [fake] at h <;> (try split at h) <;> simp_all
    case get => simp_all [fake]
    all_goals simp [Call.mutates] at hc

/-- A backend with injected failures is tame when the backend is. -/
theorem Tame.withFaults {σ : Type} {h : Handler σ} {store : σ → Cloud} (hT : Tame h store) :
    Tame h.withFaults (store ∘ Prod.fst) where
  error_keeps c := by
    rintro ⟨s, _ | ⟨_ | e, fs⟩⟩ e ⟨s', fs'⟩ he <;>
      simp only [Handler.withFaults, Option.map_eq_some', Prod.exists, Prod.mk.injEq] at he
    · obtain ⟨r, t, h1, rfl, rfl, rfl⟩ := he; exact hT.error_keeps _ _ _ _ h1
    · obtain ⟨r, t, h1, rfl, rfl, rfl⟩ := he; exact hT.error_keeps _ _ _ _ h1
    · obtain ⟨-, rfl, rfl⟩ := he; rfl
  lookup_keeps c := by
    rintro ⟨s, _ | ⟨_ | e, fs⟩⟩ r ⟨s', fs'⟩ he hc <;>
      simp only [Handler.withFaults, Option.map_eq_some', Prod.exists, Prod.mk.injEq] at he
    · obtain ⟨r, t, h1, rfl, rfl, rfl⟩ := he; exact hT.lookup_keeps _ _ _ _ h1 hc
    · obtain ⟨r, t, h1, rfl, rfl, rfl⟩ := he; exact hT.lookup_keeps _ _ _ _ h1 hc
    · obtain ⟨-, rfl, rfl⟩ := he; rfl

/-- An attach the fake with injected failures accepts has the fake's effect. -/
theorem withFaults_fake_update_ok {id : String} {l : List String} {s : Cloud}
    {fs : List (Option Cloudscale.Error)} {t : Cloud × List (Option Cloudscale.Error)}
    (h : (fake m newId).withFaults (.update id { serverUUIDs := some l }) (s, fs) = some (.ok (), t)) :
    t.1 = s.setServerUUIDs id l := by
  rcases fs with _ | ⟨_ | e, fs⟩ <;>
    simp only [Handler.withFaults, fake, Option.map_eq_some', Prod.exists, Prod.mk.injEq] at h
  · obtain ⟨r, t', h1, rfl, rfl⟩ := h; exact fakeUpdate_serverUUIDs_ok m h1
  · obtain ⟨r, t', h1, rfl, rfl⟩ := h; exact fakeUpdate_serverUUIDs_ok m h1
  · simp at h

end Fake

/-! ## A failed RPC against a tame backend -/

section Tame

variable (K : Names) (d : Driver)
variable {σ : Type} {h : Handler σ} {store : σ → Cloud} (hT : Tame h store) {s t : σ}
  {e : Csi.Error}
include hT

/-- A failed `CreateVolume` fails at its checks, its lookup or its create: none of them has
    changed the store. -/
theorem createVolume_error_keeps {req : CreateVolumeRequest}
    (he : Rpc.exec h (createVolume K d req) s = some (.error e, t)) : store t = store s := by
  rcases hc : createVolumeChecks K d req with e' | ⟨n, st, l⟩
  · simp only [createVolume, hc, Rpc.exec_throw_bind] at he
    cases he; rfl
  simp only [createVolume, hc, pure_bind, bind_assoc, Rpc.exec_send_bind] at he
  obtain ⟨⟨r, s1⟩, h1, he⟩ := Option.bind_eq_some.mp he
  rcases r with err | vols
  · simp only [Rpc.exec_throw_bind] at he
    cases he; exact hT.error_keeps _ _ _ _ h1
  rw [← hT.lookup_keeps _ _ _ _ h1 rfl]
  rcases vols with _ | ⟨v, _ | ⟨w, l⟩⟩
  · -- the create call, the only one that changes the store, failed
    simp only [pure_bind, bind_assoc, Rpc.exec_send_bind] at he
    obtain ⟨⟨r, s2⟩, h2, he⟩ := Option.bind_eq_some.mp he
    rcases r with err | vol
    · simp only [Rpc.exec_throw_bind] at he
      cases he; exact hT.error_keeps _ _ _ _ h2
    · simp at he
  · simp only [pure_bind] at he
    split at he
    · simp only [Rpc.exec_throw_bind] at he
      cases he; rfl
    · simp at he
  · simp only [Rpc.exec_throw] at he
    cases he; rfl

theorem deleteVolume_error_keeps {req : DeleteVolumeRequest}
    (he : Rpc.exec h (deleteVolume req) s = some (.error e, t)) : store t = store s := by
  by_cases hid : req.volumeId = ""
  · simp only [deleteVolume, hid, if_true, Rpc.exec_throw_bind] at he
    cases he; rfl
  simp only [deleteVolume, hid, if_false, pure_bind, Rpc.exec_send_bind] at he
  obtain ⟨⟨r, s1⟩, h1, he⟩ := Option.bind_eq_some.mp he
  rcases r with err | u
  · by_cases hnf : err.isNotFound <;> simp only [hnf, if_true, if_false, Rpc.exec_pure, Rpc.exec_throw] at he
    · cases he
    · cases he; exact hT.error_keeps _ _ _ _ h1
  · cases u; simp at he

theorem controllerUnpublishVolume_error_keeps {req : ControllerUnpublishVolumeRequest}
    (he : Rpc.exec h (controllerUnpublishVolume req) s = some (.error e, t)) :
    store t = store s := by
  by_cases hid : req.volumeId = ""
  · simp only [controllerUnpublishVolume, hid, if_true, Rpc.exec_throw_bind] at he
    cases he; rfl
  simp only [controllerUnpublishVolume, hid, if_false, pure_bind, Rpc.exec_send_bind] at he
  obtain ⟨⟨r, s1⟩, h1, he⟩ := Option.bind_eq_some.mp he
  rcases r with err | vol
  · by_cases hnf : err.isNotFound <;>
      simp only [hnf, if_true, if_false, Rpc.exec_pure, Rpc.exec_throw, Rpc.exec_throw_bind] at he
    · cases he
    · cases he; exact hT.error_keeps _ _ _ _ h1
  rw [← hT.lookup_keeps _ _ _ _ h1 rfl]
  -- the detach, the only call that changes the store, failed
  simp only [pure_bind, Rpc.exec_send_bind] at he
  obtain ⟨⟨r, s2⟩, h2, he⟩ := Option.bind_eq_some.mp he
  rcases r with err | u
  · simp only [Rpc.exec_throw] at he
    cases he; exact hT.error_keeps _ _ _ _ h2
  · cases u; simp at he

theorem controllerExpandVolume_error_keeps {req : ControllerExpandVolumeRequest}
    (he : Rpc.exec h (controllerExpandVolume req) s = some (.error e, t)) :
    store t = store s := by
  by_cases hid : req.volumeId.length = 0
  · simp only [controllerExpandVolume, hid, if_true, Rpc.exec_throw_bind] at he
    cases he; rfl
  simp only [controllerExpandVolume, hid, if_false, pure_bind, bind_assoc,
    Rpc.exec_send_bind] at he
  obtain ⟨⟨r, s1⟩, h1, he⟩ := Option.bind_eq_some.mp he
  rcases r with err | vol
  · simp only [Rpc.exec_throw_bind] at he
    cases he; exact hT.error_keeps _ _ _ _ h1
  rw [← hT.lookup_keeps _ _ _ _ h1 rfl]
  rcases hn : calculateStorageGB req.capacityRange vol.type with err | n <;>
    simp only [hn, Rpc.exec_throw_bind, pure_bind] at he
  · cases he; rfl
  split at he
  · simp at he
  -- the resize, the only call that changes the store, failed
  simp only [Rpc.exec_send_bind] at he
  obtain ⟨⟨r, s2⟩, h2, he⟩ := Option.bind_eq_some.mp he
  rcases r with err | u
  · simp only [Rpc.exec_throw_bind] at he
    cases he; exact hT.error_keeps _ _ _ _ h2
  · cases u; simp at he

/-- A failed `ControllerPublishVolume` has changed nothing, or it has made the attach and then
    failed to read the volume back. -/
theorem controllerPublishVolume_error_keeps {req : ControllerPublishVolumeRequest}
    (he : Rpc.exec h (controllerPublishVolume K req) s = some (.error e, t)) :
    store t = store s ∨ ∃ s1 err,
      h (.update req.volumeId { serverUUIDs := some [req.nodeId] }) s = some (.ok (), s1) ∧
      store t = store s1 ∧ e = reraiseNotFound err "fetch volume" := by
  rcases hc : controllerPublishVolumeChecks req with e' | ⟨⟩
  · simp only [controllerPublishVolume, hc, Rpc.exec_throw_bind] at he
    cases he; exact .inl rfl
  simp only [controllerPublishVolume, hc, pure_bind, Rpc.exec_send_bind] at he
  obtain ⟨⟨r, s1⟩, h1, he⟩ := Option.bind_eq_some.mp he
  rcases r with err | u
  · -- the attach failed
    left
    by_cases hre : maxVolumesPerServerErrorMessageRe err.text <;>
      simp only [hre, ite_true, ite_false, Bool.false_eq_true, Rpc.exec_throw_bind] at he <;>
      cases he <;> exact hT.error_keeps _ _ _ _ h1
  cases u
  -- the attach is made; the read-back fails
  simp only [pure_bind, bind_assoc, Rpc.exec_send_bind] at he
  obtain ⟨⟨r, s2⟩, h2, he⟩ := Option.bind_eq_some.mp he
  rcases r with err | vol
  · simp only [Rpc.exec_throw_bind] at he
    cases he
    exact .inr ⟨s1, err, h1, hT.error_keeps _ _ _ _ h2, rfl⟩
  · simp at he

end Tame

/-! ## What a failed RPC leaves behind -/

variable (K : Names) (d : Driver) (m : Nat) (newId : String)

/-- **A failed RPC leaves the store as it was, except a failed publish.**  Against the fake with
    any schedule of injected failures, a failed `CreateVolume`, `DeleteVolume`,
    `ControllerUnpublishVolume` or `ControllerExpandVolume` leaves the store as it was; a failed
    `ControllerPublishVolume` leaves it as it was, or with the volume attached to the node when
    the read-back of the volume after the attach failed. -/
theorem rpc_error_keeps_store (s : Cloud) (fs : List (Option Cloudscale.Error)) :
    (∀ req e t, Rpc.exec (fake m newId).withFaults (createVolume K d req) (s, fs) =
      some (.error e, t) → t.1 = s) ∧
    (∀ req e t, Rpc.exec (fake m newId).withFaults (deleteVolume req) (s, fs) =
      some (.error e, t) → t.1 = s) ∧
    (∀ req e t, Rpc.exec (fake m newId).withFaults (controllerUnpublishVolume req) (s, fs) =
      some (.error e, t) → t.1 = s) ∧
    (∀ req e t, Rpc.exec (fake m newId).withFaults (controllerExpandVolume req) (s, fs) =
      some (.error e, t) → t.1 = s) ∧
    (∀ req e t, Rpc.exec (fake m newId).withFaults (controllerPublishVolume K req) (s, fs) =
      some (.error e, t) →
        t.1 = s ∨ t.1 = s.setServerUUIDs req.volumeId [req.nodeId] ∧
          ∃ err, e = reraiseNotFound err "fetch volume") := by
  have hT := (fake_tame m newId).withFaults
  refine ⟨fun _ _ _ he => createVolume_error_keeps K d hT he,
    fun _ _ _ he => deleteVolume_error_keeps hT he,
    fun _ _ _ he => controllerUnpublishVolume_error_keeps hT he,
    fun _ _ _ he => controllerExpandVolume_error_keeps hT he, fun _ _ _ he => ?_⟩
  obtain he | ⟨s1, err, h1, ht, rfl⟩ := controllerPublishVolume_error_keeps K hT he
  · exact .inl he
  · exact .inr ⟨ht.trans (withFaults_fake_update_ok m newId h1), err, rfl⟩

/-- A store with the volume `vol-1` of `pvcCloud`, not attached, and the node `node-1`. -/
def attachCloud : Cloud := ⟨[⟨"vol-1", "pvc-1", 5, "ssd", []⟩], ["node-1"], by decide⟩

/-- Attach `vol-1` to `node-1`. -/
def attachRequest : ControllerPublishVolumeRequest :=
  ⟨"vol-1", "node-1", some ⟨.singleNodeWriter, some .mount⟩, false, []⟩

/-- **A publish that fails after the attach.**  The attach succeeds and the read-back of the
    volume fails: the RPC reports `Aborted`, and the volume stays attached to the node. -/
theorem controllerPublishVolume_fails_after_attach :
    Rpc.exec (fake 128 "vol-2").withFaults (controllerPublishVolume exampleNames attachRequest)
      (attachCloud, [none, some (.other "connection reset")]) =
      some (.error (.status .aborted ⟨"fetch volume: Random error", []⟩),
        (attachCloud.setServerUUIDs "vol-1" ["node-1"], [])) ∧
    attachCloud.setServerUUIDs "vol-1" ["node-1"] ≠ attachCloud :=
  ⟨rfl, fun h => absurd (congrArg Cloud.volumes h) (by decide)⟩

/-! ## A refused attach -/

/-- **What a refused attach reports.**  When the backend refuses the attach with `err`,
    `ControllerPublishVolume` fails, leaving the backend as the refusal left it.  When the text of
    `err` holds the attach-limit phrase, a number and ` volumes`, it answers `ResourceExhausted`
    with that text; every other refusal is passed through `reraiseNotFound`, which never answers
    `ResourceExhausted`. -/
theorem controllerPublishVolume_attach_refused (K : Names) {σ : Type} {h : Handler σ} {s s1 : σ}
    {req : ControllerPublishVolumeRequest} {err : Cloudscale.Error}
    (hc : controllerPublishVolumeChecks req = .ok ())
    (h1 : h (.update req.volumeId { serverUUIDs := some [req.nodeId] }) s = some (.error err, s1)) :
    ∃ e, Rpc.exec h (controllerPublishVolume K req) s = some (.error e, s1) ∧
      (MaxVolumesText err.text → e = .status .resourceExhausted ⟨err.text, []⟩) ∧
      (¬ MaxVolumesText err.text → e = reraiseNotFound err "attaching volume") ∧
      (e.code = some .resourceExhausted ↔ MaxVolumesText err.text) := by
  rw [← maxVolumesPerServerErrorMessageRe_iff]
  simp only [controllerPublishVolume, hc, pure_bind, Rpc.exec_send_bind, h1, Option.bind_some]
  by_cases hre : maxVolumesPerServerErrorMessageRe err.text
  · simp [hre, Csi.Error.code]
  · simp [hre, code_reraiseNotFound]
    split <;> simp

/-- Publishing `vol-1` again once it is attached to `node-1`, with a limit of one volume a node:
    the fake refuses with its attach-limit error. -/
theorem controllerPublishVolume_attach_refused_at_limit :
    controllerPublishVolumeChecks attachRequest = .ok () ∧
    fake 1 "vol-2" (.update "vol-1" { serverUUIDs := some ["node-1"] })
        (attachCloud.setServerUUIDs "vol-1" ["node-1"]) =
      some (.error maxVolumesError, attachCloud.setServerUUIDs "vol-1" ["node-1"]) ∧
    ∃ e, Rpc.exec (fake 1 "vol-2") (controllerPublishVolume exampleNames attachRequest)
        (attachCloud.setServerUUIDs "vol-1" ["node-1"]) =
          some (.error e, attachCloud.setServerUUIDs "vol-1" ["node-1"]) ∧
      (MaxVolumesText maxVolumesError.text →
        e = .status .resourceExhausted ⟨maxVolumesError.text, []⟩) ∧
      (¬ MaxVolumesText maxVolumesError.text → e = reraiseNotFound maxVolumesError "attaching volume") ∧
      (e.code = some .resourceExhausted ↔ MaxVolumesText maxVolumesError.text) :=
  ⟨rfl, rfl, controllerPublishVolume_attach_refused exampleNames rfl rfl⟩

end CsiCloudscale
