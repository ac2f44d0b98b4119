/-
  CreateVolume: idempotence, and what the idempotent hit returns.

  The controller makes `CreateVolume` idempotent with no state of its own: it looks the name
  up, creates on a miss, and on a hit of the same size answers with the stored volume.  The
  headline result, `createVolume_idempotent`, is the two-run law over every store and every
  request: once a call has succeeded, the same call succeeds again with exactly the same
  answer, makes no call but the lookup (so no second backend `Create`), and changes nothing;
  hence any number of repeats leave exactly one volume with the name.  No uniqueness of names
  in the starting store is needed: a store with two volumes of the name makes the first call
  fail.  The hit compares the size only, as the idempotent path of the design does.
-/
import Mathlib.Algebra.Order.Ring.Int
import CsiCloudscale.Spec

namespace CsiCloudscale

open Csi Cloudscale

variable (K : Names) (d : Driver) (m : Nat)

/-- On the idempotent-hit path `CreateVolume` makes one call, the name lookup, and changes
    nothing. -/
theorem createVolume_exec_logged_of_hit {req : CreateVolumeRequest} {s : Cloud}
    {sizeGB : Int64} {storageType luks : String} {vol : Cloudscale.Volume} (newId : String)
    (hc : createVolumeChecks K d req = .ok (sizeGB, storageType, luks))
    (hv : s.volumes.filter (·.name = req.name) = [vol]) (hs : vol.sizeGB = sizeGB)
    (log : List Call) :
    Rpc.exec (fake m newId).logged (createVolume K d req) (s, log) =
      some (.ok ⟨{ csiVolumeOf K d req.name sizeGB luks req.parameters with volumeId := vol.uuid }⟩,
        (s, log ++ [.list (some req.name)])) := by
  simp [createVolume, hc, Rpc.exec_bind, Handler.logged, fake,
    name_ne_of_createVolumeChecks K d hc, hv, hs]

/-- A state that every step leaves as it is stays so over any number of steps. -/
theorem foldl_bind_of_fixed {α β : Type} (f : β → α → Option α) (a : α)
    (hf : ∀ b, f b a = some a) :
    ∀ bs : List β, bs.foldl (fun o b => o.bind (f b)) (some a) = some a
  | [] => rfl
  | b :: bs => by
    simp only [List.foldl_cons, Option.some_bind, hf]; exact foldl_bind_of_fixed f a hf bs

/-- A `CreateVolume` that succeeds leaves exactly one volume with the name, of the size asked
    for, and answers with it. -/
theorem createVolume_ok {req : CreateVolumeRequest} {s s' : Cloud} {x : CreateVolumeResponse}
    {newId : String} (h : Rpc.exec (fake m newId) (createVolume K d req) s = some (.ok x, s')) :
    ∃ sizeGB storageType luks vol,
      createVolumeChecks K d req = .ok (sizeGB, storageType, luks) ∧
      s'.volumes.filter (·.name = req.name) = [vol] ∧ vol.sizeGB = sizeGB ∧
      x = ⟨{ csiVolumeOf K d req.name sizeGB luks req.parameters with volumeId := vol.uuid }⟩ := by
  rw [createVolume_exec] at h
  rcases hc : createVolumeChecks K d req with e | ⟨sizeGB, storageType, luks⟩ <;>
    simp only [hc] at h
  · cases h
  refine ⟨sizeGB, storageType, luks, ?_⟩
  rcases hv : s.volumes.filter (·.name = req.name) with _ | ⟨v, _ | ⟨w, l⟩⟩ <;>
    simp only [hv] at h
  · -- cold path: the created volume is the only one with the name
    simp only [Option.some.injEq, Prod.mk.injEq, Except.ok.injEq] at h
    obtain ⟨rfl, rfl⟩ := h
    refine ⟨createdVolume newId ⟨req.name, sizeGB, storageType, d.zone, none⟩, rfl, ?_, rfl, rfl⟩
    rw [Cloud.filter_put_of_filter_eq_nil hv]; simp [createdVolume]
  · -- idempotent hit: the store is unchanged
    split at h
    · cases h
    · simp only [Option.some.injEq, Prod.mk.injEq, Except.ok.injEq] at h
      obtain ⟨rfl, rfl⟩ := h
      exact ⟨v, rfl, hv, not_not.mp ‹_›, rfl⟩
  · cases h

/-- **`CreateVolume` is idempotent.**  If a call succeeds with answer `x` and leaves `s'`, the
    same call on `s'` answers `x` again, leaves `s'`, and makes only the name lookup, whatever
    UUID a create would draw; `s'` holds exactly one volume with the name; and any number of
    repeats leave `s'` as it is. -/
theorem createVolume_idempotent {req : CreateVolumeRequest} {s s' : Cloud}
    {x : CreateVolumeResponse} {newId : String}
    (h : Rpc.exec (fake m newId) (createVolume K d req) s = some (.ok x, s')) :
    (∀ newId' log, Rpc.exec (fake m newId').logged (createVolume K d req) (s', log) =
      some (.ok x, (s', log ++ [.list (some req.name)]))) ∧
    (s'.volumes.filter (·.name = req.name)).length = 1 ∧
    ∀ ids : List String, ids.foldl (fun o newId' => o.bind fun t =>
      (Rpc.exec (fake m newId') (createVolume K d req) t).map Prod.snd) (some s') = some s' := by
  obtain ⟨sizeGB, storageType, luks, vol, hc, hv, hs, rfl⟩ := createVolume_ok K d m h
  refine ⟨fun newId' log => createVolume_exec_logged_of_hit K d m newId' hc hv hs log,
    by rw [hv]; rfl, foldl_bind_of_fixed _ _ fun newId' => ?_⟩
  rw [createVolume_exec, hc]; simp [hv, hs]

/-- A request for a 5 GiB `ssd` volume `pvc-1`. -/
def pvcRequest : CreateVolumeRequest :=
  ⟨"pvc-1", some ⟨5368709120, 0⟩, [⟨.singleNodeWriter, some .mount⟩], [], none⟩

/-- The store after `pvcRequest` on an empty fake that draws the UUID `vol-1`. -/
def pvcCloud : Cloud := ⟨[⟨"vol-1", "pvc-1", 5, "ssd", []⟩], [], by decide⟩

/-- The answer to `pvcRequest`. -/
def pvcResponse : CreateVolumeResponse :=
  ⟨⟨"vol-1", 5368709120, [(exampleNames.publishInfoVolumeName, "pvc-1"),
    (exampleNames.luksEncryptedAttribute, "false")], [⟨[("zone", "rma1")]⟩]⟩⟩

theorem createVolume_idempotent_pvc :
    Rpc.exec (fake 128 "vol-1") (createVolume exampleNames exampleDriver pvcRequest) Cloud.empty =
      some (.ok pvcResponse, pvcCloud) ∧
    (∀ newId' log, Rpc.exec (fake 128 newId').logged
        (createVolume exampleNames exampleDriver pvcRequest) (pvcCloud, log) =
      some (.ok pvcResponse, (pvcCloud, log ++ [.list (some pvcRequest.name)]))) ∧
    (pvcCloud.volumes.filter (·.name = pvcRequest.name)).length = 1 ∧
    ∀ ids : List String, ids.foldl (fun o newId' => o.bind fun t =>
      (Rpc.exec (fake 128 newId') (createVolume exampleNames exampleDriver pvcRequest) t).map
        Prod.snd) (some pvcCloud) = some pvcCloud :=
  have h : Rpc.exec (fake 128 "vol-1") (createVolume exampleNames exampleDriver pvcRequest)
      Cloud.empty = some (.ok pvcResponse, pvcCloud) := rfl
  ⟨h, createVolume_idempotent exampleNames exampleDriver 128 h⟩

end CsiCloudscale
