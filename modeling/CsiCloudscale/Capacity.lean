/-
  The Capacity Negotiator: `calculateStorageGB` (controller.go, lines 551-597).

  It turns a requested byte range and a storage type into a whole number of gigabytes, a
  multiple of the type's allocation step (`SSDStepSizeGB = 1`, `BulkStepSizeGB = 100`).  All of
  it is Go `int64` arithmetic, modelled with `Int64`.  The function is split at the source's own
  seams: `stepSizeGB` is the choice of `sizeIncrements` (lines 555-558) and `roundedSizeGB` the
  round-up of `requiredBytes` to whole steps (lines 586-591).

  The one fact proved here about the round-up is its exact value (`val_roundedSizeGB`): the
  division and the `steps*GB*sizeIncrements` product never wrap, whatever the request, so the
  size is `sizeIncrements` times an integer step count.  Hence every size the function returns
  is a multiple of the step (`stepSizeGB_dvd_of_ok`).  The product `int64(sizeGB)*GB` in the
  last limit check CAN wrap; that is where `Reports.lean` finds a capacity reported wrong.
-/
import Mathlib.Algebra.Order.Ring.Int
import CsiCloudscale.Int64
import CsiCloudscale.Csi

namespace CsiCloudscale

open Csi

/-- `GB = 1 << 30`. -/
def gb : Int64 := 1073741824

/-- Allowed size increments for SSDs. -/
def ssdStepSizeGB : Int64 := 1

/-- Allowed size increments for bulk disks. -/
def bulkStepSizeGB : Int64 := 100

/-- `sizeIncrements`: the allocation step of a storage type. -/
def stepSizeGB (storageType : String) : Int64 :=
  if storageType = "bulk" then bulkStepSizeGB else ssdStepSizeGB

/-- `requiredBytes` rounded up to whole steps, in gigabytes. -/
def roundedSizeGB (requiredBytes sizeIncrements : Int64) : Int64 :=
  let steps := requiredBytes / gb / sizeIncrements
  let steps := if steps * gb * sizeIncrements < requiredBytes then steps + 1 else steps
  steps * sizeIncrements

/-- The size in gigabytes for a capacity range, or the error that rejects it.  A nil range, or
    one with neither bound set, gets one step. -/
def calculateStorageGB (capRange : Option CapacityRange) (storageType : String) :
    Except CapacityError Int64 :=
  let sizeIncrements := stepSizeGB storageType
  match capRange with
  | none => .ok sizeIncrements
  | some capRange =>
    let requiredBytes := capRange.requiredBytes
    let requiredSet := decide (0 < requiredBytes)
    let limitBytes := capRange.limitBytes
    let limitSet := decide (0 < limitBytes)
    if !requiredSet && !limitSet then .ok sizeIncrements
    else if requiredSet && limitSet && decide (limitBytes < requiredBytes) then
      .error (.limitBelowRequired limitBytes requiredBytes)
    else if limitSet && decide (limitBytes < sizeIncrements * gb) then
      .error (.limitBelowMinimum limitBytes storageType (sizeIncrements * gb))
    else
      let sizeGB := roundedSizeGB requiredBytes sizeIncrements
      if limitSet && decide (limitBytes < sizeGB * gb) then
        .error (.limitBelowRounded requiredBytes limitBytes (sizeGB * gb) storageType)
      else .ok sizeGB

/-! ## The step -/

@[simp] theorem val_gb : gb.val = 1073741824 := rfl

/-- The step's value as an integer: `100` for `"bulk"`, `1` for every other type. -/
def stepOf (storageType : String) : Int := if storageType = "bulk" then 100 else 1

@[simp] theorem val_stepSizeGB (t : String) : (stepSizeGB t).val = stepOf t := by
  unfold stepSizeGB stepOf; split <;> rfl

theorem stepOf_cases (t : String) : stepOf t = 1 ∨ stepOf t = 100 := by
  unfold stepOf; split <;> simp

/-! ## The round-up does not wrap -/

/-- The quotient `requiredBytes / GB / sizeIncrements` never wraps: it lies within `2^33` of
    zero, and that many steps never overshoot `requiredBytes` away from zero. -/
theorem steps_bounds (r : Int64) {s : Int64} (hs : s.val = 1 ∨ s.val = 100) :
    -2 ^ 33 ≤ (r / gb / s).val ∧ (r / gb / s).val < 2 ^ 33 ∧
      (0 ≤ r.val → 0 ≤ (r / gb / s).val ∧ (r / gb / s).val * 1073741824 * s.val ≤ r.val) ∧
      (r.val < 0 → (r / gb / s).val ≤ 0 ∧ r.val ≤ (r / gb / s).val * 1073741824 * s.val) := by
  have hr := r.min_le
  have hr' := r.lt_max
  rw [Int64.val_div_of_pos _ (by omega), Int64.val_div_of_pos _ (by simp), val_gb,
    Int64.tdiv_of_pos _ (by omega : (0 : Int) < 1073741824)]
  rcases hs with hs | hs <;> rw [hs]
  · simp only [Int.tdiv_one]; split <;> omega
  · rw [Int64.tdiv_of_pos _ (by omega : (0 : Int) < 100)]; split <;> split <;> omega

/-- **The round-up is exact.**  With `q` the quotient `requiredBytes / GB / sizeIncrements`,
    the size is `q` steps, plus one step when `q` steps fall short of `requiredBytes`. -/
theorem val_roundedSizeGB (r : Int64) {s : Int64} (hs : s.val = 1 ∨ s.val = 100) :
    (roundedSizeGB r s).val = (if (r / gb / s).val * 1073741824 * s.val < r.val
      then (r / gb / s).val + 1 else (r / gb / s).val) * s.val := by
  obtain ⟨h1, h2, h3, h4⟩ := steps_bounds r hs
  have hr := r.min_le
  have hr' := r.lt_max
  simp only [roundedSizeGB]
  generalize r / gb / s = q at *
  have hqg : (q * gb).val = q.val * 1073741824 :=
    Int64.val_mul_of_lt (by rw [val_gb]; omega) (by rw [val_gb]; omega)
  have hprod : (q * gb * s).val = q.val * 1073741824 * s.val := by
    rw [Int64.val_mul_of_lt] <;> rw [hqg] <;> rcases hs with hs | hs <;> simp only [hs] at h3 h4 ⊢ <;>
      omega
  simp only [Int64.lt_iff, hprod]
  split
  · have hq1 : (q + 1).val = q.val + 1 := Int64.val_add_of_lt (by simp; omega) (by simp; omega)
    rw [Int64.val_mul_of_lt] <;> rw [hq1] <;> rcases hs with hs | hs <;>
      simp only [hs] at * <;> omega
  · rw [Int64.val_mul_of_lt] <;> rcases hs with hs | hs <;> simp only [hs] at * <;> omega

/-- Every size `calculateStorageGB` returns is a multiple of the type's step. -/
theorem stepOf_dvd_of_ok {capRange : Option CapacityRange} {t : String} {n : Int64}
    (h : calculateStorageGB capRange t = .ok n) : stepOf t ∣ n.val := by
  unfold calculateStorageGB at h
  split at h
  · cases h; simp
  · simp only at h
    split at h
    · cases h; simp
    · split at h
      · cases h
      · split at h
        · cases h
        · split at h
          · cases h
          · cases h
            rw [val_roundedSizeGB _ (by rw [val_stepSizeGB]; exact stepOf_cases t),
              val_stepSizeGB]
            exact Dvd.intro_left _ rfl

end CsiCloudscale
