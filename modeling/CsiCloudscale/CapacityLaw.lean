/-
  The capacity law: what `calculateStorageGB` should answer for a range, and where it does.

  A capacity range (a bound `≤ 0` being unset) admits a set of sizes: the positive multiples of
  the type's step whose byte size, in exact integers, reaches the required bytes when they are
  set and stays within the limit when it is set (`Admissible`).  The negotiator should answer
  the least admitted size, and fail only when the range admits none.

  It fails only when the range admits no size (`calculateStorageGB_error`).  It answers the least
  admitted size except in two cases (`calculateStorageGB_ok`).  A range with a limit and no
  positive required size is answered with the round-up of the unset required size, which is zero
  or less.  And a required size within one step of `2^63` bytes rounds up to a size whose byte
  count wraps in the last `int64` limit check, so a range that admits no size is answered with
  one.  `calculateStorageGB_diverges` gives a range of each kind.

  The code's branches are first restated over the integer values (`calculateStorageGB_some`);
  the round-up of a positive required size is the least number of whole steps reaching it
  (`roundedSizeGB_spec`), and that of a required size `≤ 0` is not positive
  (`roundedSizeGB_nonpos`).
-/
import Mathlib.Order.Bounds.Basic
import CsiCloudscale.Capacity

namespace CsiCloudscale

open Csi

/-! ## The contract -/

/-- The sizes a range with required bytes `r` and limit `l` admits for the storage type `t`:
    `k` steps for some `k ≥ 1`, whose byte size reaches `r` when `r` is set and stays within `l`
    when `l` is set. -/
def Admissible (r l : Int) (t : String) (n : Int) : Prop :=
  ∃ k, 1 ≤ k ∧ n = k * stepOf t ∧ (r ≤ 0 ∨ r ≤ n * 1073741824) ∧ (l ≤ 0 ∨ n * 1073741824 ≤ l)

section Contract

variable {r l : Int} {t : String} {n : Int}

/-- Every admitted size is at least one step. -/
theorem Admissible.step_le (h : Admissible r l t n) : stepOf t ≤ n := by
  obtain ⟨k, hk, hn, -⟩ := h
  have hs := stepOf_cases t
  generalize stepOf t = S at *
  rcases hs with rfl | rfl <;> omega

theorem not_admissible_of_lt (hr : 0 < r) (hl : 0 < l) (h : l < r) : ¬ Admissible r l t n := by
  rintro ⟨k, -, -, hr', hl'⟩
  omega

theorem not_admissible_of_lt_step (hl : 0 < l) (h : l < stepOf t * 1073741824) :
    ¬ Admissible r l t n := fun ha => by
  have := ha.step_le
  obtain ⟨k, -, -, -, hl'⟩ := ha
  omega

/-- With no required size, one step is the least admitted size, if the limit allows it. -/
theorem isLeast_step (hr : r ≤ 0) (hl : l ≤ 0 ∨ stepOf t * 1073741824 ≤ l) :
    IsLeast {x | Admissible r l t x} (stepOf t) :=
  ⟨⟨1, le_refl _, (one_mul _).symm, .inl hr, hl⟩, fun _ hx => hx.step_le⟩

end Contract

/-! ## The round-up -/

theorem val_steps (r : Int64) (t : String) :
    (r / gb / stepSizeGB t).val = (r.val.tdiv 1073741824).tdiv (stepOf t) := by
  have := stepOf_cases t
  rw [Int64.val_div_of_pos _ (by rw [val_stepSizeGB]; omega), Int64.val_div_of_pos _ (by simp),
    val_gb, val_stepSizeGB]

/-- A positive required size rounds up to the least number `k ≥ 1` of whole steps whose bytes
    reach it. -/
theorem roundedSizeGB_spec {r : Int64} (t : String) (hr : 0 < r.val) :
    ∃ k, 1 ≤ k ∧ (roundedSizeGB r (stepSizeGB t)).val = k * stepOf t ∧
      r.val ≤ k * stepOf t * 1073741824 ∧ (k - 1) * stepOf t * 1073741824 < r.val := by
  have hs := stepOf_cases t
  rw [val_roundedSizeGB _ (by rwa [val_stepSizeGB]), val_steps, val_stepSizeGB,
    Int.tdiv_eq_ediv hr.le (by omega),
    Int.tdiv_eq_ediv (Int.ediv_nonneg hr.le (by omega)) (by omega)]
  refine ⟨_, ?_, rfl, ?_⟩ <;> rcases hs with hs | hs <;> rw [hs] <;> split <;> omega

/-- A required size `≤ 0` rounds up to a size `≤ 0`, whose bytes do not fall below it. -/
theorem roundedSizeGB_nonpos {r : Int64} (t : String) (hr : r.val ≤ 0) :
    (roundedSizeGB r (stepSizeGB t)).val ≤ 0 ∧
      r.val ≤ (roundedSizeGB r (stepSizeGB t)).val * 1073741824 := by
  have hs : (stepSizeGB t).val = 1 ∨ (stepSizeGB t).val = 100 := by
    rw [val_stepSizeGB]; exact stepOf_cases t
  obtain ⟨-, -, h0, hneg⟩ := steps_bounds r hs
  rw [val_roundedSizeGB _ hs]
  generalize (r / gb / stepSizeGB t).val = q at *
  generalize (stepSizeGB t).val = S at *
  rcases hs with rfl | rfl <;> split <;> omega

theorem roundedSizeGB_le_of_admissible {r : Int64} {l : Int} {t : String} {x : Int}
    (hr : 0 < r.val) (hx : Admissible r.val l t x) : (roundedSizeGB r (stepSizeGB t)).val ≤ x := by
  obtain ⟨k, -, hN, -, h2⟩ := roundedSizeGB_spec t hr
  obtain ⟨k', hk', hx, hr', -⟩ := hx
  have hs := stepOf_cases t
  generalize stepOf t = S at *
  rcases hs with rfl | rfl <;> omega

/-- The round-up of a positive required size is the least admitted size, if the limit allows
    it. -/
theorem isLeast_roundedSizeGB {r : Int64} {l : Int} {t : String} (hr : 0 < r.val)
    (hl : l ≤ 0 ∨ (roundedSizeGB r (stepSizeGB t)).val * 1073741824 ≤ l) :
    IsLeast {x | Admissible r.val l t x} (roundedSizeGB r (stepSizeGB t)).val := by
  obtain ⟨k, hk, hN, h1, -⟩ := roundedSizeGB_spec t hr
  exact ⟨⟨k, hk, hN, .inr (hN ▸ h1), hl⟩, fun _ => roundedSizeGB_le_of_admissible hr⟩

/-! ## The byte sizes the checks compare -/

theorem val_stepSizeGB_mul_gb (t : String) : (stepSizeGB t * gb).val = stepOf t * 1073741824 := by
  have := stepOf_cases t
  rw [Int64.val_mul_of_lt] <;> rw [val_stepSizeGB, val_gb] <;> omega

theorem roundedSizeGB_bytes_bounds (r : Int64) (t : String) :
    -2 ^ 63 ≤ (roundedSizeGB r (stepSizeGB t)).val * 1073741824 ∧
      (roundedSizeGB r (stepSizeGB t)).val * 1073741824 < 2 ^ 63 + 2 ^ 64 := by
  have := r.min_le
  have := r.lt_max
  by_cases hr : 0 < r.val
  · obtain ⟨k, hk, hN, -, h2⟩ := roundedSizeGB_spec t hr
    have hs := stepOf_cases t
    generalize stepOf t = S at *
    rcases hs with rfl | rfl <;> omega
  · have := roundedSizeGB_nonpos t (not_lt.mp hr)
    omega

/-- The rounded size's bytes as the last check computes them in `int64`: exact below `2^63`,
    and `2^64` less from there. -/
theorem val_roundedSizeGB_mul_gb (r : Int64) (t : String) :
    (roundedSizeGB r (stepSizeGB t) * gb).val =
      if (roundedSizeGB r (stepSizeGB t)).val * 1073741824 < 2 ^ 63 then
        (roundedSizeGB r (stepSizeGB t)).val * 1073741824
      else (roundedSizeGB r (stepSizeGB t)).val * 1073741824 - 2 ^ 64 := by
  have := roundedSizeGB_bytes_bounds r t
  split
  · exact Int64.val_mul_of_lt (by rw [val_gb]; omega) (by rw [val_gb]; omega)
  · exact val_gb ▸ Int64.val_mul_of_ge (by rw [val_gb]; omega) (by rw [val_gb]; omega)

/-! ## The law -/

/-- The negotiator's checks, over the integer values of the range. -/
theorem calculateStorageGB_some (r l : Int64) (t : String) :
    calculateStorageGB (some ⟨r, l⟩) t =
      if r.val ≤ 0 ∧ l.val ≤ 0 then .ok (stepSizeGB t)
      else if 0 < r.val ∧ 0 < l.val ∧ l.val < r.val then .error (.limitBelowRequired l r)
      else if 0 < l.val ∧ l.val < stepOf t * 1073741824 then
        .error (.limitBelowMinimum l t (stepSizeGB t * gb))
      else if 0 < l.val ∧ l.val < (roundedSizeGB r (stepSizeGB t) * gb).val then
        .error (.limitBelowRounded r l (roundedSizeGB r (stepSizeGB t) * gb) t)
      else .ok (roundedSizeGB r (stepSizeGB t)) := by
  simp [calculateStorageGB, val_stepSizeGB_mul_gb, and_assoc]

/-- **The negotiator fails only when the range admits no size.** -/
theorem calculateStorageGB_error {r l : Int64} {t : String} {e : CapacityError}
    (h : calculateStorageGB (some ⟨r, l⟩) t = .error e) (x : Int) :
    ¬ Admissible r.val l.val t x := by
  rw [calculateStorageGB_some] at h
  split_ifs at h with h1 h2 h3 h4
  · exact not_admissible_of_lt h2.1 h2.2.1 h2.2.2
  · exact not_admissible_of_lt_step h3.1 h3.2
  · -- the rounded size's bytes pass the limit; a positive one is the least candidate
    have := roundedSizeGB_bytes_bounds r t
    rw [val_roundedSizeGB_mul_gb] at h4
    by_cases hr : 0 < r.val
    · intro hx
      have := roundedSizeGB_le_of_admissible hr hx
      obtain ⟨-, -, -, -, hl'⟩ := hx
      split at h4 <;> omega
    · have := roundedSizeGB_nonpos t (not_lt.mp hr)
      split at h4 <;> omega

/-- **What the negotiator answers.**  The least admitted size, except for a range with a limit
    and no positive required size, answered with a size `≤ 0`, and a range admitting no size
    whose rounded size's bytes pass `2^63`, where the last check wraps. -/
theorem calculateStorageGB_ok {r l : Int64} {t : String} {n : Int64}
    (h : calculateStorageGB (some ⟨r, l⟩) t = .ok n) :
    IsLeast {x | Admissible r.val l.val t x} n.val ∨ (r.val ≤ 0 ∧ 0 < l.val ∧ n.val ≤ 0) ∨
      ((∀ x, ¬ Admissible r.val l.val t x) ∧ 2 ^ 63 ≤ n.val * 1073741824) := by
  rw [calculateStorageGB_some] at h
  split_ifs at h with h1 h2 h3 h4 <;> cases h
  · exact .inl (val_stepSizeGB t ▸ isLeast_step h1.1 (.inl h1.2))
  · have := roundedSizeGB_bytes_bounds r t
    rw [val_roundedSizeGB_mul_gb] at h4
    by_cases hr : 0 < r.val
    · by_cases hw : 0 < l.val ∧ 2 ^ 63 ≤ (roundedSizeGB r (stepSizeGB t)).val * 1073741824
      · -- the bytes wrapped past the limit check, and no admitted size is below `2^63` bytes
        refine .inr (.inr ⟨fun x hx => ?_, hw.2⟩)
        have := roundedSizeGB_le_of_admissible hr hx
        obtain ⟨-, -, -, -, hl'⟩ := hx
        have := l.lt_max
        omega
      · exact .inl (isLeast_roundedSizeGB hr (by split at h4 <;> omega))
    · exact .inr (.inl ⟨not_lt.mp hr, by omega, (roundedSizeGB_nonpos t (not_lt.mp hr)).1⟩)

/-- **Two ranges answered against the law.**  A 5 GiB limit and no required size admit 1 GB and
    up, and get 0 GB.  A required size and a limit of `2^63 - 1` bytes admit no size, since no
    whole number of GiB is `2^63 - 1` bytes, and get `2^33` GB. -/
theorem calculateStorageGB_diverges :
    calculateStorageGB (some ⟨0, 5368709120⟩) "ssd" = .ok 0 ∧
      IsLeast {x | Admissible 0 5368709120 "ssd" x} 1 ∧
    calculateStorageGB (some ⟨9223372036854775807, 9223372036854775807⟩) "ssd" =
      .ok 8589934592 ∧
      ∀ x, ¬ Admissible 9223372036854775807 9223372036854775807 "ssd" x := by
  have hs : stepOf "ssd" = 1 := rfl
  refine ⟨rfl, hs ▸ isLeast_step le_rfl (.inr (by rw [hs]; omega)), rfl, ?_⟩
  rintro x ⟨k, -, hx, hr, hl⟩
  rw [hs] at hx
  omega

end CsiCloudscale
