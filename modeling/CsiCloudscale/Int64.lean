/-
  Go's 64-bit integers, as `controller.go` computes with them.

  `calculateStorageGB` and the three places that report a capacity (`CreateVolume`,
  `ListVolumes`, `ControllerExpandVolume`) compute in Go's 64-bit integers: `int64` for the byte
  counts of a `csi.CapacityRange`, and `int` for gigabyte counts, which is 64 bits wide on every
  platform the driver is built for.  Go's arithmetic on them WRAPS: `+` and `*` are the exact
  result taken modulo `2^64` into `[-2^63, 2^63)`, and `/` truncates toward zero.

  An `Int64` carries its range as fields, so no value outside it can be built.  `wrap` is the
  two's-complement truncation, and each operation is the exact integer operation followed by
  `wrap`.  The lemmas below say when the wrap is the identity, and what it gives one step past
  the top; the proofs about capacities use only those, never the definition of `wrap` itself.
-/

import Mathlib.Algebra.Order.Ring.Int

namespace CsiCloudscale

/-- A Go `int64` (and a Go `int`): an integer in `[-2^63, 2^63)`. -/
structure Int64 where
  val : Int
  min_le : -2 ^ 63 ≤ val
  lt_max : val < 2 ^ 63
  deriving DecidableEq, Repr

namespace Int64

/-- Two's-complement truncation: the `Int64` Go keeps of an exact integer result. -/
def wrap (x : Int) : Int64 :=
  ⟨(x + 2 ^ 63) % 2 ^ 64 - 2 ^ 63, by omega, by omega⟩

instance : OfNat Int64 n := ⟨wrap n⟩
instance : Add Int64 := ⟨fun a b => wrap (a.val + b.val)⟩
instance : Mul Int64 := ⟨fun a b => wrap (a.val * b.val)⟩
/-- Go's `/` truncates toward zero; only `-2^63 / -1` wraps. -/
instance : Div Int64 := ⟨fun a b => wrap (a.val.tdiv b.val)⟩
instance : LT Int64 := ⟨fun a b => a.val < b.val⟩
instance : LE Int64 := ⟨fun a b => a.val ≤ b.val⟩
instance (a b : Int64) : Decidable (a < b) := inferInstanceAs (Decidable (a.val < b.val))
instance (a b : Int64) : Decidable (a ≤ b) := inferInstanceAs (Decidable (a.val ≤ b.val))

/-- A value in range is kept as it is. -/
theorem val_wrap {x : Int} (h1 : -2 ^ 63 ≤ x) (h2 : x < 2 ^ 63) : (wrap x).val = x := by
  simp only [wrap]; omega

@[ext] theorem ext {a b : Int64} (h : a.val = b.val) : a = b := by
  cases a; cases b; cases h; rfl

@[simp] theorem lt_iff (a b : Int64) : a < b ↔ a.val < b.val := Iff.rfl
@[simp] theorem le_iff (a b : Int64) : a ≤ b ↔ a.val ≤ b.val := Iff.rfl

@[simp] theorem val_ofNat (n : Nat) [n.AtLeastTwo] (h : n < 2 ^ 63) :
    (OfNat.ofNat n : Int64).val = n :=
  val_wrap (by omega) (by omega)

@[simp] theorem val_zero : (0 : Int64).val = 0 := rfl
@[simp] theorem val_one : (1 : Int64).val = 1 := rfl

theorem val_add (a b : Int64) : (a + b).val = (wrap (a.val + b.val)).val := rfl
theorem val_mul (a b : Int64) : (a * b).val = (wrap (a.val * b.val)).val := rfl

/-- `+` does not wrap when the exact sum is in range. -/
theorem val_add_of_lt {a b : Int64} (h : a.val + b.val < 2 ^ 63) (h' : -2 ^ 63 ≤ a.val + b.val) :
    (a + b).val = a.val + b.val :=
  val_wrap h' h

/-- `*` does not wrap when the exact product is in range. -/
theorem val_mul_of_lt {a b : Int64} (h : a.val * b.val < 2 ^ 63) (h' : -2 ^ 63 ≤ a.val * b.val) :
    (a * b).val = a.val * b.val :=
  val_wrap h' h

/-- `*` wraps once when the exact product is past the top but less than `2^64` beyond it. -/
theorem val_mul_of_ge {a b : Int64} (h : 2 ^ 63 ≤ a.val * b.val)
    (h' : a.val * b.val < 2 ^ 63 + 2 ^ 64) : (a * b).val = a.val * b.val - 2 ^ 64 := by
  rw [val_mul]; simp only [wrap]; omega

/-- Truncating division by a positive number, as floor division of the magnitude. -/
theorem tdiv_of_pos (a : Int) {b : Int} (hb : 0 < b) :
    a.tdiv b = if 0 ≤ a then a / b else -((-a) / b) := by
  split
  · exact Int.tdiv_eq_ediv ‹_› hb.le
  · rw [← Int.tdiv_eq_ediv (by omega) hb.le, Int.neg_tdiv, Int.neg_neg]

/-- Dividing by a positive `Int64` never wraps. -/
theorem val_div_of_pos (a : Int64) {b : Int64} (hb : 0 < b.val) :
    (a / b).val = a.val.tdiv b.val := by
  have ha := a.min_le
  have ha' := a.lt_max
  have hq : -2 ^ 63 ≤ a.val.tdiv b.val ∧ a.val.tdiv b.val < 2 ^ 63 := by
    rw [tdiv_of_pos _ hb]
    split
    · exact ⟨by have := Int.ediv_nonneg ‹0 ≤ a.val› hb.le; omega,
        by have := Int.ediv_le_self b.val ‹0 ≤ a.val›; omega⟩
    · exact ⟨by have := Int.ediv_le_self b.val (show 0 ≤ -a.val by omega); omega,
        by have := Int.ediv_nonneg (show 0 ≤ -a.val by omega) hb.le; omega⟩
  exact val_wrap hq.1 hq.2

end Int64

end CsiCloudscale
