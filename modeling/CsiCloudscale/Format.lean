/-
  The byte formatter: `formatBytes` (controller.go, lines 599-623), which writes the byte counts
  into the texts of `calculateStorageGB`'s errors.

  `formatBytes` converts the count to a `float64`, divides it by the largest binary unit it
  reaches (`KB = 1 << 10` up to `TB = 1 << 40`), prints the quotient with one decimal
  (`strconv.FormatFloat(output, 'f', 1, 64)`) and drops a trailing `.0`.  Each step is exact
  arithmetic on a magnitude over a power of two:

  * `float64(inputBytes)` rounds the magnitude to 53 significant bits, a tie to the even
    neighbour (`float64OfNat`); below `2^53` it is exact;
  * dividing by a unit, a power of two, is exact;
  * `FormatFloat` with a precision goes through `bigFtoa`: the exact decimal expansion of the
    value, rounded by `decimal.Round` at the first decimal, a tie to the even digit
    (`roundTenths`), and printed by `fmtF` (`fmtTenths`).

  What a positive count prints as is then stated without the algorithm (`formatBytes_pos`): the
  count in the largest unit it reaches, to the nearest tenth, a tie to the even tenth, without
  the `.0` of a whole number.  Two consequences: whole units print exactly
  (`formatBytes_whole_units`), and a count within half a tenth below the next unit prints as
  `1024` of its own unit (`formatBytes_rounds_up_to_1024`).  Every count in the text of a
  capacity error is positive (`calculateStorageGB_error_bytes_pos`), so this is how those texts
  read.
-/
import Mathlib.Tactic.IntervalCases
import CsiCloudscale.CapacityLaw

namespace CsiCloudscale

open Csi

/-! ## `float64` and `FormatFloat` -/

/-- `float64(n)` for a magnitude `n`: `n` rounded to 53 significant bits, a tie to the even
    neighbour.  `Nat.log2 n - 52` bits are dropped. -/
def float64OfNat (n : Nat) : Nat :=
  if n < 2 ^ 53 then n
  else
    let s := Nat.log2 n - 52
    let q := n / 2 ^ s
    let r := n % 2 ^ s
    (if 2 ^ (s - 1) < r ∨ (r = 2 ^ (s - 1) ∧ q % 2 = 1) then q + 1 else q) * 2 ^ s

/-- `decimal.Round(dp + 1)` on the exact decimal expansion of `m / 2^k`: the value in tenths,
    rounded to the nearest, a tie to the even tenth (`shouldRoundUp`). -/
def roundTenths (m k : Nat) : Nat :=
  let t := m * 10 / 2 ^ k
  let r := m * 10 % 2 ^ k
  if 2 ^ k < 2 * r ∨ (2 * r = 2 ^ k ∧ t % 2 = 1) then t + 1 else t

/-- `fmtF` with one decimal: the sign, the whole part, a point and the tenths digit. -/
def fmtTenths (neg : Bool) (d : Nat) : String :=
  (if neg then "-" else "") ++ toString (d / 10) ++ "." ++ toString (d % 10)

/-- `strconv.FormatFloat(x, 'f', 1, 64)` for `x = ±m / 2^k`: `bigFtoa`, as a precision is
    asked for. -/
def formatFloat (neg : Bool) (m k : Nat) : String := fmtTenths neg (roundTenths m k)

/-- `strings.TrimSuffix(s, suffix)`. -/
def trimSuffix (s suffix : String) : String :=
  if suffix.toList.isSuffixOf s.toList then ⟨s.toList.take (s.length - suffix.length)⟩ else s

/-- `formatBytes(inputBytes)`: the count in the largest binary unit it reaches, with one
    decimal, and no `.0`. -/
def formatBytes (inputBytes : Int64) : String :=
  let output := float64OfNat inputBytes.val.natAbs
  let neg := decide (inputBytes.val < 0)
  let finish (k : Nat) (unit : String) := trimSuffix (formatFloat neg output k) ".0" ++ unit
  if inputBytes.val ≥ 1099511627776 then finish 40 "Ti"
  else if inputBytes.val ≥ 1073741824 then finish 30 "Gi"
  else if inputBytes.val ≥ 1048576 then finish 20 "Mi"
  else if inputBytes.val ≥ 1024 then finish 10 "Ki"
  else if inputBytes.val = 0 then "0"
  else finish 0 ""

/-! ## What the text says -/

/-- `d` tenths is `x / 2^k` to the nearest tenth, a tie going to the even tenth. -/
def NearestTenths (x k d : Nat) : Prop :=
  2 * |10 * (x : Int) - d * 2 ^ k| < 2 ^ k ∨
    (2 * |10 * (x : Int) - d * 2 ^ k| = 2 ^ k ∧ d % 2 = 0)

instance (x k d : Nat) : Decidable (NearestTenths x k d) := by
  unfold NearestTenths; infer_instance

/-- A number of tenths as `formatBytes` writes it: the whole part, and the tenths digit unless it
    is `0`. -/
def tenthsText (d : Nat) : String :=
  if d % 10 = 0 then toString (d / 10) else toString (d / 10) ++ "." ++ toString (d % 10)

/-- The largest binary unit a count reaches, as its exponent and its suffix. -/
def binaryUnit (n : Nat) : Nat × String :=
  if 2 ^ 40 ≤ n then (40, "Ti") else if 2 ^ 30 ≤ n then (30, "Gi")
  else if 2 ^ 20 ≤ n then (20, "Mi") else if 2 ^ 10 ≤ n then (10, "Ki") else (0, "")

/-- `decimal.Round` rounds to the nearest tenth, a tie to the even one. -/
theorem roundTenths_nearest (m k : Nat) : NearestTenths m k (roundTenths m k) := by
  have hdm := Nat.div_add_mod (m * 10) (2 ^ k)
  have hr := Nat.mod_lt (m * 10) (Nat.two_pow_pos k)
  unfold NearestTenths roundTenths
  generalize m * 10 / 2 ^ k = t at *
  generalize m * 10 % 2 ^ k = r at *
  have hP : (2 : Int) ^ k = ((2 ^ k : Nat) : Int) := by push_cast; rfl
  rw [hP]
  generalize 2 ^ k = P at *
  have h10 : 10 * m = P * t + r := by omega
  have hdm' : 10 * (m : Int) = P * t + r := by exact_mod_cast h10
  dsimp only
  split_ifs with hup
  · have e : 10 * (m : Int) - ((t + 1 : Nat) : Int) * P = -(P - r) := by
      push_cast; rw [add_mul, one_mul, mul_comm (t : Int)]; omega
    rw [e, abs_neg, abs_of_nonneg (by omega)]
    omega
  · have e : 10 * (m : Int) - (t : Int) * P = r := by rw [mul_comm (t : Int)]; omega
    rw [e, abs_of_nonneg (by omega)]
    omega

/-- The text of a digit other than `0` is one character other than `0`. -/
theorem toString_digit {k : Nat} (hk : k < 10) (h0 : k ≠ 0) :
    ∃ c, (toString k).toList = [c] ∧ c ≠ '0' := by
  interval_cases k <;> first | exact absurd rfl h0 | exact ⟨_, rfl, by decide⟩

theorem trimSuffix_append (s : String) : trimSuffix (s ++ ".0") ".0" = s := by
  obtain ⟨l⟩ := s
  show (if ['.', '0'].isSuffixOf (l ++ ['.', '0']) then
    String.mk ((l ++ ['.', '0']).take ((l ++ ['.', '0']).length - 2)) else _) = _
  simp

theorem trimSuffix_of_last_ne {s : String} {c : Char} (hs : s.toList.getLast? = some c)
    (hc : c ≠ '0') : trimSuffix s ".0" = s := by
  unfold trimSuffix
  rw [if_neg]
  rintro h
  obtain ⟨t, ht⟩ := List.isSuffixOf_iff_suffix.mp h
  rw [← ht] at hs
  simp at hs
  exact hc hs.symm

/-- `TrimSuffix` drops exactly the `.0` of a whole number of units. -/
theorem trimSuffix_fmtTenths (d : Nat) : trimSuffix (fmtTenths false d) ".0" = tenthsText d := by
  simp only [fmtTenths, Bool.false_eq_true, if_false, tenthsText]
  split
  case isTrue h =>
    rw [h, show "" ++ toString (d / 10) ++ "." ++ toString 0 = toString (d / 10) ++ ".0" from
      String.ext (by simp; rfl)]
    exact trimSuffix_append _
  case isFalse h =>
    obtain ⟨c, hc, hc0⟩ := toString_digit (Nat.mod_lt d (by norm_num)) h
    refine trimSuffix_of_last_ne ?_ hc0
    have : (("" ++ toString (d / 10) ++ "." ++ toString (d % 10)).toList) =
      (toString (d / 10)).toList ++ ['.'] ++ [c] := by
      rw [← hc]; rfl
    rw [this]; simp

/-- A positive count is printed in the unit `binaryUnit` picks, from its `float64` value. -/
theorem formatBytes_of_pos (n : Int64) (h : 0 < n.val) :
    formatBytes n = trimSuffix (formatFloat false (float64OfNat n.val.toNat)
      (binaryUnit n.val.toNat).1) ".0" ++ (binaryUnit n.val.toNat).2 := by
  obtain ⟨N, hN⟩ := Int.eq_ofNat_of_zero_le h.le
  have hneg : decide ((N : Int) < 0) = false := decide_eq_false (by omega)
  unfold formatBytes binaryUnit
  simp only [hN, hneg, Int.natAbs_ofNat, Int.toNat_ofNat]
  by_cases h40 : 2 ^ 40 ≤ N
  · rw [if_pos (by omega), if_pos h40]
  by_cases h30 : 2 ^ 30 ≤ N
  · rw [if_neg (by omega), if_pos (by omega), if_neg h40, if_pos h30]
  by_cases h20 : 2 ^ 20 ≤ N
  · rw [if_neg (by omega), if_neg (by omega), if_pos (by omega), if_neg h40, if_neg h30, if_pos h20]
  by_cases h10 : 2 ^ 10 ≤ N
  · rw [if_neg (by omega), if_neg (by omega), if_neg (by omega), if_pos (by omega), if_neg h40,
      if_neg h30, if_neg h20, if_pos h10]
  rw [if_neg (by omega), if_neg (by omega), if_neg (by omega), if_neg (by omega), if_neg (by omega),
    if_neg h40, if_neg h30, if_neg h20, if_neg h10]

/-- The unit of a count from `2^e` up to, not including, `1024` times it. -/
theorem binaryUnit_eq {n e : Nat} {unit : String}
    (hu : (e, unit) ∈ [(10, "Ki"), (20, "Mi"), (30, "Gi"), (40, "Ti")])
    (h1 : 2 ^ e ≤ n) (h2 : n < 1024 * 2 ^ e ∨ e = 40) : binaryUnit n = (e, unit) := by
  simp only [List.mem_cons, Prod.mk.injEq, List.mem_singleton, List.not_mem_nil, or_false] at hu
  unfold binaryUnit
  rcases hu with ⟨rfl, rfl⟩ | ⟨rfl, rfl⟩ | ⟨rfl, rfl⟩ | ⟨rfl, rfl⟩ <;> repeat' split
  all_goals first | omega | rfl

/-- **What `formatBytes` prints for a positive count.**  The count in the largest binary unit it
    reaches (`Ki` from `1024` bytes up to `Ti`, none below), to the nearest tenth of its `float64`
    value, a tie to the even tenth, with the `.0` of a whole number dropped. -/
theorem formatBytes_pos (n : Int64) (h : 0 < n.val) :
    ∃ d, NearestTenths (float64OfNat n.val.toNat) (binaryUnit n.val.toNat).1 d ∧
      formatBytes n = tenthsText d ++ (binaryUnit n.val.toNat).2 :=
  ⟨_, roundTenths_nearest _ _, by rw [formatBytes_of_pos n h, formatFloat, trimSuffix_fmtTenths]⟩

theorem formatBytes_pos_gi :
    0 < (1610612736 : Int64).val ∧
    ∃ d, NearestTenths (float64OfNat (1610612736 : Int64).val.toNat)
        (binaryUnit (1610612736 : Int64).val.toNat).1 d ∧
      formatBytes 1610612736 = tenthsText d ++ (binaryUnit (1610612736 : Int64).val.toNat).2 :=
  ⟨by decide, formatBytes_pos 1610612736 (by decide)⟩

example : formatBytes 5368709120 = "5Gi" ∧ formatBytes 1610612736 = "1.5Gi" := by decide

@[simp] theorem float64OfNat_of_lt {n : Nat} (h : n < 2 ^ 53) : float64OfNat n = n := if_pos h

theorem roundTenths_of_near_1024 {n e : Nat} (h1 : 20479 * 2 ^ e ≤ 20 * n)
    (h2 : n < 1024 * 2 ^ e) : roundTenths n e = 10240 := by
  have hP := Nat.two_pow_pos e
  have ht : n * 10 / 2 ^ e = 10239 := Nat.div_eq_of_lt_le (by omega) (by omega)
  have hr := Nat.div_add_mod (n * 10) (2 ^ e)
  unfold roundTenths
  rw [ht] at hr ⊢
  dsimp only
  rw [if_pos (by omega)]

/-- **A count just short of the next unit prints as `1024` of its own.**  From within half a
    tenth of `1024` units below the next unit, `formatBytes` rounds the count up to `1024.0`
    and prints `1024Ki`, `1024Mi` or `1024Gi`, never `1Mi`, `1Gi` or `1Ti`. -/
theorem formatBytes_rounds_up_to_1024 (n : Int64) {e : Nat} {unit : String}
    (hu : (e, unit) ∈ [(10, "Ki"), (20, "Mi"), (30, "Gi")])
    (h1 : 20479 * 2 ^ e ≤ 20 * n.val) (h2 : n.val < 1024 * 2 ^ e) :
    formatBytes n = "1024" ++ unit := by
  have he : 2 ^ e ≤ 2 ^ 30 := by
    simp only [List.mem_cons, Prod.mk.injEq, List.mem_singleton, List.not_mem_nil, or_false] at hu
    rcases hu with ⟨rfl, -⟩ | ⟨rfl, -⟩ | ⟨rfl, -⟩ <;> norm_num
  have hpos : 0 < n.val := by have := Nat.two_pow_pos e; omega
  obtain ⟨N, hN⟩ := Int.eq_ofNat_of_zero_le hpos.le
  rw [hN] at h1 h2
  have h1' : 20479 * 2 ^ e ≤ 20 * N := by exact_mod_cast h1
  have h2' : N < 1024 * 2 ^ e := by exact_mod_cast h2
  have hunit : binaryUnit N = (e, unit) :=
    binaryUnit_eq (List.mem_append_left [(40, "Ti")] hu) (by omega) (.inl h2')
  rw [formatBytes_of_pos n hpos, hN, Int.toNat_ofNat, hunit, float64OfNat_of_lt (by omega),
    formatFloat, trimSuffix_fmtTenths, roundTenths_of_near_1024 h1' h2']
  rfl

example : formatBytes 1048575 = "1024Ki" :=
  @formatBytes_rounds_up_to_1024 1048575 10 "Ki" (by decide) (by decide) (by decide)

theorem roundTenths_mul_two_pow (k e : Nat) : roundTenths (k * 2 ^ e) e = 10 * k := by
  have h : k * 2 ^ e * 10 = 10 * k * 2 ^ e := by rw [Nat.mul_right_comm, Nat.mul_comm k]
  unfold roundTenths
  have hP := Nat.two_pow_pos e
  simp only [h, Nat.mul_div_cancel _ hP, Nat.mul_mod_left]
  rw [if_neg (by omega)]

/-- **Whole units print exactly.**  `k` whole units of `Ki`, `Mi` or `Gi` (`k < 1024`), or of
    `Ti`, print as `k` and the unit, with no decimal; the steps of `calculateStorageGB` print as
    `1Gi` and `100Gi`. -/
theorem formatBytes_whole_units (n : Int64) {k e : Nat} {unit : String}
    (hu : (e, unit) ∈ [(10, "Ki"), (20, "Mi"), (30, "Gi"), (40, "Ti")])
    (hk : 1 ≤ k) (hlt : k < 1024 ∨ e = 40) (hn : n.val = (k * 2 ^ e : Nat)) (h53 : k * 2 ^ e < 2 ^ 53) :
    formatBytes n = toString k ++ unit := by
  have he := Nat.two_pow_pos e
  have hpos : 0 < n.val := by rw [hn]; exact_mod_cast Nat.mul_pos hk he
  have hunit : binaryUnit (k * 2 ^ e) = (e, unit) :=
    binaryUnit_eq hu (Nat.le_mul_of_pos_left _ hk) (hlt.imp_left fun h => by
      exact Nat.mul_lt_mul_of_pos_right h he)
  have htext : tenthsText (10 * k) = toString k := by
    simp [tenthsText, Nat.mul_mod_right, Nat.mul_div_cancel_left k (by norm_num : 0 < 10)]
  rw [formatBytes_of_pos n hpos, hn, Int.toNat_ofNat, hunit, float64OfNat_of_lt h53,
    formatFloat, trimSuffix_fmtTenths, roundTenths_mul_two_pow, htext]

example : formatBytes (stepSizeGB "bulk" * gb) = "100Gi" :=
  @formatBytes_whole_units (stepSizeGB "bulk" * gb) 100 30 "Gi" (by decide) (by decide) (by decide)
    (by rw [val_stepSizeGB_mul_gb]; rfl) (by decide)

/-! ## The counts in the capacity errors -/

/-- **The capacity errors format only positive counts.**  Every byte count in the text of an
    error `calculateStorageGB` returns is positive, so `formatBytes_pos` says how it reads. -/
theorem calculateStorageGB_error_bytes_pos {capRange : Option CapacityRange} {t : String}
    {e : CapacityError} (h : calculateStorageGB capRange t = .error e) {b : Int64}
    (hb : Arg.bytes b ∈ e.message.args) : 0 < b.val := by
  obtain _ | ⟨r, l⟩ := capRange
  · cases h
  rw [calculateStorageGB_some] at h
  split_ifs at h with h1 h2 h3 h4 <;> cases h <;>
    simp only [CapacityError.message, List.mem_cons, Arg.bytes.injEq, reduceCtorEq,
      List.mem_singleton, List.not_mem_nil, or_false, false_or] at hb
  · rcases hb with rfl | rfl <;> omega
  · rcases hb with rfl | rfl
    · exact h3.1
    · rw [val_stepSizeGB_mul_gb]; have := stepOf_cases t; omega
  · -- a required size `≤ 0` rounds to a size whose bytes are `≤ 0`, below the limit
    have hr : 0 < r.val := by
      by_contra hr
      have := roundedSizeGB_nonpos t (not_lt.mp hr)
      have := roundedSizeGB_bytes_bounds r t
      rw [val_roundedSizeGB_mul_gb] at h4
      split at h4 <;> omega
    rcases hb with rfl | rfl | rfl
    · exact hr
    · exact h4.1
    · omega

/-- A limit of half a GiB on an `ssd` volume, below its one-GiB step. -/
theorem calculateStorageGB_error_bytes_pos_half_gi :
    calculateStorageGB (some ⟨0, 536870912⟩) "ssd" =
      .error (.limitBelowMinimum 536870912 "ssd" (stepSizeGB "ssd" * gb)) ∧
    Arg.bytes 536870912 ∈
      (CapacityError.limitBelowMinimum 536870912 "ssd" (stepSizeGB "ssd" * gb)).message.args ∧
    0 < (536870912 : Int64).val :=
  have h : calculateStorageGB (some ⟨0, 536870912⟩) "ssd" =
      .error (.limitBelowMinimum 536870912 "ssd" (stepSizeGB "ssd" * gb)) := rfl
  have hb : Arg.bytes 536870912 ∈
      (CapacityError.limitBelowMinimum 536870912 "ssd" (stepSizeGB "ssd" * gb)).message.args :=
    List.mem_cons_self _ _
  ⟨h, hb, calculateStorageGB_error_bytes_pos h hb⟩

end CsiCloudscale
