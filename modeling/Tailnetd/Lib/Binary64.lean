/-
  Rounding to the 64-bit binary floating-point numbers.

  A positive number is kept to its 53 leading binary digits, to the nearest such number and, of two
  that are equally near, to the one whose last digit is even.  The exponent is not bounded here: the
  numbers that a double is too small or too large for are rounded as if it were not, which is what a
  computation that truncates the one and never meets the other needs.
-/
import Mathlib.Data.Int.Log
import Mathlib.Data.Rat.Floor
import Mathlib.Tactic.Linarith
import Mathlib.Tactic.NormNum

namespace Binary64

/-- The integer nearest to a number; of two that are equally near, the even one. -/
def roundEven (q : ℚ) : ℤ :=
  if Int.fract q < 1 / 2 then ⌊q⌋
  else if 1 / 2 < Int.fract q then ⌊q⌋ + 1
  else if ⌊q⌋ % 2 = 0 then ⌊q⌋
  else ⌊q⌋ + 1

/-- The exponent of the last of the 53 binary digits of a positive number. -/
def lastPlace (q : ℚ) : ℤ := Int.log 2 q - 52

/-- The binary64 number nearest to a number that is not negative. -/
def nearest (q : ℚ) : ℚ :=
  if q ≤ 0 then 0 else roundEven (q / 2 ^ lastPlace q) * 2 ^ lastPlace q

example : nearest (1 / 10) = 3602879701896397 / 36028797018963968 := by decide +kernel

/-- A whole number is its own rounding. -/
theorem roundEven_intCast (n : ℤ) : roundEven n = n := by
  have hfract : Int.fract (n : ℚ) < 1 / 2 := by
    rw [Int.fract_intCast]
    norm_num
  rw [roundEven, if_pos hfract, Int.floor_intCast]

/-- A number that is a whole multiple of its last place is a binary64 number already. -/
theorem nearest_of_integral {q : ℚ} {m : ℤ} (hpos : 0 < q) (hm : q / 2 ^ lastPlace q = m) :
    nearest q = q := by
  have hplace : (2 : ℚ) ^ lastPlace q ≠ 0 := zpow_ne_zero _ two_ne_zero
  rw [nearest, if_neg (not_le.mpr hpos), hm, roundEven_intCast, ← hm, div_mul_cancel₀ q hplace]

/-- The last place of a natural number below `2 ^ 53` is no larger than a unit. -/
theorem lastPlace_natCast_nonpos {n : ℕ} (h : n < 2 ^ 53) : lastPlace n ≤ 0 := by
  have hlog : Nat.log 2 n < 53 := Nat.log_lt_of_lt_pow' (by decide) h
  have hcast : Int.log 2 (n : ℚ) = Nat.log 2 n := Int.log_natCast 2 n
  rw [lastPlace, hcast]
  omega

/-- **The natural numbers below `2 ^ 53` are exact.** -/
theorem nearest_natCast {n : ℕ} (h : n < 2 ^ 53) : nearest n = n := by
  rcases Nat.eq_zero_or_pos n with rfl | hpos
  · rfl
  · have hnonpos := lastPlace_natCast_nonpos h
    obtain ⟨j, hj⟩ : ∃ j : ℕ, lastPlace n = -j := ⟨(-lastPlace n).toNat, by omega⟩
    -- a last place of at most a unit divides every whole number
    have hwhole : (n : ℚ) / 2 ^ lastPlace n = ((n * 2 ^ j : ℕ) : ℤ) := by
      rw [hj, zpow_neg, zpow_natCast, div_inv_eq_mul]
      push_cast
      rfl
    exact nearest_of_integral (by exact_mod_cast hpos) hwhole

/-- Rounding moves a number by a unit at most. -/
theorem roundEven_close (q : ℚ) : q - 1 ≤ roundEven q ∧ (roundEven q : ℚ) ≤ q + 1 := by
  have hlow := Int.floor_le q
  have hhigh := Int.lt_floor_add_one q
  rw [roundEven]
  split
  · exact ⟨by linarith, by linarith⟩
  · split
    · push_cast
      exact ⟨by linarith, by linarith⟩
    · split
      · exact ⟨by linarith, by linarith⟩
      · push_cast
        exact ⟨by linarith, by linarith⟩

/-- **The rounding error** of a positive number is at most its `2 ^ 52`nd part. -/
theorem nearest_close {q : ℚ} (hpos : 0 < q) :
    q - q / 2 ^ 52 ≤ nearest q ∧ nearest q ≤ q + q / 2 ^ 52 := by
  have hplace : (0 : ℚ) < 2 ^ lastPlace q := zpow_pos (by norm_num) _
  -- a unit in the last place is that part of the number at most
  have hunit : (2 : ℚ) ^ lastPlace q ≤ q / 2 ^ 52 := by
    have hlog : ((2 : ℕ) : ℚ) ^ Int.log 2 q ≤ q := Int.zpow_log_le_self (by decide) hpos
    have hsplit : (2 : ℚ) ^ lastPlace q = (2 : ℚ) ^ Int.log 2 q / 2 ^ 52 := by
      rw [lastPlace, zpow_sub₀ two_ne_zero]
      norm_num
    rw [hsplit]
    exact div_le_div_of_nonneg_right (by exact_mod_cast hlog) (by norm_num)
  have hback : q / 2 ^ lastPlace q * 2 ^ lastPlace q = q := div_mul_cancel₀ q hplace.ne'
  obtain ⟨hlow, hhigh⟩ := roundEven_close (q / 2 ^ lastPlace q)
  have hlow' := mul_le_mul_of_nonneg_right hlow hplace.le
  have hhigh' := mul_le_mul_of_nonneg_right hhigh hplace.le
  rw [sub_mul, hback, one_mul] at hlow'
  rw [add_mul, hback, one_mul] at hhigh'
  rw [nearest, if_neg (not_le.mpr hpos)]
  exact ⟨by linarith, by linarith⟩

theorem nearest_nonpos {q : ℚ} (h : q ≤ 0) : nearest q = 0 := if_pos h

/-- Rounding does not double a number. -/
theorem nearest_le_double {q : ℚ} (h : 0 ≤ q) : nearest q ≤ 2 * q := by
  rcases h.eq_or_lt with hzero | hpos
  · rw [nearest_nonpos hzero.ge]
    linarith
  · have hclose := (nearest_close hpos).2
    have hpart : q / 2 ^ 52 ≤ q := div_le_self hpos.le (by norm_num)
    linarith

theorem nearest_pos {q : ℚ} (h : 0 < q) : 0 < nearest q := by
  have hclose := (nearest_close h).1
  have hpart : q / 2 ^ 52 < q := div_lt_self h (by norm_num)
  linarith

theorem nearest_nonneg (q : ℚ) : 0 ≤ nearest q := by
  rcases le_or_gt q 0 with h | h
  · exact (nearest_nonpos h).ge
  · exact (nearest_pos h).le

end Binary64
