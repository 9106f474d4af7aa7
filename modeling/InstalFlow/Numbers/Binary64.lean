import Mathlib.Algebra.Order.Floor.Ring
import Mathlib.Data.Int.Log
import Mathlib.Data.Rat.Floor
import Mathlib.Tactic.Linarith
import Mathlib.Tactic.NormNum

/-!
# Binary floating point

A number in binary floating point has 53 significant bits, and an operation rounds its exact
result to the nearest such number. The results of short computations are compared with the exact
ones by the number of roundings between them. Exponents are not bounded, so the range of normal
numbers is that of all numbers.
-/

namespace Binary64

/-- To the nearest integer, and from the middle to the even one -/
def roundEven (x : ℚ) : ℤ :=
  if x - ⌊x⌋ < 1 / 2 then ⌊x⌋
  else if 1 / 2 < x - ⌊x⌋ then ⌊x⌋ + 1
  else ⌊x⌋ + ⌊x⌋ % 2

/-- The last of the 53 places -/
def ulp (x : ℚ) : ℚ := 2 ^ (Int.log 2 |x| - 52)

def nearest (x : ℚ) : ℚ := roundEven (x / ulp x) * ulp x

theorem abs_roundEven_sub_le (x : ℚ) : |(roundEven x : ℚ) - x| ≤ 1 / 2 := by
  have hfloor := Int.floor_le x
  have hnext := Int.lt_floor_add_one x
  rw [roundEven]
  split_ifs with hdown hup
  · rw [abs_le]
    constructor <;> linarith
  · rw [abs_le]
    push_cast
    constructor <;> linarith
  · have hmiddle : x - ⌊x⌋ = 1 / 2 := le_antisymm (not_lt.mp hup) (not_lt.mp hdown)
    rcases Int.emod_two_eq_zero_or_one ⌊x⌋ with heven | hodd
    · rw [heven, add_zero, abs_le]
      constructor <;> linarith
    · rw [hodd, abs_le]
      push_cast
      constructor <;> linarith

theorem ulp_pos (x : ℚ) : 0 < ulp x := zpow_pos two_pos _

theorem ulp_le {x : ℚ} (hx : x ≠ 0) : ulp x ≤ |x| / 2 ^ 52 := by
  have hlog : (2 : ℚ) ^ Int.log 2 |x| ≤ |x| := by
    exact_mod_cast Int.zpow_log_le_self (b := 2) one_lt_two (abs_pos.mpr hx)
  rw [ulp, zpow_sub₀ two_ne_zero]
  exact div_le_div_of_nonneg_right hlog (by norm_num)

@[simp] theorem nearest_zero : nearest 0 = 0 := by
  have hzero : roundEven 0 = 0 := by
    rw [roundEven, Int.floor_zero, Int.cast_zero, sub_zero, if_pos (by norm_num)]
  rw [nearest, zero_div, hzero, Int.cast_zero, zero_mul]

theorem abs_nearest_sub_le (x : ℚ) : |nearest x - x| ≤ |x| / 2 ^ 53 := by
  by_cases hx : x = 0
  · simp [hx]
  have hulp := ulp_pos x
  have hscale : nearest x - x = (roundEven (x / ulp x) - x / ulp x) * ulp x := by
    rw [sub_mul, div_mul_cancel₀ x hulp.ne', nearest]
  rw [hscale, abs_mul, abs_of_pos hulp]
  calc |(roundEven (x / ulp x) : ℚ) - x / ulp x| * ulp x
      ≤ 1 / 2 * ulp x := mul_le_mul_of_nonneg_right (abs_roundEven_sub_le _) hulp.le
    _ ≤ 1 / 2 * (|x| / 2 ^ 52) := mul_le_mul_of_nonneg_left (ulp_le hx) (by norm_num)
    _ = |x| / 2 ^ 53 := by ring

/-- A computed number is so many units of relative error away from the exact one. -/
def Within (n : ℚ) (exact computed : ℚ) : Prop := |computed - exact| ≤ n / 2 ^ 53 * exact

variable {n x y z w : ℚ}

theorem within_nearest (hx : 0 ≤ x) : Within 1 x (nearest x) := by
  have h := abs_nearest_sub_le x
  rw [abs_of_nonneg hx] at h
  rw [Within]
  linarith

theorem Within.mul_right (h : Within n x y) (hz : 0 ≤ z) : Within n (x * z) (y * z) := by
  rw [Within, ← sub_mul, abs_mul, abs_of_nonneg hz, ← mul_assoc]
  exact mul_le_mul_of_nonneg_right h hz

theorem Within.bounds (h : Within n x y) : x - n / 2 ^ 53 * x ≤ y ∧ y ≤ x + n / 2 ^ 53 * x := by
  obtain ⟨hlow, hhigh⟩ := abs_le.mp h
  constructor <;> linarith

/-- Another rounding costs two units at most. -/
theorem Within.nearest (h : Within n x y) (hx : 0 ≤ x) (hn : n ≤ 2 ^ 53) :
    Within (n + 2) x (nearest y) := by
  obtain ⟨hlow, hhigh⟩ := h.bounds
  have hunit : n / 2 ^ 53 ≤ 1 := (div_le_one (by norm_num)).mpr hn
  have hy : 0 ≤ y := by nlinarith
  have hround := abs_nearest_sub_le y
  rw [abs_of_nonneg hy] at hround
  have htwice : y ≤ 2 * x := by nlinarith
  calc |Binary64.nearest y - x| ≤ |Binary64.nearest y - y| + |y - x| := abs_sub_le _ _ _
    _ ≤ y / 2 ^ 53 + n / 2 ^ 53 * x := add_le_add hround h
    _ ≤ 2 * x / 2 ^ 53 + n / 2 ^ 53 * x := by linarith
    _ = (n + 2) / 2 ^ 53 * x := by ring

/-- The quotient of two rounded numbers -/
theorem Within.div (hxy : Within 1 x y) (hzw : Within 1 z w) (hx : 0 ≤ x) (hz : 0 < z) :
    Within 3 (x / z) (y / w) := by
  obtain ⟨hlow, hhigh⟩ := hzw.bounds
  have hw : 0 < w := by linarith
  have hcross : y / w - x / z = ((y - x) * z - x * (w - z)) / (w * z) := by
    field_simp
    ring
  have hnum : |(y - x) * z - x * (w - z)| ≤ 2 / 2 ^ 53 * (x * z) := by
    calc |(y - x) * z - x * (w - z)| ≤ |(y - x) * z| + |x * (w - z)| := abs_sub _ _
      _ = |y - x| * z + x * |w - z| := by
        rw [abs_mul, abs_mul, abs_of_pos hz, abs_of_nonneg hx]
      _ ≤ 1 / 2 ^ 53 * x * z + x * (1 / 2 ^ 53 * z) :=
        add_le_add (mul_le_mul_of_nonneg_right hxy hz.le) (mul_le_mul_of_nonneg_left hzw hx)
      _ = 2 / 2 ^ 53 * (x * z) := by ring
  rw [Within, hcross, abs_div, abs_of_pos (mul_pos hw hz), div_le_iff₀ (mul_pos hw hz)]
  have hxz : 0 ≤ x * z := mul_nonneg hx hz.le
  calc |(y - x) * z - x * (w - z)| ≤ 2 / 2 ^ 53 * (x * z) := hnum
    _ ≤ 3 / 2 ^ 53 * (x * w) := by nlinarith
    _ = 3 / 2 ^ 53 * (x / z) * (w * z) := by
      field_simp

/-- A number close enough to a fraction that is no integer lies between the same integers. -/
theorem floor_eq_of_close {a b : ℤ} (hb : 0 < b) (hab : ¬ b ∣ a) {x : ℚ}
    (h : |x - a / b| < 1 / b) : ⌊x⌋ = ⌊(a / b : ℚ)⌋ := by
  have hpos : (0 : ℚ) < b := by exact_mod_cast hb
  have hsplit : (a : ℚ) / b = (a / b : ℤ) + (a % b : ℤ) / b := by
    rw [div_eq_iff hpos.ne', add_mul, div_mul_cancel₀ _ hpos.ne']
    exact_mod_cast (Int.ediv_mul_add_emod a b).symm
  have hrest : 1 ≤ a % b ∧ a % b + 1 ≤ b := by
    have hnonneg := Int.emod_nonneg a hb.ne'
    have hlt := Int.emod_lt_of_pos a hb
    have hne : a % b ≠ 0 := fun h => hab (Int.dvd_of_emod_eq_zero h)
    omega
  have hfirst : 1 / (b : ℚ) ≤ (a % b : ℤ) / b :=
    div_le_div_of_nonneg_right (by exact_mod_cast hrest.1) hpos.le
  have hlast : ((a % b : ℤ) : ℚ) / b + 1 / b ≤ 1 := by
    rw [← add_div, div_le_one hpos]
    exact_mod_cast hrest.2
  obtain ⟨hlow, hhigh⟩ := abs_lt.mp h
  have hunit : 0 < 1 / (b : ℚ) := one_div_pos.mpr hpos
  have hleft : ⌊x⌋ = a / b := Int.floor_eq_iff.mpr ⟨by linarith, by linarith⟩
  have hright : ⌊(a / b : ℚ)⌋ = a / b := Int.floor_eq_iff.mpr ⟨by linarith, by linarith⟩
  rw [hleft, hright]

end Binary64
