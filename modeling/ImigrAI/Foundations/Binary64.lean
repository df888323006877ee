import ImigrAI.Foundations.Rounding
import Mathlib.Data.Int.Log

/-!
# Binary64 numbers as rationals

A finite binary64 number is a rational `m * 2 ^ e` with a mantissa below `2 ^ 53` and an
exponent in the range of the format. Rounding a rational goes through its last place, the
power of two that the mantissa counts. Rounding is monotone and the identity on the numbers
of the format, which is all that comparisons of rounded values rest on.
-/

namespace ImigrAI.Binary64

open Rounding

/-- A rational that is a number of the format. -/
def Representable (value : ℚ) : Prop :=
  ∃ mantissa exponent : ℤ,
    |mantissa| < 2 ^ 53 ∧ -1074 ≤ exponent ∧ exponent ≤ 971 ∧ value = mantissa * 2 ^ exponent

/-- The exponent of the last place of a rational. -/
def lastPlace (value : ℚ) : ℤ :=
  max (Int.log 2 |value| - 52) (-1074)

/-- The nearest multiple of the last place, ties to even. -/
def nearest (value : ℚ) : ℚ :=
  roundHalfEven (value / 2 ^ lastPlace value) * 2 ^ lastPlace value

/-- The bound that a finite number stays below. -/
def overflowBound : ℚ := 2 ^ (1024 : ℤ)

theorem two_zpow_pos (exponent : ℤ) : (0 : ℚ) < 2 ^ exponent := zpow_pos (by norm_num) _

theorem lt_two_zpow_log (value : ℚ) : |value| < 2 ^ (Int.log 2 |value| + 1) := by
  simpa using Int.lt_zpow_succ_log_self (b := 2) (by norm_num) |value|

theorem two_zpow_log_le {value : ℚ} (nonzero : value ≠ 0) :
    (2 : ℚ) ^ Int.log 2 |value| ≤ |value| := by
  simpa using Int.zpow_log_le_self (b := 2) (by norm_num) (abs_pos.mpr nonzero)

theorem log_lt_of_lt_zpow {value : ℚ} {bound : ℤ} (nonzero : value ≠ 0)
    (lt : |value| < 2 ^ bound) : Int.log 2 |value| < bound := by
  apply (Int.lt_zpow_iff_log_lt (b := 2) (by norm_num) (abs_pos.mpr nonzero)).mp
  simpa using lt

theorem lastPlace_neg (value : ℚ) : lastPlace (-value) = lastPlace value := by
  simp [lastPlace]

theorem nearest_neg (value : ℚ) : nearest (-value) = -nearest value := by
  simp only [nearest, lastPlace_neg, neg_div, roundHalfEven_neg]
  push_cast
  ring

/-- A multiple of the last place is left alone. -/
theorem nearest_of_multiple {value : ℚ} {mantissa exponent : ℤ}
    (place_le : lastPlace value ≤ exponent) (value_eq : value = mantissa * 2 ^ exponent) :
    nearest value = value := by
  rcases Int.eq_ofNat_of_zero_le (sub_nonneg.mpr place_le) with ⟨shift, shift_eq⟩
  have scaled : value / 2 ^ lastPlace value = ((mantissa * 2 ^ shift : ℤ) : ℚ) := by
    rw [div_eq_iff (two_zpow_pos _).ne', value_eq]
    have exponent_eq : exponent = (shift : ℤ) + lastPlace value := by omega
    conv_lhs => rw [exponent_eq, zpow_add₀ (by norm_num : (2 : ℚ) ≠ 0), zpow_natCast]
    rw [← value_eq]
    push_cast
    ring
  rw [nearest, scaled, roundHalfEven_intCast, ← scaled,
    div_mul_cancel₀ _ (two_zpow_pos _).ne']

/-- Rounding is the identity on the numbers of the format. -/
theorem nearest_of_representable {value : ℚ} (representable : Representable value) :
    nearest value = value := by
  rcases representable with ⟨mantissa, exponent, mantissa_lt, exponent_ge, -, value_eq⟩
  by_cases zero : value = 0
  · subst zero
    simp [nearest, roundHalfEven]
  · refine nearest_of_multiple ?_ value_eq
    have magnitude : |value| < 2 ^ (53 + exponent) := by
      have mantissa_lt' : |(mantissa : ℚ)| < 2 ^ (53 : ℤ) := by exact_mod_cast mantissa_lt
      rw [value_eq, abs_mul, abs_of_pos (two_zpow_pos exponent),
        zpow_add₀ (by norm_num : (2 : ℚ) ≠ 0)]
      exact mul_lt_mul_of_pos_right mantissa_lt' (two_zpow_pos exponent)
    have log_lt := log_lt_of_lt_zpow zero magnitude
    simp only [lastPlace]
    omega

theorem nearest_intCast_of_small {value : ℤ} (small : |value| < 2 ^ 53) :
    nearest value = value :=
  nearest_of_representable ⟨value, 0, small, by norm_num, by norm_num, by simp⟩

/-- Rounding does not cross a multiple of the last place from below. -/
theorem nearest_le_of_le_multiple {value : ℚ} {mantissa : ℤ}
    (le : value ≤ mantissa * 2 ^ lastPlace value) :
    nearest value ≤ mantissa * 2 ^ lastPlace value := by
  have scaled : value / 2 ^ lastPlace value ≤ mantissa := (div_le_iff₀ (two_zpow_pos _)).mpr le
  have rounded : roundHalfEven (value / 2 ^ lastPlace value) ≤ mantissa := by
    simpa only [roundHalfEven_intCast] using roundHalfEven_mono scaled
  exact mul_le_mul_of_nonneg_right (by exact_mod_cast rounded) (two_zpow_pos _).le

/-- Rounding does not cross a multiple of the last place from above. -/
theorem le_nearest_of_multiple_le {value : ℚ} {mantissa : ℤ}
    (le : mantissa * 2 ^ lastPlace value ≤ value) :
    mantissa * 2 ^ lastPlace value ≤ nearest value := by
  have scaled : (mantissa : ℚ) ≤ value / 2 ^ lastPlace value :=
    (le_div_iff₀ (two_zpow_pos _)).mpr le
  have rounded : mantissa ≤ roundHalfEven (value / 2 ^ lastPlace value) := by
    simpa only [roundHalfEven_intCast] using roundHalfEven_mono scaled
  exact mul_le_mul_of_nonneg_right (by exact_mod_cast rounded) (two_zpow_pos _).le

theorem zpow_eq_multiple {low high : ℤ} (le : low ≤ high) :
    (2 : ℚ) ^ high = ((2 ^ (high - low).toNat : ℤ) : ℚ) * 2 ^ low := by
  have shift : ((high - low).toNat : ℤ) + low = high := by omega
  conv_lhs => rw [← shift, zpow_add₀ (by norm_num : (2 : ℚ) ≠ 0), zpow_natCast]
  push_cast
  rfl

theorem nearest_le_zpow {value : ℚ} {power : ℤ} (place_le : lastPlace value ≤ power)
    (le : value ≤ 2 ^ power) : nearest value ≤ 2 ^ power := by
  rw [zpow_eq_multiple place_le] at le ⊢
  exact nearest_le_of_le_multiple le

theorem zpow_le_nearest {value : ℚ} {power : ℤ} (place_le : lastPlace value ≤ power)
    (le : 2 ^ power ≤ value) : 2 ^ power ≤ nearest value := by
  rw [zpow_eq_multiple place_le] at le ⊢
  exact le_nearest_of_multiple_le le

theorem nearest_nonneg {value : ℚ} (nonneg : 0 ≤ value) : 0 ≤ nearest value := by
  have le : ((0 : ℤ) : ℚ) * 2 ^ lastPlace value ≤ value := by simpa using nonneg
  simpa using le_nearest_of_multiple_le le

theorem nearest_mono_of_nonneg {left right : ℚ} (nonneg : 0 ≤ left) (le : left ≤ right) :
    nearest left ≤ nearest right := by
  rcases nonneg.eq_or_lt with rfl | positive
  · simpa [nearest, roundHalfEven] using nearest_nonneg le
  have right_pos : 0 < right := positive.trans_le le
  have left_abs : |left| = left := abs_of_pos positive
  have right_abs : |right| = right := abs_of_pos right_pos
  have log_le : Int.log 2 left ≤ Int.log 2 right := Int.log_mono_right positive le
  rcases eq_or_lt_of_le (show lastPlace left ≤ lastPlace right by
    simp only [lastPlace, left_abs, right_abs]; omega) with place_eq | place_lt
  · have scaled : left / 2 ^ lastPlace left ≤ right / 2 ^ lastPlace right := by
      rw [place_eq]
      exact div_le_div_of_nonneg_right le (two_zpow_pos _).le
    have rounded := roundHalfEven_mono scaled
    simp only [nearest, place_eq] at rounded ⊢
    exact mul_le_mul_of_nonneg_right (by exact_mod_cast rounded) (two_zpow_pos _).le
  · -- Between two last places there is a power of two, a multiple of both.
    have below := lt_two_zpow_log left
    have above := two_zpow_log_le right_pos.ne'
    rw [left_abs] at below
    rw [right_abs] at above
    simp only [lastPlace, left_abs, right_abs] at place_lt
    have left_le : left ≤ 2 ^ Int.log 2 right :=
      (below.trans_le (zpow_le_zpow_right₀ (by norm_num) (by omega))).le
    calc nearest left ≤ 2 ^ Int.log 2 right :=
          nearest_le_zpow (by simp only [lastPlace, left_abs]; omega) left_le
      _ ≤ nearest right :=
          zpow_le_nearest (by simp only [lastPlace, right_abs]; omega) above

/-- Rounding is monotone. -/
theorem nearest_mono : Monotone nearest := by
  intro left right le
  rcases le_total 0 left with left_nonneg | left_nonpos
  · exact nearest_mono_of_nonneg left_nonneg le
  rcases le_total 0 right with right_nonneg | right_nonpos
  · have left_rounded := nearest_nonneg (neg_nonneg.mpr left_nonpos)
    rw [nearest_neg] at left_rounded
    exact (neg_nonneg.mp left_rounded).trans (nearest_nonneg right_nonneg)
  · have mirrored := nearest_mono_of_nonneg (neg_nonneg.mpr right_nonpos) (neg_le_neg le)
    rw [nearest_neg, nearest_neg] at mirrored
    exact neg_le_neg_iff.mp mirrored

/-- The mantissa of a rounded value. -/
def roundedMantissa (value : ℚ) : ℤ := roundHalfEven (value / 2 ^ lastPlace value)

theorem nearest_eq (value : ℚ) : nearest value = roundedMantissa value * 2 ^ lastPlace value := rfl

theorem abs_nearest (value : ℚ) :
    |nearest value| = ((|roundedMantissa value| : ℤ) : ℚ) * 2 ^ lastPlace value := by
  rw [nearest_eq, abs_mul, abs_of_pos (two_zpow_pos _)]
  push_cast
  rfl

theorem nearest_abs (value : ℚ) : nearest |value| = |nearest value| := by
  rcases le_total 0 value with nonneg | nonpos
  · rw [abs_of_nonneg nonneg, abs_of_nonneg (nearest_nonneg nonneg)]
  · have rounded := nearest_nonneg (neg_nonneg.mpr nonpos)
    rw [nearest_neg] at rounded
    rw [abs_of_nonpos nonpos, nearest_neg, abs_of_nonpos (neg_nonneg.mp rounded)]

theorem lastPlace_abs (value : ℚ) : lastPlace |value| = lastPlace value := by
  simp [lastPlace]

/-- A mantissa has at most 53 bits, up to the carry into the next one. -/
theorem abs_roundedMantissa_le (value : ℚ) : |roundedMantissa value| ≤ 2 ^ 53 := by
  have place_ge : Int.log 2 |value| + 1 ≤ 53 + lastPlace value := by
    simp only [lastPlace]
    omega
  have bound : |nearest value| ≤ 2 ^ (53 + lastPlace value) := by
    rw [← nearest_abs]
    apply nearest_le_zpow (by rw [lastPlace_abs]; omega)
    exact (lt_two_zpow_log value).le.trans (zpow_le_zpow_right₀ (by norm_num) place_ge)
  rw [abs_nearest, zpow_add₀ (by norm_num : (2 : ℚ) ≠ 0)] at bound
  have := le_of_mul_le_mul_right bound (two_zpow_pos _)
  exact_mod_cast this

/-- Above the subnormal numbers a mantissa has all its bits. -/
theorem le_abs_roundedMantissa {value : ℚ} (nonzero : value ≠ 0)
    (normal : -1074 < lastPlace value) : 2 ^ 52 ≤ |roundedMantissa value| := by
  have place_eq : Int.log 2 |value| = 52 + lastPlace value := by
    simp only [lastPlace] at normal ⊢
    omega
  have bound : (2 : ℚ) ^ (52 + lastPlace value) ≤ |nearest value| := by
    rw [← nearest_abs]
    apply zpow_le_nearest (by rw [lastPlace_abs]; omega)
    rw [← place_eq]
    exact two_zpow_log_le nonzero
  rw [abs_nearest, zpow_add₀ (by norm_num : (2 : ℚ) ≠ 0)] at bound
  have := le_of_mul_le_mul_right bound (two_zpow_pos _)
  exact_mod_cast this

/-- A rounded value below the overflow bound is a number of the format. -/
theorem representable_nearest {value : ℚ} (bounded : |nearest value| < overflowBound) :
    Representable (nearest value) := by
  by_cases zero : value = 0
  · exact ⟨0, 0, by norm_num, by norm_num, by norm_num, by simp [zero, nearest, roundHalfEven]⟩
  have place_ge : -1074 ≤ lastPlace value := le_max_right _ _
  rw [abs_nearest, overflowBound] at bounded
  have place_lt (bits : ℤ) (bits_le : (2 : ℚ) ^ bits ≤ ((|roundedMantissa value| : ℤ) : ℚ)) :
      bits + lastPlace value < 1024 := by
    apply (zpow_lt_zpow_iff_right₀ (by norm_num : (1 : ℚ) < 2)).mp
    rw [zpow_add₀ (by norm_num : (2 : ℚ) ≠ 0)]
    exact (mul_le_mul_of_nonneg_right bits_le (two_zpow_pos _).le).trans_lt bounded
  rcases (abs_roundedMantissa_le value).lt_or_eq with mantissa_lt | mantissa_eq
  · refine ⟨roundedMantissa value, lastPlace value, mantissa_lt, place_ge, ?_, nearest_eq value⟩
    rcases place_ge.lt_or_eq with normal | subnormal
    · have full := le_abs_roundedMantissa zero normal
      have := place_lt 52 (by exact_mod_cast full)
      omega
    · omega
  · -- The carry: the mantissa is a power of two, written with one bit less.
    have := place_lt 53 (by rw [mantissa_eq]; norm_num)
    have halved : ∃ half : ℤ, |half| < 2 ^ 53 ∧ roundedMantissa value = 2 * half := by
      rcases abs_eq (by norm_num : (0 : ℤ) ≤ 2 ^ 53) |>.mp mantissa_eq with positive | negative
      · exact ⟨2 ^ 52, by norm_num, by rw [positive]; norm_num⟩
      · exact ⟨-2 ^ 52, by norm_num, by rw [negative]; norm_num⟩
    rcases halved with ⟨half, half_lt, mantissa_half⟩
    refine ⟨half, lastPlace value + 1, half_lt, by omega, by omega, ?_⟩
    rw [nearest_eq, mantissa_half, zpow_add₀ (by norm_num : (2 : ℚ) ≠ 0)]
    push_cast
    ring

theorem abs_lt_overflowBound {value : ℚ} (representable : Representable value) :
    |value| < overflowBound := by
  rcases representable with ⟨mantissa, exponent, mantissa_lt, -, exponent_le, value_eq⟩
  have mantissa_lt' : |(mantissa : ℚ)| < 2 ^ (53 : ℤ) := by exact_mod_cast mantissa_lt
  rw [value_eq, abs_mul, abs_of_pos (two_zpow_pos exponent), overflowBound,
    show (1024 : ℤ) = 53 + 971 by norm_num, zpow_add₀ (by norm_num : (2 : ℚ) ≠ 0)]
  exact mul_lt_mul mantissa_lt' (zpow_le_zpow_right₀ (by norm_num) exponent_le)
    (two_zpow_pos _) (two_zpow_pos _).le

end ImigrAI.Binary64
