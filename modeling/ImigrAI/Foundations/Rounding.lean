import Mathlib.Algebra.Order.Floor.Ring
import Mathlib.Data.Int.ConditionallyCompleteOrder
import Mathlib.Data.Rat.Floor
import Mathlib.Tactic.Linarith
import Mathlib.Tactic.NormNum
import Mathlib.Tactic.Positivity
import Mathlib.Tactic.Ring

/-!
# Rounding a rational to an integer

The two rounding modes of the program: ties away from zero, which a decimal quantisation
asks for, and ties to even, which binary floating point uses. Both are monotone and leave
integers alone, and nothing else about them is needed to bound a rounded value.
-/

namespace ImigrAI.Rounding

/-- The integer nearest to a rational, ties away from zero. -/
def roundHalfUp (value : ℚ) : ℤ :=
  if 0 ≤ value then ⌊value + 1 / 2⌋ else -⌊-value + 1 / 2⌋

/-- The integer nearest to a rational, ties to even. -/
def roundHalfEven (value : ℚ) : ℤ :=
  if Int.fract value < 1 / 2 then ⌊value⌋
  else if 1 / 2 < Int.fract value then ⌊value⌋ + 1
  else if ⌊value⌋ % 2 = 0 then ⌊value⌋ else ⌊value⌋ + 1

@[simp]
theorem roundHalfUp_intCast (value : ℤ) : roundHalfUp value = value := by
  have half : ⌊(1 / 2 : ℚ)⌋ = 0 := by norm_num [Int.floor_eq_zero_iff]
  unfold roundHalfUp
  split_ifs
  · rw [Int.floor_intCast_add, half, add_zero]
  · rw [← Int.cast_neg, Int.floor_intCast_add, half, add_zero, neg_neg]

theorem roundHalfUp_mono : Monotone roundHalfUp := by
  intro left right le
  unfold roundHalfUp
  split_ifs with left_nonneg right_nonneg right_nonneg
  · exact Int.floor_mono (by linarith)
  · exact absurd (left_nonneg.trans le) right_nonneg
  · have left_floor : 0 ≤ ⌊-left + 1 / 2⌋ := Int.floor_nonneg.mpr (by linarith)
    have right_floor : 0 ≤ ⌊right + 1 / 2⌋ := Int.floor_nonneg.mpr (by linarith)
    omega
  · exact neg_le_neg (Int.floor_mono (by linarith))

@[simp]
theorem roundHalfEven_intCast (value : ℤ) : roundHalfEven value = value := by
  simp [roundHalfEven]

theorem floor_le_roundHalfEven (value : ℚ) : ⌊value⌋ ≤ roundHalfEven value := by
  unfold roundHalfEven
  split_ifs <;> omega

theorem roundHalfEven_le_floor_add_one (value : ℚ) : roundHalfEven value ≤ ⌊value⌋ + 1 := by
  unfold roundHalfEven
  split_ifs <;> omega

theorem roundHalfEven_mono : Monotone roundHalfEven := by
  intro left right le
  rcases (Int.floor_mono le).lt_or_eq with floor_lt | floor_eq
  · have lower := floor_le_roundHalfEven right
    have upper := roundHalfEven_le_floor_add_one left
    omega
  · -- On one unit interval the fractional parts are ordered like the values.
    have fract_le : Int.fract left ≤ Int.fract right := by
      simp only [Int.fract, floor_eq]
      linarith
    unfold roundHalfEven
    rw [floor_eq]
    split_ifs <;> first | omega | linarith

theorem roundHalfEven_neg (value : ℚ) : roundHalfEven (-value) = -roundHalfEven value := by
  by_cases integral : Int.fract value = 0
  · rcases Int.fract_eq_zero_iff.mp integral with ⟨whole, whole_eq⟩
    rw [← whole_eq, ← Int.cast_neg, roundHalfEven_intCast, roundHalfEven_intCast]
  · have fract_neg := Int.fract_neg integral
    have floor_neg : ⌊-value⌋ = -⌊value⌋ - 1 := by
      have split_value := Int.floor_add_fract value
      have split_neg := Int.floor_add_fract (-value)
      rw [fract_neg] at split_neg
      have cast_eq : ((⌊-value⌋ : ℤ) : ℚ) = ((-⌊value⌋ - 1 : ℤ) : ℚ) := by
        push_cast
        linarith
      exact_mod_cast cast_eq
    unfold roundHalfEven
    rw [fract_neg, floor_neg]
    split_ifs <;> first | omega | linarith

/-- A monotone rounding to two decimal places, which it leaves alone. -/
structure HundredthRounding where
  round : ℚ → ℚ
  mono : Monotone round
  fixes : ∀ hundredths : ℤ, round (hundredths / 100) = hundredths / 100

namespace HundredthRounding

variable (rounding : HundredthRounding) {lower upper : ℤ} {value : ℚ}

theorem le_round (le : (lower / 100 : ℚ) ≤ value) : (lower / 100 : ℚ) ≤ rounding.round value :=
  calc (lower / 100 : ℚ) = rounding.round (lower / 100) := (rounding.fixes lower).symm
    _ ≤ rounding.round value := rounding.mono le

theorem round_le (le : value ≤ (upper / 100 : ℚ)) : rounding.round value ≤ (upper / 100 : ℚ) :=
  calc rounding.round value ≤ rounding.round (upper / 100) := rounding.mono le
    _ = (upper / 100 : ℚ) := rounding.fixes upper

end HundredthRounding

/-- Ties to even. -/
def hundredthHalfEven : HundredthRounding where
  round value := roundHalfEven (value * 100) / 100
  mono left right le := by
    have scaled : left * 100 ≤ right * 100 := by linarith
    have rounded : ((roundHalfEven (left * 100) : ℤ) : ℚ) ≤ (roundHalfEven (right * 100) : ℤ) := by
      exact_mod_cast roundHalfEven_mono scaled
    linarith
  fixes hundredths := by
    have whole : (hundredths / 100 * 100 : ℚ) = hundredths := by ring
    rw [whole, roundHalfEven_intCast]

end ImigrAI.Rounding
