import ImigrAI.Foundations.Numerals
import ImigrAI.Foundations.Rounding

/-!
# Decimals

A finite `Decimal` keeps its trailing zeros, which its text shows. Arithmetic on decimals is
taken as exact, so sums, comparisons and quotients are those of rationals, and `quantize` is
a rounding of rationals.
-/

namespace ImigrAI.Python

open ImigrAI.Numerals Rounding

structure Decimal where
  negative : Bool
  coefficient : ℕ
  exponent : ℤ
deriving DecidableEq

namespace Decimal

/-- The number that a decimal stands for. -/
def toRat (decimal : Decimal) : ℚ :=
  (if decimal.negative then -1 else 1) * (decimal.coefficient * 10 ^ decimal.exponent)

def exponentText (exponent : ℤ) : List Char :=
  'E' :: (if exponent < 0 then '-' else '+') :: Nat.toDigits 10 exponent.natAbs

/-- `str(decimal)`. -/
def str (decimal : Decimal) : String :=
  let digits := Nat.toDigits 10 decimal.coefficient
  let leftDigits := decimal.exponent + digits.length
  let dotPlace := if decimal.exponent ≤ 0 ∧ -6 < leftDigits then leftDigits else 1
  let parts := placePoint digits dotPlace
  String.ofList (layout decimal.negative parts.1 parts.2
    (if leftDigits = dotPlace then [] else exponentText (leftDigits - dotPlace)))

theorem readExponent_exponentText (exponent : ℤ) :
    readExponent (exponentText exponent) = some exponent := by
  have suffix (sign : Char) := readExponent_suffix 'E' sign (Or.inr rfl)
    (Nat.toDigits_ne_nil (b := 10) (n := exponent.natAbs)) (allDigits_toDigits _)
    (digitsValue_toDigits _)
  unfold exponentText
  split_ifs with negative
  · rw [(suffix '-').2 rfl]
    congr 1
    omega
  · rw [(suffix '+').1 rfl]
    congr 1
    omega

/-- The text of a decimal reads as its sign and magnitude. -/
theorem readNumeral_str (decimal : Decimal) :
    ∃ numeral, readNumeral decimal.str.toList = some numeral ∧
      numeral.negative = decimal.negative ∧
      numeral.magnitude = decimal.coefficient * 10 ^ decimal.exponent := by
  have nonempty := Nat.toDigits_ne_nil (b := 10) (n := decimal.coefficient)
  have all := allDigits_toDigits decimal.coefficient
  simp only [str, String.toList_ofList]
  generalize (if decimal.exponent ≤ 0 ∧
      -6 < decimal.exponent + (Nat.toDigits 10 decimal.coefficient).length then
    decimal.exponent + (Nat.toDigits 10 decimal.coefficient).length else 1) = dotPlace
  have value := placePoint_value (Nat.toDigits 10 decimal.coefficient) dotPlace
  rw [digitsValue_toDigits] at value
  refine ⟨⟨decimal.negative, (placePoint (Nat.toDigits 10 decimal.coefficient) dotPlace).1,
    (placePoint (Nat.toDigits 10 decimal.coefficient) dotPlace).2,
    decimal.exponent + (Nat.toDigits 10 decimal.coefficient).length - dotPlace⟩, ?_, rfl, ?_⟩
  · apply readNumeral_layout decimal.negative (placePoint_whole_ne_nil nonempty dotPlace)
      (placePoint_allDigits all dotPlace).1 (placePoint_allDigits all dotPlace).2
    · split_ifs <;> simp [exponentText]
    · split_ifs <;> simp [exponentText]
    · split_ifs with plain
      · simp [readExponent, plain]
      · exact readExponent_exponentText _
  · simp only [Numeral.magnitude]
    rw [sub_eq_neg_add, zpow_add₀ (by norm_num : (10 : ℚ) ≠ 0), ← mul_assoc, value, mul_assoc,
      ← zpow_add₀ (by norm_num : (10 : ℚ) ≠ 0)]
    congr 2
    ring

/-- Decimals with the same text are the same number. -/
theorem toRat_eq_of_str_eq {left right : Decimal} (same : left.str = right.str) :
    left.toRat = right.toRat := by
  rcases readNumeral_str left with ⟨numeral, read, sign, magnitude⟩
  rcases readNumeral_str right with ⟨other, otherRead, otherSign, otherMagnitude⟩
  rw [same, otherRead] at read
  rcases Option.some.inj read with rfl
  rw [toRat, toRat, ← magnitude, ← otherMagnitude, ← sign, ← otherSign]

end Decimal

/-- `value.quantize(Decimal("0.01"), rounding=ROUND_HALF_UP)`. -/
def quantize (value : ℚ) : ℚ := roundHalfUp (value * 100) / 100

/-- A number with at most two decimals. -/
def TwoDecimals (value : ℚ) : Prop := ∃ hundredths : ℤ, value = hundredths / 100

theorem quantize_of_twoDecimals {value : ℚ} (two : TwoDecimals value) : quantize value = value := by
  rcases two with ⟨hundredths, rfl⟩
  rw [quantize, div_mul_cancel₀ _ (by norm_num), roundHalfUp_intCast]

@[simp]
theorem quantize_zero : quantize 0 = 0 :=
  quantize_of_twoDecimals ⟨0, by norm_num⟩

theorem quantize_mono : Monotone quantize := by
  intro left right le
  have rounded := roundHalfUp_mono (mul_le_mul_of_nonneg_right le (by norm_num : (0 : ℚ) ≤ 100))
  exact div_le_div_of_nonneg_right (by exact_mod_cast rounded) (by norm_num)

/-- Numbers a hundredth apart stay apart. -/
theorem quantize_lt_of_add_le {left right : ℚ} (nonneg : 0 ≤ left)
    (apart : left + 1 / 100 ≤ right) : quantize left < quantize right := by
  have leftNonneg : 0 ≤ left * 100 := by linarith
  have rightNonneg : 0 ≤ right * 100 := by linarith
  have floors : ⌊left * 100 + 1 / 2⌋ + 1 ≤ ⌊right * 100 + 1 / 2⌋ := by
    rw [← Int.floor_add_one]
    exact Int.floor_mono (by linarith)
  have rounded : roundHalfUp (left * 100) < roundHalfUp (right * 100) := by
    rw [roundHalfUp, roundHalfUp, if_pos leftNonneg, if_pos rightNonneg]
    omega
  exact div_lt_div_of_pos_right (by exact_mod_cast rounded) (by norm_num)

theorem twoDecimals_quantize (value : ℚ) : TwoDecimals (quantize value) := ⟨_, rfl⟩

end ImigrAI.Python
