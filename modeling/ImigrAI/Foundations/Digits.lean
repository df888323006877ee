import Mathlib.Data.Nat.Basic
import Mathlib.Tactic.Common
import Mathlib.Tactic.IntervalCases
import Mathlib.Tactic.Ring

/-!
# Digit strings of a fixed width

Writing a number with a fixed number of digits in a base up to sixteen, and reading it
back. Hexadecimal identifiers, `\u` escapes and zero-padded date fields are all written
this way.
-/

namespace ImigrAI.Digits

/-- The value of a digit, lower case from ten on; zero for any other character. -/
def digitValue (digit : Char) : ℕ :=
  if '0' ≤ digit ∧ digit ≤ '9' then digit.toNat - '0'.toNat
  else if 'a' ≤ digit ∧ digit ≤ 'f' then digit.toNat - 'a'.toNat + 10
  else 0

/-- The last `width` digits of a number, most significant first. -/
def fixedDigits (base : ℕ) : ℕ → ℕ → List Char
  | 0, _ => []
  | width + 1, value => fixedDigits base width (value / base) ++ [(value % base).digitChar]

/-- The number written by a list of digits. -/
def readDigits (base : ℕ) (digits : List Char) : ℕ :=
  digits.foldl (fun value digit => base * value + digitValue digit) 0

theorem digitValue_digitChar {digit : ℕ} (small : digit < 16) :
    digitValue digit.digitChar = digit := by
  interval_cases digit <;> rfl

@[simp]
theorem length_fixedDigits (base width value : ℕ) :
    (fixedDigits base width value).length = width := by
  induction width generalizing value with
  | zero => rfl
  | succ width ih => simp [fixedDigits, ih]

theorem readDigits_append_singleton (base : ℕ) (digits : List Char) (digit : Char) :
    readDigits base (digits ++ [digit]) = base * readDigits base digits + digitValue digit := by
  simp [readDigits]

/-- Reading back the digits gives the number, up to what does not fit in the width. -/
theorem readDigits_fixedDigits {base : ℕ} (positive : 0 < base) (small : base ≤ 16)
    (width value : ℕ) :
    readDigits base (fixedDigits base width value) = value % base ^ width := by
  induction width generalizing value with
  | zero => simp [fixedDigits, readDigits, Nat.mod_one]
  | succ width ih =>
      have digit_lt : value % base < 16 := (Nat.mod_lt value positive).trans_le small
      rw [fixedDigits, readDigits_append_singleton, ih, digitValue_digitChar digit_lt]
      have split : value % (base * base ^ width) =
          value % base + base * (value / base % base ^ width) := Nat.mod_mul
      rw [pow_succ, mul_comm (base ^ width) base, split]
      ring

/-- Numbers that fit in the width are determined by their digits. -/
theorem fixedDigits_inj {base width left right : ℕ} (positive : 0 < base) (small : base ≤ 16)
    (left_lt : left < base ^ width) (right_lt : right < base ^ width)
    (same : fixedDigits base width left = fixedDigits base width right) : left = right := by
  have read := congrArg (readDigits base) same
  rw [readDigits_fixedDigits positive small, readDigits_fixedDigits positive small,
    Nat.mod_eq_of_lt left_lt, Nat.mod_eq_of_lt right_lt] at read
  exact read

end ImigrAI.Digits
