import ImigrAI.Foundations.Binary64
import ImigrAI.Foundations.Numerals
import Mathlib.Data.Int.Log

/-!
# Floats

A float is a finite binary64 number, a signed infinity or a NaN; the sign of zero is kept
because it is printed. Comparisons of ints and floats are exact. `repr` prints the shortest
digits that round to the number, and reading them back gives the number.
-/

namespace ImigrAI.Python

open Binary64 Numerals Rounding

/-- A finite binary64 number other than negative zero. -/
structure Double where
  value : ℚ
  representable : Representable value
deriving DecidableEq

inductive PyFloat where
  | finite (double : Double)
  | negativeZero
  | infinity (negative : Bool)
  | nan
deriving DecidableEq

/-- What an int or a float is for a comparison. -/
inductive Numeric where
  | finite (value : ℚ)
  | infinity (negative : Bool)
  | nan
deriving DecidableEq

namespace Numeric

def eq : Numeric → Numeric → Bool
  | .finite left, .finite right => left = right
  | .infinity left, .infinity right => left = right
  | _, _ => false

def lt : Numeric → Numeric → Bool
  | .nan, _ => false
  | _, .nan => false
  | .finite left, .finite right => left < right
  | .finite _, .infinity negative => !negative
  | .infinity negative, .finite _ => negative
  | .infinity left, .infinity right => left && !right

def le (left right : Numeric) : Bool := left.lt right || left.eq right

end Numeric

namespace PyFloat

def numeric : PyFloat → Numeric
  | .finite double => .finite double.value
  | .negativeZero => .finite 0
  | .infinity negative => .infinity negative
  | .nan => .nan

/-- The float nearest to a rational; what is too large becomes infinite. -/
def ofRat (value : ℚ) : PyFloat :=
  if bounded : |nearest value| < overflowBound then
    .finite ⟨nearest value, representable_nearest bounded⟩
  else .infinity (value < 0)

/-- The same with the sign of a result that is zero. -/
def ofSigned (negative : Bool) (magnitude : ℚ) : PyFloat :=
  if negative ∧ nearest magnitude = 0 then .negativeZero
  else ofRat (if negative then -magnitude else magnitude)

/-- `round(number, digits)`. -/
def roundTo (digits : ℕ) : PyFloat → PyFloat
  | .finite double =>
      ofSigned (double.value < 0)
        |(roundHalfEven (double.value * 10 ^ digits) : ℚ) / 10 ^ digits|
  | other => other

/-- The float is a number from 0 to 1. -/
def InUnit (number : PyFloat) : Prop :=
  ∃ value, number.numeric = .finite value ∧ 0 ≤ value ∧ value ≤ 1

theorem ofSigned_false (magnitude : ℚ) : ofSigned false magnitude = ofRat magnitude := by
  simp [ofSigned]

theorem one_lt_overflowBound : 1 < overflowBound := one_lt_zpow₀ (by norm_num) (by norm_num)

theorem nearest_le_one {value : ℚ} (le : value ≤ 1) : nearest value ≤ 1 := by
  have one : nearest 1 = 1 := by
    simpa using nearest_intCast_of_small (show |(1 : ℤ)| < 2 ^ 53 by norm_num)
  rw [← one]
  exact nearest_mono le

theorem inUnit_ofRat {value : ℚ} (nonneg : 0 ≤ value) (le : value ≤ 1) : InUnit (ofRat value) := by
  have lower := nearest_nonneg nonneg
  have upper := nearest_le_one le
  have bounded : |nearest value| < overflowBound := by
    rw [abs_of_nonneg lower]
    exact upper.trans_lt one_lt_overflowBound
  refine ⟨nearest value, ?_, lower, upper⟩
  rw [ofRat, dif_pos bounded]
  rfl

theorem inUnit_roundTo {number : PyFloat} (inUnit : InUnit number) (digits : ℕ) :
    InUnit (roundTo digits number) := by
  cases number with
  | finite double =>
      rcases inUnit with ⟨value, same, nonneg, le⟩
      cases same
      have positive : (0 : ℚ) < 10 ^ digits := by positivity
      have lower : 0 ≤ roundHalfEven (double.value * 10 ^ digits) := by
        have mono := roundHalfEven_mono (show ((0 : ℤ) : ℚ) ≤ double.value * 10 ^ digits by
          rw [Int.cast_zero]
          positivity)
        rwa [roundHalfEven_intCast] at mono
      have upper : roundHalfEven (double.value * 10 ^ digits) ≤ 10 ^ digits := by
        have mono := roundHalfEven_mono (show
            double.value * 10 ^ digits ≤ ((10 ^ digits : ℤ) : ℚ) by
          push_cast
          exact mul_le_of_le_one_left positive.le le)
        rwa [roundHalfEven_intCast] at mono
      have lowerCast : (0 : ℚ) ≤ roundHalfEven (double.value * 10 ^ digits) := by
        exact_mod_cast lower
      have upperCast : (roundHalfEven (double.value * 10 ^ digits) : ℚ) ≤ 10 ^ digits := by
        exact_mod_cast upper
      have notNegative : decide (double.value < 0) = false := by simpa using nonneg
      have ratio := div_nonneg lowerCast positive.le
      rw [roundTo, notNegative, ofSigned_false, abs_of_nonneg ratio]
      exact inUnit_ofRat ratio ((div_le_one positive).mpr upperCast)
  | _ => exact inUnit

/-- One is left alone. -/
theorem roundTo_ofRat_one (digits : ℕ) : roundTo digits (ofRat 1) = ofRat 1 := by
  have one : nearest 1 = 1 := by
    simpa using nearest_intCast_of_small (show |(1 : ℤ)| < 2 ^ 53 by norm_num)
  have bounded : |nearest 1| < overflowBound := by
    rw [one, abs_one]
    exact one_lt_overflowBound
  have scaled : roundHalfEven (1 * 10 ^ digits) = 10 ^ digits := by
    have whole := roundHalfEven_intCast (10 ^ digits)
    push_cast at whole
    rwa [one_mul]
  have ratio : |((10 ^ digits : ℤ) : ℚ) / 10 ^ digits| = 1 := by
    push_cast
    rw [div_self (by positivity), abs_one]
  have written : ofRat 1 = .finite ⟨1, ⟨1, 0, by norm_num, by norm_num, by norm_num, by simp⟩⟩ := by
    rw [ofRat, dif_pos bounded]
    simp only [one]
  conv_lhs => rw [written]
  have notNegative : decide ((1 : ℚ) < 0) = false := by norm_num
  rw [roundTo, scaled, ratio, notNegative, ofSigned_false]

end PyFloat

/-- The two multiples of a power of ten around a value, the nearer one first. -/
def neighbours (value : ℚ) (place : ℤ) : List ℕ :=
  let scaled := value / 10 ^ place
  let near := (roundHalfEven scaled).toNat
  [near, if (near : ℚ) ≤ scaled then near + 1 else near - 1]

/-- The first power of ten, from a place downwards, with a multiple that rounds to the value. -/
def shortestFrom (value : ℚ) : ℕ → ℤ → ℕ × ℤ
  | 0, place => ((roundHalfEven (value / 10 ^ place)).toNat, place)
  | steps + 1, place =>
      match (neighbours value place).find? fun (count : ℕ) => nearest (count * 10 ^ place) = value with
      | some count => (count, place)
      | none => shortestFrom value steps (place - 1)

/-- The shortest decimal that rounds to a positive value: a count and a power of ten. -/
def shortest (value : ℚ) : ℕ × ℤ :=
  shortestFrom value (Int.log 10 value + 1074).toNat (Int.log 10 value)

theorem exact_at_last_place {value : ℚ} (representable : Representable value)
    (nonneg : 0 ≤ value) {place : ℤ} (small : place ≤ -1074) :
    ((roundHalfEven (value / 10 ^ place)).toNat : ℚ) * 10 ^ place = value := by
  rcases representable with ⟨mantissa, exponent, -, exponentGe, -, valueEq⟩
  rcases Int.eq_ofNat_of_zero_le (show 0 ≤ -place by omega) with ⟨fives, fivesEq⟩
  rcases Int.eq_ofNat_of_zero_le (show 0 ≤ exponent - place by omega) with ⟨twos, twosEq⟩
  have scaled : value / 10 ^ place = ((mantissa * 5 ^ fives * 2 ^ twos : ℤ) : ℚ) := by
    have ten : (10 : ℚ) ^ (-place) = 5 ^ (-place) * 2 ^ (-place) := by
      rw [← mul_zpow]
      norm_num
    rw [div_eq_mul_inv, ← zpow_neg, ten, valueEq]
    push_cast
    rw [← zpow_natCast, ← zpow_natCast, ← fivesEq, ← twosEq, sub_eq_add_neg,
      zpow_add₀ (by norm_num : (2 : ℚ) ≠ 0)]
    ring
  have positive : (0 : ℚ) < 10 ^ place := zpow_pos (by norm_num) _
  have countNonneg : 0 ≤ mantissa * 5 ^ fives * 2 ^ twos := by
    have : (0 : ℚ) ≤ value / 10 ^ place := div_nonneg nonneg positive.le
    rw [scaled] at this
    exact_mod_cast this
  rw [scaled, roundHalfEven_intCast]
  have cast : (((mantissa * 5 ^ fives * 2 ^ twos).toNat : ℕ) : ℚ) =
      ((mantissa * 5 ^ fives * 2 ^ twos : ℤ) : ℚ) := by
    exact_mod_cast Int.toNat_of_nonneg countNonneg
  rw [cast, ← scaled, div_mul_cancel₀ _ positive.ne']

theorem nearest_shortestFrom {value : ℚ} (representable : Representable value)
    (nonneg : 0 ≤ value) (steps : ℕ) (place : ℤ) (enough : place - steps ≤ -1074) :
    nearest ((shortestFrom value steps place).1 * 10 ^ (shortestFrom value steps place).2) =
      value := by
  induction steps generalizing place with
  | zero =>
      simp only [shortestFrom]
      rw [exact_at_last_place representable nonneg (by simpa using enough)]
      exact nearest_of_representable representable
  | succ steps ih =>
      simp only [shortestFrom]
      split
      next count found => simpa using List.find?_some found
      next => exact ih (place - 1) (by push_cast at enough; omega)

/-- The shortest decimal rounds to the value. -/
theorem nearest_shortest {value : ℚ} (representable : Representable value) (nonneg : 0 ≤ value) :
    nearest ((shortest value).1 * 10 ^ (shortest value).2) = value := by
  apply nearest_shortestFrom representable nonneg
  omega

/-- An exponent as `%+.02d` writes it. -/
def exponentText (exponent : ℤ) : List Char :=
  let digits := Nat.toDigits 10 exponent.natAbs
  'e' :: (if exponent < 0 then '-' else '+') :: (if digits.length < 2 then '0' :: digits else digits)

/-- The digits without the zeros at their end, and where the point belongs. -/
def significant (count : ℕ) (place : ℤ) : List Char × ℤ :=
  let digits := Nat.toDigits 10 count
  (digits.rdropWhile (· = '0'), digits.length + place)

/-- A sign, digits and the place of the point, in the format `r` of a float. -/
def reprDigits (negative : Bool) (digits : List Char) (point : ℤ) : List Char :=
  if point ≤ -4 ∨ 16 < point then
    let (whole, fraction) := placePoint digits 1
    layout negative whole fraction (exponentText (point - 1))
  else
    let (whole, fraction) := placePoint digits point
    layout negative whole (if fraction = [] then ['0'] else fraction) []

/-- The text of a finite number that is not zero. -/
def reprFinite (value : ℚ) : List Char :=
  let decimal := shortest |value|
  let shown := significant decimal.1 decimal.2
  reprDigits (value < 0) shown.1 shown.2

/-- `repr` of a float. -/
def PyFloat.repr : PyFloat → List Char
  | .finite double => if double.value = 0 then ['0', '.', '0'] else reprFinite double.value
  | .negativeZero => ['-', '0', '.', '0']
  | .infinity negative => (if negative then ['-'] else []) ++ ['i', 'n', 'f']
  | .nan => ['n', 'a', 'n']

theorem digitsValue_cons_zero (digits : List Char) :
    digitsValue ('0' :: digits) = digitsValue digits := by
  rw [← List.singleton_append, digitsValue_append, digitsValue_zero, mul_zero, zero_add]

theorem allDigits_cons_zero {digits : List Char} (all : AllDigits digits) :
    AllDigits ('0' :: digits) := by
  intro digit digitMem
  rcases List.mem_cons.mp digitMem with rfl | digitMem
  · rfl
  · exact all digit digitMem

theorem readExponent_exponentText (exponent : ℤ) :
    readExponent (exponentText exponent) = some exponent := by
  have all := allDigits_toDigits exponent.natAbs
  have nonempty : Nat.toDigits 10 exponent.natAbs ≠ [] := Nat.toDigits_ne_nil
  have read (digits : List Char) (digitsNonempty : digits ≠ []) (digitsAll : AllDigits digits)
      (value : digitsValue digits = exponent.natAbs) :
      readExponent ('e' :: (if exponent < 0 then '-' else '+') :: digits) = some exponent := by
    have suffix (sign : Char) := readExponent_suffix 'e' sign (Or.inl rfl) digitsNonempty
      digitsAll value
    split_ifs with negative
    · rw [(suffix '-').2 rfl]
      congr 1
      omega
    · rw [(suffix '+').1 rfl]
      congr 1
      omega
  by_cases short : (Nat.toDigits 10 exponent.natAbs).length < 2
  · simp only [exponentText, short, if_true]
    exact read _ (by simp) (allDigits_cons_zero all) (by simp [digitsValue_cons_zero])
  · simp only [exponentText, short, if_false]
    exact read _ nonempty all (digitsValue_toDigits _)

/-- Dropping the zeros at the end does not change the number. -/
theorem significant_spec (count : ℕ) (place : ℤ) :
    AllDigits (significant count place).1 ∧
      (digitsValue (significant count place).1 : ℚ) *
          10 ^ ((significant count place).2 - (significant count place).1.length) =
        count * 10 ^ place := by
  have split : Nat.toDigits 10 count =
      (Nat.toDigits 10 count).rdropWhile (· = '0') ++
        List.replicate ((Nat.toDigits 10 count).rtakeWhile (· = '0')).length '0' := by
    have zeros : (Nat.toDigits 10 count).rtakeWhile (· = '0') =
        List.replicate ((Nat.toDigits 10 count).rtakeWhile (· = '0')).length '0' := by
      rw [List.eq_replicate_iff]
      refine ⟨rfl, ?_⟩
      intro digit digitMem
      simpa using List.mem_rtakeWhile_imp digitMem
    rw [← zeros, List.rdropWhile_append_rtakeWhile]
  have value := digitsValue_toDigits count
  have lengths := congrArg List.length split
  rw [split, digitsValue_append, digitsValue_replicate_zero, add_zero,
    List.length_replicate] at value
  simp only [List.length_append, List.length_replicate] at lengths
  simp only [significant]
  refine ⟨?_, ?_⟩
  · intro digit digitMem
    exact allDigits_toDigits count digit ((List.rdropWhile_prefix _ _).subset digitMem)
  · generalize (Nat.toDigits 10 count).rdropWhile (· = '0') = digits at *
    generalize ((Nat.toDigits 10 count).rtakeWhile (· = '0')).length = zeros at *
    rw [lengths, ← value]
    push_cast
    rw [show (digits.length : ℤ) + zeros + place - digits.length = zeros + place by ring,
      zpow_add₀ (by norm_num : (10 : ℚ) ≠ 0), zpow_natCast]
    ring

/-- The text in the format `r` reads as the number that the digits and the point give. -/
theorem readNumeral_reprDigits (negative : Bool) {digits : List Char} (nonempty : digits ≠ [])
    (all : AllDigits digits) (point : ℤ) :
    ∃ numeral, readNumeral (reprDigits negative digits point) = some numeral ∧
      numeral.negative = negative ∧
      numeral.magnitude = digitsValue digits * 10 ^ (point - digits.length) := by
  unfold reprDigits
  split_ifs with scientific
  · have value := placePoint_value digits 1
    refine ⟨⟨negative, (placePoint digits 1).1, (placePoint digits 1).2, point - 1⟩, ?_, rfl, ?_⟩
    · exact readNumeral_layout negative (placePoint_whole_ne_nil nonempty 1)
        (placePoint_allDigits all 1).1 (placePoint_allDigits all 1).2
        (by simp [exponentText]) (by simp [exponentText]) (readExponent_exponentText (point - 1))
    · simp only [Numeral.magnitude]
      rw [sub_eq_neg_add (point - 1), zpow_add₀ (by norm_num : (10 : ℚ) ≠ 0), ← mul_assoc, value,
        mul_assoc, ← zpow_add₀ (by norm_num : (10 : ℚ) ≠ 0)]
      congr 2
      ring
  · have value := placePoint_value digits point
    by_cases integral : (placePoint digits point).2 = []
    · refine ⟨⟨negative, (placePoint digits point).1, ['0'], 0⟩, ?_, rfl, ?_⟩
      · simp only [integral, if_true]
        exact readNumeral_layout negative (placePoint_whole_ne_nil nonempty point)
          (placePoint_allDigits all point).1 (allDigits_cons_zero (by simp [AllDigits]))
          (by simp) (by simp) rfl
      · rw [integral, List.append_nil, List.length_nil] at value
        simp only [Numeral.magnitude, digitsValue_append, digitsValue_zero]
        rw [← value]
        simp
        ring
    · refine ⟨⟨negative, (placePoint digits point).1, (placePoint digits point).2, 0⟩, ?_, rfl, ?_⟩
      · simp only [integral, if_false]
        exact readNumeral_layout negative (placePoint_whole_ne_nil nonempty point)
          (placePoint_allDigits all point).1 (placePoint_allDigits all point).2
          (by simp) (by simp) rfl
      · simp only [Numeral.magnitude, zero_sub]
        exact value

theorem representable_abs {value : ℚ} (representable : Representable value) :
    Representable |value| := by
  rcases abs_choice value with same | opposite
  · rw [same]
    exact representable
  · rcases representable with ⟨mantissa, exponent, small, lower, upper, valueEq⟩
    exact ⟨-mantissa, exponent, by simpa using small, lower, upper, by
      rw [opposite, valueEq]
      push_cast
      ring⟩

theorem significant_shortest {value : ℚ} (representable : Representable value)
    (nonzero : value ≠ 0) :
    AllDigits (significant (shortest |value|).1 (shortest |value|).2).1 ∧
      (significant (shortest |value|).1 (shortest |value|).2).1 ≠ [] := by
  have rounds := nearest_shortest (representable_abs representable) (abs_nonneg value)
  rcases significant_spec (shortest |value|).1 (shortest |value|).2 with ⟨all, digitsEq⟩
  refine ⟨all, ?_⟩
  intro empty
  rw [empty] at digitsEq
  rw [← digitsEq] at rounds
  simp [digitsValue, nearest, roundHalfEven] at rounds
  exact nonzero (abs_eq_zero.mp rounds.symm)

theorem reprFinite_eq (value : ℚ) :
    reprFinite value = reprDigits (value < 0)
      (significant (shortest |value|).1 (shortest |value|).2).1
      (significant (shortest |value|).1 (shortest |value|).2).2 := by
  simp only [reprFinite]

/-- Reading the text of a finite number and rounding gives the number. -/
theorem readNumeral_reprFinite {value : ℚ} (representable : Representable value)
    (nonzero : value ≠ 0) :
    ∃ numeral, readNumeral (reprFinite value) = some numeral ∧
      numeral.negative = decide (value < 0) ∧ nearest numeral.magnitude = |value| := by
  rcases significant_shortest representable nonzero with ⟨all, nonempty⟩
  rcases readNumeral_reprDigits (decide (value < 0)) nonempty all
    (significant (shortest |value|).1 (shortest |value|).2).2 with ⟨numeral, read, sign, valueEq⟩
  refine ⟨numeral, read, sign, ?_⟩
  rw [valueEq, (significant_spec _ _).2,
    nearest_shortest (representable_abs representable) (abs_nonneg value)]

end ImigrAI.Python
