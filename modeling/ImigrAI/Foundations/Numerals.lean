import Mathlib.Algebra.Field.Rat
import Mathlib.Data.List.DropRight
import Mathlib.Algebra.Order.Field.Power
import Mathlib.Tactic.FieldSimp
import Mathlib.Tactic.Ring

/-!
# Decimal numerals

A numeral is a sign, digits before and after a point, and an exponent. `layout` writes one,
`readNumeral` reads one, and reading what was written gives the numeral back. `placePoint`
puts a point into a string of digits, as printers of decimal and binary floating-point
numbers do; the value of the numeral does not depend on where the point went.
-/

namespace ImigrAI.Numerals

/-- The parts of a decimal numeral. -/
structure Numeral where
  negative : Bool
  whole : List Char
  fraction : List Char
  exponent : ℤ
  deriving DecidableEq

/-- The number that a string of decimal digits writes. -/
def digitsValue (digits : List Char) : ℕ := Nat.ofDigitChars 10 digits 0

/-- The absolute value of a numeral. -/
def Numeral.magnitude (numeral : Numeral) : ℚ :=
  digitsValue (numeral.whole ++ numeral.fraction) *
    10 ^ (numeral.exponent - numeral.fraction.length)

/-- An optional sign and what follows it. -/
def readSign : List Char → Bool × List Char
  | '-' :: rest => (true, rest)
  | '+' :: rest => (false, rest)
  | text => (false, text)

/-- An optional point with the digits after it, and what follows. -/
def readFraction : List Char → List Char × List Char
  | '.' :: rest => (rest.takeWhile Char.isDigit, rest.dropWhile Char.isDigit)
  | text => ([], text)

/-- An optional exponent that ends the text. -/
def readExponent : List Char → Option ℤ
  | [] => some 0
  | marker :: rest =>
      if marker = 'e' ∨ marker = 'E' then
        let (negative, digits) := readSign rest
        if digits ≠ [] ∧ digits.all Char.isDigit then
          some (if negative then -(digitsValue digits : ℤ) else digitsValue digits)
        else none
      else none

/-- A decimal numeral: sign, digits with at most one point, exponent. -/
def readNumeral (text : List Char) : Option Numeral :=
  let (negative, unsigned) := readSign text
  let whole := unsigned.takeWhile Char.isDigit
  let (fraction, suffix) := readFraction (unsigned.dropWhile Char.isDigit)
  if whole = [] ∧ fraction = [] then none
  else (readExponent suffix).map fun exponent => ⟨negative, whole, fraction, exponent⟩

/-- A numeral as text. The point is left out when no digit follows it. -/
def layout (negative : Bool) (whole fraction suffix : List Char) : List Char :=
  (if negative then ['-'] else []) ++ whole ++
    (if fraction = [] then [] else '.' :: fraction) ++ suffix

/-- The digits before and after a point put at a place counted from the first digit. -/
def placePoint (digits : List Char) (place : ℤ) : List Char × List Char :=
  if place ≤ 0 then (['0'], List.replicate (-place).toNat '0' ++ digits)
  else if (digits.length : ℤ) ≤ place then
    (digits ++ List.replicate (place - digits.length).toNat '0', [])
  else (digits.take place.toNat, digits.drop place.toNat)

/-- A string of decimal digits. -/
def AllDigits (text : List Char) : Prop := ∀ digit ∈ text, digit.isDigit = true

theorem allDigits_toDigits (value : ℕ) : AllDigits (Nat.toDigits 10 value) :=
  fun _ digit_mem => Nat.isDigit_of_mem_toDigits (by norm_num) (by norm_num) digit_mem

@[simp]
theorem digitsValue_toDigits (value : ℕ) : digitsValue (Nat.toDigits 10 value) = value :=
  Nat.ofDigitChars_ten_toDigits

theorem takeWhile_digits {digits rest : List Char} (all : AllDigits digits)
    (boundary : ∀ next ∈ rest.head?, next.isDigit = false) :
    (digits ++ rest).takeWhile Char.isDigit = digits := by
  rw [List.takeWhile_append_of_pos all]
  cases rest with
  | nil => simp
  | cons next rest => simp [boundary next rfl]

theorem dropWhile_digits {digits rest : List Char} (all : AllDigits digits)
    (boundary : ∀ next ∈ rest.head?, next.isDigit = false) :
    (digits ++ rest).dropWhile Char.isDigit = rest := by
  rw [List.dropWhile_append_of_pos all]
  cases rest with
  | nil => simp
  | cons next rest => simp [boundary next rfl]

theorem readSign_of_digit {first : Char} {rest : List Char} (digit : first.isDigit = true) :
    readSign (first :: rest) = (false, first :: rest) := by
  unfold readSign
  split
  · simp_all
  · simp_all
  · rfl

theorem readSign_layout (negative : Bool) {whole fraction suffix : List Char}
    (nonempty : whole ≠ []) (all : AllDigits whole) :
    readSign (layout negative whole fraction suffix) =
      (negative, layout false whole fraction suffix) := by
  rcases List.exists_cons_of_ne_nil nonempty with ⟨first, rest, rfl⟩
  cases negative with
  | true => rfl
  | false => exact readSign_of_digit (all first (by simp))

/-- Reading the digits of a numeral that was written gives its digits. -/
theorem readFraction_layout {fraction suffix : List Char} (all : AllDigits fraction)
    (boundary : ∀ next ∈ suffix.head?, next.isDigit = false)
    (no_point : ∀ next ∈ suffix.head?, next ≠ '.') :
    readFraction ((if fraction = [] then [] else '.' :: fraction) ++ suffix) =
      (fraction, suffix) := by
  split_ifs with empty
  · subst empty
    cases suffix with
    | nil => rfl
    | cons next rest =>
        have := no_point next rfl
        unfold readFraction
        split
        · simp_all
        · rfl
  · simp only [List.cons_append, readFraction]
    rw [takeWhile_digits all boundary, dropWhile_digits all boundary]

/-- A numeral that was written is read back. -/
theorem readNumeral_layout (negative : Bool) {whole fraction suffix : List Char} {exponent : ℤ}
    (nonempty : whole ≠ []) (whole_digits : AllDigits whole) (fraction_digits : AllDigits fraction)
    (boundary : ∀ next ∈ suffix.head?, next.isDigit = false)
    (no_point : ∀ next ∈ suffix.head?, next ≠ '.')
    (suffix_exponent : readExponent suffix = some exponent) :
    readNumeral (layout negative whole fraction suffix) =
      some ⟨negative, whole, fraction, exponent⟩ := by
  have whole_boundary : ∀ next ∈ ((if fraction = [] then [] else '.' :: fraction) ++ suffix).head?,
      next.isDigit = false := by
    split_ifs with empty
    · simpa using boundary
    · intro next next_mem
      simp only [List.cons_append, List.head?_cons, Option.mem_def, Option.some.injEq] at next_mem
      subst next_mem
      rfl
  unfold readNumeral
  rw [readSign_layout negative nonempty whole_digits]
  simp only [layout, Bool.false_eq_true, if_false, List.nil_append, List.append_assoc,
    takeWhile_digits whole_digits whole_boundary, dropWhile_digits whole_digits whole_boundary,
    readFraction_layout fraction_digits boundary no_point, nonempty, false_and, suffix_exponent,
    Option.map_some]

theorem readExponent_suffix (marker sign : Char) {digits : List Char} {exponent : ℕ}
    (marker_eq : marker = 'e' ∨ marker = 'E') (nonempty : digits ≠ [])
    (all : AllDigits digits) (value : digitsValue digits = exponent) :
    (sign = '+' → readExponent (marker :: sign :: digits) = some (exponent : ℤ)) ∧
      (sign = '-' → readExponent (marker :: sign :: digits) = some (-(exponent : ℤ))) := by
  have all' : digits.all Char.isDigit = true := List.all_eq_true.mpr all
  constructor <;> rintro rfl <;>
    simp [readExponent, readSign, marker_eq, nonempty, all', value]

theorem digitsValue_append (first second : List Char) :
    digitsValue (first ++ second) =
      10 ^ second.length * digitsValue first + digitsValue second := by
  rw [digitsValue, Nat.ofDigitChars_append, Nat.ofDigitChars_eq_ofDigitChars_zero]
  rfl

/-- A string of digits writes a number with no more digits. -/
theorem digitsValue_lt {digits : List Char} (all : AllDigits digits) :
    digitsValue digits < 10 ^ digits.length := by
  induction digits with
  | nil => decide
  | cons digit rest ih =>
      have restLt := ih fun other otherMem => all other (by simp [otherMem])
      have digitLe : digitsValue [digit] ≤ 9 := by
        have isDigit := all digit (by simp)
        simp only [Char.isDigit, UInt32.le_iff_toNat_le, Bool.and_eq_true, decide_eq_true_eq,
          ge_iff_le] at isDigit
        have value : digitsValue [digit] = digit.toNat - 48 := by
          simp [digitsValue, Nat.ofDigitChars]
        rw [value]
        have upper : digit.toNat ≤ 57 := isDigit.2
        omega
      rw [← List.singleton_append, digitsValue_append, List.length_append, pow_add]
      have scaled := Nat.mul_le_mul_left (10 ^ rest.length) digitLe
      simp only [List.length_singleton, pow_one]
      omega

@[simp]
theorem digitsValue_replicate_zero (count : ℕ) : digitsValue (List.replicate count '0') = 0 := by
  simp [digitsValue]

@[simp]
theorem digitsValue_zero : digitsValue ['0'] = 0 := rfl

/-- Where the point is put does not change the number that is written. -/
theorem placePoint_value (digits : List Char) (place : ℤ) :
    (digitsValue ((placePoint digits place).1 ++ (placePoint digits place).2) : ℚ) *
        10 ^ (-((placePoint digits place).2.length : ℤ)) =
      digitsValue digits * 10 ^ (place - digits.length) := by
  unfold placePoint
  split_ifs with front back
  · rcases Int.eq_ofNat_of_zero_le (neg_nonneg.mpr front) with ⟨zeros, zeros_eq⟩
    have value : digitsValue (['0'] ++ (List.replicate (-place).toNat '0' ++ digits)) =
        digitsValue digits := by
      rw [digitsValue_append, digitsValue_append, digitsValue_zero, digitsValue_replicate_zero]
      ring
    rw [value]
    congr 2
    simp only [List.length_append, List.length_replicate]
    omega
  · rcases Int.eq_ofNat_of_zero_le (sub_nonneg.mpr back) with ⟨zeros, zeros_eq⟩
    simp only [List.append_nil, List.length_nil, digitsValue_append, digitsValue_replicate_zero,
      List.length_replicate, add_zero, zeros_eq, Int.toNat_natCast, zpow_natCast]
    push_cast
    simp [mul_comm]
  · rw [List.take_append_drop]
    congr 2
    simp only [List.length_drop]
    omega

theorem placePoint_whole_ne_nil {digits : List Char} (nonempty : digits ≠ []) (place : ℤ) :
    (placePoint digits place).1 ≠ [] := by
  unfold placePoint
  split_ifs with front back
  · simp
  · simp [nonempty]
  · have := List.length_pos_iff.mpr nonempty
    simp only [ne_eq, List.take_eq_nil_iff, nonempty, or_false]
    omega

theorem placePoint_allDigits {digits : List Char} (all : AllDigits digits) (place : ℤ) :
    AllDigits (placePoint digits place).1 ∧ AllDigits (placePoint digits place).2 := by
  have zeros (count : ℕ) : AllDigits (List.replicate count '0') := by
    intro digit digit_mem
    rw [List.eq_of_mem_replicate digit_mem]
    rfl
  unfold placePoint
  split_ifs with front back
  · refine ⟨?_, ?_⟩
    · intro digit digit_mem
      simp only [List.mem_singleton] at digit_mem
      subst digit_mem
      rfl
    · intro digit digit_mem
      rcases List.mem_append.mp digit_mem with zero_mem | digit_mem
      · exact zeros _ digit zero_mem
      · exact all digit digit_mem
  · refine ⟨?_, by simp [AllDigits]⟩
    intro digit digit_mem
    rcases List.mem_append.mp digit_mem with digit_mem | zero_mem
    · exact all digit digit_mem
    · exact zeros _ digit zero_mem
  · exact ⟨fun digit digit_mem => all digit (List.mem_of_mem_take digit_mem),
      fun digit digit_mem => all digit (List.mem_of_mem_drop digit_mem)⟩

end ImigrAI.Numerals
