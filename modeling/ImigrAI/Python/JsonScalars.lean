import ImigrAI.Python.Loads
import Mathlib.Tactic.IntervalCases

/-!
# Strings and numbers that `json.loads` reads back

Each scalar that `json.dumps` writes is scanned to its last character, whatever token follows.
-/

namespace ImigrAI.Python

open Numerals Digits

namespace Loads

theorem hexValue_digitChar {digit : ℕ} (small : digit < 16) :
    hexValue digit.digitChar = some digit := by
  interval_cases digit <;> rfl

theorem scanUnit_fixedDigits {unit : ℕ} (small : unit < 65536) (rest : List Char) :
    scanUnit (fixedDigits 16 4 unit ++ rest) = .ok (unit, rest) := by
  have digit (value : ℕ) : hexValue (value % 16).digitChar = some (value % 16) :=
    hexValue_digitChar (Nat.mod_lt _ (by norm_num))
  have unitEq : hexUnit (unit / 16 / 16 / 16 % 16).digitChar (unit / 16 / 16 % 16).digitChar
      (unit / 16 % 16).digitChar (unit % 16).digitChar = some unit := by
    simp only [hexUnit, digit, Option.bind_eq_bind, Option.bind_some]
    congr 1
    omega
  simp only [fixedDigits, List.nil_append, List.cons_append, scanUnit, unitEq]

theorem scanString_plain {char : Char} (quote : char ≠ '"') (backslash : char ≠ '\\')
    (visible : 32 ≤ char.toNat) (fuel : ℕ) (rest : List Char) :
    scanString (fuel + 1) (char :: rest) =
      (scanString fuel rest >>= fun read => .ok (char :: read.1, read.2)) := by
  simp only [scanString, quote, backslash, Nat.not_lt.mpr visible, if_false, Fallible.ok_bind]

theorem scanString_escape {char : Char} {text rest : List Char}
    (escape : scanEscape text = .ok (char, rest)) (fuel : ℕ) :
    scanString (fuel + 1) ('\\' :: text) =
      (scanString fuel rest >>= fun read => .ok (char :: read.1, read.2)) := by
  simp only [scanString, Char.reduceEq, if_false, if_true, escape, Fallible.ok_bind]

theorem scanEscape_unit {char : Char} (short : char.toNat < 65536) (rest : List Char) :
    scanEscape ('u' :: (fixedDigits 16 4 char.toNat ++ rest)) = .ok (char, rest) := by
  have surrogate := toNat_not_surrogate char
  have notHigh : ¬ isHigh char.toNat := by
    simp only [isHigh]
    omega
  have notLow : ¬ isLow char.toNat := by
    simp only [isLow]
    omega
  simp only [scanEscape, if_true, scanUnit_fixedDigits short, Fallible.ok_bind, notHigh, notLow,
    if_false, Char.ofNat_toNat]

/-- An escaped pair of code units. -/
theorem scanEscape_pair {high low : ℕ} (isHigh : isHigh high) (isLow : isLow low)
    (rest : List Char) :
    scanEscape ('u' :: (fixedDigits 16 4 high ++
      '\\' :: 'u' :: (fixedDigits 16 4 low ++ rest))) =
      .ok (Char.ofNat (65536 + (high - 55296) * 1024 + (low - 56320)), rest) := by
  have highSmall : high < 65536 := isHigh.2.trans (by norm_num)
  have lowSmall : low < 65536 := isLow.2.trans (by norm_num)
  simp only [scanEscape, if_true, scanUnit_fixedDigits highSmall, Fallible.ok_bind, isHigh]
  simp only [scanPair, scanUnit_fixedDigits lowSmall, Fallible.ok_bind, isLow, if_true]

theorem surrogates_of_long {char : Char} (long : 65536 ≤ char.toNat) :
    isHigh (55296 + (char.toNat - 65536) / 1024) ∧
      isLow (56320 + (char.toNat - 65536) % 1024) ∧
      Char.ofNat (65536 + (55296 + (char.toNat - 65536) / 1024 - 55296) * 1024 +
        (56320 + (char.toNat - 65536) % 1024 - 56320)) = char := by
  have bound := toNat_lt char
  have whole : 65536 + (55296 + (char.toNat - 65536) / 1024 - 55296) * 1024 +
      (56320 + (char.toNat - 65536) % 1024 - 56320) = char.toNat := by omega
  refine ⟨?_, ?_, ?_⟩
  · simp only [isHigh]
    omega
  · simp only [isLow]
    omega
  · rw [whole, Char.ofNat_toNat]

/-- A character that was written is read back. -/
theorem scanString_jsonChar (char : Char) (fuel : ℕ) (rest : List Char) :
    scanString (fuel + 1) (jsonChar char ++ rest) =
      (scanString fuel rest >>= fun read => .ok (char :: read.1, read.2)) := by
  unfold jsonChar
  split_ifs with quote backslash newline carriage tab feed back printable short
  · exact scanString_escape (by rw [quote]; rfl) fuel
  · exact scanString_escape (by rw [backslash]; rfl) fuel
  · exact scanString_escape (by rw [newline]; rfl) fuel
  · exact scanString_escape (by rw [carriage]; rfl) fuel
  · exact scanString_escape (by rw [tab]; rfl) fuel
  · exact scanString_escape (by rw [feed]; rfl) fuel
  · exact scanString_escape (by rw [back]; rfl) fuel
  · apply scanString_plain quote backslash
    have lower : ' '.toNat ≤ char.toNat := by
      simpa [Char.le_def, UInt32.le_iff_toNat_le] using printable.1
    exact lower
  · exact scanString_escape (scanEscape_unit short rest) fuel
  · rcases surrogates_of_long (by omega : 65536 ≤ char.toNat) with ⟨isHigh, isLow, same⟩
    have escape := scanEscape_pair isHigh isLow rest
    rw [same] at escape
    simpa only [List.cons_append, List.append_assoc] using scanString_escape escape fuel

theorem scanString_written (value rest : List Char) {fuel : ℕ} (enough : value.length < fuel) :
    scanString fuel (value.flatMap jsonChar ++ '"' :: rest) = .ok (value, rest) := by
  induction value generalizing fuel with
  | nil =>
      cases fuel with
      | zero => simp at enough
      | succ fuel => simp [scanString]
  | cons char value ih =>
      cases fuel with
      | zero => simp at enough
      | succ fuel =>
          rw [List.flatMap_cons, List.append_assoc, scanString_jsonChar,
            ih (by simpa using enough)]
          rfl

theorem length_le_flatMap_jsonChar (value : List Char) :
    value.length ≤ (value.flatMap jsonChar).length := by
  induction value with
  | nil => simp
  | cons char value ih =>
      rcases jsonChar_head_ne_quote char with ⟨first, rest, written, -⟩
      simp only [List.flatMap_cons, List.length_append, List.length_cons, written]
      omega

/-- The digits before the point of a JSON number. -/
structure IsWhole (whole : List Char) : Prop where
  all : AllDigits whole
  nonempty : whole ≠ []
  noLeadingZero : whole.head? = some '0' → whole = ['0']

/-- No digit follows. -/
def DigitsEnd (text : List Char) : Prop := ∀ next ∈ text.head?, next.isDigit = false

theorem scanWhole_append {whole rest : List Char} (isWhole : IsWhole whole)
    (ends : DigitsEnd rest) : scanWhole (whole ++ rest) = some (whole, rest) := by
  rcases List.exists_cons_of_ne_nil isWhole.nonempty with ⟨first, others, rfl⟩
  have digit : first.isDigit := isWhole.all first (by simp)
  by_cases zero : first = '0'
  · subst zero
    have alone : others = [] := by simpa using isWhole.noLeadingZero rfl
    subst alone
    rfl
  · have taken := takeWhile_digits isWhole.all ends
    have dropped := dropWhile_digits isWhole.all ends
    rw [List.cons_append] at taken dropped
    simp only [List.cons_append, scanWhole, zero, digit, if_false, if_true, taken, dropped]

theorem scanFraction_written {fraction rest : List Char} (all : AllDigits fraction)
    (ends : DigitsEnd rest) (noPoint : ∀ next ∈ rest.head?, next ≠ '.') :
    scanFraction ((if fraction = [] then [] else '.' :: fraction) ++ rest) =
      (fraction, rest) := by
  by_cases empty : fraction = []
  · subst empty
    cases rest with
    | nil => rfl
    | cons next rest =>
        have := noPoint next rfl
        simp [scanFraction, this]
  · have taken := takeWhile_digits all ends
    have dropped := dropWhile_digits all ends
    simp [scanFraction, empty, taken, dropped]

/-- A text after which a number is complete. -/
def NumberEnds (text : List Char) : Prop :=
  ∀ next ∈ text.head?, next.isDigit = false ∧ next ≠ '.' ∧ next ≠ 'e' ∧ next ≠ 'E'

theorem scanExponent_of_ends {rest : List Char} (ends : NumberEnds rest) :
    scanExponent rest = (none, rest) := by
  cases rest with
  | nil => rfl
  | cons next rest =>
      rcases ends next rfl with ⟨-, -, small, large⟩
      simp [scanExponent, small, large]

/-- An exponent as it is written: a sign and digits. -/
theorem scanExponent_written (negative : Bool) {digits rest : List Char}
    (all : AllDigits digits) (nonempty : digits ≠ []) (ends : DigitsEnd rest) :
    scanExponent ('e' :: (if negative then '-' else '+') :: (digits ++ rest)) =
      (some (if negative then -(digitsValue digits : ℤ) else digitsValue digits), rest) := by
  have taken := takeWhile_digits all ends
  have dropped := dropWhile_digits all ends
  cases negative <;> simp [scanExponent, readSign, taken, dropped, nonempty]

theorem scanMinus_written (negative : Bool) {text : List Char}
    (noSign : ∀ first ∈ text.head?, first ≠ '-') :
    scanMinus ((if negative then ['-'] else []) ++ text) = (negative, text) := by
  cases negative with
  | true => rfl
  | false =>
      cases text with
      | nil => rfl
      | cons first rest => simp [scanMinus, noSign first rfl]

theorem eq_zero_of_head_toDigits (number : ℕ) :
    (Nat.toDigits 10 number).head? = some '0' → number = 0 := by
  induction number using Nat.strong_induction_on with
  | h number ih =>
      intro head
      by_cases small : number < 10
      · rw [Nat.toDigits_of_lt_base small] at head
        interval_cases number <;> first | rfl | simp [Nat.digitChar] at head
      · rw [Nat.toDigits_of_base_le (by norm_num) (by omega)] at head
        have earlier := ih (number / 10) (by omega)
        rcases List.exists_cons_of_ne_nil (Nat.toDigits_ne_nil (b := 10) (n := number / 10)) with
          ⟨first, rest, digits⟩
        rw [digits] at head earlier
        have := earlier (by simpa using head)
        omega

theorem isWhole_toDigits (number : ℕ) : IsWhole (Nat.toDigits 10 number) where
  all := allDigits_toDigits number
  nonempty := Nat.toDigits_ne_nil
  noLeadingZero := by
    intro head
    rw [eq_zero_of_head_toDigits number head]
    rfl

theorem isWhole_placePoint {digits : List Char} (all : AllDigits digits) (nonempty : digits ≠ [])
    (noZero : digits.head? ≠ some '0') (place : ℤ) : IsWhole (placePoint digits place).1 where
  all := (placePoint_allDigits all place).1
  nonempty := placePoint_whole_ne_nil nonempty place
  noLeadingZero := by
    rcases List.exists_cons_of_ne_nil nonempty with ⟨first, rest, rfl⟩
    intro head
    unfold placePoint at head ⊢
    split_ifs at head ⊢ with front back
    · rfl
    · exact absurd head (by simpa using noZero)
    · have positive : place.toNat ≠ 0 := by omega
      simp only [List.head?_take, positive, if_false] at head
      exact absurd head noZero

theorem ne_minus_of_isWhole {whole : List Char} (isWhole : IsWhole whole) (rest : List Char) :
    ∀ first ∈ (whole ++ rest).head?, first ≠ '-' := by
  rcases List.exists_cons_of_ne_nil isWhole.nonempty with ⟨first, others, rfl⟩
  rintro _ same rfl
  have digit := isWhole.all '-' (by simpa using Or.inl (by simpa [eq_comm] using same))
  exact absurd digit (by decide)

theorem NumberEnds.digitsEnd {rest : List Char} (ends : NumberEnds rest) : DigitsEnd rest :=
  fun next nextMem => (ends next nextMem).1

theorem scanNumber_int {whole rest : List Char} (negative : Bool) (isWhole : IsWhole whole)
    (fits : whole.length ≤ 4300) (ends : NumberEnds rest) :
    scanNumber ((if negative then ['-'] else []) ++ (whole ++ rest)) =
      .ok (.int (if negative then -(digitsValue whole : ℤ) else digitsValue whole), rest) := by
  have noFraction : scanFraction rest = ([], rest) := by
    have := @scanFraction_written [] rest (by simp [AllDigits]) ends.digitsEnd
      fun next nextMem => (ends next nextMem).2.1
    simpa using this
  simp only [scanNumber, scanMinus_written negative (ne_minus_of_isWhole isWhole rest),
    scanWhole_append isWhole ends.digitsEnd, noFraction, scanExponent_of_ends ends, true_and,
    if_true, fits]

/-- An integer that was written is read back. -/
theorem scanNumber_intText {number : ℤ} {rest : List Char}
    (fits : (Nat.toDigits 10 number.natAbs).length ≤ 4300) (ends : NumberEnds rest) :
    scanNumber (intText number ++ rest) = .ok (.int number, rest) := by
  have text : intText number ++ rest = (if decide (number < 0) then ['-'] else []) ++
      (Nat.toDigits 10 number.natAbs ++ rest) := by
    by_cases negative : number < 0 <;> simp [intText, negative]
  rw [text, scanNumber_int _ (isWhole_toDigits _) fits ends, digitsValue_toDigits]
  congr 3
  by_cases negative : number < 0 <;> simp only [negative, decide_true, decide_false, if_true]
  · omega
  · simp only [Bool.false_eq_true, if_false]
    omega

/-- A numeral with a point or an exponent, as `repr` writes it. -/
theorem scanNumber_layout (negative : Bool) {whole fraction suffix rest : List Char}
    {exponent : Option ℤ} (isWhole : IsWhole whole) (all : AllDigits fraction)
    (isSuffix : suffix = [] ∧ exponent = none ∧ fraction ≠ [] ∨
      ∃ written, suffix = exponentText written ∧ exponent = some written)
    (ends : NumberEnds rest) :
    scanNumber (layout negative whole fraction suffix ++ rest) =
      .ok (.float (.ofSigned negative
        (Numeral.magnitude ⟨negative, whole, fraction, exponent.getD 0⟩)), rest) := by
  have text : layout negative whole fraction suffix ++ rest =
      (if negative then ['-'] else []) ++
        (whole ++ ((if fraction = [] then [] else '.' :: fraction) ++ (suffix ++ rest))) := by
    simp [layout]
  have after : scanExponent (suffix ++ rest) = (exponent, rest) ∧ DigitsEnd (suffix ++ rest) ∧
      ∀ next ∈ (suffix ++ rest).head?, next ≠ '.' := by
    rcases isSuffix with ⟨rfl, rfl, -⟩ | ⟨written, rfl, rfl⟩
    · exact ⟨scanExponent_of_ends ends, ends.digitsEnd, fun next nextMem => (ends next nextMem).2.1⟩
    · refine ⟨?_, by simp [DigitsEnd, exponentText], by simp [exponentText]⟩
      have digits := allDigits_toDigits written.natAbs
      have value : ∀ shown : List Char, AllDigits shown → shown ≠ [] →
          digitsValue shown = written.natAbs →
          scanExponent ('e' :: (if written < 0 then '-' else '+') :: (shown ++ rest)) =
            (some written, rest) := by
        intro shown shownAll nonempty same
        have scanned := scanExponent_written (decide (written < 0)) shownAll nonempty
          ends.digitsEnd
        simp only [decide_eq_true_eq, same] at scanned
        rw [scanned]
        congr 2
        split_ifs <;> omega
      unfold exponentText
      by_cases short : (Nat.toDigits 10 written.natAbs).length < 2
      · simpa [short] using value _ (allDigits_cons_zero digits) (by simp)
          (by simp [digitsValue_cons_zero])
      · simpa [short] using value _ digits Nat.toDigits_ne_nil (digitsValue_toDigits _)
  have whole_ends : DigitsEnd
      ((if fraction = [] then [] else '.' :: fraction) ++ (suffix ++ rest)) := by
    by_cases empty : fraction = []
    · simpa [empty] using after.2.1
    · simp [empty, DigitsEnd]
  have isFloat : ¬ (fraction = [] ∧ exponent = none) := by
    rcases isSuffix with ⟨-, -, nonempty⟩ | ⟨written, -, rfl⟩
    · exact fun both => nonempty both.1
    · simp
  rw [text]
  simp only [scanNumber, scanMinus_written negative (ne_minus_of_isWhole isWhole _),
    scanWhole_append isWhole whole_ends, scanFraction_written all after.2.1 after.2.2, after.1,
    isFloat, if_false]

theorem reprDigits_eq (negative : Bool) (digits : List Char) (point : ℤ) :
    reprDigits negative digits point =
      if point ≤ -4 ∨ 16 < point then
        layout negative (placePoint digits 1).1 (placePoint digits 1).2 (exponentText (point - 1))
      else
        layout negative (placePoint digits point).1
          (if (placePoint digits point).2 = [] then ['0'] else (placePoint digits point).2) [] :=
  rfl

/-- What stands after the point when there is nothing else to show. -/
theorem shown_fraction {fraction : List Char} (all : AllDigits fraction) :
    AllDigits (if fraction = [] then ['0'] else fraction) ∧
      (if fraction = [] then ['0'] else fraction) ≠ [] := by
  by_cases empty : fraction = []
  · rw [if_pos empty]
    exact ⟨allDigits_cons_zero (by simp [AllDigits]), by simp⟩
  · rw [if_neg empty]
    exact ⟨all, empty⟩

theorem scanNumber_reprDigits (negative : Bool) {digits rest : List Char}
    (all : AllDigits digits) (nonempty : digits ≠ []) (noZero : digits.head? ≠ some '0')
    (point : ℤ) (ends : NumberEnds rest) :
    ∃ numeral, readNumeral (reprDigits negative digits point) = some numeral ∧
      scanNumber (reprDigits negative digits point ++ rest) =
        .ok (.float (.ofSigned numeral.negative numeral.magnitude), rest) := by
  rw [reprDigits_eq]
  by_cases scientific : point ≤ -4 ∨ 16 < point
  · rw [if_pos scientific]
    have isWhole := isWhole_placePoint all nonempty noZero 1
    have fraction := (placePoint_allDigits all 1).2
    have scanned := scanNumber_layout negative isWhole fraction (Or.inr ⟨point - 1, rfl, rfl⟩) ends
    rw [Option.getD_some] at scanned
    exact ⟨⟨negative, (placePoint digits 1).1, (placePoint digits 1).2, point - 1⟩,
      readNumeral_layout negative isWhole.nonempty isWhole.all fraction (by simp [exponentText])
        (by simp [exponentText]) (readExponent_exponentText _), scanned⟩
  · rw [if_neg scientific]
    have isWhole := isWhole_placePoint all nonempty noZero point
    rcases shown_fraction (placePoint_allDigits all point).2 with ⟨fraction, shown⟩
    have scanned := scanNumber_layout negative isWhole fraction (Or.inl ⟨rfl, rfl, shown⟩) ends
    rw [Option.getD_none] at scanned
    exact ⟨⟨negative, (placePoint digits point).1, _, 0⟩,
      readNumeral_layout negative isWhole.nonempty isWhole.all fraction (by simp) (by simp) rfl,
      scanned⟩

theorem head_significant_ne_zero {count : ℕ} {place : ℤ}
    (nonempty : (significant count place).1 ≠ []) :
    (significant count place).1.head? ≠ some '0' := by
  intro head
  rcases List.rdropWhile_prefix (· = '0') (Nat.toDigits 10 count) with ⟨zeros, split⟩
  have first : (Nat.toDigits 10 count).head? = some '0' := by
    rw [← split, List.head?_append]
    change ((significant count place).1.head?).or _ = _
    rw [head]
    rfl
  have zero := eq_zero_of_head_toDigits count first
  subst zero
  exact nonempty rfl

/-- A finite float that was written is read back. -/
theorem scanNumber_reprFinite {double : Double} (nonzero : double.value ≠ 0) {rest : List Char}
    (ends : NumberEnds rest) :
    scanNumber (reprFinite double.value ++ rest) = .ok (.float (.finite double), rest) := by
  rcases significant_shortest double.representable nonzero with ⟨all, nonempty⟩
  rcases scanNumber_reprDigits (decide (double.value < 0)) all nonempty
    (head_significant_ne_zero nonempty) (significant (shortest |double.value|).1
      (shortest |double.value|).2).2 ends with ⟨numeral, read, scanned⟩
  rcases readNumeral_reprFinite double.representable nonzero with ⟨same, written, sign, rounds⟩
  rw [← reprFinite_eq] at read scanned
  cases read.symm.trans written
  rw [scanned, sign, PyFloat.ofSigned_of_nearest nonzero rounds]

/-- A text that begins with a digit is no name of a value. -/
theorem scanScalar_of_signed {text : List Char} (signed : Signed text) :
    scanScalar text = scanNumber text := by
  have noName : constants.find? (fun constant => constant.1.isPrefixOf text) = none := by
    rcases signed with ⟨negative, first, rest, rfl, digit⟩
    have notLetter (letter : Char) (isLetter : letter.isDigit = false) : (letter == first) = false := by
      rw [beq_eq_false_iff_ne]
      rintro rfl
      simp [digit] at isLetter
    cases negative <;>
      simp [constants, List.isPrefixOf, notLetter]
  rw [scanScalar, noName]

theorem numberEnds_of_boundary {rest : List Char} (boundary : Boundary rest) :
    NumberEnds rest := by
  intro next nextMem
  have noToken := boundary next nextMem
  refine ⟨?_, ?_, ?_, ?_⟩
  · rw [Bool.eq_false_iff]
    intro digit
    rw [isTokenChar_of_isDigit digit] at noToken
    exact absurd noToken (by decide)
  all_goals
    rintro rfl
    exact absurd noToken (by decide)

/-- The two zeros of floats. -/
theorem scanScalar_zero (negative : Bool) {rest : List Char} (ends : NumberEnds rest) :
    scanScalar (layout negative ['0'] ['0'] [] ++ rest) =
      .ok (readScalar (layout negative ['0'] ['0'] []), rest) := by
  have isWhole : IsWhole ['0'] := isWhole_toDigits 0
  have scanned := scanNumber_layout negative isWhole isWhole.all (Or.inl ⟨rfl, rfl, by simp⟩) ends
  cases negative with
  | false => exact (scanScalar_of_signed ⟨false, '0', '.' :: '0' :: rest, rfl, rfl⟩).trans scanned
  | true => exact (scanScalar_of_signed ⟨true, '0', '.' :: '0' :: rest, rfl, rfl⟩).trans scanned

theorem scanScalar_jsonFloat (number : PyFloat) {rest : List Char} (ends : NumberEnds rest) :
    scanScalar (jsonFloat number ++ rest) = .ok (.float number, rest) := by
  cases number with
  | finite double =>
      by_cases zero : double.value = 0
      · have text : jsonFloat (.finite double) = layout false ['0'] ['0'] [] := by
          simp [jsonFloat, PyFloat.repr, zero, layout]
        rw [← readScalar_jsonFloat, text]
        exact scanScalar_zero false ends
      · have text : jsonFloat (.finite double) = reprFinite double.value := by
          simp [jsonFloat, PyFloat.repr, zero]
        rcases significant_shortest double.representable zero with ⟨all, nonempty⟩
        rcases (signed_reprDigits (decide (double.value < 0)) nonempty all
          (significant (shortest |double.value|).1 (shortest |double.value|).2).2).1 with
          ⟨negative, first, others, shown, digit⟩
        rw [text]
        rw [scanScalar_of_signed, scanNumber_reprFinite zero ends]
        refine ⟨negative, first, others ++ rest, ?_, digit⟩
        rw [reprFinite_eq, shown]
        simp
  | negativeZero =>
      rw [← readScalar_jsonFloat]
      exact scanScalar_zero true ends
  | infinity negative => cases negative <;> simp [scanScalar, constants, jsonFloat, List.isPrefixOf]
  | nan => simp [scanScalar, constants, jsonFloat, List.isPrefixOf]

end Loads

namespace Value

mutual

/-- No integer in the value has more digits than the interpreter converts. -/
def IntsFit : Value → Prop
  | .int number => (Nat.toDigits 10 number.natAbs).length ≤ 4300
  | .list items => ItemsFit items
  | .dict entries => EntriesFit entries
  | _ => True

def ItemsFit : List Value → Prop
  | [] => True
  | item :: rest => item.IntsFit ∧ ItemsFit rest

def EntriesFit : List (String × Value) → Prop
  | [] => True
  | (_, value) :: rest => value.IntsFit ∧ EntriesFit rest

end

end Value

open Loads in
/-- A scalar that was written is read back. -/
theorem Loads.scanScalar_render {value : Value} (scalar : value.shape = .scalar)
    (fits : value.IntsFit) {rest : List Char} (boundary : Boundary rest) :
    scanScalar (value.render ++ rest) = .ok (value, rest) := by
  have ends := numberEnds_of_boundary boundary
  cases value with
  | none => simp [scanScalar, constants, Value.render, List.isPrefixOf]
  | bool value => cases value <;> simp [scanScalar, constants, Value.render, List.isPrefixOf]
  | int number =>
      rcases (readNumber_intText number).1 with ⟨negative, first, others, text, digit⟩
      rw [Value.render, scanScalar_of_signed, scanNumber_intText fits ends]
      exact ⟨negative, first, others ++ rest, by simp [text], digit⟩
  | float number => exact scanScalar_jsonFloat number ends
  | str text => exact absurd scalar (by simp [Value.shape])
  | list items => exact absurd scalar (by simp [Value.shape])
  | dict entries => exact absurd scalar (by simp [Value.shape])

end ImigrAI.Python
