import ImigrAI.Ingestion.ThresholdPlaces

/-!
# Amounts in the income rule

An amount is captured with all digits, full stops and commas that follow its first digit, and is
read without the stops and commas. So decimals, and digits that follow the amount after a stop or
a comma, are read as further digits of it.
-/

namespace ImigrAI.Ingestion

open Python Patterns Pattern Fallible Numerals

inductive Separator where
  | comma
  | dot
deriving DecidableEq

def Separator.char : Separator → Char
  | comma => ','
  | dot => '.'

/-- The separator of the thousands, and the other one if two zero decimals are written. -/
structure Rendering where
  grouping : Option Separator
  decimals : Option Separator
  apart : ∀ separator ∈ grouping, decimals ≠ some separator

/-- Digits in groups of three, from the first. -/
def inThrees (separator : Char) : List Char → List Char
  | first :: second :: third :: next :: rest =>
      first :: second :: third :: separator :: inThrees separator (next :: rest)
  | short => short

def Rendering.whole (rendering : Rendering) (amount : ℕ) : List Char :=
  match rendering.grouping with
  | none => Nat.toDigits 10 amount
  | some separator => (inThrees separator.char (Nat.toDigits 10 amount).reverse).reverse

def Rendering.fraction (rendering : Rendering) : List Char :=
  match rendering.decimals with
  | none => []
  | some separator => [separator.char, '0', '0']

def Rendering.render (rendering : Rendering) (amount : ℕ) : List Char :=
  rendering.whole amount ++ rendering.fraction

def isSeparator (char : Char) : Bool := char = ',' || char = '.'

theorem isSeparator_char (separator : Separator) : isSeparator separator.char := by
  cases separator <;> rfl

theorem isDigit_bounds {char : Char} (digit : char.isDigit) :
    48 ≤ char.toNat ∧ char.toNat ≤ 57 := by
  simpa [Char.isDigit, UInt32.le_iff_toNat_le] using digit

theorem isSeparator_of_isDigit {char : Char} (digit : char.isDigit) : isSeparator char = false := by
  simp only [isSeparator, Bool.or_eq_false_iff, decide_eq_false_iff_not]
  constructor
  · rintro rfl
    exact absurd digit (by decide)
  · rintro rfl
    exact absurd digit (by decide)

theorem filter_inThrees {separator : Char} (isSep : isSeparator separator) (digits : List Char) :
    (inThrees separator digits).filter (fun char => !isSeparator char) =
      digits.filter fun char => !isSeparator char := by
  induction digits using inThrees.induct with
  | case1 first second third next rest ih =>
      simp only [inThrees, List.filter_cons, isSep, ih, Bool.not_true]
      rfl
  | case2 short notLong => rw [inThrees]; exact notLong

theorem mem_inThrees {separator char : Char} {digits : List Char}
    (charMem : char ∈ inThrees separator digits) : char ∈ digits ∨ char = separator := by
  induction digits using inThrees.induct with
  | case1 first second third next rest ih =>
      simp only [inThrees, List.mem_cons] at charMem ih ⊢
      tauto
  | case2 short notLong =>
      rw [inThrees] at charMem
      · exact Or.inl charMem
      · exact notLong

theorem getLast?_inThrees (separator : Char) (digits : List Char) :
    (inThrees separator digits).getLast? = digits.getLast? := by
  induction digits using inThrees.induct with
  | case1 first second third next rest ih =>
      rw [inThrees]
      simp only [List.getLast?_cons_cons]
      rw [List.getLast?_cons, ih, List.getLast?_cons]
      rfl
  | case2 short notLong => rw [inThrees]; exact notLong

theorem filter_digits (amount : ℕ) :
    (Nat.toDigits 10 amount).filter (fun char => !isSeparator char) = Nat.toDigits 10 amount := by
  rw [List.filter_eq_self]
  intro char charMem
  rw [isSeparator_of_isDigit (allDigits_toDigits amount char charMem)]
  rfl

/-- Without its separators an amount has its digits, and those of its decimals. -/
theorem filter_render (rendering : Rendering) (amount : ℕ) :
    (rendering.render amount).filter (fun char => !isSeparator char) =
      Nat.toDigits 10 amount ++ rendering.fraction.filter fun char => !isSeparator char := by
  rw [Rendering.render, List.filter_append]
  congr 1
  rw [Rendering.whole]
  cases rendering.grouping with
  | none => exact filter_digits amount
  | some separator =>
      rw [List.filter_reverse, filter_inThrees (isSeparator_char separator), List.filter_reverse,
        filter_digits, List.reverse_reverse]

theorem isDigit_or_isSeparator_of_mem_whole {rendering : Rendering} {amount : ℕ} {char : Char}
    (charMem : char ∈ rendering.whole amount) : char.isDigit ∨ isSeparator char := by
  unfold Rendering.whole at charMem
  split at charMem
  · exact Or.inl (allDigits_toDigits amount char charMem)
  · next separator _ =>
      rcases mem_inThrees (List.mem_reverse.mp charMem) with ofDigits | rfl
      · exact Or.inl (allDigits_toDigits amount char (List.mem_reverse.mp ofDigits))
      · exact Or.inr (isSeparator_char separator)

theorem isDigit_or_isSeparator_of_mem_fraction {rendering : Rendering} {char : Char}
    (charMem : char ∈ rendering.fraction) : char.isDigit ∨ isSeparator char := by
  unfold Rendering.fraction at charMem
  split at charMem
  · exact absurd charMem List.not_mem_nil
  · next separator _ =>
      simp only [List.mem_cons, List.not_mem_nil, or_false] at charMem
      rcases charMem with rfl | rfl | rfl
      · exact Or.inr (isSeparator_char separator)
      · exact Or.inl rfl
      · exact Or.inl rfl

theorem head?_whole (rendering : Rendering) (amount : ℕ) :
    (rendering.whole amount).head? = (Nat.toDigits 10 amount).head? := by
  unfold Rendering.whole
  split
  · rfl
  · rw [List.head?_reverse, getLast?_inThrees, List.getLast?_reverse]

/-- An amount begins with a digit and consists of digits and separators. -/
theorem render_eq_cons (rendering : Rendering) {amount : ℕ} (large : 100 ≤ amount) :
    ∃ first rest, rendering.render amount = first :: rest ∧ first.isDigit ∧ 2 ≤ rest.length ∧
      ∀ char ∈ rest, char.isDigit ∨ isSeparator char := by
  have digits : 3 ≤ (Nat.toDigits 10 amount).length := by
    have short := (Nat.length_toDigits_le_iff (n := amount) (k := 2) (by decide : 1 < 10) two_pos).not
    omega
  have length : 3 ≤ (rendering.render amount).length := by
    have shorter := List.length_filter_le (fun char => !isSeparator char) (rendering.render amount)
    rw [filter_render, List.length_append] at shorter
    omega
  have head : ∃ first ∈ Nat.toDigits 10 amount, (rendering.render amount).head? = some first := by
    cases written : Nat.toDigits 10 amount with
    | nil => simp [written] at digits
    | cons first rest =>
        refine ⟨first, List.mem_cons_self, ?_⟩
        rw [Rendering.render, List.head?_append, head?_whole, written]
        rfl
  rcases head with ⟨first, firstMem, head⟩
  rcases List.head?_eq_some_iff.mp head with ⟨rest, written⟩
  refine ⟨first, rest, written, allDigits_toDigits amount first firstMem, ?_, ?_⟩
  · simpa [written] using length
  · intro char charMem
    have rendered : char ∈ rendering.render amount := by simp [written, charMem]
    rcases List.mem_append.mp rendered with ofWhole | ofFraction
    · exact isDigit_or_isSeparator_of_mem_whole ofWhole
    · exact isDigit_or_isSeparator_of_mem_fraction ofFraction

section Capturing

variable [UnicodeData]

/-- A character of a captured amount. -/
def isAmountChar (char : Char) : Bool := isDecimal char || char = '.' || char = ','

/-- A phrase that states a minimum. -/
def phrase (rendering : Rendering) (amount : ℕ) : List Char :=
  "minimum".toList ++ ' ' :: rendering.render amount

theorem isDecimal_of_isDigit {char : Char} (digit : char.isDigit) : isDecimal char := by
  have small : char.toNat < 128 := (isDigit_bounds digit).2.trans_lt (by decide)
  rw [isDecimal, UnicodeData.decimalDigit_ascii char small, dif_pos digit]
  rfl

theorem isAmountChar_iff {char : Char} :
    isAmountChar char ↔ isDecimal char ∨ isSeparator char := by
  simp only [isAmountChar, isSeparator, Bool.or_eq_true, decide_eq_true_eq]
  tauto

/-- The digits of the pattern. -/
def incomeNumber : Pattern :=
  .group (.sequence (.literal isDecimal) (.repeated isAmountChar 2 none))

theorem firstMatch_incomeNumber {first : Char} {rest : List Char} (decimal : isDecimal first)
    (enough : 2 ≤ (rest.takeWhile isAmountChar).length) :
    incomeNumber.firstMatch (first :: rest) =
      some ⟨[first :: rest.takeWhile isAmountChar], rest.dropWhile isAmountChar⟩ := by
  have start : (literal isDecimal).firstMatch (first :: rest) = some ⟨[], rest⟩ := by
    rw [firstMatch, matches_, if_pos decimal]
    rfl
  have run := firstMatch_repeated isAmountChar 2 rest
  rw [if_pos enough] at run
  refine firstMatch_group ?_ (firstMatch_sequence start run)
  rw [List.cons_append, List.takeWhile_append_dropWhile]

/-- A number is never begun within a gap. -/
theorem firstMatch_gap_incomeNumber (input : List Char)
    (short : (input.takeWhile fun char => !isDecimal char).length ≤ 20) :
    (sequence gap incomeNumber).firstMatch input =
      incomeNumber.firstMatch (input.dropWhile fun char => !isDecimal char) := by
  have apart (char : Char) (rest : List Char) (notDecimal : (!isDecimal char) = true) :
      incomeNumber.matches_ (char :: rest) = [] := by
    have fails : ¬ isDecimal char = true := by simpa using notDecimal
    simp [incomeNumber, matches_, fails]
  rw [firstMatch, gap, matches_gap apart, if_pos short]
  rfl

/-- An ASCII word is matched by itself. -/
theorem firstMatch_keyword {word : String} (ascii : Text.isAscii word.toList) (tail : List Char) :
    (keyword word).firstMatch (word.toList ++ tail) = some ⟨[], tail⟩ := by
  have same : ∀ char ∈ word.toList, UnicodeData.sameCase char char := by
    intro char charMem
    have small : char.toNat < 128 := by simpa using List.all_eq_true.mp ascii char charMem
    simp [UnicodeData.sameCase_ascii char char small small]
  rw [keyword, firstMatch_word (startsWith_append same tail), List.drop_left]

theorem incomePattern_shape :
    ∃ others, incomePattern =
      .sequence (.group (.either (keyword "minimum") others)) (.sequence gap incomeNumber) :=
  ⟨_, rfl⟩

/-- The phrase and all digits and separators after it are captured. -/
theorem firstMatch_phrase (rendering : Rendering) {amount : ℕ} (large : 100 ≤ amount)
    (after : List Char) :
    incomePattern.firstMatch (phrase rendering amount ++ after) =
      some ⟨["minimum".toList, rendering.render amount ++ after.takeWhile isAmountChar],
        after.dropWhile isAmountChar⟩ := by
  rcases render_eq_cons rendering large with ⟨first, rest, written, digit, length, others⟩
  have decimal := isDecimal_of_isDigit digit
  have amountChars : ∀ char ∈ rest, isAmountChar char := by
    intro char charMem
    refine isAmountChar_iff.mpr ?_
    rcases others char charMem with isDigit | isSep
    · exact Or.inl (isDecimal_of_isDigit isDigit)
    · exact Or.inr isSep
  have run : (rest ++ after).takeWhile isAmountChar = rest ++ after.takeWhile isAmountChar :=
    List.takeWhile_append_of_pos amountChars
  have left : (rest ++ after).dropWhile isAmountChar = after.dropWhile isAmountChar :=
    List.dropWhile_append_of_pos amountChars
  have number : incomeNumber.firstMatch (first :: (rest ++ after)) =
      some ⟨[rendering.render amount ++ after.takeWhile isAmountChar],
        after.dropWhile isAmountChar⟩ := by
    have enough : 2 ≤ ((rest ++ after).takeWhile isAmountChar).length := by
      rw [run, List.length_append]
      omega
    rw [firstMatch_incomeNumber decimal enough, run, left, written, List.cons_append]
  have blank : isDecimal ' ' = false := by
    rw [isDecimal, UnicodeData.decimalDigit_ascii ' ' (by decide)]
    rfl
  have amountMatch : (sequence gap incomeNumber).firstMatch (' ' :: first :: (rest ++ after)) =
      some ⟨[rendering.render amount ++ after.takeWhile isAmountChar],
        after.dropWhile isAmountChar⟩ := by
    rw [firstMatch_gap_incomeNumber]
    · simpa [List.dropWhile_cons, blank, decimal] using number
    · simp [blank, decimal]
  have splits (word : List Char) : word ++ ' ' :: rendering.render amount ++ after =
      word ++ ' ' :: first :: (rest ++ after) := by
    simp [written]
  have split : phrase rendering amount ++ after =
      "minimum".toList ++ ' ' :: first :: (rest ++ after) := splits _
  have keywordMatch : (keyword "minimum").firstMatch (phrase rendering amount ++ after) =
      some ⟨[], ' ' :: first :: (rest ++ after)⟩ := by
    rw [split]
    exact firstMatch_keyword (by decide) _
  rcases incomePattern_shape with ⟨others, shape⟩
  rw [shape, firstMatch_sequence (firstMatch_group split (firstMatch_either keywordMatch))
    amountMatch, List.singleton_append]

/-- The ASCII digit of a decimal digit. -/
def asciiDigit (char : Char) : Char :=
  match UnicodeData.decimalDigit char with
  | some digit => (digit : ℕ).digitChar
  | none => char

theorem isDigit_asciiDigit {char : Char} (decimal : isDecimal char) : (asciiDigit char).isDigit := by
  rcases Option.isSome_iff_exists.mp decimal with ⟨digit, value⟩
  simp [asciiDigit, value, Nat.isDigit_digitChar]

theorem asciiDigit_of_isDigit {char : Char} (digit : char.isDigit) : asciiDigit char = char := by
  rcases isDigit_bounds digit with ⟨low, high⟩
  have small : char.toNat < 128 := high.trans_lt (by decide)
  rw [asciiDigit, UnicodeData.decimalDigit_ascii char small, dif_pos digit]
  apply Char.toNat_inj.mp
  rw [Nat.toNat_digitChar_of_lt_ten (by dsimp only; omega)]
  dsimp only
  omega

/-- Nothing of a text of decimal digits is dropped. -/
theorem numericText_decimals (noBlanks : ∀ char, isDecimal char → UnicodeData.isSpace char = false)
    {chars : List Char} (decimals : ∀ char ∈ chars, isDecimal char) :
    Text.numericText (String.ofList chars) = chars.map asciiDigit := by
  have notBlank : ∀ char ∈ chars, Text.isNumericSpace chars char = false := by
    intro char charMem
    unfold Text.isNumericSpace
    split
    · next ascii =>
        have small : char.toNat < 128 := by simpa using List.all_eq_true.mp ascii char charMem
        have decimal := decimals char charMem
        rw [isDecimal, UnicodeData.decimalDigit_ascii char small] at decimal
        have digit : char.isDigit := by
          by_contra other
          simp [other] at decimal
        have low := (isDigit_bounds digit).1
        rw [decide_eq_false_iff_not]
        rintro (rfl | ⟨-, below⟩)
        · exact absurd low (by decide)
        · have high : char.toNat ≤ 13 := below
          omega
    · exact noBlanks char (decimals char charMem)
  have front : chars.dropWhile (Text.isNumericSpace chars) = chars := by
    rw [List.dropWhile_eq_self_iff]
    intro nonempty
    simp [notBlank _ (List.getElem_mem nonempty)]
  have back : chars.rdropWhile (Text.isNumericSpace chars) = chars := by
    rw [List.rdropWhile_eq_self_iff]
    intro nonempty
    simp [notBlank _ (List.getLast_mem nonempty)]
  rw [Text.numericText]
  simp only [String.toList_ofList, front, back]
  rfl

/-- A text of decimal digits reads as their number, up to the limit of the interpreter. -/
theorem intOfText_decimals (noBlanks : ∀ char, isDecimal char → UnicodeData.isSpace char = false)
    {chars : List Char} (decimals : ∀ char ∈ chars, isDecimal char) (nonempty : chars ≠ []) :
    intOfText (String.ofList chars) =
      if chars.length ≤ 4300 then .ok (digitsValue (chars.map asciiDigit) : ℤ)
      else .error .valueError := by
  have all : AllDigits (chars.map asciiDigit) := by
    intro digit digitMem
    rcases List.mem_map.mp digitMem with ⟨char, charMem, rfl⟩
    exact isDigit_asciiDigit (decimals char charMem)
  have unsigned : readSign (chars.map asciiDigit) = (false, chars.map asciiDigit) := by
    cases written : chars.map asciiDigit with
    | nil => rfl
    | cons first rest => exact readSign_of_digit (all first (by simp [written]))
  have digits : (chars.map asciiDigit).all Char.isDigit := List.all_eq_true.mpr all
  rw [intOfText, numericText_decimals noBlanks decimals, unsigned]
  simp only [dropUnderscores_of_allDigits all, Bool.false_eq_true, if_false, digits, List.length_map]
  simp [nonempty]

/-- What is captured after the amount without its decimals. -/
def continued (rendering : Rendering) (after : List Char) : List Char :=
  (rendering.fraction ++ after.takeWhile isAmountChar).filter fun char => !isSeparator char

/-- No match of the pattern begins before the phrase. -/
def NoneBefore (before rest : List Char) : Prop :=
  ∀ earlier later, before = earlier ++ later → later ≠ [] →
    incomePattern.firstMatch (later ++ rest) = none

theorem search_incomePattern (rendering : Rendering) {amount : ℕ} (large : 100 ≤ amount)
    {before after : List Char} (none : NoneBefore before (phrase rendering amount ++ after)) :
    incomePattern.search (before ++ phrase rendering amount ++ after) =
      some ["minimum".toList, rendering.render amount ++ after.takeWhile isAmountChar] := by
  have found := scan_eq_some_iff.mpr ⟨phrase rendering amount ++ after, List.append_assoc _ _ _,
    firstMatch_phrase rendering large after, none⟩
  rw [search_eq_find, find, found]
  rfl

theorem isDecimal_of_mem_continued {rendering : Rendering} {after : List Char} {char : Char}
    (charMem : char ∈ continued rendering after) : isDecimal char := by
  rcases List.mem_filter.mp charMem with ⟨captured, notSep⟩
  have notSeparator : ¬ isSeparator char = true := by simpa using notSep
  rcases List.mem_append.mp captured with ofFraction | ofAfter
  · rcases isDigit_or_isSeparator_of_mem_fraction ofFraction with digit | isSep
    · exact isDecimal_of_isDigit digit
    · exact absurd isSep notSeparator
  · rcases isAmountChar_iff.mp (List.mem_takeWhile_imp ofAfter) with decimal | isSep
    · exact decimal
    · exact absurd isSep notSeparator

/-- The amount is read with the digits that continue it. -/
theorem detectIncome_phrase (noBlanks : ∀ char, isDecimal char → UnicodeData.isSpace char = false)
    (rendering : Rendering) {amount : ℕ} (large : 100 ≤ amount) {before after : List Char}
    (none : NoneBefore before (phrase rendering amount ++ after)) :
    detectIncome (String.ofList (before ++ phrase rendering amount ++ after)) =
      if (Nat.toDigits 10 amount ++ continued rendering after).length ≤ 4300 then
        .ok (some (max (digitsValue (Nat.toDigits 10 amount ++
          (continued rendering after).map asciiDigit) : ℤ) 1))
      else .error .valueError := by
  have raw : (rendering.render amount ++ after.takeWhile isAmountChar).filter
      (fun char => decide (char ≠ ',' ∧ char ≠ '.')) =
        Nat.toDigits 10 amount ++ continued rendering after := by
    have kept : (fun char : Char => decide (char ≠ ',' ∧ char ≠ '.')) =
        fun char => !isSeparator char := by
      funext char
      simp [isSeparator]
    rw [kept, List.filter_append, filter_render, continued, List.filter_append, List.append_assoc]
  have decimals : ∀ char ∈ Nat.toDigits 10 amount ++ continued rendering after,
      isDecimal char := by
    intro char charMem
    rcases List.mem_append.mp charMem with ofAmount | ofRest
    · exact isDecimal_of_isDigit (allDigits_toDigits amount char ofAmount)
    · exact isDecimal_of_mem_continued ofRest
  have digits : (Nat.toDigits 10 amount).map asciiDigit = Nat.toDigits 10 amount := by
    conv_rhs => rw [← List.map_id (Nat.toDigits 10 amount)]
    exact List.map_congr_left fun char charMem =>
      asciiDigit_of_isDigit (allDigits_toDigits amount char charMem)
  have nonempty : Nat.toDigits 10 amount ++ continued rendering after ≠ [] := by
    simp [Nat.toDigits_ne_nil]
  rw [detectIncome, String.toList_ofList, search_incomePattern rendering large none]
  dsimp only
  rw [raw, intOfText_decimals noBlanks decimals nonempty, List.map_append, digits]
  split_ifs <;> rfl

omit [UnicodeData] in
/-- Digits after a number make it larger. -/
theorem digitsValue_append_eq_iff {amount : ℕ} (positive : 0 < amount) (rest : List Char) :
    digitsValue (Nat.toDigits 10 amount ++ rest) = amount ↔ rest = [] := by
  rw [digitsValue_append, digitsValue_toDigits]
  constructor
  · intro same
    by_contra nonempty
    have length : 0 < rest.length := List.length_pos_iff.mpr nonempty
    have ten : 10 ≤ 10 ^ rest.length := Nat.le_self_pow length.ne' 10
    have scaled := Nat.mul_le_mul_right amount ten
    omega
  · rintro rfl
    simp [digitsValue]

/-- No decimals are written, no digit follows after separators, and the interpreter reads as many
digits. -/
structure ReadsExactly (rendering : Rendering) (amount : ℕ) (after : List Char) : Prop where
  noDecimals : rendering.decimals = none
  noDigits : ∀ char ∈ after.takeWhile isAmountChar, isDecimal char = false
  short : (Nat.toDigits 10 amount).length ≤ 4300

theorem isDecimal_of_isSeparator {char : Char} (isSep : isSeparator char) :
    isDecimal char = false := by
  have cases_ : char = ',' ∨ char = '.' := by simpa [isSeparator] using isSep
  rcases cases_ with rfl | rfl
  · rw [isDecimal, UnicodeData.decimalDigit_ascii ',' (by decide)]
    rfl
  · rw [isDecimal, UnicodeData.decimalDigit_ascii '.' (by decide)]
    rfl

theorem continued_eq_nil_iff {rendering : Rendering} {after : List Char} :
    continued rendering after = [] ↔
      rendering.decimals = none ∧ ∀ char ∈ after.takeWhile isAmountChar, isDecimal char = false := by
  have fraction : (∀ char ∈ rendering.fraction, isSeparator char) ↔ rendering.decimals = none := by
    unfold Rendering.fraction
    split
    · next written => simp [written]
    · next separator written =>
        rw [written]
        refine iff_of_false (fun all => ?_) (by simp)
        exact absurd (all '0' (by simp)) (by decide)
  have rest : (∀ char ∈ after.takeWhile isAmountChar, isSeparator char) ↔
      ∀ char ∈ after.takeWhile isAmountChar, isDecimal char = false := by
    refine forall₂_congr fun char charMem => ⟨isDecimal_of_isSeparator, fun notDecimal => ?_⟩
    rcases isAmountChar_iff.mp (List.mem_takeWhile_imp charMem) with decimal | isSep
    · exact absurd decimal (by simp [notDecimal])
    · exact isSep
  rw [continued, List.filter_eq_nil_iff, ← fraction, ← rest]
  simp only [Bool.not_eq_true', Bool.not_eq_false]
  exact List.forall_mem_append

/-- The text yields an income rule with this threshold. -/
def YieldsIncome (source : SourceRegistry) (text : String) (amount : ℕ) : Prop :=
  ∃ groups signals, buildRuleGroups source text = .ok (groups, signals) ∧
    incomeGroup amount ∈ groups

/-- Reading an age does not fail. -/
theorem detectAge_returns (noBlanks : ∀ char, isDecimal char → UnicodeData.isSpace char = false)
    (lowered : String) : ∃ age, detectAge lowered = .ok age := by
  rw [detectAge_eq]
  cases first : firstAge lowered.toList with
  | none => exact ⟨none, rfl⟩
  | some place =>
      rcases firstAge_eq_some first with ⟨word, -, tail, -, reads⟩
      rcases readAge_eq_some reads with ⟨-, -, -, digit, other, number, digitDecimal, otherDecimal⟩
      refine ⟨some (digitsValue (place.2.number.map asciiDigit) : ℤ), ?_⟩
      have decimals : ∀ char ∈ place.2.number, isDecimal char := by
        simp [number, digitDecimal, otherDecimal]
      dsimp only
      rw [intOfText_decimals noBlanks decimals (by simp [number]), if_pos (by simp [number])]
      rfl

omit [UnicodeData] in
theorem incomeGroup_injective : Function.Injective incomeGroup := by
  intro first second same
  have conditions := congrArg (fun group => group.conditions.map (·.valueJson.value)) same
  simpa [incomeGroup, intJson] using conditions

theorem yieldsIncome_iff_detectIncome
    (noBlanks : ∀ char, isDecimal char → UnicodeData.isSpace char = false)
    {source : SourceRegistry} {text : String} {amount : ℕ} :
    YieldsIncome source text amount ↔ detectIncome text = .ok (some (amount : ℤ)) := by
  constructor
  · rintro ⟨groups, signals, built, groupMem⟩
    rcases mem_groups_iff built with ⟨age, income, -, detected, origin⟩
    rw [detected]
    rcases (origin _).mp groupMem with ⟨_, _, same⟩ | ⟨other, otherMem, same⟩ | ⟨_, _, same⟩ | same
    · exact absurd (congrArg NormalizedRuleGroup.code same) (by simp [ageGroup, incomeGroup])
    · rw [← incomeGroup_injective same]
      exact congrArg Except.ok otherMem
    · exact absurd (congrArg NormalizedRuleGroup.code same) (by simp [languageGroup, incomeGroup])
    · exact absurd (congrArg NormalizedRuleGroup.code same) (by simp [baselineGroup, incomeGroup])
  · intro detected
    rcases detectAge_returns noBlanks (UnicodeData.lower text) with ⟨age, ageDetected⟩
    have builds : ∃ groups signals, buildRuleGroups source text = .ok (groups, signals) := by
      simp only [buildRuleGroups, ageDetected, detected]
      exact ⟨_, _, rfl⟩
    rcases builds with ⟨groups, signals, built⟩
    rcases mem_groups_iff built with ⟨_, income, -, incomeDetected, origin⟩
    cases detected.symm.trans incomeDetected
    exact ⟨groups, signals, built, (origin _).mpr (Or.inr (Or.inl ⟨amount, rfl, rfl⟩))⟩

/-- A stated minimum is the threshold exactly if it is written without decimals, no digit follows
it after stops and commas, and it has at most as many digits as the interpreter reads. -/
theorem yieldsIncome_iff (noBlanks : ∀ char, isDecimal char → UnicodeData.isSpace char = false)
    (source : SourceRegistry) (rendering : Rendering) {amount : ℕ} (large : 100 ≤ amount)
    {before after : List Char} (none : NoneBefore before (phrase rendering amount ++ after)) :
    YieldsIncome source (String.ofList (before ++ phrase rendering amount ++ after)) amount ↔
      ReadsExactly rendering amount after := by
  have positive : 0 < amount := by omega
  rw [yieldsIncome_iff_detectIncome noBlanks, detectIncome_phrase noBlanks rendering large none]
  constructor
  · intro read
    split_ifs at read with short
    have value := Option.some.inj (Except.ok.inj read)
    have same : digitsValue (Nat.toDigits 10 amount ++
        (continued rendering after).map asciiDigit) = amount := by
      omega
    have nothing := List.map_eq_nil_iff.mp ((digitsValue_append_eq_iff positive _).mp same)
    rcases continued_eq_nil_iff.mp nothing with ⟨noDecimals, noDigits⟩
    rw [nothing, List.append_nil] at short
    exact ⟨noDecimals, noDigits, short⟩
  · rintro ⟨noDecimals, noDigits, short⟩
    have nothing := continued_eq_nil_iff.mpr ⟨noDecimals, noDigits⟩
    rw [nothing, List.append_nil, if_pos short, List.map_nil, List.append_nil,
      digitsValue_toDigits]
    have large : max (amount : ℤ) 1 = amount := max_eq_left (by omega)
    rw [large]

end Capturing

section Samples

local instance incomeUnicodeData : UnicodeData := UnicodeData.ascii

theorem isSpace_of_isDigit {char : Char} (digit : char.isDigit) :
    UnicodeData.isSpace char = false := by
  rcases isDigit_bounds digit with ⟨low, high⟩
  have blanks : ¬ (char = ' ' ∨ ('\t' ≤ char ∧ char ≤ '\r') ∨ ('\x1c' ≤ char ∧ char ≤ '\x1f')) := by
    rintro (rfl | ⟨-, below⟩ | ⟨-, below⟩)
    · exact absurd low (by decide)
    · have bound : char.toNat ≤ 13 := below
      omega
    · have bound : char.toNat ≤ 31 := below
      omega
  exact decide_eq_false blanks

theorem ascii_noBlanks (char : Char) (decimal : isDecimal char) :
    UnicodeData.isSpace char = false := by
  rcases Option.isSome_iff_exists.mp decimal with ⟨value, read⟩
  change dite _ _ _ = _ at read
  split at read
  · next digit => exact isSpace_of_isDigit digit
  · cases read

/-- Thousands by commas. -/
def commas : Rendering := ⟨some .comma, none, by simp⟩

/-- Thousands by commas and two zero decimals after a full stop. -/
def commasAndDecimals : Rendering := ⟨some .comma, some .dot, by simp⟩

theorem noneBefore_nil (rest : List Char) : NoneBefore [] rest := by
  intro earlier later split nonempty
  exact absurd (List.append_eq_nil_iff.mp split.symm).2 nonempty

/-- A full stop at the end of the sentence does no harm. -/
theorem yieldsIncome_commas : YieldsIncome placesSource "minimum 1,000." 1000 := by
  have text : "minimum 1,000." = String.ofList ([] ++ phrase commas 1000 ++ ['.']) := by
    decide +kernel
  rw [text]
  refine (yieldsIncome_iff ascii_noBlanks placesSource commas (by norm_num)
    (noneBefore_nil _)).mpr ⟨rfl, ?_, by decide⟩
  intro char charMem
  have only : char ∈ ['.'] := charMem
  rw [List.mem_singleton.mp only]
  rfl

/-- Two zero decimals make the threshold a hundred times as large. -/
theorem decimals_misread :
    "minimum 1,000.00" = String.ofList (phrase commasAndDecimals 1000) ∧
      NoneBefore [] (phrase commasAndDecimals 1000) ∧
      ¬ YieldsIncome placesSource "minimum 1,000.00" 1000 ∧
      YieldsIncome placesSource "minimum 1,000.00" 100000 := by
  have read : detectIncome "minimum 1,000.00" = .ok (some 100000) := by rfl
  refine ⟨by decide +kernel, noneBefore_nil _, ?_, ?_⟩
  · rw [yieldsIncome_iff_detectIncome ascii_noBlanks, read]
    decide
  · exact (yieldsIncome_iff_detectIncome ascii_noBlanks).mpr read

end Samples

end ImigrAI.Ingestion
