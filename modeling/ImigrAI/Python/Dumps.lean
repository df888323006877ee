import ImigrAI.Python.Value
import Mathlib.Data.List.Sort
import Mathlib.Data.String.Basic

/-!
# `json.dumps`

The rendering with sorted keys, ASCII escapes and compact separators, which the canonical
payload of a rule set goes through. The text of a value determines the value: every part is
read from the left without looking back, so equal texts have equal parts.
-/

namespace ImigrAI.Python

open Binary64 Numerals Digits

/-- A character in a JSON string with `ensure_ascii`. -/
def jsonChar (char : Char) : List Char :=
  if char = '"' then ['\\', '"']
  else if char = '\\' then ['\\', '\\']
  else if char = '\n' then ['\\', 'n']
  else if char = '\r' then ['\\', 'r']
  else if char = '\t' then ['\\', 't']
  else if char = '\x0c' then ['\\', 'f']
  else if char = '\x08' then ['\\', 'b']
  else if ' ' ≤ char ∧ char ≤ '~' then [char]
  else if char.toNat < 65536 then '\\' :: 'u' :: fixedDigits 16 4 char.toNat
  else
    let rest := char.toNat - 65536
    '\\' :: 'u' :: fixedDigits 16 4 (55296 + rest / 1024) ++
      '\\' :: 'u' :: fixedDigits 16 4 (56320 + rest % 1024)

def jsonText (text : List Char) : List Char := '"' :: text.flatMap jsonChar ++ ['"']

def jsonFloat : PyFloat → List Char
  | .infinity negative => (if negative then ['-'] else []) ++ "Infinity".toList
  | .nan => "NaN".toList
  | value => value.repr

namespace Value

mutual

/-- The text of a value with its dictionaries in the order they have. -/
def render : Value → List Char
  | .none => ['n', 'u', 'l', 'l']
  | .bool value => if value then ['t', 'r', 'u', 'e'] else ['f', 'a', 'l', 's', 'e']
  | .int value => intText value
  | .float value => jsonFloat value
  | .str text => jsonText text.toList
  | .list [] => ['[', ']']
  | .list (item :: rest) => '[' :: item.render ++ renderItems rest
  | .dict [] => ['{', '}']
  | .dict ((key, value) :: rest) =>
      '{' :: jsonText key.toList ++ ':' :: value.render ++ renderEntries rest

/-- The items after the first one and the closing bracket. -/
def renderItems : List Value → List Char
  | [] => [']']
  | item :: rest => ',' :: item.render ++ renderItems rest

/-- The entries after the first one and the closing brace. -/
def renderEntries : List (String × Value) → List Char
  | [] => ['}']
  | (key, value) :: rest => ',' :: jsonText key.toList ++ ':' :: value.render ++ renderEntries rest

end

mutual

/-- The value with every dictionary sorted by its keys. -/
def sortKeys : Value → Value
  | .list items => .list (sortItems items)
  | .dict entries =>
      .dict ((sortEntries entries).insertionSort fun left right => left.1 ≤ right.1)
  | value => value

def sortItems : List Value → List Value
  | [] => []
  | item :: rest => item.sortKeys :: sortItems rest

def sortEntries : List (String × Value) → List (String × Value)
  | [] => []
  | (key, value) :: rest => (key, value.sortKeys) :: sortEntries rest

end

/-- `json.dumps(value, sort_keys=True, ensure_ascii=True, separators=(",", ":"))`. -/
def dumps (value : Value) : String := String.ofList value.sortKeys.render

section Separators

variable (itemSeparator keySeparator : List Char)

mutual

/-- The text of a value with given separators. -/
def renderWith : Value → List Char
  | .none => ['n', 'u', 'l', 'l']
  | .bool value => if value then ['t', 'r', 'u', 'e'] else ['f', 'a', 'l', 's', 'e']
  | .int value => intText value
  | .float value => jsonFloat value
  | .str text => jsonText text.toList
  | .list [] => ['[', ']']
  | .list (item :: rest) => '[' :: renderWith item ++ renderItemsWith rest
  | .dict [] => ['{', '}']
  | .dict ((key, value) :: rest) =>
      '{' :: jsonText key.toList ++ keySeparator ++ renderWith value ++ renderEntriesWith rest

def renderItemsWith : List Value → List Char
  | [] => [']']
  | item :: rest => itemSeparator ++ renderWith item ++ renderItemsWith rest

def renderEntriesWith : List (String × Value) → List Char
  | [] => ['}']
  | (key, value) :: rest =>
      itemSeparator ++ jsonText key.toList ++ keySeparator ++ renderWith value ++
        renderEntriesWith rest

end

end Separators

/-- `json.dumps(value, sort_keys=True, ensure_ascii=True)`. -/
def dumpsSpaced (value : Value) : String :=
  String.ofList (value.sortKeys.renderWith [',', ' '] [':', ' '])

mutual

/-- The compact separators give the canonical text. -/
theorem renderWith_compact (value : Value) : renderWith [','] [':'] value = value.render := by
  cases value with
  | list items =>
      cases items with
      | nil => rfl
      | cons item rest =>
          rw [renderWith, render, renderWith_compact item, renderItemsWith_compact rest]
  | dict entries =>
      rcases entries with - | ⟨⟨key, value⟩, rest⟩
      · rfl
      · rw [renderWith, render, renderWith_compact value, renderEntriesWith_compact rest]
        simp
  | _ => rfl

theorem renderItemsWith_compact (items : List Value) :
    renderItemsWith [','] [':'] items = renderItems items := by
  cases items with
  | nil => rfl
  | cons item rest =>
      rw [renderItemsWith, renderItems, renderWith_compact item, renderItemsWith_compact rest]
      rfl

theorem renderEntriesWith_compact (entries : List (String × Value)) :
    renderEntriesWith [','] [':'] entries = renderEntries entries := by
  rcases entries with - | ⟨⟨key, value⟩, rest⟩
  · rfl
  · rw [renderEntriesWith, renderEntries, renderWith_compact value, renderEntriesWith_compact rest]
    simp

end

end Value

/-- The character that a JSON string begins with, and what follows it. -/
def readChar : List Char → Option (Char × List Char)
  | '\\' :: 'n' :: rest => some ('\n', rest)
  | '\\' :: 'r' :: rest => some ('\r', rest)
  | '\\' :: 't' :: rest => some ('\t', rest)
  | '\\' :: 'f' :: rest => some ('\x0c', rest)
  | '\\' :: 'b' :: rest => some ('\x08', rest)
  | '\\' :: 'u' :: a :: b :: c :: d :: rest =>
      let unit := readDigits 16 [a, b, c, d]
      if 55296 ≤ unit ∧ unit < 56320 then
        match rest with
        | '\\' :: 'u' :: a :: b :: c :: d :: rest =>
            let low := readDigits 16 [a, b, c, d]
            some (Char.ofNat (65536 + (unit - 55296) * 1024 + (low - 56320)), rest)
        | _ => none
      else some (Char.ofNat unit, rest)
  | '\\' :: char :: rest => some (char, rest)
  | '\\' :: [] => none
  | char :: rest => some (char, rest)
  | [] => none

theorem fixedDigits_four (value : ℕ) :
    ∃ a b c d, fixedDigits 16 4 value = [a, b, c, d] := by
  have length := length_fixedDigits 16 4 value
  match digits : fixedDigits 16 4 value with
  | [a, b, c, d] => exact ⟨a, b, c, d, rfl⟩
  | [] | [_] | [_, _] | [_, _, _] | _ :: _ :: _ :: _ :: _ :: _ => simp [digits] at length

/-- A `\u` escape reads as its code unit. -/
theorem readDigits_four {value : ℕ} {a b c d : Char} (small : value < 65536)
    (digits : fixedDigits 16 4 value = [a, b, c, d]) : readDigits 16 [a, b, c, d] = value := by
  rw [← digits, readDigits_fixedDigits (by norm_num) (by norm_num)]
  exact Nat.mod_eq_of_lt (by omega)

theorem toNat_not_surrogate (char : Char) : char.toNat < 55296 ∨ 57344 ≤ char.toNat := by
  rcases char.valid with low | ⟨high, -⟩
  · exact Or.inl low
  · exact Or.inr high

theorem toNat_lt (char : Char) : char.toNat < 1114112 := by
  rcases char.valid with low | ⟨-, high⟩
  · exact low.trans (by norm_num)
  · exact high

theorem readChar_plain {char : Char} (notEscape : char ≠ '\\') (rest : List Char) :
    readChar (char :: rest) = some (char, rest) := by
  unfold readChar
  split
  all_goals
    rename_i same
    first
      | exact absurd (List.cons.inj same).1 notEscape
      | cases same
  rfl

/-- An escaped code unit that does not begin a pair. -/
theorem readChar_unit {a b c d : Char} {unit : ℕ} (rest : List Char)
    (read : readDigits 16 [a, b, c, d] = unit) (plain : ¬ (55296 ≤ unit ∧ unit < 56320)) :
    readChar ('\\' :: 'u' :: a :: b :: c :: d :: rest) = some (Char.ofNat unit, rest) := by
  subst read
  change (if _ then _ else some (Char.ofNat (readDigits 16 [a, b, c, d]), rest)) = _
  exact if_neg plain

/-- An escaped pair of code units. -/
theorem readChar_pair {a b c d e f g h : Char} {high low : ℕ} (rest : List Char)
    (readHigh : readDigits 16 [a, b, c, d] = high) (readLow : readDigits 16 [e, f, g, h] = low)
    (surrogate : 55296 ≤ high ∧ high < 56320) :
    readChar ('\\' :: 'u' :: a :: b :: c :: d :: '\\' :: 'u' :: e :: f :: g :: h :: rest) =
      some (Char.ofNat (65536 + (high - 55296) * 1024 + (low - 56320)), rest) := by
  subst readHigh readLow
  change (if _ then some (Char.ofNat (65536 + (readDigits 16 [a, b, c, d] - 55296) * 1024 +
    (readDigits 16 [e, f, g, h] - 56320)), rest) else _) = _
  exact if_pos surrogate

/-- The forms that a character takes: a short escape, itself, or one or two code units. -/
theorem jsonChar_cases (char : Char) :
    (∃ escape, jsonChar char = ['\\', escape] ∧
      ∀ rest, readChar ('\\' :: escape :: rest) = some (char, rest)) ∨
    (char ≠ '"' ∧ char ≠ '\\' ∧ jsonChar char = [char]) ∨
    (char.toNat < 65536 ∧ jsonChar char = '\\' :: 'u' :: fixedDigits 16 4 char.toNat) ∨
    (65536 ≤ char.toNat ∧ jsonChar char =
      '\\' :: 'u' :: fixedDigits 16 4 (55296 + (char.toNat - 65536) / 1024) ++
        '\\' :: 'u' :: fixedDigits 16 4 (56320 + (char.toNat - 65536) % 1024)) := by
  by_cases quote : char = '"'
  · subst quote
    exact Or.inl ⟨'"', rfl, fun _ => rfl⟩
  by_cases backslash : char = '\\'
  · subst backslash
    exact Or.inl ⟨'\\', rfl, fun _ => rfl⟩
  by_cases newline : char = '\n'
  · subst newline
    exact Or.inl ⟨'n', rfl, fun _ => rfl⟩
  by_cases carriage : char = '\r'
  · subst carriage
    exact Or.inl ⟨'r', rfl, fun _ => rfl⟩
  by_cases tab : char = '\t'
  · subst tab
    exact Or.inl ⟨'t', rfl, fun _ => rfl⟩
  by_cases feed : char = '\x0c'
  · subst feed
    exact Or.inl ⟨'f', rfl, fun _ => rfl⟩
  by_cases back : char = '\x08'
  · subst back
    exact Or.inl ⟨'b', rfl, fun _ => rfl⟩
  right
  rw [jsonChar, if_neg quote, if_neg backslash, if_neg newline, if_neg carriage, if_neg tab,
    if_neg feed, if_neg back]
  by_cases printable : ' ' ≤ char ∧ char ≤ '~'
  · rw [if_pos printable]
    exact Or.inl ⟨quote, backslash, rfl⟩
  right
  rw [if_neg printable]
  by_cases short : char.toNat < 65536
  · rw [if_pos short]
    exact Or.inl ⟨short, rfl⟩
  · rw [if_neg short]
    exact Or.inr ⟨by omega, rfl⟩

theorem readChar_jsonChar (char : Char) (rest : List Char) :
    readChar (jsonChar char ++ rest) = some (char, rest) := by
  rcases jsonChar_cases char with ⟨escape, written, reads⟩ | ⟨-, backslash, written⟩ |
    ⟨short, written⟩ | ⟨long, written⟩
  · rw [written]
    exact reads rest
  · rw [written]
    exact readChar_plain backslash rest
  · rcases fixedDigits_four char.toNat with ⟨a, b, c, d, digits⟩
    have plain : ¬ (55296 ≤ char.toNat ∧ char.toNat < 56320) := by
      have := toNat_not_surrogate char
      omega
    rw [written, digits]
    exact (readChar_unit rest (readDigits_four short digits) plain).trans
      (by rw [Char.ofNat_toNat])
  · have bound := toNat_lt char
    rcases fixedDigits_four (55296 + (char.toNat - 65536) / 1024) with ⟨a, b, c, d, digits⟩
    rcases fixedDigits_four (56320 + (char.toNat - 65536) % 1024) with ⟨e, f, g, h, lowDigits⟩
    have high := readDigits_four (by omega) digits
    have low := readDigits_four (by omega) lowDigits
    have surrogate : 55296 ≤ 55296 + (char.toNat - 65536) / 1024 ∧
        55296 + (char.toNat - 65536) / 1024 < 56320 := by omega
    have whole : 65536 + (55296 + (char.toNat - 65536) / 1024 - 55296) * 1024 +
        (56320 + (char.toNat - 65536) % 1024 - 56320) = char.toNat := by omega
    rw [written, digits, lowDigits]
    exact (readChar_pair rest high low surrogate).trans (by rw [whole, Char.ofNat_toNat])

theorem jsonChar_head_ne_quote (char : Char) :
    ∃ first rest, jsonChar char = first :: rest ∧ first ≠ '"' := by
  rcases jsonChar_cases char with ⟨escape, written, -⟩ | ⟨quote, -, written⟩ |
    ⟨-, written⟩ | ⟨-, written⟩
  · exact ⟨_, _, written, by decide⟩
  · exact ⟨_, _, written, quote⟩
  · exact ⟨_, _, written, by decide⟩
  · exact ⟨_, _, written, by decide⟩

/-- Equal texts that begin with JSON strings begin with the same string. -/
theorem jsonText_append_inj {left right rest other : List Char}
    (same : jsonText left ++ rest = jsonText right ++ other) : left = right ∧ rest = other := by
  simp only [jsonText, List.cons_append, List.append_assoc, List.cons.injEq, true_and,
    List.nil_append] at same
  induction left generalizing right with
  | nil =>
      cases right with
      | nil => exact ⟨rfl, (List.cons.inj same).2⟩
      | cons char right =>
          rcases jsonChar_head_ne_quote char with ⟨first, tail, head, noQuote⟩
          rw [List.flatMap_cons, head] at same
          exact absurd (List.cons.inj same).1.symm noQuote
  | cons char left ih =>
      cases right with
      | nil =>
          rcases jsonChar_head_ne_quote char with ⟨first, tail, head, noQuote⟩
          rw [List.flatMap_cons, head] at same
          exact absurd (List.cons.inj same).1 noQuote
      | cons next right =>
          simp only [List.flatMap_cons, List.append_assoc] at same
          have read := congrArg readChar same
          rw [readChar_jsonChar, readChar_jsonChar] at read
          rcases Prod.mk.inj (Option.some.inj read) with ⟨rfl, tails⟩
          rcases ih tails with ⟨rfl, rfl⟩
          exact ⟨rfl, rfl⟩

/-- The number that a JSON number writes. -/
def readNumber (text : List Char) : Value :=
  if '.' ∈ text ∨ 'e' ∈ text then
    match readNumeral text with
    | some numeral => .float (.ofSigned numeral.negative numeral.magnitude)
    | none => .none
  else
    let (negative, digits) := readSign text
    .int (if negative then -(digitsValue digits : ℤ) else digitsValue digits)

/-- The scalar that a text without quotes and brackets writes. -/
def readScalar : List Char → Value
  | 'n' :: _ => .none
  | 't' :: _ => .bool true
  | 'f' :: _ => .bool false
  | 'N' :: _ => .float .nan
  | 'I' :: _ => .float (.infinity false)
  | '-' :: 'I' :: _ => .float (.infinity true)
  | text => readNumber text

/-- A text that begins like a number: an optional minus sign and a digit. -/
def Signed (text : List Char) : Prop :=
  ∃ (negative : Bool) (first : Char) (rest : List Char),
    text = (if negative then ['-'] else []) ++ first :: rest ∧ first.isDigit = true

theorem readScalar_of_signed {text : List Char} (signed : Signed text) :
    readScalar text = readNumber text := by
  rcases signed with ⟨negative, first, rest, rfl, digit⟩
  unfold readScalar
  cases negative <;> split <;> simp_all

theorem signed_layout (negative : Bool) {whole fraction suffix : List Char}
    (nonempty : whole ≠ []) (all : AllDigits whole) :
    Signed (layout negative whole fraction suffix) := by
  rcases List.exists_cons_of_ne_nil nonempty with ⟨first, rest, rfl⟩
  refine ⟨negative, first, rest ++ ((if fraction = [] then [] else '.' :: fraction) ++ suffix), ?_,
    all first (by simp)⟩
  simp only [layout, List.append_assoc, List.cons_append]

theorem readSign_of_signed (negative : Bool) {first : Char} (rest : List Char)
    (digit : first.isDigit = true) :
    readSign ((if negative then ['-'] else []) ++ first :: rest) = (negative, first :: rest) := by
  cases negative with
  | true => rfl
  | false => exact readSign_of_digit digit

theorem readNumber_intText (number : ℤ) :
    Signed (intText number) ∧ readNumber (intText number) = .int number := by
  rcases List.exists_cons_of_ne_nil (Nat.toDigits_ne_nil (b := 10) (n := number.natAbs)) with
    ⟨first, rest, digits⟩
  have all := allDigits_toDigits number.natAbs
  have text : intText number =
      (if decide (number < 0) then ['-'] else []) ++ first :: rest := by
    simp only [intText, digits, decide_eq_true_eq]
    split_ifs <;> rfl
  have firstDigit : first.isDigit = true := all first (by simp [digits])
  refine ⟨⟨_, _, _, text, firstDigit⟩, ?_⟩
  have noMark (mark : Char) (notDigit : mark.isDigit = false) (notSign : mark ≠ '-') :
      mark ∉ intText number := by
    rw [text, ← digits]
    intro markMem
    rcases List.mem_append.mp markMem with signMem | digitMem
    · split_ifs at signMem <;> simp_all
    · simp [all mark digitMem] at notDigit
  unfold readNumber
  rw [if_neg (not_or.mpr ⟨noMark '.' rfl (by decide), noMark 'e' rfl (by decide)⟩), text,
    readSign_of_signed _ rest firstDigit, ← digits]
  simp only [digitsValue_toDigits, decide_eq_true_eq]
  congr 1
  split_ifs <;> omega

theorem signed_reprDigits (negative : Bool) {digits : List Char} (nonempty : digits ≠ [])
    (all : AllDigits digits) (point : ℤ) :
    Signed (reprDigits negative digits point) ∧
      ('.' ∈ reprDigits negative digits point ∨ 'e' ∈ reprDigits negative digits point) := by
  unfold reprDigits
  split_ifs with scientific
  · refine ⟨signed_layout _ (placePoint_whole_ne_nil nonempty 1) (placePoint_allDigits all 1).1, ?_⟩
    right
    simp [layout, exponentText]
  · refine ⟨signed_layout _ (placePoint_whole_ne_nil nonempty point)
      (placePoint_allDigits all point).1, ?_⟩
    left
    by_cases integral : (placePoint digits point).2 = [] <;> simp [layout, integral]

theorem PyFloat.ofSigned_of_nearest {double : Double} {magnitude : ℚ} (nonzero : double.value ≠ 0)
    (rounds : nearest magnitude = |double.value|) :
    PyFloat.ofSigned (decide (double.value < 0)) magnitude = .finite double := by
  have notZero : nearest magnitude ≠ 0 := by simpa [rounds] using nonzero
  have value : nearest (if decide (double.value < 0) then -magnitude else magnitude) =
      double.value := by
    by_cases negative : double.value < 0
    · simp [negative, nearest_neg, rounds, abs_of_neg negative]
    · simp [negative, rounds, abs_of_nonneg (not_lt.mp negative)]
  have bounded : |double.value| < overflowBound := abs_lt_overflowBound double.representable
  simp only [PyFloat.ofSigned, notZero, and_false, if_false, PyFloat.ofRat, value, bounded,
    dite_true]

theorem magnitude_zero_point_zero (negative : Bool) :
    Numeral.magnitude ⟨negative, ['0'], ['0'], 0⟩ = 0 := by
  have zero : digitsValue ['0', '0'] = 0 := rfl
  simp [Numeral.magnitude, zero]

/-- The text of a float reads as the float. -/
theorem readScalar_jsonFloat (number : PyFloat) : readScalar (jsonFloat number) = .float number := by
  cases number with
  | finite double =>
      by_cases zero : double.value = 0
      · have text : jsonFloat (.finite double) = ['0', '.', '0'] := by
          simp [jsonFloat, PyFloat.repr, zero]
        rw [text]
        rcases double with ⟨value, representable⟩
        obtain rfl : value = 0 := zero
        change Value.float (.ofSigned false (Numeral.magnitude ⟨false, ['0'], ['0'], 0⟩)) = _
        simp [magnitude_zero_point_zero, PyFloat.ofSigned, PyFloat.ofRat, nearest,
          Rounding.roundHalfEven, overflowBound]
      · rcases readNumeral_reprFinite double.representable zero with ⟨numeral, read, sign, rounds⟩
        have text : jsonFloat (.finite double) = reprFinite double.value := by
          simp [jsonFloat, PyFloat.repr, zero]
        rcases significant_shortest double.representable zero with ⟨all, nonempty⟩
        rcases signed_reprDigits (decide (double.value < 0)) nonempty all
          (significant (shortest |double.value|).1 (shortest |double.value|).2).2 with
          ⟨signed, mark⟩
        rw [reprFinite_eq] at read text
        rw [text, readScalar_of_signed signed, readNumber, if_pos mark, read]
        dsimp only
        rw [sign, PyFloat.ofSigned_of_nearest zero rounds]
  | negativeZero =>
      change Value.float (.ofSigned true (Numeral.magnitude ⟨true, ['0'], ['0'], 0⟩)) = _
      simp [magnitude_zero_point_zero, PyFloat.ofSigned, nearest, Rounding.roundHalfEven]
  | infinity negative => cases negative <;> rfl
  | nan => rfl

/-- The characters of numbers and names, as opposed to quotes and punctuation. -/
def isTokenChar (char : Char) : Bool := char.isAlphanum || char = '-' || char = '+' || char = '.'

/-- A token that stands before this text ends there. -/
def Boundary (text : List Char) : Prop := ∀ next ∈ text.head?, isTokenChar next = false

theorem token_append_inj {left right rest other : List Char}
    (leftToken : ∀ char ∈ left, isTokenChar char = true)
    (rightToken : ∀ char ∈ right, isTokenChar char = true)
    (restBoundary : Boundary rest) (otherBoundary : Boundary other)
    (same : left ++ rest = right ++ other) : left = right ∧ rest = other := by
  have token {text after : List Char} (all : ∀ char ∈ text, isTokenChar char = true)
      (boundary : Boundary after) : (text ++ after).takeWhile isTokenChar = text := by
    rw [List.takeWhile_append_of_pos all]
    cases after with
    | nil => simp
    | cons next after => simp [boundary next rfl]
  have tokens : left = right := by
    rw [← token leftToken restBoundary, same, token rightToken otherBoundary]
  subst tokens
  exact ⟨rfl, List.append_cancel_left same⟩

theorem isTokenChar_of_isDigit {char : Char} (digit : char.isDigit = true) :
    isTokenChar char = true := by
  simp [isTokenChar, Char.isAlphanum, digit]

theorem isTokenChar_layout (negative : Bool) {whole fraction suffix : List Char}
    (wholeDigits : AllDigits whole) (fractionDigits : AllDigits fraction)
    (suffixToken : ∀ char ∈ suffix, isTokenChar char = true) :
    ∀ char ∈ layout negative whole fraction suffix, isTokenChar char = true := by
  intro char charMem
  simp only [layout, List.mem_append] at charMem
  rcases charMem with ((signMem | wholeMem) | fractionMem) | suffixMem
  · split_ifs at signMem
    · rcases List.mem_singleton.mp signMem with rfl
      rfl
    · exact absurd signMem List.not_mem_nil
  · exact isTokenChar_of_isDigit (wholeDigits char wholeMem)
  · split_ifs at fractionMem
    · exact absurd fractionMem List.not_mem_nil
    · rcases List.mem_cons.mp fractionMem with rfl | fractionMem
      · rfl
      · exact isTokenChar_of_isDigit (fractionDigits char fractionMem)
  · exact suffixToken char suffixMem

theorem isTokenChar_exponentText (exponent : ℤ) :
    ∀ char ∈ exponentText exponent, isTokenChar char = true := by
  intro char charMem
  simp only [exponentText, List.mem_cons] at charMem
  rcases charMem with rfl | rfl | digitMem
  · rfl
  · split_ifs <;> rfl
  · apply isTokenChar_of_isDigit
    split_ifs at digitMem
    · exact allDigits_cons_zero (allDigits_toDigits _) char digitMem
    · exact allDigits_toDigits _ char digitMem

theorem isTokenChar_reprDigits (negative : Bool) {digits : List Char} (all : AllDigits digits)
    (point : ℤ) : ∀ char ∈ reprDigits negative digits point, isTokenChar char = true := by
  unfold reprDigits
  split_ifs with scientific
  · exact isTokenChar_layout _ (placePoint_allDigits all 1).1 (placePoint_allDigits all 1).2
      (isTokenChar_exponentText _)
  · have fraction : AllDigits
        (if (placePoint digits point).2 = [] then ['0'] else (placePoint digits point).2) := by
      by_cases integral : (placePoint digits point).2 = []
      · rw [if_pos integral]
        exact allDigits_cons_zero (by simp [AllDigits])
      · rw [if_neg integral]
        exact (placePoint_allDigits all point).2
    exact isTokenChar_layout _ (placePoint_allDigits all point).1 fraction (by simp)

theorem isTokenChar_jsonFloat (number : PyFloat) :
    ∀ char ∈ jsonFloat number, isTokenChar char = true := by
  cases number with
  | finite double =>
      by_cases zero : double.value = 0
      · simp only [jsonFloat, PyFloat.repr, zero, if_true]
        exact List.all_eq_true.mp (by decide)
      · simp only [jsonFloat, PyFloat.repr, zero, if_false, reprFinite_eq]
        exact isTokenChar_reprDigits _ (significant_shortest double.representable zero).1 _
  | negativeZero => exact List.all_eq_true.mp (by decide)
  | infinity negative => cases negative <;> exact List.all_eq_true.mp (by decide)
  | nan => exact List.all_eq_true.mp (by decide)

theorem isTokenChar_intText (number : ℤ) :
    ∀ char ∈ intText number, isTokenChar char = true := by
  have digits := allDigits_toDigits number.natAbs
  intro char charMem
  unfold intText at charMem
  split_ifs at charMem
  · rcases List.mem_cons.mp charMem with rfl | digitMem
    · rfl
    · exact isTokenChar_of_isDigit (digits char digitMem)
  · exact isTokenChar_of_isDigit (digits char charMem)

namespace Value

/-- What the first character of the text of a value tells. -/
inductive Shape where
  | scalar
  | str
  | list
  | dict
deriving DecidableEq

def shape : Value → Shape
  | .str _ => .str
  | .list _ => .list
  | .dict _ => .dict
  | _ => .scalar

def shapeOfHead (text : List Char) : Option Shape :=
  text.head?.map fun first =>
    if first = '"' then .str else if first = '[' then .list else if first = '{' then .dict
    else .scalar

/-- The text of a scalar is a token that reads as the scalar. -/
theorem render_scalar {value : Value} (scalar : value.shape = .scalar) :
    (∀ char ∈ value.render, isTokenChar char = true) ∧ readScalar value.render = value := by
  cases value with
  | none => exact ⟨List.all_eq_true.mp (by decide), rfl⟩
  | bool value => cases value <;> exact ⟨List.all_eq_true.mp (by decide), rfl⟩
  | int number =>
      rcases readNumber_intText number with ⟨signed, read⟩
      exact ⟨isTokenChar_intText number, (readScalar_of_signed signed).trans read⟩
  | float number => exact ⟨isTokenChar_jsonFloat number, readScalar_jsonFloat number⟩
  | str text => exact absurd scalar (by simp [shape])
  | list items => exact absurd scalar (by simp [shape])
  | dict entries => exact absurd scalar (by simp [shape])

theorem render_scalar_ne_nil {value : Value} (scalar : value.shape = .scalar) :
    value.render ≠ [] := by
  cases value with
  | none => simp [render]
  | bool value => cases value <;> simp [render]
  | int number =>
      rcases readNumber_intText number with ⟨⟨negative, first, rest, text, -⟩, -⟩
      simp [render, text]
  | float number =>
      intro empty
      have read := readScalar_jsonFloat number
      rw [show jsonFloat number = [] from empty] at read
      simp [readScalar, readNumber, readSign] at read
  | str text => exact absurd scalar (by simp [shape])
  | list items => exact absurd scalar (by simp [shape])
  | dict entries => exact absurd scalar (by simp [shape])

theorem shapeOfHead_render (value : Value) (rest : List Char) :
    shapeOfHead (value.render ++ rest) = some value.shape := by
  rcases scalar : value.shape with _ | _ | _ | _
  · rcases List.exists_cons_of_ne_nil (render_scalar_ne_nil scalar) with ⟨first, tail, text⟩
    have token := (render_scalar scalar).1 first (by simp [text])
    have notPunctuation : first ≠ '"' ∧ first ≠ '[' ∧ first ≠ '{' := by
      refine ⟨?_, ?_, ?_⟩ <;> rintro rfl <;> exact absurd token (by decide)
    simp [shapeOfHead, text, notPunctuation]
  · cases value <;> simp_all [shape, shapeOfHead, render, jsonText]
  · cases value <;> simp only [shape, reduceCtorEq] at scalar
    rename_i items
    cases items <;> simp [shapeOfHead, render]
  · cases value <;> simp only [shape, reduceCtorEq] at scalar
    rename_i entries
    rcases entries with _ | ⟨⟨key, value⟩, entries⟩ <;> simp [shapeOfHead, render]

theorem render_head_ne {value : Value} {rest other : List Char} (close : Char)
    (closing : close = ']' ∨ close = '}') : value.render ++ rest ≠ close :: other := by
  intro same
  have shape := shapeOfHead_render value rest
  rw [same] at shape
  rcases scalar : value.shape with _ | _ | _ | _
  · rcases List.exists_cons_of_ne_nil (render_scalar_ne_nil scalar) with ⟨first, tail, text⟩
    have token := (render_scalar scalar).1 first (by simp [text])
    simp only [text, List.cons_append, List.cons.injEq] at same
    rw [same.1] at token
    rcases closing with rfl | rfl <;> exact absurd token (by decide)
  all_goals
    rw [scalar] at shape
    rcases closing with rfl | rfl <;> simp [shapeOfHead] at shape

theorem boundary_renderItems (items : List Value) (rest : List Char) :
    Boundary (renderItems items ++ rest) := by
  cases items <;> simp [Boundary, renderItems, isTokenChar]

theorem boundary_renderEntries (entries : List (String × Value)) (rest : List Char) :
    Boundary (renderEntries entries ++ rest) := by
  rcases entries with _ | ⟨⟨key, value⟩, entries⟩ <;>
    simp [Boundary, renderEntries, isTokenChar]

mutual

/-- Equal texts that begin with values begin with the same value. -/
theorem render_append_inj (left right : Value) {rest other : List Char}
    (restBoundary : Boundary rest) (otherBoundary : Boundary other)
    (same : left.render ++ rest = right.render ++ other) : left = right ∧ rest = other := by
  have shapes : left.shape = right.shape := by
    have heads := congrArg shapeOfHead same
    rw [shapeOfHead_render, shapeOfHead_render] at heads
    exact Option.some.inj heads
  have scalars (scalar : left.shape = .scalar) : left = right ∧ rest = other := by
    rcases render_scalar scalar with ⟨leftToken, leftRead⟩
    rcases render_scalar (shapes ▸ scalar) with ⟨rightToken, rightRead⟩
    rcases token_append_inj leftToken rightToken restBoundary otherBoundary same with ⟨texts, rests⟩
    refine ⟨?_, rests⟩
    rw [← leftRead, texts, rightRead]
  cases left with
  | none => exact scalars rfl
  | bool value => exact scalars rfl
  | int number => exact scalars rfl
  | float number => exact scalars rfl
  | str text =>
      cases right <;> simp only [shape, reduceCtorEq] at shapes
      rcases jsonText_append_inj same with ⟨texts, rests⟩
      exact ⟨by rw [String.toList_inj.mp texts], rests⟩
  | list items =>
      cases right <;> simp only [shape, reduceCtorEq] at shapes
      rename_i others
      cases items with
      | nil =>
          cases others with
          | nil => simpa [render] using same
          | cons item others =>
              simp only [render, List.cons_append, List.nil_append, List.cons.injEq, true_and,
                List.append_assoc] at same
              exact absurd same.symm (render_head_ne _ (Or.inl rfl))
      | cons first items =>
          cases others with
          | nil =>
              simp only [render, List.cons_append, List.nil_append, List.cons.injEq, true_and,
                List.append_assoc] at same
              exact absurd same (render_head_ne _ (Or.inl rfl))
          | cons second others =>
              simp only [render, List.cons_append, List.cons.injEq, true_and,
                List.append_assoc] at same
              rcases render_append_inj first second (boundary_renderItems _ _)
                (boundary_renderItems _ _) same with ⟨rfl, tails⟩
              rcases renderItems_append_inj items others tails with ⟨rfl, rests⟩
              exact ⟨rfl, rests⟩
  | dict entries =>
      cases right <;> simp only [shape, reduceCtorEq] at shapes
      rename_i others
      rcases entries with _ | ⟨⟨key, value⟩, entries⟩ <;>
        rcases others with _ | ⟨⟨otherKey, otherValue⟩, others⟩
      · simpa [render] using same
      · simp [render, jsonText] at same
      · simp [render, jsonText] at same
      · simp only [render, List.cons_append, List.cons.injEq, true_and,
          List.append_assoc] at same
        rcases jsonText_append_inj same with ⟨keys, afterKey⟩
        rcases render_append_inj value otherValue (boundary_renderEntries _ _)
          (boundary_renderEntries _ _) (List.cons.inj afterKey).2 with ⟨rfl, tails⟩
        rcases renderEntries_append_inj entries others tails with ⟨rfl, rests⟩
        exact ⟨by rw [String.toList_inj.mp keys], rests⟩

theorem renderItems_append_inj (left right : List Value) {rest other : List Char}
    (same : renderItems left ++ rest = renderItems right ++ other) :
    left = right ∧ rest = other := by
  cases left with
  | nil =>
      cases right with
      | nil => simpa [renderItems] using same
      | cons item right => simp [renderItems] at same
  | cons first left =>
      cases right with
      | nil => simp [renderItems] at same
      | cons second right =>
          simp only [renderItems, List.cons_append, List.cons.injEq, true_and,
            List.append_assoc] at same
          rcases render_append_inj first second (boundary_renderItems _ _)
            (boundary_renderItems _ _) same with ⟨rfl, tails⟩
          rcases renderItems_append_inj left right tails with ⟨rfl, rests⟩
          exact ⟨rfl, rests⟩

theorem renderEntries_append_inj (left right : List (String × Value)) {rest other : List Char}
    (same : renderEntries left ++ rest = renderEntries right ++ other) :
    left = right ∧ rest = other := by
  rcases left with _ | ⟨⟨key, value⟩, left⟩ <;>
    rcases right with _ | ⟨⟨otherKey, otherValue⟩, right⟩
  · simpa [renderEntries] using same
  · simp [renderEntries] at same
  · simp [renderEntries] at same
  · simp only [renderEntries, List.cons_append, List.cons.injEq, true_and,
      List.append_assoc] at same
    rcases jsonText_append_inj same with ⟨keys, afterKey⟩
    rcases render_append_inj value otherValue (boundary_renderEntries _ _)
      (boundary_renderEntries _ _) (List.cons.inj afterKey).2 with ⟨rfl, tails⟩
    rcases renderEntries_append_inj left right tails with ⟨rfl, rests⟩
    exact ⟨by rw [String.toList_inj.mp keys], rests⟩

end

/-- The text of a value determines it. -/
theorem render_injective : Function.Injective render := by
  intro left right same
  have boundary : Boundary [] := by simp [Boundary]
  exact (render_append_inj left right boundary boundary (by rw [same])).1

/-- Equal dumps come from values that are equal up to the order of their keys. -/
theorem sortKeys_eq_of_dumps_eq {left right : Value} (same : left.dumps = right.dumps) :
    left.sortKeys = right.sortKeys :=
  render_injective (String.ofList_injective same)

theorem lookup_eq_some_iff {entries : List (String × Value)}
    (distinct : (entries.map Prod.fst).Nodup) {key : String} {value : Value} :
    lookup key entries = some value ↔ (key, value) ∈ entries := by
  induction entries with
  | nil => simp [lookup]
  | cons entry entries ih =>
      rcases entry with ⟨first, firstValue⟩
      simp only [List.map_cons, List.nodup_cons, List.mem_map, Prod.exists, exists_and_right,
        exists_eq_right, not_exists] at distinct
      by_cases same : first = key
      · subst same
        simp only [lookup, if_true, Option.some.injEq, List.mem_cons, Prod.mk.injEq, true_and]
        constructor
        · intro valueEq
          exact Or.inl valueEq.symm
        · rintro (valueEq | earlier)
          · exact valueEq.symm
          · exact absurd earlier (distinct.1 value)
      · simp [lookup, same, ih distinct.2, Ne.symm same]

theorem lookup_perm {entries others : List (String × Value)} (perm : entries.Perm others)
    (distinct : (entries.map Prod.fst).Nodup) (key : String) :
    lookup key entries = lookup key others := by
  have otherDistinct : (others.map Prod.fst).Nodup := (perm.map Prod.fst).nodup_iff.mp distinct
  ext value
  rw [lookup_eq_some_iff distinct, lookup_eq_some_iff otherDistinct, perm.mem_iff]

theorem lookup_sortEntries (key : String) (entries : List (String × Value)) :
    lookup key (sortEntries entries) = (lookup key entries).map sortKeys := by
  induction entries with
  | nil => rfl
  | cons entry entries ih =>
      rcases entry with ⟨first, value⟩
      simp only [sortEntries, lookup]
      split_ifs
      · rfl
      · exact ih

@[simp]
theorem sortEntries_keys (entries : List (String × Value)) :
    (sortEntries entries).map Prod.fst = entries.map Prod.fst := by
  induction entries with
  | nil => rfl
  | cons entry entries ih => simp [sortEntries, ih]

/-- The entries of a dictionary after sorting. -/
theorem lookup_sortKeys {entries : List (String × Value)}
    (distinct : (entries.map Prod.fst).Nodup) (key : String) :
    lookup key ((sortEntries entries).insertionSort fun left right => left.1 ≤ right.1) =
      (lookup key entries).map sortKeys := by
  rw [lookup_perm (List.perm_insertionSort _ _), lookup_sortEntries]
  rw [((List.perm_insertionSort _ _).map Prod.fst).nodup_iff, sortEntries_keys]
  exact distinct

theorem wellFormed_of_lookup {entries : List (String × Value)} {key : String} {value : Value}
    (wellFormed : EntriesWellFormed entries) (found : lookup key entries = some value) :
    value.WellFormed := by
  induction entries with
  | nil => simp [lookup] at found
  | cons entry entries ih =>
      rcases entry with ⟨first, firstValue⟩
      simp only [lookup] at found
      split_ifs at found
      · rcases Option.some.inj found with rfl
        exact wellFormed.1
      · exact ih wellFormed.2 found

mutual

/-- Equality does not see the order of the keys. -/
theorem pyEq_sortKeys (left right : Value) (wellFormed : right.WellFormed) :
    left.pyEq right.sortKeys = left.pyEq right := by
  cases left with
  | list items =>
      cases right with
      | list others =>
          simp only [sortKeys, pyEq]
          exact listEq_sortItems items others wellFormed
      | _ => simp [pyEq, sortKeys, numeric?]
  | dict entries =>
      cases right with
      | dict others =>
          have length := congrArg List.length (sortEntries_keys others)
          simp only [List.length_map] at length
          simp only [sortKeys, pyEq, List.length_insertionSort, length]
          rw [entriesIn_sortKeys entries others wellFormed.1 wellFormed.2]
      | _ => simp [pyEq, sortKeys, numeric?]
  | _ => cases right <;> simp [pyEq, sortKeys, numeric?]

theorem listEq_sortItems (left right : List Value) (wellFormed : ItemsWellFormed right) :
    listEq left (sortItems right) = listEq left right := by
  cases left with
  | nil => cases right <;> rfl
  | cons first left =>
      cases right with
      | nil => rfl
      | cons second right =>
          simp only [sortItems, listEq]
          rw [pyEq_sortKeys first second wellFormed.1, listEq_sortItems left right wellFormed.2]

theorem entriesIn_sortKeys (left right : List (String × Value))
    (distinct : (right.map Prod.fst).Nodup) (wellFormed : EntriesWellFormed right) :
    entriesIn left ((sortEntries right).insertionSort fun first second => first.1 ≤ second.1) =
      entriesIn left right := by
  rcases left with _ | ⟨⟨key, value⟩, left⟩
  · rfl
  · simp only [entriesIn]
    rw [lookup_sortKeys distinct, entriesIn_sortKeys left right distinct wellFormed]
    cases found : lookup key right with
    | none => rfl
    | some other =>
        simp only [Option.map_some]
        rw [pyEq_sortKeys value other (wellFormed_of_lookup wellFormed found)]

end

theorem memberOf_sortItems (value : Value) (items : List Value)
    (wellFormed : ItemsWellFormed items) :
    value.memberOf (sortItems items) = value.memberOf items := by
  induction items with
  | nil => rfl
  | cons item items ih =>
      simp only [memberOf, sortItems, List.any_cons] at ih ⊢
      rw [pyEq_sortKeys value item wellFormed.1, ih wellFormed.2]

theorem toFloat_sortKeys [UnicodeData] (value : Value) :
    value.sortKeys.toFloat = value.toFloat := by
  cases value <;> rfl

end Value

end ImigrAI.Python
