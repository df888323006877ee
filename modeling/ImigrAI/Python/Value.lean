import ImigrAI.Foundations.Digits
import ImigrAI.Python.Float
import ImigrAI.Python.Text

/-!
# Values of decoded JSON

The values that `json.loads` gives and that the engine computes with: their equality, which
compares numbers across types, their conversions, and their text. A dictionary is the list
of its items in insertion order.
-/

namespace ImigrAI.Python

open Binary64 Numerals Digits

/-- The exceptions of built-in operations that the program can run into. -/
inductive PyError where
  | valueError
  | typeError
  | overflowError
  | attributeError
deriving DecidableEq

inductive Value where
  | none
  | bool (value : Bool)
  | int (value : ℤ)
  | float (value : PyFloat)
  | str (value : String)
  | list (items : List Value)
  | dict (entries : List (String × Value))

namespace Value

/-- The value under a key. -/
def lookup (key : String) : List (String × Value) → Option Value
  | [] => Option.none
  | (first, value) :: rest => if first = key then some value else lookup key rest

/-- Assigning to a key of a dictionary. -/
def assign (key : String) (value : Value) : List (String × Value) → List (String × Value)
  | [] => [(key, value)]
  | (first, old) :: rest =>
      if first = key then (first, value) :: rest else (first, old) :: assign key value rest

theorem lookup_assign (key other : String) (value : Value) (entries : List (String × Value)) :
    lookup key (assign other value entries) =
      if key = other then some value else lookup key entries := by
  induction entries with
  | nil => simp only [assign, lookup, eq_comm]
  | cons entry rest ih =>
      rcases entry with ⟨first, old⟩
      rw [assign]
      split_ifs with firstOther keyOther keyOther
      · rw [lookup, if_pos (firstOther.trans keyOther.symm)]
      · rw [lookup, lookup, if_neg fun firstKey => keyOther (firstKey.symm.trans firstOther),
          if_neg fun firstKey => keyOther (firstKey.symm.trans firstOther)]
      · rw [lookup, if_neg fun firstKey => firstOther (firstKey.trans keyOther), ih,
          if_pos keyOther]
      · rw [lookup, lookup, ih, if_neg keyOther]

/-- The number that a value is; booleans are integers. -/
def numeric? : Value → Option Numeric
  | .bool value => some (.finite (if value then 1 else 0))
  | .int value => some (.finite value)
  | .float value => some value.numeric
  | _ => Option.none

mutual

/-- The operator `==`. -/
def pyEq : Value → Value → Bool
  | .list left, .list right => listEq left right
  | .dict left, .dict right => left.length = right.length && entriesIn left right
  | .str left, .str right => left = right
  | .none, .none => true
  | left, right =>
      match left.numeric?, right.numeric? with
      | some left, some right => left.eq right
      | _, _ => false

def listEq : List Value → List Value → Bool
  | [], [] => true
  | left :: lefts, right :: rights => pyEq left right && listEq lefts rights
  | _, _ => false

/-- Every entry of the first dictionary has an equal one in the second. -/
def entriesIn : List (String × Value) → List (String × Value) → Bool
  | [], _ => true
  | (key, left) :: rest, other =>
      (match lookup key other with
        | some right => pyEq left right
        | Option.none => false) && entriesIn rest other

end

/-- The operator `in` on a list. -/
def memberOf (value : Value) (items : List Value) : Bool := items.any fun item => value.pyEq item

mutual

/-- The keys of every dictionary in the value are distinct. -/
def WellFormed : Value → Prop
  | .list items => ItemsWellFormed items
  | .dict entries => (entries.map Prod.fst).Nodup ∧ EntriesWellFormed entries
  | _ => True

def ItemsWellFormed : List Value → Prop
  | [] => True
  | item :: rest => item.WellFormed ∧ ItemsWellFormed rest

def EntriesWellFormed : List (String × Value) → Prop
  | [] => True
  | (_, value) :: rest => value.WellFormed ∧ EntriesWellFormed rest

end

end Value

/-- Decoded JSON: a value whose dictionaries have distinct keys. -/
structure Json where
  value : Value
  wellFormed : value.WellFormed

namespace Value

theorem ItemsWellFormed.mem {items : List Value} (wellFormed : ItemsWellFormed items)
    {item : Value} (itemMem : item ∈ items) : item.WellFormed := by
  induction items with
  | nil => exact absurd itemMem (by simp)
  | cons first rest ih =>
      rcases List.mem_cons.mp itemMem with rfl | itemMem
      · exact wellFormed.1
      · exact ih wellFormed.2 itemMem

theorem EntriesWellFormed.lookup {entries : List (String × Value)}
    (wellFormed : EntriesWellFormed entries) {key : String} {value : Value}
    (found : Value.lookup key entries = some value) : value.WellFormed := by
  induction entries with
  | nil => exact absurd found (by simp [Value.lookup])
  | cons entry rest ih =>
      rcases entry with ⟨first, head⟩
      rw [Value.lookup] at found
      split_ifs at found
      · rcases Option.some.inj found with rfl
        exact wellFormed.1
      · exact ih wellFormed.2 found

theorem itemsWellFormed_of_forall {items : List Value}
    (wellFormed : ∀ item ∈ items, item.WellFormed) : ItemsWellFormed items := by
  induction items with
  | nil => trivial
  | cons first rest ih =>
      exact ⟨wellFormed first (by simp), ih fun item itemMem => wellFormed item (by simp [itemMem])⟩

end Value

namespace Json

/-- The items of a list. -/
def items? (json : Json) : Option (List Json) :=
  match json with
  | ⟨.list items, wellFormed⟩ =>
      some (items.attach.map fun item => ⟨item.1, wellFormed.mem item.2⟩)
  | _ => none

end Json

/-- Decoded JSON that is a dictionary. -/
structure JsonObject where
  entries : List (String × Value)
  wellFormed : (Value.dict entries).WellFormed

theorem Value.wellFormed_emptyDict : (Value.dict []).WellFormed := by
  simp [WellFormed, EntriesWellFormed]

namespace JsonObject

def toJson (object : JsonObject) : Json := ⟨.dict object.entries, object.wellFormed⟩

def get? (object : JsonObject) (key : String) : Option Json :=
  match found : Value.lookup key object.entries with
  | some value => some ⟨value, object.wellFormed.2.lookup found⟩
  | none => none

end JsonObject

/-- The dictionary that the JSON is. -/
def Json.object? (json : Json) : Option JsonObject :=
  match json with
  | ⟨.dict entries, wellFormed⟩ => some ⟨entries, wellFormed⟩
  | _ => none

/-- `int(text)`, with the limit of the interpreter on the number of digits. -/
def intOfText [UnicodeData] (text : String) : Except PyError ℤ :=
  let (negative, unsigned) := readSign (Text.numericText text)
  match dropUnderscores unsigned with
  | some digits =>
      if digits ≠ [] ∧ digits.all Char.isDigit ∧ digits.length ≤ 4300 then
        .ok (if negative then -(digitsValue digits : ℤ) else digitsValue digits)
      else .error .valueError
  | none => .error .valueError

theorem dropUnderscores_of_allDigits {digits : List Char} (all : AllDigits digits) :
    dropUnderscores digits = some digits := by
  have noUnderscore : ∀ char ∈ digits, char ≠ '_' := by
    rintro char charMem rfl
    exact absurd (all _ charMem) (by decide)
  clear all
  induction digits using dropUnderscores.induct <;> simp_all [dropUnderscores]

/-- The number that a text of decimal digits reads as. -/
theorem intOfText_of_decimals [UnicodeData] {text : String} {number : ℤ}
    (decimals : ∀ char ∈ text.toList, (UnicodeData.decimalDigit char).isSome)
    (read : intOfText text = .ok number) : 0 ≤ number ∧ number < 10 ^ text.toList.length := by
  have kept : ((text.toList.dropWhile (Text.isNumericSpace text.toList)).rdropWhile
      (Text.isNumericSpace text.toList)).Sublist text.toList :=
    (List.rdropWhile_prefix _ _).sublist.trans (List.dropWhile_sublist _)
  have all : AllDigits (Text.numericText text) := by
    intro digit digitMem
    rcases List.mem_map.mp digitMem with ⟨char, charMem, rfl⟩
    rcases Option.isSome_iff_exists.mp (decimals char (kept.subset charMem)) with ⟨value, isDigit⟩
    rw [isDigit]
    simp [Nat.isDigit_digitChar]
  have length : (Text.numericText text).length ≤ text.toList.length := by
    rw [Text.numericText, List.length_map]
    exact kept.length_le
  have unsigned : readSign (Text.numericText text) = (false, Text.numericText text) := by
    cases chars : Text.numericText text with
    | nil => rfl
    | cons first rest => exact readSign_of_digit (all first (by simp [chars]))
  simp only [intOfText, unsigned, dropUnderscores_of_allDigits all, Bool.false_eq_true,
    if_false] at read
  split_ifs at read
  cases read
  refine ⟨Int.natCast_nonneg _, ?_⟩
  exact_mod_cast (digitsValue_lt all).trans_le (Nat.pow_le_pow_right (by norm_num) length)

/-- `float(text)`. -/
def floatOfText [UnicodeData] (text : String) : Except PyError PyFloat :=
  let chars := Text.numericText text
  let (negative, unsigned) := readSign chars
  let word := unsigned.map Char.toLower
  if word = ['i', 'n', 'f'] ∨ word = ['i', 'n', 'f', 'i', 'n', 'i', 't', 'y'] then
    .ok (.infinity negative)
  else if word = ['n', 'a', 'n'] then .ok .nan
  else
    match (dropUnderscores chars).bind readNumeral with
    | some numeral => .ok (.ofSigned numeral.negative numeral.magnitude)
    | none => .error .valueError

/-- `float(number)` for an integer. -/
def floatOfInt (number : ℤ) : Except PyError PyFloat :=
  if |nearest number| < overflowBound then .ok (.ofRat number) else .error .overflowError

/-- `int(number)` for a float. -/
def intOfFloat : PyFloat → Except PyError ℤ
  | .finite double => .ok (if 0 ≤ double.value then ⌊double.value⌋ else ⌈double.value⌉)
  | .negativeZero => .ok 0
  | .infinity _ => .error .overflowError
  | .nan => .error .valueError

namespace Value

variable [UnicodeData]

/-- `int(value)`. -/
def toInt : Value → Except PyError ℤ
  | .bool value => .ok (if value then 1 else 0)
  | .int value => .ok value
  | .float value => intOfFloat value
  | .str text => intOfText text
  | _ => .error .typeError

/-- `float(value)`. -/
def toFloat : Value → Except PyError PyFloat
  | .bool value => .ok (.ofRat (if value then 1 else 0))
  | .int value => floatOfInt value
  | .float value => .ok value
  | .str text => floatOfText text
  | _ => .error .typeError

end Value

namespace Value

/-- The value is a number up to this one. -/
def AtMost (value : Value) (bound : ℤ) : Prop :=
  ∃ number, value.numeric? = some number ∧ number.le (.finite bound)

/-- The value is a number above this one. -/
def Above (value : Value) (bound : ℤ) : Prop :=
  ∃ number, value.numeric? = some number ∧ Numeric.lt (.finite bound) number

/-- The value is a number below this one. -/
def Below (value : Value) (bound : ℤ) : Prop :=
  ∃ number, value.numeric? = some number ∧ number.lt (.finite bound)

/-- `int` truncates towards zero. -/
theorem toInt_of_numeric [UnicodeData] {value : Value} {number : Numeric} {integer : ℤ}
    (numeric : value.numeric? = some number) (read : value.toInt = .ok integer) :
    ∃ exact : ℚ, number = .finite exact ∧ integer = if 0 ≤ exact then ⌊exact⌋ else ⌈exact⌉ := by
  cases value with
  | none | str | list | dict => exact absurd numeric (by simp [numeric?])
  | bool value =>
      cases numeric
      cases read
      cases value <;> exact ⟨_, rfl, by simp⟩
  | int value =>
      cases numeric
      cases read
      exact ⟨_, rfl, by simp⟩
  | float value =>
      cases numeric
      cases value with
      | finite double =>
          cases read
          exact ⟨_, rfl, rfl⟩
      | negativeZero =>
          cases read
          exact ⟨0, rfl, by simp⟩
      | infinity negative => exact absurd read (by simp [toInt, intOfFloat])
      | nan => exact absurd read (by simp [toInt, intOfFloat])

/-- A number up to a whole number that is not negative is truncated to one up to it. -/
theorem AtMost.toInt_le [UnicodeData] {value : Value} {bound integer : ℤ} (nonneg : 0 ≤ bound)
    (atMost : value.AtMost bound) (read : value.toInt = .ok integer) : integer ≤ bound := by
  rcases atMost with ⟨number, numeric, le⟩
  rcases toInt_of_numeric numeric read with ⟨exact, rfl, rfl⟩
  have exactLe : exact ≤ bound := by
    simpa [Numeric.le, Numeric.lt, Numeric.eq, le_iff_lt_or_eq] using le
  split_ifs with exactNonneg
  · exact_mod_cast (Int.floor_le exact).trans exactLe
  · exact (Int.ceil_nonpos.mpr (by linarith)).trans nonneg

/-- A number above a whole number that is not negative is truncated to it exactly if it is
below the next one. -/
theorem Above.toInt_le_iff [UnicodeData] {value : Value} {bound integer : ℤ}
    (nonneg : 0 ≤ bound) (above : value.Above bound) (read : value.toInt = .ok integer) :
    integer ≤ bound ↔ value.Below (bound + 1) := by
  rcases above with ⟨number, numeric, lt⟩
  rcases toInt_of_numeric numeric read with ⟨exact, rfl, rfl⟩
  have boundLt : (bound : ℚ) < exact := by simpa [Numeric.lt] using lt
  have boundNonneg : (0 : ℚ) ≤ bound := by exact_mod_cast nonneg
  rw [if_pos (boundNonneg.trans boundLt.le), ← Int.lt_add_one_iff, Int.floor_lt]
  constructor
  · intro below
    exact ⟨_, numeric, by simpa [Numeric.lt] using below⟩
  · rintro ⟨number, same, below⟩
    cases numeric.symm.trans same
    simpa [Numeric.lt] using below

end Value

/-- One character between quotes, as `repr` of a string shows it. -/
def reprChar [UnicodeData] (quote char : Char) : List Char :=
  if char = quote ∨ char = '\\' then ['\\', char]
  else if char = '\t' then ['\\', 't']
  else if char = '\n' then ['\\', 'n']
  else if char = '\r' then ['\\', 'r']
  else if ' ' ≤ char ∧ char.toNat < 127 then [char]
  else if 127 < char.toNat ∧ UnicodeData.isPrintable char then [char]
  else if char.toNat < 256 then '\\' :: 'x' :: fixedDigits 16 2 char.toNat
  else if char.toNat < 65536 then '\\' :: 'u' :: fixedDigits 16 4 char.toNat
  else '\\' :: 'U' :: fixedDigits 16 8 char.toNat

/-- `repr(text)`: single quotes unless the text has a single and no double quote. -/
def reprText [UnicodeData] (text : List Char) : List Char :=
  let quote := if '\'' ∈ text ∧ '"' ∉ text then '"' else '\''
  quote :: text.flatMap (reprChar quote) ++ [quote]

/-- The decimal text of an integer. -/
def intText (number : ℤ) : List Char :=
  if number < 0 then '-' :: Nat.toDigits 10 number.natAbs else Nat.toDigits 10 number.natAbs

namespace Value

variable [UnicodeData]

mutual

/-- `repr(value)`. -/
def repr : Value → List Char
  | .none => "None".toList
  | .bool value => if value then "True".toList else "False".toList
  | .int value => intText value
  | .float value => value.repr
  | .str text => reprText text.toList
  | .list items => '[' :: [',', ' '].intercalate (itemReprs items) ++ [']']
  | .dict entries => '{' :: [',', ' '].intercalate (entryReprs entries) ++ ['}']

def itemReprs : List Value → List (List Char)
  | [] => []
  | item :: rest => item.repr :: itemReprs rest

def entryReprs : List (String × Value) → List (List Char)
  | [] => []
  | (key, value) :: rest => (reprText key.toList ++ ':' :: ' ' :: value.repr) :: entryReprs rest

end

/-- `str(value)`. -/
def text : Value → String
  | .str text => text
  | value => String.ofList value.repr

end Value

end ImigrAI.Python
