import Mathlib.Data.Fin.Basic
import Mathlib.Data.List.Basic
import Mathlib.Tactic.Common
import Mathlib.Tactic.IntervalCases

/-!
# JSON over UTF-16 code units

`JSON.parse`, with its values up to the numbers, which are kept as they are written, and
`JSON.stringify` for an array of strings. A string is any list of code units; a surrogate that
stands alone is escaped.
-/

namespace ImigrAI.Json

abbrev CodeUnit := Fin 65536

abbrev Text := List CodeUnit

inductive JsonValue where
  | null
  | bool (value : Bool)
  | number (written : Text)
  | string (value : Text)
  | array (items : List JsonValue)
  | object (entries : List (Text × JsonValue))

def units (text : String) : Text := text.toList.map fun char => Fin.ofNat 65536 char.toNat

/-- The escapes of one letter that are written. -/
def shortEscapes : List (CodeUnit × CodeUnit) :=
  [(8, 98), (9, 116), (10, 110), (12, 102), (13, 114), (34, 34), (92, 92)]

def hexUnit (digit : ℕ) : CodeUnit :=
  if digit < 10 then Fin.ofNat 65536 (48 + digit) else Fin.ofNat 65536 (87 + digit)

def isLeadSurrogate (unit : CodeUnit) : Prop := 55296 ≤ unit.val ∧ unit.val < 56320

def isTrailSurrogate (unit : CodeUnit) : Prop := 56320 ≤ unit.val ∧ unit.val < 57344

instance (unit : CodeUnit) : Decidable (isLeadSurrogate unit) :=
  inferInstanceAs (Decidable (_ ∧ _))

instance (unit : CodeUnit) : Decidable (isTrailSurrogate unit) :=
  inferInstanceAs (Decidable (_ ∧ _))

def quoteUnit (unit : CodeUnit) : Text :=
  match shortEscapes.lookup unit with
  | some escape => [92, escape]
  | none =>
      if unit.val < 32 ∨ isLeadSurrogate unit ∨ isTrailSurrogate unit then
        [92, 117, hexUnit (unit.val / 4096), hexUnit (unit.val / 256 % 16),
          hexUnit (unit.val / 16 % 16), hexUnit (unit.val % 16)]
      else [unit]

/-- What stands between the quotation marks. -/
def quoteUnits : Text → Text
  | [] => []
  | [last] => quoteUnit last
  | first :: second :: rest =>
      if isLeadSurrogate first ∧ isTrailSurrogate second then
        first :: second :: quoteUnits rest
      else quoteUnit first ++ quoteUnits (second :: rest)

def quote (value : Text) : Text := 34 :: quoteUnits value ++ [34]

def stringifyItems : List Text → Text
  | [] => []
  | [last] => quote last
  | item :: rest => quote item ++ 44 :: stringifyItems rest

/-- `JSON.stringify` of an array of strings. -/
def stringify (items : List Text) : Text := 91 :: stringifyItems items ++ [93]

def skipSpace (text : Text) : Text := text.dropWhile fun unit => unit ∈ [9, 10, 13, 32]

/-- What follows a token, if the text begins with it. -/
def token (unit : CodeUnit) (text : Text) : Option Text :=
  match skipSpace text with
  | [] => none
  | first :: rest => if first = unit then some rest else none

def hexDigit (unit : CodeUnit) : Option ℕ :=
  if 48 ≤ unit.val ∧ unit.val ≤ 57 then some (unit.val - 48)
  else if 97 ≤ unit.val ∧ unit.val ≤ 102 then some (unit.val - 87)
  else if 65 ≤ unit.val ∧ unit.val ≤ 70 then some (unit.val - 55)
  else none

def readHex (a b c d : CodeUnit) : Option CodeUnit := do
  let a ← hexDigit a
  let b ← hexDigit b
  let c ← hexDigit c
  let d ← hexDigit d
  some (Fin.ofNat 65536 (a * 4096 + b * 256 + c * 16 + d))

/-- What a backslash and what follows it stand for. -/
def readEscape : Text → Option (CodeUnit × Text)
  | [] => none
  | escape :: rest =>
      if escape = 117 then
        match rest with
        | a :: b :: c :: d :: rest => (readHex a b c d).map fun unit => (unit, rest)
        | _ => none
      else
        ([(34, 34), (92, 92), (47, 47), (98, 8), (102, 12), (110, 10), (114, 13), (116, 9)].lookup
          escape).map fun unit => (unit, rest)

/-- The code unit that a string begins with. -/
def readUnit : Text → Option (CodeUnit × Text)
  | [] => none
  | first :: rest =>
      if first = 92 then readEscape rest
      else if first.val < 32 then none
      else some (first, rest)

/-- A string after its quotation mark. -/
def readString : ℕ → Text → Option (Text × Text)
  | 0, _ => none
  | _, [] => none
  | fuel + 1, first :: rest =>
      if first = 34 then some ([], rest)
      else (readUnit (first :: rest)).bind fun unit =>
        (readString fuel unit.2).map fun tail => (unit.1 :: tail.1, tail.2)

def isDigit (unit : CodeUnit) : Bool := 48 ≤ unit.val && unit.val ≤ 57

def skipDigits : Text → Option Text
  | [] => none
  | first :: rest => if isDigit first then some (rest.dropWhile isDigit) else none

def skipInteger : Text → Option Text
  | [] => none
  | first :: rest => if first = 48 then some rest else skipDigits (first :: rest)

def skipFraction : Text → Option Text
  | [] => some []
  | first :: rest => if first = 46 then skipDigits rest else some (first :: rest)

def skipSigns (signs : List CodeUnit) : Text → Text
  | [] => []
  | first :: rest => if first ∈ signs then rest else first :: rest

def skipExponent : Text → Option Text
  | [] => some []
  | first :: rest =>
      if first = 69 ∨ first = 101 then skipDigits (skipSigns [43, 45] rest)
      else some (first :: rest)

def readNumber (text : Text) : Option (JsonValue × Text) := do
  let rest ← skipInteger (skipSigns [45] text)
  let rest ← skipFraction rest
  let rest ← skipExponent rest
  some (.number (text.take (text.length - rest.length)), rest)

def readScalar (text : Text) : Option (JsonValue × Text) :=
  if units "null" <+: text then some (.null, text.drop 4)
  else if units "true" <+: text then some (.bool true, text.drop 4)
  else if units "false" <+: text then some (.bool false, text.drop 5)
  else readNumber text

mutual

def readValue : ℕ → Text → Option (JsonValue × Text)
  | 0, _ => none
  | fuel + 1, text =>
      match skipSpace text with
      | [] => none
      | first :: rest =>
          if first = 34 then
            (readString rest.length rest).map fun read => (.string read.1, read.2)
          else if first = 91 then
            match token 93 rest with
            | some rest => some (.array [], rest)
            | none => (readElements fuel rest).map fun read => (.array read.1, read.2)
          else if first = 123 then
            match token 125 rest with
            | some rest => some (.object [], rest)
            | none => (readMembers fuel rest).map fun read => (.object read.1, read.2)
          else readScalar (first :: rest)

/-- The elements of an array, after its bracket or a comma. -/
def readElements : ℕ → Text → Option (List JsonValue × Text)
  | 0, _ => none
  | fuel + 1, text =>
      (readValue fuel text).bind fun item =>
        match token 44 item.2 with
        | some rest => (readElements fuel rest).map fun read => (item.1 :: read.1, read.2)
        | none => (token 93 item.2).map fun rest => ([item.1], rest)

/-- The members of an object, after its brace or a comma. -/
def readMembers : ℕ → Text → Option (List (Text × JsonValue) × Text)
  | 0, _ => none
  | fuel + 1, text => do
      let rest ← token 34 text
      let name ← readString rest.length rest
      let rest ← token 58 name.2
      let value ← readValue fuel rest
      match token 44 value.2 with
      | some rest => (readMembers fuel rest).map fun read => ((name.1, value.1) :: read.1, read.2)
      | none => (token 125 value.2).map fun rest => ([(name.1, value.1)], rest)

end

/-- `JSON.parse`, `none` where it throws. Two steps for each code unit are enough. -/
def parse (text : Text) : Option JsonValue :=
  (readValue (2 * text.length + 2) text).bind fun read =>
    if skipSpace read.2 = [] then some read.1 else none

theorem hexDigit_hexUnit {digit : ℕ} (small : digit < 16) :
    hexDigit (hexUnit digit) = some digit := by
  interval_cases digit <;> rfl

theorem readHex_hexUnit (unit : CodeUnit) :
    readHex (hexUnit (unit.val / 4096)) (hexUnit (unit.val / 256 % 16))
      (hexUnit (unit.val / 16 % 16)) (hexUnit (unit.val % 16)) = some unit := by
  have bound := unit.isLt
  have digits : unit.val / 4096 * 4096 + unit.val / 256 % 16 * 256 + unit.val / 16 % 16 * 16 +
      unit.val % 16 = unit.val := by omega
  have first : unit.val / 4096 < 16 := by omega
  simp only [readHex, hexDigit_hexUnit first, hexDigit_hexUnit (Nat.mod_lt _ (by decide : 0 < 16)),
    Option.bind_eq_bind, Option.bind_some, digits]
  simp

theorem readUnit_plain {unit : CodeUnit} (printable : ¬ unit.val < 32) (noEscape : unit ≠ 92)
    (rest : Text) : readUnit (unit :: rest) = some (unit, rest) := by
  rw [readUnit, if_neg noEscape, if_neg printable]

theorem readEscape_short {unit escape : CodeUnit} (short : (unit, escape) ∈ shortEscapes)
    (rest : Text) : readEscape (escape :: rest) = some (unit, rest) := by
  simp only [shortEscapes, List.mem_cons, Prod.mk.injEq, List.not_mem_nil, or_false] at short
  rcases short with ⟨rfl, rfl⟩ | ⟨rfl, rfl⟩ | ⟨rfl, rfl⟩ | ⟨rfl, rfl⟩ | ⟨rfl, rfl⟩ | ⟨rfl, rfl⟩ |
    ⟨rfl, rfl⟩ <;> rfl

theorem readUnit_quoteUnit (unit : CodeUnit) (rest : Text) :
    readUnit (quoteUnit unit ++ rest) = some (unit, rest) := by
  unfold quoteUnit
  split
  · rename_i escape found
    rcases List.lookup_eq_some_iff.mp found with ⟨before, others, split, -⟩
    have short : (unit, escape) ∈ shortEscapes := by simp [split]
    exact readEscape_short short rest
  · rename_i noShort
    split_ifs with special
    · have read := readHex_hexUnit unit
      simp [readUnit, readEscape, read]
    · rw [List.lookup_eq_none_iff] at noShort
      have noEscape : unit ≠ 92 := by simpa using noShort (92, 92) (by decide)
      exact readUnit_plain (by tauto) noEscape rest

theorem head?_quoteUnit (unit : CodeUnit) (rest : Text) :
    (quoteUnit unit ++ rest).head? ≠ some 34 := by
  unfold quoteUnit
  split
  · simp
  · rename_i noShort
    split_ifs
    · simp
    · rw [List.lookup_eq_none_iff] at noShort
      simpa using noShort (34, 34) (by decide)

theorem readString_step {text rest : Text} {unit : CodeUnit} (fuel : ℕ)
    (read : readUnit text = some (unit, rest)) (noQuote : text.head? ≠ some 34) :
    readString (fuel + 1) text =
      (readString fuel rest).map fun tail => (unit :: tail.1, tail.2) := by
  cases text with
  | nil => cases read
  | cons first others =>
      have notMark : first ≠ 34 := by simpa using noQuote
      rw [readString, if_neg notMark, read, Option.bind_some]

theorem readString_quoteUnits (value rest : Text) {fuel : ℕ} (enough : value.length < fuel) :
    readString fuel (quoteUnits value ++ 34 :: rest) = some (value, rest) := by
  induction value using quoteUnits.induct generalizing fuel with
  | case1 =>
      cases fuel with
      | zero => simp at enough
      | succ fuel => rfl
  | case2 last =>
      cases fuel with
      | zero => simp at enough
      | succ fuel =>
          rw [quoteUnits, readString_step _ (readUnit_quoteUnit last _) (head?_quoteUnit last _)]
          cases fuel with
          | zero => simp at enough
          | succ fuel => rfl
  | case3 first second others pair ih =>
      -- A pair of surrogates stands as it is.
      rcases pair with ⟨lead, trail⟩
      have readPair (unit : CodeUnit) (high : 55296 ≤ unit.val) (rest : Text) :
          readUnit (unit :: rest) = some (unit, rest) ∧ (unit :: rest).head? ≠ some 34 := by
        constructor
        · apply readUnit_plain (by omega)
          rintro rfl
          simp at high
        · rintro same
          rw [List.head?_cons, Option.some.injEq] at same
          subst same
          simp at high
      have ofFirst := readPair first lead.1
      have ofSecond := readPair second (le_trans (by norm_num) trail.1)
      match fuel with
      | 0 | 1 => simp at enough
      | fuel + 2 =>
          rw [quoteUnits, if_pos ⟨lead, trail⟩, List.cons_append, List.cons_append,
            readString_step _ (ofFirst _).1 (ofFirst _).2,
            readString_step _ (ofSecond _).1 (ofSecond _).2, ih (by simpa using enough)]
          rfl
  | case4 first second others noPair ih =>
      cases fuel with
      | zero => simp at enough
      | succ fuel =>
          rw [quoteUnits, if_neg noPair, List.append_assoc,
            readString_step _ (readUnit_quoteUnit first _) (head?_quoteUnit first _),
            ih (by simpa using enough)]
          rfl

theorem length_quoteUnit (unit : CodeUnit) : 1 ≤ (quoteUnit unit).length := by
  unfold quoteUnit
  split
  · simp
  · split_ifs
    · simp
    · simp

theorem length_le_length_quoteUnits (value : Text) :
    value.length ≤ (quoteUnits value).length := by
  induction value using quoteUnits.induct with
  | case1 => simp [quoteUnits]
  | case2 last => exact length_quoteUnit last
  | case3 first second others pair ih =>
      rw [quoteUnits, if_pos pair]
      simpa using ih
  | case4 first second others noPair ih =>
      have unit := length_quoteUnit first
      rw [quoteUnits, if_neg noPair, List.length_append, List.length_cons]
      omega

theorem readValue_quote (value rest : Text) (fuel : ℕ) :
    readValue (fuel + 1) (quote value ++ rest) = some (.string value, rest) := by
  have length := length_le_length_quoteUnits value
  have enough : value.length < (quoteUnits value ++ 34 :: rest).length := by
    rw [List.length_append, List.length_cons]
    omega
  have text : quote value ++ rest = 34 :: (quoteUnits value ++ 34 :: rest) := by
    simp [quote]
  have noSpace : skipSpace (34 :: (quoteUnits value ++ 34 :: rest)) =
      34 :: (quoteUnits value ++ 34 :: rest) := by
    rw [skipSpace, List.dropWhile_cons_of_neg (by decide)]
  rw [text, readValue, noSpace]
  simp only [if_true]
  rw [readString_quoteUnits value rest enough]
  rfl

theorem token_cons {unit : CodeUnit} (noSpace : unit ∉ [9, 10, 13, 32]) (rest : Text) :
    token unit (unit :: rest) = some rest := by
  rw [token, skipSpace, List.dropWhile_cons_of_neg (by simpa using noSpace)]
  simp

theorem token_of_ne {unit first : CodeUnit} (noSpace : first ∉ [9, 10, 13, 32])
    (other : first ≠ unit) (rest : Text) : token unit (first :: rest) = none := by
  rw [token, skipSpace, List.dropWhile_cons_of_neg (by simpa using noSpace)]
  simp [other]

theorem readElements_stringifyItems (items : List Text) (nonempty : items ≠ []) (rest : Text)
    {fuel : ℕ} (enough : items.length < fuel) :
    readElements fuel (stringifyItems items ++ 93 :: rest) =
      some (items.map .string, rest) := by
  induction items using stringifyItems.induct generalizing fuel with
  | case1 => exact absurd rfl nonempty
  | case2 last =>
      match fuel with
      | 0 | 1 => simp at enough
      | fuel + 2 =>
          rw [stringifyItems, readElements, readValue_quote, Option.bind_some]
          simp only
          rw [token_of_ne (by decide) (by decide), token_cons (by decide)]
          rfl
  | case3 item others notLast ih =>
      match fuel with
      | 0 | 1 => simp at enough
      | fuel + 2 =>
          rw [stringifyItems.eq_3 item others notLast, List.append_assoc, readElements,
            readValue_quote, Option.bind_some]
          simp only [List.cons_append]
          rw [token_cons (by decide)]
          simp only
          rw [ih (by simpa using notLast) (by simpa using enough)]
          rfl

theorem length_le_length_stringifyItems (items : List Text) :
    items.length ≤ (stringifyItems items).length := by
  induction items using stringifyItems.induct with
  | case1 => simp
  | case2 last => simp [stringifyItems, quote]
  | case3 item others notLast ih =>
      rw [stringifyItems.eq_3 item others notLast, List.length_append, List.length_cons,
        List.length_cons]
      omega

/-- An array of strings that is written is read back. -/
theorem parse_stringify (items : List Text) :
    parse (stringify items) = some (.array (items.map .string)) := by
  have length := length_le_length_stringifyItems items
  have noSpace : skipSpace (stringify items) = stringify items := by
    rw [skipSpace, stringify, List.cons_append, List.dropWhile_cons_of_neg (by decide)]
  rw [parse, readValue, noSpace, stringify, List.cons_append]
  simp only [if_true]
  rw [if_neg (by decide)]
  cases items with
  | nil => rfl
  | cons item others =>
      have noClose : token 93 (stringifyItems (item :: others) ++ [93]) = none := by
        cases others with
        | nil => exact token_of_ne (by decide) (by decide) _
        | cons => exact token_of_ne (by decide) (by decide) _
      rw [noClose, readElements_stringifyItems _ (by simp) [] (by simp at length ⊢; omega)]
      rw [Option.map_some, Option.bind_some]
      exact if_pos rfl

end ImigrAI.Json
