import Mathlib.Data.List.DropRight
import Mathlib.Data.Fin.Basic

/-!
# Text

Strings of Python as far as the program uses them. What depends on the Unicode character
database is a parameter, known only on ASCII.
-/

namespace ImigrAI.Python

/-- The parts of the Unicode character database that the program reaches through `str.strip`,
`str.lower`, `str.upper`, `repr`, number parsing and regular expressions. -/
class UnicodeData where
  isSpace : Char → Bool
  decimalDigit : Char → Option (Fin 10)
  isPrintable : Char → Bool
  lower : String → String
  upper : String → String
  /-- A character of a pattern matches one of a text under `re.IGNORECASE`. -/
  sameCase : Char → Char → Bool
  decimalDigit_ascii : ∀ char : Char, char.toNat < 128 →
    decimalDigit char = if h : char.isDigit then
      some ⟨char.toNat - 48, by simp [Char.isDigit, UInt32.le_iff_toNat_le] at h; omega⟩ else none
  lower_ascii : ∀ text : String, (∀ char ∈ text.toList, char.toNat < 128) →
    lower text = String.ofList (text.toList.map Char.toLower)
  sameCase_ascii : ∀ pattern char : Char, pattern.toNat < 128 → char.toNat < 128 →
    sameCase pattern char = decide (pattern.toLower = char.toLower)

/-- A database that knows ASCII only. -/
abbrev UnicodeData.ascii : UnicodeData where
  isSpace char := char = ' ' ∨ ('\t' ≤ char ∧ char ≤ '\r') ∨ ('\x1c' ≤ char ∧ char ≤ '\x1f')
  decimalDigit char := if h : char.isDigit then
    some ⟨char.toNat - 48, by simp [Char.isDigit, UInt32.le_iff_toNat_le] at h; omega⟩ else none
  isPrintable char := ' ' ≤ char ∧ char ≤ '~'
  lower text := String.ofList (text.toList.map Char.toLower)
  upper text := String.ofList (text.toList.map Char.toUpper)
  sameCase pattern char := pattern.toLower = char.toLower
  decimalDigit_ascii _ _ := rfl
  lower_ascii _ _ := rfl
  sameCase_ascii _ _ _ _ := rfl

/-- The hash functions that the program calls. -/
class Hashlib where
  /-- `hashlib.sha256(text.encode("utf-8")).hexdigest()`. -/
  sha256Hex : String → String

namespace Text

def isAscii (text : List Char) : Bool := text.all fun char => char.toNat < 128

variable [UnicodeData]

/-- `text.strip()`. -/
def strip (text : String) : String :=
  String.ofList ((text.toList.dropWhile UnicodeData.isSpace).rdropWhile UnicodeData.isSpace)

/-- `text.split(separator)` for a separator of one character. -/
def split (separator : Char) (text : String) : List String :=
  (text.toList.splitOn separator).map String.ofList

/-- The characters that `int` and `float` take for blanks around a number. -/
def isNumericSpace (text : List Char) (char : Char) : Bool :=
  if isAscii text then char = ' ' ∨ ('\t' ≤ char ∧ char ≤ '\r') else UnicodeData.isSpace char

/-- Blanks around a number are dropped, and decimal digits of any script become ASCII ones. -/
def numericText (text : String) : List Char :=
  let blank := isNumericSpace text.toList
  ((text.toList.dropWhile blank).rdropWhile blank).map fun char =>
    match UnicodeData.decimalDigit char with
    | some digit => (digit : ℕ).digitChar
    | none => char

end Text

/-- Underscores may stand between digits of a number only; they are then dropped. -/
def dropUnderscores : List Char → Option (List Char)
  | [] => some []
  | ['_'] => none
  | '_' :: _ => none
  | [char] => some [char]
  | char :: '_' :: next :: rest =>
      if char.isDigit ∧ next.isDigit then
        (dropUnderscores (next :: rest)).map (char :: ·)
      else none
  | char :: rest => (dropUnderscores rest).map (char :: ·)

end ImigrAI.Python
