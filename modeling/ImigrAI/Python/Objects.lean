import ImigrAI.Python.Datetime
import ImigrAI.Python.Uuid
import ImigrAI.Python.Value

/-!
# Reading decoded objects

What a handler of a webhook does with the values that it was sent: access to dictionaries,
truth, UUIDs from text and instants from Unix time.
-/

namespace ImigrAI.Python

open Digits

namespace Value

/-- `bool(value)`. -/
def truthy : Value → Bool
  | .none => false
  | .bool value => value
  | .int value => value ≠ 0
  | .float (.finite double) => double.value ≠ 0
  | .float .negativeZero => false
  | .float _ => true
  | .str text => text ≠ ""
  | .list items => !items.isEmpty
  | .dict entries => !entries.isEmpty

/-- `value.get(key, default)`. -/
def get (value : Value) (key : String) (default : Value) : Except PyError Value :=
  match value with
  | .dict entries => .ok ((lookup key entries).getD default)
  | _ => .error .attributeError

/-- `str(value) if value else None`. -/
def optionalStr [UnicodeData] (value : Value) : Option String :=
  if value.truthy then some value.text else Option.none

end Value

/-- `text.replace(part, "")`, with the number of characters that are still to be skipped. -/
def removeAll (part : List Char) : ℕ → List Char → List Char
  | _, [] => []
  | skipped + 1, _ :: rest => removeAll part skipped rest
  | 0, char :: rest =>
      if part <+: char :: rest then removeAll part (part.length - 1) rest
      else char :: removeAll part 0 rest

def isHexDigit (char : Char) : Bool :=
  char.isDigit || ('a' ≤ char && char ≤ 'f') || ('A' ≤ char && char ≤ 'F')

/-- What may stand before the digits of `int(text, 16)`. -/
def dropHexMark : List Char → List Char
  | '0' :: 'x' :: '_' :: rest => rest
  | '0' :: 'X' :: '_' :: rest => rest
  | '0' :: 'x' :: rest => rest
  | '0' :: 'X' :: rest => rest
  | text => text

/-- `int(text, 16)`. -/
def intOfHex [UnicodeData] (text : String) : Except PyError ℤ :=
  let (negative, unsigned) := Numerals.readSign (Text.numericText text)
  let parts := (dropHexMark unsigned).splitOn '_'
  if parts.all fun part => part ≠ [] ∧ part.all isHexDigit then
    let value : ℤ := readDigits 16 (parts.flatten.map Char.toLower)
    .ok (if negative then -value else value)
  else .error .valueError

/-- `UUID(text)`. -/
def uuidOfText [UnicodeData] (text : String) : Except PyError UUID :=
  let isBrace := fun char : Char => char = '{' || char = '}'
  let unmarked := removeAll "uuid:".toList 0 (removeAll "urn:".toList 0 text.toList)
  let hex := ((unmarked.dropWhile isBrace).rdropWhile isBrace).filter (· ≠ '-')
  if hex.length ≠ 32 then .error .valueError
  else
    match intOfHex (String.ofList hex) with
    | .ok value =>
        if bounds : 0 ≤ value ∧ value < 2 ^ 128 then .ok ⟨value.toNat, by omega⟩
        else .error .valueError
    | .error error => .error error

/-- Seconds from the start of year 1 to the start of 1970. -/
def unixEpoch : ℤ := 62135596800

/-- `datetime.fromtimestamp(seconds, tz=UTC)`; what is raised outside of the years 1 to 9999
depends on the platform. -/
def instantOfTimestamp (seconds : ℤ) : Except PyError Instant :=
  if bounds : 0 ≤ seconds + unixEpoch ∧ seconds + unixEpoch < 315537897600 then
    .ok ⟨(seconds + unixEpoch).toNat * 1000000, by omega⟩
  else .error .valueError

end ImigrAI.Python
