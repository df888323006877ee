import ImigrAI.Foundations.Fallible
import ImigrAI.Python.Dumps

/-!
# `json.loads`

The scanner of the standard library, for a text without a byte order mark: blanks between the
tokens, strings without control characters, numbers with or without a fraction and an exponent,
the three names that JSON does not have, and objects in which the last entry with a key counts.

A lone surrogate may be escaped in a text, and Python has strings that hold one. The values
here have none, so such a text is told apart from one that is refused.
-/

namespace ImigrAI.Python

open Numerals Digits

/-- Why a text gives no value. -/
inductive LoadError where
  | valueError
  | loneSurrogate
deriving DecidableEq

namespace Loads

def isBlank (char : Char) : Bool := char = ' ' || char = '\t' || char = '\n' || char = '\r'

def skipBlanks (text : List Char) : List Char := text.dropWhile isBlank

/-- What follows a token, if the text begins with it. -/
def token? (mark : Char) (text : List Char) : Option (List Char) :=
  match skipBlanks text with
  | [] => none
  | first :: rest => if first = mark then some rest else none

def token (mark : Char) (text : List Char) : Except LoadError (List Char) :=
  match token? mark text with
  | some rest => .ok rest
  | none => .error .valueError

def hexValue (digit : Char) : Option ℕ :=
  if '0' ≤ digit ∧ digit ≤ '9' then some (digit.toNat - 48)
  else if 'a' ≤ digit ∧ digit ≤ 'f' then some (digit.toNat - 87)
  else if 'A' ≤ digit ∧ digit ≤ 'F' then some (digit.toNat - 55)
  else none

def hexUnit (a b c d : Char) : Option ℕ := do
  let a ← hexValue a
  let b ← hexValue b
  let c ← hexValue c
  let d ← hexValue d
  some (((a * 16 + b) * 16 + c) * 16 + d)

/-- The code unit of an escape and what follows it. -/
def scanUnit : List Char → Except LoadError (ℕ × List Char)
  | a :: b :: c :: d :: rest =>
      match hexUnit a b c d with
      | some unit => .ok (unit, rest)
      | none => .error .valueError
  | _ => .error .valueError

def isHigh (unit : ℕ) : Prop := 55296 ≤ unit ∧ unit < 56320

def isLow (unit : ℕ) : Prop := 56320 ≤ unit ∧ unit < 57344

instance (unit : ℕ) : Decidable (isHigh unit) := inferInstanceAs (Decidable (_ ∧ _))

instance (unit : ℕ) : Decidable (isLow unit) := inferInstanceAs (Decidable (_ ∧ _))

/-- The character of a high surrogate with the low one that has to follow. -/
def scanPair (high : ℕ) : List Char → Except LoadError (Char × List Char)
  | '\\' :: 'u' :: rest => do
      let (low, rest) ← scanUnit rest
      if isLow low then
        .ok (Char.ofNat (65536 + (high - 55296) * 1024 + (low - 56320)), rest)
      else .error .loneSurrogate
  | _ => .error .loneSurrogate

def shortEscapes : List (Char × Char) :=
  [('"', '"'), ('\\', '\\'), ('/', '/'), ('b', '\x08'), ('f', '\x0c'), ('n', '\n'), ('r', '\r'),
    ('t', '\t')]

/-- What a backslash and what follows it stand for. -/
def scanEscape : List Char → Except LoadError (Char × List Char)
  | [] => .error .valueError
  | escape :: rest =>
      if escape = 'u' then do
        let (unit, rest) ← scanUnit rest
        if isHigh unit then scanPair unit rest
        else if isLow unit then .error .loneSurrogate
        else .ok (Char.ofNat unit, rest)
      else
        match shortEscapes.lookup escape with
        | some char => .ok (char, rest)
        | none => .error .valueError

/-- A string after its quotation mark. -/
def scanString : ℕ → List Char → Except LoadError (List Char × List Char)
  | 0, _ => .error .valueError
  | _, [] => .error .valueError
  | fuel + 1, first :: rest =>
      if first = '"' then .ok ([], rest)
      else do
        let (char, rest) ←
          if first = '\\' then scanEscape rest
          else if first.toNat < 32 then .error .valueError
          else .ok (first, rest)
        let (tail, rest) ← scanString fuel rest
        .ok (char :: tail, rest)

/-- The digits before the point: a zero, or digits of which the first one is not zero. -/
def scanWhole (text : List Char) : Option (List Char × List Char) :=
  match text with
  | [] => none
  | first :: rest =>
      if first = '0' then some (['0'], rest)
      else if first.isDigit then
        some (text.takeWhile Char.isDigit, text.dropWhile Char.isDigit)
      else none

/-- The digits after a point, if there are any. -/
def scanFraction : List Char → List Char × List Char
  | [] => ([], [])
  | first :: rest =>
      if first = '.' ∧ rest.takeWhile Char.isDigit ≠ [] then
        (rest.takeWhile Char.isDigit, rest.dropWhile Char.isDigit)
      else ([], first :: rest)

/-- The exponent, if there is one. -/
def scanExponent : List Char → Option ℤ × List Char
  | [] => (none, [])
  | marker :: rest =>
      let (negative, unsigned) := readSign rest
      let digits := unsigned.takeWhile Char.isDigit
      if (marker = 'e' ∨ marker = 'E') ∧ digits ≠ [] then
        (some (if negative then -(digitsValue digits : ℤ) else digitsValue digits),
          unsigned.dropWhile Char.isDigit)
      else (none, marker :: rest)

def scanMinus : List Char → Bool × List Char
  | [] => (false, [])
  | first :: rest => if first = '-' then (true, rest) else (false, first :: rest)

/-- A number, with the limit of the interpreter on the digits of an integer. -/
def scanNumber (text : List Char) : Except LoadError (Value × List Char) :=
  let (negative, unsigned) := scanMinus text
  match scanWhole unsigned with
  | none => .error .valueError
  | some (whole, rest) =>
      let (fraction, rest) := scanFraction rest
      let (exponent, rest) := scanExponent rest
      if fraction = [] ∧ exponent = none then
        if whole.length ≤ 4300 then
          .ok (.int (if negative then -(digitsValue whole : ℤ) else digitsValue whole), rest)
        else .error .valueError
      else
        let numeral : Numeral := ⟨negative, whole, fraction, exponent.getD 0⟩
        .ok (.float (.ofSigned negative numeral.magnitude), rest)

/-- The names of values, with the three that JSON does not have. -/
def constants : List (List Char × Value) :=
  [("null".toList, .none), ("true".toList, .bool true), ("false".toList, .bool false),
    ("NaN".toList, .float .nan), ("Infinity".toList, .float (.infinity false)),
    ("-Infinity".toList, .float (.infinity true))]

def scanScalar (text : List Char) : Except LoadError (Value × List Char) :=
  match constants.find? fun constant => constant.1.isPrefixOf text with
  | some (name, value) => .ok (value, text.drop name.length)
  | none => scanNumber text

mutual

def scanValue : ℕ → List Char → Except LoadError (Value × List Char)
  | 0, _ => .error .valueError
  | fuel + 1, text =>
      match skipBlanks text with
      | [] => .error .valueError
      | first :: rest =>
          if first = '"' then do
            let (value, rest) ← scanString rest.length rest
            .ok (.str (String.ofList value), rest)
          else if first = '[' then
            match token? ']' rest with
            | some rest => .ok (.list [], rest)
            | none => do
                let (items, rest) ← scanItems fuel rest
                .ok (.list items, rest)
          else if first = '{' then
            match token? '}' rest with
            | some rest => .ok (.dict [], rest)
            | none => do
                let (entries, rest) ← scanEntries fuel [] rest
                .ok (.dict entries, rest)
          else scanScalar (first :: rest)

/-- The items of an array, after its bracket or a comma. -/
def scanItems : ℕ → List Char → Except LoadError (List Value × List Char)
  | 0, _ => .error .valueError
  | fuel + 1, text => do
      let (item, rest) ← scanValue fuel text
      match token? ',' rest with
      | some rest =>
          let (items, rest) ← scanItems fuel rest
          .ok (item :: items, rest)
      | none =>
          let rest ← token ']' rest
          .ok ([item], rest)

/-- The entries of an object, after its brace or a comma, assigned to those before them. -/
def scanEntries : ℕ → List (String × Value) → List Char →
    Except LoadError (List (String × Value) × List Char)
  | 0, _, _ => .error .valueError
  | fuel + 1, entries, text => do
      let rest ← token '"' text
      let (key, rest) ← scanString rest.length rest
      let rest ← token ':' rest
      let (value, rest) ← scanValue fuel rest
      let entries := Value.assign (String.ofList key) value entries
      match token? ',' rest with
      | some rest => scanEntries fuel entries rest
      | none =>
          let rest ← token '}' rest
          .ok (entries, rest)

end

end Loads

open Loads in
/-- `json.loads`. Two steps for each character are enough. -/
def loads (text : List Char) : Except LoadError Value := do
  let (value, rest) ← scanValue (2 * text.length + 2) text
  if skipBlanks rest = [] then .ok value else .error .valueError

namespace Loads

def AllBlank (text : List Char) : Prop := ∀ char ∈ text, isBlank char = true

theorem skipBlanks_append {blanks : List Char} (all : AllBlank blanks) (text : List Char) :
    skipBlanks (blanks ++ text) = skipBlanks text :=
  List.dropWhile_append_of_pos all

theorem skipBlanks_cons {first : Char} (solid : isBlank first = false) (rest : List Char) :
    skipBlanks (first :: rest) = first :: rest :=
  List.dropWhile_cons_of_neg (by simp [solid])

theorem token?_append {blanks : List Char} (all : AllBlank blanks) (mark : Char)
    (text : List Char) : token? mark (blanks ++ text) = token? mark text := by
  simp only [token?, skipBlanks_append all]

theorem token?_cons {first : Char} (solid : isBlank first = false) (mark : Char)
    (rest : List Char) :
    token? mark (first :: rest) = if first = mark then some rest else none := by
  simp only [token?, skipBlanks_cons solid]

theorem token_cons {mark : Char} (solid : isBlank mark = false) (rest : List Char) :
    token mark (mark :: rest) = .ok rest := by
  simp [token, token?_cons solid]

theorem token_append {blanks : List Char} (all : AllBlank blanks) (mark : Char)
    (text : List Char) : token mark (blanks ++ text) = token mark text := by
  simp only [token, token?_append all]

theorem length_of_token? {mark : Char} {text rest : List Char}
    (found : token? mark text = some rest) : rest.length < text.length := by
  have skipped : (skipBlanks text).length ≤ text.length := (List.dropWhile_sublist _).length_le
  unfold token? at found
  split at found
  · cases found
  · rename_i first others shown
    split_ifs at found
    cases found
    rw [shown, List.length_cons] at skipped
    exact skipped

theorem length_of_token {mark : Char} {text rest : List Char}
    (found : token mark text = .ok rest) : rest.length < text.length := by
  unfold token at found
  split at found
  · rename_i others found'
    cases found
    exact length_of_token? found'
  · cases found

theorem length_of_scanUnit {text rest : List Char} {unit : ℕ}
    (scanned : scanUnit text = .ok (unit, rest)) : rest.length < text.length := by
  unfold scanUnit at scanned
  split at scanned
  · rename_i a b c d others
    cases found : hexUnit a b c d with
    | none => simp [found] at scanned
    | some value =>
        simp only [found, Except.ok.injEq, Prod.mk.injEq] at scanned
        rw [← scanned.2]
        simp only [List.length_cons]
        omega
  · cases scanned

theorem length_of_scanPair {high : ℕ} {text rest : List Char} {char : Char}
    (scanned : scanPair high text = .ok (char, rest)) : rest.length < text.length := by
  unfold scanPair at scanned
  split at scanned
  · rename_i others
    rcases Fallible.bind_eq_ok_iff.mp scanned with ⟨read, unit, same⟩
    have := length_of_scanUnit unit
    dsimp only at same
    split_ifs at same
    rcases Prod.mk.inj (Except.ok.inj same) with ⟨-, rfl⟩
    simp only [List.length_cons]
    omega
  · cases scanned

theorem length_of_scanEscape {text rest : List Char} {char : Char}
    (scanned : scanEscape text = .ok (char, rest)) : rest.length < text.length := by
  unfold scanEscape at scanned
  split at scanned
  · cases scanned
  · split_ifs at scanned
    · rcases Fallible.bind_eq_ok_iff.mp scanned with ⟨read, unit, after⟩
      have := length_of_scanUnit unit
      dsimp only at after
      split_ifs at after
      · have := length_of_scanPair after
        simp only [List.length_cons]
        omega
      · cases after
        simp only [List.length_cons]
        omega
    · split at scanned
      · cases scanned
        simp
      · cases scanned

theorem length_of_scanString {fuel : ℕ} {text rest value : List Char}
    (scanned : scanString fuel text = .ok (value, rest)) : rest.length < text.length := by
  induction fuel generalizing text value with
  | zero => simp [scanString] at scanned
  | succ fuel ih =>
      cases text with
      | nil => simp [scanString] at scanned
      | cons first others =>
          rw [scanString] at scanned
          split_ifs at scanned with quote backslash control
          · cases scanned
            simp
          all_goals
            rcases Fallible.bind_eq_ok_iff.mp scanned with ⟨read, char, after⟩
            rcases Fallible.bind_eq_ok_iff.mp after with ⟨tail, string, same⟩
            cases same
            have shorter := ih string
            simp only [List.length_cons]
          · have := length_of_scanEscape char
            omega
          · cases char
          · cases char
            dsimp only at shorter
            omega

theorem length_of_scanWhole {text whole rest : List Char}
    (scanned : scanWhole text = some (whole, rest)) : rest.length < text.length := by
  unfold scanWhole at scanned
  split at scanned
  · cases scanned
  · rename_i first others
    split_ifs at scanned with zero digit
    · cases scanned
      simp
    · cases scanned
      rw [List.dropWhile_cons_of_pos digit, List.length_cons]
      exact Nat.lt_succ_of_le (List.dropWhile_sublist _).length_le

theorem length_scanFraction_le (text : List Char) :
    (scanFraction text).2.length ≤ text.length := by
  unfold scanFraction
  split
  · simp
  · rename_i first others
    split_ifs
    · have := (List.dropWhile_sublist Char.isDigit (l := others)).length_le
      simp only [List.length_cons]
      omega
    · simp

theorem length_scanExponent_le (text : List Char) :
    (scanExponent text).2.length ≤ text.length := by
  have signed (rest : List Char) : (readSign rest).2.length ≤ rest.length := by
    unfold readSign
    split <;> simp
  unfold scanExponent
  split
  · simp
  · rename_i marker others
    have dropped := (List.dropWhile_sublist Char.isDigit (l := (readSign others).2)).length_le
    have unsigned := signed others
    by_cases written : (marker = 'e' ∨ marker = 'E') ∧
        (readSign others).2.takeWhile Char.isDigit ≠ []
    · simp only [if_pos written, List.length_cons]
      omega
    · simp only [if_neg written, List.length_cons, le_refl]

theorem length_of_scanNumber {text rest : List Char} {value : Value}
    (scanned : scanNumber text = .ok (value, rest)) : rest.length < text.length := by
  have minus : (scanMinus text).2.length ≤ text.length := by
    unfold scanMinus
    split
    · simp
    · split_ifs <;> simp
  unfold scanNumber at scanned
  dsimp only at scanned
  split at scanned
  · cases scanned
  · rename_i whole afterWhole scannedWhole
    have := length_of_scanWhole scannedWhole
    have := length_scanFraction_le afterWhole
    have := length_scanExponent_le (scanFraction afterWhole).2
    split_ifs at scanned <;> cases scanned <;> omega

theorem length_of_scanScalar {text rest : List Char} {value : Value}
    (scanned : scanScalar text = .ok (value, rest)) : rest.length < text.length := by
  unfold scanScalar at scanned
  split at scanned
  · rename_i name constant found
    have constantMem := List.mem_of_find?_eq_some found
    have begins := List.find?_some found
    have nonempty : 0 < name.length := by
      simp only [constants, List.mem_cons, Prod.mk.injEq, List.not_mem_nil, or_false] at constantMem
      rcases constantMem with ⟨rfl, -⟩ | ⟨rfl, -⟩ | ⟨rfl, -⟩ | ⟨rfl, -⟩ | ⟨rfl, -⟩ | ⟨rfl, -⟩ <;>
        simp
    have within : name.length ≤ text.length := (List.isPrefixOf_iff_prefix.mp begins).length_le
    cases scanned
    rw [List.length_drop]
    omega
  · exact length_of_scanNumber scanned

/-- What the scanner reads takes at least one character. -/
theorem length_of_scan (fuel : ℕ) :
    (∀ text value rest, scanValue fuel text = .ok (value, rest) → rest.length < text.length) ∧
    (∀ text items rest, scanItems fuel text = .ok (items, rest) → rest.length < text.length) ∧
    (∀ entries text result rest, scanEntries fuel entries text = .ok (result, rest) →
      rest.length < text.length) := by
  induction fuel with
  | zero => simp [scanValue, scanItems, scanEntries]
  | succ fuel ih =>
      rcases ih with ⟨values, lists, dicts⟩
      refine ⟨?_, ?_, ?_⟩
      · intro text value rest scanned
        have skipped : (skipBlanks text).length ≤ text.length :=
          (List.dropWhile_sublist _).length_le
        rw [scanValue] at scanned
        split at scanned
        · cases scanned
        · rename_i first others shown
          rw [shown] at skipped
          simp only [List.length_cons] at skipped
          split_ifs at scanned
          · rcases Fallible.bind_eq_ok_iff.mp scanned with ⟨read, string, same⟩
            have := length_of_scanString string
            cases same
            omega
          · split at scanned
            · rename_i after closed
              have := length_of_token? closed
              cases scanned
              omega
            · rcases Fallible.bind_eq_ok_iff.mp scanned with ⟨read, items, same⟩
              have := lists _ _ _ items
              cases same
              omega
          · split at scanned
            · rename_i after closed
              have := length_of_token? closed
              cases scanned
              omega
            · rcases Fallible.bind_eq_ok_iff.mp scanned with ⟨read, entries, same⟩
              have := dicts _ _ _ _ entries
              cases same
              omega
          · have := length_of_scanScalar scanned
            simp only [List.length_cons] at this
            omega
      · intro text items rest scanned
        rw [scanItems] at scanned
        rcases Fallible.bind_eq_ok_iff.mp scanned with ⟨read, item, after⟩
        have first := values _ _ _ item
        dsimp only at after
        split at after
        · rename_i next comma
          have := length_of_token? comma
          rcases Fallible.bind_eq_ok_iff.mp after with ⟨others, items, same⟩
          have := lists _ _ _ items
          cases same
          omega
        · rcases Fallible.bind_eq_ok_iff.mp after with ⟨others, closed, same⟩
          have := length_of_token closed
          cases same
          omega
      · intro entries text result rest scanned
        rw [scanEntries] at scanned
        rcases Fallible.bind_eq_ok_iff.mp scanned with ⟨_, quoted, scanned⟩
        rcases Fallible.bind_eq_ok_iff.mp scanned with ⟨key, string, scanned⟩
        rcases Fallible.bind_eq_ok_iff.mp scanned with ⟨_, colon, scanned⟩
        rcases Fallible.bind_eq_ok_iff.mp scanned with ⟨read, value, after⟩
        have := length_of_token quoted
        have := length_of_scanString string
        have := length_of_token colon
        have := values _ _ _ value
        dsimp only at after
        split at after
        · rename_i next comma
          have := length_of_token? comma
          have := dicts _ _ _ _ after
          omega
        · rcases Fallible.bind_eq_ok_iff.mp after with ⟨others, closed, same⟩
          have := length_of_token closed
          cases same
          omega

/-- More steps than two for each character change nothing. -/
theorem scan_fuel (fuel : ℕ) :
    (∀ text, 2 * text.length + 1 ≤ fuel → scanValue (fuel + 1) text = scanValue fuel text) ∧
    (∀ text, 2 * text.length + 2 ≤ fuel → scanItems (fuel + 1) text = scanItems fuel text) ∧
    (∀ entries text, 2 * text.length + 2 ≤ fuel →
      scanEntries (fuel + 1) entries text = scanEntries fuel entries text) := by
  induction fuel with
  | zero => simp
  | succ fuel ih =>
      rcases ih with ⟨values, lists, dicts⟩
      refine ⟨?_, ?_, ?_⟩
      · intro text enough
        have skipped : (skipBlanks text).length ≤ text.length :=
          (List.dropWhile_sublist _).length_le
        rw [scanValue, scanValue]
        cases shown : skipBlanks text with
        | nil => rfl
        | cons first others =>
            rw [shown, List.length_cons] at skipped
            dsimp only
            rw [lists others (by omega), dicts [] others (by omega)]
      · intro text enough
        rw [scanItems, scanItems, values text (by omega)]
        cases read : scanValue fuel text with
        | error error => rfl
        | ok item =>
            rcases item with ⟨item, rest⟩
            have shorter := (length_of_scan fuel).1 _ _ _ read
            rw [Fallible.ok_bind, Fallible.ok_bind]
            dsimp only
            cases comma : token? ',' rest with
            | none => rfl
            | some next =>
                have := length_of_token? comma
                dsimp only
                rw [lists next (by omega)]
      · intro entries text enough
        rw [scanEntries, scanEntries]
        cases quoted : token '"' text with
        | error error => rfl
        | ok afterQuote =>
            have := length_of_token quoted
            rw [Fallible.ok_bind, Fallible.ok_bind]
            cases string : scanString afterQuote.length afterQuote with
            | error error => rfl
            | ok key =>
                rcases key with ⟨key, afterKey⟩
                have := length_of_scanString string
                rw [Fallible.ok_bind, Fallible.ok_bind]
                dsimp only
                cases colon : token ':' afterKey with
                | error error => rfl
                | ok afterColon =>
                    have := length_of_token colon
                    rw [Fallible.ok_bind, Fallible.ok_bind, values afterColon (by omega)]
                    cases read : scanValue fuel afterColon with
                    | error error => rfl
                    | ok value =>
                        rcases value with ⟨value, rest⟩
                        have shorter := (length_of_scan fuel).1 _ _ _ read
                        rw [Fallible.ok_bind, Fallible.ok_bind]
                        dsimp only
                        cases comma : token? ',' rest with
                        | none => rfl
                        | some next =>
                            have := length_of_token? comma
                            dsimp only
                            rw [dicts _ next (by omega)]

/-- Two steps for each character are enough: with more, the scanner does the same. -/
theorem scanValue_of_le {fuel : ℕ} {text : List Char} (enough : 2 * text.length + 2 ≤ fuel) :
    scanValue fuel text = scanValue (2 * text.length + 2) text := by
  induction fuel, enough using Nat.le_induction with
  | base => rfl
  | succ fuel enough ih => rw [(scan_fuel fuel).1 text (by omega), ih]

end Loads

end ImigrAI.Python
