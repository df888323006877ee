import ImigrAI.Foundations.Fallible
import ImigrAI.Foundations.Patterns
import ImigrAI.Ingestion.Schemas

/-!
# The deterministic extractor

`DeterministicExtractor._build_rule_groups`: the rule groups that are read off the text of a
source.
-/

namespace ImigrAI.Ingestion

open Python ImmigrationRules Patterns

section Detection

variable [UnicodeData]

def cefrLevels : List String := ["A1", "A2", "B1", "B2", "C1", "C2"]

/-- A word of a pattern, with `re.IGNORECASE`. -/
def keyword (word : String) : Pattern := .word UnicodeData.sameCase word.toList

/-- `\d`. -/
def isDecimal (char : Char) : Bool := (UnicodeData.decimalDigit char).isSome

/-- `\D{0,20}`. -/
def gap : Pattern := .repeated (fun char => !isDecimal char) 0 (some 20)

def incomePattern : Pattern :=
  .sequence
    (.group (.either (keyword "minimum") (.either
      (.sequence (keyword "minim")
        (.repeated (fun char => UnicodeData.sameCase 'o' char || UnicodeData.sameCase 'a' char) 0
          (some 1)))
      (.either (keyword "at least") (keyword ">=")))))
    (.sequence gap (.group (.sequence (.literal isDecimal)
      (.repeated (fun char => isDecimal char || char = '.' || char = ',') 2 none))))

def agePattern : Pattern :=
  .sequence
    (.group (.either (keyword "age") (.either (keyword "idade") (.either (keyword "edad")
      (.either (keyword "years") (keyword "anos"))))))
    (.sequence gap (.group (.sequence (.literal fun char => '1' ≤ char && char ≤ '9')
      (.literal isDecimal))))

/-- The age limit of a text in lower case. -/
def detectAge (lowered : String) : Except PyError (Option ℤ) :=
  match agePattern.search lowered.toList with
  | some [_, number] => (intOfText (String.ofList number)).map some
  | _ => .ok none

/-- The minimum income of a text. -/
def detectIncome (text : String) : Except PyError (Option ℤ) :=
  match incomePattern.search text.toList with
  | some [_, number] =>
      let rawIncome := number.filter fun char => char ≠ ',' ∧ char ≠ '.'
      (intOfText (String.ofList rawIncome)).map fun income => some (max income 1)
  | _ => .ok none

def extractLanguageLevel (text : String) : Option String :=
  cefrLevels.reverse.find? fun level => (UnicodeData.lower level).toList <:+: text.toList

theorem isDecimal_of_nonzero {char : Char} (nonzero : ('1' ≤ char && char ≤ '9') = true) :
    isDecimal char := by
  have bounds : '1'.toNat ≤ char.toNat ∧ char.toNat ≤ '9'.toNat := by
    simpa [Char.le_def, UInt32.le_iff_toNat_le] using nonzero
  have digit : char.isDigit := by
    simp only [Char.isDigit, UInt32.le_iff_toNat_le, Bool.and_eq_true, decide_eq_true_eq, ge_iff_le]
    exact ⟨(by decide : '0'.toNat ≤ '1'.toNat).trans bounds.1, bounds.2⟩
  rw [isDecimal, UnicodeData.decimalDigit_ascii char (bounds.2.trans_lt (by decide)), dif_pos digit]
  rfl

/-- The age limit has two digits. -/
theorem detectAge_bounds {lowered : String} {age : ℤ}
    (detected : detectAge lowered = .ok (some age)) : 0 ≤ age ∧ age < 100 := by
  unfold detectAge at detected
  split at detected
  · next keywordText number found =>
      rcases Fallible.map_eq_ok_iff.mp detected with ⟨value, read, same⟩
      cases same
      rcases Pattern.matches_of_search found with ⟨-, text, -, -, matched⟩
      rcases Pattern.matches_sequence_iff.mp matched with
        ⟨_, _, _, _, keywordMatch, restMatch, -, groups⟩
      rcases Pattern.matches_sequence_iff.mp restMatch with
        ⟨_, _, _, _, gapMatch, numberMatch, -, rfl⟩
      rcases Pattern.matches_repeated_iff.mp gapMatch with ⟨-, -, rfl⟩
      rcases Pattern.matches_group_iff.mp numberMatch with ⟨_, digitsMatch, rfl⟩
      rcases Pattern.matches_sequence_iff.mp digitsMatch with
        ⟨_, _, _, _, firstMatch, secondMatch, rfl, rfl⟩
      rcases Pattern.matches_literal_iff.mp firstMatch with ⟨first, nonzero, rfl, rfl⟩
      rcases Pattern.matches_literal_iff.mp secondMatch with ⟨second, decimal, rfl, rfl⟩
      have captured : number = [first, second] := by
        have last := congrArg List.getLast? groups
        simpa using last
      subst captured
      have decimals : ∀ char ∈ (String.ofList [first, second]).toList,
          (UnicodeData.decimalDigit char).isSome := by
        intro char charMem
        rw [String.toList_ofList] at charMem
        rcases List.mem_cons.mp charMem with rfl | charMem
        · exact isDecimal_of_nonzero nonzero
        · rw [List.mem_singleton.mp charMem]
          exact decimal
      simpa using intOfText_of_decimals decimals read
  · exact absurd detected (by simp)

end Detection

def cefrToRank (level : String) : ℤ := cefrLevels.idxOf level + 1

def numberText (number : ℤ) : String := String.ofList (intText number)

def ageGroup (ageValue : ℤ) : NormalizedRuleGroup where
  code := "age_requirement"
  name := "Age Requirement"
  description := "Extracted age-related threshold from official source."
  priority := 20
  matchOperator := .all
  conditions := [{
    fieldKey := "idade"
    operator := .lte
    valueJson := intJson ageValue
    conditionOrder := 1
    isRequired := true }]
  outcomes := [{
    scoreDelta := ⟨false, 15, 0⟩
    isBlocking := false
    explanationMessage := "Age requirement up to " ++ numberText ageValue ++ " years matched."
    outcomeCode := "AGE_OK" }, {
    scoreDelta := ⟨true, 20, 0⟩
    isBlocking := false
    explanationMessage := "Age above " ++ numberText ageValue ++ " years may reduce eligibility."
    outcomeCode := "AGE_RISK" }]

def incomeGroup (minimumIncome : ℤ) : NormalizedRuleGroup where
  code := "income_requirement"
  name := "Minimum Income Requirement"
  description := "Detected minimum income threshold in source text."
  priority := 30
  matchOperator := .all
  conditions := [{
    fieldKey := "renda_atual"
    operator := .gte
    valueJson := intJson minimumIncome
    conditionOrder := 1
    isRequired := true }]
  outcomes := [{
    scoreDelta := ⟨false, 20, 0⟩
    isBlocking := false
    explanationMessage := "Income meets detected threshold (" ++ numberText minimumIncome ++ ")."
    outcomeCode := "INCOME_OK" }]

def languageGroup (languageLevel : String) : NormalizedRuleGroup where
  code := "language_requirement"
  name := "Language Requirement"
  description := "Detected language level requirement in source."
  priority := 40
  matchOperator := .all
  conditions := [{
    fieldKey := "idiomas_nivel.en"
    operator := .gte
    valueJson := intJson (cefrToRank languageLevel)
    conditionOrder := 1
    isRequired := false }]
  outcomes := [{
    scoreDelta := ⟨false, 15, 0⟩
    isBlocking := false
    explanationMessage := "English level >= " ++ languageLevel ++ " aligned with source."
    outcomeCode := "LANG_OK" }]

/-- The rule that keeps the payload valid when nothing else is found. -/
def baselineGroup (source : SourceRegistry) : NormalizedRuleGroup where
  code := "baseline_publication_guard"
  name := "Baseline guard for " ++ source.countryCode
  description := "Safety baseline while parser confidence is evolving."
  priority := 100
  matchOperator := .all
  conditions := [{
    fieldKey := "escolaridade_rank"
    operator := .gte
    valueJson := intJson 0
    conditionOrder := 1
    isRequired := true }]
  outcomes := [{
    scoreDelta := ⟨false, 5, 0⟩
    isBlocking := false
    explanationMessage := "Baseline rule extracted deterministically."
    outcomeCode := "BASELINE" }]

variable [UnicodeData]

/-- `_build_rule_groups`: the groups and the number of signals. -/
def buildRuleGroups (source : SourceRegistry) (text : String) :
    Except PyError (List NormalizedRuleGroup × ℕ) := do
  let lowered := UnicodeData.lower text
  let age ← detectAge lowered
  let income ← detectIncome text
  let signalled := age.toList.map ageGroup ++ income.toList.map incomeGroup ++
    (extractLanguageLevel lowered).toList.map languageGroup
  .ok (signalled ++ [baselineGroup source], signalled.length)

end ImigrAI.Ingestion
