import ImigrAI.Assessments.Profile
import ImigrAI.Foundations.Sorting
import ImigrAI.Python.Datetime
import ImigrAI.Python.Decimal
import ImigrAI.Python.Uuid
import Mathlib.Algebra.BigOperators.Group.List.Basic

/-!
# The score engine

`ScoreEngine.evaluate` with its passes: the conditions of a group, the blocking pass, the
scoring pass, the normalisation of the score and the hash of the rules. Scores are rationals,
as decimal arithmetic is taken as exact; the score deltas of the rules keep their decimal
form, which the hash shows.
-/

namespace ImigrAI.Assessments

open Python Sorting

structure RuleConditionInput where
  id : UUID
  fieldKey : String
  operator : String
  valueJson : Json
  conditionOrder : ℤ
  isRequired : Bool

structure RuleOutcomeInput where
  id : UUID
  scoreDelta : Decimal
  isBlocking : Bool
  explanationMessage : String
  outcomeCode : Option String
deriving DecidableEq

structure RuleGroupInput where
  id : UUID
  code : String
  name : String
  priority : ℤ
  matchOperator : String
  conditions : List RuleConditionInput
  outcomes : List RuleOutcomeInput

structure ProgramVersionInput where
  id : UUID
  version : String
  effectiveFrom : Instant
  effectiveTo : Option Instant

/-- One entry of `condition_checks`. -/
structure ConditionCheck where
  ruleConditionId : String
  fieldKey : String
  operator : String
  expected : Json
  actual : Value
  matched : Bool

structure ScoreBreakdownItem where
  ruleGroupId : UUID
  ruleGroupCode : String
  ruleConditionId : Option UUID
  ruleOutcomeId : UUID
  applied : Bool
  scoreDelta : ℚ
  isBlocking : Bool
  explanationMessage : String
  conditionChecks : List ConditionCheck

structure ScoreComputationResult where
  algorithmVersion : String
  rulesVersionHash : String
  scoreFinal : ℚ
  rawScore : ℚ
  faixa : String
  isBlocked : Bool
  isEligible : Bool
  fatoresPositivos : List String
  gapsCriticos : List String
  breakdown : List ScoreBreakdownItem

def algorithmVersion : String := "score-engine-v1"

/-- The loop of `_resolve_field` over the tokens of the path. -/
def resolveTokens : Value → List String → Value
  | current, [] => current
  | .dict entries, token :: rest =>
      match Value.lookup token entries with
      | some next => resolveTokens next rest
      | none => .none
  | _, _ :: _ => .none

def resolveField (data : Dict) (path : String) : Value :=
  resolveTokens (.dict data) (Text.split '.' path)

section Conditions

variable [UnicodeData]

/-- `_compare_numeric`, with the comparison of its operator. -/
def compareNumeric (comparison : Numeric → Numeric → Bool) (actual expected : Value) :
    Except EngineError Bool :=
  match actual with
  | .none => .ok false
  | actual => do
      let actualNumber ← builtin actual.toFloat
      let expectedNumber ← builtin expected.toFloat
      .ok (comparison actualNumber.numeric expectedNumber.numeric)

def isBetween (actual expected : Value) : Except EngineError Bool :=
  match actual, expected with
  | .none, _ => .ok false
  | actual, .list [first, second] => do
      let lower ← builtin first.toFloat
      let upper ← builtin second.toFloat
      let actualNumber ← builtin actual.toFloat
      .ok (lower.numeric.le actualNumber.numeric && actualNumber.numeric.le upper.numeric)
  | _, _ => .error (.scoreEngineInput "between operator expects list with [min, max]")

def isIn (actual expected : Value) : Except EngineError Bool :=
  match expected with
  | .list items =>
      match actual with
      | .list actuals => .ok (actuals.any fun item => item.memberOf items)
      | actual => .ok (actual.memberOf items)
  | _ => .error (.scoreEngineInput "in operator expects list")

/-- What `exists` asks for: presence, unless the value is `false`. -/
def expectedPresence : Value → Bool
  | .bool expected => expected
  | _ => true

def isNone : Value → Bool
  | .none => true
  | _ => false

def evaluateCondition (operator : String) (actual expected : Value) : Except EngineError Bool :=
  if operator = "exists" then .ok ((!isNone actual) == expectedPresence expected)
  else if operator = "eq" then .ok (actual.pyEq expected)
  else if operator = "ne" then .ok (!actual.pyEq expected)
  else if operator = "gt" then
    compareNumeric (fun actual expected => expected.lt actual) actual expected
  else if operator = "gte" then
    compareNumeric (fun actual expected => expected.le actual) actual expected
  else if operator = "lt" then compareNumeric Numeric.lt actual expected
  else if operator = "lte" then compareNumeric Numeric.le actual expected
  else if operator = "between" then isBetween actual expected
  else if operator = "in" then isIn actual expected
  else if operator = "not_in" then (isIn actual expected).map fun found => !found
  else .error (.scoreEngineInput ("Unsupported operator: " ++ operator))

/-- The order in which conditions are evaluated and serialised. -/
def conditionKey (condition : RuleConditionInput) : ℤ ×ₗ String ×ₗ String :=
  toLex (condition.conditionOrder, toLex (condition.fieldKey, condition.id.str))

/-- One turn of the loop of `_evaluate_group_conditions`. -/
def checkCondition (profile : Dict) (condition : RuleConditionInput) :
    Except EngineError ConditionCheck := do
  let actual := resolveField profile condition.fieldKey
  let matched ← evaluateCondition condition.operator actual condition.valueJson.value
  .ok {
    ruleConditionId := condition.id.str
    fieldKey := condition.fieldKey
    operator := condition.operator
    expected := condition.valueJson
    actual := actual
    matched := matched }

/-- Whether a group applies, from the truth values of its conditions. -/
def groupApplies (matchOperator : String) (truthValues : List Bool) : Bool :=
  if truthValues.isEmpty then true
  else if matchOperator = "any" then truthValues.any id
  else truthValues.all id

def evaluateGroupConditions (group : RuleGroupInput) (profile : Dict) :
    Except EngineError (List ConditionCheck × Bool) := do
  let checks ← (sortBy conditionKey group.conditions).mapM (checkCondition profile)
  .ok (checks, groupApplies group.matchOperator (checks.map (·.matched)))

end Conditions

section Passes

variable [UnicodeData]

/-- The item of a blocking outcome of a group that applies. -/
def blockingItem (group : RuleGroupInput) (checks : List ConditionCheck)
    (outcome : RuleOutcomeInput) : ScoreBreakdownItem where
  ruleGroupId := group.id
  ruleGroupCode := group.code
  ruleConditionId := none
  ruleOutcomeId := outcome.id
  applied := true
  scoreDelta := quantize outcome.scoreDelta.toRat
  isBlocking := true
  explanationMessage := outcome.explanationMessage
  conditionChecks := checks

/-- The item of a non-blocking outcome. -/
def scoringItem (group : RuleGroupInput) (checks : List ConditionCheck) (applied : Bool)
    (outcome : RuleOutcomeInput) : ScoreBreakdownItem where
  ruleGroupId := group.id
  ruleGroupCode := group.code
  ruleConditionId := none
  ruleOutcomeId := outcome.id
  applied := applied
  scoreDelta := quantize (if applied then outcome.scoreDelta.toRat else 0)
  isBlocking := false
  explanationMessage := outcome.explanationMessage
  conditionChecks := checks

def blockingItemsOfGroup (profile : Dict) (group : RuleGroupInput) :
    Except EngineError (List ScoreBreakdownItem) := do
  let (checks, applies) ← evaluateGroupConditions group profile
  .ok (if applies then
    (group.outcomes.filter (·.isBlocking)).map (blockingItem group checks) else [])

def scoringItemsOfGroup (profile : Dict) (group : RuleGroupInput) :
    Except EngineError (List ScoreBreakdownItem) := do
  let (checks, applies) ← evaluateGroupConditions group profile
  .ok ((group.outcomes.filter (!·.isBlocking)).map (scoringItem group checks applies))

def evaluateBlockingPass (groups : List RuleGroupInput) (profile : Dict) :
    Except EngineError (List ScoreBreakdownItem) := do
  let items ← groups.mapM (blockingItemsOfGroup profile)
  .ok items.flatten

def evaluateScoringPass (groups : List RuleGroupInput) (profile : Dict) :
    Except EngineError (List ScoreBreakdownItem) := do
  let items ← groups.mapM (scoringItemsOfGroup profile)
  .ok items.flatten

end Passes

/-- The deltas of the non-blocking outcomes of all groups. -/
def nonBlockingDeltas (groups : List RuleGroupInput) : List ℚ :=
  groups.flatMap fun group =>
    (group.outcomes.filter (!·.isBlocking)).map fun outcome => outcome.scoreDelta.toRat

def minPossible (groups : List RuleGroupInput) : ℚ :=
  ((nonBlockingDeltas groups).map fun delta => min delta 0).sum

def maxPossible (groups : List RuleGroupInput) : ℚ :=
  ((nonBlockingDeltas groups).map fun delta => max delta 0).sum

def normalizeScore (rawScore : ℚ) (groups : List RuleGroupInput) : ℚ :=
  if maxPossible groups = minPossible groups then if 0 < rawScore then 100 else 0
  else
    let normalized :=
      (rawScore - minPossible groups) / (maxPossible groups - minPossible groups) * 100
    quantize (min (max normalized 0) 100)

/-- `_to_faixa`, and `_faixa` of the service. -/
def toFaixa (score : ℚ) : String :=
  if score < 40 then "baixo" else if score < 70 then "medio" else "alto"

def optionalText : Option String → Value
  | some text => .str text
  | none => .none

def conditionPayload (condition : RuleConditionInput) : Value :=
  .dict [("id", .str condition.id.str), ("field_key", .str condition.fieldKey),
    ("operator", .str condition.operator), ("value_json", condition.valueJson.value),
    ("condition_order", .int condition.conditionOrder),
    ("is_required", .bool condition.isRequired)]

def outcomePayload (outcome : RuleOutcomeInput) : Value :=
  .dict [("id", .str outcome.id.str), ("score_delta", .str outcome.scoreDelta.str),
    ("is_blocking", .bool outcome.isBlocking),
    ("explanation_message", .str outcome.explanationMessage),
    ("outcome_code", optionalText outcome.outcomeCode)]

/-- The order in which outcomes are serialised. -/
def outcomeKey (outcome : RuleOutcomeInput) : Bool ×ₗ String :=
  toLex (outcome.isBlocking, outcome.id.str)

def groupPayload (group : RuleGroupInput) : Value :=
  .dict [("id", .str group.id.str), ("code", .str group.code), ("priority", .int group.priority),
    ("match_operator", .str group.matchOperator),
    ("conditions", .list ((sortBy conditionKey group.conditions).map conditionPayload)),
    ("outcomes", .list ((sortBy outcomeKey group.outcomes).map outcomePayload))]

def versionPayload (version : ProgramVersionInput) : Value :=
  .dict [("id", .str version.id.str), ("version", .str version.version),
    ("effective_from", .str version.effectiveFrom.isoformat),
    ("effective_to", optionalText (version.effectiveTo.map Instant.isoformat))]

/-- The text that `compute_rules_version_hash` hashes. -/
def canonicalPayload (version : ProgramVersionInput) (groups : List RuleGroupInput) : String :=
  (Value.dict [("program_version", versionPayload version),
    ("rule_groups", .list (groups.map groupPayload))]).dumps

def computeRulesVersionHash [Hashlib] (version : ProgramVersionInput)
    (groups : List RuleGroupInput) : String :=
  Hashlib.sha256Hex (canonicalPayload version groups)

def groupKey (group : RuleGroupInput) : ℤ ×ₗ String ×ₗ String :=
  toLex (group.priority, toLex (group.code, group.id.str))

/-- The groups in the order in which the engine takes them. -/
def sortedGroups (groups : List RuleGroupInput) : List RuleGroupInput := sortBy groupKey groups

def blockedResult (rulesVersionHash : String) (blockingItems : List ScoreBreakdownItem) :
    ScoreComputationResult where
  algorithmVersion := algorithmVersion
  rulesVersionHash := rulesVersionHash
  scoreFinal := 0
  rawScore := 0
  faixa := "baixo"
  isBlocked := true
  isEligible := false
  fatoresPositivos := []
  gapsCriticos := blockingItems.map (·.explanationMessage)
  breakdown := blockingItems

def scoredResult (rulesVersionHash : String) (groups : List RuleGroupInput)
    (scoredItems : List ScoreBreakdownItem) : ScoreComputationResult :=
  let rawScore := (scoredItems.map (·.scoreDelta)).sum
  let normalizedScore := normalizeScore rawScore groups
  { algorithmVersion := algorithmVersion
    rulesVersionHash := rulesVersionHash
    scoreFinal := normalizedScore
    rawScore := quantize rawScore
    faixa := toFaixa normalizedScore
    isBlocked := false
    isEligible := 60 ≤ normalizedScore
    fatoresPositivos :=
      (scoredItems.filter fun item => 0 < item.scoreDelta).map (·.explanationMessage)
    gapsCriticos :=
      (scoredItems.filter fun item => item.scoreDelta < 0).map (·.explanationMessage)
    breakdown := scoredItems }

def evaluate [UnicodeData] [Hashlib] (profileSnapshot : Dict) (version : ProgramVersionInput)
    (ruleGroups : List RuleGroupInput) : Except EngineError ScoreComputationResult := do
  let profile ← normalizeProfile profileSnapshot
  let groups := sortedGroups ruleGroups
  let rulesVersionHash := computeRulesVersionHash version groups
  let blockingItems ← evaluateBlockingPass groups profile
  if blockingItems ≠ [] then .ok (blockedResult rulesVersionHash blockingItems)
  else
    let scoredItems ← evaluateScoringPass groups profile
    .ok (scoredResult rulesVersionHash groups scoredItems)

end ImigrAI.Assessments
