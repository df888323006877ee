import ImigrAI.Assessments.Engine
import ImigrAI.ImmigrationRules.ActiveVersions

/-!
# The version that an assessment is computed with

`_compute_and_persist_assessment` looks up the version that is active now and was in force
when the assessment was requested. Between the request and the processing, versions may be
published and activated; the lookup still finds the version of the request exactly if none of
these archived it.
-/

namespace ImigrAI.Assessments

open Python ImmigrationRules Sorting Runs

def getActiveProgramVersion (tables : Tables) (programId : UUID) (requestedAt : Instant) :
    Option ProgramVersion :=
  (sortBy (fun version : ProgramVersion => OrderDual.toDual version.effectiveFrom)
    (tables.versions.filter fun version =>
      version.programId = programId ∧ version.status = .active ∧
        version.effectiveFrom ≤ requestedAt ∧ EndsAfter requestedAt version.effectiveTo)).head?

def ruleGroupKey (group : RuleGroup) : ℤ ×ₗ String := toLex (group.priority, group.code)

def listRuleGroups (tables : Tables) (programVersionId : UUID) : List RuleGroup :=
  sortBy ruleGroupKey
    (tables.ruleGroups.filter fun group => group.programVersionId = programVersionId)

def programVersionInput (version : ProgramVersion) : ProgramVersionInput where
  id := version.id
  version := version.version
  effectiveFrom := version.effectiveFrom
  effectiveTo := version.effectiveTo

def ruleConditionInput (condition : RuleCondition) : RuleConditionInput where
  id := condition.id
  fieldKey := condition.fieldKey
  operator := condition.operator.value
  valueJson := condition.valueJson
  conditionOrder := condition.conditionOrder
  isRequired := condition.isRequired

def ruleOutcomeInput (outcome : RuleOutcome) : RuleOutcomeInput where
  id := outcome.id
  -- The text of a decimal reads as the same decimal.
  scoreDelta := outcome.scoreDelta
  isBlocking := outcome.isBlocking
  explanationMessage := outcome.explanationMessage
  outcomeCode := outcome.outcomeCode

def ruleGroupInput (group : RuleGroup) : RuleGroupInput where
  id := group.id
  code := group.code
  name := group.name
  priority := group.priority
  matchOperator := group.matchOperator.value
  conditions := sortBy conditionKey (group.conditions.map ruleConditionInput)
  outcomes := group.outcomes.map ruleOutcomeInput

/-- What processing an assessment raises before it stores anything. -/
inductive ProcessingError where
  | valueError (message : String)
  | engine (error : EngineError)
deriving DecidableEq

/-- The columns of `Assessment` that its computation reads, with the profile of its snapshot. -/
structure RequestedAssessment where
  programId : UUID
  requestedAt : Instant
  profileSnapshot : Option Dict

variable [UnicodeData] [Hashlib]

/-- The part of the computation after the lookups: the version with its rule groups. -/
def evaluateVersion (version : ProgramVersion) (ruleGroups : List RuleGroup)
    (profileJson : Dict) : Except ProcessingError (UUID × ScoreComputationResult) :=
  if ruleGroups = [] then .error (.valueError "Program version has no rules configured")
  else
    match evaluate profileJson (programVersionInput version) (ruleGroups.map ruleGroupInput) with
    | .ok computation => .ok (version.id, computation)
    | .error error => .error (.engine error)

/-- `_compute_and_persist_assessment`, up to what it hands to `replace_assessment_result`. -/
def computeAssessment (tables : Tables) (assessment : RequestedAssessment) :
    Except ProcessingError (UUID × ScoreComputationResult) :=
  match assessment.profileSnapshot with
  | none => .error (.valueError "Assessment is missing profile snapshot")
  | some profileJson =>
      match getActiveProgramVersion tables assessment.programId assessment.requestedAt with
      | none => .error (.valueError "No active program version found for requested timestamp")
      | some version => evaluateVersion version (listRuleGroups tables version.id) profileJson

end ImigrAI.Assessments
