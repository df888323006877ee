import ImigrAI.Ingestion.Schemas
import ImigrAI.Scripts.SeedCatalog

/-!
# Seeding the rules

`seed_mvp_rules` writes the fixtures of some countries, each a country with a program and an
active version with its rules. It creates what is missing and changes nothing that is there.
-/

namespace ImigrAI.Scripts

open Python ImmigrationRules Ingestion Upserts

structure FixtureGroup where
  code : String
  name : String
  priority : ℤ
  matchOperator : RuleGroupMatchOperator
  conditions : List NormalizedRuleCondition
  outcomes : List NormalizedRuleOutcome

/-- A fixture with the instants and the enumerations that its texts stand for. -/
structure Fixture where
  countryCode : String
  countryName : String
  programCode : String
  programName : String
  version : String
  effectiveFrom : Instant
  effectiveTo : Option Instant
  ruleGroups : List FixtureGroup

variable [ColumnTypes]

def fixtureCountryUpsert (fixture : Fixture) : Upsert schema .countries where
  key := fixture.countryCode
  create new :=
    { new with
      code := fixture.countryCode
      name := fixture.countryName
      isActive := true
      priorityRank := none
      diasporaPopulationEstimate := none
      prioritizationSourceUrl := none }
  values := none
  key_create _ := rfl
  write_create _ _ := by simp

def fixtureProgramUpsert (fixture : Fixture) (countryId : UUID) : Upsert schema .programs where
  key := (countryId, fixture.programCode)
  create new :=
    { new with
      countryId
      code := fixture.programCode
      name := fixture.programName
      description := some ("Seed fixture for " ++ fixture.countryCode)
      isActive := true }
  values := none
  key_create _ := rfl
  write_create _ _ := by simp

def fixtureVersionUpsert (fixture : Fixture) (programId : UUID) :
    Upsert schema .programVersions where
  key := (programId, fixture.version)
  create new :=
    { new with
      programId
      version := fixture.version
      status := .active
      effectiveFrom := fixture.effectiveFrom
      effectiveTo := fixture.effectiveTo }
  values := none
  key_create _ := rfl
  write_create _ _ := by simp

def ruleGroupUpsert (versionId : UUID) (group : FixtureGroup) : Upsert schema .ruleGroups where
  key := (versionId, group.code)
  create new :=
    { new with
      programVersionId := versionId
      code := group.code
      name := group.name
      description := none
      priority := group.priority
      matchOperator := group.matchOperator
      isActive := true }
  values := none
  key_create _ := rfl
  write_create _ _ := by simp

def ruleConditionUpsert (groupId : UUID) (condition : NormalizedRuleCondition) :
    Upsert schema .ruleConditions where
  key := (groupId, condition.fieldKey, condition.operator, condition.conditionOrder)
  create new :=
    { new with
      ruleGroupId := groupId
      fieldKey := condition.fieldKey
      operator := condition.operator
      valueJson := condition.valueJson
      conditionOrder := condition.conditionOrder
      isRequired := condition.isRequired }
  values := none
  key_create _ := rfl
  write_create _ _ := by simp

def ruleOutcomeUpsert (groupId : UUID) (outcome : NormalizedRuleOutcome) :
    Upsert schema .ruleOutcomes where
  key := (groupId, outcome.outcomeCode)
  create new :=
    { new with
      ruleGroupId := groupId
      scoreDelta := outcome.scoreDelta
      isBlocking := outcome.isBlocking
      explanationMessage := outcome.explanationMessage
      outcomeCode := outcome.outcomeCode }
  values := none
  key_create _ := rfl
  write_create _ _ := by simp

def seedRuleGroup (versionId : UUID) (group : FixtureGroup) : Script schema Unit := do
  let groupId ← .upsertRow (ruleGroupUpsert versionId group)
  group.conditions.forM fun condition => do
    let _ ← .upsertRow (ruleConditionUpsert groupId condition)
  group.outcomes.forM fun outcome => do
    let _ ← .upsertRow (ruleOutcomeUpsert groupId outcome)

def seedFixtures (fixtures : List Fixture) : Script schema Unit :=
  fixtures.forM fun fixture => do
    let countryId ← .upsertRow (fixtureCountryUpsert fixture)
    let programId ← .upsertRow (fixtureProgramUpsert fixture countryId)
    let versionId ← .upsertRow (fixtureVersionUpsert fixture programId)
    fixture.ruleGroups.forM fun group => seedRuleGroup versionId group

variable [UnicodeData]

/-- The fixtures whose country code is among these, in any case. -/
def selectedFixtures (fixtures : List (String × Fixture)) (countryCodes : List String) :
    List Fixture :=
  (fixtures.filter fun fixture =>
    UnicodeData.upper fixture.1 ∈ countryCodes.map UnicodeData.upper).map (·.2)

def seedForCountries (fixtures : List (String × Fixture)) (countryCodes : List String) :
    Script schema Unit :=
  if countryCodes = [] then return
  else seedFixtures (selectedFixtures fixtures countryCodes)

end ImigrAI.Scripts
