import ImigrAI.Foundations.UpsertScripts
import ImigrAI.ImmigrationRules.Models
import ImigrAI.Ingestion.Extraction

/-!
# The tables that are seeded

Countries, programs and their versions, rules, the source registry and source documents, each
row by itself and with all its columns. A seeder finds a row by the columns that identify it and
overwrites at most the columns listed here.
-/

namespace ImigrAI.Scripts

open Python ImmigrationRules Ingestion Upserts

inductive Table where
  | countries
  | programs
  | programVersions
  | ruleGroups
  | ruleConditions
  | ruleOutcomes
  | sourceRegistry
  | sourceDocuments
deriving DecidableEq

structure Country extends ImmigrationRules.Country where
  createdAt : Instant
  priorityRank : Option ℤ
  diasporaPopulationEstimate : Option ℤ
  prioritizationSourceUrl : Option String
  isActive : Bool

structure ImmigrationProgram extends ImmigrationRules.ImmigrationProgram where
  createdAt : Instant

structure RuleGroup where
  id : UUID
  createdAt : Instant
  programVersionId : UUID
  code : String
  name : String
  description : Option String
  priority : ℤ
  matchOperator : RuleGroupMatchOperator
  isActive : Bool

structure RuleCondition extends ImmigrationRules.RuleCondition where
  createdAt : Instant
  ruleGroupId : UUID

structure RuleOutcome extends ImmigrationRules.RuleOutcome where
  createdAt : Instant
  ruleGroupId : UUID

/-- The columns of a source that its registration names. -/
structure SourceFields where
  sourceKey : String
  countryCode : String
  countryName : String
  programCode : String
  programName : String
  sourceType : SourceType
  sourceUrl : String
  robotsUrl : Option String
  termsUrl : Option String
  scheduleCron : Option String
  parserName : String
  parserVersion : String
  confidenceThreshold : Decimal
  metadataJson : JsonObject

structure SourceRegistry extends SourceFields where
  id : UUID
  createdAt : Instant
  isActive : Bool
  quarantineUntil : Option Instant
  quarantineReason : Option String
  consecutiveFailures : ℤ

structure SourceDocument extends Ingestion.SourceDocument where
  createdAt : Instant
  metadataJson : JsonObject

abbrev Row : Table → Type
  | .countries => Country
  | .programs => ImmigrationProgram
  | .programVersions => ProgramVersion
  | .ruleGroups => RuleGroup
  | .ruleConditions => RuleCondition
  | .ruleOutcomes => RuleOutcome
  | .sourceRegistry => SourceRegistry
  | .sourceDocuments => SourceDocument

abbrev Key : Table → Type
  | .countries => String
  | .programs => UUID × String
  | .programVersions => UUID × String
  | .ruleGroups => UUID × String
  | .ruleConditions => UUID × String × RuleOperator × ℤ
  | .ruleOutcomes => UUID × Option String
  | .sourceRegistry => String
  | .sourceDocuments => Option UUID × String

structure CountryValues where
  name : String
  priorityRank : ℤ
  diasporaPopulationEstimate : ℤ
  prioritizationSourceUrl : String

structure ProgramValues where
  name : String
  description : String

structure DocumentValues where
  sourceId : UUID
  title : String
  metadataJson : JsonObject

/-- Rules are never overwritten. -/
abbrev Values : Table → Type
  | .countries => CountryValues
  | .programs => ProgramValues
  | .programVersions => Instant
  | .ruleGroups => Empty
  | .ruleConditions => Empty
  | .ruleOutcomes => Empty
  | .sourceRegistry => SourceFields
  | .sourceDocuments => DocumentValues

def rowId : {table : Table} → Row table → UUID
  | .countries, row => row.id
  | .programs, row => row.id
  | .programVersions, row => row.id
  | .ruleGroups, row => row.id
  | .ruleConditions, row => row.id
  | .ruleOutcomes, row => row.id
  | .sourceRegistry, row => row.id
  | .sourceDocuments, row => row.id

def rowKey : {table : Table} → Row table → Key table
  | .countries, row => row.code
  | .programs, row => (row.countryId, row.code)
  | .programVersions, row => (row.programId, row.version)
  | .ruleGroups, row => (row.programVersionId, row.code)
  | .ruleConditions, row => (row.ruleGroupId, row.fieldKey, row.operator, row.conditionOrder)
  | .ruleOutcomes, row => (row.ruleGroupId, row.outcomeCode)
  | .sourceRegistry, row => row.sourceKey
  | .sourceDocuments, row => (row.programVersionId, row.sourceUrl)

/-- What a seeder assigns to a row that it has found. -/
def assign : {table : Table} → Values table → Row table → Row table
  | .countries, values, row =>
      { row with
        name := values.name
        priorityRank := some values.priorityRank
        diasporaPopulationEstimate := some values.diasporaPopulationEstimate
        prioritizationSourceUrl := some values.prioritizationSourceUrl
        isActive := true }
  | .programs, values, row =>
      { row with name := values.name, description := some values.description, isActive := true }
  | .programVersions, effectiveFrom, row => { row with effectiveFrom }
  | .sourceRegistry, values, row =>
      -- The row has been found by the source key of the values.
      { row with
        toSourceFields := { values with sourceKey := row.sourceKey }
        isActive := true }
  | .sourceDocuments, values, row =>
      { row with
        sourceId := some values.sourceId
        title := values.title
        metadataJson := values.metadataJson }

/-- The declared types of the columns, as far as the database enforces them. -/
class ColumnTypes where
  accept : {table : Table} → Row table → Bool

/-- The foreign keys of a row and the check of the effective range. The items of an ingestion
run are not seeded. -/
def RowConsistent (ids : Table → List UUID) : {table : Table} → Row table → Prop
  | .countries, _ | .sourceRegistry, _ => True
  | .programs, row => row.countryId ∈ ids .countries
  | .programVersions, row =>
      row.programId ∈ ids .programs ∧ EndsAfter row.effectiveFrom row.effectiveTo
  | .ruleGroups, row => row.programVersionId ∈ ids .programVersions
  | .ruleConditions, row => row.ruleGroupId ∈ ids .ruleGroups
  | .ruleOutcomes, row => row.ruleGroupId ∈ ids .ruleGroups
  | .sourceDocuments, row =>
      Refers (ids .sourceRegistry) row.sourceId ∧ Refers (ids .programVersions) row.programVersionId

instance (ids : Table → List UUID) :
    {table : Table} → (row : Row table) → Decidable (RowConsistent ids row)
  | .countries, _ => inferInstanceAs (Decidable True)
  | .programs, row => inferInstanceAs (Decidable (row.countryId ∈ ids .countries))
  | .programVersions, row =>
      inferInstanceAs (Decidable
        (row.programId ∈ ids .programs ∧ EndsAfter row.effectiveFrom row.effectiveTo))
  | .ruleGroups, row => inferInstanceAs (Decidable (row.programVersionId ∈ ids .programVersions))
  | .ruleConditions, row => inferInstanceAs (Decidable (row.ruleGroupId ∈ ids .ruleGroups))
  | .ruleOutcomes, row => inferInstanceAs (Decidable (row.ruleGroupId ∈ ids .ruleGroups))
  | .sourceRegistry, _ => inferInstanceAs (Decidable True)
  | .sourceDocuments, row =>
      inferInstanceAs (Decidable (Refers (ids .sourceRegistry) row.sourceId ∧
        Refers (ids .programVersions) row.programVersionId))

instance decidableEqKey : (table : Table) → DecidableEq (Key table)
  | .countries => inferInstanceAs (DecidableEq String)
  | .programs => inferInstanceAs (DecidableEq (UUID × String))
  | .programVersions => inferInstanceAs (DecidableEq (UUID × String))
  | .ruleGroups => inferInstanceAs (DecidableEq (UUID × String))
  | .ruleConditions => inferInstanceAs (DecidableEq (UUID × String × RuleOperator × ℤ))
  | .ruleOutcomes => inferInstanceAs (DecidableEq (UUID × Option String))
  | .sourceRegistry => inferInstanceAs (DecidableEq String)
  | .sourceDocuments => inferInstanceAs (DecidableEq (Option UUID × String))

theorem refers_mono {ids more : List UUID} (subset : ids ⊆ more) {id : Option UUID}
    (refers : Refers ids id) : Refers more id := by
  cases id with
  | none => trivial
  | some id => exact subset refers

theorem rowConsistent_mono {ids more : Table → List UUID}
    (subset : ∀ table, ids table ⊆ more table) {table : Table} {row : Row table}
    (consistent : RowConsistent ids row) : RowConsistent more row := by
  cases table with
  | countries => trivial
  | programs => exact subset _ consistent
  | programVersions => exact ⟨subset _ consistent.1, consistent.2⟩
  | ruleGroups => exact subset _ consistent
  | ruleConditions => exact subset _ consistent
  | ruleOutcomes => exact subset _ consistent
  | sourceRegistry => trivial
  | sourceDocuments =>
      exact ⟨refers_mono (subset _) consistent.1, refers_mono (subset _) consistent.2⟩

theorem rowId_assign {table : Table} (values : Values table) (row : Row table) :
    rowId (assign values row) = rowId row := by
  cases table with
  | ruleGroups | ruleConditions | ruleOutcomes => exact values.elim
  | _ => rfl

theorem rowKey_assign {table : Table} (values : Values table) (row : Row table) :
    rowKey (assign values row) = rowKey row := by
  cases table with
  | ruleGroups | ruleConditions | ruleOutcomes => exact values.elim
  | _ => rfl

theorem assign_assign {table : Table} (later earlier : Values table) (row : Row table) :
    assign later (assign earlier row) = assign later row := by
  cases table with
  | ruleGroups | ruleConditions | ruleOutcomes => exact later.elim
  | _ => rfl

/-- What a seeder raises. -/
inductive SeedError where
  | integrityError
  | validationError
deriving DecidableEq

/-- A new row gets a UUID and the time. -/
structure NewRow where
  id : UUID
  createdAt : Instant

/-- The seeded tables with their finds, updates and constraints. -/
abbrev schema [ColumnTypes] : Schema where
  Table := Table
  Row := Row
  Key := Key
  Values := Values
  Id := UUID
  Fresh := NewRow
  Error := SeedError
  id := rowId
  key := rowKey
  write := assign
  Fits ids _ row := ColumnTypes.accept row ∧ RowConsistent ids row
  violation := .integrityError
  decTable := inferInstance
  decId := inferInstance
  decKey := decidableEqKey
  decFits _ _ _ := inferInstance
  id_write := rowId_assign
  key_write := rowKey_assign
  write_write := assign_assign
  fits_mono subset _ _ fits := ⟨fits.1, rowConsistent_mono subset fits.2⟩

end ImigrAI.Scripts
