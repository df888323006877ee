import ImigrAI.Ingestion.Models
import ImigrAI.Python.Columns
import ImigrAI.Python.Decimal
import ImigrAI.Python.Value
import Mathlib.Tactic.MkIffOfInductiveProp

/-!
# The rules database

Countries, programs, program versions and their rule groups, and the documents they were
published from, with the constraints that the models declare. A transaction works on the
tables and a flush checks the constraints, so a `Database` always meets them. Conditions and
outcomes stand in the group they belong to.
-/

namespace ImigrAI.ImmigrationRules

open Python

inductive ProgramVersionStatus where
  | draft
  | active
  | archived
deriving DecidableEq

inductive RuleOperator where
  | eq
  | ne
  | gt
  | gte
  | lt
  | lte
  | between
  | in_
  | notIn
  | exists_
deriving DecidableEq

def RuleOperator.value : RuleOperator → String
  | .eq => "eq"
  | .ne => "ne"
  | .gt => "gt"
  | .gte => "gte"
  | .lt => "lt"
  | .lte => "lte"
  | .between => "between"
  | .in_ => "in"
  | .notIn => "not_in"
  | .exists_ => "exists"

inductive RuleGroupMatchOperator where
  | all
  | any
deriving DecidableEq

def RuleGroupMatchOperator.value : RuleGroupMatchOperator → String
  | .all => "all"
  | .any => "any"

structure Country where
  id : UUID
  code : String
  name : String

structure ImmigrationProgram where
  id : UUID
  countryId : UUID
  code : String
  name : String
  description : Option String
  isActive : Bool

structure ProgramVersion where
  id : UUID
  programId : UUID
  version : String
  status : ProgramVersionStatus
  effectiveFrom : Instant
  effectiveTo : Option Instant
  createdAt : Instant
deriving DecidableEq

structure RuleCondition where
  id : UUID
  fieldKey : String
  operator : RuleOperator
  valueJson : Json
  conditionOrder : ℤ
  isRequired : Bool

structure RuleOutcome where
  id : UUID
  scoreDelta : Decimal
  isBlocking : Bool
  explanationMessage : String
  outcomeCode : Option String

structure RuleGroup where
  id : UUID
  programVersionId : UUID
  code : String
  name : String
  description : Option String
  priority : ℤ
  matchOperator : RuleGroupMatchOperator
  isActive : Bool
  conditions : List RuleCondition
  outcomes : List RuleOutcome

structure Tables where
  countries : List Country
  programs : List ImmigrationProgram
  versions : List ProgramVersion
  ruleGroups : List RuleGroup
  sourceDocuments : List Ingestion.SourceDocument
  sourceExtractions : List Ingestion.SourceExtraction

/-- The constraints on countries, programs and versions. -/
@[mk_iff]
structure CatalogueConsistent (tables : Tables) : Prop where
  countryIds : (tables.countries.map (·.id)).Nodup
  countryCodes : (tables.countries.map (·.code)).Nodup
  programIds : (tables.programs.map (·.id)).Nodup
  programCodes : (tables.programs.map fun program => (program.countryId, program.code)).Nodup
  programCountries : ∀ program ∈ tables.programs,
    program.countryId ∈ tables.countries.map (·.id)
  versionIds : (tables.versions.map (·.id)).Nodup
  versionLabels : (tables.versions.map fun version => (version.programId, version.version)).Nodup
  versionPrograms : ∀ version ∈ tables.versions, version.programId ∈ tables.programs.map (·.id)
  effectiveRanges : ∀ version ∈ tables.versions,
    EndsAfter version.effectiveFrom version.effectiveTo

/-- The constraints on rule groups with their conditions and outcomes. -/
@[mk_iff]
structure RulesConsistent (tables : Tables) : Prop where
  groupIds : (tables.ruleGroups.map (·.id)).Nodup
  groupCodes : (tables.ruleGroups.map fun group => (group.programVersionId, group.code)).Nodup
  groupVersions : ∀ group ∈ tables.ruleGroups,
    group.programVersionId ∈ tables.versions.map (·.id)
  conditionIds : (tables.ruleGroups.flatMap fun group => group.conditions.map (·.id)).Nodup
  outcomeIds : (tables.ruleGroups.flatMap fun group => group.outcomes.map (·.id)).Nodup

/-- The constraints on source documents and extractions. -/
@[mk_iff]
structure DocumentsConsistent (tables : Tables) : Prop where
  documentIds : (tables.sourceDocuments.map (·.id)).Nodup
  documentUrls : (tables.sourceDocuments.filterMap fun document =>
    nonNull (document.programVersionId, document.sourceUrl)).Nodup
  documentVersions : ∀ document ∈ tables.sourceDocuments,
    Refers (tables.versions.map (·.id)) document.programVersionId
  extractionIds : (tables.sourceExtractions.map (·.id)).Nodup
  extractionVersions : (tables.sourceExtractions.map fun extraction =>
    (extraction.sourceDocumentId, extraction.extractionVersion)).Nodup
  extractionDocuments : ∀ extraction ∈ tables.sourceExtractions,
    extraction.sourceDocumentId ∈ tables.sourceDocuments.map (·.id)

instance (tables : Tables) : Decidable (CatalogueConsistent tables) :=
  decidable_of_iff' _ (catalogueConsistent_iff tables)

instance (tables : Tables) : Decidable (RulesConsistent tables) :=
  decidable_of_iff' _ (rulesConsistent_iff tables)

instance (tables : Tables) : Decidable (DocumentsConsistent tables) :=
  decidable_of_iff' _ (documentsConsistent_iff tables)

/-- The declared constraints: primary and foreign keys, unique constraints, and the check of
the effective range. -/
@[mk_iff]
structure Consistent (tables : Tables) : Prop where
  catalogue : CatalogueConsistent tables
  rules : RulesConsistent tables
  documents : DocumentsConsistent tables

instance (tables : Tables) : Decidable (Consistent tables) :=
  decidable_of_iff' _ (consistent_iff tables)

/-- Versions with the ids and the labels of the stored ones and with periods of their own. -/
theorem consistent_of_versions {tables : Tables} (consistent : Consistent tables)
    {versions : List ProgramVersion}
    (ids : versions.map (·.id) = tables.versions.map (·.id))
    (labels : versions.map (fun version => (version.programId, version.version)) =
      tables.versions.map fun version => (version.programId, version.version))
    (ranges : ∀ version ∈ versions, EndsAfter version.effectiveFrom version.effectiveTo) :
    Consistent { tables with versions := versions } := by
  constructor
  · refine { consistent.catalogue with
      versionIds := ?_, versionLabels := ?_, versionPrograms := ?_, effectiveRanges := ranges }
    · rw [ids]
      exact consistent.catalogue.versionIds
    · rw [labels]
      exact consistent.catalogue.versionLabels
    · intro version versionMem
      have label : (version.programId, version.version) ∈
          versions.map fun version => (version.programId, version.version) :=
        List.mem_map_of_mem versionMem
      rw [labels] at label
      rcases List.mem_map.mp label with ⟨old, oldMem, same⟩
      rw [← (Prod.mk.inj same).1]
      exact consistent.catalogue.versionPrograms old oldMem
  · have groups := consistent.rules.groupVersions
    rw [← ids] at groups
    exact { consistent.rules with groupVersions := groups }
  · have documents := consistent.documents.documentVersions
    rw [← ids] at documents
    exact { consistent.documents with documentVersions := documents }

/-- Tables that meet their constraints. -/
structure Database extends Tables where
  consistent : Consistent toTables

/-- What a service raises instead of returning. -/
inductive ServiceError where
  | http (statusCode : ℕ) (detail : String)
  | integrityError
  | dataError
  | multipleResultsFound
  | argumentError
  | typeError
  | missingGreenlet
deriving DecidableEq

/-- Sending the pending changes of a session, which checks the constraints. -/
def flush (tables : Tables) : Except ServiceError Database :=
  if consistent : Consistent tables then .ok ⟨tables, consistent⟩ else .error .integrityError

theorem flush_eq_ok_iff {tables : Tables} {db : Database} :
    flush tables = .ok db ↔ db.toTables = tables := by
  unfold flush
  split_ifs with consistent
  · rw [Except.ok.injEq]
    constructor
    · rintro rfl
      rfl
    · rintro rfl
      rfl
  · simp only [false_iff]
    rintro rfl
    exact consistent db.consistent

/-- `result.scalar_one_or_none()`. -/
def scalarOneOrNone {Row : Type} : List Row → Except ServiceError (Option Row)
  | [] => .ok none
  | [row] => .ok (some row)
  | _ :: _ :: _ => .error .multipleResultsFound

theorem scalarOneOrNone_eq_some {Row : Type} {rows : List Row} {row : Row} :
    scalarOneOrNone rows = .ok (some row) ↔ rows = [row] := by
  match rows with
  | [] => simp [scalarOneOrNone]
  | [other] => simp [scalarOneOrNone]
  | _ :: _ :: _ => simp [scalarOneOrNone]

theorem scalarOneOrNone_eq_none {Row : Type} {rows : List Row} :
    scalarOneOrNone rows = .ok none ↔ rows = [] := by
  match rows with
  | [] => simp [scalarOneOrNone]
  | [other] => simp [scalarOneOrNone]
  | _ :: _ :: _ => simp [scalarOneOrNone]

theorem eq_of_scalarOneOrNone_eq_error {Row : Type} {rows : List Row} {error : ServiceError}
    (raises : scalarOneOrNone rows = .error error) : error = .multipleResultsFound := by
  match rows with
  | [] => cases raises
  | [row] => cases raises
  | _ :: _ :: _ => exact (Except.error.inj raises).symm

section Queries

variable {Row : Type} {rows : List Row} {selects : Row → Prop} [DecidablePred selects]

/-- The row that a query has found, the only one that it selects. -/
theorem scalarOneOrNone_filter_eq_some {row : Row}
    (found : scalarOneOrNone (rows.filter fun row => selects row) = .ok (some row)) :
    row ∈ rows ∧ selects row ∧ ∀ other ∈ rows, selects other → other = row := by
  have only := scalarOneOrNone_eq_some.mp found
  have selected (other : Row) : other ∈ rows ∧ selects other ↔ other = row := by
    rw [← List.mem_singleton, ← only, List.mem_filter, decide_eq_true_eq]
  rcases (selected row).mpr rfl with ⟨rowMem, rowSelected⟩
  exact ⟨rowMem, rowSelected, fun other otherMem others => (selected other).mp ⟨otherMem, others⟩⟩

theorem scalarOneOrNone_filter_eq_none :
    scalarOneOrNone (rows.filter fun row => selects row) = .ok none ↔
      ∀ row ∈ rows, ¬ selects row := by
  rw [scalarOneOrNone_eq_none, List.filter_eq_nil_iff]
  simp only [decide_eq_true_eq]

/-- A row is found under its key. -/
theorem scalarOneOrNone_filter_key {Key : Type} [DecidableEq Key] {key : Row → Key}
    (distinct : (rows.map key).Nodup) {row : Row} (mem : row ∈ rows) :
    scalarOneOrNone (rows.filter fun other => key other = key row) = .ok (some row) := by
  rw [scalarOneOrNone_eq_some, ← List.perm_singleton]
  apply (List.perm_ext_iff_of_nodup (distinct.of_map.filter _) (List.nodup_singleton row)).mpr
  intro other
  rw [List.mem_filter, decide_eq_true_eq, List.mem_singleton]
  constructor
  · rintro ⟨otherMem, same⟩
    exact List.inj_on_of_nodup_map distinct otherMem mem same
  · rintro rfl
    exact ⟨mem, rfl⟩

/-- A query finds one row or none exactly if it selects no two different rows. -/
theorem scalarOneOrNone_filter_isOk_iff (distinct : rows.Nodup) :
    (∃ found, scalarOneOrNone (rows.filter fun row => selects row) = .ok found) ↔
      ∀ first ∈ rows, ∀ second ∈ rows, selects first → selects second → first = second := by
  constructor
  · rintro ⟨_ | found, query⟩ first firstMem second secondMem firstSelected secondSelected
    · exact absurd firstSelected (scalarOneOrNone_filter_eq_none.mp query first firstMem)
    · have only := (scalarOneOrNone_filter_eq_some query).2.2
      exact (only first firstMem firstSelected).trans (only second secondMem secondSelected).symm
  · intro same
    have kept := distinct.filter fun row => decide (selects row)
    have selected (row : Row) : row ∈ rows.filter (fun row => selects row) →
        row ∈ rows ∧ selects row := by
      simp
    match found : rows.filter fun row => selects row with
    | [] => exact ⟨none, rfl⟩
    | [row] => exact ⟨some row, rfl⟩
    | first :: second :: rest =>
        rw [found] at kept selected
        rcases selected first (by simp) with ⟨firstMem, firstSelected⟩
        rcases selected second (by simp) with ⟨secondMem, secondSelected⟩
        have equal := same first firstMem second secondMem firstSelected secondSelected
        simp [equal] at kept

end Queries

end ImigrAI.ImmigrationRules
