import ImigrAI.Foundations.PartialUpdates
import ImigrAI.ImmigrationRules.Creation
import ImigrAI.ImmigrationRules.ForcedActivation
import ImigrAI.Ingestion.Schemas

/-!
# Updating rows of the catalogue

The six updating calls of `ImmigrationRulesService` and the activation of a version. A payload
says of each field whether it was set, and to what. The rows are sent with the commit, or with
the query that looks for an overlap, and only what the commit raises is turned into a conflict.
What a column makes of a value is left to the database.
-/

namespace ImigrAI.ImmigrationRules.Updates

open Python Fallible PartialUpdates Rows Sorting Statements

/-- What the driver and the database keep of a value, if they take it, and what the database asks
of the versions besides the constraints of the models. An attribute that is set to an equal of
what was loaded is not sent, so for some types the loaded value counts. -/
class Backend where
  integer : ℤ → Option ℤ
  text : String → Option String
  string (limit : ℕ) : String → Option String
  numeric (loaded : Decimal) : Decimal → Option Decimal
  json (loaded : Json) : Json → Option Json
  timestamp : Ingestion.Datetime → Option Instant
  VersionsAllowed : List ProgramVersion → Prop
  decideVersions : DecidablePred VersionsAllowed

/-- The tables with all columns of the countries. -/
structure CatalogueRows where
  countries : List CountryRow
  programs : List ImmigrationProgram
  versions : List ProgramVersion
  ruleGroups : List RuleGroup
  sourceDocuments : List Ingestion.SourceDocument
  sourceExtractions : List Ingestion.SourceExtraction

namespace CatalogueRows

def tables (rows : CatalogueRows) : Tables where
  countries := rows.countries.map (·.toCountry)
  programs := rows.programs
  versions := rows.versions
  ruleGroups := rows.ruleGroups
  sourceDocuments := rows.sourceDocuments
  sourceExtractions := rows.sourceExtractions

def withCountry (rows : CatalogueRows) (country : CountryRow) : CatalogueRows :=
  { rows with countries := replaceRow (·.id) country rows.countries }

def withProgram (rows : CatalogueRows) (program : ImmigrationProgram) : CatalogueRows :=
  { rows with programs := replaceRow (·.id) program rows.programs }

def withVersion (rows : CatalogueRows) (version : ProgramVersion) : CatalogueRows :=
  { rows with versions := replaceRow (·.id) version rows.versions }

def withRuleGroup (rows : CatalogueRows) (group : RuleGroup) : CatalogueRows :=
  { rows with ruleGroups := replaceRow (·.id) group rows.ruleGroups }

def withRuleCondition (rows : CatalogueRows) (condition : RuleCondition) : CatalogueRows :=
  { rows with ruleGroups := rows.ruleGroups.map fun group =>
      { group with conditions := replaceRow (·.id) condition group.conditions } }

def withRuleOutcome (rows : CatalogueRows) (outcome : RuleOutcome) : CatalogueRows :=
  { rows with ruleGroups := rows.ruleGroups.map fun group =>
      { group with outcomes := replaceRow (·.id) outcome group.outcomes } }

end CatalogueRows

variable [Backend]

instance : DecidablePred Backend.VersionsAllowed := Backend.decideVersions

def Constraints (rows : CatalogueRows) : Prop :=
  Consistent rows.tables ∧ Backend.VersionsAllowed rows.versions

instance : DecidablePred Constraints := fun _ => inferInstanceAs (Decidable (_ ∧ _))

abbrev Store := {rows : CatalogueRows // Constraints rows}

def Store.database (store : Store) : Database := ⟨store.val.tables, store.property.1⟩

/-- The bounds on the length of a text, which null is free of. -/
def Within (least most : ℕ) (field : Option (Option String)) : Prop :=
  ∀ text, field = some (some text) → least ≤ text.length ∧ text.length ≤ most

structure CountryUpdate where
  name : Option (Option String)
  priorityRank : Option (Option ℤ)
  diasporaPopulationEstimate : Option (Option ℤ)
  prioritizationSourceUrl : Option (Option String)
  isActive : Option (Option Bool)
  nameLength : Within 2 120 name

structure ImmigrationProgramUpdate where
  name : Option (Option String)
  description : Option (Option String)
  isActive : Option (Option Bool)
  nameLength : Within 2 160 name

structure ProgramVersionUpdate where
  version : Option (Option String)
  status : Option (Option ProgramVersionStatus)
  effectiveFrom : Option (Option Ingestion.Datetime)
  effectiveTo : Option (Option Ingestion.Datetime)
  versionLength : Within 1 32 version

structure RuleGroupUpdate where
  name : Option (Option String)
  description : Option (Option String)
  priority : Option (Option ℤ)
  matchOperator : Option (Option RuleGroupMatchOperator)
  isActive : Option (Option Bool)
  nameLength : Within 2 160 name

structure RuleConditionUpdate where
  fieldKey : Option (Option String)
  operator : Option (Option RuleOperator)
  valueJson : Option (Option JsonObject)
  conditionOrder : Option (Option ℤ)
  isRequired : Option (Option Bool)
  fieldKeyLength : Within 1 120 fieldKey

structure RuleOutcomeUpdate where
  scoreDelta : Option (Option Decimal)
  isBlocking : Option (Option Bool)
  explanationMessage : Option (Option String)
  outcomeCode : Option (Option String)

/-- The database takes the values that are set. -/
def CountryUpdate.Fits (payload : CountryUpdate) : Prop :=
  Accepted (Backend.string 120) payload.name ∧ Accepted Backend.integer payload.priorityRank ∧
    Accepted Backend.integer payload.diasporaPopulationEstimate ∧
      Accepted Backend.text payload.prioritizationSourceUrl

/-- The country as it is to be stored, unless a null stands where none may. -/
def CountryUpdate.row? (payload : CountryUpdate) (row : CountryRow) : Option CountryRow := do
  some { row with
    name := ← assigned (Backend.string 120) payload.name (some row.name)
    priorityRank := assigned Backend.integer payload.priorityRank row.priorityRank
    diasporaPopulationEstimate :=
      assigned Backend.integer payload.diasporaPopulationEstimate row.diasporaPopulationEstimate
    prioritizationSourceUrl :=
      assigned Backend.text payload.prioritizationSourceUrl row.prioritizationSourceUrl
    isActive := ← assigned some payload.isActive (some row.isActive) }

def ImmigrationProgramUpdate.Fits (payload : ImmigrationProgramUpdate) : Prop :=
  Accepted (Backend.string 160) payload.name ∧ Accepted Backend.text payload.description

def ImmigrationProgramUpdate.row? (payload : ImmigrationProgramUpdate) (row : ImmigrationProgram) :
    Option ImmigrationProgram := do
  some { row with
    name := ← assigned (Backend.string 160) payload.name (some row.name)
    description := assigned Backend.text payload.description row.description
    isActive := ← assigned some payload.isActive (some row.isActive) }

def ProgramVersionUpdate.Fits (payload : ProgramVersionUpdate) : Prop :=
  Accepted (Backend.string 32) payload.version ∧
    Accepted Backend.timestamp payload.effectiveFrom ∧
      Accepted Backend.timestamp payload.effectiveTo

def ProgramVersionUpdate.row? (payload : ProgramVersionUpdate) (row : ProgramVersion) :
    Option ProgramVersion := do
  some { row with
    version := ← assigned (Backend.string 32) payload.version (some row.version)
    status := ← assigned some payload.status (some row.status)
    effectiveFrom := ← assigned Backend.timestamp payload.effectiveFrom (some row.effectiveFrom)
    effectiveTo := assigned Backend.timestamp payload.effectiveTo row.effectiveTo }

def RuleGroupUpdate.Fits (payload : RuleGroupUpdate) : Prop :=
  Accepted (Backend.string 160) payload.name ∧ Accepted Backend.text payload.description ∧
    Accepted Backend.integer payload.priority

def RuleGroupUpdate.row? (payload : RuleGroupUpdate) (row : RuleGroup) : Option RuleGroup := do
  some { row with
    name := ← assigned (Backend.string 160) payload.name (some row.name)
    description := assigned Backend.text payload.description row.description
    priority := ← assigned Backend.integer payload.priority (some row.priority)
    matchOperator := ← assigned some payload.matchOperator (some row.matchOperator)
    isActive := ← assigned some payload.isActive (some row.isActive) }

/-- The value that is sent: a column of JSON holds null as JSON. -/
def RuleConditionUpdate.sentJson (payload : RuleConditionUpdate) : Option (Option Json) :=
  payload.valueJson.map fun object => some (object.elim ⟨.none, trivial⟩ JsonObject.toJson)

def RuleConditionUpdate.Fits (payload : RuleConditionUpdate) (row : RuleCondition) : Prop :=
  Accepted (Backend.string 120) payload.fieldKey ∧
    Accepted (Backend.json row.valueJson) payload.sentJson ∧
      Accepted Backend.integer payload.conditionOrder

def RuleConditionUpdate.row? (payload : RuleConditionUpdate) (row : RuleCondition) :
    Option RuleCondition := do
  some { row with
    fieldKey := ← assigned (Backend.string 120) payload.fieldKey (some row.fieldKey)
    operator := ← assigned some payload.operator (some row.operator)
    valueJson := ← assigned (Backend.json row.valueJson) payload.sentJson (some row.valueJson)
    conditionOrder := ← assigned Backend.integer payload.conditionOrder (some row.conditionOrder)
    isRequired := ← assigned some payload.isRequired (some row.isRequired) }

def RuleOutcomeUpdate.Fits (payload : RuleOutcomeUpdate) (row : RuleOutcome) : Prop :=
  Accepted (Backend.numeric row.scoreDelta) payload.scoreDelta ∧
    Accepted Backend.text payload.explanationMessage ∧
      Accepted (Backend.string 64) payload.outcomeCode

def RuleOutcomeUpdate.row? (payload : RuleOutcomeUpdate) (row : RuleOutcome) :
    Option RuleOutcome := do
  some { row with
    scoreDelta := ← assigned (Backend.numeric row.scoreDelta) payload.scoreDelta
      (some row.scoreDelta)
    isBlocking := ← assigned some payload.isBlocking (some row.isBlocking)
    explanationMessage := ← assigned Backend.text payload.explanationMessage
      (some row.explanationMessage)
    outcomeCode := assigned (Backend.string 64) payload.outcomeCode row.outcomeCode }

instance (payload : CountryUpdate) : Decidable payload.Fits :=
  inferInstanceAs (Decidable (_ ∧ _ ∧ _ ∧ _))

instance (payload : ImmigrationProgramUpdate) : Decidable payload.Fits :=
  inferInstanceAs (Decidable (_ ∧ _))

instance (payload : ProgramVersionUpdate) : Decidable payload.Fits :=
  inferInstanceAs (Decidable (_ ∧ _ ∧ _))

instance (payload : RuleGroupUpdate) : Decidable payload.Fits :=
  inferInstanceAs (Decidable (_ ∧ _ ∧ _))

instance (payload : RuleConditionUpdate) (row : RuleCondition) : Decidable (payload.Fits row) :=
  inferInstanceAs (Decidable (_ ∧ _ ∧ _))

instance (payload : RuleOutcomeUpdate) (row : RuleOutcome) : Decidable (payload.Fits row) :=
  inferInstanceAs (Decidable (_ ∧ _ ∧ _))

/-- The UPDATE of one row: a value that is refused is found before a constraint is checked. -/
def sendUpdate {Row : Type} (fits : Prop) [Decidable fits] (row? : Option Row)
    (place : Row → CatalogueRows) : Except ServiceError (Row × Store) :=
  if fits then
    match row? with
    | none => .error .integrityError
    | some row => (ensure Constraints .integrityError (place row)).map fun stored => (row, stored)
  else .error .dataError

/-- `_commit_and_refresh`, from the flush that the commit starts with. -/
def commitAndRefresh {Flushed : Type} : Except ServiceError Flushed → Except ServiceError Flushed
  | .error .integrityError => .error (.http 409 "Integrity constraint violation")
  | flushed => flushed

/-- The shape of an updating call: the row is looked up, its attributes are set, and the change
is committed. -/
def updateEntity {Row : Type} (found : Except ServiceError (Option Row)) (detail : String)
    (sent : Row → Except ServiceError (Row × Store)) : Except ServiceError Store := do
  match ← found with
  | none => .error (.http 404 detail)
  | some row =>
      let (_, committed) ← commitAndRefresh (sent row)
      .ok committed

def findCountry (rows : CatalogueRows) (countryId : UUID) :
    Except ServiceError (Option CountryRow) :=
  scalarOneOrNone (rows.countries.filter fun country => country.id = countryId)

def getRuleCondition (rows : CatalogueRows) (conditionId : UUID) :
    Except ServiceError (Option RuleCondition) :=
  scalarOneOrNone ((rows.ruleGroups.flatMap (·.conditions)).filter fun condition =>
    condition.id = conditionId)

def getRuleOutcome (rows : CatalogueRows) (outcomeId : UUID) :
    Except ServiceError (Option RuleOutcome) :=
  scalarOneOrNone ((rows.ruleGroups.flatMap (·.outcomes)).filter fun outcome =>
    outcome.id = outcomeId)

def updateCountry (store : Store) (countryId : UUID) (payload : CountryUpdate) :
    Except ServiceError Store :=
  updateEntity (findCountry store.val countryId) "Country not found" fun country =>
    sendUpdate payload.Fits (payload.row? country) store.val.withCountry

def updateProgram (store : Store) (programId : UUID) (payload : ImmigrationProgramUpdate) :
    Except ServiceError Store :=
  updateEntity (getProgram store.val.tables programId) "Program not found" fun program =>
    sendUpdate payload.Fits (payload.row? program) store.val.withProgram

def updateRuleGroup (store : Store) (ruleGroupId : UUID) (payload : RuleGroupUpdate) :
    Except ServiceError Store :=
  updateEntity (getRuleGroup store.val.tables ruleGroupId) "Rule group not found" fun group =>
    sendUpdate payload.Fits (payload.row? group) store.val.withRuleGroup

def updateRuleCondition (store : Store) (conditionId : UUID) (payload : RuleConditionUpdate) :
    Except ServiceError Store :=
  updateEntity (getRuleCondition store.val conditionId) "Rule condition not found"
    fun condition =>
      sendUpdate (payload.Fits condition) (payload.row? condition) store.val.withRuleCondition

def updateRuleOutcome (store : Store) (outcomeId : UUID) (payload : RuleOutcomeUpdate) :
    Except ServiceError Store :=
  updateEntity (getRuleOutcome store.val outcomeId) "Rule outcome not found" fun outcome =>
    sendUpdate (payload.Fits outcome) (payload.row? outcome) store.val.withRuleOutcome

def updateProgramVersion (store : Store) (programVersionId : UUID)
    (payload : ProgramVersionUpdate) : Except ServiceError Store := do
  match ← getProgramVersion store.val.tables programVersionId with
  | none => .error programVersionNotFound
  | some row =>
  let sent := sendUpdate payload.Fits (payload.row? row) store.val.withVersion
  if payload.status.getD (some row.status) = some .active then
    if payload.effectiveFrom = some none then
      -- `>` with a null on its right is refused when the query is built.
      .error .argumentError
    else
    -- The query sends the update before it reads, outside of the handler of the commit.
    let (updated, flushed) ← sent
    match ← findActiveOverlap flushed.val.tables updated.programId (some updated.id)
      updated.effectiveFrom updated.effectiveTo with
    | some _ =>
        -- The rollback expires the overlapping row, whose label the message would load.
        .error .missingGreenlet
    | none => commitAndRefresh (.ok flushed)
  else
    let (_, committed) ← commitAndRefresh sent
    .ok committed

/-- The versions that the flush of an activation sends, in the order of their ids. -/
def sentVersions (archiving : Bool) (target : ProgramVersion) (store : Store) :
    List ProgramVersion :=
  sortBy (·.id) ((Exclusion.activationRows archiving target store.val.versions).filter
    fun row => row ∉ store.val.versions)

def activateProgramVersion (store : Store) (programVersionId : UUID)
    (payload : ProgramVersionActivateRequest) : Except ServiceError Store := do
  match ← getProgramVersion store.val.tables programVersionId with
  | none => .error programVersionNotFound
  | some target =>
  let overlap ← findActiveOverlap store.val.tables target.programId (some target.id)
    target.effectiveFrom target.effectiveTo
  if overlap.isSome ∧ ¬ payload.force then
    .error (.http 409 ("Activation would overlap with another active version. " ++
      "Set force=true to archive conflicting active versions first."))
  else
    commitAndRefresh (sendAll CatalogueRows.withVersion .integrityError store
      (sentVersions overlap.isSome target store))

inductive UpdateCall where
  | country (id : UUID) (payload : CountryUpdate)
  | program (id : UUID) (payload : ImmigrationProgramUpdate)
  | programVersion (id : UUID) (payload : ProgramVersionUpdate)
  | ruleGroup (id : UUID) (payload : RuleGroupUpdate)
  | ruleCondition (id : UUID) (payload : RuleConditionUpdate)
  | ruleOutcome (id : UUID) (payload : RuleOutcomeUpdate)
  | activation (id : UUID) (payload : ProgramVersionActivateRequest)

def UpdateCall.execute (store : Store) : UpdateCall → Except ServiceError Store
  | country id payload => updateCountry store id payload
  | program id payload => updateProgram store id payload
  | programVersion id payload => updateProgramVersion store id payload
  | ruleGroup id payload => updateRuleGroup store id payload
  | ruleCondition id payload => updateRuleCondition store id payload
  | ruleOutcome id payload => updateRuleOutcome store id payload
  | activation id payload => activateProgramVersion store id payload

/-- What is committed after the call. -/
def UpdateCall.committed (store : Store) (call : UpdateCall) : Store :=
  match call.execute store with
  | .ok updated => updated
  | .error _ => store

section Sending

variable {Row : Type} {place : Row → CatalogueRows} {fits : Prop} [Decidable fits]

theorem sendUpdate_refused {updated? : Option Row} (refused : ¬ fits) :
    sendUpdate fits updated? place = .error .dataError :=
  if_neg refused

/-- A null where none may stand. -/
theorem sendUpdate_null (isFit : fits) :
    sendUpdate fits none place = .error .integrityError :=
  if_pos isFit

theorem sendUpdate_row (isFit : fits) (updated : Row) :
    sendUpdate fits (some updated) place =
      (ensure Constraints .integrityError (place updated)).map fun stored => (updated, stored) :=
  if_pos isFit

end Sending

section Stored

variable {store : Store} {row : ProgramVersion} {payload : ProgramVersionUpdate}

/-- The payload with the values that are stored. -/
def ProgramVersionUpdate.stored (payload : ProgramVersionUpdate) :
    ImmigrationRules.ProgramVersionUpdate where
  version := payload.version.map (·.bind (Backend.string 32))
  status := payload.status
  effectiveFrom := payload.effectiveFrom.map (·.bind Backend.timestamp)
  effectiveTo := payload.effectiveTo.map (·.bind Backend.timestamp)

theorem row?_apply_stored (payload : ProgramVersionUpdate) (row : ProgramVersion) :
    Exclusion.row? (payload.stored.apply row) = payload.row? row := by
  have status : payload.status.getD (some row.status) =
      assigned some payload.status (some row.status) := by
    rcases payload.status with _ | _ | _ <;> rfl
  simp only [Exclusion.row?, ProgramVersionUpdate.row?, ImmigrationRules.ProgramVersionUpdate.apply,
    ProgramVersionUpdate.stored, getD_map_bind, status]

omit [Backend] in
theorem pendingFlush_eq (pending : PendingVersion) (tables : Tables) :
    pending.flush tables = match Exclusion.row? pending with
      | some row => flush (Exclusion.updateRow tables row)
      | none => .error .integrityError := by
  rcases pending with ⟨id, programId, version, status, effectiveFrom, effectiveTo, createdAt⟩
  cases version <;> cases status <;> cases effectiveFrom <;> rfl

omit [Backend] in
theorem columns_of_row? {pending : PendingVersion} {updated : ProgramVersion}
    (kept : Exclusion.row? pending = some updated) :
    updated.id = pending.id ∧ updated.programId = pending.programId ∧
      some updated.effectiveFrom = pending.effectiveFrom ∧
        updated.effectiveTo = pending.effectiveTo := by
  simp only [Exclusion.row?, Option.bind_eq_bind, Option.bind_eq_some_iff] at kept
  rcases kept with ⟨version, -, status, -, effectiveFrom, isStart, same⟩
  rcases Option.some.inj same with rfl
  exact ⟨rfl, rfl, isStart.symm, rfl⟩

/-- Where nothing more is asked of the versions, an UPDATE whose values fit is the one of the
database. -/
theorem map_database_sendUpdate (free : ∀ versions, Backend.VersionsAllowed versions)
    (fits : payload.Fits) :
    (sendUpdate payload.Fits (payload.row? row) store.val.withVersion).map
        (fun sent => sent.2.database) =
      (payload.stored.apply row).flush store.database.toTables := by
  rw [pendingFlush_eq, row?_apply_stored]
  cases payload.row? row with
  | none => rw [sendUpdate_null fits]; rfl
  | some updated =>
      rw [sendUpdate_row fits, ensure]
      dsimp only
      by_cases met : Consistent (store.val.withVersion updated).tables
      · have constraints : Constraints (store.val.withVersion updated) := ⟨met, free _⟩
        rw [dif_pos constraints]
        exact (flush_eq_ok_iff.mpr rfl).symm
      · rw [dif_neg fun constraints => met constraints.1]
        have refused : flush (Exclusion.updateRow store.database.toTables updated) =
            .error .integrityError := dif_neg met
        rw [refused]
        rfl

theorem row?_of_sendUpdate {updated : ProgramVersion} {flushed : Store} (fits : payload.Fits)
    (sent : sendUpdate payload.Fits (payload.row? row) store.val.withVersion =
      .ok (updated, flushed)) : payload.row? row = some updated := by
  cases kept : payload.row? row with
  | none =>
      rw [kept, sendUpdate_null fits] at sent
      cases sent
  | some other =>
      rw [kept, sendUpdate_row fits, map_eq_ok_iff] at sent
      rcases sent with ⟨stored, -, same⟩
      rw [(Prod.mk.inj same).1]

/-- An update of a version whose values fit commits what the update of the database without the
columns commits, and raises what it raises. -/
theorem map_database_updateProgramVersion (free : ∀ versions, Backend.VersionsAllowed versions)
    (fits : payload.Fits) (id : UUID) :
    (updateProgramVersion store id payload).map Store.database =
      ImmigrationRules.updateProgramVersion store.database id payload.stored := by
  rw [updateProgramVersion, ImmigrationRules.updateProgramVersion]
  change Except.map _ (getProgramVersion store.database.toTables id >>= _) = _
  cases getProgramVersion store.database.toTables id with
  | error error => rfl
  | ok found =>
      cases found with
      | none => rfl
      | some row =>
          have sending : (sendUpdate payload.Fits (payload.row? row) store.val.withVersion).map
              (fun sent => sent.2.database) =
                (payload.stored.apply row).flush store.database.toTables :=
            map_database_sendUpdate free fits
          simp only [bind, Except.bind]
          have start : (payload.stored.apply row).effectiveFrom =
              assigned Backend.timestamp payload.effectiveFrom (some row.effectiveFrom) :=
            getD_map_bind _ _ _
          by_cases active : payload.status.getD (some row.status) = some .active
          · rw [if_pos active, if_pos (show (payload.stored.apply row).status = _ from active)]
            by_cases null : payload.effectiveFrom = some none
            · rw [if_pos null, start, null]
              rfl
            · rcases Option.ne_none_iff_exists'.mp ((assigned_ne_none fits.2.1).mpr null) with
                ⟨effectiveFrom, isStart⟩
              rw [if_neg null, start, isStart, ← sending]
              cases sent : sendUpdate payload.Fits (payload.row? row) store.val.withVersion with
              | error error => rfl
              | ok sentRow =>
                  rcases sentRow with ⟨updated, flushed⟩
                  have kept := (row?_apply_stored payload row).trans (row?_of_sendUpdate fits sent)
                  rcases columns_of_row? kept with ⟨sameId, sameProgram, sameStart, sameEnd⟩
                  rw [start, isStart, Option.some.injEq] at sameStart
                  simp only [Except.map]
                  rw [← sameId, ← sameProgram, ← sameStart, ← sameEnd]
                  have sameTables : flushed.val.tables = flushed.database.toTables := rfl
                  rw [sameTables]
                  cases findActiveOverlap flushed.database.toTables updated.programId
                      (some updated.id) updated.effectiveFrom updated.effectiveTo with
                  | error error => rfl
                  | ok overlap => cases overlap <;> rfl
          · rw [if_neg active, if_neg (show (payload.stored.apply row).status ≠ _ from active),
              ← sending]
            cases sendUpdate payload.Fits (payload.row? row) store.val.withVersion with
            | error error => cases error <;> rfl
            | ok sent => rfl

end Stored

end ImigrAI.ImmigrationRules.Updates
