import ImigrAI.ImmigrationRules.ActiveVersions
import ImigrAI.Python.Text

/-!
# Creating rows of the catalogue

The six creating calls of `ImmigrationRulesService`. Each looks for what the row stands on and for
a row with its business key, makes the row by a method of the repository, and commits. The
methods that make rows are plain functions, and the service awaits them, so none of the calls
returns.
-/

namespace ImigrAI.ImmigrationRules

open Python Fallible Rows

structure CountryCreate where
  code : String
  name : String
  priorityRank : Option ℤ
  diasporaPopulationEstimate : Option ℤ
  prioritizationSourceUrl : Option String
  codeLength : code.length = 2
  nameLength : 2 ≤ name.length ∧ name.length ≤ 120

structure ImmigrationProgramCreate where
  countryId : UUID
  code : String
  name : String
  description : Option String
  codeLength : 2 ≤ code.length ∧ code.length ≤ 64
  nameLength : 2 ≤ name.length ∧ name.length ≤ 160

structure RuleGroupCreate where
  programVersionId : UUID
  code : String
  name : String
  description : Option String
  priority : ℤ
  matchOperator : RuleGroupMatchOperator
  codeLength : 1 ≤ code.length ∧ code.length ≤ 64
  nameLength : 2 ≤ name.length ∧ name.length ≤ 160

structure RuleConditionCreate where
  ruleGroupId : UUID
  fieldKey : String
  operator : RuleOperator
  valueJson : JsonObject
  conditionOrder : ℤ
  isRequired : Bool
  fieldKeyLength : 1 ≤ fieldKey.length ∧ fieldKey.length ≤ 120

structure RuleOutcomeCreate where
  ruleGroupId : UUID
  scoreDelta : Decimal
  isBlocking : Bool
  explanationMessage : String
  outcomeCode : Option String

/-- A country with the columns by which the catalogue is ordered and explained. -/
structure CountryRow extends Country where
  priorityRank : Option ℤ
  diasporaPopulationEstimate : Option ℤ
  prioritizationSourceUrl : Option String
  isActive : Bool

def CountryCreate.row [UnicodeData] (payload : CountryCreate) (id : UUID) : CountryRow where
  id := id
  code := UnicodeData.upper payload.code
  name := payload.name
  priorityRank := payload.priorityRank
  diasporaPopulationEstimate := payload.diasporaPopulationEstimate
  prioritizationSourceUrl := payload.prioritizationSourceUrl
  isActive := true

def ImmigrationProgramCreate.row (payload : ImmigrationProgramCreate) (id : UUID) :
    ImmigrationProgram where
  id := id
  countryId := payload.countryId
  code := payload.code
  name := payload.name
  description := payload.description
  isActive := true

def ProgramVersionCreate.row (payload : ProgramVersionCreate) (id : UUID) (createdAt : Instant) :
    ProgramVersion where
  id := id
  programId := payload.programId
  version := payload.version
  status := payload.status
  effectiveFrom := payload.effectiveFrom
  effectiveTo := payload.effectiveTo
  createdAt := createdAt

def RuleGroupCreate.row (payload : RuleGroupCreate) (id : UUID) : RuleGroup where
  id := id
  programVersionId := payload.programVersionId
  code := payload.code
  name := payload.name
  description := payload.description
  priority := payload.priority
  matchOperator := payload.matchOperator
  isActive := true
  conditions := []
  outcomes := []

def RuleConditionCreate.row (payload : RuleConditionCreate) (id : UUID) : RuleCondition where
  id := id
  fieldKey := payload.fieldKey
  operator := payload.operator
  valueJson := payload.valueJson.toJson
  conditionOrder := payload.conditionOrder
  isRequired := payload.isRequired

def RuleOutcomeCreate.row (payload : RuleOutcomeCreate) (id : UUID) : RuleOutcome where
  id := id
  scoreDelta := payload.scoreDelta
  isBlocking := payload.isBlocking
  explanationMessage := payload.explanationMessage
  outcomeCode := payload.outcomeCode

/-- The groups with a change made to the one with an id. -/
def updateGroup (ruleGroupId : UUID) (change : RuleGroup → RuleGroup) (ruleGroups : List RuleGroup) :
    List RuleGroup :=
  ruleGroups.map fun group => if group.id = ruleGroupId then change group else group

def getCountryByCode [UnicodeData] (tables : Tables) (code : String) :
    Except ServiceError (Option Country) :=
  scalarOneOrNone (tables.countries.filter fun country => country.code = UnicodeData.upper code)

def getCountry (tables : Tables) (countryId : UUID) : Except ServiceError (Option Country) :=
  scalarOneOrNone (tables.countries.filter fun country => country.id = countryId)

def getProgramByCountryCode (tables : Tables) (countryId : UUID) (code : String) :
    Except ServiceError (Option ImmigrationProgram) :=
  scalarOneOrNone (tables.programs.filter fun program =>
    program.countryId = countryId ∧ program.code = code)

def getRuleGroup (tables : Tables) (ruleGroupId : UUID) : Except ServiceError (Option RuleGroup) :=
  scalarOneOrNone (tables.ruleGroups.filter fun group => group.id = ruleGroupId)

/-- A row that is required and was not found. -/
def requireRow {Row : Type} (detail : String) : Option Row → Except ServiceError Unit
  | none => .error (.http 404 detail)
  | some _ => .ok ()

/-- A row that must not be there and was found. -/
def refuseRow {Row : Type} (detail : String) : Option Row → Except ServiceError Unit
  | none => .ok ()
  | some _ => .error (.http 409 detail)

/-- The shape of a creating call: the checks, the method of the repository that makes the row,
and the commit. It returns the row and the database that it has committed. -/
def createEntity {Row : Type} (checks : Except ServiceError Unit) (row : Row)
    (added : Row → Tables) : Except ServiceError (Row × Database) := do
  checks
  let entity ← awaitPlain row
  let committed ← commitAndRefresh (flush (added entity))
  return (entity, committed)

def createCountry [UnicodeData] (db : Database) (id : UUID) (payload : CountryCreate) :
    Except ServiceError (CountryRow × Database) :=
  createEntity (do
      refuseRow "Country code already exists" (← getCountryByCode db.toTables payload.code))
    (payload.row id)
    fun country => { db.toTables with countries := db.countries ++ [country.toCountry] }

def createProgram (db : Database) (id : UUID) (payload : ImmigrationProgramCreate) :
    Except ServiceError (ImmigrationProgram × Database) :=
  createEntity (do
      requireRow "Country not found" (← getCountry db.toTables payload.countryId)
      refuseRow "Program code already exists for this country"
        (← getProgramByCountryCode db.toTables payload.countryId payload.code))
    (payload.row id)
    fun program => { db.toTables with programs := db.programs ++ [program] }

def createRuleGroup (db : Database) (id : UUID) (payload : RuleGroupCreate) :
    Except ServiceError (RuleGroup × Database) :=
  createEntity (do
      requireRow "Program version not found"
        (← getProgramVersion db.toTables payload.programVersionId))
    (payload.row id)
    fun ruleGroup => { db.toTables with ruleGroups := db.ruleGroups ++ [ruleGroup] }

def createRuleCondition (db : Database) (id : UUID) (payload : RuleConditionCreate) :
    Except ServiceError (RuleCondition × Database) :=
  createEntity (do
      requireRow "Rule group not found" (← getRuleGroup db.toTables payload.ruleGroupId))
    (payload.row id)
    fun condition => { db.toTables with
      ruleGroups := updateGroup payload.ruleGroupId
        (fun group => { group with conditions := group.conditions ++ [condition] }) db.ruleGroups }

def createRuleOutcome (db : Database) (id : UUID) (payload : RuleOutcomeCreate) :
    Except ServiceError (RuleOutcome × Database) :=
  createEntity (do
      requireRow "Rule group not found" (← getRuleGroup db.toTables payload.ruleGroupId))
    (payload.row id)
    fun outcome => { db.toTables with
      ruleGroups := updateGroup payload.ruleGroupId
        (fun group => { group with outcomes := group.outcomes ++ [outcome] }) db.ruleGroups }

/-- A creating call with the id, and for a version the creation time, of the row it makes. -/
inductive CreateCall where
  | country (id : UUID) (payload : CountryCreate)
  | program (id : UUID) (payload : ImmigrationProgramCreate)
  | programVersion (id : UUID) (createdAt : Instant) (payload : ProgramVersionCreate)
  | ruleGroup (id : UUID) (payload : RuleGroupCreate)
  | ruleCondition (id : UUID) (payload : RuleConditionCreate)
  | ruleOutcome (id : UUID) (payload : RuleOutcomeCreate)

/-- The preconditions: what the row stands on exists, its business key is unused, and a version
that is created active overlaps no active version of its program. -/
def CreateCall.Ready [UnicodeData] (db : Database) : CreateCall → Prop
  | country _ payload => ∀ country ∈ db.countries, country.code ≠ UnicodeData.upper payload.code
  | program _ payload =>
      (∃ country ∈ db.countries, country.id = payload.countryId) ∧
        ∀ program ∈ db.programs,
          ¬ (program.countryId = payload.countryId ∧ program.code = payload.code)
  | programVersion id createdAt payload =>
      (∃ program ∈ db.programs, program.id = payload.programId) ∧
        (∀ version ∈ db.versions,
          ¬ (version.programId = payload.programId ∧ version.version = payload.version)) ∧
        (payload.status = .active → ∀ version ∈ db.versions,
          version.programId = payload.programId → version.status = .active →
            ¬ version.period.Meets (payload.row id createdAt).period)
  | ruleGroup _ payload =>
      (∃ version ∈ db.versions, version.id = payload.programVersionId) ∧
        ∀ group ∈ db.ruleGroups,
          ¬ (group.programVersionId = payload.programVersionId ∧ group.code = payload.code)
  | ruleCondition _ payload => ∃ group ∈ db.ruleGroups, group.id = payload.ruleGroupId
  | ruleOutcome _ payload => ∃ group ∈ db.ruleGroups, group.id = payload.ruleGroupId

/-- The call returns its row and has committed the tables with this row and nothing else. -/
def CreateCall.Creates [UnicodeData] (db : Database) : CreateCall → Prop
  | country id payload => ∃ created, createCountry db id payload = .ok (payload.row id, created) ∧
      created.toTables = { db.toTables with
        countries := db.countries ++ [(payload.row id).toCountry] }
  | program id payload => ∃ created, createProgram db id payload = .ok (payload.row id, created) ∧
      created.toTables = { db.toTables with programs := db.programs ++ [payload.row id] }
  | programVersion id createdAt payload =>
      ∃ created, createProgramVersion db id createdAt payload = .ok created ∧
        created.toTables = { db.toTables with
          versions := db.versions ++ [payload.row id createdAt] }
  | ruleGroup id payload =>
      ∃ created, createRuleGroup db id payload = .ok (payload.row id, created) ∧
        created.toTables = { db.toTables with ruleGroups := db.ruleGroups ++ [payload.row id] }
  | ruleCondition id payload =>
      ∃ created, createRuleCondition db id payload = .ok (payload.row id, created) ∧
        created.toTables = { db.toTables with
          ruleGroups := updateGroup payload.ruleGroupId
            (fun group => { group with conditions := group.conditions ++ [payload.row id] })
            db.ruleGroups }
  | ruleOutcome id payload =>
      ∃ created, createRuleOutcome db id payload = .ok (payload.row id, created) ∧
        created.toTables = { db.toTables with
          ruleGroups := updateGroup payload.ruleGroupId
            (fun group => { group with outcomes := group.outcomes ++ [payload.row id] })
            db.ruleGroups }

/-- The call fails with this error, and so commits nothing. -/
def CreateCall.Raises [UnicodeData] (db : Database) (error : ServiceError) : CreateCall → Prop
  | country id payload => createCountry db id payload = .error error
  | program id payload => createProgram db id payload = .error error
  | programVersion id createdAt payload => createProgramVersion db id createdAt payload = .error error
  | ruleGroup id payload => createRuleGroup db id payload = .error error
  | ruleCondition id payload => createRuleCondition db id payload = .error error
  | ruleOutcome id payload => createRuleOutcome db id payload = .error error

/-- Once its checks have passed, a creating call awaits a row. -/
theorem createEntity_raises {Row : Type} {checks : Except ServiceError Unit} {row : Row}
    {added : Row → Tables} (passed : checks = .ok ()) :
    createEntity checks row added = .error .typeError := by
  rw [createEntity, passed]
  rfl

/-- The row that is required is found under its id. -/
theorem requireRow_passes {Row : Type} {rows : List Row} {key : Row → UUID} {id : UUID}
    (detail : String) (ids : (rows.map key).Nodup) (exists_ : ∃ row ∈ rows, key row = id) :
    (do requireRow detail (← scalarOneOrNone (rows.filter fun row => key row = id))) = .ok () := by
  rcases exists_ with ⟨row, mem, rfl⟩
  rw [scalarOneOrNone_filter_key ids mem]
  rfl

theorem refuseRow_passes {Row : Type} {rows : List Row} {taken : Row → Prop} [DecidablePred taken]
    (detail : String) (unused : ∀ row ∈ rows, ¬ taken row) :
    (do refuseRow detail (← scalarOneOrNone (rows.filter fun row => taken row))) = .ok () := by
  rw [scalarOneOrNone_filter_eq_none.mpr unused]
  rfl

/-- The overlap query of a new version sees the row itself: the id that it is to differ from is
not assigned when the query is built, and the row is sent before the query is. -/
theorem findActiveOverlap_of_new_ne_none {tables : Tables} {version : ProgramVersion}
    (mem : version ∈ tables.versions) (active : version.status = .active)
    (range : version.effectiveFrom < version.effectiveTo.getD endOfTime) :
    findActiveOverlap tables version.programId none version.effectiveFrom version.effectiveTo ≠
      .ok none := by
  intro nothing
  rw [findActiveOverlap, scalarOneOrNone_filter_eq_none] at nothing
  exact nothing version mem ⟨rfl, active, by simp, range, range⟩

section Calls

variable [UnicodeData] {db : Database}

theorem CreateCall.Raises.not_creates {call : CreateCall} {error : ServiceError}
    (raises : call.Raises db error) : ¬ call.Creates db := by
  cases call with
  | country | program | programVersion | ruleGroup | ruleCondition | ruleOutcome =>
      rintro ⟨created, done, -⟩
      exact absurd (raises.symm.trans done) (by simp)

omit [UnicodeData] in
theorem createProgramVersion_raises (id : UUID) (createdAt : Instant)
    {payload : ProgramVersionCreate}
    (program : ∃ program ∈ db.programs, program.id = payload.programId)
    (unused : ∀ version ∈ db.versions,
      ¬ (version.programId = payload.programId ∧ version.version = payload.version)) :
    createProgramVersion db id createdAt payload = .error .typeError := by
  rcases program with ⟨program, mem, ofPayload⟩
  have found : getProgram db.toTables payload.programId = .ok (some program) := by
    rw [← ofPayload]
    exact scalarOneOrNone_filter_key db.consistent.catalogue.programIds mem
  have unseen : getProgramVersionByProgramAndVersion db.toTables payload.programId
      payload.version = .ok none := scalarOneOrNone_filter_eq_none.mpr unused
  rw [createProgramVersion, found]
  dsimp only [bind, Except.bind]
  rw [unseen]
  rfl

/-- A creating call whose preconditions hold fails with a type error, and so creates nothing. -/
theorem creating_raises (db : Database) (call : CreateCall) (ready : call.Ready db) :
    call.Raises db .typeError ∧ ¬ call.Creates db := by
  have raises : call.Raises db .typeError := by
    cases call with
    | country id payload => exact createEntity_raises (refuseRow_passes _ ready)
    | program id payload =>
        rcases ready with ⟨country, unused⟩
        refine createEntity_raises ?_
        rw [← bind_assoc]
        have found := requireRow_passes "Country not found" db.consistent.catalogue.countryIds country
        exact bind_eq_ok_iff.mpr ⟨(), found, refuseRow_passes _ unused⟩
    | programVersion id createdAt payload =>
        rcases ready with ⟨program, unused, -⟩
        exact createProgramVersion_raises id createdAt program unused
    | ruleGroup id payload =>
        exact createEntity_raises (requireRow_passes _ db.consistent.catalogue.versionIds ready.1)
    | ruleCondition id payload =>
        exact createEntity_raises (requireRow_passes _ db.consistent.rules.groupIds ready)
    | ruleOutcome id payload =>
        exact createEntity_raises (requireRow_passes _ db.consistent.rules.groupIds ready)
  exact ⟨raises, raises.not_creates⟩

end Calls

section Samples

local instance creationUnicodeData : UnicodeData := UnicodeData.ascii

/-- `sampleCatalogue` with a second program, which has no version. -/
def extendedCatalogue : Database where
  toTables := { sampleCatalogue.toTables with
    programs := sampleCatalogue.programs ++ [⟨8, 1, "STUDENT", "Study permit", none, true⟩] }
  consistent := by decide

def portugal : CreateCall :=
  .country 10 ⟨"pt", "Portugal", some 1, none, none, rfl, by decide⟩

/-- A call of each kind that can be made on it. -/
def sampleCreations : List CreateCall :=
  [portugal,
    .program 11 ⟨1, "FAMILY", "Family class", none, by decide, by decide⟩,
    .programVersion 12 20 ⟨8, "2026", .active, 20, none⟩,
    .ruleGroup 13 ⟨3, "language", "Language", none, 100, .all, by decide, by decide⟩,
    .ruleCondition 14 ⟨6, "age", .gte, ⟨[], Value.wellFormed_emptyDict⟩, 1, true, by decide⟩,
    .ruleOutcome 15 ⟨6, ⟨false, 500, -2⟩, false, "Adult.", none⟩]

theorem portugal_ready : portugal.Ready extendedCatalogue := by
  intro country mem
  rcases List.mem_singleton.mp mem with rfl
  decide +kernel

theorem sampleCreations_ready : ∀ call ∈ sampleCreations, call.Ready extendedCatalogue := by
  intro call mem
  simp only [sampleCreations, List.mem_cons, List.not_mem_nil, or_false] at mem
  rcases mem with rfl | rfl | rfl | rfl | rfl | rfl
  · exact portugal_ready
  · exact ⟨by decide, by decide⟩
  · exact ⟨by decide, by decide, by decide⟩
  · exact ⟨by decide, by decide⟩
  · exact ⟨_, List.mem_singleton.mpr rfl, rfl⟩
  · exact ⟨_, List.mem_singleton.mpr rfl, rfl⟩

theorem creating_raises_sample :
    sampleCreations.Forall fun call => call.Raises extendedCatalogue .typeError ∧
      ¬ call.Creates extendedCatalogue :=
  List.forall_iff_forall_mem.mpr fun call mem =>
    creating_raises extendedCatalogue call (sampleCreations_ready call mem)

/-- Portugal is not stored, although no country has its code. -/
theorem portugal_not_created :
    portugal.Ready extendedCatalogue ∧ ¬ portugal.Creates extendedCatalogue := by
  refine ⟨portugal_ready, ?_⟩
  rintro ⟨created, done, -⟩
  cases done

end Samples

end ImigrAI.ImmigrationRules
