import ImigrAI.Foundations.Fallible
import ImigrAI.Foundations.Rows
import ImigrAI.Foundations.Sorting
import ImigrAI.Ingestion.Schemas
import Mathlib.Order.OrderDual

/-!
# Publishing a payload

`Publisher.publish` with `_publish_version`, run in one transaction that the caller commits:
when a flush fails nothing is kept. The ids of new rows and the readings of the clock are
arguments.
-/

namespace ImigrAI.Ingestion

open Python ImmigrationRules Fallible Rows Sorting Rounding

/-- The ids that `uuid4` gives to the new rows. -/
structure PublicationIds where
  country : UUID
  program : UUID
  version : UUID
  group : ℕ → UUID
  condition : ℕ → ℕ → UUID
  outcome : ℕ → ℕ → UUID
  sourceDocument : UUID
  sourceExtraction : UUID

/-- What the clock shows: as `now` of `_publish_version`, when the version is inserted, and
when the document is made. -/
structure PublicationTimes where
  now : Instant
  versionCreatedAt : Instant
  publishedAt : Instant

/-- The arguments of `publish`; of the diff it decides on `changed` only. -/
structure PublishRequest where
  source : SourceRegistry
  runItemId : UUID
  payload : NormalizedProgramPayload
  diffChanged : Bool
  semanticHash : String
  rawHashSha256 : String
  rawStorageUri : String
  allowPublish : Bool

structure PublishResult where
  published : Bool
  programVersionId : Option UUID
  sourceDocumentId : UUID
  sourceExtractionId : UUID

def getCountryByCode [UnicodeData] (tables : Tables) (code : String) :
    Except ServiceError (Option Country) :=
  scalarOneOrNone (tables.countries.filter fun country => country.code = UnicodeData.upper code)

def getProgramByCountryAndCode (tables : Tables) (countryId : UUID) (code : String) :
    Except ServiceError (Option ImmigrationProgram) :=
  scalarOneOrNone (tables.programs.filter fun program =>
    program.countryId = countryId ∧ program.code = code)

def getLatestProgramVersion (tables : Tables) (programId : UUID) : Option ProgramVersion :=
  (sortBy (fun version : ProgramVersion => OrderDual.toDual version.createdAt)
    (tables.versions.filter fun version => version.programId = programId)).head?

/-- The first characters of a text. -/
def textPrefix (length : ℕ) (text : String) : String := String.ofList (text.toList.take length)

def buildVersionLabel (now : Instant) (semanticHash : String) : String :=
  textPrefix 32 (now.compact ++ "-" ++ textPrefix 8 semanticHash)

/-- `list_active_program_versions` and `archive_program_versions`. -/
def archiveProgramVersions (programId : UUID) (archivedAt : Instant)
    (versions : List ProgramVersion) : List ProgramVersion :=
  versions.map fun version =>
    if version.programId = programId ∧ version.status = .active then
      { version with status := .archived, effectiveTo := some archivedAt }
    else version

/-- The row of the new version. -/
def publishedVersion (ids : PublicationIds) (times : PublicationTimes) (programId : UUID)
    (semanticHash : String) : ProgramVersion where
  id := ids.version
  programId := programId
  version := buildVersionLabel times.now semanticHash
  status := .active
  effectiveFrom := times.now
  effectiveTo := none
  createdAt := times.versionCreatedAt

/-- A number in a column `Numeric(8, 2)`, if it fits. -/
def numericColumn (number : Decimal) : Option Decimal :=
  let hundredths := roundHalfUp (number.toRat * 100)
  if hundredths.natAbs < 10 ^ 8 then some ⟨hundredths < 0, hundredths.natAbs, -2⟩ else none

/-- A number in a column `Numeric(5, 4)`, if it fits. -/
def confidenceColumn (number : Decimal) : Option Decimal :=
  let scaled := roundHalfUp (number.toRat * 10 ^ 4)
  if scaled.natAbs < 10 ^ 5 then some ⟨scaled < 0, scaled.natAbs, -4⟩ else none

def storedCondition (id : UUID) (condition : NormalizedRuleCondition) : RuleCondition where
  id := id
  fieldKey := condition.fieldKey
  operator := condition.operator
  valueJson := condition.valueJson
  conditionOrder := condition.conditionOrder
  isRequired := condition.isRequired

def storedOutcome (id : UUID) (outcome : NormalizedRuleOutcome) : Except ServiceError RuleOutcome :=
  match numericColumn outcome.scoreDelta with
  | some scoreDelta => .ok {
      id := id
      scoreDelta := scoreDelta
      isBlocking := outcome.isBlocking
      explanationMessage := outcome.explanationMessage
      outcomeCode := outcome.outcomeCode }
  | none => .error .dataError

/-- The row of a rule group, with its conditions and outcomes. -/
def storedGroup (ids : PublicationIds) (programVersionId : UUID) (position : ℕ)
    (group : NormalizedRuleGroup) : Except ServiceError RuleGroup := do
  let outcomes ← group.outcomes.zipIdx.mapM fun entry =>
    storedOutcome (ids.outcome position entry.2) entry.1
  .ok {
    id := ids.group position
    programVersionId := programVersionId
    code := group.code
    name := group.name
    description := group.description
    priority := group.priority
    matchOperator := group.matchOperator
    isActive := true
    conditions := group.conditions.zipIdx.map fun entry =>
      storedCondition (ids.condition position entry.2) entry.1
    outcomes := outcomes }

/-- The loop over the rule groups of the payload. -/
def storeGroups (ids : PublicationIds) (programVersionId : UUID) :
    ℕ → List NormalizedRuleGroup → Database → Except ServiceError Database
  | _, [], db => .ok db
  | position, group :: rest, db => do
      let row ← storedGroup ids programVersionId position group
      let stored ← flush { db.toTables with ruleGroups := db.ruleGroups ++ [row] }
      storeGroups ids programVersionId (position + 1) rest stored

def publishVersion (db : Database) (ids : PublicationIds) (times : PublicationTimes)
    (programId : UUID) (payload : NormalizedProgramPayload) (semanticHash : String) :
    Except ServiceError (Database × UUID) := do
  let archived ← flush { db.toTables with
    versions := archiveProgramVersions programId times.now db.versions }
  let version := publishedVersion ids times programId semanticHash
  let created ← flush { archived.toTables with versions := archived.versions ++ [version] }
  let stored ← storeGroups ids version.id 0 payload.ruleGroups created
  .ok (stored, version.id)

/-- The country that the payload names, created if there is none. -/
def publicationCountry [UnicodeData] (db : Database) (ids : PublicationIds)
    (payload : NormalizedProgramPayload) : Except ServiceError (Database × UUID) := do
  match ← getCountryByCode db.toTables payload.countryCode with
  | some country => .ok (db, country.id)
  | none =>
      let created ← flush { db.toTables with
        countries := db.countries ++ [⟨ids.country, payload.countryCode, payload.countryName⟩] }
      .ok (created, ids.country)

/-- The program that the payload names, created if there is none. -/
def publicationProgram (db : Database) (ids : PublicationIds) (countryId : UUID)
    (request : PublishRequest) : Except ServiceError (Database × UUID) := do
  match ← getProgramByCountryAndCode db.toTables countryId request.payload.programCode with
  | some program => .ok (db, program.id)
  | none =>
      let created ← flush { db.toTables with
        programs := db.programs ++ [{
          id := ids.program
          countryId := countryId
          code := request.payload.programCode
          name := request.payload.programName
          description := "Auto-created from source registry (" ++ request.source.sourceKey ++ ")"
          isActive := true }] }
      .ok (created, ids.program)

/-- Whether a new version is published. -/
def PublishRequest.publishes (request : PublishRequest) : Bool :=
  request.allowPublish && request.diffChanged

/-- The version that the document is stored for: a new one or the latest. -/
def publicationVersion (db : Database) (ids : PublicationIds) (times : PublicationTimes)
    (programId : UUID) (request : PublishRequest) :
    Except ServiceError (Database × Option UUID) :=
  if request.publishes then do
    let (published, versionId) ←
      publishVersion db ids times programId request.payload request.semanticHash
    .ok (published, some versionId)
  else .ok (db, (getLatestProgramVersion db.toTables programId).map (·.id))

def publicationDocument (ids : PublicationIds) (times : PublicationTimes)
    (request : PublishRequest) (programVersionId : Option UUID) : SourceDocument where
  id := ids.sourceDocument
  sourceId := request.source.id
  ingestionRunItemId := request.runItemId
  programVersionId := programVersionId
  title := request.payload.sourceTitle
  sourceUrl := request.payload.sourceUrl
  checksumSha256 := request.rawHashSha256
  rawStorageUri := request.rawStorageUri
  publishedAt := times.publishedAt

def publicationExtraction (ids : PublicationIds) (request : PublishRequest) :
    Except ServiceError SourceExtraction :=
  match confidenceColumn request.payload.confidenceScore with
  | some confidenceScore => .ok {
      id := ids.sourceExtraction
      sourceDocumentId := ids.sourceDocument
      extractionVersion := request.source.parserVersion
      extractedText := request.payload.summaryText
      confidenceScore := confidenceScore
      parserUsed := request.payload.parserUsed
      parserMode := request.payload.parserMode
      manualReviewRequired := request.payload.manualReviewRequired
      semanticHashSha256 := request.semanticHash }
  | none => .error .dataError

def publish [UnicodeData] (db : Database) (ids : PublicationIds) (times : PublicationTimes)
    (request : PublishRequest) : Except ServiceError (Database × PublishResult) := do
  let (db, countryId) ← publicationCountry db ids request.payload
  let (db, programId) ← publicationProgram db ids countryId request
  let (db, programVersionId) ← publicationVersion db ids times programId request
  let db ← flush { db.toTables with sourceDocuments :=
    db.sourceDocuments ++ [publicationDocument ids times request programVersionId] }
  let extraction ← publicationExtraction ids request
  let db ← flush { db.toTables with sourceExtractions := db.sourceExtractions ++ [extraction] }
  .ok (db, {
    published := request.publishes
    programVersionId := programVersionId
    sourceDocumentId := ids.sourceDocument
    sourceExtractionId := ids.sourceExtraction })

/-- The rows are those of the groups, in order. -/
def StoresGroups (ids : PublicationIds) (programVersionId : UUID)
    (groups : List (NormalizedRuleGroup × ℕ)) (rows : List RuleGroup) : Prop :=
  List.Forall₂ (fun entry row => storedGroup ids programVersionId entry.2 entry.1 = .ok row)
    groups rows

theorem storedGroup_versionId {ids : PublicationIds} {programVersionId : UUID} {position : ℕ}
    {group : NormalizedRuleGroup} {row : RuleGroup}
    (done : storedGroup ids programVersionId position group = .ok row) :
    row.programVersionId = programVersionId := by
  rcases bind_eq_ok_iff.mp done with ⟨outcomes, -, made⟩
  cases made
  rfl

theorem StoresGroups.versionId {ids : PublicationIds} {programVersionId : UUID}
    {groups : List (NormalizedRuleGroup × ℕ)} {rows : List RuleGroup}
    (stores : StoresGroups ids programVersionId groups rows) :
    ∀ row ∈ rows, row.programVersionId = programVersionId := by
  intro row rowMem
  rcases List.mem_iff_getElem.mp rowMem with ⟨index, bound, rfl⟩
  exact storedGroup_versionId (stores.get (by rwa [stores.length_eq]) bound)

theorem storeGroups_eq_ok {ids : PublicationIds} {programVersionId : UUID} {position : ℕ}
    {groups : List NormalizedRuleGroup} {db stored : Database}
    (done : storeGroups ids programVersionId position groups db = .ok stored) :
    ∃ rows, StoresGroups ids programVersionId (groups.zipIdx position) rows ∧
      stored.toTables = { db.toTables with ruleGroups := db.ruleGroups ++ rows } := by
  induction groups generalizing position db with
  | nil =>
      cases done
      exact ⟨[], .nil, by simp⟩
  | cons group rest ih =>
      rcases bind_eq_ok_iff.mp done with ⟨row, made, done⟩
      rcases bind_eq_ok_iff.mp done with ⟨flushed, sent, done⟩
      rcases ih done with ⟨rows, stores, tables⟩
      refine ⟨row :: rows, .cons made stores, ?_⟩
      rw [tables, flush_eq_ok_iff.mp sent]
      simp

/-- A successful `_publish_version` has archived the active versions of the program and added
an active one with the groups of the payload. -/
theorem publishVersion_eq_ok {db published : Database} {ids : PublicationIds}
    {times : PublicationTimes} {programId versionId : UUID} {payload : NormalizedProgramPayload}
    {semanticHash : String}
    (done : publishVersion db ids times programId payload semanticHash =
      .ok (published, versionId)) :
    versionId = ids.version ∧ ∃ rows,
      StoresGroups ids ids.version (payload.ruleGroups.zipIdx 0) rows ∧
      published.toTables = { db.toTables with
        versions := archiveProgramVersions programId times.now db.versions ++
          [publishedVersion ids times programId semanticHash]
        ruleGroups := db.ruleGroups ++ rows } := by
  rcases bind_eq_ok_iff.mp done with ⟨archived, archivedSent, done⟩
  rcases bind_eq_ok_iff.mp done with ⟨created, createdSent, done⟩
  rcases bind_eq_ok_iff.mp done with ⟨stored, storing, done⟩
  cases done
  rcases storeGroups_eq_ok storing with ⟨rows, stores, tables⟩
  refine ⟨rfl, rows, stores, ?_⟩
  rw [tables, flush_eq_ok_iff.mp createdSent, flush_eq_ok_iff.mp archivedSent]

theorem map_id_archiveProgramVersions (programId : UUID) (archivedAt : Instant)
    (versions : List ProgramVersion) :
    (archiveProgramVersions programId archivedAt versions).map (·.id) = versions.map (·.id) := by
  rw [archiveProgramVersions, List.map_map]
  refine List.map_congr_left fun version _ => ?_
  simp only [Function.comp_apply]
  split_ifs <;> rfl

/-- The rule groups of a published version are those of the payload. -/
theorem ruleGroups_publishVersion {db published : Database} {ids : PublicationIds}
    {times : PublicationTimes} {programId versionId : UUID} {payload : NormalizedProgramPayload}
    {semanticHash : String}
    (publishing : publishVersion db ids times programId payload semanticHash =
      .ok (published, versionId)) :
    StoresGroups ids ids.version (payload.ruleGroups.zipIdx 0)
      (published.ruleGroups.filter fun group => group.programVersionId = versionId) := by
  rcases publishVersion_eq_ok publishing with ⟨rfl, rows, stores, tables⟩
  have older : ∀ group ∈ db.ruleGroups, group.programVersionId ≠ ids.version := by
    intro group groupMem same
    have distinct := published.consistent.catalogue.versionIds
    rw [tables] at distinct
    have newId := (nodup_map_append_singleton.mp distinct).1
    rw [map_id_archiveProgramVersions] at newId
    apply newId
    rw [publishedVersion, ← same]
    exact db.consistent.rules.groupVersions group groupMem
  rw [tables, List.filter_append, List.filter_eq_nil_iff.mpr, List.nil_append,
    List.filter_eq_self.mpr]
  · exact stores
  · intro row rowMem
    simpa using stores.versionId row rowMem
  · intro group groupMem
    simpa using older group groupMem

theorem mem_archiveProgramVersions_of_ne {programId : UUID} {archivedAt : Instant}
    {versions : List ProgramVersion} {version : ProgramVersion} (mem : version ∈ versions)
    (other : version.programId ≠ programId) :
    version ∈ archiveProgramVersions programId archivedAt versions :=
  List.mem_map.mpr ⟨version, mem, if_neg fun archived => other archived.1⟩

theorem of_mem_archiveProgramVersions {programId : UUID} {archivedAt : Instant}
    {versions : List ProgramVersion} {version : ProgramVersion}
    (mem : version ∈ archiveProgramVersions programId archivedAt versions)
    (active : version.status = .active) : version ∈ versions ∧ version.programId ≠ programId := by
  rcases List.mem_map.mp mem with ⟨old, oldMem, rfl⟩
  split_ifs at active ⊢ with archived
  exact ⟨oldMem, fun ofProgram => archived ⟨ofProgram, active⟩⟩

section Lookups

variable {Row : Type} {rows : List Row} {id : Row → UUID} {selects : Row → Prop}
  [DecidablePred selects] {row other : Row}

/-- A lookup selects the row that it finds and no other. -/
theorem selects_iff_of_found (distinct : (rows.map id).Nodup)
    (lookup : scalarOneOrNone (rows.filter fun row => selects row) = .ok (some row))
    (otherMem : other ∈ rows) : selects other ↔ id other = id row := by
  rcases scalarOneOrNone_filter_eq_some lookup with ⟨rowMem, selected, only⟩
  constructor
  · intro selectsOther
    rw [only other otherMem selectsOther]
  · intro same
    rw [List.inj_on_of_nodup_map distinct otherMem rowMem same]
    exact selected

/-- A lookup that finds nothing selects no row, and a new row has an id of its own. -/
theorem selects_iff_of_missing (distinct : ((rows ++ [row]).map id).Nodup)
    (lookup : scalarOneOrNone (rows.filter fun row => selects row) = .ok none)
    (otherMem : other ∈ rows) : selects other ↔ id other = id row := by
  apply iff_of_false
  · exact scalarOneOrNone_filter_eq_none.mp lookup other otherMem
  · intro same
    exact (nodup_map_append_singleton.mp distinct).1 (List.mem_map.mpr ⟨other, otherMem, same⟩)

end Lookups

theorem publicationProgram_eq_ok {db used : Database} {ids : PublicationIds} {countryId : UUID}
    {request : PublishRequest} {programId : UUID}
    (done : publicationProgram db ids countryId request = .ok (used, programId)) :
    (∃ added, used.toTables = { db.toTables with programs := db.programs ++ added }) ∧
      ∀ program ∈ db.programs,
        program.countryId = countryId ∧ program.code = request.payload.programCode ↔
          program.id = programId := by
  rcases bind_eq_ok_iff.mp done with ⟨found, lookup, done⟩
  cases found with
  | some program =>
      cases done
      refine ⟨⟨[], by simp⟩, fun other otherMem => ?_⟩
      exact selects_iff_of_found db.consistent.catalogue.programIds lookup otherMem
  | none =>
      rcases bind_eq_ok_iff.mp done with ⟨created, sent, done⟩
      cases done
      have tables := flush_eq_ok_iff.mp sent
      have distinct := used.consistent.catalogue.programIds
      rw [tables] at distinct
      exact ⟨⟨_, tables⟩, fun other otherMem => selects_iff_of_missing distinct lookup otherMem⟩

section Publication

variable [UnicodeData]

/-- The payload names this program. -/
def PublishesTo (tables : Tables) (payload : NormalizedProgramPayload) (programId : UUID) :
    Prop :=
  ∃ country ∈ tables.countries, country.code = UnicodeData.upper payload.countryCode ∧
    ∃ program ∈ tables.programs, program.countryId = country.id ∧
      program.code = payload.programCode ∧ program.id = programId

theorem publicationCountry_eq_ok {db used : Database} {ids : PublicationIds}
    {payload : NormalizedProgramPayload} {countryId : UUID}
    (done : publicationCountry db ids payload = .ok (used, countryId)) :
    (∃ added, used.toTables = { db.toTables with countries := db.countries ++ added }) ∧
      ∀ country ∈ db.countries,
        country.code = UnicodeData.upper payload.countryCode ↔ country.id = countryId := by
  rcases bind_eq_ok_iff.mp done with ⟨found, lookup, done⟩
  cases found with
  | some country =>
      cases done
      refine ⟨⟨[], by simp⟩, fun other otherMem => ?_⟩
      exact selects_iff_of_found db.consistent.catalogue.countryIds lookup otherMem
  | none =>
      rcases bind_eq_ok_iff.mp done with ⟨created, sent, done⟩
      cases done
      have tables := flush_eq_ok_iff.mp sent
      have distinct := used.consistent.catalogue.countryIds
      rw [tables] at distinct
      exact ⟨⟨_, tables⟩, fun other otherMem => selects_iff_of_missing distinct lookup otherMem⟩

/-- The country and the program of a publication are those that the payload names. -/
theorem publicationTarget_eq_ok {db named targeted : Database} {ids : PublicationIds}
    {request : PublishRequest} {countryId programId : UUID}
    (naming : publicationCountry db ids request.payload = .ok (named, countryId))
    (targeting : publicationProgram named ids countryId request = .ok (targeted, programId)) :
    (∃ countries programs, targeted.toTables = { db.toTables with
      countries := db.countries ++ countries
      programs := db.programs ++ programs }) ∧
      ∀ program ∈ db.programs,
        PublishesTo db.toTables request.payload program.id ↔ program.id = programId := by
  rcases publicationCountry_eq_ok naming with ⟨⟨countries, namedTables⟩, ofCountry⟩
  rcases publicationProgram_eq_ok targeting with ⟨⟨programs, targetedTables⟩, ofProgram⟩
  rw [namedTables] at targetedTables ofProgram
  refine ⟨⟨countries, programs, targetedTables⟩, fun program programMem => ?_⟩
  rw [← ofProgram program programMem]
  constructor
  · rintro ⟨country, countryMem, coded, other, otherMem, ofOther, named, sameId⟩
    rw [List.inj_on_of_nodup_map db.consistent.catalogue.programIds otherMem programMem
      sameId] at ofOther named
    exact ⟨ofOther.trans ((ofCountry country countryMem).mp coded), named⟩
  · rintro ⟨sameCountry, named⟩
    rcases List.mem_map.mp (db.consistent.catalogue.programCountries program programMem) with
      ⟨country, countryMem, ofCountryId⟩
    exact ⟨country, countryMem, (ofCountry country countryMem).mpr (ofCountryId.trans sameCountry),
      program, programMem, ofCountryId.symm, named, rfl⟩

/-- A successful publication has published to the program that the payload names, or has left
versions and rule groups as they were. -/
theorem publish_eq_ok {db published : Database} {ids : PublicationIds}
    {times : PublicationTimes} {request : PublishRequest} {result : PublishResult}
    (done : publish db ids times request = .ok (published, result)) :
    ∃ programId,
      (∀ program ∈ db.programs,
        PublishesTo db.toTables request.payload program.id ↔ program.id = programId) ∧
      if request.publishes then
        published.versions = archiveProgramVersions programId times.now db.versions ++
            [publishedVersion ids times programId request.semanticHash] ∧
          ∃ rows, StoresGroups ids ids.version (request.payload.ruleGroups.zipIdx 0) rows ∧
            published.ruleGroups = db.ruleGroups ++ rows
      else published.versions = db.versions ∧ published.ruleGroups = db.ruleGroups := by
  rcases bind_eq_ok_iff.mp done with ⟨⟨named, countryId⟩, naming, done⟩
  rcases bind_eq_ok_iff.mp done with ⟨⟨targeted, programId⟩, targeting, done⟩
  rcases bind_eq_ok_iff.mp done with ⟨⟨versioned, versionId⟩, versioning, done⟩
  rcases bind_eq_ok_iff.mp done with ⟨documented, documenting, done⟩
  rcases bind_eq_ok_iff.mp done with ⟨extraction, -, done⟩
  rcases bind_eq_ok_iff.mp done with ⟨extracted, extracting, done⟩
  cases done
  rcases publicationTarget_eq_ok naming targeting with
    ⟨⟨countries, programs, targetedTables⟩, ofProgram⟩
  refine ⟨programId, ofProgram, ?_⟩
  rw [flush_eq_ok_iff.mp extracting, flush_eq_ok_iff.mp documenting]
  unfold publicationVersion at versioning
  split_ifs at versioning ⊢ with publishing
  · rcases bind_eq_ok_iff.mp versioning with ⟨⟨stored, storedId⟩, storing, versioning⟩
    cases versioning
    rcases publishVersion_eq_ok storing with ⟨-, rows, stores, tables⟩
    rw [tables, targetedTables]
    exact ⟨rfl, rows, stores, rfl⟩
  · cases versioning
    rw [targetedTables]
    exact ⟨rfl, rfl⟩

end Publication

end ImigrAI.Ingestion
