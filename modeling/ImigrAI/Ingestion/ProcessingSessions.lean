import ImigrAI.Core.Retry
import ImigrAI.Foundations.Sessions
import ImigrAI.Ingestion.DiffEngine
import ImigrAI.Ingestion.RunFinalization

/-!
# Processing through a session

`process_run_item`, statement by statement, through one session that does not expire what it has
loaded when it commits. Any statement of the processing may be refused by the database; those of
the failure handler are not, so that `with_retry` makes one attempt. The fetch, the storage and
the extraction are arguments. A rule group and its conditions and outcomes are sent together.
-/

namespace ImigrAI.Ingestion.Processing

open Python ImmigrationRules ImigrAI.Core Actions Action Sessions Rows Sorting
open Finalization (IngestionRunStatus)
open Pipeline (IngestionRunItemStatus Source BronzeDocument Settings Sha256 Finished)

structure IngestionRun where
  id : UUID
  status : IngestionRunStatus

structure IngestionRunItem extends Pipeline.IngestionRunItem where
  ingestionRunId : UUID
  diffSummaryJson : Value
  metadataJson : Value

structure SilverSection where
  ingestionRunItemId : UUID
  sectionKey : String
  semanticHashSha256 : String

structure Tables where
  rules : Database
  sources : List Source
  runs : List IngestionRun
  items : List IngestionRunItem
  bronzeDocuments : List BronzeDocument
  silverSections : List SilverSection

structure FetchResult where
  content : List UInt8
  etag : Option String
  lastModified : Option String
  metadataJson : Value

/-- A section of the payload. -/
structure Section where
  sectionKey : String
  textContent : String

inductive PublicationStatement where
  | country
  | createCountry
  | program
  | createProgram
  | latestVersion
  | activeVersions
  | archiveVersions
  | createVersion
  | createRuleGroup (position : ℕ)
  | createDocument
  | createExtraction
deriving DecidableEq

/-- The queries, flushes and commits of the processing. -/
inductive Statement where
  | getRunItem
  | markRunRunning
  | markItemRunning
  | commitRunning
  | markQuarantined
  | commitQuarantined
  | latestBronze
  | markUnchanged
  | commitUnchanged
  | createBronze
  | lastCompletedItem
  | country
  | program
  | latestVersion
  | silverSections
  | replaceSilverSections
  | publication (statement : PublicationStatement)
  | markCompleted
  | resetHealth
  | commitCompleted
deriving DecidableEq

/-- One execution of `process_run_item`, with the readings of the clock, what the calls that do
not go to the database return or raise, and which statements the database refuses for a reason
that is not in the tables. -/
structure Execution where
  now : Instant
  fetched : Except RaisedException FetchResult
  stored : Except RaisedException String
  bronzeCreatedAt : Instant
  deterministic : Except RaisedException NormalizedProgramPayload
  llmFallback : Except RaisedException NormalizedProgramPayload
  /-- What the re-validation raises; it returns the payload unchanged. -/
  validation : Option RaisedException
  /-- The sections of the payload, or what building their rows raises. -/
  sections : Except RaisedException (List Section)
  ids : PublicationIds
  times : PublicationTimes
  failedAt : Instant
  faults : Statement → Option RaisedException

inductive ProcessingError where
  | valueError (message : String)
  /-- Raised by a call that does not go to the database, or by a statement that is refused. -/
  | external (exc : RaisedException)
  | service (error : ServiceError)

section Statements

variable {Result : Type} (execution : Execution) (statement : Statement)

/-- What a statement gives unless the database refuses it. -/
def unlessRefused (run : Tables → Except ProcessingError Result) (tables : Tables) :
    Except ProcessingError Result :=
  match execution.faults statement with
  | some exc => .error (.external exc)
  | none => run tables

def reading (read : Tables → Except ProcessingError Result) :
    Program Tables ProcessingError Result :=
  query (unlessRefused execution statement read)

def sending (change : Tables → Except ProcessingError Tables) :
    Program Tables ProcessingError Unit :=
  flush (unlessRefused execution statement change)

def committing : Program Tables ProcessingError Unit :=
  commit ((execution.faults statement).map .external)

/-- A call that does not go to the database. -/
def calling (computation : Except RaisedException Result) : Program Tables ProcessingError Result :=
  outside (computation.mapError .external)

end Statements

def readRules {Result : Type} (read : Database → Except ServiceError Result) (tables : Tables) :
    Except ProcessingError Result :=
  (read tables.rules).mapError .service

def changeRules (change : Database → Except ServiceError Database) (tables : Tables) :
    Except ProcessingError Tables :=
  ((change tables.rules).mapError .service).map fun rules => { tables with rules := rules }

def setItem (item : IngestionRunItem) (tables : Tables) : Except ProcessingError Tables :=
  .ok { tables with items := replaceRow (·.id) item tables.items }

def setRun (run : IngestionRun) (tables : Tables) : Except ProcessingError Tables :=
  .ok { tables with runs := replaceRow (·.id) run tables.runs }

def setSource (source : Source) (tables : Tables) : Except ProcessingError Tables :=
  .ok { tables with sources := replaceRow (·.id) source tables.sources }

/-- With `uq_bronze_document_run_item`. -/
def createBronzeDocument (document : BronzeDocument) (tables : Tables) :
    Except ProcessingError Tables :=
  if document.ingestionRunItemId ∈ tables.bronzeDocuments.map (·.ingestionRunItemId) then
    .error (.service .integrityError)
  else .ok { tables with bronzeDocuments := tables.bronzeDocuments ++ [document] }

/-- With `uq_silver_section_item_key`. -/
def replaceSilverSections (runItemId : UUID) (sections : List SilverSection) (tables : Tables) :
    Except ProcessingError Tables :=
  if (sections.map (·.sectionKey)).Nodup then
    .ok { tables with silverSections :=
      tables.silverSections.filter (·.ingestionRunItemId ≠ runItemId) ++ sections }
  else .error (.service .integrityError)

/-- An item with its source and its run, as `get_run_item` loads it. -/
structure Loaded where
  item : IngestionRunItem
  source : Source
  run : IngestionRun

/-- `get_run_item` with the checks that follow it. -/
def getRunItem (runItemId : UUID) (tables : Tables) : Except ProcessingError Loaded :=
  match tables.items.find? fun item => item.id = runItemId with
  | none => .error (.valueError "ingestion run item not found")
  | some item =>
      match tables.sources.find? fun source => source.id = item.sourceId with
      | none => .error (.valueError "ingestion run item has no source")
      | some source =>
          match tables.runs.find? fun run => run.id = item.ingestionRunId with
          | none => .error (.valueError "ingestion run item has no run")
          | some run => .ok ⟨item, source, run⟩

def getLatestBronzeDocument (sourceId : UUID) (tables : Tables) : Option BronzeDocument :=
  (sortBy (fun document : BronzeDocument => OrderDual.toDual document.createdAt)
    (tables.bronzeDocuments.filter fun document => document.sourceId = sourceId)).head?

def getLastCompletedItem (sourceId : UUID) (tables : Tables) : Option IngestionRunItem :=
  (sortBy (fun item : IngestionRunItem => OrderDual.toDual item.createdAt)
    (tables.items.filter fun item => item.sourceId = sourceId ∧ Finished item.status)).head?

section Publication

variable [UnicodeData] (execution : Execution) (request : PublishRequest)

omit [UnicodeData] in
/-- A row of the rules, found by a query or created. -/
def findOrCreate (found : Option UUID) (statement : PublicationStatement) (id : UUID)
    (create : Database → Except ServiceError Database) : Program Tables ProcessingError UUID :=
  match found with
  | some existing => pure existing
  | none => do
      sending execution (.publication statement) (changeRules create)
      pure id

def publicationCountry : Program Tables ProcessingError UUID := do
  let country ← reading execution (.publication .country) (readRules fun rules =>
    getCountryByCode rules.toTables request.payload.countryCode)
  findOrCreate execution (country.map (·.id)) .createCountry execution.ids.country fun rules =>
    ImmigrationRules.flush { rules.toTables with
      countries := rules.countries ++
        [⟨execution.ids.country, request.payload.countryCode, request.payload.countryName⟩] }

def publicationProgram (countryId : UUID) : Program Tables ProcessingError UUID := do
  let program ← reading execution (.publication .program) (readRules fun rules =>
    getProgramByCountryAndCode rules.toTables countryId request.payload.programCode)
  findOrCreate execution (program.map (·.id)) .createProgram execution.ids.program fun rules =>
    ImmigrationRules.flush { rules.toTables with
      programs := rules.programs ++ [{
        id := execution.ids.program
        countryId := countryId
        code := request.payload.programCode
        name := request.payload.programName
        description := "Auto-created from source registry (" ++ request.source.sourceKey ++ ")"
        isActive := true }] }

/-- The loop over the rule groups of the payload. -/
def storeGroups : ℕ → List NormalizedRuleGroup → Program Tables ProcessingError Unit
  | _, [] => pure ()
  | position, group :: rest => do
      sending execution (.publication (.createRuleGroup position)) (changeRules fun rules => do
        let row ← storedGroup execution.ids execution.ids.version position group
        ImmigrationRules.flush { rules.toTables with ruleGroups := rules.ruleGroups ++ [row] })
      storeGroups (position + 1) rest

omit [UnicodeData] in
/-- `if active_versions: ...`. -/
def archiveActive (programId : UUID) (activeVersions : List ProgramVersion) :
    Program Tables ProcessingError Unit :=
  if activeVersions = [] then pure ()
  else sending execution (.publication .archiveVersions) (changeRules fun rules =>
    ImmigrationRules.flush { rules.toTables with
      versions := archiveProgramVersions programId execution.times.now rules.versions })

def publishVersion (programId : UUID) : Program Tables ProcessingError UUID := do
  let activeVersions ← reading execution (.publication .activeVersions) (readRules fun rules =>
    .ok (rules.versions.filter fun version =>
      version.programId = programId ∧ version.status = .active))
  archiveActive execution programId activeVersions
  sending execution (.publication .createVersion) (changeRules fun rules =>
    ImmigrationRules.flush { rules.toTables with versions := rules.versions ++
      [publishedVersion execution.ids execution.times programId request.semanticHash] })
  storeGroups execution 0 request.payload.ruleGroups
  pure execution.ids.version

/-- The version that the document is stored for: a new one or the latest. -/
def publicationVersion (programId : UUID) : Program Tables ProcessingError (Option UUID) := do
  let latest ← reading execution (.publication .latestVersion) (readRules fun rules =>
    .ok (getLatestProgramVersion rules.toTables programId))
  if request.publishes then do
    let versionId ← publishVersion execution request programId
    pure (some versionId)
  else pure (latest.map (·.id))

def publish : Program Tables ProcessingError PublishResult := do
  let countryId ← publicationCountry execution request
  let programId ← publicationProgram execution request countryId
  let programVersionId ← publicationVersion execution request programId
  sending execution (.publication .createDocument) (changeRules fun rules =>
    ImmigrationRules.flush { rules.toTables with sourceDocuments := rules.sourceDocuments ++
      [publicationDocument execution.ids execution.times request programVersionId] })
  sending execution (.publication .createExtraction) (changeRules fun rules => do
    let extraction ← publicationExtraction execution.ids request
    ImmigrationRules.flush { rules.toTables with
      sourceExtractions := rules.sourceExtractions ++ [extraction] })
  pure {
    published := request.publishes
    programVersionId := programVersionId
    sourceDocumentId := execution.ids.sourceDocument
    sourceExtractionId := execution.ids.sourceExtraction }

end Publication

/-- `model_dump`. -/
def diffDump (diff : DiffEngine.DiffSummary) : Value :=
  .dict [("changed", .bool diff.changed),
    ("previous_hash", (diff.previousHash.map .str).getD .none),
    ("current_hash", .str diff.currentHash),
    ("semantic_similarity", .float diff.semanticSimilarity),
    ("added_rule_groups", .int diff.addedRuleGroups),
    ("removed_rule_groups", .int diff.removedRuleGroups),
    ("added_conditions", .int diff.addedConditions),
    ("removed_conditions", .int diff.removedConditions),
    ("notes", (diff.notes.map .str).getD .none)]

/-- The diff summary of an item whose raw content is unchanged. -/
def unchangedSummary : Value :=
  .dict [("changed", .bool false), ("reason", .str "raw hash unchanged")]

def unchangedMetadata (fetched : FetchResult) : Value :=
  .dict [("fetch_metadata", fetched.metadataJson)]

/-- The dictionary that `publish` returns. -/
def publishDump (result : PublishResult) : Value :=
  .dict [("published", .bool result.published),
    ("program_version_id", (result.programVersionId.map fun id => .str id.str).getD .none),
    ("source_document_id", .str result.sourceDocumentId.str),
    ("source_extraction_id", .str result.sourceExtractionId.str)]

def completedMetadata (fetched : FetchResult) (result : PublishResult) : Value :=
  .dict [("fetch_etag", (fetched.etag.map .str).getD .none),
    ("fetch_last_modified", (fetched.lastModified.map .str).getD .none),
    ("publish", publishDump result)]

def InQuarantine (source : Source) (now : Instant) : Prop :=
  ∃ quarantineUntil, source.quarantineUntil = some quarantineUntil ∧ now < quarantineUntil

instance (source : Source) (now : Instant) : Decidable (InQuarantine source now) :=
  match found : source.quarantineUntil with
  | none => isFalse (by simp [InQuarantine, found])
  | some quarantineUntil => decidable_of_iff (now < quarantineUntil) (by simp [InQuarantine, found])

section Processing

variable (execution : Execution) (loaded : Loaded)

/-- `if run.status == IngestionRunStatus.pending: ...`. -/
def startRun : Program Tables ProcessingError Unit :=
  if loaded.run.status = .pending then
    sending execution .markRunRunning (setRun { loaded.run with status := .running })
  else pure ()

/-- The first commit: the item is running. -/
def start : Program Tables ProcessingError Unit := do
  startRun execution loaded
  sending execution .markItemRunning (setItem { loaded.item with status := .running })
  committing execution .commitRunning

def leaveQuarantined : Program Tables ProcessingError IngestionRunItemStatus := do
  sending execution .markQuarantined (setItem { loaded.item with status := .quarantined })
  committing execution .commitQuarantined
  pure .quarantined

def skipUnchanged (fetched : FetchResult) (rawHash : String) :
    Program Tables ProcessingError IngestionRunItemStatus := do
  sending execution .markUnchanged (setItem { loaded.item with
    status := .skipped
    rawHashSha256 := rawHash
    diffSummaryJson := unchangedSummary
    metadataJson := unchangedMetadata fetched })
  committing execution .commitUnchanged
  pure .skipped

def extractPayload : Except RaisedException NormalizedProgramPayload := do
  let deterministic ← execution.deterministic
  let payload ←
    if deterministic.confidenceScore.toRat < loaded.source.confidenceThreshold.toRat then
      execution.llmFallback
    else .ok deterministic
  match execution.validation with
  | some exc => .error exc
  | none => .ok payload

section Previous

variable [UnicodeData]

/-- The rule groups of the latest version of a program. -/
def latestRuleGroups (programId : UUID) :
    Program Tables ProcessingError (Option (List RuleGroup)) :=
  reading execution .latestVersion (readRules fun rules =>
    .ok ((getLatestProgramVersion rules.toTables programId).map fun version =>
      DiffEngine.ruleGroupsOf rules.toTables version.id))

def programRuleGroups (payload : NormalizedProgramPayload) :
    Option Country → Program Tables ProcessingError (Option (List RuleGroup))
  | none => pure none
  | some country => do
      match ← reading execution .program (readRules fun rules =>
        getProgramByCountryAndCode rules.toTables country.id payload.programCode) with
      | none => pure none
      | some program => latestRuleGroups execution program.id

/-- The rule groups of the version that the payload is compared with. -/
def previousRuleGroups (payload : NormalizedProgramPayload) :
    Program Tables ProcessingError (Option (List RuleGroup)) := do
  let country ← reading execution .country (readRules fun rules =>
    getCountryByCode rules.toTables payload.countryCode)
  programRuleGroups execution payload country

end Previous

section Comparison

variable [Pydantic] [Sha256]

def replaceSections : Program Tables ProcessingError Unit := do
  let sections ← calling execution.sections
  let _ ← reading execution .silverSections fun _ => .ok ()
  sending execution .replaceSilverSections (replaceSilverSections loaded.item.id
    (sections.map fun part => {
      ingestionRunItemId := loaded.item.id
      sectionKey := part.sectionKey
      semanticHashSha256 := Hashlib.sha256Hex part.textContent }))

def publishRequest (rawHash rawStorageUri : String) (payload : NormalizedProgramPayload)
    (diff : DiffEngine.DiffSummary) : PublishRequest where
  source := loaded.source.toSourceRegistry
  runItemId := loaded.item.id
  payload := payload
  diffChanged := diff.changed
  semanticHash := diff.currentHash
  rawHashSha256 := rawHash
  rawStorageUri := rawStorageUri
  allowPublish := Pipeline.canAutoPublish loaded.source payload

/-- The status of an item whose payload was compared. -/
def finishedStatus (payload : NormalizedProgramPayload) (diff : DiffEngine.DiffSummary) :
    IngestionRunItemStatus :=
  if !Pipeline.canAutoPublish loaded.source payload then .manualReview
  else if !diff.changed then .skipped
  else .completed

/-- The item as `mark_run_item_completed` leaves it. -/
def completedItem (fetched : FetchResult) (rawHash : String)
    (payload : NormalizedProgramPayload) (diff : DiffEngine.DiffSummary)
    (result : PublishResult) : IngestionRunItem :=
  { loaded.item with
    status := finishedStatus loaded payload diff
    rawHashSha256 := rawHash
    semanticHashSha256 := diff.currentHash
    diffSummaryJson := diffDump diff
    metadataJson := completedMetadata fetched result }

def complete (fetched : FetchResult) (rawHash : String) (payload : NormalizedProgramPayload)
    (diff : DiffEngine.DiffSummary) (result : PublishResult) :
    Program Tables ProcessingError IngestionRunItemStatus := do
  sending execution .markCompleted
    (setItem (completedItem loaded fetched rawHash payload diff result))
  sending execution .resetHealth (setSource (Pipeline.resetSourceHealth loaded.source))
  committing execution .commitCompleted
  pure (finishedStatus loaded payload diff)

variable [UnicodeData]

def compareAndPublish (fetched : FetchResult) (rawHash rawStorageUri : String)
    (payload : NormalizedProgramPayload) :
    Program Tables ProcessingError IngestionRunItemStatus := do
  let previousItem ← reading execution .lastCompletedItem fun tables =>
    .ok (getLastCompletedItem loaded.source.id tables)
  let previous ← previousRuleGroups execution payload
  let diff := DiffEngine.compare payload (Pipeline.computeSemanticHash payload)
    (previousItem.bind (·.semanticHashSha256)) previous
  replaceSections execution loaded
  let result ← publish execution (publishRequest loaded rawHash rawStorageUri payload diff)
  complete execution loaded fetched rawHash payload diff result

def collect (fetched : FetchResult) (rawHash : String) :
    Program Tables ProcessingError IngestionRunItemStatus := do
  let rawStorageUri ← calling execution.stored
  sending execution .createBronze (createBronzeDocument
    ⟨loaded.source.id, loaded.item.id, rawHash, execution.bronzeCreatedAt⟩)
  let payload ← calling (extractPayload execution loaded)
  compareAndPublish execution loaded fetched rawHash rawStorageUri payload

/-- What follows the fetch. -/
def processContent (fetched : FetchResult) :
    Program Tables ProcessingError IngestionRunItemStatus := do
  let rawHash := Sha256.hexdigest fetched.content
  let latestBronze ← reading execution .latestBronze fun tables =>
    .ok (getLatestBronzeDocument loaded.source.id tables)
  if latestBronze.any (·.checksumSha256 = rawHash) then
    skipUnchanged execution loaded fetched rawHash
  else collect execution loaded fetched rawHash

def executeProcessing : Program Tables ProcessingError IngestionRunItemStatus := do
  start execution loaded
  if InQuarantine loaded.source execution.now then leaveQuarantined execution loaded
  else do
    let fetched ← calling execution.fetched
    processContent execution loaded fetched

end Comparison

section Failures

variable (settings : Settings) (runItemId : UUID)

/-- The source, if it is still there, with one failure more, and whether it is quarantined. -/
def increaseFailures : Option Source → Program Tables ProcessingError Bool
  | none => pure false
  | some source => do
      let failing := Pipeline.markSourceFailure settings source execution.failedAt
      flush (setSource failing.1)
      pure failing.2

/-- `mark_source_failure` of the gateway. -/
def markSourceFailure (sourceId : UUID) : Program Tables ProcessingError Bool :=
  inTransaction none do
    let source ← query fun tables =>
      .ok (tables.sources.find? fun source => source.id = sourceId)
    increaseFailures execution settings source

/-- The item, if it is still there, with the status of its failure. -/
def markFailed (quarantined : Bool) :
    Option IngestionRunItem → Program Tables ProcessingError Unit
  | none => pure ()
  | some item => do
      flush (setItem { item with status := if quarantined then .quarantined else .failed })
      commit none

def handleProcessingError (source : Source) : Program Tables ProcessingError Unit := do
  let _ ← readAttribute source.sourceKey
  rollback
  let sourceId ← readAttribute source.id
  let quarantined ← markSourceFailure execution settings sourceId
  let item ← query fun tables => .ok (tables.items.find? fun item => item.id = runItemId)
  markFailed quarantined item

variable [UnicodeData] [Pydantic] [Sha256]

def processRunItem : Program Tables ProcessingError IngestionRunItemStatus := do
  let loaded ← reading execution .getRunItem (getRunItem runItemId)
  (executeProcessing execution loaded).catching fun error => do
    handleProcessingError execution settings runItemId loaded.source
    raising error

end Failures

end Processing

end ImigrAI.Ingestion.Processing
