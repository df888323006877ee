import ImigrAI.Foundations.Rows
import ImigrAI.Ingestion.Publisher
import ImigrAI.Python.Dumps

/-!
# Processing run items

`IngestionPipelineService.process_run_item`: the comparison of the raw content with the last
collected document, extraction, the diff with the last completed item of the source,
publication, and what an exception leaves behind. What is fetched and extracted is an argument,
and so are the outcomes of the storage, new ids and the readings of the clock. The
re-validation of the extracted payload is taken to return it unchanged.
-/

namespace ImigrAI.Ingestion.Pipeline

open Python ImmigrationRules Fallible Rows Sorting

inductive IngestionRunItemStatus where
  | pending
  | running
  | skipped
  | completed
  | failed
  | manualReview
  | quarantined
deriving DecidableEq

/-- The columns of `SourceRegistry` that the processing reads beside those of a publication. -/
structure Source extends SourceRegistry where
  confidenceThreshold : Decimal
  quarantineUntil : Option Instant
  consecutiveFailures : ℤ

structure IngestionRunItem where
  id : UUID
  sourceId : UUID
  status : IngestionRunItemStatus
  createdAt : Instant
  rawHashSha256 : Option String
  semanticHashSha256 : Option String
deriving DecidableEq

structure BronzeDocument where
  sourceId : UUID
  ingestionRunItemId : UUID
  checksumSha256 : String
  createdAt : Instant
deriving DecidableEq

/-- The rules database and the tables of the ingestion. -/
structure Tables where
  rules : Database
  sources : List Source
  items : List IngestionRunItem
  bronzeDocuments : List BronzeDocument

/-- `get_run_item`, with the source of the item. -/
def getRunItem (tables : Tables) (runItemId : UUID) : Option (IngestionRunItem × Source) := do
  let item ← tables.items.find? fun item => item.id = runItemId
  let source ← tables.sources.find? fun source => source.id = item.sourceId
  some (item, source)

/-- `get_latest_bronze_document_by_source`. -/
def getLatestBronzeDocument (tables : Tables) (sourceId : UUID) : Option BronzeDocument :=
  (sortBy (fun document : BronzeDocument => OrderDual.toDual document.createdAt)
    (tables.bronzeDocuments.filter fun document => document.sourceId = sourceId)).head?

/-- The statuses of an item whose processing has come to an end without an error. -/
def Finished (status : IngestionRunItemStatus) : Prop :=
  status = .completed ∨ status = .manualReview ∨ status = .skipped

instance (status : IngestionRunItemStatus) : Decidable (Finished status) :=
  inferInstanceAs (Decidable (_ ∨ _ ∨ _))

def finishedItems (items : List IngestionRunItem) (sourceId : UUID) : List IngestionRunItem :=
  items.filter fun item => item.sourceId = sourceId ∧ Finished item.status

/-- The items are ordered by `created_at.desc()`. -/
def creation (item : IngestionRunItem) : Instantᵒᵈ := OrderDual.toDual item.createdAt

/-- `get_last_completed_item_for_source`. -/
def getLastCompletedItem (tables : Tables) (sourceId : UUID) : Option IngestionRunItem :=
  (sortBy creation (finishedItems tables.items sourceId)).head?

/-- The hash functions of the pipeline; a digest has 64 characters. -/
class Sha256 extends Hashlib where
  /-- `hashlib.sha256(content).hexdigest()`. -/
  hexdigest : List UInt8 → String
  sha256Hex_ne_empty : ∀ text, sha256Hex text ≠ ""

/-- The fields of the diff that the pipeline decides on. -/
structure DiffSummary where
  changed : Bool
  previousHash : Option String
  currentHash : String
deriving DecidableEq

section Diff

variable [Pydantic]

def rawValue : Raw → Value
  | .json json => json.value
  | .datetime datetime => .str (Pydantic.isoformat datetime)

/-- `model_dump(mode="json", exclude={"extracted_at"})`. -/
def dumpedContent (payload : NormalizedProgramPayload) : List (String × Value) :=
  (payload.modelDump.filter fun field => field.1 ≠ "extracted_at").map fun field =>
    (field.1, rawValue field.2)

/-- `DiffEngine.compute_semantic_hash`. -/
def computeSemanticHash [Hashlib] (payload : NormalizedProgramPayload) : String :=
  Hashlib.sha256Hex (Value.dict (dumpedContent payload)).dumps

/-- `DiffEngine.compare`; a missing previous hash never equals the current one. -/
def compare (currentHash : String) (previousHash : Option String) : DiffSummary where
  changed := !(previousHash.any (· ≠ "") && previousHash = some currentHash)
  previousHash := previousHash
  currentHash := currentHash

end Diff

/-- What is not in the database: `none` stands for an exception. -/
structure Execution where
  runItemId : UUID
  now : Instant
  content : Option (List UInt8)
  rawStorageUri : Option String
  bronzeCreatedAt : Instant
  deterministic : Option NormalizedProgramPayload
  llmFallback : Option NormalizedProgramPayload
  replacesSilverSections : Bool
  ids : PublicationIds
  times : PublicationTimes
  /-- The reading of the clock after a failure. -/
  failedAt : Instant

inductive ProcessingError where
  | runItemNotFound
  | fetch
  | storage
  | extraction
  | silverSections
  | service (error : ServiceError)
  | missingGreenlet
deriving DecidableEq

/-- `item.status = status` and its flush. -/
def setItem (tables : Tables) (item : IngestionRunItem) : Tables :=
  { tables with items := replaceRow (·.id) item tables.items }

/-- `mark_run_item_running`, which is committed at once. -/
def markRunning (tables : Tables) (item : IngestionRunItem) : Tables :=
  setItem tables { item with status := .running }

/-- How far `_execute_processing` comes before the sections are replaced. -/
inductive Examination where
  | quarantined
  | rawHashUnchanged (rawHash : String)
  | compared (rawHash rawStorageUri : String) (payload : NormalizedProgramPayload)
      (diff : DiffSummary)

/-- What the calls that are not to the database raise, as `none`. -/
def raising {Result : Type} (error : ProcessingError) : Option Result → Except ProcessingError Result
  | some result => .ok result
  | none => .error error

def extractPayload (source : Source) (execution : Execution) :
    Except ProcessingError NormalizedProgramPayload := do
  let payload ← raising .extraction execution.deterministic
  if payload.confidenceScore.toRat < source.confidenceThreshold.toRat then
    raising .extraction execution.llmFallback
  else .ok payload

section Processing

variable [Pydantic] [Sha256]

/-- The part of `_execute_processing` up to `compare`. -/
def examine (tables : Tables) (source : Source) (item : IngestionRunItem) (execution : Execution) :
    Except ProcessingError Examination :=
  if source.quarantineUntil.any (execution.now < ·) then
    .ok .quarantined
  else do
    let content ← raising .fetch execution.content
    let rawHash := Sha256.hexdigest content
    if (getLatestBronzeDocument tables source.id).any (·.checksumSha256 = rawHash) then
      .ok (.rawHashUnchanged rawHash)
    else
      let rawStorageUri ← raising .storage execution.rawStorageUri
      -- `uq_bronze_document_run_item`.
      if item.id ∈ tables.bronzeDocuments.map (·.ingestionRunItemId) then
        .error (.service .integrityError)
      else
        let payload ← extractPayload source execution
        let previousItem := getLastCompletedItem tables source.id
        let diff := compare (computeSemanticHash payload) (previousItem.bind (·.semanticHashSha256))
        .ok (.compared rawHash rawStorageUri payload diff)

def canAutoPublish (source : Source) (payload : NormalizedProgramPayload) : Bool :=
  !payload.manualReviewRequired &&
    decide (source.confidenceThreshold.toRat ≤ payload.confidenceScore.toRat)

/-- The status of an item whose payload was compared. -/
def finishedStatus (source : Source) (payload : NormalizedProgramPayload) (diff : DiffSummary) :
    IngestionRunItemStatus :=
  if !canAutoPublish source payload then .manualReview
  else if !diff.changed then .skipped
  else .completed

def resetSourceHealth (source : Source) : Source :=
  { source with consecutiveFailures := 0, quarantineUntil := none }

variable [UnicodeData]

def publishRequest (source : Source) (item : IngestionRunItem) (rawHash rawStorageUri : String)
    (payload : NormalizedProgramPayload) (diff : DiffSummary) : PublishRequest where
  source := source.toSourceRegistry
  runItemId := item.id
  payload := payload
  diffChanged := diff.changed
  semanticHash := diff.currentHash
  rawHashSha256 := rawHash
  rawStorageUri := rawStorageUri
  allowPublish := canAutoPublish source payload

/-- The rest of `_execute_processing` after `compare`. -/
def complete (tables : Tables) (source : Source) (item : IngestionRunItem) (execution : Execution)
    (rawHash rawStorageUri : String) (payload : NormalizedProgramPayload) (diff : DiffSummary) :
    Except ProcessingError (Tables × IngestionRunItemStatus) :=
  if !execution.replacesSilverSections then .error .silverSections
  else
    match publish tables.rules execution.ids execution.times
      (publishRequest source item rawHash rawStorageUri payload diff) with
    | .error error => .error (.service error)
    | .ok (published, _) =>
        let status := finishedStatus source payload diff
        .ok ({
          rules := published
          sources := replaceRow (·.id) (resetSourceHealth source) tables.sources
          items := replaceRow (·.id) { item with
            status := status
            rawHashSha256 := rawHash
            semanticHashSha256 := diff.currentHash } tables.items
          bronzeDocuments := tables.bronzeDocuments ++
            [⟨source.id, item.id, rawHash, execution.bronzeCreatedAt⟩] }, status)

/-- `_execute_processing`, after the item has been committed as running. -/
def executeProcessing (running : Tables) (source : Source) (item : IngestionRunItem)
    (execution : Execution) : Except ProcessingError (Tables × IngestionRunItemStatus) := do
  match ← examine running source item execution with
  | .quarantined => .ok (setItem running { item with status := .quarantined }, .quarantined)
  | .rawHashUnchanged rawHash =>
      -- The item keeps its own semantic hash, which a new item does not have.
      .ok (setItem running { item with status := .skipped, rawHashSha256 := rawHash }, .skipped)
  | .compared rawHash rawStorageUri payload diff =>
      complete running source item execution rawHash rawStorageUri payload diff

/-- How long a source is quarantined, and after how many failures. -/
structure Settings where
  quarantineUntil : Instant → Instant
  quarantineAfterFailures : ℤ

/-- `mark_source_failure`: the source, and whether it is quarantined. -/
def markSourceFailure (settings : Settings) (source : Source) (failedAt : Instant) : Source × Bool :=
  let newTotal := source.consecutiveFailures + 1
  let shouldQuarantine := settings.quarantineAfterFailures ≤ newTotal
  ({ source with
    consecutiveFailures := newTotal
    quarantineUntil := if shouldQuarantine then some (settings.quarantineUntil failedAt) else none },
    shouldQuarantine)

/-- `_handle_processing_error`. Unless the fetch has raised, a query has been sent since the last
commit, so the rollback expires the source and reading its id raises: the item stays running. -/
def handleProcessingError (settings : Settings) (running : Tables) (source : Source)
    (item : IngestionRunItem) (execution : Execution) : ProcessingError → Tables × ProcessingError
  | .fetch =>
      let (failing, quarantined) := markSourceFailure settings source execution.failedAt
      let status := if quarantined then .quarantined else .failed
      ({ setItem running { item with status := status } with
        sources := replaceRow (·.id) failing running.sources }, .fetch)
  | _ => (running, .missingGreenlet)

/-- What `process_run_item` leaves and returns or raises once the processing has come to an end. -/
def settle (settings : Settings) (running : Tables) (source : Source) (item : IngestionRunItem)
    (execution : Execution) : Except ProcessingError (Tables × IngestionRunItemStatus) →
      Tables × Except ProcessingError IngestionRunItemStatus
  | .ok processed => (processed.1, .ok processed.2)
  | .error error =>
      let failure := handleProcessingError settings running source item execution error
      (failure.1, .error failure.2)

/-- `process_run_item`: the tables that it leaves, and what it returns or raises. -/
def processRunItem (settings : Settings) (tables : Tables) (execution : Execution) :
    Tables × Except ProcessingError IngestionRunItemStatus :=
  match getRunItem tables execution.runItemId with
  | none => (tables, .error .runItemNotFound)
  | some found =>
      let running := markRunning tables found.1
      settle settings running found.2 found.1 execution
        (executeProcessing running found.2 found.1 execution)

end Processing

section Diff

variable [Pydantic]

/-- The payloads are equal up to `extracted_at`. -/
def SameContent (previous payload : NormalizedProgramPayload) : Prop :=
  { previous with extractedAt := payload.extractedAt } = payload

theorem computeSemanticHash_of_sameContent [Hashlib] {previous payload : NormalizedProgramPayload}
    (same : SameContent previous payload) :
    computeSemanticHash payload = computeSemanticHash previous := by
  rw [← same]
  rfl

/-- A payload is unchanged exactly if its own hash was recorded. -/
theorem changed_compare_eq_false [Sha256] {payload : NormalizedProgramPayload}
    {previousHash : Option String} :
    (compare (computeSemanticHash payload) previousHash).changed = false ↔
      previousHash = some (computeSemanticHash payload) := by
  have nonempty : computeSemanticHash payload ≠ "" := Sha256.sha256Hex_ne_empty _
  simp only [compare, Bool.not_eq_false', Bool.and_eq_true, decide_eq_true_eq,
    and_iff_right_iff_imp]
  rintro rfl
  simp [nonempty]

end Diff

theorem getRunItem_eq_some {tables : Tables} {runItemId : UUID} {item : IngestionRunItem}
    {source : Source} (found : getRunItem tables runItemId = some (item, source)) :
    item ∈ tables.items ∧ source.id = item.sourceId := by
  rcases Option.bind_eq_some_iff.mp found with ⟨foundItem, itemFound, rest⟩
  rcases Option.bind_eq_some_iff.mp rest with ⟨foundSource, sourceFound, same⟩
  cases same
  have sourceId := List.find?_some sourceFound
  exact ⟨List.mem_of_find?_eq_some itemFound, by simpa using sourceId⟩

theorem setItem_setItem {tables : Tables} {first second : IngestionRunItem}
    (same : first.id = second.id) :
    setItem (setItem tables first) second = setItem tables second := by
  rw [setItem, setItem, setItem, replaceRow_replaceRow same]

theorem not_finished_running : ¬ Finished .running := by decide

theorem not_finished_quarantined : ¬ Finished .quarantined := by decide

theorem not_finished_failed : ¬ Finished .failed := by decide

theorem finished_finishedStatus (source : Source) (payload : NormalizedProgramPayload)
    (diff : DiffSummary) : Finished (finishedStatus source payload diff) := by
  rw [finishedStatus]
  split_ifs
  · exact Or.inr (Or.inl rfl)
  · exact Or.inr (Or.inr rfl)
  · exact Or.inl rfl

end ImigrAI.Ingestion.Pipeline
