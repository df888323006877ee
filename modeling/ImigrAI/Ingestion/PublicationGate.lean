import ImigrAI.Ingestion.Extraction
import ImigrAI.Ingestion.ProcessingEffects

/-!
# The gate before publication

A version is published only from a payload that the deterministic extractor built with enough
confidence and that differs from the last one. The fallback asks for a manual review whatever
the model answers, and that closes the gate.
-/

namespace ImigrAI.Ingestion.Pipeline

open Python ImmigrationRules Fallible

/-- What an execution is given that is not in the database; `none` stands for an exception. -/
structure Collection where
  runItemId : UUID
  now : Instant
  fetched : Option FetchResult
  rawStorageUri : Option String
  bronzeCreatedAt : Instant
  extractedAt : Datetime
  /-- What `json.loads` makes of the model's answer. -/
  answer : Option Json
  fallbackExtractedAt : Datetime
  replacesSilverSections : Bool
  ids : PublicationIds
  times : PublicationTimes
  failedAt : Instant

/-- The options of the deterministic extractor, and the columns that only extraction reads. -/
structure Extractors where
  maxSections : ℕ
  details : UUID → SourceDetails

section Collected

variable [UnicodeData] [ContentText] [Pydantic]

def Collection.deterministic (collection : Collection) (extractors : Extractors)
    (source : Source) : Option ExtractResult := do
  let fetched ← collection.fetched
  extractDeterministic extractors.maxSections source (extractors.details source.id) fetched
    collection.extractedAt

def Collection.fallback (collection : Collection) (extractors : Extractors) (source : Source) :
    Option NormalizedProgramPayload := do
  let fetched ← collection.fetched
  let result ← collection.deterministic extractors source
  extractFallback source (extractors.details source.id) result.textContent fetched.title
    collection.fallbackExtractedAt collection.answer

/-- The execution with what the extractors make of the source. -/
def Collection.execution (collection : Collection) (extractors : Extractors) (source : Source) :
    Execution where
  runItemId := collection.runItemId
  now := collection.now
  content := collection.fetched.map (·.content)
  rawStorageUri := collection.rawStorageUri
  bronzeCreatedAt := collection.bronzeCreatedAt
  deterministic := (collection.deterministic extractors source).map (·.payload)
  llmFallback := collection.fallback extractors source
  replacesSilverSections := collection.replacesSilverSections
  ids := collection.ids
  times := collection.times
  failedAt := collection.failedAt

/-- `process_run_item` with the extractors. -/
def processCollected [Sha256] (settings : Settings) (extractors : Extractors) (tables : Tables)
    (collection : Collection) : Tables × Except ProcessingError IngestionRunItemStatus :=
  match getRunItem tables collection.runItemId with
  | none => (tables, .error .runItemNotFound)
  | some (_, source) => processRunItem settings tables (collection.execution extractors source)

end Collected

section Gate

variable [UnicodeData]

/-- A completed execution has the status of its payload, and nothing is published through a
closed gate. -/
theorem complete_eq_ok {tables left : Tables} {source : Source} {item : IngestionRunItem}
    {execution : Execution} {rawHash rawStorageUri : String} {payload : NormalizedProgramPayload}
    {diff : DiffSummary} {status : IngestionRunItemStatus}
    (done : complete tables source item execution rawHash rawStorageUri payload diff =
      .ok (left, status)) :
    status = finishedStatus source payload diff ∧
      (¬ (canAutoPublish source payload ∧ diff.changed) →
        left.rules.versions = tables.rules.versions) := by
  rw [complete] at done
  split_ifs at done
  split at done
  · cases done
  · rename_i published result publishing
    cases done
    refine ⟨rfl, ?_⟩
    intro closed
    rcases publish_eq_ok publishing with ⟨programId, -, effect⟩
    have idle : (publishRequest source item rawHash rawStorageUri payload diff).publishes =
        false := by
      simpa [PublishRequest.publishes, publishRequest] using closed
    rw [if_neg (by simp [idle])] at effect
    exact effect.1

variable [Pydantic] [Sha256] {settings : Settings} {tables : Tables} {execution : Execution}
  {item : IngestionRunItem} {source : Source}
  (found : getRunItem tables execution.runItemId = some (item, source))

include found

theorem processRunItem_of_compared {rawHash rawStorageUri : String}
    {payload : NormalizedProgramPayload} {diff : DiffSummary}
    (examined : examine (markRunning tables item) source item execution =
      .ok (.compared rawHash rawStorageUri payload diff)) :
    processRunItem settings tables execution =
      settle settings (markRunning tables item) source item execution
        (complete (markRunning tables item) source item execution rawHash rawStorageUri payload
          diff) := by
  rw [processRunItem_eq found, executeProcessing_of_compared examined]

/-- A compared payload that keeps the gate closed leaves the versions as they are. -/
theorem closed_processRunItem {rawHash rawStorageUri : String}
    {payload : NormalizedProgramPayload} {diff : DiffSummary}
    (examined : examine (markRunning tables item) source item execution =
      .ok (.compared rawHash rawStorageUri payload diff))
    (closed : ¬ (canAutoPublish source payload ∧ diff.changed)) :
    (processRunItem settings tables execution).1.rules.versions = tables.rules.versions ∧
      ∀ status, (processRunItem settings tables execution).2 = .ok status →
        status = finishedStatus source payload diff := by
  rw [processRunItem_of_compared found examined]
  cases done : complete (markRunning tables item) source item execution rawHash rawStorageUri
      payload diff with
  | error error =>
      rcases leavesWith_handleProcessingError (getRunItem_eq_some found).1 error with
        ⟨status, -, leaves⟩
      exact ⟨congrArg (·.versions) leaves.rules, fun status => by simp [settle]⟩
  | ok processed =>
      rcases complete_eq_ok done with ⟨status, versions⟩
      refine ⟨versions closed, ?_⟩
      intro returned same
      rw [← status]
      exact (Except.ok.inj same).symm

/-- An execution leaves the versions as they are, or its payload has opened the gate. -/
theorem versions_processRunItem :
    (processRunItem settings tables execution).1.rules.versions = tables.rules.versions ∨
      ∃ rawHash rawStorageUri payload diff,
        examine (markRunning tables item) source item execution =
          .ok (.compared rawHash rawStorageUri payload diff) ∧
        canAutoPublish source payload ∧ diff.changed := by
  rcases processRunItem_cases found settings with
    ⟨-, leaves⟩ | ⟨rawHash, rawStorageUri, payload, diff, -, examined, -⟩ | ⟨-, status, -, leaves⟩
  · exact .inl (congrArg (·.versions) leaves.rules)
  · by_cases opened : canAutoPublish source payload ∧ diff.changed
    · exact .inr ⟨rawHash, rawStorageUri, payload, diff, examined, opened⟩
    · exact .inl (closed_processRunItem found examined opened).1
  · exact .inl (congrArg (·.versions) leaves.rules)

end Gate

section Gated

variable [UnicodeData] [ContentText] [Pydantic] [Sha256]

/-- The payload passes all that publication asks for. -/
structure PassesGate (source : Source) (payload : NormalizedProgramPayload) (diff : DiffSummary) :
    Prop where
  parserMode : payload.parserMode = .deterministic
  reviewed : payload.manualReviewRequired = false
  confidence : source.confidenceThreshold.toRat ≤ payload.confidenceScore.toRat
  changed : diff.changed = true

omit [Sha256] in
/-- An open gate admits payloads of the deterministic extractor only. -/
theorem deterministic_of_canAutoPublish {collection : Collection} {extractors : Extractors}
    {source : Source} {payload : NormalizedProgramPayload}
    (extracted : Extracts (collection.execution extractors source) payload)
    (opened : canAutoPublish source payload) :
    ∃ result, collection.deterministic extractors source = some result ∧ result.payload = payload := by
  rcases extracted with deterministic | fallback
  · rcases Option.map_eq_some_iff.mp deterministic with ⟨result, extracted, same⟩
    exact ⟨result, extracted, same⟩
  · rcases Option.bind_eq_some_iff.mp fallback with ⟨fetched, -, fallback⟩
    rcases Option.bind_eq_some_iff.mp fallback with ⟨result, -, fallback⟩
    have review := (extractFallback_eq_some fallback).2
    simp [canAutoPublish, review] at opened

/-- An execution archives or creates a version only from a deterministic payload that needs no
review, has enough confidence and differs; a payload of the fallback leaves the versions as they
are and its item to the manual review. -/
theorem processCollected_gated (settings : Settings) (extractors : Extractors) (tables : Tables)
    (collection : Collection) :
    ((processCollected settings extractors tables collection).1.rules.versions ≠
        tables.rules.versions →
      ∃ item source rawHash rawStorageUri payload diff,
        getRunItem tables collection.runItemId = some (item, source) ∧
        examine (markRunning tables item) source item (collection.execution extractors source) =
          .ok (.compared rawHash rawStorageUri payload diff) ∧
        (∃ result, collection.deterministic extractors source = some result ∧
          result.payload = payload) ∧
        PassesGate source payload diff) ∧
    ∀ item source rawHash rawStorageUri payload diff,
      getRunItem tables collection.runItemId = some (item, source) →
      examine (markRunning tables item) source item (collection.execution extractors source) =
        .ok (.compared rawHash rawStorageUri payload diff) →
      collection.fallback extractors source = some payload →
        (processCollected settings extractors tables collection).1.rules.versions =
          tables.rules.versions ∧
        ∀ status, (processCollected settings extractors tables collection).2 = .ok status →
          status = .manualReview := by
  constructor
  · intro different
    rw [processCollected] at different
    cases found : getRunItem tables collection.runItemId with
    | none =>
        rw [found] at different
        exact absurd rfl different
    | some row =>
        rcases row with ⟨item, source⟩
        rw [found] at different
        have ran : getRunItem tables (collection.execution extractors source).runItemId =
            some (item, source) := found
        rcases versions_processRunItem ran with
          kept | ⟨rawHash, rawStorageUri, payload, diff, examined, opened, changed⟩
        · exact absurd kept different
        · have extracted := (examine_eq_compared examined).2.1
          rcases deterministic_of_canAutoPublish extracted opened with ⟨result, built, rfl⟩
          rcases Option.bind_eq_some_iff.mp built with ⟨fetched, -, extraction⟩
          have mode := (extractDeterministic_eq_some extraction).1
          simp only [canAutoPublish, Bool.and_eq_true, Bool.not_eq_true', decide_eq_true_eq]
            at opened
          exact ⟨item, source, rawHash, rawStorageUri, result.payload, diff, rfl, examined,
            ⟨result, built, rfl⟩, mode, opened.1, opened.2, changed⟩
  · intro item source rawHash rawStorageUri payload diff found examined fallback
    rcases Option.bind_eq_some_iff.mp fallback with ⟨fetched, -, fallback⟩
    rcases Option.bind_eq_some_iff.mp fallback with ⟨result, -, fallback⟩
    have review := (extractFallback_eq_some fallback).2
    have closed : ¬ (canAutoPublish source payload ∧ diff.changed) := by
      simp [canAutoPublish, review]
    have ran : getRunItem tables (collection.execution extractors source).runItemId =
        some (item, source) := found
    rcases closed_processRunItem ran examined closed with ⟨kept, status⟩
    rw [processCollected, found]
    refine ⟨kept, ?_⟩
    intro returned same
    rw [status returned same, finishedStatus, canAutoPublish, review]
    rfl

end Gated

end ImigrAI.Ingestion.Pipeline
