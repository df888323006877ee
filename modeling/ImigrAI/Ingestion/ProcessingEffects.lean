import ImigrAI.Ingestion.Pipeline

/-!
# What an execution leaves

An execution of a run item skips it because the raw content is unchanged, finishes it with the
semantic hash of its payload, or leaves it unfinished.
-/

namespace ImigrAI.Ingestion.Pipeline

open Python ImmigrationRules Fallible Rows

/-- The row stands in the place of the item. -/
structure Replaces (item row : IngestionRunItem) (items left : List IngestionRunItem) : Prop where
  mem : item ∈ items
  id : row.id = item.id
  sourceId : row.sourceId = item.sourceId
  createdAt : row.createdAt = item.createdAt
  items : left = replaceRow (·.id) row items

/-- The item has a status and the semantic hash it had; no document is collected and no rule
changes. -/
structure LeavesWith (status : IngestionRunItemStatus) (tables : Tables) (item : IngestionRunItem)
    (left : Tables) : Prop where
  row : ∃ row, Replaces item row tables.items left.items ∧ row.status = status ∧
    row.semanticHashSha256 = item.semanticHashSha256
  bronze : left.bronzeDocuments = tables.bronzeDocuments
  rules : left.rules = tables.rules

/-- The item has finished with the hash of the diff, and its document is collected. -/
structure Completes (tables : Tables) (item : IngestionRunItem) (diff : DiffSummary)
    (left : Tables) : Prop where
  row : ∃ row, Replaces item row tables.items left.items ∧ Finished row.status ∧
    row.semanticHashSha256 = some diff.currentHash
  bronze : left.bronzeDocuments.map (·.ingestionRunItemId) =
    tables.bronzeDocuments.map (·.ingestionRunItemId) ++ [item.id]
  versions : diff.changed = false → left.rules.versions = tables.rules.versions

section Leaves

variable {settings : Settings} {tables : Tables} {execution : Execution} {item : IngestionRunItem}
  {source : Source} (itemMem : item ∈ tables.items)

include itemMem

theorem leavesWith_setItem (status : IngestionRunItemStatus) (rawHash : Option String) :
    LeavesWith status tables item
      (setItem tables { item with status := status, rawHashSha256 := rawHash }) :=
  ⟨⟨{ item with status := status, rawHashSha256 := rawHash },
    ⟨itemMem, rfl, rfl, rfl, rfl⟩, rfl, rfl⟩, rfl, rfl⟩

theorem leavesWith_markRunning : LeavesWith .running tables item (markRunning tables item) :=
  leavesWith_setItem itemMem .running item.rawHashSha256

theorem leavesWith_handleProcessingError (error : ProcessingError) :
    ∃ status, ¬ Finished status ∧ LeavesWith status tables item
      (handleProcessingError settings (markRunning tables item) source item execution error).1 := by
  cases error with
  | fetch =>
      let status : IngestionRunItemStatus :=
        if (markSourceFailure settings source execution.failedAt).2 then .quarantined else .failed
      have unfinished : ¬ Finished status := by
        simp only [status]
        split_ifs
        · exact not_finished_quarantined
        · exact not_finished_failed
      exact ⟨status, unfinished, ⟨{ item with status := status },
        ⟨itemMem, rfl, rfl, rfl, replaceRow_replaceRow rfl⟩, rfl, rfl⟩, rfl, rfl⟩
  | _ => exact ⟨.running, not_finished_running, leavesWith_markRunning itemMem⟩

variable [UnicodeData]

theorem completes_of_complete {rawHash rawStorageUri : String} {payload : NormalizedProgramPayload}
    {diff : DiffSummary} {left : Tables} {status : IngestionRunItemStatus}
    (done : complete (markRunning tables item) source item execution rawHash rawStorageUri payload
      diff = .ok (left, status)) : Completes tables item diff left := by
  rw [complete] at done
  split_ifs at done
  split at done
  · exact absurd done (by simp)
  · next published result publishing =>
      cases done
      refine ⟨⟨{ item with
        status := finishedStatus source payload diff
        rawHashSha256 := some rawHash
        semanticHashSha256 := some diff.currentHash }, ⟨itemMem, rfl, rfl, rfl, ?_⟩,
        finished_finishedStatus source payload diff, rfl⟩, ?_, ?_⟩
      · exact replaceRow_replaceRow rfl
      · exact List.map_append
      · intro unchanged
        rcases publish_eq_ok publishing with ⟨programId, -, effect⟩
        have idle : (publishRequest source item rawHash rawStorageUri payload diff).publishes =
            false := by
          simp [PublishRequest.publishes, publishRequest, unchanged]
        rw [if_neg (by simp [idle])] at effect
        exact effect.1

end Leaves

section Outcomes

variable [Pydantic] [Sha256]

/-- The payloads that an execution can extract. -/
def Extracts (execution : Execution) (payload : NormalizedProgramPayload) : Prop :=
  execution.deterministic = some payload ∨ execution.llmFallback = some payload

omit [Pydantic] [Sha256] in
theorem raising_eq_ok {Result : Type} {error : ProcessingError} {result : Option Result}
    {value : Result} (ok : raising error result = .ok value) : result = some value := by
  cases result with
  | none => simp [raising] at ok
  | some result => simpa [raising] using ok

omit [Pydantic] [Sha256] in
theorem extracts_of_extractPayload {source : Source} {execution : Execution}
    {payload : NormalizedProgramPayload} (extracted : extractPayload source execution = .ok payload) :
    Extracts execution payload := by
  rcases bind_eq_ok_iff.mp extracted with ⟨deterministic, first, chosen⟩
  split_ifs at chosen
  · exact Or.inr (raising_eq_ok chosen)
  · cases chosen
    exact Or.inl (raising_eq_ok first)

/-- How an examination that raises nothing has gone. -/
theorem examine_eq_ok {tables : Tables} {source : Source} {item : IngestionRunItem}
    {execution : Execution} {examination : Examination}
    (examined : examine tables source item execution = .ok examination) :
    (source.quarantineUntil.any (execution.now < ·) ∧ examination = .quarantined) ∨
      (¬ source.quarantineUntil.any (execution.now < ·) ∧
        ∃ content, execution.content = some content ∧
          (((getLatestBronzeDocument tables source.id).any
                (·.checksumSha256 = Sha256.hexdigest content) ∧
              examination = .rawHashUnchanged (Sha256.hexdigest content)) ∨
            (item.id ∉ tables.bronzeDocuments.map (·.ingestionRunItemId) ∧
              ∃ rawStorageUri payload, extractPayload source execution = .ok payload ∧
                examination = .compared (Sha256.hexdigest content) rawStorageUri payload
                  (compare (computeSemanticHash payload)
                    ((getLastCompletedItem tables source.id).bind (·.semanticHashSha256)))))) := by
  rw [examine] at examined
  split at examined
  · rename_i quarantined
    cases examined
    exact Or.inl ⟨quarantined, rfl⟩
  · rename_i notQuarantined
    right
    refine ⟨notQuarantined, ?_⟩
    cases fetch : execution.content with
    | none => simp [fetch, raising, bind, Except.bind] at examined
    | some content =>
        refine ⟨content, rfl, ?_⟩
        rw [fetch] at examined
        rcases bind_eq_ok_iff.mp examined with ⟨fetched, isFetched, unchanged⟩
        cases isFetched
        dsimp only at unchanged
        split at unchanged
        · rename_i same
          cases unchanged
          exact Or.inl ⟨same, rfl⟩
        · right
          rcases bind_eq_ok_iff.mp unchanged with ⟨rawStorageUri, -, fresh⟩
          split at fresh
          · cases fresh
          · rename_i collected
            rcases bind_eq_ok_iff.mp fresh with ⟨payload, extracted, compared⟩
            cases compared
            exact ⟨collected, rawStorageUri, payload, extracted, rfl⟩

/-- An execution comes as far as the comparison for an item without a collected document only. -/
theorem examine_eq_compared {tables : Tables} {source : Source} {item : IngestionRunItem}
    {execution : Execution} {rawHash rawStorageUri : String} {payload : NormalizedProgramPayload}
    {diff : DiffSummary}
    (examined : examine tables source item execution =
      .ok (.compared rawHash rawStorageUri payload diff)) :
    item.id ∉ tables.bronzeDocuments.map (·.ingestionRunItemId) ∧ Extracts execution payload ∧
      diff = compare (computeSemanticHash payload)
        ((getLastCompletedItem tables source.id).bind (·.semanticHashSha256)) := by
  rcases examine_eq_ok examined with
    ⟨-, other⟩ | ⟨-, content, -, ⟨-, other⟩ | ⟨collected, _, _, extracted, same⟩⟩
  · cases other
  · cases other
  · cases same
    exact ⟨collected, extracts_of_extractPayload extracted, rfl⟩

variable [UnicodeData]

inductive Outcome where
  | rawHashUnchanged
  | computed (payload : NormalizedProgramPayload)
  /-- Quarantined, or left with an exception. -/
  | stopped

def outcome (settings : Settings) (tables : Tables) (source : Source) (item : IngestionRunItem)
    (execution : Execution) : Outcome :=
  match examine (markRunning tables item) source item execution with
  | .ok (.rawHashUnchanged _) => .rawHashUnchanged
  | .ok (.compared _ _ payload _) =>
      match (processRunItem settings tables execution).2 with
      | .ok _ => .computed payload
      | .error _ => .stopped
  | _ => .stopped

variable {settings : Settings} {tables : Tables} {execution : Execution} {item : IngestionRunItem}
  {source : Source}

theorem examine_of_rawHashUnchanged
    (goes : outcome settings tables source item execution = .rawHashUnchanged) :
    ∃ rawHash, examine (markRunning tables item) source item execution =
      .ok (.rawHashUnchanged rawHash) := by
  rw [outcome] at goes
  split at goes
  · next rawHash examined => exact ⟨rawHash, examined⟩
  · split at goes
    · cases goes
    · cases goes
  · cases goes

variable (found : getRunItem tables execution.runItemId = some (item, source))

include found

theorem processRunItem_eq :
    processRunItem settings tables execution =
      settle settings (markRunning tables item) source item execution
        (executeProcessing (markRunning tables item) source item execution) := by
  rw [processRunItem, found]

omit found in
theorem executeProcessing_of_error {error : ProcessingError}
    (examined : examine (markRunning tables item) source item execution = .error error) :
    executeProcessing (markRunning tables item) source item execution = .error error := by
  rw [executeProcessing, examined]
  rfl

omit found in
theorem executeProcessing_of_compared {rawHash rawStorageUri : String}
    {payload : NormalizedProgramPayload} {diff : DiffSummary}
    (examined : examine (markRunning tables item) source item execution =
      .ok (.compared rawHash rawStorageUri payload diff)) :
    executeProcessing (markRunning tables item) source item execution =
      complete (markRunning tables item) source item execution rawHash rawStorageUri payload
        diff := by
  rw [executeProcessing, examined]
  rfl

/-- An exception leaves an item that has not finished. -/
theorem processRunItem_of_error {error : ProcessingError}
    (raised : executeProcessing (markRunning tables item) source item execution = .error error) :
    (∃ status, ¬ Finished status ∧
        LeavesWith status tables item (processRunItem settings tables execution).1) ∧
      ∃ error, (processRunItem settings tables execution).2 = .error error := by
  rw [processRunItem_eq found, raised]
  exact ⟨leavesWith_handleProcessingError (getRunItem_eq_some found).1 error, _, rfl⟩

/-- The three ways an execution can take. -/
theorem processRunItem_cases (settings : Settings) :
    (outcome settings tables source item execution = .rawHashUnchanged ∧
        LeavesWith .skipped tables item (processRunItem settings tables execution).1) ∨
      (∃ rawHash rawStorageUri payload diff,
        outcome settings tables source item execution = .computed payload ∧
        examine (markRunning tables item) source item execution =
          .ok (.compared rawHash rawStorageUri payload diff) ∧
        Completes tables item diff (processRunItem settings tables execution).1) ∨
      (outcome settings tables source item execution = .stopped ∧
        ∃ status, ¬ Finished status ∧
          LeavesWith status tables item (processRunItem settings tables execution).1) := by
  have itemMem := (getRunItem_eq_some found).1
  cases examined : examine (markRunning tables item) source item execution with
  | error error =>
      have raised := executeProcessing_of_error examined
      refine Or.inr (Or.inr ⟨?_, (processRunItem_of_error found raised).1⟩)
      rw [outcome, examined]
  | ok examination =>
      cases examination with
      | quarantined =>
          have done : executeProcessing (markRunning tables item) source item execution =
              .ok (setItem tables { item with status := .quarantined }, .quarantined) := by
            rw [executeProcessing, examined]
            exact congrArg (fun left => Except.ok (left, _)) (setItem_setItem rfl)
          refine Or.inr (Or.inr ⟨by rw [outcome, examined], .quarantined,
            not_finished_quarantined, ?_⟩)
          rw [processRunItem_eq found, done]
          exact leavesWith_setItem itemMem .quarantined item.rawHashSha256
      | rawHashUnchanged rawHash =>
          have done : executeProcessing (markRunning tables item) source item execution =
              .ok (setItem tables { item with
                status := .skipped, rawHashSha256 := some rawHash }, .skipped) := by
            rw [executeProcessing, examined]
            exact congrArg (fun left => Except.ok (left, _)) (setItem_setItem rfl)
          refine Or.inl ⟨by rw [outcome, examined], ?_⟩
          rw [processRunItem_eq found, done]
          exact leavesWith_setItem itemMem .skipped rawHash
      | compared rawHash rawStorageUri payload diff =>
          have goes := executeProcessing_of_compared examined
          have processed : processRunItem settings tables execution = _ := processRunItem_eq found
          cases done : complete (markRunning tables item) source item execution rawHash
              rawStorageUri payload diff with
          | error error =>
              rcases processRunItem_of_error found (goes.trans done) with ⟨leaves, left, raised⟩
              exact Or.inr (Or.inr ⟨by rw [outcome, examined, raised], leaves⟩)
          | ok finished =>
              rw [goes, done] at processed
              refine Or.inr (Or.inl ⟨rawHash, rawStorageUri, payload, diff, ?_, rfl, ?_⟩)
              · rw [outcome, examined, processed]
                rfl
              · rw [processed]
                exact completes_of_complete itemMem done

end Outcomes

end ImigrAI.Ingestion.Pipeline
