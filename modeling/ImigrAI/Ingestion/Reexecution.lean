import ImigrAI.Foundations.Runs
import ImigrAI.Ingestion.ExecutionEffects

/-!
# Executing a task again

`ingest_source_task` for an item that has finished before. Nothing asks for the status of the
item: it is set to `running`, and every ending of the pipeline gives it a status, a diff summary
and metadata of its own. Only an item that was skipped because of its raw content, and is so
again, is left as it was.
-/

namespace ImigrAI.Ingestion.Processing

open Python ImmigrationRules ImigrAI.Core Actions Action Sessions Rows Fallible Runs
open Finalization (IngestionRunStatus Unfinished Failed)
open Pipeline (IngestionRunItemStatus Source Settings Sha256 Finished)

/-- `finalize_run`; of what it writes the processing reads the status of the run. -/
def finalizeRun (fault : Option RaisedException) (runId : UUID) (tables : Tables) :
    Except ProcessingError Tables :=
  match fault with
  | some exc => .error (.external exc)
  | none =>
      match tables.runs.find? fun run => run.id = runId with
      | none => .error (.valueError "ingestion run not found")
      | some run =>
          let items := tables.items.filter fun item => item.ingestionRunId = runId
          let status : IngestionRunStatus :=
            if ∃ item ∈ items, Unfinished item.status then .running
            else if ∃ item ∈ items, Failed item.status then .failed
            else .completed
          .ok { tables with runs := replaceRow (·.id) { run with status := status } tables.runs }

/-- `is_definitive_error`; every other error is transient. -/
def isDefinitive : SessionError ProcessingError → Bool
  | .raised (.valueError _) => true
  | .raised (.external exc) => isDefinitiveError exc
  | .raised (.service error) => error = .integrityError || error = .typeError
  | .pendingRollback | .missingGreenlet => false

/-- One attempt of the task, and what its two calls of `_finalize_run` raise. -/
structure Attempt where
  execution : Execution
  finalizing : Option RaisedException
  deadLettering : Option RaisedException

/-- A message for `ingest_source_task`, with the settings of the worker. -/
structure IngestSourceTask where
  settings : Settings
  maxRetries : ℕ
  runId : UUID
  runItemId : UUID

namespace IngestSourceTask

variable [UnicodeData] [Pydantic] [Sha256] (task : IngestSourceTask)

/-- `_process_run_item` in a session of its own. -/
def processing (attempt : Attempt) (tables : Tables) :
    Except (SessionError ProcessingError) IngestionRunItemStatus × Session Tables :=
  processRunItem attempt.execution task.settings task.runItemId ⟨tables, .closed, false⟩

/-- The `try` block of the task. -/
def perform (attempt : Attempt) (tables : Tables) :
    Except (SessionError ProcessingError) Unit × Tables :=
  match task.processing attempt tables with
  | (.error error, left) => (.error error, left.committed)
  | (.ok _, left) =>
      match finalizeRun attempt.finalizing task.runId left.committed with
      | .error error => (.error (.raised error), left.committed)
      | .ok finalized => (.ok (), finalized)

omit [UnicodeData] [Pydantic] [Sha256] in
def deadLetter (attempt : Attempt) (tables : Tables) : Tables :=
  match finalizeRun attempt.deadLettering task.runId tables with
  | .error _ => tables
  | .ok finalized => finalized

/-- The attempts from one on, as long as retries are left. -/
def run (attempts : ℕ → Attempt) : ℕ → ℕ → Tables → Tables
  | remaining, retries, tables =>
      match task.perform (attempts retries) tables, remaining with
      | (.ok _, after), _ => after
      | (.error _, after), 0 => task.deadLetter (attempts retries) after
      | (.error error, after), remaining + 1 =>
          if isDefinitive error then task.deadLetter (attempts retries) after
          else run attempts remaining (retries + 1) after

def ingestSourceTask (attempts : ℕ → Attempt) (tables : Tables) : Tables :=
  task.run attempts task.maxRetries 0 tables

/-- The attempts that are made, each with the tables before it. -/
def history (attempts : ℕ → Attempt) : ℕ → ℕ → Tables → List (Attempt × Tables)
  | remaining, retries, tables =>
      (attempts retries, tables) ::
        match task.perform (attempts retries) tables, remaining with
        | (.error error, after), remaining + 1 =>
            if isDefinitive error then [] else history attempts remaining (retries + 1) after
        | _, _ => []

omit [UnicodeData] [Pydantic] [Sha256] in
/-- The attempt comes to its first commit. -/
def starts (attempt : Attempt) (tables : Tables) : Bool :=
  match getRunItem task.runItemId tables with
  | .error _ => false
  | .ok loaded => Starts attempt.execution loaded

/-- The last attempt that comes to its first commit, and the tables before it. -/
def lastStarted (attempts : ℕ → Attempt) (tables : Tables) : Option (Attempt × Tables) :=
  ((task.history attempts task.maxRetries 0 tables).filter
    fun made => task.starts made.1 made.2).getLast?

end IngestSourceTask

/-- What an execution has made of an item. -/
structure ItemResult where
  status : IngestionRunItemStatus
  semanticHashSha256 : Option String
  diffSummaryJson : Value
  publish : Option Value

def IngestionRunItem.result (item : IngestionRunItem) : ItemResult where
  status := item.status
  semanticHashSha256 := item.semanticHashSha256
  diffSummaryJson := item.diffSummaryJson
  publish := publishMetadata item.metadataJson

def resultOf (runItemId : UUID) (tables : Tables) : Option ItemResult :=
  (tables.items.find? fun item => item.id = runItemId).map (·.result)

/-- The result of the item and the program versions are as they were. -/
structure Unchanged (runItemId : UUID) (before after : Tables) : Prop where
  item : resultOf runItemId after = resultOf runItemId before
  versions : after.rules.versions = before.rules.versions

/-- The item was skipped because of its raw content before the task, and an attempt skips it again,
with no document that the task has collected. -/
structure SkipsAgain [Sha256] (runItemId : UUID) (item : IngestionRunItem) (before : Tables)
    (execution : Execution) (tables : Tables) : Prop where
  skipped : SkippedUnchanged item
  collected : Collected runItemId tables → Collected runItemId before
  finds : ∃ loaded, getRunItem runItemId tables = .ok loaded ∧
    FindsUnchanged execution loaded tables

instance [Sha256] (runItemId : UUID) (item : IngestionRunItem) (before : Tables)
    (execution : Execution) (tables : Tables) :
    Decidable (SkipsAgain runItemId item before execution tables) :=
  decidable_of_iff (SkippedUnchanged item ∧
      (Collected runItemId tables → Collected runItemId before) ∧
      (getRunItem runItemId tables).toOption.any fun loaded =>
        FindsUnchanged execution loaded tables)
    ⟨fun skips => ⟨skips.1, skips.2.1,
        by simpa [Option.any_eq_true, toOption_eq_some_iff] using skips.2.2⟩,
      fun skips => ⟨skips.skipped, skips.collected,
        by simpa [Option.any_eq_true, toOption_eq_some_iff] using skips.finds⟩⟩

/-- How far the task has come: the item with what it was before, and the last attempt that has come
to its first commit. -/
structure Progress [Sha256] (runItemId : UUID) (item : IngestionRunItem) (before : Tables)
    (latest : Option (Attempt × Tables)) (current : Tables) : Prop where
  collected : Collected runItemId before → Collected runItemId current
  row : ∃ row, current.items.find? (fun item => item.id = runItemId) = some row ∧
    ((Collected runItemId current → Collected runItemId before) →
      row.semanticHashSha256 = item.semanticHashSha256 ∧
        current.rules.versions = before.rules.versions) ∧
    (Collected runItemId current → ¬ Collected runItemId before → row.semanticHashSha256 ≠ none)
  unchanged : Unchanged runItemId before current ↔
    ∀ made ∈ latest, SkipsAgain runItemId item before made.1.execution made.2

theorem unchanged_iff {runItemId : UUID} {item row : IngestionRunItem} {before after : Tables}
    (found : before.items.find? (fun item => item.id = runItemId) = some item)
    (foundAfter : after.items.find? (fun item => item.id = runItemId) = some row) :
    Unchanged runItemId before after ↔
      row.result = item.result ∧ after.rules.versions = before.rules.versions := by
  constructor
  · rintro ⟨same, versions⟩
    rw [resultOf, resultOf, found, foundAfter] at same
    exact ⟨Option.some.inj same, versions⟩
  · rintro ⟨same, versions⟩
    refine ⟨?_, versions⟩
    rw [resultOf, resultOf, found, foundAfter, Option.map_some, Option.map_some, same]

/-- The item that was skipped before is as it was when it is skipped again. -/
theorem result_eq_iff_of_skipped {item row : IngestionRunItem} (skipped : SkippedUnchanged row)
    (sameHash : row.semanticHashSha256 = item.semanticHashSha256) :
    row.result = item.result ↔ SkippedUnchanged item := by
  simp only [IngestionRunItem.result, ItemResult.mk.injEq, sameHash, skipped.status,
    skipped.diffSummary, skipped.publish]
  constructor
  · rintro ⟨status, -, diffSummary, publish⟩
    exact ⟨status.symm, diffSummary.symm, publish.symm⟩
  · rintro ⟨status, diffSummary, publish⟩
    exact ⟨status.symm, trivial, diffSummary.symm, publish.symm⟩

section Attempts

variable [UnicodeData] [Pydantic] [Sha256] {task : IngestSourceTask} {attempt : Attempt}
  {item : IngestionRunItem} {loaded : Loaded} {before current after : Tables}
  {latest : Option (Attempt × Tables)}

omit [UnicodeData] [Pydantic] [Sha256] in
theorem find?_of_items {row : IngestionRunItem}
    (found : getRunItem task.runItemId current = .ok loaded) (id : row.id = loaded.item.id)
    (items : after.items = replaceRow (·.id) row current.items) :
    after.items.find? (fun item => item.id = task.runItemId) = some row := by
  rw [items, find?_replaceRow, (getRunItem_eq_ok found).1, Option.map_some, if_pos id.symm]

omit [UnicodeData] [Pydantic] in
theorem Progress.loaded_row (progress : Progress task.runItemId item before latest current)
    (found : getRunItem task.runItemId current = .ok loaded) :
    ((Collected task.runItemId current → Collected task.runItemId before) →
      loaded.item.semanticHashSha256 = item.semanticHashSha256 ∧
        current.rules.versions = before.rules.versions) ∧
    (Collected task.runItemId current → ¬ Collected task.runItemId before →
      loaded.item.semanticHashSha256 ≠ none) := by
  rcases progress.row with ⟨row, isRow, facts⟩
  rw [(getRunItem_eq_ok found).1] at isRow
  cases isRow
  exact facts

end Attempts

section Steps

variable [UnicodeData] [Pydantic] [Sha256] {task : IngestSourceTask} {attempt : Attempt}
  {item : IngestionRunItem} {loaded : Loaded} {before current after : Tables}
  {latest : Option (Attempt × Tables)}
  (foundItem : before.items.find? (fun item => item.id = task.runItemId) = some item)
  (finished : Finished item.status)
  (sound : item.semanticHashSha256 ≠ none → Collected task.runItemId before)
  (progress : Progress task.runItemId item before latest current)
  (found : getRunItem task.runItemId current = .ok loaded)

include foundItem progress found

omit [UnicodeData] [Pydantic] in
include sound in
theorem Progress.of_leftSkipped (finds : FindsUnchanged attempt.execution loaded current)
    (skipped : LeftSkipped loaded.item current after) :
    Progress task.runItemId item before (some (attempt, current)) after := by
  rcases progress.loaded_row found with ⟨kept, fresh⟩
  rcases skipped.item with ⟨row, id, items, skippedRow, sameHash⟩
  have isRow := find?_of_items found id items
  have sameBronze : Collected task.runItemId after ↔ Collected task.runItemId current := by
    rw [Collected, Collected, skipped.bronze]
  refine ⟨?_, ⟨row, isRow, ?_, ?_⟩, ?_⟩
  · intro collected
    exact sameBronze.mpr (progress.collected collected)
  · intro old
    rw [sameHash, skipped.rules]
    exact kept fun collected => old (sameBronze.mpr collected)
  · intro collected new
    rw [sameHash]
    exact fresh (sameBronze.mp collected) new
  · rw [unchanged_iff foundItem isRow, skipped.rules]
    simp only [Option.mem_def, Option.some.injEq, forall_eq']
    constructor
    · rintro ⟨same, -⟩
      have hash : loaded.item.semanticHashSha256 = item.semanticHashSha256 :=
        sameHash.symm.trans (congrArg ItemResult.semanticHashSha256 same)
      refine ⟨(result_eq_iff_of_skipped skippedRow (sameHash.trans hash)).mp same, ?_,
        loaded, found, finds⟩
      intro collected
      by_contra new
      exact new (sound (hash ▸ fresh collected new))
    · rintro ⟨skippedItem, old, -⟩
      rcases kept old with ⟨hash, versions⟩
      exact ⟨(result_eq_iff_of_skipped skippedRow (sameHash.trans hash)).mpr skippedItem, versions⟩

omit [UnicodeData] [Pydantic] in
include finished sound in
theorem Progress.of_effect (differs : ¬ FindsUnchanged attempt.execution loaded current)
    (effect : Effect attempt.execution loaded current after) :
    Progress task.runItemId item before (some (attempt, current)) after := by
  rcases progress.loaded_row found with ⟨kept, fresh⟩
  have notSkipped : ¬ ∀ made ∈ some (attempt, current),
      SkipsAgain task.runItemId item before made.1.execution made.2 := by
    intro skips
    rcases (skips _ rfl).finds with ⟨result, isResult, finds⟩
    cases found.symm.trans isResult
    exact differs finds
  have isItem : loaded.item.id = task.runItemId := by
    simpa using List.find?_some (getRunItem_eq_ok found).1
  cases effect with
  | unchanged finds _ => exact absurd finds differs
  | disturbed row id items unfinished sameHash bronze rules =>
      have isRow := find?_of_items found id items
      have sameBronze : Collected task.runItemId after ↔ Collected task.runItemId current := by
        rw [Collected, Collected, bronze]
      refine ⟨?_, ⟨row, isRow, ?_, ?_⟩, iff_of_false ?_ notSkipped⟩
      · intro collected
        exact sameBronze.mpr (progress.collected collected)
      · intro old
        rw [sameHash, rules]
        exact kept fun collected => old (sameBronze.mpr collected)
      · intro collected new
        rw [sameHash]
        exact fresh (sameBronze.mp collected) new
      · intro unchanged
        have same := ((unchanged_iff foundItem isRow).mp unchanged).1
        have sameStatus : row.status = item.status := congrArg ItemResult.status same
        exact unfinished (sameStatus ▸ finished)
  | compared row id items carries uncollected collected bronze =>
      rw [isItem] at uncollected collected
      have isRow := find?_of_items found id items
      have new : ¬ Collected task.runItemId before := fun old => uncollected (progress.collected old)
      refine ⟨fun _ => collected, ⟨row, isRow, ?_, fun _ _ => carries⟩, iff_of_false ?_ notSkipped⟩
      · exact fun old => absurd (old collected) new
      · intro unchanged
        have same := ((unchanged_iff foundItem isRow).mp unchanged).1
        have sameHash : row.semanticHashSha256 = item.semanticHashSha256 :=
          congrArg ItemResult.semanticHashSha256 same
        exact new (sound (sameHash ▸ carries))

end Steps

theorem finalizeRun_eq_ok {fault : Option RaisedException} {runId : UUID} {tables finalized : Tables}
    (done : finalizeRun fault runId tables = .ok finalized) :
    ∃ runs, finalized = { tables with runs := runs } := by
  unfold finalizeRun at done
  split at done
  · cases done
  · split at done
    · cases done
    · cases done
      exact ⟨_, rfl⟩

/-- The last selected element of a list, or else an earlier one. -/
theorem getLast?_filter_cons_or {Element : Type*} {selects : Element → Bool} {first : Element}
    {rest : List Element} {earlier : Option Element} :
    ((first :: rest).filter selects).getLast?.or earlier =
      (rest.filter selects).getLast?.or (if selects first then some first else earlier) := by
  rw [List.filter_cons]
  split_ifs with selected
  · rw [List.getLast?_cons]
    cases (rest.filter selects).getLast? <;> rfl
  · rfl

section Run

variable [UnicodeData] [Pydantic] [Sha256] {task : IngestSourceTask}
  {item : IngestionRunItem} {before current : Tables} {latest : Option (Attempt × Tables)}

omit [UnicodeData] [Pydantic] in
theorem Progress.of_finalizeRun {fault : Option RaisedException} {finalized : Tables}
    (progress : Progress task.runItemId item before latest current)
    (done : finalizeRun fault task.runId current = .ok finalized) :
    Progress task.runItemId item before latest finalized := by
  rcases finalizeRun_eq_ok done with ⟨runs, rfl⟩
  refine ⟨progress.collected, progress.row, ?_⟩
  rw [← progress.unchanged]
  exact ⟨fun unchanged => ⟨unchanged.item, unchanged.versions⟩,
    fun unchanged => ⟨unchanged.item, unchanged.versions⟩⟩

omit [UnicodeData] [Pydantic] in
theorem progress_deadLetter (attempt : Attempt)
    (progress : Progress task.runItemId item before latest current) :
    Progress task.runItemId item before latest (task.deadLetter attempt current) := by
  unfold IngestSourceTask.deadLetter
  split
  · exact progress
  · exact progress.of_finalizeRun ‹_›

variable (foundItem : before.items.find? (fun item => item.id = task.runItemId) = some item)
  (finished : Finished item.status)
  (sound : item.semanticHashSha256 ≠ none → Collected task.runItemId before)

include foundItem finished sound

theorem progress_processing (attempt : Attempt)
    (progress : Progress task.runItemId item before latest current) :
    Progress task.runItemId item before
      (if task.starts attempt current then some (attempt, current) else latest)
      (task.processing attempt current).2.committed := by
  cases found : getRunItem task.runItemId current with
  | error error =>
      have same : (task.processing attempt current).2.committed = current :=
        processRunItem_of_error found
      rw [same, if_neg (by simp [IngestSourceTask.starts, found])]
      exact progress
  | ok loaded =>
      have starting : task.starts attempt current = decide (Starts attempt.execution loaded) := by
        simp [IngestSourceTask.starts, found]
      have leaves : Leaves attempt.execution loaded current
          (task.processing attempt current).2.committed := leaves_processRunItem found
      by_cases finds : FindsUnchanged attempt.execution loaded current ∧
          Starts attempt.execution loaded
      · rw [starting, if_pos (by simpa using finds.2)]
        exact progress.of_leftSkipped foundItem sound found finds.1
          (leftSkipped_processRunItem found finds.2 finds.1)
      · generalize (task.processing attempt current).2.committed = committed at leaves ⊢
        rcases leaves with idle | ⟨starts, effect⟩
        · rw [starting, if_neg (by simpa using idle)]
          exact progress
        · rw [starting, if_pos (by simpa using starts)]
          exact progress.of_effect foundItem finished sound found
            (fun finding => finds ⟨finding, starts⟩) effect

theorem progress_perform (attempt : Attempt)
    (progress : Progress task.runItemId item before latest current) :
    Progress task.runItemId item before
      (if task.starts attempt current then some (attempt, current) else latest)
      (task.perform attempt current).2 := by
  have processed := progress_processing foundItem finished sound attempt progress
  unfold IngestSourceTask.perform
  generalize task.processing attempt current = outcome at processed ⊢
  rcases outcome with ⟨error | status, left⟩
  · exact processed
  · cases done : finalizeRun attempt.finalizing task.runId left.committed with
    | error error =>
        simp only [done]
        exact processed
    | ok finalized =>
        simp only [done]
        exact processed.of_finalizeRun done

theorem progress_run (attempts : ℕ → Attempt) (remaining retries : ℕ)
    (progress : Progress task.runItemId item before latest current) :
    Progress task.runItemId item before
      (((task.history attempts remaining retries current).filter
        fun made => task.starts made.1 made.2).getLast?.or latest)
      (task.run attempts remaining retries current) := by
  induction remaining generalizing retries current latest with
  | zero =>
      have performed := progress_perform foundItem finished sound (attempts retries) progress
      unfold IngestSourceTask.history IngestSourceTask.run
      generalize task.perform (attempts retries) current = outcome at performed ⊢
      rcases outcome with ⟨error | _, after⟩
      · rw [getLast?_filter_cons_or]
        exact progress_deadLetter (attempts retries) performed
      · rw [getLast?_filter_cons_or]
        exact performed
  | succ remaining ih =>
      have performed := progress_perform foundItem finished sound (attempts retries) progress
      unfold IngestSourceTask.history IngestSourceTask.run
      generalize task.perform (attempts retries) current = outcome at performed ⊢
      rcases outcome with ⟨error | _, after⟩
      · rw [getLast?_filter_cons_or]
        by_cases definitive : isDefinitive error
        · simp only [if_pos definitive]
          exact progress_deadLetter (attempts retries) performed
        · simp only [if_neg definitive]
          exact ih (retries + 1) performed
      · rw [getLast?_filter_cons_or]
        exact performed

/-- The task leaves the item as it was exactly if nothing was started, or the item was skipped
before and is so again. -/
theorem ingestSourceTask_unchanged_iff (attempts : ℕ → Attempt) :
    Unchanged task.runItemId before (task.ingestSourceTask attempts before) ↔
      ∀ made ∈ task.lastStarted attempts before,
        SkipsAgain task.runItemId item before made.1.execution made.2 := by
  have initial : Progress task.runItemId item before none before := by
    refine ⟨id, ⟨item, foundItem, fun _ => ⟨rfl, rfl⟩, fun old new => absurd old new⟩, ?_⟩
    exact iff_of_true ⟨rfl, rfl⟩ (by simp)
  have ended := (progress_run foundItem finished sound attempts task.maxRetries 0 initial).unchanged
  rwa [Option.or_none] at ended

end Run

/-- What happens to the tables, one thing after the other. -/
inductive Event where
  | createRunItem (id runId sourceId : UUID) (createdAt : Instant)
  | process (execution : Execution) (settings : Settings) (runItemId : UUID)
  /-- Whatever else writes the rules, the sources and the runs. -/
  | elsewhere (rules : Database) (sources : List Source) (runs : List IngestionRun)

/-- `create_run_item`, with `uq_ingestion_run_item_source_once`. -/
def createRunItem (id runId sourceId : UUID) (createdAt : Instant) (tables : Tables) : Tables :=
  if ∃ item ∈ tables.items, item.id = id ∨ item.ingestionRunId = runId ∧ item.sourceId = sourceId then
    tables
  else { tables with items := tables.items ++ [{
    id := id
    sourceId := sourceId
    status := .pending
    createdAt := createdAt
    rawHashSha256 := none
    semanticHashSha256 := none
    ingestionRunId := runId
    diffSummaryJson := .dict []
    metadataJson := .dict [] }] }

def initial (rules : Database) (sources : List Source) (runs : List IngestionRun) : Tables :=
  ⟨rules, sources, runs, [], [], []⟩

/-- A semantic hash is computed of what was collected for the item. -/
def Sound (tables : Tables) : Prop :=
  ∀ item ∈ tables.items, item.semanticHashSha256 ≠ none → Collected item.id tables

section System

variable [UnicodeData] [Pydantic] [Sha256] {tables : Tables}

def step (tables : Tables) : Event → Tables
  | .createRunItem id runId sourceId createdAt => createRunItem id runId sourceId createdAt tables
  | .process execution settings runItemId =>
      (processRunItem execution settings runItemId ⟨tables, .closed, false⟩).2.committed
  | .elsewhere rules sources runs =>
      { tables with rules := rules, sources := sources, runs := runs }

omit [UnicodeData] [Pydantic] [Sha256] in
theorem Sound.createRunItem (sound : Sound tables) (id runId sourceId : UUID)
    (createdAt : Instant) : Sound (createRunItem id runId sourceId createdAt tables) := by
  unfold Processing.createRunItem
  split_ifs with taken
  · exact sound
  · intro item itemMem carries
    rcases List.mem_append.mp itemMem with itemMem | new
    · exact sound item itemMem carries
    · rw [List.mem_singleton.mp new] at carries
      exact absurd rfl carries

omit [UnicodeData] [Pydantic] [Sha256] in
/-- A row keeps the tables sound in the place of the item if it does so itself. -/
theorem Sound.replaceRow {row : IngestionRunItem} {after : Tables}
    (sound : Sound tables) (items : after.items = Rows.replaceRow (·.id) row tables.items)
    (bronze : ∀ id, Collected id tables → Collected id after)
    (soundRow : row.semanticHashSha256 ≠ none → Collected row.id after) : Sound after := by
  intro item itemMem carries
  rw [items] at itemMem
  rcases of_mem_replaceRow itemMem with rfl | ⟨itemMem, -⟩
  · exact soundRow carries
  · exact bronze item.id (sound item itemMem carries)

omit [UnicodeData] [Pydantic] in
theorem Sound.effect {execution : Execution} {runItemId : UUID} {loaded : Loaded} {after : Tables}
    (sound : Sound tables) (found : getRunItem runItemId tables = .ok loaded)
    (effect : Effect execution loaded tables after) : Sound after := by
  have soundItem := sound loaded.item (List.mem_of_find?_eq_some (getRunItem_eq_ok found).1)
  have kept {row : IngestionRunItem} (id : row.id = loaded.item.id)
      (sameHash : row.semanticHashSha256 = loaded.item.semanticHashSha256)
      (items : after.items = Rows.replaceRow (·.id) row tables.items)
      (bronze : after.bronzeDocuments = tables.bronzeDocuments) : Sound after := by
    have sameBronze (id : UUID) : Collected id tables → Collected id after := by
      rw [Collected, Collected, bronze]
      exact fun collected => collected
    refine sound.replaceRow items sameBronze fun carries => ?_
    rw [id]
    exact sameBronze _ (soundItem (sameHash ▸ carries))
  cases effect with
  | disturbed row id items _ sameHash bronze _ => exact kept id sameHash items bronze
  | unchanged _ skipped =>
      rcases skipped.item with ⟨row, id, items, -, sameHash⟩
      exact kept id sameHash items skipped.bronze
  | compared row id items _ _ collected bronze =>
      exact sound.replaceRow items bronze fun _ => id ▸ collected

theorem sound_step (tables : Tables) (event : Event) (sound : Sound tables) :
    Sound (step tables event) := by
  cases event with
  | createRunItem id runId sourceId createdAt =>
      exact sound.createRunItem id runId sourceId createdAt
  | elsewhere rules sources runs => exact sound
  | process execution settings runItemId =>
      cases found : getRunItem runItemId tables with
      | error error =>
          have same : step tables (.process execution settings runItemId) = tables :=
            processRunItem_of_error found
          rwa [same]
      | ok loaded =>
          have leaves : Leaves execution loaded tables
              (step tables (.process execution settings runItemId)) := leaves_processRunItem found
          generalize step tables (.process execution settings runItemId) = after at leaves ⊢
          rcases leaves with _ | ⟨-, effect⟩
          · exact sound
          · exact sound.effect found effect

/-- Executing the task again for an item that has finished. -/
theorem reexecuted_iff (task : IngestSourceTask) (attempts : ℕ → Attempt) (rules : Database)
    (sources : List Source) (runs : List IngestionRun) (events : List Event)
    {item : IngestionRunItem}
    (found : (Runs.run step (initial rules sources runs) events).items.find?
      (fun item => item.id = task.runItemId) = some item)
    (finished : Finished item.status) :
    Unchanged task.runItemId (Runs.run step (initial rules sources runs) events)
        (task.ingestSourceTask attempts (Runs.run step (initial rules sources runs) events)) ↔
      ∀ made ∈ task.lastStarted attempts (Runs.run step (initial rules sources runs) events),
        SkipsAgain task.runItemId item (Runs.run step (initial rules sources runs) events)
          made.1.execution made.2 := by
  have soundInitial : Sound (initial rules sources runs) := by
    intro item itemMem
    cases itemMem
  have sound := invariant_run sound_step soundInitial events
  refine ingestSourceTask_unchanged_iff found finished ?_ attempts
  have isItem : item.id = task.runItemId := by simpa using List.find?_some found
  rw [← isItem]
  exact sound item (List.mem_of_find?_eq_some found)

end System

section Sample

local instance reexecutionUnicodeData : UnicodeData := UnicodeData.ascii

local instance reexecutionPydantic : Pydantic where
  toInt _ := none
  toBool _ := none
  toDecimal _ := none
  toDatetime _ := none
  isoformat datetime := datetime.wallClock.isoformat

/-- The digest of the content "A". -/
local instance reexecutionSha256 : Sha256 where
  sha256Hex _ := "559aead08264d5795d3909718cdd05abd49572e84fe55590eef31a88a08fdffd"
  hexdigest _ := "559aead08264d5795d3909718cdd05abd49572e84fe55590eef31a88a08fdffd"
  sha256Hex_ne_empty := contentDigest_ne_empty

/-- Whenever it is asked, the source returns the same content. -/
def sameContent : Execution := storing (.ok fetchedContent) (.ok "bronze/ca")

/-- The item of one run is reviewed by hand, and that of the next run is skipped. -/
def twoRuns : List Event :=
  [.createRunItem 30 40 19 0, .process sameContent threeFailures 30,
    .createRunItem 31 41 19 1, .process sameContent threeFailures 31]

def afterTwoRuns : Tables :=
  Runs.run step (initial sampleCatalogue [pendingItem.source] [⟨40, .running⟩, ⟨41, .running⟩])
    twoRuns

def skippedItem : IngestionRunItem :=
  (afterTwoRuns.items.find? fun item => item.id = 31).get (by decide +kernel)

/-- The first attempt fails after its processing, in `_finalize_run`. -/
def sameAttempts (retries : ℕ) : Attempt where
  execution := sameContent
  finalizing := if retries = 0 then some httpError else none
  deadLettering := none

theorem reexecuted_skipped :
    Unchanged 31 afterTwoRuns
      (IngestSourceTask.ingestSourceTask ⟨threeFailures, 3, 41, 31⟩ sameAttempts afterTwoRuns) := by
  have found : afterTwoRuns.items.find? (fun item => item.id = 31) = some skippedItem :=
    (Option.some_get _).symm
  refine (reexecuted_iff ⟨threeFailures, 3, 41, 31⟩ sameAttempts sampleCatalogue
    [pendingItem.source] [⟨40, .running⟩, ⟨41, .running⟩] twoRuns found ?_).mpr ?_
  · decide +kernel
  · decide +kernel

/-- The item that is reviewed by hand is skipped when its task is executed again. -/
theorem reviewed_item_is_skipped :
    (afterTwoRuns.items.find? fun item => item.id = 30).map (·.status) = some .manualReview ∧
      ¬ Unchanged 30 afterTwoRuns
        (IngestSourceTask.ingestSourceTask ⟨threeFailures, 3, 40, 30⟩ sameAttempts
          afterTwoRuns) := by
  refine ⟨by decide +kernel, fun unchanged => ?_⟩
  have sameStatus := congrArg (Option.map (·.status)) unchanged.item
  have changed : (resultOf 30 (IngestSourceTask.ingestSourceTask ⟨threeFailures, 3, 40, 30⟩
      sameAttempts afterTwoRuns)).map (·.status) ≠ (resultOf 30 afterTwoRuns).map (·.status) := by
    decide +kernel
  exact changed sameStatus

end Sample

end ImigrAI.Ingestion.Processing
