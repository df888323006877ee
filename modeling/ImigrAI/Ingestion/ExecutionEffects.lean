import ImigrAI.Ingestion.FailureHandling

/-!
# What an execution leaves

Every execution of `process_run_item` that comes to its first commit sets the item to `running`,
whatever its status, and leaves it in one of three ways: not finished, skipped because of its raw
content, or with a document of its own and the semantic hash of it.
-/

namespace ImigrAI.Ingestion.Processing

open Python ImmigrationRules ImigrAI.Core Actions Action Sessions Rows Fallible
open Pipeline (IngestionRunItemStatus Settings Sha256 Finished not_finished_running
  not_finished_quarantined not_finished_failed)

/-- An execution comes to its first commit. -/
structure Starts (execution : Execution) (loaded : Loaded) : Prop where
  loads : execution.faults .getRunItem = none
  commits : ¬ FirstCommitFails execution loaded

instance (execution : Execution) (loaded : Loaded) : Decidable (Starts execution loaded) :=
  decidable_of_iff (execution.faults .getRunItem = none ∧
      ¬ ((loaded.run.status = .pending ∧ execution.faults .markRunRunning ≠ none) ∨
        execution.faults .markItemRunning ≠ none ∨ execution.faults .commitRunning ≠ none))
    ⟨fun starts => ⟨starts.1, starts.2⟩, fun starts => ⟨starts.loads, starts.commits⟩⟩

/-- `metadata_json.get("publish")`. -/
def publishMetadata : Value → Option Value
  | .dict entries => Value.lookup "publish" entries
  | _ => none

/-- The item was skipped because of its raw content. -/
structure SkippedUnchanged (item : IngestionRunItem) : Prop where
  status : item.status = .skipped
  diffSummary : item.diffSummaryJson = unchangedSummary
  publish : publishMetadata item.metadataJson = none

def isUnchangedSummary : Value → Bool
  | .dict [(changed, .bool false), (reason, .str text)] =>
      changed = "changed" && reason = "reason" && text = "raw hash unchanged"
  | _ => false

theorem isUnchangedSummary_iff {value : Value} :
    isUnchangedSummary value = true ↔ value = unchangedSummary := by
  constructor
  · intro isSummary
    unfold isUnchangedSummary at isSummary
    split at isSummary
    · simp only [Bool.and_eq_true, decide_eq_true_eq] at isSummary
      rcases isSummary with ⟨⟨rfl, rfl⟩, rfl⟩
      rfl
    · cases isSummary
  · rintro rfl
    rfl

instance (item : IngestionRunItem) : Decidable (SkippedUnchanged item) :=
  decidable_of_iff (item.status = .skipped ∧ isUnchangedSummary item.diffSummaryJson ∧
      publishMetadata item.metadataJson = none)
    ⟨fun skipped => ⟨skipped.1, isUnchangedSummary_iff.mp skipped.2.1, skipped.2.2⟩,
      fun skipped => ⟨skipped.status, isUnchangedSummary_iff.mpr skipped.diffSummary,
        skipped.publish⟩⟩

/-- The source is not in quarantine, what is fetched is what was collected last from it, and the
database refuses nothing of what follows. -/
structure FindsUnchanged [Sha256] (execution : Execution) (loaded : Loaded) (tables : Tables) :
    Prop where
  released : ¬ InQuarantine loaded.source execution.now
  same : ∃ fetched, execution.fetched = .ok fetched ∧
    (getLatestBronzeDocument loaded.source.id tables).any
      (·.checksumSha256 = Sha256.hexdigest fetched.content)
  accepted : execution.faults .latestBronze = none ∧ execution.faults .markUnchanged = none ∧
    execution.faults .commitUnchanged = none

instance [Sha256] (execution : Execution) (loaded : Loaded) (tables : Tables) :
    Decidable (FindsUnchanged execution loaded tables) :=
  decidable_of_iff (¬ InQuarantine loaded.source execution.now ∧
      (execution.fetched.toOption.any fun fetched =>
        (getLatestBronzeDocument loaded.source.id tables).any
          (·.checksumSha256 = Sha256.hexdigest fetched.content)) ∧
      execution.faults .latestBronze = none ∧ execution.faults .markUnchanged = none ∧
        execution.faults .commitUnchanged = none)
    ⟨fun finds => ⟨finds.1, by simpa [Option.any_eq_true, toOption_eq_some_iff] using finds.2.1,
        finds.2.2⟩,
      fun finds => ⟨finds.released,
        by simpa [Option.any_eq_true, toOption_eq_some_iff] using finds.same, finds.accepted⟩⟩

/-- A document was collected for the item. -/
def Collected (runItemId : UUID) (tables : Tables) : Prop :=
  runItemId ∈ tables.bronzeDocuments.map (·.ingestionRunItemId)

instance (runItemId : UUID) (tables : Tables) : Decidable (Collected runItemId tables) :=
  inferInstanceAs (Decidable (_ ∈ _))

/-- The item is skipped because of its raw content, with the hash that it had. -/
structure LeftSkipped (item : IngestionRunItem) (before after : Tables) : Prop where
  item : ∃ row, row.id = item.id ∧ after.items = replaceRow (·.id) row before.items ∧
    SkippedUnchanged row ∧ row.semanticHashSha256 = item.semanticHashSha256
  bronze : after.bronzeDocuments = before.bronzeDocuments
  rules : after.rules = before.rules

/-- What an execution commits after its first commit. -/
inductive Effect [Sha256] (execution : Execution) (loaded : Loaded) (before : Tables) :
    Tables → Prop where
  | disturbed {after : Tables} (row : IngestionRunItem) (id : row.id = loaded.item.id)
      (items : after.items = replaceRow (·.id) row before.items)
      (unfinished : ¬ Finished row.status)
      (sameHash : row.semanticHashSha256 = loaded.item.semanticHashSha256)
      (bronze : after.bronzeDocuments = before.bronzeDocuments) (rules : after.rules = before.rules) :
      Effect execution loaded before after
  | unchanged {after : Tables} (finds : FindsUnchanged execution loaded before)
      (skipped : LeftSkipped loaded.item before after) : Effect execution loaded before after
  | compared {after : Tables} (row : IngestionRunItem) (id : row.id = loaded.item.id)
      (items : after.items = replaceRow (·.id) row before.items)
      (carries : row.semanticHashSha256 ≠ none)
      (uncollected : ¬ Collected loaded.item.id before)
      (collected : Collected loaded.item.id after)
      (bronze : ∀ id, Collected id before → Collected id after) :
      Effect execution loaded before after

/-- What an execution commits. -/
inductive Leaves [Sha256] (execution : Execution) (loaded : Loaded) (before : Tables) :
    Tables → Prop where
  | nothing (idle : ¬ Starts execution loaded) : Leaves execution loaded before before
  | effect {after : Tables} (starts : Starts execution loaded)
      (effect : Effect execution loaded before after) : Leaves execution loaded before after

section Effects

variable {execution : Execution} {settings : Settings} {runItemId : UUID} {loaded : Loaded}
  {before after : Tables}

/-- A row in the place of the running one stands in the place of the item. -/
theorem replaceRow_running {row : IngestionRunItem} (id : row.id = loaded.item.id) :
    replaceRow (·.id) row (runningTables loaded before).items =
      replaceRow (·.id) row before.items :=
  replaceRow_replaceRow id.symm

section Processed

variable [UnicodeData] [Pydantic] [Sha256]

omit [UnicodeData] [Pydantic] in
theorem effect_running : Effect execution loaded before (runningTables loaded before) :=
  .disturbed { loaded.item with status := .running } rfl rfl not_finished_running rfl rfl rfl

omit [UnicodeData] [Pydantic] in
theorem effect_failedTables :
    Effect execution loaded before
      (failedTables settings execution loaded (runningTables loaded before)) := by
  refine .disturbed { loaded.item with
    status :=
      if (Pipeline.markSourceFailure settings loaded.source execution.failedAt).2 then .quarantined
      else .failed } rfl (replaceRow_running rfl) ?_ rfl rfl rfl
  split_ifs
  · exact not_finished_quarantined
  · exact not_finished_failed

omit [UnicodeData] [Pydantic] in
theorem leftSkipped_running {fetched : FetchResult} :
    LeftSkipped loaded.item before { runningTables loaded before with
      items := replaceRow (·.id) { loaded.item with
        status := .skipped
        rawHashSha256 := Sha256.hexdigest fetched.content
        diffSummaryJson := unchangedSummary
        metadataJson := unchangedMetadata fetched } (runningTables loaded before).items } := by
  refine ⟨⟨{ loaded.item with
    status := .skipped
    rawHashSha256 := Sha256.hexdigest fetched.content
    diffSummaryJson := unchangedSummary
    metadataJson := unchangedMetadata fetched }, rfl, replaceRow_running rfl, ⟨rfl, rfl, ?_⟩, rfl⟩,
    rfl, rfl⟩
  simp [publishMetadata, unchangedMetadata, Value.lookup]

theorem effect_of_processed {status : IngestionRunItemStatus}
    (processed : Processed execution loaded (runningTables loaded before) status after) :
    Effect execution loaded before after := by
  cases processed with
  | quarantined quarantine =>
      exact .disturbed { loaded.item with status := .quarantined } rfl (replaceRow_running rfl)
        not_finished_quarantined rfl rfl rfl
  | unchanged released isFetched same accepted =>
      exact .unchanged ⟨released, ⟨_, isFetched, same⟩, accepted⟩ leftSkipped_running
  | @compared fetched _ payload diff result _ _ _ _ uncollected _ bronze items _ =>
      refine .compared (completedItem loaded fetched (Sha256.hexdigest fetched.content) payload diff
        result) rfl (items.trans (replaceRow_running rfl)) ?_ uncollected ?_ ?_
      · simp [completedItem]
      · rw [Collected, bronze]
        simp
      · intro id collected
        rw [Collected, bronze, List.map_append]
        exact List.mem_append_left _ collected

/-- An item that cannot be loaded is left as it is. -/
theorem ensures_processRunItem_of_error {error : ProcessingError}
    (missing : getRunItem runItemId before = .error error) :
    Ensures (Idle before false) (processRunItem execution settings runItemId)
      (fun _ _ => False) (fun _ after => after.committed = before) := by
  have loading : Ensures (Idle before false)
      (reading execution .getRunItem (getRunItem runItemId)) (fun _ _ => False)
      (fun _ after => after.committed = before) := by
    refine (ensures_reading _).weaken (fun _ => Idle.sees) ?_ ?_
    · rintro result after ⟨-, done, -⟩
      cases missing.symm.trans done
    · rintro _ after ⟨-, stuck⟩
      exact stuck.opened.committed
  exact loading.bind fun _ _ impossible => impossible.elim

theorem ensures_processRunItem (found : getRunItem runItemId before = .ok loaded) :
    Ensures (Idle before false) (processRunItem execution settings runItemId)
      (fun _ after => Leaves execution loaded before after.committed)
      (fun _ after => Leaves execution loaded before after.committed) := by
  have loading : Ensures (Idle before false)
      (reading execution .getRunItem (getRunItem runItemId))
      (fun result after => (execution.faults .getRunItem = none ∧ result = loaded) ∧
        Working before before after)
      (fun _ after => Leaves execution loaded before after.committed) := by
    refine (ensures_reading _).weaken (fun _ => Idle.sees) ?_ ?_
    · rintro result after ⟨accepted, done, working⟩
      exact ⟨⟨accepted, Except.ok.inj (done.symm.trans found)⟩, working⟩
    · rintro _ after ⟨refused | ⟨error, impossible⟩, stuck⟩
      · rw [stuck.opened.committed]
        exact .nothing fun starts => refused starts.loads
      · cases found.symm.trans impossible
  refine loading.bind fun result => ensures_of_and ?_
  rintro ⟨loads, rfl⟩
  refine (ensures_executeProcessing.weaken (fun _ => Working.sees) ?_ fun _ _ => id).catching _
    fun raised => ?_
  · rintro status after ⟨commits, left, processed, idle⟩
    rw [idle.committed]
    exact .effect ⟨loads, commits⟩ (effect_of_processed processed)
  · have stuck {committed : Tables} (leaves : Leaves execution result before committed) :
        Ensures (Opened committed)
          (do
            handleProcessingError execution settings runItemId result.source
            raising raised : Program Tables ProcessingError IngestionRunItemStatus)
          (fun _ after => Leaves execution result before after.committed)
          (fun _ after => Leaves execution result before after.committed) := by
      refine ((ensures_handleProcessingError_of_opened _).weaken (fun _ => id) (fun _ _ => id)
        ?_).bind fun _ _ impossible => impossible.elim
      rintro _ after ⟨-, same⟩
      rwa [same]
    rintro session (⟨fails, stuckAt⟩ | ⟨fetch, -, idle⟩ | ⟨commits, -, stuckAt⟩)
    · exact stuck (.nothing fun starts => starts.commits fails) session stuckAt.opened
    · refine ((ensures_handleProcessingError_of_idle found).bind_total fun _ => ?_) session idle
      intro after handled
      show Leaves execution result before after.committed
      rw [handled.committed]
      exact .effect ⟨loads, fetch.started⟩ effect_failedTables
    · exact stuck (.effect ⟨loads, commits⟩ effect_running) session stuckAt.opened

section Accepted

variable {committed tables : Tables} {statement : Statement} {Result : Type}

omit [UnicodeData] [Pydantic] [Sha256] in
theorem ensures_reading_accepted (accepted : execution.faults statement = none)
    (read : Tables → Except ProcessingError Result) {result : Result}
    (ok : read tables = .ok result) :
    Ensures (Sees committed tables false) (reading execution statement read)
      (fun returned after => returned = result ∧ Sees committed tables false after)
      (fun _ _ => False) := by
  refine (ensures_reading _).weaken (fun _ => id) ?_ ?_
  · rintro returned after ⟨-, done, working⟩
    exact ⟨Except.ok.inj (done.symm.trans ok), working.sees⟩
  · rintro _ after ⟨refused | ⟨error, impossible⟩, -⟩
    · exact refused accepted
    · cases ok.symm.trans impossible

omit [UnicodeData] [Pydantic] [Sha256] in
theorem ensures_sendItem_accepted {item : IngestionRunItem} {commitStatement : Statement}
    {status : IngestionRunItemStatus}
    (accepted : execution.faults statement = none ∧ execution.faults commitStatement = none) :
    Ensures (Sees committed tables false)
      (do
        sending execution statement (setItem item)
        committing execution commitStatement
        pure status)
      (fun _ => Idle { tables with items := replaceRow (·.id) item tables.items } false)
      (fun _ _ => False) := by
  have sent : Ensures (Sees committed tables false) (sending execution statement (setItem item))
      (fun _ => Sees committed { tables with items := replaceRow (·.id) item tables.items } false)
      (fun _ _ => False) := by
    refine (ensures_sending _).weaken (fun _ => id) ?_ ?_
    · rintro _ after ⟨-, changed, done, working⟩
      cases done
      exact working.sees
    · rintro _ after ⟨refused | ⟨error, impossible⟩, -⟩
      · exact refused accepted.1
      · cases impossible
  refine sent.bind fun _ => ?_
  refine (ensures_committing.weaken (fun _ => id) (fun _ _ => And.right)
    fun _ _ refused => refused.1 accepted.2).bind fun _ => ?_
  exact fun session idle => idle

end Accepted

/-- An execution that finds the raw content unchanged skips the item. -/
theorem ensures_processRunItem_of_findsUnchanged
    (found : getRunItem runItemId before = .ok loaded) (starts : Starts execution loaded)
    (finds : FindsUnchanged execution loaded before) :
    Ensures (Idle before false) (processRunItem execution settings runItemId)
      (fun _ after => LeftSkipped loaded.item before after.committed) (fun _ _ => False) := by
  rcases finds with ⟨released, ⟨fetched, isFetched, same⟩, ⟨reads, sends⟩⟩
  refine ((ensures_reading_accepted starts.loads _ found).weaken (fun _ => Idle.sees)
    (fun _ _ => id) fun _ _ => id).bind fun result => ensures_of_and ?_
  rintro rfl
  refine Ensures.catching (fun _ _ => False) ?_ fun _ _ impossible => impossible.elim
  refine (ensures_start.weaken (fun _ => id) (fun _ _ => And.right)
    fun _ _ fails => starts.commits fails.1).bind fun _ => ?_
  refine ensures_ite (fun quarantine => absurd quarantine released) fun _ => ?_
  refine ((ensures_calling execution.fetched).weaken (fun _ => id) (fun _ _ => id) ?_).bind
    fun content => ensures_of_and fun isContent => ?_
  · rintro _ after ⟨⟨exc, raises, -⟩, -⟩
    cases isFetched.symm.trans raises
  cases isFetched.symm.trans isContent
  refine ((ensures_reading_accepted reads
    (fun tables => .ok (getLatestBronzeDocument result.source.id tables)) rfl).weaken
      (fun _ => Idle.sees) (fun _ _ => id) fun _ _ => id).bind fun latest => ensures_of_and ?_
  rintro rfl
  refine ensures_ite (fun _ => ?_) fun differs => absurd same differs
  refine (ensures_sendItem_accepted sends).weaken (fun _ => id) ?_ fun _ _ => id
  intro _ session idle
  rw [idle.committed]
  exact leftSkipped_running

theorem leaves_processRunItem (found : getRunItem runItemId before = .ok loaded) :
    Leaves execution loaded before
      (processRunItem execution settings runItemId ⟨before, .closed, false⟩).2.committed :=
  (ensures_processRunItem found).left ⟨rfl, rfl, rfl⟩

theorem leftSkipped_processRunItem (found : getRunItem runItemId before = .ok loaded)
    (starts : Starts execution loaded) (finds : FindsUnchanged execution loaded before) :
    LeftSkipped loaded.item before
      (processRunItem execution settings runItemId ⟨before, .closed, false⟩).2.committed :=
  ((ensures_processRunItem_of_findsUnchanged found starts finds).weaken (fun _ => id)
    (fun _ _ => id) fun _ _ impossible => impossible.elim).left ⟨rfl, rfl, rfl⟩

theorem processRunItem_of_error {error : ProcessingError}
    (missing : getRunItem runItemId before = .error error) :
    (processRunItem execution settings runItemId ⟨before, .closed, false⟩).2.committed = before :=
  ((ensures_processRunItem_of_error missing).weaken (fun _ => id)
    (fun _ _ impossible => impossible.elim) fun _ _ => id).left ⟨rfl, rfl, rfl⟩

end Processed

end Effects

end ImigrAI.Ingestion.Processing
