import ImigrAI.Foundations.Fallible
import ImigrAI.Ingestion.ProcessingSessions

/-!
# What the failure of an ingestion leaves

The handler of `process_run_item` rolls back and then reads the id of the source that was loaded
before. The rollback of an open transaction has expired it, so the handler raises in its turn and
the item stays `running`. No transaction is open when the fetch raises: that failure alone is
persisted and raised again.
-/

namespace ImigrAI.Ingestion.Processing

open Python ImmigrationRules ImigrAI.Core Actions Action Sessions Rows Fallible
open Finalization (IngestionRunStatus)
open Pipeline (IngestionRunItemStatus Source Settings Sha256)

/-- A transaction is open, in which nothing has failed. -/
structure Working (committed tables : Tables) (session : Session Tables) : Prop where
  sees : Sees committed tables false session
  opened : Opened committed session

/-- What the code has raised, with a transaction that is open or has failed. -/
structure Stuck (committed : Tables) (raised : SessionError ProcessingError)
    (session : Session Tables) : Prop where
  raised : ∃ error, raised = .raised error
  opened : Opened committed session

section Statements

variable {execution : Execution} {statement : Statement} {committed tables : Tables}
  {Result : Type}

theorem unlessRefused_eq_ok {run : Tables → Except ProcessingError Result} {result : Result}
    (done : unlessRefused execution statement run tables = .ok result) :
    execution.faults statement = none ∧ run tables = .ok result := by
  unfold unlessRefused at done
  cases fault : execution.faults statement with
  | none =>
      rw [fault] at done
      exact ⟨rfl, done⟩
  | some exc =>
      rw [fault] at done
      cases done

theorem unlessRefused_eq_error {run : Tables → Except ProcessingError Result}
    {error : ProcessingError} (refused : unlessRefused execution statement run tables = .error error) :
    execution.faults statement ≠ none ∨ run tables = .error error := by
  unfold unlessRefused at refused
  cases fault : execution.faults statement with
  | none =>
      rw [fault] at refused
      exact Or.inr refused
  | some exc => simp

theorem ensures_reading (read : Tables → Except ProcessingError Result) :
    Ensures (Sees committed tables false) (reading execution statement read)
      (fun result after => execution.faults statement = none ∧ read tables = .ok result ∧
        Working committed tables after)
      (fun raised after => (execution.faults statement ≠ none ∨ ∃ error, read tables = .error error) ∧
        Stuck committed raised after) := by
  refine (ensures_query _).weaken (fun _ => id) ?_ ?_
  · rintro result after ⟨done, sees, opened⟩
    exact ⟨(unlessRefused_eq_ok done).1, (unlessRefused_eq_ok done).2, sees, opened⟩
  · rintro _ after ⟨error, rfl, refused, -, opened⟩
    refine ⟨?_, ⟨error, rfl⟩, opened⟩
    exact (unlessRefused_eq_error refused).imp_right fun failed => ⟨error, failed⟩

theorem ensures_reading_stuck (read : Tables → Except ProcessingError Result) :
    Ensures (Sees committed tables false) (reading execution statement read)
      (fun result after => read tables = .ok result ∧ Working committed tables after)
      (Stuck committed) :=
  (ensures_reading read).weaken (fun _ => id) (fun _ _ => And.right) fun _ _ => And.right

theorem of_reading {session after : Session Tables} {read : Tables → Except ProcessingError Result}
    {result : Result} (sees : Sees committed tables false session)
    (done : reading execution statement read session = (.ok result, after)) :
    read tables = .ok result ∧ Working committed tables after :=
  (ensures_iff.mp (ensures_reading_stuck read) session sees).1 result after done

theorem ensures_sending (change : Tables → Except ProcessingError Tables) :
    Ensures (Sees committed tables false) (sending execution statement change)
      (fun _ after => execution.faults statement = none ∧
        ∃ changed, change tables = .ok changed ∧ Working committed changed after)
      (fun raised after => (execution.faults statement ≠ none ∨ ∃ error, change tables = .error error) ∧
        Stuck committed raised after) := by
  refine (ensures_flush _).weaken (fun _ => id) ?_ ?_
  · rintro _ after ⟨changed, done, sees, opened⟩
    exact ⟨(unlessRefused_eq_ok done).1, changed, (unlessRefused_eq_ok done).2, sees, opened⟩
  · rintro _ after ⟨error, rfl, refused, broken⟩
    refine ⟨?_, ⟨error, rfl⟩, broken.opened⟩
    exact (unlessRefused_eq_error refused).imp_right fun failed => ⟨error, failed⟩

theorem ensures_sending_stuck (change : Tables → Except ProcessingError Tables) :
    Ensures (Sees committed tables false) (sending execution statement change)
      (fun _ after => ∃ changed, change tables = .ok changed ∧ Working committed changed after)
      (Stuck committed) :=
  (ensures_sending change).weaken (fun _ => id) (fun _ _ => And.right) fun _ _ => And.right

theorem ensures_committing :
    Ensures (Sees committed tables false) (committing execution statement)
      (fun _ after => execution.faults statement = none ∧ Idle tables false after)
      (fun raised after => execution.faults statement ≠ none ∧ Stuck committed raised after) := by
  refine (ensures_commit _).weaken (fun _ => id) ?_ ?_
  · rintro _ after ⟨accepted, idle⟩
    exact ⟨by simpa using accepted, idle⟩
  · rintro _ after ⟨error, rfl, refused, -, opened⟩
    refine ⟨?_, ⟨error, rfl⟩, opened⟩
    rcases Option.map_eq_some_iff.mp refused with ⟨exc, fault, -⟩
    simp [fault]

/-- A call that does not go to the database leaves the session as it is. -/
theorem ensures_calling {before : Session Tables → Prop}
    (computation : Except RaisedException Result) :
    Ensures before (calling computation)
      (fun result after => computation = .ok result ∧ before after)
      (fun raised after => (∃ exc, computation = .error exc ∧ raised = .raised (.external exc)) ∧
        before after) := by
  intro session holds
  cases computation with
  | ok result => exact ⟨rfl, holds⟩
  | error exc => exact ⟨⟨exc, rfl, rfl⟩, holds⟩

theorem ensures_calling_stuck (computation : Except RaisedException Result) :
    Ensures (Working committed tables) (calling computation)
      (fun result after => computation = .ok result ∧ Working committed tables after)
      (Stuck committed) := by
  refine (ensures_calling computation).weaken (fun _ => id) (fun _ _ => id) ?_
  rintro _ after ⟨⟨exc, -, rfl⟩, working⟩
  exact ⟨⟨_, rfl⟩, working.opened⟩

theorem readRules_eq_ok {read : Database → Except ServiceError Result} {result : Result}
    (done : readRules read tables = .ok result) : read tables.rules = .ok result :=
  mapError_eq_ok_iff.mp done

theorem changeRules_eq_ok {change : Database → Except ServiceError Database} {changed : Tables}
    (done : changeRules change tables = .ok changed) :
    ∃ rules, change tables.rules = .ok rules ∧ changed = { tables with rules := rules } := by
  rcases map_eq_ok_iff.mp done with ⟨rules, ok, same⟩
  exact ⟨rules, mapError_eq_ok_iff.mp ok, same.symm⟩

end Statements

/-- A program that returns has computed on the rules what the function does. -/
def Computes {Result : Type} (program : Program Tables ProcessingError Result)
    (function : Database → Except ServiceError (Database × Result)) : Prop :=
  ∀ committed tables, Ensures (Sees committed tables false) program
    (fun result after => ∃ rules, function tables.rules = .ok (rules, result) ∧
      Sees committed { tables with rules := rules } false after)
    (Stuck committed)

section Computes

variable {Result Next : Type} {execution : Execution} {statement : Statement}

theorem computes_pure (result : Result) :
    Computes (pure result) fun rules => .ok (rules, result) :=
  fun _ tables _ sees => ⟨tables.rules, rfl, sees⟩

theorem computes_reading (read : Database → Except ServiceError Result) :
    Computes (reading execution statement (readRules read)) fun rules =>
      (read rules).map fun result => (rules, result) := by
  intro committed tables
  refine (ensures_reading_stuck _).weaken (fun _ => id) ?_ fun _ _ => id
  rintro result after ⟨done, working⟩
  exact ⟨tables.rules, map_eq_ok_iff.mpr ⟨result, readRules_eq_ok done, rfl⟩, working.sees⟩

theorem computes_sending (change : Database → Except ServiceError Database) :
    Computes (sending execution statement (changeRules change)) fun rules =>
      (change rules).map fun changed => (changed, ()) := by
  intro committed tables
  refine (ensures_sending_stuck _).weaken (fun _ => id) ?_ fun _ _ => id
  rintro _ after ⟨changed, done, working⟩
  rcases changeRules_eq_ok done with ⟨rules, ok, rfl⟩
  exact ⟨rules, map_eq_ok_iff.mpr ⟨rules, ok, rfl⟩, working.sees⟩

theorem Computes.bind {program : Program Tables ProcessingError Result}
    {next : Result → Program Tables ProcessingError Next}
    {function : Database → Except ServiceError (Database × Result)}
    {rest : Result → Database → Except ServiceError (Database × Next)}
    (computes : Computes program function)
    (computesNext : ∀ result, Computes (next result) (rest result)) :
    Computes (program >>= next) fun rules =>
      function rules >>= fun left => rest left.2 left.1 := by
  intro committed tables
  refine (computes committed tables).bind fun result => ?_
  refine ensures_of_exists fun rules => ensures_of_and fun first => ?_
  refine (computesNext result committed { tables with rules := rules }).weaken (fun _ => id) ?_
    fun _ _ => id
  rintro last after ⟨changed, second, sees⟩
  exact ⟨changed, bind_eq_ok_iff.mpr ⟨(rules, result), first, second⟩, sees⟩

/-- A program computes whatever gives the same results. -/
theorem Computes.imp {program : Program Tables ProcessingError Result}
    {function other : Database → Except ServiceError (Database × Result)}
    (computes : Computes program function)
    (implied : ∀ rules left, function rules = .ok left → other rules = .ok left) :
    Computes program other := by
  intro committed tables
  refine (computes committed tables).weaken (fun _ => id) ?_ fun _ _ => id
  rintro result after ⟨rules, done, sees⟩
  exact ⟨rules, implied _ _ done, sees⟩

end Computes

section Publication

variable [UnicodeData] {execution : Execution} {request : PublishRequest}

omit [UnicodeData] in
theorem computes_findOrCreate (found : Option UUID) (statement : PublicationStatement) (id : UUID)
    (create : Database → Except ServiceError Database) :
    Computes (findOrCreate execution found statement id create) fun rules =>
      match found with
      | some existing => .ok (rules, existing)
      | none => create rules >>= fun created => .ok (created, id) := by
  cases found with
  | some existing => exact computes_pure existing
  | none =>
      apply ((computes_sending create).bind fun _ => computes_pure id).imp
      intro rules left done
      rcases bind_eq_ok_iff.mp done with ⟨⟨_, _⟩, created, same⟩
      rcases map_eq_ok_iff.mp created with ⟨_, sent, ⟨rfl, -⟩⟩
      exact bind_eq_ok_iff.mpr ⟨_, sent, same⟩

theorem computes_publicationCountry :
    Computes (publicationCountry execution request) fun rules =>
      Ingestion.publicationCountry rules execution.ids request.payload := by
  apply ((computes_reading _).bind fun country => computes_findOrCreate _ _ _ _).imp
  intro rules left done
  rcases bind_eq_ok_iff.mp done with ⟨⟨_, country⟩, looked, created⟩
  rcases map_eq_ok_iff.mp looked with ⟨_, lookup, ⟨rfl, rfl⟩⟩
  refine bind_eq_ok_iff.mpr ⟨country, lookup, ?_⟩
  cases country with
  | none => exact created
  | some country => exact created

omit [UnicodeData] in
theorem computes_publicationProgram (countryId : UUID) :
    Computes (publicationProgram execution request countryId) fun rules =>
      Ingestion.publicationProgram rules execution.ids countryId request := by
  apply ((computes_reading _).bind fun program => computes_findOrCreate _ _ _ _).imp
  intro rules left done
  rcases bind_eq_ok_iff.mp done with ⟨⟨_, program⟩, looked, created⟩
  rcases map_eq_ok_iff.mp looked with ⟨_, lookup, ⟨rfl, rfl⟩⟩
  refine bind_eq_ok_iff.mpr ⟨program, lookup, ?_⟩
  cases program with
  | none => exact created
  | some program => exact created

omit [UnicodeData] in
theorem computes_storeGroups (position : ℕ) (groups : List NormalizedRuleGroup) :
    Computes (storeGroups execution position groups) fun rules =>
      (Ingestion.storeGroups execution.ids execution.ids.version position groups rules).map
        fun stored => (stored, ()) := by
  induction groups generalizing position with
  | nil => exact computes_pure ()
  | cons group rest ih =>
      apply ((computes_sending _).bind fun _ => ih (position + 1)).imp
      intro rules left done
      rcases bind_eq_ok_iff.mp done with ⟨⟨changed, _⟩, sent, others⟩
      rcases map_eq_ok_iff.mp sent with ⟨_, first, ⟨rfl, -⟩⟩
      rcases bind_eq_ok_iff.mp first with ⟨row, made, flushed⟩
      rcases map_eq_ok_iff.mp others with ⟨stored, storing, rfl⟩
      refine map_eq_ok_iff.mpr ⟨stored, ?_, rfl⟩
      exact bind_eq_ok_iff.mpr ⟨row, made, bind_eq_ok_iff.mpr ⟨changed, flushed, storing⟩⟩

omit [UnicodeData] in
/-- Without active versions there is nothing to archive. -/
theorem archiveProgramVersions_of_no_active {programId : UUID} {archivedAt : Instant}
    {versions : List ProgramVersion}
    (noActive : versions.filter (fun version =>
      version.programId = programId ∧ version.status = .active) = []) :
    archiveProgramVersions programId archivedAt versions = versions := by
  rw [archiveProgramVersions]
  conv_rhs => rw [← List.map_id versions]
  refine List.map_congr_left fun version versionMem => ?_
  have inactive := List.filter_eq_nil_iff.mp noActive version versionMem
  rw [decide_eq_true_eq] at inactive
  exact if_neg inactive

omit [UnicodeData] in
theorem computes_publishVersion (programId : UUID) :
    Computes (publishVersion execution request programId) fun rules =>
      Ingestion.publishVersion rules execution.ids execution.times programId request.payload
        request.semanticHash := by
  have archiving (activeVersions : List ProgramVersion) :
      Computes (archiveActive execution programId activeVersions) fun rules =>
        (if activeVersions = [] then .ok rules else ImmigrationRules.flush { rules.toTables with
          versions := archiveProgramVersions programId execution.times.now rules.versions }).map
          fun archived => (archived, ()) := by
    unfold archiveActive
    by_cases noActive : activeVersions = []
    · simp only [if_pos noActive]
      exact computes_pure ()
    · simp only [if_neg noActive]
      exact computes_sending _
  apply ((computes_reading _).bind fun activeVersions => (archiving activeVersions).bind fun _ =>
    (computes_sending _).bind fun _ => (computes_storeGroups 0 request.payload.ruleGroups).bind
      fun _ => computes_pure execution.ids.version).imp
  intro rules left done
  rcases bind_eq_ok_iff.mp done with ⟨⟨_, activeVersions⟩, looked, done⟩
  rcases map_eq_ok_iff.mp looked with ⟨_, lookup, ⟨rfl, rfl⟩⟩
  cases lookup
  rcases bind_eq_ok_iff.mp done with ⟨⟨archived, _⟩, archivedSent, done⟩
  rcases map_eq_ok_iff.mp archivedSent with ⟨_, archivedFlushed, ⟨rfl, -⟩⟩
  rcases bind_eq_ok_iff.mp done with ⟨⟨created, _⟩, createdSent, done⟩
  rcases map_eq_ok_iff.mp createdSent with ⟨_, createdFlushed, ⟨rfl, -⟩⟩
  rcases bind_eq_ok_iff.mp done with ⟨⟨stored, _⟩, storedGroups, done⟩
  rcases map_eq_ok_iff.mp storedGroups with ⟨_, storing, ⟨rfl, -⟩⟩
  refine bind_eq_ok_iff.mpr ⟨archived, ?_, bind_eq_ok_iff.mpr ⟨created, createdFlushed,
    bind_eq_ok_iff.mpr ⟨stored, storing, done⟩⟩⟩
  split_ifs at archivedFlushed with noActive
  · cases archivedFlushed
    rw [flush_eq_ok_iff, archiveProgramVersions_of_no_active noActive]
  · exact archivedFlushed

omit [UnicodeData] in
theorem computes_publicationVersion (programId : UUID) :
    Computes (publicationVersion execution request programId) fun rules =>
      Ingestion.publicationVersion rules execution.ids execution.times programId request := by
  unfold publicationVersion Ingestion.publicationVersion
  by_cases publishes : request.publishes
  · simp only [if_pos publishes]
    apply ((computes_reading _).bind fun _ =>
      (computes_publishVersion programId).bind fun versionId => computes_pure (some versionId)).imp
    intro rules left done
    rcases bind_eq_ok_iff.mp done with ⟨⟨_, latest⟩, looked, published⟩
    rcases map_eq_ok_iff.mp looked with ⟨_, -, ⟨rfl, rfl⟩⟩
    exact published
  · simp only [if_neg publishes]
    apply ((computes_reading _).bind fun latest : Option ProgramVersion =>
      computes_pure (latest.map (·.id))).imp
    intro rules left done
    rcases bind_eq_ok_iff.mp done with ⟨⟨_, latest⟩, looked, chosen⟩
    rcases map_eq_ok_iff.mp looked with ⟨_, lookup, ⟨rfl, rfl⟩⟩
    cases lookup
    exact chosen

/-- What the session computes is what a publication does to the rules. -/
theorem computes_publish :
    Computes (publish execution request) fun rules =>
      Ingestion.publish rules execution.ids execution.times request := by
  apply (computes_publicationCountry.bind fun countryId =>
    (computes_publicationProgram countryId).bind fun programId =>
    (computes_publicationVersion programId).bind fun versionId =>
    (computes_sending _).bind fun _ => (computes_sending _).bind fun _ => computes_pure _).imp
  intro rules left done
  rcases bind_eq_ok_iff.mp done with ⟨named, naming, done⟩
  rcases bind_eq_ok_iff.mp done with ⟨targeted, targeting, done⟩
  rcases bind_eq_ok_iff.mp done with ⟨versioned, versioning, done⟩
  rcases bind_eq_ok_iff.mp done with ⟨⟨documented, _⟩, documenting, done⟩
  rcases map_eq_ok_iff.mp documenting with ⟨_, documentSent, ⟨rfl, -⟩⟩
  rcases bind_eq_ok_iff.mp done with ⟨⟨extracted, _⟩, extracting, done⟩
  rcases map_eq_ok_iff.mp extracting with ⟨_, extractionSent, ⟨rfl, -⟩⟩
  rcases bind_eq_ok_iff.mp extractionSent with ⟨extraction, made, sent⟩
  exact bind_eq_ok_iff.mpr ⟨named, naming, bind_eq_ok_iff.mpr ⟨targeted, targeting,
    bind_eq_ok_iff.mpr ⟨versioned, versioning, bind_eq_ok_iff.mpr ⟨documented, documentSent,
      bind_eq_ok_iff.mpr ⟨extraction, made, bind_eq_ok_iff.mpr ⟨extracted, sent, done⟩⟩⟩⟩⟩⟩

end Publication

/-- The item, and its run if it was pending, are running. -/
def runningTables (loaded : Loaded) (tables : Tables) : Tables :=
  { tables with
    runs :=
      if loaded.run.status = .pending then
        replaceRow (·.id) { loaded.run with status := .running } tables.runs
      else tables.runs
    items := replaceRow (·.id) { loaded.item with status := .running } tables.items }

/-- The database refuses a statement up to the first commit. -/
def FirstCommitFails (execution : Execution) (loaded : Loaded) : Prop :=
  (loaded.run.status = .pending ∧ execution.faults .markRunRunning ≠ none) ∨
    execution.faults .markItemRunning ≠ none ∨ execution.faults .commitRunning ≠ none

/-- The item is running, its source is not in quarantine, and the fetch raises. -/
structure FetchRaises (execution : Execution) (loaded : Loaded) (exc : RaisedException) : Prop where
  started : ¬ FirstCommitFails execution loaded
  released : ¬ InQuarantine loaded.source execution.now
  fetched : execution.fetched = .error exc

/-- What is stored when the processing returns. -/
inductive Processed [UnicodeData] [Pydantic] [Sha256] (execution : Execution) (loaded : Loaded)
    (running : Tables) : IngestionRunItemStatus → Tables → Prop where
  | quarantined (quarantine : InQuarantine loaded.source execution.now) :
      Processed execution loaded running .quarantined { running with
        items := replaceRow (·.id) { loaded.item with status := .quarantined } running.items }
  | unchanged {fetched : FetchResult} (released : ¬ InQuarantine loaded.source execution.now)
      (isFetched : execution.fetched = .ok fetched)
      (same : (getLatestBronzeDocument loaded.source.id running).any
        (·.checksumSha256 = Sha256.hexdigest fetched.content))
      (accepted : execution.faults .latestBronze = none ∧ execution.faults .markUnchanged = none ∧
        execution.faults .commitUnchanged = none) :
      Processed execution loaded running .skipped { running with
        items := replaceRow (·.id) { loaded.item with
          status := .skipped
          rawHashSha256 := Sha256.hexdigest fetched.content
          diffSummaryJson := unchangedSummary
          metadataJson := unchangedMetadata fetched } running.items }
  | compared {fetched : FetchResult} {rawStorageUri : String} {payload : NormalizedProgramPayload}
      {diff : DiffEngine.DiffSummary} {result : PublishResult} {left : Tables}
      (released : ¬ InQuarantine loaded.source execution.now)
      (isFetched : execution.fetched = .ok fetched)
      (differs : ¬ (getLatestBronzeDocument loaded.source.id running).any
        (·.checksumSha256 = Sha256.hexdigest fetched.content))
      (uncollected : loaded.item.id ∉ running.bronzeDocuments.map (·.ingestionRunItemId))
      (publishing : Ingestion.publish running.rules execution.ids execution.times
        (publishRequest loaded (Sha256.hexdigest fetched.content) rawStorageUri payload diff) =
          .ok (left.rules, result))
      (bronze : left.bronzeDocuments = running.bronzeDocuments ++ [⟨loaded.source.id,
        loaded.item.id, Sha256.hexdigest fetched.content, execution.bronzeCreatedAt⟩])
      (items : left.items = replaceRow (·.id) (completedItem loaded fetched
        (Sha256.hexdigest fetched.content) payload diff result) running.items)
      (sources : left.sources =
        replaceRow (·.id) (Pipeline.resetSourceHealth loaded.source) running.sources) :
      Processed execution loaded running (finishedStatus loaded payload diff) left

/-- How the processing raises, and what it leaves of the session. -/
inductive Raised (execution : Execution) (loaded : Loaded) (before : Tables)
    (raised : SessionError ProcessingError) (session : Session Tables) : Prop where
  | starting (fails : FirstCommitFails execution loaded) (stuck : Stuck before raised session)
  | fetching {exc : RaisedException} (fetch : FetchRaises execution loaded exc)
      (same : raised = .raised (.external exc))
      (idle : Idle (runningTables loaded before) false session)
  | later (started : ¬ FirstCommitFails execution loaded)
      (fetched : ∀ exc, ¬ FetchRaises execution loaded exc)
      (stuck : Stuck (runningTables loaded before) raised session)

section Parts

variable {execution : Execution} {loaded : Loaded} {committed tables before : Tables}

theorem ensures_start :
    Ensures (Sees before before false) (start execution loaded)
      (fun _ after => ¬ FirstCommitFails execution loaded ∧
        Idle (runningTables loaded before) false after)
      (fun raised after => FirstCommitFails execution loaded ∧ Stuck before raised after) := by
  have running : Ensures (Sees before before false) (startRun execution loaded)
      (fun _ after => ¬ (loaded.run.status = .pending ∧ execution.faults .markRunRunning ≠ none) ∧
        Sees before { before with runs := (runningTables loaded before).runs } false after)
      (fun raised after => FirstCommitFails execution loaded ∧ Stuck before raised after) := by
    refine ensures_ite (fun pending => ?_) fun started => ?_
    · refine (ensures_sending _).weaken (fun _ => id) ?_ ?_
      · rintro _ after ⟨accepted, changed, done, working⟩
        cases done
        simp only [runningTables, if_pos pending]
        exact ⟨fun refused => refused.2 accepted, working.sees⟩
      · rintro raised after ⟨refused | ⟨error, impossible⟩, stuck⟩
        · exact ⟨Or.inl ⟨pending, refused⟩, stuck⟩
        · cases impossible
    · intro session sees
      simp only [runningTables, if_neg started]
      exact ⟨fun refused => started refused.1, sees⟩
  refine running.bind fun _ => ensures_of_and fun runAccepted => ?_
  have marking : Ensures
      (Sees before { before with runs := (runningTables loaded before).runs } false)
      (sending execution .markItemRunning (setItem { loaded.item with status := .running }))
      (fun _ after => execution.faults .markItemRunning = none ∧
        Sees before (runningTables loaded before) false after)
      (fun raised after => FirstCommitFails execution loaded ∧ Stuck before raised after) := by
    refine (ensures_sending _).weaken (fun _ => id) ?_ ?_
    · rintro _ after ⟨accepted, changed, done, working⟩
      cases done
      exact ⟨accepted, working.sees⟩
    · rintro raised after ⟨refused | ⟨error, impossible⟩, stuck⟩
      · exact ⟨Or.inr (Or.inl refused), stuck⟩
      · cases impossible
  refine marking.bind fun _ => ensures_of_and fun itemAccepted => ?_
  refine ensures_committing.weaken (fun _ => id) ?_ ?_
  · rintro _ after ⟨accepted, idle⟩
    refine ⟨?_, idle⟩
    rintro (refused | refused | refused)
    · exact runAccepted refused
    · exact refused itemAccepted
    · exact refused accepted
  · rintro raised after ⟨refused, stuck⟩
    exact ⟨Or.inr (Or.inr refused), stuck⟩

theorem ensures_committing_stuck {statement : Statement} :
    Ensures (Sees committed tables false) (committing execution statement)
      (fun _ => Idle tables false) (Stuck committed) :=
  ensures_committing.weaken (fun _ => id) (fun _ _ => And.right) fun _ _ => And.right

/-- The last change, and the commit of all. -/
theorem ensures_sendItem (item : IngestionRunItem) (statement commitStatement : Statement)
    (status : IngestionRunItemStatus) :
    Ensures (Sees committed tables false)
      (do
        sending execution statement (setItem item)
        committing execution commitStatement
        pure status)
      (fun returned after => returned = status ∧
        (execution.faults statement = none ∧ execution.faults commitStatement = none) ∧
        Idle { tables with items := replaceRow (·.id) item tables.items } false after)
      (Stuck committed) := by
  refine ((ensures_sending _).weaken (fun _ => id) (fun _ _ => id) fun _ _ => And.right).bind
    fun _ => ensures_of_and fun sent => ensures_of_exists fun changed => ensures_of_and fun done => ?_
  cases done
  refine (ensures_committing.weaken (fun _ => Working.sees) (fun _ _ => id)
    fun _ _ => And.right).bind fun _ => ensures_of_and fun isCommitted => ?_
  exact fun session idle => ⟨rfl, ⟨sent, isCommitted⟩, idle⟩

section Previous

variable [UnicodeData]

theorem ensures_previousRuleGroups (payload : NormalizedProgramPayload) :
    Ensures (Working committed tables) (previousRuleGroups execution payload)
      (fun _ => Working committed tables) (Stuck committed) := by
  have looking {Found : Type} {statement : Statement}
      {read : Tables → Except ProcessingError Found} :
      Ensures (Working committed tables) (reading execution statement read)
        (fun _ => Working committed tables) (Stuck committed) :=
    (ensures_reading_stuck read).weaken (fun _ => Working.sees) (fun _ _ => And.right) fun _ _ => id
  refine looking.bind fun country => ?_
  cases country with
  | none => exact fun _ working => working
  | some country =>
      refine looking.bind fun program => ?_
      cases program with
      | none => exact fun _ working => working
      | some program => exact looking

end Previous

section Comparison

variable [Sha256]

theorem ensures_replaceSections :
    Ensures (Working committed tables) (replaceSections execution loaded)
      (fun _ after => ∃ sections,
        Sees committed { tables with silverSections := sections } false after)
      (Stuck committed) := by
  refine (ensures_calling_stuck _).bind fun sections => ensures_of_and fun _ => ?_
  refine ((ensures_reading_stuck _).weaken (fun _ => Working.sees) (fun _ _ => And.right)
    fun _ _ => id).bind fun _ => ?_
  refine (ensures_sending_stuck _).weaken (fun _ => Working.sees) ?_ fun _ _ => id
  rintro _ after ⟨changed, done, working⟩
  unfold replaceSilverSections at done
  split_ifs at done
  cases done
  exact ⟨_, working.sees⟩

variable [Pydantic]

omit [Sha256] [Pydantic] in
/-- The item and the health of its source, and the commit of all. -/
theorem ensures_complete {fetched : FetchResult} {rawHash : String}
    {payload : NormalizedProgramPayload} {diff : DiffEngine.DiffSummary} {result : PublishResult} :
    Ensures (Sees committed tables false)
      (complete execution loaded fetched rawHash payload diff result)
      (fun status after => status = finishedStatus loaded payload diff ∧
        Idle { tables with
          items := replaceRow (·.id) (completedItem loaded fetched rawHash payload diff result)
            tables.items
          sources := replaceRow (·.id) (Pipeline.resetSourceHealth loaded.source)
            tables.sources } false after)
      (Stuck committed) := by
  refine (ensures_sending_stuck _).bind fun _ => ensures_of_exists fun marked =>
    ensures_of_and fun marking => ?_
  cases marking
  refine ((ensures_sending_stuck _).weaken (fun _ => Working.sees) (fun _ _ => id)
    fun _ _ => id).bind fun _ => ensures_of_exists fun reset => ensures_of_and fun resetting => ?_
  cases resetting
  refine (ensures_committing_stuck.weaken (fun _ => Working.sees) (fun _ _ => id)
    fun _ _ => id).bind fun _ => ?_
  exact fun session idle => ⟨rfl, idle⟩

variable [UnicodeData]

theorem ensures_compareAndPublish {fetched : FetchResult} {rawHash rawStorageUri : String}
    {payload : NormalizedProgramPayload} :
    Ensures (Working committed tables)
      (compareAndPublish execution loaded fetched rawHash rawStorageUri payload)
      (fun status after => ∃ diff result left, status = finishedStatus loaded payload diff ∧
        Ingestion.publish tables.rules execution.ids execution.times
          (publishRequest loaded rawHash rawStorageUri payload diff) = .ok (left.rules, result) ∧
        left.bronzeDocuments = tables.bronzeDocuments ∧
        left.items = replaceRow (·.id) (completedItem loaded fetched rawHash payload diff result)
          tables.items ∧
        left.sources = replaceRow (·.id) (Pipeline.resetSourceHealth loaded.source)
          tables.sources ∧ Idle left false after)
      (Stuck committed) := by
  refine ((ensures_reading_stuck _).weaken (fun _ => Working.sees) (fun _ _ => And.right)
    fun _ _ => id).bind fun previousItem => ?_
  refine (ensures_previousRuleGroups payload).bind fun previous => ?_
  refine ensures_replaceSections.bind fun _ => ensures_of_exists fun sections => ?_
  refine (computes_publish committed _).bind fun result => ensures_of_exists fun rules =>
    ensures_of_and fun publishing => ?_
  refine ensures_complete.weaken (fun _ => id) ?_ fun _ _ => id
  rintro status after ⟨isStatus, idle⟩
  refine ⟨_, result, _, isStatus, ?_, ?_, ?_, ?_, idle⟩
  · exact publishing
  · rfl
  · rfl
  · rfl

theorem ensures_collect {fetched : FetchResult}
    (released : ¬ InQuarantine loaded.source execution.now)
    (isFetched : execution.fetched = .ok fetched)
    (differs : ¬ (getLatestBronzeDocument loaded.source.id tables).any
      (·.checksumSha256 = Sha256.hexdigest fetched.content)) :
    Ensures (Working committed tables)
      (collect execution loaded fetched (Sha256.hexdigest fetched.content))
      (fun status after => ∃ left, Processed execution loaded tables status left ∧
        Idle left false after)
      (Stuck committed) := by
  refine (ensures_calling_stuck _).bind fun rawStorageUri => ensures_of_and fun _ => ?_
  refine ((ensures_sending_stuck _).weaken (fun _ => Working.sees) (fun _ _ => id)
    fun _ _ => id).bind fun _ => ensures_of_exists fun collected => ensures_of_and fun creating => ?_
  unfold createBronzeDocument at creating
  split_ifs at creating with uncollected
  cases creating
  refine (ensures_calling_stuck _).bind fun payload => ensures_of_and fun _ => ?_
  refine ensures_compareAndPublish.weaken (fun _ => id) ?_ fun _ _ => id
  rintro status after ⟨diff, result, left, rfl, publishing, bronze, items, sources, idle⟩
  exact ⟨left, .compared released isFetched differs uncollected publishing bronze items sources,
    idle⟩

theorem ensures_processContent {fetched : FetchResult}
    (released : ¬ InQuarantine loaded.source execution.now)
    (isFetched : execution.fetched = .ok fetched) :
    Ensures (Sees committed tables false) (processContent execution loaded fetched)
      (fun status after => ∃ left, Processed execution loaded tables status left ∧
        Idle left false after)
      (Stuck committed) := by
  have looking : Ensures (Sees committed tables false)
      (reading execution .latestBronze fun tables =>
        .ok (getLatestBronzeDocument loaded.source.id tables))
      (fun latest after => (execution.faults .latestBronze = none ∧
        latest = getLatestBronzeDocument loaded.source.id tables) ∧ Working committed tables after)
      (Stuck committed) := by
    refine (ensures_reading _).weaken (fun _ => id) ?_ fun _ _ => And.right
    rintro latest after ⟨accepted, isLatest, working⟩
    cases isLatest
    exact ⟨⟨accepted, rfl⟩, working⟩
  refine looking.bind fun latestBronze => ensures_of_and ?_
  rintro ⟨accepted, rfl⟩
  refine ensures_ite (fun same => ?_) fun differs => ensures_collect released isFetched differs
  refine (ensures_sendItem _ _ _ _).weaken (fun _ => Working.sees) ?_ fun _ _ => id
  rintro _ after ⟨rfl, sent, idle⟩
  exact ⟨_, .unchanged released isFetched same ⟨accepted, sent⟩, idle⟩

/-- How the processing ends. -/
theorem ensures_executeProcessing :
    Ensures (Sees before before false) (executeProcessing execution loaded)
      (fun status after => ¬ FirstCommitFails execution loaded ∧
        ∃ left, Processed execution loaded (runningTables loaded before) status left ∧
          Idle left false after)
      (Raised execution loaded before) := by
  refine (ensures_start.weaken (fun _ => id) (fun _ _ => id) ?_).bind fun _ =>
    ensures_of_and fun started => ?_
  · rintro raised after ⟨fails, stuck⟩
    exact .starting fails stuck
  · refine ensures_ite (fun quarantine => ?_) fun released => ?_
    · refine (ensures_sendItem _ _ _ _).weaken (fun _ => Idle.sees) ?_ ?_
      · rintro _ after ⟨rfl, -, idle⟩
        exact ⟨started, _, .quarantined quarantine, idle⟩
      · intro raised after stuck
        exact .later started (fun exc fetch => fetch.released quarantine) stuck
    · refine ((ensures_calling _).weaken (fun _ => id) (fun _ _ => id) ?_).bind fun fetched =>
        ensures_of_and fun isFetched => ?_
      · rintro raised after ⟨⟨exc, raises, same⟩, idle⟩
        exact .fetching ⟨started, released, raises⟩ same idle
      · refine (ensures_processContent released isFetched).weaken (fun _ => Idle.sees) ?_ ?_
        · exact fun status after processed => ⟨started, processed⟩
        · intro raised after stuck
          refine .later started (fun exc fetch => ?_) stuck
          have raises := fetch.fetched
          rw [isFetched] at raises
          cases raises

end Comparison

end Parts

section Handler

variable {execution : Execution} {settings : Settings} {runItemId : UUID} {loaded : Loaded}
  {committed before : Tables}

/-- With an open transaction the handler raises, at the latest when it reads the id of the
source. -/
theorem ensures_handleProcessingError_of_opened (source : Source) :
    Ensures (Opened committed) (handleProcessingError execution settings runItemId source)
      (fun _ _ => False)
      (fun raised after => (raised = .missingGreenlet ∨ raised = .pendingRollback) ∧
        after.committed = committed) := by
  refine (ensures_readAttribute_of_opened _).bind fun _ => ?_
  refine ensures_rollback_of_opened.bind_total fun _ => ?_
  refine ((ensures_readAttribute_of_expired source.id).weaken (fun _ => id) (fun _ _ => id)
    fun _ _ expired => ⟨Or.inl expired.1, expired.2⟩).bind fun _ => ?_
  exact fun _ impossible => impossible.elim

theorem getRunItem_eq_ok (found : getRunItem runItemId before = .ok loaded) :
    before.items.find? (fun item => item.id = runItemId) = some loaded.item ∧
      before.sources.find? (fun source => source.id = loaded.source.id) = some loaded.source ∧
      before.runs.find? (fun run => run.id = loaded.item.ingestionRunId) = some loaded.run := by
  unfold getRunItem at found
  cases itemFound : before.items.find? fun item => item.id = runItemId with
  | none => simp [itemFound] at found
  | some item =>
      simp only [itemFound] at found
      cases sourceFound : before.sources.find? fun source => source.id = item.sourceId with
      | none => simp [sourceFound] at found
      | some source =>
          simp only [sourceFound] at found
          cases runFound : before.runs.find? fun run => run.id = item.ingestionRunId with
          | none => simp [runFound] at found
          | some run =>
              simp only [runFound] at found
              cases found
              have ofItem : source.id = item.sourceId := by
                simpa using List.find?_some sourceFound
              exact ⟨rfl, by rw [ofItem]; exact sourceFound, runFound⟩

/-- What the handler leaves after a failure of the fetch. -/
def failedTables (settings : Settings) (execution : Execution) (loaded : Loaded)
    (running : Tables) : Tables :=
  let failing := Pipeline.markSourceFailure settings loaded.source execution.failedAt
  { running with
    sources := replaceRow (·.id) failing.1 running.sources
    items := replaceRow (·.id) { loaded.item with
      status := if failing.2 then .quarantined else .failed } running.items }

theorem ensures_markSourceFailure {source : Source}
    (stored : committed.sources.find? (fun other => other.id = source.id) = some source) :
    Ensures (Idle committed false) (markSourceFailure execution settings source.id)
      (fun quarantined after =>
        quarantined = (Pipeline.markSourceFailure settings source execution.failedAt).2 ∧
          Idle { committed with
            sources := replaceRow (·.id)
              (Pipeline.markSourceFailure settings source execution.failedAt).1
              committed.sources } false after)
      (fun _ _ => False) := by
  have body : Ensures (Sees committed committed false)
      (query (fun tables => .ok (tables.sources.find? fun other => other.id = source.id)) >>=
        increaseFailures execution settings)
      (fun quarantined after => ∃ tables,
        (quarantined = (Pipeline.markSourceFailure settings source execution.failedAt).2 ∧
          tables = { committed with
            sources := replaceRow (·.id)
              (Pipeline.markSourceFailure settings source execution.failedAt).1
              committed.sources }) ∧ Sees committed tables false after)
      (fun _ _ => False) := by
    refine (ensures_query_ok _).bind fun found => ensures_of_and fun isFound => ?_
    rw [isFound, stored]
    refine (ensures_flush_ok _).bind fun _ => ?_
    exact fun session sees => ⟨_, ⟨rfl, rfl⟩, sees⟩
  refine (ensures_inTransaction_none body).weaken (fun _ => Idle.sees) ?_ fun _ _ => id
  rintro quarantined after ⟨_, ⟨same, rfl⟩, idle⟩
  exact ⟨same, idle⟩

theorem ensures_handleProcessingError_of_idle (found : getRunItem runItemId before = .ok loaded) :
    Ensures (Idle (runningTables loaded before) false)
      (handleProcessingError execution settings runItemId loaded.source)
      (fun _ => Idle (failedTables settings execution loaded (runningTables loaded before)) false)
      (fun _ _ => False) := by
  rcases getRunItem_eq_ok found with ⟨itemFound, sourceFound, -⟩
  refine (ensures_readAttribute_of_loaded _).bind fun _ => ensures_of_and fun _ => ?_
  refine ensures_rollback_of_idle.bind fun _ => ?_
  refine (ensures_readAttribute_of_loaded _).bind fun sourceId => ensures_of_and fun isId => ?_
  rw [isId]
  have failing : Ensures (Idle (runningTables loaded before) false)
      (markSourceFailure execution settings loaded.source.id) _ _ :=
    ensures_markSourceFailure sourceFound
  refine failing.bind fun quarantined => ensures_of_and fun same => ?_
  refine ((ensures_query_ok _).weaken (fun _ => Idle.sees) (fun _ _ => id) fun _ _ => id).bind
    fun item => ensures_of_and fun isItem => ?_
  have running : item = some { loaded.item with status := .running } := by
    rw [isItem, runningTables, find?_replaceRow, itemFound, Option.map_some, if_pos rfl]
  rw [running, same]
  refine (ensures_flush_ok _).bind fun _ => ?_
  exact ensures_commit_none

end Handler

/-- The failure is stored: the item with its status and the failure of its source, and nothing of
the attempt. -/
structure FailurePersisted (settings : Settings) (runItemId : UUID) (source : Source)
    (before after : Tables) : Prop where
  item : (after.items.find? fun item => item.id = runItemId).map (·.status) =
    some (if settings.quarantineAfterFailures ≤ source.consecutiveFailures + 1 then .quarantined
      else .failed)
  source : (after.sources.find? fun other => other.id = source.id).map (·.consecutiveFailures) =
    some (source.consecutiveFailures + 1)
  bronzeDocuments : after.bronzeDocuments = before.bronzeDocuments
  silverSections : after.silverSections = before.silverSections
  rules : after.rules = before.rules

section Failures

variable [UnicodeData] [Pydantic] [Sha256] {execution : Execution} {settings : Settings}
  {runItemId : UUID} {loaded : Loaded} {before : Tables} {session opened left : Session Tables}
  {raised : SessionError ProcessingError}

/-- `process_run_item` raises what the processing has raised, with the failure stored. -/
def Handled (execution : Execution) (settings : Settings) (runItemId : UUID) (loaded : Loaded)
    (raised : SessionError ProcessingError) (session : Session Tables) : Prop :=
  ∃ after, processRunItem execution settings runItemId session = (.error raised, after) ∧
    FailurePersisted settings runItemId loaded.source session.committed after.committed

omit [UnicodeData] [Pydantic] [Sha256] in
theorem failurePersisted_failedTables (found : getRunItem runItemId before = .ok loaded) :
    FailurePersisted settings runItemId loaded.source before
      (failedTables settings execution loaded (runningTables loaded before)) := by
  rcases getRunItem_eq_ok found with ⟨itemFound, sourceFound, -⟩
  refine ⟨?_, ?_, rfl, rfl, rfl⟩
  · simp only [failedTables, runningTables]
    rw [find?_replaceRow, find?_replaceRow, itemFound]
    simp [Pipeline.markSourceFailure]
  · simp only [failedTables, runningTables]
    rw [find?_replaceRow, sourceFound]
    simp [Pipeline.markSourceFailure]

/-- The failure of an execution is handled exactly if the fetch has raised it. -/
theorem handled_iff (idle : Idle before false session)
    (loading : reading execution .getRunItem (getRunItem runItemId) session = (.ok loaded, opened))
    (raises : executeProcessing execution loaded opened = (.error raised, left)) :
    Handled execution settings runItemId loaded raised session ↔
      ∃ exc, FetchRaises execution loaded exc := by
  rcases of_reading idle.sees loading with ⟨found, working⟩
  have ends : Raised execution loaded before raised left :=
    (ensures_iff.mp ensures_executeProcessing opened working.sees).2 raised left raises
  have handling : processRunItem execution settings runItemId session =
      (do
        handleProcessingError execution settings runItemId loaded.source
        raising raised) left := by
    rw [processRunItem, bind_of_ok loading]
    simp only [catching, raises]
  have unhandled {committed : Tables} (stuck : Stuck committed raised left) :
      ¬ Handled execution settings runItemId loaded raised session := by
    rintro ⟨after, same, -⟩
    rw [handling] at same
    have handler : Ensures (Opened committed)
        (handleProcessingError execution settings runItemId loaded.source) _ _ :=
      ensures_handleProcessingError_of_opened loaded.source
    have handled := handler left stuck.opened
    rcases done : handleProcessingError execution settings runItemId loaded.source left with
      ⟨error | _, after'⟩
    · rw [done] at handled
      rw [bind_of_error done] at same
      rcases stuck.raised with ⟨original, isRaised⟩
      cases same
      rcases handled.1 with missing | pending
      · cases isRaised.symm.trans missing
      · cases isRaised.symm.trans pending
    · rw [done] at handled
      exact handled
  cases ends with
  | starting fails stuck =>
      refine iff_of_false (unhandled stuck) ?_
      rintro ⟨exc, fetch⟩
      exact fetch.started fails
  | later started notFetched stuck =>
      refine iff_of_false (unhandled stuck) ?_
      rintro ⟨exc, fetch⟩
      exact notFetched exc fetch
  | fetching fetch same idleLeft =>
      refine iff_of_true ?_ ⟨_, fetch⟩
      have handler : Ensures (Idle (runningTables loaded before) false)
          (handleProcessingError execution settings runItemId loaded.source) _ _ :=
        ensures_handleProcessingError_of_idle found
      have handled := handler left idleLeft
      rcases done : handleProcessingError execution settings runItemId loaded.source left with
        ⟨error | _, after⟩
      · rw [done] at handled
        exact handled.elim
      · rw [done] at handled
        refine ⟨after, ?_, ?_⟩
        · rw [handling, bind_of_ok done]
          rfl
        · rw [handled.committed, idle.committed]
          exact failurePersisted_failedTables found

end Failures

section Sample

local instance failureUnicodeData : UnicodeData := UnicodeData.ascii

local instance failurePydantic : Pydantic where
  toInt _ := none
  toBool _ := none
  toDecimal _ := none
  toDatetime _ := none
  isoformat datetime := datetime.wallClock.isoformat

theorem contentDigest_ne_empty (_ : String) :
    "559aead08264d5795d3909718cdd05abd49572e84fe55590eef31a88a08fdffd" ≠ "" := by
  decide

/-- The digest of the content "A". -/
local instance failureSha256 : Sha256 where
  sha256Hex _ := "559aead08264d5795d3909718cdd05abd49572e84fe55590eef31a88a08fdffd"
  hexdigest _ := "559aead08264d5795d3909718cdd05abd49572e84fe55590eef31a88a08fdffd"
  sha256Hex_ne_empty := contentDigest_ne_empty

/-- An item that is due, with its source and its run. -/
def pendingItem : Loaded where
  item := {
    id := 30
    sourceId := 19
    status := .pending
    createdAt := 0
    rawHashSha256 := none
    semanticHashSha256 := none
    ingestionRunId := 40
    diffSummaryJson := .dict []
    metadataJson := .dict [] }
  source := {
    id := 19
    sourceKey := "ca-express-entry"
    countryCode := "CA"
    parserVersion := "1.0.0"
    confidenceThreshold := ⟨false, 60, -2⟩
    quarantineUntil := none
    consecutiveFailures := 0 }
  run := ⟨40, .running⟩

def pendingTables : Tables where
  rules := sampleCatalogue
  sources := [pendingItem.source]
  runs := [pendingItem.run]
  items := [pendingItem.item]
  bronzeDocuments := []
  silverSections := []

def pendingSession : Session Tables := ⟨pendingTables, .closed, false⟩

def threeFailures : Settings := ⟨fun failedAt => failedAt + 86400000000, 3⟩

def fetchedContent : FetchResult := ⟨[65], none, none, .dict []⟩

/-- An execution that comes no further than to the storage. -/
def storing (fetched : Except RaisedException FetchResult)
    (stored : Except RaisedException String) : Execution where
  now := 10
  fetched := fetched
  stored := stored
  bronzeCreatedAt := 10
  deterministic := .ok samplePayload
  llmFallback := .ok samplePayload
  validation := none
  sections := .ok []
  ids := {
    country := 100
    program := 200
    version := 300
    group position := Fin.ofNat _ position
    condition position index := Fin.ofNat _ (10 * position + index)
    outcome position index := Fin.ofNat _ (10 * position + index)
    sourceDocument := 400
    sourceExtraction := 500 }
  times := ⟨10, 10, 10⟩
  failedAt := 10
  faults _ := none

def httpError : RaisedException := ⟨fun _ => false, "source fetch failed with HTTP 503"⟩

def noSpace : RaisedException :=
  ⟨fun exceptionClass => exceptionClass = .osError, "[Errno 28] No space left on device"⟩

theorem handled_httpError :
    Handled (storing (.error httpError) (.ok "bronze/ca")) threeFailures 30 pendingItem
      (.raised (.external httpError)) pendingSession := by
  refine (handled_iff ⟨rfl, rfl, rfl⟩ rfl rfl).mpr ⟨httpError, ?_, ?_, rfl⟩
  · simp [FirstCommitFails, storing]
  · simp [InQuarantine, pendingItem]

/-- The content is fetched and cannot be stored: the handler raises another error. -/
theorem noSpace_not_handled :
    ∃ opened left,
      reading (storing (.ok fetchedContent) (.error noSpace)) .getRunItem (getRunItem 30)
          pendingSession = (.ok pendingItem, opened) ∧
        executeProcessing (storing (.ok fetchedContent) (.error noSpace)) pendingItem opened =
          (.error (.raised (.external noSpace)), left) ∧
        ¬ Handled (storing (.ok fetchedContent) (.error noSpace)) threeFailures 30 pendingItem
          (.raised (.external noSpace)) pendingSession := by
  refine ⟨_, _, rfl, rfl, ?_⟩
  rintro ⟨after, same, -⟩
  have raised : errorOf (processRunItem (storing (.ok fetchedContent) (.error noSpace))
      threeFailures 30 pendingSession).1 = some .missingGreenlet := rfl
  rw [same] at raised
  cases raised

end Sample

end ImigrAI.Ingestion.Processing
