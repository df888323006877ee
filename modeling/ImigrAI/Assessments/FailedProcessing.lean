import ImigrAI.Assessments.Processing
import ImigrAI.Assessments.ProcessingRuns
import ImigrAI.Assessments.Results
import ImigrAI.Foundations.Sessions

/-!
# What a failed processing leaves

`process_assessment` through one session. Its handler commits `failed` through the session that
failed: this works after every failure but that of a flush, after which the assessment stays
`running`. Commits proper and the refresh of a stored result do not fail.
-/

namespace ImigrAI.Assessments.Failures

open Python ImmigrationRules Actions Action Sessions
open ProcessingRuns (AssessmentStatus)

structure Assessment extends RequestedAssessment where
  status : AssessmentStatus
  completedAt : Option Instant

/-- A row of `assessment_results` with the rows of its items. -/
structure AssessmentResult where
  id : UUID
  programVersionId : UUID
  rulesVersionHash : String
  algorithmVersion : String
  totalScore : ℚ
  isEligible : Bool
  computedAt : Instant
  items : List AssessmentResultItem

/-- An assessment has at most one result, by `uq_assessment_results_assessment_id`. -/
structure Tables where
  rules : ImmigrationRules.Tables
  assessments : UUID → Option Assessment
  results : UUID → Option AssessmentResult

inductive DatabaseError where
  | integrityError
  | other (text : String)
deriving DecidableEq

inductive AssessmentError where
  | notFound
  | processing (error : ProcessingError)
  | database (error : DatabaseError)
deriving DecidableEq

/-- What an execution gets from outside: the id and the time of the result, the ids and the times
of its items, and which flushes fail for a reason that is not in the tables. -/
structure Execution where
  resultId : UUID
  computedAt : Instant
  stamps : ℕ → UUID × Instant
  deleteFault : Option DatabaseError
  resultFault : Option DatabaseError
  itemsFault : Option DatabaseError

def Tables.setStatus (assessmentId : UUID) (assessment : Assessment) (status : AssessmentStatus)
    (completedAt : Option Instant) (tables : Tables) : Tables :=
  { tables with
    assessments := Function.update tables.assessments assessmentId
      (some { assessment with status := status, completedAt := completedAt }) }

/-- A change that the database may refuse. -/
def sent (fault : Option DatabaseError) (change : Tables → Except AssessmentError Tables)
    (tables : Tables) : Except AssessmentError Tables :=
  match fault with
  | some error => .error (.database error)
  | none => change tables

/-- Deleting a result sets the foreign key of its items to null, which is not nullable. -/
def deleteResult (assessmentId : UUID) (existing : AssessmentResult) (tables : Tables) :
    Except AssessmentError Tables :=
  if existing.items ≠ [] then .error (.database .integrityError)
  else .ok { tables with results := Function.update tables.results assessmentId none }

def insertResult (assessmentId : UUID) (result : AssessmentResult) (tables : Tables) :
    Except AssessmentError Tables :=
  if (tables.results assessmentId).isSome then .error (.database .integrityError)
  else .ok { tables with results := Function.update tables.results assessmentId (some result) }

/-- The flush of the commit: the items, and the assessment with its new status. -/
def insertItems (assessmentId : UUID) (assessment : Assessment) (result : AssessmentResult)
    (tables : Tables) : Except AssessmentError Tables :=
  .ok (Tables.setStatus assessmentId assessment .completed (some result.computedAt)
    { tables with results := Function.update tables.results assessmentId (some result) })

def setAssessmentStatus (assessmentId : UUID) (assessment : Assessment)
    (status : AssessmentStatus) (completedAt : Option Instant) :
    Program Tables AssessmentError Unit := do
  flush fun tables => .ok (tables.setStatus assessmentId assessment status completedAt)
  commit none

/-- The result without its items, which are flushed after it. -/
def resultRow (execution : Execution) (programVersionId : UUID)
    (computation : ScoreComputationResult) : AssessmentResult where
  id := execution.resultId
  programVersionId := programVersionId
  rulesVersionHash := computation.rulesVersionHash
  algorithmVersion := computation.algorithmVersion
  totalScore := computation.scoreFinal
  isEligible := computation.isEligible
  computedAt := execution.computedAt
  items := []

/-- `if assessment.result is not None: ...`. -/
def deleteExisting (execution : Execution) (assessmentId : UUID) :
    Option AssessmentResult → Program Tables AssessmentError Unit
  | some existing => flush (sent execution.deleteFault (deleteResult assessmentId existing))
  | none => pure ()

def replaceAssessmentResult (execution : Execution) (assessmentId : UUID) (assessment : Assessment)
    (existing : Option AssessmentResult) (programVersionId : UUID)
    (computation : ScoreComputationResult) : Program Tables AssessmentError Unit := do
  deleteExisting execution assessmentId existing
  let result := resultRow execution programVersionId computation
  flush (sent execution.resultFault (insertResult assessmentId result))
  let items := computation.breakdown.mapIdx fun index item =>
    resultItemRow (execution.stamps index) item
  flush (sent execution.itemsFault
    (insertItems assessmentId assessment { result with items := items }))
  commit none
  query fun _ => .ok ()

section Service

variable [UnicodeData] [Hashlib]

def computeAndPersistAssessment (execution : Execution) (assessmentId : UUID)
    (assessment : Assessment) (existing : Option AssessmentResult) :
    Program Tables AssessmentError Unit :=
  match assessment.profileSnapshot with
  | none => outside (.error (.processing (.valueError "Assessment is missing profile snapshot")))
  | some profileJson => do
      let activeVersion ← query fun tables =>
        .ok (getActiveProgramVersion tables.rules assessment.programId assessment.requestedAt)
      match activeVersion with
      | none => outside (.error (.processing
          (.valueError "No active program version found for requested timestamp")))
      | some version => do
          let ruleGroups ← query fun tables => .ok (listRuleGroups tables.rules version.id)
          let computed ← outside
            ((evaluateVersion version ruleGroups profileJson).mapError .processing)
          replaceAssessmentResult execution assessmentId assessment existing computed.1 computed.2

/-- `get_assessment`, with the result of the assessment. -/
def getAssessment (assessmentId : UUID) (tables : Tables) :
    Option (Assessment × Option AssessmentResult) :=
  (tables.assessments assessmentId).map fun assessment =>
    (assessment, tables.results assessmentId)

def processAssessment (execution : Execution) (assessmentId : UUID) :
    Program Tables AssessmentError Unit := do
  match ← query fun tables => .ok (getAssessment assessmentId tables) with
  | none => outside (.error .notFound)
  | some (assessment, existing) =>
      if existing.isSome ∧ assessment.status = .completed then pure ()
      else do
        setAssessmentStatus assessmentId assessment .running none
        (computeAndPersistAssessment execution assessmentId assessment existing).catching
          fun error => do
            setAssessmentStatus assessmentId assessment .failed none
            raising error

end Service

section Parts

variable {execution : Execution} {assessmentId : UUID} {assessment : Assessment}
  {existing : Option AssessmentResult} {committed tables : Tables} {expired : Bool}

theorem ensures_setAssessmentStatus_of_broken (status : AssessmentStatus)
    (completedAt : Option Instant) :
    Ensures (Broken committed) (setAssessmentStatus assessmentId assessment status completedAt)
      (fun _ _ => False)
      (fun raised after => raised = .pendingRollback ∧ Broken committed after) :=
  (ensures_flush_of_broken _).bind fun _ _ impossible => impossible.elim

theorem ensures_setAssessmentStatus (status : AssessmentStatus) (completedAt : Option Instant) :
    Ensures (Sees committed tables expired)
      (setAssessmentStatus assessmentId assessment status completedAt)
      (fun _ => Idle (tables.setStatus assessmentId assessment status completedAt) expired)
      (fun _ _ => False) := by
  refine ((ensures_flush _).weaken (fun _ => id) (fun _ _ => id) ?_).bind fun _ => ?_
  · rintro _ after ⟨_, -, impossible, -⟩
    cases impossible
  · refine ensures_of_exists fun changed => ensures_of_and fun done => ?_
    cases done
    refine (ensures_commit none).weaken (fun _ => And.left) (fun _ _ => And.right) ?_
    rintro _ after ⟨_, -, impossible, -⟩
    cases impossible

/-- A flush fails while a result is replaced: the deletion of an old result that has items, or a
flush that the database refuses. -/
inductive FlushFails (execution : Execution) (existing : Option AssessmentResult) : Prop where
  | refersToItems {old : AssessmentResult} (found : existing = some old) (items : old.items ≠ [])
  | deleting {old : AssessmentResult} {error : DatabaseError} (found : existing = some old)
      (fault : execution.deleteFault = some error)
  | inserting {error : DatabaseError} (fault : execution.resultFault = some error)
  | insertingItems {error : DatabaseError} (fault : execution.itemsFault = some error)

theorem ensures_flush_sent (fault : Option DatabaseError)
    (change : Tables → Except AssessmentError Tables) :
    Ensures (Sees committed tables expired) (flush (sent fault change))
      (fun _ after => fault = none ∧ ∃ changed, change tables = .ok changed ∧
        Sees committed changed expired after)
      (fun _ after => ((∃ error, fault = some error) ∨ ∃ error, change tables = .error error) ∧
        Broken committed after) := by
  refine (ensures_flush _).weaken (fun _ => id) ?_ ?_
  · rintro _ after ⟨changed, done, sees, -⟩
    cases fault with
    | none => exact ⟨rfl, changed, done, sees⟩
    | some error => cases done
  · rintro _ after ⟨error, -, refused, broken⟩
    cases fault with
    | none => exact ⟨Or.inr ⟨error, refused⟩, broken⟩
    | some fault => exact ⟨Or.inl ⟨fault, rfl⟩, broken⟩

theorem ensures_deleteExisting (stored : tables.results assessmentId = existing) :
    Ensures (Sees tables tables expired) (deleteExisting execution assessmentId existing)
      (fun _ after => (∀ old, existing = some old → old.items = [] ∧ execution.deleteFault = none) ∧
        ∃ remaining : Tables, remaining.results assessmentId = none ∧
          Sees tables remaining expired after)
      (fun _ after => FlushFails execution existing ∧ Broken tables after) := by
  cases existing with
  | none =>
      rintro session sees
      exact ⟨by simp, tables, stored, sees⟩
  | some old =>
      refine (ensures_flush_sent _ _).weaken (fun _ => id) ?_ ?_
      · rintro _ after ⟨noFault, changed, done, sees⟩
        unfold deleteResult at done
        split_ifs at done with noItems
        cases done
        refine ⟨?_, _, Function.update_self .., sees⟩
        rintro _ ⟨rfl⟩
        exact ⟨by simpa using noItems, noFault⟩
      · rintro _ after ⟨⟨error, fault⟩ | ⟨error, refused⟩, broken⟩
        · exact ⟨.deleting rfl fault, broken⟩
        · unfold deleteResult at refused
          split_ifs at refused with items
          exact ⟨.refersToItems rfl items, broken⟩

theorem ensures_replaceAssessmentResult (stored : tables.results assessmentId = existing)
    (programVersionId : UUID) (computation : ScoreComputationResult) :
    Ensures (Sees tables tables expired)
      (replaceAssessmentResult execution assessmentId assessment existing programVersionId
        computation)
      (fun _ _ => ¬ FlushFails execution existing)
      (fun _ after => FlushFails execution existing ∧ Broken tables after) := by
  refine (ensures_deleteExisting stored).bind fun _ => ?_
  refine ensures_of_and fun deleted => ensures_of_exists fun remaining =>
    ensures_of_and fun noResult => ?_
  have inserting : Ensures (Sees tables remaining expired)
      (flush (sent execution.resultFault (insertResult assessmentId
        (resultRow execution programVersionId computation))))
      (fun _ after => execution.resultFault = none ∧
        ∃ inserted, Sees tables inserted expired after)
      (fun _ after => FlushFails execution existing ∧ Broken tables after) := by
    refine (ensures_flush_sent _ _).weaken (fun _ => id) ?_ ?_
    · rintro _ after ⟨noFault, inserted, -, sees⟩
      exact ⟨noFault, inserted, sees⟩
    · rintro _ after ⟨⟨error, fault⟩ | ⟨error, refused⟩, broken⟩
      · exact ⟨.inserting fault, broken⟩
      · simp [insertResult, noResult] at refused
  refine inserting.bind fun _ => ensures_of_and fun noResultFault =>
    ensures_of_exists fun inserted => ?_
  have insertingItems (result : AssessmentResult) : Ensures (Sees tables inserted expired)
      (flush (sent execution.itemsFault (insertItems assessmentId assessment result)))
      (fun _ after => execution.itemsFault = none ∧ ∃ final, Sees tables final expired after)
      (fun _ after => FlushFails execution existing ∧ Broken tables after) := by
    refine (ensures_flush_sent _ _).weaken (fun _ => id) ?_ ?_
    · rintro _ after ⟨noFault, final, -, sees⟩
      exact ⟨noFault, final, sees⟩
    · rintro _ after ⟨⟨error, fault⟩ | ⟨error, refused⟩, broken⟩
      · exact ⟨.insertingItems fault, broken⟩
      · cases refused
  refine (insertingItems _).bind fun _ => ensures_of_and fun noItemsFault =>
    ensures_of_exists fun final => ?_
  have noneFails : ¬ FlushFails execution existing := by
    rintro (⟨found, items⟩ | ⟨found, fault⟩ | fault | fault)
    · exact items (deleted _ found).1
    · simp [(deleted _ found).2] at fault
    · simp [noResultFault] at fault
    · simp [noItemsFault] at fault
  have committing : Ensures (Sees tables final expired)
      (commit none : Program Tables AssessmentError Unit)
      (fun _ => Sees final final expired)
      (fun _ after => FlushFails execution existing ∧ Broken tables after) := by
    refine (ensures_commit none).weaken (fun _ => id) (fun _ _ idle => idle.2.sees) ?_
    rintro _ after ⟨_, -, impossible, -⟩
    cases impossible
  refine committing.bind fun _ => ?_
  refine (ensures_query _).weaken (fun _ => id) (fun _ _ _ => noneFails) ?_
  rintro _ after ⟨_, -, impossible, -⟩
  cases impossible

end Parts

section Attempts

variable [UnicodeData] [Hashlib] {execution : Execution} {assessmentId : UUID}
  {assessment : Assessment} {existing : Option AssessmentResult} {before tables : Tables}
  {expired : Bool} {session : Session Tables}

/-- Missing snapshots, versions and rules and errors of the engine leave the session usable; a
failed flush breaks it. -/
theorem ensures_computeAndPersistAssessment (stored : tables.results assessmentId = existing) :
    Ensures (Sees tables tables expired)
      (computeAndPersistAssessment execution assessmentId assessment existing)
      (fun _ _ => (∃ computed, computeAssessment tables.rules assessment.toRequestedAssessment =
        .ok computed) ∧ ¬ FlushFails execution existing)
      (fun raised after =>
        (∃ error, computeAssessment tables.rules assessment.toRequestedAssessment =
            .error error ∧ raised = .raised (.processing error) ∧ Sees tables tables expired after) ∨
          (∃ computed, computeAssessment tables.rules assessment.toRequestedAssessment =
            .ok computed) ∧ FlushFails execution existing ∧ Broken tables after) := by
  have looking {Found : Type} (read : Tables → Found) :
      Ensures (Sees tables tables expired)
        (query fun tables => .ok (read tables) : Program Tables AssessmentError Found)
        (fun found after => found = read tables ∧ Sees tables tables expired after)
        (fun _ _ => False) := by
    refine (ensures_query _).weaken (fun _ => id) ?_ ?_
    · rintro found after ⟨done, sees, -⟩
      exact ⟨(Except.ok.inj done).symm, sees⟩
    · rintro _ after ⟨_, -, impossible, -⟩
      cases impossible
  cases snapshot : assessment.profileSnapshot with
  | none =>
      intro session sees
      simp only [computeAndPersistAssessment, computeAssessment, snapshot]
      exact Or.inl ⟨_, rfl, rfl, sees⟩
  | some profileJson =>
      simp only [computeAndPersistAssessment, snapshot]
      refine ((looking _).weaken (fun _ => id) (fun _ _ => id)
        fun _ _ impossible => impossible.elim).bind fun activeVersion => ?_
      refine ensures_of_and ?_
      rintro rfl
      cases found : getActiveProgramVersion tables.rules assessment.programId
          assessment.requestedAt with
      | none =>
          intro session sees
          simp only [computeAssessment, snapshot, found]
          exact Or.inl ⟨_, rfl, rfl, sees⟩
      | some version =>
          refine ((looking _).weaken (fun _ => id) (fun _ _ => id)
            fun _ _ impossible => impossible.elim).bind fun ruleGroups => ?_
          refine ensures_of_and ?_
          rintro rfl
          simp only [computeAssessment, snapshot, found]
          cases evaluated : evaluateVersion version (listRuleGroups tables.rules version.id)
              profileJson with
          | error error =>
              intro session sees
              exact Or.inl ⟨_, rfl, rfl, sees⟩
          | ok computed =>
              refine (ensures_replaceAssessmentResult stored computed.1 computed.2).weaken
                (fun _ => id) ?_ ?_
              · exact fun _ _ noneFails => ⟨⟨_, rfl⟩, noneFails⟩
              · exact fun _ _ fails => Or.inr ⟨⟨_, rfl⟩, fails⟩

/-- After a failure before the first flush the assessment is committed as `failed`; after a
failed flush the handler raises in its turn and leaves it `running`. -/
theorem ensures_processAssessment (execution : Execution)
    (found : getAssessment assessmentId before = some (assessment, existing))
    (unfinished : ¬ (existing.isSome ∧ assessment.status = .completed)) :
    Ensures (Idle before false) (processAssessment execution assessmentId)
      (fun _ _ => (∃ computed, computeAssessment before.rules assessment.toRequestedAssessment =
        .ok computed) ∧ ¬ FlushFails execution existing)
      (fun raised after =>
        (∃ error, computeAssessment before.rules assessment.toRequestedAssessment =
            .error error ∧ raised = .raised (.processing error) ∧
            after.committed = (before.setStatus assessmentId assessment .running none).setStatus
              assessmentId assessment .failed none) ∨
          (∃ computed, computeAssessment before.rules assessment.toRequestedAssessment =
            .ok computed) ∧ FlushFails execution existing ∧ raised = .pendingRollback ∧
            after.committed = before.setStatus assessmentId assessment .running none) := by
  have unchanged : (before.setStatus assessmentId assessment .running none).results assessmentId =
      existing := by
    rcases Option.map_eq_some_iff.mp found with ⟨_, -, same⟩
    exact congrArg Prod.snd same
  refine ((ensures_query _).weaken (fun _ => Idle.sees) (fun _ _ => id) ?_).bind fun result => ?_
  · rintro _ after ⟨_, -, impossible, -⟩
    cases impossible
  · refine ensures_of_and fun isFound => ?_
    cases (Except.ok.inj isFound).symm.trans found
    dsimp only
    rw [if_neg unfinished]
    refine ((ensures_setAssessmentStatus .running none).weaken (fun _ => And.left) (fun _ _ => id)
      fun _ _ impossible => impossible.elim).bind fun _ => ?_
    refine ((ensures_computeAndPersistAssessment unchanged).weaken (fun _ => Idle.sees)
      (fun _ _ => id) fun _ _ => id).catching _ fun raised => ?_
    rintro session (⟨error, failed, isRaised, sees⟩ | ⟨computed, fails, broken⟩)
    · refine (((ensures_setAssessmentStatus .failed none).weaken (fun _ => id) (fun _ _ => id)
        fun _ _ impossible => impossible.elim).bind fun _ => ?_) session sees
      rintro after idle
      exact Or.inl ⟨error, failed, isRaised, idle.committed⟩
    · refine ((ensures_setAssessmentStatus_of_broken .failed none).bind
        fun _ _ impossible => impossible.elim).weaken (fun _ => id) (fun _ _ => id) ?_ session broken
      rintro _ after ⟨pending, broken⟩
      exact Or.inr ⟨computed, fails, pending, broken.committed⟩

/-- The assessment is `failed`, and no result is stored that was not there before. -/
structure FailureStored (assessmentId : UUID) (before after : Tables) : Prop where
  status : (after.assessments assessmentId).map (·.status) = some .failed
  results : after.results = before.results

/-- Whenever the processing raises, its failure is stored. -/
def StoresFailures (execution : Execution) (assessmentId : UUID) (session : Session Tables) : Prop :=
  ∀ raised after, processAssessment execution assessmentId session = (.error raised, after) →
    FailureStored assessmentId session.committed after.committed

/-- The failure of an attempt is stored exactly if it comes before the flushes of the result, or
if none of these fails. -/
theorem storesFailures_iff (idle : Idle before false session)
    (found : getAssessment assessmentId before = some (assessment, existing))
    (unfinished : ¬ (existing.isSome ∧ assessment.status = .completed)) :
    StoresFailures execution assessmentId session ↔
      (∃ error, computeAssessment before.rules assessment.toRequestedAssessment = .error error) ∨
        ¬ FlushFails execution existing := by
  have done := ensures_processAssessment execution found unfinished session idle
  have running : ((before.setStatus assessmentId assessment .running none).assessments
      assessmentId).map (·.status) = some .running := by
    simp [Tables.setStatus]
  have failed : (((before.setStatus assessmentId assessment .running none).setStatus assessmentId
      assessment .failed none).assessments assessmentId).map (·.status) = some .failed := by
    simp [Tables.setStatus]
  rw [StoresFailures, idle.committed]
  revert done
  rcases processAssessment execution assessmentId session with ⟨raised | _, after⟩
  · rintro (⟨error, isError, -, committed⟩ | ⟨⟨computed, isOk⟩, fails, -, committed⟩)
    · refine iff_of_true ?_ (Or.inl ⟨error, isError⟩)
      rintro _ _ ⟨rfl, rfl⟩
      rw [committed]
      exact ⟨failed, rfl⟩
    · refine iff_of_false (fun stores => ?_) ?_
      · have stored := (stores raised after rfl).status
        rw [committed, running] at stored
        cases stored
      · rintro (⟨error, isError⟩ | none_)
        · rw [isOk] at isError
          cases isError
        · exact none_ fails
  · rintro ⟨-, noneFails⟩
    refine iff_of_true ?_ (Or.inr noneFails)
    rintro _ _ impossible
    cases impossible

end Attempts

section Sample

local instance failuresUnicode : UnicodeData := UnicodeData.ascii

local instance failuresHashlib : Hashlib := sampleHashlib

def sampleExecution : Execution := ⟨40, 6, fun _ => (41, 6), none, none, none⟩

/-- An assessment that was completed and then marked as running again. -/
def rerunAssessment : Assessment where
  programId := 2
  requestedAt := 5
  profileSnapshot := some (sampleProfile (.int 30))
  status := .running
  completedAt := some 6

def oldItem : AssessmentResultItem where
  id := 31
  createdAt := 6
  ruleGroupId := 6
  ruleConditionId := none
  ruleOutcomeId := 7
  applied := true
  scoreDelta := 5
  explanationMessage := "Base rule."
  auditPayloadJson := ⟨[], false, "base"⟩

def oldResult : AssessmentResult where
  id := 30
  programVersionId := 3
  rulesVersionHash := "df2e32a597e635b85f5fad420bfc8bd34aa6fc455d11e5b2c55f1e02741a5330"
  algorithmVersion := algorithmVersion
  totalScore := 100
  isEligible := true
  computedAt := 6
  items := [oldItem]

/-- The assessment of id 1 with its result. -/
def rerunTables : Tables where
  rules := sampleCatalogue.toTables
  assessments := fun id => if id = 1 then some rerunAssessment else none
  results := fun id => if id = 1 then some oldResult else none

def rerunSession : Session Tables := ⟨rerunTables, .closed, false⟩

/-- Deleting the old result fails, and so does marking the assessment as failed. -/
theorem not_storesFailures_rerun : ¬ StoresFailures sampleExecution 1 rerunSession := by
  intro stores
  have raised : Fallible.errorOf (processAssessment sampleExecution 1 rerunSession).1 =
      some .pendingRollback := by
    decide +kernel
  have left : ((processAssessment sampleExecution 1 rerunSession).2.committed.assessments 1).map
      (·.status) = some .running := by
    decide +kernel
  have stored := (stores .pendingRollback _
    (Prod.ext (Fallible.errorOf_eq_some_iff.mp raised) rfl)).status
  rw [left] at stored
  cases stored

/-- The same assessment without a snapshot is marked as failed. -/
theorem storesFailures_iff_noSnapshot :
    StoresFailures sampleExecution 1 ⟨{ rerunTables with
      assessments := fun _ => some { rerunAssessment with profileSnapshot := none } },
      .closed, false⟩ :=
  (storesFailures_iff ⟨rfl, rfl, rfl⟩ rfl (by decide)).mpr (Or.inl ⟨_, rfl⟩)

end Sample

end ImigrAI.Assessments.Failures
