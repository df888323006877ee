import ImigrAI.Billing.Access
import ImigrAI.Assessments.Profile
import ImigrAI.Python.Dumps

/-!
# Creating an assessment

`AssessmentsService.create_assessment`: the quota is consumed and committed, then the snapshot
and the assessment are flushed and committed, then the job. What other sessions commit between
these statements is an argument, and so are new ids and the readings of the clock.
-/

namespace ImigrAI.Assessments.Creation

open Python Fallible Rows Sorting
open Billing (Settings AccessIds QuotaTimes BillingError DatabaseError consumeAssessmentQuota
  hasPriorityProcessing)

inductive AssessmentStatus where
  | pending
  | running
  | completed
  | failed
  | canceled
deriving DecidableEq

structure UserProfileSnapshot where
  id : UUID
  userId : UUID
  snapshotVersion : ℕ
  profileJson : Dict
  profileHash : String

structure Assessment where
  id : UUID
  userId : UUID
  programId : UUID
  profileSnapshotId : UUID
  idempotencyKey : String
  status : AssessmentStatus
  requestedAt : Instant
  completedAt : Option Instant
deriving DecidableEq

inductive JobType where
  | scoreJob
  | roadmapJob
deriving DecidableEq

structure Job where
  id : UUID
  jobType : JobType
  idempotencyKey : String
  assessmentId : Option UUID
  traceId : Option String
deriving DecidableEq

/-- Of the programs the ids. -/
structure Tables where
  programs : List UUID
  snapshots : List UserProfileSnapshot
  assessments : List Assessment
  jobs : List Job

/-- The declared constraints but for the references to users. -/
@[mk_iff]
structure Consistent (tables : Tables) : Prop where
  snapshotIds : (tables.snapshots.map (·.id)).Nodup
  snapshotVersions : (tables.snapshots.map fun snapshot =>
    (snapshot.userId, snapshot.snapshotVersion)).Nodup
  assessmentIds : (tables.assessments.map (·.id)).Nodup
  assessmentKeys : (tables.assessments.map fun assessment =>
    (assessment.userId, assessment.idempotencyKey)).Nodup
  assessmentPrograms : ∀ assessment ∈ tables.assessments, assessment.programId ∈ tables.programs
  assessmentSnapshots : ∀ assessment ∈ tables.assessments,
    assessment.profileSnapshotId ∈ tables.snapshots.map (·.id)
  jobIds : (tables.jobs.map (·.id)).Nodup
  jobKeys : (tables.jobs.map fun job => (job.jobType, job.idempotencyKey)).Nodup
  jobAssessments : ∀ job ∈ tables.jobs, Refers (tables.assessments.map (·.id)) job.assessmentId

instance : DecidablePred Consistent := fun tables => decidable_of_iff' _ (consistent_iff tables)

/-- Tables that meet their constraints. -/
abbrev Store := {tables : Tables // Consistent tables}

/-- Adding rows of a user, who has to exist. -/
def flushFor (users : List UUID) (userId : UUID) (tables : Tables) : Except DatabaseError Store :=
  if userId ∈ users then ensure Consistent .integrityError tables else .error .integrityError

def getAssessmentByUserIdempotency (tables : Tables) (userId : UUID) (idempotencyKey : String) :
    Option Assessment :=
  tables.assessments.find? fun assessment =>
    assessment.userId = userId ∧ assessment.idempotencyKey = idempotencyKey

def getLatestSnapshotVersion (tables : Tables) (userId : UUID) : ℕ :=
  ((sortBy (fun version : ℕ => OrderDual.toDual version)
    ((tables.snapshots.filter fun snapshot => snapshot.userId = userId).map
      (·.snapshotVersion))).head?).getD 0

def createProfileSnapshot (users : List UUID) (store : Store) (snapshot : UserProfileSnapshot) :
    Except DatabaseError Store :=
  flushFor users snapshot.userId
    { store.val with snapshots := store.val.snapshots ++ [snapshot] }

def createAssessmentRow (users : List UUID) (tables : Tables) (assessment : Assessment) :
    Except DatabaseError Store :=
  flushFor users assessment.userId
    { tables with assessments := tables.assessments ++ [assessment] }

def getJobByKey (tables : Tables) (jobType : JobType) (idempotencyKey : String) : Option Job :=
  tables.jobs.find? fun job => job.jobType = jobType ∧ job.idempotencyKey = idempotencyKey

/-- The text is there and not empty. -/
def hasText : Option String → Bool
  | some text => text ≠ ""
  | none => false

/-- `get_or_create_job`, up to the flush of its commit; the job given has the values of a new
row. -/
def getOrCreateJob (store : Store) (job : Job) : Except DatabaseError (Store × Job) :=
  match getJobByKey store.val job.jobType job.idempotencyKey with
  | some existing =>
      if hasText job.traceId ∧ !hasText existing.traceId then do
        let traced := { existing with traceId := job.traceId }
        let stored ← ensure Consistent .integrityError
          { store.val with jobs := replaceRow (·.id) traced store.val.jobs }
        .ok (stored, traced)
      else .ok (store, existing)
  | none => do
      let stored ← ensure Consistent .integrityError
        { store.val with jobs := store.val.jobs ++ [job] }
      .ok (stored, job)

structure AssessmentCreate where
  programId : UUID
  profileJson : Dict
  idempotencyKey : String

/-- The ids that `uuid4` gives to new rows. -/
structure CreationIds extends AccessIds where
  counter : UUID
  snapshot : UUID
  assessment : UUID
  job : UUID

/-- The readings of the clock: those of the quota, and when the assessment is requested. -/
structure CreationTimes extends QuotaTimes where
  requestedAt : Instant

/-- A call of `create_assessment`. -/
structure CreationCall where
  userId : UUID
  payload : AssessmentCreate
  traceId : Option String
  ids : CreationIds
  times : CreationTimes

/-- What other sessions commit before the latest version is read, until the snapshot is flushed,
and until the assessment is. -/
structure Meanwhile where
  version : Store → Store
  snapshot : Store → Store
  assessment : Store → Store

namespace Meanwhile

/-- Nothing. -/
def idle : Meanwhile := ⟨id, id, id⟩

variable (meanwhile : Meanwhile) (store : Store)

def untilSnapshot : Store := meanwhile.snapshot (meanwhile.version store)

def untilAssessment : Store := meanwhile.assessment (meanwhile.untilSnapshot store)

end Meanwhile

/-- A message of `process_assessment_task`. -/
structure ScoreTask where
  assessmentId : UUID
  jobId : UUID
  traceId : Option String
  priority : ℕ
deriving DecidableEq

structure Database where
  billing : Billing.Database
  store : Store
  queue : List ScoreTask

structure AssessmentQueued where
  assessmentId : UUID
  status : AssessmentStatus
  jobId : UUID
deriving DecidableEq

inductive CreationError where
  | billing (error : BillingError)
  | database (error : DatabaseError)
deriving DecidableEq

section Creation

variable [Hashlib]

def hashProfile (profileJson : Dict) : String := Hashlib.sha256Hex (Value.dict profileJson).dumps

def CreationCall.snapshot (call : CreationCall) (snapshotVersion : ℕ) : UserProfileSnapshot where
  id := call.ids.snapshot
  userId := call.userId
  snapshotVersion := snapshotVersion
  profileJson := call.payload.profileJson
  profileHash := hashProfile call.payload.profileJson

def CreationCall.assessment (call : CreationCall) : Assessment where
  id := call.ids.assessment
  userId := call.userId
  programId := call.payload.programId
  profileSnapshotId := call.ids.snapshot
  idempotencyKey := call.payload.idempotencyKey
  status := .pending
  requestedAt := call.times.requestedAt
  completedAt := none

/-- The snapshot with the version after the latest one. -/
def CreationCall.nextSnapshot (call : CreationCall) (versions : Tables) : UserProfileSnapshot :=
  call.snapshot (getLatestSnapshotVersion versions call.userId + 1)

/-- The part of `create_assessment` from the latest snapshot version to the commit: what is
committed in the end, and whether it is with the new rows. -/
def storeAssessment (users : List UUID) (meanwhile : Meanwhile) (store : Store)
    (call : CreationCall) : Store × Except DatabaseError Assessment :=
  let snapshot := call.nextSnapshot (meanwhile.version store).val
  let others := meanwhile.untilAssessment store
  match createProfileSnapshot users (meanwhile.untilSnapshot store) snapshot with
  | .error error => (others, .error error)
  | .ok _ =>
      -- The snapshot is pending while the others go on.
      match createAssessmentRow users
        { others.val with snapshots := others.val.snapshots ++ [snapshot] } call.assessment with
      | .error error => (others, .error error)
      | .ok stored => (stored, .ok call.assessment)

/-- The part of `create_assessment` after the assessment has been found or stored. -/
def queueAssessment (db : Database) (call : CreationCall) (assessment : Assessment)
    (quotaPriority : Bool) : Database × Except CreationError AssessmentQueued :=
  let job := ⟨call.ids.job, .scoreJob, "assessment:" ++ assessment.id.str, some assessment.id,
    call.traceId⟩
  match getOrCreateJob db.store job with
  | .error error => (db, .error (.database error))
  | .ok (store, job) =>
      let task := ⟨assessment.id, job.id, call.traceId, if quotaPriority then 0 else 9⟩
      let queue :=
        if assessment.status = .pending ∨ assessment.status = .failed then db.queue ++ [task]
        else db.queue
      ({ db with store := store, queue := queue }, .ok ⟨assessment.id, assessment.status, job.id⟩)

/-- `create_assessment`: the database with what has been committed, and what it returns or
raises. -/
def createAssessment (settings : Settings) (meanwhile : Meanwhile) (db : Database)
    (call : CreationCall) : Database × Except CreationError AssessmentQueued :=
  match getAssessmentByUserIdempotency db.store.val call.userId call.payload.idempotencyKey with
  | some existing =>
      match hasPriorityProcessing settings db.billing call.ids.toAccessIds
        call.times.toBaselineTimes call.times.priorityAt call.userId with
      | (billing, .error error) => ({ db with billing := billing }, .error (.billing error))
      | (billing, .ok quotaPriority) =>
          queueAssessment { db with billing := billing } call existing quotaPriority
  | none =>
      match consumeAssessmentQuota settings db.billing call.ids.toAccessIds call.ids.counter
        call.times.toQuotaTimes call.userId with
      | (billing, .error error) => ({ db with billing := billing }, .error (.billing error))
      | (billing, .ok quotaPriority) =>
          match storeAssessment billing.val.users meanwhile db.store call with
          | (store, .error error) =>
              ({ db with billing := billing, store := store }, .error (.database error))
          | (store, .ok assessment) =>
              queueAssessment { db with billing := billing, store := store } call assessment
                quotaPriority

end Creation

end ImigrAI.Assessments.Creation
