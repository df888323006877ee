import ImigrAI.Assessments.Creation
import ImigrAI.Roadmaps.Creation

/-!
# Idempotency keys of other users

`create_roadmap` over the tables of all users, one request at a time. A key belongs to whoever used
it first: a request with the key of another user is turned away, and this is all that a request
shows of the roadmaps and jobs of others.
-/

namespace ImigrAI.Roadmaps.Creation.Keys

open Python Rows
open Assessments.Creation (AssessmentStatus JobType hasText)
open Billing (AccessIds BaselineTimes BillingError requireEntitlement)

structure Assessment where
  id : UUID
  userId : UUID
  status : AssessmentStatus
  resultId : Option UUID
deriving DecidableEq

structure Job where
  id : UUID
  jobType : JobType
  idempotencyKey : String
  assessmentId : Option UUID
  roadmapId : Option UUID
  traceId : Option String
deriving DecidableEq

structure Tables where
  assessments : List Assessment
  roadmaps : List Roadmap
  jobs : List Job
  billing : Billing.Database
  messages : List Message

/-- The keys that the lookups rely on. -/
structure Consistent (tables : Tables) : Prop where
  roadmapIds : (tables.roadmaps.map (·.id)).Nodup
  jobKeys : (tables.jobs.map fun job => (job.jobType, job.idempotencyKey)).Nodup

/-- A request, with the ids that `uuid4` gives to new rows and the readings of the clock. -/
structure CreateRequest where
  userId : UUID
  assessmentId : UUID
  idempotencyKey : Option String
  traceId : Option String
  access : AccessIds
  times : BaselineTimes
  checkedAt : Instant
  roadmapId : UUID
  jobId : UUID

def statusValue : AssessmentStatus → String
  | .pending => "pending"
  | .running => "running"
  | .completed => "completed"
  | .failed => "failed"
  | .canceled => "canceled"

def getJobByKey (jobs : List Job) (jobType : JobType) (idempotencyKey : String) : Option Job :=
  jobs.find? fun job => decide ((job.jobType, job.idempotencyKey) = (jobType, idempotencyKey))

def getRoadmap (roadmaps : List Roadmap) (roadmapId : UUID) : Option Roadmap :=
  roadmaps.find? fun roadmap => decide (roadmap.id = roadmapId)

def getAssessmentForRoadmap (assessments : List Assessment) (assessmentId userId : UUID) :
    Option Assessment :=
  assessments.find? fun assessment => assessment.id = assessmentId ∧ assessment.userId = userId

/-- The job of a key that was used, with its roadmap. -/
def usedKey (tables : Tables) (idempotencyKey : Option String) : Option (Job × Roadmap) :=
  match idempotencyKey with
  | none => none
  | some key =>
      if key = "" then none
      else do
        let job ← getJobByKey tables.jobs .roadmapJob key
        let roadmapId ← job.roadmapId
        let roadmap ← getRoadmap tables.roadmaps roadmapId
        some (job, roadmap)

section Create

variable (settings : Billing.Settings) (roadmapSchemaVersion : String)

/-- The checks of the assessment and of the entitlement, which give the result that the roadmap
is for. -/
def admitRequest (assessments : List Assessment) (billing : Billing.Database)
    (request : CreateRequest) : Billing.Database × Except BillingError UUID :=
  match getAssessmentForRoadmap assessments request.assessmentId request.userId with
  | none => (billing, .error (.http 404 "Assessment not found"))
  | some assessment =>
      match assessment.status, assessment.resultId with
      | .completed, some resultId =>
          match requireEntitlement settings billing request.access request.times
            request.checkedAt request.userId settings.proRoadmapFeatureKey with
          | (checked, .error error) => (checked, .error error)
          | (checked, .ok _) => (checked, .ok resultId)
      | status, _ =>
          (billing, .error (.http 409 ("Assessment must be completed before roadmap generation " ++
            "(current=" ++ statusValue status ++ ")")))

def newRoadmap (request : CreateRequest) (resultId : UUID) : Roadmap where
  id := request.roadmapId
  userId := request.userId
  assessmentResultId := resultId
  roadmapSchemaVersion := roadmapSchemaVersion
  status := .pending
  traceId := request.traceId

def getOrCreateJob (jobs : List Job) (new : Job) : List Job × Job :=
  match getJobByKey jobs new.jobType new.idempotencyKey with
  | some existing =>
      if hasText new.traceId ∧ !hasText existing.traceId then
        let traced := { existing with traceId := new.traceId }
        (replaceRow (·.id) traced jobs, traced)
      else (jobs, existing)
  | none => (jobs ++ [new], new)

/-- The roadmap is created and its job queued. -/
def queueRoadmap (tables : Tables) (request : CreateRequest) (resultId : UUID) :
    Tables × RoadmapQueuedRead :=
  let roadmap := newRoadmap roadmapSchemaVersion request resultId
  let idempotencyKey :=
    match request.idempotencyKey with
    | some key => if key = "" then "roadmap:" ++ roadmap.id.str else key
    | none => "roadmap:" ++ roadmap.id.str
  let (jobs, job) := getOrCreateJob tables.jobs
    ⟨request.jobId, .roadmapJob, idempotencyKey, none, some roadmap.id, request.traceId⟩
  ({ tables with
    roadmaps := tables.roadmaps ++ [roadmap]
    jobs := jobs
    messages := tables.messages ++ [⟨roadmap.id, job.id, request.traceId⟩] },
    queuedRead roadmap job.id)

def createRoadmap (tables : Tables) (request : CreateRequest) :
    Tables × Except BillingError RoadmapQueuedRead :=
  match usedKey tables request.idempotencyKey with
  | some (job, roadmap) =>
      if roadmap.userId ≠ request.userId then
        (tables, .error (.http 409 "Idempotency key already used by another user"))
      else (tables, .ok (queuedRead roadmap job.id))
  | none =>
      match admitRequest settings tables.assessments tables.billing request with
      | (billing, .error error) => ({ tables with billing := billing }, .error error)
      | (billing, .ok resultId) =>
          let (queued, read) :=
            queueRoadmap roadmapSchemaVersion { tables with billing := billing } request resultId
          (queued, .ok read)

/-- Whether a request is queued, or which error it is answered with. -/
def outcome (tables : Tables) (request : CreateRequest) : Except BillingError Unit :=
  (createRoadmap settings roadmapSchemaVersion tables request).2.map fun _ => ()

end Create

/-- The user of the roadmap or the assessment that a job is for. -/
def owner (tables : Tables) (job : Job) : Option UUID :=
  match job.roadmapId.bind (getRoadmap tables.roadmaps) with
  | some roadmap => some roadmap.userId
  | none => do
      let assessmentId ← job.assessmentId
      let assessment ← tables.assessments.find? fun assessment => assessment.id = assessmentId
      some assessment.userId

def OfAnotherUser (tables : Tables) (userId : UUID) (job : Job) : Prop :=
  (owner tables job).any fun jobOwner => jobOwner ≠ userId

instance (tables : Tables) (userId : UUID) (job : Job) :
    Decidable (OfAnotherUser tables userId job) :=
  inferInstanceAs (Decidable (_ = true))

/-- Two stores differ only in the roadmaps, the jobs and the keys of other users. -/
structure DifferInOthers (userId : UUID) (first second : Tables) : Prop where
  assessments : first.assessments = second.assessments
  billing : first.billing = second.billing
  roadmaps : (first.roadmaps.filter fun roadmap => roadmap.userId = userId) =
    second.roadmaps.filter fun roadmap => roadmap.userId = userId
  jobs : (first.jobs.filter fun job => ¬ OfAnotherUser first userId job) =
    second.jobs.filter fun job => ¬ OfAnotherUser second userId job

/-- The key of the request was used for a roadmap of another user. -/
def KeyOfAnotherUser (tables : Tables) (request : CreateRequest) : Prop :=
  ∃ job roadmap, usedKey tables request.idempotencyKey = some (job, roadmap) ∧
    roadmap.userId ≠ request.userId

section Outcomes

variable {settings : Billing.Settings} {roadmapSchemaVersion : String} {request : CreateRequest}

theorem getJobByKey_eq_some_iff {tables : Tables} (consistent : Consistent tables)
    {jobType : JobType} {key : String} {job : Job} :
    getJobByKey tables.jobs jobType key = some job ↔
      job ∈ tables.jobs ∧ (job.jobType, job.idempotencyKey) = (jobType, key) :=
  find?_eq_some_iff_of_nodup consistent.jobKeys

theorem getRoadmap_eq_some_iff {tables : Tables} (consistent : Consistent tables)
    {roadmapId : UUID} {roadmap : Roadmap} :
    getRoadmap tables.roadmaps roadmapId = some roadmap ↔
      roadmap ∈ tables.roadmaps ∧ roadmap.id = roadmapId :=
  find?_eq_some_iff_of_nodup consistent.roadmapIds

theorem usedKey_eq_some {tables : Tables} {idempotencyKey : Option String} {job : Job}
    {roadmap : Roadmap} (used : usedKey tables idempotencyKey = some (job, roadmap)) :
    ∃ key, idempotencyKey = some key ∧ key ≠ "" ∧
      getJobByKey tables.jobs .roadmapJob key = some job ∧
      ∃ roadmapId, job.roadmapId = some roadmapId ∧
        getRoadmap tables.roadmaps roadmapId = some roadmap := by
  cases idempotencyKey with
  | none => cases used
  | some key =>
      simp only [usedKey] at used
      split_ifs at used with empty
      rcases Option.bind_eq_some_iff.mp used with ⟨found, isFound, used⟩
      rcases Option.bind_eq_some_iff.mp used with ⟨roadmapId, isId, used⟩
      rcases Option.bind_eq_some_iff.mp used with ⟨read, isRead, used⟩
      cases used
      exact ⟨key, rfl, empty, isFound, roadmapId, isId, isRead⟩

/-- A key that the user has used is used by the user in any store that differs in others. -/
theorem usedKey_of_differInOthers {first second : Tables} (firstConsistent : Consistent first)
    (secondConsistent : Consistent second) (related : DifferInOthers request.userId first second)
    {job : Job} {roadmap : Roadmap}
    (used : usedKey first request.idempotencyKey = some (job, roadmap))
    (own : roadmap.userId = request.userId) :
    usedKey second request.idempotencyKey = some (job, roadmap) := by
  rcases usedKey_eq_some used with ⟨key, isKey, nonempty, found, roadmapId, isId, read⟩
  rcases (getJobByKey_eq_some_iff firstConsistent).mp found with ⟨jobMem, jobKey⟩
  rcases (getRoadmap_eq_some_iff firstConsistent).mp read with ⟨roadmapMem, isRoadmap⟩
  have ofUser : ¬ OfAnotherUser first request.userId job := by
    simp [OfAnotherUser, owner, isId, read, own]
  have jobKept : job ∈ second.jobs.filter
      fun job => ¬ OfAnotherUser second request.userId job := by
    rw [← related.jobs]
    simpa using ⟨jobMem, ofUser⟩
  have roadmapKept : roadmap ∈ second.roadmaps.filter
      fun roadmap => roadmap.userId = request.userId := by
    rw [← related.roadmaps]
    simpa using ⟨roadmapMem, own⟩
  have foundAgain : getJobByKey second.jobs .roadmapJob key = some job :=
    (getJobByKey_eq_some_iff secondConsistent).mpr ⟨(List.mem_filter.mp jobKept).1, jobKey⟩
  have readAgain : getRoadmap second.roadmaps roadmapId = some roadmap :=
    (getRoadmap_eq_some_iff secondConsistent).mpr
      ⟨(List.mem_filter.mp roadmapKept).1, isRoadmap⟩
  simp [usedKey, isKey, nonempty, foundAgain, isId, readAgain]

theorem DifferInOthers.symm {userId : UUID} {first second : Tables}
    (related : DifferInOthers userId first second) : DifferInOthers userId second first :=
  ⟨related.assessments.symm, related.billing.symm, related.roadmaps.symm, related.jobs.symm⟩

/-- The outcome of a request with a new key. -/
def admission (settings : Billing.Settings) (tables : Tables) (request : CreateRequest) :
    Except BillingError Unit :=
  (admitRequest settings tables.assessments tables.billing request).2.map fun _ => ()

theorem outcome_of_keyOfAnotherUser {tables : Tables} (held : KeyOfAnotherUser tables request) :
    outcome settings roadmapSchemaVersion tables request =
      .error (.http 409 "Idempotency key already used by another user") := by
  rcases held with ⟨job, roadmap, used, other⟩
  simp [outcome, createRoadmap, used, other, Except.map]

theorem outcome_of_own {tables : Tables} {job : Job} {roadmap : Roadmap}
    (used : usedKey tables request.idempotencyKey = some (job, roadmap))
    (own : roadmap.userId = request.userId) :
    outcome settings roadmapSchemaVersion tables request = .ok () := by
  simp [outcome, createRoadmap, used, own, Except.map]

theorem outcome_of_unused {tables : Tables}
    (unused : usedKey tables request.idempotencyKey = none) :
    outcome settings roadmapSchemaVersion tables request = admission settings tables request := by
  simp only [outcome, createRoadmap, unused, admission]
  split
  · rename_i billing error admitted
    rw [admitted]
    rfl
  · rename_i billing resultId admitted
    rw [admitted]
    rfl

/-- What the service raises of its own accord is no conflict. -/
theorem requireEntitlement_ne_conflict {db checked : Billing.Database} {access : AccessIds}
    {times : BaselineTimes} {checkedAt : Instant} {userId : UUID} {featureKey detail : String} :
    requireEntitlement settings db access times checkedAt userId featureKey ≠
      (checked, .error (.http 409 detail)) := by
  intro raised
  rw [requireEntitlement] at raised
  split at raised
  · rename_i baseline error ensured
    cases raised
    rw [Billing.ensureUserAccessBaseline] at ensured
    split at ensured
    · cases ensured
    · split_ifs at ensured
      · cases ensured
      · split at ensured
        · cases ensured
        · split at ensured <;> cases ensured
  · split at raised <;> cases raised

theorem notCompleted_ne_conflict (status : AssessmentStatus) :
    "Assessment must be completed before roadmap generation " ++ "(current=" ++
      statusValue status ++ ")" ≠ "Idempotency key already used by another user" := by
  cases status <;> decide

theorem admission_ne_conflict {tables : Tables} :
    admission settings tables request ≠
      .error (.http 409 "Idempotency key already used by another user") := by
  intro raised
  simp only [admission, admitRequest] at raised
  split at raised
  · simp [Except.map] at raised
  · split at raised
    · split at raised
      · rename_i checked error entitled
        simp only [Except.map, Except.error.injEq] at raised
        rw [raised] at entitled
        exact requireEntitlement_ne_conflict entitled
      · cases raised
    · simp only [Except.map, Except.error.injEq, BillingError.http.injEq, true_and] at raised
      exact notCompleted_ne_conflict _ raised

/-- The outcome when no other user has the key. -/
theorem outcome_eq_of_differInOthers {first second : Tables} (firstConsistent : Consistent first)
    (secondConsistent : Consistent second)
    (related : DifferInOthers request.userId first second)
    (firstFree : ¬ KeyOfAnotherUser first request)
    (secondFree : ¬ KeyOfAnotherUser second request) :
    outcome settings roadmapSchemaVersion first request =
      outcome settings roadmapSchemaVersion second request := by
  cases firstUsed : usedKey first request.idempotencyKey with
  | some used =>
      have own : used.2.userId = request.userId := by
        by_contra other
        exact firstFree ⟨used.1, used.2, firstUsed, other⟩
      rw [outcome_of_own firstUsed own, outcome_of_own
        (usedKey_of_differInOthers firstConsistent secondConsistent related firstUsed own) own]
  | none =>
      cases secondUsed : usedKey second request.idempotencyKey with
      | some used =>
          have own : used.2.userId = request.userId := by
            by_contra other
            exact secondFree ⟨used.1, used.2, secondUsed, other⟩
          have alsoFirst := usedKey_of_differInOthers secondConsistent firstConsistent
            related.symm secondUsed own
          cases firstUsed.symm.trans alsoFirst
      | none =>
          rw [outcome_of_unused firstUsed, outcome_of_unused secondUsed, admission, admission,
            related.assessments, related.billing]

theorem outcome_ne_conflict {tables : Tables} (unheld : ¬ KeyOfAnotherUser tables request) :
    outcome settings roadmapSchemaVersion tables request ≠
      .error (.http 409 "Idempotency key already used by another user") := by
  cases used : usedKey tables request.idempotencyKey with
  | some pair =>
      have own : pair.2.userId = request.userId := by
        by_contra other
        exact unheld ⟨pair.1, pair.2, used, other⟩
      rw [outcome_of_own used own]
      simp
  | none =>
      rw [outcome_of_unused used]
      exact admission_ne_conflict

/-- A request with the key of another user is turned away. In two stores that differ only in what
belongs to other users, the outcome is the same exactly if the key is another user's in both or in
none. -/
theorem outcome_eq_iff {first second : Tables} (firstConsistent : Consistent first)
    (secondConsistent : Consistent second)
    (related : DifferInOthers request.userId first second) :
    (KeyOfAnotherUser first request → outcome settings roadmapSchemaVersion first request =
      .error (.http 409 "Idempotency key already used by another user")) ∧
    (outcome settings roadmapSchemaVersion first request =
        outcome settings roadmapSchemaVersion second request ↔
      (KeyOfAnotherUser first request ↔ KeyOfAnotherUser second request)) := by
  refine ⟨outcome_of_keyOfAnotherUser, ?_⟩
  by_cases firstHeld : KeyOfAnotherUser first request
  · have firstConflict := @outcome_of_keyOfAnotherUser settings roadmapSchemaVersion _ _ firstHeld
    by_cases secondHeld : KeyOfAnotherUser second request
    · apply iff_of_true _ (iff_of_true firstHeld secondHeld)
      rw [firstConflict, outcome_of_keyOfAnotherUser secondHeld]
    · apply iff_of_false _ fun both => secondHeld (both.mp firstHeld)
      rw [firstConflict]
      exact (outcome_ne_conflict secondHeld).symm
  · by_cases secondHeld : KeyOfAnotherUser second request
    · apply iff_of_false _ fun both => firstHeld (both.mpr secondHeld)
      rw [outcome_of_keyOfAnotherUser secondHeld]
      exact outcome_ne_conflict firstHeld
    · apply iff_of_true _ (iff_of_false firstHeld secondHeld)
      exact outcome_eq_of_differInOthers firstConsistent secondConsistent related firstHeld
        secondHeld

end Outcomes

/-- A user with the entitlement and a completed assessment. -/
def entitledTables : Tables where
  assessments := [⟨5, 1, .completed, some 6⟩]
  roadmaps := []
  jobs := []
  billing := ⟨⟨[1], [], [], [⟨41, 1, none, none, "roadmap.pro", none, .lifetime, true, 0, none⟩],
    [], []⟩, by decide⟩
  messages := []

/-- Another user has a roadmap under the key. -/
def sharedTables : Tables :=
  { entitledTables with
    roadmaps := [⟨21, 2, 7, "roadmap.v1", .pending, none⟩]
    jobs := [⟨31, .roadmapJob, "key", none, some 21, none⟩] }

def sampleRequest : CreateRequest :=
  ⟨1, 5, some "key", none, ⟨51, 52, fun _ => 53⟩, ⟨1, 1⟩, 1, 22, 32⟩

theorem entitledTables_differ_sharedTables : DifferInOthers 1 entitledTables sharedTables :=
  ⟨rfl, rfl, rfl, by decide⟩

/-- A new key is queued, and turned away if another user has it. -/
theorem outcome_shows_key_of_another_user :
    DifferInOthers 1 entitledTables sharedTables ∧
      outcome Billing.sampleSettings "roadmap.v1" entitledTables sampleRequest = .ok () ∧
      outcome Billing.sampleSettings "roadmap.v1" sharedTables sampleRequest =
        .error (.http 409 "Idempotency key already used by another user") :=
  ⟨⟨rfl, rfl, rfl, by decide⟩, by decide +kernel, rfl⟩

theorem outcome_eq_iff_sample :
    (KeyOfAnotherUser sharedTables sampleRequest →
      outcome Billing.sampleSettings "roadmap.v1" sharedTables sampleRequest =
        .error (.http 409 "Idempotency key already used by another user")) ∧
    (outcome Billing.sampleSettings "roadmap.v1" sharedTables sampleRequest =
        outcome Billing.sampleSettings "roadmap.v1" entitledTables sampleRequest ↔
      (KeyOfAnotherUser sharedTables sampleRequest ↔
        KeyOfAnotherUser entitledTables sampleRequest)) :=
  outcome_eq_iff ⟨by decide, by decide⟩ ⟨by decide, by decide⟩
    entitledTables_differ_sharedTables.symm

end ImigrAI.Roadmaps.Creation.Keys
