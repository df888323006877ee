import ImigrAI.Assessments.Charging
import ImigrAI.Foundations.Runs

/-!
# Histories of assessments

Any number of requests one after another, with changes of plans and entitlements between them.
Every request of the history is remembered with the limit it met and its answer, and the tables
hold what the answers say.
-/

namespace ImigrAI.Assessments.Creation

open Python Fallible Rows Sorting Runs
open Billing (Settings UsageCounter AccessIds DatabaseError BillingError limitInForce usedCount
  baseline consumeAssessmentQuota consumeAssessmentQuota_cases usageCounters_baseline
  currentMonthWindow countUsage_eq_ok hasPriorityProcessing
  hasPriorityProcessing_fst RaisesUsage)

/-- What jobs are known by. -/
def jobNames (tables : Tables) : List (JobType × String × UUID) :=
  tables.jobs.map fun job => (job.jobType, job.idempotencyKey, job.id)

/-- The name of the job that scores an assessment. -/
def scoreJobName (assessmentId jobId : UUID) : JobType × String × UUID :=
  (.scoreJob, "assessment:" ++ assessmentId.str, jobId)

theorem getOrCreateJob_eq_ok {store stored : Store} {job found : Job}
    (done : getOrCreateJob store job = .ok (stored, found)) :
    (∃ jobs, stored.val = { store.val with jobs := jobs }) ∧
      jobNames store.val ⊆ jobNames stored.val ∧
      (job.jobType, job.idempotencyKey, found.id) ∈ jobNames stored.val := by
  unfold getOrCreateJob at done
  split at done
  · next existing lookup =>
      have selected := List.find?_some lookup
      rw [decide_eq_true_eq] at selected
      have named : (job.jobType, job.idempotencyKey, existing.id) ∈ jobNames store.val := by
        rw [← selected.1, ← selected.2]
        exact List.mem_map_of_mem (List.mem_of_find?_eq_some lookup)
      split at done
      · rcases bind_eq_ok_iff.mp done with ⟨traced, tracing, done⟩
        cases done
        have tables := ensure_eq_ok_iff.mp tracing
        have names : jobNames stored.val = jobNames store.val := by
          rw [tables]
          apply map_replaceRow
          intro old oldMem sameId
          rw [List.inj_on_of_nodup_map store.property.jobIds oldMem
            (List.mem_of_find?_eq_some lookup) sameId]
        rw [names]
        exact ⟨⟨_, tables⟩, fun _ mem => mem, named⟩
      · cases done
        exact ⟨⟨store.val.jobs, rfl⟩, fun _ mem => mem, named⟩
  · rcases bind_eq_ok_iff.mp done with ⟨created, creating, done⟩
    cases done
    have tables := ensure_eq_ok_iff.mp creating
    refine ⟨⟨_, tables⟩, ?_, ?_⟩
    · intro name mem
      rw [jobNames, tables, List.map_append]
      exact List.mem_append_left _ mem
    · rw [jobNames, tables]
      simp

/-- The assessment has its job, which is the one of the answer; jobs keep their names, and the
other tables stay. -/
structure QueuedFor (before after : Tables) (assessmentId jobId : UUID) : Prop where
  rest : ∃ jobs, after = { before with jobs := jobs }
  kept : jobNames before ⊆ jobNames after
  named : scoreJobName assessmentId jobId ∈ jobNames after

theorem queueAssessment_cases (db : Database) (call : CreationCall)
    (assessment : Assessment) (priority : Bool) :
    (∃ error, queueAssessment db call assessment priority = (db, .error (.database error))) ∨
      ∃ after jobId,
        queueAssessment db call assessment priority =
          (after, .ok ⟨assessment.id, assessment.status, jobId⟩) ∧
        after.billing = db.billing ∧
        QueuedFor db.store.val after.store.val assessment.id jobId := by
  unfold queueAssessment
  dsimp only
  split
  · next error _ => exact Or.inl ⟨error, rfl⟩
  · next store job getting =>
      rcases getOrCreateJob_eq_ok getting with ⟨rest, kept, named⟩
      exact Or.inr ⟨_, job.id, rfl, rfl, rest, kept, named⟩

/-- A request of a history: whether its key was new, the limit in force for it, and its answer. -/
structure Request where
  call : CreationCall
  isNew : Bool
  limit : Option ℤ
  answer : Except CreationError AssessmentQueued

/-- The database has failed. -/
def CreationError.isDatabase : CreationError → Bool
  | .database _ => true
  | .billing (.database _) => true
  | .billing _ => false

/-- The user and the key. -/
def Request.key (request : Request) : UUID × String :=
  (request.call.userId, request.call.payload.idempotencyKey)

def Assessment.key (assessment : Assessment) : UUID × String :=
  (assessment.userId, assessment.idempotencyKey)

/-- The database has not failed in the request. -/
def Request.Undisturbed (request : Request) : Prop :=
  ∀ error, request.answer = .error error → error.isDatabase = false

/-- The first instant of the month. -/
def monthStart (now : Instant) : Option Instant := (currentMonthWindow now).toOption.map Prod.fst

/-- The request has created an assessment in the month under a limit. -/
def Request.IsChargedTo (userId : UUID) (windowStart : Instant) (request : Request) : Prop :=
  request.call.userId = userId ∧ monthStart request.call.times.countedAt = some windowStart ∧
    request.isNew ∧ request.answer.isOk ∧ request.limit.isSome

instance (userId : UUID) (windowStart : Instant) :
    DecidablePred (Request.IsChargedTo userId windowStart) :=
  fun _ => inferInstanceAs (Decidable (_ ∧ _ ∧ _ ∧ _ ∧ _))

def chargedTo (log : List Request) (userId : UUID) (windowStart : Instant) : List Request :=
  log.filter fun request => request.IsChargedTo userId windowStart

def snapshotVersionsOf (tables : Tables) (userId : UUID) : List ℕ :=
  (tables.snapshots.filter fun snapshot => snapshot.userId = userId).map (·.snapshotVersion)

section Outcomes

/-- The counters after the quota has been consumed, under a limit or without one. -/
def CountedUnder (settings : Settings) (call : CreationCall) (before after : List UsageCounter) :
    Option ℤ → Prop
  | none => after = before
  | some limit => ∃ windowStart, monthStart call.times.countedAt = some windowStart ∧
      usedCount before call.userId settings.assessmentFeatureKey windowStart < limit ∧
      RaisesUsage call.userId settings.assessmentFeatureKey windowStart before after

theorem countedUnder_of_consumeAssessmentQuota {settings : Settings} {db : Database}
    {call : CreationCall} {committed : Billing.Database} {priority : Bool}
    (consumes : consumeAssessmentQuota settings db.billing call.ids.toAccessIds call.ids.counter
      call.times.toQuotaTimes call.userId = (committed, .ok priority)) :
    CountedUnder settings call db.billing.val.usageCounters committed.val.usageCounters
      (limitInForce settings db.billing call.ids.toAccessIds call.times.toQuotaTimes
        call.userId) := by
  rcases consumeAssessmentQuota_cases settings db.billing call.ids.toAccessIds call.ids.counter
    call.times.toQuotaTimes call.userId with ⟨_, _, consumed, spec⟩
  cases consumes.symm.trans consumed
  cases limited : limitInForce settings db.billing call.ids.toAccessIds call.times.toQuotaTimes
    call.userId with
  | none =>
      simp only [limited] at spec
      rw [CountedUnder, spec, usageCounters_baseline]
  | some limit =>
      simp only [limited] at spec
      rcases countUsage_eq_ok spec with ⟨windowStart, windowEnd, month, below, -, raises⟩
      rw [usageCounters_baseline] at below raises
      exact ⟨windowStart, by simp [monthStart, month, Except.toOption], below, raises⟩

variable [Hashlib]

/-- What a request has done when the database has not failed. -/
inductive Outcome (settings : Settings) (call : CreationCall) (before after : Database) :
    Except CreationError AssessmentQueued → Prop where
  | refused (error : CreationError) (sameStore : after.store = before.store)
      (sameCounters : after.billing.val.usageCounters = before.billing.val.usageCounters) :
      Outcome settings call before after (.error error)
  | replayed (existing : Assessment) (jobId : UUID)
      (found : getAssessmentByUserIdempotency before.store.val call.userId
        call.payload.idempotencyKey = some existing)
      (sameCounters : after.billing.val.usageCounters = before.billing.val.usageCounters)
      (queued : QueuedFor before.store.val after.store.val existing.id jobId) :
      Outcome settings call before after (.ok ⟨existing.id, existing.status, jobId⟩)
  | created (jobId : UUID)
      (isNew : getAssessmentByUserIdempotency before.store.val call.userId
        call.payload.idempotencyKey = none)
      (counted : CountedUnder settings call before.billing.val.usageCounters
        after.billing.val.usageCounters (limitInForce settings before.billing
          call.ids.toAccessIds call.times.toQuotaTimes call.userId))
      (queued : QueuedFor ((before.store.val.addSnapshot
        (call.nextSnapshot before.store.val)).addAssessment call.assessment) after.store.val
          call.ids.assessment jobId) :
      Outcome settings call before after (.ok ⟨call.ids.assessment, .pending, jobId⟩)

/-- The request that a call is in the history. -/
def requestOf (settings : Settings) (db : Database) (call : CreationCall) : Request where
  call := call
  isNew :=
    (getAssessmentByUserIdempotency db.store.val call.userId call.payload.idempotencyKey).isNone
  limit := limitInForce settings db.billing call.ids.toAccessIds call.times.toQuotaTimes call.userId
  answer := (createAssessment settings .idle db call).2

theorem createAssessment_outcome {settings : Settings} {db : Database} {call : CreationCall}
    (undisturbed : (requestOf settings db call).Undisturbed) :
    Outcome settings call db (createAssessment settings .idle db call).1
      (createAssessment settings .idle db call).2 := by
  unfold Request.Undisturbed requestOf at undisturbed
  dsimp only at undisturbed
  cases lookup : getAssessmentByUserIdempotency db.store.val call.userId
    call.payload.idempotencyKey with
  | some existing =>
      rcases prioritizing : hasPriorityProcessing settings db.billing call.ids.toAccessIds
        call.times.toBaselineTimes call.times.priorityAt call.userId with ⟨billing, result⟩
      have sameCounters : billing.val.usageCounters = db.billing.val.usageCounters := by
        have committed : billing = _ := (congrArg Prod.fst prioritizing).symm.trans
          (hasPriorityProcessing_fst settings db.billing call.ids.toAccessIds
            call.times.toBaselineTimes call.times.priorityAt call.userId)
        rw [committed, usageCounters_baseline]
      cases result with
      | error error =>
          simp only [createAssessment, lookup, prioritizing]
          exact .refused _ rfl sameCounters
      | ok priority =>
          simp only [createAssessment, lookup, prioritizing] at undisturbed ⊢
          rcases queueAssessment_cases { db with billing := billing } call existing priority with
            ⟨error, failing⟩ | ⟨after, jobId, queueing, sameBilling, queued⟩
          · rw [failing] at undisturbed
            exact absurd (undisturbed _ rfl) (by simp [CreationError.isDatabase])
          · rw [queueing]
            exact .replayed existing jobId lookup (by rw [sameBilling]; exact sameCounters) queued
  | none =>
      rcases consuming : consumeAssessmentQuota settings db.billing call.ids.toAccessIds
        call.ids.counter call.times.toQuotaTimes call.userId with ⟨committed, result⟩
      cases result with
      | error error =>
          rcases consumeAssessmentQuota_cases settings db.billing call.ids.toAccessIds
            call.ids.counter call.times.toQuotaTimes call.userId with ⟨_, _, consumed, spec⟩
          cases consuming.symm.trans consumed
          simp only [createAssessment, lookup, consuming]
          exact .refused _ rfl (by rw [spec, usageCounters_baseline])
      | ok priority =>
          have counted := countedUnder_of_consumeAssessmentQuota consuming
          rcases storeAssessment_cases committed.val.users .idle db.store call with
            ⟨-, stored, storing, tables⟩ | ⟨error, failing⟩
          · simp only [createAssessment, lookup, consuming, storing] at undisturbed ⊢
            rcases queueAssessment_cases { db with billing := committed, store := stored } call
              call.assessment priority with
              ⟨error, failing⟩ | ⟨after, jobId, queueing, sameBilling, queued⟩
            · rw [failing] at undisturbed
              exact absurd (undisturbed _ rfl) (by simp [CreationError.isDatabase])
            · rw [queueing]
              rw [tables] at queued
              exact .created jobId lookup (by rw [sameBilling]; exact counted) queued
          · simp only [createAssessment, lookup, consuming, failing] at undisturbed
            exact absurd (undisturbed _ rfl) (by simp [CreationError.isDatabase])

end Outcomes

section Usage

variable {settings : Settings} {log : List Request} {request : Request} {userId : UUID}
  {windowStart : Instant} {before after : List UsageCounter}

theorem chargedTo_append_of_charged (charged : request.IsChargedTo userId windowStart) :
    chargedTo (log ++ [request]) userId windowStart =
      chargedTo log userId windowStart ++ [request] := by
  simp [chargedTo, charged]

theorem chargedTo_append_of_not (notCharged : ¬ request.IsChargedTo userId windowStart) :
    chargedTo (log ++ [request]) userId windowStart = chargedTo log userId windowStart := by
  simp [chargedTo, notCharged]

/-- Every count of a month is the number of its charged requests, and the last of these was
within its limit. -/
structure UsageRecorded (settings : Settings) (log : List Request)
    (counters : List UsageCounter) : Prop where
  counts : ∀ userId windowStart,
    usedCount counters userId settings.assessmentFeatureKey windowStart =
      (chargedTo log userId windowStart).length
  limits : ∀ userId windowStart, ∀ request ∈ (chargedTo log userId windowStart).getLast?,
    ∀ limit ∈ request.limit, ((chargedTo log userId windowStart).length : ℤ) ≤ limit

/-- A request that is not charged changes nothing. -/
theorem UsageRecorded.append_of_not (recorded : UsageRecorded settings log before)
    (same : after = before) (notCharged : ∀ userId windowStart,
      ¬ request.IsChargedTo userId windowStart) :
    UsageRecorded settings (log ++ [request]) after := by
  subst same
  refine ⟨?_, ?_⟩
  · intro userId windowStart
    rw [chargedTo_append_of_not (notCharged userId windowStart)]
    exact recorded.counts userId windowStart
  · intro userId windowStart
    rw [chargedTo_append_of_not (notCharged userId windowStart)]
    exact recorded.limits userId windowStart

theorem UsageRecorded.append_created (recorded : UsageRecorded settings log before)
    (counted : CountedUnder settings request.call before after request.limit)
    (isNew : request.isNew) (accepted : request.answer.isOk) :
    UsageRecorded settings (log ++ [request]) after := by
  cases limited : request.limit with
  | none =>
      rw [limited] at counted
      refine recorded.append_of_not counted fun userId windowStart => ?_
      rintro ⟨-, -, -, -, underLimit⟩
      simp [limited] at underLimit
  | some limit =>
      rw [limited] at counted
      rcases counted with ⟨ownStart, month, below, raises⟩
      have chargedOwn : request.IsChargedTo request.call.userId ownStart :=
        ⟨rfl, month, isNew, accepted, by rw [limited]; rfl⟩
      -- The request is charged to one month of one user.
      have chargedOnly : ∀ userId windowStart, request.IsChargedTo userId windowStart →
          userId = request.call.userId ∧ windowStart = ownStart := by
        rintro userId windowStart ⟨ofUser, ofMonth, -⟩
        exact ⟨ofUser.symm, Option.some.inj (ofMonth.symm.trans month)⟩
      refine ⟨?_, ?_⟩
      · intro userId windowStart
        by_cases charged : request.IsChargedTo userId windowStart
        · rcases chargedOnly userId windowStart charged with ⟨rfl, rfl⟩
          rw [chargedTo_append_of_charged charged, List.length_append, raises.raised,
            recorded.counts]
          simp
        · rw [chargedTo_append_of_not charged, raises.others, recorded.counts]
          intro same
          simp only [Prod.mk.injEq] at same
          rcases same with ⟨rfl, -, rfl⟩
          exact charged chargedOwn
      · intro userId windowStart
        by_cases charged : request.IsChargedTo userId windowStart
        · rcases chargedOnly userId windowStart charged with ⟨rfl, rfl⟩
          rw [chargedTo_append_of_charged charged, List.getLast?_append]
          rintro last isLast lastLimit isLimit
          simp only [List.getLast?_singleton, Option.some_or, Option.mem_def,
            Option.some.injEq] at isLast
          subst isLast
          rw [limited] at isLimit
          cases isLimit
          rw [recorded.counts] at below
          simp only [List.length_append, List.length_singleton]
          omega
        · rw [chargedTo_append_of_not charged]
          exact recorded.limits userId windowStart

end Usage

/-- What the requests have been answered is what the tables hold. -/
structure Recorded (settings : Settings) (log : List Request) (db : Database) : Prop where
  answered : ∀ request ∈ log, ∀ queued, request.answer = .ok queued →
    (∃ assessment ∈ db.store.val.assessments,
      assessment.key = request.key ∧ assessment.id = queued.assessmentId) ∧
    scoreJobName queued.assessmentId queued.jobId ∈ jobNames db.store.val
  accepted : ∀ assessment ∈ db.store.val.assessments,
    ∃ request ∈ log, request.answer.isOk ∧ request.key = assessment.key
  versions : ∀ userId, snapshotVersionsOf db.store.val userId =
    List.range' 1 (snapshotVersionsOf db.store.val userId).length
  usage : UsageRecorded settings log db.billing.val.usageCounters

section Recording

variable {settings : Settings} {log : List Request} {request : Request} {before after : Database}

/-- The latest version of versions from one on is their number. -/
theorem getLatestSnapshotVersion_eq {tables : Tables} {userId : UUID}
    (versions : snapshotVersionsOf tables userId =
      List.range' 1 (snapshotVersionsOf tables userId).length) :
    getLatestSnapshotVersion tables userId = (snapshotVersionsOf tables userId).length := by
  unfold getLatestSnapshotVersion
  rw [← snapshotVersionsOf]
  generalize (snapshotVersionsOf tables userId).length = count at versions ⊢
  rw [versions]
  cases head : (sortBy (fun version : ℕ => OrderDual.toDual version)
    (List.range' 1 count)).head? with
  | none =>
      have empty := (sortBy_perm (fun version : ℕ => OrderDual.toDual version)
        (List.range' 1 count)).length_eq
      rw [List.head?_eq_none_iff.mp head, List.length_nil, List.length_range'] at empty
      simpa using empty
  | some latest =>
      rcases firstBy_of_head?_sortBy head with ⟨latestMem, greatest⟩
      have bounds := List.mem_range'_1.mp latestMem
      have last : count ∈ List.range' 1 count := List.mem_range'_1.mpr (by omega)
      have le : count ≤ latest := greatest count last
      simp only [Option.getD_some]
      omega

theorem snapshotVersionsOf_addSnapshot [Hashlib] {tables : Tables} {call : CreationCall}
    (versions : ∀ userId, snapshotVersionsOf tables userId =
      List.range' 1 (snapshotVersionsOf tables userId).length) (userId : UUID) :
    snapshotVersionsOf (tables.addSnapshot (call.nextSnapshot tables)) userId =
      List.range' 1
        (snapshotVersionsOf (tables.addSnapshot (call.nextSnapshot tables)) userId).length := by
  by_cases ofUser : call.userId = userId
  · subst ofUser
    have added : snapshotVersionsOf (tables.addSnapshot (call.nextSnapshot tables)) call.userId =
        snapshotVersionsOf tables call.userId ++
          [(snapshotVersionsOf tables call.userId).length + 1] := by
      rw [← getLatestSnapshotVersion_eq (versions call.userId)]
      simp [snapshotVersionsOf, Tables.addSnapshot, CreationCall.nextSnapshot,
        CreationCall.snapshot]
    rw [added, List.length_append, List.length_singleton, List.range'_concat, ← versions]
    simp [Nat.add_comm]
  · have kept : snapshotVersionsOf (tables.addSnapshot (call.nextSnapshot tables)) userId =
        snapshotVersionsOf tables userId := by
      simp [snapshotVersionsOf, Tables.addSnapshot, CreationCall.nextSnapshot,
        CreationCall.snapshot, ofUser]
    rw [kept]
    exact versions userId

theorem getAssessmentByUserIdempotency_eq_some {tables : Tables} {userId : UUID} {key : String}
    {assessment : Assessment}
    (found : getAssessmentByUserIdempotency tables userId key = some assessment) :
    assessment ∈ tables.assessments ∧ assessment.key = (userId, key) := by
  have selected := List.find?_some found
  rw [decide_eq_true_eq] at selected
  exact ⟨List.mem_of_find?_eq_some found, Prod.ext selected.1 selected.2⟩

/-- What has been answered stays true while assessments and names of jobs are kept. -/
theorem answered_mono {request : Request} {queued : AssessmentQueued} {tables later : Tables}
    (assessments : tables.assessments ⊆ later.assessments)
    (names : jobNames tables ⊆ jobNames later)
    (answered : (∃ assessment ∈ tables.assessments,
        assessment.key = request.key ∧ assessment.id = queued.assessmentId) ∧
      scoreJobName queued.assessmentId queued.jobId ∈ jobNames tables) :
    (∃ assessment ∈ later.assessments,
        assessment.key = request.key ∧ assessment.id = queued.assessmentId) ∧
      scoreJobName queued.assessmentId queued.jobId ∈ jobNames later := by
  rcases answered with ⟨⟨assessment, mem, same⟩, named⟩
  exact ⟨⟨assessment, assessments mem, same⟩, names named⟩

theorem not_isChargedTo_of_error {error : CreationError} (answer : request.answer = .error error)
    (userId : UUID) (windowStart : Instant) : ¬ request.IsChargedTo userId windowStart := by
  rintro ⟨-, -, -, accepted, -⟩
  rw [answer] at accepted
  exact absurd accepted (by simp [Except.isOk, Except.toBool])

/-- A request is recorded if its answer stands and every other new assessment is its own. -/
theorem Recorded.extend (recorded : Recorded settings log before)
    (assessments : before.store.val.assessments ⊆ after.store.val.assessments)
    (names : jobNames before.store.val ⊆ jobNames after.store.val)
    (stands : ∀ queued, request.answer = .ok queued →
      (∃ assessment ∈ after.store.val.assessments,
        assessment.key = request.key ∧ assessment.id = queued.assessmentId) ∧
      scoreJobName queued.assessmentId queued.jobId ∈ jobNames after.store.val)
    (own : ∀ assessment ∈ after.store.val.assessments,
      assessment ∈ before.store.val.assessments ∨
        request.answer.isOk ∧ request.key = assessment.key)
    (versions : ∀ userId, snapshotVersionsOf after.store.val userId =
      List.range' 1 (snapshotVersionsOf after.store.val userId).length)
    (usage : UsageRecorded settings (log ++ [request]) after.billing.val.usageCounters) :
    Recorded settings (log ++ [request]) after := by
  refine ⟨?_, ?_, versions, usage⟩
  · intro other otherMem queued accepted
    rcases List.mem_append.mp otherMem with old | new
    · exact answered_mono assessments names (recorded.answered other old queued accepted)
    · rw [List.mem_singleton.mp new] at accepted ⊢
      exact stands queued accepted
  · intro assessment mem
    rcases own assessment mem with old | new
    · rcases recorded.accepted assessment old with ⟨other, otherMem, spec⟩
      exact ⟨other, List.mem_append_left _ otherMem, spec⟩
    · exact ⟨request, by simp, new⟩

theorem Recorded.append_refused (recorded : Recorded settings log before) {error : CreationError}
    (answer : request.answer = .error error) (sameStore : after.store = before.store)
    (sameCounters : after.billing.val.usageCounters = before.billing.val.usageCounters) :
    Recorded settings (log ++ [request]) after := by
  apply recorded.extend
  · rw [sameStore]
    exact List.Subset.refl _
  · rw [sameStore]
    exact List.Subset.refl _
  · intro queued accepted
    rw [answer] at accepted
    exact absurd accepted (by simp)
  · intro assessment mem
    rw [sameStore] at mem
    exact Or.inl mem
  · rw [sameStore]
    exact recorded.versions
  · exact recorded.usage.append_of_not sameCounters (not_isChargedTo_of_error answer)

theorem Recorded.append_replayed (recorded : Recorded settings log before)
    {existing : Assessment} {status : AssessmentStatus} {jobId : UUID}
    (answer : request.answer = .ok ⟨existing.id, status, jobId⟩) (known : request.isNew = false)
    (found : getAssessmentByUserIdempotency before.store.val request.call.userId
      request.call.payload.idempotencyKey = some existing)
    (sameCounters : after.billing.val.usageCounters = before.billing.val.usageCounters)
    (queued : QueuedFor before.store.val after.store.val existing.id jobId) :
    Recorded settings (log ++ [request]) after := by
  rcases queued.rest with ⟨jobs, tables⟩
  rcases getAssessmentByUserIdempotency_eq_some found with ⟨existingMem, existingKey⟩
  have sameAssessments : after.store.val.assessments = before.store.val.assessments := by
    rw [tables]
  have sameVersions : snapshotVersionsOf after.store.val = snapshotVersionsOf before.store.val := by
    rw [tables]
    rfl
  apply recorded.extend
  · rw [sameAssessments]
    exact List.Subset.refl _
  · exact queued.kept
  · intro given accepted
    cases answer.symm.trans accepted
    rw [sameAssessments]
    exact ⟨⟨existing, existingMem, existingKey, rfl⟩, queued.named⟩
  · intro assessment mem
    rw [sameAssessments] at mem
    exact Or.inl mem
  · rw [sameVersions]
    exact recorded.versions
  · refine recorded.usage.append_of_not sameCounters fun userId windowStart => ?_
    rintro ⟨-, -, isNew, -⟩
    rw [known] at isNew
    exact absurd isNew (by simp)

theorem Recorded.append_created [Hashlib] (recorded : Recorded settings log before)
    {status : AssessmentStatus} {jobId : UUID}
    (answer : request.answer = .ok ⟨request.call.ids.assessment, status, jobId⟩)
    (isNew : request.isNew = true)
    (counted : CountedUnder settings request.call before.billing.val.usageCounters
      after.billing.val.usageCounters request.limit)
    (queued : QueuedFor ((before.store.val.addSnapshot
      (request.call.nextSnapshot before.store.val)).addAssessment request.call.assessment)
        after.store.val request.call.ids.assessment jobId) :
    Recorded settings (log ++ [request]) after := by
  rcases queued.rest with ⟨jobs, tables⟩
  have assessments : after.store.val.assessments =
      before.store.val.assessments ++ [request.call.assessment] := by
    rw [tables]
    rfl
  have sameVersions : snapshotVersionsOf after.store.val = snapshotVersionsOf
      (before.store.val.addSnapshot (request.call.nextSnapshot before.store.val)) := by
    rw [tables]
    rfl
  have accepted : request.answer.isOk := by
    rw [answer]
    rfl
  apply recorded.extend
  · rw [assessments]
    exact List.subset_append_left _ _
  · exact queued.kept
  · intro given givenAccepted
    cases answer.symm.trans givenAccepted
    refine ⟨⟨request.call.assessment, ?_, rfl, rfl⟩, queued.named⟩
    rw [assessments]
    simp
  · intro assessment mem
    rw [assessments] at mem
    rcases List.mem_append.mp mem with old | new
    · exact Or.inl old
    · rw [List.mem_singleton.mp new]
      exact Or.inr ⟨accepted, rfl⟩
  · rw [sameVersions]
    exact snapshotVersionsOf_addSnapshot recorded.versions
  · exact recorded.usage.append_created counted isNew accepted

/-- Accepted requests with one key have been answered with one assessment and one job. -/
theorem Recorded.replay_eq (recorded : Recorded settings log before) {first second : Request}
    (firstMem : first ∈ log) (secondMem : second ∈ log) (sameKey : first.key = second.key)
    {firstQueued secondQueued : AssessmentQueued} (firstAnswer : first.answer = .ok firstQueued)
    (secondAnswer : second.answer = .ok secondQueued) :
    firstQueued.assessmentId = secondQueued.assessmentId ∧
      firstQueued.jobId = secondQueued.jobId := by
  rcases recorded.answered first firstMem firstQueued firstAnswer with
    ⟨⟨firstRow, firstRowMem, firstKey, firstId⟩, firstNamed⟩
  rcases recorded.answered second secondMem secondQueued secondAnswer with
    ⟨⟨secondRow, secondRowMem, secondKey, secondId⟩, secondNamed⟩
  have sameRow : firstRow = secondRow := by
    apply List.inj_on_of_nodup_map before.store.property.assessmentKeys firstRowMem secondRowMem
    exact firstKey.trans (sameKey.trans secondKey.symm)
  have sameAssessment : firstQueued.assessmentId = secondQueued.assessmentId := by
    rw [← firstId, ← secondId, sameRow]
  refine ⟨sameAssessment, ?_⟩
  rw [sameAssessment] at firstNamed
  rcases List.mem_map.mp firstNamed with ⟨firstJob, firstJobMem, firstName⟩
  rcases List.mem_map.mp secondNamed with ⟨secondJob, secondJobMem, secondName⟩
  simp only [scoreJobName, Prod.mk.injEq] at firstName secondName
  have sameJob : firstJob = secondJob := by
    apply List.inj_on_of_nodup_map before.store.property.jobKeys firstJobMem secondJobMem
    rw [firstName.1, firstName.2.1, secondName.1, secondName.2.1]
  rw [← firstName.2.2, ← secondName.2.2, sameJob]

end Recording

/-- The tables and the requests so far. -/
structure History where
  db : Database
  log : List Request

/-- A request, or plans, subscriptions and entitlements that others commit. -/
inductive Action where
  | create (call : CreationCall)
  | changeAccess (tables : Billing.Tables)

/-- The tables with what others commit to them; counters are for requests only. -/
def accessChanged (db : Billing.Database) (tables : Billing.Tables) : Billing.Database :=
  match Billing.flush { tables with usageCounters := db.val.usageCounters } with
  | .ok changed => changed
  | .error _ => db

theorem usageCounters_accessChanged (db : Billing.Database) (tables : Billing.Tables) :
    (accessChanged db tables).val.usageCounters = db.val.usageCounters := by
  unfold accessChanged
  split
  · next changed changing => rw [ensure_eq_ok_iff.mp changing]
  · rfl

/-- Tables without snapshots, assessments and jobs. -/
def emptyStore (programs : List UUID) : Store :=
  ⟨⟨programs, [], [], []⟩, by constructor <;> simp⟩

/-- The history before its first request. -/
def initial (billing : Billing.Database) (programs : List UUID) : History :=
  ⟨⟨billing, emptyStore programs, []⟩, []⟩

section Histories

variable [Hashlib] {settings : Settings}

def step (settings : Settings) (history : History) : Action → History
  | .create call => ⟨(createAssessment settings .idle history.db call).1,
      history.log ++ [requestOf settings history.db call]⟩
  | .changeAccess tables =>
      { history with
        db := { history.db with billing := accessChanged history.db.billing tables } }

/-- A request without a failure of the database is recorded. -/
theorem Recorded.append {log : List Request} {db : Database} {call : CreationCall}
    (recorded : Recorded settings log db)
    (undisturbed : (requestOf settings db call).Undisturbed) :
    Recorded settings (log ++ [requestOf settings db call])
      (createAssessment settings .idle db call).1 := by
  have outcome := createAssessment_outcome undisturbed
  generalize answer : (createAssessment settings .idle db call).2 = given at outcome
  cases outcome with
  | refused error sameStore sameCounters =>
      exact recorded.append_refused answer sameStore sameCounters
  | replayed existing jobId found sameCounters queued =>
      exact recorded.append_replayed answer (by simp [requestOf, found]) found sameCounters queued
  | created jobId isNew counted queued =>
      exact recorded.append_created answer (by simp [requestOf, isNew]) counted queued

theorem recorded_step (history : History) (action : Action)
    (recorded : (∀ request ∈ history.log, request.Undisturbed) →
      Recorded settings history.log history.db) :
    (∀ request ∈ (step settings history action).log, request.Undisturbed) →
      Recorded settings (step settings history action).log (step settings history action).db := by
  intro undisturbed
  cases action with
  | create call =>
      have earlier : ∀ request ∈ history.log, request.Undisturbed :=
        fun request mem => undisturbed request (List.mem_append_left _ mem)
      exact (recorded earlier).append (undisturbed _ (by simp [step]))
  | changeAccess tables =>
      rcases recorded undisturbed with ⟨answered, accepted, versions, counts, limits⟩
      refine ⟨answered, accepted, versions, ?_, limits⟩
      intro userId windowStart
      rw [step, usageCounters_accessChanged]
      exact counts userId windowStart

theorem recorded_run (billing : Billing.Database) (programs : List UUID)
    (unused : billing.val.usageCounters = []) (actions : List Action)
    (undisturbed : ∀ request ∈ (run (step settings) (initial billing programs) actions).log,
      request.Undisturbed) :
    Recorded settings (run (step settings) (initial billing programs) actions).log
      (run (step settings) (initial billing programs) actions).db := by
  have start : (∀ request ∈ (initial billing programs).log, request.Undisturbed) →
      Recorded settings (initial billing programs).log (initial billing programs).db := by
    intro _
    refine ⟨by simp [initial], by simp [initial, emptyStore], fun _ => rfl, ⟨?_, ?_⟩⟩
    · intro userId windowStart
      rw [initial, unused]
      rfl
    · intro userId windowStart request mem
      exact absurd mem (by simp [initial, chargedTo])
  exact invariant_run recorded_step start actions undisturbed

/-- In every history replays get the same ids, the assessments are those of the accepted keys,
snapshots are numbered from one on, and a month counts the assessments created under a limit,
which the last of them was within. -/
theorem history_keeps_account (settings : Settings) (billing : Billing.Database)
    (programs : List UUID) (unused : billing.val.usageCounters = []) (actions : List Action)
    (undisturbed : ∀ request ∈ (run (step settings) (initial billing programs) actions).log,
      request.Undisturbed) :
    let final := run (step settings) (initial billing programs) actions
    (∀ first ∈ final.log, ∀ second ∈ final.log, first.key = second.key →
      ∀ firstQueued secondQueued, first.answer = .ok firstQueued →
        second.answer = .ok secondQueued →
        firstQueued.assessmentId = secondQueued.assessmentId ∧
          firstQueued.jobId = secondQueued.jobId) ∧
    ((final.db.store.val.assessments.map Assessment.key).Nodup ∧
      (∀ key, key ∈ final.db.store.val.assessments.map Assessment.key ↔
        ∃ request ∈ final.log, request.answer.isOk ∧ request.key = key) ∧
      ∀ request ∈ final.log, ∀ queued, request.answer = .ok queued →
        ∃ assessment ∈ final.db.store.val.assessments,
          assessment.key = request.key ∧ assessment.id = queued.assessmentId) ∧
    (∀ userId, ∃ count, snapshotVersionsOf final.db.store.val userId = List.range' 1 count) ∧
    ∀ userId windowStart,
      usedCount final.db.billing.val.usageCounters userId settings.assessmentFeatureKey
          windowStart = (chargedTo final.log userId windowStart).length ∧
        ∀ request ∈ (chargedTo final.log userId windowStart).getLast?, ∀ limit ∈ request.limit,
          usedCount final.db.billing.val.usageCounters userId settings.assessmentFeatureKey
            windowStart ≤ limit := by
  intro final
  have recorded := recorded_run billing programs unused actions undisturbed
  have keys := final.db.store.property.assessmentKeys
  refine ⟨?_, ⟨keys, ?_, ?_⟩, ?_, ?_⟩
  · intro first firstMem second secondMem sameKey firstQueued secondQueued firstAnswer secondAnswer
    exact recorded.replay_eq firstMem secondMem sameKey firstAnswer secondAnswer
  · intro key
    constructor
    · intro keyMem
      rcases List.mem_map.mp keyMem with ⟨assessment, mem, rfl⟩
      exact recorded.accepted assessment mem
    · rintro ⟨request, requestMem, isOk, rfl⟩
      cases answer : request.answer with
      | error error => simp [answer, Except.isOk, Except.toBool] at isOk
      | ok queued =>
          rcases (recorded.answered request requestMem queued answer).1 with
            ⟨assessment, mem, sameKey, -⟩
          rw [← sameKey]
          exact List.mem_map_of_mem mem
  · intro request requestMem queued answer
    exact (recorded.answered request requestMem queued answer).1
  · intro userId
    exact ⟨_, recorded.versions userId⟩
  · intro userId windowStart
    refine ⟨recorded.usage.counts userId windowStart, ?_⟩
    rw [recorded.usage.counts]
    exact recorded.usage.limits userId windowStart

end Histories

section Samples

local instance historyHashlib : Hashlib := sampleHashlib

/-- Two requests with one key, and one with another. -/
def sampleActions : List Action :=
  [.create (sampleCall 1 500 "first"), .create (sampleCall 2 500 "first"),
    .create (sampleCall 3 500 "second")]

def sampleHistory : History :=
  run (step Billing.sampleSettings) (initial Billing.sampleDatabase [500]) sampleActions

theorem history_keeps_account_sample :
    (∀ first ∈ sampleHistory.log, ∀ second ∈ sampleHistory.log, first.key = second.key →
      ∀ firstQueued secondQueued, first.answer = .ok firstQueued →
        second.answer = .ok secondQueued →
        firstQueued.assessmentId = secondQueued.assessmentId ∧
          firstQueued.jobId = secondQueued.jobId) ∧
    sampleHistory.log.length = 3 ∧ ∀ request ∈ sampleHistory.log, request.answer.isOk := by
  have accepted : ∀ request ∈ sampleHistory.log, request.answer.isOk = true := by
    exact List.all_eq_true.mp (by decide +kernel)
  have undisturbed : ∀ request ∈ sampleHistory.log, request.Undisturbed := by
    intro request mem error answer
    have isOk := accepted request mem
    rw [answer] at isOk
    exact absurd isOk (by simp [Except.isOk, Except.toBool])
  have account := history_keeps_account Billing.sampleSettings Billing.sampleDatabase [500] rfl
    sampleActions undisturbed
  exact ⟨account.1, by decide +kernel, accepted⟩

end Samples

end ImigrAI.Assessments.Creation
