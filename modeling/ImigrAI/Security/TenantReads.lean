import ImigrAI.Roadmaps.KeyPrivacy
import ImigrAI.Security.TenantPolicies

/-!
# Reading under the policies

The requests that only read: the services compare owners themselves, so the policies change no
answer, and an answer to a member depends on the member's own rows only.
-/

namespace ImigrAI.Security.Tenancy

open Python Sorting
open Assessments (AssessmentBreakdown ProgramVersionInput StoredAssessmentResult
  toBreakdownResponse)
open Assessments.Creation (Assessment AssessmentStatus JobType)
open Roadmaps.Creation.Keys (statusValue)

structure HTTPException where
  statusCode : ℕ
  detail : String
deriving DecidableEq

structure AssessmentStatusRead where
  assessmentId : UUID
  status : AssessmentStatus
  completedAt : Option Instant
  jobId : Option UUID
deriving DecidableEq

structure RoadmapStatusRead where
  roadmapId : UUID
  status : Roadmaps.RoadmapStatus
  completedAt : Option Instant
  error : Option String
  jobId : Option UUID
deriving DecidableEq

/-- The id of the assessment stands beside its breakdown. -/
inductive Response where
  | assessmentStatus (read : AssessmentStatusRead)
  | assessmentBreakdown (assessmentId : UUID) (read : AssessmentBreakdown)
  | roadmapStatus (read : RoadmapStatusRead)
  | roadmapDetail (roadmap : Roadmap) (steps : List RoadmapStep)
  | job (read : Job)

inductive ReadRequest where
  | getAssessmentStatus (assessmentId : UUID)
  | getAssessmentBreakdown (assessmentId : UUID)
  | getRoadmapStatus (roadmapId : UUID)
  | getRoadmapDetail (roadmapId : UUID)
  | getJobStatus (jobId : UUID)
deriving DecidableEq

section Queries

variable (tables : Tables)

def getAssessment (assessmentId : UUID) : Option Assessment :=
  tables.assessments.find? fun row => row.id = assessmentId

def getRoadmap (roadmapId : UUID) : Option Roadmap :=
  tables.roadmaps.find? fun row => row.id = roadmapId

def getJob (jobId : UUID) : Option Job := tables.jobs.find? fun row => row.id = jobId

/-- The outer joins of `get_job_for_user` with what the job is for. -/
def IsForUser (userId : UUID) (job : Job) : Prop :=
  (∃ assessment ∈ tables.assessments, some assessment.id = job.assessmentId ∧
    assessment.userId = userId) ∨
  ∃ roadmap ∈ tables.roadmaps, some roadmap.id = job.roadmapId ∧ roadmap.userId = userId

instance (userId : UUID) (job : Job) : Decidable (IsForUser tables userId job) :=
  inferInstanceAs (Decidable (_ ∨ _))

def getJobForUser (jobId userId : UUID) : Option Job :=
  tables.jobs.find? fun row => row.id = jobId ∧ IsForUser tables userId row

def latest (jobs : List Job) : Option Job :=
  (sortBy (fun job : Job => OrderDual.toDual job.createdAt) jobs).head?

def getLatestJobForAssessment (assessmentId : UUID) : Option Job :=
  latest (tables.jobs.filter fun job => job.assessmentId = some assessmentId ∧
    job.jobType = .scoreJob)

def getLatestJobForRoadmap (roadmapId : UUID) : Option Job :=
  latest (tables.jobs.filter fun job => job.roadmapId = some roadmapId ∧
    job.jobType = .roadmapJob)

/-- The relationship `Assessment.result`. -/
def resultOf (assessmentId : UUID) : Option AssessmentResult :=
  tables.assessmentResults.find? fun row => row.assessmentId = assessmentId

/-- A result with its items and its program version. -/
def loadResult (result : AssessmentResult) : Option StoredAssessmentResult :=
  (tables.programVersions.find? fun version => version.id = result.programVersionId).map
    fun version =>
      { programVersion := version
        rulesVersionHash := result.rulesVersionHash
        algorithmVersion := result.algorithmVersion
        totalScore := result.totalScore
        isEligible := result.isEligible
        computedAt := result.computedAt
        items := (tables.assessmentResultItems.filter
          fun row => row.assessmentResultId = result.id).map (·.item) }

def stepsOf (roadmapId : UUID) : List RoadmapStep :=
  tables.roadmapSteps.filter fun row => row.roadmapId = roadmapId

end Queries

section Services

variable (tables : Tables)

/-- The row, unless it is missing or another user's. -/
def ownRow {Entry : Type} (owner : Entry → UUID) (userId : UUID) (detail : String) :
    Option Entry → Except HTTPException Entry
  | none => .error ⟨404, detail⟩
  | some entry => if owner entry ≠ userId then .error ⟨404, detail⟩ else .ok entry

def getAssessmentStatus (assessmentId userId : UUID) :
    Except HTTPException AssessmentStatusRead := do
  let assessment ← ownRow (·.userId) userId "Assessment not found"
    (getAssessment tables assessmentId)
  .ok ⟨assessment.id, assessment.status, assessment.completedAt,
    (getLatestJobForAssessment tables assessment.id).map (·.id)⟩

def getAssessmentBreakdown (assessmentId userId : UUID) :
    Except HTTPException AssessmentBreakdown := do
  let assessment ← ownRow (·.userId) userId "Assessment not found"
    (getAssessment tables assessmentId)
  match resultOf tables assessment.id with
  | none => .error ⟨409, "Assessment is " ++ statusValue assessment.status ++
      ". Result not ready"⟩
  | some result =>
      match loadResult tables result with
      | none => .error ⟨500, "Assessment result is incomplete"⟩
      | some stored => .ok (toBreakdownResponse stored)

def getRoadmapStatus (roadmapId userId : UUID) : Except HTTPException RoadmapStatusRead := do
  let roadmap ← ownRow (·.userId) userId "Roadmap not found" (getRoadmap tables roadmapId)
  .ok ⟨roadmap.id, roadmap.status, roadmap.completedAt, roadmap.generationError,
    (getLatestJobForRoadmap tables roadmapId).map (·.id)⟩

def getRoadmapDetail (roadmapId userId : UUID) :
    Except HTTPException (Roadmap × List RoadmapStep) := do
  let roadmap ← ownRow (·.userId) userId "Roadmap not found" (getRoadmap tables roadmapId)
  .ok (roadmap, stepsOf tables roadmap.id)

def getJobStatus (jobId : UUID) (user : User) : Except HTTPException Job :=
  let job := if user.role = .admin then getJob tables jobId
    else getJobForUser tables jobId user.id
  match job with
  | none => .error ⟨404, "Job not found"⟩
  | some job => .ok job

def respond (user : User) : ReadRequest → Except HTTPException Response
  | .getAssessmentStatus assessmentId =>
      (getAssessmentStatus tables assessmentId user.id).map .assessmentStatus
  | .getAssessmentBreakdown assessmentId =>
      (getAssessmentBreakdown tables assessmentId user.id).map
        (.assessmentBreakdown assessmentId)
  | .getRoadmapStatus roadmapId =>
      (getRoadmapStatus tables roadmapId user.id).map .roadmapStatus
  | .getRoadmapDetail roadmapId =>
      (getRoadmapDetail tables roadmapId user.id).map fun (roadmap, steps) =>
        .roadmapDetail roadmap steps
  | .getJobStatus jobId => (getJobStatus tables jobId user).map .job

end Services

/-- The primary keys that the lookups rely on. -/
structure Keyed (tables : Tables) : Prop where
  assessments : (tables.assessments.map (·.id)).Nodup
  roadmaps : (tables.roadmaps.map (·.id)).Nodup

section Filters

variable {Entry : Type} {entries : List Entry} {keeps sought : Entry → Bool}

theorem filter_filter_of_imp (implied : ∀ entry, sought entry → keeps entry) :
    (entries.filter keeps).filter sought = entries.filter sought := by
  rw [List.filter_filter]
  apply List.filter_congr
  intro entry _
  cases isSought : sought entry with
  | true => simp [implied entry isSought]
  | false => rfl

theorem find?_filter_of_imp (implied : ∀ entry, sought entry → keeps entry) :
    (entries.filter keeps).find? sought = entries.find? sought := by
  rw [← List.head?_filter, filter_filter_of_imp implied, List.head?_filter]

end Filters

section OwnRows

variable {Entry : Type} {entries : List Entry} {owner key : Entry → UUID} {userId id : UUID}
  {detail : String} {entry : Entry}

theorem ownRow_eq_ok
    (found : ownRow owner userId detail (entries.find? fun entry => key entry = id) = .ok entry) :
    entry ∈ entries ∧ key entry = id ∧ owner entry = userId := by
  cases first : entries.find? fun entry => key entry = id with
  | none => simp [first, ownRow] at found
  | some other =>
      by_cases own : owner other = userId
      · simp only [first, ownRow, own, ne_eq, not_true_eq_false, if_false,
          Except.ok.injEq] at found
        subst found
        exact ⟨List.mem_of_find?_eq_some first, by simpa using List.find?_some first, own⟩
      · simp [first, ownRow, own] at found

/-- A user finds the own rows among those that are seen, and no others. -/
theorem ownRow_filter {keeps : Entry → Bool} (keys : (entries.map key).Nodup)
    (seen : ∀ entry, owner entry = userId → keeps entry) :
    ownRow owner userId detail ((entries.filter keeps).find? fun entry => key entry = id) =
      ownRow owner userId detail (entries.find? fun entry => key entry = id) := by
  have seenKeys : ((entries.filter keeps).map key).Nodup :=
    keys.sublist (List.filter_sublist.map key)
  cases first : entries.find? fun entry => key entry = id with
  | none =>
      have none_seen : (entries.filter keeps).find? (fun entry => key entry = id) = none := by
        rw [List.find?_eq_none] at first ⊢
        intro entry entryMem
        exact first entry (List.mem_filter.mp entryMem).1
      rw [none_seen]
  | some entry =>
      rcases (Rows.find?_eq_some_iff_of_nodup keys).mp first with ⟨entryMem, isId⟩
      by_cases own : owner entry = userId
      · have found : (entries.filter keeps).find? (fun entry => key entry = id) = some entry :=
          (Rows.find?_eq_some_iff_of_nodup seenKeys).mpr
            ⟨List.mem_filter.mpr ⟨entryMem, seen entry own⟩, isId⟩
        rw [found]
      · cases other : (entries.filter keeps).find? fun entry => key entry = id with
        | none => simp [ownRow, own]
        | some second =>
            rcases (Rows.find?_eq_some_iff_of_nodup seenKeys).mp other with ⟨secondMem, isToo⟩
            have same : second = entry := List.inj_on_of_nodup_map keys
              (List.mem_filter.mp secondMem).1 entryMem (isToo.trans isId.symm)
            rw [same]

end OwnRows

section Answers

variable {tables : Tables} {user : User}

/-- The tables as a request of the user sees them until it ends a transaction. -/
noncomputable def seenBy (user : User) (tables : Tables) : Tables :=
  restrict tables (GrantedTo user tables)

theorem visible_ofUser : visible (.ofUser user) tables = seenBy user tables := by
  rw [visible_eq_restrict, granted_ofUser, seenBy]

theorem seen_of_owns {row : Row} {_ : Decidable (GrantedTo user tables row)}
    (own : Owns tables user.id row) : decide (GrantedTo user tables row) = true :=
  decide_eq_true (Or.inr own)

theorem seen_of_admin {row : Row} {_ : Decidable (GrantedTo user tables row)}
    (admin : user.role = .admin) : decide (GrantedTo user tables row) = true :=
  decide_eq_true (Or.inl admin)

theorem ownsResult_of_mem {assessment : Assessment} (stored : assessment ∈ tables.assessments)
    (own : assessment.userId = user.id) : OwnsResult tables user.id assessment.id :=
  ⟨assessment, stored, rfl, own⟩

theorem ownsStep_of_mem {roadmap : Roadmap} (stored : roadmap ∈ tables.roadmaps)
    (own : roadmap.userId = user.id) : OwnsStep tables user.id roadmap.id :=
  ⟨roadmap, stored, rfl, own⟩

theorem ownRow_getAssessment (keyed : Keyed tables) {detail : String} (assessmentId : UUID) :
    ownRow (·.userId) user.id detail (getAssessment (seenBy user tables) assessmentId) =
      ownRow (·.userId) user.id detail (getAssessment tables assessmentId) := by
  apply ownRow_filter keyed.assessments
  intro assessment own
  exact seen_of_owns own

theorem ownRow_getRoadmap (keyed : Keyed tables) {detail : String} (roadmapId : UUID) :
    ownRow (·.userId) user.id detail (getRoadmap (seenBy user tables) roadmapId) =
      ownRow (·.userId) user.id detail (getRoadmap tables roadmapId) := by
  apply ownRow_filter keyed.roadmaps
  intro roadmap own
  exact seen_of_owns own

theorem getLatestJobForAssessment_seenBy {assessmentId : UUID}
    (own : OwnsResult tables user.id assessmentId) :
    getLatestJobForAssessment (seenBy user tables) assessmentId =
      getLatestJobForAssessment tables assessmentId := by
  apply congrArg latest
  apply filter_filter_of_imp
  intro job sought
  have isFor : job.assessmentId = some assessmentId := (of_decide_eq_true sought).1
  exact seen_of_owns (Or.inl ⟨assessmentId, isFor, own⟩)

theorem getLatestJobForRoadmap_seenBy {roadmapId : UUID}
    (own : OwnsStep tables user.id roadmapId) :
    getLatestJobForRoadmap (seenBy user tables) roadmapId =
      getLatestJobForRoadmap tables roadmapId := by
  apply congrArg latest
  apply filter_filter_of_imp
  intro job sought
  have isFor : job.roadmapId = some roadmapId := (of_decide_eq_true sought).1
  exact seen_of_owns (Or.inr ⟨roadmapId, isFor, own⟩)

theorem resultOf_seenBy {assessmentId : UUID} (own : OwnsResult tables user.id assessmentId) :
    resultOf (seenBy user tables) assessmentId = resultOf tables assessmentId := by
  apply find?_filter_of_imp
  intro result sought
  have isFor : result.assessmentId = assessmentId := of_decide_eq_true sought
  subst isFor
  exact seen_of_owns own

theorem loadResult_seenBy {result : AssessmentResult} (stored : result ∈ tables.assessmentResults)
    (own : OwnsResult tables user.id result.assessmentId) :
    loadResult (seenBy user tables) result = loadResult tables result := by
  have items : ((seenBy user tables).assessmentResultItems.filter
      fun row => row.assessmentResultId = result.id) =
      tables.assessmentResultItems.filter fun row => row.assessmentResultId = result.id := by
    apply filter_filter_of_imp
    intro row sought
    have isFor : row.assessmentResultId = result.id := of_decide_eq_true sought
    exact seen_of_owns ⟨result, stored, isFor.symm, own⟩
  simp only [loadResult, items]
  rfl

theorem stepsOf_seenBy {roadmapId : UUID} (own : OwnsStep tables user.id roadmapId) :
    stepsOf (seenBy user tables) roadmapId = stepsOf tables roadmapId := by
  apply filter_filter_of_imp
  intro step sought
  have isFor : step.roadmapId = roadmapId := of_decide_eq_true sought
  subst isFor
  exact seen_of_owns own

theorem isForUser_iff_ownsJob {job : Job} : IsForUser tables user.id job ↔
    OwnsJob tables user.id job := ownsJob_iff.symm

theorem isForUser_seenBy {job : Job} :
    IsForUser (seenBy user tables) user.id job ↔ IsForUser tables user.id job := by
  apply or_congr
  · constructor
    · rintro ⟨assessment, seen, found⟩
      exact ⟨assessment, (List.mem_filter.mp seen).1, found⟩
    · rintro ⟨assessment, stored, isFor, own⟩
      exact ⟨assessment, List.mem_filter.mpr ⟨stored, seen_of_owns own⟩, isFor, own⟩
  · constructor
    · rintro ⟨roadmap, seen, found⟩
      exact ⟨roadmap, (List.mem_filter.mp seen).1, found⟩
    · rintro ⟨roadmap, stored, isFor, own⟩
      exact ⟨roadmap, List.mem_filter.mpr ⟨stored, seen_of_owns own⟩, isFor, own⟩

theorem getJobForUser_seenBy (jobId : UUID) :
    getJobForUser (seenBy user tables) jobId user.id = getJobForUser tables jobId user.id := by
  have same : (fun job : Job => decide (job.id = jobId ∧
      IsForUser (seenBy user tables) user.id job)) =
      fun job => decide (job.id = jobId ∧ IsForUser tables user.id job) := by
    funext job
    simp only [isForUser_seenBy]
  simp only [getJobForUser, same]
  apply find?_filter_of_imp
  intro job sought
  have isFor := (of_decide_eq_true sought).2
  exact seen_of_owns (isForUser_iff_ownsJob.mp isFor)

theorem bind_congr_of_ok {Error Source Result : Type} {computation : Except Error Source}
    {next other : Source → Except Error Result}
    (agree : ∀ middle, computation = .ok middle → next middle = other middle) :
    (computation >>= next) = computation >>= other := by
  cases computation with
  | error error => rfl
  | ok middle => exact agree middle rfl

theorem getAssessmentStatus_seenBy (keyed : Keyed tables) (assessmentId : UUID) :
    getAssessmentStatus (seenBy user tables) assessmentId user.id =
      getAssessmentStatus tables assessmentId user.id := by
  simp only [getAssessmentStatus, ownRow_getAssessment keyed]
  apply bind_congr_of_ok
  intro assessment found
  rcases ownRow_eq_ok found with ⟨stored, -, own⟩
  rw [getLatestJobForAssessment_seenBy (ownsResult_of_mem stored own)]

theorem getAssessmentBreakdown_seenBy (keyed : Keyed tables) (assessmentId : UUID) :
    getAssessmentBreakdown (seenBy user tables) assessmentId user.id =
      getAssessmentBreakdown tables assessmentId user.id := by
  simp only [getAssessmentBreakdown, ownRow_getAssessment keyed]
  apply bind_congr_of_ok
  intro assessment found
  rcases ownRow_eq_ok found with ⟨stored, -, own⟩
  have owns := ownsResult_of_mem stored own
  rw [resultOf_seenBy owns]
  cases first : resultOf tables assessment.id with
  | none => rfl
  | some result =>
      have isFor : result.assessmentId = assessment.id := by
        simpa using List.find?_some first
      rw [← isFor] at owns
      simp only [loadResult_seenBy (List.mem_of_find?_eq_some first) owns]

theorem getRoadmapStatus_seenBy (keyed : Keyed tables) (roadmapId : UUID) :
    getRoadmapStatus (seenBy user tables) roadmapId user.id =
      getRoadmapStatus tables roadmapId user.id := by
  simp only [getRoadmapStatus, ownRow_getRoadmap keyed]
  apply bind_congr_of_ok
  intro roadmap found
  rcases ownRow_eq_ok found with ⟨stored, rfl, own⟩
  rw [getLatestJobForRoadmap_seenBy (ownsStep_of_mem stored own)]

theorem getRoadmapDetail_seenBy (keyed : Keyed tables) (roadmapId : UUID) :
    getRoadmapDetail (seenBy user tables) roadmapId user.id =
      getRoadmapDetail tables roadmapId user.id := by
  simp only [getRoadmapDetail, ownRow_getRoadmap keyed]
  apply bind_congr_of_ok
  intro roadmap found
  rcases ownRow_eq_ok found with ⟨stored, -, own⟩
  rw [stepsOf_seenBy (ownsStep_of_mem stored own)]

theorem getJobStatus_seenBy (jobId : UUID) :
    getJobStatus (seenBy user tables) jobId user = getJobStatus tables jobId user := by
  by_cases admin : user.role = .admin
  · have same : getJob (seenBy user tables) jobId = getJob tables jobId := by
      apply find?_filter_of_imp
      intro job _
      exact seen_of_admin admin
    simp only [getJobStatus, admin, if_true, same]
  · simp only [getJobStatus, admin, if_false, getJobForUser_seenBy]

theorem respond_seenBy (keyed : Keyed tables) (request : ReadRequest) :
    respond (seenBy user tables) user request = respond tables user request := by
  cases request with
  | getAssessmentStatus assessmentId =>
      simp only [respond, getAssessmentStatus_seenBy keyed]
  | getAssessmentBreakdown assessmentId =>
      simp only [respond, getAssessmentBreakdown_seenBy keyed]
  | getRoadmapStatus roadmapId => simp only [respond, getRoadmapStatus_seenBy keyed]
  | getRoadmapDetail roadmapId => simp only [respond, getRoadmapDetail_seenBy keyed]
  | getJobStatus jobId => simp only [respond, getJobStatus_seenBy]

/-- What is answered when nothing is found. -/
def notFound : ReadRequest → HTTPException
  | .getAssessmentStatus _ | .getAssessmentBreakdown _ => ⟨404, "Assessment not found"⟩
  | .getRoadmapStatus _ | .getRoadmapDetail _ => ⟨404, "Roadmap not found"⟩
  | .getJobStatus _ => ⟨404, "Job not found"⟩

theorem respond_of_empty {empty : Tables} (assessments : empty.assessments = [])
    (roadmaps : empty.roadmaps = []) (jobs : empty.jobs = []) (request : ReadRequest) :
    respond empty user request = .error (notFound request) := by
  cases request with
  | getJobStatus jobId =>
      simp [respond, getJobStatus, getJob, getJobForUser, jobs, notFound, Except.map]
  | getAssessmentStatus assessmentId | getAssessmentBreakdown assessmentId =>
      simp [respond, getAssessmentStatus, getAssessmentBreakdown, getAssessment, assessments,
        ownRow, notFound, Except.map, bind, Except.bind]
  | getRoadmapStatus roadmapId | getRoadmapDetail roadmapId =>
      simp [respond, getRoadmapStatus, getRoadmapDetail, getRoadmap, roadmaps, ownRow, notFound,
        Except.map, bind, Except.bind]

theorem respond_unset (request : ReadRequest) :
    respond (visible .unset tables) user request = .error (notFound request) := by
  rw [visible_eq_restrict]
  apply respond_of_empty <;> simp [restrict, not_granted_unset]

end Answers

/-- A request is answered under the policies as without them, as long as its session has ended no
transaction; after that nothing is found. -/
theorem respond_visible {tables : Tables} (keyed : Keyed tables) (session : Session)
    (request : ReadRequest) :
    respond (visible session.settings tables) session.user request =
      if session.ended then .error (notFound request)
      else respond tables session.user request := by
  cases ended : session.ended with
  | true => simp [Session.settings, ended, respond_unset]
  | false => simp [Session.settings, ended, visible_ofUser, respond_seenBy keyed]

/-- A roadmap of the user, with its id. -/
def sampleRoadmap (id userId : UUID) : Roadmap where
  id := id
  userId := userId
  assessmentResultId := 1
  roadmapSchemaVersion := "1.0"
  status := .pending
  summary := "Roadmap generation pending"
  manualReviewRequired := false
  llmProvider := none
  llmModel := none
  generationError := none
  traceId := none
  completedAt := none
  createdAt := 0

def sampleTables (roadmaps : List Roadmap) : Tables :=
  ⟨[], [], [], [], roadmaps, [], [], [], [], [], [], []⟩

theorem respond_visible_sample :
    respond (visible (.ofUser ⟨7, .member⟩) (sampleTables [sampleRoadmap 2 9, sampleRoadmap 3 7]))
        ⟨7, .member⟩ (.getRoadmapStatus 3) =
      .ok (.roadmapStatus ⟨3, .pending, none, none, none⟩) :=
  (respond_visible ⟨by decide, by decide⟩ ⟨⟨7, .member⟩, some 0, false⟩
    (.getRoadmapStatus 3)).trans rfl

/-- The answers to a member are a function of the rows that the member owns and of the program
versions, which everybody sees. -/
theorem responses_congr {first second : Tables} (firstKeyed : Keyed first)
    (secondKeyed : Keyed second) {user : User} (member : user.role = .member)
    (same : restrict first (Owns first user.id) = restrict second (Owns second user.id))
    (requests : List ReadRequest) :
    requests.map (respond first user) = requests.map (respond second user) := by
  have own (tables : Tables) : seenBy user tables = restrict tables (Owns tables user.id) := by
    have granted : GrantedTo user tables = Owns tables user.id := by
      funext row
      simp [GrantedTo, member]
    rw [seenBy, granted]
  apply List.map_congr_left
  intro request _
  rw [← respond_seenBy firstKeyed, ← respond_seenBy secondKeyed, own, own, same]

theorem responses_congr_sample :
    [.getRoadmapDetail 2, .getRoadmapDetail 3].map
        (respond (sampleTables [sampleRoadmap 2 9, sampleRoadmap 3 7]) ⟨7, .member⟩) =
      [.getRoadmapDetail 2, .getRoadmapDetail 3].map
        (respond (sampleTables [sampleRoadmap 3 7]) ⟨7, .member⟩) :=
  responses_congr ⟨by decide, by decide⟩ ⟨by decide, by decide⟩ rfl
    (by simp [restrict, sampleTables, sampleRoadmap, Owns]) _

end ImigrAI.Security.Tenancy
