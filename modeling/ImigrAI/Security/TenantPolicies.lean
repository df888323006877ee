import ImigrAI.Assessments.Creation
import ImigrAI.Assessments.Results
import ImigrAI.Billing.Models
import ImigrAI.Common.Jobs
import ImigrAI.Roadmaps.Generation
import ImigrAI.Security.RlsContext

/-!
# The policies of tenant isolation

What the policies of row-level security let a statement see and write, for a role that they
bind. The policies of the tables without an owner column look the owner up in other tables, and
these lookups are subject to the policies themselves.
-/

namespace ImigrAI.Security.Tenancy

open Python Runs
open Assessments (AssessmentResultItem ProgramVersionInput)
open Assessments.Creation (Assessment AssessmentStatus JobType UserProfileSnapshot)

structure AssessmentResult where
  id : UUID
  assessmentId : UUID
  programVersionId : UUID
  rulesVersionHash : String
  algorithmVersion : String
  totalScore : ℚ
  isEligible : Bool
  computedAt : Instant

/-- A row of `assessment_result_items`. -/
structure ResultItem where
  assessmentResultId : UUID
  item : AssessmentResultItem

structure Roadmap where
  id : UUID
  userId : UUID
  assessmentResultId : UUID
  roadmapSchemaVersion : String
  status : Roadmaps.RoadmapStatus
  summary : String
  manualReviewRequired : Bool
  llmProvider : Option String
  llmModel : Option String
  generationError : Option String
  traceId : Option String
  completedAt : Option Instant
  createdAt : Instant
deriving DecidableEq

/-- A row of `roadmap_steps`. -/
structure RoadmapStep extends Roadmaps.RoadmapStep where
  id : UUID
  roadmapId : UUID
  createdAt : Instant
deriving DecidableEq

structure Job extends Common.Job where
  id : UUID
  jobType : JobType
  idempotencyKey : String
  assessmentId : Option UUID
  roadmapId : Option UUID
  queuedAt : Instant
  createdAt : Instant
deriving DecidableEq

/-- The tables with a policy, and the program versions, which everybody reads. -/
structure Tables where
  userProfileSnapshots : List UserProfileSnapshot
  assessments : List Assessment
  assessmentResults : List AssessmentResult
  assessmentResultItems : List ResultItem
  roadmaps : List Roadmap
  roadmapSteps : List RoadmapStep
  jobs : List Job
  subscriptions : List Billing.Subscription
  entitlements : List Billing.Entitlement
  usageCounters : List Billing.UsageCounter
  billingEvents : List Billing.BillingEvent
  programVersions : List ProgramVersionInput

/-- A row that a statement writes. -/
inductive Row where
  | userProfileSnapshot (row : UserProfileSnapshot)
  | assessment (row : Assessment)
  | assessmentResult (row : AssessmentResult)
  | assessmentResultItem (row : ResultItem)
  | roadmap (row : Roadmap)
  | roadmapStep (row : RoadmapStep)
  | job (row : Job)
  | subscription (row : Billing.Subscription)
  | entitlement (row : Billing.Entitlement)
  | usageCounter (row : Billing.UsageCounter)
  | billingEvent (row : Billing.BillingEvent)

section Policies

variable (settings : Settings)

/-- `app_current_user_role() = 'admin'`. -/
def IsAdmin : Prop := settings.appCurrentUserRole = .admin

/-- `user_id = app_current_user_id()`, which no row meets when there is no current user. -/
def IsCurrentUser (userId : UUID) : Prop := settings.currentUserId = some userId

instance : Decidable (IsAdmin settings) := inferInstanceAs (Decidable (_ = _))

instance (userId : UUID) : Decidable (IsCurrentUser settings userId) :=
  inferInstanceAs (Decidable (_ = _))

instance (owner : UUID) : Decidable (settings.Admits owner) :=
  inferInstanceAs (Decidable (_ ∨ _))

/-- The policy of results, over the assessments that it can see. -/
def AdmitsResult (assessments : List Assessment) (assessmentId : UUID) : Prop :=
  IsAdmin settings ∨
    ∃ assessment ∈ assessments, assessment.id = assessmentId ∧
      IsCurrentUser settings assessment.userId

/-- The policy of result items. -/
def AdmitsItem (results : List AssessmentResult) (assessments : List Assessment)
    (assessmentResultId : UUID) : Prop :=
  IsAdmin settings ∨
    ∃ result ∈ results, ∃ assessment ∈ assessments, assessment.id = result.assessmentId ∧
      result.id = assessmentResultId ∧ IsCurrentUser settings assessment.userId

/-- The policy of roadmap steps. -/
def AdmitsStep (roadmaps : List Roadmap) (roadmapId : UUID) : Prop :=
  IsAdmin settings ∨
    ∃ roadmap ∈ roadmaps, roadmap.id = roadmapId ∧ IsCurrentUser settings roadmap.userId

/-- The policy of jobs. -/
def AdmitsJob (assessments : List Assessment) (roadmaps : List Roadmap) (job : Job) : Prop :=
  IsAdmin settings ∨
    (∃ assessment ∈ assessments, some assessment.id = job.assessmentId ∧
      IsCurrentUser settings assessment.userId) ∨
    ∃ roadmap ∈ roadmaps, some roadmap.id = job.roadmapId ∧ IsCurrentUser settings roadmap.userId

instance (assessments : List Assessment) (assessmentId : UUID) :
    Decidable (AdmitsResult settings assessments assessmentId) :=
  inferInstanceAs (Decidable (_ ∨ _))

instance (results : List AssessmentResult) (assessments : List Assessment)
    (assessmentResultId : UUID) :
    Decidable (AdmitsItem settings results assessments assessmentResultId) :=
  inferInstanceAs (Decidable (_ ∨ _))

instance (roadmaps : List Roadmap) (roadmapId : UUID) :
    Decidable (AdmitsStep settings roadmaps roadmapId) :=
  inferInstanceAs (Decidable (_ ∨ _))

instance (assessments : List Assessment) (roadmaps : List Roadmap) (job : Job) :
    Decidable (AdmitsJob settings assessments roadmaps job) :=
  inferInstanceAs (Decidable (_ ∨ _))

/-- The tables as a statement sees them. -/
def visible (tables : Tables) : Tables :=
  let assessments := tables.assessments.filter fun row => settings.Admits row.userId
  let results := tables.assessmentResults.filter
    fun row => AdmitsResult settings assessments row.assessmentId
  let roadmaps := tables.roadmaps.filter fun row => settings.Admits row.userId
  { userProfileSnapshots :=
      tables.userProfileSnapshots.filter fun row => settings.Admits row.userId
    assessments := assessments
    assessmentResults := results
    assessmentResultItems := tables.assessmentResultItems.filter
      fun row => AdmitsItem settings results assessments row.assessmentResultId
    roadmaps := roadmaps
    roadmapSteps := tables.roadmapSteps.filter
      fun row => AdmitsStep settings roadmaps row.roadmapId
    jobs := tables.jobs.filter fun row => AdmitsJob settings assessments roadmaps row
    subscriptions := tables.subscriptions.filter fun row => settings.Admits row.userId
    entitlements := tables.entitlements.filter fun row => settings.Admits row.userId
    usageCounters := tables.usageCounters.filter fun row => settings.Admits row.userId
    billingEvents := tables.billingEvents.filter fun _ => IsAdmin settings
    programVersions := tables.programVersions }

/-- `WITH CHECK` of the policy of a new row's table. -/
def AdmitsRow (tables : Tables) : Row → Prop
  | .userProfileSnapshot row => settings.Admits row.userId
  | .assessment row => settings.Admits row.userId
  | .assessmentResult row =>
      AdmitsResult settings (visible settings tables).assessments row.assessmentId
  | .assessmentResultItem row =>
      AdmitsItem settings (visible settings tables).assessmentResults
        (visible settings tables).assessments row.assessmentResultId
  | .roadmap row => settings.Admits row.userId
  | .roadmapStep row => AdmitsStep settings (visible settings tables).roadmaps row.roadmapId
  | .job row =>
      AdmitsJob settings (visible settings tables).assessments (visible settings tables).roadmaps
        row
  | .subscription row => settings.Admits row.userId
  | .entitlement row => settings.Admits row.userId
  | .usageCounter row => settings.Admits row.userId
  | .billingEvent _ => IsAdmin settings

end Policies

section Owners

variable (tables : Tables) (userId : UUID)

def OwnsResult (assessmentId : UUID) : Prop :=
  ∃ assessment ∈ tables.assessments, assessment.id = assessmentId ∧ assessment.userId = userId

def OwnsItem (assessmentResultId : UUID) : Prop :=
  ∃ result ∈ tables.assessmentResults, result.id = assessmentResultId ∧
    OwnsResult tables userId result.assessmentId

def OwnsStep (roadmapId : UUID) : Prop :=
  ∃ roadmap ∈ tables.roadmaps, roadmap.id = roadmapId ∧ roadmap.userId = userId

/-- A job belongs to the users of what it is for. -/
def OwnsJob (job : Job) : Prop :=
  (∃ assessmentId, job.assessmentId = some assessmentId ∧
    OwnsResult tables userId assessmentId) ∨
  ∃ roadmapId, job.roadmapId = some roadmapId ∧ OwnsStep tables userId roadmapId

/-- The user owns the row; a billing event has no owner. -/
def Owns : Row → Prop
  | .userProfileSnapshot row => row.userId = userId
  | .assessment row => row.userId = userId
  | .assessmentResult row => OwnsResult tables userId row.assessmentId
  | .assessmentResultItem row => OwnsItem tables userId row.assessmentResultId
  | .roadmap row => row.userId = userId
  | .roadmapStep row => OwnsStep tables userId row.roadmapId
  | .job row => OwnsJob tables userId row
  | .subscription row => row.userId = userId
  | .entitlement row => row.userId = userId
  | .usageCounter row => row.userId = userId
  | .billingEvent _ => False

open Classical in
/-- The tables with the rows that meet a condition. -/
noncomputable def restrict (keeps : Row → Prop) : Tables where
  userProfileSnapshots := tables.userProfileSnapshots.filter
    fun row => keeps (.userProfileSnapshot row)
  assessments := tables.assessments.filter fun row => keeps (.assessment row)
  assessmentResults := tables.assessmentResults.filter fun row => keeps (.assessmentResult row)
  assessmentResultItems := tables.assessmentResultItems.filter
    fun row => keeps (.assessmentResultItem row)
  roadmaps := tables.roadmaps.filter fun row => keeps (.roadmap row)
  roadmapSteps := tables.roadmapSteps.filter fun row => keeps (.roadmapStep row)
  jobs := tables.jobs.filter fun row => keeps (.job row)
  subscriptions := tables.subscriptions.filter fun row => keeps (.subscription row)
  entitlements := tables.entitlements.filter fun row => keeps (.entitlement row)
  usageCounters := tables.usageCounters.filter fun row => keeps (.usageCounter row)
  billingEvents := tables.billingEvents.filter fun row => keeps (.billingEvent row)
  programVersions := tables.programVersions

end Owners

/-- The rows that the policies are meant to grant. -/
def Granted (settings : Settings) (tables : Tables) (row : Row) : Prop :=
  IsAdmin settings ∨ ∃ userId, IsCurrentUser settings userId ∧ Owns tables userId row

section Grants

variable {settings : Settings} {tables : Tables}

/-- What a policy finds among the rows that it can see, it finds among the user's rows. -/
theorem exists_seen_iff {Entry : Type} {entries : List Entry} {owner : Entry → UUID}
    {sought : Entry → Prop} :
    (∃ entry ∈ entries.filter fun entry => settings.Admits (owner entry),
      sought entry ∧ IsCurrentUser settings (owner entry)) ↔
      ∃ userId, IsCurrentUser settings userId ∧
        ∃ entry ∈ entries, sought entry ∧ owner entry = userId := by
  constructor
  · rintro ⟨entry, seen, isSought, current⟩
    exact ⟨owner entry, current, entry, (List.mem_filter.mp seen).1, isSought, rfl⟩
  · rintro ⟨userId, current, entry, stored, isSought, rfl⟩
    refine ⟨entry, ?_, isSought, current⟩
    exact List.mem_filter.mpr ⟨stored, decide_eq_true (Or.inr current)⟩

theorem admitsResult_iff {assessmentId : UUID} :
    AdmitsResult settings (visible settings tables).assessments assessmentId ↔
      IsAdmin settings ∨
        ∃ userId, IsCurrentUser settings userId ∧ OwnsResult tables userId assessmentId :=
  or_congr Iff.rfl exists_seen_iff

theorem admitsStep_iff {roadmapId : UUID} :
    AdmitsStep settings (visible settings tables).roadmaps roadmapId ↔
      IsAdmin settings ∨
        ∃ userId, IsCurrentUser settings userId ∧ OwnsStep tables userId roadmapId :=
  or_congr Iff.rfl exists_seen_iff

theorem admitsItem_iff {assessmentResultId : UUID} :
    AdmitsItem settings (visible settings tables).assessmentResults
        (visible settings tables).assessments assessmentResultId ↔
      IsAdmin settings ∨
        ∃ userId, IsCurrentUser settings userId ∧ OwnsItem tables userId assessmentResultId := by
  apply or_congr Iff.rfl
  constructor
  · rintro ⟨result, seen, assessment, seenToo, isAssessment, isResult, current⟩
    refine ⟨assessment.userId, current, result, ?_, isResult, assessment, ?_, isAssessment, rfl⟩
    · exact (List.mem_filter.mp seen).1
    · exact (List.mem_filter.mp seenToo).1
  · rintro ⟨userId, current, result, stored, isResult, owns⟩
    have admits := admitsResult_iff.mpr (Or.inr ⟨userId, current, owns⟩)
    rcases exists_seen_iff.mpr ⟨userId, current, owns⟩ with
      ⟨assessment, seen, isAssessment, currentToo⟩
    refine ⟨result, ?_, assessment, seen, isAssessment, isResult, currentToo⟩
    exact List.mem_filter.mpr ⟨stored, decide_eq_true admits⟩

theorem ownsJob_iff {userId : UUID} {job : Job} :
    OwnsJob tables userId job ↔
      (∃ assessment ∈ tables.assessments, some assessment.id = job.assessmentId ∧
        assessment.userId = userId) ∨
      ∃ roadmap ∈ tables.roadmaps, some roadmap.id = job.roadmapId ∧ roadmap.userId = userId := by
  apply or_congr
  · constructor
    · rintro ⟨assessmentId, isFor, assessment, stored, rfl, owner⟩
      exact ⟨assessment, stored, isFor.symm, owner⟩
    · rintro ⟨assessment, stored, isFor, owner⟩
      exact ⟨assessment.id, isFor.symm, assessment, stored, rfl, owner⟩
  · constructor
    · rintro ⟨roadmapId, isFor, roadmap, stored, rfl, owner⟩
      exact ⟨roadmap, stored, isFor.symm, owner⟩
    · rintro ⟨roadmap, stored, isFor, owner⟩
      exact ⟨roadmap.id, isFor.symm, roadmap, stored, rfl, owner⟩

theorem admitsJob_iff {job : Job} :
    AdmitsJob settings (visible settings tables).assessments (visible settings tables).roadmaps
        job ↔
      IsAdmin settings ∨
        ∃ userId, IsCurrentUser settings userId ∧ OwnsJob tables userId job := by
  simp only [ownsJob_iff, and_or_left, exists_or]
  exact or_congr Iff.rfl (or_congr exists_seen_iff exists_seen_iff)

theorem admits_iff {owner : UUID} :
    settings.Admits owner ↔
      IsAdmin settings ∨ ∃ userId, IsCurrentUser settings userId ∧ owner = userId := by
  simp [Settings.Admits, IsAdmin, IsCurrentUser]

/-- A new row is admitted exactly if it is the user's. -/
theorem admitsRow_iff_granted (row : Row) :
    AdmitsRow settings tables row ↔ Granted settings tables row := by
  cases row with
  | assessmentResult row => exact admitsResult_iff
  | assessmentResultItem row => exact admitsItem_iff
  | roadmapStep row => exact admitsStep_iff
  | job row => exact admitsJob_iff
  | billingEvent row => simp [AdmitsRow, Granted, Owns]
  | _ => exact admits_iff

theorem filter_congr_of_iff {Entry : Type} {entries : List Entry} {first second : Entry → Prop}
    {_ : DecidablePred first} {_ : DecidablePred second} (agree : ∀ entry, first entry ↔ second entry) :
    (entries.filter fun entry => first entry) = entries.filter fun entry => second entry := by
  simp only [agree]

/-- A statement sees exactly the rows that are the user's. -/
theorem visible_eq_restrict (settings : Settings) (tables : Tables) :
    visible settings tables = restrict tables (Granted settings tables) := by
  simp only [visible, restrict, Tables.mk.injEq, and_true]
  refine ⟨?_, ?_, ?_, ?_, ?_, ?_, ?_, ?_, ?_, ?_, ?_⟩
  · exact filter_congr_of_iff fun row => admitsRow_iff_granted (.userProfileSnapshot row)
  · exact filter_congr_of_iff fun row => admitsRow_iff_granted (.assessment row)
  · exact filter_congr_of_iff fun row => admitsRow_iff_granted (.assessmentResult row)
  · exact filter_congr_of_iff fun row => admitsRow_iff_granted (.assessmentResultItem row)
  · exact filter_congr_of_iff fun row => admitsRow_iff_granted (.roadmap row)
  · exact filter_congr_of_iff fun row => admitsRow_iff_granted (.roadmapStep row)
  · exact filter_congr_of_iff fun row => admitsRow_iff_granted (.job row)
  · exact filter_congr_of_iff fun row => admitsRow_iff_granted (.subscription row)
  · exact filter_congr_of_iff fun row => admitsRow_iff_granted (.entitlement row)
  · exact filter_congr_of_iff fun row => admitsRow_iff_granted (.usageCounter row)
  · exact filter_congr_of_iff fun row => admitsRow_iff_granted (.billingEvent row)

/-- What a request of the user is meant to see: an administrator everything, a member the rows
that are the member's. -/
def GrantedTo (user : User) (tables : Tables) (row : Row) : Prop :=
  user.role = .admin ∨ Owns tables user.id row

theorem granted_ofUser {user : User} :
    Granted (.ofUser user) tables = GrantedTo user tables := by
  funext row
  simp [Granted, GrantedTo, IsAdmin, IsCurrentUser, Settings.ofUser,
    Settings.appCurrentUserRole]

theorem not_granted_unset {row : Row} : ¬ Granted .unset tables row := by
  simp [Granted, IsAdmin, IsCurrentUser, Settings.unset, Settings.appCurrentUserRole]

/-- What the statements of a session are granted. -/
def GrantedIn (session : Session) (tables : Tables) (row : Row) : Prop :=
  ¬ session.ended ∧ GrantedTo session.user tables row

theorem granted_settings {session : Session} :
    Granted session.settings tables = GrantedIn session tables := by
  funext row
  cases ended : session.ended with
  | true => simp [Session.settings, GrantedIn, ended, not_granted_unset]
  | false => simp [Session.settings, GrantedIn, ended, granted_ofUser]

end Grants

theorem consistent_run (actions : List Action) : Consistent (run step initial actions) :=
  invariant_run (fun _ action consistent => consistent.stepped action) consistent_initial actions

/-- A statement of a request, after any run of any requests, sees and writes the rows of its user
and no others until the request has ended a transaction, and no row of any user from then on. -/
theorem statement_in_run (actions : List Action) {request : RequestId} (table : Table)
    (connection : ConnectionId) {session : Session}
    (found : (run step initial actions).sessions request = some session)
    (runs : session.connection ≠ none ∨ Idle (run step initial actions) connection) :
    ∃ execution : Execution, execution.user = session.user ∧
      (step (run step initial actions) (.execute request table connection)).executed =
        (run step initial actions).executed ++ [execution] ∧
      ∀ tables, visible execution.settings tables = restrict tables (GrantedIn session tables) ∧
        ∀ row, AdmitsRow execution.settings tables row ↔ GrantedIn session tables row := by
  refine ⟨⟨session.user, table, session.settings⟩, rfl, ?_, ?_⟩
  · have possible : ¬ (session.connection = none ∧ ¬ Idle (run step initial actions) connection) := by
      rintro ⟨detached, busy⟩
      rcases runs with held | idle
      · exact held detached
      · exact busy idle
    rw [executed_step (consistent_run actions)]
    simp [executionOf, found, possible]
  · intro tables
    rw [visible_eq_restrict, granted_settings]
    refine ⟨rfl, ?_⟩
    intro row
    rw [admitsRow_iff_granted, granted_settings]

/-- Two requests on connections of their own, the first of which has ended its transaction. -/
def sampleActions : List Action :=
  [.getCurrentUser 1 ⟨7, .member⟩ 0, .getCurrentUser 2 ⟨9, .member⟩ 1, .commit 1]

/-- The session of the second request, in its first transaction. -/
def sampleSession : Session := ⟨⟨9, .member⟩, some 1, false⟩

theorem statement_in_run_sample :
    ∃ execution : Execution, execution.user = sampleSession.user ∧
      (step (run step initial sampleActions) (.execute 2 .jobs 1)).executed =
        (run step initial sampleActions).executed ++ [execution] ∧
      ∀ tables, visible execution.settings tables =
          restrict tables (GrantedIn sampleSession tables) ∧
        ∀ row, AdmitsRow execution.settings tables row ↔ GrantedIn sampleSession tables row :=
  statement_in_run sampleActions .jobs 1 rfl (.inl (by decide))

end ImigrAI.Security.Tenancy
