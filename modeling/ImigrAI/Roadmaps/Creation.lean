import ImigrAI.Foundations.Runs
import ImigrAI.Python.Uuid
import ImigrAI.Roadmaps.Generation
import Mathlib.Logic.Function.Basic

/-!
# Concurrent creation of a roadmap

Any number of calls of `create_roadmap` by one user with one idempotency key and one assessment,
step by step. The roadmap is committed before the job that the key belongs to, so two calls that
find no job both create one.
-/

namespace ImigrAI.Roadmaps.Creation

open Python Runs

structure Roadmap where
  id : UUID
  userId : UUID
  assessmentResultId : UUID
  roadmapSchemaVersion : String
  status : RoadmapStatus
  traceId : Option String
deriving DecidableEq

/-- The job of the key. -/
structure Job where
  id : UUID
  roadmapId : Option UUID
  traceId : Option String
deriving DecidableEq

/-- A message of `generate_roadmap_task`. -/
structure Message where
  roadmapId : UUID
  jobId : UUID
  traceId : Option String
deriving DecidableEq

/-- The roadmaps created for the key, its job, which is unique, and the messages enqueued. -/
structure Store where
  roadmaps : List Roadmap
  job : Option Job
  messages : List Message

structure RoadmapQueuedRead where
  roadmapId : UUID
  status : RoadmapStatus
  roadmapSchemaVersion : String
  jobId : UUID
deriving DecidableEq

inductive CreationError where
  | http (statusCode : ℕ) (detail : String)
  | integrityError
deriving DecidableEq

/-- A call: what the checks of the assessment and of the entitlement come to, and the ids that
`uuid4` gives. -/
structure CreationCall where
  userId : UUID
  roadmapSchemaVersion : String
  traceId : Option String
  admission : Except CreationError UUID
  roadmapId : UUID
  jobId : UUID

/-- What a call holds before its next step. -/
inductive Phase where
  | called
  | missing
  | created (roadmap : Roadmap)
  | absent (roadmap : Roadmap)
  | obtained (roadmap : Roadmap) (job : Job)
  | returned (read : RoadmapQueuedRead)
  | raised (error : CreationError)
deriving DecidableEq

def queuedRead (roadmap : Roadmap) (jobId : UUID) : RoadmapQueuedRead :=
  ⟨roadmap.id, roadmap.status, roadmap.roadmapSchemaVersion, jobId⟩

/-- `get_job_by_key` and `get_roadmap`, with the answer to a key that was used. -/
def lookUp (store : Store) (call : CreationCall) : Phase :=
  match store.job with
  | none => .missing
  | some job =>
      match store.roadmaps.find? fun roadmap => job.roadmapId = some roadmap.id with
      | none => .missing
      | some roadmap =>
          if roadmap.userId ≠ call.userId then
            .raised (.http 409 "Idempotency key already used by another user")
          else .returned (queuedRead roadmap job.id)

def newRoadmap (call : CreationCall) (assessmentResultId : UUID) : Roadmap where
  id := call.roadmapId
  userId := call.userId
  assessmentResultId := assessmentResultId
  roadmapSchemaVersion := call.roadmapSchemaVersion
  status := .pending
  traceId := call.traceId

/-- The checks, and `create_roadmap` of the repository. -/
def create (store : Store) (call : CreationCall) : Store × Phase :=
  match call.admission with
  | .error error => (store, .raised error)
  | .ok assessmentResultId =>
      let roadmap := newRoadmap call assessmentResultId
      ({ store with roadmaps := store.roadmaps ++ [roadmap] }, .created roadmap)

/-- A job that was found gets the trace of the call if it has none. -/
def traced (job : Job) (traceId : Option String) : Job :=
  if traceId.any (· ≠ "") ∧ ¬ job.traceId.any (· ≠ "") then { job with traceId := traceId }
  else job

/-- The lookup of `get_or_create_job`. -/
def findJob (store : Store) (call : CreationCall) (roadmap : Roadmap) : Store × Phase :=
  match store.job with
  | none => (store, .absent roadmap)
  | some job =>
      let job := traced job call.traceId
      ({ store with job := some job }, .obtained roadmap job)

/-- The insertion of `get_or_create_job`, which fails if the key has got a job meanwhile. -/
def insertJob (store : Store) (call : CreationCall) (roadmap : Roadmap) : Store × Phase :=
  match store.job with
  | some _ => (store, .raised .integrityError)
  | none =>
      let job : Job := ⟨call.jobId, some roadmap.id, call.traceId⟩
      ({ store with job := some job }, .obtained roadmap job)

def enqueue (store : Store) (call : CreationCall) (roadmap : Roadmap) (job : Job) :
    Store × Phase :=
  ({ store with messages := store.messages ++ [⟨roadmap.id, job.id, call.traceId⟩] },
    .returned (queuedRead roadmap job.id))

/-- The next step of a call. -/
def advance (store : Store) (call : CreationCall) : Phase → Store × Phase
  | .called => (store, lookUp store call)
  | .missing => create store call
  | .created roadmap => findJob store call roadmap
  | .absent roadmap => insertJob store call roadmap
  | .obtained roadmap job => enqueue store call roadmap job
  | .returned read => (store, .returned read)
  | .raised error => (store, .raised error)

def HasRoadmap (store : Store) (roadmapId : UUID) : Prop :=
  roadmapId ∈ store.roadmaps.map (·.id)

def HasJob (store : Store) (jobId : UUID) : Prop := ∃ job, store.job = some job ∧ job.id = jobId

/-- What a call holds is stored. -/
def Holds (store : Store) : Phase → Prop
  | .called | .missing | .raised _ => True
  | .created roadmap | .absent roadmap => HasRoadmap store roadmap.id
  | .obtained roadmap job => HasRoadmap store roadmap.id ∧ HasJob store job.id
  | .returned read => HasRoadmap store read.roadmapId ∧ HasJob store read.jobId

/-- The job and the messages name what is stored. -/
structure Linked (store : Store) : Prop where
  job : ∀ job, store.job = some job → ∃ roadmapId, job.roadmapId = some roadmapId ∧
    HasRoadmap store roadmapId
  messages : ∀ message ∈ store.messages, HasRoadmap store message.roadmapId ∧
    HasJob store message.jobId

/-- Nothing that is stored gets lost. -/
structure Grows (before after : Store) : Prop where
  roadmaps : before.roadmaps.map (·.id) ⊆ after.roadmaps.map (·.id)
  job : ∀ jobId, HasJob before jobId → HasJob after jobId

theorem Grows.refl (store : Store) : Grows store store := ⟨fun _ mem => mem, fun _ has => has⟩

theorem Holds.mono {before after : Store} (grows : Grows before after) {phase : Phase}
    (holds : Holds before phase) : Holds after phase := by
  cases phase with
  | called => trivial
  | missing => trivial
  | raised error => trivial
  | created roadmap => exact grows.roadmaps holds
  | absent roadmap => exact grows.roadmaps holds
  | obtained roadmap job => exact ⟨grows.roadmaps holds.1, grows.job _ holds.2⟩
  | returned read => exact ⟨grows.roadmaps holds.1, grows.job _ holds.2⟩

section Advance

variable {store : Store} {call : CreationCall} {roadmap : Roadmap}

theorem holds_lookUp : Holds store (lookUp store call) := by
  rw [lookUp]
  split
  · trivial
  · rename_i job isJob
    split
    · trivial
    · rename_i found isFound
      split
      · trivial
      · refine ⟨?_, job, isJob, rfl⟩
        exact List.mem_map_of_mem (List.mem_of_find?_eq_some isFound)

/-- What a step makes of the store and of what the call holds. -/
structure Keeps (before : Store) (advanced : Store × Phase) : Prop where
  grows : Grows before advanced.1
  linked : Linked advanced.1
  holds : Holds advanced.1 advanced.2

theorem keeps_create (linked : Linked store) : Keeps store (create store call) := by
  rw [create]
  split
  · exact ⟨.refl store, linked, trivial⟩
  · rename_i assessmentResultId _
    have grows : Grows store
        { store with roadmaps := store.roadmaps ++ [newRoadmap call assessmentResultId] } := by
      refine ⟨?_, fun _ has => has⟩
      rw [List.map_append]
      exact List.subset_append_left _ _
    refine ⟨grows, ⟨?_, ?_⟩, ?_⟩
    · intro job isJob
      rcases linked.job job isJob with ⟨roadmapId, named, has⟩
      exact ⟨roadmapId, named, grows.roadmaps has⟩
    · intro message mem
      rcases linked.messages message mem with ⟨hasRoadmap, hasJob⟩
      exact ⟨grows.roadmaps hasRoadmap, hasJob⟩
    · simp [Holds, HasRoadmap]

theorem traced_keeps (job : Job) (traceId : Option String) :
    (traced job traceId).id = job.id ∧ (traced job traceId).roadmapId = job.roadmapId := by
  rw [traced]
  split <;> exact ⟨rfl, rfl⟩

/-- The job of the key is set to one with the same id, or set at last. -/
theorem keeps_job (linked : Linked store) (holds : HasRoadmap store roadmap.id) {job : Job}
    (named : ∃ roadmapId, job.roadmapId = some roadmapId ∧ HasRoadmap store roadmapId)
    (same : ∀ old, store.job = some old → old.id = job.id) :
    Keeps store ({ store with job := some job }, .obtained roadmap job) := by
  have grows : Grows store { store with job := some job } := by
    refine ⟨fun _ mem => mem, ?_⟩
    rintro jobId ⟨old, isOld, rfl⟩
    exact ⟨job, rfl, (same old isOld).symm⟩
  refine ⟨grows, ⟨?_, ?_⟩, holds, job, rfl, rfl⟩
  · intro other isOther
    cases isOther
    exact named
  · intro message mem
    rcases linked.messages message mem with ⟨hasRoadmap, hasJob⟩
    exact ⟨hasRoadmap, grows.job _ hasJob⟩

theorem keeps_findJob (linked : Linked store) (holds : HasRoadmap store roadmap.id) :
    Keeps store (findJob store call roadmap) := by
  rw [findJob]
  split
  · exact ⟨.refl store, linked, holds⟩
  · rename_i job isJob
    rcases traced_keeps job call.traceId with ⟨sameId, sameRoadmap⟩
    apply keeps_job linked holds
    · rw [sameRoadmap]
      exact linked.job job isJob
    · intro old isOld
      rw [isJob] at isOld
      cases isOld
      exact sameId.symm

theorem keeps_insertJob (linked : Linked store) (holds : HasRoadmap store roadmap.id) :
    Keeps store (insertJob store call roadmap) := by
  rw [insertJob]
  split
  · exact ⟨.refl store, linked, trivial⟩
  · rename_i noJob
    apply keeps_job linked holds
    · exact ⟨roadmap.id, rfl, holds⟩
    · intro old isOld
      rw [noJob] at isOld
      cases isOld

theorem keeps_enqueue {job : Job} (linked : Linked store)
    (holds : HasRoadmap store roadmap.id ∧ HasJob store job.id) :
    Keeps store (enqueue store call roadmap job) := by
  refine ⟨⟨fun _ mem => mem, fun _ has => has⟩, ⟨linked.job, ?_⟩, holds⟩
  intro message mem
  rcases List.mem_append.mp mem with earlier | last
  · exact linked.messages message earlier
  · rcases List.mem_singleton.mp last with rfl
    exact holds

theorem keeps_advance {phase : Phase} (linked : Linked store) (holds : Holds store phase) :
    Keeps store (advance store call phase) := by
  cases phase with
  | called => exact ⟨.refl store, linked, holds_lookUp⟩
  | missing => exact keeps_create linked
  | created roadmap => exact keeps_findJob linked holds
  | absent roadmap => exact keeps_insertJob linked holds
  | obtained roadmap job => exact keeps_enqueue linked holds
  | returned read => exact ⟨.refl store, linked, holds⟩
  | raised error => exact ⟨.refl store, linked, trivial⟩

/-- Only a call that has found no job and is admitted creates a roadmap. -/
theorem length_roadmaps_advance {phase : Phase} :
    (advance store call phase).1.roadmaps.length =
      store.roadmaps.length + if phase = .missing ∧ call.admission.isOk then 1 else 0 := by
  cases phase with
  | missing =>
      rw [advance, create]
      cases call.admission with
      | error error => rfl
      | ok assessmentResultId => simp [Except.isOk, Except.toBool]
  | created roadmap =>
      rw [advance, findJob]
      split <;> rfl
  | absent roadmap =>
      rw [advance, insertJob]
      split <;> rfl
  | _ => rfl

end Advance

section Callers

variable {Caller : Type} [DecidableEq Caller]

structure State (Caller : Type) where
  store : Store
  phase : Caller → Phase

/-- No call has looked the key up yet. -/
def initial : State Caller := ⟨⟨[], none, []⟩, fun _ => .called⟩

/-- One of the calls takes its next step. -/
def step (calls : Caller → CreationCall) (state : State Caller) (caller : Caller) :
    State Caller :=
  let advanced := advance state.store (calls caller) (state.phase caller)
  ⟨advanced.1, Function.update state.phase caller advanced.2⟩

/-- What the calls hold is stored, and the rows are linked. -/
structure Consistent (state : State Caller) : Prop where
  linked : Linked state.store
  holds : ∀ caller, Holds state.store (state.phase caller)

variable {calls : Caller → CreationCall} {state : State Caller} {caller : Caller}

theorem consistent_step (consistent : Consistent state) :
    Consistent (step calls state caller) := by
  have keeps := @keeps_advance state.store (calls caller) (state.phase caller) consistent.linked
    (consistent.holds caller)
  refine ⟨keeps.linked, ?_⟩
  intro other
  by_cases same : other = caller
  · subst same
    simp only [step, Function.update_self]
    exact keeps.holds
  · simp only [step, Function.update_of_ne same]
    exact (consistent.holds other).mono keeps.grows

omit [DecidableEq Caller] in
theorem consistent_initial : Consistent (initial : State Caller) := by
  refine ⟨⟨?_, ?_⟩, fun _ => trivial⟩
  · intro job isJob
    cases isJob
  · intro message mem
    cases mem

/-- There is at most one roadmap, all calls that have returned give the same roadmap and job, and
the job of every message is that of its roadmap. -/
structure OneRoadmap (state : State Caller) : Prop where
  roadmaps : state.store.roadmaps.length ≤ 1
  answers : ∀ caller other read otherRead, state.phase caller = .returned read →
    state.phase other = .returned otherRead →
      read.roadmapId = otherRead.roadmapId ∧ read.jobId = otherRead.jobId
  messages : ∀ message ∈ state.store.messages, ∃ job, state.store.job = some job ∧
    job.id = message.jobId ∧ job.roadmapId = some message.roadmapId

/-- A call goes on to create its roadmap only as long as there is none. -/
def CreatesAlone (calls : Caller → CreationCall) (state : State Caller) (caller : Caller) : Prop :=
  state.phase caller = .missing → (calls caller).admission.isOk → state.store.roadmaps = []

theorem same_of_hasRoadmap {store : Store} (alone : store.roadmaps.length ≤ 1)
    {roadmapId other : UUID} (has : HasRoadmap store roadmapId) (hasOther : HasRoadmap store other) :
    roadmapId = other := by
  rcases List.mem_map.mp has with ⟨roadmap, mem, rfl⟩
  rcases List.mem_map.mp hasOther with ⟨otherRoadmap, otherMem, rfl⟩
  have bound : ∀ first ∈ store.roadmaps, ∀ second ∈ store.roadmaps, first = second := by
    intro first firstMem second secondMem
    match listed : store.roadmaps with
    | [] => simp [listed] at firstMem
    | [only] => simp_all
    | _ :: _ :: _ => simp [listed] at alone
  rw [bound roadmap mem otherRoadmap otherMem]

omit [DecidableEq Caller] in
/-- Everything follows from there being at most one roadmap. -/
theorem oneRoadmap_iff (consistent : Consistent state) :
    OneRoadmap state ↔ state.store.roadmaps.length ≤ 1 := by
  constructor
  · exact OneRoadmap.roadmaps
  · intro alone
    refine ⟨alone, ?_, ?_⟩
    · intro caller other read otherRead returned otherReturned
      have holds := consistent.holds caller
      have otherHolds := consistent.holds other
      rw [returned] at holds
      rw [otherReturned] at otherHolds
      refine ⟨same_of_hasRoadmap alone holds.1 otherHolds.1, ?_⟩
      rcases holds.2 with ⟨job, isJob, sameId⟩
      rcases otherHolds.2 with ⟨otherJob, isOther, otherSame⟩
      rw [isJob] at isOther
      cases isOther
      rw [← sameId, otherSame]
    · intro message mem
      rcases consistent.linked.messages message mem with ⟨hasRoadmap, job, isJob, sameId⟩
      rcases consistent.linked.job job isJob with ⟨roadmapId, named, has⟩
      refine ⟨job, isJob, sameId, ?_⟩
      rw [named, same_of_hasRoadmap alone has hasRoadmap]

theorem oneRoadmap_step_iff (consistent : Consistent state) (one : OneRoadmap state) :
    OneRoadmap (step calls state caller) ↔ CreatesAlone calls state caller := by
  have length := @length_roadmaps_advance state.store (calls caller) (state.phase caller)
  have bound := one.roadmaps
  rw [oneRoadmap_iff (consistent_step consistent), step]
  dsimp only
  rw [length, CreatesAlone]
  split_ifs with creates
  · constructor
    · intro alone _ _
      apply List.length_eq_zero_iff.mp
      omega
    · intro alone
      rw [alone creates.1 creates.2]
      simp
  · constructor
    · intro _ missing admitted
      exact absurd ⟨missing, admitted⟩ creates
    · intro _
      exact bound

/-- The key keeps its one roadmap in all states of exactly those interleavings in which no call
goes on to create a roadmap after another one has. -/
theorem oneRoadmap_iff_createsAlone (calls : Caller → CreationCall) (callers : List Caller) :
    (∀ visited ∈ states (step calls) initial callers, OneRoadmap visited) ↔
      Along (step calls) (CreatesAlone calls) initial callers := by
  have one : OneRoadmap (initial : State Caller) :=
    (oneRoadmap_iff consistent_initial).mpr (Nat.zero_le _)
  refine forall_states_iff_along ?_ ?_ consistent_initial one callers
  · intro state caller consistent _ _
    exact consistent_step consistent
  · intro state caller consistent one
    exact oneRoadmap_step_iff consistent one

end Callers

section Sample

/-- Two calls of one user. -/
def twoCalls (second : Bool) : CreationCall where
  userId := 7
  roadmapSchemaVersion := "roadmap.v1"
  traceId := none
  admission := .ok 11
  roadmapId := if second then 22 else 21
  jobId := if second then 32 else 31

/-- Both calls look the key up before one of them has created its job. -/
def meetingCalls : List Bool := [false, true, false, false, false, false, true, true, true]

/-- The message of the second call names the job of the first with its own roadmap. -/
theorem second_message_has_other_roadmap :
    ¬ ∀ visited ∈ states (step twoCalls) initial meetingCalls, OneRoadmap visited := by
  intro all
  have last := all _ (run_mem_states initial meetingCalls)
  have message : ⟨22, 31, none⟩ ∈ (run (step twoCalls) initial meetingCalls).store.messages := by
    decide
  have stored : (run (step twoCalls) initial meetingCalls).store.job =
      some ⟨31, some 21, none⟩ := by
    decide
  rcases last.messages _ message with ⟨job, isJob, -, named⟩
  rw [stored] at isJob
  cases isJob
  exact absurd named (by decide)

end Sample

end ImigrAI.Roadmaps.Creation
