import ImigrAI.Common.Jobs
import ImigrAI.Core.Retry
import ImigrAI.Foundations.Runs
import ImigrAI.Python.Uuid
import ImigrAI.Roadmaps.Generation

/-!
# The attempts of a roadmap task

`generate_roadmap_task` with its failure handler, one commit after the other. An exception may be
raised before and after each of them, so an attempt may fail with its contract committed; the
handler of the last attempt then marks a roadmap as failed that has its steps.
-/

namespace ImigrAI.Roadmaps.Tasks

open Python ImigrAI.Core Common Runs Assessments

/-- A task as it is sent; `max_retries` may be unset. -/
structure GenerateRoadmapTask where
  maxRetries : Option ℕ
  traceId : Option String
  settings : Settings

/-- What stands between an attempt and its next commit. After a commit its session is still to be
refreshed and closed, so that a phase lasts until the next commit. -/
inductive Phase where
  | idle
  | begun
  | jobRunning
  | roadmapRunning
  | processed
  | jobCompleted
  | failing (exc : RaisedException)
  | jobMarked (exc : RaisedException)
  | roadmapMarked (exc : RaisedException)

/-- The rows of the roadmap and its job, and the attempt with its `request.retries`. -/
structure TaskState where
  roadmap : Roadmap
  job : Job
  retries : ℕ
  phase : Phase

/-- What a step reads: of the database the result that the roadmap is made from, and the snapshot
of the profile, if there is one. -/
structure Reading where
  result : StoredAssessmentResult
  profileJson : Option Dict
  call : GenerationCall
  durationMs : ℤ

inductive Action where
  | attempt (retries : ℕ)
  | proceed (reading : Reading)
  | raise (exc : RaisedException)

def markFailed (roadmap : Roadmap) (errorMessage : String) (now : Instant) : Roadmap :=
  { roadmap with status := .failed, generationError := errorMessage, completedAt := now }

namespace GenerateRoadmapTask

/-- Whether a failure is the end of the task. -/
def deadLetters (task : GenerateRoadmapTask) (retries : ℕ) (exc : RaisedException) : Bool :=
  let maxRetries := task.maxRetries.getD 0
  let definitive := isDefinitiveError exc
  let transient := isTransientError exc || exc.isInstance .softTimeLimitExceeded
  definitive || !transient || maxRetries ≤ retries

/-- The contract for a roadmap that is running, checked and stored. -/
def generate (task : GenerateRoadmapTask) (roadmap : Roadmap) (reading : Reading) :
    Except GenerationError Roadmap := do
  let provider ← buildLLMProvider task.settings
  match reading.profileJson with
  | none => .error (.valueError "Roadmap is missing assessment snapshot context")
  | some profile =>
      let payload := buildProviderPayload profile reading.result
      let generation := generateRoadmap task.settings provider payload reading.call
      storeContract task.settings roadmap generation reading.call.completedAt

/-- The next commit of an attempt. A step that cannot succeed is not taken: it raises. -/
def proceed (task : GenerateRoadmapTask) (state : TaskState) (reading : Reading) : TaskState :=
  match state.phase with
  | .idle => state
  | .begun =>
      { state with
        job := state.job.markRunning reading.call.now task.traceId
        phase := .jobRunning }
  | .jobRunning =>
      if state.roadmap.status = .completed ∧ state.roadmap.steps ≠ [] then
        { state with phase := .processed }
      else { state with roadmap := markRunning state.roadmap, phase := .roadmapRunning }
  | .roadmapRunning =>
      match task.generate state.roadmap reading with
      | .ok roadmap => { state with roadmap := roadmap, phase := .processed }
      | .error _ => state
  | .processed =>
      { state with
        job := state.job.markCompleted reading.call.now reading.durationMs
        phase := .jobCompleted }
  | .jobCompleted => { state with phase := .idle }
  | .failing exc =>
      { state with
        job :=
          if task.deadLetters state.retries exc then
            state.job.markFailed reading.call.now exc.text reading.durationMs true
          else state.job.markPendingRetry exc.text
        phase := .jobMarked exc }
  | .jobMarked exc =>
      { state with
        roadmap :=
          if task.deadLetters state.retries exc then
            markFailed state.roadmap exc.text reading.call.now
          else state.roadmap
        phase := .roadmapMarked exc }
  | .roadmapMarked _ => { state with phase := .idle }

/-- An exception of the task goes to its failure handler, and one of the handler ends the
attempt. -/
def raise (state : TaskState) (exc : RaisedException) : TaskState :=
  match state.phase with
  | .idle => state
  | .begun | .jobRunning | .roadmapRunning | .processed | .jobCompleted =>
      { state with phase := .failing exc }
  | .failing _ | .jobMarked _ | .roadmapMarked _ => { state with phase := .idle }

def step (task : GenerateRoadmapTask) (state : TaskState) : Action → TaskState
  | .attempt retries =>
      match state.phase with
      | .idle => { state with retries := retries, phase := .begun }
      | _ => state
  | .proceed reading => task.proceed state reading
  | .raise exc => raise state exc

end GenerateRoadmapTask

/-- The roadmap is completed and has its steps. -/
def HasSteps (steps : List RoadmapStep) (state : TaskState) : Prop :=
  state.roadmap.status = .completed ∧ state.roadmap.steps = steps ∧ steps ≠ []

/-- The handler of a failure that is the end of the task is about to mark the roadmap. -/
def MarksFailed (task : GenerateRoadmapTask) (state : TaskState) (action : Action) : Prop :=
  (∃ reading, action = .proceed reading) ∧
    ∃ exc, state.phase = .jobMarked exc ∧ task.deadLetters state.retries exc = true

/-- A roadmap is generated as long as it is pending. -/
def PendingWhileRunning (state : TaskState) : Prop :=
  state.phase = .roadmapRunning → state.roadmap.status = .pending

section Steps

variable {task : GenerateRoadmapTask} {state : TaskState}

/-- After `mark_running` of the job, an attempt in which nothing is raised does what
`process_roadmap` does to the roadmap. -/
theorem roadmap_proceed_proceed (phase : state.phase = .jobRunning) (first second : Reading) :
    some (task.proceed (task.proceed state first) second).roadmap =
      (processRoadmap task.settings (some ⟨state.roadmap, second.result, second.profileJson⟩)
        second.call).roadmap := by
  by_cases done : state.roadmap.status = .completed ∧ state.roadmap.steps ≠ []
  · simp [GenerateRoadmapTask.proceed, processRoadmap, phase, done]
  · simp only [GenerateRoadmapTask.proceed, processRoadmap, phase, if_neg done,
      GenerateRoadmapTask.generate]
    cases buildLLMProvider task.settings with
    | error error => rfl
    | ok provider =>
        cases second.profileJson with
        | none => rfl
        | some profile =>
            dsimp only [bind, Except.bind]
            split <;> simp_all

theorem pendingWhileRunning_proceed (pending : PendingWhileRunning state) (reading : Reading) :
    PendingWhileRunning (task.proceed state reading) := by
  rw [GenerateRoadmapTask.proceed]
  split
  · exact pending
  · simp [PendingWhileRunning]
  · split_ifs
    · simp [PendingWhileRunning]
    · simp [PendingWhileRunning, markRunning]
  · split
    · simp [PendingWhileRunning]
    · exact pending
  all_goals simp [PendingWhileRunning]

theorem pendingWhileRunning_step (state : TaskState) (action : Action)
    (pending : PendingWhileRunning state) : PendingWhileRunning (task.step state action) := by
  cases action with
  | attempt retries =>
      simp only [GenerateRoadmapTask.step]
      split
      · simp [PendingWhileRunning]
      · exact pending
  | proceed reading => exact pendingWhileRunning_proceed pending reading
  | raise exc =>
      simp only [GenerateRoadmapTask.step, GenerateRoadmapTask.raise]
      split
      · exact pending
      all_goals simp [PendingWhileRunning]

/-- No commit but the last one of a handler touches a completed roadmap with its steps. -/
theorem roadmap_proceed (pending : PendingWhileRunning state) {steps : List RoadmapStep}
    (has : HasSteps steps state) (reading : Reading) :
    (task.proceed state reading).roadmap = state.roadmap ∨
      ∃ exc, state.phase = .jobMarked exc ∧ task.deadLetters state.retries exc = true := by
  rcases has with ⟨completed, isSteps, some⟩
  cases phase : state.phase with
  | jobRunning => simp [GenerateRoadmapTask.proceed, phase, completed, isSteps, some]
  | roadmapRunning => simp [pending phase] at completed
  | jobMarked exc =>
      by_cases dead : task.deadLetters state.retries exc = true
      · exact Or.inr ⟨exc, rfl, dead⟩
      · simp [GenerateRoadmapTask.proceed, phase, dead]
  | idle => simp [GenerateRoadmapTask.proceed, phase]
  | begun => simp [GenerateRoadmapTask.proceed, phase]
  | processed => simp [GenerateRoadmapTask.proceed, phase]
  | jobCompleted => simp [GenerateRoadmapTask.proceed, phase]
  | failing exc => simp [GenerateRoadmapTask.proceed, phase]
  | roadmapMarked exc => simp [GenerateRoadmapTask.proceed, phase]

theorem roadmap_raise (state : TaskState) (exc : RaisedException) :
    (GenerateRoadmapTask.raise state exc).roadmap = state.roadmap := by
  rw [GenerateRoadmapTask.raise]
  split <;> rfl

/-- A roadmap keeps its steps unless a handler marks it as failed. -/
theorem hasSteps_step_iff {steps : List RoadmapStep} (state : TaskState) (action : Action)
    (pending : PendingWhileRunning state) (has : HasSteps steps state) :
    HasSteps steps (task.step state action) ↔ ¬ MarksFailed task state action := by
  cases action with
  | attempt retries =>
      have kept : HasSteps steps (task.step state (.attempt retries)) := by
        simp only [GenerateRoadmapTask.step]
        split <;> exact has
      simp [kept, MarksFailed]
  | raise exc =>
      have kept : HasSteps steps (task.step state (.raise exc)) := by
        simp only [GenerateRoadmapTask.step, HasSteps, roadmap_raise]
        exact has
      simp [kept, MarksFailed]
  | proceed reading =>
      constructor
      · rintro ⟨completed, -⟩ ⟨-, exc, phase, dead⟩
        simp [GenerateRoadmapTask.step, GenerateRoadmapTask.proceed, phase, dead, markFailed]
          at completed
      · intro unmarked
        rcases @roadmap_proceed task state pending steps has reading with
          same | ⟨exc, phase, dead⟩
        · simp only [GenerateRoadmapTask.step, HasSteps, same]
          exact has
        · exact absurd ⟨⟨reading, rfl⟩, exc, phase, dead⟩ unmarked

end Steps

/-- Completed roadmaps keep their steps along exactly the runs in which no handler marks one as
failed. -/
theorem hasSteps_persists_iff (task : GenerateRoadmapTask) (roadmap : Roadmap) (job : Job)
    (actions : List Action) :
    (∀ steps, Persists task.step (HasSteps steps) ⟨roadmap, job, 0, .idle⟩ actions) ↔
      Along task.step (fun state action =>
        (∃ steps, HasSteps steps state) → ¬ MarksFailed task state action)
        ⟨roadmap, job, 0, .idle⟩ actions := by
  have pending : PendingWhileRunning ⟨roadmap, job, 0, .idle⟩ := by
    simp [PendingWhileRunning]
  have each (steps : List RoadmapStep) :=
    persists_iff_along_of_invariant (@pendingWhileRunning_step task)
      (@hasSteps_step_iff task steps) pending actions
  simp only [each, along_forall_iff, forall_exists_index]

def sampleTask : GenerateRoadmapTask :=
  ⟨some 3, none, { defaultSettings with llmProvider := .claude }⟩

def sampleReading : Reading where
  result := pendingRoadmap.result
  profileJson := pendingRoadmap.profileJson
  call := ⟨0, .timeout, 1, 2⟩
  durationMs := 1000

def softTimeLimit : RaisedException :=
  ⟨fun exceptionClass => exceptionClass = .softTimeLimitExceeded, "SoftTimeLimitExceeded()"⟩

/-- The last attempt, up to the commit of the contract. -/
def storingAttempt : List Action :=
  [.attempt 3, .proceed sampleReading, .proceed sampleReading, .proceed sampleReading]

def sampleState (actions : List Action) : TaskState :=
  run sampleTask.step ⟨pendingRoadmap.roadmap, ⟨.pending, 3, none, none, none, none, none⟩, 0, .idle⟩
    actions

/-- The last attempt runs into its soft time limit after the contract was stored. -/
theorem roadmap_failed_with_steps :
    let stored := (sampleState storingAttempt).roadmap
    let failed := (sampleState (storingAttempt ++
      [.raise softTimeLimit, .proceed sampleReading, .proceed sampleReading])).roadmap
    stored.status = .completed ∧ stored.steps ≠ [] ∧ failed.status = .failed ∧
      failed.steps = stored.steps := by
  decide +kernel

end ImigrAI.Roadmaps.Tasks
