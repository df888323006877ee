import ImigrAI.Foundations.Runs
import ImigrAI.Python.Datetime
import ImigrAI.Python.Uuid
import Mathlib.Logic.Function.Basic

/-!
# Several executions of `process_assessment` on one assessment

`create_assessment` enqueues a pending or failed assessment again, so several workers may
process the same one. Each works on the object its own session loaded. Assigning an
attribute and committing sends an `UPDATE` of the columns that changed in the object, and
the objects are not expired by a commit. After a failed flush the session raises on the
next commit, so nothing more is written through it.
-/

namespace ImigrAI.Assessments.ProcessingRuns

open Python Runs

inductive AssessmentStatus where
  | pending
  | running
  | completed
  | failed
deriving DecidableEq

/-- A row of `assessment_results`, with the number of its items. -/
structure AssessmentResult where
  id : UUID
  itemCount : ℕ
deriving DecidableEq

/-- The assessment with its result. There is at most one result, by the unique constraint on
`assessment_id`. -/
structure Assessment where
  status : AssessmentStatus
  completedAt : Option Instant
  result : Option AssessmentResult
deriving DecidableEq

/-- Where one execution stands; `object` is the assessment as its session has it. -/
inductive Phase where
  | start
  | loaded (object : Assessment)
  /-- `running` has been committed. -/
  | running (object : Assessment)
  /-- The engine has returned a breakdown with this many items. -/
  | evaluated (object : Assessment) (itemCount : ℕ)
  /-- The result has been committed and is about to be refreshed. -/
  | persisted (object : Assessment) (resultId : UUID)
  /-- An exception is about to be handled. -/
  | raised (object : Assessment) (sessionUsable : Bool)
  | returned
  | failed
deriving DecidableEq

structure State (Worker : Type*) where
  row : Assessment
  workers : Worker → Phase

/-- One step of one worker, with what the step gets from outside: whether the lookups and the
engine raise or how many items they give, the id of a new result, and the clock. -/
structure Turn (Worker : Type*) where
  worker : Worker
  evaluation : Option ℕ
  resultId : UUID
  now : Instant

/-- What a column holds after a flush that sends the column only if the object changed it. -/
def flushed {Value : Type*} [DecidableEq Value] (loaded assigned stored : Value) : Value :=
  if assigned = loaded then stored else assigned

/-- `set_assessment_status`: the row after the commit. -/
def setAssessmentStatus (object : Assessment) (status : AssessmentStatus)
    (completedAt : Option Instant) (row : Assessment) : Assessment where
  status := flushed object.status status row.status
  completedAt := flushed object.completedAt completedAt row.completedAt
  result := row.result

/-- `replace_assessment_result`: the row after the commit, or nothing if a flush fails. -/
def replaceAssessmentResult (object row : Assessment) (resultId : UUID) (itemCount : ℕ)
    (computedAt : Instant) : Option Assessment :=
  let remaining : Option (Option AssessmentResult) :=
    match object.result with
    | none => some row.result
    | some existing =>
        -- Deleting a result sets the foreign key of its items to null, which is not nullable.
        if existing.itemCount ≠ 0 then none
        else some (row.result.filter fun stored => stored.id ≠ existing.id)
  match remaining with
  | some none =>
      some {
        status := flushed object.status .completed row.status
        completedAt := flushed object.completedAt (some computedAt) row.completedAt
        result := some ⟨resultId, itemCount⟩ }
  | _ => none

variable {Worker : Type*}

def initial (row : Assessment) : State Worker := ⟨row, fun _ => .start⟩

variable [DecidableEq Worker]

def State.move (state : State Worker) (worker : Worker) (phase : Phase) : State Worker :=
  { state with workers := Function.update state.workers worker phase }

/-- The next step of one execution of `process_assessment`. -/
def step (state : State Worker) (turn : Turn Worker) : State Worker :=
  match state.workers turn.worker with
  | .start => state.move turn.worker (.loaded state.row)
  | .loaded object =>
      if object.result.isSome ∧ object.status = .completed then state.move turn.worker .returned
      else
        { state.move turn.worker (.running { object with status := .running, completedAt := none })
          with row := setAssessmentStatus object .running none state.row }
  | .running object =>
      match turn.evaluation with
      | none => state.move turn.worker (.raised object true)
      | some itemCount => state.move turn.worker (.evaluated object itemCount)
  | .evaluated object itemCount =>
      match replaceAssessmentResult object state.row turn.resultId itemCount turn.now with
      | none => state.move turn.worker (.raised object false)
      | some row =>
          { state.move turn.worker (.persisted
              { object with status := .completed, completedAt := some turn.now } turn.resultId)
            with row := row }
  | .persisted object resultId =>
      if state.row.result.map (·.id) = some resultId then state.move turn.worker .returned
      else state.move turn.worker (.raised object true)
  | .raised object sessionUsable =>
      if sessionUsable then
        { state.move turn.worker .failed
          with row := setAssessmentStatus object .failed none state.row }
      else state.move turn.worker .failed
  | .returned => state
  | .failed => state

/-- The assessment is completed and has its result. -/
def Settled (state : State Worker) : Prop :=
  state.row.status = .completed ∧ state.row.result.isSome

/-- Once settled, the assessment stays settled. -/
def StaysSettled (row : Assessment) (schedule : List (Turn Worker)) : Prop :=
  Persists step Settled (initial row) schedule

/-- The next step of the worker overwrites the status: it commits `running` from an object it
loaded in another status and does not take for finished, or it commits `failed` through a
session that still works. -/
def Overwrites (state : State Worker) (worker : Worker) : Prop :=
  match state.workers worker with
  | .loaded object =>
      ¬ (object.result.isSome ∧ object.status = .completed) ∧ object.status ≠ .running
  | .raised object sessionUsable => sessionUsable ∧ object.status ≠ .failed
  | _ => False

theorem flushed_eq_of_ne {Value : Type*} [DecidableEq Value] {loaded assigned stored : Value}
    (different : assigned ≠ stored) :
    flushed loaded assigned stored = stored ↔ assigned = loaded := by
  unfold flushed
  split_ifs with same
  · simp [same]
  · simp [same, different]

omit [DecidableEq Worker] in
/-- Writing over a settled assessment keeps it settled exactly if the status is not sent. -/
theorem settled_setAssessmentStatus {state : State Worker} (object : Assessment)
    {status : AssessmentStatus} (completedAt : Option Instant)
    (settled : Settled state) (unfinished : status ≠ .completed) :
    (setAssessmentStatus object status completedAt state.row).status = .completed ∧
        (setAssessmentStatus object status completedAt state.row).result.isSome ↔
      object.status = status := by
  have stored : status ≠ state.row.status := by rw [settled.1]; exact unfinished
  simp only [setAssessmentStatus, settled.2, and_true]
  rw [← settled.1, flushed_eq_of_ne stored, eq_comm]

theorem replaceAssessmentResult_settled {object row replaced : Assessment} {resultId : UUID}
    {itemCount : ℕ} {computedAt : Instant} (completed : row.status = .completed)
    (done : replaceAssessmentResult object row resultId itemCount computedAt = some replaced) :
    replaced.status = .completed ∧ replaced.result.isSome := by
  simp only [replaceAssessmentResult] at done
  split at done
  · rcases Option.some.inj done with rfl
    refine ⟨?_, rfl⟩
    simp only [flushed, completed, ite_self]
  · exact absurd done (by simp)

/-- A step keeps a settled assessment settled exactly if it does not overwrite the status. -/
theorem settled_step_iff (state : State Worker) (turn : Turn Worker) (settled : Settled state) :
    Settled (step state turn) ↔ ¬ Overwrites state turn.worker := by
  have unchanged (phase : Phase) : Settled (state.move turn.worker phase) := settled
  cases phase : state.workers turn.worker with
  | start => simp [step, Overwrites, phase, unchanged]
  | loaded object =>
      by_cases finished : object.result.isSome ∧ object.status = .completed
      · simp [step, Overwrites, phase, finished, unchanged]
      · have written := settled_setAssessmentStatus object none settled
          (show .running ≠ AssessmentStatus.completed by decide)
        simp only [step, Overwrites, phase, finished, if_false, not_false_eq_true, true_and,
          not_not]
        exact written
  | running object =>
      cases evaluation : turn.evaluation <;>
        simp [step, Overwrites, phase, evaluation, unchanged]
  | evaluated object itemCount =>
      cases done : replaceAssessmentResult object state.row turn.resultId itemCount turn.now with
      | none => simp [step, Overwrites, phase, done, unchanged]
      | some replaced =>
          have written := replaceAssessmentResult_settled settled.1 done
          simp only [step, Overwrites, phase, done, not_false_eq_true, iff_true]
          exact written
  | persisted object resultId =>
      by_cases present : state.row.result.map (·.id) = some resultId
      · simp [step, Overwrites, phase, present, unchanged]
      · simp [step, Overwrites, phase, present, unchanged]
  | raised object sessionUsable =>
      cases sessionUsable with
      | false => simp [step, Overwrites, phase, unchanged]
      | true =>
          have written := settled_setAssessmentStatus object none settled
            (show .failed ≠ AssessmentStatus.completed by decide)
          simp only [step, Overwrites, phase, if_true, true_and, not_not]
          exact written
  | returned => simpa [step, Overwrites, phase] using settled
  | failed => simpa [step, Overwrites, phase] using settled

/-- An assessment stays settled along exactly the schedules in which no worker overwrites the
status of a settled assessment. -/
theorem staysSettled_iff_not_overwrites (row : Assessment) (schedule : List (Turn Worker)) :
    StaysSettled row schedule ↔
      Along step (fun state turn => Settled state → ¬ Overwrites state turn.worker)
        (initial row) schedule :=
  persists_iff_along settled_step_iff (initial row) schedule

/-- Two workers load the pending assessment; the first one completes it, then the second one
commits `running`. -/
def secondWorkerLate : List (Turn (Fin 2)) :=
  [⟨0, none, 0, 0⟩, ⟨1, none, 0, 0⟩, ⟨0, none, 0, 0⟩, ⟨0, some 1, 0, 0⟩, ⟨0, none, 7, 100⟩,
    ⟨1, none, 0, 0⟩]

/-- The result that the first worker committed stays, with the status `running`. -/
theorem completed_assessment_runs_again :
    ¬ StaysSettled ⟨.pending, none, none⟩ secondWorkerLate ∧
      (run step (initial ⟨.pending, none, none⟩) secondWorkerLate).row =
        ⟨.running, some 100, some ⟨7, 1⟩⟩ := by
  refine ⟨?_, by decide⟩
  intro stays
  have settled := stays (secondWorkerLate.take 5) (secondWorkerLate.drop 5) [] rfl
    ⟨by decide, by decide⟩
  exact absurd settled.1 (by decide)

end ImigrAI.Assessments.ProcessingRuns
