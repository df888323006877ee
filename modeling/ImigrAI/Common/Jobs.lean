import ImigrAI.Python.Datetime

/-!
# The bookkeeping of a job

What the execution of a task writes to the row of its job. The row is locked by each of these
writes and read anew.
-/

namespace ImigrAI.Common

open Python

inductive JobStatus where
  | pending
  | running
  | completed
  | failed
  | deadLetter
deriving DecidableEq

/-- The columns that an execution writes. -/
structure Job where
  status : JobStatus
  attempts : ℕ
  lastError : Option String
  traceId : Option String
  durationMs : Option ℤ
  startedAt : Option Instant
  completedAt : Option Instant
deriving DecidableEq

namespace Job

def markRunning (job : Job) (now : Instant) (traceId : Option String) : Job :=
  if job.status ≠ .completed then
    { job with
      status := .running
      attempts := job.attempts + 1
      startedAt := now
      traceId := if traceId.any (· ≠ "") then traceId else job.traceId }
  else job

def markPendingRetry (job : Job) (errorMessage : String) : Job :=
  if job.status ≠ .completed then { job with status := .pending, lastError := errorMessage }
  else job

def markCompleted (job : Job) (now : Instant) (durationMs : ℤ) : Job :=
  { job with
    status := .completed
    lastError := none
    durationMs := durationMs
    completedAt := now
    startedAt := job.startedAt.getD now }

def markFailed (job : Job) (now : Instant) (errorMessage : String) (durationMs : ℤ)
    (deadLetter : Bool) : Job :=
  { job with
    status := if deadLetter then .deadLetter else .failed
    lastError := errorMessage
    durationMs := durationMs
    completedAt := now
    startedAt := job.startedAt.getD now }

section Writes

variable {job : Job} {now : Instant} {traceId : Option String}

theorem attempts_markRunning (unfinished : job.status ≠ .completed) :
    (job.markRunning now traceId).attempts = job.attempts + 1 := by
  simp [markRunning, unfinished]

theorem status_markRunning (unfinished : job.status ≠ .completed) :
    (job.markRunning now traceId).status = .running := by
  simp [markRunning, unfinished]

@[simp]
theorem attempts_markPendingRetry (errorMessage : String) :
    (job.markPendingRetry errorMessage).attempts = job.attempts := by
  rw [markPendingRetry]
  split_ifs <;> rfl

theorem status_markPendingRetry (unfinished : job.status ≠ .completed) (errorMessage : String) :
    (job.markPendingRetry errorMessage).status = .pending := by
  simp [markPendingRetry, unfinished]

end Writes

end Job

end ImigrAI.Common
