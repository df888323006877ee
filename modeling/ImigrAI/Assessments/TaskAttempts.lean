import ImigrAI.Common.Jobs
import ImigrAI.Core.Retry
import ImigrAI.Foundations.Runs
import ImigrAI.Python.Uuid

/-!
# The attempts of an assessment task

`process_assessment_task` with `_handle_failure`, from its first execution to its last. The writes
to the job do not fail, but an exception may be raised before and after each of them, in the task
as in its failure handler; where, and with which readings of the clock, is an argument. Celery's
`retry` executes the task again with one more in `request.retries`.
-/

namespace ImigrAI.Assessments.Tasks

open Python ImigrAI.Core Common Runs

/-- A task as it is sent; `max_retries` may be unset. -/
structure ProcessAssessmentTask where
  maxRetries : Option ℕ
  jobId : UUID
  traceId : Option String

/-- What stands when an exception leaves the task: its `try` is not reached, or the job is not yet
running, is running or is completed. -/
inductive Place where
  | beforeTry
  | beforeRunning
  | running
  | completed
deriving DecidableEq

/-- An exception leaves the failure handler before it marks the job, or before its message is
sent. One that is raised later changes nothing. -/
inductive Interruption where
  | beforeMarking
  | beforeSending
deriving DecidableEq

/-- What one execution meets. -/
structure Attempt where
  startedAt : Instant
  raised : Option (Place × RaisedException)
  durationMs : ℤ
  finishedAt : Instant
  interrupted : Option Interruption
  failedAfterMs : ℤ
  failedAt : Instant

structure DeadLetterEvent where
  source : String
  jobId : UUID
  traceId : Option String
  event : String
  error : String
deriving DecidableEq

/-- The job, and what was sent and executed so far; `request` has the retries of the execution
that is to come. -/
structure TaskRun where
  request : Option ℕ
  job : Job
  deadLetters : List DeadLetterEvent
  countdowns : List ℕ
  made : List Attempt

namespace ProcessAssessmentTask

/-- The failure of an execution that is not repeated. -/
def giveUp (task : ProcessAssessmentTask) (run : TaskRun) (attempt : Attempt)
    (exc : RaisedException) (event : String) : TaskRun :=
  let failed := run.job.markFailed attempt.failedAt exc.text attempt.failedAfterMs true
  match attempt.interrupted with
  | some .beforeMarking => run
  | some .beforeSending => { run with job := failed }
  | none =>
      { run with
        job := failed
        deadLetters := run.deadLetters ++
          [⟨"score_job", task.jobId, task.traceId, event, exc.text⟩] }

/-- The failure of an execution that is repeated. -/
def retry (run : TaskRun) (retries : ℕ) (attempt : Attempt) (exc : RaisedException) : TaskRun :=
  match attempt.interrupted with
  | some .beforeMarking => run
  | some .beforeSending => { run with job := run.job.markPendingRetry exc.text }
  | none =>
      { run with
        job := run.job.markPendingRetry exc.text
        request := some (retries + 1)
        countdowns := run.countdowns ++ [max 1 (2 ^ retries)] }

def handleFailure (task : ProcessAssessmentTask) (run : TaskRun) (retries : ℕ)
    (attempt : Attempt) (exc : RaisedException) (event : String) : TaskRun :=
  let maxRetries := task.maxRetries.getD 0
  let definitive := isDefinitiveError exc
  let transient := isTransientError exc || exc.isInstance .softTimeLimitExceeded
  if definitive || !transient then task.giveUp run attempt exc event
  else if maxRetries ≤ retries then task.giveUp run attempt exc event
  else retry run retries attempt exc

/-- The job when an exception leaves the task, or when the task returns. -/
def reach (task : ProcessAssessmentTask) (job : Job) (attempt : Attempt) : Option Place → Job
  | some .beforeTry | some .beforeRunning => job
  | some .running => job.markRunning attempt.startedAt task.traceId
  | some .completed | none =>
      (job.markRunning attempt.startedAt task.traceId).markCompleted attempt.finishedAt
        attempt.durationMs

/-- The task without its failure handler. -/
def attempted (task : ProcessAssessmentTask) (run : TaskRun) (attempt : Attempt) : TaskRun :=
  { run with
    request := none
    job := task.reach run.job attempt (attempt.raised.map Prod.fst)
    made := run.made ++ [attempt] }

/-- The next execution, if there is one. -/
def execute (task : ProcessAssessmentTask) (run : TaskRun) (attempt : Attempt) : TaskRun :=
  match run.request with
  | none => run
  | some retries =>
      match attempt.raised with
      | none => task.attempted run attempt
      | some (place, exc) =>
          if place = .beforeTry then task.attempted run attempt
          else if exc.isInstance .softTimeLimitExceeded then
            task.handleFailure (task.attempted run attempt) retries attempt exc "score_job_timeout"
          else
            task.handleFailure (task.attempted run attempt) retries attempt exc "score_job_failed"

end ProcessAssessmentTask

/-- The task is sent for a job. -/
def TaskRun.sent (job : Job) : TaskRun := ⟨some 0, job, [], [], []⟩

def Attempt.Succeeds (attempt : Attempt) : Prop := attempt.raised = none

def Attempt.FailsForGood (attempt : Attempt) : Prop :=
  ∃ failure ∈ attempt.raised, isDefinitiveError failure.2 = true

/-- The last attempt decides how the job ends, and whether there is a dead letter. -/
def TaskRun.Concluded (run : TaskRun) : Prop :=
  ∃ earlier last, run.made = earlier ++ [last] ∧
    (last.Succeeds ∧ run.job.status = .completed ∧ run.deadLetters = [] ∨
      ¬ last.Succeeds ∧ run.job.status = .deadLetter ∧ run.deadLetters.length = 1)

/-- How a task with so many retries runs to its end, on a first part of the attempts to come. -/
structure RunsToItsEnd (maxRetries : ℕ) (attempts : List Attempt) (run : TaskRun) : Prop where
  request : run.request = none
  made : run.made <+: attempts
  bounded : run.made.length ≤ maxRetries + 1
  attempts : run.job.attempts = run.made.length
  countdowns : run.countdowns = (List.range (run.made.length - 1)).map fun retry => 2 ^ retry
  definitive : ∀ earlier attempt later, run.made = earlier ++ attempt :: later →
    attempt.FailsForGood → later = []
  ended : run.Concluded

namespace ProcessAssessmentTask

/-- The failure of this retry is the end of the task. -/
def GivesUp (task : ProcessAssessmentTask) (retries : ℕ) (exc : RaisedException) : Prop :=
  isDefinitiveError exc = true ∨ task.maxRetries.getD 0 ≤ retries

instance (task : ProcessAssessmentTask) (retries : ℕ) (exc : RaisedException) :
    Decidable (task.GivesUp retries exc) :=
  inferInstanceAs (Decidable (_ ∨ _))

/-- The handler of a failure is not interrupted, and the failure comes while the job is running.
It may also come when the job is completed, if it is the end of the task. -/
def Orderly (task : ProcessAssessmentTask) (retries : ℕ) (attempt : Attempt) : Prop :=
  ∀ failure ∈ attempt.raised, attempt.interrupted = none ∧
    (failure.1 = .running ∨ failure.1 = .completed ∧ task.GivesUp retries failure.2)

/-- The execution that is to come, if there is one, is orderly. -/
def InOrder (task : ProcessAssessmentTask) (run : TaskRun) (attempt : Attempt) : Prop :=
  ∀ retries ∈ run.request, task.Orderly retries attempt

end ProcessAssessmentTask

section Failures

variable {task : ProcessAssessmentTask} {run : TaskRun} {retries : ℕ} {attempt : Attempt}
  {exc : RaisedException} {event : String}

theorem handleFailure_eq :
    task.handleFailure run retries attempt exc event =
      if task.GivesUp retries exc then task.giveUp run attempt exc event
      else ProcessAssessmentTask.retry run retries attempt exc := by
  simp only [ProcessAssessmentTask.handleFailure, isTransientError_eq,
    ProcessAssessmentTask.GivesUp]
  by_cases definitive : isDefinitiveError exc = true
  · simp [definitive]
  · simp [definitive]

@[simp]
theorem made_handleFailure : (task.handleFailure run retries attempt exc event).made = run.made := by
  rw [handleFailure_eq, ProcessAssessmentTask.giveUp, ProcessAssessmentTask.retry]
  split_ifs
  · split <;> rfl
  · split <;> rfl

@[simp]
theorem attempts_handleFailure :
    (task.handleFailure run retries attempt exc event).job.attempts = run.job.attempts := by
  rw [handleFailure_eq, ProcessAssessmentTask.giveUp, ProcessAssessmentTask.retry]
  split_ifs
  · split <;> rfl
  · split <;> simp

/-- An interrupted handler has sent nothing. -/
theorem handleFailure_of_interrupted (interrupted : attempt.interrupted ≠ none) :
    (task.handleFailure run retries attempt exc event).request = run.request ∧
      (task.handleFailure run retries attempt exc event).deadLetters = run.deadLetters := by
  rw [handleFailure_eq, ProcessAssessmentTask.giveUp, ProcessAssessmentTask.retry]
  split_ifs
  · split <;> simp_all
  · split <;> simp_all

@[simp]
theorem attempts_markCompleted (job : Job) (now : Instant) (durationMs : ℤ) :
    (job.markCompleted now durationMs).attempts = job.attempts := rfl

theorem attempts_reach_le (job : Job) (place : Option Place) :
    (task.reach job attempt place).attempts ≤ job.attempts + 1 := by
  have running : (job.markRunning attempt.startedAt task.traceId).attempts ≤ job.attempts + 1 := by
    rw [Job.markRunning]
    split_ifs <;> simp
  cases place with
  | none => simpa [ProcessAssessmentTask.reach] using running
  | some place => cases place <;> simp [ProcessAssessmentTask.reach, running]

/-- The attempts of a completed job are not counted. -/
theorem attempts_reach_of_completed {job : Job} (completed : job.status = .completed)
    (place : Option Place) : (task.reach job attempt place).attempts = job.attempts := by
  have running : job.markRunning attempt.startedAt task.traceId = job := by
    simp [Job.markRunning, completed]
  cases place with
  | none => simp [ProcessAssessmentTask.reach, running]
  | some place => cases place <;> simp [ProcessAssessmentTask.reach, running]

/-- An execution that is due is made. -/
theorem made_execute (due : run.request = some retries) :
    (task.execute run attempt).made = run.made ++ [attempt] := by
  rw [ProcessAssessmentTask.execute, due]
  dsimp only
  split
  · rfl
  · split_ifs <;> simp [ProcessAssessmentTask.attempted]

theorem attempts_execute (due : run.request = some retries) :
    (task.execute run attempt).job.attempts =
      (task.reach run.job attempt (attempt.raised.map Prod.fst)).attempts := by
  rw [ProcessAssessmentTask.execute, due]
  dsimp only
  split
  · rfl
  · split_ifs <;> simp [ProcessAssessmentTask.attempted]

/-- An execution that is not due does nothing. -/
theorem execute_of_idle (idle : run.request = none) (attempt : Attempt) :
    task.execute run attempt = run := by
  rw [ProcessAssessmentTask.execute, idle]

theorem run_of_idle (idle : run.request = none) (attempts : List Attempt) :
    Runs.run task.execute run attempts = run := by
  induction attempts with
  | nil => rfl
  | cons attempt rest ih => rw [run_cons, execute_of_idle idle, ih]

end Failures

/-- The next execution is retry number `retries`, after as many attempts that were transient
failures. -/
structure Waiting (run : TaskRun) (retries : ℕ) : Prop where
  request : run.request = some retries
  status : run.job.status = .pending
  attempts : run.job.attempts = retries
  deadLetters : run.deadLetters = []
  countdowns : run.countdowns = (List.range retries).map fun retry => 2 ^ retry
  made : run.made.length = retries
  transient : ∀ attempt ∈ run.made, ¬ attempt.FailsForGood

/-- Retry number `retries` has been counted. -/
structure Counted (run : TaskRun) (retries : ℕ) (attempt : Attempt) : Prop where
  request : run.request = none
  attempts : run.job.attempts = retries + 1
  deadLetters : run.deadLetters = []
  countdowns : run.countdowns = (List.range retries).map fun retry => 2 ^ retry
  made : ∃ earlier, run.made = earlier ++ [attempt] ∧ earlier.length = retries ∧
    ∀ attempt ∈ earlier, ¬ attempt.FailsForGood

/-- The task has come to its end with its last attempt. -/
structure Ended (run : TaskRun) (last : Attempt) : Prop where
  request : run.request = none
  attempts : run.job.attempts = run.made.length
  countdowns : run.countdowns = (List.range (run.made.length - 1)).map fun retry => 2 ^ retry
  made : ∃ earlier, run.made = earlier ++ [last] ∧ ∀ attempt ∈ earlier, ¬ attempt.FailsForGood
  success : last.Succeeds → run.job.status = .completed ∧ run.deadLetters = []
  failure : ¬ last.Succeeds → run.job.status = .deadLetter ∧ run.deadLetters.length = 1

section Execution

variable {task : ProcessAssessmentTask} {run : TaskRun} {retries : ℕ} {attempt : Attempt}
  {place : Place} {exc : RaisedException}

theorem not_succeeds (raised : attempt.raised = some (place, exc)) : ¬ attempt.Succeeds := by
  simp [Attempt.Succeeds, raised]

/-- An attempt is counted when the job is marked as running. -/
theorem counted_attempted (waiting : Waiting run retries)
    (running : ∀ failure ∈ attempt.raised, failure.1 = .running ∨ failure.1 = .completed) :
    Counted (task.attempted run attempt) retries attempt := by
  have unfinished : run.job.status ≠ .completed := by
    simp [waiting.status]
  have counted : (task.reach run.job attempt (attempt.raised.map Prod.fst)).attempts =
      run.job.attempts + 1 := by
    cases raised : attempt.raised with
    | none => simp [ProcessAssessmentTask.reach, Job.attempts_markRunning unfinished]
    | some failure =>
        rcases running failure raised with place | place
        · simp [ProcessAssessmentTask.reach, place, Job.attempts_markRunning unfinished]
        · simp [ProcessAssessmentTask.reach, place, Job.attempts_markRunning unfinished]
  refine ⟨rfl, ?_, waiting.deadLetters, waiting.countdowns, run.made, rfl, waiting.made,
    waiting.transient⟩
  rw [← waiting.attempts]
  exact counted

/-- The attempt is the last one if nothing but the status and a dead letter is written. -/
theorem ended_of_counted (counted : Counted run retries attempt) {job : Job}
    {deadLetters : List DeadLetterEvent} (sameAttempts : job.attempts = run.job.attempts)
    (success : attempt.Succeeds → job.status = .completed ∧ deadLetters = [])
    (failure : ¬ attempt.Succeeds → job.status = .deadLetter ∧ deadLetters.length = 1) :
    Ended { run with job := job, deadLetters := deadLetters } attempt := by
  rcases counted.made with ⟨earlier, made, length, transient⟩
  have madeLength : run.made.length = retries + 1 := by
    simp [made, length]
  refine ⟨counted.request, ?_, ?_, ⟨earlier, made, transient⟩, success, failure⟩
  · rw [madeLength, ← counted.attempts]
    exact sameAttempts
  · rw [madeLength]
    exact counted.countdowns

theorem ended_giveUp (counted : Counted run retries attempt) (event : String)
    (raised : attempt.raised = some (place, exc)) (calm : attempt.interrupted = none) :
    Ended (task.giveUp run attempt exc event) attempt := by
  have sameAttempts : (run.job.markFailed attempt.failedAt exc.text attempt.failedAfterMs
      true).attempts = run.job.attempts := rfl
  rw [ProcessAssessmentTask.giveUp, calm]
  apply ended_of_counted counted sameAttempts
  · intro succeeds
    exact absurd succeeds (not_succeeds raised)
  · simp [Job.markFailed, counted.deadLetters]

/-- A failure while the job is running that is not the end of the task leads to the next retry. -/
theorem waiting_retry (counted : Counted run retries attempt)
    (unfinished : run.job.status ≠ .completed) (raised : attempt.raised = some (place, exc))
    (calm : attempt.interrupted = none) (transient : ¬ isDefinitiveError exc = true) :
    Waiting (ProcessAssessmentTask.retry run retries attempt exc) (retries + 1) := by
  rcases counted.made with ⟨earlier, made, length, earlierTransient⟩
  have positive : 1 ≤ 2 ^ retries := Nat.one_le_two_pow
  rw [ProcessAssessmentTask.retry, calm]
  refine ⟨rfl, Job.status_markPendingRetry unfinished _, ?_, counted.deadLetters, ?_, ?_, ?_⟩
  · simp [counted.attempts]
  · simp [counted.countdowns, List.range_succ, positive]
  · simp [made, length]
  · intro other otherMem
    rw [made] at otherMem
    rcases List.mem_append.mp otherMem with otherMem | isLast
    · exact earlierTransient other otherMem
    · rw [List.mem_singleton.mp isLast]
      rintro ⟨failure, isFailure, definitive⟩
      cases raised.symm.trans isFailure
      exact transient definitive

/-- An orderly failure leads to the next retry or to the end. -/
theorem handleFailure_of_orderly (waiting : Waiting run retries)
    (raised : attempt.raised = some (place, exc)) (orderly : task.Orderly retries attempt)
    (event : String) :
    let failed := task.handleFailure (task.attempted run attempt) retries attempt exc event
    Ended failed attempt ∨ retries < task.maxRetries.getD 0 ∧ Waiting failed (retries + 1) := by
  rcases orderly (place, exc) raised with ⟨calm, inTime⟩
  have counted : Counted (task.attempted run attempt) retries attempt := by
    apply counted_attempted waiting
    intro failure isFailure
    cases raised.symm.trans isFailure
    exact inTime.imp id And.left
  simp only [handleFailure_eq]
  split_ifs with givesUp
  · exact Or.inl (ended_giveUp counted event raised calm)
  · have isRunning : place = .running := inTime.resolve_right fun late => givesUp late.2
    rw [ProcessAssessmentTask.GivesUp, not_or, not_le] at givesUp
    refine Or.inr ⟨givesUp.2, waiting_retry counted ?_ raised calm givesUp.1⟩
    have unfinished : run.job.status ≠ .completed := by
      simp [waiting.status]
    simp [ProcessAssessmentTask.attempted, ProcessAssessmentTask.reach, raised, isRunning,
      Job.status_markRunning unfinished]

/-- An orderly execution that is due leads to the next retry or to the end. -/
theorem execute_of_waiting (waiting : Waiting run retries)
    (orderly : task.Orderly retries attempt) :
    Ended (task.execute run attempt) attempt ∨
      retries < task.maxRetries.getD 0 ∧ Waiting (task.execute run attempt) (retries + 1) := by
  rw [ProcessAssessmentTask.execute, waiting.request]
  dsimp only
  cases raised : attempt.raised with
  | none =>
      have counted : Counted (task.attempted run attempt) retries attempt := by
        apply counted_attempted waiting
        simp [raised]
      refine Or.inl (ended_of_counted counted rfl ?_ ?_)
      · intro _
        refine ⟨?_, counted.deadLetters⟩
        simp [ProcessAssessmentTask.reach, raised, Job.markCompleted]
      · intro failure
        exact absurd raised failure
  | some failure =>
      rcases failure with ⟨place, exc⟩
      have begun : place ≠ .beforeTry := by
        rintro rfl
        rcases orderly _ raised with ⟨-, isRunning | ⟨isCompleted, -⟩⟩
        · cases isRunning
        · cases isCompleted
      dsimp only
      rw [if_neg begun]
      split_ifs
      · exact handleFailure_of_orderly waiting raised orderly "score_job_timeout"
      · exact handleFailure_of_orderly waiting raised orderly "score_job_failed"

/-- A task that is due comes to its end with one of the next attempts, of which there are no more
than retries left and one. -/
theorem exists_ended_of_waiting (waiting : Waiting run retries) {attempts : List Attempt}
    (inOrder : Along task.execute task.InOrder run attempts)
    (within : retries ≤ task.maxRetries.getD 0)
    (enough : task.maxRetries.getD 0 < retries + attempts.length) :
    ∃ earlier last later, attempts = earlier ++ last :: later ∧
      retries + earlier.length ≤ task.maxRetries.getD 0 ∧
      (Runs.run task.execute run attempts).made = run.made ++ earlier ++ [last] ∧
      Ended (Runs.run task.execute run attempts) last := by
  induction attempts generalizing run retries with
  | nil =>
      rw [List.length_nil] at enough
      omega
  | cons attempt rest ih =>
      rcases inOrder with ⟨first, inOrder⟩
      have made : (task.execute run attempt).made = run.made ++ [attempt] :=
        made_execute waiting.request
      rw [List.length_cons] at enough
      rcases execute_of_waiting waiting (first retries waiting.request) with
        ended | ⟨left, waiting⟩
      · refine ⟨[], attempt, rest, rfl, within, ?_, ?_⟩
        · rw [run_cons, run_of_idle ended.request, made, List.append_nil]
        · rw [run_cons, run_of_idle ended.request]
          exact ended
      · rcases ih waiting inOrder (by omega) (by omega) with
          ⟨earlier, last, later, split, bounded, laterMade, ended⟩
        refine ⟨attempt :: earlier, last, later, by simp [split], ?_, ?_, ended⟩
        · rw [List.length_cons]
          omega
        · rw [run_cons, laterMade, made]
          simp

end Execution

/-- The task has left its course: an attempt was not counted, the task is repeated for a completed
job, or it has come to an end that its last attempt does not decide. -/
inductive Astray (run : TaskRun) : Prop where
  | miscounted (short : run.job.attempts < run.made.length)
  | repeated (completed : run.job.status = .completed) (due : run.request ≠ none)
      (counted : run.job.attempts ≤ run.made.length)
  | stranded (idle : run.request = none) (inconclusive : ¬ run.Concluded)

section Astray

variable {task : ProcessAssessmentTask} {run : TaskRun} {retries : ℕ} {attempt : Attempt}

theorem astray_execute (astray : Astray run) (attempt : Attempt) :
    Astray (task.execute run attempt) := by
  cases due : run.request with
  | none => rwa [execute_of_idle due]
  | some retries =>
      apply Astray.miscounted
      rw [attempts_execute due, made_execute due, List.length_append, List.length_singleton]
      cases astray with
      | miscounted short =>
          have counted : (task.reach run.job attempt (attempt.raised.map Prod.fst)).attempts ≤
              run.job.attempts + 1 := attempts_reach_le run.job _
          omega
      | repeated completed _ counted =>
          rw [attempts_reach_of_completed completed]
          omega
      | stranded idle => cases idle.symm.trans due

/-- A failed attempt is not the end of a task without a dead letter. -/
theorem astray_of_silent (idle : run.request = none) {earlier : List Attempt}
    (made : run.made = earlier ++ [attempt]) (failure : ¬ attempt.Succeeds)
    (silent : run.deadLetters = []) : Astray run := by
  apply Astray.stranded idle
  rintro ⟨others, last, isLast, concluded⟩
  rw [made] at isLast
  rcases List.append_inj' isLast rfl with ⟨-, same⟩
  cases same
  rcases concluded with ⟨success, -⟩ | ⟨-, -, sent⟩
  · exact failure success
  · simp [silent] at sent

/-- A task is repeated for a job that was completed before the failure. -/
theorem astray_of_late_failure (waiting : Waiting run retries) {exc : RaisedException}
    (raised : attempt.raised = some (.completed, exc)) (calm : attempt.interrupted = none)
    (left : ¬ task.GivesUp retries exc) (event : String) :
    Astray (task.handleFailure (task.attempted run attempt) retries attempt exc event) := by
  have counted : Counted (task.attempted run attempt) retries attempt := by
    apply counted_attempted waiting
    simp [raised]
  rcases counted.made with ⟨earlier, made, length, -⟩
  have completed : (task.attempted run attempt).job.status = .completed := by
    simp [ProcessAssessmentTask.attempted, ProcessAssessmentTask.reach, raised, Job.markCompleted]
  rw [handleFailure_eq, if_neg left, ProcessAssessmentTask.retry, calm]
  apply Astray.repeated
  · simp [Job.markPendingRetry, completed]
  · simp
  · simp [counted.attempts, made, length]

theorem astray_of_not_orderly (waiting : Waiting run retries)
    (disorderly : ¬ task.Orderly retries attempt) : Astray (task.execute run attempt) := by
  have made : (task.execute run attempt).made = run.made ++ [attempt] :=
    made_execute waiting.request
  cases raised : attempt.raised with
  | none => exact absurd (by simp [ProcessAssessmentTask.Orderly, raised]) disorderly
  | some failure =>
      rcases failure with ⟨place, exc⟩
      have failure : ¬ attempt.Succeeds := not_succeeds raised
      simp only [ProcessAssessmentTask.Orderly, raised, Option.mem_some_iff, forall_eq']
        at disorderly
      by_cases begun : place = .beforeTry
      · have executed : task.execute run attempt = task.attempted run attempt := by
          simp [ProcessAssessmentTask.execute, waiting.request, raised, begun]
        rw [executed] at made ⊢
        exact astray_of_silent rfl made failure waiting.deadLetters
      · have executed : ∃ event, task.execute run attempt =
            task.handleFailure (task.attempted run attempt) retries attempt exc event := by
          rw [ProcessAssessmentTask.execute, waiting.request, raised]
          dsimp only
          rw [if_neg begun]
          split_ifs
          · exact ⟨_, rfl⟩
          · exact ⟨_, rfl⟩
        rcases executed with ⟨event, executed⟩
        by_cases calm : attempt.interrupted = none
        · cases place with
          | beforeTry => exact absurd rfl begun
          | beforeRunning =>
              apply Astray.miscounted
              rw [attempts_execute waiting.request, made, raised]
              simp [ProcessAssessmentTask.reach, waiting.attempts, waiting.made]
          | running => exact absurd ⟨calm, Or.inl rfl⟩ disorderly
          | completed =>
              rw [executed]
              apply astray_of_late_failure waiting raised calm
              intro givesUp
              exact disorderly ⟨calm, Or.inr ⟨rfl, givesUp⟩⟩
        · rw [executed] at made ⊢
          rcases handleFailure_of_interrupted calm with ⟨idle, silent⟩
          exact astray_of_silent (idle.trans rfl) made failure (silent.trans waiting.deadLetters)

theorem not_runsToItsEnd_of_astray {maxRetries : ℕ} {attempts : List Attempt}
    (astray : Astray run) : ¬ RunsToItsEnd maxRetries attempts run := by
  intro runs
  cases astray with
  | miscounted short => exact absurd runs.attempts (Nat.ne_of_lt short)
  | repeated completed due counted => exact due runs.request
  | stranded idle inconclusive => exact inconclusive runs.ended

end Astray

section Runs

variable {task : ProcessAssessmentTask} {job : Job} {attempts : List Attempt}

theorem waiting_sent (pending : job.status = .pending) (unattempted : job.attempts = 0) :
    Waiting (TaskRun.sent job) 0 :=
  ⟨rfl, pending, unattempted, rfl, rfl, rfl, by simp [TaskRun.sent]⟩

/-- With enough attempts to come, a task whose executions are all in order runs to its end. -/
theorem runsToItsEnd_of_inOrder (pending : job.status = .pending)
    (unattempted : job.attempts = 0) (enough : task.maxRetries.getD 0 < attempts.length)
    (inOrder : Along task.execute task.InOrder (TaskRun.sent job) attempts) :
    RunsToItsEnd (task.maxRetries.getD 0) attempts
      (Runs.run task.execute (TaskRun.sent job) attempts) := by
  have waiting : Waiting (TaskRun.sent job) 0 := waiting_sent pending unattempted
  rcases exists_ended_of_waiting waiting inOrder (by omega) (by omega) with
    ⟨earlier, last, later, split, bounded, made, ended⟩
  have isMade : (Runs.run task.execute (TaskRun.sent job) attempts).made = earlier ++ [last] := by
    simpa [TaskRun.sent] using made
  constructor
  · exact ended.request
  · rw [isMade, split]
    exact ⟨later, by simp⟩
  · rw [isMade, List.length_append, List.length_singleton]
    omega
  · exact ended.attempts
  · exact ended.countdowns
  · intro before attempt after splits good
    rcases ended.made with ⟨others, isOthers, transient⟩
    by_contra more
    rcases List.eq_nil_or_concat after with isNil | ⟨front, final, rfl⟩
    · exact more isNil
    · apply transient attempt _ good
      have same : others ++ [last] = (before ++ attempt :: front) ++ [final] := by
        rw [← isOthers, splits]
        simp
      rw [(List.append_inj' same rfl).1]
      simp
  · refine ⟨earlier, last, isMade, ?_⟩
    by_cases success : last.Succeeds
    · exact Or.inl ⟨success, ended.success success⟩
    · exact Or.inr ⟨success, ended.failure success⟩

/-- A task with an execution out of order goes astray and stays so. -/
theorem astray_of_not_inOrder (pending : job.status = .pending) (unattempted : job.attempts = 0)
    (disorderly : ¬ Along task.execute task.InOrder (TaskRun.sent job) attempts) :
    Astray (Runs.run task.execute (TaskRun.sent job) attempts) := by
  have keep : ∀ run attempt, (run.request = none ∨ ∃ retries, Waiting run retries) →
      task.InOrder run attempt → (task.execute run attempt).request = none ∨
        ∃ retries, Waiting (task.execute run attempt) retries := by
    rintro run attempt (idle | ⟨retries, waiting⟩) inOrder
    · rw [execute_of_idle idle]
      exact Or.inl idle
    · rcases execute_of_waiting waiting (inOrder retries waiting.request) with
        ended | ⟨-, waiting⟩
      · exact Or.inl ended.request
      · exact Or.inr ⟨retries + 1, waiting⟩
  have spoil : ∀ run attempt, (run.request = none ∨ ∃ retries, Waiting run retries) →
      ¬ task.InOrder run attempt → Astray (task.execute run attempt) := by
    rintro run attempt (idle | ⟨retries, waiting⟩) outOfOrder
    · exact absurd (by simp [ProcessAssessmentTask.InOrder, idle]) outOfOrder
    · apply astray_of_not_orderly waiting
      intro orderly
      apply outOfOrder
      intro due isDue
      cases waiting.request.symm.trans isDue
      exact orderly
  have absorbing : ∀ run attempt, Astray run → Astray (task.execute run attempt) :=
    fun run attempt astray => astray_execute astray attempt
  exact run_bad_of_not_along keep spoil absorbing
    (Or.inr ⟨0, waiting_sent pending unattempted⟩) disorderly

end Runs

/-- With enough attempts to come, a task runs to its end exactly if all its executions are in
order. -/
theorem processAssessmentTask_runsToItsEnd_iff (task : ProcessAssessmentTask) {job : Job}
    (pending : job.status = .pending) (unattempted : job.attempts = 0) {attempts : List Attempt}
    (enough : task.maxRetries.getD 0 < attempts.length) :
    RunsToItsEnd (task.maxRetries.getD 0) attempts
        (Runs.run task.execute (TaskRun.sent job) attempts) ↔
      Along task.execute task.InOrder (TaskRun.sent job) attempts := by
  constructor
  · intro runs
    by_contra disorderly
    exact not_runsToItsEnd_of_astray (astray_of_not_inOrder pending unattempted disorderly) runs
  · exact runsToItsEnd_of_inOrder pending unattempted enough

def sampleTask : ProcessAssessmentTask := ⟨some 1, 31, none⟩

def samplePendingJob : Job := ⟨.pending, 0, none, none, none, none, none⟩

def softTimeLimit : RaisedException :=
  ⟨fun exceptionClass => exceptionClass = .softTimeLimitExceeded, "SoftTimeLimitExceeded()"⟩

/-- The execution runs into its soft time limit. -/
def timedOut (place : Place) : Attempt :=
  ⟨0, some (place, softTimeLimit), 59000, 59, none, 60000, 60⟩

def succeeded : Attempt := ⟨100, none, 1000, 101, none, 1000, 101⟩

theorem processAssessmentTask_runsToItsEnd_iff_sample :
    RunsToItsEnd 1 [timedOut .running, timedOut .completed]
      (Runs.run sampleTask.execute (TaskRun.sent samplePendingJob)
        [timedOut .running, timedOut .completed]) := by
  apply (processAssessmentTask_runsToItsEnd_iff sampleTask rfl rfl (by decide)).mpr
  refine ⟨?_, ?_, trivial⟩
  · intro retries due
    cases due
    rintro failure ⟨⟩
    exact ⟨rfl, Or.inl rfl⟩
  · intro retries due
    cases due
    rintro failure ⟨⟩
    exact ⟨rfl, Or.inr ⟨rfl, by decide⟩⟩

/-- The limit is reached after the commit of `mark_completed`: the task is repeated, and the second
attempt is not counted. -/
theorem second_attempt_not_counted :
    let attempts := [timedOut .completed, succeeded]
    let run := Runs.run sampleTask.execute (TaskRun.sent samplePendingJob) attempts
    run.made.length = 2 ∧ run.job.attempts = 1 ∧ ¬ RunsToItsEnd 1 attempts run := by
  refine ⟨by decide, by decide, ?_⟩
  intro runs
  exact absurd runs.attempts (by decide)

end ImigrAI.Assessments.Tasks
