import ImigrAI.Common.Jobs
import ImigrAI.Foundations.Runs

/-!
# The runs of a job

Any sequence of writes to one job, by any workers: each of them locks the row. A job that is
completed may still be marked as failed, and a job that has failed keeps the time of its end when
it is queued again.
-/

namespace ImigrAI.Common

open Python Runs

inductive JobOperation where
  | markRunning (traceId : Option String)
  | markPendingRetry (errorMessage : String)
  | markCompleted (durationMs : ℤ)
  | markFailed (errorMessage : String) (durationMs : ℤ) (deadLetter : Bool)
deriving DecidableEq

/-- A write with the reading of the clock while the row is locked. -/
structure JobCall where
  now : Instant
  operation : JobOperation
deriving DecidableEq

namespace Job

/-- The row that `get_or_create_job` adds. -/
def created (traceId : Option String) : Job where
  status := .pending
  attempts := 0
  lastError := none
  traceId := traceId
  durationMs := none
  startedAt := none
  completedAt := none

def call (job : Job) (call : JobCall) : Job :=
  match call.operation with
  | .markRunning traceId => job.markRunning call.now traceId
  | .markPendingRetry errorMessage => job.markPendingRetry errorMessage
  | .markCompleted durationMs => job.markCompleted call.now durationMs
  | .markFailed errorMessage durationMs deadLetter =>
      job.markFailed call.now errorMessage durationMs deadLetter

end Job

namespace JobOperation

def Fails : JobOperation → Prop
  | .markFailed _ _ _ => True
  | _ => False

/-- The job is to be executed again. -/
def Requeues : JobOperation → Prop
  | .markRunning _ | .markPendingRetry _ => True
  | _ => False

instance : DecidablePred Fails
  | .markRunning _ | .markPendingRetry _ | .markCompleted _ => isFalse id
  | .markFailed _ _ _ => isTrue trivial

instance : DecidablePred Requeues
  | .markRunning _ | .markPendingRetry _ => isTrue trivial
  | .markCompleted _ | .markFailed _ _ _ => isFalse id

end JobOperation

/-- The job is completed, without an error. -/
def Final (job : Job) : Prop := job.status = .completed ∧ job.lastError = none

instance : DecidablePred Final := fun _ => inferInstanceAs (Decidable (_ ∧ _))

/-- A failure is not written to a completed job. -/
def FailsUnlessCompleted (job : Job) (call : JobCall) : Prop :=
  job.status = .completed → ¬ call.operation.Fails

/-- From a state of the run in which the job is completed on, it is completed without an error. -/
def StaysCompleted (job : Job) (calls : List JobCall) : Prop :=
  ∀ earlier later rest, calls = earlier ++ later ++ rest →
    (run Job.call job earlier).status = .completed → Final (run Job.call job (earlier ++ later))

section Completed

variable {job : Job} {call : JobCall}

/-- A job is completed without an error only. -/
def CompletedWithoutError (job : Job) : Prop := job.status = .completed → job.lastError = none

theorem completedWithoutError_call (job : Job) (call : JobCall)
    (sound : CompletedWithoutError job) : CompletedWithoutError (job.call call) := by
  intro completed
  rcases call with ⟨now, operation⟩
  cases operation with
  | markRunning traceId =>
      by_cases already : job.status = .completed
      · simp [Job.call, Job.markRunning, already, sound already]
      · simp [Job.call, Job.markRunning, already] at completed
  | markPendingRetry errorMessage =>
      by_cases already : job.status = .completed
      · simp [Job.call, Job.markPendingRetry, already, sound already]
      · simp [Job.call, Job.markPendingRetry, already] at completed
  | markCompleted durationMs => rfl
  | markFailed errorMessage durationMs deadLetter =>
      cases deadLetter <;> simp [Job.call, Job.markFailed] at completed

/-- What keeps a completed job completed. -/
theorem final_call_iff (final : Final job) :
    Final (job.call call) ↔ ¬ call.operation.Fails := by
  rcases call with ⟨now, operation⟩
  cases operation with
  | markRunning traceId =>
      simp [Job.call, Job.markRunning, final.1, final, JobOperation.Fails]
  | markPendingRetry errorMessage =>
      simp [Job.call, Job.markPendingRetry, final.1, final, JobOperation.Fails]
  | markCompleted durationMs => simp [Job.call, Job.markCompleted, Final, JobOperation.Fails]
  | markFailed errorMessage durationMs deadLetter =>
      simp [Job.call, Job.markFailed, Final, JobOperation.Fails]

end Completed

/-- A completed job stays so in exactly the runs in which no failure is written to it then. -/
theorem staysCompleted_iff (traceId : Option String) (calls : List JobCall) :
    StaysCompleted (.created traceId) calls ↔
      Along Job.call FailsUnlessCompleted (.created traceId) calls := by
  have initial : CompletedWithoutError (.created traceId) := fun _ => rfl
  have final_iff (earlier : List JobCall) :
      (run Job.call (.created traceId) earlier).status = .completed ↔
        Final (run Job.call (.created traceId) earlier) := by
    have sound := invariant_run completedWithoutError_call initial earlier
    exact ⟨fun completed => ⟨completed, sound completed⟩, And.left⟩
  have persists : StaysCompleted (.created traceId) calls ↔
      Persists Job.call Final (.created traceId) calls := by
    apply forall_congr'
    intro earlier
    rw [final_iff earlier]
  rw [persists, persists_iff_along_of_invariant completedWithoutError_call
    (fun job call _ final => final_call_iff final) initial]
  apply along_iff_along fun job call sound _ => completedWithoutError_call job call sound
  · intro job call sound
    constructor
    · intro met completed
      exact met ⟨completed, sound completed⟩
    · intro met final
      exact met final.1
  · exact initial

/-- The job is marked as failed after its completion was committed. -/
theorem failure_after_completion :
    ¬ StaysCompleted (.created none) [⟨0, .markRunning none⟩, ⟨10, .markCompleted 10⟩,
      ⟨20, .markFailed "SoftTimeLimitExceeded()" 20 true⟩] := by
  intro stays
  have final := stays [⟨0, .markRunning none⟩, ⟨10, .markCompleted 10⟩]
    [⟨20, .markFailed "SoftTimeLimitExceeded()" 20 true⟩] [] rfl rfl
  cases final.1

def Unsuccessful (status : JobStatus) : Prop := status = .failed ∨ status = .deadLetter

def Ended (status : JobStatus) : Prop := status = .completed ∨ Unsuccessful status

/-- The job has a time of its end exactly if it has ended, and it has not ended before it was
started. -/
structure Timed (job : Job) : Prop where
  completedAt : job.completedAt.isSome ↔ Ended job.status
  ordered : ∀ startedAt ∈ job.startedAt, ∀ completedAt ∈ job.completedAt, startedAt ≤ completedAt

/-- A job that has failed is not executed again. -/
def FailsForGood (job : Job) (call : JobCall) : Prop :=
  Unsuccessful job.status → ¬ call.operation.Requeues

section Ends

variable {job : Job} {call : JobCall}

theorem mem_startedAt_call {startedAt : Instant} (mem : startedAt ∈ (job.call call).startedAt) :
    startedAt ∈ job.startedAt ∨ startedAt = call.now := by
  rcases call with ⟨now, operation⟩
  have ended (started : some (job.startedAt.getD now) = some startedAt) :
      startedAt ∈ job.startedAt ∨ startedAt = now := by
    cases before : job.startedAt with
    | none => simp_all
    | some earlier => simp_all
  cases operation with
  | markRunning traceId =>
      by_cases already : job.status = .completed
      · simp only [Job.call, Job.markRunning, already, ne_eq, not_true, if_false] at mem
        exact Or.inl mem
      · simp [Job.call, Job.markRunning, already] at mem
        exact Or.inr mem.symm
  | markPendingRetry errorMessage =>
      simp only [Job.call, Job.markPendingRetry] at mem
      split_ifs at mem
      · exact Or.inl mem
      · exact Or.inl mem
  | markCompleted durationMs => exact ended mem
  | markFailed errorMessage durationMs deadLetter => exact ended mem

/-- A job that is not executed any more has no time of an end. -/
theorem timed_running_iff (timed : Timed job) (unfinished : job.status ≠ .completed)
    {changed : Job} (completedAt : changed.completedAt = job.completedAt)
    (status : ¬ Ended changed.status) : Timed changed ↔ ¬ Unsuccessful job.status := by
  have ended : Ended job.status ↔ Unsuccessful job.status := by simp [Ended, unfinished]
  constructor
  · intro changedTimed unsuccessful
    apply status
    rw [← changedTimed.completedAt, completedAt, timed.completedAt]
    exact ended.mpr unsuccessful
  · intro successful
    have none : job.completedAt = none := by
      rw [← Option.not_isSome_iff_eq_none, timed.completedAt, ended]
      exact successful
    refine ⟨?_, ?_⟩
    · simp [completedAt, none, status]
    · simp [completedAt, none]

theorem timed_ended {changed : Job} (started : ∀ startedAt ∈ job.startedAt, startedAt ≤ call.now)
    (status : Ended changed.status) (completedAt : changed.completedAt = some call.now)
    (startedAt : changed.startedAt = some (job.startedAt.getD call.now)) : Timed changed := by
  refine ⟨by simp [completedAt, status], ?_⟩
  intro start isStart finish isFinish
  rw [startedAt, Option.mem_some_iff] at isStart
  rw [completedAt, Option.mem_some_iff] at isFinish
  subst isStart isFinish
  cases before : job.startedAt with
  | none => exact le_refl _
  | some earlier => exact started earlier before

theorem timed_call_iff (timed : Timed job)
    (started : ∀ startedAt ∈ job.startedAt, startedAt ≤ call.now) :
    Timed (job.call call) ↔ FailsForGood job call := by
  have notEnded : ¬ Ended .running ∧ ¬ Ended .pending := by simp [Ended, Unsuccessful]
  have requeue {changed : Job} (requeued : call.operation.Requeues)
      (unchanged : job.status = .completed → changed = job)
      (completedAt : changed.completedAt = job.completedAt)
      (status : job.status ≠ .completed → ¬ Ended changed.status) :
      Timed changed ↔ FailsForGood job call := by
    by_cases completed : job.status = .completed
    · rw [unchanged completed]
      exact iff_of_true timed fun unsuccessful => by simp [Unsuccessful, completed] at unsuccessful
    · rw [timed_running_iff timed completed completedAt (status completed)]
      simp [FailsForGood, requeued]
  rcases call with ⟨now, operation⟩
  cases operation with
  | markRunning traceId =>
      apply requeue trivial
      · intro completed
        simp [Job.call, Job.markRunning, completed]
      · simp only [Job.call, Job.markRunning]
        split_ifs <;> rfl
      · intro unfinished
        simp [Job.call, Job.markRunning, unfinished, notEnded]
  | markPendingRetry errorMessage =>
      apply requeue trivial
      · intro completed
        simp [Job.call, Job.markPendingRetry, completed]
      · simp only [Job.call, Job.markPendingRetry]
        split_ifs <;> rfl
      · intro unfinished
        simp [Job.call, Job.markPendingRetry, unfinished, notEnded]
  | markCompleted durationMs =>
      exact iff_of_true (timed_ended started (Or.inl rfl) rfl rfl) fun _ impossible => impossible
  | markFailed errorMessage durationMs deadLetter =>
      refine iff_of_true (timed_ended started (Or.inr ?_) rfl rfl) fun _ impossible => impossible
      cases deadLetter
      · exact Or.inl rfl
      · exact Or.inr rfl

theorem states_timed_iff (timed : Timed job) {calls : List JobCall}
    (sorted : (calls.map (·.now)).Pairwise (· ≤ ·))
    (started : ∀ startedAt ∈ job.startedAt, ∀ call ∈ calls, startedAt ≤ call.now) :
    (∀ visited ∈ states Job.call job calls, Timed visited) ↔
      Along Job.call FailsForGood job calls := by
  induction calls generalizing job with
  | nil => simpa using timed
  | cons call rest ih =>
      rw [List.map_cons, List.pairwise_cons] at sorted
      have first := timed_call_iff timed fun startedAt isStarted =>
        started startedAt isStarted call List.mem_cons_self
      simp only [states_cons, List.forall_mem_cons, timed, true_and, along_cons]
      constructor
      · intro visits
        have timedAfter := visits _ (self_mem_states _ _)
        refine ⟨first.mp timedAfter, (ih timedAfter sorted.2 ?_).mp visits⟩
        intro startedAt isStarted later laterMem
        rcases mem_startedAt_call isStarted with earlier | rfl
        · exact started startedAt earlier later (List.mem_cons_of_mem _ laterMem)
        · exact sorted.1 later.now (List.mem_map_of_mem laterMem)
      · rintro ⟨met, along⟩
        refine (ih (first.mpr met) sorted.2 ?_).mpr along
        intro startedAt isStarted later laterMem
        rcases mem_startedAt_call isStarted with earlier | rfl
        · exact started startedAt earlier later (List.mem_cons_of_mem _ laterMem)
        · exact sorted.1 later.now (List.mem_map_of_mem laterMem)

end Ends

/-- The times of a job are right after every write in exactly the runs in which a job that has
failed is not queued again. -/
theorem timed_iff_failsForGood (traceId : Option String) {calls : List JobCall}
    (sorted : (calls.map (·.now)).Pairwise (· ≤ ·)) :
    (∀ visited ∈ states Job.call (.created traceId) calls, Timed visited) ↔
      Along Job.call FailsForGood (.created traceId) calls := by
  apply states_timed_iff _ sorted
  · intro startedAt isStarted
    cases isStarted
  · constructor
    · simp [Job.created, Ended, Unsuccessful]
    · intro startedAt isStarted
      cases isStarted

theorem timed_retried :
    (states Job.call (.created none) [⟨0, .markRunning none⟩,
      ⟨10, .markPendingRetry "TimeoutError()"⟩, ⟨20, .markRunning none⟩,
      ⟨30, .markCompleted 10⟩]).Forall Timed := by
  apply List.forall_iff_forall_mem.mpr
  apply (timed_iff_failsForGood none (by decide)).mpr
  simp [FailsForGood, Unsuccessful, Job.call, Job.created, Job.markRunning, Job.markPendingRetry]

/-- A job that was dead-lettered and is executed again keeps the time of its first end. -/
theorem running_with_completedAt :
    ¬ ∀ visited ∈ states Job.call (.created none) [⟨0, .markRunning none⟩,
      ⟨10, .markFailed "ValueError()" 10 true⟩, ⟨20, .markRunning none⟩], Timed visited := by
  intro timed
  have last := timed _ (run_mem_states _ _)
  have ended := last.completedAt.mp rfl
  simp [Ended, Unsuccessful, Job.call, Job.created, Job.markRunning, Job.markFailed] at ended

end ImigrAI.Common
