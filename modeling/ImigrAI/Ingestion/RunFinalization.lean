import ImigrAI.Foundations.Runs
import ImigrAI.Ingestion.Pipeline
import Mathlib.Data.List.FinRange

/-!
# Finalising a run

Every worker of a run commits the terminal status of its item and then executes `finalize_run`,
which reads the run, reads the items and writes the row without a lock. An update names the
columns that differ from what was loaded. The status comes out right in every interleaving; a
counter does not when a worker that has read unfinished items writes last.
-/

namespace ImigrAI.Ingestion.Finalization

open Runs Function
open Pipeline (IngestionRunItemStatus)

inductive IngestionRunStatus where
  | pending
  | running
  | completed
  | failed
deriving DecidableEq

inductive Counter where
  | processedItems
  | successItems
  | failedItems
deriving DecidableEq

/-- The columns that `finalize_run` writes, but for the instant of completion. -/
structure IngestionRun where
  status : IngestionRunStatus
  counters : Counter → ℕ
  notes : Option String

/-- The statuses that `finalize_run` counts as a success. -/
def Succeeded (status : IngestionRunItemStatus) : Prop :=
  status = .completed ∨ status = .skipped ∨ status = .manualReview

def Failed (status : IngestionRunItemStatus) : Prop :=
  status = .failed ∨ status = .quarantined

def Unfinished (status : IngestionRunItemStatus) : Prop :=
  status = .pending ∨ status = .running

instance : DecidablePred Succeeded := fun _ => inferInstanceAs (Decidable (_ ∨ _ ∨ _))

instance : DecidablePred Failed := fun _ => inferInstanceAs (Decidable (_ ∨ _))

instance : DecidablePred Unfinished := fun _ => inferInstanceAs (Decidable (_ ∨ _))

/-- What `finalize_run` counts. -/
structure Tally where
  successItems : ℕ
  failedItems : ℕ
  pendingItems : ℕ
deriving DecidableEq

def Tally.counters (tally : Tally) : Counter → ℕ
  | .processedItems => tally.successItems + tally.failedItems
  | .successItems => tally.successItems
  | .failedItems => tally.failedItems

/-- The row after the assignments of `finalize_run`, in its early return and in
`mark_run_completed`. -/
def assigned (run : IngestionRun) (tally : Tally) : IngestionRun :=
  if 0 < tally.pendingItems then
    { run with counters := tally.counters, status := .running }
  else
    { status := if tally.failedItems = 0 then .completed else .failed
      counters := tally.counters
      notes := if tally.failedItems = 0 then none
        else "Run completed with failures and/or quarantined sources." }

/-- The update of a column, which is left out when the value is the one that was loaded. -/
def column {Column : Type} [DecidableEq Column] (loaded new current : Column) : Column :=
  if new = loaded then current else new

/-- The row after the update of a session that has loaded it and assigned new values. -/
def written (loaded new current : IngestionRun) : IngestionRun where
  status := column loaded.status new.status current.status
  counters counter := column (loaded.counters counter) (new.counters counter)
    (current.counters counter)
  notes := column loaded.notes new.notes current.notes

section Columns

variable {Column : Type} [DecidableEq Column] {loaded new current : Column}

theorem column_eq_new_iff :
    column loaded new current = new ↔ (new = loaded → current = loaded) := by
  rw [column]
  split_ifs with same
  · simp [same]
  · simp [same]

theorem column_eq_current_iff :
    column loaded new current = current ↔ (new ≠ loaded → new = current) := by
  rw [column]
  split_ifs with same
  · simp [same]
  · simp [same]

end Columns

/-- How far a worker has come with its item. -/
inductive Phase where
  | waiting
  /-- It has loaded the item with the status of the run. -/
  | opened (runStatus : IngestionRunStatus)
  | processing
  | committed
  | loaded (run : IngestionRun)
  | counted (run : IngestionRun) (tally : Tally)
  | finished

section Workers

variable {n : ℕ}

structure State (n : ℕ) where
  run : IngestionRun
  items : Fin (n + 1) → IngestionRunItemStatus
  phases : Fin (n + 1) → Phase

def initial (n : ℕ) : State n where
  run := ⟨.pending, fun _ => 0, none⟩
  items _ := .pending
  phases _ := .waiting

/-- What a worker ends its item with. -/
abbrev Outcome := {status : IngestionRunItemStatus // ¬ Unfinished status}

/-- How many items of `list_run_items` have one of the statuses. -/
def count (items : Fin (n + 1) → IngestionRunItemStatus) (counts : IngestionRunItemStatus → Prop)
    [DecidablePred counts] : ℕ :=
  (List.finRange (n + 1)).countP fun worker => counts (items worker)

def tallyOf (items : Fin (n + 1) → IngestionRunItemStatus) : Tally where
  successItems := count items Succeeded
  failedItems := count items Failed
  pendingItems := count items Unfinished

/-- `mark_run_running`, for a session that has loaded the run as pending. -/
def markRunning (runStatus : IngestionRunStatus) (run : IngestionRun) : IngestionRun :=
  if runStatus = .pending then { run with status := .running } else run

def change (state : State n) (worker : Fin (n + 1)) (run : IngestionRun)
    (status : IngestionRunItemStatus) (phase : Phase) : State n where
  run := run
  items := update state.items worker status
  phases := update state.phases worker phase

/-- The next commit or query of a worker. -/
def step (outcomes : Fin (n + 1) → Outcome) (state : State n) (worker : Fin (n + 1)) : State n :=
  let status := state.items worker
  match state.phases worker with
  | .waiting => change state worker state.run status (.opened state.run.status)
  | .opened runStatus => change state worker (markRunning runStatus state.run) .running .processing
  | .processing => change state worker state.run (outcomes worker).val .committed
  | .committed => change state worker state.run status (.loaded state.run)
  | .loaded run => change state worker state.run status (.counted run (tallyOf state.items))
  | .counted run tally =>
      change state worker (written run (assigned run tally) state.run) status .finished
  | .finished => state

/-- Every item counts as a success, as a failure or as pending. -/
theorem tallyOf_total (items : Fin (n + 1) → IngestionRunItemStatus) :
    (tallyOf items).successItems + (tallyOf items).failedItems + (tallyOf items).pendingItems =
      n + 1 := by
  have total : ∀ workers : List (Fin (n + 1)),
      workers.countP (fun worker => Succeeded (items worker)) +
        workers.countP (fun worker => Failed (items worker)) +
        workers.countP (fun worker => Unfinished (items worker)) = workers.length := by
    intro workers
    induction workers with
    | nil => rfl
    | cons worker rest ih =>
        simp only [List.countP_cons, List.length_cons, ← ih]
        cases items worker <;> simp [Succeeded, Failed, Unfinished] <;> omega
  simpa [tallyOf, count] using total (List.finRange (n + 1))

theorem pendingItems_eq_zero_iff {items : Fin (n + 1) → IngestionRunItemStatus} :
    (tallyOf items).pendingItems = 0 ↔ ∀ worker, ¬ Unfinished (items worker) := by
  simp [tallyOf, count, List.countP_eq_zero]

/-- The item of the worker has its terminal status. -/
def Phase.Terminal : Phase → Prop
  | .waiting | .opened _ | .processing => False
  | .committed | .loaded _ | .counted _ _ | .finished => True

/-- The worker has marked its item as running, and the run if need be. -/
def Phase.Begun : Phase → Prop
  | .waiting | .opened _ => False
  | .processing | .committed | .loaded _ | .counted _ _ | .finished => True

theorem Phase.Terminal.begun {phase : Phase} (isTerminal : phase.Terminal) : phase.Begun := by
  cases phase with
  | waiting => exact isTerminal
  | opened runStatus => exact isTerminal
  | _ => trivial

/-- The run has been completed, with or without failures. -/
def Closed (status : IngestionRunStatus) : Prop := status = .completed ∨ status = .failed

def AllTerminal (phases : Fin (n + 1) → Phase) : Prop := ∀ worker, (phases worker).Terminal

/-- The worker may still complete the run: it has not counted unfinished items. -/
def MayComplete : Phase → Prop
  | .counted _ tally => tally.pendingItems = 0
  | .finished => False
  | _ => True

variable (outcomes : Fin (n + 1) → Outcome)

/-- The status of a run whose items have come to these outcomes. -/
def finalStatus : IngestionRunStatus :=
  if ∃ worker, Failed (outcomes worker).val then .failed else .completed

def finalTally : Tally := tallyOf fun worker => (outcomes worker).val

/-- What a worker has read of the run and of the items. -/
def ReadsRight (current : IngestionRunStatus) (phases : Fin (n + 1) → Phase) : Phase → Prop
  | .opened runStatus => runStatus ≠ .pending → current ≠ .pending
  | .loaded run => run.status ≠ .pending ∧ (Closed run.status → Closed current)
  | .counted run tally => run.status ≠ .pending ∧ (Closed run.status → Closed current) ∧
      (if tally.pendingItems = 0 then AllTerminal phases ∧ tally = finalTally outcomes
      else ¬ Closed run.status)
  | _ => True

structure Invariant (state : State n) : Prop where
  terminal : ∀ worker, (state.phases worker).Terminal →
    state.items worker = (outcomes worker).val
  unfinished : ∀ worker, ¬ (state.phases worker).Terminal → Unfinished (state.items worker)
  begun : ∀ worker, (state.phases worker).Begun → state.run.status ≠ .pending
  closed : Closed state.run.status →
    AllTerminal state.phases ∧ state.run.status = finalStatus outcomes
  reads : ∀ worker, ReadsRight outcomes state.run.status state.phases (state.phases worker)
  unclosed : ¬ Closed state.run.status → ∃ worker, MayComplete (state.phases worker)

theorem invariant_initial : Invariant outcomes (initial n) where
  terminal _ isTerminal := isTerminal.elim
  unfinished _ _ := Or.inl rfl
  begun _ isBegun := isBegun.elim
  closed isClosed := by simp [initial, Closed] at isClosed
  reads _ := trivial
  unclosed _ := ⟨0, trivial⟩

variable {outcomes} {state : State n} {worker : Fin (n + 1)}

theorem failedItems_eq_zero_iff {items : Fin (n + 1) → IngestionRunItemStatus} :
    (tallyOf items).failedItems = 0 ↔ ∀ worker, ¬ Failed (items worker) := by
  simp [tallyOf, count, List.countP_eq_zero]

theorem closed_finalStatus : Closed (finalStatus outcomes) := by
  rw [finalStatus, Closed]
  split_ifs <;> simp

/-- The status that a session assigns which has read all items finished. -/
theorem status_assigned (run : IngestionRun) {tally : Tally} (zero : tally.pendingItems = 0)
    (final : tally = finalTally outcomes) :
    (assigned run tally).status = finalStatus outcomes := by
  have failures : tally.failedItems = 0 ↔ ¬ ∃ worker, Failed (outcomes worker).val := by
    rw [final, finalTally, failedItems_eq_zero_iff, not_exists]
  rw [assigned, if_neg (by omega), finalStatus]
  dsimp only
  by_cases failed : ∃ worker, Failed (outcomes worker).val
  · rw [if_neg fun none => failures.mp none failed, if_pos failed]
  · rw [if_pos (failures.mpr failed), if_neg failed]

theorem AllTerminal.update {phase : Phase}
    (keeps : (state.phases worker).Terminal → phase.Terminal)
    (all : AllTerminal state.phases) : AllTerminal (update state.phases worker phase) := by
  intro other
  rw [update_apply]
  split_ifs
  · exact keeps (all worker)
  · exact all other

theorem ReadsRight.mono {current later : IngestionRunStatus} {phases next : Fin (n + 1) → Phase}
    {phase : Phase} (pending : later = .pending → current = .pending)
    (closed : Closed current → Closed later) (all : AllTerminal phases → AllTerminal next)
    (reads : ReadsRight outcomes current phases phase) : ReadsRight outcomes later next phase := by
  cases phase with
  | opened runStatus =>
      intro notPending laterPending
      exact reads notPending (pending laterPending)
  | loaded run => exact ⟨reads.1, fun isClosed => closed (reads.2 isClosed)⟩
  | counted run tally =>
      rcases reads with ⟨notPending, keeps, counted⟩
      refine ⟨notPending, fun isClosed => closed (keeps isClosed), ?_⟩
      split_ifs at counted ⊢
      · exact ⟨all counted.1, counted.2⟩
      · exact counted
  | _ => trivial

namespace Invariant

/-- A step of one worker keeps the invariant if the worker and the run do. -/
theorem changed (invariant : Invariant outcomes state) {run : IngestionRun}
    {status : IngestionRunItemStatus} {phase : Phase}
    (keeps : (state.phases worker).Terminal → phase.Terminal)
    (terminal : phase.Terminal → status = (outcomes worker).val)
    (unfinished : ¬ phase.Terminal → Unfinished status)
    (begun : phase.Begun → run.status ≠ .pending)
    (pending : run.status = .pending → state.run.status = .pending)
    (stays : Closed state.run.status → Closed run.status)
    (closed : Closed run.status →
      AllTerminal (update state.phases worker phase) ∧ run.status = finalStatus outcomes)
    (reads : ReadsRight outcomes run.status (update state.phases worker phase) phase)
    (unclosed : ¬ Closed run.status →
      ∃ other, MayComplete (update state.phases worker phase other)) :
    Invariant outcomes (change state worker run status phase) where
  terminal other isTerminal := by
    simp only [change, update_apply] at isTerminal ⊢
    split_ifs at isTerminal ⊢ with same
    · rw [same]
      exact terminal isTerminal
    · exact invariant.terminal other isTerminal
  unfinished other notTerminal := by
    simp only [change, update_apply] at notTerminal ⊢
    split_ifs at notTerminal ⊢
    · exact unfinished notTerminal
    · exact invariant.unfinished other notTerminal
  begun other isBegun := by
    simp only [change, update_apply] at isBegun ⊢
    split_ifs at isBegun
    · exact begun isBegun
    · exact fun isPending => invariant.begun other isBegun (pending isPending)
  closed := closed
  reads other := by
    simp only [change]
    rw [update_apply state.phases]
    split_ifs
    · exact reads
    · exact (invariant.reads other).mono pending stays (AllTerminal.update keeps)
  unclosed := unclosed

variable (invariant : Invariant outcomes state)

include invariant

theorem not_closed (notTerminal : ¬ (state.phases worker).Terminal) :
    ¬ Closed state.run.status := by
  intro isClosed
  exact notTerminal ((invariant.closed isClosed).1 worker)

/-- A run whose items are all terminal has the final counts. -/
theorem tallyOf_eq (all : AllTerminal state.phases) : tallyOf state.items = finalTally outcomes := by
  have items : state.items = fun worker => (outcomes worker).val :=
    funext fun worker => invariant.terminal worker (all worker)
  rw [items, finalTally]

theorem unfinished_iff : Unfinished (state.items worker) ↔ ¬ (state.phases worker).Terminal := by
  constructor
  · intro unfinished isTerminal
    rw [invariant.terminal worker isTerminal] at unfinished
    exact (outcomes worker).property unfinished
  · exact invariant.unfinished worker

theorem pendingItems_eq_zero_iff_allTerminal :
    (tallyOf state.items).pendingItems = 0 ↔ AllTerminal state.phases := by
  rw [pendingItems_eq_zero_iff]
  exact forall_congr' fun _ => (not_congr invariant.unfinished_iff).trans not_not

/-- A step of a worker with a terminal item that leaves the status of the run as it is. -/
theorem settled {run : IngestionRun} {phase : Phase}
    (isTerminal : (state.phases worker).Terminal) (next : phase.Terminal)
    (same : run.status = state.run.status)
    (reads : ReadsRight outcomes run.status (update state.phases worker phase) phase)
    (unclosed : ¬ Closed state.run.status →
      ∃ other, MayComplete (update state.phases worker phase other)) :
    Invariant outcomes (change state worker run (state.items worker) phase) := by
  have keeps : (state.phases worker).Terminal → phase.Terminal := fun _ => next
  apply invariant.changed keeps
  · exact fun _ => invariant.terminal worker isTerminal
  · exact fun notTerminal => absurd next notTerminal
  · intro _
    rw [same]
    exact invariant.begun worker isTerminal.begun
  · rw [same]
    exact id
  · rw [same]
    exact id
  · rw [same]
    intro isClosed
    rcases invariant.closed isClosed with ⟨all, final⟩
    exact ⟨all.update keeps, final⟩
  · exact reads
  · rw [same]
    exact unclosed

/-- A step before the items are counted leaves the run to the worker. -/
theorem advanced {run : IngestionRun} {status : IngestionRunItemStatus} {phase : Phase}
    (keeps : (state.phases worker).Terminal → phase.Terminal)
    (terminal : phase.Terminal → status = (outcomes worker).val)
    (unfinished : ¬ phase.Terminal → Unfinished status)
    (begun : phase.Begun → run.status ≠ .pending)
    (same : run.status = state.run.status ∨
      run.status = .running ∧ ¬ (state.phases worker).Terminal)
    (reads : ReadsRight outcomes run.status (update state.phases worker phase) phase)
    (may : MayComplete phase) : Invariant outcomes (change state worker run status phase) := by
  have stays : Closed state.run.status ↔ Closed run.status := by
    rcases same with same | ⟨running, notTerminal⟩
    · rw [same]
    · exact iff_of_false (invariant.not_closed notTerminal) (by simp [running, Closed])
  apply invariant.changed keeps terminal unfinished begun
  · intro isPending
    rcases same with same | ⟨running, -⟩
    · rw [← same, isPending]
    · simp [running] at isPending
  · exact stays.mp
  · intro isClosed
    rcases invariant.closed (stays.mpr isClosed) with ⟨all, final⟩
    refine ⟨all.update keeps, ?_⟩
    rcases same with same | ⟨-, notTerminal⟩
    · rw [same, final]
    · exact absurd (all worker) notTerminal
  · exact reads
  · intro _
    exact ⟨worker, by simpa using may⟩

theorem opened (atPhase : state.phases worker = .waiting) :
    Invariant outcomes
      (change state worker state.run (state.items worker) (.opened state.run.status)) := by
  have notTerminal : ¬ (state.phases worker).Terminal := by
    simp [atPhase, Phase.Terminal]
  apply invariant.advanced
  · exact fun isTerminal => absurd isTerminal notTerminal
  · exact False.elim
  · exact fun _ => invariant.unfinished worker notTerminal
  · exact False.elim
  · exact .inl rfl
  · exact id
  · trivial

theorem marked {runStatus : IngestionRunStatus} (atPhase : state.phases worker = .opened runStatus) :
    Invariant outcomes
      (change state worker (markRunning runStatus state.run) .running .processing) := by
  have notTerminal : ¬ (state.phases worker).Terminal := by
    simp [atPhase, Phase.Terminal]
  have reads := invariant.reads worker
  rw [atPhase] at reads
  apply invariant.advanced
  · exact fun isTerminal => absurd isTerminal notTerminal
  · exact False.elim
  · exact fun _ => .inr rfl
  · intro _
    rw [markRunning]
    split_ifs with isPending
    · simp
    · exact reads isPending
  · rw [markRunning]
    split_ifs
    · exact .inr ⟨rfl, notTerminal⟩
    · exact .inl rfl
  · trivial
  · trivial

theorem committed (atPhase : state.phases worker = .processing) :
    Invariant outcomes (change state worker state.run (outcomes worker).val .committed) := by
  apply invariant.advanced
  · simp [Phase.Terminal]
  · exact fun _ => rfl
  · exact fun notTerminal => absurd trivial notTerminal
  · intro _
    exact invariant.begun worker (by simp [atPhase, Phase.Begun])
  · exact .inl rfl
  · trivial
  · trivial

theorem loaded (atPhase : state.phases worker = .committed) :
    Invariant outcomes (change state worker state.run (state.items worker) (.loaded state.run)) := by
  have isTerminal : (state.phases worker).Terminal := by
    simp [atPhase, Phase.Terminal]
  apply invariant.settled isTerminal
  · trivial
  · rfl
  · exact ⟨invariant.begun worker isTerminal.begun, id⟩
  · exact fun _ => ⟨worker, by simp [MayComplete]⟩

theorem counted {run : IngestionRun} (atPhase : state.phases worker = .loaded run) :
    Invariant outcomes (change state worker state.run (state.items worker)
      (.counted run (tallyOf state.items))) := by
  have isTerminal : (state.phases worker).Terminal := by
    simp [atPhase, Phase.Terminal]
  have reads := invariant.reads worker
  rw [atPhase] at reads
  apply invariant.settled isTerminal
  · trivial
  · rfl
  · refine ⟨reads.1, reads.2, ?_⟩
    split_ifs with zero
    · have all := invariant.pendingItems_eq_zero_iff_allTerminal.mp zero
      exact ⟨all.update fun _ => trivial, invariant.tallyOf_eq all⟩
    · intro isClosed
      have all := (invariant.closed (reads.2 isClosed)).1
      exact zero (invariant.pendingItems_eq_zero_iff_allTerminal.mpr all)
  · intro _
    by_cases zero : (tallyOf state.items).pendingItems = 0
    · refine ⟨worker, ?_⟩
      rw [update_self]
      exact zero
    · rw [invariant.pendingItems_eq_zero_iff_allTerminal] at zero
      rcases not_forall.mp zero with ⟨other, notTerminal⟩
      have different : other ≠ worker := by
        rintro rfl
        exact notTerminal isTerminal
      refine ⟨other, ?_⟩
      rw [update_of_ne different]
      cases phase : state.phases other <;> simp_all [Phase.Terminal, MayComplete]

/-- After a commit that has counted unfinished items the status is as it was. -/
theorem status_written_of_pending {run : IngestionRun} {tally : Tally}
    (atPhase : state.phases worker = .counted run tally) (nonzero : tally.pendingItems ≠ 0) :
    (written run (assigned run tally) state.run).status = state.run.status := by
  have reads := invariant.reads worker
  rw [atPhase] at reads
  rcases reads with ⟨notPending, -, counted⟩
  rw [if_neg nonzero] at counted
  have running : run.status = .running := by
    cases status : run.status <;> simp_all [Closed]
  simp [written, assigned, Nat.pos_of_ne_zero nonzero, running, column]

/-- After a commit that has read all items finished the status is final. -/
theorem status_written_of_finished {run : IngestionRun} {tally : Tally}
    (atPhase : state.phases worker = .counted run tally) (zero : tally.pendingItems = 0) :
    (written run (assigned run tally) state.run).status = finalStatus outcomes := by
  have reads := invariant.reads worker
  rw [atPhase] at reads
  rcases reads with ⟨-, keeps, counted⟩
  rw [if_pos zero] at counted
  have final := status_assigned run zero counted.2
  simp only [written, column, final]
  split_ifs with same
  · have isClosed : Closed run.status := same ▸ closed_finalStatus
    exact (invariant.closed (keeps isClosed)).2
  · rfl

theorem finished {run : IngestionRun} {tally : Tally}
    (atPhase : state.phases worker = .counted run tally) :
    Invariant outcomes (change state worker (written run (assigned run tally) state.run)
      (state.items worker) .finished) := by
  have isTerminal : (state.phases worker).Terminal := by
    simp [atPhase, Phase.Terminal]
  by_cases zero : tally.pendingItems = 0
  · have final := invariant.status_written_of_finished atPhase zero
    have isClosed : Closed (finalStatus outcomes) := closed_finalStatus
    have notPending : finalStatus outcomes ≠ .pending := by
      rw [finalStatus]
      split_ifs <;> simp
    have reads := invariant.reads worker
    rw [atPhase, ReadsRight, if_pos zero] at reads
    have keeps : (state.phases worker).Terminal → Phase.finished.Terminal := fun _ => trivial
    apply invariant.changed keeps
    · exact fun _ => invariant.terminal worker isTerminal
    · exact fun notTerminal => absurd trivial notTerminal
    · rw [final]
      exact fun _ => notPending
    · rw [final]
      exact fun isPending => absurd isPending notPending
    · rw [final]
      exact fun _ => isClosed
    · exact fun _ => ⟨reads.2.2.1.update keeps, final⟩
    · trivial
    · rw [final]
      exact fun notClosed => absurd isClosed notClosed
  · apply invariant.settled isTerminal
    · trivial
    · exact invariant.status_written_of_pending atPhase zero
    · trivial
    · intro notClosed
      rcases invariant.unclosed notClosed with ⟨other, may⟩
      have different : other ≠ worker := by
        rintro rfl
        rw [atPhase] at may
        exact zero may
      refine ⟨other, ?_⟩
      rw [update_of_ne different]
      exact may

theorem stepped (worker : Fin (n + 1)) : Invariant outcomes (step outcomes state worker) := by
  rw [step]
  cases atPhase : state.phases worker with
  | waiting => exact invariant.opened atPhase
  | opened runStatus => exact invariant.marked atPhase
  | processing => exact invariant.committed atPhase
  | committed => exact invariant.loaded atPhase
  | loaded run => exact invariant.counted atPhase
  | counted run tally => exact invariant.finished atPhase
  | finished => exact invariant

end Invariant

def AllFinished (state : State n) : Prop := ∀ worker, state.phases worker = .finished

/-- The run is not left open. -/
theorem status_of_allFinished (invariant : Invariant outcomes state) (all : AllFinished state) :
    state.run.status = finalStatus outcomes := by
  by_cases isClosed : Closed state.run.status
  · exact (invariant.closed isClosed).2
  · rcases invariant.unclosed isClosed with ⟨worker, may⟩
    rw [all worker] at may
    exact may.elim

variable (outcomes) in
/-- The counters are exact once the run has been completed. -/
def ExactOnceClosed (state : State n) : Prop :=
  Closed state.run.status →
    ∀ counter, state.run.counters counter = (finalTally outcomes).counters counter

/-- A commit that has read all items finished finds the counters it does not write as it has
loaded them; a commit that has counted unfinished items changes no counter of a completed run. -/
def KeepsCounters (state : State n) (worker : Fin (n + 1)) : Prop :=
  match state.phases worker with
  | .counted run tally => ∀ counter,
      if tally.pendingItems = 0 then
        tally.counters counter = run.counters counter →
          state.run.counters counter = run.counters counter
      else
        Closed state.run.status → tally.counters counter ≠ run.counters counter →
          tally.counters counter = state.run.counters counter
  | _ => True

theorem counters_assigned (run : IngestionRun) (tally : Tally) :
    (assigned run tally).counters = tally.counters := by
  rw [assigned]
  split_ifs <;> rfl

/-- A commit of `finalize_run` keeps the counters exact exactly under its condition. -/
theorem exactOnceClosed_finished_iff (invariant : Invariant outcomes state) {run : IngestionRun}
    {tally : Tally} (atPhase : state.phases worker = .counted run tally)
    (exact_ : ExactOnceClosed outcomes state) :
    ExactOnceClosed outcomes (step outcomes state worker) ↔ KeepsCounters state worker := by
  have reads := invariant.reads worker
  rw [atPhase, ReadsRight] at reads
  have after : step outcomes state worker = change state worker
      (written run (assigned run tally) state.run) (state.items worker) .finished := by
    rw [step, atPhase]
  have counters (counter : Counter) :
      (written run (assigned run tally) state.run).counters counter =
        column (run.counters counter) (tally.counters counter) (state.run.counters counter) := by
    rw [written, counters_assigned]
  rw [after, KeepsCounters, atPhase]
  simp only [ExactOnceClosed, change, counters]
  by_cases zero : tally.pendingItems = 0
  · rw [if_pos zero] at reads
    rw [invariant.status_written_of_finished atPhase zero]
    simp only [closed_finalStatus, zero, if_true, forall_const, ← reads.2.2.2, column_eq_new_iff]
  · rw [invariant.status_written_of_pending atPhase zero]
    simp only [zero, if_false]
    constructor
    · intro after counter isClosed
      rw [← column_eq_current_iff, after isClosed counter, exact_ isClosed counter]
    · intro keeps isClosed counter
      rw [column_eq_current_iff.mpr (keeps counter isClosed), exact_ isClosed counter]

/-- A step before the commit leaves a completed run as it is. -/
theorem run_step_of_closed (invariant : Invariant outcomes state)
    (isClosed : Closed state.run.status)
    (notCounted : ∀ run tally, state.phases worker ≠ .counted run tally) :
    (step outcomes state worker).run = state.run := by
  have isTerminal := (invariant.closed isClosed).1 worker
  rw [step]
  cases atPhase : state.phases worker with
  | opened runStatus =>
      rw [atPhase] at isTerminal
      exact isTerminal.elim
  | counted run tally => exact absurd atPhase (notCounted run tally)
  | _ => rfl

/-- A run is completed by a commit of `finalize_run` only. -/
theorem closed_of_step (notCounted : ∀ run tally, state.phases worker ≠ .counted run tally)
    (isClosed : Closed (step outcomes state worker).run.status) : Closed state.run.status := by
  rw [step] at isClosed
  cases atPhase : state.phases worker with
  | opened runStatus =>
      simp only [atPhase, change, markRunning] at isClosed
      split_ifs at isClosed
      · simp [Closed] at isClosed
      · exact isClosed
  | counted run tally => exact absurd atPhase (notCounted run tally)
  | _ => simpa only [atPhase, change] using isClosed

/-- A step keeps the counters exact exactly under the condition on its commit. -/
theorem exactOnceClosed_step_iff (invariant : Invariant outcomes state) (worker : Fin (n + 1))
    (exact_ : ExactOnceClosed outcomes state) :
    ExactOnceClosed outcomes (step outcomes state worker) ↔ KeepsCounters state worker := by
  by_cases counted : ∃ run tally, state.phases worker = .counted run tally
  · rcases counted with ⟨run, tally, atPhase⟩
    exact exactOnceClosed_finished_iff invariant atPhase exact_
  · push Not at counted
    have keeps : KeepsCounters state worker := by
      rw [KeepsCounters]
      split
      · rename_i run tally atPhase
        exact absurd atPhase (counted run tally)
      · trivial
    refine iff_of_true ?_ keeps
    intro isClosed
    have before := closed_of_step counted isClosed
    rw [run_step_of_closed invariant before counted]
    exact exact_ before

/-- In every interleaving the run has its final status once all workers have finished, whatever
they have written. The counters are exact from the completion on exactly if every commit of
`finalize_run` keeps them; they are then the exact counts of all items in the end. -/
theorem finalize_run_exact (outcomes : Fin (n + 1) → Outcome) (schedule : List (Fin (n + 1))) :
    (∀ visited ∈ states (step outcomes) (initial n) schedule,
      AllFinished visited → visited.run.status = finalStatus outcomes) ∧
    ((∀ visited ∈ states (step outcomes) (initial n) schedule,
        ExactOnceClosed outcomes visited) ↔
      Along (step outcomes) KeepsCounters (initial n) schedule) ∧
    (Along (step outcomes) KeepsCounters (initial n) schedule →
      ∀ visited ∈ states (step outcomes) (initial n) schedule, AllFinished visited →
        visited.run.counters .successItems =
          count (fun worker => (outcomes worker).val) Succeeded ∧
        visited.run.counters .failedItems = count (fun worker => (outcomes worker).val) Failed ∧
        visited.run.counters .processedItems =
          visited.run.counters .successItems + visited.run.counters .failedItems ∧
        visited.run.counters .processedItems = n + 1) := by
  have preserved : ∀ (state : State n) worker, Invariant outcomes state →
      Invariant outcomes (step outcomes state worker) :=
    fun _ worker invariant => invariant.stepped worker
  have invariants := invariant_states preserved (invariant_initial outcomes) schedule
  have exact_iff : (∀ visited ∈ states (step outcomes) (initial n) schedule,
      ExactOnceClosed outcomes visited) ↔
        Along (step outcomes) KeepsCounters (initial n) schedule := by
    refine forall_states_iff_along ?_ ?_ (invariant_initial outcomes) ?_ schedule
    · exact fun state worker invariant _ _ => preserved state worker invariant
    · exact fun state worker invariant => exactOnceClosed_step_iff invariant worker
    · intro isClosed
      simp [initial, Closed] at isClosed
  refine ⟨?_, exact_iff, ?_⟩
  · intro visited visitedMem all
    exact status_of_allFinished (invariants visited visitedMem) all
  · intro along visited visitedMem all
    have status := status_of_allFinished (invariants visited visitedMem) all
    have isClosed : Closed visited.run.status := status ▸ closed_finalStatus
    have counters := exact_iff.mpr along visited visitedMem isClosed
    have total := tallyOf_total fun worker => (outcomes worker).val
    have zero : (tallyOf fun worker => (outcomes worker).val).pendingItems = 0 :=
      pendingItems_eq_zero_iff.mpr fun worker => (outcomes worker).property
    simp only [counters, finalTally, Tally.counters, true_and]
    refine ⟨rfl, rfl, ?_⟩
    omega

end Workers

/-- Both items are completed. -/
def twoCompleted (_ : Fin 2) : Outcome := ⟨.completed, by decide⟩

/-- The first worker counts while the second item is running, and writes last. -/
def staleSchedule : List (Fin 2) :=
  let first : Fin 2 := ⟨0, Nat.two_pos⟩
  let second : Fin 2 := ⟨1, Nat.one_lt_two⟩
  [first, first, second, second, first, first, first, second, second, second, second, first]

/-- Both workers have finished two items and the completed run counts one. -/
theorem staleSchedule_processedItems :
    AllFinished (run (step twoCompleted) (initial 1) staleSchedule) ∧
    (run (step twoCompleted) (initial 1) staleSchedule).run.status = .completed ∧
    (run (step twoCompleted) (initial 1) staleSchedule).run.counters .processedItems = 1 ∧
    count (fun worker => (twoCompleted worker).val) Succeeded = 2 := by
  refine ⟨?_, by decide, by decide, by decide⟩
  exact Fin.forall_fin_two.mpr ⟨rfl, rfl⟩

end ImigrAI.Ingestion.Finalization
