import ImigrAI.Foundations.Runs
import Mathlib.Data.Fintype.Card
import Mathlib.Data.Fintype.Basic
import Mathlib.Logic.Function.Basic

/-!
# The monthly assessment quota under concurrent calls

`BillingService.consume_assessment_quota` reads the usage counter of the month, compares it
with the limit, increments the loaded object and commits. The session flushes the increment
as an `UPDATE` with an absolute value, so the row is locked from that statement to the
commit but not from the read on. The first call of a month inserts the row. A schedule is
the list of calls in the order in which they take their next step.
-/

namespace ImigrAI.Billing.Quota

open Runs

/-- Where one call of `consume_assessment_quota` stands. -/
inductive Phase
  | start
  /-- `get_or_create_usage_counter` found no row. -/
  | missing
  | loaded (usedCount : ℕ)
  /-- `counter.used_count += 1` has been done in memory, to a counter loaded with this value. -/
  | incremented (usedCount : ℕ)
  /-- The `UPDATE` has been flushed and the transaction is open. -/
  | written (usedCount : ℕ)
  | accepted
  /-- Answered with 403 and this detail. -/
  | rejected (detail : String)
  /-- The insert violated the unique constraint. -/
  | failed
  deriving DecidableEq

/-- The committed counter, the transaction that holds its row (inserted or updated, not yet
committed), and the calls. -/
structure State (Call : Type*) where
  usedCount : Option ℕ
  holder : Option Call
  calls : Call → Phase

/-- The detail of the error that the comparison with the limit raises. -/
def quotaReachedDetail (limit : ℕ) : String :=
  s!"Monthly assessment quota reached for free plan ({limit}/{limit})"

variable {Call : Type*}

/-- No counter exists and no call has begun. -/
def initial (Call : Type*) : State Call := ⟨none, none, fun _ => .start⟩

namespace State

/-- The used count of the committed row; no row counts as zero. -/
def stored (state : State Call) : ℕ := state.usedCount.getD 0

/-- How many calls have returned a decision. -/
def acceptedCount [Fintype Call] (state : State Call) : ℕ :=
  (Finset.univ.filter fun call => state.calls call = .accepted).card

variable [DecidableEq Call]

def move (state : State Call) (call : Call) (phase : Phase) : State Call :=
  { state with calls := Function.update state.calls call phase }

/-- The end of a transaction frees the row it holds. -/
def release (state : State Call) (call : Call) : State Call :=
  { state with holder := if state.holder = some call then none else state.holder }

end State

variable [DecidableEq Call]

/-- The next step of one call. A call that waits for a row leaves the state as it is. -/
def step (limit : ℕ) (state : State Call) (call : Call) : State Call :=
  match state.calls call with
  | .start =>
      match state.usedCount with
      | none => state.move call .missing
      | some usedCount => state.move call (.loaded usedCount)
  | .missing =>
      -- The insert waits for a transaction that holds the row, then conflicts with the row.
      if state.holder ≠ none then state
      else match state.usedCount with
        | none => { state.move call (.loaded 0) with holder := some call }
        | some _ => state.move call .failed
  | .loaded usedCount =>
      if limit ≤ usedCount then (state.release call).move call (.rejected (quotaReachedDetail limit))
      else state.move call (.incremented usedCount)
  | .incremented usedCount =>
      if state.holder = none ∨ state.holder = some call then
        { state.move call (.written usedCount) with holder := some call }
      else state
  | .written usedCount =>
      { (state.release call).move call .accepted with usedCount := some (usedCount + 1) }
  | .accepted => state
  | .rejected _ => state
  | .failed => state

/-- The quota is kept along a schedule: never more accepted calls than the limit, and in the
end the counter is their number. -/
def QuotaKept [Fintype Call] (limit : ℕ) (schedule : List Call) : Prop :=
  (∀ visited ∈ states (step limit) (initial Call) schedule, visited.acceptedCount ≤ limit) ∧
    (run (step limit) (initial Call) schedule).stored =
      (run (step limit) (initial Call) schedule).acceptedCount

/-- A call that is about to commit still has the committed count it read. -/
def Fresh (state : State Call) (call : Call) : Prop :=
  ∀ usedCount, state.calls call = .written usedCount → state.stored = usedCount

namespace Phase

/-- The count a call has read and may still write back. -/
def read : Phase → Option ℕ
  | .loaded usedCount | .incremented usedCount | .written usedCount => some usedCount
  | _ => none

/-- The count of a call that has passed the comparison with the limit. -/
def passed : Phase → Option ℕ
  | .incremented usedCount | .written usedCount => some usedCount
  | _ => none

end Phase

/-- A move of one call that commits nothing: it reads the stored count or keeps the count it
has, and passes the comparison only below the limit. -/
structure Advances (limit stored : ℕ) (before after : Phase) : Prop where
  accepted_iff : after = .accepted ↔ before = .accepted
  read_eq : ∀ usedCount, after.read = some usedCount →
    before.read = some usedCount ∨ usedCount = stored
  passed_lt : ∀ usedCount, after.passed = some usedCount →
    before.passed = some usedCount ∨ usedCount < limit

theorem Advances.refl (limit stored : ℕ) (phase : Phase) : Advances limit stored phase phase :=
  ⟨Iff.rfl, fun _ read => Or.inl read, fun _ passed => Or.inl passed⟩

/-- A step other than a commit moves one call and leaves the committed counter alone. -/
theorem step_advances (limit : ℕ) (state : State Call) {call : Call}
    (open_ : ∀ usedCount, state.calls call ≠ .written usedCount) :
    (step limit state call).usedCount = state.usedCount ∧
      ∃ after, (step limit state call).calls = Function.update state.calls call after ∧
        Advances limit state.stored (state.calls call) after := by
  have idle : ∃ after, state.calls = Function.update state.calls call after ∧
      Advances limit state.stored (state.calls call) after :=
    ⟨state.calls call, (Function.update_eq_self _ _).symm, Advances.refl ..⟩
  cases phase : state.calls call with
  | start =>
      cases used : state.usedCount with
      | none =>
          refine ⟨by simp [step, phase, used, State.move], .missing, ?_, ?_⟩
          · simp [step, phase, used, State.move]
          · constructor <;> simp [Phase.read, Phase.passed]
      | some usedCount =>
          refine ⟨by simp [step, phase, used, State.move], .loaded usedCount, ?_, ?_⟩
          · simp [step, phase, used, State.move]
          · constructor <;> simp [Phase.read, Phase.passed, State.stored, used]
  | missing =>
      rw [phase] at idle
      by_cases held : state.holder = none
      · cases used : state.usedCount with
        | none =>
            refine ⟨by simp [step, phase, used, held, State.move], .loaded 0, ?_, ?_⟩
            · simp [step, phase, used, held, State.move]
            · constructor <;> simp [Phase.read, Phase.passed, State.stored, used]
        | some usedCount =>
            refine ⟨by simp [step, phase, used, held, State.move], .failed, ?_, ?_⟩
            · simp [step, phase, used, held, State.move]
            · constructor <;> simp [Phase.read, Phase.passed]
      · simpa [step, phase, held] using idle
  | loaded usedCount =>
      by_cases reached : limit ≤ usedCount
      · refine ⟨by simp [step, phase, reached, State.move, State.release],
          .rejected (quotaReachedDetail limit), ?_, ?_⟩
        · simp [step, phase, reached, State.move, State.release]
        · constructor <;> simp [Phase.read, Phase.passed]
      · refine ⟨by simp [step, phase, reached, State.move], .incremented usedCount, ?_, ?_⟩
        · simp [step, phase, reached, State.move]
        · constructor <;> simp [Phase.read, Phase.passed, not_le.mp reached]
  | incremented usedCount =>
      rw [phase] at idle
      by_cases available : state.holder = none ∨ state.holder = some call
      · refine ⟨by simp [step, phase, available, State.move], .written usedCount, ?_, ?_⟩
        · simp [step, phase, available, State.move]
        · constructor <;> simp [Phase.read, Phase.passed]
      · simpa [step, phase, available] using idle
  | written usedCount => exact absurd phase (open_ usedCount)
  | accepted => simpa [step, phase] using idle
  | rejected detail => simpa [step, phase] using idle
  | failed => simpa [step, phase] using idle

/-- A commit stores the count it read plus one. -/
theorem step_commit (limit : ℕ) {state : State Call} {call : Call} {usedCount : ℕ}
    (written : state.calls call = .written usedCount) :
    (step limit state call).usedCount = some (usedCount + 1) ∧
      (step limit state call).calls = Function.update state.calls call .accepted := by
  simp [step, written, State.move, State.release]

/-- What is seen of a call after one call has moved was there before, or is of its new phase. -/
theorem seen_of_moved {before after : State Call} {call other : Call} {phase : Phase}
    (observe : Phase → Option ℕ) (moved : after.calls = Function.update before.calls call phase)
    {count : ℕ} (seen : observe (after.calls other) = some count) :
    observe (before.calls other) = some count ∨ other = call ∧ observe phase = some count := by
  by_cases same : other = call
  · subst same
    exact Or.inr ⟨rfl, by simpa [moved] using seen⟩
  · exact Or.inl (by simpa [moved, same] using seen)

theorem read_of_advances {limit stored : ℕ} {before after : State Call} {call other : Call}
    {phase : Phase} (moved : after.calls = Function.update before.calls call phase)
    (advances : Advances limit stored (before.calls call) phase) {count : ℕ}
    (read : (after.calls other).read = some count) :
    (before.calls other).read = some count ∨ count = stored := by
  rcases seen_of_moved Phase.read moved read with old | ⟨rfl, new⟩
  · exact Or.inl old
  · exact advances.read_eq count new

theorem passed_of_advances {limit stored : ℕ} {before after : State Call} {call other : Call}
    {phase : Phase} (moved : after.calls = Function.update before.calls call phase)
    (advances : Advances limit stored (before.calls call) phase) {count : ℕ}
    (passed : (after.calls other).passed = some count) :
    (before.calls other).passed = some count ∨ count < limit := by
  rcases seen_of_moved Phase.passed moved passed with old | ⟨rfl, new⟩
  · exact Or.inl old
  · exact advances.passed_lt count new

/-- A committed call has no count to write any more. -/
theorem seen_of_commit {before after : State Call} {call other : Call}
    {observe : Phase → Option ℕ} (nothing : observe .accepted = none)
    (moved : after.calls = Function.update before.calls call .accepted) {count : ℕ}
    (seen : observe (after.calls other) = some count) :
    observe (before.calls other) = some count := by
  rcases seen_of_moved observe moved seen with old | ⟨-, new⟩
  · exact old
  · simp [nothing] at new

variable [Fintype Call]

theorem acceptedCount_of_advances {before after : State Call} {call : Call} {phase : Phase}
    (moved : after.calls = Function.update before.calls call phase)
    (accepted_iff : phase = .accepted ↔ before.calls call = .accepted) :
    after.acceptedCount = before.acceptedCount := by
  unfold State.acceptedCount
  congr 1
  ext other
  by_cases same : other = call
  · subst same
    simp [moved, accepted_iff]
  · simp [moved, same]

theorem acceptedCount_of_commit {before after : State Call} {call : Call} {usedCount : ℕ}
    (written : before.calls call = .written usedCount)
    (moved : after.calls = Function.update before.calls call .accepted) :
    after.acceptedCount = before.acceptedCount + 1 := by
  unfold State.acceptedCount
  have inserted : (Finset.univ.filter fun other => after.calls other = .accepted) =
      insert call (Finset.univ.filter fun other => before.calls other = .accepted) := by
    ext other
    by_cases same : other = call
    · subst same
      simp [moved]
    · simp [moved, same]
  rw [inserted, Finset.card_insert_of_notMem (by simp [written])]

/-- The counter is the number of accepted calls, and nobody has read beyond it. -/
structure Exact (limit : ℕ) (state : State Call) : Prop where
  stored_eq : state.stored = state.acceptedCount
  accepted_le : state.acceptedCount ≤ limit
  read_le : ∀ call usedCount, (state.calls call).read = some usedCount → usedCount ≤ state.stored
  passed_lt : ∀ call usedCount, (state.calls call).passed = some usedCount → usedCount < limit

/-- An increment has been lost, and every count still to be written back is too small. -/
structure Lost (state : State Call) : Prop where
  stored_lt : state.stored < state.acceptedCount
  read_lt : ∀ call usedCount, (state.calls call).read = some usedCount →
    usedCount < state.acceptedCount

omit [DecidableEq Call] in
theorem exact_initial (limit : ℕ) : Exact limit (initial Call) := by
  constructor <;> simp [initial, State.stored, State.acceptedCount, Phase.read, Phase.passed]

omit [DecidableEq Call] [Fintype Call] in
theorem stored_eq_of_usedCount_eq {before after : State Call}
    (same : after.usedCount = before.usedCount) : after.stored = before.stored := by
  rw [State.stored, same, State.stored]

/-- Fresh steps keep the counter exact. -/
theorem exact_step (limit : ℕ) (state : State Call) (call : Call) (exact_ : Exact limit state)
    (fresh : Fresh state call) : Exact limit (step limit state call) := by
  by_cases committing : ∃ usedCount, state.calls call = .written usedCount
  · rcases committing with ⟨usedCount, written⟩
    rcases step_commit limit written with ⟨used, moved⟩
    have stored : (step limit state call).stored = usedCount + 1 := by simp [State.stored, used]
    have count := acceptedCount_of_commit written moved
    have below : usedCount < limit :=
      exact_.passed_lt call usedCount (by simp [written, Phase.passed])
    have current : state.stored = usedCount := fresh usedCount written
    have counted := exact_.stored_eq
    constructor
    · omega
    · omega
    · intro other otherCount read
      have := exact_.read_le other otherCount (seen_of_commit rfl moved read)
      omega
    · intro other otherCount passed
      exact exact_.passed_lt other otherCount (seen_of_commit rfl moved passed)
  · rcases step_advances limit state fun usedCount written => committing ⟨usedCount, written⟩ with
      ⟨used, after, moved, advances⟩
    have stored := stored_eq_of_usedCount_eq used
    have count := acceptedCount_of_advances moved advances.accepted_iff
    constructor
    · rw [stored, count, exact_.stored_eq]
    · rw [count]
      exact exact_.accepted_le
    · intro other otherCount read
      rw [stored]
      rcases read_of_advances moved advances read with before | current
      · exact exact_.read_le other otherCount before
      · exact current.le
    · intro other otherCount passed
      rcases passed_of_advances moved advances passed with before | below
      · exact exact_.passed_lt other otherCount before
      · exact below

/-- A commit over a count that has changed since it was read loses an increment. -/
theorem lost_of_not_fresh (limit : ℕ) (state : State Call) (call : Call)
    (exact_ : Exact limit state) (stale : ¬ Fresh state call) : Lost (step limit state call) := by
  simp only [Fresh, not_forall] at stale
  rcases stale with ⟨usedCount, written, changed⟩
  rcases step_commit limit written with ⟨used, moved⟩
  have stored : (step limit state call).stored = usedCount + 1 := by simp [State.stored, used]
  have count := acceptedCount_of_commit written moved
  have read_le := exact_.read_le call usedCount (by simp [written, Phase.read])
  have counted := exact_.stored_eq
  constructor
  · omega
  · intro other otherCount read
    have := exact_.read_le other otherCount (seen_of_commit rfl moved read)
    omega

/-- A lost increment is never recovered. -/
theorem lost_step (limit : ℕ) (state : State Call) (call : Call) (lost : Lost state) :
    Lost (step limit state call) := by
  by_cases committing : ∃ usedCount, state.calls call = .written usedCount
  · rcases committing with ⟨usedCount, written⟩
    rcases step_commit limit written with ⟨used, moved⟩
    have stored : (step limit state call).stored = usedCount + 1 := by simp [State.stored, used]
    have count := acceptedCount_of_commit written moved
    have read_lt := lost.read_lt call usedCount (by simp [written, Phase.read])
    constructor
    · omega
    · intro other otherCount read
      have := lost.read_lt other otherCount (seen_of_commit rfl moved read)
      omega
  · rcases step_advances limit state fun usedCount written => committing ⟨usedCount, written⟩ with
      ⟨used, after, moved, advances⟩
    have stored := stored_eq_of_usedCount_eq used
    have count := acceptedCount_of_advances moved advances.accepted_iff
    have stored_lt := lost.stored_lt
    constructor
    · omega
    · intro other otherCount read
      rw [count]
      rcases read_of_advances moved advances read with before | current
      · exact lost.read_lt other otherCount before
      · omega

/-- The quota is kept along exactly the schedules in which no call commits over a count that
changed after it was read. -/
theorem quotaKept_iff_fresh (limit : ℕ) (schedule : List Call) :
    QuotaKept limit schedule ↔ Along (step limit) Fresh (initial Call) schedule := by
  constructor
  · rintro ⟨-, stored_eq⟩
    by_contra violated
    have lost : Lost (run (step limit) (initial Call) schedule) :=
      run_bad_of_not_along (exact_step limit) (lost_of_not_fresh limit) (lost_step limit)
        (exact_initial limit) violated
    exact lost.stored_lt.ne stored_eq
  · intro along
    refine ⟨?_, ?_⟩
    · intro visited visitedMem
      exact (invariant_states_of_along (exact_step limit) (exact_initial limit) along
        visited visitedMem).accepted_le
    · exact (invariant_run_of_along (exact_step limit) (exact_initial limit) along).stored_eq

/-- Two calls after each other, then two that both read the count two before either commits. -/
def overlappingCalls : List (Fin 4) :=
  [0, 0, 0, 0, 0, 1, 1, 1, 1, 2, 3, 2, 3, 2, 2, 3, 3]

/-- Four calls are accepted under a limit of three, and the counter says three. -/
theorem quota_exceeded :
    ¬ QuotaKept 3 overlappingCalls ∧
      (run (step 3) (initial (Fin 4)) overlappingCalls).acceptedCount = 4 ∧
      (run (step 3) (initial (Fin 4)) overlappingCalls).usedCount = some 3 := by
  refine ⟨?_, by decide, by decide⟩
  rintro ⟨-, stored_eq⟩
  exact absurd stored_eq (by decide)

end ImigrAI.Billing.Quota
