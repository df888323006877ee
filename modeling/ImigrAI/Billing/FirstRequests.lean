import ImigrAI.Billing.ActiveEntitlements
import ImigrAI.Foundations.Runs
import Mathlib.Logic.Function.Basic

/-!
# First requests beside webhooks

Requests of a new user that set up the Free baseline run beside webhooks that activate a Pro
subscription of that user. Every statement sees what is committed when it runs; what a call
writes is seen by the others from its commit on. A statement that waits for a row only runs
later, so every order of statements is a schedule: the list of calls in the order in which they
take their next step, each with the time of that step.
-/

namespace ImigrAI.Billing.FirstRequests

open Python Runs

/-- What a call grants: the ids of its rows, the plan and the subscription. -/
structure Grant where
  ids : ℕ → UUID
  plan : Plan
  subscriptionId : Option UUID

/-- A call of `ensure_user_access_baseline`, or a webhook that activates a Pro subscription. -/
inductive Kind
  | baseline
  | activation
  deriving DecidableEq

/-- Where a call stands. -/
inductive Phase
  | start
  /-- The baseline has read the clock to ask for active entitlements. -/
  | asking (at_ : Instant)
  /-- The baseline has found no active entitlement. -/
  | missing
  /-- `_apply_plan_entitlements` has read `now`. -/
  | applying (now : Instant)
  /-- The entitlements with these ids are to end now. -/
  | ending (now : Instant) (ended : List UUID)
  | committed
  /-- The baseline has found active entitlements. -/
  | present
  /-- An insert has violated a unique constraint. -/
  | failed
  deriving DecidableEq

/-- `now` of `_apply_plan_entitlements`. -/
def Phase.now : Phase → Option Instant
  | .applying now | .ending now _ => some now
  | _ => none

/-- The committed entitlements, the time, and the calls. -/
structure State (Call : Type*) where
  entitlements : List Entitlement
  clock : Instant
  calls : Call → Phase

structure Action (Call : Type*) where
  call : Call
  instant : Instant

variable {Call : Type*}

/-- No call has begun. -/
def initial (Call : Type*) (entitlements : List Entitlement) (clock : Instant) : State Call :=
  ⟨entitlements, clock, fun _ => .start⟩

/-- The entitlements with these ids end. -/
def endRows (now : Instant) (ended : List UUID) (entitlements : List Entitlement) :
    List Entitlement :=
  entitlements.map fun entitlement =>
    if entitlement.id ∈ ended then { entitlement with validTo := some now } else entitlement

/-- The unique constraints on entitlements. -/
def Storable (entitlements : List Entitlement) : Prop :=
  (entitlements.map (·.id)).Nodup ∧
    (entitlements.map fun entitlement => (entitlement.userId, entitlement.featureKey,
      entitlement.usageWindow, entitlement.validFrom)).Nodup

instance : DecidablePred Storable := fun _ => inferInstanceAs (Decidable (_ ∧ _))

/-- The calls of one user: what each one is and what it grants. -/
structure Calls (settings : Settings) (Call : Type*) where
  userId : UUID
  kind : Call → Kind
  grant : Call → Grant
  planCode : ∀ call, (grant call).plan.code =
    match kind call with
    | .baseline => settings.freePlanCode
    | .activation => settings.proPlanCode

variable {settings : Settings} (calls : Calls settings Call) [DecidableEq Call]

/-- The entitlements after the commit of a call. -/
def Calls.written (call : Call) (now : Instant) (ended : List UUID)
    (entitlements : List Entitlement) : List Entitlement :=
  endRows now ended entitlements ++
    planEntitlements settings (calls.grant call).ids calls.userId (calls.grant call).plan
      (calls.grant call).subscriptionId now

namespace State

def move (state : State Call) (call : Call) (phase : Phase) : State Call :=
  { state with calls := Function.update state.calls call phase }

def commit (state : State Call) (call : Call) (entitlements : List Entitlement) : State Call :=
  { state.move call .committed with entitlements := entitlements }

variable (state : State Call) (call : Call) (phase : Phase) (entitlements : List Entitlement)

@[simp]
theorem move_entitlements : (state.move call phase).entitlements = state.entitlements := rfl

@[simp]
theorem move_clock : (state.move call phase).clock = state.clock := rfl

@[simp]
theorem move_self : (state.move call phase).calls call = phase := Function.update_self ..

variable {call} in
@[simp]
theorem move_of_ne {other : Call} (different : other ≠ call) :
    (state.move call phase).calls other = state.calls other := Function.update_of_ne different ..

@[simp]
theorem commit_entitlements : (state.commit call entitlements).entitlements = entitlements := rfl

@[simp]
theorem commit_clock : (state.commit call entitlements).clock = state.clock := rfl

@[simp]
theorem commit_calls :
    (state.commit call entitlements).calls = (state.move call .committed).calls := rfl

end State

/-- The next step of a call. -/
def Calls.next (state : State Call) (call : Call) : State Call :=
  match state.calls call with
  | .start =>
      match calls.kind call with
      | .baseline => state.move call (.asking state.clock)
      | .activation => state.move call (.applying state.clock)
  | .asking at_ =>
      if listActiveEntitlements state.entitlements calls.userId at_ ≠ [] then
        state.move call .present
      else state.move call .missing
  | .missing => state.move call (.applying state.clock)
  | .applying now =>
      state.move call (.ending now
        ((listActiveEntitlements state.entitlements calls.userId now).map (·.id)))
  | .ending now ended =>
      let written := calls.written call now ended state.entitlements
      if Storable written then state.commit call written
      else state.move call .failed
  | .committed => state
  | .present => state
  | .failed => state

/-- The call takes its next step at a time that is not before the last one. -/
def Calls.step (state : State Call) (action : Action Call) : State Call :=
  calls.next { state with clock := max state.clock action.instant } action.call

/-- A Pro activation has been committed. -/
def Calls.Activated (state : State Call) : Prop :=
  ∃ call, calls.kind call = .activation ∧ state.calls call = .committed

/-- From now on no feature has two active entitlements, and after a Pro activation the active
entitlements are the Pro ones. -/
structure Calls.Exclusive (state : State Call) : Prop where
  pro : calls.Activated state → ∀ instant, state.clock ≤ instant →
    (activeSpecs state.entitlements calls.userId instant).Perm settings.proEntitlements
  features : ∀ instant, state.clock ≤ instant →
    ((activeSpecs state.entitlements calls.userId instant).map (·.featureKey)).Nodup

/-- A call that commits ends every entitlement that is active then, and a baseline does not
commit after a Pro activation. -/
def Calls.CommitsAlone (state : State Call) (action : Action Call) : Prop :=
  ∀ now ended, state.calls action.call = .ending now ended →
    Storable (calls.written action.call now ended state.entitlements) →
    (∀ entitlement ∈ state.entitlements, entitlement.userId = calls.userId →
      entitlement.ActiveAt (max state.clock action.instant) → entitlement.id ∈ ended) ∧
    (calls.kind action.call = .baseline → ¬ calls.Activated state)

omit [DecidableEq Call] in
/-- A call that nothing comes between writes what `_apply_plan_entitlements` writes. -/
theorem written_of_uninterrupted (call : Call) (now : Instant) {entitlements : List Entitlement}
    (ids : (entitlements.map (·.id)).Nodup) :
    calls.written call now
        ((listActiveEntitlements entitlements calls.userId now).map (·.id)) entitlements =
      granted settings entitlements (calls.grant call).ids calls.userId (calls.grant call).plan
        (calls.grant call).subscriptionId now := by
  rw [Calls.written, granted, endRows, deactivated]
  congr 1
  apply List.map_congr_left
  intro entitlement mem
  have listed : entitlement.id ∈
      (listActiveEntitlements entitlements calls.userId now).map (·.id) ↔
        entitlement.userId = calls.userId ∧ entitlement.ActiveAt now := by
    rw [((listActiveEntitlements_perm entitlements calls.userId now).map _).mem_iff, List.mem_map]
    constructor
    · rintro ⟨other, otherMem, sameId⟩
      rcases List.mem_filter.mp otherMem with ⟨otherStored, selected⟩
      rw [← List.inj_on_of_nodup_map ids otherStored mem sameId]
      exact of_decide_eq_true selected
    · intro active
      exact ⟨entitlement, List.mem_filter.mpr ⟨mem, decide_eq_true active⟩, rfl⟩
  simp only [listed]

/-- Entitlements of the user that have no end. -/
def openRows (userId : UUID) (entitlements : List Entitlement) : List Entitlement :=
  entitlements.filter fun entitlement => entitlement.userId = userId ∧ entitlement.validTo = none

theorem openRows_endRows (userId : UUID) (now : Instant) (ended : List UUID)
    (entitlements : List Entitlement) :
    openRows userId (endRows now ended entitlements) =
      (openRows userId entitlements).filter fun entitlement => entitlement.id ∉ ended := by
  unfold openRows endRows
  induction entitlements with
  | nil => rfl
  | cons first rest ih =>
      by_cases isEnded : first.id ∈ ended
      · rw [List.map_cons, if_pos isEnded, List.filter_cons_of_neg (by simp), ih, List.filter_filter,
          List.filter_filter, List.filter_cons_of_neg (by simp [isEnded])]
      · rw [List.map_cons, if_neg isEnded, List.filter_cons, List.filter_cons, ih]
        split_ifs
        · rw [List.filter_cons_of_pos (by simp [isEnded])]
        · rfl

theorem openRows_planEntitlements (ids : ℕ → UUID) (userId : UUID) (plan : Plan)
    (subscriptionId : Option UUID) (now : Instant) :
    openRows userId (planEntitlements settings ids userId plan subscriptionId now) =
      planEntitlements settings ids userId plan subscriptionId now := by
  unfold openRows
  rw [List.filter_eq_self]
  intro entitlement mem
  rcases mem_planEntitlements mem with ⟨ofUser, -, validTo, -⟩
  simp [ofUser, validTo]

/-- What holds in every state: the entitlements of the user have begun, those with an end have
ended, and before a Pro activation those without an end are Free ones. -/
structure Calls.Tidy (state : State Call) : Prop where
  begun : ∀ entitlement ∈ state.entitlements, entitlement.userId = calls.userId →
    entitlement.isEnabled ∧ entitlement.validFrom ≤ state.clock ∧
      ∀ stop ∈ entitlement.validTo, stop ≤ state.clock
  free : ¬ calls.Activated state → ∀ entitlement ∈ openRows calls.userId state.entitlements,
    entitlement.spec ∈ settings.freeEntitlements
  times : ∀ call now, (state.calls call).now = some now → now ≤ state.clock

section Tidy

variable {calls} {state : State Call}

omit [DecidableEq Call] in
theorem activeAt_iff_open (tidy : calls.Tidy state) {entitlement : Entitlement}
    (mem : entitlement ∈ state.entitlements) (ofUser : entitlement.userId = calls.userId)
    {instant : Instant} (le : state.clock ≤ instant) :
    entitlement.ActiveAt instant ↔ entitlement.validTo = none := by
  rcases tidy.begun entitlement mem ofUser with ⟨enabled, started, ended⟩
  constructor
  · rintro ⟨-, -, ends⟩
    cases validTo : entitlement.validTo with
    | none => rfl
    | some stop =>
        rw [validTo] at ends
        exact absurd ((ended stop validTo).trans le) (not_le.mpr ends)
  · intro validTo
    refine ⟨enabled, started.trans le, ?_⟩
    rw [validTo]
    trivial

omit [DecidableEq Call] in
/-- From now on the open entitlements are the active ones. -/
theorem activeSpecs_perm_open (tidy : calls.Tidy state) {instant : Instant}
    (le : state.clock ≤ instant) :
    (activeSpecs state.entitlements calls.userId instant).Perm
      ((openRows calls.userId state.entitlements).map Entitlement.spec) := by
  have same : state.entitlements.filter (fun entitlement =>
      entitlement.userId = calls.userId ∧ entitlement.ActiveAt instant) =
        openRows calls.userId state.entitlements := by
    apply List.filter_congr
    intro entitlement mem
    by_cases ofUser : entitlement.userId = calls.userId
    · simp [ofUser, activeAt_iff_open tidy mem ofUser le]
    · simp [ofUser]
  rw [← same]
  exact (listActiveEntitlements_perm _ _ _).map _

omit [DecidableEq Call] in
theorem exclusive_iff_open (tidy : calls.Tidy state) :
    calls.Exclusive state ↔
      (calls.Activated state → ((openRows calls.userId state.entitlements).map
        Entitlement.spec).Perm settings.proEntitlements) ∧
      ((openRows calls.userId state.entitlements).map (·.featureKey)).Nodup := by
  have keys {instant : Instant} (le : state.clock ≤ instant) :
      ((activeSpecs state.entitlements calls.userId instant).map (·.featureKey)).Perm
        ((openRows calls.userId state.entitlements).map (·.featureKey)) := by
    have perm := (activeSpecs_perm_open tidy le).map (·.featureKey)
    rw [List.map_map] at perm
    exact perm
  constructor
  · intro exclusive
    refine ⟨fun activated => ?_, (keys le_rfl).nodup_iff.mp (exclusive.features _ le_rfl)⟩
    exact (activeSpecs_perm_open tidy le_rfl).symm.trans (exclusive.pro activated _ le_rfl)
  · rintro ⟨pro, features⟩
    constructor
    · intro activated instant le
      exact (activeSpecs_perm_open tidy le).trans (pro activated)
    · intro instant le
      exact (keys le).nodup_iff.mpr features

end Tidy

section Steps

variable {calls} {state : State Call} {call : Call}

/-- A call moves to another phase and commits nothing. -/
structure Moves (state : State Call) (call : Call) (phase : Phase) : Prop where
  committed_iff : phase = .committed ↔ state.calls call = .committed
  now_eq : ∀ now, phase.now = some now → (state.calls call).now = some now ∨ now = state.clock

theorem next_cases (calls : Calls settings Call) (state : State Call) (call : Call) :
    (∃ phase, calls.next state call = state.move call phase ∧ Moves state call phase) ∨
      ∃ now ended, state.calls call = .ending now ended ∧
        Storable (calls.written call now ended state.entitlements) ∧
        calls.next state call =
          state.commit call (calls.written call now ended state.entitlements) := by
  have idle : state = state.move call (state.calls call) ∧
      Moves state call (state.calls call) := by
    refine ⟨?_, Iff.rfl, fun now same => Or.inl same⟩
    rw [State.move, Function.update_eq_self]
  unfold Calls.next
  cases phase : state.calls call with
  | start =>
      left
      cases calls.kind call with
      | baseline => exact ⟨_, rfl, by simp [phase], by simp [Phase.now]⟩
      | activation => exact ⟨_, rfl, by simp [phase], by simp [Phase.now, eq_comm]⟩
  | asking at_ =>
      left
      dsimp only
      split_ifs
      · exact ⟨_, rfl, by simp [phase], by simp [Phase.now]⟩
      · exact ⟨_, rfl, by simp [phase], by simp [Phase.now]⟩
  | missing => exact Or.inl ⟨_, rfl, by simp [phase], by simp [Phase.now, eq_comm]⟩
  | applying now => exact Or.inl ⟨_, rfl, by simp [phase], by simp [Phase.now, phase]⟩
  | ending now ended =>
      by_cases storable : Storable (calls.written call now ended state.entitlements)
      · exact Or.inr ⟨now, ended, rfl, storable, by simp only [if_pos storable]⟩
      · refine Or.inl ⟨.failed, by simp only [if_neg storable], by simp [phase], by simp [Phase.now]⟩
  | committed =>
      rw [phase] at idle
      exact Or.inl ⟨_, idle⟩
  | present =>
      rw [phase] at idle
      exact Or.inl ⟨_, idle⟩
  | failed =>
      rw [phase] at idle
      exact Or.inl ⟨_, idle⟩

theorem next_of_storable {now : Instant} {ended : List UUID}
    (isEnding : state.calls call = .ending now ended)
    (storable : Storable (calls.written call now ended state.entitlements)) :
    calls.next state call =
      state.commit call (calls.written call now ended state.entitlements) := by
  simp only [Calls.next, isEnding, if_pos storable]

theorem activated_move {phase : Phase} (moves : Moves state call phase) :
    calls.Activated (state.move call phase) ↔ calls.Activated state := by
  refine exists_congr fun other => and_congr_right fun _ => ?_
  by_cases same : other = call
  · subst same
    rw [State.move_self]
    exact moves.committed_iff
  · rw [State.move_of_ne _ _ same]

/-- A commit activates Pro if it is the one of a webhook, and otherwise changes nothing of
it. -/
theorem activated_commit (entitlements : List Entitlement) :
    calls.Activated (state.commit call entitlements) ↔
      calls.kind call = .activation ∨ calls.Activated state := by
  constructor
  · rintro ⟨other, isActivation, isCommitted⟩
    by_cases same : other = call
    · exact Or.inl (same ▸ isActivation)
    · rw [State.commit_calls, State.move_of_ne _ _ same] at isCommitted
      exact Or.inr ⟨other, isActivation, isCommitted⟩
  · rintro (isActivation | ⟨other, isActivation, isCommitted⟩)
    · exact ⟨call, isActivation, by simp⟩
    · refine ⟨other, isActivation, ?_⟩
      by_cases same : other = call
      · simp [same]
      · rw [State.commit_calls, State.move_of_ne _ _ same]
        exact isCommitted

omit [DecidableEq Call] in
theorem openRows_written (now : Instant) (ended : List UUID) (entitlements : List Entitlement) :
    openRows calls.userId (calls.written call now ended entitlements) =
      (openRows calls.userId entitlements).filter (fun entitlement => entitlement.id ∉ ended) ++
        planEntitlements settings (calls.grant call).ids calls.userId (calls.grant call).plan
          (calls.grant call).subscriptionId now := by
  rw [← openRows_endRows, ← openRows_planEntitlements]
  exact List.filter_append ..

omit [DecidableEq Call] in
theorem Calls.Tidy.later (tidy : calls.Tidy state) {clock : Instant} (le : state.clock ≤ clock) :
    calls.Tidy { state with clock := clock } := by
  refine ⟨fun entitlement mem ofUser => ?_, tidy.free, fun call now isNow => ?_⟩
  · rcases tidy.begun entitlement mem ofUser with ⟨enabled, started, ended⟩
    exact ⟨enabled, started.trans le, fun stop isStop => (ended stop isStop).trans le⟩
  · exact (tidy.times call now isNow).trans le

theorem tidy_next (tidy : calls.Tidy state) (call : Call) : calls.Tidy (calls.next state call) := by
  rcases next_cases calls state call with
    ⟨phase, next, moves⟩ | ⟨now, ended, isEnding, -, next⟩
  · rw [next]
    refine ⟨tidy.begun, ?_, ?_⟩
    · rw [activated_move moves]
      exact tidy.free
    · intro other now isNow
      by_cases same : other = call
      · subst same
        rw [State.move_self] at isNow
        rcases moves.now_eq now isNow with old | rfl
        · exact tidy.times other now old
        · exact le_rfl
      · rw [State.move_of_ne _ _ same] at isNow
        exact tidy.times other now isNow
  · have nowLe : now ≤ state.clock := tidy.times call now (by rw [isEnding, Phase.now])
    rw [next]
    refine ⟨?_, ?_, ?_⟩
    · intro entitlement mem ofUser
      rcases List.mem_append.mp mem with old | new
      · rcases List.mem_map.mp old with ⟨before, beforeMem, rfl⟩
        split_ifs at ofUser ⊢ with isEnded
        · rcases tidy.begun before beforeMem ofUser with ⟨enabled, started, -⟩
          refine ⟨enabled, started, fun stop isStop => ?_⟩
          rw [← Option.some.inj isStop]
          exact nowLe
        · exact tidy.begun before beforeMem ofUser
      · rcases mem_planEntitlements new with ⟨-, validFrom, validTo, spec⟩
        refine ⟨Settings.isEnabled_of_mem spec, validFrom.le.trans nowLe, ?_⟩
        simp [validTo]
    · intro inactive entitlement mem
      rw [activated_commit, not_or] at inactive
      rw [State.commit_entitlements, openRows_written, List.mem_append] at mem
      rcases mem with old | new
      · exact tidy.free inactive.2 entitlement (List.mem_of_mem_filter old)
      · have spec := (mem_planEntitlements new).2.2.2
        have code := calls.planCode call
        cases kind : calls.kind call with
        | activation => exact absurd kind inactive.1
        | baseline =>
            rw [kind] at code
            rw [code, Settings.entitlementsForPlan, if_neg settings.plansDiffer] at spec
            exact spec
    · intro other now isNow
      by_cases same : other = call
      · subst same
        simp [Phase.now] at isNow
      · rw [State.commit_calls, State.move_of_ne _ _ same] at isNow
        exact tidy.times other now isNow

omit [DecidableEq Call] in
theorem map_featureKey_of_spec (entitlements : List Entitlement) :
    (entitlements.map Entitlement.spec).map (·.featureKey) = entitlements.map (·.featureKey) := by
  rw [List.map_map]
  rfl

/-- A commit leaves exactly one set of entitlements open if it ends those that are open, and the
Free one only before a Pro activation. -/
theorem exclusive_commit_iff (tidy : calls.Tidy state) {now : Instant} {ended : List UUID}
    (after : calls.Tidy (state.commit call (calls.written call now ended state.entitlements))) :
    calls.Exclusive (state.commit call (calls.written call now ended state.entitlements)) ↔
      (∀ entitlement ∈ openRows calls.userId state.entitlements, entitlement.id ∈ ended) ∧
        (calls.kind call = .baseline → ¬ calls.Activated state) := by
  have code := calls.planCode call
  have allEnded (none : (openRows calls.userId state.entitlements).filter
      (fun entitlement => entitlement.id ∉ ended) = []) :
      ∀ entitlement ∈ openRows calls.userId state.entitlements, entitlement.id ∈ ended := by
    intro entitlement mem
    simpa using List.filter_eq_nil_iff.mp none entitlement mem
  have noneLeft (all : ∀ entitlement ∈ openRows calls.userId state.entitlements,
      entitlement.id ∈ ended) : (openRows calls.userId state.entitlements).filter
        (fun entitlement => entitlement.id ∉ ended) = [] := by
    rw [List.filter_eq_nil_iff]
    intro entitlement mem
    simpa using all entitlement mem
  rw [exclusive_iff_open after, State.commit_entitlements, openRows_written, activated_commit,
    ← map_featureKey_of_spec, List.map_append, map_spec_planEntitlements]
  cases kind : calls.kind call with
  | activation =>
      rw [kind] at code
      rw [code, Settings.entitlementsForPlan, if_pos rfl]
      constructor
      · rintro ⟨pro, -⟩
        have length := (pro (Or.inl rfl)).length_eq
        rw [List.length_append, Nat.add_eq_right, List.length_map, List.length_eq_zero_iff] at length
        exact ⟨allEnded length, by simp⟩
      · rintro ⟨all, -⟩
        rw [noneLeft all]
        exact ⟨fun _ => List.Perm.refl _, settings.featuresDiffer⟩
  | baseline =>
      rw [kind] at code
      rw [code, Settings.entitlementsForPlan, if_neg settings.plansDiffer]
      constructor
      · rintro ⟨pro, features⟩
        have inactive : ¬ calls.Activated state := by
          intro activated
          -- The limit of the Free plan is not among the Pro entitlements.
          have mem := (pro (Or.inr activated)).subset
            (List.mem_append_right _ List.mem_cons_self)
          simp [Settings.proEntitlements] at mem
        refine ⟨allEnded (List.eq_nil_iff_forall_not_mem.mpr fun entitlement mem => ?_),
          fun _ => inactive⟩
        have free := tidy.free inactive entitlement (List.mem_of_mem_filter mem)
        rw [Settings.freeEntitlements, List.mem_singleton] at free
        rw [List.map_append, List.nodup_append] at features
        apply features.2.2 settings.assessmentFeatureKey ?_ settings.assessmentFeatureKey ?_ rfl
        · refine List.mem_map.mpr ⟨entitlement.spec, List.mem_map_of_mem mem, ?_⟩
          rw [free]
        · exact List.mem_cons_self
      · rintro ⟨all, inactive⟩
        rw [noneLeft all]
        refine ⟨?_, List.nodup_singleton _⟩
        rintro (isActivation | activated)
        · cases isActivation
        · exact absurd activated (inactive rfl)

omit [DecidableEq Call] in
theorem Calls.Exclusive.later (exclusive : calls.Exclusive state) {clock : Instant}
    (le : state.clock ≤ clock) : calls.Exclusive { state with clock := clock } :=
  ⟨fun activated instant instantLe => exclusive.pro activated instant (le.trans instantLe),
    fun instant instantLe => exclusive.features instant (le.trans instantLe)⟩

theorem exclusive_move_iff {phase : Phase} (moves : Moves state call phase) :
    calls.Exclusive (state.move call phase) ↔ calls.Exclusive state := by
  constructor
  · rintro ⟨pro, features⟩
    rw [activated_move moves] at pro
    exact ⟨pro, features⟩
  · rintro ⟨pro, features⟩
    refine ⟨?_, features⟩
    rw [activated_move moves]
    exact pro

/-- A step keeps the entitlements exclusive exactly if it is not a commit on top of another. -/
theorem exclusive_step_iff (tidy : calls.Tidy state) (exclusive : calls.Exclusive state)
    (action : Action Call) :
    calls.Exclusive (calls.step state action) ↔ calls.CommitsAlone state action := by
  have le : state.clock ≤ max state.clock action.instant := le_max_left _ _
  have tidyNow := tidy.later le
  have exclusiveNow := exclusive.later le
  have tidyNext := tidy_next tidyNow action.call
  unfold Calls.step
  rcases next_cases calls { state with clock := max state.clock action.instant } action.call with
    ⟨phase, next, moves⟩ | ⟨now, ended, isEnding, storable, next⟩
  · rw [next, exclusive_move_iff moves]
    refine iff_of_true exclusiveNow fun now ended isEnding storable => ?_
    -- A commit is no such move.
    have commits : calls.next { state with clock := max state.clock action.instant } action.call =
        _ := next_of_storable isEnding storable
    have phases := congrArg (fun after => State.calls after action.call) (next.symm.trans commits)
    simp only [State.move_self, State.commit_calls] at phases
    have committed := moves.committed_iff.mp phases
    exact absurd (isEnding.symm.trans committed) (by simp)
  · rw [next] at tidyNext ⊢
    rw [exclusive_commit_iff tidyNow tidyNext]
    have openIff : (∀ entitlement ∈ openRows calls.userId state.entitlements,
          entitlement.id ∈ ended) ↔
        ∀ entitlement ∈ state.entitlements, entitlement.userId = calls.userId →
          entitlement.ActiveAt (max state.clock action.instant) → entitlement.id ∈ ended := by
      simp only [openRows, List.mem_filter, decide_eq_true_eq, and_imp]
      refine forall₃_congr fun entitlement mem ofUser => ?_
      rw [activeAt_iff_open tidy mem ofUser le]
    constructor
    · rintro ⟨all, inactive⟩ otherNow otherEnded otherEnding -
      cases isEnding.symm.trans otherEnding
      exact ⟨openIff.mp all, inactive⟩
    · intro alone
      rcases alone now ended isEnding storable with ⟨all, inactive⟩
      exact ⟨openIff.mpr all, inactive⟩

end Steps

/-- In every state of a schedule the active entitlements are one set, exactly if all its commits
end what is active. -/
theorem exclusive_iff_commitsAlone {entitlements : List Entitlement}
    (unseen : ∀ entitlement ∈ entitlements, entitlement.userId ≠ calls.userId) (clock : Instant)
    (schedule : List (Action Call)) :
    (∀ visited ∈ states calls.step (initial Call entitlements clock) schedule,
        calls.Exclusive visited) ↔
      Along calls.step calls.CommitsAlone (initial Call entitlements clock) schedule := by
  have noneOpen : openRows calls.userId entitlements = [] := by
    rw [openRows, List.filter_eq_nil_iff]
    intro entitlement mem
    simp [unseen entitlement mem]
  have tidy : calls.Tidy (initial Call entitlements clock) := by
    refine ⟨fun entitlement mem ofUser => absurd ofUser (unseen entitlement mem), ?_, ?_⟩
    · intro _ entitlement mem
      rw [initial, noneOpen] at mem
      exact absurd mem List.not_mem_nil
    · intro call now isNow
      simp [initial, Phase.now] at isNow
  have exclusive : calls.Exclusive (initial Call entitlements clock) := by
    rw [exclusive_iff_open tidy, initial, noneOpen]
    refine ⟨?_, List.nodup_nil⟩
    rintro ⟨call, -, committed⟩
    cases committed
  refine forall_states_iff_along ?_ ?_ tidy exclusive schedule
  · intro state action tidyState _ _
    exact tidy_next (tidyState.later (le_max_left _ _)) action.call
  · intro state action tidyState exclusiveState
    exact exclusive_step_iff tidyState exclusiveState action

section Samples

/-- One call of each kind. -/
def sampleCalls : Calls sampleSettings Kind where
  userId := 1
  kind := id
  grant
    | .baseline => ⟨fun index => Fin.ofNat _ (10 + index), sampleSettings.freePlan 100, none⟩
    | .activation => ⟨fun index => Fin.ofNat _ (20 + index), sampleSettings.proPlan 101, some 30⟩
  planCode call := by cases call <;> rfl

def sampleSchedule (order : List Kind) : List (Action Kind) :=
  order.zipIdx.map fun entry => ⟨entry.1, Fin.ofNat _ entry.2⟩

/-- The activation comes between the question of the baseline and its answer. -/
def sampleRace : List (Action Kind) :=
  sampleSchedule [.baseline, .baseline, .activation, .activation, .activation, .baseline,
    .baseline, .baseline]

theorem exclusive_iff_commitsAlone_sample :
    (∀ visited ∈ states sampleCalls.step (initial Kind [] 0) sampleRace,
        sampleCalls.Exclusive visited) ↔
      Along sampleCalls.step sampleCalls.CommitsAlone (initial Kind [] 0) sampleRace :=
  exclusive_iff_commitsAlone sampleCalls (by simp) 0 sampleRace

/-- A first request takes the Pro entitlements of an activation committed meanwhile. -/
theorem first_request_ends_pro :
    ¬ ∀ visited ∈ states sampleCalls.step (initial Kind [] 0) sampleRace,
        sampleCalls.Exclusive visited := by
  intro exclusive
  have final := exclusive _ (run_mem_states _ _)
  have activated : sampleCalls.Activated
      (run sampleCalls.step (initial Kind [] 0) sampleRace) := ⟨.activation, rfl, by decide +kernel⟩
  exact absurd (final.pro activated _ le_rfl).length_eq (by decide +kernel)

end Samples

end ImigrAI.Billing.FirstRequests
