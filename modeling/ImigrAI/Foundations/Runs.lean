import Mathlib.Data.List.Basic
import Mathlib.Tactic.Common

/-!
# Runs of a transition system

A system is a step function `step : State → Action → State`, and a run is a list of
actions. An action that is not enabled leaves the state as it is, so every list of actions
is a run and every interleaving of several parties is one list. The rules below reduce a
property of all states of a run to a property of one step.
-/

namespace ImigrAI.Runs

universe u v

variable {State : Type u} {Action : Type v} (step : State → Action → State)

/-- The state after a list of actions. -/
def run (state : State) (actions : List Action) : State :=
  actions.foldl step state

/-- The states a run goes through, the first and the last one included. -/
def states (state : State) : List Action → List State
  | [] => [state]
  | action :: rest => state :: states (step state action) rest

/-- Every step of the run meets a condition on the action and the state before it. -/
def Along (condition : State → Action → Prop) (state : State) : List Action → Prop
  | [] => True
  | action :: rest => condition state action ∧ Along condition (step state action) rest

variable {step}

@[simp]
theorem run_nil (state : State) : run step state [] = state := rfl

@[simp]
theorem run_cons (state : State) (action : Action) (rest : List Action) :
    run step state (action :: rest) = run step (step state action) rest := rfl

theorem run_append (state : State) (first second : List Action) :
    run step state (first ++ second) = run step (run step state first) second :=
  List.foldl_append

@[simp]
theorem states_nil (state : State) : states step state [] = [state] := rfl

@[simp]
theorem states_cons (state : State) (action : Action) (rest : List Action) :
    states step state (action :: rest) = state :: states step (step state action) rest := rfl

@[simp]
theorem along_nil (condition : State → Action → Prop) (state : State) :
    Along step condition state [] ↔ True := Iff.rfl

@[simp]
theorem along_cons (condition : State → Action → Prop) (state : State) (action : Action)
    (rest : List Action) :
    Along step condition state (action :: rest) ↔
      condition state action ∧ Along step condition (step state action) rest := Iff.rfl

theorem along_append {condition : State → Action → Prop} {state : State}
    {first second : List Action} :
    Along step condition state (first ++ second) ↔
      Along step condition state first ∧ Along step condition (run step state first) second := by
  induction first generalizing state with
  | nil => simp
  | cons action rest ih => simp [ih, and_assoc]

theorem along_of_forall_mem {condition : Action → Prop} {state : State} {actions : List Action}
    (met : ∀ action ∈ actions, condition action) :
    Along step (fun _ => condition) state actions := by
  induction actions generalizing state with
  | nil => trivial
  | cons action rest ih =>
      rw [List.forall_mem_cons] at met
      exact ⟨met.1, ih met.2⟩

theorem self_mem_states (state : State) (actions : List Action) :
    state ∈ states step state actions := by
  cases actions <;> simp

theorem run_mem_states (state : State) (actions : List Action) :
    run step state actions ∈ states step state actions := by
  induction actions generalizing state with
  | nil => simp
  | cons action rest ih => simp [ih]

/-- An invariant of every step holds in every state of a run. -/
theorem invariant_states {invariant : State → Prop}
    (preserved : ∀ state action, invariant state → invariant (step state action))
    {state : State} (initial : invariant state) (actions : List Action) :
    ∀ visited ∈ states step state actions, invariant visited := by
  induction actions generalizing state with
  | nil => simpa using initial
  | cons action rest ih =>
      intro visited visited_mem
      simp only [states_cons, List.mem_cons] at visited_mem
      rcases visited_mem with rfl | visited_mem
      · exact initial
      · exact ih (preserved state action initial) visited visited_mem

/-- An invariant of every step holds at the end of a run. -/
theorem invariant_run {invariant : State → Prop}
    (preserved : ∀ state action, invariant state → invariant (step state action))
    {state : State} (initial : invariant state) (actions : List Action) :
    invariant (run step state actions) :=
  invariant_states preserved initial actions _ (run_mem_states state actions)

/-- An invariant of the steps that meet a condition holds in every state of a run whose
steps all meet it. -/
theorem invariant_states_of_along {invariant : State → Prop}
    {condition : State → Action → Prop}
    (preserved : ∀ state action, invariant state → condition state action →
      invariant (step state action))
    {state : State} (initial : invariant state) {actions : List Action}
    (along : Along step condition state actions) :
    ∀ visited ∈ states step state actions, invariant visited := by
  induction actions generalizing state with
  | nil => simpa using initial
  | cons action rest ih =>
      rcases along with ⟨met, along⟩
      intro visited visited_mem
      simp only [states_cons, List.mem_cons] at visited_mem
      rcases visited_mem with rfl | visited_mem
      · exact initial
      · exact ih (preserved state action initial met) along visited visited_mem

/-- An invariant of the steps that meet a condition holds at the end of a run whose steps
all meet it. -/
theorem invariant_run_of_along {invariant : State → Prop} {condition : State → Action → Prop}
    (preserved : ∀ state action, invariant state → condition state action →
      invariant (step state action))
    {state : State} (initial : invariant state) {actions : List Action}
    (along : Along step condition state actions) : invariant (run step state actions) :=
  invariant_states_of_along preserved initial along _ (run_mem_states state actions)

/-- When a step keeps a property exactly if it meets a condition, a run keeps the property
in all its states exactly if all its steps meet the condition. The auxiliary invariant is
only needed as long as the property holds. -/
theorem forall_states_iff_along {auxiliary property : State → Prop}
    {condition : State → Action → Prop}
    (auxiliary_step : ∀ state action, auxiliary state → property state →
      condition state action → auxiliary (step state action))
    (property_step : ∀ state action, auxiliary state → property state →
      (property (step state action) ↔ condition state action))
    {state : State} (auxiliary_initial : auxiliary state) (property_initial : property state)
    (actions : List Action) :
    (∀ visited ∈ states step state actions, property visited) ↔
      Along step condition state actions := by
  induction actions generalizing state with
  | nil => simpa using property_initial
  | cons action rest ih =>
      have atStep := property_step state action auxiliary_initial property_initial
      constructor
      · intro holds
        have next : property (step state action) := by
          apply holds
          simp [self_mem_states]
        have met := atStep.mp next
        have auxiliary_next :=
          auxiliary_step state action auxiliary_initial property_initial met
        refine ⟨met, (ih auxiliary_next next).mp ?_⟩
        intro visited visited_mem
        exact holds visited (by simp [visited_mem])
      · rintro ⟨met, along⟩ visited visited_mem
        have auxiliary_next :=
          auxiliary_step state action auxiliary_initial property_initial met
        simp only [states_cons, List.mem_cons] at visited_mem
        rcases visited_mem with rfl | visited_mem
        · exact property_initial
        · exact (ih auxiliary_next (atStep.mpr met)).mpr along visited visited_mem

/-- A condition met at every step may be sharpened by an invariant that the steps keep which
meet it. -/
theorem Along.sharpen {invariant : State → Prop} {condition sharper : State → Action → Prop}
    (preserved : ∀ state action, invariant state → condition state action →
      invariant (step state action))
    (sharpens : ∀ state action, invariant state → condition state action → sharper state action)
    {state : State} (initial : invariant state) {actions : List Action}
    (along : Along step condition state actions) : Along step sharper state actions := by
  induction actions generalizing state with
  | nil => trivial
  | cons action rest ih =>
      rcases along with ⟨met, along⟩
      exact ⟨sharpens state action initial met, ih (preserved state action initial met) along⟩

theorem Along.imp {condition weaker : State → Action → Prop}
    (implies : ∀ state action, condition state action → weaker state action) {state : State}
    {actions : List Action} (along : Along step condition state actions) :
    Along step weaker state actions := by
  induction actions generalizing state with
  | nil => trivial
  | cons action rest ih => exact ⟨implies state action along.1, ih along.2⟩

/-- Two conditions that agree under a third are met along the same of its runs. -/
theorem along_congr {premise condition other : State → Action → Prop}
    (agree : ∀ state action, premise state action →
      (condition state action ↔ other state action))
    {state : State} {actions : List Action} (along : Along step premise state actions) :
    Along step condition state actions ↔ Along step other state actions := by
  induction actions generalizing state with
  | nil => simp
  | cons action rest ih =>
      rcases along with ⟨met, along⟩
      simp only [along_cons]
      rw [agree state action met, ih along]

/-- Two conditions that agree under an invariant are met along the same runs. -/
theorem along_iff_along {invariant : State → Prop} {condition other : State → Action → Prop}
    (preserved : ∀ state action, invariant state → condition state action →
      invariant (step state action))
    (agree : ∀ state action, invariant state → (condition state action ↔ other state action))
    {state : State} (initial : invariant state) {actions : List Action} :
    Along step condition state actions ↔ Along step other state actions := by
  constructor
  · intro along
    exact along.sharpen preserved (fun before action held => (agree before action held).mp) initial
  · intro along
    apply along.sharpen _ (fun before action held => (agree before action held).mpr) initial
    intro before action held met
    exact preserved before action held ((agree before action held).mpr met)

/-- Actions that leave the state as it is may be left out. -/
theorem run_filter_of_idle {skipped : Action → Bool} {state : State} {actions : List Action}
    (idle : Along step (fun before action => skipped action → step before action = before) state
      actions) :
    run step state (actions.filter fun action => !skipped action) = run step state actions := by
  induction actions generalizing state with
  | nil => rfl
  | cons action rest ih =>
      rcases idle with ⟨first, idle⟩
      by_cases isSkipped : skipped action
      · rw [first isSkipped] at idle
        rw [List.filter_cons_of_neg (by simp [isSkipped]), run_cons, first isSkipped, ih idle]
      · rw [List.filter_cons_of_pos (by simp [isSkipped]), run_cons, run_cons, ih idle]

/-- When leaving the condition once leads to a bad state and bad states stay bad, a run with
a step that leaves the condition ends in a bad state. -/
theorem run_bad_of_not_along {good bad : State → Prop} {condition : State → Action → Prop}
    (keep : ∀ state action, good state → condition state action → good (step state action))
    (spoil : ∀ state action, good state → ¬ condition state action → bad (step state action))
    (absorbing : ∀ state action, bad state → bad (step state action))
    {state : State} (initial : good state) {actions : List Action}
    (violated : ¬ Along step condition state actions) : bad (run step state actions) := by
  induction actions generalizing state with
  | nil => exact absurd trivial violated
  | cons action rest ih =>
      by_cases met : condition state action
      · exact ih (keep state action initial met) fun along => violated ⟨met, along⟩
      · exact invariant_run absorbing (spoil state action initial met) rest

variable (step) in
/-- Once a state of the run has the property, every later state of the run has it. -/
def Persists (property : State → Prop) (state : State) (actions : List Action) : Prop :=
  ∀ earlier later rest, actions = earlier ++ later ++ rest →
    property (run step state earlier) → property (run step state (earlier ++ later))

/-- Several conditions are met along a run if each of them is. -/
theorem along_forall_iff {Index : Sort*} {condition : Index → State → Action → Prop}
    {state : State} {actions : List Action} :
    (∀ index, Along step (condition index) state actions) ↔
      Along step (fun before action => ∀ index, condition index before action) state actions := by
  induction actions generalizing state with
  | nil => simp
  | cons action rest ih => simp [forall_and, ih]

/-- A property that one step keeps exactly under a condition, as long as an invariant holds,
persists along exactly the runs that meet the condition wherever the property holds. -/
theorem persists_iff_along_of_invariant {invariant property : State → Prop}
    {condition : State → Action → Prop}
    (preserved : ∀ state action, invariant state → invariant (step state action))
    (step_iff : ∀ state action, invariant state → property state →
      (property (step state action) ↔ condition state action))
    {state : State} (initial : invariant state) (actions : List Action) :
    Persists step property state actions ↔
      Along step (fun before action => property before → condition before action) state
        actions := by
  induction actions generalizing state with
  | nil =>
      simp only [along_nil, iff_true]
      rintro earlier later rest split holds
      obtain ⟨rfl, rfl, rfl⟩ : earlier = [] ∧ later = [] ∧ rest = [] := by
        simpa [eq_comm] using split
      exact holds
  | cons action actions ih =>
      have later := ih (preserved state action initial)
      constructor
      · intro persists
        refine ⟨?_, later.mp ?_⟩
        · intro holds
          exact (step_iff state action initial holds).mp
            (persists [] [action] actions rfl holds)
        · intro earlier later rest split holds
          exact persists (action :: earlier) later rest (by simp [split]) holds
      · rintro ⟨met, along⟩ earlier after rest split holds
        have persists := later.mpr along
        cases earlier with
        | cons first earlier =>
            obtain ⟨rfl, tail⟩ : action = first ∧ actions = earlier ++ after ++ rest := by
              simpa using split
            exact persists earlier after rest tail holds
        | nil =>
            cases after with
            | nil => exact holds
            | cons first after =>
                obtain ⟨rfl, tail⟩ : action = first ∧ actions = after ++ rest := by
                  simpa using split
                exact persists [] after rest tail
                  ((step_iff state action initial holds).mpr (met holds))

/-- A property that one step keeps exactly under a condition persists along exactly the runs
that meet the condition wherever the property holds. -/
theorem persists_iff_along {property : State → Prop} {condition : State → Action → Prop}
    (step_iff : ∀ state action, property state →
      (property (step state action) ↔ condition state action))
    (state : State) (actions : List Action) :
    Persists step property state actions ↔
      Along step (fun before action => property before → condition before action) state
        actions :=
  @persists_iff_along_of_invariant _ _ _ (fun _ => True) property condition
    (fun _ _ _ => trivial) (fun state action _ => step_iff state action) state trivial actions

end ImigrAI.Runs
