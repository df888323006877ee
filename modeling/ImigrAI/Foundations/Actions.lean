import Mathlib.Data.Int.Notation
import Mathlib.Data.List.Basic
import Mathlib.Tactic.Common

/-!
# Actions that may raise

An action changes a state and returns a result or raises an error. What it has changed before it
raises stays changed, and a handler goes on from there. A specification of an action says what
holds after it has returned and what holds after it has raised; there is one rule for each way
in which actions are put together.
-/

namespace ImigrAI.Actions

universe u v w

def Action (State : Type u) (Error : Type v) (Result : Type w) : Type (max u v w) :=
  State → Except Error Result × State

namespace Action

variable {State : Type u} {Error : Type v} {Result Next : Type w}

def returning (result : Result) : Action State Error Result := fun state => (.ok result, state)

def raising (error : Error) : Action State Error Result := fun state => (.error error, state)

def andThen (first : Action State Error Result) (next : Result → Action State Error Next) :
    Action State Error Next := fun state =>
  match first state with
  | (.ok result, after) => next result after
  | (.error error, after) => (.error error, after)

instance : Monad (Action State Error) where
  pure := returning
  bind := andThen

/-- The outcome of a computation that does not look at the state. -/
def ofExcept (computation : Except Error Result) : Action State Error Result := fun state =>
  (computation, state)

/-- `try: ... except Exception as exc: ...`. -/
def catching (action : Action State Error Result) (handler : Error → Action State Error Result) :
    Action State Error Result := fun state =>
  match action state with
  | (.ok result, after) => (.ok result, after)
  | (.error error, after) => handler error after

theorem bind_of_ok {first : Action State Error Result} {next : Result → Action State Error Next}
    {state after : State} {result : Result} (done : first state = (.ok result, after)) :
    (first >>= next) state = next result after := by
  simp only [bind, andThen, done]

theorem bind_of_error {first : Action State Error Result} {next : Result → Action State Error Next}
    {state after : State} {error : Error} (done : first state = (.error error, after)) :
    (first >>= next) state = (.error error, after) := by
  simp only [bind, andThen, done]

theorem andThen_assoc {Last : Type w} (first : Action State Error Result)
    (second : Result → Action State Error Next) (third : Next → Action State Error Last) :
    (first >>= second) >>= third = first >>= fun result => second result >>= third := by
  funext state
  simp only [bind, andThen]
  rcases first state with ⟨error | result, after⟩ <;> rfl

theorem andThen_returning (action : Action State Error Result) : action >>= returning = action := by
  funext state
  simp only [bind, andThen]
  rcases action state with ⟨error | result, after⟩ <;> rfl

instance : LawfulMonad (Action State Error) :=
  LawfulMonad.mk' _ andThen_returning (fun _ _ => rfl) andThen_assoc

/-- From every state that meets the condition, the action returns in a state of one kind or
raises in a state of another. -/
def Ensures (before : State → Prop) (action : Action State Error Result)
    (returns : Result → State → Prop) (raises : Error → State → Prop) : Prop :=
  ∀ state, before state →
    match action state with
    | (.ok result, after) => returns result after
    | (.error error, after) => raises error after

section Rules

variable {before : State → Prop} {raises : Error → State → Prop}

theorem ensures_iff {action : Action State Error Result} {returns : Result → State → Prop} :
    Ensures before action returns raises ↔
      ∀ state, before state →
        (∀ result after, action state = (.ok result, after) → returns result after) ∧
        ∀ error after, action state = (.error error, after) → raises error after := by
  refine forall₂_congr fun state _ => ?_
  rcases action state with ⟨error | result, after⟩ <;> simp

theorem ensures_pure {returns : Result → State → Prop} (result : Result) :
    Ensures (returns result) (pure result : Action State Error Result) returns raises :=
  fun _ holds => holds

/-- A specification may ask for more and promise less. -/
theorem Ensures.weaken {strongerBefore : State → Prop} {action : Action State Error Result}
    {returns weakerReturns : Result → State → Prop} {weakerRaises : Error → State → Prop}
    (ensures : Ensures before action returns raises)
    (implied : ∀ state, strongerBefore state → before state)
    (returned : ∀ result state, returns result state → weakerReturns result state)
    (raised : ∀ error state, raises error state → weakerRaises error state) :
    Ensures strongerBefore action weakerReturns weakerRaises := by
  rw [ensures_iff] at ensures ⊢
  intro state holds
  rcases ensures state (implied state holds) with ⟨ok, error⟩
  exact ⟨fun result after done => returned result after (ok result after done),
    fun exc after done => raised exc after (error exc after done)⟩

theorem Ensures.bind {first : Action State Error Result} {next : Result → Action State Error Next}
    {middle : Result → State → Prop} {returns : Next → State → Prop}
    (ensuresFirst : Ensures before first middle raises)
    (ensuresNext : ∀ result, Ensures (middle result) (next result) returns raises) :
    Ensures before (first >>= next) returns raises := by
  intro state holds
  have done := ensuresFirst state holds
  simp only [Bind.bind, andThen]
  generalize first state = outcome at done ⊢
  rcases outcome with ⟨error | result, after⟩
  · exact done
  · exact ensuresNext result after done

/-- What an action leaves however it ends. -/
theorem Ensures.left {action : Action State Error Result} {holds : State → Prop}
    (ensures : Ensures before action (fun _ => holds) fun _ => holds) {state : State}
    (met : before state) : holds (action state).2 := by
  have done := ensures state met
  generalize action state = outcome at done ⊢
  rcases outcome with ⟨error | result, after⟩
  · exact done
  · exact done

/-- An action that does not raise is followed by the next one. -/
theorem Ensures.bind_total {first : Action State Error Result}
    {next : Result → Action State Error Next} {middle : Result → State → Prop}
    {returns : Next → State → Prop} (ensuresFirst : Ensures before first middle fun _ _ => False)
    (ensuresNext : ∀ result, Ensures (middle result) (next result) returns raises) :
    Ensures before (first >>= next) returns raises :=
  (ensuresFirst.weaken (fun _ => id) (fun _ _ => id) fun _ _ impossible => impossible.elim).bind
    ensuresNext

theorem Ensures.catching {action : Action State Error Result}
    {handler : Error → Action State Error Result} {returns : Result → State → Prop}
    (raised : Error → State → Prop) (ensures : Ensures before action returns raised)
    (handles : ∀ error, Ensures (raised error) (handler error) returns raises) :
    Ensures before (action.catching handler) returns raises := by
  intro state holds
  have done := ensures state holds
  simp only [Action.catching]
  generalize action state = outcome at done ⊢
  rcases outcome with ⟨error | result, after⟩
  · exact handles error after done
  · exact done

/-- What a condition says that is not about the state can be assumed. -/
theorem ensures_of_and {fact : Prop} {action : Action State Error Result}
    {returns : Result → State → Prop}
    (ensures : fact → Ensures before action returns raises) :
    Ensures (fun state => fact ∧ before state) action returns raises :=
  fun state holds => ensures holds.1 state holds.2

theorem ensures_of_exists {Witness : Sort*} {condition : Witness → State → Prop}
    {action : Action State Error Result} {returns : Result → State → Prop}
    (ensures : ∀ witness, Ensures (condition witness) action returns raises) :
    Ensures (fun state => ∃ witness, condition witness state) action returns raises := by
  rintro state ⟨witness, holds⟩
  exact ensures witness state holds

theorem ensures_ite {condition : Prop} [Decidable condition]
    {yes no : Action State Error Result} {returns : Result → State → Prop}
    (ensuresYes : condition → Ensures before yes returns raises)
    (ensuresNo : ¬ condition → Ensures before no returns raises) :
    Ensures before (if condition then yes else no) returns raises := by
  split_ifs with holds
  · exact ensuresYes holds
  · exact ensuresNo holds

/-- A loop keeps an invariant of the elements it has passed and the results it has collected. -/
theorem ensures_mapM {Element : Type*} {step : Element → Action State Error Result}
    {invariant : List Element → List Result → State → Prop}
    (kept : ∀ passed results element, Ensures (invariant passed results) (step element)
      (fun result => invariant (passed ++ [element]) (results ++ [result])) raises)
    (elements passed : List Element) (results : List Result) :
    Ensures (invariant passed results) (elements.mapM step)
      (fun collected => invariant (passed ++ elements) (results ++ collected)) raises := by
  induction elements generalizing passed results with
  | nil =>
      rw [List.mapM_nil]
      intro state holds
      show invariant (passed ++ []) (results ++ []) state
      rwa [List.append_nil, List.append_nil]
  | cons element rest ih =>
      rw [List.mapM_cons]
      refine (kept passed results element).bind fun result => ?_
      refine (ih (passed ++ [element]) (results ++ [result])).bind fun collected => ?_
      intro state holds
      show invariant (passed ++ element :: rest) (results ++ result :: collected) state
      simpa using holds

/-- The same for a loop that collects nothing. -/
theorem ensures_forM {Element : Type*} {step : Element → Action State Error PUnit}
    {invariant : List Element → State → Prop}
    (kept : ∀ passed element, Ensures (invariant passed) (step element)
      (fun _ => invariant (passed ++ [element])) raises)
    (elements passed : List Element) :
    Ensures (invariant passed) (forM elements step) (fun _ => invariant (passed ++ elements))
      raises := by
  induction elements generalizing passed with
  | nil =>
      rw [List.forM_nil]
      intro state holds
      show invariant (passed ++ []) state
      rwa [List.append_nil]
  | cons element rest ih =>
      rw [List.forM_cons]
      refine (kept passed element).bind fun _ => ?_
      simpa using ih (passed ++ [element])

end Rules

end Action

open ImigrAI.Actions.Action

/-- A state with the number of attempts that were made. -/
structure Attempted (State : Type u) where
  state : State
  attempts : ℕ

section Retrying

variable {State : Type u} {Error : Type v} {Result : Type w}

/-- One attempt. -/
def attempting (action : Action State Error Result) : Action (Attempted State) Error Result :=
  fun attempted =>
    let (outcome, after) := action attempted.state
    (outcome, ⟨after, attempted.attempts + 1⟩)

/-- The loop over the attempts: an error of a kind is raised by the last attempt only, and any
other error at once. `exhausted` stands after the loop. -/
def attemptAll (retried : Error → Bool) (maxRetries : ℤ) (exhausted : Error)
    (operation : ℕ → Action State Error Result) : List ℕ → Action (Attempted State) Error Result
  | [] => raising exhausted
  | attempt :: rest =>
      (attempting (operation attempt)).catching fun error =>
        if ¬ retried error then raising error
        else if maxRetries ≤ attempt then raising error
        else attemptAll retried maxRetries exhausted operation rest

def withRetry (retried : Error → Bool) (maxRetries : ℤ) (exhausted : Error)
    (operation : ℕ → Action State Error Result) : Action (Attempted State) Error Result :=
  attemptAll retried maxRetries exhausted operation (List.range (maxRetries + 1).toNat)

variable {retried : Error → Bool} {exhausted : Error} {operation : ℕ → Action State Error Result}
  {invariant : State → Prop} {returns : Result → State → Prop}

/-- A retried operation is attempted no more often than its retries and once. It returns in a
state in which an attempt returns, and raises in one in which the attempts raise, if an attempt
that raises leaves the next one what it asks for. -/
theorem ensures_withRetry (maxRetries : ℤ)
    (ensures : ∀ attempt, Ensures invariant (operation attempt) returns fun _ => invariant) :
    Ensures (fun before => invariant before.state ∧ before.attempts = 0)
      (withRetry retried maxRetries exhausted operation)
      (fun result after => returns result after.state ∧ after.attempts ≤ (maxRetries + 1).toNat)
      (fun _ after => invariant after.state ∧ after.attempts ≤ (maxRetries + 1).toNat) := by
  generalize bound : (maxRetries + 1).toNat = most
  have loop (count first : ℕ) (all : first + count = most) :
      Ensures (fun before => invariant before.state ∧ before.attempts = first)
        (attemptAll retried maxRetries exhausted operation (List.range' first count))
        (fun result after => returns result after.state ∧ after.attempts ≤ most)
        (fun _ after => invariant after.state ∧ after.attempts ≤ most) := by
    induction count generalizing first with
    | zero =>
        rintro before ⟨holds, made⟩
        exact ⟨holds, by omega⟩
    | succ count ih =>
        rw [List.range'_succ]
        refine Ensures.catching (fun _ after =>
          invariant after.state ∧ after.attempts = first + 1) ?_ fun error => ?_
        · rintro before ⟨holds, made⟩
          have done := ensures first before.state holds
          simp only [attempting]
          generalize operation first before.state = outcome at done ⊢
          rcases outcome with ⟨error | result, after⟩
          · exact ⟨done, by simp [made]⟩
          · exact ⟨done, by simp only [made]; omega⟩
        · have givesUp : Ensures (fun after : Attempted State =>
              invariant after.state ∧ after.attempts = first + 1) (raising error)
              (fun result after => returns result after.state ∧ after.attempts ≤ most)
              (fun _ after => invariant after.state ∧ after.attempts ≤ most) := by
            rintro after ⟨holds, made⟩
            exact ⟨holds, by omega⟩
          exact ensures_ite (fun _ => givesUp) fun _ =>
            ensures_ite (fun _ => givesUp) fun _ => ih (first + 1) (by omega)
  rw [withRetry, bound, List.range_eq_range']
  exact loop most 0 (by omega)

end Retrying

end ImigrAI.Actions
