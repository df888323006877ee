import Mathlib.Data.List.Basic
import Mathlib.Tactic.Common

/-!
# Calls that answer

A component answers every call and goes on from the state that the call leaves. Two components
answer alike if a relation between their states is kept by every call and answers agree under it.
-/

namespace ImigrAI.Answers

universe u v w

variable {State Other : Type u} {Call : Type v} {Answer : Type w}
  (step : State → Call → Answer × State)

/-- The state after a list of calls. -/
def after (state : State) : List Call → State
  | [] => state
  | call :: rest => after (step state call).2 rest

/-- The answers to a list of calls. -/
def answers (state : State) : List Call → List Answer
  | [] => []
  | call :: rest => (step state call).1 :: answers (step state call).2 rest

variable {step} {otherStep : Other → Call → Answer × Other}

@[simp]
theorem after_nil (state : State) : after step state [] = state := rfl

@[simp]
theorem after_cons (state : State) (call : Call) (rest : List Call) :
    after step state (call :: rest) = after step (step state call).2 rest := rfl

@[simp]
theorem answers_nil (state : State) : answers step state [] = [] := rfl

@[simp]
theorem answers_cons (state : State) (call : Call) (rest : List Call) :
    answers step state (call :: rest) =
      (step state call).1 :: answers step (step state call).2 rest :=
  rfl

theorem after_append (state : State) (first second : List Call) :
    after step state (first ++ second) = after step (after step state first) second := by
  induction first generalizing state with
  | nil => rfl
  | cons call rest ih => exact ih (step state call).2

theorem answers_append (state : State) (first second : List Call) :
    answers step state (first ++ second) =
      answers step state first ++ answers step (after step state first) second := by
  induction first generalizing state with
  | nil => rfl
  | cons call rest ih => simp [ih]

@[simp]
theorem length_answers (state : State) (calls : List Call) :
    (answers step state calls).length = calls.length := by
  induction calls generalizing state with
  | nil => rfl
  | cons call rest ih => simp [ih]

/-- Components whose calls keep a relation between their states, with the same answer, answer
alike. -/
theorem answers_eq_of_related {related : State → Other → Prop}
    (simulates : ∀ state other call, related state other →
      (step state call).1 = (otherStep other call).1 ∧
        related (step state call).2 (otherStep other call).2)
    {state : State} {other : Other} (initial : related state other) (calls : List Call) :
    answers step state calls = answers otherStep other calls := by
  induction calls generalizing state other with
  | nil => rfl
  | cons call rest ih =>
      rcases simulates state other call initial with ⟨sameAnswer, relatedAfter⟩
      simp only [answers_cons, sameAnswer, ih relatedAfter]

end ImigrAI.Answers
