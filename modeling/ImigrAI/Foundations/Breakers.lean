import Mathlib.Data.List.Basic
import Mathlib.Data.Int.Order.Basic
import Mathlib.Order.Lattice
import Mathlib.Order.Monotone.Defs
import Mathlib.Tactic.Common

/-!
# Circuit breakers

A breaker counts the failures since the last success, and a failure that reaches the threshold
keeps it open until a time of its own. At times that do not decrease this is the only time that
has to be kept. A history has its last attempt first.
-/

namespace ImigrAI.Breakers

universe u

inductive Outcome where
  | skipped | failed | succeeded
deriving DecidableEq

structure Attempt (Time : Type u) where
  time : Time
  outcome : Outcome

variable {Time : Type u} (threshold : ℤ) (reopens : Time → Time)

/-- The failures since the last success. -/
def failures (history : List (Attempt Time)) : ℕ :=
  (history.takeWhile (·.outcome ≠ .succeeded)).countP (·.outcome = .failed)

/-- Until when the breaker is open. -/
def openedUntil : List (Attempt Time) → Option Time
  | [] => none
  | last :: earlier =>
      match last.outcome with
      | .succeeded => none
      | .failed =>
          if threshold ≤ failures (last :: earlier) then some (reopens last.time)
          else openedUntil earlier
      | .skipped => openedUntil earlier

variable {threshold reopens} {last : Attempt Time} {earlier history : List (Attempt Time)}

@[simp]
theorem failures_nil : failures ([] : List (Attempt Time)) = 0 := rfl

end ImigrAI.Breakers
