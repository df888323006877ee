import Mathlib.Data.List.Basic
import Mathlib.Tactic.Common

/-!
# Streaks

How many of the last events of a history are of one kind, with the latest event first.
-/

namespace ImigrAI.Streaks

universe u

variable {Event : Type u} (counts : Event → Bool)

/-- The number of events of the kind since the last one of another kind. -/
def streak (history : List Event) : ℕ := (history.takeWhile counts).length

/-- The last events, as many as this, are there and of the kind. -/
def InARow (length : ℕ) (history : List Event) : Prop :=
  length ≤ history.length ∧ ∀ event ∈ history.take length, counts event

variable {counts} {event : Event} {history : List Event}

@[simp]
theorem streak_nil : streak counts [] = 0 := rfl

theorem streak_cons_of_pos (counted : counts event) :
    streak counts (event :: history) = streak counts history + 1 := by
  simp [streak, counted]

theorem streak_cons_of_neg (notCounted : ¬ counts event) :
    streak counts (event :: history) = 0 := by
  simp [streak, notCounted]

theorem inARow_zero : InARow counts 0 history := by
  simp [InARow]

/-- Events stand in a row exactly if the streak is long enough. -/
theorem inARow_iff_le_streak {length : ℕ} :
    InARow counts length history ↔ length ≤ streak counts history := by
  induction history generalizing length with
  | nil => simp +contextual [InARow]
  | cons event rest ih =>
      cases length with
      | zero => simp [inARow_zero]
      | succ length =>
          by_cases counted : counts event
          · rw [streak_cons_of_pos counted, Nat.add_le_add_iff_right, ← ih]
            simp [InARow, counted]
          · rw [streak_cons_of_neg counted]
            simp [InARow, counted]

end ImigrAI.Streaks
