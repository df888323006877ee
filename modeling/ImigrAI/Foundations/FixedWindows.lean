import Mathlib.Algebra.Order.Monoid.Unbundled.Basic
import Mathlib.Data.List.Basic
import Mathlib.Order.Lattice
import Mathlib.Tactic.Common
import Mathlib.Tactic.GCongr

/-!
# Fixed windows

Events are numbered from 1 in each window, and a window opens no earlier than a fixed length after
the last one opened. If the events up to a limit are let through in every window, then in every
span of that length no more than twice the limit are.
-/

namespace ImigrAI.FixedWindows

variable {Event Time : Type} [LinearOrder Time] [Add Time] (time : Event → Time)
  (number : Event → ℕ) (length : Time)

/-- The events so far, with those of the last window. -/
inductive Windows : List Event → List Event → Prop where
  | none : Windows [] []
  | opens {events window : List Event} {event : Event} (windows : Windows events window)
      (latest : ∀ earlier ∈ events, time earlier ≤ time event)
      (apart : ∀ first ∈ window.head?, time first + length ≤ time event)
      (first : number event = 1) : Windows (events ++ [event]) [event]
  | continues {events window : List Event} {event : Event} (windows : Windows events window)
      (latest : ∀ earlier ∈ events, time earlier ≤ time event) (opened : window ≠ [])
      (next : number event = window.length + 1) : Windows (events ++ [event]) (window ++ [event])

/-- The events that are let through in a span of the length of a window. -/
def passed (limit : ℕ) (start : Time) (events : List Event) : ℕ :=
  events.countP fun event =>
    number event ≤ limit ∧ start ≤ time event ∧ time event < start + length

variable {time number length}

theorem passed_append (limit : ℕ) (start : Time) (first second : List Event) :
    passed time number length limit start (first ++ second) =
      passed time number length limit start first +
        passed time number length limit start second :=
  List.countP_append

theorem passed_eq_zero {limit : ℕ} {start : Time} {events : List Event}
    (outside : ∀ event ∈ events, start ≤ time event → ¬ time event < start + length) :
    passed time number length limit start events = 0 := by
  apply List.countP_eq_zero.mpr
  intro event eventMem isPassed
  simp only [decide_eq_true_eq] at isPassed
  exact outside event eventMem isPassed.2.1 isPassed.2.2

variable (time number length) in
/-- How the last window follows the events before it. -/
structure Reaches (limit : ℕ) (start : Time) (previous window : List Event) : Prop where
  twice : passed time number length limit start previous ≤ 2 * limit
  earlier : ∀ first ∈ window.head?, ∀ event ∈ previous, time event ≤ time first
  later : ∀ first ∈ window.head?, ∀ event ∈ window, time first ≤ time event
  once : ∀ first ∈ window.head?, time first < start + length →
    passed time number length limit start previous ≤ limit

theorem Reaches.passed_le {limit : ℕ} {start : Time} {previous window : List Event}
    (reaches : Reaches time number length limit start previous window)
    (ofWindow : passed time number length limit start window ≤ limit) :
    passed time number length limit start (previous ++ window) ≤ 2 * limit := by
  have twice := reaches.twice
  rw [passed_append]
  cases isWindow : window with
  | nil => simpa [passed] using twice
  | cons first rest =>
      have isFirst : first ∈ window.head? := by simp [isWindow]
      rw [← isWindow]
      by_cases inside : time first < start + length
      · have once := reaches.once first isFirst inside
        omega
      · have none : passed time number length limit start window = 0 := by
          apply passed_eq_zero
          intro event eventMem _ ends
          exact inside (lt_of_le_of_lt (reaches.later first isFirst event eventMem) ends)
        omega

theorem countP_range' (limit count : ℕ) :
    (List.range' 1 count).countP (fun number => number ≤ limit) = min count limit := by
  induction count with
  | zero => simp
  | succ count ih =>
      rw [List.range'_1_concat, List.countP_append, ih]
      by_cases isPassed : 1 + count ≤ limit
      · simp [isPassed]
        omega
      · simp [isPassed]
        omega

namespace Windows

variable {events window : List Event} (windows : Windows time number length events window)

include windows

theorem numbers : window.map number = List.range' 1 window.length := by
  induction windows with
  | none => rfl
  | opens windows latest apart first ih => simp [first]
  | continues windows latest opened next ih =>
      simp [ih, next, List.range'_1_concat, Nat.add_comm]

theorem subset : window ⊆ events := by
  induction windows with
  | none => simp
  | opens windows latest apart first ih => simp
  | continues windows latest opened next ih =>
      intro event eventMem
      rcases List.mem_append.mp eventMem with earlier | last
      · exact List.mem_append_left _ (ih earlier)
      · exact List.mem_append_right _ last

theorem passed_window (limit : ℕ) (start : Time) :
    passed time number length limit start window ≤ limit := by
  have numbered : window.countP (fun event => number event ≤ limit) ≤ limit := by
    have counted := List.countP_map (p := (· ≤ limit)) (f := number) (l := window)
    rw [windows.numbers, countP_range'] at counted
    exact le_trans (le_of_eq counted.symm) (Nat.min_le_right _ _)
  apply le_trans _ numbered
  apply List.countP_mono_left
  intro event _ isPassed
  simp only [decide_eq_true_eq] at isPassed ⊢
  exact isPassed.1

theorem events_eq_nil (unopened : window = []) : events = [] := by
  cases windows with
  | none => rfl
  | opens windows latest apart first => simp at unopened
  | continues windows latest opened next => simp at unopened

/-- The last window begins after the events before it, of which no more than the limit are let
through in a span that it begins in. -/
theorem reaches [AddRightMono Time] (limit : ℕ) (start : Time) :
    ∃ previous, events = previous ++ window ∧
      Reaches time number length limit start previous window := by
  induction windows with
  | none =>
      refine ⟨[], rfl, ?_⟩
      constructor <;> simp [passed]
  | continues windows latest opened next ih =>
      rename_i events window event
      obtain ⟨previous, rfl, reaches⟩ := ih
      obtain ⟨first, rest, rfl⟩ := List.exists_cons_of_ne_nil opened
      refine ⟨previous, by simp, reaches.twice, ?_, ?_, ?_⟩
      · simpa using reaches.earlier
      · intro other isFirst visited visitedMem
        obtain rfl : first = other := by simpa using isFirst
        rcases List.mem_append.mp visitedMem with inWindow | isLast
        · exact reaches.later first rfl visited inWindow
        · obtain rfl := List.mem_singleton.mp isLast
          apply latest
          simp
      · simpa using reaches.once
  | opens windows latest apart first ih =>
      rename_i events window event
      have ofWindow := windows.passed_window limit start
      obtain ⟨previous, isSplit, reaches⟩ := ih
      refine ⟨events, rfl, ?_, ?_, ?_, ?_⟩
      · rw [isSplit]
        exact reaches.passed_le ofWindow
      · simpa using latest
      · simp
      · intro other isFirst inside
        obtain rfl : event = other := by simpa using isFirst
        cases window with
        | nil => simp [windows.events_eq_nil rfl, passed]
        | cons opening rest =>
            have before : time opening < start := by
              by_contra after
              have later : start + length ≤ time opening + length := by
                gcongr
                exact not_lt.mp after
              exact absurd inside (not_lt.mpr (later.trans (apart opening rfl)))
            have none : passed time number length limit start previous = 0 := by
              apply passed_eq_zero
              intro visited visitedMem afterStart
              have := reaches.earlier opening rfl visited visitedMem
              exact absurd (afterStart.trans this) (not_le.mpr before)
            rw [isSplit, passed_append, none]
            omega

/-- In every span of the length of a window no more than twice the limit are let through. -/
theorem passed_le [AddRightMono Time] (limit : ℕ) (start : Time) :
    passed time number length limit start events ≤ 2 * limit := by
  obtain ⟨previous, rfl, reaches⟩ := windows.reaches limit start
  exact reaches.passed_le (windows.passed_window limit start)

end Windows

end ImigrAI.FixedWindows
