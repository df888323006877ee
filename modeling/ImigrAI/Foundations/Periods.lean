import Mathlib.Data.Set.BooleanAlgebra
import Mathlib.Order.CompletePartialOrder
import Mathlib.Order.Interval.Set.LinearOrder

/-!
# Periods

Half-open periods over a linear order, and collections of entries whose live members of one
owner are never in force together. A change of a collection keeps this when it touches one
entry and the touched entry stands apart from the live ones that stay.
-/

namespace ImigrAI.Periods

universe u v w x

variable {Time : Type u} [LinearOrder Time]

/-- The instants from `start` up to `stop`, which is not one of them. -/
structure Period (Time : Type u) where
  start : Time
  stop : Time

namespace Period

def instants (period : Period Time) : Set Time := Set.Ico period.start period.stop

/-- The comparison of bounds that stands for a common instant. -/
def Meets (first second : Period Time) : Prop :=
  first.start < second.stop ∧ second.start < first.stop

instance (first second : Period Time) : Decidable (first.Meets second) :=
  inferInstanceAs (Decidable (_ ∧ _))

theorem disjoint_of_not_meets {first second : Period Time} (apart : ¬ first.Meets second) :
    Disjoint first.instants second.instants := by
  rw [Set.disjoint_left]
  rintro time ⟨firstStart, firstStop⟩ ⟨secondStart, secondStop⟩
  exact apart ⟨firstStart.trans_lt secondStop, secondStart.trans_lt firstStop⟩

/-- For periods that are not empty the comparison is exact. -/
theorem meets_iff_not_disjoint {first second : Period Time} (firstLt : first.start < first.stop)
    (secondLt : second.start < second.stop) :
    first.Meets second ↔ ¬ Disjoint first.instants second.instants := by
  refine ⟨?_, fun common => by_contra fun apart => common (disjoint_of_not_meets apart)⟩
  rintro ⟨firstSecond, secondFirst⟩ disjoint
  have latest : max first.start second.start ∈ first.instants :=
    ⟨le_max_left _ _, max_lt firstLt secondFirst⟩
  exact Set.disjoint_left.mp disjoint latest ⟨le_max_right _ _, max_lt firstSecond secondLt⟩

end Period

variable {Entry : Type v} {Key : Type w} {Owner : Type x}
variable (key : Entry → Key) (owner : Entry → Owner) (live : Entry → Prop)
variable (period : Entry → Period Time)

/-- Different live entries of one owner have no instant in common. -/
def DisjointLive (entries : List Entry) : Prop :=
  ∀ first ∈ entries, ∀ second ∈ entries, live first → live second →
    owner first = owner second → key first ≠ key second →
    Disjoint (period first).instants (period second).instants

variable {key owner live period}

/-- A change that leaves every live entry but one as it was. -/
theorem DisjointLive.change {before after : List Entry} {changed : Key}
    (disjoint : DisjointLive key owner live period before)
    (kept : ∀ entry ∈ after, live entry → key entry ≠ changed → entry ∈ before)
    (apart : ∀ entry ∈ after, ∀ other ∈ after, live entry → live other →
      owner entry = owner other → key entry = changed → key other ≠ changed →
      Disjoint (period entry).instants (period other).instants) :
    DisjointLive key owner live period after := by
  intro first firstMem second secondMem firstLive secondLive sameOwner different
  by_cases firstChanged : key first = changed
  · exact apart first firstMem second secondMem firstLive secondLive sameOwner firstChanged
      fun secondChanged => different (firstChanged.trans secondChanged.symm)
  · by_cases secondChanged : key second = changed
    · exact (apart second secondMem first firstMem secondLive firstLive sameOwner.symm
        secondChanged firstChanged).symm
    · exact disjoint first (kept first firstMem firstLive firstChanged) second
        (kept second secondMem secondLive secondChanged) firstLive secondLive sameOwner different

end ImigrAI.Periods
