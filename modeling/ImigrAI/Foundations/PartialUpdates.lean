import Mathlib.Data.Option.Basic
import Mathlib.Tactic.Common

/-!
# Partial updates

A partial update leaves a column alone, sets it to null or sets it to a value. A value is kept
in its stored form, and some values cannot be stored.
-/

namespace ImigrAI.PartialUpdates

universe u v

variable {Value : Type u} {Column : Type v}

/-- The column after an update. -/
def assigned (stored : Value → Option Column) (setting : Option (Option Value))
    (loaded : Option Column) : Option Column :=
  match setting with
  | none => loaded
  | some value => value.bind stored

theorem getD_map_bind (stored : Value → Option Column) (setting : Option (Option Value))
    (loaded : Option Column) :
    (setting.map (·.bind stored)).getD loaded = assigned stored setting loaded := by
  cases setting <;> rfl

/-- A value that is set can be stored. -/
def Accepted (stored : Value → Option Column) (setting : Option (Option Value)) : Prop :=
  ∀ value, setting = some (some value) → (stored value).isSome

instance (stored : Value → Option Column) :
    (setting : Option (Option Value)) → Decidable (Accepted stored setting)
  | none => isTrue (by simp [Accepted])
  | some none => isTrue (by simp [Accepted])
  | some (some value) => decidable_of_iff ((stored value).isSome = true) (by simp [Accepted])

/-- An update of a column: left alone it keeps its value, and otherwise it is null or holds the
stored form of the value. -/
structure Sets (stored : Value → Option Column) (setting : Option (Option Value))
    (before after : Option Column) : Prop where
  unset : setting = none → after = before
  null : setting = some none → after = none
  value : ∀ value, setting = some (some value) →
    ∃ kept, stored value = some kept ∧ after = some kept

theorem sets_assigned {stored : Value → Option Column} {setting : Option (Option Value)}
    (accepted : Accepted stored setting) (before : Option Column) :
    Sets stored setting before (assigned stored setting before) where
  unset := by
    rintro rfl
    rfl
  null := by
    rintro rfl
    rfl
  value := by
    rintro value rfl
    rcases Option.isSome_iff_exists.mp (accepted value rfl) with ⟨kept, isKept⟩
    exact ⟨kept, isKept, isKept⟩

/-- A column that has a value after the update was set to one, or left alone. -/
theorem assigned_ne_none {stored : Value → Option Column} {setting : Option (Option Value)}
    {loaded : Column} (accepted : Accepted stored setting) :
    assigned stored setting (some loaded) ≠ none ↔ setting ≠ some none := by
  match setting with
  | none => simp [assigned]
  | some none => simp [assigned]
  | some (some value) =>
      have isSome := accepted value rfl
      simpa [assigned] using Option.isSome_iff_ne_none.mp isSome

end ImigrAI.PartialUpdates
