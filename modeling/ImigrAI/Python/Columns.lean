import ImigrAI.Python.Datetime
import ImigrAI.Python.Uuid

/-!
# Nullable columns

What the constraints and the queries of the program's tables say about columns that may be
null.
-/

namespace ImigrAI.Python

/-- What a unique constraint compares: a null differs from every value. -/
def nonNull {Column Rest : Type} (columns : Option Column × Rest) : Option (Column × Rest) :=
  columns.1.map fun column => (column, columns.2)

/-- A nullable foreign key refers to one of these rows. -/
def Refers (ids : List UUID) : Option UUID → Prop
  | none => True
  | some id => id ∈ ids

instance (ids : List UUID) : (id : Option UUID) → Decidable (Refers ids id)
  | none => inferInstanceAs (Decidable True)
  | some id => inferInstanceAs (Decidable (id ∈ ids))

/-- `column IS NULL OR column > instant`. -/
def EndsAfter (instant : Instant) : Option Instant → Prop
  | none => True
  | some column => instant < column

instance (instant : Instant) : (column : Option Instant) → Decidable (EndsAfter instant column)
  | none => inferInstanceAs (Decidable True)
  | some column => inferInstanceAs (Decidable (instant < column))

end ImigrAI.Python
