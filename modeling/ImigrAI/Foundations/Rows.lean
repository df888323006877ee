import Mathlib.Data.List.Nodup
import Mathlib.Data.List.Pairwise
import Mathlib.Tactic.Common

/-!
# Rows of a table

An update of a row of a table, found by its key.
-/

namespace ImigrAI.Rows

universe u v

variable {Row : Type u} {Key : Type v} [DecidableEq Key]

/-- The row in the place of the one with its key. -/
def replaceRow (key : Row → Key) (row : Row) (rows : List Row) : List Row :=
  rows.map fun old => if key old = key row then row else old

variable {key : Row → Key} {row other : Row} {rows : List Row}

theorem of_mem_replaceRow (mem : other ∈ replaceRow key row rows) :
    other = row ∨ other ∈ rows ∧ key other ≠ key row := by
  rcases List.mem_map.mp mem with ⟨old, oldMem, rfl⟩
  split_ifs with replaced
  · exact Or.inl rfl
  · exact Or.inr ⟨oldMem, replaced⟩

theorem mem_replaceRow_of_ne (mem : other ∈ rows) (different : key other ≠ key row) :
    other ∈ replaceRow key row rows :=
  List.mem_map.mpr ⟨other, mem, if_neg different⟩

theorem self_mem_replaceRow (key : Row → Key) (row : Row) (mem : other ∈ rows)
    (same : key other = key row) : row ∈ replaceRow key row rows :=
  List.mem_map.mpr ⟨other, mem, if_pos same⟩

theorem mem_replaceRow_iff (stored : ∃ old ∈ rows, key old = key row) :
    other ∈ replaceRow key row rows ↔ other = row ∨ other ∈ rows ∧ key other ≠ key row := by
  refine ⟨of_mem_replaceRow, ?_⟩
  rcases stored with ⟨old, oldMem, same⟩
  rintro (rfl | ⟨mem, different⟩)
  · exact self_mem_replaceRow key other oldMem same
  · exact mem_replaceRow_of_ne mem different

omit [DecidableEq Key] in
/-- A fact about every row with the key of a stored one is a fact about this row. -/
theorem forall_key_iff {property : Row → Prop} (keys : (rows.map key).Nodup) (mem : row ∈ rows) :
    (∀ other ∈ rows, key other = key row → property other) ↔ property row := by
  constructor
  · intro holds
    exact holds row mem rfl
  · intro holds other otherMem same
    rw [List.inj_on_of_nodup_map keys otherMem mem same]
    exact holds

/-- What the row shares with the one it replaces is kept. -/
theorem map_replaceRow {Column : Type*} {column : Row → Column}
    (same : ∀ old ∈ rows, key old = key row → column old = column row) :
    (replaceRow key row rows).map column = rows.map column := by
  rw [replaceRow, List.map_map]
  refine List.map_congr_left fun old oldMem => ?_
  simp only [Function.comp_apply]
  split_ifs with replaced
  · exact (same old oldMem replaced).symm
  · rfl

/-- A row that is stored already replaces itself. -/
theorem replaceRow_self (same : ∀ old ∈ rows, key old = key row → old = row) :
    replaceRow key row rows = rows := by
  have columns : (replaceRow key row rows).map id = rows.map id := map_replaceRow same
  rwa [List.map_id, List.map_id] at columns

/-- The later of two updates of a row stands. -/
theorem replaceRow_replaceRow (same : key row = key other) :
    replaceRow key other (replaceRow key row rows) = replaceRow key other rows := by
  rw [replaceRow, replaceRow, replaceRow, List.map_map]
  apply List.map_congr_left
  intro old _
  rw [Function.comp_apply]
  by_cases replaced : key old = key row
  · rw [if_pos replaced, if_pos same, if_pos (replaced.trans same)]
  · rw [if_neg replaced]

/-- A query that selects neither the row nor the one it replaces sees no change. -/
theorem filter_replaceRow {selects : Row → Bool} (row_out : selects row = false)
    (old_out : ∀ old ∈ rows, key old = key row → selects old = false) :
    (replaceRow key row rows).filter selects = rows.filter selects := by
  induction rows with
  | nil => rfl
  | cons first rest ih =>
      have rest_out : ∀ old ∈ rest, key old = key row → selects old = false :=
        fun old oldMem => old_out old (List.mem_cons_of_mem _ oldMem)
      rw [replaceRow, List.map_cons, ← replaceRow]
      split_ifs with replaced
      · rw [List.filter_cons_of_neg (by simp [row_out]), ih rest_out,
          List.filter_cons_of_neg (by simp [old_out first List.mem_cons_self replaced])]
      · rw [List.filter_cons, List.filter_cons, ih rest_out]

/-- A lookup by the key finds the new row in the place of the one it replaces. -/
theorem find?_replaceRow (key : Row → Key) (row : Row) (rows : List Row) (sought : Key) :
    (replaceRow key row rows).find? (fun stored => decide (key stored = sought)) =
      (rows.find? fun stored => decide (key stored = sought)).map fun old =>
        if key old = key row then row else old := by
  induction rows with
  | nil => rfl
  | cons first rest ih =>
      have sameKey : key (if key first = key row then row else first) = key first := by
        split_ifs with replaced
        · exact replaced.symm
        · rfl
      rw [replaceRow, List.map_cons, ← replaceRow, List.find?_cons, List.find?_cons, sameKey]
      cases decide (key first = sought) with
      | true => rfl
      | false => exact ih

/-- An updated row keeps a column unique exactly if no other row has its value. -/
theorem nodup_map_replaceRow {Column : Type*} {column : Row → Column}
    (keys : (rows.map key).Nodup) (unique : (rows.map column).Nodup)
    (stored : ∃ old ∈ rows, key old = key row) :
    ((replaceRow key row rows).map column).Nodup ↔
      ∀ old ∈ rows, key old ≠ key row → column old ≠ column row := by
  have distinct : (replaceRow key row rows).Nodup := by
    apply List.Nodup.of_map key
    rwa [map_replaceRow fun _ _ same => same]
  rw [List.nodup_map_iff_inj_on distinct]
  constructor
  · intro injective old oldMem different same
    have mem := mem_replaceRow_of_ne oldMem different
    have isRow := injective old mem row ((mem_replaceRow_iff stored).mpr (Or.inl rfl)) same
    exact different (congrArg key isRow)
  · intro apart first firstMem second secondMem same
    rcases of_mem_replaceRow firstMem with rfl | ⟨firstOld, firstOther⟩
    · rcases of_mem_replaceRow secondMem with rfl | ⟨secondOld, secondOther⟩
      · rfl
      · exact absurd same.symm (apart second secondOld secondOther)
    · rcases of_mem_replaceRow secondMem with rfl | ⟨secondOld, -⟩
      · exact absurd same (apart first firstOld firstOther)
      · exact List.inj_on_of_nodup_map unique firstOld secondOld same

/-- A new row keeps a column unique exactly if its value is new. -/
theorem nodup_map_append_singleton {Column : Type*} {column : Row → Column} :
    ((rows ++ [row]).map column).Nodup ↔ column row ∉ rows.map column ∧ (rows.map column).Nodup := by
  rw [List.map_append, List.map_singleton, ← List.concat_eq_append, List.nodup_concat]

/-- A new row keeps a nullable column unique exactly if its value, if any, is new. -/
theorem nodup_filterMap_append_singleton {Column : Type*} {column : Row → Option Column} :
    ((rows ++ [row]).filterMap column).Nodup ↔
      (∀ value, column row = some value → ∀ other ∈ rows, column other ≠ some value) ∧
        (rows.filterMap column).Nodup := by
  rw [List.filterMap_append]
  cases value : column row with
  | none => simp [value]
  | some value =>
      rw [List.filterMap_cons_some ‹_›, List.filterMap_nil, ← List.concat_eq_append,
        List.nodup_concat, List.mem_filterMap]
      simp

/-- A row is found by its value in a unique column. -/
theorem find?_eq_some_iff_of_nodup {Column : Type*} [DecidableEq Column] {column : Row → Column}
    (unique : (rows.map column).Nodup) {sought : Column} :
    rows.find? (fun stored => decide (column stored = sought)) = some row ↔
      row ∈ rows ∧ column row = sought := by
  constructor
  · intro found
    exact ⟨List.mem_of_find?_eq_some found, by simpa using List.find?_some found⟩
  · rintro ⟨mem, selected⟩
    cases found : rows.find? fun stored => decide (column stored = sought) with
    | none =>
        have missing := List.find?_eq_none.mp found row mem
        simp [selected] at missing
    | some other =>
        have otherSelected : column other = sought := by simpa using List.find?_some found
        rw [List.inj_on_of_nodup_map unique (List.mem_of_find?_eq_some found) mem
          (otherSelected.trans selected.symm)]

/-- Two rows with the same value in a unique nullable column are the same. -/
theorem eq_of_nodup_filterMap {Column : Type*} {column : Row → Option Column}
    (unique : (rows.filterMap column).Nodup) (mem : row ∈ rows) (otherMem : other ∈ rows)
    {value : Column} (rowValue : column row = some value) (otherValue : column other = some value) :
    row = other := by
  by_contra different
  rw [List.Nodup, List.pairwise_filterMap] at unique
  have symmetric : Std.Symm fun left right : Row =>
      ∀ first, column left = some first → ∀ second, column right = some second → first ≠ second :=
    ⟨fun _ _ apart _ rightValue _ leftValue => (apart _ leftValue _ rightValue).symm⟩
  exact unique.forall mem otherMem different value rowValue value otherValue rfl

end ImigrAI.Rows
