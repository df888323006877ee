import ImigrAI.Foundations.Runs

/-!
# Writes under row policies

A table whose policy decides which rows a principal may touch: a write changes only rows that are
admitted, into rows that are admitted. If every principal is admitted to the rows of one tenant at
most, then each tenant has a table of its own.
-/

namespace ImigrAI.RowPolicies

open Runs

universe u v w

/-- A statement that writes rows of one table. -/
inductive Write (Row : Type u) where
  | insert (row : Row)
  | update (selects : Row → Bool) (change : Row → Row)
  | delete (selects : Row → Bool)

/-- A write of a principal. It may be aborted for reasons other than the policy. -/
structure Statement (Principal : Type v) (Row : Type u) where
  principal : Principal
  write : Write Row
  aborted : Bool

section Write

variable {Row : Type u} (admits : Row → Bool)

/-- The row after an update, which changes it if it is admitted and selected. -/
def updated (selects : Row → Bool) (change : Row → Row) (row : Row) : Row :=
  if admits row && selects row then change row else row

/-- An update changes admitted rows into admitted rows. -/
def Allowed (rows : List Row) (selects : Row → Bool) (change : Row → Row) : Prop :=
  ∀ row ∈ rows, admits row → selects row → admits (change row)

instance (rows : List Row) (selects : Row → Bool) (change : Row → Row) :
    Decidable (Allowed admits rows selects change) :=
  inferInstanceAs (Decidable (∀ row ∈ rows, _))

/-- The rows after a write, which a row that is not admitted makes fail. -/
def write (rows : List Row) : Write Row → List Row
  | .insert row => if admits row then rows ++ [row] else rows
  | .update selects change =>
      if Allowed admits rows selects change then rows.map (updated admits selects change)
      else rows
  | .delete selects => rows.filter fun row => !(admits row && selects row)

variable {admits} {rows : List Row} {keeps : Row → Bool}

theorem filter_map_of_same {change : Row → Row}
    (same : ∀ row ∈ rows, keeps (change row) = keeps row) :
    (rows.map change).filter keeps = (rows.filter keeps).map change := by
  rw [List.filter_map]
  congr 1
  apply List.filter_congr
  intro row rowMem
  exact same row rowMem

/-- Rows that are not admitted stay as they are. -/
theorem filter_write_of_not_admits (apart : ∀ row, admits row → keeps row = false)
    (statement : Write Row) : (write admits rows statement).filter keeps = rows.filter keeps := by
  cases statement with
  | insert row =>
      by_cases admitted : admits row
      · simp [write, admitted, apart row admitted]
      · simp [write, admitted]
  | update selects change =>
      rw [write]
      split_ifs with allowed
      · rw [filter_map_of_same]
        · apply (List.map_congr_left _).trans (List.map_id _)
          intro row kept
          have notAdmitted : admits row = false := by
            by_contra admitted
            have out := apart row (by simpa using admitted)
            simp [(List.mem_filter.mp kept).2] at out
          simp [updated, notAdmitted]
        · intro row rowMem
          unfold updated
          split_ifs with changed
          · rw [Bool.and_eq_true] at changed
            rw [apart row changed.1, apart _ (allowed row rowMem changed.1 changed.2)]
          · rfl
      · rfl
  | delete selects =>
      simp only [write, List.filter_filter]
      apply List.filter_congr
      intro row _
      cases admitted : admits row with
      | true => simp [apart row admitted]
      | false => simp

theorem allowed_filter_iff {selects : Row → Bool} {change : Row → Row} :
    Allowed admits (rows.filter admits) selects change ↔ Allowed admits rows selects change := by
  simp only [Allowed, List.mem_filter]
  constructor
  · intro allowed row rowMem admitted
    exact allowed row ⟨rowMem, admitted⟩ admitted
  · intro allowed row rowMem
    exact allowed row rowMem.1

/-- A write acts on the rows that are admitted as if there were no others. -/
theorem filter_write (statement : Write Row) :
    (write admits rows statement).filter admits = write admits (rows.filter admits) statement := by
  cases statement with
  | insert row =>
      by_cases admitted : admits row
      · simp [write, admitted]
      · simp [write, admitted]
  | update selects change =>
      simp only [write, allowed_filter_iff]
      split_ifs with allowed
      · apply filter_map_of_same
        intro row rowMem
        unfold updated
        split_ifs with changed
        · rw [Bool.and_eq_true] at changed
          rw [changed.1, allowed row rowMem changed.1 changed.2]
        · rfl
      · rfl
  | delete selects =>
      simp only [write, List.filter_filter]
      apply List.filter_congr
      intro row _
      rw [Bool.and_comm]

end Write

section Runs

variable {Principal : Type v} {Row : Type u} (admits : Principal → Row → Bool)

def execute (rows : List Row) (statement : Statement Principal Row) : List Row :=
  if statement.aborted then rows else write (admits statement.principal) rows statement.write

variable {admits} {Tenant : Type w} [DecidableEq Tenant] {owner : Row → Tenant}
  {tenantOf : Principal → Option Tenant}

/-- The principal of a statement is admitted to the rows of one tenant, if any. -/
def OneTenant (admits : Principal → Row → Bool) (owner : Row → Tenant)
    (tenantOf : Principal → Option Tenant) (statement : Statement Principal Row) : Prop :=
  ∀ row, admits statement.principal row ↔ tenantOf statement.principal = some (owner row)

/-- The rows of a tenant after a statement: the tenant's own statements act on them alone, and
those of others do not change them. -/
theorem filter_execute {statement : Statement Principal Row}
    (admitted : OneTenant admits owner tenantOf statement) (tenant : Tenant) (rows : List Row) :
    (execute admits rows statement).filter (owner · = tenant) =
      if tenantOf statement.principal = some tenant then
        execute admits (rows.filter (owner · = tenant)) statement
      else rows.filter (owner · = tenant) := by
  unfold execute
  split_ifs with aborted own own
  · rfl
  · rfl
  · have same : (fun row => decide (owner row = tenant)) = admits statement.principal := by
      funext row
      rw [Bool.eq_iff_iff, admitted, own]
      simp [eq_comm]
    rw [same]
    exact filter_write statement.write
  · apply filter_write_of_not_admits
    intro row isAdmitted
    rw [admitted] at isAdmitted
    simp only [decide_eq_false_iff_not]
    rintro rfl
    exact own isAdmitted

/-- The rows of a tenant after a run of statements of any tenants are what the tenant's own
statements make of the tenant's rows. -/
theorem filter_run {statements : List (Statement Principal Row)}
    (admitted : ∀ statement ∈ statements, OneTenant admits owner tenantOf statement)
    (tenant : Tenant) (rows : List Row) :
    (run (execute admits) rows statements).filter (owner · = tenant) =
      run (execute admits) (rows.filter (owner · = tenant))
        (statements.filter fun statement => tenantOf statement.principal = some tenant) := by
  induction statements generalizing rows with
  | nil => rfl
  | cons statement rest ih =>
      rw [List.forall_mem_cons] at admitted
      rw [run_cons, ih admitted.2, filter_execute admitted.1]
      by_cases own : tenantOf statement.principal = some tenant
      · rw [if_pos own, List.filter_cons_of_pos (by simpa using own), run_cons]
      · rw [if_neg own, List.filter_cons_of_neg (by simpa using own)]

end Runs

end ImigrAI.RowPolicies
