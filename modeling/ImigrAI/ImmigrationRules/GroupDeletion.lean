import ImigrAI.Foundations.Fallible
import ImigrAI.ImmigrationRules.Models

/-!
# Deleting a rule group

`delete_rule_group` over the tables of groups, conditions, outcomes and assessment result items.
The session sets the group of every loaded child to null before it deletes the group, so the
`ON DELETE CASCADE` of the children is only reached by a group that has none.
-/

namespace ImigrAI.ImmigrationRules

open Python Fallible

/-- A row of a table with its reference to a rule group; in the database it is not null. -/
structure GroupChild (Columns : Type) where
  ruleGroupId : Option UUID
  columns : Columns

/-- A result item with its references, all of which are nullable. -/
structure ResultItem (Columns : Type) where
  ruleGroupId : Option UUID
  ruleConditionId : Option UUID
  ruleOutcomeId : Option UUID
  columns : Columns

/-- A group without its children. -/
structure RuleGroupRow where
  id : UUID
  programVersionId : UUID
  code : String
  name : String
  description : Option String
  priority : ℤ
  matchOperator : RuleGroupMatchOperator
  isActive : Bool

structure GroupTables (Columns Others : Type) where
  ruleGroups : List RuleGroupRow
  ruleConditions : List (GroupChild RuleCondition)
  ruleOutcomes : List (GroupChild RuleOutcome)
  resultItems : List (ResultItem Columns)
  others : Others

variable {Columns Others : Type}

/-- Every child has a group, and its group is a row. -/
def ChildrenRefer {Child : Type} (groupIds : List UUID) (children : List (GroupChild Child)) :
    Prop :=
  ∀ child ∈ children, ∃ id ∈ groupIds, child.ruleGroupId = some id

/-- The keys of these tables and what the result items refer to. -/
structure GroupsConsistent (tables : GroupTables Columns Others) : Prop where
  groupIds : (tables.ruleGroups.map (·.id)).Nodup
  groupCodes : (tables.ruleGroups.map fun group => (group.programVersionId, group.code)).Nodup
  conditionIds : (tables.ruleConditions.map (·.columns.id)).Nodup
  conditionGroups : ChildrenRefer (tables.ruleGroups.map (·.id)) tables.ruleConditions
  outcomeIds : (tables.ruleOutcomes.map (·.columns.id)).Nodup
  outcomeGroups : ChildrenRefer (tables.ruleGroups.map (·.id)) tables.ruleOutcomes
  itemGroups : ∀ item ∈ tables.resultItems,
    Refers (tables.ruleGroups.map (·.id)) item.ruleGroupId
  itemConditions : ∀ item ∈ tables.resultItems,
    Refers (tables.ruleConditions.map (·.columns.id)) item.ruleConditionId
  itemOutcomes : ∀ item ∈ tables.resultItems,
    Refers (tables.ruleOutcomes.map (·.columns.id)) item.ruleOutcomeId

/-- `UPDATE children SET rule_group_id = NULL`, for the loaded children of a group. -/
def detachChildren {Child : Type} (ruleGroupId : UUID) (children : List (GroupChild Child)) :
    Except ServiceError (List (GroupChild Child)) :=
  let detached := children.map fun child =>
    if child.ruleGroupId = some ruleGroupId then { child with ruleGroupId := none } else child
  if detached.all (·.ruleGroupId.isSome) then .ok detached else .error .integrityError

/-- `ON DELETE CASCADE`. -/
def cascade {Child : Type} (ruleGroupId : UUID) (children : List (GroupChild Child)) :
    List (GroupChild Child) :=
  children.filter fun child => child.ruleGroupId ≠ some ruleGroupId

/-- `ON DELETE SET NULL`. -/
def setNull (deleted : List UUID) (reference : Option UUID) : Option UUID :=
  reference.filter fun id => id ∉ deleted

/-- The ids of the children of a group. -/
def childIds {Child : Type} (key : Child → UUID) (ruleGroupId : UUID)
    (children : List (GroupChild Child)) : List UUID :=
  (children.filter fun child => child.ruleGroupId = some ruleGroupId).map fun child =>
    key child.columns

/-- `DELETE FROM rule_groups`, with what the foreign keys make of the other rows. -/
def deleteGroupRow (ruleGroupId : UUID) (tables : GroupTables Columns Others) :
    GroupTables Columns Others :=
  { tables with
    ruleGroups := tables.ruleGroups.filter fun group => group.id ≠ ruleGroupId
    ruleConditions := cascade ruleGroupId tables.ruleConditions
    ruleOutcomes := cascade ruleGroupId tables.ruleOutcomes
    resultItems := tables.resultItems.map fun item => { item with
      ruleGroupId := setNull [ruleGroupId] item.ruleGroupId
      ruleConditionId :=
        setNull (childIds (·.id) ruleGroupId tables.ruleConditions) item.ruleConditionId
      ruleOutcomeId :=
        setNull (childIds (·.id) ruleGroupId tables.ruleOutcomes) item.ruleOutcomeId } }

/-- The flush after `session.delete(rule_group)`: the children are updated first. -/
def flushDeletion (ruleGroupId : UUID) (tables : GroupTables Columns Others) :
    Except ServiceError (GroupTables Columns Others) := do
  let ruleConditions ← detachChildren ruleGroupId tables.ruleConditions
  let ruleOutcomes ← detachChildren ruleGroupId tables.ruleOutcomes
  return deleteGroupRow ruleGroupId { tables with
    ruleConditions := ruleConditions
    ruleOutcomes := ruleOutcomes }

/-- `get_rule_group`. -/
def findRuleGroup (tables : GroupTables Columns Others) (ruleGroupId : UUID) :
    Except ServiceError (Option RuleGroupRow) :=
  scalarOneOrNone (tables.ruleGroups.filter fun group => group.id = ruleGroupId)

/-- The group is found and its deletion is sent. -/
def sendDeletion (tables : GroupTables Columns Others) (ruleGroupId : UUID) :
    Except ServiceError (GroupTables Columns Others) := do
  match ← findRuleGroup tables ruleGroupId with
  | none => .error (.http 404 "Rule group not found")
  | some _ => flushDeletion ruleGroupId tables

/-- `delete_rule_group`, with the tables that are committed after it. -/
def deleteRuleGroup (tables : GroupTables Columns Others) (ruleGroupId : UUID) :
    Except ServiceError Unit × GroupTables Columns Others :=
  match sendDeletion tables ruleGroupId with
  | .ok deleted => (.ok (), deleted)
  | .error error => (.error error, tables)

/-- A reference to a row that is removed is null, and any other is unchanged. -/
def LosesReference (removed : UUID → Prop) (before after : Option UUID) : Prop :=
  (∀ id, before = some id → removed id → after = none) ∧
    ((∀ id, before = some id → ¬ removed id) → after = before)

/-- The id is that of a child of the group. -/
def IsChildOf {Child : Type} (key : Child → UUID) (children : List (GroupChild Child))
    (ruleGroupId id : UUID) : Prop :=
  ∃ child ∈ children, child.ruleGroupId = some ruleGroupId ∧ key child.columns = id

/-- The group is removed with its conditions and outcomes and nothing else, and result items keep
their rows. -/
structure RemovesGroup (ruleGroupId : UUID) (before after : GroupTables Columns Others) :
    Prop where
  groups : after.ruleGroups = before.ruleGroups.filter fun group => group.id ≠ ruleGroupId
  conditions : after.ruleConditions =
    before.ruleConditions.filter fun child => child.ruleGroupId ≠ some ruleGroupId
  outcomes : after.ruleOutcomes =
    before.ruleOutcomes.filter fun child => child.ruleGroupId ≠ some ruleGroupId
  items : List.Forall₂ (fun old new : ResultItem Columns =>
      new.columns = old.columns ∧
        LosesReference (· = ruleGroupId) old.ruleGroupId new.ruleGroupId ∧
        LosesReference (IsChildOf (·.id) before.ruleConditions ruleGroupId)
          old.ruleConditionId new.ruleConditionId ∧
        LosesReference (IsChildOf (·.id) before.ruleOutcomes ruleGroupId)
          old.ruleOutcomeId new.ruleOutcomeId)
    before.resultItems after.resultItems
  others : after.others = before.others

/-- The call returns and has removed the group. -/
def Deletes (tables : GroupTables Columns Others) (ruleGroupId : UUID) : Prop :=
  (deleteRuleGroup tables ruleGroupId).1 = .ok () ∧
    RemovesGroup ruleGroupId tables (deleteRuleGroup tables ruleGroupId).2

/-- The group has no condition and no outcome. -/
def Childless (tables : GroupTables Columns Others) (ruleGroupId : UUID) : Prop :=
  (∀ child ∈ tables.ruleConditions, child.ruleGroupId ≠ some ruleGroupId) ∧
    ∀ child ∈ tables.ruleOutcomes, child.ruleGroupId ≠ some ruleGroupId

section Statements

variable {Child : Type} {ruleGroupId : UUID} {children : List (GroupChild Child)}

theorem detachChildren_of_childless
    (childless : ∀ child ∈ children, child.ruleGroupId ≠ some ruleGroupId)
    {groupIds : List UUID} (refer : ChildrenRefer groupIds children) :
    detachChildren ruleGroupId children = .ok children := by
  have unchanged : (children.map fun child =>
      if child.ruleGroupId = some ruleGroupId then { child with ruleGroupId := none } else child) =
        children := by
    calc _ = children.map id := List.map_congr_left fun child mem => if_neg (childless child mem)
      _ = children := List.map_id children
  have allSome : children.all (·.ruleGroupId.isSome) = true := by
    rw [List.all_eq_true]
    intro child mem
    rcases refer child mem with ⟨id, -, isGroup⟩
    simp [isGroup]
  rw [detachChildren, unchanged, if_pos allSome]

/-- A child cannot be left without a group. -/
theorem childless_of_detachChildren {detached : List (GroupChild Child)}
    (detaching : detachChildren ruleGroupId children = .ok detached) :
    ∀ child ∈ children, child.ruleGroupId ≠ some ruleGroupId := by
  rw [detachChildren] at detaching
  split_ifs at detaching with allSome
  intro child mem ofGroup
  have isSome := List.all_eq_true.mp allSome _ (List.mem_map_of_mem mem)
  simp [ofGroup] at isSome

theorem deleteRuleGroup_returns {tables : GroupTables Columns Others}
    (returned : (deleteRuleGroup tables ruleGroupId).1 = .ok ()) :
    ∃ deleted, sendDeletion tables ruleGroupId = .ok deleted := by
  rw [deleteRuleGroup] at returned
  cases sent : sendDeletion tables ruleGroupId with
  | ok deleted => exact ⟨deleted, rfl⟩
  | error error =>
      rw [sent] at returned
      cases returned

theorem losesReference_setNull {removed : UUID → Prop} {deleted : List UUID}
    (same : ∀ id, id ∈ deleted ↔ removed id) (reference : Option UUID) :
    LosesReference removed reference (setNull deleted reference) := by
  constructor
  · rintro id rfl isRemoved
    simp [setNull, (same id).mpr isRemoved]
  · intro kept
    cases reference with
    | none => rfl
    | some id =>
        have notDeleted : id ∉ deleted := fun mem => kept id rfl ((same id).mp mem)
        simp [setNull, notDeleted]

theorem mem_childIds (key : Child → UUID) (id : UUID) :
    id ∈ childIds key ruleGroupId children ↔ IsChildOf key children ruleGroupId id := by
  simp [childIds, IsChildOf, and_assoc]

theorem removesGroup_deleteGroupRow (tables : GroupTables Columns Others) :
    RemovesGroup ruleGroupId tables (deleteGroupRow ruleGroupId tables) where
  groups := rfl
  conditions := rfl
  outcomes := rfl
  items := by
    rw [deleteGroupRow, List.forall₂_map_right_iff, List.forall₂_same]
    intro item _
    exact ⟨rfl, losesReference_setNull (fun id => List.mem_singleton) _,
      losesReference_setNull (mem_childIds _) _, losesReference_setNull (mem_childIds _) _⟩
  others := rfl

end Statements

/-- A group is deleted as it should be exactly if it has no condition and no outcome. -/
theorem deletes_iff_childless {tables : GroupTables Columns Others} {ruleGroupId : UUID}
    (consistent : GroupsConsistent tables)
    (stored : ∃ group ∈ tables.ruleGroups, group.id = ruleGroupId) :
    Deletes tables ruleGroupId ↔ Childless tables ruleGroupId := by
  rcases stored with ⟨group, mem, rfl⟩
  have sent : sendDeletion tables group.id = flushDeletion group.id tables := by
    have found : findRuleGroup tables group.id = .ok (some group) :=
      scalarOneOrNone_filter_key consistent.groupIds mem
    rw [sendDeletion, found]
    rfl
  constructor
  · rintro ⟨returned, -⟩
    rcases deleteRuleGroup_returns returned with ⟨deleted, isSent⟩
    rw [sent] at isSent
    rcases bind_eq_ok_iff.mp isSent with ⟨conditions, detachedConditions, rest⟩
    rcases bind_eq_ok_iff.mp rest with ⟨outcomes, detachedOutcomes, -⟩
    exact ⟨childless_of_detachChildren detachedConditions,
      childless_of_detachChildren detachedOutcomes⟩
  · rintro ⟨noConditions, noOutcomes⟩
    have flushed : flushDeletion group.id tables = .ok (deleteGroupRow group.id tables) := by
      rw [flushDeletion, detachChildren_of_childless noConditions consistent.conditionGroups,
        detachChildren_of_childless noOutcomes consistent.outcomeGroups]
      rfl
    rw [Deletes, deleteRuleGroup, sent, flushed]
    exact ⟨rfl, removesGroup_deleteGroupRow tables⟩

section Nested

variable {tables : Tables} {resultItems : List (ResultItem Columns)} {others : Others}

def RuleGroup.groupRow (group : RuleGroup) : RuleGroupRow where
  id := group.id
  programVersionId := group.programVersionId
  code := group.code
  name := group.name
  description := group.description
  priority := group.priority
  matchOperator := group.matchOperator
  isActive := group.isActive

/-- The children that the groups hold, as rows of their own. -/
def childRows {Child : Type} (held : RuleGroup → List Child) (ruleGroups : List RuleGroup) :
    List (GroupChild Child) :=
  ruleGroups.flatMap fun group => (held group).map fun child => ⟨some group.id, child⟩

/-- The tables of the rules database next to those of the result items and all others. -/
def GroupTables.ofTables (tables : Tables) (resultItems : List (ResultItem Columns))
    (others : Others) : GroupTables Columns Others where
  ruleGroups := tables.ruleGroups.map RuleGroup.groupRow
  ruleConditions := childRows (·.conditions) tables.ruleGroups
  ruleOutcomes := childRows (·.outcomes) tables.ruleGroups
  resultItems := resultItems
  others := others

theorem mem_childRows {Child : Type} {held : RuleGroup → List Child}
    {ruleGroups : List RuleGroup} {child : GroupChild Child} :
    child ∈ childRows held ruleGroups ↔
      ∃ group ∈ ruleGroups, child.ruleGroupId = some group.id ∧ child.columns ∈ held group := by
  rw [childRows, List.mem_flatMap]
  constructor
  · rintro ⟨group, mem, isChild⟩
    rcases List.mem_map.mp isChild with ⟨columns, columnsMem, rfl⟩
    exact ⟨group, mem, rfl, columnsMem⟩
  · rintro ⟨group, mem, ofGroup, columnsMem⟩
    refine ⟨group, mem, List.mem_map.mpr ⟨child.columns, columnsMem, ?_⟩⟩
    rw [← ofGroup]

theorem map_childRows {Child : Type} (held : RuleGroup → List Child) (key : Child → UUID)
    (ruleGroups : List RuleGroup) :
    (childRows held ruleGroups).map (fun child => key child.columns) =
      ruleGroups.flatMap fun group => (held group).map key := by
  simp [childRows, List.map_flatMap, Function.comp_def]

theorem childrenRefer_childRows {Child : Type} (held : RuleGroup → List Child)
    (ruleGroups : List RuleGroup) :
    ChildrenRefer ((ruleGroups.map RuleGroup.groupRow).map (·.id)) (childRows held ruleGroups) := by
  intro child mem
  rcases mem_childRows.mp mem with ⟨group, groupMem, ofGroup, -⟩
  exact ⟨group.id, List.mem_map_of_mem (List.mem_map_of_mem groupMem), ofGroup⟩

theorem childless_childRows_iff {Child : Type} {held : RuleGroup → List Child}
    {ruleGroups : List RuleGroup} (ids : (ruleGroups.map (·.id)).Nodup) {group : RuleGroup}
    (mem : group ∈ ruleGroups) :
    (∀ child ∈ childRows held ruleGroups, child.ruleGroupId ≠ some group.id) ↔
      held group = [] := by
  rw [List.eq_nil_iff_forall_not_mem]
  constructor
  · intro none_ child childMem
    exact none_ ⟨some group.id, child⟩ (mem_childRows.mpr ⟨group, mem, rfl, childMem⟩) rfl
  · intro none_ child childMem ofGroup
    rcases mem_childRows.mp childMem with ⟨other, otherMem, ofOther, columnsMem⟩
    have same : other = group :=
      List.inj_on_of_nodup_map ids otherMem mem (Option.some.inj (ofOther.symm.trans ofGroup))
    exact none_ _ (same ▸ columnsMem)

/-- The items refer to rows of these tables. -/
structure ItemsRefer (tables : Tables) (resultItems : List (ResultItem Columns)) : Prop where
  groups : ∀ item ∈ resultItems, Refers (tables.ruleGroups.map (·.id)) item.ruleGroupId
  conditions : ∀ item ∈ resultItems,
    Refers (tables.ruleGroups.flatMap fun group => group.conditions.map (·.id))
      item.ruleConditionId
  outcomes : ∀ item ∈ resultItems,
    Refers (tables.ruleGroups.flatMap fun group => group.outcomes.map (·.id)) item.ruleOutcomeId

theorem groupsConsistent_ofTables (rules : RulesConsistent tables)
    (refer : ItemsRefer tables resultItems) :
    GroupsConsistent (GroupTables.ofTables tables resultItems others) where
  groupIds := by
    simpa [GroupTables.ofTables, RuleGroup.groupRow, Function.comp_def] using rules.groupIds
  groupCodes := by
    simpa [GroupTables.ofTables, RuleGroup.groupRow, Function.comp_def] using rules.groupCodes
  conditionIds := by
    simpa only [GroupTables.ofTables, map_childRows (·.conditions) (·.id)] using rules.conditionIds
  conditionGroups := childrenRefer_childRows _ _
  outcomeIds := by
    simpa only [GroupTables.ofTables, map_childRows (·.outcomes) (·.id)] using rules.outcomeIds
  outcomeGroups := childrenRefer_childRows _ _
  itemGroups := by
    simpa [GroupTables.ofTables, RuleGroup.groupRow, Function.comp_def] using refer.groups
  itemConditions := by
    simpa only [GroupTables.ofTables, map_childRows (·.conditions) (·.id)] using refer.conditions
  itemOutcomes := by
    simpa only [GroupTables.ofTables, map_childRows (·.outcomes) (·.id)] using refer.outcomes

/-- A group of the rules database is deleted exactly if it holds nothing. -/
theorem deletes_ofTables_iff (db : Database) (refer : ItemsRefer db.toTables resultItems)
    {group : RuleGroup} (mem : group ∈ db.ruleGroups) :
    Deletes (GroupTables.ofTables db.toTables resultItems others) group.id ↔
      group.conditions = [] ∧ group.outcomes = [] := by
  have stored : ∃ row ∈ (GroupTables.ofTables db.toTables resultItems others).ruleGroups,
      row.id = group.id := ⟨group.groupRow, List.mem_map_of_mem mem, rfl⟩
  rw [deletes_iff_childless (groupsConsistent_ofTables db.consistent.rules refer) stored]
  exact and_congr (childless_childRows_iff db.consistent.rules.groupIds mem)
    (childless_childRows_iff db.consistent.rules.groupIds mem)

end Nested

def sampleCondition : RuleCondition where
  id := 20
  fieldKey := "age"
  operator := .gte
  valueJson := ⟨.none, by simp [Value.WellFormed]⟩
  conditionOrder := 1
  isRequired := true

/-- Two groups, of which the second has a condition, and an item that refers to both. -/
def sampleGroupTables : GroupTables String Unit where
  ruleGroups := [⟨10, 1, "age", "Age", none, 100, .all, true⟩,
    ⟨11, 1, "language", "Language", none, 100, .any, true⟩]
  ruleConditions := [⟨some 11, sampleCondition⟩]
  ruleOutcomes := []
  resultItems := [⟨some 10, some 20, none, "Idade"⟩]
  others := ()

theorem sampleGroupTables_consistent : GroupsConsistent sampleGroupTables where
  groupIds := by decide
  groupCodes := by decide
  conditionIds := by decide
  conditionGroups := by
    intro child mem
    rcases List.mem_singleton.mp mem with rfl
    exact ⟨11, by decide, rfl⟩
  outcomeIds := by decide
  outcomeGroups := by
    intro child mem
    cases mem
  itemGroups := by decide
  itemConditions := by decide
  itemOutcomes := by decide

/-- The empty group is deleted, and the item loses the reference to it only. -/
theorem empty_group_deleted :
    (deleteRuleGroup sampleGroupTables 10).2.resultItems.map
        (fun item => (item.ruleGroupId, item.ruleConditionId)) = [(none, some 20)] ∧
      Deletes sampleGroupTables 10 :=
  ⟨by decide, (deletes_iff_childless sampleGroupTables_consistent ⟨_, .head _, rfl⟩).mpr
    ⟨by decide, by decide⟩⟩

/-- The group with a condition is refused with an integrity error. -/
theorem group_with_condition_not_deleted :
    GroupsConsistent sampleGroupTables ∧
      (∃ group ∈ sampleGroupTables.ruleGroups, group.id = 11) ∧
        ¬ Deletes sampleGroupTables 11 := by
  refine ⟨sampleGroupTables_consistent, ⟨_, .tail _ (.head _), rfl⟩, ?_⟩
  rintro ⟨returned, -⟩
  cases returned

end ImigrAI.ImmigrationRules
