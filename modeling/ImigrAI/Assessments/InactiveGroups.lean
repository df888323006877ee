import ImigrAI.Assessments.Processing
import ImigrAI.Assessments.Score

/-!
# Rule groups that are not active

The lookup of the rule groups does not read `is_active`. A deactivated group goes unnoticed
exactly if it neither raises, nor blocks, nor has an outcome to score.
-/

namespace ImigrAI.Assessments

open Python Sorting Fallible
open ImmigrationRules hiding sampleVersion

section Evaluations

variable [UnicodeData]

/-- What the first group raises whose conditions cannot be evaluated. -/
def failure (profile : Dict) (groups : List RuleGroupInput) : Option EngineError :=
  groups.findSome? fun group => errorOf (evaluateGroupConditions group profile)

theorem errorOf_evaluateBlockingPass (profile : Dict) (groups : List RuleGroupInput) :
    errorOf (evaluateBlockingPass groups profile) = failure profile groups := by
  unfold evaluateBlockingPass failure
  rw [errorOf_bind_ok, errorOf_mapM]
  congr 1
  funext group
  exact errorOf_bind_ok

theorem errorOf_evaluateScoringPass (profile : Dict) (groups : List RuleGroupInput) :
    errorOf (evaluateScoringPass groups profile) = failure profile groups := by
  unfold evaluateScoringPass failure
  rw [errorOf_bind_ok, errorOf_mapM]
  congr 1
  funext group
  exact errorOf_bind_ok

/-- The result of groups that evaluate: blocked if an item blocks, else scored. -/
def conclusion (rulesVersionHash : String) (profile : Dict) (groups : List RuleGroupInput) :
    ScoreComputationResult :=
  if groups.flatMap (groupBlockingItems profile) ≠ [] then
    blockedResult rulesVersionHash (groups.flatMap (groupBlockingItems profile))
  else scoredResult rulesVersionHash groups (groups.flatMap (groupScoringItems profile))

variable [Hashlib]

/-- An evaluation raises what the profile or the first failing group raises, or concludes. -/
theorem evaluate_eq {profileSnapshot profile : Dict} {version : ProgramVersionInput}
    {groups : List RuleGroupInput} (normalized : normalizeProfile profileSnapshot = .ok profile) :
    evaluate profileSnapshot version groups =
      match failure profile (sortedGroups groups) with
      | some error => .error error
      | none => .ok (conclusion (computeRulesVersionHash version (sortedGroups groups)) profile
          (sortedGroups groups)) := by
  have blockingErrors := errorOf_evaluateBlockingPass profile (sortedGroups groups)
  have scoringErrors := errorOf_evaluateScoringPass profile (sortedGroups groups)
  cases fails : failure profile (sortedGroups groups) with
  | some error =>
      rw [fails, errorOf_eq_some_iff] at blockingErrors
      simp only [evaluate, normalized, blockingErrors, bind, Except.bind]
  | none =>
      rw [fails, errorOf_eq_none_iff] at blockingErrors scoringErrors
      rcases blockingErrors with ⟨blocking, blockingPass⟩
      rcases scoringErrors with ⟨scored, scoringPass⟩
      simp only [evaluate, normalized, blockingPass, scoringPass, bind, Except.bind, conclusion]
      rw [← evaluateBlockingPass_eq blockingPass, ← evaluateScoringPass_eq scoringPass]
      split_ifs <;> rfl

end Evaluations

/-- A part of a list contributes as much as the whole exactly if the rest contributes nothing. -/
theorem flatMap_filter_eq_iff {Source Target : Type*} {contribution : Source → List Target}
    {keep : Source → Bool} {sources : List Source} :
    sources.flatMap contribution = (sources.filter keep).flatMap contribution ↔
      ∀ source ∈ sources, keep source = false → contribution source = [] := by
  induction sources with
  | nil => simp
  | cons first rest ih =>
      cases kept : keep first with
      | true => simp [kept, ih]
      | false =>
          have shorter : ((rest.filter keep).flatMap contribution).length ≤
              (rest.flatMap contribution).length :=
            (List.filter_sublist.flatMap contribution).length_le
          rw [List.filter_cons_of_neg (by simp [kept]), List.flatMap_cons]
          constructor
          · intro same
            have lengths := congrArg List.length same
            rw [List.length_append] at lengths
            have none : contribution first = [] := List.length_eq_zero_iff.mp (by omega)
            rw [none, List.nil_append] at same
            rintro source (_ | ⟨_, mem⟩) dropped
            · exact none
            · exact ih.mp same source mem dropped
          · intro nothing
            rw [nothing first (by simp) kept, List.nil_append]
            exact ih.mpr fun source mem => nothing source (by simp [mem])

/-- The result but for the hash of the rules. -/
def withoutHash (computation : ScoreComputationResult) : ScoreComputationResult :=
  { computation with rulesVersionHash := "" }

section Deleting

variable [UnicodeData] {profile : Dict} {rows : List RuleGroup} {hash otherHash : String}

/-- The groups that the engine gets of rows of the database. -/
def inputs (rows : List RuleGroup) : List RuleGroupInput := rows.map ruleGroupInput

def activeRows (rows : List RuleGroup) : List RuleGroup := rows.filter (·.isActive)

theorem conclusion_of_unblocked {groups : List RuleGroupInput}
    (unblocked : groups.flatMap (groupBlockingItems profile) = []) :
    conclusion hash profile groups =
      scoredResult hash groups (groups.flatMap (groupScoringItems profile)) :=
  if_neg (not_not.mpr unblocked)

theorem conclusion_of_blocked {groups : List RuleGroupInput}
    (blocked : groups.flatMap (groupBlockingItems profile) ≠ []) :
    conclusion hash profile groups =
      blockedResult hash (groups.flatMap (groupBlockingItems profile)) :=
  if_pos blocked

omit [UnicodeData] in
/-- What the rows contribute is what the active ones do, exactly if the others contribute
nothing. -/
theorem flatMap_inputs_eq_iff {Target : Type*} {contribution : RuleGroupInput → List Target} :
    (inputs rows).flatMap contribution = (inputs (activeRows rows)).flatMap contribution ↔
      ∀ row ∈ rows, row.isActive = false → contribution (ruleGroupInput row) = [] := by
  simp only [inputs, activeRows, List.flatMap_map]
  exact flatMap_filter_eq_iff

theorem groupScoringItems_eq_nil_iff {group : RuleGroupInput} :
    groupScoringItems profile group = [] ↔ group.scoringOutcomes = [] :=
  List.map_eq_nil_iff

theorem withoutHash_conclusion_eq_iff :
    withoutHash (conclusion hash profile (inputs rows)) =
        withoutHash (conclusion otherHash profile (inputs (activeRows rows))) ↔
      (∀ row ∈ rows, row.isActive = false →
        groupBlockingItems profile (ruleGroupInput row) = []) ∧
      ((inputs (activeRows rows)).flatMap (groupBlockingItems profile) = [] →
        ∀ row ∈ rows, row.isActive = false → (ruleGroupInput row).scoringOutcomes = []) := by
  rw [← flatMap_inputs_eq_iff]
  by_cases blocked : (inputs rows).flatMap (groupBlockingItems profile) = []
  · rw [conclusion_of_unblocked blocked]
    constructor
    · intro same
      have activeUnblocked : (inputs (activeRows rows)).flatMap (groupBlockingItems profile) =
          [] := by
        by_contra activeBlocked
        have flags := congrArg ScoreComputationResult.isBlocked same
        rw [conclusion_of_blocked activeBlocked] at flags
        exact absurd flags (by simp [withoutHash, scoredResult, blockedResult])
      rw [conclusion_of_unblocked activeUnblocked] at same
      have items : (inputs rows).flatMap (groupScoringItems profile) =
          (inputs (activeRows rows)).flatMap (groupScoringItems profile) :=
        congrArg ScoreComputationResult.breakdown same
      refine ⟨blocked.trans activeUnblocked.symm, fun _ row rowMem inactive => ?_⟩
      exact groupScoringItems_eq_nil_iff.mp (flatMap_inputs_eq_iff.mp items row rowMem inactive)
    · rintro ⟨sameBlocking, silent⟩
      have activeUnblocked := sameBlocking.symm.trans blocked
      have silentRows := silent activeUnblocked
      rw [conclusion_of_unblocked activeUnblocked]
      have items : (inputs rows).flatMap (groupScoringItems profile) =
          (inputs (activeRows rows)).flatMap (groupScoringItems profile) :=
        flatMap_inputs_eq_iff.mpr fun row rowMem inactive =>
          groupScoringItems_eq_nil_iff.mpr (silentRows row rowMem inactive)
      have deltas : nonBlockingDeltas (inputs rows) = nonBlockingDeltas (inputs (activeRows rows)) :=
        flatMap_inputs_eq_iff.mpr fun row rowMem inactive =>
          List.map_eq_nil_iff.mpr (silentRows row rowMem inactive)
      have normalized (rawScore : ℚ) : normalizeScore rawScore (inputs rows) =
          normalizeScore rawScore (inputs (activeRows rows)) := by
        have highest : maxPossible (inputs rows) = maxPossible (inputs (activeRows rows)) := by
          rw [maxPossible, deltas, maxPossible]
        have lowest : minPossible (inputs rows) = minPossible (inputs (activeRows rows)) := by
          rw [minPossible, deltas, minPossible]
        rw [normalizeScore, highest, lowest, normalizeScore]
      simp only [withoutHash, scoredResult, items, normalized]
  · rw [conclusion_of_blocked blocked]
    constructor
    · intro same
      have activeBlocked : (inputs (activeRows rows)).flatMap (groupBlockingItems profile) ≠
          [] := by
        intro activeUnblocked
        have flags := congrArg ScoreComputationResult.isBlocked same
        rw [conclusion_of_unblocked activeUnblocked] at flags
        exact absurd flags (by simp [withoutHash, scoredResult, blockedResult])
      rw [conclusion_of_blocked activeBlocked] at same
      refine ⟨congrArg ScoreComputationResult.breakdown same, fun unblocked => ?_⟩
      exact absurd unblocked activeBlocked
    · rintro ⟨sameBlocking, -⟩
      rw [conclusion_of_blocked (by rwa [← sameBlocking]), ← sameBlocking]
      rfl

theorem groupBlockingItems_eq_nil_iff {group : RuleGroup} :
    groupBlockingItems profile (ruleGroupInput group) = [] ↔
      (GroupHolds profile (ruleGroupInput group) →
        ∀ outcome ∈ group.outcomes, outcome.isBlocking = false) := by
  unfold groupBlockingItems
  split_ifs with holds
  · simp only [holds, forall_const]
    simp [ruleGroupInput, ruleOutcomeInput]
  · simp [holds]

omit [UnicodeData] in
theorem scoringOutcomes_eq_nil_iff {group : RuleGroup} :
    (ruleGroupInput group).scoringOutcomes = [] ↔
      ∀ outcome ∈ group.outcomes, outcome.isBlocking = true := by
  simp [RuleGroupInput.scoringOutcomes, ruleGroupInput, ruleOutcomeInput]

/-- The rows in the order in which the engine takes their groups. -/
def sortedRows (rows : List RuleGroup) : List RuleGroup :=
  sortBy (fun group => groupKey (ruleGroupInput group)) rows

/-- Inactive groups do not change what is raised. Where nothing is, none of them blocks, and
unless an active group blocks they have no outcomes that are scored. -/
structure Inert (profile : Dict) (groups : List RuleGroup) : Prop where
  raises : failure profile (inputs (sortedRows groups)) =
    failure profile (inputs (activeRows (sortedRows groups)))
  blocking : failure profile (inputs (sortedRows groups)) = none →
    ∀ group ∈ groups, group.isActive = false → GroupHolds profile (ruleGroupInput group) →
      ∀ outcome ∈ group.outcomes, outcome.isBlocking = false
  scoring : failure profile (inputs (sortedRows groups)) = none →
    (∀ group ∈ groups, group.isActive = true → GroupHolds profile (ruleGroupInput group) →
      ∀ outcome ∈ group.outcomes, outcome.isBlocking = false) →
    ∀ group ∈ groups, group.isActive = false →
      ∀ outcome ∈ group.outcomes, outcome.isBlocking = true

omit [UnicodeData] in
theorem sortedGroups_inputs (rows : List RuleGroup) :
    sortedGroups (rows.map ruleGroupInput) = inputs (sortedRows rows) :=
  sortBy_map groupKey ruleGroupInput rows

omit [UnicodeData] in
theorem sortedRows_activeRows (rows : List RuleGroup) :
    sortedRows (activeRows rows) = activeRows (sortedRows rows) :=
  sortBy_filter _ _ _

omit [UnicodeData] in
theorem mem_sortedRows {rows : List RuleGroup} {row : RuleGroup} :
    row ∈ sortedRows rows ↔ row ∈ rows :=
  mem_sortBy

/-- Among rows that evaluate, the inactive ones go unnoticed. -/
theorem withoutHash_conclusion_sortedRows_eq_iff :
    withoutHash (conclusion hash profile (inputs (sortedRows rows))) =
        withoutHash (conclusion otherHash profile (inputs (activeRows (sortedRows rows)))) ↔
      (∀ group ∈ rows, group.isActive = false → GroupHolds profile (ruleGroupInput group) →
        ∀ outcome ∈ group.outcomes, outcome.isBlocking = false) ∧
      ((∀ group ∈ rows, group.isActive = true → GroupHolds profile (ruleGroupInput group) →
          ∀ outcome ∈ group.outcomes, outcome.isBlocking = false) →
        ∀ group ∈ rows, group.isActive = false →
          ∀ outcome ∈ group.outcomes, outcome.isBlocking = true) := by
  have activeUnblocked : (inputs (activeRows (sortedRows rows))).flatMap
      (groupBlockingItems profile) = [] ↔
        ∀ group ∈ rows, group.isActive = true → GroupHolds profile (ruleGroupInput group) →
          ∀ outcome ∈ group.outcomes, outcome.isBlocking = false := by
    simp only [inputs, activeRows, List.flatMap_eq_nil_iff, List.forall_mem_map,
      groupBlockingItems_eq_nil_iff, List.mem_filter, mem_sortedRows, and_imp]
  rw [withoutHash_conclusion_eq_iff, activeUnblocked]
  simp only [groupBlockingItems_eq_nil_iff, scoringOutcomes_eq_nil_iff, mem_sortedRows]

variable [Hashlib]

/-- What is stored of a computation but for the hash. -/
def shown (computation : Except ProcessingError (UUID × ScoreComputationResult)) :
    Except ProcessingError (UUID × ScoreComputationResult) :=
  computation.map fun stored => (stored.1, withoutHash stored.2)

theorem shown_evaluateVersion {version : ProgramVersion} {profileJson : Dict}
    (normalized : normalizeProfile profileJson = .ok profile) (some_ : rows ≠ []) :
    shown (evaluateVersion version rows profileJson) =
      match failure profile (inputs (sortedRows rows)) with
      | some error => .error (.engine error)
      | none => .ok (version.id, withoutHash (conclusion (computeRulesVersionHash
          (programVersionInput version) (inputs (sortedRows rows))) profile
            (inputs (sortedRows rows)))) := by
  rw [evaluateVersion, if_neg some_, evaluate_eq normalized, sortedGroups_inputs]
  cases failure profile (inputs (sortedRows rows)) <;> rfl

theorem shown_evaluateVersion_of_error {version : ProgramVersion} {profileJson : Dict}
    {error : EngineError} (unreadable : normalizeProfile profileJson = .error error)
    (some_ : rows ≠ []) :
    shown (evaluateVersion version rows profileJson) = .error (.engine error) := by
  simp only [evaluateVersion, if_neg some_, evaluate, unreadable, bind, Except.bind, shown,
    Except.map]

/-- Deleting the inactive groups of a version changes nothing exactly if they are inert. -/
theorem shown_evaluateVersion_eq_iff {version : ProgramVersion} {profileJson : Dict} :
    shown (evaluateVersion version rows profileJson) =
        shown (evaluateVersion version (activeRows rows) profileJson) ↔
      rows = [] ∨ activeRows rows ≠ [] ∧
        ∀ profile, normalizeProfile profileJson = .ok profile → Inert profile rows := by
  by_cases empty : rows = []
  · subst empty
    exact iff_of_true rfl (Or.inl rfl)
  · simp only [empty, false_or]
    by_cases noActive : activeRows rows = []
    · -- Without groups nothing is evaluated.
      have refused : shown (evaluateVersion version (activeRows rows) profileJson) =
          .error (.valueError "Program version has no rules configured") := by
        rw [noActive]
        rfl
      refine iff_of_false ?_ fun some_ => some_.1 noActive
      rw [refused]
      cases normalized : normalizeProfile profileJson with
      | error error => simp [shown_evaluateVersion_of_error normalized empty]
      | ok profile =>
          rw [shown_evaluateVersion normalized empty]
          cases failure profile (inputs (sortedRows rows)) <;> simp
    · cases normalized : normalizeProfile profileJson with
      | error error =>
          rw [shown_evaluateVersion_of_error normalized empty,
            shown_evaluateVersion_of_error normalized noActive]
          simp [noActive]
      | ok profile =>
          rw [shown_evaluateVersion normalized empty, shown_evaluateVersion normalized noActive,
            sortedRows_activeRows]
          simp only [noActive, ne_eq, not_false_eq_true, true_and, Except.ok.injEq, forall_eq']
          cases fails : failure profile (inputs (sortedRows rows)) with
          | some error =>
              constructor
              · intro same
                refine ⟨?_, by simp [fails], by simp [fails]⟩
                rw [fails]
                cases activeFails : failure profile (inputs (activeRows (sortedRows rows))) with
                | some activeError => simpa [activeFails] using same
                | none => simp [activeFails] at same
              · intro inert
                rw [← inert.raises, fails]
          | none =>
              constructor
              · intro same
                cases activeFails : failure profile (inputs (activeRows (sortedRows rows))) with
                | some activeError => simp [activeFails] at same
                | none =>
                    simp only [activeFails, Except.ok.injEq, Prod.mk.injEq, true_and] at same
                    rcases withoutHash_conclusion_sortedRows_eq_iff.mp same with
                      ⟨blocking, scoring⟩
                    exact ⟨fails.trans activeFails.symm, fun _ => blocking, fun _ => scoring⟩
              · intro inert
                rw [← inert.raises, fails]
                simp only [Except.ok.injEq, Prod.mk.injEq, true_and]
                exact withoutHash_conclusion_sortedRows_eq_iff.mpr
                  ⟨inert.blocking fails, inert.scoring fails⟩

end Deleting

section Lookups

/-- The tables without the rule groups that are not active. -/
def withoutInactive (tables : Tables) : Tables :=
  { tables with ruleGroups := activeRows tables.ruleGroups }

theorem listRuleGroups_withoutInactive (tables : Tables) (programVersionId : UUID) :
    listRuleGroups (withoutInactive tables) programVersionId =
      activeRows (listRuleGroups tables programVersionId) := by
  unfold listRuleGroups withoutInactive activeRows
  rw [← sortBy_filter, List.filter_filter, List.filter_filter]
  simp only [Bool.and_comm]

/-- Deleting the rule groups that are not active leaves the result of an assessment as it is,
exactly if they are inert among the groups of the version it is computed with. -/
theorem unchanged_iff_inert [UnicodeData] [Hashlib] (tables : Tables)
    (assessment : RequestedAssessment) :
    shown (computeAssessment tables assessment) =
        shown (computeAssessment (withoutInactive tables) assessment) ↔
      ∀ profileJson ∈ assessment.profileSnapshot, ∀ version ∈
        getActiveProgramVersion tables assessment.programId assessment.requestedAt,
        listRuleGroups tables version.id = [] ∨
          activeRows (listRuleGroups tables version.id) ≠ [] ∧
            ∀ profile, normalizeProfile profileJson = .ok profile →
              Inert profile (listRuleGroups tables version.id) := by
  have sameVersion : getActiveProgramVersion (withoutInactive tables) assessment.programId
      assessment.requestedAt =
        getActiveProgramVersion tables assessment.programId assessment.requestedAt := rfl
  unfold computeAssessment
  rw [sameVersion]
  cases assessment.profileSnapshot with
  | none => simp
  | some profileJson =>
      cases getActiveProgramVersion tables assessment.programId assessment.requestedAt with
      | none => simp
      | some version =>
          simp only [listRuleGroups_withoutInactive, Option.mem_def, Option.some.injEq,
            forall_eq']
          exact shown_evaluateVersion_eq_iff

end Lookups

section Sample

local instance inactiveUnicodeData : UnicodeData := UnicodeData.ascii

local instance inactiveHashlib : Hashlib := sampleHashlib

/-- A group without conditions and with one outcome, which blocks if the group is deactivated. -/
def unconditionalGroup (id : UUID) (code : String) (isActive : Bool) : RuleGroup where
  id := id
  programVersionId := ImmigrationRules.sampleVersion.id
  code := code
  name := code
  description := none
  priority := 10
  matchOperator := .all
  isActive := isActive
  conditions := []
  outcomes := [⟨id + 1, ⟨false, 1500, -2⟩, !isActive, code, none⟩]

/-- The sample version with an active group and a deactivated one. -/
def deactivatedTables : Tables :=
  { sampleCatalogue.toTables with
    ruleGroups := [unconditionalGroup 30 "ACTIVE" true, unconditionalGroup 40 "INACTIVE" false] }

/-- The deactivated group blocks an assessment that is scored without it. -/
theorem deactivated_group_blocks :
    shown (computeAssessment deactivatedTables ⟨2, 5, some (sampleProfile (.int 30))⟩) ≠
      shown (computeAssessment (withoutInactive deactivatedTables)
        ⟨2, 5, some (sampleProfile (.int 30))⟩) := by
  intro same
  have flags := congrArg (fun computation : Except ProcessingError (UUID × ScoreComputationResult) =>
    computation.toOption.map fun stored => stored.2.isBlocked) same
  exact absurd flags (by decide +kernel)

end Sample

end ImigrAI.Assessments
