import ImigrAI.Assessments.Engine
import ImigrAI.Foundations.Fallible
import Mathlib.Algebra.Order.BigOperators.Group.List

/-!
# What the score is

The score of an unblocked evaluation in terms of the groups whose conditions hold: its sum,
its bounds, its place between them, and the outcomes that stand in the breakdown.
-/

namespace ImigrAI.Assessments

open Python Sorting Fallible

section GroupHolds

variable [UnicodeData]

/-- A condition evaluates to true. -/
def ConditionHolds (profile : Dict) (condition : RuleConditionInput) : Prop :=
  evaluateCondition condition.operator (resolveField profile condition.fieldKey)
    condition.valueJson.value = .ok true

instance (profile : Dict) : DecidablePred (ConditionHolds profile) :=
  fun _ => inferInstanceAs (Decidable (_ = _))

/-- The conditions of a group hold: there are none, or one of them holds or all of them hold,
as the match operator says. -/
def GroupHolds (profile : Dict) (group : RuleGroupInput) : Prop :=
  group.conditions = [] ∨
    if group.matchOperator = "any" then
      ∃ condition ∈ group.conditions, ConditionHolds profile condition
    else ∀ condition ∈ group.conditions, ConditionHolds profile condition

instance (profile : Dict) : DecidablePred (GroupHolds profile) := fun group =>
  have : Decidable (group.conditions = []) := decidable_of_iff _ List.isEmpty_iff
  inferInstanceAs (Decidable (_ ∨ _))

/-- The condition checks of a group whose conditions evaluate. -/
def groupChecks (profile : Dict) (group : RuleGroupInput) : List ConditionCheck :=
  match evaluateGroupConditions group profile with
  | .ok (checks, _) => checks
  | .error _ => []

theorem matched_of_checkCondition {profile : Dict} {condition : RuleConditionInput}
    {check : ConditionCheck} (done : checkCondition profile condition = .ok check) :
    check.matched = decide (ConditionHolds profile condition) := by
  rcases bind_eq_ok_iff.mp done with ⟨matched, evaluated, built⟩
  rcases Except.ok.inj built with rfl
  cases matched <;> simp [ConditionHolds, evaluated]

/-- Evaluating the conditions of a group tells whether they hold. -/
theorem evaluateGroupConditions_eq {profile : Dict} {group : RuleGroupInput}
    {checks : List ConditionCheck} {applies : Bool}
    (done : evaluateGroupConditions group profile = .ok (checks, applies)) :
    checks = groupChecks profile group ∧ applies = decide (GroupHolds profile group) := by
  refine ⟨by simp [groupChecks, done], ?_⟩
  rcases bind_eq_ok_iff.mp done with ⟨collected, loop, built⟩
  obtain ⟨rfl, rfl⟩ : collected = checks ∧ _ = applies := by simpa using built
  have truthValues : collected.map (·.matched) =
      (sortBy conditionKey group.conditions).map fun condition =>
        decide (ConditionHolds profile condition) := by
    have pairs := mapM_eq_ok_iff.mp loop
    clear loop done built
    generalize sortBy conditionKey group.conditions = conditions at pairs
    induction pairs with
    | nil => rfl
    | cons first _ ih => rw [List.map_cons, List.map_cons, matched_of_checkCondition first, ih]
  rw [truthValues, Bool.eq_iff_iff, decide_eq_true_eq, GroupHolds]
  have empty : sortBy conditionKey group.conditions = [] ↔ group.conditions = [] := by
    rw [← List.length_eq_zero_iff, (sortBy_perm _ _).length_eq, List.length_eq_zero_iff]
  by_cases none : group.conditions = []
  · simp [groupApplies, none, sortBy]
  · by_cases any : group.matchOperator = "any" <;>
      simp [groupApplies, none, empty, any]

end GroupHolds

section Passes

variable [UnicodeData]

/-- The non-blocking outcomes of a group. -/
def RuleGroupInput.scoringOutcomes (group : RuleGroupInput) : List RuleOutcomeInput :=
  group.outcomes.filter (!·.isBlocking)

/-- The items of the scoring pass for one group. -/
def groupScoringItems (profile : Dict) (group : RuleGroupInput) : List ScoreBreakdownItem :=
  group.scoringOutcomes.map
    (scoringItem group (groupChecks profile group) (decide (GroupHolds profile group)))

/-- The items of the blocking pass for one group. -/
def groupBlockingItems (profile : Dict) (group : RuleGroupInput) : List ScoreBreakdownItem :=
  if GroupHolds profile group then
    (group.outcomes.filter (·.isBlocking)).map (blockingItem group (groupChecks profile group))
  else []

/-- The scoring pass collects the items of every group. -/
theorem evaluateScoringPass_eq {profile : Dict} {groups : List RuleGroupInput}
    {items : List ScoreBreakdownItem} (done : evaluateScoringPass groups profile = .ok items) :
    items = groups.flatMap (groupScoringItems profile) := by
  rcases bind_eq_ok_iff.mp done with ⟨parts, loop, joined⟩
  rcases Except.ok.inj joined with rfl
  rw [List.flatMap, mapM_eq_ok_map (g := groupScoringItems profile) loop]
  intro group _ result computed
  rcases bind_eq_ok_iff.mp computed with ⟨⟨checks, applies⟩, conditions, built⟩
  rcases evaluateGroupConditions_eq conditions with ⟨rfl, rfl⟩
  exact (Except.ok.inj built).symm

/-- The blocking pass collects the items of every group. -/
theorem evaluateBlockingPass_eq {profile : Dict} {groups : List RuleGroupInput}
    {items : List ScoreBreakdownItem} (done : evaluateBlockingPass groups profile = .ok items) :
    items = groups.flatMap (groupBlockingItems profile) := by
  rcases bind_eq_ok_iff.mp done with ⟨parts, loop, joined⟩
  rcases Except.ok.inj joined with rfl
  rw [List.flatMap, mapM_eq_ok_map (g := groupBlockingItems profile) loop]
  intro group _ result computed
  rcases bind_eq_ok_iff.mp computed with ⟨⟨checks, applies⟩, conditions, built⟩
  rcases evaluateGroupConditions_eq conditions with ⟨rfl, rfl⟩
  rw [← Except.ok.inj built, groupBlockingItems]
  simp only [decide_eq_true_eq]

variable [Hashlib]

/-- The two ways an evaluation succeeds: blocked by the items of the blocking pass, or scored
by the items of the scoring pass when there are none. -/
theorem evaluate_eq_ok {profileSnapshot : Dict} {version : ProgramVersionInput}
    {groups : List RuleGroupInput} {result : ScoreComputationResult}
    (evaluated : evaluate profileSnapshot version groups = .ok result) :
    ∃ profile, normalizeProfile profileSnapshot = .ok profile ∧
      (((sortedGroups groups).flatMap (groupBlockingItems profile) ≠ [] ∧
        result = blockedResult (computeRulesVersionHash version (sortedGroups groups))
          ((sortedGroups groups).flatMap (groupBlockingItems profile))) ∨
      ((sortedGroups groups).flatMap (groupBlockingItems profile) = [] ∧
        result = scoredResult (computeRulesVersionHash version (sortedGroups groups))
          (sortedGroups groups) ((sortedGroups groups).flatMap (groupScoringItems profile)))) := by
  rcases bind_eq_ok_iff.mp evaluated with ⟨profile, normalized, afterProfile⟩
  rcases bind_eq_ok_iff.mp afterProfile with ⟨blocking, blockingPass, afterBlocking⟩
  refine ⟨profile, normalized, ?_⟩
  rw [← evaluateBlockingPass_eq blockingPass]
  by_cases blocked : blocking = []
  · simp only [blocked, ne_eq, not_true_eq_false, if_false] at afterBlocking
    rcases bind_eq_ok_iff.mp afterBlocking with ⟨items, scoringPass, scored⟩
    rw [← evaluateScoringPass_eq scoringPass]
    exact Or.inr ⟨blocked, (Except.ok.inj scored).symm⟩
  · simp only [blocked, ne_eq, not_false_eq_true, if_true] at afterBlocking
    exact Or.inl ⟨blocked, (Except.ok.inj afterBlocking).symm⟩

/-- In an evaluation that succeeds the conditions of every group do. -/
theorem evaluateGroupConditions_of_evaluate {profileSnapshot profile : Dict}
    {version : ProgramVersionInput} {groups : List RuleGroupInput}
    {result : ScoreComputationResult}
    (evaluated : evaluate profileSnapshot version groups = .ok result)
    (normalized : normalizeProfile profileSnapshot = .ok profile) {group : RuleGroupInput}
    (groupMem : group ∈ groups) :
    evaluateGroupConditions group profile =
      .ok (groupChecks profile group, decide (GroupHolds profile group)) := by
  rcases bind_eq_ok_iff.mp evaluated with ⟨same, again, afterProfile⟩
  cases normalized.symm.trans again
  rcases bind_eq_ok_iff.mp afterProfile with ⟨blocking, blockingPass, -⟩
  rcases bind_eq_ok_iff.mp blockingPass with ⟨items, loop, -⟩
  rcases exists_of_mapM_eq_ok loop (mem_sortBy.mpr groupMem) with ⟨groupItems, ofGroup⟩
  rcases bind_eq_ok_iff.mp ofGroup with ⟨⟨checks, applies⟩, conditions, -⟩
  rcases evaluateGroupConditions_eq conditions with ⟨rfl, rfl⟩
  exact conditions

/-- Where an evaluation succeeds, every condition of every group evaluates. -/
theorem conditions_of_evaluate {profileSnapshot profile : Dict} {version : ProgramVersionInput}
    {groups : List RuleGroupInput} {result : ScoreComputationResult}
    (evaluated : evaluate profileSnapshot version groups = .ok result)
    (normalized : normalizeProfile profileSnapshot = .ok profile) :
    ∀ group ∈ groups, ∀ condition ∈ group.conditions, ∃ matched,
      evaluateCondition condition.operator (resolveField profile condition.fieldKey)
        condition.valueJson.value = .ok matched := by
  intro group groupMem condition conditionMem
  have conditions := evaluateGroupConditions_of_evaluate evaluated normalized groupMem
  rcases bind_eq_ok_iff.mp conditions with ⟨checks, conditionLoop, -⟩
  rcases exists_of_mapM_eq_ok conditionLoop (mem_sortBy.mpr conditionMem) with
    ⟨check, ofCondition⟩
  rcases bind_eq_ok_iff.mp ofCondition with ⟨matched, evaluates, -⟩
  exact ⟨matched, evaluates⟩

/-- Without blocking outcomes an evaluation is not blocked. -/
theorem unblocked_of_evaluate {profileSnapshot : Dict} {version : ProgramVersionInput}
    {groups : List RuleGroupInput} {result : ScoreComputationResult}
    (evaluated : evaluate profileSnapshot version groups = .ok result)
    (noBlocking : ∀ group ∈ groups, ∀ outcome ∈ group.outcomes, outcome.isBlocking = false) :
    result.isBlocked = false := by
  rcases evaluate_eq_ok evaluated with ⟨profile, -, ⟨blocked, -⟩ | ⟨-, scored⟩⟩
  · refine absurd (List.flatMap_eq_nil_iff.mpr fun group groupMem => ?_) blocked
    have none : group.outcomes.filter (·.isBlocking) = [] := by
      rw [List.filter_eq_nil_iff]
      intro outcome outcomeMem
      rw [noBlocking group (mem_sortBy.mp groupMem) outcome outcomeMem]
      simp
    rw [groupBlockingItems, none]
    simp
  · rw [scored]
    rfl

end Passes

/-- Part of a list of numbers sums to at least what the negative ones of the list sum to. -/
theorem sum_min_le_sum_of_sublist {part whole : List ℚ} (sub : part.Sublist whole) :
    (whole.map fun delta => min delta 0).sum ≤ part.sum := by
  induction sub with
  | slnil => simp
  | @cons part whole delta _ ih =>
      have := min_le_right delta 0
      simp only [List.map_cons, List.sum_cons]
      linarith
  | @cons_cons part whole delta _ ih =>
      have := min_le_left delta 0
      simp only [List.map_cons, List.sum_cons]
      linarith

/-- Part of a list of numbers sums to at most what the positive ones of the list sum to. -/
theorem sum_le_sum_max_of_sublist {part whole : List ℚ} (sub : part.Sublist whole) :
    part.sum ≤ (whole.map fun delta => max delta 0).sum := by
  induction sub with
  | slnil => simp
  | @cons part whole delta _ ih =>
      have := le_max_right delta 0
      simp only [List.map_cons, List.sum_cons]
      linarith
  | @cons_cons part whole delta _ ih =>
      have := le_max_left delta 0
      simp only [List.map_cons, List.sum_cons]
      linarith

theorem minPossible_nonpos (groups : List RuleGroupInput) : minPossible groups ≤ 0 :=
  sum_min_le_sum_of_sublist (List.nil_sublist (nonBlockingDeltas groups))

theorem nonBlockingDeltas_perm {groups others : List RuleGroupInput} (perm : groups.Perm others) :
    (nonBlockingDeltas groups).Perm (nonBlockingDeltas others) :=
  perm.flatMap_right _

theorem minPossible_perm {groups others : List RuleGroupInput} (perm : groups.Perm others) :
    minPossible groups = minPossible others :=
  ((nonBlockingDeltas_perm perm).map _).sum_eq

theorem maxPossible_perm {groups others : List RuleGroupInput} (perm : groups.Perm others) :
    maxPossible groups = maxPossible others :=
  ((nonBlockingDeltas_perm perm).map _).sum_eq

theorem nonBlockingDeltas_sublist {part whole : List RuleGroupInput} (sub : part.Sublist whole) :
    (nonBlockingDeltas part).Sublist (nonBlockingDeltas whole) :=
  sub.flatMap _

section Score

variable [UnicodeData]

/-- The deltas of the non-blocking outcomes have at most two decimals. -/
def DeltasTwoDecimals (groups : List RuleGroupInput) : Prop :=
  ∀ delta ∈ nonBlockingDeltas groups, TwoDecimals delta

/-- The groups that hold for a profile. -/
def holdingGroups (profile : Dict) (groups : List RuleGroupInput) : List RuleGroupInput :=
  groups.filter fun group => GroupHolds profile group

theorem holdingDeltas_sublist (profile : Dict) (groups : List RuleGroupInput) :
    (nonBlockingDeltas (holdingGroups profile groups)).Sublist (nonBlockingDeltas groups) :=
  nonBlockingDeltas_sublist List.filter_sublist

/-- The scored items sum to the deltas of the groups that hold. -/
theorem sum_scoringItems (profile : Dict) {groups : List RuleGroupInput}
    (two : DeltasTwoDecimals groups) :
    ((groups.flatMap (groupScoringItems profile)).map (·.scoreDelta)).sum =
      (nonBlockingDeltas (holdingGroups profile groups)).sum := by
  induction groups with
  | nil => rfl
  | cons group groups ih =>
      have rest : DeltasTwoDecimals groups := by
        intro delta deltaMem
        exact two delta (by
          simp only [nonBlockingDeltas, List.flatMap_cons, List.mem_append]
          exact Or.inr deltaMem)
      have own : ∀ outcome ∈ group.scoringOutcomes, TwoDecimals outcome.scoreDelta.toRat := by
        intro outcome outcomeMem
        apply two
        simp only [nonBlockingDeltas, List.flatMap_cons, List.mem_append]
        exact Or.inl (List.mem_map_of_mem outcomeMem)
      rw [List.flatMap_cons, List.map_append, List.sum_append, ih rest]
      by_cases holds : GroupHolds profile group
      · have deltas : (groupScoringItems profile group).map (·.scoreDelta) =
            group.scoringOutcomes.map fun outcome => outcome.scoreDelta.toRat := by
          rw [groupScoringItems, List.map_map]
          apply List.map_congr_left
          intro outcome outcomeMem
          simp [scoringItem, holds, quantize_of_twoDecimals (own outcome outcomeMem)]
        simp [holdingGroups, holds, nonBlockingDeltas, deltas, RuleGroupInput.scoringOutcomes]
      · have deltas : (groupScoringItems profile group).map (·.scoreDelta) =
            group.scoringOutcomes.map fun _ => 0 := by
          rw [groupScoringItems, List.map_map]
          apply List.map_congr_left
          intro outcome _
          simp [scoringItem, holds]
        simp [holdingGroups, holds, nonBlockingDeltas, deltas]

omit [UnicodeData] in
theorem twoDecimals_sum {deltas : List ℚ} (two : ∀ delta ∈ deltas, TwoDecimals delta) :
    TwoDecimals deltas.sum := by
  induction deltas with
  | nil => exact ⟨0, by simp⟩
  | cons delta deltas ih =>
      rcases two delta (by simp) with ⟨first, firstEq⟩
      rcases ih fun other otherMem => two other (by simp [otherMem]) with ⟨rest, restEq⟩
      refine ⟨first + rest, ?_⟩
      rw [List.sum_cons, firstEq, restEq]
      push_cast
      ring

/-- The place of the raw score between its bounds, in percent. -/
def percentage (groups : List RuleGroupInput) (rawScore : ℚ) : ℚ :=
  100 * (rawScore - minPossible groups) / (maxPossible groups - minPossible groups)

omit [UnicodeData] in
theorem percentage_mem {groups : List RuleGroupInput} {rawScore : ℚ}
    (lower : minPossible groups ≤ rawScore) (upper : rawScore ≤ maxPossible groups)
    (different : maxPossible groups ≠ minPossible groups) :
    0 ≤ percentage groups rawScore ∧ percentage groups rawScore ≤ 100 := by
  have width : 0 < maxPossible groups - minPossible groups := by
    have := lt_of_le_of_ne (lower.trans upper) (Ne.symm different)
    linarith
  refine ⟨div_nonneg (by linarith) width.le, ?_⟩
  rw [percentage, div_le_iff₀ width]
  linarith

omit [UnicodeData] in
/-- Between its bounds the score is not clamped. -/
theorem normalizeScore_eq {groups : List RuleGroupInput} {rawScore : ℚ}
    (lower : minPossible groups ≤ rawScore) (upper : rawScore ≤ maxPossible groups)
    (different : maxPossible groups ≠ minPossible groups) :
    normalizeScore rawScore groups = quantize (percentage groups rawScore) := by
  rcases percentage_mem lower upper different with ⟨nonneg, small⟩
  have same : (rawScore - minPossible groups) / (maxPossible groups - minPossible groups) * 100 =
      percentage groups rawScore := by
    rw [percentage]
    ring
  rw [normalizeScore, if_neg different, same]
  dsimp only
  rw [max_eq_left nonneg, min_eq_left small]

omit [UnicodeData] in
/-- Between the bounds a higher raw score is a higher score, unless the bounds are so far apart
that rounding may hide the difference. -/
theorem normalizeScore_lt {groups : List RuleGroupInput} {lowerScore upperScore : ℚ}
    (lower : minPossible groups ≤ lowerScore) (less : lowerScore < upperScore)
    (upper : upperScore ≤ maxPossible groups)
    (visible : maxPossible groups - minPossible groups ≤ 10000 * (upperScore - lowerScore)) :
    normalizeScore lowerScore groups < normalizeScore upperScore groups := by
  have width : 0 < maxPossible groups - minPossible groups := by linarith
  have different : maxPossible groups ≠ minPossible groups := by
    intro same
    rw [same] at width
    simp at width
  rw [normalizeScore_eq lower (less.le.trans upper) different,
    normalizeScore_eq (lower.trans less.le) upper different]
  refine quantize_lt_of_add_le (percentage_mem lower (less.le.trans upper) different).1 ?_
  rw [percentage, percentage, div_add' _ _ _ width.ne', div_le_div_iff_of_pos_right width]
  linarith

/-- The group, the outcome and the message that a breakdown item is about. -/
def ScoreBreakdownItem.subject (item : ScoreBreakdownItem) : UUID × UUID × String :=
  (item.ruleGroupId, item.ruleOutcomeId, item.explanationMessage)

/-- The non-blocking outcomes of all groups. -/
def scoringSubjects (groups : List RuleGroupInput) : List (UUID × UUID × String) :=
  groups.flatMap fun group =>
    group.scoringOutcomes.map fun outcome => (group.id, outcome.id, outcome.explanationMessage)

theorem subjects_scoringItems (profile : Dict) (groups : List RuleGroupInput) :
    (groups.flatMap (groupScoringItems profile)).map (·.subject) = scoringSubjects groups := by
  rw [List.map_flatMap]
  simp only [groupScoringItems, List.map_map]
  rfl

variable [Hashlib]

/-- The scores of an unblocked evaluation, and the outcomes in its breakdown. -/
theorem evaluate_unblocked {profileSnapshot : Dict} {version : ProgramVersionInput}
    {groups : List RuleGroupInput} {result : ScoreComputationResult}
    (two : DeltasTwoDecimals groups)
    (evaluated : evaluate profileSnapshot version groups = .ok result)
    (unblocked : result.isBlocked = false) :
    ∃ profile, normalizeProfile profileSnapshot = .ok profile ∧
      result.rawScore = (nonBlockingDeltas (holdingGroups profile groups)).sum ∧
      result.scoreFinal = normalizeScore result.rawScore groups ∧
      (result.breakdown.map (·.subject)).Perm (scoringSubjects groups) := by
  rcases evaluate_eq_ok evaluated with ⟨profile, normalized, outcome⟩
  have perm : (sortedGroups groups).Perm groups := sortBy_perm groupKey groups
  have scored : result = scoredResult (computeRulesVersionHash version (sortedGroups groups))
      (sortedGroups groups) ((sortedGroups groups).flatMap (groupScoringItems profile)) := by
    rcases outcome with ⟨-, blocked⟩ | ⟨-, scored⟩
    · rw [blocked] at unblocked
      exact absurd unblocked (by simp [blockedResult])
    · exact scored
  have sortedTwo : DeltasTwoDecimals (sortedGroups groups) := by
    intro delta deltaMem
    exact two delta ((nonBlockingDeltas_perm perm).mem_iff.mp deltaMem)
  have holding : (holdingGroups profile (sortedGroups groups)).Perm (holdingGroups profile groups) :=
    perm.filter _
  have sum := (sum_scoringItems profile sortedTwo).trans (nonBlockingDeltas_perm holding).sum_eq
  have raw : result.rawScore = (nonBlockingDeltas (holdingGroups profile groups)).sum := by
    rw [scored]
    simp only [scoredResult, sum]
    apply quantize_of_twoDecimals
    apply twoDecimals_sum
    intro delta deltaMem
    exact two delta ((holdingDeltas_sublist profile groups).subset deltaMem)
  refine ⟨profile, normalized, raw, ?_, ?_⟩
  · conv_lhs => rw [scored]
    simp only [scoredResult, sum, ← raw, normalizeScore, minPossible_perm perm,
      maxPossible_perm perm]
  · rw [scored]
    simp only [scoredResult, subjects_scoringItems]
    exact perm.flatMap_right _

/-- The score of an unblocked evaluation. The raw score is the sum of the non-blocking deltas
of the groups that hold; it lies between the bounds, so that the clamp does nothing; the
final score is its place between the bounds, rounded half up, or zero when the bounds are
equal; and the breakdown lists every non-blocking outcome once. -/
theorem evaluate_score {profileSnapshot : Dict} {version : ProgramVersionInput}
    {groups : List RuleGroupInput} {result : ScoreComputationResult}
    (two : DeltasTwoDecimals groups)
    (evaluated : evaluate profileSnapshot version groups = .ok result)
    (unblocked : result.isBlocked = false) :
    (∃ profile, normalizeProfile profileSnapshot = .ok profile ∧
      result.rawScore = (nonBlockingDeltas (holdingGroups profile groups)).sum) ∧
    (minPossible groups ≤ result.rawScore ∧ result.rawScore ≤ maxPossible groups) ∧
    (maxPossible groups ≠ minPossible groups →
      min (max (percentage groups result.rawScore) 0) 100 = percentage groups result.rawScore ∧
        result.scoreFinal = quantize (percentage groups result.rawScore)) ∧
    (0 ≤ result.scoreFinal ∧ result.scoreFinal ≤ 100) ∧
    (maxPossible groups = minPossible groups → result.scoreFinal = 0 ∧ ¬ 0 < result.rawScore) ∧
    (result.breakdown.map (·.subject)).Perm (scoringSubjects groups) := by
  rcases evaluate_unblocked two evaluated unblocked with ⟨profile, normalized, raw, final, perm⟩
  have lower : minPossible groups ≤ result.rawScore := by
    rw [raw]
    exact sum_min_le_sum_of_sublist (holdingDeltas_sublist profile groups)
  have upper : result.rawScore ≤ maxPossible groups := by
    rw [raw]
    exact sum_le_sum_max_of_sublist (holdingDeltas_sublist profile groups)
  have notPositive (same : maxPossible groups = minPossible groups) : ¬ 0 < result.rawScore := by
    have := minPossible_nonpos groups
    linarith
  refine ⟨⟨profile, normalized, raw⟩, ⟨lower, upper⟩, ?_, ?_, ?_, perm⟩
  · intro different
    rcases percentage_mem lower upper different with ⟨nonneg, small⟩
    refine ⟨by rw [max_eq_left nonneg, min_eq_left small], ?_⟩
    rw [final, normalizeScore_eq lower upper different]
  · by_cases same : maxPossible groups = minPossible groups
    · rw [final, normalizeScore, if_pos same, if_neg (notPositive same)]
      norm_num
    · rcases percentage_mem lower upper same with ⟨nonneg, small⟩
      rw [final, normalizeScore_eq lower upper same]
      have hundred : quantize 100 = 100 := quantize_of_twoDecimals ⟨10000, by norm_num⟩
      exact ⟨quantize_zero ▸ quantize_mono nonneg, hundred ▸ quantize_mono small⟩
  · intro same
    exact ⟨by rw [final, normalizeScore, if_pos same, if_neg (notPositive same)], notPositive same⟩

end Score

section Sample

/-- A profile with every required field. -/
def sampleProfile (idade : Value) : Dict :=
  [("idade", idade), ("escolaridade", .str "bachelor"), ("profissao", .str "Engineer"),
    ("idiomas", .dict [("en", .str "B2")]), ("renda_atual", .int 6000)]

def sampleVersion : ProgramVersionInput := ⟨1, "2026.1", 63871243200000000, none⟩

/-- One group with an upper bound on the age and two outcomes. -/
def sampleGroup : RuleGroupInput where
  id := 2
  code := "AGE_GROUP"
  name := "Idade"
  priority := 10
  matchOperator := "all"
  conditions := [⟨3, "idade", "lte", ⟨.int 45, trivial⟩, 1, true⟩]
  outcomes := [⟨4, ⟨false, 1500, -2⟩, false, "Idade dentro da faixa", some "AGE_OK"⟩,
    ⟨5, ⟨true, 2000, -2⟩, false, "Idade acima do limite", some "AGE_RISK"⟩]

/-- The digest of the canonical payload of `sampleGroup` in `sampleVersion`. -/
abbrev sampleHashlib : Hashlib :=
  ⟨fun _ => "df2e32a597e635b85f5fad420bfc8bd34aa6fc455d11e5b2c55f1e02741a5330"⟩

local instance : UnicodeData := UnicodeData.ascii

local instance : Hashlib := sampleHashlib

theorem evaluate_score_sample :
    ∃ result, evaluate (sampleProfile (.int 30)) sampleVersion [sampleGroup] = .ok result ∧
      result.scoreFinal = 4286 / 100 ∧
      result.scoreFinal = quantize (percentage [sampleGroup] result.rawScore) := by
  have score : ((evaluate (sampleProfile (.int 30)) sampleVersion [sampleGroup]).toOption.map
      fun result => (result.isBlocked, result.scoreFinal)) = some (false, 4286 / 100) := by
    decide +kernel
  cases evaluated : evaluate (sampleProfile (.int 30)) sampleVersion [sampleGroup] with
  | error error => simp [evaluated, Except.toOption] at score
  | ok result =>
      obtain ⟨unblocked, final⟩ : result.isBlocked = false ∧ result.scoreFinal = 4286 / 100 := by
        simpa [evaluated, Except.toOption] using score
      have two : DeltasTwoDecimals [sampleGroup] := by
        have deltas : nonBlockingDeltas [sampleGroup] = [1500 / 100, -2000 / 100] := by
          decide +kernel
        intro delta deltaMem
        rw [deltas] at deltaMem
        simp only [List.mem_cons, List.not_mem_nil, or_false] at deltaMem
        rcases deltaMem with rfl | rfl
        · exact ⟨1500, by norm_num⟩
        · exact ⟨-2000, by norm_num⟩
      exact ⟨result, rfl, final,
        ((evaluate_score two evaluated unblocked).2.2.1 (by decide +kernel)).2⟩

end Sample

end ImigrAI.Assessments
