import ImigrAI.Assessments.Score

/-!
# Stored results and their breakdown

`replace_assessment_result` stores an evaluation without its factors and gaps, and
`_to_breakdown_response` rebuilds them from the stored items. The numeric columns have two
decimals and are taken to give back what was stored.
-/

namespace ImigrAI.Assessments

open Python Sorting

/-- The JSON column of an item. -/
structure AuditPayload where
  conditionChecks : List ConditionCheck
  isBlocking : Bool
  ruleGroupCode : String

structure AssessmentResultItem where
  id : UUID
  createdAt : Instant
  ruleGroupId : UUID
  ruleConditionId : Option UUID
  ruleOutcomeId : UUID
  applied : Bool
  scoreDelta : ℚ
  explanationMessage : String
  auditPayloadJson : AuditPayload

structure StoredAssessmentResult where
  programVersion : ProgramVersionInput
  rulesVersionHash : String
  algorithmVersion : String
  totalScore : ℚ
  isEligible : Bool
  computedAt : Instant
  items : List AssessmentResultItem

/-- The row of a breakdown item, with the id and the creation time that it gets. -/
def resultItemRow (stamp : UUID × Instant) (item : ScoreBreakdownItem) : AssessmentResultItem where
  id := stamp.1
  createdAt := stamp.2
  ruleGroupId := item.ruleGroupId
  ruleConditionId := item.ruleConditionId
  ruleOutcomeId := item.ruleOutcomeId
  applied := item.applied
  scoreDelta := item.scoreDelta
  explanationMessage := item.explanationMessage
  auditPayloadJson := ⟨item.conditionChecks, item.isBlocking, item.ruleGroupCode⟩

/-- What `replace_assessment_result` stores; `stamps` gives the id and the creation time of
each item. -/
def storeResult (version : ProgramVersionInput) (computation : ScoreComputationResult)
    (computedAt : Instant) (stamps : ℕ → UUID × Instant) : StoredAssessmentResult where
  programVersion := version
  rulesVersionHash := computation.rulesVersionHash
  algorithmVersion := computation.algorithmVersion
  totalScore := computation.scoreFinal
  isEligible := computation.isEligible
  computedAt := computedAt
  items := computation.breakdown.mapIdx fun index item => resultItemRow (stamps index) item

/-- The order in which items are read. -/
def resultItemKey (item : AssessmentResultItem) : Instant ×ₗ String :=
  toLex (item.createdAt, item.id.str)

/-- `value.quantize(Decimal("0.01"))`, which rounds ties to even. -/
def quantizeDefault (value : ℚ) : ℚ := (Rounding.roundHalfEven (value * 100) : ℚ) / 100

structure AssessmentBreakdownEntry where
  ruleGroupId : UUID
  ruleGroupCode : String
  ruleConditionId : Option UUID
  ruleOutcomeId : UUID
  applied : Bool
  scoreDelta : ℚ
  isBlocking : Bool
  explanationMessage : String
  conditionChecks : List ConditionCheck

structure AssessmentBreakdown where
  scoreFinal : ℚ
  faixa : String
  fatoresPositivos : List String
  gapsCriticos : List String
  programVersionUsed : ProgramVersionInput
  algorithmVersion : String
  rulesVersionHash : String
  items : List AssessmentBreakdownEntry

def breakdownEntry (item : AssessmentResultItem) : AssessmentBreakdownEntry where
  ruleGroupId := item.ruleGroupId
  ruleGroupCode := item.auditPayloadJson.ruleGroupCode
  ruleConditionId := item.ruleConditionId
  ruleOutcomeId := item.ruleOutcomeId
  applied := item.applied
  scoreDelta := item.scoreDelta
  isBlocking := item.auditPayloadJson.isBlocking
  explanationMessage := item.explanationMessage
  conditionChecks := item.auditPayloadJson.conditionChecks

/-- The messages that the reader takes for critical gaps. -/
def criticalGaps (items : List AssessmentResultItem) : List String :=
  (items.filter fun item =>
    item.applied && (item.auditPayloadJson.isBlocking || item.scoreDelta < 0)).map
      (·.explanationMessage)

/-- The messages that the reader takes for positive factors. -/
def positiveFactors (items : List AssessmentResultItem) : List String :=
  (items.filter fun item => item.applied && 0 < item.scoreDelta).map (·.explanationMessage)

def toBreakdownResponse (result : StoredAssessmentResult) : AssessmentBreakdown :=
  let items := sortBy resultItemKey result.items
  let scoreFinal := quantizeDefault result.totalScore
  { scoreFinal := scoreFinal
    faixa := toFaixa scoreFinal
    fatoresPositivos := positiveFactors items
    gapsCriticos := criticalGaps items
    programVersionUsed := result.programVersion
    algorithmVersion := result.algorithmVersion
    rulesVersionHash := result.rulesVersionHash
    items := items.map breakdownEntry }

theorem quantizeDefault_of_twoDecimals {value : ℚ} (two : TwoDecimals value) :
    quantizeDefault value = value := by
  rcases two with ⟨hundredths, rfl⟩
  rw [quantizeDefault, div_mul_cancel₀ _ (by norm_num), Rounding.roundHalfEven_intCast]

theorem twoDecimals_normalizeScore (rawScore : ℚ) (groups : List RuleGroupInput) :
    TwoDecimals (normalizeScore rawScore groups) := by
  unfold normalizeScore
  split_ifs
  · exact ⟨10000, by norm_num⟩
  · exact ⟨0, by norm_num⟩
  · exact twoDecimals_quantize _

/-- A filter on rows that reads what an item has is a filter on items. -/
theorem messages_storeResult (version : ProgramVersionInput) (computation : ScoreComputationResult)
    (computedAt : Instant) (stamps : ℕ → UUID × Instant) (test : AssessmentResultItem → Bool)
    (itemTest : ScoreBreakdownItem → Bool)
    (same : ∀ item ∈ computation.breakdown, ∀ stamp,
      test (resultItemRow stamp item) = itemTest item) :
    (((sortBy resultItemKey (storeResult version computation computedAt stamps).items).filter
        test).map (·.explanationMessage)).Perm
      ((computation.breakdown.filter itemTest).map (·.explanationMessage)) := by
  refine (((sortBy_perm _ _).filter _).map _).trans (List.Perm.of_eq ?_)
  have rows (items : List ScoreBreakdownItem) (stamps : ℕ → UUID × Instant)
      (same : ∀ item ∈ items, ∀ stamp, test (resultItemRow stamp item) = itemTest item) :
      ((items.mapIdx fun index item => resultItemRow (stamps index) item).filter test).map
          (·.explanationMessage) = (items.filter itemTest).map (·.explanationMessage) := by
    induction items generalizing stamps with
    | nil => rfl
    | cons item items ih =>
        have tail := ih (fun index => stamps (index + 1)) fun other otherMem stamp =>
          same other (by simp [otherMem]) stamp
        simp only [List.mapIdx_cons, List.filter_cons, same item (by simp)]
        split_ifs
        · rw [List.map_cons, List.map_cons, tail]
          rfl
        · exact tail
  exact rows computation.breakdown stamps same

section Items

variable [UnicodeData]

/-- Items of the scoring pass that did not apply have delta zero. -/
theorem scoreDelta_of_not_applied {profile : Dict} {groups : List RuleGroupInput}
    {item : ScoreBreakdownItem} (itemMem : item ∈ groups.flatMap (groupScoringItems profile))
    (skipped : item.applied = false) : item.scoreDelta = 0 := by
  rcases List.mem_flatMap.mp itemMem with ⟨group, -, itemMem⟩
  rcases List.mem_map.mp itemMem with ⟨outcome, -, rfl⟩
  simp only [scoringItem] at skipped ⊢
  simp [skipped]

theorem isBlocking_scoringItem {profile : Dict} {groups : List RuleGroupInput}
    {item : ScoreBreakdownItem} (itemMem : item ∈ groups.flatMap (groupScoringItems profile)) :
    item.isBlocking = false := by
  rcases List.mem_flatMap.mp itemMem with ⟨group, -, itemMem⟩
  rcases List.mem_map.mp itemMem with ⟨outcome, -, rfl⟩
  rfl

/-- The items of the blocking pass apply, block, and come from groups that hold. -/
theorem mem_blockingItems {profile : Dict} {groups : List RuleGroupInput}
    {item : ScoreBreakdownItem} :
    item ∈ groups.flatMap (groupBlockingItems profile) ↔
      ∃ group ∈ groups, GroupHolds profile group ∧ ∃ outcome ∈ group.outcomes,
        outcome.isBlocking = true ∧
          item = blockingItem group (groupChecks profile group) outcome := by
  simp only [List.mem_flatMap]
  apply exists_congr
  intro group
  apply and_congr_right
  intro _
  by_cases holds : GroupHolds profile group
  · simp only [groupBlockingItems, holds, if_true, true_and, List.mem_map, List.mem_filter,
      and_assoc]
    constructor
    · rintro ⟨outcome, outcomeMem, blocking, rfl⟩
      exact ⟨outcome, outcomeMem, blocking, rfl⟩
    · rintro ⟨outcome, outcomeMem, blocking, rfl⟩
      exact ⟨outcome, outcomeMem, blocking, rfl⟩
  · simp [groupBlockingItems, holds]

end Items

end ImigrAI.Assessments
