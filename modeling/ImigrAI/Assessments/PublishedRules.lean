import ImigrAI.Assessments.Processing
import ImigrAI.Assessments.Score
import ImigrAI.Ingestion.Publisher

/-!
# Scoring with published rules

The rule groups of a payload, as a publication stores them and an assessment reads them back:
the raw score of a profile is what the groups of the payload add to it one by one.
-/

namespace ImigrAI.Assessments

open Python ImmigrationRules Ingestion Sorting Fallible

theorem toRat_numericColumn {number stored : Decimal} (fits : numericColumn number = some stored) :
    stored.toRat = quantize number.toRat := by
  unfold numericColumn at fits
  dsimp only at fits
  split_ifs at fits
  cases fits
  rw [Decimal.toRat, quantize]
  generalize Rounding.roundHalfUp (number.toRat * 100) = hundredths
  rcases lt_or_ge hundredths 0 with negative | nonneg
  · have magnitude : ((hundredths.natAbs : ℕ) : ℚ) = -hundredths := by
      rw [Nat.cast_natAbs, abs_of_neg negative, Int.cast_neg]
    simp only [negative, decide_true, if_true, magnitude]
    ring
  · have magnitude : ((hundredths.natAbs : ℕ) : ℚ) = hundredths := by
      rw [Nat.cast_natAbs, abs_of_nonneg nonneg]
    simp only [not_lt.mpr nonneg, decide_false, Bool.false_eq_true, if_false, magnitude]
    ring

/-- The deltas of the non-blocking outcomes, as they are stored. -/
def payloadDeltas (group : NormalizedRuleGroup) : List ℚ :=
  (group.outcomes.filter (!·.isBlocking)).map fun outcome => quantize outcome.scoreDelta.toRat

section Group

variable {ids : PublicationIds} {programVersionId : UUID} {position : ℕ}
  {group : NormalizedRuleGroup} {row : RuleGroup}

/-- What the engine reads of the conditions is what the payload says. -/
theorem conditions_ruleGroupInput
    (stored : storedGroup ids programVersionId position group = .ok row) :
    ((ruleGroupInput row).conditions.map fun condition =>
        (condition.operator, condition.fieldKey, condition.valueJson)).Perm
      (group.conditions.map fun condition =>
        (condition.operator.value, condition.fieldKey, condition.valueJson)) := by
  rcases bind_eq_ok_iff.mp stored with ⟨outcomes, -, made⟩
  cases made
  refine ((sortBy_perm conditionKey _).map _).trans (List.Perm.of_eq ?_)
  rw [List.map_map, List.map_map]
  conv_rhs => rw [← List.zipIdx_map_fst 0 group.conditions, List.map_map]
  rfl

theorem storedOutcome_deltas {id : UUID} {outcome : NormalizedRuleOutcome} {storedRow : RuleOutcome}
    (stored : storedOutcome id outcome = .ok storedRow) :
    (storedRow.isBlocking, storedRow.scoreDelta.toRat) =
      (outcome.isBlocking, quantize outcome.scoreDelta.toRat) := by
  unfold storedOutcome at stored
  split at stored
  · next scoreDelta fits =>
      cases stored
      rw [toRat_numericColumn fits]
  · exact absurd stored (by simp)

theorem outcomes_ruleGroupInput
    (stored : storedGroup ids programVersionId position group = .ok row) :
    (ruleGroupInput row).outcomes.map (fun outcome =>
        (outcome.isBlocking, outcome.scoreDelta.toRat)) =
      group.outcomes.map fun outcome =>
        (outcome.isBlocking, quantize outcome.scoreDelta.toRat) := by
  rcases bind_eq_ok_iff.mp stored with ⟨outcomes, loop, made⟩
  cases made
  have kept : outcomes.map (fun outcome => (outcome.isBlocking, outcome.scoreDelta.toRat)) =
      group.outcomes.zipIdx.map fun entry =>
        (entry.1.isBlocking, quantize entry.1.scoreDelta.toRat) := by
    apply map_of_mapM_eq_ok loop
    intro entry storedRow storing
    exact storedOutcome_deltas storing
  rw [ruleGroupInput, List.map_map]
  refine kept.trans ?_
  conv_rhs => rw [← List.zipIdx_map_fst 0 group.outcomes, List.map_map]
  rfl

theorem payloadDeltas_eq (group : NormalizedRuleGroup) :
    payloadDeltas group = ((group.outcomes.map fun outcome =>
      (outcome.isBlocking, quantize outcome.scoreDelta.toRat)).filter (!·.1)).map (·.2) := by
  rw [payloadDeltas, List.filter_map, List.map_map]
  rfl

theorem nonBlockingDeltas_ruleGroupInput
    (stored : storedGroup ids programVersionId position group = .ok row) :
    nonBlockingDeltas [ruleGroupInput row] = payloadDeltas group := by
  rw [payloadDeltas_eq, ← outcomes_ruleGroupInput stored, List.filter_map, List.map_map,
    nonBlockingDeltas, List.flatMap_singleton]
  rfl

variable [UnicodeData]

/-- A condition of a payload evaluates to true. -/
def PayloadConditionHolds (profile : Dict) (condition : NormalizedRuleCondition) : Prop :=
  evaluateCondition condition.operator.value (resolveField profile condition.fieldKey)
    condition.valueJson.value = .ok true

instance (profile : Dict) : DecidablePred (PayloadConditionHolds profile) :=
  fun _ => inferInstanceAs (Decidable (_ = _))

/-- The conditions of a group of a payload hold for a profile. -/
def PayloadGroupHolds (profile : Dict) (group : NormalizedRuleGroup) : Prop :=
  group.conditions = [] ∨
    if group.matchOperator = .any then
      ∃ condition ∈ group.conditions, PayloadConditionHolds profile condition
    else ∀ condition ∈ group.conditions, PayloadConditionHolds profile condition

instance (profile : Dict) : DecidablePred (PayloadGroupHolds profile) := fun group =>
  have : Decidable (group.conditions = []) := decidable_of_iff _ List.isEmpty_iff
  inferInstanceAs (Decidable (_ ∨ _))

theorem groupHolds_ruleGroupInput (profile : Dict)
    (stored : storedGroup ids programVersionId position group = .ok row) :
    GroupHolds profile (ruleGroupInput row) ↔ PayloadGroupHolds profile group := by
  have readings := conditions_ruleGroupInput stored
  have operator : (ruleGroupInput row).matchOperator = group.matchOperator.value := by
    rcases bind_eq_ok_iff.mp stored with ⟨outcomes, -, made⟩
    cases made
    rfl
  have anyMatch : (ruleGroupInput row).matchOperator = "any" ↔ group.matchOperator = .any := by
    rw [operator]
    cases group.matchOperator <;> decide
  have none : (ruleGroupInput row).conditions = [] ↔ group.conditions = [] := by
    simpa [List.length_eq_zero_iff] using congrArg (· = 0) readings.length_eq
  let holds (reading : String × String × Json) : Prop :=
    evaluateCondition reading.1 (resolveField profile reading.2.1) reading.2.2.value = .ok true
  have anyHolds := exists_congr fun reading =>
    and_congr_left' (c := holds reading) (readings.mem_iff (a := reading))
  have allHolds := forall_congr' fun reading =>
    imp_congr_left (c := holds reading) (readings.mem_iff (a := reading))
  simp only [List.mem_map, exists_exists_and_eq_and, forall_exists_index, and_imp,
    forall_apply_eq_imp_iff₂] at anyHolds allHolds
  refine or_congr none ?_
  simp only [anyMatch]
  split_ifs
  · exact anyHolds
  · exact allHolds

end Group

/-- What a group of a payload adds to the raw score of a profile. -/
def payloadGain [UnicodeData] (profile : Dict) (group : NormalizedRuleGroup) : ℚ :=
  if PayloadGroupHolds profile group then (payloadDeltas group).sum else 0

section Groups

variable {ids : PublicationIds} {programVersionId : UUID}
  {entries : List (NormalizedRuleGroup × ℕ)} {rows : List RuleGroup}

theorem nonBlockingDeltas_storesGroups (stores : StoresGroups ids programVersionId entries rows) :
    nonBlockingDeltas (rows.map ruleGroupInput) =
      (entries.map (·.1)).flatMap payloadDeltas := by
  induction stores with
  | nil => rfl
  | @cons entry row entries rows stored _ ih =>
      rw [List.map_cons, List.map_cons, List.flatMap_cons, ← ih,
        ← nonBlockingDeltas_ruleGroupInput stored, nonBlockingDeltas, nonBlockingDeltas,
        List.flatMap_cons, List.flatMap_singleton]
      rfl

theorem sum_holdingDeltas_storesGroups [UnicodeData] (profile : Dict)
    (stores : StoresGroups ids programVersionId entries rows) :
    (nonBlockingDeltas (holdingGroups profile (rows.map ruleGroupInput))).sum =
      ((entries.map (·.1)).map (payloadGain profile)).sum := by
  induction stores with
  | nil => rfl
  | @cons entry row entries rows stored _ ih =>
      have own := nonBlockingDeltas_ruleGroupInput stored
      rw [nonBlockingDeltas, List.flatMap_singleton] at own
      rw [List.map_cons, List.map_cons, List.map_cons, List.sum_cons, ← ih, payloadGain, ← own]
      simp only [← groupHolds_ruleGroupInput profile stored, holdingGroups]
      split_ifs with holds
      · rw [List.filter_cons_of_pos (by simpa using holds), nonBlockingDeltas, List.flatMap_cons,
          List.sum_append]
        rfl
      · rw [List.filter_cons_of_neg (by simpa using holds), zero_add]

end Groups

/-- The rule groups of a published version are those of the payload. -/
theorem listRuleGroups_publishVersion {db published : Database} {ids : PublicationIds}
    {times : PublicationTimes} {programId versionId : UUID} {payload : NormalizedProgramPayload}
    {semanticHash : String}
    (publishing : publishVersion db ids times programId payload semanticHash =
      .ok (published, versionId)) :
    ∃ rows, StoresGroups ids ids.version (payload.ruleGroups.zipIdx 0) rows ∧
      (listRuleGroups published.toTables versionId).Perm rows := by
  exact ⟨_, ruleGroups_publishVersion publishing, sortBy_perm _ _⟩

/-- The score with stored rules. Where none of their outcomes blocks, it is that of the sum of
what the groups add, which lies between the bounds. -/
theorem evaluate_storesGroups [UnicodeData] [Hashlib] {ids : PublicationIds}
    {programVersionId : UUID} {groups : List NormalizedRuleGroup} {rows listed : List RuleGroup}
    (stores : StoresGroups ids programVersionId (groups.zipIdx 0) rows) (perm : listed.Perm rows)
    (noBlocking : ∀ group ∈ groups, ∀ outcome ∈ group.outcomes, outcome.isBlocking = false)
    {profileSnapshot : Dict} {version : ProgramVersionInput} {result : ScoreComputationResult}
    (evaluated : evaluate profileSnapshot version (listed.map ruleGroupInput) = .ok result) :
    ∃ profile, normalizeProfile profileSnapshot = .ok profile ∧
      result.scoreFinal =
        normalizeScore (groups.map (payloadGain profile)).sum (rows.map ruleGroupInput) ∧
      (minPossible (rows.map ruleGroupInput) ≤ (groups.map (payloadGain profile)).sum ∧
        (groups.map (payloadGain profile)).sum ≤ maxPossible (rows.map ruleGroupInput)) ∧
      ∀ group ∈ groups, ∀ condition ∈ group.conditions, ∃ matched,
        evaluateCondition condition.operator.value (resolveField profile condition.fieldKey)
          condition.valueJson.value = .ok matched := by
  have inputs := perm.map ruleGroupInput
  have deltas := nonBlockingDeltas_storesGroups stores
  rw [List.zipIdx_map_fst] at deltas
  have two : DeltasTwoDecimals (listed.map ruleGroupInput) := by
    intro delta deltaMem
    rw [(nonBlockingDeltas_perm inputs).mem_iff, deltas] at deltaMem
    rcases List.mem_flatMap.mp deltaMem with ⟨group, -, deltaMem⟩
    rcases List.mem_map.mp deltaMem with ⟨outcome, -, rfl⟩
    exact twoDecimals_quantize _
  have unblocked : result.isBlocked = false := by
    apply unblocked_of_evaluate evaluated
    intro input inputMem outcome outcomeMem
    rcases List.mem_map.mp inputMem with ⟨row, rowMem, rfl⟩
    have reversed : List.Forall₂ (fun row entry =>
        storedGroup ids programVersionId entry.2 entry.1 = .ok row) rows (groups.zipIdx 0) :=
      List.Forall₂.flip stores
    rcases exists_mem_of_forall₂ reversed row (perm.subset rowMem) with
      ⟨⟨group, position⟩, entryMem, stored⟩
    have outcomeReads := List.mem_map_of_mem (f := fun outcome : RuleOutcomeInput =>
      (outcome.isBlocking, outcome.scoreDelta.toRat)) outcomeMem
    rw [outcomes_ruleGroupInput stored] at outcomeReads
    rcases List.mem_map.mp outcomeReads with ⟨written, writtenMem, same⟩
    simp only [Prod.mk.injEq] at same
    rw [← same.1]
    exact noBlocking group (List.fst_mem_of_mem_zipIdx entryMem) written writtenMem
  rcases evaluate_unblocked two evaluated unblocked with ⟨profile, normalized, raw, final, -⟩
  have holding : (holdingGroups profile (listed.map ruleGroupInput)).Perm
      (holdingGroups profile (rows.map ruleGroupInput)) := inputs.filter _
  have gains := sum_holdingDeltas_storesGroups profile stores
  rw [List.zipIdx_map_fst] at gains
  rw [(nonBlockingDeltas_perm holding).sum_eq] at raw
  refine ⟨profile, normalized, ?_, ⟨?_, ?_⟩, ?_⟩
  · rw [final, raw, gains, normalizeScore, normalizeScore, minPossible_perm inputs,
      maxPossible_perm inputs]
  · rw [← gains]
    exact sum_min_le_sum_of_sublist (holdingDeltas_sublist profile _)
  · rw [← gains]
    exact sum_le_sum_max_of_sublist (holdingDeltas_sublist profile _)
  · intro group groupMem condition conditionMem
    rcases List.mem_iff_getElem?.mp groupMem with ⟨position, found⟩
    rcases exists_mem_of_forall₂ stores (group, position)
      (List.mk_mem_zipIdx_iff_getElem?.mpr found) with ⟨row, rowMem, stored⟩
    have readings := (conditions_ruleGroupInput stored).symm.subset
      (List.mem_map_of_mem conditionMem)
    rcases List.mem_map.mp readings with ⟨input, inputMem, same⟩
    simp only [Prod.mk.injEq] at same
    rw [← same.1, ← same.2.1, ← same.2.2]
    exact conditions_of_evaluate evaluated normalized _
      (List.mem_map_of_mem (perm.symm.subset rowMem)) input inputMem

end ImigrAI.Assessments
