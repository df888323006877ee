import ImigrAI.Assessments.Score

/-!
# More gains and fewer losses do not lower the score

Between two profiles that evaluate unblocked against one rule set, the score, the eligibility and
the band follow the outcomes that are applied.
-/

namespace ImigrAI.Assessments

open Python Sorting Fallible

theorem minPossible_le_maxPossible (groups : List RuleGroupInput) :
    minPossible groups ≤ maxPossible groups :=
  (sum_min_le_sum_of_sublist (List.Sublist.refl _)).trans
    (sum_le_sum_max_of_sublist (List.Sublist.refl _))

/-- The normalisation is monotone, also where the bounds are equal and where it clamps. -/
theorem normalizeScore_mono {groups : List RuleGroupInput} {lowerScore upperScore : ℚ}
    (le : lowerScore ≤ upperScore) :
    normalizeScore lowerScore groups ≤ normalizeScore upperScore groups := by
  rw [normalizeScore, normalizeScore]
  split_ifs with same lowerPositive upperPositive upperPositive
  · exact le_rfl
  · exact absurd (lowerPositive.trans_le le) upperPositive
  · norm_num
  · exact le_rfl
  · have width : 0 ≤ maxPossible groups - minPossible groups :=
      sub_nonneg.mpr (minPossible_le_maxPossible groups)
    apply quantize_mono
    gcongr

/-- The place of a band in the order `baixo`, `medio`, `alto`. -/
def faixaRank (faixa : String) : ℕ := ["baixo", "medio", "alto"].idxOf faixa

theorem faixaRank_mono {lowerScore upperScore : ℚ} (le : lowerScore ≤ upperScore) :
    faixaRank (toFaixa lowerScore) ≤ faixaRank (toFaixa upperScore) := by
  have ranks : faixaRank "baixo" = 0 ∧ faixaRank "medio" = 1 ∧ faixaRank "alto" = 2 := by
    decide
  rw [toFaixa, toFaixa]
  split_ifs with lowerBaixo upperBaixo upperMedio lowerMedio upperBaixo upperMedio
  all_goals linarith

section Applied

variable [UnicodeData]

/-- The engine applies the outcomes of the group to the profile. -/
def AppliesTo (profileSnapshot : Dict) (group : RuleGroupInput) : Prop :=
  ∃ profile checks, normalizeProfile profileSnapshot = .ok profile ∧
    evaluateGroupConditions group profile = .ok (checks, true)

/-- Every gain of the first profile is one of the second, and every loss of the second is one of
the first. -/
def Improves (first second : Dict) (groups : List RuleGroupInput) : Prop :=
  ∀ group ∈ groups, ∀ outcome ∈ group.scoringOutcomes,
    (0 < outcome.scoreDelta.toRat → AppliesTo first group → AppliesTo second group) ∧
      (outcome.scoreDelta.toRat < 0 → AppliesTo second group → AppliesTo first group)

variable [Hashlib]

theorem appliesTo_iff {profileSnapshot profile : Dict} {version : ProgramVersionInput}
    {groups : List RuleGroupInput} {result : ScoreComputationResult}
    (evaluated : evaluate profileSnapshot version groups = .ok result)
    (normalized : normalizeProfile profileSnapshot = .ok profile) {group : RuleGroupInput}
    (groupMem : group ∈ groups) : AppliesTo profileSnapshot group ↔ GroupHolds profile group := by
  have conditions := evaluateGroupConditions_of_evaluate evaluated normalized groupMem
  constructor
  · rintro ⟨same, checks, again, applies⟩
    cases normalized.symm.trans again
    exact of_decide_eq_true (evaluateGroupConditions_eq applies).2.symm
  · intro holds
    rw [decide_eq_true holds] at conditions
    exact ⟨profile, _, normalized, conditions⟩

/-- The flags of the breakdown tell which outcomes are applied. -/
theorem applied_iff_of_mem_breakdown {profileSnapshot : Dict} {version : ProgramVersionInput}
    {groups : List RuleGroupInput} {result : ScoreComputationResult}
    (evaluated : evaluate profileSnapshot version groups = .ok result)
    (unblocked : result.isBlocked = false) {item : ScoreBreakdownItem}
    (itemMem : item ∈ result.breakdown) :
    ∃ group ∈ groups, ∃ outcome ∈ group.scoringOutcomes, item.ruleGroupId = group.id ∧
      item.ruleOutcomeId = outcome.id ∧ (item.applied ↔ AppliesTo profileSnapshot group) := by
  rcases evaluate_eq_ok evaluated with ⟨profile, normalized, ⟨-, blocked⟩ | ⟨-, scored⟩⟩
  · rw [blocked] at unblocked
    exact absurd unblocked (by simp [blockedResult])
  · rw [scored] at itemMem
    rcases List.mem_flatMap.mp itemMem with ⟨group, groupMem, ofGroup⟩
    rcases List.mem_map.mp ofGroup with ⟨outcome, outcomeMem, rfl⟩
    refine ⟨group, mem_sortBy.mp groupMem, outcome, outcomeMem, rfl, rfl, ?_⟩
    rw [appliesTo_iff evaluated normalized (mem_sortBy.mp groupMem)]
    exact decide_eq_true_iff

end Applied

section Score

variable [UnicodeData]

/-- The deltas of the groups that hold sum to no less when gains stay and losses do not come. -/
theorem sum_holdingDeltas_le {first second : Dict} {groups : List RuleGroupInput}
    (improves : ∀ group ∈ groups, ∀ outcome ∈ group.scoringOutcomes,
      (0 < outcome.scoreDelta.toRat → GroupHolds first group → GroupHolds second group) ∧
        (outcome.scoreDelta.toRat < 0 → GroupHolds second group → GroupHolds first group)) :
    (nonBlockingDeltas (holdingGroups first groups)).sum ≤
      (nonBlockingDeltas (holdingGroups second groups)).sum := by
  induction groups with
  | nil => rfl
  | cons group groups ih =>
      have rest := ih fun other otherMem => improves other (List.mem_cons_of_mem _ otherMem)
      have own := improves group List.mem_cons_self
      have split (profile : Dict) :
          (nonBlockingDeltas (holdingGroups profile (group :: groups))).sum =
            (group.scoringOutcomes.map fun outcome =>
              if GroupHolds profile group then outcome.scoreDelta.toRat else 0).sum +
            (nonBlockingDeltas (holdingGroups profile groups)).sum := by
        by_cases holds : GroupHolds profile group <;>
          simp [holdingGroups, nonBlockingDeltas, holds, RuleGroupInput.scoringOutcomes]
      rw [split, split]
      refine add_le_add (List.sum_le_sum ?_) rest
      intro outcome outcomeMem
      rcases own outcome outcomeMem with ⟨gain, loss⟩
      split_ifs with firstHolds secondHolds secondHolds
      · exact le_rfl
      · exact not_lt.mp fun positive => secondHolds (gain positive firstHolds)
      · exact not_lt.mp fun negative => firstHolds (loss negative secondHolds)
      · exact le_rfl

variable [Hashlib]

/-- The eligibility and the band of an unblocked evaluation are read off its final score. -/
theorem bands_of_evaluate {profileSnapshot : Dict} {version : ProgramVersionInput}
    {groups : List RuleGroupInput} {result : ScoreComputationResult}
    (evaluated : evaluate profileSnapshot version groups = .ok result)
    (unblocked : result.isBlocked = false) :
    (result.isEligible ↔ 60 ≤ result.scoreFinal) ∧ result.faixa = toFaixa result.scoreFinal := by
  rcases evaluate_eq_ok evaluated with ⟨profile, -, ⟨-, blocked⟩ | ⟨-, scored⟩⟩
  · rw [blocked] at unblocked
    exact absurd unblocked (by simp [blockedResult])
  · rw [scored]
    exact ⟨decide_eq_true_iff, rfl⟩

/-- A profile that gains what another one gains, and loses nothing that the other one does not
lose, has no lower score, is eligible if the other one is, and is in no lower band. -/
theorem evaluate_mono {version : ProgramVersionInput} {groups : List RuleGroupInput}
    (two : DeltasTwoDecimals groups) {first second : Dict}
    {firstResult secondResult : ScoreComputationResult}
    (firstEvaluated : evaluate first version groups = .ok firstResult)
    (secondEvaluated : evaluate second version groups = .ok secondResult)
    (firstUnblocked : firstResult.isBlocked = false)
    (secondUnblocked : secondResult.isBlocked = false)
    (improves : Improves first second groups) :
    firstResult.scoreFinal ≤ secondResult.scoreFinal ∧
      (firstResult.isEligible → secondResult.isEligible) ∧
      faixaRank firstResult.faixa ≤ faixaRank secondResult.faixa := by
  rcases evaluate_unblocked two firstEvaluated firstUnblocked with
    ⟨firstProfile, firstNormalized, firstRaw, firstFinal, -⟩
  rcases evaluate_unblocked two secondEvaluated secondUnblocked with
    ⟨secondProfile, secondNormalized, secondRaw, secondFinal, -⟩
  have raw : firstResult.rawScore ≤ secondResult.rawScore := by
    rw [firstRaw, secondRaw]
    apply sum_holdingDeltas_le
    intro group groupMem outcome outcomeMem
    rw [← appliesTo_iff firstEvaluated firstNormalized groupMem,
      ← appliesTo_iff secondEvaluated secondNormalized groupMem]
    exact improves group groupMem outcome outcomeMem
  have final : firstResult.scoreFinal ≤ secondResult.scoreFinal := by
    rw [firstFinal, secondFinal]
    exact normalizeScore_mono raw
  rcases bands_of_evaluate firstEvaluated firstUnblocked with ⟨firstEligible, firstFaixa⟩
  rcases bands_of_evaluate secondEvaluated secondUnblocked with ⟨secondEligible, secondFaixa⟩
  refine ⟨final, ?_, ?_⟩
  · rw [firstEligible, secondEligible]
    exact fun eligible => eligible.trans final
  · rw [firstFaixa, secondFaixa]
    exact faixaRank_mono final

end Score

section Sample

local instance monotonicityUnicode : UnicodeData := UnicodeData.ascii

local instance monotonicityHashlib : Hashlib := sampleHashlib

/-- `sampleGroup` without its penalty. -/
def bonusGroup : RuleGroupInput :=
  { sampleGroup with outcomes := sampleGroup.outcomes.take 1 }

theorem twoDecimals_bonusGroup : DeltasTwoDecimals [bonusGroup] := by
  have deltas : nonBlockingDeltas [bonusGroup] = [1500 / 100] := by
    decide +kernel
  intro delta deltaMem
  rw [deltas, List.mem_singleton] at deltaMem
  exact ⟨1500, by rw [deltaMem]; norm_num⟩

theorem bonus_appliesTo_younger : AppliesTo (sampleProfile (.int 30)) bonusGroup := by
  have applied : ((normalizeProfile (sampleProfile (.int 30))).toOption.bind fun profile =>
      (evaluateGroupConditions bonusGroup profile).toOption.map Prod.snd) = some true := by
    decide +kernel
  rcases Option.bind_eq_some_iff.mp applied with ⟨profile, normalized, applies⟩
  rcases Option.map_eq_some_iff.mp applies with ⟨⟨checks, flag⟩, conditions, rfl⟩
  exact ⟨profile, checks, toOption_eq_some_iff.mp normalized, toOption_eq_some_iff.mp conditions⟩

/-- Fifty years are too many for the bonus, and thirty are not. -/
theorem evaluate_mono_sample :
    ∃ older younger, evaluate (sampleProfile (.int 50)) sampleVersion [bonusGroup] = .ok older ∧
      evaluate (sampleProfile (.int 30)) sampleVersion [bonusGroup] = .ok younger ∧
      older.scoreFinal ≤ younger.scoreFinal ∧ faixaRank older.faixa ≤ faixaRank younger.faixa := by
  have unblocked (idade : Value) (scored : ((evaluate (sampleProfile idade) sampleVersion
      [bonusGroup]).toOption.map (·.isBlocked)) = some false) :
      ∃ result, evaluate (sampleProfile idade) sampleVersion [bonusGroup] = .ok result ∧
        result.isBlocked = false := by
    rcases Option.map_eq_some_iff.mp scored with ⟨result, evaluated, isBlocked⟩
    exact ⟨result, toOption_eq_some_iff.mp evaluated, isBlocked⟩
  rcases unblocked (.int 50) (by decide +kernel) with ⟨older, olderEvaluated, olderUnblocked⟩
  rcases unblocked (.int 30) (by decide +kernel) with ⟨younger, youngerEvaluated, youngerUnblocked⟩
  have improves : Improves (sampleProfile (.int 50)) (sampleProfile (.int 30)) [bonusGroup] := by
    intro group groupMem outcome outcomeMem
    rw [List.mem_singleton.mp groupMem] at outcomeMem ⊢
    have gain : ∀ outcome ∈ bonusGroup.scoringOutcomes, ¬ outcome.scoreDelta.toRat < 0 := by
      decide +kernel
    exact ⟨fun _ _ => bonus_appliesTo_younger, fun loss => absurd loss (gain outcome outcomeMem)⟩
  have rises := evaluate_mono twoDecimals_bonusGroup olderEvaluated youngerEvaluated olderUnblocked
    youngerUnblocked improves
  exact ⟨older, younger, olderEvaluated, youngerEvaluated, rises.1, rises.2.2⟩

end Sample

end ImigrAI.Assessments
