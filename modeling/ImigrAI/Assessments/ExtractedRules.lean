import ImigrAI.Assessments.PublishedRules
import ImigrAI.Ingestion.Extractors

/-!
# The age limit of a source

A source text with an age limit gives a group of rules with a bonus and a penalty. The engine
applies both when the condition holds, so that meeting the limit costs five points.
-/

namespace ImigrAI.Assessments

open Python ImmigrationRules Ingestion Fallible Binary64

theorem numeric_of_floatOfInt {number : ℤ} {converted : PyFloat}
    (done : floatOfInt number = .ok converted) :
    converted.numeric = .finite (nearest number) := by
  unfold floatOfInt at done
  split_ifs at done with bounded
  cases done
  rw [PyFloat.ofRat, dif_pos bounded]
  rfl

/-- An integer compares with a small one like the floats they are converted to. -/
theorem compareNumeric_le_int [UnicodeData] {number limit : ℤ} {matched : Bool}
    (nonneg : 0 ≤ limit) (small : limit < 100)
    (done : compareNumeric Numeric.le (.int number) (.int limit) = .ok matched) :
    matched = decide (number ≤ limit) := by
  rcases bind_eq_ok_iff.mp done with ⟨left, leftDone, done⟩
  rcases bind_eq_ok_iff.mp done with ⟨right, rightDone, done⟩
  cases done
  have exactLimit (bound : ℤ) (low : 0 ≤ bound) (high : bound ≤ 100) :
      nearest (bound : ℚ) = bound := by
    apply nearest_intCast_of_small
    rw [abs_of_nonneg low]
    omega
  rw [numeric_of_floatOfInt (builtin_eq_ok_iff.mp leftDone),
    numeric_of_floatOfInt (builtin_eq_ok_iff.mp rightDone), exactLimit limit nonneg small.le,
    Bool.eq_iff_iff]
  simp only [Numeric.le, Numeric.lt, Numeric.eq, Bool.or_eq_true, decide_eq_true_eq,
    ← le_iff_lt_or_eq]
  constructor
  · intro below
    by_contra above
    have next : nearest ((limit + 1 : ℤ) : ℚ) ≤ nearest number := by
      apply nearest_mono
      exact_mod_cast not_le.mp above
    rw [exactLimit (limit + 1) (by omega) (by omega)] at next
    have := next.trans below
    push_cast at this
    linarith
  · intro below
    rw [← exactLimit limit nonneg small.le]
    apply nearest_mono
    exact_mod_cast below

/-- No condition of the group reads the age. -/
def AgeFree (group : NormalizedRuleGroup) : Prop :=
  ∀ condition ∈ group.conditions, ∃ token rest,
    Text.split '.' condition.fieldKey = token :: rest ∧ token ≠ "idade"

theorem ageFree_incomeGroup (minimumIncome : ℤ) : AgeFree (incomeGroup minimumIncome) := by
  intro condition conditionMem
  cases List.mem_singleton.mp conditionMem
  have tokens : Text.split '.' "renda_atual" = ["renda_atual"] := by decide
  exact ⟨"renda_atual", [], tokens, by decide⟩

theorem ageFree_languageGroup (languageLevel : String) : AgeFree (languageGroup languageLevel) := by
  intro condition conditionMem
  cases List.mem_singleton.mp conditionMem
  have tokens : Text.split '.' "idiomas_nivel.en" = ["idiomas_nivel", "en"] := by decide
  exact ⟨"idiomas_nivel", ["en"], tokens, by decide⟩

theorem ageFree_baselineGroup (source : SourceRegistry) : AgeFree (baselineGroup source) := by
  intro condition conditionMem
  cases List.mem_singleton.mp conditionMem
  have tokens : Text.split '.' "escolaridade_rank" = ["escolaridade_rank"] := by decide
  exact ⟨"escolaridade_rank", [], tokens, by decide⟩

theorem resolveField_congr {profile other : Dict} {path token : String} {rest : List String}
    (tokens : Text.split '.' path = token :: rest)
    (same : Value.lookup token profile = Value.lookup token other) :
    resolveField profile path = resolveField other path := by
  rw [resolveField, resolveField, tokens, resolveTokens, resolveTokens, same]

section Limit

variable [UnicodeData]

/-- A group that does not read the age adds the same for profiles that differ in it only. -/
theorem payloadGain_congr {profile other : Dict} {group : NormalizedRuleGroup}
    (ageFree : AgeFree group)
    (same : ∀ key, key ≠ "idade" → Value.lookup key profile = Value.lookup key other) :
    payloadGain profile group = payloadGain other group := by
  have holds : ∀ condition ∈ group.conditions,
      (PayloadConditionHolds profile condition ↔ PayloadConditionHolds other condition) := by
    intro condition conditionMem
    rcases ageFree condition conditionMem with ⟨token, rest, tokens, notAge⟩
    rw [PayloadConditionHolds, PayloadConditionHolds, resolveField_congr tokens (same token notAge)]
  have groupHolds : PayloadGroupHolds profile group ↔ PayloadGroupHolds other group := by
    rw [PayloadGroupHolds, PayloadGroupHolds]
    refine or_congr Iff.rfl ?_
    split_ifs
    · exact exists_congr fun condition => and_congr_right (holds condition)
    · exact forall₂_congr holds
  simp only [payloadGain, groupHolds]

omit [UnicodeData] in
theorem payloadDeltas_ageGroup (ageValue : ℤ) : payloadDeltas (ageGroup ageValue) = [15, -20] := by
  have bonus : quantize 15 = 15 := quantize_of_twoDecimals ⟨1500, by norm_num⟩
  have penalty : quantize (-20) = -20 := quantize_of_twoDecimals ⟨-2000, by norm_num⟩
  simp [payloadDeltas, ageGroup, Decimal.toRat, bonus, penalty]

/-- Both outcomes count when the condition holds, and neither does otherwise. -/
theorem payloadGain_ageGroup {profile : Dict} {age ageValue : ℤ} {matched : Bool}
    (nonneg : 0 ≤ ageValue) (small : ageValue < 100)
    (stored : Value.lookup "idade" profile = some (.int age))
    (evaluated : evaluateCondition RuleOperator.lte.value (resolveField profile "idade")
      (intJson ageValue).value = .ok matched) :
    payloadGain profile (ageGroup ageValue) = if age ≤ ageValue then -5 else 0 := by
  have resolved : resolveField profile "idade" = .int age := by
    have tokens : Text.split '.' "idade" = ["idade"] := by decide
    rw [resolveField, tokens, resolveTokens, stored]
    rfl
  rw [resolved] at evaluated
  have compared : matched = decide (age ≤ ageValue) :=
    compareNumeric_le_int nonneg small evaluated
  have holds : PayloadGroupHolds profile (ageGroup ageValue) ↔ age ≤ ageValue := by
    simp [PayloadGroupHolds, ageGroup, PayloadConditionHolds, resolved, evaluated, compared]
  rw [payloadGain, payloadDeltas_ageGroup]
  simp only [holds]
  norm_num

/-- The groups beside the one of the age limit. -/
def otherGroups (source : SourceRegistry) (income : Option ℤ) (level : Option String) :
    List NormalizedRuleGroup :=
  income.toList.map incomeGroup ++ level.toList.map languageGroup ++ [baselineGroup source]

/-- The groups of a text with an age limit. -/
theorem buildRuleGroups_eq_ok {source : SourceRegistry} {text : String}
    {groups : List NormalizedRuleGroup} {signals : ℕ} {ageValue : ℤ}
    (extracted : buildRuleGroups source text = .ok (groups, signals))
    (detected : detectAge (UnicodeData.lower text) = .ok (some ageValue)) :
    ∃ income level, groups = ageGroup ageValue :: otherGroups source income level := by
  rcases bind_eq_ok_iff.mp extracted with ⟨age, ageDetected, extracted⟩
  cases detected.symm.trans ageDetected
  rcases bind_eq_ok_iff.mp extracted with ⟨income, -, extracted⟩
  cases extracted
  exact ⟨income, extractLanguageLevel (UnicodeData.lower text), by simp [otherGroups]⟩

omit [UnicodeData] in
theorem mem_otherGroups {source : SourceRegistry} {income : Option ℤ} {level : Option String}
    {group : NormalizedRuleGroup}
    (groupMem : group ∈ otherGroups source income level) :
    AgeFree group ∧ ∀ outcome ∈ group.outcomes, outcome.isBlocking = false := by
  rcases List.mem_append.mp groupMem with groupMem | groupMem
  · rcases List.mem_append.mp groupMem with groupMem | groupMem
    · rcases List.mem_map.mp groupMem with ⟨number, -, rfl⟩
      exact ⟨ageFree_incomeGroup number, by simp [incomeGroup]⟩
    · rcases List.mem_map.mp groupMem with ⟨code, -, rfl⟩
      exact ⟨ageFree_languageGroup code, by simp [languageGroup]⟩
  · cases List.mem_singleton.mp groupMem
    exact ⟨ageFree_baselineGroup source, by simp [baselineGroup]⟩

omit [UnicodeData] in
/-- The bounds of the score are at most 75 apart. -/
theorem possibleWidth_le {source : SourceRegistry} {income : Option ℤ} {level : Option String}
    {ageValue : ℤ} {inputs : List RuleGroupInput}
    (deltas : nonBlockingDeltas inputs =
      (ageGroup ageValue :: otherGroups source income level).flatMap payloadDeltas) :
    maxPossible inputs - minPossible inputs ≤ 75 := by
  have ofIncome (number : ℤ) : payloadDeltas (incomeGroup number) = [20] := by
    have bonus : quantize 20 = 20 := quantize_of_twoDecimals ⟨2000, by norm_num⟩
    simp [payloadDeltas, incomeGroup, Decimal.toRat, bonus]
  have ofLanguage (code : String) : payloadDeltas (languageGroup code) = [15] := by
    have bonus : quantize 15 = 15 := quantize_of_twoDecimals ⟨1500, by norm_num⟩
    simp [payloadDeltas, languageGroup, Decimal.toRat, bonus]
  have ofBaseline : payloadDeltas (baselineGroup source) = [5] := by
    have bonus : quantize 5 = 5 := quantize_of_twoDecimals ⟨500, by norm_num⟩
    simp [payloadDeltas, baselineGroup, Decimal.toRat, bonus]
  rw [maxPossible, minPossible, deltas, otherGroups]
  cases income <;> cases level <;>
    simp only [List.flatMap_cons, List.flatMap_nil, Option.toList, List.map_cons, List.map_nil,
      payloadDeltas_ageGroup, ofIncome, ofLanguage, ofBaseline, List.cons_append,
      List.nil_append, List.sum_cons, List.sum_nil] <;>
    norm_num

variable [Hashlib]

/-- Of two profiles that differ in the age only, one within the limit of the text and one
beyond it, the first scores at least as high exactly if the second is less than a year beyond
the limit. -/
theorem score_le_iff_below_next {source : SourceRegistry} {text : String}
    {groups : List NormalizedRuleGroup} {signals : ℕ} {ageValue : ℤ}
    (extracted : buildRuleGroups source text = .ok (groups, signals))
    (detected : detectAge (UnicodeData.lower text) = .ok (some ageValue))
    {db published : Database} {ids : PublicationIds} {times : PublicationTimes}
    {programId versionId : UUID} {payload : NormalizedProgramPayload} {semanticHash : String}
    (carried : payload.ruleGroups = groups)
    (publishing : publishVersion db ids times programId payload semanticHash =
      .ok (published, versionId))
    {profile : Dict} {within beyond : Value} (meets : within.AtMost ageValue)
    (violates : beyond.Above ageValue) {version : ProgramVersionInput}
    {first second : ScoreComputationResult}
    (firstEvaluated : evaluate (Value.assign "idade" within profile) version
      ((listRuleGroups published.toTables versionId).map ruleGroupInput) = .ok first)
    (secondEvaluated : evaluate (Value.assign "idade" beyond profile) version
      ((listRuleGroups published.toTables versionId).map ruleGroupInput) = .ok second) :
    second.scoreFinal ≤ first.scoreFinal ↔ beyond.Below (ageValue + 1) := by
  rcases detectAge_bounds detected with ⟨nonneg, small⟩
  rcases buildRuleGroups_eq_ok extracted detected with ⟨income, level, rfl⟩
  rcases listRuleGroups_publishVersion publishing with ⟨rows, stores, perm⟩
  rw [carried] at stores
  have width := possibleWidth_le ((nonBlockingDeltas_storesGroups stores).trans (by
    rw [List.zipIdx_map_fst]))
  have noBlocking : ∀ group ∈ ageGroup ageValue :: otherGroups source income level,
      ∀ outcome ∈ group.outcomes, outcome.isBlocking = false := by
    intro group groupMem
    rcases List.mem_cons.mp groupMem with rfl | groupMem
    · simp [ageGroup]
    · exact (mem_otherGroups groupMem).2
  rcases evaluate_storesGroups stores perm noBlocking firstEvaluated with
    ⟨firstProfile, firstNormalized, firstScore, ⟨firstLower, -⟩, firstConditions⟩
  rcases evaluate_storesGroups stores perm noBlocking secondEvaluated with
    ⟨secondProfile, secondNormalized, secondScore, ⟨-, secondUpper⟩, secondConditions⟩
  rcases normalizeProfile_assign_idade firstNormalized with
    ⟨⟨firstAge, firstRead, firstStored⟩, firstRest⟩
  rcases normalizeProfile_assign_idade secondNormalized with
    ⟨⟨secondAge, secondRead, secondStored⟩, secondRest⟩
  rcases firstConditions _ List.mem_cons_self _ (List.mem_singleton_self _) with
    ⟨firstMatched, firstCondition⟩
  rcases secondConditions _ List.mem_cons_self _ (List.mem_singleton_self _) with
    ⟨secondMatched, secondCondition⟩
  have firstGain := payloadGain_ageGroup nonneg small firstStored firstCondition
  have secondGain := payloadGain_ageGroup nonneg small secondStored secondCondition
  rw [if_pos (meets.toInt_le nonneg firstRead)] at firstGain
  -- What the other groups add is the same for both profiles.
  have sameRest : (otherGroups source income level).map (payloadGain secondProfile) =
      (otherGroups source income level).map (payloadGain firstProfile) := by
    refine List.map_congr_left fun group groupMem => ?_
    apply payloadGain_congr (mem_otherGroups groupMem).1
    intro key notAge
    rw [secondRest key notAge, firstRest key notAge]
  rw [List.map_cons, List.sum_cons, firstGain] at firstScore firstLower
  rw [List.map_cons, List.sum_cons, secondGain, sameRest] at secondScore secondUpper
  rw [← violates.toInt_le_iff nonneg secondRead, firstScore, secondScore]
  split_ifs at secondUpper ⊢ with below
  · exact iff_of_true le_rfl below
  · refine iff_of_false (not_le.mpr ?_) below
    apply normalizeScore_lt firstLower _ secondUpper
    · linarith
    · linarith

end Limit

section Sample

local instance extractedUnicodeData : UnicodeData := UnicodeData.ascii

local instance extractedHashlib : Hashlib := sampleHashlib

def sampleSource : SourceRegistry := ⟨19, "ca-express-entry", "CA", "1.0.0"⟩

def sampleText : String := "Applicants up to the age of 45 may apply."

def sampleIds : PublicationIds where
  country := 11
  program := 12
  version := 13
  group position := Fin.ofNat _ (20 + position)
  condition position index := Fin.ofNat _ (100 + 10 * position + index)
  outcome position index := Fin.ofNat _ (200 + 10 * position + index)
  sourceDocument := 17
  sourceExtraction := 18

def sampleGroups : List NormalizedRuleGroup := [ageGroup 45, baselineGroup sampleSource]

/-- The publication of the rules of the text. -/
def samplePublished : Except ServiceError (Database × UUID) :=
  publishVersion sampleCatalogue sampleIds ⟨20, 20, 20⟩ 2
    { samplePayload with ruleGroups := sampleGroups } "0123456789abcdef"

/-- The evaluation of a profile of an age with the rules of a version. -/
def sampleEvaluation (published : Database) (versionId : UUID) (idade : Value) :
    Except EngineError ScoreComputationResult :=
  evaluate (Value.assign "idade" idade (sampleProfile (.int 0))) sampleVersion
    ((listRuleGroups published.toTables versionId).map ruleGroupInput)

theorem samplePublished_scores :
    ∃ published versionId first second, samplePublished = .ok (published, versionId) ∧
      sampleEvaluation published versionId (.int 30) = .ok first ∧ first.scoreFinal = 50 ∧
      sampleEvaluation published versionId (.int 50) = .ok second ∧ second.scoreFinal = 125 / 2 := by
  have scores : (samplePublished.toOption.bind fun publication => do
      let first ← (sampleEvaluation publication.1 publication.2 (.int 30)).toOption
      let second ← (sampleEvaluation publication.1 publication.2 (.int 50)).toOption
      some (first.scoreFinal, second.scoreFinal)) = some (50, 125 / 2) := by
    decide +kernel
  rcases Option.bind_eq_some_iff.mp scores with ⟨⟨published, versionId⟩, publishing, scores⟩
  rcases Option.bind_eq_some_iff.mp scores with ⟨first, firstEvaluated, scores⟩
  rcases Option.bind_eq_some_iff.mp scores with ⟨second, secondEvaluated, scores⟩
  simp only [Option.some.injEq, Prod.mk.injEq] at scores
  exact ⟨published, versionId, first, second, toOption_eq_some_iff.mp publishing,
    toOption_eq_some_iff.mp firstEvaluated, scores.1, toOption_eq_some_iff.mp secondEvaluated,
    scores.2⟩

theorem sampleText_limit :
    buildRuleGroups sampleSource sampleText = .ok (sampleGroups, 1) ∧
      detectAge (UnicodeData.lower sampleText) = .ok (some 45) ∧
      (Value.int 30).AtMost 45 ∧ (Value.int 50).Above 45 :=
  ⟨rfl, rfl, ⟨_, rfl, by decide +kernel⟩, ⟨_, rfl, by decide +kernel⟩⟩

theorem score_le_iff_below_next_sample :
    ∃ published versionId first second, samplePublished = .ok (published, versionId) ∧
      sampleEvaluation published versionId (.int 30) = .ok first ∧
      sampleEvaluation published versionId (.int 50) = .ok second ∧
      (second.scoreFinal ≤ first.scoreFinal ↔ (Value.int 50).Below (45 + 1)) := by
  rcases samplePublished_scores with
    ⟨published, versionId, first, second, publishing, firstEvaluated, -, secondEvaluated, -⟩
  rcases sampleText_limit with ⟨extracted, detected, meets, violates⟩
  exact ⟨published, versionId, first, second, publishing, firstEvaluated, secondEvaluated,
    score_le_iff_below_next extracted detected rfl publishing meets violates firstEvaluated
      secondEvaluated⟩

/-- Thirty years meet the limit of the text and fifty do not, and fifty score higher. -/
theorem meeting_limit_scores_lower :
    (buildRuleGroups sampleSource sampleText = .ok (sampleGroups, 1) ∧
      detectAge (UnicodeData.lower sampleText) = .ok (some 45) ∧
      (Value.int 30).AtMost 45 ∧ (Value.int 50).Above 45) ∧
    ∃ published versionId first second, samplePublished = .ok (published, versionId) ∧
      sampleEvaluation published versionId (.int 30) = .ok first ∧
      sampleEvaluation published versionId (.int 50) = .ok second ∧
      first.scoreFinal < second.scoreFinal := by
  rcases samplePublished_scores with ⟨published, versionId, first, second, publishing,
    firstEvaluated, firstScore, secondEvaluated, secondScore⟩
  refine ⟨sampleText_limit, published, versionId, first, second, publishing, firstEvaluated,
    secondEvaluated, ?_⟩
  rw [firstScore, secondScore]
  norm_num

end Sample

end ImigrAI.Assessments
