import ImigrAI.Assessments.Score

/-!
# The rules hash determines the evaluation

Two rule sets with the same canonical payload evaluate every profile alike. The payload shows
every field that the evaluation reads, up to the order of the keys inside a `value_json` and
the form of a decimal, and the evaluation sees neither.
-/

namespace ImigrAI.Assessments

open Python Sorting Fallible

theorem lookup_of_sortKeys_eq {entries others : List (String × Value)}
    (distinct : (entries.map Prod.fst).Nodup) (otherDistinct : (others.map Prod.fst).Nodup)
    (same : (Value.dict entries).sortKeys = (Value.dict others).sortKeys) (key : String) :
    (Value.lookup key entries).map Value.sortKeys = (Value.lookup key others).map Value.sortKeys := by
  rw [← Value.lookup_sortKeys distinct, ← Value.lookup_sortKeys otherDistinct]
  simp only [Value.sortKeys, Value.dict.injEq] at same
  rw [same]

theorem sortItems_eq_map (items : List Value) : Value.sortItems items = items.map Value.sortKeys := by
  induction items with
  | nil => rfl
  | cons item items ih => rw [Value.sortItems, ih, List.map_cons]

/-- Payload lists that are equal up to key order come from lists that correspond. -/
theorem forall₂_of_sortKeys_eq {Element : Type} (payload : Element → Value)
    {elements others : List Element}
    (same : (Value.list (elements.map payload)).sortKeys =
      (Value.list (others.map payload)).sortKeys) :
    List.Forall₂ (fun element other => (payload element).sortKeys = (payload other).sortKeys)
      elements others := by
  simp only [Value.sortKeys, Value.list.injEq, sortItems_eq_map, List.map_map] at same
  have pairs : List.Forall₂ (fun left right => left = right)
      (elements.map (Value.sortKeys ∘ payload)) (others.map (Value.sortKeys ∘ payload)) := by
    rw [same, List.forall₂_eq_eq_eq]
  simpa [List.forall₂_map_left_iff, List.forall₂_map_right_iff] using pairs

/-- Conditions that serialise alike. -/
structure SameCondition (left right : RuleConditionInput) : Prop where
  fieldKey : left.fieldKey = right.fieldKey
  operator : left.operator = right.operator
  valueJson : left.valueJson.value.sortKeys = right.valueJson.value.sortKeys

/-- Outcomes that serialise alike. -/
structure SameOutcome (left right : RuleOutcomeInput) : Prop where
  id : left.id = right.id
  scoreDelta : left.scoreDelta.toRat = right.scoreDelta.toRat
  isBlocking : left.isBlocking = right.isBlocking
  explanationMessage : left.explanationMessage = right.explanationMessage

/-- Groups that serialise alike. -/
structure SameGroup (left right : RuleGroupInput) : Prop where
  matchOperator : left.matchOperator = right.matchOperator
  conditions : List.Forall₂ SameCondition (sortBy conditionKey left.conditions)
    (sortBy conditionKey right.conditions)
  outcomes : List.Forall₂ SameOutcome (sortBy outcomeKey left.outcomes)
    (sortBy outcomeKey right.outcomes)

theorem sameCondition_of_payload_eq {left right : RuleConditionInput}
    (same : (conditionPayload left).sortKeys = (conditionPayload right).sortKeys) :
    SameCondition left right := by
  have field := lookup_of_sortKeys_eq (by simp) (by simp) same
  constructor
  · simpa [Value.lookup, Value.sortKeys] using field "field_key"
  · simpa [Value.lookup, Value.sortKeys] using field "operator"
  · simpa [Value.lookup] using field "value_json"

theorem sameOutcome_of_payload_eq {left right : RuleOutcomeInput}
    (same : (outcomePayload left).sortKeys = (outcomePayload right).sortKeys) :
    SameOutcome left right := by
  have field := lookup_of_sortKeys_eq (by simp) (by simp) same
  constructor
  · have ids : left.id.str = right.id.str := by
      simpa [Value.lookup, Value.sortKeys] using field "id"
    exact UUID.str_injective ids
  · apply Decimal.toRat_eq_of_str_eq
    simpa [Value.lookup, Value.sortKeys] using field "score_delta"
  · simpa [Value.lookup, Value.sortKeys] using field "is_blocking"
  · simpa [Value.lookup, Value.sortKeys] using field "explanation_message"

theorem sameGroup_of_payload_eq {left right : RuleGroupInput}
    (same : (groupPayload left).sortKeys = (groupPayload right).sortKeys) :
    SameGroup left right := by
  have field := lookup_of_sortKeys_eq (by simp) (by simp) same
  constructor
  · simpa [Value.lookup, Value.sortKeys] using field "match_operator"
  · have conditions := forall₂_of_sortKeys_eq conditionPayload
      (by simpa [Value.lookup] using field "conditions")
    exact conditions.imp fun _ _ => sameCondition_of_payload_eq
  · have outcomes := forall₂_of_sortKeys_eq outcomePayload
      (by simpa [Value.lookup] using field "outcomes")
    exact outcomes.imp fun _ _ => sameOutcome_of_payload_eq

/-- Rule sets with the same canonical payload have groups that serialise alike. -/
theorem sameGroups_of_canonicalPayload_eq {version otherVersion : ProgramVersionInput}
    {groups others : List RuleGroupInput}
    (same : canonicalPayload version groups = canonicalPayload otherVersion others) :
    List.Forall₂ SameGroup groups others := by
  have field := lookup_of_sortKeys_eq (by simp) (by simp) (Value.sortKeys_eq_of_dumps_eq same)
  have payloads := forall₂_of_sortKeys_eq groupPayload
    (by simpa [Value.lookup] using field "rule_groups")
  exact payloads.imp fun _ _ => sameGroup_of_payload_eq

section Conditions

variable [UnicodeData]

/-- A condition does not see the order of the keys of its value. -/
theorem evaluateCondition_sortKeys (operator : String) (actual : Value) {expected : Value}
    (wellFormed : expected.WellFormed) :
    evaluateCondition operator actual expected.sortKeys =
      evaluateCondition operator actual expected := by
  have presence : expectedPresence expected.sortKeys = expectedPresence expected := by
    cases expected <;> rfl
  have compare (comparison : Numeric → Numeric → Bool) :
      compareNumeric comparison actual expected.sortKeys =
        compareNumeric comparison actual expected := by
    cases actual <;> simp only [compareNumeric, Value.toFloat_sortKeys]
  have between : isBetween actual expected.sortKeys = isBetween actual expected := by
    cases expected with
    | list items =>
        rcases items with _ | ⟨first, _ | ⟨second, _ | ⟨third, rest⟩⟩⟩ <;>
          cases actual <;> simp only [isBetween, Value.sortKeys, Value.sortItems,
            Value.toFloat_sortKeys]
    | _ => cases actual <;> rfl
  have member : isIn actual expected.sortKeys = isIn actual expected := by
    cases expected with
    | list items =>
        have known (item : Value) := Value.memberOf_sortItems item items wellFormed
        cases actual <;> simp only [isIn, Value.sortKeys, known]
    | _ => rfl
  simp only [evaluateCondition, presence, compare, between, member,
    Value.pyEq_sortKeys actual expected wellFormed]

/-- Checks of conditions that serialise alike agree on the result. -/
theorem checkCondition_agree (profile : Dict) {left right : RuleConditionInput}
    (same : SameCondition left right) :
    Agree (fun first second => first.matched = second.matched) (checkCondition profile left)
      (checkCondition profile right) := by
  have evaluated : evaluateCondition left.operator (resolveField profile left.fieldKey)
      left.valueJson.value =
        evaluateCondition right.operator (resolveField profile right.fieldKey)
          right.valueJson.value := by
    rw [← evaluateCondition_sortKeys _ _ left.valueJson.wellFormed, same.valueJson,
      evaluateCondition_sortKeys _ _ right.valueJson.wellFormed, same.operator, same.fieldKey]
  simp only [checkCondition, evaluated]
  refine (Agree.refl _).bind fun first second equal => ?_
  exact equal

theorem evaluateGroupConditions_agree (profile : Dict) {left right : RuleGroupInput}
    (same : SameGroup left right) :
    Agree (fun first second => first.2 = second.2) (evaluateGroupConditions left profile)
      (evaluateGroupConditions right profile) := by
  refine (Agree.mapM (fun _ _ pair => checkCondition_agree profile pair) same.conditions).bind
    fun checks others matched => ?_
  have truthValues : checks.map (·.matched) = others.map (·.matched) := by
    induction matched with
    | nil => rfl
    | cons first _ ih => rw [List.map_cons, List.map_cons, first, ih]
  simp only [Agree, truthValues, same.matchOperator]

end Conditions

/-- What the claim on an evaluation says of one breakdown item. -/
def ScoreBreakdownItem.finding (item : ScoreBreakdownItem) : UUID × Bool × ℚ × Bool × String :=
  (item.ruleOutcomeId, item.applied, item.scoreDelta, item.isBlocking, item.explanationMessage)

/-- Two lists of items with the same findings, in any order. -/
def SameFindings (left right : List ScoreBreakdownItem) : Prop :=
  (left.map (·.finding)).Perm (right.map (·.finding))

/-- The outcomes of groups that serialise alike correspond up to their order. -/
theorem outcomes_perm {Result : Type} {left right : RuleGroupInput} (same : SameGroup left right)
    (blocking : Bool) {f g : RuleOutcomeInput → Result}
    (alike : ∀ first second, SameOutcome first second → f first = g second) :
    ((left.outcomes.filter fun outcome => outcome.isBlocking == blocking).map f).Perm
      ((right.outcomes.filter fun outcome => outcome.isBlocking == blocking).map g) := by
  have sorted (outcomes others : List RuleOutcomeInput)
      (pairs : List.Forall₂ SameOutcome outcomes others) :
      (outcomes.filter fun outcome => outcome.isBlocking == blocking).map f =
        (others.filter fun outcome => outcome.isBlocking == blocking).map g := by
    induction pairs with
    | nil => rfl
    | @cons first second _ _ pair _ ih =>
        simp only [List.filter_cons, pair.isBlocking]
        split_ifs
        · rw [List.map_cons, List.map_cons, alike first second pair, ih]
        · exact ih
  have leftPerm := ((sortBy_perm outcomeKey left.outcomes).filter
    fun outcome => outcome.isBlocking == blocking).map f
  have rightPerm := ((sortBy_perm outcomeKey right.outcomes).filter
    fun outcome => outcome.isBlocking == blocking).map g
  rw [sorted _ _ same.outcomes] at leftPerm
  exact leftPerm.symm.trans rightPerm

section Passes

variable [UnicodeData]

theorem blockingItemsOfGroup_agree (profile : Dict) {left right : RuleGroupInput}
    (same : SameGroup left right) :
    Agree SameFindings (blockingItemsOfGroup profile left) (blockingItemsOfGroup profile right) := by
  refine (evaluateGroupConditions_agree profile same).bind fun first second applies => ?_
  rcases first with ⟨checks, applied⟩
  rcases second with ⟨others, otherApplied⟩
  obtain rfl : applied = otherApplied := applies
  cases applied with
  | false => exact List.Perm.refl _
  | true =>
      have perm := outcomes_perm same true
        (f := fun outcome => (blockingItem left checks outcome).finding)
        (g := fun outcome => (blockingItem right others outcome).finding) (by
          intro outcome other pair
          simp [ScoreBreakdownItem.finding, blockingItem, pair.id, pair.scoreDelta,
            pair.explanationMessage])
      simpa [Agree, SameFindings, List.map_map, Function.comp_def] using perm

theorem scoringItemsOfGroup_agree (profile : Dict) {left right : RuleGroupInput}
    (same : SameGroup left right) :
    Agree SameFindings (scoringItemsOfGroup profile left) (scoringItemsOfGroup profile right) := by
  refine (evaluateGroupConditions_agree profile same).bind fun first second applies => ?_
  rcases first with ⟨checks, applied⟩
  rcases second with ⟨others, otherApplied⟩
  obtain rfl : applied = otherApplied := applies
  have perm := outcomes_perm same false
    (f := fun outcome => (scoringItem left checks applied outcome).finding)
    (g := fun outcome => (scoringItem right others applied outcome).finding) (by
      intro outcome other pair
      simp [ScoreBreakdownItem.finding, scoringItem, pair.id, pair.scoreDelta,
        pair.explanationMessage])
  simpa [Agree, SameFindings, List.map_map, Function.comp_def] using perm

omit [UnicodeData] in
theorem sameFindings_flatten {lefts rights : List (List ScoreBreakdownItem)}
    (pairs : List.Forall₂ SameFindings lefts rights) : SameFindings lefts.flatten rights.flatten := by
  induction pairs with
  | nil => exact List.Perm.refl _
  | cons first _ ih =>
      simp only [SameFindings, List.flatten_cons, List.map_append] at ih ⊢
      exact first.append ih

theorem evaluateBlockingPass_agree (profile : Dict) {groups others : List RuleGroupInput}
    (same : List.Forall₂ SameGroup groups others) :
    Agree SameFindings (evaluateBlockingPass groups profile)
      (evaluateBlockingPass others profile) :=
  (Agree.mapM (fun _ _ pair => blockingItemsOfGroup_agree profile pair) same).bind
    fun _ _ pairs => sameFindings_flatten pairs

theorem evaluateScoringPass_agree (profile : Dict) {groups others : List RuleGroupInput}
    (same : List.Forall₂ SameGroup groups others) :
    Agree SameFindings (evaluateScoringPass groups profile)
      (evaluateScoringPass others profile) :=
  (Agree.mapM (fun _ _ pair => scoringItemsOfGroup_agree profile pair) same).bind
    fun _ _ pairs => sameFindings_flatten pairs

end Passes

theorem nonBlockingDeltas_perm_of_same {groups others : List RuleGroupInput}
    (same : List.Forall₂ SameGroup groups others) :
    (nonBlockingDeltas groups).Perm (nonBlockingDeltas others) := by
  induction same with
  | nil => exact List.Perm.refl _
  | cons first _ ih =>
      simp only [nonBlockingDeltas, List.flatMap_cons] at ih ⊢
      refine List.Perm.append ?_ ih
      simpa using outcomes_perm first false fun _ _ pair => pair.scoreDelta

/-- Results with the same score, eligibility and findings. -/
structure SameResult (left right : ScoreComputationResult) : Prop where
  rawScore : left.rawScore = right.rawScore
  scoreFinal : left.scoreFinal = right.scoreFinal
  faixa : left.faixa = right.faixa
  isBlocked : left.isBlocked = right.isBlocked
  isEligible : left.isEligible = right.isEligible
  breakdown : SameFindings left.breakdown right.breakdown

theorem sameResult_blocked (hash otherHash : String) {items otherItems : List ScoreBreakdownItem}
    (findings : SameFindings items otherItems) :
    SameResult (blockedResult hash items) (blockedResult otherHash otherItems) :=
  ⟨rfl, rfl, rfl, rfl, rfl, findings⟩

theorem sameResult_scored {groups others : List RuleGroupInput} (hash otherHash : String)
    (same : List.Forall₂ SameGroup groups others) {items otherItems : List ScoreBreakdownItem}
    (findings : SameFindings items otherItems) :
    SameResult (scoredResult hash groups items) (scoredResult otherHash others otherItems) := by
  have sum : (items.map (·.scoreDelta)).sum = (otherItems.map (·.scoreDelta)).sum := by
    have deltas := (findings.map fun finding => finding.2.2.1).sum_eq
    simpa [List.map_map, Function.comp_def, ScoreBreakdownItem.finding] using deltas
  have deltas := nonBlockingDeltas_perm_of_same same
  have lower : minPossible groups = minPossible others := (deltas.map _).sum_eq
  have upper : maxPossible groups = maxPossible others := (deltas.map _).sum_eq
  constructor <;> simp only [scoredResult, normalizeScore, sum, lower, upper]
  exact findings

section Evaluation

variable [UnicodeData] [Hashlib]

/-- Rule sets with the same canonical payload evaluate every profile alike: both raise the
same error, or both return, with the same score, eligibility and findings. -/
theorem evaluate_eq_of_canonicalPayload_eq {version otherVersion : ProgramVersionInput}
    {groups others : List RuleGroupInput}
    (same : canonicalPayload version (sortedGroups groups) =
      canonicalPayload otherVersion (sortedGroups others)) (profileSnapshot : Dict) :
    Agree SameResult (evaluate profileSnapshot version groups)
      (evaluate profileSnapshot otherVersion others) := by
  have sameGroups := sameGroups_of_canonicalPayload_eq same
  refine (Agree.refl _).bind fun profile other equal => ?_
  obtain rfl : profile = other := equal
  refine (evaluateBlockingPass_agree profile sameGroups).bind fun items otherItems findings => ?_
  have empty : items = [] ↔ otherItems = [] := by
    rw [← List.length_eq_zero_iff, ← List.length_eq_zero_iff]
    simpa using (congrArg (· = 0) findings.length_eq).to_iff
  by_cases blocked : items = []
  · simp only [blocked, empty.mp blocked, ne_eq, not_true_eq_false, if_false]
    exact (evaluateScoringPass_agree profile sameGroups).bind
      fun _ _ scored => sameResult_scored _ _ sameGroups scored
  · rw [if_pos blocked, if_pos (blocked ∘ empty.mpr)]
    exact sameResult_blocked _ _ findings

end Evaluation

section Sample

local instance : UnicodeData := UnicodeData.ascii

local instance : Hashlib := sampleHashlib

/-- `sampleGroup` with a condition on the profession and given outcomes. -/
def professionGroup (expected : Json) (outcomes : List RuleOutcomeInput) : RuleGroupInput :=
  { sampleGroup with
    conditions := [⟨3, "profissao", "eq", expected, 1, true⟩]
    outcomes := outcomes }

/-- A profession with its keys in alphabetical order, and with them in the other order. -/
def codeFirst : Json :=
  ⟨.dict [("codigo", .str "21231"), ("nome", .str "Engineer")],
    by simp [Value.WellFormed, Value.EntriesWellFormed]⟩

def nameFirst : Json :=
  ⟨.dict [("nome", .str "Engineer"), ("codigo", .str "21231")],
    by simp [Value.WellFormed, Value.EntriesWellFormed]⟩

/-- The order of the keys of a value and of the outcomes does not show. -/
theorem evaluate_reordered :
    Agree SameResult
      (evaluate (sampleProfile (.int 30)) sampleVersion
        [professionGroup codeFirst sampleGroup.outcomes])
      (evaluate (sampleProfile (.int 30)) sampleVersion
        [professionGroup nameFirst sampleGroup.outcomes.reverse]) := by
  have values : codeFirst.value.sortKeys = nameFirst.value.sortKeys := by
    have order : ("codigo" : String) ≤ "nome" ∧ ¬ ("nome" : String) ≤ "codigo" := by decide
    simp [codeFirst, nameFirst, Value.sortKeys, Value.sortEntries, order]
  have outcomes : sortBy outcomeKey sampleGroup.outcomes =
      sortBy outcomeKey sampleGroup.outcomes.reverse := by
    decide +kernel
  apply evaluate_eq_of_canonicalPayload_eq
  change (Value.dict [("program_version", versionPayload sampleVersion), ("rule_groups",
      .list [groupPayload (professionGroup codeFirst sampleGroup.outcomes)])]).dumps =
    (Value.dict [("program_version", versionPayload sampleVersion), ("rule_groups",
      .list [groupPayload (professionGroup nameFirst sampleGroup.outcomes.reverse)])]).dumps
  simp only [Value.dumps, Value.sortKeys, Value.sortEntries, Value.sortItems, groupPayload,
    professionGroup, conditionPayload, sortBy, List.insertionSort_cons, List.insertionSort_nil,
    List.orderedInsert_nil, List.map_cons, List.map_nil, values]
  simp only [sortBy] at outcomes
  rw [outcomes]

end Sample

end ImigrAI.Assessments
