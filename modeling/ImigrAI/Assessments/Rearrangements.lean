import ImigrAI.Assessments.InactiveGroups

/-!
# Rule sets in another order

The groups of a rule set are sorted before they are evaluated, and so are the conditions of a
group, but its outcomes are taken as they come. The hash, the score and the bounds do not show
their order; the breakdown does, as soon as two outcomes of one group stand in it.
-/

namespace ImigrAI.Assessments

open Python Sorting Fallible

/-- The same group with its conditions and its outcomes in another order. -/
structure RearrangedGroup (group other : RuleGroupInput) : Prop where
  rest : other = { group with conditions := other.conditions, outcomes := other.outcomes }
  conditions : group.conditions.Perm other.conditions
  outcomes : group.outcomes.Perm other.outcomes

/-- The same groups in another order, each with its conditions and outcomes in another order. -/
def Rearranged (groups others : List RuleGroupInput) : Prop :=
  ∃ middle, groups.Perm middle ∧ List.Forall₂ RearrangedGroup middle others

/-- Groups have distinct ids, and so have the conditions and the outcomes of each group. -/
structure DistinctIds (groups : List RuleGroupInput) : Prop where
  groupIds : (groups.map (·.id)).Nodup
  conditionIds : ∀ group ∈ groups, (group.conditions.map (·.id)).Nodup
  outcomeIds : ∀ group ∈ groups, (group.outcomes.map (·.id)).Nodup

section Keys

variable {groups : List RuleGroupInput} {group other : RuleGroupInput}

theorem sortedGroups_eq_of_perm {others : List RuleGroupInput} (distinct : DistinctIds groups)
    (perm : groups.Perm others) : sortedGroups groups = sortedGroups others := by
  apply sortBy_eq_of_perm perm
  intro first firstMem second secondMem sameKey
  have ids : first.id.str = second.id.str := by
    simp only [groupKey, EmbeddingLike.apply_eq_iff_eq, Prod.mk.injEq] at sameKey
    exact sameKey.2.2
  exact List.inj_on_of_nodup_map distinct.groupIds firstMem secondMem (UUID.str_injective ids)

theorem sortedConditions_eq (ids : (group.conditions.map (·.id)).Nodup)
    (rearranged : RearrangedGroup group other) :
    sortBy conditionKey group.conditions = sortBy conditionKey other.conditions := by
  apply sortBy_eq_of_perm rearranged.conditions
  intro first firstMem second secondMem sameKey
  have sameId : first.id.str = second.id.str := by
    simp only [conditionKey, EmbeddingLike.apply_eq_iff_eq, Prod.mk.injEq] at sameKey
    exact sameKey.2.2
  exact List.inj_on_of_nodup_map ids firstMem secondMem (UUID.str_injective sameId)

theorem sortedOutcomes_eq (ids : (group.outcomes.map (·.id)).Nodup)
    (rearranged : RearrangedGroup group other) :
    sortBy outcomeKey group.outcomes = sortBy outcomeKey other.outcomes := by
  apply sortBy_eq_of_perm rearranged.outcomes
  intro first firstMem second secondMem sameKey
  have sameId : first.id.str = second.id.str := by
    simp only [outcomeKey, EmbeddingLike.apply_eq_iff_eq, Prod.mk.injEq] at sameKey
    exact sameKey.2
  exact List.inj_on_of_nodup_map ids firstMem secondMem (UUID.str_injective sameId)

theorem groupKey_eq (rearranged : RearrangedGroup group other) :
    groupKey group = groupKey other := by
  rw [rearranged.rest]
  rfl

theorem forall₂_sortedGroups {others : List RuleGroupInput} (distinct : DistinctIds groups)
    (rearranged : Rearranged groups others) :
    List.Forall₂ (fun group other => group ∈ groups ∧ RearrangedGroup group other)
      (sortedGroups groups) (sortedGroups others) := by
  rcases rearranged with ⟨middle, perm, pairs⟩
  rw [sortedGroups_eq_of_perm distinct perm]
  apply forall₂_sortBy
  · rintro first second ⟨-, rearranged⟩
    exact groupKey_eq rearranged
  · rw [List.forall₂_and_left]
    exact ⟨fun group groupMem => perm.mem_iff.mpr groupMem, pairs⟩

end Keys

section Groups

variable [UnicodeData] {profile : Dict} {group other : RuleGroupInput}
  (conditionIds : (group.conditions.map (·.id)).Nodup) (rearranged : RearrangedGroup group other)

include conditionIds rearranged

theorem evaluateGroupConditions_rearranged :
    evaluateGroupConditions group profile = evaluateGroupConditions other profile := by
  rw [evaluateGroupConditions, evaluateGroupConditions, sortedConditions_eq conditionIds rearranged,
    rearranged.rest]

theorem groupChecks_rearranged : groupChecks profile group = groupChecks profile other := by
  rw [groupChecks, groupChecks, evaluateGroupConditions_rearranged conditionIds rearranged]

omit [UnicodeData] in
theorem groupPayload_rearranged (outcomeIds : (group.outcomes.map (·.id)).Nodup) :
    groupPayload group = groupPayload other := by
  rw [groupPayload, groupPayload, sortedConditions_eq conditionIds rearranged,
    sortedOutcomes_eq outcomeIds rearranged, rearranged.rest]

omit conditionIds in
theorem groupHolds_rearranged : GroupHolds profile group ↔ GroupHolds profile other := by
  have empty : group.conditions = [] ↔ other.conditions = [] := by
    rw [← List.length_eq_zero_iff, rearranged.conditions.length_eq, List.length_eq_zero_iff]
  have sameOperator : other.matchOperator = group.matchOperator := by
    rw [rearranged.rest]
  simp only [GroupHolds, empty, rearranged.conditions.mem_iff, sameOperator]

end Groups

def RuleGroupInput.blockingOutcomes (group : RuleGroupInput) : List RuleOutcomeInput :=
  group.outcomes.filter (·.isBlocking)

section Results

variable [UnicodeData]

/-- No two outcomes of one group stand in the breakdown: an evaluation that comes to a result
shows the blocking outcomes of the groups that hold, or if there are none the others of all. -/
def OneOutcomeShown (profileSnapshot : Dict) (groups : List RuleGroupInput) : Prop :=
  ∀ profile, normalizeProfile profileSnapshot = .ok profile →
    (∀ group ∈ groups, errorOf (evaluateGroupConditions group profile) = none) →
    (∀ group ∈ groups, GroupHolds profile group → group.blockingOutcomes.length ≤ 1) ∧
      ((∀ group ∈ groups, GroupHolds profile group → group.blockingOutcomes = []) →
        ∀ group ∈ groups, group.scoringOutcomes.length ≤ 1)

variable {profile : Dict} {groups others : List RuleGroupInput}

omit [UnicodeData] in
theorem map_eq_of_forall₂ {Result : Type*} {related : RuleGroupInput → RuleGroupInput → Prop}
    {f : RuleGroupInput → Result} (pairs : List.Forall₂ related groups others)
    (same : ∀ group other, related group other → f group = f other) :
    groups.map f = others.map f := by
  induction pairs with
  | nil => rfl
  | cons head _ ih => rw [List.map_cons, List.map_cons, same _ _ head, ih]

theorem failure_eq_findSome? :
    failure profile groups =
      (groups.map fun group => errorOf (evaluateGroupConditions group profile)).findSome? id := by
  rw [failure, List.findSome?_map]
  rfl

theorem failure_eq_none_iff :
    failure profile (sortedGroups groups) = none ↔
      ∀ group ∈ groups, errorOf (evaluateGroupConditions group profile) = none := by
  simp only [failure, List.findSome?_eq_none_iff, sortedGroups, mem_sortBy]

theorem flatMap_groupBlockingItems_eq_nil_iff :
    (sortedGroups groups).flatMap (groupBlockingItems profile) = [] ↔
      ∀ group ∈ groups, GroupHolds profile group → group.blockingOutcomes = [] := by
  simp only [List.flatMap_eq_nil_iff, sortedGroups, mem_sortBy]
  apply forall₂_congr
  intro group _
  rw [groupBlockingItems]
  split_ifs with holds
  · simp [holds, RuleGroupInput.blockingOutcomes]
  · simp [holds]

section Rearranged

variable (distinct : DistinctIds groups) (rearranged : Rearranged groups others)

include distinct rearranged

theorem failure_rearranged :
    failure profile (sortedGroups groups) = failure profile (sortedGroups others) := by
  rw [failure_eq_findSome?, failure_eq_findSome?]
  congr 1
  apply map_eq_of_forall₂ (forall₂_sortedGroups distinct rearranged)
  rintro group other ⟨groupMem, pair⟩
  rw [evaluateGroupConditions_rearranged (distinct.conditionIds group groupMem) pair]

omit [UnicodeData] in
theorem computeRulesVersionHash_rearranged [Hashlib] (version : ProgramVersionInput) :
    computeRulesVersionHash version (sortedGroups groups) =
      computeRulesVersionHash version (sortedGroups others) := by
  have payloads : (sortedGroups groups).map groupPayload =
      (sortedGroups others).map groupPayload := by
    apply map_eq_of_forall₂ (forall₂_sortedGroups distinct rearranged)
    rintro group other ⟨groupMem, pair⟩
    exact groupPayload_rearranged (distinct.conditionIds group groupMem) pair
      (distinct.outcomeIds group groupMem)
  rw [computeRulesVersionHash, computeRulesVersionHash, canonicalPayload, canonicalPayload, payloads]

omit [UnicodeData] in
/-- Items that every group contributes alike are the same for both rule sets. -/
theorem flatMap_rearranged {Result : Type*} {contribution : RuleGroupInput → List Result}
    (same : ∀ group ∈ groups, ∀ other, RearrangedGroup group other →
      contribution group = contribution other) :
    (sortedGroups groups).flatMap contribution = (sortedGroups others).flatMap contribution := by
  rw [List.flatMap_def, List.flatMap_def]
  congr 1
  apply map_eq_of_forall₂ (forall₂_sortedGroups distinct rearranged)
  rintro group other ⟨groupMem, pair⟩
  exact same group groupMem other pair

end Rearranged

section Outcomes

variable {group other : RuleGroupInput} (rearranged : RearrangedGroup group other)

include rearranged

omit [UnicodeData] in
theorem filter_outcomes_rearranged {shown : RuleOutcomeInput → Bool}
    (one : (group.outcomes.filter shown).length ≤ 1) :
    other.outcomes.filter shown = group.outcomes.filter shown := by
  have perm := rearranged.outcomes.filter shown
  cases outcomes : group.outcomes.filter shown with
  | nil =>
      rw [outcomes] at perm
      exact List.perm_nil.mp perm.symm
  | cons outcome rest =>
      have alone : rest = [] := by
        rw [outcomes, List.length_cons] at one
        exact List.length_eq_zero_iff.mp (by omega)
      rw [outcomes, alone] at perm
      rw [alone]
      exact List.perm_singleton.mp perm.symm

variable (conditionIds : (group.conditions.map (·.id)).Nodup)

include conditionIds

theorem groupBlockingItems_rearranged
    (one : GroupHolds profile group → group.blockingOutcomes.length ≤ 1) :
    groupBlockingItems profile group = groupBlockingItems profile other := by
  have items : blockingItem other = blockingItem group := by
    rw [rearranged.rest]
    rfl
  rw [groupBlockingItems, groupBlockingItems, ← groupChecks_rearranged conditionIds rearranged,
    items]
  by_cases holds : GroupHolds profile group
  · rw [if_pos holds, if_pos ((groupHolds_rearranged rearranged).mp holds),
      filter_outcomes_rearranged rearranged (one holds)]
  · rw [if_neg holds, if_neg fun otherHolds =>
      holds ((groupHolds_rearranged rearranged).mpr otherHolds)]

theorem groupScoringItems_rearranged (one : group.scoringOutcomes.length ≤ 1) :
    groupScoringItems profile group = groupScoringItems profile other := by
  have items : scoringItem other = scoringItem group := by
    rw [rearranged.rest]
    rfl
  have holds : decide (GroupHolds profile group) = decide (GroupHolds profile other) := by
    simp only [groupHolds_rearranged rearranged]
  have outcomes : other.scoringOutcomes = group.scoringOutcomes :=
    filter_outcomes_rearranged rearranged one
  rw [groupScoringItems, groupScoringItems, ← groupChecks_rearranged conditionIds rearranged,
    items, holds, outcomes]

end Outcomes

end Results

/-- The outcomes of every group the other way round. -/
def reverseOutcomes (group : RuleGroupInput) : RuleGroupInput :=
  { group with outcomes := group.outcomes.reverse }

theorem rearrangedGroup_reverseOutcomes (group : RuleGroupInput) :
    RearrangedGroup group (reverseOutcomes group) :=
  ⟨rfl, List.Perm.refl _, (List.reverse_perm _).symm⟩

theorem rearranged_reverseOutcomes (groups : List RuleGroupInput) :
    Rearranged groups (groups.map reverseOutcomes) := by
  refine ⟨groups, List.Perm.refl _, ?_⟩
  rw [List.forall₂_map_right_iff, List.forall₂_same]
  intro group _
  exact rearrangedGroup_reverseOutcomes group

theorem sortedGroups_map_reverseOutcomes (groups : List RuleGroupInput) :
    sortedGroups (groups.map reverseOutcomes) = (sortedGroups groups).map reverseOutcomes :=
  sortBy_map groupKey reverseOutcomes groups

/-- Lists made of pieces of the same lengths are the same only if the pieces are. -/
theorem eq_of_flatMap_eq {Source Result : Type*} {first second : Source → List Result}
    {sources : List Source} (lengths : ∀ source, (first source).length = (second source).length)
    (same : sources.flatMap first = sources.flatMap second) :
    ∀ source ∈ sources, first source = second source := by
  induction sources with
  | nil => simp
  | cons head rest ih =>
      rw [List.flatMap_cons, List.flatMap_cons] at same
      rcases List.append_inj same (lengths head) with ⟨heads, rests⟩
      intro source sourceMem
      rcases List.mem_cons.mp sourceMem with rfl | restMem
      · exact heads
      · exact ih rests source restMem

/-- Distinct elements read the same the other way round only if there is one at most. -/
theorem length_le_one_of_reverse_eq {Element : Type*} {elements : List Element}
    (distinct : elements.Nodup) (same : elements.reverse = elements) : elements.length ≤ 1 := by
  rcases elements with _ | ⟨first, rest⟩
  · simp
  · rcases List.eq_nil_or_concat rest with rfl | ⟨middle, last, rfl⟩
    · simp
    · have ends : last = first := by
        simpa using congrArg List.head? same
      simp [ends] at distinct

section Reversals

variable [UnicodeData] {profile : Dict}

theorem groupBlockingItems_reverseOutcomes (group : RuleGroupInput) :
    groupBlockingItems profile (reverseOutcomes group) =
      (groupBlockingItems profile group).reverse := by
  have items : blockingItem (reverseOutcomes group) = blockingItem group := rfl
  have checks : groupChecks profile (reverseOutcomes group) = groupChecks profile group := rfl
  have holds : GroupHolds profile (reverseOutcomes group) ↔ GroupHolds profile group := Iff.rfl
  rw [groupBlockingItems, groupBlockingItems, items, checks]
  simp only [holds]
  split_ifs
  · rw [reverseOutcomes, List.filter_reverse, List.map_reverse]
  · rfl

theorem groupScoringItems_reverseOutcomes (group : RuleGroupInput) :
    groupScoringItems profile (reverseOutcomes group) =
      (groupScoringItems profile group).reverse := by
  have items : scoringItem (reverseOutcomes group) = scoringItem group := rfl
  have checks : groupChecks profile (reverseOutcomes group) = groupChecks profile group := rfl
  have holds : decide (GroupHolds profile (reverseOutcomes group)) =
      decide (GroupHolds profile group) := rfl
  rw [groupScoringItems, groupScoringItems, items, checks, holds,
    RuleGroupInput.scoringOutcomes, RuleGroupInput.scoringOutcomes, reverseOutcomes,
    List.filter_reverse, List.map_reverse]

theorem breakdown_conclusion (hash : String) (groups : List RuleGroupInput) :
    (conclusion hash profile groups).breakdown =
      if groups.flatMap (groupBlockingItems profile) ≠ [] then
        groups.flatMap (groupBlockingItems profile)
      else groups.flatMap (groupScoringItems profile) := by
  rw [conclusion]
  split_ifs <;> rfl

/-- The breakdown after the reversal has the same groups, each the other way round. -/
theorem breakdown_conclusion_reverseOutcomes (hash : String) (groups : List RuleGroupInput) :
    (conclusion hash profile (groups.map reverseOutcomes)).breakdown =
      if groups.flatMap (groupBlockingItems profile) ≠ [] then
        groups.flatMap fun group => (groupBlockingItems profile group).reverse
      else groups.flatMap fun group => (groupScoringItems profile group).reverse := by
  rw [breakdown_conclusion]
  simp only [List.flatMap_map, groupBlockingItems_reverseOutcomes,
    groupScoringItems_reverseOutcomes, ne_eq, List.flatMap_eq_nil_iff, List.reverse_eq_nil_iff]

omit [UnicodeData] in
/-- Outcomes that the reversal does not move stand alone. -/
theorem length_le_one_of_reverse_items {group : RuleGroupInput}
    (ids : (group.outcomes.map (·.id)).Nodup) {shown : RuleOutcomeInput → Bool}
    {item : RuleOutcomeInput → ScoreBreakdownItem}
    (itemId : ∀ outcome, (item outcome).ruleOutcomeId = outcome.id)
    (same : ((group.outcomes.filter shown).map item).reverse =
      (group.outcomes.filter shown).map item) : (group.outcomes.filter shown).length ≤ 1 := by
  have sameIds := congrArg (List.map (·.ruleOutcomeId)) same
  simp only [List.map_reverse, List.map_map, Function.comp_def, itemId] at sameIds
  have distinct : ((group.outcomes.filter shown).map (·.id)).Nodup :=
    ids.sublist (List.filter_sublist.map _)
  simpa using length_le_one_of_reverse_eq distinct sameIds

end Reversals

section Evaluation

variable [UnicodeData] [Hashlib] {groups others : List RuleGroupInput} {profileSnapshot : Dict}
  {version : ProgramVersionInput}

/-- Rule sets that show one outcome of a group at most are evaluated alike in every order. -/
theorem evaluate_rearranged (distinct : DistinctIds groups) (rearranged : Rearranged groups others)
    (one : OneOutcomeShown profileSnapshot groups) :
    evaluate profileSnapshot version others = evaluate profileSnapshot version groups := by
  cases normalized : normalizeProfile profileSnapshot with
  | error error => simp only [evaluate, normalized, bind, Except.bind]
  | ok profile =>
      rw [evaluate_eq normalized, evaluate_eq normalized,
        ← failure_rearranged distinct rearranged,
        ← computeRulesVersionHash_rearranged distinct rearranged]
      cases fails : failure profile (sortedGroups groups) with
      | some error => rfl
      | none =>
          rcases one profile normalized (failure_eq_none_iff.mp fails) with
            ⟨oneBlocking, oneScoring⟩
          have blocking : (sortedGroups groups).flatMap (groupBlockingItems profile) =
              (sortedGroups others).flatMap (groupBlockingItems profile) := by
            apply flatMap_rearranged distinct rearranged
            intro group groupMem other pair
            exact groupBlockingItems_rearranged pair (distinct.conditionIds group groupMem)
              (oneBlocking group groupMem)
          dsimp only
          rw [conclusion, conclusion, ← blocking]
          by_cases blocked : (sortedGroups groups).flatMap (groupBlockingItems profile) = []
          · rw [if_neg (not_not.mpr blocked), if_neg (not_not.mpr blocked)]
            have oneOf := oneScoring (flatMap_groupBlockingItems_eq_nil_iff.mp blocked)
            have scoring : (sortedGroups groups).flatMap (groupScoringItems profile) =
                (sortedGroups others).flatMap (groupScoringItems profile) := by
              apply flatMap_rearranged distinct rearranged
              intro group groupMem other pair
              exact groupScoringItems_rearranged pair (distinct.conditionIds group groupMem)
                (oneOf group groupMem)
            have deltas : nonBlockingDeltas (sortedGroups groups) =
                nonBlockingDeltas (sortedGroups others) := by
              apply flatMap_rearranged distinct rearranged
              intro group groupMem other pair
              rw [filter_outcomes_rearranged pair (oneOf group groupMem)]
            have score (rawScore : ℚ) : normalizeScore rawScore (sortedGroups groups) =
                normalizeScore rawScore (sortedGroups others) := by
              rw [normalizeScore, normalizeScore, minPossible, maxPossible, minPossible, maxPossible,
                deltas]
            rw [scoring, scoredResult, scoredResult, score]
          · rw [if_pos blocked, if_pos blocked]

/-- A rule set is evaluated alike in every order exactly if it shows one outcome of a group at
most. -/
theorem evaluate_rearranged_iff (distinct : DistinctIds groups) :
    (∀ others, Rearranged groups others →
        evaluate profileSnapshot version others = evaluate profileSnapshot version groups) ↔
      OneOutcomeShown profileSnapshot groups := by
  constructor
  · intro insensitive profile normalized evaluates
    have reversed := rearranged_reverseOutcomes groups
    have same := insensitive (groups.map reverseOutcomes) reversed
    rw [evaluate_eq normalized, evaluate_eq normalized, ← failure_rearranged distinct reversed,
      failure_eq_none_iff.mpr evaluates] at same
    have breakdowns := congrArg ScoreComputationResult.breakdown (Except.ok.inj same)
    rw [sortedGroups_map_reverseOutcomes, breakdown_conclusion_reverseOutcomes,
      breakdown_conclusion] at breakdowns
    rw [← flatMap_groupBlockingItems_eq_nil_iff]
    by_cases blocked : (sortedGroups groups).flatMap (groupBlockingItems profile) = []
    · rw [if_neg (not_not.mpr blocked), if_neg (not_not.mpr blocked)] at breakdowns
      have pieces := eq_of_flatMap_eq (fun _ => List.length_reverse) breakdowns
      constructor
      · intro group groupMem holds
        rw [flatMap_groupBlockingItems_eq_nil_iff.mp blocked group groupMem holds]
        simp
      · intro _ group groupMem
        have piece := pieces group (mem_sortBy.mpr groupMem)
        rw [groupScoringItems, RuleGroupInput.scoringOutcomes] at piece
        exact length_le_one_of_reverse_items (distinct.outcomeIds group groupMem) (fun _ => rfl)
          piece
    · rw [if_pos blocked, if_pos blocked] at breakdowns
      have pieces := eq_of_flatMap_eq (fun _ => List.length_reverse) breakdowns
      refine ⟨?_, fun unblocked => absurd unblocked blocked⟩
      intro group groupMem holds
      have piece := pieces group (mem_sortBy.mpr groupMem)
      rw [groupBlockingItems, if_pos holds] at piece
      exact length_le_one_of_reverse_items (distinct.outcomeIds group groupMem) (fun _ => rfl) piece
  · intro one others rearranged
    exact evaluate_rearranged distinct rearranged one

end Evaluation

section Sample

local instance rearrangementsUnicode : UnicodeData := UnicodeData.ascii

local instance rearrangementsHashlib : Hashlib := sampleHashlib

/-- The two outcomes of `sampleGroup` stand in the breakdown in the order they are given in. -/
theorem evaluate_reverseOutcomes_sample :
    Rearranged [sampleGroup] [reverseOutcomes sampleGroup] ∧ DistinctIds [sampleGroup] ∧
    ¬ evaluate (sampleProfile (.int 30)) sampleVersion [reverseOutcomes sampleGroup] =
        evaluate (sampleProfile (.int 30)) sampleVersion [sampleGroup] := by
  refine ⟨rearranged_reverseOutcomes [sampleGroup], ⟨by decide, by decide, by decide⟩, ?_⟩
  intro same
  have breakdowns : ((evaluate (sampleProfile (.int 30)) sampleVersion
      [reverseOutcomes sampleGroup]).toOption.map fun result =>
        result.breakdown.map (·.ruleOutcomeId)) = some [5, 4] := by
    decide +kernel
  have others : ((evaluate (sampleProfile (.int 30)) sampleVersion
      [sampleGroup]).toOption.map fun result => result.breakdown.map (·.ruleOutcomeId)) =
        some [4, 5] := by
    decide +kernel
  rw [same, others] at breakdowns
  exact absurd breakdowns (by decide)

theorem evaluate_rearranged_iff_sample :
    (∀ others, Rearranged [sampleGroup] others →
        evaluate (sampleProfile (.int 30)) sampleVersion others =
          evaluate (sampleProfile (.int 30)) sampleVersion [sampleGroup]) ↔
      OneOutcomeShown (sampleProfile (.int 30)) [sampleGroup] :=
  evaluate_rearranged_iff ⟨by decide, by decide, by decide⟩

end Sample

end ImigrAI.Assessments
