import ImigrAI.Assessments.Results

/-!
# The provider payload of a roadmap

`_build_provider_payload` reads a stored result with its own code. Both readers agree with
the engine on the band and on the gaps; on the factors they agree exactly when no blocking
outcome that applies has a positive delta.
-/

namespace ImigrAI.Roadmaps

open Python Sorting Assessments

/-- An entry of `breakdown` in the payload. -/
structure PayloadBreakdownEntry where
  ruleGroupId : String
  ruleOutcomeId : String
  applied : Bool
  scoreDelta : ℚ
  message : String
  isBlocking : Bool
  conditionChecks : List ConditionCheck

structure ProviderPayload where
  perfil : Dict
  programVersionId : String
  programVersion : String
  scoreFinal : ℚ
  faixa : String
  algorithmVersion : String
  rulesVersionHash : String
  fatoresPositivos : List String
  gapsCriticos : List String
  breakdown : List PayloadBreakdownEntry

def serializeBreakdownItem (item : AssessmentResultItem) : PayloadBreakdownEntry where
  ruleGroupId := item.ruleGroupId.str
  ruleOutcomeId := item.ruleOutcomeId.str
  applied := item.applied
  scoreDelta := item.scoreDelta
  message := item.explanationMessage
  isBlocking := item.auditPayloadJson.isBlocking
  conditionChecks := item.auditPayloadJson.conditionChecks

/-- `_append_assessment_signals`, on the gaps and the factors collected so far. -/
def appendAssessmentSignals (signals : List String × List String) (item : AssessmentResultItem) :
    List String × List String :=
  if !item.applied then signals
  else
    let gapsCriticos :=
      if item.auditPayloadJson.isBlocking ∨ item.scoreDelta < 0 then
        signals.1 ++ [item.explanationMessage]
      else signals.1
    let fatoresPositivos :=
      if 0 < item.scoreDelta then signals.2 ++ [item.explanationMessage] else signals.2
    (gapsCriticos, fatoresPositivos)

def scoreBand (scoreFinal : ℚ) : String :=
  if 70 ≤ scoreFinal then "alto" else if 40 ≤ scoreFinal then "medio" else "baixo"

def buildProviderPayload (profile : Dict) (result : StoredAssessmentResult) : ProviderPayload :=
  let items := sortBy resultItemKey result.items
  let signals := items.foldl appendAssessmentSignals ([], [])
  let scoreFinal := quantizeDefault result.totalScore
  { perfil := profile
    programVersionId := result.programVersion.id.str
    programVersion := result.programVersion.version
    scoreFinal := scoreFinal
    faixa := scoreBand scoreFinal
    algorithmVersion := result.algorithmVersion
    rulesVersionHash := result.rulesVersionHash
    fatoresPositivos := signals.2
    gapsCriticos := signals.1
    breakdown := items.map serializeBreakdownItem }

theorem scoreBand_eq_toFaixa (score : ℚ) : scoreBand score = toFaixa score := by
  unfold scoreBand toFaixa
  split_ifs <;> first | rfl | linarith

/-- The loop of the payload builder collects what the breakdown reader filters. -/
theorem foldl_appendAssessmentSignals (items : List AssessmentResultItem)
    (signals : List String × List String) :
    items.foldl appendAssessmentSignals signals =
      (signals.1 ++ criticalGaps items, signals.2 ++ positiveFactors items) := by
  induction items generalizing signals with
  | nil => simp [criticalGaps, positiveFactors]
  | cons item items ih =>
      rw [List.foldl_cons, ih]
      cases applied : item.applied with
      | false => simp [appendAssessmentSignals, criticalGaps, positiveFactors, applied]
      | true =>
          by_cases gap : item.auditPayloadJson.isBlocking ∨ item.scoreDelta < 0 <;>
            by_cases factor : 0 < item.scoreDelta <;>
              simp [appendAssessmentSignals, criticalGaps, positiveFactors, applied, gap, factor]

/-- Band, factors and gaps of a reader are those of the engine, the lists in any order. -/
def ReadsBack (computation : ScoreComputationResult) (faixa : String)
    (fatoresPositivos gapsCriticos : List String) : Prop :=
  faixa = computation.faixa ∧ fatoresPositivos.Perm computation.fatoresPositivos ∧
    gapsCriticos.Perm computation.gapsCriticos

/-- Both readers give back what the engine computed. -/
def ReadersAgree (version : ProgramVersionInput) (computation : ScoreComputationResult)
    (computedAt : Instant) (stamps : ℕ → UUID × Instant) (profile : Dict) : Prop :=
  let stored := storeResult version computation computedAt stamps
  let response := toBreakdownResponse stored
  let payload := buildProviderPayload profile stored
  ReadsBack computation response.faixa response.fatoresPositivos response.gapsCriticos ∧
    ReadsBack computation payload.faixa payload.fatoresPositivos payload.gapsCriticos

/-- No blocking outcome of a group that holds has a delta that is positive after rounding. -/
def NoBlockingBonus [UnicodeData] (profile : Dict) (groups : List RuleGroupInput) : Prop :=
  ∀ group ∈ groups, GroupHolds profile group → ∀ outcome ∈ group.outcomes,
    outcome.isBlocking = true → quantize outcome.scoreDelta.toRat ≤ 0

/-- The two readers agree with each other, so one condition is left to check. -/
theorem readersAgree_iff_readsBack (version : ProgramVersionInput)
    (computation : ScoreComputationResult) (computedAt : Instant) (stamps : ℕ → UUID × Instant)
    (profile : Dict) :
    ReadersAgree version computation computedAt stamps profile ↔
      let response := toBreakdownResponse (storeResult version computation computedAt stamps)
      ReadsBack computation response.faixa response.fatoresPositivos response.gapsCriticos := by
  simp [ReadersAgree, buildProviderPayload, toBreakdownResponse, scoreBand_eq_toFaixa,
    foldl_appendAssessmentSignals]

section Readers

variable [UnicodeData]

/-- A blocked result is read back unless one of its items has a positive delta. -/
theorem readsBack_blockedResult (version : ProgramVersionInput) (hash : String) (profile : Dict)
    (groups : List RuleGroupInput) (computedAt : Instant) (stamps : ℕ → UUID × Instant) :
    (let computation := blockedResult hash (groups.flatMap (groupBlockingItems profile))
     let response := toBreakdownResponse (storeResult version computation computedAt stamps)
     ReadsBack computation response.faixa response.fatoresPositivos response.gapsCriticos) ↔
      ∀ item ∈ groups.flatMap (groupBlockingItems profile), item.scoreDelta ≤ 0 := by
  have items : ∀ item ∈ groups.flatMap (groupBlockingItems profile),
      item.applied = true ∧ item.isBlocking = true := by
    intro item itemMem
    rcases mem_blockingItems.mp itemMem with ⟨group, -, -, outcome, -, -, rfl⟩
    exact ⟨rfl, rfl⟩
  generalize groups.flatMap (groupBlockingItems profile) = blocking at items
  have band : toFaixa (quantizeDefault 0) = "baixo" := by
    rw [quantizeDefault_of_twoDecimals ⟨0, by norm_num⟩]
    norm_num [toFaixa]
  have gaps := messages_storeResult version (blockedResult hash blocking) computedAt stamps
    (fun item => item.applied && (item.auditPayloadJson.isBlocking || item.scoreDelta < 0))
    (fun _ => true) (by
      intro item itemMem stamp
      simp [resultItemRow, items item itemMem])
  have factors := messages_storeResult version (blockedResult hash blocking) computedAt stamps
    (fun item => item.applied && 0 < item.scoreDelta) (fun item => 0 < item.scoreDelta) (by
      intro item itemMem stamp
      simp [resultItemRow, items item itemMem])
  simp only [blockedResult, List.filter_true] at gaps factors
  simp only [ReadsBack, toBreakdownResponse, blockedResult, storeResult, band, true_and,
    criticalGaps, positiveFactors]
  constructor
  · rintro ⟨noFactor, -⟩ item itemMem
    have empty := (factors.symm.trans noFactor).eq_nil
    simp only [List.map_eq_nil_iff, List.filter_eq_nil_iff, decide_eq_true_eq, not_lt] at empty
    exact empty item itemMem
  · intro noBonus
    refine ⟨factors.trans (List.Perm.of_eq ?_), gaps⟩
    simp only [List.map_eq_nil_iff, List.filter_eq_nil_iff, decide_eq_true_eq, not_lt]
    exact noBonus

/-- A scored result is always read back. -/
theorem readsBack_scoredResult (version : ProgramVersionInput) (hash : String) (profile : Dict)
    (groups : List RuleGroupInput) (computedAt : Instant) (stamps : ℕ → UUID × Instant) :
    let computation := scoredResult hash groups (groups.flatMap (groupScoringItems profile))
    let response := toBreakdownResponse (storeResult version computation computedAt stamps)
    ReadsBack computation response.faixa response.fatoresPositivos response.gapsCriticos := by
  have items : ∀ item ∈ groups.flatMap (groupScoringItems profile),
      item.isBlocking = false ∧ (item.applied = false → item.scoreDelta = 0) := by
    intro item itemMem
    exact ⟨isBlocking_scoringItem itemMem, scoreDelta_of_not_applied itemMem⟩
  generalize groups.flatMap (groupScoringItems profile) = scored at items
  have gaps := messages_storeResult version (scoredResult hash groups scored) computedAt stamps
    (fun item => item.applied && (item.auditPayloadJson.isBlocking || item.scoreDelta < 0))
    (fun item => item.scoreDelta < 0) (by
      intro item itemMem stamp
      rcases items item itemMem with ⟨open_, skipped⟩
      cases applied : item.applied <;> simp [resultItemRow, applied, open_, skipped])
  have factors := messages_storeResult version (scoredResult hash groups scored) computedAt stamps
    (fun item => item.applied && 0 < item.scoreDelta) (fun item => 0 < item.scoreDelta) (by
      intro item itemMem stamp
      rcases items item itemMem with ⟨-, skipped⟩
      cases applied : item.applied <;> simp [resultItemRow, applied, skipped])
  refine ⟨?_, factors, gaps⟩
  simp only [toBreakdownResponse, storeResult, scoredResult]
  rw [quantizeDefault_of_twoDecimals (twoDecimals_normalizeScore _ _)]

variable [Hashlib]

/-- The readers agree with the engine exactly when no blocking outcome of a group that holds
has a positive delta. -/
theorem readersAgree_iff_noBlockingBonus {profileSnapshot : Dict} {version : ProgramVersionInput}
    {groups : List RuleGroupInput} {computation : ScoreComputationResult}
    (evaluated : evaluate profileSnapshot version groups = .ok computation)
    (computedAt : Instant) (stamps : ℕ → UUID × Instant) :
    ReadersAgree version computation computedAt stamps profileSnapshot ↔
      ∀ profile, normalizeProfile profileSnapshot = .ok profile →
        NoBlockingBonus profile groups := by
  rw [readersAgree_iff_readsBack]
  rcases evaluate_eq_ok evaluated with ⟨profile, normalized, outcome⟩
  have perm : (sortedGroups groups).Perm groups := sortBy_perm groupKey groups
  have condition : (∀ other, normalizeProfile profileSnapshot = .ok other →
      NoBlockingBonus other groups) ↔
        ∀ item ∈ (sortedGroups groups).flatMap (groupBlockingItems profile),
          item.scoreDelta ≤ 0 := by
    constructor
    · intro noBonus item itemMem
      rcases mem_blockingItems.mp itemMem with
        ⟨group, groupMem, holds, outcome, outcomeMem, blocking, rfl⟩
      exact noBonus profile normalized group (perm.mem_iff.mp groupMem) holds outcome outcomeMem
        blocking
    · intro noBonus other otherNormalized group groupMem holds outcome outcomeMem blocking
      rw [normalized] at otherNormalized
      rcases Except.ok.inj otherNormalized with rfl
      exact noBonus _ (mem_blockingItems.mpr ⟨group, perm.mem_iff.mpr groupMem, holds, outcome,
        outcomeMem, blocking, rfl⟩)
  rw [condition]
  rcases outcome with ⟨-, rfl⟩ | ⟨unblocked, rfl⟩
  · exact readsBack_blockedResult ..
  · rw [unblocked]
    simpa using readsBack_scoredResult ..

end Readers

section Sample

local instance : UnicodeData := UnicodeData.ascii

local instance : Hashlib := sampleHashlib

/-- `sampleGroup` with a single blocking outcome. -/
def blockingGroup (scoreDelta : Decimal) : RuleGroupInput :=
  { sampleGroup with outcomes := [⟨4, scoreDelta, true, "Idade bloqueada", some "AGE_BLOCK"⟩] }

def sampleStamps (index : ℕ) : UUID × Instant := (Fin.ofNat _ (100 + index), 63871243200000000)

/-- Without a bonus on the blocking outcome both readers agree with the engine. -/
theorem readersAgree_sample :
    ∃ computation,
      evaluate (sampleProfile (.int 30)) sampleVersion [blockingGroup ⟨true, 1000, -2⟩] =
        .ok computation ∧
      ReadersAgree sampleVersion computation 63871243200000000 sampleStamps
        (sampleProfile (.int 30)) := by
  have succeeds : (evaluate (sampleProfile (.int 30)) sampleVersion
      [blockingGroup ⟨true, 1000, -2⟩]).toBool = true := by
    decide +kernel
  cases evaluated : evaluate (sampleProfile (.int 30)) sampleVersion
      [blockingGroup ⟨true, 1000, -2⟩] with
  | error error => simp [evaluated, Except.toBool] at succeeds
  | ok computation =>
      refine ⟨computation, rfl, (readersAgree_iff_noBlockingBonus evaluated _ _).mpr ?_⟩
      intro profile _ group groupMem _ outcome outcomeMem _
      rcases List.mem_singleton.mp groupMem with rfl
      rcases List.mem_singleton.mp outcomeMem with rfl
      decide +kernel

/-- A blocking outcome with a bonus is read back as a positive factor, which the engine does
not report. -/
theorem readers_disagree_on_blockingBonus :
    ∃ computation,
      evaluate (sampleProfile (.int 30)) sampleVersion [blockingGroup ⟨false, 1000, -2⟩] =
        .ok computation ∧
      ¬ ReadersAgree sampleVersion computation 63871243200000000 sampleStamps
        (sampleProfile (.int 30)) := by
  have factors : (evaluate (sampleProfile (.int 30)) sampleVersion
      [blockingGroup ⟨false, 1000, -2⟩]).toOption.map (fun computation =>
        (computation.fatoresPositivos, (toBreakdownResponse (storeResult sampleVersion computation
          63871243200000000 sampleStamps)).fatoresPositivos)) = some ([], ["Idade bloqueada"]) := by
    decide +kernel
  cases evaluated : evaluate (sampleProfile (.int 30)) sampleVersion
      [blockingGroup ⟨false, 1000, -2⟩] with
  | error error => simp [evaluated, Except.toOption] at factors
  | ok computation =>
      rcases Prod.mk.inj (Option.some.inj (by
        simpa [evaluated, Except.toOption] using factors)) with ⟨engine, reader⟩
      refine ⟨computation, rfl, ?_⟩
      rintro ⟨⟨-, same, -⟩, -⟩
      rw [engine, reader] at same
      exact absurd same.length_eq (by simp)

end Sample

end ImigrAI.Roadmaps
