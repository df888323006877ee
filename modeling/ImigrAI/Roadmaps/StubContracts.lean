import ImigrAI.Roadmaps.StoredSteps

/-!
# Contracts of the stub

For every stored result the stub returns a contract that the service accepts, with one step for
each critical gap, so the fallback of a resilient provider does not raise.
-/

namespace ImigrAI.Roadmaps

open Python Assessments

/-- The orders are the numbers from one on, every dependency is an earlier one, and the steps stand
for the gaps in their order, or one step for none. -/
structure CoversGaps (gapsCriticos : List String) (contract : RoadmapContract) : Prop where
  orders : contract.passosPriorizados.map (·.stepOrder) =
    (List.range' 1 contract.passosPriorizados.length).map fun idx : ℕ => (idx : ℤ)
  dependencies : ∀ step ∈ contract.passosPriorizados, ∀ dependencia ∈ step.dependencias,
    1 ≤ dependencia ∧ dependencia < step.stepOrder
  gaps : contract.passosPriorizados.map (·.gapRelacionado) =
    if gapsCriticos = [] then [none] else gapsCriticos.map some

/-- The texts around a gap are long enough for any gap, and a number of so few digits fits. -/
theorem exists_stubStep (gap : String) {idx : ℕ} (positive : 1 ≤ idx) (small : idx < 10 ^ 168) :
    ∃ step, stubStep gap idx = some step := by
  have digits : (toString idx).length ≤ 168 :=
    (Nat.length_repr_le_iff (by norm_num)).mpr small
  have titulo : 3 ≤ ("Mitigar gap " ++ toString idx).length ∧
      ("Mitigar gap " ++ toString idx).length ≤ 180 := by
    have length : "Mitigar gap ".length = 12 := rfl
    rw [String.length_append, length]
    omega
  have descricao : 10 ≤ ("Atacar gap identificado: " ++ gap).length := by
    have length : "Atacar gap identificado: ".length = 25 := rfl
    rw [String.length_append, length]
    omega
  have criterio : 10 ≤ ("Gap '" ++ gap ++ "' nao aparece no reprocessamento.").length := by
    have length : "' nao aparece no reprocessamento.".length = 33 := rfl
    rw [String.length_append, length]
    omega
  have order : (1 : ℤ) ≤ idx := by exact_mod_cast positive
  exact ⟨_, dif_pos ⟨order, titulo, descricao, by norm_num, criterio⟩⟩

theorem exists_stubSteps (gaps : List String) {start : ℕ} (positive : 1 ≤ start)
    (few : start + gaps.length ≤ 10 ^ 168) :
    ∃ steps, (gaps.zipIdx start).mapM (fun entry => stubStep entry.1 entry.2) = some steps ∧
      steps.map (·.gapRelacionado) = gaps.map some := by
  induction gaps generalizing start with
  | nil => exact ⟨[], rfl, rfl⟩
  | cons gap gaps ih =>
      rw [List.length_cons] at few
      rcases exists_stubStep gap positive (by omega) with ⟨step, made⟩
      have later : 1 ≤ start + 1 := by omega
      rcases ih later (by omega) with ⟨steps, laterMade, named⟩
      refine ⟨step :: steps, ?_, ?_⟩
      · rw [List.zipIdx_cons, List.mapM_cons, made, laterMade]
        rfl
      · rw [List.map_cons, List.map_cons, named, (stubStep_eq_some made).2.1]

theorem exists_stubOnlyStep : ∃ step, stubOnlyStep = some step ∧ step.stepOrder = 1 ∧
    step.dependencias = [] ∧ step.gapRelacionado = none := by
  rw [stubOnlyStep, RoadmapStepContract.validate, dif_pos (by decide)]
  exact ⟨_, rfl, rfl, rfl, rfl⟩

section Contract

variable {settings : Settings}

/-- The contract around any steps is valid. -/
theorem exists_contract (version : 1 ≤ settings.roadmapSchemaVersion.length ∧
      settings.roadmapSchemaVersion.length ≤ 16)
    {steps : List RoadmapStepContract} (nonempty : steps ≠ []) :
    ∃ contract, RoadmapContract.validate settings.roadmapSchemaVersion
        "Fechar gaps criticos e maximizar score para o programa alvo sem violar requisitos." true
        steps = some contract ∧
      contract.roadmapSchemaVersion = settings.roadmapSchemaVersion ∧
      contract.passosPriorizados = steps :=
  ⟨_, dif_pos ⟨version, by decide, nonempty⟩, rfl, rfl⟩

/-- The steps that the stub makes of the gaps. -/
theorem exists_steps (gaps : List String) (few : gaps.length < 2 ^ 63) :
    ∃ steps, (if gaps = [] then stubOnlyStep.map fun step => [step]
        else (gaps.zipIdx 1).mapM fun entry => stubStep entry.1 entry.2) = some steps ∧
      steps ≠ [] ∧
      steps.map (·.stepOrder) = (List.range' 1 steps.length).map (fun idx : ℕ => (idx : ℤ)) ∧
      (∀ step ∈ steps, ∀ dependencia ∈ step.dependencias,
        1 ≤ dependencia ∧ dependencia < step.stepOrder) ∧
      steps.map (·.gapRelacionado) = if gaps = [] then [none] else gaps.map some := by
  by_cases noGaps : gaps = []
  · rcases exists_stubOnlyStep with ⟨step, only, order, dependencies, gap⟩
    refine ⟨[step], ?_, by simp, ?_, ?_, ?_⟩
    · rw [if_pos noGaps, only]
      rfl
    · simp [order]
    · simp [dependencies]
    · simp [noGaps, gap]
  · have bounded : 1 + gaps.length ≤ 10 ^ 168 := by
      have : (2 : ℕ) ^ 63 ≤ 10 ^ 168 := by norm_num
      omega
    rcases exists_stubSteps gaps le_rfl bounded with ⟨steps, made, named⟩
    rcases stubSteps_eq_some made with ⟨orders, fromGaps⟩
    have length : steps.length = gaps.length := by
      simpa using congrArg List.length named
    refine ⟨steps, ?_, ?_, ?_, ?_, ?_⟩
    · rw [if_neg noGaps, made]
    · rintro rfl
      exact noGaps (List.length_eq_zero_iff.mp length.symm)
    · rw [orders, length]
    · intro step mem dependencia dependency
      rcases fromGaps step mem with ⟨gap, -, idx, stepMade⟩
      rcases stubStep_eq_some stepMade with ⟨isOrder, -, before⟩
      rcases before dependencia dependency with ⟨later, isBefore⟩
      rw [isOrder]
      omega
    · rw [if_neg noGaps, named]

end Contract

theorem length_gapsCriticos_le (profile : Dict) (result : StoredAssessmentResult) :
    (buildProviderPayload profile result).gapsCriticos.length ≤ result.items.length := by
  have sorted := (Sorting.sortBy_perm resultItemKey result.items).length_eq
  have gaps : (buildProviderPayload profile result).gapsCriticos =
      criticalGaps (Sorting.sortBy resultItemKey result.items) := by
    simp [buildProviderPayload, foldl_appendAssessmentSignals]
  rw [gaps, criticalGaps, List.length_map, ← sorted]
  exact List.length_filter_le _ _

/-- On the payload of any stored result the stub returns a contract that the service accepts and
that covers the critical gaps. -/
theorem stub_covers_gaps (settings : Settings) (profile : Dict) (result : StoredAssessmentResult)
    (version : 1 ≤ settings.roadmapSchemaVersion.length ∧
      settings.roadmapSchemaVersion.length ≤ 16)
    (few : result.items.length < 2 ^ 63) :
    ∃ contract,
      stubGenerateRoadmap settings (buildProviderPayload profile result) = .ok contract ∧
        validateContract settings contract = .ok () ∧
        CoversGaps (buildProviderPayload profile result).gapsCriticos contract := by
  have fewGaps : (buildProviderPayload profile result).gapsCriticos.length < 2 ^ 63 :=
    lt_of_le_of_lt (length_gapsCriticos_le profile result) few
  rcases exists_steps _ fewGaps with ⟨steps, made, nonempty, orders, dependencies, gaps⟩
  rcases exists_contract version nonempty with ⟨contract, validated, isVersion, isSteps⟩
  have accepted : validateContract settings contract = .ok () := by
    rw [validateContract_eq_ok_iff, isSteps, orders]
    exact ⟨isVersion, (List.nodup_range').map Int.ofNat_injective⟩
  refine ⟨contract, ?_, accepted, ?_, ?_, ?_⟩
  · rw [stubGenerateRoadmap]
    simp only [made, Option.bind_some, validated]
  · rw [isSteps, orders]
  · rw [isSteps]
    exact dependencies
  · rw [isSteps, gaps]

/-- Two critical gaps, of which the second has an empty message. -/
def gapResult : StoredAssessmentResult :=
  { pendingRoadmap.result with
    items := [⟨1, 0, 1, none, 1, true, -5, "Idioma insuficiente", ⟨[], false, "LANG"⟩⟩,
      ⟨2, 1, 1, none, 1, true, 0, "", ⟨[], true, "AGE"⟩⟩] }

theorem stub_covers_gaps_sample :
    (buildProviderPayload [] gapResult).gapsCriticos = ["Idioma insuficiente", ""] ∧
      ∃ contract,
        stubGenerateRoadmap defaultSettings (buildProviderPayload [] gapResult) = .ok contract ∧
          validateContract defaultSettings contract = .ok () ∧
          CoversGaps (buildProviderPayload [] gapResult).gapsCriticos contract :=
  ⟨by decide +kernel, stub_covers_gaps defaultSettings [] gapResult (by decide) (by decide)⟩

end ImigrAI.Roadmaps
