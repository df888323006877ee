import ImigrAI.Roadmaps.Providers

/-!
# Generating a roadmap

`process_roadmap` on the row that it has loaded. The provider is built anew in every execution,
and of the contract that it returns the version and the orders of the steps are checked.
-/

namespace ImigrAI.Roadmaps

open Python Assessments Fallible

inductive RoadmapStatus where
  | pending
  | completed
  | failed
  | draft
  | published
  | archived
deriving DecidableEq

/-- A row of `roadmap_steps`; of `related_gap_json`, what stands under `gap`. -/
structure RoadmapStep where
  stepOrder : ℤ
  title : String
  description : String
  relatedGap : Option String
  isRequired : Bool
  etaWeeks : ℤ
  dependenciesJson : List ℤ
  riskLevel : String
  completionCriteria : String
deriving DecidableEq

structure Roadmap where
  status : RoadmapStatus
  summary : String
  manualReviewRequired : Bool
  llmProvider : Option String
  llmModel : Option String
  generationError : Option String
  completedAt : Option Instant
  steps : List RoadmapStep
deriving DecidableEq

/-- A row of `roadmaps` with the result it is made from, and the snapshot of the profile, if the
result still has its assessment. -/
structure LoadedRoadmap where
  roadmap : Roadmap
  result : StoredAssessmentResult
  profileJson : Option Dict

/-- What one execution meets: the reading of the clock when the generation starts, the answer of
OpenAI if it is asked, when that answer is there, and when the contract is stored. -/
structure GenerationCall where
  now : Instant
  response : OpenAIResponse
  answeredAt : Instant
  completedAt : Instant

/-- The row after an execution, whether a contract was stored in it, how the execution has
ended, and whether OpenAI was asked. -/
structure Processed where
  roadmap : Option Roadmap
  stored : Bool
  result : Except GenerationError Unit
  callsPrimary : Bool

def markRunning (roadmap : Roadmap) : Roadmap :=
  { roadmap with status := .pending, generationError := none, completedAt := none }

/-- The first order that was seen before. -/
def duplicateOrder : List ℤ → List ℤ → Option ℤ
  | _, [] => none
  | seenOrders, stepOrder :: rest =>
      if stepOrder ∈ seenOrders then some stepOrder
      else duplicateOrder (stepOrder :: seenOrders) rest

def validateContract (settings : Settings) (contract : RoadmapContract) :
    Except GenerationError Unit :=
  if contract.roadmapSchemaVersion ≠ settings.roadmapSchemaVersion then
    .error (.valueError ("Roadmap schema version mismatch: expected=" ++
      settings.roadmapSchemaVersion ++ " got=" ++ contract.roadmapSchemaVersion))
  else
    match duplicateOrder [] (contract.passosPriorizados.map (·.stepOrder)) with
    | some stepOrder =>
        .error (.valueError ("Duplicate roadmap step_order=" ++ toString stepOrder))
    | none => .ok ()

/-- The row of a step. -/
def roadmapStep (step : RoadmapStepContract) : RoadmapStep where
  stepOrder := step.stepOrder
  title := step.titulo
  description := step.descricao
  relatedGap := if step.gapRelacionado = some "" then none else step.gapRelacionado
  isRequired := step.isRequired
  etaWeeks := step.prazoEstimadoSemanas
  dependenciesJson := step.dependencias
  riskLevel := step.risco.value
  completionCriteria := step.criterioConclusao

/-- A text column of the database holds no null character. -/
def FitsText (text : String) : Prop := '\x00' ∉ text.toList

instance (text : String) : Decidable (FitsText text) :=
  inferInstanceAs (Decidable (_ ∉ _))

/-- The row fits its columns, of which the numbers are 32 bits wide. -/
def FitsColumns (step : RoadmapStep) : Prop :=
  step.stepOrder < 2 ^ 31 ∧ step.etaWeeks < 2 ^ 31 ∧ FitsText step.title ∧
    FitsText step.description ∧ FitsText step.completionCriteria

instance (step : RoadmapStep) : Decidable (FitsColumns step) :=
  inferInstanceAs (Decidable (_ ∧ _))

def applyGeneratedContract (roadmap : Roadmap) (contract : RoadmapContract)
    (providerName providerModel : String) (completedAt : Instant) :
    Except GenerationError Roadmap :=
  let steps := contract.passosPriorizados.map roadmapStep
  if FitsText contract.objetivo ∧ ∀ step ∈ steps, FitsColumns step then
    .ok { roadmap with
      status := .completed
      summary := contract.objetivo
      manualReviewRequired := contract.manualReviewRequired
      generationError := none
      llmProvider := providerName
      llmModel := providerModel
      completedAt := completedAt
      steps := steps }
  else .error .dataError

/-- `build_llm_provider` and the call of `generate_roadmap` on what it gives. -/
def generateRoadmap (settings : Settings) (provider : Option ResilientLLMProvider)
    (payload : ProviderPayload) (call : GenerationCall) : Generation :=
  match provider with
  | none => ⟨stubGenerateRoadmap settings payload, "claude_stub", settings.anthropicModel, false⟩
  | some provider => (provider.generateRoadmap settings payload call.now call.response).2

/-- `_validate_contract` and `apply_generated_contract`. -/
def storeContract (settings : Settings) (running : Roadmap) (generation : Generation)
    (completedAt : Instant) : Except GenerationError Roadmap := do
  let contract ← generation.contract
  validateContract settings contract
  applyGeneratedContract running contract generation.providerName generation.modelName completedAt

def processRoadmap (settings : Settings) (loaded : Option LoadedRoadmap) (call : GenerationCall) :
    Processed :=
  match loaded with
  | none => ⟨none, false, .error (.valueError "Roadmap not found"), false⟩
  | some loaded =>
      if loaded.roadmap.status = .completed ∧ loaded.roadmap.steps ≠ [] then
        ⟨some loaded.roadmap, false, .ok (), false⟩
      else
        let running := markRunning loaded.roadmap
        match buildLLMProvider settings with
        | .error error => ⟨some running, false, .error error, false⟩
        | .ok provider =>
            match loaded.profileJson with
            | none =>
                ⟨some running, false,
                  .error (.valueError "Roadmap is missing assessment snapshot context"), false⟩
            | some profile =>
                let payload := buildProviderPayload profile loaded.result
                let generation := generateRoadmap settings provider payload call
                match storeContract settings running generation call.completedAt with
                | .ok roadmap => ⟨some roadmap, true, .ok (), generation.callsPrimary⟩
                | .error error => ⟨some running, false, .error error, generation.callsPrimary⟩

theorem storeContract_eq_ok_iff {settings : Settings} {running roadmap : Roadmap}
    {generation : Generation} {completedAt : Instant} :
    storeContract settings running generation completedAt = .ok roadmap ↔
      ∃ contract, generation.contract = .ok contract ∧
        validateContract settings contract = .ok () ∧
        applyGeneratedContract running contract generation.providerName generation.modelName
          completedAt = .ok roadmap := by
  rw [storeContract, bind_eq_ok_iff]
  constructor
  · rintro ⟨contract, returned, storing⟩
    rcases bind_eq_ok_iff.mp storing with ⟨⟨⟩, valid, applying⟩
    exact ⟨contract, returned, valid, applying⟩
  · rintro ⟨contract, returned, valid, applying⟩
    exact ⟨contract, returned, bind_eq_ok_iff.mpr ⟨(), valid, applying⟩⟩

/-- What is stored of a contract. -/
theorem applyGeneratedContract_eq_ok {running roadmap : Roadmap} {contract : RoadmapContract}
    {providerName providerModel : String} {completedAt : Instant}
    (applied : applyGeneratedContract running contract providerName providerModel completedAt =
      .ok roadmap) :
    roadmap.steps = contract.passosPriorizados.map roadmapStep ∧
      roadmap.llmProvider = some providerName := by
  rw [applyGeneratedContract] at applied
  split_ifs at applied
  cases applied
  exact ⟨rfl, rfl⟩

/-- The roadmap is still to be generated and has all that the payload is made from. -/
def ToGenerate (loaded : LoadedRoadmap) : Prop :=
  ¬ (loaded.roadmap.status = .completed ∧ loaded.roadmap.steps ≠ []) ∧ loaded.profileJson.isSome

theorem processRoadmap_of_toGenerate {settings : Settings} {loaded : LoadedRoadmap}
    {provider : Option ResilientLLMProvider} (call : GenerationCall)
    (toGenerate : ToGenerate loaded) (built : buildLLMProvider settings = .ok provider) :
    ∃ profile, loaded.profileJson = some profile ∧
      let generation := generateRoadmap settings provider
        (buildProviderPayload profile loaded.result) call
      (processRoadmap settings (some loaded) call).callsPrimary = generation.callsPrimary ∧
      ((processRoadmap settings (some loaded) call).stored = true ↔
        ∃ roadmap, storeContract settings (markRunning loaded.roadmap) generation
          call.completedAt = .ok roadmap) ∧
      ∀ roadmap, storeContract settings (markRunning loaded.roadmap) generation
        call.completedAt = .ok roadmap →
          (processRoadmap settings (some loaded) call).roadmap = some roadmap := by
  rcases toGenerate with ⟨toDo, context⟩
  rcases Option.isSome_iff_exists.mp context with ⟨profile, found⟩
  refine ⟨profile, found, ?_⟩
  simp only [processRoadmap, if_neg toDo, built, found]
  cases storeContract settings (markRunning loaded.roadmap)
      (generateRoadmap settings provider (buildProviderPayload profile loaded.result) call)
      call.completedAt with
  | ok roadmap => simp
  | error error => simp

theorem processRoadmap_of_not_built {settings : Settings} {error : GenerationError}
    (loaded : LoadedRoadmap) (call : GenerationCall)
    (notBuilt : buildLLMProvider settings = .error error) :
    (processRoadmap settings (some loaded) call).callsPrimary = false ∧
      (processRoadmap settings (some loaded) call).stored = false := by
  rw [processRoadmap]
  dsimp only
  split_ifs
  · exact ⟨rfl, rfl⟩
  · rw [notBuilt]
    exact ⟨rfl, rfl⟩

theorem processRoadmap_of_not_toGenerate {settings : Settings} {loaded : LoadedRoadmap}
    (call : GenerationCall) (notToGenerate : ¬ ToGenerate loaded) :
    (processRoadmap settings (some loaded) call).callsPrimary = false ∧
      (processRoadmap settings (some loaded) call).stored = false := by
  rw [processRoadmap]
  dsimp only
  split_ifs with done
  · exact ⟨rfl, rfl⟩
  · cases built : buildLLMProvider settings with
    | error error => exact ⟨rfl, rfl⟩
    | ok provider =>
        cases found : loaded.profileJson with
        | none => exact ⟨rfl, rfl⟩
        | some profile =>
            refine absurd ⟨done, ?_⟩ notToGenerate
            simp [found]

/-- The default settings, with a key. -/
def defaultSettings : Settings where
  roadmapSchemaVersion := "roadmap.v1"
  llmProvider := .openai
  openaiApiKey := "sk-key"
  openaiModel := "gpt-4o-mini"
  anthropicModel := "claude-3-5-sonnet-latest"
  llmCircuitBreakerFailureThreshold := 3
  llmCircuitBreakerRecoverySeconds := 120

def pendingRoadmap : LoadedRoadmap where
  roadmap := ⟨.pending, "Roadmap generation pending", false, none, none, none, none, []⟩
  result := ⟨⟨3, "2024", 0, none⟩, "", "", 50, true, 0, []⟩
  profileJson := some []

end ImigrAI.Roadmaps
