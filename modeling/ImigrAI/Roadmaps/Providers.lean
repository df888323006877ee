import ImigrAI.Foundations.Streaks
import ImigrAI.Python.Datetime
import ImigrAI.Roadmaps.ProviderPayload
import ImigrAI.Roadmaps.Schemas

/-!
# Roadmap providers

The provider of OpenAI, its stub and the resilient provider that calls one after the other. A
provider that is kept from call to call opens its circuit after as many failures in a row as its
threshold asks for.
-/

namespace ImigrAI.Roadmaps

open Python Streaks

/-- What the generation of a roadmap raises. -/
inductive GenerationError where
  | valueError (message : String)
  | llmProviderError (message : String)
  | llmProviderResponseError
  | validationError
  | indexError
  | dataError
deriving DecidableEq

/-- `isinstance(error, LLMProviderError)`. -/
def GenerationError.isLLMProviderError : GenerationError → Bool
  | .llmProviderError _ | .llmProviderResponseError => true
  | _ => false

inductive LLMProviderName where
  | openai
  | claude
deriving DecidableEq

structure Settings where
  roadmapSchemaVersion : String
  llmProvider : LLMProviderName
  openaiApiKey : Option String
  openaiModel : String
  anthropicModel : String
  llmCircuitBreakerFailureThreshold : ℤ
  llmCircuitBreakerRecoverySeconds : ℤ

/-- The instant until which it is open, in microseconds. -/
structure CircuitBreakerState where
  consecutiveFailures : ℕ
  openedUntil : Option ℤ
deriving DecidableEq

namespace CircuitBreakerState

def fresh : CircuitBreakerState := ⟨0, none⟩

def isOpen (state : CircuitBreakerState) (now : Instant) : Bool :=
  state.openedUntil.any fun openedUntil => (now.val : ℤ) < openedUntil

def recordFailure (state : CircuitBreakerState) (threshold recoverySeconds : ℤ) (now : Instant) :
    CircuitBreakerState where
  consecutiveFailures := state.consecutiveFailures + 1
  openedUntil :=
    if threshold ≤ state.consecutiveFailures + 1 then
      some (now.val + recoverySeconds * 1000000)
    else state.openedUntil

def recordSuccess (_ : CircuitBreakerState) : CircuitBreakerState := fresh

end CircuitBreakerState

/-- What comes back from OpenAI: of a completion, whether it has a choice, and what its content
decodes to. -/
inductive OpenAIResponse where
  | timeout
  | failure (message : String)
  | completion (content : Option (Option Value))

/-- `OpenAILLMProvider.generate_roadmap`. -/
def openAIGenerateRoadmap : OpenAIResponse → Except GenerationError RoadmapContract
  | .timeout => .error (.llmProviderError "OpenAI request timed out")
  | .failure message => .error (.llmProviderError ("OpenAI request failed: " ++ message))
  | .completion none => .error .indexError
  | .completion (some content) =>
      match content.bind RoadmapContract.ofValue with
      | some contract => .ok contract
      | none => .error .llmProviderResponseError

/-- A step of the stub, for a gap and its number. -/
def stubStep (gap : String) (idx : ℕ) : Option RoadmapStepContract :=
  RoadmapStepContract.validate idx ("Mitigar gap " ++ toString idx) ("Atacar gap identificado: " ++ gap) 6
    (if 1 < idx then [(idx : ℤ) - 1] else []) .medio
    ("Gap '" ++ gap ++ "' nao aparece no reprocessamento.") gap true

def stubOnlyStep : Option RoadmapStepContract :=
  RoadmapStepContract.validate 1 "Consolidar elegibilidade"
    "Manter perfil atual e organizar evidencias para aplicacao." 4 [] .baixo
    "Checklist documental completo." none true

/-- `ClaudeLLMProviderStub.generate_roadmap`. -/
def stubGenerateRoadmap (settings : Settings) (payload : ProviderPayload) :
    Except GenerationError RoadmapContract :=
  let steps :=
    if payload.gapsCriticos = [] then stubOnlyStep.map fun step => [step]
    else (payload.gapsCriticos.zipIdx 1).mapM fun entry => stubStep entry.1 entry.2
  let contract := steps.bind fun steps => RoadmapContract.validate settings.roadmapSchemaVersion
    "Fechar gaps criticos e maximizar score para o programa alvo sem violar requisitos." true steps
  match contract with
  | some contract => .ok contract
  | none => .error .validationError

structure ResilientLLMProvider where
  providerName : String
  modelName : String
  failureThreshold : ℤ
  recoverySeconds : ℤ
  state : CircuitBreakerState
deriving DecidableEq

/-- A contract with the names of its provider and its model, and whether OpenAI was asked for it. -/
structure Generation where
  contract : Except GenerationError RoadmapContract
  providerName : String
  modelName : String
  callsPrimary : Bool

/-- `_generate_with_fallback`, with the provider as it is left. -/
def ResilientLLMProvider.generateWithFallback (settings : Settings)
    (provider : ResilientLLMProvider) (payload : ProviderPayload) (callsPrimary : Bool) :
    ResilientLLMProvider × Generation :=
  match stubGenerateRoadmap settings payload with
  | .ok contract =>
      ({ provider with providerName := "claude_stub", modelName := settings.anthropicModel },
        ⟨.ok contract, "claude_stub", settings.anthropicModel, callsPrimary⟩)
  | .error error =>
      (provider, ⟨.error error, provider.providerName, provider.modelName, callsPrimary⟩)

def ResilientLLMProvider.generateRoadmap (settings : Settings) (provider : ResilientLLMProvider)
    (payload : ProviderPayload) (now : Instant) (response : OpenAIResponse) :
    ResilientLLMProvider × Generation :=
  if provider.state.isOpen now then provider.generateWithFallback settings payload false
  else
    match openAIGenerateRoadmap response with
    | .ok contract =>
        ({ provider with
          providerName := "openai"
          modelName := settings.openaiModel
          state := provider.state.recordSuccess },
          ⟨.ok contract, "openai", settings.openaiModel, true⟩)
    | .error error =>
        if error.isLLMProviderError then
          let failing := { provider with
            state := provider.state.recordFailure provider.failureThreshold
              provider.recoverySeconds now }
          failing.generateWithFallback settings payload true
        else (provider, ⟨.error error, provider.providerName, provider.modelName, true⟩)

/-- `build_llm_provider`, where `none` stands for the stub alone. -/
def buildLLMProvider (settings : Settings) :
    Except GenerationError (Option ResilientLLMProvider) :=
  match settings.llmProvider with
  | .claude => .ok none
  | .openai =>
      if settings.openaiApiKey.any (· ≠ "") then .ok (some {
        providerName := "resilient"
        modelName := settings.openaiModel
        failureThreshold := max 1 settings.llmCircuitBreakerFailureThreshold
        recoverySeconds := max 1 settings.llmCircuitBreakerRecoverySeconds
        state := .fresh })
      else .error (.llmProviderError "OPENAI_API_KEY is required when llm_provider=openai")

end ImigrAI.Roadmaps
