import ImigrAI.Foundations.Answers
import ImigrAI.Foundations.Breakers
import ImigrAI.Roadmaps.Providers
import Mathlib.Data.List.Induction

/-!
# Calls of a resilient provider

One `ResilientLLMProvider` over any providers and contracts, from call to call. A primary that
fails raises `LLMProviderError`, and the fallback does not raise. A recovery time that leads beyond
`datetime.max` makes the breaker itself raise.
-/

namespace ImigrAI.Roadmaps.Resilient

open Answers Breakers Python

/-- `now + timedelta(seconds=seconds)`, `none` where it raises `OverflowError`. -/
def plusSeconds (now : Instant) (seconds : ℤ) : Option Instant :=
  let later := now.val + seconds * 1000000
  if bounds : 0 ≤ later ∧ later < 315537897600000000 then some ⟨later.toNat, by omega⟩ else none

structure CircuitBreakerState where
  consecutiveFailures : ℕ
  openedUntil : Option Instant

namespace CircuitBreakerState

def fresh : CircuitBreakerState := ⟨0, none⟩

def isOpen (state : CircuitBreakerState) (now : Instant) : Bool :=
  state.openedUntil.any fun openedUntil => now < openedUntil

/-- `record_failure`, and whether it returns. -/
def recordFailure (state : CircuitBreakerState) (threshold recoverySeconds : ℤ) (now : Instant) :
    Bool × CircuitBreakerState :=
  let counted := { state with consecutiveFailures := state.consecutiveFailures + 1 }
  if threshold ≤ counted.consecutiveFailures then
    match plusSeconds now recoverySeconds with
    | some openedUntil => (true, { counted with openedUntil := some openedUntil })
    | none => (false, counted)
  else (true, counted)

def recordSuccess (_ : CircuitBreakerState) : CircuitBreakerState := fresh

end CircuitBreakerState

/-- `provider_name` and `model_name`. -/
structure ProviderNames where
  providerName : String
  modelName : String
deriving DecidableEq

structure Provider where
  primary : ProviderNames
  fallback : ProviderNames
  failureThreshold : ℤ
  recoverySeconds : ℤ
  state : CircuitBreakerState
  names : ProviderNames

/-- A call with what its providers make of it: `none` where the primary raises. -/
structure ProviderCall (Contract : Type) where
  now : Instant
  primary : Option Contract
  fallback : Contract

/-- The contract, `none` where `OverflowError` is raised, and whether the primary was asked. -/
structure Answer (Contract : Type) where
  contract : Option Contract
  callsPrimary : Bool
deriving DecidableEq

variable {Contract : Type}

/-- `_generate_with_fallback`. -/
def Provider.generateWithFallback (provider : Provider) (call : ProviderCall Contract)
    (callsPrimary : Bool) : Answer Contract × Provider :=
  (⟨some call.fallback, callsPrimary⟩, { provider with names := provider.fallback })

def generateRoadmap (provider : Provider) (call : ProviderCall Contract) :
    Answer Contract × Provider :=
  if provider.state.isOpen call.now then provider.generateWithFallback call false
  else
    match call.primary with
    | some contract =>
        (⟨some contract, true⟩,
          { provider with state := provider.state.recordSuccess, names := provider.primary })
    | none =>
        let recorded :=
          provider.state.recordFailure provider.failureThreshold provider.recoverySeconds call.now
        let failing := { provider with state := recorded.2 }
        if recorded.1 then failing.generateWithFallback call true else (⟨none, true⟩, failing)

def outcome (done : ProviderCall Contract × Answer Contract) : Outcome :=
  if done.2.callsPrimary then if done.1.primary.isSome then .succeeded else .failed else .skipped

/-- The attempts of the calls, the last one first. -/
def attempts (provider : Provider) (calls : List (ProviderCall Contract)) : List (Attempt ℤ) :=
  ((calls.zip (answers generateRoadmap provider calls)).map fun done =>
    ⟨done.1.now.val, outcome done⟩).reverse

/-- When the breaker closes after a failure, in microseconds. -/
def reopens (recoverySeconds time : ℤ) : ℤ := time + max 1 recoverySeconds * 1000000

/-- A failure of the primary at the time of the call can be recorded. -/
def Representable (recoverySeconds : ℤ) (call : ProviderCall Contract) : Prop :=
  call.primary = none → (plusSeconds call.now (max 1 recoverySeconds)).isSome

/-- The provider is as it was made, but for its names and the state of its breaker. -/
structure Configured (primary fallback : ProviderNames) (failureThreshold recoverySeconds : ℤ)
    (provider : Provider) : Prop where
  primary_eq : provider.primary = primary
  fallback_eq : provider.fallback = fallback
  failureThreshold_eq : provider.failureThreshold = max 1 failureThreshold
  recoverySeconds_eq : provider.recoverySeconds = max 1 recoverySeconds

theorem plusSeconds_val {now opened : Instant} {seconds : ℤ}
    (later : plusSeconds now seconds = some opened) :
    (opened.val : ℤ) = now.val + seconds * 1000000 := by
  unfold plusSeconds at later
  dsimp only at later
  split_ifs at later with bounds
  cases later
  exact Int.toNat_of_nonneg bounds.1

section Step

variable {failureThreshold recoverySeconds : ℤ} {primary fallback : ProviderNames}
  {provider : Provider} {state : CircuitBreakerState} {history : List (Attempt ℤ)}
  {call : ProviderCall Contract}

end Step

section Program

/-- The provider over OpenAI and its stub has the names, the settings and the breaker of this
one. -/
structure Same (settings : Settings) (other : ResilientLLMProvider) (provider : Provider) :
    Prop where
  primary : provider.primary = ⟨"openai", settings.openaiModel⟩
  fallback : provider.fallback = ⟨"claude_stub", settings.anthropicModel⟩
  names : provider.names = ⟨other.providerName, other.modelName⟩
  failureThreshold : provider.failureThreshold = other.failureThreshold
  recoverySeconds : provider.recoverySeconds = other.recoverySeconds
  counted : provider.state.consecutiveFailures = other.state.consecutiveFailures
  opened : provider.state.openedUntil.map (fun opened => (opened.val : ℤ)) =
    other.state.openedUntil

variable {settings : Settings} {other : ResilientLLMProvider} {provider : Provider}
  {payload : ProviderPayload} {response : OpenAIResponse} {now : Instant}
  {fallback : RoadmapContract}

theorem same_generateWithFallback (same : Same settings other provider)
    (stub : stubGenerateRoadmap settings payload = .ok fallback) (primary : Option RoadmapContract)
    (callsPrimary : Bool) :
    (other.generateWithFallback settings payload callsPrimary).2.contract.toOption =
        (provider.generateWithFallback ⟨now, primary, fallback⟩ callsPrimary).1.contract ∧
      Same settings (other.generateWithFallback settings payload callsPrimary).1
        (provider.generateWithFallback ⟨now, primary, fallback⟩ callsPrimary).2 := by
  rw [ResilientLLMProvider.generateWithFallback, stub]
  exact ⟨rfl, same.primary, same.fallback, same.fallback, same.failureThreshold,
    same.recoverySeconds, same.counted, same.opened⟩

theorem same_recordFailure (same : Same settings other provider)
    (later : (plusSeconds now provider.recoverySeconds).isSome) :
    (provider.state.recordFailure provider.failureThreshold provider.recoverySeconds now).1 =
        true ∧
      Same settings
        { other with
          state := other.state.recordFailure other.failureThreshold other.recoverySeconds now }
        { provider with
          state := (provider.state.recordFailure provider.failureThreshold
            provider.recoverySeconds now).2 } := by
  rcases Option.isSome_iff_exists.mp later with ⟨opened, isLater⟩
  rw [CircuitBreakerState.recordFailure, isLater, Roadmaps.CircuitBreakerState.recordFailure,
    same.counted, same.failureThreshold]
  dsimp only
  rw [Nat.cast_succ]
  split_ifs with reached
  · refine ⟨rfl, same.primary, same.fallback, same.names, rfl, same.recoverySeconds, rfl, ?_⟩
    rw [← same.recoverySeconds]
    exact congrArg some (plusSeconds_val isLater)
  · exact ⟨rfl, same.primary, same.fallback, same.names, rfl, same.recoverySeconds, rfl,
      same.opened⟩

/-- Where a failure can be recorded, the provider of the program calls as this one does. -/
theorem same_generateRoadmap (same : Same settings other provider)
    (stub : stubGenerateRoadmap settings payload = .ok fallback)
    (raises : ∀ error, openAIGenerateRoadmap response = .error error → error.isLLMProviderError)
    (later : (plusSeconds now provider.recoverySeconds).isSome) :
    (other.generateRoadmap settings payload now response).2.contract.toOption =
        (generateRoadmap provider
          ⟨now, (openAIGenerateRoadmap response).toOption, fallback⟩).1.contract ∧
      Same settings (other.generateRoadmap settings payload now response).1
        (generateRoadmap provider
          ⟨now, (openAIGenerateRoadmap response).toOption, fallback⟩).2 := by
  have isOpen : provider.state.isOpen now = other.state.isOpen now := by
    rw [CircuitBreakerState.isOpen, Roadmaps.CircuitBreakerState.isOpen, ← same.opened]
    cases provider.state.openedUntil with
    | none => rfl
    | some opened => simp
  rw [ResilientLLMProvider.generateRoadmap, generateRoadmap]
  dsimp only
  rw [isOpen]
  cases other.state.isOpen now with
  | true => exact same_generateWithFallback same stub _ false
  | false =>
      cases answered : openAIGenerateRoadmap response with
      | ok contract =>
          exact ⟨rfl, same.primary, same.fallback, same.primary, same.failureThreshold,
            same.recoverySeconds, rfl, rfl⟩
      | error error =>
          rcases same_recordFailure same later with ⟨recorded, failing⟩
          simp only [Except.toOption, if_pos (raises error answered), if_pos recorded]
          exact same_generateWithFallback failing stub none true

end Program

/-- A call at a second of some day, with a contract of the primary or none. -/
def callAt (second : ℕ) (primary : Option String) : ProviderCall String :=
  ⟨Fin.ofNat _ (63900000000000000 + second * 1000000), primary, "fallback"⟩

/-- The second failure opens the breaker, a probe at the end of the recovery time fails and opens
it again, and the next one succeeds. -/
def sampleCalls : List (ProviderCall String) :=
  [callAt 0 none, callAt 10 none, callAt 39 (some "unseen"), callAt 40 none,
    callAt 69 (some "unseen"), callAt 70 (some "contract"), callAt 71 none,
    callAt 72 (some "contract")]

end ImigrAI.Roadmaps.Resilient
