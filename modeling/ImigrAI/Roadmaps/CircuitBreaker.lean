import ImigrAI.Foundations.Runs
import ImigrAI.Roadmaps.Generation

/-!
# The circuit breaker over successive roadmaps

A provider that is kept from call to call does not ask OpenAI while its circuit is open. Every
execution of `process_roadmap` builds a provider whose circuit is closed, so what failed before
is forgotten and every roadmap that is to be generated asks OpenAI.
-/

namespace ImigrAI.Roadmaps

open Python Runs Streaks

/-- A call of the primary provider. -/
structure PrimaryCall where
  startedAt : Instant
  answeredAt : Instant
  failed : Bool

def primaryFails (response : OpenAIResponse) : Bool :=
  match openAIGenerateRoadmap response with
  | .ok _ => false
  | .error error => error.isLLMProviderError

def primaryCall (call : GenerationCall) : PrimaryCall :=
  ⟨call.now, call.answeredAt, primaryFails call.response⟩

section Kept

variable {settings : Settings} {provider : ResilientLLMProvider} {payload : ProviderPayload}
  {now : Instant} {response : OpenAIResponse} {callsPrimary : Bool}

theorem generateWithFallback_keeps :
    (provider.generateWithFallback settings payload callsPrimary).1.state = provider.state ∧
      (provider.generateWithFallback settings payload callsPrimary).1.failureThreshold =
        provider.failureThreshold ∧
      (provider.generateWithFallback settings payload callsPrimary).1.recoverySeconds =
        provider.recoverySeconds ∧
      (provider.generateWithFallback settings payload callsPrimary).2.callsPrimary =
        callsPrimary := by
  rw [ResilientLLMProvider.generateWithFallback]
  cases stubGenerateRoadmap settings payload with
  | ok contract => exact ⟨rfl, rfl, rfl, rfl⟩
  | error error => exact ⟨rfl, rfl, rfl, rfl⟩

theorem generateRoadmap_of_open (isOpen : provider.state.isOpen now = true) :
    (provider.generateRoadmap settings payload now response).1.state = provider.state ∧
      (provider.generateRoadmap settings payload now response).2.callsPrimary = false := by
  rw [ResilientLLMProvider.generateRoadmap, if_pos isOpen]
  exact ⟨generateWithFallback_keeps.1, generateWithFallback_keeps.2.2.2⟩

/-- What a call makes of a circuit that is not open. -/
theorem generateRoadmap_of_closed (closed : provider.state.isOpen now = false) :
    (provider.generateRoadmap settings payload now response).2.callsPrimary = true ∧
      ((primaryFails response = true ∧
          (provider.generateRoadmap settings payload now response).1.state =
            provider.state.recordFailure provider.failureThreshold provider.recoverySeconds now) ∨
        (primaryFails response = false ∧
          ((provider.generateRoadmap settings payload now response).1.state = .fresh ∨
            (provider.generateRoadmap settings payload now response).1.state =
              provider.state))) := by
  rw [ResilientLLMProvider.generateRoadmap, closed, if_neg (by simp), primaryFails]
  cases openAIGenerateRoadmap response with
  | ok contract => exact ⟨rfl, Or.inr ⟨rfl, Or.inl rfl⟩⟩
  | error error =>
      dsimp only
      cases error.isLLMProviderError with
      | true =>
          rw [if_pos rfl]
          exact ⟨generateWithFallback_keeps.2.2.2, Or.inl ⟨rfl, generateWithFallback_keeps.1⟩⟩
      | false => exact ⟨rfl, Or.inr ⟨rfl, Or.inr rfl⟩⟩

theorem settings_generateRoadmap :
    (provider.generateRoadmap settings payload now response).1.failureThreshold =
        provider.failureThreshold ∧
      (provider.generateRoadmap settings payload now response).1.recoverySeconds =
        provider.recoverySeconds := by
  rw [ResilientLLMProvider.generateRoadmap]
  split
  · exact ⟨generateWithFallback_keeps.2.1, generateWithFallback_keeps.2.2.1⟩
  · split
    · exact ⟨rfl, rfl⟩
    · split
      · exact ⟨generateWithFallback_keeps.2.1, generateWithFallback_keeps.2.2.1⟩
      · exact ⟨rfl, rfl⟩

end Kept

/-- A provider with the calls of its primary so far, the last one first. -/
structure Kept where
  provider : ResilientLLMProvider
  calls : List PrimaryCall

/-- A call of the provider, with the payload of some roadmap. -/
def Kept.step (settings : Settings) (kept : Kept) (action : ProviderPayload × GenerationCall) :
    Kept :=
  let generated :=
    kept.provider.generateRoadmap settings action.1 action.2.now action.2.response
  { provider := generated.1
    calls :=
      if generated.2.callsPrimary then primaryCall action.2 :: kept.calls else kept.calls }

/-- The counter is at least the number of failures in a row, and when these reach the threshold
the circuit is open from the last of them on. -/
structure Counts (threshold recoverySeconds : ℤ) (kept : Kept) : Prop where
  threshold_eq : kept.provider.failureThreshold = threshold
  recoverySeconds_eq : kept.provider.recoverySeconds = recoverySeconds
  streak_le : streak (·.failed) kept.calls ≤ kept.provider.state.consecutiveFailures
  opened : InARow (·.failed) threshold.toNat kept.calls → ∀ last ∈ kept.calls.head?,
    kept.provider.state.openedUntil = some (last.startedAt.val + recoverySeconds * 1000000)

theorem counts_step {settings : Settings} {threshold recoverySeconds : ℤ} (positive : 1 ≤ threshold)
    (kept : Kept) (action : ProviderPayload × GenerationCall)
    (counts : Counts threshold recoverySeconds kept) :
    Counts threshold recoverySeconds (kept.step settings action) := by
  rcases action with ⟨payload, call⟩
  have kept_settings := @settings_generateRoadmap settings kept.provider payload call.now
    call.response
  cases isOpen : kept.provider.state.isOpen call.now with
  | true =>
      have same := @generateRoadmap_of_open settings kept.provider payload call.now call.response
        isOpen
      have calls : (kept.step settings (payload, call)).calls = kept.calls := by
        simp [Kept.step, same.2]
      have state : (kept.step settings (payload, call)).provider.state = kept.provider.state :=
        same.1
      refine ⟨kept_settings.1.trans counts.threshold_eq,
        kept_settings.2.trans counts.recoverySeconds_eq, ?_, ?_⟩
      · rw [calls, state]
        exact counts.streak_le
      · rw [calls, state]
        exact counts.opened
  | false =>
      have asked := @generateRoadmap_of_closed settings kept.provider payload call.now
        call.response isOpen
      have calls : (kept.step settings (payload, call)).calls = primaryCall call :: kept.calls := by
        simp [Kept.step, asked.1]
      refine ⟨kept_settings.1.trans counts.threshold_eq,
        kept_settings.2.trans counts.recoverySeconds_eq, ?_, ?_⟩
      · rw [calls]
        rcases asked.2 with ⟨fails, state⟩ | ⟨succeeds, -⟩
        · have state' : (kept.step settings (payload, call)).provider.state = _ := state
          rw [state', streak_cons_of_pos (by simpa [primaryCall] using fails)]
          exact Nat.succ_le_succ counts.streak_le
        · rw [streak_cons_of_neg (by simp [primaryCall, succeeds])]
          exact Nat.zero_le _
      · rw [calls]
        intro row last isLast
        cases isLast
        rw [inARow_iff_le_streak] at row
        rcases asked.2 with ⟨fails, state⟩ | ⟨succeeds, -⟩
        · have state' : (kept.step settings (payload, call)).provider.state = _ := state
          rw [streak_cons_of_pos (by simpa [primaryCall] using fails)] at row
          have enough := counts.streak_le
          have reached : kept.provider.failureThreshold ≤
              kept.provider.state.consecutiveFailures + 1 := by
            rw [counts.threshold_eq]
            omega
          rw [state', CircuitBreakerState.recordFailure, if_pos reached, counts.recoverySeconds_eq]
          rfl
        · rw [streak_cons_of_neg (by simp [primaryCall, succeeds])] at row
          omega

/-- A provider that is kept does not ask OpenAI while less than the recovery time has passed since
the last of as many failures in a row as its threshold asks for. -/
theorem kept_provider_spares_primary (settings : Settings) (provider : ResilientLLMProvider)
    (positive : 1 ≤ provider.failureThreshold)
    (actions : List (ProviderPayload × GenerationCall)) (payload : ProviderPayload)
    (now : Instant) (response : OpenAIResponse) :
    let kept := run (Kept.step settings) ⟨provider, []⟩ actions
    InARow (·.failed) provider.failureThreshold.toNat kept.calls →
      (∀ last ∈ kept.calls.head?,
        (now.val : ℤ) < last.startedAt.val + provider.recoverySeconds * 1000000) →
      (kept.provider.generateRoadmap settings payload now response).2.callsPrimary = false := by
  intro kept row recent
  have initial : Counts provider.failureThreshold provider.recoverySeconds ⟨provider, []⟩ := by
    refine ⟨rfl, rfl, Nat.zero_le _, ?_⟩
    intro _ last isLast
    cases isLast
  have counts : Counts provider.failureThreshold provider.recoverySeconds kept :=
    invariant_run (counts_step positive) initial actions
  apply And.right
  apply generateRoadmap_of_open
  cases calls : kept.calls with
  | nil =>
      rw [calls] at row
      have short := row.1
      rw [List.length_nil] at short
      omega
  | cons last earlier =>
      have isLast : last ∈ kept.calls.head? := by simp [calls]
      rw [CircuitBreakerState.isOpen, counts.opened row last isLast]
      simpa using recent last isLast

/-- An execution of `process_roadmap`, with the row that it loads. -/
structure Execution where
  loaded : Option LoadedRoadmap
  call : GenerationCall

def Execution.processed (settings : Settings) (execution : Execution) : Processed :=
  processRoadmap settings execution.loaded execution.call

/-- The calls of the primary provider in the worker process so far, the last one first. -/
def work (settings : Settings) (calls : List PrimaryCall) (execution : Execution) :
    List PrimaryCall :=
  if (execution.processed settings).callsPrimary then primaryCall execution.call :: calls
  else calls

/-- Less than the recovery time has passed since the last of as many failures in a row as the
threshold asks for. -/
def Recovering (settings : Settings) (calls : List PrimaryCall) (now : Instant) : Prop :=
  ∃ last earlier, last :: earlier <:+ calls ∧
    InARow (·.failed) (max 1 settings.llmCircuitBreakerFailureThreshold).toNat
      (last :: earlier) ∧
    (now.val : ℤ) <
      last.answeredAt.val + max 1 settings.llmCircuitBreakerRecoverySeconds * 1000000

/-- While the primary provider recovers it is not called, and a roadmap that is generated comes
from the fallback. -/
def LeavesPrimary (settings : Settings) (calls : List PrimaryCall) (execution : Execution) : Prop :=
  Recovering settings calls execution.call.now →
    (execution.processed settings).callsPrimary = false ∧
      ((execution.processed settings).stored = true →
        ∀ roadmap ∈ (execution.processed settings).roadmap,
          roadmap.llmProvider = some "claude_stub")

/-- The execution has a roadmap to generate and OpenAI to ask. -/
def HasToGenerate (settings : Settings) (execution : Execution) : Prop :=
  settings.llmProvider = .openai ∧ settings.openaiApiKey.any (· ≠ "") ∧
    ∃ loaded, execution.loaded = some loaded ∧ ToGenerate loaded

/-- No roadmap has to be generated while the primary provider recovers. -/
def NothingToGenerate (settings : Settings) (calls : List PrimaryCall) (execution : Execution) :
    Prop :=
  Recovering settings calls execution.call.now → ¬ HasToGenerate settings execution

section Built

variable {settings : Settings}

theorem buildLLMProvider_eq_openai (openai : settings.llmProvider = .openai)
    (key : settings.openaiApiKey.any (· ≠ "")) :
    ∃ provider, buildLLMProvider settings = .ok (some provider) ∧
      provider.state = .fresh := by
  rw [buildLLMProvider, openai]
  dsimp only
  rw [if_pos key]
  exact ⟨_, rfl, rfl⟩

theorem buildLLMProvider_eq_stub {provider : Option ResilientLLMProvider}
    (other : ¬ (settings.llmProvider = .openai ∧ settings.openaiApiKey.any (· ≠ "")))
    (built : buildLLMProvider settings = .ok provider) : provider = none := by
  rw [buildLLMProvider] at built
  cases named : settings.llmProvider with
  | claude =>
      rw [named] at built
      cases built
      rfl
  | openai =>
      rw [named] at built
      dsimp only at built
      rw [if_neg fun key => other ⟨named, key⟩] at built
      cases built

/-- The circuit of a provider that was just built is closed. -/
theorem callsPrimary_of_hasToGenerate {execution : Execution}
    (hasTo : HasToGenerate settings execution) :
    (execution.processed settings).callsPrimary = true := by
  rcases hasTo with ⟨openai, key, loaded, isLoaded, toGenerate⟩
  rcases buildLLMProvider_eq_openai openai key with ⟨provider, built, fresh⟩
  rcases processRoadmap_of_toGenerate execution.call toGenerate built with ⟨profile, -, calls, -⟩
  have closed : provider.state.isOpen execution.call.now = false := by
    rw [fresh]
    rfl
  rw [Execution.processed, isLoaded, calls]
  exact (generateRoadmap_of_closed closed).1

/-- Without OpenAI to ask, a roadmap that is generated comes from the stub. -/
theorem spared_of_not_hasToGenerate {execution : Execution}
    (notHasTo : ¬ HasToGenerate settings execution) :
    (execution.processed settings).callsPrimary = false ∧
      ((execution.processed settings).stored = true →
        ∀ roadmap ∈ (execution.processed settings).roadmap,
          roadmap.llmProvider = some "claude_stub") := by
  rw [Execution.processed]
  cases isLoaded : execution.loaded with
  | none =>
      refine ⟨rfl, ?_⟩
      intro stored
      cases stored
  | some loaded =>
      by_cases toGenerate : ToGenerate loaded
      · cases built : buildLLMProvider settings with
        | error error =>
            have idle := processRoadmap_of_not_built loaded execution.call built
            refine ⟨idle.1, ?_⟩
            intro stored
            rw [idle.2] at stored
            cases stored
        | ok provider =>
            have stub : provider = none := by
              apply buildLLMProvider_eq_stub _ built
              intro openai
              exact notHasTo ⟨openai.1, openai.2, loaded, isLoaded, toGenerate⟩
            subst stub
            rcases processRoadmap_of_toGenerate execution.call toGenerate built with
              ⟨profile, -, calls, storedIff, roadmapEq⟩
            refine ⟨calls, ?_⟩
            intro stored roadmap isRoadmap
            rcases storedIff.mp stored with ⟨applied, storing⟩
            rw [roadmapEq applied storing] at isRoadmap
            cases isRoadmap
            rcases storeContract_eq_ok_iff.mp storing with ⟨contract, -, -, applying⟩
            exact (applyGeneratedContract_eq_ok applying).2
      · have idle := @processRoadmap_of_not_toGenerate settings loaded execution.call toGenerate
        refine ⟨idle.1, ?_⟩
        intro stored
        rw [idle.2] at stored
        cases stored

end Built

/-- While it recovers the primary provider is left alone in exactly the sequences of executions in
which no roadmap has to be generated then. -/
theorem leavesPrimary_iff_nothingToGenerate (settings : Settings) (executions : List Execution) :
    Along (work settings) (LeavesPrimary settings) [] executions ↔
      Along (work settings) (NothingToGenerate settings) [] executions := by
  have agree : ∀ calls execution,
      LeavesPrimary settings calls execution ↔ NothingToGenerate settings calls execution := by
    intro calls execution
    constructor
    · intro leaves recovering hasTo
      have called := callsPrimary_of_hasToGenerate hasTo
      rw [(leaves recovering).1] at called
      cases called
    · intro nothing recovering
      exact spared_of_not_hasToGenerate (nothing recovering)
  constructor
  · exact Along.imp fun calls execution => (agree calls execution).mp
  · exact Along.imp fun calls execution => (agree calls execution).mpr

section Sample

/-- OpenAI does not answer to a roadmap that is started at this second. -/
def unanswered (second : ℕ) : Execution where
  loaded := pendingRoadmap
  call := {
    now := Fin.ofNat _ (second * 1000000)
    response := .timeout
    answeredAt := Fin.ofNat _ (second * 1000000 + 45000000)
    completedAt := Fin.ofNat _ (second * 1000000 + 46000000) }

/-- The fourth of four roadmaps in a row asks OpenAI again, five seconds after the third failure. -/
theorem circuit_closed_again :
    ¬ Along (work defaultSettings) (LeavesPrimary defaultSettings) []
      [unanswered 0, unanswered 50, unanswered 100, unanswered 150] := by
  rintro ⟨-, -, -, leaves, -⟩
  have hasTo (second : ℕ) : HasToGenerate defaultSettings (unanswered second) := by
    refine ⟨rfl, by decide, pendingRoadmap, rfl, ?_, rfl⟩
    rintro ⟨completed, -⟩
    cases completed
  have called (calls : List PrimaryCall) (second : ℕ) :
      work defaultSettings calls (unanswered second) =
        primaryCall (unanswered second).call :: calls := by
    rw [work, callsPrimary_of_hasToGenerate (hasTo second)]
    rfl
  rw [called, called, called] at leaves
  have recovering : Recovering defaultSettings [primaryCall (unanswered 100).call,
      primaryCall (unanswered 50).call, primaryCall (unanswered 0).call]
      (unanswered 150).call.now := by
    refine ⟨primaryCall (unanswered 100).call, _, List.suffix_rfl, ?_, by decide⟩
    rw [inARow_iff_le_streak]
    decide
  have again := callsPrimary_of_hasToGenerate (hasTo 150)
  rw [(leaves recovering).1] at again
  cases again

end Sample

end ImigrAI.Roadmaps
