import ImigrAI.Foundations.Arrangements
import ImigrAI.Roadmaps.Generation

/-!
# The steps that are stored

Of a contract the service checks the version and that no two steps have the same order. The
dependencies and the gaps are stored as they come, so the steps are well formed exactly if the
contract was, as those of the stub are.
-/

namespace ImigrAI.Roadmaps

open Python Assessments Relation Arrangements

theorem duplicateOrder_eq_none_iff {seenOrders orders : List ℤ} :
    duplicateOrder seenOrders orders = none ↔
      orders.Nodup ∧ ∀ stepOrder ∈ orders, stepOrder ∉ seenOrders := by
  induction orders generalizing seenOrders with
  | nil => simp [duplicateOrder]
  | cons stepOrder rest ih =>
      rw [duplicateOrder]
      split_ifs with seen
      · simp [seen]
      · rw [ih, List.nodup_cons]
        constructor
        · rintro ⟨distinct, apart⟩
          refine ⟨⟨fun again => apart stepOrder again (by simp), distinct⟩, ?_⟩
          intro other mem
          rcases List.mem_cons.mp mem with rfl | mem
          · exact seen
          · exact fun already => apart other mem (List.mem_cons_of_mem _ already)
        · rintro ⟨⟨fresh, distinct⟩, apart⟩
          refine ⟨distinct, ?_⟩
          intro other mem already
          rcases List.mem_cons.mp already with rfl | already
          · exact fresh mem
          · exact apart other (List.mem_cons_of_mem _ mem) already

theorem validateContract_eq_ok_iff {settings : Settings} {contract : RoadmapContract} :
    validateContract settings contract = .ok () ↔
      contract.roadmapSchemaVersion = settings.roadmapSchemaVersion ∧
        (contract.passosPriorizados.map (·.stepOrder)).Nodup := by
  rw [validateContract]
  split_ifs with mismatch
  · simp [mismatch]
  · have accepted := @duplicateOrder_eq_none_iff [] (contract.passosPriorizados.map (·.stepOrder))
    simp only [List.not_mem_nil, not_false_eq_true, implies_true, and_true] at accepted
    rw [← accepted]
    cases duplicateOrder [] (contract.passosPriorizados.map (·.stepOrder)) with
    | none => simpa using mismatch
    | some stepOrder => simp

/-- The contract is stored: it has the version of the settings, no order twice, and nothing that
does not fit its column. -/
def Accepted (settings : Settings) (contract : RoadmapContract) : Prop :=
  contract.roadmapSchemaVersion = settings.roadmapSchemaVersion ∧
    (contract.passosPriorizados.map (·.stepOrder)).Nodup ∧ FitsText contract.objetivo ∧
    ∀ step ∈ contract.passosPriorizados, FitsColumns (roadmapStep step)

theorem exists_storeContract_iff {settings : Settings} {running : Roadmap}
    {generation : Generation} {completedAt : Instant} {contract : RoadmapContract}
    (returned : generation.contract = .ok contract) :
    (∃ roadmap, storeContract settings running generation completedAt = .ok roadmap) ↔
      Accepted settings contract := by
  constructor
  · rintro ⟨roadmap, storing⟩
    rcases storeContract_eq_ok_iff.mp storing with ⟨other, otherReturned, valid, applying⟩
    rw [returned] at otherReturned
    cases otherReturned
    rw [applyGeneratedContract] at applying
    split_ifs at applying with fits
    rcases validateContract_eq_ok_iff.mp valid with ⟨version, distinct⟩
    refine ⟨version, distinct, fits.1, ?_⟩
    intro step mem
    exact fits.2 _ (List.mem_map_of_mem mem)
  · rintro ⟨version, distinct, summary, columns⟩
    have fits : FitsText contract.objetivo ∧
        ∀ step ∈ contract.passosPriorizados.map roadmapStep, FitsColumns step := by
      refine ⟨summary, ?_⟩
      intro row mem
      rcases List.mem_map.mp mem with ⟨step, stepMem, rfl⟩
      exact columns step stepMem
    have applied : ∃ roadmap, applyGeneratedContract running contract generation.providerName
        generation.modelName completedAt = .ok roadmap := by
      rw [applyGeneratedContract]
      exact ⟨_, if_pos fits⟩
    rcases applied with ⟨roadmap, applying⟩
    have valid := validateContract_eq_ok_iff.mpr ⟨version, distinct⟩
    exact ⟨roadmap, storeContract_eq_ok_iff.mpr ⟨contract, returned, valid, applying⟩⟩

/-- One order depends on another. -/
def DependsOn (steps : List RoadmapStep) (stepOrder dependency : ℤ) : Prop :=
  ∃ step ∈ steps, step.stepOrder = stepOrder ∧ dependency ∈ step.dependenciesJson

/-- The orders are distinct, every dependency is the order of another step, none leads back, and
every gap is a critical one. -/
structure WellFormedSteps (gapsCriticos : List String) (steps : List RoadmapStep) : Prop where
  orders : (steps.map (·.stepOrder)).Nodup
  dependencies : ∀ step ∈ steps, ∀ dependency ∈ step.dependenciesJson,
    dependency ≠ step.stepOrder ∧ dependency ∈ steps.map (·.stepOrder)
  acyclic : ∀ stepOrder, ¬ TransGen (DependsOn steps) stepOrder stepOrder
  gaps : ∀ step ∈ steps, ∀ gap ∈ step.relatedGap, gap ∈ gapsCriticos

/-- A step with the order needs this dependency. -/
def Requires (contract : RoadmapContract) (stepOrder dependencia : ℤ) : Prop :=
  ∃ step ∈ contract.passosPriorizados, step.stepOrder = stepOrder ∧
    dependencia ∈ step.dependencias

/-- The steps can be done one after the other, each after those it depends on. -/
def Feasible (contract : RoadmapContract) : Prop :=
  ∃ arranged, arranged.Perm (contract.passosPriorizados.map (·.stepOrder)) ∧
    Arranged (Requires contract) arranged

/-- Every gap that is named, with a text that is not empty, is a critical one. -/
def NamesCriticalGaps (gapsCriticos : List String) (contract : RoadmapContract) : Prop :=
  ∀ step ∈ contract.passosPriorizados, ∀ gap ∈ step.gapRelacionado, gap ≠ "" →
    gap ∈ gapsCriticos

section Stored

variable {contract : RoadmapContract} {gapsCriticos : List String}

theorem dependsOn_iff_requires {stepOrder dependency : ℤ} :
    DependsOn (contract.passosPriorizados.map roadmapStep) stepOrder dependency ↔
      Requires contract stepOrder dependency := by
  constructor
  · rintro ⟨row, rowMem, isOrder, mem⟩
    rcases List.mem_map.mp rowMem with ⟨step, stepMem, rfl⟩
    exact ⟨step, stepMem, isOrder, mem⟩
  · rintro ⟨step, stepMem, isOrder, mem⟩
    exact ⟨roadmapStep step, List.mem_map_of_mem stepMem, isOrder, mem⟩

theorem orders_roadmapStep :
    (contract.passosPriorizados.map roadmapStep).map (·.stepOrder) =
      contract.passosPriorizados.map (·.stepOrder) := by
  rw [List.map_map]
  rfl

theorem relatedGap_eq_some_iff {step : RoadmapStepContract} {gap : String} :
    (roadmapStep step).relatedGap = some gap ↔ step.gapRelacionado = some gap ∧ gap ≠ "" := by
  rw [roadmapStep]
  dsimp only
  split_ifs with empty
  · rw [empty]
    constructor
    · intro impossible
      cases impossible
    · rintro ⟨same, nonempty⟩
      exact absurd (Option.some.inj same).symm nonempty
  · constructor
    · intro same
      refine ⟨same, ?_⟩
      rintro rfl
      exact empty same
    · exact And.left

/-- A step may depend on no order but those of the steps, and on none through others. -/
theorem closed_acyclic_iff :
    (Closed (Requires contract) (contract.passosPriorizados.map (·.stepOrder)) ∧
        Acyclic (Requires contract) (contract.passosPriorizados.map (·.stepOrder))) ↔
      (∀ step ∈ contract.passosPriorizados, ∀ dependencia ∈ step.dependencias,
        dependencia ≠ step.stepOrder ∧
          dependencia ∈ contract.passosPriorizados.map (·.stepOrder)) ∧
      ∀ stepOrder, ¬ TransGen (Requires contract) stepOrder stepOrder := by
  constructor
  · rintro ⟨closed, acyclic⟩
    have noCycle : ∀ stepOrder, ¬ TransGen (Requires contract) stepOrder stepOrder := by
      intro stepOrder cycle
      rcases TransGen.head'_iff.mp cycle with ⟨-, ⟨step, stepMem, rfl, -⟩, -⟩
      exact acyclic step.stepOrder (List.mem_map_of_mem stepMem) cycle
    refine ⟨?_, noCycle⟩
    intro step stepMem dependencia mem
    have requires : Requires contract step.stepOrder dependencia := ⟨step, stepMem, rfl, mem⟩
    refine ⟨?_, closed step.stepOrder (List.mem_map_of_mem stepMem) dependencia requires⟩
    rintro rfl
    exact noCycle _ (TransGen.single requires)
  · rintro ⟨known, noCycle⟩
    refine ⟨?_, fun stepOrder _ => noCycle stepOrder⟩
    rintro stepOrder - dependencia ⟨step, stepMem, -, mem⟩
    exact (known step stepMem dependencia mem).2

/-- The rows of a contract without repeated orders. -/
theorem wellFormedSteps_iff (distinct : (contract.passosPriorizados.map (·.stepOrder)).Nodup) :
    WellFormedSteps gapsCriticos (contract.passosPriorizados.map roadmapStep) ↔
      Feasible contract ∧ NamesCriticalGaps gapsCriticos contract := by
  have relation : DependsOn (contract.passosPriorizados.map roadmapStep) = Requires contract := by
    funext stepOrder dependency
    exact propext dependsOn_iff_requires
  rw [Feasible, exists_arranged_iff distinct, closed_acyclic_iff]
  constructor
  · intro wellFormed
    refine ⟨⟨?_, ?_⟩, ?_⟩
    · intro step stepMem dependencia mem
      have known := wellFormed.dependencies _ (List.mem_map_of_mem stepMem) dependencia mem
      rwa [orders_roadmapStep] at known
    · rw [← relation]
      exact wellFormed.acyclic
    · intro step stepMem gap named nonempty
      apply wellFormed.gaps _ (List.mem_map_of_mem stepMem)
      exact relatedGap_eq_some_iff.mpr ⟨named, nonempty⟩
  · rintro ⟨⟨known, noCycle⟩, named⟩
    refine ⟨?_, ?_, ?_, ?_⟩
    · rwa [orders_roadmapStep]
    · intro row rowMem dependency mem
      rcases List.mem_map.mp rowMem with ⟨step, stepMem, rfl⟩
      rw [orders_roadmapStep]
      exact known step stepMem dependency mem
    · rwa [relation]
    · intro row rowMem gap related
      rcases List.mem_map.mp rowMem with ⟨step, stepMem, rfl⟩
      rcases relatedGap_eq_some_iff.mp related with ⟨isNamed, nonempty⟩
      exact named step stepMem gap isNamed nonempty

/-- A contract that the provider returns in an execution, with the profile that it is asked
with. -/
def Returns (settings : Settings) (loaded : LoadedRoadmap) (call : GenerationCall)
    (profile : Dict) (contract : RoadmapContract) : Prop :=
  ToGenerate loaded ∧ loaded.profileJson = some profile ∧
    ∃ provider, buildLLMProvider settings = .ok provider ∧
      (generateRoadmap settings provider (buildProviderPayload profile loaded.result)
        call).contract = .ok contract

/-- What the execution stores, if it does, is well formed. -/
def StoresWellFormed (settings : Settings) (loaded : LoadedRoadmap) (call : GenerationCall)
    (gapsCriticos : List String) : Prop :=
  (processRoadmap settings (some loaded) call).stored = true →
    ∀ roadmap ∈ (processRoadmap settings (some loaded) call).roadmap,
      WellFormedSteps gapsCriticos roadmap.steps

/-- The stored steps are well formed exactly if the contract is refused, or if its steps can be
done one after the other and name critical gaps. -/
theorem storesWellFormed_iff {settings : Settings} {loaded : LoadedRoadmap}
    {call : GenerationCall} {profile : Dict} {contract : RoadmapContract}
    (returns : Returns settings loaded call profile contract) :
    StoresWellFormed settings loaded call
        (buildProviderPayload profile loaded.result).gapsCriticos ↔
      (Accepted settings contract → Feasible contract ∧
        NamesCriticalGaps (buildProviderPayload profile loaded.result).gapsCriticos contract) := by
  rcases returns with ⟨toGenerate, found, provider, built, returned⟩
  rcases processRoadmap_of_toGenerate call toGenerate built with
    ⟨other, otherFound, -, storedIff, roadmapEq⟩
  rw [found] at otherFound
  cases otherFound
  rw [exists_storeContract_iff returned] at storedIff
  have steps : ∀ roadmap ∈ (processRoadmap settings (some loaded) call).roadmap,
      Accepted settings contract →
        roadmap.steps = contract.passosPriorizados.map roadmapStep := by
    intro roadmap isRoadmap accepted
    rcases (exists_storeContract_iff returned).mpr accepted with ⟨stored, storing⟩
    rw [roadmapEq stored storing] at isRoadmap
    cases isRoadmap
    rcases storeContract_eq_ok_iff.mp storing with ⟨applied, appliedReturned, -, applying⟩
    rw [returned] at appliedReturned
    cases appliedReturned
    exact (applyGeneratedContract_eq_ok applying).1
  constructor
  · intro wellFormed accepted
    rcases (exists_storeContract_iff returned).mpr accepted with ⟨stored, storing⟩
    have isRoadmap := roadmapEq stored storing
    have rows := wellFormed (storedIff.mpr accepted) stored isRoadmap
    rw [steps stored isRoadmap accepted] at rows
    exact (wellFormedSteps_iff accepted.2.1).mp rows
  · intro sound stored roadmap isRoadmap
    have accepted := storedIff.mp stored
    rw [steps roadmap isRoadmap accepted]
    exact (wellFormedSteps_iff accepted.2.1).mpr (sound accepted)

end Stored

section Stub

theorem stubStep_eq_some {gap : String} {idx : ℕ} {step : RoadmapStepContract}
    (made : stubStep gap idx = some step) :
    step.stepOrder = idx ∧ step.gapRelacionado = some gap ∧
      ∀ dependencia ∈ step.dependencias, 1 < idx ∧ dependencia = idx - 1 := by
  rw [stubStep, RoadmapStepContract.validate] at made
  split_ifs at made with valid
  all_goals
    cases made
    refine ⟨rfl, rfl, ?_⟩
    intro dependencia mem
    have written := (mem_validateDependencias.mp mem).1
    simp_all

theorem stubSteps_eq_some {gaps : List String} {start : ℕ} {steps : List RoadmapStepContract}
    (made : (gaps.zipIdx start).mapM (fun entry => stubStep entry.1 entry.2) = some steps) :
    steps.map (·.stepOrder) = (List.range' start gaps.length).map (fun idx : ℕ => (idx : ℤ)) ∧
      ∀ step ∈ steps, ∃ gap ∈ gaps, ∃ idx, stubStep gap idx = some step := by
  induction gaps generalizing start steps with
  | nil =>
      cases made
      simp
  | cons gap rest ih =>
      rw [List.zipIdx_cons, List.mapM_cons] at made
      rcases Option.bind_eq_some_iff.mp made with ⟨first, firstMade, made⟩
      rcases Option.bind_eq_some_iff.mp made with ⟨later, laterMade, made⟩
      cases made
      rcases ih laterMade with ⟨orders, fromGaps⟩
      refine ⟨?_, ?_⟩
      · rw [List.map_cons, orders, (stubStep_eq_some firstMade).1]
        simp [List.range'_succ]
      · intro step mem
        rcases List.mem_cons.mp mem with rfl | mem
        · exact ⟨gap, by simp, start, firstMade⟩
        · rcases fromGaps step mem with ⟨other, otherMem, idx, otherMade⟩
          exact ⟨other, List.mem_cons_of_mem _ otherMem, idx, otherMade⟩

/-- Steps in a row, of which each needs at most the one before it. -/
theorem arranged_range' {needs : ℤ → ℤ → Prop}
    (one : ∀ (idx : ℕ) (other : ℤ), needs idx other → 1 < idx ∧ other = idx - 1) (count : ℕ) :
    Arranged needs ((List.range' 1 count).map fun idx : ℕ => (idx : ℤ)) := by
  induction count with
  | zero => exact .nil
  | succ count ih =>
      rw [List.range'_concat, List.map_append]
      apply Arranged.snoc ih
      intro other needed
      rcases one _ other needed with ⟨later, rfl⟩
      apply List.mem_map.mpr
      refine ⟨count, ?_, ?_⟩
      · rw [List.mem_range'_1]
        omega
      · push_cast
        omega

/-- The contract of the stub is well formed for all gaps. -/
theorem sound_stubGenerateRoadmap {settings : Settings} {payload : ProviderPayload}
    {contract : RoadmapContract} (generated : stubGenerateRoadmap settings payload = .ok contract) :
    Feasible contract ∧ NamesCriticalGaps payload.gapsCriticos contract := by
  rw [stubGenerateRoadmap] at generated
  split at generated
  · rename_i validated
    cases generated
    rcases Option.bind_eq_some_iff.mp validated with ⟨steps, made, checked⟩
    rw [RoadmapContract.validate] at checked
    split_ifs at checked
    cases checked
    split_ifs at made with noGaps
    · rcases Option.map_eq_some_iff.mp made with ⟨step, only, rfl⟩
      rw [stubOnlyStep, RoadmapStepContract.validate] at only
      split_ifs at only
      cases only
      refine ⟨⟨[1], List.Perm.refl _, .snoc .nil ?_⟩, ?_⟩
      · rintro other ⟨step, mem, -, dependency⟩
        rcases List.mem_singleton.mp mem with rfl
        cases dependency
      · intro step mem gap named
        rcases List.mem_singleton.mp mem with rfl
        cases named
    · rcases stubSteps_eq_some made with ⟨orders, fromGaps⟩
      refine ⟨⟨_, List.Perm.refl _, ?_⟩, ?_⟩
      · rw [orders]
        apply arranged_range'
        rintro idx other ⟨step, mem, isOrder, dependency⟩
        rcases fromGaps step mem with ⟨gap, -, number, stepMade⟩
        rcases stubStep_eq_some stepMade with ⟨isNumber, -, before⟩
        have same : number = idx := by
          rw [isNumber] at isOrder
          exact_mod_cast isOrder
        rw [← same]
        exact before other dependency
      · intro step mem gap named _
        rcases fromGaps step mem with ⟨other, otherMem, number, stepMade⟩
        rw [(stubStep_eq_some stepMade).2.1] at named
        cases named
        exact otherMem
  · cases generated

end Stub

section Sample

def sampleStepJson (stepOrder : ℤ) (dependencias : List Value) : Value :=
  .dict [("step_order", .int stepOrder), ("titulo", .str "Estudar idiomas"),
    ("descricao", .str "Fazer um curso de idiomas."), ("prazo_estimado_semanas", .int 6),
    ("dependencias", .list dependencias), ("risco", .str "medio"),
    ("criterio_conclusao", .str "Certificado obtido.")]

/-- Two steps, of which the second depends on the first and the first on these. -/
def sampleContractJson (dependencias : List Value) : Value :=
  .dict [("roadmap_schema_version", .str "roadmap.v1"), ("objetivo", .str "Subir a pontuacao."),
    ("passos_priorizados",
      .list [sampleStepJson 1 dependencias, sampleStepJson 2 [.int 1]])]

def answered (content : Value) : GenerationCall := ⟨0, .completion (some (some content)), 1, 2⟩

theorem returns_answered {content : Value} {contract : RoadmapContract}
    (read : RoadmapContract.ofValue content = some contract) :
    Returns defaultSettings pendingRoadmap (answered content) [] contract := by
  refine ⟨⟨?_, rfl⟩, rfl, _, rfl, ?_⟩
  · rintro ⟨completed, -⟩
    cases completed
  · simp [generateRoadmap, ResilientLLMProvider.generateRoadmap, CircuitBreakerState.isOpen,
      CircuitBreakerState.fresh, answered, openAIGenerateRoadmap, read]

theorem storesWellFormed_sample :
    ∃ contract, RoadmapContract.ofValue (sampleContractJson []) = some contract ∧
      StoresWellFormed defaultSettings pendingRoadmap (answered (sampleContractJson []))
        (buildProviderPayload [] pendingRoadmap.result).gapsCriticos := by
  have reads : (RoadmapContract.ofValue (sampleContractJson [])).map (fun contract =>
      contract.passosPriorizados.map fun step =>
        (step.stepOrder, step.dependencias, step.gapRelacionado)) =
      some [(1, [], none), (2, [1], none)] := by
    decide +kernel
  rcases Option.map_eq_some_iff.mp reads with ⟨contract, read, steps⟩
  refine ⟨contract, read, (storesWellFormed_iff (returns_answered read)).mpr ?_⟩
  intro _
  have orders : contract.passosPriorizados.map (·.stepOrder) = [1, 2] := by
    simpa [Function.comp_def] using congrArg (List.map Prod.fst) steps
  have known : ∀ step ∈ contract.passosPriorizados, step.gapRelacionado = none ∧
      ∀ dependencia ∈ step.dependencias, step.stepOrder = 2 ∧ dependencia = 1 := by
    intro step mem
    have triple := List.mem_map_of_mem (f := fun step : RoadmapStepContract =>
      (step.stepOrder, step.dependencias, step.gapRelacionado)) mem
    rw [steps] at triple
    rcases List.mem_pair.mp triple with first | second
    · simp_all
    · simp_all
  refine ⟨⟨[1, 2], ?_, .snoc (.snoc .nil ?_) ?_⟩, ?_⟩
  · rw [orders]
  · rintro other ⟨step, mem, isOrder, dependency⟩
    have second := ((known step mem).2 other dependency).1
    omega
  · rintro other ⟨step, mem, -, dependency⟩
    rcases ((known step mem).2 other dependency).2 with rfl
    simp
  · intro step mem gap named
    rw [(known step mem).1] at named
    cases named

/-- Two steps that depend on each other are stored. -/
theorem cyclic_steps_stored :
    ∃ contract,
      RoadmapContract.ofValue (sampleContractJson [.int 2]) = some contract ∧
      Returns defaultSettings pendingRoadmap (answered (sampleContractJson [.int 2])) [] contract ∧
      ¬ StoresWellFormed defaultSettings pendingRoadmap (answered (sampleContractJson [.int 2]))
        (buildProviderPayload [] pendingRoadmap.result).gapsCriticos := by
  have reads : (RoadmapContract.ofValue (sampleContractJson [.int 2])).isSome := by
    decide +kernel
  rcases Option.isSome_iff_exists.mp reads with ⟨contract, read⟩
  refine ⟨contract, read, returns_answered read, ?_⟩
  intro wellFormed
  let processed := processRoadmap defaultSettings (some pendingRoadmap)
    (answered (sampleContractJson [.int 2]))
  have stored : processed.stored = true := by
    decide +kernel
  have rows : processed.roadmap.map (fun roadmap =>
      roadmap.steps.map fun step => (step.stepOrder, step.dependenciesJson)) =
      some [(1, [2]), (2, [1])] := by
    decide +kernel
  rcases Option.map_eq_some_iff.mp rows with ⟨roadmap, isRoadmap, steps⟩
  have dependsOn (stepOrder dependency : ℤ)
      (listed : (stepOrder, [dependency]) ∈ [((1 : ℤ), [(2 : ℤ)]), (2, [1])]) :
      DependsOn roadmap.steps stepOrder dependency := by
    rw [← steps] at listed
    rcases List.mem_map.mp listed with ⟨step, mem, same⟩
    rcases Prod.mk.inj same with ⟨isOrder, dependencies⟩
    exact ⟨step, mem, isOrder, by simp [dependencies]⟩
  have cycle : TransGen (DependsOn roadmap.steps) 1 1 :=
    .tail (.single (dependsOn 1 2 (by simp))) (dependsOn 2 1 (by simp))
  exact (wellFormed stored roadmap isRoadmap).acyclic 1 cycle

end Sample

end ImigrAI.Roadmaps
