import ImigrAI.Foundations.Sorting
import ImigrAI.Python.Value
import Mathlib.Data.List.Dedup

/-!
# The contract of a roadmap

`RoadmapContract` and its steps: values that have passed the validation carry what it checks,
and the strict validation of decoded JSON converts nothing.
-/

namespace ImigrAI.Roadmaps

open Python Sorting

inductive Risco where
  | baixo
  | medio
  | alto
deriving DecidableEq

def Risco.value : Risco → String
  | .baixo => "baixo"
  | .medio => "medio"
  | .alto => "alto"

def validateDependencias (value : List ℤ) : List ℤ :=
  sortBy id (value.filter fun item => 1 ≤ item).dedup

theorem mem_validateDependencias {value : List ℤ} {item : ℤ} :
    item ∈ validateDependencias value ↔ item ∈ value ∧ 1 ≤ item := by
  simp [validateDependencias, mem_sortBy]

structure RoadmapStepContract where
  stepOrder : ℤ
  titulo : String
  descricao : String
  prazoEstimadoSemanas : ℤ
  dependencias : List ℤ
  risco : Risco
  criterioConclusao : String
  gapRelacionado : Option String
  isRequired : Bool
  stepOrder_ge : 1 ≤ stepOrder
  titulo_length : 3 ≤ titulo.length ∧ titulo.length ≤ 180
  descricao_length : 10 ≤ descricao.length
  prazoEstimadoSemanas_ge : 1 ≤ prazoEstimadoSemanas
  dependencias_ge : ∀ dependencia ∈ dependencias, 1 ≤ dependencia
  criterioConclusao_length : 10 ≤ criterioConclusao.length
deriving DecidableEq

structure RoadmapContract where
  roadmapSchemaVersion : String
  objetivo : String
  manualReviewRequired : Bool
  passosPriorizados : List RoadmapStepContract
  roadmapSchemaVersion_length :
    1 ≤ roadmapSchemaVersion.length ∧ roadmapSchemaVersion.length ≤ 16
  objetivo_length : 10 ≤ objetivo.length
  passosPriorizados_ne_nil : passosPriorizados ≠ []
deriving DecidableEq

/-- `RoadmapStepContract(...)`, where `none` stands for a `ValidationError`. -/
def RoadmapStepContract.validate (stepOrder : ℤ) (titulo descricao : String)
    (prazoEstimadoSemanas : ℤ) (dependencias : List ℤ) (risco : Risco)
    (criterioConclusao : String) (gapRelacionado : Option String) (isRequired : Bool) :
    Option RoadmapStepContract :=
  if valid : 1 ≤ stepOrder ∧ (3 ≤ titulo.length ∧ titulo.length ≤ 180) ∧
      10 ≤ descricao.length ∧ 1 ≤ prazoEstimadoSemanas ∧ 10 ≤ criterioConclusao.length then
    some {
      stepOrder := stepOrder
      titulo := titulo
      descricao := descricao
      prazoEstimadoSemanas := prazoEstimadoSemanas
      dependencias := validateDependencias dependencias
      risco := risco
      criterioConclusao := criterioConclusao
      gapRelacionado := gapRelacionado
      isRequired := isRequired
      stepOrder_ge := valid.1
      titulo_length := valid.2.1
      descricao_length := valid.2.2.1
      prazoEstimadoSemanas_ge := valid.2.2.2.1
      dependencias_ge := fun _ mem => (mem_validateDependencias.mp mem).2
      criterioConclusao_length := valid.2.2.2.2 }
  else none

/-- `RoadmapContract(...)`. -/
def RoadmapContract.validate (roadmapSchemaVersion objetivo : String)
    (manualReviewRequired : Bool) (passosPriorizados : List RoadmapStepContract) :
    Option RoadmapContract :=
  if valid : (1 ≤ roadmapSchemaVersion.length ∧ roadmapSchemaVersion.length ≤ 16) ∧
      10 ≤ objetivo.length ∧ passosPriorizados ≠ [] then
    some {
      roadmapSchemaVersion := roadmapSchemaVersion
      objetivo := objetivo
      manualReviewRequired := manualReviewRequired
      passosPriorizados := passosPriorizados
      roadmapSchemaVersion_length := valid.1
      objetivo_length := valid.2.1
      passosPriorizados_ne_nil := valid.2.2 }
  else none

def strictInt : Value → Option ℤ
  | .int value => some value
  | _ => none

def strictStr : Value → Option String
  | .str text => some text
  | _ => none

def strictBool : Value → Option Bool
  | .bool value => some value
  | _ => none

def strictOptionalStr : Value → Option (Option String)
  | .none => some none
  | .str text => some (some text)
  | _ => none

def strictList {Item : Type} (item : Value → Option Item) : Value → Option (List Item)
  | .list items => items.mapM item
  | _ => none

def strictRisco : Value → Option Risco
  | .str "baixo" => some .baixo
  | .str "medio" => some .medio
  | .str "alto" => some .alto
  | _ => none

/-- A field without a default. -/
def requiredField {Field : Type} (entries : List (String × Value)) (read : Value → Option Field)
    (name : String) : Option Field :=
  (Value.lookup name entries).bind read

/-- A field with a default, which is not validated. -/
def defaultedField {Field : Type} (entries : List (String × Value)) (read : Value → Option Field)
    (name : String) (default : Field) : Option Field :=
  match Value.lookup name entries with
  | some value => read value
  | none => some default

/-- `extra="forbid"`. -/
def NoExtra (entries : List (String × Value)) (names : List String) : Prop :=
  ∀ entry ∈ entries, entry.1 ∈ names

instance (entries : List (String × Value)) (names : List String) :
    Decidable (NoExtra entries names) :=
  inferInstanceAs (Decidable (∀ entry ∈ entries, entry.1 ∈ names))

def RoadmapStepContract.ofValue : Value → Option RoadmapStepContract
  | .dict entries =>
      if NoExtra entries ["step_order", "titulo", "descricao", "prazo_estimado_semanas",
          "dependencias", "risco", "criterio_conclusao", "gap_relacionado", "is_required"] then do
        let stepOrder ← requiredField entries strictInt "step_order"
        let titulo ← requiredField entries strictStr "titulo"
        let descricao ← requiredField entries strictStr "descricao"
        let prazoEstimadoSemanas ← requiredField entries strictInt "prazo_estimado_semanas"
        let dependencias ← defaultedField entries (strictList strictInt) "dependencias" []
        let risco ← requiredField entries strictRisco "risco"
        let criterioConclusao ← requiredField entries strictStr "criterio_conclusao"
        let gapRelacionado ← defaultedField entries strictOptionalStr "gap_relacionado" none
        let isRequired ← defaultedField entries strictBool "is_required" true
        validate stepOrder titulo descricao prazoEstimadoSemanas dependencias risco
          criterioConclusao gapRelacionado isRequired
      else none
  | _ => none

/-- `RoadmapContract.model_validate_json`, on what the text decodes to. -/
def RoadmapContract.ofValue : Value → Option RoadmapContract
  | .dict entries =>
      if NoExtra entries ["roadmap_schema_version", "objetivo", "manual_review_required",
          "passos_priorizados"] then do
        let roadmapSchemaVersion ← requiredField entries strictStr "roadmap_schema_version"
        let objetivo ← requiredField entries strictStr "objetivo"
        let manualReviewRequired ←
          defaultedField entries strictBool "manual_review_required" false
        let passosPriorizados ←
          requiredField entries (strictList RoadmapStepContract.ofValue) "passos_priorizados"
        validate roadmapSchemaVersion objetivo manualReviewRequired passosPriorizados
      else none
  | _ => none

end ImigrAI.Roadmaps
