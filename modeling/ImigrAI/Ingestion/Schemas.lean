import ImigrAI.ImmigrationRules.Models

/-!
# The normalised payload

`NormalizedProgramPayload` with its nested models: the JSON form that `model_dump` gives and
the validation of a dictionary. Validation takes the fields in order and collects their errors;
an exception other than a `ValueError` leaves it at once. How pydantic reads a number, a truth
value or an instant, and how it writes an instant, are parameters.
-/

namespace ImigrAI.Ingestion

open Python ImmigrationRules

/-- A `datetime`: what its clock shows, and its offset from UTC in seconds if it is aware. -/
structure Datetime where
  wallClock : Instant
  utcOffset : Option ℤ
deriving DecidableEq

structure NormalizedRuleCondition where
  fieldKey : String
  operator : RuleOperator
  valueJson : Json
  conditionOrder : ℤ
  isRequired : Bool

structure NormalizedRuleOutcome where
  scoreDelta : Decimal
  isBlocking : Bool
  explanationMessage : String
  outcomeCode : Option String

structure NormalizedRuleGroup where
  code : String
  name : String
  description : Option String
  priority : ℤ
  matchOperator : RuleGroupMatchOperator
  conditions : List NormalizedRuleCondition
  outcomes : List NormalizedRuleOutcome

structure NormalizedProgramPayload where
  countryCode : String
  countryName : String
  programCode : String
  programName : String
  sourceUrl : String
  sourceTitle : String
  extractedAt : Datetime
  parserUsed : String
  parserMode : ParserMode
  confidenceScore : Decimal
  manualReviewRequired : Bool
  summaryText : Option String
  metadataJson : JsonObject
  sections : List JsonObject
  ruleGroups : List NormalizedRuleGroup

/-- What the models take from pydantic. -/
class Pydantic where
  toInt : Value → Option ℤ
  toBool : Value → Option Bool
  toDecimal : Value → Option Decimal
  toDatetime : Value → Option Datetime
  isoformat : Datetime → String

def textJson (text : String) : Json := ⟨.str text, trivial⟩

def optionalTextJson : Option String → Json
  | some text => textJson text
  | none => ⟨.none, trivial⟩

def intJson (number : ℤ) : Json := ⟨.int number, trivial⟩

def boolJson (truth : Bool) : Json := ⟨.bool truth, trivial⟩

def listJson (items : List Json) : Json where
  value := .list (items.map (·.value))
  wellFormed := Value.itemsWellFormed_of_forall (by
    intro item itemMem
    rcases List.mem_map.mp itemMem with ⟨json, -, rfl⟩
    exact json.wellFormed)

theorem entriesWellFormed_map (fields : List (String × Json)) :
    Value.EntriesWellFormed (fields.map fun field => (field.1, field.2.value)) := by
  induction fields with
  | nil => trivial
  | cons field rest ih => exact ⟨field.2.wellFormed, ih⟩

/-- A dictionary with fields of distinct names. -/
def objectJson (fields : List (String × Json)) (names : (fields.map Prod.fst).Nodup) :
    JsonObject where
  entries := fields.map fun field => (field.1, field.2.value)
  wellFormed := ⟨by simpa [Function.comp_def] using names, entriesWellFormed_map fields⟩

def NormalizedRuleCondition.modelDump (condition : NormalizedRuleCondition) : JsonObject :=
  objectJson [("field_key", textJson condition.fieldKey),
    ("operator", textJson condition.operator.value), ("value_json", condition.valueJson),
    ("condition_order", intJson condition.conditionOrder),
    ("is_required", boolJson condition.isRequired)] (by simp)

def NormalizedRuleOutcome.modelDump (outcome : NormalizedRuleOutcome) : JsonObject :=
  objectJson [("score_delta", textJson outcome.scoreDelta.str),
    ("is_blocking", boolJson outcome.isBlocking),
    ("explanation_message", textJson outcome.explanationMessage),
    ("outcome_code", optionalTextJson outcome.outcomeCode)] (by simp)

def NormalizedRuleGroup.modelDump (group : NormalizedRuleGroup) : JsonObject :=
  objectJson [("code", textJson group.code), ("name", textJson group.name),
    ("description", optionalTextJson group.description), ("priority", intJson group.priority),
    ("match_operator", textJson group.matchOperator.value),
    ("conditions", listJson (group.conditions.map fun condition => condition.modelDump.toJson)),
    ("outcomes", listJson (group.outcomes.map fun outcome => outcome.modelDump.toJson))]
    (by simp)

/-- What a validator of the payload may be given. -/
inductive Raw where
  | json (json : Json)
  | datetime (datetime : Datetime)

/-- `model_dump(mode="json")`. -/
def NormalizedProgramPayload.modelDump [Pydantic] (payload : NormalizedProgramPayload) :
    List (String × Raw) :=
  [("country_code", .json (textJson payload.countryCode)),
    ("country_name", .json (textJson payload.countryName)),
    ("program_code", .json (textJson payload.programCode)),
    ("program_name", .json (textJson payload.programName)),
    ("source_url", .json (textJson payload.sourceUrl)),
    ("source_title", .json (textJson payload.sourceTitle)),
    ("extracted_at", .json (textJson (Pydantic.isoformat payload.extractedAt))),
    ("parser_used", .json (textJson payload.parserUsed)),
    ("parser_mode", .json (textJson payload.parserMode.value)),
    ("confidence_score", .json (textJson payload.confidenceScore.str)),
    ("manual_review_required", .json (boolJson payload.manualReviewRequired)),
    ("summary_text", .json (optionalTextJson payload.summaryText)),
    ("metadata_json", .json payload.metadataJson.toJson),
    ("sections", .json (listJson (payload.sections.map (·.toJson)))),
    ("rule_groups", .json (listJson (payload.ruleGroups.map fun group => group.modelDump.toJson)))]

/-- Where in the input an error stands. -/
inductive LocationItem where
  | field (name : String)
  | index (position : ℕ)
deriving DecidableEq

abbrev Location := List LocationItem

/-- Validation of one part: it may report errors and go on, or leave with an exception. -/
abbrev Validation := StateT (List Location) (Except PyError)

/-- How one part of the input is validated. -/
abbrev Validator (Input Result : Type) := Input → Location → Validation (Option Result)

def reject {Result : Type} (location : Location) : Validation (Option Result) := do
  modify (· ++ [location])
  return none

/-- The result of a conversion, or an error at this place. -/
def converted {Result : Type} (location : Location) : Option Result → Validation (Option Result)
  | some result => return some result
  | none => reject location

/-- A value of the input under a name that has no default. -/
def required {Input Result : Type} (get : String → Option Input)
    (validator : Validator Input Result) (location : Location) (name : String) :
    Validation (Option Result) :=
  match get name with
  | some input => validator input (location ++ [.field name])
  | none => reject (location ++ [.field name])

/-- A value of the input under a name that has a default, which is not validated. -/
def defaulted {Input Result : Type} (get : String → Option Input)
    (validator : Validator Input Result) (location : Location) (name : String)
    (default : Result) : Validation (Option Result) :=
  match get name with
  | some input => validator input (location ++ [.field name])
  | none => return some default

section Scalars

variable [Pydantic]

/-- A `str` with its bounds. -/
def strField (minLength : ℕ) (maxLength : Option ℕ) : Validator Json String :=
  fun input location =>
    match input.value with
    | .str text =>
        if minLength ≤ text.length ∧ ∀ bound ∈ maxLength, text.length ≤ bound then
          return some text
        else reject location
    | _ => reject location

/-- A `str | None`. -/
def optionalStrField (maxLength : Option ℕ) : Validator Json (Option String) :=
  fun input location =>
    match input.value with
    | .none => return some none
    | _ => return (← strField 0 maxLength input location).map some

def intField : Validator Json ℤ := fun input location =>
  converted location (Pydantic.toInt input.value)

def boolField : Validator Json Bool := fun input location =>
  converted location (Pydantic.toBool input.value)

def decimalField : Validator Json Decimal := fun input location =>
  converted location (Pydantic.toDecimal input.value)

def anyField : Validator Json Json := fun input _ => return some input

def dictField : Validator Json JsonObject := fun input location =>
  converted location input.object?

/-- A `StrEnum`, by the text of its member. -/
def enumField {Member : Type} (members : List Member) (value : Member → String) :
    Validator Json Member := fun input location =>
  match input.value with
  | .str text => converted location (members.find? fun member => value member = text)
  | _ => reject location

def operatorField : Validator Json RuleOperator :=
  enumField [.eq, .ne, .gt, .gte, .lt, .lte, .between, .in_, .notIn, .exists_] RuleOperator.value

def matchOperatorField : Validator Json RuleGroupMatchOperator :=
  enumField [.all, .any] RuleGroupMatchOperator.value

def parserModeField : Validator Json ParserMode :=
  enumField [.deterministic, .llmFallback] ParserMode.value

/-- The items of a list, each at its index. -/
def validateItems {Result : Type} (item : Validator Json Result) (location : Location) :
    ℕ → List Json → Validation (List (Option Result))
  | _, [] => return []
  | position, first :: rest => do
      let result ← item first (location ++ [.index position])
      return result :: (← validateItems item location (position + 1) rest)

/-- A list with a least length. -/
def listField {Result : Type} (minLength : ℕ) (item : Validator Json Result) :
    Validator Json (List Result) := fun input location =>
  match input.items? with
  | some items => do
      let results ← validateItems item location 0 items
      if items.length < minLength then reject location else return results.mapM id
  | none => reject location

end Scalars

section Models

variable [Pydantic]

/-- A nested model, from the dictionary of its fields. -/
def modelField {Result : Type} (model : (String → Option Json) → Location → Validation (Option Result)) :
    Validator Json Result := fun input location =>
  match input.object? with
  | some object => model object.get? location
  | none => reject location

/-- The fields of `NormalizedRuleCondition`. -/
def validateCondition (get : String → Option Json) (location : Location) :
    Validation (Option NormalizedRuleCondition) := do
  let fieldKey ← required get (strField 1 (some 120)) location "field_key"
  let operator ← required get operatorField location "operator"
  let valueJson ← required get anyField location "value_json"
  let conditionOrder ← defaulted get intField location "condition_order" 1
  let isRequired ← defaulted get boolField location "is_required" true
  return do
    return ⟨← fieldKey, ← operator, ← valueJson, ← conditionOrder, ← isRequired⟩

/-- The fields of `NormalizedRuleOutcome`. -/
def validateOutcome (get : String → Option Json) (location : Location) :
    Validation (Option NormalizedRuleOutcome) := do
  let scoreDelta ← defaulted get decimalField location "score_delta" ⟨false, 0, 0⟩
  let isBlocking ← defaulted get boolField location "is_blocking" false
  let explanationMessage ← required get (strField 3 none) location "explanation_message"
  let outcomeCode ← defaulted get (optionalStrField (some 64)) location "outcome_code" none
  return do
    return ⟨← scoreDelta, ← isBlocking, ← explanationMessage, ← outcomeCode⟩

/-- The fields of `NormalizedRuleGroup`. -/
def validateGroup (get : String → Option Json) (location : Location) :
    Validation (Option NormalizedRuleGroup) := do
  let code ← required get (strField 1 (some 64)) location "code"
  let name ← required get (strField 2 (some 160)) location "name"
  let description ← defaulted get (optionalStrField none) location "description" none
  let priority ← defaulted get intField location "priority" 100
  let matchOperator ← defaulted get matchOperatorField location "match_operator" .all
  let conditions ← required get (listField 1 (modelField validateCondition)) location "conditions"
  let outcomes ← required get (listField 1 (modelField validateOutcome)) location "outcomes"
  return do
    return ⟨← code, ← name, ← description, ← priority, ← matchOperator, ← conditions, ← outcomes⟩

end Models

/-- A field of the payload that only JSON is accepted for. -/
def ofJson {Result : Type} (validator : Validator Json Result) : Validator Raw Result :=
  fun input location =>
    match input with
    | .json json => validator json location
    | .datetime _ => reject location

/-- The validator `normalize_country_code`, after the field's own. -/
def normalizeCountryCode [UnicodeData] (value : String) : String := UnicodeData.upper value

/-- The validator `normalize_program_code`, after the field's own. -/
def normalizeProgramCode [UnicodeData] (value : String) : String :=
  String.ofList ((UnicodeData.upper value).toList.map fun c => if c = '-' then '_' else c)

/-- The validator `ensure_timezone`, which sees the input before the field's own. A JSON value
has no attribute `tzinfo`. -/
def ensureTimezone : Raw → Except PyError Raw
  | .datetime datetime =>
      .ok (.datetime { datetime with utcOffset := some (datetime.utcOffset.getD 0) })
  | .json _ => .error .attributeError

/-- The field `extracted_at`. -/
def extractedAtField [Pydantic] : Validator Raw Datetime := fun input location => do
  match ← (ensureTimezone input : Except PyError Raw) with
  | .datetime datetime => return some datetime
  | .json json => converted location (Pydantic.toDatetime json.value)

/-- The fields of `NormalizedProgramPayload`. -/
def validatePayload [UnicodeData] [Pydantic] (get : String → Option Raw) :
    Validation (Option NormalizedProgramPayload) := do
  let countryCode ← required get (ofJson (strField 2 (some 2))) [] "country_code"
  let countryName ← required get (ofJson (strField 2 (some 120))) [] "country_name"
  let programCode ← required get (ofJson (strField 2 (some 64))) [] "program_code"
  let programName ← required get (ofJson (strField 2 (some 160))) [] "program_name"
  let sourceUrl ← required get (ofJson (strField 0 none)) [] "source_url"
  let sourceTitle ← required get (ofJson (strField 1 (some 255))) [] "source_title"
  let extractedAt ← required get extractedAtField [] "extracted_at"
  let parserUsed ← required get (ofJson (strField 1 (some 64))) [] "parser_used"
  let parserMode ← required get (ofJson parserModeField) [] "parser_mode"
  let confidenceScore ←
    defaulted get (ofJson decimalField) [] "confidence_score" ⟨false, 50, -2⟩
  let manualReviewRequired ← defaulted get (ofJson boolField) [] "manual_review_required" false
  let summaryText ← defaulted get (ofJson (optionalStrField none)) [] "summary_text" none
  let metadataJson ← defaulted get (ofJson dictField) [] "metadata_json" ⟨[], by simp, trivial⟩
  let sections ← defaulted get (ofJson (listField 0 dictField)) [] "sections" []
  let ruleGroups ← required get (ofJson (listField 1 (modelField validateGroup))) [] "rule_groups"
  return do
    return {
      countryCode := normalizeCountryCode (← countryCode)
      countryName := ← countryName
      programCode := normalizeProgramCode (← programCode)
      programName := ← programName
      sourceUrl := ← sourceUrl
      sourceTitle := ← sourceTitle
      extractedAt := ← extractedAt
      parserUsed := ← parserUsed
      parserMode := ← parserMode
      confidenceScore := ← confidenceScore
      manualReviewRequired := ← manualReviewRequired
      summaryText := ← summaryText
      metadataJson := ← metadataJson
      sections := ← sections
      ruleGroups := ← ruleGroups }

/-- What `model_validate` raises. -/
inductive ValidationFailure where
  | validationError (errors : List Location)
  | raised (error : PyError)
deriving DecidableEq

/-- `NormalizedProgramPayload.model_validate`. -/
def modelValidate [UnicodeData] [Pydantic] (input : List (String × Raw)) :
    Except ValidationFailure NormalizedProgramPayload :=
  match (validatePayload fun name => input.lookup name).run [] with
  | .error error => .error (.raised error)
  | .ok (some payload, []) => .ok payload
  | .ok (_, errors) => .error (.validationError errors)

namespace Validation

/-- The validation goes on, whatever errors have been reported. -/
def Total {Result : Type} (validation : Validation Result) : Prop :=
  ∀ errors, ∃ result reported, validation.run errors = .ok (result, reported)

/-- The validation leaves with this exception, whatever errors have been reported. -/
def Raises {Result : Type} (validation : Validation Result) (error : PyError) : Prop :=
  ∀ errors, validation.run errors = .error error

theorem total_pure {Result : Type} (result : Result) : Total (pure result : Validation Result) :=
  fun errors => ⟨result, errors, rfl⟩

theorem total_reject {Result : Type} (location : Location) :
    Total (reject location : Validation (Option Result)) :=
  fun errors => ⟨none, errors ++ [location], rfl⟩

theorem Total.bind_raises {First Result : Type} {first : Validation First}
    {next : First → Validation Result} {error : PyError} (total : Total first)
    (raises : ∀ result, Raises (next result) error) : Raises (first >>= next) error := by
  intro errors
  rcases total errors with ⟨result, reported, run⟩
  rw [StateT.run_bind, run]
  exact raises result reported

theorem Raises.bind {First Result : Type} {first : Validation First} {error : PyError}
    (raises : Raises first error) (next : First → Validation Result) :
    Raises (first >>= next) error := by
  intro errors
  rw [StateT.run_bind, raises errors]
  rfl

end Validation

open Validation

theorem total_strField (minLength : ℕ) (maxLength : Option ℕ) (input : Json)
    (location : Location) : Total (strField minLength maxLength input location) := by
  unfold strField
  split
  · split_ifs
    · exact total_pure _
    · exact total_reject location
  · exact total_reject location

theorem total_required_strField (get : String → Option Raw) (minLength : ℕ)
    (maxLength : Option ℕ) (location : Location) (name : String) :
    Total (required get (ofJson (strField minLength maxLength)) location name) := by
  unfold required
  split
  · next input _ =>
      cases input with
      | json json => exact total_strField minLength maxLength json _
      | datetime datetime => exact total_reject _
  · exact total_reject _

theorem raises_required_extractedAt [Pydantic] {get : String → Option Raw} {json : Json}
    {location : Location} {name : String} (given : get name = some (.json json)) :
    Raises (required get extractedAtField location name) .attributeError := by
  unfold required
  rw [given]
  exact fun _ => rfl

section RoundTrip

variable [UnicodeData] [Pydantic]

theorem raises_validatePayload {get : String → Option Raw} {json : Json}
    (given : get "extracted_at" = some (.json json)) :
    Raises (validatePayload get) .attributeError := by
  -- The six fields before `extracted_at` may be accepted or not.
  refine (total_required_strField _ _ _ _ _).bind_raises fun countryCode => ?_
  refine (total_required_strField _ _ _ _ _).bind_raises fun countryName => ?_
  refine (total_required_strField _ _ _ _ _).bind_raises fun programCode => ?_
  refine (total_required_strField _ _ _ _ _).bind_raises fun programName => ?_
  refine (total_required_strField _ _ _ _ _).bind_raises fun sourceUrl => ?_
  refine (total_required_strField _ _ _ _ _).bind_raises fun sourceTitle => ?_
  exact (raises_required_extractedAt given).bind _

/-- The JSON form of a payload validates to the payload. -/
def RoundTrips (payload : NormalizedProgramPayload) : Prop :=
  modelValidate payload.modelDump = .ok payload

/-- Validating the JSON form raises, since `ensure_timezone` is given a text. -/
theorem modelValidate_modelDump (payload : NormalizedProgramPayload) :
    modelValidate payload.modelDump = .error (.raised .attributeError) := by
  rw [modelValidate, raises_validatePayload rfl]

theorem not_roundTrips (payload : NormalizedProgramPayload) : ¬ RoundTrips payload := by
  rw [RoundTrips, modelValidate_modelDump]
  simp

end RoundTrip

section Sample

local instance : UnicodeData := UnicodeData.ascii

/-- The conversions as far as the sample needs them. -/
local instance samplePydantic : Pydantic where
  toInt | .int number => some number | _ => none
  toBool | .bool truth => some truth | _ => none
  toDecimal
    | .str "0.65" => some ⟨false, 65, -2⟩
    | .str "5" => some ⟨false, 5, 0⟩
    | _ => none
  toDatetime _ := none
  isoformat datetime := datetime.wallClock.isoformat

def samplePayload : NormalizedProgramPayload where
  countryCode := "CA"
  countryName := "Canada"
  programCode := "EXPRESS_ENTRY"
  programName := "Express Entry"
  sourceUrl := "express-entry.html"
  sourceTitle := "Express Entry"
  extractedAt := ⟨63871243200000000, some 0⟩
  parserUsed := "deterministic-v1"
  parserMode := .deterministic
  confidenceScore := ⟨false, 65, -2⟩
  manualReviewRequired := true
  summaryText := none
  metadataJson := ⟨[], by simp, trivial⟩
  sections := []
  ruleGroups := [{
    code := "baseline_publication_guard"
    name := "Baseline guard for CA"
    description := none
    priority := 100
    matchOperator := .all
    conditions := [⟨"escolaridade_rank", .gte, ⟨.int 0, trivial⟩, 1, true⟩]
    outcomes := [⟨⟨false, 5, 0⟩, false, "Baseline rule extracted deterministically.",
      some "BASELINE"⟩] }]

theorem samplePayload_not_roundTrips :
    modelValidate samplePayload.modelDump = .error (.raised .attributeError) ∧
      ¬ RoundTrips samplePayload := by
  have raised := modelValidate_modelDump samplePayload
  refine ⟨raised, ?_⟩
  rw [RoundTrips, raised]
  simp

end Sample

end ImigrAI.Ingestion
