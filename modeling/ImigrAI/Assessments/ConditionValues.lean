import ImigrAI.Assessments.Engine
import ImigrAI.Ingestion.Publisher

/-!
# The values of conditions

A value is written by the endpoint for conditions, by the seeds and by the publisher, and it is
read by the engine and by the listing. Both schemas of the endpoint ask for a dictionary; the
engine asks each operator's value for a shape of its own, and no operator that looks at the
shape asks for a dictionary.
-/

namespace ImigrAI.Assessments

open Python Binary64 ImmigrationRules Ingestion Fallible

section Shapes

variable [UnicodeData]

/-- `float` accepts the value. -/
def IsNumber (value : Value) : Prop := ∃ number, value.toFloat = .ok number

/-- The actual values that an operator is meant for. -/
def Handles : RuleOperator → Value → Prop
  | .gt, actual | .gte, actual | .lt, actual | .lte, actual | .between, actual =>
      actual = .none ∨ IsNumber actual
  | .eq, _ | .ne, _ | .in_, _ | .notIn, _ | .exists_, _ => True

/-- The engine evaluates the operator with this value, whatever it handles. -/
def Evaluates (operator : RuleOperator) (expected : Value) : Prop :=
  ∀ actual, Handles operator actual →
    ∃ matched, evaluateCondition operator.value actual expected = .ok matched

/-- The value has the shape that the operator asks for. -/
def Suits : RuleOperator → Value → Prop
  | .gt, expected | .gte, expected | .lt, expected | .lte, expected => IsNumber expected
  | .between, expected =>
      ∃ lower upper, expected = .list [lower, upper] ∧ IsNumber lower ∧ IsNumber upper
  | .in_, expected | .notIn, expected => ∃ items, expected = .list items
  | .eq, _ | .ne, _ | .exists_, _ => True

variable {actual expected : Value}

/-- Integers that a float holds exactly. -/
theorem isNumber_int {number : ℤ} (small : |number| < 2 ^ 53) : IsNumber (.int number) := by
  have representable : Representable number :=
    ⟨number, 0, small, by norm_num, by norm_num, by simp⟩
  have bounded : |nearest number| < overflowBound := by
    rw [nearest_of_representable representable]
    exact abs_lt_overflowBound representable
  exact ⟨_, if_pos bounded⟩

theorem isNumber_zero : IsNumber (.int 0) := isNumber_int (by norm_num)

theorem compareNumeric_eq_ok_iff {comparison : Numeric → Numeric → Bool}
    (number : IsNumber actual) :
    (∃ matched, compareNumeric comparison actual expected = .ok matched) ↔ IsNumber expected := by
  rcases number with ⟨actualNumber, actualFloat⟩
  have present : actual ≠ .none := by
    rintro rfl
    simp [Value.toFloat] at actualFloat
  rw [compareNumeric.eq_2 _ _ _ present]
  simp only [bind_eq_ok_iff, builtin_eq_ok_iff, actualFloat, Except.ok.injEq]
  constructor
  · rintro ⟨matched, left, -, right, expectedFloat, -⟩
    exact ⟨right, expectedFloat⟩
  · rintro ⟨right, expectedFloat⟩
    exact ⟨_, actualNumber, rfl, right, expectedFloat, rfl⟩

theorem isBetween_eq_ok_iff (number : IsNumber actual) :
    (∃ matched, isBetween actual expected = .ok matched) ↔ Suits .between expected := by
  rcases number with ⟨actualNumber, actualFloat⟩
  have present : actual ≠ .none := by
    rintro rfl
    simp [Value.toFloat] at actualFloat
  constructor
  · rintro ⟨matched, done⟩
    unfold isBetween at done
    split at done
    · exact absurd rfl present
    · rename_i lower upper _
      simp only [bind_eq_ok_iff, builtin_eq_ok_iff] at done
      rcases done with ⟨lowerNumber, lowerFloat, upperNumber, upperFloat, -⟩
      exact ⟨lower, upper, rfl, ⟨lowerNumber, lowerFloat⟩, ⟨upperNumber, upperFloat⟩⟩
    · cases done
  · rintro ⟨lower, upper, rfl, ⟨lowerNumber, lowerFloat⟩, ⟨upperNumber, upperFloat⟩⟩
    rw [isBetween.eq_2 _ _ _ present]
    simp only [bind_eq_ok_iff, builtin_eq_ok_iff]
    exact ⟨_, lowerNumber, lowerFloat, upperNumber, upperFloat, actualNumber, actualFloat, rfl⟩

omit [UnicodeData] in
theorem isIn_eq_ok_iff :
    (∃ matched, isIn actual expected = .ok matched) ↔ ∃ items, expected = .list items := by
  cases expected with
  | list items => cases actual <;> simp [isIn]
  | _ => simp [isIn]

/-- A number operator with a value it is meant for. -/
theorem evaluates_numeric {operator : RuleOperator} (comparison : Numeric → Numeric → Bool)
    (handles : ∀ actual, Handles operator actual ↔ actual = .none ∨ IsNumber actual)
    (runs : ∀ actual, evaluateCondition operator.value actual expected =
      compareNumeric comparison actual expected) :
    Evaluates operator expected ↔ IsNumber expected := by
  simp only [Evaluates, handles, runs]
  constructor
  · intro evaluates
    exact (compareNumeric_eq_ok_iff isNumber_zero).mp (evaluates _ (.inr isNumber_zero))
  · rintro number actual (rfl | actualNumber)
    · exact ⟨false, rfl⟩
    · exact (compareNumeric_eq_ok_iff actualNumber).mpr number

/-- An operator is evaluated for whatever it handles exactly if its value has its shape. -/
theorem evaluates_iff_suits (operator : RuleOperator) (expected : Value) :
    Evaluates operator expected ↔ Suits operator expected := by
  cases operator with
  | gt =>
      exact evaluates_numeric (fun left right => right.lt left) (fun _ => Iff.rfl) (fun _ => rfl)
  | gte =>
      exact evaluates_numeric (fun left right => right.le left) (fun _ => Iff.rfl) (fun _ => rfl)
  | lt => exact evaluates_numeric Numeric.lt (fun _ => Iff.rfl) (fun _ => rfl)
  | lte => exact evaluates_numeric Numeric.le (fun _ => Iff.rfl) (fun _ => rfl)
  | eq | ne | exists_ => exact iff_of_true (fun actual _ => ⟨_, rfl⟩) trivial
  | between =>
      constructor
      · intro evaluates
        exact (isBetween_eq_ok_iff isNumber_zero).mp (evaluates _ (.inr isNumber_zero))
      · rintro suits actual (rfl | actualNumber)
        · exact ⟨false, rfl⟩
        · exact (isBetween_eq_ok_iff actualNumber).mpr suits
  | in_ =>
      constructor
      · intro evaluates
        have evaluated : ∃ matched, isIn (.int 0) expected = .ok matched :=
          evaluates (.int 0) trivial
        exact isIn_eq_ok_iff.mp evaluated
      · intro suits actual _
        exact isIn_eq_ok_iff.mpr suits
  | notIn =>
      constructor
      · intro evaluates
        rcases evaluates .none trivial with ⟨matched, done⟩
        rcases map_eq_ok_iff.mp done with ⟨found, isIn, -⟩
        exact isIn_eq_ok_iff.mp ⟨found, isIn⟩
      · intro suits actual _
        rcases isIn_eq_ok_iff.mpr suits with ⟨found, isIn⟩
        exact ⟨!found, map_eq_ok_iff.mpr ⟨found, isIn, rfl⟩⟩

end Shapes

structure RuleConditionCreate where
  ruleGroupId : UUID
  fieldKey : String
  operator : RuleOperator
  valueJson : JsonObject
  conditionOrder : ℤ
  isRequired : Bool

/-- A condition as the endpoint shows it. -/
structure RuleConditionRead where
  id : UUID
  fieldKey : String
  operator : RuleOperator
  valueJson : JsonObject
  conditionOrder : ℤ
  isRequired : Bool

/-- What the field `rule_group_id` takes from pydantic. -/
class UuidConversion where
  toUuid : Value → Option UUID

def uuidField [UuidConversion] : Validator Json UUID := fun input location =>
  converted location (UuidConversion.toUuid input.value)

section Create

variable [Pydantic] [UuidConversion]

/-- The fields of `RuleConditionCreate`. -/
def validateRuleConditionCreate (get : String → Option Json) :
    Validation (Option RuleConditionCreate) := do
  let ruleGroupId ← required get uuidField [] "rule_group_id"
  let fieldKey ← required get (strField 1 (some 120)) [] "field_key"
  let operator ← required get operatorField [] "operator"
  let valueJson ← required get dictField [] "value_json"
  let conditionOrder ← defaulted get intField [] "condition_order" 1
  let isRequired ← defaulted get boolField [] "is_required" true
  return do
    return ⟨← ruleGroupId, ← fieldKey, ← operator, ← valueJson, ← conditionOrder, ← isRequired⟩

/-- The body of the request as `RuleConditionCreate`. -/
def ruleConditionCreate (body : JsonObject) : Except ValidationFailure RuleConditionCreate :=
  match (validateRuleConditionCreate body.get?).run [] with
  | .error error => .error (.raised error)
  | .ok (some payload, []) => .ok payload
  | .ok (_, errors) => .error (.validationError errors)

end Create

/-- The row of a condition of the endpoint. -/
def createdCondition (id : UUID) (payload : RuleConditionCreate) : RuleCondition where
  id := id
  fieldKey := payload.fieldKey
  operator := payload.operator
  valueJson := payload.valueJson.toJson
  conditionOrder := payload.conditionOrder
  isRequired := payload.isRequired

/-- `RuleConditionRead.model_validate` on a row, whose other columns have the types of the
fields. -/
def ruleConditionRead (condition : RuleCondition) :
    Except ValidationFailure RuleConditionRead :=
  match condition.valueJson.object? with
  | some valueJson => .ok {
      id := condition.id
      fieldKey := condition.fieldKey
      operator := condition.operator
      valueJson := valueJson
      conditionOrder := condition.conditionOrder
      isRequired := condition.isRequired }
  | none => .error (.validationError [[.field "value_json"]])

/-- `list_rule_conditions`, on the rows of a group. -/
def listRuleConditions (conditions : List RuleCondition) :
    Except ValidationFailure (List RuleConditionRead) := conditions.mapM ruleConditionRead

/-- A condition of the fixtures: all of them come first and are required. -/
def seedCondition (fieldKey : String) (operator : RuleOperator) (valueJson : Json) :
    NormalizedRuleCondition := ⟨fieldKey, operator, valueJson, 1, true⟩

/-- The conditions of `MVP_RULE_FIXTURES`. -/
def seedConditions : List NormalizedRuleCondition :=
  -- Canada
  [seedCondition "idade" .gt (intJson 45),
    seedCondition "idade" .between (listJson [intJson 25, intJson 35]),
    seedCondition "escolaridade_rank" .gte (intJson 4),
    seedCondition "profissao_codigo" .in_
      (listJson [textJson "21231", textJson "21300", textJson "11101"]),
    seedCondition "idiomas_nivel.en" .gte (intJson 5),
    seedCondition "idiomas_nivel.fr" .gte (intJson 4),
    seedCondition "renda_atual" .gte (intJson 5000),
    seedCondition "idiomas_nivel.en" .lt (intJson 5),
    -- Australia
    seedCondition "tem_restricao_medica" .eq (boolJson true),
    seedCondition "idade" .between (listJson [intJson 26, intJson 32]),
    seedCondition "escolaridade_rank" .gte (intJson 4),
    seedCondition "profissao_codigo" .in_
      (listJson [textJson "261313", textJson "261312", textJson "225113"]),
    seedCondition "renda_atual" .gte (intJson 4500),
    seedCondition "renda_atual" .lt (intJson 4500),
    -- Portugal
    seedCondition "renda_atual" .gte (intJson 3000),
    seedCondition "idiomas_nivel.pt" .gte (intJson 3),
    seedCondition "profissao_codigo" .exists_ (boolJson true),
    -- Estados Unidos
    seedCondition "anos_experiencia" .gte (intJson 3),
    seedCondition "idiomas_nivel.en" .gte (intJson 4),
    seedCondition "possui_inadmissibilidade" .eq (boolJson true),
    -- Reino Unido
    seedCondition "salario_anual" .gte (intJson 38700),
    seedCondition "idiomas_nivel.en" .gte (intJson 3),
    -- Alemanha
    seedCondition "qualificacao_reconhecida" .eq (boolJson true),
    seedCondition "idiomas_nivel.de" .gte (intJson 3)]

/-- A value is a whole number of moderate size, a list or a truth value, as its operator asks. -/
def SeedShape : RuleOperator → Value → Prop
  | .gt, .int number | .gte, .int number | .lt, .int number => |number| < 2 ^ 53
  | .between, .list [.int lower, .int upper] => |lower| < 2 ^ 53 ∧ |upper| < 2 ^ 53
  | .in_, .list _ | .eq, .bool _ | .exists_, .bool _ => True
  | _, _ => False

theorem seedConditions_shape :
    ∀ seed ∈ seedConditions, SeedShape seed.operator seed.valueJson.value := by
  simp [seedConditions, seedCondition, SeedShape, intJson, boolJson, listJson]

theorem SeedShape.suits [UnicodeData] {operator : RuleOperator} {value : Value}
    (shape : SeedShape operator value) : Suits operator value := by
  unfold SeedShape at shape
  split at shape
  · exact isNumber_int shape
  · exact isNumber_int shape
  · exact isNumber_int shape
  · exact ⟨_, _, rfl, isNumber_int shape.1, isNumber_int shape.2⟩
  · exact ⟨_, rfl⟩
  · trivial
  · trivial
  · exact shape.elim

inductive Writer where
  | endpoint
  | seeds
  | publisher

/-- The condition is one that the writer stores. -/
inductive StoredBy [Pydantic] [UuidConversion] : Writer → RuleCondition → Prop
  | endpoint {body : JsonObject} {payload : RuleConditionCreate} (id : UUID)
      (accepted : ruleConditionCreate body = .ok payload) :
      StoredBy .endpoint (createdCondition id payload)
  | seeds {seed : NormalizedRuleCondition} (id : UUID) (seedMem : seed ∈ seedConditions) :
      StoredBy .seeds (storedCondition id seed)
  | publisher (id : UUID) (condition : NormalizedRuleCondition) :
      StoredBy .publisher (storedCondition id condition)

/-- The row is one that the endpoint can show. -/
def Shown (condition : RuleCondition) : Prop := ∃ read, ruleConditionRead condition = .ok read

/-- The writer agrees with the readers: the engine evaluates what the endpoint accepts, and the
endpoint shows what the engine evaluates. -/
def Agrees [UnicodeData] : Writer → RuleCondition → Prop
  | .endpoint, condition => Evaluates condition.operator condition.valueJson.value
  | .seeds, condition | .publisher, condition =>
      Evaluates condition.operator condition.valueJson.value → Shown condition

def IsDictionary (value : Value) : Prop := ∃ entries, value = .dict entries

/-- The domain that writers and readers share. Nothing in the seeds belongs to it. -/
def Shared [UnicodeData] : Writer → RuleCondition → Prop
  | .endpoint, condition => condition.operator ∈ [.eq, .ne, .exists_]
  | .seeds, _ => False
  | .publisher, condition =>
      IsDictionary condition.valueJson.value ∨
        ¬ Suits condition.operator condition.valueJson.value

theorem shown_iff {condition : RuleCondition} :
    Shown condition ↔ IsDictionary condition.valueJson.value := by
  rcases json : condition.valueJson with ⟨value, wellFormed⟩
  cases value <;> simp [Shown, ruleConditionRead, json, Json.object?, IsDictionary]

/-- The listing of a group fails exactly if one of its values is no dictionary. -/
theorem listRuleConditions_eq_ok_iff {conditions : List RuleCondition} :
    (∃ reads, listRuleConditions conditions = .ok reads) ↔
      ∀ condition ∈ conditions, IsDictionary condition.valueJson.value := by
  rw [← errorOf_eq_none_iff, listRuleConditions, errorOf_mapM, List.findSome?_eq_none_iff]
  apply forall₂_congr
  intro condition _
  rw [errorOf_eq_none_iff]
  exact shown_iff

theorem SeedShape.not_dictionary {operator : RuleOperator} {value : Value}
    (shape : SeedShape operator value) : ¬ IsDictionary value := by
  rintro ⟨entries, rfl⟩
  cases operator <;> exact shape

section Agreement

variable [UnicodeData]

theorem suits_dictionary_iff {operator : RuleOperator} {value : Value}
    (dictionary : IsDictionary value) :
    Suits operator value ↔ operator ∈ [.eq, .ne, .exists_] := by
  rcases dictionary with ⟨entries, rfl⟩
  cases operator <;> simp [Suits, IsNumber, Value.toFloat]

/-- Each writer agrees with the readers exactly on the values of the shared domain. -/
theorem agrees_iff_shared [Pydantic] [UuidConversion] {writer : Writer}
    {condition : RuleCondition} (stored : StoredBy writer condition) :
    Agrees writer condition ↔ Shared writer condition := by
  cases stored with
  | endpoint id accepted =>
      exact (evaluates_iff_suits _ _).trans (suits_dictionary_iff ⟨_, rfl⟩)
  | seeds id seedMem =>
      have shape := seedConditions_shape _ seedMem
      refine iff_of_false ?_ not_false
      intro agrees
      have shown := agrees ((evaluates_iff_suits _ _).mpr shape.suits)
      exact shape.not_dictionary (shown_iff.mp shown)
  | publisher id condition =>
      simp only [Agrees, Shared, evaluates_iff_suits, shown_iff]
      exact imp_iff_or_not

end Agreement

section Sample

local instance valuesUnicode : UnicodeData := UnicodeData.ascii

/-- The conversions as far as the sample needs them. -/
local instance valuesPydantic : Pydantic where
  toInt | .int number => some number | _ => none
  toBool | .bool truth => some truth | _ => none
  toDecimal _ := none
  toDatetime _ := none
  isoformat datetime := datetime.wallClock.isoformat

local instance valuesUuid : UuidConversion where
  toUuid | .str "00000000-0000-0000-0000-000000000002" => some 2 | _ => none

/-- The body of a request for the condition `idade >= {"min": 18}`. -/
def sampleBody : JsonObject :=
  objectJson [("rule_group_id", textJson "00000000-0000-0000-0000-000000000002"),
    ("field_key", textJson "idade"), ("operator", textJson "gte"),
    ("value_json", (objectJson [("min", intJson 18)] (by simp)).toJson)] (by simp)

def sampleCreate : RuleConditionCreate where
  ruleGroupId := 2
  fieldKey := "idade"
  operator := .gte
  valueJson := objectJson [("min", intJson 18)] (by simp)
  conditionOrder := 1
  isRequired := true

/-- The endpoint accepts a value that the engine raises on, and refuses to show the first value
of the seeds, which the engine evaluates. -/
theorem sampleCreate_not_agreed :
    (ruleConditionCreate sampleBody = .ok sampleCreate ∧ Handles .gte (.int 30) ∧
      evaluateCondition RuleOperator.gte.value (.int 30) sampleCreate.valueJson.toJson.value =
        .error (.python .typeError)) ∧
    seedCondition "idade" .gt (intJson 45) ∈ seedConditions ∧ Evaluates .gt (.int 45) ∧
      listRuleConditions [storedCondition 1 (seedCondition "idade" .gt (intJson 45))] =
        .error (.validationError [[.field "value_json"]]) := by
  refine ⟨⟨rfl, .inr (isNumber_int (by norm_num)), ?_⟩, ?_, ?_, rfl⟩
  · decide +kernel
  · simp [seedConditions]
  · exact (evaluates_iff_suits .gt (.int 45)).mpr (isNumber_int (by norm_num))

theorem agrees_iff_shared_sampleCreate :
    Agrees .endpoint (createdCondition 7 sampleCreate) ↔
      Shared .endpoint (createdCondition 7 sampleCreate) := by
  have accepted : ruleConditionCreate sampleBody = .ok sampleCreate := rfl
  exact agrees_iff_shared (.endpoint 7 accepted)

end Sample

end ImigrAI.Assessments
