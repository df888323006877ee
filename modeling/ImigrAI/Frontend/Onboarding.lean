import ImigrAI.Assessments.Processing

/-!
# The onboarding form

`onboardingSchema` and `toProfileJson` of the onboarding page, and what the engine makes of the
profile that the page posts. The page names the fields in English and the engine requires them
under their Portuguese names, so what the form asks for is never read.
-/

namespace ImigrAI.Frontend

open Python Assessments ImmigrationRules

/-- What a field of the posted object holds. A number of the page is a binary64 number. -/
inductive JsValue where
  | number (value : PyFloat)
  | string (value : String)
  | array (items : List String)

/-- The property `length`, in UTF-16 code units. -/
def utf16Length (text : String) : ℕ :=
  (text.toList.map fun char => if char.toNat < 65536 then 1 else 2).sum

/-- The white space and line terminators that `trim` removes. -/
def isJsSpace (char : Char) : Bool :=
  [0x9, 0xA, 0xB, 0xC, 0xD, 0x20, 0xA0, 0x1680, 0x2028, 0x2029, 0x202F, 0x205F, 0x3000,
    0xFEFF].contains char.toNat || (0x2000 ≤ char.toNat && char.toNat ≤ 0x200A)

def trim (text : String) : String :=
  String.ofList ((text.toList.dropWhile isJsSpace).rdropWhile isJsSpace)

/-- The values of the form, its numbers after the coercion by `Number`. -/
structure FormValues where
  age : PyFloat
  education : String
  occupation : String
  yearsExperience : PyFloat
  languages : String
  languageLevel : String
  income : PyFloat
  countriesInterest : String
  programId : String

structure Issue where
  path : String
  message : String
deriving DecidableEq

/-- A check of a schema: the values that fail it, and what is said of them. The checks that follow
are those of `zod`, which is a library: they are written after its documentation. -/
structure Check (Checked : Type) where
  fails : Checked → Bool
  message : String

def minimum (bound : ℚ) (message : String) : Check PyFloat where
  fails value := value.numeric.lt (.finite bound)
  message := message

def maximum (bound : ℚ) (message : String) : Check PyFloat where
  fails value := (Numeric.finite bound).lt value.numeric
  message := message

def minLength (bound : ℕ) (message : String) : Check String where
  fails value := utf16Length value < bound
  message := message

def isHexDigit (char : Char) : Bool :=
  char.isDigit || ('a' ≤ char && char ≤ 'f') || ('A' ≤ char && char ≤ 'F')

/-- Groups of hexadecimal digits joined by hyphens. -/
def isUuid (text : String) : Bool :=
  let groups := text.toList.splitOn '-'
  groups.map List.length = [8, 4, 4, 4, 12] && groups.all fun digits => digits.all isHexDigit

def uuid (message : String) : Check String where
  fails value := !isUuid value
  message := message

def issuesOf {Checked : Type} (path : String) (checks : List (Check Checked)) (value : Checked) :
    List Issue :=
  (checks.filter fun check => check.fails value).map fun check => ⟨path, check.message⟩

/-- NaN is not a number for the schema, whatever else is checked. -/
def numberIssues (path : String) (checks : List (Check PyFloat)) (value : PyFloat) : List Issue :=
  if value = .nan then [⟨path, "Expected number, received nan"⟩] else issuesOf path checks value

/-- The issues that `onboardingSchema` finds. -/
def onboardingIssues (values : FormValues) : List Issue :=
  numberIssues "age" [minimum 18 "Idade minima: 18", maximum 80 "Idade maxima: 80"] values.age ++
    issuesOf "education" [minLength 1 "Selecione a escolaridade"] values.education ++
    issuesOf "occupation" [minLength 2 "Profissao obrigatoria"] values.occupation ++
    numberIssues "yearsExperience"
      [minimum 0 "Anos de experiencia nao pode ser negativo", maximum 50 "Valor muito alto"]
      values.yearsExperience ++
    issuesOf "languages" [minLength 2 "Informe ao menos um idioma"] values.languages ++
    issuesOf "languageLevel" [minLength 1 "Selecione o nivel"] values.languageLevel ++
    numberIssues "income" [minimum 0 "Renda deve ser positiva"] values.income ++
    issuesOf "countriesInterest" [minLength 2 "Informe ao menos um pais"]
      values.countriesInterest ++
    issuesOf "programId" [uuid "Selecione um programa valido"] values.programId

/-- Form values that `onboardingSchema` accepts. -/
structure OnboardingValues extends FormValues where
  accepted : onboardingIssues toFormValues = []

/-- `text.split(",").map((item) => item.trim())`. -/
def trimmedItems (text : String) : List String := (Text.split ',' text).map trim

def toProfileJson (values : OnboardingValues) : List (String × JsValue) :=
  [("age", .number values.age),
    ("education", .string values.education),
    ("occupation", .string values.occupation),
    ("years_experience", .number values.yearsExperience),
    ("languages", .array (trimmedItems values.languages)),
    ("language_level", .string values.languageLevel),
    ("income_current", .number values.income),
    ("countries_interest", .array (trimmedItems values.countriesInterest))]

/-- The number that `json.loads` reads where `JSON.stringify` wrote one: whole numbers below
`1e21` are written in full, from their shortest digits, and what is not finite is `null`. -/
def receivedNumber : PyFloat → Value
  | .finite double =>
      if double.value.isInt ∧ |double.value| < 10 ^ 21 then
        let digits := shortest |double.value|
        .int (double.value.num.sign * (digits.1 * 10 ^ digits.2.toNat : ℕ))
      else .float (.finite double)
  | .negativeZero => .int 0
  | .infinity _ | .nan => .none

def receivedValue : JsValue → Value
  | .number value => receivedNumber value
  | .string value => .str value
  | .array items => .list (items.map Value.str)

/-- The profile of the assessment that the page asks for, as the service reads it from the body
of the request. -/
def postedProfile (values : OnboardingValues) : Dict :=
  (toProfileJson values).map fun field => (field.1, receivedValue field.2)

theorem lookup_received (key : String) (object : List (String × JsValue)) :
    Value.lookup key (object.map fun field => (field.1, receivedValue field.2)) =
      (object.lookup key).map receivedValue := by
  induction object with
  | nil => rfl
  | cons field rest ih =>
      rcases field with ⟨name, value⟩
      rw [List.map_cons, Value.lookup, List.lookup_cons, ih]
      by_cases same : name = key
      · simp [same]
      · rw [if_neg same, beq_false_of_ne (Ne.symm same)]

/-- None of the names that the page writes is one that the engine requires. -/
theorem lookup_postedProfile_required (values : OnboardingValues) {field : String}
    (required : field ∈ requiredProfileFields) :
    Value.lookup field (postedProfile values) = none := by
  rw [postedProfile, lookup_received, Option.map_eq_none_iff]
  simp only [requiredProfileFields, List.mem_cons, List.not_mem_nil, or_false] at required
  rcases required with rfl | rfl | rfl | rfl | rfl <;> rfl

theorem missingFields_postedProfile (values : OnboardingValues) :
    missingFields (postedProfile values) = requiredProfileFields := by
  apply List.filter_eq_self.mpr
  intro field required
  rw [lookup_postedProfile_required values required]
  rfl

section Engine

variable [UnicodeData]

theorem normalizeProfile_postedProfile (values : OnboardingValues) :
    normalizeProfile (postedProfile values) = .error (missingFieldsError requiredProfileFields) := by
  have first : "idade" ∈ requiredProfileFields := by simp [requiredProfileFields]
  rw [normalizeProfile_of_lookup_eq_none first (lookup_postedProfile_required values first),
    missingFields_postedProfile]

variable [Hashlib]

theorem evaluate_postedProfile (values : OnboardingValues) (version : ProgramVersionInput)
    (ruleGroups : List RuleGroupInput) :
    evaluate (postedProfile values) version ruleGroups =
      .error (missingFieldsError requiredProfileFields) := by
  rw [evaluate, normalizeProfile_postedProfile]
  rfl

/-- Whatever the tables hold, the assessment of a form is computed on no version. -/
theorem computeAssessment_postedProfile (tables : Tables) (assessment : RequestedAssessment)
    (values : OnboardingValues) (result : UUID × ScoreComputationResult) :
    computeAssessment tables
      { assessment with profileSnapshot := some (postedProfile values) } ≠ .ok result := by
  simp only [computeAssessment]
  cases getActiveProgramVersion tables assessment.programId assessment.requestedAt with
  | none => simp
  | some version =>
      simp only [evaluateVersion, evaluate_postedProfile]
      split_ifs <;> simp

/-- No form that the page accepts can be scored. -/
theorem onboarding_never_scored (values : OnboardingValues) :
    normalizeProfile (postedProfile values) =
        .error (.scoreEngineInput ("Missing required profile fields: " ++
          "escolaridade, idade, idiomas, profissao, renda_atual")) ∧
      ∀ (tables : Tables) (assessment : RequestedAssessment)
        (result : UUID × ScoreComputationResult),
        computeAssessment tables
          { assessment with profileSnapshot := some (postedProfile values) } ≠ .ok result := by
  refine ⟨?_, ?_⟩
  · rw [normalizeProfile_postedProfile]
    rfl
  · intro tables assessment result
    exact computeAssessment_postedProfile tables assessment values result

end Engine

def sampleValues : OnboardingValues where
  age := .finite ⟨29, 29, 0, by decide, by decide, by decide, by norm_num⟩
  education := "graduacao"
  occupation := "Engenheiro de Software"
  yearsExperience := .finite ⟨3, 3, 0, by decide, by decide, by decide, by norm_num⟩
  languages := "Ingles, Frances"
  languageLevel := "C1"
  income := .finite ⟨9500, 9500, 0, by decide, by decide, by decide, by norm_num⟩
  countriesInterest := "Canada, Portugal"
  programId := "6f9619ff-8b86-4d01-b42d-00cf4fc964ff"
  accepted := by decide

theorem sampleValues_refused :
    ¬∃ normalized, @normalizeProfile UnicodeData.ascii (postedProfile sampleValues) =
      .ok normalized := by
  rintro ⟨normalized, accepted⟩
  have refused : @normalizeProfile UnicodeData.ascii (postedProfile sampleValues) =
      .error (missingFieldsError requiredProfileFields) := rfl
  rw [refused] at accepted
  cases accepted

end ImigrAI.Frontend
