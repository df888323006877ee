import ImigrAI.Foundations.Fallible
import ImigrAI.Python.Dumps

/-!
# Normalised profiles

`ScoreEngine._normalize_profile` and its helpers: the required fields, the conversions of age
and income, the ranks of education and language levels, and where each of them raises.
-/

namespace ImigrAI.Assessments

open Python Fallible

/-- What the engine raises. -/
inductive EngineError where
  /-- `ScoreEngineInputError` with its message. -/
  | scoreEngineInput (message : String)
  /-- An exception of a built-in conversion. -/
  | python (error : PyError)
deriving DecidableEq

/-- A built-in operation inside the engine. -/
def builtin {Result : Type} : Except PyError Result → Except EngineError Result
  | .ok result => .ok result
  | .error error => .error (.python error)

/-- A profile, and every other dictionary of the engine. -/
abbrev Dict := List (String × Value)

def requiredProfileFields : List String :=
  ["idade", "escolaridade", "profissao", "idiomas", "renda_atual"]

def cefrToNumeric : List (String × ℤ) :=
  [("A1", 1), ("A2", 2), ("B1", 3), ("B2", 4), ("C1", 5), ("C2", 6)]

/-- Keys are the values of the floats in the source. -/
def ieltsToCefrNumeric : List (ℚ × ℤ) :=
  [(4, 2), (9 / 2, 3), (5, 3), (11 / 2, 4), (6, 4), (13 / 2, 5), (7, 5), (15 / 2, 6), (8, 6),
    (17 / 2, 6), (9, 6)]

def educationRank : List (String × ℤ) :=
  [("fundamental", 1), ("ensino_medio", 2), ("tecnico", 3), ("bachelor", 4), ("graduacao", 4),
    ("master", 5), ("phd", 6), ("doutorado", 6)]

variable [UnicodeData]

/-- The level under a CEFR code. -/
def cefrLevel (code : String) : Option ℤ := cefrToNumeric.lookup code

/-- The level under an IELTS score. -/
def ieltsLevel : PyFloat → Option ℤ
  | .finite score => ieltsToCefrNumeric.lookup score.value
  | _ => none

def unsupportedPayload (payload : Value) : EngineError :=
  .scoreEngineInput ("Unsupported language payload: " ++ payload.text)

def languageLevelToNumeric (payload : Value) : Except EngineError ℤ :=
  match payload with
  | .bool _ | .int _ | .float _ => builtin payload.toInt
  | .str text =>
      let level := UnicodeData.upper (Text.strip text)
      match cefrLevel level with
      | some numeric => .ok numeric
      | none => do
          let number ← builtin (Value.str level).toFloat
          builtin (Value.float number).toInt
  | .dict entries =>
      let framework :=
        UnicodeData.upper ((Value.lookup "framework" entries).getD (.str "CEFR")).text
      let level := (Value.lookup "level" entries).getD .none
      if framework = "CEFR" then
        match cefrLevel (UnicodeData.upper level.text) with
        | some numeric => .ok numeric
        | none => .error (.scoreEngineInput ("Invalid CEFR level: " ++ level.text))
      else if framework = "IELTS" then do
        let score ← builtin level.toFloat
        match ieltsLevel (score.roundTo 1) with
        | some numeric => .ok numeric
        | none => .error (.scoreEngineInput ("Unsupported IELTS level: " ++ level.text))
      else .error (unsupportedPayload payload)
  | .none | .list _ => .error (unsupportedPayload payload)

/-- The loop of `_normalize_languages`. -/
def normalizeLanguageEntries : Dict → Dict → Except EngineError Dict
  | [], normalized => .ok normalized
  | (language, payload) :: rest, normalized => do
      let numeric ← languageLevelToNumeric payload
      let languageKey := UnicodeData.lower (Text.strip language)
      normalizeLanguageEntries rest (Value.assign languageKey (.int numeric) normalized)

def normalizeLanguages : Value → Except EngineError Dict
  | .dict entries => normalizeLanguageEntries entries []
  | _ => .error (.scoreEngineInput "idiomas must be an object keyed by language code")

/-- The fields `profissao_codigo` and `profissao_nome`. -/
def professionFields : Value → String × String
  | .dict entries =>
      (Text.strip ((Value.lookup "codigo" entries).getD (.str "")).text,
        Text.strip ((Value.lookup "nome" entries).getD (.str "")).text)
  | profession => (Text.strip profession.text, Text.strip profession.text)

/-- The required fields that a profile lacks. -/
def missingFields (profile : Dict) : List String :=
  requiredProfileFields.filter fun field => (Value.lookup field profile).isNone

def missingFieldsError (missing : List String) : EngineError :=
  .scoreEngineInput ("Missing required profile fields: " ++
    ", ".intercalate (missing.insertionSort (· ≤ ·)))

def normalizeProfile (profile : Dict) : Except EngineError Dict :=
  match Value.lookup "idade" profile, Value.lookup "escolaridade" profile,
    Value.lookup "profissao" profile, Value.lookup "idiomas" profile,
    Value.lookup "renda_atual" profile with
  | some idade, some escolaridade, some profissao, some idiomas, some rendaAtual => do
      let age ← builtin idade.toInt
      let income ← builtin rendaAtual.toFloat
      let education := UnicodeData.lower (Text.strip escolaridade.text)
      let profession := professionFields profissao
      let languages ← normalizeLanguages idiomas
      .ok (profile
        |> Value.assign "idade" (.int age)
        |> Value.assign "renda_atual" (.float income)
        |> Value.assign "escolaridade" (.str education)
        |> Value.assign "escolaridade_rank" (.int ((educationRank.lookup education).getD 0))
        |> Value.assign "profissao_codigo" (.str profession.1)
        |> Value.assign "profissao_nome" (.str profession.2)
        |> Value.assign "idiomas_nivel" (.dict languages))
  | _, _, _, _, _ => .error (missingFieldsError (missingFields profile))

/-- A profile that lacks a required field is refused with the names of all that it lacks. -/
theorem normalizeProfile_of_lookup_eq_none {profile : Dict} {field : String}
    (required : field ∈ requiredProfileFields) (lacks : Value.lookup field profile = none) :
    normalizeProfile profile = .error (missingFieldsError (missingFields profile)) := by
  unfold normalizeProfile
  split
  · simp only [requiredProfileFields, List.mem_cons, List.not_mem_nil, or_false] at required
    rcases required with rfl | rfl | rfl | rfl | rfl <;> simp_all
  · rfl

omit [UnicodeData] in
theorem builtin_eq_ok_iff {Result : Type} {computation : Except PyError Result} {result : Result} :
    builtin computation = .ok result ↔ computation = .ok result := by
  cases computation <;> simp [builtin]

/-- What stands in the normalised profile under a key other than `idade`, where the
normalisation succeeds. -/
def normalizedField (profile : Dict) (key : String) : Option Value :=
  if key = "idiomas_nivel" then do
    let languages ← (normalizeLanguages (← Value.lookup "idiomas" profile)).toOption
    some (.dict languages)
  else if key = "profissao_nome" then do
    some (.str (professionFields (← Value.lookup "profissao" profile)).2)
  else if key = "profissao_codigo" then do
    some (.str (professionFields (← Value.lookup "profissao" profile)).1)
  else if key = "escolaridade_rank" then do
    let education := UnicodeData.lower (Text.strip (← Value.lookup "escolaridade" profile).text)
    some (.int ((educationRank.lookup education).getD 0))
  else if key = "escolaridade" then do
    some (.str (UnicodeData.lower (Text.strip (← Value.lookup "escolaridade" profile).text)))
  else if key = "renda_atual" then do
    let income ← (← Value.lookup "renda_atual" profile).toFloat.toOption
    some (.float income)
  else Value.lookup key profile

theorem normalizeProfile_eq_ok {profile normalized : Dict}
    (done : normalizeProfile profile = .ok normalized) :
    (∃ idade age, Value.lookup "idade" profile = some idade ∧ idade.toInt = .ok age ∧
      Value.lookup "idade" normalized = some (.int age)) ∧
      ∀ key, key ≠ "idade" → Value.lookup key normalized = normalizedField profile key := by
  unfold normalizeProfile at done
  split at done
  · next idade escolaridade profissao idiomas rendaAtual idadeFound escolaridadeFound
      profissaoFound idiomasFound rendaFound =>
      rcases bind_eq_ok_iff.mp done with ⟨age, ageRead, done⟩
      rcases bind_eq_ok_iff.mp done with ⟨income, incomeRead, done⟩
      rcases bind_eq_ok_iff.mp done with ⟨languages, languagesRead, done⟩
      cases done
      refine ⟨⟨idade, age, idadeFound, builtin_eq_ok_iff.mp ageRead, ?_⟩, ?_⟩
      · simp [Value.lookup_assign]
      · intro key other
        simp only [Value.lookup_assign, other, if_false, normalizedField, escolaridadeFound,
          profissaoFound, idiomasFound, rendaFound, languagesRead, Except.toOption,
          builtin_eq_ok_iff.mp incomeRead, Option.bind_eq_bind, Option.bind_some]
  · exact absurd done (by simp)

theorem normalizedField_assign_idade (profile : Dict) (value : Value) {key : String}
    (other : key ≠ "idade") :
    normalizedField (Value.assign "idade" value profile) key = normalizedField profile key := by
  simp [normalizedField, Value.lookup_assign, other]

/-- Profiles that differ in the age only are normalised alike but for the age. -/
theorem normalizeProfile_assign_idade {profile normalized : Dict} {value : Value}
    (done : normalizeProfile (Value.assign "idade" value profile) = .ok normalized) :
    (∃ age, value.toInt = .ok age ∧ Value.lookup "idade" normalized = some (.int age)) ∧
      ∀ key, key ≠ "idade" → Value.lookup key normalized = normalizedField profile key := by
  rcases normalizeProfile_eq_ok done with ⟨⟨idade, age, found, read, stored⟩, rest⟩
  rw [Value.lookup_assign, if_pos rfl] at found
  cases found
  refine ⟨⟨age, read, stored⟩, fun key other => ?_⟩
  rw [rest key other, normalizedField_assign_idade profile value other]

end ImigrAI.Assessments
