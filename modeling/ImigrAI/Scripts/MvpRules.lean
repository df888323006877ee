import ImigrAI.Assessments.ConditionValues
import ImigrAI.Scripts.MvpCatalog
import ImigrAI.Scripts.SeedRules

/-!
# The rule fixtures

`MVP_RULE_FIXTURES`: for six countries a program with a version and its rules.
-/

namespace ImigrAI.Scripts

open Python ImmigrationRules Ingestion Assessments

/-- `MVP_PROGRAM_EFFECTIVE_FROM`. -/
def mvpProgramEffectiveFrom : Instant := (Instant.ofDate 2026 1 1).get (by decide)

/-- A group of one condition and one outcome, as all groups of the fixtures are. -/
def singleRule (code name : String) (priority : ℤ) (condition : NormalizedRuleCondition)
    (scoreDelta : Decimal) (isBlocking : Bool) (explanationMessage outcomeCode : String) :
    FixtureGroup where
  code := code
  name := name
  priority := priority
  matchOperator := .all
  conditions := [condition]
  outcomes := [⟨scoreDelta, isBlocking, explanationMessage, some outcomeCode⟩]

def points (points : ℕ) : Decimal := ⟨false, points, 0⟩

def penalty (points : ℕ) : Decimal := ⟨true, points, 0⟩

def mvpFixture (countryCode countryName programCode programName : String)
    (ruleGroups : List FixtureGroup) : Fixture where
  countryCode := countryCode
  countryName := countryName
  programCode := programCode
  programName := programName
  version := "2026.01"
  effectiveFrom := mvpProgramEffectiveFrom
  effectiveTo := none
  ruleGroups := ruleGroups

def mvpRuleFixtures : List (String × Fixture) :=
  [("CA", mvpFixture "CA" "Canada" "CA_IRCC_IMMIGRATION"
      "IRCC Immigration Programs"
      [singleRule "block_age_above_45" "Bloqueio por idade" 10
         (seedCondition "idade" .gt (intJson 45))
         (penalty 100) true "Idade acima do limite do programa" "AGE_BLOCK",
       singleRule "age_ideal" "Faixa etaria ideal" 20
         (seedCondition "idade" .between (listJson [intJson 25, intJson 35]))
         (points 25) false "Idade em faixa ideal" "AGE_BONUS",
       singleRule "education_high" "Escolaridade avancada" 30
         (seedCondition "escolaridade_rank" .gte (intJson 4))
         (points 20) false "Escolaridade competitiva" "EDU_BONUS",
       singleRule "priority_profession" "Profissao prioritaria" 40
         (seedCondition "profissao_codigo" .in_
           (listJson [textJson "21231", textJson "21300", textJson "11101"]))
         (points 20) false "Profissao em lista prioritaria" "PROF_BONUS",
       singleRule "english_high" "Ingles forte" 50
         (seedCondition "idiomas_nivel.en" .gte (intJson 5))
         (points 20) false "Ingles em nivel competitivo" "LANG_EN_BONUS",
       singleRule "french_bonus" "Frances adicional" 60
         (seedCondition "idiomas_nivel.fr" .gte (intJson 4))
         (points 10) false "Frances adiciona pontos" "LANG_FR_BONUS",
       singleRule "income_ok" "Renda adequada" 70
         (seedCondition "renda_atual" .gte (intJson 5000))
         (points 15) false "Renda atual competitiva" "INCOME_BONUS",
       singleRule "english_gap" "Gap de ingles" 80
         (seedCondition "idiomas_nivel.en" .lt (intJson 5))
         (penalty 15) false "Gap critico de idioma ingles" "LANG_EN_GAP"]),
   ("AU", mvpFixture "AU" "Australia" "skilled_independent"
      "Skilled Independent"
      [singleRule "block_medical_issue" "Bloqueio por questao medica" 10
         (seedCondition "tem_restricao_medica" .eq (boolJson true))
         (penalty 100) true "Restricao medica impeditiva" "MEDICAL_BLOCK",
       singleRule "age_bonus" "Faixa etaria ideal" 20
         (seedCondition "idade" .between (listJson [intJson 26, intJson 32]))
         (points 30) false "Idade em faixa ideal" "AGE_BONUS",
       singleRule "education_bonus" "Escolaridade" 30
         (seedCondition "escolaridade_rank" .gte (intJson 4))
         (points 15) false "Formacao academica favorece selecao" "EDU_BONUS",
       singleRule "occupation_bonus" "Profissao elegivel" 40
         (seedCondition "profissao_codigo" .in_
           (listJson [textJson "261313", textJson "261312", textJson "225113"]))
         (points 10) false "Profissao em lista ocupacional" "PROF_BONUS",
       singleRule "income_bonus" "Renda favoravel" 50
         (seedCondition "renda_atual" .gte (intJson 4500))
         (points 30) false "Renda fortalece sustentabilidade financeira" "INCOME_BONUS",
       singleRule "income_gap" "Gap de renda" 60
         (seedCondition "renda_atual" .lt (intJson 4500))
         (penalty 15) false "Gap de renda atual" "INCOME_GAP"]),
   ("PT", mvpFixture "PT" "Portugal" "PT_AIMA_VISAS"
      "AIMA Residence and Visa Rules"
      [singleRule "minimum_income" "Renda minima" 10
         (seedCondition "renda_atual" .gte (intJson 3000))
         (points 35) false "Renda atende referencia do programa" "INCOME_OK",
       singleRule "language_bonus" "Idioma portugues" 20
         (seedCondition "idiomas_nivel.pt" .gte (intJson 3))
         (points 15) false "Idioma portugues facilita integracao" "PT_LANG_BONUS",
       singleRule "background_exists" "Dados basicos presentes" 30
         (seedCondition "profissao_codigo" .exists_ (boolJson true))
         (points 10) false "Historico profissional informado" "PROFILE_COMPLETENESS"]),
   ("US", mvpFixture "US" "Estados Unidos" "US_GENERAL_IMMIGRATION"
      "USCIS Immigration Pathways"
      [singleRule "professional_experience" "Experiencia profissional" 10
         (seedCondition "anos_experiencia" .gte (intJson 3))
         (points 20) false "Experiencia profissional competitiva" "EXPERIENCE_BONUS",
       singleRule "english_requirement" "Ingles minimo" 20
         (seedCondition "idiomas_nivel.en" .gte (intJson 4))
         (points 15) false "Nivel de ingles adequado para aplicacao" "LANGUAGE_BONUS",
       singleRule "inadmissibility_block" "Bloqueio por inadmissibilidade" 30
         (seedCondition "possui_inadmissibilidade" .eq (boolJson true))
         (penalty 100) true "Existem criterios impeditivos de admissibilidade"
           "INADMISSIBILITY_BLOCK"]),
   ("GB", mvpFixture "GB" "Reino Unido" "UK_VISAS_IMMIGRATION"
      "UK Visas and Immigration"
      [singleRule "salary_threshold" "Faixa salarial" 10
         (seedCondition "salario_anual" .gte (intJson 38700))
         (points 25) false "Faixa salarial alinhada ao programa" "SALARY_BONUS",
       singleRule "english_b1" "Ingles nivel B1" 20
         (seedCondition "idiomas_nivel.en" .gte (intJson 3))
         (points 15) false "Comprovacao de ingles em nivel minimo" "ENGLISH_OK"]),
   ("DE", mvpFixture "DE" "Alemanha" "DE_WORK_IMMIGRATION"
      "Make it in Germany"
      [singleRule "qualification_recognized" "Qualificacao reconhecida" 10
         (seedCondition "qualificacao_reconhecida" .eq (boolJson true))
         (points 25) false "Qualificacao reconhecida para trabalho qualificado" "RECOGNITION_BONUS",
       singleRule "german_language" "Idioma alemao" 20
         (seedCondition "idiomas_nivel.de" .gte (intJson 3))
         (points 15) false "Nivel de alemao ajuda na elegibilidade" "GERMAN_BONUS"])]

/-- The values of the conditions are those that the engine is shown to accept. -/
theorem conditions_mvpRuleFixtures :
    (mvpRuleFixtures.flatMap fun fixture => fixture.2.ruleGroups.flatMap (·.conditions)) =
      seedConditions :=
  rfl

end ImigrAI.Scripts
