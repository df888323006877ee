import ImigrAI.Foundations.Rounding
import ImigrAI.Foundations.Sorting
import Mathlib.Data.Rat.Defs
import Mathlib.Order.MinMax
import Mathlib.Tactic.GCongr

/-!
# The ranking of the countries

`ProfileMatchService._rank_profile`, with the numbers as exact rationals and any monotone rounding
to two places. Every feature of a country is monotone in the answers that have an order, so a
profile that is better in these does not score worse anywhere.
-/

namespace ImigrAI.ProfileMatch

open Rounding Sorting

inductive CEFRLevels where
  | a1 | a2 | b1 | b2 | c1 | c2
deriving DecidableEq

inductive EducationLevels where
  | ensinoMedio | tecnico | graduacao | mestrado | doutorado
deriving DecidableEq

inductive ProfessionAreas where
  | tecnologia | engenharia | saude | negocios | educacao | servicos | outros
deriving DecidableEq

inductive PreferredRegions where
  | americas | europa | asia | indiferente
deriving DecidableEq

def CEFRLevels.rank : CEFRLevels → ℕ
  | .a1 => 1
  | .a2 => 2
  | .b1 => 3
  | .b2 => 4
  | .c1 => 5
  | .c2 => 6

def EducationLevels.rank : EducationLevels → ℕ
  | .ensinoMedio => 1
  | .tecnico => 2
  | .graduacao => 3
  | .mestrado => 4
  | .doutorado => 5

/-- A request that was validated, with what the ranking reads of it. -/
structure ProfileMatchSubmitRequest where
  age : ℤ
  educationLevel : EducationLevels
  experienceYears : ℤ
  englishLevel : CEFRLevels
  frenchLevel : CEFRLevels
  savingsBrl : ℚ
  monthlyIncomeBrl : ℚ
  professionArea : ProfessionAreas
  hasJobOffer : Bool
  hasFamilyAbroad : Bool
  willingToLearnLanguage : Bool
  wantsFastCitizenship : Bool
  preferredRegion : PreferredRegions
  age_valid : 18 ≤ age ∧ age ≤ 70
  experienceYears_valid : 0 ≤ experienceYears ∧ experienceYears ≤ 45
  savingsBrl_valid : 0 ≤ savingsBrl ∧ savingsBrl ≤ 10000000
  monthlyIncomeBrl_valid : 0 ≤ monthlyIncomeBrl ∧ monthlyIncomeBrl ≤ 1000000

inductive LanguageMode where
  | english | french | hybrid | localLanguage
deriving DecidableEq

inductive CitizenshipSpeed where
  | fast | regular
deriving DecidableEq

structure CountryRule where
  code : String
  name : String
  region : PreferredRegions
  languageMode : LanguageMode
  minFundsBrl : ℚ
  preferredProfessions : List ProfessionAreas
  jobOfferFactor : ℚ
  familyFactor : ℚ
  citizenshipSpeed : CitizenshipSpeed
  baseBoost : ℚ
  minFundsBrl_pos : 0 < minFundsBrl := by norm_num
  jobOfferFactor_nonneg : 0 ≤ jobOfferFactor := by norm_num
  familyFactor_nonneg : 0 ≤ familyFactor := by norm_num

def cefrScores : CEFRLevels → ℚ
  | .a1 => 0.20
  | .a2 => 0.35
  | .b1 => 0.55
  | .b2 => 0.70
  | .c1 => 0.85
  | .c2 => 1.00

def educationScores : EducationLevels → ℚ
  | .ensinoMedio => 0.45
  | .tecnico => 0.58
  | .graduacao => 0.72
  | .mestrado => 0.86
  | .doutorado => 1.00

def countryRules : List CountryRule :=
  [{ code := "US", name := "Estados Unidos", region := .americas, languageMode := .english,
     minFundsBrl := 130000, preferredProfessions := [.tecnologia, .engenharia, .saude, .negocios],
     jobOfferFactor := 1.30, familyFactor := 1.10, citizenshipSpeed := .regular,
     baseBoost := 0.01 },
   { code := "CA", name := "Canada", region := .americas, languageMode := .hybrid,
     minFundsBrl := 90000, preferredProfessions := [.tecnologia, .engenharia, .saude, .educacao],
     jobOfferFactor := 1.20, familyFactor := 1.15, citizenshipSpeed := .regular,
     baseBoost := 0.03 },
   { code := "GB", name := "Reino Unido", region := .europa, languageMode := .english,
     minFundsBrl := 95000, preferredProfessions := [.tecnologia, .engenharia, .saude, .negocios],
     jobOfferFactor := 1.20, familyFactor := 1.05, citizenshipSpeed := .regular,
     baseBoost := 0.00 },
   { code := "IE", name := "Irlanda", region := .europa, languageMode := .english,
     minFundsBrl := 80000, preferredProfessions := [.tecnologia, .engenharia, .saude, .educacao],
     jobOfferFactor := 1.15, familyFactor := 1.00, citizenshipSpeed := .regular,
     baseBoost := 0.01 },
   { code := "PT", name := "Portugal", region := .europa, languageMode := .localLanguage,
     minFundsBrl := 55000,
     preferredProfessions := [.tecnologia, .engenharia, .servicos, .negocios],
     jobOfferFactor := 1.05, familyFactor := 1.15, citizenshipSpeed := .fast,
     baseBoost := 0.05 },
   { code := "DE", name := "Alemanha", region := .europa, languageMode := .localLanguage,
     minFundsBrl := 85000, preferredProfessions := [.engenharia, .tecnologia, .saude, .educacao],
     jobOfferFactor := 1.20, familyFactor := 1.00, citizenshipSpeed := .regular,
     baseBoost := 0.01 },
   { code := "FR", name := "Franca", region := .europa, languageMode := .french,
     minFundsBrl := 75000, preferredProfessions := [.engenharia, .saude, .negocios, .educacao],
     jobOfferFactor := 1.10, familyFactor := 1.05, citizenshipSpeed := .regular,
     baseBoost := 0.00 },
   { code := "ES", name := "Espanha", region := .europa, languageMode := .localLanguage,
     minFundsBrl := 60000,
     preferredProfessions := [.servicos, .negocios, .tecnologia, .engenharia],
     jobOfferFactor := 1.05, familyFactor := 1.10, citizenshipSpeed := .regular,
     baseBoost := 0.02 },
   { code := "IT", name := "Italia", region := .europa, languageMode := .localLanguage,
     minFundsBrl := 62000,
     preferredProfessions := [.servicos, .negocios, .engenharia, .educacao],
     jobOfferFactor := 1.00, familyFactor := 1.05, citizenshipSpeed := .regular,
     baseBoost := 0.00 },
   { code := "NL", name := "Paises Baixos", region := .europa, languageMode := .english,
     minFundsBrl := 88000,
     preferredProfessions := [.tecnologia, .engenharia, .negocios, .educacao],
     jobOfferFactor := 1.15, familyFactor := 1.00, citizenshipSpeed := .regular,
     baseBoost := 0.01 },
   { code := "CH", name := "Suica", region := .europa, languageMode := .hybrid,
     minFundsBrl := 120000, preferredProfessions := [.engenharia, .saude, .tecnologia, .negocios],
     jobOfferFactor := 1.25, familyFactor := 1.00, citizenshipSpeed := .regular,
     baseBoost := -0.01 },
   { code := "BE", name := "Belgica", region := .europa, languageMode := .hybrid,
     minFundsBrl := 78000, preferredProfessions := [.engenharia, .tecnologia, .saude, .negocios],
     jobOfferFactor := 1.10, familyFactor := 1.05, citizenshipSpeed := .regular,
     baseBoost := 0.00 },
   { code := "JP", name := "Japao", region := .asia, languageMode := .localLanguage,
     minFundsBrl := 100000,
     preferredProfessions := [.tecnologia, .engenharia, .educacao, .negocios],
     jobOfferFactor := 1.15, familyFactor := 0.95, citizenshipSpeed := .regular,
     baseBoost := -0.01 },
   { code := "AR", name := "Argentina", region := .americas, languageMode := .localLanguage,
     minFundsBrl := 45000,
     preferredProfessions := [.negocios, .servicos, .educacao, .tecnologia],
     jobOfferFactor := 0.95, familyFactor := 1.10, citizenshipSpeed := .fast,
     baseBoost := 0.03 },
   { code := "PY", name := "Paraguai", region := .americas, languageMode := .localLanguage,
     minFundsBrl := 40000,
     preferredProfessions := [.negocios, .servicos, .engenharia, .educacao],
     jobOfferFactor := 0.95, familyFactor := 1.10, citizenshipSpeed := .fast,
     baseBoost := 0.04 }]

/-- `_clamp`. -/
def clamp (lower upper value : ℚ) : ℚ := max lower (min upper value)

/-- `_age_score`. -/
def ageScore (age : ℤ) : ℚ :=
  if 22 ≤ age ∧ age ≤ 34 then 1
  else if 18 ≤ age ∧ age ≤ 40 then 0.82
  else if 41 ≤ age ∧ age ≤ 50 then 0.62
  else 0.45

/-- `_language_score`. -/
def languageScore (rule : CountryRule) (englishFeature frenchFeature : ℚ)
    (willingToLearnLanguage : Bool) : ℚ :=
  match rule.languageMode with
  | .english => englishFeature
  | .french => clamp 0 1 (max frenchFeature (englishFeature * 0.45))
  | .hybrid => clamp 0 1 (max (englishFeature * 0.80) (frenchFeature * 0.80))
  | .localLanguage =>
      clamp 0 1 (0.25 + englishFeature * 0.35 + (if willingToLearnLanguage then 0.25 else 0) +
        if rule.code ∈ ["CH", "BE"] ∧ 0.70 ≤ frenchFeature then 0.10 else 0)

/-- `_profession_score`. -/
def professionScore (rule : CountryRule) (professionArea : ProfessionAreas) : ℚ :=
  if professionArea ∈ rule.preferredProfessions then 1
  else if professionArea ∈ [.tecnologia, .engenharia, .saude] then 0.70
  else 0.52

/-- `_citizenship_score`. -/
def citizenshipScore (wantsFast : Bool) (countrySpeed : CitizenshipSpeed) : ℚ :=
  if wantsFast then if countrySpeed = .fast then 1 else 0.55
  else if countrySpeed = .fast then 0.80 else 0.75

def fundsFeature (payload : ProfileMatchSubmitRequest) (rule : CountryRule) : ℚ :=
  clamp 0 1 ((payload.savingsBrl + payload.monthlyIncomeBrl * 8) / rule.minFundsBrl)

def languageFeature (payload : ProfileMatchSubmitRequest) (rule : CountryRule) : ℚ :=
  languageScore rule (cefrScores payload.englishLevel) (cefrScores payload.frenchLevel)
    payload.willingToLearnLanguage

def regionFeature (payload : ProfileMatchSubmitRequest) (rule : CountryRule) : ℚ :=
  if payload.preferredRegion ∈ [.indiferente, rule.region] then 1 else 0.40

def weightedScore (payload : ProfileMatchSubmitRequest) (rule : CountryRule) : ℚ :=
  ageScore payload.age * 0.11 +
    educationScores payload.educationLevel * 0.11 +
    clamp 0 1 (payload.experienceYears / 10) * 0.15 +
    languageFeature payload rule * 0.19 +
    fundsFeature payload rule * 0.15 +
    professionScore rule payload.professionArea * 0.12 +
    regionFeature payload rule * 0.06 +
    citizenshipScore payload.wantsFastCitizenship rule.citizenshipSpeed * 0.06 +
    (if payload.hasJobOffer then 1 else 0.20) * 0.03 * rule.jobOfferFactor +
    (if payload.hasFamilyAbroad then 1 else 0.35) * 0.02 * rule.familyFactor +
    rule.baseBoost

structure CountryMatchRead where
  countryCode : String
  countryName : String
  matchScore : ℚ
  highlights : List String

/-- `_build_highlights`. -/
def buildHighlights (rule : CountryRule) (languageFeature fundsFeature professionFeature : ℚ)
    (hasJobOffer hasFamilyAbroad : Bool) : List String :=
  let highlights :=
    (if 0.75 ≤ languageFeature then
      ["Seu idioma atual ja atende boa parte das trilhas desse pais."]
    else if rule.languageMode = .localLanguage then
      ["Com plano de idioma local, seu perfil ganha tracao nesse destino."]
    else []) ++
    (if 0.95 ≤ professionFeature then
      ["Sua area profissional esta entre as mais demandadas nesse mercado."]
    else []) ++
    (if 0.80 ≤ fundsFeature then
      ["Sua reserva financeira esta proxima do patamar esperado para entrada."]
    else ["Aumentar reserva financeira melhora muito a elegibilidade nesse pais."]) ++
    (if hasJobOffer ∧ 1.10 ≤ rule.jobOfferFactor then
      ["Oferta de trabalho tem impacto relevante para acelerar o processo."]
    else if hasFamilyAbroad ∧ 1.05 ≤ rule.familyFactor then
      ["Rede familiar pode facilitar caminhos de adaptacao e comprovacao."]
    else [])
  let padding := List.replicate (3 - highlights.length)
    "Seu score depende de consistencia documental e estrategia de aplicacao."
  (highlights ++ padding).take 3

variable (rounding : HundredthRounding)

def countryMatch (payload : ProfileMatchSubmitRequest) (rule : CountryRule) : CountryMatchRead where
  countryCode := rule.code
  countryName := rule.name
  matchScore := rounding.round (clamp 0 0.995 (weightedScore payload rule) * 100)
  highlights := buildHighlights rule (languageFeature payload rule) (fundsFeature payload rule)
    (professionScore rule payload.professionArea) payload.hasJobOffer payload.hasFamilyAbroad

/-- `_rank_profile`. -/
def rankProfile (payload : ProfileMatchSubmitRequest) : List CountryMatchRead :=
  sortBy (fun item => OrderDual.toDual item.matchScore)
    (countryRules.map (countryMatch rounding payload))

/-- Equal where there is no better answer, and not worse elsewhere. -/
structure AtLeastAsGood (other payload : ProfileMatchSubmitRequest) : Prop where
  age : other.age = payload.age
  professionArea : other.professionArea = payload.professionArea
  wantsFastCitizenship : other.wantsFastCitizenship = payload.wantsFastCitizenship
  preferredRegion : other.preferredRegion = payload.preferredRegion
  educationLevel : other.educationLevel.rank ≤ payload.educationLevel.rank
  experienceYears : other.experienceYears ≤ payload.experienceYears
  englishLevel : other.englishLevel.rank ≤ payload.englishLevel.rank
  frenchLevel : other.frenchLevel.rank ≤ payload.frenchLevel.rank
  savingsBrl : other.savingsBrl ≤ payload.savingsBrl
  monthlyIncomeBrl : other.monthlyIncomeBrl ≤ payload.monthlyIncomeBrl
  hasJobOffer : other.hasJobOffer ≤ payload.hasJobOffer
  hasFamilyAbroad : other.hasFamilyAbroad ≤ payload.hasFamilyAbroad
  willingToLearnLanguage : other.willingToLearnLanguage ≤ payload.willingToLearnLanguage

section Features

variable {rule : CountryRule} {other payload : ProfileMatchSubmitRequest}

theorem clamp_mono (lower upper : ℚ) : Monotone (clamp lower upper) := by
  intro left right le
  exact max_le_max_left lower (min_le_min_left upper le)

theorem le_clamp (lower upper value : ℚ) : lower ≤ clamp lower upper value := le_max_left _ _

theorem clamp_le {lower upper : ℚ} (ordered : lower ≤ upper) (value : ℚ) :
    clamp lower upper value ≤ upper :=
  max_le ordered (min_le_left _ _)

theorem cefrScores_mono {low high : CEFRLevels} (le : low.rank ≤ high.rank) :
    cefrScores low ≤ cefrScores high := by
  revert le
  cases low <;> cases high <;> norm_num [cefrScores, CEFRLevels.rank]

theorem educationScores_mono {low high : EducationLevels} (le : low.rank ≤ high.rank) :
    educationScores low ≤ educationScores high := by
  revert le
  cases low <;> cases high <;> norm_num [educationScores, EducationLevels.rank]

/-- What a condition adds does not fall when the condition comes to hold. -/
theorem ite_le_ite {before after : Prop} [Decidable before] [Decidable after] {high low : ℚ}
    (ordered : low ≤ high) (implied : before → after) :
    (if before then high else low) ≤ if after then high else low := by
  split_ifs with first second second
  · exact le_rfl
  · exact absurd (implied first) second
  · exact ordered
  · exact le_rfl

theorem languageScore_mono {english english' french french' : ℚ} {willing willing' : Bool}
    (englishLe : english ≤ english') (frenchLe : french ≤ french') (willingLe : willing ≤ willing') :
    languageScore rule english french willing ≤ languageScore rule english' french' willing' := by
  unfold languageScore
  split
  · exact englishLe
  · apply clamp_mono
    gcongr
  · apply clamp_mono
    gcongr
  · apply clamp_mono
    have ofWilling : (if willing then (0.25 : ℚ) else 0) ≤ if willing' then 0.25 else 0 :=
      ite_le_ite (by norm_num) willingLe
    have ofFrench : (if rule.code ∈ ["CH", "BE"] ∧ 0.70 ≤ french then (0.10 : ℚ) else 0) ≤
        if rule.code ∈ ["CH", "BE"] ∧ 0.70 ≤ french' then 0.10 else 0 :=
      ite_le_ite (by norm_num) fun ⟨isCode, enough⟩ => ⟨isCode, enough.trans frenchLe⟩
    gcongr

theorem fundsFeature_mono (better : AtLeastAsGood other payload) :
    fundsFeature other rule ≤ fundsFeature payload rule := by
  apply clamp_mono
  have positive := rule.minFundsBrl_pos
  have savings := better.savingsBrl
  have income := better.monthlyIncomeBrl
  gcongr

theorem languageFeature_mono (better : AtLeastAsGood other payload) :
    languageFeature other rule ≤ languageFeature payload rule :=
  languageScore_mono (cefrScores_mono better.englishLevel) (cefrScores_mono better.frenchLevel)
    better.willingToLearnLanguage

theorem weightedScore_mono (better : AtLeastAsGood other payload) :
    weightedScore other rule ≤ weightedScore payload rule := by
  have education := educationScores_mono better.educationLevel
  have experience : clamp 0 1 ((other.experienceYears : ℚ) / 10) ≤
      clamp 0 1 ((payload.experienceYears : ℚ) / 10) := by
    apply clamp_mono
    have years : (other.experienceYears : ℚ) ≤ payload.experienceYears := by
      exact_mod_cast better.experienceYears
    gcongr
  have language : languageFeature other rule ≤ languageFeature payload rule :=
    languageFeature_mono better
  have funds : fundsFeature other rule ≤ fundsFeature payload rule := fundsFeature_mono better
  have region : regionFeature other rule = regionFeature payload rule := by
    rw [regionFeature, regionFeature, better.preferredRegion]
  have jobOffer : (if other.hasJobOffer then (1 : ℚ) else 0.20) ≤
      if payload.hasJobOffer then 1 else 0.20 :=
    ite_le_ite (by norm_num) better.hasJobOffer
  have family : (if other.hasFamilyAbroad then (1 : ℚ) else 0.35) ≤
      if payload.hasFamilyAbroad then 1 else 0.35 :=
    ite_le_ite (by norm_num) better.hasFamilyAbroad
  have jobOfferFactor := rule.jobOfferFactor_nonneg
  have familyFactor := rule.familyFactor_nonneg
  unfold weightedScore
  rw [better.age, better.professionArea, better.wantsFastCitizenship, region]
  gcongr

end Features

section Scores

variable {rounding} {other payload : ProfileMatchSubmitRequest} {rule : CountryRule}

theorem matchScore_mono (better : AtLeastAsGood other payload) :
    (countryMatch rounding other rule).matchScore ≤
      (countryMatch rounding payload rule).matchScore := by
  apply rounding.mono
  have clamped : clamp 0 0.995 (weightedScore other rule) ≤
      clamp 0 0.995 (weightedScore payload rule) :=
    clamp_mono 0 0.995 (weightedScore_mono better)
  gcongr

theorem matchScore_bounds :
    0 ≤ (countryMatch rounding payload rule).matchScore ∧
      (countryMatch rounding payload rule).matchScore ≤ 99.5 := by
  have lower := le_clamp 0 0.995 (weightedScore payload rule)
  have upper : clamp 0 0.995 (weightedScore payload rule) ≤ 0.995 := clamp_le (by norm_num) _
  constructor
  · have rounded : ((0 : ℤ) / 100 : ℚ) ≤ (countryMatch rounding payload rule).matchScore := by
      apply rounding.le_round
      norm_num
      linarith
    norm_num at rounded
    exact rounded
  · have rounded : (countryMatch rounding payload rule).matchScore ≤ ((9950 : ℤ) / 100 : ℚ) := by
      apply rounding.round_le
      norm_num at upper ⊢
      linarith
    norm_num at rounded ⊢
    exact rounded

theorem mem_rankProfile {item : CountryMatchRead} :
    item ∈ rankProfile rounding payload ↔
      ∃ rule ∈ countryRules, countryMatch rounding payload rule = item := by
  rw [rankProfile, mem_sortBy, List.mem_map]

/-- The codes tell the countries apart. -/
theorem eq_of_code_eq {first second : CountryRule} (firstMem : first ∈ countryRules)
    (secondMem : second ∈ countryRules) (same : first.code = second.code) : first = second := by
  have distinct : (countryRules.map (·.code)).Nodup := by
    simp [countryRules]
  exact List.inj_on_of_nodup_map distinct firstMem secondMem same

end Scores

/-- A better profile has the same countries, no country with a worse score, and all scores are
between 0 and 99.5. -/
theorem rankProfile_mono {other payload : ProfileMatchSubmitRequest}
    (better : AtLeastAsGood other payload) :
    ((rankProfile rounding other).map (·.countryCode)).Perm
        ((rankProfile rounding payload).map (·.countryCode)) ∧
      (∀ first ∈ rankProfile rounding other, ∀ second ∈ rankProfile rounding payload,
        first.countryCode = second.countryCode → first.matchScore ≤ second.matchScore) ∧
      ∀ item ∈ rankProfile rounding other ++ rankProfile rounding payload,
        0 ≤ item.matchScore ∧ item.matchScore ≤ 99.5 := by
  have codes (request : ProfileMatchSubmitRequest) :
      ((rankProfile rounding request).map (·.countryCode)).Perm
        (countryRules.map (·.code)) := by
    have perm := (sortBy_perm (fun item => OrderDual.toDual item.matchScore)
      (countryRules.map (countryMatch rounding request))).map (·.countryCode)
    rwa [List.map_map] at perm
  refine ⟨(codes other).trans (codes payload).symm, ?_, ?_⟩
  · intro first firstMem second secondMem sameCode
    rcases mem_rankProfile.mp firstMem with ⟨rule, ruleMem, rfl⟩
    rcases mem_rankProfile.mp secondMem with ⟨rule', ruleMem', rfl⟩
    rw [eq_of_code_eq ruleMem ruleMem' sameCode]
    exact matchScore_mono better
  · intro item itemMem
    rcases List.mem_append.mp itemMem with mem | mem
    · rcases mem_rankProfile.mp mem with ⟨rule, -, rfl⟩
      exact matchScore_bounds
    · rcases mem_rankProfile.mp mem with ⟨rule, -, rfl⟩
      exact matchScore_bounds

def sampleProfile : ProfileMatchSubmitRequest where
  age := 29
  educationLevel := .graduacao
  experienceYears := 4
  englishLevel := .b1
  frenchLevel := .a1
  savingsBrl := 20000
  monthlyIncomeBrl := 6500
  professionArea := .tecnologia
  hasJobOffer := false
  hasFamilyAbroad := false
  willingToLearnLanguage := true
  wantsFastCitizenship := false
  preferredRegion := .indiferente
  age_valid := by norm_num
  experienceYears_valid := by norm_num
  savingsBrl_valid := by norm_num
  monthlyIncomeBrl_valid := by norm_num

def betterSampleProfile : ProfileMatchSubmitRequest :=
  { sampleProfile with
    englishLevel := .c1
    frenchLevel := .b2
    hasJobOffer := true }

theorem atLeastAsGood_sample : AtLeastAsGood sampleProfile betterSampleProfile where
  age := rfl
  professionArea := rfl
  wantsFastCitizenship := rfl
  preferredRegion := rfl
  educationLevel := le_rfl
  experienceYears := le_rfl
  englishLevel := by decide
  frenchLevel := by decide
  savingsBrl := le_rfl
  monthlyIncomeBrl := le_rfl
  hasJobOffer := by decide
  hasFamilyAbroad := le_rfl
  willingToLearnLanguage := le_rfl

theorem rankProfile_mono_sample :
    (rankProfile hundredthHalfEven sampleProfile).head?.map
        (fun item => (item.countryCode, item.matchScore)) = some ("PT", 82.31) ∧
      (rankProfile hundredthHalfEven betterSampleProfile).head?.map
        (fun item => (item.countryCode, item.matchScore)) = some ("PT", 86.83) ∧
      ∀ first ∈ rankProfile hundredthHalfEven sampleProfile,
        ∀ second ∈ rankProfile hundredthHalfEven betterSampleProfile,
          first.countryCode = second.countryCode → first.matchScore ≤ second.matchScore :=
  ⟨by decide +kernel, by decide +kernel, (rankProfile_mono _ atLeastAsGood_sample).2.1⟩

end ImigrAI.ProfileMatch
