import ImigrAI.Scripts.SeedCatalog

/-!
# The catalogue

`MVP_COUNTRY_CATALOG`: fifteen countries by the size of their Brazilian community, each with
its programs and their official sources.
-/

namespace ImigrAI.Scripts

open Ingestion

def mvpProgramVersion : String := "2026.01"

def brasileirosExteriorUrl : String :=
  "https://www.gov.br/mre/pt-br/assuntos/portal-consular/BrasileirosnoExterior2023.pdf"

def mvpCountryCatalog : List CatalogCountry :=
  [{ code := "US"
     name := "Estados Unidos"
     priorityRank := 1
     diasporaPopulationEstimate := 2085000
     prioritizationSourceUrl := brasileirosExteriorUrl
     programs :=
       [{ code := "US_GENERAL_IMMIGRATION"
          name := "USCIS Immigration Pathways"
          description := "Regras oficiais de residencia, trabalho e ajuste de status."
          version := mvpProgramVersion
          sources :=
            [{ sourceKey := "us_uscis_main"
               sourceType := .html
               sourceUrl := "https://www.uscis.gov/"
               robotsUrl := some "https://www.uscis.gov/robots.txt"
               termsUrl := some "https://www.uscis.gov/about-us/website-policies"
               scheduleCron := some "0 */12 * * *"
               documentTitle := "USCIS - Official Immigration Portal" }] },
        { code := "US_VISAS"
          name := "US Department of State Visas"
          description := "Regras oficiais de vistos de nao-imigrante e imigrante."
          version := mvpProgramVersion
          sources :=
            [{ sourceKey := "us_travel_state_visas"
               sourceType := .html
               sourceUrl := "https://travel.state.gov/content/travel/en/us-visas.html"
               robotsUrl := some "https://travel.state.gov/robots.txt"
               termsUrl := none
               scheduleCron := some "15 */12 * * *"
               documentTitle := "US Travel State - Visa Information" }] }] },
   { code := "PT"
     name := "Portugal"
     priorityRank := 2
     diasporaPopulationEstimate := 513000
     prioritizationSourceUrl := brasileirosExteriorUrl
     programs :=
       [{ code := "PT_AIMA_VISAS"
          name := "AIMA Residence and Visa Rules"
          description := "Informacoes oficiais de residencia e vistos em Portugal."
          version := mvpProgramVersion
          sources :=
            [{ sourceKey := "pt_aima"
               sourceType := .html
               sourceUrl := "https://aima.gov.pt/"
               robotsUrl := some "https://aima.gov.pt/robots.txt"
               termsUrl := none
               scheduleCron := some "0 2 * * *"
               documentTitle := "AIMA - Portal Oficial" }] }] },
   { code := "PY"
     name := "Paraguai"
     priorityRank := 3
     diasporaPopulationEstimate := 263200
     prioritizationSourceUrl := brasileirosExteriorUrl
     programs :=
       [{ code := "PY_MIGRACIONES"
          name := "Direccion Nacional de Migraciones"
          description := "Normas oficiais de residencia e migracao no Paraguai."
          version := mvpProgramVersion
          sources :=
            [{ sourceKey := "py_migraciones"
               sourceType := .html
               sourceUrl := "https://www.migraciones.gov.py/"
               robotsUrl := some "https://www.migraciones.gov.py/robots.txt"
               termsUrl := none
               scheduleCron := some "20 2 * * *"
               documentTitle := "Migraciones Paraguay - Portal Oficial" }] }] },
   { code := "GB"
     name := "Reino Unido"
     priorityRank := 4
     diasporaPopulationEstimate := 230000
     prioritizationSourceUrl := brasileirosExteriorUrl
     programs :=
       [{ code := "UK_VISAS_IMMIGRATION"
          name := "UK Visas and Immigration"
          description := "Regras oficiais de vistos e residencia no Reino Unido."
          version := mvpProgramVersion
          sources :=
            [{ sourceKey := "uk_gov_immigration"
               sourceType := .html
               sourceUrl := "https://www.gov.uk/browse/visas-immigration"
               robotsUrl := some "https://www.gov.uk/robots.txt"
               termsUrl := some "https://www.gov.uk/help/terms-conditions"
               scheduleCron := some "35 2 * * *"
               documentTitle := "GOV.UK - Visas and Immigration" }] }] },
   { code := "JP"
     name := "Japao"
     priorityRank := 5
     diasporaPopulationEstimate := 210471
     prioritizationSourceUrl := brasileirosExteriorUrl
     programs :=
       [{ code := "JP_VISA_RULES"
          name := "MOFA Visa Information"
          description := "Portal oficial do Ministerio de Relacoes Exteriores do Japao para vistos."
          version := mvpProgramVersion
          sources :=
            [{ sourceKey := "jp_mofa_visa"
               sourceType := .html
               sourceUrl := "https://www.mofa.go.jp/j_info/visit/visa/index.html"
               robotsUrl := some "https://www.mofa.go.jp/robots.txt"
               termsUrl := none
               scheduleCron := some "50 2 * * *"
               documentTitle := "MOFA Japan - Visa" }] },
        { code := "JP_IMMIGRATION_ISA"
          name := "Immigration Services Agency"
          description := "Orientacoes oficiais da Immigration Services Agency."
          version := mvpProgramVersion
          sources :=
            [{ sourceKey := "jp_isa_reference"
               sourceType := .html
               sourceUrl := "https://www.isa.go.jp/en/"
               robotsUrl := some "https://www.isa.go.jp/robots.txt"
               termsUrl := none
               scheduleCron := some "10 3 * * *"
               documentTitle := "Immigration Services Agency - Official Site" }] }] },
   { code := "DE"
     name := "Alemanha"
     priorityRank := 6
     diasporaPopulationEstimate := 170400
     prioritizationSourceUrl := brasileirosExteriorUrl
     programs :=
       [{ code := "DE_WORK_IMMIGRATION"
          name := "Make it in Germany"
          description := "Portal oficial para migracao de trabalho qualificado na Alemanha."
          version := mvpProgramVersion
          sources :=
            [{ sourceKey := "de_make_it_in_germany"
               sourceType := .html
               sourceUrl := "https://www.make-it-in-germany.com/en/"
               robotsUrl := some "https://www.make-it-in-germany.com/robots.txt"
               termsUrl := none
               scheduleCron := some "25 3 * * *"
               documentTitle := "Make it in Germany - Official Portal" }] },
        { code := "DE_BAMF_IMMIGRATION"
          name := "BAMF Immigration Rules"
          description := "Normas e orientacoes oficiais do BAMF."
          version := mvpProgramVersion
          sources :=
            [{ sourceKey := "de_bamf"
               sourceType := .html
               sourceUrl := "https://www.bamf.de/EN/"
               robotsUrl := some "https://www.bamf.de/robots.txt"
               termsUrl := none
               scheduleCron := some "40 3 * * *"
               documentTitle := "BAMF - Official Immigration Information" }] }] },
   { code := "ES"
     name := "Espanha"
     priorityRank := 7
     diasporaPopulationEstimate := 161944
     prioritizationSourceUrl := brasileirosExteriorUrl
     programs :=
       [{ code := "ES_MIGRACIONES"
          name := "Ministerio de Inclusion y Migraciones"
          description := "Regras oficiais de autorizacao de residencia e migracao."
          version := mvpProgramVersion
          sources :=
            [{ sourceKey := "es_inclusion_migraciones"
               sourceType := .html
               sourceUrl := "https://www.inclusion.gob.es/en/"
               robotsUrl := some "https://www.inclusion.gob.es/robots.txt"
               termsUrl := none
               scheduleCron := some "55 3 * * *"
               documentTitle := "Ministerio de Inclusion y Migraciones" }] }] },
   { code := "IT"
     name := "Italia"
     priorityRank := 8
     diasporaPopulationEstimate := 159000
     prioritizationSourceUrl := brasileirosExteriorUrl
     programs :=
       [{ code := "IT_VISTI_INGRESSO"
          name := "Esteri Visti e Ingresso"
          description := "Regras oficiais para ingresso e vistos na Italia."
          version := mvpProgramVersion
          sources :=
            [{ sourceKey := "it_esteri_visti"
               sourceType := .html
               sourceUrl :=
                 "https://www.esteri.it/en/servizi-consolari-e-visti/ingressosoggiornoinitalia/"
               robotsUrl := some "https://www.esteri.it/robots.txt"
               termsUrl := none
               scheduleCron := some "10 4 * * *"
               documentTitle := "Ministero degli Affari Esteri - Visti" }] }] },
   { code := "CA"
     name := "Canada"
     priorityRank := 9
     diasporaPopulationEstimate := 143500
     prioritizationSourceUrl := brasileirosExteriorUrl
     programs :=
       [{ code := "CA_IRCC_IMMIGRATION"
          name := "IRCC Immigration Programs"
          description := "Regras oficiais de imigracao e cidadania do Canada."
          version := mvpProgramVersion
          sources :=
            [{ sourceKey := "ca_ircc"
               sourceType := .html
               sourceUrl := "https://www.canada.ca/en/services/immigration-citizenship.html"
               robotsUrl := some "https://www.canada.ca/robots.txt"
               termsUrl := none
               scheduleCron := some "25 4 * * *"
               documentTitle := "IRCC - Immigration and Citizenship" }] }] },
   { code := "AR"
     name := "Argentina"
     priorityRank := 10
     diasporaPopulationEstimate := 101502
     prioritizationSourceUrl := brasileirosExteriorUrl
     programs :=
       [{ code := "AR_MIGRACIONES"
          name := "Direccion Nacional de Migraciones"
          description := "Normativa oficial de residencia e migracao na Argentina."
          version := mvpProgramVersion
          sources :=
            [{ sourceKey := "ar_migraciones"
               sourceType := .html
               sourceUrl := "https://www.argentina.gob.ar/interior/migraciones"
               robotsUrl := some "https://www.argentina.gob.ar/robots.txt"
               termsUrl := none
               scheduleCron := some "40 4 * * *"
               documentTitle := "Migraciones Argentina - Portal Oficial" }] }] },
   { code := "FR"
     name := "Franca"
     priorityRank := 11
     diasporaPopulationEstimate := 95000
     prioritizationSourceUrl := brasileirosExteriorUrl
     programs :=
       [{ code := "FR_FRANCE_VISAS"
          name := "France-Visas"
          description := "Portal oficial para solicitacao e regras de vistos na Franca."
          version := mvpProgramVersion
          sources :=
            [{ sourceKey := "fr_france_visas"
               sourceType := .html
               sourceUrl := "https://france-visas.gouv.fr/"
               robotsUrl := some "https://france-visas.gouv.fr/robots.txt"
               termsUrl := none
               scheduleCron := some "55 4 * * *"
               documentTitle := "France-Visas - Official Portal" }] }] },
   { code := "IE"
     name := "Irlanda"
     priorityRank := 12
     diasporaPopulationEstimate := 80000
     prioritizationSourceUrl := brasileirosExteriorUrl
     programs :=
       [{ code := "IE_ISD_IMMIGRATION"
          name := "Immigration Service Delivery"
          description := "Informacoes oficiais de residencia e imigracao da Irlanda."
          version := mvpProgramVersion
          sources :=
            [{ sourceKey := "ie_immigration_service_delivery"
               sourceType := .html
               sourceUrl := "https://www.irishimmigration.ie/"
               robotsUrl := some "https://www.irishimmigration.ie/robots.txt"
               termsUrl := none
               scheduleCron := some "10 5 * * *"
               documentTitle := "Immigration Service Delivery - Official Site" }] }] },
   { code := "NL"
     name := "Paises Baixos"
     priorityRank := 13
     diasporaPopulationEstimate := 80000
     prioritizationSourceUrl := brasileirosExteriorUrl
     programs :=
       [{ code := "NL_IND_IMMIGRATION"
          name := "IND Immigration Rules"
          description := "Regras oficiais de residencia e migracao nos Paises Baixos."
          version := mvpProgramVersion
          sources :=
            [{ sourceKey := "nl_ind"
               sourceType := .html
               sourceUrl := "https://ind.nl/en"
               robotsUrl := some "https://ind.nl/robots.txt"
               termsUrl := none
               scheduleCron := some "25 5 * * *"
               documentTitle := "IND - Official Immigration Portal" }] }] },
   { code := "CH"
     name := "Suica"
     priorityRank := 14
     diasporaPopulationEstimate := 64000
     prioritizationSourceUrl := brasileirosExteriorUrl
     programs :=
       [{ code := "CH_SEM_ENTRY"
          name := "SEM Entry and Residence"
          description := "Regras oficiais de entrada e permanencia na Suica."
          version := mvpProgramVersion
          sources :=
            [{ sourceKey := "ch_sem"
               sourceType := .html
               sourceUrl := "https://www.sem.admin.ch/sem/en/home/themen/einreise.html"
               robotsUrl := some "https://www.sem.admin.ch/robots.txt"
               termsUrl := none
               scheduleCron := some "40 5 * * *"
               documentTitle := "SEM - Entry Requirements" }] }] },
   { code := "BE"
     name := "Belgica"
     priorityRank := 15
     diasporaPopulationEstimate := 50000
     prioritizationSourceUrl := brasileirosExteriorUrl
     programs :=
       [{ code := "BE_DOFI_IMMIGRATION"
          name := "DOFI Immigration Office"
          description := "Informacoes oficiais do Office des Etrangers da Belgica."
          version := mvpProgramVersion
          sources :=
            [{ sourceKey := "be_dofi"
               sourceType := .html
               sourceUrl := "https://dofi.ibz.be/en"
               robotsUrl := some "https://dofi.ibz.be/robots.txt"
               termsUrl := none
               scheduleCron := some "55 5 * * *"
               documentTitle := "DOFI - Immigration Office" }] }] }]

/-- The countries whose fixtures `seed_initial_data` seeds. -/
def mvpRuleFixtureCountryCodes : List String := ["US", "PT", "CA", "GB", "DE"]

end ImigrAI.Scripts
